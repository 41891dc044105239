import Mathlib.Logic.Basic

/-!
# Programs that call their surroundings

A program is a tree: it returns, or makes a call and goes on with the answer. What a call may answer
and what it does to the world is a `Behaviour`, a relation, so that one program is read under every
behaviour of the code it calls. An execution may be cut after any call, which is a crash.

`Program.Safe` is the rule for such executions: a condition on the world that holds after **every**
call, and a condition on the result and the world in the end. `Safe.exec` is its soundness;
`safe_bind` and `Safe.mono` are how it is established. `Program.Within` is the part of it that no
world takes part in, which calls are made and what is returned, and `Within.safe` brings it back.

`Attempt` is a program that may fail, with the same rules.
-/

namespace Hypercolor.Lib

/-- What a program may call, and what each call is answered with. -/
structure Signature where
  Call : Type
  Answer : Call → Type

/-- A program over a signature. -/
inductive Program (S : Signature) (α : Type) : Type where
  | pure (a : α) : Program S α
  | call (c : S.Call) (next : S.Answer c → Program S α) : Program S α

/-- What each call may answer, and where it may leave the world. -/
def Behaviour (S : Signature) (σ : Type) : Type := (c : S.Call) → σ → S.Answer c → σ → Prop

/-- Which calls a program may make, and what it may count on of their answers. -/
structure Contract (S : Signature) where
  allowed : S.Call → Prop
  answers : (c : S.Call) → S.Answer c → Prop

namespace Program

variable {S : Signature} {σ α β : Type}

/-- One program after another. -/
def bind : Program S α → (α → Program S β) → Program S β
  | .pure a, f => f a
  | .call c next, f => .call c fun b => (next b).bind f

instance : Monad (Program S) where
  pure := .pure
  bind := bind

/-- The program that makes one call. -/
def request (c : S.Call) : Program S (S.Answer c) := .call c .pure

/-- Run under a handler that answers every call. -/
def runWith (handler : (c : S.Call) → σ → S.Answer c × σ) : Program S α → σ → α × σ
  | .pure a, s => (a, s)
  | .call c next, s => (next (handler c s).1).runWith handler (handler c s).2

/-- Executions under a behaviour: the result, or none when the execution was cut, and the world it
leaves. -/
inductive Exec (B : Behaviour S σ) : Program S α → σ → Option α → σ → Prop where
  | cut (p : Program S α) (s : σ) : Exec B p s none s
  | done (a : α) (s : σ) : Exec B (.pure a) s (some a) s
  | call {c : S.Call} {next : S.Answer c → Program S α} {s t u : σ} {b : S.Answer c}
      {r : Option α} : B c s b t → Exec B (next b) t r u → Exec B (.call c next) s r u

/-- `I` after every call, and `Q` of the result in the end. -/
def Safe (B : Behaviour S σ) (I : σ → Prop) (Q : α → σ → Prop) : Program S α → σ → Prop
  | .pure a, s => Q a s
  | .call c next, s => ∀ b t, B c s b t → I t ∧ (next b).Safe B I Q t

variable {B : Behaviour S σ} {I : σ → Prop} {Q R : α → σ → Prop} {s : σ}

/-- **Soundness**: a safe execution, cut or not, leaves a world with `I`, and a result with `Q`. -/
theorem Safe.exec {p : Program S α} {r : Option α} {t : σ} (h : Exec B p s r t) (hI : I s)
    (hp : p.Safe B I Q s) : I t ∧ ∀ a, r = some a → Q a t := by
  induction h with
  | cut p s => exact ⟨hI, nofun⟩
  | done a s =>
    refine ⟨hI, fun b hb => ?_⟩
    cases hb
    exact hp
  | call hB _ ih =>
    obtain ⟨hI', hn⟩ := hp _ _ hB
    exact ih hI' hn

/-- A run under a handler that keeps to the behaviour is an execution. -/
lemma exec_runWith {handler : (c : S.Call) → σ → S.Answer c × σ}
    (hB : ∀ c s, B c s (handler c s).1 (handler c s).2) (p : Program S α) (s : σ) :
    Exec B p s (some (p.runWith handler s).1) (p.runWith handler s).2 := by
  induction p generalizing s with
  | pure a => exact .done a s
  | call c next ih => exact .call (hB c s) (ih _ _)

/-- A weaker condition on the result. -/
theorem Safe.mono {p : Program S α} (hQ : ∀ a t, Q a t → R a t) (hp : p.Safe B I Q s) :
    p.Safe B I R s := by
  induction p generalizing s with
  | pure a => exact hQ a s hp
  | call c next ih =>
    intro b t hB
    obtain ⟨hI, hn⟩ := hp b t hB
    exact ⟨hI, ih b hn⟩

@[simp] theorem safe_pure {a : α} : (pure a : Program S α).Safe B I Q s ↔ Q a s := Iff.rfl

/-- What always holds is kept. -/
lemma safe_of_forall {p : Program S α} (hI : ∀ t, I t) (hQ : ∀ a t, Q a t) : p.Safe B I Q s := by
  induction p generalizing s with
  | pure a => exact hQ a s
  | call c next ih => exact fun b t _ => ⟨hI t, ih b⟩

/-- **Sequencing.** -/
theorem safe_bind {p : Program S α} {f : α → Program S β} {Q : β → σ → Prop} :
    (p >>= f).Safe B I Q s ↔ p.Safe B I (fun a t => (f a).Safe B I Q t) s := by
  show (p.bind f).Safe B I Q s ↔ _
  induction p generalizing s with
  | pure a => exact Iff.rfl
  | call c next ih =>
    exact forall_congr' fun b => forall_congr' fun t => imp_congr_right fun _ =>
      and_congr_right fun _ => ih b

/-- Only allowed calls are made, and under the answers of `K` every result satisfies `Q`. -/
def Within (K : Contract S) (Q : α → Prop) : Program S α → Prop
  | .pure a => Q a
  | .call c next => K.allowed c ∧ ∀ b, K.answers c b → (next b).Within K Q

variable {K : Contract S}

lemma Within.mono {p : Program S α} {Q R : α → Prop} (h : ∀ a, Q a → R a) (hp : p.Within K Q) :
    p.Within K R := by
  induction p with
  | pure a => exact h a hp
  | call c next ih => exact ⟨hp.1, fun b hb => ih b (hp.2 b hb)⟩

lemma Within.bind {p : Program S α} {f : α → Program S β} {Q : β → Prop}
    (hp : p.Within K fun a => (f a).Within K Q) : (p >>= f).Within K Q := by
  show (p.bind f).Within K Q
  induction p with
  | pure a => exact hp
  | call c next ih => exact ⟨hp.1, fun b hb => ih b (hp.2 b hb)⟩

/-- A run under a handler that keeps to the contract. -/
lemma Within.runWith {Q : α → Prop} {p : Program S α} (hp : p.Within K Q)
    {handler : (c : S.Call) → σ → S.Answer c × σ}
    (hK : ∀ c s, K.answers c (handler c s).1) (s : σ) : Q (p.runWith handler s).1 := by
  induction p generalizing s with
  | pure a => exact hp
  | call c next ih => exact ih _ (hp.2 _ (hK c s)) _

/-- **Frame rule**: what no allowed call breaks stands throughout, and the results are as said. -/
theorem Within.safe {J : σ → Prop} {Q : α → Prop} {p : Program S α} (hp : p.Within K Q)
    (hs : ∀ c s b t, K.allowed c → B c s b t → J s → K.answers c b ∧ J t)
    (hI : ∀ t, J t → I t) (hJ : J s) : p.Safe B I (fun a t => Q a ∧ J t) s := by
  induction p generalizing s with
  | pure a => exact ⟨hp, hJ⟩
  | call c next ih =>
    intro b t hB
    obtain ⟨hb, hJ'⟩ := hs c s b t hp.1 hB hJ
    exact ⟨hI t hJ', ih b (hp.2 b hb) hJ'⟩

end Program

/-- A program that may fail. -/
abbrev Attempt (S : Signature) (ε α : Type) : Type := ExceptT ε (Program S) α

namespace Attempt

variable {S : Signature} {σ ε ε' α β : Type}

/-- Make one call, whose answer is the result. -/
def ask (c : S.Call) : Attempt S ε (S.Answer c) := ExceptT.lift (Program.request c)

/-- Continue with a result that may be a failure. -/
def ofExcept (r : Except ε α) : Attempt S ε α := ExceptT.mk (Program.pure r)

/-- `Result::map_err` -/
def mapErr (f : ε → ε') (x : Attempt S ε α) : Attempt S ε' α :=
  ExceptT.mk (x.run >>= fun r => pure (r.mapError f))

/-- The outcome of a program, failure or not, as a value to match on. -/
def outcome (x : Attempt S ε α) : Attempt S ε' (Except ε α) := ExceptT.lift x.run

variable {B : Behaviour S σ} {I : σ → Prop} {Q R : α → σ → Prop} {E F : ε → σ → Prop} {s : σ}

/-- `I` after every call, `Q` of a result and `E` of a failure. -/
def Safe (B : Behaviour S σ) (I : σ → Prop) (Q : α → σ → Prop) (E : ε → σ → Prop)
    (x : Attempt S ε α) (s : σ) : Prop :=
  x.run.Safe B I (fun r t => match r with | .ok a => Q a t | .error e => E e t) s

theorem Safe.mono {x : Attempt S ε α} (h : x.Safe B I Q E s) (hQ : ∀ a t, Q a t → R a t)
    (hE : ∀ e t, E e t → F e t) : x.Safe B I R F s := by
  refine Program.Safe.mono (fun r t hr => ?_) h
  rcases r with e | a
  · exact hE e t hr
  · exact hQ a t hr

@[simp] theorem safe_pure {a : α} : (pure a : Attempt S ε α).Safe B I Q E s ↔ Q a s := Iff.rfl

@[simp] theorem safe_ask {c : S.Call} {Q : S.Answer c → σ → Prop} :
    (ask c : Attempt S ε (S.Answer c)).Safe B I Q E s ↔ ∀ b t, B c s b t → I t ∧ Q b t := Iff.rfl

@[simp] theorem safe_ofExcept {r : Except ε α} : (ofExcept r : Attempt S ε α).Safe B I Q E s ↔
    match r with | .ok a => Q a s | .error e => E e s := Iff.rfl

/-- **Sequencing**: a failure of the first is a failure of both. -/
theorem safe_bind {x : Attempt S ε α} {f : α → Attempt S ε β} {Q : β → σ → Prop} :
    (x >>= f).Safe B I Q E s ↔ x.Safe B I (fun a t => (f a).Safe B I Q E t) E s := by
  refine Program.safe_bind.trans
    ⟨Program.Safe.mono fun r t h => ?_, Program.Safe.mono fun r t h => ?_⟩ <;>
  rcases r with e | a <;> exact h

@[simp] theorem safe_mapErr {f : ε → ε'} {x : Attempt S ε α} {E : ε' → σ → Prop} :
    (mapErr f x).Safe B I Q E s ↔ x.Safe B I Q (fun e => E (f e)) s := by
  refine Program.safe_bind.trans
    ⟨Program.Safe.mono fun r t h => ?_, Program.Safe.mono fun r t h => ?_⟩ <;>
  rcases r with e | a <;> exact h

@[simp] theorem safe_outcome {x : Attempt S ε α} {Q : Except ε α → σ → Prop} {E : ε' → σ → Prop} :
    (outcome x : Attempt S ε' (Except ε α)).Safe B I Q E s ↔
      x.Safe B I (fun a => Q (.ok a)) (fun e => Q (.error e)) s := by
  refine Program.safe_bind.trans
    ⟨Program.Safe.mono fun r t h => ?_, Program.Safe.mono fun r t h => ?_⟩ <;>
  rcases r with e | a <;> exact h

/-- Only allowed calls are made; under the answers of `K` every result satisfies `Q` and every
failure `E`. -/
def Within (K : Contract S) (Q : α → Prop) (E : ε → Prop) (x : Attempt S ε α) : Prop :=
  x.run.Within K fun r => match r with | .ok a => Q a | .error e => E e

section Within

variable {K : Contract S} {Q R : α → Prop} {E F : ε → Prop}

lemma Within.mono {x : Attempt S ε α} (h : x.Within K Q E) (hQ : ∀ a, Q a → R a)
    (hE : ∀ e, E e → F e) : x.Within K R F := by
  refine Program.Within.mono (fun r hr => ?_) h
  rcases r with e | a
  · exact hE e hr
  · exact hQ a hr

@[simp] theorem within_pure {a : α} : (pure a : Attempt S ε α).Within K Q E ↔ Q a := Iff.rfl

@[simp] theorem within_ofExcept {r : Except ε α} : (ofExcept r : Attempt S ε α).Within K Q E ↔
    match r with | .ok a => Q a | .error e => E e := Iff.rfl

@[simp] theorem within_ask {c : S.Call} {Q : S.Answer c → Prop} :
    (ask c : Attempt S ε (S.Answer c)).Within K Q E ↔ K.allowed c ∧ ∀ b, K.answers c b → Q b := Iff.rfl

namespace Within

/-- **Sequencing.** -/
theorem bind {x : Attempt S ε α} {f : α → Attempt S ε β} {Q : β → Prop}
    (h : x.Within K (fun a => (f a).Within K Q E) E) : (x >>= f).Within K Q E := by
  refine Program.Within.bind (Program.Within.mono (fun r hr => ?_) h)
  rcases r with e | a <;> exact hr

lemma ite {c : Prop} [Decidable c] {x y : Attempt S ε α} (hx : c → x.Within K Q E)
    (hy : ¬c → y.Within K Q E) : (if c then x else y).Within K Q E := by
  split
  · next h => exact hx h
  · next h => exact hy h

/-- Sequencing, through what is known of the first result. -/
lemma seq {x : Attempt S ε α} {f : α → Attempt S ε β} {R : β → Prop}
    (hx : x.Within K Q E) (hf : ∀ a, Q a → (f a).Within K R E) : (x >>= f).Within K R E :=
  bind (hx.mono hf fun _ => id)

lemma mapErr {f : ε → ε'} {x : Attempt S ε α} {E : ε' → Prop}
    (h : x.Within K Q (fun e => E (f e))) : (Attempt.mapErr f x).Within K Q E := by
  refine Program.Within.bind (Program.Within.mono (fun r hr => ?_) h)
  rcases r with e | a <;> exact hr

lemma outcome {x : Attempt S ε α} {Q : Except ε α → Prop} {E : ε' → Prop}
    (h : x.Within K (fun a => Q (.ok a)) (fun e => Q (.error e))) :
    (Attempt.outcome x : Attempt S ε' (Except ε α)).Within K Q E := by
  refine Program.Within.bind (Program.Within.mono (fun r hr => ?_) h)
  rcases r with e | a <;> exact hr

/-- **Frame rule** for programs that may fail. -/
theorem safe {J : σ → Prop} {x : Attempt S ε α} (hx : x.Within K Q E)
    (hs : ∀ c s b t, K.allowed c → B c s b t → J s → K.answers c b ∧ J t) (hI : ∀ t, J t → I t)
        (hJ : J s) :
    x.Safe B I (fun a t => Q a ∧ J t) (fun e t => E e ∧ J t) s := by
  refine Program.Safe.mono (fun r t hr => ?_) (Program.Within.safe hx hs hI hJ)
  rcases r with e | a <;> exact hr

end Within

end Within

end Attempt

end Hypercolor.Lib
