import Hypercolor.Persistence.Destination

/-!
# What holds of a destination in every interleaving

**Result.** `Inv.of_reachable`: the invariant `Inv` holds in every state any interleaving reaches.

`Inv` has three parts.

* `Shared` relates the fields the coordinator decides on (`Core`), the file and the admissions.
* `TaskOk` is what a thread may rely on at its program counter, whatever the others do meanwhile.
* `Claims` says who holds what: an attempt runs exactly when `active_generation` names it and no
  two run together, and a `foreground_generation` belongs to a handle that is still live.

A step changes one thread and at most a few fields, so each kind of step has one lemma, and
`Inv.update` puts the parts together.
-/

namespace Hypercolor.Persistence

open List Function DestinationState List.Subset Persistence.Task

/-! ## The fields decisions are made on -/

/-- The part of `DestinationState` that the invariant reads; the rest only reports. -/
structure Core where
  next : Generation
  latest : Generation
  pending : Option PendingRetry
  active : Option Generation
  foreground : Option Generation
  landed : Generation

def DestinationState.core {D : Type} (st : DestinationState D) : Core where
  next := st.nextGeneration
  latest := st.latestAdmittedGeneration
  pending := st.pending
  active := st.activeGeneration
  foreground := st.foregroundGeneration
  landed := st.landedGeneration

variable {D : Type} {g tg : Generation}

variable {st : DestinationState D}

/-- A newer admission becomes the pending write and takes the foreground. -/
lemma DestinationState.recordAdmission_core (pay : Payload) (hg : st.latestAdmittedGeneration < g) :
    (st.recordAdmission g pay).core =
      { st.core with latest := g, pending := some ⟨g, pay⟩, foreground := some g } := by
  rw [recordAdmission, if_neg (not_le.mpr hg)]
  rfl

/-- The bytes a file shows after the replacements `replaced`, newest first. -/
def shown (initial : Option Payload) : List (Generation × Payload) → Option Payload
  | [] => initial
  | newest :: _ => some newest.2

/-- What relates the shared state, the file and the admissions `adm`. -/
structure Shared (initial : Option Payload) (c : Core) (f : File)
    (adm : List (Generation × Payload)) : Prop where
  latest_le : c.latest ≤ c.next
  admitted_le : ∀ x ∈ adm, 0 < x.1 ∧ x.1 ≤ c.latest
  nodup : (adm.map Prod.fst).Nodup
  pending : ∀ x, c.pending = some x →
    x.generation = c.latest ∧ (x.generation, x.payload) ∈ adm ∧ c.landed < c.latest
  settled : c.pending = none → c.active = none ∧ c.foreground = none ∧ c.landed = c.latest ∧
    (0 < c.latest → ∃ p, (c.latest, p) ∈ adm ∧ f.bytes = some p)
  foreground : ∀ g, c.foreground = some g → g = c.latest ∧ c.active ≠ some g
  bytes : f.bytes = shown initial f.replaced
  replaced : ∀ x ∈ f.replaced, x ∈ adm
  sorted : f.replaced.Pairwise fun newer older => older.1 ≤ newer.1
  landed : 0 < c.landed → ∃ p, (c.landed, p) ∈ adm ∧ (c.landed, some p) ∈ f.landings

lemma Shared.landed_le {initial : Option Payload} {c : Core} {f : File}
    {adm : List (Generation × Payload)} (h : Shared initial c f adm) : c.landed ≤ c.latest := by
  rcases hp : c.pending with _ | x
  · exact (h.settled hp).2.2.1.le
  · exact (h.pending x hp).2.2.le

/-! ## What a thread holds and may rely on -/

/-- What a task holds that others must not. -/
inductive Claim where
  | reserved (generation : Generation)
  | owning (generation : Generation)
  | running (generation : Generation)

def Task.claim {D : Type} : Task D → Option Claim
  | .reserved g => some (.reserved g)
  | .handle g _ _ | .beginning g _ _ => some (.owning g)
  | .attempt a => some (.running a.generation)
  | _ => none

@[simp] theorem After.task_claim (after : After) : (after.task : Task D).claim = none := by
  cases after <;> rfl

lemma After.resumed_claim (after : After) (retry : Bool) :
    (if retry then .schedule after else after.task : Task D).claim = none := by
  cases retry with
  | true => rfl
  | false => exact after.task_claim

variable {t : Task D}

lemma Task.claim_reserved (h : t.claim = some (.reserved g)) : t = .reserved g := by
  cases t <;> simp_all [claim]

lemma Task.claim_running (h : t.claim = some (.running g)) : ∃ a, t = .attempt a ∧ a.generation = g := by
  cases t <;> simp_all [claim]

lemma Task.claim_owning (h : t.claim = some (.owning g)) :
    (∃ p behind, t = .handle g p behind) ∨ ∃ p caller, t = .beginning g p caller := by
  cases t <;> simp_all [claim]

variable {a : Attempt D} {s : Stage D}

section Threads

/-- Generation `g`'s own payload was on the file when the file was made durable for it. -/
def Durable (f : File) (adm : List (Generation × Payload)) (g : Generation) : Prop :=
  ∃ p, (g, p) ∈ adm ∧ (g, some p) ∈ f.landings

/-- What an attempt knows about the file at its stage. -/
def StageOk (f : File) (a : Attempt D) : Prop :=
  match a.stage with
  | .barrier => f.bytes = some a.payload
  | .record | .finish .durableWritten =>
      f.bytes = some a.payload ∧ (a.generation, some a.payload) ∈ f.landings
  | _ => True

structure AttemptOk (c : Core) (f : File) (adm : List (Generation × Payload)) (a : Attempt D) :
    Prop where
  active : c.active = some a.generation
  admitted : (a.generation, a.payload) ∈ adm
  landed_le : c.landed ≤ a.generation
  newest : ∀ x ∈ f.replaced, x.1 ≤ a.generation
  stage : StageOk f a

variable (c : Core) (f : File) (adm : List (Generation × Payload))

def AfterOk : After → Prop
  | .waiting g => 0 < g
  | .committed g .written => Durable f adm g
  | .flush began => began ≤ c.latest
  | _ => True

def TaskOk : Task D → Prop
  | .reserved g => 0 < g ∧ g ≤ c.next ∧ g ∉ adm.map Prod.fst
  | .handle g p _ | .beginning g p _ => (g, p) ∈ adm ∧ (g = c.latest → c.foreground = some g)
  | .attempt a => AttemptOk c f adm a
  | .schedule after | .enqueue after => AfterOk c f adm after
  | .waiting g => 0 < g
  | .committed g .written => Durable f adm g
  | .flushStart began => began ≤ c.latest
  | .flushing began target => began ≤ target ∧ target ≤ c.latest
  | .flushed began _ => began ≤ c.landed
  | _ => True

variable {c c' : Core} {f f' : File} {adm adm' : List (Generation × Payload)}

variable {after : After}

lemma AfterOk.task (h : AfterOk c f adm after) : TaskOk (D := D) c f adm after.task := by
  rcases after with _ | _ | _ | _ | _ | ⟨g, _ | _⟩ | began
  all_goals exact h

lemma AfterOk.resumed (h : AfterOk c f adm after) (retry : Bool) :
    TaskOk (D := D) c f adm (if retry then .schedule after else after.task) := by
  cases retry with
  | true => exact h
  | false => exact h.task

/-- What only ever grows. -/
structure Grows (c : Core) (f : File) (adm : List (Generation × Payload)) (c' : Core) (f' : File)
    (adm' : List (Generation × Payload)) : Prop where
  next : c.next ≤ c'.next
  latest : c.latest ≤ c'.latest
  landed : c.landed ≤ c'.landed
  admitted : adm ⊆ adm'
  landings : f.landings ⊆ f'.landings

lemma Durable.mono (hg : Grows c f adm c' f' adm') (h : Durable f adm g) : Durable f' adm' g := by
  obtain ⟨p, hp, hl⟩ := h
  exact ⟨p, hg.admitted hp, hg.landings hl⟩

lemma AfterOk.mono (hg : Grows c f adm c' f' adm') (h : AfterOk c f adm after) :
    AfterOk c' f' adm' after := by
  rcases after with _ | _ | _ | _ | _ | ⟨g, _ | _⟩ | began
  case committed.written => exact Durable.mono hg h
  case flush => exact le_trans h hg.latest
  all_goals exact h

/-- **A thread keeps what it relies on** while the others let things grow, as long as a reservation
stays unused, a handle on the newest admission keeps the foreground and an attempt is
undisturbed. -/
lemma TaskOk.mono (hg : Grows c f adm c' f' adm') (h : TaskOk c f adm t)
    (hr : ∀ g, t.claim = some (.reserved g) → g ∉ adm'.map Prod.fst)
    (ho : ∀ g, t.claim = some (.owning g) → g = c'.latest → c'.foreground = some g)
    (ha : ∀ a, t = .attempt a → AttemptOk c' f' adm' a) : TaskOk c' f' adm' t := by
  cases t with
  | reserved g => exact ⟨h.1, le_trans h.2.1 hg.next, hr g rfl⟩
  | handle g p behind | beginning g p caller => exact ⟨hg.admitted h.1, ho g rfl⟩
  | attempt a => exact ha a rfl
  | schedule after | enqueue after => exact AfterOk.mono hg h
  | committed g oc =>
    cases oc with
    | written => exact Durable.mono hg h
    | superseded => trivial
  | waiting g => exact h
  | flushStart began => exact le_trans h hg.latest
  | flushing began tg => exact ⟨h.1, le_trans h.2 hg.latest⟩
  | flushed began oc => exact le_trans h hg.landed
  | idle | worker | requeue | recheck => trivial

/-- An attempt is undisturbed by a step that leaves it active and the file as it is. -/
lemma AttemptOk.frame (h : AttemptOk c f adm a) (ha : c'.active = c.active)
    (hl : c'.landed = c.landed) (had : adm ⊆ adm') : AttemptOk c' f adm' a := by
  constructor
  · rw [ha]
    exact h.active
  · exact had h.admitted
  · rw [hl]
    exact h.landed_le
  · exact h.newest
  · exact h.stage

/-- An attempt moves to another stage. -/
lemma AttemptOk.restage (h : AttemptOk c f adm a) (hs : StageOk f { a with stage := s }) :
    AttemptOk c f adm { a with stage := s } :=
  ⟨h.active, h.admitted, h.landed_le, h.newest, hs⟩

end Threads

/-! ## The claims of all threads -/

/-- The claims of all threads, against the two fields that name a holder. -/
structure Claims (active foreground : Option Generation) (cl : Nat → Option Claim) : Prop where
  single : ∀ i j g h, cl i = some (.running g) → cl j = some (.running h) → i = j
  active : ∀ g, active = some g → ∃ i, cl i = some (.running g)
  foreground : ∀ g, foreground = some g → ∃ i, cl i = some (.owning g)
  unique : ∀ i j x, cl i = some x → cl j = some x → i = j

namespace Claims

variable {active foreground foreground' : Option Generation} {cl : Nat → Option Claim} {i : Nat}

/-- A thread's claim is replaced by one that is not a running attempt, and was none before. -/
lemma replace (h : Claims active foreground cl) {x : Option Claim}
    (hold : ∀ g, cl i ≠ some (.running g)) (hn : ∀ g, x ≠ some (.running g))
    (hfo : ∀ g, foreground' = some g →
      x = some (.owning g) ∨ (foreground = some g ∧ cl i ≠ some (.owning g)))
    (hu : ∀ y, x = some y → ∀ j, cl j ≠ some y) : Claims active foreground' (update cl i x) := by
  constructor
  · intro j k a b hj hk
    rw [update_apply] at hj hk
    split_ifs at hj hk with h₁ h₂ h₂
    · exact absurd hj (hn a)
    · exact absurd hj (hn a)
    · exact absurd hk (hn b)
    · exact h.single j k a b hj hk
  · intro a ha
    obtain ⟨j, hj⟩ := h.active a ha
    have hne : j ≠ i := by
      rintro rfl
      exact hold a hj
    exact ⟨j, by rw [update_of_ne hne, hj]⟩
  · intro a ha
    rcases hfo a ha with hx | ⟨hf, hi⟩
    · exact ⟨i, by rw [update_self, hx]⟩
    · obtain ⟨j, hj⟩ := h.foreground a hf
      have hne : j ≠ i := by
        rintro rfl
        exact hi hj
      exact ⟨j, by rw [update_of_ne hne, hj]⟩
  · intro j k y hj hk
    rw [update_apply] at hj hk
    split_ifs at hj hk with h₁ h₂ h₂
    · rw [h₁, h₂]
    · exact absurd hk (hu y hj k)
    · exact absurd hj (hu y hk j)
    · exact h.unique j k y hj hk

/-- An attempt starts while none runs. -/
lemma start (h : Claims none foreground cl) (hi : ∀ j g, cl j ≠ some (.running g)) :
    Claims (some g) none (update cl i (some (.running g))) := by
  constructor
  · intro j k a b hj hk
    rw [update_apply] at hj hk
    split_ifs at hj hk with h₁ h₂ h₂
    · rw [h₁, h₂]
    · exact absurd hk (hi k b)
    iterate 2 exact absurd hj (hi j a)
  · rintro a ⟨⟩
    exact ⟨i, update_self ..⟩
  · rintro a ⟨⟩
  · intro j k y hj hk
    rw [update_apply] at hj hk
    split_ifs at hj hk with h₁ h₂ h₂
    · rw [h₁, h₂]
    · cases hj
      exact absurd hk (hi k g)
    · cases hk
      exact absurd hj (hi j g)
    · exact h.unique j k y hj hk

/-- The running attempt ends. -/
lemma finish (h : Claims active foreground cl) (hi : cl i = some (.running g)) :
    Claims none foreground (update cl i none) := by
  constructor
  · intro j k a b hj hk
    rw [update_apply] at hj hk
    split_ifs at hj hk with h₁ h₂
    exact h.single j k a b hj hk
  · rintro a ⟨⟩
  · intro a ha
    obtain ⟨j, hj⟩ := h.foreground a ha
    have hn : j ≠ i := by
      rintro rfl
      rw [hi] at hj
      cases hj
    exact ⟨j, by rw [update_of_ne hn, hj]⟩
  · intro j k y hj hk
    rw [update_apply] at hj hk
    split_ifs at hj hk with h₁ h₂
    exact h.unique j k y hj hk

end Claims

/-! ## The invariant -/

def World.claims (w : World D) (i : Nat) : Option Claim := (w.tasks i).claim

structure Inv (initial : Option Payload) (w : World D) : Prop where
  shared : Shared initial w.st.core w.file w.admitted
  tasks : ∀ i, TaskOk w.st.core w.file w.admitted (w.tasks i)
  claims : Claims w.st.activeGeneration w.st.foregroundGeneration w.claims

namespace Inv

variable {initial : Option Payload} {w w' : World D} {i j : Nat}

lemma new (initial : Option Payload) : Inv initial (World.new (D := D) initial) := by
  constructor
  · constructor
    case settled => exact fun _ => ⟨rfl, rfl, rfl, fun h => absurd h (lt_irrefl 0)⟩
    case landed => exact fun h => absurd h (lt_irrefl 0)
    case bytes => rfl
    all_goals simp [World.new, core, DestinationState.default]
  · intro i
    trivial
  · constructor <;>
      simp [World.new, DestinationState.default, World.claims, claim]

lemma claims_goto (w : World D) (i : Nat) (t : Task D) :
    (w.goto i t).claims = update w.claims i t.claim := by
  funext j
  by_cases hj : j = i
  · subst hj
    simp [World.claims, World.goto]
  · simp [World.claims, World.goto, update_of_ne hj]

/-- Thread `i` moves on to `t` in a state `w'` where the other threads still have what they rely
on. -/
theorem update (t : Task D) (hs : Shared initial w'.st.core w'.file w'.admitted)
    (ht : TaskOk w'.st.core w'.file w'.admitted t)
    (hos : ∀ j, j ≠ i → TaskOk w'.st.core w'.file w'.admitted (w'.tasks j))
    (hc : Claims w'.st.activeGeneration w'.st.foregroundGeneration
      (Function.update w'.claims i t.claim)) : Inv initial (w'.goto i t) := by
  constructor
  · exact hs
  · intro j
    by_cases hj : j = i
    · subst hj
      simpa only [World.goto, update_self] using ht
    · simpa only [World.goto, update_of_ne hj] using hos j hj
  · rw [claims_goto]
    exact hc

/-- **Frame rule**: a step that changes no field decisions are made on, no file and no claim. -/
theorem move (h : Inv initial w) (w' : World D) (hco : w'.st.core = w.st.core) (hf : w'.file = w.file)
    (ha : w'.admitted = w.admitted) (hta : w'.tasks = w.tasks) (t : Task D)
    (ht : TaskOk w.st.core w.file w.admitted t) (hcl : t.claim = (w.tasks i).claim) :
    Inv initial (w'.goto i t) := by
  apply update
  · rw [hco, hf, ha]
    exact h.shared
  · rw [hco, hf, ha]
    exact ht
  · intro j _
    rw [hco, hf, ha, hta]
    exact h.tasks j
  · have hc : w'.claims = w.claims := by
      funext j
      rw [World.claims, World.claims, hta]
    have hs : Function.update w'.claims i t.claim = w.claims := by
      rw [hc, hcl]
      exact update_eq_self i w.claims
    rw [hs, show w'.st.activeGeneration = w.st.activeGeneration from congrArg Core.active hco,
      show w'.st.foregroundGeneration = w.st.foregroundGeneration from congrArg Core.foreground hco]
    exact h.claims

/-- No attempt runs while none is active. -/
lemma no_attempt (h : Inv initial w) (ha : w.st.activeGeneration = none) (j : Nat)
    (a : Attempt D) : w.tasks j ≠ .attempt a := by
  intro hj
  have hok := h.tasks j
  rw [hj] at hok
  rw [show w.st.activeGeneration = some a.generation from hok.active] at ha
  cases ha

/-- No attempt runs beside thread `i`'s. -/
lemma only_attempt (h : Inv initial w) (hi : w.tasks i = .attempt a) (hn : j ≠ i) (b : Attempt D) :
    w.tasks j ≠ .attempt b := by
  intro hj
  apply hn
  apply h.claims.single j i b.generation a.generation
  · rw [World.claims, hj]
    rfl
  · rw [World.claims, hi]
    rfl

/-- What thread `i` relies on. -/
lemma task (h : Inv initial w) (ht : w.tasks i = t) : TaskOk w.st.core w.file w.admitted t := by
  rw [← ht]
  exact h.tasks i

/-! ## One lemma for each kind of step -/

section

variable (h : Inv initial w)
include h

/-- A reserved generation was not admitted yet. -/
lemma reservation (hj : w.claims j = some (.reserved g)) :
    0 < g ∧ g ≤ w.st.nextGeneration ∧ g ∉ w.admitted.map Prod.fst :=
  h.task (claim_reserved hj)

/-- A live handle was admitted, and holds the foreground while it is the newest. -/
lemma owner (hj : w.claims j = some (.owning g)) : (∃ p, (g, p) ∈ w.admitted) ∧
      (g = w.st.latestAdmittedGeneration → w.st.foregroundGeneration = some g) := by
  obtain ⟨p, behind, ht⟩ | ⟨p, caller, ht⟩ := claim_owning hj
  all_goals
    obtain ⟨ha, hf⟩ := h.task ht
    exact ⟨⟨p, ha⟩, hf⟩

/-- The other threads keep what they rely on. -/
theorem others (w' : World D) (hg : Grows w.st.core w.file w.admitted w'.st.core w'.file w'.admitted)
    (ht : w'.tasks = w.tasks)
    (hr : ∀ j, j ≠ i → ∀ g, w.claims j = some (.reserved g) → g ∉ w'.admitted.map Prod.fst)
    (ho : ∀ j, j ≠ i → ∀ g, w.claims j = some (.owning g) → g = w'.st.latestAdmittedGeneration →
      w'.st.foregroundGeneration = some g)
    (ha : ∀ j, j ≠ i → ∀ a, w.tasks j = .attempt a → AttemptOk w'.st.core w'.file w'.admitted a) :
    ∀ j, j ≠ i → TaskOk w'.st.core w'.file w'.admitted (w'.tasks j) := by
  intro j hj
  rw [ht]
  exact TaskOk.mono hg (h.tasks j) (hr j hj) (ho j hj) (ha j hj)

lemma reserve (ht : w.tasks i = .idle) :
    Inv initial ((w.locked w.st.reserve).goto i (.reserved (w.st.nextGeneration + 1))) := by
  have hf : w.st.nextGeneration + 1 ∉ w.admitted.map Prod.fst := by
    intro hm
    obtain ⟨x, hx, hg⟩ := mem_map.mp hm
    have hl : x.1 ≤ w.st.nextGeneration := le_trans (h.shared.admitted_le x hx).2 h.shared.latest_le
    rw [hg] at hl
    exact Nat.not_succ_le_self _ hl
  have hi : w.claims i = none := by
    rw [World.claims, ht]
    rfl
  apply update
  · exact { h.shared with latest_le := Nat.le_succ_of_le h.shared.latest_le }
  · exact ⟨Nat.succ_pos _, le_refl _, hf⟩
  · refine h.others (w.locked w.st.reserve)
      ⟨Nat.le_succ _, le_refl _, le_refl _, refl _, refl _⟩ rfl ?_ ?_ ?_
    · intro j _ g hg
      exact (h.reservation hg).2.2
    · intro j _ g hg
      exact (h.owner hg).2
    · intro j _ a ha
      exact (h.task ha).frame rfl rfl (refl _)
  · apply h.claims.replace
    · simp [hi]
    · rintro g ⟨⟩
    · intro g hg
      exact .inr ⟨hg, by simp [hi]⟩
    · -- every generation reserved so far is at most the old counter
      rintro y ⟨⟩ j hj
      exact Nat.not_succ_le_self _ (h.reservation hj).2.1

lemma unreserve (ht : w.tasks i = .reserved g) : Inv initial (w.goto i .idle) := by
  have hi : w.claims i = some (.reserved g) := by
    rw [World.claims, ht]
    rfl
  apply update
  · exact h.shared
  · trivial
  · intro j _
    exact h.tasks j
  · apply h.claims.replace
    · simp [hi]
    · rintro k ⟨⟩
    · intro k hk
      exact .inr ⟨hk, by simp [hi]⟩
    · rintro y ⟨⟩

/-- A handle is dropped or refused. -/
lemma release (hi : w.claims i = some (.owning g)) (t : Task D)
    (ht : TaskOk w.st.core w.file w.admitted t) (hn : t.claim = none) :
    Inv initial ((w.locked (w.st.releaseForeground g)).goto i t) := by
  by_cases hg : w.st.foregroundGeneration = some g
  · rw [releaseForeground, if_pos hg]
    have hgr : Grows w.st.core w.file w.admitted
        { w.st.core with foreground := none } w.file w.admitted :=
      ⟨le_refl _, le_refl _, le_refl _, refl _, refl _⟩
    apply update
    · refine { h.shared with settled := ?_, foreground := ?_ }
      · intro hp
        obtain ⟨ha, -, hl, hb⟩ := h.shared.settled hp
        exact ⟨ha, rfl, hl, hb⟩
      · rintro k ⟨⟩
    · apply TaskOk.mono hgr ht
      · intro k hk
        rw [hn] at hk
        cases hk
      · intro k hk
        rw [hn] at hk
        cases hk
      · rintro a rfl
        cases hn
    · refine h.others (w.locked { w.st with foregroundGeneration := none }) hgr rfl ?_ ?_ ?_
      · intro j _ k hk
        exact (h.reservation hk).2.2
      · -- another handle on the newest admission would be a second one for `g`
        intro j hj k hk hla
        have hkg := (h.owner hk).2 hla
        rw [hg] at hkg
        cases hkg
        exact absurd (h.claims.unique j i _ hk hi) hj
      · intro j _ a ha
        exact (h.task ha).frame rfl rfl (refl _)
    · rw [hn]
      apply h.claims.replace
      · simp [hi]
      · rintro k ⟨⟩
      · rintro k ⟨⟩
      · rintro y ⟨⟩
  · rw [releaseForeground, if_neg hg]
    apply update
    · exact h.shared
    · exact ht
    · intro j _
      exact h.tasks j
    · rw [hn]
      apply h.claims.replace
      · simp [hi]
      · rintro k ⟨⟩
      · intro k hk
        refine .inr ⟨hk, ?_⟩
        rintro hik
        rw [show w.claims i = some (.owning g) from hi] at hik
        cases hik
        exact hg hk
      · rintro y ⟨⟩

/-- An admission leaves the other threads what they rely on. -/
lemma admit_others (pay : Payload) (ht : w.tasks i = .reserved g) (w' : World D)
    (had : w'.admitted = (g, pay) :: w.admitted) (hfi : w'.file = w.file)
    (hta : w'.tasks = w.tasks) (hn : w'.st.nextGeneration = w.st.nextGeneration)
    (hla : w.st.latestAdmittedGeneration ≤ w'.st.latestAdmittedGeneration)
    (hac : w'.st.activeGeneration = w.st.activeGeneration)
    (hl : w'.st.landedGeneration = w.st.landedGeneration)
    (ho : ∀ k p, (k, p) ∈ w.admitted → (k = w.st.latestAdmittedGeneration →
      w.st.foregroundGeneration = some k) → k = w'.st.latestAdmittedGeneration →
      w'.st.foregroundGeneration = some k) :
    ∀ j, j ≠ i → TaskOk w'.st.core w'.file w'.admitted (w'.tasks j) := by
  have hs : w.admitted ⊆ w'.admitted := by
    rw [had]
    exact subset_cons_self _ _
  refine h.others w' ⟨hn.ge, hla, hl.ge, hs, ?_⟩ hta ?_ ?_ ?_
  · rw [hfi]
    exact refl _
  · intro j hj k hk
    rw [had, map_cons, mem_cons]
    rintro (hkg | hm)
    · -- a generation is reserved once
      apply hj
      apply h.claims.unique j i _ hk
      rw [World.claims, ht, hkg]
      rfl
    · exact (h.reservation hk).2.2 hm
  · intro j _ k hk
    obtain ⟨⟨p, hp⟩, hf⟩ := h.owner hk
    exact ho k p hp hf
  · intro j _ a ha
    rw [hfi]
    exact (h.task ha).frame hac hl hs

lemma admit_claims (ht : w.tasks i = .reserved g) (foreground : Option Generation)
    (hfo : ∀ k, foreground = some k → k = g ∨ w.st.foregroundGeneration = some k) :
    Claims w.st.activeGeneration foreground (Function.update w.claims i (some (.owning g))) := by
  have hi : w.claims i = some (.reserved g) := by
    rw [World.claims, ht]
    rfl
  apply h.claims.replace
  · simp [hi]
  · rintro k ⟨⟩
  · intro k hk
    rcases hfo k hk with rfl | hf
    · exact .inl rfl
    · exact .inr ⟨hf, by simp [hi]⟩
  · rintro y ⟨⟩ j hj
    obtain ⟨⟨p, hp⟩, -⟩ := h.owner hj
    exact (h.task ht).2.2 (mem_map_of_mem hp)

/-- The newest admission takes the place of every earlier one. -/
lemma admit_newer (pay : Payload) (behind : Bool) (ht : w.tasks i = .reserved g)
    (hg : w.st.latestAdmittedGeneration < g) :
    Inv initial ((w.admitPayload g pay).goto i (.handle g pay behind)) := by
  obtain ⟨hpo, hn, hf⟩ := h.task ht
  have hln : w.st.landedGeneration < g := lt_of_le_of_lt h.shared.landed_le hg
  have hc := recordAdmission_core pay hg
  apply update
  · change Shared initial (w.st.recordAdmission g pay).core w.file ((g, pay) :: w.admitted)
    rw [hc]
    constructor
    · exact hn
    · intro x hx
      rcases mem_cons.mp hx with rfl | hx
      · exact ⟨hpo, le_refl _⟩
      · obtain ⟨hx₁, hx₂⟩ := h.shared.admitted_le x hx
        exact ⟨hx₁, (lt_of_le_of_lt hx₂ hg).le⟩
    · exact nodup_cons.mpr ⟨hf, h.shared.nodup⟩
    · rintro x ⟨⟩
      exact ⟨rfl, mem_cons_self, hln⟩
    · rintro ⟨⟩
    · rintro _ ⟨⟩
      refine ⟨rfl, ?_⟩
      intro hac
      -- the active attempt was admitted earlier
      obtain ⟨j, hj⟩ := h.claims.active g hac
      obtain ⟨a, ha, rfl⟩ := claim_running hj
      have hle := (h.shared.admitted_le _ (h.task ha).admitted).2
      exact absurd hg (not_lt.mpr hle)
    · exact h.shared.bytes
    · intro x hx
      exact mem_cons_of_mem _ (h.shared.replaced x hx)
    · exact h.shared.sorted
    · intro hl
      obtain ⟨p, hp, hla⟩ := h.shared.landed hl
      exact ⟨p, mem_cons_of_mem _ hp, hla⟩
  · exact ⟨mem_cons_self, fun _ => congrArg Core.foreground hc⟩
  · refine h.admit_others pay ht (w.admitPayload g pay) rfl rfl rfl (congrArg Core.next hc)
      ?_ (congrArg Core.active hc) (congrArg Core.landed hc) ?_
    · exact hg.le.trans (congrArg Core.latest hc).ge
    · intro k p _ _ hk
      rw [hk, show (w.admitPayload g pay).st.foregroundGeneration = some g from congrArg
        Core.foreground hc,
        show (w.admitPayload g pay).st.latestAdmittedGeneration = g from congrArg Core.latest hc]
  · rw [show (w.admitPayload g pay).st.activeGeneration = w.st.activeGeneration
        from congrArg Core.active hc]
    apply h.admit_claims ht
    intro k hk
    rw [show (w.admitPayload g pay).st.foregroundGeneration = some g from congrArg Core.foreground
      hc] at hk
    cases hk
    exact .inl rfl

/-- An admission that is already behind only joins the history. -/
lemma admit_older (pay : Payload) (behind : Bool) (ht : w.tasks i = .reserved g)
    (hg : g < w.st.latestAdmittedGeneration) :
    Inv initial ((w.admitPayload g pay).goto i (.handle g pay behind)) := by
  obtain ⟨hpo, -, hfr⟩ := h.task ht
  have hst : w.admitPayload g pay = { w with admitted := (g, pay) :: w.admitted } := by
    rw [World.admitPayload, recordAdmission, if_pos hg.le]
  rw [hst]
  have hs : w.admitted ⊆ (g, pay) :: w.admitted := subset_cons_self _ _
  apply update
  · refine { h.shared with
      admitted_le := ?_, nodup := ?_, pending := ?_, settled := ?_, replaced := ?_, landed := ?_ }
    · intro x hx
      rcases mem_cons.mp hx with rfl | hx
      · exact ⟨hpo, hg.le⟩
      · exact h.shared.admitted_le x hx
    · exact nodup_cons.mpr ⟨hfr, h.shared.nodup⟩
    · intro x hx
      obtain ⟨h₁, h₂, h₃⟩ := h.shared.pending x hx
      exact ⟨h₁, hs h₂, h₃⟩
    · intro hp
      obtain ⟨h₁, h₂, h₃, h₄⟩ := h.shared.settled hp
      refine ⟨h₁, h₂, h₃, ?_⟩
      intro hl
      obtain ⟨p, hp, hb⟩ := h₄ hl
      exact ⟨p, hs hp, hb⟩
    · intro x hx
      exact hs (h.shared.replaced x hx)
    · intro hl
      obtain ⟨p, hp, hla⟩ := h.shared.landed hl
      exact ⟨p, hs hp, hla⟩
  · exact ⟨mem_cons_self, fun hlt => absurd hlt hg.ne⟩
  · refine h.admit_others pay ht { w with admitted := (g, pay) :: w.admitted } rfl rfl rfl
      rfl (le_refl _) rfl rfl ?_
    intro k p _ hf
    exact hf
  · apply h.admit_claims ht
    intro k hk
    exact .inr hk

end

variable {pay : Payload}

section

variable (h : Inv initial w)
include h

/-- An attempt starts on the newest admission, while none is active. -/
lemma start (caller : Caller) (hac : w.st.activeGeneration = none)
    (hl : g = w.st.latestAdmittedGeneration) (had : (g, pay) ∈ w.admitted)
    (hpe : w.st.pending.isSome) (hi : ∀ j, j ≠ i → w.claims j ≠ some (.owning g)) :
    Inv initial ((w.locked { w.st with
      activeGeneration := some g
      foregroundGeneration := none }).goto i (.attempt ⟨g, pay, caller, .start⟩)) := by
  have hn : ∀ j k, w.claims j ≠ some (.running k) := by
    intro j k hj
    obtain ⟨a, ha, -⟩ := claim_running hj
    exact h.no_attempt hac j a ha
  apply update
  · refine { h.shared with settled := ?_, foreground := ?_ }
    · intro hp
      rw [show w.st.pending = none from hp] at hpe
      cases hpe
    · rintro k ⟨⟩
  · constructor
    · rfl
    · exact had
    · rw [hl]
      exact h.shared.landed_le
    · intro x hx
      rw [hl]
      exact (h.shared.admitted_le x (h.shared.replaced x hx)).2
    · trivial
  · refine h.others (w.locked { w.st with activeGeneration := some g, foregroundGeneration := none })
      ⟨le_refl _, le_refl _, le_refl _, refl _, refl _⟩ rfl ?_ ?_ ?_
    · intro j _ k hk
      exact (h.reservation hk).2.2
    · intro j hj k hk hkl
      cases (hkl.trans hl.symm : k = g)
      exact absurd hk (hi j hj)
    · intro j _ a ha
      exact absurd ha (h.no_attempt hac j a)
  · have hc := h.claims
    rw [hac] at hc
    exact hc.start hn

/-- The newest generation was admitted. -/
lemma latest_admitted (hpo : 0 < w.st.latestAdmittedGeneration) :
    ∃ p, (w.st.latestAdmittedGeneration, p) ∈ w.admitted := by
  rcases hp : w.st.pending with _ | x
  · obtain ⟨p, ha, -⟩ := (h.shared.settled hp).2.2.2 hpo
    exact ⟨p, ha⟩
  · obtain ⟨hx, ha, -⟩ := h.shared.pending x hp
    rw [hx] at ha
    exact ⟨x.payload, ha⟩

lemma admitPayload (pay : Payload) (behind : Bool) (ht : w.tasks i = .reserved g) :
    Inv initial ((w.admitPayload g pay).goto i (.handle g pay behind)) := by
  rcases lt_trichotomy g w.st.latestAdmittedGeneration with hg | hg | hg
  · exact h.admit_older pay behind ht hg
  · obtain ⟨hpo, -, hf⟩ := h.task ht
    obtain ⟨p, hp⟩ := h.latest_admitted (hg ▸ hpo)
    rw [← hg] at hp
    exact absurd (mem_map_of_mem hp) hf
  · exact h.admit_newer pay behind ht hg

variable {a : Attempt D}

/-- The attempt changes the file, and moves to the stage that says so. -/
lemma touch (ht : w.tasks i = .attempt a) (f : File) (s : Stage D)
    (hln : w.file.landings ⊆ f.landings) (hby : f.bytes = shown initial f.replaced)
    (hr : ∀ x ∈ f.replaced, x ∈ w.admitted)
        (hsr : f.replaced.Pairwise fun newer older => older.1 ≤ newer.1)
    (hne : ∀ x ∈ f.replaced, x.1 ≤ a.generation) (hs : StageOk f { a with stage := s }) :
    Inv initial ({ w with file := f }.stage i a s) := by
  have hok : AttemptOk w.st.core w.file w.admitted a := h.task ht
  apply update
  · refine { h.shared with settled := ?_, bytes := hby, replaced := hr, sorted := hsr, landed := ?_ }
    · -- nothing is settled while an attempt is active
      intro hp
      have hn := (h.shared.settled hp).1
      rw [hok.active] at hn
      cases hn
    · intro hl
      obtain ⟨p, hp, hla⟩ := h.shared.landed hl
      exact ⟨p, hp, hln hla⟩
  · exact ⟨hok.active, hok.admitted, hok.landed_le, hne, hs⟩
  · refine h.others { w with file := f } ⟨le_refl _, le_refl _, le_refl _, refl _, hln⟩ rfl ?_ ?_ ?_
    · intro j _ g hg
      exact (h.reservation hg).2.2
    · intro j _ g hg
      exact (h.owner hg).2
    · intro j hj b hb
      exact absurd hb (h.only_attempt ht hj b)
  · have hsa : Function.update w.claims i (some (Claim.running a.generation)) = w.claims := by
      rw [show some (Claim.running a.generation) = w.claims i by rw [World.claims, ht]; rfl]
      exact update_eq_self i w.claims
    change Claims _ _ (Function.update w.claims i (some (Claim.running a.generation)))
    rw [hsa]
    exact h.claims

lemma rename (ht : w.tasks i = .attempt a) : Inv initial ((w.renamed a).stage i a .barrier) := by
  have hok : AttemptOk w.st.core w.file w.admitted a := h.task ht
  apply h.touch ht
  · exact refl _
  · rfl
  · intro x hx
    rcases mem_cons.mp hx with rfl | hx
    · exact hok.admitted
    · exact h.shared.replaced x hx
  · exact pairwise_cons.mpr ⟨hok.newest, h.shared.sorted⟩
  · intro x hx
    rcases mem_cons.mp hx with rfl | hx
    · exact le_refl _
    · exact hok.newest x hx
  · rfl

/-- The file is made durable while it holds the attempt's payload. -/
lemma land (ht : w.tasks i = .attempt a) (hb : w.file.bytes = some a.payload)
    (hs : s = .record ∨ s = .finish .durableWritten) : Inv initial ((w.landed a).stage i a s) := by
  have hok : AttemptOk w.st.core w.file w.admitted a := h.task ht
  apply h.touch ht
  · exact subset_cons_self _ _
  · exact h.shared.bytes
  · exact h.shared.replaced
  · exact h.shared.sorted
  · exact hok.newest
  · have hl : (a.generation, some a.payload) ∈ (w.landed a).file.landings := by
      rw [← hb]
      exact mem_cons_self
    rcases hs with rfl | rfl
    · exact ⟨hb, hl⟩
    · exact ⟨hb, hl⟩

/-- The running attempt ends, leaving `st` behind. -/
lemma finish_update (ht : w.tasks i = .attempt a) (st : DestinationState D)
    (t : Task D) (hs : Shared initial st.core w.file w.admitted)
    (hn : st.nextGeneration = w.st.nextGeneration)
    (hla : st.latestAdmittedGeneration = w.st.latestAdmittedGeneration)
    (hf : st.foregroundGeneration = w.st.foregroundGeneration)
    (ha : st.activeGeneration = none) (hln : w.st.landedGeneration ≤ st.landedGeneration)
    (hok : TaskOk st.core w.file w.admitted t) (hno : t.claim = none) :
    Inv initial ((w.locked st).goto i t) := by
  apply update
  · exact hs
  · exact hok
  · refine h.others (w.locked st) ⟨hn.ge, hla.ge, hln, refl _, refl _⟩ rfl ?_ ?_ ?_
    · intro j _ g hg
      exact (h.reservation hg).2.2
    · intro j _ g hg hl
      exact hf.trans ((h.owner hg).2 (hl.trans hla))
    · intro j hj b hb
      exact absurd hb (h.only_attempt ht hj b)
  · have hi : w.claims i = some (.running a.generation) := by
      rw [World.claims, ht]
      rfl
    change Claims st.activeGeneration st.foregroundGeneration (Function.update w.claims i t.claim)
    rw [hno, ha, hf]
    exact h.claims.finish hi

/-- The shared part survives an attempt that made nothing durable. -/
lemma finish_failed : Shared initial { w.st.core with active := none } w.file w.admitted := by
  refine { h.shared with settled := ?_, foreground := ?_ }
  · intro hp
    obtain ⟨-, hf, hl, hb⟩ := h.shared.settled hp
    exact ⟨rfl, hf, hl, hb⟩
  · intro g hg
    refine ⟨(h.shared.foreground g hg).1, ?_⟩
    rintro ⟨⟩

/-- The shared part survives an attempt whose payload is durable: either it was still the newest
admission, and everything is settled, or the newer one is still pending. -/
lemma finish_durable (ht : w.tasks i = .attempt a) (hs : a.stage = .finish .durableWritten) :
    Shared initial { w.st.core with
        active := none
        pending := if w.st.pending.map PendingRetry.generation = some a.generation then none
          else w.st.pending
        landed := max w.st.landedGeneration a.generation }
      w.file w.admitted := by
  have hok : AttemptOk w.st.core w.file w.admitted a := h.task ht
  have hst : w.file.bytes = some a.payload ∧ (a.generation, some a.payload) ∈ w.file.landings := by
    have := hok.stage
    rw [StageOk, hs] at this
    exact this
  have hm : max w.st.landedGeneration a.generation = a.generation := max_eq_right hok.landed_le
  have hle := (h.shared.admitted_le _ hok.admitted).2
  obtain ⟨x, hx⟩ : ∃ x, w.st.pending = some x := by
    rcases hp : w.st.pending with _ | x
    · have hn := (h.shared.settled hp).1
      rw [hok.active] at hn
      cases hn
    · exact ⟨x, rfl⟩
  obtain ⟨hxl, hxa, hxn⟩ := h.shared.pending x hx
  rw [hm, hx, Option.map_some]
  refine { h.shared with pending := ?_, settled := ?_, foreground := ?_, landed := ?_ }
  · intro y hy
    by_cases hxg : x.generation = a.generation
    · simp [hxg] at hy
    · simp only [Option.some.injEq, hxg, if_false] at hy
      subst hy
      refine ⟨hxl, hxa, lt_of_le_of_ne hle ?_⟩
      rintro hlt
      exact hxg (hxl.trans hlt.symm)
  · intro hp
    by_cases hxg : x.generation = a.generation
    · have hl : a.generation = w.st.latestAdmittedGeneration := hxg.symm.trans hxl
      refine ⟨rfl, ?_, hl, ?_⟩
      · rcases hf : w.st.foregroundGeneration with _ | k
        · exact hf
        · obtain ⟨hk, hne⟩ := h.shared.foreground k hf
          rw [hok.active] at hne
          exact absurd (congrArg some (hl.trans hk.symm)) hne
      · intro _
        refine ⟨a.payload, ?_, hst.1⟩
        have ha := hok.admitted
        rw [hl] at ha
        exact ha
    · simp [hxg] at hp
  · intro g hg
    refine ⟨(h.shared.foreground g hg).1, ?_⟩
    rintro ⟨⟩
  · intro _
    exact ⟨a.payload, hok.admitted, hst.2⟩

end

variable {res : AtomicWriteCommitResult}

/-- What a caller may conclude from its attempt's result. -/
lemma after_ok (h : Inv initial w) (ht : w.tasks i = .attempt a) (hs : a.stage = .finish res)
    (c : Core) : AfterOk c w.file w.admitted (a.caller.after a.generation res) := by
  have hok : AttemptOk w.st.core w.file w.admitted a := h.task ht
  have hp : 0 < a.generation := (h.shared.admitted_le _ hok.admitted).1
  have hst := hok.stage
  rw [StageOk, hs] at hst
  rcases hc : a.caller with _ | _ | _ | _ <;> cases res
  case commitWait.durableWritten => exact ⟨a.payload, hok.admitted, hst.2⟩
  case commitWait.failedBeforeReplacement => exact hp
  case commitWait.replacementVisibleButNotDurable => exact hp
  all_goals trivial

lemma finish (h : Inv initial w) (ht : w.tasks i = .attempt a) (hs : a.stage = .finish res) :
    Inv initial ((w.locked (w.st.finishAttempt a.generation res a.caller.background)).resume i
      (a.caller.after a.generation res)) := by
  have hok : AttemptOk w.st.core w.file w.admitted a := h.task ht
  have ha := h.after_ok ht hs
  have hac : w.st.activeGeneration = some a.generation := hok.active
  cases res with
  | durableWritten =>
    apply h.finish_update ht <;> simp only [finishAttempt, hac, if_true]
    · exact h.finish_durable ht hs
    · exact le_max_left _ _
    · exact (ha _).resumed _
    · exact After.resumed_claim _ _
  | superseded | failedBeforeReplacement e | replacementVisibleButNotDurable e =>
    apply h.finish_update ht <;> simp only [finishAttempt, hac, if_true]
    · exact h.finish_failed
    · exact le_refl _
    · exact (ha _).resumed _
    · exact After.resumed_claim _ _

/-- The attempt moves to a stage that leaves the file as it is. -/
lemma restage (h : Inv initial w) (ht : w.tasks i = .attempt a) (st : DestinationState D)
    (hc : st.core = w.st.core) (s : Stage D) (hs : StageOk w.file { a with stage := s }) :
    Inv initial ((w.locked st).stage i a s) := by
  apply h.move (w.locked st) hc rfl rfl rfl
  · exact (h.task ht).restage hs
  · rw [ht]
    rfl

variable {t₀ : Task D}

/-- A thread that holds nothing moves on. -/
lemma walk (h : Inv initial w) (ht : w.tasks i = t₀) (hn : t₀.claim = none) (queued : Bool)
    (t : Task D) (hok : TaskOk w.st.core w.file w.admitted t) (hc : t.claim = none) :
    Inv initial ((w.queue queued).goto i t) := by
  apply h.move (w.queue queued) rfl rfl rfl rfl t hok
  rw [ht, hn, hc]

variable {caller : Caller}

/-- A refused commit: a newer admission holds the foreground. -/
lemma begin_refused (h : Inv initial w) (ht : w.tasks i = .beginning g pay caller)
    (hb : w.st.beginForeground g = .refused st) :
    Inv initial ((w.locked st).goto i (caller.after g .superseded).task) := by
  rw [beginForeground] at hb
  split_ifs at hb
  cases hb
  apply h.release
  · rw [World.claims, ht]
    rfl
  · cases caller <;> trivial
  · exact After.task_claim _

lemma begin_started (h : Inv initial w) (ht : w.tasks i = .beginning g pay caller)
    (hb : w.st.beginForeground g = .started st) :
    Inv initial ((w.locked st).goto i (.attempt ⟨g, pay, caller, .start⟩)) := by
  rw [beginForeground] at hb
  split_ifs at hb with hl ha
  have hg : g = w.st.latestAdmittedGeneration := not_not.mp hl
  have hi : w.claims i = some (.owning g) := by
    rw [World.claims, ht]
    rfl
  obtain ⟨had, hf⟩ := h.task ht
  have hfo : w.st.foregroundGeneration = some g := hf hg
  cases hb
  have hac : (w.st.activate g).foregroundGeneration = some g := hfo
  rw [releaseForeground, if_pos hac]
  apply h.start caller (Option.isNone_iff_eq_none.mp ha) hg had
  · -- the newest admission holds the foreground, so its payload is still pending
    rcases hp : w.st.pending with _ | x
    · have hn := (h.shared.settled hp).2.1
      rw [show w.st.core.foreground = some g from hfo] at hn
      cases hn
    · rfl
  · intro j hj how
    exact hj (h.claims.unique j i _ how hi)

lemma retry_start (h : Inv initial w) {x : PendingRetry}
    (hf : w.st.foregroundGeneration = none) (ha : w.st.activeGeneration = none)
    (hp : w.st.pending = some x) : Inv initial ((w.locked (w.st.activate x.generation)).goto i
      (.attempt ⟨x.generation, x.payload, .retry, .start⟩)) := by
  obtain ⟨hl, had, -⟩ := h.shared.pending x hp
  have hs : w.st.activate x.generation =
      { w.st with activeGeneration := some x.generation, foregroundGeneration := none } := by
    rw [← hf]
    rfl
  rw [hs]
  apply h.start .retry ha hl had
  · rw [hp]
    rfl
  · intro j _ how
    have hfg := (h.owner how).2 hl
    rw [hf] at hfg
    cases hfg

/-- What `unsettled` rules out: once it is false the target has landed. -/
lemma landed_of_settled (h : Inv initial w) (ht : tg ≤ w.st.latestAdmittedGeneration)
    (hu : w.st.unsettled tg = false) : tg ≤ w.st.landedGeneration := by
  rw [unsettled, Bool.and_eq_false_iff] at hu
  rcases hu with hu | hu
  · rw [Bool.or_eq_false_iff, Option.isSome_eq_false_iff, Option.isNone_iff_eq_none] at hu
    exact le_of_le_of_eq ht (h.shared.settled hu.1).2.2.1.symm
  · exact not_lt.mp (of_decide_eq_false hu)

/-- A wait that finds its own generation newest and nothing outstanding saw it land. -/
lemma durable_of_settled (h : Inv initial w) (hpo : 0 < g)
    (hg : w.st.latestAdmittedGeneration = g) (hp : w.st.pending = none) :
        Durable w.file w.admitted g := by
  have hla : w.st.landedGeneration = g := (h.shared.settled hp).2.2.1.trans hg
  obtain ⟨p, ha, hl⟩ := h.shared.landed (by
    rw [show w.st.core.landed = g from hla]
    exact hpo)
  rw [show w.st.core.landed = g from hla] at ha hl
  exact ⟨p, ha, hl⟩

/-- A flush returns. -/
lemma flush_done (h : Inv initial w) (ht : w.tasks i = t₀) (hn : t₀.claim = none)
    {began : Generation} (hl : began ≤ tg) (htg : tg ≤ w.st.latestAdmittedGeneration)
    (hu : w.st.unsettled tg = false) (oc : PersistenceFlushOutcome) :
    Inv initial ((w.locked { w.st with lastOutcome := none }).goto i (.flushed began oc)) := by
  apply h.move (w.locked { w.st with lastOutcome := none }) rfl rfl rfl rfl
  · exact hl.trans (h.landed_of_settled htg hu)
  · rw [ht, hn]
    rfl

variable {digest : Payload → D}

/-- **Step lemma.** -/
theorem step (h : Inv initial w) (hsp : World.Step digest w i w') : Inv initial w' := by
  cases hsp with
  | reserve ht => exact h.reserve ht
  | unreserve g ht => exact h.unreserve ht
  | admitPayload g pay behind ht => exact h.admitPayload pay behind ht
  | dropHandle g pay behind ht =>
    apply h.release
    · rw [World.claims, ht]
      rfl
    · trivial
    · rfl
  | commit g pay caller ht hc =>
    obtain ⟨had, hf⟩ := h.task ht
    apply h.move w rfl rfl rfl rfl
    · exact ⟨had, hf⟩
    · rw [ht]
      rfl
  | beginRefused g pay caller st ht hb => exact h.begin_refused ht hb
  | beginStarted g pay caller st ht hb => exact h.begin_started ht hb
  | startSuperseded a ht hs hg | startCurrent a ht hs hg | verifyMiss a durable ht hs
  | stageOk a ht hs | stageFail a e ht hs | replaceSuperseded a ht hs hd hg | renameFail a ht hs
  | barrierFail a ht hs => exact h.restage ht w.st rfl _ trivial
  | verifyHit a ht hs hb => exact h.land ht hb (.inr rfl)
  | replaceOk a ht hs hd hg =>
    -- forgetting the durable digest first is invisible to the invariant
    have h' : Inv initial (w.locked { w.st with durable := none }) := ⟨h.shared, h.tasks, h.claims⟩
    exact h'.rename ht
  | replaceFail a ht hs hd hg | replaceUnlock a ht hs hd =>
    exact h.restage ht { w.st with durable := none } rfl _ trivial
  | renameOk a ht hs => exact h.rename ht
  | barrierOk a ht hs =>
    have hst := (h.task ht).stage
    rw [StageOk, hs] at hst
    exact h.land ht hst (.inl rfl)
  | record a durable ht hs hd =>
    have hst := (h.task ht).stage
    rw [StageOk, hs] at hst
    exact h.restage ht { w.st with durable := durable } rfl _ hst
  | finish a res ht hs => exact h.finish ht hs
  | schedulePending after ht hp =>
    have haf : AfterOk w.st.core w.file w.admitted after := h.task ht
    exact h.walk ht rfl w.queued (.enqueue after) haf rfl
  | scheduleClean after ht hp =>
    have haf : AfterOk w.st.core w.file w.admitted after := h.task ht
    exact h.walk ht rfl w.queued after.task haf.task after.task_claim
  | enqueue after ht =>
    have haf : AfterOk w.st.core w.file w.admitted after := h.task ht
    exact h.walk ht rfl true after.task haf.task after.task_claim
  | pop ht hq => exact h.walk ht rfl false .worker trivial rfl
  | retryBusy ht hb | recheck ht =>
    apply h.walk ht rfl w.queued
    · split_ifs <;> trivial
    · split_ifs <;> rfl
  | retryClean ht hf ha hp | waitShutdown g ht | flushTimeout began tg ht | committedReturn g oc ht
  | flushedReturn began oc ht => exact h.walk ht rfl w.queued .idle trivial rfl
  | retryStart p ht hf ha hp => exact h.retry_start hf ha hp
  | requeue ht => exact h.walk ht rfl true .idle trivial rfl
  | waitSuperseded g ht hg => exact h.walk ht rfl w.queued (.committed g .superseded) trivial rfl
  | waitWritten g ht hg hp ha =>
    have hpo : 0 < g := h.task ht
    exact h.walk ht rfl w.queued (.committed g .written) (h.durable_of_settled hpo hg hp) rfl
  | kick ht => exact h.walk ht rfl w.queued (.schedule .kicked) trivial rfl
  | flush ht => exact h.walk ht rfl w.queued (.schedule (.flush _)) (le_refl _) rfl
  | flushReady began ht hu =>
    have hbe : began ≤ w.st.latestAdmittedGeneration := h.task ht
    exact h.flush_done ht rfl hbe (le_refl _) hu _
  | flushWait began ht hu =>
    have hbe : began ≤ w.st.latestAdmittedGeneration := h.task ht
    exact h.walk ht rfl w.queued (.flushing began _) ⟨hbe, le_refl _⟩ rfl
  | flushDone began tg ht hu =>
    obtain ⟨hbe, htg⟩ := h.task ht
    exact h.flush_done ht rfl hbe htg hu _

/-- **The invariant holds in every interleaving.** -/
theorem of_reachable (h : (World.machine digest initial).Reachable w) : Inv initial w := by
  apply h.invariant
  · rintro _ rfl
    exact new initial
  · intro s j t hs hst
    exact hs.step hst

end Inv

end Hypercolor.Persistence
