/-!
# Inverting computations that can fail

A success of a chain of `Except` binds is a success of every link. These rules peel such a chain
apart from the front, so that a proof about a fallible function never unfolds the monad.
-/

namespace Hypercolor.Lib

open List

variable {ε α β : Type}

/-- A successful bind is a successful first computation and a successful continuation. -/
theorem bind_eq_ok {x : Except ε α} {f : α → Except ε β} {b : β} :
    (x >>= f) = .ok b ↔ ∃ a, x = .ok a ∧ f a = .ok b := by
  cases x with
  | error e => exact ⟨nofun, nofun⟩
  | ok a => exact ⟨fun h => ⟨a, rfl, h⟩, fun ⟨_, h, hf⟩ => by cases h; exact hf⟩

/-- A bind after a known success is its continuation. -/
theorem bind_of_eq_ok {x : Except ε α} {f : α → Except ε β} {a : α} (h : x = .ok a) :
    (x >>= f) = f a := by
  rw [h]
  rfl

/-- A check that fails when its condition holds. -/
def failIf (bad : Bool) (error : ε) : Except ε Unit :=
  if bad then .error error else .ok ()

@[simp] theorem failIf_eq_ok {bad : Bool} {error : ε} : failIf bad error = .ok () ↔ bad = false := by
  cases bad <;> simp [failIf]

/-- A check followed by the rest. -/
theorem check_eq_ok {x : Except ε Unit} {y : Except ε β} {b : β} :
    (x >>= fun _ => y) = .ok b ↔ x = .ok () ∧ y = .ok b := by
  rw [bind_eq_ok]
  exact ⟨fun ⟨_, hx, hy⟩ => ⟨hx, hy⟩, fun ⟨hx, hy⟩ => ⟨(), hx, hy⟩⟩

/-- A traversal succeeds where every element does, with the results in order. -/
theorem mapM_eq_ok {f : α → Except ε β} {l : List α} {ys : List β} :
    l.mapM f = .ok ys ↔ l.map f = ys.map .ok := by
  induction l generalizing ys with
  | nil =>
    rw [mapM_nil, map_nil, eq_comm (a := ([] : List (Except ε β))), map_eq_nil_iff]
    exact ⟨fun h => by cases h; rfl, fun h => by rw [h]; rfl⟩
  | cons a l ih =>
    rw [mapM_cons, bind_eq_ok]
    constructor
    · rintro ⟨b, hb, h⟩
      obtain ⟨bs, hbs, ⟨⟩⟩ := bind_eq_ok.mp h
      rw [map_cons, map_cons, hb, ih.mp hbs]
    · intro h
      rcases ys with _ | ⟨b, bs⟩
      · simp at h
      · rw [map_cons, map_cons, cons.injEq] at h
        exact ⟨b, h.1, bind_eq_ok.mpr ⟨bs, ih.mpr h.2, rfl⟩⟩

/-- A computation that does not end in `error`. -/
def Avoids (error : ε) (x : Except ε α) : Prop := x ≠ .error error

theorem Avoids.ok {error : ε} (a : α) : Avoids error (.ok a) := nofun

/-- An error that is passed on. -/
theorem Avoids.cast {error e : ε} (h : Avoids error (.error e : Except ε α)) :
    Avoids error (.error e : Except ε β) :=
  fun he => h (by cases he; rfl)

/-- A bind avoids what its parts avoid. -/
theorem Avoids.bind {error : ε} {x : Except ε α} {f : α → Except ε β} (hx : Avoids error x)
    (hf : ∀ a, x = .ok a → Avoids error (f a)) : Avoids error (x >>= f) := by
  cases x with
  | error e => exact fun h => hx (by cases h; rfl)
  | ok a => exact hf a rfl

end Hypercolor.Lib
