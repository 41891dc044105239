import Mathlib.Data.Finset.Basic
import Mathlib.Data.List.Basic

/-!
# Replaying edges

Events some of which are edges: they begin or end the hold of something. Replaying them adds what
begins and removes what ends.

* **`mem_replay`**: what is held at the end is decided by the last edge of its own.
* `Tells held events held'`: the events lead from one set of holds to the other, and the edges of
  each hold alternate on the way. These compose (`Tells.append`).
-/

namespace Hypercolor.Lib

open List

variable {ε α : Type} [DecidableEq α] {edge : ε → Option (α × Bool)} {held held' held'' : Finset α}
  {es es' : List ε} {a : α}

/-- One edge: a hold begins or ends. -/
def turn (held : Finset α) (e : α × Bool) : Finset α :=
  if e.2 then insert e.1 held else held.erase e.1

/-- What is held after the events. -/
def replay (edge : ε → Option (α × Bool)) (held : Finset α) (events : List ε) : Finset α :=
  (events.filterMap edge).foldl turn held

/-- The edges of one hold, in order. -/
def edgesOf (edge : ε → Option (α × Bool)) (a : α) (events : List ε) : List Bool :=
  events.filterMap fun event => (edge event).bind fun e => if e.1 = a then some e.2 else none

@[simp] theorem replay_nil : replay edge held [] = held := rfl

@[simp] theorem edgesOf_nil : edgesOf edge a [] = [] := rfl

@[simp] theorem replay_append : replay edge held (es ++ es') = replay edge (replay edge held es) es' := by
  simp [replay, filterMap_append]

@[simp] theorem edgesOf_append :
    edgesOf edge a (es ++ es') = edgesOf edge a es ++ edgesOf edge a es' := by
  simp [edgesOf, filterMap_append]

lemma replay_cons (e : ε) : replay edge held (e :: es) =
    replay edge (((edge e).map (turn held)).getD held) es := by
  cases h : edge e <;> simp [replay, h]

lemma edgesOf_singleton {ev : ε} {e : α × Bool} (h : edge ev = some e) :
    edgesOf edge a [ev] = if e.1 = a then [e.2] else [] := by
  simp [edgesOf, h, filterMap_cons]
  split <;> simp_all

lemma mem_turn {e : α × Bool} : a ∈ turn held e ↔ if e.1 = a then e.2 else a ∈ held := by
  obtain ⟨b, begins⟩ := e
  cases begins <;> simp [turn] <;> grind

/-- **The last edge decides.** -/
theorem mem_replay : a ∈ replay edge held es ↔ (edgesOf edge a es).getLast?.getD (decide (a ∈ held)) := by
  induction es using reverseRecOn with
  | nil => simp
  | append_singleton es ev ih =>
    rw [replay_append, edgesOf_append, replay_cons, replay_nil]
    cases h : edge ev with
    | none => simpa [edgesOf, h] using ih
    | some e =>
      rw [edgesOf_singleton h, Option.map_some, Option.getD_some, mem_turn]
      by_cases how : e.1 = a
      · simp [how]
      · simpa [how] using ih

/-- Events that only end holds. -/
lemma getLast?_edgesOf_ends (h : ∀ ev ∈ es, ∀ e, edge ev = some e → e.2 = false)
    (b : Bool) : (edgesOf edge a es).getLast?.getD b =
      (b && !(es.any fun ev => decide (edge ev = some (a, false)))) := by
  induction es using reverseRecOn with
  | nil => simp
  | append_singleton es ev ih =>
    have ih := ih fun ev hev => h ev (mem_append_left _ hev)
    rw [edgesOf_append, any_append]
    cases he : edge ev with
    | none => simpa [edgesOf, he] using ih
    | some e =>
      have hen := h ev (mem_append_right _ mem_cons_self) e he
      rw [edgesOf_singleton he]
      by_cases how : e.1 = a
      · simp [how, hen, he, Prod.ext_iff]
      · simpa [how, he, Prod.ext_iff] using ih

/-! ## Alternating edges -/

/-- Edges in turn, the first of them as given. -/
def Alternates : Bool → List Bool → Prop
  | _, [] => True
  | next, begins :: edges => begins = next ∧ Alternates (!next) edges

instance : (next : Bool) → (edges : List Bool) → Decidable (Alternates next edges)
  | _, [] => isTrue trivial
  | next, begins :: edges =>
    have := instDecidableAlternates (!next) edges
    inferInstanceAs (Decidable (begins = next ∧ Alternates (!next) edges))

lemma alternates_append {nx : Bool} {edges edges' : List Bool} : Alternates nx (edges ++ edges') ↔
      Alternates nx edges ∧ Alternates ((edges.getLast?.map not).getD nx) edges' := by
  induction edges generalizing nx with
  | nil => simp [Alternates]
  | cons begins edges ih =>
    rw [cons_append, Alternates, Alternates, ih, and_assoc]
    refine and_congr_right ?_
    cases h : edges.getLast? <;> simp_all [getLast?_cons]

/-- The events lead from what is held to what is held, and each of their edges changes it. -/
structure Tells (edge : ε → Option (α × Bool)) (held : Finset α) (events : List ε)
    (held' : Finset α) : Prop where
  replay : replay edge held events = held'
  alternates : ∀ a, Alternates (decide (a ∉ held)) (edgesOf edge a events)

namespace Tells

lemma nil : Tells edge held [] held := ⟨rfl, fun _ => trivial⟩

theorem begins {e : ε} (h : edge e = some (a, true)) (hn : a ∉ held) :
    Tells edge held [e] (insert a held) where
  replay := by simp [replay_cons, h, turn]
  alternates b := by
    rw [edgesOf_singleton h]
    split
    · subst b
      simp [Alternates, hn]
    · trivial

theorem ends {e : ε} (h : edge e = some (a, false)) (hh : a ∈ held) :
    Tells edge held [e] (held.erase a) where
  replay := by simp [replay_cons, h, turn]
  alternates b := by
    rw [edgesOf_singleton h]
    split
    · subst b
      simp [Alternates, hh]
    · trivial

/-- **One after the other.** -/
theorem append (h : Tells edge held es held') (h' : Tells edge held' es' held'') :
    Tells edge held (es ++ es') held'' where
  replay := by rw [replay_append, h.replay, h'.replay]
  alternates a := by
    rw [edgesOf_append, alternates_append]
    refine ⟨h.alternates a, ?_⟩
    have hm := @mem_replay _ _ _ edge held es a
    have hn := h'.alternates a
    rw [h.replay] at hm
    cases hl : (edgesOf edge a es).getLast? with
    | none => simpa [hl, hm] using hn
    | some ls => cases ls <;> simpa [hl, hm] using hn

/-- Events that end holds, one each. -/
lemma endAll {cs : List α} (h : es.map edge = cs.map fun a => some (a, false))
    (hnd : cs.Nodup) (hh : ∀ a ∈ cs, a ∈ held) : Tells edge held es (held \ cs.toFinset) := by
  induction cs generalizing held es with
  | nil =>
    obtain rfl := map_eq_nil_iff.mp h
    simpa using nil
  | cons a cs ih =>
    obtain ⟨e, rest, rfl, hev, hr⟩ := map_eq_cons_iff.mp h
    obtain ⟨hn, hnd⟩ := nodup_cons.mp hnd
    have he := ends hev (hh a mem_cons_self)
    have hre : ∀ b ∈ cs, b ∈ held.erase a := by
      intro b hb
      exact Finset.mem_erase.mpr ⟨ne_of_mem_of_not_mem hb hn, hh b (mem_cons_of_mem _ hb)⟩
    have hos := ih hr hnd hre
    have hs : held.erase a \ cs.toFinset = held \ (a :: cs).toFinset := by
      ext b
      simp only [Finset.mem_sdiff, Finset.mem_erase, mem_toFinset, mem_cons]
      tauto
    rw [← hs]
    exact he.append hos

/-- From nothing held, every hold begins first. -/
lemma alternates_empty (h : Tells edge ∅ es held') (a : α) : Alternates true (edgesOf edge a es) := by
  simpa using h.alternates a

end Tells

end Hypercolor.Lib
