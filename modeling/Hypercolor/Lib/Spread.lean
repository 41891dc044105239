import Mathlib.Data.List.Pairwise
import Mathlib.Data.List.Basic
import Mathlib.Data.List.Forall2
import Mathlib.Data.List.Perm.Basic

/-!
# Lists whose members stand apart

`Spread S R l`: every member of `l` satisfies `S`, and any two members at different positions are
related by the symmetric relation `R`. A container whose items must not clash is of this form.

An edit of one item is `Replaces l a b l'`: `l'` has `b` where `l` has `a`, up to order.
**`Replaces.spread_iff`** says what such an edit must respect; the lemmas before it say which list
operations are of that form.
-/

namespace Hypercolor.Lib

open List

variable {α : Type} {S : α → Prop} {R : α → α → Prop} {a b : α} {l l' rest : List α}

/-- Every member satisfies `S` and any two are related by `R`. -/
structure Spread (S : α → Prop) (R : α → α → Prop) (l : List α) : Prop where
  each : ∀ a ∈ l, S a
  apart : l.Pairwise R

variable {f : α → α}

namespace Spread

lemma nil : Spread S R [] := ⟨fun _ h => absurd h not_mem_nil, .nil⟩

lemma sublist (h : Spread S R l) (hl : l'.Sublist l) : Spread S R l' :=
  ⟨fun a ha => h.each a (hl.subset ha), h.apart.sublist hl⟩

lemma map (h : Spread S R l) (hS : ∀ a ∈ l, S a → S (f a))
    (hR : ∀ a ∈ l, ∀ b ∈ l, R a b → R (f a) (f b)) : Spread S R (l.map f) := by
  constructor
  · intro b hb
    obtain ⟨a, ha, rfl⟩ := mem_map.mp hb
    exact hS a ha (h.each a ha)
  · rw [pairwise_map]
    exact h.apart.imp_of_mem fun {a b} ha hb => hR a ha b hb

end Spread

lemma spread_cons : Spread S R (a :: l) ↔ (S a ∧ ∀ b ∈ l, R a b) ∧ Spread S R l := by
  constructor
  · rintro ⟨he, hap⟩
    rw [forall_mem_cons] at he
    rw [pairwise_cons] at hap
    exact ⟨⟨he.1, hap.1⟩, he.2, hap.2⟩
  · rintro ⟨⟨ha, hal⟩, he, hap⟩
    exact ⟨forall_mem_cons.mpr ⟨ha, he⟩, pairwise_cons.mpr ⟨hal, hap⟩⟩

lemma spread_perm (hs : ∀ {a b}, R a b → R b a) (h : l.Perm l') : Spread S R l ↔ Spread S R l' := by
  constructor
  · rintro ⟨he, hap⟩
    exact ⟨fun a ha => he a (h.mem_iff.mpr ha), (h.pairwise_iff hs).mp hap⟩
  · rintro ⟨he, hap⟩
    exact ⟨fun a ha => he a (h.mem_iff.mp ha), (h.pairwise_iff hs).mpr hap⟩

/-! ## Editing one member -/

/-- `l'` is `l` with `b` in place of one occurrence of `a`, up to order; `rest` is what they
share. -/
structure Replaces (l : List α) (a b : α) (l' rest : List α) : Prop where
  old : l.Perm (a :: rest)
  new : l'.Perm (b :: rest)

/-- `iter_mut().find(..)` followed by an assignment. -/
def modifyFirst (p : α → Bool) (f : α → α) : List α → List α
  | [] => []
  | a :: as => if p a then f a :: as else a :: modifyFirst p f as

variable {β : Type} {p : α → Bool} {g : α → β}

lemma map_modifyFirst_of_find? (h : ∀ a, l.find? p = some a → g (f a) = g a) :
    (modifyFirst p f l).map g = l.map g := by
  induction l with
  | nil => rfl
  | cons x xs ih =>
    rw [modifyFirst]
    split_ifs with hp
    · rw [map_cons, map_cons, h x (find?_cons_of_pos hp)]
    · rw [map_cons, map_cons, ih fun a ha => h a ?_]
      rwa [find?_cons_of_neg hp]

/-- An edit of the first member keeps an image of the list only if it keeps that member's. -/
lemma map_modifyFirst_eq_iff :
    (modifyFirst p f l).map g = l.map g ↔ ∀ a, l.find? p = some a → g (f a) = g a := by
  refine ⟨fun h a ha => ?_, map_modifyFirst_of_find?⟩
  induction l with
  | nil => cases ha
  | cons x xs ih =>
    rw [modifyFirst] at h
    split_ifs at h with hp
    · rw [find?_cons_of_pos hp] at ha
      cases ha
      exact (cons.inj h).1
    · rw [find?_cons_of_neg hp] at ha
      exact ih (cons.inj h).2 ha

lemma map_modifyFirst (h : ∀ a, p a → g (f a) = g a) : (modifyFirst p f l).map g = l.map g :=
  map_modifyFirst_of_find? fun a ha => h a (find?_some ha)

lemma map_modify (h : ∀ a, g (f a) = g a) (i : Nat) : (l.modify i f).map g = l.map g := by
  induction l generalizing i with
  | nil => rw [modify_nil]
  | cons x xs ih =>
    cases i with
    | zero => rw [modify_zero_cons, map_cons, map_cons, h]
    | succ i => rw [modify_succ_cons, map_cons, map_cons, ih]

/-- Every member of either list has a partner in the other. -/
structure Partners (R : α → α → Prop) (l l' : List α) : Prop where
  forth : ∀ a ∈ l, ∃ b ∈ l', R a b
  back : ∀ b ∈ l', ∃ a ∈ l, R a b

lemma Partners.of_forall₂ (h : List.Forall₂ R l l') : Partners R l l' := by
  induction h with
  | nil => exact ⟨nofun, nofun⟩
  | cons ha _ ih =>
    refine ⟨fun x hx => ?_, fun y hy => ?_⟩
    · rcases mem_cons.mp hx with rfl | hx
      · exact ⟨_, mem_cons_self, ha⟩
      · obtain ⟨y, hy, hxy⟩ := ih.forth x hx
        exact ⟨y, mem_cons_of_mem _ hy, hxy⟩
    · rcases mem_cons.mp hy with rfl | hy
      · exact ⟨_, mem_cons_self, ha⟩
      · obtain ⟨x, hx, hxy⟩ := ih.back y hy
        exact ⟨x, mem_cons_of_mem _ hx, hxy⟩

lemma Partners.of_perm (hr : ∀ a, R a a) (h : l.Perm l') : Partners R l l' :=
  ⟨fun a ha => ⟨a, h.mem_iff.mp ha, hr a⟩, fun b hb => ⟨b, h.mem_iff.mpr hb, hr b⟩⟩

lemma Partners.trans {l'' : List α} (ht : ∀ {a b c}, R a b → R b c → R a c)
    (h : Partners R l l') (h' : Partners R l' l'') : Partners R l l'' where
  forth a ha := by
    obtain ⟨b, hb, hab⟩ := h.forth a ha
    obtain ⟨c, hc, hbc⟩ := h'.forth b hb
    exact ⟨c, hc, ht hab hbc⟩
  back c hc := by
    obtain ⟨b, hb, hbc⟩ := h'.back c hc
    obtain ⟨a, ha, hab⟩ := h.back b hb
    exact ⟨a, ha, ht hab hbc⟩

lemma forall₂_modifyFirst (hr : ∀ a, R a a) (he : ∀ a, l.find? p = some a → R a (f a)) :
    List.Forall₂ R l (modifyFirst p f l) := by
  induction l with
  | nil => exact .nil
  | cons x xs ih =>
    rw [modifyFirst]
    split_ifs with hp
    · refine .cons (he x ?_) (forall₂_same.mpr fun a _ => hr a)
      exact find?_cons_of_pos hp
    · refine .cons (hr x) (ih fun a ha => he a ?_)
      rwa [find?_cons_of_neg hp]

lemma forall₂_modify (i : Nat) (hr : ∀ a, R a a) (he : ∀ a, R a (f a)) :
    List.Forall₂ R l (l.modify i f) := by
  induction l generalizing i with
  | nil =>
    rw [modify_nil]
    exact .nil
  | cons x xs ih =>
    cases i with
    | zero => exact .cons (he x) (forall₂_same.mpr fun a _ => hr a)
    | succ i =>
      exact .cons (hr x) (ih i)

/-- Where a `find?` succeeds, editing the first hit replaces what it found. -/
lemma replaces_modifyFirst (f : α → α) (h : l.find? p = some a) :
    Replaces l a (f a) (modifyFirst p f l) (l.eraseP p) := by
  induction l with
  | nil => cases h
  | cons x xs ih =>
    rw [find?_cons] at h
    cases hp : p x with
    | true =>
      rw [hp] at h
      cases h
      rw [modifyFirst, if_pos hp, eraseP_cons_of_pos hp]
      exact ⟨.refl _, .refl _⟩
    | false =>
      rw [hp] at h
      rw [modifyFirst, if_neg (by rw [hp]; exact Bool.false_ne_true),
        eraseP_cons_of_neg (by rw [hp]; exact Bool.false_ne_true)]
      obtain ⟨hold, hn⟩ := ih h
      exact ⟨(hold.cons x).trans (.swap _ _ _), (hn.cons x).trans (.swap _ _ _)⟩

lemma replaces_modify {i : Nat} (f : α → α) (h : l[i]? = some a) :
    Replaces l a (f a) (l.modify i f) (l.eraseIdx i) := by
  induction l generalizing i with
  | nil => cases h
  | cons x xs ih =>
    cases i with
    | zero =>
      cases h
      exact ⟨.refl _, .refl _⟩
    | succ i =>
      obtain ⟨hold, hn⟩ := ih h
      exact ⟨(hold.cons x).trans (.swap _ _ _), (hn.cons x).trans (.swap _ _ _)⟩

/-- Editing every hit is editing the first, where no two members are hits. -/
lemma replaces_map (f : α → α) (hon : l.Pairwise fun x y => ¬ (p x ∧ p y)) (h : l.find? p = some a) :
    Replaces l a (f a) (l.map fun x => if p x then f x else x) (l.eraseP p) := by
  induction l with
  | nil => cases h
  | cons x xs ih =>
    rw [pairwise_cons] at hon
    rw [find?_cons] at h
    rw [map_cons]
    cases hp : p x with
    | true =>
      rw [hp] at h
      cases h
      have hr : (xs.map fun y => if p y then f y else y) = xs := by
        conv_rhs => rw [← map_id xs]
        apply map_congr_left
        intro y hy
        exact if_neg fun hpy => hon.1 y hy ⟨hp, hpy⟩
      rw [hr, eraseP_cons_of_pos hp]
      exact ⟨.refl _, .refl _⟩
    | false =>
      rw [hp] at h
      rw [if_neg Bool.false_ne_true, eraseP_cons_of_neg (by rw [hp]; exact Bool.false_ne_true)]
      obtain ⟨hold, hn⟩ := ih hon.2 h
      exact ⟨(hold.cons x).trans (.swap _ _ _), (hn.cons x).trans (.swap _ _ _)⟩

namespace Replaces

theorem mem (h : Replaces l a b l' rest) : a ∈ l := h.old.mem_iff.mpr mem_cons_self

lemma subset (h : Replaces l a b l' rest) {c : α} (hc : c ∈ rest) : c ∈ l :=
  h.old.mem_iff.mpr (mem_cons_of_mem a hc)

/-- The members that are left alone, by a property the edited one lacks. -/
lemma mem_rest_iff (h : Replaces l a b l' rest) {q : α → Prop} (ha : ¬ q a)
    (hr : ∀ c ∈ rest, q c) {c : α} : c ∈ rest ↔ c ∈ l ∧ q c := by
  constructor
  · exact fun hc => ⟨h.subset hc, hr c hc⟩
  · rintro ⟨hc, hq⟩
    rcases mem_cons.mp (h.old.mem_iff.mp hc) with rfl | hc
    · exact absurd hq ha
    · exact hc

/-- What the edited member must respect. -/
theorem spread_iff (h : Replaces l a b l' rest) (hs : ∀ {a b}, R a b → R b a)
    (hl : Spread S R l) : Spread S R l' ↔ S b ∧ ∀ c ∈ rest, R b c := by
  rw [spread_perm hs h.new, spread_cons]
  rw [spread_perm hs h.old, spread_cons] at hl
  exact and_iff_left hl.2

/-- The members that are left alone were apart from the one that is edited. -/
theorem apart (h : Replaces l a b l' rest) (hs : ∀ {a b}, R a b → R b a) (hl : Spread S R l)
    (hc : c ∈ rest) : R a c := by
  rw [spread_perm hs h.old, spread_cons] at hl
  exact hl.1.2 c hc

/-- An edit that needs no more room than there was. -/
theorem spread (h : Replaces l a b l' rest) (hs : ∀ {a b}, R a b → R b a)
    (hl : Spread S R l) (hb : S a → S b) (hr : ∀ c, R a c → R b c) : Spread S R l' := by
  rw [h.spread_iff hs hl]
  exact ⟨hb (hl.each a h.mem), fun c hc => hr c (h.apart hs hl hc)⟩

end Replaces

end Hypercolor.Lib
