import Hypercolor.Lib.Table
import Mathlib.Data.List.Induction

/-!
# Moving the entries of a table to other keys

One move after the other takes an entry out of its key and puts it under another one, unless that has an
entry already.

**`settles_iff`**: the order of the moves does not matter, doing them again changes nothing and no
entry gets lost to another one that moved, exactly if no entry moves to a key that is moved on, and
entries that would meet at a free key are the same there.
-/

namespace Hypercolor.Lib

open List Option AList

variable {K V : Type} [DecidableEq K] {f : K → V → V} {t : Table K V} {ms ms' : List (K × K)} {m : K × K}
  {k : K} {v w : V}

namespace Table

/-- Move the entry at `m.1` to `m.2`, where it becomes `f m.2` of itself. -/
def move (f : K → V → V) (t : Table K V) (m : K × K) : Table K V :=
  match t.lookup m.1 with
  | none => t
  | some v =>
    let rest := t.erase m.1
    if m.2 ∈ rest then rest else rest.insert m.2 (f m.2 v)

def moves (f : K → V → V) (ms : List (K × K)) (t : Table K V) : Table K V := ms.foldl (move f) t

/-- A move that is counted where there is an entry. -/
def counted (f : K → V → V) (state : Table K V × Nat) (m : K × K) : Table K V × Nat :=
  match state.1.lookup m.1 with
  | none => state
  | some _ => (state.1.move f m, state.2 + 1)

lemma move_of_lookup_eq_none (h : t.lookup m.1 = none) : move f t m = t := by
  rw [move, h]

lemma lookup_move (h : t.lookup m.1 = some v) (k : K) :
    (move f t m).lookup k = if k = m.2 ∧ (m.2 = m.1 ∨ m.2 ∉ t) then some (f m.2 v)
      else if k = m.1 then none else t.lookup k := by
  have hm : m.2 ∈ t.erase m.1 ↔ ¬ (m.2 = m.1 ∨ m.2 ∉ t) := by
    rw [mem_erase, not_or, not_not]
  have he : (t.erase m.1).lookup k = if k = m.1 then none else t.lookup k := by
    split_ifs with hk
    · rw [hk, lookup_erase]
    · exact lookup_erase_ne hk
  rw [move, h]
  dsimp only
  by_cases hr : m.2 ∈ t.erase m.1
  · rw [if_pos hr, if_neg fun hk => hm.mp hr hk.2, he]
  · rw [if_neg hr]
    by_cases hk : k = m.2
    · rw [if_pos ⟨hk, not_not.mp (mt hm.mpr hr)⟩, hk, lookup_insert]
    · rw [if_neg fun h => hk h.1, lookup_insert_ne hk, he]

lemma foldl_counted (ms : List (K × K)) (t : Table K V) (n : Nat) :
    (ms.foldl (counted f) (t, n)).1 = moves f ms t ∧
      ((ms.foldl (counted f) (t, n)).2 = 0 → n = 0 ∧ ∀ m ∈ ms, m.1 ∉ t) := by
  induction ms generalizing t n with
  | nil => exact ⟨rfl, fun h => ⟨h, nofun⟩⟩
  | cons m ms ih =>
    rw [foldl_cons, counted, moves, foldl_cons]
    dsimp only
    rcases hl : t.lookup m.1 with _ | v
    · obtain ⟨ht, hc⟩ := ih t n
      rw [move_of_lookup_eq_none hl]
      refine ⟨ht, fun h => ⟨(hc h).1, fun m' hm => ?_⟩⟩
      rcases mem_cons.mp hm with rfl | hm
      · exact lookup_eq_none.mp hl
      · exact (hc h).2 m' hm
    · obtain ⟨ht, hc⟩ := ih (t.move f m) (n + 1)
      exact ⟨ht, fun h => absurd (hc h).1 (Nat.succ_ne_zero n)⟩

/-- Moves from keys of their own, each of which has an entry, are all counted. -/
lemma count_counted (hn : (ms.map Prod.fst).Nodup) (ht : ∀ m ∈ ms, m.1 ∈ t) (n : Nat) :
    (ms.foldl (counted f) (t, n)).2 = n + ms.length := by
  induction ms generalizing t n with
  | nil => rfl
  | cons m ms ih =>
    obtain ⟨v, hl⟩ := exists_lookup (ht m mem_cons_self)
    obtain ⟨hr, hn⟩ := nodup_cons.mp hn
    rw [foldl_cons, counted, hl, length_cons]
    refine (ih hn (fun m' hm => ?_) (n + 1)).trans (Nat.add_right_comm n 1 _)
    rw [← lookup_isSome, lookup_move hl]
    split_ifs with _ he
    · rfl
    · exact absurd (he ▸ mem_map_of_mem hm) hr
    · exact lookup_isSome.mpr (ht m' (mem_cons_of_mem _ hm))

/-- The entry at a key that no move takes away keeps it. -/
lemma lookup_moves_of_stays (h : t.lookup k = some v)
    (hs : ∀ m ∈ ms, m.1 = k → m.2 = k ∧ f k v = v) : (moves f ms t).lookup k = some v := by
  induction ms generalizing t with
  | nil => exact h
  | cons m ms ih =>
    refine ih ?_ fun m' hm => hs m' (mem_cons_of_mem _ hm)
    rcases hl : t.lookup m.1 with _ | w
    · rwa [move_of_lookup_eq_none hl]
    · rw [lookup_move hl]
      have hm := hs m mem_cons_self
      by_cases he : m.1 = k
      · obtain ⟨hk, hf⟩ := hm he
        obtain rfl : v = w := some_inj.mp (h.symm.trans (he ▸ hl))
        rw [if_pos ⟨hk.symm, .inl (hk.trans he.symm)⟩, hk, hf]
      · rw [if_neg, if_neg (Ne.symm he), h]
        rintro ⟨rfl, hn⟩
        exact hn.elim (fun hn => he hn.symm) fun hn => hn (mem_of_lookup h)

/-- Moves that find nothing, or what they would leave, do nothing. -/
lemma lookup_moves_of_idle (h : ∀ m ∈ ms, ∀ v, t.lookup m.1 = some v → m.2 = m.1 ∧ f m.1 v = v) (k : K) :
    (moves f ms t).lookup k = t.lookup k := by
  induction ms generalizing t with
  | nil => rfl
  | cons m ms ih =>
    have hm : ∀ k, (move f t m).lookup k = t.lookup k := fun k => by
      rcases hl : t.lookup m.1 with _ | v
      · rw [move_of_lookup_eq_none hl]
      · obtain ⟨hk, hf⟩ := h m mem_cons_self v hl
        rw [lookup_move hl, hk, hf]
        split_ifs with h₁ h₂
        · rw [h₁.1, hl]
        · exact absurd ⟨h₂, .inl rfl⟩ h₁
        · rfl
    refine (ih fun m' hm' v hv => ?_).trans (hm k)
    rw [hm] at hv
    exact h m' (mem_cons_of_mem _ hm') v hv

/-- An entry is what it would become where it stands. -/
def Labelled (f : K → V → V) (t : Table K V) : Prop := ∀ k v, t.lookup k = some v → f k v = v

lemma Labelled.move (hf : ∀ k v, f k (f k v) = f k v) (h : Labelled f t) (m : K × K) :
    Labelled f (t.move f m) := fun k v hv => by
  rcases hl : t.lookup m.1 with _ | w
  · exact h k v (move_of_lookup_eq_none hl ▸ hv)
  · rw [lookup_move hl] at hv
    split_ifs at hv with hk
    · obtain rfl := some_inj.mp hv
      rw [hk.1, hf]
    · exact h k v hv

lemma Labelled.moves (hf : ∀ k v, f k (f k v) = f k v) (h : Labelled f t) (ms : List (K × K)) :
    Labelled f (t.moves f ms) := by
  induction ms generalizing t with
  | nil => exact h
  | cons m ms ih => exact ih (h.move hf m)

/-- Where an entry moves to, there is one afterwards, if none moves on from there. -/
lemma mem_moves (hf : ∀ k v, f k (f k v) = f k v) (h : Labelled f t) (hn : (ms.map Prod.fst).Nodup)
    (hm : m ∈ ms) (ht : m.1 ∈ t) (hs : ∀ m' ∈ ms, m'.1 = m.2 → m'.2 = m.2) : m.2 ∈ moves f ms t := by
  obtain ⟨a, b, rfl⟩ := append_of_mem hm
  obtain ⟨v, hv⟩ := exists_lookup ht
  have ha : (moves f a t).lookup m.1 = some v := by
    refine lookup_moves_of_stays hv fun m' hm' he => ?_
    rw [map_append, map_cons, nodup_append] at hn
    exact absurd he (hn.2.2 m'.1 (mem_map_of_mem hm') m.1 mem_cons_self)
  have hl := (h.moves hf a).move hf m
  have hp : ∃ w, (move f (moves f a t) m).lookup m.2 = some w := by
    rw [lookup_move ha]
    split_ifs with hc he
    · exact ⟨_, rfl⟩
    · exact absurd ⟨rfl, .inl he⟩ hc
    · exact isSome_iff_exists.mp (lookup_isSome.mpr (by
        by_contra hn
        exact hc ⟨rfl, .inr hn⟩))
  obtain ⟨w, hw⟩ := hp
  have hb : (moves f b (move f (moves f a t) m)).lookup m.2 = some w :=
    lookup_moves_of_stays hw fun m' hm' he =>
      ⟨hs m' (mem_append_right _ (mem_cons_of_mem _ hm')) he, hl _ _ hw⟩
  rw [moves, foldl_append, foldl_cons]
  exact lookup_isSome.mp (by
    show ((moves f b (move f (moves f a t) m)).lookup m.2).isSome
    rw [hb]
    rfl)

/-! ## What the moves come to -/

/-- No entry moves to a key that is moved on, and entries that meet at a free key are the same there. -/
structure Harmless (f : K → V → V) (ms : List (K × K)) (t : Table K V) : Prop where
  unchained : ∀ m ∈ ms, m.1 ∈ t → m.1 ≠ m.2 → ∀ m' ∈ ms, m'.1 = m.2 → m'.2 = m.2
  agreed : ∀ m ∈ ms, ∀ m' ∈ ms, m.2 = m'.2 → m.2 ∉ t → ∀ v v', t.lookup m.1 = some v →
    t.lookup m'.1 = some v' → f m.2 v = f m.2 v'

lemma Harmless.perm (h : Harmless f ms t) (hp : ms'.Perm ms) : Harmless f ms' t where
  unchained m hm ht hn m' hm' := h.unchained m (hp.mem_iff.mp hm) ht hn m' (hp.mem_iff.mp hm')
  agreed m hm m' hm' := h.agreed m (hp.mem_iff.mp hm) m' (hp.mem_iff.mp hm')

/-- Where an entry came from. -/
lemma came_from (hf : ∀ k v, f k (f k v) = f k v) (hl : Labelled f t)
    (hu : ∀ m ∈ ms, m.1 ∈ t → m.1 ≠ m.2 → ∀ m' ∈ ms, m'.1 = m.2 → m'.2 = m.2)
    (h : (moves f ms t).lookup k = some v) : (t.lookup k = some v ∧ ∀ m ∈ ms, m.1 = k → m.2 = k) ∨
      ∃ m ∈ ms, m.1 ≠ k ∧ m.2 = k ∧ ∃ w, t.lookup m.1 = some w ∧ v = f k w := by
  induction ms using reverseRecOn generalizing k v with
  | nil => exact .inl ⟨h, nofun⟩
  | append_singleton ms m ih =>
    have hp := fun {k v} => @ih k v fun a ha ht hne b hb =>
      hu a (mem_append_left _ ha) ht hne b (mem_append_left _ hb)
    have hm : m ∈ ms ++ [m] := mem_append_right _ mem_cons_self
    have hall : (∀ m ∈ ms, m.1 = k → m.2 = k) → (m.1 = k → m.2 = k) →
        ∀ m' ∈ ms ++ [m], m'.1 = k → m'.2 = k := fun ha hb m' hm' => by
      rcases mem_append.mp hm' with hm' | hm'
      · exact ha m' hm'
      · obtain rfl := mem_singleton.mp hm'
        exact hb
    rw [show moves f (ms ++ [m]) t = move f (moves f ms t) m from foldl_concat ..] at h
    rcases hc : (moves f ms t).lookup m.1 with _ | w
    · rw [move_of_lookup_eq_none hc] at h
      rcases hp h with ⟨ht, hs⟩ | ⟨m', hm', hl⟩
      · refine .inl ⟨ht, hall hs fun he => ?_⟩
        rw [← he, hc] at h
        cases h
      · exact .inr ⟨m', mem_append_left _ hm', hl⟩
    · rw [lookup_move hc] at h
      split_ifs at h with hk hk'
      · obtain ⟨rfl, -⟩ := hk
        obtain rfl := some_inj.mp h
        rcases hp hc with ⟨ht, hs⟩ | ⟨m', hm', hne, he, w', hw', rfl⟩
        · by_cases he : m.1 = m.2
          · rw [he] at ht hs
            rw [hl _ _ ht]
            exact .inl ⟨ht, hall hs fun _ => rfl⟩
          · exact .inr ⟨m, hm, he, rfl, w, ht, rfl⟩
        · -- the entry has come to where the move starts, so the move leads nowhere else
          have hs := hu m' (mem_append_left _ hm') (mem_of_lookup hw') (he ▸ hne) m hm he.symm
          refine .inr ⟨m', mem_append_left _ hm', ?_, hs.symm, w', hw', ?_⟩
          · rwa [hs, he]
          · rw [hs, he, hf]
      · rcases hp h with ⟨ht, hs⟩ | ⟨m', hm', hl⟩
        · exact .inl ⟨ht, hall hs fun he => absurd he.symm hk'⟩
        · exact .inr ⟨m', mem_append_left _ hm', hl⟩

/-- **What the moves come to**, where they are harmless. -/
theorem lookup_moves_iff (hf : ∀ k v, f k (f k v) = f k v) (hl : Labelled f t)
    (hn : (ms.map Prod.fst).Nodup) (h : Harmless f ms t) (k : K) (v : V) :
    (moves f ms t).lookup k = some v ↔ (t.lookup k = some v ∧ ∀ m ∈ ms, m.1 = k → m.2 = k) ∨
      k ∉ t ∧ ∃ m ∈ ms, m.2 = k ∧ ∃ w, t.lookup m.1 = some w ∧ v = f k w := by
  constructor
  · intro hv
    rcases came_from hf hl h.unchained hv with hs | ⟨m, hm, hne, rfl, w, hw, rfl⟩
    · exact .inl hs
    · have hs := h.unchained m hm (mem_of_lookup hw) hne
      rcases hk : t.lookup m.2 with _ | w'
      · exact .inr ⟨lookup_eq_none.mp hk, m, hm, rfl, w, hw, rfl⟩
      · have hst := lookup_moves_of_stays hk fun m' hm' he => ⟨hs m' hm' he, hl _ _ hk⟩
        rw [hst] at hv
        exact .inl ⟨hv ▸ rfl, hs⟩
  · rintro (⟨hv, hs⟩ | ⟨hk, m, hm, rfl, w, hw, rfl⟩)
    · exact lookup_moves_of_stays hv fun m hm he => ⟨hs m hm he, hl _ _ hv⟩
    · have ht : m.1 ∈ t := mem_of_lookup hw
      have hne : m.1 ≠ m.2 := fun he => hk (he ▸ ht)
      obtain ⟨v, hv⟩ := exists_lookup (mem_moves hf hl hn hm ht (h.unchained m hm ht hne))
      rcases came_from hf hl h.unchained hv with ⟨hv, -⟩ | ⟨m', hm', -, he, w', hw', rfl⟩
      · exact absurd (mem_of_lookup hv) hk
      · rw [hv, h.agreed m hm m' hm' he.symm hk w w' hw hw']

/-! ## When the order does not matter -/

/-- The moves in any order lead to one table, in which they find nothing left to do. -/
structure Settles (f : K → V → V) (ms : List (K × K)) (t : Table K V) : Prop where
  same : ∀ ms', ms'.Perm ms → ∀ k, (moves f ms' t).lookup k = (moves f ms t).lookup k
  again : ∀ ms' ms'', ms'.Perm ms → ms''.Perm ms → ∀ k,
    (moves f ms'' (moves f ms' t)).lookup k = (moves f ms' t).lookup k
  others : ∀ ms', ms'.Perm ms → ∀ k ∈ t, k ∉ ms.map Prod.fst → (moves f ms' t).lookup k = t.lookup k
  /-- An entry is dropped only for one that was at its target before. -/
  kept : ∀ ms', ms'.Perm ms → ∀ m ∈ ms, ∀ v, t.lookup m.1 = some v → m.2 ∉ t →
    (moves f ms' t).lookup m.2 = some (f m.2 v)

lemma Harmless.settles (hf : ∀ k v, f k (f k v) = f k v) (hl : Labelled f t)
    (hn : (ms.map Prod.fst).Nodup) (h : Harmless f ms t) : Settles f ms t := by
  have hiff := fun {ms'} (hp : List.Perm ms' ms) =>
    lookup_moves_iff hf hl ((hp.map Prod.fst).nodup_iff.mpr hn) (h.perm hp)
  refine ⟨fun ms' hp k => ext fun v => ?_, fun ms' ms'' hp hq => ?_, fun ms' hp k hk hs => ?_,
    fun ms' hp m hm v hv hk => ?_⟩
  · rw [hiff hp, hiff (.refl ms)]
    simp only [hp.mem_iff]
  · refine lookup_moves_of_idle fun m hm v hv => ?_
    have hm := hq.mem_iff.mp hm
    have hv' := (hl.moves hf ms') _ _ hv
    rcases (hiff hp _ _).mp hv with ⟨-, hs⟩ | ⟨-, m', hm', he, w, hw, -⟩
    · exact ⟨hs m (hp.mem_iff.mpr hm) rfl, hv'⟩
    · have hm' := hp.mem_iff.mp hm'
      by_cases hne : m'.1 = m'.2
      · have hs : m' = m := inj_on_of_nodup_map hn hm' hm (hne.trans he)
        rw [← hs, hne]
        exact ⟨rfl, by rw [← hne, hs]; exact hv'⟩
      · exact ⟨(h.unchained m' hm' (mem_of_lookup hw) hne m hm he.symm).trans he, hv'⟩
  · obtain ⟨v, hv⟩ := exists_lookup hk
    rw [hv, hiff hp]
    refine .inl ⟨hv, fun m hm he => absurd ?_ hs⟩
    exact he ▸ mem_map_of_mem (hp.mem_iff.mp hm)
  · rw [hiff hp]
    exact .inr ⟨hk, m, hp.mem_iff.mpr hm, rfl, v, hv, rfl⟩

/-- Moves that lead to one table in any order are harmless. -/
lemma Harmless.of_same (hf : ∀ k v, f k (f k v) = f k v) (hl : Labelled f t)
    (hn : (ms.map Prod.fst).Nodup)
    (h : ∀ ms', ms'.Perm ms → ∀ k, (moves f ms' t).lookup k = (moves f ms t).lookup k) :
    Harmless f ms t := by
  have hu : ∀ m ∈ ms, m.1 ∈ t → m.1 ≠ m.2 → ∀ m' ∈ ms, m'.1 = m.2 → m'.2 = m.2 := by
    intro m hm ht hne m' hm' he
    by_contra hc
    -- with `m'` last its key is free at the end, and with `m'` first the entry of `m` comes to stay
    have hp := perm_cons_erase hm'
    have hnc := (hp.map Prod.fst).nodup_iff.mp hn
    rw [map_cons, nodup_cons] at hnc
    have hlast : (moves f (ms.erase m' ++ [m']) t).lookup m.2 = none := by
      rw [show moves f (ms.erase m' ++ [m']) t = move f (moves f (ms.erase m') t) m' from
        foldl_concat .., ← he]
      rcases hw : (moves f (ms.erase m') t).lookup m'.1 with _ | w
      · rw [move_of_lookup_eq_none hw, hw]
      · rw [lookup_move hw, if_neg fun h => hc (h.1.symm.trans he), if_pos rfl]
    have hfirst : m.2 ∈ moves f (ms.erase m') (move f t m') := by
      obtain ⟨v, hv⟩ := exists_lookup ht
      have hst : (moves f [m'] t).lookup m.1 = some v := lookup_moves_of_stays hv fun x hx hxm => by
        rw [mem_singleton.mp hx, he] at hxm
        exact absurd hxm.symm hne
      refine mem_moves hf (hl.move hf m') hnc.2 ?_ (lookup_isSome.mp ?_) fun x hx hxm => ?_
      · exact (mem_erase_of_ne fun h => hne ((congrArg Prod.fst h).trans he)).mpr hm
      · exact (congrArg isSome hst).trans rfl
      · exact absurd (he ▸ hxm ▸ mem_map_of_mem hx) hnc.1
    have hq : (ms.erase m' ++ [m']).Perm ms := perm_append_singleton _ _ |>.trans hp.symm
    have hs := lookup_isSome.mpr hfirst
    rw [show moves f (ms.erase m') (move f t m') = moves f (m' :: ms.erase m') t from rfl,
      h _ hp.symm, ← h _ hq, hlast] at hs
    cases hs
  refine ⟨hu, fun m hm m' hm' he hk v v' hv hv' => ?_⟩
  have hfirst : ∀ m ∈ ms, m.2 ∉ t → ∀ v, t.lookup m.1 = some v →
      (moves f ms t).lookup m.2 = some (f m.2 v) := by
    intro m hm hk v hv
    have ht : m.1 ∈ t := mem_of_lookup hv
    have hp := perm_cons_erase hm
    rw [← h _ hp.symm]
    have hc : (move f t m).lookup m.2 = some (f m.2 v) := (lookup_move hv _).trans (if_pos ⟨rfl, .inr hk⟩)
    have hs : (moves f (ms.erase m) (move f t m)).lookup m.2 = some (f m.2 v) :=
      lookup_moves_of_stays hc fun x hx hxm =>
        ⟨hu m hm ht (fun hmm => hk (hmm ▸ ht)) x (mem_of_mem_erase hx) hxm, hf _ _⟩
    exact hs
  have hm := hfirst m hm hk v hv
  rw [he, hfirst m' hm' (he ▸ hk) v' hv'] at hm
  rw [he]
  exact (some_inj.mp hm).symm

/-- **When the order does not matter.** -/
theorem settles_iff (hf : ∀ k v, f k (f k v) = f k v) (hl : Labelled f t)
    (hn : (ms.map Prod.fst).Nodup) : Settles f ms t ↔ Harmless f ms t :=
  ⟨fun h => .of_same hf hl hn h.same, fun h => h.settles hf hl hn⟩

end Table

end Hypercolor.Lib
