import Hypercolor.Lib.Table

/-!
# Logs of writes and the maps that stand for them

The latest write of each key of a log, and the finite maps that hold exactly these. A map can be
built from a log (`collect`), and maps of consecutive logs are put together by `merge`, where the
later one wins.
-/

namespace Hypercolor.Lib

open List Option AList

variable {K V : Type} [DecidableEq K]

/-- The last value a log, oldest first, has for a key. -/
def latest : List (K × V) → K → Option V
  | [], _ => none
  | (k', v) :: writes, k => (latest writes k).or (if k' = k then some v else none)

lemma latest_append (writes lt : List (K × V)) (k : K) :
    latest (writes ++ lt) k = (latest lt k).or (latest writes k) := by
  induction writes with
  | nil => simp [latest]
  | cons w writes ih =>
    rw [cons_append, latest, ih, latest, Option.or_assoc]

lemma latest_concat (writes : List (K × V)) (k' k : K) (v : V) :
    latest (writes ++ [(k', v)]) k = if k' = k then some v else latest writes k := by
  rw [latest_append, latest, latest, none_or]
  split
  · rw [some_or]
  · rw [none_or]

variable {writes : List (K × V)} {k : K}

/-- What a log has for a key was written. -/
lemma mem_of_latest {v : V} (h : latest writes k = some v) : (k, v) ∈ writes := by
  induction writes with
  | nil => simp [latest] at h
  | cons wr writes ih =>
    rw [latest] at h
    rcases hl : latest writes k with _ | w
    · simp only [hl, none_or, ite_none_right_eq_some, some.injEq] at h
      obtain ⟨rfl, rfl⟩ := h
      exact mem_cons_self
    · simp only [hl, some_or, some.injEq] at h
      exact mem_cons_of_mem _ (ih (h ▸ hl))

lemma latest_isSome : (latest writes k).isSome ↔ ∃ v, (k, v) ∈ writes := by
  induction writes with
  | nil => simp [latest]
  | cons w writes ih =>
    obtain ⟨k', v'⟩ := w
    rw [latest, isSome_or, Bool.or_eq_true, ih]
    constructor
    · rintro (⟨v, hv⟩ | hs)
      · exact ⟨v, mem_cons_of_mem _ hv⟩
      · obtain rfl : k' = k := by simpa using hs
        exact ⟨v', mem_cons_self⟩
    · rintro ⟨v, hv⟩
      rcases mem_cons.mp hv with hh | ht
      · obtain ⟨rfl, rfl⟩ := Prod.mk.inj hh
        exact .inr (by simp)
      · exact .inl ⟨v, ht⟩

/-- Where all writes to a key agree, their order does not matter. -/
lemma latest_eq_some_iff (h : ∀ v v', (k, v) ∈ writes → (k, v') ∈ writes → v = v') (v : V) :
    latest writes k = some v ↔ (k, v) ∈ writes := by
  refine ⟨mem_of_latest, fun hm => ?_⟩
  obtain ⟨v', hv'⟩ := isSome_iff_exists.mp (latest_isSome.mpr ⟨v, hm⟩)
  rw [hv', h v' v (mem_of_latest hv') hm]

/-- Logs of the same writes, where all to a key agree, have the same latest ones. -/
lemma latest_congr {others : List (K × V)} (hm : ∀ v, (k, v) ∈ writes ↔ (k, v) ∈ others)
    (h : ∀ v v', (k, v) ∈ writes → (k, v') ∈ writes → v = v') : latest writes k = latest others k := by
  refine ext fun v => ?_
  rw [latest_eq_some_iff h, hm,
    latest_eq_some_iff fun v v' hv hv' => h v v' ((hm v).mpr hv) ((hm v').mpr hv')]

/-- The map holds the latest writes of the log, and nothing else. -/
def Covers (t : Table K V) (writes : List (K × V)) : Prop := ∀ k, t.lookup k = latest writes k

/-- One map over another: the entries of `later` win. -/
def merge (t later : Table K V) : Table K V := later ∪ t

lemma lookup_merge (t lt : Table K V) (k : K) :
    (merge t lt).lookup k = (lt.lookup k).or (t.lookup k) := by
  by_cases hk : k ∈ lt
  · rw [merge, lookup_union_left hk]
    obtain ⟨v, hv⟩ := Table.exists_lookup hk
    rw [hv, some_or]
  · rw [merge, lookup_union_right hk, lookup_eq_none.mpr hk, none_or]

/-- A log as a map: later writes replace earlier ones. -/
def collect (writes : List (K × V)) : Table K V :=
  writes.foldl (fun t write => t.insert write.1 write.2) ∅

lemma lookup_foldl_insert (writes : List (K × V)) (t : Table K V) (k : K) :
    (writes.foldl (fun t w => t.insert w.1 w.2) t).lookup k = (latest writes k).or (t.lookup k) := by
  induction writes generalizing t with
  | nil => rw [foldl_nil, latest, none_or]
  | cons w writes ih =>
    obtain ⟨k', v⟩ := w
    rw [foldl_cons, ih, latest, Option.or_assoc]
    by_cases hk : k' = k
    · subst hk
      simp
    · rw [lookup_insert_ne (Ne.symm hk), if_neg hk, none_or]

namespace Covers

variable {t lt : Table K V} {writes laterWrites : List (K × V)}

lemma empty : Covers (∅ : Table K V) [] := fun _ => rfl

theorem collect (writes : List (K × V)) : Covers (Lib.collect writes) writes := fun k => by
  rw [Lib.collect, lookup_foldl_insert]
  simp

/-- Maps of consecutive logs, put together. -/
theorem merge (h : Covers t writes) (hl : Covers lt laterWrites) :
    Covers (Lib.merge t lt) (writes ++ laterWrites) := fun k => by
  rw [lookup_merge, latest_append, h, hl]

/-- Only the log without writes is covered by the empty map. -/
lemma eq_nil (h : Covers t writes) (he : t.keys = []) : writes = [] := by
  rcases writes with _ | ⟨⟨k, v⟩, rest⟩
  · rfl
  · have hs : (latest ((k, v) :: rest) k).isSome := latest_isSome.mpr ⟨v, mem_cons_self⟩
    rw [← h k, AList.lookup_isSome, AList.mem_keys, he] at hs
    simp at hs

end Covers

end Hypercolor.Lib
