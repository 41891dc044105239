import Mathlib.Algebra.Order.Ring.Nat
import Mathlib.Data.List.Nodup
import Mathlib.Tactic.SplitIfs

/-!
# The Studio journal

`pages/studio/history.rs`: one chronological journal of a scene's edits, with a cursor between the
applied ones and those undone. A place whose write went out without an answer shows as
`StudioEdit.unresolved` until it settles.

* The definitions are the methods of `StudioJournal`, on a list of entries with a cursor.
* `StudioJournal.Cut` reads a journal as what is `before` the cursor and what is `after` it. Each
  method has one lemma on a cut, by where the place it is about stands, so that nothing below
  computes with indexes.
* A zone is named by the rendering of its id. Outputs, layout snapshots, layer stacks and patch
  requests are never looked into, so they are whatever `Kinds` says. `LAST_ENTRY` is an argument; it
  counts up for the life of the page and does not come to wrap.
-/

namespace Hypercolor.Studio

open List

/-! ## Edits -/

/-- The rendering of a `ZoneId`. -/
abbrev ZoneId := String

/-- What an edit carries without looking into it. -/
structure Kinds where
  Output : Type
  Snapshot : Type
  Layers : Type
  Level : Type
  Patch : Type

/-- Nothing at all, where nothing depends on it. -/
def blank : Kinds := ⟨Unit, Unit, Unit, Unit, Unit⟩

variable {K : Kinds}

/-- `MemberState` -/
structure MemberState (K : Kinds) where
  zoneId : ZoneId
  output : K.Output
  index : Nat

/-- `MemberEdit` -/
structure MemberEdit (K : Kinds) where
  before : Option (MemberState K)
  after : Option (MemberState K)

/-- `DeletedZone`: what a zone delete removed. -/
structure DeletedZone (K : Kinds) where
  token : Nat
  zoneId : ZoneId
  name : String
  color : Option String
  enabled : Bool
  brightness : K.Level
  index : Nat
  outputs : List K.Output
  layers : K.Layers

/-- `StudioEdit` -/
inductive StudioEdit (K : Kinds) where
  | layout (zoneId : ZoneId) (before after : K.Snapshot)
  | members (changes : List (MemberEdit K))
  | zoneCreated (zoneId : ZoneId) (name : String) (color : Option String)
      (filled : List (MemberEdit K))
  | zonePatched (zoneId : ZoneId) (before after : K.Patch)
  | zoneDeleted (record : DeletedZone K)
  | unresolved (name : String)

/-- Whether the step waits to settle. -/
def StudioEdit.isUnresolved : StudioEdit K → Bool
  | .unresolved _ => true
  | _ => false

/-! ## The journal -/

abbrev EntryId := Nat

/-- `Entry` -/
structure Entry (K : Kinds) where
  id : EntryId
  edit : StudioEdit K
  replaying : Bool

/-- The place waits to settle. -/
def Entry.held (entry : Entry K) : Bool := entry.edit.isUnresolved

/-- `Settled`: what a place in the journal holds once the step it stands for is done. -/
inductive Settled (K : Kinds) where
  | gone
  | applied (edit : StudioEdit K)
  | unapplied (edit : StudioEdit K)

/-- `StudioJournal` -/
structure StudioJournal (K : Kinds) where
  entries : List (Entry K)
  cursor : Nat
  recorded : Nat

/-- `MAX_HISTORY_DEPTH` -/
def maxHistoryDepth : Nat := 100

namespace StudioJournal

/-- `default` -/
def default : StudioJournal K := ⟨[], 0, 0⟩

/-- `record`: record `edit` as the newest step under the identity after `last`, dropping the redo
branch. -/
def record (j : StudioJournal K) (last : EntryId) (edit : StudioEdit K) : StudioJournal K :=
  let entries := j.entries.take j.cursor ++ [⟨last + 1, edit, false⟩]
  let entries := if maxHistoryDepth < entries.length then entries.tail else entries
  { entries := entries, cursor := entries.length, recorded := (j.recorded + 1) % 2 ^ 64 }

/-- `replayed`: the place an undo or redo would replay now, and its entry. -/
def replayed (j : StudioJournal K) (redo : Bool) : Option (EntryId × StudioEdit K) :=
  let entry := if redo then j.entries[j.cursor]?
    else if j.cursor = 0 then none
    else j.entries[j.cursor - 1]?
  entry.map fun entry => (entry.id, entry.edit)

/-- `edit` -/
def edit (j : StudioJournal K) (id : EntryId) : Option (StudioEdit K) :=
  (j.entries.find? fun entry => entry.id == id).map Entry.edit

/-- `waiting_on`: the name of the step an undo or redo waits on now. -/
def waitingOn (j : StudioJournal K) (redo : Bool) : Option String :=
  if j.cursor = 0 then none
  else
    match j.entries[j.cursor - 1]? with
    | some ⟨_, .unresolved name, replaying⟩ => if !redo || replaying then some name else none
    | _ => none

variable (j : StudioJournal K) (id : EntryId)

/-- `position` -/
def position : Option Nat :=
  j.entries.findIdx? fun entry => entry.id == id

/-- `hold`: hold the place `id` while the step it stands for waits to settle. -/
def hold (name : String) : StudioJournal K :=
  match j.position id with
  | none => j
  | some index =>
      { j with
        entries := j.entries.modify index fun entry =>
          { entry with edit := .unresolved name, replaying := true }
        cursor := if index = j.cursor then j.cursor + 1 else j.cursor }

/-- `remove` -/
def remove (j : StudioJournal K) (index : Nat) : StudioJournal K :=
  { j with
    entries := j.entries.eraseIdx index
    cursor := if index < j.cursor then j.cursor - 1 else j.cursor }

/-- `settle`: settle the place `id` as `settled`. -/
def settle (settled : Settled K) : StudioJournal K :=
  match j.position id with
  | none => j
  | some index =>
      match settled with
      | .gone => j.remove index
      | .applied edit =>
          { j with
            entries := j.entries.set index ⟨id, edit, false⟩
            cursor := if index = j.cursor then j.cursor + 1 else j.cursor }
      | .unapplied edit =>
          if index + 1 < j.cursor then j.remove index
          else
            { j with entries := j.entries.set index ⟨id, edit, false⟩, cursor := min j.cursor index }

/-- `is_latest`: whether the place is the newest step applied. -/
def isLatest : Bool :=
  (j.position id).any fun index => index + 1 == j.cursor

/-- `undoable_deletion`: the place of the deletion `token` names while it can still be undone. -/
def undoableDeletion (j : StudioJournal K) (token : Nat) : Option EntryId :=
  let entry := (j.entries.take j.cursor).find? fun entry =>
    match entry.edit with
    | .zoneDeleted record => record.token == token
    | _ => false
  entry.map Entry.id

/-- `complete` -/
def complete (j : StudioJournal K) (redo : Bool) : StudioJournal K :=
  if redo ∧ j.cursor < j.entries.length then { j with cursor := j.cursor + 1 }
  else if !redo ∧ 0 < j.cursor then { j with cursor := j.cursor - 1 }
  else j

variable {j : StudioJournal K} {id : EntryId} {ed : StudioEdit K}

lemma mem_of_edit (h : j.edit id = some ed) : ∃ e ∈ j.entries, e.id = id ∧ e.edit = ed := by
  obtain ⟨e, hf, rfl⟩ := Option.map_eq_some_iff.mp h
  exact ⟨e, mem_of_find?_eq_some hf, by simpa using find?_some hf, rfl⟩

lemma mem_of_replayed {redo : Bool} (h : j.replayed redo = some (id, ed)) :
    ∃ e ∈ j.entries, e.id = id ∧ e.edit = ed := by
  obtain ⟨e, hf, he⟩ := Option.map_eq_some_iff.mp h
  obtain ⟨rfl, rfl⟩ := Prod.mk.inj he
  split_ifs at hf
  all_goals exact ⟨e, mem_of_getElem? hf, rfl, rfl⟩

/-! ## A journal cut at its cursor -/

/-- The entries are `before` up to the cursor and `after` from it on, and no two have the same
identity. -/
structure Cut (j : StudioJournal K) (before after : List (Entry K)) : Prop where
  entries : j.entries = before ++ after
  cursor : j.cursor = before.length
  nodup : (j.entries.map Entry.id).Nodup

variable {before after before₂ after₂ left right : List (Entry K)} {e : Entry K} {nm : String}

lemma findIdx?_of_nodup (h : ((left ++ e :: right).map Entry.id).Nodup) :
    (left ++ e :: right).findIdx? (fun entry => entry.id == e.id) = some left.length := by
  rw [findIdx?_eq_some_iff_getElem]
  refine ⟨by simp, by simp, ?_⟩
  intro i hi
  rw [map_append, nodup_append] at h
  have hn := h.2.2 (left[i].id) (mem_map_of_mem (getElem_mem hi)) e.id (by simp)
  simpa [getElem_append_left hi] using hn

/-- Where a place before the cursor is found. -/
lemma Cut.position_before (h : Cut j (before₁ ++ e :: before₂) after) :
    j.position e.id = some before₁.length := by
  have he : j.entries = before₁ ++ e :: (before₂ ++ after) := by simp [h.entries]
  have hn := h.nodup
  rw [he] at hn
  rw [position, he]
  exact findIdx?_of_nodup hn

/-- Where a place from the cursor on is found. -/
lemma Cut.position_after (h : Cut j before (after₁ ++ e :: after₂)) :
    j.position e.id = some (before.length + after₁.length) := by
  have he : j.entries = (before ++ after₁) ++ e :: after₂ := by simp [h.entries]
  have hn := h.nodup
  rw [he] at hn
  rw [position, he, findIdx?_of_nodup hn, length_append]

/-- A place that stands at the cursor is the first behind it. -/
lemma Cut.eq_nil_of_position (h : Cut j before (after₁ ++ e :: after₂))
    (hp : j.position e.id = some j.cursor) : after₁ = [] := by
  rw [h.position_after, h.cursor, Option.some.injEq] at hp
  exact length_eq_zero_iff.mp (by omega)

/-- A place the journal does not list is not found. -/
lemma Cut.position_none (h : Cut j before after) (hi : ∀ e ∈ before ++ after, e.id ≠ id) :
    j.position id = none := by
  rw [position, findIdx?_eq_none_iff, h.entries]
  intro e he
  simpa using hi e he

/-- A place goes. -/
lemma Cut.remove_before (h : Cut j (before₁ ++ e :: before₂) after) :
    Cut (j.remove before₁.length) (before₁ ++ before₂) after := by
  have he : j.entries = before₁ ++ e :: (before₂ ++ after) := by simp [h.entries]
  have hc := h.cursor
  rw [length_append, length_cons] at hc
  have her : (j.remove before₁.length).entries = before₁ ++ (before₂ ++ after) := by
    rw [remove, he, eraseIdx_append_of_length_le Nat.le.refl, Nat.sub_self]
    rfl
  refine ⟨by rw [her, append_assoc], ?_, ?_⟩
  · change (if before₁.length < j.cursor then j.cursor - 1 else j.cursor) = _
    rw [if_pos (by omega), length_append]
    omega
  · rw [her]
    have hn := h.nodup
    rw [he] at hn
    exact hn.sublist (((List.Sublist.refl _).append (sublist_cons_self _ _)).map _)

lemma Cut.remove_after (h : Cut j before (after₁ ++ e :: after₂)) :
    Cut (j.remove (before.length + after₁.length)) before (after₁ ++ after₂) := by
  have he : j.entries = (before ++ after₁) ++ e :: after₂ := by simp [h.entries]
  have her : (j.remove (before.length + after₁.length)).entries = (before ++ after₁) ++ after₂ := by
    rw [← length_append, remove, he, eraseIdx_append_of_length_le Nat.le.refl, Nat.sub_self]
    rfl
  refine ⟨by rw [her, append_assoc], ?_, ?_⟩
  · rw [remove, if_neg (by rw [h.cursor]; omega), h.cursor]
  · rw [her]
    have hn := h.nodup
    rw [he] at hn
    exact hn.sublist (((List.Sublist.refl _).append (sublist_cons_self _ _)).map _)

/-- A place keeps its identity when its entry is replaced. -/
lemma Cut.replace {j' : StudioJournal K} {before' after' : List (Entry K)}
    (h : Cut j before after) (hj : j.entries = left ++ e :: right) (e' : Entry K)
    (hi : e'.id = e.id) (hj' : j'.entries = left ++ e' :: right)
    (hc : left ++ e' :: right = before' ++ after') (hcr : j'.cursor = before'.length) :
    Cut j' before' after' := by
  refine ⟨hj'.trans hc, hcr, ?_⟩
  have hn := h.nodup
  rw [hj] at hn
  rw [hj']
  simpa only [map_append, map_cons, hi] using hn

/-- The place `id` after a step on it, at `index`. -/
lemma settle_of_position {index : Nat} (h : j.position id = some index) (se : Settled K) :
    j.settle id se =
      match se with
      | .gone => j.remove index
      | .applied ed =>
          { j with
            entries := j.entries.set index ⟨id, ed, false⟩
            cursor := if index = j.cursor then j.cursor + 1 else j.cursor }
      | .unapplied ed =>
          if index + 1 < j.cursor then j.remove index
          else
            { j with entries := j.entries.set index ⟨id, ed, false⟩, cursor := min j.cursor index } := by
  rw [settle, h]

lemma set_middle (left right : List (Entry K)) (e e' : Entry K) :
    (left ++ e :: right).set left.length e' = left ++ e' :: right := by
  simp

/-- **Settling a place before the cursor.** Applied, it stays; not applied, it moves behind the
cursor when it is the newest there, and goes otherwise. -/
lemma Cut.settle_before (h : Cut j (before₁ ++ e :: before₂) after) (se : Settled K) : match se with
    | .gone => Cut (j.settle e.id .gone) (before₁ ++ before₂) after
    | .applied ed =>
        Cut (j.settle e.id (.applied ed)) (before₁ ++ ⟨e.id, ed, false⟩ :: before₂) after
    | .unapplied ed =>
        if before₂ = [] then
          Cut (j.settle e.id (.unapplied ed)) before₁ (⟨e.id, ed, false⟩ :: after)
        else Cut (j.settle e.id (.unapplied ed)) (before₁ ++ before₂) after := by
  have he : j.entries = before₁ ++ e :: (before₂ ++ after) := by simp [h.entries]
  have hc := h.cursor
  rw [length_append, length_cons] at hc
  rcases se with _ | ed | ed
  · rw [settle_of_position h.position_before]
    exact h.remove_before
  · simp only [settle_of_position h.position_before]
    refine h.replace he ⟨e.id, ed, false⟩ rfl ?_ (by simp) ?_
    · simp only [he, set_middle]
    · simp only [if_neg (show ¬ before₁.length = j.cursor by omega)]
      rw [length_append, length_cons, hc]
  · simp only [settle_of_position h.position_before]
    by_cases hn : before₂ = []
    · rw [hn, length_nil] at hc
      rw [if_pos hn, if_neg (by omega)]
      refine h.replace he ⟨e.id, ed, false⟩ rfl ?_ ?_ ?_
      · simp only [he, set_middle]
      · rw [hn, nil_append]
      · change min j.cursor before₁.length = before₁.length
        omega
    · have hp := length_pos_of_ne_nil hn
      rw [if_neg hn, if_pos (by omega)]
      exact h.remove_before

/-- **Settling a place behind the cursor**, where only a redo has its place: applied, the cursor
moves past it if it stands there. -/
lemma Cut.settle_after (h : Cut j before (after₁ ++ e :: after₂)) (se : Settled K) : match se with
    | .gone => Cut (j.settle e.id .gone) before (after₁ ++ after₂)
    | .applied ed =>
        if after₁ = [] then
          Cut (j.settle e.id (.applied ed)) (before ++ [⟨e.id, ed, false⟩]) after₂
        else Cut (j.settle e.id (.applied ed)) before (after₁ ++ ⟨e.id, ed, false⟩ :: after₂)
    | .unapplied ed =>
        Cut (j.settle e.id (.unapplied ed)) before (after₁ ++ ⟨e.id, ed, false⟩ :: after₂) := by
  have he : j.entries = (before ++ after₁) ++ e :: after₂ := by simp [h.entries]
  have hl : before.length + after₁.length = (before ++ after₁).length := length_append.symm
  have hc := h.cursor
  rcases se with _ | ed | ed
  · rw [settle_of_position h.position_after]
    exact h.remove_after
  · simp only [settle_of_position h.position_after, hl]
    by_cases hn : after₁ = []
    · rw [if_pos hn]
      refine h.replace he ⟨e.id, ed, false⟩ rfl ?_ ?_ ?_
      · simp only [he, set_middle]
      · simp [hn]
      · simp [hn, hc]
    · have hp := length_pos_of_ne_nil hn
      rw [if_neg hn, if_neg (by omega)]
      refine h.replace he ⟨e.id, ed, false⟩ rfl ?_ (append_assoc before after₁ _) hc
      simp only [he, set_middle]
  · simp only [settle_of_position h.position_after, hl]
    rw [if_neg (by omega)]
    refine h.replace he ⟨e.id, ed, false⟩ rfl ?_ (append_assoc before after₁ _) ?_
    · simp only [he, set_middle]
    · change min j.cursor (before ++ after₁).length = before.length
      omega

/-- The entry of a held place. -/
def Entry.holding (e : Entry K) (name : String) : Entry K :=
  { e with edit := .unresolved name, replaying := true }

lemma modify_middle (left right : List (Entry K)) (e : Entry K) (f : Entry K → Entry K) :
    (left ++ e :: right).modify left.length f = left ++ f e :: right := by
  induction left with
  | nil => rfl
  | cons x left ih => simp only [cons_append, length_cons, modify_succ_cons, ih]

/-- A step replayed before the cursor is held where it stands. -/
lemma Cut.hold_before (h : Cut j (before₁ ++ e :: before₂) after) (nm : String) :
    Cut (j.hold e.id nm) (before₁ ++ Entry.holding e nm :: before₂) after := by
  have he : j.entries = before₁ ++ e :: (before₂ ++ after) := by simp [h.entries]
  have hc := h.cursor
  rw [length_append, length_cons] at hc
  rw [hold, h.position_before]
  refine h.replace he (Entry.holding e nm) rfl ?_ (by simp) ?_
  · simp only [he, modify_middle]
    rfl
  · simp only [if_neg (show ¬ before₁.length = j.cursor by omega)]
    rw [length_append, length_cons, hc]

/-- A redo is held among the applied steps, if its place still stands at the cursor. -/
lemma Cut.hold_after (h : Cut j before (after₁ ++ e :: after₂)) (nm : String) :
    if after₁ = [] then Cut (j.hold e.id nm) (before ++ [Entry.holding e nm]) after₂
    else Cut (j.hold e.id nm) before (after₁ ++ Entry.holding e nm :: after₂) := by
  have he : j.entries = (before ++ after₁) ++ e :: after₂ := by simp [h.entries]
  have hl : before.length + after₁.length = (before ++ after₁).length := length_append.symm
  have hc := h.cursor
  have hh : (j.hold e.id nm).entries = (before ++ after₁) ++ Entry.holding e nm :: after₂ := by
    rw [hold, h.position_after, hl]
    simp only [he, modify_middle]
    rfl
  have hm : (j.hold e.id nm).cursor =
      if after₁ = [] then j.cursor + 1 else j.cursor := by
    rw [hold, h.position_after]
    by_cases hn : after₁ = []
    · simp [hn, hc]
    · have hp := length_pos_of_ne_nil hn
      simp only [if_neg hn, if_neg (show ¬ before.length + after₁.length = j.cursor by omega)]
  split_ifs with hn
  · refine h.replace he (Entry.holding e nm) rfl hh (by simp [hn]) ?_
    rw [hm, if_pos hn, hc]
    simp
  · refine h.replace he (Entry.holding e nm) rfl hh (append_assoc before after₁ _) ?_
    rw [hm, if_neg hn, hc]

/-- A replayed step that needs no settling moves across the cursor. -/
lemma Cut.complete_redo (h : Cut j before (e :: after)) :
    Cut (j.complete true) (before ++ [e]) after := by
  have hl : j.cursor < j.entries.length := by
    rw [h.cursor, h.entries, length_append, length_cons]
    omega
  rw [complete, if_pos ⟨rfl, hl⟩]
  refine ⟨by simp [h.entries], ?_, h.nodup⟩
  simp [h.cursor]

lemma Cut.complete_undo (h : Cut j (before ++ [e]) after) :
    Cut (j.complete false) before (e :: after) := by
  have hc := h.cursor
  rw [length_append, length_singleton] at hc
  rw [complete, if_neg (by simp), if_pos ⟨rfl, by omega⟩]
  refine ⟨by simp [h.entries], ?_, h.nodup⟩
  change j.cursor - 1 = _
  omega

/-- What a new record keeps of the applied steps: all but the oldest of a full journal. -/
def kept (before : List (Entry K)) : List (Entry K) :=
  if maxHistoryDepth < before.length + 1 then before.tail else before

lemma kept_sublist (before : List (Entry K)) : (kept before).Sublist before := by
  rw [kept]
  split_ifs
  · exact tail_sublist before
  · exact List.Sublist.refl before

/-- The kept steps, followed by a new one, fit. -/
lemma kept_length (h : before.length ≤ maxHistoryDepth) : (kept before).length + 1 ≤ maxHistoryDepth := by
  rw [kept]
  split_ifs with hf
  · rw [length_tail]
    simp only [maxHistoryDepth] at *
    omega
  · omega

lemma record_entries (ht : j.entries.take j.cursor = before) (ls : EntryId) (ed : StudioEdit K) :
    (j.record ls ed).entries = kept before ++ [⟨ls + 1, ed, false⟩] := by
  simp only [record, ht, kept, length_append, length_singleton]
  split_ifs with hf
  · refine tail_append_of_ne_nil ?_
    rintro rfl
    simp [maxHistoryDepth] at hf
  · rfl

/-- Recording a new step drops what was undone, and the oldest step when there is no room. -/
lemma Cut.record (h : Cut j before after) {ls : EntryId} (hne : ∀ e ∈ before, e.id ≠ ls + 1)
    (ed : StudioEdit K) : Cut (j.record ls ed) (kept before ++ [⟨ls + 1, ed, false⟩]) [] := by
  have ht : j.entries.take j.cursor = before := by
    rw [h.entries, h.cursor, take_left']
    rfl
  have he := record_entries ht ls ed
  refine ⟨by rw [he, append_nil], ?_, ?_⟩
  · rw [← he]
    rfl
  · have hn := h.nodup
    rw [h.entries, map_append] at hn
    have hk := hn.of_append_left.sublist ((kept_sublist before).map Entry.id)
    rw [he, map_append, nodup_append]
    refine ⟨hk, by simp, ?_⟩
    rintro x hx y hy rfl
    obtain ⟨entry, hen, rfl⟩ := mem_map.mp hx
    exact hne entry ((kept_sublist before).subset hen) (by simpa using hy)

/-- A redo replays the first step behind the cursor. -/
lemma Cut.replayed_redo (h : Cut j before after) (hp : j.replayed true = some (id, ed)) :
    ∃ e rest, after = e :: rest ∧ e.id = id := by
  rw [replayed, if_pos rfl, h.entries, h.cursor, getElem?_append_right Nat.le.refl, Nat.sub_self] at hp
  rcases after with _ | ⟨e, rest⟩
  · simp at hp
  · simp only [getElem?_cons_zero, Option.map_some, Option.some.injEq, Prod.mk.injEq] at hp
    exact ⟨e, rest, rfl, hp.1⟩

/-- The newest applied step. -/
lemma Cut.getElem?_newest (h : Cut j (before ++ [e]) after) :
    j.cursor ≠ 0 ∧ j.entries[j.cursor - 1]? = some e := by
  have hc := h.cursor
  rw [length_append, length_singleton] at hc
  have hi : j.cursor - 1 = before.length := by omega
  refine ⟨by omega, ?_⟩
  rw [hi, h.entries, append_assoc, getElem?_append_right Nat.le.refl, Nat.sub_self]
  rfl

/-- An undo replays the newest applied step. -/
lemma Cut.replayed_undo (h : Cut j before after) (hp : j.replayed false = some (id, ed)) :
    ∃ rest e, before = rest ++ [e] ∧ e.id = id := by
  rcases eq_nil_or_concat before with rfl | ⟨rest, e, rfl⟩
  · have hc : j.cursor = 0 := h.cursor
    rw [replayed, if_neg (by simp), if_pos hc] at hp
    simp at hp
  · have hcu : Cut j (rest ++ [e]) after := by simpa using h
    obtain ⟨hne, hn⟩ := hcu.getElem?_newest
    rw [replayed, if_neg (by simp), if_neg hne, hn] at hp
    simp only [Option.map_some, Option.some.injEq, Prod.mk.injEq] at hp
    exact ⟨rest, e, by simp, hp.1⟩

/-- An undo that waits on nothing does not replay a held place. -/
lemma Cut.not_held_of_waitingOn (h : Cut j (before ++ [e]) after)
    (hw : j.waitingOn false = none) : e.held = false := by
  obtain ⟨hne, hn⟩ := h.getElem?_newest
  rw [waitingOn, if_neg hne, hn] at hw
  obtain ⟨id, ed, replaying⟩ := e
  rcases ed with _ | _ | _ | _ | _ | nm
  case unresolved => simp at hw
  all_goals rfl

end StudioJournal

end Hypercolor.Studio
