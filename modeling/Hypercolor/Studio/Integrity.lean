import Mathlib.Logic.Function.Basic
import Hypercolor.Lib.Machine
import Hypercolor.Studio.Journal

/-!
# What the journal's cursor says

`Desk` is the journal with the undo or redo under way. One operation runs at a time, so nothing is
recorded and no other replay starts while one is; held places settle at any time, in any order and
to any outcome.

**Result.** `journal_integrity`: as long as every redo that ends applied, completed or held finds
its place where the cursor stands, the identities are unique, the cursor stays within the entries
and the depth limit, what is before it is applied or held, what is behind it is not applied, and a
new record drops a held place only for want of room. A step that breaks the condition breaks this
at once.

**What goes wrong.** `redo_lands_behind_cursor`: `waiting_on` looks at one place only. A held undo
below a held edit lets a redo start; when the edit turns out not to have landed and the undo to
have, the cursor moves back under the redo, which then lands behind it.
-/

namespace Hypercolor.Studio

open List Function StudioJournal.Entry List.Sublist StudioJournal

variable {K : Kinds}

/-! ## Runs -/

/-- An undo or redo under way, and the place it started at. -/
structure Replay where
  id : EntryId
  redo : Bool

/-- The journal, the last identity handed out and the replay under way. What each step came to
last is recorded for the statements only. -/
structure Desk (K : Kinds) where
  journal : StudioJournal K
  last : EntryId
  replay : Option Replay
  applied : EntryId → Bool

inductive Event (K : Kinds) where
  | record (edit : StudioEdit K)
  /-- A recorded step whose second write went out without an answer. -/
  | recordHeld (edit : StudioEdit K) (name : String)
  | start (redo : Bool)
  | settleReplay (settled : Settled K)
  | complete
  | holdReplay (name : String)
  /-- The replay came to nothing. -/
  | abandon
  | settleHeld (id : EntryId) (settled : Settled K)
  /-- The rest of a held step goes out without an answer as well. -/
  | holdAgain (id : EntryId) (name : String)
  /-- Another scene became active. -/
  | switch

/-- A settled place does not wait any more. -/
def Settled.Resolved : Settled K → Prop
  | .gone => True
  | .applied edit | .unapplied edit => edit.isUnresolved = false

namespace Desk

/-- The step at `id` came out as `settled`. -/
def outcome (applied : EntryId → Bool) (id : EntryId) : Settled K → EntryId → Bool
  | .gone => applied
  | .applied _ => update applied id true
  | .unapplied _ => update applied id false

/-- The journal holds no step at `id` that does not wait to settle. -/
def Waits (s : Desk K) (id : EntryId) : Prop :=
  ∀ edit, s.journal.edit id = some edit → edit.isUnresolved

inductive Step : Desk K → Event K → Desk K → Prop where
  | record (s : Desk K) (edit : StudioEdit K) (hr : s.replay = none) :
      Step s (.record edit)
        { s with
          journal := s.journal.record s.last edit
          last := s.last + 1
          applied := update s.applied (s.last + 1) true }
  | recordHeld (s : Desk K) (edit : StudioEdit K) (name : String) (hr : s.replay = none) :
      Step s (.recordHeld edit name)
        { s with
          journal := (s.journal.record s.last edit).hold (s.last + 1) name
          last := s.last + 1
          applied := update s.applied (s.last + 1) true }
  | start (s : Desk K) (redo : Bool) (id : EntryId) (edit : StudioEdit K) (hr : s.replay = none)
      (hw : s.journal.waitingOn redo = none) (hp : s.journal.replayed redo = some (id, edit)) :
      Step s (.start redo) { s with replay := some ⟨id, redo⟩ }
  | settleReplay (s : Desk K) (r : Replay) (settled : Settled K) (hr : s.replay = some r)
      (hs : settled.Resolved) :
      Step s (.settleReplay settled)
        { s with
          journal := s.journal.settle r.id settled
          replay := none
          applied := outcome s.applied r.id settled }
  | complete (s : Desk K) (r : Replay) (hr : s.replay = some r) :
      Step s .complete
        { s with
          journal := s.journal.complete r.redo
          replay := none
          applied := update s.applied r.id r.redo }
  | holdReplay (s : Desk K) (r : Replay) (name : String) (hr : s.replay = some r) :
      Step s (.holdReplay name)
        { s with journal := s.journal.hold r.id name, replay := none }
  | abandon (s : Desk K) : Step s .abandon { s with replay := none }
  | settleHeld (s : Desk K) (id : EntryId) (settled : Settled K) (hw : s.Waits id)
      (hs : settled.Resolved) :
      Step s (.settleHeld id settled)
        { s with journal := s.journal.settle id settled, applied := outcome s.applied id settled }
  | holdAgain (s : Desk K) (id : EntryId) (name : String) (hw : s.Waits id) :
      Step s (.holdAgain id name) { s with journal := s.journal.hold id name }
  | switch (s : Desk K) :
      Step s .switch { s with journal := .default, replay := none }

/-- A page that has just opened. -/
def new : Desk K := ⟨.default, 0, none, fun _ => false⟩

def machine (K : Kinds) : Lib.Machine (Desk K) (Event K) where
  init s := s = new
  step := Step

end Desk

/-! ## What is claimed -/

/-- Identities are unique, the cursor stays within the entries and the depth limit, and it divides
what is applied or held from what is not applied. -/
structure Integrity (s : Desk K) : Prop where
  nodup : (s.journal.entries.map Entry.id).Nodup
  cursor_le : s.journal.cursor ≤ s.journal.entries.length
  depth : s.journal.cursor ≤ maxHistoryDepth
  before : ∀ e ∈ s.journal.entries.take s.journal.cursor, e.held ∨ s.applied e.id
  after : ∀ e ∈ s.journal.entries.drop s.journal.cursor,
    e.held = false ∧ s.applied e.id = false

/-- Every held place of `s` is still there in `t`, or was the oldest of a full journal. -/
def KeepsHeld (s t : Desk K) : Prop :=
  ∀ e ∈ s.journal.entries, e.held → e ∈ t.journal.entries ∨
    s.journal.cursor = maxHistoryDepth ∧ s.journal.entries.head? = some e

/-- The event records a new step. -/
def Event.records : Event K → Bool
  | .record _ | .recordHeld _ _ => true
  | _ => false

/-- The event puts the replayed step among the applied ones, when it is a redo. -/
def Event.puts : Event K → Bool
  | .settleReplay (.applied _) | .complete | .holdReplay _ => true
  | _ => false

/-- A redo that ends among the applied steps finds its place at the cursor. -/
def InPlace (e : Event K) (s : Desk K) : Prop :=
  e.puts → ∀ r, s.replay = some r → r.redo → s.journal.position r.id = some s.journal.cursor

/-! ## Steps on a cut journal -/

/-- What is before the cursor is applied or held, and what is after it is not applied. -/
structure Ordered (applied : EntryId → Bool) (before after : List (Entry K)) : Prop where
  before : ∀ e ∈ before, e.held ∨ applied e.id
  after : ∀ e ∈ after, e.held = false ∧ applied e.id = false

section ordered

variable {applied : EntryId → Bool} {before after before₂ after₂ : List (Entry K)} {e : Entry K}
  {id : EntryId}

/-- What becomes of a step nobody lists does not matter. -/
lemma Ordered.update (h : Ordered applied before after) (hb : ∀ e ∈ before, e.id ≠ id)
    (ha : ∀ e ∈ after, e.id ≠ id) (v : Bool) : Ordered (update applied id v) before after := by
  constructor
  · intro e he
    rw [update_of_ne (hb e he)]
    exact h.before e he
  · intro e he
    rw [update_of_ne (ha e he)]
    exact h.after e he

lemma Ordered.erase_before (h : Ordered applied (before₁ ++ e :: before₂) after) :
    Ordered applied (before₁ ++ before₂) after := by
  refine ⟨fun x hx => h.before x ?_, h.after⟩
  exact (((refl _).append (sublist_cons_self _ _)).subset hx)

lemma Ordered.erase_after (h : Ordered applied before (after₁ ++ e :: after₂)) :
    Ordered applied before (after₁ ++ after₂) := by
  refine ⟨h.before, fun x hx => h.after x ?_⟩
  exact (((refl _).append (sublist_cons_self _ _)).subset hx)

lemma Ordered.insert_before (h : Ordered applied (before₁ ++ before₂) after)
    (he : e.held ∨ applied e.id) :
    Ordered applied (before₁ ++ e :: before₂) after := by
  refine ⟨?_, h.after⟩
  intro x hx
  rcases mem_append.mp hx with hx | hx
  · exact h.before x (mem_append_left _ hx)
  · rcases mem_cons.mp hx with rfl | hx
    · exact he
    · exact h.before x (mem_append_right _ hx)

lemma Ordered.insert_after (h : Ordered applied before (after₁ ++ after₂))
    (he : e.held = false ∧ applied e.id = false) : Ordered applied before (after₁ ++ e :: after₂) := by
  refine ⟨h.before, ?_⟩
  intro x hx
  rcases mem_append.mp hx with hx | hx
  · exact h.after x (mem_append_left _ hx)
  · rcases mem_cons.mp hx with rfl | hx
    · exact he
    · exact h.after x (mem_append_right _ hx)

end ordered

/-- The replay under way stands where it started: an undo right below the cursor, a redo somewhere
behind it. -/
def ReplayOk (before after : List (Entry K)) : Option Replay → Prop
  | none => True
  | some ⟨id, false⟩ => ∃ left e, before = left ++ [e] ∧ e.id = id ∧ e.held = false
  | some ⟨id, true⟩ => ∃ left e right, after = left ++ e :: right ∧ e.id = id

/-- What holds of a desk, on the cut of its journal. -/
structure DeskOk (s : Desk K) (before after : List (Entry K)) : Prop where
  cut : StudioJournal.Cut s.journal before after
  ordered : Ordered s.applied before after
  room : ((before ++ after).map Entry.id).length ≤ maxHistoryDepth
  handed : ∀ id ∈ (before ++ after).map Entry.id, id ≤ s.last
  replay : ReplayOk before after s.replay

variable {s t : Desk K}

lemma DeskOk.integrity {before after : List (Entry K)} (h : DeskOk s before after) : Integrity s := by
  have ht : s.journal.entries.take s.journal.cursor = before := by
    rw [h.cut.entries, h.cut.cursor, take_left']
    rfl
  have hd : s.journal.entries.drop s.journal.cursor = after := by
    rw [h.cut.entries, h.cut.cursor, drop_left']
    rfl
  refine ⟨h.cut.nodup, ?_, ?_, ?_, ?_⟩
  · rw [h.cut.cursor, h.cut.entries, length_append]
    omega
  · have hr := h.room
    rw [length_map, length_append] at hr
    rw [h.cut.cursor]
    omega
  · rw [ht]
    exact h.ordered.before
  · rw [hd]
    exact h.ordered.after

/-! ## Steps -/

variable {id : EntryId} {ed : StudioEdit K} {ev : Event K}

section steps

variable {j : StudioJournal K} {applied : EntryId → Bool}
  {before after before₁ before₂ after₂ before' : List (Entry K)} {e : Entry K}

/-- The identities of the other places, in a cut with `e` before the cursor. -/
lemma ne_of_cut_before (h : StudioJournal.Cut j (before₁ ++ e :: before₂) after) :
    (∀ x ∈ before₁ ++ before₂, x.id ≠ e.id) ∧ ∀ x ∈ after, x.id ≠ e.id := by
  have hn := h.nodup
  rw [h.entries, append_assoc, cons_append, map_append, map_cons,
    nodup_middle, nodup_cons, ← map_append] at hn
  have hne : ∀ x ∈ before₁ ++ (before₂ ++ after), x.id ≠ e.id := by
    intro x hx hi
    exact hn.1 (mem_map.mpr ⟨x, hx, hi⟩)
  constructor
  · intro x hx
    refine hne x ?_
    rw [← append_assoc]
    exact mem_append_left _ hx
  · intro x hx
    exact hne x (mem_append_right _ (mem_append_right _ hx))

lemma ne_of_cut_after (h : StudioJournal.Cut j before (after₁ ++ e :: after₂)) :
    (∀ x ∈ before, x.id ≠ e.id) ∧ ∀ x ∈ after₁ ++ after₂, x.id ≠ e.id := by
  have hn := h.nodup
  rw [h.entries, ← append_assoc, map_append, map_cons, nodup_middle, nodup_cons, ← map_append] at hn
  have hne : ∀ x ∈ (before ++ after₁) ++ after₂, x.id ≠ e.id := by
    intro x hx hi
    exact hn.1 (mem_map.mpr ⟨x, hx, hi⟩)
  constructor
  · intro x hx
    exact hne x (mem_append_left _ (mem_append_left _ hx))
  · intro x hx
    refine hne x ?_
    rw [append_assoc]
    exact mem_append_right _ hx

variable {se : Settled K}

/-- **A place before the cursor settles.** The order stands, nothing is put in front of what is
behind the cursor but the place itself, and the newest applied step stays the newest unless it is
the one that settles. -/
lemma settle_before (hcu : StudioJournal.Cut j (before₁ ++ e :: before₂) after)
    (hor : Ordered applied (before₁ ++ e :: before₂) after) (hs : se.Resolved) :
    ∃ before' moved, StudioJournal.Cut (j.settle e.id se) before' (moved ++ after) ∧
      Ordered (Desk.outcome applied e.id se) before' (moved ++ after) ∧
      ((before' ++ (moved ++ after)).map Entry.id).Sublist
        (((before₁ ++ e :: before₂) ++ after).map Entry.id) ∧
      ∀ left x, before₂ = left ++ [x] → ∃ left', before' = left' ++ [x] := by
  obtain ⟨hb, ha⟩ := ne_of_cut_before hcu
  have hse := hcu.settle_before se
  have he := hor.erase_before
  have hsu : ((before₁ ++ before₂ ++ after).map Entry.id).Sublist
      ((before₁ ++ e :: before₂ ++ after).map Entry.id) :=
    (((refl before₁).append (sublist_cons_self e before₂)).append (refl after)).map _
  rcases se with _ | ed | ed
  · refine ⟨before₁ ++ before₂, [], hse, he, hsu, ?_⟩
    rintro left x rfl
    exact ⟨before₁ ++ left, by simp⟩
  · refine ⟨before₁ ++ ⟨e.id, ed, false⟩ :: before₂, [], hse, ?_, ?_, ?_⟩
    · refine (he.update hb ha true).insert_before (.inr ?_)
      exact update_self _ _ _
    · simp
    · rintro left x rfl
      exact ⟨before₁ ++ ⟨e.id, ed, false⟩ :: left, by simp⟩
  · by_cases hn : before₂ = []
    · subst hn
      refine ⟨before₁, [⟨e.id, ed, false⟩], hse, ?_, ?_, ?_⟩
      · rw [append_nil] at he hb
        have hc := Ordered.insert_after (e := ⟨e.id, ed, false⟩)
          (show Ordered _ before₁ ([] ++ after) from he.update hb ha false)
          ⟨hs, update_self _ _ _⟩
        exact hc
      · simp
      · intro left x hx
        simp at hx
    · simp only [if_neg hn] at hse
      refine ⟨before₁ ++ before₂, [], hse, he.update hb ha false, hsu, ?_⟩
      rintro left x rfl
      exact ⟨before₁ ++ left, by simp⟩

/-- **The redo under way settles.** Applied, its place has to stand at the cursor. -/
theorem settle_after (hc : StudioJournal.Cut j before (after₁ ++ e :: after₂))
    (hor : Ordered applied before (after₁ ++ e :: after₂)) (hs : se.Resolved)
    (hp : ∀ ed, se = .applied ed → after₁ = []) :
    ∃ before' after', StudioJournal.Cut (j.settle e.id se) before' after' ∧
      Ordered (Desk.outcome applied e.id se) before' after' ∧ ((before' ++ after').map Entry.id).Sublist
        ((before ++ (after₁ ++ e :: after₂)).map Entry.id) := by
  obtain ⟨hb, ha⟩ := ne_of_cut_after hc
  have hse := hc.settle_after se
  have he := hor.erase_after
  rcases se with _ | ed | ed
  · refine ⟨before, after₁ ++ after₂, hse, he, ?_⟩
    exact ((refl before).append ((refl after₁).append (sublist_cons_self e after₂))).map _
  · obtain rfl := hp ed rfl
    simp only [if_true] at hse
    refine ⟨before ++ [⟨e.id, ed, false⟩], after₂, hse, ?_, by simp⟩
    have hb' : ∀ x ∈ before ++ [], x.id ≠ e.id := by rwa [append_nil]
    refine Ordered.insert_before ?_ (.inr (update_self _ _ _))
    exact Ordered.update (by rwa [append_nil]) hb' ha true
  · refine ⟨before, after₁ ++ ⟨e.id, ed, false⟩ :: after₂, hse, ?_, by simp⟩
    exact (he.update hb ha false).insert_after ⟨hs, update_self _ _ _⟩

/-- What a step on the entries of a desk has to keep. -/
lemma DeskOk.shrink {after' : List (Entry K)} (h : DeskOk s before after)
    (hc : StudioJournal.Cut t.journal before' after') (hor : Ordered t.applied before' after')
    (hs : ((before' ++ after').map Entry.id).Sublist ((before ++ after).map Entry.id))
    (hl : t.last = s.last) (hr : ReplayOk before' after' t.replay) : DeskOk t before' after' := by
  refine ⟨hc, hor, Nat.le_trans hs.length_le h.room, ?_, hr⟩
  intro id hi
  rw [hl]
  exact h.handed id (hs.subset hi)

/-- The entry a journal finds at a listed identity. -/
lemma StudioJournal.Cut.edit_eq (h : StudioJournal.Cut j before after)
    (he : e ∈ before ++ after) : j.edit e.id = some e.edit := by
  rw [← h.entries] at he
  obtain ⟨left, right, hs⟩ := append_of_mem he
  have hn := h.nodup
  rw [hs] at hn
  have hf : j.entries.find? (fun entry => entry.id == e.id) = some e := by
    rw [find?_eq_some_iff_append]
    refine ⟨by simp, left, right, hs, ?_⟩
    intro x hx
    rw [map_append, nodup_append] at hn
    have hne := hn.2.2 x.id (mem_map_of_mem hx) e.id (by simp)
    simpa using hne
  rw [edit, hf]
  rfl

/-- A place that waits stands before the cursor. -/
lemma Ordered.split_held (h : Ordered applied before after) (he : e ∈ before ++ after)
    (hh : e.held) : ∃ before₁ before₂, before = before₁ ++ e :: before₂ := by
  rcases mem_append.mp he with he | he
  · exact append_of_mem he
  · rw [(h.after e he).1] at hh
    simp at hh

/-- A held place that settles leaves the replay under way where it stands. -/
lemma ReplayOk.settle {replay : Option Replay} {moved : List (Entry K)}
    (h : ReplayOk (before₁ ++ e :: before₂) after replay) (hh : e.held)
    (hk : ∀ left x, before₂ = left ++ [x] → ∃ left', before' = left' ++ [x]) :
    ReplayOk before' (moved ++ after) replay := by
  rcases replay with _ | ⟨id, _ | _⟩
  · trivial
  · obtain ⟨left, x, hs, hi, hx⟩ := h
    rcases eq_nil_or_concat before₂ with rfl | ⟨rest, y, rfl⟩
    · have hl := (append_inj' hs rfl).2
      simp only [cons.injEq, and_true] at hl
      rw [hl, hx] at hh
      simp at hh
    · have hs' : (before₁ ++ e :: rest) ++ [y] = left ++ [x] := by
        rw [← hs]
        simp
      have hl := (append_inj' hs' rfl).2
      obtain ⟨left', hle'⟩ := hk rest y (by simp)
      exact ⟨left', x, by rw [hle', hl], hi, hx⟩
  · obtain ⟨left, x, right, hs, hi⟩ := h
    exact ⟨moved ++ left, x, right, by rw [hs, append_assoc], hi⟩

section

variable (h : DeskOk s before after) (hw : s.Waits id)
include h hw

/-- The place `id` is listed, waits, and stands before the cursor; or it is not listed. -/
lemma DeskOk.waits : (∃ e before₁ before₂, before = before₁ ++ e :: before₂ ∧ e.id = id ∧ e.held) ∨
      ∀ e ∈ before ++ after, e.id ≠ id := by
  by_cases hm : ∃ e ∈ before ++ after, e.id = id
  · obtain ⟨e, he, rfl⟩ := hm
    have hh : e.held := hw e.edit (h.cut.edit_eq he)
    obtain ⟨before₁, before₂, hs⟩ := h.ordered.split_held he hh
    exact .inl ⟨e, before₁, before₂, hs, rfl, hh⟩
  · refine .inr ?_
    intro e he hi
    exact hm ⟨e, he, hi⟩

/-- **A held place settles.** -/
theorem DeskOk.settleHeld (hs : se.Resolved) : ∃ before' after', DeskOk { s with
        journal := s.journal.settle id se
        applied := Desk.outcome s.applied id se } before' after' := by
  rcases h.waits hw with ⟨e, before₁, before₂, rfl, rfl, hh⟩ | hab
  · obtain ⟨before', moved, hc, hor, hsu, hk⟩ := settle_before h.cut h.ordered hs
    exact ⟨before', moved ++ after, h.shrink hc hor hsu rfl (h.replay.settle hh hk)⟩
  · have hn := h.cut.position_none hab
    have hsa : s.journal.settle id se = s.journal := by
      rw [settle, hn]
    have hb : ∀ e ∈ before, e.id ≠ id := fun e he => hab e (mem_append_left _ he)
    have ha : ∀ e ∈ after, e.id ≠ id := fun e he => hab e (mem_append_right _ he)
    refine ⟨before, after, h.shrink ?_ ?_ (refl _) rfl h.replay⟩
    · simp only [hsa]
      exact h.cut
    · rcases se with _ | ed | ed
      · exact h.ordered
      · exact h.ordered.update hb ha true
      · exact h.ordered.update hb ha false

/-- The rest of a held step is held in its place. -/
lemma DeskOk.holdAgain {nm : String} :
    ∃ before' after', DeskOk { s with journal := s.journal.hold id nm } before' after' := by
  rcases h.waits hw with ⟨e, before₁, before₂, rfl, rfl, hh⟩ | ha
  · refine ⟨before₁ ++ holding e nm :: before₂, after,
      h.shrink (h.cut.hold_before nm) ?_ (by simp [holding]) rfl ?_⟩
    · exact h.ordered.erase_before.insert_before (.inl rfl)
    · have hr : ReplayOk (before₁ ++ holding e nm :: before₂) ([] ++ after) s.replay := by
        refine h.replay.settle hh ?_
        rintro left x rfl
        exact ⟨before₁ ++ holding e nm :: left, by simp⟩
      exact hr
  · have hs : s.journal.hold id nm = s.journal := by
      rw [hold, h.cut.position_none ha]
    refine ⟨before, after, h.shrink ?_ h.ordered (refl _) rfl h.replay⟩
    simp only [hs]
    exact h.cut

end

/-- **A new step is recorded**, as the newest applied one. -/
theorem DeskOk.record (h : DeskOk s before after) (hr : s.replay = none) (ed : StudioEdit K) :
    DeskOk { s with
        journal := s.journal.record s.last ed
        last := s.last + 1
        applied := update s.applied (s.last + 1) true } (kept before ++ [⟨s.last + 1, ed, false⟩])
          [] := by
  have hk := kept_sublist before
  have hle : ∀ e ∈ before, e.id ≤ s.last := by
    intro e he
    exact h.handed e.id (mem_map_of_mem (mem_append_left _ he))
  have hn : ∀ e ∈ before, e.id ≠ s.last + 1 := by
    intro e he hi
    have hl := hle e he
    rw [hi] at hl
    exact Nat.not_succ_le_self s.last hl
  refine ⟨h.cut.record hn ed, ⟨?_, by simp⟩, ?_, ?_, ?_⟩
  · intro e he
    rcases mem_append.mp he with he | he
    · change e.held ∨ update s.applied (s.last + 1) true e.id
      rw [update_of_ne (hn e (hk.subset he))]
      exact h.ordered.before e (hk.subset he)
    · rw [mem_singleton.mp he]
      exact .inr (update_self _ _ _)
  · have hro := h.room
    rw [length_map, length_append] at hro
    have hln : (kept before).length + 1 ≤ maxHistoryDepth := kept_length (by omega)
    simpa using hln
  · intro id hi
    simp only [append_nil, map_append, map_cons, map_nil, mem_append, mem_singleton] at hi
    rcases hi with hi | rfl
    · obtain ⟨e, he, rfl⟩ := mem_map.mp hi
      exact Nat.le_succ_of_le (hle e (hk.subset he))
    · exact Nat.le.refl
  · simp only [hr]
    trivial

/-- The step just recorded is held. -/
lemma DeskOk.holdNewest (h : DeskOk s (before ++ [e]) []) (hr : s.replay = none) (nm : String) :
    DeskOk { s with journal := s.journal.hold e.id nm } (before ++ [holding e nm]) [] := by
  refine h.shrink (h.cut.hold_before nm) ?_ (by simp [holding]) rfl ?_
  · exact h.ordered.erase_before.insert_before (.inl rfl)
  · simp only [hr]
    trivial

section

variable (h : DeskOk s before after)
include h

namespace DeskOk

/-- **An undo or redo starts** where the cursor stands. -/
theorem start {redo : Bool} (hw : s.journal.waitingOn redo = none)
    (hp : s.journal.replayed redo = some (id, ed)) :
    DeskOk { s with replay := some ⟨id, redo⟩ } before after := by
  refine h.shrink h.cut h.ordered (refl _) rfl ?_
  rcases redo with _ | _
  · obtain ⟨rest, e, rfl, hi⟩ := h.cut.replayed_undo hp
    exact ⟨rest, e, rfl, hi, h.cut.not_held_of_waitingOn hw⟩
  · obtain ⟨e, rest, rfl, hi⟩ := h.cut.replayed_redo hp
    exact ⟨[], e, rest, rfl, hi⟩

/-- **An undo settles**, at the newest applied place. -/
theorem settleUndo (hr : s.replay = some ⟨id, false⟩) (hs : se.Resolved) :
    ∃ before' after', DeskOk { s with
        journal := s.journal.settle id se
        replay := none
        applied := Desk.outcome s.applied id se } before' after' := by
  have hre := h.replay
  rw [hr] at hre
  obtain ⟨rest, e, rfl, rfl, -⟩ := hre
  obtain ⟨before', moved, hc, hor, hsu, -⟩ := settle_before h.cut h.ordered hs
  exact ⟨before', moved ++ after, h.shrink hc hor hsu rfl trivial⟩

/-- **A redo settles**, at the cursor if it is applied. -/
theorem settleRedo (hr : s.replay = some ⟨id, true⟩) (hs : se.Resolved)
    (hp : ∀ ed, se = .applied ed → s.journal.position id = some s.journal.cursor) :
    ∃ before' after', DeskOk { s with
        journal := s.journal.settle id se
        replay := none
        applied := Desk.outcome s.applied id se } before' after' := by
  have hre := h.replay
  rw [hr] at hre
  obtain ⟨left, e, right, rfl, rfl⟩ := hre
  obtain ⟨before', after', hc, hor, hsu⟩ := settle_after h.cut h.ordered hs
    (fun ed he => h.cut.eq_nil_of_position (hp ed he))
  exact ⟨before', after', h.shrink hc hor hsu rfl trivial⟩

/-- An undo that needs no settling moves back across the cursor. -/
lemma completeUndo (hr : s.replay = some ⟨id, false⟩) : ∃ before' after', DeskOk { s with
        journal := s.journal.complete false
        replay := none
        applied := update s.applied id false } before' after' := by
  have hre := h.replay
  rw [hr] at hre
  obtain ⟨rest, e, rfl, rfl, hh⟩ := hre
  obtain ⟨hb, ha⟩ := ne_of_cut_before h.cut
  refine ⟨rest, e :: after, h.shrink h.cut.complete_undo ?_ (by simp) rfl trivial⟩
  have hu := h.ordered.erase_before.update hb ha false
  rw [append_nil] at hu
  have hc : Ordered _ rest ([] ++ e :: after) := Ordered.insert_after hu ⟨hh, update_self _ _ _⟩
  exact hc

/-- A redo that needs no settling moves across the cursor. -/
lemma completeRedo (hr : s.replay = some ⟨id, true⟩)
    (hp : s.journal.position id = some s.journal.cursor) :
    ∃ before' after', DeskOk { s with
        journal := s.journal.complete true
        replay := none
        applied := update s.applied id true } before' after' := by
  have hre := h.replay
  rw [hr] at hre
  obtain ⟨left, e, right, rfl, rfl⟩ := hre
  obtain rfl := h.cut.eq_nil_of_position hp
  obtain ⟨hb, ha⟩ := ne_of_cut_after h.cut
  refine ⟨before ++ [e], right, h.shrink h.cut.complete_redo ?_ (by simp) rfl trivial⟩
  refine Ordered.insert_before ?_ (.inr (update_self _ _ _))
  rw [append_nil]
  exact h.ordered.erase_after.update hb ha true

/-- **An undo is held** in its place. -/
theorem holdUndo (hr : s.replay = some ⟨id, false⟩) (nm : String) : ∃ before' after', DeskOk
      { s with journal := s.journal.hold id nm, replay := none } before' after' := by
  have hre := h.replay
  rw [hr] at hre
  obtain ⟨rest, e, rfl, rfl, -⟩ := hre
  refine ⟨rest ++ [holding e nm], after,
    h.shrink (h.cut.hold_before nm) ?_ (by simp [holding]) rfl trivial⟩
  exact h.ordered.erase_before.insert_before (.inl rfl)

/-- **A redo is held** among the applied steps, when its place stands at the cursor. -/
theorem holdRedo (hr : s.replay = some ⟨id, true⟩)
    (hp : s.journal.position id = some s.journal.cursor) (nm : String) : ∃ before' after', DeskOk
      { s with journal := s.journal.hold id nm, replay := none } before' after' := by
  have hre := h.replay
  rw [hr] at hre
  obtain ⟨left, e, right, rfl, rfl⟩ := hre
  obtain rfl := h.cut.eq_nil_of_position hp
  have hc := h.cut.hold_after nm
  refine ⟨before ++ [holding e nm], right, h.shrink hc ?_ (by simp [holding]) rfl trivial⟩
  refine Ordered.insert_before ?_ (.inl rfl)
  rw [append_nil]
  exact h.ordered.erase_after

end DeskOk

end

/-- A journal keeps its order on any cut of it. -/
lemma Integrity.ordered (h : Integrity s) (hc : StudioJournal.Cut s.journal before after) :
    Ordered s.applied before after := by
  have ht : s.journal.entries.take s.journal.cursor = before := by
    rw [hc.entries, hc.cursor, take_left']
    rfl
  have hd : s.journal.entries.drop s.journal.cursor = after := by
    rw [hc.entries, hc.cursor, drop_left']
    rfl
  exact ⟨fun e he => h.before e (by rwa [ht]), fun e he => h.after e (by rwa [hd])⟩

section

variable (h : DeskOk s before after) (hstep : Desk.Step s ev t)
include h hstep

/-- **A redo that lands behind the cursor** leaves an applied or held step there. -/
theorem DeskOk.misplaced {r : Replay} (hp : ev.puts) (hr : s.replay = some r)
    (hrd : r.redo) (hpl : s.journal.position r.id ≠ some s.journal.cursor) : ¬ Integrity t := by
  intro hint
  obtain ⟨id, redo⟩ := r
  obtain rfl : redo := hrd
  have hre := h.replay
  rw [hr] at hre
  obtain ⟨left, e, right, rfl, rfl⟩ := hre
  have hl : left ≠ [] := by
    rintro rfl
    refine hpl ?_
    rw [h.cut.position_after, h.cut.cursor]
    rfl
  cases hstep with
  | settleReplay r se hr' hs =>
      obtain rfl := Option.mem_unique hr hr'
      rcases se with _ | ed | ed
      · simp [Event.puts] at hp
      · have hc := h.cut.settle_after (.applied ed)
        simp only [if_neg hl] at hc
        have hn := ((hint.ordered hc).after ⟨e.id, ed, false⟩ (by simp)).2
        change update s.applied e.id true e.id = false at hn
        rw [update_self] at hn
        exact absurd hn (by decide)
      · simp [Event.puts] at hp
  | complete r hr' =>
      obtain rfl := Option.mem_unique hr hr'
      obtain ⟨x, left', rfl⟩ := exists_cons_of_ne_nil hl
      have hc := StudioJournal.Cut.complete_redo (e := x) h.cut
      have hn := ((hint.ordered hc).after e (by simp)).2
      change update s.applied e.id true e.id = false at hn
      rw [update_self] at hn
      exact absurd hn (by decide)
  | holdReplay r nm hr' =>
      obtain rfl := Option.mem_unique hr hr'
      have hc := h.cut.hold_after nm
      rw [if_neg hl] at hc
      have hn := ((hint.ordered hc).after (holding e nm) (by simp)).1
      simp [holding, Entry.held, StudioEdit.isUnresolved] at hn
  | _ => simp [Event.puts] at hp

/-- **One step in place.** -/
theorem DeskOk.step (hpl : InPlace ev s) : ∃ before' after', DeskOk t before' after' := by
  cases hstep with
  | record ed hr => exact ⟨_, _, h.record hr ed⟩
  | recordHeld ed nm hr =>
      have hre := h.record hr ed
      exact ⟨_, _, DeskOk.holdNewest hre hr nm⟩
  | start redo id ed hr hw hp => exact ⟨_, _, h.start hw hp⟩
  | settleReplay r se hr hs =>
      obtain ⟨id, _ | _⟩ := r
      · exact h.settleUndo hr hs
      · refine h.settleRedo hr hs ?_
        rintro ed rfl
        exact hpl rfl _ hr rfl
  | complete r hr =>
      obtain ⟨id, _ | _⟩ := r
      · exact h.completeUndo hr
      · exact h.completeRedo hr (hpl rfl _ hr rfl)
  | holdReplay r nm hr =>
      obtain ⟨id, _ | _⟩ := r
      · exact h.holdUndo hr nm
      · exact h.holdRedo hr (hpl rfl _ hr rfl) nm
  | abandon => exact ⟨_, _, h.shrink h.cut h.ordered (refl _) rfl trivial⟩
  | settleHeld id se hw hs => exact h.settleHeld hw hs
  | holdAgain id nm hw => exact h.holdAgain hw
  | switch =>
      refine ⟨[], [], ⟨rfl, rfl, nodup_nil⟩, ⟨by simp, by simp⟩, by simp, by simp, trivial⟩

/-- **A new record keeps the held places**, but for the oldest step of a full journal. -/
theorem DeskOk.keepsHeld (hre : ev.records) : KeepsHeld s t := by
  intro x hx hh
  have hb : x ∈ before := by
    rw [h.cut.entries] at hx
    obtain ⟨left, right, rfl⟩ := h.ordered.split_held hx hh
    simp
  have hro := h.room
  rw [length_map, length_append] at hro
  have hk : x ∈ kept before ∨ s.journal.cursor = maxHistoryDepth ∧ s.journal.entries.head? = some x := by
    rw [kept]
    split_ifs with hf
    · obtain ⟨y, rest, rfl⟩ := exists_cons_of_ne_nil (ne_nil_of_mem hb)
      rcases mem_cons.mp hb with rfl | hrs
      · refine .inr ⟨by rw [h.cut.cursor]; omega, by rw [h.cut.entries]; rfl⟩
      · exact .inl hrs
    · exact .inl hb
  refine hk.imp_left ?_
  intro hi
  cases hstep with
  | record ed hr =>
      rw [(h.record hr ed).cut.entries]
      exact mem_append_left _ (mem_append_left _ hi)
  | recordHeld ed nm hr =>
      have hrc := h.record hr ed
      rw [(DeskOk.holdNewest hrc hr nm).cut.entries]
      exact mem_append_left _ (mem_append_left _ hi)
  | _ => simp [Event.records] at hre

end

end steps

/-! ## Runs -/

/-- What holds of every run whose redos end in place. -/
lemma deskOk_of_reachable (h : ((Desk.machine K).restrict InPlace).Reachable s) :
    ∃ before after, DeskOk s before after := by
  induction h with
  | init h =>
      obtain rfl : _ = Desk.new := h
      exact ⟨[], [], ⟨rfl, rfl, nodup_nil⟩, ⟨by simp, by simp⟩, by simp, by simp, trivial⟩
  | step _ hs ih =>
      obtain ⟨before, after, hok⟩ := ih
      exact hok.step hs.1 hs.2

/-- **The journal keeps its integrity in exactly the runs whose redos end in place**: up to a redo
that does not, every state has it and every new record keeps the held places; with the first one
that does not it is gone. -/
theorem journal_integrity {s : Desk K} (h : ((Desk.machine K).restrict InPlace).Reachable s) :
    Integrity s ∧ ∀ event t, Desk.Step s event t →
      (event.records → KeepsHeld s t) ∧ (InPlace event s ↔ Integrity t) := by
  obtain ⟨before, after, hok⟩ := deskOk_of_reachable h
  refine ⟨hok.integrity, ?_⟩
  intro event t hstep
  refine ⟨hok.keepsHeld hstep, ?_, ?_⟩
  · intro hpl
    obtain ⟨before', after', hok'⟩ := hok.step hstep hpl
    exact hok'.integrity
  · intro hint hp r hr hre
    by_contra hpl
    exact hok.misplaced hstep hp hr hre hpl hint

/-! ## A redo overtaken -/

section overtaken

lemma InPlace.of_not_puts (h : ev.puts = false) : InPlace ev s := by
  intro hp
  rw [h] at hp
  simp at hp

lemma InPlace.of_undo (h : s.replay = some ⟨id, false⟩) : InPlace ev s := by
  intro _ r hr hre
  rw [h, Option.some.injEq] at hr
  rw [← hr] at hre
  simp at hre

lemma Desk.Waits.of_edit (h : s.journal.edit id = some ed) (hh : ed.isUnresolved) : s.Waits id := by
  intro ed' he
  rw [h, Option.some.injEq] at he
  rwa [← he]

/-- An output is added to a zone. -/
def added : StudioEdit blank := .members [⟨none, some ⟨"desk", (), 0⟩⟩]

/-- A held undo, a held edit above it, and a redo in flight above both: the edit turns out not to
have landed, then the undo to have. -/
lemma redo_overtaken : ∃ s : Desk blank,
    ((Desk.machine blank).restrict InPlace).Reachable s ∧ s.replay = some ⟨3, true⟩ ∧
      s.journal.entries = [⟨1, added, false⟩, ⟨3, added, false⟩] ∧ s.journal.cursor = 0 := by
  have h₀ : ((Desk.machine blank).restrict InPlace).Reachable .new := .init rfl
  have h₁ := h₀.step ⟨.record _ added rfl, .of_not_puts rfl⟩
  have h₂ := h₁.step ⟨.start _ false 1 added rfl rfl rfl, .of_not_puts rfl⟩
  have h₃ := h₂.step ⟨.holdReplay _ _ "undoing the assignment" rfl, .of_undo rfl⟩
  have h₄ := h₃.step ⟨.record _ (.unresolved "the rename") rfl, .of_not_puts rfl⟩
  have h₅ := h₄.step ⟨.record _ added rfl, .of_not_puts rfl⟩
  have h₆ := h₅.step ⟨.start _ false 3 added rfl rfl rfl, .of_not_puts rfl⟩
  have h₇ := h₆.step ⟨.settleReplay _ _ (.unapplied added) rfl rfl, .of_undo rfl⟩
  have h₈ := h₇.step ⟨.start _ true 3 added rfl rfl rfl, .of_not_puts rfl⟩
  have h₉ := h₈.step ⟨.settleHeld _ 2 .gone (.of_edit rfl rfl) trivial, .of_not_puts rfl⟩
  have h₁₀ := h₉.step ⟨.settleHeld _ 1 (.unapplied added) (.of_edit rfl rfl) rfl, .of_not_puts rfl⟩
  exact ⟨_, h₁₀, rfl, rfl, rfl⟩

/-- Up to there the journal is what it should be, and the redo loses it by landing. -/
theorem journal_integrity_overtaken : ∃ s : Desk blank, s.replay = some ⟨3, true⟩ ∧
    Integrity s ∧ ∀ event t, Desk.Step s event t →
      (event.records → KeepsHeld s t) ∧ (InPlace event s ↔ Integrity t) := by
  obtain ⟨s, hs, hr, -, -⟩ := redo_overtaken
  exact ⟨s, hr, journal_integrity hs⟩

/-- The redo lands: its step is applied, behind the cursor, and an undo does not reach it. -/
theorem redo_lands_behind_cursor : ∃ s : Desk blank, (Desk.machine blank).Reachable s ∧
    s.journal.cursor = 0 ∧ s.applied 3 ∧ (∃ e ∈ s.journal.entries, e.id = 3) ∧ ¬ Integrity s := by
  obtain ⟨s, hs, hr, he, hc⟩ := redo_overtaken
  have hp : s.journal.position 3 = some 1 := by
    rw [position, he]
    rfl
  have hl := hs.of_restrict.step (Desk.Step.settleReplay s _ (.applied added) hr rfl)
  have hj : s.journal.settle 3 (.applied added) =
      { s.journal with entries := [⟨1, added, false⟩, ⟨3, added, false⟩], cursor := 0 } := by
    rw [settle_of_position hp, he, hc]
    rfl
  have hd : update s.applied 3 true 3 := update_self _ _ _
  refine ⟨_, hl, ?_, hd, ?_, ?_⟩
  · change (s.journal.settle 3 (.applied added)).cursor = 0
    rw [hj]
  · change ∃ e ∈ (s.journal.settle 3 (.applied added)).entries, e.id = 3
    rw [hj]
    exact ⟨⟨3, added, false⟩, by simp, rfl⟩
  · intro hint
    have ha := hint.after ⟨3, added, false⟩
    change (_ ∈ (s.journal.settle 3 (.applied added)).entries.drop
      (s.journal.settle 3 (.applied added)).cursor → _) at ha
    rw [hj] at ha
    have hn := (ha (by simp)).2
    change update s.applied 3 true 3 = false at hn
    simp at hn

end overtaken

end Hypercolor.Studio
