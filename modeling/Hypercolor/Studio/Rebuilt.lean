import Hypercolor.Lib.Machine
import Hypercolor.Studio.Held

/-!
# Zones made again under a new id

`StudioHistory` is the journal with the writes held, the rests of steps that wait for their turn and the
operation under way. One operation runs at a time; a new edit is recorded and a held write settles
at any time. `Operation.Ends` is every way an operation goes on or ends.

**Result.** `rebuilt_zone_unnamed`: after a zone is remapped, no entry at a place handed out by then
names the old id, and no undo or redo of one does, as long as nothing held names it when
`remap_zone` runs and no answer names it afterwards; the remap itself redirects every entry to the
new zone.

**What goes wrong.** `held_patch_names_old_zone`: `remap_zone` looks at entries only. A patch of the
zone that waits to settle carries the zone's id, and settles into an entry that names it after the
zone was deleted and made again.
-/

namespace Hypercolor.Studio

open List StudioJournal MemberEdit

variable {K : Kinds} {V : Looks K}

/-! ## Operations -/

/-- An operation under way, with what it took from the journal as it started. -/
inductive Operation (K : Kinds) where
  /-- An undo or redo; `remove` for a restore from the Undo bar. -/
  | replay (id : EntryId) (redo : Bool) (entry : StudioEdit K) (remove : Bool)
  /-- The undo of a zone's creation, its devices back where they came from. -/
  | uncreating (id : EntryId) (zoneId : ZoneId) (name : String) (color : Option String)
      (filledNow : List (MemberEdit K)) (movedOut : Bool)
  /-- The redo of a zone's creation, the zone made again. -/
  | recreating (id : EntryId) (zoneId : ZoneId) (name : String) (color : Option String)
      (filled : List (MemberEdit K))
  /-- The rest of a step whose first write was held. -/
  | resume (item : Unresolved K) (did : StudioEdit K)

namespace Operation

/-- The place of the step in the journal. -/
def place : Operation K → EntryId
  | replay id _ _ _ | uncreating id _ _ _ _ _ | recreating id _ _ _ _ => id
  | resume item _ => item.entry

/-- The zones the operation goes on to name. One that refills a zone moves into it whatever it was
filled with, from where the scene has it. -/
def zones : Operation K → List ZoneId
  | replay _ _ entry _ => entry.zones
  | uncreating _ zoneId _ _ filledNow _ => zoneId :: memberZones filledNow
  | recreating _ zoneId _ _ _ => [zoneId]
  | resume item did => item.zones ++ did.zones

end Operation

/-- How an operation leaves the journal and what is held. -/
inductive Ending (K : Kinds) where
  | settle (settled : Settled K)
  | complete (redo : Bool)
  | hold (name : String) (write : HeldWrite K) (next : Then K)
  | rebuilt (record : DeletedZone K) (zoneId : ZoneId) (remove : Bool)
  | remade (old zoneId : ZoneId) (rest : Operation K)
  | goesOn (rest : Operation K)
  /-- The scene could not be read: the rest waits for the next settling. -/
  | again
  | nothing

/-- `StudioHistory::settle_zone_entry` -/
def zoneEntrySettled (redo : Bool) (entry : StudioEdit K) (remove : Bool) : Settled K :=
  if remove then .gone else if redo then .applied entry else .unapplied entry

/-- `StudioHistory::settle_created` -/
def createdSettled (redo : Bool) (entry : StudioEdit K) : Settled K :=
  let remove :=
    match entry with
    | .members changes => changes.isEmpty
    | _ => false
  zoneEntrySettled redo entry remove

/-- `prepare_members_replay`: the changes go between the same zones; outputs and positions are read
anew. -/
def SameZones (request changes : List (MemberEdit K)) : Prop :=
  request.map zones = changes.map zones

/-- The zones a membership request takes outputs from, as the scene has them. -/
def memberHomes (changes : List (MemberEdit K)) : List ZoneId :=
  changes.flatMap fun change => change.before.toList.map MemberState.zoneId

/-- `replay_now`, `replay_members`, `replay_zone_patched`, `replay_zone_deleted`, `take_down_zone`,
`rebuild_zone`, `uncreate_zone`, `finish_uncreate`, `recreate_zone`, `finish_recreate`,
`resume_now`: what an operation comes to, with the zones the daemon named in what the operation
heard: a receipt, the zone it made, the zones it found outputs in. -/
inductive Operation.Ends : Operation K → List ZoneId → Ending K → Prop where
  | nothing (operation : Operation K) : Ends operation [] .nothing
  | layout (id : EntryId) (redo : Bool) (zoneId : ZoneId) (before after : K.Snapshot) :
      Ends (.replay id redo (.layout zoneId before after) false) [] (.complete redo)
  | noMembers (id : EntryId) (redo : Bool) :
      Ends (.replay id redo (.members []) false) [] (.complete redo)
  | members (id : EntryId) (redo : Bool) (changes receipt : List (MemberEdit K)) :
      Ends (.replay id redo (.members changes) false) (memberZones receipt)
        (.settle (if redo then .applied (.members receipt)
          else .unapplied (.members (receipt.map flip))))
  | membersHeld (id : EntryId) (redo : Bool) (changes request : List (MemberEdit K))
      (name : String)
      (hrequest : SameZones request (if redo then changes else changes.map flip)) :
      Ends (.replay id redo (.members changes) false) []
        (.hold name (.members request) (.replay (.members changes) redo))
  | patched (id : EntryId) (redo : Bool) (zoneId : ZoneId) (before after : K.Patch) :
      Ends (.replay id redo (.zonePatched zoneId before after) false) []
        (.settle (zoneEntrySettled redo (.zonePatched zoneId before after) false))
  | patchHeld (id : EntryId) (redo : Bool) (zoneId : ZoneId) (before after : K.Patch)
      (name : String) :
      Ends (.replay id redo (.zonePatched zoneId before after) false) []
        (.hold name
          (if redo then .patch zoneId before after else .patch zoneId after before)
          (.replay (.zonePatched zoneId before after) redo))
  | rebuilt (id : EntryId) (record : DeletedZone K) (remove : Bool) (zoneId : ZoneId) :
      Ends (.replay id false (.zoneDeleted record) remove) [zoneId]
        (.rebuilt record zoneId remove)
  | rebuildHeld (id : EntryId) (record : DeletedZone K) (remove : Bool) (name : String) :
      Ends (.replay id false (.zoneDeleted record) remove) []
        (.hold name (.create record.name record.color) (.resume (.rebuild record remove)))
  | deletedAgain (id : EntryId) (record record' : DeletedZone K)
      (hzone : record'.zoneId = record.zoneId) :
      Ends (.replay id true (.zoneDeleted record) false) [] (.settle (.applied (.zoneDeleted record')))
  | stranded (id : EntryId) (record : DeletedZone K) (released : List (MemberEdit K)) :
      Ends (.replay id true (.zoneDeleted record) false) (memberZones released)
        (.settle (.applied (.members released)))
  /-- The release takes the zone's own outputs, to nowhere. -/
  | releaseHeld (id : EntryId) (record : DeletedZone K) (request : List (MemberEdit K))
      (name : String) (hrequest : ∀ zone ∈ memberZones request, zone = record.zoneId) :
      Ends (.replay id true (.zoneDeleted record) false) []
        (.hold name (.members request) (.replay (.zoneDeleted record) true))
  | deleteHeld (id : EntryId) (record record' : DeletedZone K) (release : List (MemberEdit K))
      (name : String) (hzone : record'.zoneId = record.zoneId) :
      Ends (.replay id true (.zoneDeleted record) false) (memberZones release)
        (.hold name (.delete record' release) (.replay (.zoneDeleted record) true))
  | notFilled (id : EntryId) (zoneId : ZoneId) (name : String) (color : Option String) :
      Ends (.replay id false (.zoneCreated zoneId name color []) false) []
        (.goesOn (.uncreating id zoneId name color [] false))
  | movedOut (id : EntryId) (zoneId : ZoneId) (name : String) (color : Option String)
      (filled receipt : List (MemberEdit K)) (hfilled : filled ≠ []) :
      Ends (.replay id false (.zoneCreated zoneId name color filled) false) (memberZones receipt)
        (.goesOn (.uncreating id zoneId name color (receipt.map flip) true))
  | moveOutHeld (id : EntryId) (zoneId : ZoneId) (name : String) (color : Option String)
      (filled request : List (MemberEdit K)) (what : String) (hfilled : filled ≠ [])
      (hrequest : SameZones request (filled.map flip)) :
      Ends (.replay id false (.zoneCreated zoneId name color filled) false) []
        (.hold what (.members request) (.resume (.uncreate zoneId name color filled)))
  | removed (id : EntryId) (zoneId : ZoneId) (name : String) (color : Option String)
      (filledNow : List (MemberEdit K)) (movedOut : Bool) :
      Ends (.uncreating id zoneId name color filledNow movedOut) []
        (.settle (createdSettled false (.zoneCreated zoneId name color filledNow)))
  | kept (id : EntryId) (zoneId : ZoneId) (name : String) (color : Option String)
      (filledNow : List (MemberEdit K)) (movedOut : Bool) :
      Ends (.uncreating id zoneId name color filledNow movedOut) []
        (.settle (createdSettled false (.members filledNow)))
  | removeHeld (id : EntryId) (zoneId : ZoneId) (name : String) (color : Option String)
      (filledNow : List (MemberEdit K)) (movedOut : Bool) (record : DeletedZone K) (what : String)
      (hzone : record.zoneId = zoneId) :
      Ends (.uncreating id zoneId name color filledNow movedOut) []
        (.hold what (.delete record [])
          (.either (.unapplied (.zoneCreated zoneId name color filledNow))
            (if movedOut then .unapplied (.members filledNow)
              else .applied (.zoneCreated zoneId name color filledNow))))
  | remade (id : EntryId) (old : ZoneId) (name : String) (color : Option String)
      (filled : List (MemberEdit K)) (zoneId : ZoneId) (name' : String) (color' : Option String) :
      Ends (.replay id true (.zoneCreated old name color filled) false) [zoneId]
        (.remade old zoneId (.recreating id zoneId name' color' filled))
  | remakeHeld (id : EntryId) (old : ZoneId) (name : String) (color : Option String)
      (filled : List (MemberEdit K)) (what : String) :
      Ends (.replay id true (.zoneCreated old name color filled) false) []
        (.hold what (.create name color) (.resume (.recreate old name color filled)))
  | refilled (id : EntryId) (zoneId : ZoneId) (name : String) (color : Option String)
      (filled receipt : List (MemberEdit K)) :
      Ends (.recreating id zoneId name color filled) (memberZones receipt)
        (.settle (createdSettled true (.zoneCreated zoneId name color receipt)))
  | fillHeld (id : EntryId) (zoneId : ZoneId) (name : String) (color : Option String)
      (filled request : List (MemberEdit K)) (what : String)
      (hinto : ∀ change ∈ request, ∀ state, change.after = some state → state.zoneId = zoneId) :
      Ends (.recreating id zoneId name color filled) (memberHomes request)
        (.hold what (.members request) (.fill zoneId name color))
  | again (item : Unresolved K) (did : StudioEdit K) : Ends (.resume item did) [] .again
  | rebuildGone (item : Unresolved K) (did : StudioEdit K) (record : DeletedZone K)
      (remove : Bool) (hnext : item.next = .resume (.rebuild record remove)) :
      Ends (.resume item did) [] (.settle (.applied (.zoneDeleted record)))
  | resumeRebuilt (item : Unresolved K) (record : DeletedZone K) (remove : Bool) (zoneId : ZoneId)
      (name : String) (color : Option String)
      (hnext : item.next = .resume (.rebuild record remove)) :
      Ends (.resume item (.zoneCreated zoneId name color [])) [zoneId]
        (.rebuilt record zoneId remove)
  | resumeUncreate (item : Unresolved K) (receipt : List (MemberEdit K)) (zoneId : ZoneId)
      (name : String) (color : Option String) (filled : List (MemberEdit K))
      (hnext : item.next = .resume (.uncreate zoneId name color filled)) :
      Ends (.resume item (.members receipt)) []
        (.goesOn (.uncreating item.entry zoneId name color (receipt.map flip) true))
  | remakeGone (item : Unresolved K) (did : StudioEdit K) (old : ZoneId) (name : String)
      (color : Option String) (filled : List (MemberEdit K))
      (hnext : item.next = .resume (.recreate old name color filled)) :
      Ends (.resume item did) [] (.settle (.unapplied (.zoneCreated old name color filled)))
  | resumeRemade (item : Unresolved K) (old : ZoneId) (name : String) (color : Option String)
      (filled : List (MemberEdit K)) (zoneId : ZoneId) (name' : String) (color' : Option String)
      (hnext : item.next = .resume (.recreate old name color filled)) :
      Ends (.resume item (.zoneCreated zoneId name' color' [])) [zoneId]
        (.remade old zoneId (.recreating item.entry zoneId name' color' filled))

/-! ## Runs -/

/-- A remap that ran, and the last place handed out by then. -/
structure Remap where
  old : ZoneId
  new : ZoneId
  last : EntryId

/-- `StudioHistory`; the remaps are recorded for the statements only -/
structure StudioHistory (K : Kinds) where
  journal : StudioJournal K
  last : EntryId
  unresolved : List (Unresolved K)
  waiting : List (Unresolved K × StudioEdit K)
  running : Option (Operation K)
  remaps : List Remap

inductive StudioEvent (V : Looks K) where
  | record (edit : StudioEdit K)
  /-- A new edit whose write got no answer. -/
  | recordHeld (name : String) (write : HeldWrite K)
  /-- A zone was made, and the move that fills it got no answer. -/
  | recordFill (what : String) (write : HeldWrite K) (zoneId : ZoneId) (name : String)
      (color : Option String)
  | replay (redo : Bool)
  /-- A restore from the Undo bar, of a deletion that is not the latest edit. -/
  | restore (token : Nat)
  | ends (heard : List ZoneId) (ending : Ending K)
  | settle (item : Unresolved K) (told : Told V)
  | settleLearned (item : Unresolved K) (did : StudioEdit K)
  | resume (item : Unresolved K) (did : StudioEdit K)
  /-- Another scene became active. -/
  | switch

namespace StudioHistory

/-- `StudioHistory::hold`: hold a write at a place the journal still has. -/
def hold (s : StudioHistory K) (item : Unresolved K) : StudioHistory K :=
  if (s.journal.edit item.entry).isSome then { s with unresolved := s.unresolved ++ [item] } else s

/-- `StudioHistory::hold_place` -/
def holdPlace (s : StudioHistory K) (item : Unresolved K) : StudioHistory K :=
  hold { s with journal := s.journal.hold item.entry item.name } item

/-- `settle_rebuilt` for `rebuilt`, `hold_again` for `again`: the operation under way comes to
`ending`. -/
def ended (s : StudioHistory K) (operation : Operation K) : Ending K → StudioHistory K
  | .settle settled =>
      { s with journal := s.journal.settle operation.place settled, running := none }
  | .complete redo => { s with journal := s.journal.complete redo, running := none }
  | .hold name write next =>
      holdPlace { s with running := none } ⟨operation.place, name, write, next, none⟩
  | .rebuilt record zoneId remove =>
      let entry := .zoneDeleted { record with zoneId := zoneId }
      let journal := s.journal.settle operation.place (zoneEntrySettled false entry remove)
      { s with
        journal := journal.remapZone record.zoneId zoneId
        running := none
        remaps := ⟨record.zoneId, zoneId, s.last⟩ :: s.remaps }
  | .remade old zoneId rest =>
      { s with
        journal := s.journal.remapZone old zoneId
        running := some rest
        remaps := ⟨old, zoneId, s.last⟩ :: s.remaps }
  | .goesOn rest => { s with running := some rest }
  | .again =>
      match operation with
      | .resume item did =>
          { s with unresolved := s.unresolved ++ [{ item with learned := some did }], running := none }
      | _ => { s with running := none }
  | .nothing => { s with running := none }

/-- `settle_if_held`, `settle_held`: a held write settles, with what it did. -/
def settleHeld (s : StudioHistory K) (item : Unresolved K) (did : Option (StudioEdit K)) :
    StudioHistory K :=
  let unresolved := s.unresolved.eraseP fun held => held.entry == item.entry
  match item.next.settled did, did with
  | some settled, _ =>
      { s with journal := s.journal.settle item.entry settled, unresolved := unresolved }
  | none, some did =>
      { s with unresolved := unresolved, waiting := s.waiting ++ [(item, did)] }
  | none, none => { s with unresolved := unresolved }

variable (s : StudioHistory K) (item : Unresolved K)

lemma hold_remaps : (s.hold item).remaps = s.remaps := by
  rw [hold]
  split_ifs <;> rfl

lemma holdPlace_remaps : (s.holdPlace item).remaps = s.remaps := hold_remaps _ item

lemma settleHeld_remaps (did : Option (StudioEdit K)) : (s.settleHeld item did).remaps = s.remaps := by
  unfold settleHeld
  split <;> rfl

inductive Step : StudioHistory K → StudioEvent V → StudioHistory K → Prop where
  | record (s : StudioHistory K) (edit : StudioEdit K) :
      Step s (.record edit) { s with journal := s.journal.record s.last edit, last := s.last + 1 }
  | recordHeld (s : StudioHistory K) (name : String) (write : HeldWrite K) :
      Step s (.recordHeld name write)
        (hold { s with journal := s.journal.record s.last (.unresolved name), last := s.last + 1 }
          ⟨s.last + 1, name, write, .record, none⟩)
  | recordFill (s : StudioHistory K) (what : String) (write : HeldWrite K) (zoneId : ZoneId)
      (name : String) (color : Option String) :
      Step s (.recordFill what write zoneId name color)
        (holdPlace
          { s with
            journal := s.journal.record s.last (.zoneCreated zoneId name color [])
            last := s.last + 1 }
          ⟨s.last + 1, what, write, .fill zoneId name color, none⟩)
  | replay (s : StudioHistory K) (redo : Bool) (id : EntryId) (edit : StudioEdit K)
      (hr : s.running = none) (hw : s.journal.waitingOn redo = none)
      (hp : s.journal.replayed redo = some (id, edit)) :
      Step s (.replay redo) { s with running := some (.replay id redo edit false) }
  | restore (s : StudioHistory K) (token : Nat) (id : EntryId) (record : DeletedZone K)
      (hr : s.running = none) (hf : s.journal.undoableDeletion token = some id)
      (hl : s.journal.isLatest id = false)
      (he : s.journal.edit id = some (.zoneDeleted record)) :
      Step s (.restore token) { s with running := some (.replay id false (.zoneDeleted record) true) }
  | ends (s : StudioHistory K) (operation : Operation K) (heard : List ZoneId) (ending : Ending K)
      (hr : s.running = some operation) (he : operation.Ends heard ending) :
      Step s (.ends heard ending) (s.ended operation ending)
  | settle (s : StudioHistory K) (item : Unresolved K) (told : Told V) (hi : item ∈ s.unresolved)
      (hl : item.learned = none) :
      Step s (.settle item told) (s.settleHeld item (item.write.whatItDid told))
  | settleLearned (s : StudioHistory K) (item : Unresolved K) (did : StudioEdit K)
      (hi : item ∈ s.unresolved) (hl : item.learned = some did) :
      Step s (.settleLearned item did) (s.settleHeld item (some did))
  | resume (s : StudioHistory K) (item : Unresolved K) (did : StudioEdit K)
      (left right : List (Unresolved K × StudioEdit K)) (hr : s.running = none)
      (hw : s.waiting = left ++ (item, did) :: right) :
      Step s (.resume item did) { s with running := some (.resume item did), waiting := left ++ right }
  | switch (s : StudioHistory K) :
      Step s .switch { s with journal := .default, unresolved := [], waiting := [], running := none }

/-- A page that has just opened. -/
def new : StudioHistory K := ⟨.default, 0, [], [], none, []⟩

def machine (V : Looks K) : Lib.Machine (StudioHistory K) (StudioEvent V) where
  init s := s = new
  step := Step

end StudioHistory

/-! ## What is claimed -/

/-- The zones the daemon names in what an event brings. -/
def StudioEvent.heard : StudioEvent V → List ZoneId
  | .ends heard _ => heard
  | .settle _ told => told.zones
  | _ => []

/-- The remap an event runs. -/
def StudioEvent.remaps : StudioEvent V → Option (ZoneId × ZoneId)
  | .ends _ (.rebuilt deletion zoneId _) => some (deletion.zoneId, zoneId)
  | .ends _ (.remade old zoneId _) => some (old, zoneId)
  | _ => none

/-- Nothing that waits to settle or to go on names the zone. -/
def Unheld (s : StudioHistory K) (zone : ZoneId) : Prop :=
  (∀ item ∈ s.unresolved, zone ∉ item.zones) ∧ ∀ w ∈ s.waiting, zone ∉ w.1.zones ∧ zone ∉ w.2.zones

/-- No answer names a zone that was remapped away, and a remap finds nothing held that names the
zone it replaces. -/
structure Clear (event : StudioEvent V) (s : StudioHistory K) : Prop where
  heard : ∀ r ∈ s.remaps, r.old ∉ event.heard
  remap : ∀ old new, event.remaps = some (old, new) → old ∉ event.heard ∧ Unheld s old

variable {ev : StudioEvent V} {s t : StudioHistory K}

lemma Clear.of_no_remaps (hrm : s.remaps = []) (he : ev.remaps = none) : Clear ev s := by
  constructor
  · intro r hr
    rw [hrm] at hr
    exact absurd hr not_mem_nil
  · intro old new hre
    rw [he] at hre
    simp at hre

variable {old new z : ZoneId}

lemma Clear.of_nothing_held (hrm : s.remaps = []) (he : ev.remaps = some (old, new))
    (hu : s.unresolved = []) (hwt : s.waiting = []) (hh : old ∉ ev.heard) : Clear ev s := by
  constructor
  · intro r hr
    rw [hrm] at hr
    exact absurd hr not_mem_nil
  · intro old' new' hre
    rw [he, Option.some.injEq, Prod.mk.injEq] at hre
    rw [← hre.1]
    refine ⟨hh, ?_, ?_⟩
    · rw [hu]
      intro item hitem
      exact absurd hitem not_mem_nil
    · rw [hwt]
      intro w hw
      exact absurd hw not_mem_nil

/-- No entry at a place handed out by the remap names the old zone, and no undo or redo of one
does. -/
structure Unnamed (s : StudioHistory K) (r : Remap) : Prop where
  entries : ∀ e ∈ s.journal.entries, e.id ≤ r.last → r.old ∉ e.edit.zones
  running : ∀ operation, s.running = some operation → operation.place ≤ r.last →
    r.old ∉ operation.zones

/-- Every entry names the new zone where it named the old one; the deletion undone just now, if it
stays, is the new zone's. -/
def Redirected (s t : StudioHistory K) (old new : ZoneId) : Prop :=
  ∀ e ∈ t.journal.entries,
    (∃ e₀ ∈ s.journal.entries, e₀.id = e.id ∧ e.edit.zones = e₀.edit.zones.map (redirect old new)) ∨
      (∃ operation, s.running = some operation ∧ operation.place = e.id) ∧ e.edit.zones = [new]

/-! ## Entries after a method of the journal -/

section entries

variable {j : StudioJournal K} {e : Entry K} {id : EntryId}

lemma mem_record {ls : EntryId} {ed : StudioEdit K}
    (h : e ∈ (j.record ls ed).entries) : e ∈ j.entries ∨ e.id = ls + 1 := by
  rw [record_entries rfl] at h
  rcases mem_append.mp h with h | h
  · exact .inl (mem_of_mem_take ((kept_sublist _).subset h))
  · rw [mem_singleton.mp h]
    exact .inr rfl

lemma mem_settle {se : Settled K} (h : e ∈ (j.settle id se).entries) :
    e ∈ j.entries ∨ e.id = id ∧ se ≠ .gone ∧ e.edit.zones = se.zones := by
  rw [settle] at h
  split at h
  · exact .inl h
  · rcases se with _ | ed | ed
    · exact .inl (mem_of_mem_eraseIdx h)
    · rcases mem_or_eq_of_mem_set h with h | rfl
      · exact .inl h
      · exact .inr ⟨rfl, by simp, rfl⟩
    · simp only at h
      split_ifs at h
      · exact .inl (mem_of_mem_eraseIdx h)
      · rcases mem_or_eq_of_mem_set h with h | rfl
        · exact .inl h
        · exact .inr ⟨rfl, by simp, rfl⟩

lemma mem_hold {nm : String} (h : e ∈ (j.hold id nm).entries) : e ∈ j.entries ∨ e.edit.zones = [] := by
  rw [hold] at h
  split at h
  · exact .inl h
  · obtain ⟨i, hi, rfl⟩ := mem_iff_getElem.mp h
    rw [getElem_modify]
    split_ifs
    · exact .inr rfl
    · exact .inl (getElem_mem _)

lemma mem_complete {redo : Bool} (h : e ∈ (j.complete redo).entries) : e ∈ j.entries := by
  rw [complete] at h
  split_ifs at h <;> exact h

lemma mem_remapZone (h : e ∈ (j.remapZone old new).entries) :
    ∃ e₀ ∈ j.entries, e₀.id = e.id ∧ e.edit.zones = e₀.edit.zones.map (redirect old new) := by
  obtain ⟨e₀, he₀, rfl⟩ := mem_map.mp h
  exact ⟨e₀, he₀, rfl, StudioEdit.remapped_zones old new e₀.edit⟩

end entries

/-! ## Zones an operation ends with -/

/-- The zones an ending leaves in the journal, in what is held or in what goes on. -/
def Ending.zones : Ending K → List ZoneId
  | .settle settled => settled.zones
  | .hold _ write next => write.zones ++ next.zones
  | .rebuilt _ zoneId _ => [zoneId]
  | .remade _ _ rest | .goesOn rest => rest.zones
  | .complete _ | .again | .nothing => []

section ends

variable {operation rest : Operation K} {heard : List ZoneId} {ending : Ending K}

variable {rq : List (MemberEdit K)}

lemma SameZones.memberZones {changes : List (MemberEdit K)} (h : SameZones rq changes) :
    memberZones rq = memberZones changes := by
  exact congrArg List.flatten h

lemma zoneEntrySettled_zones (redo : Bool) (entry : StudioEdit K) (remove : Bool) :
    (zoneEntrySettled redo entry remove).zones ⊆ entry.zones := by
  rw [zoneEntrySettled]
  split_ifs
  · exact nil_subset _
  · exact List.Subset.refl _
  · exact List.Subset.refl _

lemma createdSettled_zones (redo : Bool) (entry : StudioEdit K) :
    (createdSettled redo entry).zones ⊆ entry.zones :=
  zoneEntrySettled_zones redo entry _

/-- A request that moves into a zone names that zone and the outputs' homes. -/
lemma memberZones_subset_of_into (h : ∀ ch ∈ rq, ∀ st, ch.after = some st → st.zoneId = z) :
    memberZones rq ⊆ z :: memberHomes rq := by
  intro zn hz
  obtain ⟨ch, hc, hm⟩ := mem_flatMap.mp hz
  obtain ⟨st, hs, rfl⟩ := mem_map.mp hm
  rcases mem_append.mp hs with hb | ha
  · refine mem_cons_of_mem _ (mem_flatMap.mpr ⟨ch, hc, ?_⟩)
    exact mem_map_of_mem hb
  · rw [h ch hc st (Option.mem_toList.mp ha)]
    exact mem_cons_self

/-- What an operation leaves names only what it named or heard of. -/
lemma Operation.Ends.zones_subset (h : operation.Ends heard ending) :
    ending.zones ⊆ operation.zones ++ heard := by
  have hle : ∀ {l : List ZoneId}, l ⊆ operation.zones → l ⊆ operation.zones ++ heard :=
    fun hl => List.Subset.trans hl (subset_append_left _ _)
  have hr : ∀ {l : List ZoneId}, l ⊆ heard → l ⊆ operation.zones ++ heard :=
    fun hl => List.Subset.trans hl (subset_append_right _ _)
  cases h with
  | nothing | layout | noMembers | again => exact nil_subset _
  | members id redo changes receipt =>
      refine hr ?_
      rcases redo with _ | _
      · intro zone hz
        exact mem_memberZones_flip.mp hz
      · exact List.Subset.refl _
  | membersHeld id redo changes rq name hre =>
      refine hle (append_subset.mpr ⟨?_, List.Subset.refl _⟩)
      intro zone hz
      rw [HeldWrite.zones, hre.memberZones] at hz
      rcases redo with _ | _
      · exact mem_memberZones_flip.mp hz
      · exact hz
  | patched id redo z before after => exact hle (zoneEntrySettled_zones redo _ false)
  | patchHeld id redo z before after name =>
      refine hle (append_subset.mpr ⟨?_, List.Subset.refl _⟩)
      rcases redo with _ | _ <;> exact List.Subset.refl _
  | rebuilt | stranded | remade | resumeRebuilt | resumeRemade => exact hr (List.Subset.refl _)
  | rebuildHeld | notFilled | remakeHeld => exact hle (List.Subset.refl _)
  | deletedAgain id record record' hz =>
      simp [Ending.zones, Settled.zones, StudioEdit.zones, Operation.zones, hz]
  | releaseHeld id record rq name hre =>
      refine hle (append_subset.mpr ⟨?_, List.Subset.refl _⟩)
      intro zone hz
      rw [hre zone hz]
      exact mem_cons_self
  | deleteHeld id record record' release name hz =>
      refine append_subset.mpr ⟨?_, hle (List.Subset.refl _)⟩
      refine cons_subset.mpr ⟨?_, hr (List.Subset.refl _)⟩
      rw [hz]
      exact mem_cons_self
  | movedOut id z name color filled receipt hf =>
      refine cons_subset.mpr ⟨mem_cons_self, hr ?_⟩
      intro zone hz
      exact mem_memberZones_flip.mp hz
  | moveOutHeld id z name color filled rq what hf hre =>
      refine hle (append_subset.mpr ⟨?_, List.Subset.refl _⟩)
      intro zone hz
      rw [HeldWrite.zones, hre.memberZones] at hz
      exact mem_cons_of_mem _ (mem_memberZones_flip.mp hz)
  | removed id z name color filledNow movedOut =>
      have he := createdSettled_zones false (StudioEdit.zoneCreated z name color filledNow)
      exact hle he
  | kept =>
      refine hle (List.Subset.trans (createdSettled_zones false _) ?_)
      exact subset_cons_self _ _
  | removeHeld id z name color filledNow movedOut record what hz =>
      have hno : memberZones filledNow ⊆ z :: memberZones filledNow := subset_cons_self _ _
      refine hle (append_subset.mpr ⟨?_, append_subset.mpr ⟨List.Subset.refl _, ?_⟩⟩)
      · refine cons_subset.mpr ⟨?_, nil_subset _⟩
        rw [hz]
        exact mem_cons_self
      · rcases movedOut with _ | _
        · exact List.Subset.refl _
        · exact hno
  | refilled id z name color filled receipt =>
      have he := createdSettled_zones true (StudioEdit.zoneCreated z name color receipt)
      exact cons_subset.mpr ⟨mem_cons_self, hr (List.Subset.refl _)⟩
  | fillHeld id z name color filled rq what hi =>
      refine append_subset.mpr ⟨memberZones_subset_of_into hi, ?_⟩
      exact hle (List.Subset.refl _)
  | rebuildGone item did record remove hn | remakeGone item did old name color filled hn =>
      refine hle ?_
      intro zone hz
      simp only [Operation.zones, Unresolved.zones, hn, mem_append]
      exact .inl (.inl (.inr hz))
  | resumeUncreate item receipt z name color filled hn =>
      refine hle ?_
      intro zone hz
      simp only [Operation.zones, Unresolved.zones, hn, mem_append]
      rcases mem_cons.mp hz with rfl | hz
      · exact .inl (.inl (.inr mem_cons_self))
      · exact .inr (mem_memberZones_flip.mp hz)

/-- An operation that goes on stays at its place. -/
lemma Operation.Ends.place_goesOn (h : operation.Ends heard (.goesOn rest)) :
    rest.place = operation.place := by
  cases h <;> rfl

/-- A zone made again is named by the daemon, and is all the rest of the step goes on to name. -/
lemma Operation.Ends.remade_spec (h : operation.Ends heard (.remade old z rest)) :
    rest.place = operation.place ∧ heard = [z] ∧ rest.zones = [z] := by
  cases h <;> exact ⟨rfl, rfl, rfl⟩

lemma Operation.Ends.rebuilt_spec {rec : DeletedZone K} {remove : Bool}
    (h : operation.Ends heard (.rebuilt rec z remove)) : heard = [z] := by
  cases h <;> rfl

/-- What waits for another turn is what was resumed. -/
lemma Operation.Ends.again_spec (h : operation.Ends heard .again) :
    ∃ item did, operation = .resume item did := by
  cases h
  exact ⟨_, _, rfl⟩

end ends

/-! ## What a remap leaves -/

/-- Nothing of the places handed out by the remap names the old zone: no entry, nothing held there,
nothing that waits to go on, no operation under way. -/
structure Clean (s : StudioHistory K) (r : Remap) : Prop extends Unnamed s r where
  last : r.last ≤ s.last
  held : ∀ item ∈ s.unresolved, item.entry ≤ r.last → r.old ∉ item.zones
  waiting : ∀ w ∈ s.waiting, w.1.entry ≤ r.last → r.old ∉ w.1.zones ∧ r.old ∉ w.2.zones

section clean

variable {r : Remap} {operation : Operation K} {heard : List ZoneId} {ending : Ending K}
  {item : Unresolved K}

lemma Clean.journal (h : Clean s r) {journal : StudioJournal K}
    (hj : ∀ e ∈ journal.entries, e.id ≤ r.last → e ∈ s.journal.entries ∨ r.old ∉ e.edit.zones) :
    Clean { s with journal := journal } r := by
  refine ⟨⟨?_, h.running⟩, h.last, h.held, h.waiting⟩
  intro e he hl
  rcases hj e he hl with hm | hn
  · exact h.entries e hm hl
  · exact hn

lemma Clean.goesOn (h : Clean s r) {running : Option (Operation K)}
    (hr : ∀ operation, running = some operation → operation.place ≤ r.last →
      r.old ∉ operation.zones) : Clean { s with running := running } r :=
  ⟨⟨h.entries, hr⟩, h.last, h.held, h.waiting⟩

lemma Clean.idle (h : Clean s r) : Clean { s with running := none } r :=
  h.goesOn (fun _ hn => by simp at hn)

section

variable (h : Clean s r) (hitem : item.entry ≤ r.last → r.old ∉ item.zones)
include h hitem

lemma Clean.push : Clean { s with unresolved := s.unresolved ++ [item] } r := by
  refine ⟨⟨h.entries, h.running⟩, h.last, ?_, h.waiting⟩
  intro o hoh hl
  rcases mem_append.mp hoh with hm | hn
  · exact h.held o hm hl
  · rw [mem_singleton] at hn
    rw [hn] at hl ⊢
    exact hitem hl

lemma Clean.hold : Clean (s.hold item) r := by
  rw [StudioHistory.hold]
  split_ifs
  · exact h.push hitem
  · exact h

lemma Clean.holdPlace : Clean (s.holdPlace item) r := by
  refine Clean.hold (h.journal ?_) hitem
  intro e he _
  refine (mem_hold he).imp_right ?_
  intro hn
  rw [hn]
  exact not_mem_nil

end

/-- A place settled into an entry that does not name the zone. -/
lemma Clean.settle (h : Clean s r) (id : EntryId) (se : Settled K) (hs : id ≤ r.last → r.old ∉ se.zones) :
    Clean { s with journal := s.journal.settle id se } r := by
  refine h.journal ?_
  intro e he hl
  refine (mem_settle he).imp_right ?_
  rintro ⟨rfl, -, hz⟩
  rw [hz]
  exact hs hl

/-- Another zone is remapped, to one that is not the old one. -/
lemma Clean.remapZone (h : Clean s r) (old : ZoneId) (hn : r.old ≠ new) :
    Clean { s with journal := s.journal.remapZone old new } r := by
  refine h.journal ?_
  intro e he hl
  obtain ⟨e₀, he₀, hi, hz⟩ := mem_remapZone he
  refine .inr ?_
  rw [hz]
  intro hm
  exact h.entries e₀ he₀ (hi ▸ hl) (mem_of_mem_map_redirect hn hm)

/-- Which remaps ran is recorded for the statements only. -/
lemma Clean.logged (h : Clean s r) (remaps : List Remap) : Clean { s with remaps := remaps } r :=
  ⟨⟨h.entries, h.running⟩, h.last, h.held, h.waiting⟩

/-- A new place is none of those handed out by the remap. -/
lemma Clean.record (h : Clean s r) (ed : StudioEdit K) :
    Clean { s with journal := s.journal.record s.last ed, last := s.last + 1 } r := by
  have hj : Clean { s with journal := s.journal.record s.last ed } r := by
    refine h.journal ?_
    intro e he hl
    rcases mem_record he with hm | hi
    · exact .inl hm
    · rw [hi] at hl
      exact absurd (Nat.le_trans hl h.last) (Nat.not_succ_le_self s.last)
  exact ⟨⟨hj.entries, hj.running⟩, Nat.le_succ_of_le h.last, hj.held, hj.waiting⟩

/-- **A held write settles.** -/
theorem Clean.settleHeld (h : Clean s r) {did : Option (StudioEdit K)}
    (hitem : item.entry ≤ r.last → r.old ∉ item.zones)
    (hd : item.entry ≤ r.last → ∀ ed, did = some ed → r.old ∉ ed.zones) :
    Clean (s.settleHeld item did) r := by
  have hh : Clean { s with unresolved := s.unresolved.eraseP (·.entry == item.entry) } r := by
    refine ⟨⟨h.entries, h.running⟩, h.last, ?_, h.waiting⟩
    intro o hoh
    exact h.held o (mem_of_mem_eraseP hoh)
  rcases hs : item.next.settled did with _ | se
  · rcases did with _ | ed
    · simp only [StudioHistory.settleHeld, hs]
      exact hh
    · simp only [StudioHistory.settleHeld, hs]
      refine ⟨⟨hh.entries, hh.running⟩, hh.last, hh.held, ?_⟩
      intro w hw hl
      rcases mem_append.mp hw with hm | hn
      · exact h.waiting w hm hl
      · rw [mem_singleton] at hn
        rw [hn] at hl ⊢
        exact ⟨hitem hl, hd hl ed rfl⟩
  · simp only [StudioHistory.settleHeld, hs]
    refine hh.settle _ _ ?_
    intro hl hm
    rcases mem_append.mp (settled_zones hs hm) with hne | he
    · refine hitem hl ?_
      exact mem_append_left _ (mem_append_right _ hne)
    · obtain ⟨ed, hso, he⟩ := mem_flatMap.mp he
      exact hd hl ed (Option.mem_toList.mp hso) he

/-- **An operation ends or goes on**, having heard nothing of the zone. -/
theorem Clean.ended (h : Clean s r) (hr : s.running = some operation)
    (he : operation.Ends heard ending) (hh : r.old ∉ heard) : Clean (s.ended operation ending) r := by
  have hz : operation.place ≤ r.last → r.old ∉ ending.zones := by
    intro hl hm
    rcases mem_append.mp (he.zones_subset hm) with hop | hnw
    · exact h.running operation hr hl hop
    · exact hh hnw
  cases ending with
  | settle se => exact h.idle.settle _ se hz
  | complete redo =>
      refine h.idle.journal ?_
      intro e he' _
      exact .inl (mem_complete he')
  | hold nm w nx =>
      refine h.idle.holdPlace ?_
      intro hl hm
      refine hz hl ?_
      simpa [Unresolved.zones, Ending.zones] using hm
  | rebuilt rec z remove =>
      have hne : r.old ≠ z := by
        rintro heq
        rw [he.rebuilt_spec] at hh
        exact hh (mem_singleton.mpr heq)
      have hs := h.idle.settle operation.place
        (zoneEntrySettled false (.zoneDeleted { rec with zoneId := z }) remove)
        (fun hl hm => hz hl (zoneEntrySettled_zones false _ remove hm))
      exact (hs.remapZone rec.zoneId hne).logged _
  | remade old z rest =>
      obtain ⟨hp, hh', -⟩ := he.remade_spec
      have hne : r.old ≠ z := by
        rintro heq
        rw [hh'] at hh
        exact hh (mem_singleton.mpr heq)
      have hg : Clean { s with running := some rest } r := by
        refine h.goesOn ?_
        intro op hop hl
        obtain rfl := Option.some.inj hop
        rw [hp] at hl
        exact hz hl
      exact (hg.remapZone old hne).logged _
  | goesOn rest =>
      refine h.goesOn ?_
      intro op hop hl
      obtain rfl := Option.some.inj hop
      rw [he.place_goesOn] at hl
      exact hz hl
  | again =>
      obtain ⟨item, did, rfl⟩ := he.again_spec
      have hrn := h.running _ hr
      refine Clean.push h.idle ?_
      intro hl hm
      refine hrn hl ?_
      simp only [Unresolved.zones, Operation.zones, mem_append, Option.toList_some,
        flatMap_cons, flatMap_nil, append_nil] at hm ⊢
      rcases hm with (hw | hn) | hd
      · exact .inl (.inl (.inl hw))
      · exact .inl (.inl (.inr hn))
      · exact .inr hd
  | nothing => exact h.idle

/-- **One step**, for a remap that already ran. -/
theorem Clean.step (h : Clean s r) (hs : StudioHistory.Step s ev t) (hh : r.old ∉ ev.heard) :
    Clean t r := by
  have hn : s.last + 1 ≤ r.last → False := by
    intro hle
    exact Nat.not_succ_le_self s.last (Nat.le_trans hle h.last)
  cases hs with
  | record ed => exact h.record ed
  | recordHeld nm wr =>
      refine (h.record _).hold ?_
      intro hle
      exact (hn hle).elim
  | recordFill what wr z nm color =>
      refine (h.record _).holdPlace ?_
      intro hle
      exact (hn hle).elim
  | replay redo id ed hr hw hp =>
      refine h.goesOn ?_
      intro operation hop hle
      obtain rfl := Option.some.inj hop
      obtain ⟨e, he, hid, hed⟩ := mem_of_replayed hp
      rw [Operation.zones, ← hed]
      exact h.entries e he (hid ▸ hle)
  | restore token id rec hr hf hl he =>
      refine h.goesOn ?_
      intro operation hop hle
      obtain rfl := Option.some.inj hop
      obtain ⟨e, hm, hid, hed⟩ := mem_of_edit he
      rw [Operation.zones, ← hed]
      exact h.entries e hm (hid ▸ hle)
  | ends operation heard ending hr he => exact h.ended hr he hh
  | settle item told hi hl =>
      have hitem := h.held item hi
      refine h.settleHeld hitem ?_
      intro hle ed hd hm
      rcases mem_append.mp (whatItDid_zones hd hm) with hwr | ht
      · exact hitem hle (mem_append_left _ (mem_append_left _ hwr))
      · exact hh ht
  | settleLearned item did hi hl =>
      have hitem := h.held item hi
      refine h.settleHeld hitem ?_
      intro hle ed hd hm
      obtain rfl := Option.some.inj hd
      refine hitem hle (mem_append_right _ ?_)
      simpa [hl] using hm
  | resume item did left right hr hw =>
      have hitem := h.waiting (item, did) (by simp [hw])
      have hlf : Clean { s with waiting := left ++ right } r := by
        refine ⟨⟨h.entries, h.running⟩, h.last, h.held, ?_⟩
        intro w hm
        refine h.waiting w ?_
        rw [hw]
        exact ((List.Sublist.refl _).append (sublist_cons_self _ _)).subset hm
      refine hlf.goesOn ?_
      intro operation hop hle hm
      obtain rfl := Option.some.inj hop
      rcases mem_append.mp hm with hin | hd
      · exact (hitem hle).1 hin
      · exact (hitem hle).2 hd
  | switch =>
      refine ⟨⟨?_, ?_⟩, h.last, ?_, ?_⟩
      · intro e he
        exact absurd he not_mem_nil
      · intro operation hno
        simp at hno
      · intro item hitem
        exact absurd hitem not_mem_nil
      · intro w hw
        exact absurd hw not_mem_nil

/-- Remapping leaves no entry that names the old zone. -/
lemma not_mem_of_mem_remapZone {journal : StudioJournal K} (hn : new ≠ old) :
    ∀ e ∈ (journal.remapZone old new).entries, old ∉ e.edit.zones := by
  intro e he
  obtain ⟨e₀, -, -, hz⟩ := mem_remapZone he
  rw [hz]
  exact not_mem_map_redirect hn _

/-- **One step**, for the remap it runs. -/
theorem clean_remapped (hs : StudioHistory.Step s ev t) (hrm : ev.remaps = some (old, new))
    (hc : Clear ev s) : Clean t ⟨old, new, s.last⟩ := by
  obtain ⟨hh, hhe, hwt⟩ := hc.remap old new hrm
  cases hs with
  | ends operation heard ending hr he =>
      cases ending with
      | rebuilt rec z remove =>
          obtain ⟨rfl, rfl⟩ := Prod.mk.inj (Option.some.inj hrm)
          have hne : z ≠ rec.zoneId := by
            rintro heq
            rw [StudioEvent.heard, he.rebuilt_spec] at hh
            exact hh (mem_singleton.mpr heq.symm)
          refine ⟨⟨?_, ?_⟩, Nat.le.refl, fun item hi _ => hhe item hi, fun w hw _ => hwt w hw⟩
          · intro e hm _
            exact not_mem_of_mem_remapZone hne e hm
          · intro op hn
            simp [StudioHistory.ended] at hn
      | remade old' z rest =>
          obtain ⟨rfl, rfl⟩ := Prod.mk.inj (Option.some.inj hrm)
          obtain ⟨-, hh', hre⟩ := he.remade_spec
          rw [StudioEvent.heard, hh'] at hh
          have hne : z ≠ old' := by
            rintro rfl
            exact hh (mem_singleton.mpr rfl)
          refine ⟨⟨?_, ?_⟩, Nat.le.refl, fun item hi _ => hhe item hi, fun w hw _ => hwt w hw⟩
          · intro e hm _
            exact not_mem_of_mem_remapZone hne e hm
          · intro op hop _
            obtain rfl := Option.some.inj hop
            rw [hre]
            exact hh
      | _ => simp [StudioEvent.remaps] at hrm
  | _ => simp [StudioEvent.remaps] at hrm

/-- **A remap redirects every entry.** -/
theorem redirected_of_step (hs : StudioHistory.Step s ev t) (hre : ev.remaps = some (old, new)) :
    Redirected s t old new := by
  cases hs with
  | ends operation heard ending hr he =>
      cases ending with
      | rebuilt rec z remove =>
          obtain ⟨rfl, rfl⟩ := Prod.mk.inj (Option.some.inj hre)
          intro e hm
          obtain ⟨e₀, he₀, hi, hz⟩ := mem_remapZone hm
          rcases mem_settle he₀ with hin | ⟨hp, hst, hse⟩
          · exact .inl ⟨e₀, hin, hi, hz⟩
          · refine .inr ⟨⟨operation, hr, by rw [← hi, hp]⟩, ?_⟩
            rcases remove with _ | _
            · rw [hz, hse]
              simp [zoneEntrySettled, Settled.zones, StudioEdit.zones, redirect]
            · simp [zoneEntrySettled] at hst
      | remade old' z rest =>
          obtain ⟨rfl, rfl⟩ := Prod.mk.inj (Option.some.inj hre)
          intro e hm
          exact .inl (mem_remapZone hm)
      | _ => simp [StudioEvent.remaps] at hre
  | _ => simp [StudioEvent.remaps] at hre

/-- The remaps of a state are those from before the step and the one it runs. -/
lemma mem_remaps (hs : StudioHistory.Step s ev t) (hr : r ∈ t.remaps) :
    r ∈ s.remaps ∨ ∃ old new, ev.remaps = some (old, new) ∧ r = ⟨old, new, s.last⟩ := by
  cases hs with
  | ends operation heard ending hru he =>
      cases ending with
      | rebuilt rec z remove | remade old z rest =>
          rcases mem_cons.mp hr with rfl | hr
          · exact .inr ⟨_, _, rfl, rfl⟩
          · exact .inl hr
      | again =>
          obtain ⟨item, did, rfl⟩ := he.again_spec
          exact .inl hr
      | hold nm w nx =>
          rw [StudioHistory.ended, StudioHistory.holdPlace_remaps] at hr
          exact .inl hr
      | _ => exact .inl hr
  | recordHeld nm w =>
      rw [StudioHistory.hold_remaps] at hr
      exact .inl hr
  | recordFill what w z nm color =>
      rw [StudioHistory.holdPlace_remaps] at hr
      exact .inl hr
  | settle item told hi hl | settleLearned item did hi hl =>
      rw [StudioHistory.settleHeld_remaps] at hr
      exact .inl hr
  | _ => exact .inl hr

end clean

/-! ## Every run -/

/-- What every remap of a run leaves clean stays clean. -/
lemma clean_of_reachable (h : ((StudioHistory.machine V).restrict Clear).Reachable s) :
    ∀ r ∈ s.remaps, Clean s r := by
  induction h with
  | init h =>
      obtain rfl : _ = StudioHistory.new := h
      intro r hr
      exact absurd hr not_mem_nil
  | step _ hs ih =>
      intro r hr
      rcases mem_remaps hs.1 hr with hold | ⟨old, new, hre, rfl⟩
      · exact (ih r hold).step hs.1 (hs.2.heard r hold)
      · exact clean_remapped hs.1 hre hs.2

/-- **A zone made again is not named by its old id**: no entry at a place handed out by the remap
names it, and no undo or redo of one does; the remap redirects every entry to the new zone. -/
theorem rebuilt_zone_unnamed {s : StudioHistory K}
    (h : ((StudioHistory.machine V).restrict Clear).Reachable s) :
    (∀ r ∈ s.remaps, Unnamed s r) ∧
      ∀ (event : StudioEvent V) (t : StudioHistory K) (old new : ZoneId), StudioHistory.Step s event t →
        event.remaps = some (old, new) → Redirected s t old new := by
  refine ⟨fun r hr => (clean_of_reachable h r hr).toUnnamed, ?_⟩
  intro event t old new hs hre
  exact redirected_of_step hs hre

/-! ## A patch held across a remap -/

section desk

/-- Nothing of a scene is looked into. -/
def blankLooks : Looks blank := ⟨fun _ => "", fun _ _ => true, Unit, fun _ _ _ => true⟩

def desk : DeletedZone blank := ⟨1, "desk", "Desk", none, true, (), 0, [], ()⟩

/-- A zone is patched, deleted and made again: the patch is the new zone's. -/
theorem rebuilt_zone_unnamed_desk : ∃ s : StudioHistory blank, ((∀ r ∈ s.remaps, Unnamed s r) ∧
      ∀ (event : StudioEvent blankLooks) (t : StudioHistory blank) (old new : ZoneId),
        StudioHistory.Step s event t → event.remaps = some (old, new) → Redirected s t old new) ∧
      s.remaps = [⟨"desk", "desk again", 2⟩] ∧
        ∃ e ∈ s.journal.entries, e.id = 1 ∧ e.edit.zones = ["desk again"] := by
  have h₀ : ((StudioHistory.machine blankLooks).restrict Clear).Reachable .new := .init rfl
  have h₁ := h₀.step ⟨.record _ (.zonePatched "desk" () ()), .of_no_remaps rfl rfl⟩
  have h₂ := h₁.step ⟨.record _ (.zoneDeleted desk), .of_no_remaps rfl rfl⟩
  have h₃ := h₂.step ⟨.replay _ false 2 (.zoneDeleted desk) rfl rfl rfl, .of_no_remaps rfl rfl⟩
  have h₄ := h₃.step ⟨.ends _ _ _ _ rfl (.rebuilt 2 desk false "desk again"),
    .of_nothing_held rfl rfl rfl rfl (by decide)⟩
  exact ⟨_, rebuilt_zone_unnamed h₄, rfl, _, .head _, rfl, rfl⟩

/-- A patch of a zone waits to settle while the zone is deleted and made again; it landed. -/
theorem held_patch_names_old_zone : ∃ (s : StudioHistory blank) (r : Remap) (e : Entry blank),
    (StudioHistory.machine blankLooks).Reachable s ∧ r ∈ s.remaps ∧ r.old ≠ r.new ∧
      e ∈ s.journal.entries ∧ e.id ≤ r.last ∧ r.old ∈ e.edit.zones := by
  have h₀ : (StudioHistory.machine blankLooks).Reachable .new := .init rfl
  have h₁ := h₀.step (.recordHeld _ "the change to Desk" (.patch "desk" () ()))
  have h₂ := h₁.step (.record _ (.zoneDeleted desk))
  have h₃ := h₂.step (.replay _ false 2 (.zoneDeleted desk) rfl rfl rfl)
  have h₄ := h₃.step (.ends _ _ _ _ rfl (.rebuilt 2 desk false "desk again"))
  have h₅ := h₄.step (.settle _ _ (.answer .patched) (.head _) rfl)
  exact ⟨_, ⟨"desk", "desk again", 2⟩, ⟨1, .zonePatched "desk" () (), false⟩, h₅, .head _,
    by decide, .head _, by decide, .head _⟩

end desk

end Hypercolor.Studio
