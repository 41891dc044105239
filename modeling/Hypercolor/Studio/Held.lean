import Hypercolor.Studio.Journal

/-!
# Held writes, and the zones they name

`pages/studio/history/held.rs`: a write of history's that got no answer is held with everything
needed to settle it. `remap_zone` points what names a zone at the zone made again for it.

* `HeldWrite.whatItDid` is what a held write turns out to have done, from its key's answer or from
  a read of the scene; `Then.settled` is what its place in the journal becomes.
* `StudioEdit.zones`, `HeldWrite.zones` and the like list the zones each names. Settling names no
  zone that neither the held write nor the answer names (`whatItDid_zones`, `settled_zones`).
* `StudioEdit.remapped_zones`: remapping an entry redirects exactly the zones it names.

Fences, keys and scene ids say whether a write is asked or a scene read, not what it did, so they
are left out; so is an assignment, which a held request only sends again.
-/

namespace Hypercolor.Studio

open List

variable {K : Kinds}

/-! ## Zones named -/

/-- The zones a membership change names. -/
def MemberEdit.zones (change : MemberEdit K) : List ZoneId :=
  (change.before.toList ++ change.after.toList).map MemberState.zoneId

def memberZones (changes : List (MemberEdit K)) : List ZoneId := changes.flatMap MemberEdit.zones

/-- The zones a journal entry names, which an undo or redo of it addresses. -/
def StudioEdit.zones : StudioEdit K → List ZoneId
  | .layout zoneId _ _ => [zoneId]
  | .members changes => memberZones changes
  | .zoneCreated zoneId _ _ filled => zoneId :: memberZones filled
  | .zonePatched zoneId _ _ => [zoneId]
  | .zoneDeleted record => [record.zoneId]
  | .unresolved _ => []

/-- `flip`: the same membership change, the other way round. -/
def MemberEdit.flip (change : MemberEdit K) : MemberEdit K := ⟨change.after, change.before⟩

variable {z : ZoneId}

lemma MemberEdit.mem_zones_flip {ch : MemberEdit K} : z ∈ ch.flip.zones ↔ z ∈ ch.zones := by
  simp only [zones, flip, map_append, mem_append]
  exact or_comm

lemma mem_memberZones_flip {changes : List (MemberEdit K)} :
    z ∈ memberZones (changes.map MemberEdit.flip) ↔ z ∈ memberZones changes := by
  simp only [memberZones, mem_flatMap, mem_map, exists_exists_and_eq_and, MemberEdit.mem_zones_flip]

/-! ## Remapping -/

/-- The zone a rebuilt one is named by now. -/
def redirect (old new zone : ZoneId) : ZoneId := if zone = old then new else zone

def MemberState.remapped (old new : ZoneId) (state : MemberState K) : MemberState K :=
  { state with zoneId := redirect old new state.zoneId }

def MemberEdit.remapped (old new : ZoneId) (change : MemberEdit K) : MemberEdit K :=
  ⟨change.before.map (·.remapped old new), change.after.map (·.remapped old new)⟩

/-- One entry of `remap_zone`; a place that waits to settle carries nothing to remap. -/
def StudioEdit.remapped (old new : ZoneId) : StudioEdit K → StudioEdit K
  | .layout zoneId before after => .layout (redirect old new zoneId) before after
  | .members changes => .members (changes.map (·.remapped old new))
  | .zoneCreated zoneId name color filled =>
      .zoneCreated (redirect old new zoneId) name color (filled.map (·.remapped old new))
  | .zonePatched zoneId before after => .zonePatched (redirect old new zoneId) before after
  | .zoneDeleted record => .zoneDeleted { record with zoneId := redirect old new record.zoneId }
  | .unresolved name => .unresolved name

/-- `remap_zone`: point every entry that names the zone `old` at `new`. -/
def StudioJournal.remapZone (j : StudioJournal K) (old new : ZoneId) : StudioJournal K :=
  { j with entries := j.entries.map fun entry => { entry with edit := entry.edit.remapped old new } }

lemma MemberEdit.remapped_zones (old new : ZoneId) (ch : MemberEdit K) :
    (ch.remapped old new).zones = ch.zones.map (redirect old new) := by
  obtain ⟨before, after⟩ := ch
  rcases before with _ | before <;> rcases after with _ | after <;> rfl

lemma memberZones_remapped (old new : ZoneId) (changes : List (MemberEdit K)) :
    memberZones (changes.map (·.remapped old new)) = (memberZones changes).map (redirect old new) := by
  rw [memberZones, memberZones, flatMap_map, map_flatMap]
  simp only [MemberEdit.remapped_zones]

/-- **Remapping redirects exactly the zones an entry names.** -/
theorem StudioEdit.remapped_zones (old new : ZoneId) (ed : StudioEdit K) :
    (ed.remapped old new).zones = ed.zones.map (redirect old new) := by
  rcases ed with _ | _ | _ | _ | _ | _
  · rfl
  · exact memberZones_remapped old new _
  · exact congrArg _ (memberZones_remapped old new _)
  · rfl
  · rfl
  · rfl

variable {old new : ZoneId}

lemma not_mem_map_redirect (hn : new ≠ old) (zs : List ZoneId) : old ∉ zs.map (redirect old new) := by
  intro hm
  obtain ⟨z, -, hz⟩ := mem_map.mp hm
  rw [redirect] at hz
  split_ifs at hz with he
  · exact hn hz
  · exact he hz

/-- A zone that is not remapped to stays named only where it was named. -/
lemma mem_of_mem_map_redirect {zs : List ZoneId} (hn : z ≠ new)
    (h : z ∈ zs.map (redirect old new)) : z ∈ zs := by
  obtain ⟨z', hm, rfl⟩ := mem_map.mp h
  rw [redirect] at hn ⊢
  split_ifs with he
  · rw [if_pos he] at hn
    exact absurd rfl hn
  · exact hm

/-! ## Held writes -/

/-- `HeldWrite`: a write of history's whose outcome is not known yet. -/
inductive HeldWrite (K : Kinds) where
  | delete (record : DeletedZone K) (release : List (MemberEdit K))
  | members (changes : List (MemberEdit K))
  | create (name : String) (color : Option String)
  | patch (zoneId : ZoneId) (before after : K.Patch)

/-- `Resume`: the rest of an undo or redo of zone structure whose first write was held. -/
inductive Resume (K : Kinds) where
  | rebuild (record : DeletedZone K) (remove : Bool)
  | uncreate (zoneId : ZoneId) (name : String) (color : Option String)
      (filled : List (MemberEdit K))
  | recreate (zoneId : ZoneId) (name : String) (color : Option String)
      (filled : List (MemberEdit K))

/-- `Then`: what a held write's place in the journal becomes once it settles. -/
inductive Then (K : Kinds) where
  | record
  | replay (entry : StudioEdit K) (redo : Bool)
  | either (landed not : Settled K)
  | fill (zoneId : ZoneId) (name : String) (color : Option String)
  | resume (rest : Resume K)

/-- `Unresolved`: a held write and its place in the journal. -/
structure Unresolved (K : Kinds) where
  entry : EntryId
  name : String
  write : HeldWrite K
  next : Then K
  learned : Option (StudioEdit K)

/-! ## What a held write did -/

/-- How a read of the scene compares with what a write asked for. -/
structure Looks (K : Kinds) where
  outputId : K.Output → String
  sameFootprint : K.Output → K.Output → Bool
  Zone : Type
  /-- The zone at that index holds what the patch sets. -/
  holds : Zone → Nat → K.Patch → Bool

/-- A zone of a scene as it reads. -/
structure SceneZone (V : Looks K) where
  id : ZoneId
  outputs : List K.Output
  zone : V.Zone

/-- The daemon's own answer to a write under its key. -/
inductive Answer (K : Kinds) where
  | refused
  | deleted
  | receipt (changes : List (MemberEdit K))
  | made (zoneId : ZoneId) (name : String) (color : Option String)
  | patched

/-- `Told`: what a held write's key can say about it now. -/
inductive Told (V : Looks K) where
  | answer (answer : Answer K)
  | read (scene : List (SceneZone V))

/-- `resolve_deletion`: what a delete whose outcome was unknown turned out to be. -/
def resolveDeletion (deleted : Bool) (record : DeletedZone K) (release : List (MemberEdit K)) :
    Option (StudioEdit K) :=
  if deleted then some (.zoneDeleted record)
  else if release.isEmpty then none
  else some (.members release)

/-- The output of a zone, as the scene reads. -/
def liveOutput {V : Looks K} (scene : List (SceneZone V)) (zoneId : ZoneId) (outputId : String) :
    Option K.Output :=
  (scene.find? fun zone => zone.id == zoneId).bind fun zone =>
    zone.outputs.find? fun output => V.outputId output == outputId

/-- `members_landed`: whether the scene holds what a membership edit's changes make. -/
def membersLanded {V : Looks K} (scene : List (SceneZone V)) (changes : List (MemberEdit K)) : Bool :=
  !changes.isEmpty && changes.all fun change =>
    match change.before, change.after with
    | some before, some after =>
        let found := liveOutput scene after.zoneId (V.outputId after.output)
        if before.zoneId = after.zoneId then
          found.any fun output => V.sameFootprint output after.output
        else found.isSome
    | none, some after => (liveOutput scene after.zoneId (V.outputId after.output)).isSome
    | some before, none => (liveOutput scene before.zoneId (V.outputId before.output)).isNone
    | none, none => true

/-- `StudioHistory::what_it_did`, `create_says`: the entry that undoes what a held write did, or
`none` for nothing. -/
def HeldWrite.whatItDid {V : Looks K} : HeldWrite K → Told V → Option (StudioEdit K)
  | .delete record release, .answer answer =>
      resolveDeletion (match answer with | .deleted => true | _ => false) record release
  | .delete record release, .read scene =>
      resolveDeletion (!scene.any fun zone => zone.id == record.zoneId) record release
  | .members _, .answer (.receipt changes) =>
      if changes.isEmpty then none else some (.members changes)
  | .members changes, .read scene =>
      if membersLanded scene changes then some (.members changes) else none
  | .create _ _, .answer (.made zoneId name color) => some (.zoneCreated zoneId name color [])
  | .patch zoneId before after, .answer .patched => some (.zonePatched zoneId before after)
  | .patch zoneId before after, .read scene =>
      let landed := scene.zipIdx.find? fun (zone, _) => zone.id == zoneId
      if landed.any fun (zone, index) => V.holds zone.zone index after then
        some (.zonePatched zoneId before after)
      else none
  | _, _ => none

/-- `undone`: the step an undo's landed write leaves on the redo side. -/
def undone (entry did : StudioEdit K) : StudioEdit K :=
  match did with
  | .members changes => .members (changes.map MemberEdit.flip)
  | _ => entry

/-- `not_landed`: what the place holds when the first write did not land. -/
def Resume.notLanded : Resume K → Settled K
  | .rebuild record _ => .applied (.zoneDeleted record)
  | .uncreate zoneId name color filled => .applied (.zoneCreated zoneId name color filled)
  | .recreate zoneId name color filled => .unapplied (.zoneCreated zoneId name color filled)

/-- `StudioHistory::settle_held`: what the place becomes, with what the write did; `none` when the
rest has to run first. -/
def Then.settled : Then K → Option (StudioEdit K) → Option (Settled K)
  | .record, some did => some (.applied did)
  | .record, none => some .gone
  | .replay _ true, some did => some (.applied did)
  | .replay entry true, none => some (.unapplied entry)
  | .replay entry false, some did => some (.unapplied (undone entry did))
  | .replay entry false, none => some (.applied entry)
  | .either landed _, some _ => some landed
  | .either _ not, none => some not
  | .fill zoneId name color, did =>
      some (.applied (.zoneCreated zoneId name color
        (match did with | some (.members changes) => changes | _ => [])))
  | .resume _, some _ => none
  | .resume rest, none => some rest.notLanded

/-! ## The zones of what is held -/

def HeldWrite.zones : HeldWrite K → List ZoneId
  | .delete record release => record.zoneId :: memberZones release
  | .members changes => memberZones changes
  | .create _ _ => []
  | .patch zoneId _ _ => [zoneId]

def Settled.zones : Settled K → List ZoneId
  | .gone => []
  | .applied edit | .unapplied edit => edit.zones

def Resume.zones : Resume K → List ZoneId
  | .rebuild record _ => [record.zoneId]
  | .uncreate zoneId _ _ filled | .recreate zoneId _ _ filled => zoneId :: memberZones filled

def Then.zones : Then K → List ZoneId
  | .record => []
  | .replay entry _ => entry.zones
  | .either landed not => landed.zones ++ not.zones
  | .fill zoneId _ _ => [zoneId]
  | .resume rest => rest.zones

def Unresolved.zones (item : Unresolved K) : List ZoneId :=
  item.write.zones ++ item.next.zones ++ (item.learned.toList.flatMap StudioEdit.zones)

/-- The zones the daemon names in an answer. A read only says whether something is there. -/
def Told.zones {V : Looks K} : Told V → List ZoneId
  | .answer (.receipt changes) => memberZones changes
  | .answer (.made zoneId _ _) => [zoneId]
  | _ => []

variable {V : Looks K}

variable {did : StudioEdit K}

lemma resolveDeletion_zones {deleted : Bool} {rec : DeletedZone K}
    {release : List (MemberEdit K)} (h : resolveDeletion deleted rec release = some did) :
    did.zones ⊆ rec.zoneId :: memberZones release := by
  rw [resolveDeletion] at h
  split_ifs at h
  · obtain rfl := Option.some.inj h
    exact cons_subset_cons _ (nil_subset _)
  · obtain rfl := Option.some.inj h
    exact subset_cons_self _ _

/-- What a held write did names only what the write or the answer names. -/
theorem whatItDid_zones {w : HeldWrite K} {told : Told V}
    (h : w.whatItDid told = some did) : did.zones ⊆ w.zones ++ told.zones := by
  rcases w with ⟨rec, release⟩ | changes | ⟨nm, color⟩ | ⟨zid, before, after⟩
  · refine List.Subset.trans ?_ (subset_append_left _ _)
    rcases told with answer | sc <;> exact resolveDeletion_zones h
  · rcases told with (_ | _ | rc | _ | _) | sc
    case answer.receipt =>
      simp only [HeldWrite.whatItDid] at h
      split_ifs at h
      obtain rfl := Option.some.inj h
      exact subset_append_right _ _
    case read =>
      simp only [HeldWrite.whatItDid] at h
      split_ifs at h
      obtain rfl := Option.some.inj h
      exact subset_append_left _ _
    all_goals simp [HeldWrite.whatItDid] at h
  · rcases told with (_ | _ | _ | ⟨zid, nm, color⟩ | _) | sc
    case answer.made =>
      obtain rfl := Option.some.inj h
      exact subset_append_right _ _
    all_goals simp [HeldWrite.whatItDid] at h
  · rcases told with (_ | _ | _ | _ | _) | sc
    case answer.patched =>
      obtain rfl := Option.some.inj h
      exact List.Subset.refl _
    case read =>
      simp only [HeldWrite.whatItDid] at h
      split_ifs at h
      obtain rfl := Option.some.inj h
      exact List.Subset.refl _
    all_goals simp [HeldWrite.whatItDid] at h

lemma undone_zones (e did : StudioEdit K) : (undone e did).zones ⊆ e.zones ++ did.zones := by
  rcases did with _ | changes | _ | _ | _ | _
  case members =>
    intro z hz
    exact mem_append_right _ (mem_memberZones_flip.mp hz)
  all_goals exact subset_append_left _ _

/-- What a place becomes names only what its continuation or the write's effect names. -/
theorem settled_zones {nx : Then K} {did : Option (StudioEdit K)} {se : Settled K}
    (h : nx.settled did = some se) : se.zones ⊆ nx.zones ++ did.toList.flatMap StudioEdit.zones := by
  rcases nx with _ | ⟨e, _ | _⟩ | ⟨landed, not⟩ | ⟨zoneId, name, color⟩ | rest
  · rcases did with _ | did <;> obtain rfl := Option.some.inj h
    · exact nil_subset _
    · simp [Settled.zones]
  · rcases did with _ | did <;> obtain rfl := Option.some.inj h
    · exact subset_append_left _ _
    · simpa [Settled.zones, Then.zones] using undone_zones e did
  · rcases did with _ | did <;> obtain rfl := Option.some.inj h
    · exact subset_append_left _ _
    · simp [Settled.zones]
  · rcases did with _ | did <;> obtain rfl := Option.some.inj h
    · exact List.Subset.trans (subset_append_right _ _) (subset_append_left _ _)
    · exact List.Subset.trans (subset_append_left _ _) (subset_append_left _ _)
  · obtain rfl := Option.some.inj h
    rcases did with _ | (_ | changes | _ | _ | _ | _)
    case some.members => simp [Settled.zones, StudioEdit.zones, Then.zones]
    all_goals
      intro z hz
      refine mem_append_left _ ?_
      simpa [Settled.zones, StudioEdit.zones, memberZones, Then.zones] using hz
  · rcases did with _ | did
    · obtain rfl := Option.some.inj h
      refine List.Subset.trans ?_ (subset_append_left _ _)
      rcases rest with _ | _ | _ <;> exact List.Subset.refl _
    · simp [Then.settled] at h

end Hypercolor.Studio
