import Hypercolor.Input.Device
import Hypercolor.Lib.Replay

/-!
# What a device child announces

The announced holds of a child are a set of controls, and every call tells of its change: the
events of a batch lead from the holds announced before to those announced after.

* **`folds_edges`**: a batch of edges tells of the change of what is announced.
* **`tells_cancellations`**: the end of demand tells of the end of every announced hold.
* **`inject_spec`**, **`syncDemand_spec`**: both calls keep a child `Tracked`.
-/

namespace Hypercolor.Input

open Lib List Finset EdgeFold

/-! ## Edges of controls -/

/-- A press begins a hold, a release ends it. -/
def controlEdge (event : TimedInputEvent) : Option (InteractionControl × Bool) :=
  match eventControl event with
  | some (control, .pressed) => some (control, true)
  | some (control, .released) => some (control, false)
  | some (_, .repeated) | none => none

/-! ## Announced holds -/

/-- The controls a child announces. -/
def announced (deviceId : DeviceId) (state : DeviceChildState) : Finset InteractionControl :=
  (snapshotControls (buildChildSnapshot deviceId state 0)).toFinset

variable {did d : DeviceId} {st st' : DeviceChildState}

@[simp] theorem key_notMem_announced (key : String) : .key key ∉ announced did st := by
  simp [announced, snapshotControls, buildChildSnapshot, touchControl, deviceButtonControl]
  exact not_mem_nil

@[simp] theorem mouseButton_notMem_announced (bt : String) : .mouseButton bt ∉ announced did st := by
  simp [announced, snapshotControls, buildChildSnapshot, touchControl, deviceButtonControl]
  exact not_mem_nil

variable {contact nowMs : Nat}

@[simp] theorem touch_mem_announced : .touch d contact ∈ announced did st ↔
      d = did ∧ (st.touches.lookup contact).any HeldTouch.announced := by
  simp [announced, snapshotControls, buildChildSnapshot, touchControl, deviceButtonControl,
    Table.mem_ordered]
  cases st.touches.lookup contact <;> grind

@[simp] theorem deviceButton_mem_announced {bt : String} : .deviceButton d bt ∈ announced did st ↔
      d = did ∧ st.buttons.lookup bt = some true := by
  simp [announced, snapshotControls, buildChildSnapshot, touchControl, deviceButtonControl,
    Table.mem_ordered]
  grind

/-- A touch that is kept is announced or not. -/
lemma announced_insert_touch (contact : Nat) (held : HeldTouch) :
    announced did { st with touches := st.touches.insert contact held } =
      if held.announced then insert (.touch did contact) (announced did st)
      else (announced did st).erase (.touch did contact) := by
  ext c
  cases c with
  | touch d o =>
    by_cases hoh : o = contact <;> split <;> simp_all
  | _ => split <;> simp

lemma announced_erase_touch (contact : Nat) :
    announced did { st with touches := st.touches.erase contact } =
      (announced did st).erase (.touch did contact) := by
  ext c
  cases c with
  | touch d o =>
    by_cases hoh : o = contact <;> simp_all
  | _ => simp

lemma announced_insert_button (bt : String) (announce : Bool) :
    announced did { st with buttons := st.buttons.insert bt announce } =
      if announce then insert (.deviceButton did bt) (announced did st)
      else (announced did st).erase (.deviceButton did bt) := by
  ext c
  cases c with
  | deviceButton d o =>
    by_cases hoh : o = bt <;> split <;> simp_all
  | _ => split <;> simp

lemma announced_erase_button (bt : String) : announced did { st with buttons := st.buttons.erase bt } =
      (announced did st).erase (.deviceButton did bt) := by
  ext c
  cases c with
  | deviceButton d o =>
    by_cases hoh : o = bt <;> simp_all
  | _ => simp

variable {c : InteractionControl}

/-- A snapshot holds what is announced. -/
lemma snapshotHolds_buildChildSnapshot {dr : Nat} : snapshotHolds (buildChildSnapshot did st dr) c ↔
      c ∈ announced did st := by
  rw [snapshotHolds_iff, announced, mem_toFinset]
  rfl

/-! ## One edge -/

/-- What a fold does to a child: it tells of the holds, and of nothing while nobody listens. -/
structure Folds (before after : EdgeFold × DeviceChildState) : Prop where
  deviceId : after.1.deviceId = before.1.deviceId
  publishing : after.2.publishing = before.2.publishing
  generation : after.2.generation = before.2.generation
  tells : ∃ events, after.1.events = before.1.events ++ events ∧
    Tells controlEdge (announced before.1.deviceId before.2) events
      (announced before.1.deviceId after.2)
  quiet : before.2.publishing = false → announced before.1.deviceId before.2 = ∅ →
    after.1.events = before.1.events
  unchanged : after.1.changed = false →
    before.1.changed = false ∧ after.1.events = before.1.events

variable {e : TimedInputEvent}

namespace Folds

variable {before middle after : EdgeFold × DeviceChildState}

lemma trans (h : Folds before middle) (h' : Folds middle after) : Folds before after where
  deviceId := h'.deviceId.trans h.deviceId
  publishing := h'.publishing.trans h.publishing
  generation := h'.generation.trans h.generation
  tells := by
    obtain ⟨es, he, ht⟩ := h.tells
    obtain ⟨es', he', ht'⟩ := h'.tells
    rw [h.deviceId] at ht'
    exact ⟨es ++ es', by rw [he', he, append_assoc], ht.append ht'⟩
  quiet hp ha := by
    obtain ⟨es, he, ht⟩ := h.tells
    have hm := h.quiet hp ha
    have hn : es = [] := by simpa [he] using hm
    have hs : announced before.1.deviceId middle.2 = ∅ := by
      rw [← ht.replay, hn, ha]
      rfl
    rw [h'.quiet (h.publishing.trans hp) (h.deviceId ▸ hs), hm]
  unchanged hc := by
    obtain ⟨hm, he'⟩ := h'.unchanged hc
    obtain ⟨hb, he⟩ := h.unchanged hm
    exact ⟨hb, he'.trans he⟩

variable {fold fold' : EdgeFold}

/-- A change of what is not announced. -/
lemma silent (hd : fold'.deviceId = fold.deviceId) (he : fold'.events = fold.events)
    (hc : fold'.changed = false → fold.changed = false) (hp : st'.publishing = st.publishing)
    (hg : st'.generation = st.generation)
        (ha : announced fold.deviceId st' = announced fold.deviceId st) :
    Folds (fold, st) (fold', st') where
  deviceId := hd
  publishing := hp
  generation := hg
  tells := by
    refine ⟨[], by simpa using he, ?_⟩
    rw [ha]
    exact .nil
  quiet _ _ := he
  unchanged hf := ⟨hc hf, he⟩

lemma refl (folded : EdgeFold × DeviceChildState) : Folds folded folded := silent rfl rfl id rfl rfl rfl

/-- One event that tells of a hold. -/
lemma emit (hd : fold'.deviceId = fold.deviceId)
    (he : fold'.events = fold.events ++ [e]) (hc : fold'.changed) (hp : st'.publishing = st.publishing)
    (hg : st'.generation = st.generation)
    (ht : Tells controlEdge (announced fold.deviceId st) [e] (announced fold.deviceId
      st')) (hl : st.publishing ∨ announced fold.deviceId st ≠ ∅) : Folds (fold, st) (fold', st') where
  deviceId := hd
  publishing := hp
  generation := hg
  tells := ⟨[e], he, ht⟩
  quiet hq hn := by
    rcases hl with hp | hs
    · exact absurd (hq.symm.trans hp) Bool.false_ne_true
    · exact absurd hn hs
  unchanged hf := absurd (hc.symm.trans hf) Bool.noConfusion

end Folds

variable {fold : EdgeFold}

/-- A touch that lifts. -/
lemma folds_endTouch {held : HeldTouch} (ps : TouchPosition) (h : st.touches.lookup contact = some held) :
    Folds (fold, st)
      (fold.endTouch contact held ps, { st with touches := st.touches.erase contact }) := by
  unfold endTouch
  split
  · rename_i ha
    have hm : .touch fold.deviceId contact ∈ announced fold.deviceId st := by
      simp [h, ha]
    refine .emit rfl rfl rfl rfl rfl ?_ (.inr (ne_empty_of_mem hm))
    rw [announced_erase_touch]
    exact .ends rfl hm
  · rename_i ha
    refine .silent rfl rfl id rfl rfl ?_
    rw [announced_erase_touch, erase_eq_of_notMem]
    simp [h, ha]

/-- A touch that lands. -/
lemma folds_land (ps : TouchPosition) (sg : Option String) (h : st.touches.lookup contact = none) :
    Folds (fold, st) (fold.land st contact ps sg) := by
  have hn : .touch fold.deviceId contact ∉ announced fold.deviceId st := by
    simp [h]
  unfold land
  dsimp only
  split
  · rename_i hp
    refine .emit rfl rfl rfl rfl rfl ?_ (.inl hp)
    rw [announced_insert_touch, if_pos hp]
    exact .begins rfl hn
  · rename_i hp
    refine .silent rfl rfl id rfl rfl ?_
    rw [announced_insert_touch, if_neg hp]
    exact erase_eq_of_notMem hn

/-- **One edge** tells of the change of the announced holds. -/
theorem folds_apply (edge : DeviceInputEdge) : Folds (fold, st) (fold.apply st edge) := by
  cases edge with
  | touchBegan contact ps sg =>
    unfold apply
    dsimp only
    split
    · exact .silent rfl rfl id rfl rfl rfl
    · split
      · rename_i prev hpr
        exact (folds_endTouch _ hpr).trans (folds_land _ _ (AList.lookup_erase _ _))
      · rename_i hn
        split
        · exact .silent rfl rfl id rfl rfl rfl
        · exact folds_land _ _ hn
  | touchMoved contact ps =>
    unfold apply
    dsimp only
    split
    · exact .refl _
    · split
      · exact .refl _
      · split
        · exact .refl _
        · refine .silent rfl rfl (fun hc => (Bool.or_eq_false_iff.mp hc).1) rfl rfl ?_
          rw [announced_insert_touch]
          split
          · exact insert_eq_of_mem (by simp_all)
          · exact erase_eq_of_notMem (by simp_all)
  | touchEnded contact ps =>
    unfold apply
    dsimp only
    split
    · exact .refl _
    · rename_i held hh
      exact folds_endTouch _ hh
  | button bt edge =>
    cases edge with
    | pressed =>
      unfold apply
      dsimp only
      split
      · exact .refl _
      · rename_i hn
        have hn : .deviceButton fold.deviceId bt ∉ announced fold.deviceId st := by
          simp [AList.lookup_eq_none.mpr hn]
        split
        · exact .silent rfl rfl id rfl rfl rfl
        · split
          · rename_i hp
            refine .emit rfl rfl rfl rfl rfl ?_ (.inl hp)
            rw [announced_insert_button, if_pos hp]
            exact .begins rfl hn
          · rename_i hp
            refine .silent rfl rfl id rfl rfl ?_
            rw [announced_insert_button, if_neg hp]
            exact erase_eq_of_notMem hn
    | released =>
      unfold apply
      dsimp only
      split
      · rename_i hh
        have hm : .deviceButton fold.deviceId bt ∈ announced fold.deviceId st := by
          simp [hh]
        refine .emit rfl rfl rfl rfl rfl ?_ (.inr (ne_empty_of_mem hm))
        rw [announced_erase_button]
        exact .ends rfl hm
      · rename_i hh
        refine .silent rfl rfl id rfl rfl ?_
        rw [announced_erase_button, erase_eq_of_notMem]
        simp [hh]
    | repeated => exact .refl _

/-- **A batch of edges.** -/
theorem folds_edges (edges : List DeviceInputEdge) (folded : EdgeFold × DeviceChildState) :
    Folds folded (edges.foldl (fun folded edge => folded.1.apply folded.2 edge) folded) := by
  induction edges generalizing folded with
  | nil => exact .refl _
  | cons edge edges ih => exact (folds_apply edge).trans (ih _)

/-! ## The end of demand -/

/-- An event that cancels the hold of a control. -/
def Cancels (event : TimedInputEvent) (control : InteractionControl) : Prop :=
  match event.event with
  | .touch _ device contact .cancelled _ _ _ _ => control = .touch device contact
  | .deviceButton _ device button .released => control = .deviceButton device button
  | _ => False

lemma controlEdge_of_cancels (h : Cancels e c) : controlEdge e = some (c, false) := by
  unfold Cancels at h
  unfold controlEdge eventControl
  split at h <;> simp_all

namespace EdgeFold

variable (fold : EdgeFold)

/-- Events that are told one after the other. -/
def emitAll (events : List TimedInputEvent) : EdgeFold :=
  { fold with changed := fold.changed || !events.isEmpty, events := fold.events ++ events }

lemma emitAll_emitAll (fold : EdgeFold) (es es' : List TimedInputEvent) :
    (fold.emitAll es).emitAll es' = fold.emitAll (es ++ es') := by
  cases es <;> simp [emitAll]

/-- A loop that tells of some of its entries. -/
lemma foldl_emit {β : Type} {step : EdgeFold → β → EdgeFold} {p : β → Bool}
    {e : EdgeFold → β → TimedInputEvent}
    (hs : ∀ fold b, step fold b = if p b then fold.emitAll [e fold b] else fold)
    (hf : ∀ fold events, e (fold.emitAll events) = e fold) (l : List β)
    (fold : EdgeFold) : l.foldl step fold = fold.emitAll ((l.filter p).map (e fold)) := by
  induction l generalizing fold with
  | nil => simp [emitAll]
  | cons b l ih =>
    rw [foldl_cons, ih, hs]
    split
    · rename_i hb
      rw [hf, emitAll_emitAll, filter_cons_of_pos hb]
      rfl
    · rename_i hb
      rw [filter_cons_of_neg hb]

/-- The cancellation of a touch. -/
def cancelTouch (entry : Nat × HeldTouch) : TimedInputEvent :=
  timedEvent (.touch fold.sourceId fold.deviceId entry.1 .cancelled
    (unitToQ16 entry.2.position.x) (unitToQ16 entry.2.position.y)
    (unitToQ16 entry.2.position.pressure) entry.2.segment) fold.atMs

/-- The cancellation of a button. -/
def cancelButton (entry : String × Bool) : TimedInputEvent :=
  timedEvent (.deviceButton fold.sourceId fold.deviceId entry.1 .released) fold.atMs

/-- The cancellations of what is announced. -/
def cancellations (state : DeviceChildState) : List TimedInputEvent :=
  ((state.touches.ordered id).filter fun entry => entry.2.announced).map fold.cancelTouch ++
    ((state.buttons.ordered id).filter (·.2)).map fold.cancelButton

lemma touch_eq_emitAll (fold : EdgeFold) (entry : Nat × HeldTouch) :
    fold.touch entry.1 .cancelled entry.2.position entry.2.segment =
      fold.emitAll [fold.cancelTouch entry] := by
  simp [emitAll, touch, cancelTouch]

lemma button_eq_emitAll (fold : EdgeFold) (entry : String × Bool) :
    fold.button entry.1 .released = fold.emitAll [fold.cancelButton entry] := by
  simp [emitAll, button, cancelButton]

variable (fold : EdgeFold) (st : DeviceChildState)

/-- **Cancelling** tells of every announced hold once. -/
theorem cancelAnnounced_fold : (fold.cancelAnnounced st).1 = fold.emitAll (fold.cancellations st) := by
  unfold cancelAnnounced
  simp only [touch_eq_emitAll, button_eq_emitAll]
  rw [foldl_emit (fun _ _ => rfl) (fun _ _ => rfl), foldl_emit (fun _ _ => rfl) (fun _ _ => rfl)]
  exact emitAll_emitAll ..

/-- The controls of a snapshot: its touches, then its buttons. -/
lemma snapshotControls_buildChildSnapshot (did : DeviceId) (st : DeviceChildState) :
    snapshotControls (buildChildSnapshot did st 0) =
      ((st.touches.ordered id).filter fun entry => entry.2.announced).map
          (fun entry => .touch did entry.1) ++ ((st.buttons.ordered id).filter (·.2)).map
          fun entry => .deviceButton did entry.1 := by
  simp [snapshotControls, buildChildSnapshot]
  rfl

/-- Each announced hold is cancelled once, in the order of the snapshot. -/
lemma cancels_cancellations : List.Forall₂ Cancels (fold.cancellations st)
      (snapshotControls (buildChildSnapshot fold.deviceId st 0)) := by
  rw [snapshotControls_buildChildSnapshot]
  refine rel_append ?_ ?_
  · simp [forall₂_map_left_iff, forall₂_map_right_iff, forall₂_same, Cancels, cancelTouch, timedEvent]
  · simp [forall₂_map_left_iff, forall₂_map_right_iff, forall₂_same, Cancels, cancelButton, timedEvent]

lemma nodup_snapshotControls (did : DeviceId) (st : DeviceChildState) :
    (snapshotControls (buildChildSnapshot did st 0)).Nodup := by
  have hk : ∀ {K V : Type} {l : List (K × V)} (p : K × V → Bool), (l.map Prod.fst).Nodup →
      ((l.filter p).map Prod.fst).Nodup := by
    intro K V l p h
    exact h.sublist (filter_sublist.map _)
  have htc := hk (fun entry => entry.2.announced) (Table.nodup_ordered id st.touches)
  have hbu := hk (·.2) (Table.nodup_ordered id st.buttons)
  rw [snapshotControls_buildChildSnapshot]
  refine nodup_append.mpr ⟨?_, ?_, ?_⟩
  · have := htc.map (f := InteractionControl.touch did) fun _ _ h => by simpa using h
    rwa [List.map_map] at this
  · have := hbu.map (f := InteractionControl.deviceButton did) fun _ _ h => by
      simpa using h
    rwa [List.map_map] at this
  · intro touch ht bt hb
    obtain ⟨_, -, rfl⟩ := mem_map.mp ht
    obtain ⟨_, -, rfl⟩ := mem_map.mp hb
    exact nofun

/-- Nothing is announced any more. -/
lemma announced_cancelAnnounced : announced fold.deviceId (fold.cancelAnnounced st).2 = ∅ := by
  ext c
  cases c with
  | touch d contact =>
    cases h : st.touches.lookup contact <;> simp [cancelAnnounced, Table.lookup_mapValues, h]
  | _ => simp [cancelAnnounced, Table.lookup_mapValues]

/-- **The end of demand** tells of the end of every announced hold. -/
theorem tells_cancellations :
    Tells controlEdge (announced fold.deviceId st) (fold.cancellations st) ∅ := by
  have he : ∀ {es cs}, List.Forall₂ Cancels es cs →
      es.map controlEdge = cs.map fun c => some (c, false) := by
    intro es cs hc
    induction hc with
    | nil => rfl
    | cons hev _ ih => simp [controlEdge_of_cancels hev, ih]
  have ht := Tells.endAll (he (fold.cancels_cancellations st))
    (nodup_snapshotControls fold.deviceId st) fun c => mem_toFinset.mpr
  rwa [sdiff_self] at ht

end EdgeFold

/-! ## A child -/

/-- Every snapshot holds what replaying the events up to it leaves. -/
def Replayed (published : List DevicePublication) : Prop :=
  ∀ earlier publication later, published = earlier ++ publication :: later → ∀ control,
    snapshotHolds publication.snapshot control ↔ control ∈ replay controlEdge ∅
      ((earlier ++ [publication]).flatMap DevicePublication.events)

lemma replayed_concat {pub : List DevicePublication} {ls : DevicePublication}
    (h : Replayed pub) (hl : ∀ c, snapshotHolds ls.snapshot c ↔
      c ∈ replay controlEdge ∅ ((pub ++ [ls]).flatMap DevicePublication.events)) :
    Replayed (pub ++ [ls]) := by
  intro ea publication lt hs
  rcases eq_nil_or_concat lt with rfl | ⟨lt, final, rfl⟩
  · obtain ⟨rfl, hl'⟩ := append_inj' hs rfl
    obtain rfl := singleton_inj.mp hl'
    exact hl
  · rw [concat_eq_append, ← cons_append, ← append_assoc] at hs
    exact h ea publication lt (append_inj' hs rfl).1

namespace DeviceInputChildSlot

/-- The events a child published, in order. -/
def events (slot : DeviceInputChildSlot) : List TimedInputEvent :=
  slot.published.flatMap DevicePublication.events

/-- What a child published tells of what it announces, and it announces nothing while nobody
listens. -/
structure Tracked (slot : DeviceInputChildSlot) : Prop where
  tells : Tells controlEdge ∅ slot.events (announced slot.deviceId slot.state)
  replayed : Replayed slot.published
  quiet : slot.state.publishing = false → announced slot.deviceId slot.state = ∅

/-- The identity of a child, which no call changes. -/
structure Same (slot next : DeviceInputChildSlot) : Prop where
  deviceId : next.deviceId = slot.deviceId
  active : next.active = slot.active

variable {slot nx : DeviceInputChildSlot}

lemma tracked_new (did : DeviceId) (pid : DeviceInputPublicationId)
    (demanded : Bool) : (new did pid demanded).Tracked where
  tells := by
    have hn : announced did (new did pid demanded).state = ∅ := rfl
    change Tells controlEdge ∅ [] (announced did _)
    exact .nil
  replayed := by
    intro ea pub lt hs c
    obtain ⟨rfl, rfl, rfl⟩ : ea = [] ∧ pub = ⟨default, []⟩ ∧ lt = [] := by
      cases ea <;> cases lt <;> simp_all [new]
    rw [snapshotHolds_iff]
    exact Iff.rfl
  quiet _ := rfl

/-- **Publishing** what a fold collected keeps a child tracked. -/
theorem publishLocked_spec {st' : DeviceChildState} {fold : EdgeFold} (h : slot.Tracked)
    (ht : Tells controlEdge (announced slot.deviceId slot.state) fold.events
      (announced slot.deviceId st')) (hu : fold.changed = false → fold.events = [])
    (hq : st'.publishing = false → announced slot.deviceId st' = ∅)
    (hn : publishLocked { slot with state := st' } fold = some nx) :
    nx.Tracked ∧ slot.Same nx ∧ nx.state.publishing = st'.publishing ∧
      (nx.published = slot.published ∨ ∃ snapshot,
        nx.published = slot.published ++ [⟨snapshot, fold.events⟩]) := by
  unfold publishLocked at hn
  split at hn
  · rename_i hnt
    obtain rfl := Option.some.inj hn
    have hnn := hu (by simpa using hnt.1)
    rw [hnn] at ht
    refine ⟨⟨?_, h.replayed, hq⟩, ⟨rfl, rfl⟩, rfl, .inl rfl⟩
    have hno := h.tells.append ht
    rw [append_nil] at hno
    exact hno
  · obtain ⟨g, -, hn⟩ := Option.bind_eq_some_iff.mp hn
    obtain rfl := Option.some.inj hn
    have hno := h.tells.append ht
    have hc : ∀ st, announced slot.deviceId { st with generation := g } =
        announced slot.deviceId st := fun _ => rfl
    refine ⟨⟨?_, replayed_concat h.replayed fun c => ?_, hq⟩, ⟨rfl, rfl⟩, rfl, .inr ⟨_, rfl⟩⟩
    · change Tells controlEdge ∅ (flatMap _ (slot.published ++ _)) (announced slot.deviceId _)
      rw [hc]
      simpa [events] using hno
    · have hr := hno.replay
      rw [snapshotHolds_buildChildSnapshot, hc, ← hr]
      simp [events]

/-- **Injecting** keeps a child tracked, and publishes only while somebody listens. -/
theorem inject_spec {edges : List DeviceInputEdge} {res : Except DeviceInputRegistryError Unit}
    (h : slot.Tracked) (hn : slot.inject edges nowMs = some (nx, res)) :
    nx.Tracked ∧ slot.Same nx ∧ nx.state.publishing = slot.state.publishing ∧
      (nx.published = slot.published ∨ slot.active ∧ slot.state.publishing ∧
        ∃ publication, nx.published = slot.published ++ [publication]) := by
  unfold inject at hn
  split at hn
  · obtain ⟨rfl, -⟩ := Prod.mk.inj (Option.some.inj hn)
    exact ⟨h, ⟨rfl, rfl⟩, rfl, .inl rfl⟩
  · rename_i ha
    obtain ⟨pub, hp, heq⟩ := Option.map_eq_some_iff.mp hn
    obtain ⟨rfl, -⟩ := Prod.mk.inj heq
    have hf := folds_edges edges (slot.fold nowMs, slot.state)
    generalize edges.foldl _ _ = folded at hf hp
    obtain ⟨es, he, ht⟩ := hf.tells
    have he : folded.1.events = es := he
    have hpu : folded.2.publishing = slot.state.publishing := hf.publishing
    rw [← he] at ht
    unfold publishFold at hp
    split at hp
    · rename_i hli
      obtain ⟨htr, hsa, hn, hl⟩ := publishLocked_spec h ht (fun hc => (hf.unchanged hc).2)
        (fun hq => absurd (hli.symm.trans hq) Bool.noConfusion) hp
      refine ⟨htr, hsa, hn.trans hpu, ?_⟩
      rcases hl with hl | ⟨snap, hl⟩
      · exact .inl hl
      · exact .inr ⟨by simpa using ha, hpu ▸ hli, _, hl⟩
    · rename_i hq
      have hq : folded.2.publishing = false := Bool.not_eq_true _ ▸ hq
      have hno := h.quiet (hpu.symm.trans hq)
      have he : folded.1.events = [] := hf.quiet (hpu.symm.trans hq) hno
      rw [he] at ht
      have hs : announced slot.deviceId folded.2 = ∅ := ht.replay.symm.trans hno
      have hnw := h.tells
      rw [hno] at hnw
      obtain rfl := Option.some.inj hp
      refine ⟨⟨?_, h.replayed, fun _ => hs⟩, ⟨rfl, rfl⟩, hpu, .inl rfl⟩
      change Tells controlEdge ∅ slot.events (announced slot.deviceId folded.2)
      rw [hs]
      exact hnw

/-- **A change of demand** keeps a child tracked, and publishes the cancellations at its end. -/
theorem syncDemand_spec {demanded : Bool} (h : slot.Tracked)
    (hn : slot.syncDemand demanded nowMs = some nx) :
    nx.Tracked ∧ slot.Same nx ∧ nx.state.publishing = demanded ∧
      (nx.published = slot.published ∨ demanded = false ∧ slot.state.publishing ∧
        ∃ publication, nx.published = slot.published ++ [publication] ∧
          List.Forall₂ Cancels publication.events
            (snapshotControls (buildChildSnapshot slot.deviceId slot.state 0))) := by
  unfold syncDemand at hn
  split at hn
  · rename_i hs
    obtain rfl := Option.some.inj hn
    exact ⟨h, ⟨rfl, rfl⟩, hs, .inl rfl⟩
  · rename_i hch
    cases demanded with
    | true =>
      obtain rfl := Option.some.inj hn
      exact ⟨⟨h.tells, h.replayed, nofun⟩, ⟨rfl, rfl⟩, rfl, .inl rfl⟩
    | false =>
      have hf := (slot.fold nowMs).cancelAnnounced_fold slot.state
      have hno := (slot.fold nowMs).announced_cancelAnnounced slot.state
      have ht := (slot.fold nowMs).tells_cancellations slot.state
      have hc := (slot.fold nowMs).cancels_cancellations slot.state
      generalize (slot.fold nowMs).cancelAnnounced slot.state = cancelled at *
      have he : cancelled.1.events = (slot.fold nowMs).cancellations slot.state := by
        rw [hf]
        rfl
      have hu : cancelled.1.changed = false → cancelled.1.events = [] := by
        rw [he, hf]
        simp [emitAll]
      have hq : announced slot.deviceId { cancelled.2 with publishing := false } = ∅ := hno
      rw [← he] at ht hc
      obtain ⟨htr, hs, hn, hl⟩ := publishLocked_spec h (hq ▸ ht) hu (fun _ => hq) hn
      refine ⟨htr, hs, hn, ?_⟩
      rcases hl with hl | ⟨snap, hl⟩
      · exact .inl hl
      · exact .inr ⟨rfl, by simpa using hch, _, hl, hc⟩

end DeviceInputChildSlot

end Hypercolor.Input
