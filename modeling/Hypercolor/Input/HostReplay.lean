import Hypercolor.Input.HostFold
import Hypercolor.Lib.Replay

/-!
# Replaying the host fold

Every function of the fold emits events (`Emits`): it queues them, and what it leaves held is what
replaying them leaves. A session starts with nothing held and nothing emitted, so what is held is
always the replay of the session, and its events are drained in order, pending, or counted.

* **`foldBatch_emits`**: a batch emits.
* **`not_holds_of_clears`**: nothing of a source is held after a gap, its removal or its arrival
  under another incarnation than the one it is catalogued with.
-/

namespace Hypercolor.Input

open Lib List AList

/-! ## Edges of a source -/

/-- What an event says of a key or button of a source: a press or a repeat holds it. -/
def sourceEdge (sourceId : String) (event : TimedInputEvent) : Option (InteractionControl × Bool) :=
  match event.event with
  | .key own key state => if own = sourceId then some (.key key, state ≠ .released) else none
  | .mouseButton own button state =>
    if own = sourceId then some (.mouseButton button, state ≠ .released) else none
  | _ => none

namespace HostInputFoldState

/-- Whether a key or button of a source is recorded as held. -/
def holds (state : HostInputFoldState) (sourceId : String) : InteractionControl → Bool
  | .key key => key ∈ names state.pressedKeys sourceId
  | .mouseButton button => button ∈ names state.pressedButtons sourceId
  | _ => false

/-- A function that emits events: it queues them, and replays them on what is held. -/
structure Emits (state next : HostInputFoldState) (events : List TimedInputEvent) : Prop where
  emitted : next.emitted = state.emitted ++ events
  queue : (next.events, next.droppedEvents) =
    events.foldl (pushQueue state.eventCapacity) (state.events, state.droppedEvents)
  eventCapacity : next.eventCapacity = state.eventCapacity
  epoch : next.epoch = state.epoch
  holds : ∀ sourceId control, next.holds sourceId control =
    (edgesOf (sourceEdge sourceId) control events).getLast?.getD (state.holds sourceId control)

namespace Emits

variable {st middle nx : HostInputFoldState} {es es' : List TimedInputEvent}

lemma trans (h : Emits st middle es) (h' : Emits middle nx es') : Emits st nx (es ++ es') where
  emitted := by rw [h'.emitted, h.emitted, append_assoc]
  queue := by rw [foldl_append, ← h.queue, ← h.eventCapacity, h'.queue]
  eventCapacity := h'.eventCapacity.trans h.eventCapacity
  epoch := h'.epoch.trans h.epoch
  holds sid c := by
    rw [h'.holds, h.holds, edgesOf_append, getLast?_append]
    cases (edgesOf (sourceEdge sid) c es').getLast? <;> rfl

lemma refl (st : HostInputFoldState) : Emits st st [] where
  emitted := by simp
  queue := rfl
  eventCapacity := rfl
  epoch := rfl
  holds _ _ := rfl

/-- A change of what nothing depends on. -/
lemma silent (he : nx.emitted = st.emitted) (hev : nx.events = st.events)
    (hd : nx.droppedEvents = st.droppedEvents)
    (hc : nx.eventCapacity = st.eventCapacity) (hep : nx.epoch = st.epoch)
    (hk : nx.pressedKeys = st.pressedKeys)
    (hb : nx.pressedButtons = st.pressedButtons) : Emits st nx [] where
  emitted := by simpa using he
  queue := by simp [hev, hd]
  eventCapacity := hc
  epoch := hep
  holds sid c := by
    cases c <;> simp [HostInputFoldState.holds, hk, hb]

end Emits

/-! ## What is held -/

variable {st : HostInputFoldState} {sid own : String} {c : InteractionControl}

@[simp] theorem names_insert (table : Table String NameSet) (held : NameSet) :
    names (table.insert own held) sid = if sid = own then held
      else names table sid := by
  simp only [names, Table.lookup_insert_if]
  split <;> rfl

@[simp] theorem names_erase (table : Table String NameSet) :
    names (table.erase own) sid = if sid = own then ∅ else names table sid := by
  simp only [names, Table.lookup_erase_if]
  split <;> rfl

lemma holds_holdKey (key : String) : (st.holdKey own key).holds sid c =
    if sid = own ∧ c = .key key then true else st.holds sid c := by
  cases c with
  | key o =>
    by_cases hs : sid = own <;> by_cases hk : o = key <;>
      simp [holds, holdKey, hs, hk]
  | mouseButton o =>
    simp [holds, holdKey]
    rfl
  | _ => simp [holds]

lemma holds_dropKey (key : String) : (st.dropKey own key).holds sid c =
    if sid = own ∧ c = .key key then false else st.holds sid c := by
  unfold dropKey
  cases hl : st.pressedKeys.lookup own with
  | none =>
    by_cases how : sid = own ∧ c = .key key
    · obtain ⟨rfl, rfl⟩ := how
      simp [holds, names, hl]
    · simp [how]
  | some keys =>
    have hn : names st.pressedKeys own = keys := by simp [names, hl]
    cases c with
    | key o =>
      by_cases hs : sid = own <;> by_cases hk : o = key <;>
        simp [holds, hs, hk, hn]
    | _ => simp [holds]

variable (bt : String)

lemma holds_holdButton : (st.holdButton own bt).holds sid c =
    if sid = own ∧ c = .mouseButton bt then true
    else st.holds sid c := by
  cases c with
  | mouseButton o =>
    by_cases hs : sid = own <;> by_cases hb : o = bt <;>
      simp [holds, holdButton, hs, hb]
  | key o =>
    simp [holds, holdButton]
    rfl
  | _ => simp [holds]

lemma holds_dropButton : (st.dropButton own bt).holds sid c =
    if sid = own ∧ c = .mouseButton bt then false
    else st.holds sid c := by
  unfold dropButton
  cases hl : st.pressedButtons.lookup own with
  | none =>
    by_cases how : sid = own ∧ c = .mouseButton bt
    · obtain ⟨rfl, rfl⟩ := how
      simp [holds, names, hl]
    · simp [how]
  | some buttons =>
    have hn : names st.pressedButtons own = buttons := by simp [names, hl]
    cases c with
    | mouseButton o =>
      by_cases hs : sid = own <;> by_cases hb : o = bt <;>
        simp [holds, hs, hb, hn]
    | _ => simp [holds]

/-! ## Single edges -/

/-- What a function leaves alone before it pushes. -/
structure Ready (state next : HostInputFoldState) : Prop where
  emitted : next.emitted = state.emitted
  events : next.events = state.events
  droppedEvents : next.droppedEvents = state.droppedEvents
  eventCapacity : next.eventCapacity = state.eventCapacity
  epoch : next.epoch = state.epoch

lemma ready_dropKey (key : String) : st.Ready (st.dropKey own key) := by
  unfold dropKey
  split <;> exact ⟨rfl, rfl, rfl, rfl, rfl⟩

lemma ready_dropButton : st.Ready (st.dropButton own bt) := by
  unfold dropButton
  split <;> exact ⟨rfl, rfl, rfl, rfl, rfl⟩

/-- An edge of one control is emitted where it was recorded. -/
lemma emits_push {ready : HostInputFoldState} {e : TimedInputEvent} {held : Bool}
    {recorded : InteractionControl} (hr : st.Ready ready)
    (he : ∀ sid, sourceEdge sid e =
      if own = sid then some (recorded, held) else none)
    (hh : ∀ sid c, ready.holds sid c =
      if sid = own ∧ c = recorded then held else st.holds sid c) :
    Emits st (ready.pushEvent e) [e] where
  emitted := by simp [pushEvent, hr.emitted]
  queue := by simp [pushEvent, hr.events, hr.droppedEvents, hr.eventCapacity]
  eventCapacity := hr.eventCapacity
  epoch := hr.epoch
  holds sid c := by
    have hp : (ready.pushEvent e).holds sid c = ready.holds sid c := by
      cases c <;> rfl
    rw [hp, hh]
    by_cases hs : own = sid
    · subst hs
      rw [edgesOf_singleton ((he own).trans (if_pos rfl))]
      by_cases hc : recorded = c
      · simp [hc]
      · simp [hc, Ne.symm hc]
    · have hn : edgesOf (sourceEdge sid) c [e] = [] := by
        simp [edgesOf, he, hs]
      simp [hn, Ne.symm hs]

/-- An edge of a key. -/
lemma sourceEdge_key (key : String) (edge : InputButtonState) (atMs : Nat)
    (code : Option String) (sid : String) :
    sourceEdge sid ⟨.key own key edge, atMs, 0, code, 1⟩ =
      if own = sid then some (InteractionControl.key key, decide (edge ≠ .released))
      else none := rfl

/-- An edge of a button. -/
lemma sourceEdge_mouseButton (edge : InputButtonState) (atMs : Nat) (code : Option String)
    (sid : String) :
    sourceEdge sid ⟨.mouseButton own bt edge, atMs, 0, code, 1⟩ =
      if own = sid then some (InteractionControl.mouseButton bt, decide (edge ≠ .released))
      else none := rfl

/-- **A key** emits. -/
theorem foldKey_emits (ident : HostKeyIdentity) (signal : HostKeySignal) (atMs : Nat) :
    ∃ es, Emits st (st.foldKey own ident signal atMs) es := by
  unfold foldKey
  dsimp only
  split
  · refine ⟨[], ?_⟩
    split
    all_goals exact .silent rfl rfl rfl rfl rfl rfl rfl
  · split
    · split
      · refine ⟨_, emits_push ?_ (fun _ => sourceEdge_key ..) fun sid c => ?_⟩
        · split <;> exact ⟨rfl, rfl, rfl, rfl, rfl⟩
        · split
          · rename_i hh
            split
            · rename_i how
              obtain ⟨rfl, rfl⟩ := how
              simpa [holds] using hh
            · rfl
          · rw [holds_holdKey]
            simp
      · refine ⟨_, emits_push ⟨rfl, rfl, rfl, rfl, rfl⟩ (fun _ => sourceEdge_key ..)
          fun sid c => ?_⟩
        have hr : ∀ ready : HostInputFoldState,
            (ready.remember ident.key).holds sid c = ready.holds sid c := by
          intro ready
          cases c <;> rfl
        rw [hr, holds_holdKey]
        simp
    · refine ⟨_, emits_push ?_ (fun _ => sourceEdge_key ..) fun sid c => ?_⟩
      · split
        · exact ready_dropKey _
        · obtain ⟨he, hev, hd, hc, hep⟩ :=
            @ready_dropKey st.countKey own ident.key
          exact ⟨he, hev, hd, hc, hep⟩
      · have hcn : st.countKey.holds sid c = st.holds sid c := by
          cases c <;> rfl
        rw [holds_dropKey]
        by_cases hh : ident.key ∈ names st.pressedKeys own
        · simp [hh]
        · simp [hh, hcn]

/-- **A button** emits. -/
theorem foldButton_emits (prs : Bool) (code : String) (atMs : Nat) :
    ∃ es, Emits st (st.foldButton own bt prs code atMs) es := by
  have hc : ∀ (ready : HostInputFoldState) sid c, ready.countButton.holds sid c = ready.holds sid c := by
    intro ready sid c
    cases c <;> rfl
  unfold foldButton
  refine ⟨_, emits_push ?_ (fun _ => sourceEdge_mouseButton ..) fun sid c => ?_⟩
  · cases prs with
    | true => split <;> exact ⟨rfl, rfl, rfl, rfl, rfl⟩
    | false =>
      obtain ⟨he, hev, hd, hca, hep⟩ := @ready_dropButton st own bt
      split <;> exact ⟨he, hev, hd, hca, hep⟩
  · cases prs with
    | true => split <;> simp [hc, holds_holdButton]
    | false => split <;> simp [hc, holds_dropButton]

/-! ## Synthesized releases -/

/-- Pushing events in order. -/
lemma pushAll (es : List TimedInputEvent) (st : HostInputFoldState) :
    es.foldl pushEvent st = { st with
        events := (es.foldl (pushQueue st.eventCapacity) (st.events, st.droppedEvents)).1
        droppedEvents := (es.foldl (pushQueue st.eventCapacity) (st.events, st.droppedEvents)).2
        emitted := st.emitted ++ es } := by
  induction es generalizing st with
  | nil => simp
  | cons e es ih =>
    rw [foldl_cons, ih]
    simp [pushEvent]

lemma mem_orderedNames {held : NameSet} {nm : String} : nm ∈ orderedNames held ↔ nm ∈ held := by
  rw [orderedNames, mem_map, ← lookup_isSome, Option.isSome_iff_exists]
  constructor
  · rintro ⟨⟨_, v⟩, hm, rfl⟩
    exact ⟨v, Table.mem_ordered.mp hm⟩
  · rintro ⟨v, hl⟩
    exact ⟨(nm, v), Table.mem_ordered.mpr hl, rfl⟩

/-- The releases of everything a source holds. -/
def releases (state : HostInputFoldState) (atMs : Nat) (sourceId : String) : List TimedInputEvent :=
  (orderedNames (names state.pressedKeys sourceId)).map (keyRelease sourceId atMs) ++
    (orderedNames (names state.pressedButtons sourceId)).map (buttonRelease sourceId atMs)

variable (atMs : Nat)

/-- Releasing a source, as one change and one list of events. -/
lemma synthesizeReleases_eq : st.synthesizeReleases atMs own =
    (st.releases atMs own).foldl pushEvent { st with
        pressedKeys := st.pressedKeys.erase own
        pressedButtons := st.pressedButtons.erase own } := by
  unfold synthesizeReleases releases
  rw [foldl_append, pushAll, pushAll, pushAll, pushAll]

/-- Nothing of a released source is held. -/
lemma holds_synthesizeReleases (st : HostInputFoldState) (own : String) :
    (st.synthesizeReleases atMs own).holds sid c =
      if sid = own then false else st.holds sid c := by
  rw [synthesizeReleases_eq, pushAll]
  cases c with
  | key key | mouseButton bt => by_cases hs : sid = own <;> simp [holds, hs]
  | _ => simp [holds]

/-- **Releasing a source** emits. -/
theorem synthesizeReleases_emits (st : HostInputFoldState) (own : String) :
    Emits st (st.synthesizeReleases atMs own) (st.releases atMs own) where
  emitted := by rw [synthesizeReleases_eq, pushAll]
  queue := by rw [synthesizeReleases_eq, pushAll]
  eventCapacity := by rw [synthesizeReleases_eq, pushAll]
  epoch := by rw [synthesizeReleases_eq, pushAll]
  holds sid c := by
    rw [holds_synthesizeReleases, getLast?_edgesOf_ends]
    · by_cases hs : sid = own
      · subst hs
        cases c <;> simp [releases, sourceEdge, keyRelease, buttonRelease, holds, mem_orderedNames]
      · simp [releases, sourceEdge, keyRelease, buttonRelease, hs, Ne.symm hs]
    · intro ev hev e he
      rcases mem_append.mp hev with hev | hev
      · grind [sourceEdge, keyRelease]
      · grind [sourceEdge, buttonRelease]

/-- Releasing sources one after the other. -/
lemma releaseSources_emits (ss : List String) (st : HostInputFoldState) :
    ∃ es, Emits st (ss.foldl (synthesizeReleases atMs) st) es := by
  induction ss generalizing st with
  | nil => exact ⟨[], .refl st⟩
  | cons own ss ih =>
    obtain ⟨es, he⟩ := ih (st.synthesizeReleases atMs own)
    rw [foldl_cons]
    exact ⟨_, (synthesizeReleases_emits atMs st own).trans he⟩

lemma holds_releaseSources (ss : List String) (st : HostInputFoldState) :
    (ss.foldl (synthesizeReleases atMs) st).holds sid c =
      if sid ∈ ss then false else st.holds sid c := by
  induction ss generalizing st with
  | nil => simp
  | cons own ss ih =>
    rw [foldl_cons, ih, holds_synthesizeReleases]
    by_cases hs : sid = own <;> simp [hs]

/-- A source that holds something is among the held ones. -/
lemma mem_heldSources (h : st.holds sid c) : sid ∈ st.heldSources := by
  have hi : ∀ (ss : List String) (set : NameSet) (name : String),
      name ∈ ss.foldl (fun set sid => set.insert sid ()) set ↔
        name ∈ ss ∨ name ∈ set := by
    intro ss
    induction ss with
    | nil => simp
    | cons own ss ih =>
      intro set name
      rw [foldl_cons, ih, mem_insert, mem_cons]
      tauto
  have hna : ∀ {table : Table String NameSet} {name : String}, name ∈ names table sid → sid ∈ table := by
    intro table name hn
    by_contra ha
    rw [names, lookup_eq_none.mpr ha] at hn
    exact notMem_empty _ hn
  rw [heldSources, mem_orderedNames, hi, mem_append]
  cases c with
  | key key => exact .inl (.inl (hna (of_decide_eq_true h)))
  | mouseButton bt => exact .inl (.inr (hna (of_decide_eq_true h)))
  | _ => cases h

/-- Nothing is held after everything was released. -/
lemma holds_synthesizeAllReleases : (st.synthesizeAllReleases atMs).holds sid c = false := by
  rw [synthesizeAllReleases, holds_releaseSources]
  split
  · rfl
  · rename_i hs
    exact Bool.not_eq_true _ ▸ fun hh => hs (mem_heldSources hh)

/-! ## Batches -/

/-- **An event** emits. -/
theorem foldEvent_emits (fb : String) (atMs : Nat) (e : HostInputEvent) :
    ∃ es, Emits st (st.foldEvent fb atMs e) es := by
  cases e with
  | key d ident signal => exact foldKey_emits ident signal atMs
  | button d bt prs code =>
    exact foldButton_emits bt prs code atMs
  | motion d => exact ⟨[], .silent rfl rfl rfl rfl rfl rfl rfl⟩
  | scroll d deltaX deltaY unit phase momentumPhase code =>
    refine ⟨_, ⟨rfl, rfl, rfl, rfl, fun sid c => ?_⟩⟩
    cases c <;> rfl
  | deviceArrived d =>
    have ha : Emits st { st with devices := st.devices.insert d.sourceId d } [] :=
      .silent rfl rfl rfl rfl rfl rfl rfl
    unfold foldEvent
    dsimp only
    split
    · exact ⟨_, ha⟩
    · split
      · exact ⟨_, ha⟩
      · exact ⟨_, ha.trans (synthesizeReleases_emits atMs _ _)⟩
  | stateGap d reason =>
    unfold foldEvent
    dsimp only
    generalize hco : { st with diagnostics := { st.diagnostics with
      stateGaps := saturatingAdd st.diagnostics.stateGaps 1 } } = counted
    have hc : Emits st counted [] := by
      subst hco
      exact .silent rfl rfl rfl rfl rfl rfl rfl
    split
    · exact ⟨_, hc.trans (synthesizeReleases_emits atMs _ _)⟩
    · obtain ⟨es, he⟩ := releaseSources_emits atMs counted.heldSources counted
      exact ⟨_, hc.trans he⟩
  | deviceRemoved d =>
    have hr : Emits st { st with devices := st.devices.erase d.sourceId } [] :=
      .silent rfl rfl rfl rfl rfl rfl rfl
    unfold foldEvent
    exact ⟨_, hr.trans (synthesizeReleases_emits atMs _ _)⟩

/-- Events in order emit. -/
lemma foldEvents_emits (fb : String) (atMs : Nat) (es : List HostInputEvent) (st : HostInputFoldState) :
    ∃ emitted, Emits st (es.foldl (foldEvent fb atMs) st) emitted := by
  induction es generalizing st with
  | nil => exact ⟨[], .refl st⟩
  | cons e es ih =>
    obtain ⟨f, hf⟩ := @foldEvent_emits st fb atMs e
    obtain ⟨rest, hr⟩ := ih (st.foldEvent fb atMs e)
    exact ⟨_, hf.trans hr⟩

/-- **A batch** emits. -/
theorem foldBatch_emits (sid : String) (batch : HostInputBatch) :
    ∃ es, Emits st (st.foldBatch sid batch) es := by
  unfold foldBatch
  generalize hc : { st with diagnostics := { st.diagnostics with
    deviceCatalogGeneration := batch.deviceCatalogGeneration } } = catalogued
  have hs : Emits st catalogued [] := by
    subst hc
    exact .silent rfl rfl rfl rfl rfl rfl rfl
  obtain ⟨es, he⟩ := foldEvents_emits sid batch.atMs batch.events catalogued
  exact ⟨_, hs.trans he⟩

/-- An event after which nothing of a source may be held: a gap, its removal, or its arrival under
another incarnation than the one it is catalogued with. -/
def Clears (state : HostInputFoldState) (sourceId : String) : HostInputEvent → Prop
  | .stateGap none _ => True
  | .stateGap (some device) _ => device.sourceId = sourceId
  | .deviceRemoved device => device.sourceId = sourceId
  | .deviceArrived device => device.sourceId = sourceId ∧
    ∃ previous, state.devices.lookup sourceId = some previous ∧ ¬ sameIncarnation previous device
  | _ => False

/-- **Nothing is held** after such an event. -/
theorem not_holds_of_clears {e : HostInputEvent} (h : st.Clears sid e) (fb : String) (atMs : Nat) :
    (st.foldEvent fb atMs e).holds sid c = false := by
  unfold foldEvent
  cases e with
  | stateGap d reason =>
    cases d with
    | none =>
      rw [holds_synthesizeAllReleases]
    | some d =>
      obtain rfl : d.sourceId = sid := h
      rw [holds_synthesizeReleases, if_pos rfl]
  | deviceRemoved d =>
    obtain rfl : d.sourceId = sid := h
    rw [holds_synthesizeReleases, if_pos rfl]
  | deviceArrived d =>
    obtain ⟨rfl, prev, hp, hoh⟩ := h
    simp only [hp, if_neg hoh]
    rw [holds_synthesizeReleases, if_pos rfl]
  | key d ident signal | button d bt prs code | motion d
  | scroll d deltaX deltaY unit phase momentumPhase code => exact False.elim h

end HostInputFoldState

end Hypercolor.Input
