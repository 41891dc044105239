import Hypercolor.Input.Consumer

/-!
# What is observed and what is quarantined

A control held in the snapshot of a selected source is observed where the consumer saw it pressed
and quarantined where it was held already. Reconciling brings both in line with the snapshot but
for one case: a quarantined control that the snapshot no longer holds stays quarantined when its
release was not among the events.

**`routed_agrees`**: in every run in which a quarantined control leaves its snapshot only with its
release, and no cursor is exhausted, observed and quarantined controls are disjoint and together
what the snapshot holds, and the routed interaction holds exactly the observed ones.
-/

namespace Hypercolor.Input

open Lib List AList RouterSession ConsumerSourceState

/-- A valid release of a control. -/
def Releases (control : InteractionControl) (event : TimedInputEvent) : Prop :=
  event.repeatCount ≠ 0 ∧ eventControl event = some (control, .released)

/-- The slot of a source has cursors left. -/
def InteractionRouteSource.Live (source : InteractionRouteSource) : Prop :=
  ∀ cursor, (source.read cursor).events.nextCursor ≠ u64Max ∧
    (source.recovery cursor).events.nextCursor ≠ u64Max

lemma live_hostSource {v : Nat} {read : InteractionRouteRead}
    (h : read.events.nextCursor ≠ u64Max) : (hostSource v read).Live := fun _ => ⟨h, h⟩

instance (control : InteractionControl) : DecidablePred (Releases control) := fun event =>
  inferInstanceAs (Decidable (event.repeatCount ≠ 0 ∧ eventControl event = _))

namespace ConsumerSourceState

variable {st : ConsumerSourceState}

variable {c : InteractionControl}

lemma holds_iff : st.holds c ↔
    ∃ snapshot, st.latestSnapshot = some snapshot ∧ snapshotHolds snapshot c := by
  unfold holds
  cases st.latestSnapshot <;> simp

/-! ## Events -/

lemma mem_quarantined_route (st : ConsumerSourceState) (e : TimedInputEvent)
    (c : InteractionControl) : c ∈ (st.route e).quarantined ↔ c ∈ st.quarantined ∧ ¬ Releases c e := by
  unfold route Releases
  by_cases hr : e.repeatCount = 0
  · simp [hr]
  rw [if_neg hr]
  cases hc : eventControl e with
  | none => simp
  | some edge =>
    obtain ⟨o, edge⟩ := edge
    dsimp only
    by_cases hq : o ∈ st.quarantined
    · rw [if_pos hq]
      split
      · rename_i hre
        grind
      · grind
    · rw [if_neg hq]
      cases edge with
      | pressed | repeated => simp
      | released =>
        split <;> grind

variable (cap : List TimedInputEvent)

lemma mem_quarantined_routes (st : ConsumerSourceState)
    (c : InteractionControl) : c ∈ (cap.foldl route st).quarantined ↔
      c ∈ st.quarantined ∧ ∀ e ∈ cap, ¬ Releases c e := by
  induction cap generalizing st with
  | nil => simp
  | cons e cap ih =>
    rw [foldl_cons, ih, mem_quarantined_route]
    grind

/-- No control is both observed and quarantined. -/
def Apart (state : ConsumerSourceState) : Prop :=
  ∀ control, control ∈ state.observed → control ∉ state.quarantined

lemma Apart.route (h : st.Apart) (e : TimedInputEvent) : (st.route e).Apart := by
  intro c
  unfold ConsumerSourceState.route
  by_cases hr : e.repeatCount = 0
  · rw [if_pos hr]
    exact h c
  rw [if_neg hr]
  cases hc : eventControl e with
  | none => exact h c
  | some edge =>
    obtain ⟨o, edge⟩ := edge
    dsimp only
    by_cases hq : o ∈ st.quarantined
    · rw [if_pos hq]
      split
      · exact fun hob hm => h c hob (Finset.mem_of_mem_erase hm)
      · exact h c
    · rw [if_neg hq]
      cases edge with
      | pressed =>
        intro hob
        rcases (mem_insert _).mp hob with rfl | hob
        · exact hq
        · exact h c hob
      | repeated => exact h c
      | released =>
        dsimp only
        split
        · exact fun hob => h c (mem_erase.mp hob).2
        · exact h c

lemma Apart.routes (h : st.Apart) : (cap.foldl ConsumerSourceState.route st).Apart := by
  induction cap generalizing st with
  | nil => exact h
  | cons e cap ih => exact ih (h.route e)

/-- Events change nothing but what is observed and quarantined. -/
lemma route_frame (st : ConsumerSourceState) (e : TimedInputEvent) :
    ∃ obs quarantined, st.route e = { st with observed := obs, quarantined } := by
  unfold route
  repeat' split
  all_goals exact ⟨_, _, rfl⟩

lemma routes_frame (st : ConsumerSourceState) :
    ∃ obs quarantined, cap.foldl route st = { st with observed := obs, quarantined } := by
  induction cap generalizing st with
  | nil => exact ⟨_, _, rfl⟩
  | cons e cap ih =>
    obtain ⟨obs, quarantined, hrt⟩ := st.route_frame e
    obtain ⟨obs', quarantined', hr⟩ := ih (st.route e)
    refine ⟨obs', quarantined', ?_⟩
    rw [foldl_cons, hr, hrt]

/-! ## Reconciling -/

lemma mem_missing : c ∈ st.missing ↔ c ∈ st.observed ∧ ¬ st.holds c := by
  unfold missing
  rw [mem_filter, mem_map, Bool.not_eq_true', Bool.not_eq_true]
  refine and_congr_left fun _ => ?_
  constructor
  · rintro ⟨⟨o, press⟩, hm, rfl⟩
    exact Table.mem_of_lookup (Table.mem_ordered.mp hm)
  · intro hob
    obtain ⟨press, hp⟩ := Table.exists_lookup hob
    exact ⟨(c, press), Table.mem_ordered.mpr hp, rfl⟩

lemma foldl_dropMissing (cs : List InteractionControl) (st : ConsumerSourceState) :
    ∃ obs, cs.foldl dropMissing st = { st with observed := obs } ∧ ∀ c, obs.lookup c =
        if c ∈ cs then none else st.observed.lookup c := by
  induction cs generalizing st with
  | nil => exact ⟨_, rfl, fun _ => rfl⟩
  | cons f cs ih =>
    rw [foldl_cons, dropMissing]
    split
    · rename_i hn
      obtain ⟨obs, hf, hl⟩ := ih st
      refine ⟨obs, hf, fun c => ?_⟩
      rw [hl]
      by_cases hc : c = f
      · subst hc
        rw [hn, ite_self, ite_self]
      · simp [hc]
    · obtain ⟨obs, hf, hl⟩ := ih { st with observed := st.observed.erase f }
      refine ⟨obs, hf, fun c => ?_⟩
      rw [hl, Table.lookup_erase_if]
      by_cases hc : c = f <;> simp [hc]

lemma foldl_quarantineHeld (cs : List InteractionControl) (st : ConsumerSourceState) :
    ∃ q, cs.foldl quarantineHeld st = { st with quarantined := q } ∧ ∀ c, c ∈ q ↔
        c ∈ st.quarantined ∨ c ∈ cs ∧ c ∉ st.observed := by
  induction cs generalizing st with
  | nil => exact ⟨_, rfl, fun _ => by simp⟩
  | cons f cs ih =>
    rw [foldl_cons, quarantineHeld]
    split
    · obtain ⟨q, hf, hm⟩ := ih { st with quarantined := insert f st.quarantined }
      refine ⟨q, hf, fun c => ?_⟩
      grind
    · obtain ⟨q, hf, hm⟩ := ih st
      refine ⟨q, hf, fun c => ?_⟩
      grind

/-- **Reconciling.** Only held controls stay observed, and held ones that are not observed are
quarantined. -/
lemma reconcile_spec (st : ConsumerSourceState) : ∃ obs q, st.reconcile =
        { st with
          observed := obs, quarantined := q
          lastInteractionGeneration := st.latestSnapshot.map InteractionData.generation } ∧
      (∀ c, obs.lookup c =
        if st.holds c then st.observed.lookup c else none) ∧
      ∀ c, c ∈ q ↔ st.latestSnapshot.isSome ∧
        (c ∈ st.quarantined ∨ st.holds c ∧ c ∉ obs) := by
  obtain ⟨obs, hp, hl⟩ := foldl_dropMissing st.missing st
  have hob : ∀ c, obs.lookup c =
      if st.holds c then st.observed.lookup c else none := by
    intro c
    rw [hl]
    by_cases hh : st.holds c
    · simp [mem_missing, hh]
    · by_cases hm : c ∈ st.observed
      · simp [mem_missing, hh, hm]
      · simp [mem_missing, hh, hm, lookup_eq_none.mpr hm]
  unfold reconcile
  rw [hp]
  split
  · rename_i hs
    exact ⟨obs, ∅, by simp [forgetSnapshot, hs], hob, by simp [hs]⟩
  · rename_i snap hs
    obtain ⟨q, hq, hm⟩ := foldl_quarantineHeld (snapshotControls snap) { st with observed := obs }
    refine ⟨obs, q, ?_, hob, fun c => ?_⟩
    · rw [applySnapshot, hq, hs]
      rfl
    · rw [hm]
      simp [holds, hs, snapshotHolds_iff]

/-! ## Agreement with the snapshot -/

/-- **Agreement.** -/
structure Agrees (state : ConsumerSourceState) : Prop where
  apart : state.Apart
  held : ∀ control,
    state.holds control ↔ control ∈ state.observed ∨ control ∈ state.quarantined

/-- What is kept between resolutions: a source whose cursor stands at the tail marker has shown the
consumer nothing yet. -/
structure Kept (state : ConsumerSourceState) : Prop where
  apart : state.Apart
  fresh : state.cursor = u64Max → ∀ control, control ∉ state.observed

lemma kept_attach : attach.Kept where
  apart _ h := nomatch notMem_empty _ h
  fresh _ c := notMem_empty c

/-- The condition on one source: a quarantined control that has left the snapshot has been released
among the events. -/
def Tracked (state : ConsumerSourceState) (source : InteractionRouteSource) : Prop :=
  let publication := source.read state.cursor
  state.cursor ≠ u64Max → publication.events.dropped = 0 →
    ∀ snapshot ∈ publication.snapshot, ∀ control ∈ state.quarantined,
      ¬ snapshotHolds snapshot control → ∃ event ∈ publication.captured, Releases control event

lemma mem_replaceQuarantine : c ∈ st.replaceQuarantineFromSnapshot.quarantined ↔ st.holds c := by
  unfold replaceQuarantineFromSnapshot holds
  cases st.latestSnapshot with
  | none => simp
  | some snap => simp [snapshotHolds_iff]

variable {src : InteractionRouteSource}

/-- **A read** leaves only held controls quarantined. -/
theorem Kept.read (h : st.Kept) (hl : src.Live) (ht : st.Tracked src) :
    (st.read src).Apart ∧ (st.read src).cursor ≠ u64Max ∧
      ((st.read src).latestSnapshot.isSome → ∀ c ∈ (st.read src).quarantined, (st.read src).holds c) := by
  unfold ConsumerSourceState.read
  dsimp only
  split
  · rename_i hat
    refine ⟨fun c hob => absurd hob (h.fresh hat c), (hl _).1, ?_⟩
    exact fun _ c hm => mem_replaceQuarantine.mp hm
  · rename_i ha
    split
    · refine ⟨fun c hob => absurd hob (notMem_empty c), (hl _).2, ?_⟩
      exact fun _ c hm => mem_replaceQuarantine.mp hm
    · obtain ⟨obs, quarantined, hr⟩ := routes_frame (src.read st.cursor).captured
        ({ st.advance src with latestSnapshot :=
            (src.read st.cursor).snapshot }.applyInteractionTransients
            (src.read st.cursor).interactionTransients)
      refine ⟨Apart.routes _ h.apart, ?_, ?_⟩
      · rw [hr]
        exact (hl _).1
      · intro hs c hm
        obtain ⟨hq, hn⟩ := (mem_quarantined_routes _ _ _).mp hm
        rw [hr] at hs ⊢
        obtain ⟨snap, hsn⟩ := Option.isSome_iff_exists.mp hs
        by_contra hhl
        obtain ⟨e, he, hre⟩ := ht ha (by omega) snap hsn c
          hq (fun hh => hhl (holds_iff.mpr ⟨snap, hsn, hh⟩))
        exact hn e he hre

/-- **A frame** brings a source in line with its snapshot. -/
theorem Kept.frame (h : st.Kept) (hl : src.Live) (ht : st.Tracked src) :
    (st.read src).reconcile.Agrees ∧ (st.read src).reconcile.Kept := by
  obtain ⟨ha, hcr, hqr⟩ := h.read hl ht
  obtain ⟨obs, quarantined, hr, hlk, hm⟩ := (st.read src).reconcile_spec
  have hob : ∀ c, c ∈ obs ↔ c ∈ (st.read src).observed ∧ (st.read src).holds c := by
    intro c
    rw [← lookup_isSome, hlk, ← lookup_isSome]
    split <;> simp_all
  have hd : ∀ c, c ∈ obs → c ∉ quarantined := by
    intro c hc hq
    rcases ((hm c).mp hq).2 with hq | hq
    · exact ha c ((hob c).mp hc).1 hq
    · exact hq.2 hc
  have hhl : ∀ c, (st.read src).reconcile.holds c = (st.read src).holds c := by
    intro c
    rw [hr]
    rfl
  rw [hr] at hhl ⊢
  refine ⟨⟨hd, fun c => ?_⟩, hd, fun hma => absurd hma hcr⟩
  constructor
  · intro hh
    by_cases hc : c ∈ obs
    · exact .inl hc
    · obtain ⟨snap, hs, -⟩ := holds_iff.mp hh
      exact .inr ((hm c).mpr ⟨by rw [hs]; rfl, .inr ⟨hh, hc⟩⟩)
  · rintro (hc | hc)
    · exact ((hob c).mp hc).2
    · obtain ⟨hso, hc⟩ := (hm c).mp hc
      rcases hc with hc | hc
      · exact hqr hso c hc
      · exact hc.1

end ConsumerSourceState

/-! ## The routed interaction -/

lemma mem_foldl_pushUnique (values o : List String) (v : String) :
    v ∈ values.foldl pushUnique o ↔ v ∈ o ∨ v ∈ values := by
  induction values generalizing o with
  | nil => simp
  | cons f values ih =>
    rw [foldl_cons, ih, pushUnique]
    split
    · rename_i hk
      grind
    · simp [or_assoc]

lemma mem_foldl_pushTouch (touches o : List TouchContact) (c : InteractionControl) :
    c ∈ (touches.foldl pushTouch o).map touchControl ↔
      c ∈ o.map touchControl ∨ c ∈ touches.map touchControl := by
  induction touches generalizing o with
  | nil => simp
  | cons f touches ih =>
    rw [foldl_cons, ih, map_cons, mem_cons, pushTouch]
    split
    · rename_i hk
      obtain ⟨ex, he, hs⟩ := any_eq_true.mp hk
      have hs : touchControl ex = touchControl f := by
        simpa [touchControl] using hs
      grind
    · rw [map_append, mem_append, map_singleton, mem_singleton, or_assoc]

lemma mem_foldl_pushDeviceButton (holds o : List DeviceButtonHold) (hold : DeviceButtonHold) :
    hold ∈ holds.foldl pushDeviceButton o ↔ hold ∈ o ∨ hold ∈ holds := by
  induction holds generalizing o with
  | nil => simp
  | cons f holds ih =>
    rw [foldl_cons, ih, pushDeviceButton]
    split
    · rename_i hk
      grind
    · simp [or_assoc]

/-- A source adds the controls of its snapshot that were observed. -/
lemma snapshotHolds_addSource (ia : InteractionData) (st : ConsumerSourceState)
    (c : InteractionControl) : snapshotHolds (addSource ia st) c ↔
      snapshotHolds ia c ∨ c ∈ st.observed ∧ st.holds c := by
  unfold addSource holds
  cases st.latestSnapshot with
  | none => simp
  | some snap =>
    rw [snapshotHolds_iff, snapshotHolds_iff, Option.any_some, snapshotHolds_iff]
    cases c with
    | key key | mouseButton bt =>
      simp [snapshotControls, mem_foldl_pushUnique, touchControl, deviceButtonControl]
      grind
    | touch d contact =>
      have ht := mem_foldl_pushTouch (snap.device.touches.filter fun touch =>
        touchControl touch ∈ st.observed) ia.device.touches (.touch d contact)
      simp only [snapshotControls, mem_append, mem_map, ht]
      simp [touchControl, deviceButtonControl]
      grind
    | deviceButton d bt =>
      simp [snapshotControls, mem_foldl_pushDeviceButton, touchControl, deviceButtonControl]
      grind

/-- Events do not change what is held. -/
lemma snapshotHolds_addEvents (es : List TimedInputEvent) (ia : InteractionData)
    (c : InteractionControl) : snapshotHolds (es.foldl addEvent ia) c = snapshotHolds ia c := by
  induction es generalizing ia with
  | nil => rfl
  | cons e es ih =>
    rw [foldl_cons, ih, addEvent]
    split <;> cases c <;> rfl

lemma snapshotHolds_addSources (states : List ConsumerSourceState) (ia : InteractionData)
    (c : InteractionControl) : snapshotHolds (states.foldl addSource ia) c ↔ snapshotHolds ia c ∨
      ∃ st ∈ states, c ∈ st.observed ∧ st.holds c := by
  induction states generalizing ia with
  | nil => simp
  | cons st states ih =>
    rw [foldl_cons, ih, snapshotHolds_addSource]
    simp [or_assoc]

/-- **The routed interaction** holds what was observed of the snapshots. -/
theorem snapshotHolds_buildInteraction (st : ConsumerRouteState)
    (sel : List SourceIncarnation) (es : List TimedInputEvent) (c : InteractionControl) :
    snapshotHolds (st.buildInteraction sel es) c ↔
      ∃ incarnation ∈ sel, c ∈ (st.source incarnation).observed ∧ (st.source incarnation).holds c := by
  have hn : snapshotHolds (default : InteractionData) c = false := by
    cases c <;> rfl
  have hs := snapshotHolds_addSources (sel.map st.source) default c
  rw [hn] at hs
  have hb : snapshotHolds (st.buildInteraction sel es) c =
      snapshotHolds ((sel.map st.source).foldl addSource default) c := by
    have hd : ∀ (ia : InteractionData) (down : Bool),
        snapshotHolds { ia with mouse := { ia.mouse with down } } c =
          snapshotHolds ia c := by
      intro ia down
      cases c <;> rfl
    have hba : ∀ (ia : InteractionData) (batch : InteractionBatch),
        snapshotHolds { ia with batch } c = snapshotHolds ia c := by
      intro ia batch
      cases c <;> rfl
    exact (hba _ _).trans ((snapshotHolds_addEvents es _ c).trans (hd _ _))
  rw [hb, hs]
  simp

/-! ## Runs -/

/-- The condition on a resolution. -/
def TrackedFrame (consumer : ConsumerIncarnation) (session : RouterSession)
    (_ : InteractionRouteRequest) (selected : List InteractionRouteSource) (_ : Nat) : Prop :=
  ∀ source ∈ selected, source.Live ∧ ((session.state consumer).source source.incarnation).Tracked source

/-- Every source of a consumer is kept. -/
def KeptAll (state : ConsumerRouteState) : Prop := ∀ incarnation, (state.source incarnation).Kept

namespace ConsumerRouteState

variable {st : ConsumerRouteState} {pol : InteractionRoutePolicy}
  {sel : List InteractionRouteSource} {nowMs : Nat}

lemma source_resolveInto (inc : SourceIncarnation) : (st.resolveInto pol sel nowMs).1.source inc =
      (st.collect pol sel nowMs).state.source inc := rfl

lemma agrees_resolveInto (hse : (sel.map InteractionRouteSource.incarnation).Nodup)
    (hk : KeptAll st) (ht : ∀ src ∈ sel, src.Live ∧ (st.source src.incarnation).Tracked src) :
    KeptAll (st.resolveInto pol sel nowMs).1 ∧ ∀ src ∈ sel,
      ((st.resolveInto pol sel nowMs).1.source src.incarnation).Agrees := by
  have hf : ∀ src ∈ sel, ((st.resolveInto pol sel nowMs).1.source src.incarnation).Agrees ∧
        ((st.resolveInto pol sel nowMs).1.source src.incarnation).Kept := by
    intro src hs
    rw [source_resolveInto, source_collect_of_mem hse hs]
    exact (hk _).frame (ht src hs).1 (ht src hs).2
  refine ⟨fun inc => ?_, fun src hs => (hf src hs).1⟩
  by_cases hm : inc ∈ sel.map InteractionRouteSource.incarnation
  · obtain ⟨src, hs, rfl⟩ := mem_map.mp hm
    exact (hf src hs).2
  · rw [source_resolveInto, source_collect_of_notMem hm]
    split
    · exact kept_attach
    · exact hk inc

end ConsumerRouteState

/-- **Routed state agrees with the sources** after every resolution of a run whose resolutions meet
the condition. -/
theorem routed_agrees {consumer : ConsumerIncarnation} {session : RouterSession}
    (h : ((consumption consumer).restrict
      (AtResolutions consumer (TrackedFrame consumer))).Reachable session)
    {request : InteractionRouteRequest} {sources : List InteractionRouteSource} {nowMs : Nat}
    (htracked : TrackedFrame consumer session request (selectSources request sources) nowMs) :
    let next := session.perform consumer (.resolve consumer request sources nowMs)
    (∀ source ∈ selectSources request sources, ((next.state consumer).source source.incarnation).Agrees) ∧
      ∃ output, next.outputs.getLast? = some output ∧ ∀ control,
        snapshotHolds output.interaction control ↔ ∃ source ∈ selectSources request sources,
          control ∈ ((next.state consumer).source source.incarnation).observed := by
  have hk : KeptAll (session.state consumer) :=
    reachable_state (C := TrackedFrame consumer) (P := KeptAll) (fun _ => kept_attach)
      (fun session request selected nowMs hse hk htracked =>
        (ConsumerRouteState.agrees_resolveInto hse hk htracked).1) h
  have ha := (@ConsumerRouteState.agrees_resolveInto _ request.policy _ nowMs
    (nodup_selectSources request sources) hk htracked).2
  intro next
  rw [state_resolve]
  refine ⟨ha, _, by rw [outputs_resolve, getLast?_concat],
    fun control => ?_⟩
  have hr : ∀ state : ConsumerRouteState, snapshotHolds
      (state.resolveInto request.policy (selectSources request sources) nowMs).2.interaction control =
        snapshotHolds ((state.resolveInto request.policy (selectSources request sources)
          nowMs).1.buildInteraction
            ((selectSources request sources).map InteractionRouteSource.incarnation)
            (stableSortEvents (state.collect request.policy (selectSources request sources)
              nowMs).events)) control := by
    intro state
    cases control <;> rfl
  refine Iff.trans (iff_of_eq (congrArg (· = true) (hr _))) ?_
  rw [snapshotHolds_buildInteraction]
  constructor
  · rintro ⟨_, hi, hob, -⟩
    obtain ⟨source, hs, rfl⟩ := mem_map.mp hi
    exact ⟨source, hs, hob⟩
  · rintro ⟨source, hs, hob⟩
    exact ⟨source.incarnation, mem_map_of_mem hs, hob, ((ha source hs).held control).mpr (.inl hob)⟩

/-- A resolution that attaches to a host source holding `a`. -/
def attachHolding : RouterOp :=
  .resolve 0 ⟨.host, none⟩ [hostSource 0 (answering (holdingKeys ["a"] 1) [])] 10

/-- A resolution that finds nothing held and no event. -/
def findNothing : RouterOp :=
  .resolve 0 ⟨.host, none⟩ [hostSource 0 (answering (holdingKeys [] 2) [])] 20

/-- The release of `a` is lost before it is published: `a` stays quarantined. -/
theorem lost_release_stays_quarantined : ∃ session, (consumption 0).Reachable session ∧
      let source := (session.state 0).source ⟨.host, 0⟩
      source.latestSnapshot = some (holdingKeys [] 2) ∧ .key "a" ∈ source.quarantined ∧
        ¬ source.Agrees := by
  refine ⟨_, .step (e := findNothing) (.step (e := attachHolding) (.init rfl) rfl) rfl, ?_⟩
  have hq : InteractionControl.key "a" ∈ (state
      (perform 0 (perform 0 ⟨⟨∅⟩, [], []⟩ attachHolding) findNothing)
        0 |>.source ⟨.host, 0⟩).quarantined := by decide +kernel
  refine ⟨by decide +kernel, hq, fun ha => ?_⟩
  have hh := (ha.held (.key "a")).mpr (.inr hq)
  revert hh
  decide +kernel

/-- A later read of the host source: `b` was pressed while `a` is still held. -/
def pressedLater : InteractionRouteSource :=
  hostSource 0 (answering (holdingKeys ["a", "b"] 2) [keyEdge "b" .pressed 15 1])

/-- `a` is quarantined and `b` observed. -/
theorem routed_agrees_pressed :
    let next := perform 0 (perform 0 ⟨⟨∅⟩, [], []⟩ attachHolding)
      (.resolve 0 ⟨.host, none⟩ [pressedLater] 20)
    (∀ source ∈ selectSources ⟨.host, none⟩ [pressedLater],
        ((next.state 0).source source.incarnation).Agrees) ∧
      ∃ output, next.outputs.getLast? = some output ∧ ∀ control,
          snapshotHolds output.interaction control ↔
          ∃ source ∈ selectSources ⟨.host, none⟩ [pressedLater],
            control ∈ ((next.state 0).source source.incarnation).observed := by
  refine routed_agrees (.step (e := attachHolding) (.init rfl) ⟨rfl, fun _ => ?_⟩) ?_
  · change ∀ source ∈ [hostSource 0 (answering (holdingKeys ["a"] 1) [])], _
    simp only [mem_singleton, forall_eq]
    exact ⟨live_hostSource (by decide), fun ha => absurd rfl ha⟩
  · change ∀ source ∈ [pressedLater], _
    simp only [mem_singleton, forall_eq]
    refine ⟨live_hostSource (by decide), fun _ _ snapshot hs => ?_⟩
    obtain rfl := Option.some_inj.mp hs
    decide +kernel

end Hypercolor.Input
