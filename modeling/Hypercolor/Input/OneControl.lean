import Hypercolor.Input.Announced
import Hypercolor.Input.Holds
import Hypercolor.Lib.Tally

/-!
# One control in a resolution

What a resolution does to one control can be told without the rest of the state: which sources
observe it, where it is quarantined, and the edges of it that are collected. `ControlView.frame`
says so from what came before and what the slots answer.

* **`settled_frame_of_chronological`**: where the sources publish in the order of capture times, the
  edge collected last is delivered last.
* **`sees_frame`**: the state and the events of a resolution, looked at for one control, are what
  `frame` says.
-/

namespace Hypercolor.Input

open Lib List AList Routing ConsumerSourceState Tally InteractionRouteSource Prod ConsumerRouteState

/-! ## A control on its own -/

/-- Whether a snapshot, if there is one, holds a control. -/
def holdsIn (control : InteractionControl) (snapshot : Option InteractionData) : Bool :=
  snapshot.any fun snapshot => snapshotHolds snapshot control

/-- The snapshot a source has after a read. -/
def InteractionRouteSource.latest (source : InteractionRouteSource) (cursor : Nat) :
    Option InteractionData :=
  if cursor ≠ u64Max ∧ 0 < (source.read cursor).events.dropped then
    (source.recovery u64Max).snapshot
  else (source.read cursor).snapshot

variable {cur nowMs : Nat}

lemma InteractionRouteSource.latest_attaching (src : InteractionRouteSource)
    (h : cur = u64Max) : src.latest cur = (src.read cur).snapshot :=
  if_neg fun ha => ha.1 h

lemma InteractionRouteSource.latest_dropped (src : InteractionRouteSource)
    (h : cur ≠ u64Max) (hd : 0 < (src.read cur).events.dropped) :
    src.latest cur = (src.recovery u64Max).snapshot :=
  if_pos ⟨h, hd⟩

/-- The place of an event in the delivered order. -/
def place (event : TimedInputEvent) : ℕ ×ₗ ℕ := toLex (event.atMs, event.seq)

/-- One control in the middle of a resolution: the sources that observe it with the edges collected,
and the sources where it is quarantined. -/
structure ControlView where
  tally : Tally SourceIncarnation (ℕ ×ₗ ℕ)
  quarantined : Finset SourceIncarnation

variable {st : ConsumerRouteState}

namespace ControlView

variable {c : InteractionControl}

/-- A source does not observe the control any more, which is found out now. -/
def letGo (view : ControlView) (own : SourceIncarnation) (nowMs : Nat) : ControlView :=
  { view with tally := view.tally.letGo own (toLex (nowMs, 0)) }

/-- The control is quarantined in a source or not. -/
def mark (view : ControlView) (own : SourceIncarnation) (held : Bool) : ControlView :=
  { view with quarantined :=
      if held then insert own view.quarantined else view.quarantined.erase own }

/-- A source leaves the selection. -/
def depart (nowMs : Nat) (view : ControlView) (own : SourceIncarnation) : ControlView :=
  (view.letGo own nowMs).mark own false

variable (control : InteractionControl)

/-- An event of a source. -/
def strike (own : SourceIncarnation) (view : ControlView) (event : TimedInputEvent) : ControlView :=
  if event.repeatCount = 0 then view
  else match eventControl event with
    | none => view
    | some (other, edge) =>
      if other ≠ control then view
      else if own ∈ view.quarantined then
        if edge = .released then view.mark own false else view
      else match edge with
        | .pressed => { view with tally := view.tally.take own (place event) }
        | .repeated => view
        | .released => { view with tally := view.tally.letGo own (place event) }

/-- A source is read: it attaches, has lost events, or publishes some. -/
def read (control : InteractionControl) (nowMs cursor : Nat) (view : ControlView)
    (source : InteractionRouteSource) : ControlView :=
  let own := source.incarnation
  if cursor = u64Max then view.mark own (holdsIn control (source.latest cursor))
  else if 0 < (source.read cursor).events.dropped then
    (view.letGo own nowMs).mark own (holdsIn control (source.latest cursor))
  else (source.read cursor).captured.foldl (strike control own) view

/-- A source is brought in line with its snapshot. -/
def reconcile (nowMs cursor : Nat) (view : ControlView) (source : InteractionRouteSource) : ControlView :=
  let own := source.incarnation
  let snapshot := source.latest cursor
  let view := if holdsIn control snapshot then view else view.letGo own nowMs
  if snapshot.isNone then view.mark own false
  else if holdsIn control snapshot ∧ own ∉ view.tally.holders then view.mark own true
  else view

/-- Where a resolution starts. -/
def start (state : ConsumerRouteState) : ControlView where
  tally := ⟨state.sourceStates.keys.toFinset.filter fun own =>
    control ∈ (state.source own).observed, []⟩
  quarantined := state.sourceStates.keys.toFinset.filter fun own =>
    control ∈ (state.source own).quarantined

/-- **A resolution**: departures, reads, and reconciling. -/
def frame (state : ConsumerRouteState)
    (policy : InteractionRoutePolicy) (selected : List InteractionRouteSource) (nowMs : Nat) :
    ControlView :=
  let selection := selected.map incarnation
  let departing := if state.routeChanged policy selection then
      ((state.sourceStates.ordered SourceIncarnation.rank).map fst).filter
        fun own => own ∉ selection
    else []
  let view := departing.foldl (depart nowMs) (start control state)
  let view := selected.foldl (fun view source =>
    view.read control nowMs (state.source source.incarnation).cursor source) view
  selected.foldl (fun view source =>
    view.reconcile control nowMs (state.source source.incarnation).cursor source) view

@[simp] theorem letGo_letGo (view : ControlView) (own : SourceIncarnation) (nowMs : Nat) :
    (view.letGo own nowMs).letGo own nowMs = view.letGo own nowMs := by
  simp [letGo]

/-! ## What is announced last -/

variable {held : Bool} {view : ControlView}

lemma current_strikes (cap : List TimedInputEvent) (own : SourceIncarnation)
    (h : view.tally.Current held) :
    (cap.foldl (strike c own) view).tally.Current held := by
  induction cap generalizing view with
  | nil => exact h
  | cons e cap ih =>
    refine ih ?_
    unfold strike
    split
    · exact h
    · split
      · exact h
      · split
        · exact h
        · split
          · split <;> exact h
          · split
            · exact current_take
            · exact h
            · exact h.letGo

lemma current_read (h : view.tally.Current held) (src : InteractionRouteSource)
    (cur : Nat) : (view.read c nowMs cur src).tally.Current held := by
  unfold read
  split
  · exact h
  · split
    · exact h.letGo
    · exact current_strikes _ _ h

lemma current_reconcile (h : view.tally.Current held) (src : InteractionRouteSource)
    (cur : Nat) : (view.reconcile c nowMs cur src).tally.Current held := by
  have hp : (if holdsIn c (src.latest cur) then view
      else view.letGo src.incarnation nowMs).tally.Current held := by
    split
    · exact h
    · exact h.letGo
  unfold reconcile
  dsimp only
  generalize (if holdsIn c (src.latest cur) then view
    else view.letGo src.incarnation nowMs) = pruned at hp ⊢
  split
  · exact hp
  · split <;> exact hp

/-- What every turn keeps is kept. -/
lemma foldl_keeps {α : Type} {P : ControlView → Prop} {step : ControlView → α → ControlView}
    {l : List α} (hs : ∀ view, ∀ a ∈ l, P view → P (step view a)) (h : P view) :
        P (l.foldl step view) := by
  induction l generalizing view with
  | nil => exact h
  | cons a l ih =>
    exact ih (fun view b hb => hs view b (mem_cons_of_mem _ hb)) (hs view a mem_cons_self h)

/-- **What is collected last is the truth** at the end of a resolution. -/
theorem current_frame (c : InteractionControl) (st : ConsumerRouteState)
    (pol : InteractionRoutePolicy) (sel : List InteractionRouteSource) (nowMs : Nat) :
    (frame c st pol sel nowMs).tally.Current (decide ((start c st).tally.holders ≠ ∅)) := by
  refine foldl_keeps (P := fun view => view.tally.Current _) (fun view src _ h => ?_) ?_
  · exact current_reconcile h src _
  · refine foldl_keeps (P := fun view => view.tally.Current _) (fun view src _ h => ?_) ?_
    · exact current_read h src _
    · refine foldl_keeps (P := fun view => view.tally.Current _) (fun view own _ h => ?_) ?_
      · exact h.letGo
      · exact current_start _

variable {pol : InteractionRoutePolicy} {sel : List InteractionRouteSource}

/-! ## In the order of capture times -/

/-- The places of the events that are about a control. -/
def places (control : InteractionControl) (events : List TimedInputEvent) : List (ℕ ×ₗ ℕ) :=
  (events.filter fun event => (eventControl event).map fst = some control).map place

/-- Nobody leaves, nothing is lost, and what the sources publish about each control is in the order
in which they are read, up to now. -/
structure Chronological (state : ConsumerRouteState) (selected : List InteractionRouteSource)
    (nowMs : Nat) : Prop where
  stays : ∀ own ∈ state.sourceStates.keys, own ∈ selected.map incarnation
  keeps : ∀ source ∈ selected,
    (source.read (state.source source.incarnation).cursor).events.dropped = 0
  past : ∀ source ∈ selected, ∀ event ∈
    (source.read (state.source source.incarnation).cursor).captured, place event ≤ toLex (nowMs, 0)
  ordered : ∀ control, (places control (selected.flatMap fun source =>
    (source.read (state.source source.incarnation).cursor).captured)).Pairwise (· ≤ ·)

lemma places_flatMap {α : Type} (l : List α) (f : α → List TimedInputEvent) :
    places c (l.flatMap f) = l.flatMap fun a => places c (f a) := by
  simp [places, filter_flatMap, map_flatMap]

/-- Every turn adds its own keys at most. -/
lemma keys_foldl {α : Type} (step : ControlView → α → ControlView) {keys : α → List (ℕ ×ₗ ℕ)}
    {l : List α} (hs : ∀ view, ∀ a ∈ l, (step view a).tally.keys.Sublist (view.tally.keys ++ keys a))
    (view : ControlView) :
    (l.foldl step view).tally.keys.Sublist (view.tally.keys ++ l.flatMap keys) := by
  induction l generalizing view with
  | nil => simp
  | cons a l ih =>
    rw [foldl_cons, flatMap_cons, ← append_assoc]
    exact (ih (fun view b hb => hs view b (mem_cons_of_mem _ hb)) _).trans
      ((hs view a mem_cons_self).append_right _)

lemma keys_strike (view : ControlView) (own : SourceIncarnation) (e : TimedInputEvent) :
    (strike c own view e).tally.keys.Sublist (view.tally.keys ++ places c [e]) := by
  have hk := sublist_append_left view.tally.keys (places c [e])
  unfold strike
  split
  · exact hk
  · split
    · exact hk
    · rename_i o edge he
      split
      · exact hk
      · rename_i ho
        have hp : places c [e] = [place e] := by simp [places, he, not_not.mp ho]
        split
        · split <;> exact hk
        · split
          · rw [hp, keys_take]
          · exact hk
          · rw [hp]
            exact keys_letGo

lemma keys_read (view : ControlView) {src : InteractionRouteSource}
    (hd : (src.read cur).events.dropped = 0) : (view.read c nowMs cur src).tally.keys.Sublist
      (view.tally.keys ++ places c (src.read cur).captured) := by
  unfold read
  dsimp only
  split
  · exact sublist_append_left _ _
  · rw [if_neg (by omega)]
    have hf := keys_foldl (strike c src.incarnation) (l := (src.read cur).captured)
      (fun view e _ => keys_strike view src.incarnation e) view
    rwa [← places_flatMap, flatMap_singleton'] at hf

lemma keys_reconcile (view : ControlView) (src : InteractionRouteSource) :
    (view.reconcile c nowMs cur src).tally.keys.Sublist (view.tally.keys ++ [toLex (nowMs, 0)]) := by
  have hp : (if holdsIn c (src.latest cur) then view
      else view.letGo src.incarnation nowMs).tally.keys.Sublist
        (view.tally.keys ++ [toLex (nowMs, 0)]) := by
    split
    · exact sublist_append_left _ _
    · exact keys_letGo
  unfold reconcile
  dsimp only
  generalize (if holdsIn c (src.latest cur) then view
    else view.letGo src.incarnation nowMs) = pruned at hp ⊢
  split
  · exact hp
  · split <;> exact hp

/-- **What is published in the order of capture times** settles. -/
theorem settled_frame_of_chronological (h : Chronological st sel nowMs) :
    (frame c st pol sel nowMs).tally.Settled := by
  have hn : ((st.sourceStates.ordered SourceIncarnation.rank).map fst).filter
      (fun own => own ∉ sel.map incarnation) = [] := by
    refine filter_eq_nil_iff.mpr fun own how => ?_
    obtain ⟨entry, he, rfl⟩ := mem_map.mp how
    have hk := h.stays _ (mem_keys.mp (Table.mem_of_lookup (Table.mem_ordered.mp he)))
    simpa using hk
  have hrd := keys_foldl (fun view src => view.read c nowMs (st.source src.incarnation).cursor src)
    (fun view src hs => keys_read view (h.keeps src hs)) (start c st)
  have hre := keys_foldl (l := sel)
    (fun view src => view.reconcile c nowMs (st.source src.incarnation).cursor src)
    fun view src _ => keys_reconcile view src
  have hk := (hre _).trans (hrd.append_right _)
  rw [← places_flatMap] at hk
  unfold frame
  dsimp only
  rw [hn, ite_self]
  refine settled_of_keys ((pairwise_append.mpr ⟨h.ordered c, ?_, ?_⟩).sublist hk)
  · exact pairwise_flatMap.mpr ⟨by simp, pairwise_of_forall fun _ _ => by simp⟩
  · intro earlier he now hn
    obtain ⟨e, hm, rfl⟩ := mem_map.mp he
    obtain ⟨src, hs, hc⟩ := mem_flatMap.mp (mem_filter.mp hm).1
    obtain ⟨_, -, hn⟩ := mem_flatMap.mp hn
    rw [mem_singleton.mp hn]
    exact h.past src hs e hc

end ControlView

/-! ## Edges of one control -/

/-- The edge an event is for a control, with its place in the delivered order. -/
def edgeAt (control : InteractionControl) (event : TimedInputEvent) : Option (Bool × (ℕ ×ₗ ℕ)) :=
  (controlEdge event).bind fun edge =>
    if edge.1 = control then some (edge.2, place event) else none

variable {c o : InteractionControl} {e press : TimedInputEvent}

lemma edgeAt_of_pressed (h : eventControl e = some (c, .pressed)) :
    edgeAt c e = some (true, place e) := by
  simp [edgeAt, controlEdge, h]

lemma edgeAt_of_released (h : eventControl e = some (c, .released)) :
    edgeAt c e = some (false, place e) := by
  simp [edgeAt, controlEdge, h]

lemma edgeAt_of_repeated (h : eventControl e = some (o, .repeated)) : edgeAt c e = none := by
  simp [edgeAt, controlEdge, h]

lemma edgeAt_of_none (h : eventControl e = none) : edgeAt c e = none := by
  simp [edgeAt, controlEdge, h]

lemma edgeAt_of_ne {edge : InputButtonState} (h : eventControl e = some (o, edge))
    (hoh : o ≠ c) : edgeAt c e = none := by
  cases edge <;> simp [edgeAt, controlEdge, h, hoh]

/-- The release made up for a press. -/
lemma eventControl_syntheticRelease (h : eventControl press = some (c, .pressed))
    (nowMs : Nat) : eventControl (syntheticRelease press nowMs) = some (c, .released) := by
  obtain ⟨e, atMs, seq, physical, repeatCount⟩ := press
  cases e <;> simp_all [eventControl, syntheticRelease]

@[simp] theorem place_syntheticRelease : place (syntheticRelease press nowMs) = toLex (nowMs, 0) := rfl

/-- The edges of a control among events are the ones `edgeAt` finds. -/
lemma edgesOf_eq (es : List TimedInputEvent) :
    edgesOf controlEdge c es = (es.filterMap (edgeAt c)).map fst := by
  rw [edgesOf, map_filterMap]
  refine congrArg (filterMap · es) (funext fun e => ?_)
  cases h : controlEdge e with
  | none => simp [edgeAt, h]
  | some edge =>
    simp only [edgeAt, h, Option.bind_some]
    split <;> rfl

/-- Sorting the events sorts the edges of a control. -/
lemma edgesOf_stableSortEvents (es : List TimedInputEvent) : edgesOf controlEdge c (stableSortEvents es) =
      (sortByKey snd (es.filterMap (edgeAt c))).map fst := by
  rw [edgesOf_eq, stableSortEvents, filterMap_sortByKey]
  intro e edge he
  cases h : controlEdge e with
  | none => simp [edgeAt, h] at he
  | some fd =>
    rw [edgeAt, h, Option.bind_some] at he
    split at he
    · cases he
      rfl
    · cases he

/-! ## Observed presses -/

namespace ConsumerSourceState

variable {st : ConsumerSourceState}

/-- What is observed of a control is a press of it. -/
def Pressed (state : ConsumerSourceState) : Prop :=
  ∀ control press, state.observed.lookup control = some press →
    eventControl press = some (control, .pressed)

lemma pressed_attach : attach.Pressed := by
  rintro c press ⟨⟩

/-- Observing less keeps to presses. -/
lemma Pressed.mono (h : st.Pressed) {nx : ConsumerSourceState}
    (hn : ∀ c press, nx.observed.lookup c = some press → st.observed.lookup c = some press) :
        nx.Pressed :=
  fun c press hl => h c press (hn c press hl)

/-- What is left after an erasure was there before. -/
lemma lookup_of_erase {obs : Table InteractionControl TimedInputEvent}
    {o : InteractionControl} {press : TimedInputEvent} (h : (obs.erase c).lookup o = some press) :
    obs.lookup o = some press := by
  rw [Table.lookup_erase_if] at h
  split at h
  · cases h
  · exact h

lemma mem_ordered_observed : c ∈ (st.observed.ordered InteractionControl.rank).map fst ↔
      c ∈ st.observed := by
  rw [mem_map, ← lookup_isSome, Option.isSome_iff_exists]
  constructor
  · rintro ⟨entry, he, rfl⟩
    exact ⟨entry.2, Table.mem_ordered.mp he⟩
  · rintro ⟨press, hp⟩
    exact ⟨(c, press), Table.mem_ordered.mpr hp, rfl⟩

namespace Pressed

lemma route (h : st.Pressed) (e : TimedInputEvent) : (st.route e).Pressed := by
  unfold ConsumerSourceState.route
  split
  · exact h
  · split
    · exact h
    · rename_i c edge hc
      split
      · split
        · exact h
        · exact h
      · split
        · intro o press hl
          rw [Table.lookup_insert_if] at hl
          split at hl
          · subst o
            cases hl
            exact hc
          · exact h o press hl
        · exact h
        · split
          · exact h.mono fun o press => lookup_of_erase
          · exact h

lemma routes (cap : List TimedInputEvent) (h : st.Pressed) :
    (cap.foldl ConsumerSourceState.route st).Pressed := by
  induction cap generalizing st with
  | nil => exact h
  | cons e cap ih => exact ih (h.route e)

lemma read (h : st.Pressed) (src : InteractionRouteSource) : (st.read src).Pressed := by
  unfold ConsumerSourceState.read
  dsimp only
  split
  · exact h
  · split
    · exact pressed_attach
    · exact routes _ h

lemma dropMissing (h : st.Pressed) (c : InteractionControl) : (st.dropMissing c).Pressed := by
  unfold ConsumerSourceState.dropMissing
  split
  · exact h
  · exact h.mono fun o press => lookup_of_erase

lemma reconcile (h : st.Pressed) : st.reconcile.Pressed := by
  obtain ⟨obs, quarantined, hr, hl, -⟩ := st.reconcile_spec
  rw [hr]
  refine h.mono fun c press hp => ?_
  rw [hl] at hp
  split at hp
  · exact hp
  · cases hp

end Pressed

/-- A read takes the snapshot that is there last. -/
lemma latestSnapshot_read (st : ConsumerSourceState) (src : InteractionRouteSource) :
    (st.read src).latestSnapshot = src.latest st.cursor := by
  unfold read InteractionRouteSource.latest
  dsimp only
  split
  · rename_i hat
    rw [if_neg fun h => h.1 hat]
    rfl
  · rename_i ha
    split
    · rename_i hd
      rw [if_pos ⟨ha, hd⟩]
      rfl
    · rename_i hk
      obtain ⟨obs, quarantined, hr⟩ := routes_frame (src.read st.cursor).captured
        ({ st.advance src with latestSnapshot :=
            (src.read st.cursor).snapshot }.applyInteractionTransients
            (src.read st.cursor).interactionTransients)
      rw [if_neg fun h => hk h.2, hr]
      rfl

end ConsumerSourceState

/-! ## The routing, seen for one control -/

/-- **The view** of a routing. -/
structure Sees (control : InteractionControl) (r : Routing) (view : ControlView) : Prop where
  observes : ∀ own, own ∈ view.tally.holders ↔ control ∈ (r.state.source own).observed
  quarantines : ∀ own, own ∈ view.quarantined ↔ control ∈ (r.state.source own).quarantined
  edges : view.tally.edges = r.events.filterMap (edgeAt control)
  pressed : ∀ own, (r.state.source own).Pressed

namespace Sees

open ControlView (mark)

variable {r nx : Routing} {view : ControlView} {own : SourceIncarnation}

/-- A turn on one source: the others stay. -/
lemma turn (h : Sees c r view) {after : ControlView}
    (hos : ∀ o ≠ own, nx.state.source o = r.state.source o)
    (hh : ∀ o ≠ own, o ∈ after.tally.holders ↔ o ∈ view.tally.holders)
    (hqr : ∀ o ≠ own, o ∈ after.quarantined ↔ o ∈ view.quarantined)
    (hob : own ∈ after.tally.holders ↔ c ∈ (nx.state.source own).observed)
    (hq : own ∈ after.quarantined ↔ c ∈ (nx.state.source own).quarantined)
    (he : after.tally.edges = nx.events.filterMap (edgeAt c))
    (hp : (nx.state.source own).Pressed) : Sees c nx after where
  observes o := by
    by_cases hoh : o = own
    · rw [hoh]
      exact hob
    · rw [hh o hoh, hos o hoh]
      exact h.observes o
  quarantines o := by
    by_cases hoh : o = own
    · rw [hoh]
      exact hq
    · rw [hqr o hoh, hos o hoh]
      exact h.quarantines o
  edges := he
  pressed o := by
    by_cases hoh : o = own
    · rw [hoh]
      exact hp
    · rw [hos o hoh]
      exact h.pressed o

/-- A turn that is not about the control. -/
theorem frame (h : Sees c r view) (hos : ∀ o ≠ own, nx.state.source o = r.state.source o)
    (hob : c ∈ (nx.state.source own).observed ↔ c ∈ (r.state.source own).observed)
    (hq : c ∈ (nx.state.source own).quarantined ↔ c ∈ (r.state.source own).quarantined)
    (he : nx.events.filterMap (edgeAt c) = r.events.filterMap (edgeAt c))
    (hp : (nx.state.source own).Pressed) : Sees c nx view :=
  h.turn hos (fun _ _ => Iff.rfl) (fun _ _ => Iff.rfl) ((h.observes own).trans hob.symm)
    ((h.quarantines own).trans hq.symm) (h.edges.trans he.symm) hp

/-- A control is observed elsewhere when somebody observes it. -/
lemma observedElsewhere (h : Sees c r view) :
    r.state.controlObservedElsewhere c ↔ view.tally.holders ≠ ∅ := by
  rw [controlObservedElsewhere, any_eq_true, ← Finset.nonempty_iff_ne_empty]
  constructor
  · rintro ⟨st, hs, hc⟩
    obtain ⟨entry, he, rfl⟩ := mem_map.mp hs
    have hl : r.state.sourceStates.lookup entry.1 = some entry.2 := mem_lookup_iff.mpr he
    refine ⟨entry.1, (h.observes entry.1).mpr ?_⟩
    rw [source, hl]
    simpa using hc
  · rintro ⟨own, how⟩
    have hob := (h.observes own).mp how
    unfold source at hob
    cases hl : r.state.sourceStates.lookup own with
    | none =>
      rw [hl] at hob
      exact absurd hob (notMem_empty c)
    | some st =>
      rw [hl] at hob
      exact ⟨st, Table.mem_values_of_lookup hl, by simpa using hob⟩

/-- Nothing that is seen changes. -/
lemma congr (h : Sees c r view) (hs : ∀ own, nx.state.source own = r.state.source own)
    (he : nx.events = r.events) : Sees c nx view where
  observes own := by rw [hs, h.observes]
  quarantines own := by rw [hs, h.quarantines]
  edges := by rw [he, h.edges]
  pressed own := by
    rw [hs]
    exact h.pressed own

/-! ## Releases -/

variable {key : ℕ ×ₗ ℕ}

section

variable (h : Sees c r view)
include h

/-- The release of the control. -/
theorem announce (hev : edgeAt c e = some (false, key)) :
    Sees c (r.pushRelease c e) { view with tally := view.tally.announce key } := by
  have he := h.observedElsewhere
  unfold pushRelease Tally.announce
  by_cases hh : view.tally.holders = ∅
  · rw [if_neg fun hob => he.mp hob hh, if_pos hh]
    exact ⟨h.observes, h.quarantines, by simp [push, h.edges, hev], h.pressed⟩
  · rw [if_pos (he.mpr hh), if_neg hh]
    exact h

/-- The release of another control. -/
lemma pushRelease (o : InteractionControl) (he : edgeAt c e = none) :
    Sees c (r.pushRelease o e) view := by
  unfold Routing.pushRelease
  split
  · exact h
  · exact ⟨h.observes, h.quarantines, by simp [push, h.edges, he], h.pressed⟩

/-- An observed control goes away in a source that stays. -/
lemma release (hob : c ∈ (r.state.source own).observed) (hev : edgeAt c e = some (false, key)) :
    Sees c ((r.setSource own { r.state.source own with
        observed := (r.state.source own).observed.erase c }).pushRelease c e)
      { view with tally := view.tally.letGo own key } := by
  have he : Sees c (r.setSource own { r.state.source own with
      observed := (r.state.source own).observed.erase c })
        { view with tally := ⟨view.tally.holders.erase own, view.tally.edges⟩ } := by
    refine h.turn (fun o (hoh : o ≠ own) => ?_) (fun o hoh => ?_) (fun _ _ => Iff.rfl) ?_ ?_ h.edges ?_
    · rw [source_setSource, if_neg hoh]
    · simp [hoh]
    · simp [mem_erase]
    · simpa using h.quarantines own
    · rw [source_setSource, if_pos rfl]
      exact (h.pressed own).mono fun o press => lookup_of_erase
  rw [letGo, if_pos ((h.observes own).mpr hob)]
  exact he.announce hev

/-- A source that is not there any more releases what was observed of it. -/
lemma releases {es : List (InteractionControl × TimedInputEvent)}
    (hp : ∀ entry ∈ es, eventControl entry.2 = some (entry.1, .pressed))
    (hnd : (es.map fst).Nodup) (nowMs : Nat) :
    Sees c (es.foldl (fun r entry =>
        r.pushRelease entry.1 (syntheticRelease entry.2 nowMs)) r)
      (if c ∈ es.map fst then
        { view with tally := view.tally.announce (toLex (nowMs, 0)) } else view) := by
  induction es generalizing r view with
  | nil => exact h
  | cons entry es ih =>
    obtain ⟨hn, hnd⟩ := nodup_cons.mp hnd
    have hev := eventControl_syntheticRelease (hp entry mem_cons_self) nowMs
    have ih := fun r view (h : Sees c r view) =>
      ih h (fun entry he => hp entry (mem_cons_of_mem _ he)) hnd
    rw [foldl_cons, map_cons]
    by_cases hc : entry.1 = c
    · subst hc
      have hr := ih _ _ (h.announce (edgeAt_of_released hev))
      rw [if_neg hn] at hr
      rw [if_pos mem_cons_self]
      exact hr
    · have hr := ih _ _ (h.pushRelease entry.1 (edgeAt_of_ne hev hc))
      have hm : c ∈ entry.1 :: es.map fst ↔ c ∈ es.map fst := mem_cons.trans (or_iff_right (Ne.symm hc))
      simpa only [hm] using hr

/-- A source is removed with what was observed of it. -/
lemma depart (own : SourceIncarnation) (nowMs : Nat) :
    Sees c ((r.removeSource own).synthesizeRemovedSource nowMs (r.state.source own))
      (view.depart nowMs own) := by
  have hre : Sees c (r.removeSource own)
      ⟨⟨view.tally.holders.erase own, view.tally.edges⟩, view.quarantined.erase own⟩ := by
    refine h.turn (fun o (hoh : o ≠ own) => ?_) (fun o hoh => ?_) (fun o hoh => ?_) ?_ ?_ h.edges ?_
    · rw [source_removeSource, if_neg hoh]
    · simp [hoh]
    · simp [hoh]
    · rw [source_removeSource, if_pos rfl]
      exact iff_of_false (by simp) (notMem_empty c)
    · simp [ConsumerSourceState.attach]
    · rw [source_removeSource, if_pos rfl]
      exact ConsumerSourceState.pressed_attach
  have hr := hre.releases (fun entry he => h.pressed own entry.1 entry.2 (Table.mem_ordered.mp he))
    (Table.nodup_ordered InteractionControl.rank (r.state.source own).observed) nowMs
  have hm := ConsumerSourceState.mem_ordered_observed.trans (h.observes own).symm
  rw [ControlView.depart, ControlView.letGo, letGo]
  by_cases how : own ∈ view.tally.holders
  · rw [if_pos (hm.mpr how)] at hr
    rw [if_pos how]
    exact hr
  · rw [if_neg fun hor => how (hm.mp hor), Finset.erase_eq_of_notMem how] at hr
    rw [if_neg how]
    exact hr

end

/-! ## Events -/

lemma strike (h : Sees c r view) (own : SourceIncarnation) (e : TimedInputEvent) :
    Sees c (r.routeEvent own e) (view.strike c own e) := by
  have hos : ∀ o ≠ own, (r.routeEvent own e).state.source o = r.state.source o := by
    intro o hoh
    rw [Routing.source_routeEvent, if_neg hoh]
  have hp : ((r.routeEvent own e).state.source own).Pressed := by
    rw [Routing.source_routeEvent, if_pos rfl]
    exact (h.pressed own).route e
  revert hos hp
  unfold Routing.routeEvent ControlView.strike
  by_cases hr : e.repeatCount = 0
  · rw [if_pos hr, if_pos hr]
    exact fun _ _ => h.congr (fun _ => rfl) rfl
  rw [if_neg hr, if_neg hr]
  cases he : eventControl e with
  | none =>
    intro hos hp
    exact h.frame hos Iff.rfl Iff.rfl (by simp [Routing.push, Routing.change, edgeAt_of_none he]) hp
  | some fd =>
    obtain ⟨o, edge⟩ := fd
    dsimp only
    by_cases hc : o = c
    · subst hc
      rw [if_neg (show ¬ o ≠ o from fun hn => hn rfl)]
      by_cases hq : o ∈ (r.state.source own).quarantined
      · rw [if_pos hq, if_pos ((h.quarantines own).mpr hq)]
        split
        · intro hos hp
          refine h.turn hos (fun _ _ => Iff.rfl) (fun o hoh => ?_) ?_ ?_ h.edges hp
          · simp [mark, hoh]
          · simpa [mark] using h.observes own
          · simp [mark]
        · exact fun _ _ => h
      · rw [if_neg hq, if_neg fun hm => hq ((h.quarantines own).mp hm)]
        cases edge with
        | pressed =>
          intro hos hp
          refine h.turn hos (fun o hoh => ?_) (fun _ _ => Iff.rfl) ?_ ?_ ?_ hp
          · simp [Tally.take, hoh]
          · simp [Tally.take]
          · simpa using h.quarantines own
          · simp [Tally.take, Routing.push, Routing.change, Routing.setSource, h.edges,
              edgeAt_of_pressed he]
        | repeated =>
          dsimp only
          split
          · intro hos hp
            exact h.frame hos Iff.rfl Iff.rfl (by simp [Routing.push, Routing.change,
              edgeAt_of_repeated he]) hp
          · exact fun _ _ => h.congr (fun _ => rfl) rfl
        | released =>
          dsimp only
          by_cases hob : o ∈ (r.state.source own).observed
          · rw [if_pos hob]
            exact fun _ _ => (h.release hob (edgeAt_of_released he)).congr (fun _ => rfl) rfl
          · rw [if_neg hob, Tally.letGo_of_notMem fun hm => hob ((h.observes own).mp hm)]
            exact fun _ _ => h.congr (fun _ => rfl) rfl
    · rw [if_pos (show o ≠ c from hc)]
      have hn := edgeAt_of_ne he hc
      by_cases hq : o ∈ (r.state.source own).quarantined
      · rw [if_pos hq]
        split
        · intro hos hp
          refine h.frame hos (by simp) ?_ rfl hp
          simp [Ne.symm hc]
        · exact fun _ _ => h
      · rw [if_neg hq]
        cases edge with
        | pressed =>
          intro hos hp
          refine h.frame hos ?_ (by simp) ?_ hp
          · simp [mem_insert, Ne.symm hc]
          · simp [Routing.push, Routing.change, Routing.setSource, hn]
        | repeated =>
          dsimp only
          split
          · intro hos hp
            exact h.frame hos Iff.rfl Iff.rfl (by simp [Routing.push, Routing.change, hn]) hp
          · exact fun _ _ => h.congr (fun _ => rfl) rfl
        | released =>
          dsimp only
          split
          · intro hos hp
            refine h.frame hos ?_ (by simp) ?_ hp
            · simp [mem_erase, Ne.symm hc]
            · simp only [Routing.pushRelease]
              split <;> simp [Routing.push, Routing.change, Routing.setSource, hn]
          · exact fun _ _ => h.congr (fun _ => rfl) rfl

lemma strikes (cap : List TimedInputEvent) (h : Sees c r view)
    (own : SourceIncarnation) : Sees c (cap.foldl (routeEvent own) r)
      (cap.foldl (ControlView.strike c own) view) := by
  induction cap generalizing r view with
  | nil => exact h
  | cons e cap ih => exact ih (h.strike own e)

/-! ## Reads -/

lemma resetSourceAfterLoss (h : Sees c r view) {src : ConsumerSourceState}
    {snap : Option InteractionData} (hsr : r.state.sourceStates.lookup own = some src)
    (hs : src.latestSnapshot = snap) : Sees c (r.resetSourceAfterLoss nowMs own)
      ((view.letGo own nowMs).mark own (holdsIn c snap)) := by
  subst hs
  have hsa : r.state.source own = src := by
    rw [source, hsr]
    rfl
  have hd := h.depart own nowMs
  rw [hsa] at hd
  unfold Routing.resetSourceAfterLoss
  rw [hsr]
  refine hd.turn (fun o (hoh : o ≠ own) => ?_) (fun _ _ => Iff.rfl) (fun o hoh => ?_) ?_ ?_ hd.edges ?_
  · rw [source_setSource, if_neg hoh]
  · cases holdsIn c src.latestSnapshot <;>
      simp [mark, ControlView.depart, ControlView.letGo, hoh]
  · rw [source_setSource, if_pos rfl]
    exact iff_of_false (by simp [mark, ControlView.letGo]) (notMem_empty c)
  · rw [source_setSource, if_pos rfl, mem_replaceQuarantine]
    change _ ↔ holdsIn c src.latestSnapshot
    cases holdsIn c src.latestSnapshot <;> simp [mark]
  · rw [source_setSource, if_pos rfl]
    exact pressed_attach

/-- **A read.** -/
theorem read (h : Sees c r view) (nowMs : Nat) (src : InteractionRouteSource) :
    Sees c (r.readPublication nowMs src)
      (view.read c nowMs (r.state.source src.incarnation).cursor src) := by
  have hos : ∀ o ≠ src.incarnation, (r.readPublication nowMs src).state.source o = r.state.source o := by
    intro o hoh
    rw [source_readPublication, if_neg hoh]
  have hp : ((r.readPublication nowMs src).state.source src.incarnation).Pressed := by
    rw [source_readPublication, if_pos rfl]
    exact (h.pressed _).read src
  -- moving the cursor and taking the snapshot change nothing that is seen
  have ht : ∀ nx : Routing, (∀ o, nx.state.source o = if o = src.incarnation then
        nx.state.source src.incarnation else r.state.source o) →
      (nx.state.source src.incarnation).observed = (r.state.source src.incarnation).observed →
      (nx.state.source src.incarnation).quarantined = (r.state.source src.incarnation).quarantined →
      nx.events = r.events → Sees c nx view := by
    intro nx hs hob hq he
    refine h.frame (fun o (hoh : o ≠ src.incarnation) => ?_) ?_ ?_ ?_ ?_
    · rw [hs, if_neg hoh]
    · rw [hob]
    · rw [hq]
    · rw [he]
    · exact (h.pressed _).mono fun _ _ hl => hob ▸ hl
  revert hos hp
  unfold readPublication ControlView.read
  by_cases ha : (r.state.source src.incarnation).cursor = u64Max
  · rw [if_pos ha, if_pos ha]
    intro hos hp
    refine h.turn hos (fun _ _ => Iff.rfl) (fun o hoh => ?_) ?_ ?_ h.edges hp
    · cases holdsIn c _ <;> simp [mark, hoh]
    · rw [source_setSource, if_pos rfl]
      exact h.observes _
    · rw [source_setSource, if_pos rfl]
      refine Iff.trans ?_ mem_replaceQuarantine.symm
      change _ ↔ holdsIn c (src.read _).snapshot
      rw [src.latest_attaching ha]
      cases holdsIn c (src.read _).snapshot <;> simp [mark]
  rw [if_neg ha, if_neg ha]
  by_cases hd : 0 < (src.read (r.state.source src.incarnation).cursor).events.dropped
  · rw [if_pos hd, if_pos hd]
    intro _ _
    rw [src.latest_dropped ha hd]
    refine Sees.congr (resetSourceAfterLoss (ht _ (fun o => ?_) ?_ ?_ ?_)
      (recorded_lookup ..) rfl) (fun _ => rfl) rfl
    · simp
      rfl
    · simp
      rfl
    · simp
      rfl
    · rfl
  · rw [if_neg hd, if_neg hd]
    intro _ _
    refine strikes _ (ht _ (fun o => ?_) ?_ ?_ ?_) _
    · simp
    · simp
      rfl
    · simp
      rfl
    · rfl

/-! ## Reconciling -/

lemma dropMissing (h : Sees c r view) (nowMs : Nat) (own : SourceIncarnation)
    (dr : InteractionControl) : Sees c (r.dropMissing nowMs own dr)
      (if dr = c then view.letGo own nowMs else view) := by
  have hos : ∀ o ≠ own, (r.dropMissing nowMs own dr).state.source o = r.state.source o := by
    intro o hoh
    rw [Routing.source_dropMissing, if_neg hoh]
  have hp : ((r.dropMissing nowMs own dr).state.source own).Pressed := by
    rw [Routing.source_dropMissing, if_pos rfl]
    exact (h.pressed own).dropMissing dr
  revert hos hp
  unfold Routing.dropMissing
  dsimp only
  cases hl : (r.state.source own).observed.lookup dr with
  | none =>
    intro _ _
    by_cases hd : dr = c
    · subst hd
      have hn : own ∉ view.tally.holders := by
        rw [h.observes, ← lookup_eq_none]
        exact hl
      rw [if_pos rfl, ControlView.letGo, letGo_of_notMem hn]
      exact h
    · rw [if_neg hd]
      exact h
  | some press =>
    have he := eventControl_syntheticRelease (h.pressed own _ _ hl) nowMs
    intro hos hp
    by_cases hd : dr = c
    · subst hd
      rw [if_pos rfl]
      have hob : dr ∈ (r.state.source own).observed := Table.mem_of_lookup hl
      exact (h.release hob (edgeAt_of_released he)).congr (fun _ => rfl) rfl
    · rw [if_neg hd]
      refine h.frame hos ?_ (by simp) ?_ hp
      · simp [mem_erase, Ne.symm hd]
      · simp only [Routing.pushRelease, Routing.change]
        split <;> simp [Routing.push, Routing.setSource, edgeAt_of_ne he hd]

lemma dropsMissing (dr : List InteractionControl) (h : Sees c r view) (nowMs : Nat)
    (own : SourceIncarnation) : Sees c (dr.foldl (Routing.dropMissing nowMs own) r)
      (if c ∈ dr then view.letGo own nowMs else view) := by
  induction dr generalizing r view with
  | nil => exact h
  | cons f dr ih =>
    rw [foldl_cons]
    have hr := ih (h.dropMissing nowMs own f)
    by_cases hf : f = c
    · subst hf
      rw [if_pos rfl, ControlView.letGo_letGo, ite_self] at hr
      rw [if_pos mem_cons_self]
      exact hr
    · have hm : c ∈ f :: dr ↔ c ∈ dr :=
        mem_cons.trans (or_iff_right (Ne.symm hf))
      rw [if_neg hf] at hr
      simpa only [hm] using hr

lemma quarantineHeld (h : Sees c r view) (own : SourceIncarnation)
    (held : InteractionControl) : Sees c (r.quarantineHeld own held)
      (if held = c ∧ own ∉ view.tally.holders then view.mark own true else view) := by
  have hos : ∀ o ≠ own, (r.quarantineHeld own held).state.source o = r.state.source o := by
    intro o hoh
    rw [source_quarantineHeld, if_neg hoh]
  revert hos
  unfold Routing.quarantineHeld
  dsimp only
  by_cases hh : held = c
  · subst hh
    split
    · rename_i hn
      intro hos
      rw [if_pos ⟨rfl, fun hm => hn.1 ((h.observes own).mp hm)⟩]
      refine h.turn hos (fun _ _ => Iff.rfl) (fun o hoh => ?_) ?_ ?_ h.edges ?_
      · simp [mark, hoh]
      · simpa [mark] using h.observes own
      · simp [mark]
      · rw [source_change, source_setSource, if_pos rfl]
        exact h.pressed own
    · rename_i hk
      intro _
      split
      · rename_i hn
        have hq : own ∈ view.quarantined := by
          rw [h.quarantines]
          by_contra hno
          exact hk ⟨fun hm => hn.2 ((h.observes own).mpr hm), hno⟩
        rw [mark, if_pos rfl, Finset.insert_eq_of_mem hq]
        exact h
      · exact h
  · rw [if_neg (show ¬ (held = c ∧ own ∉ view.tally.holders) from fun hs => hh hs.1)]
    split
    · intro hos
      refine h.frame hos (by simp) ?_ rfl ?_
      · simp [Ne.symm hh]
      · rw [source_change, source_setSource, if_pos rfl]
        exact h.pressed own
    · exact fun _ => h

lemma quarantinesHeld (held : List InteractionControl) (h : Sees c r view)
    (own : SourceIncarnation) : Sees c (held.foldl (Routing.quarantineHeld own) r)
      (if c ∈ held ∧ own ∉ view.tally.holders then view.mark own true else view) := by
  induction held generalizing r view with
  | nil => simpa using h
  | cons f held ih =>
    rw [foldl_cons]
    have hr := ih (h.quarantineHeld own f)
    by_cases hf : f = c ∧ own ∉ view.tally.holders
    · rw [if_pos hf] at hr
      rw [if_pos ⟨hf.1 ▸ mem_cons_self, hf.2⟩]
      have hm : (view.mark own true).mark own true = view.mark own true := by
        simp [mark]
      rw [hm, ite_self] at hr
      exact hr
    · rw [if_neg hf] at hr
      have hme : c ∈ f :: held ∧ own ∉ view.tally.holders ↔ c ∈ held ∧ own ∉ view.tally.holders := by
        grind
      simpa only [hme] using hr

/-- **Reconciling.** -/
theorem reconcile (h : Sees c r view) {src : InteractionRouteSource}
    (hl : (r.state.source src.incarnation).latestSnapshot = src.latest cur) :
    Sees c (r.reconcileSnapshot nowMs src.incarnation) (view.reconcile c nowMs cur src) := by
  set own := src.incarnation with how
  have hhl : (r.state.source own).holds c = holdsIn c (src.latest cur) := by
    rw [← hl]
    rfl
  have hp : Sees c ((r.state.source own).missing.foldl (Routing.dropMissing nowMs own) r)
      (if holdsIn c (src.latest cur) then view else view.letGo own nowMs) := by
    have hd := dropsMissing (r.state.source own).missing h nowMs own
    by_cases hh : holdsIn c (src.latest cur)
    · rw [if_pos hh]
      rwa [if_neg fun hm => (ConsumerSourceState.mem_missing.mp hm).2 (hhl.trans hh)] at hd
    · rw [if_neg hh]
      by_cases hob : own ∈ view.tally.holders
      · rwa [if_pos (ConsumerSourceState.mem_missing.mpr ⟨(h.observes own).mp hob, hhl ▸ hh⟩)] at hd
      · rw [ControlView.letGo, letGo_of_notMem hob]
        rwa [if_neg fun hm => hob ((h.observes own).mpr (ConsumerSourceState.mem_missing.mp hm).1)] at hd
  unfold Routing.reconcileSnapshot ControlView.reconcile
  dsimp only
  rw [← how]
  generalize (if holdsIn c (src.latest cur) then view
    else view.letGo own nowMs) = pruned at hp ⊢
  generalize (r.state.source own).missing.foldl (Routing.dropMissing nowMs own) r = nx
    at hp ⊢
  rw [hl]
  cases hs : src.latest cur with
  | none =>
    refine hp.turn (fun o (hoh : o ≠ own) => ?_) (fun _ _ => Iff.rfl) (fun o hoh => ?_) ?_ ?_ hp.edges ?_
    · rw [Routing.source_forgetSnapshot, if_neg hoh]
    · simp [mark, hoh]
    · rw [Routing.source_forgetSnapshot, if_pos rfl]
      exact hp.observes own
    · rw [Routing.source_forgetSnapshot, if_pos rfl]
      simp [mark, ConsumerSourceState.forgetSnapshot]
    · rw [Routing.source_forgetSnapshot, if_pos rfl]
      exact hp.pressed own
  | some sn =>
    have hc : Sees c { nx with changed := nx.changed ||
        (nx.state.source own).lastInteractionGeneration ≠ some sn.generation } pruned :=
      hp.congr (fun _ => rfl) rfl
    have hq := hc.quarantinesHeld (snapshotControls sn) own
    have hme : holdsIn c (some sn) ↔ c ∈ snapshotControls sn := snapshotHolds_iff
    simp only [Option.isNone_some, Bool.false_eq_true, if_false, hme]
    refine hq.frame (fun o (hoh : o ≠ own) => ?_) ?_ ?_ rfl ?_
    · rw [Routing.applySnapshot, Routing.source_setSource, if_neg hoh]
    · rw [Routing.applySnapshot, Routing.source_setSource, if_pos rfl]
    · rw [Routing.applySnapshot, Routing.source_setSource, if_pos rfl]
    · rw [Routing.applySnapshot, Routing.source_setSource, if_pos rfl]
      exact hq.pressed own

/-! ## A resolution -/

lemma start (c : InteractionControl) (hp : ∀ own, (st.source own).Pressed) :
    Sees c ⟨st, [], false⟩ (ControlView.start c st) := by
  have hk : ∀ own, (c ∈ (st.source own).observed ∨
      c ∈ (st.source own).quarantined) → own ∈ st.sourceStates.keys := by
    intro own hc
    by_contra hn
    have ha : st.source own = .attach := by
      rw [source, AList.lookup_eq_none.mpr (mt AList.mem_keys.mp hn)]
      rfl
    rw [ha] at hc
    rcases hc with hob | hq
    · exact AList.notMem_empty c hob
    · exact Finset.notMem_empty c hq
  refine ⟨fun own => ?_, fun own => ?_, rfl, hp⟩
  · rw [ControlView.start, Finset.mem_filter, mem_toFinset]
    exact and_iff_right_of_imp fun hob => hk own (.inl hob)
  · rw [ControlView.start, Finset.mem_filter, mem_toFinset]
    exact and_iff_right_of_imp fun hq => hk own (.inr hq)

lemma departures (departing : List SourceIncarnation) (h : Sees c r view) :
    Sees c (departing.foldl (departSource nowMs) r)
      (departing.foldl (ControlView.depart nowMs) view) := by
  induction departing generalizing r view with
  | nil => exact h
  | cons own departing ih =>
    refine ih ?_
    have hd := h.depart own nowMs
    unfold departSource
    cases hl : r.state.sourceStates.lookup own with
    | some src =>
      rwa [source, hl] at hd
    | none =>
      have ha : r.state.source own = .attach := by
        rw [source, hl]
        rfl
      refine hd.congr (fun o => ?_) ?_
      · rw [synthesizeRemovedSource_state, source_removeSource]
        by_cases hoh : o = own
        · rw [if_pos hoh, hoh]
          exact ha
        · rw [if_neg hoh]
      · rw [ha]
        rfl

lemma arrivals (sel : List SourceIncarnation) (h : Sees c r view) :
    Sees c (sel.foldl arriveSource r) view := by
  induction sel generalizing r with
  | nil => exact h
  | cons own sel ih =>
    refine ih (h.congr (fun _ => source_arriveSource ..) ?_)
    unfold arriveSource
    split <;> rfl

variable {ss : List InteractionRouteSource}

lemma reads (h : Sees c r view) (nowMs : Nat) (hnd : (ss.map incarnation).Nodup)
    (hst : ∀ src ∈ ss, r.state.source src.incarnation = st.source
      src.incarnation) : Sees c (ss.foldl (readPublication nowMs) r) (ss.foldl (fun view src =>
        view.read c nowMs (st.source src.incarnation).cursor src) view) := by
  induction ss generalizing r view with
  | nil => exact h
  | cons src ss ih =>
    obtain ⟨hn, hnd⟩ := nodup_cons.mp hnd
    have hr := h.read nowMs src
    rw [hst src mem_cons_self] at hr
    refine ih hr hnd fun o hoh => ?_
    have hne : o.incarnation ≠ src.incarnation := fun hs => hn (hs ▸ mem_map_of_mem hoh)
    rw [source_readPublication, if_neg hne]
    exact hst o (mem_cons_of_mem _ hoh)

lemma reconciles (h : Sees c r view) (hnd : (ss.map incarnation).Nodup)
    (hl : ∀ src ∈ ss, (r.state.source src.incarnation).latestSnapshot =
      src.latest (st.source src.incarnation).cursor) :
    Sees c ((ss.map incarnation).foldl (reconcileSnapshot nowMs) r) (ss.foldl (fun view src =>
        view.reconcile c nowMs (st.source src.incarnation).cursor src) view) := by
  induction ss generalizing r view with
  | nil => exact h
  | cons src ss ih =>
    obtain ⟨hn, hnd⟩ := nodup_cons.mp hnd
    refine ih (h.reconcile (hl src mem_cons_self)) hnd fun o hoh => ?_
    have hne : o.incarnation ≠ src.incarnation := fun hs => hn (hs ▸ mem_map_of_mem hoh)
    rw [source_reconcileSnapshot, if_neg hne]
    exact hl o (mem_cons_of_mem _ hoh)

end Sees

variable {pol : InteractionRoutePolicy} {sel : List InteractionRouteSource}

lemma sees_reroute (c : InteractionControl) (pol : InteractionRoutePolicy) (nowMs : Nat)
    (hp : ∀ own, (st.source own).Pressed) (sel : List SourceIncarnation) :
    Sees c (st.reroute pol sel nowMs) ((if st.routeChanged pol sel then
          ((st.sourceStates.ordered SourceIncarnation.rank).map fst).filter
            fun own => own ∉ sel
        else []).foldl (ControlView.depart nowMs) (ControlView.start c st)) := by
  have hs := Sees.start c hp
  unfold reroute
  by_cases hc : st.routeChanged pol sel
  · rw [if_pos hc, if_pos hc]
    have hb : Sees c (bumpRouteGeneration ⟨st, [], false⟩)
        (ControlView.start c st) := hs.congr (fun _ => rfl) rfl
    exact ((hb.departures _).arrivals sel).congr (fun _ => rfl) rfl
  · rw [if_neg hc, if_neg hc]
    exact hs

/-- **A resolution**, seen for one control. -/
theorem sees_frame (hp : ∀ own, (st.source own).Pressed) (hse : (sel.map incarnation).Nodup) :
    Sees c (st.collect pol sel nowMs) (ControlView.frame c st pol sel nowMs) := by
  have hre := sees_reroute c pol nowMs hp (sel.map incarnation)
  have hst : ∀ src ∈ sel, (st.reroute pol (sel.map incarnation) nowMs).state.source
        src.incarnation = st.source src.incarnation := by
    intro src hs
    rw [source_reroute, if_neg fun hg =>
      hg.2 (mem_map_of_mem hs)]
  have hrd := hre.reads nowMs hse hst
  refine hrd.reconciles hse fun src hs => ?_
  have hr := @foldl_local_of_mem _ _ _ _ _ (readPublication nowMs)
    view incarnation (fun src st => st.read src)
    source_readPublication _ hse _ hs
    (st.reroute pol (sel.map incarnation) nowMs)
  refine (congrArg latestSnapshot hr).trans ?_
  rw [latestSnapshot_read]
  exact congrArg (fun own => src.latest (cursor own)) (hst src hs)

end Hypercolor.Input
