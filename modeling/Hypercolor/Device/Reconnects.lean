import Hypercolor.Device.Connects

/-!
# Scheduled reconnects

The manager keeps the devices with a reconnect scheduled in a set beside their state machines. Along
every run (**`reconnects_booked`**):

* a device with a reconnect scheduled is reconnecting;
* a device that has one is given another only by `on_connect_failed` and `on_reconnect_failed`, whose
  `SpawnReconnect` reschedules it;
* a device that leaves `Reconnecting` with one scheduled has it cancelled.

An attempt does not take its device out of the set, so the reconnect that a failed attempt schedules
is given to a device that is in it, **`reconnect_spawned_again`**.
-/

set_option linter.unusedSectionVars false

namespace Hypercolor.Device

open Lib List

variable {Id D : Type}

namespace DeviceLifecycleManager

open DeviceStateMachine (invalidTransition)

variable [DecidableEq Id]

/-! ## One call -/

/-- The record of one device is this, and the others are as they were. -/
structure Stores (mgr mgr' : DeviceLifecycleManager Id D) (d : Id) (managed : ManagedDevice D) :
    Prop where
  own : mgr'.devices.lookup d = some managed
  others : ∀ d', d' ≠ d → mgr'.devices.lookup d' = mgr.devices.lookup d'

variable {mgr mgr' : DeviceLifecycleManager Id D} {d : Id} {managed managed' : ManagedDevice D}

lemma Stores.of_insert (h : mgr'.devices = mgr.devices.insert d managed) : Stores mgr mgr' d managed := by
  refine ⟨?_, fun d' hd' => ?_⟩
  · rw [h, AList.lookup_insert]
  · rw [h, AList.lookup_insert_ne hd']

lemma Stores.of_same (h : mgr.devices.lookup d = some managed)
    (hd : mgr'.devices = mgr.devices) : Stores mgr mgr' d managed :=
  ⟨hd ▸ h, fun _ _ => by rw [hd]⟩

/-- No reconnect is spawned. -/
def Idle (actions : List (LifecycleAction Id)) : Prop :=
  ∀ d delay, .spawnReconnect d delay ∉ actions

lemma idle_nil : Idle ([] : List (LifecycleAction Id)) := by simp [Idle]

lemma Idle.append {actions actions' : List (LifecycleAction Id)} (h : Idle actions)
    (h' : Idle actions') : Idle (actions ++ actions') := by
  intro d delay hm
  rcases mem_append.mp hm with hm | hm
  · exact h _ _ hm
  · exact h' _ _ hm

lemma idle_cancelActions (mgr : DeviceLifecycleManager Id D) (d : Id) : Idle (mgr.cancelActions d) := by
  unfold cancelActions
  split <;> simp [Idle]

lemma idle_teardownActions (d : Id) (managed : ManagedDevice D) : Idle (teardownActions d managed) := by
  unfold teardownActions
  split <;> simp [Idle, disconnectAction]

/-- The calls whose `SpawnReconnect` reschedules. -/
def Event.Reschedules (d : Id) : Event Id D → Prop
  | .connectFailed d' _ | .reconnectFailed d' _ => d' = d
  | _ => False

/-- What a call does to the schedule of its device, whose machine goes from `m` to `m'`. -/
inductive Books (mgr : DeviceLifecycleManager Id D) (event : Event Id D)
    (m m' : DeviceStateMachine D) : Prop where
  | cancels (hset : (mgr.step event).1.reconnectScheduled = mgr.reconnectScheduled.erase event.target)
      (hidle : Idle (mgr.step event).2)
      (hcancel : m.state = .reconnecting → m'.state ≠ .reconnecting →
        ∀ action ∈ mgr.cancelActions event.target, action ∈ (mgr.step event).2)
  | spawns (delay : Nat)
      (hset : (mgr.step event).1.reconnectScheduled =
        insert event.target mgr.reconnectScheduled)
      (honly : ∀ d delay', .spawnReconnect d delay' ∈ (mgr.step event).2 → d = event.target)
      (hstate : m'.state = .reconnecting)
      (hagain : m.state = .reconnecting → event.Reschedules event.target)
  | keeps (hset : (mgr.step event).1.reconnectScheduled = mgr.reconnectScheduled)
      (hidle : Idle (mgr.step event).2) (hstate : m.state = .reconnecting → m'.state = .reconnecting)

/-- What a call does to its device: run its machine and book its reconnect. -/
structure Handles (mgr : DeviceLifecycleManager Id D) (event : Event Id D)
    (m : DeviceStateMachine D) : Prop where
  booked : ∃ managed' events, Stores mgr (mgr.step event).1 event.target managed' ∧
    managed'.stateMachine = m.run events ∧ Books mgr event m managed'.stateMachine

section Handles

variable {ev : Event Id D} {actions : List (LifecycleAction Id)} {m : DeviceStateMachine D}

lemma Handles.of_cancels (hs : mgr.step ev = (mgr', actions)) (hst : Stores mgr mgr' ev.target managed')
    (hr : ∃ es, managed'.stateMachine = m.run es)
    (hse : mgr'.reconnectScheduled = mgr.reconnectScheduled.erase ev.target) (hi : Idle actions)
    (hc : m.state = .reconnecting → managed'.stateMachine.state ≠ .reconnecting →
      ∀ action ∈ mgr.cancelActions ev.target, action ∈ actions) : Handles mgr ev m := by
  obtain ⟨es, he⟩ := hr
  refine ⟨managed', es, ?_, he, .cancels ?_ ?_ ?_⟩
  all_goals rw [hs]
  · exact hst
  · exact hse
  · exact hi
  · exact hc

lemma Handles.of_spawns (delay : Nat) (hs : mgr.step ev = (mgr', actions))
    (hsr : Stores mgr mgr' ev.target managed') (hr : ∃ es, managed'.stateMachine = m.run es)
    (hse : mgr'.reconnectScheduled = insert ev.target mgr.reconnectScheduled)
    (hon : ∀ d delay', .spawnReconnect d delay' ∈ actions → d = ev.target)
    (hst : managed'.stateMachine.state = .reconnecting)
    (ha : m.state = .reconnecting → ev.Reschedules ev.target) : Handles mgr ev m := by
  obtain ⟨es, he⟩ := hr
  refine ⟨managed', es, ?_, he, .spawns delay ?_ ?_ hst ha⟩
  all_goals rw [hs]
  · exact hsr
  · exact hse
  · exact hon

lemma Handles.of_keeps (hs : mgr.step ev = (mgr', actions)) (hsr : Stores mgr mgr' ev.target managed')
    (hr : ∃ es, managed'.stateMachine = m.run es)
    (hse : mgr'.reconnectScheduled = mgr.reconnectScheduled) (hi : Idle actions)
    (hst : m.state = .reconnecting → managed'.stateMachine.state = .reconnecting) : Handles mgr ev m := by
  obtain ⟨es, he⟩ := hr
  refine ⟨managed', es, ?_, he, .keeps ?_ ?_ hst⟩
  all_goals rw [hs]
  · exact hsr
  · exact hse
  · exact hi

end Handles

/-! ## Every call for a tracked device -/

section Tracked

section

variable (h : mgr.devices.lookup d = some managed)
include h

lemma handles_connected (handleId now : Nat) :
    Handles mgr (.connected d handleId now) managed.stateMachine := by
  refine .of_cancels (step_connected h handleId now) (.of_insert rfl)
    ⟨[.connected ⟨handleId, managed.identifier, managed.backendId⟩ now], rfl⟩ rfl ?_ ?_
  · rcases (managed.stateMachine.onConnected _ now).2 with e | ⟨⟩
    · exact idle_nil
    · exact idle_cancelActions mgr d
  · intro hs _ a ha
    have hok : (managed.stateMachine.onConnected
        ⟨handleId, managed.identifier, managed.backendId⟩ now).2 = .ok () := by
      simp [DeviceStateMachine.onConnected, hs]
    rw [hok]
    exact ha

lemma handles_connectFailed (now : Nat) : Handles mgr (.connectFailed d now) managed.stateMachine := by
  have hs := step_connectFailed h now
  rcases hr : (managed.stateMachine.onConnectFailed now).2 with e | delay
  · rw [hr] at hs
    refine .of_keeps hs (.of_insert rfl) ⟨[.connectFailed now], rfl⟩ rfl idle_nil
      fun hst => ?_
    simp [DeviceStateMachine.onConnectFailed, hst] at hr
  · rw [hr] at hs
    refine .of_spawns delay hs (.of_insert rfl) ⟨[.connectFailed now], rfl⟩ rfl
      (by simp [Event.target]) ?_ fun _ => rfl
    show (managed.stateMachine.onConnectFailed now).1.state = .reconnecting
    unfold DeviceStateMachine.onConnectFailed at hr ⊢
    rcases hst : managed.stateMachine.state <;>
      simp_all [invalidTransition]

lemma handles_connectAbandoned : Handles mgr (.connectAbandoned d) managed.stateMachine :=
  .of_cancels (step_connectAbandoned h) (.of_insert rfl) ⟨[.connectAbandoned], rfl⟩ rfl
    (idle_cancelActions mgr d) fun _ _ _ ha => ha

lemma handles_frameSuccess : Handles mgr (.frameSuccess d) managed.stateMachine := by
  refine .of_keeps (step_frameSuccess h) (.of_insert rfl) ⟨[.frameSuccess], rfl⟩ rfl idle_nil
    fun hs => ?_
  simp [moved, DeviceStateMachine.onFrameSuccess, hs, invalidTransition]

lemma handles_takeFlapEscalation : Handles mgr (.takeFlapEscalation d) managed.stateMachine := by
  refine .of_keeps (step_takeFlapEscalation h) (.of_insert rfl) ⟨[.takeFlapEscalation], rfl⟩ rfl
    idle_nil fun hs => ?_
  show managed.stateMachine.takeFlapEscalation.1.state = .reconnecting
  unfold DeviceStateMachine.takeFlapEscalation
  split <;> exact hs

end

/-- A transition that only a device which does not reconnect takes, and that makes it. -/
lemma handles_reconnectAfter (ev : Event Id D)
    (tr : DeviceStateMachine D → DeviceStateMachine D × Except (DeviceError D) Unit)
    (h : mgr.devices.lookup ev.target = some managed)
    (hs : mgr.step ev = (mgr.reconnectAfter ev.target tr).map id emitted)
    (hru : ∃ events, (tr managed.stateMachine).1 = managed.stateMachine.run events)
    (hrf : ∀ e, (tr managed.stateMachine).2 = .error e →
        (tr managed.stateMachine).1 = managed.stateMachine)
    (ht : (tr managed.stateMachine).2 = .ok () → managed.stateMachine.state ≠ .reconnecting ∧
        (tr managed.stateMachine).1.state = .reconnecting ∧
            (tr managed.stateMachine).1.reconnect ≠ none) :
    Handles mgr ev managed.stateMachine := by
  rw [reconnectAfter_tracked h] at hs
  rcases hr : (tr managed.stateMachine).2 with e | ⟨⟩
  · rw [hr] at hs
    refine .of_keeps hs (.of_insert rfl) hru rfl idle_nil fun hst => ?_
    show (tr managed.stateMachine).1.state = .reconnecting
    rw [hrf e hr, hst]
  · obtain ⟨hoh, hst, hso⟩ := ht hr
    rcases hre : (tr managed.stateMachine).1.reconnect with _ | status
    · exact absurd hre hso
    · rw [hr, hre] at hs
      exact .of_spawns status.nextRetry hs (.of_insert rfl) hru rfl
        (by simp [disconnectAction]) hst fun ha => absurd ha hoh

section

variable (h : mgr.devices.lookup d = some managed)
include h

variable (now : Nat)

lemma handles_commError : Handles mgr (.commError d now) managed.stateMachine := by
  refine handles_reconnectAfter (.commError d now) (·.onCommError now) h rfl ⟨[.commError now], rfl⟩ ?_ ?_
  all_goals
    unfold DeviceStateMachine.onCommError
    rcases hs : managed.stateMachine.state <;> simp [invalidTransition]

lemma handles_reconnectRequested : Handles mgr (.reconnectRequested d now) managed.stateMachine := by
  refine handles_reconnectAfter (.reconnectRequested d now) (·.onReconnectRequested now) h rfl
    ⟨[.reconnectRequested now], rfl⟩ ?_ ?_
  all_goals
    unfold DeviceStateMachine.onReconnectRequested
    rcases hs : managed.stateMachine.state <;> simp [invalidTransition]

lemma handles_reconnectFailed (hw : managed.stateMachine.Waits) (now : Nat) :
    Handles mgr (.reconnectFailed d now) managed.stateMachine := by
  have hs := step_reconnectFailed h now
  rcases hr : (managed.stateMachine.onReconnectFailed now).2 with _ | delay
  · rw [hr] at hs
    exact .of_cancels hs (.of_insert rfl) ⟨[.reconnectFailed now], rfl⟩ rfl
      (idle_cancelActions mgr d) fun _ _ _ ha => ha
  · rw [hr] at hs
    refine .of_spawns delay hs (.of_insert rfl) ⟨[.reconnectFailed now], rfl⟩ rfl
      (by simp [Event.target]) ?_ fun _ => rfl
    -- Only a device that waits is given another attempt.
    refine (hw.apply (.reconnectFailed now)).mp ?_
    unfold DeviceStateMachine.onReconnectFailed at hr
    unfold DeviceStateMachine.apply DeviceStateMachine.onReconnectFailed
    rcases hst : managed.stateMachine.reconnect with _ | status
    · simp [hst] at hr
    · simp only [hst] at hr ⊢
      split_ifs at hr ⊢
      · simp

lemma handles_reconnectAttempt : Handles mgr (.reconnectAttempt d now) managed.stateMachine := by
  have hs := step_reconnectAttempt h now
  split_ifs at hs
  · exact .of_keeps hs (.of_same h rfl) ⟨[], rfl⟩ rfl (by simp [Idle, connectAction]) id
  · exact .of_keeps hs (.of_same h rfl) ⟨[], rfl⟩ rfl idle_nil id

lemma handles_retryStaleKnownConnect :
    Handles mgr (.retryStaleKnownConnect d now) managed.stateMachine := by
  rcases step_retryStaleKnownConnect h now with hs | ⟨-, hs⟩
  · exact .of_keeps hs (.of_same h rfl) ⟨[], rfl⟩ rfl idle_nil id
  · exact .of_keeps hs (.of_same h rfl) ⟨[], rfl⟩ rfl (by simp [Idle, connectAction]) id

lemma handles_enable : Handles mgr (.enable d now) managed.stateMachine := by
  have hsy : managed.stateMachine.state = .reconnecting →
      managed.stateMachine.onUserEnable.state = .reconnecting := by
    intro hst
    simp [DeviceStateMachine.onUserEnable, hst]
  rcases step_enable h now with hs | ⟨-, -, hs⟩
  · exact .of_keeps hs (.of_insert rfl) ⟨[.userEnable], rfl⟩ rfl idle_nil hsy
  · exact .of_keeps hs (.of_insert rfl) ⟨[.userEnable], rfl⟩ rfl (by simp [Idle, connectAction]) hsy

lemma handles_vanished : Handles mgr (.vanished d) managed.stateMachine :=
  .of_cancels (step_vanished h) (.of_insert rfl) ⟨[.hotUnplug], rfl⟩ rfl
    ((idle_teardownActions d managed).append (idle_cancelActions mgr d))
    fun _ _ _ ha => mem_append_right _ ha

lemma handles_disable : Handles mgr (.disable d) managed.stateMachine :=
  .of_cancels (step_disable h) (.of_insert rfl) ⟨[.userDisable], rfl⟩ rfl
    ((idle_teardownActions d managed).append (idle_cancelActions mgr d))
    fun _ _ _ ha => mem_append_right _ ha

lemma handles_deactivate : Handles mgr (.deactivate d) managed.stateMachine := by
  have hs := step_deactivate h
  split_ifs at hs
  · exact .of_cancels hs (.of_insert rfl) ⟨[.hotUnplug], rfl⟩ rfl
      ((idle_teardownActions d managed).append (idle_cancelActions mgr d))
      fun _ _ _ ha => mem_append_right _ ha
  · exact .of_cancels hs (.of_same h rfl) ⟨[], rfl⟩ rfl (idle_cancelActions mgr d)
      fun _ _ _ ha => ha

lemma handles_rebindLayout (l : String) : Handles mgr (.rebindLayout d l) managed.stateMachine :=
  .of_keeps (step_rebindLayout h l) (.of_insert rfl) ⟨[], rfl⟩ rfl idle_nil id

end

end Tracked

/-- Discovery runs the machine of the record, or a new one. -/
lemma handles_discovered (mgr : DeviceLifecycleManager Id D) (d : Id) (fd : Discovered D)
    (bh : DiscoveryConnectBehavior) (now : Nat) : Handles mgr (.discovered d fd bh now)
      (mgr.discoveredEntry d fd bh).stateMachine := by
  have hs := step_discovered mgr d fd bh now
  have hi := idle_cancelActions mgr d
  dsimp only at hs
  split_ifs at hs
  · exact .of_cancels hs (.of_insert rfl) ⟨[], rfl⟩ rfl (hi.append (by simp [Idle, connectAction]))
      fun _ _ _ ha => mem_append_left _ ha
  · exact .of_cancels hs (.of_insert rfl) ⟨[], rfl⟩ rfl hi fun _ _ _ ha => ha
  · exact .of_cancels hs (.of_insert rfl) ⟨[.hotUnplug], rfl⟩ rfl
      (hi.append (by simp [Idle, disconnectAction]))
      fun _ _ _ ha => mem_append_left _ ha
  · exact .of_cancels hs (.of_insert rfl) ⟨[.hotUnplug], rfl⟩ rfl (hi.append idle_nil)
      fun _ _ _ ha => mem_append_left _ ha
  · exact .of_cancels hs (.of_insert rfl) ⟨[], rfl⟩ rfl hi fun _ _ _ ha => ha

/-! ## Runs -/

/-- `state` -/
def state (mgr : DeviceLifecycleManager Id D) (d : Id) : Option DeviceState :=
  (mgr.devices.lookup d).map (·.stateMachine.state)

/-- A device with a reconnect scheduled is reconnecting, and every record's machine waits exactly
while it is. -/
structure Booked (mgr : DeviceLifecycleManager Id D) : Prop where
  waits : ∀ d managed, mgr.devices.lookup d = some managed → managed.stateMachine.Waits
  reconnecting : ∀ d ∈ mgr.reconnectScheduled, mgr.state d = some .reconnecting

/-- What a call owes the reconnect that a device has scheduled. -/
structure Accounts (mgr : DeviceLifecycleManager Id D) (event : Event Id D) : Prop where
  respawns : ∀ d delay, .spawnReconnect d delay ∈ (mgr.step event).2 →
    d ∈ mgr.reconnectScheduled → event.Reschedules d
  cancels : ∀ d ∈ mgr.reconnectScheduled, (mgr.step event).1.state d ≠ some .reconnecting →
    .cancelReconnect d ∈ (mgr.step event).2

lemma state_other {d' : Id} (h : Stores mgr mgr' d managed) (hd' : d' ≠ d) :
    mgr'.state d' = mgr.state d' := by
  rw [state, h.others d' hd', state]

lemma state_own (h : Stores mgr mgr' d managed) : mgr'.state d = some managed.stateMachine.state := by
  rw [state, h.own, Option.map_some]

section Step

variable {ev : Event Id D} {m : DeviceStateMachine D}

lemma Booked.step_handles (h : Booked mgr) (hw : m.Waits) (hh : Handles mgr ev m)
    (hsc : ev.target ∈ mgr.reconnectScheduled → m.state = .reconnecting) : Booked (mgr.step ev).1 := by
  obtain ⟨managed', events, hsr, hr, hb⟩ := hh
  constructor
  · intro d managed hd
    by_cases ht : d = ev.target
    · subst ht
      cases hsr.own.symm.trans hd
      rw [hr]
      exact hw.run events
    · rw [hsr.others d ht] at hd
      exact h.waits d managed hd
  · intro d hd
    by_cases ht : d = ev.target
    · subst ht
      rw [state_own hsr]
      cases hb with
      | cancels hs _ _ =>
        rw [hs] at hd
        exact absurd hd (Finset.notMem_erase _ _)
      | spawns _ _ _ hst _ => rw [hst]
      | keeps hs _ hst =>
        rw [hs] at hd
        rw [hst (hsc hd)]
    · rw [state_other hsr ht]
      refine h.reconnecting d ?_
      cases hb with
      | cancels hs _ _ =>
        rw [hs] at hd
        exact Finset.mem_of_mem_erase hd
      | spawns _ hs _ _ _ =>
        rw [hs] at hd
        exact Finset.mem_of_mem_insert_of_ne hd ht
      | keeps hs _ _ => rwa [hs] at hd

lemma Booked.accounts_handles (h : Booked mgr) (hh : Handles mgr ev m)
    (hsc : ev.target ∈ mgr.reconnectScheduled → m.state = .reconnecting) : Accounts mgr ev := by
  obtain ⟨managed', events, hsr, -, hb⟩ := hh
  constructor
  · intro d delay hs hd
    cases hb with
    | cancels _ hi _ | keeps _ hi _ => exact absurd hs (hi d delay)
    | spawns _ _ hon _ ha =>
      obtain rfl := hon d delay hs
      exact ha (hsc hd)
  · intro d hd hl
    by_cases ht : d = ev.target
    · subst ht
      rw [state_own hsr] at hl
      cases hb with
      | cancels _ _ hc =>
        refine hc (hsc hd) (fun hst => hl (by rw [hst])) _ ?_
        rw [cancelActions, if_pos hd]
        exact mem_singleton_self _
      | spawns _ _ _ hst _ => exact absurd (congrArg some hst) hl
      | keeps _ _ hst => exact absurd (congrArg some (hst (hsc hd))) hl
    · rw [state_other hsr ht, h.reconnecting d hd] at hl
      exact absurd rfl hl

end Step

variable {ev : Event Id D}

lemma handles_tracked (h : mgr.devices.lookup ev.target = some managed)
    (hw : managed.stateMachine.Waits) : Handles mgr ev managed.stateMachine := by
  cases ev with
  | discovered d fd bh now =>
    have hm : (mgr.discoveredEntry d fd bh).stateMachine = managed.stateMachine := by
      simp [discoveredEntry, show mgr.devices.lookup d = some managed from h]
    rw [← hm]
    exact handles_discovered mgr d fd bh now
  | retryStaleKnownConnect d now => exact handles_retryStaleKnownConnect h now
  | connected d handleId now => exact handles_connected h handleId now
  | connectFailed d now => exact handles_connectFailed h now
  | connectAbandoned d => exact handles_connectAbandoned h
  | frameSuccess d => exact handles_frameSuccess h
  | commError d now => exact handles_commError h now
  | reconnectRequested d now => exact handles_reconnectRequested h now
  | takeFlapEscalation d => exact handles_takeFlapEscalation h
  | reconnectAttempt d now => exact handles_reconnectAttempt h now
  | reconnectFailed d now => exact handles_reconnectFailed h hw now
  | vanished d => exact handles_vanished h
  | disable d => exact handles_disable h
  | enable d now => exact handles_enable h now
  | deactivate d => exact handles_deactivate h
  | rebindLayout d l => exact handles_rebindLayout h l

/-- A scheduled device is tracked. -/
lemma Booked.unscheduled (h : Booked mgr) (hn : mgr.devices.lookup d = none) :
    d ∉ mgr.reconnectScheduled := by
  intro hd
  have hs := h.reconnecting d hd
  simp [state, hn] at hs

/-- **One call** keeps the bookkeeping and accounts for the reconnects that are scheduled. -/
theorem Booked.step (h : Booked mgr) (ev : Event Id D) : Booked (mgr.step ev).1 ∧ Accounts mgr ev := by
  rcases hf : mgr.devices.lookup ev.target with _ | managed
  · have hu := h.unscheduled hf
    by_cases hdi : ∃ d fd bh now, ev = .discovered d fd bh now
    · obtain ⟨d, fd, bh, now, rfl⟩ := hdi
      have hh := handles_discovered mgr d fd bh now
      refine ⟨h.step_handles ?_ hh fun hd => absurd hd hu, h.accounts_handles hh fun hd => absurd hd hu⟩
      have hm : (mgr.discoveredEntry d fd bh).stateMachine =
          .withPolicy fd.identifier mgr.reconnectPolicy := by
        simp [discoveredEntry, show mgr.devices.lookup d = none from hf]
      rw [hm]
      exact DeviceStateMachine.waits_withPolicy _ _
    · have hoh : ∀ d fd bh now, ev ≠ .discovered d fd bh now :=
        fun d fd bh now he => hdi ⟨d, fd, bh, now, he⟩
      obtain ⟨hde, ha, hse, -⟩ := step_untracked hf hoh
      have hst : ∀ d, (mgr.step ev).1.state d = mgr.state d := by
        intro d
        rw [state, hde, state]
      refine ⟨⟨fun d managed hd => ?_, fun d hd => ?_⟩, fun d delay hsp => ?_,
        fun d hd hl => ?_⟩
      · rw [hde] at hd
        exact h.waits d managed hd
      · rw [hst]
        exact h.reconnecting d (hse hd)
      · simp [ha] at hsp
      · rw [hst] at hl
        exact absurd (h.reconnecting d hd) hl
  · have hw := h.waits _ _ hf
    have hh := handles_tracked hf hw
    have hs : ev.target ∈ mgr.reconnectScheduled → managed.stateMachine.state = .reconnecting := by
      intro hd
      have hst := h.reconnecting _ hd
      rw [state, hf, Option.map_some] at hst
      exact Option.some.inj hst
    exact ⟨h.step_handles hw hh hs, h.accounts_handles hh hs⟩

lemma booked_withReconnectPolicy (pol : ReconnectPolicy) (staleAfter : Nat) :
    Booked (withReconnectPolicy pol staleAfter : DeviceLifecycleManager Id D) := by
  constructor
  · intro d managed hd
    simp [withReconnectPolicy] at hd
  · intro d hd
    simp [withReconnectPolicy] at hd

lemma Booked.run (h : Booked mgr) (es : List (Event Id D)) : Booked (mgr.run es) := by
  induction es generalizing mgr with
  | nil => exact h
  | cons ev es ih => exact ih (h.step ev).1

/-- **The reconnects that are scheduled, along every run.** A device with one is reconnecting; a call
that spawns another for it is one of the two that reschedule; and a call after which it is no longer
reconnecting cancels the one it had. -/
theorem reconnects_booked (policy : ReconnectPolicy) (staleAfter : Nat)
    (events : List (Event Id D)) (event : Event Id D) (d : Id) :
    let mgr := (withReconnectPolicy policy staleAfter).run events
    (d ∈ mgr.reconnectScheduled → mgr.state d = some .reconnecting) ∧
      (∀ delay, .spawnReconnect d delay ∈ (mgr.step event).2 → d ∈ mgr.reconnectScheduled →
        event.Reschedules d) ∧
      (d ∈ mgr.reconnectScheduled → (mgr.step event).1.state d ≠ some .reconnecting →
        .cancelReconnect d ∈ (mgr.step event).2) := by
  intro mgr
  have hb : Booked mgr := (booked_withReconnectPolicy policy staleAfter).run events
  obtain ⟨-, ha⟩ := hb.step event
  exact ⟨hb.reconnecting d, ha.respawns d, ha.cancels d⟩

/-- A failed attempt of a device that has a reconnect scheduled spawns the next one, and cancels
none. -/
theorem reconnect_spawned_again :
    ¬ ∀ (policy : ReconnectPolicy) (staleAfter : Nat) (events : List (Event Nat Unit))
      (event : Event Nat Unit) (d delay : Nat),
      let mgr := (withReconnectPolicy policy staleAfter).run events
      .spawnReconnect d delay ∈ (mgr.step event).2 → d ∈ mgr.reconnectScheduled →
        .cancelReconnect d ∈ (mgr.step event).2 := by
  intro h
  exact absurd (h steadyPolicy 60
    [.discovered 7 found .autoConnect 0, .connectFailed 7 1, .reconnectAttempt 7 2]
    (.reconnectFailed 7 3) 7 (2 * 10 ^ 9) (by decide) (by decide)) (by decide)

end DeviceLifecycleManager

end Hypercolor.Device
