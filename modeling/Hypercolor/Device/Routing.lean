import Hypercolor.Device.Reconnects

/-!
# The ids a device is torn down under

A `Connect` names the backend a device is connected through and the layout id it is mapped under, and
the runtime keeps to them until it is told to disconnect and unmap. The teardown reads both ids off
the device's record, where `on_discovered_with_behavior` writes what the last scan found.

**`teardown_as_bound`**: along every run, every `Disconnect` and `Unmap` for a device carries the ids
of the last `Connect` emitted for it, with the layout id it was rebound to since, a device is torn
down whenever it leaves the connected states, and none is connected while it is in one, as long as no
rediscovery finds a device that has been connected under another id without connecting it anew. No
call emits a `Map`. A rediscovery of a connected device under another id does overwrite them, so that
the device is torn down where it is not connected, **`torn_down_elsewhere`**.

`routed` says what a call does to the records and what it emits, once for all of them.
-/

set_option linter.unusedSectionVars false

namespace Hypercolor.Device

open Lib List Option AList ManagedDevice DeviceState

variable {Id D : Type}

/-- The backend and the layout id of a record. -/
def ManagedDevice.ids (managed : ManagedDevice D) : String × String :=
  (managed.backendId, managed.layoutDeviceId)

/-- The action is about this device, under these ids. -/
def LifecycleAction.Under (d : Id) (ids : String × String) : LifecycleAction Id → Prop
  | .connect d' backendId layoutDeviceId => d' = d ∧ (backendId, layoutDeviceId) = ids
  | .disconnect d' backendId => d' = d ∧ backendId = ids.1
  | .map _ _ _ => False
  | .unmap layoutDeviceId => layoutDeviceId = ids.2
  | .spawnReconnect d' _ | .cancelReconnect d' => d' = d

namespace DeviceStateMachine

/-- The events that leave a device connected or not. -/
def Event.Keeps : Event D → Prop
  | .connectFailed _ | .connectAbandoned | .frameSuccess | .reconnectFailed _ | .userEnable
  | .takeFlapEscalation => True
  | _ => False

lemma isRenderable_apply {m : DeviceStateMachine D} (hw : m.Waits) (ev : Event D) (hk : ev.Keeps) :
    (m.apply ev).state.isRenderable = m.state.isRenderable := by
  cases ev with
  | connectFailed now =>
    unfold apply onConnectFailed
    rcases hst : m.state <;> simp_all [invalidTransition, isRenderable]
  | connectAbandoned =>
    unfold apply onConnectAbandoned
    rcases hst : m.state <;> simp_all [isRenderable]
  | frameSuccess =>
    unfold apply onFrameSuccess
    rcases hst : m.state <;> simp_all [invalidTransition, isRenderable]
  | reconnectFailed now =>
    unfold apply onReconnectFailed
    rcases hs : m.reconnect with _ | status
    · rfl
    · have hst := hw.mp (hs ▸ rfl)
      dsimp only
      split_ifs <;> simp [hst, isRenderable]
  | userEnable =>
    unfold apply onUserEnable
    rcases hst : m.state <;> simp_all [isRenderable]
  | takeFlapEscalation =>
    unfold apply takeFlapEscalation
    dsimp only
    split <;> rfl
  | _ => cases hk

end DeviceStateMachine

namespace DeviceLifecycleManager

open DeviceStateMachine (invalidTransition isRenderable_apply)

variable [DecidableEq Id]

/-- What a call makes of the ids in its device's record. -/
def Event.idsAfter : Event Id D → String × String → String × String
  | .discovered _ found _ _, _ => (found.backendId, found.layoutDeviceId)
  | .rebindLayout _ layoutDeviceId, ids => (ids.1, layoutDeviceId)
  | _, ids => ids

/-- The answer that a connect has succeeded. -/
def Event.Completes : Event Id D → Prop
  | .connected _ _ _ => True
  | _ => False

/-! ## One call -/

/-- What a call does to the records, and how its actions name them. -/
structure Routed (mgr : DeviceLifecycleManager Id D) (event : Event Id D) : Prop where
  others : ∀ d, d ≠ event.target →
    (mgr.step event).1.devices.lookup d = mgr.devices.lookup d
  ids : ∀ managed, mgr.devices.lookup event.target = some managed →
    ∃ managed', (mgr.step event).1.devices.lookup event.target = some managed' ∧
      managed'.ids = event.idsAfter managed.ids
  under : ∀ action ∈ (mgr.step event).2, ∃ managed',
    (mgr.step event).1.devices.lookup event.target = some managed' ∧
      action.Under event.target managed'.ids
  leaves : ∀ managed managed', mgr.devices.lookup event.target = some managed →
    (mgr.step event).1.devices.lookup event.target = some managed' →
      managed.live → managed'.live = false →
        disconnectAction event.target managed' ∈ (mgr.step event).2 ∧
          .unmap managed'.layoutDeviceId ∈ (mgr.step event).2
  connects : ∀ managed, mgr.devices.lookup event.target = some managed → managed.live →
    Quiet (mgr.step event).2
  gains : ∀ managed', (mgr.step event).1.devices.lookup event.target = some managed' →
    managed'.live → event.Completes ∨
      ∃ managed, mgr.devices.lookup event.target = some managed ∧ managed.live

variable {managed managed' : ManagedDevice D}

section Routed

variable {mgr mgr' : DeviceLifecycleManager Id D} {ev : Event Id D}
  {actions : List (LifecycleAction Id)}

/-- A call that stores the record again. -/
lemma Routed.of_stored (hs : mgr.step ev = (mgr', actions))
    (hf : mgr.devices.lookup ev.target = some managed)
    (hde : mgr'.devices = mgr.devices.insert ev.target managed')
    (hi : managed'.ids = ev.idsAfter managed.ids) (hu : ∀ a ∈ actions, a.Under ev.target managed'.ids)
    (hlv : managed.live → managed'.live = false → disconnectAction ev.target
      managed' ∈ actions ∧ .unmap managed'.layoutDeviceId ∈ actions) (hc : managed.live → Quiet actions)
    (hg : managed'.live → ev.Completes ∨ managed.live) : Routed mgr ev := by
  have haf : (mgr.step ev).1.devices.lookup ev.target = some managed' := by
    rw [hs, hde, lookup_insert]
  refine ⟨fun d hd => ?_, fun m hm => ?_, fun a ha => ?_, fun m m' hm hm' => ?_,
    fun m hm => ?_, fun m' hm' hl => ?_⟩
  · rw [hs, hde, lookup_insert_ne hd]
  · cases hf.symm.trans hm
    exact ⟨managed', haf, hi⟩
  · rw [hs] at ha
    exact ⟨managed', haf, hu a ha⟩
  · cases hf.symm.trans hm
    cases haf.symm.trans hm'
    rw [hs]
    exact hlv
  · cases hf.symm.trans hm
    rw [hs]
    exact hc
  · cases haf.symm.trans hm'
    exact (hg hl).imp_right fun h => ⟨managed, hf, h⟩

/-- A call that leaves the record alone. -/
lemma Routed.of_same (hs : mgr.step ev = (mgr', actions))
    (hf : mgr.devices.lookup ev.target = some managed)
    (hde : mgr'.devices = mgr.devices) (hi : ev.idsAfter managed.ids = managed.ids)
    (hu : ∀ a ∈ actions, a.Under ev.target managed.ids)
    (hc : managed.live → Quiet actions) : Routed mgr ev := by
  have haf : (mgr.step ev).1.devices.lookup ev.target = some managed := by
    rw [hs, hde, hf]
  refine ⟨fun d hd => ?_, fun m hm => ?_, fun a ha => ?_, fun m m' hm hm' hl hle => ?_,
    fun m hm => ?_, fun m' hm' hl => ?_⟩
  · rw [hs, hde]
  · cases hf.symm.trans hm
    exact ⟨managed, haf, hi.symm⟩
  · rw [hs] at ha
    exact ⟨managed, haf, hu a ha⟩
  · cases hf.symm.trans hm
    cases haf.symm.trans hm'
    rw [hl] at hle
    cases hle
  · cases hf.symm.trans hm
    rw [hs]
    exact hc
  · cases haf.symm.trans hm'
    exact .inr ⟨managed, hf, hl⟩

end Routed

lemma under_cancelActions (mgr : DeviceLifecycleManager Id D) (d : Id) (ids : String × String) :
    ∀ action ∈ mgr.cancelActions d, action.Under d ids := by
  unfold cancelActions
  split <;> simp [LifecycleAction.Under]

lemma under_teardownActions (d : Id) (managed : ManagedDevice D) :
    ∀ action ∈ teardownActions d managed, action.Under d managed.ids := by
  unfold teardownActions
  split <;> simp [LifecycleAction.Under, disconnectAction, ids]

variable {d : Id}

lemma mem_teardownActions (h : managed.live) : disconnectAction d managed ∈ teardownActions d managed ∧
      .unmap managed.layoutDeviceId ∈ teardownActions d managed := by
  rw [teardownActions, if_pos (show managed.stateMachine.state.isRenderable from h)]
  simp

/-! ## Every call is routed -/

variable {mgr mgr' : DeviceLifecycleManager Id D} {ev : Event Id D}
  {actions : List (LifecycleAction Id)} {machine : DeviceStateMachine D}

/-- Moving the state machine, with actions that leave no device behind. -/
lemma Routed.of_moved (hs : mgr.step ev = (mgr', actions))
    (hf : mgr.devices.lookup ev.target = some managed)
    (hd : mgr'.devices = mgr.devices.insert ev.target (moved managed machine))
    (hi : ev.idsAfter managed.ids = managed.ids)
    (hu : ∀ action ∈ actions, action.Under ev.target managed.ids)
    (hl : managed.live → machine.state.isRenderable = false → disconnectAction
      ev.target managed ∈ actions ∧ .unmap managed.layoutDeviceId ∈ actions) (hq : Quiet actions)
    (hg : machine.state.isRenderable → ev.Completes ∨ managed.live) : Routed mgr ev :=
  .of_stored hs hf hd hi.symm hu hl (fun _ => hq) hg

lemma under_connectAction (d : Id) (managed : ManagedDevice D) :
    ∀ action ∈ [connectAction d managed], action.Under d managed.ids := by
  simp [connectAction, LifecycleAction.Under, ids]

/-- Moving the state machine by an event that leaves the device connected or not. -/
lemma Routed.of_kept (hs : mgr.step ev = (mgr', actions))
    (hf : mgr.devices.lookup ev.target = some managed)
    (hd : mgr'.devices = mgr.devices.insert ev.target (moved managed machine))
    (hi : ev.idsAfter managed.ids = managed.ids)
    (hu : ∀ action ∈ actions, action.Under ev.target managed.ids) (hq : Quiet actions)
    (hk : machine.state.isRenderable = managed.stateMachine.state.isRenderable) : Routed mgr ev :=
  .of_moved hs hf hd hi hu (fun hl hle => absurd hl (by simp [live, ← hk, hle])) hq
    fun hl => .inr (hk.symm.trans hl)

section

variable (h : mgr.devices.lookup d = some managed)
include h

section

lemma routed_connected (handleId now : Nat) : Routed mgr (.connected d handleId now) := by
  refine .of_moved (step_connected h handleId now) h rfl rfl ?_ ?_ ?_ fun _ => .inl trivial
  · rcases (managed.stateMachine.onConnected _ now).2 with e | ⟨⟩
    · simp [emitted, Except.map]
    · exact under_cancelActions mgr d _
  · intro hli hl
    unfold DeviceStateMachine.onConnected at hl
    rcases hs : managed.stateMachine.state <;>
      simp_all [live, isRenderable, invalidTransition]
  · rcases (managed.stateMachine.onConnected _ now).2 with e | ⟨⟩
    · exact quiet_nil
    · exact quiet_cancelActions mgr d

variable (hw : managed.stateMachine.Waits)
include hw

lemma routed_connectFailed (now : Nat) : Routed mgr (.connectFailed d now) := by
  have hs := step_connectFailed h now
  rcases hr : (managed.stateMachine.onConnectFailed now).2 with e | delay
  all_goals
    rw [hr] at hs
    exact .of_kept hs h rfl rfl (by simp [LifecycleAction.Under, Event.target]) (by simp [Quiet])
      (isRenderable_apply hw (.connectFailed now) trivial)

lemma routed_connectAbandoned : Routed mgr (.connectAbandoned d) :=
  .of_kept (step_connectAbandoned h) h rfl rfl (under_cancelActions mgr d _)
    (quiet_cancelActions mgr d) (isRenderable_apply hw .connectAbandoned trivial)

lemma routed_frameSuccess : Routed mgr (.frameSuccess d) :=
  .of_kept (step_frameSuccess h) h rfl rfl (by simp) quiet_nil
    (isRenderable_apply hw .frameSuccess trivial)

lemma routed_takeFlapEscalation : Routed mgr (.takeFlapEscalation d) :=
  .of_kept (step_takeFlapEscalation h) h rfl rfl (by simp) quiet_nil
    (isRenderable_apply hw .takeFlapEscalation trivial)

lemma routed_reconnectFailed (now : Nat) : Routed mgr (.reconnectFailed d now) := by
  have hs := step_reconnectFailed h now
  have hk := isRenderable_apply hw (.reconnectFailed now) trivial
  rcases hr : (managed.stateMachine.onReconnectFailed now).2 with _ | delay
  · rw [hr] at hs
    exact .of_kept hs h rfl rfl (under_cancelActions mgr d _) (quiet_cancelActions mgr d) hk
  · rw [hr] at hs
    exact .of_kept hs h rfl rfl (by simp [LifecycleAction.Under, Event.target]) (by simp [Quiet]) hk

lemma routed_enable (now : Nat) : Routed mgr (.enable d now) := by
  have hk := isRenderable_apply hw .userEnable trivial
  rcases step_enable h now with hs | ⟨hd, -, hs⟩
  · exact .of_kept hs h rfl rfl (by simp) quiet_nil hk
  · have hn : ¬ managed.live := by simp [live, hd, isRenderable]
    exact .of_stored hs h rfl rfl (under_connectAction d managed) (fun hl => absurd hl hn)
      (fun hl => absurd hl hn) fun hl => .inr (hk.symm.trans hl)

end

end

/-- A transition that a live device takes, and that no other state does. -/
lemma routed_reconnectAfter (ev : Event Id D)
    (tr : DeviceStateMachine D → DeviceStateMachine D × Except (DeviceError D) Unit)
    (h : mgr.devices.lookup ev.target = some managed)
    (hs : mgr.step ev = (mgr.reconnectAfter ev.target tr).map id emitted)
    (hi : ev.idsAfter managed.ids = managed.ids)
    (hrf : ∀ e, (tr managed.stateMachine).2 = .error e →
        (tr managed.stateMachine).1 = managed.stateMachine)
    (hg : (tr managed.stateMachine).1.state.isRenderable →
      managed.stateMachine.state.isRenderable) : Routed mgr ev := by
  rw [reconnectAfter_tracked h] at hs
  rcases hr : (tr managed.stateMachine).2 with e | ⟨⟩
  · rw [hr] at hs
    refine .of_moved hs h rfl hi (by simp) (fun hl hle => ?_) quiet_nil
      fun hl => .inr (hg hl)
    rw [hrf e hr] at hle
    exact absurd hl (by simp [live, hle])
  · rcases hre : (tr managed.stateMachine).1.reconnect with _ | status
    all_goals
      rw [hr, hre] at hs
      exact .of_moved hs h rfl hi (by simp [LifecycleAction.Under, disconnectAction, ids])
        (fun _ _ => by simp) (by simp [Quiet, disconnectAction]) fun hl => .inr (hg hl)

lemma routed_commError (h : mgr.devices.lookup d = some managed) (now : Nat) :
    Routed mgr (.commError d now) := by
  refine routed_reconnectAfter (.commError d now) (·.onCommError now) h rfl rfl (fun e he => ?_)
    fun hl => ?_
  all_goals
    unfold DeviceStateMachine.onCommError at *
    rcases hs : managed.stateMachine.state <;> simp_all [invalidTransition, isRenderable]

lemma routed_reconnectRequested (h : mgr.devices.lookup d = some managed) (now : Nat) :
    Routed mgr (.reconnectRequested d now) := by
  refine routed_reconnectAfter (.reconnectRequested d now) (·.onReconnectRequested now) h rfl rfl
    (fun e he => ?_) fun hl => ?_
  all_goals
    unfold DeviceStateMachine.onReconnectRequested at *
    rcases hs : managed.stateMachine.state <;> simp_all [invalidTransition, isRenderable]

/-- Moving the state machine after a teardown. -/
lemma Routed.of_teardown (hs : mgr.step ev = (mgr', teardownActions ev.target managed ++ mgr.cancelActions
      ev.target)) (hf : mgr.devices.lookup ev.target = some managed)
    (hd : mgr'.devices = mgr.devices.insert ev.target (moved managed machine))
    (hi : ev.idsAfter managed.ids = managed.ids) (hg : machine.state.isRenderable = false) :
    Routed mgr ev := by
  refine .of_moved hs hf hd hi (fun a ha => ?_) (fun hl _ => ?_) ?_
    fun hl => absurd hl (by simp [hg])
  · rcases mem_append.mp ha with ha | ha
    · exact under_teardownActions _ managed a ha
    · exact under_cancelActions mgr _ _ a ha
  · obtain ⟨hdi, hu⟩ := mem_teardownActions (d := ev.target) hl
    exact ⟨mem_append_left _ hdi, mem_append_left _ hu⟩
  · exact (quiet_teardownActions _ managed).append (quiet_cancelActions mgr _)

lemma routed_deactivate (h : mgr.devices.lookup d = some managed) : Routed mgr (.deactivate d) := by
  have hs := step_deactivate h
  split_ifs at hs with hu
  · exact .of_teardown hs h rfl rfl rfl
  · exact .of_same hs h rfl rfl (under_cancelActions mgr d _)
      fun _ => quiet_cancelActions mgr d

section

variable (h : mgr.devices.lookup d = some managed)
include h

lemma routed_reconnectAttempt (now : Nat) : Routed mgr (.reconnectAttempt d now) := by
  have hs := step_reconnectAttempt h now
  split_ifs at hs with ha
  · refine .of_same hs h rfl rfl (under_connectAction d managed) fun hl => ?_
    simp [live, ha.2, isRenderable] at hl
  · exact .of_same hs h rfl rfl (by simp) fun _ => quiet_nil

lemma routed_retryStaleKnownConnect (now : Nat) : Routed mgr (.retryStaleKnownConnect d now) := by
  rcases step_retryStaleKnownConnect h now with hs | ⟨hk, hs⟩
  · exact .of_same hs h rfl rfl (by simp) fun _ => quiet_nil
  · refine .of_same hs h rfl rfl (under_connectAction d managed) fun hl => ?_
    simp [live, hk, isRenderable] at hl

lemma routed_rebindLayout (l : String) : Routed mgr (.rebindLayout d l) := by
  refine .of_stored (step_rebindLayout h l) h rfl rfl (by simp) (fun hli hl => ?_)
    (fun _ => quiet_nil) .inr
  exact absurd hli (by simp [live] at hl ⊢; simp [hl])

end

lemma ids_discoveredEntry (mgr : DeviceLifecycleManager Id D) (d : Id) (fd : Discovered D)
    (bh : DiscoveryConnectBehavior) :
    (mgr.discoveredEntry d fd bh).ids = (fd.backendId, fd.layoutDeviceId) := rfl

lemma machine_discoveredEntry (h : mgr.devices.lookup d = some managed) (fd : Discovered D)
    (bh : DiscoveryConnectBehavior) :
    (mgr.discoveredEntry d fd bh).stateMachine = managed.stateMachine := by
  simp [discoveredEntry, h]

variable {bh : DiscoveryConnectBehavior} {now : Nat}

variable {fd : Discovered D}

/-- Discovery stores a record, whether or not there was one. -/
lemma Routed.of_discovered {e : ManagedDevice D}
    (hs : mgr.step (.discovered d fd bh now) = (mgr', actions))
    (hde : mgr'.devices = mgr.devices.insert d e) (hi : e.ids = (fd.backendId, fd.layoutDeviceId))
    (hu : ∀ a ∈ actions, a.Under d e.ids)
    (hlv : (mgr.discoveredEntry d fd bh).live → e.live = false → disconnectAction d e ∈
      actions ∧ .unmap e.layoutDeviceId ∈ actions)
        (hc : (mgr.discoveredEntry d fd bh).live → Quiet actions)
    (hg : e.live → (mgr.discoveredEntry d fd bh).live) : Routed mgr (.discovered d fd bh now) := by
  rcases hf : mgr.devices.lookup d with _ | managed
  · refine ⟨fun d' hd' => ?_, fun m hm => ?_, fun a ha => ?_, fun m m' hm => ?_,
      fun m hm => ?_, fun m' hm' hl => ?_⟩
    · rw [hs, hde]
      exact lookup_insert_ne hd'
    · cases hf.symm.trans hm
    · rw [hs] at ha ⊢
      exact ⟨e, by rw [hde]; exact lookup_insert _, hu a ha⟩
    · cases hf.symm.trans hm
    · cases hf.symm.trans hm
    · -- A device that is new is `Known`.
      rw [hs, hde, show Event.target (.discovered d fd bh now) = d from rfl,
        lookup_insert, some.injEq] at hm'
      subst hm'
      have hn := hg hl
      simp [live, discoveredEntry, hf, DeviceStateMachine.withPolicy, isRenderable] at hn
  · have hl : (mgr.discoveredEntry d fd bh).live = managed.live := by
      rw [live, machine_discoveredEntry hf, live]
    rw [hl] at hlv hc hg
    exact .of_stored hs hf hde hi hu hlv hc fun h => .inr (hg h)

lemma routed_discovered (mgr : DeviceLifecycleManager Id D) (d : Id) (fd : Discovered D)
    (bh : DiscoveryConnectBehavior) (now : Nat) : Routed mgr (.discovered d fd bh now) := by
  have hs := step_discovered mgr d fd bh now
  have hc := under_cancelActions mgr d (fd.backendId, fd.layoutDeviceId)
  have hq := quiet_cancelActions mgr d
  generalize he : mgr.discoveredEntry d fd bh = entry at hs
  have hi : entry.ids = (fd.backendId, fd.layoutDeviceId) := by
    rw [← he, ids_discoveredEntry]
  have hsa : entry.live → entry.live ≠ false := by simp
  dsimp only at hs
  split_ifs at hs with hau hco hu hl
  · refine .of_discovered hs rfl hi (fun a ha => ?_) ?_ (fun hl => ?_) (by rw [he]; exact id)
    · rcases mem_append.mp ha with ha | ha
      · rw [hi]
        exact hc a ha
      · exact under_connectAction d entry a ha
    · rw [he]
      exact fun hl hle => absurd hle (hsa hl)
    · rw [he, live] at hl
      rcases hco.1 with hst | hst <;> simp [hst, isRenderable] at hl
  · refine .of_discovered hs rfl hi (hi ▸ hc) ?_ (fun _ => hq) (by rw [he]; exact id)
    rw [he]
    exact fun hl hle => absurd hle (hsa hl)
  · refine .of_discovered hs rfl hi (fun a ha => ?_) (fun _ _ => ?_) (fun _ => ?_)
      fun hg => by cases hg
    · rcases mem_append.mp ha with ha | ha
      · rw [show (moved entry entry.stateMachine.onHotUnplug).ids = _ from hi]
        exact hc a ha
      · simp only [mem_cons, not_mem_nil, or_false] at ha
        rcases ha with rfl | rfl <;>
          simp [LifecycleAction.Under, disconnectAction, moved, ids]
    · simp [disconnectAction, moved]
    · exact hq.append (by simp [Quiet, disconnectAction])
  · refine .of_discovered hs rfl hi (fun a ha => ?_) ?_ (fun _ => ?_)
      fun hg => by cases hg
    · rw [append_nil] at ha
      rw [show (moved entry entry.stateMachine.onHotUnplug).ids = _ from hi]
      exact hc a ha
    · rw [he]
      exact fun hl' => absurd hl' hl
    · rw [append_nil]
      exact hq
  · refine .of_discovered hs rfl hi (hi ▸ hc) ?_ (fun _ => hq) (by rw [he]; exact id)
    rw [he]
    exact fun hl hle => absurd hle (hsa hl)

/-- **Every call is routed.** -/
theorem routed (h : Booked mgr) (ev : Event Id D) : Routed mgr ev := by
  by_cases hdi : ∃ d fd bh now, ev = .discovered d fd bh now
  · obtain ⟨d, fd, bh, now, rfl⟩ := hdi
    exact routed_discovered mgr d fd bh now
  · have hoh : ∀ d fd bh now, ev ≠ .discovered d fd bh now :=
      fun d fd bh now he => hdi ⟨d, fd, bh, now, he⟩
    rcases hf : mgr.devices.lookup ev.target with _ | managed
    · obtain ⟨hd, hac, -⟩ := step_untracked hf hoh
      refine ⟨fun d _ => by rw [hd], fun m hm => ?_, fun a ha => ?_, fun m m' hm => ?_,
        fun m hm => ?_, fun m' hm' => ?_⟩
      · cases hf.symm.trans hm
      · simp [hac] at ha
      · cases hf.symm.trans hm
      · cases hf.symm.trans hm
      · rw [hd] at hm'
        cases hf.symm.trans hm'
    · have hw := h.waits _ _ hf
      cases ev with
      | discovered d fd bh now => exact absurd rfl (hoh d fd bh now)
      | retryStaleKnownConnect d now => exact routed_retryStaleKnownConnect hf now
      | connected d handleId now => exact routed_connected hf handleId now
      | connectFailed d now => exact routed_connectFailed hf hw now
      | connectAbandoned d => exact routed_connectAbandoned hf hw
      | frameSuccess d => exact routed_frameSuccess hf hw
      | commError d now => exact routed_commError hf now
      | reconnectRequested d now => exact routed_reconnectRequested hf now
      | takeFlapEscalation d => exact routed_takeFlapEscalation hf hw
      | reconnectAttempt d now => exact routed_reconnectAttempt hf now
      | reconnectFailed d now => exact routed_reconnectFailed hf hw now
      | vanished d => exact .of_teardown (step_vanished hf) hf rfl rfl rfl
      | disable d => exact .of_teardown (step_disable hf) hf rfl rfl rfl
      | enable d now => exact routed_enable hf hw now
      | deactivate d => exact routed_deactivate hf
      | rebindLayout d l => exact routed_rebindLayout hf l

/-! ## What a device is bound to -/

/-- The ids a `Connect` for the device names. -/
def connectIds (d : Id) : LifecycleAction Id → Option (String × String)
  | .connect d' backendId layoutDeviceId =>
      if d' = d then some (backendId, layoutDeviceId) else none
  | _ => none

/-- The ids of the device's record. -/
def recordIds (mgr : DeviceLifecycleManager Id D) (d : Id) : Option (String × String) :=
  (mgr.devices.lookup d).map ids

/-- The manager, and the ids under which each device was last connected, or rebound since. -/
structure Wiring (Id D : Type) where
  manager : DeviceLifecycleManager Id D
  bound : Id → Option (String × String)

namespace Wiring

/-- A `Connect` binds its device to the ids it names, and `rebind_layout_device_id` moves a bound
device to another layout id. A device connected without a `Connect` of the manager, as a pairing does
it, is bound to the ids of its record. -/
def boundAfter (w : Wiring Id D) (event : Event Id D) (d : Id) : Option (String × String) :=
  match (w.manager.step event).2.findSome? (connectIds d) with
  | some ids => some ids
  | none =>
      if d ≠ event.target then w.bound d
      else
        match event with
        | .rebindLayout _ layoutDeviceId => (w.bound d).map fun ids => (ids.1, layoutDeviceId)
        | .connected _ _ _ =>
            if w.manager.state d = some .known ∨ w.manager.state d = some .reconnecting then
              (w.bound d).or (w.manager.recordIds d)
            else w.bound d
        | _ => w.bound d

def step (w : Wiring Id D) (event : Event Id D) : Wiring Id D where
  manager := (w.manager.step event).1
  bound := w.boundAfter event

def run (w : Wiring Id D) (events : List (Event Id D)) : Wiring Id D :=
  events.foldl step w

/-- Nothing is tracked, and nothing bound. -/
def fresh (policy : ReconnectPolicy) (staleAfter : Nat) : Wiring Id D where
  manager := withReconnectPolicy policy staleAfter
  bound _ := none

/-- A rediscovery of a bound device finds it under the ids it is bound to, or connects it anew. -/
def Settles (w : Wiring Id D) : Event Id D → Prop
  | .discovered d found behavior _ =>
      ∀ ids, w.bound d = some ids → ids = (found.backendId, found.layoutDeviceId) ∨
        behavior.shouldAutoConnect ∧
          (w.manager.state d = some .known ∨ w.manager.state d = some .reconnecting) ∧
          d ∉ w.manager.connectInFlight
  | _ => True

/-- Every call of a run settles where it is made. -/
def SettledRun (w : Wiring Id D) : List (Event Id D) → Prop
  | [] => True
  | event :: events => w.Settles event ∧ (w.step event).SettledRun events

/-- A bound device is tracked, under the ids it is bound to, and a device that is connected or active
is bound. -/
structure Aligned (w : Wiring Id D) : Prop where
  booked : Booked w.manager
  ids : ∀ d ids, w.bound d = some ids → w.manager.recordIds d = some ids
  live : ∀ d managed, w.manager.devices.lookup d = some managed → managed.live →
    ∃ ids, w.bound d = some ids

end Wiring

variable {ids : String × String}

section Bound

variable {w : Wiring Id D}

lemma exists_connect_of_findSome (h : actions.findSome? (connectIds d) = some ids) :
    .connect d ids.1 ids.2 ∈ actions := by
  obtain ⟨a, hm, ha⟩ := exists_of_findSome?_eq_some h
  cases a with
  | connect d' bid l =>
    simp only [connectIds] at ha
    split_ifs at ha with hd
    obtain rfl := some.inj ha
    exact hd ▸ hm
  | disconnect | map | unmap | spawnReconnect | cancelReconnect => cases ha

/-- The record of the device of a call, by what the call makes of its ids. -/
lemma recordIds_after (h : Booked w.manager) (hi : w.manager.recordIds ev.target = some ids) :
    (w.manager.step ev).1.recordIds ev.target = some (ev.idsAfter ids) := by
  obtain ⟨managed, hf, rfl⟩ := map_eq_some_iff.mp hi
  obtain ⟨managed', ha, hi'⟩ := (routed h ev).ids managed hf
  rw [recordIds, ha, map_some, hi']

lemma recordIds_other (h : Booked w.manager) (hd : d ≠ ev.target) :
    (w.manager.step ev).1.recordIds d = w.manager.recordIds d := by
  rw [recordIds, (routed h ev).others d hd, recordIds]

lemma recordIds_connect (h : Booked w.manager) {bid l : String}
    (hm : .connect d bid l ∈ (w.manager.step ev).2) :
    (w.manager.step ev).1.recordIds d = some (bid, l) := by
  obtain ⟨managed', ha, rfl, hi⟩ := (routed h ev).under _ hm
  rw [recordIds, ha, map_some, hi]

/-- A rediscovery that connects anew. -/
lemma connects_discovered (ha : bh.shouldAutoConnect)
    (hst : mgr.state d = some .known ∨ mgr.state d = some .reconnecting) (hfl : d ∉ mgr.connectInFlight) :
    (mgr.step (.discovered d fd bh now)).2.findSome? (connectIds d) ≠ none := by
  have he : (mgr.discoveredEntry d fd bh).stateMachine.state = .known ∨
      (mgr.discoveredEntry d fd bh).stateMachine.state = .reconnecting := by
    rcases hf : mgr.devices.lookup d with _ | managed
    · simp [state, hf] at hst
    · rw [machine_discoveredEntry hf]
      simpa [state, hf] using hst
  have hs := step_discovered mgr d fd bh now
  dsimp only at hs
  rw [if_pos ha, if_pos ⟨he, hfl⟩] at hs
  rw [hs, Ne, findSome?_eq_none_iff]
  intro hn
  have hc := hn (connectAction d (mgr.discoveredEntry d fd bh)) (by simp)
  simp [connectIds, connectAction] at hc

lemma boundAfter_other (hd : d ≠ ev.target) (hq : (w.manager.step ev).2.findSome? (connectIds d) = none) :
    w.boundAfter ev d = w.bound d := by
  simp only [Wiring.boundAfter, hq, hd, ne_eq, not_false_iff, if_true]

/-- What a device is bound to after a call is what its record says. -/
lemma Wiring.Aligned.ids_step (h : w.Aligned) (hse : w.Settles ev) (hb : w.boundAfter ev d = some ids) :
    (w.manager.step ev).1.recordIds d = some ids := by
  rcases hf : (w.manager.step ev).2.findSome? (connectIds d) with _ | connected
  · by_cases hd : d = ev.target
    · subst hd
      have ha : ∀ ids', w.bound ev.target = some ids' →
          (w.manager.step ev).1.recordIds ev.target = some (ev.idsAfter ids') :=
        fun ids' hi' => recordIds_after h.booked (h.ids _ _ hi')
      simp only [boundAfter, hf, ne_eq, not_true, if_false] at hb
      cases ev with
      | rebindLayout d l =>
        obtain ⟨ids', hi', rfl⟩ := map_eq_some_iff.mp hb
        exact ha ids' hi'
      | connected d handleId now =>
        split_ifs at hb
        · rcases or_eq_some_iff.mp hb with hi | ⟨-, hi⟩
          · exact ha ids hi
          · exact recordIds_after h.booked hi
        · exact ha ids hb
      | discovered d fd bh now =>
        rcases hse ids hb with hs | ⟨hau, hst, hfl⟩
        · rw [ha ids hb]
          exact congrArg some hs.symm
        · exact absurd hf (connects_discovered hau hst hfl)
      | _ => exact ha ids hb
    · rw [boundAfter_other hd hf] at hb
      rw [recordIds_other h.booked hd]
      exact h.ids d ids hb
  · simp only [boundAfter, hf, some.injEq] at hb
    subst hb
    exact recordIds_connect h.booked (exists_connect_of_findSome hf)

/-- A bound device stays bound. -/
lemma boundAfter_of_bound (h : w.bound d = some ids) : ∃ ids', w.boundAfter ev d = some ids' := by
  unfold Wiring.boundAfter
  split
  · exact ⟨_, rfl⟩
  · split
    · exact ⟨ids, h⟩
    · split
      · exact ⟨_, by rw [h, map_some]⟩
      · split_ifs
        · exact ⟨ids, by rw [h, some_or]⟩
        · exact ⟨ids, h⟩
      · exact ⟨ids, h⟩

/-- A device that `on_connected` leaves connected was `Known` or reconnecting, or it was connected. -/
lemma accepted_of_connected {handleId : Nat} (hf : mgr.devices.lookup d = some managed)
    (ha : (mgr.step (.connected d handleId now)).1.devices.lookup d = some managed')
        (hl : managed'.live) :
    managed.live ∨ mgr.state d = some .known ∨ mgr.state d = some .reconnecting := by
  rw [step_connected hf] at ha
  obtain rfl := some.inj ((lookup_insert _).symm.trans ha)
  simp only [live, moved, DeviceStateMachine.onConnected] at hl ⊢
  simp only [state, hf, map_some]
  rcases hs : managed.stateMachine.state <;>
    simp_all [invalidTransition, isRenderable]

/-- A device that is connected or active after a call is bound. -/
lemma Wiring.Aligned.live_step (h : w.Aligned)
    (ha : (w.manager.step ev).1.devices.lookup d = some managed')
    (hl : managed'.live) : ∃ ids, w.boundAfter ev d = some ids := by
  have hr := routed h.booked ev
  by_cases hd : d = ev.target
  · subst hd
    rcases hr.gains managed' ha hl with hc | ⟨managed, hf, hb⟩
    · cases ev with
      | connected d handleId now =>
        rcases hf : w.manager.devices.lookup d with _ | managed
        · have hu : (w.manager.step (.connected d handleId now)).1.devices = w.manager.devices := by
            refine (step_untracked ?_ nofun).1
            exact hf
          rw [hu] at ha
          cases hf.symm.trans ha
        · rcases accepted_of_connected hf ha hl with hb | hs
          · obtain ⟨ids, hi⟩ := h.live d managed hf hb
            exact boundAfter_of_bound hi
          · rcases hbd : w.bound d with _ | ids
            · rcases hfi : (w.manager.step (.connected d handleId now)).2.findSome?
                (connectIds d) with _ | ids
              · refine ⟨managed.ids, ?_⟩
                simp only [boundAfter, Event.target, hfi, ne_eq, not_true, if_false, hs,
                  if_true, hbd, none_or, recordIds, hf, map_some]
              · exact ⟨ids, by simp only [boundAfter, Event.target, hfi]⟩
            · exact boundAfter_of_bound hbd
      | _ => exact hc.elim
    · obtain ⟨ids, hi⟩ := h.live _ managed hf hb
      exact boundAfter_of_bound hi
  · rw [hr.others d hd] at ha
    obtain ⟨ids, hi⟩ := h.live d managed' ha hl
    exact boundAfter_of_bound hi

end Bound

variable {w : Wiring Id D}

lemma Wiring.Aligned.step (h : w.Aligned) (hs : w.Settles ev) : (w.step ev).Aligned where
  booked := (h.booked.step ev).1
  ids _ _ hb := h.ids_step hs hb
  live _ _ ha hl := h.live_step ha hl

lemma Wiring.aligned_fresh (pol : ReconnectPolicy) (staleAfter : Nat) :
    (Wiring.fresh pol staleAfter : Wiring Id D).Aligned where
  booked := booked_withReconnectPolicy pol staleAfter
  ids d ids h := by cases h
  live d managed h := by simp [Wiring.fresh, withReconnectPolicy] at h

lemma Wiring.Aligned.run {es : List (Event Id D)} (h : w.Aligned)
    (hs : w.SettledRun es) : (w.run es).Aligned := by
  induction es generalizing w with
  | nil => exact h
  | cons ev es ih => exact ih (h.step hs.1) hs.2

/-- Connected or active. -/
def live (mgr : DeviceLifecycleManager Id D) (d : Id) : Prop :=
  ∃ managed, mgr.devices.lookup d = some managed ∧ managed.live

/-- What a call owes the device it is about, which is bound to `ids`: every `Disconnect` and `Unmap`
is under them, a device that is no longer connected was torn down, one that is connected is not
connected again, and nothing is mapped. -/
structure Wiring.TearsDown (w : Wiring Id D) (event : Event Id D) (d : Id) (ids : String × String) :
    Prop where
  disconnect : ∀ backendId, .disconnect d backendId ∈ (w.manager.step event).2 → backendId = ids.1
  unmap : d = event.target → ∀ layoutDeviceId, .unmap layoutDeviceId ∈ (w.manager.step event).2 →
    layoutDeviceId = ids.2
  leaves : w.manager.live d → ¬ (w.manager.step event).1.live d →
    .disconnect d ids.1 ∈ (w.manager.step event).2 ∧ .unmap ids.2 ∈ (w.manager.step event).2
  connects : w.manager.live d → ¬ Connects w.manager event d
  maps : ∀ layoutDeviceId backendId, .map layoutDeviceId backendId d ∉ (w.manager.step event).2

/-- `Disconnect` and `Unmap`. -/
def Ends : LifecycleAction Id → Prop
  | .disconnect _ _ | .unmap _ => True
  | _ => False

lemma not_ends_cancelActions (mgr : DeviceLifecycleManager Id D) (d : Id) :
    ∀ action ∈ mgr.cancelActions d, ¬ Ends action := by
  unfold cancelActions
  split <;> simp [Ends]

/-- A call that tears its device down leaves its record under the ids the device is bound to. -/
lemma Wiring.Aligned.ids_torn (h : w.Aligned) (hse : w.Settles ev)
    (hb : w.bound ev.target = some ids) {a : LifecycleAction Id}
    (hm : a ∈ (w.manager.step ev).2) (he : Ends a) :
    (w.manager.step ev).1.recordIds ev.target = some ids := by
  have ha := recordIds_after h.booked (h.ids _ _ hb)
  cases ev with
  | rebindLayout d l =>
    obtain ⟨managed, hf, -⟩ := map_eq_some_iff.mp (h.ids _ _ hb)
    cases hm
  | discovered d fd bh now =>
    rcases hse ids hb with hsa | ⟨hau, hst, hfl⟩
    · rw [ha]
      exact congrArg some hsa.symm
    · -- A rediscovery that connects tears nothing down.
      have hs := step_discovered w.manager d fd bh now
      dsimp only at hs
      rw [hs] at hm
      split_ifs at hm
      · rcases mem_append.mp hm with hm | hm
        · exact absurd he (not_ends_cancelActions _ _ a hm)
        · rw [mem_singleton.mp hm] at he
          exact he.elim
      · exact absurd he (not_ends_cancelActions _ _ a hm)
  | _ => exact ha

/-- **One call.** -/
theorem Wiring.Aligned.tearsDown (h : w.Aligned) (hs : w.Settles ev)
    (hbd : w.bound d = some ids) : w.TearsDown ev d ids := by
  have hr := routed h.booked ev
  refine ⟨fun bid hm => ?_, fun hd l hm => ?_, fun hl hle => ?_,
    fun hl hc => ?_, fun l bid hm => ?_⟩
  · obtain ⟨managed', ha, rfl, hi⟩ := hr.under _ hm
    have ht := h.ids_torn hs hbd hm trivial
    rw [recordIds, ha, map_some, some.injEq] at ht
    rw [hi, ht]
  · subst hd
    obtain ⟨managed', ha, hi⟩ := hr.under _ hm
    have ht := h.ids_torn hs hbd hm trivial
    rw [recordIds, ha, map_some, some.injEq] at ht
    rw [show l = managed'.ids.2 from hi, ht]
  · obtain ⟨managed, hf, hb⟩ := hl
    by_cases hd : d = ev.target
    · subst hd
      obtain ⟨managed', ha, -⟩ := hr.ids managed hf
      have hde : managed'.live = false := by
        rw [← Bool.not_eq_true]
        exact fun hl' => hle ⟨managed', ha, hl'⟩
      obtain ⟨hdi, hu⟩ := hr.leaves managed managed' hf ha hb hde
      have ht := h.ids_torn hs hbd hdi trivial
      rw [recordIds, ha, map_some, some.injEq] at ht
      rw [← ht]
      exact ⟨hdi, hu⟩
    · refine absurd ⟨managed, ?_, hb⟩ hle
      rw [hr.others d hd, hf]
  · obtain ⟨managed, hf, hb⟩ := hl
    obtain ⟨bid, l, hm⟩ := hc
    obtain ⟨-, -, rfl, -⟩ := hr.under _ hm
    exact hr.connects managed hf hb _ _ _ hm
  · obtain ⟨managed', ha, hma⟩ := hr.under _ hm
    exact hma

/-- **The ids a device is torn down under, along every run** in which each rediscovery of a bound
device finds the ids it is bound to or connects it anew: a device that is connected or active is
bound, and every call tears down what it does under the ids its device is bound to. -/
theorem teardown_as_bound (policy : ReconnectPolicy) (staleAfter : Nat)
    (events : List (Event Id D)) (event : Event Id D)
    (hsettled : (Wiring.fresh policy staleAfter).SettledRun events)
    (hsettles : ((Wiring.fresh policy staleAfter).run events).Settles event) (d : Id) :
    let w := (Wiring.fresh policy staleAfter).run events
    (w.manager.live d → ∃ ids, w.bound d = some ids) ∧
      ∀ ids, w.bound d = some ids → w.TearsDown event d ids := by
  intro w
  have ha : w.Aligned := (Wiring.aligned_fresh policy staleAfter).run hsettled
  refine ⟨?_, fun ids hb => ha.tearsDown hsettles hb⟩
  rintro ⟨managed, hf, hl⟩
  exact ha.live d managed hf hl

/-- A keyboard connected, rebound to a new layout id and rediscovered under it, then unplugged. -/
theorem teardown_as_bound_keyboard :
    let w := (Wiring.fresh steadyPolicy 60).run [.discovered (7 : Nat) found .autoConnect 0,
      .connected 7 0 1, .rebindLayout 7 "usb:keyboard:2",
      .discovered 7 ⟨"usb", "usb:keyboard:2", ()⟩ .autoConnect 2]
    w.bound 7 = some ("usb", "usb:keyboard:2") ∧
      w.TearsDown (.vanished 7) 7 ("usb", "usb:keyboard:2") := by
  refine ⟨by decide, (teardown_as_bound steadyPolicy 60 _ (.vanished 7) ?_ trivial 7).2 _ (by decide)⟩
  refine ⟨fun ids hi => ?_, trivial, trivial, fun ids hi => .inl ?_, trivial⟩
  · cases hi
  · exact some.inj (hi.symm.trans (by decide))

/-- A keyboard that a scan finds behind another backend while it is connected is disconnected from
that one, and the layout id that is unmapped is not the one it was mapped under. -/
theorem torn_down_elsewhere :
    ¬ ∀ (policy : ReconnectPolicy) (staleAfter : Nat) (events : List (Event Nat Unit))
      (event : Event Nat Unit) (d : Nat) (ids : String × String),
      ((Wiring.fresh policy staleAfter).run events).bound d = some ids →
        ((Wiring.fresh policy staleAfter).run events).TearsDown event d ids := by
  intro h
  have ht := h steadyPolicy 60 [.discovered 7 found .autoConnect 0, .connected 7 0 1,
    .discovered 7 ⟨"bridge", "bridge:keyboard", ()⟩ .autoConnect 2] (.vanished 7) 7
    ("usb", "usb:keyboard") (by decide)
  exact absurd (ht.disconnect "bridge" (by decide)) (by decide)

end DeviceLifecycleManager

end Hypercolor.Device
