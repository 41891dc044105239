import Hypercolor.Device.Lifecycle

/-!
# The calls of the lifecycle manager, one by one

What each call leaves and emits for a device that is tracked, with its state machine moved, and that a
call for a device that is not tracked leaves every record alone, schedules nothing and emits nothing.
The results about whole runs rest on these equations and do not unfold the handlers.
-/

namespace Hypercolor.Device

open Lib

variable {Id D : Type}

/-- Connected or active. -/
def ManagedDevice.live (managed : ManagedDevice D) : Bool := managed.stateMachine.state.isRenderable

namespace DeviceLifecycleManager

variable [DecidableEq Id]

/-! ## Calls for a tracked device -/

section Calls

variable {mgr : DeviceLifecycleManager Id D} {d : Id} {m : ManagedDevice D}

/-- The record with its state machine moved. -/
def moved (managed : ManagedDevice D) (machine : DeviceStateMachine D) : ManagedDevice D :=
  { managed with stateMachine := machine }

/-- The states in which a device that is not to be connected is unplugged. -/
def unplugs : DeviceState → Bool
  | .connected | .active | .reconnecting => true
  | .known | .disabled => false

/-- Neither a connect under way nor a reconnect scheduled. -/
def settle (mgr : DeviceLifecycleManager Id D) (d : Id) : DeviceLifecycleManager Id D :=
  (mgr.clearConnectInFlight d).cancelScheduled d

section

variable (h : mgr.devices.lookup d = some m)
include h

lemma step_connected (handleId now : Nat) : mgr.step (.connected d handleId now) =
      ((mgr.settle d).store d (moved m (m.stateMachine.onConnected
          ⟨handleId, m.identifier, m.backendId⟩ now).1),
        emitted ((m.stateMachine.onConnected ⟨handleId, m.identifier, m.backendId⟩ now).2.map fun _ =>
            mgr.cancelActions d)) := by
  simp only [step, onConnected, clearConnectInFlight, cancelScheduled, h]
  rfl

variable (now : Nat)

lemma step_connectFailed : mgr.step (.connectFailed d now) =
      match (m.stateMachine.onConnectFailed now).2 with
      | .error _ => ((mgr.clearConnectInFlight d).store d
          (moved m (m.stateMachine.onConnectFailed now).1), [])
      | .ok delay => (((mgr.clearConnectInFlight d).store d
          (moved m (m.stateMachine.onConnectFailed now).1)).schedule d,
            [.spawnReconnect d delay]) := by
  simp only [step, onConnectFailed, clearConnectInFlight, h]
  rcases (m.stateMachine.onConnectFailed now).2 <;> rfl

lemma step_connectAbandoned : mgr.step (.connectAbandoned d) =
      ((mgr.settle d).store d (moved m m.stateMachine.onConnectAbandoned), mgr.cancelActions d) := by
  simp only [step, onConnectAbandoned, clearConnectInFlight, cancelScheduled, h]
  rfl

lemma step_frameSuccess : mgr.step (.frameSuccess d) =
      (mgr.store d (moved m m.stateMachine.onFrameSuccess.1), []) := by
  simp only [step, onFrameSuccess, h]
  rfl

lemma step_takeFlapEscalation : mgr.step (.takeFlapEscalation d) =
      (mgr.store d (moved m m.stateMachine.takeFlapEscalation.1), []) := by
  simp only [step, takeFlapEscalation, h]
  rfl

/-- Both callers of `reconnect_after`, on a state machine that refuses or starts to reconnect. -/
lemma reconnectAfter_tracked
    (tr : DeviceStateMachine D → DeviceStateMachine D × Except (DeviceError D) Unit) :
    (mgr.reconnectAfter d tr).map id emitted =
      match (tr m.stateMachine).2, (tr m.stateMachine).1.reconnect with
      | .error _, _ => ((mgr.clearConnectInFlight d).store d
          (moved m (tr m.stateMachine).1), [])
      | .ok (), none => ((mgr.clearConnectInFlight d).store d
          (moved m (tr m.stateMachine).1), [disconnectAction d m, .unmap m.layoutDeviceId])
      | .ok (), some status => (((mgr.clearConnectInFlight d).store d
          (moved m (tr m.stateMachine).1)).schedule d, [disconnectAction d m, .unmap m.layoutDeviceId,
              .spawnReconnect d status.nextRetry]) := by
  simp only [reconnectAfter, clearConnectInFlight, h]
  rcases (tr m.stateMachine).2 with e | ⟨⟩
  · rfl
  · rcases (tr m.stateMachine).1.reconnect with _ | status
    · rfl
    · rfl

lemma step_reconnectFailed : mgr.step (.reconnectFailed d now) =
      match (m.stateMachine.onReconnectFailed now).2 with
      | some delay => (((mgr.clearConnectInFlight d).store d
          (moved m (m.stateMachine.onReconnectFailed now).1)).schedule d, [.spawnReconnect d delay])
      | none => (((mgr.clearConnectInFlight d).store d
          (moved m (m.stateMachine.onReconnectFailed now).1)).cancelScheduled d,
            mgr.cancelActions d) := by
  simp only [step, onReconnectFailed, clearConnectInFlight, h]
  rcases (m.stateMachine.onReconnectFailed now).2 <;> rfl

lemma step_reconnectAttempt : mgr.step (.reconnectAttempt d now) =
      if d ∉ mgr.connectInFlight ∧ m.stateMachine.state = .reconnecting then
        (mgr.markConnectInFlight d now, [connectAction d m])
      else (mgr, []) := by
  simp only [step, onReconnectAttempt, h]
  by_cases hf : d ∈ mgr.connectInFlight <;>
    by_cases hs : m.stateMachine.state = .reconnecting <;>
      simp [hf, hs, Prod.map]

lemma step_retryStaleKnownConnect :
    mgr.step (.retryStaleKnownConnect d now) = (mgr, []) ∨ m.stateMachine.state = .known ∧
        mgr.step (.retryStaleKnownConnect d now) =
          (mgr.markConnectInFlight d now, [connectAction d m]) := by
  simp only [step, retryStaleKnownConnect, h]
  rcases mgr.connectInFlight.lookup d with _ | startedAt
  · exact .inl rfl
  · dsimp only
    split_ifs with hf hoh
    · exact .inl rfl
    · exact .inl rfl
    · exact .inr ⟨by tauto, rfl⟩

lemma step_enable : mgr.step (.enable d now) = (mgr.store d (moved m m.stateMachine.onUserEnable), []) ∨
      m.stateMachine.state = .disabled ∧ d ∉ mgr.connectInFlight ∧ mgr.step (.enable d now) =
        ((mgr.store d (moved m m.stateMachine.onUserEnable)).markConnectInFlight d now,
          [connectAction d m]) := by
  simp only [step, onUserEnable, h]
  split_ifs with hc
  · exact .inr ⟨hc.1, hc.2.2.2, rfl⟩
  · exact .inl rfl

lemma step_vanished : mgr.step (.vanished d) =
      (((mgr.store d (moved m m.stateMachine.onHotUnplug)).settle d),
        teardownActions d m ++ mgr.cancelActions d) := by
  simp only [step, onDeviceVanished, h]
  rfl

lemma step_disable :
    mgr.step (.disable d) = ((mgr.settle d).store d (moved m m.stateMachine.onUserDisable),
        teardownActions d m ++ mgr.cancelActions d) := by
  simp only [step, onUserDisable, clearConnectInFlight, cancelScheduled, h]
  rfl

lemma step_rebindLayout (layoutDeviceId : String) : mgr.step (.rebindLayout d layoutDeviceId) =
      (mgr.store d { m with layoutDeviceId := layoutDeviceId }, []) := by
  simp only [step, rebindLayoutDeviceId, h]

lemma step_deactivate : mgr.step (.deactivate d) =
      if unplugs m.stateMachine.state then
        ((mgr.settle d).store d (moved m m.stateMachine.onHotUnplug),
          teardownActions d m ++ mgr.cancelActions d)
      else (mgr.settle d, mgr.cancelActions d) := by
  simp only [step, onRuntimeDeactivate, clearConnectInFlight, cancelScheduled, h]
  rcases hs : m.stateMachine.state <;>
    simp [unplugs, teardownActions, hs, DeviceState.isRenderable, Prod.map, emitted, settle,
      moved, clearConnectInFlight, cancelScheduled]

end

/-- Discovery stores what it found, and unplugs a device that is not to be connected. -/
lemma step_discovered (mgr : DeviceLifecycleManager Id D) (d : Id) (fd : Discovered D)
    (bh : DiscoveryConnectBehavior) (now : Nat) :
    let entry := mgr.discoveredEntry d fd bh
    let stored := (mgr.cancelScheduled d).store d
    mgr.step (.discovered d fd bh now) =
      if bh.shouldAutoConnect then
        if (entry.stateMachine.state = .known ∨ entry.stateMachine.state = .reconnecting) ∧
            d ∉ mgr.connectInFlight then
          ((stored entry).markConnectInFlight d now, mgr.cancelActions d ++ [connectAction d entry])
        else (stored entry, mgr.cancelActions d)
      else if unplugs entry.stateMachine.state then
        (stored (moved entry entry.stateMachine.onHotUnplug), mgr.cancelActions d ++
          if entry.live then [disconnectAction d entry, .unmap entry.layoutDeviceId] else [])
      else (stored entry, mgr.cancelActions d) := by
  intro entry stored
  simp only [step, onDiscovered]
  by_cases ha : bh.shouldAutoConnect
  · simp only [ha, not_true, if_false, if_true]
    rfl
  · rw [if_pos ha, if_neg ha]
    rcases hs : entry.stateMachine.state <;>
      simp [entry, hs, unplugs, ManagedDevice.live, DeviceState.isRenderable, stored, moved]

end Calls

/-- A call, other than a discovery, for a device that is not tracked. -/
lemma step_untracked {mgr : DeviceLifecycleManager Id D} {e : Event Id D}
    (hn : mgr.devices.lookup e.target = none) (hd : ∀ d fd bh now, e ≠ .discovered d fd bh now) :
    (mgr.step e).1.devices = mgr.devices ∧ (mgr.step e).2 = [] ∧
      (mgr.step e).1.reconnectScheduled ⊆ mgr.reconnectScheduled ∧
      ((mgr.step e).1.connectInFlight = mgr.connectInFlight ∨
        (e.Answers e.target ∨ e.Withdraws e.target) ∧
          (mgr.step e).1.connectInFlight = mgr.connectInFlight.erase e.target) := by
  have hs := Finset.erase_subset e.target mgr.reconnectScheduled
  cases e with
  | discovered d fd bh now => exact absurd rfl (hd d fd bh now)
  | retryStaleKnownConnect d now =>
    simp only [Event.target] at hn
    simp only [step, retryStaleKnownConnect, hn]
    rcases mgr.connectInFlight.lookup d <;> exact ⟨rfl, rfl, Finset.Subset.refl _, .inl rfl⟩
  | reconnectAttempt d now =>
    simp only [Event.target] at hn
    simp only [step, onReconnectAttempt, hn]
    split <;> exact ⟨rfl, rfl, Finset.Subset.refl _, .inl rfl⟩
  | connected | connectAbandoned | disable | deactivate =>
    simp only [Event.target] at hn
    simp only [step, onConnected, onConnectAbandoned, onUserDisable, onRuntimeDeactivate,
      clearConnectInFlight, cancelScheduled, hn]
    exact ⟨rfl, rfl, hs, .inr ⟨by simp [Event.Answers, Event.Withdraws, Event.target], rfl⟩⟩
  | connectFailed | commError | reconnectRequested | reconnectFailed =>
    simp only [Event.target] at hn
    simp only [step, onConnectFailed, onCommError, onReconnectRequested, reconnectAfter,
      onReconnectFailed, clearConnectInFlight, hn]
    exact ⟨rfl, rfl, Finset.Subset.refl _,
      .inr ⟨by simp [Event.Answers, Event.Withdraws, Event.target], rfl⟩⟩
  | _ =>
    simp only [Event.target] at hn
    simp [step, onFrameSuccess, takeFlapEscalation, onDeviceVanished, onUserEnable,
      rebindLayoutDeviceId, emitted, hn]

end DeviceLifecycleManager

end Hypercolor.Device
