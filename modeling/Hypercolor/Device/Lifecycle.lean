import Mathlib.Data.Finset.Insert
import Mathlib.Data.Finset.Erase
import Hypercolor.Device.StateMachine
import Hypercolor.Lib.Table

/-!
# The device lifecycle manager

`device/lifecycle.rs`: `DeviceLifecycleManager`, which drives one state machine for each device and
emits the actions the runtime executes.

* A handler returns the manager it leaves with its result: the in-flight mark and the scheduled
  reconnect are dropped before the lookups that may fail.
* What discovery reads off a device (backend, layout id, identifier) is an argument (`Discovered`).
  Every clock reading and handle id is an argument too.
-/

set_option linter.unusedSectionVars false

namespace Hypercolor.Device

open Lib AList

/-- `DiscoveryConnectBehavior` -/
inductive DiscoveryConnectBehavior where
  | autoConnect
  | deferred

/-- `should_auto_connect` -/
def DiscoveryConnectBehavior.shouldAutoConnect : DiscoveryConnectBehavior → Bool
  | .autoConnect => true
  | .deferred => false

/-- `LifecycleAction` -/
inductive LifecycleAction (Id : Type) where
  | connect (deviceId : Id) (backendId layoutDeviceId : String)
  | disconnect (deviceId : Id) (backendId : String)
  | map (layoutDeviceId backendId : String) (deviceId : Id)
  | unmap (layoutDeviceId : String)
  | spawnReconnect (deviceId : Id) (delay : Nat)
  | cancelReconnect (deviceId : Id)
deriving DecidableEq

/-- `ManagedDevice` -/
structure ManagedDevice (D : Type) where
  stateMachine : DeviceStateMachine D
  backendId : String
  layoutDeviceId : String
  identifier : D
  connectBehavior : DiscoveryConnectBehavior

/-- `DeviceLifecycleManager` -/
structure DeviceLifecycleManager (Id D : Type) where
  devices : Table Id (ManagedDevice D)
  connectInFlight : Table Id Nat
  reconnectScheduled : Finset Id
  reconnectPolicy : ReconnectPolicy
  connectInFlightStaleAfter : Nat

/-- What `on_discovered_with_behavior` derives from the device and its fingerprint. -/
structure Discovered (D : Type) where
  backendId : String
  layoutDeviceId : String
  identifier : D

namespace DeviceLifecycleManager

variable {Id D : Type} [DecidableEq Id]

/-- `with_reconnect_policy`, `with_connect_in_flight_stale_after` -/
def withReconnectPolicy (policy : ReconnectPolicy) (staleAfter : Nat) : DeviceLifecycleManager Id D where
  devices := ∅
  connectInFlight := ∅
  reconnectScheduled := ∅
  reconnectPolicy := policy
  connectInFlightStaleAfter := staleAfter

/-- `connect_action` -/
def connectAction (deviceId : Id) (managed : ManagedDevice D) : LifecycleAction Id :=
  .connect deviceId managed.backendId managed.layoutDeviceId

/-- `disconnect_action` -/
def disconnectAction (deviceId : Id) (managed : ManagedDevice D) : LifecycleAction Id :=
  .disconnect deviceId managed.backendId

variable (mgr : DeviceLifecycleManager Id D) (deviceId : Id)

/-- `mark_connect_in_flight` -/
def markConnectInFlight (now : Nat) : DeviceLifecycleManager Id D :=
  { mgr with connectInFlight := mgr.connectInFlight.insert deviceId now }

/-- `connect_in_flight.remove` -/
def clearConnectInFlight : DeviceLifecycleManager Id D :=
  { mgr with connectInFlight := mgr.connectInFlight.erase deviceId }

/-- `reconnect_scheduled.remove` -/
def cancelScheduled : DeviceLifecycleManager Id D :=
  { mgr with reconnectScheduled := mgr.reconnectScheduled.erase deviceId }

/-- `reconnect_scheduled.insert` -/
def schedule : DeviceLifecycleManager Id D :=
  { mgr with reconnectScheduled := insert deviceId mgr.reconnectScheduled }

/-- Store a managed device after its state machine moved. -/
def store (managed : ManagedDevice D) : DeviceLifecycleManager Id D :=
  { mgr with devices := mgr.devices.insert deviceId managed }

/-- The cancellation a removed schedule asks for. -/
def cancelActions : List (LifecycleAction Id) :=
  if deviceId ∈ mgr.reconnectScheduled then [.cancelReconnect deviceId] else []

/-! ## Handlers -/

/-- The entry of `on_discovered_with_behavior`: the device's entry, created if it is new, with what
discovery found. -/
def discoveredEntry (found : Discovered D) (behavior : DiscoveryConnectBehavior) : ManagedDevice D :=
  let entry := (mgr.devices.lookup deviceId).getD
    { stateMachine := .withPolicy found.identifier mgr.reconnectPolicy
      backendId := found.backendId
      layoutDeviceId := found.layoutDeviceId
      identifier := found.identifier
      connectBehavior := behavior }
  { entry with
    backendId := found.backendId
    layoutDeviceId := found.layoutDeviceId
    connectBehavior := behavior }

/-- `on_discovered_with_behavior` -/
def onDiscovered (found : Discovered D) (behavior : DiscoveryConnectBehavior) (now : Nat) :
    DeviceLifecycleManager Id D × List (LifecycleAction Id) :=
  let managed := mgr.discoveredEntry deviceId found behavior
  let actions := mgr.cancelActions deviceId
  let inFlight := deviceId ∈ mgr.connectInFlight
  let mgr := mgr.cancelScheduled deviceId
  if ¬ behavior.shouldAutoConnect then
    match managed.stateMachine.state with
    | .connected | .active =>
        (mgr.store deviceId { managed with stateMachine := managed.stateMachine.onHotUnplug },
          actions ++ [disconnectAction deviceId managed, .unmap managed.layoutDeviceId])
    | .reconnecting =>
        (mgr.store deviceId { managed with stateMachine := managed.stateMachine.onHotUnplug }, actions)
    | .known | .disabled => (mgr.store deviceId managed, actions)
  else if (managed.stateMachine.state = .known ∨ managed.stateMachine.state = .reconnecting) ∧
      ¬ inFlight then
    ((mgr.store deviceId managed).markConnectInFlight deviceId now,
      actions ++ [connectAction deviceId managed])
  else (mgr.store deviceId managed, actions)

/-- `retry_stale_known_connect` -/
def retryStaleKnownConnect (now : Nat) : DeviceLifecycleManager Id D × Option (LifecycleAction Id) :=
  match mgr.connectInFlight.lookup deviceId, mgr.devices.lookup deviceId with
  | some startedAt, some managed =>
      if now - startedAt < mgr.connectInFlightStaleAfter then (mgr, none)
      else if managed.stateMachine.state ≠ .known ∨ ¬ managed.connectBehavior.shouldAutoConnect then
        (mgr, none)
      else (mgr.markConnectInFlight deviceId now, some (connectAction deviceId managed))
  | _, _ => (mgr, none)

/-- `on_connected` -/
def onConnected (mgr : DeviceLifecycleManager Id D) (deviceId : Id) (handleId now : Nat) :
    DeviceLifecycleManager Id D × Except (DeviceError D) (List (LifecycleAction Id)) :=
  let actions := mgr.cancelActions deviceId
  let mgr := (mgr.clearConnectInFlight deviceId).cancelScheduled deviceId
  match mgr.devices.lookup deviceId with
  | none => (mgr, .error .notFound)
  | some managed =>
      let moved := managed.stateMachine.onConnected ⟨handleId, managed.identifier, managed.backendId⟩ now
      (mgr.store deviceId { managed with stateMachine := moved.1 }, moved.2.map fun _ => actions)

/-- `on_connect_failed` -/
def onConnectFailed (mgr : DeviceLifecycleManager Id D) (deviceId : Id) (now : Nat) :
    DeviceLifecycleManager Id D × Except (DeviceError D) (List (LifecycleAction Id)) :=
  let mgr := mgr.clearConnectInFlight deviceId
  match mgr.devices.lookup deviceId with
  | none => (mgr, .error .notFound)
  | some managed =>
      let moved := managed.stateMachine.onConnectFailed now
      let mgr := mgr.store deviceId { managed with stateMachine := moved.1 }
      match moved.2 with
      | .error error => (mgr, .error error)
      | .ok delay => (mgr.schedule deviceId, .ok [.spawnReconnect deviceId delay])

/-- `on_connect_abandoned` -/
def onConnectAbandoned (mgr : DeviceLifecycleManager Id D) (deviceId : Id) :
    DeviceLifecycleManager Id D × Except (DeviceError D) (List (LifecycleAction Id)) :=
  let actions := mgr.cancelActions deviceId
  let mgr := (mgr.clearConnectInFlight deviceId).cancelScheduled deviceId
  match mgr.devices.lookup deviceId with
  | none => (mgr, .error .notFound)
  | some managed =>
      (mgr.store deviceId { managed with stateMachine := managed.stateMachine.onConnectAbandoned },
        .ok actions)

/-- `on_frame_success` -/
def onFrameSuccess (mgr : DeviceLifecycleManager Id D) (deviceId : Id) :
    DeviceLifecycleManager Id D × Except (DeviceError D) Unit :=
  match mgr.devices.lookup deviceId with
  | none => (mgr, .error .notFound)
  | some managed =>
      let moved := managed.stateMachine.onFrameSuccess
      (mgr.store deviceId { managed with stateMachine := moved.1 }, moved.2)

/-- `reconnect_after` -/
def reconnectAfter
    (transition : DeviceStateMachine D → DeviceStateMachine D × Except (DeviceError D) Unit) :
    DeviceLifecycleManager Id D × Except (DeviceError D) (List (LifecycleAction Id)) :=
  let mgr := mgr.clearConnectInFlight deviceId
  match mgr.devices.lookup deviceId with
  | none => (mgr, .error .notFound)
  | some managed =>
      let moved := transition managed.stateMachine
      let mgr := mgr.store deviceId { managed with stateMachine := moved.1 }
      match moved.2 with
      | .error error => (mgr, .error error)
      | .ok () =>
          let actions := [disconnectAction deviceId managed, .unmap managed.layoutDeviceId]
          match moved.1.reconnect with
          | none => (mgr, .ok actions)
          | some status =>
              (mgr.schedule deviceId, .ok (actions ++ [.spawnReconnect deviceId status.nextRetry]))

/-- `on_comm_error_at` -/
def onCommError (mgr : DeviceLifecycleManager Id D) (deviceId : Id) (now : Nat) :
    DeviceLifecycleManager Id D × Except (DeviceError D) (List (LifecycleAction Id)) :=
  mgr.reconnectAfter deviceId (·.onCommError now)

/-- `on_reconnect_requested` -/
def onReconnectRequested (mgr : DeviceLifecycleManager Id D) (deviceId : Id) (now : Nat) :
    DeviceLifecycleManager Id D × Except (DeviceError D) (List (LifecycleAction Id)) :=
  mgr.reconnectAfter deviceId (·.onReconnectRequested now)

/-- `take_flap_escalation` -/
def takeFlapEscalation (mgr : DeviceLifecycleManager Id D) (deviceId : Id) :
    DeviceLifecycleManager Id D × Option FlapEscalation :=
  match mgr.devices.lookup deviceId with
  | none => (mgr, none)
  | some managed =>
      let moved := managed.stateMachine.takeFlapEscalation
      (mgr.store deviceId { managed with stateMachine := moved.1 }, moved.2)

/-- `on_reconnect_attempt` -/
def onReconnectAttempt (now : Nat) : DeviceLifecycleManager Id D × Option (LifecycleAction Id) :=
  if deviceId ∈ mgr.connectInFlight then (mgr, none)
  else
    match mgr.devices.lookup deviceId with
    | none => (mgr, none)
    | some managed =>
        if managed.stateMachine.state ≠ .reconnecting then (mgr, none)
        else (mgr.markConnectInFlight deviceId now, some (connectAction deviceId managed))

/-- `on_reconnect_failed` -/
def onReconnectFailed (mgr : DeviceLifecycleManager Id D) (deviceId : Id) (now : Nat) :
    DeviceLifecycleManager Id D × Except (DeviceError D) (List (LifecycleAction Id)) :=
  let mgr := mgr.clearConnectInFlight deviceId
  match mgr.devices.lookup deviceId with
  | none => (mgr, .error .notFound)
  | some managed =>
      let moved := managed.stateMachine.onReconnectFailed now
      let mgr := mgr.store deviceId { managed with stateMachine := moved.1 }
      match moved.2 with
      | some delay => (mgr.schedule deviceId, .ok [.spawnReconnect deviceId delay])
      | none => (mgr.cancelScheduled deviceId, .ok (mgr.cancelActions deviceId))

/-- The action lists of `on_device_vanished` and `on_user_disable`: the disconnect of a device that
was rendering, and its unmapping. -/
def teardownActions (deviceId : Id) (managed : ManagedDevice D) : List (LifecycleAction Id) :=
  (if managed.stateMachine.state.isRenderable then [disconnectAction deviceId managed] else []) ++
    [.unmap managed.layoutDeviceId]

/-- `on_device_vanished` -/
def onDeviceVanished : DeviceLifecycleManager Id D × List (LifecycleAction Id) :=
  match mgr.devices.lookup deviceId with
  | none => (mgr, [])
  | some managed =>
      (((mgr.store deviceId { managed with stateMachine := managed.stateMachine.onHotUnplug
          }).clearConnectInFlight deviceId).cancelScheduled deviceId,
        teardownActions deviceId managed ++ mgr.cancelActions deviceId)

/-- `on_user_disable` -/
def onUserDisable (mgr : DeviceLifecycleManager Id D) (deviceId : Id) :
    DeviceLifecycleManager Id D × Except (DeviceError D) (List (LifecycleAction Id)) :=
  let cancel := mgr.cancelActions deviceId
  let mgr := (mgr.cancelScheduled deviceId).clearConnectInFlight deviceId
  match mgr.devices.lookup deviceId with
  | none => (mgr, .error .notFound)
  | some managed =>
      (mgr.store deviceId { managed with stateMachine := managed.stateMachine.onUserDisable },
        .ok (teardownActions deviceId managed ++ cancel))

/-- `on_user_enable` -/
def onUserEnable (mgr : DeviceLifecycleManager Id D) (deviceId : Id) (now : Nat) :
    DeviceLifecycleManager Id D × Except (DeviceError D) (List (LifecycleAction Id)) :=
  match mgr.devices.lookup deviceId with
  | none => (mgr, .error .notFound)
  | some managed =>
      let moved := managed.stateMachine.onUserEnable
      let stored := mgr.store deviceId { managed with stateMachine := moved }
      if managed.stateMachine.state = .disabled ∧ moved.state = .known ∧
          managed.connectBehavior.shouldAutoConnect ∧ deviceId ∉ mgr.connectInFlight then
        (stored.markConnectInFlight deviceId now, .ok [connectAction deviceId managed])
      else (stored, .ok [])

/-- `on_runtime_deactivate` -/
def onRuntimeDeactivate :
    DeviceLifecycleManager Id D × Except (DeviceError D) (List (LifecycleAction Id)) :=
  let cancel := mgr.cancelActions deviceId
  let mgr := (mgr.cancelScheduled deviceId).clearConnectInFlight deviceId
  match mgr.devices.lookup deviceId with
  | none => (mgr, .error .notFound)
  | some managed =>
      let unplugged := { managed with stateMachine := managed.stateMachine.onHotUnplug }
      match managed.stateMachine.state with
      | .connected | .active =>
          (mgr.store deviceId unplugged,
            .ok ([disconnectAction deviceId managed, .unmap managed.layoutDeviceId] ++ cancel))
      | .reconnecting =>
          (mgr.store deviceId unplugged, .ok ([.unmap managed.layoutDeviceId] ++ cancel))
      | .known | .disabled => (mgr, .ok cancel)

/-- `rebind_layout_device_id` -/
def rebindLayoutDeviceId (layoutDeviceId : String) :
    DeviceLifecycleManager Id D × Option (String × String) :=
  match mgr.devices.lookup deviceId with
  | none => (mgr, none)
  | some managed =>
      (mgr.store deviceId { managed with layoutDeviceId := layoutDeviceId },
        some (managed.backendId, managed.layoutDeviceId))

/-! ## Runs -/

/-- A call of the manager, with the clock and the handle id it reads. -/
inductive Event (Id D : Type) where
  | discovered (deviceId : Id) (found : Discovered D) (behavior : DiscoveryConnectBehavior)
      (now : Nat)
  | retryStaleKnownConnect (deviceId : Id) (now : Nat)
  | connected (deviceId : Id) (handleId now : Nat)
  | connectFailed (deviceId : Id) (now : Nat)
  | connectAbandoned (deviceId : Id)
  | frameSuccess (deviceId : Id)
  | commError (deviceId : Id) (now : Nat)
  | reconnectRequested (deviceId : Id) (now : Nat)
  | takeFlapEscalation (deviceId : Id)
  | reconnectAttempt (deviceId : Id) (now : Nat)
  | reconnectFailed (deviceId : Id) (now : Nat)
  | vanished (deviceId : Id)
  | disable (deviceId : Id)
  | enable (deviceId : Id) (now : Nat)
  | deactivate (deviceId : Id)
  | rebindLayout (deviceId : Id) (layoutDeviceId : String)

/-- The actions a fallible handler emits: none with an error. -/
def emitted (result : Except (DeviceError D) (List (LifecycleAction Id))) : List (LifecycleAction Id) :=
  match result with
  | .ok actions => actions
  | .error _ => []

variable (mgr : DeviceLifecycleManager Id D)

/-- The manager a call leaves and the actions it emits. -/
def step : Event Id D → DeviceLifecycleManager Id D × List (LifecycleAction Id)
  | .discovered d found behavior now => mgr.onDiscovered d found behavior now
  | .retryStaleKnownConnect d now => (mgr.retryStaleKnownConnect d now).map id Option.toList
  | .connected d handleId now => (mgr.onConnected d handleId now).map id emitted
  | .connectFailed d now => (mgr.onConnectFailed d now).map id emitted
  | .connectAbandoned d => (mgr.onConnectAbandoned d).map id emitted
  | .frameSuccess d => ((mgr.onFrameSuccess d).1, [])
  | .commError d now => (mgr.onCommError d now).map id emitted
  | .reconnectRequested d now => (mgr.onReconnectRequested d now).map id emitted
  | .takeFlapEscalation d => ((mgr.takeFlapEscalation d).1, [])
  | .reconnectAttempt d now => (mgr.onReconnectAttempt d now).map id Option.toList
  | .reconnectFailed d now => (mgr.onReconnectFailed d now).map id emitted
  | .vanished d => mgr.onDeviceVanished d
  | .disable d => (mgr.onUserDisable d).map id emitted
  | .enable d now => (mgr.onUserEnable d now).map id emitted
  | .deactivate d => (mgr.onRuntimeDeactivate d).map id emitted
  | .rebindLayout d layoutDeviceId => ((mgr.rebindLayoutDeviceId d layoutDeviceId).1, [])

/-- The manager a sequence of calls leaves. -/
def run (events : List (Event Id D)) : DeviceLifecycleManager Id D :=
  events.foldl (fun mgr event => (mgr.step event).1) mgr

/-- The device a call is about. -/
def Event.target : Event Id D → Id
  | .discovered d _ _ _ | .retryStaleKnownConnect d _ | .connected d _ _ | .connectFailed d _
  | .connectAbandoned d | .frameSuccess d | .commError d _ | .reconnectRequested d _
  | .takeFlapEscalation d | .reconnectAttempt d _ | .reconnectFailed d _ | .vanished d | .disable d
  | .enable d _ | .deactivate d | .rebindLayout d _ => d

/-- The events that answer a connect. -/
def Event.Answers (d : Id) : Event Id D → Prop
  | .connected d' _ _ | .connectFailed d' _ | .connectAbandoned d' | .reconnectFailed d' _
  | .vanished d' | .disable d' => d' = d
  | _ => False

/-- The events that withdraw a connect without an answer to it. -/
def Event.Withdraws (d : Id) : Event Id D → Prop
  | .commError d' _ | .reconnectRequested d' _ | .deactivate d' => d' = d
  | _ => False

end DeviceLifecycleManager

end Hypercolor.Device
