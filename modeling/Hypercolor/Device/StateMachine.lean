import Mathlib.Algebra.Order.Ring.Nat
import Hypercolor.Lib.Machine

/-!
# The device state machine

`device/state_machine.rs`: `DeviceStateMachine`, one physical device's lifecycle with its reconnect
backoff and flap tracking, and when its fields agree with its state.

* A handle should be held exactly in `Connected` and `Active`, a reconnect status exactly in
  `Reconnecting` (`Consistent`). **This holds along a run exactly as long as no connect is abandoned
  while the device is connected** (`consistent_iff_timely`): `on_connect_abandoned` drops the handle
  in every state but changes only `Reconnecting`.
* Instants and durations are naturals. `grow_delay` computes in `f64`; it is a field of the policy.
  The transition history, which only the debug snapshot reads, is left out.
-/

namespace Hypercolor.Device

open Lib

/-! ## State -/

/-- `DeviceState` -/
inductive DeviceState where
  | known
  | connected
  | active
  | reconnecting
  | disabled
deriving DecidableEq

/-- `is_renderable` -/
def DeviceState.isRenderable : DeviceState → Bool
  | .connected | .active => true
  | .known | .reconnecting | .disabled => false

/-- `DeviceHandle` -/
structure DeviceHandle (D : Type) where
  id : Nat
  deviceId : D
  backendId : String

/-- `ReconnectPolicy` -/
structure ReconnectPolicy where
  initialDelay : Nat
  maxAttempts : Option Nat
  /-- `grow_delay`: one backoff step from a delay, for a retry count. -/
  growDelay : Nat → Nat → Nat

/-- `ReconnectStatus` -/
structure ReconnectStatus where
  since : Nat
  attempt : Nat
  nextRetry : Nat

/-- `FlapEscalation` -/
structure FlapEscalation where
  flaps : Nat
  nextRetry : Nat

/-- `FlapTracker` -/
structure FlapTracker where
  connectedAt : Option Nat
  unprovenDelay : Option Nat
  flaps : Nat
  escalationPending : Bool

/-- `FlapTracker::default` -/
instance : Inhabited FlapTracker where
  default := ⟨none, none, 0, false⟩

/-- `DeviceStateMachine` -/
structure DeviceStateMachine (D : Type) where
  state : DeviceState
  deviceId : D
  handle : Option (DeviceHandle D)
  reconnect : Option ReconnectStatus
  reconnectPolicy : ReconnectPolicy
  flap : FlapTracker

/-- The two variants of `DeviceError` the lifecycle returns -/
inductive DeviceError (D : Type) where
  | invalidTransition (device : D) (origin target : DeviceState)
  | notFound

/-- `RECONNECT_STABLE_AFTER`: nanoseconds. -/
def reconnectStableAfter : Nat := 10 * 10 ^ 9

/-- `FLAP_ESCALATION_THRESHOLD` -/
def flapEscalationThreshold : Nat := 3

def u32Max : Nat := 2 ^ 32 - 1

namespace DeviceStateMachine

variable {D : Type}

/-- `with_policy` -/
def withPolicy (deviceId : D) (reconnectPolicy : ReconnectPolicy) : DeviceStateMachine D where
  state := .known
  deviceId := deviceId
  handle := none
  reconnect := none
  reconnectPolicy := reconnectPolicy
  flap := default

/-! ## Events -/

variable (m : DeviceStateMachine D)

/-- `take_flap_escalation` -/
def takeFlapEscalation : DeviceStateMachine D × Option FlapEscalation :=
  let taken := { m with flap := { m.flap with escalationPending := false } }
  if m.flap.escalationPending then
    (taken, some ⟨m.flap.flaps,
        m.reconnect.elim m.reconnectPolicy.initialDelay ReconnectStatus.nextRetry⟩)
  else (taken, none)

/-- `invalid_transition` -/
def invalidTransition {α : Type} (m : DeviceStateMachine D) (target : DeviceState) :
    DeviceStateMachine D × Except (DeviceError D) α :=
  (m, .error (.invalidTransition m.deviceId m.state target))

/-- `on_connected_at` -/
def onConnected (handle : DeviceHandle D) (now : Nat) :
    DeviceStateMachine D × Except (DeviceError D) Unit :=
  match m.state with
  | .known | .reconnecting =>
      ({ m with
        handle := some handle
        flap := { m.flap with
          connectedAt := some now
          unprovenDelay := m.reconnect.map ReconnectStatus.nextRetry }
        reconnect := none
        state := .connected }, .ok ())
  | .connected | .active | .disabled => m.invalidTransition .connected

variable (now : Nat)

/-- `on_connect_failed` -/
def onConnectFailed : DeviceStateMachine D × Except (DeviceError D) Nat :=
  let fresh : ReconnectStatus := ⟨now, 0, m.reconnectPolicy.initialDelay⟩
  match m.state with
  | .known =>
      ({ m with handle := none, reconnect := some fresh, state := .reconnecting },
        .ok m.reconnectPolicy.initialDelay)
  | .reconnecting =>
      let status := m.reconnect.getD fresh
      ({ m with reconnect := some status }, .ok status.nextRetry)
  | .connected | .active | .disabled => m.invalidTransition .reconnecting

/-- `on_connect_abandoned` -/
def onConnectAbandoned : DeviceStateMachine D :=
  { m with
    handle := none
    reconnect := none
    flap := default
    state := if m.state = .reconnecting then .known else m.state }

/-- `on_frame_success` -/
def onFrameSuccess : DeviceStateMachine D × Except (DeviceError D) Unit :=
  match m.state with
  | .connected => ({ m with state := .active }, .ok ())
  | .active => (m, .ok ())
  | .known | .reconnecting | .disabled => m.invalidTransition .active

/-- `unstable_reconnect_delay` of `on_comm_error_at`: the delay of a reconnect that did not last, if
the connection that just failed is one. -/
def unstableReconnectDelay (flap : FlapTracker) (now : Nat) : Option Nat :=
  flap.unprovenDelay.filter fun _ =>
    flap.connectedAt.any fun connectedAt => now - connectedAt < reconnectStableAfter

/-- The middle part of `on_comm_error_at`: the tracker after a communication error, and the delay of
the next retry. -/
def flapAfterError : FlapTracker × Nat :=
  match unstableReconnectDelay m.flap now with
  | some previous =>
      let flaps := min (m.flap.flaps + 1) u32Max
      (⟨none, none, flaps, flaps = flapEscalationThreshold⟩, m.reconnectPolicy.growDelay previous flaps)
  | none => (default, m.reconnectPolicy.initialDelay)

/-- `on_comm_error_at` -/
def onCommError : DeviceStateMachine D × Except (DeviceError D) Unit :=
  match m.state with
  | .connected | .active =>
      let (flap, nextRetry) := m.flapAfterError now
      ({ m with
        flap := flap
        handle := none
        reconnect := some ⟨now, 0, nextRetry⟩
        state := .reconnecting }, .ok ())
  | .known | .reconnecting | .disabled => m.invalidTransition .reconnecting

/-- `on_reconnect_requested_at` -/
def onReconnectRequested : DeviceStateMachine D × Except (DeviceError D) Unit :=
  match m.state with
  | .connected | .active =>
      let provedStable :=
        m.flap.connectedAt.all fun connectedAt => reconnectStableAfter ≤ now - connectedAt
      ({ m with
        flap := ⟨none, none, if provedStable then 0 else m.flap.flaps, false⟩
        handle := none
        reconnect := some ⟨now, 0, m.reconnectPolicy.initialDelay⟩
        state := .reconnecting }, .ok ())
  | .known | .reconnecting | .disabled => m.invalidTransition .reconnecting

/-- `on_reconnect_failed` -/
def onReconnectFailed : DeviceStateMachine D × Option Nat :=
  match m.reconnect with
  | none => (m, none)
  | some status =>
      let attempt := min (status.attempt + 1) u32Max
      if m.reconnectPolicy.maxAttempts.any (· ≤ attempt) then
        ({ m with handle := none, reconnect := none, flap := default, state := .known }, none)
      else
        let next := m.reconnectPolicy.growDelay status.nextRetry attempt
        ({ m with reconnect := some ⟨now, attempt, next⟩ }, some next)

/-- `on_user_disable` -/
def onUserDisable : DeviceStateMachine D :=
  { m with handle := none, reconnect := none, flap := default, state := .disabled }

/-- `on_user_enable` -/
def onUserEnable : DeviceStateMachine D :=
  { m with state := if m.state = .disabled then .known else m.state }

/-- `on_hot_unplug` -/
def onHotUnplug : DeviceStateMachine D :=
  { m with handle := none, reconnect := none, flap := default, state := .known }

/-- A public event, with the clock it reads. -/
inductive Event (D : Type) where
  | connected (handle : DeviceHandle D) (now : Nat)
  | connectFailed (now : Nat)
  | connectAbandoned
  | frameSuccess
  | commError (now : Nat)
  | reconnectRequested (now : Nat)
  | reconnectFailed (now : Nat)
  | userDisable
  | userEnable
  | hotUnplug
  | takeFlapEscalation

/-- The state an event leaves. -/
def apply : Event D → DeviceStateMachine D
  | .connected handle now => (m.onConnected handle now).1
  | .connectFailed now => (m.onConnectFailed now).1
  | .connectAbandoned => m.onConnectAbandoned
  | .frameSuccess => m.onFrameSuccess.1
  | .commError now => (m.onCommError now).1
  | .reconnectRequested now => (m.onReconnectRequested now).1
  | .reconnectFailed now => (m.onReconnectFailed now).1
  | .userDisable => m.onUserDisable
  | .userEnable => m.onUserEnable
  | .hotUnplug => m.onHotUnplug
  | .takeFlapEscalation => m.takeFlapEscalation.1

/-- The state a sequence of events leaves. -/
def run (events : List (Event D)) : DeviceStateMachine D :=
  events.foldl apply m

/-! ## Consistency -/

/-- A machine waits to reconnect exactly while it is reconnecting. -/
def Waits (machine : DeviceStateMachine D) : Prop :=
  machine.reconnect.isSome ↔ machine.state = .reconnecting

/-- The fields agree with the state. -/
structure Consistent (m : DeviceStateMachine D) : Prop where
  handle_iff : m.handle.isSome ↔ m.state = .connected ∨ m.state = .active
  reconnect_iff : m.reconnect.isSome ↔ m.state = .reconnecting

/-- No connect is abandoned while the device is connected. -/
def Timely (event : Event D) : Prop :=
  event = .connectAbandoned → ¬ m.state.isRenderable

/-- Every event of a run is timely in the state it meets. -/
def TimelyRun (m : DeviceStateMachine D) : List (Event D) → Prop
  | [] => True
  | event :: events => Timely m event ∧ TimelyRun (m.apply event) events

variable {m : DeviceStateMachine D}

lemma withPolicy_consistent (d : D) (pol : ReconnectPolicy) : Consistent (withPolicy d pol) :=
  ⟨by simp [withPolicy], by simp [withPolicy]⟩

/-- Abandoning keeps the agreement unless it drops the handle of a connected device. -/
lemma onConnectAbandoned_consistent_iff (m : DeviceStateMachine D) :
    Consistent m.onConnectAbandoned ↔ ¬ m.state.isRenderable := by
  constructor
  · rintro ⟨hh, -⟩ hr
    cases hs : m.state <;> simp_all [onConnectAbandoned, DeviceState.isRenderable]
  · intro hr
    constructor <;> cases hs : m.state <;>
      simp_all [onConnectAbandoned, DeviceState.isRenderable]

/-- Every event keeps the second half, and every other event the first. -/
lemma apply_keeps (hr : m.Waits) (e : Event D) : (m.apply e).Waits ∧ (e ≠ .connectAbandoned →
    (m.handle.isSome ↔ m.state = .connected ∨ m.state = .active) →
    ((m.apply e).handle.isSome ↔ (m.apply e).state = .connected ∨ (m.apply e).state = .active)) := by
  unfold Waits at hr ⊢
  cases e with
  | connected hd now =>
    unfold apply onConnected
    cases hst : m.state <;> refine ⟨?_, fun _ hh => ?_⟩ <;> simp_all [invalidTransition]
  | connectFailed now =>
    unfold apply onConnectFailed
    cases hst : m.state <;> refine ⟨?_, fun _ hh => ?_⟩ <;> simp_all [invalidTransition]
  | connectAbandoned =>
    unfold apply onConnectAbandoned
    refine ⟨?_, fun hn => absurd rfl hn⟩
    cases hst : m.state <;> simp
  | frameSuccess =>
    unfold apply onFrameSuccess
    cases hst : m.state <;> refine ⟨?_, fun _ hh => ?_⟩ <;> simp_all [invalidTransition]
  | commError now =>
    unfold apply onCommError
    cases hst : m.state <;> refine ⟨?_, fun _ hh => ?_⟩ <;> simp_all [invalidTransition]
  | reconnectRequested now =>
    unfold apply onReconnectRequested
    cases hst : m.state <;> refine ⟨?_, fun _ hh => ?_⟩ <;> simp_all [invalidTransition]
  | reconnectFailed now =>
    unfold apply onReconnectFailed
    cases hs : m.reconnect with
    | none => exact ⟨by simp_all, fun _ hh => hh⟩
    | some status =>
      -- Only a reconnecting device has a status.
      have hst : m.state = .reconnecting := hr.mp (by rw [hs]; rfl)
      simp only
      split <;> refine ⟨?_, fun _ hh => ?_⟩ <;> simp_all
  | userDisable => simp [apply, onUserDisable]
  | userEnable =>
    unfold apply onUserEnable
    cases hst : m.state <;> refine ⟨?_, fun _ hh => ?_⟩ <;> simp_all
  | hotUnplug => simp [apply, onHotUnplug]
  | takeFlapEscalation =>
    unfold apply takeFlapEscalation
    simp only
    split <;> exact ⟨hr, fun _ hh => hh⟩

lemma Waits.apply (h : m.Waits) (e : Event D) : (m.apply e).Waits := (apply_keeps h e).1

lemma Waits.run (h : m.Waits) (es : List (Event D)) : (m.run es).Waits := by
  induction es generalizing m with
  | nil => exact h
  | cons e es ih => exact ih (h.apply e)

lemma waits_withPolicy (d : D) (pol : ReconnectPolicy) : (withPolicy d pol).Waits := by
  simp [Waits, withPolicy]

lemma apply_consistent (hm : Consistent m) {e : Event D} (hn : e ≠ .connectAbandoned) :
    Consistent (m.apply e) :=
  ⟨(apply_keeps hm.reconnect_iff e).2 hn hm.handle_iff, (apply_keeps hm.reconnect_iff e).1⟩

lemma apply_consistent_iff (hm : Consistent m) (e : Event D) : Consistent (m.apply e) ↔ Timely m e := by
  by_cases he : e = .connectAbandoned
  · subst he
    exact (onConnectAbandoned_consistent_iff m).trans ⟨fun h _ => h, fun h => h rfl⟩
  · exact iff_of_true (apply_consistent hm he) fun h => absurd h he

/-- **The fields agree with the state throughout a run exactly if every event of it is timely.** -/
theorem consistent_iff_timely (deviceId : D) (policy : ReconnectPolicy) (events : List (Event D)) :
    (∀ before, before <+: events → Consistent ((withPolicy deviceId policy).run before)) ↔
      TimelyRun (withPolicy deviceId policy) events := by
  have hs := withPolicy_consistent deviceId policy
  -- The induction starts from any consistent state.
  generalize withPolicy deviceId policy = m at hs ⊢
  induction events generalizing m with
  | nil =>
    refine iff_of_true (fun before hbe => ?_) trivial
    rw [List.prefix_nil.mp hbe]
    exact hs
  | cons event events ih =>
    constructor
    · intro h
      have hf : Consistent (m.apply event) := h [event] ⟨events, rfl⟩
      refine ⟨(apply_consistent_iff hs event).mp hf, (ih _ hf).mp fun before hb => ?_⟩
      exact h (event :: before) (List.cons_prefix_cons.mpr ⟨rfl, hb⟩)
    · rintro ⟨ht, hr⟩ before hbe
      have hf := (apply_consistent_iff hs event).mpr ht
      cases before with
      | nil => exact hs
      | cons event' before =>
        obtain ⟨rfl, hb⟩ := List.cons_prefix_cons.mp hbe
        exact (ih _ hf).mpr hr before hb

/-- A connect that succeeded is abandoned: the device stays `Connected` without a handle. -/
theorem inconsistent_after_late_abandon : ¬ ∀ (policy : ReconnectPolicy) (events : List (Event Unit)),
      Consistent ((withPolicy () policy).run events) := by
  intro h
  have hb := (h ⟨10 ^ 9, none, fun delay _ => 2 * delay⟩
    [.connected ⟨1, (), "usb"⟩ 0, .connectAbandoned]).handle_iff
  simp [run, apply, withPolicy, onConnected, onConnectAbandoned] at hb

end DeviceStateMachine

end Hypercolor.Device
