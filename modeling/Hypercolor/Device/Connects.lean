import Hypercolor.Device.Calls

/-!
# One connect at a time

**A device is not connected twice at once** (`connect_not_repeated`): between two `Connect` actions
for it, the second not by `retry_stale_known_connect`, lies an event that answers the first or
withdraws it. `on_runtime_deactivate` withdraws: the connect it leaves behind sees that it is no
longer the one awaited.
-/

set_option linter.unusedSectionVars false

namespace Hypercolor.Device

open Lib AList

variable {Id D : Type} [DecidableEq Id]

namespace DeviceLifecycleManager

variable (mgr : DeviceLifecycleManager Id D)

/-- The call emits a `Connect` for the device. -/
def Connects (event : Event Id D) (d : Id) : Prop :=
  ∃ backendId layoutDeviceId, .connect d backendId layoutDeviceId ∈ (mgr.step event).2

/-- The calls of `retry_stale_known_connect`. -/
def Event.Retries (d : Id) : Event Id D → Prop
  | .retryStaleKnownConnect d' _ => d' = d
  | _ => False

/-! ## What a call does to the marks -/

/-- No `Connect` is among the actions. -/
def Quiet (actions : List (LifecycleAction Id)) : Prop :=
  ∀ d backendId layoutDeviceId, .connect d backendId layoutDeviceId ∉ actions

lemma quiet_cancelActions (mgr : DeviceLifecycleManager Id D) (d : Id) : Quiet (mgr.cancelActions d) := by
  unfold cancelActions
  split <;> simp [Quiet]

lemma quiet_teardownActions (d : Id) (m : ManagedDevice D) : Quiet (teardownActions d m) := by
  unfold teardownActions
  split <;> simp [Quiet, disconnectAction]

lemma Quiet.append {actions actions' : List (LifecycleAction Id)} (h : Quiet actions)
    (h' : Quiet actions') : Quiet (actions ++ actions') := by
  intro d bid l hm
  rcases List.mem_append.mp hm with hm | hm
  · exact h _ _ _ hm
  · exact h' _ _ _ hm

lemma quiet_nil : Quiet ([] : List (LifecycleAction Id)) := by simp [Quiet]

/-- What a call can do to the in-flight marks: nothing and no connect; mark its device and connect
nothing else, which a marked device allows only to a stale retry; or clear its device's mark and
connect nothing. -/
inductive Effect (mgr : DeviceLifecycleManager Id D) (event : Event Id D) : Prop where
  | kept (hmarks : (mgr.step event).1.connectInFlight = mgr.connectInFlight)
      (hquiet : Quiet (mgr.step event).2)
  | marked (now : Nat)
      (hmarks : (mgr.step event).1.connectInFlight = mgr.connectInFlight.insert event.target now)
      (hfree : event.target ∉ mgr.connectInFlight ∨ event.Retries event.target)
      (honly : ∀ d, Connects mgr event d → d = event.target)
  | cleared (hends : event.Answers event.target ∨ event.Withdraws event.target)
      (hmarks : (mgr.step event).1.connectInFlight = mgr.connectInFlight.erase event.target)
      (hquiet : Quiet (mgr.step event).2)

section Effects

variable {mgr mgr' : DeviceLifecycleManager Id D} {ev : Event Id D}
  {actions : List (LifecycleAction Id)}

lemma Effect.of_kept (hs : mgr.step ev = (mgr', actions))
    (hm : mgr'.connectInFlight = mgr.connectInFlight) (hq : Quiet actions) : Effect mgr ev :=
  .kept (by rw [hs]; exact hm) (by rw [hs]; exact hq)

lemma Effect.of_marked {now : Nat} {m : ManagedDevice D} (hq : Quiet actions)
    (hs : mgr.step ev = (mgr', actions ++ [connectAction ev.target m]))
    (hmk : mgr'.connectInFlight = mgr.connectInFlight.insert ev.target now)
    (hf : ev.target ∉ mgr.connectInFlight ∨ ev.Retries ev.target) : Effect mgr ev := by
  refine .marked now (by rw [hs]; exact hmk) hf ?_
  rintro d ⟨bid, layout, hm⟩
  rw [hs] at hm
  rcases List.mem_append.mp hm with hm | hm
  · exact absurd hm (hq _ _ _)
  · simp only [connectAction, List.mem_singleton, LifecycleAction.connect.injEq] at hm
    exact hm.1

lemma Effect.of_cleared (hs : mgr.step ev = (mgr', actions))
    (he : ev.Answers ev.target ∨ ev.Withdraws ev.target)
    (hm : mgr'.connectInFlight = mgr.connectInFlight.erase ev.target) (hq : Quiet actions) :
    Effect mgr ev :=
  .cleared he (by rw [hs]; exact hm) (by rw [hs]; exact hq)

end Effects

lemma effect_discovered (mgr : DeviceLifecycleManager Id D) (d : Id) (fd : Discovered D)
    (bh : DiscoveryConnectBehavior) (now : Nat) : Effect mgr (.discovered d fd bh now) := by
  have hs := step_discovered mgr d fd bh now
  have hc := quiet_cancelActions mgr d
  dsimp only at hs
  split_ifs at hs with _ hco
  · exact .of_marked hc hs rfl (.inl hco.2)
  · exact .of_kept hs rfl hc
  · exact .of_kept hs rfl (hc.append (by simp [Quiet, disconnectAction]))
  · exact .of_kept hs rfl (hc.append quiet_nil)
  · exact .of_kept hs rfl hc

section

variable {mgr : DeviceLifecycleManager Id D} {m : ManagedDevice D} {ev : Event Id D}

/-- Both callers of `reconnect_after` clear the mark, also when the transition is refused. -/
lemma effect_reconnectAfter (ev : Event Id D)
    (tr : DeviceStateMachine D → DeviceStateMachine D × Except (DeviceError D) Unit)
    (h : mgr.devices.lookup ev.target = some m)
    (hs : mgr.step ev = (mgr.reconnectAfter ev.target tr).map id emitted)
    (he : ev.Withdraws ev.target) : Effect mgr ev := by
  rw [reconnectAfter_tracked h] at hs
  split at hs <;> exact .of_cleared hs (.inr he) rfl (by simp [Quiet, disconnectAction])

lemma effect_tracked (h : mgr.devices.lookup ev.target = some m) : Effect mgr ev := by
  have hc := quiet_cancelActions mgr ev.target
  have ht := (quiet_teardownActions ev.target m).append hc
  cases ev with
  | discovered d fd bh now => exact effect_discovered mgr d fd bh now
  | retryStaleKnownConnect d now =>
    rcases step_retryStaleKnownConnect h now with hs | ⟨-, hs⟩
    · exact .of_kept hs rfl quiet_nil
    · exact .of_marked quiet_nil hs rfl (.inr rfl)
  | connected d handleId now =>
    refine .of_cleared (step_connected h handleId now) (.inl rfl) rfl ?_
    rcases (m.stateMachine.onConnected _ now).2 with e | ⟨⟩
    · exact quiet_nil
    · exact hc
  | connectFailed d now =>
    have hs := step_connectFailed h now
    split at hs <;> exact .of_cleared hs (.inl rfl) rfl (by simp [Quiet])
  | connectAbandoned d => exact .of_cleared (step_connectAbandoned h) (.inl rfl) rfl hc
  | frameSuccess d => exact .of_kept (step_frameSuccess h) rfl quiet_nil
  | commError d now => exact effect_reconnectAfter (.commError d now) (·.onCommError now) h rfl rfl
  | reconnectRequested d now =>
    exact effect_reconnectAfter (.reconnectRequested d now) (·.onReconnectRequested now) h rfl rfl
  | takeFlapEscalation d => exact .of_kept (step_takeFlapEscalation h) rfl quiet_nil
  | reconnectAttempt d now =>
    have hs := step_reconnectAttempt h now
    split_ifs at hs with hf
    · exact .of_marked quiet_nil hs rfl (.inl hf.1)
    · exact .of_kept hs rfl quiet_nil
  | reconnectFailed d now =>
    have hs := step_reconnectFailed h now
    split at hs
    · exact .of_cleared hs (.inl rfl) rfl (by simp [Quiet])
    · exact .of_cleared hs (.inl rfl) rfl hc
  | vanished d => exact .of_cleared (step_vanished h) (.inl rfl) rfl ht
  | disable d => exact .of_cleared (step_disable h) (.inl rfl) rfl ht
  | enable d now =>
    rcases step_enable h now with hs | ⟨-, hf, hs⟩
    · exact .of_kept hs rfl quiet_nil
    · exact .of_marked quiet_nil hs rfl (.inl hf)
  | deactivate d =>
    have hs := step_deactivate h
    split_ifs at hs
    · exact .of_cleared hs (.inr rfl) rfl ht
    · exact .of_cleared hs (.inr rfl) rfl hc
  | rebindLayout d l => exact .of_kept (step_rebindLayout h l) rfl quiet_nil

end

lemma effect (mgr : DeviceLifecycleManager Id D) (ev : Event Id D) : Effect mgr ev := by
  rcases hf : mgr.devices.lookup ev.target with _ | m
  · by_cases hd : ∃ d fd bh now, ev = .discovered d fd bh now
    · obtain ⟨d, fd, bh, now, rfl⟩ := hd
      exact effect_discovered mgr d fd bh now
    · obtain ⟨-, ha, -, hm | ⟨he, hm⟩⟩ := step_untracked hf fun d fd bh now he => hd ⟨d, fd, bh, now, he⟩
      · exact .kept hm (ha ▸ quiet_nil)
      · exact .cleared he hm (ha ▸ quiet_nil)
  · exact effect_tracked hf

/-! ## Runs -/

variable {mgr : DeviceLifecycleManager Id D} {d : Id}

/-- A call that connects a device marks it. -/
lemma Connects.marks (h : Connects mgr ev d) : d ∈ (mgr.step ev).1.connectInFlight := by
  obtain ⟨bid, layout, hm⟩ := h
  cases effect mgr ev with
  | kept _ hq | cleared _ _ hq => exact absurd hm (hq _ _ _)
  | marked now hmk _ hon =>
    rw [hmk, hon d ⟨bid, layout, hm⟩]
    exact (mem_insert _).mpr (.inl rfl)

/-- A mark stays until an event answers or withdraws the connect. -/
lemma mark_kept (h : d ∈ mgr.connectInFlight) (ha : ¬ ev.Answers d)
    (hw : ¬ ev.Withdraws d) : d ∈ (mgr.step ev).1.connectInFlight := by
  cases effect mgr ev with
  | kept hm _ => rwa [hm]
  | marked now hm _ _ =>
    rw [hm]
    exact (mem_insert _).mpr (.inr h)
  | cleared he hm _ =>
    rw [hm]
    refine mem_erase.mpr ⟨?_, h⟩
    rintro rfl
    exact he.elim ha hw

/-- A marked device is connected only by a stale retry. -/
lemma not_connects_of_mark (h : d ∈ mgr.connectInFlight) (hr : ¬ ev.Retries d) : ¬ Connects mgr ev d := by
  rintro ⟨bid, layout, hm⟩
  cases effect mgr ev with
  | kept _ hq | cleared _ _ hq => exact hq _ _ _ hm
  | marked now _ hf hon =>
    obtain rfl := hon d ⟨bid, layout, hm⟩
    exact hf.elim (fun hf => hf h) hr

/-- The mark after a run of events none of which ends the connect. -/
lemma mark_kept_run {es : List (Event Id D)} (h : d ∈ mgr.connectInFlight)
    (hb : ∀ ev ∈ es, ¬ ev.Answers d ∧ ¬ ev.Withdraws d) : d ∈ (mgr.run es).connectInFlight := by
  induction es generalizing mgr with
  | nil => exact h
  | cons ev es ih =>
    obtain ⟨ha, hw⟩ := hb ev (by simp)
    exact ih (mark_kept h ha hw) fun e he => hb e (by simp [he])

/-- **No second connect while one is outstanding.** After any run that ends in a `Connect` for a
device, and any further events none of which answers or withdraws it, only a stale retry connects
that device again. -/
theorem connect_not_repeated (policy : ReconnectPolicy) (staleAfter : Nat)
    (before between : List (Event Id D)) (first second : Event Id D) (d : Id)
    (hfirst : Connects ((withReconnectPolicy policy staleAfter).run before) first d)
    (hbetween : ∀ event ∈ between, ¬ event.Answers d ∧ ¬ event.Withdraws d)
        (hsecond : ¬ second.Retries d) :
    ¬ Connects (((withReconnectPolicy policy staleAfter).run (before ++ first :: between))) second d := by
  have hr : (withReconnectPolicy policy staleAfter).run (before ++ first :: between) =
      (((withReconnectPolicy policy staleAfter).run before).step first).1.run between := by
    simp [run]
  rw [hr]
  exact not_connects_of_mark (mark_kept_run hfirst.marks hbetween) hsecond

/-- A policy and two devices' worth of calls for the two theorems below. -/
def steadyPolicy : ReconnectPolicy := ⟨10 ^ 9, none, fun delay _ => 2 * delay⟩

def found : Discovered Unit := ⟨"usb", "usb:keyboard", ()⟩

/-- A device found again while it connects. -/
theorem connect_not_repeated_rediscovered : ¬ Connects ((withReconnectPolicy steadyPolicy 60).run
      [.discovered 7 found .autoConnect 0, .frameSuccess 7])
      (.discovered (7 : Nat) found .autoConnect 5) 7 := by
  refine connect_not_repeated steadyPolicy 60 [] [.frameSuccess 7]
    (.discovered 7 found .autoConnect 0) _ 7 ?_ ?_ nofun
  · exact ⟨"usb", "usb:keyboard", by decide⟩
  · simp [Event.Answers, Event.Withdraws]

/-- Deactivating a device whose connect is under way lets the next discovery connect it again. -/
theorem connect_repeated_after_deactivate :
    ¬ ∀ (policy : ReconnectPolicy) (staleAfter : Nat) (before between : List (Event Nat Unit))
      (first second : Event Nat Unit) (d : Nat),
      Connects ((withReconnectPolicy policy staleAfter).run before) first d →
      (∀ event ∈ between, ¬ event.Answers d) → ¬ second.Retries d →
      ¬ Connects ((withReconnectPolicy policy staleAfter).run (before ++ first :: between)) second d := by
  intro h
  refine h steadyPolicy 60 [] [.deactivate 7] (.discovered 7 found .autoConnect 0)
    (.discovered 7 found .autoConnect 5) 7 ⟨"usb", "usb:keyboard", by decide⟩ ?_ nofun
    ⟨"usb", "usb:keyboard", by decide⟩
  simp [Event.Answers]

end DeviceLifecycleManager

end Hypercolor.Device
