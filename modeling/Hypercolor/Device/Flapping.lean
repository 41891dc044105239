import Hypercolor.Device.StateMachine
import Mathlib.Data.List.Induction

/-!
# Flap escalation

A streak is a row of unstable reconnects: connections that a retry brought back and a communication
error ended inside the stability window. `Streak` reads it off the events and the states they met.
**`flap_escalation`**: an escalation is reported exactly where the streak reached its third unstable
reconnect and nothing since took or withdrew it, at most once in a streak, and a connection that
outlived the window ends the streak.
-/

namespace Hypercolor.Device

open List DeviceState

/-- When the live connection began and whether a retry brought it, and the unstable reconnects in a
row. -/
structure Streak where
  connection : Option (Nat × Bool)
  length : Nat

namespace Streak

/-- The live connection outlived the window. -/
def lasted (s : Streak) (now : Nat) : Bool :=
  s.connection.all fun c => reconnectStableAfter ≤ now - c.1

/-- The live connection is a reconnect inside the window. -/
def unstable (s : Streak) (now : Nat) : Bool :=
  s.connection.any fun c => c.2 && decide (now - c.1 < reconnectStableAfter)

lemma unstable_of_lasted {s : Streak} {now : Nat} (h : s.lasted now) : s.unstable now = false := by
  unfold lasted at h
  unfold unstable
  rcases hc : s.connection with _ | ⟨since, retried⟩ <;> simp_all

/-- The streak after an event that led from `origin` to `target`. -/
def next {D : Type} (s : Streak) (origin target : DeviceState) : DeviceStateMachine.Event D → Streak
  | .connected _ now =>
      if origin = .known ∨ origin = .reconnecting then
        ⟨some (now, origin = .reconnecting), s.length⟩
      else s
  | .commError now =>
      if origin.isRenderable then ⟨none, if s.unstable now then s.length + 1 else 0⟩ else s
  | .reconnectRequested now =>
      if origin.isRenderable then ⟨none, if s.lasted now then 0 else s.length⟩ else s
  | .reconnectFailed _ => if origin = .reconnecting ∧ target = .known then ⟨none, 0⟩ else s
  | .connectAbandoned | .userDisable | .hotUnplug => ⟨none, 0⟩
  | .connectFailed _ | .frameSuccess | .userEnable | .takeFlapEscalation => s

end Streak

namespace DeviceStateMachine

variable {D : Type}

lemma takeFlapEscalation_isSome (m : DeviceStateMachine D) :
    m.takeFlapEscalation.2.isSome = m.flap.escalationPending := by
  unfold takeFlapEscalation
  cases m.flap.escalationPending <;> rfl

/-- A machine with the streak of its events so far. -/
structure Watched (D : Type) where
  machine : DeviceStateMachine D
  streak : Streak

namespace Watched

def start (deviceId : D) (policy : ReconnectPolicy) : Watched D :=
  ⟨withPolicy deviceId policy, ⟨none, 0⟩⟩

def step (w : Watched D) (event : Event D) : Watched D :=
  ⟨w.machine.apply event, w.streak.next w.machine.state (w.machine.apply event).state event⟩

def run (w : Watched D) (events : List (Event D)) : Watched D := events.foldl step w

lemma run_machine (w : Watched D) (es : List (Event D)) : (w.run es).machine = w.machine.run es := by
  induction es generalizing w with
  | nil => rfl
  | cons e es ih => exact ih (w.step e)

/-- The event neither takes an escalation nor withdraws it: it ends no live connection, and the
streak goes on. -/
def Leaves (w : Watched D) (event : Event D) : Prop :=
  event ≠ .takeFlapEscalation ∧ (w.step event).streak.length ≠ 0 ∧ (w.machine.state.isRenderable →
      ∀ now, event ≠ .commError now ∧ event ≠ .reconnectRequested now)

/-- Every event leaves the escalation, in the state it meets. -/
def LeavesRun (w : Watched D) : List (Event D) → Prop
  | [] => True
  | event :: events => w.Leaves event ∧ (w.step event).LeavesRun events

/-- The tracker tells the streak. -/
structure Tracks (w : Watched D) : Prop where
  flaps : w.machine.flap.flaps = min w.streak.length u32Max
  connectedAt : w.machine.flap.connectedAt = w.streak.connection.map Prod.fst
  unproven : w.machine.flap.unprovenDelay.isSome = w.streak.connection.any Prod.snd
  reconnect : w.machine.reconnect.isSome ↔ w.machine.state = .reconnecting
  pending : w.machine.flap.escalationPending → w.streak.length = 3

variable {w : Watched D}

lemma tracks_start (d : D) (pol : ReconnectPolicy) : (start d pol).Tracks := by
  constructor <;> simp [start, withPolicy, default]

/-- A fresh tracker and no streak. -/
lemma tracks_reset (hst : w.machine.reconnect.isSome ↔ w.machine.state = .reconnecting)
    (hf : w.machine.flap = default) (hs : w.streak = ⟨none, 0⟩) : w.Tracks := by
  constructor <;> simp_all [default, u32Max]

lemma unstable_eq (h : w.Tracks) (now : Nat) :
    (unstableReconnectDelay w.machine.flap now).isSome = w.streak.unstable now := by
  have hu := h.unproven
  rw [unstableReconnectDelay, Streak.unstable, Option.isSome_filter, h.connectedAt]
  rcases hc : w.streak.connection with _ | ⟨since, retried⟩ <;>
    rcases hd : w.machine.flap.unprovenDelay with _ | delay <;> rw [hc, hd] at hu <;>
    simp_all

lemma lasted_eq (h : w.Tracks) (now : Nat) :
    (w.machine.flap.connectedAt.all fun connectedAt => reconnectStableAfter ≤ now - connectedAt) =
      w.streak.lasted now := by
  rw [h.connectedAt, Streak.lasted, Option.all_map]

/-- An escalation that stays pending stays in a streak of three. -/
lemma pending_iff (h : w.Tracks) : w.machine.flap.escalationPending ↔
    w.streak.length = 2 ∧ w.streak.length = 3 ∨ w.machine.flap.escalationPending ∧
      w.streak.length ≠ 0 := by
  constructor
  · exact fun hp => .inr ⟨hp, by simp [h.pending hp]⟩
  · rintro (⟨h2, h3⟩ | ⟨hp, -⟩)
    · omega
    · exact hp

/-- A step keeps the agreement; and an escalation is pending after it if the step brought the streak
to three, or if one was and the step leaves it. -/
lemma tracks_step (h : w.Tracks) (e : Event D) : (w.step e).Tracks ∧
    ((w.step e).machine.flap.escalationPending ↔ w.streak.length = 2 ∧ (w.step e).streak.length = 3 ∨
        w.machine.flap.escalationPending ∧ w.Leaves e) := by
  obtain ⟨hf, hc, hu, hr, hp⟩ := id h
  cases e with
  | connected | connectFailed | frameSuccess =>
    simp only [step, apply, onConnected, onConnectFailed, onFrameSuccess, Streak.next, Leaves]
    cases hst : w.machine.state <;>
      refine ⟨?_, by simpa [invalidTransition] using pending_iff h⟩ <;> constructor
    all_goals simp_all [invalidTransition]
  | connectAbandoned =>
    refine ⟨tracks_reset ?_ rfl rfl, by
      simp [step, apply, onConnectAbandoned, Streak.next, Leaves, default]⟩
    by_cases hst : w.machine.state = .reconnecting <;>
      simp [step, apply, onConnectAbandoned, hst]
  | commError now =>
    have hde := unstable_eq h now
    simp only [step, apply, onCommError, Streak.next, Leaves, flapAfterError]
    cases hst : w.machine.state
    case connected | active =>
      rcases hd : unstableReconnectDelay w.machine.flap now with _ | delay <;> rw [hd] at hde
      · refine ⟨?_, by simp [isRenderable, default, ← hde]⟩
        constructor <;> simp [isRenderable, default, ← hde]
      · have hm : min (min w.streak.length u32Max + 1) u32Max = min
            (w.streak.length + 1) u32Max := by omega
        have ht : min (w.streak.length + 1) u32Max = flapEscalationThreshold ↔ w.streak.length = 2 := by
          simp only [u32Max, flapEscalationThreshold]
          omega
        refine ⟨?_, by simp [isRenderable, ← hde, hf, hm, ht]⟩
        constructor <;> simp [isRenderable, ← hde, hf, hm, ht]
    all_goals
      refine ⟨by constructor <;> simp_all [invalidTransition, isRenderable], ?_⟩
      simpa [invalidTransition, isRenderable] using pending_iff h
  | reconnectRequested now =>
    have hl := lasted_eq h now
    simp only [step, apply, onReconnectRequested, Streak.next, Leaves]
    cases hst : w.machine.state
    case connected | active =>
      rw [hl]
      cases w.streak.lasted now
      · refine ⟨?_, ?_⟩
        · constructor <;> simp [isRenderable, hf]
        · simp [isRenderable]
          omega
      · refine ⟨?_, by simp [isRenderable]⟩
        constructor <;> simp [isRenderable]
    all_goals
      refine ⟨by constructor <;> simp_all [invalidTransition, isRenderable], ?_⟩
      simpa [invalidTransition, isRenderable] using pending_iff h
  | reconnectFailed now =>
    simp only [step, apply, onReconnectFailed, Streak.next, Leaves]
    cases hs : w.machine.reconnect with
    | none =>
      have hst : w.machine.state ≠ .reconnecting := fun hst => by simp [hs, hst] at hr
      refine ⟨?_, by simpa [hst] using pending_iff h⟩
      constructor <;> simp_all
    | some status =>
      have hst : w.machine.state = .reconnecting := hr.mp (by rw [hs]; rfl)
      simp only
      split
      · exact ⟨tracks_reset (by simp) rfl (by simp [hst]), by simp [hst, default]⟩
      · refine ⟨?_, by simpa [hst] using pending_iff h⟩
        constructor <;> simp_all
  | userDisable | hotUnplug =>
    exact ⟨tracks_reset (by simp [step, apply, onUserDisable, onHotUnplug]) rfl rfl,
      by simp [step, apply, onUserDisable, onHotUnplug, Streak.next, Leaves, default]⟩
  | userEnable =>
    simp only [step, apply, onUserEnable, Streak.next, Leaves]
    refine ⟨?_, by simpa using pending_iff h⟩
    cases hst : w.machine.state <;> constructor <;> simp_all
  | takeFlapEscalation =>
    simp only [step, apply, takeFlapEscalation, Streak.next, Leaves]
    split <;> constructor <;> try constructor
    all_goals simp_all

/-! ## Runs -/

lemma tracks_run (h : w.Tracks) (es : List (Event D)) : (w.run es).Tracks := by
  induction es generalizing w with
  | nil => exact h
  | cons e es ih => exact ih (tracks_step h e).1

@[simp] theorem run_concat (w : Watched D) (es : List (Event D)) (e : Event D) :
    w.run (es ++ [e]) = (w.run es).step e := by
  simp [run]

lemma run_append_cons (w : Watched D) (es more : List (Event D)) (e : Event D) :
    w.run (es ++ e :: more) = ((w.run es).step e).run more := by
  simp [run]

lemma leavesRun_concat (w : Watched D) (es : List (Event D)) (e : Event D) :
    w.LeavesRun (es ++ [e]) ↔ w.LeavesRun es ∧ (w.run es).Leaves e := by
  induction es generalizing w with
  | nil => simp [LeavesRun, run]
  | cons f es ih =>
    have hr := ih (w.step f)
    simp only [cons_append, LeavesRun, hr, and_assoc]
    rfl

/-- An escalation is pending after a run if a step of it brought the streak to three and every later
one left it. -/
lemma pending_run (h : w.Tracks) (hq : w.machine.flap.escalationPending ≠ true)
    (es : List (Event D)) : (w.run es).machine.flap.escalationPending ↔
      ∃ head event tail, es = head ++ event :: tail ∧ (w.run head).streak.length = 2 ∧
        ((w.run head).step event).streak.length = 3 ∧ ((w.run head).step event).LeavesRun tail := by
  induction es using reverseRecOn with
  | nil => simp [run, hq]
  | append_singleton es ls ih =>
    rw [run_concat, (tracks_step (tracks_run h es) ls).2, ih]
    constructor
    · rintro (⟨htw, ht⟩ | ⟨⟨head, event, tail, rfl, htw, ht, hl⟩, hla⟩)
      · exact ⟨es, ls, [], rfl, htw, ht, trivial⟩
      · refine ⟨head, event, tail ++ [ls], by simp, htw, ht, ?_⟩
        rw [leavesRun_concat]
        refine ⟨hl, ?_⟩
        simpa [run] using hla
    · rintro ⟨head, event, tail, hs, htw, ht, hl⟩
      rcases eq_nil_or_concat tail with rfl | ⟨tail, event', rfl⟩
      · obtain ⟨rfl, hsa⟩ := append_inj' hs rfl
        obtain rfl := (cons.inj hsa).1
        exact .inl ⟨htw, ht⟩
      · rw [concat_eq_append] at hs hl
        rw [leavesRun_concat] at hl
        have hs' : es ++ [ls] = (head ++ event :: tail) ++ [event'] := by simp [hs]
        obtain ⟨rfl, hsa⟩ := append_inj' hs' rfl
        obtain rfl := (cons.inj hsa).1
        refine .inr ⟨⟨head, event, tail, rfl, htw, ht, hl.1⟩, ?_⟩
        simpa [run] using hl.2

/-- A step continues the streak or ends it. -/
lemma length_step (w : Watched D) (e : Event D) : (w.step e).streak.length = 0 ∨
    w.streak.length ≤ (w.step e).streak.length := by
  cases e <;> simp only [step, Streak.next] <;> (try split_ifs) <;> simp

/-- With three in the row and nothing pending, nothing is until the streak ended. -/
lemma quiet_until_ended (h : w.Tracks) (hq : w.machine.flap.escalationPending ≠ true)
    (hlo : 3 ≤ w.streak.length) (es : List (Event D))
    (hg : ∀ before, before <+: es → (w.run before).streak.length ≠ 0) :
    (w.run es).machine.flap.escalationPending ≠ true ∧ 3 ≤ (w.run es).streak.length := by
  induction es using reverseRecOn with
  | nil => exact ⟨hq, hlo⟩
  | append_singleton es ls ih =>
    have hl := hg _ (prefix_refl _)
    obtain ⟨hs, ht⟩ := ih fun before hb => hg before (hb.trans (prefix_append _ _))
    rw [run_concat] at hl ⊢
    refine ⟨fun hp => ?_, Nat.le_trans ht ((length_step _ ls).resolve_left hl)⟩
    rcases (tracks_step (tracks_run h es) ls).2.mp hp with ⟨htw, -⟩ | ⟨hp, -⟩
    · omega
    · exact hs hp

end Watched

open Watched

/-- **Escalations**: after any events, a take reports exactly if one of them brought the streak to its
third unstable reconnect and every later one left the escalation; a second report comes only after
the streak ended; and losing a connection that outlived the window leaves no flaps. -/
theorem flap_escalation (deviceId : D) (policy : ReconnectPolicy) (events : List (Event D)) :
    let streak := fun events : List (Event D) => ((start deviceId policy).run events).streak
    let reports := fun events : List (Event D) =>
      (((withPolicy deviceId policy).run events).takeFlapEscalation.2).isSome
    (reports events ↔ ∃ head event tail, events = head ++ event :: tail ∧
      (streak head).length = 2 ∧ (streak (head ++ [event])).length = 3 ∧
      ((start deviceId policy).run (head ++ [event])).LeavesRun tail) ∧
    (∀ more, reports events → reports (events ++ .takeFlapEscalation :: more) →
      ∃ before, before <+: more ∧ (streak (events ++ .takeFlapEscalation :: before)).length = 0) ∧
    ∀ now, ((withPolicy deviceId policy).run events).state.isRenderable → (streak events).lasted now →
      ((withPolicy deviceId policy).run (events ++ [.commError now])).flap.flaps = 0 ∧
      ((withPolicy deviceId policy).run (events ++ [.reconnectRequested now])).flap.flaps = 0 := by
  have hst := tracks_start deviceId policy
  have ht := tracks_run hst
  have hm : ∀ events, (withPolicy deviceId policy).run events =
      ((start deviceId policy).run events).machine := fun events => 
      (run_machine (start deviceId policy) events).symm
  have hq : (start deviceId policy).machine.flap.escalationPending ≠ true := by
    simp [start, withPolicy, default]
  simp only [takeFlapEscalation_isSome, hm]
  refine ⟨?_, fun more hf hs => ?_, fun now hli hl => ⟨?_, ?_⟩⟩
  · rw [pending_run hst hq events]
    simp only [run_concat]
  · -- the first report leaves nothing pending in a streak of three
    by_contra hn
    have hth := (ht events).pending hf
    have hta := (tracks_step (ht events) .takeFlapEscalation).1
    rw [run_append_cons] at hs
    have hlo : 3 ≤ ((start deviceId policy).run events).streak.length := Nat.le_of_eq hth.symm
    refine (quiet_until_ended hta ?_ hlo more fun before hb hz => ?_).1 hs
    · simp [step, apply, takeFlapEscalation, hf]
    · exact hn ⟨before, hb, by rwa [run_append_cons]⟩
  · rw [(ht _).flaps, run_concat]
    simp [step, Streak.next, hli, Streak.unstable_of_lasted hl]
  · rw [(ht _).flaps, run_concat]
    simp [step, Streak.next, hli, hl]

end DeviceStateMachine

end Hypercolor.Device
