import Hypercolor.Input.HostReplay

/-!
# Runs of the host fold

Sessions begin and end, their sinks publish at any time, and the fold is sampled and drained. A new
session starts afresh: what was held or pending in the one before is neither released nor drained.

* **`host_fold_replays`**: in every run, for the session it is in, what is held is the replay of
  what was emitted, and what was drained and what is pending is in the order it was emitted in; in a
  run below counter saturation everything else emitted is counted as dropped.
* **`stale_publish`**: the sink of an ended session changes nothing before the epoch comes round.
-/

namespace Hypercolor.Input

open Lib List HostInputFoldState

/-! ## The queue -/

namespace HostInputFoldState

variable {cap : Nat} {q : List TimedInputEvent × Nat}

/-- Pushing one event keeps the newest. -/
lemma pushQueue_suffix (q : List TimedInputEvent × Nat) (e : TimedInputEvent) :
    (pushQueue cap q e).1 <:+ q.1 ++ [e] := by
  unfold pushQueue
  split
  · exact nil_suffix
  · refine ⟨q.1.take (q.1.length + 1 - cap), ?_⟩
    rw [← append_assoc, take_append_drop]

/-- Pushing one event below saturation counts what makes room. -/
lemma pushQueue_count {e : TimedInputEvent} (h : (pushQueue cap q e).2 < u32Max) :
    (pushQueue cap q e).1.length + (pushQueue cap q e).2 = q.1.length + 1 + q.2 ∧ q.2 < u32Max := by
  unfold pushQueue at h ⊢
  split at h
  · rename_i hz
    simp only [saturatingAdd32] at h
    rw [if_pos hz]
    simp only [saturatingAdd32, length_nil]
    omega
  · rename_i hp
    simp only [saturatingAdd32] at h
    rw [if_neg hp]
    simp only [saturatingAdd32, length_append, length_drop, length_singleton]
    omega

/-- Pushing events keeps the newest. -/
lemma pushQueues_suffix (cap : Nat) (q : List TimedInputEvent × Nat) (es : List TimedInputEvent) :
    (es.foldl (pushQueue cap) q).1 <:+ q.1 ++ es := by
  induction es using reverseRecOn with
  | nil => simp
  | append_singleton es e ih =>
    rw [foldl_append, foldl_cons, foldl_nil, ← append_assoc]
    exact (pushQueue_suffix _ e).trans ((suffix_append_inj_of_length_eq rfl).mpr ⟨ih, rfl⟩)

/-- Pushing events below saturation counts what makes room. -/
lemma pushQueues_count (cap : Nat) (q : List TimedInputEvent × Nat) (es : List TimedInputEvent)
    (h : (es.foldl (pushQueue cap) q).2 < u32Max) :
    (es.foldl (pushQueue cap) q).1.length + (es.foldl (pushQueue cap) q).2 =
      q.1.length + es.length + q.2 := by
  induction es using reverseRecOn with
  | nil => simp
  | append_singleton es e ih =>
    rw [foldl_append, foldl_cons, foldl_nil] at h ⊢
    obtain ⟨hc, hb⟩ := pushQueue_count h
    have hcn := ih hb
    rw [length_append, length_singleton]
    omega

end HostInputFoldState

/-! ## Sessions -/

/-- What can happen to a fold; a sink is named by its place among all that were handed out. -/
inductive HostOp where
  | beginSession (sourceId : String)
  | endSession
  | publish (sink : Nat) (batch : HostInputBatch)
  | sampleAndDrain
  | sample
  | drainEvents

/-- A fold with the sinks it handed out, each with the turn it was handed out in, and what the
present session has drained and counted. -/
structure HostSession where
  shared : HostInputFoldState
  sinks : List (HostInputSink × Nat)
  turns : Nat
  drained : List TimedInputEvent
  counted : Nat

namespace HostSession

def new (eventCapacity : Nat) : HostSession := ⟨.new eventCapacity, [], 0, [], 0⟩

/-- A sample counts what was dropped, and drains with `drainEvents`. -/
def sampled (session : HostSession) (drainEvents : Bool) : HostSession :=
  let sampled := session.shared.sampleInner drainEvents
  { session with
    shared := sampled.1
    drained := session.drained ++ sampled.2.events
    counted := session.counted + sampled.2.interaction.batch.droppedEvents }

/-- One operation. -/
def perform (session : HostSession) : HostOp → HostSession
  | .beginSession sourceId =>
    let begun := session.shared.beginSession sourceId
    { shared := begun.1
      sinks := session.sinks ++ [(begun.2, session.turns + 1)]
      turns := session.turns + 1
      drained := []
      counted := 0 }
  | .endSession =>
    { session with
      shared := session.shared.endSession
      turns := session.turns + 1
      drained := []
      counted := 0 }
  | .publish sink batch =>
    match session.sinks[sink]? with
    | none => session
    | some entry => { session with shared := (entry.1.publish session.shared batch).1 }
  | .sampleAndDrain => session.sampled true
  | .sample => session.sampled false
  | .drainEvents =>
    let drained := session.shared.drainEvents
    { session with shared := drained.1, drained := session.drained ++ drained.2 }

end HostSession

/-- A fold and everything that can happen to it. -/
def hostInput : Machine HostSession HostOp where
  init session := ∃ eventCapacity, session = .new eventCapacity
  step session op next := next = session.perform op

/-- The dropped counter does not saturate. -/
def Unsaturated (op : HostOp) (session : HostSession) : Prop :=
  (session.perform op).shared.droppedEvents < u32Max

/-- The epoch after so many turns. -/
def epochAfter : Nat → Nat
  | 0 => 0
  | turns + 1 => turns % (2 ^ 64 - 1) + 1

lemma nextEpoch_epochAfter (turns : Nat) : nextEpoch (epochAfter turns) = epochAfter (turns + 1) := by
  unfold nextEpoch
  cases turns with
  | zero => rfl
  | succ turns =>
    simp only [epochAfter]
    omega

/-- What holds between operations: what is held is the replay of the session, what was drained and
what is pending is in the order it was emitted in, and the epoch tells the turns apart. -/
structure Replays (session : HostSession) : Prop where
  held : ∀ sourceId control, session.shared.holds sourceId control =
    (edgesOf (sourceEdge sourceId) control session.shared.emitted).getLast?.getD false
  order : (session.drained ++ session.shared.events).Sublist session.shared.emitted
  epoch : session.shared.epoch = epochAfter session.turns
  sinks : ∀ entry ∈ session.sinks,
    entry.1.epoch = epochAfter entry.2 ∧ 0 < entry.2 ∧ entry.2 ≤ session.turns

/-- Everything emitted was drained, is pending or is counted. -/
def Accounts (session : HostSession) : Prop :=
  session.shared.emitted.length = (session.drained ++ session.shared.events).length +
    session.counted + session.shared.droppedEvents

variable {ss : HostSession}

/-- Publishing emits events, none of them when the sink is stale or unknown. -/
lemma perform_publish (ss : HostSession) (sink : Nat) (batch : HostInputBatch) : ∃ nx es,
    ss.shared.Emits nx es ∧ ss.perform (.publish sink batch) = { ss with shared := nx } := by
  unfold HostSession.perform
  dsimp only
  split
  · exact ⟨ss.shared, [], .refl _, rfl⟩
  · rename_i e _
    unfold HostInputSink.publish
    by_cases hs : ss.shared.epoch ≠ e.1.epoch
    · rw [if_pos hs]
      exact ⟨ss.shared, [], .refl _, rfl⟩
    · rw [if_neg hs]
      obtain ⟨es, hem⟩ := @HostInputFoldState.foldBatch_emits ss.shared e.1.sourceId batch
      exact ⟨_, es, hem, rfl⟩

/-- A session starts with nothing held and nothing emitted. -/
lemma replays_turnSession (h : Replays ss) {sinks : List (HostInputSink × Nat)}
    (hs : ∀ entry ∈ sinks, entry.1.epoch = epochAfter entry.2 ∧ 0 < entry.2 ∧ entry.2 ≤ ss.turns + 1) :
    Replays ⟨ss.shared.turnSession, sinks, ss.turns + 1, [], 0⟩ where
  held sourceId control := by cases control <;> rfl
  order := List.Sublist.refl _
  epoch := (congrArg nextEpoch h.epoch).trans (nextEpoch_epochAfter _)
  sinks := hs

/-- **Publishing** keeps what holds. -/
theorem replays_publish (h : Replays ss) {nx : HostInputFoldState}
    {es : List TimedInputEvent} (he : ss.shared.Emits nx es) : Replays { ss with shared := nx } := by
  have hs := pushQueues_suffix ss.shared.eventCapacity (ss.shared.events, ss.shared.droppedEvents) es
  rw [← he.queue] at hs
  constructor
  · intro sid c
    have hh := he.holds sid c
    rw [h.held] at hh
    rw [hh, he.emitted, edgesOf_append, getLast?_append]
    cases (edgesOf (sourceEdge sid) c es).getLast? <;> rfl
  · change (ss.drained ++ nx.events).Sublist nx.emitted
    rw [he.emitted]
    refine (hs.sublist.append_left ss.drained).trans ?_
    rw [← append_assoc]
    exact h.order.append_right es
  · exact he.epoch.trans h.epoch
  · exact h.sinks

/-- **Every operation** keeps what holds. -/
theorem replays_perform (h : Replays ss) (op : HostOp) : Replays (ss.perform op) := by
  cases op with
  | beginSession sid =>
    refine replays_turnSession h fun e he => ?_
    rcases mem_append.mp he with he | he
    · obtain ⟨hep, hp, ht⟩ := h.sinks e he
      exact ⟨hep, hp, by omega⟩
    · obtain rfl := mem_singleton.mp he
      refine ⟨?_, by simp, le_rfl⟩
      exact (congrArg nextEpoch h.epoch).trans (nextEpoch_epochAfter _)
  | endSession =>
    refine replays_turnSession h fun e he => ?_
    obtain ⟨hep, hp, ht⟩ := h.sinks e he
    exact ⟨hep, hp, by omega⟩
  | publish sink batch =>
    obtain ⟨nx, es, hem, hp⟩ := perform_publish ss sink batch
    rw [hp]
    exact replays_publish h hem
  | sampleAndDrain | sample | drainEvents =>
    refine ⟨h.held, ?_, h.epoch, h.sinks⟩
    simpa [HostSession.perform, HostSession.sampled, sampleInner,
      HostInputFoldState.drainEvents] using h.order

lemma replays_of_reachable (h : hostInput.Reachable ss) : Replays ss := by
  refine h.invariant ?_ ?_
  · rintro _ ⟨eventCapacity, rfl⟩
    refine ⟨fun sid c => ?_, List.Sublist.refl _, rfl, fun _ he => nomatch he⟩
    cases c <;> rfl
  · rintro ss op _ hr rfl
    exact replays_perform hr op

/-- **Every operation below saturation** keeps the account: a sample moves what was dropped to what
is counted, and draining moves what is pending to what is drained. -/
theorem accounts_perform {op : HostOp} (h : Accounts ss) (hb : Unsaturated op ss) :
    Accounts (ss.perform op) := by
  unfold Accounts at h ⊢
  rw [length_append] at h
  cases op with
  | beginSession | endSession => rfl
  | publish sink batch =>
    obtain ⟨nx, es, hem, hp⟩ := perform_publish ss sink batch
    unfold Unsaturated at hb
    rw [hp] at hb ⊢
    have hc := pushQueues_count ss.shared.eventCapacity (ss.shared.events, ss.shared.droppedEvents) es
    rw [← hem.queue] at hc
    have hcn := hc hb
    dsimp only at hcn ⊢
    rw [hem.emitted, length_append, h, length_append]
    omega
  | sampleAndDrain | sample | drainEvents =>
    simp [HostSession.perform, HostSession.sampled, sampleInner, HostInputFoldState.drainEvents]
    omega

lemma accounts_reachable (h : (hostInput.restrict Unsaturated).Reachable ss) : Accounts ss := by
  refine h.invariant ?_ ?_
  · rintro _ ⟨eventCapacity, rfl⟩
    rfl
  · rintro ss op _ ha ⟨rfl, hb⟩
    exact accounts_perform ha hb

/-- **The sink of an ended session** changes nothing before the epoch comes round. -/
theorem stale_publish (h : Replays ss) {e : HostInputSink × Nat} (hen : e ∈ ss.sinks)
    (hed : e.2 ≠ ss.turns)
    (hr : ss.turns - e.2 < 2 ^ 64 - 1) (batch : HostInputBatch) :
    e.1.publish ss.shared batch = (ss.shared, .stale) := by
  obtain ⟨he, hp, ht⟩ := h.sinks e hen
  have hn : ss.shared.epoch ≠ e.1.epoch := by
    rw [h.epoch, he]
    obtain ⟨turn, ht⟩ := Nat.exists_eq_succ_of_ne_zero hp.ne'
    obtain ⟨turns, htu⟩ := Nat.exists_eq_succ_of_ne_zero (n := ss.turns) (by omega)
    rw [ht, htu]
    simp only [epochAfter]
    omega
  exact if_pos hn

/-- **The host fold replays.** In every run, for the session it is in: what is recorded as held for
a source is the replay of the events emitted for it, nothing of a source is held after an event that
clears it, what was drained and what is pending is in the order it was emitted in (and, in a run
below counter saturation, everything else is counted), and the sink of an ended session changes
nothing before the epoch comes round. -/
theorem host_fold_replays {session : HostSession} (h : hostInput.Reachable session) :
    (∀ sourceId control, control ∈ replay (sourceEdge sourceId) ∅ session.shared.emitted ↔
        session.shared.holds sourceId control) ∧
      (∀ (state : HostInputFoldState) sourceId event, state.Clears sourceId event →
        ∀ fallbackSource atMs control,
          (state.foldEvent fallbackSource atMs event).holds sourceId control = false) ∧
      ((session.drained ++ session.shared.events).Sublist session.shared.emitted ∧
        ((hostInput.restrict Unsaturated).Reachable session →
          session.shared.emitted.length = (session.drained ++ session.shared.events).length +
            session.counted + session.shared.droppedEvents)) ∧
      ∀ entry ∈ session.sinks, entry.2 ≠ session.turns → session.turns - entry.2 < 2 ^ 64 - 1 → ∀ batch,
          entry.1.publish session.shared batch = (session.shared, .stale) := by
  have hr := replays_of_reachable h
  refine ⟨fun sourceId control => ?_, fun state sourceId event hc fallbackSource atMs control =>
    not_holds_of_clears hc fallbackSource atMs,
    ⟨hr.order, accounts_reachable⟩,
    fun entry he hen hrn batch => stale_publish hr he hen hrn batch⟩
  rw [mem_replay, hr.held]
  simp

/-! ## Concrete runs -/

/-- A press of the key `a`. -/
def pressA (device : Option HostInputDevice) : HostInputEvent :=
  .key device ⟨"a", "KeyA"⟩ (.edge true .notRepeat)

/-- A session, and a batch published by its sink. -/
def publishing (events : List HostInputEvent) : HostSession :=
  (HostSession.perform (.new 256) (.beginSession "keyboard")).perform (.publish 0 ⟨events, 10, 1⟩)

lemma reachable_publishing (es : List HostInputEvent) : hostInput.Reachable (publishing es) :=
  .step (e := .publish 0 ⟨es, 10, 1⟩) (.step (e := .beginSession "keyboard") (.init ⟨256, rfl⟩) rfl) rfl

/-- A press is drained and counted, and its key is held. -/
theorem host_fold_replays_pressed :
    let session := (publishing [pressA none]).perform .sampleAndDrain
    (∀ sourceId control, control ∈ replay (sourceEdge sourceId) ∅ session.shared.emitted ↔
        session.shared.holds sourceId control) ∧
      session.shared.emitted.length = (session.drained ++ session.shared.events).length +
        session.counted + session.shared.droppedEvents ∧
      session.drained.length = 1 ∧ session.shared.holds "keyboard" (.key "a") := by
  intro session
  have hr : (hostInput.restrict Unsaturated).Reachable session := by
    refine .step (e := .sampleAndDrain) (.step (e := .publish 0 ⟨[pressA none], 10, 1⟩)
      (.step (e := .beginSession "keyboard") (.init ⟨256, rfl⟩) ⟨rfl, ?_⟩) ⟨rfl, ?_⟩) ⟨rfl, ?_⟩
    all_goals
      unfold Unsaturated
      decide +kernel
  obtain ⟨hh, -, ⟨-, ha⟩, -⟩ := host_fold_replays hr.of_restrict
  exact ⟨hh, ha hr, by decide +kernel, by decide +kernel⟩

/-- After `turns` sessions the sink of the first one is still there. -/
lemma reachable_turns (turns : Nat) : ∃ ss, hostInput.Reachable ss ∧ ss.turns = turns + 1 ∧
    ((⟨"keyboard", 1⟩, 1) : HostInputSink × Nat) ∈ ss.sinks := by
  induction turns with
  | zero =>
    exact ⟨_, .step (e := .beginSession "keyboard") (.init ⟨256, rfl⟩) rfl, rfl, mem_singleton.mpr rfl⟩
  | succ turns ih =>
    obtain ⟨ss, hr, ht, hs⟩ := ih
    exact ⟨_, hr.step (e := .beginSession "keyboard") rfl, congrArg (· + 1) ht, mem_append_left _ hs⟩

/-- A session ends with an event pending and its key held; a late event of a removed device outlives
its next arrival; and the first sink publishes again when the epoch has come round. -/
theorem sessions_forget : (∃ session, hostInput.Reachable session ∧ session.shared.events.length = 1 ∧
      session.drained = [] ∧ session.counted = 0 ∧ (session.perform .endSession).shared.events = [] ∧
      (session.perform .endSession).shared.droppedEvents = 0 ∧
      .key "a" ∈ replay (sourceEdge "keyboard") ∅ session.shared.emitted ∧
      (session.perform .endSession).shared.holds "keyboard" (.key "a") = false) ∧
    (∃ session, hostInput.Reachable session ∧
      session = publishing [.deviceArrived ⟨"board", 1, 1⟩, .deviceRemoved ⟨"board", 1, 1⟩,
        pressA (some ⟨"board", 1, 1⟩), .deviceArrived ⟨"board", 1, 2⟩] ∧
      session.shared.holds "board" (.key "a")) ∧
    ∃ session, hostInput.Reachable session ∧ ∃ entry ∈ session.sinks,
      entry.2 ≠ session.turns ∧ ∀ batch, (entry.1.publish session.shared batch).2 = .published := by
  refine ⟨⟨_, reachable_publishing [pressA none], ?_⟩, ⟨_, reachable_publishing _, rfl, ?_⟩, ?_⟩
  · decide +kernel
  · decide +kernel
  · obtain ⟨session, hr, ht, hs⟩ := reachable_turns (2 ^ 64 - 1)
    have he := (replays_of_reachable hr).epoch
    rw [ht] at he
    refine ⟨session, hr, _, hs, ?_, fun batch => ?_⟩
    · rw [ht]
      decide
    · have hsa : session.shared.epoch = 1 := he.trans (by decide)
      unfold HostInputSink.publish
      rw [if_neg (by simpa using hsa)]

end Hypercolor.Input
