import Mathlib.Algebra.Order.Ring.Rat
import Hypercolor.Power.OutputPower

/-!
# Who pauses the output, and who hears of it

* **`arbitration`**: superseded updates change nothing, no session update touches the override, and the
  events are the changes between running and sleeping, but for those that a stop or a restored state
  makes quietly.
* **`stop_is_not_announced`**: because of the quiet ones the events need not alternate.
-/

namespace Hypercolor.Power

open Lib Change List Arbiter

variable {F : Type} {b : Brightness F} {s t : Arbiter F}

/-- The event that announces a change. -/
def PowerEvent.of (asleep : Bool) : PowerEvent := if asleep then .paused else .resumed

lemma PowerEvent.of_inj {asleep asleep' : Bool} :
    PowerEvent.of asleep = PowerEvent.of asleep' ↔ asleep = asleep' := by
  cases asleep <;> cases asleep' <;> decide

/-- What a step publishes is the change it makes, which is loud if it wakes the output. -/
structure Reports (s t : Arbiter F) (loud : Bool) : Prop where
  published : t.published = s.published ++
    (announcements (record s.power.sleeping t.power.sleeping loud)).map PowerEvent.of
  asleep : loud = false → t.power.sleeping

/-! ## What every operation reports -/

lemma reports_of_sleeping_eq (hs : t.power.sleeping = s.power.sleeping)
    (hp : t.published = s.published) : Reports s t true := by
  refine ⟨?_, nofun⟩
  rw [hs, hp, record, if_pos rfl]
  exact (append_nil _).symm

lemma reports_of_quiet (ha : t.power.sleeping) (hp : t.published = s.published) : Reports s t false := by
  refine ⟨?_, fun _ => ha⟩
  rw [hp, record]
  split <;> exact (append_nil _).symm

variable {update : OutputPowerState F → OutputPowerState F}

/-- An override other than a stop is announced. -/
lemma reports_updateStateWithEvents (h : (update s.power).outputOverride ≠ .stopped) :
    Reports s (s.updateStateWithEvents update) true := by
  refine ⟨?_, nofun⟩
  rw [updateStateWithEvents, powerTransition, if_neg h]
  cases s.power.sleeping <;> cases (update s.power).sleeping <;>
    simp [publishPowerTransition, record, announcements, PowerEvent.of]

lemma published_updateStateWithEvents_of_stopped (h : (update s.power).outputOverride = .stopped) :
    (s.updateStateWithEvents update).published = s.published := by
  rw [updateStateWithEvents, powerTransition, if_pos h]
  rfl

lemma sleeping_of_override {st : OutputPowerState F} (h : st.outputOverride ≠ .none) : st.sleeping := by
  simp [OutputPowerState.sleeping, h]

variable {g : UInt64}

/-- An update of a session leaves the override, and a stopped output sleeps before and after it. -/
lemma reports_updateWithEventsForGeneration
    (h : (update s.power).outputOverride = s.power.outputOverride) :
    Reports s (s.updateWithEventsForGeneration g update).1 true := by
  unfold updateWithEventsForGeneration
  split
  · by_cases hs : s.power.outputOverride = .stopped
    · have hs' := h.trans hs
      refine reports_of_sleeping_eq ?_ (published_updateStateWithEvents_of_stopped hs')
      have hb : s.power.sleeping := sleeping_of_override (hs ▸ nofun)
      exact (sleeping_of_override (hs' ▸ nofun)).trans hb.symm
    · exact reports_updateStateWithEvents (h ▸ hs)
  · exact reports_of_sleeping_eq rfl rfl

/-- An update of the brightness reports nothing. -/
lemma reports_updateForGeneration (g : UInt64) (bright : F) (fades : List (Fade F)) :
    Reports s { (s.updateForGeneration g fun st =>
      { st with sessionBrightness := bright }).1 with fades } true := by
  unfold updateForGeneration
  split <;> exact reports_of_sleeping_eq rfl rfl

/-- Every update of a fade sets the brightness, if its generation is current. -/
lemma continueFade_eq (i : Nat) (fade : Fade F) : ∃ brightness fades,
    s.continueFade b i fade = { (s.updateForGeneration fade.generation fun st =>
      { st with sessionBrightness := brightness }).1 with fades } := by
  unfold continueFade
  split
  · dsimp only
    split <;> rename_i he <;> exact ⟨_, _, by rw [he]⟩
  · exact ⟨_, _, rfl⟩

lemma reports_apply (op : PowerOp F) : Reports s (s.apply b op) !op.quiet := by
  cases op with
  | setGlobalBrightness | beginSessionTransition | fadeSessionTo | abortFade =>
    exact reports_of_sleeping_eq rfl rfl
  | setManualPause paused =>
    rw [apply, Arbiter.setManualPause]
    refine reports_updateStateWithEvents ?_
    cases paused <;> exact nofun
  | restoreManualPause | restoreOutputStopped => exact reports_of_quiet (sleeping_of_override nofun) rfl
  | setOutputStopped =>
    exact reports_of_quiet (sleeping_of_override nofun) (published_updateStateWithEvents_of_stopped rfl)
  | clearOutputOverride =>
    rw [apply, Arbiter.clearOutputOverride]
    refine reports_updateStateWithEvents ?_
    exact nofun
  | publishPortable de =>
    obtain ⟨bright, enabled, paused⟩ := de
    cases enabled with
    | false =>
      exact reports_of_quiet (sleeping_of_override nofun) (published_updateStateWithEvents_of_stopped rfl)
    | true =>
      rw [apply, Arbiter.publishPortable]
      refine reports_updateStateWithEvents ?_
      cases paused <;> exact nofun
  | clearSessionSleep | pauseForSession => exact reports_updateWithEventsForGeneration rfl
  | continueFade i =>
    dsimp only [apply]
    split
    · exact reports_of_sleeping_eq rfl rfl
    · rename_i fade _
      obtain ⟨bright, fades, he⟩ := continueFade_eq (s := s) (b := b) i fade
      rw [he]
      exact reports_updateForGeneration ..

/-! ## Sessions and their generations -/

variable {op : PowerOp F}

lemma apply_of_superseded (hg : op.generation? s = some g) (h : g ≠ s.power.transitionGeneration) :
    (s.apply b op).power = s.power ∧ (s.apply b op).published = s.published := by
  have hn : s.power.transitionGeneration ≠ g := h.symm
  cases op with
  | clearSessionSleep =>
    obtain rfl := Option.some_inj.mp hg
    rw [apply, Arbiter.clearSessionSleep, updateWithEventsForGeneration, if_neg hn]
    exact ⟨rfl, rfl⟩
  | pauseForSession =>
    obtain rfl := Option.some_inj.mp hg
    rw [apply, Arbiter.pauseForSession, updateWithEventsForGeneration, if_neg hn]
    exact ⟨rfl, rfl⟩
  | continueFade i =>
    obtain ⟨fade, hf, rfl⟩ := Option.map_eq_some_iff.mp hg
    obtain ⟨bright, fades, he⟩ := continueFade_eq (s := s) (b := b) i fade
    rw [apply, hf]
    dsimp only
    rw [he, updateForGeneration, if_neg hn]
    exact ⟨rfl, rfl⟩
  | _ => cases hg

lemma outputOverride_apply_of_session (h : op.ofSession) :
    (s.apply b op).power.outputOverride = s.power.outputOverride := by
  cases op with
  | beginSessionTransition | fadeSessionTo | abortFade => rfl
  | clearSessionSleep =>
    rw [apply, Arbiter.clearSessionSleep, updateWithEventsForGeneration]
    split <;> rfl
  | pauseForSession =>
    rw [apply, Arbiter.pauseForSession, updateWithEventsForGeneration]
    split <;> rfl
  | continueFade i =>
    dsimp only [apply]
    split
    · rfl
    · rename_i fade _
      obtain ⟨bright, fades, he⟩ := continueFade_eq (s := s) (b := b) i fade
      rw [he, updateForGeneration]
      split <;> rfl
  | _ => cases h

lemma transitionGeneration_apply (op : PowerOp F) : (s.apply b op).power.transitionGeneration =
      s.power.transitionGeneration + if op.supersedes then 1 else 0 := by
  cases op with
  | setManualPause paused => cases paused <;> rfl
  | clearSessionSleep =>
    rw [apply, Arbiter.clearSessionSleep, updateWithEventsForGeneration]
    split <;> exact (UInt64.add_zero _).symm
  | pauseForSession =>
    rw [apply, Arbiter.pauseForSession, updateWithEventsForGeneration]
    split <;> exact (UInt64.add_zero _).symm
  | continueFade i =>
    dsimp only [apply]
    split
    · exact (UInt64.add_zero _).symm
    · rename_i fade _
      obtain ⟨bright, fades, he⟩ := continueFade_eq (s := s) (b := b) i fade
      rw [he, updateForGeneration]
      split <;> exact (UInt64.add_zero _).symm
  | setOutputStopped | clearOutputOverride | publishPortable | beginSessionTransition => rfl
  | _ => exact (UInt64.add_zero _).symm

/-! ## Whole runs -/

variable {ops : List (PowerOp F)}

/-- A run moves the generation on by the operations that supersede it. -/
lemma transitionGeneration_run (h : (arbiter b).Run s ops t) : t.power.transitionGeneration =
      s.power.transitionGeneration + UInt64.ofNat (ops.countP (·.supersedes)) := by
  induction h with
  | nil => exact (UInt64.add_zero _).symm
  | snoc hr hs ih =>
    rename_i ops op t u
    obtain rfl : u = t.perform b op := hs
    have hop : (t.perform b op).power.transitionGeneration = _ := transitionGeneration_apply op
    rw [hop, ih, countP_append, UInt64.add_assoc]
    cases hsu : op.supersedes <;> simp [hsu]

/-- A generation is not current again before the counter has wrapped around. -/
lemma superseded_of_run (h : (arbiter b).Run s ops t) (hs : 0 < ops.countP (·.supersedes))
    (hw : ops.countP (·.supersedes) < 2 ^ 64) :
    s.power.transitionGeneration ≠ t.power.transitionGeneration := by
  rw [transitionGeneration_run h]
  intro he
  have hz : UInt64.ofNat (ops.countP (·.supersedes)) = 0 := by simpa using he
  have hn := congrArg UInt64.toNat hz
  rw [UInt64.toNat_ofNat', Nat.mod_eq_of_lt hw] at hn
  exact absurd hn (Nat.ne_of_gt hs)

/-- What the events follow. -/
structure Informed (s : Arbiter F) : Prop where
  follows : Follows s.changes s.power.sleeping
  woken : ∀ change ∈ s.changes, change.on = false → change.loud
  published : s.published = (announcements s.changes).map PowerEvent.of

lemma Informed.perform (h : Informed s) (op : PowerOp F) : Informed (s.perform b op) := by
  have hr : Reports s (s.apply b op) !op.quiet := reports_apply op
  refine ⟨h.follows.record _, ?_, ?_⟩
  · intro change hm hof
    rcases mem_append.mp hm with hm | hm
    · exact h.woken change hm hof
    · obtain rfl := mem_record hm
      change (!op.quiet)
      by_contra hq
      have ha := hr.asleep (eq_false_of_ne_true hq)
      exact Bool.noConfusion (hof.symm.trans ha)
  · change (s.apply b op).published = _
    rw [hr.published, h.published, ← map_append, ← announcements_append]
    rfl

lemma informed_of_reachable (h : (arbiter b).Reachable s) : Informed s := by
  refine h.invariant ?_ ?_
  · rintro s ⟨globalBrightness, rfl⟩
    exact ⟨follows_nil, nofun, rfl⟩
  · rintro s op t hs rfl
    exact hs.perform op

lemma Informed.getLast?_published (h : Informed s) :
    s.published.getLast? = (announcements s.changes).getLast?.map PowerEvent.of := by
  rw [h.published, getLast?_map]

lemma Informed.getLast?_eq_paused (h : Informed s) :
    s.published.getLast? = some .paused ↔ (announcements s.changes).getLast? = some true := by
  rw [h.getLast?_published]
  rcases (announcements s.changes).getLast? with _ | _ | _ <;> simp [PowerEvent.of]

/-- Without quiet operations every change is announced. -/
lemma loud_of_restrict (h : ((arbiter b).restrict fun op _ => op.quiet = false).Reachable s) :
    ∀ change ∈ s.changes, change.loud := by
  refine h.invariant (I := fun s => ∀ change ∈ s.changes, change.loud) ?_ ?_
  · exact nofun
  · rintro s op t hs ⟨rfl, hq⟩ change hm
    rcases mem_append.mp hm with hm | hm
    · exact hs change hm
    · rw [mem_record hm, hq]
      rfl

/-- **Arbitration, at every reachable state.** An update with another generation changes nothing, and a
generation that was superseded is another one until the counter wraps around. No session touches the
override. `Paused` is followed by `Resumed`; the last event is `Paused` only while the output sleeps,
and while it sleeps, unless a quiet operation put it to sleep. Where no operation is quiet, the events
alternate and the last one says whether the output sleeps. -/
theorem arbitration (h : (arbiter b).Reachable s) :
    ((∀ op generation, op.generation? s = some generation →
        generation ≠ s.power.transitionGeneration →
        (s.perform b op).power = s.power ∧ (s.perform b op).published = s.published) ∧
      ∀ ops t, (arbiter b).Run s ops t → 0 < ops.countP (·.supersedes) →
        ops.countP (·.supersedes) < 2 ^ 64 →
        s.power.transitionGeneration ≠ t.power.transitionGeneration) ∧ (∀ op, op.ofSession →
      (s.perform b op).power.outputOverride = s.power.outputOverride) ∧
    (s.published.IsChain (fun event next => event = .paused → next = .resumed) ∧
      (s.published.getLast? = some .paused → s.power.sleeping) ∧
      (s.power.sleeping → s.published.getLast? = some .paused ∨
        ∃ change, s.changes.getLast? = some change ∧ change.loud = false)) ∧
    (((arbiter b).restrict fun op _ => op.quiet = false).Reachable s → s.published.IsChain (· ≠ ·) ∧
      (s.power.sleeping ↔ s.published.getLast? = some .paused)) := by
  have hi := informed_of_reachable h
  refine ⟨⟨fun op generation => apply_of_superseded, fun ops t => superseded_of_run⟩,
    fun op => outputOverride_apply_of_session, ⟨?_, ?_, ?_⟩, ?_⟩
  · rw [hi.published, isChain_map]
    refine (isChain_announcements hi.follows hi.woken).imp ?_
    rintro (_ | _) next him <;> simp_all [PowerEvent.of]
  · intro hl
    by_contra ha
    have hof := eq_false_of_ne_true ha
    exact getLast?_announcements_of_off (hof ▸ hi.follows) hi.woken (hi.getLast?_eq_paused.mp hl)
  · intro hal
    rw [hi.getLast?_eq_paused]
    exact getLast?_announcements_of_on (hal ▸ hi.follows)
  · intro hlo
    obtain ⟨hc, hl⟩ := announcements_of_loud hi.follows (loud_of_restrict hlo)
    refine ⟨?_, ?_⟩
    · rw [hi.published, isChain_map]
      exact hc.imp fun a b hn he => hn (PowerEvent.of_inj.mp he)
    · rw [hi.getLast?_eq_paused, ← hl]
      rcases (announcements s.changes).getLast? with _ | _ | _ <;> simp

/-! ## A stop, and a session with a fade -/

/-- The arithmetic without rounding. -/
def rational : Brightness Rat where
  zero := 0
  one := 1
  clamp x := max 0 (min x 1)
  near start target := max (start - target) (target - start) ≤ 1 / 2 ^ 23
  between start target step steps := start + (target - start) * (step / steps)

/-- A session falls asleep at the end of a fade of one step and is woken by the next one. -/
def session : List (PowerOp Rat) :=
  [.beginSessionTransition, .fadeSessionTo 0 16 1, .continueFade 0, .continueFade 0,
    .pauseForSession 1 .release (0, 0, 0), .beginSessionTransition, .clearSessionSleep 2]

lemma reachable_session : ((arbiter rational).restrict fun op _ => op.quiet = false).Reachable
      (session.foldl (perform rational) (.new rational 1)) :=
  Machine.Reachable.foldl (M := (arbiter rational).restrict fun op _ => op.quiet = false)
    (C := fun op => op.quiet = false) (fun _ _ hl => ⟨rfl, hl⟩) (.init ⟨1, rfl⟩) (by decide)

/-- A session that sleeps and wakes. -/
theorem arbitration_session :
    let s := session.foldl (perform rational) (.new rational 1)
    s.published = [.paused, .resumed] ∧ s.published.IsChain (· ≠ ·) ∧
      (s.power.sleeping ↔ s.published.getLast? = some .paused) ∧
      (s.perform rational (.clearSessionSleep 1)).power = s.power :=
  have h := arbitration reachable_session.of_restrict
  ⟨by decide +kernel, (h.2.2.2 reachable_session).1, (h.2.2.2 reachable_session).2,
    (h.1.1 (.clearSessionSleep 1) 1 rfl (by decide +kernel)).1⟩

/-- The output is resumed from a pause and then from a stop, and a pause that is restored is not heard
of. -/
theorem stop_is_not_announced :
    (∃ s, (arbiter rational).Reachable s ∧ s.published = [.paused, .resumed, .resumed] ∧
      ¬ s.published.IsChain (· ≠ ·)) ∧
    ∃ s, (arbiter rational).Reachable s ∧ s.power.sleeping ∧ s.published = [] := by
  have hr : ∀ ops : List (PowerOp Rat),
      (arbiter rational).Reachable (ops.foldl (perform rational) (.new rational 1)) :=
    fun ops => .foldl (C := fun _ => True) (fun _ _ _ => rfl) (.init ⟨1, rfl⟩) fun _ _ => trivial
  refine ⟨⟨_, hr [.setManualPause true (0, 0, 0), .clearOutputOverride, .setOutputStopped,
    .clearOutputOverride], rfl, ?_⟩, ⟨_, hr [.restoreManualPause (0, 0, 0)], rfl, rfl⟩⟩
  intro hc
  exact (isChain_cons_cons.mp (isChain_cons_cons.mp hc).2).1 rfl

end Hypercolor.Power
