import Hypercolor.Controls.Session
import Hypercolor.Lib.Machine
import Mathlib.Data.List.Pairwise

/-!
# Control patch sessions deliver the last value

**`last_value_delivered`**: for one target, in every run of edits, flushes and replies in which no
patch fails, no batch is stale twice, and the guard passes,

* at most one mutation is running, with one request at a time;
* every request is for the target, and its values were admitted;
* the requests have stamps that never decrease, so that each carries, of every control in it, the
  last value admitted up to its stamp;
* when nothing is pending or in flight, the applied values are the last admitted ones;
* a control whose last admitted value is not the applied one, or which is in a batch, is shown with
  its last admitted value.

The invariant `Books` cuts the admitted edits in three: those that are confirmed, those of the batch
in flight, and those of the pending batch.
-/

namespace Hypercolor.Controls

open Lib List ControlMutationQueue Option SessionEvent

variable {V D R : Type} {jsonToControlValue : String → D → R → Option V}

namespace Session

/-- No terminal failure, no refusal by the guard, no clear, and no change of the target. -/
def Steady (s : Session V) : SessionEvent D R → Prop
  | .change _ _ _ | .changes _ _ | .poll _ => True
  | .flush guardPasses => guardPasses
  | .reply task outcome guardPasses => guardPasses ∧ ∃ reply, outcome = some reply ∧
      ∀ batch retried, s.tasks[task]? = some ⟨batch, .waiting retried⟩ →
        ∀ current, reconcileOutcome reply retried ≠ .giveUp current
  | .clearPending | .setTarget _ | .dispose => False

/-- The runs of a session for one target. -/
def steady (jsonToControlValue : String → D → R → Option V) : Machine (Session V) (SessionEvent D R) where
  init s := ∃ target values initialVersion, s = new (some target) values initialVersion
  step s event s' := s.step jsonToControlValue event = some s' ∧ s.Steady event

/-! ## The books of a session -/

/-- The batch stands for these edits of the target. -/
def Holds (target : String) : Option (ControlMutationBatch V) → List (String × V) → Prop
  | none, edits => edits = []
  | some batch, edits => batch.target = target ∧ Covers batch.values edits

/-- The request carries, of every control in it, the last value up to the stamp. -/
def CarriesUpTo (admitted : List (String × V)) (request : Request V) (stamp : Nat) : Prop :=
  ∀ control value, request.values.lookup control = some value →
    latest (admitted.take stamp) control = some value

/-- The requests have stamps, up to `bound`, that never decrease. -/
def InOrder (target : String) (admitted : List (String × V)) (requests : List (Request V))
    (bound : Nat) : Prop :=
  ∃ stamps : List Nat, stamps.Pairwise (· ≤ ·) ∧
    List.Forall₂ (fun request stamp => request.target = target ∧ stamp ≤ bound ∧
      CarriesUpTo admitted request stamp) requests stamps

/-- The books but for what is in flight. -/
structure Ready (target : String) (s : Session V) (confirmed sent waiting : List (String × V)) :
    Prop where
  active : s.active
  aim : s.target = some target
  admitted : s.admitted = confirmed ++ sent ++ waiting
  applied : Covers s.applied confirmed
  pending : Holds target s.queue.pending waiting
  requests : InOrder target s.admitted s.requests (confirmed ++ sent).length

structure Books (target : String) (s : Session V) (confirmed sent waiting : List (String × V)) :
    Prop extends Ready target s confirmed sent waiting where
  inFlight : Holds target s.queue.inFlight sent
  tasks : s.tasks = [] ∧ s.queue.inFlight = none ∨
    ∃ batch stage, s.tasks = [⟨batch, stage⟩] ∧ s.queue.inFlight = some batch

variable {target : String} {s : Session V} {confirmed sent waiting : List (String × V)}
  {batch : ControlMutationBatch V}

lemma holds_merge {q : ControlMutationQueue V} {values : ControlValueMap V}
    {edits : List (String × V)} (h : Holds target q.pending waiting) (hv : Covers values edits) :
    Holds target (q.merge target values).pending (waiting ++ edits) := by
  unfold ControlMutationQueue.merge
  split
  case isTrue he =>
    rw [hv.eq_nil he, append_nil]
    exact h
  case isFalse =>
    rcases hp : q.pending with _ | p
    · rw [hp] at h
      rw [show waiting = [] from h]
      exact ⟨rfl, hv⟩
    · rw [hp] at h
      simp only [h.1, if_true]
      exact ⟨rfl, h.2.merge hv⟩

lemma inFlight_merge (q : ControlMutationQueue V) (values : ControlValueMap V) :
    (q.merge target values).inFlight = q.inFlight := by
  unfold ControlMutationQueue.merge
  repeat' split
  all_goals rfl

lemma covers_singleton (nm : String) (v : V) :
    Covers (AList.singleton nm v : ControlValueMap V) [(nm, v)] := by
  intro c
  by_cases hn : nm = c
  · subst hn
    have hl : (AList.singleton nm v : ControlValueMap V).lookup nm = some v := dlookup_cons_eq _ _ _
    rw [hl]
    simp [latest]
  · have ha : c ∉ (AList.singleton nm v : ControlValueMap V) := by
      simpa [AList.mem_keys] using Ne.symm hn
    rw [AList.lookup_eq_none.mpr ha]
    simp [latest, hn]

variable {admitted : List (String × V)} {requests : List (Request V)} {bound : Nat}

section

variable (h : InOrder target admitted requests bound)
include h

/-- The stamps stay good when more is admitted. -/
lemma InOrder.grow (hb : bound ≤ admitted.length) (edits : List (String × V)) :
    InOrder target (admitted ++ edits) requests bound := by
  obtain ⟨stamps, hs, hr⟩ := h
  refine ⟨stamps, hs, hr.imp ?_⟩
  rintro rq stamp ⟨ht, hl, hc⟩
  refine ⟨ht, hl, ?_⟩
  unfold CarriesUpTo
  rw [take_append_of_le_length (hl.trans hb)]
  exact hc

lemma InOrder.mono {bound' : Nat} (hl : bound ≤ bound') : InOrder target admitted requests bound' := by
  obtain ⟨stamps, hs, hr⟩ := h
  exact ⟨stamps, hs, hr.imp fun rq stamp ⟨ht, hst, hc⟩ =>
    ⟨ht, hst.trans hl, hc⟩⟩

/-- One more request, stamped with the bound. -/
lemma InOrder.snoc {rq : Request V} (ht : rq.target = target) (hc : CarriesUpTo admitted rq bound) :
    InOrder target admitted (requests ++ [rq]) bound := by
  obtain ⟨stamps, hs, hr⟩ := h
  have hl : ∀ stamp ∈ stamps, stamp ≤ bound := by
    clear hs
    induction hr with
    | nil => simp
    | cons hh _ ih => exact forall_mem_cons.mpr ⟨hh.2.1, ih⟩
  refine ⟨stamps ++ [bound], ?_, ?_⟩
  · exact pairwise_append.mpr ⟨hs, pairwise_singleton _ _, by simpa using hl⟩
  · exact rel_append hr (.cons ⟨ht, le_rfl, hc⟩ .nil)

end

/-- What a batch stands for is the last of all that was admitted so far. -/
lemma carries_of_covers (target : String) (confirmed waiting : List (String × V))
    (hb : Covers batch.values sent) (ver : Option UInt64) :
    CarriesUpTo (confirmed ++ sent ++ waiting) ⟨target, batch.values, ver⟩
      (confirmed ++ sent).length := by
  intro c v hv
  rw [take_left, latest_append, ← hb c]
  simp only [show batch.values.lookup c = some v from hv, some_or]

/-! ## Each step -/

/-- A task that is the only one sends its batch. -/
lemma Ready.send (h : Ready target s confirmed sent waiting) {task : MutationTask V}
    (ht : s.tasks = [task]) (hb : Holds target (some batch) sent) (retried : Bool) :
    Books target (s.sendBatch 0 batch retried) confirmed sent waiting where
  active := h.active
  aim := h.aim
  admitted := h.admitted
  applied := h.applied
  pending := h.pending
  requests := by
    refine h.requests.snoc hb.1 ?_
    have hc := carries_of_covers batch.target confirmed waiting hb.2 s.version
    rwa [← h.admitted] at hc
  inFlight := hb
  tasks := .inr ⟨batch, .waiting retried, by simp [sendBatch, setTask, ht], rfl⟩

lemma Ready.begin (h : Ready target s confirmed sent waiting) {task : MutationTask V}
    (hta : s.tasks = [task]) (hb : Holds target (some batch) sent) :
    Books target (s.beginBatch 0 batch) confirmed sent waiting := by
  have ht : s.target = some batch.target := by rw [h.aim, hb.1]
  simp only [beginBatch, h.active, ht, not_true_eq_false, if_false, ne_eq]
  exact h.send hta hb false

/-- Edits that are admitted wait. -/
lemma Books.edited (h : Books target s confirmed sent waiting) {s' : Session V}
    {values : ControlValueMap V} {edits : List (String × V)} (hv : Covers values edits)
        (hs' : s' = { s with
      values := s'.values
      queue := s.queue.merge target values
      admitted := s.admitted ++ edits }) : Books target s' confirmed sent (waiting ++ edits) := by
  have hb : (confirmed ++ sent).length ≤ s.admitted.length := by
    simp only [h.admitted, length_append]
    omega
  rw [hs']
  exact {
    active := h.active
    aim := h.aim
    admitted := by simp only [h.admitted, append_assoc]
    applied := h.applied
    pending := holds_merge h.pending hv
    requests := h.requests.grow hb edits
    inFlight := by simpa only [inFlight_merge] using h.inFlight
    tasks := by simpa only [inFlight_merge] using h.tasks }

/-- A flush that passes the guard. -/
lemma Books.flush (h : Books target s confirmed sent waiting) :
    ∃ confirmed sent waiting, Books target (s.flushCore true) confirmed sent waiting := by
  rcases s with ⟨active, aim, values, version, ⟨p, inFlight⟩, tasks, admitted, requests, applied⟩
  obtain rfl : active := h.active
  obtain rfl : aim = some target := h.aim
  rcases inFlight with _ | batch
  · obtain rfl : sent = [] := h.inFlight
    have ht : tasks = [] := by
      rcases h.tasks with ⟨ht, -⟩ | ⟨batch, stage, -, hs⟩
      · exact ht
      · simp at hs
    rcases p with _ | p
    · exact ⟨confirmed, [], waiting, h⟩
    · have hb : Holds target (some p) waiting := h.pending
      refine ⟨confirmed, waiting, [], ?_⟩
      simp only [flushCore, startFlushFor, hb.1, not_true_eq_false,
        if_false, isSome_none, Bool.false_eq_true, ne_eq]
      exact {
        active := rfl
        aim := rfl
        admitted := by simpa using h.admitted
        applied := h.applied
        pending := rfl
        requests := h.requests.mono (by simp)
        inFlight := hb
        tasks := .inr ⟨p, .spawned, by simp [ht], rfl⟩ }
  · exact ⟨confirmed, sent, waiting, h⟩

/-- The task that an event is for is the only one, and its batch is in flight. -/
lemma Books.task (h : Books target s confirmed sent waiting) {place : Nat} {stage : Stage}
    (ht : s.tasks[place]? = some ⟨batch, stage⟩) :
    place = 0 ∧ s.tasks = [⟨batch, stage⟩] ∧ Holds target (some batch) sent := by
  rcases h.tasks with ⟨hta, -⟩ | ⟨inFlight, stage', hta, hi⟩
  · simp [hta] at ht
  · rw [hta] at ht
    obtain ⟨hp, hs⟩ := List.getElem?_eq_some_iff.mp ht
    obtain rfl : place = 0 := by simpa using hp
    have hb := h.inFlight
    rw [hi] at hb
    obtain ⟨rfl, rfl⟩ := MutationTask.mk.inj hs
    exact ⟨rfl, hta, hb⟩

/-- A batch that was applied is confirmed, and the pending one goes next. -/
lemma Ready.commit (h : Ready target s confirmed [] waiting) {task : MutationTask V}
    (ht : s.tasks = [task]) :
    ∃ confirmed sent waiting, Books target (s.commitBatch 0 true) confirmed sent waiting := by
  rcases s with ⟨active, aim, values, version, ⟨p, inFlight⟩, tasks, admitted, requests, applied⟩
  obtain rfl : tasks = [task] := ht
  rcases p with _ | nx
  · obtain rfl : waiting = [] := h.pending
    exact ⟨confirmed, [], [], {
      active := h.active
      aim := h.aim
      admitted := h.admitted
      applied := h.applied
      pending := rfl
      requests := h.requests
      inFlight := rfl
      tasks := .inl ⟨rfl, rfl⟩ }⟩
  · have hr : Ready target ⟨active, aim, values, version, ⟨none, some nx⟩, [task], admitted,
        requests, applied⟩ confirmed waiting [] := {
      active := h.active
      aim := h.aim
      admitted := by simpa using h.admitted
      applied := h.applied
      pending := rfl
      requests := h.requests.mono (by simp) }
    exact ⟨confirmed, waiting, [], hr.begin rfl h.pending⟩

/-- What is pending joins a stale batch, and both are sent. -/
lemma Ready.retry (h : Ready target s confirmed sent waiting) {task : MutationTask V}
    (hta : s.tasks = [task]) (hb : Holds target (some batch) sent) (cur : UInt64) :
    Books target ({ s with
        version := some cur
        queue := (s.queue.takePendingForRetry batch.target).2 }.sendBatch 0
      ⟨batch.target, mergeRetryBatch batch.values (s.queue.takePendingForRetry batch.target).1⟩ true)
      confirmed (sent ++ waiting) [] := by
  have ha : s.admitted = confirmed ++ (sent ++ waiting) ++ [] := by
    simpa using h.admitted
  have hr : InOrder target s.admitted s.requests (confirmed ++ (sent ++ waiting)).length :=
    h.requests.mono (by simp)
  have ht : Holds target (s.queue.takePendingForRetry batch.target).2.pending [] ∧
      Covers (s.queue.takePendingForRetry batch.target).1 waiting := by
    have hp := h.pending
    unfold takePendingForRetry
    rcases hq : s.queue.pending with _ | p
    · rw [hq] at hp
      obtain rfl : waiting = [] := hp
      exact ⟨by rw [hq]; rfl, .empty⟩
    · rw [hq] at hp
      have hs : p.target = batch.target := by rw [hp.1, hb.1]
      simp only [hs, if_true]
      exact ⟨rfl, hp.2⟩
  have hrd : Ready target { s with
      version := some cur
      queue := (s.queue.takePendingForRetry batch.target).2 } confirmed (sent ++ waiting) [] :=
    ⟨h.active, h.aim, ha, h.applied, ht.1, hr⟩
  refine hrd.send hta ?_ true
  exact ⟨hb.1, hb.2.merge ht.2⟩

/-- A reply that is no terminal failure. -/
lemma Books.reply (h : Books target s confirmed sent waiting) {task : MutationTask V}
    (hta : s.tasks = [task]) (hb : Holds target (some batch) sent) {retried : Bool} {rp : MutationOutcome}
    (hs : ∀ cur, reconcileOutcome rp retried ≠ .giveUp cur) : ∃ confirmed sent waiting,
      Books target (s.receive 0 batch retried (some rp) true) confirmed sent waiting := by
  have ht : s.target = some batch.target := by rw [h.aim, hb.1]
  unfold receive
  rw [if_neg (not_not_intro h.active), if_neg (not_not_intro ht)]
  rcases ha : reconcileOutcome rp retried with newVersion | cur | cur
  · have hr : Ready target { s with
        version := newVersion.or s.version
        applied := mergeControlValues s.applied batch.values } (confirmed ++ sent) [] waiting := {
      active := h.active
      aim := h.aim
      admitted := by simpa using h.admitted
      applied := h.applied.merge hb.2
      pending := h.pending
      requests := by simpa using h.requests }
    simp only [ha]
    exact hr.commit hta
  · simp only [ha]
    exact ⟨confirmed, sent ++ waiting, [], h.toReady.retry hta hb cur⟩
  · exact absurd ha (hs cur)

/-- Every step of a steady run. -/
lemma Books.step (h : Books target s confirmed sent waiting) {e : SessionEvent D R}
    {s' : Session V} (hs : s.step jsonToControlValue e = some s') (hst : s.Steady e) :
    ∃ confirmed sent waiting, Books target s' confirmed sent waiting := by
  rcases e with ⟨cs, name, raw⟩ | ⟨cs, updates⟩ | ⟨guardPasses⟩ | ⟨task⟩ |
    ⟨task, outcome, guardPasses⟩ | _ | _ | _
  case change =>
    rw [Session.step, h.aim] at hs
    rcases hv : jsonToControlValue name cs raw with _ | v
    · simp only [hv, some.injEq] at hs
      exact ⟨confirmed, sent, waiting, hs ▸ h⟩
    · simp only [hv, some.injEq] at hs
      exact ⟨confirmed, sent, _, h.edited (covers_singleton name v) (by rw [← hs]; rfl)⟩
  case changes =>
    simp only [Session.step, h.aim, some.injEq] at hs
    exact ⟨confirmed, sent, _, h.edited (.collect _) (by rw [← hs]; rfl)⟩
  case flush =>
    simp only [Session.step, some.injEq] at hs
    obtain rfl : guardPasses := hst
    exact hs ▸ h.flush
  case poll =>
    rw [Session.step] at hs
    split at hs
    case h_1 batch ht =>
      obtain ⟨rfl, hta, hb⟩ := h.task ht
      rw [some.injEq] at hs
      exact ⟨confirmed, sent, waiting, hs ▸ h.toReady.begin hta hb⟩
    case h_2 => simp at hs
  case reply =>
    rw [Session.step] at hs
    split at hs
    case h_1 batch retried ht =>
      obtain ⟨rfl, hta, hb⟩ := h.task ht
      obtain ⟨rfl, reply, rfl, hr⟩ := hst
      rw [some.injEq] at hs
      exact hs ▸ h.reply hta hb (hr batch retried ht)
    case h_2 => simp at hs
  all_goals exact hst.elim

lemma books_new (target : String) (values : ControlValueMap V) (initialVersion : Option UInt64) :
    Books target (new (some target) values initialVersion) [] [] [] where
  active := rfl
  aim := rfl
  admitted := rfl
  applied := .empty
  pending := rfl
  requests := ⟨[], .nil, .nil⟩
  inFlight := rfl
  tasks := .inl ⟨rfl, rfl⟩

lemma books_of_reachable (h : (steady jsonToControlValue).Reachable s) :
    ∃ target confirmed sent waiting, Books target s confirmed sent waiting := by
  induction h with
  | init hi =>
    obtain ⟨target, values, initialVersion, rfl⟩ := hi
    exact ⟨target, [], [], [], books_new target values initialVersion⟩
  | step _ hs ih =>
    obtain ⟨target, confirmed, sent, waiting, hb⟩ := ih
    exact ⟨target, hb.step hs.1 hs.2⟩

/-! ## The result -/

lemma lookup_showBatch {p : Option (ControlMutationBatch V)} {edits : List (String × V)}
    (h : Holds target p edits) (server : ControlValueMap V) (c : String) :
    (showBatch target server p).lookup c = (latest edits c).or (server.lookup c) := by
  rcases p with _ | batch
  · obtain rfl : edits = [] := h
    simp [showBatch, latest]
  · simp only [showBatch, h.1, if_true]
    rw [mergeControlValues, lookup_merge, h.2]

/-- The server's values are shown under those of the batch in flight and of the pending one. -/
lemma Books.lookup_reconcileValues (h : Books target s confirmed sent waiting)
    (server : ControlValueMap V) (c : String) : (s.queue.reconcileValues target server).lookup c =
      (latest (sent ++ waiting) c).or (server.lookup c) := by
  rw [reconcileValues, lookup_showBatch h.pending,
    lookup_showBatch h.inFlight, latest_append, Option.or_assoc]

/-- A control in a batch was edited since the last confirmation. -/
lemma Books.latest_isSome_of_batch (h : Books target s confirmed sent waiting) {c : String}
    (hb : s.queue.inFlight = some batch ∨ s.queue.pending = some batch)
    (hc : c ∈ batch.values) : (latest (sent ++ waiting) c).isSome := by
  rw [← AList.lookup_isSome] at hc
  rw [latest_append, isSome_or, Bool.or_eq_true]
  rcases hb with hi | hp
  · have hh := h.inFlight
    rw [hi] at hh
    exact .inr (hh.2 c ▸ hc)
  · have hh := h.pending
    rw [hp] at hh
    exact .inl (hh.2 c ▸ hc)

/-- **Control patch sessions deliver the last value.** -/
theorem last_value_delivered (h : (steady jsonToControlValue).Reachable s) :
    s.tasks.length ≤ 1 ∧ ∃ target, s.target = some target ∧
    (∀ request ∈ s.requests, request.target = target ∧ ∀ control value,
      request.values.lookup control = some value → (control, value) ∈ s.admitted) ∧
    InOrder target s.admitted s.requests s.admitted.length ∧
    (s.queue.pending = none → s.queue.inFlight = none →
      ∀ control, s.applied.lookup control = latest s.admitted control) ∧
    (∀ server control value, latest s.admitted control = some value →
      (s.applied.lookup control ≠ some value ∨ ∃ batch,
        (s.queue.inFlight = some batch ∨ s.queue.pending = some batch) ∧ control ∈ batch.values) →
      (s.queue.reconcileValues target server).lookup control = some value) := by
  obtain ⟨target, confirmed, sent, waiting, hb⟩ := books_of_reachable h
  have hi : InOrder target s.admitted s.requests s.admitted.length := by
    refine hb.requests.mono ?_
    simp only [hb.admitted, length_append]
    omega
  refine ⟨?_, target, hb.aim, ?_, hi, ?_, ?_⟩
  · rcases hb.tasks with ⟨ht, -⟩ | ⟨batch, stage, ht, -⟩
    · simp [ht]
    · simp [ht]
  · obtain ⟨stamps, -, hr⟩ := hi
    intro request hre
    obtain ⟨place, hpl, rfl⟩ := getElem_of_mem hre
    have hs := hr.get hpl (hr.length_eq ▸ hpl)
    refine ⟨hs.1, fun control value hv => ?_⟩
    exact mem_of_mem_take (mem_of_latest (hs.2.2 control value hv))
  · intro hp hif control
    obtain rfl : sent = [] := by simpa [hif, Holds] using hb.inFlight
    obtain rfl : waiting = [] := by simpa [hp, Holds] using hb.pending
    rw [hb.admitted, append_nil, append_nil]
    exact hb.applied control
  · intro server control value hl hu
    rw [hb.admitted, append_assoc, latest_append] at hl
    have hso : (latest (sent ++ waiting) control).isSome := by
      rcases hu with hst | ⟨batch, hba, hc⟩
      · rw [hb.applied] at hst
        by_contra hn
        rw [Bool.not_eq_true, isSome_eq_false_iff, isNone_iff_eq_none] at hn
        rw [hn, none_or] at hl
        exact hst hl
      · exact hb.latest_isSome_of_batch hba hc
    obtain ⟨shown, hsh⟩ := isSome_iff_exists.mp hso
    rw [hsh, some_or] at hl
    rw [hb.lookup_reconcileValues, hsh, some_or, hl]

/-- A slider moved while its first value was out, which came back stale: both values go out in the
retry, and the last one is applied. -/
theorem last_value_delivered_after_stale : ∃ s : Session Nat, s.admitted = [("speed", 1), ("speed", 2)] ∧
      s.applied.lookup "speed" = latest s.admitted "speed" := by
  let normalize : String → Unit → Nat → Option Nat := fun _ _ raw => some raw
  have hn : (steady normalize).Reachable (new (some "effect-a") ∅ none) := .init ⟨_, _, _, rfl⟩
  have he := hn.step (e := change () "speed" 1) ⟨rfl, trivial⟩
  have hf := he.step (e := flush true) ⟨rfl, rfl⟩
  have hp := hf.step (e := poll 0) ⟨rfl, trivial⟩
  have hm := hp.step (e := change () "speed" 2) ⟨rfl, trivial⟩
  have hs := hm.step (e := reply 0 (some (.stale 7)) true)
    ⟨rfl, rfl, .stale 7, rfl, fun batch retried ht => by
      have hst : some (Stage.waiting false) = some (.waiting retried) :=
        congrArg (Option.map MutationTask.stage) ht
      obtain rfl : false = retried := by simpa using hst
      simp [reconcileOutcome]⟩
  have ha := hs.step (e := reply 0 (some (.applied (some 8))) true)
    ⟨rfl, rfl, .applied (some 8), rfl, fun batch retried _ current => by simp [reconcileOutcome]⟩
  obtain ⟨-, target, -, -, -, hd, -⟩ := last_value_delivered ha
  exact ⟨_, rfl, hd rfl rfl "speed"⟩

end Session

end Hypercolor.Controls
