import Hypercolor.LayoutBuilder.Keyed
import Hypercolor.Idempotency.Slot

/-!
# What the answers to a keyed write tell

One write goes out under its key any number of times. Its requests and their responses are delayed,
lost and reordered, other clients commit, the store lets answers go once their request is done, and
the daemon restarts. The daemon runs a request that finds the key free, and commits it only while its
fence is the current revision of its run.

**`answers_true`**: in every run in which the daemon is *steady* about the request,

* after a final apply exactly one attempt was committed, and no other ever is;
* after a final refusal none was, and none ever is;
* after `OtherRun` and `Forgotten` none is committed later than the answer was given.

The daemon is steady if every execution of the request answers, with success exactly when it was
committed, and if a refusal other than for what the scene holds is given to every attempt. It is not
steady when it turns an attempt away for its rate limit: the attempt before it may still be on its
way, so that the refusal is final and the write is committed later, **`refused_then_committed`**.

A key of the store is a `KeySlot`, which the store refines (`World.slot_step`).
-/

namespace Hypercolor.LayoutBuilder

open Lib List Function
open Idempotency (StoredResponse Outcome KeySlot)

/-! ## A write and its attempts -/

/-- A write that goes out under a key, fenced at a revision of a run that has a name. -/
structure KeyedWrite where
  run : String
  fence : Nat
  named : run ≠ ""

/-- Where an attempt is, and what became of it. -/
inductive Fate where
  | unsent
  | travelling
  | waiting
  | running
  | committed
  | refused (status : Nat)
  | served
  | ended
deriving DecidableEq

/-- A response on its way back, with the commits of the write by the time it was given. -/
structure Reply where
  attempt : Nat
  run : String
  replayed : Bool
  response : StoredResponse
  given : List Nat

/-- The daemon, the network and the client, as far as one write is concerned. -/
structure Line where
  run : String
  past : List String
  revision : Nat
  sent : Nat
  unanswered : Nat
  fate : Nat → Fate
  slot : KeySlot Nat
  replies : List Reply
  commits : List Nat

/-- `abandoned`: the response to a request that ended without one. Only its status counts. -/
def answerOf : Outcome → StoredResponse
  | .answered response => response
  | .abandoned => ⟨500, [], []⟩

/-- What a waiting attempt becomes when it is answered. -/
def Fate.answered : Fate → Fate
  | .waiting => .served
  | fate => fate

/-- What an attempt becomes when the daemon restarts. -/
def Fate.restarted : Fate → Fate
  | .waiting | .running => .ended
  | fate => fate

namespace Line

/-- The fence of the write is the current revision of its run. -/
def Current (w : KeyedWrite) (s : Line) : Prop := s.run = w.run ∧ s.revision = w.fence

instance (w : KeyedWrite) (s : Line) : Decidable (s.Current w) := by
  unfold Current
  infer_instance

/-- A response of the daemon's current run. -/
def answer (s : Line) (attempt : Nat) (replayed : Bool) (response : StoredResponse) : Reply :=
  ⟨attempt, s.run, replayed, response, s.commits⟩

/-- The replays of an answer to the attempts that wait for it. -/
def answerWaiting (s : Line) (response : StoredResponse) : List Reply :=
  ((range s.sent).filter fun k => s.fate k = .waiting).map fun k => s.answer k true response

def setFate (s : Line) (k : Nat) (fate : Fate) : Line :=
  { s with fate := update s.fate k fate }

/-- The next attempt goes out. -/
def attempts (s : Line) (unanswered : Nat) : Line :=
  { s.setFate s.sent .travelling with sent := s.sent + 1, unanswered := unanswered }

end Line

/-- What can happen to a write. -/
inductive LineEvent where
  | send
  | retry
  | resend
  | loseRequest (attempt : Nat)
  | loseReply (reply : Reply)
  | turnAway (attempt : Nat) (response : StoredResponse)
  | busy (attempt : Nat) (response : StoredResponse)
  | arrive (attempt : Nat)
  | commit (revision : Nat)
  | refuse (status : Nat)
  | settle (outcome : Outcome)
  | letGo
  | remoteCommit (revision : Nat)
  | restart (run : String) (revision : Nat)

/-- One step. The daemon refuses a request whose fence is not current with one of the statuses that
turn on what the scene holds, and executes nothing else under a key that is taken. -/
inductive LineStep {T : Type} (reader : BodyReader T) (w : KeyedWrite) :
    Line → LineEvent → Line → Prop where
  | send (s : Line) (hsent : s.sent = 0) : LineStep reader w s .send (s.attempts 0)
  | retry (s : Line) (hsent : 1 ≤ s.sent) :
      LineStep reader w s .retry (s.attempts (s.unanswered + 1))
  | resend (s : Line) (hsent : 2 ≤ s.sent) : LineStep reader w s .resend (s.attempts 2)
  | loseRequest (s : Line) (k : Nat) (hk : s.fate k = .travelling) :
      LineStep reader w s (.loseRequest k) (s.setFate k .ended)
  | loseReply (s : Line) (before after : List Reply) (r : Reply)
      (hr : s.replies = before ++ r :: after) :
      LineStep reader w s (.loseReply r) { s with replies := before ++ after }
  | turnAway (s : Line) (k : Nat) (response : StoredResponse) (hk : s.fate k = .travelling)
      (hrefused : success response.status = false)
      (hstale : ¬ s.Current w → mayBeItsOwnDoing response.status) :
      LineStep reader w s (.turnAway k response)
        { s.setFate k .ended with replies := s.answer k false response :: s.replies }
  | busy (s : Line) (k : Nat) (response : StoredResponse) (hk : s.fate k = .travelling)
      (hslot : s.slot = .free) (hstatus : response.status = 503)
      (htry : (reader.error response).1 = some tryAgainCode) :
      LineStep reader w s (.busy k response)
        { s.setFate k .ended with replies := s.answer k false response :: s.replies }
  | execute (s : Line) (k : Nat) (hk : s.fate k = .travelling) (hslot : s.slot = .free) :
      LineStep reader w s (.arrive k) { s.setFate k .running with slot := .running k }
  | wait (s : Line) (k executor : Nat) (hk : s.fate k = .travelling)
      (hslot : s.slot = .running executor) :
      LineStep reader w s (.arrive k) (s.setFate k .waiting)
  | replay (s : Line) (k executor : Nat) (outcome : Outcome) (hk : s.fate k = .travelling)
      (hslot : s.slot = .done executor outcome) :
      LineStep reader w s (.arrive k)
        { s.setFate k .served with replies := s.answer k true (answerOf outcome) :: s.replies }
  | commit (s : Line) (executor revision : Nat) (hslot : s.slot = .running executor)
      (hrunning : s.fate executor = .running) (hcurrent : s.Current w)
      (hrevision : s.revision < revision) :
      LineStep reader w s (.commit revision)
        { s.setFate executor .committed with revision := revision, commits := executor :: s.commits }
  | refuse (s : Line) (executor status : Nat) (hslot : s.slot = .running executor)
      (hrunning : s.fate executor = .running) (hrefused : success status = false)
      (hstale : ¬ s.Current w → mayBeItsOwnDoing status) :
      LineStep reader w s (.refuse status) (s.setFate executor (.refused status))
  | settle (s : Line) (executor : Nat) (outcome : Outcome) (hslot : s.slot = .running executor)
      (hdecided : s.fate executor = .running → outcome = .abandoned) :
      LineStep reader w s (.settle outcome)
        { s with
          slot := .done executor outcome
          fate := fun k => if k = executor ∧ s.fate k = .running then .ended else (s.fate k).answered
          replies := s.answer executor false (answerOf outcome) ::
            s.answerWaiting (answerOf outcome) ++ s.replies }
  | letGo (s : Line) (executor : Nat) (outcome : Outcome) (hslot : s.slot = .done executor outcome) :
      LineStep reader w s .letGo { s with slot := .free }
  | remoteCommit (s : Line) (revision : Nat) (hrevision : s.revision < revision) :
      LineStep reader w s (.remoteCommit revision) { s with revision := revision }
  | restart (s : Line) (run : String) (revision : Nat) (hnew : run ≠ s.run) (hfresh : run ∉ s.past) :
      LineStep reader w s (.restart run revision)
        { s with
          run := run
          past := s.run :: s.past
          revision := revision
          slot := .free
          fate := fun k => (s.fate k).restarted }

/-- Nothing has been sent, and the fence was a revision of its run. -/
def Line.Initial (w : KeyedWrite) (s : Line) : Prop :=
  s.sent = 0 ∧ s.unanswered = 0 ∧ (∀ k, s.fate k = .unsent) ∧ s.slot = .free ∧ s.replies = [] ∧
    s.commits = [] ∧ (s.run = w.run ∨ w.run ∈ s.past) ∧ (s.run = w.run → w.fence ≤ s.revision)

/-- The daemon, the network and the client as a machine. -/
def lineMachine {T : Type} (reader : BodyReader T) (w : KeyedWrite) : Machine Line LineEvent where
  init s := s.Initial w
  step := LineStep reader w

/-! ## Steady daemons -/

/-- The daemon is steady about a request that it takes (`none`), or always refuses with one status:
no attempt is turned away but for that, every execution at the fence does the same, and it answers
what it did. -/
def Line.Steady (w : KeyedWrite) (refusal : Option Nat) (s : Line) : LineEvent → Prop
  | .turnAway _ response =>
      refusal = some response.status ∧ mayBeItsOwnDoing response.status = false
  | .commit _ => refusal = none
  | .refuse status =>
      s.Current w → refusal = some status ∧ mayBeItsOwnDoing status = false
  | .settle outcome => ∀ executor, s.slot = .running executor →
      ∃ response, outcome = .answered response ∧
          (s.fate executor = .committed → success response.status) ∧
        ∀ status, s.fate executor = .refused status → response.status = status
  | _ => True

/-- The runs in which the daemon is steady. -/
def steadyMachine {T : Type} (reader : BodyReader T) (w : KeyedWrite) (refusal : Option Nat) :
    Machine Line LineEvent where
  init s := s.Initial w
  step s event s' := LineStep reader w s event s' ∧ s.Steady w refusal event

/-! ## The fence -/

/-- The fates that are final. -/
def Fate.Closed : Fate → Prop
  | .committed | .refused _ | .served => True
  | _ => False

namespace Line

variable {T : Type} {reader : BodyReader T} {w : KeyedWrite} {s s' : Line} {event : LineEvent}

/-- The fence is past, for good. -/
def Dead (w : KeyedWrite) (s : Line) : Prop := s.run ≠ w.run ∨ w.fence < s.revision

/-- The run of the fence is known, and has come at least to it. -/
structure Grounded (w : KeyedWrite) (s : Line) : Prop where
  known : s.run = w.run ∨ w.run ∈ s.past
  floor : s.run = w.run → w.fence ≤ s.revision

lemma Grounded.dead_of_not_current (h : s.Grounded w) (hs : ¬ s.Current w) : s.Dead w := by
  by_cases hr : s.run = w.run
  · have hl := h.floor hr
    have hn : s.revision ≠ w.fence := fun he => hs ⟨hr, he⟩
    exact .inr (by omega)
  · exact .inl hr

lemma Current.not_dead (h : s.Current w) : ¬ s.Dead w := by
  rintro (hru | hr)
  · exact hru h.1
  · rw [h.2] at hr
    exact lt_irrefl _ hr

/-- What every later state keeps: the attempts that are out, the fates that are final, a fence that
is past, and with it the commits. -/
structure Extends (w : KeyedWrite) (s s' : Line) : Prop where
  sent : s.sent ≤ s'.sent
  closed : ∀ k, (s.fate k).Closed → s'.fate k = s.fate k
  dead : s.Dead w → s'.Dead w
  commits : s.Dead w → s'.commits = s.commits

lemma Extends.of_env (hs : s.sent ≤ s'.sent)
    (hc : ∀ k, (s.fate k).Closed → s'.fate k = s.fate k) (hr : s'.run = s.run)
    (hre : s.revision ≤ s'.revision) (hco : s'.commits = s.commits) : s.Extends w s' := by
  refine ⟨hs, hc, ?_, fun _ => hco⟩
  rintro (hoh | hp)
  · exact .inl (hr ▸ hoh)
  · exact .inr (hp.trans_le hre)

variable {fate : Fate}

lemma closed_update {f : Nat → Fate} {j : Nat} (hon : ¬ (f j).Closed) (k : Nat)
    (hk : (f k).Closed) : update f j fate k = f k := by
  refine update_of_ne ?_ _ _
  rintro rfl
  exact hon hk

lemma closed_answered (h : fate.Closed) : fate.answered = fate := by
  cases fate <;> first | rfl | exact h.elim

lemma closed_restarted (h : fate.Closed) : fate.restarted = fate := by
  cases fate <;> first | rfl | exact h.elim

variable {k executor status : Nat}

lemma not_closed_travelling (h : s.fate k = .travelling) : ¬ (s.fate k).Closed := by
  rw [h]
  exact id

lemma not_closed_running (h : s.fate k = .running) : ¬ (s.fate k).Closed := by
  rw [h]
  exact id

/-- **One step** keeps the ground and extends the state. -/
theorem Grounded.step (h : s.Grounded w) (hu : s.fate s.sent = .unsent)
    (hs : LineStep reader w s event s') : s'.Grounded w ∧ s.Extends w s' := by
  have hn : ¬ (s.fate s.sent).Closed := by
    rw [hu]
    exact id
  cases hs with
  | send _ | retry _ | resend _ =>
    exact ⟨⟨h.known, h.floor⟩, .of_env (Nat.le_succ _) (closed_update hn) rfl le_rfl rfl⟩
  | loseRequest k hk | turnAway k _ hk _ _ | busy k _ hk _ _ _ | execute k hk _ | wait k _ hk _
  | replay k _ _ hk _ =>
    exact ⟨⟨h.known, h.floor⟩, .of_env le_rfl (closed_update (not_closed_travelling hk)) rfl le_rfl rfl⟩
  | loseReply _ _ _ _ | letGo _ _ _ =>
    exact ⟨⟨h.known, h.floor⟩, .of_env le_rfl (fun _ _ => rfl) rfl le_rfl rfl⟩
  | commit executor rev _ hrn hc hre =>
    refine ⟨⟨h.known, fun hr => (h.floor hr).trans hre.le⟩, le_rfl,
      closed_update (not_closed_running hrn), fun hd => ?_, fun hd => ?_⟩
    iterate 2 exact absurd hd hc.not_dead
  | refuse executor _ _ hrn _ _ =>
    exact ⟨⟨h.known, h.floor⟩, .of_env le_rfl (closed_update (not_closed_running hrn)) rfl le_rfl rfl⟩
  | settle executor oc _ _ =>
    refine ⟨⟨h.known, h.floor⟩, .of_env le_rfl (fun k hk => ?_) rfl le_rfl rfl⟩
    dsimp only
    rw [if_neg fun hon => not_closed_running hon.2 hk]
    exact closed_answered hk
  | remoteCommit rev hre =>
    exact ⟨⟨h.known, fun hr => (h.floor hr).trans hre.le⟩, .of_env le_rfl (fun _ _ => rfl) rfl hre.le rfl⟩
  | restart run rev hne hf =>
    -- The new run is not the fence's, which has been.
    have hoh : run ≠ w.run := by
      rintro rfl
      rcases h.known with hr | hp
      · exact hne hr.symm
      · exact hf hp
    refine ⟨⟨.inr ?_, fun hr => absurd hr hoh⟩, le_rfl, fun k hk => closed_restarted hk,
      fun _ => .inl hoh, fun _ => rfl⟩
    rcases h.known with hr | hp
    · exact hr ▸ mem_cons_self
    · exact mem_cons_of_mem _ hp

/-! ## What the fates record -/

/-- What the fates tell of the commits and of the refusals. -/
structure Recorded (w : KeyedWrite) (refusal : Option Nat) (s : Line) : Prop where
  unsent : ∀ k, s.sent ≤ k → s.fate k = .unsent
  first : s.unanswered = 0 → s.sent ≤ 1
  second : s.unanswered = 1 → s.sent ≤ 2
  committed : ∀ k, k ∈ s.commits ↔ s.fate k = .committed
  once : s.commits.length ≤ 1
  spent : s.commits ≠ [] → s.Dead w ∧ refusal = none
  stale : ∀ k status, s.fate k = .refused status → success status = false ∧
    (mayBeItsOwnDoing status → s.Dead w)
  fixed : ∀ k status, s.fate k = .refused status → mayBeItsOwnDoing status = false →
    refusal = some status

variable {refusal : Option Nat}

section

variable (h : s.Recorded w refusal)
include h

/-- An open attempt goes on, with nothing decided. -/
lemma Recorded.setFate (hk : k < s.sent) (hon : ¬ (s.fate k).Closed)
    (hp : fate ≠ .committed ∧ ∀ status, fate ≠ .refused status) :
    (s.setFate k fate).Recorded w refusal := by
  have hke : ∀ j o, update s.fate k fate j = o → fate ≠ o → s.fate j = o := by
    intro j o hj hn
    rw [update_apply] at hj
    split_ifs at hj
    · exact absurd hj hn
    · exact hj
  refine ⟨fun j hj => ?_, h.first, h.second, fun j => ?_, h.once, h.spent, fun j status hj => ?_,
    fun j status hj => ?_⟩
  · have hn : j ≠ k := fun he => absurd hk (he ▸ hj).not_gt
    exact (update_of_ne hn _ _).trans (h.unsent j hj)
  · refine (h.committed j).trans ⟨fun hj => ?_, fun hj => hke j _ hj hp.1⟩
    exact (closed_update hon j (by rw [hj]; trivial)).trans hj
  · exact h.stale j status (hke j _ hj (hp.2 status))
  · exact h.fixed j status (hke j _ hj (hp.2 status))

lemma Recorded.lt_sent (hk : s.fate k ≠ .unsent) : k < s.sent := by
  by_contra hl
  exact hk (h.unsent k (not_lt.mp hl))

lemma Recorded.travelling_lt (hk : s.fate k = .travelling) :
    k < s.sent := h.lt_sent (by rw [hk]; exact Fate.noConfusion)

/-- The next attempt goes out. -/
lemma Recorded.attempts {un : Nat} (hf : un = 0 → s.sent = 0)
    (hs : un = 1 → s.sent ≤ 1) : (s.attempts un).Recorded w refusal := by
  have hn := h.unsent s.sent le_rfl
  have hk : ∀ j o, update s.fate s.sent .travelling j = o → .travelling ≠ o → s.fate j = o := by
    intro j o hj hne
    rw [update_apply] at hj
    split_ifs at hj
    · exact absurd hj hne
    · exact hj
  refine ⟨fun j hj => ?_, fun h0 => ?_, fun h1 => ?_, fun j => ?_, h.once, h.spent,
    fun j status hj => ?_, fun j status hj => ?_⟩
  · have hl : s.sent < j := hj
    exact (update_of_ne hl.ne' _ _).trans (h.unsent j hl.le)
  · exact (congrArg (· + 1) (hf h0)).le
  · exact Nat.succ_le_succ (hs h1)
  · refine (h.committed j).trans ⟨fun hj => ?_, fun hj => hk j _ hj Fate.noConfusion⟩
    refine (closed_update ?_ j (by rw [hj]; trivial)).trans hj
    rw [hn]
    exact id
  · exact h.stale j status (hk j _ hj Fate.noConfusion)
  · exact h.fixed j status (hk j _ hj Fate.noConfusion)

/-- What the clock, the store and the network do to no fate. -/
lemma Recorded.of_env (hs : s'.sent = s.sent) (hu : s'.unanswered = s.unanswered)
    (hco : s'.commits = s.commits) (hd : s.Dead w → s'.Dead w)
    (hun : ∀ k, s.fate k = .unsent → s'.fate k = .unsent)
    (hc : ∀ k, s'.fate k = .committed ↔ s.fate k = .committed)
    (hre : ∀ k status, s'.fate k = .refused status → s.fate k = .refused status) :
    s'.Recorded w refusal := by
  refine ⟨fun k hk => hun k (h.unsent k (hs ▸ hk)), ?_, ?_, fun k => ?_, ?_, ?_, ?_, ?_⟩
  · rw [hu, hs]
    exact h.first
  · rw [hu, hs]
    exact h.second
  · rw [hco]
    exact (h.committed k).trans (hc k).symm
  · rw [hco]
    exact h.once
  · rw [hco]
    exact fun hn => ⟨hd (h.spent hn).1, (h.spent hn).2⟩
  · intro k status hk
    obtain ⟨hr, hst⟩ := h.stale k status (hre k status hk)
    exact ⟨hr, fun how => hd (hst how)⟩
  · exact fun k status hk => h.fixed k status (hre k status hk)

end

/-- The write is committed, by the attempt that runs. -/
lemma Recorded.commit (h : s.Recorded w refusal) {rev : Nat}
    (hrn : s.fate executor = .running) (hcu : s.Current w) (hre : s.revision < rev)
        (hs : refusal = none) :
    Recorded w refusal { s.setFate executor .committed with
      revision := rev
      commits := executor :: s.commits } := by
  have hn : s.commits = [] := by
    by_contra hne
    exact hcu.not_dead (h.spent hne).1
  have hp : w.fence < rev := hcu.2 ▸ hre
  have hl : executor < s.sent := h.lt_sent (by rw [hrn]; exact Fate.noConfusion)
  have hr : ∀ k status, update s.fate executor .committed k = .refused status →
      s.fate k = .refused status := by
    intro k status hk
    rw [update_apply] at hk
    split_ifs at hk
    exact hk
  refine ⟨fun k hk => ?_, h.first, h.second, fun k => ?_, ?_, fun _ => ⟨.inr hp, hs⟩,
    fun k status hk => ⟨(h.stale k status (hr k status hk)).1, fun _ => .inr hp⟩,
    fun k status hk => h.fixed k status (hr k status hk)⟩
  · have hne : k ≠ executor := fun he => absurd hl (he ▸ hk).not_gt
    exact (update_of_ne hne _ _).trans (h.unsent k hk)
  · show k ∈ executor :: s.commits ↔ update s.fate executor .committed k = .committed
    rw [hn, mem_singleton, update_apply]
    split_ifs with hk
    · exact iff_of_true hk rfl
    · refine iff_of_false hk fun hc => ?_
      have hm := (h.committed k).mpr hc
      rw [hn] at hm
      cases hm
  · show (executor :: s.commits).length ≤ 1
    rw [hn]
    exact le_rfl

/-- The attempt that runs is refused. -/
lemma Recorded.refuse (h : s.Recorded w refusal) (hg : s.Grounded w)
    (hrn : s.fate executor = .running) (hr : success status = false)
    (hst : ¬ s.Current w → mayBeItsOwnDoing status)
    (hs : s.Current w → refusal = some status ∧ mayBeItsOwnDoing status = false) :
    (s.setFate executor (.refused status)).Recorded w refusal := by
  have hl : executor < s.sent := h.lt_sent (by rw [hrn]; exact Fate.noConfusion)
  have hc : ∀ k o, update s.fate executor (.refused status) k = .refused o →
      s.fate k = .refused o ∨ o = status := by
    intro k o hk
    rw [update_apply] at hk
    split_ifs at hk
    · exact .inr (Fate.refused.inj hk).symm
    · exact .inl hk
  refine ⟨fun k hk => ?_, h.first, h.second, fun k => ?_, h.once, h.spent,
    fun k o hk => ?_, fun k o hk => ?_⟩
  · have hne : k ≠ executor := fun he => absurd hl (he ▸ hk).not_gt
    exact (update_of_ne hne _ _).trans (h.unsent k hk)
  · refine (h.committed k).trans ⟨fun hk => ?_, fun hk => ?_⟩
    · exact (closed_update (not_closed_running hrn) k (by rw [hk]; trivial)).trans hk
    · have hk' : update s.fate executor (.refused status) k = .committed := hk
      rw [update_apply] at hk'
      split_ifs at hk'
      exact hk'
  · rcases hc k o hk with hold | rfl
    · exact h.stale k o hold
    · refine ⟨hr, fun how => hg.dead_of_not_current fun hcu => ?_⟩
      rw [(hs hcu).2] at how
      cases how
  · rcases hc k o hk with hold | rfl
    · exact h.fixed k o hold
    · intro how
      refine (hs ?_).1
      by_contra hn
      rw [hst hn] at how
      cases how

lemma answered_eq_committed : fate.answered = .committed ↔ fate = .committed := by
  cases fate <;> simp [Fate.answered]

lemma answered_eq_refused : fate.answered = .refused status ↔ fate = .refused status := by
  cases fate <;> simp [Fate.answered]

lemma restarted_eq_committed : fate.restarted = .committed ↔ fate = .committed := by
  cases fate <;> simp [Fate.restarted]

lemma restarted_eq_refused : fate.restarted = .refused status ↔ fate = .refused status := by
  cases fate <;> simp [Fate.restarted]

/-- **One step** keeps the record. -/
theorem Recorded.step (h : s.Recorded w refusal) (hg : s.Grounded w)
    (hs : LineStep reader w s event s') (hsd : s.Steady w refusal event) : s'.Recorded w refusal := by
  have he := (hg.step (h.unsent s.sent le_rfl) hs).2
  have ht {k : Nat} (hk : s.fate k = .travelling) {fate : Fate}
      (hf : fate ≠ .committed ∧ ∀ status, fate ≠ .refused status) :
          (s.setFate k fate).Recorded w refusal :=
    h.setFate (h.travelling_lt hk) (not_closed_travelling hk) hf
  cases hs with
  | send hse => exact h.attempts (fun _ => hse) nofun
  | retry hse =>
    refine h.attempts nofun fun hoe => h.first ?_
    omega
  | resend _ => exact h.attempts nofun nofun
  | loseRequest k hk | wait k _ hk _ => exact ht hk ⟨nofun, nofun⟩
  | loseReply _ _ _ _ | letGo _ _ _ =>
    exact h.of_env rfl rfl rfl id (fun _ => id) (fun _ => Iff.rfl) fun _ _ => id
  | turnAway k _ hk _ _ | busy k _ hk _ _ _ | execute k hk _ | replay k _ _ hk _ =>
    refine (ht hk ?_).of_env rfl rfl rfl id (fun _ => id) (fun _ => Iff.rfl) fun _ _ => id
    exact ⟨nofun, nofun⟩
  | commit executor rev _ hr hc hrv =>
    exact h.commit hr hc hrv hsd
  | refuse executor status _ hr hre hst =>
    exact h.refuse hg hr hre hst hsd
  | settle executor oc _ _ =>
    refine h.of_env rfl rfl rfl id (fun k hk => ?_) (fun k => ?_) fun k status hk => ?_
    · simp [hk, Fate.answered]
    · dsimp only
      split_ifs with hon
      · simp [hon.2]
      · exact answered_eq_committed
    · dsimp only at hk
      split_ifs at hk
      exact answered_eq_refused.mp hk
  | remoteCommit rev _ =>
    exact h.of_env rfl rfl rfl he.dead (fun _ => id) (fun _ => Iff.rfl) fun _ _ => id
  | restart run rev _ _ =>
    refine h.of_env rfl rfl rfl he.dead (fun k hk => ?_) (fun _ => restarted_eq_committed)
      fun _ _ => restarted_eq_refused.mp
    simp [hk, Fate.restarted]

/-! ## What the key holds -/

/-- The status is what an execution answered: the one that was committed, or one that was refused. -/
def Origin (s : Line) (executor status : Nat) : Prop :=
  s.fate executor = .committed ∧ success status ∨ s.fate executor = .refused status

lemma Origin.extends (h : s.Origin executor status) (he : s.Extends w s') :
    s'.Origin executor status := by
  rcases h with ⟨hf, hs⟩ | hf
  · exact .inl ⟨(he.closed executor (by rw [hf]; trivial)).trans hf, hs⟩
  · exact .inr ((he.closed executor (by rw [hf]; trivial)).trans hf)

/-- The key is held by the one attempt that runs, and then by its answer. -/
structure Held (s : Line) : Prop where
  running : ∀ k, s.fate k = .running → s.slot = .running k
  runs : ∀ k, s.slot = .running k →
    s.fate k = .running ∨ s.fate k = .committed ∨ ∃ status, s.fate k = .refused status
  done : ∀ k outcome, s.slot = .done k outcome → s.Origin k (answerOf outcome).status

lemma Held.of_env (h : s.Held) (he : s.Extends w s') (hs : s'.slot = s.slot)
    (hr : ∀ k, s'.fate k = .running ↔ s.fate k = .running) : s'.Held := by
  refine ⟨fun k hk => hs ▸ h.running k ((hr k).mp hk), fun k hk => ?_, fun k oc hk => ?_⟩
  · rcases h.runs k (hs ▸ hk) with hf | hf | ⟨status, hf⟩
    · exact .inl ((hr k).mpr hf)
    · exact .inr (.inl ((he.closed k (by rw [hf]; trivial)).trans hf))
    · exact .inr (.inr ⟨status, (he.closed k (by rw [hf]; trivial)).trans hf⟩)
  · exact (h.done k oc (hs ▸ hk)).extends he

/-- An attempt that does not run goes on, and still does not. -/
lemma running_update (hk : s.fate k ≠ .running) (hf : fate ≠ .running) (j : Nat) :
    update s.fate k fate j = .running ↔ s.fate j = .running := by
  rw [update_apply]
  split_ifs with hj
  · exact iff_of_false hf (hj ▸ hk)
  · exact Iff.rfl

lemma not_running_of_travelling (h : s.fate k = .travelling) : s.fate k ≠ .running := by
  rw [h]
  exact Fate.noConfusion

/-- The attempt that runs is decided. -/
lemma Held.decided (h : s.Held) (he : s.Extends w s') (hs : s.slot = .running executor)
    (hs' : s'.slot = s.slot) (hfa : s'.fate = update s.fate executor fate)
    (hf : fate = .committed ∨ ∃ status, fate = .refused status) : s'.Held := by
  have hse : s'.fate executor = fate := by rw [hfa, update_self]
  refine ⟨fun k hk => ?_, fun k hk => ?_, fun k oc hk => ?_⟩
  · have hn : k ≠ executor := by
      rintro rfl
      rw [hse] at hk
      rcases hf with rfl | ⟨status, rfl⟩ <;> cases hk
    rw [hfa, update_of_ne hn] at hk
    have hoh := hs.symm.trans (h.running k hk)
    exact absurd (KeySlot.running.inj hoh).symm hn
  · have heq := hs.symm.trans (hs'.symm.trans hk)
    obtain rfl := KeySlot.running.inj heq
    exact .inr (hse ▸ hf)
  · exact (h.done k oc (hs' ▸ hk)).extends he

/-- **One step** keeps what the key holds. -/
theorem Held.step (h : s.Held) (hg : s.Grounded w) (hrc : s.Recorded w refusal)
    (hst : LineStep reader w s event s') (hsd : s.Steady w refusal event) : s'.Held := by
  have hn := hrc.unsent s.sent le_rfl
  have hi : s.fate s.sent ≠ .running := by
    rw [hn]
    exact Fate.noConfusion
  have he := (hg.step hn hst).2
  cases hst with
  | send _ | retry _ | resend _ => exact h.of_env he rfl (running_update hi Fate.noConfusion)
  | loseRequest k hk | turnAway k _ hk _ _ | busy k _ hk _ _ _ | wait k _ hk _ | replay k _ _ hk _ =>
    exact h.of_env he rfl (running_update (not_running_of_travelling hk) Fate.noConfusion)
  | loseReply _ _ _ _ | remoteCommit _ _ => exact h.of_env he rfl fun _ => Iff.rfl
  | execute k hk hs =>
    refine ⟨fun j hj => ?_, fun j hj => ?_, fun j oc hj => ?_⟩
    · have hj' : update s.fate k .running j = .running := hj
      rw [update_apply] at hj'
      split_ifs at hj' with heq
      · rw [heq]
      · rw [h.running j hj'] at hs
        cases hs
    · obtain rfl := KeySlot.running.inj hj
      exact .inl (update_self ..)
    · cases hj
  | commit executor rev hs _ _ _ => exact h.decided he hs rfl rfl (.inl rfl)
  | refuse executor status hs _ _ _ => exact h.decided he hs rfl rfl (.inr ⟨status, rfl⟩)
  | settle executor oc hs hd =>
    obtain ⟨resp, rfl, hc, hre⟩ := hsd executor hs
    -- The daemon is steady, so that the request was decided before it was answered.
    have hno : s.fate executor ≠ .running := fun hr => nomatch hd hr
    refine ⟨fun j hj => ?_, nofun, fun j oc hj => ?_⟩
    · dsimp only at hj
      have hr : s.fate j = .running := by
        rcases hf : s.fate j <;> simp_all [Fate.answered]
      have heq := hs.symm.trans (h.running j hr)
      exact absurd (KeySlot.running.inj heq ▸ hr) hno
    · obtain ⟨rfl, rfl⟩ := KeySlot.done.inj hj
      rcases h.runs _ hs with hf | hf | ⟨status, hf⟩
      · exact absurd hf hno
      · exact (Origin.extends (.inl ⟨hf, hc hf⟩) he)
      · exact (Origin.extends (.inr (hf.trans (by rw [← hre status hf]; rfl))) he)
  | letGo executor oc hs =>
    refine ⟨fun j hj => ?_, nofun, nofun⟩
    rw [h.running j hj] at hs
    cases hs
  | restart run rev _ _ =>
    refine ⟨fun j hj => ?_, nofun, nofun⟩
    rcases hf : s.fate j <;> simp_all [Fate.restarted]

/-! ## What the responses tell -/

/-- Where a response comes from: the daemon was busy, or turned the attempt away for good, or it is
the answer of an execution, of the attempt itself unless it is a replay. -/
def Comes (reader : BodyReader T) (refusal : Option Nat) (s : Line) (r : Reply) : Prop :=
  r.response.status = 503 ∧ (reader.error r.response).1 = some tryAgainCode ∨
    refusal = some r.response.status ∧ success r.response.status = false ∨
    ∃ executor, s.Origin executor r.response.status ∧ (r.replayed → s.fate r.attempt = .served)

/-- A response of another run, or about what the scene holds, was given when the fence was past. -/
structure Told (reader : BodyReader T) (w : KeyedWrite) (refusal : Option Nat) (s : Line)
    (r : Reply) : Prop where
  comes : s.Comes reader refusal r
  late : r.run ≠ w.run ∨ mayBeItsOwnDoing r.response.status →
    s.Dead w ∧ s.commits = r.given

variable {r : Reply}

lemma Told.extends (h : s.Told reader w refusal r) (he : s.Extends w s') :
    s'.Told reader w refusal r := by
  refine ⟨?_, fun hl => ?_⟩
  · rcases h.comes with hb | ht | ⟨executor, hor, hs⟩
    · exact .inl hb
    · exact .inr (.inl ht)
    · refine .inr (.inr ⟨executor, hor.extends he, fun hr => ?_⟩)
      have hf := hs hr
      exact (he.closed _ (by rw [hf]; trivial)).trans hf
  · obtain ⟨hd, hc⟩ := h.late hl
    exact ⟨he.dead hd, (he.commits hd).trans hc⟩

variable {resp : StoredResponse}

/-- A response that is given now. -/
lemma Told.given {replayed : Bool}
    (hc : s'.Comes reader refusal (s.answer k replayed resp)) (hr : s'.run = s.run)
    (hco : s'.commits = s.commits) (how : mayBeItsOwnDoing resp.status → s'.Dead w) :
    s'.Told reader w refusal (s.answer k replayed resp) := by
  refine ⟨hc, ?_⟩
  rintro (hoh | hs)
  · exact ⟨.inl (hr ▸ hoh), hco⟩
  · exact ⟨how hs, hco⟩

lemma ownDoing_not_success (h : mayBeItsOwnDoing status) : success status = false := by
  simp only [mayBeItsOwnDoing, decide_eq_true_eq] at h
  rcases h with rfl | rfl | rfl <;> rfl

/-- What an execution answered is about the scene only if the fence is past. -/
lemma Recorded.dead_of_origin (h : s.Recorded w refusal) (hor : s.Origin executor status)
    (how : mayBeItsOwnDoing status) : s.Dead w := by
  rcases hor with ⟨-, hs⟩ | hr
  · rw [ownDoing_not_success how] at hs
    cases hs
  · exact (h.stale executor status hr).2 how

/-- **One step** keeps what the responses tell. -/
theorem Told.step (ht : ∀ r ∈ s.replies, s.Told reader w refusal r) (hg : s.Grounded w)
    (hrc : s.Recorded w refusal) (hh : s.Held) (hs : LineStep reader w s event s')
    (hsd : s.Steady w refusal event) : ∀ r ∈ s'.replies, s'.Told reader w refusal r := by
  have he := (hg.step (hrc.unsent s.sent le_rfl) hs).2
  have hrc' := hrc.step hg hs hsd
  have hh' := hh.step hg hrc hs hsd
  have hold : ∀ r ∈ s.replies, s'.Told reader w refusal r := fun r hr => (ht r hr).extends he
  cases hs with
  | send _ | retry _ | resend _ | loseRequest _ _ | execute _ _ _ | wait _ _ _ _ | commit _ _ _ _ _ _
  | refuse _ _ _ _ _ _ | letGo _ _ _ | remoteCommit _ _ | restart _ _ _ _ => exact hold
  | loseReply before after r hr =>
    intro o hoh
    refine hold o ?_
    rw [hr]
    rcases mem_append.mp hoh with hm | hm
    · exact mem_append_left _ hm
    · exact mem_append_right _ (mem_cons_of_mem _ hm)
  | turnAway k resp _ hrf _ =>
    obtain ⟨hre, how⟩ := hsd
    refine forall_mem_cons.mpr ⟨.given (.inr (.inl ⟨hre, hrf⟩)) rfl rfl ?_, hold⟩
    rw [how]
    exact nofun
  | busy k resp _ _ hst htr =>
    refine forall_mem_cons.mpr ⟨.given (.inl ⟨hst, htr⟩) rfl rfl ?_, hold⟩
    rw [hst]
    exact nofun
  | replay k executor oc _ hsl =>
    have hor := hh'.done executor oc hsl
    refine forall_mem_cons.mpr ⟨.given ?_ rfl rfl (hrc'.dead_of_origin hor), hold⟩
    exact .inr (.inr ⟨executor, hor, fun _ => update_self ..⟩)
  | settle executor oc hsl _ =>
    have hor := hh'.done executor oc rfl
    have hd := hrc'.dead_of_origin hor
    refine forall_mem_cons.mpr ⟨.given ?_ rfl rfl hd, ?_⟩
    · exact .inr (.inr ⟨executor, hor, nofun⟩)
    · intro r hr
      rcases mem_append.mp hr with hw | hm
      · obtain ⟨k, hk, rfl⟩ := mem_map.mp hw
        have hf : s.fate k = .waiting := of_decide_eq_true (mem_filter.mp hk).2
        refine .given (.inr (.inr ⟨executor, hor, fun _ => ?_⟩)) rfl rfl hd
        simp [answer, hf, Fate.answered]
      · exact hold r hm

/-! ## Runs -/

/-- What holds in every steady run. -/
structure Sound (reader : BodyReader T) (w : KeyedWrite) (refusal : Option Nat) (s : Line) : Prop where
  grounded : s.Grounded w
  recorded : s.Recorded w refusal
  held : s.Held
  told : ∀ r ∈ s.replies, s.Told reader w refusal r

lemma Initial.sound (h : s.Initial w) : s.Sound reader w refusal := by
  obtain ⟨hs, -, hu, hsl, hr, hc, hk, hf⟩ := h
  refine ⟨⟨hk, hf⟩, ⟨fun k _ => hu k, fun _ => ?_, fun _ => ?_, fun k => ?_, ?_, ?_, ?_, ?_⟩,
    ⟨?_, ?_, ?_⟩, ?_⟩
  · simp [hs]
  · simp [hs]
  · simp [hc, hu]
  · simp [hc]
  · simp [hc]
  · simp [hu]
  · simp [hu]
  · simp [hu]
  · simp [hsl]
  · simp [hsl]
  · simp [hr]

lemma Sound.step (h : s.Sound reader w refusal) (hs : LineStep reader w s event s')
    (hst : s.Steady w refusal event) : s'.Sound reader w refusal :=
  ⟨(h.grounded.step (h.recorded.unsent s.sent le_rfl) hs).1,
    h.recorded.step h.grounded hs hst, h.held.step h.grounded h.recorded hs hst,
    Told.step h.told h.grounded h.recorded h.held hs hst⟩

lemma sound (h : (steadyMachine reader w refusal).Reachable s) : s.Sound reader w refusal :=
  Machine.Reachable.invariant (I := fun t => t.Sound reader w refusal)
    (fun _ hi => Initial.sound hi) (fun _ _ _ ht hs => ht.step hs.1 hs.2) h

lemma Extends.refl (s : Line) : s.Extends w s := ⟨le_rfl, fun _ _ => rfl, id, fun _ => rfl⟩

lemma Extends.trans {t u : Line} (h : s.Extends w t) (h' : t.Extends w u) : s.Extends w u := by
  refine ⟨h.sent.trans h'.sent, fun k hk => ?_, h'.dead ∘ h.dead, fun hd => ?_⟩
  · have hf := h.closed k hk
    exact (h'.closed k (hf ▸ hk)).trans hf
  · exact (h'.commits (h.dead hd)).trans (h.commits hd)

lemma run_extends (hs : (steadyMachine reader w refusal).Reachable s) {es : List LineEvent}
    (hr : (steadyMachine reader w refusal).Run s es s') : s.Extends w s' :=
  hr.relation Extends.refl (fun _ _ _ => Extends.trans) (fun _ _ _ ht hst =>
      ((sound ht).grounded.step ((sound ht).recorded.unsent _ le_rfl) hst.1).2) hs

/-! ## Final answers -/

lemma Recorded.no_commit (h : s.Recorded w refusal) (hn : ∀ k < s.sent, s.fate k ≠ .committed) :
    s.commits = [] := by
  refine eq_nil_iff_forall_not_mem.mpr fun k hk => ?_
  have hc := (h.committed k).mp hk
  exact hn k (h.lt_sent (by rw [hc]; exact Fate.noConfusion)) hc

/-- A refusal for what the scene holds that counts as final is of a write no attempt of which was
committed: of the only attempt, or of the first of two when the second was served its answer. -/
lemma Recorded.no_commit_of_tells (h : s.Recorded w refusal) (hl : s.sent = r.attempt + 1)
    (hr : s.fate executor = .refused r.response.status) (hs : r.replayed → s.fate r.attempt = .served)
    (ht : tells s.unanswered r.replayed r.response.status)
    (how : mayBeItsOwnDoing r.response.status) : s.commits = [] := by
  have hlt : executor < s.sent := h.lt_sent (by rw [hr]; exact Fate.noConfusion)
  simp only [tells, how, decide_eq_true_eq, not_true_eq_false, false_or] at ht
  refine h.no_commit fun k hk hc => ?_
  rcases ht with hz | ⟨hre, hon⟩
  · have hle := h.first hz
    obtain rfl : k = executor := by omega
    rw [hr] at hc
    cases hc
  · have hle := h.second hon
    have hf := hs hre
    have hoh : executor ≠ r.attempt := by
      rintro rfl
      rw [hr] at hf
      cases hf
    rcases eq_or_ne k r.attempt with rfl | hn
    · rw [hf] at hc
      cases hc
    · obtain rfl : k = executor := by omega
      rw [hr] at hc
      cases hc

lemma finalAnswer_tryAgain (hs : resp.status = 503) (ht : (reader.error resp).1 = some tryAgainCode) :
    ∃ error, finalAnswer resp.status (versionedOutcome reader resp) = .lost error := by
  rcases he : reader.error resp with ⟨code, message, details⟩
  rw [he] at ht
  obtain rfl : code = some tryAgainCode := ht
  have hou : versionedOutcome reader resp = .error (.http 503 (some tryAgainCode) message details) := by
    simp [versionedOutcome, hs, success, he]
  rw [hou, hs]
  simp [finalAnswer, tryAgain]

/-- A final apply is of a write that was committed, once. -/
lemma Sound.applied (h : s.Sound reader w refusal) (hr : r ∈ s.replies)
    (hsu : success r.response.status) : s.Dead w ∧ s.commits.length = 1 := by
  rcases (h.told r hr).comes with ⟨hs, -⟩ | ⟨-, hre⟩ | ⟨executor, hor, -⟩
  · rw [hs] at hsu
    cases hsu
  · rw [hre] at hsu
    cases hsu
  · rcases hor with ⟨hc, -⟩ | hre
    · have hm := (h.recorded.committed executor).mpr hc
      have hp := length_pos_of_mem hm
      exact ⟨(h.recorded.spent (ne_nil_of_mem hm)).1, le_antisymm h.recorded.once hp⟩
    · rw [(h.recorded.stale executor _ hre).1] at hsu
      cases hsu

/-- A final refusal is of a write that no attempt can commit: the daemon always refuses it, or its
fence is past with no commit. -/
lemma Sound.refused (h : s.Sound reader w refusal) (hr : r ∈ s.replies)
    (hl : s.sent = r.attempt + 1) (hrf : success r.response.status = false)
    (hte : tells s.unanswered r.replayed r.response.status)
    (ha : ∀ e, finalAnswer r.response.status (versionedOutcome reader r.response) ≠ .lost
      e) : refusal ≠ none ∨ s.Dead w ∧ s.commits = [] := by
  rcases (h.told r hr).comes with ⟨hst, ht⟩ | ⟨hre, -⟩ | ⟨executor, hor, hse⟩
  · obtain ⟨e, hlo⟩ := finalAnswer_tryAgain hst ht
    exact absurd hlo (ha e)
  · exact .inl (by simp [hre])
  · rcases hor with ⟨-, hs⟩ | hf
    · rw [hrf] at hs
      cases hs
    · by_cases how : mayBeItsOwnDoing r.response.status
      · exact .inr ⟨(h.recorded.stale executor _ hf).2 how,
          h.recorded.no_commit_of_tells hl hf hse hte how⟩
      · have hre := h.recorded.fixed executor _ hf (Bool.eq_false_iff.mpr how)
        exact .inl (by simp [hre])

end Line

/-- What the client makes of a response to the attempt it waits for. -/
def Line.classified {T : Type} (reader : BodyReader T) (w : KeyedWrite) (s : Line) (r : Reply) :
    Answer T :=
  classify w.run s.unanswered (keyedResponse reader (some r.run) r.replayed r.response)

/-- What an answer promises of the commits that the write has in a later state. -/
def Answer.Holds {T : Type} (given later : List Nat) : Answer T → Prop
  | .final _ (.ok (.applied _)) => later.length = 1
  | .final status _ => success status = false → later = []
  | .otherRun | .forgotten => later = given
  | .lost _ => True

/-- **Keyed answers tell the truth**, of steady daemons: what the answer to the last attempt promises
holds now and in every later state. -/
theorem answers_true {T : Type} {reader : BodyReader T} {w : KeyedWrite} {refusal : Option Nat}
    {s s' : Line} (hs : (steadyMachine reader w refusal).Reachable s) {r : Reply} (hr : r ∈ s.replies)
    (hlast : s.sent = r.attempt + 1) {events : List LineEvent}
    (hrun : (steadyMachine reader w refusal).Run s events s') :
    (s.classified reader w r).Holds r.given s'.commits := by
  have hsn := Line.sound hs
  have he := Line.run_extends hs hrun
  have hl : s.Dead w ∧ s.commits = r.given → s'.commits = r.given := fun ⟨hd, hg⟩ =>
    (he.commits hd).trans hg
  have hrf : ∀ status outcome, s.classified reader w r = .final status outcome →
      success status = false → s'.commits = [] := by
    intro status outcome ha hsu
    obtain ⟨rfl, rfl, ht, hf⟩ := of_classify_final w.named ha
    rcases hsn.refused hr hlast hsu ht (by rw [hf]; exact nofun) with
      hre | ⟨hd, hn⟩
    · by_contra hne
      exact hre ((Line.sound (hrun.reachable hs)).recorded.spent hne).2
    · exact (he.commits hd).trans hn
  rcases ha : s.classified reader w r with ⟨status, error | ⟨value⟩ | current⟩ | _ | _ | error
  · exact hrf status _ ha
  · obtain ⟨rfl, hou, -, -⟩ := of_classify_final w.named ha
    obtain ⟨hd, hon⟩ := hsn.applied hr (success_of_applied hou.symm)
    show s'.commits.length = 1
    rwa [he.commits hd]
  · exact hrf status _ ha
  · exact hl ((hsn.told r hr).late (.inl (of_classify_otherRun w.named ha)))
  · exact hl ((hsn.told r hr).late (.inr (of_classify_forgotten w.named ha).2))
  · trivial

/-- A daemon at a revision of its first run, and no attempt. -/
def Line.fresh (run : String) (revision : Nat) : Line :=
  ⟨run, [], revision, 0, 0, fun _ => .unsent, .free, [], []⟩

/-- A reader of bodies that hold nothing. -/
def unitReader : BodyReader Unit := ⟨fun _ => .ok (), fun _ => .ok 0, fun _ => (none, none, none)⟩

/-- A write at the seventh revision of a run. -/
def seventhWrite : KeyedWrite := ⟨"run", 7, by decide⟩

lemma Line.fresh_initial : (Line.fresh "run" 7).Initial seventhWrite :=
  ⟨rfl, rfl, fun _ => rfl, rfl, rfl, rfl, .inl rfl, fun _ => le_rfl⟩

/-- The only attempt is committed and answered. -/
theorem answers_true_committed : ∃ (s : Line) (r : Reply),
    (steadyMachine unitReader seventhWrite none).Reachable s ∧
      s.classified unitReader seventhWrite r = .final 200 (.ok (.applied ())) ∧ s.commits.length = 1 := by
  have hse := Machine.Reachable.step (M := steadyMachine unitReader seventhWrite none)
    (.init Line.fresh_initial) ⟨.send _ rfl, trivial⟩
  have hr := hse.step ⟨.execute _ 0 rfl rfl, trivial⟩
  have hd := hr.step ⟨.commit _ 0 8 rfl rfl ⟨rfl, rfl⟩ (by decide), rfl⟩
  have hs := hd.step ⟨.settle _ 0 (.answered ⟨200, [], []⟩) rfl nofun, ?_⟩
  · have hh := answers_true hs (mem_cons_self ..) rfl .nil
    exact ⟨_, ⟨0, "run", false, ⟨200, [], []⟩, [0]⟩, hs, rfl, hh⟩
  · intro executor hsl
    obtain rfl := KeySlot.running.inj hsl
    exact ⟨_, rfl, fun _ => rfl, nofun⟩

/-- The first attempt is delayed, the second turned away for the rate limit: a final refusal. Then the
first arrives and is committed. -/
theorem refused_then_committed : ¬ ∀ (reader : BodyReader Unit) (w : KeyedWrite) (s s' : Line) (r : Reply)
      (events : List LineEvent), (lineMachine reader w).Reachable s → r ∈ s.replies →
      s.sent = r.attempt + 1 → (lineMachine reader w).Run s events s' →
      (s.classified reader w r).Holds r.given s'.commits := by
  intro h
  have hs := Machine.Reachable.step (M := lineMachine unitReader seventhWrite)
    (.init Line.fresh_initial) (.send _ rfl)
  have hr := hs.step (.retry _ le_rfl)
  have ht := hr.step (.turnAway _ 1 ⟨429, [], []⟩ rfl rfl fun hst => ?_)
  · have hh := h _ _ _ _ _ _ ht (mem_cons_self ..) rfl
      (.snoc (.snoc .nil (.execute _ 0 rfl rfl)) (.commit _ 0 8 rfl rfl ⟨rfl, rfl⟩ (by decide)))
    have hn : [0] = [] := hh rfl
    cases hn
  · exact absurd ⟨rfl, rfl⟩ hst

end Hypercolor.LayoutBuilder
