import Hypercolor.Idempotency.Store

/-!
# Sending one write under a key

`layout_builder/keyed.rs`, with the parts of `api/client.rs` that turn a response into what `classify`
looks at. The key names one logical write: every retry goes out under it, and what comes back is
classified by the daemon run that answered, the status, whether it is a replay, and how many earlier
attempts went unanswered.

Bodies are read by functions that are arguments (`BodyReader`): which part of a body is JSON that fits
an envelope does not matter to the classification, beyond the error code.
-/

namespace Hypercolor.LayoutBuilder

open Nat

open Idempotency (StoredResponse)

/-- What is looked at of an error's `details`. -/
structure ErrorDetails where
  kind : Option String

/-- `ApiError` -/
inductive ApiError where
  | network (message : String)
  | http (status : Nat) (code message : Option String) (details : Option ErrorDetails)
  | parse (message : String)
  | serialize (message : String)

/-- `MutationOutcome` -/
inductive MutationOutcome (T : Type) where
  | applied (value : T)
  | stale (current : Nat)

/-- `KeyedResponse` -/
structure KeyedResponse (T : Type) where
  run : Option String
  status : Option Nat
  replayed : Bool
  outcome : Except ApiError (MutationOutcome T)

/-- `Answer` -/
inductive Answer (T : Type) where
  | final (status : Nat) (outcome : Except ApiError (MutationOutcome T))
  | otherRun
  | forgotten
  | lost (error : ApiError)

/-! ## Responses -/

/-- How the bodies of responses are read: the value of an apply with the revision of its `ETag`, the
version token of a `412`, and the code, message and details of an error. -/
structure BodyReader (T : Type) where
  applied : StoredResponse → Except String T
  current : StoredResponse → Except String Nat
  error : StoredResponse → Option String × Option String × Option ErrorDetails

/-- `200..=299` -/
def success (status : Nat) : Bool := 200 ≤ status ∧ status ≤ 299

variable {T : Type}

/-- `versioned_outcome` -/
def versionedOutcome (reader : BodyReader T) (response : StoredResponse) :
    Except ApiError (MutationOutcome T) :=
  if success response.status then
    match reader.applied response with
    | .ok value => .ok (.applied value)
    | .error message => .error (.parse message)
  else if response.status = 412 then
    match reader.current response with
    | .ok current => .ok (.stale current)
    | .error message => .error (.parse message)
  else
    let (code, message, details) := reader.error response
    .error (.http response.status code message details)

/-- The two branches of `send_json_keyed` -/
def keyedResponse (reader : BodyReader T) (run : Option String) (replayed : Bool)
    (response : StoredResponse) : KeyedResponse T :=
  ⟨run, some response.status, replayed, versionedOutcome reader response⟩

/-! ## Classification -/

/-- `TRY_AGAIN_CODE` -/
def tryAgainCode : String := "service_unavailable"

/-- `try_again` -/
def tryAgain : ApiError → Bool
  | .http _ code _ _ => code = some tryAgainCode
  | _ => false

/-- `may_be_its_own_doing` -/
def mayBeItsOwnDoing (status : Nat) : Bool := status = 404 ∨ status = 409 ∨ status = 412

/-- `tells` -/
def tells (unanswered : Nat) (replayed : Bool) (status : Nat) : Bool :=
  unanswered = 0 ∨ ¬ mayBeItsOwnDoing status ∨ (replayed ∧ unanswered = 1)

/-- `final_answer` -/
def finalAnswer (status : Nat) (outcome : Except ApiError (MutationOutcome T)) : Answer T :=
  match outcome with
  | .error (.http 503 code message details) =>
      if tryAgain (.http 503 code message details) then .lost (.http 503 code message details)
      else .final status outcome
  | _ => .final status outcome

/-- `lost_error` -/
def lostError (outcome : Except ApiError (MutationOutcome T)) (status : Option Nat) : ApiError :=
  match outcome, status with
  | .error error, none => error
  | _, some status => .network s!"no answer from Hypercolor (HTTP {status})"
  | .ok _, none => .network "no answer from Hypercolor"

/-- `classify` -/
def classify (run : String) (unanswered : Nat) (response : KeyedResponse T) : Answer T :=
  match response.status with
  | none => .lost (lostError response.outcome none)
  | some status =>
      let final :=
        if ¬ tells unanswered response.replayed status then .forgotten
        else finalAnswer status response.outcome
      match response.run with
      | some answered => if run ≠ "" ∧ answered ≠ run then .otherRun else final
      | none => if run ≠ "" then .lost (lostError response.outcome (some status)) else final

/-! ## Sending -/

/-- `RETRY_DELAYS`: milliseconds. -/
def retryDelays : List Nat := [250, 1000, 3000]

/-- `send_from`: `attempt` gives what comes back for each attempt in turn, from the `n`th on. -/
def sendFrom {T : Type} (run : String) (unanswered : Nat) (attempt : Nat → KeyedResponse T)
    (waits : List Nat) (n : Nat) : Answer T :=
  match classify run unanswered (attempt n), waits with
  | .lost error, [] => .lost error
  | .lost _, _ :: waits => sendFrom run (unanswered + 1) attempt waits (n + 1)
  | answer, _ => answer

variable (run : String) (attempt : Nat → KeyedResponse T)

/-- `send` -/
def send : Answer T :=
  sendFrom run 0 attempt retryDelays 0

/-- `resend` -/
def resend : Answer T :=
  sendFrom run 2 attempt retryDelays 0

/-- **The answer of a send** is that of one attempt, after as many unanswered ones: those before it
were lost, and a lost answer is that of the last. -/
theorem sendFrom_eq_classify {T : Type} (run : String) (un : Nat)
    (attempt : Nat → KeyedResponse T) (waits : List Nat) (n : Nat) : ∃ i ≤ waits.length,
      sendFrom run un attempt waits n = classify run (un + i) (attempt (n + i)) ∧
      (∀ j < i, ∃ error, classify run (un + j) (attempt (n + j)) = .lost error) ∧
      ∀ error, sendFrom run un attempt waits n = .lost error → i = waits.length := by
  induction waits generalizing un n with
  | nil => exact ⟨0, le_rfl, by unfold sendFrom; rcases classify run un (attempt n) <;> rfl, by simp⟩
  | cons wait waits ih =>
    rcases ha : classify run un (attempt n) with _ | _ | _ | e
    case lost =>
      have hs : sendFrom run un attempt (wait :: waits) n = sendFrom run (un + 1) attempt waits
          (n + 1) := by
        conv_lhs => unfold sendFrom; simp only [ha]
      obtain ⟨i, hi, he, hl, hw⟩ := ih (un + 1) (n + 1)
      rw [add_assoc un, add_assoc n, add_comm 1 i] at he
      refine ⟨i + 1, succ_le_succ hi, hs.trans he, ?_, fun e h => congrArg succ (hw e (hs ▸ h))⟩
      rintro (_ | j) hj
      · exact ⟨e, ha⟩
      · simpa [add_assoc, add_comm 1 j] using hl j (Nat.lt_of_succ_lt_succ hj)
    all_goals exact ⟨0,
      Nat.zero_le _, by unfold sendFrom; simp [ha], by simp, by unfold sendFrom; simp [ha]⟩

/-! ## What an answer is from -/

section Classify

variable {T : Type} {reader : BodyReader T} {run answered : String} {un : Nat}
  {replayed : Bool} {resp : StoredResponse}

/-- A response that names its run, for a write meant for a run that has a name. -/
lemma classify_named (hr : run ≠ "") :
    classify run un (keyedResponse reader (some answered) replayed resp) =
      if answered = run then
        if tells un replayed resp.status then
          finalAnswer resp.status (versionedOutcome reader resp)
        else .forgotten
      else .otherRun := by
  by_cases hs : answered = run
  · by_cases ht : tells un replayed resp.status
    all_goals simp [classify, keyedResponse, hr, hs, ht]
  · simp [classify, keyedResponse, hr, hs]

lemma finalAnswer_eq (status : Nat) (oc : Except ApiError (MutationOutcome T)) :
    finalAnswer status oc = .final status oc ∨ ∃ error, finalAnswer status oc = .lost error := by
  unfold finalAnswer
  split
  · split
    · exact .inr ⟨_, rfl⟩
    · exact .inl rfl
  · exact .inl rfl

variable {status : Nat} {oc : Except ApiError (MutationOutcome T)}

/-- What a final answer was given to. -/
lemma of_classify_final (hr : run ≠ "")
    (h : classify run un (keyedResponse reader (some answered) replayed resp) = .final
      status oc) : status = resp.status ∧ oc = versionedOutcome reader resp ∧
      tells un replayed resp.status ∧
      finalAnswer resp.status (versionedOutcome reader resp) = .final status oc := by
  rw [classify_named hr] at h
  split_ifs at h with hs ht
  rcases finalAnswer_eq resp.status (versionedOutcome reader resp) with hf | ⟨e, hl⟩
  · have he := hf.symm.trans h
    rw [Answer.final.injEq] at he
    exact ⟨he.1.symm, he.2.symm, ht, h⟩
  · rw [hl] at h
    cases h

lemma of_classify_otherRun (hr : run ≠ "")
    (h : classify run un (keyedResponse reader (some answered) replayed resp) =
      .otherRun) : answered ≠ run := by
  intro hs
  rw [classify_named hr, if_pos hs] at h
  rcases finalAnswer_eq resp.status (versionedOutcome reader resp) with hf | ⟨e, hl⟩
  · rw [hf] at h
    split_ifs at h
  · rw [hl] at h
    split_ifs at h

lemma of_classify_forgotten (hr : run ≠ "")
    (h : classify run un (keyedResponse reader (some answered) replayed resp) =
      .forgotten) : answered = run ∧ mayBeItsOwnDoing resp.status := by
  rw [classify_named hr] at h
  split_ifs at h with hs ht
  · rcases finalAnswer_eq resp.status (versionedOutcome reader resp) with hf | ⟨e, hl⟩
    · rw [hf] at h
      cases h
    · rw [hl] at h
      cases h
  · refine ⟨hs, ?_⟩
    simp only [tells, decide_eq_true_eq, not_or, not_not] at ht
    exact ht.2.1

/-- A final answer to a write meant for a run that has a name is of that run. -/
lemma classify_final_run (hr : run ≠ "") {keyed : KeyedResponse T}
    (h : classify run un keyed = .final status oc) : keyed.run = some run ∧ oc = keyed.outcome := by
  unfold classify at h
  split at h
  · cases h
  · rename_i fd _
    dsimp only at h
    split at h
    · rename_i answered ha
      split_ifs at h with hoh hfo
      have hs : answered = run := by
        by_contra hn
        exact hoh ⟨hr, hn⟩
      rcases finalAnswer_eq fd keyed.outcome with hf | ⟨e, hl⟩
      · have he := hf.symm.trans h
        rw [Answer.final.injEq] at he
        exact ⟨hs ▸ ha, he.2.symm⟩
      · rw [hl] at h
        cases h
    · split_ifs at h

/-- An apply has a successful status. -/
lemma success_of_applied {v : T} (h : versionedOutcome reader resp = .ok (.applied v)) :
    success resp.status := by
  unfold versionedOutcome at h
  split_ifs at h with hs hst
  · exact hs
  · split at h <;> cases h

end Classify

end Hypercolor.LayoutBuilder
