import Mathlib.Data.List.AList
import Mathlib.Tactic
import Hypercolor.Lib.Machine

/-!
# The idempotency store of the daemon

`idempotency.rs`: one daemon run's record of keyed requests. A key is *in flight* from the claim
that may execute it until its answer is settled, then *completed* until the record expires or is
evicted.

* `StoreInner` and its operations `expire`, `shrinkTo`, `evictFront`, `forget` are the code under
  the mutex; `StoreInner.claim` and `StoreInner.settle` are the two critical sections.
* `World` adds what lives outside the mutex: the clock and the `InFlight` handles with the watch
  channels that wake waiting duplicates. A handle is settled in two atomic steps, the critical
  section and the later `send_replace`.
* `usize` additions saturate at `usizeMax`; instants and durations are naturals, so
  `saturating_duration_since` is truncated subtraction. Keys and fingerprints are arbitrary.
-/

namespace Hypercolor.Idempotency

/-- `usize::MAX` -/
def usizeMax : Nat := 2 ^ 64 - 1

/-- `usize::saturating_add` -/
def satAdd (a b : Nat) : Nat := min (a + b) usizeMax

/-- `idempotency.rs` `Retention`: the bounds a store keeps completed answers and in-flight writes
within. -/
structure Retention where
  entries : Nat
  bytes : Nat
  age : Nat
  pendingEntries : Nat
  pendingBytes : Nat

/-- `default`: the retention of a running daemon (one hour, in nanoseconds). -/
def Retention.default : Retention where
  entries := 1024
  bytes := 32 * 1024 * 1024
  age := 60 * 60 * 1000000000
  pendingEntries := 64
  pendingBytes := 16 * 1024 * 1024

/-- `StoredResponse`: a complete response, kept for replay. -/
structure StoredResponse where
  status : Nat
  headers : List (String × List UInt8)
  body : List UInt8
deriving DecidableEq

/-- `weight` -/
def StoredResponse.weight (r : StoredResponse) : Nat :=
  (r.headers.map fun h => h.1.utf8ByteSize + h.2.length).sum + r.body.length

/-- `Outcome`: what a keyed request finally answered. -/
inductive Outcome where
  /-- The handler answered. -/
  | answered (response : StoredResponse)
  /-- The handler ended without answering. -/
  | abandoned
deriving DecidableEq

/-- What an outcome counts against the byte bound. -/
def Outcome.weight : Outcome → Nat
  | .answered response => response.weight
  | .abandoned => 0

/-- Identity of an `InFlight` handle and of the watch channel it owns. -/
abbrev FlightId := Nat

/-- `Entry`. The `done` receiver of an in-flight entry is the channel of its handle. -/
inductive Entry (F : Type) where
  | inFlight (fingerprint : F) (done : FlightId)
  | completed (fingerprint : F) (outcome : Outcome) (sequence completedAt : Nat)

/-- `CompletedRecord` -/
structure CompletedRecord (K : Type) where
  key : K
  sequence : Nat
  completedAt : Nat
deriving DecidableEq

/-- `StoreInner` -/
structure StoreInner (K F : Type) where
  entries : AList fun _ : K => Entry F
  completed : List (CompletedRecord K)
  completedCount : Nat
  storedBytes : Nat
  pendingCount : Nat
  pendingBytes : Nat
  nextSequence : Nat

/-- `Claim`: what the store tells a keyed request to do. -/
inductive Claim where
  | execute (flight : FlightId)
  | wait (done : FlightId)
  | replay (outcome : Outcome)
  | mismatch
  | busy

namespace StoreInner

variable {K F : Type} [DecidableEq K]

/-- `default` -/
def default : StoreInner K F where
  entries := ∅
  completed := []
  completedCount := 0
  storedBytes := 0
  pendingCount := 0
  pendingBytes := 0
  nextSequence := 0

/-- `forget`: remove a completed entry and release what it held. An in-flight entry is never
forgotten. -/
def forget (s : StoreInner K F) (key : K) : StoreInner K F :=
  match s.entries.lookup key with
  | some (.completed _ outcome _ _) =>
      { s with
        entries := s.entries.erase key
        completedCount := s.completedCount - 1
        storedBytes := s.storedBytes - outcome.weight }
  | _ => s

/-- The test of `evict_front`: does the record still describe its entry? -/
def describes (s : StoreInner K F) (record : CompletedRecord K) : Bool :=
  match s.entries.lookup record.key with
  | some (.completed _ _ sequence _) => sequence == record.sequence
  | _ => false

/-- `evict_front`: pop the oldest completion record, removing its entry when the record still
describes it; `none` when nothing was left to pop. -/
def evictFront (s : StoreInner K F) : Option (StoreInner K F) :=
  match s.completed with
  | [] => none
  | record :: rest =>
      let s := { s with completed := rest }
      some (if s.describes record then s.forget record.key else s)

lemma forget_completed (s : StoreInner K F) (key : K) : (s.forget key).completed = s.completed := by
  unfold forget
  split <;> rfl

/-- Popping shortens the queue by one. -/
lemma evictFront_length {s s' : StoreInner K F} (h : s.evictFront = some s') :
    s'.completed.length < s.completed.length := by
  unfold evictFront at h
  split at h
  · cases h
  · rename_i record rest hq
    cases h
    split
    · rw [forget_completed, hq]
      exact Nat.lt_succ_self _
    · rw [hq]
      exact Nat.lt_succ_self _

/-- `expire`: drop completed answers older than `age`, oldest first. -/
def expire (now age : Nat) (s : StoreInner K F) : StoreInner K F :=
  match s.completed with
  | [] => s
  | front :: _ =>
      if now - front.completedAt < age then s
      else match _h : s.evictFront with
        | none => s
        | some s' => expire now age s'
termination_by s.completed.length
decreasing_by exact evictFront_length _h

/-- `shrink_to`: drop the oldest completed answers until both bounds hold, never the newest one. -/
def shrinkTo (retention : Retention) (s : StoreInner K F) : StoreInner K F :=
  if s.completedCount > max retention.entries 1 ∨
      (s.storedBytes > retention.bytes ∧ s.completedCount > 1) then
    match _h : s.evictFront with
    | none => s
    | some s' => shrinkTo retention s'
  else s
termination_by s.completed.length
decreasing_by exact evictFront_length _h

/-- The end of `claim`, once the key is known to be free: admit it or refuse a full store. -/
def claimFree (retention : Retention) (s : StoreInner K F) (key : K) (fingerprint : F)
    (requestBytes : Nat) (flight : FlightId) : StoreInner K F × Claim :=
  if s.pendingCount ≥ retention.pendingEntries ∨
      satAdd s.pendingBytes requestBytes > retention.pendingBytes then (s, .busy)
  else
    ({ s with
        pendingCount := s.pendingCount + 1
        pendingBytes := satAdd s.pendingBytes requestBytes
        entries := s.entries.insert key (.inFlight fingerprint flight) },
      .execute flight)

/-- `IdempotencyStore::claim`: the critical section of `claim`; `flight` names the handle made if
the claim may execute. -/
def claim [DecidableEq F] (retention : Retention) (now : Nat) (s : StoreInner K F) (key : K)
    (fingerprint : F)
    (requestBytes : Nat) (flight : FlightId) : StoreInner K F × Claim :=
  let s := s.expire now retention.age
  match s.entries.lookup key with
  | some (.inFlight held done) => (s, if held = fingerprint then .wait done else .mismatch)
  | some (.completed held outcome _ completedAt) =>
      if now - completedAt < retention.age then
        (s, if held = fingerprint then .replay outcome else .mismatch)
      else (s.forget key).claimFree retention key fingerprint requestBytes flight
  | none => s.claimFree retention key fingerprint requestBytes flight

/-- The part of `settle` before the bounds are enforced: the entry becomes a completed one. -/
def record (now : Nat) (s : StoreInner K F) (key : K) (fingerprint : F) (requestBytes : Nat)
    (outcome : Outcome) : StoreInner K F where
  entries := s.entries.insert key (.completed fingerprint outcome s.nextSequence now)
  completed := s.completed ++ [⟨key, s.nextSequence, now⟩]
  completedCount := s.completedCount + 1
  storedBytes := satAdd s.storedBytes outcome.weight
  pendingCount := s.pendingCount - 1
  pendingBytes := s.pendingBytes - requestBytes
  nextSequence := (s.nextSequence + 1) % 2 ^ 64

/-- `IdempotencyStore::settle`: the critical section of `settle`. -/
def settle (retention : Retention) (now : Nat) (s : StoreInner K F) (key : K) (fingerprint : F)
    (requestBytes : Nat) (outcome : Outcome) : StoreInner K F :=
  ((s.record now key fingerprint requestBytes outcome).expire now retention.age).shrinkTo retention

end StoreInner

/-! ## Handles, channels and the clock -/

/-- Where a handle stands: running, its answer in the store, or also sent to its channel. -/
inductive Stage where
  | running
  | recorded (outcome : Outcome) (settledAt : Nat)
  | published (outcome : Outcome) (settledAt : Nat)
deriving DecidableEq

/-- The settled outcome of a handle and when it was settled. -/
def Stage.settled? : Stage → Option (Outcome × Nat)
  | .running => none
  | .recorded outcome settledAt => some (outcome, settledAt)
  | .published outcome settledAt => some (outcome, settledAt)

/-- `InFlight`: an `InFlight` handle, kept after its end with what it settled. -/
structure Flight (K F : Type) where
  id : FlightId
  key : K
  fingerprint : F
  requestBytes : Nat
  stage : Stage
deriving DecidableEq

/-- The store, the clock and every handle handed out, newest first. -/
structure World (K F : Type) where
  store : StoreInner K F
  now : Nat
  flights : List (Flight K F)

/-- What can happen to a store. -/
inductive Event (K F : Type) where
  /-- The clock moves on by `d`. -/
  | tick (d : Nat)
  /-- A request claims a key. -/
  | claim (key : K) (fingerprint : F) (requestBytes : Nat)
  /-- A handle's request answered: the critical section of `InFlight::settle`. -/
  | settle (flight : FlightId) (outcome : Outcome)
  /-- A handle is dropped unsettled: the critical section of `InFlight::drop`. -/
  | drop (flight : FlightId)
  /-- The `send_replace` that follows a settlement. -/
  | publish (flight : FlightId)

namespace World

variable {K F : Type} [DecidableEq K] [DecidableEq F]

/-- A fresh store. -/
def new : World K F where
  store := .default
  now := 0
  flights := []

variable (w : World K F) (id : FlightId)

/-- The handle with this identity. -/
def flight? : Option (Flight K F) :=
  w.flights.find? fun f => f.id == id

/-- Move a handle to another stage. -/
def setStage (stage : Stage) : World K F :=
  { w with flights := w.flights.map fun f => if f.id = id then { f with stage := stage } else f }

/-- `IdempotencyStore::claim`, with the handle an `Execute` answer carries. -/
def claim (retention : Retention) (w : World K F) (key : K) (fingerprint : F)
    (requestBytes : Nat) : World K F × Claim :=
  let id := w.flights.length
  let (store, answer) := w.store.claim retention w.now key fingerprint requestBytes id
  match answer with
  | .execute _ =>
      ({ w with store := store, flights := ⟨id, key, fingerprint, requestBytes, .running⟩ :: w.flights },
        answer)
  | _ => ({ w with store := store }, answer)

/-- The critical section of a settlement of handle `f`. -/
def settle (retention : Retention) (w : World K F) (f : Flight K F) (outcome : Outcome) : World K F :=
  { w with store := w.store.settle retention w.now f.key f.fingerprint f.requestBytes outcome }.setStage
      f.id (.recorded outcome w.now)

/-- One atomic step. A handle is settled or dropped at most once, then published. -/
inductive Step (retention : Retention) : World K F → Event K F → World K F → Prop where
  | tick (w : World K F) (d : Nat) : Step retention w (.tick d) { w with now := w.now + d }
  | claim (w : World K F) (key : K) (fingerprint : F) (requestBytes : Nat) :
      Step retention w (.claim key fingerprint requestBytes)
        (w.claim retention key fingerprint requestBytes).1
  | settle (w : World K F) (f : Flight K F) (outcome : Outcome) (hf : f ∈ w.flights)
      (hrun : f.stage = .running) :
      Step retention w (.settle f.id outcome) (w.settle retention f outcome)
  | drop (w : World K F) (f : Flight K F) (hf : f ∈ w.flights) (hrun : f.stage = .running) :
      Step retention w (.drop f.id) (w.settle retention f .abandoned)
  | publish (w : World K F) (f : Flight K F) (outcome : Outcome) (settledAt : Nat)
      (hf : f ∈ w.flights) (hrec : f.stage = .recorded outcome settledAt) :
      Step retention w (.publish f.id) (w.setStage f.id (.published outcome settledAt))

/-- The store as a machine, under any retention. -/
def machine (retention : Retention) : Lib.Machine (World K F) (Event K F) where
  init w := w = new
  step := Step retention

/-- What a duplicate waiting on the channel of handle `id` receives by now. -/
def receive : Option Outcome :=
  match w.flight? id with
  | some ⟨_, _, _, _, .published outcome _⟩ => some outcome
  | _ => none

/-- The newest handle handed out for a key. -/
def latest (w : World K F) (key : K) : Option (Flight K F) :=
  w.flights.find? fun f => f.key == key

end World

end Hypercolor.Idempotency
