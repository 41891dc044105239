import Mathlib.Data.List.Sort
import Hypercolor.Persistence.Invariant

/-!
# The rolling history of a destination

`history.rs`: a destination with a `HistoryPolicy` copies the content it replaces into its history
directory, when that content was current for long enough or a caller asked for it with
`capture_next_writes`.

* `rotationDue`, `previousContent`, `rotateBeforeReplace` and `noteReplacement` are what an attempt
  does around its replacement, each under the history lock or on the files alone.
* `HistoryStep` runs them between the steps of `World.Step`: an attempt at `Stage.replace` asks,
  reads and rotates before the critical section that replaces, and one at `Stage.barrier` notes the
  replacement before its barrier. Where it stands is its `Passage`.
* History I/O succeeds and nobody else touches the files, so a read of the destination answers.
  `restore_generation` sets the flag as `capture_next_writes` does, and then is an ordinary write.
* A clock is a number that only grows. Of a generation the identifier and the bytes are kept; the
  names already taken in the directory only push the next identifier up, by any amount.
-/

namespace Hypercolor.Persistence.History

/-! ## Policies and generations -/

/-- `Generation`: one kept previous version of a destination. -/
structure Generation where
  id : Nat
  bytes : Payload

/-- `HistoryPolicy` -/
structure HistoryPolicy where
  generations : Nat
  minInterval : Nat
  equivalent : Option (Payload → Payload → Bool)

/-- `same` -/
def HistoryPolicy.same (policy : HistoryPolicy) (left right : Payload) : Bool :=
  left == right || policy.equivalent.any fun equivalent => equivalent left right

@[simp] theorem HistoryPolicy.same_self (policy : HistoryPolicy) (bytes : Payload) :
    policy.same bytes bytes := by
  simp [HistoryPolicy.same]

/-- `HistoryTracking` -/
structure HistoryTracking where
  policy : HistoryPolicy
  lastReplacedAt : Option Nat
  captureNext : Bool

/-- `PreviousContent`: what the destination held immediately before a replacement. -/
inductive PreviousContent where
  | notRead
  | absent
  | present (bytes : Payload)
  | unreadable
  | knownDifferent

/-- `AtomicFileWriter::enable_history`: a policy that keeps zero generations turns history off. -/
def enableHistory (history : Option HistoryTracking) (policy : HistoryPolicy) : Option HistoryTracking :=
  if policy.generations = 0 then none
  else some ⟨policy, history.bind HistoryTracking.lastReplacedAt, false⟩

/-- `capture_next_writes` for one destination, and the flag setting of
`restore_generation` -/
def captureNextWrites (history : Option HistoryTracking) : Option HistoryTracking :=
  history.map fun state => { state with captureNext := true }

/-- `rotation_due`: whether the content a replacement would retire is old enough to keep. -/
def rotationDue (history : Option HistoryTracking) (now : Nat) : Bool :=
  history.any fun state =>
    state.captureNext ||
      state.lastReplacedAt.all fun replaced => decide (state.policy.minInterval ≤ now - replaced)

/-- `previous_content`: read what the destination holds, when history or the observer needs it;
`file` is what a read of the destination answers. -/
def previousContent (history : Option HistoryTracking) (observer knownDifferent rotationDue : Bool)
    (file : Except Unit (Option Payload)) : PreviousContent :=
  if history.isNone && !observer then .notRead
  else
    let bytesNeeded := !knownDifferent ||
      history.any fun state => rotationDue || state.policy.equivalent.isSome
    if !bytesNeeded then .knownDifferent
    else
      match file with
      | .ok (some bytes) => .present bytes
      | .ok none => .absent
      | .error _ => .unreadable

/-! ## The history directory -/

/-- `list_generations`: oldest first. -/
def listGenerations (directory : List Generation) : List Generation :=
  directory.insertionSort fun left right => left.id ≤ right.id

/-- `prune` -/
def prune (directory : List Generation) (keep : Nat) : List Generation :=
  (listGenerations directory).drop ((listGenerations directory).length - keep)

/-- `write_generation`: the identifier of a new generation and the directory with it; `taken` names
from the next identifier on exist already. -/
def writeGeneration (policy : HistoryPolicy) (directory : List Generation) (previous : Payload)
    (taken : Nat) : Option Nat × List Generation :=
  let existing := listGenerations directory
  if existing.getLast?.any fun newest => policy.same newest.bytes previous then (none, directory)
  else
    let id := (existing.getLast?.map fun newest => newest.id + 1).getD 1 + taken
    (some id, prune (⟨id, previous⟩ :: directory) policy.generations)

/-- `rotate_before_replace`: copy the outgoing content into history before it is replaced. -/
def rotateBeforeReplace (history : Option HistoryTracking) (directory : List Generation)
    (previous : PreviousContent) (payload : Payload) (rotationDue : Bool) (taken : Nat) :
        List Generation :=
  match previous, history with
  | .present previous, some state =>
      if state.policy.same previous payload || !rotationDue then directory
      else (writeGeneration state.policy directory previous taken).2
  | _, _ => directory

/-- `unchanged` in `note_replacement` -/
def PreviousContent.unchanged (previous : PreviousContent) (policy : HistoryPolicy)
    (payload : Payload) : Bool :=
  match previous with
  | .present bytes => policy.same bytes payload
  | _ => false

/-- `note_replacement`: record a visible replacement: restart the transient window when the content
changed. -/
def noteReplacement (history : Option HistoryTracking) (now : Nat) (previous : PreviousContent)
    (payload : Payload) : Option HistoryTracking :=
  history.map fun state =>
    if previous.unchanged state.policy payload then state
    else { state with lastReplacedAt := some now, captureNext := false }

/-! ## Attempts and the history -/

/-- What an attempt carries to its replacement: how often the flag had been set when it asked
`rotation_due`, the answer, and the previous content. -/
structure Outgoing where
  seen : Nat
  due : Bool
  previous : PreviousContent

/-- Where an attempt stands between `rotation_due` and `note_replacement`. -/
inductive Passage where
  | idle
  | asked (seen : Nat) (due : Bool)
  | read (outgoing : Outgoing)
  | rotated (outgoing : Outgoing)
  | replaced (outgoing : Outgoing)

/-- A replacement as it happened: what was on the file, what the attempt put there, how often the
flag had been set when the attempt asked, and the newest generation in the directory. -/
structure Replacement where
  seen : Nat
  old : Option Payload
  payload : Payload
  newest : Option Generation

/-- A destination with its history. The flag settings so far and the replacements, newest first,
are recorded for the statements only. -/
structure HistoryWorld (D : Type) where
  world : World D
  history : Option HistoryTracking
  directory : List Generation
  now : Nat
  passages : Nat → Passage
  sets : Nat
  replacements : List Replacement

/-- What happens next. -/
inductive Event where
  /-- A step of the thread that is no matter of the history. -/
  | base (i : Nat)
  | ask (i : Nat)
  | read (i : Nat)
  | rotate (i : Nat)
  | note (i : Nat)
  | captureNext
  | enable
  | tick

namespace HistoryWorld

variable {D : Type}

/-- The attempt of thread `i` moves on. -/
def pass (h : HistoryWorld D) (i : Nat) (p : Passage) : HistoryWorld D :=
  { h with passages := Function.update h.passages i p }

/-- Thread `i` stands before or in the rename of an attempt. -/
def Replacing (w : World D) (i : Nat) : Prop :=
  ∃ a, w.tasks i = .attempt a ∧ (a.stage = .replace ∨ a.stage = .rename)

/-- One atomic step of a thread, a caller that sets the flag, or the clock. -/
inductive HistoryStep (digest : Payload → D) (policy : HistoryPolicy) (observer : Bool) :
    HistoryWorld D → Event → HistoryWorld D → Prop where
  | quiet (h : HistoryWorld D) (i : Nat) (w' : World D)
      (hstep : World.Step digest h.world i w') (hp : h.passages i = .idle)
      (hs : ¬ Replacing h.world i) :
      HistoryStep digest policy observer h (.base i) { h with world := w' }
  | ask (h : HistoryWorld D) (i : Nat) (a : Attempt D) (ht : h.world.tasks i = .attempt a)
      (hs : a.stage = .replace) (hp : h.passages i = .idle) :
      HistoryStep digest policy observer h (.ask i)
        (h.pass i (.asked h.sets (rotationDue h.history h.now)))
  -- only an attempt writes `durable`, so it still is what this one read when it started
  | read (h : HistoryWorld D) (i : Nat) (a : Attempt D) (seen : Nat) (due known : Bool)
      (ht : h.world.tasks i = .attempt a) (hp : h.passages i = .asked seen due)
      (hk : known → ∃ d, h.world.st.durable = some d ∧ d ≠ digest a.payload) :
      HistoryStep digest policy observer h (.read i)
        (h.pass i (.read ⟨seen, due,
          previousContent h.history observer known due (.ok h.world.file.bytes)⟩))
  | rotate (h : HistoryWorld D) (i : Nat) (a : Attempt D) (o : Outgoing) (taken : Nat)
      (ht : h.world.tasks i = .attempt a) (hp : h.passages i = .read o) :
      HistoryStep digest policy observer h (.rotate i)
        ({ h with
            directory := rotateBeforeReplace h.history h.directory o.previous a.payload o.due taken
          }.pass i (.rotated o))
  -- the step that leaves `Stage.replace` or `Stage.rename` waits for the rotation
  | unlock (h : HistoryWorld D) (i : Nat) (a : Attempt D) (o : Outgoing) (w' : World D)
      (ht : h.world.tasks i = .attempt a) (hp : h.passages i = .rotated o)
      (hstep : World.Step digest h.world i w')
      (ht' : w'.tasks i = .attempt { a with stage := .rename }) :
      HistoryStep digest policy observer h (.base i) { h with world := w' }
  | giveUp (h : HistoryWorld D) (i : Nat) (a : Attempt D) (o : Outgoing)
      (result : AtomicWriteCommitResult) (w' : World D)
      (ht : h.world.tasks i = .attempt a) (hp : h.passages i = .rotated o)
      (hstep : World.Step digest h.world i w')
      (ht' : w'.tasks i = .attempt { a with stage := .finish result }) :
      HistoryStep digest policy observer h (.base i) ({ h with world := w' }.pass i .idle)
  | replace (h : HistoryWorld D) (i : Nat) (a : Attempt D) (o : Outgoing) (w' : World D)
      (ht : h.world.tasks i = .attempt a) (hp : h.passages i = .rotated o)
      (hstep : World.Step digest h.world i w')
      (ht' : w'.tasks i = .attempt { a with stage := .barrier }) :
      HistoryStep digest policy observer h (.base i)
        ({ h with
            world := w'
            replacements := ⟨o.seen, h.world.file.bytes, a.payload,
              (listGenerations h.directory).getLast?⟩ :: h.replacements }.pass i (.replaced o))
  | note (h : HistoryWorld D) (i : Nat) (a : Attempt D) (o : Outgoing)
      (ht : h.world.tasks i = .attempt a) (hp : h.passages i = .replaced o) :
      HistoryStep digest policy observer h (.note i)
        ({ h with history := noteReplacement h.history h.now o.previous a.payload }.pass i .idle)
  | captureNext (h : HistoryWorld D) (hh : h.history.isSome) :
      HistoryStep digest policy observer h .captureNext
        { h with history := captureNextWrites h.history, sets := h.sets + 1 }
  | enable (h : HistoryWorld D) (hh : h.history = none) :
      HistoryStep digest policy observer h .enable
        { h with history := enableHistory h.history policy }
  | tick (h : HistoryWorld D) (now : Nat) (hn : h.now ≤ now) :
      HistoryStep digest policy observer h .tick { h with now := now }

/-- A destination whose file holds `initial`, over the generations an earlier process kept. -/
def new (initial : Option Payload) (directory : List Generation) (now : Nat) : HistoryWorld D where
  world := World.new initial
  history := none
  directory := directory
  now := now
  passages := fun _ => .idle
  sets := 0
  replacements := []

/-- Every interleaving of the threads of one destination with the callers that set the flag. -/
def machine (digest : Payload → D) (policy : HistoryPolicy) (observer : Bool)
    (initial : Option Payload) : Lib.Machine (HistoryWorld D) Event where
  init h := ∃ directory now, h = new initial directory now
  step := HistoryStep digest policy observer

end HistoryWorld

end Hypercolor.Persistence.History
