import Mathlib.Tactic.SplitIfs

/-!
# Zone ledgers

`layout_builder/ledger.rs`. A zone ledger keeps the zone as the daemon last reported it, the local
edits that the daemon has not confirmed, and the write that is out. `SceneLedgers` keeps the ledgers of
the active scene.

* Numbers are of any type with a Boolean equality, which need not be lawful (`f32` with its `NaN`), and
  the LED topology is of any type. What else an output holds no ledger looks at.
* The sequence of intents, which the page keeps in a static, is an argument of `edit` and comes back
  from it. It counts up for the life of the page and does not come to wrap its 64 bits.
* `&mut self` methods return the ledger with what the source returns.
-/

set_option linter.unusedSectionVars false

namespace Hypercolor.LayoutBuilder

/-! ## Placement fields -/

/-- `Orientation` -/
inductive Orientation where
  | horizontal
  | vertical
  | diagonal
  | radial
deriving DecidableEq

/-- `Output`, its placement and what a layout write checks -/
structure Output (N L : Type) where
  id : String
  x : N
  y : N
  width : N
  height : N
  rotation : N
  scale : N
  orientation : Option Orientation
  topology : L

/-- `Field` -/
inductive Field where
  | x
  | y
  | width
  | height
  | rotation
  | scale
  | orientation
deriving DecidableEq

/-- `Value` -/
inductive Value (N : Type) where
  | number (value : N)
  | orientation (value : Option Orientation)

instance {N : Type} [BEq N] : BEq (Value N) where
  beq
    | .number a, .number b => a == b
    | .orientation a, .orientation b => a == b
    | _, _ => false

namespace Field

variable {N L : Type}

/-- `Field::ALL` -/
def all : List Field := [x, y, width, height, rotation, scale, orientation]

/-- `read` -/
def read (field : Field) (output : Output N L) : Value N :=
  match field with
  | x => .number output.x
  | y => .number output.y
  | width => .number output.width
  | height => .number output.height
  | rotation => .number output.rotation
  | scale => .number output.scale
  | orientation => .orientation output.orientation

/-- `write` -/
def write (field : Field) (output : Output N L) (value : Value N) : Output N L :=
  match field, value with
  | x, .number value => { output with x := value }
  | y, .number value => { output with y := value }
  | width, .number value => { output with width := value }
  | height, .number value => { output with height := value }
  | rotation, .number value => { output with rotation := value }
  | scale, .number value => { output with scale := value }
  | orientation, .orientation value => { output with orientation := value }
  | _, _ => output

@[simp] theorem write_id (f : Field) (o : Output N L) (v : Value N) : (f.write o v).id = o.id := by
  cases f <;> cases v <;> rfl

@[simp] theorem write_topology (f : Field) (o : Output N L) (v : Value N) :
    (f.write o v).topology = o.topology := by
  cases f <;> cases v <;> rfl

/-- Writing a field leaves the others. -/
lemma read_write_of_ne {f other : Field} (hn : f ≠ other) (o : Output N L)
    (v : Value N) : other.read (f.write o v) = other.read o := by
  cases f <;> cases v <;> cases other <;> first | rfl | exact absurd rfl hn

end Field

/-! ## Ledgers -/

/-- `Intent` -/
structure Intent (N : Type) where
  seq : Nat
  outputId : String
  field : Field
  value : Value N

/-- `Confirmed` -/
structure Confirmed (N L : Type) where
  revision : Nat
  raw : List (Output N L)
  shown : List (Output N L)

/-- `Lapse` -/
inductive Lapse where
  | restart
  | forgotten
  | unreadable

/-- `Lapsed` -/
structure Lapsed where
  lapse : Lapse
  unconfirmed : Bool

/-- `Write` -/
structure Write (N L : Type) where
  id : Nat
  key : String
  fence : Nat
  run : String
  outputs : List (Output N L)

/-- `Sent` -/
structure Sent (N L : Type) where
  write : Write N L
  through : Nat
  unknown : Bool
  unanswered : Nat
  lapsed : Option Lapse

/-- `ZoneLedger` -/
structure ZoneLedger (N L : Type) where
  confirmed : Option (Confirmed N L) := none
  pending : List (Intent N) := []
  sent : Option (Sent N L) := none
  reanchor : Bool := false

section Outputs

variable {N L : Type}

/-- `iter_mut().find(..)`: the first output of an id, changed. -/
def modifyOutput (id : String) (change : Output N L → Output N L) : List (Output N L) → List (Output N L)
  | [] => []
  | output :: outputs =>
      if output.id = id then change output :: outputs else output :: modifyOutput id change outputs

/-- `apply` -/
def apply (outputs : List (Output N L)) (intents : List (Intent N)) : List (Output N L) :=
  intents.foldl (fun outputs intent =>
    modifyOutput intent.outputId (intent.field.write · intent.value) outputs) outputs

/-- The two intents are for one field of one output. -/
def Intent.sameField (intent later : Intent N) : Bool :=
  later.outputId = intent.outputId ∧ later.field = intent.field

/-- `is_latest` -/
def isLatest (intents : List (Intent N)) (index : Nat) : Bool :=
  match intents[index]? with
  | none => false
  | some intent => ! (intents.drop (index + 1)).any intent.sameField

/-- `iter().find(..)`: the output of an id. -/
def findOutput (outputs : List (Output N L)) (id : String) : Option (Output N L) :=
  outputs.find? fun output => output.id = id

/-- The outputs hold the value of an intent. -/
def holds [BEq N] (outputs : List (Output N L)) (intent : Intent N) : Bool :=
  match findOutput outputs intent.outputId with
  | none => false
  | some output => intent.field.read output == intent.value

/-- `outputs_of`: the ids of the intents' outputs, each once. -/
def outputsOf (intents : List (Intent N)) : List String :=
  intents.foldl (fun ids intent =>
    if intent.outputId ∈ ids then ids else ids ++ [intent.outputId]) []

/-- What an edit changes of what the canvas showed, in the order of the source's loops. -/
def edits [BEq N] (display edited : List (Output N L)) : List (String × Field × Value N) :=
  display.flatMap fun shown =>
    match findOutput edited shown.id with
    | none => []
    | some edit =>
        Field.all.filterMap fun field =>
          if field.read edit != field.read shown then some (shown.id, field, field.read edit)
          else none

/-- The changes as intents, numbered from the one after `seq`. -/
def intentsFrom (seq : Nat) (changes : List (String × Field × Value N)) : List (Intent N) :=
  changes.zipIdx.map fun ((outputId, field, value), index) => ⟨seq + 1 + index, outputId, field, value⟩

end Outputs

namespace ZoneLedger

variable {N L : Type} [BEq N]

/-- The outputs held by a zone that an intent needs. -/
def Held (shown : List (Output N L)) (intent : Intent N) : Prop :=
  ∃ output ∈ shown, output.id = intent.outputId

instance (shown : List (Output N L)) : DecidablePred (Held (N := N) shown) := fun intent => by
  unfold Held
  infer_instance

variable (l : ZoneLedger N L)

/-- `adopt` -/
def adopt (revision : Nat) (raw shown : List (Output N L)) : ZoneLedger N L × List String :=
  ({ l with
      pending := l.pending.filter fun intent => Held shown intent
      confirmed := some ⟨revision, raw, shown⟩ },
    outputsOf (l.pending.filter fun intent => ¬ Held shown intent))

/-- `confirm` -/
def confirm (revision : Nat) (raw shown : List (Output N L)) : ZoneLedger N L × List String :=
  if l.reanchor then { l with reanchor := false }.adopt revision raw shown
  else if l.confirmed.any fun confirmed => revision < confirmed.revision then (l, [])
  else l.adopt revision raw shown

/-- `Option::get_or_insert` -/
def lapse (sent : Sent N L) (lapse : Lapse) : Sent N L :=
  { sent with lapsed := some (sent.lapsed.getD lapse) }

/-- `reanchor` -/
def startReanchor : ZoneLedger N L :=
  { l with reanchor := true, sent := l.sent.map (lapse · .restart) }

/-- `has_pending` -/
def hasPending : Bool := ! l.pending.isEmpty

/-- `wants_read` -/
def wantsRead : Bool :=
  (l.sent.any fun sent => sent.unknown && sent.lapsed.isSome) || (l.reanchor && l.hasPending)

/-- `unsettled` -/
def unsettled : Bool := l.sent.any (·.unknown)

/-- `write_due` -/
def writeDue : Bool :=
  l.sent.isNone && ! l.reanchor && l.confirmed.isSome && l.hasPending

/-- `revision` -/
def revision (l : ZoneLedger N L) : Option Nat := l.confirmed.map Confirmed.revision

/-- `advance` -/
def advance (before after : Nat) : ZoneLedger N L :=
  if l.reanchor then l
  else
    { l with confirmed := l.confirmed.map fun confirmed =>
        if confirmed.revision = before then { confirmed with revision := after } else confirmed }

/-- `display` -/
def display : Option (List (Output N L)) :=
  l.confirmed.map fun confirmed => apply confirmed.shown l.pending

/-- `edit`: with the newest sequence number, and whether anything changed. -/
def edit (seq : Nat) (edited : List (Output N L)) : ZoneLedger N L × Nat × Bool :=
  match l.display with
  | none => (l, seq, false)
  | some display =>
      let changes := edits display edited
      ({ l with pending := l.pending ++ intentsFrom seq changes }, seq + changes.length,
          ! changes.isEmpty)

/-- `forget` -/
def forget (outputIds : List String) (through : Nat) : ZoneLedger N L :=
  { l with pending := l.pending.filter fun intent =>
      through < intent.seq ∨ intent.outputId ∉ outputIds }

/-- `take_write` -/
def takeWrite (run : String) (id : Nat) (key : String) : ZoneLedger N L × Option (Write N L) :=
  if ! l.writeDue then (l, none)
  else
    match l.pending.getLast?, l.confirmed with
    | some last, some confirmed =>
        let write : Write N L := ⟨id, key, confirmed.revision, run, apply confirmed.raw l.pending⟩
        ({ l with sent := some ⟨write, last.seq, false, 0, none⟩ }, some write)
    | _, _ => (l, none)

/-- `unanswered` -/
def unanswered (l : ZoneLedger N L) : Nat := (l.sent.map Sent.unanswered).getD 0

/-- `retry` -/
def retry : Option (Write N L) :=
  (l.sent.filter fun sent => sent.unknown && sent.lapsed.isNone).map Sent.write

variable (id : Nat)

/-- `settle`: the write of an id is settled, if it is the one that is out. -/
def settle : ZoneLedger N L :=
  { l with sent := l.sent.filter fun sent => sent.write.id ≠ id }

/-- The intents that a write did not carry. -/
def retire (through : Nat) : ZoneLedger N L :=
  { l with pending := l.pending.filter fun intent => through < intent.seq }

/-- `applied` -/
def applied (revision : Option Nat) (raw shown : List (Output N L)) :
    ZoneLedger N L × Option (List String) :=
  match l.sent.filter fun sent => sent.write.id = id with
  | none => (l, none)
  | some sent =>
      if sent.lapsed.isSome then ({ l with sent := some { sent with unknown := true } }, none)
      else
        let settled := (l.settle id).retire sent.through
        match revision with
        | none => (settled, some [])
        | some revision =>
            if settled.confirmed.all fun confirmed => confirmed.revision < revision then
              let (adopted, cancelled) := settled.adopt revision raw shown
              (adopted, some cancelled)
            else (settled, some [])

/-- `stale` -/
def stale : ZoneLedger N L := l.settle id

/-- `failed` -/
def failed : ZoneLedger N L := l.settle id

/-- The write that is out, changed if it has the id. -/
def modifySent (change : Sent N L → Sent N L) : ZoneLedger N L :=
  { l with sent := l.sent.map fun sent => if sent.write.id = id then change sent else sent }

/-- `lost` -/
def lost : ZoneLedger N L :=
  l.modifySent id fun sent => { sent with unknown := true, unanswered := sent.unanswered + 1 }

/-- `stranded` -/
def stranded (why : Lapse) : ZoneLedger N L :=
  l.modifySent id fun sent => { lapse sent why with unknown := true }

/-- `settle_ended` -/
def settleEnded (revision : Nat) (raw shown : List (Output N L)) : ZoneLedger N L × Option Lapsed :=
  match l.sent with
  | some ⟨_, through, true, _, some why⟩ =>
      let unconfirmed := l.pending.zipIdx.any fun (intent, index) =>
        intent.seq ≤ through ∧ isLatest l.pending index ∧ ¬ holds shown intent
      let settled : ZoneLedger N L := { l with sent := none }.retire through
      ((settled.confirm revision raw shown).1, some ⟨why, unconfirmed⟩)
  | _ => (l, none)

/-- `refetched` -/
def refetched (revision : Nat) (raw shown : List (Output N L)) : ZoneLedger N L × List String :=
  let (fresh, cancelled) := l.confirm revision raw shown
  match fresh.confirmed with
  | none => (fresh, cancelled)
  | some confirmed =>
      let settled := fresh.pending.zipIdx.filterMap fun (intent, index) =>
        if isLatest fresh.pending index ∧ holds confirmed.shown intent then
          some (intent.outputId, intent.field)
        else none
      ({ fresh with pending := fresh.pending.filter fun intent =>
          (intent.outputId, intent.field) ∉ settled }, cancelled)

/-- An answer that is taken settles the write of its id, which its key still could. -/
lemma of_applied {l : ZoneLedger N L} {id : Nat} {landed : Option Nat} {raw shown : List (Output N L)}
    {cancelled : List String} (h : (l.applied id landed raw shown).2 = some cancelled) :
    ∃ sent, l.sent = some sent ∧ sent.write.id = id ∧ sent.lapsed = none := by
  unfold applied at h
  split at h
  · cases h
  · rename_i sent hf
    obtain ⟨hs, hi⟩ := Option.filter_eq_some_iff.mp hf
    split_ifs at h with hl
    exact ⟨sent, hs, of_decide_eq_true hi, by simpa using hl⟩

end ZoneLedger

/-! ## The ledgers of a scene -/

/-- `ZoneRead` -/
structure ZoneRead (N L : Type) where
  zoneId : String
  raw : List (Output N L)
  shown : List (Output N L)

/-- `SceneRead` -/
structure SceneRead (N L : Type) where
  sceneId : Nat
  revision : Nat
  run : String
  zones : List (ZoneRead N L)

/-- `Ticket` -/
structure Ticket where
  sceneId : Nat
  generation : Nat
deriving DecidableEq

/-- `Cause` -/
inductive Cause where
  | outputLeft
  | zoneGone
  | sceneChanged

/-- `Cancelled` -/
structure Cancelled where
  zoneId : String
  outputIds : List String
  cause : Cause

/-- `Admission` -/
inductive Admission where
  | taken (cancelled : List Cancelled)
  | switched (cancelled : List Cancelled)
  | behind
  | otherRun
  | refused

/-- `SceneLedgers` -/
structure SceneLedgers (N L : Type) where
  sceneId : Option Nat
  run : String
  generation : Nat
  zones : List (String × ZoneLedger N L)
  lastWrite : Nat
  keyPrefix : String

namespace SceneLedgers

variable {N L : Type} [BEq N]

/-- `new` -/
def new (keyPrefix : String) : SceneLedgers N L := ⟨none, "", 0, [], 0, keyPrefix⟩

variable (s : SceneLedgers N L)

/-- `enter` -/
def enter (run : String) : SceneLedgers N L × Bool :=
  if run = "" ∨ run = s.run then (s, false)
  else
    ({ s with
        run := run
        generation := s.generation + 1
        zones := s.zones.map fun (zoneId, ledger) => (zoneId, ledger.startReanchor) }, true)

/-- `ticket` -/
def ticket : Option Ticket := s.sceneId.map (⟨·, s.generation⟩)

/-- `admits` -/
def admits (ticket : Ticket) : Bool := s.ticket = some ticket

/-- The report of a ledger that goes with edits pending. -/
def dropped (cause : Cause) : String × ZoneLedger N L → Option Cancelled
  | (zoneId, ledger) => if ledger.hasPending then some ⟨zoneId, outputsOf ledger.pending, cause⟩ else none

/-- `select` -/
def select (sceneId : Nat) : SceneLedgers N L × List Cancelled :=
  if s.sceneId = some sceneId then (s, [])
  else
    ({ s with sceneId := some sceneId, generation := s.generation + 1, zones := [] },
      s.zones.filterMap (dropped .sceneChanged))

/-- `zone` -/
def zone (zoneId : String) : Option (ZoneLedger N L) := s.zones.lookup zoneId

/-- The first entry of an id, changed. -/
def modifyFirst (zoneId : String) (change : ZoneLedger N L → ZoneLedger N L) :
    List (String × ZoneLedger N L) → List (String × ZoneLedger N L)
  | [] => []
  | (id, ledger) :: zones =>
      if id = zoneId then (id, change ledger) :: zones
      else (id, ledger) :: modifyFirst zoneId change zones

/-- `ledger_mut`: a change of the zone's ledger, if it has one. -/
def modify (zoneId : String) (change : ZoneLedger N L → ZoneLedger N L) :
    SceneLedgers N L := { s with zones := modifyFirst zoneId change s.zones }

/-- `zone_mut`: the zone's ledger, made empty when it has none. -/
def ensure (zoneId : String) : SceneLedgers N L :=
  if (s.zone zoneId).isSome then s else { s with zones := s.zones ++ [(zoneId, {})] }

variable (read : SceneRead N L)

/-- `of_run` -/
def ofRun : SceneLedgers N L × Bool :=
  if s.run = "" then ((s.enter read.run).1, true) else (s, read.run = s.run)

/-- `newest_revision` -/
def newestRevision : Option Nat :=
  ((s.zones.filter fun entry => ! entry.2.reanchor).filterMap fun entry => entry.2.revision).max?

/-- The closure of `take_in`: whether a ledger stays when a read comes in. -/
def stays (entry : String × ZoneLedger N L) : Bool :=
  (read.zones.any fun zone => zone.zoneId = entry.1) ||
    (! entry.2.reanchor && entry.2.revision.any fun revision => read.revision < revision)

/-- A zone of a read, taken in by its ledger. -/
def takeZone (revision : Nat) (s : SceneLedgers N L × List Cancelled) (zone : ZoneRead N L) :
    SceneLedgers N L × List Cancelled :=
  match s.1.zone zone.zoneId with
  | none => s
  | some ledger =>
      let outputIds := (ledger.confirm revision zone.raw zone.shown).2
      (s.1.modify zone.zoneId fun ledger => (ledger.confirm revision zone.raw zone.shown).1,
        if outputIds.isEmpty then s.2 else s.2 ++ [⟨zone.zoneId, outputIds, .outputLeft⟩])

/-- `take_in` -/
def takeIn : SceneLedgers N L × List Cancelled :=
  read.zones.foldl (takeZone read.revision) ({ s with zones := s.zones.filter (stays read) },
      (s.zones.filter fun entry => ! stays read entry).filterMap (dropped .zoneGone))

/-- The zone that a read is for gets a ledger, if the read holds it. -/
def want : Option String → SceneLedgers N L
  | none => s
  | some zoneId => if read.zones.any fun zone => zone.zoneId = zoneId then s.ensure zoneId else s

/-- `observe` -/
def observe (wanted : Option String) : SceneLedgers N L × Option (List Cancelled) :=
  let (s, known) := s.ofRun read
  if ! known then (s, none)
  else
    let (s, cancelled) := s.select read.sceneId
    let (s, left) := (s.want read wanted).takeIn read
    (s, some (cancelled ++ left))

/-- `admit` -/
def admitRead (ticket : Ticket) (read : SceneRead N L) : SceneLedgers N L × Admission :=
  if ! s.admits ticket then (s, .refused)
  else
    let (s, known) := s.ofRun read
    if ! known then (s, .otherRun)
    else if read.sceneId ≠ ticket.sceneId then
      if s.newestRevision.any fun newest => read.revision < newest then (s, .behind)
      else
        let (s, cancelled) := s.observe read none
        (s, .switched (cancelled.getD []))
    else
      let (s, cancelled) := s.takeIn read
      (s, .taken cancelled)

/-- `take_write` -/
def takeWrite (s : SceneLedgers N L) (zoneId : String) : SceneLedgers N L × Option (Write N L) :=
  let id := s.lastWrite + 1
  let key := s.keyPrefix ++ ":" ++ toString id
  match (s.zone zoneId).bind fun ledger => (ledger.takeWrite s.run id key).2 with
  | none => (s, none)
  | some write =>
      ({ s.modify zoneId fun ledger => (ledger.takeWrite s.run id key).1 with lastWrite := id },
          some write)

end SceneLedgers

end Hypercolor.LayoutBuilder
