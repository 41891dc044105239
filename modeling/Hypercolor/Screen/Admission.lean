import Hypercolor.Lib.Table

/-!
# Byte admission for screen capture

The shared byte fence of screen capture, one atomic access at a time. A coordinator keeps a byte
budget, a backend capacity, the count of reserved bytes and a revision of the capacity that is odd
while a new capacity is being installed; every lease has a count of its own. Operations run
interleaved, each `turn` one load, store or compare-and-swap of one of them, in one order that all of
them see; a weak compare-and-swap may fail for no reason.

A reservation is used by one operation at a time, and a lease that is dropped by none: `&mut self`,
`self` and the count of the `Arc` see to that. A frozen lease is reconciled by any number at once.
-/

namespace Hypercolor.Screen

open Lib

/-- `u64::MAX` -/
def u64Max : Nat := 2 ^ 64 - 1

abbrev LeaseId := Nat

abbrev OpId := Nat

/-- `ScreenAdmissionCapacity` -/
structure Capacity where
  byteBudget : Nat
  backendCapacity : Nat
deriving DecidableEq

/-- The smaller of the two fences. -/
def Capacity.least (capacity : Capacity) : Nat := min capacity.byteBudget capacity.backendCapacity

/-- `ScreenByteAdmissionError` -/
inductive AdmissionError where
  | capacityExceeded (requestedBytes availableBytes : Nat)
  | capacityShrinkRejected (requestedCapacity reservedBytes : Nat)
  | revisionExhausted

/-- `ScreenByteLeaseInner`, `ScreenByteReservation`, `ScreenByteLease`: a reservation, or a lease
once it is frozen. -/
structure Lease where
  bytes : Nat
  frozen : Bool

/-- `ScreenByteAdmissionInner`: the atomics. `underflows` counts the releases whose `checked_sub`
failed. -/
structure Memory where
  capacity : Capacity
  reservedBytes : Nat := 0
  capacityRevision : Nat := 0
  leases : Table LeaseId Lease := ∅
  underflows : Nat := 0

namespace Memory

/-- The bytes of the leases handed out. -/
def leased (mem : Memory) : Nat := Table.total (fun _ lease => lease.bytes) mem.leases

def setBytes (mem : Memory) (own : LeaseId) (lease : Lease) (bytes : Nat) : Memory :=
  { mem with leases := mem.leases.insert own { lease with bytes } }

end Memory

/-! ## Release -/

/-- `ScreenByteAdmissionInner::release`, between its accesses -/
inductive ReleasePc where
  | load
  | swap (reserved : Nat)

/-- The closure of `try_update`, of a value just read. -/
def Memory.checkedSub (mem : Memory) (bytes : Nat) : Memory × Option ReleasePc :=
  if bytes = 0 then (mem, none)
  else if mem.reservedBytes < bytes then ({ mem with underflows := mem.underflows + 1 }, none)
  else (mem, some (.swap mem.reservedBytes))

variable (mem : Memory) (spurious : Bool)

/-- `ScreenByteAdmissionInner::release` -/
def Memory.release (bytes : Nat) : ReleasePc → Memory × Option ReleasePc
  | .load => mem.checkedSub bytes
  | .swap reserved =>
      if spurious ∨ mem.reservedBytes ≠ reserved then mem.checkedSub bytes
      else ({ mem with reservedBytes := reserved - bytes }, none)

/-! ## Acquisition -/

/-- `try_acquire`, between its accesses -/
inductive AcquirePc where
  | readRevision
  | readBudget (revision : Nat)
  | readBackend (revision budget : Nat)
  | readReserved (revision : Nat) (capacity : Capacity)
  | swap (revision : Nat) (capacity : Capacity) (reserved : Nat)
  | validate (revision : Nat)
  | undo (pc : ReleasePc)

inductive AcquireNext where
  | running (pc : AcquirePc)
  | granted
  | rejected (error : AdmissionError)

/-- `try_acquire` -/
def Memory.acquire (bytes : Nat) : AcquirePc → Memory × AcquireNext
  | .readRevision =>
      if mem.capacityRevision % 2 ≠ 0 then (mem, .running .readRevision)
      else (mem, .running (.readBudget mem.capacityRevision))
  | .readBudget revision => (mem, .running (.readBackend revision mem.capacity.byteBudget))
  | .readBackend revision budget =>
      (mem, .running (.readReserved revision ⟨budget, mem.capacity.backendCapacity⟩))
  | .readReserved revision capacity =>
      if u64Max < mem.reservedBytes + bytes ∨ capacity.least < mem.reservedBytes + bytes then
        (mem, .rejected (.capacityExceeded bytes (capacity.least - mem.reservedBytes)))
      else (mem, .running (.swap revision capacity mem.reservedBytes))
  | .swap revision _ reserved =>
      if spurious ∨ mem.reservedBytes ≠ reserved then (mem, .running .readRevision)
      else ({ mem with reservedBytes := reserved + bytes }, .running (.validate revision))
  | .validate revision =>
      if mem.capacityRevision = revision then (mem, .granted) else (mem, .running (.undo .load))
  | .undo pc =>
      match mem.release spurious bytes pc with
      | (mem, some pc) => (mem, .running (.undo pc))
      | (mem, none) => (mem, .running .readRevision)

/-! ## Operations -/

/-- `try_set_capacity`, between its accesses -/
inductive SetPc where
  | readRevision
  | lock (revision : Nat)
  | readReserved (revision : Nat)
  | revert (revision : Nat) (error : AdmissionError)
  | storeBudget (revision : Nat)
  | storeBackend (revision : Nat)
  | commit (revision : Nat)

/-- `reconcile_down`, between its accesses -/
inductive ReconcileDownPc where
  | load
  | swap (quoted : Nat)
  | release (bytes : Nat) (pc : ReleasePc)

/-- `split_off`, between its accesses -/
inductive SplitOffPc where
  | load
  | swap (current : Nat)

/-- `absorb`, between its accesses -/
inductive AbsorbPc where
  | load
  | loadOther (current : Nat)
  | store (current additional : Nat)
  | clear
  | dropOther (pc : ReleasePc)

/-- `try_reconcile_exact`, between its accesses -/
inductive ReconcileExactPc where
  | load
  | shrinkSwap (current : Nat)
  | release (bytes : Nat) (pc : ReleasePc)
  | acquire (current : Nat) (pc : AcquirePc)
  | growSwap (current : Nat)
  | clearTopUp
  | dropTopUp (bytes : Nat) (pc : ReleasePc)

/-- The drop of `ScreenByteLeaseInner`, between its accesses -/
inductive DropPc where
  | swap
  | release (bytes : Nat) (pc : ReleasePc)

/-- An operation in progress. A reservation that is absorbed has been moved into the operation, and
`other` is its count. -/
inductive Op where
  | tryAcquire (bytes : Nat) (pc : AcquirePc)
  | trySetCapacity (capacity : Capacity) (pc : SetPc)
  | reconcileDown (lease : LeaseId) (actual : Nat) (pc : ReconcileDownPc)
  | splitOff (lease : LeaseId) (bytes : Nat) (pc : SplitOffPc)
  | absorb (lease : LeaseId) (other : Nat) (pc : AbsorbPc)
  /-- `absorb` of a quote from another coordinator, which is then dropped there. -/
  | absorbForeign (lease : LeaseId) (other : Nat)
  | tryReconcileExact (lease : LeaseId) (exactBytes : Nat) (pc : ReconcileExactPc)
  | drop (lease : LeaseId) (pc : DropPc)

inductive Next where
  | running (op : Op)
  | done (result : Except AdmissionError Unit)

/-- `try_set_capacity` -/
def Memory.setCapacity (capacity : Capacity) : SetPc → Memory × Except (Except AdmissionError Unit) SetPc
  | .readRevision =>
      if mem.capacityRevision % 2 ≠ 0 then (mem, .ok .readRevision)
      else if u64Max < mem.capacityRevision + 1 then (mem, .error (.error .revisionExhausted))
      else (mem, .ok (.lock mem.capacityRevision))
  | .lock revision =>
      if spurious ∨ mem.capacityRevision ≠ revision then (mem, .ok .readRevision)
      else ({ mem with capacityRevision := revision + 1 }, .ok (.readReserved revision))
  | .readReserved revision =>
      if capacity.least < mem.reservedBytes then
        (mem, .ok (.revert revision (.capacityShrinkRejected capacity.least mem.reservedBytes)))
      else if u64Max < revision + 1 + 1 then (mem, .ok (.revert revision .revisionExhausted))
      else (mem, .ok (.storeBudget revision))
  | .revert revision error => ({ mem with capacityRevision := revision }, .error (.error error))
  | .storeBudget revision =>
      ({ mem with capacity := { mem.capacity with byteBudget := capacity.byteBudget } },
        .ok (.storeBackend revision))
  | .storeBackend revision =>
      ({ mem with capacity := { mem.capacity with backendCapacity := capacity.backendCapacity } },
        .ok (.commit revision))
  | .commit revision => ({ mem with capacityRevision := revision + 1 + 1 }, .error (.ok ()))

section Turn

variable (spurious : Bool) (fresh : LeaseId) (mem : Memory)

variable (own : LeaseId) (lease : Lease)

/-- `reconcile_down` -/
def reconcileDownTurn (actual : Nat) : ReconcileDownPc → Memory × Next
  | .load =>
      if lease.bytes < actual then
        (mem, .done (.error (.capacityExceeded (actual - lease.bytes) 0)))
      else if actual = lease.bytes then (mem, .done (.ok ()))
      else (mem, .running (.reconcileDown own actual (.swap lease.bytes)))
  | .swap quoted =>
      if spurious ∨ lease.bytes ≠ quoted then
        (mem, .running (.reconcileDown own actual .load))
      else (mem.setBytes own lease actual,
        .running (.reconcileDown own actual (.release (quoted - actual) .load)))
  | .release bytes pc =>
      match mem.release spurious bytes pc with
      | (mem, some pc) => (mem, .running (.reconcileDown own actual (.release bytes pc)))
      | (mem, none) => (mem, .done (.ok ()))

/-- `split_off` -/
def splitOffTurn (bytes : Nat) : SplitOffPc → Memory × Next
  | .load =>
      if lease.bytes < bytes then (mem, .done (.error (.capacityExceeded (bytes - lease.bytes) 0)))
      else (mem, .running (.splitOff own bytes (.swap lease.bytes)))
  | .swap current =>
      if spurious ∨ lease.bytes ≠ current then (mem, .running (.splitOff own bytes .load))
      else
        let mem := mem.setBytes own lease (current - bytes)
        ({ mem with leases := mem.leases.insert fresh ⟨bytes, false⟩ }, .done (.ok ()))

/-- `absorb` -/
def absorbTurn (other : Nat) : AbsorbPc → Memory × Next
  | .load => (mem, .running (.absorb own other (.loadOther lease.bytes)))
  | .loadOther current =>
      if u64Max < current + other then (mem, .running (.absorb own other (.dropOther .load)))
      else (mem, .running (.absorb own other (.store current other)))
  | .store current additional =>
      (mem.setBytes own lease (current + additional), .running (.absorb own other .clear))
  | .clear => (mem, .done (.ok ()))
  | .dropOther pc =>
      match mem.release spurious other pc with
      | (mem, some pc) => (mem, .running (.absorb own other (.dropOther pc)))
      | (mem, none) => (mem, .done (.error (.capacityExceeded other 0)))

/-- `try_reconcile_exact` -/
def reconcileExactTurn (exactBytes : Nat) : ReconcileExactPc → Memory × Next
  | .load =>
      if exactBytes = lease.bytes then (mem, .done (.ok ()))
      else if exactBytes < lease.bytes then
        (mem, .running (.tryReconcileExact own exactBytes (.shrinkSwap lease.bytes)))
      else (mem, .running (.tryReconcileExact own exactBytes (.acquire lease.bytes .readRevision)))
  | .shrinkSwap current =>
      if spurious ∨ lease.bytes ≠ current then
        (mem, .running (.tryReconcileExact own exactBytes .load))
      else (mem.setBytes own lease exactBytes,
        .running (.tryReconcileExact own exactBytes (.release (current - exactBytes) .load)))
  | .release bytes pc =>
      match mem.release spurious bytes pc with
      | (mem, some pc) => (mem, .running (.tryReconcileExact own exactBytes (.release bytes pc)))
      | (mem, none) => (mem, .done (.ok ()))
  | .acquire current pc =>
      match mem.acquire spurious (exactBytes - current) pc with
      | (mem, .running pc) =>
          (mem, .running (.tryReconcileExact own exactBytes (.acquire current pc)))
      | (mem, .granted) => (mem, .running (.tryReconcileExact own exactBytes (.growSwap current)))
      | (mem, .rejected error) => (mem, .done (.error error))
  | .growSwap current =>
      -- the strong `compare_exchange` does not fail for no reason
      if lease.bytes ≠ current then
        (mem, .running (.tryReconcileExact own exactBytes (.dropTopUp (exactBytes - current) .load)))
      else (mem.setBytes own lease exactBytes, .running (.tryReconcileExact own exactBytes .clearTopUp))
  | .clearTopUp => (mem, .done (.ok ()))
  | .dropTopUp bytes pc =>
      match mem.release spurious bytes pc with
      | (mem, some pc) => (mem, .running (.tryReconcileExact own exactBytes (.dropTopUp bytes pc)))
      | (mem, none) => (mem, .running (.tryReconcileExact own exactBytes .load))

/-- The next atomic access of an operation, if the lease it uses is there. -/
def turn : Op → Option (Memory × Next)
  | .tryAcquire bytes pc =>
      match mem.acquire spurious bytes pc with
      | (mem, .running pc) => some (mem, .running (.tryAcquire bytes pc))
      | (mem, .granted) =>
          some ({ mem with leases := mem.leases.insert fresh ⟨bytes, false⟩ }, .done (.ok ()))
      | (mem, .rejected error) => some (mem, .done (.error error))
  | .trySetCapacity capacity pc =>
      match mem.setCapacity spurious capacity pc with
      | (mem, .ok pc) => some (mem, .running (.trySetCapacity capacity pc))
      | (mem, .error result) => some (mem, .done result)
  | .reconcileDown own actual pc =>
      (mem.leases.lookup own).map fun lease => reconcileDownTurn spurious mem own lease actual pc
  | .splitOff own bytes pc =>
      (mem.leases.lookup own).map fun lease => splitOffTurn spurious fresh mem own lease bytes pc
  | .absorb own other pc =>
      (mem.leases.lookup own).map fun lease => absorbTurn spurious mem own lease other pc
  | .absorbForeign _ other => some (mem, .done (.error (.capacityExceeded other 0)))
  | .tryReconcileExact own exactBytes pc =>
      (mem.leases.lookup own).map fun lease =>
        reconcileExactTurn spurious mem own lease exactBytes pc
  | .drop own .swap =>
      (mem.leases.lookup own).map fun lease =>
        ({ mem with leases := mem.leases.erase own }, .running (.drop own (.release lease.bytes .load)))
  | .drop own (.release bytes pc) =>
      match mem.release spurious bytes pc with
      | (mem, some pc) => some (mem, .running (.drop own (.release bytes pc)))
      | (mem, none) => some (mem, .done (.ok ()))

end Turn

/-! ## Interleavings -/

/-- The lease an operation has borrowed, or owns. -/
def Op.uses : Op → Option LeaseId
  | .tryAcquire .. | .trySetCapacity .. | .drop _ (.release ..) => none
  | .reconcileDown lease .. | .splitOff lease .. | .absorb lease .. | .absorbForeign lease _
  | .tryReconcileExact lease .. | .drop lease .swap => some lease

/-- The operation borrows its lease along with others of its kind. -/
def Op.shares : Op → Bool
  | .tryReconcileExact .. => true
  | .tryAcquire .. | .trySetCapacity .. | .reconcileDown .. | .splitOff .. | .absorb ..
  | .absorbForeign .. | .drop .. => false

/-- An operation with what its own accesses have changed so far: the reserved bytes, and the bytes of
the lease it uses. -/
structure Running where
  op : Op
  netReserved : Int := 0
  netLease : Int := 0

/-- The bytes of the lease an operation uses. -/
def Memory.bytesOf (mem : Memory) (op : Op) : Nat :=
  ((op.uses.bind mem.leases.lookup).map (·.bytes)).getD 0

/-- The operation with the changes of one access of its own added. -/
def Running.charge (r : Running) (mem mem' : Memory) : Running :=
  { r with
    netReserved := r.netReserved + (mem'.reservedBytes - mem.reservedBytes)
    netLease := r.netLease + (mem'.bytesOf r.op - mem.bytesOf r.op) }

/-- The coordinator, the operations in progress and the operations that were rejected. -/
structure World where
  mem : Memory
  ops : Table OpId Running := ∅
  rejections : List Running := []

inductive Call where
  | tryAcquire (bytes : Nat)
  | trySetCapacity (capacity : Capacity)
  | reconcileDown (lease : LeaseId) (actual : Nat)
  | splitOff (lease : LeaseId) (bytes : Nat)
  | absorb (lease other : LeaseId)
  | absorbForeign (lease : LeaseId) (other : Nat)
  | tryReconcileExact (lease : LeaseId) (exactBytes : Nat)
  | drop (lease : LeaseId)

inductive Action where
  | start (own : OpId) (call : Call)
  | turn (own : OpId) (spurious : Bool) (fresh : LeaseId)
  | freeze (lease : LeaseId)

namespace World

variable (w : World)

/-- No operation uses the lease, unless both share it. -/
def idle (lease : LeaseId) (shared : Bool) : Bool :=
  w.ops.values.all fun r => r.op.uses != some lease || (shared && r.op.shares)

/-- The lease, if it can be used now. -/
def available (lease : LeaseId) (frozen shared : Bool) : Option Lease :=
  (w.mem.leases.lookup lease).filter fun held => held.frozen == frozen && w.idle lease shared

/-- What a call starts as; the reservation absorbed leaves the leases. -/
def begin : Call → Option (Memory × Op)
  | .tryAcquire bytes => some (w.mem, .tryAcquire bytes .readRevision)
  | .trySetCapacity capacity => some (w.mem, .trySetCapacity capacity .readRevision)
  | .reconcileDown lease actual =>
      (w.available lease false false).map fun _ => (w.mem, .reconcileDown lease actual .load)
  | .splitOff lease bytes =>
      (w.available lease false false).map fun _ => (w.mem, .splitOff lease bytes .load)
  | .absorb lease other =>
      if lease = other then none
      else (w.available lease false false).bind fun _ =>
        (w.available other false false).map fun held =>
          ({ w.mem with leases := w.mem.leases.erase other }, .absorb lease held.bytes .load)
  | .absorbForeign lease other =>
      (w.available lease false false).map fun _ => (w.mem, .absorbForeign lease other)
  | .tryReconcileExact lease exactBytes =>
      (w.available lease true true).map fun _ => (w.mem, .tryReconcileExact lease exactBytes .load)
  | .drop lease =>
      ((w.available lease false false).or (w.available lease true false)).map fun _ =>
        (w.mem, .drop lease .swap)

/-- The world after one access of an operation. -/
def settle (own : OpId) (r : Running) (mem : Memory) : Next → World
  | .running op =>
      { w with mem, ops := w.ops.insert own { r.charge w.mem mem with op } }
  | .done (.ok ()) => { w with mem, ops := w.ops.erase own }
  | .done (.error _) =>
      { mem, ops := w.ops.erase own, rejections := w.rejections ++ [r.charge w.mem mem] }

def step : Action → Option World
  | .start own call =>
      if own ∈ w.ops then none
      else (w.begin call).map fun begun =>
        { w with mem := begun.1, ops := w.ops.insert own { op := begun.2 } }
  | .turn own spurious fresh =>
      if fresh ∈ w.mem.leases then none
      else (w.ops.lookup own).bind fun r =>
        (turn spurious fresh w.mem r.op).map fun next => w.settle own r next.1 next.2
  | .freeze lease =>
      (w.available lease false false).map fun held =>
        { w with mem :=
            { w.mem with leases := w.mem.leases.insert lease { held with frozen := true } } }

/-- A new coordinator. -/
def new (capacity : Capacity) : World where
  mem := { capacity }

end World

end Hypercolor.Screen
