import Mathlib.Algebra.GroupWithZero.Nat
import Hypercolor.Lib.Machine
import Hypercolor.Lib.SwapRemove

/-!
# The pool of summed-area workspaces

Callers check workspaces out of a pool and back in. A workspace that is not there is allocated outside
of the lock, between a reservation and its commit; an idle one of another size is evicted for it and
resized.

The machine `pooling` lets any number of callers take their critical sections in any order; the
allocator gives exactly what is asked for or fails. A caller that waits for another one's allocation
starts over. Where the source would panic, an operation has no result.
-/

namespace Hypercolor.Spatial

open Lib

/-! ## Geometry -/

/-- `usize::MAX`, `u64::MAX` -/
def usizeMax : Nat := 2 ^ 64 - 1

/-- A number that fits a `usize`. -/
def checked (n : Nat) : Option Nat := if n ≤ usizeMax then some n else none

def checkedSub (a b : Nat) : Option Nat := if b ≤ a then some (a - b) else none

/-- `SpatialSamplingError` -/
inductive SpatialSamplingError where
  | areaWorkspaceUnaddressable (width height : UInt32)
  | areaWorkspaceAllocation (width height : UInt32) (entryCount : Nat)
  | areaWorkspaceCapacityExceeded (width height : UInt32) (requiredBytes capacityBytes : Nat)

/-- `SpatialSamplingCapacity` -/
structure SpatialSamplingCapacity where
  maxAreaWorkspaceBytes : Nat
  fits : maxAreaWorkspaceBytes ≤ usizeMax

/-- `WorkspaceDescriptor` -/
structure WorkspaceDescriptor where
  width : UInt32
  height : UInt32
deriving DecidableEq

/-- `WorkspaceGeometry` -/
structure WorkspaceGeometry where
  stride : Nat
  entryCount : Nat
  width : UInt32
  height : UInt32
  byteLen : Nat

namespace WorkspaceGeometry

/-- `try_new` -/
def tryNew (width height : UInt32) : Except SpatialSamplingError WorkspaceGeometry :=
  let error := .error (.areaWorkspaceUnaddressable width height)
  if width = 0 ∨ height = 0 then error
  else
    let stride := width.toNat + 1
    let rows := height.toNat + 1
    match checked (stride * rows), checked (stride * rows * 24),
        checked (width.toNat * height.toNat * 65535) with
    | some entryCount, some byteLen, some _ => .ok { stride, entryCount, width, height, byteLen }
    | _, _, _ => error

/-- `descriptor` -/
def descriptor (geometry : WorkspaceGeometry) : WorkspaceDescriptor :=
  ⟨geometry.width, geometry.height⟩

end WorkspaceGeometry

/-- `allocation_error` -/
def allocationError (geometry : WorkspaceGeometry) : SpatialSamplingError :=
  .areaWorkspaceAllocation geometry.width geometry.height geometry.entryCount

/-! ## Workspaces -/

/-- `SummedAreaWorkspace`: the sums by their number and the capacity of their vector. -/
structure SummedAreaWorkspace where
  width : UInt32
  height : UInt32
  stride : Nat
  len : Nat
  capacity : Nat

namespace SummedAreaWorkspace

variable (workspace : SummedAreaWorkspace)

/-- `matches` -/
def isFor (width height : UInt32) : Bool :=
  workspace.width = width ∧ workspace.height = height

/-- `backing_bytes` -/
def backingBytes : Option Nat := checked (workspace.capacity * 24)

/-- `geometry` -/
def geometry : Option WorkspaceGeometry := do
  let byteLen ← checked (workspace.len * 24)
  return { stride := workspace.stride, entryCount := workspace.len, width := workspace.width
           height := workspace.height, byteLen }

variable (geometry : WorkspaceGeometry) (succeeds : Bool)

/-- `try_new`, `allocate_sums` -/
def tryNew : Except SpatialSamplingError SummedAreaWorkspace :=
  if succeeds then
    .ok { width := geometry.width, height := geometry.height, stride := geometry.stride
          len := geometry.entryCount, capacity := geometry.entryCount }
  else .error (allocationError geometry)

/-- `try_resize`: a vector that has room keeps its capacity. -/
def tryResize : Except SpatialSamplingError SummedAreaWorkspace :=
  let additional := geometry.entryCount - workspace.len
  if succeeds then
    .ok { width := geometry.width, height := geometry.height, stride := geometry.stride
          len := geometry.entryCount
          capacity := max workspace.capacity (workspace.len + additional) }
  else .error (allocationError geometry)

end SummedAreaWorkspace

/-! ## The pool -/

/-- `AreaWorkspacePoolState` -/
structure AreaWorkspacePoolState where
  available : List SummedAreaWorkspace := []
  residentDescriptors : List WorkspaceDescriptor := []
  allocatingDescriptors : List WorkspaceDescriptor := []
  residentBytes : Nat := 0
  reservedBytes : Nat := 0
  leased : Nat := 0
  replacing : Nat := 0
  reserved : Nat := 0

/-- `EvictedWorkspace` -/
structure EvictedWorkspace where
  workspace : SummedAreaWorkspace
  geometry : WorkspaceGeometry

/-- `WorkspaceReservation` -/
structure WorkspaceReservation where
  replacement : Option EvictedWorkspace
  replacedBytes : Nat
  reservedBytes : Nat

/-- `WorkspaceAllocationFailure` -/
structure WorkspaceAllocationFailure where
  error : SpatialSamplingError
  replacement : Option EvictedWorkspace

/-- `validate_aggregate_capacity` -/
def validateAggregateCapacity (residentBytes reservedBytes : Nat) (geometry : WorkspaceGeometry)
    (allocationBytes : Nat) (capacity : SpatialSamplingCapacity) : Except SpatialSamplingError Unit :=
  let refused := fun requiredBytes => .error (.areaWorkspaceCapacityExceeded geometry.width
    geometry.height requiredBytes capacity.maxAreaWorkspaceBytes)
  match (checked (residentBytes + reservedBytes)).bind fun bytes =>
      checked (bytes + allocationBytes) with
  | none => refused usizeMax
  | some requiredBytes =>
    if capacity.maxAreaWorkspaceBytes < requiredBytes then refused requiredBytes else .ok ()

/-- Take a descriptor out of a list that holds it. -/
def removeDescriptor (descriptors : List WorkspaceDescriptor) (descriptor : WorkspaceDescriptor) :
    Option (List WorkspaceDescriptor) := do
  let index ← descriptors.findIdx? fun candidate => candidate = descriptor
  let (_, rest) ← swapRemove descriptors index
  return rest

/-- `reserve_allocation`, its `replacement`: take the last idle workspace out of the pool. -/
def evict (state : AreaWorkspacePoolState) (workspace : SummedAreaWorkspace) :
    Option (AreaWorkspacePoolState × EvictedWorkspace) := do
  let geometry ← workspace.geometry
  let residentDescriptors ← removeDescriptor state.residentDescriptors geometry.descriptor
  return ({ state with
    available := state.available.dropLast
    residentDescriptors
    replacing := state.replacing + 1 }, { workspace, geometry })

/-- `reserve_allocation`: whether the vectors of the pool could be grown is an argument. -/
def reserveAllocation (state : AreaWorkspacePoolState) (geometry : WorkspaceGeometry)
    (capacity : SpatialSamplingCapacity) (grows : Bool) :
    Option (Except SpatialSamplingError (AreaWorkspacePoolState × WorkspaceReservation)) := do
  let replacedBytes ← match state.available.getLast? with
    | none => some 0
    | some workspace => workspace.backingBytes
  let reservedBytes := geometry.byteLen - replacedBytes
  match validateAggregateCapacity state.residentBytes state.reservedBytes geometry reservedBytes
      capacity with
  | .error error => return .error error
  | .ok () =>
    if grows then
      let (state, replacement) ← match state.available.getLast? with
        | none => some (state, none)
        | some workspace => (evict state workspace).map fun (state, evicted) => (state, some evicted)
      return .ok
        ({ state with
            reserved := state.reserved + 1
            reservedBytes := state.reservedBytes + reservedBytes
            allocatingDescriptors := state.allocatingDescriptors ++ [geometry.descriptor] },
          { replacement, replacedBytes, reservedBytes })
    else return .error (allocationError geometry)

/-- `allocate_workspace` -/
def allocateWorkspace (replacement : Option EvictedWorkspace) (geometry : WorkspaceGeometry)
    (succeeds : Bool) : Except WorkspaceAllocationFailure SummedAreaWorkspace :=
  let allocated := match replacement with
    | some candidate => candidate.workspace.tryResize geometry succeeds
    | none => SummedAreaWorkspace.tryNew geometry succeeds
  match allocated with
  | .ok workspace => .ok workspace
  | .error error => .error { error, replacement }

/-- `restore_replacement` -/
def restoreReplacement (state : AreaWorkspacePoolState) :
    Option EvictedWorkspace → Option AreaWorkspacePoolState
  | none => some state
  | some replacement => do
    let replacing ← checkedSub state.replacing 1
    return { state with
      replacing
      residentDescriptors := state.residentDescriptors ++ [replacement.geometry.descriptor]
      available := state.available ++ [replacement.workspace] }

/-- `commit_workspace_backing` -/
def commitWorkspaceBacking (state : AreaWorkspacePoolState) (workspace : SummedAreaWorkspace)
    (replacedBytes : Nat) : Option AreaWorkspacePoolState := do
  let state ← if 0 < replacedBytes then do
      let replacing ← checkedSub state.replacing 1
      let residentBytes ← checkedSub state.residentBytes replacedBytes
      some { state with replacing, residentBytes }
    else some state
  let backingBytes ← workspace.backingBytes
  let residentBytes ← checked (state.residentBytes + backingBytes)
  return { state with residentBytes }

/-- `finish_reservation` -/
def finishReservation (state : AreaWorkspacePoolState) (descriptor : WorkspaceDescriptor)
    (reservedBytes : Nat) : Option AreaWorkspacePoolState := do
  let allocatingDescriptors ← removeDescriptor state.allocatingDescriptors descriptor
  let reserved ← checkedSub state.reserved 1
  let reservedBytes ← checkedSub state.reservedBytes reservedBytes
  return { state with allocatingDescriptors, reserved, reservedBytes }

/-! ## Callers -/

/-- What a caller that allocates is about to do with the workspace. -/
inductive Purpose where
  | checkout | prepare

/-- A caller between its reservation and the commit. -/
structure Allocation where
  purpose : Purpose
  geometry : WorkspaceGeometry
  reservation : WorkspaceReservation
  outcome : Option (Except WorkspaceAllocationFailure SummedAreaWorkspace)

/-- The allocator answers once. -/
def Allocation.attempt (allocation : Allocation) (succeeds : Bool) : Allocation :=
  match allocation.outcome with
  | some _ => allocation
  | none =>
    let outcome := allocateWorkspace allocation.reservation.replacement allocation.geometry succeeds
    { allocation with outcome := some outcome }

/-- A pool with the leases given out and the allocations in flight. -/
structure Pooling where
  pool : AreaWorkspacePoolState
  leases : List SummedAreaWorkspace
  inFlight : List Allocation

/-- A step of some caller: the start of a call, the allocation outside of the lock, its commit, and the
drop of a lease. -/
inductive PoolOp where
  | checkout (width height : UInt32) (grows : Bool)
  | prepare (width height : UInt32) (grows : Bool)
  | allocate (index : Nat) (succeeds : Bool)
  | commit (index : Nat)
  | checkin (index : Nat)

namespace Pooling

/-- A caller that found no workspace: it waits while another one allocates the same, and reserves
otherwise. -/
def reserve (capacity : SpatialSamplingCapacity) (s : Pooling) (purpose : Purpose)
    (geometry : WorkspaceGeometry) (grows : Bool) : Option Pooling :=
  if s.pool.allocatingDescriptors.contains geometry.descriptor then some s
  else do
    match ← reserveAllocation s.pool geometry capacity grows with
    | .error _ => return s
    | .ok (pool, reservation) =>
      return { s with
        pool, inFlight := s.inFlight ++ [⟨purpose, geometry, reservation, none⟩] }

variable (capacity : SpatialSamplingCapacity) (s : Pooling) (width height : UInt32) (grows : Bool)

/-- `try_checkout`, up to the allocation -/
def tryCheckout : Option Pooling :=
  match WorkspaceGeometry.tryNew width height with
  | .error _ => some s
  | .ok geometry =>
    match s.pool.available.findIdx? fun workspace => workspace.isFor width height with
    | some index => do
      let (workspace, available) ← swapRemove s.pool.available index
      return { s with
        pool := { s.pool with available, leased := s.pool.leased + 1 }
        leases := s.leases ++ [workspace] }
    | none => s.reserve capacity .checkout geometry grows

/-- `try_prepare`, up to the allocation -/
def tryPrepare : Option Pooling :=
  match WorkspaceGeometry.tryNew width height with
  | .error _ => some s
  | .ok geometry =>
    if s.pool.residentDescriptors.contains geometry.descriptor then some s
    else s.reserve capacity .prepare geometry grows

variable (s : Pooling) (index : Nat)

/-- The allocation, without the lock. -/
def allocate (succeeds : Bool) : Pooling :=
  { s with inFlight := s.inFlight.modify index (·.attempt succeeds) }

/-- `try_checkout`, `try_prepare`, from the allocation on -/
def finish (allocation : Allocation)
    (outcome : Except WorkspaceAllocationFailure SummedAreaWorkspace) : Option Pooling := do
  let pool ← finishReservation s.pool allocation.geometry.descriptor allocation.reservation.reservedBytes
  let inFlight := s.inFlight.eraseIdx index
  match outcome with
  | .error failure => do
    let pool ← restoreReplacement pool failure.replacement
    return { s with pool, inFlight }
  | .ok workspace => do
    let pool ← commitWorkspaceBacking pool workspace allocation.reservation.replacedBytes
    let pool := { pool with
      residentDescriptors := pool.residentDescriptors ++ [allocation.geometry.descriptor] }
    match allocation.purpose with
    | .checkout =>
      some { pool := { pool with leased := pool.leased + 1 }
             leases := s.leases ++ [workspace]
             inFlight }
    | .prepare =>
      some { s with pool := { pool with available := pool.available ++ [workspace] }, inFlight }

def commit : Option Pooling :=
  match s.inFlight[index]? with
  | none => some s
  | some allocation =>
    match allocation.outcome with
    | none => some s
    | some outcome => s.finish index allocation outcome

/-- `checkin` -/
def checkin : Option Pooling :=
  match s.leases[index]? with
  | none => some s
  | some workspace => do
    let leased ← checkedSub s.pool.leased 1
    return { s with
      pool := { s.pool with leased, available := s.pool.available ++ [workspace] }
      leases := s.leases.eraseIdx index }

/-- One step; there is no result where the source would panic. -/
def perform (capacity : SpatialSamplingCapacity) (s : Pooling) : PoolOp → Option Pooling
  | .checkout width height grows => s.tryCheckout capacity width height grows
  | .prepare width height grows => s.tryPrepare capacity width height grows
  | .allocate index succeeds => some (s.allocate index succeeds)
  | .commit index => s.commit index
  | .checkin index => s.checkin index

end Pooling

/-- Any callers of a new pool, in any order. -/
def pooling (capacity : SpatialSamplingCapacity) : Machine Pooling PoolOp where
  init s := s = ⟨{}, [], []⟩
  step s op t := s.perform capacity op = some t

end Hypercolor.Spatial
