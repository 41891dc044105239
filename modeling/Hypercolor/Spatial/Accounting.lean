import Hypercolor.Lib.Spread
import Hypercolor.Spatial.WorkspacePool

/-!
# What the pool counts

The counters of the pool say what is in it, what was given out and what is in flight.

* **`accounts_of_reachable`**: after any steps of any callers the counters are exact, their sum is
  within the capacity, no step panics, and the workspace evicted for an allocation that failed is back
  in the pool after the commit.
-/

namespace Hypercolor.Spatial

open Lib Option Pooling
open scoped List

/-! ## What is counted -/

namespace SummedAreaWorkspace

/-- The bytes of its vector. -/
def backing (workspace : SummedAreaWorkspace) : Nat := workspace.capacity * 24

def descriptor (workspace : SummedAreaWorkspace) : WorkspaceDescriptor :=
  ⟨workspace.width, workspace.height⟩

/-- A workspace is not empty and can be addressed. -/
structure Admitted (workspace : SummedAreaWorkspace) : Prop where
  stocked : 0 < workspace.len
  room : workspace.len ≤ workspace.capacity
  addressable : workspace.backing ≤ usizeMax

end SummedAreaWorkspace

/-- The bytes of several workspaces. -/
def backing (workspaces : List SummedAreaWorkspace) : Nat := (workspaces.map (·.backing)).sum

structure WorkspaceGeometry.Admitted (geometry : WorkspaceGeometry) : Prop where
  stocked : 0 < geometry.entryCount
  exact : geometry.byteLen = geometry.entryCount * 24
  addressable : geometry.byteLen ≤ usizeMax

/-- The workspace a reservation took out of the pool. -/
def WorkspaceReservation.evicted (reservation : WorkspaceReservation) : Option SummedAreaWorkspace :=
  reservation.replacement.map (·.workspace)

namespace Pooling

def reservations (s : Pooling) : List WorkspaceReservation := s.inFlight.map (·.reservation)

/-- The workspaces being replaced. -/
def replaced (s : Pooling) : List SummedAreaWorkspace := s.reservations.filterMap (·.evicted)

/-- The workspaces that are in the pool or given out. -/
def present (s : Pooling) : List SummedAreaWorkspace := s.pool.available ++ s.leases

end Pooling

/-- What the allocator gave. -/
def Allocation.Answered (allocation : Allocation) :
    Except WorkspaceAllocationFailure SummedAreaWorkspace → Prop
  | .ok workspace => workspace.Admitted ∧
      workspace.descriptor = allocation.geometry.descriptor ∧
      workspace.backing = allocation.reservation.replacedBytes + allocation.reservation.reservedBytes
  | .error failure => failure.replacement = allocation.reservation.replacement

/-- An allocation in flight reserved what it needs beyond the workspace it replaces. -/
structure Allocation.Sound (allocation : Allocation) : Prop where
  geometry : allocation.geometry.Admitted
  replaced : allocation.reservation.replacedBytes =
    backing allocation.reservation.evicted.toList
  reserved : allocation.reservation.reservedBytes =
    allocation.geometry.byteLen - allocation.reservation.replacedBytes
  evicted : ∀ evicted, allocation.reservation.replacement = some evicted →
    evicted.workspace.Admitted ∧ evicted.geometry.descriptor = evicted.workspace.descriptor
  answered : ∀ outcome, allocation.outcome = some outcome → allocation.Answered outcome

/-- The invariant of the pool. -/
structure Accounts (capacity : SpatialSamplingCapacity) (s : Pooling) : Prop where
  resident : s.pool.residentBytes = backing s.present + backing s.replaced
  reserved : s.pool.reservedBytes = (s.reservations.map (·.reservedBytes)).sum
  bounded : s.pool.residentBytes + s.pool.reservedBytes ≤ capacity.maxAreaWorkspaceBytes
  leases : s.pool.leased = s.leases.length
  replacements : s.pool.replacing = s.replaced.length
  reservations : s.pool.reserved = s.inFlight.length
  residents : s.pool.residentDescriptors.Perm (s.present.map (·.descriptor))
  allocating : s.pool.allocatingDescriptors.Perm (s.inFlight.map (·.geometry.descriptor))
  admitted : ∀ workspace ∈ s.present, workspace.Admitted
  sound : ∀ allocation ∈ s.inFlight, allocation.Sound

variable {cap : SpatialSamplingCapacity} {s : Pooling}
variable {geometry : WorkspaceGeometry} {ws : SummedAreaWorkspace} {al : Allocation}

/-! ## The helpers of the pool -/

@[simp] theorem backing_nil : backing [] = 0 := rfl

@[simp] theorem backing_cons (l : List SummedAreaWorkspace) :
    backing (ws :: l) = ws.backing + backing l := List.sum_cons

@[simp] theorem backing_append (l l' : List SummedAreaWorkspace) :
    backing (l ++ l') = backing l + backing l' := by
  rw [backing, List.map_append, List.sum_append]
  rfl

lemma backing_perm {l l' : List SummedAreaWorkspace} (h : l.Perm l') : backing l = backing l' :=
  (h.map _).sum_nat

lemma checked_of_le {n : Nat} (h : n ≤ usizeMax) : checked n = some n := if_pos h

lemma checkedSub_of_le {a b : Nat} (h : b ≤ a) : checkedSub a b = some (a - b) := if_pos h

lemma admitted_tryNew {w height : UInt32} (h : WorkspaceGeometry.tryNew w height = .ok geometry) :
    geometry.Admitted ∧ geometry.descriptor = ⟨w, height⟩ := by
  unfold WorkspaceGeometry.tryNew at h
  dsimp only at h
  split at h
  · cases h
  · split at h
    · rename_i entryCount byteLen pixels he hb hp
      cases h
      obtain ⟨hl, heq⟩ := ite_none_right_eq_some.mp he
      obtain ⟨hl', heq'⟩ := ite_none_right_eq_some.mp hb
      cases heq
      cases heq'
      exact ⟨⟨Nat.mul_pos (Nat.succ_pos _) (Nat.succ_pos _), rfl, hl'⟩, rfl⟩
    · cases h

namespace SummedAreaWorkspace

lemma Admitted.backingBytes (h : ws.Admitted) :
    ws.backingBytes = some ws.backing := checked_of_le h.addressable

/-- The geometry of an idle workspace has its descriptor. -/
lemma Admitted.geometry_eq (h : ws.Admitted) :
    ∃ old, ws.geometry = some old ∧ old.descriptor = ws.descriptor := by
  have hr := h.room
  have hb : ws.len * 24 ≤ usizeMax := by
    have := h.addressable
    unfold backing at this
    omega
  refine ⟨⟨ws.stride, ws.len, ws.width, ws.height, ws.len * 24⟩, ?_, rfl⟩
  rw [geometry, checked_of_le hb]
  rfl

lemma Admitted.backing_pos (h : ws.Admitted) : 0 < ws.backing := by
  have hs := h.stocked
  have hr := h.room
  unfold backing
  omega

end SummedAreaWorkspace

/-- A descriptor that is in a list is taken out of it. -/
lemma removeDescriptor_of_mem {dscs : List WorkspaceDescriptor}
    {dsc : WorkspaceDescriptor} (h : dsc ∈ dscs) : ∃ rest, removeDescriptor dscs dsc = some rest ∧
      dscs.Perm (dsc :: rest) := by
  obtain ⟨ix, hi⟩ : ∃ ix, (dscs.findIdx? fun candidate => candidate = dsc) = some ix :=
    isSome_iff_exists.mp (List.findIdx?_isSome.trans (List.any_eq_true.mpr ⟨dsc, h, by simp⟩))
  obtain ⟨hl, hf, -⟩ := List.findIdx?_eq_some_iff_getElem.mp hi
  obtain ⟨⟨taken, rest⟩, hr⟩ := isSome_iff_exists.mp (swapRemove_isSome hl)
  have ht : taken = dsc := by
    have hg := getElem?_of_swapRemove hr
    rw [List.getElem?_eq_getElem hl, some_inj] at hg
    exact hg.symm.trans (of_decide_eq_true hf)
  refine ⟨rest, ?_, ht ▸ perm_of_swapRemove hr⟩
  rw [removeDescriptor, hi, bind_eq_bind, bind_some, hr]
  rfl

lemma le_of_validateAggregateCapacity {resident reserved bs : Nat}
    (h : validateAggregateCapacity resident reserved geometry bs cap = .ok ()) :
    resident + reserved + bs ≤ cap.maxAreaWorkspaceBytes := by
  unfold validateAggregateCapacity at h
  split at h
  · cases h
  · rename_i required hr
    split at h
    · cases h
    · rename_i hl
      obtain ⟨sum, hs, ha⟩ := bind_eq_some_iff.mp hr
      obtain ⟨-, he⟩ := ite_none_right_eq_some.mp hs
      obtain ⟨-, he'⟩ := ite_none_right_eq_some.mp ha
      cases he
      cases he'
      exact Nat.not_lt.mp hl

/-- The allocator gives what was asked for or fails. -/
lemma Allocation.Sound.attempt (h : al.Sound) (ok : Bool) : (al.attempt ok).Sound := by
  obtain ⟨purpose, geometry, ⟨rp, replacedBytes, reservedBytes⟩, oc⟩ := al
  unfold Allocation.attempt
  rcases oc with _ | oc
  · refine ⟨h.geometry, h.replaced, h.reserved, h.evicted, ?_⟩
    rintro _ ⟨⟩
    have hs := h.geometry.stocked
    have he := h.geometry.exact
    have had := h.geometry.addressable
    have hr := h.replaced
    have hre := h.reserved
    dsimp only at hs he had hr hre
    rcases ok with _ | _ <;> rcases rp with _ | ⟨ws, old⟩
    · rfl
    · rfl
    · simp only [WorkspaceReservation.evicted, map_none, toList_none, backing_nil] at hr
      refine ⟨⟨hs, Nat.le_refl _, ?_⟩, rfl, ?_⟩ <;>
        simp only [SummedAreaWorkspace.backing] <;> omega
    · obtain ⟨ha, -⟩ := h.evicted ⟨ws, old⟩ rfl
      have hf := ha.addressable
      have hro := ha.room
      simp only [SummedAreaWorkspace.backing, WorkspaceReservation.evicted, map_some,
        toList_some, backing_cons, backing_nil] at hr hf hro
      refine ⟨⟨hs, ?_, ?_⟩, rfl, ?_⟩ <;>
        simp only [SummedAreaWorkspace.backing] <;> omega
  · exact h

/-! ## The operations keep the accounts -/

lemma accounts_new : Accounts cap ⟨{}, [], []⟩ where
  resident := rfl
  reserved := rfl
  bounded := Nat.zero_le _
  leases := rfl
  replacements := rfl
  reservations := rfl
  residents := .nil
  allocating := .nil
  admitted := nofun
  sound := nofun

variable {available ls : List SummedAreaWorkspace} {leased : Nat}

/-- Workspaces change hands between the pool and its leases. -/
lemma Accounts.of_perm (h : Accounts cap s) (hl : leased = ls.length)
    (hp : (available ++ ls).Perm s.present) :
    Accounts cap ⟨{ s.pool with available, leased }, ls, s.inFlight⟩ where
  resident := h.resident.trans (congrArg (· + _) (backing_perm hp).symm)
  reserved := h.reserved
  bounded := h.bounded
  leases := hl
  replacements := h.replacements
  reservations := h.reservations
  residents := h.residents.trans (hp.map _).symm
  allocating := h.allocating
  admitted := fun ws hm => h.admitted ws (hp.subset hm)
  sound := h.sound

lemma reservation_attempt (ok : Bool) : (al.attempt ok).reservation = al.reservation := by
  unfold Allocation.attempt
  split <;> rfl

lemma geometry_attempt (ok : Bool) : (al.attempt ok).geometry = al.geometry := by
  unfold Allocation.attempt
  split <;> rfl

lemma Accounts.allocate (h : Accounts cap s) (ix : Nat) (ok : Bool) :
    Accounts cap (s.allocate ix ok) := by
  have hr : (s.allocate ix ok).reservations = s.reservations :=
    Lib.map_modify (fun _ => reservation_attempt ok) ..
  have hre : (s.allocate ix ok).replaced = s.replaced := congrArg (List.filterMap _) hr
  have hg : (s.allocate ix ok).inFlight.map (·.geometry.descriptor) =
      s.inFlight.map (·.geometry.descriptor) :=
    Lib.map_modify (fun al => by rw [geometry_attempt]) ..
  exact {
    resident := hre ▸ h.resident
    reserved := hr ▸ h.reserved
    bounded := h.bounded
    leases := h.leases
    replacements := hre ▸ h.replacements
    reservations := h.reservations.trans (List.length_modify ..).symm
    residents := h.residents
    allocating := hg ▸ h.allocating
    admitted := h.admitted
    sound := fun al hm => by
      obtain ⟨i, hi⟩ := List.mem_iff_getElem?.mp hm
      rw [Pooling.allocate, List.getElem?_modify] at hi
      obtain ⟨before, hb, rfl⟩ := map_eq_some_iff.mp hi
      have hs := h.sound before (List.mem_of_getElem? hb)
      split
      · exact hs.attempt ok
      · exact hs }

lemma replaced_append (ls : List SummedAreaWorkspace) (pool : AreaWorkspacePoolState) :
    (⟨pool, ls, s.inFlight ++ [al]⟩ : Pooling).replaced = s.replaced ++
        al.reservation.evicted.toList := by
  simp only [replaced, reservations, List.map_append, List.filterMap_append, List.map_cons, List.map_nil]
  cases h : al.reservation.evicted <;> simp [h]

variable {residentDescriptors : List WorkspaceDescriptor}

/-- An allocation goes in flight with the workspace it takes out of the pool. -/
lemma Accounts.start (h : Accounts cap s) (hs : al.Sound)
    (hp : s.present.Perm (al.reservation.evicted.toList ++ (available ++ s.leases)))
    (hr : residentDescriptors.Perm ((available ++ s.leases).map (·.descriptor)))
    (hb : s.pool.residentBytes + s.pool.reservedBytes + al.reservation.reservedBytes
      ≤ cap.maxAreaWorkspaceBytes) :
    Accounts cap
      ⟨{ available, residentDescriptors
         allocatingDescriptors := s.pool.allocatingDescriptors ++ [al.geometry.descriptor]
         residentBytes := s.pool.residentBytes
         reservedBytes := s.pool.reservedBytes + al.reservation.reservedBytes
         leased := s.pool.leased
         replacing := s.pool.replacing + al.reservation.evicted.toList.length
         reserved := s.pool.reserved + 1 }, s.leases, s.inFlight ++ [al]⟩ where
  resident := by
    rw [replaced_append, backing_append, h.resident, backing_perm hp, backing_append]
    dsimp only [present]
    omega
  reserved := by
    simp [Pooling.reservations, h.reserved]
  bounded := by
    dsimp only
    omega
  leases := h.leases
  replacements := by
    rw [replaced_append, List.length_append, ← h.replacements]
  reservations := by
    rw [List.length_append, ← h.reservations]
    rfl
  residents := hr
  allocating := by
    rw [List.map_append]
    exact h.allocating.append_right _
  admitted := fun ws hm =>
    h.admitted ws (hp.mem_iff.mpr (List.mem_append_right _ hm))
  sound := fun o hm => by
    rcases List.mem_append.mp hm with hm | hm
    · exact h.sound o hm
    · exact List.mem_singleton.mp hm ▸ hs

/-- A reservation is refused, or what it takes out of the pool is in flight. -/
lemma Accounts.reserveAllocation (h : Accounts cap s) (hg : geometry.Admitted)
    (grows : Bool) : ∃ result, reserveAllocation s.pool geometry cap grows = some result ∧
      ∀ pool resv, result = .ok (pool, resv) → ∀ purpose, Accounts cap
          ⟨pool, s.leases, s.inFlight ++ [⟨purpose, geometry, resv, none⟩]⟩ := by
  unfold Spatial.reserveAllocation
  rcases List.eq_nil_or_concat s.pool.available with hn | ⟨idle, ws, hl⟩
  · -- nothing is idle
    rw [hn, List.getLast?_nil]
    dsimp only [bind_eq_bind, bind_some]
    cases hv : validateAggregateCapacity s.pool.residentBytes s.pool.reservedBytes geometry
        (geometry.byteLen - 0) cap with
    | error e => exact ⟨_, rfl, nofun⟩
    | ok =>
      cases grows with
      | false => exact ⟨_, rfl, nofun⟩
      | true =>
        refine ⟨_, rfl, ?_⟩
        rintro pool resv ⟨⟩ purpose
        have hs : Allocation.Sound ⟨purpose, geometry, ⟨none, 0, geometry.byteLen - 0⟩, none⟩ :=
          ⟨hg, rfl, rfl, nofun, nofun⟩
        exact h.start hs (.refl _) h.residents (le_of_validateAggregateCapacity hv)
  · -- the last idle workspace is replaced
    rw [List.concat_eq_append] at hl
    have hp : s.present.Perm ([ws] ++ (idle ++ s.leases)) := by
      rw [present, hl, List.append_assoc]
      exact List.perm_middle
    have ha := h.admitted ws (hp.mem_iff.mpr (List.mem_append_left _ (by simp)))
    obtain ⟨old, hold, hd⟩ := ha.geometry_eq
    have hr := h.residents.trans (hp.map (·.descriptor))
    obtain ⟨rest, hre, hpe⟩ := removeDescriptor_of_mem
      (hr.mem_iff.mpr (List.mem_map_of_mem (by simp : ws ∈ [ws] ++ _)))
    rw [hl, List.getLast?_concat]
    dsimp only [bind_eq_bind]
    rw [ha.backingBytes, bind_some]
    cases hv : validateAggregateCapacity s.pool.residentBytes s.pool.reservedBytes geometry
        (geometry.byteLen - ws.backing) cap with
    | error e => exact ⟨_, rfl, nofun⟩
    | ok =>
      cases grows with
      | false => exact ⟨_, rfl, nofun⟩
      | true =>
        have he : evict s.pool ws = some ({ s.pool with
            available := idle, residentDescriptors := rest, replacing := s.pool.replacing + 1 },
            ⟨ws, old⟩) := by
          rw [evict, hold, bind_eq_bind, bind_some, hd, hre, hl, List.dropLast_concat]
          rfl
        rw [if_pos rfl, he]
        refine ⟨_, rfl, ?_⟩
        rintro pool resv ⟨⟩ purpose
        have hs : Allocation.Sound ⟨purpose, geometry, ⟨some ⟨ws, old⟩, ws.backing,
            geometry.byteLen - ws.backing⟩, none⟩ :=
          ⟨hg, rfl, rfl, by rintro _ ⟨⟩; exact ⟨ha, hd⟩, nofun⟩
        exact h.start hs hp (hpe.symm.trans hr).cons_inv (le_of_validateAggregateCapacity hv)

variable {ix : Nat}

lemma perm_eraseIdx {l : List α} {a : α} (h : l[ix]? = some a) : l.Perm (a :: l.eraseIdx ix) := by
  obtain ⟨hl, rfl⟩ := getElem?_eq_some_iff.mp h
  exact (List.getElem_cons_eraseIdx_perm hl).symm

lemma perm_replaced (hg : s.inFlight[ix]? = some al)
    (pool : AreaWorkspacePoolState) (ls : List SummedAreaWorkspace) :
    s.replaced.Perm (al.reservation.evicted.toList ++
      (⟨pool, ls, s.inFlight.eraseIdx ix⟩ : Pooling).replaced) := by
  have hp := ((perm_eraseIdx hg).map (·.reservation)).filterMap WorkspaceReservation.evicted
  rw [List.map_cons, List.filterMap_cons] at hp
  cases h : al.reservation.evicted with
  | none | some ws =>
    rw [h] at hp
    exact hp

lemma perm_reservations (hg : s.inFlight[ix]? = some al) :
    (s.reservations.map (·.reservedBytes)).sum = al.reservation.reservedBytes +
      (((s.inFlight.eraseIdx ix).map (·.reservation)).map (·.reservedBytes)).sum := by
  rw [reservations, (((perm_eraseIdx hg).map (·.reservation)).map _).sum_nat]
  rfl

/-- What the reservation took is given back. -/
lemma Accounts.finishReservation (h : Accounts cap s) (hg : s.inFlight[ix]? = some al) :
    ∃ allocatingDescriptors, finishReservation s.pool al.geometry.descriptor
        al.reservation.reservedBytes = some { s.pool with
          allocatingDescriptors
          reserved := s.pool.reserved - 1
          reservedBytes := s.pool.reservedBytes - al.reservation.reservedBytes } ∧
      allocatingDescriptors.Perm ((s.inFlight.eraseIdx ix).map (·.geometry.descriptor)) := by
  have ha := h.allocating.trans ((perm_eraseIdx hg).map (·.geometry.descriptor))
  obtain ⟨rest, hr, hp⟩ :=
    removeDescriptor_of_mem (ha.mem_iff.mpr (List.mem_map_of_mem List.mem_cons_self))
  have hc : 1 ≤ s.pool.reserved := by
    rw [h.reservations, (perm_eraseIdx hg).length_eq, List.length_cons]
    omega
  have hb : al.reservation.reservedBytes ≤ s.pool.reservedBytes := by
    rw [h.reserved, perm_reservations hg]
    omega
  refine ⟨rest, ?_, (hp.symm.trans ha).cons_inv⟩
  rw [Spatial.finishReservation, hr, checkedSub_of_le hc, checkedSub_of_le hb]
  rfl

/-- An allocation is over: a workspace comes back for the one that was replaced. -/
lemma Accounts.settle (h : Accounts cap s) (hg : s.inFlight[ix]? = some al)
    (given : Option SummedAreaWorkspace) {alloc : List WorkspaceDescriptor}
    {residentBytes replacing : Nat} (ha : ∀ ws ∈ given, ws.Admitted)
    (hr : backing given.toList ≤ backing al.reservation.evicted.toList + al.reservation.reservedBytes)
    (hp : (available ++ ls).Perm (given.toList ++ s.present))
    (hres : residentDescriptors.Perm (given.toList.map (·.descriptor) ++ s.pool.residentDescriptors))
    (hal : alloc.Perm ((s.inFlight.eraseIdx ix).map (·.geometry.descriptor)))
    (hre : residentBytes + backing al.reservation.evicted.toList =
      s.pool.residentBytes + backing given.toList)
    (hrp : replacing + al.reservation.evicted.toList.length = s.pool.replacing)
        (hls : leased = ls.length) :
    Accounts cap
      ⟨{ available, residentDescriptors, allocatingDescriptors := alloc, residentBytes
         reservedBytes := s.pool.reservedBytes - al.reservation.reservedBytes
         leased, replacing, reserved := s.pool.reserved - 1 }, ls, s.inFlight.eraseIdx ix⟩ := by
  have hbn := h.bounded
  have hrs := h.reserved.trans (perm_reservations hg)
  refine ⟨?_, ?_, ?_, hls, ?_, ?_, ?_, hal, ?_, ?_⟩
  · have hba := backing_perm (perm_replaced hg ⟨available, residentDescriptors,
      alloc, residentBytes, s.pool.reservedBytes - al.reservation.reservedBytes,
      leased, replacing, s.pool.reserved - 1⟩ ls)
    have hh := backing_perm hp
    have hb := h.resident
    rw [backing_append] at hba
    rw [backing_append given.toList] at hh
    dsimp only [Pooling.present] at hh hb ⊢
    omega
  · simp only [Pooling.reservations]
    omega
  · dsimp only
    omega
  · have hl := (perm_replaced hg ⟨available, residentDescriptors, alloc,
      residentBytes, s.pool.reservedBytes - al.reservation.reservedBytes, leased, replacing,
      s.pool.reserved - 1⟩ ls).length_eq
    have hb := h.replacements
    rw [List.length_append] at hl
    dsimp only
    omega
  · have hl := (perm_eraseIdx hg).length_eq
    have hb := h.reservations
    rw [List.length_cons] at hl
    dsimp only
    omega
  · have hma := (hp.map (·.descriptor)).trans (.of_eq List.map_append)
    exact (hres.trans (h.residents.append_left _)).trans hma.symm
  · intro ws hm
    rcases List.mem_append.mp (hp.mem_iff.mp hm) with hm | hm
    · exact ha ws (mem_toList.mp hm)
    · exact h.admitted ws hm
  · exact fun o hm => h.sound o (List.mem_of_mem_eraseIdx hm)

/-- The evicted workspace of an allocation is back where it was, and its reservation is gone. -/
def Restored (s : Pooling) (index : Nat) (allocation : Allocation) (t : Pooling) : Prop :=
  t.pool.available = s.pool.available ++ allocation.reservation.evicted.toList ∧
  t.pool.residentDescriptors = s.pool.residentDescriptors ++
    allocation.reservation.evicted.toList.map (·.descriptor) ∧
  t.pool.residentBytes = s.pool.residentBytes ∧
  t.pool.reservedBytes + allocation.reservation.reservedBytes = s.pool.reservedBytes ∧
  t.leases = s.leases ∧ t.inFlight = s.inFlight.eraseIdx index

/-- The commit of an allocation that failed puts the evicted workspace back. -/
lemma Accounts.finish_error (h : Accounts cap s)
    (hg : s.inFlight[ix]? = some al) {fl : WorkspaceAllocationFailure}
    (hou : al.outcome = some (.error fl)) : ∃ t, s.finish ix al (.error fl) = some t ∧ Accounts cap t ∧
      Restored s ix al t := by
  have hs := h.sound al (List.mem_of_getElem? hg)
  have hf : fl.replacement = al.reservation.replacement := hs.answered _ hou
  obtain ⟨allocating, hfi, ha⟩ := h.finishReservation hg
  rw [finish, hfi]
  dsimp only [bind_eq_bind, bind_some]
  rw [hf]
  have hre : al.reservation.reservedBytes ≤ s.pool.reservedBytes := by
    rw [h.reserved, perm_reservations hg]
    exact Nat.le_add_right _ _
  have hl := (perm_replaced hg s.pool s.leases).length_eq
  rw [List.length_append, ← h.replacements] at hl
  have hm : ((s.pool.available ++ al.reservation.evicted.toList) ++ s.leases).Perm
      (al.reservation.evicted.toList ++ s.present) := by
    rw [present, ← List.append_assoc]
    exact List.perm_append_comm.append_right _
  cases hr : al.reservation.replacement with
  | none =>
    have he : al.reservation.evicted = none := congrArg (Option.map _) hr
    refine ⟨_, rfl, ?_, by simp [he], by simp [he], rfl, Nat.sub_add_cancel hre,
      rfl, rfl⟩
    refine h.settle hg none nofun ?_ ?_ ?_ ha ?_ ?_ h.leases
    all_goals simp [he, present]
  | some evicted =>
    have he : al.reservation.evicted = some evicted.workspace := congrArg (Option.map _) hr
    obtain ⟨had, hd⟩ := hs.evicted _ hr
    rw [he] at hl hm
    have hp : 1 ≤ s.pool.replacing := by
      rw [hl, toList_some, List.length_singleton]
      exact Nat.le_add_right _ _
    rw [restoreReplacement, checkedSub_of_le hp]
    refine ⟨_, rfl, ?_, by simp [he], by simp [he, hd], rfl, Nat.sub_add_cancel hre, rfl, rfl⟩
    refine h.settle hg (some evicted.workspace) ?_ ?_ hm ?_ ha ?_ ?_ h.leases
    · rintro _ ⟨⟩
      exact had
    · simp [he]
    · rw [hd]
      exact List.perm_append_comm
    · rw [he]
    · rw [he]
      exact Nat.sub_add_cancel hp

/-- A new backing is counted, and what it replaced is not any more. -/
lemma Allocation.Sound.commitWorkspaceBacking (h : al.Sound) (ha : ws.Admitted)
    {pool : AreaWorkspacePoolState} (hc : al.reservation.evicted.toList.length ≤ pool.replacing)
    (hh : backing al.reservation.evicted.toList ≤ pool.residentBytes)
    (hf : pool.residentBytes - backing al.reservation.evicted.toList + ws.backing ≤ usizeMax) :
    commitWorkspaceBacking pool ws al.reservation.replacedBytes = some { pool with
      replacing := pool.replacing - al.reservation.evicted.toList.length
      residentBytes := pool.residentBytes - backing al.reservation.evicted.toList +
        ws.backing } := by
  unfold Spatial.commitWorkspaceBacking
  dsimp only [bind_eq_bind]
  cases hr : al.reservation.replacement with
  | none =>
    have he : al.reservation.evicted = none := congrArg (Option.map _) hr
    rw [he, toList_none, backing_nil, Nat.sub_zero] at hf ⊢
    rw [h.replaced, he, toList_none, backing_nil, if_neg (Nat.lt_irrefl 0), bind_some, ha.backingBytes,
      bind_some, checked_of_le hf]
    rfl
  | some evicted =>
    have he : al.reservation.evicted = some evicted.workspace := congrArg (Option.map _) hr
    have hp : 0 < backing [evicted.workspace] := by
      exact Nat.add_pos_left (h.evicted _ hr).1.backing_pos _
    rw [he, toList_some] at hc hh hf ⊢
    rw [List.length_singleton] at hc
    rw [h.replaced, he, toList_some, if_pos hp, checkedSub_of_le hc,
      bind_some, checkedSub_of_le hh, bind_some, bind_some,
      ha.backingBytes, bind_some, checked_of_le hf]
    rfl

section

variable (h : Accounts cap s)
include h

namespace Accounts

/-- The commit of an allocation gives the workspace to the caller or to the pool. -/
lemma finish_ok (hg : s.inFlight[ix]? = some al) (hou : al.outcome = some (.ok ws)) :
    ∃ t, s.finish ix al (.ok ws) = some t ∧ Accounts cap t := by
  have hs := h.sound al (List.mem_of_getElem? hg)
  have han : al.Answered (.ok ws) := hs.answered _ hou
  obtain ⟨ha, hd, hb⟩ := han
  obtain ⟨allocating, hf, hal⟩ := h.finishReservation hg
  have hl := (perm_replaced hg s.pool s.leases).length_eq
  rw [List.length_append, ← h.replacements] at hl
  have hh := backing_perm (perm_replaced hg s.pool s.leases)
  rw [backing_append] at hh
  have hrs := h.resident
  have hres := h.reserved.trans (perm_reservations hg)
  have hbn := h.bounded
  have hm := cap.fits
  have hrp := hs.replaced
  have hc : al.reservation.evicted.toList.length ≤ s.pool.replacing := by omega
  rw [finish, hf]
  dsimp only [bind_eq_bind, bind_some]
  rw [hs.commitWorkspaceBacking ha (by exact hc) (by dsimp only; omega) (by dsimp only; omega)]
  have hr : backing (some ws).toList ≤ backing al.reservation.evicted.toList +
      al.reservation.reservedBytes := by
    rw [toList_some, backing_cons, hb, hs.replaced]
    exact Nat.le_refl _
  have hco : s.pool.residentBytes - backing al.reservation.evicted.toList +
      ws.backing + backing al.reservation.evicted.toList =
      s.pool.residentBytes + backing (some ws).toList := by
    rw [toList_some, backing_cons, backing_nil]
    omega
  have hre : (s.pool.residentDescriptors ++ [al.geometry.descriptor]).Perm
      ((some ws).toList.map (·.descriptor) ++ s.pool.residentDescriptors) := by
    rw [← hd]
    exact List.perm_append_comm
  cases al.purpose with
  | checkout =>
    refine ⟨_, rfl, h.settle hg (some ws) ?_ hr ?_ hre hal hco (Nat.sub_add_cancel hc) ?_⟩
    · rintro _ ⟨⟩
      exact ha
    · rw [present, ← List.append_assoc]
      exact List.perm_append_comm
    · rw [List.length_append, ← h.leases]
      rfl
  | prepare =>
    refine ⟨_, rfl, h.settle hg (some ws) ?_ hr ?_ hre hal hco (Nat.sub_add_cancel hc) h.leases⟩
    · rintro _ ⟨⟩
      exact ha
    · exact List.perm_append_comm.append_right _

lemma reserve (hg : geometry.Admitted) (purpose : Purpose) (grows : Bool) :
    ∃ t, s.reserve cap purpose geometry grows = some t ∧ Accounts cap t := by
  unfold Pooling.reserve
  split
  · exact ⟨s, rfl, h⟩
  · obtain ⟨res, hr, hok⟩ := h.reserveAllocation hg grows
    rw [hr]
    rcases res with e | ⟨pool, resv⟩
    · exact ⟨s, rfl, h⟩
    · exact ⟨_, rfl, hok pool resv rfl purpose⟩

lemma tryCheckout (w height : UInt32) (grows : Bool) :
    ∃ t, s.tryCheckout cap w height grows = some t ∧ Accounts cap t := by
  unfold Pooling.tryCheckout
  split
  · exact ⟨s, rfl, h⟩
  · rename_i geometry hg
    split
    · rename_i ix hi
      obtain ⟨hl, -⟩ := List.findIdx?_eq_some_iff_getElem.mp hi
      obtain ⟨⟨ws, available⟩, hr⟩ := isSome_iff_exists.mp (swapRemove_isSome hl)
      rw [hr]
      refine ⟨_, rfl, h.of_perm ?_ ?_⟩
      · rw [List.length_append, ← h.leases]
        rfl
      · calc available ++ (s.leases ++ [ws])
            _ = (available ++ s.leases) ++ [ws] := (List.append_assoc ..).symm
            _ ~ ws :: (available ++ s.leases) := List.perm_append_singleton ..
            _ ~ s.present := ((perm_of_swapRemove hr).append_right _).symm
    · exact h.reserve (admitted_tryNew hg).1 .checkout grows

lemma tryPrepare (w height : UInt32) (grows : Bool) :
    ∃ t, s.tryPrepare cap w height grows = some t ∧ Accounts cap t := by
  unfold Pooling.tryPrepare
  split
  · exact ⟨s, rfl, h⟩
  · rename_i geometry hg
    split
    · exact ⟨s, rfl, h⟩
    · exact h.reserve (admitted_tryNew hg).1 .prepare grows

lemma commit (ix : Nat) : ∃ t, s.commit ix = some t ∧ Accounts cap t := by
  unfold Pooling.commit
  split
  · exact ⟨s, rfl, h⟩
  · rename_i al hg
    split
    · exact ⟨s, rfl, h⟩
    · rename_i oc hou
      rcases oc with fl | ws
      · obtain ⟨t, ht, ha, -⟩ := h.finish_error hg hou
        exact ⟨t, ht, ha⟩
      · exact h.finish_ok hg hou

lemma checkin (ix : Nat) : ∃ t, s.checkin ix = some t ∧ Accounts cap t := by
  unfold Pooling.checkin
  split
  · exact ⟨s, rfl, h⟩
  · rename_i ws hg
    have hp := perm_eraseIdx hg
    have hl := hp.length_eq
    rw [List.length_cons, ← h.leases] at hl
    rw [checkedSub_of_le (by omega)]
    refine ⟨_, rfl, h.of_perm (by omega) ?_⟩
    calc (s.pool.available ++ [ws]) ++ s.leases.eraseIdx ix
        _ = s.pool.available ++ (ws :: s.leases.eraseIdx ix) := List.append_assoc ..
        _ ~ s.present := hp.symm.append_left _

/-- Every step is possible and keeps the accounts. -/
lemma perform (op : PoolOp) : ∃ t, s.perform cap op = some t ∧ Accounts cap t := by
  cases op with
  | checkout w height grows => exact h.tryCheckout w height grows
  | prepare w height grows => exact h.tryPrepare w height grows
  | allocate ix ok => exact ⟨_, rfl, h.allocate ix ok⟩
  | commit ix => exact h.commit ix
  | checkin ix => exact h.checkin ix

end Accounts

end

/-! ## Whole runs -/

lemma Accounts.of_reachable (h : (pooling cap).Reachable s) : Accounts cap s := by
  refine h.invariant ?_ ?_
  · rintro s rfl
    exact accounts_new
  · intro s op t hs hst
    obtain ⟨t', ht', ha⟩ := hs.perform op
    rw [some_inj.mp (hst.symm.trans ht')]
    exact ha

/-- **The counters are exact in every state that callers reach, in any order of their steps.** No step
panics, and an allocation that failed gives the evicted workspace back. -/
theorem accounts_of_reachable (h : (pooling capacity).Reachable s) :
    (s.pool.residentBytes = backing s.pool.available + backing s.leases + backing s.replaced ∧
      s.pool.reservedBytes = (s.reservations.map (·.reservedBytes)).sum ∧
      s.pool.residentBytes + s.pool.reservedBytes ≤ capacity.maxAreaWorkspaceBytes) ∧
    (s.pool.leased = s.leases.length ∧ s.pool.replacing = s.replaced.length ∧
      s.pool.reserved = s.reservations.length) ∧ (∀ op, (s.perform capacity op).isSome) ∧
    ∀ index allocation failure, s.inFlight[index]? = some allocation →
      allocation.outcome = some (.error failure) →
      ∃ t, s.perform capacity (.commit index) = some t ∧ Restored s index allocation t := by
  have ha := Accounts.of_reachable h
  refine ⟨⟨?_, ha.reserved, ha.bounded⟩, ⟨ha.leases, ha.replacements, ?_⟩, ?_, ?_⟩
  · rw [ha.resident, Pooling.present, backing_append]
  · rw [ha.reservations, Pooling.reservations, List.length_map]
  · intro op
    obtain ⟨t, ht, -⟩ := ha.perform op
    exact isSome_of_mem ht
  · intro index allocation failure hg hou
    obtain ⟨t, ht, -, hr⟩ := ha.finish_error hg hou
    refine ⟨t, ?_, hr⟩
    rw [Pooling.perform, Pooling.commit, hg]
    dsimp only
    rw [hou]
    exact ht

/-- The allocation of four pixels fails while the workspace of one pixel is out of the pool. -/
def evicting : List PoolOp :=
  [.prepare 1 1 true, .allocate 0 true, .commit 0, .checkout 2 2 true, .allocate 0 false]

/-- A buffer in use, and one that is replaced. -/
theorem accounts_of_reachable_evicting :
    ∃ s, evicting.foldlM (perform ⟨216, by decide⟩) ⟨{}, [], []⟩ = some s ∧
      s.pool.residentBytes = 96 ∧ s.pool.reservedBytes = 120 ∧
      s.pool.residentBytes = backing s.pool.available + backing s.leases + backing s.replaced ∧
      s.pool.replacing = s.replaced.length ∧
      ∃ allocation t, s.perform ⟨216, by decide⟩ (.commit 0) = some t ∧ Restored s 0 allocation t := by
  have hr : evicting.foldlM (perform ⟨216, by decide⟩) ⟨{}, [], []⟩ = some _ := rfl
  have h := accounts_of_reachable (.foldlM (fun _ _ _ => id) (.init rfl) hr)
  exact ⟨_, rfl, rfl, rfl, h.1.1, h.2.1.2.1, _, h.2.2.2 0 _ _ rfl rfl⟩

end Hypercolor.Spatial
