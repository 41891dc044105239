import Hypercolor.Preview.Streams

/-!
# The reassembler's books

What the five counters of the reassembler stand for, and how the steps every call is made of keep
them right: eviction, marking a tombstone, and the expiry sweep.

* A counter is an `Account`, and every stream state has its charge to each of them. The books
  balance when each counter is the total of the charges (`Ledger`).
* Between taking a partial and `mark_tombstone` one stream is charged nothing while the counters
  still hold its state bytes. A `Ledger` names that stream and what is owed for it.
* The saturating additions do not saturate because all charges but the reserved bytes are bounded by
  the memory the stream entries themselves take (`held_le_liveBytes`).
-/

set_option linter.unusedSectionVars false

namespace Hypercolor.Preview

open Lib AList Nat Table Reassembler Platform StreamState

variable [Platform]

/-! ## Accounts -/

inductive Account where
  | activeStreams
  | tombstones
  | reservedBytes
  | stateBytes
  | tombstoneBytes

/-- What a stream in this state is charged. A stream with neither a partial nor a generation is
charged nothing. -/
def charge : Account → PreviewStreamId → StreamState → Nat
  | .activeStreams, _, state => if state.partialPub.isSome then 1 else 0
  | .tombstones, _, state => if state.isTombstone then 1 else 0
  | .reservedBytes, _, state => state.partialPub.elim 0 (·.totalEncodedBytes)
  | .stateBytes, stream, state => if state.partialPub.isSome then stateSize stream else 0
  | .tombstoneBytes, stream, state => if state.isTombstone then stateSize stream else 0

namespace Reassembler

def counter (r : Reassembler) : Account → Nat
  | .activeStreams => r.activeStreams
  | .tombstones => r.tombstones
  | .reservedBytes => r.reservedBytes
  | .stateBytes => r.stateBytes
  | .tombstoneBytes => r.tombstoneBytes

def held (r : Reassembler) (a : Account) : Nat := r.streams.total (charge a)

end Reassembler

lemma stateSize_pos (str : PreviewStreamId) : 0 < stateSize str := by
  have hp := streamStateBase_pos
  have hl := streamStateBase_le
  unfold stateSize previewStreamStateBytes checked
  split
  · rw [Option.getD_some]
    omega
  · rw [Option.getD_none]
    omega

variable {a : Account}

/-- Every charge but the reserved bytes is covered by the entry's own memory. -/
lemma charge_le_stateSize (ha : a ≠ .reservedBytes) (str : PreviewStreamId)
    (state : StreamState) : charge a str state ≤ stateSize str := by
  have hp := stateSize_pos str
  cases a with
  | reservedBytes => exact absurd rfl ha
  | activeStreams | tombstones | stateBytes | tombstoneBytes => simp only [charge]; split <;> omega

variable {state : StreamState}

lemma charge_of_isTombstone (h : state.isTombstone) (a : Account) (str : PreviewStreamId) :
    charge a str state =
      match a with
      | .tombstones => 1
      | .tombstoneBytes => stateSize str
      | _ => 0 := by
  have hn : state.partialPub = none := by
    simpa using (of_decide_eq_true h).1
  cases a <;> simp [charge, h, hn]

/-- The charges of an active stream. -/
lemma charge_of_partialOf {pub : PartialPublication} (h : state.partialPub = some pub)
    (a : Account) (str : PreviewStreamId) :
    charge a str state =
      match a with
      | .activeStreams => 1
      | .reservedBytes => pub.totalEncodedBytes
      | .stateBytes => stateSize str
      | _ => 0 := by
  cases a <;> simp [charge, isTombstone, h]

/-- A stream on its way from one to the other is charged nothing. -/
lemma charge_of_moving (hn : state.partialPub = none) (hg : state.tombstoneGeneration = 0)
    (a : Account) (str : PreviewStreamId) : charge a str state = 0 := by
  cases a <;> simp [charge, isTombstone, hn, hg]

/-! ## The ledger -/

/-- A partial still waits for chunks, and has no more bytes than its publication. -/
def PartialPublication.Growing (pub : PartialPublication) : Prop :=
  pub.nextChunkIndex < pub.chunkCount ∧ pub.bytes.length ≤ pub.totalEncodedBytes

/-- A stream is active or a tombstone. -/
def StreamState.Settled (state : StreamState) : Prop :=
  match state.partialPub with
  | some pub => state.tombstoneGeneration = 0 ∧ pub.Growing
  | none => state.tombstoneGeneration ≠ 0

/-- The books, with one stream possibly on its way and `owed` in the counters for it. -/
structure Ledger (moving : Option PreviewStreamId) (owed : Account → Nat) (r : Reassembler) :
    Prop where
  balanced : ∀ a, r.counter a = r.held a + owed a
  live_le : r.liveBytes ≤ usizeMax
  settled : ∀ stream state, r.streams.lookup stream = some state → moving ≠ some stream →
    state.Settled
  generation_pos : 0 < r.nextTombstoneGeneration
  reserved_le : r.reservedBytes ≤ r.limits.maxConnectionBytes
  reserved_le_max : r.reservedBytes ≤ usizeMax
  state_le : r.stateBytes ≤ r.limits.maxReassemblyStateBytes

/-- The books between two calls. -/
structure Books (r : Reassembler) : Prop extends Ledger none (fun _ => 0) r where
  tombstone_le : r.tombstoneBytes ≤ r.limits.maxTombstoneBytes

theorem held_le_liveBytes (ha : a ≠ .reservedBytes) (r : Reassembler) : r.held a ≤ r.liveBytes :=
  total_le_total fun str state _ => charge_le_stateSize ha str state

variable {r r' : Reassembler} {str : PreviewStreamId}

/-- Replace one entry: every account changes by the difference of the charges. -/
lemma held_insert (h : r.streams.lookup str = some state) (state' : StreamState) (a : Account) :
    total (charge a) (r.streams.insert str state') + charge a str state =
      r.held a + charge a str state' := by
  have hold := total_of_lookup (charge a) h
  have hn := total_insert (charge a) r.streams str state'
  unfold held
  omega

lemma held_insert_new (h : r.streams.lookup str = none) (state' : StreamState) (a : Account) :
    total (charge a) (r.streams.insert str state') = r.held a + charge a str state' := by
  have hold := total_of_lookup_eq_none (charge a) h
  have hn := total_insert (charge a) r.streams str state'
  unfold held
  omega

lemma held_erase (h : r.streams.lookup str = some state) (a : Account) :
    total (charge a) (r.streams.erase str) + charge a str state = r.held a := by
  have hold := total_of_lookup (charge a) h
  unfold held
  omega

lemma liveBytes_insert (h : r.streams.lookup str = some state) (state' : StreamState) :
    total (fun str _ => stateSize str) (r.streams.insert str state') = r.liveBytes := by
  have hold := total_of_lookup (fun str _ => stateSize str) h
  have hn := total_insert (fun str _ => stateSize str) r.streams str state'
  unfold liveBytes
  omega

lemma liveBytes_erase_le (r : Reassembler) (str : PreviewStreamId) :
    total (fun str _ => stateSize str) (r.streams.erase str) ≤ r.liveBytes := by
  unfold liveBytes
  cases h : r.streams.lookup str with
  | none => rw [total_of_lookup_eq_none _ h]
  | some state => rw [total_of_lookup _ h]; omega

/-! ## Eviction -/

namespace Reassembler

variable {moving : Option PreviewStreamId} {owed : Account → Nat}

lemma Ledger.evictOldest (hr : Ledger moving owed r) (h : r.evictOldest = some r') :
    Ledger moving owed r' := by
  have he := evicted_evictOldest h
  obtain ⟨victim, gone, hv, ht, rfl⟩ := evictOldest_eq_some h
  refine ⟨fun a => ?_, (liveBytes_erase_le r victim).trans hr.live_le, ?_, hr.generation_pos,
    hr.reserved_le, hr.reserved_le_max, hr.state_le⟩
  · have hb := hr.balanced a
    have hh := held_erase hv a
    rw [charge_of_isTombstone ht] at hh
    cases a <;> simp only [counter, held] at * <;> omega
  · intro str state hs hm
    exact hr.settled str state (he.lookup_of_lookup _ _ hs) hm

lemma evictWhile_ledger (exceeds : Reassembler → Bool) (fuel : Nat)
    (hr : Ledger moving owed r) : Ledger moving owed (evictWhile exceeds fuel r) := by
  induction fuel generalizing r with
  | zero => exact hr
  | succ fuel ih =>
    unfold evictWhile
    split
    · cases h : r.evictOldest with
      | none => exact hr
      | some r' => exact ih (Ledger.evictOldest hr h)
    · exact hr

/-- Without tombstones there are no tombstone bytes. -/
lemma held_tombstoneBytes_of_evictOldest (h : r.evictOldest = none) : r.held .tombstoneBytes = 0 := by
  refine List.sum_eq_zero fun x hx => ?_
  obtain ⟨e, he, rfl⟩ := List.mem_map.mp hx
  have := evictOldest_eq_none h (mem_lookup_iff.mpr he)
  simp [charge, this]

/-- `prune_tombstones` closes the books of a call, when nothing is owed for tombstones. -/
lemma pruneTombstones_books (hr : Ledger none (fun _ => 0) r) : Books r.pruneTombstones := by
  have hl := evictWhile_ledger
    (fun r => r.limits.maxTombstoneBytes < r.tombstoneBytes) r.streams.entries.length hr
  refine ⟨hl, ?_⟩
  rcases evictWhile_ends (fun r => r.limits.maxTombstoneBytes < r.tombstoneBytes) _
    (le_refl r.streams.entries.length) with h | h
  · exact not_lt.mp fun hlt => h (decide_eq_true hlt)
  · have hb := hl.balanced .tombstoneBytes
    rw [held_tombstoneBytes_of_evictOldest h] at hb
    exact le_of_eq_of_le hb (zero_le _)

end Reassembler

/-! ## One entry -/

namespace Ledger

variable {moving : Option PreviewStreamId} {owed : Account → Nat}

/-- Another charge for an entry that is there already still fits a `usize`. -/
lemma room (hr : Ledger moving owed r) (hs : r.streams.lookup str = some state)
    (ha : a ≠ .reservedBytes) (state' : StreamState) :
    r.held a + charge a str state' ≤ usizeMax + charge a str state := by
  have hh := held_insert hs state' a
  have hle := @Table.total_le_total _ _ _ _ _ (r.streams.insert str state')
    fun o state _ => charge_le_stateSize ha o state
  have hl := liveBytes_insert hs state'
  have := hr.live_le
  omega

/-- Store a settled state for the moving stream, with counters that follow the charges. -/
lemma settle (hr : Ledger (some str) owed r) (hs : r.streams.lookup str = some state)
    (state' : StreamState) (hst : state'.Settled) (hsr : r'.streams = r.streams.insert str state')
    (hb : ∀ a, r'.counter a + charge a str state + owed a =
      r.counter a + charge a str state') (hg : 0 < r'.nextTombstoneGeneration)
    (hre : r'.reservedBytes ≤ r'.limits.maxConnectionBytes) (hm : r'.reservedBytes ≤ usizeMax)
    (hstt : r'.stateBytes ≤ r'.limits.maxReassemblyStateBytes) : Ledger none (fun _ => 0) r' := by
  refine ⟨fun a => ?_, ?_, fun k st hk _ => ?_, hg, hre, hm, hstt⟩
  · have h := hb a
    have hold := hr.balanced a
    have hh := held_insert hs state' a
    have hn : r'.held a = total (charge a) (r.streams.insert str state') := by
      rw [held, hsr]
    omega
  · have hl := liveBytes_insert hs state'
    have hn : r'.liveBytes = r.liveBytes := by rw [liveBytes, hsr, hl]
    rw [hn]
    exact hr.live_le
  · rw [hsr] at hk
    by_cases h : k = str
    · subst h
      rw [lookup_insert] at hk
      cases hk
      exact hst
    · rw [lookup_insert_ne h] at hk
      exact hr.settled k st hk fun he => h (Option.some.inj he).symm

/-- Drop the moving stream. -/
lemma drop (hr : Ledger (some str) owed r) (hs : r.streams.lookup str = some state)
    (hsr : r'.streams = r.streams.erase str) (hl : r'.limits = r.limits)
    (hb : ∀ a, r'.counter a + charge a str state + owed a = r.counter a)
    (hg : r'.nextTombstoneGeneration = r.nextTombstoneGeneration) : Ledger none (fun _ => 0) r' := by
  have hre : r'.reservedBytes ≤ r.reservedBytes := by
    have := hb .reservedBytes
    simp only [counter] at this
    omega
  have hst : r'.stateBytes ≤ r.stateBytes := by
    have := hb .stateBytes
    simp only [counter] at this
    omega
  refine ⟨fun a => ?_, ?_, fun k st hk _ => ?_, hg ▸ hr.generation_pos,
    hl ▸ hre.trans hr.reserved_le, hre.trans hr.reserved_le_max,
    hl ▸ hst.trans hr.state_le⟩
  · have h := hb a
    have hold := hr.balanced a
    have hh := held_erase hs a
    have hn : r'.held a = total (charge a) (r.streams.erase str) := by
      rw [held, hsr]
    omega
  · rw [liveBytes, hsr]
    exact (liveBytes_erase_le r str).trans hr.live_le
  · rw [hsr] at hk
    by_cases h : k = str
    · subst h
      simp [lookup_erase] at hk
    · rw [lookup_erase_ne h] at hk
      exact hr.settled k st hk fun he => h (Option.some.inj he).symm

end Ledger

/-- Any stream may be the moving one. -/
lemma Books.moving (hr : Books r) (str : PreviewStreamId) : Ledger (some str) (fun _ => 0) r :=
  ⟨hr.balanced, hr.live_le, fun k st hk _ => hr.settled k st hk nofun, hr.generation_pos,
    hr.reserved_le, hr.reserved_le_max, hr.state_le⟩

/-- The clock is not part of the books. -/
lemma Books.setClock (hr : Books r) (nowMs : Nat) : Books { r with logicalNowMs := nowMs } :=
  ⟨⟨hr.balanced, hr.live_le, hr.settled, hr.generation_pos, hr.reserved_le, hr.reserved_le_max,
    hr.state_le⟩, hr.tombstone_le⟩

/-- Nor is the order of the entries. -/
lemma Books.reorder (hr : Books r) {streams : Table PreviewStreamId StreamState}
    (h : streams.entries.Perm r.streams.entries) : Books { r with streams := streams } := by
  refine ⟨⟨fun a => ?_, ?_, fun k st hk _ => ?_, hr.generation_pos, hr.reserved_le,
    hr.reserved_le_max, hr.state_le⟩, hr.tombstone_le⟩
  · have hb := hr.balanced a
    rw [held, ← total_perm (charge a) h] at hb
    cases a <;> exact hb
  · have hl := hr.live_le
    rwa [liveBytes, ← total_perm _ h] at hl
  · rw [show streams.lookup k = r.streams.lookup k from perm_lookup h] at hk
    exact hr.settled k st hk nofun

/-- The charge of an entry is part of its counter. -/
lemma Books.charge_le (hr : Books r) (hs : r.streams.lookup str = some state) (a : Account) :
    charge a str state ≤ r.counter a := by
  have hh := held_erase hs a
  have hb := hr.balanced a
  omega

/-! ## Marking a tombstone -/

/-- What the counters still hold for a stream whose partial was taken. -/
def owedFor (stream : PreviewStreamId) (wasActive : Bool) : Account → Nat
  | .stateBytes => if wasActive then stateSize stream else 0
  | _ => 0

variable {b : Nat}

lemma satAdd_of_le {a : Nat} (h : a + b ≤ usizeMax) : satAdd a b = a + b := by
  unfold satAdd
  omega

lemma satAddU64_of_le {a : Nat} (h : a + b ≤ u64Max) : satAddU64 a b = a + b := by
  unfold satAddU64
  omega

lemma satAddU64_pos {a : Nat} (h : 0 < a) : 0 < satAddU64 a 1 := by
  unfold satAddU64 u64Max
  omega

namespace Reassembler

variable {wasActive : Bool}

lemma entomb_spec (hr : Ledger (some str) (owedFor str wasActive) r)
    (hs : r.streams.lookup str = some state) (hn : state.partialPub = none)
    (hg : state.tombstoneGeneration = 0) : Ledger none (fun _ => 0) (r.entomb str state wasActive) := by
  have hp := hr.generation_pos
  have hm := charge_of_moving hn hg
  have hd : ({ state with tombstoneGeneration := r.nextTombstoneGeneration } :
      StreamState).isTombstone := by
    exact decide_eq_true ⟨by simp [hn], hp.ne'⟩
  -- The entry is there already, so the two additions do not saturate.
  have hon := hr.room hs (a := .tombstones) nofun
    { state with tombstoneGeneration := r.nextTombstoneGeneration }
  have hb := hr.room hs (a := .tombstoneBytes) nofun
    { state with tombstoneGeneration := r.nextTombstoneGeneration }
  simp only [hm, charge_of_isTombstone hd] at hon hb
  have hst := hr.balanced .stateBytes
  have ht := hr.balanced .tombstones
  have htb := hr.balanced .tombstoneBytes
  simp only [counter, owedFor] at hst ht htb
  refine hr.settle hs _ ?_ rfl (fun a => ?_) (satAddU64_pos hp) hr.reserved_le hr.reserved_le_max ?_
  · simp only [StreamState.Settled, hn]
    exact hp.ne'
  · rw [hm, charge_of_isTombstone hd]
    cases a <;> simp only [counter, entomb, owedFor, hg, true_and, if_true]
    · rw [satAdd_of_le (by omega)]
    · split <;> simp_all
    · rw [satAdd_of_le (by omega), Nat.add_zero]
  · refine le_trans ?_ hr.state_le
    simp only [entomb]
    split <;> omega

/-- A stream whose partial was taken becomes a tombstone. -/
lemma markTombstone_new (hr : Ledger (some str) (owedFor str wasActive) r)
    (ht : r.tombstoneBytes ≤ r.limits.maxTombstoneBytes)
    (hs : r.streams.lookup str = some state) (hn : state.partialPub = none)
    (hg : state.tombstoneGeneration = 0) : Books (r.markTombstone str wasActive) := by
  have he := makeTombstoneRoom_evicted r (stateSize str)
  have hl : Ledger (some str) (owedFor str wasActive)
      (r.makeTombstoneRoom (stateSize str)) := evictWhile_ledger _ _ hr
  have hs' := he.lookup_eq _ _ hs (by simp [isTombstone, hg])
  simp only [markTombstone, hs, hs', hg, Option.any_some, decide_true, if_true, true_and]
  split
  · have hst := hl.balanced .stateBytes
    simp only [counter, owedFor] at hst
    refine ⟨hl.drop hs' rfl rfl (fun a => ?_) rfl, ?_⟩
    · rw [charge_of_moving hn hg]
      cases a with
      | stateBytes =>
        simp only [counter, owedFor, forget]
        split at hst <;> simp_all
      | activeStreams | tombstones | reservedBytes | tombstoneBytes => rfl
    · exact he.limits_eq ▸ he.tombstoneBytes_le.trans ht
  · exact pruneTombstones_books (entomb_spec hl hs' hn hg)

/-- A tombstone is marked again: only its generation changes. -/
lemma markTombstone_again (hr : Ledger (some str) (fun _ => 0) r)
    (hs : r.streams.lookup str = some state) (ht : state.isTombstone) :
    Books (r.markTombstone str wasActive) := by
  have hp := hr.generation_pos
  obtain ⟨hn, hg⟩ := of_decide_eq_true ht
  have ha : ({ state with tombstoneGeneration := r.nextTombstoneGeneration } :
      StreamState).isTombstone := by
    exact decide_eq_true ⟨hn, hp.ne'⟩
  have hl : Ledger none (fun _ => 0) (r.entomb str state wasActive) := by
    refine hr.settle hs _ ?_ rfl (fun a => ?_) (satAddU64_pos hp) hr.reserved_le hr.reserved_le_max ?_
    · simp only [StreamState.Settled, Option.isNone_iff_eq_none.mp hn]
      exact hp.ne'
    · rw [charge_of_isTombstone ht, charge_of_isTombstone ha]
      cases a <;> simp [counter, entomb, hg]
    · simpa [entomb, hg] using hr.state_le
  simp only [markTombstone, hs, hg, Option.any_some, decide_false, Bool.false_eq_true, if_false,
    false_and]
  exact pruneTombstones_books hl

end Reassembler

/-! ## Expiry -/

/-- The charges of a list of entries. -/
def chargesOf (a : Account) (es : List (Sigma fun _ : PreviewStreamId => StreamState)) : Nat :=
  (es.map fun e => charge a e.1 e.2).sum

@[simp]
lemma chargesOf_cons (a : Account) (e : Sigma fun _ : PreviewStreamId => StreamState)
    (es : List (Sigma fun _ : PreviewStreamId => StreamState)) :
    chargesOf a (e :: es) = charge a e.1 e.2 + chargesOf a es := by
  simp [chargesOf]

/-- What a sweep over some entries has counted is what they were charged before and are no longer. -/
structure Swept (sweep sweep' : Reassembler.Sweep)
    (es es' : List (Sigma fun _ : PreviewStreamId => StreamState)) : Prop where
  bytes : sweep'.expiredBytes + chargesOf .reservedBytes es' =
    sweep.expiredBytes + chargesOf .reservedBytes es
  stateBytes : sweep'.expiredStateBytes + chargesOf .stateBytes es' =
    sweep.expiredStateBytes + chargesOf .stateBytes es
  publications : sweep'.expiredPublications + chargesOf .activeStreams es' =
    sweep.expiredPublications + chargesOf .activeStreams es
  tombstones : sweep'.tombstones + chargesOf .activeStreams es' =
    sweep.tombstones + chargesOf .activeStreams es
  dead : chargesOf .tombstones es' + chargesOf .activeStreams es' =
    chargesOf .tombstones es + chargesOf .activeStreams es
  deadBytes : chargesOf .tombstoneBytes es' + chargesOf .stateBytes es' =
    chargesOf .tombstoneBytes es + chargesOf .stateBytes es
  generation_pos : 0 < sweep'.nextTombstoneGeneration
  settled : ∀ e ∈ es', e.2.Settled

variable {sweep : Reassembler.Sweep}

/-- One entry of the sweep. -/
lemma sweepEntry_spec (ms nowMs : Nat) (str : PreviewStreamId) (hst : state.Settled)
    (hb : sweep.expiredBytes + charge .reservedBytes str state ≤ usizeMax)
    (hs : sweep.expiredStateBytes + charge .stateBytes str state ≤ usizeMax)
    (hpu : sweep.expiredPublications + charge .activeStreams str state ≤ usizeMax)
    (ht : sweep.tombstones + charge .activeStreams str state ≤ usizeMax)
    (hpo : 0 < sweep.nextTombstoneGeneration) : Swept sweep (sweepEntry ms nowMs sweep str state).2
      [⟨str, state⟩] [⟨str, (sweepEntry ms nowMs sweep str state).1⟩] := by
  have hu := usizeMax_lt
  unfold sweepEntry
  split
  · exact ⟨rfl, rfl, rfl, rfl, rfl, rfl, hpo, by simpa using hst⟩
  · rename_i pub hp
    split
    · have hd : ({ state with
          partialPub := none
          tombstoneGeneration := sweep.nextTombstoneGeneration } : StreamState).isTombstone := by
        exact decide_eq_true ⟨rfl, hpo.ne'⟩
      simp only [charge_of_partialOf hp] at hb hs hpu ht
      have hu64 : sweep.expiredPublications + 1 ≤ u64Max := by
        unfold u64Max
        omega
      constructor
      case settled => simpa [StreamState.Settled] using hpo.ne'
      case generation_pos => exact satAddU64_pos hpo
      all_goals
        simp only [chargesOf_cons, charge_of_partialOf hp, charge_of_isTombstone hd,
          satAdd_of_le hb, satAdd_of_le hs, satAdd_of_le ht, satAddU64_of_le hu64]
        simp [chargesOf]
    · exact ⟨rfl, rfl, rfl, rfl, rfl, rfl, hpo, by simpa using hst⟩

variable {es : List (Sigma fun _ : PreviewStreamId => StreamState)}

lemma Swept.cons {sweep' sweep'' : Reassembler.Sweep}
    {e e' : Sigma fun _ : PreviewStreamId => StreamState}
    {es' : List (Sigma fun _ : PreviewStreamId => StreamState)} (h : Swept sweep sweep' [e] [e'])
    (hs : Swept sweep' sweep'' es es') : Swept sweep sweep'' (e :: es) (e' :: es') := by
  constructor
  case generation_pos => exact hs.generation_pos
  case settled =>
    intro x hx
    rcases List.mem_cons.mp hx with rfl | hx
    · exact h.settled x (by simp)
    · exact hs.settled x hx
  all_goals
    obtain ⟨h1, h2, h3, h4, h5, h6, -, -⟩ := h
    obtain ⟨g1, g2, g3, g4, g5, g6, -, -⟩ := hs
    simp only [chargesOf_cons] at *
    omega

/-- The whole sweep, when what it could count at most fits a `usize`. -/
lemma sweep_spec (ms nowMs : Nat) (sweep : Reassembler.Sweep) (hst : ∀ e ∈ es, e.2.Settled)
    (hb : sweep.expiredBytes + chargesOf .reservedBytes es ≤ usizeMax)
    (hstt : sweep.expiredStateBytes + chargesOf .stateBytes es ≤ usizeMax)
    (hp : sweep.expiredPublications + chargesOf .activeStreams es ≤ usizeMax)
    (ht : sweep.tombstones + chargesOf .activeStreams es ≤ usizeMax)
    (hpo : 0 < sweep.nextTombstoneGeneration) : Swept sweep
      (mapAccumEntries (sweepEntry ms nowMs) sweep es).2 es
      (mapAccumEntries (sweepEntry ms nowMs) sweep es).1 := by
  induction es generalizing sweep with
  | nil => exact ⟨rfl, rfl, rfl, rfl, rfl, rfl, hpo, nofun⟩
  | cons e es ih =>
    simp only [chargesOf_cons] at hb hstt hp ht
    have hs := sweepEntry_spec ms nowMs e.1 (hst e (by simp))
      (show sweep.expiredBytes + _ ≤ _ by omega) (by omega) (by omega) (by omega) hpo
    refine hs.cons (ih _ (fun x hx => hst x (by simp [hx])) ?_ ?_ ?_ ?_ hs.generation_pos)
    · have := hs.bytes
      simp only [chargesOf_cons] at this
      omega
    · have := hs.stateBytes
      simp only [chargesOf_cons] at this
      omega
    · have := hs.publications
      simp only [chargesOf_cons] at this
      omega
    · have := hs.tombstones
      simp only [chargesOf_cons] at this
      omega

namespace Reassembler

/-- Active streams and tombstones together are covered by the entries' memory. -/
lemma held_add_le_liveBytes (r : Reassembler) {b : Account}
    (h : ∀ str state, charge a str state + charge b str state ≤ stateSize str) :
    r.held a + r.held b ≤ r.liveBytes := by
  rw [held, held, ← total_add]
  exact total_le_total fun str state _ => h str state

variable (str : PreviewStreamId) (state : StreamState)

lemma charge_tombstones_add :
    charge .tombstones str state + charge .activeStreams str state ≤ stateSize str := by
  have hp := stateSize_pos str
  cases h : state.partialPub <;> simp only [charge, isTombstone, h] <;>
    split <;> simp_all <;> omega

lemma charge_tombstoneBytes_add :
    charge .tombstoneBytes str state + charge .stateBytes str state ≤ stateSize str := by
  cases h : state.partialPub <;> simp only [charge, isTombstone, h] <;>
    split <;> simp_all

/-- **Expiry keeps the books.** -/
theorem expireAt_spec (hr : Books r) (nowMs : Nat) : Books (r.expireAt nowMs) := by
  have hl := hr.live_le
  have ha : r.activeStreams = r.held .activeStreams := hr.balanced .activeStreams
  have ht : r.tombstones = r.held .tombstones := hr.balanced .tombstones
  have hre : r.reservedBytes = r.held .reservedBytes := hr.balanced .reservedBytes
  have hst : r.stateBytes = r.held .stateBytes := hr.balanced .stateBytes
  have hb : r.tombstoneBytes = r.held .tombstoneBytes := hr.balanced .tombstoneBytes
  have hm := hr.reserved_le_max
  have hon := held_add_le_liveBytes r charge_tombstones_add
  have htw := held_add_le_liveBytes r charge_tombstoneBytes_add
  have hsp := sweep_spec r.limits.maxIdleMs nowMs ⟨0, 0, 0, r.nextTombstoneGeneration, r.tombstones⟩
    (fun e he => hr.settled e.1 e.2 (mem_lookup_iff.mpr he) nofun)
    (show 0 + r.held .reservedBytes ≤ _ by omega) (show 0 + r.held .stateBytes ≤ _ by omega)
    (show 0 + r.held .activeStreams ≤ _ by omega)
    (show r.tombstones + r.held .activeStreams ≤ _ by omega) hr.generation_pos
  unfold expireAt
  generalize hsw : r.streams.mapAccum (sweepEntry r.limits.maxIdleMs nowMs)
    ⟨0, 0, 0, r.nextTombstoneGeneration, r.tombstones⟩ = swept
  have hen := congrArg (fun p => p.1.entries) hsw
  have hse := congrArg Prod.snd hsw
  simp only [mapAccum] at hen hse
  rw [hen, hse] at hsp
  obtain ⟨h1, h2, h3, h4, h5, h6, hp, hset⟩ := hsp
  change _ = 0 + r.held .reservedBytes at h1
  change _ = 0 + r.held .stateBytes at h2
  change _ = 0 + r.held .activeStreams at h3
  change _ = r.tombstones + r.held .activeStreams at h4
  change _ = r.held .tombstones + r.held .activeStreams at h5
  change _ = r.held .tombstoneBytes + r.held .stateBytes at h6
  refine pruneTombstones_books ⟨fun a => ?_, ?_, fun str state hs _ => ?_, hp, ?_, ?_, ?_⟩
  · rw [satAdd_of_le (by omega)]
    cases a with
    | activeStreams =>
      show r.activeStreams - min _ _ = chargesOf .activeStreams swept.1.entries + 0
      omega
    | tombstones =>
      show swept.2.tombstones = chargesOf .tombstones swept.1.entries + 0
      omega
    | reservedBytes =>
      show r.reservedBytes - swept.2.expiredBytes = chargesOf .reservedBytes swept.1.entries + 0
      omega
    | stateBytes =>
      show r.stateBytes - swept.2.expiredStateBytes = chargesOf .stateBytes swept.1.entries + 0
      omega
    | tombstoneBytes =>
      show r.tombstoneBytes + swept.2.expiredStateBytes = chargesOf .tombstoneBytes swept.1.entries + 0
      omega
  · have hk : swept.1.entries.keys = r.streams.entries.keys := by
      rw [← hen, keys_mapAccumEntries]
    rw [liveBytes, total_keys] at hl ⊢
    rwa [hk]
  · exact hset ⟨str, state⟩ (mem_lookup_iff.mp hs)
  · exact (sub_le _ _).trans hr.reserved_le
  · exact (sub_le _ _).trans hr.reserved_le_max
  · exact (sub_le _ _).trans hr.state_le

end Reassembler

end Hypercolor.Preview
