import Hypercolor.Lib.Table
import Hypercolor.Idempotency.AtMostOnce

/-!
# The idempotency store counts exactly

Four counters and a queue mirror the store's map.

**Theorem** (`accounting_exact`): in every reachable state, under any interleaving of claims,
settlements, drops and ticks of the clock,

* the completion queue lists exactly the completed entries, once each, in the order in which they
  were completed;
* the completed count, the stored bytes, the pending count and the pending bytes are what one gets
  by adding up over the entries;
* pending and completed entries are within the bounds of the retention;
* a step takes an entry out of flight only by settling or dropping its own handle.

Evictions are one relation (`Evicts`): whatever is popped, the counters follow the entries. The bytes
that are counted are held in memory at the same time, so their sums fit a `usize` (`Fits`) and the
saturating additions are exact.
-/

set_option linter.unusedSectionVars false

namespace Hypercolor.Idempotency

open Lib List Nat Entry Table StoreInner

/-! ## What the counters mirror -/

variable {retention : Retention}

section Entries

variable {K F : Type} [DecidableEq K]

/-- One for each completed entry. -/
def Entry.completedOne : Entry F → Nat
  | .inFlight _ _ => 0
  | .completed _ _ _ _ => 1

/-- The bytes of a completed entry. -/
def Entry.storedWeight : Entry F → Nat
  | .inFlight _ _ => 0
  | .completed _ outcome _ _ => outcome.weight

/-- What each entry in flight counts, given what its handle does. -/
def Entry.pending (held : FlightId → Nat) : Entry F → Nat
  | .inFlight _ done => held done
  | .completed _ _ _ _ => 0

section Simp

variable (fp : F) (done : FlightId) (outcome : Outcome) (sequence completedAt : Nat)
  (held : FlightId → Nat)

@[simp] theorem Entry.completedOne_inFlight : (inFlight fp done).completedOne = 0 := rfl

@[simp] theorem Entry.completedOne_completed :
    (completed fp outcome sequence completedAt).completedOne = 1 := rfl

@[simp] theorem Entry.storedWeight_inFlight : (inFlight fp done).storedWeight = 0 := rfl

@[simp] theorem Entry.storedWeight_completed :
    (completed fp outcome sequence completedAt).storedWeight = outcome.weight := rfl

@[simp] theorem Entry.pending_inFlight : (inFlight fp done).pending held = held done := rfl

@[simp] theorem Entry.pending_completed :
    (completed fp outcome sequence completedAt).pending held = 0 := rfl

end Simp

namespace StoreInner

/-- The counters of completed entries agree with the entries. -/
structure Counts (s : StoreInner K F) : Prop where
  completedCount_eq : s.completedCount = total (fun _ e => e.completedOne) s.entries
  storedBytes_eq : s.storedBytes = total (fun _ e => e.storedWeight) s.entries

/-- What evictions do: records go at the front of the queue, completed entries go with their share of
the counters, and nothing pending changes. -/
structure Evicts (s s' : StoreInner K F) : Prop where
  counts : s.Counts → s'.Counts
  suffix : s'.completed <:+ s.completed
  completedCount_le : s'.completedCount ≤ s.completedCount
  storedBytes_le : s'.storedBytes ≤ s.storedBytes
  pendingCount_eq : s'.pendingCount = s.pendingCount
  pendingBytes_eq : s'.pendingBytes = s.pendingBytes
  nextSequence_eq : s'.nextSequence = s.nextSequence
  total_pending : ∀ held, total (fun _ e => e.pending held) s'.entries =
    total (fun _ e => e.pending held) s.entries

lemma Evicts.refl (s : StoreInner K F) : Evicts s s :=
  ⟨id, suffix_rfl, le_rfl, le_rfl, rfl, rfl, rfl, fun _ => rfl⟩

variable {s s' : StoreInner K F}

lemma Evicts.trans {s'' : StoreInner K F} (h : Evicts s s') (h' : Evicts s' s'') : Evicts s s'' where
  counts := h'.counts ∘ h.counts
  suffix := h'.suffix.trans h.suffix
  completedCount_le := h'.completedCount_le.trans h.completedCount_le
  storedBytes_le := h'.storedBytes_le.trans h.storedBytes_le
  pendingCount_eq := h'.pendingCount_eq.trans h.pendingCount_eq
  pendingBytes_eq := h'.pendingBytes_eq.trans h.pendingBytes_eq
  nextSequence_eq := h'.nextSequence_eq.trans h.nextSequence_eq
  total_pending held := (h'.total_pending held).trans (h.total_pending held)

variable {now : Nat}

/-- Popping a record whose entry is there. -/
lemma evictFront_evicts (h : s.Queue now) (he : s.evictFront = some s') : Evicts s s' := by
  cases hq : s.completed with
  | nil => simp [evictFront, hq] at he
  | cons rec rest =>
    obtain ⟨fp, o, hl⟩ := h.described rec (by rw [hq]; exact mem_cons_self)
    have ht := fun f : Entry F → Nat => total_of_lookup (fun _ e => f e) hl
    obtain rfl : { s with
        completed := rest
        entries := s.entries.erase rec.key
        completedCount := s.completedCount - 1
        storedBytes := s.storedBytes - o.weight } = s' := by
      simpa [evictFront, hq, describes, forget, hl] using he
    refine ⟨fun hc => ⟨?_, ?_⟩, ?_, sub_le _ _, sub_le _ _, rfl, rfl, rfl, fun held => ?_⟩
    · have hs := ht completedOne
      rw [← hc.completedCount_eq] at hs
      simp only [completedOne_completed] at hs ⊢
      omega
    · have hs := ht storedWeight
      rw [← hc.storedBytes_eq] at hs
      simp only [storedWeight_completed] at hs ⊢
      omega
    · rw [hq]
      exact suffix_cons rec rest
    · rw [ht (pending held), pending_completed, zero_add]

lemma expire_evicts (now age : Nat) (s : StoreInner K F) (h : s.Queue now) :
    Evicts s (s.expire now age) := by
  fun_induction expire now age s with
  | case1 s hq | case2 s front rest hq hf | case3 s front rest hq hold he => exact .refl s
  | case4 s front rest hq hold s₁ he ih =>
    obtain ⟨s', hs', -, -, hqu⟩ := evictFront_spec h hq
    cases hs'.symm.trans he
    exact (evictFront_evicts h he).trans (ih hqu)

/-- A completed entry is counted by its record. -/
lemma completedCount_of_nil (h : s.Queue now) (hc : s.Counts) (hq : s.completed = []) :
    s.completedCount = 0 := by
  rw [hc.completedCount_eq]
  refine total_eq_zero fun k e hk => ?_
  cases e with
  | inFlight fp id => rfl
  | completed fp o q t =>
    have hm := h.recorded k fp o q t hk
    rw [hq] at hm
    cases hm

/-- Shrinking ends within the bounds. -/
lemma shrinkTo_evicts (retention : Retention) (s : StoreInner K F) (h : s.Queue now) (hc : s.Counts) :
    Evicts s (s.shrinkTo retention) ∧ ¬ (s.shrinkTo retention).OverBounds retention := by
  fun_induction shrinkTo retention s with
  | case1 s hb he =>
    -- Nothing is left to pop, so nothing is completed and nothing was too much.
    have hq : s.completed = [] := by
      cases hq : s.completed with
      | nil => rfl
      | cons rec rest => simp [evictFront, hq] at he
    have hz := completedCount_of_nil h hc hq
    omega
  | case2 s hb s₁ he ih =>
    have hev := evictFront_evicts h he
    cases hq : s.completed with
    | nil => simp [evictFront, hq] at he
    | cons rec rest =>
      obtain ⟨s', hs', -, -, hqu⟩ := evictFront_spec h hq
      cases hs'.symm.trans he
      obtain ⟨hr, hbn⟩ := ih hqu (hev.counts hc)
      exact ⟨hev.trans hr, hbn⟩
  | case3 s hok => exact ⟨.refl s, hok⟩

lemma Evicts.not_overBounds (h : Evicts s s') (hs : ¬ s.OverBounds retention) :
    ¬ s'.OverBounds retention := by
  have hc := h.completedCount_le
  have hb := h.storedBytes_le
  unfold OverBounds at hs ⊢
  omega

/-- Within the bounds, only a single answer may be larger than the byte bound. -/
lemma Counts.stored_le (h : s.Counts) (hs : ¬ s.OverBounds retention) :
    s.storedBytes ≤ retention.bytes ∨ s.completedCount = 1 := by
  by_cases hz : s.completedCount = 0
  · have hn : s.storedBytes = 0 := by
      rw [h.storedBytes_eq]
      refine total_eq_zero fun k e hk => ?_
      have hon := total_of_lookup (fun _ e => e.completedOne) hk
      rw [← h.completedCount_eq, hz] at hon
      cases e with
      | inFlight fp id => rfl
      | completed fp o q t =>
        rw [completedOne_completed] at hon
        omega
    exact .inl (by omega)
  · unfold OverBounds at hs
    omega

end StoreInner

end Entries

/-! ## Worlds and their history -/

namespace World

variable {K F : Type} [DecidableEq K] [DecidableEq F]

variable (w : World K F)

/-- The request bytes that a handle holds. -/
def heldBytes (id : FlightId) : Nat := (w.flight? id).elim 0 Flight.requestBytes

/-- The request bytes held by the entries in flight. -/
def totalHeld : Nat :=
  total (fun _ e => e.pending w.heldBytes) w.store.entries

/-- The answer bytes held by the completed entries. -/
def totalStored : Nat := total (fun _ e => e.storedWeight) w.store.entries

/-- What an event adds to the bytes held at one time fits the address space. -/
def Fits : Event K F → Prop
  | .claim _ _ requestBytes => w.totalHeld + requestBytes ≤ usizeMax
  | .settle _ outcome => w.totalStored + outcome.weight ≤ usizeMax
  | _ => True

/-- What an event completes. -/
def completions : Event K F → List (CompletedRecord K)
  | .settle id _ | .drop id =>
      (w.flight? id).toList.map fun f => ⟨f.key, w.store.nextSequence, w.now⟩
  | .tick _ | .claim _ _ _ | .publish _ => []

/-- The store together with everything completed so far, in order. -/
def history (retention : Retention) : Machine (World K F × List (CompletedRecord K)) (Event K F) where
  init s := s = (new, [])
  step s event s' :=
    Step retention s.1 event s'.1 ∧ s.1.Fits event ∧ s'.2 = s.2 ++ s.1.completions event

lemma reachable_of_history {s : World K F × List (CompletedRecord K)}
    (h : (history retention).Reachable s) : (machine retention).Reachable s.1 := by
  induction h with
  | init h =>
    cases h
    exact .init rfl
  | step _ hs ih => exact ih.step hs.1

/-- The counters agree with the entries and the bounds are kept. -/
structure Books (retention : Retention) (w : World K F) (log : List (CompletedRecord K)) : Prop where
  counts : w.store.Counts
  storedBytes_le : w.store.storedBytes ≤ usizeMax
  suffix : w.store.completed <:+ log
  bounds : ¬ w.store.OverBounds retention
  pendingCount_eq : w.store.pendingCount =
    total (fun _ e => e.pending fun _ => 1) w.store.entries
  pendingBytes_eq : w.store.pendingBytes = w.totalHeld
  pendingCount_le : w.store.pendingCount ≤ retention.pendingEntries
  pendingBytes_le : w.store.pendingBytes ≤ retention.pendingBytes

lemma Books.new (retention : Retention) : Books retention (new : World K F) [] where
  counts := ⟨rfl, rfl⟩
  storedBytes_le := zero_le _
  suffix := suffix_rfl
  bounds := by simp [StoreInner.OverBounds, World.new, StoreInner.default]
  pendingCount_eq := rfl
  pendingBytes_eq := rfl
  pendingCount_le := zero_le _
  pendingBytes_le := zero_le _

variable {w : World K F} {log : List (CompletedRecord K)}

/-- Evicting keeps the books. -/
lemma Books.evicts (h : Books retention w log) {st : StoreInner K F} (he : StoreInner.Evicts w.store st) :
    Books retention { w with store := st } log where
  counts := he.counts h.counts
  storedBytes_le := he.storedBytes_le.trans h.storedBytes_le
  suffix := he.suffix.trans h.suffix
  bounds := he.not_overBounds h.bounds
  pendingCount_eq := by
    rw [he.pendingCount_eq, he.total_pending]
    exact h.pendingCount_eq
  pendingBytes_eq := by
    rw [he.pendingBytes_eq, h.pendingBytes_eq]
    exact (he.total_pending _).symm
  pendingCount_le := he.pendingCount_eq ▸ h.pendingCount_le
  pendingBytes_le := he.pendingBytes_eq ▸ h.pendingBytes_le

/-- The handle of an identity is the one that has it. -/
lemma Inv.flight?_eq (h : w.Inv) {f : Flight K F} (hf : f ∈ w.flights) : w.flight? f.id = some f := by
  cases hfi : w.flight? f.id with
  | none =>
    have hn := find?_eq_none.mp hfi f hf
    simp at hn
  | some g =>
    have hi : g.id = f.id := by simpa using find?_some hfi
    rw [h.eq_of_id (mem_of_find?_eq_some hfi) hf hi]

/-- Moving a handle to another stage does not change what the handles hold. -/
lemma heldBytes_setStage (w : World K F) (id : FlightId) (stage : Stage) :
    (w.setStage id stage).heldBytes = w.heldBytes := by
  funext id'
  have hi : ((fun f : Flight K F => f.id == id') ∘
      fun f => if f.id = id then { f with stage := stage } else f) = fun f => f.id == id' := by
    funext f
    simp only [Function.comp]
    split <;> rfl
  rw [heldBytes, flight?, setStage, find?_map, hi, heldBytes, flight?]
  cases find? (fun f => f.id == id') w.flights with
  | none => rfl
  | some f =>
    simp only [Option.map_some, Option.elim_some]
    split <;> rfl

/-- What a claim that may execute does to an expired store. -/
def admitted (w : World K F) (key : K) (fingerprint : F) (requestBytes : Nat) : World K F :=
  { w with
    store := { w.store with
      pendingCount := w.store.pendingCount + 1
      pendingBytes := satAdd w.store.pendingBytes requestBytes
      entries := w.store.entries.insert key (.inFlight fingerprint w.flights.length) }
    flights := ⟨w.flights.length, key, fingerprint, requestBytes, .running⟩ :: w.flights }

/-- A claim expires what is old, and then it only admits a free key within the bounds. -/
lemma claim_eq (retention : Retention) (h : w.Inv) (key : K) (fingerprint : F) (requestBytes : Nat) :
    ∃ expired : World K F, expired = { w with store := w.store.expire w.now retention.age } ∧
      ((w.claim retention key fingerprint requestBytes).1 = expired ∨
        (expired.store.entries.lookup key = none ∧ expired.store.pendingCount < retention.pendingEntries ∧
          satAdd expired.store.pendingBytes requestBytes ≤ retention.pendingBytes ∧
          (w.claim retention key fingerprint requestBytes).1 =
            expired.admitted key fingerprint requestBytes)) := by
  refine ⟨_, rfl, ?_⟩
  have hca := claim_cases retention h key fingerprint requestBytes
  generalize hc : w.claim retention key fingerprint requestBytes = c at hca
  cases hca with
  | held _ | done _ _ | busy _ => exact .inl rfl
  | fresh bs pendingBytes hl =>
    unfold World.claim StoreInner.claim StoreInner.claimFree at hc
    simp only [hl] at hc
    split_ifs at hc with hb
    · exact absurd (congrArg Prod.snd hc) (by nofun)
    · rw [not_or, not_le, not_lt] at hb
      refine .inr ⟨hl, hb.1, hb.2, ?_⟩
      exact (congrArg Prod.fst hc).symm

/-- A new handle does not change what the entries hold. -/
lemma totalHeld_admitted (h : w.Inv) {key : K} (hfr : w.store.entries.lookup key = none)
    (fingerprint : F) (requestBytes : Nat) :
    (w.admitted key fingerprint requestBytes).totalHeld = w.totalHeld + requestBytes := by
  have hn : (w.admitted key fingerprint requestBytes).heldBytes w.flights.length = requestBytes := by
    simp [heldBytes, flight?, admitted]
  have hold : ∀ k e, (w.store.entries.erase key).lookup k = some e →
      e.pending (w.admitted key fingerprint requestBytes).heldBytes = e.pending w.heldBytes := by
    intro k e hk
    have hne : k ≠ key := by
      rintro rfl
      rw [AList.lookup_erase] at hk
      cases hk
    rw [AList.lookup_erase_ne hne] at hk
    cases e with
    | completed fp o q t => rfl
    | inFlight fp id =>
      obtain ⟨f, hf, rfl, -⟩ := h.inFlight k fp id hk
      have hi := h.ids_lt f (latest_mem hf).1
      have hs : (w.admitted key fingerprint requestBytes).flight? f.id = w.flight? f.id :=
        find?_cons_of_neg (by simpa using ne_of_gt hi)
      simp only [pending, heldBytes, hs]
  calc (w.admitted key fingerprint requestBytes).totalHeld
      = (w.admitted key fingerprint requestBytes).heldBytes w.flights.length +
          total (fun _ e => e.pending (w.admitted key fingerprint requestBytes).heldBytes)
            (w.store.entries.erase key) := total_insert _ _ _ _
    _ = requestBytes + w.totalHeld := by
        rw [hn, total_congr hold,
          ← total_of_lookup_eq_none (fun _ e => e.pending w.heldBytes) hfr, totalHeld]
    _ = w.totalHeld + requestBytes := add_comm _ _

variable {fingerprint : F} {requestBytes : Nat}

lemma Books.admitted (h : Books retention w log) (hw : w.Inv) {key : K}
    (hfi : w.totalHeld + requestBytes ≤ usizeMax) (hfr : w.store.entries.lookup key = none)
    (hc : w.store.pendingCount < retention.pendingEntries)
    (hb : satAdd w.store.pendingBytes requestBytes ≤ retention.pendingBytes) :
    Books retention (w.admitted key fingerprint requestBytes) log := by
  -- A free key counted nothing.
  have hs : ∀ f : Entry F → Nat, f (.inFlight fingerprint w.flights.length) = 0 →
      total (fun _ e => f e) (w.admitted key fingerprint requestBytes).store.entries =
        total (fun _ e => f e) w.store.entries := by
    intro f hf
    rw [World.admitted, total_insert, hf, zero_add, ← total_of_lookup_eq_none (fun _ e => f e) hfr]
  refine ⟨⟨?_, ?_⟩, h.storedBytes_le, h.suffix, h.bounds, ?_, ?_, hc, hb⟩
  · rw [hs completedOne rfl]
    exact h.counts.completedCount_eq
  · rw [hs storedWeight rfl]
    exact h.counts.storedBytes_eq
  · show w.store.pendingCount + 1 = _
    rw [World.admitted, total_insert, add_comm, h.pendingCount_eq,
      total_of_lookup_eq_none (fun _ e => e.pending fun _ => 1) hfr]
    rfl
  · rw [totalHeld_admitted hw hfr, ← h.pendingBytes_eq]
    rw [← h.pendingBytes_eq] at hfi
    exact min_eq_left hfi

lemma Books.claim (h : Books retention w log) (hw : w.Inv) {key : K}
    (hf : w.totalHeld + requestBytes ≤ usizeMax) :
    Books retention (w.claim retention key fingerprint requestBytes).1 log := by
  have he := expire_evicts w.now retention.age w.store hw.queue
  obtain ⟨expired, rfl, heq | ⟨hfr, hc, hb, heq⟩⟩ := claim_eq retention hw key fingerprint requestBytes
  · rw [heq]
    exact h.evicts he
  · rw [heq]
    have hep := hw.of_store (expire_spec w.now retention.age w.store hw.queue).1 (expire_loses hw.queue)
    refine (h.evicts he).admitted hep ?_ hfr hc hb
    exact (congrArg (· + requestBytes) (he.total_pending _)).trans_le hf

end World

/-! ## Settling -/

namespace StoreInner

variable {K F : Type} [DecidableEq K] {s : StoreInner K F} {now : Nat} {key : K} {fp : F}
  {id : FlightId} {outcome : Outcome}

/-- An answer takes the place of an entry in flight, which counted nothing as completed. -/
lemma Counts.record (now : Nat) (fingerprint : F) (requestBytes : Nat) (h : s.Counts)
    (hr : s.entries.lookup key = some (.inFlight fp id))
    (hf : total (fun _ e => e.storedWeight) s.entries + outcome.weight ≤ usizeMax) :
    (s.record now key fingerprint requestBytes outcome).Counts := by
  constructor
  · have hs := total_of_lookup (fun _ e => e.completedOne) hr
    simp only [StoreInner.record, total_insert]
    simp only [completedOne_inFlight, completedOne_completed] at hs ⊢
    rw [h.completedCount_eq]
    omega
  · have hs := total_of_lookup (fun _ e => e.storedWeight) hr
    simp only [StoreInner.record, total_insert]
    rw [h.storedBytes_eq, satAdd, min_eq_left hf]
    simp only [storedWeight_inFlight, storedWeight_completed] at hs ⊢
    omega

lemma total_pending_record (now : Nat) (fingerprint : F) (requestBytes : Nat) (outcome : Outcome)
    (hr : s.entries.lookup key = some (.inFlight fp id)) (held : FlightId → Nat) :
    total (fun _ e => e.pending held) s.entries = held id + total (fun _ e => e.pending held)
        (s.record now key fingerprint requestBytes outcome).entries := by
  rw [total_of_lookup (fun _ e => e.pending held) hr]
  simp only [record, total_insert]
  rw [pending_inFlight, pending_completed, zero_add]

lemma settle_evicts (retention : Retention) (fingerprint : F) (requestBytes : Nat)
    (h : s.Queue now) (hc : s.Counts) (hru : s.entries.lookup key = some (.inFlight fp id))
    (hf : total (fun _ e => e.storedWeight) s.entries + outcome.weight ≤ usizeMax) :
    Evicts (s.record now key fingerprint requestBytes outcome)
        (s.settle retention now key fingerprint requestBytes outcome) ∧
      ¬ (s.settle retention now key fingerprint requestBytes outcome).OverBounds retention := by
  have hq := record_queue h hru fingerprint requestBytes outcome
  have he := expire_evicts now retention.age _ hq
  have hr := hc.record now fingerprint requestBytes hru hf
  obtain ⟨hs, hb⟩ := shrinkTo_evicts retention _ (expire_spec now retention.age _ hq).1 (he.counts hr)
  exact ⟨he.trans hs, hb⟩

end StoreInner

namespace World

variable {K F : Type} [DecidableEq K] [DecidableEq F]
variable {log : List (CompletedRecord K)}

lemma Books.settle (h : Books retention w log) (hw : w.Inv) {f : Flight K F}
    (hf : f ∈ w.flights) (hru : f.stage = .running) {outcome : Outcome}
    (hfi : w.totalStored + outcome.weight ≤ usizeMax) : Books retention (w.settle retention f outcome)
      (log ++ [⟨f.key, w.store.nextSequence, w.now⟩]) := by
  have hen := hw.running f hf hru
  have hr := h.counts.record w.now f.fingerprint f.requestBytes hen hfi
  obtain ⟨he, hbn⟩ := settle_evicts retention f.fingerprint f.requestBytes hw.queue h.counts hen hfi
  have hp := total_pending_record w.now f.fingerprint f.requestBytes outcome hen
  have hh : w.heldBytes f.id = f.requestBytes := by rw [heldBytes, hw.flight?_eq hf]; rfl
  have hc : (w.settle retention f outcome).store.pendingCount = w.store.pendingCount - 1 :=
    he.pendingCount_eq
  have hb : (w.settle retention f outcome).store.pendingBytes =
      w.store.pendingBytes - f.requestBytes := he.pendingBytes_eq
  refine ⟨he.counts hr, ?_, ?_, hbn, ?_, ?_, ?_, ?_⟩
  · exact he.storedBytes_le.trans (min_le_right _ _)
  · obtain ⟨gone, hg⟩ := h.suffix
    refine he.suffix.trans ⟨gone, ?_⟩
    rw [← hg, append_assoc]
    rfl
  · have hon := hp fun _ => 1
    rw [← h.pendingCount_eq, ← he.total_pending] at hon
    rw [hc, hon]
    exact Nat.add_sub_cancel_left _ _
  · have hsa : (w.settle retention f outcome).heldBytes = w.heldBytes :=
      heldBytes_setStage { w with store := _ } f.id _
    have hs := hp w.heldBytes
    rw [← he.total_pending, hh] at hs
    rw [hb, h.pendingBytes_eq, totalHeld, totalHeld, hsa, hs]
    exact Nat.add_sub_cancel_left _ _
  · rw [hc]
    exact (Nat.sub_le _ _).trans h.pendingCount_le
  · rw [hb]
    exact (Nat.sub_le _ _).trans h.pendingBytes_le

end World

/-! ## Every reachable state -/

namespace World

variable {K F : Type} [DecidableEq K] [DecidableEq F]
variable {w w' : World K F} {log : List (CompletedRecord K)}

variable {event : Event K F}

lemma Books.step (h : Books retention w log) (hw : w.Inv) (hs : Step retention w event w')
    (hfi : w.Fits event) : Books retention w' (log ++ w.completions event) := by
  cases hs with
  | tick d =>
    rw [completions, append_nil]
    exact ⟨h.counts, h.storedBytes_le, h.suffix, h.bounds, h.pendingCount_eq, h.pendingBytes_eq,
      h.pendingCount_le, h.pendingBytes_le⟩
  | claim key fingerprint requestBytes =>
    rw [completions, append_nil]
    exact h.claim hw hfi
  | settle f outcome hf hr =>
    simp only [completions, hw.flight?_eq hf]
    exact h.settle hw hf hr hfi
  | drop f hf hr =>
    simp only [completions, hw.flight?_eq hf]
    -- An abandoned request stores nothing.
    refine h.settle hw hf hr ?_
    rw [totalStored, ← h.counts.storedBytes_eq]
    exact h.storedBytes_le
  | publish f outcome sa hf hre =>
    rw [completions, append_nil]
    have hsa : totalHeld (w.setStage f.id (.published outcome sa)) = w.totalHeld := by
      rw [totalHeld, heldBytes_setStage]
      rfl
    exact ⟨h.counts, h.storedBytes_le, h.suffix, h.bounds, h.pendingCount_eq,
      h.pendingBytes_eq.trans hsa.symm, h.pendingCount_le, h.pendingBytes_le⟩

lemma reachable_books {s : World K F × List (CompletedRecord K)}
    (h : (history retention).Reachable s) : Books retention s.1 s.2 := by
  induction h with
  | init h =>
    cases h
    exact .new retention
  | step hr hs ih =>
    obtain ⟨hs, hf, hl⟩ := hs
    rw [hl]
    exact ih.step (reachable_inv (reachable_of_history hr)) hs hf

/-- A step that takes an entry out of flight settles or drops its own handle. -/
lemma inFlight_of_step (hw : w.Inv) (hst : Step retention w event w') {key : K} {fp : F}
    {id : FlightId} (hky : w.store.entries.lookup key = some (.inFlight fp id)) :
    w'.store.entries.lookup key = some (.inFlight fp id) ∨
      (∃ outcome, event = .settle id outcome) ∨ event = .drop id := by
  -- Settling a handle touches the key of that handle and completed entries.
  have hs : ∀ (f : Flight K F) (outcome : Outcome), f ∈ w.flights → f.stage = .running →
      (w.settle retention f outcome).store.entries.lookup key = some (.inFlight fp id) ∨
        f.id = id := by
    intro f outcome hf hr
    have hen := hw.running f hf hr
    by_cases hk : key = f.key
    · subst hk
      cases hky.symm.trans hen
      exact .inr rfl
    · obtain ⟨-, -, hos⟩ := settle_spec retention hw.queue hen f.fingerprint f.requestBytes outcome
      rcases hos key hk with heq | ⟨-, _, _, _, _, hc⟩
      · exact .inl (heq.trans hky)
      · cases hky.symm.trans hc
  cases hst with
  | tick d | publish f outcome sa hf hre => exact .inl hky
  | claim newKey fingerprint requestBytes =>
    left
    have he : (w.store.expire w.now retention.age).entries.lookup key = some (.inFlight fp id) := by
      rw [(expire_spec w.now retention.age w.store hw.queue).2, hky]
      rfl
    obtain ⟨expired, rfl, heq | ⟨hfr, -, -, heq⟩⟩ := claim_eq retention hw newKey fingerprint requestBytes
    · rw [heq]
      exact he
    · rw [heq]
      have hn : key ≠ newKey := by
        rintro rfl
        cases he.symm.trans hfr
      exact (AList.lookup_insert_ne hn).trans he
  | settle f outcome hf hr =>
    rcases hs f outcome hf hr with hke | rfl
    · exact .inl hke
    · exact .inr (.inl ⟨outcome, rfl⟩)
  | drop f hf hr =>
    rcases hs f .abandoned hf hr with hke | rfl
    · exact .inl hke
    · exact .inr (.inr rfl)

/-- The queue and the counters say what the entries say, within the retention. -/
structure Accounted (retention : Retention) (w : World K F) (log : List (CompletedRecord K)) :
    Prop where
  listed : ∀ key sequence completedAt, ⟨key, sequence, completedAt⟩ ∈ w.store.completed ↔
    ∃ fp outcome, w.store.entries.lookup key = some (.completed fp outcome sequence completedAt)
  once : (w.store.completed.map CompletedRecord.key).Nodup
  inOrder : w.store.completed <:+ log
  completedCount_eq : w.store.completedCount =
    total (fun _ e => e.completedOne) w.store.entries
  storedBytes_eq : w.store.storedBytes = w.totalStored
  pendingCount_eq : w.store.pendingCount =
    total (fun _ e => e.pending fun _ => 1) w.store.entries
  pendingBytes_eq : w.store.pendingBytes = w.totalHeld
  pendingCount_le : w.store.pendingCount ≤ retention.pendingEntries
  pendingBytes_le : w.store.pendingBytes ≤ retention.pendingBytes
  completedCount_le : w.store.completedCount ≤ max retention.entries 1
  storedBytes_le : w.store.storedBytes ≤ retention.bytes ∨ w.store.completedCount = 1

/-- **The store counts exactly in every reachable state**, and no step evicts an entry in flight. -/
theorem accounting_exact (h : (history retention).Reachable (w, log)) :
    Accounted retention w log ∧ ∀ event w', Step retention w event w' → ∀ key fp id,
      w.store.entries.lookup key = some (.inFlight fp id) →
        w'.store.entries.lookup key = some (.inFlight fp id) ∨
          (∃ outcome, event = .settle id outcome) ∨ event = .drop id := by
  have hw : w.Inv := reachable_inv (reachable_of_history h)
  have hb : Books retention w log := reachable_books h
  refine ⟨?_, fun event w' hs key fp id hk => inFlight_of_step hw hs hk⟩
  refine ⟨fun key sequence completedAt => ⟨fun hm => ?_, ?_⟩, hw.queue.keys_nodup, hb.suffix,
    hb.counts.completedCount_eq, hb.counts.storedBytes_eq, hb.pendingCount_eq,
    hb.pendingBytes_eq, hb.pendingCount_le, hb.pendingBytes_le, ?_,
    hb.counts.stored_le hb.bounds⟩
  · exact hw.queue.described _ hm
  · rintro ⟨fp, outcome, hl⟩
    exact hw.queue.recorded key fp outcome sequence completedAt hl
  · have hbn := hb.bounds
    unfold StoreInner.OverBounds at hbn
    omega

/-- A store that keeps one answer has evicted its first for its second, and runs a third request. -/
theorem accounting_exact_evicted : ∃ (w : World Nat Nat) (log : List (CompletedRecord Nat)),
    w.store.entries.lookup 1 = none ∧ w.store.completed = [⟨2, 1, 0⟩] ∧ w.store.pendingBytes = 300 ∧
      log = [⟨1, 0, 0⟩, ⟨2, 1, 0⟩] ∧ Accounted { Retention.default with entries := 1 } w log := by
  have h₀ : (history { Retention.default with entries := 1 }).Reachable
    ((new : World Nat Nat), []) := .init rfl
  have h₁ := h₀.step (t := (_, _)) ⟨.claim _ 1 7 100, (by decide : 100 ≤ usizeMax), rfl⟩
  have h₂ := h₁.step (t := (_, _))
    ⟨.drop _ ⟨0, 1, 7, 100, .running⟩ (by decide +kernel) rfl, trivial, rfl⟩
  have h₃ := h₂.step (t := (_, _)) ⟨.claim _ 2 7 200, show _ ≤ usizeMax by decide +kernel, rfl⟩
  have h₄ := h₃.step (t := (_, _))
    ⟨.drop _ ⟨1, 2, 7, 200, .running⟩ (by decide +kernel) rfl, trivial, rfl⟩
  have h₅ := h₄.step (t := (_, _)) ⟨.claim _ 3 7 300, show _ ≤ usizeMax by decide +kernel, rfl⟩
  exact ⟨_, _, by decide +kernel, by decide +kernel, by decide +kernel, by decide +kernel,
    (accounting_exact h₅).1⟩

end World

end Hypercolor.Idempotency
