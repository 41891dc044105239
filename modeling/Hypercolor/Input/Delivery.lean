import Hypercolor.Input.Publication

/-!
# No event is lost or repeated silently

The valid events published into a slot are a log. The ring holds its end (`Synced`), a read gives
what is held after a cursor (`Synced.read`), and a consumer that feeds its cursor back follows the
log from where it attached (`Following`).

**`reads_account`**: at every read, what the consumer was given stands in the log in that order, and
with what it was told was dropped it adds up to what was published since it attached. A read
always returns.
-/

namespace Hypercolor.Input

open Lib List Option Nat SlotOp

/-- The events of a batch that can be published. -/
def validEvents (events : List TimedInputEvent) : List TimedInputEvent :=
  events.filter fun event => event.repeatCount ≠ 0

/-- The valid events an operation publishes. -/
def SlotOp.published : SlotOp → List TimedInputEvent
  | .publishBatch _ events => validEvents events
  | .clearLatest | .read => []

/-! ## Retained storage -/

/-- Copying events over retained storage from an index on. -/
def overwrite : Nat → List TimedInputEvent → List TimedInputEvent → List TimedInputEvent
  | _, output, [] => output
  | index, output, event :: events =>
    overwrite (index + 1) (cloneEventReused output index event) events

variable {o log : List TimedInputEvent} {i cap st base : Nat}

lemma take_cloneEventReused (h : i ≤ o.length) (e : TimedInputEvent) :
    (cloneEventReused o i e).take (i + 1) = o.take i ++ [e] ∧
        i + 1 ≤ (cloneEventReused o i e).length := by
  unfold cloneEventReused
  split
  · rename_i hl
    rw [take_add_one, take_set_of_le (le_refl i), getElem?_set_self hl, length_set]
    exact ⟨rfl, hl⟩
  · have hi : i = o.length := by omega
    subst hi
    simp

lemma take_overwrite (es : List TimedInputEvent) (h : i ≤ o.length) :
    (overwrite i o es).take (i + es.length) = o.take i ++ es := by
  induction es generalizing o i with
  | nil => simp [overwrite]
  | cons e es ih =>
    have hc := take_cloneEventReused h e
    rw [overwrite, length_cons, add_comm es.length 1, ← add_assoc, ih hc.2, hc.1]
    simp

variable {slot slot' : InputPublicationSlot}

namespace InputPublicationSlot

lemma readEntries_eq (slot : InputPublicationSlot) (offset : Nat) (cursors : List Nat)
    (eventCount : Nat) (o : List TimedInputEvent) :
    slot.readEntries offset cursors eventCount o =
      (cursors.mapM (Ring.look slot.eventSlots)).map fun es =>
        (overwrite (offset + eventCount) o es, eventCount + es.length) := by
  induction cursors generalizing eventCount o with
  | nil => rfl
  | cons exp rest ih =>
    rw [readEntries, mapM_cons]
    cases Ring.look slot.eventSlots exp with
    | none => rfl
    | some e =>
      simp only [bind_eq_bind, bind_some, ih]
      cases rest.mapM (Ring.look slot.eventSlots) with
      | none => rfl
      | some es =>
        simp [overwrite, add_assoc, add_comm 1]

/-! ## The ring holds the end of the log -/

/-- Inside a publication: the writer and the ring agree with the log. -/
structure Writing (capacity : Nat) (log : List TimedInputEvent) (slot : InputPublicationSlot) :
    Prop where
  cells : slot.eventSlots.length = capacity
  holds : Ring.Holds slot.eventSlots log
  writer : slot.writer.nextCursor = log.length
  bounded : log.length ≤ u64Max

/-- Between operations: readers see what the writer has. -/
structure Synced (capacity : Nat) (log : List TimedInputEvent) (slot : InputPublicationSlot) :
    Prop extends Writing capacity log slot where
  next : slot.nextCursor = log.length

lemma synced_new (cap : Nat) : Synced cap [] (new cap) where
  cells := length_replicate
  holds := .nil _
  writer := rfl
  bounded := zero_le _
  next := rfl

lemma Writing.publishEvent (h : Writing cap log slot) (hca : 0 < cap)
    {e : TimedInputEvent} (hp : slot.publishEvent e = some slot') :
    Writing cap (log ++ validEvents [e]) slot' := by
  unfold InputPublicationSlot.publishEvent at hp
  have hc := h.cells
  by_cases hi : e.repeatCount = 0
  · rw [if_pos hi, some_inj] at hp
    subst hp
    simp only [validEvents, hi, ne_eq, not_true_eq_false, decide_false, Bool.false_eq_true,
      not_false_eq_true, filter_cons_of_neg, filter_nil, append_nil]
    exact ⟨h.cells, h.holds, h.writer, h.bounded⟩
  · rw [if_neg hi, if_neg (by omega)] at hp
    obtain ⟨nextCursor, hn, hs⟩ := bind_eq_some_iff.mp hp
    obtain ⟨rfl, hb⟩ := checkedAdd_eq_some.mp hn
    obtain rfl := some_inj.mp hs
    have hv : validEvents [e] = [e] := by simp [validEvents, hi]
    rw [hv]
    refine ⟨?_, ?_, ?_, ?_⟩
    · simpa using hc
    · change Ring.Holds (slot.eventSlots.set (slot.writer.nextCursor % slot.eventSlots.length)
        (some ⟨slot.writer.nextCursor, e⟩)) _
      rw [h.writer]
      exact h.holds.push (by omega) e
    · simp [h.writer]
    · rw [h.writer] at hb
      simpa using hb

lemma Writing.publishEvents (hc : 0 < cap) (es : List TimedInputEvent) (h : Writing cap log slot)
    (hp : es.foldlM InputPublicationSlot.publishEvent slot = some slot') :
    Writing cap (log ++ validEvents es) slot' := by
  induction es generalizing log slot with
  | nil =>
    simp only [foldlM_nil, Option.pure_def, Option.some_inj] at hp
    subst hp
    simpa [validEvents] using h
  | cons e es ih =>
    obtain ⟨nx, he, hr⟩ := Option.bind_eq_some_iff.mp hp
    have hs : validEvents (e :: es) = validEvents [e] ++ validEvents es := by
      rw [validEvents, validEvents, validEvents, ← filter_append, singleton_append]
    rw [hs, ← append_assoc]
    exact ih (h.publishEvent hc he) hr

lemma Synced.publishBatch (h : Synced cap log slot) (hca : 0 < cap)
    {sample : Option InputData} {es : List TimedInputEvent}
    (hp : slot.publishBatch sample es = some slot') : Synced cap (log ++ validEvents es) slot' := by
  obtain ⟨pub, he, hc⟩ := bind_eq_some_iff.mp hp
  obtain ⟨rev, -, hs⟩ := bind_eq_some_iff.mp hc
  have hst : Writing cap log (slot.storeSample sample).1 := by
    refine ⟨h.cells, h.holds, ?_, h.bounded⟩
    rw [← h.writer]
    unfold storeSample
    split <;> rfl
  have hw := hst.publishEvents hca es he
  obtain rfl := some_inj.mp hs
  exact ⟨⟨hw.cells, hw.holds, hw.writer, hw.bounded⟩, hw.writer⟩

lemma Synced.clearLatest (h : Synced cap log slot) (hc : slot.clearLatest = some slot') :
    Synced cap log slot' := by
  obtain ⟨rev, -, hs⟩ := bind_eq_some_iff.mp hc
  obtain rfl := some_inj.mp hs
  exact ⟨⟨h.cells, h.holds, h.writer, h.bounded⟩, h.next⟩

/-! ## Reading -/

/-- Where a read with this cursor starts in a log of this length. -/
def position (cursor length : Nat) : Nat := if cursor = u64Max then length else min cursor length

lemma position_le (cur len : Nat) : position cur len ≤ len := by
  unfold position
  split <;> omega

/-- A cursor that was given out is read as itself. -/
lemma position_of_le {cur len : Nat} (h : cur ≤ len) (hb : len ≤ u64Max) : position cur len = cur := by
  unfold position
  split <;> omega

/-- **A read.** It returns what the ring still has after the cursor and says how much it has not. -/
theorem Synced.read (h : Synced cap log slot) (cur : Nat) (o : List TimedInputEvent) :
    slot.readPublicationSince cur o = some ({
        sample := slot.latest
        events := {
          nextCursor := log.length
          dropped := log.length - cap - position cur log.length
          droppedTotal := slot.droppedTotal }
        interactionTransients := slot.interactionTransients },
        o ++ log.drop (max (position cur log.length) (log.length - cap))) := by
  have hol : log.length - min cap log.length = log.length - cap := by omega
  have hf : max (position cur log.length) (log.length - cap) ≤ log.length :=
    max_le (position_le _ _) (sub_le _ _)
  have hw := h.holds.window (log.length - max (position cur log.length) (log.length - cap))
    (max (position cur log.length) (log.length - cap)) (by omega)
    (by rw [h.cells]; omega)
  simp only [readPublicationSince, readPublicationReusingSince, h.next, h.cells, hol,
    readEntries_eq, Option.bind_eq_bind, Option.pure_def]
  change ((Option.map _ (List.mapM _ (List.range' (max (position cur log.length) _) (_ -
    max (position cur log.length) _)))).bind _).bind _ = _
  rw [hw]
  simp only [Option.map_some, Option.bind_some, add_zero, zero_add]
  rw [take_overwrite _ (le_refl _), take_length]
  rfl

end InputPublicationSlot

/-! ## Consumers -/

namespace Session

open InputPublicationSlot

variable {ss ss' : Session} {op : SlotOp}

/-- **One step of the slot**, whoever reads. -/
theorem synced_perform (hc : 0 < cap) (h : Synced cap log ss.slot) (hop : ss.perform st op = some ss') :
    Synced cap (log ++ op.published) ss'.slot := by
  cases op with
  | publishBatch sample es =>
    obtain ⟨slot, hsl, hs⟩ := bind_eq_some_iff.mp hop
    obtain rfl := some_inj.mp hs
    exact h.publishBatch hc hsl
  | clearLatest =>
    obtain ⟨slot, hsl, hs⟩ := bind_eq_some_iff.mp hop
    obtain rfl := some_inj.mp hs
    simpa [published] using h.clearLatest hsl
  | read =>
    obtain ⟨read, -, hs⟩ := bind_eq_some_iff.mp hop
    obtain rfl := some_inj.mp hs
    simpa [published] using h

/-- Only reads change what a consumer has read. -/
lemma reads_perform (hr : op ≠ .read) (hop : ss.perform st op = some ss') : ss'.reads = ss.reads := by
  cases op with
  | publishBatch sample es | clearLatest =>
    obtain ⟨slot, -, hs⟩ := bind_eq_some_iff.mp hop
    obtain rfl := some_inj.mp hs
    rfl
  | read => exact absurd rfl hr

lemma synced_performAll (hc : 0 < cap) (ops : List SlotOp)
    (h : Synced cap log ss.slot) (hos : ss.performAll st ops = some ss') :
    Synced cap (log ++ ops.flatMap published) ss'.slot := by
  induction ops generalizing log ss with
  | nil =>
    obtain rfl := some_inj.mp hos
    simpa using h
  | cons op ops ih =>
    obtain ⟨nx, hop, hr⟩ := performAll_cons.mp hos
    rw [flatMap_cons, ← append_assoc]
    exact ih (synced_perform hc h hop) hr

/-- A consumer that joined the log at `base` and follows it with its cursor. -/
def Following (base start : Nat) (log : List TimedInputEvent) (session : Session) : Prop :=
  Ring.Follows base log (session.cursor start) session.given session.dropped

/-- A read brings the consumer to the end of the log, from wherever its cursor is read. -/
lemma following_read (hs : Synced cap log ss.slot)
    (h : Ring.Follows base log (position (ss.cursor st) log.length) ss.given
      ss.dropped) (hr : ss.perform st .read = some ss') :
    Following base st log ss' ∧ ss'.cursor st = log.length := by
  rw [perform, hs.read] at hr
  obtain rfl := some_inj.mp hr
  have ha := h.advance (sub_le log.length cap)
  simpa [Following, cursor, given, dropped] using ha

/-- **One step.** Whatever happens to the slot, the consumer keeps following the log. -/
theorem Following.perform (h : Following base st log ss)
    (hs : Synced cap log ss.slot) (hop : ss.perform st op = some ss') :
    Following base st (log ++ op.published) ss' := by
  by_cases hr : op = .read
  · subst hr
    rw [published, append_nil]
    refine (following_read hs ?_ hop).1
    rw [position_of_le h.within hs.bounded]
    exact h
  · have hrd := reads_perform hr hop
    rw [Following, cursor, given, dropped, hrd]
    exact h.grow _

/-- **A run.** -/
theorem Following.performAll (hc : 0 < cap) (ops : List SlotOp)
    (h : Following base st log ss) (hs : Synced cap log ss.slot) (hos : ss.performAll st ops = some ss') :
    Following base st (log ++ ops.flatMap published) ss' := by
  induction ops generalizing log ss with
  | nil =>
    obtain rfl := some_inj.mp hos
    simpa using h
  | cons op ops ih =>
    obtain ⟨nx, hop, hr⟩ := performAll_cons.mp hos
    rw [flatMap_cons, ← append_assoc]
    exact ih (h.perform hs hop) (synced_perform hc hs hop) hr

/-- A run from the first read of a consumer to its last. -/
lemma following_of_reads (hc : 0 < cap) (hs : Synced cap log slot)
    {ops : List SlotOp} (hos : (join slot).performAll st ops = some ss)
    (ha : ops.head? = some .read) (hr : ops.getLast? = some .read) :
    Following (position st log.length) st (log ++ ops.flatMap published) ss ∧
      ss.cursor st = (log ++ ops.flatMap published).length := by
  have hj : Ring.Follows (position st log.length) log
      (position ((join slot).cursor st) log.length) (join slot).given (join slot).dropped :=
    .join (position_le _ _)
  obtain ⟨init, rfl⟩ := getLast?_eq_some_iff.mp hr
  obtain ⟨ls, hi, hl⟩ := performAll_concat.mp hos
  rw [flatMap_append, flatMap_singleton, published, append_nil]
  cases init with
  | nil =>
    obtain rfl := some_inj.mp hi
    simpa using following_read hs hj hl
  | cons f mid =>
    have hf : f = .read := by simpa using ha
    subst hf
    obtain ⟨nx, hf, hm⟩ := performAll_cons.mp hi
    have hn := (following_read hs hj hf).1
    have hs' := synced_perform hc hs hf
    rw [published, append_nil] at hs'
    have hsynced_last := synced_performAll hc mid hs' hm
    have hfo := hn.performAll hc mid hs' hm
    rw [flatMap_cons, published, nil_append]
    refine following_read hsynced_last ?_ hl
    rw [position_of_le hfo.within hsynced_last.bounded]
    exact hfo

end Session

open Session InputPublicationSlot in
/-- **Nothing is lost or repeated silently.** A consumer attaches with its first read, at the tail
where `start` is `u64::MAX`, and makes its last read now. -/
theorem reads_account {capacity : Nat} (hcapacity : 0 < capacity) {before after : List SlotOp}
    {start : Nat} {opened session : Session}
    (hbefore : (join (new capacity)).performAll start before = some opened)
    (hafter : (join opened.slot).performAll start after = some session)
    (hattach : after.head? = some .read) (hread : after.getLast? = some .read) :
    let published := before.flatMap SlotOp.published
    let sinceAttached :=
      published.drop (position start published.length) ++ after.flatMap SlotOp.published
    session.given.Sublist sinceAttached ∧ session.given.length + session.dropped = sinceAttached.length ∧
        ∀ cursor output, (session.slot.readPublicationSince cursor output).isSome := by
  intro published sinceAttached
  have hon : Synced capacity published opened.slot := by
    simpa using synced_performAll hcapacity before (synced_new capacity) hbefore
  obtain ⟨hf, hc⟩ := following_of_reads hcapacity hon hafter hattach hread
  have hs : (published ++ after.flatMap SlotOp.published).drop
      (position start published.length) = sinceAttached :=
    drop_append_of_le_length (position_le _ _)
  refine ⟨?_, ?_, fun cursor output => ?_⟩
  · have hsu := hf.sublist
    rwa [hc, take_length, hs] at hsu
  · have ha := hf.account
    rwa [hc, ← length_drop, hs] at ha
  · have hj : Synced capacity published (join opened.slot).slot := hon
    rw [(synced_performAll hcapacity after hj hafter).read]
    rfl

/-- An edge that is no control, by its number. -/
def tick (seq repeatCount : Nat) : TimedInputEvent :=
  ⟨.midiRealtime "midi" .clock, 0, seq, none, repeatCount⟩

open Session InputPublicationSlot in
/-- A consumer that attaches after one event and comes back when three more went through a ring of
two, one of them invalid on the way. -/
theorem reads_account_overrun : ∃ opened session : Session,
      (join (new 2)).performAll u64Max [.publishBatch none [tick 0 1]] = some opened ∧
        (join opened.slot).performAll u64Max
          [.read, .publishBatch none [tick 1 1, tick 9 0, tick 2 1], .clearLatest,
            .publishBatch none [tick 3 1], .read] = some session ∧
          session.given = [tick 2 1, tick 3 1] ∧ session.given.Sublist [tick 1 1, tick 2 1, tick 3 1] ∧
              session.given.length + session.dropped = 3 := by
  refine ⟨_, _, rfl, rfl, rfl, ?_⟩
  have h := @reads_account 2 (by decide) [.publishBatch none [tick 0 1]]
    [.read, .publishBatch none [tick 1 1, tick 9 0, tick 2 1], .clearLatest,
      .publishBatch none [tick 3 1], .read] u64Max _ _ rfl rfl rfl rfl
  exact ⟨h.1, h.2.1⟩

end Hypercolor.Input
