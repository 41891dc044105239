import Hypercolor.Input.Publication
import Mathlib.Algebra.BigOperators.Group.List.Basic
import Mathlib.Algebra.Order.Ring.Rat
import Mathlib.Tactic.Ring

/-!
# Transient totals

What a latest sample cannot keep, its motion and its counts of lost events, is added up by the
writer, and a consumer takes the difference from the totals of its previous read. `clear_latest`
sets the totals back to zero, so the next difference is short of everything published before.

**`transients_conserved`**: a consumer's differences add up to what was published in every run that
clears only totals that are zero and lets no count go beyond a `u64`.
-/

namespace Hypercolor.Input

open List Option SlotOp

/-! ## Totals as numbers -/

namespace InteractionTransientTotals

attribute [ext] InteractionTransientTotals

instance : Zero InteractionTransientTotals := ⟨default⟩

instance : Add InteractionTransientTotals where
  add a b :=
    ⟨a.dx + b.dx, a.dy + b.dy, a.distance + b.distance, a.windowSecs + b.windowSecs,
      a.droppedEvents + b.droppedEvents, a.invalidEvents + b.invalidEvents⟩

section Fields

variable (a b : InteractionTransientTotals)

@[simp] theorem add_dx : (a + b).dx = a.dx + b.dx := rfl

@[simp] theorem add_dy : (a + b).dy = a.dy + b.dy := rfl

@[simp] theorem add_distance : (a + b).distance = a.distance + b.distance := rfl

@[simp] theorem add_windowSecs : (a + b).windowSecs = a.windowSecs + b.windowSecs := rfl

@[simp] theorem add_droppedEvents : (a + b).droppedEvents = a.droppedEvents + b.droppedEvents := rfl

@[simp] theorem add_invalidEvents : (a + b).invalidEvents = a.invalidEvents + b.invalidEvents := rfl

end Fields

instance : AddCommMonoid InteractionTransientTotals where
  nsmul := nsmulRec
  add_assoc a b c := by
    ext <;> exact add_assoc ..
  zero_add a := by
    ext <;> exact zero_add _
  add_zero a := by
    ext <;> exact add_zero _
  add_comm a b := by
    ext <;> exact add_comm ..

/-- The counts stay within a `u64` when this much is added. -/
def Fits (totals more : InteractionTransientTotals) : Prop :=
  totals.droppedEvents + more.droppedEvents ≤ u64Max ∧ totals.invalidEvents + more.invalidEvents ≤ u64Max

variable {totals more rest : InteractionTransientTotals}

lemma Fits.left (h : totals.Fits (more + rest)) : totals.Fits more := by
  simp only [Fits, add_droppedEvents, add_invalidEvents] at h ⊢
  omega

lemma Fits.right (h : totals.Fits (more + rest)) : (totals + more).Fits rest := by
  simp only [Fits, add_droppedEvents, add_invalidEvents] at h ⊢
  omega

/-- Differences from a common start: what came earlier and the difference is what came later. -/
lemma add_deltaSince (base earlier more : InteractionTransientTotals) :
    earlier + (base + (earlier + more)).deltaSince (base + earlier) = earlier + more := by
  ext <;> simp only [deltaSince, add_dx, add_dy, add_distance, add_windowSecs, add_droppedEvents,
    add_invalidEvents]
  case dx | dy | distance | windowSecs => ring
  case droppedEvents | invalidEvents => omega

end InteractionTransientTotals

open InteractionTransientTotals

/-! ## What an operation publishes -/

/-- An exact number; what is not finite counts nothing. -/
def finitePart (value : F32) : ℚ := value.getD 0

lemma addFinite_eq (total : ℚ) (v : F32) : addFinite total v = total + finitePart v := by
  cases v <;> simp [addFinite, finitePart]

/-- The motion and the producer's own losses in a sample. -/
def sampleTransients : Option InputData → InteractionTransientTotals
  | some (.interaction interaction) =>
    { dx := finitePart interaction.batch.motion.dx
      dy := finitePart interaction.batch.motion.dy
      distance := finitePart interaction.batch.motion.distance
      windowSecs := finitePart interaction.batch.windowSecs
      droppedEvents := interaction.batch.droppedEvents
      invalidEvents := 0 }
  | _ => 0

/-- What an event adds: an invalid one is counted, and one that no ring can take is lost. -/
def eventTransients (capacity : Nat) (event : TimedInputEvent) : InteractionTransientTotals :=
  if event.repeatCount = 0 then { (0 : InteractionTransientTotals) with invalidEvents := 1 }
  else if capacity = 0 then { (0 : InteractionTransientTotals) with droppedEvents := 1 }
  else 0

/-- What an operation on a slot of this capacity publishes. -/
def SlotOp.transients (capacity : Nat) : SlotOp → InteractionTransientTotals
  | .publishBatch sample events =>
    sampleTransients sample + (events.map (eventTransients capacity)).sum
  | .clearLatest | .read => 0

lemma saturatingAdd_of_le {a b : Nat} (h : a + b ≤ u64Max) : saturatingAdd a b = a + b := min_eq_left h

variable {slot slot' : InputPublicationSlot} {read : InputPublicationRead × List TimedInputEvent}

namespace InputPublicationSlot

variable {sample : Option InputData}

lemma storeSample_transients (h : slot.writer.interactionTransients.Fits (sampleTransients sample)) :
    (slot.storeSample sample).1.writer.interactionTransients =
      slot.writer.interactionTransients + sampleTransients sample := by
  unfold storeSample
  split
  · rename_i ia
    have hd : saturatingAdd _ ia.batch.droppedEvents = _ := saturatingAdd_of_le h.1
    simp only [absorb, addFinite_eq, hd]
    rfl
  · rename_i hoh
    have hz : sampleTransients sample = 0 := by
      unfold sampleTransients
      split
      · exact absurd rfl (hoh _)
      · rfl
    rw [hz, add_zero]

variable {e : TimedInputEvent}

lemma publishEvent_length (hp : slot.publishEvent e = some slot') :
    slot'.eventSlots.length = slot.eventSlots.length := by
  unfold publishEvent at hp
  dsimp only at hp
  split at hp
  · exact congrArg (·.eventSlots.length) (some_inj.mp hp).symm
  · split at hp
    · exact congrArg (·.eventSlots.length) (some_inj.mp hp).symm
    · obtain ⟨nextCursor, -, hs⟩ := bind_eq_some_iff.mp hp
      obtain rfl := some_inj.mp hs
      exact length_set

lemma publishEvents_length (es : List TimedInputEvent) (hp : es.foldlM publishEvent slot = some slot') :
    slot'.eventSlots.length = slot.eventSlots.length := by
  induction es generalizing slot with
  | nil => exact congrArg (·.eventSlots.length) (some_inj.mp hp).symm
  | cons e es ih =>
    obtain ⟨nx, he, hr⟩ := bind_eq_some_iff.mp hp
    exact (ih hr).trans (publishEvent_length he)

lemma publishEvent_transients (hp : slot.publishEvent e = some slot')
    (h : slot.writer.interactionTransients.Fits (eventTransients slot.eventSlots.length e)) :
    slot'.writer.interactionTransients =
      slot.writer.interactionTransients + eventTransients slot.eventSlots.length e := by
  unfold publishEvent at hp
  unfold eventTransients at h ⊢
  by_cases hi : e.repeatCount = 0
  · rw [if_pos hi] at hp h ⊢
    obtain rfl := some_inj.mp hp
    simp only [saturatingAdd_of_le h.2]
    ext <;> simp <;> rfl
  · rw [if_neg hi] at hp h ⊢
    by_cases hc : slot.eventSlots.length = 0
    · rw [if_pos hc] at hp h ⊢
      obtain rfl := some_inj.mp hp
      simp only [saturatingAdd_of_le h.1]
      ext <;> simp <;> rfl
    · rw [if_neg hc] at hp ⊢
      obtain ⟨nextCursor, -, hs⟩ := bind_eq_some_iff.mp hp
      obtain rfl := some_inj.mp hs
      exact (add_zero _).symm

lemma publishEvents_transients (es : List TimedInputEvent) (hp : es.foldlM publishEvent slot = some slot')
    (h : slot.writer.interactionTransients.Fits (es.map (eventTransients slot.eventSlots.length)).sum) :
    slot'.writer.interactionTransients = slot.writer.interactionTransients +
      (es.map (eventTransients slot.eventSlots.length)).sum := by
  induction es generalizing slot with
  | nil =>
    obtain rfl := some_inj.mp hp
    exact (add_zero _).symm
  | cons e es ih =>
    obtain ⟨nx, he, hr⟩ := bind_eq_some_iff.mp hp
    rw [map_cons, sum_cons] at h ⊢
    have ht := publishEvent_transients he h.left
    have hl := publishEvent_length he
    have hn := h.right
    rw [← ht, ← hl] at hn
    rw [ih hr hn, ht, hl, add_assoc]

/-- The totals readers see are the writer's. -/
def Shown (slot : InputPublicationSlot) : Prop :=
  slot.interactionTransients = slot.writer.interactionTransients

variable {es : List TimedInputEvent}

lemma publishBatch_transients (hsh : slot.Shown) (hp : slot.publishBatch sample es = some slot')
    (h : slot.interactionTransients.Fits ((SlotOp.publishBatch sample es).transients
      slot.eventSlots.length)) : slot'.interactionTransients = slot.interactionTransients +
      (SlotOp.publishBatch sample es).transients slot.eventSlots.length := by
  obtain ⟨pub, he, hco⟩ := bind_eq_some_iff.mp hp
  obtain ⟨rev, -, hsl⟩ := bind_eq_some_iff.mp hco
  obtain rfl := some_inj.mp hsl
  rw [hsh, SlotOp.transients] at h ⊢
  have hs := storeSample_transients h.left
  have hc : (slot.storeSample sample).1.eventSlots = slot.eventSlots := rfl
  have hr := h.right
  rw [← hs, ← hc] at hr
  have ht := publishEvents_transients es he hr
  rwa [hs, hc, add_assoc] at ht

lemma shown_publishBatch (hp : slot.publishBatch sample es = some slot') :
    slot'.Shown ∧ slot'.eventSlots.length = slot.eventSlots.length := by
  obtain ⟨pub, he, hc⟩ := bind_eq_some_iff.mp hp
  obtain ⟨rev, -, hs⟩ := bind_eq_some_iff.mp hc
  obtain rfl := some_inj.mp hs
  have hl := publishEvents_length es he
  exact ⟨rfl, hl⟩

lemma clearLatest_spec (hc : slot.clearLatest = some slot') :
    slot'.Shown ∧ slot'.interactionTransients = 0 ∧ slot'.eventSlots = slot.eventSlots := by
  obtain ⟨rev, -, hs⟩ := bind_eq_some_iff.mp hc
  obtain rfl := some_inj.mp hs
  exact ⟨rfl, rfl, rfl⟩

/-- A read shows the totals and leaves the slot alone. -/
lemma readPublicationSince_transients {cur : Nat} {o : List TimedInputEvent}
    (h : slot.readPublicationSince cur o = some read) :
    read.1.interactionTransients = slot.interactionTransients := by
  obtain ⟨reused, hrs, hr⟩ := bind_eq_some_iff.mp h
  obtain ⟨entries, -, he⟩ := bind_eq_some_iff.mp hrs
  obtain rfl := some_inj.mp he
  obtain rfl := some_inj.mp hr
  rfl

end InputPublicationSlot

/-! ## The differences a consumer takes -/

namespace Session

open InputPublicationSlot

/-- The differences between successive reads. -/
def deltas (session : Session) : List InteractionTransientTotals :=
  zipWith (fun later earlier => later.1.interactionTransients.deltaSince
    earlier.1.interactionTransients) session.reads.tail session.reads

/-- The condition on one step: totals are cleared only where there are none, and no count goes
beyond a `u64`. -/
def Conserves (slot : InputPublicationSlot) : SlotOp → Prop
  | .publishBatch sample events =>
    slot.interactionTransients.Fits ((publishBatch sample events).transients slot.eventSlots.length)
  | .clearLatest => slot.interactionTransients = 0
  | .read => True

/-- Every step of a run meets the condition. -/
def Conserving (start : Nat) : Session → List SlotOp → Prop
  | _, [] => True
  | session, op :: ops =>
    Conserves session.slot op ∧ ∀ next ∈ session.perform start op, Conserving start next ops

instance (slot : InputPublicationSlot) : DecidablePred (Conserves slot)
  | .publishBatch _ _ => inferInstanceAs (Decidable (_ ∧ _))
  | .clearLatest => inferInstanceAs (Decidable (_ = _))
  | .read => .isTrue trivial

instance decidableConserving (start : Nat) :
    ∀ (session : Session) (ops : List SlotOp), Decidable (Conserving start session ops)
  | _, [] => .isTrue trivial
  | session, op :: ops =>
    have (next : Session) := decidableConserving start next ops
    inferInstanceAs (Decidable (Conserves session.slot op ∧
      ∀ next ∈ session.perform start op, Conserving start next ops))

/-- What a consumer that attached at `base` has taken, `published` having been published since. -/
structure Taken (capacity : Nat) (base published : InteractionTransientTotals) (session : Session) :
    Prop where
  cells : session.slot.eventSlots.length = capacity
  shown : session.slot.Shown
  total : session.slot.interactionTransients = base + published
  latest : session.reads.getLast?.map (fun read => read.1.interactionTransients) =
    some (base + session.deltas.sum)
  untaken : ∃ rest, published = session.deltas.sum + rest

lemma deltas_concat (slot : InputPublicationSlot)
    (reads : List (InputPublicationRead × List TimedInputEvent))
    {ls : InputPublicationRead × List TimedInputEvent} (h : reads.getLast? = some ls) :
    (Session.mk slot (reads ++ [read])).deltas = (Session.mk slot reads).deltas ++
      [read.1.interactionTransients.deltaSince ls.1.interactionTransients] := by
  induction reads with
  | nil => simp at h
  | cons f rest ih =>
    cases rest with
    | nil =>
      have hl : f = ls := by simpa using h
      subst hl
      rfl
    | cons second rest =>
      have hr := ih (by simpa using h)
      simp only [deltas, cons_append, tail_cons, zipWith_cons_cons] at hr ⊢
      rw [hr]

variable {cap st : Nat} {base pub : InteractionTransientTotals} {ss ss' : Session}

/-- **One step** that meets the condition. -/
theorem Taken.perform (h : Taken cap base pub ss) {op : SlotOp}
    (hco : Conserves ss.slot op) (hop : ss.perform st op = some ss') :
    Taken cap base (pub + op.transients cap) ss' ∧ (op = .read → ss'.deltas.sum = pub) := by
  obtain ⟨rest, hr⟩ := h.untaken
  cases op with
  | publishBatch sample es =>
    obtain ⟨slot, hs, hse⟩ := bind_eq_some_iff.mp hop
    obtain rfl := some_inj.mp hse
    have ht := publishBatch_transients h.shown hs hco
    obtain ⟨hsh, hc⟩ := shown_publishBatch hs
    rw [h.cells, h.total, add_assoc] at ht
    refine ⟨⟨hc.trans h.cells, hsh, ht, h.latest, ?_⟩, nofun⟩
    exact ⟨rest + (SlotOp.publishBatch sample es).transients cap, by
      rw [hr, add_assoc]
      rfl⟩
  | clearLatest =>
    obtain ⟨slot, hs, hse⟩ := bind_eq_some_iff.mp hop
    obtain rfl := some_inj.mp hse
    obtain ⟨hsh, hz, hc⟩ := clearLatest_spec hs
    have ht : slot.interactionTransients = base + pub := hz.trans (hco.symm.trans h.total)
    rw [transients, add_zero]
    exact ⟨⟨(congrArg length hc).trans h.cells, hsh, ht, h.latest, rest, hr⟩,
      nofun⟩
  | read =>
    obtain ⟨read, hre, hse⟩ := bind_eq_some_iff.mp hop
    obtain rfl := some_inj.mp hse
    obtain ⟨ls, hl, hla⟩ := map_eq_some_iff.mp h.latest
    have hsu : (Session.mk ss.slot (ss.reads ++ [read])).deltas.sum = pub := by
      rw [deltas_concat ss.slot ss.reads hl, sum_append, sum_singleton,
        hla, readPublicationSince_transients hre, h.total, hr]
      exact add_deltaSince _ _ _
    rw [transients, add_zero]
    refine ⟨⟨h.cells, h.shown, h.total, ?_, 0, ?_⟩, fun _ => hsu⟩
    · rw [getLast?_concat, map_some, readPublicationSince_transients hre, h.total, hsu]
    · rw [hsu, add_zero]

/-- **A run** whose steps meet the condition. -/
theorem Taken.performAll (ops : List SlotOp) (h : Taken cap base pub ss) (hc : Conserving st ss ops)
    (hos : ss.performAll st ops = some ss') :
    Taken cap base (pub + (ops.map (transients cap)).sum) ss' ∧ (ops.getLast? = some .read →
        ss'.deltas.sum = pub + (ops.map (transients cap)).sum) := by
  induction ops generalizing ss pub with
  | nil =>
    obtain rfl := some_inj.mp hos
    simpa using h
  | cons op ops ih =>
    obtain ⟨nx, hop, hr⟩ := bind_eq_some_iff.mp hos
    obtain ⟨hs, hre⟩ := h.perform hc.1 hop
    rw [map_cons, sum_cons, ← add_assoc]
    obtain ⟨ht, hd⟩ := ih hs (hc.2 nx hop) hr
    refine ⟨ht, fun hl => ?_⟩
    cases ops with
    | nil =>
      obtain rfl := some_inj.mp hr
      have hop : op = .read := by simpa using hl
      rw [hre hop, hop]
      simp [transients]
    | cons second rest => exact hd (by simpa using hl)

/-- A slot shows what its writer has and keeps its capacity, whatever happens to it. -/
lemma shown_performAll (ops : List SlotOp) (hsh : ss.slot.Shown) (hc : ss.slot.eventSlots.length = cap)
    (hos : ss.performAll st ops = some ss') : ss'.slot.Shown ∧ ss'.slot.eventSlots.length = cap := by
  induction ops generalizing ss with
  | nil =>
    obtain rfl := some_inj.mp hos
    exact ⟨hsh, hc⟩
  | cons op ops ih =>
    obtain ⟨nx, hop, hr⟩ := performAll_cons.mp hos
    cases op with
    | publishBatch sample es =>
      obtain ⟨slot, hs, hn⟩ := bind_eq_some_iff.mp hop
      obtain rfl := some_inj.mp hn
      obtain ⟨hsh', hc'⟩ := shown_publishBatch hs
      exact ih hsh' (hc'.trans hc) hr
    | clearLatest =>
      obtain ⟨slot, hs, hn⟩ := bind_eq_some_iff.mp hop
      obtain rfl := some_inj.mp hn
      obtain ⟨hsh', -, hc'⟩ := clearLatest_spec hs
      exact ih hsh' ((congrArg length hc').trans hc) hr
    | read =>
      obtain ⟨read, -, hn⟩ := bind_eq_some_iff.mp hop
      obtain rfl := some_inj.mp hn
      have hsh' : (Session.mk ss.slot (ss.reads ++ [read])).slot.Shown := hsh
      exact ih hsh' hc hr

/-- The read a consumer attaches with takes no difference. -/
lemma taken_join (hsh : slot.Shown) (hc : slot.eventSlots.length = cap)
    (h : (join slot).perform st .read = some ss) :
    ss.deltas = [] ∧ Taken cap slot.interactionTransients 0 ss := by
  obtain ⟨read, hr, hs⟩ := bind_eq_some_iff.mp h
  obtain rfl := some_inj.mp hs
  have hn : (Session.mk slot [read]).deltas = [] := rfl
  refine ⟨hn, hc, hsh, (add_zero _).symm, ?_, 0, ?_⟩
  · simpa [join, deltas] using readPublicationSince_transients hr
  · change 0 = (Session.mk slot [read]).deltas.sum + 0
    rw [hn, sum_nil, add_zero]

end Session

open Session InputPublicationSlot in
/-- **Transient totals are conserved** in every run that meets the condition from the attachment
on. -/
theorem transients_conserved {capacity : Nat} {before after : List SlotOp} {start : Nat}
    {opened session : Session} (hbefore : (join (new capacity)).performAll start before = some opened)
    (hafter : (join opened.slot).performAll start after = some session)
    (hattach : after.head? = some .read) (hread : after.getLast? = some .read)
    (hconserving : Conserving start (join opened.slot) after) :
    session.deltas.sum = (after.map (transients capacity)).sum := by
  have hne : (join (new capacity)).slot.Shown := rfl
  obtain ⟨hs, hc⟩ := shown_performAll before hne length_replicate hbefore
  cases after with
  | nil => cases hattach
  | cons first rest =>
    have hf : first = .read := by simpa using hattach
    subst hf
    obtain ⟨next, hn, hr⟩ := performAll_cons.mp hafter
    have ht := taken_join hs hc hn
    cases rest with
    | nil =>
      obtain rfl := some_inj.mp hr
      simp [transients, ht.1]
    | cons second rest =>
      have hl := (ht.2.performAll _ (hconserving.2 next hn) hr).2 (by simpa using hread)
      rw [hl, map_cons (a := read), sum_cons]
      rfl

/-- A sample with some horizontal motion. -/
def moved (dx : ℚ) : InputData :=
  .interaction { (default : InteractionData) with
    batch := { (default : InteractionBatch) with
      motion := { (default : MotionAggregate) with dx := some dx } } }

/-- Two samples move by one each, with the totals cleared in between, and the consumer reads after
each of them. -/
def clearedBetween : List SlotOp :=
  [.read, .publishBatch (some (moved 1)) [], .read, .clearLatest, .publishBatch (some (moved 1)) [],
    .read]

open Session InputPublicationSlot in
/-- The consumer sees one of the two motions. -/
theorem cleared_totals_lost : ((join (new inputEventRingCapacity)).performAll u64Max clearedBetween).map
        (fun session => session.deltas.sum.dx) = some 1 ∧
      (clearedBetween.map (transients inputEventRingCapacity)).sum.dx = 2 := by
  decide +kernel

/-- A consumer attaches to a slot that has shown nothing yet, and samples with motion and an invalid
event come between its reads. -/
def clearedBefore : List SlotOp :=
  [.read, .clearLatest,
    .publishBatch (some (moved 1)) [⟨.midiRealtime "midi" .clock, 0, 0, none, 0⟩], .read,
    .publishBatch (some (moved 2)) [], .publishBatch (some (moved 3)) [], .read]

open Session InputPublicationSlot in
/-- Motion published before and after a read. -/
theorem transients_conserved_before :
    ∃ session : Session, (join (new 2)).performAll u64Max clearedBefore = some session ∧
      session.deltas.sum = (clearedBefore.map (transients 2)).sum :=
  ⟨_, rfl, @transients_conserved 2 [] clearedBefore u64Max _ _ rfl rfl rfl rfl (by decide +kernel)⟩

end Hypercolor.Input
