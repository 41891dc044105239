import Hypercolor.Lib.Machine
import Hypercolor.Lib.Reorder
import Hypercolor.Scenes.Types

/-!
# The order of scene commits

A commit is admitted under the next generation and closed later, in any order: with the events it
announces, or without any. The sequencer publishes the events of a generation once every older one is
closed.

The machine `sequencing` lets any tickets be admitted and closed in any order; each critical section is
one step. `closed` records how every generation was closed.

* **`announced_in_order`**: what is published are the events of the closed generations below the oldest
  open one, in their order; the closed ones above it are parked.
-/

namespace Hypercolor.Scenes

open Lib List AList Nat

variable {Bus Event : Type}

/-! ## The sequencer -/

/-- `SequencerState` -/
structure SequencerState (Event : Type) where
  revision : Nat
  releasedThrough : Nat
  parked : Table Nat (List Event)

/-- `SceneCommitSequencer::resuming` -/
def SequencerState.resuming (start : Nat) : SequencerState Event := ⟨start, start, ∅⟩

/-- `CommitTicket` -/
structure CommitTicket (Bus : Type) where
  bus : Bus
  generation : Nat
  released : Bool

/-- The sequencer with its open tickets, what was published on which bus, and how each generation was
closed. -/
structure Commits (Bus Event : Type) where
  sequencer : SequencerState Event
  tickets : List (CommitTicket Bus)
  published : List (Bus × Event)
  closed : Table Nat (List Event)

namespace Commits

variable (s : Commits Bus Event)

/-- `SceneCommitSequencer::admit` -/
def admitTicket (bus : Bus) : Option (Commits Bus Event) :=
  let generation := s.sequencer.revision + 1
  if generation ≤ u64Max then
    some { s with
      sequencer := { s.sequencer with revision := generation }
      tickets := s.tickets ++ [⟨bus, generation, false⟩] }
  else none

/-- `SceneCommitSequencer::fill` -/
def fill (generation : Nat) (events : List Event) (bus : Bus) : Commits Bus Event :=
  if generation ≤ s.sequencer.releasedThrough then s
  else
    let parked := s.sequencer.parked.insert generation events
    let (ready, parked, next) :=
      takeRun saturatingSucc parked (saturatingSucc s.sequencer.releasedThrough)
    { s with
      sequencer := { s.sequencer with parked, releasedThrough := next - 1 }
      published := s.published ++ ready.flatten.map fun event => (bus, event) }

variable (ticket : CommitTicket Bus)

/-- `Drop for CommitTicket` -/
def dropTicket : Commits Bus Event :=
  if ticket.released then s else s.fill ticket.generation [] ticket.bus

/-- `CommitTicket::release` -/
def release (events : List Event) : Commits Bus Event :=
  (s.fill ticket.generation events ticket.bus).dropTicket { ticket with released := true }

/-- `CommitTicket::discard` -/
def discard : Commits Bus Event := s.release ticket []

end Commits

/-- The critical sections of any callers. -/
inductive CommitOp (Bus Event : Type) where
  | admitTicket (bus : Bus)
  | release (index : Nat) (events : List Event)
  | discard (index : Nat)
  | drop (index : Nat)

/-- The ticket at an index is consumed, its generation closed with some events. -/
def Commits.close (s : Commits Bus Event) (index : Nat) (events : List Event)
    (consume : Commits Bus Event → CommitTicket Bus → Commits Bus Event) : Commits Bus Event :=
  match s.tickets[index]? with
  | none => s
  | some ticket =>
    let t := consume s ticket
    { t with tickets := s.tickets.eraseIdx index, closed := s.closed.insert ticket.generation events }

/-- One step; admission panics where the generations are exhausted. -/
def Commits.perform (s : Commits Bus Event) : CommitOp Bus Event → Option (Commits Bus Event)
  | .admitTicket bus => s.admitTicket bus
  | .release index events => some (s.close index events fun s ticket => s.release ticket events)
  | .discard index => some (s.close index [] fun s ticket => s.discard ticket)
  | .drop index => some (s.close index [] fun s ticket => s.dropTicket ticket)

/-- Any commits of a sequencer that starts from a revision. -/
def sequencing (start : Nat) : Machine (Commits Bus Event) (CommitOp Bus Event) where
  init s := s = ⟨.resuming start, [], [], ∅⟩
  step s op t := s.perform op = some t

/-! ## The invariant -/

namespace Commits

/-- The events of a generation that was closed. -/
def payload (s : Commits Bus Event) (generation : Nat) : List Event :=
  (s.closed.lookup generation).getD []

/-- What is known between critical sections. -/
structure Ordered (start : Nat) (s : Commits Bus Event) : Prop where
  begun : start ≤ s.sequencer.releasedThrough
  through : s.sequencer.releasedThrough ≤ s.sequencer.revision
  unreleased : ∀ ticket ∈ s.tickets, ticket.released = false
  distinct : (s.tickets.map (·.generation)).Nodup
  open_ : ∀ ticket ∈ s.tickets, s.sequencer.releasedThrough < ticket.generation ∧
    ticket.generation ≤ s.sequencer.revision ∧ ticket.generation ∉ s.closed
  admitted : ∀ generation, start < generation → generation ≤ s.sequencer.revision →
    generation ∈ s.closed ∨ ∃ ticket ∈ s.tickets, ticket.generation = generation
  closed : ∀ generation ∈ s.closed, start < generation ∧ generation ≤ s.sequencer.revision
  released : ∀ generation, start < generation → generation ≤ s.sequencer.releasedThrough →
    generation ∈ s.closed
  next : s.sequencer.releasedThrough + 1 ∉ s.closed
  parked : ∀ generation, s.sequencer.parked.lookup generation =
    if s.sequencer.releasedThrough < generation then s.closed.lookup generation else none
  published : s.published.map Prod.snd = (range' (start + 1)
    (s.sequencer.releasedThrough - start)).flatMap s.payload

end Commits

variable {start : Nat} {s t : Commits Bus Event}

lemma ordered_new : Commits.Ordered start (⟨.resuming start, [], [], ∅⟩ : Commits Bus Event) where
  begun := Nat.le_refl _
  through := Nat.le_refl _
  unreleased := nofun
  distinct := .nil
  open_ := nofun
  admitted := fun gen hl hle => absurd hle (Nat.not_le.mpr hl)
  closed := nofun
  released := fun gen hl hle => absurd hle (Nat.not_le.mpr hl)
  next := nofun
  parked := fun gen => by split <;> rfl
  published := by
    rw [show (SequencerState.resuming start : SequencerState Event).releasedThrough - start = 0
      from Nat.sub_self start]
    rfl

lemma Commits.Ordered.admitTicket (h : s.Ordered start) {bus : Bus} (had : s.admitTicket bus = some t) :
    t.Ordered start := by
  obtain ⟨-, he⟩ := Option.ite_none_right_eq_some.mp had
  obtain rfl := Option.some_inj.mp he
  have hth := h.through
  have hf : s.sequencer.revision + 1 ∉ s.closed := fun hm => by
    have := (h.closed _ hm).2
    omega
  refine ⟨h.begun, le_succ_of_le h.through, ?_, ?_, ?_, ?_, ?_, h.released, h.next, h.parked, h.published⟩
  · intro tk hm
    rcases mem_append.mp hm with hm | hm
    · exact h.unreleased tk hm
    · rw [mem_singleton.mp hm]
  · rw [map_append]
    refine nodup_append.mpr ⟨h.distinct, nodup_singleton _, ?_⟩
    intro a ha b hb
    obtain ⟨tk, ht, rfl⟩ := mem_map.mp ha
    have := (h.open_ tk ht).2.1
    rw [mem_singleton.mp hb]
    dsimp only
    omega
  · intro tk hm
    rcases mem_append.mp hm with hm | hm
    · obtain ⟨hl, hle, hon⟩ := h.open_ tk hm
      exact ⟨hl, le_succ_of_le hle, hon⟩
    · rw [mem_singleton.mp hm]
      exact ⟨lt_succ_of_le hth, le_refl _, hf⟩
  · intro gen hl hle
    rcases lt_or_ge s.sequencer.revision gen with hn | hold
    · refine .inr ⟨_, mem_append_right _ (mem_singleton_self _), ?_⟩
      dsimp only at hle ⊢
      omega
    · rcases h.admitted gen hl hold with hc | ⟨tk, ht, he⟩
      · exact .inl hc
      · exact .inr ⟨tk, mem_append_left _ ht, he⟩
  · intro gen hm
    exact ⟨(h.closed gen hm).1, le_succ_of_le (h.closed gen hm).2⟩

lemma flatten_filterMap {α β : Type} (f : α → Option (List β)) (l : List α) :
    (l.filterMap f).flatten = l.flatMap fun a => (f a).getD [] := by
  induction l with
  | nil => rfl
  | cons a l ih =>
    rw [filterMap_cons, flatMap_cons]
    cases f a with
    | none => exact ih
    | some b => rw [flatten_cons, ih]; rfl

/-- A ticket that is consumed fills its slot, with the generations up to the next open one. -/
lemma Commits.Ordered.fill (h : s.Ordered start) (hli : s.sequencer.revision < u64Max)
    {i : Nat} {tk : CommitTicket Bus} (hg : s.tickets[i]? = some tk) (es : List Event) :
    Commits.Ordered start { s.fill tk.generation es tk.bus with
      tickets := s.tickets.eraseIdx i
      closed := s.closed.insert tk.generation es } := by
  have hm := mem_of_getElem? hg
  obtain ⟨hon, hre, hfr⟩ := h.open_ tk hm
  have hbe := h.begun
  -- above the released generations, what is parked is what is closed
  have hp : ∀ g, s.sequencer.releasedThrough < g → (s.sequencer.parked.insert tk.generation es).lookup g =
        (s.closed.insert tk.generation es).lookup g := by
    intro g hlt
    by_cases he : g = tk.generation
    · rw [he, lookup_insert, lookup_insert]
    · rw [lookup_insert_ne he, lookup_insert_ne he, h.parked, if_pos hlt]
  have hc : ∀ g ∈ s.closed.insert tk.generation es, start < g ∧ g ≤ s.sequencer.revision := by
    intro g hm
    rcases (mem_insert _).mp hm with rfl | hm
    · exact ⟨by omega, hre⟩
    · exact h.closed g hm
  have hsu : ∀ g ∈ s.sequencer.parked.insert tk.generation es, saturatingSucc g = g + 1 := by
    intro g hm
    have hle : g ≤ s.sequencer.revision := by
      rcases (mem_insert _).mp hm with rfl | hm
      · exact hre
      · have hs := lookup_isSome.mpr hm
        rw [h.parked] at hs
        split at hs
        · exact (h.closed g (lookup_isSome.mp hs)).2
        · cases hs
    exact min_eq_left (by omega)
  have hru := @takeRun_spec _ _ _ (s.sequencer.releasedThrough + 1) hsu
  rw [Commits.fill, if_neg (not_le.mpr hon)]
  have hnx : saturatingSucc s.sequencer.releasedThrough = s.sequencer.releasedThrough + 1 :=
    min_eq_left (by omega)
  dsimp only
  rw [hnx]
  generalize takeRun saturatingSucc (s.sequencer.parked.insert tk.generation es)
    (s.sequencer.releasedThrough + 1) = run at hru ⊢
  obtain ⟨ready, rest, stop⟩ := run
  obtain ⟨hle, hrd, hf, hst, hr⟩ := hru
  dsimp only at hle hrd hf hst hr ⊢
  have ht : ∀ g, s.sequencer.releasedThrough < g → g < stop →
      g ∈ s.closed.insert tk.generation es := fun g hlt hst => by
    rw [← lookup_isSome, ← hp g hlt]
    exact lookup_isSome.mpr (hf g hlt hst)
  have hpe := getElem_cons_eraseIdx_perm (List.getElem?_eq_some_iff.mp hg).1
  rw [(List.getElem?_eq_some_iff.mp hg).2] at hpe
  have hd := (hpe.map (·.generation)).nodup_iff.mpr h.distinct
  obtain ⟨hne, hd⟩ := nodup_cons.mp hd
  refine ⟨?_, ?_, ?_, hd, ?_, ?_, hc, ?_, ?_, ?_, ?_⟩
  · dsimp only
    omega
  · by_cases hmo : s.sequencer.releasedThrough + 1 < stop
    · have := (hc _ (ht (stop - 1) (by omega) (by omega))).2
      exact this
    · dsimp only
      omega
  · exact fun o hoh => h.unreleased o (mem_of_mem_eraseIdx hoh)
  · intro o hoh
    obtain ⟨hlt, hle', hon'⟩ := h.open_ o (mem_of_mem_eraseIdx hoh)
    have hn : o.generation ∉ s.closed.insert tk.generation es := by
      intro hm'
      rcases (mem_insert _).mp hm' with he | hm'
      · exact hne (mem_map.mpr ⟨o, hoh, he⟩)
      · exact hon' hm'
    refine ⟨?_, hle', hn⟩
    by_contra hge
    exact hn (ht _ hlt (by dsimp only at hge; omega))
  · intro g hlt hle'
    rcases h.admitted g hlt hle' with hold | ⟨o, hoh, he⟩
    · exact .inl ((mem_insert _).mpr (.inr hold))
    · rcases mem_cons.mp (hpe.mem_iff.mpr hoh) with rfl | hoh
      · exact .inl ((mem_insert _).mpr (.inl he.symm))
      · exact .inr ⟨o, hoh, he⟩
  · intro g hlt hle'
    rcases lt_or_ge s.sequencer.releasedThrough g with ha | hb
    · exact ht g ha (by dsimp only at hle'; omega)
    · exact (mem_insert _).mpr (.inr (h.released g hlt hb))
  · rw [show stop - 1 + 1 = stop by omega, ← lookup_eq_none, ← hp stop hle]
    exact lookup_eq_none.mpr hst
  · intro g
    dsimp only
    rw [hr]
    by_cases ha : s.sequencer.releasedThrough < g
    · rw [hp g ha]
      by_cases hlt : g < stop
      · rw [if_pos ⟨ha, hlt⟩, if_neg (by omega)]
      · rw [if_neg (fun hand => hlt hand.2), if_pos (by omega)]
    · rw [if_neg (fun hand => ha hand.1), if_neg (by omega),
        lookup_insert_ne (by omega), h.parked, if_neg ha]
  · rw [show stop - 1 - start = (s.sequencer.releasedThrough - start) +
      (stop - (s.sequencer.releasedThrough + 1)) by omega, ← List.range'_append_1,
      flatMap_append, map_append, h.published]
    refine congrArg₂ (· ++ ·) (flatMap_congr fun g hm' => ?_) ?_
    · have hl := (mem_range'_1.mp hm').2
      rw [Commits.payload, Commits.payload]
      rw [lookup_insert_ne (by omega)]
    · rw [map_map, show (Prod.snd ∘ fun e => (tk.bus, e)) = id from rfl, map_id, hrd, flatten_filterMap,
        show start + 1 + (s.sequencer.releasedThrough - start) = s.sequencer.releasedThrough + 1 by omega]
      refine flatMap_congr fun g hm' => ?_
      have hl := (mem_range'_1.mp hm').1
      exact congrArg (·.getD []) (hp g hl)

lemma Commits.release_eq (tk : CommitTicket Bus) (es : List Event) :
    s.release tk es = s.fill tk.generation es tk.bus := by
  rw [Commits.release, Commits.dropTicket, if_pos rfl]

variable {consume : Commits Bus Event → CommitTicket Bus → Commits Bus Event}

/-- However a ticket is consumed, its slot is filled. -/
lemma Commits.Ordered.close (h : s.Ordered start) (hl : s.sequencer.revision < u64Max)
    (i : Nat) (es : List Event) (hc : ∀ tk ∈ s.tickets, consume s tk = s.fill tk.generation es
      tk.bus) : (s.close i es consume).Ordered start := by
  unfold Commits.close
  split
  · exact h
  · rename_i tk hg
    rw [hc tk (mem_of_getElem? hg)]
    exact h.fill hl hg es

/-! ## Whole runs -/

lemma revision_close (i : Nat) (es : List Event)
    (hc : ∀ ticket, (consume s ticket).sequencer.revision = s.sequencer.revision) :
    (s.close i es consume).sequencer.revision = s.sequencer.revision := by
  unfold Commits.close
  split
  · rfl
  · exact hc _

lemma revision_fill (gen : Nat) (es : List Event) (bus : Bus) :
    (s.fill gen es bus).sequencer.revision = s.sequencer.revision := by
  unfold Commits.fill
  split <;> rfl

lemma revision_dropTicket (tk : CommitTicket Bus) :
    (s.dropTicket tk).sequencer.revision = s.sequencer.revision := by
  unfold Commits.dropTicket
  split
  · rfl
  · exact revision_fill ..

variable {op : CommitOp Bus Event}

/-- The revision never goes back. -/
lemma revision_le_of_perform (h : s.perform op = some t) :
    s.sequencer.revision ≤ t.sequencer.revision := by
  cases op with
  | admitTicket bus =>
    obtain ⟨-, he⟩ := Option.ite_none_right_eq_some.mp h
    rw [← Option.some_inj.mp he]
    exact le_succ _
  | release i es | discard i =>
    rw [← Option.some_inj.mp h]
    refine le_of_eq (revision_close _ _ fun tk => ?_).symm
    exact (revision_dropTicket _).trans (revision_fill ..)
  | drop i =>
    rw [← Option.some_inj.mp h]
    exact le_of_eq (revision_close _ _ revision_dropTicket).symm

lemma Commits.Ordered.perform (h : s.Ordered start) (hl : s.sequencer.revision < u64Max)
    (hop : s.perform op = some t) : t.Ordered start := by
  cases op with
  | admitTicket bus => exact h.admitTicket hop
  | release i es | discard i =>
    obtain rfl := Option.some_inj.mp hop
    exact h.close hl i _ fun tk _ => Commits.release_eq ..
  | drop i =>
    obtain rfl := Option.some_inj.mp hop
    exact h.close hl i [] fun tk hm => if_neg (by rw [h.unreleased tk hm]; exact nofun)

lemma ordered_of_reachable (h : (sequencing start).Reachable s)
    (hl : s.sequencer.revision < u64Max) : s.Ordered start := by
  induction h with
  | init hi =>
    obtain rfl := hi
    exact ordered_new
  | step _ hs ih =>
    have hb := lt_of_le_of_lt (revision_le_of_perform hs) hl
    exact (ih hb).perform hb hs

/-- **Commits are announced in the order of their admission**, at every state between two critical
sections, as long as the generations last: what was published is what the generations through
`releasedThrough` were closed with, one after the other; those are the generations with no open one
among them and the older ones; the closed generations above the oldest open one are parked. With no
ticket open nothing is parked. -/
theorem announced_in_order (h : (sequencing start).Reachable s)
    (hlimit : s.sequencer.revision < u64Max) : s.published.map Prod.snd =
      (range' (start + 1) (s.sequencer.releasedThrough - start)).flatMap s.payload ∧
    (∀ generation, start < generation → generation ≤ s.sequencer.revision →
      (generation ≤ s.sequencer.releasedThrough ↔
        ∀ older, start < older → older ≤ generation → older ∈ s.closed)) ∧
    (∀ generation, start < generation → generation ≤ s.sequencer.revision →
      (generation ∈ s.closed ↔ ∀ ticket ∈ s.tickets, ticket.generation ≠ generation)) ∧
    (∀ generation events, s.sequencer.parked.lookup generation = some events ↔
      s.closed.lookup generation = some events ∧ ∃ ticket ∈ s.tickets, ticket.generation < generation) ∧
    (s.tickets = [] → s.sequencer.parked = ∅ ∧ s.sequencer.releasedThrough = s.sequencer.revision) := by
  have hor := ordered_of_reachable h hlimit
  have hth := hor.through
  have hp : ∀ generation events, s.sequencer.parked.lookup generation = some events ↔
      s.closed.lookup generation = some events ∧
        ∃ ticket ∈ s.tickets, ticket.generation < generation := by
    intro generation events
    rw [hor.parked]
    constructor
    · intro hl
      obtain ⟨hlt, hl⟩ := Option.ite_none_right_eq_some.mp hl
      have hm := lookup_isSome.mp (Option.isSome_of_mem hl)
      -- the generation after the released ones is still open
      have hne : generation ≠ s.sequencer.releasedThrough + 1 := fun heq => hor.next (heq ▸ hm)
      have hle := (hor.closed generation hm).2
      have hb := hor.begun
      rcases hor.admitted (s.sequencer.releasedThrough + 1) (by omega) (by omega) with
        hc | ⟨ticket, ht, heq⟩
      · exact absurd hc hor.next
      · exact ⟨hl, ticket, ht, by omega⟩
    · rintro ⟨hl, ticket, ht, hlt⟩
      rw [if_pos (lt_trans (hor.open_ ticket ht).1 hlt), hl]
  refine ⟨hor.published, ?_, ?_, hp, ?_⟩
  · intro generation hlt hle
    constructor
    · exact fun hr older hs holder =>
        hor.released older hs (le_trans holder hr)
    · intro ha
      by_contra hpe
      have hb := hor.begun
      exact hor.next (ha _ (by omega) (by omega))
  · intro generation hlt hle
    constructor
    · rintro hc ticket ht rfl
      exact (hor.open_ ticket ht).2.2 hc
    · intro hn
      rcases hor.admitted generation hlt hle with hc | ⟨ticket, ht, heq⟩
      · exact hc
      · exact absurd heq (hn ticket ht)
  · intro hn
    refine ⟨Table.eq_empty fun generation hm => ?_, ?_⟩
    · obtain ⟨events, he⟩ := Table.exists_lookup hm
      obtain ⟨-, ticket, ht, -⟩ := (hp generation events).mp he
      rw [hn] at ht
      cases ht
    · by_contra hne
      have hb := hor.begun
      rcases hor.admitted (s.sequencer.releasedThrough + 1) (by omega) (by omega) with
        hc | ⟨ticket, ht, -⟩
      · exact hor.next hc
      · rw [hn] at ht
        cases ht

/-- The second of two commits is closed first and waits for the first one. -/
theorem announced_in_order_reversed : ∃ s : Commits Unit Nat,
      [CommitOp.admitTicket (), .admitTicket (), .release 1 [7], .release 0 [5]].foldlM Commits.perform
        ⟨.resuming 0, [], [], ∅⟩ = some s ∧ s.published.map Prod.snd = [5, 7] ∧
      s.published.map Prod.snd = (range' 1 2).flatMap s.payload ∧
      s.sequencer.parked = ∅ ∧ s.sequencer.releasedThrough = s.sequencer.revision := by
  have hr : [CommitOp.admitTicket (), .admitTicket (), .release 1 [7], .release 0 [5]].foldlM
      Commits.perform
    (⟨.resuming 0, [], [], ∅⟩ : Commits Unit Nat) = some _ := rfl
  have h := @announced_in_order _ _ 0 _ (.foldlM (fun _ _ _ => id) (.init rfl) hr) (by decide)
  exact ⟨_, hr, rfl, h.1, h.2.2.2.2 rfl⟩

end Hypercolor.Scenes
