import Hypercolor.LayoutBuilder.World

/-!
# Ledgers against the daemon

What holds in every run in which the daemon is steady about every write (`World.inv`):

* the line of every write is at the end of a steady run of its own, since each step of the world is a
  step of that line, or none (**`World.line_step`**);
* every ledger has its intents in order, its confirmed zone read or answered, and a write out that
  carries what it says (`ZoneLedger.Accounted`), of which each operation keeps its part;
* a write that the ledgers settled can not be committed any more: its fence is past, or the daemon
  always refuses it (`Inv.closed`).
-/

set_option linter.unusedSectionVars false

namespace Hypercolor.LayoutBuilder

open Lib List Option Nat Function SceneLedgers
open Idempotency (KeySlot)

/-! ## The daemon's time -/

namespace Moment

variable {m m' : Moment} {run : String} {rev : Nat}

/-- The write cannot be committed any more. -/
def Past {N L : Type} (m : Moment) (write : Write N L) : Prop :=
  m.run ≠ write.run ∨ write.fence < m.revision

/-- Time goes on: the same run at least as far, or a run that is new. -/
def Later (m m' : Moment) : Prop :=
  m'.run = m.run ∧ m'.past = m.past ∧ m.revision ≤ m'.revision ∨
    m'.past = m.run :: m.past ∧ m'.run ∉ m'.past

lemma Later.refl (m : Moment) : m.Later m := .inl ⟨rfl, rfl, le_rfl⟩

lemma Has.later (h : m.Has run rev) (hl : m.Later m') : m'.Has run rev := by
  rcases hl with ⟨hr, hp, hle⟩ | ⟨hp, -⟩
  · rcases h with ⟨hn, hold⟩ | hov
    · exact .inl ⟨hn.trans hr.symm, hold.trans hle⟩
    · exact .inr (hp ▸ hov)
  · rcases h with ⟨hn, -⟩ | hov
    · exact .inr (hp ▸ hn ▸ mem_cons_self)
    · exact .inr (hp ▸ mem_cons_of_mem _ hov)

/-- A write of a run that is known stays past. -/
lemma Past.later {N L : Type} {wr : Write N L} (h : m.Past wr)
    (hk : m.Has wr.run wr.fence) (hl : m.Later m') : m'.Past wr := by
  rcases hl with ⟨hr, -, hle⟩ | ⟨hp, hn⟩
  · rcases h with hoh | hpa
    · exact .inl (hr ▸ hoh)
    · exact .inr (hpa.trans_le hle)
  · left
    intro hs
    refine hn ?_
    rw [hs, hp]
    rcases hk with ⟨hno, -⟩ | hov
    · exact hno ▸ mem_cons_self
    · exact mem_cons_of_mem _ hov

end Moment

/-! ## What a ledger has to show -/

variable {rev id : Nat}

namespace ZoneLedger

variable {N L : Type} [BEq N] {s s' : World N L} {run : String} {sc : Option Nat} {z : String}
  {l l' : ZoneLedger N L}

/-- The intents are in order. What is confirmed was read, or is no newer than the last answer. The
write that is out carries every intent from before it; one whose key can settle it is of the ledgers'
run, and the ledger counts its unanswered attempts; one that lapsed cannot be committed any more. -/
structure Accounted (s : World N L) (run : String) (scene : Option Nat) (zoneId : String)
    (l : ZoneLedger N L) : Prop where
  sorted : InOrder l.pending
  bounded : ∀ intent ∈ l.pending, intent.seq ≤ s.seq
  known : l.reanchor = false → ∀ c, l.confirmed = some c → s.now.Has run c.revision
  seen : l.reanchor = false → ∀ c, l.confirmed = some c →
    (zoneId, c.shown) ∈ s.reads ∨ s.heard.Has run c.revision
  carried : ∀ sent, l.sent = some sent → sent.through ≤ s.seq ∧ ∃ i ∈ s.posted,
    i.write = sent.write ∧ i.zoneId = zoneId ∧
      ∀ intent ∈ l.pending, intent.seq ≤ sent.through → intent ∈ i.carried
  out : ∀ sent, l.sent = some sent → sent.lapsed = none →
    sent.write.run = run ∧ l.reanchor = false
  asked : ∀ sent, l.sent = some sent → sent.lapsed = none →
    sent.unanswered + (if (s.calls sent.write.id).awaiting then 1 else 0) =
      (s.calls sent.write.id).unanswered + 1
  past : ∀ sent, l.sent = some sent → sent.lapsed ≠ none → s.now.Past sent.write

lemma Accounted.empty : Accounted s run sc z ({} : ZoneLedger N L) :=
  ⟨.nil, nofun, nofun, nofun, nofun, nofun, nofun, nofun⟩

section

variable (h : l.Accounted s run sc z)
include h

namespace Accounted

/-- Time goes on elsewhere. -/
lemma mono (hf : ∀ i ∈ s.posted, s.now.Has i.write.run i.write.fence)
    (hn : s.now.Later s'.now) (hh : ∀ r v, s.heard.Has r v → s'.heard.Has r v)
    (hse : s.seq ≤ s'.seq) (hp : ∀ i ∈ s.posted, i ∈ s'.posted) (hr : ∀ read ∈ s.reads, read ∈ s'.reads)
    (hca : ∀ sent, l.sent = some sent → sent.lapsed = none → (s'.calls sent.write.id).awaiting
      = (s.calls sent.write.id).awaiting ∧ (s'.calls sent.write.id).unanswered = (s.calls
      sent.write.id).unanswered) : l.Accounted s' run sc z := by
  refine ⟨h.sorted, fun it hin => (h.bounded it hin).trans hse,
    fun ha c hc => (h.known ha c hc).later hn,
    fun ha c hc => (h.seen ha c hc).imp (hr _) (hh _ _),
    fun sent hs => ?_, h.out, fun sent hs hon => ?_, fun sent hs hl => ?_⟩
  · obtain ⟨ht, i, hi, hw⟩ := h.carried sent hs
    exact ⟨ht.trans hse, i, hp i hi, hw⟩
  · obtain ⟨haw, hu⟩ := hca sent hs hon
    rw [haw, hu]
    exact h.asked sent hs hon
  · obtain ⟨-, i, hi, hw, -⟩ := h.carried sent hs
    exact (h.past sent hs hl).later (hw ▸ hf i hi) hn

/-- What takes no more than pending intents, and from the write that is out only the way it can be
settled. -/
lemma of_sent (hco : l'.confirmed = l.confirmed)
    (hr : l'.reanchor = l.reanchor) (hp : l'.pending.Sublist l.pending)
    (hs : ∀ sent', l'.sent = some sent' → ∃ sent, l.sent = some sent ∧ sent'.write = sent.write
      ∧ sent'.through = sent.through ∧ (sent'.lapsed = none → sent.lapsed = none ∧
      sent'.unanswered = sent.unanswered) ∧ (sent'.lapsed ≠ none → sent.lapsed ≠ none ∨ s.now.Past
      sent.write)) : l'.Accounted s run sc z := by
  refine ⟨h.sorted.sublist hp, fun it hin => h.bounded it (hp.subset hin),
    ?_, ?_, fun sent' hs' => ?_, fun sent' hs' hon => ?_, fun sent' hs' hon => ?_,
    fun sent' hs' hl => ?_⟩
  · rw [hco, hr]
    exact h.known
  · rw [hco, hr]
    exact h.seen
  · obtain ⟨sent, hold, hw, ht, -⟩ := hs sent' hs'
    obtain ⟨hle, i, hi, hiss, hz, hc⟩ := h.carried sent hold
    rw [hw, ht]
    exact ⟨hle, i, hi, hiss, hz, fun it hin => hc it (hp.subset hin)⟩
  · obtain ⟨sent, hold, hw, -, hsa, -⟩ := hs sent' hs'
    rw [hw, hr]
    exact h.out sent hold (hsa hon).1
  · obtain ⟨sent, hold, hw, -, hsa, -⟩ := hs sent' hs'
    rw [hw, (hsa hon).2]
    exact h.asked sent hold (hsa hon).1
  · obtain ⟨sent, hold, hw, -, -, hpa⟩ := hs sent' hs'
    rw [hw]
    rcases hpa hl with hb | hn
    · exact h.past sent hold hb
    · exact hn

/-- The write that is out stays as it is. -/
lemma of_pending (hc : l'.confirmed = l.confirmed)
    (hr : l'.reanchor = l.reanchor) (hp : l'.pending.Sublist l.pending)
    (hs : ∀ sent, l'.sent = some sent → l.sent = some sent) : l'.Accounted s run sc z :=
  h.of_sent hc hr hp fun sent hou =>
    ⟨sent, hs sent hou, rfl, rfl, fun hon => ⟨hon, rfl⟩, .inl⟩

lemma settle (id : Nat) : (l.settle id).Accounted s run sc z :=
  h.of_pending rfl rfl (.refl _) fun _ hou => (filter_eq_some_iff.mp hou).1

lemma retire (th : Nat) : (l.retire th).Accounted s run sc z :=
  h.of_pending rfl rfl filter_sublist fun _ => id

lemma forget (ids : List String) (th : Nat) : (l.forget ids th).Accounted s run sc z :=
  h.of_pending rfl rfl filter_sublist fun _ => id

lemma adopt (raw : List (Output N L)) {shown : List (Output N L)} (hkn : s.now.Has run rev)
    (hs : (z, shown) ∈ s.reads ∨ s.heard.Has run rev) :
        (l.adopt rev raw shown).1.Accounted s run sc z := by
  have hk : { l with pending := (l.adopt rev raw shown).1.pending }.Accounted s run sc z :=
    h.of_pending rfl rfl filter_sublist fun _ => id
  refine ⟨hk.sorted, hk.bounded, fun _ c hc => ?_, fun _ c hc => ?_, hk.carried, hk.out, hk.asked,
    hk.past⟩
  · obtain rfl := some.inj hc
    exact hkn
  · obtain rfl := some.inj hc
    exact hs

/-- A ledger that waits to re-anchor has no write out that its key can settle. -/
lemma anchor (hr : l.reanchor) :
    { l with reanchor := false, confirmed := none }.Accounted s run sc z := by
  refine ⟨h.sorted, h.bounded, nofun, nofun, h.carried, fun sent hs hon => ?_, h.asked, h.past⟩
  rw [(h.out sent hs hon).2] at hr
  cases hr

end Accounted

end

namespace Accounted

lemma confirm (h : l.Accounted s run sc z) (raw : List (Output N L))
    {shown : List (Output N L)} (hk : s.now.Has run rev) (hs : (z, shown) ∈ s.reads) :
    (l.confirm rev raw shown).1.Accounted s run sc z := by
  unfold ZoneLedger.confirm
  split_ifs with hr
  · exact (h.anchor hr).adopt raw hk (.inl hs)
  · exact h
  · exact h.adopt raw hk (.inl hs)

lemma settleEnded (h : l.Accounted s run sc z) (raw : List (Output N L))
    {shown : List (Output N L)} (hk : s.now.Has run rev) (hs : (z, shown) ∈ s.reads) :
    (l.settleEnded rev raw shown).1.Accounted s run sc z := by
  unfold ZoneLedger.settleEnded
  split
  · refine confirm ?_ raw hk hs
    exact h.of_pending rfl rfl filter_sublist nofun
  · exact h

lemma refetched (h : l.Accounted s run sc z) (raw : List (Output N L))
    {shown : List (Output N L)} (hk : s.now.Has run rev) (hs : (z, shown) ∈ s.reads) :
    (l.refetched rev raw shown).1.Accounted s run sc z := by
  have hc := h.confirm raw hk hs
  unfold ZoneLedger.refetched
  dsimp only
  split
  · exact hc
  · exact hc.of_pending rfl rfl filter_sublist fun _ => id

/-- Nothing of the old run can be committed once the ledgers leave it. -/
lemma startReanchor (h : l.Accounted s run sc z)
    (hov : run ≠ "" → s.now.run ≠ run) (hna : ∀ i ∈ s.posted, i.write.run ≠ "") (run' : String) :
    l.startReanchor.Accounted s run' sc z := by
  refine ⟨h.sorted, h.bounded, nofun, nofun, fun sent' hs' => ?_, fun sent' hs' hon => ?_,
    fun sent' hs' hon => ?_, fun sent' hs' _ => ?_⟩
  · obtain ⟨sent, hs, rfl⟩ := map_eq_some_iff.mp hs'
    exact h.carried sent hs
  · obtain ⟨sent, hs, rfl⟩ := map_eq_some_iff.mp hs'
    cases hon
  · obtain ⟨sent, hs, rfl⟩ := map_eq_some_iff.mp hs'
    cases hon
  · obtain ⟨sent, hs, rfl⟩ := map_eq_some_iff.mp hs'
    by_cases hon : sent.lapsed = none
    · left
      have hr := (h.out sent hs hon).1
      obtain ⟨-, i, hi, hw, -⟩ := h.carried sent hs
      have hn := hna i hi
      rw [hw, hr] at hn
      show s.now.run ≠ sent.write.run
      rw [hr]
      exact hov hn
    · exact h.past sent hs hon

end Accounted

end ZoneLedger

/-! ## Edits, answers and writes -/

variable {landed sc : Option Nat}

namespace ZoneLedger

variable {N L : Type} [BEq N] {s : World N L} {run : String} {z : String} {l : ZoneLedger N L}

lemma mem_intentsFrom {seq : Nat} {changes : List (String × Field × Value N)} {it : Intent N}
    (h : it ∈ intentsFrom seq changes) : seq < it.seq ∧ it.seq ≤ seq + changes.length := by
  obtain ⟨⟨ch, k⟩, hm, rfl⟩ := mem_map.mp h
  have hl := (mem_zipIdx hm).2.1
  exact ⟨by dsimp only; omega, by dsimp only; omega⟩

lemma inOrder_intentsFrom (seq : Nat) (changes : List (String × Field × Value N)) :
    InOrder (intentsFrom seq changes) := by
  refine pairwise_iff_getElem.mpr fun i j hi hj hl => ?_
  simp only [intentsFrom, getElem_map, getElem_zipIdx, zero_add]
  omega

section

variable (h : l.Accounted s run sc z)
include h

/-- **An edit** adds intents that are newer than every other. -/
theorem Accounted.edit (ed : List (Output N L)) :
    (l.edit s.seq ed).1.Accounted { s with seq := (l.edit s.seq ed).2.1 } run sc z := by
  unfold ZoneLedger.edit
  split
  · exact h
  · refine ⟨pairwise_append.mpr ⟨h.sorted, inOrder_intentsFrom _ _, fun a ha b hb => ?_⟩,
      fun it hin => ?_, h.known, h.seen, fun sent hs => ?_, h.out, h.asked, h.past⟩
    · exact (h.bounded a ha).trans_lt (mem_intentsFrom hb).1
    · rcases mem_append.mp hin with hold | hn
      · exact (h.bounded it hold).trans (le_add_right _ _)
      · exact (mem_intentsFrom hn).2
    · obtain ⟨ht, i, hi, hw, hz, hc⟩ := h.carried sent hs
      refine ⟨ht.trans (le_add_right _ _), i, hi, hw, hz, fun it hin hl => ?_⟩
      rcases mem_append.mp hin with hold | hn
      · exact hc it hold hl
      · have hlt := (mem_intentsFrom hn).1
        omega

lemma Accounted.advance {before after : Nat}
    (hn : ∀ c, l.confirmed = some c → l.reanchor = false → s.now.Has run after)
    (hh : ∀ c, l.confirmed = some c → l.reanchor = false → s.heard.Has run after) :
    (l.advance before after).Accounted s run sc z := by
  unfold ZoneLedger.advance
  split_ifs with hr
  · exact h
  · refine ⟨h.sorted, h.bounded, fun ha c hc => ?_, fun ha c hc => ?_, h.carried, h.out, h.asked, h.past⟩
    · obtain ⟨old, hold, rfl⟩ := map_eq_some_iff.mp hc
      split_ifs
      · exact hn old hold ha
      · exact h.known ha old hold
    · obtain ⟨old, hold, rfl⟩ := map_eq_some_iff.mp hc
      split_ifs
      · exact .inr (hh old hold ha)
      · exact h.seen ha old hold

/-- A write that lapses can not be committed any more. -/
lemma Accounted.stranded (why : Lapse)
    (hp : ∀ sent, l.sent = some sent → sent.write.id = id → s.now.Past sent.write) :
    (l.stranded id why).Accounted s run sc z := by
  refine h.of_sent rfl rfl (.refl _) fun sent' hs' => ?_
  obtain ⟨sent, hs, rfl⟩ := map_eq_some_iff.mp hs'
  refine ⟨sent, hs, ?_⟩
  split_ifs with hi
  · exact ⟨rfl, rfl, nofun, fun _ => .inr (hp sent hs hi)⟩
  · exact ⟨rfl, rfl, fun hon => ⟨hon, rfl⟩, .inl⟩

/-- The write of the id has lapsed, if it is out. Then it does not matter whether it is waited for. -/
lemma Accounted.applied (raw : List (Output N L)) {shown : List (Output N L)}
    (hla : ∀ sent rev, l.sent = some sent → sent.write.id = id → sent.lapsed = none →
      landed = some rev → s.now.Has run rev ∧ s.heard.Has run rev) :
    (l.applied id landed raw shown).1.Accounted s run sc z := by
  unfold ZoneLedger.applied
  split
  · exact h
  · rename_i sent hf
    obtain ⟨hs, hi⟩ := filter_eq_some_iff.mp hf
    split_ifs with hl
    · refine h.of_sent rfl rfl (.refl _) fun sent' hs' => ?_
      obtain rfl := some.inj hs'
      exact ⟨sent, hs, rfl, rfl, fun hon => ⟨hon, rfl⟩, .inl⟩
    · have hse := (h.settle id).retire sent.through
      dsimp only
      split
      · exact hse
      · rename_i rev
        obtain ⟨hn, hh⟩ := hla sent rev hs (of_decide_eq_true hi) (by simpa using hl) rfl
        split_ifs
        · exact hse.adopt raw hn (.inr hh)
        · exact hse

end

end ZoneLedger

/-! ## Lines -/

namespace World

variable {N L T : Type} [BEq N] {reader : BodyReader (ZoneReply N L)} {refusal : Nat → Option Nat}
  {s s' : World N L} {e : WorldEvent N L}

variable {w : KeyedWrite} {t' t line : Line}

lemma network_keeps {reader : BodyReader T} {e : LineEvent} (he : e.Network)
    (h : LineStep reader w t e t') :
    t'.run = t.run ∧ t'.past = t.past ∧ t.revision ≤ t'.revision ∧ t'.sent = t.sent ∧
      t'.unanswered = t.unanswered := by
  cases h with
  | send _ | retry _ | resend _ | remoteCommit _ _ | restart _ _ _ _ => exact he.elim
  | commit _ _ _ _ _ hr => exact ⟨rfl, rfl, hr.le, rfl, rfl⟩
  | loseRequest _ _ | loseReply _ _ _ _ | turnAway _ _ _ _ _ | busy _ _ _ _ _ _ | execute _ _ _
  | wait _ _ _ _ | replay _ _ _ _ _ | refuse _ _ _ _ _ _ | settle _ _ _ _ | letGo _ _ _ =>
    exact ⟨rfl, rfl, le_rfl, rfl, rfl⟩

variable {awaiting : Bool}

/-- The line that moves on is the one that it moves to. -/
lemma line_follow_self (hr : line.run = s.now.run) (hp : line.past = s.now.past) :
    (s.follow id line awaiting).line id = line := by
  simp only [World.line, World.follow, update_self, Call.ofLine, ← hr, ← hp]

/-- Another line moves to a later revision, if any. -/
lemma line_follow_of_ne {o : Nat} (hn : o ≠ id) :
    (s.follow id line awaiting).line o = { s.line o with revision := line.revision } := by
  simp only [World.line, World.follow, update_of_ne hn]

/-- A line, or a step of it. -/
def Goes (reader : BodyReader (ZoneReply N L)) (w : KeyedWrite) (refusal : Option Nat) (t t' : Line) :
    Prop := t' = t ∨ ∃ event, LineStep reader w t event t' ∧ t.Steady w refusal event

lemma Goes.reachable {refusal : Option Nat} (h : Goes reader w refusal t t')
    (ht : (LayoutBuilder.steadyMachine reader w refusal).Reachable t) :
    (LayoutBuilder.steadyMachine reader w refusal).Reachable t' := by
  rcases h with rfl | ⟨e, hs⟩
  · exact ht
  · exact ht.step hs

/-- A commit elsewhere. -/
lemma goes_revision {refusal : Option Nat} (t : Line) (hl : t.revision ≤ rev) :
    Goes reader w refusal t { t with revision := rev } := by
  rcases hl.eq_or_lt with he | hlt
  · left
    rw [← he]
  · exact .inr ⟨.remoteCommit rev, .remoteCommit t rev hlt, trivial⟩

/-- **A step of the world** is a step of every line, or none. -/
theorem line_step (hu : ∀ i ∈ s.posted, ∀ j ∈ s.posted, i.write.id = j.write.id → i = j)
    (hsr : ∀ i ∈ s.posted, 1 ≤ (s.calls i.write.id).sent)
    (hfr : ∀ i ∈ s.posted, i.write.id ≤ s.ledgers.lastWrite)
    (ha : ∀ j ∈ s.posted, ∀ lg, s.ledgers.zone j.zoneId = some lg →
      lg.retry = some j.write → (s.calls j.write.id).awaiting = false →
        lg.unanswered = (s.calls j.write.id).unanswered + 1)
    (hsp : Step reader s e s') (hsd : s.Steady refusal e) {i : Posted N L} (hi : i ∈ s.posted) :
    Goes reader i.keyed (refusal i.write.id) (s.line i.write.id) (s'.line i.write.id) := by
  cases hsp with
  | network j hj e he line hl =>
    obtain ⟨hru, hp, hr, -, -⟩ := network_keeps he hl
    by_cases hs : i.write.id = j.write.id
    · obtain rfl := hu i hi j hj hs
      rw [line_follow_self hru hp]
      exact .inr ⟨e, hl, hsd⟩
    · rw [line_follow_of_ne hs]
      exact goes_revision _ hr
  | remoteCommit rev hr => exact goes_revision _ hr.le
  | restart run rev _ hn hoh =>
    exact .inr ⟨.restart run rev, .restart _ run rev hn hoh, trivial⟩
  | enter _ _ | observe _ _ _ | readAndSettle _ _ _ | afterStale _ _ _ _ _ _ | edit _ _ _
  | forget _ _ _ => exact .inl rfl
  | takeWrite j lg hld hc hw =>
    obtain ⟨fd, key, hf, ht, hst⟩ := takeWrite_eq_some hw
    obtain ⟨conf, last, -, -, -, -, hm, -⟩ := zone_takeWrite ht
    have hne : i.write.id ≠ j.write.id := by
      have hle := hfr i hi
      rw [hm]
      exact (lt_succ_of_le hle).ne
    exact .inl (line_follow_of_ne hne)
  | retry j hj lg hld hre hid =>
    by_cases hs : i.write.id = j.write.id
    · obtain rfl := hu i hi j hj hs
      have hl : (s.follow i.write.id ((s.line i.write.id).attempts lg.unanswered) true).line
          i.write.id = (s.line i.write.id).attempts lg.unanswered := line_follow_self rfl rfl
      rw [hl, ha i hi lg hld hre hid]
      exact .inr ⟨.retry, .retry _ (hsr i hi), trivial⟩
    · exact .inl (line_follow_of_ne hs)
  | answer j hj r _ _ _ _ | noAnswer j hj _ =>
    by_cases hs : i.write.id = j.write.id
    · rw [hs]
      have hl : (s.follow j.write.id (s.line j.write.id) false).line j.write.id =
          s.line j.write.id := line_follow_self rfl rfl
      exact .inl hl
    · exact .inl (line_follow_of_ne hs)

/-! ## The invariant -/

/-- What holds in every steady run. -/
structure Inv (reader : BodyReader (ZoneReply N L)) (refusal : Nat → Option Nat) (s : World N L) :
    Prop where
  fresh : s.now.run ∉ s.now.past
  named : s.now.run ≠ "" ∧ "" ∉ s.now.past
  heard : ∀ run revision, s.heard.Has run revision → s.now.Has run revision
  distinct : s.ledgers.Distinct
  ledgers : s.ledgers.Each (ZoneLedger.Accounted s)
  ids : ∀ i ∈ s.posted, i.write.id ≤ s.ledgers.lastWrite
  unique : ∀ i ∈ s.posted, ∀ j ∈ s.posted, i.write.id = j.write.id → i = j
  fences : ∀ i ∈ s.posted, s.now.Has i.write.run i.write.fence
  started : ∀ i ∈ s.posted, 1 ≤ (s.calls i.write.id).sent
  lines : ∀ i ∈ s.posted,
    (LayoutBuilder.steadyMachine reader i.keyed (refusal i.write.id)).Reachable (s.line i.write.id)
  handed : ∀ id ∈ s.settled, id ≤ s.ledgers.lastWrite
  closed : ∀ i ∈ s.posted, i.write.id ∈ s.settled →
    refusal i.write.id ≠ none ∨ s.now.Past i.write

lemma Initial.inv (h : s.Initial) : s.Inv reader refusal := by
  obtain ⟨hn, hpa, hh, ⟨keyPrefix, hl⟩, hp, hs⟩ := h
  refine ⟨?_, ⟨hn, ?_⟩, ?_, ?_, ?_, ?_, ?_, ?_, ?_, ?_, ?_, ?_⟩
  · simp [hpa]
  · simp [hpa]
  · rw [hh]
    exact fun _ _ => id
  · rw [hl]
    exact nodup_nil
  · rw [hl]
    exact nofun
  · simp [hp]
  · simp [hp]
  · simp [hp]
  · simp [hp]
  · simp [hp]
  · simp [hs]
  · simp [hp]

/-- A retry counts the attempts before it. -/
lemma Inv.asked (h : s.Inv reader refusal) (j : Posted N L) (lg : ZoneLedger N L)
    (hle : s.ledgers.zone j.zoneId = some lg) (hr : lg.retry = some j.write)
    (hi : (s.calls j.write.id).awaiting = false) :
        lg.unanswered = (s.calls j.write.id).unanswered + 1 := by
  obtain ⟨sent, hf, hw⟩ := map_eq_some_iff.mp hr
  obtain ⟨hs, hon⟩ := filter_eq_some_iff.mp hf
  have hl : sent.lapsed = none := by
    simp only [Bool.and_eq_true, isNone_iff_eq_none] at hon
    exact hon.2
  have ha := (h.ledgers.zone hle).asked sent hs hl
  simp only [hw, hi, Bool.false_eq_true, if_false, add_zero] at ha
  simpa [ZoneLedger.unanswered, hs] using ha

lemma Inv.goes (h : s.Inv reader refusal) (hs : Step reader s e s')
    (hst : s.Steady refusal e) {i : Posted N L} (hi : i ∈ s.posted) :
    Goes reader i.keyed (refusal i.write.id) (s.line i.write.id) (s'.line i.write.id) :=
  line_step h.unique h.started h.ids (fun j _ => h.asked j) hs hst hi

/-- The line of a write, at the end of a steady run of its own. -/
lemma Inv.sound (h : s.Inv reader refusal) {i : Posted N L} (hi : i ∈ s.posted) :
    (s.line i.write.id).Sound reader i.keyed (refusal i.write.id) := Line.sound (h.lines i hi)

/-- The ledgers stand while time goes on elsewhere. -/
lemma Inv.accounted (h : s.Inv reader refusal) (hn : s.now.Later s'.now)
    (hh : ∀ r v, s.heard.Has r v → s'.heard.Has r v) (hse : s.seq ≤ s'.seq)
    (hp : ∀ i ∈ s.posted, i ∈ s'.posted) (hr : ∀ read ∈ s.reads, read ∈ s'.reads)
    (hc : ∀ i ∈ s.posted, (s'.calls i.write.id).awaiting = (s.calls i.write.id).awaiting ∧
      (s'.calls i.write.id).unanswered = (s.calls i.write.id).unanswered) :
    s.ledgers.Each (ZoneLedger.Accounted s') := by
  intro entry he
  have hl := h.ledgers entry he
  refine hl.mono h.fences hn hh hse hp hr fun sent hs _ => ?_
  obtain ⟨-, i, hi, hw, -⟩ := hl.carried sent hs
  exact hw ▸ hc i hi

/-- A step of the page that hands out no write and hears no answer. -/
lemma Inv.page (h : s.Inv reader refusal) {ledgers : SceneLedgers N L} {seq : Nat}
    {se : List Nat} {reads : List (String × List (Output N L))} {reports : List Report}
    (hu : s.ledgers.Upholds ledgers)
    (he : ledgers.Each (ZoneLedger.Accounted { s with
      ledgers := ledgers
      seq := seq
      settled := se
      reads := reads
      reports := reports }))
    (hse : ∀ id ∈ se, id ∈ s.settled ∨ ∃ i ∈ s.posted, i.write.id = id ∧ s.now.Past i.write) :
    Inv reader refusal { s with
      ledgers := ledgers
      seq := seq
      settled := se
      reads := reads
      reports := reports } := by
  have hl := hu.lastWrite
  refine ⟨h.fresh, h.named, h.heard, hu.distinct h.distinct, he, fun i hi => (h.ids i hi).trans hl.ge,
    h.unique, h.fences, h.started, h.lines, fun id hid => ?_, fun i hi hid => ?_⟩
  · rcases hse id hid with hold | ⟨i, hi, rfl, -⟩
    · exact (h.handed id hold).trans hl.ge
    · exact (h.ids i hi).trans hl.ge
  · rcases hse _ hid with hold | ⟨j, hj, hs, hp⟩
    · exact h.closed i hi hold
    · obtain rfl := h.unique j hj i hi hs
      exact .inr hp

/-- A step of the daemon or the network, for the ledgers. -/
lemma Inv.time (h : s.Inv reader refusal) (hs : Step reader s e s')
    (hst : s.Steady refusal e) (hn : s.now.Later s'.now) (hf : s'.now.run ∉ s'.now.past)
    (hna : s'.now.run ≠ "" ∧ "" ∉ s'.now.past) (hh : s'.heard = s.heard)
    (hl : s'.ledgers = s.ledgers) (hsq : s'.seq = s.seq) (hpo : s'.posted = s.posted)
    (hrd : s'.reads = s.reads) (hse : s'.settled = s.settled)
    (hc : ∀ i ∈ s.posted, (s'.calls i.write.id).awaiting = (s.calls i.write.id).awaiting ∧
      (s'.calls i.write.id).unanswered = (s.calls i.write.id).unanswered ∧
      (s'.calls i.write.id).sent = (s.calls i.write.id).sent) : s'.Inv reader refusal := by
  refine ⟨hf, hna, fun r v hold => ?_, ?_, ?_, ?_, ?_, fun i hi => ?_, fun i hi => ?_,
    fun i hi => ?_, ?_, fun i hi hid => ?_⟩
  · exact (h.heard r v (hh ▸ hold)).later hn
  · rw [hl]
    exact h.distinct
  · rw [hl]
    exact h.accounted hn (fun _ _ hold => hh ▸ hold) hsq.ge (fun _ hi => hpo ▸ hi)
      (fun _ hr => hrd ▸ hr) fun i hi => ⟨(hc i hi).1, (hc i hi).2.1⟩
  · rw [hpo, hl]
    exact h.ids
  · rw [hpo]
    exact h.unique
  · exact (h.fences i (hpo ▸ hi)).later hn
  · have hi' : i ∈ s.posted := hpo ▸ hi
    rw [(hc i hi').2.2]
    exact h.started i hi'
  · have hi' : i ∈ s.posted := hpo ▸ hi
    exact (h.goes hs hst hi').reachable (h.lines i hi')
  · rw [hse, hl]
    exact h.handed
  · have hi' : i ∈ s.posted := hpo ▸ hi
    exact (h.closed i hi' (hse ▸ hid)).imp_right fun hp => hp.later (h.fences i hi') hn

/-! ## Reads -/

variable {read : SceneRead N L}

/-- A read that was delivered stands against the ledgers. -/
lemma read_keeps (hr : s.now.Has read.run read.revision)
    (hd : ∀ drawn ∈ read.drawn, drawn ∈ s.reads) (hn : ∀ i ∈ s.posted, i.write.run ≠ "") :
    SceneLedgers.Keeps (ZoneLedger.Accounted s) read where
  empty _ _ _ := .empty
  reanchored run _ _ _ hl := hl.startReanchor (fun hno => absurd rfl hno) hn run
  confirmed zone hz _ hl := hl.confirm zone.raw hr (hd _ (mem_map.mpr ⟨zone, hz, rfl⟩))

variable {z run : String} {lg l : ZoneLedger N L} {sent : Sent N L}

/-- A write that is out, and that its key can settle, stays out when a read settles what lapsed. -/
lemma out_settleOpen (read : SceneRead N L) (zs : List String)
    (t : SceneLedgers N L × List (String × Lapsed)) (hm : (z, lg) ∈ t.1.zones)
    (hs : lg.sent = some sent) (hon : sent.lapsed = none) :
    ∃ lg', (z, lg') ∈ (zs.foldl (settleOpen read) t).1.zones ∧ lg'.sent = some sent := by
  induction zs generalizing t lg with
  | nil => exact ⟨lg, hm, hs⟩
  | cons nx zs ih =>
    rw [foldl_cons]
    unfold settleOpen
    split
    · rename_i zn fd _ _
      rcases mem_modifyFirst_of_mem nx
        (fun lg => (lg.settleEnded read.revision zn.raw zn.shown).1) hm with
        hk | ⟨rfl, -, hc⟩
      · exact ih _ hk hs
      · refine ih _ hc ?_
        unfold ZoneLedger.settleEnded
        split
        · rename_i wr th un why hl
          obtain rfl := some.inj (hs.symm.trans hl)
          cases hon
        · exact hs
    · exact ih _ hm hs

/-- **A write that a read settles** can not be committed any more. -/
theorem past_of_settled {tk : Ticket} (he : (s.ledgers.admitRead tk read).1.Each (ZoneLedger.Accounted s))
    (hou : id ∈ (s.ledgers.admitRead tk read).1.outIds)
    (hse : id ∉ (s.ledgers.readAndSettle tk read).1.outIds) :
    ∃ i ∈ s.posted, i.write.id = id ∧ s.now.Past i.write := by
  obtain ⟨⟨z, lg⟩, hm, hid⟩ := mem_filterMap.mp hou
  obtain ⟨sent, hs, rfl⟩ := map_eq_some_iff.mp hid
  have hl := he _ hm
  obtain ⟨-, i, hi, hw, -⟩ := hl.carried sent hs
  refine ⟨i, hi, by rw [hw], ?_⟩
  rw [hw]
  refine hl.past sent hs fun hon => hse ?_
  have hst : ∃ lg', (z, lg') ∈ (s.ledgers.readAndSettle tk read).1.zones ∧ lg'.sent = some sent := by
    unfold readAndSettle
    split
    · rename_i heq
      rw [heq] at hm
      exact out_settleOpen read _ _ hm hs hon
    · rename_i heq
      rw [heq] at hm
      exact ⟨lg, hm, hs⟩
  obtain ⟨lg', hm', hs'⟩ := hst
  exact mem_filterMap.mpr ⟨_, hm', by rw [hs']; rfl⟩

section

variable (h : s.Inv reader refusal)
include h

/-- A state that differs in what `Accounted` does not look at, and has no fewer reads. -/
lemma Inv.accounted_page (t : World N L) (hn : t.now = s.now) (hh : t.heard = s.heard)
    (hs : t.seq = s.seq) (hp : t.posted = s.posted) (hc : t.calls = s.calls)
    (hr : ∀ read ∈ s.reads, read ∈ t.reads) : s.ledgers.Each (ZoneLedger.Accounted t) := by
  refine h.accounted ?_ (fun _ _ hold => hh ▸ hold) hs.ge (fun _ hi => hp ▸ hi) hr
    fun i _ => ?_
  · rw [hn]
    exact .refl _
  · rw [hc]
    exact ⟨rfl, rfl⟩

lemma Inv.observe (wa : Option String) (hr : s.now.Has read.run read.revision) (reports : List Report) :
    Inv reader refusal { s with
      ledgers := (s.ledgers.observe read wa).1
      reads := read.drawn ++ s.reads
      reports := reports } := by
  refine h.page (.observe read wa) ?_ fun _ => .inl
  have hb := h.accounted_page { s with
    ledgers := (s.ledgers.observe read wa).1
    reads := read.drawn ++ s.reads
    reports := reports } rfl rfl rfl rfl rfl fun _ hold => mem_append_right _ hold
  exact hb.observe (read_keeps hr (fun _ hd => mem_append_left _ hd)
    fun i _ => i.named) wa

lemma Inv.readAndSettle (tk : Ticket) (hr : s.now.Has read.run read.revision) (reports : List Report) :
    Inv reader refusal { s with
      ledgers := (s.ledgers.readAndSettle tk read).1
      settled := (s.ledgers.admitRead tk read).1.outIds.filter
        (· ∉ (s.ledgers.readAndSettle tk read).1.outIds) ++ s.settled
      reads := read.drawn ++ s.reads
      reports := reports } := by
  have hd : ∀ drawn ∈ read.drawn, drawn ∈ read.drawn ++ s.reads := fun _ hd =>
    mem_append_left _ hd
  refine h.page (.readAndSettle tk read) ?_ fun id hi => ?_
  · have hb := h.accounted_page { s with
      ledgers := (s.ledgers.readAndSettle tk read).1
      settled := (s.ledgers.admitRead tk read).1.outIds.filter
        (· ∉ (s.ledgers.readAndSettle tk read).1.outIds) ++ s.settled
      reads := read.drawn ++ s.reads
      reports := reports } rfl rfl rfl rfl rfl fun _ hold => mem_append_right _ hold
    exact hb.readAndSettle (read_keeps hr hd fun i _ => i.named)
      (fun zn hz _ hl => hl.settleEnded zn.raw hr (hd _ (mem_map.mpr ⟨zn, hz, rfl⟩))) tk
  · rcases mem_append.mp hi with hn | hold
    · obtain ⟨hou, hg⟩ := mem_filter.mp hn
      have hb := h.accounted_page { s with reads := read.drawn ++ s.reads } rfl rfl rfl rfl rfl
        fun _ hold => mem_append_right _ hold
      have ha := (hb.admitRead (read_keeps hr hd fun i _ => i.named) tk).1
      exact .inr (past_of_settled (s := { s with reads := read.drawn ++ s.reads }) ha hou
        (of_decide_eq_true hg))
    · exact .inl hold

lemma Inv.afterStale (z : String) (tk : Ticket)
    (hr : s.now.Has read.run read.revision) (reports : List Report) :
    Inv reader refusal { s with
      ledgers := (s.ledgers.afterStale z tk read).1
      reads := read.drawn ++ s.reads
      reports := reports } := by
  have hd : ∀ drawn ∈ read.drawn, drawn ∈ read.drawn ++ s.reads := fun _ hd =>
    mem_append_left _ hd
  refine h.page (.afterStale z tk read) ?_ fun _ => .inl
  have hb := h.accounted_page { s with
    ledgers := (s.ledgers.afterStale z tk read).1
    reads := read.drawn ++ s.reads
    reports := reports } rfl rfl rfl rfl rfl fun _ hold => mem_append_right _ hold
  exact hb.afterStale (read_keeps hr hd fun i _ => i.named)
    (fun zn hz _ hl => hl.refetched zn.raw hr (hd _ (mem_map.mpr ⟨zn, hz, rfl⟩))) z tk

end

lemma Inv.enter (h : s.Inv reader refusal)
    (hr : run = s.now.run ∨ run ∈ s.now.past ∧ s.ledgers.run ≠ s.now.run) :
    Inv reader refusal { s with ledgers := (s.ledgers.enter run).1 } := by
  refine h.page (.enter run) ?_ fun _ => .inl
  have hb := h.accounted_page { s with ledgers := (s.ledgers.enter run).1 } rfl rfl rfl rfl rfl
    fun _ => id
  refine hb.enter fun hn z lg hl => ?_
  refine hl.startReanchor (fun _ hs => ?_) (fun i _ => i.named) run
  rcases hr with hno | ⟨-, hoh⟩
  · exact hn (hno.trans hs)
  · exact hoh hs.symm

lemma Inv.edit (h : s.Inv reader refusal) (sid : Nat) (z : String) (ed : List (Output N L)) :
    Inv reader refusal { s with
      ledgers := (s.ledgers.edit s.seq sid z ed).1
      seq := (s.ledgers.edit s.seq sid z ed).2 } := by
  refine h.page (.edit s.seq sid z ed) ?_ fun _ => .inl
  unfold SceneLedgers.edit
  split_ifs
  · have he : (s.ledgers.ensure z).Each (ZoneLedger.Accounted s) :=
      h.ledgers.ensure .empty
    dsimp only
    split
    · exact fun entry hen => (he entry hen).mono h.fences (.refl _) (fun _ _ => id) le_rfl
        (fun _ => id) (fun _ => id) fun _ _ _ => ⟨rfl, rfl⟩
    · rename_i lg hz
      have hs : s.seq ≤ (lg.edit s.seq ed).2.1 := by
        unfold ZoneLedger.edit
        split
        · exact le_rfl
        · exact le_add_right _ _
      refine he.modify_imp (fun entry _ hl => ?_) fun fd hf hl => ?_
      · exact hl.mono h.fences (.refl _) (fun _ _ => id) hs (fun _ => id) (fun _ => id)
          fun _ _ _ => ⟨rfl, rfl⟩
      · obtain rfl := some.inj (hz.symm.trans hf)
        exact (hl.edit ed).mono h.fences (.refl _) (fun _ _ => id) le_rfl (fun _ => id)
          (fun _ => id) fun _ _ _ => ⟨rfl, rfl⟩
  · exact h.accounted (.refl _) (fun _ _ => id) le_rfl (fun _ => id) (fun _ => id) fun _ _ => ⟨rfl, rfl⟩

lemma Inv.forget (h : s.Inv reader refusal) (sid : Nat) (ids : List String) (th : Nat) :
    Inv reader refusal { s with ledgers := s.ledgers.forget sid ids th } := by
  refine h.page (.forget sid ids th) ?_ fun _ => .inl
  have hb := h.accounted_page { s with ledgers := s.ledgers.forget sid ids th } rfl
    rfl rfl rfl rfl fun _ => id
  exact hb.forget sid ids th fun _ _ hl => hl.forget ids th

/-! ## Answers -/

lemma of_settle_out (h : (l.settle id).sent = some sent) : sent.write.id ≠ id :=
  of_decide_eq_true (filter_eq_some_iff.mp h).2

lemma of_stranded_out {why : Lapse} (h : (l.stranded id why).sent = some sent)
    (hon : sent.lapsed = none) : sent.write.id ≠ id := by
  obtain ⟨old, -, rfl⟩ := map_eq_some_iff.mp h
  split_ifs at hon ⊢ with hi
  · cases hon
  · exact hi

lemma of_applied_out {raw shown : List (Output N L)}
    (h : (l.applied id landed raw shown).1.sent = some sent) (hon : sent.lapsed = none) :
    sent.write.id ≠ id := by
  unfold ZoneLedger.applied at h
  split at h
  · rename_i hn
    intro hi
    rw [h] at hn
    simp [hi] at hn
  · split_ifs at h with hl
    · obtain rfl := some.inj h
      rw [hon] at hl
      cases hl
    · dsimp only at h
      split at h
      · exact of_settle_out h
      · split_ifs at h
        iterate 2 exact of_settle_out h

/-- The state after an attempt of a write, for the ledgers: only its call is another, and the last
answer may be newer. -/
structure After (s : World N L) (id : Nat) (t : World N L) : Prop where
  now : t.now = s.now
  heard : ∀ run revision, s.heard.Has run revision → t.heard.Has run revision
  seq : t.seq = s.seq
  posted : t.posted = s.posted
  reads : t.reads = s.reads
  calls : ∀ other, other ≠ id → t.calls other = s.calls other

variable {t : World N L}

/-- A ledger stands if the write of the attempt is not out in it any more. -/
lemma After.accounted (ha : s.After id t)
    (hf : ∀ i ∈ s.posted, s.now.Has i.write.run i.write.fence) {sc : Option Nat}
    (hl : l.Accounted s run sc z)
    (hou : ∀ sent, l.sent = some sent → sent.lapsed = none → sent.write.id ≠ id) :
    l.Accounted t run sc z := by
  refine hl.mono hf (ha.now ▸ .refl _) ha.heard ha.seq.ge
    (fun _ hi => ha.posted ▸ hi) (fun _ hr => ha.reads ▸ hr) fun sent hs hon => ?_
  rw [ha.calls _ (hou sent hs hon)]
  exact ⟨rfl, rfl⟩

section

variable (h : s.Inv reader refusal)
include h

variable {i : Posted N L}

/-- Only the ledger of its zone has the write. -/
lemma Inv.zone_of_out (hi : i ∈ s.posted) {entry : String × ZoneLedger N L}
    (he : entry ∈ s.ledgers.zones) (hs : entry.2.sent = some sent)
    (hid : sent.write.id = i.write.id) : sent.write = i.write ∧ entry.1 = i.zoneId ∧
      ∀ intent ∈ entry.2.pending, intent.seq ≤ sent.through → intent ∈ i.carried := by
  obtain ⟨-, j, hj, hw, hz, hc⟩ := (h.ledgers entry he).carried sent hs
  obtain rfl := h.unique j hj i hi (by rw [hw, hid])
  exact ⟨hw.symm, hz.symm, hc⟩

/-- The ledgers after an attempt, if that of the write's zone is changed so that it stands. -/
lemma Inv.each_after (hi : i ∈ s.posted) (ha : s.After i.write.id t)
    {ch : ZoneLedger N L → ZoneLedger N L}
    (hc : ∀ lg, s.ledgers.zone i.zoneId = some lg → (ch lg).Accounted t
      s.ledgers.run s.ledgers.sceneId i.zoneId) :
    (s.ledgers.modify i.zoneId ch).Each (ZoneLedger.Accounted t) := by
  refine h.distinct.each_modify (fun entry he hn => ?_) hc
  refine ha.accounted h.fences (h.ledgers entry he) fun sent hs _ hid => ?_
  exact hn (h.zone_of_out hi he hs hid).2.1

/-- **No answer**: the attempt counts as unanswered, and the page does not wait any more. -/
theorem Inv.lost_accounted (haf : s.After i.write.id t) (hwa : (s.calls i.write.id).awaiting)
    (haw : (t.calls i.write.id).awaiting = false)
    (hu : (t.calls i.write.id).unanswered = (s.calls i.write.id).unanswered)
    (hle : s.ledgers.zone i.zoneId = some lg) :
    (lg.lost i.write.id).Accounted t s.ledgers.run s.ledgers.sceneId i.zoneId := by
  have hb := h.ledgers.zone hle
  have hs : ∀ sent', (lg.lost i.write.id).sent = some sent' → ∃ sent, lg.sent = some sent ∧
      sent'.write = sent.write ∧ sent'.through = sent.through ∧ sent'.lapsed = sent.lapsed ∧
      sent'.unanswered = if sent.write.id = i.write.id then sent.unanswered + 1 else sent.unanswered := by
    intro sent' hs'
    obtain ⟨sent, hs, rfl⟩ := map_eq_some_iff.mp hs'
    refine ⟨sent, hs, ?_⟩
    split_ifs
    iterate 2 exact ⟨rfl, rfl, rfl, rfl⟩
  refine ⟨hb.sorted, fun it hi => (hb.bounded it hi).trans haf.seq.ge,
    fun ha c hc => ?_, fun ha c hc => ?_, fun sent' hs' => ?_,
    fun sent' hs' hon => ?_, fun sent' hs' hon => ?_, fun sent' hs' hl => ?_⟩
  · rw [haf.now]
    exact hb.known ha c hc
  · rw [haf.reads]
    exact (hb.seen ha c hc).imp_right (haf.heard _ _)
  · obtain ⟨sent, hou, hw, ht, -, -⟩ := hs sent' hs'
    rw [hw, ht, haf.seq, haf.posted]
    exact hb.carried sent hou
  · obtain ⟨sent, hou, hw, -, hsa, -⟩ := hs sent' hs'
    rw [hw]
    exact hb.out sent hou (hsa ▸ hon)
  · obtain ⟨sent, hou, hw, -, hsa, hcn⟩ := hs sent' hs'
    have hak := hb.asked sent hou (hsa ▸ hon)
    rw [hw, hcn]
    by_cases hid : sent.write.id = i.write.id
    · rw [hid, hwa] at hak
      rw [if_pos hid, hid, haw, hu]
      simpa using hak
    · rw [if_neg hid, haf.calls _ hid]
      exact hak
  · obtain ⟨sent, hou, hw, -, hsa, -⟩ := hs sent' hs'
    rw [hw, haf.now]
    exact hb.past sent hou (hsa ▸ hl)

/-- A write that is out in a ledger is its own. -/
lemma Inv.out_of_zone (hi : i ∈ s.posted)
    (hl : s.ledgers.zone i.zoneId = some lg) (hs : lg.sent = some sent)
    (hid : sent.write.id = i.write.id) : sent.write = i.write :=
  (h.zone_of_out hi (mem_of_lookup hl) hs hid).1

end

/-- What the writer makes of a response, by what it was classified as. -/
inductive Outcome (reader : BodyReader (ZoneReply N L)) (s : World N L) (i : Posted N L) (r : Reply) :
    SceneLedgers N L × Heard → Prop where
  | lost : Outcome reader s i r (s.ledgers.modify i.zoneId (·.lost i.write.id), .lost)
  | lapsed (why : Lapse)
      (hanswer : (s.line i.write.id).classified reader i.keyed r = .otherRun ∨
        (s.line i.write.id).classified reader i.keyed r = .forgotten ∨
        success r.response.status) :
      Outcome reader s i r (s.ledgers.modify i.zoneId (·.stranded i.write.id why), .lapsed)
  | refused (heard : Heard) (status : Nat)
      (outcome : Except ApiError (MutationOutcome (ZoneReply N L)))
      (hanswer : (s.line i.write.id).classified reader i.keyed r = .final status outcome)
      (hrefused : success r.response.status = false) (hheard : heard = .stale ∨ heard = .failed) :
      Outcome reader s i r (s.ledgers.modify i.zoneId (·.settle i.write.id), heard)
  | applied (status : Nat) (reply : ZoneReply N L)
      (hanswer : (s.line i.write.id).classified reader i.keyed r =
        .final status (.ok (.applied reply)))
      (hreply : reader.applied r.response = .ok reply) (hsuccess : success r.response.status) :
      Outcome reader s i r (s.ledgers.applied i.zoneId i.write reply)

variable {resp : Idempotency.StoredResponse}

lemma applied_of_versionedOutcome {reader : BodyReader T} {v : T}
    (h : versionedOutcome reader resp = .ok (.applied v)) : reader.applied resp = .ok v := by
  unfold versionedOutcome at h
  split_ifs at h
  · split at h
    · rename_i fd hf
      obtain rfl := MutationOutcome.applied.inj (Except.ok.inj h)
      exact hf
    · cases h
  · split at h <;> cases h

/-- An outcome other than an apply is of a refusal, or could not be read. -/
lemma refused_of_versionedOutcome (reader : BodyReader T) (hs : success resp.status) :
    (∃ value, versionedOutcome reader resp = .ok (.applied value)) ∨
      ∃ message, versionedOutcome reader resp = .error (.parse message) := by
  unfold versionedOutcome
  rw [if_pos hs]
  split
  · exact .inl ⟨_, rfl⟩
  · exact .inr ⟨_, rfl⟩

/-- **What the writer makes of a response.** -/
theorem answered_outcome (i : Posted N L) (r : Reply) : Outcome reader s i r (s.answered reader i r) := by
  have hc : classify i.write.run (s.calls i.write.id).unanswered
      (keyedResponse reader (some r.run) r.replayed r.response) =
      (s.line i.write.id).classified reader i.keyed r := rfl
  unfold answered answer
  rw [hc]
  rcases ha : (s.line i.write.id).classified reader i.keyed r with
    ⟨status, err | ⟨reply⟩ | current⟩ | _ | _ | err
  · obtain ⟨rfl, hou, -, -⟩ := of_classify_final i.named ha
    dsimp only
    by_cases hs : success r.response.status
    · have hp : unreadable err := by
        have hr := refused_of_versionedOutcome reader hs
        rcases hr with ⟨v, hok⟩ | ⟨message, he⟩
        · rw [hok] at hou
          cases hou
        · rw [he] at hou
          obtain rfl := Except.error.inj hou
          rfl
      rw [if_neg, if_neg, if_pos ⟨hs, hp⟩]
      · exact .lapsed .unreadable (.inr (.inr hs))
      · rintro ⟨h412, -⟩
        rw [h412] at hs
        cases hs
      · rintro ⟨h409, -⟩
        rw [h409] at hs
        cases hs
    · have hre := Bool.eq_false_iff.mpr hs
      split_ifs with h409 h412 hsa
      iterate 2 exact .refused .stale _ _ ha hre (.inl rfl)
      · exact absurd hsa.1 hs
      · exact .refused .failed _ _ ha hre (.inr rfl)
  · obtain ⟨-, hou, -, -⟩ := of_classify_final i.named ha
    exact .applied status reply ha (applied_of_versionedOutcome hou.symm) (success_of_applied hou.symm)
  · obtain ⟨-, hou, -, -⟩ := of_classify_final i.named ha
    refine .refused .stale _ _ ha (Bool.eq_false_iff.mpr fun hs => ?_) (.inl rfl)
    have hr := refused_of_versionedOutcome reader hs
    rcases hr with ⟨v, hok⟩ | ⟨message, he⟩
    · rw [hok] at hou
      cases hou
    · rw [he] at hou
      cases hou
  · exact .lapsed .restart (.inl ha)
  · exact .lapsed .forgotten (.inr (.inl ha))
  · exact .lost

variable {r : Reply}

/-- A response that lapses a write was given when its fence was past. -/
lemma Inv.past_of_lapsed (h : s.Inv reader refusal) {i : Posted N L} (hi : i ∈ s.posted)
    (hr : r ∈ (s.calls i.write.id).replies)
    (ha : (s.line i.write.id).classified reader i.keyed r = .otherRun ∨ (s.line
      i.write.id).classified reader i.keyed r = .forgotten ∨ success r.response.status) :
    s.now.Past i.write := by
  have hs := h.sound hi
  have hd : (s.line i.write.id).Dead i.keyed := by
    rcases ha with hoh | hf | hsu
    · exact ((hs.told r hr).late (.inl (of_classify_otherRun i.named hoh))).1
    · exact ((hs.told r hr).late (.inr (of_classify_forgotten i.named hf).2)).1
    · exact (hs.applied hr hsu).1
  exact hd

/-- **An applied answer**, for the ledgers. -/
theorem Inv.applied_accounted (h : s.Inv reader refusal) {i : Posted N L} (hi : i ∈ s.posted)
    (haf : s.After i.write.id t) (hhr : t.heard = s.now) {rp : ZoneReply N L}
    (hla : ∀ rev, rp.landed = some rev → s.now.Has i.write.run rev) :
    (s.ledgers.applied i.zoneId i.write rp).1.Each (ZoneLedger.Accounted t) := by
  -- The operation stands where the answer is heard, with the call as it was.
  have hre : ({ s with heard := s.now } : World N L).After i.write.id t :=
    ⟨haf.now, fun _ _ hold => hhr.symm ▸ hold, haf.seq, haf.posted, haf.reads, haf.calls⟩
  have hm : (s.ledgers.modify i.zoneId fun lg =>
      (lg.applied i.write.id rp.landed rp.raw rp.shown).1).Each
        (ZoneLedger.Accounted t) := by
    refine h.each_after hi haf fun lg hl => ?_
    have hb : lg.Accounted { s with heard := s.now } s.ledgers.run s.ledgers.sceneId i.zoneId :=
      (h.ledgers.zone hl).mono h.fences (.refl _) h.heard le_rfl (fun _ => id) (fun _ => id)
        fun _ _ _ => ⟨rfl, rfl⟩
    refine hre.accounted h.fences (hb.applied rp.raw ?_) fun sent hs hon =>
      of_applied_out hs hon
    intro sent rev hs hid hon hrv
    have hr := (hb.out sent hs hon).1
    rw [h.out_of_zone hi hl hs hid] at hr
    have hh := hla rev hrv
    rw [hr] at hh
    exact ⟨hh, hh⟩
  unfold applied
  split
  · rename_i hn
    intro entry he
    refine haf.accounted h.fences (h.ledgers entry he) fun sent hs _ hid => ?_
    have hz := (h.zone_of_out hi he hs hid).2.1
    have hso : (s.ledgers.zones.lookup i.zoneId).isSome := by
      rw [lookup_isSome_iff]
      exact ⟨entry, he, by rw [hz]; exact beq_self_eq_true _⟩
    rw [show s.ledgers.zones.lookup i.zoneId = none from hn] at hso
    cases hso
  · rename_i lg hl
    split
    · exact hm
    · rename_i cancelled ha
      split_ifs with hne
      · obtain ⟨sent, hs, hid, hon⟩ := ZoneLedger.of_applied ha
        have hr := ((h.ledgers.zone hl).out sent hs hon).1
        rw [h.out_of_zone hi hl hs hid] at hr
        have hh := hla _ hne
        rw [hr] at hh
        intro entry he
        obtain ⟨old, hold, rfl⟩ := mem_map.mp he
        have hl' := hm old hold
        dsimp only
        split_ifs
        · exact hl'
        · refine hl'.advance (fun _ _ _ => ?_) fun _ _ _ => ?_
          · rw [haf.now]
            exact hh
          · rw [hhr]
            exact hh
      · exact hm

/-- The attempt of a write has ended. -/
lemma Inv.hears (h : s.Inv reader refusal) {i : Posted N L} (hi : i ∈ s.posted) {heard : Moment}
    {ledgers : SceneLedgers N L} {se : List Nat} {reports : List Report}
    (hh : heard = s.heard ∨ heard = s.now) (hu : s.ledgers.Upholds ledgers)
    (he : ledgers.Each (ZoneLedger.Accounted { s.follow i.write.id (s.line i.write.id) false with
      heard := heard
      ledgers := ledgers
      settled := se
      reports := reports }))
    (hse : ∀ id ∈ se, id ∈ s.settled ∨ id = i.write.id ∧
        (refusal i.write.id ≠ none ∨ s.now.Past i.write)) :
    Inv reader refusal { s.follow i.write.id (s.line i.write.id) false with
      heard := heard
      ledgers := ledgers
      settled := se
      reports := reports } := by
  have hs : ∀ id,
      ((s.follow i.write.id (s.line i.write.id) false).calls id).sent = (s.calls id).sent := by
    intro id
    simp only [follow, update_apply]
    split_ifs with hid
    · rw [hid]
      rfl
    · rfl
  have hli : ∀ id, (s.follow i.write.id (s.line i.write.id) false).line id = s.line id := by
    intro id
    by_cases hid : id = i.write.id
    · rw [hid]
      exact line_follow_self rfl rfl
    · exact line_follow_of_ne hid
  have hl := hu.lastWrite
  refine ⟨h.fresh, h.named, fun run rev hold => ?_, hu.distinct h.distinct, he,
    fun j hj => (h.ids j hj).trans hl.ge, h.unique, h.fences, fun j hj => ?_, fun j hj => ?_,
    fun id hid => ?_, fun j hj hid => ?_⟩
  · rcases hh with rfl | rfl
    · exact h.heard run rev hold
    · exact hold
  · exact (h.started j hj).trans (hs _).ge
  · have hr := h.lines j hj
    rw [← hli] at hr
    exact hr
  · rcases hse id hid with hold | ⟨rfl, -⟩
    · exact (h.handed id hold).trans hl.ge
    · exact (h.ids i hi).trans hl.ge
  · rcases hse _ hid with hold | ⟨hsa, hc⟩
    · exact h.closed j hj hold
    · obtain rfl := h.unique j hj i hi hsa
      exact hc

/-- **An answer.** -/
theorem Inv.answer (h : s.Inv reader refusal) {i : Posted N L} (hi : i ∈ s.posted)
    (hr : r ∈ (s.calls i.write.id).replies) (haw : (s.calls i.write.id).awaiting)
    (hla : (s.calls i.write.id).sent = r.attempt + 1)
    (hln : ∀ reply rev, reader.applied r.response = .ok reply → reply.landed = some
      rev → s.now.Has i.write.run rev) (reports : List Report) :
    Inv reader refusal { s.follow i.write.id (s.line i.write.id) false with
      heard := s.now
      ledgers := (s.answered reader i r).1
      settled := if (s.answered reader i r).2.settles then i.write.id :: s.settled else s.settled
      reports := reports } := by
  have hu : s.ledgers.Upholds (s.answered reader i r).1 := .answer _ _ _ _
  have hc : Outcome reader s i r (s.answered reader i r) := answered_outcome i r
  generalize s.answered reader i r = result at hc hu ⊢
  refine h.hears hi (.inr rfl) hu ?_ ?_
  · have ha : s.After i.write.id { s.follow i.write.id (s.line i.write.id) false with
        heard := s.now
        ledgers := result.1
        settled := if result.2.settles then i.write.id :: s.settled else s.settled
        reports := reports } :=
      ⟨rfl, h.heard, rfl, rfl, rfl, fun o hn => update_of_ne hn _ _⟩
    rcases hc with _ | ⟨why, han⟩ | ⟨heard, status, outcome, -, -, -⟩ | ⟨status, reply, -, hrp, -⟩
    · refine h.each_after hi ha fun lg hl => h.lost_accounted ha haw ?_ ?_ hl
      · simp [follow, Call.ofLine]
      · simp [follow, Call.ofLine, line]
    · refine h.each_after hi ha fun lg hl => ha.accounted h.fences ?_ fun sent hs hon =>
        of_stranded_out hs hon
      refine (h.ledgers.zone hl).stranded why fun sent hs hid => ?_
      rw [h.out_of_zone hi hl hs hid]
      exact h.past_of_lapsed hi hr han
    · exact h.each_after hi ha fun lg hl => ha.accounted h.fences
        ((h.ledgers.zone hl).settle i.write.id) fun sent hs _ => of_settle_out hs
    · exact h.applied_accounted hi ha rfl fun rev hrv => hln reply rev hrp hrv
  · intro id hid
    rcases hse : result.2.settles with _ | _
    · rw [hse] at hid
      exact .inl hid
    · rw [hse] at hid
      rcases mem_cons.mp hid with rfl | hold
      · refine .inr ⟨rfl, ?_⟩
        have hsn := h.sound hi
        rcases hc with _ | ⟨why, han⟩ | ⟨heard, status, outcome, han, hre, -⟩ | ⟨status, reply, -, -, hsu⟩
        · cases hse
        · cases hse
        · obtain ⟨rfl, rfl, ht, hf⟩ := of_classify_final i.named han
          exact (hsn.refused hr hla hre ht (by rw [hf]; exact nofun)).imp_right And.left
        · exact .inr (hsn.applied hr hsu).1
      · exact .inl hold

lemma Inv.noAnswer (h : s.Inv reader refusal) {i : Posted N L} (hi : i ∈ s.posted)
    (haw : (s.calls i.write.id).awaiting) :
    Inv reader refusal { s.follow i.write.id (s.line i.write.id) false with
      ledgers := s.ledgers.modify i.zoneId (·.lost i.write.id) } := by
  refine h.hears hi (.inl rfl) (.modify _ _) ?_ fun _ => .inl
  have ha : s.After i.write.id { s.follow i.write.id (s.line i.write.id) false with
      ledgers := s.ledgers.modify i.zoneId (·.lost i.write.id) } :=
    ⟨rfl, fun _ _ => id, rfl, rfl, rfl, fun o hn => update_of_ne hn _ _⟩
  refine h.each_after hi ha fun lg hl => h.lost_accounted ha haw ?_ ?_ hl
  · simp [follow, Call.ofLine]
  · simp [follow, Call.ofLine, line]

/-! ## Writes -/

/-- **A retry** goes out in the line of its write. -/
theorem Inv.retry (h : s.Inv reader refusal) {i : Posted N L} (hi : i ∈ s.posted)
    (hl : s.ledgers.zone i.zoneId = some lg) (hr : lg.retry = some i.write)
    (hie : (s.calls i.write.id).awaiting = false) :
    Inv reader refusal (s.follow i.write.id ((s.line i.write.id).attempts lg.unanswered) true) := by
  have hc := h.asked i lg hl hr hie
  have hs : Step reader s (.retry i)
      (s.follow i.write.id ((s.line i.write.id).attempts lg.unanswered) true) :=
    .retry s i hi lg hl hr hie
  refine ⟨h.fresh, h.named, h.heard, h.distinct, fun entry he => ?_, h.ids, h.unique, h.fences,
    fun j hj => ?_, fun j hj => (h.goes hs trivial hj).reachable (h.lines j hj), h.handed, h.closed⟩
  · have hb := h.ledgers entry he
    refine ⟨hb.sorted, hb.bounded, hb.known, hb.seen, hb.carried, hb.out,
      fun sent hse hon => ?_, hb.past⟩
    have ha := hb.asked sent hse hon
    by_cases hid : sent.write.id = i.write.id
    · rw [hid, hie] at ha
      simp only [follow, hid, update_self, Call.ofLine, Line.attempts, hc]
      simpa using ha
    · simp only [follow, update_of_ne hid]
      exact ha
  · simp only [follow, update_apply]
    split_ifs
    · exact succ_pos _
    · exact h.started j hj

/-- **A write that is taken** has an id of its own, and carries all that is pending. -/
theorem Inv.takeWrite (h : s.Inv reader refusal) {i : Posted N L}
    (hld : s.ledgers.zone i.zoneId = some lg) (hcr : i.carried = lg.pending)
    (hw : (s.ledgers.takeWrite i.zoneId).2 = some i.write) :
    Inv reader refusal { s.follow i.write.id (s.freshLine.attempts 0) true with
      ledgers := (s.ledgers.takeWrite i.zoneId).1
      posted := i :: s.posted } := by
  have hsp : Step reader s (.takeWrite i) _ := .takeWrite s i lg hld hcr hw
  obtain ⟨fd, key, hf, ht, hst⟩ := takeWrite_eq_some hw
  obtain rfl := some.inj (hld.symm.trans hf)
  obtain ⟨conf, last, hco, ha, -, hl, hm, hlf⟩ := zone_takeWrite ht
  have hid : i.write.id = s.ledgers.lastWrite + 1 := by rw [hm]
  have hr : i.write.run = s.ledgers.run := by rw [hm]
  have hfe : i.write.fence = conf.revision := by rw [hm]
  have hb := h.ledgers.zone hld
  have hoh : ∀ j ∈ s.posted, j.write.id ≠ i.write.id := fun j hj => by
    rw [hid]
    exact (lt_succ_of_le (h.ids j hj)).ne
  have hg : s.now.Has i.write.run i.write.fence := by
    rw [hr, hfe]
    exact hb.known ha conf hco
  have hca : update s.calls i.write.id (.ofLine (s.freshLine.attempts 0) true) i.write.id =
      .ofLine (s.freshLine.attempts 0) true := update_self ..
  have hc : ∀ j ∈ s.posted, update s.calls i.write.id (.ofLine (s.freshLine.attempts 0) true) j.write.id =
        s.calls j.write.id := fun j hj => update_of_ne (hoh j hj) _ _
  have hli : World.line { s.follow i.write.id (s.freshLine.attempts 0) true with
      ledgers := (s.ledgers.takeWrite i.zoneId).1
      posted := i :: s.posted } i.write.id = s.freshLine.attempts 0 := line_follow_self rfl rfl
  refine ⟨h.fresh, h.named, h.heard, ?_, ?_, ?_, ?_, ?_, ?_, ?_, fun id hid' => ?_, ?_⟩
  · rw [hst]
    exact (Upholds.modify _ _).distinct h.distinct
  · have he : (s.ledgers.modify i.zoneId fun lg =>
        (lg.takeWrite s.ledgers.run (s.ledgers.lastWrite + 1) key).1).Each
          (ZoneLedger.Accounted { s.follow i.write.id (s.freshLine.attempts 0) true with
            ledgers := (s.ledgers.takeWrite i.zoneId).1
            posted := i :: s.posted }) := by
      refine h.distinct.each_modify (fun entry hen _ => ?_) fun fd hf => ?_
      · have hld' := h.ledgers entry hen
        refine hld'.mono h.fences (.refl _) (fun _ _ => id) le_rfl
          (fun _ => mem_cons_of_mem _) (fun _ => id) fun sent hs _ => ?_
        obtain ⟨-, j, hj, hsa, -⟩ := hld'.carried sent hs
        rw [← hsa]
        exact ⟨congrArg Call.awaiting (hc j hj), congrArg Call.unanswered (hc j hj)⟩
      · obtain rfl := some.inj (hld.symm.trans hf)
        rw [hlf]
        refine ⟨hb.sorted, hb.bounded, hb.known, hb.seen, fun sent hs => ?_,
          fun sent hs _ => ?_, fun sent hs _ => ?_, fun sent hs hla => ?_⟩
        · obtain rfl := some.inj hs
          refine ⟨hb.bounded last (mem_of_getLast? hl), i, mem_cons_self, rfl, rfl,
            fun it hi _ => ?_⟩
          rw [hcr]
          exact hi
        · obtain rfl := some.inj hs
          exact ⟨hr, ha⟩
        · obtain rfl := some.inj hs
          show 0 + (if (update s.calls i.write.id
            (.ofLine (s.freshLine.attempts 0) true) i.write.id).awaiting then 1 else 0) = _ + 1
          simp only [follow, hca]
          rfl
        · obtain rfl := some.inj hs
          exact absurd rfl hla
    rw [hst] at he ⊢
    exact he
  · rw [hst]
    refine forall_mem_cons.mpr ⟨hid.le, fun j hj => (h.ids j hj).trans (le_succ _)⟩
  · intro j hj k hk hsa
    rcases mem_cons.mp hj with rfl | hj' <;> rcases mem_cons.mp hk with rfl | hk'
    · rfl
    · exact absurd hsa.symm (hoh k hk')
    · exact absurd hsa (hoh j hj')
    · exact h.unique j hj' k hk' hsa
  · exact forall_mem_cons.mpr ⟨hg, h.fences⟩
  · refine forall_mem_cons.mpr ⟨?_, fun j hj => ?_⟩
    · simp only [follow, hca]
      exact le_rfl
    · simp only [follow, hc j hj]
      exact h.started j hj
  · refine forall_mem_cons.mpr ⟨?_, fun j hj => (h.goes hsp trivial hj).reachable (h.lines j hj)⟩
    rw [hli]
    refine Machine.Reachable.step (.init ⟨rfl, rfl, fun _ => rfl, rfl, rfl, rfl, ?_, ?_⟩)
      ⟨.send s.freshLine rfl, trivial⟩
    · exact hg.imp (fun hn => hn.1.symm) id
    · intro hsa
      rcases hg with ⟨-, hle⟩ | hp
      · exact hle
      · have hr' : s.now.run = i.write.run := hsa
        exact absurd (hr'.symm ▸ hp) h.fresh
  · rw [hst]
    exact (h.handed id hid').trans (le_succ _)
  · refine forall_mem_cons.mpr ⟨fun hse => ?_, h.closed⟩
    have hle := h.handed _ hse
    rw [hid] at hle
    exact absurd hle (not_succ_le_self _)

/-! ## Runs -/

/-- **One step** keeps the invariant. -/
theorem Inv.step (h : s.Inv reader refusal) (hs : Step reader s e s')
    (hst : s.Steady refusal e) : s'.Inv reader refusal := by
  have ht := h.time hs hst
  cases hs with
  | network i hi e he line hli =>
    obtain ⟨hru, hp, hrv, hse, hun⟩ := network_keeps he hli
    refine ht (.inl ⟨rfl, rfl, hrv⟩) h.fresh h.named rfl rfl rfl rfl rfl rfl fun j _ => ?_
    simp only [follow, update_apply]
    split_ifs with hid
    · rw [hid]
      exact ⟨rfl, hun, hse⟩
    · exact ⟨rfl, rfl, rfl⟩
  | remoteCommit rev hrv =>
    exact ht (.inl ⟨rfl, rfl, hrv.le⟩) h.fresh h.named rfl rfl rfl rfl rfl rfl
      fun _ _ => ⟨rfl, rfl, rfl⟩
  | restart run rev hn hne hf =>
    have hu : run ∉ s.now.run :: s.now.past := by
      simp only [mem_cons, not_or]
      exact ⟨hne, hf⟩
    refine ht (.inr ⟨rfl, hu⟩) hu ⟨hn, ?_⟩ rfl rfl rfl rfl rfl rfl
      fun _ _ => ⟨rfl, rfl, rfl⟩
    simp only [mem_cons, not_or]
    exact ⟨h.named.1.symm, h.named.2⟩
  | enter run hru => exact h.enter hru
  | observe read wa hre => exact h.observe wa hre _
  | readAndSettle tk read hre => exact h.readAndSettle tk hre _
  | afterStale z tk read hre _ _ => exact h.afterStale z tk hre _
  | edit sid z ed => exact h.edit sid z ed
  | forget sid ids th => exact h.forget sid ids th
  | takeWrite i lg hl hc hw => exact h.takeWrite hl hc hw
  | retry i hi lg hl hrt hie => exact h.retry hi hl hrt hie
  | answer i hi r hr ha hla hln => exact h.answer hi hr ha hla hln _
  | noAnswer i hi ha => exact h.noAnswer hi ha

theorem inv (h : (steadyMachine reader refusal).Reachable s) : s.Inv reader refusal :=
  Machine.Reachable.invariant (I := fun t => t.Inv reader refusal) (fun _ hi => Initial.inv hi)
    (fun _ _ _ ht hs => ht.step hs.1 hs.2) h

end World

end Hypercolor.LayoutBuilder
