import Hypercolor.LayoutBuilder.Settlement

/-!
# No edit is lost silently

**`edits_accounted`**: in every run in which the daemon is steady about every write,

* a write is committed at most once, and not after the ledgers settled it;
* an intent that leaves pending was carried by a write that was committed, or its zone was read holding
  its value, or a newer intent for its field was pending, or it was forgotten, or its loss was reported.

The daemon is not steady when it turns away an attempt for its rate limit: then the ledgers settle the
write as refused, and an attempt that was delayed may still commit it, **`committed_after_settled`**.

A step leaves an intent by what its operation takes from pending (`Departs`). Only two of these need
the invariant: an answer, for the commit of what it retires (`Inv.committed_of_answered`), and the read
after a stale answer, since the zone that it leaves confirmed must have been read and not been answered
(`Inv.shown_of_refetched`). It was, because that read is no older than the last answer.
-/

set_option linter.unusedSectionVars false

namespace Hypercolor.LayoutBuilder

open Lib List
open SceneLedgers (Departs Told Superseded HeldBy GivenUp Answered cancelledBy)

namespace World

variable {N L : Type} [BEq N] {reader : BodyReader (ZoneReply N L)} {refusal : Nat → Option Nat}
  {s s' : World N L} {e : WorldEvent N L}

/-! ## Commits -/

variable {i : Posted N L}

lemma posted_step (hs : Step reader s e s') (hi : i ∈ s.posted) : i ∈ s'.posted := by
  cases hs <;> first | exact hi | exact mem_cons_of_mem _ hi

variable {events : List (WorldEvent N L)}

/-- A write that was taken stays so, and its line goes on. -/
lemma posted_extends (hs : (steadyMachine reader refusal).Reachable s)
    (hr : (steadyMachine reader refusal).Run s events s') (hi : i ∈ s.posted) :
    i ∈ s'.posted ∧ (s.line i.write.id).Extends i.keyed (s'.line i.write.id) := by
  refine hr.relation (R := fun t t' => i ∈ t.posted → i ∈ t'.posted ∧
      (t.line i.write.id).Extends i.keyed (t'.line i.write.id)) (fun t ht => ⟨ht, .refl _⟩)
    (fun t u v htu huv ht => ?_) (fun t e t' ht hst hp => ?_) hs hi
  · obtain ⟨hu, he⟩ := htu ht
    obtain ⟨hv, he'⟩ := huv hu
    exact ⟨hv, he.trans he'⟩
  · have hin := inv ht
    refine ⟨posted_step hst.1 hp, ?_⟩
    rcases hin.goes hst.1 hst.2 hp with hsa | ⟨lineEvent, hl, -⟩
    · rw [hsa]
      exact .refl _
    · have hsn := hin.sound hp
      exact (hsn.grounded.step (hsn.recorded.unsent _ le_rfl) hl).2

/-- **A write that the ledgers settled** is not committed any more. -/
theorem settled_commits (hs : (steadyMachine reader refusal).Reachable s)
    (hru : (steadyMachine reader refusal).Run s events s') (hi : i ∈ s.posted)
    (hse : i.write.id ∈ s.settled) : (s'.calls i.write.id).commits = (s.calls i.write.id).commits := by
  obtain ⟨hi', he⟩ := posted_extends hs hru hi
  rcases (inv hs).closed i hi hse with hr | hp
  · -- The daemon takes no attempt of the write, then or later.
    have hn : ∀ {t : World N L}, (steadyMachine reader refusal).Reachable t → i ∈ t.posted →
        (t.calls i.write.id).commits = [] := fun ht hpo => by
      by_contra hne
      exact hr (((inv ht).sound hpo).recorded.spent hne).2
    rw [hn (hru.reachable hs) hi', hn hs hi]
  · exact he.commits hp

/-! ## What leaves pending -/

/-- What a step reported. -/
def Reports (s s' : World N L) (report : Report) : Prop :=
  ∃ told, s'.reports = told ++ s.reports ∧ report ∈ told

/-- The zone was read so, by the step or as it is confirmed. -/
def Shows (s s' : World N L) (zoneId : String) (shown : List (Output N L)) : Prop :=
  (∃ drawn, s'.reads = drawn ++ s.reads ∧ (zoneId, shown) ∈ drawn) ∨
    (zoneId, shown) ∈ s.reads ∧ ∃ ledger c, (zoneId, ledger) ∈ s.ledgers.zones ∧
      ledger.confirmed = some c ∧ c.shown = shown

/-- Why an intent may leave pending. -/
inductive Leaves (s : World N L) (event : WorldEvent N L) (s' : World N L) (zoneId : String)
    (intent : Intent N) : Prop where
  | committed (i : Posted N L) (hi : i ∈ s.posted) (hzone : i.zoneId = zoneId)
      (hcarried : intent ∈ i.carried) (hcommits : (s.calls i.write.id).commits ≠ [])
  | read (shown : List (Output N L)) (hshows : Shows s s' zoneId shown)
      (hholds : holds shown intent)
  | superseded (hnewer : s.ledgers.Superseded zoneId intent)
  | forgotten (sceneId : Nat) (outputIds : List String) (through : Nat)
      (hevent : event = .forget sceneId outputIds through) (houtput : intent.outputId ∈ outputIds)
      (hthrough : intent.seq ≤ through)
  | cancelled (c : Cancelled) (hreport : Reports s s' (.cancelled c)) (hzone : c.zoneId = zoneId)
      (houtput : intent.outputId ∈ c.outputIds)
  | unconfirmed (lapse : Lapse) (hreport : Reports s s' (.unconfirmed zoneId lapse))

variable {cancelled : List Cancelled} {zid : String} {it : Intent N}

/-- What is told is reported. -/
lemma Leaves.of_told (h : Told cancelled zid it) (more : List Report)
    (hr : s'.reports = cancelled.map .cancelled ++ (more ++ s.reports)) : Leaves s e s' zid it := by
  obtain ⟨c, hc, hz, hou⟩ := h
  refine .cancelled c ⟨cancelled.map .cancelled ++ more, ?_, ?_⟩ hz hou
  · rw [hr, append_assoc]
  · exact mem_append_left _ (mem_map.mpr ⟨c, hc, rfl⟩)

variable {read : SceneRead N L}

/-- What a read holds was read. -/
lemma Leaves.of_held (h : HeldBy read zid it) (hr : s'.reads = read.drawn ++ s.reads) :
    Leaves s e s' zid it := by
  obtain ⟨z, hz, rfl, hh⟩ := h
  exact .read z.shown (.inl ⟨_, hr, mem_map.mpr ⟨z, hz, rfl⟩⟩) hh

variable {ledger : ZoneLedger N L}

/-- **An answer** retires only what a committed write carried. -/
theorem Inv.committed_of_answered (h : s.Inv reader refusal) (hi : i ∈ s.posted) {r : Reply}
    (hr : r ∈ (s.calls i.write.id).replies) {status : Nat} {rp : ZoneReply N L}
    (ha : (s.line i.write.id).classified reader i.keyed r = .final status (.ok (.applied
      rp))) (hl : s.ledgers.zone i.zoneId = some ledger) {sent : Sent N L}
    (hs : ledger.sent = some sent) (hid : sent.write.id = i.write.id)
    (hin : it ∈ ledger.pending) (ht : it.seq ≤ sent.through) :
    it ∈ i.carried ∧ (s.calls i.write.id).commits ≠ [] := by
  obtain ⟨-, -, hc⟩ := h.zone_of_out hi (SceneLedgers.mem_of_lookup hl) hs hid
  obtain ⟨rfl, hou, -, -⟩ := of_classify_final i.named ha
  obtain ⟨-, hon⟩ := (h.sound hi).applied hr (success_of_applied hou.symm)
  refine ⟨hc it hin ht, fun hn => ?_⟩
  have hco : (s.line i.write.id).commits = [] := hn
  rw [hco] at hon
  cases hon

/-- What a read leaves confirmed at a revision of after it is what was confirmed before. -/
lemma keeps_newer (s : World N L) (read : SceneRead N L) :
    SceneLedgers.Keeps (fun _ _ zid ledger => ledger.reanchor = false → ∀ c,
      ledger.confirmed = some c → read.revision < c.revision →
        ∃ old, (zid, old) ∈ s.ledgers.zones ∧ old.reanchor = false ∧ old.confirmed = some c) read where
  empty _ _ _ := nofun
  reanchored _ _ _ _ _ := nofun
  confirmed zone _ ledger hl := by
    unfold ZoneLedger.confirm
    split_ifs with hr
    · rintro - c hc hn
      obtain rfl := Option.some.inj hc
      exact absurd hn (lt_irrefl _)
    · exact hl
    · rintro - c hc hn
      obtain rfl := Option.some.inj hc
      exact absurd hn (lt_irrefl _)

/-- **The read after a stale answer** leaves a zone confirmed that was read. -/
theorem Inv.shown_of_refetched (h : s.Inv reader refusal) {t : Ticket} (hla : read.run ∉ s.heard.past)
    (hne : read.run = s.heard.run → s.heard.revision ≤ read.revision)
    (hrd : s'.reads = read.drawn ++ s.reads)
    (ht : (s.ledgers.admitRead t read).2 = .taken cancelled) {z : ZoneRead N L} (hz : z ∈ read.zones)
    (hl : (s.ledgers.admitRead t read).1.zone z.zoneId = some ledger) {c : Confirmed N L}
    (hc : (ledger.confirm read.revision z.raw z.shown).1.confirmed = some c) :
    Shows s s' z.zoneId c.shown := by
  have hb : s.ledgers.Each fun _ _ zid ledger => ledger.reanchor = false → ∀ c,
      ledger.confirmed = some c → read.revision < c.revision →
        ∃ old, (zid, old) ∈ s.ledgers.zones ∧ old.reanchor = false ∧ old.confirmed = some c :=
    fun entry he ha c hc _ => ⟨entry.2, he, ha, hc⟩
  have hk := ((hb.admitRead (keeps_newer s read) t).1.zone hl)
  have hd : (z.zoneId, z.shown) ∈ read.drawn := mem_map.mpr ⟨z, hz, rfl⟩
  unfold ZoneLedger.confirm at hc
  split_ifs at hc with hrn holder
  · obtain rfl := Option.some.inj hc
    exact .inl ⟨_, hrd, hd⟩
  · -- The zone was confirmed at a later revision than the read's, and so not by an answer.
    have hlt : read.revision < c.revision := by
      rw [hc] at holder
      exact of_decide_eq_true holder
    obtain ⟨old, hold, ha, hco⟩ := hk (Bool.eq_false_iff.mpr hrn) c hc hlt
    have hl' := h.ledgers _ hold
    refine .inr ⟨?_, old, c, hold, hco, rfl⟩
    rcases hl'.seen ha c hco with hre | hh
    · exact hre
    · exfalso
      have hna : s.ledgers.run ≠ "" := by
        intro hn
        have hkn := hl'.known ha c hco
        rw [hn] at hkn
        rcases hkn with ⟨hr, -⟩ | hp
        · exact h.named.1 hr.symm
        · exact h.named.2 hp
      have hr : s.ledgers.run = read.run := by
        have hca := SceneLedgers.admitRead_cases (s := s.ledgers) t read
        generalize s.ledgers.admitRead t read = admitted at hca ht
        rcases hca with _ | _ | _ | _ | ⟨-, hkn⟩
        iterate 4 cases ht
        · have hof := SceneLedgers.ofRun_run hkn
          unfold SceneLedgers.ofRun at hof
          rwa [if_neg hna] at hof
      rw [hr] at hh
      rcases hh with ⟨hs, hle⟩ | hp
      · exact absurd (hle.trans (hne hs)) (not_le.mpr hlt)
      · exact hla hp
  · obtain rfl := Option.some.inj hc
    exact .inl ⟨_, hrd, hd⟩

variable {ok : String → Intent N → Prop}

/-- What changes only the write that is out loses nothing. -/
lemma departs_sent {l : SceneLedgers N L} {ch : ZoneLedger N L → ZoneLedger N L}
    (h : ∀ ledger, l.zone zid = some ledger → (ch ledger).pending = ledger.pending) :
    Departs ok l (l.modify zid ch) :=
  SceneLedgers.departs_modify fun ledger hl => .of_eq (h ledger hl)

/-- An edit loses nothing. -/
lemma departs_edit (l : SceneLedgers N L) (seq sid : Nat) (zid : String)
    (ed : List (Output N L)) : Departs ok l (l.edit seq sid zid ed).1 := by
  unfold SceneLedgers.edit
  split_ifs
  · dsimp only
    split
    · exact SceneLedgers.departs_ensure zid
    · refine (SceneLedgers.departs_ensure zid).trans (SceneLedgers.departs_modify fun ledger _ => ?_)
      unfold ZoneLedger.edit
      split
      · exact .of_eq rfl
      · exact fun it hi => .inl (mem_append_left _ hi)
  · exact .refl l

/-- **One step** leaves no intent silently. -/
theorem Inv.departs (h : s.Inv reader refusal) (hsp : Step reader s e s') :
    Departs (Leaves s e s') s.ledgers s'.ledgers := by
  have hs : s.ledgers.Each fun _ _ _ ledger => InOrder ledger.pending := fun entry he =>
    (h.ledgers entry he).sorted
  rcases hsp with ⟨i, hi, lineEvent, hev, line, hli⟩ | ⟨rev, -⟩ | ⟨run, rev, -, -, -⟩ |
    ⟨run, hru⟩ | ⟨read, wanted, hre⟩ | ⟨ticket, read, hre⟩ |
    ⟨zid, ticket, read, hre, hla, hn⟩ | ⟨sceneId, zid, edited⟩ |
    ⟨sceneId, outputIds, through⟩ | ⟨i, ledger, hl, hca, hwr⟩ |
    ⟨i, hi, ledger, hl, hrt, hie⟩ | ⟨i, hi, r, hr, ha, hls, hln⟩ |
    ⟨i, hi, ha⟩
  iterate 3 exact .refl _
  · exact SceneLedgers.departs_enter run
  · -- observe
    rcases hcn : (s.ledgers.observe read wanted).2 with _ | cancelled
    · exact SceneLedgers.departs_observe_none hcn
    · refine (SceneLedgers.departs_observe hcn).imp fun z it _ ht => ?_
      exact .of_told ht [] rfl
  · -- readAndSettle
    refine (SceneLedgers.departs_readAndSettle hs ticket read).imp fun z it _ hw => ?_
    rcases hw with ht | hhe | hn | ⟨lapsed, hlp, -⟩
    · exact .of_told ht _ (append_assoc ..)
    · exact .of_held hhe rfl
    · exact .superseded hn
    · exact .unconfirmed lapsed.lapse ⟨_, rfl, mem_append_right _ (mem_map.mpr ⟨_, hlp, rfl⟩)⟩
  · -- afterStale
    refine (SceneLedgers.departs_afterStale hs zid ticket read).imp fun z it _ hw => ?_
    rcases hw with ht | hsu | ⟨rfl, cancelled, zone, ledger, c, htk, hz, rfl, hl, hc, hhl⟩
    · exact .of_told ht [_] rfl
    · exact .superseded hsu
    · exact .read c.shown (h.shown_of_refetched hla hn rfl htk hz hl hc) hhl
  · exact departs_edit s.ledgers s.seq sceneId zid edited
  · -- forget
    show Departs _ s.ledgers (s.ledgers.forget sceneId outputIds through)
    unfold SceneLedgers.forget
    split_ifs
    · refine SceneLedgers.departs_map (fun _ ledger => ledger.forget outputIds through)
        (fun zid ledger it hin => ?_) rfl
      by_cases hsy : through < it.seq ∨ it.outputId ∉ outputIds
      · exact .inl (mem_filter.mpr ⟨hin, decide_eq_true hsy⟩)
      · obtain ⟨hle, hou⟩ := not_or.mp hsy
        exact .inr (.forgotten sceneId outputIds through rfl (not_not.mp hou) (not_lt.mp hle))
    · exact .refl _
  · -- takeWrite
    obtain ⟨fd, key, hfn, htk, hst⟩ := SceneLedgers.takeWrite_eq_some hwr
    obtain ⟨conf, last, -, -, -, -, -, hlf⟩ := SceneLedgers.zone_takeWrite htk
    show Departs _ s.ledgers (s.ledgers.takeWrite i.zoneId).1
    rw [hst]
    refine departs_sent fun o hoh => ?_
    obtain rfl := Option.mem_unique hfn hoh
    rw [hlf]
  · exact .refl _
  · -- answer
    refine (SceneLedgers.departs_answer i.zoneId i.write _ _).imp fun z it _ hw => ?_
    obtain ⟨rfl, ⟨⟨status, reply, hf⟩, ledger, sent, hl, hin, hse, hid, hle⟩ | ⟨cancelled, hh, hou⟩⟩ := hw
    · obtain ⟨hca, hco⟩ :=
        h.committed_of_answered hi hr hf hl hse hid hin hle
      exact .committed i hi rfl hca hco
    · refine .cancelled ⟨i.zoneId, cancelled, .outputLeft⟩ ⟨_, rfl, ?_⟩ rfl hou
      have hh' : (s.answered reader i r).2 = .applied cancelled := hh
      rw [hh']
      exact mem_singleton_self _
  · exact departs_sent fun _ _ => rfl

/-- **No edit is lost silently**, of steady daemons. A write is committed at most once, and not after
the ledgers settled it. An intent that is not pending any more after a step left for a reason
(`Leaves`). -/
theorem edits_accounted (hs : (steadyMachine reader refusal).Reachable s) :
    (∀ i ∈ s.posted, (s.calls i.write.id).commits.length ≤ 1) ∧
    (∀ i ∈ s.posted, i.write.id ∈ s.settled → ∀ events s',
        (steadyMachine reader refusal).Run s events s' →
      (s'.calls i.write.id).commits = (s.calls i.write.id).commits) ∧
    ∀ event s', (steadyMachine reader refusal).step s event s' → ∀ zoneId intent,
      s.ledgers.Pends zoneId intent → s'.ledgers.Pends zoneId intent ∨ Leaves s event s' zoneId intent :=
  ⟨fun _ hi => ((inv hs).sound hi).recorded.once,
    fun _ hi hse _ _ hr => settled_commits hs hr hi hse,
    fun _ _ hst => (inv hs).departs hst.1⟩

/-- The steady runs are runs. -/
lemma reachable_of_steady (h : (steadyMachine reader refusal).Reachable s) :
    (machine reader).Reachable s := by
  induction h with
  | init hi => exact .init hi
  | step _ hs ih => exact ih.step hs.1

/-! ## One edit -/

/-- One output, of a zone of the first scene. -/
def drawnOutput : Output Nat Unit := ⟨"a", 4, 0, 1, 1, 0, 1, none, ()⟩

/-- The output moved. -/
def movedOutput : Output Nat Unit := { drawnOutput with x := 5 }

def drawnRead : SceneRead Nat Unit := ⟨1, 7, "run", [⟨"zone", [drawnOutput], [drawnOutput]⟩]⟩

def movedIntent : Intent Nat := ⟨1, "a", .x, .number 5⟩

def movedWrite : Write Nat Unit := ⟨1, "page" ++ ":" ++ toString 1, 7, "run", [movedOutput]⟩

def movedPosted : Posted Nat Unit := ⟨"zone", movedWrite, [movedIntent], by decide⟩

/-- A daemon at the seventh revision of its first run, and a page that knows nothing. -/
def firstWorld : World Nat Unit :=
  ⟨⟨"run", [], 7⟩, ⟨"run", [], 7⟩, .new "page", 0, [],
    fun _ => ⟨0, 0, fun _ => .unsent, .free, [], [], false⟩, [], [], []⟩

/-- The zone was read, the output moved, and the write taken. -/
def takenWorld : World Nat Unit :=
  { firstWorld.follow 1 (firstWorld.freshLine.attempts 0) true with
    ledgers := ⟨some 1, "run", 2, [("zone", ⟨some ⟨7, [drawnOutput], [drawnOutput]⟩, [movedIntent],
      some ⟨movedWrite, 1, false, 0, none⟩, false⟩)], 1, "page"⟩
    seq := 1
    posted := [movedPosted]
    reads := [("zone", [drawnOutput])] }

lemma taken_reachable (reader : BodyReader (ZoneReply Nat Unit)) (refusal : Nat → Option Nat) :
    (steadyMachine reader refusal).Reachable takenWorld := by
  have hr := Machine.Reachable.step (M := steadyMachine reader refusal)
    (.init (s := firstWorld) ⟨by decide, rfl, rfl, ⟨_, rfl⟩, rfl, rfl⟩)
    ⟨.observe _ drawnRead (some "zone") (.inl ⟨rfl, le_rfl⟩), trivial⟩
  have he := hr.step ⟨.edit _ 1 "zone" [movedOutput], trivial⟩
  exact he.step ⟨.takeWrite _ movedPosted _ rfl rfl rfl, trivial⟩

/-- A reader of replies that name the zone as it was written. -/
def movedReader : BodyReader (ZoneReply Nat Unit) :=
  ⟨fun _ => .ok ⟨[movedOutput], [movedOutput], some 8⟩, fun _ => .ok 8, fun _ => (none, none, none)⟩

/-- The write is committed and answered, and its intent leaves. -/
theorem edits_accounted_moved : ∃ (s s' : World Nat Unit) (event : WorldEvent Nat Unit),
    (steadyMachine movedReader fun _ => none).Reachable s ∧ s.ledgers.Pends "zone" movedIntent ∧
      ¬ s'.ledgers.Pends "zone" movedIntent ∧ Leaves s event s' "zone" movedIntent := by
  have hp : movedPosted ∈ [movedPosted] := mem_singleton_self _
  have hr := (taken_reachable movedReader fun _ => none).step
    ⟨.network _ movedPosted (by exact hp) (.arrive 0) trivial _ (.execute _ 0 rfl rfl), trivial⟩
  have hc := hr.step ⟨.network _ movedPosted (by exact hp) (.commit 8) trivial _
      (.commit _ 0 8 rfl rfl ⟨rfl, rfl⟩ (by decide)), rfl⟩
  have hs := hc.step ⟨.network _ movedPosted (by exact hp) (.settle (.answered ⟨200, [], []⟩)) trivial _
      (.settle _ 0 _ rfl nofun), ?_⟩
  · have hpe : SceneLedgers.Pends takenWorld.ledgers "zone" movedIntent :=
      ⟨_, mem_singleton_self _, mem_singleton_self _⟩
    have hg : ¬ SceneLedgers.Pends (takenWorld.answered movedReader movedPosted
        ⟨0, "run", false, ⟨200, [], []⟩, [0]⟩).1 "zone" movedIntent := by
      rintro ⟨ledger, hm, hpn⟩
      obtain ⟨-, rfl⟩ := Prod.mk.inj (mem_singleton.mp hm)
      cases hpn
    have hl : ∀ reply revision, movedReader.applied ⟨200, [], []⟩ = .ok reply →
        reply.landed = some revision → Moment.Has ⟨"run", [], 8⟩ "run" revision := by
      intro reply revision hre hl
      obtain rfl := Except.ok.inj hre
      obtain rfl := Option.some.inj hl
      exact .inl ⟨rfl, le_rfl⟩
    have hle := (edits_accounted hs).2.2 _ _
      ⟨.answer _ movedPosted (by exact hp) ⟨0, "run", false, ⟨200, [], []⟩, [0]⟩
        (mem_cons_self ..) rfl rfl hl, trivial⟩ "zone" movedIntent hpe
    exact ⟨_, _, _, hs, hpe, hg, hle.resolve_left hg⟩
  · intro executor hsl
    obtain rfl := Idempotency.KeySlot.running.inj hsl
    exact ⟨_, rfl, fun _ => rfl, nofun⟩

/-- A reader of bodies that are not replies. -/
def refusalReader : BodyReader (ZoneReply Nat Unit) :=
  ⟨fun _ => .error "", fun _ => .error "", fun _ => (none, none, none)⟩

/-- The first attempt is delayed, the second turned away for the rate limit, so that the ledgers settle
the write as refused. Then the first arrives and is committed. -/
theorem committed_after_settled :
    ¬ ∀ (reader : BodyReader (ZoneReply Nat Unit)) (s s' : World Nat Unit) (i : Posted Nat Unit)
      (events : List (WorldEvent Nat Unit)), (machine reader).Reachable s → i ∈ s.posted →
      i.write.id ∈ s.settled → (machine reader).Run s events s' →
      (s'.calls i.write.id).commits = (s.calls i.write.id).commits := by
  intro h
  have hp : movedPosted ∈ [movedPosted] := mem_singleton_self _
  have hl := (reachable_of_steady (taken_reachable refusalReader fun _ => none)).step
    (.noAnswer _ movedPosted (by exact hp) rfl)
  have hre := hl.step (.retry _ movedPosted (by exact hp) _ rfl rfl rfl)
  have ht := hre.step (.network _ movedPosted (by exact hp) (.turnAway 1 ⟨429, [], []⟩) trivial _
    (.turnAway _ 1 _ rfl rfl fun hs => absurd ⟨rfl, rfl⟩ hs))
  have hr := ht.step (.answer _ movedPosted (by exact hp) ⟨1, "run", false, ⟨429, [], []⟩, []⟩
    (mem_cons_self ..) rfl rfl nofun)
  have hk := h refusalReader _ _ movedPosted _ hr hp (mem_singleton.mpr rfl)
    (.snoc (.snoc .nil
        (.network _ movedPosted (by exact hp) (.arrive 0) trivial _ (.execute _ 0 rfl rfl)))
      (.network _ movedPosted (by exact hp) (.commit 8) trivial _
        (.commit _ 0 8 rfl rfl ⟨rfl, rfl⟩ (by decide))))
  have hn : [0] = [] := hk
  cases hn

end World

end Hypercolor.LayoutBuilder
