import Hypercolor.LayoutBuilder.Writer

/-!
# Confirmed is the daemon's

The daemon keeps one document per revision of a run, and names its runs. Every commit raises the
revision by one, and a layout write changes its own zone only. Reads show the document of some
revision, however old, and a reply shows the zone at the revision that it names.

**`confirmed_stored`**: whatever order reads, answers, advances, commits, restarts and changes of scene
come in,

* a ledger that does not wait to re-anchor has confirmed what its zone held in the ledgers' run at the
  confirmed revision;
* so a layout write that is committed changes no placement field without an intent that was pending
  when the write was taken.

Answers come in any number and any order, also of other runs: `classify` tells those apart.
-/

set_option linter.unusedSectionVars false

namespace Hypercolor.LayoutBuilder

open Lib List Option

/-! ## The daemon's documents -/

/-- The active scene at a revision: its zones with their stored outputs. -/
structure Doc (N L : Type) where
  sceneId : Nat
  outputs : String → Option (List (Output N L))

/-- The documents of every revision of every run. -/
abbrev Docs (N L : Type) := String → Nat → Option (Doc N L)

/-- A write with its zone, its scene and the intents that were pending when it was taken. -/
structure Issued (N L : Type) where
  zoneId : String
  sceneId : Nat
  write : Write N L
  carried : List (Intent N)

section Placements

variable {N L : Type} [BEq L]

/-- The placement of a member of a layout write. -/
def place (stored placement : Output N L) : Output N L :=
  { stored with
    x := placement.x
    y := placement.y
    width := placement.width
    height := placement.height
    rotation := placement.rotation
    scale := placement.scale
    orientation := placement.orientation }

/-- One placement of `layout_from_placements`. -/
def placeMember (stored : List (Output N L)) (placement : Output N L) : Option (Output N L) :=
  match findOutput stored placement.id with
  | none => none
  | some output => if placement.topology != output.topology then none else some (place output placement)

/-- `layout_from_placements`: `none` for the placements that the daemon refuses. -/
def layoutFromPlacements (stored placements : List (Output N L)) : Option (List (Output N L)) :=
  match placements.mapM (placeMember stored) with
  | none => none
  | some ordered => if ordered.length ≠ stored.length then none else some ordered

end Placements

variable {run z : String} {rev : Nat}

namespace Docs

variable {N L : Type}

section

variable (docs : Docs N L) (run : String) (revision : Nat)

/-- The documents with one more. -/
def record (doc : Doc N L) : Docs N L :=
  fun r v => if r = run ∧ v = revision then some doc else docs r v

/-- The zone's outputs at a revision, where the scene was the active one. -/
def Stores (scene : Option Nat) (zoneId : String) (raw : List (Output N L)) : Prop :=
  ∃ doc, docs run revision = some doc ∧ some doc.sceneId = scene ∧ doc.outputs zoneId = some raw

/-- The second document differs from the first in the zone only. -/
def OnlyZone (zoneId : String) : Prop :=
  ∃ doc doc', docs run revision = some doc ∧ docs run (revision + 1) = some doc' ∧
    doc'.sceneId = doc.sceneId ∧ ∀ other, other ≠ zoneId → doc'.outputs other = doc.outputs other

end

/-- Nothing recorded is lost or changed. -/
def Extends (docs docs' : Docs N L) : Prop :=
  ∀ run revision doc, docs run revision = some doc → docs' run revision = some doc

lemma extends_record {docs : Docs N L} (doc : Doc N L) (hn : docs run rev = none) :
    docs.Extends (docs.record run rev doc) := by
  intro r v old hold
  unfold record
  rw [if_neg]
  · exact hold
  · rintro ⟨rfl, rfl⟩
    rw [hn] at hold
    cases hold

lemma record_self (docs : Docs N L) (run : String) (rev : Nat) (doc : Doc N L) :
    docs.record run rev doc run rev = some doc := if_pos ⟨rfl, rfl⟩

variable {docs docs' : Docs N L} {sc : Option Nat} {raw : List (Output N L)}

lemma Stores.extends (h : docs.Stores run rev sc z raw) (he : docs.Extends docs') :
    docs'.Stores run rev sc z raw := by
  obtain ⟨doc, hd, hs, hraw⟩ := h
  exact ⟨doc, he _ _ _ hd, hs, hraw⟩

lemma OnlyZone.extends (h : docs.OnlyZone run rev z) (he : docs.Extends docs') :
    docs'.OnlyZone run rev z := by
  obtain ⟨doc, doc', hd, hd', hs⟩ := h
  exact ⟨doc, doc', he _ _ _ hd, he _ _ _ hd', hs⟩

/-- Another zone stands as it was. -/
lemma OnlyZone.stores (h : docs.OnlyZone run rev z) {o : String} (hn : o ≠ z)
    (hs : docs.Stores run rev sc o raw) : docs.Stores run (rev + 1) sc o raw := by
  obtain ⟨doc, doc', hd, hd', hsc, hos⟩ := h
  obtain ⟨fd, hf, ha, hraw⟩ := hs
  obtain rfl := mem_unique hd hf
  exact ⟨doc', hd', hsc ▸ ha, (hos o hn).trans hraw⟩

end Docs

/-! ## What a ledger holds -/

namespace ZoneLedger

variable {N L : Type} [BEq N]

/-- Confirmed is what the zone held, and the write that is out was issued for the zone. One whose key
still settles it is of the ledgers' run, and then the ledger does not wait to re-anchor. -/
structure Grounded (docs : Docs N L) (issued : List (Issued N L)) (run : String) (scene : Option Nat)
    (zoneId : String) (l : ZoneLedger N L) : Prop where
  confirmed : l.reanchor = false → ∀ c, l.confirmed = some c →
    docs.Stores run c.revision scene zoneId c.raw
  sent : ∀ sent, l.sent = some sent →
    ∃ i ∈ issued, i.write = sent.write ∧ i.zoneId = zoneId ∧ some i.sceneId = scene
  settles : ∀ sent, l.sent = some sent → sent.lapsed = none →
    sent.write.run = run ∧ l.reanchor = false

variable {docs docs' : Docs N L} {issued issued' : List (Issued N L)} {sc : Option Nat}
  {l l' : ZoneLedger N L}

lemma Grounded.empty : Grounded docs issued run sc z ({} : ZoneLedger N L) := ⟨nofun, nofun, nofun⟩

section

variable (h : l.Grounded docs issued run sc z)
include h

namespace Grounded

lemma mono (he : docs.Extends docs') (hiss : ∀ i ∈ issued, i ∈ issued') :
    l.Grounded docs' issued' run sc z := by
  refine ⟨fun ha c hc => (h.confirmed ha c hc).extends he, fun sent hs => ?_, h.settles⟩
  obtain ⟨i, hi, hw⟩ := h.sent sent hs
  exact ⟨i, hiss i hi, hw⟩

/-- What changes no more than the pending intents, and of the write that is out only how it can be
settled. -/
lemma of_sent (hc : l'.confirmed = l.confirmed) (hr : l'.reanchor = l.reanchor)
    (hs : ∀ sent', l'.sent = some sent' → ∃ sent, l.sent = some sent ∧ sent'.write = sent.write
      ∧ (sent'.lapsed = none → sent.lapsed = none)) : l'.Grounded docs issued run sc z := by
  refine ⟨?_, fun sent' hs' => ?_, fun sent' hs' hon => ?_⟩
  · rw [hc, hr]
    exact h.confirmed
  · obtain ⟨sent, hs, hw, -⟩ := hs sent' hs'
    rw [hw]
    exact h.sent sent hs
  · obtain ⟨sent, hs, hw, hl⟩ := hs sent' hs'
    rw [hw, hr]
    exact h.settles sent hs (hl hon)

lemma settle (id : Nat) : (l.settle id).Grounded docs issued run sc z := by
  refine h.of_sent rfl rfl fun sent hs => ⟨sent, ?_, rfl, fun hn => hn⟩
  exact (filter_eq_some_iff.mp hs).1

lemma retire (th : Nat) : (l.retire th).Grounded docs issued run sc z :=
  h.of_sent rfl rfl fun sent hs => ⟨sent, hs, rfl, id⟩

lemma forget (ids : List String) (th : Nat) : (l.forget ids th).Grounded docs issued run sc z :=
  h.of_sent rfl rfl fun sent hs => ⟨sent, hs, rfl, id⟩

lemma edit (seq : Nat) (ed : List (Output N L)) : (l.edit seq ed).1.Grounded docs issued run sc z := by
  unfold ZoneLedger.edit
  split
  · exact h
  · exact h.of_sent rfl rfl fun sent hs => ⟨sent, hs, rfl, id⟩

lemma modifySent (id : Nat) {ch : Sent N L → Sent N L} (hw : ∀ sent, (ch sent).write = sent.write)
    (hl : ∀ sent, (ch sent).lapsed = none → sent.lapsed = none) :
    (l.modifySent id ch).Grounded docs issued run sc z := by
  refine h.of_sent rfl rfl fun sent' hs' => ?_
  obtain ⟨sent, hs, rfl⟩ := map_eq_some_iff.mp hs'
  refine ⟨sent, hs, ?_⟩
  split_ifs
  · exact ⟨hw sent, hl sent⟩
  · exact ⟨rfl, fun hn => hn⟩

lemma lost (id : Nat) : (l.lost id).Grounded docs issued run sc z :=
  h.modifySent id (fun _ => rfl) fun _ hn => hn

lemma stranded (id : Nat) (why : Lapse) : (l.stranded id why).Grounded docs issued run sc z :=
  h.modifySent id (fun _ => rfl) nofun

lemma startReanchor (run' : String) : l.startReanchor.Grounded docs issued run' sc z := by
  refine ⟨nofun, fun sent' hs' => ?_, fun sent' hs' hon => ?_⟩
  · obtain ⟨sent, hs, rfl⟩ := map_eq_some_iff.mp hs'
    exact h.sent sent hs
  · obtain ⟨sent, hs, rfl⟩ := map_eq_some_iff.mp hs'
    cases hon

end Grounded

end

variable {raw : List (Output N L)}

section

variable (h : l.Grounded docs issued run sc z) (shown : List (Output N L))
  (hraw : docs.Stores run rev sc z raw)
include h hraw

lemma Grounded.adopt : (l.adopt rev raw shown).1.Grounded docs issued run sc z := by
  refine ⟨fun _ c hc => ?_, h.sent, h.settles⟩
  obtain rfl := some.inj hc
  exact hraw

lemma Grounded.confirm : (l.confirm rev raw shown).1.Grounded docs issued run sc z := by
  unfold ZoneLedger.confirm
  split_ifs with hr
  · refine ⟨fun _ c hc => ?_, h.sent, fun sent hs hon => ?_⟩
    · obtain rfl := some.inj hc
      exact hraw
    · exact ⟨(h.settles sent hs hon).1, rfl⟩
  · exact h
  · exact h.adopt shown hraw

lemma Grounded.settleEnded : (l.settleEnded rev raw shown).1.Grounded docs issued run sc z := by
  unfold ZoneLedger.settleEnded
  split
  · refine Grounded.confirm ?_ shown hraw
    exact h.of_sent rfl rfl nofun
  · exact h

lemma Grounded.refetched : (l.refetched rev raw shown).1.Grounded docs issued run sc z := by
  have hc := h.confirm shown hraw
  unfold ZoneLedger.refetched
  dsimp only
  split
  · exact hc
  · exact hc.of_sent rfl rfl fun sent hs => ⟨sent, hs, rfl, id⟩

end

/-- Another zone's write landed right after confirmed. -/
lemma Grounded.advance (h : l.Grounded docs issued run sc z) {before : Nat} {wr : String}
    (hn : z ≠ wr) (hon : docs.OnlyZone run before wr) :
    (l.advance before (before + 1)).Grounded docs issued run sc z := by
  unfold ZoneLedger.advance
  split_ifs with hr
  · exact h
  · refine ⟨fun ha c hc => ?_, h.sent, h.settles⟩
    obtain ⟨old, hold, rfl⟩ := map_eq_some_iff.mp hc
    have hs := h.confirmed ha old hold
    split_ifs with hb
    · exact hon.stores hn (hb ▸ hs)
    · exact hs

/-- **The reply to a write.** It is taken only while the key settles the write, and so is of the
ledgers' run. -/
lemma Grounded.applied (h : l.Grounded docs issued run sc z) {id : Nat}
    {landed : Option Nat} (shown : List (Output N L))
    (hraw : ∀ sent, l.sent = some sent → sent.write.id = id → sent.write.run = run → ∀ rev,
      landed = some rev → docs.Stores run rev sc z raw) :
    (l.applied id landed raw shown).1.Grounded docs issued run sc z := by
  unfold ZoneLedger.applied
  split
  · exact h
  · rename_i sent hf
    obtain ⟨hs, hi⟩ := filter_eq_some_iff.mp hf
    split_ifs with hl
    · refine h.of_sent rfl rfl fun sent' hs' => ?_
      obtain rfl := some.inj hs'
      exact ⟨sent, hs, rfl, fun hn => hn⟩
    · have hon : sent.lapsed = none := by simpa using hl
      have hse := (h.settle id).retire sent.through
      dsimp only
      split
      · exact hse
      · rename_i rev
        split_ifs
        · exact hse.adopt shown (hraw sent hs (of_decide_eq_true hi) (h.settles sent hs hon).1 rev rfl)
        · exact hse

end ZoneLedger

/-! ## What a write changes -/

section Placements

variable {N L α β : Type}

/-- The output is the same, but for the fields that an intent is for. -/
def Untouched (intents : List (Intent N)) (output output' : Output N L) : Prop :=
  output'.id = output.id ∧ ∀ field,
    (∀ intent ∈ intents, ¬ (intent.outputId = output.id ∧ intent.field = field)) →
      field.read output' = field.read output

variable {as : List α} {bs : List β}

lemma forall₂_comp {γ : Type} {R : α → β → Prop} {S : β → γ → Prop} {T : α → γ → Prop}
    (hc : ∀ a b c, R a b → S b c → T a c) {cs : List γ} (h : List.Forall₂ R as bs)
    (h' : List.Forall₂ S bs cs) : List.Forall₂ T as cs := by
  induction h generalizing cs with
  | nil =>
    obtain rfl := forall₂_nil_left_iff.mp h'
    exact .nil
  | cons ha _ ih =>
    obtain ⟨c, cs, hb, hr, rfl⟩ := forall₂_cons_left_iff.mp h'
    exact .cons (hc _ _ _ ha hb) (ih hr)

variable (intents : List (Intent N)) (outputs : List (Output N L))

lemma untouched_refl : List.Forall₂ (Untouched intents) outputs outputs :=
  forall₂_same.mpr fun _ _ => ⟨rfl, fun _ _ => rfl⟩

lemma modifyOutput_untouched (it : Intent N) (outputs : List (Output N L)) :
    List.Forall₂ (Untouched [it]) outputs
      (modifyOutput it.outputId (it.field.write · it.value) outputs) := by
  induction outputs with
  | nil => exact .nil
  | cons o outputs ih =>
    unfold modifyOutput
    split_ifs with hi
    · refine .cons ⟨it.field.write_id _ _, fun f hn => ?_⟩ (untouched_refl _ _)
      have hne : it.field ≠ f := fun hf =>
        hn it (mem_singleton_self _) ⟨hi.symm, hf⟩
      exact Field.read_write_of_ne hne o it.value
    · exact .cons ⟨rfl, fun _ _ => rfl⟩ ih

/-- **Applying intents** touches only their fields. -/
theorem apply_untouched : List.Forall₂ (Untouched intents) outputs (apply outputs intents) := by
  induction intents generalizing outputs with
  | nil => exact untouched_refl _ _
  | cons it intents ih =>
    refine forall₂_comp ?_ (modifyOutput_untouched it outputs) (ih _)
    rintro a b c ⟨hi, hf⟩ ⟨hi', hr⟩
    refine ⟨hi'.trans hi, fun f hn => ?_⟩
    have ht := hr f fun o hoh => hi ▸ hn o (mem_cons_of_mem _ hoh)
    refine ht.trans (hf f fun o hoh => ?_)
    obtain rfl := mem_singleton.mp hoh
    exact hn o mem_cons_self

lemma read_place (f : Field) (stored pl : Output N L) : f.read (place stored pl) = f.read pl := by
  cases f <;> rfl

variable [BEq L]

variable {stored : List (Output N L)}

lemma of_placeMember {pl o : Output N L} (h : placeMember stored pl = some o) :
    o.id = pl.id ∧ ∀ f : Field, f.read o = f.read pl := by
  unfold placeMember at h
  split at h
  · cases h
  · rename_i fd hf
    split_ifs at h
    obtain rfl := some.inj h
    refine ⟨?_, fun f => read_place f fd pl⟩
    show fd.id = pl.id
    simpa using find?_some hf

lemma forall₂_of_mapM {f : α → Option β} (h : as.mapM f = some bs) :
    List.Forall₂ (fun a b => f a = some b) as bs := by
  induction as generalizing bs with
  | nil =>
    obtain rfl : [] = bs := by simpa using h
    exact .nil
  | cons a as ih =>
    simp only [mapM_cons, Option.bind_eq_bind, Option.pure_def, Option.bind_eq_some_iff,
      Option.some.injEq] at h
    obtain ⟨b, hb, bs, hbs, rfl⟩ := h
    exact .cons hb (ih hbs)

/-- **A layout write** that is stored touches only the fields of the intents that it carries, where the
zone is what the write was made from. -/
lemma layoutFromPlacements_untouched {after : List (Output N L)} {intents : List (Intent N)}
    (h : layoutFromPlacements stored (apply stored intents) = some after) :
    List.Forall₂ (Untouched intents) stored after := by
  unfold layoutFromPlacements at h
  split at h
  · cases h
  · rename_i ordered hor
    split_ifs at h
    obtain rfl := some.inj h
    refine forall₂_comp ?_ (apply_untouched intents stored) (forall₂_of_mapM hor)
    rintro a b c ⟨hi, hf⟩ hp
    obtain ⟨hi', hr⟩ := of_placeMember hp
    exact ⟨hi'.trans hi, fun f hn => (hr f).trans (hf f hn)⟩

end Placements

/-! ## The daemon and the page -/

/-- The daemon with its documents, and the page with its ledgers. `committed` has the ids of the writes
that were committed. -/
structure Site (N L : Type) where
  run : String
  past : List String
  revision : Nat
  docs : Docs N L
  ledgers : SceneLedgers N L
  seq : Nat
  issued : List (Issued N L)
  committed : List Nat

/-- What can happen. -/
inductive SiteEvent (N L : Type) where
  | commit (i : Issued N L)
  | remoteCommit (doc : Doc N L)
  | restart (run : String) (revision : Nat) (doc : Doc N L)
  | enter (run : String)
  | observe (read : SceneRead N L) (wanted : Option String)
  | readAndSettle (ticket : Ticket) (read : SceneRead N L)
  | afterStale (zoneId : String) (ticket : Ticket) (read : SceneRead N L)
  | edit (sceneId : Nat) (zoneId : String) (edited : List (Output N L))
  | forget (sceneId : Nat) (outputIds : List String) (through : Nat)
  | takeWrite (i : Issued N L)
  | answer (i : Issued N L) (unanswered : Nat) (response : KeyedResponse (ZoneReply N L))

namespace Site

variable {N L : Type} [BEq N] [BEq L]

/-- The read shows the document of its revision. -/
def Shows (s : Site N L) (read : SceneRead N L) : Prop :=
  ∀ zone ∈ read.zones, s.docs.Stores read.run read.revision (some read.sceneId) zone.zoneId zone.raw

/-- The reply is to a write that was committed, and shows the zone at the revision that it names. -/
def Truthful (s : Site N L) (i : Issued N L) (reply : ZoneReply N L) : Prop :=
  i.write.id ∈ s.committed ∧ ∀ revision, reply.landed = some revision →
    s.docs.Stores i.write.run revision (some i.sceneId) i.zoneId reply.raw

/-- One step. -/
inductive Step : Site N L → SiteEvent N L → Site N L → Prop where
  | commit (s : Site N L) (i : Issued N L) (hi : i ∈ s.issued) (hrun : i.write.run = s.run)
      (hfence : i.write.fence = s.revision) (doc : Doc N L) (hdoc : s.docs s.run s.revision = some doc)
      (stored after : List (Output N L)) (hstored : doc.outputs i.zoneId = some stored)
      (hafter : layoutFromPlacements stored i.write.outputs = some after) :
      Step s (.commit i)
        { s with
          revision := s.revision + 1
          docs := s.docs.record s.run (s.revision + 1)
            ⟨doc.sceneId, Function.update doc.outputs i.zoneId (some after)⟩
          committed := i.write.id :: s.committed }
  | remoteCommit (s : Site N L) (doc : Doc N L) :
      Step s (.remoteCommit doc)
        { s with revision := s.revision + 1, docs := s.docs.record s.run (s.revision + 1) doc }
  | restart (s : Site N L) (run : String) (revision : Nat) (doc : Doc N L) (hnamed : run ≠ "")
      (hnew : run ≠ s.run) (hfresh : run ∉ s.past) :
      Step s (.restart run revision doc)
        { s with
          run := run
          past := s.run :: s.past
          revision := revision
          docs := s.docs.record run revision doc }
  | enter (s : Site N L) (run : String) :
      Step s (.enter run) { s with ledgers := (s.ledgers.enter run).1 }
  | observe (s : Site N L) (read : SceneRead N L) (wanted : Option String) (hread : s.Shows read) :
      Step s (.observe read wanted) { s with ledgers := (s.ledgers.observe read wanted).1 }
  | readAndSettle (s : Site N L) (ticket : Ticket) (read : SceneRead N L) (hread : s.Shows read) :
      Step s (.readAndSettle ticket read)
        { s with ledgers := (s.ledgers.readAndSettle ticket read).1 }
  | afterStale (s : Site N L) (zoneId : String) (ticket : Ticket) (read : SceneRead N L)
      (hread : s.Shows read) :
      Step s (.afterStale zoneId ticket read)
        { s with ledgers := (s.ledgers.afterStale zoneId ticket read).1 }
  | edit (s : Site N L) (sceneId : Nat) (zoneId : String) (edited : List (Output N L)) :
      Step s (.edit sceneId zoneId edited)
        { s with
          ledgers := (s.ledgers.edit s.seq sceneId zoneId edited).1
          seq := (s.ledgers.edit s.seq sceneId zoneId edited).2 }
  | forget (s : Site N L) (sceneId : Nat) (outputIds : List String) (through : Nat) :
      Step s (.forget sceneId outputIds through)
        { s with ledgers := s.ledgers.forget sceneId outputIds through }
  | takeWrite (s : Site N L) (i : Issued N L) (ledger : ZoneLedger N L)
      (hledger : s.ledgers.zone i.zoneId = some ledger) (hscene : s.ledgers.sceneId = some i.sceneId)
      (hcarried : i.carried = ledger.pending)
      (hwrite : (s.ledgers.takeWrite i.zoneId).2 = some i.write) :
      Step s (.takeWrite i)
        { s with ledgers := (s.ledgers.takeWrite i.zoneId).1, issued := i :: s.issued }
  | answer (s : Site N L) (i : Issued N L) (hi : i ∈ s.issued) (unanswered : Nat)
      (response : KeyedResponse (ZoneReply N L))
      (htruthful : response.run = some i.write.run → ∀ reply,
        response.outcome = .ok (.applied reply) → s.Truthful i reply) :
      Step s (.answer i unanswered response)
        { s with ledgers := (s.ledgers.answer i.zoneId i.write unanswered response).1 }

/-- One run with one document, and a page that knows nothing. -/
def Initial (s : Site N L) : Prop :=
  s.run ≠ "" ∧ s.past = [] ∧ s.issued = [] ∧ s.committed = [] ∧
    (∃ keyPrefix, s.ledgers = .new keyPrefix) ∧
    ∃ doc, s.docs = Docs.record (fun _ _ => none) s.run s.revision doc

/-- The daemon and the page as a machine. -/
def machine (N L : Type) [BEq N] [BEq L] : Machine (Site N L) (SiteEvent N L) where
  init := Initial
  step := Step

end Site

/-! ## The invariant -/

namespace Site

variable {N L : Type} [BEq N] [BEq L] {s s' : Site N L} {event : SiteEvent N L}

/-- What holds in every run. -/
structure Inv (s : Site N L) : Prop where
  fresh : s.run ∉ s.past
  named : s.run ≠ ""
  logged : ∀ run revision doc, s.docs run revision = some doc →
    run ≠ "" ∧ (run = s.run ∧ revision ≤ s.revision ∨ run ∈ s.past)
  ledgers : s.ledgers.Each (ZoneLedger.Grounded s.docs s.issued)
  ids : ∀ i ∈ s.issued, i.write.id ≤ s.ledgers.lastWrite
  handed : ∀ id ∈ s.committed, id ≤ s.ledgers.lastWrite
  unique : ∀ i ∈ s.issued, ∀ j ∈ s.issued, i.write.id = j.write.id → i = j
  carried : ∀ i ∈ s.issued, ∃ raw,
    s.docs.Stores i.write.run i.write.fence (some i.sceneId) i.zoneId raw ∧
      i.write.outputs = apply raw i.carried
  landed : ∀ i ∈ s.issued, i.write.id ∈ s.committed →
    s.docs.OnlyZone i.write.run i.write.fence i.zoneId

lemma Initial.inv (h : s.Initial) : s.Inv := by
  obtain ⟨hn, hp, hi, hc, ⟨keyPrefix, hl⟩, doc, hd⟩ := h
  refine ⟨?_, hn, fun run rev fd hf => ?_, ?_, ?_, ?_, ?_, ?_, ?_⟩
  · simp [hp]
  · rw [hd] at hf
    unfold Docs.record at hf
    split_ifs at hf with he
    · exact ⟨he.1 ▸ hn, .inl ⟨he.1, he.2.le⟩⟩
  · rw [hl]
    exact nofun
  · simp [hi]
  · simp [hc]
  · simp [hi]
  · simp [hi]
  · simp [hi]

lemma Inv.next (h : s.Inv) : s.docs s.run (s.revision + 1) = none := by
  by_contra hs
  obtain ⟨doc, hd⟩ := ne_none_iff_exists'.mp hs
  rcases (h.logged _ _ _ hd).2 with ⟨-, hl⟩ | hp
  · omega
  · exact h.fresh hp

/-- A commit: one more document of the run. -/
lemma Inv.commits (h : s.Inv) (doc : Doc N L) {committed : List Nat}
    (hh : ∀ id ∈ committed, id ≤ s.ledgers.lastWrite)
    (hl : ∀ i ∈ s.issued, i.write.id ∈ committed → i.write.id ∈ s.committed ∨
        (s.docs.record s.run (s.revision + 1) doc).OnlyZone i.write.run i.write.fence i.zoneId) :
    Inv { s with
      revision := s.revision + 1
      docs := s.docs.record s.run (s.revision + 1) doc
      committed := committed } := by
  have he := Docs.extends_record doc h.next
  refine ⟨h.fresh, h.named, fun run rev fd hf => ?_, fun e hen => ?_, h.ids, hh,
    h.unique, fun i hi => ?_, fun i hi hc => ?_⟩
  · have hf' : s.docs.record s.run (s.revision + 1) doc run rev = some fd := hf
    unfold Docs.record at hf'
    split_ifs at hf' with heq
    · exact ⟨heq.1 ▸ h.named, .inl ⟨heq.1, heq.2.le⟩⟩
    · obtain ⟨hr, hw⟩ := h.logged _ _ _ hf'
      exact ⟨hr, hw.imp_left fun hn => ⟨hn.1, hn.2.trans (Nat.le_succ _)⟩⟩
  · exact (h.ledgers e hen).mono he fun _ => id
  · obtain ⟨raw, hraw, hou⟩ := h.carried i hi
    exact ⟨raw, hraw.extends he, hou⟩
  · rcases hl i hi hc with hold | hne
    · exact (h.landed i hi hold).extends he
    · exact hne

/-- A step of the page that hands out no write. -/
lemma Inv.page (h : s.Inv) {ledgers : SceneLedgers N L} (seq : Nat)
    (he : ledgers.Each (ZoneLedger.Grounded s.docs s.issued))
    (hu : s.ledgers.Upholds ledgers) : Inv { s with ledgers := ledgers, seq := seq } :=
  have hl := hu.lastWrite
  ⟨h.fresh, h.named, h.logged, he, fun i hi => (h.ids i hi).trans hl.ge,
    fun id hid => (h.handed id hid).trans hl.ge, h.unique, h.carried, h.landed⟩

/-- What a read that shows a document does to the ledgers. -/
lemma Shows.keeps {read : SceneRead N L} (h : s.Shows read) :
    SceneLedgers.Keeps (ZoneLedger.Grounded s.docs s.issued) read where
  empty _ _ _ := .empty
  reanchored run _ _ _ hl := hl.startReanchor run
  confirmed zone hz _ hl := hl.confirm zone.shown (h zone hz)

lemma Inv.restart (h : s.Inv) (rev : Nat) (doc : Doc N L) (hna : run ≠ "")
    (hne : run ≠ s.run) (hfr : run ∉ s.past) :
    Inv { s with
      run := run
      past := s.run :: s.past
      revision := rev
      docs := s.docs.record run rev doc } := by
  have hn : s.docs run rev = none := by
    by_contra hs
    obtain ⟨fd, hf⟩ := ne_none_iff_exists'.mp hs
    rcases (h.logged _ _ _ hf).2 with ⟨hr, -⟩ | hp
    · exact hne hr
    · exact hfr hp
  have he := Docs.extends_record doc hn
  refine ⟨?_, hna, fun o v fd hf => ?_, fun e hen => ?_, h.ids, h.handed, h.unique,
    fun i hi => ?_, fun i hi hc => (h.landed i hi hc).extends he⟩
  · simp [hne, hfr]
  · have hf' : s.docs.record run rev doc o v = some fd := hf
    unfold Docs.record at hf'
    split_ifs at hf' with heq
    · exact ⟨heq.1 ▸ hna, .inl ⟨heq.1, heq.2.le⟩⟩
    · obtain ⟨hoh, hw⟩ := h.logged _ _ _ hf'
      refine ⟨hoh, .inr ?_⟩
      rcases hw with ⟨rfl, -⟩ | hp
      · exact mem_cons_self
      · exact mem_cons_of_mem _ hp
  · exact (h.ledgers e hen).mono he fun _ => id
  · obtain ⟨raw, hraw, hou⟩ := h.carried i hi
    exact ⟨raw, hraw.extends he, hou⟩

variable {i : Issued N L}

/-- The write that is out in a ledger is the one that was issued with its id. -/
lemma Inv.issued_of_sent (h : s.Inv) (hi : i ∈ s.issued) {sc : Option Nat} {z : String}
    {l : ZoneLedger N L} (hl : l.Grounded s.docs s.issued run sc z) {sent : Sent N L}
    (hs : l.sent = some sent) (hid : sent.write.id = i.write.id) :
    sent.write = i.write ∧ z = i.zoneId ∧ sc = some i.sceneId := by
  obtain ⟨j, hj, hw, hz, hsc⟩ := hl.sent sent hs
  obtain rfl : j = i := h.unique j hj i hi (by rw [hw, hid])
  exact ⟨hw.symm, hz.symm, hsc.symm⟩

/-- **An applied answer**, with the other zones advanced where it landed right after its fence. -/
theorem Inv.applied (h : s.Inv) (hi : i ∈ s.issued) {rp : ZoneReply N L} (ht : s.Truthful i rp) :
    (s.ledgers.applied i.zoneId i.write rp).1.Each (ZoneLedger.Grounded s.docs s.issued) := by
  obtain ⟨hc, hst⟩ := ht
  have hm : (s.ledgers.modify i.zoneId fun lg =>
      (lg.applied i.write.id rp.landed rp.raw rp.shown).1).Each
        (ZoneLedger.Grounded s.docs s.issued) := by
    refine h.ledgers.modify fun lg _ hl => hl.applied rp.shown ?_
    intro sent hs hid hr rev hla
    obtain ⟨hw, -, hsc⟩ := h.issued_of_sent hi hl hs hid
    rw [hw] at hr
    rw [hsc, ← hr]
    exact hst rev hla
  unfold SceneLedgers.applied
  split
  · exact h.ledgers
  · rename_i lg hz
    have hl := h.ledgers.zone hz
    split
    · exact hm
    · rename_i cancelled ha
      split_ifs with hn
      · -- The write's key still settled it, so it is of the ledgers' run.
        obtain ⟨sent, hs, hid, hon⟩ := ZoneLedger.of_applied ha
        obtain ⟨hw, -, -⟩ := h.issued_of_sent hi hl hs hid
        have hr := (hl.settles sent hs hon).1
        rw [hw] at hr
        have hoy : s.docs.OnlyZone s.ledgers.run i.write.fence i.zoneId := hr ▸ h.landed i hi hc
        intro e he
        obtain ⟨old, hold, rfl⟩ := mem_map.mp he
        have hg := hm old hold
        dsimp only
        split_ifs with hsa
        · exact hg
        · exact hg.advance hsa hoy
      · exact hm

/-- **An answer** of whatever kind. -/
theorem Inv.answer (h : s.Inv) (hi : i ∈ s.issued) (un : Nat) {resp : KeyedResponse (ZoneReply N L)}
    (ht : resp.run = some i.write.run → ∀ rp, resp.outcome = .ok (.applied
      rp) → s.Truthful i rp) : (s.ledgers.answer i.zoneId i.write un resp).1.Each
      (ZoneLedger.Grounded s.docs s.issued) := by
  have hr : i.write.run ≠ "" := by
    obtain ⟨raw, ⟨doc, hd, -, -⟩, -⟩ := h.carried i hi
    exact (h.logged _ _ _ hd).1
  unfold SceneLedgers.answer
  split
  · exact h.ledgers.modify fun _ _ hl => hl.lost _
  iterate 2 exact h.ledgers.modify fun _ _ hl => hl.stranded _ _
  · rename_i rp hf
    obtain ⟨hs, hou⟩ := classify_final_run hr hf
    exact h.applied hi (ht hs rp hou.symm)
  · exact h.ledgers.modify fun _ _ hl => hl.settle _
  · split_ifs
    iterate 2 exact h.ledgers.modify fun _ _ hl => hl.settle _
    · exact h.ledgers.modify fun _ _ hl => hl.stranded _ _
    · exact h.ledgers.modify fun _ _ hl => hl.settle _

/-- **A write** is made from what its zone held at its fence. -/
theorem Inv.takeWrite (h : s.Inv) {lg : ZoneLedger N L} (hld : s.ledgers.zone i.zoneId = some lg)
    (hsc : s.ledgers.sceneId = some i.sceneId) (hca : i.carried = lg.pending)
    (hw : (s.ledgers.takeWrite i.zoneId).2 = some i.write) :
    Inv { s with ledgers := (s.ledgers.takeWrite i.zoneId).1, issued := i :: s.issued } := by
  obtain ⟨fd, key, hfn, ht, hst⟩ := SceneLedgers.takeWrite_eq_some hw
  obtain rfl := some.inj (hld.symm.trans hfn)
  obtain ⟨conf, last, hco, ha, hs, -, hm, hlf⟩ := SceneLedgers.zone_takeWrite ht
  have hg := h.ledgers.zone hld
  have hmo : ∀ j ∈ s.issued, j ∈ i :: s.issued := fun j hj => mem_cons_of_mem _ hj
  have hi : i.write.id = s.ledgers.lastWrite + 1 := by rw [hm]
  have hr : i.write.run = s.ledgers.run := by rw [hm]
  have hf : ∀ j ∈ s.issued, j.write.id ≠ i.write.id := by
    intro j hj heq
    have hle := h.ids j hj
    omega
  rw [hst]
  refine ⟨h.fresh, h.named, h.logged, ?_, ?_, ?_, ?_, ?_, ?_⟩
  · have hmn : s.ledgers.Each (ZoneLedger.Grounded s.docs (i :: s.issued)) := fun e he =>
      (h.ledgers e he).mono (fun _ _ _ => id) hmo
    have hmd : (s.ledgers.modify i.zoneId fun l =>
        (l.takeWrite s.ledgers.run (s.ledgers.lastWrite + 1) key).1).Each
          (ZoneLedger.Grounded s.docs (i :: s.issued)) := by
      refine hmn.modify fun l hl hgr => ?_
      obtain rfl := some.inj (hld.symm.trans hl)
      rw [hlf]
      refine ⟨hgr.confirmed, fun sent hou => ?_, fun sent hou _ => ?_⟩
      · obtain rfl := some.inj hou
        exact ⟨i, mem_cons_self, rfl, rfl, hsc.symm⟩
      · obtain rfl := some.inj hou
        exact ⟨hr, ha⟩
    exact hmd
  · intro j hj
    rcases mem_cons.mp hj with rfl | hold
    · exact hi.le
    · exact (h.ids j hold).trans (Nat.le_succ _)
  · exact fun id hc => (h.handed id hc).trans (Nat.le_succ _)
  · intro j hj k hk heq
    rcases mem_cons.mp hj with rfl | hold
    · rcases mem_cons.mp hk with rfl | hold'
      · rfl
      · exact absurd heq.symm (hf k hold')
    · rcases mem_cons.mp hk with rfl | hold'
      · exact absurd heq (hf j hold)
      · exact h.unique j hold k hold' heq
  · intro j hj
    rcases mem_cons.mp hj with rfl | hold
    · refine ⟨conf.raw, ?_, ?_⟩
      · rw [hr, ← hsc]
        rw [hm]
        exact hg.confirmed ha conf hco
      · rw [hca, hm]
    · exact h.carried j hold
  · intro j hj hc
    rcases mem_cons.mp hj with rfl | hold
    · have hle := h.handed _ hc
      omega
    · exact h.landed j hold hc

/-- **One step** keeps the invariant. -/
theorem Inv.step (h : s.Inv) (hs : Step s event s') : s'.Inv := by
  cases hs with
  | commit i hi hru hf doc hd stored after hst ha =>
    refine h.commits _ ?_ fun j hj hc => ?_
    · intro id hid
      rcases mem_cons.mp hid with rfl | hold
      · exact h.ids i hi
      · exact h.handed id hold
    · rcases mem_cons.mp hc with heq | hold
      · obtain rfl := h.unique j hj i hi heq
        refine .inr ⟨doc, ⟨doc.sceneId, Function.update doc.outputs j.zoneId (some after)⟩, ?_, ?_, rfl,
          fun o hne => Function.update_of_ne hne _ _⟩
        · rw [hru, hf]
          exact Docs.extends_record _ h.next _ _ _ hd
        · rw [hru, hf]
          exact Docs.record_self ..
      · exact .inl hold
  | remoteCommit doc => exact h.commits doc h.handed fun _ _ hc => .inl hc
  | restart run rev doc hn hnw hfr => exact h.restart rev doc hn hnw hfr
  | enter run =>
    have he := h.ledgers.enter fun _ _ _ hl => hl.startReanchor run
    exact h.page s.seq he (.enter _)
  | observe read wa hr =>
    exact h.page s.seq (h.ledgers.observe hr.keeps wa) (.observe _ _)
  | readAndSettle t read hr =>
    have he := h.ledgers.readAndSettle hr.keeps (fun zn hz _ hl => hl.settleEnded zn.shown (hr zn hz)) t
    exact h.page s.seq he (.readAndSettle _ _)
  | afterStale z t read hr =>
    have he := h.ledgers.afterStale hr.keeps (fun zn hz _ hl => hl.refetched zn.shown (hr zn hz)) z t
    exact h.page s.seq he (.afterStale _ _ _)
  | edit sid z ed =>
    have he := h.ledgers.edit s.seq sid z ed .empty fun _ hl =>
      hl.edit s.seq ed
    exact h.page _ he (.edit _ _ _ _)
  | forget sid ids th =>
    have he := h.ledgers.forget sid ids th fun _ _ hl =>
      hl.forget ids th
    exact h.page s.seq he (.forget _ _ _)
  | takeWrite i lg hl hsc hca hw =>
    exact h.takeWrite hl hsc hca hw
  | answer i hi un resp ht =>
    exact h.page s.seq (h.answer hi un ht) (.answer _ _ _ _)

theorem inv (h : (machine N L).Reachable s) : s.Inv :=
  Machine.Reachable.invariant (I := Inv) (fun _ hi => Initial.inv hi)
    (fun _ _ _ ht hs => Inv.step ht hs) h

end Site

/-- **Confirmed is the daemon's.** A ledger that does not wait to re-anchor has confirmed what its zone
held in the ledgers' run at the confirmed revision. A layout write that is committed touches no
placement field that had no intent pending when it was taken, and no other zone. -/
theorem confirmed_stored {N L : Type} [BEq N] [BEq L] {s : Site N L}
    (h : (Site.machine N L).Reachable s) :
    (∀ zoneId ledger, (zoneId, ledger) ∈ s.ledgers.zones → ledger.reanchor = false →
      ∀ confirmed, ledger.confirmed = some confirmed →
        s.docs.Stores s.ledgers.run confirmed.revision s.ledgers.sceneId zoneId confirmed.raw) ∧
    ∀ i s', (Site.machine N L).step s (.commit i) s' → ∃ doc doc' before after,
      s.docs s.run s.revision = some doc ∧ s'.docs s'.run s'.revision = some doc' ∧
      doc.outputs i.zoneId = some before ∧ doc'.outputs i.zoneId = some after ∧
      List.Forall₂ (Untouched i.carried) before after ∧
      ∀ other, other ≠ i.zoneId → doc'.outputs other = doc.outputs other := by
  have hin := Site.inv h
  refine ⟨fun zoneId ledger hme => (hin.ledgers (zoneId, ledger) hme).confirmed, ?_⟩
  rintro i s' hst
  cases hst with
  | commit i hi hr hf doc hd stored after hs ha =>
    refine ⟨doc, _, stored, after, hd, Docs.record_self .., hs, Function.update_self .., ?_,
      fun other hn => Function.update_of_ne hn _ _⟩
    -- The write was made from the zone at its fence, which is the current revision.
    obtain ⟨raw, ⟨made, hm, -, hraw⟩, hou⟩ := hin.carried i hi
    rw [hr, hf, hd] at hm
    obtain rfl := some.inj hm
    obtain rfl := some.inj (hs.symm.trans hraw)
    rw [hou] at ha
    exact layoutFromPlacements_untouched ha

/-- One output, of a zone of the first scene. -/
def sampleOutput : Output Nat Unit := ⟨"a", 4, 0, 1, 1, 0, 1, none, ()⟩

/-- A daemon at the seventh revision of a run, and a page that knows nothing. -/
def sampleSite : Site Nat Unit :=
  ⟨"run", [], 7, Docs.record (fun _ _ => none) "run" 7
    ⟨1, fun zoneId => if zoneId = "zone" then some [sampleOutput] else none⟩, .new "page", 0, [], []⟩

/-- The scene as it was read. -/
def sampleRead : SceneRead Nat Unit := ⟨1, 7, "run", [⟨"zone", [sampleOutput], [sampleOutput]⟩]⟩

/-- The write of a page that has moved the output. -/
def movedWrite : Issued Nat Unit :=
  ⟨"zone", 1, ⟨1, "page:1", 7, "run", [{ sampleOutput with x := 5 }]⟩, [⟨1, "a", .x, .number 5⟩]⟩

/-- The zone that was read is confirmed, and the write made from it is committed. -/
theorem confirmed_stored_read : ∃ s s' : Site Nat Unit,
    s.docs.Stores "run" 7 (some 1) "zone" [sampleOutput] ∧ s.committed = [] ∧ s'.committed = [1] ∧
      ∃ doc before after, s'.docs s'.run s'.revision = some doc ∧
        doc.outputs "zone" = some after ∧ List.Forall₂ (Untouched movedWrite.carried) before after := by
  have h₁ : (Site.machine Nat Unit).Reachable sampleSite :=
    .init ⟨by decide, rfl, rfl, rfl, ⟨_, rfl⟩, _, rfl⟩
  have hr : sampleSite.Shows sampleRead := by
    intro zone hz
    obtain rfl := mem_singleton.mp hz
    exact ⟨_, rfl, rfl, rfl⟩
  have h₂ := h₁.step (.observe _ sampleRead (some "zone") hr)
  have h₃ := h₂.step (.edit _ 1 "zone" movedWrite.write.outputs)
  have h₄ := h₃.step (.takeWrite _ movedWrite _ rfl rfl rfl rfl)
  obtain ⟨hs, hc⟩ := confirmed_stored h₄
  obtain ⟨_, doc, before, after, -, hd, -, ha, hu, -⟩ :=
    hc movedWrite _ (.commit _ _ (.head _) rfl rfl _ rfl [sampleOutput] _ rfl rfl)
  exact ⟨_, _, hs "zone" _ (.head _) rfl _ rfl, rfl, rfl, doc, before, after, hd, ha, hu⟩

end Hypercolor.LayoutBuilder
