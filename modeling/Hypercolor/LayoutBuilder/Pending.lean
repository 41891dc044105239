import Hypercolor.LayoutBuilder.Writer

/-!
# What leaves pending

Intents leave a ledger by a read or a reply that no longer holds their output, by the settlement of the
write that carried them, by a read that already holds their value, and with their ledger. Here, for
every operation of the ledgers, which of these it is:

* `Loses` is for one ledger, `Departs` for the ledgers of a scene;
* what a read cancels is among what it reports (`departs_takeIn`, `departs_observe`,
  `departs_admitRead`);
* a read that settles a lapsed write gives up only what it reports, what it holds, or what a newer
  intent replaces (`departs_readAndSettle`). It takes the zone in twice, and the second time cancels
  nothing, which matters because that time nothing is reported;
* a read after a stale answer drops what the confirmed zone holds (`departs_afterStale`).
-/

set_option linter.unusedSectionVars false

namespace Hypercolor.LayoutBuilder

open List SceneLedgers

variable {N L : Type} [BEq N]

variable {intents : List (Intent N)} {it : Intent N}

lemma mem_outputsOf (h : it ∈ intents) : it.outputId ∈ outputsOf intents := by
  have hf : ∀ (intents : List (Intent N)) (ids : List String), (it.outputId ∈ ids ∨ it ∈ intents) →
      it.outputId ∈ intents.foldl (fun ids it =>
        if it.outputId ∈ ids then ids else ids ++ [it.outputId]) ids := by
    intro intents
    induction intents with
    | nil =>
      rintro ids (hi | hn)
      · exact hi
      · cases hn
    | cons f intents ih =>
      intro ids hw
      refine ih _ ?_
      rcases hw with hi | hm
      · left
        dsimp only
        split_ifs
        · exact hi
        · exact mem_append_left _ hi
      · rcases mem_cons.mp hm with rfl | hr
        · left
          dsimp only
          split_ifs with ht
          · exact ht
          · exact mem_append_right _ (mem_singleton_self _)
        · exact .inr hr
  exact hf intents [] (.inr h)

/-! ## One ledger -/

namespace ZoneLedger

variable {ok ok' : Intent N → Prop} {l l' : ZoneLedger N L}

/-- What is not pending any more is accounted for. -/
def Loses (ok : Intent N → Prop) (l l' : ZoneLedger N L) : Prop :=
  ∀ intent ∈ l.pending, intent ∈ l'.pending ∨ ok intent

/-- Nothing new is pending. -/
def Shrinks (l l' : ZoneLedger N L) : Prop := ∀ intent ∈ l'.pending, intent ∈ l.pending

lemma Loses.of_eq (h : l'.pending = l.pending) : Loses ok l l' := fun _ hi =>
  .inl (h ▸ hi)

lemma Loses.imp (h : Loses ok l l') (him : ∀ it ∈ l.pending, ok it → ok' it) :
    Loses ok' l l' := fun it hi => (h it hi).imp_right (him it hi)

section

variable (l : ZoneLedger N L) (rev : Nat) (raw shown : List (Output N L))

lemma adopt_loses : Loses (fun it => it.outputId ∈ (l.adopt rev raw shown).2) l
      (l.adopt rev raw shown).1 := by
  intro it hi
  by_cases hh : Held shown it
  · exact .inl (mem_filter.mpr ⟨hi, decide_eq_true hh⟩)
  · exact .inr (mem_outputsOf (mem_filter.mpr ⟨hi, decide_eq_true hh⟩))

lemma adopt_shrinks : Shrinks l (l.adopt rev raw shown).1 := fun _ hi => mem_of_mem_filter hi

lemma confirm_loses : Loses (fun it => it.outputId ∈ (l.confirm rev raw shown).2) l
      (l.confirm rev raw shown).1 := by
  unfold confirm
  split_ifs
  · exact adopt_loses { l with reanchor := false } rev raw shown
  · exact .of_eq rfl
  · exact adopt_loses l rev raw shown

lemma confirm_shrinks : Shrinks l (l.confirm rev raw shown).1 := by
  unfold confirm
  split_ifs
  · exact adopt_shrinks { l with reanchor := false } rev raw shown
  · exact fun _ => id
  · exact adopt_shrinks l rev raw shown

end

/-- The ledger has taken in a read at the revision, or a newer one: taking it in again cancels
nothing. -/
structure Absorbed (revision : Nat) (shown : List (Output N L)) (l : ZoneLedger N L) : Prop where
  anchored : l.reanchor = false
  taken : ∃ c, l.confirmed = some c ∧
    (revision < c.revision ∨ c.revision = revision ∧ ∀ intent ∈ l.pending, Held shown intent)

lemma confirm_absorbed (l : ZoneLedger N L) (rev : Nat) (raw shown : List (Output N L)) :
    Absorbed rev shown (l.confirm rev raw shown).1 := by
  have ha : ∀ it ∈ (l.adopt rev raw shown).1.pending, Held shown it := fun _ hi =>
    of_decide_eq_true (mem_filter.mp hi).2
  unfold confirm
  split_ifs with hr hn
  · exact ⟨rfl, _, rfl, .inr ⟨rfl, ha⟩⟩
  · rcases hc : l.confirmed with _ | c
    · simp [hc] at hn
    · rw [hc] at hn
      exact ⟨Bool.eq_false_iff.mpr hr, c, hc, .inl (of_decide_eq_true hn)⟩
  · exact ⟨Bool.eq_false_iff.mpr hr, _, rfl, .inr ⟨rfl, ha⟩⟩

variable {shown : List (Output N L)}

/-- Another read at the same revision leaves it so. -/
lemma Absorbed.confirm (h : l.Absorbed rev shown) (raw' shown' : List (Output N L)) :
    (l.confirm rev raw' shown').1.Absorbed rev shown := by
  have hs := confirm_shrinks l rev raw' shown'
  obtain ⟨ha, c, hc, ht⟩ := h
  unfold ZoneLedger.confirm at hs ⊢
  simp only [ha, hc, Option.any_some, decide_eq_true_eq, Bool.false_eq_true, if_false]
    at hs ⊢
  split_ifs with hn
  · exact ⟨ha, c, hc, .inl hn⟩
  · rcases ht with hl | ⟨-, hh⟩
    · exact absurd hl hn
    · rw [if_neg hn] at hs
      exact ⟨ha, _, rfl, .inr ⟨rfl, fun it hi => hh it (hs _ hi)⟩⟩

/-- The same, of a ledger that has less pending. -/
lemma Absorbed.of_shrinks (h : l.Absorbed rev shown) (ha : l'.reanchor = l.reanchor)
    (hco : l'.confirmed = l.confirmed) (hsh : Shrinks l l') : l'.Absorbed rev shown := by
  obtain ⟨hr, c, hc, ht⟩ := h
  refine ⟨ha.trans hr, c, hco.trans hc, ht.imp_right fun ⟨hs, hh⟩ => ?_⟩
  exact ⟨hs, fun it hi => hh it (hsh it hi)⟩

lemma Absorbed.pending_confirm (h : l.Absorbed rev shown) (raw : List (Output N L)) :
    (l.confirm rev raw shown).1.pending = l.pending := by
  obtain ⟨ha, c, hc, ht⟩ := h
  unfold ZoneLedger.confirm
  simp only [ha, hc, Option.any_some, decide_eq_true_eq, Bool.false_eq_true, if_false]
  split_ifs with hn
  · rfl
  · rcases ht with hl | ⟨-, hh⟩
    · exact absurd hl hn
    · exact filter_eq_self.mpr fun it hi => decide_eq_true (hh it hi)

end ZoneLedger

/-! ## The latest intents -/

/-- The intents are in the order they were made. -/
def InOrder (intents : List (Intent N)) : Prop := intents.Pairwise fun a b => a.seq < b.seq

variable {k : Nat}

lemma InOrder.lt (h : InOrder intents) {lt : Intent N} (hk : intents[k]? = some it)
    (hl : lt ∈ intents.drop (k + 1)) : it.seq < lt.seq := by
  obtain ⟨hlt, rfl⟩ := List.getElem?_eq_some_iff.mp hk
  have hd := h.sublist (drop_sublist k intents)
  rw [drop_eq_getElem_cons hlt] at hd
  exact (pairwise_cons.mp hd).1 lt hl

/-- An intent that is not the latest for its field has a later one. -/
lemma exists_later (hk : intents[k]? = some it) (hn : isLatest intents k = false) :
    ∃ later ∈ intents.drop (k + 1), it.sameField later := by
  unfold isLatest at hn
  rw [hk] at hn
  simpa using hn

/-- The latest intent for its field is at least as new as any. -/
lemma le_latest (h : InOrder intents) {o : Intent N} (hk : intents[k]? = some it)
    (hl : isLatest intents k) (hoh : o ∈ intents) (hs : it.sameField o) : o = it ∨ o.seq < it.seq := by
  unfold isLatest at hl
  rw [hk] at hl
  obtain ⟨m, hm, rfl⟩ := getElem_of_mem hoh
  obtain ⟨hlt, rfl⟩ := List.getElem?_eq_some_iff.mp hk
  rcases lt_trichotomy m k with hb | rfl | ha
  · exact .inr (pairwise_iff_getElem.mp h m k hm hlt hb)
  · exact .inl rfl
  · exfalso
    have hme : intents[m] ∈ intents.drop (k + 1) := by
      rw [mem_drop_iff_getElem]
      exact ⟨m - (k + 1), by omega, by congr 1; omega⟩
    simp only [Bool.not_eq_true', any_eq_false] at hl
    exact hl _ hme hs

/-! ## Reads that settle -/

namespace ZoneLedger

variable {l : ZoneLedger N L} {rev : Nat} {raw shown : List (Output N L)}

/-- A newer intent for the same field of the same output. -/
def Superseded (l : ZoneLedger N L) (intent : Intent N) : Prop :=
  ∃ later ∈ l.pending, intent.sameField later ∧ intent.seq < later.seq

/-- **A lapsed write** is given up with what the read holds, what a newer intent replaces, or a report
that it is not confirmed. -/
lemma settleEnded_loses (hsr : InOrder l.pending) (ha : l.Absorbed rev shown) :
    Loses (fun it => holds shown it ∨ l.Superseded it ∨
      ∃ lapsed, (l.settleEnded rev raw shown).2 = some lapsed ∧ lapsed.unconfirmed) l
      (l.settleEnded rev raw shown).1 := by
  unfold settleEnded
  split
  · rename_i w th un why hsn
    intro it hi
    by_cases hn : th < it.seq
    · left
      have hse : Absorbed rev shown ({ l with sent := none }.retire th) :=
        ha.of_shrinks rfl rfl fun _ hm => mem_of_mem_filter hm
      rw [hse.pending_confirm raw]
      exact mem_filter.mpr ⟨hi, decide_eq_true hn⟩
    · right
      obtain ⟨k, hk⟩ := mem_iff_getElem?.mp hi
      rcases hla : isLatest l.pending k with _ | _
      · obtain ⟨lt, hl, hs⟩ := exists_later hk hla
        exact .inr (.inl ⟨lt, mem_of_mem_drop hl, hs, hsr.lt hk hl⟩)
      · by_cases hh : holds shown it
        · exact .inl hh
        · refine .inr (.inr ⟨_, rfl, any_eq_true.mpr ⟨(it, k), ?_, ?_⟩⟩)
          · exact mk_mem_zipIdx_iff_getElem?.mpr hk
          · exact decide_eq_true ⟨not_lt.mp hn, hla, hh⟩
  · exact .of_eq rfl

lemma settleEnded_shrinks : Shrinks l (l.settleEnded rev raw shown).1 := by
  unfold settleEnded
  split
  · exact fun it hi => mem_of_mem_filter (confirm_shrinks _ _ _ _ it hi)
  · exact fun _ => id

lemma Absorbed.settleEnded (h : l.Absorbed rev shown)
    (raw' : List (Output N L)) (shown' : List (Output N L)) :
    (l.settleEnded rev raw' shown').1.Absorbed rev shown := by
  unfold ZoneLedger.settleEnded
  split
  · rename_i w th un why hs
    have hr : Absorbed rev shown ({ l with sent := none }.retire th) :=
      h.of_shrinks rfl rfl fun _ hm => mem_of_mem_filter hm
    exact hr.confirm raw' shown'
  · exact h

/-- **A read after a stale answer** drops what the confirmed zone holds, and what a newer intent
replaces. -/
lemma refetched_loses (hsr : InOrder l.pending) (ha : l.Absorbed rev shown) :
    Loses (fun it => l.Superseded it ∨
      ∃ c, (l.confirm rev raw shown).1.confirmed = some c ∧ holds c.shown it) l
      (l.refetched rev raw shown).1 := by
  have hp := ha.pending_confirm raw
  unfold refetched
  dsimp only
  split
  · exact .of_eq hp
  · rename_i c hc
    intro it hi
    rw [hp]
    by_cases hs : (it.outputId, it.field) ∈ l.pending.zipIdx.filterMap fun e =>
          if isLatest l.pending e.2 ∧ holds c.shown e.1 then some (e.1.outputId, e.1.field) else none
    · right
      obtain ⟨⟨latest, k⟩, hm, he⟩ := mem_filterMap.mp hs
      dsimp only at he
      split_ifs at he with hco
      obtain ⟨hid, hf⟩ := Prod.mk.inj (Option.some.inj he)
      have hk := mk_mem_zipIdx_iff_getElem?.mp hm
      have hsa : latest.sameField it := decide_eq_true ⟨hid.symm, hf.symm⟩
      rcases le_latest hsr hk hco.1 hi hsa with rfl | hl
      · exact .inr ⟨c, hc, hco.2⟩
      · exact .inl ⟨latest, mem_of_getElem? hk, decide_eq_true ⟨hid, hf⟩, hl⟩
    · left
      exact mem_filter.mpr ⟨hi, decide_eq_true hs⟩

/-- **An applied answer** retires what its write carried, and reports what the reply's zone no longer
holds. -/
lemma applied_loses {id : Nat} {landed : Option Nat} :
    Loses (fun it => (∃ sent, l.sent = some sent ∧ sent.write.id = id ∧ sent.lapsed = none ∧
        it.seq ≤ sent.through) ∨ ∃ cancelled, (l.applied id landed raw shown).2 = some cancelled ∧
        it.outputId ∈ cancelled) l (l.applied id landed raw shown).1 := by
  unfold applied
  split
  · exact .of_eq rfl
  · rename_i sent hf
    obtain ⟨hse, hid⟩ := Option.filter_eq_some_iff.mp hf
    split_ifs with hl
    · exact .of_eq rfl
    · intro it hi
      by_cases hn : sent.through < it.seq
      · have hs : it ∈ ((l.settle id).retire sent.through).pending :=
          mem_filter.mpr ⟨hi, decide_eq_true hn⟩
        dsimp only
        split
        · exact .inl hs
        · split_ifs
          · rcases adopt_loses ((l.settle id).retire sent.through) _ raw shown it hs with
              hk | hc
            · exact .inl hk
            · exact .inr (.inr ⟨_, rfl, hc⟩)
          · exact .inl hs
      · exact .inr (.inl ⟨sent, hse, of_decide_eq_true hid, by simpa using hl, not_lt.mp hn⟩)

end ZoneLedger

/-! ## The ledgers of a scene -/

namespace SceneLedgers

open ZoneLedger (Loses Shrinks Absorbed)

variable {s t u : SceneLedgers N L} {ok ok' : String → Intent N → Prop}

/-- The intent is pending in a ledger of the zone. -/
def Pends (s : SceneLedgers N L) (zoneId : String) (intent : Intent N) : Prop :=
  ∃ ledger, (zoneId, ledger) ∈ s.zones ∧ intent ∈ ledger.pending

/-- What is not pending any more is accounted for. -/
def Departs (ok : String → Intent N → Prop) (s t : SceneLedgers N L) : Prop :=
  ∀ zoneId intent, s.Pends zoneId intent → t.Pends zoneId intent ∨ ok zoneId intent

/-- Nothing new is pending. -/
def Wanes (s t : SceneLedgers N L) : Prop :=
  ∀ zoneId intent, t.Pends zoneId intent → s.Pends zoneId intent

lemma Departs.refl (s : SceneLedgers N L) : Departs ok s s := fun _ _ => .inl

lemma Departs.trans (h : Departs ok s t) (h' : Departs ok t u) : Departs ok s u := by
  intro zid it hp
  rcases h zid it hp with hk | hok
  · exact h' zid it hk
  · exact .inr hok

lemma Departs.imp (h : Departs ok s t) (hi : ∀ zid it, s.Pends zid it → ok zid it → ok' zid it) :
    Departs ok' s t := fun zid it hp =>
  (h zid it hp).imp_right (hi zid it hp)

lemma Wanes.trans (h : Wanes s t) (h' : Wanes t u) : Wanes s u := fun zid it hp =>
  h zid it (h' zid it hp)

variable {zs : List (String × ZoneLedger N L)}

/-- An entry stays, or is the first of its id and changed. -/
lemma mem_modifyFirst_of_mem (zid : String) (ch : ZoneLedger N L → ZoneLedger N L)
    {e : String × ZoneLedger N L} (h : e ∈ zs) : e ∈ modifyFirst zid ch zs ∨ e.1 = zid ∧
      zs.lookup zid = some e.2 ∧ (zid, ch e.2) ∈ modifyFirst zid ch zs := by
  induction zs with
  | nil => cases h
  | cons f zs ih =>
    obtain ⟨id, lg⟩ := f
    unfold modifyFirst
    split_ifs with hi
    · subst hi
      rcases mem_cons.mp h with rfl | hr
      · exact .inr ⟨rfl, by simp, mem_cons_self⟩
      · exact .inl (mem_cons_of_mem _ hr)
    · rcases mem_cons.mp h with rfl | hr
      · exact .inl mem_cons_self
      · rcases ih hr with hk | ⟨ht, hl, hc⟩
        · exact .inl (mem_cons_of_mem _ hk)
        · refine .inr ⟨ht, ?_, mem_cons_of_mem _ hc⟩
          rw [lookup_cons, beq_eq_false_iff_ne.mpr (Ne.symm hi)]
          exact hl

variable {zid : String} {ch : ZoneLedger N L → ZoneLedger N L}

lemma departs_modify (h : ∀ lg, s.zone zid = some lg → Loses (ok zid) lg (ch lg)) :
    Departs ok s (s.modify zid ch) := by
  rintro z it ⟨lg, hm, hi⟩
  rcases mem_modifyFirst_of_mem zid ch hm with hk | ⟨rfl, hl, hc⟩
  · exact .inl ⟨lg, hk, hi⟩
  · rcases h lg hl it hi with hs | hok
    · exact .inl ⟨ch lg, hc, hs⟩
    · exact .inr hok

lemma wanes_modify (h : ∀ lg, s.zone zid = some lg → Shrinks lg (ch lg)) : Wanes s (s.modify zid ch) := by
  rintro z it ⟨lg, hm, hi⟩
  rcases mem_modifyFirst hm with hold | ⟨fd, hl, he⟩
  · exact ⟨lg, hold, hi⟩
  · obtain ⟨rfl, rfl⟩ := Prod.mk.inj he
    exact ⟨fd, mem_of_lookup hl, h fd hl it hi⟩

lemma departs_map (ch : String → ZoneLedger N L → ZoneLedger N L)
    (h : ∀ zid lg, Loses (ok zid) lg (ch zid lg))
    (ht : t.zones = s.zones.map fun (zid, lg) => (zid, ch zid lg)) : Departs ok s t := by
  rintro z it ⟨lg, hm, hi⟩
  rcases h z lg it hi with hs | hok
  · exact .inl ⟨ch z lg, ht ▸ mem_map.mpr ⟨_, hm, rfl⟩, hs⟩
  · exact .inr hok

lemma wanes_map (ch : String → ZoneLedger N L → ZoneLedger N L) (h : ∀ zid lg, Shrinks lg (ch zid lg))
    (ht : t.zones = s.zones.map fun (zid, lg) => (zid, ch zid lg)) : Wanes s t := by
  rintro z it ⟨lg, hm, hi⟩
  rw [ht] at hm
  obtain ⟨⟨id, old⟩, hold, he⟩ := mem_map.mp hm
  obtain ⟨rfl, rfl⟩ := Prod.mk.inj he
  exact ⟨old, hold, h id old it hi⟩

lemma departs_ensure (zid : String) : Departs ok s (s.ensure zid) := by
  rintro z it ⟨lg, hm, hi⟩
  unfold ensure
  split_ifs
  · exact .inl ⟨lg, hm, hi⟩
  · exact .inl ⟨lg, mem_append_left _ hm, hi⟩

lemma departs_enter (run : String) : Departs ok s (s.enter run).1 := by
  unfold enter
  split_ifs
  · exact .refl s
  · exact departs_map (fun _ lg => lg.startReanchor) (fun _ _ => .of_eq rfl) rfl

lemma wanes_enter (run : String) : Wanes s (s.enter run).1 := by
  unfold enter
  split_ifs
  · exact fun _ _ => id
  · exact wanes_map (fun _ lg => lg.startReanchor) (fun _ _ _ => id) rfl

variable (read : SceneRead N L)

lemma departs_ofRun : Departs ok s (s.ofRun read).1 := by
  unfold ofRun
  split_ifs
  · exact departs_enter read.run
  · exact .refl s

lemma wanes_ofRun : Wanes s (s.ofRun read).1 := by
  unfold ofRun
  split_ifs
  · exact wanes_enter read.run
  · exact fun _ _ => id

lemma departs_want (wa : Option String) : Departs ok s (s.want read wa) := by
  unfold want
  split
  · exact .refl s
  · split_ifs
    · exact departs_ensure _
    · exact .refl s

/-! ## What reads report -/

/-- The report names the output of the intent. -/
def Told (cancelled : List Cancelled) (zoneId : String) (intent : Intent N) : Prop :=
  ∃ c ∈ cancelled, c.zoneId = zoneId ∧ intent.outputId ∈ c.outputIds

variable {cancelled : List Cancelled}

lemma Told.mono {more : List Cancelled} (h : Told cancelled zid it)
    (hm : ∀ c ∈ cancelled, c ∈ more) : Told more zid it := by
  obtain ⟨c, hc, ht⟩ := h
  exact ⟨c, hm c hc, ht⟩

variable {lg : ZoneLedger N L}

/-- A ledger that goes is reported with all its outputs. -/
lemma told_dropped {cause : Cause} (hm : (zid, lg) ∈ zs)
    (hi : it ∈ lg.pending) : Told (zs.filterMap (dropped cause)) zid it := by
  refine ⟨⟨zid, outputsOf lg.pending, cause⟩, mem_filterMap.mpr ⟨_, hm, ?_⟩, rfl, mem_outputsOf hi⟩
  have hp : lg.hasPending := by
    rcases hl : lg.pending with _ | ⟨f, rest⟩
    · rw [hl] at hi
      cases hi
    · simp [ZoneLedger.hasPending, hl]
  simp [dropped, hp]

lemma departs_select (sid : Nat) : Departs (Told (s.select sid).2) s (s.select sid).1 := by
  unfold select
  split_ifs
  · exact .refl s
  · rintro z it ⟨lg, hm, hi⟩
    exact .inr (told_dropped hm hi)

lemma departs_takeZone (rev : Nat) (s : SceneLedgers N L × List Cancelled) (zn : ZoneRead N L) :
    Departs (Told (takeZone rev s zn).2) s.1 (takeZone rev s zn).1 ∧
      ∀ c ∈ s.2, c ∈ (takeZone rev s zn).2 := by
  unfold takeZone
  split
  · exact ⟨.refl _, fun _ => id⟩
  · rename_i lg hz
    refine ⟨departs_modify fun fd hf => ?_, fun c hc => ?_⟩
    · obtain rfl := Option.mem_unique hz hf
      refine (ZoneLedger.confirm_loses lg rev zn.raw zn.shown).imp fun it _ hca => ?_
      have hn : (lg.confirm rev zn.raw zn.shown).2.isEmpty = false := by
        rcases hl : (lg.confirm rev zn.raw zn.shown).2 with _ | _
        · rw [hl] at hca
          cases hca
        · rfl
      simp only [hn, Bool.false_eq_true, if_false]
      exact ⟨_, mem_append_right _ (mem_singleton_self _), rfl, hca⟩
    · dsimp only
      split_ifs
      · exact hc
      · exact mem_append_left _ hc

lemma departs_foldl_takeZone (rev : Nat) (zs : List (ZoneRead N L))
    (s : SceneLedgers N L × List Cancelled) :
    Departs (Told (zs.foldl (takeZone rev) s).2) s.1 (zs.foldl (takeZone rev) s).1 ∧
      ∀ c ∈ s.2, c ∈ (zs.foldl (takeZone rev) s).2 := by
  induction zs generalizing s with
  | nil => exact ⟨.refl _, fun _ => id⟩
  | cons zn zs ih =>
    obtain ⟨hf, hm⟩ := departs_takeZone rev s zn
    obtain ⟨hr, hm'⟩ := ih (takeZone rev s zn)
    refine ⟨Departs.trans ?_ hr, fun c hc => hm' c (hm c hc)⟩
    exact hf.imp fun z it _ ht => ht.mono hm'

/-- **A read** reports what it cancels. -/
theorem departs_takeIn (read : SceneRead N L) : Departs (Told (s.takeIn read).2) s (s.takeIn read).1 := by
  obtain ⟨hf, hmo⟩ := departs_foldl_takeZone read.revision read.zones
    ({ s with zones := s.zones.filter (stays read) },
      (s.zones.filter fun e => ! stays read e).filterMap (dropped .zoneGone))
  refine Departs.trans (t := { s with zones := s.zones.filter (stays read) }) ?_ hf
  rintro z it ⟨lg, hm, hi⟩
  by_cases hs : stays read (z, lg)
  · exact .inl ⟨lg, mem_filter.mpr ⟨hm, hs⟩, hi⟩
  · refine .inr ((told_dropped (mem_filter.mpr ⟨hm, ?_⟩) hi).mono hmo)
    simpa using hs

variable {read : SceneRead N L} {wa : Option String}

theorem departs_observe (h : (s.observe read wa).2 = some cancelled) :
    Departs (Told cancelled) s (s.observe read wa).1 := by
  have hof : Departs (Told cancelled) s (s.ofRun read).1 := departs_ofRun read
  have hs := departs_select (s := (s.ofRun read).1) read.sceneId
  unfold observe at h ⊢
  dsimp only at h ⊢
  split_ifs at h ⊢ with hk
  obtain rfl := Option.some.inj h
  refine (hof.trans (hs.imp fun z it _ ht => ?_)).trans
    ((departs_want read wa).trans ((departs_takeIn read).imp fun z it _ ht => ?_))
  · exact ht.mono fun c hc => mem_append_left _ hc
  · exact ht.mono fun c hc => mem_append_right _ hc

lemma departs_observe_none (h : (s.observe read wa).2 = none) : Departs ok s (s.observe read wa).1 := by
  have hof : Departs ok s (s.ofRun read).1 := departs_ofRun read
  unfold observe at h ⊢
  dsimp only at h ⊢
  split_ifs at h ⊢ with hk
  exact hof

/-- What an admission has to report. -/
def cancelledBy : Admission → List Cancelled
  | .taken cancelled | .switched cancelled => cancelled
  | _ => []

/-- **A read of the writer's** reports what it cancels. -/
theorem departs_admitRead (tk : Ticket) (read : SceneRead N L) :
    Departs (Told (cancelledBy (s.admitRead tk read).2)) s (s.admitRead tk read).1 := by
  have hc := admitRead_cases (s := s) tk read
  generalize s.admitRead tk read = admitted at hc
  rcases hc with _ | _ | _ | _ | ⟨hs, hk⟩
  · exact .refl s
  · exact departs_ofRun read
  · exact departs_ofRun read
  · refine (departs_ofRun read).trans ?_
    rcases hca : ((s.ofRun read).1.observe read none).2 with _ | cancelled
    · exact departs_observe_none hca
    · exact departs_observe hca
  · exact (departs_ofRun read).trans (departs_takeIn read)

lemma wanes_takeZone (rev : Nat) (s : SceneLedgers N L × List Cancelled)
    (zn : ZoneRead N L) : Wanes s.1 (takeZone rev s zn).1 := by
  unfold takeZone
  split
  · exact fun _ _ => id
  · exact wanes_modify fun _ _ => ZoneLedger.confirm_shrinks _ _ _ _

lemma wanes_takeIn (read : SceneRead N L) : Wanes s (s.takeIn read).1 := by
  have hf : ∀ (zs : List (ZoneRead N L)) (t : SceneLedgers N L × List Cancelled),
      Wanes t.1 (zs.foldl (takeZone read.revision) t).1 := by
    intro zs
    induction zs with
    | nil => exact fun _ _ _ => id
    | cons zn zs ih => exact fun t => (wanes_takeZone read.revision t zn).trans (ih _)
  refine Wanes.trans (t := { s with zones := s.zones.filter (stays read) }) ?_ (hf read.zones _)
  rintro z it ⟨lg, hm, hi⟩
  exact ⟨lg, mem_of_mem_filter hm, hi⟩

/-! ## Taking a zone in twice -/

lemma lookup_modifyFirst (zid o : String) (ch : ZoneLedger N L → ZoneLedger N L)
    (zs : List (String × ZoneLedger N L)) :
    (modifyFirst zid ch zs).lookup o =
      if o = zid then (zs.lookup zid).map ch else zs.lookup o := by
  induction zs with
  | nil => simp [modifyFirst]
  | cons f zs ih =>
    obtain ⟨id, lg⟩ := f
    unfold modifyFirst
    by_cases hi : id = zid
    · subst hi
      by_cases hoh : o = id
      · subst hoh
        simp
      · simp [hoh, lookup_cons, beq_eq_false_iff_ne.mpr hoh]
    · by_cases hoh : o = id
      · subst hoh
        simp [hi]
      · by_cases hz : o = zid
        · subst hz
          simp [hi, lookup_cons, beq_eq_false_iff_ne.mpr hoh, ih]
        · simp [hi, hz, lookup_cons, beq_eq_false_iff_ne.mpr hoh, ih]

lemma zone_modify (zid o : String) (ch : ZoneLedger N L → ZoneLedger N L) : (s.modify zid ch).zone o =
      if o = zid then (s.zone zid).map ch else s.zone o :=
  lookup_modifyFirst zid o ch s.zones

/-- The zone's ledger has taken the read in. -/
def Took (revision : Nat) (zone : ZoneRead N L) (s : SceneLedgers N L) : Prop :=
  ∀ ledger, s.zone zone.zoneId = some ledger → ledger.Absorbed revision zone.shown

variable {zn : ZoneRead N L}

lemma took_modify (h : s.Took rev zn) (hc : ∀ lg, lg.Absorbed rev zn.shown → (ch lg).Absorbed rev
      zn.shown) : (s.modify zid ch).Took rev zn := by
  intro lg hl
  rw [zone_modify] at hl
  split_ifs at hl with hs
  · obtain ⟨fd, hf, rfl⟩ := Option.map_eq_some_iff.mp hl
    exact hc fd (h fd (hs ▸ hf))
  · exact h lg hl

lemma took_takeZone {t : SceneLedgers N L × List Cancelled} (nx : ZoneRead N L)
    (h : t.1.Took rev zn) : (takeZone rev t nx).1.Took rev zn := by
  unfold takeZone
  split
  · exact h
  · exact took_modify h fun _ hl => hl.confirm _ _

lemma took_takeZone_self (rev : Nat) (t : SceneLedgers N L × List Cancelled)
    (zn : ZoneRead N L) : (takeZone rev t zn).1.Took rev zn := by
  unfold takeZone
  split
  · rename_i hn
    intro lg hl
    rw [hn] at hl
    cases hl
  · rename_i fd hf
    intro lg hl
    rw [zone_modify, if_pos rfl, hf] at hl
    obtain rfl := Option.some.inj hl
    exact ZoneLedger.confirm_absorbed _ _ _ _

/-- Every zone of a read that was taken in is. -/
lemma took_takeIn (read : SceneRead N L) (hz : zn ∈ read.zones) :
    (s.takeIn read).1.Took read.revision zn := by
  have hf : ∀ (zs : List (ZoneRead N L)) (t : SceneLedgers N L × List Cancelled),
      zn ∈ zs ∨ t.1.Took read.revision zn →
      (zs.foldl (takeZone read.revision) t).1.Took read.revision zn := by
    intro zs
    induction zs with
    | nil =>
      rintro t (hn | ht)
      · cases hn
      · exact ht
    | cons nx zs ih =>
      rintro t (hm | ht)
      · rcases mem_cons.mp hm with rfl | hr
        · exact ih _ (.inr (took_takeZone_self read.revision t zn))
        · exact ih _ (.inl hr)
      · exact ih _ (.inr (took_takeZone nx ht))
  exact hf read.zones _ (.inl hz)

/-! ## Reads that settle -/

lemma inOrder_confirm (h : InOrder lg.pending) (rev : Nat)
    (raw shown : List (Output N L)) : InOrder (lg.confirm rev raw shown).1.pending := by
  unfold ZoneLedger.confirm
  split_ifs
  · exact List.Pairwise.sublist filter_sublist h
  · exact h
  · exact List.Pairwise.sublist filter_sublist h

lemma inOrder_keeps (read : SceneRead N L) : Keeps (fun _ _ _ lg => InOrder lg.pending) read where
  empty _ _ _ := .nil
  reanchored _ _ _ _ hl := hl
  confirmed _ _ _ hl := inOrder_confirm hl _ _ _

lemma inOrder_settleEnded (h : InOrder lg.pending) (rev : Nat) (raw shown : List (Output N L)) :
    InOrder (lg.settleEnded rev raw shown).1.pending := by
  unfold ZoneLedger.settleEnded
  split
  · exact inOrder_confirm (List.Pairwise.sublist filter_sublist h) _ _ _
  · exact h

/-- The read holds the intent's value in its zone. -/
def HeldBy (read : SceneRead N L) (zoneId : String) (intent : Intent N) : Prop :=
  ∃ zone ∈ read.zones, zone.zoneId = zoneId ∧ holds zone.shown intent

/-- A newer intent for the same field is pending. -/
def Superseded (s : SceneLedgers N L) (zoneId : String) (intent : Intent N) : Prop :=
  ∃ later, s.Pends zoneId later ∧ intent.sameField later ∧ intent.seq < later.seq

/-- A read that settles gives up an intent with a report, for a value that it holds, or for a newer
intent. -/
def GivenUp (read : SceneRead N L) (reported : List (String × Lapsed)) (s : SceneLedgers N L)
    (zoneId : String) (intent : Intent N) : Prop :=
  HeldBy read zoneId intent ∨ s.Superseded zoneId intent ∨
    ∃ lapsed, (zoneId, lapsed) ∈ reported ∧ lapsed.unconfirmed

/-- What the ledgers keep while a read settles what lapsed. -/
structure Settling (read : SceneRead N L) (s t : SceneLedgers N L) : Prop where
  sorted : t.Each fun _ _ _ ledger => InOrder ledger.pending
  took : ∀ zone ∈ read.zones, t.Took read.revision zone
  wanes : Wanes s t

variable {t : SceneLedgers N L × List (String × Lapsed)}

lemma Settling.settleOpen (h : Settling read s t.1) (zid : String) :
    Settling read s (settleOpen read t zid).1 ∧
      Departs (GivenUp read (SceneLedgers.settleOpen read t zid).2 s) t.1
        (SceneLedgers.settleOpen read t zid).1 ∧
      ∀ ended ∈ t.2, ended ∈ (SceneLedgers.settleOpen read t zid).2 := by
  unfold SceneLedgers.settleOpen
  split
  · rename_i zn lg hz hl
    obtain ⟨hm, rfl⟩ := zoneIn_mem hz
    have hsh : Wanes t.1 (t.1.modify zn.zoneId fun lg =>
        (lg.settleEnded read.revision zn.raw zn.shown).1) :=
      wanes_modify fun _ _ => ZoneLedger.settleEnded_shrinks
    refine ⟨⟨?_, ?_, h.wanes.trans hsh⟩, departs_modify fun fd hf => ?_,
      fun ended he => mem_append_left _ he⟩
    · exact h.sorted.modify fun _ _ hsr => inOrder_settleEnded hsr _ _ _
    · exact fun o hoh => took_modify (h.took o hoh) fun _ ha =>
        ha.settleEnded _ _
    · obtain rfl := Option.mem_unique hl hf
      have ha := h.took zn hm lg hl
      refine (ZoneLedger.settleEnded_loses (h.sorted.zone hl) ha).imp ?_
      rintro it hi (hh | ⟨lt, hla, hs, hlt⟩ | ⟨lapsed, hlp, hu⟩)
      · exact .inl ⟨zn, hm, rfl, hh⟩
      · exact .inr (.inl ⟨lt, h.wanes _ _ ⟨lg, mem_of_lookup hl, hla⟩, hs, hlt⟩)
      · refine .inr (.inr ⟨lapsed, mem_append_right _ ?_, hu⟩)
        rw [hlp]
        exact mem_singleton_self _
  · exact ⟨h, .refl _, fun _ => id⟩

lemma Settling.foldl (ids : List String) (h : Settling read s t.1) :
    Departs (GivenUp read (ids.foldl (SceneLedgers.settleOpen read) t).2 s) t.1
      (ids.foldl (SceneLedgers.settleOpen read) t).1 ∧
      ∀ ended ∈ t.2, ended ∈ (ids.foldl (SceneLedgers.settleOpen read) t).2 := by
  induction ids generalizing t with
  | nil => exact ⟨.refl _, fun _ => id⟩
  | cons zid ids ih =>
    obtain ⟨hn, hd, hm⟩ := h.settleOpen zid
    obtain ⟨hr, hm'⟩ := ih hn
    refine ⟨(hd.imp fun z it _ hg => ?_).trans hr,
      fun ended he => hm' ended (hm ended he)⟩
    rcases hg with hh | hne | ⟨lapsed, hl, hu⟩
    · exact .inl hh
    · exact .inr (.inl hne)
    · exact .inr (.inr ⟨lapsed, hm' _ hl, hu⟩)

/-- **A read of the writer's** that settles what lapsed. -/
theorem departs_readAndSettle (hsr : s.Each fun _ _ _ lg => InOrder lg.pending)
    (tk : Ticket) (read : SceneRead N L) : Departs (fun zid it =>
      Told (cancelledBy (s.readAndSettle tk read).2.1) zid it ∨
        GivenUp read (s.readAndSettle tk read).2.2 s zid it) s (s.readAndSettle tk read).1 := by
  have ha := departs_admitRead (s := s) tk read
  have hc := admitRead_cases (s := s) tk read
  have he := (hsr.admitRead (inOrder_keeps read) tk).1
  unfold SceneLedgers.readAndSettle
  generalize s.admitRead tk read = admitted at ha hc he ⊢
  rcases hc with _ | _ | _ | _ | ⟨hsc, hk⟩
  iterate 4 exact ha.imp fun _ _ _ => .inl
  · have hs : Settling read s ((s.ofRun read).1.takeIn read).1 :=
      ⟨he, fun zn hz => took_takeIn read hz, (wanes_ofRun read).trans (wanes_takeIn read)⟩
    obtain ⟨hf, -⟩ := Settling.foldl ((s.ofRun read).1.takeIn read).1.openZones
      (t := (((s.ofRun read).1.takeIn read).1, [])) hs
    refine (ha.imp fun _ _ _ => .inl).trans (hf.imp fun z it _ hg => .inr ?_)
    rcases hg with hh | hn | ⟨lapsed, hl, hu⟩
    · exact .inl hh
    · exact .inr (.inl hn)
    · exact .inr (.inr ⟨lapsed, mem_filter.mpr ⟨hl, hu⟩, hu⟩)

/-- **A read after a stale answer** drops, in its zone, what the zone's confirmed outputs hold then. -/
theorem departs_afterStale (hsr : s.Each fun _ _ _ lg => InOrder lg.pending)
    (zid : String) (tk : Ticket) (read : SceneRead N L) :
    Departs (fun z it => Told (cancelledBy (s.afterStale zid tk read).2.1) z it ∨
      s.Superseded z it ∨ z = zid ∧ ∃ cancelled zn lg c,
        (s.admitRead tk read).2 = .taken cancelled ∧ zn ∈ read.zones ∧ zn.zoneId = zid ∧
        (s.admitRead tk read).1.zone zid = some lg ∧
        (lg.confirm read.revision zn.raw zn.shown).1.confirmed = some c ∧
        holds c.shown it) s (s.afterStale zid tk read).1 := by
  have ha := departs_admitRead (s := s) tk read
  have hca := admitRead_cases (s := s) tk read
  have he := (hsr.admitRead (inOrder_keeps read) tk).1
  unfold afterStale
  generalize s.admitRead tk read = admitted at ha hca he ⊢
  rcases hca with _ | _ | _ | _ | ⟨hsc, hk⟩
  iterate 4 exact ha.imp fun _ _ _ => .inl
  · dsimp only
    split
    · rename_i zn lg hz hl
      obtain ⟨hm, hid⟩ := zoneIn_mem hz
      refine (ha.imp fun _ _ _ => .inl).trans (departs_modify fun fd hf => ?_)
      obtain rfl := Option.mem_unique hl hf
      have hab := took_takeIn (s := (s.ofRun read).1) read hm lg (hid ▸ hl)
      refine (ZoneLedger.refetched_loses (he.zone hl) hab).imp ?_
      rintro it hi (⟨lt, hla, hs, hlt⟩ | ⟨c, hc, hh⟩)
      · refine .inr (.inl ⟨lt, ?_, hs, hlt⟩)
        exact ((wanes_ofRun read).trans (wanes_takeIn read)) _ _ ⟨lg, mem_of_lookup hl, hla⟩
      · exact .inr (.inr ⟨rfl, _, zn, lg, c, rfl, hm, hid, hl, hc, hh⟩)
    · exact ha.imp fun _ _ _ => .inl

/-! ## Answers -/

/-- The answer applied the write, the intent is from before it, or the reply's zone cancelled it. -/
def Answered (s : SceneLedgers N L) (zoneId : String) (write : Write N L) (applies : Prop)
    (heard : Heard) (z : String) (intent : Intent N) : Prop :=
  z = zoneId ∧ (applies ∧ (∃ ledger sent, s.zone zoneId = some ledger ∧ intent ∈ ledger.pending ∧
      ledger.sent = some sent ∧ sent.write.id = write.id ∧ intent.seq ≤ sent.through) ∨
    ∃ cancelled, heard = .applied cancelled ∧ intent.outputId ∈ cancelled)

lemma departs_applied (zid : String) (w : Write N L) (rp : ZoneReply N L) :
    Departs (s.Answered zid w True (s.applied zid w rp).2) s (s.applied zid w rp).1 := by
  unfold applied
  split
  · exact .refl s
  · rename_i lg hz
    have hm : ∀ heard, (∀ cancelled, (lg.applied w.id rp.landed rp.raw rp.shown).2 = some cancelled →
          heard = .applied cancelled) →
        Departs (s.Answered zid w True heard) s (s.modify zid fun lg =>
          (lg.applied w.id rp.landed rp.raw rp.shown).1) := by
      intro heard hh
      refine departs_modify fun fd hf => ?_
      obtain rfl := Option.mem_unique hz hf
      refine ZoneLedger.applied_loses.imp ?_
      rintro it hi (⟨sent, hse, hid, -, hl⟩ | ⟨cancelled, hs, hme⟩)
      · exact ⟨rfl, .inl ⟨trivial, lg, sent, hz, hi, hse, hid, hl⟩⟩
      · exact ⟨rfl, .inr ⟨cancelled, hh cancelled hs, hme⟩⟩
    split
    · rename_i hn
      exact hm _ fun cancelled hs => by
        rw [hn] at hs
        cases hs
    · rename_i cancelled hc
      have ht := hm (.applied cancelled) fun told hto =>
        congrArg Heard.applied (Option.mem_unique hc hto)
      split_ifs
      · refine ht.trans (departs_map (fun id lg =>
          if id = zid then lg else lg.advance w.fence (w.fence + 1)) ?_ rfl)
        intro z o
        refine .of_eq ?_
        split_ifs
        · rfl
        · unfold ZoneLedger.advance
          split_ifs <;> rfl
      · exact ht

/-- **An answer** retires what its write carried if it is applied, and reports what it cancels. -/
theorem departs_answer (zid : String) (w : Write N L) (un : Nat)
    (resp : KeyedResponse (ZoneReply N L)) : Departs (s.Answered zid w
      (∃ status rp, classify w.run un resp = .final status (.ok (.applied rp)))
      (s.answer zid w un resp).2) s (s.answer zid w un resp).1 := by
  unfold answer
  split
  iterate 3 exact departs_modify fun _ _ => .of_eq rfl
  · rename_i status rp hf
    refine (departs_applied zid w rp).imp fun z it _ ha => ?_
    exact ha.imp_right (Or.imp_left fun hr => ⟨⟨status, rp, hf⟩, hr.2⟩)
  · exact departs_modify fun _ _ => .of_eq rfl
  · split_ifs
    all_goals exact departs_modify fun _ _ => .of_eq rfl

end SceneLedgers

end Hypercolor.LayoutBuilder
