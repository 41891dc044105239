import Hypercolor.Input.Announced
import Hypercolor.Lib.Local

/-!
# Runs of the device registry

Attachments come and go, renew and close, drivers inject edges into old and new ones, and demand
changes, in any order. The registry follows one demand with every attached child; a child that is
not attached any more publishes nothing.

* **`announced_holds`**: in every run the edges of each hold alternate, every published snapshot
  holds what replaying the events leaves, and nothing is published while demand is away but the
  cancellations at its end.
-/

namespace Hypercolor.Input

open Lib Option Table DeviceInputChildSlot DeviceInputRegistry

/-- What can happen to the registry. -/
inductive DeviceOp where
  | attach (deviceId : DeviceId)
  | renew (publicationId : DeviceInputPublicationId)
  | close (publicationId : DeviceInputPublicationId)
  | inject (publicationId : DeviceInputPublicationId) (edges : List DeviceInputEdge) (nowMs : Nat)
  | setDemanded (demanded : Bool) (nowMs : DeviceId → Nat)

namespace DeviceInputRegistry

/-- One operation; `none` where a counter is exhausted. -/
def perform (registry : DeviceInputRegistry) : DeviceOp → Option DeviceInputRegistry
  | .attach deviceId => registry.attach deviceId
  | .renew publicationId => registry.renew publicationId
  | .close publicationId => registry.close publicationId
  | .inject publicationId edges nowMs => (registry.inject publicationId edges nowMs).map Prod.fst
  | .setDemanded demanded nowMs => registry.setDemanded demanded nowMs

/-- The attachment of a publication. -/
def attachment (registry : DeviceInputRegistry) (own : DeviceInputPublicationId) :
    Option DeviceInputAttachment :=
  registry.attachments.lookup own

/-- What holds between operations: every child is tracked, children and active attachments belong
together, and an active one follows the demand. -/
structure Sound (registry : DeviceInputRegistry) : Prop where
  tracked : ∀ own attachment, registry.attachment own = some attachment → attachment.child.Tracked
  fresh : ∀ own, registry.nextPublicationId ≤ own → registry.attachment own = none
  attached : ∀ deviceId own, registry.children.lookup deviceId = some own →
    ∃ attachment, registry.attachment own = some attachment ∧
      attachment.child.deviceId = deviceId
  active : ∀ own attachment, registry.attachment own = some attachment →
    attachment.child.active →
      registry.children.lookup attachment.child.deviceId = some own ∧
        attachment.child.state.publishing = registry.demanded

/-- What an operation may publish on a child: one batch while it is demanded, and at the end of
demand the cancellation of each hold it announced. -/
def MayPublish (registry next : DeviceInputRegistry) (child child' : DeviceInputChildSlot) : Prop :=
  child'.published = child.published ∨ registry.demanded ∧ ∃ publication,
    child'.published = child.published ++ [publication] ∧ (next.demanded ∨
      List.Forall₂ Cancels publication.events
        (snapshotControls (buildChildSnapshot child.deviceId child.state 0)))

/-- Every child stays, and publishes what it may. -/
def Discreet (registry next : DeviceInputRegistry) : Prop :=
  ∀ own attachment, registry.attachment own = some attachment →
    ∃ attachment', next.attachment own = some attachment' ∧
      registry.MayPublish next attachment.child attachment'.child

variable {registry next : DeviceInputRegistry} {own : DeviceInputPublicationId}

section

variable (registry : DeviceInputRegistry)

lemma attachment_setChild (own other : DeviceInputPublicationId) (child : DeviceInputChildSlot) :
    (registry.setChild own child).attachment other =
      if other = own then (registry.attachment own).map fun attachment => { attachment with child }
      else registry.attachment other := by
  unfold setChild attachment
  split
  · rename_i hn
    split
    · subst other
      simp [hn]
    · rfl
  · rename_i hs
    rw [lookup_insert_if, hs]
    rfl

variable (child : DeviceInputChildSlot)

@[simp] theorem children_setChild : (registry.setChild own child).children = registry.children := by
  unfold setChild
  split <;> rfl

@[simp] theorem demanded_setChild : (registry.setChild own child).demanded = registry.demanded := by
  unfold setChild
  split <;> rfl

@[simp] theorem nextPublicationId_setChild :
    (registry.setChild own child).nextPublicationId = registry.nextPublicationId := by
  unfold setChild
  split <;> rfl

lemma attachment_markClosed (own o : DeviceInputPublicationId) (closing : DeviceInputAttachment) :
    (registry.markClosed own closing).attachment o =
      if o = own then some { closing with closed := true } else registry.attachment o :=
  lookup_insert_if ..

end

/-- An attachment whose child is deactivated. -/
def deactivated (attachment : DeviceInputAttachment) : DeviceInputAttachment :=
  { attachment with child := attachment.child.deactivate }

section

variable (registry : DeviceInputRegistry)

lemma attachment_deactivate (own o : DeviceInputPublicationId) : (registry.deactivate own).attachment o =
      if o = own then (registry.attachment own).map deactivated
      else registry.attachment o := by
  unfold deactivate
  split
  · rename_i hn
    have hn : registry.attachment own = none := hn
    split
    · subst o
      simp [hn]
    · rfl
  · rename_i att hs
    have hs : registry.attachment own = some att := hs
    rw [attachment_setChild, hs]
    rfl

/-- What deactivating leaves alone. -/
lemma deactivate_frame (own : DeviceInputPublicationId) :
    (registry.deactivate own).children = registry.children ∧
      (registry.deactivate own).demanded = registry.demanded ∧
      (registry.deactivate own).nextPublicationId = registry.nextPublicationId := by
  unfold deactivate
  split <;> simp

lemma closePrevious_frame (d : DeviceId) : (registry.closePrevious d).children = registry.children ∧
      (registry.closePrevious d).demanded = registry.demanded ∧
      (registry.closePrevious d).nextPublicationId = registry.nextPublicationId := by
  unfold closePrevious
  split
  · exact ⟨rfl, rfl, rfl⟩
  · exact deactivate_frame ..

lemma attachment_closePrevious (d : DeviceId) (o : DeviceInputPublicationId) :
    (registry.closePrevious d).attachment o =
      if registry.children.lookup d = some o then
        (registry.attachment o).map deactivated
      else registry.attachment o := by
  unfold closePrevious
  split
  · rename_i hn
    rw [hn, if_neg nofun]
  · rename_i prev hp
    rw [attachment_deactivate, hp]
    by_cases hoh : o = prev
    · subst hoh
      simp
    · simp [hoh, Ne.symm hoh]

end

variable {d : DeviceId}

/-- **Attaching**, with everything it changes. -/
theorem attach_spec (h : registry.attach d = some next) :
    next.demanded = registry.demanded ∧
      next.nextPublicationId = registry.nextPublicationId + 1 ∧
      next.children = registry.children.insert d registry.nextPublicationId ∧
      ∀ o, next.attachment o = if o = registry.nextPublicationId then
          some ⟨.new d registry.nextPublicationId registry.demanded, false⟩
        else if registry.children.lookup d = some o then
          (registry.attachment o).map deactivated
        else registry.attachment o := by
  obtain ⟨hc, hd, hi⟩ := registry.closePrevious_frame d
  have ha := registry.attachment_closePrevious d
  unfold attach at h
  obtain ⟨nextId, hn, h⟩ := bind_eq_some_iff.mp h
  obtain ⟨g, -, h⟩ := bind_eq_some_iff.mp h
  obtain rfl := some.inj h
  obtain ⟨rfl, -⟩ := checkedAdd_eq_some.mp hn
  refine ⟨hd, by rw [← hi], by rw [← hi, ← hc], fun o => ?_⟩
  rw [← ha]
  unfold attachment
  rw [lookup_insert_if, hi, hd]

/-- An operation keeps the registry sound and publishes what it may. -/
def Keeps (registry next : DeviceInputRegistry) : Prop := next.Sound ∧ registry.Discreet next

lemma keeps_refl (h : registry.Sound) :
    registry.Keeps registry := ⟨h, fun _ att ha => ⟨att, ha, .inl rfl⟩⟩

/-- Attaching keeps everything. -/
lemma keeps_attach (h : registry.Sound) (hn : registry.attach d = some next) : registry.Keeps next := by
  obtain ⟨hde, hi, hc, ha⟩ := attach_spec hn
  have hold : ∀ o att, registry.attachment o = some att → o ≠ registry.nextPublicationId := by
    intro o att hs he
    rw [h.fresh o he.ge] at hs
    cases hs
  refine ⟨⟨?_, ?_, ?_, ?_⟩, ?_⟩
  · intro o att hs
    rw [ha] at hs
    split at hs
    · obtain rfl := some.inj hs
      exact DeviceInputChildSlot.tracked_new ..
    · split at hs
      · obtain ⟨prev, hp, rfl⟩ := map_eq_some_iff.mp hs
        obtain ⟨ht, hr, hq⟩ := h.tracked o prev hp
        exact ⟨ht, hr, hq⟩
      · exact h.tracked o att hs
  · intro o hoh
    rw [hi] at hoh
    have hno := h.fresh o (Nat.le_of_succ_le hoh)
    rw [ha, if_neg (Nat.lt_of_succ_le hoh).ne', hno]
    simp
  · intro dev o hl
    rw [hc, lookup_insert_if] at hl
    rw [ha]
    split at hl
    · obtain rfl := some.inj hl
      exact ⟨_, if_pos rfl, by simp_all [DeviceInputChildSlot.new]⟩
    · obtain ⟨att, hs, hd⟩ := h.attached dev o hl
      rw [if_neg (hold o att hs), hs]
      split
      iterate 2 exact ⟨_, rfl, hd⟩
  · intro o att hs hac
    rw [ha] at hs
    rw [hc, hde, lookup_insert_if]
    split at hs
    · rename_i hoh
      obtain rfl := some.inj hs
      exact ⟨(if_pos rfl).trans (congrArg some hoh.symm), rfl⟩
    · split at hs
      · obtain ⟨prev, -, rfl⟩ := map_eq_some_iff.mp hs
        cases hac
      · rename_i hp
        obtain ⟨hl, hpu⟩ := h.active o att hs hac
        refine ⟨?_, hpu⟩
        rw [if_neg ?_]
        · exact hl
        · rintro rfl
          exact hp hl
  · intro o att hs
    rw [ha, if_neg (hold o att hs), hs]
    split
    iterate 2 exact ⟨_, rfl, .inl rfl⟩

/-- Renewing keeps everything. -/
lemma keeps_renew (h : registry.Sound) (hn : registry.renew own = some next) : registry.Keeps next := by
  unfold renew at hn
  split at hn
  · obtain rfl := some.inj hn
    exact keeps_refl h
  · split at hn
    · obtain rfl := some.inj hn
      exact keeps_refl h
    · split at hn
      · exact keeps_attach h hn
      · obtain rfl := some.inj hn
        exact keeps_refl h

/-- A change of one attachment keeps everything, where its child stays tracked and publishes what it
may. -/
lemma keeps_update (h : registry.Sound) {before after : DeviceInputAttachment}
    (hb : registry.attachment own = some before)
    (hat : ∀ o, next.attachment o =
      if o = own then some after else registry.attachment o)
    (hid : next.nextPublicationId = registry.nextPublicationId)
    (hd : next.demanded = registry.demanded)
    (hc : ∀ d o, o ≠ own → (next.children.lookup d = some o ↔ registry.children.lookup d = some o))
    (how : ∀ d, next.children.lookup d = some own → registry.children.lookup d = some own)
    (hde : after.child.deviceId = before.child.deviceId) (ht : after.child.Tracked)
    (hac : after.child.active → before.child.active ∧
      next.children.lookup before.child.deviceId = some own ∧
      after.child.state.publishing = before.child.state.publishing)
    (hpu : registry.MayPublish next before.child after.child) : registry.Keeps next := by
  refine ⟨⟨?_, ?_, ?_, ?_⟩, ?_⟩
  · intro o att hs
    rw [hat] at hs
    split at hs
    · obtain rfl := some.inj hs
      exact ht
    · exact h.tracked o att hs
  · intro o hoh
    rw [hid] at hoh
    have hn := h.fresh o hoh
    have hne : o ≠ own := by
      rintro rfl
      rw [hb] at hn
      cases hn
    rw [hat, if_neg hne, hn]
  · intro d o hl
    rw [hat]
    split
    · rename_i hoh
      subst hoh
      obtain ⟨att, hs, ha⟩ := h.attached d o (how d hl)
      obtain rfl := some.inj (hb.symm.trans hs)
      exact ⟨after, rfl, hde.trans ha⟩
    · rename_i hoh
      exact h.attached d o ((hc d o hoh).mp hl)
  · intro o att hs hi
    rw [hat] at hs
    split at hs
    · rename_i hoh
      subst hoh
      obtain rfl := some.inj hs
      obtain ⟨hw, hl, hp⟩ := hac hi
      rw [hde, hp, hd]
      exact ⟨hl, (h.active o before hb hw).2⟩
    · rename_i hoh
      rw [hd, hc _ _ hoh]
      exact h.active o att hs hi
  · intro o att hs
    rw [hat]
    split
    · rename_i hoh
      subst hoh
      obtain rfl := some.inj (hb.symm.trans hs)
      exact ⟨after, rfl, hpu⟩
    · exact ⟨att, hs, .inl rfl⟩

/-- **Closing**, with everything it changes. -/
theorem close_spec (h : registry.close own = some next) : next = registry ∨
    ∃ att, registry.attachment own = some att ∧
      next.demanded = registry.demanded ∧
      next.nextPublicationId = registry.nextPublicationId ∧
      ((registry.children.lookup att.child.deviceId = some own ∧
          next.children = registry.children.erase att.child.deviceId ∧
          ∀ o, next.attachment o = if o = own then
              some ⟨att.child.deactivate, true⟩ else registry.attachment o) ∨
        registry.children.lookup att.child.deviceId ≠ some own ∧
          next.children = registry.children ∧
          ∀ o, next.attachment o = if o = own then
              some ⟨att.child, true⟩ else registry.attachment o) := by
  unfold close at h
  split at h
  · exact .inl (some.inj h).symm
  · rename_i att hs
    split at h
    · exact .inl (some.inj h).symm
    · have hc := fun o => attachment_markClosed registry own o att
      refine .inr ⟨att, hs, ?_⟩
      dsimp only at h
      split at h
      · rename_i hcu
        obtain ⟨hch, hd, hi⟩ := (registry.markClosed own att).deactivate_frame own
        have hdc := (registry.markClosed own att).attachment_deactivate own
        obtain ⟨g, -, h⟩ := bind_eq_some_iff.mp h
        obtain rfl := some.inj h
        refine ⟨hd, hi, .inl ⟨hcu, ?_, fun o => ?_⟩⟩
        · exact congrArg (AList.erase att.child.deviceId) hch
        · refine (hdc o).trans ?_
          rw [hc, hc, if_pos rfl]
          split <;> rfl
      · rename_i hcu
        obtain rfl := some.inj h
        exact ⟨rfl, rfl, .inr ⟨hcu, rfl, hc⟩⟩

/-- Closing keeps everything. -/
lemma keeps_close (h : registry.Sound) (hn : registry.close own = some next) : registry.Keeps next := by
  rcases close_spec hn with rfl | ⟨closing, hcl, hd, hi, hca⟩
  · exact keeps_refl h
  · obtain ⟨ht, hr, hq⟩ := h.tracked own closing hcl
    rcases hca with ⟨hcu, hc, ha⟩ | ⟨hcu, hc, ha⟩
    · refine keeps_update h hcl ha hi hd ?_ ?_ rfl ⟨ht, hr, hq⟩ nofun (.inl rfl)
      · intro d o hoh
        rw [hc, lookup_erase_if]
        split
        · subst d
          simp [hcu, hoh.symm]
        · rfl
      · intro d hl
        rw [hc, lookup_erase_if] at hl
        split at hl
        · cases hl
        · exact hl
    · refine keeps_update h hcl ha hi hd ?_ ?_ rfl ⟨ht, hr, hq⟩ ?_ (.inl rfl)
      · intro d o _
        rw [hc]
      · intro d hl
        rwa [hc] at hl
      · intro hac
        exact absurd (h.active own closing hcl hac).1 hcu

/-- Injecting keeps everything. -/
lemma keeps_inject {edges : List DeviceInputEdge} {nowMs : Nat}
    {res : Except DeviceInputRegistryError Unit} (h : registry.Sound)
    (hn : registry.inject own edges nowMs = some (next, res)) : registry.Keeps next := by
  unfold inject at hn
  split at hn
  · obtain ⟨rfl, -⟩ := Prod.mk.inj (some.inj hn)
    exact keeps_refl h
  · rename_i before hb
    obtain ⟨⟨child, outcome⟩, hi, hn⟩ := bind_eq_some_iff.mp hn
    obtain ⟨rfl, -⟩ := Prod.mk.inj (some.inj hn)
    obtain ⟨ht, hs, hp, hl⟩ := inject_spec (h.tracked own before hb) hi
    have hat : ∀ o, (registry.setChild own child).attachment o =
        if o = own then some { before with child } else registry.attachment o := by
      intro o
      rw [attachment_setChild]
      split
      · exact congrArg (Option.map _) hb
      · rfl
    refine keeps_update h hb hat (by simp) (by simp) (by simp) (by simp) hs.deviceId ht ?_ ?_
    · intro ha
      have hw : before.child.active := hs.active ▸ ha
      exact ⟨hw, by simpa using (h.active own before hb hw).1, hp⟩
    · rcases hl with hl | ⟨ha, hli, pub, hl⟩
      · exact .inl hl
      · have hd := (h.active own before hb ha).2
        rw [hli] at hd
        exact .inr ⟨hd.symm, pub, hl, .inl (by simpa using hd.symm)⟩

/-- What a change of demand makes of an attachment. -/
def Synced (demanded : Bool) (nowMs : DeviceId → Nat)
    (child : DeviceId × DeviceInputPublicationId) (before after : Option DeviceInputAttachment) : Prop :=
  ∀ attachment, before = some attachment → ∃ slot,
    attachment.child.syncDemand demanded (nowMs child.1) = some slot ∧
      after = some { attachment with child := slot }

variable {demanded : Bool} {nowMs : DeviceId → Nat}

/-- A turn of the loop is local. -/
lemma syncChild_spec {child : DeviceId × DeviceInputPublicationId}
    (h : registry.syncChild demanded nowMs child = some next) :
    (next.children = registry.children ∧ next.demanded = registry.demanded ∧
        next.nextPublicationId = registry.nextPublicationId) ∧
      (∀ o, o ≠ child.2 → next.attachment o = registry.attachment o) ∧
        Synced demanded nowMs child (registry.attachment child.2) (next.attachment child.2) := by
  unfold syncChild at h
  split at h
  · rename_i hn
    have hn : registry.attachment child.2 = none := hn
    obtain rfl := some.inj h
    refine ⟨⟨rfl, rfl, rfl⟩, fun _ _ => rfl, fun att hs => ?_⟩
    rw [hn] at hs
    cases hs
  · rename_i before hb
    obtain ⟨slot, hsl, rfl⟩ := map_eq_some_iff.mp h
    refine ⟨by simp, fun o hoh => ?_, fun att hs => ⟨slot, ?_, ?_⟩⟩
    · rw [attachment_setChild, if_neg hoh]
    · obtain rfl := some.inj (hb.symm.trans hs)
      exact hsl
    · rw [attachment_setChild, if_pos rfl, hs]
      rfl

/-- No publication is the child of two devices. -/
lemma Sound.nodup_children (h : registry.Sound) :
    ((registry.children.ordered id).map Prod.snd).Nodup := by
  refine List.Nodup.map_on ?_ (List.Nodup.of_map Prod.fst (nodup_ordered _ _))
  rintro ⟨d, own⟩ hm ⟨d', _⟩ hm' rfl
  obtain ⟨att, hs, rfl⟩ := h.attached d own (mem_ordered.mp hm)
  obtain ⟨att', hs', rfl⟩ := h.attached d' own (mem_ordered.mp hm')
  obtain rfl := mem_unique hs hs'
  rfl

/-- **A change of demand** reaches the children and nothing else. -/
theorem setDemanded_spec (h : registry.Sound)
    (hne : (registry.children.ordered id).foldlM (syncChild demanded nowMs) { registry with
      demanded } = some next) : (next.children = registry.children ∧ next.demanded = demanded ∧
        next.nextPublicationId = registry.nextPublicationId) ∧
      ∀ own, (∃ d before slot, registry.children.lookup d = some own ∧
          registry.attachment own = some before ∧ before.child.syncDemand demanded (nowMs d) = some slot ∧
          next.attachment own = some { before with child := slot }) ∨
        (∀ d, registry.children.lookup d ≠ some own) ∧ next.attachment own = registry.attachment own := by
  have hcl : ∀ d own, (d, own) ∈ registry.children.ordered id ↔
      registry.children.lookup d = some own := fun _ _ => mem_ordered
  have hnd := h.nodup_children
  generalize registry.children.ordered id = children at *
  have hco := foldlM_keeps (P := fun r => r.children = registry.children ∧
    r.demanded = demanded ∧ r.nextPublicationId = registry.nextPublicationId)
    (fun r child r' hs hr => by
      obtain ⟨⟨hc, hd, hn⟩, -⟩ := syncChild_spec hs
      rwa [hc, hd, hn]) hne ⟨rfl, rfl, rfl⟩
  obtain ⟨hf, hsy⟩ := @foldlM_local _ _ _ _ attachment Prod.snd _
    (Synced demanded nowMs) (fun _ _ _ hs => (syncChild_spec hs).2) _ hnd _ _ hne
  refine ⟨hco, fun own => ?_⟩
  by_cases hm : own ∈ children.map Prod.snd
  · obtain ⟨⟨d, _⟩, hch, rfl⟩ := List.mem_map.mp hm
    obtain ⟨before, hb, -⟩ := h.attached d _ ((hcl _ _).mp hch)
    obtain ⟨slot, hsl, ha⟩ := hsy _ hch before hb
    exact .inl ⟨d, before, slot, (hcl _ _).mp hch, hb, hsl, ha⟩
  · refine .inr ⟨fun d hl => hm ?_, hf own hm⟩
    exact List.mem_map.mpr ⟨_, (hcl _ _).mpr hl, rfl⟩

/-- A change of demand keeps everything. -/
lemma keeps_setDemanded (h : registry.Sound)
    (hne : registry.setDemanded demanded nowMs = some next) : registry.Keeps next := by
  unfold setDemanded at hne
  split at hne
  · obtain rfl := some.inj hne
    exact keeps_refl h
  · rename_i hcn
    obtain ⟨⟨hch, hd, how⟩, hc⟩ := setDemanded_spec h hne
    refine ⟨⟨?_, ?_, ?_, ?_⟩, ?_⟩
    · intro own att hs
      rcases hc own with ⟨_, before, slot, _, hb, hsl, ha⟩ | ⟨_, ha⟩
      · obtain rfl := some.inj (ha.symm.trans hs)
        exact (syncDemand_spec (h.tracked own before hb) hsl).1
      · exact h.tracked own att (ha ▸ hs)
    · intro own hf
      rw [how] at hf
      have hn := h.fresh own hf
      rcases hc own with ⟨_, before, slot, _, hb, _, _⟩ | ⟨_, ha⟩
      · rw [hn] at hb
        cases hb
      · rw [ha, hn]
    · intro d own hlk
      rw [hch] at hlk
      obtain ⟨before, hb, hde⟩ := h.attached d own hlk
      rcases hc own with ⟨_, before', slot, _, hb', hsl, ha⟩ | ⟨hn, _⟩
      · obtain rfl := some.inj (hb.symm.trans hb')
        have hsp := syncDemand_spec (h.tracked own before hb) hsl
        exact ⟨_, ha, hsp.2.1.deviceId.trans hde⟩
      · exact absurd hlk (hn d)
    · intro own att hs hac
      rw [hch, hd]
      rcases hc own with ⟨_, before, slot, _, hb, hsl, ha⟩ | ⟨hn, ha⟩
      · obtain rfl := some.inj (ha.symm.trans hs)
        obtain ⟨-, hsa, hp, -⟩ := syncDemand_spec (h.tracked own before hb) hsl
        have hw : before.child.active := hsa.active ▸ hac
        refine ⟨?_, hp⟩
        rw [hsa.deviceId]
        exact (h.active own before hb hw).1
      · rw [ha] at hs
        exact absurd (h.active own att hs hac).1 (hn _)
    · intro own att hs
      rcases hc own with ⟨_, before, slot, _, hb, hsl, ha⟩ | ⟨_, ha⟩
      · obtain rfl := some.inj (hs.symm.trans hb)
        obtain ⟨-, -, -, hl⟩ := syncDemand_spec (h.tracked own att hs) hsl
        refine ⟨_, ha, ?_⟩
        rcases hl with hl | ⟨rfl, -, pub, hl, hca⟩
        · exact .inl hl
        · exact .inr ⟨by simpa using hcn, pub, hl, .inr hca⟩
      · exact ⟨att, ha.trans hs, .inl rfl⟩

/-- **Every operation** keeps the registry sound and publishes what it may. -/
theorem keeps_perform {op : DeviceOp} (h : registry.Sound)
    (hn : registry.perform op = some next) : registry.Keeps next := by
  cases op with
  | attach d => exact keeps_attach h hn
  | renew own => exact keeps_renew h hn
  | close own => exact keeps_close h hn
  | inject own edges nowMs =>
    obtain ⟨⟨_, result⟩, hi, rfl⟩ := map_eq_some_iff.mp hn
    exact keeps_inject h hi
  | setDemanded demanded nowMs => exact keeps_setDemanded h hn

lemma sound_new : new.Sound where
  tracked _ _ h := nomatch h
  fresh _ _ := rfl
  attached _ _ h := nomatch h
  active _ _ h := nomatch h

end DeviceInputRegistry

/-! ## Runs -/

/-- The registry and everything that can happen to it. -/
def deviceInput : Machine DeviceInputRegistry DeviceOp where
  init registry := registry = .new
  step registry op next := registry.perform op = some next

variable {registry : DeviceInputRegistry}

lemma sound_of_reachable (h : deviceInput.Reachable registry) : registry.Sound := by
  refine h.invariant ?_ ?_
  · rintro _ rfl
    exact sound_new
  · intro registry op next hs hn
    exact (keeps_perform hs hn).1

/-- **Announced holds.** In every run, for every child that was ever attached: the edges of each
hold alternate and begin with a press, and every published snapshot holds what replaying the events
up to it leaves. Any next operation publishes nothing while the registry is not demanded, and at the
end of demand the cancellation of each announced hold. -/
theorem announced_holds {registry : DeviceInputRegistry} (h : deviceInput.Reachable registry) :
    (∀ own attachment, registry.attachments.lookup own = some attachment →
      (∀ control, Alternates true (edgesOf controlEdge control attachment.child.events)) ∧
        Replayed attachment.child.published) ∧
      ∀ op next, registry.perform op = some next → registry.Discreet next := by
  have hs := sound_of_reachable h
  refine ⟨fun own attachment hso => ?_, fun op next hn => ?_⟩
  · have ht := hs.tracked own attachment hso
    exact ⟨ht.tells.alternates_empty, ht.replayed⟩
  · exact (keeps_perform hs hn).2

lemma reachable_performAll {ops : List DeviceOp} (h : ops.foldlM perform .new = some registry) :
    deviceInput.Reachable registry :=
  foldlM_keeps (fun _ _ _ hs hr => hr.step hs) h (.init rfl)

/-- A touch and a button are pressed while demanded, and demand ends. -/
def pressedRun : List DeviceOp :=
  [.attach 7, .setDemanded true fun _ => 10,
    .inject 1 [.touchBegan 3 ⟨some (1 / 2), some 2, some 1⟩ none, .button "play" .pressed] 20,
    .setDemanded false fun _ => 30]

/-- Both are pressed and cancelled. -/
theorem announced_holds_pressed : ∃ registry attachment, pressedRun.foldlM perform .new = some registry ∧
      registry.attachments.lookup 1 = some attachment ∧ attachment.child.events.length = 4 ∧
      (∀ control, Alternates true (edgesOf controlEdge control attachment.child.events)) ∧
      Replayed attachment.child.published := by
  have hr : (pressedRun.foldlM perform .new).any (fun registry =>
      (registry.attachments.lookup 1).any fun attachment =>
        attachment.child.events.length = 4) := by decide +kernel
  obtain ⟨registry, hre, hr⟩ := (any_eq_true _ _).mp hr
  obtain ⟨attachment, ha, hl⟩ := (any_eq_true _ _).mp hr
  have hh := announced_holds (reachable_performAll hre)
  exact ⟨registry, attachment, hre, ha, of_decide_eq_true hl, hh.1 1 attachment ha⟩

end Hypercolor.Input
