import Hypercolor.Relocation.Migrate

/-!
# Relocation is crash-safe and happens once

* **`relocation_safe`**: in every sequence of runs and crashes the newest durable document is at one
  of the paths or in the backup, each run starts from it, and once a run has made a document durable,
  by its import or otherwise, no later run imports the legacy file.

The codec must read an imported document back, under at least the version of the legacy one: otherwise
the legacy file would win again.
-/

namespace Hypercolor.Relocation

open Option

variable {D E : Type} {store : MigratedStore D E} {entry : PathMigrationEntry}
  {canonical legacy pend survivor : Option Bytes} {s t : State D}

/-! ## What is claimed -/

/-- What an import writes reads back as the legacy document, under no lower version. -/
def MigratedStore.Faithful (store : MigratedStore D E) : Prop :=
  ∀ bytes legacy payload, store.decodeLegacy bytes = .ok (some legacy) →
    store.encode legacy.document = .ok payload →
    ∃ current, store.decodeCurrent payload = .ok current ∧ current.document = legacy.document ∧
      legacy.version ≤ current.version

/-- A document is durable at the canonical path, or in the legacy file or its backup. -/
def State.Holds (store : MigratedStore D E) (s : State D) (document : D) : Prop :=
  (∃ bytes current, s.disk.canonical = some bytes ∧ store.decodeCurrent bytes = .ok current ∧
      current.document = document) ∨
    ∃ bytes legacy, (s.disk.legacy = some bytes ∨ s.disk.backup.map Prod.snd = some bytes) ∧
      store.decodeLegacy bytes = .ok (some legacy) ∧ legacy.document = document

/-- What a relocation owes to the store. -/
structure Safe (store : MigratedStore D E) (entry : PathMigrationEntry) (s : State D) : Prop where
  /-- The newest durable document is not lost. -/
  held : ∀ document, s.newest = some document → s.Holds store document
  /-- A run starts from the newest durable document. -/
  starts : ∀ migrated t, Step store entry s (.returns migrated) t → migrated.document = t.newest
  /-- Once a run has made a document durable, the legacy file is not imported. -/
  once : s.wrote → ∀ t, ¬ Step store entry s .imports t

/-! ## The decision of a run -/

/-- Nothing at the legacy path is newer. -/
def Outranks (legacy : Option (VersionedDocument D)) (version : UInt32) : Prop :=
  ∀ document, legacy = some document → document.version ≤ version

/-- The document at the canonical path. -/
def currentDocument (store : MigratedStore D E) (canonical : Option Bytes) :
    Option (VersionedDocument D) :=
  canonical.bind fun bytes => (store.decodeCurrent bytes).toOption

/-- What a plan does is decided by the two documents. -/
structure Plan.Ok (store : MigratedStore D E) (entry : PathMigrationEntry)
    (canonical legacy : Option Bytes)
    (p : Plan D) : Prop where
  done : ∀ migrated, p = .done migrated →
    migrated.document = newer (currentDocument store canonical) (legacyDocument store entry legacy) ∧
      Outranks (legacyDocument store entry legacy) (startVersion store canonical)
  imports : ∀ document, p = .import document →
    legacyDocument store entry legacy = some document ∧
      newer (currentDocument store canonical)
        (legacyDocument store entry legacy) = some document.document ∧
      ∀ current, currentDocument store canonical = some current → current.version < document.version

/-- What `migrate` reads at the canonical path, if it can. -/
lemma read_current {cur : Option (VersionedDocument D)} (h : readCurrent store canonical = .ok cur) :
    cur = currentDocument store canonical ∧
      startVersion store canonical = (cur.map (·.version)).getD 0 := by
  cases canonical with
  | none =>
    cases h
    exact ⟨rfl, rfl⟩
  | some bs =>
    rw [readCurrent] at h
    cases hd : store.decodeCurrent bs with
    | error e =>
      rw [hd] at h
      cases h
    | ok doc =>
      rw [hd] at h
      cases h
      simp only [currentDocument, startVersion, bind_some, hd]
      exact ⟨rfl, rfl⟩

lemma read_legacy {fd : Option (VersionedDocument D)} (hn : entry.isNoop = false)
    (h : readLegacy store legacy = .ok fd) : fd = legacyDocument store entry legacy := by
  rw [legacyDocument, hn, if_neg Bool.false_ne_true]
  cases legacy with
  | none =>
    cases h
    rfl
  | some bs =>
    rw [readLegacy] at h
    rw [bind_some, h]
    rfl

/-- The precedence picks the newer document. -/
lemma precedence_ok (cur fd : Option (VersionedDocument D)) :
    (∀ migrated, precedence cur fd = .done migrated → migrated.document = newer cur fd ∧
        Outranks fd ((cur.map (·.version)).getD 0)) ∧
      ∀ doc, precedence cur fd = .import doc → fd = some doc ∧ newer cur fd = some doc.document ∧
          ∀ held, cur = some held → held.version < doc.version := by
  rcases cur with _ | cur <;> rcases fd with _ | fd
  · refine ⟨fun migrated h => ?_, fun doc h => nomatch h⟩
    cases h
    exact ⟨rfl, fun _ h => nomatch h⟩
  · refine ⟨(fun migrated h => nomatch h), fun doc h => ?_⟩
    cases h
    exact ⟨rfl, rfl, fun _ h => nomatch h⟩
  · refine ⟨fun migrated h => ?_, fun doc h => nomatch h⟩
    cases h
    exact ⟨rfl, fun _ h => nomatch h⟩
  · by_cases hl : cur.version < fd.version
    · simp only [precedence, newer, if_pos hl]
      refine ⟨(fun migrated h => nomatch h), fun doc h => ?_⟩
      cases h
      exact ⟨rfl, rfl, fun held h => some_inj.mp h ▸ hl⟩
    · simp only [precedence, newer, if_neg hl]
      refine ⟨fun migrated h => ?_, fun doc h => nomatch h⟩
      cases h
      exact ⟨rfl, fun doc h => some_inj.mp h ▸ UInt32.not_lt.mp hl⟩

variable {p : Plan D}

lemma plan_ok (h : plan store entry canonical legacy = .ok p) : p.Ok store entry canonical legacy := by
  rw [plan] at h
  cases hc : readCurrent store canonical with
  | error e =>
    rw [hc] at h
    cases h
  | ok cur =>
    rw [hc] at h
    obtain ⟨rfl, hv⟩ := read_current hc
    obtain ⟨fd, hf, rfl⟩ : ∃ fd, fd = legacyDocument store entry legacy ∧
        p = precedence (currentDocument store canonical) fd := by
      change (if entry.isNoop then _ else _) = _ at h
      cases hn : entry.isNoop with
      | true =>
        rw [hn, if_pos rfl] at h
        cases h
        exact ⟨none, by rw [legacyDocument, hn, if_pos rfl], rfl⟩
      | false =>
        rw [hn, if_neg Bool.false_ne_true] at h
        cases hr : readLegacy store legacy with
        | error e =>
          rw [hr] at h
          cases h
        | ok fd =>
          rw [hr] at h
          cases h
          exact ⟨fd, read_legacy hn hr, rfl⟩
    obtain ⟨hd, hi⟩ := precedence_ok (currentDocument store canonical) fd
    subst hf
    rw [← hv] at hd
    exact ⟨hd, hi⟩

/-! ## The invariant -/

section

variable (store : MigratedStore D E) (found : Option (VersionedDocument D))

/-- A payload reads as a document that the legacy one does not outrank. -/
def Good (payload : Bytes) : Prop :=
  ∃ current, store.decodeCurrent payload = .ok current ∧ Outranks found current.version

/-- The newest document is durable at the canonical path. -/
def Settled (s : State D) : Prop :=
  ∃ bytes current, s.disk.canonical = some bytes ∧ store.decodeCurrent bytes = .ok current ∧
    s.newest = some current.document ∧ Outranks found current.version

/-- No run has changed a file yet. -/
structure Untouched (store : MigratedStore D E) (entry : PathMigrationEntry)
    (canonical legacy : Option Bytes)
    (s : State D) : Prop where
  wrote : s.wrote = false
  atCanonical : s.disk.canonical = canonical
  atLegacy : s.disk.legacy = legacy
  newest : s.newest = newer (currentDocument store canonical) (legacyDocument store entry legacy)

/-- The legacy file is where it was, or moved aside. -/
def Placed (legacy : Option Bytes) (disk : Disk) : Prop :=
  disk.legacy = legacy ∧ disk.backup = none ∧ disk.retirementSynced ∨
    disk.legacy = none ∧ disk.backup.isSome ∧ disk.backup.map Prod.snd = legacy

/-- What holds at each place of a run. -/
def ProcessOk (s : State D) : Process D → Prop
  | .down => s.disk.unsynced = []
  | .failed => True
  | .committing document payload _ => found = some document ∧ s.newest = some document.document ∧
      ∃ current, store.decodeCurrent payload = .ok current ∧ current.document = document.document ∧
        document.version ≤ current.version
  | .retiring document => found = some document ∧ s.newest = some document.document ∧
      Settled store found s
  | .retired document _ => found = some document ∧ s.newest = some document.document ∧
      Settled store found s ∧ s.disk.backup.isSome
  | .up floor pending attempt => Outranks found floor ∧ (∀ payload, pending = some payload →
      Good store found payload) ∧ ∀ a, attempt = some a → Good store found a.payload

end

/-- What holds in every reachable state, from these contents of the two paths. -/
structure Inv (store : MigratedStore D E) (entry : PathMigrationEntry) (canonical legacy : Option Bytes)
    (s : State D) : Prop where
  placed : Placed legacy s.disk
  durable : Settled store (legacyDocument store entry legacy) s ∨ Untouched store entry canonical legacy s
  unsynced : ∀ payload ∈ s.disk.unsynced, Good store (legacyDocument store entry legacy) payload
  process : ProcessOk store (legacyDocument store entry legacy) s s.process

namespace Inv

variable {fd : Option (VersionedDocument D)}

theorem new (store : MigratedStore D E) (entry : PathMigrationEntry) (canonical legacy : Option Bytes) :
    Inv store entry canonical legacy (State.new store entry canonical legacy) where
  placed := .inl ⟨rfl, rfl, rfl⟩
  durable := .inr ⟨rfl, rfl, rfl, rfl⟩
  unsynced _ hm := nomatch hm
  process := rfl

section

variable (h : Inv store entry canonical legacy s)
include h

/-- What a legacy file that is left holds does not outrank what the original one did not. -/
lemma outranks_left {ver : UInt32} (hou : Outranks (legacyDocument store entry legacy) ver) :
    Outranks (legacyDocument store entry s.disk.legacy) ver := by
  rcases h.placed with ⟨he, -⟩ | ⟨he, -⟩
  · rw [he]
    exact hou
  · intro doc hd
    rw [he, legacyDocument, bind_none, ite_self] at hd
    cases hd

/-- **The newest durable document is the one that a run reads.** -/
theorem newest_eq :
    newer (currentDocument store s.disk.canonical)
      (legacyDocument store entry s.disk.legacy) = s.newest := by
  rcases h.durable with ⟨bs, current, hb, hd, hn, hou⟩ | hu
  · have hc : currentDocument store s.disk.canonical = some current := by
      rw [hb, currentDocument, bind_some, hd]
      rfl
    rw [hc, hn]
    rcases hf : legacyDocument store entry s.disk.legacy with _ | doc
    · rfl
    · rw [newer, if_neg (UInt32.not_lt.mpr (h.outranks_left hou doc hf))]
  · rw [hu.atCanonical, hu.atLegacy, hu.newest]

lemma during {process : Process D} (hp : s.process = process) :
    ProcessOk store (legacyDocument store entry legacy) s process := hp ▸ h.process

lemma visible_eq (hp : s.process = .down) : s.disk.visible = s.disk.canonical := by
  have hpr := h.during hp
  rw [Disk.visible, show s.disk.unsynced = [] from hpr, List.head?_nil, none_or]

/-- What a run plans. -/
lemma plan_ok (hp : s.process = .down) (hpl : plan store entry s.disk.visible s.disk.legacy = .ok p) :
    p.Ok store entry s.disk.canonical s.disk.legacy := by
  rw [h.visible_eq hp] at hpl
  exact Relocation.plan_ok hpl

end

variable {doc : VersionedDocument D}

/-- A run imports only what is the newest document, before any run has made one durable. -/
lemma import_ok (h : Inv store entry canonical legacy s) (hp : s.process = .down)
    (hpl : plan store entry s.disk.visible s.disk.legacy = .ok (.import doc)) :
    s.wrote = false ∧ s.disk.legacy = legacy ∧ legacyDocument store entry legacy = some doc ∧
      s.newest = some doc.document := by
  obtain ⟨hl, hn, hlt⟩ := (h.plan_ok hp hpl).imports doc rfl
  rcases h.durable with ⟨bs, current, hb, hd, -, hou⟩ | hu
  · have hc : currentDocument store s.disk.canonical = some current := by
      rw [hb, currentDocument, bind_some, hd]
      rfl
    exact absurd (hlt current hc) (UInt32.not_lt.mpr (h.outranks_left hou doc hl))
  · refine ⟨hu.wrote, hu.atLegacy, hu.atLegacy ▸ hl, ?_⟩
    rw [← h.newest_eq]
    exact hn

lemma held (h : Inv store entry canonical legacy s) {doc : D} (hn : s.newest = some doc) :
    s.Holds store doc := by
  rw [← h.newest_eq] at hn
  have hcu : ∀ cur, currentDocument store s.disk.canonical = some cur →
      cur.document = doc → s.Holds store doc := by
    intro cur hcu he
    obtain ⟨bs, hb, hd⟩ := bind_eq_some_iff.mp hcu
    cases hr : store.decodeCurrent bs with
    | error e =>
      rw [hr] at hd
      cases hd
    | ok fd =>
      rw [hr] at hd
      cases hd
      exact .inl ⟨bs, cur, hb, hr, he⟩
  have hle : ∀ fd, legacyDocument store entry s.disk.legacy = some fd →
      fd.document = doc → s.Holds store doc := by
    intro fd hf he
    rw [legacyDocument] at hf
    split at hf
    · cases hf
    · obtain ⟨bs, hb, hd⟩ := bind_eq_some_iff.mp hf
      cases hr : store.decodeLegacy bs with
      | error e =>
        rw [hr] at hd
        cases hd
      | ok read =>
        rw [hr] at hd
        cases hd
        exact .inr ⟨bs, fd, .inl hb, hr, he⟩
  rcases hc : currentDocument store s.disk.canonical with _ | cur <;>
    rcases hl : legacyDocument store entry s.disk.legacy with _ | fd <;> rw [hc, hl] at hn
  · cases hn
  · exact hle fd hl (some_inj.mp hn)
  · exact hcu cur hc (some_inj.mp hn)
  · rw [newer] at hn
    split at hn
    · exact hle fd hl (some_inj.mp hn)
    · exact hcu cur hc (some_inj.mp hn)

/-! ## Steps -/

variable {process : Process D}

lemma goto (h : Inv store entry canonical legacy s)
    (hpr : ProcessOk store (legacyDocument store entry legacy) s process) :
    Inv store entry canonical legacy (s.goto process) where
  placed := h.placed
  durable := by
    rcases h.durable with hs | hu
    · exact .inl hs
    · exact .inr ⟨hu.wrote, hu.atCanonical, hu.atLegacy, hu.newest⟩
  unsynced := h.unsynced
  process := by
    cases process <;> exact hpr

variable {pay : Bytes}

lemma replaced (h : Inv store entry canonical legacy s)
    (hg : Good store (legacyDocument store entry legacy) pay)
    (hpr : ProcessOk store (legacyDocument store entry legacy) (s.replaced pay) process) :
    Inv store entry canonical legacy ((s.replaced pay).goto process) where
  placed := h.placed
  durable := by
    rcases h.durable with hs | hu
    · exact .inl hs
    · exact .inr ⟨hu.wrote, hu.atCanonical, hu.atLegacy, hu.newest⟩
  unsynced other hm := by
    rcases List.mem_cons.mp hm with rfl | hm
    · exact hg
    · exact h.unsynced other hm
  process := by
    cases process <;> exact hpr

lemma settled_landed (hg : Good store fd pay) : Settled store fd (s.landed store pay) := by
  obtain ⟨cur, hd, hou⟩ := hg
  refine ⟨pay, cur, rfl, hd, ?_, hou⟩
  rw [State.landed, hd]
  rfl

lemma landed (h : Inv store entry canonical legacy s)
    (hg : Good store (legacyDocument store entry legacy) pay)
    (hpr : ProcessOk store (legacyDocument store entry legacy) (s.landed store pay)
      process) : Inv store entry canonical legacy ((s.landed store pay).goto process) where
  placed := h.placed
  durable := .inl (settled_landed hg)
  unsynced _ hm := nomatch hm
  process := by
    cases process <;> exact hpr

theorem imports (hs : store.Faithful) (h : Inv store entry canonical legacy s) (hp : s.process = .down)
    (hpl : plan store entry s.disk.visible s.disk.legacy = .ok (.import doc))
    (he : store.encode doc.document = .ok pay) :
    Inv store entry canonical legacy (s.goto (.committing doc pay false)) := by
  obtain ⟨-, -, hf, hn⟩ := h.import_ok hp hpl
  refine h.goto ⟨hf, hn, ?_⟩
  rw [legacyDocument] at hf
  split at hf
  · cases hf
  · obtain ⟨bs, -, hd⟩ := bind_eq_some_iff.mp hf
    cases hr : store.decodeLegacy bs with
    | error e =>
      rw [hr] at hd
      cases hd
    | ok read =>
      rw [hr] at hd
      cases hd
      exact hs bs doc pay hr he

/-- The payload of an import is good. -/
lemma good_import (hf : fd = some doc) (h : ∃ cur, store.decodeCurrent pay = .ok cur ∧ cur.document =
      doc.document ∧ doc.version ≤ cur.version) : Good store fd pay := by
  obtain ⟨cur, hd, -, hl⟩ := h
  refine ⟨cur, hd, fun o hoh => ?_⟩
  rw [hf] at hoh
  cases hoh
  exact hl

/-- After an import that has failed, the store is up with its document, which stays admitted. -/
lemma retrying {rn : Bool} (h : Inv store entry canonical legacy s)
    (hp : s.process = .committing doc pay rn) :
    Inv store entry canonical legacy (s.goto (.up doc.version (some pay) none)) := by
  obtain ⟨hf, -, hpa⟩ := h.during hp
  refine h.goto ⟨fun o hoh => ?_, fun o hoh => ?_, fun _ ha => nomatch ha⟩
  · rw [hf] at hoh
    cases hoh
    exact UInt32.le_refl _
  · cases hoh
    exact good_import hf hpa

lemma commitLands (h : Inv store entry canonical legacy s) (hp : s.process = .committing doc pay true) :
    Inv store entry canonical legacy ((s.landed store pay).goto (.retiring doc)) := by
  obtain ⟨hf, -, hpa⟩ := h.during hp
  have hg := good_import hf hpa
  refine h.landed hg ⟨hf, ?_, settled_landed hg⟩
  obtain ⟨cur, hd, hdo, -⟩ := hpa
  rw [State.landed, hd, ← hdo]
  rfl

/-- The store is up after an import. -/
lemma up_imported (hf : fd = some doc) : ProcessOk store fd s (.up doc.version none none) := by
  refine ⟨fun o hoh => ?_, (fun _ hpe => nomatch hpe), fun _ ha => nomatch ha⟩
  rw [hf] at hoh
  cases hoh
  exact UInt32.le_refl _

lemma retires {bs : Bytes} (timestamp : Nat) (h : Inv store entry canonical legacy s)
    (hp : s.process = .retiring doc) (hl : s.disk.legacy = some bs) :
    Inv store entry canonical legacy { s with
      disk := { s.disk with
        legacy := none
        backup := some (entry.backupPath timestamp, bs)
        retirementSynced := false }
      process := .retired doc (entry.backupPath timestamp) } := by
  obtain ⟨hf, hn, hs⟩ := h.during hp
  refine ⟨.inr ⟨rfl, rfl, ?_⟩, .inl hs, h.unsynced, ⟨hf, hn, hs, rfl⟩⟩
  rcases h.placed with ⟨he, -⟩ | ⟨he, -⟩
  · exact hl.symm.trans he
  · cases he.symm.trans hl

lemma retirementSyncs {backup : String} (synced : Bool) (h : Inv store entry canonical legacy s)
    (hp : s.process = .retired doc backup) :
    Inv store entry canonical legacy { s with
      disk := { s.disk with retirementSynced := synced }
      process := .up doc.version none none } := by
  obtain ⟨hf, -, hs, hb⟩ := h.during hp
  refine ⟨?_, .inl hs, h.unsynced, up_imported hf⟩
  rcases h.placed with ⟨-, hn, -⟩ | hm
  · rw [hn] at hb
    cases hb
  · exact .inr hm

variable {floor : UInt32}

lemma writes {attempt : Option Attempt} (h : Inv store entry canonical legacy s)
    (hp : s.process = .up floor pend attempt) (hd : store.decodeCurrent pay = .ok doc)
    (hv : floor ≤ doc.version) : Inv store entry canonical legacy (s.goto (.up doc.version (some pay)
      (attempt.map fun attempt => { attempt with newest := false }))) := by
  obtain ⟨hou, -, hat⟩ := h.during hp
  have hn : Outranks (legacyDocument store entry legacy) doc.version :=
    fun o hoh => UInt32.le_trans (hou o hoh) hv
  refine h.goto ⟨hn, fun o hoh => ?_, fun a ha => ?_⟩
  · cases hoh
    exact ⟨doc, hd, hn⟩
  · obtain ⟨old, hold, rfl⟩ := map_eq_some_iff.mp ha
    exact hat old hold

lemma begins (h : Inv store entry canonical legacy s) (hp : s.process = .up floor (some pay) none) :
    Inv store entry canonical legacy (s.goto (.up floor (some pay) (some ⟨pay, false, true⟩))) := by
  have hpr := h.during hp
  refine h.goto ⟨hpr.1, hpr.2.1, fun a ha => ?_⟩
  cases ha
  exact hpr.2.1 pay rfl

variable {attempt : Attempt}

section

variable (h : Inv store entry canonical legacy s) (hp : s.process = .up floor pend (some attempt))
include h hp

lemma attemptFails : Inv store entry canonical legacy (s.goto (.up floor pend none)) := by
  have hpr := h.during hp
  exact h.goto ⟨hpr.1, hpr.2.1, fun _ ha => nomatch ha⟩

lemma attemptRenames : Inv store entry canonical legacy
      ((s.replaced attempt.payload).goto (.up floor pend (some { attempt with renamed := true }))) := by
  have hpr := h.during hp
  have hg := hpr.2.2 attempt rfl
  refine h.replaced hg ⟨hpr.1, hpr.2.1, fun a ha => ?_⟩
  cases ha
  exact hg

lemma attemptLands : Inv store entry canonical legacy ((s.landed store attempt.payload).goto
      (.up floor (if attempt.newest then none else pend) none)) := by
  have hpr := h.during hp
  refine h.landed (hpr.2.2 attempt rfl) ⟨hpr.1, fun pay hpe => ?_, fun _ ha => nomatch ha⟩
  split at hpe
  · cases hpe
  · exact hpr.2.1 pay hpe

end

section

variable (h : Inv store entry canonical legacy s)
include h

lemma survived (hs : ∀ pay, survivor = some pay → pay ∈ s.disk.unsynced) :
    Inv store entry canonical legacy ((s.survived store survivor).goto .down) := by
  cases survivor with
  | some pay => exact h.landed (h.unsynced pay (hs pay rfl)) rfl
  | none =>
    refine ⟨h.placed, ?_, (fun _ hm => nomatch hm), rfl⟩
    rcases h.durable with hse | hu
    · exact .inl hse
    · exact .inr ⟨hu.wrote, hu.atCanonical, hu.atLegacy, hu.newest⟩

lemma reverted (hp : s.process = .down) (kept : Bool) :
    Inv store entry canonical legacy (s.reverted kept) := by
  have hpr := h.during hp
  rw [State.reverted]
  split
  · refine ⟨?_, ?_, h.unsynced, ?_⟩
    · rcases h.placed with ⟨he, hba, -⟩ | hm
      · exact .inl ⟨he, hba, rfl⟩
      · exact .inr hm
    · rcases h.durable with hs | hu
      · exact .inl hs
      · exact .inr ⟨hu.wrote, hu.atCanonical, hu.atLegacy, hu.newest⟩
    · rw [hp]
      exact hpr
  · rename_i hl
    -- what is not synced was moved aside, and comes back
    have hb : s.disk.backup.map Prod.snd = legacy := by
      rcases h.placed with ⟨-, -, hsy⟩ | ⟨-, -, he⟩
      · rw [hsy, Bool.true_or] at hl
        exact absurd rfl hl
      · exact he
    refine ⟨.inl ⟨hb, rfl, rfl⟩, ?_, h.unsynced, ?_⟩
    · rcases h.durable with hs | hu
      · exact .inl hs
      · exact .inr ⟨hu.wrote, hu.atCanonical, hb, hu.newest⟩
    · rw [hp]
      exact hpr

theorem crashes {kept : Bool} (hs : ∀ pay, survivor = some pay → pay ∈ s.disk.unsynced) :
    Inv store entry canonical legacy (s.crashed store survivor kept) :=
  (h.survived hs).reverted rfl kept

end

variable {migrated : Migrated D}

lemma migrates (h : Inv store entry canonical legacy s) (hp : s.process = .down)
    (hpl : plan store entry s.disk.visible s.disk.legacy = .ok (.done migrated)) :
    Inv store entry canonical legacy (s.goto (.up (startVersion store s.disk.visible) none none)) := by
  refine h.goto ⟨?_, (fun _ hpe => nomatch hpe), fun _ ha => nomatch ha⟩
  rw [h.visible_eq hp]
  rcases h.durable with ⟨bs, current, hb, hd, -, hou⟩ | hu
  · rw [hb, startVersion, hd]
    exact hou
  · rw [← hu.atLegacy]
    exact ((h.plan_ok hp hpl).done migrated rfl).2

lemma step {e : Event D} (hst : store.Faithful) (h : Inv store entry canonical legacy s)
    (hs : Step store entry s e t) : Inv store entry canonical legacy t := by
  cases hs with
  | fails err hp hpl | unreadable hp | encodeFails err hp hpl he | retireFails hp hd =>
    exact h.goto trivial
  | migrates hp hpl => exact h.migrates hp hpl
  | imports hp hpl he => exact h.imports hst hp hpl he
  | commitFails err hp ha | commitUnsynced err hp ha => exact h.retrying hp
  | commitRenames hp =>
    have hpr := h.during hp
    exact h.replaced (good_import hpr.1 hpr.2.2) hpr
  | commitLands hp ha => exact h.commitLands hp
  | retains hp hd =>
    have hpr := h.during hp
    exact h.goto (up_imported hpr.1)
  | retires timestamp hp hd hl => exact h.retires timestamp hp hl
  | retirementSyncs synced hp => exact h.retirementSyncs synced hp
  | writes hp hd hv => exact h.writes hp hd hv
  | begins hp => exact h.begins hp
  | attemptFails hp => exact h.attemptFails hp
  | attemptRenames hp hr => exact h.attemptRenames hp
  | attemptLands hp hr => exact h.attemptLands hp
  | crashes survivor kept hs => exact h.crashes hs

/-- A run starts from the newest durable document. -/
theorem starts (h : Inv store entry canonical legacy s)
    (hs : Step store entry s (.returns migrated) t) : migrated.document = t.newest := by
  have hpr := h.process
  cases hs with
  | migrates hp hpl =>
    rw [((h.plan_ok hp hpl).done migrated rfl).1]
    exact h.newest_eq
  | commitFails e hp ha | commitUnsynced e hp ha =>
    cases ha
    rw [hp] at hpr
    exact hpr.2.1.symm
  | retains hp hd | retirementSyncs synced hp =>
    rw [hp] at hpr
    exact hpr.2.1.symm

theorem once (h : Inv store entry canonical legacy s) (hw : s.wrote) (t : State D) :
    ¬ Step store entry s .imports t := by
  intro hs
  cases hs with
  | imports hp hpl he | encodeFails e hp hpl he =>
    rw [(h.import_ok hp hpl).1] at hw
    cases hw

end Inv

/-! ## The result -/

/-- **Relocation is crash-safe and happens once.** -/
theorem relocation_safe (hstore : store.Faithful)
    (h : (machine store entry canonical legacy).Reachable s) :
    Safe store entry s := by
  have hi : Inv store entry canonical legacy s := by
    refine h.invariant (fun s hin => ?_) fun s e t hs hst => hs.step hstore hst
    rw [show s = State.new store entry canonical legacy from hin]
    exact Inv.new store entry canonical legacy
  exact ⟨fun _ hn => hi.held hn, fun _ _ hs => hi.starts hs, hi.once⟩

/-- Documents that are carried over as they are read back as they were. -/
lemma rawJsonRelocation_faithful (E : Type) (probe : Bytes → UInt32) :
    (rawJsonRelocation E probe).Faithful := by
  intro bs legacy pay hd he
  cases hd
  cases he
  exact ⟨_, rfl, rfl, UInt32.le_refl _⟩

/-- A run crashes before the retirement of the legacy file it imported is durable, and another one
starts. -/
theorem relocation_safe_imported : ∃ s : State Bytes,
    s.process = .up 0 none none ∧ s.disk.legacy = some [1] ∧ s.newest = some [1] ∧
      Safe (rawJsonRelocation Unit fun _ => 0) ⟨"old.json", "new.json", .backup⟩ s := by
  have h₀ := Lib.Machine.Reachable.init (M := machine (rawJsonRelocation Unit fun _ => 0)
    ⟨"old.json", "new.json", .backup⟩ none (some [1])) rfl
  have h₁ := h₀.step (.imports rfl rfl rfl)
  have h₂ := h₁.step (.commitRenames rfl)
  have h₃ := h₂.step (.commitLands rfl rfl)
  have h₄ := h₃.step (.retires 7 rfl rfl rfl)
  have h₅ := h₄.step (.crashes none false nofun)
  have h₆ := h₅.step (.migrates rfl rfl)
  exact ⟨_, rfl, rfl, rfl, relocation_safe (rawJsonRelocation_faithful Unit _) h₆⟩

end Hypercolor.Relocation
