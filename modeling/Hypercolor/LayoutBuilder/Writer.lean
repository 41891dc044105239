import Hypercolor.LayoutBuilder.Keyed
import Hypercolor.LayoutBuilder.Ledger

/-!
# The writer

What `layout_builder/writer.rs` does to the ledgers: with a canvas edit, with the answer to a write,
with a read of its own, and with the socket's handshake. Pauses, streaks and waits only delay a turn,
and are left out, as is what a mounted Studio is told.

A turn reads the scene only to settle something. `readAndSettle` settles what lapsed, and `afterStale`
drops what the fresh zone already holds. Between a read's admission and what it settles no other turn
runs, so that each is one step here.
-/

set_option linter.unusedSectionVars false

namespace Hypercolor.LayoutBuilder

open List SceneLedgers

/-- `(ZoneResource, Option<u64>)`: the zone of a reply, as the daemon stores it and as the canvas
draws it, and the revision that it landed at if the reply names one. -/
structure ZoneReply (N L : Type) where
  raw : List (Output N L)
  shown : List (Output N L)
  landed : Option Nat

/-- What an answer came to. -/
inductive Heard where
  | lost
  | lapsed
  | applied (cancelled : List String)
  | ignored
  | stale
  | failed

/-- `raced` -/
def raced : ApiError → Bool
  | .http 409 _ _ (some details) => details.kind = some "scene_commit_superseded"
  | _ => false

/-- `unreadable` -/
def unreadable : ApiError → Bool
  | .parse _ => true
  | _ => false

namespace SceneLedgers

variable {N L : Type} [BEq N]

/-- `edit`. The sequence number is the page's. -/
def edit (s : SceneLedgers N L) (seq : Nat) (sceneId : Nat) (zoneId : String)
    (edited : List (Output N L)) : SceneLedgers N L × Nat :=
  if s.sceneId = some sceneId then
    let s := s.ensure zoneId
    match s.zone zoneId with
    | none => (s, seq)
    | some ledger =>
        (s.modify zoneId fun ledger => (ledger.edit seq edited).1, (ledger.edit seq edited).2.1)
  else (s, seq)

/-- `forget` -/
def forget (s : SceneLedgers N L) (sceneId : Nat) (outputIds : List String) (through : Nat) :
    SceneLedgers N L :=
  if s.sceneId = some sceneId then
    { s with zones := s.zones.map fun (zoneId, ledger) => (zoneId, ledger.forget outputIds through) }
  else s

variable (s : SceneLedgers N L)

/-- Every other zone still stands as confirmed. -/
def advanceOthers (zoneId : String) (before after : Nat) : SceneLedgers N L :=
  { s with zones := s.zones.map fun (id, ledger) =>
      (id, if id = zoneId then ledger else ledger.advance before after) }

/-- The `Applied` arm of `send` -/
def applied (s : SceneLedgers N L) (zoneId : String) (write : Write N L) (reply : ZoneReply N L) :
    SceneLedgers N L × Heard :=
  match s.zone zoneId with
  | none => (s, .ignored)
  | some ledger =>
      let landed := s.modify zoneId fun ledger =>
        (ledger.applied write.id reply.landed reply.raw reply.shown).1
      match (ledger.applied write.id reply.landed reply.raw reply.shown).2 with
      | none => (landed, .ignored)
      | some cancelled =>
          (if reply.landed = some (write.fence + 1) then
            landed.advanceOthers zoneId write.fence (write.fence + 1)
          else landed, .applied cancelled)

/-- `send`, from the response on, with the first step of `after_stale` -/
def answer (zoneId : String) (write : Write N L) (unanswered : Nat)
    (response : KeyedResponse (ZoneReply N L)) : SceneLedgers N L × Heard :=
  match classify write.run unanswered response with
  | .lost _ => (s.modify zoneId (·.lost write.id), .lost)
  | .otherRun => (s.modify zoneId (·.stranded write.id .restart), .lapsed)
  | .forgotten => (s.modify zoneId (·.stranded write.id .forgotten), .lapsed)
  | .final _ (.ok (.applied reply)) => s.applied zoneId write reply
  | .final _ (.ok (.stale _)) => (s.modify zoneId (·.stale write.id), .stale)
  | .final status (.error error) =>
      if status = 409 ∧ raced error then (s.modify zoneId (·.stale write.id), .stale)
      else if status = 412 ∧ unreadable error then (s.modify zoneId (·.stale write.id), .stale)
      else if success status ∧ unreadable error then
        (s.modify zoneId (·.stranded write.id .unreadable), .lapsed)
      else (s.modify zoneId (·.failed write.id), .failed)

/-- `zone_in` -/
def zoneIn (read : SceneRead N L) (zoneId : String) : Option (ZoneRead N L) :=
  read.zones.find? fun zone => zone.zoneId = zoneId

/-- A write that a read can settle, settled by it. What lapsed goes with its zone, which the report to
the user does not name. -/
def settleOpen (read : SceneRead N L) (s : SceneLedgers N L × List (String × Lapsed))
    (zoneId : String) : SceneLedgers N L × List (String × Lapsed) :=
  match zoneIn read zoneId, s.1.zone zoneId with
  | some zone, some ledger =>
      (s.1.modify zoneId fun ledger => (ledger.settleEnded read.revision zone.raw zone.shown).1,
        s.2 ++ (ledger.settleEnded read.revision zone.raw zone.shown).2.toList.map (zoneId, ·))
  | _, _ => s

/-- The zones with a write that only a read can settle. -/
def openZones : List String :=
  (s.zones.filter fun entry => entry.2.wantsRead && entry.2.unsettled).map Prod.fst

/-- `read_and_settle`: with what the admission and the writes that lapsed have to tell the user. -/
def readAndSettle (ticket : Ticket) (read : SceneRead N L) :
    SceneLedgers N L × Admission × List (String × Lapsed) :=
  match s.admitRead ticket read with
  | (s, .taken cancelled) =>
      let (settled, lapsed) := s.openZones.foldl (settleOpen read) (s, [])
      (settled, .taken cancelled, lapsed.filter fun ended => ended.2.unconfirmed)
  | (s, admission) => (s, admission, [])

/-- `after_stale`, from its read on: with the outputs whose intents the zone's own read
cancelled. -/
def afterStale (zoneId : String) (ticket : Ticket) (read : SceneRead N L) :
    SceneLedgers N L × Admission × List String :=
  match s.admitRead ticket read with
  | (s, .taken cancelled) =>
      match zoneIn read zoneId, s.zone zoneId with
      | some zone, some ledger =>
          (s.modify zoneId fun ledger => (ledger.refetched read.revision zone.raw zone.shown).1,
            .taken cancelled, (ledger.refetched read.revision zone.raw zone.shown).2)
      | _, _ => (s, .taken cancelled, [])
  | (s, admission) => (s, admission, [])

/-! ## What every ledger keeps -/

/-- A property of every ledger, of the run and the scene that the ledgers are of. -/
def Each (P : String → Option Nat → String → ZoneLedger N L → Prop) (s : SceneLedgers N L) : Prop :=
  ∀ entry ∈ s.zones, P s.run s.sceneId entry.1 entry.2

variable {P Q : String → Option Nat → String → ZoneLedger N L → Prop} {s : SceneLedgers N L}

variable {zs : List (String × ZoneLedger N L)} {z run : String} {l : ZoneLedger N L}

lemma mem_of_lookup (h : zs.lookup z = some l) : (z, l) ∈ zs := by
  induction zs with
  | nil => cases h
  | cons e zs ih =>
    rw [lookup_cons] at h
    split at h
    · rename_i he
      obtain rfl := Option.some.inj h
      rw [beq_iff_eq] at he
      exact he ▸ mem_cons_self
    · exact mem_cons_of_mem _ (ih h)

lemma Each.zone (h : s.Each P) (hz : s.zone z = some l) : P s.run s.sceneId z l := h _ (mem_of_lookup hz)

variable {ch : ZoneLedger N L → ZoneLedger N L} {e : String × ZoneLedger N L}

/-- A changed entry is the first of its id. -/
lemma mem_modifyFirst (h : e ∈ modifyFirst z ch zs) :
    e ∈ zs ∨ ∃ l, zs.lookup z = some l ∧ e = (z, ch l) := by
  induction zs with
  | nil => exact .inl h
  | cons f zs ih =>
    obtain ⟨id, l⟩ := f
    unfold modifyFirst at h
    split_ifs at h with hi
    · subst hi
      rcases mem_cons.mp h with rfl | hm
      · exact .inr ⟨l, by simp, rfl⟩
      · exact .inl (mem_cons_of_mem _ hm)
    · rcases mem_cons.mp h with rfl | hm
      · exact .inl mem_cons_self
      · rcases ih hm with hold | ⟨fd, hl, rfl⟩
        · exact .inl (mem_cons_of_mem _ hold)
        · refine .inr ⟨fd, ?_, rfl⟩
          rw [lookup_cons, beq_eq_false_iff_ne.mpr (Ne.symm hi)]
          exact hl

/-- A property that one ledger gets by a change, and the others anyway. -/
lemma Each.modify_imp (h : s.Each P)
    (hi : ∀ e ∈ s.zones, P s.run s.sceneId e.1 e.2 → Q s.run s.sceneId e.1 e.2)
    (hc : ∀ l, s.zone z = some l → P s.run s.sceneId z l → Q s.run
      s.sceneId z (ch l)) : (s.modify z ch).Each Q := by
  intro e he
  rcases mem_modifyFirst he with hold | ⟨l, hz, rfl⟩
  · exact hi e hold (h e hold)
  · exact hc l hz (h.zone hz)

lemma Each.modify (h : s.Each P) (hc : ∀ l, s.zone z = some l → P s.run s.sceneId z l → P s.run
      s.sceneId z (ch l)) : (s.modify z ch).Each P :=
  h.modify_imp (fun _ _ => id) hc

lemma Each.ensure (h : s.Each P) (hem : P s.run s.sceneId z {}) : (s.ensure z).Each P := by
  unfold SceneLedgers.ensure
  split_ifs
  · exact h
  · intro e he
    rcases mem_append.mp he with hold | hn
    · exact h e hold
    · obtain rfl := mem_singleton.mp hn
      exact hem

@[simp] theorem ensure_run (z : String) : (s.ensure z).run = s.run := by
  unfold ensure
  split_ifs <;> rfl

@[simp] theorem ensure_sceneId (z : String) : (s.ensure z).sceneId = s.sceneId := by
  unfold ensure
  split_ifs <;> rfl

/-- What reads do to the ledgers that a property has to stand. -/
structure Keeps (P : String → Option Nat → String → ZoneLedger N L → Prop) (read : SceneRead N L) :
    Prop where
  empty : ∀ run scene zoneId, P run scene zoneId {}
  reanchored : ∀ run scene zoneId ledger, P "" scene zoneId ledger →
    P run scene zoneId ledger.startReanchor
  confirmed : ∀ zone ∈ read.zones, ∀ ledger, P read.run (some read.sceneId) zone.zoneId ledger →
    P read.run (some read.sceneId) zone.zoneId
      (ledger.confirm read.revision zone.raw zone.shown).1

lemma Each.enter (h : s.Each P) (hr : run ≠ s.run → ∀ z l, P s.run s.sceneId z l → P run
      s.sceneId z l.startReanchor) : (s.enter run).1.Each P := by
  unfold SceneLedgers.enter
  split_ifs with hs
  · exact h
  · intro e he
    obtain ⟨old, hold, rfl⟩ := mem_map.mp he
    exact hr (fun heq => hs (.inr heq)) _ _ (h old hold)

variable {read : SceneRead N L}

lemma Each.ofRun (h : s.Each P) (hk : Keeps P read) : (s.ofRun read).1.Each P := by
  unfold SceneLedgers.ofRun
  split_ifs with hn
  · refine h.enter fun _ z l hl => hk.reanchored _ _ _ _ ?_
    rw [← hn]
    exact hl
  · exact h

lemma ofRun_run (h : (s.ofRun read).2) : (s.ofRun read).1.run = read.run := by
  unfold ofRun at h ⊢
  split_ifs at h ⊢ with hr
  · unfold enter
    split_ifs with hs
    · rcases hs with he | hs
      · exact hr.trans he.symm
      · exact hs.symm
    · rfl
  · exact (of_decide_eq_true h).symm

@[simp] theorem ofRun_sceneId (read : SceneRead N L) : (s.ofRun read).1.sceneId = s.sceneId := by
  unfold ofRun enter
  split_ifs <;> rfl

lemma Each.select (h : s.Each P) (sid : Nat) : (s.select sid).1.Each P := by
  unfold SceneLedgers.select
  split_ifs
  · exact h
  · exact nofun

@[simp] theorem select_run (sid : Nat) : (s.select sid).1.run = s.run := by
  unfold select
  split_ifs <;> rfl

@[simp] theorem select_sceneId (sid : Nat) : (s.select sid).1.sceneId = some sid := by
  unfold select
  split_ifs with hs
  · exact hs
  · rfl

lemma takeZone_run (rev : Nat) (t : SceneLedgers N L × List Cancelled) (zn : ZoneRead N L) :
    (takeZone rev t zn).1.run = t.1.run ∧ (takeZone rev t zn).1.sceneId = t.1.sceneId := by
  unfold takeZone
  split <;> exact ⟨rfl, rfl⟩

section

variable (rev : Nat) (zs : List (ZoneRead N L)) (t : SceneLedgers N L × List Cancelled)

lemma foldl_takeZone_run : (zs.foldl (takeZone rev) t).1.run = t.1.run ∧
      (zs.foldl (takeZone rev) t).1.sceneId = t.1.sceneId := by
  induction zs generalizing t with
  | nil => exact ⟨rfl, rfl⟩
  | cons zn zs ih =>
    obtain ⟨hr, hs⟩ := takeZone_run rev t zn
    exact ⟨(ih _).1.trans hr, (ih _).2.trans hs⟩

@[simp] theorem takeIn_run (read : SceneRead N L) : (s.takeIn read).1.run = s.run :=
  (foldl_takeZone_run ..).1

@[simp] theorem takeIn_sceneId (read : SceneRead N L) : (s.takeIn read).1.sceneId = s.sceneId :=
  (foldl_takeZone_run ..).2

/-- **A read of the ledgers' run and scene** keeps what its zones keep. -/
theorem Each.takeIn (h : s.Each P) (hk : Keeps P read) (hr : s.run = read.run)
    (hs : s.sceneId = some read.sceneId) : (s.takeIn read).1.Each P := by
  have hf : ∀ (zs : List (ZoneRead N L)) (t : SceneLedgers N L × List Cancelled),
      (∀ zn ∈ zs, zn ∈ read.zones) → t.1.run = read.run → t.1.sceneId = some read.sceneId →
      t.1.Each P → (zs.foldl (takeZone read.revision) t).1.Each P := by
    intro zs
    induction zs with
    | nil => exact fun _ _ _ _ ht => ht
    | cons zn zs ih =>
      intro t hzo htr hts ht
      obtain ⟨hr', hs'⟩ := takeZone_run read.revision t zn
      refine ih _ (fun z hz => hzo z (mem_cons_of_mem _ hz)) (hr'.trans htr) (hs'.trans hts) ?_
      unfold takeZone
      split
      · exact ht
      · refine ht.modify fun l _ hl => ?_
        rw [htr, hts] at hl ⊢
        exact hk.confirmed zn (hzo zn mem_cons_self) l hl
  refine hf read.zones _ (fun _ => id) hr hs fun e he => ?_
  exact h e (mem_of_mem_filter he)

@[simp] theorem want_run (read : SceneRead N L) (wa : Option String) : (s.want read wa).run = s.run := by
  unfold want
  split
  · rfl
  · split_ifs <;> simp

@[simp] theorem want_sceneId (read : SceneRead N L) (wa : Option String) :
    (s.want read wa).sceneId = s.sceneId := by
  unfold want
  split
  · rfl
  · split_ifs <;> simp

lemma Each.want (h : s.Each P) (hk : Keeps P read) (wa : Option String) : (s.want read wa).Each P := by
  unfold SceneLedgers.want
  split
  · exact h
  · split_ifs
    · exact h.ensure (hk.empty _ _ _)
    · exact h

/-- **A scene read** that is observed. -/
theorem Each.observe (h : s.Each P) (hk : Keeps P read) (wa : Option String) :
    (s.observe read wa).1.Each P := by
  have hkn := h.ofRun hk
  unfold SceneLedgers.observe
  rcases hr : s.ofRun read with ⟨t, known⟩
  rw [hr] at hkn
  cases known with
  | false => exact hkn
  | true =>
    have ht : t.run = read.run := by
      have hru : (s.ofRun read).1.run = read.run := ofRun_run (by rw [hr])
      rwa [hr] at hru
    have hw := (hkn.select read.sceneId).want hk wa
    exact hw.takeIn hk (by simpa using ht) (by simp)

/-- What becomes of a read that the writer started. -/
inductive Admitted (s : SceneLedgers N L) (ticket : Ticket) (read : SceneRead N L) :
    SceneLedgers N L × Admission → Prop where
  | refused : Admitted s ticket read (s, .refused)
  | otherRun : Admitted s ticket read ((s.ofRun read).1, .otherRun)
  | behind : Admitted s ticket read ((s.ofRun read).1, .behind)
  | switched :
      Admitted s ticket read (((s.ofRun read).1.observe read none).1,
        .switched (((s.ofRun read).1.observe read none).2.getD []))
  | taken (hscene : s.sceneId = some read.sceneId) (hknown : (s.ofRun read).2) :
      Admitted s ticket read
        (((s.ofRun read).1.takeIn read).1, .taken ((s.ofRun read).1.takeIn read).2)

lemma admitRead_cases (t : Ticket) (read : SceneRead N L) : Admitted s t read (s.admitRead t read) := by
  unfold admitRead
  by_cases ha : s.admits t
  · obtain ⟨sc, hs, rfl⟩ := Option.map_eq_some_iff.mp (of_decide_eq_true ha)
    rw [ha, Bool.not_true, if_neg Bool.false_ne_true]
    by_cases hk : (s.ofRun read).2
    · by_cases hoh : read.sceneId = sc
      · simp only [hk, Bool.not_true, if_neg Bool.false_ne_true, hoh, ne_eq, not_true_eq_false, if_false]
        exact .taken (hoh ▸ hs) hk
      · simp only [hk, Bool.not_true, if_neg Bool.false_ne_true, ne_eq, hoh, not_false_eq_true, if_true]
        split_ifs
        · exact .behind
        · exact .switched
    · simp only [hk, Bool.not_false, if_true]
      exact .otherRun
  · simp only [ha, Bool.not_false, if_true]
    exact .refused

/-- **A scene read** that the writer started under a ticket. One that is taken in is of the ledgers'
run and scene. -/
lemma Each.admitRead (h : s.Each P) (hk : Keeps P read) (t : Ticket) :
    (s.admitRead t read).1.Each P ∧ ∀ cancelled, (s.admitRead t read).2 = .taken cancelled →
      (s.admitRead t read).1.run = read.run ∧ (s.admitRead t read).1.sceneId = some read.sceneId := by
  have hr := h.ofRun hk
  have hc := admitRead_cases (s := s) t read
  generalize s.admitRead t read = admitted at hc
  rcases hc with _ | _ | _ | _ | ⟨hs, hkn⟩
  · exact ⟨h, nofun⟩
  · exact ⟨hr, nofun⟩
  · exact ⟨hr, nofun⟩
  · exact ⟨hr.observe hk none, nofun⟩
  · have hru := ofRun_run hkn
    have hs' : (s.ofRun read).1.sceneId = some read.sceneId := by rw [ofRun_sceneId, hs]
    refine ⟨hr.takeIn hk hru hs', fun _ _ => ⟨?_, ?_⟩⟩
    · rw [takeIn_run, hru]
    · rw [takeIn_sceneId, hs']

lemma zoneIn_mem {zn : ZoneRead N L} (h : zoneIn read z = some zn) : zn ∈ read.zones ∧ zn.zoneId = z := by
  refine ⟨mem_of_find?_eq_some h, ?_⟩
  simpa using find?_some h

/-- **A read that settles** what lapsed. -/
theorem Each.readAndSettle (h : s.Each P) (hk : Keeps P read)
    (hse : ∀ zn ∈ read.zones, ∀ l, P read.run (some read.sceneId) zn.zoneId l →
      P read.run (some read.sceneId) zn.zoneId (l.settleEnded read.revision zn.raw
      zn.shown).1) (tk : Ticket) : (s.readAndSettle tk read).1.Each P := by
  obtain ⟨ha, htk⟩ := h.admitRead hk tk
  have hfo : ∀ (ids : List String) (t : SceneLedgers N L × List (String × Lapsed)),
      t.1.run = read.run → t.1.sceneId = some read.sceneId → t.1.Each P →
      (ids.foldl (settleOpen read) t).1.Each P := by
    intro ids
    induction ids with
    | nil => exact fun _ _ _ ht => ht
    | cons z ids ih =>
      intro t hr hs ht
      rw [foldl_cons]
      unfold settleOpen
      split
      · rename_i zn l hz hl
        obtain ⟨hm, rfl⟩ := zoneIn_mem hz
        refine ih _ hr hs (ht.modify fun fd _ hf => ?_)
        rw [hr, hs] at hf ⊢
        exact hse zn hm fd hf
      · exact ih _ hr hs ht
  unfold SceneLedgers.readAndSettle
  split
  · rename_i t cancelled had
    rw [had] at ha htk
    obtain ⟨hr, hs⟩ := htk cancelled rfl
    exact hfo _ _ hr hs ha
  · rename_i t adm _ had
    rw [had] at ha
    exact ha

/-- **A read after a stale answer.** -/
theorem Each.afterStale (h : s.Each P) (hk : Keeps P read)
    (hr : ∀ zn ∈ read.zones, ∀ l, P read.run (some read.sceneId) zn.zoneId l
      → P read.run (some read.sceneId) zn.zoneId (l.refetched read.revision zn.raw
      zn.shown).1) (z : String) (tk : Ticket) : (s.afterStale z tk read).1.Each P := by
  obtain ⟨ha, ht⟩ := h.admitRead hk tk
  unfold SceneLedgers.afterStale
  split
  · rename_i t cancelled had
    rw [had] at ha ht
    obtain ⟨hru, hs⟩ := ht cancelled rfl
    split
    · rename_i zn l hz hl
      obtain ⟨hm, rfl⟩ := zoneIn_mem hz
      refine Each.modify ha fun fd _ hf => ?_
      rw [hru, hs] at hf ⊢
      exact hr zn hm fd hf
    · exact ha
  · rename_i t adm _ had
    rw [had] at ha
    exact ha

lemma Each.edit (h : s.Each P) (seq sid : Nat) (z : String) (ed : List (Output N L))
    (hem : P s.run s.sceneId z {}) (hed : ∀ l, P s.run s.sceneId z l →
      P s.run s.sceneId z (l.edit seq ed).1) : (s.edit seq sid z ed).1.Each P := by
  unfold SceneLedgers.edit
  split_ifs
  · have he := h.ensure hem
    dsimp only
    split
    · exact he
    · refine he.modify fun fd _ hf => ?_
      rw [ensure_run, ensure_sceneId] at hf ⊢
      exact hed fd hf
  · exact h

lemma Each.forget (h : s.Each P) (sid : Nat) (ids : List String) (th : Nat)
    (hf : ∀ z l, P s.run s.sceneId z l → P s.run s.sceneId z (l.forget ids th)) :
    (s.forget sid ids th).Each P := by
  unfold SceneLedgers.forget
  split_ifs
  · intro e he
    obtain ⟨old, hold, rfl⟩ := mem_map.mp he
    exact hf _ _ (h old hold)
  · exact h

end

variable {w : Write N L}

/-- What a ledger's `take_write` hands out. -/
lemma zone_takeWrite {l : ZoneLedger N L} {key : String} {id : Nat}
    (h : (l.takeWrite run id key).2 = some w) : ∃ conf ls,
      l.confirmed = some conf ∧ l.reanchor = false ∧ l.sent = none ∧ l.pending.getLast? = some ls ∧
      w = ⟨id, key, conf.revision, run, apply conf.raw l.pending⟩ ∧
      (l.takeWrite run id key).1 = { l with sent := some ⟨w, ls.seq, false, 0, none⟩ } := by
  unfold ZoneLedger.takeWrite at h ⊢
  split_ifs at h ⊢ with hd
  split at h
  · rename_i ls conf hl hc
    obtain rfl := Option.some.inj h
    simp only [ZoneLedger.writeDue, Bool.not_eq_true', Bool.not_eq_false, Bool.and_eq_true,
      Option.isNone_iff_eq_none] at hd
    refine ⟨conf, ls, hc, ?_, hd.1.1.1, hl, rfl, ?_⟩
    · simpa using hd.1.1.2
    · simp only [hc]
  · cases h

/-- What `take_write` hands out, and what it leaves. -/
lemma takeWrite_eq_some (h : (s.takeWrite z).2 = some w) : ∃ l key, s.zone z = some l ∧
      (l.takeWrite s.run (s.lastWrite + 1) key).2 = some w ∧ (s.takeWrite z).1 =
        { s.modify z fun l => (l.takeWrite s.run (s.lastWrite + 1) key).1 with
          lastWrite := s.lastWrite + 1 } := by
  unfold takeWrite at h ⊢
  dsimp only at h ⊢
  split at h
  · cases h
  · rename_i taken ht
    obtain rfl := Option.some.inj h
    obtain ⟨l, hl, hw⟩ := Option.bind_eq_some_iff.mp ht
    exact ⟨l, _, hl, hw, rfl⟩

/-! ## Write ids and zone ids

Only `take_write` hands a write id out, and no zone has two ledgers. -/

/-- The zone ids are distinct. -/
def Distinct (s : SceneLedgers N L) : Prop := (s.zones.map Prod.fst).Nodup

lemma map_fst_modifyFirst (z : String) (ch : ZoneLedger N L → ZoneLedger N L)
    (zs : List (String × ZoneLedger N L)) : (modifyFirst z ch zs).map Prod.fst = zs.map Prod.fst := by
  induction zs with
  | nil => rfl
  | cons f zs ih =>
    unfold modifyFirst
    split_ifs
    · rfl
    · simp [ih]

/-- Later ledgers hand out the same write id next, and no zone has got a second one. -/
structure Upholds (s t : SceneLedgers N L) : Prop where
  lastWrite : t.lastWrite = s.lastWrite
  distinct : s.Distinct → t.Distinct

namespace Upholds

lemma refl : s.Upholds s := ⟨rfl, id⟩

lemma trans {t u : SceneLedgers N L} (h : s.Upholds t) (h' : t.Upholds u) : s.Upholds u :=
  ⟨h'.lastWrite.trans h.lastWrite, h'.distinct ∘ h.distinct⟩

/-- The change of a ledger keeps its zone's id. -/
lemma modify (z : String) (ch : ZoneLedger N L → ZoneLedger N L) : s.Upholds (s.modify z ch) := by
  refine ⟨rfl, fun h => ?_⟩
  unfold Distinct
  exact (map_fst_modifyFirst z ch s.zones).symm ▸ h

/-- So does the change of every ledger. -/
lemma of_map {t : SceneLedgers N L} (ch : String → ZoneLedger N L → ZoneLedger N L)
    (hl : t.lastWrite = s.lastWrite) (ht : t.zones = s.zones.map fun (z, l) => (z, ch z l)) :
    s.Upholds t := by
  refine ⟨hl, fun h => ?_⟩
  unfold Distinct
  rw [ht, map_map]
  exact h

/-- A zone gets a ledger if it has none. -/
lemma ensure (z : String) : s.Upholds (s.ensure z) := by
  unfold SceneLedgers.ensure
  split_ifs with hs
  · exact .refl
  · refine ⟨rfl, fun h => ?_⟩
    unfold Distinct
    rw [map_append, nodup_append]
    refine ⟨h, nodup_singleton _, ?_⟩
    rintro id hi o hoh rfl
    obtain ⟨⟨fd, l⟩, hm, rfl⟩ := mem_map.mp hi
    obtain rfl : fd = z := mem_singleton.mp hoh
    exact hs (lookup_isSome_iff.mpr ⟨_, hm, beq_self_eq_true _⟩)

lemma enter (run : String) : s.Upholds (s.enter run).1 := by
  unfold SceneLedgers.enter
  split_ifs
  · exact .refl
  · exact .of_map (fun _ l => l.startReanchor) rfl rfl

lemma ofRun (read : SceneRead N L) : s.Upholds (s.ofRun read).1 := by
  unfold SceneLedgers.ofRun
  split_ifs
  · exact .enter read.run
  · exact .refl

lemma select (sid : Nat) : s.Upholds (s.select sid).1 := by
  unfold SceneLedgers.select
  split_ifs
  · exact .refl
  · exact ⟨rfl, fun _ => nodup_nil⟩

lemma want (read : SceneRead N L) (wa : Option String) : s.Upholds (s.want read wa) := by
  unfold SceneLedgers.want
  split
  · exact .refl
  · split_ifs
    · exact .ensure _
    · exact .refl

/-- A fold whose every step upholds the ledgers upholds them. -/
lemma foldl {α β : Type} (f : SceneLedgers N L × β → α → SceneLedgers N L × β)
    (hf : ∀ (t : SceneLedgers N L × β) a, t.1.Upholds (f t a).1) (as : List α)
    (t : SceneLedgers N L × β) : t.1.Upholds (as.foldl f t).1 := by
  induction as generalizing t with
  | nil => exact .refl
  | cons a as ih => exact (hf t a).trans (ih _)

lemma takeIn (read : SceneRead N L) : s.Upholds (s.takeIn read).1 := by
  have hs : s.Upholds { s with zones := s.zones.filter (stays read) } :=
    ⟨rfl, fun h => h.sublist (filter_sublist.map Prod.fst)⟩
  refine hs.trans (foldl (takeZone read.revision) (fun t zn => ?_) read.zones (_, _))
  unfold takeZone
  split
  · exact .refl
  · exact .modify _ _

lemma observe (read : SceneRead N L) (wa : Option String) : s.Upholds (s.observe read wa).1 := by
  have hr := ofRun (s := s) read
  unfold SceneLedgers.observe
  dsimp only
  split_ifs
  · exact hr
  · exact ((hr.trans (select _)).trans (want _ _)).trans (takeIn _)

lemma admitRead (t : Ticket) (read : SceneRead N L) : s.Upholds (s.admitRead t read).1 := by
  have hr := ofRun (s := s) read
  have hc := admitRead_cases (s := s) t read
  generalize s.admitRead t read = admitted at hc
  rcases hc with _ | _ | _ | _ | _
  · exact .refl
  · exact hr
  · exact hr
  · exact hr.trans (observe read none)
  · exact hr.trans (takeIn read)

theorem readAndSettle (tk : Ticket) (read : SceneRead N L) :
    s.Upholds (s.readAndSettle tk read).1 := by
  have ha := admitRead (s := s) tk read
  have hf := foldl (settleOpen read) fun (t : SceneLedgers N L × _) z => by
    unfold settleOpen
    split
    · exact .modify _ _
    · exact .refl
  unfold SceneLedgers.readAndSettle
  split
  · rename_i admitted _ he
    rw [he] at ha
    exact ha.trans (hf admitted.openZones (admitted, []))
  · rename_i he
    rw [he] at ha
    exact ha

theorem afterStale (z : String) (t : Ticket) (read : SceneRead N L) :
    s.Upholds (s.afterStale z t read).1 := by
  have ha := admitRead (s := s) t read
  unfold SceneLedgers.afterStale
  split
  · rename_i he
    rw [he] at ha
    split
    · exact ha.trans (modify _ _)
    · exact ha
  · rename_i he
    rw [he] at ha
    exact ha

lemma edit (seq sid : Nat) (z : String) (ed : List (Output N L)) :
    s.Upholds (s.edit seq sid z ed).1 := by
  unfold SceneLedgers.edit
  split_ifs
  · dsimp only
    split
    · exact .ensure z
    · exact (ensure z).trans (modify _ _)
  · exact .refl

lemma forget (sid : Nat) (ids : List String) (th : Nat) : s.Upholds (s.forget sid ids th) := by
  unfold SceneLedgers.forget
  split_ifs
  · exact .of_map (fun _ l => l.forget ids th) rfl rfl
  · exact .refl

lemma answer (z : String) (w : Write N L) (un : Nat) (resp : KeyedResponse (ZoneReply N L)) :
    s.Upholds (s.answer z w un resp).1 := by
  unfold SceneLedgers.answer
  split
  iterate 3 exact .modify _ _
  · unfold SceneLedgers.applied
    split
    · exact .refl
    · split
      · exact .modify _ _
      · split_ifs
        · exact (modify _ _).trans (.of_map (fun id l =>
            if id = z then l else l.advance w.fence (w.fence + 1)) rfl rfl)
        · exact .modify _ _
  · exact .modify _ _
  · split_ifs <;> exact .modify _ _

end Upholds

lemma mem_modifyFirst_distinct (hd : (zs.map Prod.fst).Nodup)
    (h : e ∈ modifyFirst z ch zs) : (e ∈ zs ∧ e.1 ≠ z) ∨ ∃ l, zs.lookup z = some l ∧ e = (z, ch l) := by
  induction zs with
  | nil => cases h
  | cons f zs ih =>
    obtain ⟨id, l⟩ := f
    obtain ⟨hi, hr⟩ := nodup_cons.mp hd
    unfold modifyFirst at h
    split_ifs at h with hs
    · subst hs
      rcases mem_cons.mp h with rfl | hm
      · exact .inr ⟨l, by simp, rfl⟩
      · refine .inl ⟨mem_cons_of_mem _ hm, fun he => hi ?_⟩
        exact mem_map.mpr ⟨e, hm, he⟩
    · rcases mem_cons.mp h with rfl | hm
      · exact .inl ⟨mem_cons_self, hs⟩
      · rcases ih hr hm with ⟨hold, hn⟩ | ⟨found, hl, rfl⟩
        · exact .inl ⟨mem_cons_of_mem _ hold, hn⟩
        · refine .inr ⟨found, ?_, rfl⟩
          rw [lookup_cons, beq_eq_false_iff_ne.mpr (Ne.symm hs)]
          exact hl

/-- The change of a ledger leaves the ledgers of other zones, and no other of its own. -/
lemma Distinct.each_modify (h : s.Distinct) (hos : ∀ e ∈ s.zones, e.1 ≠ z → Q s.run s.sceneId e.1 e.2)
    (hc : ∀ l, s.zone z = some l → Q s.run s.sceneId z (ch l)) : (s.modify z ch).Each Q := by
  intro e he
  rcases mem_modifyFirst_distinct h he with ⟨hold, hn⟩ | ⟨l, hz, rfl⟩
  · exact hos e hold hn
  · exact hc l hz

end SceneLedgers

end Hypercolor.LayoutBuilder
