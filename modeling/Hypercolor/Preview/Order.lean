import Hypercolor.Preview.Accounting

/-!
# Publications never go backwards

**As long as a stream's entry is not evicted, what it has finished stays finished**
(`never_accepted_again`): once a publication was completed, cancelled, expired or superseded, no
chunk of it or of an older one of that stream is accepted, and what completes later has a larger id.

The high-water mark carries this. It only grows while the entry is there, and a stream without a
partial gets one again only under a larger mark (`Advances`). A publication at or below the mark,
unless it is the one being received, is `Closed`: the reassembler refuses its chunks as stale.
-/

set_option linter.unusedSectionVars false

namespace Hypercolor.Preview

open Lib Option AList

variable [Platform]

/-- How an entry may change while it is kept. -/
structure Advances (state state' : StreamState) : Prop where
  highWater_le : state.highWaterPublicationId ≤ state'.highWaterPublicationId
  stays_idle : state.partialPub = none →
    state'.highWaterPublicationId = state.highWaterPublicationId → state'.partialPub = none

lemma Advances.refl (st : StreamState) : Advances st st := ⟨UInt64.le_refl _, fun h _ => h⟩

variable {r r' : Reassembler}

namespace Reassembler

/-- The stream is done with the publication: it refuses its chunks. -/
def Closed (r : Reassembler) (stream : PreviewStreamId) (publicationId : UInt64) : Prop :=
  ∃ state, r.streams.lookup stream = some state ∧ (publicationId < state.highWaterPublicationId ∨
      (publicationId = state.highWaterPublicationId ∧ state.partialPub = none))

/-- What the stream had before it has advanced to what it has now. -/
def Follows (stream : PreviewStreamId) (r r' : Reassembler) : Prop :=
  ∀ state state', r.streams.lookup stream = some state → r'.streams.lookup stream = some state' →
    Advances state state'

variable {str : PreviewStreamId} {publicationId : UInt64}

lemma Closed.follows (h : r.Closed str publicationId) (hf : Follows str r r')
    (hk : str ∈ r'.streams) : r'.Closed str publicationId := by
  obtain ⟨st, hs, hc⟩ := h
  obtain ⟨st', hs'⟩ := Table.exists_lookup hk
  obtain ⟨hle, hi⟩ := hf st st' hs hs'
  refine ⟨st', hs', ?_⟩
  rcases hc with hl | ⟨rfl, hn⟩
  · exact .inl (UInt64.lt_of_lt_of_le hl hle)
  · rcases UInt64.lt_or_eq_of_le hle with hl | he
    · exact .inl hl
    · exact .inr ⟨he, hi hn he.symm⟩

lemma Closed.mem (h : r.Closed str publicationId) : str ∈ r.streams := by
  obtain ⟨st, hs, -⟩ := h
  exact Table.mem_of_lookup hs

lemma Closed.older {older : UInt64} (h : r.Closed str publicationId)
    (hle : older ≤ publicationId) : r.Closed str older := by
  obtain ⟨st, hs, hc⟩ := h
  refine ⟨st, hs, ?_⟩
  rcases UInt64.lt_or_eq_of_le hle with hl | rfl
  · rcases hc with hm | ⟨rfl, -⟩
    · exact .inl (UInt64.lt_trans hl hm)
    · exact .inl hl
  · exact hc

/-- Every partial belongs to its stream and is what the high-water mark names. -/
def Identified (r : Reassembler) : Prop :=
  ∀ stream state pub, r.streams.lookup stream = some state → state.partialPub = some pub →
    pub.metadata.stream = stream ∧ pub.metadata.publicationId = state.highWaterPublicationId

/-! ## Placing a chunk -/

variable {c : PreviewChunkHeader}

/-- A closed publication's chunk is stale. -/
lemma pushParts_of_closed (al : Alloc) (p : List UInt8) (nowMs : Nat)
    (h : r.Closed c.metadata.stream c.metadata.publicationId) :
    ∃ error, r.pushParts al c p nowMs = (r, .error error) := by
  obtain ⟨st, hs, hc⟩ := h
  unfold pushParts
  simp only
  split
  · exact ⟨_, rfl⟩
  · split
    · exact ⟨_, rfl⟩
    · split
      · exact ⟨_, rfl⟩
      · rw [hs, filter_some_pos]
        · exact ⟨_, rfl⟩
        · simpa using hc

end Reassembler

variable {md : PreviewPublicationMetadata}

namespace Reassembler

variable {str : PreviewStreamId} {st st' : StreamState}

/-- An entry is `r`'s, or one of this publication. -/
def OwnedBy (metadata : PreviewPublicationMetadata) (state : StreamState) : Prop :=
  state.highWaterPublicationId = metadata.publicationId ∧
    ∀ pub, state.partialPub = some pub → pub.metadata = metadata

lemma Marked.ownedBy (h : Marked str r r') (hs : ∀ st, r.streams.lookup str = some st → OwnedBy md st)
    (hs' : r'.streams.lookup str = some st') : OwnedBy md st' := by
  obtain ⟨st, hl, he⟩ := h.own st' hs'
  rw [he]
  exact hs st hl

lemma lookup_takePartial (hs : r.streams.lookup str = some st) (publicationId : UInt64) :
    (r.takePartial str publicationId).streams.lookup str =
      some { st with highWaterPublicationId := publicationId, partialPub := none } := by
  simp [takePartial, hs]

/-- An admission leaves the stream's entry as it was, or makes it this publication's; with success
it is there. -/
lemma admitPartial_own (r : Reassembler) (al : Alloc) (c : PreviewChunkHeader)
    (p : List UInt8) (total nowMs : Nat) :
    (∀ st', (r.admitPartial al c p total nowMs).1.streams.lookup c.metadata.stream = some st' →
      r.streams.lookup c.metadata.stream = some st' ∨ OwnedBy c.metadata st') ∧
    ((r.admitPartial al c p total nowMs).2 = .ok () →
      ∃ st', (r.admitPartial al c p total nowMs).1.streams.lookup
        c.metadata.stream = some st' ∧ OwnedBy c.metadata st') := by
  have ht : ∀ st', (r.takePartial c.metadata.stream
      c.metadata.publicationId).streams.lookup c.metadata.stream = some st' →
        OwnedBy c.metadata st' := by
    intro st' hs'
    cases hs : r.streams.lookup c.metadata.stream with
    | none => simp [takePartial_none hs, hs] at hs'
    | some st =>
      rw [lookup_takePartial hs] at hs'
      cases hs'
      exact ⟨rfl, nofun⟩
  unfold admitPartial
  split
  · exact ⟨fun st' hs' => .inl hs', nofun⟩
  · simp only
    split
    · refine ⟨fun st' hs' => .inr ?_, nofun⟩
      split at hs'
      · refine Marked.ownedBy (markTombstone_marked _ _ true) ?_ hs'
        exact ht
      · exact ht st' hs'
    · split
      · exact ⟨fun st' hs' => .inr (ht st' hs'), nofun⟩
      · have how : OwnedBy c.metadata (admittedState c ‹Admission› total nowMs) :=
          ⟨rfl, fun pub hp => by cases hp; rfl⟩
        refine ⟨fun st' hs' => ?_, fun _ => ⟨_, lookup_insert _, how⟩⟩
        cases (lookup_insert _).symm.trans hs'
        exact .inr how

end Reassembler

variable {bytes p : List UInt8}

namespace Reassembler

variable {al : Alloc} {c : PreviewChunkHeader} {total nowMs : Nat} {str : PreviewStreamId}
  {st st' : StreamState}

/-- What appending does to an entry: the mark stays, and the partial grows or goes. -/
structure Appended (state state' : StreamState) : Prop where
  highWater_eq : state'.highWaterPublicationId = state.highWaterPublicationId
  metadata_eq : ∀ pub', state'.partialPub = some pub' →
    ∃ pub, state.partialPub = some pub ∧ pub'.metadata = pub.metadata

lemma Appended.refl (st : StreamState) : Appended st st := ⟨rfl, fun pub' hp' => ⟨pub', hp', rfl⟩⟩

lemma Appended.advances (h : Appended st st') : Advances st st' where
  highWater_le := by rw [h.highWater_eq]; exact UInt64.le_refl _
  stays_idle hi _ := by
    by_contra hn
    obtain ⟨pub', hp'⟩ := ne_none_iff_exists'.mp hn
    obtain ⟨pub, hp, -⟩ := h.metadata_eq pub' hp'
    rw [hi] at hp
    cases hp

lemma Appended.ownedBy (h : Appended st st') (how : OwnedBy md st) : OwnedBy md st' := by
  refine ⟨h.highWater_eq.trans how.1, fun pub' hp' => ?_⟩
  obtain ⟨pub, hp, he⟩ := h.metadata_eq pub' hp'
  rw [he]
  exact how.2 pub hp

/-- Completing drops the partial, whatever happens to the entry afterwards. -/
lemma completePublication_own {pub : PartialPublication}
    (hs' : (r.completePublication str st pub).1.streams.lookup str = some st') :
    st'.highWaterPublicationId = st.highWaterPublicationId ∧ st'.partialPub = none := by
  unfold completePublication at hs'
  split at hs'
  · cases (lookup_insert _).symm.trans hs'
    exact ⟨rfl, rfl⟩
  · obtain ⟨middle, hm, he⟩ := (markTombstone_marked _ str true).own st' hs'
    cases (lookup_insert _).symm.trans hm
    rw [he]
    exact ⟨rfl, rfl⟩

lemma appendChunk_own (hs : r.streams.lookup str = some st)
    (hs' : (r.appendChunk al str c p total nowMs).1.streams.lookup str = some st') : Appended st st' := by
  unfold appendChunk at hs'
  rw [hs] at hs'
  simp only at hs'
  split at hs'
  · rw [hs] at hs'
    cases hs'
    exact .refl st
  · rename_i pub hp
    split at hs'
    · rw [hs] at hs'
      cases hs'
      exact .refl st
    · split at hs'
      · cases (lookup_insert _).symm.trans hs'
        exact ⟨rfl, fun pub' hp' => by cases hp'; exact ⟨pub, hp, rfl⟩⟩
      · split at hs'
        · cases (lookup_insert _).symm.trans hs'
          exact ⟨rfl, fun pub' hp' => by cases hp'; exact ⟨pub, hp, rfl⟩⟩
        · split at hs'
          · cases (lookup_insert _).symm.trans hs'
            exact ⟨rfl, fun pub' hp' => by cases hp'; exact ⟨pub, hp, rfl⟩⟩
          · obtain ⟨hm, hi⟩ := completePublication_own hs'
            exact ⟨hm, fun pub' hp' => by rw [hi] at hp'; cases hp'⟩

/-- A completed publication is the chunk's own, and its stream has no partial any more. -/
lemma appendChunk_completed (h : (r.appendChunk al str c p total nowMs).2 = .ok (some
      (md, bytes))) : md = c.metadata ∧
      (∃ st pub, r.streams.lookup str = some st ∧ st.partialPub = some pub ∧ pub.metadata = md) ∧
      ∀ st', (r.appendChunk al str c p total nowMs).1.streams.lookup
        str = some st' → st'.partialPub = none := by
  cases hs : r.streams.lookup str with
  | none => simp [appendChunk, hs] at h
  | some st =>
    cases hp : st.partialPub with
    | none => simp [appendChunk, hs, hp] at h
    | some pub =>
      cases hc : checkAppend r.limits al pub c p total with
      | error e => simp [appendChunk, hs, hp, hc] at h
      | ok validated =>
        have hm := (checkAppend_eq_ok.mp hc).metadata_eq
        simp only [appendChunk, hs, hp, hc] at h ⊢
        split_ifs at h ⊢ with hsm hmo hf
        · simp at h
        · refine ⟨?_, ⟨st, pub, rfl, hp, ?_⟩, fun st' hs' => (completePublication_own hs').2⟩
          all_goals
            unfold completePublication at h
            split at h
            · cases h
            · cases h
              first | exact hm | rfl

end Reassembler

namespace Reassembler

variable {al : Alloc} {c : PreviewChunkHeader} {nowMs : Nat} {str : PreviewStreamId}
  {st st' : StreamState}

/-- What a chunk does to its stream's entry: the entry grew or lost its partial, or a publication
newer than its mark replaced it. -/
lemma pushParts_own (hs' : (r.pushParts al c p nowMs).1.streams.lookup c.metadata.stream = some st') :
    (∃ st, r.streams.lookup c.metadata.stream = some st ∧ Appended st st') ∨
      ((∀ st, r.streams.lookup c.metadata.stream = some st →
          st.highWaterPublicationId < c.metadata.publicationId) ∧ OwnedBy c.metadata st') := by
  cases placement r al c p nowMs with
  | refused e h hn =>
    rw [h] at hs'
    exact .inl ⟨st', hs', .refl st'⟩
  | notAdmitted admitted e hf ha h =>
    have how := (admitPartial_own r al c p c.totalEncodedBytes.toNat nowMs).1
    rw [ha] at how
    rw [h] at hs'
    rcases how st' hs' with hsa | how
    · exact .inl ⟨st', hsa, .refl st'⟩
    · exact .inr ⟨hf, how⟩
  | admitted admitted hf ha h =>
    have how := (admitPartial_own r al c p c.totalEncodedBytes.toNat nowMs).2
    rw [ha] at how
    obtain ⟨middle, hm, hme⟩ := how rfl
    rw [h] at hs'
    exact .inr ⟨hf, (appendChunk_own hm hs').ownedBy hme⟩
  | continued st hs hma hac h =>
    rw [h] at hs'
    exact .inl ⟨st, hs, appendChunk_own hs hs'⟩

lemma OwnedBy.advances (how : OwnedBy md st')
    (hl : st.highWaterPublicationId < md.publicationId) : Advances st st' where
  highWater_le := by
    rw [how.1]
    exact UInt64.le_of_lt hl
  stays_idle _ hm := by
    rw [← how.1, hm] at hl
    exact absurd hl (UInt64.lt_irrefl _)

lemma pushParts_follows (str : PreviewStreamId) : Follows str r (r.pushParts al c p nowMs).1 := by
  intro st st' hs hs'
  by_cases hk : str = c.metadata.stream
  · subst hk
    rcases pushParts_own hs' with ⟨before, hb, ha⟩ | ⟨hf, how⟩
    · cases hs.symm.trans hb
      exact ha.advances
    · exact how.advances (hf st hs)
  · cases hs.symm.trans ((pushParts_spares r al c p nowMs).lookup_of_lookup _ _ hk hs')
    exact .refl st

lemma pushParts_identified (h : r.Identified) : (r.pushParts al c p nowMs).1.Identified := by
  intro str st' pub' hs' hp'
  by_cases hk : str = c.metadata.stream
  · subst hk
    rcases pushParts_own hs' with ⟨st, hs, ha⟩ | ⟨-, hm, how⟩
    · obtain ⟨pub, hp, he⟩ := ha.metadata_eq pub' hp'
      obtain ⟨hst, hi⟩ := h _ st pub hs hp
      rw [he, ha.highWater_eq]
      exact ⟨hst, hi⟩
    · rw [how pub' hp', hm]
      exact ⟨rfl, rfl⟩
  · exact h str st' pub' ((pushParts_spares r al c p nowMs).lookup_of_lookup _ _ hk hs') hp'

/-- A chunk that is accepted belongs to the publication its stream's mark names. -/
lemma pushParts_accepted {res : Option (PreviewPublicationMetadata × List UInt8)}
    (h : (r.pushParts al c p nowMs).2 = .ok res)
    (hs' : (r.pushParts al c p nowMs).1.streams.lookup c.metadata.stream =
      some st') : st'.highWaterPublicationId = c.metadata.publicationId := by
  cases placement r al c p nowMs with
  | refused e hr hn | notAdmitted admitted e hf had hr => rw [hr] at h; cases h
  | admitted admitted hf had ha =>
    have how := (admitPartial_own r al c p c.totalEncodedBytes.toNat nowMs).2
    rw [had] at how
    obtain ⟨middle, hmi, hm, -⟩ := how rfl
    rw [ha] at hs'
    rw [(appendChunk_own hmi hs').highWater_eq, hm]
  | continued st hs hm hac ha =>
    rw [ha] at hs'
    rw [(appendChunk_own hs hs').highWater_eq, hm]

/-- What a chunk completes is its own publication, and its stream is idle after it. -/
lemma pushParts_completed (h : (r.pushParts al c p nowMs).2 = .ok (some (md, bytes))) :
    md = c.metadata ∧ ∀ st', (r.pushParts al c p nowMs).1.streams.lookup c.metadata.stream =
        some st' → st'.partialPub = none := by
  cases placement r al c p nowMs with
  | refused e hr hn | notAdmitted admitted e hf had hr => rw [hr] at h; cases h
  | admitted admitted hf had ha | continued st hs hm hac ha =>
    rw [ha] at h ⊢
    obtain ⟨he, -, hi⟩ := appendChunk_completed h
    exact ⟨he, hi⟩

end Reassembler

/-! ## Calls -/

variable {c : PreviewChunkHeader}

namespace Reassembler

/-- The chunk a call brings. -/
def Op.chunk : Op → Option PreviewChunkHeader
  | .push encodedChunk _ | .pushAt encodedChunk _ _ =>
      ((PreviewChunkHeader.decodePrefix encodedChunk encodedChunk.length).toOption).map Prod.fst
  | _ => none

/-- What a call returns, where it returns publications. -/
def result (r : Reassembler) : Op → Except PreviewChunkError (Option ReassembledPreviewPublication)
  | .push encodedChunk alloc => (r.push alloc encodedChunk).2
  | .pushAt encodedChunk nowMs alloc => (r.pushAt alloc encodedChunk nowMs).2
  | _ => .ok none

/-- The state a call has reached when its expiry sweep is over. -/
def swept (r : Reassembler) : Op → Reassembler
  | .push encodedChunk _ =>
      let nowMs := satAddU64 r.logicalNowMs 1
      ({ r with logicalNowMs := nowMs }.beginPush encodedChunk.length nowMs).1
  | .pushAt encodedChunk nowMs _ => (r.beginPush encodedChunk.length nowMs).1
  | .expireAt nowMs => r.expireAt nowMs
  | _ => r

/-- A push is refused after the sweep, or its chunk is placed. -/
inductive Delivery (r : Reassembler) (op : Op) : Prop where
  | refused (error : PreviewChunkError) (happly : r.apply op = r.swept op)
      (hresult : r.result op = .error error)
  | placed (chunk : PreviewChunkHeader) (alloc : Alloc) (payload : List UInt8) (nowMs : Nat)
      (hchunk : op.chunk = some chunk)
      (happly : r.apply op = ((r.swept op).pushParts alloc chunk payload nowMs).1)
      (hresult : r.result op =
        validateResult r.limits ((r.swept op).pushParts alloc chunk payload nowMs).2)

lemma delivery_pushAt (r : Reassembler) (enc : List UInt8) (nowMs : Nat)
    (al : Alloc) : r.Delivery (.pushAt enc nowMs al) := by
  cases hb : r.beginPush enc.length nowMs with
  | mk begun fits =>
    have hs : r.swept (.pushAt enc nowMs al) = begun := by simp [swept, hb]
    have hl : begun.limits = r.limits := by
      rw [← hs]
      exact (expireAt_swept _ nowMs).limits_eq
    cases fits with
    | error e =>
      exact .refused e (by simp [apply, pushAt, hb, hs]) (by simp [result, pushAt, hb])
    | ok =>
      cases hd : PreviewChunkHeader.decodePrefix enc enc.length with
      | error e =>
        exact .refused e (by simp [apply, pushAt, hb, hs, hd]) (by simp [result, pushAt, hb, hd])
      | ok decoded =>
        refine .placed decoded.1 al (enc.drop decoded.2) nowMs ?_ ?_ ?_
        · simp [Op.chunk, hd, Except.toOption]
        · simp [apply, pushAt, hb, hs, hd]
        · simp [result, pushAt, hb, hs, hd, hl]

/-- A push without a time is one at the next logical time. -/
lemma delivery_push (r : Reassembler) (enc : List UInt8) (al : Alloc) : r.Delivery (.push enc al) := by
  cases delivery_pushAt { r with logicalNowMs := satAddU64 r.logicalNowMs 1 } enc
      (satAddU64 r.logicalNowMs 1) al with
  | refused e ha hr => exact .refused e ha hr
  | placed c al p nowMs hc ha hr =>
    exact .placed c al p nowMs hc ha hr

lemma delivery {op : Op} (h : op.chunk = some c) : r.Delivery op := by
  cases op with
  | push enc al => exact delivery_push r enc al
  | pushAt enc nowMs al => exact delivery_pushAt r enc nowMs al
  | expireAt nowMs | cancelPublication canc al | clear => cases h

end Reassembler

namespace Reassembler

variable {str : PreviewStreamId}

variable {nowMs : Nat}

lemma Swept.follows (h : Swept nowMs r r') (str : PreviewStreamId) : Follows str r r' := by
  intro st st' hs hs'
  obtain ⟨before, hb, hm, hp⟩ := h.lookup_of_lookup str st' hs'
  cases hs.symm.trans hb
  refine ⟨hm ▸ UInt64.le_refl _, fun hi _ => ?_⟩
  rcases hp with hsa | hn
  · exact hsa.trans hi
  · exact hn

lemma Swept.identified (h : Swept nowMs r r') (hi : r.Identified) : r'.Identified := by
  intro str st' pub hs' hp
  obtain ⟨st, hs, hm, hsa | hn⟩ := h.lookup_of_lookup str st' hs'
  · rw [hm]
    exact hi str st pub hs (hsa ▸ hp)
  · rw [hn] at hp
    cases hp

/-- A call's sweep is an expiry sweep, or there is none. -/
lemma swept_cases (r : Reassembler) (op : Op) :
    r.swept op = r ∨ ∃ r' nowMs, r'.streams = r.streams ∧ r'.limits = r.limits ∧
      Swept nowMs r' (r.swept op) := by
  cases op with
  | push enc al =>
    refine .inr ⟨_, _, ?_, ?_, expireAt_swept _ _⟩ <;> rfl
  | pushAt enc nowMs al =>
    refine .inr ⟨_, nowMs, ?_, ?_, expireAt_swept _ nowMs⟩ <;> rfl
  | expireAt nowMs => exact .inr ⟨r, nowMs, rfl, rfl, expireAt_swept r nowMs⟩
  | cancelPublication canc al | clear => exact .inl rfl

lemma Follows.refl (str : PreviewStreamId) (r : Reassembler) : Follows str r r := by
  intro st st' hs hs'
  cases hs.symm.trans hs'
  exact .refl st

lemma swept_follows (r : Reassembler) (op : Op) (str : PreviewStreamId) : Follows str r (r.swept op) := by
  rcases swept_cases r op with he | ⟨before, nowMs, hs, -, h⟩
  · rw [he]
    exact .refl str r
  · have hf := h.follows str
    unfold Follows at hf
    rwa [hs] at hf

lemma swept_identified (h : r.Identified) (op : Op) : (r.swept op).Identified := by
  rcases swept_cases r op with he | ⟨before, nowMs, hs, -, hsw⟩
  · rwa [he]
  · refine hsw.identified ?_
    unfold Identified
    rwa [hs]

/-! ## Cancelling -/

variable (r : Reassembler) (al : Alloc) (canc : PreviewCancelFrame)

/-- A cancelled publication is closed, as long as its stream has an entry. -/
lemma cancelPublication_own {st' : StreamState}
    (hs' : (r.cancelPublication al canc).1.streams.lookup canc.stream =
      some st') : r.streams.lookup canc.stream = some st' ∧
        canc.publicationId < st'.highWaterPublicationId ∨
      (∀ st, r.streams.lookup canc.stream = some st → st.highWaterPublicationId ≤ canc.publicationId) ∧
      st'.highWaterPublicationId = canc.publicationId ∧ st'.partialPub = none := by
  unfold cancelPublication at hs'
  cases hs : r.streams.lookup canc.stream with
  | none =>
    simp only [hs] at hs'
    split at hs'
    · rw [hs] at hs'
      cases hs'
    · obtain ⟨middle, hm, he⟩ :=
        (markTombstone_marked _ canc.stream false).own st' hs'
      cases (lookup_insert _).symm.trans hm
      rw [he]
      exact .inr ⟨nofun, rfl, rfl⟩
  | some st =>
    simp only [hs] at hs'
    split at hs'
    · rename_i hl
      cases hs.symm.trans hs'
      exact .inl ⟨rfl, hl⟩
    · rename_i hle
      obtain ⟨middle, hm, he⟩ := (markTombstone_marked _ canc.stream _).own st' hs'
      cases (lookup_takePartial hs _).symm.trans hm
      rw [he]
      exact .inr ⟨fun _ h => by cases h; exact UInt64.not_lt.mp hle, rfl, rfl⟩

lemma cancelPublication_spares : Spares canc.stream r (r.cancelPublication al canc).1 := by
  unfold cancelPublication
  split
  · split
    · exact .refl _ r
    · refine Spares.trans ?_ (markTombstone_marked _ _ false).toSpares
      exact .of_insert rfl rfl
  · split
    · exact .refl _ r
    · refine (takePartial_spares r _ canc.publicationId).trans ?_
      refine Spares.trans ?_ (markTombstone_marked _ _ _).toSpares
      exact ⟨rfl, fun _ _ _ h => h, fun _ _ _ h _ => h⟩

end Reassembler

/-! ## Runs -/

variable {limits : PreviewLimits}

namespace Reassembler

variable {op : Op} {str : PreviewStreamId}

lemma Delivery.follows (h : r.Delivery op) : Follows str (r.swept op) (r.apply op) := by
  cases h with
  | refused e ha hr =>
    rw [ha]
    exact .refl str _
  | placed c al p nowMs hc ha hr =>
    rw [ha]
    exact pushParts_follows str

lemma Delivery.identified (h : r.Delivery op) (hi : r.Identified) : (r.apply op).Identified := by
  cases h with
  | refused e ha hr =>
    rw [ha]
    exact swept_identified hi op
  | placed c al p nowMs hc ha hr =>
    rw [ha]
    exact pushParts_identified (swept_identified hi op)

lemma cancelPublication_follows (r : Reassembler) (al : Alloc)
    (canc : PreviewCancelFrame) (str : PreviewStreamId) :
    Follows str r (r.cancelPublication al canc).1 := by
  intro st st' hs hs'
  by_cases hk : str = canc.stream
  · subst hk
    rcases cancelPublication_own r _ _ hs' with ⟨hsa, -⟩ | ⟨hl, hm, hi⟩
    · cases hs.symm.trans hsa
      exact .refl st
    · exact ⟨hm ▸ hl st hs, fun _ _ => hi⟩
  · cases hs.symm.trans ((cancelPublication_spares r al canc).lookup_of_lookup _ _ hk hs')
    exact .refl st

lemma apply_follows (r : Reassembler) (op : Op) (str : PreviewStreamId) :
    Follows str (r.swept op) (r.apply op) := by
  cases op with
  | push enc al => exact (delivery_push r enc al).follows
  | pushAt enc nowMs al => exact (delivery_pushAt r enc nowMs al).follows
  | expireAt nowMs => exact .refl str _
  | cancelPublication canc al =>
    exact cancelPublication_follows r al canc str
  | clear =>
    intro st st' _ hs'
    simp [apply, clear] at hs'

lemma cancelPublication_identified {al : Alloc} {canc : PreviewCancelFrame}
    (h : r.Identified) : (r.cancelPublication al canc).1.Identified := by
  intro str st' pub hs' hp
  by_cases hk : str = canc.stream
  · subst hk
    rcases cancelPublication_own r _ _ hs' with ⟨hsa, -⟩ | ⟨-, -, hi⟩
    · exact h _ st' pub hsa hp
    · rw [hi] at hp
      cases hp
  · exact h str st' pub ((cancelPublication_spares r al canc).lookup_of_lookup _ _ hk hs') hp

lemma apply_identified (h : r.Identified) (op : Op) : (r.apply op).Identified := by
  cases op with
  | push enc al => exact (delivery_push r enc al).identified h
  | pushAt enc nowMs al =>
    exact (delivery_pushAt r enc nowMs al).identified h
  | expireAt nowMs => exact swept_identified h (.expireAt nowMs)
  | cancelPublication canc al => exact cancelPublication_identified h
  | clear =>
    intro str st' pub hs'
    simp [apply, clear] at hs'

lemma reachable_identified (h : (machine limits).Reachable r) : r.Identified := by
  refine h.invariant ?_ ?_
  · rintro r rfl str st pub hs
    simp [withLimits] at hs
  · intro r label r' hr hst
    cases label with
    | some op =>
      cases hst
      exact apply_identified hr op
    | none =>
      obtain ⟨streams, hp, rfl⟩ := hst
      intro str st pub hs
      exact hr str st pub ((perm_lookup hp).symm.trans hs)

end Reassembler

/-! ## What is finished stays finished -/

namespace Reassembler

variable {op : Op} {str : PreviewStreamId} {publicationId : UInt64}

/-- The call does not evict the stream: its entry survives the sweep and is there afterwards. -/
structure Keeps (stream : PreviewStreamId) (r : Reassembler) (op : Op) : Prop where
  sweep : stream ∈ r.streams → stream ∈ (r.swept op).streams
  after : stream ∈ (r.apply op).streams

/-- Runs in which no call evicts the stream. Clearing evicts every stream. -/
def keeping (limits : PreviewLimits) (stream : PreviewStreamId) : Machine Reassembler (Option Op) where
  init := (machine limits).init
  step r label r' := (machine limits).step r label r' ∧ ∀ op, label = some op → Keeps stream r op

/-- The stream's partial of this publication is gone. -/
def Drops (stream : PreviewStreamId) (publicationId : UInt64) (r r' : Reassembler) : Prop :=
  (∃ pub, r.partialOf stream = some pub ∧ pub.metadata.publicationId = publicationId) ∧
    ∀ pub, r'.partialOf stream = some pub → pub.metadata.publicationId ≠ publicationId

/-- The ways a call finishes a publication. -/
inductive Settles (r : Reassembler) (op : Op) (stream : PreviewStreamId)
    (publicationId : UInt64) : Prop where
  | completed (pub : ReassembledPreviewPublication) (hresult : r.result op = .ok (some pub))
      (hstream : pub.metadata.stream = stream) (hid : pub.metadata.publicationId = publicationId)
  | cancelled (alloc : Alloc) (hop : op = .cancelPublication ⟨stream, publicationId⟩ alloc)
  | expired (hdrops : Drops stream publicationId r (r.swept op))
  | superseded (hdrops : Drops stream publicationId (r.swept op) (r.apply op))
  | outdated (newer : PreviewChunkHeader) (hchunk : op.chunk = some newer)
      (hstream : newer.metadata.stream = stream)
      (hnewer : publicationId < newer.metadata.publicationId)
      (result : Option ReassembledPreviewPublication) (hresult : r.result op = .ok result)

/-- The chunk is turned away: the call fails, and all it did was its expiry sweep. -/
def Refuses (r : Reassembler) (op : Op) : Prop :=
  r.apply op = r.swept op ∧ ∃ error, r.result op = .error error

lemma Drops.closed (h : Drops str publicationId r r') (hr : r.Identified) (hr' : r'.Identified)
    (hf : Follows str r r') (hk : str ∈ r'.streams) : r'.Closed str publicationId := by
  obtain ⟨⟨pub, hp, rfl⟩, hg⟩ := h
  obtain ⟨st, hs, hp⟩ := bind_eq_some_iff.mp hp
  obtain ⟨st', hs'⟩ := Table.exists_lookup hk
  have hm := (hr str st pub hs hp).2
  have hl := (hf st st' hs hs').highWater_le
  refine ⟨st', hs', ?_⟩
  rw [hm]
  rcases UInt64.lt_or_eq_of_le hl with hlt | he
  · exact .inl hlt
  · refine .inr ⟨he, eq_none_iff_forall_ne_some.mpr fun pub' hp' => ?_⟩
    refine hg pub' (bind_eq_some_iff.mpr ⟨st', hs', hp'⟩) ?_
    rw [(hr' str st' pub' hs' hp').2, hm, he]

end Reassembler

namespace Reassembler

variable {op : Op} {str : PreviewStreamId} {publicationId : UInt64}

variable {out : Option ReassembledPreviewPublication}

lemma validateResult_eq_ok
    {res : Except PreviewChunkError (Option (PreviewPublicationMetadata × List UInt8))}
    (h : validateResult limits res = .ok out) :
    res = .ok (out.map fun pub => (pub.metadata, pub.encoded)) := by
  unfold validateResult at h
  split at h
  · cases h
  · cases h
    rfl
  · obtain ⟨-, -, ⟨⟩⟩ := bind_eq_ok.mp h
    rfl

/-- A call that returns normally with a chunk has placed it. -/
lemma delivered (hc : op.chunk = some c) (hre : r.result op = .ok out) :
    ∃ al p nowMs, r.apply op = ((r.swept op).pushParts al c p nowMs).1 ∧
      ((r.swept op).pushParts al c p nowMs).2 = .ok (out.map fun pub => (pub.metadata, pub.encoded)) := by
  cases delivery (r := r) hc with
  | refused e ha hr => cases hr.symm.trans hre
  | placed placed al p nowMs hp ha hv =>
    cases hc.symm.trans hp
    exact ⟨al, p, nowMs, ha, validateResult_eq_ok (hv.symm.trans hre)⟩

/-- What a call returns is the publication of the chunk it brought. -/
lemma result_chunk {pub : ReassembledPreviewPublication} (hre : r.result op = .ok (some pub)) :
    ∃ c, op.chunk = some c ∧ pub.metadata = c.metadata := by
  have hd : r.Delivery op := by
    cases op with
    | push enc al => exact delivery_push r enc al
    | pushAt enc nowMs al => exact delivery_pushAt r enc nowMs al
    | expireAt nowMs | cancelPublication canc al | clear => cases hre
  cases hd with
  | refused e ha hr => cases hr.symm.trans hre
  | placed c al p nowMs hc ha hv =>
    have hco := validateResult_eq_ok (hv.symm.trans hre)
    exact ⟨c, hc, (pushParts_completed hco).1⟩

/-- Whatever finishes a publication closes it. -/
lemma Settles.closed (h : r.Settles op str publicationId) (hr : r.Identified)
    (hkp : Keeps str r op) : (r.apply op).Closed str publicationId := by
  cases h with
  | completed pub hre hst hid =>
    obtain ⟨c, hc, hme⟩ := result_chunk hre
    obtain ⟨al, p, nowMs, ha, hp⟩ := delivered hc hre
    obtain ⟨st', hs'⟩ := Table.exists_lookup hkp.after
    rw [hme] at hst hid
    subst hst hid
    refine ⟨st', hs', .inr ?_⟩
    rw [ha] at hs'
    exact ⟨(pushParts_accepted hp hs').symm, (pushParts_completed hp).2 st' hs'⟩
  | cancelled al hop =>
    subst hop
    obtain ⟨st', hs'⟩ := Table.exists_lookup hkp.after
    refine ⟨st', hs', ?_⟩
    rcases cancelPublication_own r al ⟨str, publicationId⟩ hs' with
      ⟨-, hl⟩ | ⟨-, hm, hi⟩
    · exact .inl hl
    · exact .inr ⟨hm.symm, hi⟩
  | expired hd =>
    obtain ⟨pub, hpu, -⟩ := hd.1
    obtain ⟨st, hs, -⟩ := bind_eq_some_iff.mp hpu
    have hk := hkp.sweep (Table.mem_of_lookup hs)
    exact (hd.closed hr (swept_identified hr op) (swept_follows r op str) hk).follows
      (apply_follows r op str) hkp.after
  | superseded hd =>
    exact hd.closed (swept_identified hr op) (apply_identified hr op) (apply_follows r op str) hkp.after
  | outdated newer hc hst hn res hre =>
    obtain ⟨al, p, nowMs, ha, hp⟩ := delivered hc hre
    obtain ⟨st', hs'⟩ := Table.exists_lookup hkp.after
    refine ⟨st', hs', .inl ?_⟩
    subst hst
    rw [ha] at hs'
    rwa [pushParts_accepted hp hs']

/-- A keeping run keeps what is closed closed. -/
lemma Closed.run {labels : List (Option Op)} (h : r.Closed str publicationId)
    (hr : (keeping limits str).Run r labels r') : r'.Closed str publicationId := by
  induction hr with
  | nil => exact h
  | @snoc labels label before after _ hst ih =>
    obtain ⟨hst, hkp⟩ := hst
    cases label with
    | some op =>
      cases hst
      have hk := hkp op rfl
      have hsw := hk.sweep ih.mem
      exact (ih.follows (swept_follows before op str) hsw).follows (apply_follows before op str) hk.after
    | none =>
      obtain ⟨streams, hp, rfl⟩ := hst
      obtain ⟨st, hs, hc⟩ := ih
      exact ⟨st, (perm_lookup hp).trans hs, hc⟩

end Reassembler

namespace Reassembler

variable {op : Op} {publicationId : UInt64}

lemma Closed.refuses (h : (r.swept op).Closed c.metadata.stream c.metadata.publicationId)
    (hc : op.chunk = some c) : r.Refuses op := by
  cases delivery (r := r) hc with
  | refused e ha hr => exact ⟨ha, e, hr⟩
  | placed placed al p nowMs hp ha hr =>
    cases hc.symm.trans hp
    obtain ⟨e, hs⟩ := pushParts_of_closed al p nowMs h
    rw [hs] at ha hr
    exact ⟨ha, e, hr⟩

/-- **Publications never go backwards.** Whenever a call from a reachable state finishes a
publication and the stream is not evicted by that call or a later one, every chunk of that
publication or an older one of the stream is refused, and what the stream completes is newer. -/
theorem never_accepted_again {limits : PreviewLimits} {labels : List (Option Op)} {next : Op}
    (hr : (machine limits).Reachable r) (hsettles : r.Settles op stream publicationId)
    (hkeeps : Keeps stream r op) (hrun : (keeping limits stream).Run (r.apply op) labels r')
    (hnext : stream ∈ r'.streams → stream ∈ (r'.swept next).streams) :
    (∀ chunk, next.chunk = some chunk → chunk.metadata.stream = stream →
      chunk.metadata.publicationId ≤ publicationId → r'.Refuses next) ∧
    (∀ pub, r'.result next = .ok (some pub) → pub.metadata.stream = stream →
      publicationId < pub.metadata.publicationId) := by
  have hcl : r'.Closed stream publicationId := (hsettles.closed (reachable_identified hr) hkeeps).run hrun
  have hsw : (r'.swept next).Closed stream publicationId :=
    hcl.follows (swept_follows r' next stream) (hnext hcl.mem)
  have hre : ∀ chunk, next.chunk = some chunk → chunk.metadata.stream = stream →
      chunk.metadata.publicationId ≤ publicationId → r'.Refuses next := by
    rintro chunk hc rfl hl
    exact (hsw.older hl).refuses hc
  refine ⟨hre, fun pub hrs hs => ?_⟩
  obtain ⟨chunk, hc, hm⟩ := result_chunk hrs
  rw [hm] at hs ⊢
  by_contra hl
  obtain ⟨-, error, he⟩ := hre chunk hc hs (UInt64.not_lt.mp hl)
  cases he.symm.trans hrs

end Reassembler

end Hypercolor.Preview

namespace Hypercolor.Preview

open Lib

attribute [local instance] instPlatform

lemma afterFirstChunk_reachable : (Reassembler.machine default).Reachable afterFirstChunk :=
  .step (.init rfl)
    (show (Reassembler.machine default).step _ (some (.pushAt firstChunk 5 ⟨true, true, true⟩)) _
        from rfl)

lemma afterFirstChunk_expires : afterFirstChunk.Settles (.expireAt 6000) (.passive .canvas) 7 := by
  refine .expired ⟨?_, fun pub hp => ?_⟩
  · exact Option.map_eq_some_iff.mp (show (afterFirstChunk.partialOf (.passive .canvas)).map
      (·.metadata.publicationId) = some 7 by decide +kernel)
  · have hn : ((afterFirstChunk.swept (.expireAt 6000)).partialOf
        (.passive .canvas)).isNone := by decide +kernel
    rw [hp] at hn
    cases hn

/-- The first chunk comes again after its publication has expired. -/
theorem never_accepted_again_expired : (afterFirstChunk.apply (.expireAt 6000)).Refuses
      (.pushAt firstChunk 6001 ⟨true, true, true⟩) := by
  have hc : ((Reassembler.Op.pushAt firstChunk 6001 ⟨true, true, true⟩).chunk).map
      (fun chunk => (chunk.metadata.stream, chunk.metadata.publicationId)) =
        some (.passive .canvas, 7) := by decide +kernel
  obtain ⟨chunk, hc, he⟩ := Option.map_eq_some_iff.mp hc
  obtain ⟨hs, hi⟩ := Prod.mk.inj he
  refine (Reassembler.never_accepted_again afterFirstChunk_reachable afterFirstChunk_expires
    ⟨fun _ => ?_, ?_⟩ .nil fun _ => ?_).1 chunk hc hs (hi ▸ UInt64.le_refl _)
  all_goals decide +kernel

end Hypercolor.Preview
