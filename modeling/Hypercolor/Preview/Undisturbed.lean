import Hypercolor.Preview.Accounting

/-!
# A bad chunk disturbs nothing

A chunk that `push_at` refuses leaves the reassembler as the sweep at that instant leaves it, with
the clock moved to it (**`bad_chunk_destroys_nothing`**): neither the publication in progress on its
own stream nor another stream's is touched. An admission supersedes the older partial before the
first append, so it has to be shown that this append is never refused
(`appendChunk_of_admitted`). Two refusals do cost something, and are set apart: an allocation that
failed, and a publication that is complete but not valid.
-/

namespace Hypercolor.Preview

open Lib

variable [Platform]

namespace Reassembler

variable {r r' : Reassembler} {al : Alloc} {st : PreviewStreamId} {c : PreviewChunkHeader}
  {p encodedChunk : List UInt8} {total nowMs : Nat} {e : PreviewChunkError}

/-- What `begin_push` does before its check -/
def sweptAt (r : Reassembler) (nowMs : Nat) : Reassembler :=
  { r with logicalNowMs := max r.logicalNowMs nowMs }.expireAt nowMs

/-- A refused append changes nothing. -/
lemma appendChunk_refused (hr : Books r) (hl : ChunkLayout c p.length)
    (ht : total = c.totalEncodedBytes.toNat) (h : (r.appendChunk al st c p total nowMs).2 = .error e) :
    (r.appendChunk al st c p total nowMs).1 = r := by
  cases hs : r.streams.lookup st with
  | none => simp only [appendChunk, hs]
  | some state =>
    cases hp : state.partialPub with
    | none => simp only [appendChunk, hs, hp]
    | some pub =>
      cases hc : checkAppend r.limits al pub c p total with
      | error => simp only [appendChunk, hs, hp, hc]
      | ok validated =>
        rw [appendChunk_eq hs hp (checkAppend_eq_ok.mp hc) hl ht] at h
        dsimp only at h
        split at h
        · rw [completePublication_eq hr hs hp _ (grow pub validated p) rfl] at h
          cases h
        · cases h

/-- What an admission leaves on the stream: nothing yet, of this publication. -/
lemma lookup_of_admitted (h : r.admitPartial al c p total nowMs = (r', .ok ())) :
    r'.limits = r.limits ∧ ∃ adm, Admits r c p total adm ∧ r'.streams.lookup c.metadata.stream =
        some (admittedState c adm total nowMs) := by
  cases hc : r.checkAdmission c p total with
  | error e => simp [admitPartial, hc] at h
  | ok adm =>
    simp only [admitPartial, hc] at h
    split at h
    · cases h
    · split at h
      · cases h
      · cases h
        exact ⟨(takePartial_limits r _ _).1, adm, checkAdmission_eq_ok.mp hc, AList.lookup_insert _⟩

/-- Only a screen-zones publication is admitted with its header still to come. -/
lemma screenZones_of_admitted {md : PreviewPublicationMetadata} {limits : PreviewLimits}
    (h : validateReassemblyAdmission md p total limits = .ok false) :
    validateScreenZonesHeaderPrefix md total
      (p.take extendedScreenZonesFrameHeaderLen) limits = .ok false := by
  obtain ⟨⟨⟩, -, h⟩ := bind_eq_ok.mp h
  split at h
  · obtain ⟨⟨⟩, -, h⟩ := bind_eq_ok.mp h
    obtain ⟨⟨⟩, -, h⟩ := bind_eq_ok.mp h
    exact h
  · obtain ⟨headerLen, -, h⟩ := bind_eq_ok.mp h
    obtain ⟨decoded, -, h⟩ := bind_eq_ok.mp h
    obtain ⟨⟨⟩, -, h⟩ := bind_eq_ok.mp h
    obtain ⟨⟨⟩, -, ⟨⟩⟩ := bind_eq_ok.mp h

/-- The first chunk of an admitted publication is appended, unless storage fails: its header prefix
is looked at a second time and has not changed. -/
theorem appendChunk_of_admitted (hr : Books r') (hla : ChunkLayout c p.length)
    (hto : total = c.totalEncodedBytes.toNat) (hm : total ≤ Platform.usizeMax)
    (h : r.admitPartial al c p total nowMs = (r', .ok ())) :
    (r'.appendChunk al c.metadata.stream c p total nowMs).2 ≠ .error e := by
  obtain ⟨hl, adm, ha, hs⟩ := lookup_of_admitted h
  obtain ⟨hi, hof⟩ := ha.starts
  have hv : validateAppended r'.limits al {
        metadata := c.metadata
        totalEncodedBytes := total
        chunkCount := c.chunkCount.toNat
        nextChunkIndex := 0
        screenZonesHeaderValidated := adm.screenZonesHeaderValidated
        bytes := [] } p = .ok adm.screenZonesHeaderValidated := by
    cases hse : adm.screenZonesHeaderValidated with
    | true => rfl
    | false =>
      have hst := hla.stop_le
      have hle : checked (0 + p.length) = some p.length := checked_eq_some.mpr ⟨Nat.zero_add _, by omega⟩
      have hf := ha.validated
      rw [hse] at hf
      have ht : ([] ++ p).take (min p.length extendedScreenZonesFrameHeaderLen) =
          p.take extendedScreenZonesFrameHeaderLen := by
        rw [List.nil_append, List.take_eq_take_iff]
        omega
      refine bind_eq_ok.mpr ⟨p.length, okOr_eq_ok.mpr hle, bind_eq_ok.mpr ⟨false, ?_, rfl⟩⟩
      rw [ht, hl]
      exact screenZones_of_admitted hf
  have hap : Appends r'.limits al _ c p total _ := ⟨rfl, rfl, rfl, by rw [hi]; rfl, by rw [hof]; rfl, hv⟩
  rw [appendChunk_eq hs rfl hap hla hto]
  dsimp only
  split
  · rw [completePublication_eq hr hs rfl _ (grow _ _ p) rfl]
    exact nofun
  · exact nofun

/-- A refused admission changes nothing, unless storage failed. -/
lemma admitPartial_refused (ha : ∀ bytes, e ≠ .allocationFailed bytes)
    (h : r.admitPartial al c p total nowMs = (r', .error e)) : r' = r := by
  cases hc : r.checkAdmission c p total with
  | error _ =>
    simp only [admitPartial, hc] at h
    exact (Prod.mk.inj h).1.symm
  | ok adm =>
    simp only [admitPartial, hc] at h
    split at h
    · exact absurd (Except.error.inj (Prod.mk.inj h).2).symm (ha _)
    · split at h
      · exact absurd (Except.error.inj (Prod.mk.inj h).2).symm (ha _)
      · cases h

lemma pushParts_refused (hr : Books r) (hl : ChunkLayout c p.length)
    (hal : ∀ bytes, e ≠ .allocationFailed bytes) (h : (r.pushParts al c p nowMs).2 = .error e) :
    (r.pushParts al c p nowMs).1 = r := by
  have hc : 0 < c.chunkCount.toNat := Nat.zero_lt_of_lt hl.index_lt
  unfold pushParts at h ⊢
  dsimp only at h ⊢
  split
  · rfl
  · next hb =>
    rw [if_neg hb] at h
    split
    · rfl
    · next total ht =>
      rw [ht] at h
      dsimp only at h
      obtain ⟨ht, hm⟩ := checked_eq_some.mp ht
      split
      · rfl
      · next hp =>
        rw [if_neg hp] at h
        split
        · rfl
        · next hf =>
          rw [hf] at h
          dsimp only at h
          split
          · next hs =>
            rw [if_pos hs] at h
            have ha := admitPartial_books al p total nowMs hr hc
            split at h
            · next hre =>
              cases h
              exact admitPartial_refused hal hre
            · next hk =>
              rw [hk] at ha
              exact absurd h (appendChunk_of_admitted ha hl ht.symm (ht ▸ hm) hk)
          · next hco =>
            rw [if_neg hco] at h
            exact appendChunk_refused hr hl ht.symm h

/-- The chunk completes a publication that is then found not to be valid. -/
def CompletesInvalid (r : Reassembler) (alloc : Alloc) (encodedChunk : List UInt8) (nowMs : Nat) : Prop :=
  ∃ header payloadOffset metadata bytes,
    PreviewChunkHeader.decodePrefix encodedChunk encodedChunk.length = .ok (header, payloadOffset) ∧
    ((r.sweptAt nowMs).pushParts alloc header (encodedChunk.drop payloadOffset) nowMs).2 =
      .ok (some (metadata, bytes))

lemma not_completesInvalid
    (h : PreviewChunkHeader.decodePrefix encodedChunk encodedChunk.length = .error e) :
    ¬ r.CompletesInvalid al encodedChunk nowMs := by
  rintro ⟨header, offset, metadata, bytes, hd, -⟩
  cases h.symm.trans hd

/-- **A bad chunk destroys nothing.** In every reachable state, a push that fails, neither for an
allocation nor for the validation of a completed publication, leaves what the sweep leaves. -/
theorem bad_chunk_destroys_nothing {limits : PreviewLimits} (hr : (machine limits).Reachable r)
    (h : (r.pushAt alloc encodedChunk nowMs).2 = .error error)
    (halloc : ∀ bytes, error ≠ .allocationFailed bytes)
    (hvalid : ¬ r.CompletesInvalid alloc encodedChunk nowMs) :
    (r.pushAt alloc encodedChunk nowMs).1 = r.sweptAt nowMs := by
  have hbk := beginPush_books (reachable_books hr) encodedChunk.length nowMs
  have hb : (r.beginPush encodedChunk.length nowMs).1 = r.sweptAt nowMs := rfl
  unfold pushAt at h ⊢
  split at h
  · next hm =>
    rw [hm] at hb
    exact hb
  · next swept hs =>
    rw [hs] at hb hbk
    dsimp only at hb hbk
    subst hb
    split at h
    · rfl
    · next header payloadOffset hd =>
      dsimp only at h ⊢
      cases hp : ((r.sweptAt nowMs).pushParts alloc header (encodedChunk.drop payloadOffset)
          nowMs).2 with
      | error refused =>
        rw [hp] at h
        cases h
        exact pushParts_refused hbk (decodePrefix_layout hd) halloc hp
      | ok result =>
        rw [hp] at h
        rcases result with _ | ⟨metadata, bytes⟩
        · cases h
        · exact absurd ⟨header, payloadOffset, metadata, bytes, hd, hp⟩ hvalid

end Reassembler

end Hypercolor.Preview

namespace Hypercolor.Preview

open Lib

local instance : Platform := Platform.desktop

/-- Too short to be a chunk. -/
theorem bad_chunk_destroys_nothing_tooShort :
    (afterFirstChunk.pushAt ⟨true, true, true⟩ [0x0F] 6).1 = afterFirstChunk.sweptAt 6 := by
  have hrc : (Reassembler.machine default).Reachable afterFirstChunk :=
    Machine.Reachable.step (.init rfl) (show (Reassembler.machine default).step _
      (some (.pushAt firstChunk 5 ⟨true, true, true⟩)) _ from rfl)
  have hr : (afterFirstChunk.pushAt ⟨true, true, true⟩ [0x0F] 6).2 = .error (.tooShort 55 1) := by
    decide +kernel
  have hd : PreviewChunkHeader.decodePrefix [0x0F] 1 = .error (.tooShort 55 1) := rfl
  exact Reassembler.bad_chunk_destroys_nothing hrc hr nofun (Reassembler.not_completesInvalid hd)

/-- The same chunk moves the clock, which the sweep alone would not have moved. -/
theorem refused_chunk_moves_clock :
    (afterFirstChunk.pushAt ⟨true, true, true⟩ [0x0F] 6).2 = .error (.tooShort 55 1) ∧
    ¬ afterFirstChunk.CompletesInvalid ⟨true, true, true⟩ [0x0F] 6 ∧
    (afterFirstChunk.pushAt ⟨true, true, true⟩ [0x0F] 6).1 ≠ afterFirstChunk.expireAt 6 := by
  have hd : PreviewChunkHeader.decodePrefix [0x0F] 1 = .error (.tooShort 55 1) := rfl
  refine ⟨by decide +kernel, Reassembler.not_completesInvalid hd, fun h => ?_⟩
  exact absurd (congrArg Reassembler.logicalNowMs h) (by decide +kernel)

end Hypercolor.Preview
