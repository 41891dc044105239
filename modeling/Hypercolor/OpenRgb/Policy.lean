import Hypercolor.OpenRgb.Packets

/-!
# What a client may write

`encode_client_packet_with_policy` refuses the packets a policy does not permit. It asks the
`PacketId`, and the wire carries its number: `unknown 1102` is permitted and arrives as `saveMode`.

**`policy_enforced_iff`**: what the policy forbids is not read from the bytes exactly when the id is
not one of the two forbidden numbers under the name `unknown`.
-/

namespace Hypercolor.OpenRgb

open Lib PacketId

/-- `ClientPacketPolicy` -/
structure ClientPacketPolicy where
  allowZoneResize : Bool

/-- `ClientPacketPolicy::DEFAULT` -/
instance : Inhabited ClientPacketPolicy := ⟨⟨false⟩⟩

namespace PacketId

/-- `permitted_for_client` -/
def permittedForClient (policy : ClientPacketPolicy) : PacketId → Bool
  | saveMode => false
  | resizeZone => policy.allowZoneResize
  | _ => true

variable {id : PacketId}

/-- What `permitted_for_client` lets through. -/
lemma permittedForClient_iff {pol : ClientPacketPolicy} : id.permittedForClient pol ↔
      id ≠ saveMode ∧ (id = resizeZone → pol.allowZoneResize) := by
  rcases id <;> simp [permittedForClient]

/-- No number is lost. -/
lemma raw_fromRaw (v : UInt32) : (fromRaw v).raw = v := by
  unfold fromRaw
  repeat' split
  all_goals first
    | rfl
    | rename_i hv
      exact hv.symm

variable {v : UInt32}

/-- Only 1102 is read as `SAVEMODE`. -/
lemma fromRaw_eq_saveMode : fromRaw v = saveMode ↔ v = 1102 := by
  constructor
  · intro h
    exact (raw_fromRaw v).symm.trans (congrArg raw h)
  · rintro rfl
    rfl

lemma fromRaw_eq_resizeZone : fromRaw v = resizeZone ↔ v = 1000 := by
  constructor
  · intro h
    exact (raw_fromRaw v).symm.trans (congrArg raw h)
  · rintro rfl
    rfl

/-- Two ids go out as 1102. -/
lemma raw_eq_saveMode : id.raw = 1102 ↔ id = saveMode ∨ id = unknown 1102 := by
  rcases id <;> simp [raw]

/-- Two ids go out as 1000. -/
lemma raw_eq_resizeZone : id.raw = 1000 ↔ id = resizeZone ∨ id = unknown 1000 := by
  rcases id <;> simp [raw]

end PacketId

/-- `OpenRgbError`: the errors of encoding for a client. -/
inductive ClientPacketError where
  | forbiddenPacket (id : PacketId)
  | packetTooLarge (size max : Nat)

/-- `encode_client_packet_with_policy`: the payload fits a `u32` once it is within the maximum, so
that conversion cannot fail. -/
def encodeClientPacketWithPolicy (deviceIndex : UInt32) (packetId : PacketId)
    (payload : List UInt8) (policy : ClientPacketPolicy) : Except ClientPacketError (List UInt8) :=
  if ¬ packetId.permittedForClient policy then .error (.forbiddenPacket packetId)
  else if maxPacketPayloadSize < payload.length then
    .error (.packetTooLarge payload.length maxPacketPayloadSize)
  else .ok (Packet.encode ⟨⟨deviceIndex, packetId, .ofNat payload.length⟩, payload⟩)

/-- Whatever the bytes decode to, the policy permits. -/
def Enforced (policy : ClientPacketPolicy) (encoded : Except ClientPacketError (List UInt8)) : Prop :=
  ∀ bytes packet, encoded = .ok bytes → Packet.decode bytes = .ok packet →
    packet.header.packetId ≠ .saveMode ∧ (packet.header.packetId = .resizeZone → policy.allowZoneResize)

variable {deviceIndex : UInt32} {packetId : PacketId} {p bs : List UInt8}
  {pol : ClientPacketPolicy}

/-- The bytes that are returned decode to the packet, under the id its number is read as. -/
lemma decode_encodeClientPacketWithPolicy
    (h : encodeClientPacketWithPolicy deviceIndex packetId p pol = .ok bs) :
    packetId.permittedForClient pol ∧ p.length ≤ maxPacketPayloadSize ∧ Packet.decode bs =
        .ok ⟨⟨deviceIndex, .fromRaw packetId.raw, .ofNat p.length⟩, p⟩ := by
  unfold encodeClientPacketWithPolicy at h
  split_ifs at h with hp hl
  have hs := Nat.le_of_not_lt hl
  have hsi : (UInt32.ofNat p.length).toNat = p.length :=
      UInt32.toNat_ofNat_of_lt' (hs.trans_lt (by decide))
  have hf : Packet.Fits ⟨⟨deviceIndex, packetId, .ofNat p.length⟩, p⟩ := ⟨hsi.symm, hs⟩
  have hd := Packet.decode_encode hf []
  rw [List.append_nil] at hd
  cases h
  exact ⟨hp, hs, hd⟩

/-- The id as it is read being permitted is what the wire needs. -/
lemma enforced_iff_fromRaw : Enforced pol (encodeClientPacketWithPolicy deviceIndex packetId p pol) ↔
      (packetId.permittedForClient pol → p.length ≤ maxPacketPayloadSize →
        (fromRaw packetId.raw).permittedForClient pol) := by
  constructor
  · intro hen hp hs
    have he : encodeClientPacketWithPolicy deviceIndex packetId p pol =
        .ok (Packet.encode ⟨⟨deviceIndex, packetId, .ofNat p.length⟩, p⟩) := by
      unfold encodeClientPacketWithPolicy
      rw [if_neg (not_not.mpr hp), if_neg (Nat.not_lt.mpr hs)]
    exact permittedForClient_iff.mpr (hen _ _ he (decode_encodeClientPacketWithPolicy he).2.2)
  · intro hr bs packet he hd
    obtain ⟨hp, hs, hpa⟩ := decode_encodeClientPacketWithPolicy he
    cases hpa.symm.trans hd
    exact permittedForClient_iff.mp (hr hp hs)

/-- **When the policy holds on the wire**: the id is not a forbidden number under the name
`unknown`, or the payload is refused anyway. -/
theorem policy_enforced_iff (deviceIndex : UInt32) (packetId : PacketId) (payload : List UInt8)
    (policy : ClientPacketPolicy) :
    Enforced policy (encodeClientPacketWithPolicy deviceIndex packetId payload policy) ↔
      (payload.length ≤ maxPacketPayloadSize → packetId ≠ .unknown 1102 ∧
        (packetId = .unknown 1000 → policy.allowZoneResize)) := by
  rw [enforced_iff_fromRaw]
  simp only [permittedForClient_iff, ne_eq, fromRaw_eq_saveMode,
    fromRaw_eq_resizeZone, raw_eq_saveMode, raw_eq_resizeZone]
  constructor
  · intro h hs
    constructor
    · rintro rfl
      exact (h ⟨nofun, nofun⟩ hs).1 (.inr rfl)
    · rintro rfl
      exact (h ⟨nofun, nofun⟩ hs).2 (.inr rfl)
  · rintro h ⟨hsa, hr⟩ hs
    obtain ⟨hu, hz⟩ := h hs
    exact ⟨not_or.mpr ⟨hsa, hu⟩, fun hi => hi.elim hr hz⟩

/-- The number of `SAVEMODE` under the name `unknown` is sent under the default policy. -/
theorem unknown_save_mode_sent : ¬ ∀ deviceIndex packetId payload policy,
      Enforced policy (encodeClientPacketWithPolicy deviceIndex packetId payload policy) := by
  intro h
  have hr := enforced_iff_fromRaw.mp (h 0 (.unknown 1102) [] default) (by decide) (by decide)
  exact absurd hr (by decide)

end Hypercolor.OpenRgb
