import Hypercolor.Lib.Bytes
import Hypercolor.Lib.Framing

/-!
# Packets of the OpenRGB SDK and their stream decoder

A packet is a header of 16 bytes, with the magic, the device, the packet id and the payload's size,
and the payload. A decoder buffers what the connection gives and takes packets from the front.

**`stream_decoding_exact`**: of packets whose header has the length of their payload, at most the
decoder's maximum, no call fails, the packets come out in order however the stream is cut, and once
`next_packet` has found nothing every packet that was pushed whole has come out. What comes out is
the packet `asRead`: an id that is `unknown` with a number the SDK names is read as that name
(`unknown_id_renamed`), and every other packet is read as it was (`asRead_eq_self`).

A `u32` fits a `usize`, so the conversions of the size cannot fail and their errors are left out.
-/

namespace Hypercolor.OpenRgb

open Lib List

/-- `MAGIC` -/
def magic : List UInt8 := [0x4f, 0x52, 0x47, 0x42]

/-- `HEADER_LEN` -/
def headerLen : Nat := 16

/-- `MAX_PACKET_PAYLOAD_SIZE` -/
def maxPacketPayloadSize : Nat := 4 * 1024 * 1024

/-- `OpenRgbError`: the errors of decoding packets. -/
inductive OpenRgbError where
  | invalidMagic (magic : List UInt8)
  | packetTooLarge (size max : Nat)
  | truncated (needed remaining : Nat)
deriving DecidableEq

/-! ## Packet ids -/

/-- `PacketId` -/
inductive PacketId where
  | requestControllerCount
  | requestControllerData
  | requestProtocolVersion
  | setClientName
  | deviceListUpdated
  | requestRescanDevices
  | resizeZone
  | updateLeds
  | updateZoneLeds
  | setCustomMode
  | updateMode
  | saveMode
  | unknown (value : UInt32)
deriving DecidableEq

namespace PacketId

/-- `from_raw` -/
def fromRaw (value : UInt32) : PacketId :=
  if value = 0 then requestControllerCount
  else if value = 1 then requestControllerData
  else if value = 40 then requestProtocolVersion
  else if value = 50 then setClientName
  else if value = 100 then deviceListUpdated
  else if value = 140 then requestRescanDevices
  else if value = 1000 then resizeZone
  else if value = 1050 then updateLeds
  else if value = 1051 then updateZoneLeds
  else if value = 1100 then setCustomMode
  else if value = 1101 then updateMode
  else if value = 1102 then saveMode
  else unknown value

/-- `raw` -/
def raw : PacketId → UInt32
  | requestControllerCount => 0
  | requestControllerData => 1
  | requestProtocolVersion => 40
  | setClientName => 50
  | deviceListUpdated => 100
  | requestRescanDevices => 140
  | resizeZone => 1000
  | updateLeds => 1050
  | updateZoneLeds => 1051
  | setCustomMode => 1100
  | updateMode => 1101
  | saveMode => 1102
  | unknown value => value

/-- The id is the one its number is read as: not `unknown` with a number that has a name. -/
def Named (id : PacketId) : Prop := fromRaw id.raw = id

instance (id : PacketId) : Decidable id.Named := inferInstanceAs (Decidable (_ = _))

end PacketId

/-! ## Headers and packets -/

/-- `PacketHeader` -/
structure PacketHeader where
  deviceIndex : UInt32
  packetId : PacketId
  size : UInt32
deriving DecidableEq

/-- `u32::to_le_bytes` -/
def u32ToLeBytes (n : UInt32) : List UInt8 := leBytes 4 n.toNat

/-- `u32::from_le_bytes` of four bytes at `start` -/
def u32FromLeBytes (bytes : List UInt8) (start : Nat) : UInt32 :=
  .ofNat (ofLe (slice bytes start (start + 4)))

namespace PacketHeader

/-- `decode` -/
def decode (bytes : List UInt8) : Except OpenRgbError PacketHeader :=
  if bytes.length < headerLen then .error (.truncated headerLen bytes.length)
  else if slice bytes 0 4 ≠ magic then .error (.invalidMagic (slice bytes 0 4))
  else
    let deviceIndex := u32FromLeBytes bytes 4
    let packetId := u32FromLeBytes bytes 8
    let size := u32FromLeBytes bytes 12
    if maxPacketPayloadSize < size.toNat then
      .error (.packetTooLarge size.toNat maxPacketPayloadSize)
    else .ok ⟨deviceIndex, .fromRaw packetId, size⟩

/-- `encode` -/
def encode (header : PacketHeader) : List UInt8 :=
  magic ++ u32ToLeBytes header.deviceIndex ++ u32ToLeBytes header.packetId.raw ++ u32ToLeBytes header.size

/-- The header as it is read back. -/
def asRead (header : PacketHeader) : PacketHeader :=
  { header with packetId := .fromRaw header.packetId.raw }

end PacketHeader

/-- `Packet` -/
structure Packet where
  header : PacketHeader
  payload : List UInt8
deriving DecidableEq

namespace Packet

/-- `decode` -/
def decode (bytes : List UInt8) : Except OpenRgbError Packet := do
  let header ← PacketHeader.decode bytes
  let total := headerLen + header.size.toNat
  if bytes.length < total then .error (.truncated total bytes.length)
  else pure ⟨header, slice bytes headerLen total⟩

/-- `encode` -/
def encode (packet : Packet) : List UInt8 := packet.header.encode ++ packet.payload

/-- The header has the payload's length, which the decoder accepts. -/
def Fits (packet : Packet) : Prop :=
  packet.payload.length = packet.header.size.toNat ∧ packet.payload.length ≤ maxPacketPayloadSize

instance (packet : Packet) : Decidable packet.Fits := inferInstanceAs (Decidable (_ ∧ _))

/-- The packet as it is read back. -/
def asRead (packet : Packet) : Packet := { packet with header := packet.header.asRead }

/-- A named id is read as itself. -/
theorem asRead_eq_self {packet : Packet} (h : packet.header.packetId.Named) : packet.asRead = packet := by
  unfold PacketId.Named at h
  simp [asRead, PacketHeader.asRead, h]

end Packet

/-! ## The decoder -/

/-- `PacketDecoder` -/
structure PacketDecoder where
  buffer : List UInt8

namespace PacketDecoder

/-- `new` -/
def new : PacketDecoder := ⟨[]⟩

/-- `push` -/
def push (decoder : PacketDecoder) (bytes : List UInt8) : PacketDecoder :=
  ⟨decoder.buffer ++ bytes⟩

/-- `next_packet` -/
def nextPacket (decoder : PacketDecoder) : Except OpenRgbError (Option Packet) × PacketDecoder :=
  if decoder.buffer.length < headerLen then (.ok none, decoder)
  else
    match PacketHeader.decode (decoder.buffer.take headerLen) with
    | .error error => (.error error, decoder)
    | .ok header =>
        let total := headerLen + header.size.toNat
        if decoder.buffer.length < total then (.ok none, decoder)
        else (.ok (some ⟨header, slice decoder.buffer headerLen total⟩), ⟨decoder.buffer.drop total⟩)

/-- The decoder with its calls. -/
def stream : StreamDecoder PacketDecoder UInt8 Packet OpenRgbError where
  start := new
  push := push
  next := nextPacket

end PacketDecoder

/-! ## Reading back what was encoded -/

lemma length_u32ToLeBytes (n : UInt32) : (u32ToLeBytes n).length = 4 := length_leBytes 4 _

/-- A field is read where it was written. -/
lemma u32FromLeBytes_append (head rest : List UInt8) {start : Nat} (n : UInt32)
    (hs : head.length = start) : u32FromLeBytes (head ++ u32ToLeBytes n ++ rest) start = n := by
  have hf : slice (head ++ u32ToLeBytes n ++ rest) start (start + 4) = u32ToLeBytes n :=
    slice_append rest hs (by rw [length_u32ToLeBytes])
  have hr : ofLe (leBytes 4 n.toNat) = n.toNat := ofLe_leBytes_of_lt n.toNat_lt
  rw [u32FromLeBytes, hf, u32ToLeBytes, hr, UInt32.ofNat_toNat]

namespace PacketHeader

lemma length_encode (header : PacketHeader) : header.encode.length = headerLen := by
  simp [encode, magic, length_u32ToLeBytes, headerLen]

/-- A header whose size is accepted reads back, whatever follows it. -/
lemma decode_encode (header : PacketHeader) (hs : header.size.toNat ≤ maxPacketPayloadSize)
    (rest : List UInt8) : decode (header.encode ++ rest) = .ok header.asRead := by
  have hl : ¬ (header.encode ++ rest).length < headerLen := by
    rw [length_append, length_encode]
    omega
  have hm : slice (header.encode ++ rest) 0 4 = magic := by
    exact @slice_append 0 4 magic [] _ rfl rfl
  have hi : u32FromLeBytes (header.encode ++ rest) 4 = header.deviceIndex := by
    have hr := u32FromLeBytes_append magic (u32ToLeBytes header.packetId.raw ++
      (u32ToLeBytes header.size ++ rest)) header.deviceIndex (rfl : _ = 4)
    simpa only [encode, append_assoc] using hr
  have hid : u32FromLeBytes (header.encode ++ rest) 8 = header.packetId.raw := by
    have hr := u32FromLeBytes_append (magic ++ u32ToLeBytes header.deviceIndex)
      (u32ToLeBytes header.size ++ rest) header.packetId.raw
      (by simp [magic, length_u32ToLeBytes] : _ = 8)
    simpa only [encode, append_assoc] using hr
  have hr : u32FromLeBytes (header.encode ++ rest) 12 = header.size :=
    u32FromLeBytes_append
      (magic ++ u32ToLeBytes header.deviceIndex ++ u32ToLeBytes header.packetId.raw) rest
      header.size (by simp [magic, length_u32ToLeBytes])
  have hsm : ¬ maxPacketPayloadSize < header.size.toNat := Nat.not_lt.mpr hs
  simp only [decode, hl, hm, hi, hid, hr, hsm, if_false, ne_eq, not_true_eq_false, asRead]

end PacketHeader

namespace Packet

variable {packet : Packet}

lemma length_encode (h : packet.Fits) : packet.encode.length = headerLen + packet.header.size.toNat := by
  rw [encode, length_append, PacketHeader.length_encode, h.1]

lemma decode_encode (h : packet.Fits) (rest : List UInt8) :
    decode (packet.encode ++ rest) = .ok packet.asRead := by
  have hh := packet.header.decode_encode (h.1 ▸ h.2) (packet.payload ++ rest)
  have hp : slice (packet.encode ++ rest) headerLen
      (headerLen + packet.header.size.toNat) = packet.payload :=
    slice_append rest packet.header.length_encode (by rw [h.1])
  have hl : ¬ (packet.encode ++ rest).length < headerLen + packet.header.size.toNat := by
    rw [length_append, length_encode h]
    omega
  have hs : packet.header.asRead.size = packet.header.size := rfl
  rw [← append_assoc] at hh
  simp only [decode, encode, hh, bind, Except.bind] at hp ⊢
  rw [hs, hp]
  exact if_neg hl

end Packet

namespace PacketDecoder

/-- What the decoder's calls do on the encodings of packets that fit. -/
lemma stream_decodes : stream.Decodes buffer Packet.encode Packet.asRead Packet.Fits where
  start := rfl
  push _ _ := rfl
  empty decoder he := by
    refine ⟨decoder, if_pos ?_, he⟩
    rw [he]
    decide
  whole packet hf decoder rest hb := by
    have ht : decoder.buffer.take headerLen = packet.header.encode ++ [] := by
      rw [hb, Packet.encode, append_assoc, append_nil, ← packet.header.length_encode, take_left]
    have hh := packet.header.decode_encode (hf.1 ▸ hf.2) []
    have hl := Packet.length_encode hf
    have hsi : packet.header.asRead.size = packet.header.size := rfl
    have hlo : ¬ decoder.buffer.length < headerLen + packet.header.size.toNat := by
      rw [hb, length_append, hl]
      omega
    have hhl : ¬ decoder.buffer.length < headerLen := by omega
    have hp : slice decoder.buffer headerLen (headerLen + packet.header.size.toNat) = packet.payload := by
      rw [hb, Packet.encode]
      exact slice_append rest packet.header.length_encode (by rw [hf.1])
    have hd : decoder.buffer.drop (headerLen + packet.header.size.toNat) = rest := by
      rw [hb, ← hl, drop_left]
    refine ⟨⟨rest⟩, ?_, rfl⟩
    show decoder.nextPacket = _
    simp only [nextPacket, hhl, if_false, ht, hh, hsi, hlo, hp, hd]
    rfl
  part packet hf decoder hpr hsh := by
    refine ⟨decoder, ?_, rfl⟩
    show decoder.nextPacket = _
    unfold nextPacket
    split_ifs with hhs
    · rfl
    · -- the header is whole, so the payload is not
      have ht : decoder.buffer.take headerLen = packet.header.encode ++ [] := by
        obtain ⟨rest, hr⟩ := hpr
        have hs := congrArg (take headerLen) hr
        rw [take_append_of_le_length (Nat.le_of_not_lt hhs), Packet.encode,
          ← packet.header.length_encode, take_left] at hs
        rw [append_nil, ← packet.header.length_encode, hs]
      have hh := packet.header.decode_encode (hf.1 ▸ hf.2) []
      rw [Packet.length_encode hf] at hsh
      simp only [ht, hh]
      exact if_pos hsh

end PacketDecoder

/-- **OpenRGB stream decoding is exact**, up to the name of an unknown id. -/
theorem stream_decoding_exact (packets : List Packet) (hfits : ∀ packet ∈ packets, packet.Fits)
    (calls : List (Feed UInt8)) (hcut : Feed.pushed calls <+: packets.flatMap Packet.encode) :
    (∀ result ∈ (PacketDecoder.stream.run calls).2, ∃ packet, result = .ok packet) ∧
    PacketDecoder.stream.returned calls <+: packets.map Packet.asRead ∧
    ((∀ packet ∈ packets, packet.header.packetId.Named) →
        PacketDecoder.stream.returned calls <+: packets) ∧
    ((PacketDecoder.stream.run calls).1.nextPacket.1 = .ok none → ∀ i < packets.length,
      ((packets.take (i + 1)).flatMap Packet.encode).length ≤ (Feed.pushed calls).length →
        i < (PacketDecoder.stream.returned calls).length) := by
  obtain ⟨hok, hr, hc⟩ := PacketDecoder.stream_decodes.exact hfits calls hcut
  refine ⟨hok, hr, fun hn => ?_, hc⟩
  have hs : packets.map Packet.asRead = packets := by
    conv_rhs => rw [← map_id packets]
    exact map_congr_left fun packet hm => Packet.asRead_eq_self (hn packet hm)
  rwa [hs] at hr

/-- A packet of three bytes, cut inside the magic and inside the payload, and one of none. -/
def updatePacket : Packet := ⟨⟨7, .updateLeds, 3⟩, [1, 2, 3]⟩

def countPacket : Packet := ⟨⟨0, .requestControllerCount, 0⟩, []⟩

def cutCalls : List (Feed UInt8) :=
  [.push (updatePacket.encode.take 2), .next, .push ((updatePacket.encode.drop 2).take 15), .next,
    .push (updatePacket.encode.drop 17 ++ countPacket.encode), .next, .next]

/-- Two packets that arrive in three parts. -/
theorem stream_decoding_exact_cut : PacketDecoder.stream.returned cutCalls <+:
    [updatePacket, countPacket] ∧
      1 < (PacketDecoder.stream.returned cutCalls).length :=
  have he := stream_decoding_exact [updatePacket, countPacket] (by decide) cutCalls (by decide)
  ⟨he.2.2.1 (by decide), he.2.2.2 (by decide) 1 (by decide) (by decide)⟩

/-- An unknown id with a named number comes back with the name. -/
theorem unknown_id_renamed : (⟨⟨0, .unknown 0, 0⟩, []⟩ : Packet).Fits ∧
      ¬ PacketDecoder.stream.returned [.push (Packet.encode ⟨⟨0, .unknown 0, 0⟩, []⟩), .next] <+:
        [⟨⟨0, .unknown 0, 0⟩, []⟩] := by
  decide

end Hypercolor.OpenRgb
