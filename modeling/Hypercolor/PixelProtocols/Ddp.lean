import Hypercolor.Lib.Bytes

/-!
# Frames as DDP packets

`build_packets` cuts the spans of a frame into chunks and numbers the packets from 1 to 15 and round
again, or gives all packets of a frame one number. The counter lives on from frame to frame.

* **`framing_iff`**: the packets of every frame carry its spans, with their lengths and one push flag at
  the end, and the numbers have no gap exactly if no number is used up by a frame without bytes.
* **`empty_frame_skips`**: a frame without spans takes a number that no packet has.
-/

namespace Hypercolor.PixelProtocols

open Lib List

/-! ## Packets -/

/-- `DDP_MAX_PAYLOAD` -/
def ddpMaxPayload : Nat := 1440

/-- `DDP_HEADER_SIZE` -/
def ddpHeaderSize : Nat := 10

/-- `DDP_VERSION` -/
def ddpVersion : UInt8 := 0x40

/-- `DDP_FLAG_PUSH` -/
def ddpFlagPush : UInt8 := 0x01

/-- `to_be_bytes` -/
def toBeBytes (width n : Nat) : List UInt8 := (leBytes width n).reverse

/-- `DdpPacket` -/
structure DdpPacket where
  buf : List UInt8

/-- `encode_ddp_packet` -/
def encodeDdpPacket (pixelData : List UInt8) (offset : UInt32) (push : Bool)
    (sequence dataType destination : UInt8) : List UInt8 :=
  [ddpVersion ||| (if push then ddpFlagPush else 0), sequence &&& 0x0F, dataType, destination] ++
    toBeBytes 4 offset.toNat ++ toBeBytes 2 pixelData.length ++ pixelData

namespace DdpPacket

/-- `with_destination` -/
def withDestination (pixelData : List UInt8) (offset : UInt32) (push : Bool)
    (sequence dataType destination : UInt8) : DdpPacket :=
  ⟨encodeDdpPacket pixelData offset push sequence dataType destination⟩

/-! What a receiver reads. -/

variable (packet : DdpPacket)

def push : Bool := packet.buf.getD 0 0 &&& ddpFlagPush ≠ 0

def sequence : Nat := (packet.buf.getD 1 0).toNat

def offset : Nat := ofLe (slice packet.buf 4 8).reverse

def dataLength : Nat := ofLe (slice packet.buf 8 10).reverse

def payload : List UInt8 := packet.buf.drop ddpHeaderSize

variable (pixelData : List UInt8) (offset : UInt32) (push : Bool) (sequence ty dst : UInt8)

@[simp] theorem payload_withDestination :
    (withDestination pixelData offset push sequence ty dst).payload = pixelData := rfl

@[simp] theorem offset_withDestination :
    (withDestination pixelData offset push sequence ty dst).offset = offset.toNat := by
  show ofLe (toBeBytes 4 offset.toNat).reverse = _
  rw [toBeBytes, reverse_reverse, ofLe_leBytes_of_lt offset.toNat_lt]

@[simp] theorem push_withDestination :
    (withDestination pixelData offset push sequence ty dst).push = push := by
  cases push
  · exact (by decide : decide ((ddpVersion ||| 0) &&& ddpFlagPush ≠ 0) = false)
  · exact (by decide : decide ((ddpVersion ||| ddpFlagPush) &&& ddpFlagPush ≠ 0))

/-- The length field holds what fits in 16 bits. -/
lemma dataLength_withDestination (h : pixelData.length < 2 ^ 16) :
    (withDestination pixelData offset push sequence ty dst).dataLength = pixelData.length := by
  show ofLe (toBeBytes 2 pixelData.length).reverse = _
  rw [toBeBytes, reverse_reverse, ofLe_leBytes_of_lt h]

/-- The low nibble holds the sequence number whole. -/
lemma sequence_withDestination (h : sequence.toNat ≤ 15) :
    (withDestination pixelData offset push sequence ty dst).sequence = sequence.toNat := by
  show (sequence &&& 0x0F).toNat = _
  rw [UInt8.toNat_and]
  exact (Nat.and_two_pow_sub_one_eq_mod _ 4).trans (Nat.mod_eq_of_lt (by omega))

end DdpPacket

/-! ## The counter -/

/-- `DdpSequence`: it starts with 0 and is never more than 15. -/
structure DdpSequence where
  current : UInt8
  le : current.toNat ≤ 15

/-- `DdpSequence::default` -/
instance : Inhabited DdpSequence := ⟨⟨0, by decide⟩⟩

/-- The numbers go round from 1 to 15. -/
lemma toNat_advance {cur : UInt8} (h : cur.toNat ≤ 15) :
    (if 15 ≤ cur then 1 else cur + 1).toNat = cur.toNat % 15 + 1 := by
  split_ifs with hc
  · have hc : 15 ≤ cur.toNat := UInt8.le_iff_toNat_le.mp hc
    rw [show cur.toNat = 15 by omega]
    rfl
  · have hc : ¬ 15 ≤ cur.toNat := fun hl => hc (UInt8.le_iff_toNat_le.mpr hl)
    rw [UInt8.toNat_add, UInt8.toNat_one]
    omega

namespace DdpSequence

/-- `advance` -/
def advance (s : DdpSequence) : DdpSequence where
  current := if 15 ≤ s.current then 1 else s.current + 1
  le := by
    rw [toNat_advance s.le]
    omega

@[simp] theorem advance_current (s : DdpSequence) :
    s.advance.current.toNat = s.current.toNat % 15 + 1 := toNat_advance s.le

end DdpSequence

/-! ## Frames -/

/-- `DdpSpan` -/
structure DdpSpan where
  offset : UInt32
  data : List UInt8

/-- `Sequencing` -/
inductive Sequencing where
  | perFrame
  | perPacket
deriving DecidableEq

/-- `usize::div_ceil` -/
def divCeil (n d : Nat) : Nat := (n + d - 1) / d

/-- A chunk of a span with its offset. -/
abbrev Piece := UInt32 × List UInt8

/-- `build_packets`, its loop over `span.data.chunks(chunk_len).enumerate()`: the chunks of a
span. -/
def pieces (chunkLen : Nat) (span : DdpSpan) : List Piece :=
  (range (divCeil span.data.length chunkLen)).map fun i =>
    (span.offset + .ofNat (i * chunkLen), (span.data.drop (i * chunkLen)).take chunkLen)

/-- `build_packets`, the body of its loops -/
def pushPacket (dataType destination : UInt8) (sequencing : Sequencing) (total : Nat)
    (frameSequence : DdpSequence) (state : List DdpPacket × DdpSequence)
    (piece : Piece) : List DdpPacket × DdpSequence :=
  let push := state.1.length + 1 == total
  let (seq, sequence) :=
    if sequencing = .perPacket ∧ state.1 ≠ [] then (state.2.advance, state.2.advance)
    else (frameSequence, state.2)
  (state.1 ++ [.withDestination piece.2 piece.1 push seq.current dataType destination], sequence)

/-- `build_packets` -/
def buildPackets (spans : List DdpSpan) (dataType destination : UInt8) (chunkLen : Nat)
    (sequence : DdpSequence) (sequencing : Sequencing) : List DdpPacket × DdpSequence :=
  let chunkLen := max 1 (min chunkLen ddpMaxPayload)
  let frameSequence := sequence.advance
  let total := (spans.map fun span => divCeil span.data.length chunkLen).sum
  spans.foldl (fun state span =>
    (pieces chunkLen span).foldl
      (pushPacket dataType destination sequencing total frameSequence) state) ([], frameSequence)

/-- A call of the frame builder. -/
structure DdpFrame where
  spans : List DdpSpan
  dataType : UInt8
  destination : UInt8
  chunkLen : Nat

/-- The packets of one frame after the other. -/
def send (sequencing : Sequencing) : DdpSequence → List DdpFrame → List (List DdpPacket)
  | _, [] => []
  | s, f :: fs =>
    let (packets, s) := buildPackets f.spans f.dataType f.destination f.chunkLen s sequencing
    packets :: send sequencing s fs

/-! ## What is to hold -/

/-- A buffer with some bytes written at an offset. -/
def write (buffer : Nat → UInt8) (offset : Nat) (data : List UInt8) : Nat → UInt8 := fun i =>
  if offset ≤ i then data[i - offset]?.getD (buffer i) else buffer i

/-- The packets carry the frame. -/
structure Carries (f : DdpFrame) (packets : List DdpPacket) : Prop where
  buffer : ∀ buffer, packets.foldl (fun b packet => write b packet.offset packet.payload) buffer =
    f.spans.foldl (fun b span => write b span.offset.toNat span.data) buffer
  payload : ∀ packet ∈ packets, 1 ≤ packet.payload.length ∧ packet.payload.length ≤ ddpMaxPayload ∧
    packet.dataLength = packet.payload.length
  push : ∀ i packet, packets[i]? = some packet → (packet.push ↔ i + 1 = packets.length)

/-- Each number is the next one, from 1 to 15 and round again. -/
def RunsOn : Nat → List Nat → Prop
  | _, [] => True
  | a, b :: l => b = a % 15 + 1 ∧ RunsOn b l

/-- The numbers in the order of the packets, or one for each frame that has packets. -/
def numbers : Sequencing → List (List DdpPacket) → List Nat
  | .perPacket, sent => sent.flatten.map DdpPacket.sequence
  | .perFrame, sent => sent.filterMap fun packets => packets.head?.map DdpPacket.sequence

/-- Packets of one frame have one number in the one-number mode. -/
def Alike : Sequencing → List DdpPacket → Prop
  | .perPacket, _ => True
  | .perFrame, packets => ∀ p ∈ packets, ∀ q ∈ packets, p.sequence = q.sequence

/-- All frames are carried, and the numbers go on from the counter without a gap. -/
structure Framed (sequencing : Sequencing) (s : DdpSequence) (frames : List DdpFrame)
    (sent : List (List DdpPacket)) : Prop where
  carries : List.Forall₂ Carries frames sent
  alike : ∀ packets ∈ sent, Alike sequencing packets
  runsOn : RunsOn s.current.toNat (numbers sequencing sent)

/-- Whether a frame has a packet. -/
def DdpFrame.hasBytes (f : DdpFrame) : Bool := f.spans.any (·.data ≠ [])

/-- Before each frame with bytes the frames without, `count` of which have been passed, are a multiple of
fifteen. -/
def Gapless : Nat → List DdpFrame → Prop
  | _, [] => True
  | count, f :: fs => if f.hasBytes then 15 ∣ count ∧ Gapless 0 fs else Gapless (count + 1) fs

/-! ## The packets of a frame -/

variable {ty dst : UInt8} {sq : Sequencing} {total n l i k : Nat} {s : DdpSequence}
  {frames : List DdpFrame}

/-- The counter for the packet after the first one. -/
def Sequencing.next : Sequencing → DdpSequence → DdpSequence
  | .perPacket, s => s.advance
  | .perFrame, s => s

/-- The packets of the pieces from the `k`-th on, which gets the number of `s`. -/
def packetsFrom (dataType destination : UInt8) (sequencing : Sequencing) (total : Nat) :
    Nat → DdpSequence → List Piece → List DdpPacket
  | _, _, [] => []
  | k, s, piece :: rest =>
    .withDestination piece.2 piece.1 (k + 1 == total) s.current dataType destination ::
      packetsFrom dataType destination sequencing total (k + 1) (sequencing.next s) rest

/-- The counter after a packet with the number of `s` and the packets of more pieces. -/
def after (sequencing : Sequencing) : DdpSequence → List Piece → DdpSequence
  | s, [] => s
  | s, _ :: rest => after sequencing (sequencing.next s) rest

/-- What the loop over the pieces adds. -/
lemma foldl_pushPacket (list : List Piece) (f : DdpSequence) {ps : List DdpPacket}
    (hp : ps ≠ []) (hs : sq = .perFrame → s = f) : list.foldl (pushPacket ty dst sq total f) (ps, s) =
      (ps ++ packetsFrom ty dst sq total ps.length (sq.next s) list, after sq s list) := by
  induction list generalizing ps s with
  | nil => rw [foldl_nil, packetsFrom, append_nil, after]
  | cons piece rest ih =>
    have hpu : pushPacket ty dst sq total f (ps, s) piece =
        (ps ++ [.withDestination piece.2 piece.1 (ps.length + 1 == total) (sq.next s).current
          ty dst], sq.next s) := by
      cases sq with
      | perFrame =>
        obtain rfl := hs rfl
        rfl
      | perPacket =>
        rw [pushPacket, if_pos ⟨rfl, hp⟩]
        rfl
    rw [foldl_cons, hpu, ih (by simp) fun he => by rw [he]; exact hs he, length_append, append_assoc]
    rfl

/-- The length of a chunk in the builder. -/
def DdpFrame.chunk (f : DdpFrame) : Nat := max 1 (min f.chunkLen ddpMaxPayload)

/-- The pieces of a frame. -/
def DdpFrame.pieces (f : DdpFrame) : List Piece :=
  f.spans.flatMap (PixelProtocols.pieces f.chunk)

/-- The packets of a frame are those of its pieces. -/
lemma buildPackets_eq (f : DdpFrame) (s : DdpSequence) :
    buildPackets f.spans f.dataType f.destination f.chunkLen s sq =
      (packetsFrom f.dataType f.destination sq f.pieces.length 0 s.advance f.pieces,
        after sq s.advance f.pieces.tail) := by
  have ht : (f.spans.map fun span => divCeil span.data.length f.chunk).sum = f.pieces.length := by
    rw [DdpFrame.pieces, length_flatMap]
    simp [PixelProtocols.pieces]
  unfold buildPackets
  rw [show max 1 (min f.chunkLen ddpMaxPayload) = f.chunk from rfl]
  dsimp only
  rw [ht, ← foldl_flatMap]
  show f.pieces.foldl _ _ = _
  rcases hp : f.pieces with _ | ⟨piece, rest⟩
  · rfl
  · rw [foldl_cons, pushPacket, if_neg fun h => h.2 rfl]
    exact foldl_pushPacket rest s.advance (by simp) fun _ => rfl

/-! ## What the packets carry -/

section Carry

variable {span : DdpSpan}

/-- Every piece starts inside its span. -/
lemma mul_lt_of_lt_divCeil (hn : 0 < n) (h : i < divCeil l n) : i * n < l := by
  have hl := (Nat.le_div_iff_mul_le hn).mp h
  rw [Nat.succ_mul] at hl
  omega

/-- The pieces reach the end of their span. -/
lemma le_divCeil_mul (hn : 0 < n) : l ≤ divCeil l n * n := by
  have hm := Nat.lt_mul_div_succ (l + n - 1) hn
  rw [Nat.mul_comm, Nat.succ_mul] at hm
  show l ≤ (l + n - 1) / n * n
  omega

/-- No piece is empty or longer than a chunk. -/
lemma length_of_mem_pieces (hn : 0 < n) {piece : Piece} (h : piece ∈ pieces n span) :
    1 ≤ piece.2.length ∧ piece.2.length ≤ n := by
  obtain ⟨i, hi, rfl⟩ := mem_map.mp h
  have hl := mul_lt_of_lt_divCeil hn (mem_range.mp hi)
  rw [length_take, length_drop]
  omega

/-- The chunks before the `k`-th write the bytes before it. -/
lemma write_chunks (hn : 0 < n) (hf : span.offset.toNat + span.data.length ≤ 2 ^ 32)
    (buf : Nat → UInt8) (hk : k ≤ divCeil span.data.length n) : ((range k).map fun i =>
        (span.offset + .ofNat (i * n), (span.data.drop (i * n)).take n)).foldl
      (fun b (piece : Piece) => write b piece.1.toNat piece.2) buf =
      write buf span.offset.toNat (span.data.take (k * n)) := by
  induction k with
  | zero =>
    funext i
    simp [write]
  | succ k ih =>
    have hl := mul_lt_of_lt_divCeil hn hk
    have ho : (span.offset + .ofNat (k * n)).toNat = span.offset.toNat + k * n := by
      rw [UInt32.toNat_add, UInt32.toNat_ofNat_of_lt' (show k * n < 2 ^ 32 by omega),
        Nat.mod_eq_of_lt (by omega)]
    rw [range_succ, map_append, foldl_append, ih (by omega)]
    funext i
    simp only [map_cons, map_nil, foldl_cons, foldl_nil, write, ho,
      getElem?_take, getElem?_drop, Nat.succ_mul]
    by_cases hi : span.offset.toNat ≤ i
    · by_cases hc : span.offset.toNat + k * n ≤ i
      · rw [if_pos hc, if_pos hi, if_pos hi, if_neg (c := i - span.offset.toNat < k * n) (by omega),
          show k * n + (i - (span.offset.toNat + k * n)) = i - span.offset.toNat by omega]
        exact congrArg (Option.getD · _) (if_congr (by omega) rfl rfl)
      · rw [if_neg hc, if_pos hi, if_pos hi, if_pos (by omega), if_pos (by omega)]
    · rw [if_neg (by omega), if_neg hi, if_neg hi]

/-- **The pieces of a span write its bytes.** -/
lemma write_pieces (hn : 0 < n) (hf : span.offset.toNat + span.data.length ≤ 2 ^ 32) (buf : Nat → UInt8) :
    (pieces n span).foldl (fun b piece => write b piece.1.toNat piece.2) buf =
      write buf span.offset.toNat span.data := by
  rw [pieces, write_chunks hn hf buf (Nat.le_refl _), take_of_length_le (le_divCeil_mul hn)]

/-- The packets of the pieces write what the pieces write. -/
lemma write_packetsFrom (list : List Piece) (k : Nat) (s : DdpSequence) (buf : Nat → UInt8) :
    (packetsFrom ty dst sq total k s list).foldl
        (fun b packet => write b packet.offset packet.payload) buf =
      list.foldl (fun b piece => write b piece.1.toNat piece.2) buf := by
  induction list generalizing k s buf with
  | nil => rfl
  | cons piece rest ih =>
    rw [packetsFrom, foldl_cons, foldl_cons, DdpPacket.offset_withDestination,
      DdpPacket.payload_withDestination, ih]

variable {list : List Piece} {packet : DdpPacket}

/-- Every packet carries a piece. -/
lemma mem_packetsFrom (h : packet ∈ packetsFrom ty dst sq total k s list) : ∃ piece ∈ list,
    ∃ push sequence,
      packet = .withDestination piece.2 piece.1 push sequence ty dst := by
  induction list generalizing k s with
  | nil => cases h
  | cons piece rest ih =>
    rcases mem_cons.mp h with rfl | hm
    · exact ⟨piece, mem_cons_self, _, _, rfl⟩
    · obtain ⟨o, ho, he⟩ := ih hm
      exact ⟨o, mem_cons_of_mem _ ho, he⟩

/-- Only the last packet of all is pushed. -/
lemma push_packetsFrom (h : (packetsFrom ty dst sq total k s list)[i]? = some packet) :
    packet.push ↔ k + i + 1 = total := by
  induction list generalizing k i s with
  | nil => cases h
  | cons piece rest ih =>
    cases i with
    | zero =>
      cases h
      rw [DdpPacket.push_withDestination, beq_iff_eq, Nat.add_zero]
    | succ i =>
      rw [ih h]
      omega

/-- One packet a piece. -/
lemma length_packetsFrom (list : List Piece) (k : Nat) (s : DdpSequence) :
    (packetsFrom ty dst sq total k s list).length = list.length := by
  induction list generalizing k s with
  | nil => rfl
  | cons piece rest ih => rw [packetsFrom, length_cons, ih, length_cons]

lemma chunk_bounds (f : DdpFrame) : 0 < f.chunk ∧ f.chunk ≤ ddpMaxPayload := by
  unfold DdpFrame.chunk ddpMaxPayload
  omega

/-- Every frame is carried. -/
lemma carries (f : DdpFrame) (hf : ∀ span ∈ f.spans, span.offset.toNat + span.data.length ≤ 2 ^ 32)
    (s : DdpSequence) : Carries f (buildPackets f.spans f.dataType f.destination f.chunkLen s sq).1 := by
  obtain ⟨hn, hm⟩ := chunk_bounds f
  rw [buildPackets_eq]
  refine ⟨fun buf => ?_, fun packet hp => ?_, fun i packet hp => ?_⟩
  · rw [write_packetsFrom, DdpFrame.pieces, foldl_flatMap]
    exact foldl_ext _ _ _ fun b span hs => write_pieces hn (hf span hs) b
  · obtain ⟨piece, hpi, push, sequence, rfl⟩ := mem_packetsFrom hp
    obtain ⟨span, -, hpi⟩ := mem_flatMap.mp hpi
    obtain ⟨hl, hle⟩ := length_of_mem_pieces hn hpi
    have hd : piece.2.length ≤ ddpMaxPayload := hle.trans hm
    exact ⟨hl, hd, DdpPacket.dataLength_withDestination _ _ _ _ _ _ (hd.trans_lt (by decide))⟩
  · rw [push_packetsFrom hp, length_packetsFrom, Nat.zero_add]

end Carry

/-! ## The numbers -/

/-- The packets of a frame share its number. -/
lemma sequence_packetsFrom (list : List Piece) (k : Nat) (s : DdpSequence) :
    ∀ packet ∈ packetsFrom ty dst .perFrame total k s list, packet.sequence = s.current.toNat := by
  induction list generalizing k with
  | nil => nofun
  | cons piece rest ih =>
    intro packet hp
    rcases mem_cons.mp hp with rfl | hm
    · exact DdpPacket.sequence_withDestination _ _ _ _ _ _ s.le
    · exact ih (k + 1) packet hm

lemma alike (f : DdpFrame) (s : DdpSequence) :
    Alike sq (buildPackets f.spans f.dataType f.destination f.chunkLen s sq).1 := by
  rw [buildPackets_eq]
  cases sq with
  | perPacket => trivial
  | perFrame =>
    exact fun p hp q hq =>
      (sequence_packetsFrom _ _ _ p hp).trans (sequence_packetsFrom _ _ _ q hq).symm

lemma after_perFrame (s : DdpSequence) (list : List Piece) : after .perFrame s list = s := by
  induction list with
  | nil => rfl
  | cons piece rest ih => exact ih

/-- The numbers of a frame run on where its first one does, and the later ones go on after its last. -/
lemma runsOn_packetsFrom (piece : Piece) (rest : List Piece) (k a : Nat)
    (s : DdpSequence) (sent : List (List DdpPacket)) :
    RunsOn a (numbers sq (packetsFrom ty dst sq total k s (piece :: rest) :: sent)) ↔
      s.current.toNat = a % 15 + 1 ∧ RunsOn (after sq s rest).current.toNat (numbers sq sent) := by
  cases sq with
  | perFrame =>
    rw [after_perFrame]
    show RunsOn a (DdpPacket.sequence _ :: _) ↔ _
    rw [DdpPacket.sequence_withDestination _ _ _ _ _ _ s.le]
    rfl
  | perPacket =>
    induction rest generalizing piece k a s with
    | nil =>
      show RunsOn a (DdpPacket.sequence _ :: _) ↔ _
      rw [DdpPacket.sequence_withDestination _ _ _ _ _ _ s.le]
      rfl
    | cons piece' rest ih =>
      show RunsOn a (DdpPacket.sequence _ :: numbers .perPacket
        (packetsFrom ty dst .perPacket total (k + 1) s.advance (piece' :: rest) :: sent)) ↔ _
      rw [DdpPacket.sequence_withDestination _ _ _ _ _ _ s.le, RunsOn, ih, DdpSequence.advance_current]
      exact and_congr_right fun _ => and_iff_right rfl

/-- A frame without bytes has no pieces. -/
lemma pieces_eq_nil {f : DdpFrame} : f.pieces = [] ↔ f.hasBytes = false := by
  have hs : ∀ span : DdpSpan, pieces f.chunk span = [] ↔ span.data = [] := fun span => by
    rw [pieces, map_eq_nil_iff, range_eq_nil, ← length_eq_zero_iff]
    constructor
    · intro hz
      have hl := @le_divCeil_mul f.chunk span.data.length (chunk_bounds f).1
      rw [hz] at hl
      omega
    · intro hz
      rw [hz]
      exact Nat.div_eq_of_lt (by have := (chunk_bounds f).1; omega)
  rw [DdpFrame.pieces, flatMap_eq_nil_iff, DdpFrame.hasBytes, any_eq_false]
  simp [hs]

/-- The numbers of a run, whose counter is `count` numbers ahead of the last one that was sent. -/
lemma runsOn_send (frames : List DdpFrame) {a ct : Nat} (h : s.current.toNat % 15 = (a + ct) % 15) :
    RunsOn a (numbers sq (send sq s frames)) ↔ Gapless ct frames := by
  induction frames generalizing s a ct with
  | nil => cases sq <;> exact Iff.rfl
  | cons f fs ih =>
    rw [send, buildPackets_eq]
    rcases hp : f.pieces with _ | ⟨piece, rest⟩
    · have he : ∀ sent, numbers sq ([] :: sent) = numbers sq sent := fun _ => by
        cases sq <;> rfl
      rw [Gapless, pieces_eq_nil.mp hp]
      show RunsOn a (numbers sq ([] :: _)) ↔ _
      rw [he]
      refine ih ?_
      show s.advance.current.toNat % 15 = _
      rw [DdpSequence.advance_current]
      omega
    · have hb : f.hasBytes := by
        rw [← Bool.not_eq_false, ← pieces_eq_nil, hp]
        exact cons_ne_nil _ _
      rw [Gapless, if_pos hb]
      show RunsOn a (numbers sq (packetsFrom _ _ _ _ _ _ (piece :: rest) :: _)) ↔ _
      rw [runsOn_packetsFrom, DdpSequence.advance_current]
      exact and_congr (by omega) (ih (by rw [Nat.add_zero]; rfl))

/-- **When the framing is exact.** -/
theorem framing_iff (sq : Sequencing) (s : DdpSequence) (frames : List DdpFrame)
    (hf : ∀ f ∈ frames, ∀ span ∈ f.spans, span.offset.toNat + span.data.length ≤ 2 ^ 32) :
    Framed sq s frames (send sq s frames) ↔ Gapless 0 frames := by
  have hc : ∀ s, List.Forall₂ Carries frames (send sq s frames) ∧
      ∀ packets ∈ send sq s frames, Alike sq packets := by
    induction frames with
    | nil => exact fun _ => ⟨.nil, nofun⟩
    | cons f fs ih =>
      intro s
      obtain ⟨hca, ha⟩ := ih (fun f hm => hf f (mem_cons_of_mem _ hm))
        (buildPackets f.spans f.dataType f.destination f.chunkLen s sq).2
      refine ⟨.cons (carries f (hf f mem_cons_self) s) hca, fun packets hm => ?_⟩
      rcases mem_cons.mp hm with rfl | hm
      · exact alike f s
      · exact ha packets hm
  have hr : RunsOn s.current.toNat (numbers sq (send sq s frames)) ↔ Gapless 0 frames :=
    runsOn_send frames rfl
  exact ⟨fun h => hr.mp h.runsOn, fun h => ⟨(hc s).1, (hc s).2, hr.mpr h⟩⟩

/-- A frame of one packet. -/
def pixelFrame : DdpFrame := ⟨[⟨6, [1, 2, 3]⟩], 0x0B, 1, 1440⟩

/-- A frame of two packets, with a span that has no bytes at its end. -/
def stripFrame : DdpFrame := ⟨[⟨6, replicate 1500 9⟩, ⟨1506, []⟩], 0x0B, 1, 1440⟩

/-- A strip of two packets and a single pixel. -/
theorem framing_iff_pixel : Framed .perPacket default [stripFrame, pixelFrame]
    (send .perPacket default [stripFrame, pixelFrame]) ↔ Gapless 0 [stripFrame, pixelFrame] :=
  framing_iff _ _ _ (by decide +kernel)

/-- **A frame without bytes uses up a number.** After it, the first packet of all has number 2. -/
theorem empty_frame_skips : ¬ ∀ sq s frames,
    (∀ f ∈ frames, ∀ span ∈ DdpFrame.spans f, span.offset.toNat + span.data.length ≤ 2 ^ 32) →
      Framed sq s frames (send sq s frames) := by
  intro h
  have hr := (h .perPacket default [⟨[], 0x0B, 1, 1440⟩, pixelFrame] (by decide)).runsOn
  have hn : numbers .perPacket (send .perPacket default [⟨[], 0x0B, 1, 1440⟩, pixelFrame]) = [2] := rfl
  rw [hn] at hr
  exact absurd hr.1 (by decide)

end Hypercolor.PixelProtocols
