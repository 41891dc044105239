import Hypercolor.Lib.Fallible
import Hypercolor.OpenRgb.Packets

/-!
# Modes of an OpenRGB controller

A mode block has a name, numbers, the brightness fields if the protocol version has them, and colors.
The parser takes it field by field from the front of what is left of the payload.

**`parseMode_encode`**: a mode that came out of the parser can be encoded, and its encoding parses back
to the mode and to whatever follows.
-/

namespace Hypercolor.OpenRgb

open Lib List

/-- `OpenRgbError`: the errors of reading and writing a mode. -/
inductive ModeError where
  | truncated (needed remaining : Nat)
  | countOverflow (count elementSize : Nat)
  | stringMissingNul
  | invalidUtf8

/-! ## Values -/

/-- `RgbColor` -/
structure RgbColor where
  red : UInt8
  green : UInt8
  blue : UInt8

namespace RgbColor

/-- `RgbColor::WIRE_SIZE` -/
def wireSize : Nat := 4

/-- `from_wire_bytes` -/
def fromWireBytes (bytes : List UInt8) : RgbColor :=
  ⟨bytes.getD 0 0, bytes.getD 1 0, bytes.getD 2 0⟩

/-- `to_wire_bytes` -/
def toWireBytes (color : RgbColor) : List UInt8 := [color.red, color.green, color.blue, 0]

end RgbColor

/-- `ColorMode` -/
inductive ColorMode where
  | none
  | perLed
  | modeSpecific
  | random
  | other (value : UInt32)

namespace ColorMode

/-- `from_raw` -/
def fromRaw (value : UInt32) : ColorMode :=
  if value = 0 then none
  else if value = 1 then perLed
  else if value = 2 then modeSpecific
  else if value = 3 then random
  else other value

/-- `raw` -/
def raw : ColorMode → UInt32
  | none => 0
  | perLed => 1
  | modeSpecific => 2
  | random => 3
  | other value => value

lemma raw_fromRaw (v : UInt32) : (fromRaw v).raw = v := by
  unfold fromRaw
  split_ifs with h₀ h₁ h₂ h₃
  · exact h₀.symm
  · exact h₁.symm
  · exact h₂.symm
  · exact h₃.symm
  · rfl

end ColorMode

/-- `ControllerMode` -/
structure ControllerMode where
  name : String
  value : Int32
  flags : UInt32
  speedMin : UInt32
  speedMax : UInt32
  brightnessMin : Option UInt32
  brightnessMax : Option UInt32
  colorsMin : UInt32
  colorsMax : UInt32
  speed : UInt32
  brightness : Option UInt32
  direction : UInt32
  colorMode : ColorMode
  colors : List RgbColor

/-! ## Reading -/

/-- `Cursor`: a step of the parser. The state is what the cursor has not passed; its position and a
length of 16 bits add up, so the error of that sum is left out. -/
abbrev Reading (α : Type) := StateT (List UInt8) (Except ModeError) α

/-- `Cursor::read_exact` -/
def readExact (len : Nat) : Reading (List UInt8) := fun bytes =>
  if bytes.length < len then .error (.truncated len bytes.length)
  else .ok (bytes.take len, bytes.drop len)

/-- `Cursor::read_u16` -/
def readU16 : Reading UInt16 := do
  let bytes ← readExact 2
  pure (.ofNat (ofLe bytes))

/-- `Cursor::read_u32` -/
def readU32 : Reading UInt32 := do
  let bytes ← readExact 4
  pure (.ofNat (ofLe bytes))

/-- `Cursor::read_i32` -/
def readI32 : Reading Int32 := do
  let bytes ← readExact 4
  pure (UInt32.ofNat (ofLe bytes)).toInt32

/-- `Cursor::read_rgb_color` -/
def readRgbColor : Reading RgbColor := do
  let bytes ← readExact RgbColor.wireSize
  pure (.fromWireBytes bytes)

/-- `Cursor::read_c_string` -/
def readCString : Reading String := do
  let len ← readU16
  let bytes ← readExact len.toNat
  if bytes.getLast? = some 0 then
    match ofUtf8 bytes.dropLast with
    | some text => pure text
    | none => throw .invalidUtf8
  else throw .stringMissingNul

/-- `parse_mode`, its loop over the colors -/
def readRgbColors : Nat → Reading (List RgbColor)
  | 0 => pure []
  | count + 1 => do
    let color ← readRgbColor
    let colors ← readRgbColors count
    pure (color :: colors)

variable (protocolVersion : UInt32)

/-- `parse_mode`, its brightness range -/
def readBrightnessRange : Reading (Option UInt32 × Option UInt32) :=
  if 3 ≤ protocolVersion then do
    let least ← readU32
    let most ← readU32
    pure (some least, some most)
  else pure (none, none)

/-- `parse_mode`, its brightness -/
def readBrightness : Reading (Option UInt32) :=
  if 3 ≤ protocolVersion then readU32 >>= fun level => pure (some level) else pure none

/-- `parse_mode` -/
def parseMode : Reading ControllerMode := do
  let name ← readCString
  let value ← readI32
  let flags ← readU32
  let speedMin ← readU32
  let speedMax ← readU32
  let (brightnessMin, brightnessMax) ← readBrightnessRange protocolVersion
  let colorsMin ← readU32
  let colorsMax ← readU32
  let speed ← readU32
  let brightness ← readBrightness protocolVersion
  let direction ← readU32
  let colorMode ← readU32
  let colorCount ← readU16
  let colors ← readRgbColors colorCount.toNat
  pure { name, value, flags, speedMin, speedMax, brightnessMin, brightnessMax, colorsMin, colorsMax,
         speed, brightness, direction, colorMode := .fromRaw colorMode, colors }

/-! ## Writing -/

/-- `write_c_string`: a length that does not fit a `usize` is left out, as above. -/
def writeCString (value : String) : Except ModeError (List UInt8) :=
  if (utf8 value).length + 1 < 2 ^ 16 then
    .ok (leBytes 2 ((utf8 value).length + 1) ++ utf8 value ++ [0])
  else .error (.countOverflow ((utf8 value).length + 1) 1)

/-- `ControllerMode::encode`, its brightness range -/
def rangeBytes : Option UInt32 → Option UInt32 → List UInt8
  | some least, some most => u32ToLeBytes least ++ u32ToLeBytes most
  | _, _ => []

/-- `encode` -/
def ControllerMode.encode (mode : ControllerMode) : Except ModeError (List UInt8) := do
  let name ← writeCString mode.name
  if 2 ^ 16 ≤ mode.colors.length then
    .error (.countOverflow mode.colors.length RgbColor.wireSize)
  else
    .ok (name ++ u32ToLeBytes mode.value.toUInt32 ++ u32ToLeBytes mode.flags ++
      u32ToLeBytes mode.speedMin ++ u32ToLeBytes mode.speedMax ++
      rangeBytes mode.brightnessMin mode.brightnessMax ++ u32ToLeBytes mode.colorsMin ++
      u32ToLeBytes mode.colorsMax ++ u32ToLeBytes mode.speed ++
      mode.brightness.elim [] u32ToLeBytes ++ u32ToLeBytes mode.direction ++
      u32ToLeBytes mode.colorMode.raw ++ leBytes 2 mode.colors.length ++
      mode.colors.flatMap RgbColor.toWireBytes)

/-! ## What a step reads -/

variable {α β : Type} {r : Reading α} {f : α → Reading β} {a : α} {b : β} {bs more : List UInt8}

/-- The step reads the bytes as the value, whatever follows them. -/
def Reads (r : Reading α) (bytes : List UInt8) (a : α) : Prop :=
  ∀ rest, r (bytes ++ rest) = .ok (a, rest)

lemma Reads.pure (a : α) : Reads (Pure.pure a) [] a := fun _ => rfl

/-- Readers that follow each other read what was written one after the other. -/
lemma Reads.bind (h : Reads r bs a) (hf : Reads (f a) more b) :
    Reads (r >>= f) (bs ++ more) b := fun rest => by
  rw [append_assoc]
  show (r (bs ++ (more ++ rest)) >>= fun p => f p.1 p.2) = _
  rw [h]
  exact hf rest

/-- The last step of a chain. -/
lemma Reads.last (h : Reads r bs a) (g : α → β) :
    Reads (r >>= fun a => Pure.pure (g a)) bs (g a) := fun rest => by
  show (r (bs ++ rest) >>= fun p => Except.ok (g p.1, p.2)) = _
  rw [h]
  rfl

lemma reads_exact (bs : List UInt8) : Reads (readExact bs.length) bs bs := fun rest => by
  rw [readExact, if_neg (by rw [length_append]; omega), take_left, drop_left]

/-- A field of a fixed length. -/
lemma reads_field {len : Nat} (hl : bs.length = len) {g : List UInt8 → α} (hg : g bs = a) :
    Reads (readExact len >>= fun bs => Pure.pure (g bs)) bs a := by
  subst hl hg
  exact (reads_exact bs).last g

lemma reads_u32 (n : UInt32) : Reads readU32 (u32ToLeBytes n) n :=
  reads_field (length_u32ToLeBytes n) (by
    rw [u32ToLeBytes, ofLe_leBytes_of_lt n.toNat_lt, UInt32.ofNat_toNat])

lemma reads_i32 (n : Int32) : Reads readI32 (u32ToLeBytes n.toUInt32) n :=
  reads_field (length_u32ToLeBytes _) (by
    rw [u32ToLeBytes, ofLe_leBytes_of_lt n.toUInt32.toNat_lt, UInt32.ofNat_toNat]
    rfl)

lemma reads_u16 {n : Nat} (h : n < 2 ^ 16) : Reads readU16 (leBytes 2 n) (.ofNat n) :=
  reads_field (length_leBytes 2 n) (by rw [ofLe_leBytes_of_lt (by omega)])

lemma reads_rgbColors (cs : List RgbColor) :
    Reads (readRgbColors cs.length) (cs.flatMap RgbColor.toWireBytes) cs := by
  induction cs with
  | nil => exact .pure []
  | cons color cs ih =>
    have hc : Reads readRgbColor color.toWireBytes color := reads_field rfl rfl
    exact hc.bind (ih.last (color :: ·))

/-- A string that was written is read back. -/
lemma reads_cString {text : String} (h : (utf8 text).length + 1 < 2 ^ 16) :
    ∃ bs, writeCString text = .ok bs ∧ Reads readCString bs text := by
  have hl : (UInt16.ofNat ((utf8 text).length + 1)).toNat = (utf8 text ++ [0]).length := by
    rw [UInt16.toNat_ofNat_of_lt' h, length_append, length_singleton]
  have hb := reads_exact (utf8 text ++ [0])
  refine ⟨_, if_pos h, ?_⟩
  rw [append_assoc]
  refine (reads_u16 h).bind ?_
  rw [hl]
  conv => enter [2]; rw [← append_nil (utf8 text ++ [0])]
  refine hb.bind ?_
  rw [getLast?_concat, if_pos rfl, dropLast_concat, ofUtf8_utf8]
  exact .pure text

/-! ## What a step can give -/

/-- What the step gives has the property. -/
def Gives (r : Reading α) (P : α → Prop) : Prop :=
  ∀ bytes a rest, r bytes = .ok (a, rest) → P a

variable {P : α → Prop}

lemma Gives.pure (h : P a) : Gives (Pure.pure a) P := by
  rintro _ _ _ ⟨⟩
  exact h

lemma Gives.any (r : Reading α) : Gives r fun _ => True := fun _ _ _ _ => trivial

/-- What the first reader gives holds of what the second reads on with. -/
lemma Gives.bind {Q : β → Prop} (h : Gives r P) (hf : ∀ a, P a → Gives (f a) Q) : Gives (r >>= f) Q := by
  intro bs b rest hb
  obtain ⟨⟨a, more⟩, ha, hfa⟩ := bind_eq_ok.mp hb
  exact hf a (h _ _ _ ha) _ _ _ hfa

/-- A string that was read can be written. -/
lemma gives_cString : Gives readCString fun text => (utf8 text).length + 1 < 2 ^ 16 := by
  refine (Gives.any _).bind fun len _ => ?_
  have hb : Gives (readExact len.toNat) fun bs => bs.length < 2 ^ 16 := by
    intro bs taken rest h
    unfold readExact at h
    split at h
    · cases h
    · cases h
      have hl := len.toNat_lt
      rw [length_take]
      omega
  refine hb.bind fun bs hl => ?_
  split
  · rename_i hz
    split
    · rename_i text ht
      refine .pure ?_
      have hn := length_pos_of_mem (mem_of_getLast? hz)
      rw [utf8_of_ofUtf8 ht, length_dropLast]
      omega
    · exact nofun
  · exact nofun

lemma gives_rgbColors (ct : Nat) : Gives (readRgbColors ct) fun cs => cs.length = ct := by
  induction ct with
  | zero => exact .pure rfl
  | succ ct ih =>
    exact (Gives.any _).bind fun color _ => ih.bind fun cs hl => .pure (congrArg (· + 1) hl)

/-- The brightness fields that a version has. -/
def Versioned (protocolVersion : UInt32) (range : Option UInt32 × Option UInt32) : Prop :=
  if 3 ≤ protocolVersion then ∃ least most, range = (some least, some most) else range = (none, none)

lemma gives_range (ver : UInt32) : Gives (readBrightnessRange ver) (Versioned ver) := by
  unfold readBrightnessRange Versioned
  split
  · exact (Gives.any _).bind fun least _ => (Gives.any _).bind fun most _ => .pure ⟨least, most, rfl⟩
  · exact .pure rfl

variable {ver : UInt32}

/-- A brightness range is read back under its version. -/
lemma reads_range {least most : Option UInt32} (h : Versioned ver (least, most)) :
    Reads (readBrightnessRange ver) (rangeBytes least most) (least, most) := by
  unfold Versioned at h
  unfold readBrightnessRange
  split_ifs at h ⊢ with hv
  · obtain ⟨n, m, ⟨⟩⟩ := h
    exact (reads_u32 n).bind ((reads_u32 m).last fun m => (some n, some m))
  · cases h
    exact .pure (none, none)

lemma gives_brightness (ver : UInt32) : Gives (readBrightness ver) (·.isSome = decide (3 ≤ ver)) := by
  unfold readBrightness
  split
  · rename_i hv
    exact (Gives.any _).bind fun level _ => .pure (decide_eq_true hv).symm
  · rename_i hv
    exact .pure (decide_eq_false hv).symm

lemma reads_brightness {level : Option UInt32} (h : level.isSome = decide (3 ≤ ver)) :
    Reads (readBrightness ver) (level.elim [] u32ToLeBytes) level := by
  unfold readBrightness
  rcases level with _ | n
  · rw [if_neg (of_decide_eq_false h.symm)]
    exact .pure none
  · rw [if_pos (of_decide_eq_true h.symm)]
    exact (reads_u32 n).last some

/-! ## Modes -/

/-- A mode as the parser gives it: lengths of 16 bits, the brightness fields of the version, and a color
mode under its own name. -/
structure ControllerMode.Parsed (protocolVersion : UInt32) (mode : ControllerMode) : Prop where
  name : (utf8 mode.name).length + 1 < 2 ^ 16
  range : Versioned protocolVersion (mode.brightnessMin, mode.brightnessMax)
  brightness : mode.brightness.isSome = decide (3 ≤ protocolVersion)
  colorMode : .fromRaw mode.colorMode.raw = mode.colorMode
  colors : mode.colors.length < 2 ^ 16

/-- A mode that was read has the fields of its version. -/
lemma gives_parseMode (ver : UInt32) : Gives (parseMode ver) (·.Parsed ver) := by
  refine gives_cString.bind fun nm hn => (Gives.any _).bind fun v _ =>
    (Gives.any _).bind fun flags _ => (Gives.any _).bind fun speedMin _ =>
    (Gives.any _).bind fun speedMax _ => (gives_range _).bind fun ⟨least, most⟩ hr => ?_
  refine (Gives.any _).bind fun colorsMin _ => (Gives.any _).bind fun colorsMax _ =>
    (Gives.any _).bind fun speed _ => (gives_brightness _).bind fun level hl => ?_
  refine (Gives.any _).bind fun direction _ => (Gives.any _).bind fun colorMode _ =>
    (Gives.any _).bind fun ct _ => (gives_rgbColors _).bind fun cs hc => .pure ?_
  exact ⟨hn, hr, hl, congrArg ColorMode.fromRaw (ColorMode.raw_fromRaw colorMode), hc ▸ ct.toNat_lt⟩

/-- **A mode is read back** from its bytes. -/
lemma reads_parseMode {mode : ControllerMode} (h : mode.Parsed ver) :
    ∃ bs, mode.encode = .ok bs ∧ Reads (parseMode ver) bs mode := by
  obtain ⟨nm, hn, hr⟩ := reads_cString h.name
  have hl : (UInt16.ofNat mode.colors.length).toNat = mode.colors.length :=
    UInt16.toNat_ofNat_of_lt' h.colors
  refine ⟨_, (bind_of_eq_ok hn).trans (if_neg (Nat.not_le.mpr h.colors)), ?_⟩
  simp only [append_assoc]
  refine hr.bind <| (reads_i32 _).bind <| (reads_u32 _).bind <| (reads_u32 _).bind <|
    (reads_u32 _).bind <| (reads_range h.range).bind ?_
  refine (reads_u32 _).bind <| (reads_u32 _).bind <| (reads_u32 _).bind <|
    (reads_brightness h.brightness).bind ?_
  refine (reads_u32 _).bind <| (reads_u32 _).bind <| (reads_u16 h.colors).bind ?_
  rw [hl, h.colorMode]
  exact (reads_rgbColors _).last fun cs => { mode with colors := cs }

/-- **A mode reads back as it was read.** -/
theorem parseMode_encode (ver : UInt32) {input rest : List UInt8} {mode : ControllerMode}
    (h : parseMode ver input = .ok (mode, rest)) (trailing : List UInt8) :
    ∃ bytes, mode.encode = .ok bytes ∧ parseMode ver (bytes ++ trailing) = .ok (mode, trailing) := by
  obtain ⟨bytes, he, hr⟩ := reads_parseMode (gives_parseMode ver _ _ _ h)
  exact ⟨bytes, he, hr trailing⟩

/-- A mode of version 3 with two colors, and a byte after it. -/
def staticBytes : List UInt8 :=
  [2, 0, 83, 0] ++ [1, 0, 0, 0] ++ [0, 1, 0, 0] ++ [0, 0, 0, 0] ++ [9, 0, 0, 0] ++ [0, 0, 0, 0] ++
    [100, 0, 0, 0] ++ [1, 0, 0, 0] ++ [2, 0, 0, 0] ++ [3, 0, 0, 0] ++ [80, 0, 0, 0] ++ [0, 0, 0, 0] ++
    [2, 0, 0, 0] ++ [2, 0] ++ [255, 0, 0, 7] ++ [0, 255, 0, 7] ++ [42]

def staticMode : ControllerMode :=
  ⟨"S", 1, 256, 0, 9, some 0, some 100, 1, 2, 3, some 80, 0, .modeSpecific, [⟨255, 0, 0⟩, ⟨0, 255, 0⟩]⟩

/-- A mode with two colors, followed by other bytes. -/
theorem parseMode_encode_static : ∃ bytes, staticMode.encode = .ok bytes ∧
    parseMode 3 (bytes ++ [1, 2]) = .ok (staticMode, [1, 2]) :=
  parseMode_encode 3 (rfl : parseMode 3 staticBytes = .ok (staticMode, [42])) [1, 2]

end Hypercolor.OpenRgb
