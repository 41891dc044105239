import Hypercolor.Config.Manager
import Hypercolor.Registry.Types

/-!
# The ids a device goes by

A device has a physical id, a fingerprint that a scanner names it with, and a layout id that the outputs
of a layout name it with. Fingerprints and layout ids are read back by their parts.

* **`hyphenated_injective`**: different physical ids have different texts.
-/

namespace Hypercolor.DeviceBinding

open List Nat

open Registry (DeviceId DeviceFingerprint)

/-! ## Text -/

variable (s : String)

/-- `str::to_ascii_lowercase` -/
def asciiLowercase : String := s.map Char.toLower

/-- `str::trim` -/
def trimmed : String := String.ofList (Config.trim s.toList)

/-- `str::strip_prefix` -/
def stripPrefix (start s : String) : Option String :=
  if start.toList.isPrefixOf s.toList then some (String.ofList (s.toList.drop start.toList.length))
  else none

/-- `str::split_once` -/
def splitOnce (c : Char) : Option (String × String) :=
  match s.toList.dropWhile (· ≠ c) with
  | [] => none
  | _ :: rest => some (String.ofList (s.toList.takeWhile (· ≠ c)), String.ofList rest)

/-- `str::rsplit_once` -/
def rsplitOnce (c : Char) : Option (String × String) :=
  match s.toList.reverse.dropWhile (· ≠ c) with
  | [] => none
  | _ :: rest =>
    some (String.ofList rest.reverse, String.ofList (s.toList.reverse.takeWhile (· ≠ c)).reverse)

/-- `str::split` -/
def splitAt (c : Char) : List String := (s.toList.splitOn c).map String.ofList

/-- `char::is_ascii_alphanumeric` -/
def isAsciiAlphanumeric (c : Char) : Bool := c.isAlpha || c.isDigit

variable (value : String)

/-- `normalized_component` -/
def normalizedComponent : String :=
  String.ofList ((value.toList.filter isAsciiAlphanumeric).map Char.toLower)

/-- `identity_tokens` -/
def identityTokens : List String :=
  ((value.toList.splitOnP fun c => !isAsciiAlphanumeric c).filter (· ≠ [])).map fun token =>
    asciiLowercase (String.ofList token)

/-- The loop of `sanitize_component`: the characters, with runs of dashes as one. -/
def dashed (prevWasDash : Bool) : List Char → List Char
  | [] => []
  | c :: rest =>
    let mapped := if isAsciiAlphanumeric c || c = ':' || c = '_' || c = '-' then c.toLower else '-'
    if mapped = '-' then if prevWasDash then dashed true rest else mapped :: dashed true rest
    else mapped :: dashed false rest

/-- `sanitize_component` -/
def sanitizeComponent (input : String) : String :=
  let out := dashed false (Config.trim input.toList)
  let out := ((out.dropWhile (· = '-')).reverse.dropWhile (· = '-')).reverse
  if out = [] then "device" else String.ofList out

/-- `char::to_digit(16)` -/
def hexDigit (c : Char) : Option Nat :=
  if '0' ≤ c ∧ c ≤ '9' then some (c.toNat - '0'.toNat)
  else if 'a' ≤ c ∧ c ≤ 'f' then some (c.toNat - 'a'.toNat + 10)
  else if 'A' ≤ c ∧ c ≤ 'F' then some (c.toNat - 'A'.toNat + 10)
  else none

/-- `u16::from_str_radix(value, 16)`: a plus sign may stand in front of the digits. -/
def parseHex : Option UInt16 :=
  let digits := match value.toList with
    | '+' :: rest => rest
    | chars => chars
  if digits = [] then none
  else do
    let digits ← digits.mapM hexDigit
    let n := digits.foldl (fun n digit => 16 * n + digit) 0
    if n < 65536 then some (UInt16.ofNat n) else none

/-- `parse_four_digit_hex` -/
def parseFourDigitHex : Option UInt16 :=
  if value.utf8ByteSize = 4 then parseHex value else none

/-! ## Physical ids -/

/-- The loops of `stable_device_id`: the bytes of a text, hashed one after the other. -/
def fnv (offset : UInt64) (turn : UInt64 → UInt64) (text : String) : UInt64 :=
  text.toUTF8.toList.foldl (fun hash byte => (hash ^^^ turn byte.toUInt64) * 0x00000100000001B3) offset

/-- `DeviceFingerprint::stable_device_id` -/
def stableDeviceId (fingerprint : DeviceFingerprint) : DeviceId :=
  let hashA := fnv 0xCBF29CE484222325 (fun value => value) fingerprint.text
  let hashB := fnv 0x84222325CBF29CE4 (fun value => value <<< 1 ||| value >>> 63) fingerprint.text
  -- the version in byte 6 and the variant in byte 8
  let high := (hashA.toBitVec &&& 0xFFFFFFFFFFFF0FFF#64) ||| 0x8000#64
  let low := (hashB.toBitVec &&& 0x3FFFFFFFFFFFFFFF#64) ||| 0x8000000000000000#64
  ⟨high ++ low⟩

/-! ## The text of a physical id -/

/-- The character of a digit. -/
def digitChar (n : Nat) : Char := "0123456789abcdef".toList.getD n '0'
variable {m n : Nat}

lemma digitChar_inj (hm : m < 16) (hn : n < 16) (h : digitChar m = digitChar n) : m = n := by
  have ha : ∀ m < 16, ∀ n < 16, digitChar m = digitChar n → m = n := by decide
  exact ha m hm n hn h

/-- The digit at a place. -/
def digitAt (id : DeviceId) (i : Nat) : Char := digitChar (id.uuid.toNat / 16 ^ (31 - i) % 16)

/-- A group of digits. -/
def group (id : DeviceId) (start len : Nat) : List Char :=
  (range len).map fun i => digitAt id (start + i)

lemma toList_hyphenated (id : DeviceId) :
    id.hyphenated.toList = group id 0 8 ++ ('-' :: (group id 8 4 ++ ('-' :: (group id 12 4 ++
      ('-' :: (group id 16 4 ++ ('-' :: group id 20 12))))))) := by
  simp only [DeviceId.hyphenated, String.intercalate_cons_cons, String.intercalate_singleton,
    String.toList_append, String.toList_ofList, append_assoc]
  rfl

variable {id id' : DeviceId}

lemma group_inj {start len : Nat} (h : group id start len = group id' start len) {i : Nat}
    (hs : start ≤ i) (hl : i < start + len) : digitAt id i = digitAt id' i := by
  have hd := map_inj_left.mp h (i - start) (mem_range.mpr (by omega))
  rwa [Nat.add_sub_cancel' hs] at hd

/-- Numbers with the same digits at the last places are the same up to there. -/
lemma mod_pow_eq (k : Nat) (h : ∀ i < k, m / 16 ^ i % 16 = n / 16 ^ i % 16) :
    m % 16 ^ k = n % 16 ^ k := by
  induction k with
  | zero => rw [pow_zero, mod_one, mod_one]
  | succ k ih =>
    rw [mod_pow_succ, mod_pow_succ, ih fun i hi => h i (by omega), h k (by omega)]

/-- **Different ids have different texts.** -/
theorem hyphenated_injective (h : id.hyphenated = id'.hyphenated) : id = id' := by
  have ht := congrArg String.toList h
  rw [toList_hyphenated, toList_hyphenated] at ht
  have hl : ∀ start len, (group id start len).length = (group id' start len).length := fun _ _ => by
    rw [group, group, length_map, length_map]
  obtain ⟨h0, ht⟩ := append_inj ht (hl _ _)
  obtain ⟨h8, ht⟩ := append_inj (cons.inj ht).2 (hl _ _)
  obtain ⟨h12, ht⟩ := append_inj (cons.inj ht).2 (hl _ _)
  obtain ⟨h16, ht⟩ := append_inj (cons.inj ht).2 (hl _ _)
  have h20 := (cons.inj ht).2
  have hd : ∀ i < 32, digitAt id i = digitAt id' i := by
    intro i hi
    rcases lt_or_ge i 8 with hlt | hg
    · exact group_inj h0 (zero_le _) hlt
    rcases lt_or_ge i 12 with hlt | hg
    · exact group_inj h8 hg hlt
    rcases lt_or_ge i 16 with hlt | hg
    · exact group_inj h12 hg hlt
    rcases lt_or_ge i 20 with hlt | hg
    · exact group_inj h16 hg hlt
    · exact group_inj h20 hg hi
  have hm : id.uuid.toNat % 16 ^ 32 = id'.uuid.toNat % 16 ^ 32 := mod_pow_eq 32 fun i hi => by
    have hp := digitChar_inj (mod_lt _ (by decide)) (mod_lt _ (by decide)) (hd (31 - i) (by omega))
    rwa [show 31 - (31 - i) = i by omega] at hp
  rw [show 16 ^ 32 = 2 ^ 128 from rfl, mod_eq_of_lt id.uuid.isLt, mod_eq_of_lt id'.uuid.isLt] at hm
  exact congrArg DeviceId.mk (BitVec.eq_of_toNat_eq hm)

/-- The text of an id starts with a digit. -/
lemma head_hyphenated (id : DeviceId) : ∃ n < 16, id.hyphenated.toList.head? = some (digitChar n) :=
  ⟨id.uuid.toNat / 16 ^ 31 % 16, mod_lt _ (by decide), by rw [toList_hyphenated]; rfl⟩

end Hypercolor.DeviceBinding
