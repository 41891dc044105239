import Hypercolor.Lib.PrefixCode

/-!
# What tells keyed requests apart

`api/idempotency.rs`: `Fingerprint::of` absorbs a request part by part into SHA-256, and `scoped_key`
places the key of a client in the scope of its credential.

**`requests_told_apart`**: what is absorbed gives the request back, so that two requests of one
fingerprint are a collision of SHA-256, and the scoped key gives the scope and the key back.

SHA-256 is a parameter. A byte slice is as long as a `usize` counts, and a scope has one of the names
that the daemon issues.
-/

namespace Hypercolor.Idempotency

open Lib String

/-! ## Fingerprints -/

/-- `&[u8]` -/
abbrev Slice := { bytes : List UInt8 // bytes.length < 2 ^ 64 }

/-- The arguments of `Fingerprint::of`. -/
structure KeyedRequest where
  method : Slice
  target : Slice
  ifMatch : List Slice
  contentType : Option Slice
  body : Slice

/-- `absorb` -/
def absorb : Option Slice → List UInt8
  | none => [0]
  | some part => [1] ++ (leBytes 8 (min part.1.length (2 ^ 64 - 1)) ++ part.1)

/-- What `Fingerprint::of` feeds the hasher. -/
def KeyedRequest.absorbed (r : KeyedRequest) : List UInt8 :=
  absorb (some r.method) ++ (absorb (some r.target) ++
    (r.ifMatch.flatMap (fun line => absorb (some line)) ++ absorb none ++
      (absorb r.contentType ++ absorb (some r.body))))

variable {Digest : Type}

/-- `of` -/
def Fingerprint.of (sha256 : List UInt8 → Digest) (r : KeyedRequest) : Digest :=
  sha256 r.absorbed

lemma absorb_prefixFree : PrefixFree absorb := by
  have hc : absorb = optionCode [0] [1] fun part : Slice =>
      leBytes 8 (min part.1.length (2 ^ 64 - 1)) ++ part.1 := by
    funext part
    rcases part with _ | part <;> rfl
  rw [hc]
  refine optionCode_prefixFree rfl (by decide) fun part part' rest rest' he => ?_
  simp only [List.append_assoc] at he
  obtain ⟨hcn, he⟩ := List.append_inj he (by simp)
  have hl := leBytes_inj (by omega) (by omega) hcn
  have hbd := part.2
  have hbd' := part'.2
  obtain ⟨hb, hr⟩ := List.append_inj he (by omega)
  exact ⟨Subtype.ext hb, hr⟩

/-- **What is absorbed gives the request back.** -/
theorem absorbed_injective : Function.Injective KeyedRequest.absorbed := by
  intro r r' he
  obtain ⟨hm, he⟩ := absorb_prefixFree _ _ _ _ he
  obtain ⟨htg, he⟩ := absorb_prefixFree _ _ _ _ he
  obtain ⟨hl, he⟩ := absorb_prefixFree.ended _ _ _ _ he
  obtain ⟨ht, he⟩ := absorb_prefixFree _ _ _ _ he
  have hb := (absorb_prefixFree _ _ [] [] (by simpa using he)).1
  rcases r with ⟨method, target, lines, contentType, body⟩
  cases hm
  cases htg
  cases hl
  cases ht
  cases hb
  rfl

/-! ## Scoped keys -/

/-- `CredentialScope`, which is `named` for the credentials of the daemon itself and `grant`
for those of a credential authority -/
structure CredentialScope where
  name : String
  issued : name ∈ ["environment:control", "environment:read", "daemon-session", "in-process"] ∨
    ∃ id, name = "credential:" ++ id

/-- `scoped_key` -/
def scopedKey (scope : Option CredentialScope) (key : String) : String :=
  let scope := scope.elim "" CredentialScope.name
  toString scope.utf8ByteSize ++ (":" ++ (scope ++ (":" ++ key)))

/-- The scope without a name is the one without a credential. -/
lemma scopeName_injective :
    Function.Injective fun scope : Option CredentialScope => scope.elim "" CredentialScope.name := by
  have hn : ∀ scope : CredentialScope, scope.name ≠ "" := by
    rintro ⟨name, hi | ⟨id, hi⟩⟩ he
    · subst he
      revert hi
      decide
    · have hs := congrArg utf8ByteSize (hi.symm.trans he)
      rw [utf8ByteSize_append] at hs
      have hw : "credential:".utf8ByteSize = 11 := by decide
      have hno : "".utf8ByteSize = 0 := rfl
      omega
  intro scope scope' heq
  rcases scope with _ | scope <;> rcases scope' with _ | scope'
  · rfl
  · exact absurd heq.symm (hn scope')
  · exact absurd heq (hn scope)
  · rcases scope with ⟨name, _⟩
    rcases scope' with ⟨name', _⟩
    obtain rfl : name = name' := heq
    rfl

/-- A number and a colon. -/
lemma decimal_prefixFree : PrefixFree fun n : Nat => (toString n).toList ++ [':'] := by
  refine .terminated (fun n n' he => ?_) fun n hm => ?_
  · have hdi : Nat.toDigits 10 n = Nat.toDigits 10 n' := by
      simpa [← Nat.toList_repr] using he
    rw [← Nat.ofDigitChars_ten_toDigits (n := n), hdi, Nat.ofDigitChars_ten_toDigits]
  · have hd := Nat.isDigit_of_mem_toDigits (by decide) (by decide) (Nat.toList_repr (n := n) ▸ hm)
    revert hd
    decide

lemma scopedKey_injective {scope scope' : Option CredentialScope} {key key' : String}
    (he : scopedKey scope key = scopedKey scope' key') : scope = scope' ∧ key = key' := by
  simp only [scopedKey] at he
  generalize hn : scope.elim "" CredentialScope.name = name at he
  generalize hn' : scope'.elim "" CredentialScope.name = name' at he
  have hc := congrArg toList he
  simp only [toList_append] at hc
  obtain ⟨hs, hr⟩ := decimal_prefixFree name.utf8ByteSize name'.utf8ByteSize
    (name.toList ++ (':' :: key.toList)) (name'.toList ++ (':' :: key'.toList)) (by simpa using hc)
  -- the two names have one number of bytes, so they end where they do in the bytes
  have hb : utf8 name ++ utf8 (":" ++ key) = utf8 name' ++ utf8 (":" ++ key') := by
    have hst : name ++ (":" ++ key) = name' ++ (":" ++ key') := by
      apply toList_inj.mp
      simpa [toList_append] using hr
    simpa [utf8] using congrArg utf8 hst
  obtain ⟨hutf8, ht⟩ := List.append_inj hb (by simpa [length_utf8] using hs)
  obtain rfl := utf8_injective hutf8
  have hk := congrArg toList (utf8_injective ht)
  simp only [toList_append] at hk
  exact ⟨scopeName_injective (hn.trans hn'.symm), toList_inj.mp (List.append_cancel_left hk)⟩

/-- **Requests are told apart.** -/
theorem requests_told_apart (sha256 : List UInt8 → Digest) : Function.Injective KeyedRequest.absorbed ∧
      (∀ r r', r ≠ r' → Fingerprint.of sha256 r = Fingerprint.of sha256 r' →
        r.absorbed ≠ r'.absorbed ∧ sha256 r.absorbed = sha256 r'.absorbed) ∧
      ∀ scope scope' key key', scopedKey scope key = scopedKey scope' key' → scope = scope' ∧
          key = key' :=
  ⟨absorbed_injective, fun _ _ hn hd => ⟨absorbed_injective.ne hn, hd⟩,
    fun _ _ _ _ => scopedKey_injective⟩

end Hypercolor.Idempotency
