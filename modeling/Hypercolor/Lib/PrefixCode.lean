import Mathlib.Data.Option.Basic
import Hypercolor.Lib.Bytes

/-!
# Self-delimiting codes

A code is self-delimiting when whatever follows a code word does not change which value is read off
the front. Such codes compose: fields one after the other, a tag before an optional field, a count
before a list, so that the bytes of a whole record give the record back.
-/

namespace Hypercolor.Lib

open List

variable {α α' β : Type}

/-- `core::hash::Hasher` asks this of what `Hash` implementations write: what is read off the front
of the stream does not depend on what follows. -/
def PrefixFree (code : α → List β) : Prop :=
  ∀ a a' rest rest', code a ++ rest = code a' ++ rest' → a = a' ∧ rest = rest'

variable {w : Nat} {l l' : List α} {rest rest' : List β}

namespace PrefixFree

variable {code : α → List β}

lemma of_width (hi : Function.Injective code) (hw : ∀ a, (code a).length = w) : PrefixFree code := by
  intro a a' rest rest' he
  obtain ⟨hc, hr⟩ := append_inj he ((hw a).trans (hw a').symm)
  exact ⟨hi hc, hr⟩

/-- A word ended by a value that no word contains. -/
lemma terminated {stop : β} (hi : Function.Injective code) (hs : ∀ a, stop ∉ code a) :
    PrefixFree fun a => code a ++ [stop] := by
  have hsp : ∀ {l l' rest rest' : List β}, stop ∉ l → stop ∉ l' →
      l ++ stop :: rest = l' ++ stop :: rest' → l = l' ∧ rest = rest' := by
    intro l
    induction l with
    | nil =>
      intro l' rest rest' _ hl' he
      rcases l' with _ | ⟨b, l'⟩
      · simpa using he
      · exact absurd (cons.inj he).1 fun h => hl' (h ▸ mem_cons_self)
    | cons b l ih =>
      intro l' rest rest' hl hl' he
      rcases l' with _ | ⟨b', l'⟩
      · exact absurd (cons.inj he).1 fun h => hl (h ▸ mem_cons_self)
      · obtain ⟨rfl, ht⟩ := cons.inj he
        obtain ⟨rfl, hr⟩ := ih (fun h => hl (mem_cons_of_mem _ h)) (fun h => hl' (mem_cons_of_mem _ h)) ht
        exact ⟨rfl, hr⟩
  intro a a' rest rest' he
  simp only [append_assoc, singleton_append] at he
  obtain ⟨hc, hr⟩ := hsp (hs a) (hs a') he
  exact ⟨hi hc, hr⟩

/-- As many values as both streams hold. -/
lemma flatMap_inj (h : PrefixFree code) (hl : l.length = l'.length)
    (he : l.flatMap code ++ rest = l'.flatMap code ++ rest') : l = l' ∧ rest = rest' := by
  induction l generalizing l' with
  | nil =>
    obtain rfl := length_eq_zero_iff.mp hl.symm
    exact ⟨rfl, he⟩
  | cons a l ih =>
    rcases l' with _ | ⟨a', l'⟩
    · simp at hl
    · simp only [flatMap_cons, append_assoc] at he
      obtain ⟨rfl, ht⟩ := h _ _ _ _ he
      obtain ⟨rfl, hr⟩ := ih (Nat.succ.inj hl) ht
      exact ⟨rfl, hr⟩

/-- Values of a code with an absent value, up to that. -/
lemma ended {code : Option α → List β} (h : PrefixFree code) :
    PrefixFree fun l : List α => l.flatMap (fun a => code (some a)) ++ code none := by
  intro l
  induction l with
  | nil =>
    intro l' rest rest' he
    rcases l' with _ | ⟨a', l'⟩
    · exact ⟨rfl, (h _ _ _ _ he).2⟩
    · simp only [flatMap_cons, flatMap_nil, nil_append, append_assoc] at he
      cases (h _ _ _ _ he).1
  | cons a l ih =>
    intro l' rest rest' he
    rcases l' with _ | ⟨a', l'⟩
    · simp only [flatMap_cons, flatMap_nil, nil_append, append_assoc] at he
      cases (h _ _ _ _ he).1
    · simp only [flatMap_cons, append_assoc] at he
      obtain ⟨⟨⟩, ht⟩ := h _ _ _ _ he
      obtain ⟨rfl, hr⟩ := ih l' rest rest' (by simpa using ht)
      exact ⟨rfl, hr⟩

end PrefixFree

/-! ## What `Hash` writes -/

/-- `impl Hash for [T]`: a count, then the values. -/
def listCode (count : Nat → List β) (code : α → List β) (l : List α) : List β :=
  count l.length ++ l.flatMap code

variable {code : α → List β}

lemma listCode_inj {ct : Nat → List β} {bound : Nat}
    (hc : ∀ n n' rest rest', n < bound → n' < bound → ct n ++ rest = ct n' ++ rest' → n = n' ∧
      rest = rest') (h : PrefixFree code) (hl : l.length < bound) (hl' : l'.length < bound)
    (he : listCode ct code l ++ rest = listCode ct code l' ++ rest') : l = l' ∧ rest = rest' := by
  simp only [listCode, append_assoc] at he
  obtain ⟨hle, he⟩ := hc _ _ _ _ hl hl' he
  exact h.flatMap_inj hle he

/-- `impl Hash for Option<T>`: the tag of the variant, then the value if there is one. -/
def optionCode (absent present : List β) (code : α → List β) : Option α → List β
  | none => absent
  | some a => present ++ code a

lemma optionCode_prefixFree {ab pr : List β} (hl : ab.length = pr.length) (hn : ab ≠ pr)
    (h : PrefixFree code) : PrefixFree (optionCode ab pr code) := by
  intro a a' rest rest' he
  rcases a with _ | a <;> rcases a' with _ | a' <;> simp only [optionCode, append_assoc] at he
  · exact ⟨rfl, append_cancel_left he⟩
  · exact absurd (append_inj he hl).1 hn
  · exact absurd (append_inj he hl.symm).1 (Ne.symm hn)
  · obtain ⟨rfl, hr⟩ := h _ _ _ _ (append_cancel_left he)
    exact ⟨rfl, hr⟩

lemma leBytes_inj {n n' : Nat} (hn : n < 256 ^ w) (hn' : n' < 256 ^ w)
    (he : leBytes w n = leBytes w n') : n = n' := by
  rw [← ofLe_leBytes_of_lt hn, he, ofLe_leBytes_of_lt hn']

lemma utf8_injective : Function.Injective utf8 := by
  intro s s' he
  have h := congrArg ofUtf8 he
  rwa [ofUtf8_utf8, ofUtf8_utf8, Option.some_inj] at h

/-- No UTF-8 byte is `0xFF`. -/
lemma utf8EncodeChar_ne (c : Char) : (0xFF : UInt8) ∉ String.utf8EncodeChar c := by
  have hv : c.toNat = c.val.toNat := rfl
  intro h
  simp only [String.utf8EncodeChar] at h
  split_ifs at h <;> simp [← UInt8.toNat_inj] at h <;> omega

lemma utf8_ne (s : String) : (0xFF : UInt8) ∉ utf8 s := by
  obtain ⟨l, hl⟩ := s.isValidUTF8
  have hb : utf8 s = l.flatMap String.utf8EncodeChar := by
    rw [utf8, String.toUTF8_eq_toByteArray, hl]
    simp [utf8Encode]
  rw [hb]
  intro h
  obtain ⟨c, _, hc⟩ := mem_flatMap.mp h
  exact utf8EncodeChar_ne c hc

end Hypercolor.Lib
