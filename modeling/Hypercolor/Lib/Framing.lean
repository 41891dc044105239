import Mathlib.Data.List.Infix

/-!
# Decoders of framed streams

A stream decoder is fed bytes in any portions and asked, at any time, for the next value. `Decodes`
says what one call does when the buffered bytes begin with an encoding, or with a part of one;
**`Decodes.exact`** concludes, for every way of cutting the stream and every interleaving of the
calls, that the values come out in order, and that none whose encoding is complete is left once a
call has found nothing.
-/

namespace Hypercolor.Lib

open List

/-- A decoder with state `σ` of a stream of `β`, giving values `γ` or errors. -/
structure StreamDecoder (σ β γ ε : Type) where
  start : σ
  push : σ → List β → σ
  next : σ → Except ε (Option γ) × σ

/-- A call of a stream decoder. -/
inductive Feed (β : Type) where
  | push (bytes : List β)
  | next

namespace Feed

variable {β : Type}

/-- The bytes pushed by some calls. -/
def pushed : List (Feed β) → List β
  | [] => []
  | push bytes :: calls => bytes ++ pushed calls
  | next :: calls => pushed calls

lemma pushed_append (cs cs' : List (Feed β)) : pushed (cs ++ cs') = pushed cs ++ pushed cs' := by
  induction cs with
  | nil => rfl
  | cons cl cs ih =>
    rcases cl with bs | _
    · simp only [cons_append, pushed, ih, append_assoc]
    · exact ih

end Feed

namespace StreamDecoder

variable {σ β γ ε : Type} (D : StreamDecoder σ β γ ε)

/-- The state after some calls, and what the calls of `next` gave, in order. -/
def run (calls : List (Feed β)) : σ × List (Except ε (Option γ)) :=
  calls.foldl (fun (s, results) call =>
    match call with
    | .push bytes => (D.push s bytes, results)
    | .next => ((D.next s).2, results ++ [(D.next s).1])) (D.start, [])

/-- The values that came out. -/
def returned (calls : List (Feed β)) : List γ :=
  (D.run calls).2.filterMap fun result => result.toOption.join

lemma run_push (cs : List (Feed β)) (bs : List β) :
    D.run (cs ++ [.push bs]) = (D.push (D.run cs).1 bs, (D.run cs).2) := by
  simp [run, foldl_append]

lemma run_next (cs : List (Feed β)) : D.run (cs ++ [.next]) =
      ((D.next (D.run cs).1).2, (D.run cs).2 ++ [(D.next (D.run cs).1).1]) := by
  simp [run, foldl_append]

/-- What single calls do. `buffered` are the bytes the decoder holds, and `read` is what comes out
for an encoded value, of which only the `Good` ones are spoken of. -/
structure Decodes {α : Type} (buffered : σ → List β) (encode : α → List β) (read : α → γ)
    (Good : α → Prop) : Prop where
  start : buffered D.start = []
  push : ∀ s bytes, buffered (D.push s bytes) = buffered s ++ bytes
  empty : ∀ s, buffered s = [] → ∃ t, D.next s = (.ok none, t) ∧ buffered t = []
  whole : ∀ a, Good a → ∀ s rest, buffered s = encode a ++ rest →
    ∃ t, D.next s = (.ok (some (read a)), t) ∧ buffered t = rest
  part : ∀ a, Good a → ∀ s, buffered s <+: encode a → (buffered s).length < (encode a).length →
    ∃ t, D.next s = (.ok none, t) ∧ buffered t = buffered s

/-- The decoder has given the first `count` values and holds what came after them. -/
structure Holds {α : Type} (buffered : σ → List β) (encode : α → List β) (read : α → γ)
    (values : List α) (calls : List (Feed β)) (count : Nat) : Prop where
  bytes : (values.take count).flatMap encode ++ buffered (D.run calls).1 = Feed.pushed calls
  returned : D.returned calls = (values.take count).map read
  ok : ∀ result ∈ (D.run calls).2, ∃ value, result = .ok value

variable {D} {α : Type} {buffered : σ → List β} {encode : α → List β} {read : α → γ}
  {Good : α → Prop} {values : List α}

/-- What a call of `next` does when the decoder holds the bytes after the first `count` values:
nothing, and the next encoding is not complete, or the next value comes out. -/
lemma Decodes.next_of_holds (h : D.Decodes buffered encode read Good)
    (hg : ∀ a ∈ values, Good a) {cs : List (Feed β)}
    (hc : Feed.pushed cs <+: values.flatMap encode) {ct : Nat}
    (hhl : D.Holds buffered encode read values cs ct) :
    (∃ t, D.next (D.run cs).1 = (.ok none, t) ∧ buffered t = buffered (D.run cs).1 ∧
      ∀ a ∈ values[ct]?, (buffered (D.run cs).1).length < (encode a).length) ∨
    ∃ a t, values[ct]? = some a ∧ D.next (D.run cs).1 = (.ok (some (read a)), t) ∧
      buffered (D.run cs).1 = encode a ++ buffered t := by
  have hr : buffered (D.run cs).1 <+: (values.drop ct).flatMap encode := by
    rw [← hhl.bytes, ← take_append_drop ct values, flatMap_append, take_append_drop] at hc
    exact (prefix_append_right_inj _).mp hc
  rcases hd : values.drop ct with _ | ⟨a, later⟩
  · rw [hd] at hr
    have he : buffered (D.run cs).1 = [] := prefix_nil.mp hr
    obtain ⟨t, hn, hbu⟩ := h.empty _ he
    have hen : values[ct]? = none := getElem?_eq_none (drop_eq_nil_iff.mp hd)
    exact .inl ⟨t, hn, hbu.trans he.symm, by simp [hen]⟩
  · have ha : values[ct]? = some a := by
      have hh := congrArg head? hd
      rwa [head?_drop] at hh
    have hm : Good a := hg a (mem_of_getElem? ha)
    rw [hd, flatMap_cons] at hr
    by_cases hl : (buffered (D.run cs).1).length < (encode a).length
    · have hp : buffered (D.run cs).1 <+: encode a :=
        prefix_of_prefix_length_le hr (prefix_append _ _) hl.le
      obtain ⟨t, hn, hbu⟩ := h.part a hm _ hp hl
      refine .inl ⟨t, hn, hbu, fun b hb => ?_⟩
      rw [ha, Option.mem_some_iff] at hb
      exact hb ▸ hl
    · obtain ⟨rest, hw⟩ : encode a <+: buffered (D.run cs).1 :=
        prefix_of_prefix_length_le (prefix_append _ _) hr (Nat.le_of_not_lt hl)
      obtain ⟨t, hn, hbu⟩ := h.whole a hm _ rest hw.symm
      exact .inr ⟨a, t, ha, hn, by rw [hbu, hw]⟩

/-- After any calls the decoder has given some first values and holds the rest. -/
lemma Decodes.holds (h : D.Decodes buffered encode read Good) (hg : ∀ a ∈ values, Good a)
    (cs : List (Feed β)) (hcu : Feed.pushed cs <+: values.flatMap encode) :
    ∃ ct ≤ values.length, D.Holds buffered encode read values cs ct := by
  induction cs using reverseRecOn with
  | nil => exact ⟨0, Nat.zero_le _, by simp [run, h.start, Feed.pushed], by simp [returned, run],
      by simp [run]⟩
  | append_singleton cs cl ih =>
    have hbe : Feed.pushed cs <+: values.flatMap encode := by
      rw [Feed.pushed_append] at hcu
      exact (prefix_append _ _).trans hcu
    obtain ⟨ct, hc, hh⟩ := ih hbe
    rcases cl with bs | _
    · refine ⟨ct, hc, ?_, ?_, ?_⟩
      · rw [run_push, h.push, ← append_assoc, hh.bytes, Feed.pushed_append]
        simp [Feed.pushed]
      · rw [returned, run_push]
        exact hh.returned
      · rw [run_push]
        exact hh.ok
    · have hp : Feed.pushed (cs ++ [.next]) = Feed.pushed cs := by
        simp [Feed.pushed_append, Feed.pushed]
      rcases h.next_of_holds hg hbe hh with
        ⟨t, hn, hb, -⟩ | ⟨a, t, ha, hn, hb⟩
      · refine ⟨ct, hc, ?_, ?_, ?_⟩
        · rw [run_next, hn, hp, hb]
          exact hh.bytes
        · rw [returned, run_next, hn, filterMap_append, ← returned, hh.returned]
          simp [Except.toOption]
        · rw [run_next, hn]
          intro res hr
          rcases mem_append.mp hr with hold | hne
          · exact hh.ok res hold
          · exact ⟨none, mem_singleton.mp hne⟩
      · have ht : values.take (ct + 1) = values.take ct ++ [a] := by
          rw [take_add_one, ha]
          rfl
        have hl : ct < values.length := (List.getElem?_eq_some_iff.mp ha).1
        refine ⟨ct + 1, hl, ?_, ?_, ?_⟩
        · rw [run_next, hn, hp, ← hh.bytes, hb, ht]
          simp
        · rw [returned, run_next, hn, filterMap_append, ← returned, hh.returned, ht]
          simp [Except.toOption]
        · rw [run_next, hn]
          intro res hr
          rcases mem_append.mp hr with hold | hne
          · exact hh.ok res hold
          · exact ⟨some (read a), mem_singleton.mp hne⟩

/-- **A stream decoder is exact**: no call fails, the values come out in order, and once a call has
found nothing, every value whose encoding was pushed whole has come out. -/
theorem Decodes.exact (h : D.Decodes buffered encode read Good) (hg : ∀ a ∈ values, Good a)
    (cs : List (Feed β)) (hcu : Feed.pushed cs <+: values.flatMap encode) :
    (∀ result ∈ (D.run cs).2, ∃ value, result = .ok value) ∧ D.returned cs <+: values.map read ∧
    ((D.next (D.run cs).1).1 = .ok none → ∀ i < values.length,
      ((values.take (i + 1)).flatMap encode).length ≤ (Feed.pushed cs).length →
        i < (D.returned cs).length) := by
  obtain ⟨ct, hc, hh⟩ := h.holds hg cs hcu
  refine ⟨hh.ok, ?_, ?_⟩
  · rw [hh.returned]
    exact (List.take_prefix ct values).map read
  · intro hn i hi hp
    rw [hh.returned, length_map, length_take_of_le hc]
    rcases h.next_of_holds hg hcu hh with ⟨-, -, -, hs⟩ | ⟨a, t, -, hne, -⟩
    · -- the encoding after the first `count` values is not complete, so `i` is one of them
      by_contra hle
      obtain ⟨lt, rfl⟩ := Nat.exists_eq_add_of_le (Nat.le_of_not_lt hle)
      have hl : ct < values.length := by omega
      have hs := hs values[ct] (getElem?_eq_getElem hl)
      have hsp : values.take (ct + lt + 1) =
          values.take ct ++ values[ct] :: (values.drop (ct + 1)).take lt := by
        rw [Nat.add_assoc, take_add, drop_eq_getElem_cons hl, take_succ_cons]
      rw [← hh.bytes, hsp] at hp
      simp only [flatMap_append, flatMap_cons, length_append] at hp
      omega
    · rw [hne] at hn
      simp at hn

end StreamDecoder

end Hypercolor.Lib
