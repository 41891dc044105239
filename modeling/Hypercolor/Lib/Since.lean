import Mathlib.Data.List.Basic

/-!
# Since an event of a history

`Since start bad history` says that the history has a `start` and nothing `bad` after it.
-/

namespace Hypercolor.Lib

variable {ε : Type} {st bad : ε → Prop} {history : List ε} {e : ε}

def Since (start bad : ε → Prop) (history : List ε) : Prop :=
  ∃ before e since, history = before ++ e :: since ∧ start e ∧ ∀ e' ∈ since, ¬ bad e'

variable {lt : List ε}

lemma since_append (hs : st e) (h : ∀ e' ∈ lt, ¬ bad e') :
    Since st bad (history ++ e :: lt) := ⟨history, e, lt, rfl, hs, h⟩

lemma Since.push (h : Since st bad history) (he : ¬ bad e) : Since st bad (history ++ [e]) := by
  obtain ⟨before, e₀, since, rfl, hs, hsi⟩ := h
  refine ⟨before, e₀, since ++ [e], by simp, hs, fun e' hm => ?_⟩
  rcases List.mem_append.mp hm with hm | hm
  · exact hsi e' hm
  · exact List.mem_singleton.mp hm ▸ he

end Hypercolor.Lib
