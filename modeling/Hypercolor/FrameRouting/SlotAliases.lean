import Mathlib.Data.List.DropRight
import Hypercolor.FrameRouting.Plan

/-!
# Slot aliases

A name is the same channel as another if both have the same words, up to case and leading zeros.

**`aliases_agree`**: the three ways to compare names are one equivalence.
-/

namespace Hypercolor.FrameRouting

open List

/-! ## The walk over the raw text -/

/-- `slot_alias_key_matches`, its `split` and `filter` -/
def rawParts (raw : List Char) : List (List Char) :=
  (raw.splitOnP fun ch => !ch.isAlphanum).filter fun part => !part.isEmpty

/-- `slot_alias_key_matches`, the `all` of its loop: what is left of the key after a part; the text
is ASCII, byte for character. -/
def eatPart : List Char → List Char → Option (List Char)
  | [], expected => some expected
  | byte :: part, next :: expected => if next = byte.toLower then eatPart part expected else none
  | _ :: _, [] => none

/-- `slot_alias_key_matches`, its loop -/
def eatParts (expected : List Char) : List (List Char) → Option (List Char)
  | [] => some expected
  | part :: parts =>
    match expected with
    | '-' :: expected => (eatPart (canonicalPart part) expected).bind (eatParts · parts)
    | _ => none

/-- `slot_alias_key_matches` -/
def slotAliasKeyMatches (key raw : List Char) : Bool :=
  match rawParts raw with
  | [] => key == "slot".toList
  | part :: parts => ((eatPart (canonicalPart part) key).bind (eatParts · parts)) == some []

/-! ## Words -/

/-- The words of a text after a word that has begun. -/
def wordsFrom (cur raw : List Char) : List (List Char) :=
  ((raw.splitOnP fun ch => !ch.isAlphanum).modifyHead (cur ++ ·)).filter fun part => !part.isEmpty

/-- A word as it stands in a slug. -/
structure IsWord (w : List Char) : Prop where
  ne_nil : w ≠ []
  plain : ∀ c ∈ w, c.isAlphanum ∧ c.toLower = c

/-- The words of a slug. -/
def slugWords (raw : List Char) : List (List Char) :=
  if rawParts raw = [] then ["slot".toList] else (rawParts raw).map (·.map Char.toLower)

section Words

variable {c : Char} {cur raw w : List Char} {vs : List (List Char)}

@[simp] theorem isDigit_toLower (c : Char) : c.toLower.isDigit = c.isDigit := by
  delta Char.isDigit Char.toLower
  split <;> grind [UInt32.toNat_add, Char.toNat_val]

@[simp] theorem isAlphanum_toLower (c : Char) : c.toLower.isAlphanum = c.isAlphanum := by
  simp only [Char.isAlphanum, isDigit_toLower]
  delta Char.isAlpha Char.isUpper Char.isLower Char.toLower
  split <;> grind [UInt32.toNat_add, Char.toNat_val]

lemma toLower_of_isDigit (h : c.isDigit) : c.toLower = c := by
  simp only [Char.isDigit] at h
  delta Char.toLower
  split <;> grind [Char.toNat_val]

@[simp] theorem toLower_toLower (c : Char) : c.toLower.toLower = c.toLower := by
  delta Char.toLower
  split
  · rename_i h
    refine dif_neg fun hn => ?_
    simp only [ge_iff_le, UInt32.le_iff_toNat_le] at h hn
    grind [UInt32.toNat_add]
  · rfl

lemma IsWord.dash_notMem (h : IsWord w) : '-' ∉ w := fun hm => absurd (h.plain _ hm).1 (by decide)

lemma IsWord.map_toLower (h : IsWord w) : w.map Char.toLower = w :=
  (map_congr_left fun c hc => (h.plain c hc).2).trans (map_id w)

lemma wordsFrom_nil_left : wordsFrom [] raw = rawParts raw := by
  rw [wordsFrom, rawParts]
  congr 1
  cases raw.splitOnP _ <;> rfl

lemma wordsFrom_nil : wordsFrom cur [] = if cur = [] then [] else [cur] := by
  rw [wordsFrom, splitOnP_nil, modifyHead_cons, append_nil]
  cases cur <;> simp

lemma wordsFrom_plain (hc : c.isAlphanum) : wordsFrom cur (c :: raw) = wordsFrom (cur ++ [c]) raw := by
  rw [wordsFrom, wordsFrom, splitOnP_cons_eq_if_modifyHead, if_neg (by simp [hc]), modifyHead_modifyHead]
  congr 2
  exact funext fun l => by simp

lemma wordsFrom_break (hc : ¬ c.isAlphanum) :
    wordsFrom cur (c :: raw) = (if cur = [] then [] else [cur]) ++ wordsFrom [] raw := by
  rw [wordsFrom_nil_left, wordsFrom, rawParts, splitOnP_cons_eq_if_modifyHead, if_pos (by simp [hc]),
    modifyHead_cons, append_nil, filter_cons]
  cases cur <;> simp

/-- Words are not empty and hold no break. -/
lemma plain_of_mem (hcu : ∀ c ∈ cur, c.isAlphanum) (hw : w ∈ wordsFrom cur raw) :
    w ≠ [] ∧ ∀ c ∈ w, c.isAlphanum := by
  induction raw generalizing cur with
  | nil =>
    rw [wordsFrom_nil] at hw
    split_ifs at hw with hc
    · cases hw
    · exact mem_singleton.mp hw ▸ ⟨hc, hcu⟩
  | cons c raw ih =>
    by_cases hc : c.isAlphanum
    · rw [wordsFrom_plain hc] at hw
      exact ih (by simpa [or_imp, forall_and, hc] using hcu) hw
    · rw [wordsFrom_break hc, mem_append] at hw
      rcases hw with hw | hw
      · split_ifs at hw with hn
        · cases hw
        · exact mem_singleton.mp hw ▸ ⟨hn, hcu⟩
      · exact ih (by simp) hw

lemma isWord_of_mem (hw : w ∈ slugWords raw) : IsWord w := by
  unfold slugWords at hw
  split_ifs at hw
  · rw [mem_singleton.mp hw]
    exact ⟨nofun, fun c hc => by fin_cases hc <;> exact ⟨rfl, rfl⟩⟩
  · obtain ⟨u, hu, rfl⟩ := mem_map.mp hw
    rw [← wordsFrom_nil_left] at hu
    obtain ⟨hn, ha⟩ := plain_of_mem (by simp) hu
    refine ⟨by simpa using hn, fun c hc => ?_⟩
    obtain ⟨d, hd, rfl⟩ := mem_map.mp hc
    simp [ha d hd]

/-- There is always a word. -/
lemma slugWords_ne_nil : slugWords raw ≠ [] := by
  unfold slugWords
  split_ifs with h <;> simp [h]

/-! ## Slugs -/

lemma trimDashes_concat (l : List Char) : trimDashes (l ++ ['-']) = trimDashes l := by
  rw [trimDashes, trimDashes, dropWhile_append]
  by_cases h : (l.dropWhile (· == '-')).isEmpty
  · rw [if_pos h, isEmpty_iff.mp h]
    rfl
  · rw [if_neg h, reverse_append]
    rfl

lemma intercalate_ne_nil (h : ∀ v ∈ vs, IsWord v) (hn : vs ≠ []) : ['-'].intercalate vs ≠ [] := by
  obtain ⟨v, vs, rfl⟩ := exists_cons_of_ne_nil hn
  have hv := (h v mem_cons_self).ne_nil
  rcases vs with _ | ⟨u, vs⟩
  · rwa [intercalate_singleton]
  · rw [intercalate_cons_cons, append_assoc]
    exact append_ne_nil_of_left_ne_nil hv _

lemma intercalate_ends (h : ∀ v ∈ vs, IsWord v) :
    (['-'].intercalate vs).head? ≠ some '-' ∧ (['-'].intercalate vs).getLast? ≠ some '-' := by
  induction vs with
  | nil => exact ⟨nofun, nofun⟩
  | cons v vs ih =>
    obtain ⟨hv, hvs⟩ := forall_mem_cons.mp h
    rcases vs with _ | ⟨u, vs⟩
    · rw [intercalate_singleton]
      exact ⟨fun hd => hv.dash_notMem (mem_of_mem_head? hd),
        fun hl => hv.dash_notMem (mem_of_mem_getLast? hl)⟩
    · rw [intercalate_cons_cons, append_assoc]
      refine ⟨?_, ?_⟩
      · rw [head?_append_of_ne_nil _ hv.ne_nil]
        exact fun hd => hv.dash_notMem (mem_of_mem_head? hd)
      · rw [← append_assoc, getLast?_append_of_ne_nil _ (intercalate_ne_nil hvs (cons_ne_nil _ _))]
        exact (ih hvs).2

lemma dropWhile_of_head {l : List Char} (h : l.head? ≠ some '-') : l.dropWhile (· == '-') = l := by
  cases l with
  | nil => rfl
  | cons c l => exact dropWhile_cons_of_neg (by simpa using h)

/-- Words that are joined have no dash to trim. -/
lemma trimDashes_intercalate (h : ∀ v ∈ vs, IsWord v) :
    trimDashes (['-'].intercalate vs) = ['-'].intercalate vs := by
  obtain ⟨hf, hl⟩ := intercalate_ends h
  rw [trimDashes, dropWhile_of_head hf, dropWhile_of_head (by rwa [head?_reverse]), reverse_reverse]

lemma flatMap_dash (hn : vs ≠ []) : vs.flatMap (· ++ ['-']) = ['-'].intercalate vs ++ ['-'] := by
  induction vs with
  | nil => exact absurd rfl hn
  | cons v vs ih =>
    rcases vs with _ | ⟨u, vs⟩
    · rw [intercalate_singleton, flatMap_cons, flatMap_nil, append_nil]
    · rw [flatMap_cons, ih (cons_ne_nil _ _), intercalate_cons_cons, append_assoc, append_assoc,
        append_assoc]

/-- Each word is closed by a dash, after those that stand there and the one that has begun. -/
lemma trimDashes_slugifyChars (ws : List (List Char)) (cur raw : List Char) :
    trimDashes (slugifyChars (ws.flatMap (· ++ ['-']) ++ cur.map Char.toLower) raw
      (cur.isEmpty && !ws.isEmpty)) =
    trimDashes ((ws ++ (wordsFrom cur raw).map (·.map Char.toLower)).flatMap (· ++ ['-'])) := by
  induction raw generalizing ws cur with
  | nil =>
    rw [slugifyChars, wordsFrom_nil]
    split_ifs with hc
    · simp [hc]
    · rw [map_singleton, flatMap_append, flatMap_cons, flatMap_nil, append_nil, ← append_assoc,
        trimDashes_concat]
  | cons c raw ih =>
    by_cases hc : c.isAlphanum
    · rw [slugifyChars, if_pos hc, wordsFrom_plain hc, ← ih]
      cases cur <;> simp
    · rw [slugifyChars, if_neg hc, wordsFrom_break hc]
      rcases cur with _ | ⟨d, cur⟩
      · rw [if_pos rfl, nil_append, ← ih]
        cases ws <;> simp
      · rw [if_neg (cons_ne_nil _ _), map_append, map_singleton, ← append_assoc, ← ih]
        cases ws <;> simp

/-- The words, joined. -/
lemma slugifySlotId_eq (raw : List Char) : slugifySlotId raw = ['-'].intercalate (slugWords raw) := by
  have ht := trimDashes_slugifyChars [] [] raw
  rw [flatMap_nil, map_nil, append_nil, nil_append, wordsFrom_nil_left] at ht
  unfold slugifySlotId
  rw [show (([] : List Char).isEmpty && !([] : List (List Char)).isEmpty) = false from rfl] at ht
  rw [ht]
  by_cases hn : rawParts raw = []
  · rw [slugWords, if_pos hn, hn, intercalate_singleton]
    rfl
  · have hs : slugWords raw = (rawParts raw).map (·.map Char.toLower) := if_neg hn
    have hw : ∀ w ∈ slugWords raw, IsWord w := fun _ => isWord_of_mem
    rw [← hs, flatMap_dash slugWords_ne_nil, trimDashes_concat, trimDashes_intercalate hw]
    exact if_neg (by simpa using intercalate_ne_nil hw slugWords_ne_nil)

lemma rawParts_intercalate (h : ∀ v ∈ vs, IsWord v) : rawParts (['-'].intercalate vs) = vs := by
  have hon : ∀ v, IsWord v → (v.splitOnP fun ch => !ch.isAlphanum) = [v] := fun v hv =>
    splitOnP_eq_singleton fun c hc => by simp [(hv.plain c hc).1]
  induction vs with
  | nil => rfl
  | cons v vs ih =>
    obtain ⟨hv, hvs⟩ := forall_mem_cons.mp h
    have hr : ([v].filter fun part => !part.isEmpty) = [v] := by simpa using hv.ne_nil
    rcases vs with _ | ⟨u, vs⟩
    · rw [intercalate_singleton, rawParts, hon v hv, hr]
    · rw [intercalate_cons_cons, append_assoc, singleton_append, rawParts,
        splitOnP_append_cons _ _ (by decide), filter_append, hon v hv, hr]
      exact congrArg (v :: ·) (ih hvs)

/-- **Words that are joined** are split again. -/
lemma slugWords_intercalate (h : ∀ v ∈ vs, IsWord v) (hn : vs ≠ []) :
    slugWords (['-'].intercalate vs) = vs := by
  rw [slugWords, rawParts_intercalate h, if_neg hn]
  exact (map_congr_left fun v hv => (h v hv).map_toLower).trans (map_id vs)

lemma slugifySlotId_slug : slugifySlotId (slugifySlotId raw) = slugifySlotId raw := by
  rw [slugifySlotId_eq (slugifySlotId raw), slugifySlotId_eq,
    slugWords_intercalate (fun _ => isWord_of_mem) slugWords_ne_nil]

lemma slugifyChars_lower (out raw : List Char) (pd : Bool) :
    slugifyChars out (raw.map Char.toLower) pd = slugifyChars out raw pd := by
  induction raw generalizing out pd with
  | nil => rfl
  | cons c raw ih => simp only [map_cons, slugifyChars, isAlphanum_toLower,
      toLower_toLower, ih]

variable {a b : List Char}

/-- Slugs do not tell cases apart. -/
lemma slugifySlotId_congr (h : eqIgnoreAsciiCase a b) : slugifySlotId a = slugifySlotId b := by
  have h : a.map Char.toLower = b.map Char.toLower := beq_iff_eq.mp h
  rw [slugifySlotId, slugifySlotId, ← slugifyChars_lower [] a, h, slugifyChars_lower]

/-! ## Keys -/

lemma map_toLower_of_digits (h : w.all Char.isDigit) : w.map Char.toLower = w :=
  (map_congr_left fun c hc => toLower_of_isDigit (all_eq_true.mp h c hc)).trans (map_id w)

lemma digits_canonicalPart (h : w.all Char.isDigit) : (canonicalPart w).all Char.isDigit := by
  unfold canonicalPart
  rw [if_pos h]
  dsimp only
  split_ifs
  · rfl
  · exact all_eq_true.mpr fun c hc => all_eq_true.mp h c ((dropWhile_sublist _).subset hc)

lemma isWord_canonicalPart (h : IsWord w) : IsWord (canonicalPart w) := by
  unfold canonicalPart
  dsimp only
  split_ifs with hd hn
  · exact ⟨nofun, fun c hc => mem_singleton.mp hc ▸ ⟨rfl, rfl⟩⟩
  · exact ⟨by simpa using hn, fun c hc => h.plain c ((dropWhile_sublist _).subset hc)⟩
  · exact h

/-- A canonical part stays. -/
lemma canonicalPart_canonicalPart : canonicalPart (canonicalPart w) = canonicalPart w := by
  by_cases h : w.all Char.isDigit
  · have hs : canonicalPart w = if (w.dropWhile (· == '0')).isEmpty then ['0'] else w.dropWhile
        (· == '0') :=
      if_pos h
    have hd := digits_canonicalPart h
    by_cases hn : (w.dropWhile (· == '0')).isEmpty
    · rw [hs, if_pos hn]
      rfl
    · rw [hs, if_neg hn] at hd ⊢
      rw [canonicalPart, if_pos hd]
      dsimp only
      rw [dropWhile_idempotent, if_neg hn]
  · have hs : canonicalPart w = w := if_neg h
    rw [hs, hs]

lemma map_toLower_canonicalPart :
    (canonicalPart w).map Char.toLower = canonicalPart (w.map Char.toLower) := by
  by_cases h : w.all Char.isDigit
  · rw [map_toLower_of_digits h, map_toLower_of_digits (digits_canonicalPart h)]
  · have hl : ¬ (w.map Char.toLower).all Char.isDigit := by
      rwa [all_map, show Char.isDigit ∘ Char.toLower = Char.isDigit from funext isDigit_toLower]
    rw [canonicalPart, if_neg h, canonicalPart, if_neg hl]

lemma isWord_of_mem_key (hw : w ∈ (slugWords raw).map canonicalPart) : IsWord w := by
  obtain ⟨u, hu, rfl⟩ := mem_map.mp hw
  exact isWord_canonicalPart (isWord_of_mem hu)

lemma key_ne_nil : (slugWords raw).map canonicalPart ≠ [] := by
  simpa using slugWords_ne_nil

/-- The key joins the canonical parts. -/
lemma slotAliasKey_eq (raw : List Char) :
    slotAliasKey raw = ['-'].intercalate ((slugWords raw).map canonicalPart) := by
  have hf : ((slugifySlotId raw).splitOn '-').filter (fun part => !part.isEmpty) = slugWords raw := by
    rw [slugifySlotId_eq, splitOn_intercalate _ (fun w hw => (isWord_of_mem hw).dash_notMem)
      slugWords_ne_nil]
    exact filter_eq_self.mpr fun w hw => by simpa using (isWord_of_mem hw).ne_nil
  unfold slotAliasKey
  dsimp only
  rw [hf]
  exact if_neg (by simpa using intercalate_ne_nil (fun _ => isWord_of_mem_key) key_ne_nil)

lemma slotAliasKey_congr (h : slugifySlotId a = slugifySlotId b) : slotAliasKey a = slotAliasKey b := by
  rw [slotAliasKey, slotAliasKey, h]

variable {key : List Char}

lemma eatPart_eq_some {part rest : List Char} :
    eatPart part key = some rest ↔ key = part.map Char.toLower ++ rest := by
  induction part generalizing key with
  | nil => simp [eatPart]
  | cons c part ih =>
    rcases key with _ | ⟨d, key⟩
    · simp [eatPart]
    · by_cases hd : d = c.toLower <;> simp [eatPart, hd, ih]

lemma eatParts_eq_some {parts : List (List Char)} : eatParts key parts = some [] ↔
    key = parts.flatMap fun part => '-' :: (canonicalPart part).map Char.toLower := by
  induction parts generalizing key with
  | nil => simp [eatParts]
  | cons part parts ih =>
    unfold eatParts
    split
    · simp [Option.bind_eq_some_iff, eatPart_eq_some, ih]
    · rename_i hd
      refine iff_of_false nofun fun hk => hd _ hk

lemma intercalate_eq_flatMap (v : List Char) :
    ['-'].intercalate (v :: vs) = v ++ vs.flatMap ('-' :: ·) := by
  induction vs generalizing v with
  | nil => rw [intercalate_singleton, flatMap_nil, append_nil]
  | cons u vs ih =>
      rw [intercalate_cons_cons, ih, flatMap_cons, append_assoc, singleton_append, cons_append]

/-- **The matcher** takes an alias under its key only. -/
lemma slotAliasKeyMatches_iff : slotAliasKeyMatches key raw ↔ key = slotAliasKey raw := by
  rw [slotAliasKey_eq, slugWords]
  unfold slotAliasKeyMatches
  rcases rawParts raw with _ | ⟨part, parts⟩
  · exact beq_iff_eq
  · rw [if_neg (cons_ne_nil _ _), map_cons, map_cons, intercalate_eq_flatMap, map_map, flatMap_map,
      ← map_toLower_canonicalPart]
    simp [Option.bind_eq_some_iff, eatPart_eq_some, eatParts_eq_some, map_toLower_canonicalPart]

end Words

/-- **One equivalence**: the comparison of two names, of their keys, and of a key with a raw name
agree, and a key is its own key. -/
theorem aliases_agree (a b : String) :
    (channelNameMatchesSlotAlias a b ↔ slotAliasKey a.toList = slotAliasKey b.toList) ∧
      (slotAliasKeyMatches (slotAliasKey a.toList) b.toList ↔
        slotAliasKey a.toList = slotAliasKey b.toList) ∧
      slotAliasKey (slotAliasKey a.toList) = slotAliasKey a.toList := by
  refine ⟨?_, slotAliasKeyMatches_iff, ?_⟩
  · have hs : ∀ s t : List Char, slotIdMatchesChannelName s t ↔ slotAliasKey s = slotAliasKey t := by
      intro s t
      simp only [slotIdMatchesChannelName, Bool.or_eq_true, beq_iff_eq]
      refine ⟨?_, .inr⟩
      rintro ((h | h) | h)
      · exact slotAliasKey_congr (slugifySlotId_congr h)
      · exact slotAliasKey_congr ((slugifySlotId_congr h).trans slugifySlotId_slug)
      · exact h
    simp only [channelNameMatchesSlotAlias, Bool.or_eq_true, hs]
    refine ⟨?_, fun h => .inl (.inr h)⟩
    rintro ((h | h) | h)
    · exact slotAliasKey_congr (slugifySlotId_congr h)
    · exact h
    · exact h.symm
  · rw [slotAliasKey_eq (slotAliasKey a.toList), slotAliasKey_eq,
      slugWords_intercalate (fun _ => isWord_of_mem_key) key_ne_nil, map_map]
    exact congrArg _ (map_congr_left fun w _ => canonicalPart_canonicalPart)

end Hypercolor.FrameRouting
