import Hypercolor.Idempotency.AtMostOnce

/-!
# One key of the store

What the store is for a single key: nothing, a request under way, or the answer of one that is done.

* **`slot_step`**: the store refines this for every key. A step may settle the request or let its
  answer go (`Moves`); a claim of the key is then answered as the slot says (`Answers`), and any other
  step does no more.
-/

namespace Hypercolor.Idempotency

open StoreInner Relation

/-- A key, with who executes the request under it. -/
inductive KeySlot (ι : Type) where
  | free
  | running (executor : ι)
  | done (executor : ι) (outcome : Outcome)

namespace KeySlot

variable {ι F : Type}

/-- What happens to a key without a claim of it. -/
inductive Moves : KeySlot ι → KeySlot ι → Prop where
  | settles executor outcome : Moves (.running executor) (.done executor outcome)
  | lets executor outcome : Moves (.done executor outcome) .free

/-- How a claim of a key is answered, and what it leaves. Only a key that is taken can mismatch. -/
inductive Answers : KeySlot FlightId → Claim → KeySlot FlightId → Prop where
  | execute id : Answers .free (.execute id) (.running id)
  | busy : Answers .free .busy .free
  | wait id : Answers (.running id) (.wait id) (.running id)
  | replay id outcome : Answers (.done id outcome) (.replay outcome) (.done id outcome)
  | mismatch slot : slot ≠ .free → Answers slot .mismatch slot

/-- The key, as its entry and the newest handle of it tell. -/
def ofEntry : Option (Entry F) → Option FlightId → KeySlot FlightId
  | some (.inFlight _ id), _ => .running id
  | some (.completed _ outcome _ _), some id => .done id outcome
  | _, _ => .free

/-- An entry that is kept, or was completed and is lost. -/
lemma moves_of_loses {e e' : Option (Entry F)} {latest : Option FlightId}
    (h : e' = e ∨ e' = none ∧ ∃ fp o q t, e = some (.completed fp o q t)) :
    ReflTransGen Moves (ofEntry e latest) (ofEntry e' latest) := by
  rcases h with rfl | ⟨rfl, fp, o, q, t, rfl⟩
  · exact .refl
  · rcases latest with _ | id
    · exact .refl
    · exact .single (.lets id o)

end KeySlot

namespace World

open KeySlot

variable {K F : Type} [DecidableEq K] [DecidableEq F] {ret : Retention} {w w' : World K F}

def slot (w : World K F) (key : K) : KeySlot FlightId :=
  ofEntry (w.store.entries.lookup key) ((w.latest key).map Flight.id)

lemma latest_setStage_id (w : World K F) id stage key :
    ((w.setStage id stage).latest key).map Flight.id = (w.latest key).map Flight.id := by
  rw [latest_setStage, Option.map_map]
  congr 1
  funext f
  simp only [Function.comp]
  split <;> rfl

/-- Settling a handle: of the key, or of another that the key may have to make room for. -/
lemma slot_settle (h : w.Inv) {f : Flight K F} (hf : f ∈ w.flights) (hru : f.stage = .running) oc key :
    ReflTransGen Moves (w.slot key) ((w.settle ret f oc).slot key) := by
  have he := h.running f hf hru
  obtain ⟨-, how, hos⟩ := settle_spec ret h.queue he f.fingerprint f.requestBytes oc
  have hl : ((w.settle ret f oc).latest key).map Flight.id = (w.latest key).map Flight.id :=
    latest_setStage_id w f.id _ key
  unfold slot
  rw [hl]
  by_cases hk : key = f.key
  · subst hk
    obtain ⟨g, hg, hi, -, -⟩ := h.inFlight _ _ _ he
    rw [hg, he, Option.map_some, hi]
    have hs : ReflTransGen Moves (.running f.id) (.done f.id oc) := .single (.settles _ _)
    rcases how with hn | hd
    · exact (hs.tail (.lets _ _)).trans (moves_of_loses (.inl hn))
    · exact hs.trans (@moves_of_loses F _ _ (some f.id) (.inl hd))
  · exact moves_of_loses (hos key hk)

/-- Expiry comes first, then a claim answers as the slot of its key says. -/
lemma slot_claim ret (h : w.Inv) key own fp bs : ∃ s, ReflTransGen Moves (w.slot key) s ∧
      if key = own then s.Answers (w.claim ret own fp bs).2 ((w.claim ret own fp bs).1.slot key)
      else (w.claim ret own fp bs).1.slot key = s := by
  refine ⟨_, moves_of_loses (@expire_loses K F _ _ w.now ret.age _ h.queue key), ?_⟩
  have he := h.of_store (expire_spec w.now ret.age w.store h.queue).1 (expire_loses h.queue)
  generalize hc : w.claim ret own fp bs = c
  have hca := claim_cases ret h own fp bs
  rw [hc] at hca
  split_ifs with hk
  · subst hk
    cases hca with
    | held hl =>
      rw [slot, hl]
      split_ifs
      · exact .wait _
      · exact .mismatch _ (nomatch ·)
    | done hl _ =>
      obtain ⟨f, hla, -, -⟩ := he.completed _ _ _ _ _ hl
      have hla' : w.latest key = some f := hla
      rw [slot, hl, hla', hla]
      split_ifs
      · exact .replay f.id _
      · exact .mismatch _ (nomatch ·)
    | busy hl =>
      rw [slot, hl]
      exact .busy
    | fresh _ _ hl =>
      rw [slot, hl, AList.lookup_insert]
      exact .execute _
  · cases hca with
    | held _ | done _ _ | busy _ => rfl
    | fresh _ _ _ =>
      rw [slot, AList.lookup_insert_ne hk, latest, List.find?_cons_of_neg (by simpa using Ne.symm hk)]
      rfl

/-- **The store refines the slot of every key**: a claim of it, and no other step, is answered by the
slot that settling and letting go have left. -/
theorem slot_step (h : (machine ret).Reachable w) {e : Event K F} (hs : Step ret w e w') (key : K) :
    ∃ s, ReflTransGen Moves (w.slot key) s ∧
      (∀ fp bs, e = .claim key fp bs → s.Answers (w.claim ret key fp bs).2 (w'.slot key)) ∧
      ((∀ fp bs, e ≠ .claim key fp bs) → w'.slot key = s) := by
  have h := reachable_inv h
  cases hs with
  | tick d => exact ⟨_, .refl, by rintro _ _ ⟨⟩, fun _ => rfl⟩
  | claim own fp bs =>
    obtain ⟨s, hm, ha⟩ := slot_claim ret h key own fp bs
    split_ifs at ha with hk
    · subst hk
      refine ⟨s, hm, ?_, fun hn => absurd rfl (hn fp bs)⟩
      rintro _ _ ⟨⟩
      exact ha
    · exact ⟨s, hm, fun _ _ he => absurd (Event.claim.inj he).1.symm hk, fun _ => ha⟩
  | settle f oc hf hr => exact ⟨_, slot_settle h hf hr oc key, by rintro _ _ ⟨⟩, fun _ => rfl⟩
  | drop f hf hr => exact ⟨_, slot_settle h hf hr .abandoned key, by rintro _ _ ⟨⟩, fun _ => rfl⟩
  | publish f oc sa hf hre =>
    refine ⟨_, moves_of_loses (.inl rfl), by rintro _ _ ⟨⟩, fun _ => ?_⟩
    unfold slot
    rw [latest_setStage_id]
    rfl

/-- The first claim of a key, and a claim of another key. -/
theorem slot_step_first : let w : World Nat Nat := new
    (∃ s, ReflTransGen Moves (w.slot 7) s ∧
      s.Answers (w.claim .default 7 1 10).2 ((w.claim .default 7 1 10).1.slot 7)) ∧
      ∃ s, ReflTransGen Moves (w.slot 8) s ∧ (w.claim .default 7 1 10).1.slot 8 = s := by
  have hs : Step .default (new : World Nat Nat) (.claim 7 1 10) (World.claim .default new 7 1 10).1 :=
    .claim new 7 1 10
  obtain ⟨s, hm, ha, -⟩ := slot_step (.init rfl) hs 7
  obtain ⟨s', hm', -, hn⟩ := slot_step (.init rfl) hs 8
  exact ⟨⟨s, hm, ha 1 10 rfl⟩, s', hm', hn fun _ _ he => by cases he⟩

end World

end Hypercolor.Idempotency
