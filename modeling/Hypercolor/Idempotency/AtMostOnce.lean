import Hypercolor.Idempotency.Queue

/-!
# A keyed request executes at most once

The handles of the world and the entries of the store tell one story (`Inv`): a running handle is
exactly an in-flight entry, and a completed entry is the record of the newest handle of its key.

**Theorem** (`claims_at_most_once`): in every reachable state, under any interleaving of claims,
settlements, drops and channel sends and a clock that never goes back,

* two running handles have different keys;
* a claim is answered `Execute` only when every earlier handle of the key has settled and its
  record is gone from the store or has expired;
* until then a claim with the fingerprint of the newest handle waits on that handle or replays
  exactly what it settled, a claim with another fingerprint is a mismatch;
* a duplicate waiting on a handle receives nothing or exactly what the handle settled, and no
  later step changes what a handle settled.
-/

set_option linter.unusedSectionVars false

namespace Hypercolor.Idempotency

open StoreInner List AList World

namespace World

variable {K F : Type} [DecidableEq K] [DecidableEq F]

/-! ## The invariant -/

/-- Handles and entries agree. -/
structure Inv (w : World K F) : Prop where
  queue : w.store.Queue w.now
  ids_lt : ∀ f ∈ w.flights, f.id < w.flights.length
  ids_nodup : (w.flights.map Flight.id).Nodup
  running : ∀ f ∈ w.flights, f.stage = .running →
    w.store.entries.lookup f.key = some (.inFlight f.fingerprint f.id)
  inFlight : ∀ k fp id, w.store.entries.lookup k = some (.inFlight fp id) →
    ∃ f, w.latest k = some f ∧ f.id = id ∧ f.fingerprint = fp ∧ f.stage = .running
  completed : ∀ k fp o q t, w.store.entries.lookup k = some (.completed fp o q t) →
    ∃ f, w.latest k = some f ∧ f.fingerprint = fp ∧ f.stage.settled? = some (o, t)

lemma Inv.new : (new : World K F).Inv where
  queue := Queue.default
  ids_lt := by simp [World.new]
  ids_nodup := nodup_nil
  running := by simp [World.new]
  inFlight := by simp [World.new, StoreInner.default]
  completed := by simp [World.new, StoreInner.default]

variable {w w' : World K F} {k : K} {f g : Flight K F}

lemma latest_mem (h : w.latest k = some f) : f ∈ w.flights ∧ f.key = k := by
  refine ⟨mem_of_find?_eq_some h, ?_⟩
  have := find?_some h
  simpa using this

/-- Equal identities are equal handles. -/
lemma Inv.eq_of_id (h : w.Inv) (hf : f ∈ w.flights) (hg : g ∈ w.flights) (hi : f.id = g.id) : f = g :=
  inj_on_of_nodup_map h.ids_nodup hf hg hi

/-- **At most one running handle per key.** -/
theorem Inv.running_unique (h : w.Inv) (hf : f ∈ w.flights) (hg : g ∈ w.flights)
    (hfr : f.stage = .running) (hgr : g.stage = .running) (hk : f.key = g.key) : f = g := by
  have h₁ := h.running f hf hfr
  have h₂ := h.running g hg hgr
  rw [hk, h₂] at h₁
  obtain ⟨-, hi⟩ : g.fingerprint = f.fingerprint ∧ g.id = f.id := by simpa using h₁
  exact h.eq_of_id hf hg hi.symm

/-! ## Steps keep it -/

/-- Losing completed entries keeps the invariant. -/
lemma Inv.of_store (h : w.Inv) {st : StoreInner K F} (hq : st.Queue w.now)
    (hl : ∀ k, st.entries.lookup k = w.store.entries.lookup k ∨ (st.entries.lookup k =
      none ∧ ∃ fp o q t, w.store.entries.lookup k = some (.completed fp o q t))) :
    ({ w with store := st } : World K F).Inv where
  queue := hq
  ids_lt := h.ids_lt
  ids_nodup := h.ids_nodup
  running := by
    intro f hf hr
    have hold := h.running f hf hr
    rcases hl f.key with he | ⟨-, fp, o, q, t, ha⟩
    · exact he.trans hold
    · rw [hold] at ha
      cases ha
  inFlight := by
    intro k fp id hk
    rcases hl k with he | ⟨hn, -⟩
    · exact h.inFlight k fp id (he.symm.trans hk)
    · rw [hn] at hk
      cases hk
  completed := by
    intro k fp o q t hk
    rcases hl k with he | ⟨hn, -⟩
    · exact h.completed k fp o q t (he.symm.trans hk)
    · rw [hn] at hk
      cases hk

/-- Expiry loses completed entries only. -/
lemma expire_loses {now age : Nat} {s : StoreInner K F} (h : s.Queue now) (k : K) :
    (s.expire now age).entries.lookup k = s.entries.lookup k ∨
        ((s.expire now age).entries.lookup k = none ∧
        ∃ fp o q t, s.entries.lookup k = some (.completed fp o q t)) := by
  have hl := (expire_spec now age s h).2 k
  rcases hk : s.entries.lookup k with _ | ⟨fp, id⟩ | ⟨fp, o, q, t⟩
  iterate 2 exact .inl (by rw [hl, hk]; rfl)
  · rw [hk] at hl
    simp only [unexpired] at hl
    by_cases ha : now - t < age
    · exact .inl (by rw [hl, if_pos ha])
    · exact .inr ⟨by rw [hl, if_neg ha], fp, o, q, t, rfl⟩

/-- The five ways a claim can go, by what expiry leaves under the key. -/
inductive ClaimCase (retention : Retention) (w : World K F) (key : K) (fingerprint : F) :
    World K F × Claim → Prop where
  | held {fp : F} {id : FlightId}
      (hlook : (w.store.expire w.now retention.age).entries.lookup key = some (.inFlight fp id)) :
      ClaimCase retention w key fingerprint
        ({ w with store := w.store.expire w.now retention.age },
          if fp = fingerprint then .wait id else .mismatch)
  | done {fp : F} {o : Outcome} {q t : Nat}
      (hlook : (w.store.expire w.now retention.age).entries.lookup key =
        some (.completed fp o q t))
      (hage : w.now - t < retention.age) :
      ClaimCase retention w key fingerprint
        ({ w with store := w.store.expire w.now retention.age },
          if fp = fingerprint then .replay o else .mismatch)
  | busy (hlook : (w.store.expire w.now retention.age).entries.lookup key = none) :
      ClaimCase retention w key fingerprint
        ({ w with store := w.store.expire w.now retention.age }, .busy)
  | fresh (requestBytes pendingBytes : Nat)
      (hlook : (w.store.expire w.now retention.age).entries.lookup key = none) :
      ClaimCase retention w key fingerprint
        ({ w with
            store := { w.store.expire w.now retention.age with
              pendingCount := (w.store.expire w.now retention.age).pendingCount + 1
              pendingBytes := pendingBytes
              entries := (w.store.expire w.now retention.age).entries.insert key
                (.inFlight fingerprint w.flights.length) }
            flights := ⟨w.flights.length, key, fingerprint, requestBytes, .running⟩ :: w.flights },
          .execute w.flights.length)

section

variable (ret : Retention) (h : w.Inv) (key : K) (fingerprint : F) (req : Nat)
include h

lemma claim_cases : ClaimCase ret w key fingerprint (w.claim ret key fingerprint req) := by
  have hl := (expire_spec w.now ret.age w.store h.queue).2 key
  unfold claim StoreInner.claim
  rcases hk : (w.store.expire w.now ret.age).entries.lookup key with
    _ | ⟨fp, id⟩ | ⟨fp, o, q, t⟩
  · simp only [hk, claimFree]
    split_ifs
    · exact .busy hk
    · exact .fresh _ _ hk
  · simp only [hk]
    have hh : ClaimCase ret w key fingerprint _ := .held hk
    split_ifs with hf
    · rwa [if_pos hf] at hh
    · rwa [if_neg hf] at hh
  · -- an entry that survived expiry is not expired
    have ha : w.now - t < ret.age := by
      rw [hk] at hl
      rcases hw : w.store.entries.lookup key with _ | ⟨fp', id'⟩ | ⟨fp', o', q', t'⟩
      · rw [hw] at hl
        cases hl
      · rw [hw] at hl
        cases hl
      · rw [hw] at hl
        simp only [unexpired] at hl
        split_ifs at hl with ha
        · cases hl
          exact ha
    simp only [hk, if_pos ha]
    have hd : ClaimCase ret w key fingerprint _ := .done hk ha
    split_ifs with hf
    · rwa [if_pos hf] at hd
    · rwa [if_neg hf] at hd

/-- A claim moves no clock and drops no handle. -/
lemma claim_frame : (w.claim ret key fingerprint req).1.now = w.now ∧
      ∀ f ∈ w.flights, f ∈ (w.claim ret key fingerprint req).1.flights := by
  generalize hc : w.claim ret key fingerprint req = c
  have hca := claim_cases ret h key fingerprint req
  rw [hc] at hca
  cases hca with
  | held _ | done _ _ | busy _ => exact ⟨rfl, fun f hf => hf⟩
  | fresh _ _ _ => exact ⟨rfl, fun f hf => mem_cons_of_mem _ hf⟩

/-- A claim keeps the invariant. -/
lemma Inv.claim : (w.claim ret key fingerprint req).1.Inv := by
  have he := h.of_store (expire_spec w.now ret.age w.store h.queue).1 (expire_loses h.queue)
  have hq := (expire_spec w.now ret.age w.store h.queue).1
  generalize hc : w.claim ret key fingerprint req = c
  have hca := claim_cases ret h key fingerprint req
  rw [hc] at hca
  cases hca with
  | held _ | done _ _ | busy _ => exact he
  | fresh req pendingBytes hl =>
      -- a handle of the key that still runs would be an entry
      have hoh : ∀ f ∈ w.flights, f.stage = .running → f.key ≠ key := by
        rintro f hf hr rfl
        have := he.running f hf hr
        rw [hl] at this
        cases this
      have hla : ∀ k, k ≠ key → ∀ f, w.latest k = some f → find? (fun f : Flight K F => f.key == k)
            (⟨w.flights.length, key, fingerprint, req, .running⟩ :: w.flights) =
              some f := by
        intro k hk f hf
        rw [find?_cons_of_neg (by simpa using Ne.symm hk)]
        exact hf
      refine ⟨?_, ?_, ?_, ?_, ?_, ?_⟩
      · exact hq.insert_inFlight hl rfl rfl
      · intro f hf
        rcases mem_cons.mp hf with rfl | hf
        · simp
        · simpa using Nat.lt_succ_of_lt (h.ids_lt f hf)
      · rw [map_cons, nodup_cons]
        refine ⟨?_, h.ids_nodup⟩
        intro hm
        obtain ⟨f, hf, hi⟩ := mem_map.mp hm
        have hlt := h.ids_lt f hf
        rw [hi] at hlt
        exact lt_irrefl _ hlt
      · intro f hf hr
        rcases mem_cons.mp hf with rfl | hf
        · exact lookup_insert _
        · rw [lookup_insert_ne (hoh f hf hr)]
          exact he.running f hf hr
      · intro k fp id hk
        by_cases hn : k = key
        · subst hn
          rw [lookup_insert] at hk
          cases hk
          exact ⟨_, find?_cons_of_pos (by simp), rfl, rfl, rfl⟩
        · rw [lookup_insert_ne hn] at hk
          obtain ⟨f, hf, hre⟩ := he.inFlight k fp id hk
          exact ⟨f, hla k hn f hf, hre⟩
      · intro k fp o q t hk
        by_cases hn : k = key
        · subst hn
          rw [lookup_insert] at hk
          cases hk
        · rw [lookup_insert_ne hn] at hk
          obtain ⟨f, hf, hre⟩ := he.completed k fp o q t hk
          exact ⟨f, hla k hn f hf, hre⟩

end

/-- Moving a handle to another stage, seen through `latest`. -/
lemma latest_setStage (w : World K F) (id : FlightId) (stage : Stage) (k : K) :
    (w.setStage id stage).latest k =
      (w.latest k).map fun f => if f.id = id then { f with stage := stage } else f := by
  have hk : ((fun f : Flight K F => f.key == k) ∘
      fun f => if f.id = id then { f with stage := stage } else f) = fun f => f.key == k := by
    funext f
    simp only [Function.comp]
    split <;> rfl
  rw [latest, setStage, find?_map, hk]
  rfl

variable {id : FlightId} {stage : Stage}

lemma mem_setStage (h : f ∈ (w.setStage id stage).flights) :
    (f ∈ w.flights ∧ f.id ≠ id) ∨ ∃ g ∈ w.flights, g.id = id ∧ f = { g with stage := stage } := by
  obtain ⟨g, hg, he⟩ := mem_map.mp h
  by_cases hi : g.id = id
  · rw [if_pos hi] at he
    exact .inr ⟨g, hg, hi, he.symm⟩
  · rw [if_neg hi] at he
    subst he
    exact .inl ⟨hg, hi⟩

lemma setStage_ids (w : World K F) (id : FlightId) (stage : Stage) :
    (w.setStage id stage).flights.map Flight.id = w.flights.map Flight.id := by
  rw [setStage, map_map]
  congr 1
  funext f
  simp only [Function.comp]
  split <;> rfl

/-- The parts of the invariant about identities survive a change of stage. -/
lemma Inv.setStage_ids_lt (h : w.Inv) (id : FlightId) (stage : Stage) :
    ∀ f ∈ (w.setStage id stage).flights, f.id < (w.setStage id stage).flights.length := by
  intro f hf
  have hm : f.id ∈ w.flights.map Flight.id := by
    rw [← setStage_ids w id stage]
    exact mem_map.mpr ⟨f, hf, rfl⟩
  obtain ⟨g, hg, hi⟩ := mem_map.mp hm
  rw [← hi, setStage, length_map]
  exact h.ids_lt g hg

/-- A settlement keeps the invariant. -/
lemma Inv.settle (ret : Retention) (h : w.Inv) (hf : f ∈ w.flights)
    (hru : f.stage = .running) (oc : Outcome) : (w.settle ret f oc).Inv := by
  have he := h.running f hf hru
  obtain ⟨hq, hke, hr⟩ := settle_spec ret h.queue he f.fingerprint f.requestBytes oc
  obtain ⟨g, hg, hgi, -, -⟩ := h.inFlight _ _ _ he
  obtain rfl : g = f := h.eq_of_id (latest_mem hg).1 hf hgi
  -- a handle with another key is another handle
  have hi : ∀ {k : K} {g' : Flight K F}, k ≠ g.key → w.latest k = some g' → g'.id ≠ g.id := by
    intro k g' hk hg' hid
    have := h.eq_of_id (latest_mem hg').1 hf hid
    exact hk ((latest_mem hg').2.symm.trans (congrArg Flight.key this))
  refine ⟨hq, ?_, ?_, ?_, ?_, ?_⟩
  · exact h.setStage_ids_lt g.id _
  · show (map Flight.id (w.setStage g.id (.recorded oc w.now)).flights).Nodup
    rw [setStage_ids]
    exact h.ids_nodup
  · intro f' hf' hru'
    rcases mem_setStage (w := w) hf' with ⟨hm, hid⟩ | ⟨g', -, -, rfl⟩
    · have hold := h.running f' hm hru'
      have hn : f'.key ≠ g.key := fun heq =>
        hid (congrArg Flight.id (h.running_unique hm hf hru' hru heq))
      rcases hr f'.key hn with heq | ⟨-, fp, o, q, t, ha⟩
      · exact heq.trans hold
      · rw [hold] at ha
        cases ha
    · cases hru'
  · intro k fp id hk
    have hn : k ≠ g.key := by
      rintro rfl
      rcases hke with heq | heq
      all_goals exact absurd (heq.symm.trans hk) (by simp)
    rcases hr k hn with heq | ⟨heq, -⟩
    · obtain ⟨g', hg', hr'⟩ := h.inFlight k fp id (heq.symm.trans hk)
      refine ⟨g', ?_, hr'⟩
      show (w.setStage g.id (.recorded oc w.now)).latest k = some g'
      rw [latest_setStage, hg']
      simp [hi hn hg']
    · exact absurd (heq.symm.trans hk) (by simp)
  · intro k fp o q t hk
    by_cases hn : k = g.key
    · subst hn
      refine ⟨{ g with stage := .recorded oc w.now }, ?_, ?_⟩
      · show (w.setStage g.id (.recorded oc w.now)).latest g.key = _
        rw [latest_setStage, hg]
        simp
      · rcases hke with heq | heq
        · exact absurd (heq.symm.trans hk) (by simp)
        · obtain ⟨rfl, rfl, -, rfl⟩ : g.fingerprint = fp ∧ oc = o ∧ _ ∧ w.now = t := by
            simpa using heq.symm.trans hk
          exact ⟨rfl, rfl⟩
    · rcases hr k hn with heq | ⟨heq, -⟩
      · obtain ⟨g', hg', hr'⟩ := h.completed k fp o q t (heq.symm.trans hk)
        refine ⟨g', ?_, hr'⟩
        show (w.setStage g.id (.recorded oc w.now)).latest k = some g'
        rw [latest_setStage, hg']
        simp [hi hn hg']
      · exact absurd (heq.symm.trans hk) (by simp)

/-- A send to a channel keeps the invariant. -/
lemma Inv.publish (h : w.Inv) (hf : f ∈ w.flights) {oc : Outcome} {sa : Nat}
    (hre : f.stage = .recorded oc sa) : (w.setStage f.id (.published oc sa)).Inv := by
  refine ⟨h.queue, h.setStage_ids_lt f.id _, ?_, ?_, ?_, ?_⟩
  · rw [setStage_ids]
    exact h.ids_nodup
  · intro f' hf' hr'
    rcases mem_setStage hf' with ⟨hm, -⟩ | ⟨g, -, -, rfl⟩
    · exact h.running f' hm hr'
    · cases hr'
  · intro k fp id hk
    obtain ⟨g, hg, hgi, hfp, hr⟩ := h.inFlight k fp id hk
    have hn : g.id ≠ f.id := by
      intro hi
      have he := h.eq_of_id (latest_mem hg).1 hf hi
      rw [he, hre] at hr
      cases hr
    refine ⟨g, ?_, hgi, hfp, hr⟩
    rw [latest_setStage, hg]
    simp [hn]
  · intro k fp o q t hk
    obtain ⟨g, hg, hfp, hs⟩ := h.completed k fp o q t hk
    by_cases hi : g.id = f.id
    · have he := h.eq_of_id (latest_mem hg).1 hf hi
      refine ⟨{ g with stage := .published oc sa }, ?_, hfp, ?_⟩
      · rw [latest_setStage, hg]
        simp [hi]
      · rw [he, hre] at hs
        exact hs
    · refine ⟨g, ?_, hfp, hs⟩
      rw [latest_setStage, hg]
      simp [hi]

variable {ret : Retention}

/-- **The invariant holds in every reachable state.** -/
theorem reachable_inv (h : (machine ret).Reachable w) : w.Inv := by
  refine h.invariant ?_ ?_
  · rintro w rfl
    exact Inv.new
  · rintro w e w' hw hs
    cases hs with
    | tick d => exact ⟨hw.queue.mono (Nat.le_add_right _ _), hw.ids_lt, hw.ids_nodup, hw.running,
        hw.inFlight, hw.completed⟩
    | claim key fingerprint req => exact hw.claim ret key fingerprint req
    | settle f oc hf hr => exact hw.settle ret hf hr oc
    | drop f hf hr => exact hw.settle ret hf hr .abandoned
    | publish f oc sa hf hre => exact hw.publish hf hre

/-! ## What claims are answered -/

/-- The record of handle `f` is in the store and has not expired. -/
def Live (retention : Retention) (w : World K F) (f : Flight K F) : Prop :=
  ∃ o t q, f.stage.settled? = some (o, t) ∧
    w.store.entries.lookup f.key = some (.completed f.fingerprint o q t) ∧
    w.now - t < retention.age

/-- What expiry finds under a key, in terms of the handles. -/
lemma Inv.expired_lookup (h : w.Inv) (age : Nat) (k : K) :
    ((w.store.expire w.now age).entries.lookup k = none ∧
        ∀ fp id, w.store.entries.lookup k ≠ some (.inFlight fp id)) ∨
      (∃ fp id, (w.store.expire w.now age).entries.lookup k = some (.inFlight fp id) ∧
        w.store.entries.lookup k = some (.inFlight fp id)) ∨
      (∃ fp o q t, (w.store.expire w.now age).entries.lookup k = some (.completed fp o q t) ∧
        w.store.entries.lookup k = some (.completed fp o q t) ∧ w.now - t < age) := by
  have hl := (expire_spec w.now age w.store h.queue).2 k
  rcases hk : w.store.entries.lookup k with _ | ⟨fp, id⟩ | ⟨fp, o, q, t⟩
  · rw [hk] at hl
    exact .inl ⟨hl, by simp⟩
  · rw [hk] at hl
    exact .inr (.inl ⟨fp, id, hl, rfl⟩)
  · rw [hk] at hl
    simp only [unexpired] at hl
    split_ifs at hl with ha
    · exact .inr (.inr ⟨fp, o, q, t, hl, rfl, ha⟩)
    · exact .inl ⟨hl, by simp⟩

/-- An `Execute` answer needs every earlier handle of the key settled and its record gone. -/
lemma Inv.execute_only_after (h : w.Inv) {key : K} {fingerprint : F} {req : Nat}
    (han : (w.claim ret key fingerprint req).2 = .execute id) (hf : f ∈ w.flights)
    (hk : f.key = key) : (f.stage.settled?).isSome ∧ ¬ w.Live ret f := by
  have hn : (w.store.expire w.now ret.age).entries.lookup key = none := by
    generalize hc : w.claim ret key fingerprint req = c at han
    have hca := claim_cases ret h key fingerprint req
    rw [hc] at hca
    cases hca with
    | held _ | done _ _ => split_ifs at han
    | busy _ => cases han
    | fresh _ _ hl => exact hl
  subst hk
  rcases h.expired_lookup ret.age f.key with ⟨-, hne⟩ | ⟨_, _, ha, -⟩ | ⟨_, _, _, _, ha, -⟩
  · constructor
    · cases hs : f.stage with
      | running => exact absurd (h.running f hf hs) (hne _ _)
      | recorded o t | published o t => rfl
    · rintro ⟨o, t, q, -, hl, hag⟩
      have he := (expire_spec w.now ret.age w.store h.queue).2 f.key
      rw [hn, hl] at he
      simp only [unexpired, if_pos hag] at he
      cases he
  · rw [hn] at ha
    cases ha
  · rw [hn] at ha
    cases ha

/-- While a handle runs or its record is live, the key is answered for. -/
lemma Inv.answer_while_held (h : w.Inv) (hf : f ∈ w.flights) (fingerprint : F) (req : Nat) :
    (f.stage = .running → (w.claim ret f.key fingerprint req).2 =
        if f.fingerprint = fingerprint then .wait f.id else .mismatch) ∧
    (w.Live ret f → ∀ o t, f.stage.settled? = some (o, t) → (w.claim ret f.key fingerprint req).2 =
        if f.fingerprint = fingerprint then .replay o else .mismatch) := by
  have he := (expire_spec w.now ret.age w.store h.queue).2 f.key
  generalize hc : w.claim ret f.key fingerprint req = c
  have hca := claim_cases ret h f.key fingerprint req
  rw [hc] at hca
  constructor
  · intro hr
    rw [h.running f hf hr] at he
    cases hca with
    | held hl =>
        rw [he] at hl
        cases hl
        rfl
    | done hl _ | busy hl | fresh _ _ hl => rw [he] at hl; cases hl
  · rintro ⟨o', t', q, hs', hl', ha⟩ o t hs
    obtain ⟨rfl, rfl⟩ : o' = o ∧ t' = t := by simpa using hs'.symm.trans hs
    rw [hl'] at he
    simp only [unexpired, if_pos ha] at he
    cases hca with
    | held hl | busy hl | fresh _ _ hl => rw [he] at hl; cases hl
    | done hl _ =>
        rw [he] at hl
        cases hl
        rfl

/-! ## What happens to a record -/

/-- The record of handle `f`, settled with `o` at `t`, is in the store. -/
def Held (w : World K F) (f : Flight K F) (o : Outcome) (t : Nat) : Prop :=
  f.stage.settled? = some (o, t) ∧ ∃ q,
    w.store.entries.lookup f.key = some (.completed f.fingerprint o q t)

/-- The store a settlement of `g` has before it is shrunk to its bounds. -/
def unshrunk (retention : Retention) (w : World K F) (g : Flight K F) (outcome : Outcome) :
    StoreInner K F :=
  (w.store.record w.now g.key g.fingerprint g.requestBytes outcome).expire w.now retention.age

variable {o : Outcome} {t : Nat}

/-- Entries of other keys lost in a settlement had expired or were evicted by a full store. -/
lemma Inv.settle_loses (ret : Retention) (h : w.Inv) (hg : g ∈ w.flights)
    (hru : g.stage = .running) (oc : Outcome) (hk : k ≠ g.key) {fp : F} {q : Nat}
    (hl : w.store.entries.lookup k = some (.completed fp o q t)) :
    (w.settle ret g oc).store.entries.lookup k = some (.completed fp o q t) ∨
      ret.age ≤ w.now - t ∨ (w.unshrunk ret g oc).OverBounds ret := by
  by_cases hov : (w.unshrunk ret g oc).OverBounds ret
  · exact .inr (.inr hov)
  · have he := (expire_spec w.now ret.age _ (record_queue h.queue (h.running g hg hru)
      g.fingerprint g.requestBytes oc)).2 k
    have hr : (w.store.record w.now g.key g.fingerprint g.requestBytes oc).entries.lookup k =
        w.store.entries.lookup k := lookup_insert_ne hk
    rw [hr, hl] at he
    simp only [unexpired] at he
    split_ifs at he with ha
    · refine .inl ?_
      show ((w.unshrunk ret g oc).shrinkTo ret).entries.lookup k = _
      rw [shrinkTo_of_within hov]
      exact he
    · exact .inr (.inl (by omega))

/-- A step that is a settlement of `g` with `outcome`. -/
def Settles (e : Event K F) (g : Flight K F) (outcome : Outcome) : Prop :=
  e = .settle g.id outcome ∨ (e = .drop g.id ∧ outcome = .abandoned)

/-- A settlement keeps the record of any other handle, unless it expired or is evicted. -/
lemma Inv.held_settle (ret : Retention) (h : w.Inv) (hg : g ∈ w.flights)
    (hr : g.stage = .running) (oc : Outcome) (hf : f ∈ w.flights) (hh : w.Held f o t) :
    (∃ f' ∈ (w.settle ret g oc).flights, f'.id = f.id ∧ (w.settle ret g oc).Held f' o t) ∨
      ret.age ≤ w.now - t ∨ (w.unshrunk ret g oc).OverBounds ret := by
  obtain ⟨hse, q, hl⟩ := hh
  have hk : f.key ≠ g.key := by
    intro he
    have := h.running g hg hr
    rw [← he, hl] at this
    cases this
  have hi : f.id ≠ g.id := fun he => hk (congrArg Flight.key (h.eq_of_id hf hg he))
  rcases h.settle_loses ret hg hr oc hk hl with hs | hlo
  · refine .inl ⟨f, ?_, rfl, hse, q, hs⟩
    exact mem_map.mpr ⟨f, hf, if_neg hi⟩
  · exact .inr hlo

variable {e : Event K F}

/-- **A record leaves the store only by expiry or eviction.** -/
theorem Inv.held_step (h : w.Inv) (hst : Step ret w e w') (hf : f ∈ w.flights) (hh : w.Held f o t) :
    (∃ f' ∈ w'.flights, f'.id = f.id ∧ w'.Held f' o t) ∨ ret.age ≤ w'.now - t ∨
      ∃ g oc, g ∈ w.flights ∧ Settles e g oc ∧ (w.unshrunk ret g oc).OverBounds ret := by
  cases hst with
  | tick d => exact .inl ⟨f, hf, rfl, hh⟩
  | claim key fingerprint req =>
      obtain ⟨hs, q, hl⟩ := hh
      have he := (expire_spec w.now ret.age w.store h.queue).2 f.key
      rw [hl] at he
      simp only [unexpired] at he
      split_ifs at he with ha
      · generalize hc : w.claim ret key fingerprint req = c
        have hca := claim_cases ret h key fingerprint req
        rw [hc] at hca
        cases hca with
        | held _ | done _ _ | busy _ => exact .inl ⟨f, hf, rfl, hs, q, he⟩
        | fresh _ _ hfr =>
            have hne : f.key ≠ key := by
              rintro rfl
              rw [he] at hfr
              cases hfr
            exact .inl ⟨f, mem_cons_of_mem _ hf, rfl, hs, q, (lookup_insert_ne hne).trans he⟩
      · have hn := (claim_frame ret h key fingerprint req).1
        exact .inr (.inl (by omega))
  | settle g oc hg hr =>
      rcases h.held_settle ret hg hr oc hf hh with hk | hk | hk
      · exact .inl hk
      · exact .inr (.inl hk)
      · exact .inr (.inr ⟨g, oc, hg, .inl rfl, hk⟩)
  | drop g hg hr =>
      rcases h.held_settle ret hg hr .abandoned hf hh with hk | hk | hk
      · exact .inl hk
      · exact .inr (.inl hk)
      · exact .inr (.inr ⟨g, .abandoned, hg, .inr ⟨rfl, rfl⟩, hk⟩)
  | publish g oc sa hg hre =>
      obtain ⟨hs, q, hl⟩ := hh
      refine .inl ?_
      by_cases hi : f.id = g.id
      · obtain rfl : f = g := h.eq_of_id hf hg hi
        rw [hre] at hs
        exact ⟨_, mem_map.mpr ⟨f, hf, if_pos rfl⟩, rfl, hs, q, hl⟩
      · exact ⟨f, mem_map.mpr ⟨f, hf, if_neg hi⟩, rfl, hs, q, hl⟩

/-- What was just settled is held, unless records expire at once or the store is over full. -/
lemma Inv.held_of_settle (ret : Retention) (h : w.Inv) (hg : g ∈ w.flights)
    (hr : g.stage = .running) (oc : Outcome) :
    (∃ g' ∈ (w.settle ret g oc).flights, g'.id = g.id ∧ (w.settle ret g oc).Held g' oc w.now) ∨
      ret.age = 0 ∨ (w.unshrunk ret g oc).OverBounds ret := by
  by_cases hov : (w.unshrunk ret g oc).OverBounds ret
  · exact .inr (.inr hov)
  · have he := (expire_spec w.now ret.age _ (record_queue h.queue (h.running g hg hr)
      g.fingerprint g.requestBytes oc)).2 g.key
    rw [record, lookup_insert] at he
    simp only [unexpired] at he
    split_ifs at he with ha
    · refine .inl ⟨_, mem_map.mpr ⟨g, hg, if_pos rfl⟩, rfl, rfl, w.store.nextSequence, ?_⟩
      show ((w.unshrunk ret g oc).shrinkTo ret).entries.lookup g.key = _
      rw [shrinkTo_of_within hov]
      exact he
    · exact .inr (.inl (by omega))

/-- Later states still have every handle, with what it settled. -/
def Keeps (w w' : World K F) : Prop :=
  ∀ f ∈ w.flights, ∃ f' ∈ w'.flights, f'.id = f.id ∧ f'.key = f.key ∧ f'.fingerprint = f.fingerprint ∧
    ∀ x, f.stage.settled? = some x → f'.stage.settled? = some x

lemma Keeps.of_mem (h : ∀ f ∈ w.flights, f ∈ w'.flights) : w.Keeps w' :=
  fun f hf => ⟨f, h f hf, rfl, rfl, rfl, fun _ => id⟩

/-- Changing the stage of one handle keeps the others, and it if its outcome is the same. -/
lemma Inv.keeps_setStage (h : w.Inv) (hg : g ∈ w.flights)
    (hs : ∀ x, g.stage.settled? = some x → stage.settled? = some x) :
        w.Keeps (w.setStage g.id stage) := by
  intro f hf
  by_cases hi : f.id = g.id
  · obtain rfl : f = g := h.eq_of_id hf hg hi
    exact ⟨_, mem_map.mpr ⟨f, hf, if_pos rfl⟩, rfl, rfl, rfl, hs⟩
  · exact ⟨f, mem_map.mpr ⟨f, hf, if_neg hi⟩, rfl, rfl, rfl, fun _ => id⟩

lemma Inv.keeps_step (h : w.Inv) (hs : Step ret w e w') : w.Keeps w' := by
  have hn : ∀ {g : Flight K F}, g.stage = .running → ∀ stage : Stage, ∀ x,
      g.stage.settled? = some x → stage.settled? = some x := by
    intro g hr stage x hx
    rw [hr] at hx
    cases hx
  cases hs with
  | tick d => exact .of_mem fun f hf => hf
  | claim key fingerprint req =>
      exact .of_mem (claim_frame ret h key fingerprint req).2
  | settle g oc hg hr | drop g hg hr => exact h.keeps_setStage hg (hn hr _)
  | publish g oc sa hg hre =>
      refine h.keeps_setStage hg fun x hx => ?_
      rw [hre] at hx
      exact hx

/-- **No later step changes what a handle settled.** -/
theorem keeps_run {es : List (Event K F)} (h : (machine ret).Reachable w)
    (hr : (machine ret).Run w es w') : w.Keeps w' := by
  refine Lib.Machine.Run.relation ?_ ?_ ?_ h hr
  · exact fun w => .of_mem fun f hf => hf
  · intro w₁ w₂ w₃ h₁ h₂ f hf
    obtain ⟨f₂, hf₂, hid₂, hkey₂, hfp₂, hset₂⟩ := h₁ f hf
    obtain ⟨f₃, hf₃, hid₃, hkey₃, hfp₃, hset₃⟩ := h₂ f₂ hf₂
    exact ⟨f₃, hf₃, hid₃.trans hid₂, hkey₃.trans hkey₂, hfp₃.trans hfp₂,
      fun x hx => hset₃ x (hset₂ x hx)⟩
  · exact fun w₁ e w₂ hw hs => (reachable_inv hw).keeps_step hs

/-- A channel carries what its handle settled. -/
lemma Inv.receive_settled (h : w.Inv) (hf : f ∈ w.flights) (hr : w.receive f.id = some o) :
    ∃ t, f.stage.settled? = some (o, t) := by
  unfold receive at hr
  split at hr
  · rename_i id key fp bs oc sa hfi
    cases hr
    have hm := mem_of_find?_eq_some hfi
    have hi := find?_some hfi
    have he := h.eq_of_id hm hf (by simpa using hi)
    rw [← he]
    exact ⟨sa, rfl⟩
  · cases hr

end World

/-! ## The result -/

section result

variable {K F : Type} [DecidableEq K] [DecidableEq F]

/-- **At most once.** In every reachable state of one store, for every retention:
two running handles have different keys; `Execute` is answered only when every earlier handle of
the key settled and its record is no longer live; until then a claim is answered from the handle
that holds the key; a record stops being held only by expiry or by the eviction of a store over
its bounds; and a waiting duplicate receives exactly what the handle settled, for good. -/
theorem claims_at_most_once (retention : Retention) (w : World K F)
    (hw : (machine retention).Reachable w) :
    (∀ f ∈ w.flights, ∀ g ∈ w.flights, f.stage = .running → g.stage = .running → f.key = g.key → f = g) ∧
    (∀ key fingerprint requestBytes id, (w.claim retention key fingerprint requestBytes).2 = .execute id →
      ∀ f ∈ w.flights, f.key = key → (f.stage.settled?).isSome ∧ ¬ w.Live retention f) ∧
    (∀ f ∈ w.flights, ∀ fingerprint requestBytes,
      (f.stage = .running → (w.claim retention f.key fingerprint requestBytes).2 =
        if f.fingerprint = fingerprint then .wait f.id else .mismatch) ∧
      (w.Live retention f → ∀ o t, f.stage.settled? = some (o, t) →
        (w.claim retention f.key fingerprint requestBytes).2 =
          if f.fingerprint = fingerprint then .replay o else .mismatch)) ∧
    (∀ e w', World.Step retention w e w' → ∀ f ∈ w.flights, ∀ o t, w.Held f o t →
      (∃ f' ∈ w'.flights, f'.id = f.id ∧ w'.Held f' o t) ∨ retention.age ≤ w'.now - t ∨
        ∃ g outcome, g ∈ w.flights ∧ World.Settles e g outcome ∧
          (w.unshrunk retention g outcome).OverBounds retention) ∧
    (∀ g ∈ w.flights, g.stage = .running → ∀ outcome,
      (∃ g' ∈ (w.settle retention g outcome).flights, g'.id = g.id ∧
          (w.settle retention g outcome).Held g' outcome w.now) ∨
        retention.age = 0 ∨ (w.unshrunk retention g outcome).OverBounds retention) ∧
    (∀ f ∈ w.flights, ∀ o, w.receive f.id = some o → ∃ t, f.stage.settled? = some (o, t)) ∧
    (∀ es w', (machine retention).Run w es w' → w.Keeps w') := by
  have h := reachable_inv hw
  refine ⟨?_, ?_, ?_, ?_, ?_, ?_, ?_⟩
  · intro f hf g hg hfr hgr hk
    exact h.running_unique hf hg hfr hgr hk
  · intro key fingerprint requestBytes id ha f hf hk
    exact h.execute_only_after ha hf hk
  · intro f hf fingerprint requestBytes
    exact h.answer_while_held hf fingerprint requestBytes
  · intro e w' hs f hf o t hh
    exact h.held_step hs hf hh
  · intro g hg hr outcome
    exact h.held_of_settle retention hg hr outcome
  · intro f hf o hre
    exact h.receive_settled hf hre
  · intro es w' hr
    exact keeps_run hw hr

end result

/-- A duplicate that arrives while its original runs waits for it; the same key on another
request does not. -/
theorem claims_at_most_once_duplicate : ∃ w : World Nat Nat,
    (World.machine Retention.default).Reachable w ∧
      w.flights = [⟨0, 7, 1, 10, .running⟩] ∧ (w.claim Retention.default 7 1 10).2 = .wait 0 ∧
      (w.claim Retention.default 7 2 10).2 = .mismatch := by
  have hw : (World.machine Retention.default).Reachable
      ((World.new : World Nat Nat).claim Retention.default 7 1 10).1 :=
    .step (.init rfl) (.claim World.new 7 1 10)
  have hf : ((World.new : World Nat Nat).claim Retention.default 7 1 10).1.flights =
      [⟨0, 7, 1, 10, .running⟩] := by
    simp [World.claim, StoreInner.claim, World.new, StoreInner.default, expire, claimFree,
      Retention.default, satAdd, usizeMax]
  have hl := (claims_at_most_once Retention.default _ hw).2.2.1 ⟨0, 7, 1, 10, .running⟩
    (by rw [hf]; exact mem_singleton.mpr rfl)
  exact ⟨_, hw, hf, (hl 1 10).1 rfl, (hl 2 10).1 rfl⟩

end Hypercolor.Idempotency
