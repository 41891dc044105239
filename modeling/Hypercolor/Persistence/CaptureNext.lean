import Hypercolor.Persistence.History

/-!
# What a requested capture keeps

**Result.** `capture_next_kept`: in every run in which no attempt that changed the content notes
its replacement with the flag set since it asked, a set flag is honoured: the first replacement by
other content whose attempt asked after the flag was set finds what it replaces in the history.

**What goes wrong.** `capture_next_lost`: `note_replacement` clears the flag whatever the attempt
decided, so a flag set between an attempt's `rotation_due` and its `note_replacement` is spent on a
replacement that was decided without it.

The argument is an invariant over the whole machine. A cleared flag means that every setting so far
was answered by a replacement (`Served`); an attempt that was told "not due" therefore owes nothing,
and one that was told "due" carries the content on the file and has it kept before it replaces.
Nobody else moves the file or the directory meanwhile, because one attempt runs at a time.
-/

namespace Hypercolor.Persistence.History

open List Option Function World.Step HistoryWorld.HistoryStep HistoryWorld

variable {D : Type} {digest : Payload → D} {pol : HistoryPolicy} {observer : Bool}
  {initial : Option Payload}

/-! ## What is claimed -/

variable (policy : HistoryPolicy)

/-- The replacement put other content in place of what the file held, or created the file. -/
def Replacement.changes (r : Replacement) : Bool :=
  match r.old with
  | some old => !policy.same old r.payload
  | none => true

/-- The newest generation of the directory holds `old`, or what the policy calls the same. -/
def Holds (newest : Option Generation) (old : Payload) : Prop :=
  ∃ g, newest = some g ∧ policy.same g.bytes old

/-- What the replacement retired was kept when it happened. -/
def Replacement.Kept (r : Replacement) : Prop :=
  ∀ old, r.old = some old → Holds policy r.newest old

/-- **Every flag setting is honoured.** For the `k`-th setting of the flag, the first replacement
by other content whose attempt asked after it kept what it retired. -/
def Honoured (log : List Replacement) : Prop :=
  ∀ k newer r older, log = newer ++ r :: older → 0 < k → k ≤ r.seen → r.changes policy →
    (∀ q ∈ older, q.changes policy → q.seen < k) → r.Kept policy

/-- An attempt that changes the content notes its replacement only while the flag was not set
since it asked. -/
def Punctual (e : Event) (h : HistoryWorld D) : Prop :=
  ∀ i a o, e = .note i → h.world.tasks i = .attempt a → h.passages i = .replaced o →
    o.previous.unchanged policy a.payload ∨ o.seen = h.sets

/-! ## The directory -/

lemma listGenerations_pairwise (dir : List Generation) :
    (listGenerations dir).Pairwise fun left right => left.id ≤ right.id := by
  exact pairwise_insertionSort _ dir

lemma orderedInsert_of_lt {new : Generation} {l : List Generation} (hl : ∀ g ∈ l, g.id < new.id) :
    l.orderedInsert (fun left right => left.id ≤ right.id) new = l ++ [new] := by
  induction l with
  | nil => rfl
  | cons g l ih =>
    have hg : ¬ new.id ≤ g.id := not_le.mpr (hl g mem_cons_self)
    rw [orderedInsert_cons, if_neg hg, ih fun x hx => hl x (mem_cons_of_mem _ hx)]
    rfl

/-- A generation with the largest identifier is listed last. -/
lemma listGenerations_cons {new : Generation} {dir : List Generation}
    (hn : ∀ g ∈ listGenerations dir, g.id < new.id) :
    listGenerations (new :: dir) = listGenerations dir ++ [new] := by
  exact orderedInsert_of_lt hn

/-- What is removed is the oldest, so the newest stays. -/
lemma getLast?_prune (dir : List Generation) {keep : Nat} (hk : 0 < keep) :
    (listGenerations (prune dir keep)).getLast? = (listGenerations dir).getLast? := by
  have hs : listGenerations (prune dir keep) = prune dir keep :=
    ((listGenerations_pairwise dir).drop).insertionSort_eq
  rw [hs, prune, getLast?_drop]
  by_cases he : (listGenerations dir).length = 0
  · rw [length_eq_zero_iff.mp he]
    simp
  · rw [if_neg (by omega)]

/-- **A rotation leaves the outgoing content newest**, as a new generation or as the one that was
newest already. -/
lemma holds_writeGeneration (pol : HistoryPolicy) (dir : List Generation)
    (previous : Payload) (taken : Nat) (hk : 0 < pol.generations) :
    Holds pol (listGenerations (writeGeneration pol dir previous taken).2).getLast? previous := by
  rw [writeGeneration]
  rcases hl : (listGenerations dir).getLast? with _ | newest
  · have he : listGenerations dir = [] := getLast?_eq_none_iff.mp hl
    simp only [any_none, map_none, getD_none]
    rw [if_neg (by decide), getLast?_prune _ hk, listGenerations_cons (by simp [he]), he]
    exact ⟨_, rfl, pol.same_self previous⟩
  · split_ifs with hs
    · exact ⟨newest, hl, hs⟩
    · have hn : ∀ g ∈ listGenerations dir, g.id < newest.id + 1 + taken := by
        intro g hg
        have hle := (listGenerations_pairwise dir).rel_getLast hg
        rw [getLast?_eq_some_getLast (ne_nil_of_mem hg), some.injEq] at hl
        rw [hl] at hle
        omega
      rw [getLast?_prune _ hk, listGenerations_cons hn, getLast?_append]
      exact ⟨_, rfl, pol.same_self previous⟩

/-! ## What a step of the coordinator does to the file -/

variable {w w' : World D} {i j sets now : Nat}

lemma others_of_step (h : World.Step digest w i w') (hj : j ≠ i) : w'.tasks j = w.tasks j := by
  cases h <;> exact update_of_ne hj _ _

/-- Only a rename changes the file, and it takes its attempt to the barrier. -/
lemma file_of_step (h : World.Step digest w i w') :
    w'.file.bytes = w.file.bytes ∨ HistoryWorld.Replacing w i ∧
      ∃ a : Attempt D, w'.tasks i = .attempt { a with stage := .barrier } := by
  cases h with
  | replaceOk a ht hs hd hg =>
    exact .inr ⟨⟨a, ht, .inl hs⟩, a, update_self _ _ _⟩
  | renameOk a ht hs => exact .inr ⟨⟨a, ht, .inr hs⟩, a, update_self _ _ _⟩
  | _ => exact .inl rfl

/-! ## The invariant -/

/-- Every setting of the flag up to the `k`-th was answered by a replacement. -/
def Served (policy : HistoryPolicy) (log : List Replacement) (k : Nat) : Prop :=
  k = 0 ∨ ∃ r ∈ log, r.changes policy ∧ k ≤ r.seen

variable {log log' : List Replacement}

lemma Served.mono (hl : log ⊆ log') {k : Nat} (h : Served pol log k) : Served pol log' k := by
  rcases h with hk | ⟨r, hr, hc, hk⟩
  · exact .inl hk
  · exact .inr ⟨r, hl hr, hc, hk⟩

/-- What a successful read of the file answers. -/
def readOf : Option Payload → PreviousContent
  | some bytes => .present bytes
  | none => .absent

/-- An attempt that is not due owes nothing, and a due one knows the file. -/
structure OutgoingOk (policy : HistoryPolicy) (h : HistoryWorld D) (o : Outgoing) : Prop where
  undue : o.due = false → Served policy h.replacements o.seen
  due : o.due → o.previous = readOf h.world.file.bytes

/-- What an attempt relies on while it passes the history. -/
def PassageOk (policy : HistoryPolicy) (h : HistoryWorld D) (i : Nat) : Passage → Prop
  | .idle => True
  | .asked seen due => (∃ a, h.world.tasks i = .attempt a) ∧
      (due = false → Served policy h.replacements seen) ∧
      (due → h.history.isSome)
  | .read o => ∃ a, h.world.tasks i = .attempt a ∧ OutgoingOk policy h o ∧
      (o.due → h.history.isSome)
  | .rotated o => ∃ a, h.world.tasks i = .attempt a ∧ OutgoingOk policy h o ∧
      (o.due → ∀ old, h.world.file.bytes = some old → policy.same old a.payload = false →
        Holds policy (listGenerations h.directory).getLast? old)
  | .replaced o => ∃ a, h.world.tasks i = .attempt a ∧
      (o.previous.unchanged policy a.payload = false → Served policy h.replacements o.seen)

variable {h h' : HistoryWorld D} {p : Passage}

/-- A passage belongs to an attempt. -/
lemma PassageOk.attempt (hok : PassageOk pol h i p) (hp : p ≠ .idle) :
    ∃ a, h.world.tasks i = .attempt a := by
  rcases p with _ | ⟨seen, due⟩ | o | o | o
  case idle => exact absurd rfl hp
  case asked => exact hok.1
  all_goals exact hok.imp fun _ h => h.1

/-- A passage is undisturbed while its attempt, the file and the directory stay as they are. -/
lemma PassageOk.mono {h' : HistoryWorld D} (hta : h'.world.tasks i = h.world.tasks i)
    (hb : h'.world.file.bytes = h.world.file.bytes) (hdi : h'.directory = h.directory)
    (hl : h.replacements ⊆ h'.replacements) (hs : h.history.isSome → h'.history.isSome)
    (hok : PassageOk pol h i p) : PassageOk pol h' i p := by
  have hou : ∀ o, OutgoingOk pol h o → OutgoingOk pol h' o := by
    intro o ho
    refine ⟨fun hd => (ho.undue hd).mono hl, ?_⟩
    rw [hb]
    exact ho.due
  rcases p with _ | ⟨seen, due⟩ | o | o | o
  case idle => trivial
  case asked =>
    obtain ⟨ha, hu, hd⟩ := hok
    refine ⟨?_, fun h => (hu h).mono hl, fun h => hs (hd h)⟩
    rwa [hta]
  case read =>
    obtain ⟨a, ha, ho, hd⟩ := hok
    exact ⟨a, hta.trans ha, hou o ho, fun h => hs (hd h)⟩
  case rotated =>
    obtain ⟨a, ha, ho, hk⟩ := hok
    refine ⟨a, hta.trans ha, hou o ho, ?_⟩
    rw [hb, hdi]
    exact hk
  case replaced =>
    obtain ⟨a, ha, hse⟩ := hok
    exact ⟨a, hta.trans ha, fun h => (hse h).mono hl⟩

/-- What the tracking says about the settings so far. -/
structure TrackingOk (policy : HistoryPolicy) (log : List Replacement) (sets : Nat)
    (history : Option HistoryTracking) : Prop where
  off : history = none → sets = 0
  policy_eq : ∀ state, history = some state → state.policy = policy ∧ 0 < policy.generations
  cleared : ∀ state, history = some state → state.captureNext = false → Served policy log sets

variable {history : Option HistoryTracking}

lemma TrackingOk.mono (hl : log ⊆ log') (h : TrackingOk pol log sets history) :
    TrackingOk pol log' sets history :=
  ⟨h.off, h.policy_eq, fun st hs hc => (h.cleared st hs hc).mono hl⟩

/-- What holds of a destination and its history in every run of punctual steps. -/
structure HistoryInv (policy : HistoryPolicy) (initial : Option Payload) (h : HistoryWorld D) :
    Prop where
  base : Inv initial h.world
  tracking : TrackingOk policy h.replacements h.sets h.history
  passages : ∀ i, PassageOk policy h i (h.passages i)
  honoured : Honoured policy h.replacements

/-- A newer replacement is judged against the older ones. -/
lemma Honoured.cons {r : Replacement} (h : Honoured pol log)
    (hr : r.changes pol → ¬ Served pol log r.seen → r.Kept pol) : Honoured pol (r :: log) := by
  intro k newer x older hl hp hk hc hf
  rcases newer with _ | ⟨y, newer⟩
  · obtain ⟨rfl, rfl⟩ : r = x ∧ log = older := by simpa using hl
    apply hr hc
    rintro (hz | ⟨q, hq, hqc, hle⟩)
    · omega
    · have hlt := hf q hq hqc
      omega
  · obtain ⟨-, hl⟩ : r = y ∧ log = newer ++ x :: older := by simpa using hl
    exact h k newer x older hl hp hk hc hf

/-- Without the due answer nothing is owed. -/
lemma TrackingOk.undue (h : TrackingOk pol log sets history)
    (hd : rotationDue history now = false) : Served pol log sets := by
  rcases hh : history with _ | st
  · exact .inl (h.off hh)
  · rw [hh, rotationDue, any_some, Bool.or_eq_false_iff] at hd
    exact h.cleared st hh hd.1

lemma isSome_of_due (hd : rotationDue history now) : history.isSome := by
  rcases history with _ | st
  · cases hd
  · rfl

/-- A due attempt reads the file. -/
lemma previousContent_due (hs : history.isSome) (observer known : Bool) (bs : Option Payload) :
    previousContent history observer known true (.ok bs) = readOf bs := by
  obtain ⟨st, rfl⟩ := isSome_iff_exists.mp hs
  cases bs <;> simp [previousContent, readOf]

/-- A due attempt leaves what it replaces in the history, unless it replaces it by the same. -/
lemma holds_rotate (h : TrackingOk pol log sets history) (hs : history.isSome)
    (dir : List Generation) {old pay : Payload}
    (hsa : pol.same old pay = false) (taken : Nat) : Holds pol (listGenerations
      (rotateBeforeReplace history dir (.present old) pay true taken)).getLast? old := by
  obtain ⟨st, rfl⟩ := isSome_iff_exists.mp hs
  obtain ⟨rfl, hk⟩ := h.policy_eq st rfl
  simp only [rotateBeforeReplace, hsa, Bool.not_true, Bool.or_self, Bool.false_eq_true, if_false]
  exact holds_writeGeneration st.policy dir old taken hk

variable {e : Event}

namespace HistoryInv

variable {a : Attempt D}

/-- One attempt runs, so nobody else is in a passage. -/
lemma idle_of_ne (hinv : HistoryInv pol initial h) (ht : h.world.tasks i = .attempt a)
    (hj : j ≠ i) : h.passages j = .idle := by
  by_contra hp
  obtain ⟨b, hb⟩ := (hinv.passages j).attempt hp
  exact hinv.base.only_attempt ht hj b hb

/-- Only the passage of the running attempt is to be looked at. -/
lemma passages_of_attempt (hinv : HistoryInv pol initial h)
    (ht : h.world.tasks i = .attempt a) (hp : ∀ j, j ≠ i → h'.passages j = h.passages j)
    (hi : PassageOk pol h' i (h'.passages i)) (j : Nat) : PassageOk pol h' j (h'.passages j) := by
  by_cases hj : j = i
  · rw [hj]
    exact hi
  · rw [hp j hj, hinv.idle_of_ne ht hj]
    trivial

@[simp] theorem pass_self (h : HistoryWorld D) (i : Nat) (p : Passage) : (h.pass i p).passages i = p :=
  update_self _ _ _

/-- A passage only reads the world, the history and the directory. -/
lemma quiet (hinv : HistoryInv pol initial h) (hst : World.Step digest h.world i w')
    (hp : h.passages i = .idle) (hs : ¬ HistoryWorld.Replacing h.world i) :
    HistoryInv pol initial { h with world := w' } := by
  refine ⟨hinv.base.step hst, hinv.tracking, ?_, hinv.honoured⟩
  intro j
  by_cases hj : j = i
  · change PassageOk pol _ j (h.passages j)
    rw [hj, hp]
    trivial
  · have hb : w'.file.bytes = h.world.file.bytes := by
      rcases file_of_step hst with hb | ⟨hr, -⟩
      · exact hb
      · exact absurd hr hs
    exact (hinv.passages j).mono (others_of_step hst hj) hb rfl (List.Subset.refl _) id

theorem ask (hinv : HistoryInv pol initial h) (ht : h.world.tasks i = .attempt a) :
    HistoryInv pol initial (h.pass i (.asked h.sets (rotationDue h.history h.now))) := by
  refine ⟨hinv.base, hinv.tracking, ?_, hinv.honoured⟩
  refine hinv.passages_of_attempt ht (fun j hj => update_of_ne hj _ _) ?_
  rw [pass_self]
  exact ⟨⟨a, ht⟩, hinv.tracking.undue, isSome_of_due⟩

lemma read (hinv : HistoryInv pol initial h) {seen : Nat} {due : Bool}
    (ht : h.world.tasks i = .attempt a) (hp : h.passages i = .asked seen due) (known : Bool) :
    HistoryInv pol initial (h.pass i (.read ⟨seen, due,
      previousContent h.history observer known due (.ok h.world.file.bytes)⟩)) := by
  have hi := hinv.passages i
  rw [hp] at hi
  obtain ⟨-, hu, hd⟩ := hi
  refine ⟨hinv.base, hinv.tracking, ?_, hinv.honoured⟩
  refine hinv.passages_of_attempt ht (fun j hj => update_of_ne hj _ _) ?_
  rw [pass_self]
  refine ⟨a, ht, ⟨hu, ?_⟩, hd⟩
  intro htr
  cases (htr : due)
  exact previousContent_due (hd rfl) observer known _

variable {o : Outgoing}

section

variable (hinv : HistoryInv pol initial h) (ht : h.world.tasks i = .attempt a)
include hinv ht

lemma rotate (hp : h.passages i = .read o) (taken : Nat) : HistoryInv pol initial ({ h with
          directory := rotateBeforeReplace h.history h.directory o.previous a.payload o.due taken
        }.pass i (.rotated o)) := by
  have hi := hinv.passages i
  rw [hp] at hi
  obtain ⟨b, hb, ho, hd⟩ := hi
  refine ⟨hinv.base, hinv.tracking, ?_, hinv.honoured⟩
  refine hinv.passages_of_attempt ht (fun j hj => update_of_ne hj _ _) ?_
  rw [pass_self]
  refine ⟨a, ht, ⟨ho.undue, ho.due⟩, ?_⟩
  intro htr old hold hs
  have hpr : o.previous = .present old := by
    rw [ho.due htr]
    exact congrArg readOf hold
  change Holds pol (listGenerations (rotateBeforeReplace _ _ _ _ _ _)).getLast? old
  rw [hpr, htr]
  exact holds_rotate hinv.tracking (hd htr) h.directory hs taken

/-- A write-behind attempt gives up the lock and keeps what it rotated. -/
lemma unlock (hp : h.passages i = .rotated o) (hs : World.Step digest h.world i w')
    (ht' : w'.tasks i = .attempt { a with stage := .rename }) :
    HistoryInv pol initial { h with world := w' } := by
  have hi := hinv.passages i
  rw [hp] at hi
  obtain ⟨b, hb, ho, hk⟩ := hi
  cases ht.symm.trans hb
  have hby : w'.file.bytes = h.world.file.bytes := by
    rcases file_of_step hs with hby | ⟨-, b, hb'⟩
    · exact hby
    · have hst := congrArg Attempt.stage (Task.attempt.inj (ht'.symm.trans hb'))
      cases hst
  refine ⟨hinv.base.step hs, hinv.tracking, ?_, hinv.honoured⟩
  refine hinv.passages_of_attempt ht (fun _ _ => rfl) ?_
  change PassageOk pol _ i (h.passages i)
  rw [hp]
  refine ⟨_, ht', ⟨ho.undue, ?_⟩, ?_⟩
  · exact fun hd => (ho.due hd).trans (congrArg readOf hby.symm)
  · intro hd old hold
    exact hk hd old (hby.symm.trans hold)

lemma giveUp (hs : World.Step digest h.world i w') :
    HistoryInv pol initial ({ h with world := w' }.pass i .idle) := by
  refine ⟨hinv.base.step hs, hinv.tracking, ?_, hinv.honoured⟩
  refine hinv.passages_of_attempt ht (fun j hj => update_of_ne hj _ _) ?_
  rw [pass_self]
  trivial

/-- **The replacement.** An attempt that was not due owes nothing, and a due one has kept what the
file holds. -/
theorem replace (hp : h.passages i = .rotated o) (hs : World.Step digest h.world i w')
    (ht' : w'.tasks i = .attempt { a with stage := .barrier }) :
    HistoryInv pol initial ({ h with
          world := w'
          replacements := ⟨o.seen, h.world.file.bytes, a.payload,
            (listGenerations h.directory).getLast?⟩ :: h.replacements }.pass i (.replaced o)) := by
  have hi := hinv.passages i
  rw [hp] at hi
  obtain ⟨b, hb, ho, hk⟩ := hi
  cases ht.symm.trans hb
  refine ⟨hinv.base.step hs, hinv.tracking.mono (subset_cons_self _ _), ?_, ?_⟩
  · refine hinv.passages_of_attempt ht (fun j hj => update_of_ne hj _ _) ?_
    rw [pass_self]
    refine ⟨_, ht', ?_⟩
    intro hc
    rcases hd : o.due with _ | _
    · exact (ho.undue hd).mono (subset_cons_self _ _)
    · refine .inr ⟨_, mem_cons_self, ?_, le_refl _⟩
      rw [ho.due hd] at hc
      rcases hby : h.world.file.bytes with _ | old
      · rfl
      · rw [hby] at hc
        simpa [Replacement.changes, PreviousContent.unchanged, readOf] using hc
  · apply hinv.honoured.cons
    intro hch hu old hold
    have hd : o.due := by
      by_contra hd
      exact hu (ho.undue (eq_false_of_ne_true hd))
    have hsa : pol.same old a.payload = false := by
      have hby : h.world.file.bytes = some old := hold
      simpa [Replacement.changes, hby] using hch
    exact hk hd old hold hsa

end

/-- **The note.** The flag is cleared only once every setting was answered, because the attempt
that clears it saw them all. -/
theorem note (hinv : HistoryInv pol initial h) (ht : h.world.tasks i = .attempt a)
    (hp : h.passages i = .replaced o) (hpu : Punctual pol (.note i) h) : HistoryInv pol initial
      ({ h with history := noteReplacement h.history h.now o.previous a.payload }.pass i .idle) := by
  have hi := hinv.passages i
  rw [hp] at hi
  obtain ⟨b, hb, hse⟩ := hi
  cases ht.symm.trans hb
  refine ⟨hinv.base, ⟨?_, ?_, ?_⟩, ?_, hinv.honoured⟩
  · intro hn
    exact hinv.tracking.off (map_eq_none_iff.mp hn)
  · intro st hst
    obtain ⟨old, hold, rfl⟩ := map_eq_some_iff.mp hst
    split_ifs <;> exact hinv.tracking.policy_eq old hold
  · intro st hst hc
    obtain ⟨old, hold, rfl⟩ := map_eq_some_iff.mp hst
    obtain ⟨hpo, -⟩ := hinv.tracking.policy_eq old hold
    split_ifs at hc with hu
    · exact hinv.tracking.cleared old hold hc
    · rw [hpo] at hu
      have hs := (hpu i a o rfl ht hp).resolve_left hu
      exact (show Served pol h.replacements h.sets from
        hs ▸ hse (eq_false_of_ne_true hu))
  · refine hinv.passages_of_attempt ht (fun j hj => update_of_ne hj _ _) ?_
    rw [pass_self]
    trivial

lemma captureNext (hinv : HistoryInv pol initial h) (hh : h.history.isSome) : HistoryInv pol initial
      { h with history := captureNextWrites h.history, sets := h.sets + 1 } := by
  obtain ⟨st, hs⟩ := isSome_iff_exists.mp hh
  refine ⟨hinv.base, ⟨?_, ?_, ?_⟩, ?_, hinv.honoured⟩
  · simp [captureNextWrites, hs]
  · intro st' hs'
    simp only [captureNextWrites, hs, map_some, some.injEq] at hs'
    subst hs'
    exact hinv.tracking.policy_eq st hs
  · intro st' hs' hc
    simp only [captureNextWrites, hs, map_some, some.injEq] at hs'
    subst hs'
    cases hc
  · intro j
    refine PassageOk.mono (h := h) rfl rfl rfl (List.Subset.refl _) ?_ (hinv.passages j)
    simp [captureNextWrites]

lemma enable (hinv : HistoryInv pol initial h) (hh : h.history = none) :
    HistoryInv pol initial { h with history := enableHistory h.history pol } := by
  have hz := hinv.tracking.off hh
  refine ⟨hinv.base, ⟨fun _ => hz, ?_, fun _ _ _ => .inl hz⟩, ?_, hinv.honoured⟩
  · intro st hs
    change enableHistory h.history pol = some st at hs
    rw [enableHistory] at hs
    split_ifs at hs with hk
    cases hs
    exact ⟨rfl, Nat.pos_of_ne_zero hk⟩
  · intro j
    refine PassageOk.mono (h := h) rfl rfl rfl (List.Subset.refl _) ?_ (hinv.passages j)
    simp [hh]

/-- **Step lemma.** -/
theorem step (hinv : HistoryInv pol initial h) (hst : HistoryWorld.HistoryStep digest pol observer h e h')
    (hpu : Punctual pol e h) : HistoryInv pol initial h' := by
  cases hst with
  | quiet i w' hst hp hs => exact hinv.quiet hst hp hs
  | ask i a ht hs hp => exact hinv.ask ht
  | read i a seen due known ht hp hk => exact hinv.read ht hp known
  | rotate i a o taken ht hp => exact hinv.rotate ht hp taken
  | unlock i a o w' ht hp hst ht' => exact hinv.unlock ht hp hst ht'
  | giveUp i a o res w' ht hp hst ht' => exact hinv.giveUp ht hst
  | replace i a o w' ht hp hst ht' => exact hinv.replace ht hp hst ht'
  | note i a o ht hp => exact hinv.note ht hp hpu
  | captureNext hh => exact hinv.captureNext hh
  | enable hh => exact hinv.enable hh
  | tick now hn =>
    refine ⟨hinv.base, hinv.tracking, ?_, hinv.honoured⟩
    intro j
    exact PassageOk.mono (h := h) rfl rfl rfl (List.Subset.refl _) id (hinv.passages j)

lemma new (initial : Option Payload) (dir : List Generation) (now : Nat) :
    HistoryInv pol initial (HistoryWorld.new (D := D) initial dir now) where
  base := Inv.new initial
  tracking := ⟨fun _ => rfl, nofun, nofun⟩
  passages _ := trivial
  honoured := by
    intro k newer r older hl
    simp [HistoryWorld.new] at hl

end HistoryInv

/-- **A requested capture is kept** in every run of punctual notes. -/
theorem capture_next_kept (digest : Payload → D) (policy : HistoryPolicy) (observer : Bool)
    (initial : Option Payload) (h : HistoryWorld D)
        (hr : ((machine digest policy observer initial).restrict
      (Punctual policy)).Reachable h) : Honoured policy h.replacements := by
  have hinv : HistoryInv policy initial h := by
    apply hr.invariant
    · rintro _ ⟨directory, now, rfl⟩
      exact HistoryInv.new initial directory now
    · intro s e t hs hst
      exact hs.step hst.1 hst.2
  exact hinv.honoured

/-! ## Two runs -/

/-- Whether the thread stands before or in a rename. -/
def replacing : Task D → Bool
  | .attempt a => match a.stage with
    | .replace | .rename => true
    | _ => false
  | _ => false

lemma not_replacing (h : replacing (w.tasks i) = false) : ¬ HistoryWorld.Replacing w i := by
  rintro ⟨a, ht, hs | hs⟩ <;> simp [ht, replacing, hs] at h

/-- One generation is kept, and content is transient for ten ticks. -/
def onePolicy : HistoryPolicy := ⟨1, 10, none⟩

/-- The destination of the runs: its file holds `[0]` and nothing was kept yet. -/
abbrev oneMachine : Lib.Machine (HistoryWorld Unit) Event :=
  machine (fun _ => ()) onePolicy false (some [0])

/-- A step of the coordinator that is no matter of the history. -/
lemma quiet_step {h : HistoryWorld Unit} {w' : World Unit}
    (hst : World.Step (fun _ => ()) h.world 0 w') (hp : h.passages 0 = .idle)
    (hs : replacing (h.world.tasks 0) = false) : oneMachine.step h (.base 0) { h with world := w' } :=
  quiet h 0 w' hst hp (not_replacing hs)

/-- Only a note can be late. -/
lemma punctual_of_ne (h : HistoryWorld D) (he : ∀ i, e ≠ .note i) : Punctual pol e h :=
  fun i _ _ hn => absurd hn (he i)

/-- The flag is set and the next attempt replaces `[0]`, which is kept. -/
theorem capture_next_kept_asked : ∃ h : HistoryWorld Unit,
    h.replacements = [⟨1, some [0], [1], some ⟨1, [0]⟩⟩] ∧ Honoured onePolicy h.replacements := by
  have hp : ∀ (e : Event) (h : HistoryWorld Unit), (∀ i, e ≠ .note i) →
      Punctual onePolicy e h := fun _ => punctual_of_ne
  have h₀ : (oneMachine.restrict (Punctual onePolicy)).Reachable (new (some [0]) [] 0) :=
      .init ⟨[], 0, rfl⟩
  have h₁ := h₀.step ⟨enable _ rfl, hp _ _ nofun⟩
  have h₂ := h₁.step ⟨captureNext _ rfl, hp _ _ nofun⟩
  have h₃ := h₂.step ⟨quiet_step (reserve _ 0 rfl) rfl rfl, hp _ _ nofun⟩
  have h₄ := h₃.step ⟨quiet_step (admitPayload _ 0 1 [1] false rfl) rfl rfl, hp _ _ nofun⟩
  have h₅ := h₄.step ⟨quiet_step (commit _ 0 1 [1] .commit rfl (by decide)) rfl rfl, hp _ _ nofun⟩
  have h₆ := h₅.step ⟨quiet_step (beginStarted _ 0 1 [1] .commit _ rfl rfl) rfl rfl, hp _ _ nofun⟩
  have h₇ := h₆.step ⟨quiet_step (startCurrent _ 0 _ rfl rfl rfl) rfl rfl, hp _ _ nofun⟩
  have h₈ := h₇.step ⟨quiet_step (verifyMiss _ 0 _ _ rfl rfl) rfl rfl, hp _ _ nofun⟩
  have h₉ := h₈.step ⟨quiet_step (stageOk _ 0 _ rfl rfl) rfl rfl, hp _ _ nofun⟩
  have h₁₀ := h₉.step ⟨ask _ 0 _ rfl rfl rfl, hp _ _ nofun⟩
  have h₁₁ := h₁₀.step ⟨read _ 0 _ _ _ false rfl rfl nofun, hp _ _ nofun⟩
  have h₁₂ := h₁₁.step ⟨rotate _ 0 _ _ 0 rfl rfl, hp _ _ nofun⟩
  have h₁₃ := h₁₂.step ⟨replace _ 0 _ _ _ rfl rfl (replaceOk _ 0 _ rfl rfl rfl rfl) rfl, hp _ _ nofun⟩
  exact ⟨_, rfl, capture_next_kept _ _ _ _ _ h₁₃⟩

/-- **A requested capture is lost**: the flag is set while an attempt that was due anyway is on its
way, which spends it, and the next content is replaced ten ticks too early to be kept. -/
theorem capture_next_lost : ¬ ∀ (h : HistoryWorld Unit),
    oneMachine.Reachable h → Honoured onePolicy h.replacements := by
  intro ha
  have h₀ : oneMachine.Reachable (new (some [0]) [] 0) := .init ⟨[], 0, rfl⟩
  have h₁ := h₀.step (enable _ rfl)
  have h₂ := h₁.step (quiet_step (reserve _ 0 rfl) rfl rfl)
  have h₃ := h₂.step (quiet_step (admitPayload _ 0 1 [1] false rfl) rfl rfl)
  have h₄ := h₃.step (quiet_step (commit _ 0 1 [1] .commit rfl (by decide)) rfl rfl)
  have h₅ := h₄.step (quiet_step (beginStarted _ 0 1 [1] .commit _ rfl rfl) rfl rfl)
  have h₆ := h₅.step (quiet_step (startCurrent _ 0 _ rfl rfl rfl) rfl rfl)
  have h₇ := h₆.step (quiet_step (verifyMiss _ 0 _ _ rfl rfl) rfl rfl)
  have h₈ := h₇.step (quiet_step (stageOk _ 0 _ rfl rfl) rfl rfl)
  have h₉ := h₈.step (ask _ 0 _ rfl rfl rfl)
  have h₁₀ := h₉.step (read _ 0 _ _ _ false rfl rfl nofun)
  have h₁₁ := h₁₀.step (rotate _ 0 _ _ 0 rfl rfl)
  have h₁₂ := h₁₁.step (captureNext _ rfl)
  have h₁₃ := h₁₂.step (replace _ 0 _ _ _ rfl rfl (replaceOk _ 0 _ rfl rfl rfl rfl) rfl)
  have h₁₄ := h₁₃.step (note _ 0 _ _ rfl rfl)
  have h₁₅ := h₁₄.step (quiet_step (barrierOk _ 0 _ rfl rfl) rfl rfl)
  have h₁₆ := h₁₅.step (quiet_step (record _ 0 _ (some ()) rfl rfl (.inr rfl)) rfl rfl)
  have h₁₇ := h₁₆.step (quiet_step (finish _ 0 _ .durableWritten rfl rfl) rfl rfl)
  have h₁₈ := h₁₇.step (quiet_step (reserve _ 0 rfl) rfl rfl)
  have h₁₉ := h₁₈.step (quiet_step (admitPayload _ 0 2 [2] false rfl) rfl rfl)
  have h₂₀ := h₁₉.step (quiet_step (commit _ 0 2 [2] .commit rfl (by decide)) rfl rfl)
  have h₂₁ := h₂₀.step (quiet_step (beginStarted _ 0 2 [2] .commit _ rfl rfl) rfl rfl)
  have h₂₂ := h₂₁.step (quiet_step (startCurrent _ 0 _ rfl rfl rfl) rfl rfl)
  have h₂₃ := h₂₂.step (quiet_step (verifyMiss _ 0 _ _ rfl rfl) rfl rfl)
  have h₂₄ := h₂₃.step (quiet_step (stageOk _ 0 _ rfl rfl) rfl rfl)
  have h₂₅ := h₂₄.step (ask _ 0 _ rfl rfl rfl)
  have h₂₆ := h₂₅.step (read _ 0 _ _ _ false rfl rfl nofun)
  have h₂₇ := h₂₆.step (rotate _ 0 _ _ 0 rfl rfl)
  have h₂₈ := h₂₇.step (replace _ 0 _ _ _ rfl rfl (replaceOk _ 0 _ rfl rfl rfl rfl) rfl)
  have hl := ha _ h₂₈ 1 [] ⟨1, some [1], [2], some ⟨1, [0]⟩⟩ [⟨0, some [0], [1], some ⟨1, [0]⟩⟩]
    rfl (by decide) (by decide) (by decide) (by decide)
  obtain ⟨g, ⟨⟩, hs⟩ := hl [1] rfl
  revert hs
  decide

end Hypercolor.Persistence.History
