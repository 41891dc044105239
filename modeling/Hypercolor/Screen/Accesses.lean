import Hypercolor.Screen.Admission

/-!
# What one access of an operation does

Of every operation at every point: the bytes it has taken from the count that no lease shows
(`tentative`), and how many of them may still become a lease (`claimed`). An acquisition that has
taken its bytes under a revision that is no longer the installed one, or that is about to be replaced,
will find that out and give them back, and claims nothing.

**`turn_spec`** says all that an access may do to the atomics other than the capacity, which only
`try_set_capacity` changes: the count and the leases stay in balance, and the claims grow only by an
acquisition that has seen room for them.
-/

namespace Hypercolor.Screen

open Lib AList Nat Memory AcquirePc

/-! ## The capacity being installed -/

/-- Who holds the revision, and the capacity it installs once that is decided. -/
inductive Phase where
  | unlocked
  | locked (own : OpId)
  | installing (own : OpId) (capacity : Capacity)

def Phase.owner : Phase → Option OpId
  | .unlocked => none
  | .locked own | .installing own _ => some own

def Phase.isInstalling : Phase → Bool
  | .unlocked | .locked _ => false
  | .installing .. => true

/-- The last revision installed. -/
def Memory.installed (mem : Memory) : Nat := mem.capacityRevision - mem.capacityRevision % 2

/-- What was read under this revision still stands. -/
def current (phase : Phase) (mem : Memory) (revision : Nat) : Bool :=
  revision == mem.installed && !phase.isInstalling

/-! ## Tentative and claimed bytes -/

def AcquirePc.tentative (bytes : Nat) : AcquirePc → Nat
  | .validate _ | .undo _ => bytes
  | .readRevision | .readBudget _ | .readBackend .. | .readReserved .. | .swap .. => 0

def AcquirePc.claimed (stands : Nat → Bool) (bytes : Nat) : AcquirePc → Nat
  | .validate revision => if stands revision then bytes else 0
  | .undo _ | .readRevision | .readBudget _ | .readBackend .. | .readReserved .. | .swap .. => 0

/-- The bytes of the count that an operation has taken and no lease shows. -/
def Op.tentative : Op → Nat
  | .tryAcquire bytes pc => pc.tentative bytes
  | .reconcileDown _ _ (.release bytes _) | .tryReconcileExact _ _ (.release bytes _)
  | .tryReconcileExact _ _ (.dropTopUp bytes _) | .drop _ (.release bytes _) => bytes
  | .absorb _ other .load | .absorb _ other (.loadOther _) | .absorb _ other (.store ..)
  | .absorb _ other (.dropOther _) => other
  | .tryReconcileExact _ exactBytes (.acquire current pc) => pc.tentative (exactBytes - current)
  | .tryReconcileExact _ exactBytes (.growSwap current) => exactBytes - current
  | .reconcileDown _ _ .load | .reconcileDown _ _ (.swap _) | .splitOff .. | .absorb _ _ .clear
  | .absorbForeign .. | .tryReconcileExact _ _ .load | .tryReconcileExact _ _ (.shrinkSwap _)
  | .tryReconcileExact _ _ .clearTopUp | .trySetCapacity .. | .drop _ .swap => 0

/-- The tentative bytes that may still become a lease or have been one. -/
def Op.claimed (stands : Nat → Bool) : Op → Nat
  | .tryAcquire bytes pc => pc.claimed stands bytes
  | .tryReconcileExact _ exactBytes (.acquire current pc) =>
      pc.claimed stands (exactBytes - current)
  | op => op.tentative

def AcquireNext.tentative (bytes : Nat) : AcquireNext → Nat
  | .running pc => pc.tentative bytes
  | .granted => bytes
  | .rejected _ => 0

def AcquireNext.claimed (stands : Nat → Bool) (bytes : Nat) : AcquireNext → Nat
  | .running pc => pc.claimed stands bytes
  | .granted => bytes
  | .rejected _ => 0

def Next.tentative : Next → Nat
  | .running op => op.tentative
  | .done _ => 0

def Next.claimed (stands : Nat → Bool) : Next → Nat
  | .running op => op.claimed stands
  | .done _ => 0

lemma AcquirePc.claimed_le (stands : Nat → Bool) (bs : Nat) (pc : AcquirePc) :
    pc.claimed stands bs ≤ pc.tentative bs := by
  cases pc with
  | validate rev =>
    simp only [claimed, tentative]
    split_ifs
    · exact le_rfl
    · exact zero_le _
  | _ => exact zero_le _

lemma Op.claimed_le (stands : Nat → Bool) (op : Op) : op.claimed stands ≤ op.tentative := by
  unfold claimed
  split
  iterate 2 exact AcquirePc.claimed_le ..
  · exact le_rfl

variable {bs : Nat} {pc : AcquirePc}

/-- Fewer revisions that stand, fewer claims. -/
lemma AcquirePc.claimed_mono {stands stands' : Nat → Bool}
    (h : ∀ rev, pc = .validate rev → stands rev = true → stands' rev = true) :
    pc.claimed stands bs ≤ pc.claimed stands' bs := by
  cases pc <;> simp only [claimed, le_refl]
  rename_i rev
  by_cases hs : stands rev = true
  · rw [if_pos hs, if_pos (h rev rfl hs)]
  · rw [if_neg hs]
    exact zero_le _

/-! ## What an operation knows at each point -/

/-- What was read was read under a revision that had been installed, and is still so if that
revision stands. -/
def AcquirePc.Sound (phase : Phase) (mem : Memory) (bytes : Nat) : AcquirePc → Prop
  | .readRevision | .undo _ => True
  | .readBudget revision | .validate revision => revision ≤ mem.installed ∧ revision % 2 = 0
  | .readBackend revision budget => (revision ≤ mem.installed ∧ revision % 2 = 0) ∧
      (current phase mem revision = true → budget = mem.capacity.byteBudget)
  | .readReserved revision capacity => (revision ≤ mem.installed ∧ revision % 2 = 0) ∧
      (current phase mem revision = true → capacity = mem.capacity)
  | .swap revision capacity reserved => (revision ≤ mem.installed ∧ revision % 2 = 0) ∧
      (current phase mem revision = true → capacity = mem.capacity) ∧
      reserved + bytes ≤ capacity.least ∧ reserved + bytes ≤ u64Max

/-- What each operation relies on between its accesses -/
def Op.Sound (phase : Phase) (mem : Memory) (own : OpId) : Op → Prop
  | .tryAcquire bytes pc => pc.Sound phase mem bytes ∧ phase.owner ≠ some own
  | .trySetCapacity capacity pc =>
      match pc with
      | .readRevision => phase.owner ≠ some own
      | .lock revision => phase.owner ≠ some own ∧ revision % 2 = 0
      | .readReserved revision | .revert revision _ =>
          phase = .locked own ∧ mem.capacityRevision = revision + 1
      | .storeBudget revision | .storeBackend revision | .commit revision =>
          phase = .installing own capacity ∧ mem.capacityRevision = revision + 1
  | .reconcileDown _ actual (.swap quoted) => actual ≤ quoted ∧ phase.owner ≠ some own
  | .splitOff _ bytes (.swap current) => bytes ≤ current ∧ phase.owner ≠ some own
  | .absorb lease _ (.loadOther current) =>
      (mem.leases.lookup lease).map (·.bytes) = some current ∧ phase.owner ≠ some own
  | .absorb lease other (.store current additional) =>
      additional = other ∧ (mem.leases.lookup lease).map (·.bytes) = some current ∧ phase.owner ≠ some own
  | .absorb _ _ (.dropOther _) => False
  | .tryReconcileExact _ exactBytes (.shrinkSwap current) =>
      exactBytes ≤ current ∧ phase.owner ≠ some own
  | .tryReconcileExact _ exactBytes (.acquire current pc) =>
      current ≤ exactBytes ∧ pc.Sound phase mem (exactBytes - current) ∧ phase.owner ≠ some own
  | .tryReconcileExact _ exactBytes (.growSwap current) =>
      current ≤ exactBytes ∧ phase.owner ≠ some own
  | .reconcileDown .. | .splitOff .. | .absorb .. | .absorbForeign .. | .tryReconcileExact ..
  | .drop .. => phase.owner ≠ some own

/-- The operation may still be rejected. -/
def Op.mayReject : Op → Bool
  | .tryAcquire .. | .absorbForeign .. | .reconcileDown _ _ .load | .reconcileDown _ _ (.swap _)
  | .splitOff .. | .absorb _ _ .load | .absorb _ _ (.loadOther _) | .absorb _ _ (.store ..)
  | .tryReconcileExact _ _ .load | .tryReconcileExact _ _ (.shrinkSwap _)
  | .tryReconcileExact _ _ (.acquire ..) | .tryReconcileExact _ _ (.growSwap _)
  | .tryReconcileExact _ _ (.dropTopUp ..) | .trySetCapacity .. => true
  | .reconcileDown _ _ (.release ..) | .absorb _ _ .clear | .absorb _ _ (.dropOther _)
  | .tryReconcileExact _ _ (.release ..) | .tryReconcileExact _ _ .clearTopUp | .drop .. => false

/-- What an operation that may still be rejected has added to the count. -/
def Op.taken : Op → Nat
  | .absorb .. => 0
  | op => op.tentative

/-! ## Release and acquisition -/

variable {more : Option ReleasePc}

section Memory

variable {phase : Phase} {mem mem' : Memory} {spurious : Bool} {bs : Nat}

/-- A release gives its bytes back once, or there was nothing to give back. -/
lemma release_cases {pc : ReleasePc} (hl : bs ≤ mem.reservedBytes)
    (h : mem.release spurious bs pc = (mem', more)) : (mem' = mem ∧ (more = none → bs = 0)) ∨
      (mem' = { mem with reservedBytes := mem.reservedBytes - bs } ∧ more = none) := by
  have hc : mem.checkedSub bs = (mem', more) → mem' = mem ∧ (more = none → bs = 0) := by
    intro he
    unfold checkedSub at he
    split_ifs at he with hz hu
    · cases he
      exact ⟨rfl, fun _ => hz⟩
    · omega
    · cases he
      exact ⟨rfl, nofun⟩
  cases pc with
  | load => exact .inl (hc h)
  | swap reserved =>
    rw [release] at h
    split_ifs at h with hf
    · exact .inl (hc h)
    · push Not at hf
      cases h
      exact .inr ⟨by rw [hf.2], rfl⟩

/-- What one access of an acquisition does. -/
structure AcquireSpec (phase : Phase) (mem mem' : Memory) (bytes : Nat) (pc : AcquirePc)
    (next : AcquireNext) : Prop where
  capacity : mem'.capacity = mem.capacity
  revision : mem'.capacityRevision = mem.capacityRevision
  leases : mem'.leases = mem.leases
  underflows : mem'.underflows = mem.underflows
  balance : mem.reservedBytes + next.tentative bytes = mem'.reservedBytes + pc.tentative bytes
  claims : next.claimed (current phase mem) bytes ≤ pc.claimed (current phase mem) bytes ∨
    mem'.reservedBytes ≤ mem.capacity.least ∧ phase.isInstalling = false
  fits : mem.reservedBytes ≤ u64Max → mem'.reservedBytes ≤ u64Max
  rejected : ∀ error, next = .rejected error → mem' = mem ∧ pc.tentative bytes = 0
  sound : ∀ pc', next = .running pc' → pc'.Sound phase mem bytes

variable {nx : AcquireNext}

lemma AcquireSpec.of_quiet (ht : nx.tentative bs = pc.tentative bs)
    (hc : nx.claimed (current phase mem) bs ≤ pc.claimed (current phase mem) bs)
    (hr : ∀ error, nx = .rejected error → pc.tentative bs = 0)
    (hs : ∀ pc', nx = .running pc' → pc'.Sound phase mem bs) : AcquireSpec phase mem mem bs pc nx :=
  ⟨rfl, rfl, rfl, rfl, by rw [ht], .inl hc, fun h => h,
    fun error h => ⟨rfl, hr error h⟩, hs⟩

/-- Nothing that an acquisition knows is about the count. -/
lemma AcquirePc.Sound.congr (h : pc.Sound phase mem bs) (hc : mem'.capacity = mem.capacity)
    (hr : mem'.capacityRevision = mem.capacityRevision) : pc.Sound phase mem' bs := by
  have hi : mem'.installed = mem.installed := by
    rw [installed, installed, hr]
  cases pc with
  | readRevision | undo => trivial
  | _ => simpa only [AcquirePc.Sound, current, hi, hc] using h

lemma AcquireSpec.sound_after {pc' : AcquirePc} (h : AcquireSpec phase mem mem' bs pc nx)
    (hn : nx = .running pc') : pc'.Sound phase mem' bs :=
  (h.sound pc' hn).congr h.capacity h.revision

lemma acquire_spec (hp : phase.isInstalling = true → mem.capacityRevision % 2 = 1)
    (hs : pc.Sound phase mem bs) (hl : pc.tentative bs ≤ mem.reservedBytes)
    (h : mem.acquire spurious bs pc = (mem', nx)) : AcquireSpec phase mem mem' bs pc nx := by
  cases pc with
  | readRevision =>
    rw [acquire] at h
    split_ifs at h with hod
    · cases h
      refine .of_quiet rfl le_rfl nofun ?_
      rintro pc' ⟨⟩
      trivial
    · cases h
      refine .of_quiet rfl le_rfl nofun ?_
      rintro pc' ⟨⟩
      simp only [AcquirePc.Sound, installed]
      omega
  | readBudget rev =>
    cases h
    refine .of_quiet rfl le_rfl nofun ?_
    rintro pc' ⟨⟩
    exact ⟨hs, fun _ => rfl⟩
  | readBackend rev budget =>
    cases h
    refine .of_quiet rfl le_rfl nofun ?_
    rintro pc' ⟨⟩
    exact ⟨hs.1, fun hc => by rw [hs.2 hc]⟩
  | readReserved rev cap =>
    rw [acquire] at h
    split_ifs at h with hr
    · cases h
      exact .of_quiet rfl le_rfl (fun _ _ => rfl) nofun
    · cases h
      refine .of_quiet rfl le_rfl nofun ?_
      rintro pc' ⟨⟩
      push Not at hr
      exact ⟨hs.1, hs.2, hr.2, hr.1⟩
  | swap rev cap reserved =>
    rw [acquire] at h
    split_ifs at h with hf
    · cases h
      refine .of_quiet rfl le_rfl nofun ?_
      rintro pc' ⟨⟩
      trivial
    · push Not at hf
      cases h
      obtain ⟨hrv, hcp, hr, hfi⟩ := hs
      refine ⟨rfl, rfl, rfl, rfl, ?_, ?_, fun _ => hfi, nofun, ?_⟩
      · simp only [AcquireNext.tentative, tentative, hf.2]
        omega
      · -- the claim counts only if the capacity that had room is still the one installed
        by_cases hc : current phase mem rev = true
        · right
          rw [← hcp hc]
          rw [current, Bool.and_eq_true, Bool.not_eq_true'] at hc
          exact ⟨hr, hc.2⟩
        · simp [AcquireNext.claimed, claimed, hc]
      · rintro pc' ⟨⟩
        exact hrv
  | validate rev =>
    rw [acquire] at h
    split_ifs at h with hv
    · cases h
      refine .of_quiet rfl ?_ nofun nofun
      have hc : current phase mem rev = true := by
        have he := hs.2
        rw [current, Bool.and_eq_true, beq_iff_eq, Bool.not_eq_true', installed, hv]
        refine ⟨by omega, ?_⟩
        by_contra hi
        have := hp (by simpa using hi)
        omega
      simp [AcquireNext.claimed, claimed, hc]
    · cases h
      refine .of_quiet rfl (zero_le _) nofun ?_
      rintro pc' ⟨⟩
      trivial
  | undo pc =>
    rw [acquire] at h
    rcases hre : mem.release spurious bs pc with ⟨mem'', more⟩
    rw [hre] at h
    have hca := release_cases hl hre
    rcases more with _ | pc'
    · cases h
      obtain ⟨rfl, hz⟩ | ⟨rfl, -⟩ := hca
      · refine .of_quiet (hz rfl).symm (zero_le _) nofun ?_
        rintro pc' ⟨⟩
        trivial
      · refine ⟨rfl, rfl, rfl, rfl, ?_, .inl (zero_le _), fun _ => ?_, nofun, ?_⟩
        · simp only [AcquireNext.tentative, tentative] at hl ⊢
          omega
        · simp only
          omega
        · rintro pc' ⟨⟩
          trivial
    · cases h
      obtain ⟨rfl, -⟩ | ⟨-, hn⟩ := hca
      · refine .of_quiet rfl (zero_le _) nofun ?_
        rintro pc'' ⟨⟩
        trivial
      · cases hn

end Memory

/-! ## One access of an operation -/

/-- What one access of an operation does that leaves the capacity alone. -/
structure TurnSpec (phase : Phase) (mem mem' : Memory) (own : OpId) (op : Op) (next : Next) :
    Prop where
  capacity : mem'.capacity = mem.capacity
  revision : mem'.capacityRevision = mem.capacityRevision
  underflows : mem'.underflows = mem.underflows
  balance : mem.reservedBytes + mem'.leased + next.tentative =
    mem'.reservedBytes + mem.leased + op.tentative
  claims : mem'.leased + next.claimed (current phase mem) ≤
      mem.leased + op.claimed (current phase mem) ∨
    mem'.reservedBytes ≤ mem.capacity.least ∧ phase.isInstalling = false
  fits : mem'.reservedBytes ≤ u64Max
  others : ∀ lease, op.uses ≠ some lease → lease ∈ mem.leases →
    mem'.leases.lookup lease = mem.leases.lookup lease
  uses : ∀ op', next = .running op' → ∀ lease, op'.uses = some lease → op.uses = some lease
  shares : ∀ op', next = .running op' → op'.shares = op.shares
  sound : ∀ op', next = .running op' → op'.Sound phase mem' own
  nets : ∀ op', next = .running op' → op'.mayReject = true → op.mayReject = true ∧
    mem'.reservedBytes + op.taken = mem.reservedBytes + op'.taken ∧ mem'.bytesOf op = mem.bytesOf op
  rejected : ∀ error, next = .done (.error error) → op.mayReject = true ∧ op.taken = 0 ∧
    mem'.reservedBytes = mem.reservedBytes ∧ mem'.bytesOf op = mem.bytesOf op

namespace TurnSpec

variable {phase : Phase} {mem mem' : Memory} {own : OpId} {op op' : Op} {spurious : Bool}

/-- An access that only reads, and goes on. -/
lemma stays (hf : mem.reservedBytes ≤ u64Max) (hte : op'.tentative = op.tentative)
    (hc : op'.claimed (current phase mem) ≤ op.claimed (current phase mem))
    (hu : op'.uses = op.uses) (hs : op'.shares = op.shares) (hsn : op'.Sound phase mem own)
    (hn : op'.mayReject = true → op.mayReject = true ∧ op'.taken = op.taken) :
    TurnSpec phase mem mem own op (.running op') where
  capacity := rfl
  revision := rfl
  underflows := rfl
  balance := by rw [Next.tentative, hte]
  claims := .inl (Nat.add_le_add_left hc _)
  fits := hf
  others _ _ _ := rfl
  uses := by
    rintro _ ⟨⟩ ls h
    rw [← hu, h]
  shares := by
    rintro _ ⟨⟩
    exact hs
  sound := by
    rintro _ ⟨⟩
    exact hsn
  nets := by
    rintro _ ⟨⟩ hm
    obtain ⟨hb, ht⟩ := hn hm
    exact ⟨hb, by rw [ht], rfl⟩
  rejected := nofun

/-- An access that only reads, and returns. -/
lemma returns {res : Except AdmissionError Unit} (hf : mem.reservedBytes ≤ u64Max)
    (hte : op.tentative = 0)
    (hr : ∀ e, res = .error e → op.mayReject = true ∧ op.taken = 0) :
    TurnSpec phase mem mem own op (.done res) where
  capacity := rfl
  revision := rfl
  underflows := rfl
  balance := by rw [Next.tentative, hte]
  claims := .inl (Nat.add_le_add_left (Nat.zero_le _) _)
  fits := hf
  others _ _ _ := rfl
  uses := nofun
  shares := nofun
  sound := nofun
  nets := nofun
  rejected := by
    rintro e ⟨⟩
    obtain ⟨hm, ht⟩ := hr e rfl
    exact ⟨hm, ht, rfl, rfl⟩

variable {nx : Next}

/-- An access that gives back bytes no lease shows. -/
lemma gives {pc : ReleasePc} (hf : mem.reservedBytes ≤ u64Max) (hle : bs ≤ mem.reservedBytes)
    (hr : mem.release spurious bs pc = (mem', more)) (hte : op.tentative = bs)
    (hcl : op.claimed (current phase mem) = bs)
    (hm : more.isSome = true → nx.tentative = bs ∧ nx.claimed (current phase mem) = bs)
    (hd : more = none → nx.tentative = 0 ∧ nx.claimed (current phase mem) = 0)
    (hu : ∀ op', nx = .running op' → op'.uses = op.uses ∧ op'.shares = op.shares ∧
        op'.Sound phase mem' own)
    (hne : ∀ op', nx = .running op' → op'.mayReject = true → op.mayReject = true ∧ op.taken = bs ∧
      op'.taken = op'.tentative) (hre : ∀ error, nx ≠ .done (.error error)) :
    TurnSpec phase mem mem' own op nx := by
  have hc := release_cases hle hr
  have hl : mem'.leases = mem.leases := by
    obtain ⟨rfl, -⟩ | ⟨rfl, -⟩ := hc <;> rfl
  have hls : mem'.leased = mem.leased := by rw [leased, hl, leased]
  have hg : mem'.reservedBytes + bs = mem.reservedBytes + nx.tentative ∧
      nx.claimed (current phase mem) ≤ bs := by
    rcases more with _ | pc'
    · rw [(hd rfl).1, (hd rfl).2]
      obtain ⟨rfl, hz⟩ | ⟨rfl, -⟩ := hc
      · have := hz rfl
        omega
      · simp only
        omega
    · rw [(hm rfl).1, (hm rfl).2]
      obtain ⟨rfl, -⟩ | ⟨-, hno⟩ := hc
      · exact ⟨rfl, le_rfl⟩
      · cases hno
  refine ⟨?_, ?_, ?_, ?_, .inl ?_, ?_, fun ls _ _ => by rw [hl], ?_, ?_, ?_, ?_, ?_⟩
  · obtain ⟨rfl, -⟩ | ⟨rfl, -⟩ := hc <;> rfl
  · obtain ⟨rfl, -⟩ | ⟨rfl, -⟩ := hc <;> rfl
  · obtain ⟨rfl, -⟩ | ⟨rfl, -⟩ := hc <;> rfl
  · omega
  · omega
  · obtain ⟨rfl, -⟩ | ⟨rfl, -⟩ := hc
    · exact hf
    · exact (sub_le _ _).trans hf
  · intro op' hn ls h
    rw [← (hu op' hn).1, h]
  · exact fun op' hn => (hu op' hn).2.1
  · exact fun op' hn => (hu op' hn).2.2
  · rintro op' rfl hma
    obtain ⟨hb, ht, ht'⟩ := hne op' rfl hma
    refine ⟨hb, ?_, by rw [bytesOf, bytesOf, hl]⟩
    rw [ht, ht']
    exact hg.1
  · exact fun error h => absurd h (hre error)

variable {ls : LeaseId} {held : Lease}

lemma leased_setBytes (h : mem.leases.lookup ls = some held) (bs : Nat) :
    (mem.setBytes ls held bs).leased + held.bytes = mem.leased + bs := by
  rw [leased, leased, setBytes, Table.total_insert, Table.total_of_lookup _ h]
  dsimp only
  omega

/-- An access that writes the count of the lease, after which nothing can be rejected. -/
lemma writes (hl : mem.leases.lookup ls = some held) (hf : mem.reservedBytes ≤ u64Max)
    (ht : bs + op'.tentative = held.bytes + op.tentative)
    (hc : op'.claimed (current phase mem) = op'.tentative)
    (hc' : op.claimed (current phase mem) = op.tentative) (how : op.uses = some ls)
    (hu : op'.uses = op.uses) (hs : op'.shares = op.shares)
    (hsn : op'.Sound phase (mem.setBytes ls held bs) own) (hm : op'.mayReject = false) :
    TurnSpec phase mem (mem.setBytes ls held bs) own op (.running op') := by
  have hls := leased_setBytes hl bs
  refine ⟨rfl, rfl, rfl, ?_, .inl ?_, hf, ?_, ?_, ?_, ?_, ?_, nofun⟩
  · simp only [Next.tentative, setBytes] at hls ⊢
    omega
  · simp only [Next.claimed, hc, hc']
    omega
  · intro o hoh _
    rw [how, ne_eq, Option.some_inj] at hoh
    exact lookup_insert_ne (Ne.symm hoh)
  · rintro _ ⟨⟩ o h
    rw [← hu, h]
  · rintro _ ⟨⟩
    exact hs
  · rintro _ ⟨⟩
    exact hsn
  · rintro _ ⟨⟩ h
    rw [hm] at h
    cases h

/-- An access of an acquisition inside an operation. -/
lemma acquires {anext : AcquireNext} (hf : mem.reservedBytes ≤ u64Max)
    (hs : AcquireSpec phase mem mem' bs pc anext) (hm : op.mayReject = true)
    (ht : op.taken = pc.tentative bs) (hte : op.tentative = pc.tentative bs)
    (hc : op.claimed (current phase mem) = pc.claimed (current phase mem) bs)
    (hn : nx.tentative = anext.tentative bs ∧ nx.claimed (current phase mem) = anext.claimed
      (current phase mem) bs)
    (hu : ∀ op', nx = .running op' → op'.uses = op.uses ∧ op'.shares = op.shares ∧ op'.Sound phase
      mem' own ∧ op'.taken = op'.tentative)
    (hre : ∀ error, nx = .done (.error error) → anext = .rejected error) :
    TurnSpec phase mem mem' own op nx := by
  have hls : mem'.leased = mem.leased := by rw [leased, hs.leases, leased]
  have hbo : mem'.bytesOf op = mem.bytesOf op := by
    rw [bytesOf, bytesOf, hs.leases]
  have hb := hs.balance
  refine ⟨hs.capacity, hs.revision, hs.underflows, ?_, ?_, hs.fits hf,
    fun ls _ _ => by rw [hs.leases], ?_, ?_, ?_, ?_, ?_⟩
  · omega
  · rw [hls, hn.2, hc]
    exact hs.claims.imp (fun h => Nat.add_le_add_left h _) fun h => h
  · intro op' h ls hl
    rw [← (hu op' h).1, hl]
  · exact fun op' h => (hu op' h).2.1
  · exact fun op' h => (hu op' h).2.2.1
  · rintro op' rfl -
    refine ⟨hm, ?_, hbo⟩
    have hr : op'.tentative = anext.tentative bs := hn.1
    rw [ht, (hu op' rfl).2.2.2, hr]
    omega
  · intro error h
    obtain ⟨rfl, hz⟩ := hs.rejected error (hre error h)
    exact ⟨hm, ht.trans hz, rfl, rfl⟩

/-- The access that makes a lease of an acquisition. -/
lemma grants {fresh : LeaseId} (hs : AcquireSpec phase mem mem' bs pc .granted)
    (hf : mem.reservedBytes ≤ u64Max) (hfr : fresh ∉ mem.leases) :
    TurnSpec phase mem { mem' with leases := mem'.leases.insert fresh ⟨bs, false⟩ } own
      (.tryAcquire bs pc) (.done (.ok ())) := by
  have hl : Table.total (fun _ held => held.bytes)
      (mem'.leases.insert fresh ⟨bs, false⟩) = mem.leased + bs := by
    rw [Table.total_insert, hs.leases, ← Table.total_of_lookup_eq_none _ (lookup_eq_none.mpr hfr)]
    exact add_comm _ _
  have hb := hs.balance
  refine ⟨hs.capacity, hs.revision, hs.underflows, ?_, ?_, hs.fits hf, ?_, nofun,
    nofun, nofun, nofun, nofun⟩
  · simp only [leased, Next.tentative, Op.tentative, AcquireNext.tentative]
      at hl hb ⊢
    omega
  · refine hs.claims.imp (fun h => ?_) fun h => h
    simp only [leased, Next.claimed, Op.claimed, AcquireNext.claimed] at hl h ⊢
    omega
  · intro o _ hm
    have hn : o ≠ fresh := fun he => hfr (he ▸ hm)
    rw [lookup_insert_ne hn, hs.leases]

/-- The access that takes a dropped lease out of sight. -/
lemma retires (hle : mem.leases.lookup ls = some held)
    (hf : mem.reservedBytes ≤ u64Max) (hs : (Op.drop ls .swap).Sound phase mem own) :
    TurnSpec phase mem { mem with leases := mem.leases.erase ls } own (.drop ls .swap)
      (.running (.drop ls (.release held.bytes .load))) := by
  have hl : mem.leased = held.bytes + Table.total (fun _ held => held.bytes) (mem.leases.erase ls) :=
    Table.total_of_lookup _ hle
  refine ⟨rfl, rfl, rfl, ?_, .inl ?_, hf, ?_, ?_, ?_, ?_, ?_, nofun⟩
  · simp only [leased, Next.tentative, Op.tentative] at hl ⊢
    omega
  · simp only [leased, Next.claimed, Op.claimed, Op.tentative] at hl ⊢
    omega
  · intro o hoh _
    exact lookup_erase_ne fun he => hoh (by rw [he]; rfl)
  · rintro _ ⟨⟩ o ⟨⟩
  · rintro _ ⟨⟩
    rfl
  · rintro _ ⟨⟩
    exact hs
  · rintro _ ⟨⟩ ⟨⟩

end TurnSpec

end Hypercolor.Screen
