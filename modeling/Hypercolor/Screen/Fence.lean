import Hypercolor.Lib.Local
import Hypercolor.Screen.Turns

/-!
# The byte fence holds

**`admission_accounts`**: whatever the order of the accesses, the reserved count is the bytes of the
leases handed out and the tentative bytes of the operations in progress, no release underflows, the
leases handed out fit both fences, and an operation that is rejected has changed neither the count nor
its lease.

The fence rests on the claims: leases and claims together fit the installed capacity, and from the
moment an installation is decided they fit the new one too, since from then on no acquisition claims
anything.
-/

namespace Hypercolor.Screen

open Lib Option AList Nat Table Memory Phase

/-! ## What an operation knows, after an access of another -/

variable {op : Op}

section Others

variable {phase phase' : Phase} {mem mem' : Memory} {own : OpId}

lemma AcquirePc.Sound.other {bs : Nat} {pc : AcquirePc} (h : pc.Sound phase mem bs)
    (hi : mem.installed ≤ mem'.installed) (hcu : ∀ rev ≤ mem.installed, current phase' mem' rev →
      current phase mem rev ∧ mem'.capacity = mem.capacity) : pc.Sound phase' mem' bs := by
  cases pc with
  | readRevision | undo pc => trivial
  | readBudget rev | validate rev => exact ⟨h.1.trans hi, h.2⟩
  | readBackend rev budget | readReserved rev cap =>
    refine ⟨⟨h.1.1.trans hi, h.1.2⟩, fun hs => ?_⟩
    obtain ⟨hst, hc⟩ := hcu rev h.1.1 hs
    rw [hc, h.2 hst]
  | swap rev cap reserved =>
    refine ⟨⟨h.1.1.trans hi, h.1.2⟩, fun hs => ?_, h.2.2⟩
    obtain ⟨hst, hc⟩ := hcu rev h.1.1 hs
    rw [hc, h.2.1 hst]

/-- The capacity read may have been replaced, if the revision it was read under no longer stands; the
lock is not this operation's before or after, or did not change hands. -/
lemma Op.Sound.other (h : op.Sound phase mem own) (hi : mem.installed ≤ mem'.installed)
    (hc : ∀ rev ≤ mem.installed, current phase' mem' rev → current phase
      mem rev ∧ mem'.capacity = mem.capacity)
    (hl : phase' = phase ∧ mem'.capacityRevision = mem.capacityRevision ∨ phase.owner ≠ some
      own ∧ phase'.owner ≠ some own)
        (hls : ∀ ls, op.uses = some ls → ls ∈ mem.leases → op.shares = false →
      mem'.leases.lookup ls = mem.leases.lookup ls) : op.Sound phase' mem' own := by
  have how : phase.owner ≠ some own → phase'.owner ≠ some own := by
    intro hn
    obtain ⟨rfl, -⟩ | ⟨-, hn'⟩ := hl
    · exact hn
    · exact hn'
  have hh : ∀ {ls current : Nat}, op.uses = some ls → op.shares = false →
      (mem.leases.lookup ls).map (·.bytes) = some current →
      (mem'.leases.lookup ls).map (·.bytes) = some current := by
    intro ls current hu hs hlookup
    have hm : ls ∈ mem.leases := by
      rw [← lookup_isSome]
      simpa using congrArg isSome hlookup
    rw [hls ls hu hm hs, hlookup]
  cases op with
  | tryAcquire bytes pc => exact ⟨h.1.other hi hc, how h.2⟩
  | trySetCapacity cap pc =>
    cases pc with
    | readRevision => exact how h
    | lock rev => exact ⟨how h.1, h.2⟩
    | _ =>
      obtain ⟨rfl, hr⟩ | ⟨hn, -⟩ := hl
      · exact ⟨h.1, hr.trans h.2⟩
      · exact absurd (by rw [h.1]; rfl) hn
  | reconcileDown ls actual pc =>
    cases pc with
    | swap quoted => exact ⟨h.1, how h.2⟩
    | _ => exact how h
  | splitOff ls bytes pc =>
    cases pc with
    | swap current => exact ⟨h.1, how h.2⟩
    | load => exact how h
  | absorb ls other pc =>
    cases pc with
    | loadOther current => exact ⟨hh rfl rfl h.1, how h.2⟩
    | store current additional => exact ⟨h.1, hh rfl rfl h.2.1, how h.2.2⟩
    | dropOther pc => exact h.elim
    | _ => exact how h
  | absorbForeign ls other | drop ls pc => exact how h
  | tryReconcileExact ls exactBytes pc =>
    cases pc with
    | shrinkSwap current | growSwap current => exact ⟨h.1, how h.2⟩
    | acquire current pc => exact ⟨h.1, h.2.1.other hi hc, how h.2.2⟩
    | _ => exact how h

/-- Only an installation holds the lock. -/
lemma Op.Sound.not_owner (h : op.Sound phase mem own) (hk : op.isSetCapacity = false) :
    phase.owner ≠ some own := by
  cases op with
  | tryAcquire bs pc => exact h.2
  | trySetCapacity cap pc => cases hk
  | reconcileDown ls actual pc =>
    cases pc with
    | swap quoted => exact h.2
    | _ => exact h
  | splitOff ls bs pc =>
    cases pc with
    | swap cur => exact h.2
    | load => exact h
  | absorb ls o pc =>
    cases pc with
    | loadOther cur => exact h.2
    | store cur additional => exact h.2.2
    | dropOther pc => exact h.elim
    | _ => exact h
  | absorbForeign ls o | drop ls pc => exact h
  | tryReconcileExact ls eb pc =>
    cases pc with
    | shrinkSwap cur | growSwap cur => exact h.2
    | acquire cur pc => exact h.2.2
    | _ => exact h

/-- What was read was read under a revision that had been installed. -/
lemma Op.claimed_mono (h : op.Sound phase mem own)
    (hc : ∀ rev ≤ mem.installed, current phase' mem' rev → current phase
      mem rev) : op.claimed (current phase' mem') ≤ op.claimed (current phase mem) := by
  have ha : ∀ {bytes : Nat} {pc : AcquirePc}, pc.Sound phase mem bytes →
      pc.claimed (current phase' mem') bytes ≤ pc.claimed (current phase mem) bytes := by
    intro bytes pc hp
    refine AcquirePc.claimed_mono ?_
    rintro rev rfl
    exact hc rev hp.1
  cases op with
  | tryAcquire bytes pc => exact ha h.1
  | tryReconcileExact ls exactBytes pc =>
    cases pc with
    | acquire current pc => exact ha h.2.1
    | _ => exact le_rfl
  | _ => exact le_rfl

end Others

namespace World

/-- The tentative bytes of all operations. -/
def tentative (w : World) : Nat := total (fun _ r => r.op.tentative) w.ops

/-- The claims of all operations. -/
def claimed (phase : Phase) (w : World) : Nat :=
  total (fun _ r => r.op.claimed (current phase w.mem)) w.ops

structure Inv (phase : Phase) (w : World) : Prop where
  count : w.mem.reservedBytes = w.mem.leased + w.tentative
  fits : w.mem.reservedBytes ≤ u64Max
  fence : w.mem.leased + w.claimed phase ≤ w.mem.capacity.least
  installing : ∀ own capacity, phase = .installing own capacity →
    w.mem.leased + w.claimed phase ≤ capacity.least
  parity : phase.owner.isSome ↔ w.mem.capacityRevision % 2 = 1
  owner : ∀ own, phase.owner = some own → own ∈ w.ops
  sound : ∀ own r, w.ops.lookup own = some r → r.op.Sound phase w.mem own
  exclusive : ∀ own own' r r' lease, own ≠ own' → w.ops.lookup own = some r →
    w.ops.lookup own' = some r' → r.op.uses = some lease → r'.op.uses = some lease →
    r.op.shares
  nets : ∀ own r, w.ops.lookup own = some r → r.op.mayReject →
    r.netReserved = r.op.taken ∧ r.netLease = 0
  rejections : ∀ r ∈ w.rejections, r.netReserved = 0 ∧ r.netLease = 0
  underflows : w.mem.underflows = 0

/-! ## What an access of one operation leaves of the others -/

variable {phase phase' : Phase} {w : World} {own : OpId} {r : Running} {mem' : Memory}
variable {nx : Next}

lemma lookup_settle_ne {own' : OpId} (hn : own' ≠ own) :
    (w.settle own r mem' nx).ops.lookup own' = w.ops.lookup own' := by
  rcases nx with op | ⟨_ | _⟩
  · exact lookup_insert_ne hn
  · exact lookup_erase_ne hn
  · exact lookup_erase_ne hn

lemma lookup_settle (r' : Running) (h : (w.settle own r mem' nx).ops.lookup own = some r') :
    ∃ op, nx = .running op ∧ r' = { r.charge w.mem mem' with op } := by
  rcases nx with op | ⟨_ | _⟩
  · rw [settle, lookup_insert, some_inj] at h
    exact ⟨op, rfl, h.symm⟩
  · rw [settle, lookup_erase] at h
    cases h
  · rw [settle, lookup_erase] at h
    cases h

@[simp] theorem settle_mem : (w.settle own r mem' nx).mem = mem' := by
  rcases nx with op | ⟨_ | _⟩ <;> rfl

/-- A total over the operations changes by what the one that moved adds. -/
lemma total_settle (mem' : Memory) (nx : Next) (hlookup : w.ops.lookup own = some r) (f : Op → Nat) :
    total (fun _ r => f r.op) (w.settle own r mem' nx).ops + f r.op = total (fun _ r => f r.op) w.ops +
        (match nx with | .running op => f op | .done _ => 0) := by
  have hold := total_of_lookup (fun _ r => f r.op) hlookup
  rcases nx with op | ⟨_ | _⟩
  · simp only [settle, total_insert, hold]
    omega
  · simp only [settle, hold]
    omega
  · simp only [settle, hold]
    omega

lemma tentative_settle (mem' : Memory) (nx : Next) (hlookup : w.ops.lookup own = some r) :
    (w.settle own r mem' nx).tentative + r.op.tentative = w.tentative + nx.tentative := by
  have ht := total_settle mem' nx hlookup Op.tentative
  cases nx <;> exact ht

lemma tentative_le (hlookup : w.ops.lookup own = some r) : r.op.tentative ≤ w.tentative := by
  rw [tentative, total_of_lookup _ hlookup]
  exact le_add_right _ _

lemma claimed_le_tentative (phase : Phase) (w : World) : w.claimed phase ≤ w.tentative :=
  total_le_total fun _ _ _ => Op.claimed_le _ _

/-! ## The invariant, access by access -/

section

variable (hinv : Inv phase w) (hlookup : w.ops.lookup own = some r)
include hinv hlookup

/-- What a world keeps of the operations other than the one that moved. -/
lemma nets_settle (hr : ∀ op', nx = .running op' → op'.mayReject → r.op.mayReject ∧
      mem'.reservedBytes + r.op.taken = w.mem.reservedBytes + op'.taken ∧ mem'.bytesOf r.op =
      w.mem.bytesOf r.op) (own' : OpId) (r' : Running)
    (h : (w.settle own r mem' nx).ops.lookup own' = some r') (hm : r'.op.mayReject) :
    r'.netReserved = r'.op.taken ∧ r'.netLease = 0 := by
  by_cases he : own' = own
  · subst he
    obtain ⟨op, rfl, rfl⟩ := lookup_settle r' h
    obtain ⟨hb, ht, hby⟩ := hr op rfl hm
    obtain ⟨hn, hl⟩ := hinv.nets _ r hlookup hb
    simp only [Running.charge, hn, hl, hby]
    omega
  · rw [lookup_settle_ne he] at h
    exact hinv.nets own' r' h hm

lemma rejections_settle (hre : ∀ e, nx = .done (.error e) → r.op.mayReject ∧ r.op.taken = 0 ∧
      mem'.reservedBytes = w.mem.reservedBytes ∧ mem'.bytesOf r.op = w.mem.bytesOf r.op) :
    ∀ r' ∈ (w.settle own r mem' nx).rejections, r'.netReserved = 0 ∧ r'.netLease = 0 := by
  intro r' h
  rcases nx with op | ⟨e | _⟩
  · exact hinv.rejections r' h
  · rw [settle, List.mem_append, List.mem_singleton] at h
    obtain h | rfl := h
    · exact hinv.rejections r' h
    · obtain ⟨hm, ht, hr, hb⟩ := hre e rfl
      obtain ⟨hn, hl⟩ := hinv.nets own r hlookup hm
      simp only [Running.charge, hn, hl, ht, hr, hb]
      omega
  · exact hinv.rejections r' h

lemma exclusive_settle (hr : ∀ op', nx = .running op' → (∀ ls, op'.uses = some ls → r.op.uses = some
      ls) ∧ op'.shares = r.op.shares) (own₁ own₂ : OpId) (r₁ r₂ : Running) (ls : LeaseId)
    (hn : own₁ ≠ own₂) (h₁ : (w.settle own r mem' nx).ops.lookup own₁ = some r₁)
    (h₂ : (w.settle own r mem' nx).ops.lookup own₂ = some r₂) (huses₁ : r₁.op.uses = some ls)
    (huses₂ : r₂.op.uses = some ls) : r₁.op.shares := by
  by_cases heq₁ : own₁ = own
  · subst heq₁
    obtain ⟨op, rfl, rfl⟩ := lookup_settle r₁ h₁
    rw [lookup_settle_ne hn.symm] at h₂
    obtain ⟨hu, hs⟩ := hr op rfl
    rw [hs]
    exact hinv.exclusive _ _ r r₂ ls hn hlookup h₂ (hu ls huses₁) huses₂
  · rw [lookup_settle_ne heq₁] at h₁
    by_cases heq₂ : own₂ = own
    · subst heq₂
      obtain ⟨op, rfl, rfl⟩ := lookup_settle r₂ h₂
      exact hinv.exclusive _ _ r₁ r ls hn h₁ hlookup huses₁ ((hr op rfl).1 ls huses₂)
    · rw [lookup_settle_ne heq₂] at h₂
      exact hinv.exclusive _ _ r₁ r₂ ls hn h₁ h₂ huses₁ huses₂

/-- An access that leaves the capacity alone. -/
lemma inv_turn (hk : r.op.isSetCapacity = false)
    (hs : TurnSpec phase w.mem mem' own r.op nx) : Inv phase (w.settle own r mem' nx) := by
  have hi : mem'.installed = w.mem.installed := by
    rw [installed, installed, hs.revision]
  have hc : current phase mem' = current phase w.mem := by
    funext rev
    rw [current, current, hi]
  have hte := tentative_settle mem' nx hlookup
  have hci : (w.settle own r mem' nx).claimed phase + r.op.claimed (current phase w.mem) =
      w.claimed phase + nx.claimed (current phase w.mem) := by
    have ht := total_settle mem' nx hlookup (Op.claimed (current phase w.mem))
    rw [claimed, claimed, settle_mem, hc]
    cases nx <;> exact ht
  have hcn : mem'.reservedBytes = mem'.leased + (w.settle own r mem' nx).tentative := by
    have hb := hs.balance
    have := hinv.count
    omega
  have ha := claimed_le_tentative phase (w.settle own r mem' nx)
  refine ⟨?_, ?_, ?_, ?_, ?_, ?_, ?_, ?_, ?_, ?_, ?_⟩
  · rw [settle_mem]
    exact hcn
  · rw [settle_mem]
    exact hs.fits
  · rw [settle_mem, hs.capacity]
    have hf := hinv.fence
    obtain hcl | ⟨hr, -⟩ := hs.claims <;> omega
  · intro locker cap hp
    rw [settle_mem]
    have hf := hinv.installing locker cap hp
    obtain hcl | ⟨-, hn⟩ := hs.claims
    · omega
    · rw [hp] at hn
      cases hn
  · rw [settle_mem, hs.revision]
    exact hinv.parity
  · -- the operation that holds the lock is not the one that moved
    intro locker hl
    have hne : locker ≠ own := by
      rintro rfl
      exact Op.Sound.not_owner (hinv.sound _ r hlookup) hk hl
    rw [← lookup_isSome, lookup_settle_ne hne, lookup_isSome]
    exact hinv.owner locker hl
  · intro own' r' h
    rw [settle_mem]
    by_cases he : own' = own
    · subst he
      obtain ⟨op, rfl, rfl⟩ := lookup_settle r' h
      exact hs.sound op rfl
    · rw [lookup_settle_ne he] at h
      refine (hinv.sound own' r' h).other hi.ge ?_ (.inl ⟨rfl, hs.revision⟩) ?_
      · intro rev _ hst
        rw [hc] at hst
        exact ⟨hst, hs.capacity⟩
      · intro ls hu hm hsh
        refine hs.others ls (fun how => ?_) hm
        rw [hinv.exclusive own' own r' r ls he h hlookup hu how] at hsh
        cases hsh
  · exact exclusive_settle hinv hlookup fun op h => ⟨hs.uses op h, hs.shares op h⟩
  · exact nets_settle hinv hlookup hs.nets
  · exact rejections_settle hinv hlookup hs.rejected
  · rw [settle_mem, hs.underflows]
    exact hinv.underflows

/-- An access of an installation. -/
lemma inv_set (hk : r.op.isSetCapacity)
    (hre : mem'.reservedBytes = w.mem.reservedBytes) (hlss : mem'.leases = w.mem.leases)
    (hun : mem'.underflows = w.mem.underflows) (hi : w.mem.installed ≤ mem'.installed)
    (hcu : ∀ rev ≤ w.mem.installed, current phase' mem' rev → current phase
      w.mem rev ∧ mem'.capacity = w.mem.capacity)
    (how : ∀ own', own' ≠ own → phase.owner ≠ some own' ∧ phase'.owner ≠ some own' ∨ phase' =
      phase ∧ mem'.capacityRevision = w.mem.capacityRevision)
    (hp : phase'.owner.isSome ↔ mem'.capacityRevision % 2 = 1)
    (hf : w.mem.leased + w.claimed phase ≤ w.mem.capacity.least → w.mem.leased + w.claimed
      phase ≤ mem'.capacity.least)
    (hin : ∀ locker cap, phase' = .installing locker cap → phase = .installing
      locker cap ∨ w.mem.reservedBytes ≤ cap.least)
    (hn : ∀ op, nx = .running op → op.isSetCapacity ∧ op.Sound phase' mem' own)
    (hd : ∀ result, nx = .done result → phase'.owner ≠ some own) :
        Inv phase' (w.settle own r mem' nx) := by
  have hl : mem'.leased = w.mem.leased := by rw [leased, hlss, leased]
  have hz : ∀ op : Op, op.isSetCapacity → op.tentative = 0 ∧ op.uses = none ∧
      op.taken = 0 ∧ op.mayReject ∧ op.shares = false ∧ ∀ stands, op.claimed stands = 0 := by
    intro op h
    cases op with
    | trySetCapacity cap pc => exact ⟨rfl, rfl, rfl, rfl, rfl, fun _ => rfl⟩
    | _ => cases h
  obtain ⟨hte, hu, ht, hm, hsh, hco⟩ := hz r.op hk
  have hb : mem'.bytesOf r.op = w.mem.bytesOf r.op := by
    rw [bytesOf, bytesOf, hu]
    rfl
  have hto : (w.settle own r mem' nx).tentative = w.tentative := by
    have hs := tentative_settle mem' nx hlookup
    rcases nx with op | result
    · have := (hz op (hn op rfl).1).1
      simp only [Next.tentative] at hs
      omega
    · simp only [Next.tentative] at hs
      omega
  have hsn : ∀ own' r', (w.settle own r mem' nx).ops.lookup own' = some r' →
      r'.op.Sound phase' mem' own' := by
    intro own' r' h
    by_cases he : own' = own
    · subst he
      obtain ⟨op, rfl, rfl⟩ := lookup_settle r' h
      exact (hn op rfl).2
    · rw [lookup_settle_ne he] at h
      exact (hinv.sound own' r' h).other hi hcu (how own' he).symm
        fun ls _ _ _ => by rw [hlss]
  have hc : (w.settle own r mem' nx).claimed phase' ≤ w.claimed phase := by
    have hs := total_settle mem' nx hlookup (Op.claimed (current phase' mem'))
    have hmo : total (fun _ r => r.op.claimed (current phase' mem')) w.ops ≤ w.claimed phase :=
      total_le_total fun own' r' h =>
        Op.claimed_mono (hinv.sound own' r' h) fun rev hle hst =>
          (hcu rev hle hst).1
    rw [claimed, settle_mem]
    rcases nx with op | result
    · have := (hz op (hn op rfl).1).2.2.2.2.2 (current phase' mem')
      simp only at hs
      omega
    · simp only at hs
      omega
  have hcn := hinv.count
  have ha := claimed_le_tentative phase' (w.settle own r mem' nx)
  refine ⟨?_, ?_, ?_, ?_, ?_, ?_, ?_, ?_, ?_, ?_, ?_⟩
  · rw [settle_mem, hre, hl, hto]
    exact hcn
  · rw [settle_mem, hre]
    exact hinv.fits
  · rw [settle_mem, hl]
    exact (Nat.add_le_add_left hc _).trans (hf hinv.fence)
  · intro locker cap hph
    rw [settle_mem, hl]
    obtain hbe | hr := hin locker cap hph
    · exact (Nat.add_le_add_left hc _).trans (hinv.installing locker cap hbe)
    · omega
  · rw [settle_mem]
    exact hp
  · intro locker hlo
    by_cases he : locker = own
    · subst he
      rcases nx with op | result
      · rw [settle, mem_insert]
        exact .inl rfl
      · exact absurd hlo (hd result rfl)
    · rw [← lookup_isSome, lookup_settle_ne he, lookup_isSome]
      obtain ⟨-, hnt⟩ | ⟨rfl, -⟩ := how locker he
      · exact absurd hlo hnt
      · exact hinv.owner locker hlo
  · rw [settle_mem]
    exact hsn
  · refine exclusive_settle hinv hlookup fun op h => ?_
    obtain ⟨-, hno, -, -, hsh', -⟩ := hz op (hn op h).1
    refine ⟨fun ls hls => ?_, hsh'.trans hsh.symm⟩
    rw [hno] at hls
    cases hls
  · refine nets_settle hinv hlookup fun op h _ => ⟨hm, ?_, hb⟩
    rw [ht, (hz op (hn op h).1).2.2.1, hre]
  · exact rejections_settle hinv hlookup fun _ _ => ⟨hm, ht, hre, hb⟩
  · rw [settle_mem, hun]
    exact hinv.underflows

/-- An access of an installation that changes nothing. -/
lemma inv_set_reads (hk : r.op.isSetCapacity)
    (hn : ∀ op, nx = .running op → op.isSetCapacity ∧ op.Sound phase w.mem own)
    (hd : ∀ result, nx = .done result → phase.owner ≠ some own) : Inv phase (w.settle own r w.mem nx) :=
  inv_set hinv hlookup hk rfl rfl rfl le_rfl (fun _ _ h => ⟨h, rfl⟩)
    (fun _ _ => .inr ⟨rfl, rfl⟩) hinv.parity (fun h => h) (fun _ _ h => .inl h) hn hd

lemma inv_setCapacity {cap : Capacity} {pc : SetPc} {spurious : Bool} {fresh : LeaseId}
    (hop : r.op = .trySetCapacity cap pc)
    (h : turn spurious fresh w.mem (.trySetCapacity cap pc) = some (mem', nx)) :
    ∃ phase', Inv phase' (w.settle own r mem' nx) := by
  have hk : r.op.isSetCapacity := by rw [hop]; rfl
  have hsn : (Op.trySetCapacity cap pc).Sound phase w.mem own := hop ▸ hinv.sound own r hlookup
  cases pc with
  | readRevision =>
    simp only [turn, setCapacity] at h
    split_ifs at h with hod he <;> cases h
    · refine ⟨phase, inv_set_reads hinv hlookup hk ?_ (by simp)⟩
      rintro _ ⟨⟩
      exact ⟨rfl, hsn⟩
    · exact ⟨phase, inv_set_reads hinv hlookup hk (by simp) fun _ _ => hsn⟩
    · refine ⟨phase, inv_set_reads hinv hlookup hk ?_ (by simp)⟩
      rintro _ ⟨⟩
      exact ⟨rfl, hsn, by omega⟩
  | lock rev =>
    simp only [turn, setCapacity] at h
    split_ifs at h with hf <;> cases h
    · refine ⟨phase, inv_set_reads hinv hlookup hk ?_ (by simp)⟩
      rintro _ ⟨⟩
      exact ⟨rfl, hsn.1⟩
    · push Not at hf
      obtain ⟨-, hev⟩ := hsn
      -- an even revision is nobody's
      have hu : phase = .unlocked := by
        have hp := hinv.parity
        rcases phase with _ | locker | ⟨locker, cap'⟩
        · rfl
        all_goals exact absurd (hp.mp rfl) (by omega)
      subst hu
      refine ⟨.locked own, inv_set hinv hlookup hk rfl rfl rfl ?_ ?_ ?_ ?_ (fun h => h) (by simp) ?_
        (by simp)⟩
      · simp only [installed, hf.2]
        omega
      · intro rev' _ hs
        refine ⟨?_, rfl⟩
        simp only [current, installed, hf.2, isInstalling, Bool.not_false,
          Bool.and_true, beq_iff_eq] at hs ⊢
        omega
      · intro own' hne
        exact .inl ⟨(by simp [owner]), fun heq => hne (some.inj heq).symm⟩
      · simp only [owner, isSome_some, true_iff]
        omega
      · rintro _ ⟨⟩
        exact ⟨rfl, rfl, rfl⟩
  | readReserved rev =>
    obtain ⟨rfl, hr⟩ := hsn
    simp only [turn, setCapacity] at h
    split_ifs at h with hsh he <;> cases h
    · refine ⟨.locked own, inv_set_reads hinv hlookup hk ?_ (by simp)⟩
      rintro _ ⟨⟩
      exact ⟨rfl, rfl, hr⟩
    · refine ⟨.locked own, inv_set_reads hinv hlookup hk ?_ (by simp)⟩
      rintro _ ⟨⟩
      exact ⟨rfl, rfl, hr⟩
    · -- the installation is decided: all that is reserved fits it, and nothing is claimed any more
      refine ⟨.installing own cap, inv_set hinv hlookup hk rfl rfl rfl le_rfl ?_ ?_
        hinv.parity (fun h => h) ?_ ?_ (by simp)⟩
      · intro rev' _ hs
        simp [current, isInstalling] at hs
      · intro own' hne
        have hn : some own ≠ some own' := fun heq => hne (some.inj heq).symm
        exact .inl ⟨hn, hn⟩
      · rintro locker cap' ⟨⟩
        exact .inr (not_lt.mp hsh)
      · rintro _ ⟨⟩
        exact ⟨rfl, rfl, hr⟩
  | storeBudget rev | storeBackend rev =>
    obtain ⟨rfl, hr⟩ := hsn
    cases h
    refine ⟨.installing own cap, inv_set hinv hlookup hk rfl rfl rfl le_rfl ?_
      (fun _ _ => .inr ⟨rfl, rfl⟩) hinv.parity (fun hfe => ?_) (fun _ _ h => .inl h) ?_ (by simp)⟩
    · intro rev' _ hs
      simp [current, isInstalling] at hs
    · have hnew := hinv.installing own cap rfl
      simp only [Capacity.least] at hnew hfe ⊢
      omega
    · rintro _ ⟨⟩
      exact ⟨rfl, rfl, hr⟩
  | revert rev _ | commit rev =>
    obtain ⟨rfl, hr⟩ := hsn
    have hod := hinv.parity.mp rfl
    cases h
    refine ⟨.unlocked, inv_set hinv hlookup hk rfl rfl rfl ?_ ?_ ?_ ?_ (fun h => h) (by simp) (by simp)
      (by simp [owner])⟩
    · simp only [installed, hr]
      omega
    · -- nothing was read under a revision that an installation ends with
      intro rev' hl hs
      refine ⟨?_, rfl⟩
      simp only [current, installed, hr, isInstalling, Bool.not_false, Bool.not_true, Bool.and_true,
        Bool.and_false, Bool.false_eq_true, beq_iff_eq] at hl hs ⊢
      omega
    · intro own' hne
      exact .inl ⟨fun heq => hne (some.inj heq).symm, by simp [owner]⟩
    · simp only [owner, isSome_none, Bool.false_eq_true, false_iff]
      omega

end

/-! ## Starts and freezes -/

variable {ls : LeaseId} {frozen shared : Bool} {held : Lease}

/-- A lease that is available is there, and nothing uses it but what shares it. -/
lemma of_available (h : w.available ls frozen shared = some held) :
    w.mem.leases.lookup ls = some held ∧ ∀ own r, w.ops.lookup own = some r →
      r.op.uses = some ls → shared ∧ r.op.shares := by
  rw [available, filter_eq_some_iff, Bool.and_eq_true, idle, List.all_eq_true] at h
  obtain ⟨hlookup, -, hi⟩ := h
  refine ⟨hlookup, fun own r hr hu => ?_⟩
  have hus := hi r (mem_values_of_lookup hr)
  simpa [hu] using hus

section

variable (hinv : Inv phase w) (hnew : own ∉ w.ops)
include hinv hnew

/-- What was moved out of the leases is what the operation starts with. -/
lemma inv_start {leases : Table LeaseId Lease}
    (hb : total (fun _ ls => ls.bytes) leases + op.tentative = w.mem.leased)
    (htk : op.taken = 0) (hsn : op.Sound phase { w.mem with leases } own)
    (hos : ∀ own' r ls, w.ops.lookup own' = some r → r.op.uses = some ls → leases.lookup
      ls = w.mem.leases.lookup ls)
    (he : ∀ own' r ls, w.ops.lookup own' = some r → r.op.uses = some ls → op.uses =
      some ls → r.op.shares ∧ op.shares) :
    Inv phase { w with mem := { w.mem with leases }, ops := w.ops.insert own { op } } := by
  have hold := lookup_eq_none.mpr hnew
  have ht : ∀ f : Op → Nat, total (fun _ r => f r.op) (w.ops.insert own { op }) =
      f op + total (fun _ r => f r.op) w.ops := by
    intro f
    rw [total_insert, ← total_of_lookup_eq_none _ hold]
  have hte := ht Op.tentative
  have hc := ht (Op.claimed (current phase w.mem))
  have hop := Op.claimed_le (current phase w.mem) op
  have hlookup : ∀ {own' : OpId} {r : Running}, (w.ops.insert own { op }).lookup own' = some r →
      own' = own ∧ r = { op } ∨ own' ≠ own ∧ w.ops.lookup own' = some r := by
    intro own' r h
    by_cases heq : own' = own
    · subst heq
      rw [lookup_insert, some_inj] at h
      exact .inl ⟨rfl, h.symm⟩
    · rw [lookup_insert_ne heq] at h
      exact .inr ⟨heq, h⟩
  have hcn := hinv.count
  have hf := hinv.fence
  refine ⟨?_, hinv.fits, ?_, ?_, hinv.parity, ?_, ?_, ?_, ?_, hinv.rejections, hinv.underflows⟩
  · simp only [tentative, leased] at hcn hb hte ⊢
    omega
  · simp only [claimed, leased] at hf hb hc ⊢
    change _ + total (fun _ r => r.op.claimed (current phase w.mem)) (w.ops.insert own { op }) ≤ _
    omega
  · intro lk cap hp
    have hi := hinv.installing lk cap hp
    simp only [claimed, leased] at hi hb hc ⊢
    change _ + total (fun _ r => r.op.claimed (current phase w.mem)) (w.ops.insert own { op }) ≤ _
    omega
  · intro lk hl
    rw [mem_insert]
    exact .inr (hinv.owner lk hl)
  · intro own' r h
    obtain ⟨rfl, rfl⟩ | ⟨-, h⟩ := hlookup h
    · exact hsn
    · exact (hinv.sound own' r h).other le_rfl (fun _ _ hs => ⟨hs, rfl⟩)
        (.inl ⟨rfl, rfl⟩) fun ls hu _ _ => hos own' r ls h hu
  · intro own₁ own₂ r₁ r₂ ls hn h₁ h₂ huses₁ huses₂
    obtain ⟨rfl, rfl⟩ | ⟨-, hr₁⟩ := hlookup h₁ <;> obtain ⟨rfl, rfl⟩ | ⟨-, hr₂⟩ := hlookup h₂
    · exact absurd rfl hn
    · exact (he own₂ r₂ ls hr₂ huses₂ huses₁).2
    · exact (he own₁ r₁ ls hr₁ huses₁ huses₂).1
    · exact hinv.exclusive own₁ own₂ r₁ r₂ ls hn hr₁ hr₂ huses₁ huses₂
  · intro own' r h hm
    obtain ⟨rfl, rfl⟩ | ⟨-, h⟩ := hlookup h
    · exact ⟨by rw [htk]; rfl, rfl⟩
    · exact hinv.nets own' r h hm

/-- An operation that starts on a lease that is available. -/
lemma inv_start_available (h : w.available ls frozen shared = some held)
    (hu : op.uses = some ls) (hsh : op.shares = shared) (ht : op.tentative = 0)
    (htk : op.taken = 0) (hsn : op.Sound phase w.mem own) :
    Inv phase { w with ops := w.ops.insert own { op } } := by
  obtain ⟨-, hf⟩ := of_available h
  refine inv_start hinv hnew (by rw [ht]; rfl) htk hsn (fun _ _ _ _ _ => rfl) ?_
  intro own' r ls' hr hu' how
  obtain rfl : ls = ls' := some.inj (hu.symm.trans how)
  obtain ⟨rfl, hs⟩ := hf own' r hr hu'
  exact ⟨hs, hsh⟩

lemma inv_begin {cl : Call} {begun : Memory × Op} (h : w.begin cl = some begun) :
    Inv phase { w with mem := begun.1, ops := w.ops.insert own { op := begun.2 } } := by
  have how : phase.owner ≠ some own := fun he => hnew (hinv.owner own he)
  cases cl with
  | tryAcquire bs =>
    cases h
    exact inv_start hinv hnew rfl rfl ⟨trivial, how⟩ (fun _ _ _ _ _ => rfl) nofun
  | trySetCapacity cap =>
    cases h
    exact inv_start hinv hnew rfl rfl how (fun _ _ _ _ _ => rfl) nofun
  | reconcileDown ls actual | splitOff ls bs | absorbForeign ls o | tryReconcileExact ls eb =>
    obtain ⟨held, hh, rfl⟩ := map_eq_some_iff.mp h
    exact inv_start_available hinv hnew hh rfl rfl rfl rfl how
  | absorb ls o =>
    rw [begin] at h
    split_ifs at h with hs
    obtain ⟨_, hl, h⟩ := bind_eq_some_iff.mp h
    obtain ⟨held, hh, rfl⟩ := map_eq_some_iff.mp h
    obtain ⟨hlookup, hf⟩ := of_available hh
    obtain ⟨-, hf'⟩ := of_available hl
    have hls : w.mem.leased = held.bytes + total (fun _ held => held.bytes) (w.mem.leases.erase o) :=
      total_of_lookup _ hlookup
    refine inv_start hinv hnew ?_ rfl how ?_ ?_
    · rw [hls]
      exact add_comm _ _
    · intro own' r used hr hu
      refine lookup_erase_ne ?_
      rintro rfl
      cases (hf own' r hr hu).1
    · rintro own' r used hr hu ⟨⟩
      cases (hf' own' r hr hu).1
  | drop ls =>
    obtain ⟨held, hh, rfl⟩ := map_eq_some_iff.mp h
    obtain hh | ⟨-, hh⟩ := or_eq_some_iff.mp hh
    all_goals exact inv_start_available hinv hnew hh rfl rfl rfl rfl how

end

lemma inv_freeze (hinv : Inv phase w) (h : w.available ls false false = some held) :
    Inv phase { w with mem :=
      { w.mem with leases := w.mem.leases.insert ls { held with frozen := true } } } := by
  obtain ⟨hlookup, hf⟩ := of_available h
  have hl : total (fun _ held => held.bytes)
      (w.mem.leases.insert ls { held with frozen := true }) = w.mem.leased := by
    rw [total_insert, leased, total_of_lookup _ hlookup]
  refine ⟨?_, hinv.fits, ?_, ?_, hinv.parity, hinv.owner, ?_, hinv.exclusive, hinv.nets,
    hinv.rejections, hinv.underflows⟩
  · rw [leased, hl]
    exact hinv.count
  · rw [leased, hl]
    exact hinv.fence
  · intro locker cap hp
    rw [leased, hl]
    exact hinv.installing locker cap hp
  · intro own' r hr
    refine (hinv.sound own' r hr).other le_rfl (fun _ _ hs => ⟨hs, rfl⟩)
      (.inl ⟨rfl, rfl⟩) fun used hu _ _ => lookup_insert_ne ?_
    rintro rfl
    cases (hf own' r hr hu).1

/-! ## Runs -/

lemma inv_step {a : Action} {w' : World} (h : w.step a = some w')
    (hinv : Inv phase w) : ∃ phase', Inv phase' w' := by
  cases a with
  | start own cl =>
    rw [step] at h
    split_ifs at h with hnew
    obtain ⟨begun, hb, rfl⟩ := map_eq_some_iff.mp h
    exact ⟨phase, inv_begin hinv hnew hb⟩
  | turn own spurious fresh =>
    rw [step] at h
    split_ifs at h with hf
    obtain ⟨r, hlookup, h⟩ := bind_eq_some_iff.mp h
    obtain ⟨⟨mem', nx⟩, ht, rfl⟩ := map_eq_some_iff.mp h
    rcases hk : r.op.isSetCapacity with _ | _
    · have hl : w.mem.leased + r.op.tentative ≤ w.mem.reservedBytes := by
        rw [hinv.count]
        exact Nat.add_le_add_left (tentative_le hlookup) _
      have hp : phase.isInstalling → w.mem.capacityRevision % 2 = 1 := by
        intro hi
        refine hinv.parity.mp ?_
        rcases phase with _ | lk | ⟨lk, cap⟩
        · cases hi
        · cases hi
        · rfl
      exact ⟨phase, inv_turn hinv hlookup hk
        (turn_spec hk hf hp hinv.fits (hinv.sound own r hlookup) hl ht)⟩
    · cases hop : r.op with
      | trySetCapacity cap pc =>
        rw [hop] at ht
        exact inv_setCapacity hinv hlookup hop ht
      | _ =>
        rw [hop] at hk
        cases hk
  | freeze ls =>
    obtain ⟨held, hh, rfl⟩ := map_eq_some_iff.mp h
    exact ⟨phase, inv_freeze hinv hh⟩

lemma inv_new (cap : Capacity) : Inv .unlocked (new cap) := by
  have hn : ∀ own r, (new cap).ops.lookup own ≠ some r := by
    intro own r
    exact some_ne_none r |>.symm
  have hl : (new cap).mem.leased = 0 := total_empty _
  have ht : (new cap).tentative = 0 := total_empty _
  have hc : (new cap).claimed .unlocked = 0 := total_empty _
  refine ⟨?_, zero_le _, ?_, ?_, ?_, ?_, ?_, ?_, ?_, List.forall_mem_nil _, rfl⟩
  · rfl
  · exact zero_le _
  · rintro own cap' ⟨⟩
  · simp [owner, new]
  · rintro own ⟨⟩
  · exact fun own r h => absurd h (hn own r)
  · exact fun own _ r _ _ _ h => absurd h (hn own r)
  · exact fun own r h => absurd h (hn own r)

/-- In every interleaving the count is the leases and the tentative bytes, no release underflows, the
leases fit both fences, and a rejected operation has changed neither the count nor its lease. -/
theorem admission_accounts {capacity : Capacity} {actions : List Action} {w : World}
    (h : actions.foldlM step (new capacity) = some w) :
    w.mem.reservedBytes = w.mem.leased + w.tentative ∧ w.mem.underflows = 0 ∧
      w.mem.leased ≤ min w.mem.capacity.byteBudget w.mem.capacity.backendCapacity ∧
      ∀ r ∈ w.rejections, r.netReserved = 0 ∧ r.netLease = 0 := by
  have hk : ∃ phase, Inv phase w :=
    foldlM_keeps (P := fun w => ∃ phase, Inv phase w)
      (fun _ _ _ hs hinv => hinv.elim fun _ hinv => inv_step hs hinv) h
      ⟨.unlocked, inv_new capacity⟩
  obtain ⟨phase, hinv⟩ := hk
  exact ⟨hinv.count, hinv.underflows, (le_add_right _ _).trans hinv.fence, hinv.rejections⟩

/-- A lease of 60 of 100 bytes grows to 80 while the budget is to be cut to 70: the cut sees the bytes
the growth has taken and is refused. A growth to 120 is refused after it. -/
def contended : List Action :=
  let turns (own n : Nat) : List Action := List.replicate n (.turn own false 9)
  [.start 0 (.tryAcquire 60)] ++ turns 0 6 ++ [.freeze 9] ++ [.start 1 (.tryReconcileExact 9 80)] ++
    List.replicate 6 (.turn 1 false 8) ++ [.start 2 (.trySetCapacity ⟨70, 500⟩)] ++
    List.replicate 4 (.turn 2 false 8) ++ List.replicate 3 (.turn 1 false 8) ++
    [.start 3 (.tryReconcileExact 9 120)] ++ List.replicate 5 (.turn 3 false 8)

/-- A run that is contended and ends with the account in order. -/
theorem admission_accounts_contended : ∃ w, contended.foldlM step (new ⟨100, 500⟩) = some w ∧
    w.mem.reservedBytes = w.mem.leased + w.tentative ∧ w.mem.underflows = 0 ∧
      w.mem.leased ≤ min w.mem.capacity.byteBudget w.mem.capacity.backendCapacity ∧
      ∀ r ∈ w.rejections, r.netReserved = 0 ∧ r.netLease = 0 := by
  obtain ⟨w, hw⟩ := isSome_iff_exists.mp
    (show (contended.foldlM step (new ⟨100, 500⟩)).isSome by decide +kernel)
  exact ⟨w, hw, admission_accounts hw⟩

end World

end Hypercolor.Screen
