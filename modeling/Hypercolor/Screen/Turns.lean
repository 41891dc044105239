import Hypercolor.Screen.Accesses

/-!
# The accesses of every operation

Each operation, at each of its points, does what `TurnSpec` allows: the cases are those of the
definitions. `try_set_capacity`, which alone changes the capacity and its revision, is left to the
proof about worlds.
-/

namespace Hypercolor.Screen

open Lib Option AList

variable {phase : Phase} {mem mem' : Memory} {own : OpId} {spurious : Bool} {fresh ls : LeaseId}
variable {held : Lease} {nx : Next}

lemma reconcileDown_spec {actual : Nat} {pc : ReconcileDownPc}
    (hl : mem.leases.lookup ls = some held) (hf : mem.reservedBytes ≤ u64Max)
    (hs : (Op.reconcileDown ls actual pc).Sound phase mem own)
    (hle : (Op.reconcileDown ls actual pc).tentative ≤ mem.reservedBytes)
    (h : reconcileDownTurn spurious mem ls held actual pc = (mem', nx)) :
    TurnSpec phase mem mem' own (.reconcileDown ls actual pc) nx := by
  cases pc with
  | load =>
    rw [reconcileDownTurn] at h
    split_ifs at h <;> cases h
    · exact .returns hf rfl fun _ _ => ⟨rfl, rfl⟩
    · exact .returns hf rfl (by simp)
    · exact .stays hf rfl le_rfl rfl rfl ⟨by omega, hs⟩ fun _ => ⟨rfl, rfl⟩
  | swap quoted =>
    rw [reconcileDownTurn] at h
    split_ifs at h with hfl <;> cases h
    · exact .stays hf rfl le_rfl rfl rfl hs.2 fun _ => ⟨rfl, rfl⟩
    · push Not at hfl
      have hq := hs.1
      refine .writes hl hf ?_ rfl rfl rfl rfl rfl hs.2 rfl
      simp only [Op.tentative, hfl.2]
      omega
  | release bs pc =>
    rw [reconcileDownTurn] at h
    rcases hr : mem.release spurious bs pc with ⟨mem'', more⟩
    rw [hr] at h
    rcases more with _ | pc' <;> cases h
    · exact .gives hf hle hr rfl rfl (by simp) (fun _ => ⟨rfl, rfl⟩) (by simp) (by simp) (by simp)
    · refine .gives hf hle hr rfl rfl (fun _ => ⟨rfl, rfl⟩) (by simp) ?_ ?_ (by simp)
      · rintro _ ⟨⟩
        exact ⟨rfl, rfl, hs⟩
      · rintro _ ⟨⟩ ⟨⟩

lemma splitOff_spec {bs : Nat} {pc : SplitOffPc} (hfr : fresh ∉ mem.leases)
    (hl : mem.leases.lookup ls = some held) (hf : mem.reservedBytes ≤ u64Max)
    (hsn : (Op.splitOff ls bs pc).Sound phase mem own)
    (h : splitOffTurn spurious fresh mem ls held bs pc = (mem', nx)) :
    TurnSpec phase mem mem' own (.splitOff ls bs pc) nx := by
  cases pc with
  | load =>
    rw [splitOffTurn] at h
    split_ifs at h <;> cases h
    · exact .returns hf rfl fun _ _ => ⟨rfl, rfl⟩
    · exact .stays hf rfl le_rfl rfl rfl ⟨by omega, hsn⟩ fun _ => ⟨rfl, rfl⟩
  | swap cur =>
    rw [splitOffTurn] at h
    split_ifs at h with hfl <;> cases h
    · exact .stays hf rfl le_rfl rfl rfl hsn.2 fun _ => ⟨rfl, rfl⟩
    · push Not at hfl
      have hc : bs ≤ cur := hsn.1
      -- what the lease loses is the count of the new lease
      have hls := TurnSpec.leased_setBytes hl (cur - bs)
      have hn : fresh ∉ (mem.setBytes ls held (cur - bs)).leases := by
        rw [Memory.setBytes, mem_insert]
        rintro (rfl | h)
        · exact hfr (Table.mem_of_lookup hl)
        · exact hfr h
      have hs : Table.total (fun _ held => held.bytes)
          ((mem.setBytes ls held (cur - bs)).leases.insert fresh ⟨bs, false⟩) =
          mem.leased := by
        rw [Table.total_insert, ← Table.total_of_lookup_eq_none _ (lookup_eq_none.mpr hn)]
        simp only [Memory.leased, hfl.2] at hls ⊢
        omega
      refine ⟨rfl, rfl, rfl, ?_, .inl ?_, hf, ?_, (by simp), (by simp), (by simp), (by simp), by simp⟩
      · simp only [Memory.leased, Next.tentative, Op.tentative] at hs ⊢
        rw [hs]
        rfl
      · simp only [Memory.leased, Next.claimed, Op.claimed, Op.tentative] at hs ⊢
        rw [hs]
      · intro o hoh hm
        have hne : o ≠ ls := fun he => hoh (by rw [he]; rfl)
        have hne' : o ≠ fresh := fun he => hfr (he ▸ hm)
        exact (lookup_insert_ne hne').trans (lookup_insert_ne hne)

lemma absorb_spec {o : Nat} {pc : AbsorbPc} (hl : mem.leases.lookup ls = some held)
    (hf : mem.reservedBytes ≤ u64Max) (hs : (Op.absorb ls o pc).Sound phase mem own)
    (hle : mem.leased + (Op.absorb ls o pc).tentative ≤ mem.reservedBytes)
    (h : absorbTurn spurious mem ls held o pc = (mem', nx)) :
    TurnSpec phase mem mem' own (.absorb ls o pc) nx := by
  have hh : held.bytes ≤ mem.leased := by
    rw [Memory.leased, Table.total_of_lookup _ hl]
    exact Nat.le_add_right _ _
  cases pc with
  | load =>
    cases h
    exact .stays hf rfl le_rfl rfl rfl ⟨by rw [hl]; rfl, hs⟩ fun _ => ⟨rfl, rfl⟩
  | loadOther cur =>
    obtain ⟨hc, how⟩ := hs
    rw [hl, map_some, some_inj] at hc
    rw [absorbTurn] at h
    split_ifs at h with hov <;> cases h
    · -- both counts are part of the reserved bytes, so their sum fits
      simp only [Op.tentative] at hle
      omega
    · exact .stays hf rfl le_rfl rfl rfl ⟨rfl, by rw [hl, map_some, hc], how⟩
        fun _ => ⟨rfl, rfl⟩
  | store cur additional =>
    obtain ⟨rfl, hc, how⟩ := hs
    rw [hl, map_some, some_inj] at hc
    cases h
    refine .writes hl hf ?_ rfl rfl rfl rfl rfl how rfl
    simp only [Op.tentative]
    omega
  | clear =>
    cases h
    exact .returns hf rfl (by simp)
  | dropOther pc => exact hs.elim

lemma tryReconcileExact_spec {eb : Nat} {pc : ReconcileExactPc}
    (hp : phase.isInstalling → mem.capacityRevision % 2 = 1)
    (hl : mem.leases.lookup ls = some held) (hf : mem.reservedBytes ≤ u64Max)
    (hsn : (Op.tryReconcileExact ls eb pc).Sound phase mem own)
    (hle : (Op.tryReconcileExact ls eb pc).tentative ≤ mem.reservedBytes)
    (h : reconcileExactTurn spurious mem ls held eb pc = (mem', nx)) :
    TurnSpec phase mem mem' own (.tryReconcileExact ls eb pc) nx := by
  cases pc with
  | load =>
    rw [reconcileExactTurn] at h
    split_ifs at h <;> cases h
    · exact .returns hf rfl (by simp)
    · exact .stays hf rfl le_rfl rfl rfl ⟨by omega, hsn⟩ fun _ => ⟨rfl, rfl⟩
    · exact .stays hf rfl le_rfl rfl rfl ⟨by omega, trivial, hsn⟩ fun _ => ⟨rfl, rfl⟩
  | shrinkSwap cur =>
    rw [reconcileExactTurn] at h
    split_ifs at h with hfl <;> cases h
    · exact .stays hf rfl le_rfl rfl rfl hsn.2 fun _ => ⟨rfl, rfl⟩
    · push Not at hfl
      have hc := hsn.1
      refine .writes hl hf ?_ rfl rfl rfl rfl rfl hsn.2 rfl
      simp only [Op.tentative, hfl.2]
      omega
  | release bs pc =>
    rw [reconcileExactTurn] at h
    rcases hr : mem.release spurious bs pc with ⟨mem'', more⟩
    rw [hr] at h
    rcases more with _ | pc' <;> cases h
    · exact .gives hf hle hr rfl rfl (by simp) (fun _ => ⟨rfl, rfl⟩) (by simp) (by simp) (by simp)
    · refine .gives hf hle hr rfl rfl (fun _ => ⟨rfl, rfl⟩) (by simp) ?_ ?_ (by simp)
      · rintro _ ⟨⟩
        exact ⟨rfl, rfl, hsn⟩
      · rintro _ ⟨⟩ ⟨⟩
  | acquire cur pc =>
    obtain ⟨hc, hpc, how⟩ := hsn
    rw [reconcileExactTurn] at h
    rcases ha : mem.acquire spurious (eb - cur) pc with ⟨mem'', anext⟩
    rw [ha] at h
    have hs := acquire_spec hp hpc hle ha
    rcases anext with pc' | _ | e <;> cases h
    · refine .acquires hf hs rfl rfl rfl rfl ⟨rfl, rfl⟩ ?_ (by simp)
      rintro _ ⟨⟩
      exact ⟨rfl, rfl, ⟨hc, hs.sound_after rfl, how⟩, rfl⟩
    · refine .acquires hf hs rfl rfl rfl rfl ⟨rfl, rfl⟩ ?_ (by simp)
      rintro _ ⟨⟩
      exact ⟨rfl, rfl, ⟨hc, how⟩, rfl⟩
    · refine .acquires hf hs rfl rfl rfl rfl ⟨rfl, rfl⟩ (by simp) ?_
      rintro _ ⟨⟩
      rfl
  | growSwap cur =>
    rw [reconcileExactTurn] at h
    split_ifs at h with hfl <;> cases h
    · exact .stays hf rfl le_rfl rfl rfl hsn.2 fun _ => ⟨rfl, rfl⟩
    · have hc := hsn.1
      refine .writes hl hf ?_ rfl rfl rfl rfl rfl hsn.2 rfl
      simp only [Op.tentative]
      omega
  | clearTopUp =>
    cases h
    exact .returns hf rfl (by simp)
  | dropTopUp bs pc =>
    rw [reconcileExactTurn] at h
    rcases hr : mem.release spurious bs pc with ⟨mem'', more⟩
    rw [hr] at h
    rcases more with _ | pc' <;> cases h
    · refine .gives hf hle hr rfl rfl (by simp) (fun _ => ⟨rfl, rfl⟩) ?_ ?_ (by simp)
      · rintro _ ⟨⟩
        exact ⟨rfl, rfl, hsn⟩
      · rintro _ ⟨⟩ -
        exact ⟨rfl, rfl, rfl⟩
    · refine .gives hf hle hr rfl rfl (fun _ => ⟨rfl, rfl⟩) (by simp) ?_ ?_ (by simp)
      · rintro _ ⟨⟩
        exact ⟨rfl, rfl, hsn⟩
      · rintro _ ⟨⟩ -
        exact ⟨rfl, rfl, rfl⟩

/-- The operations that leave the capacity alone. -/
def Op.isSetCapacity : Op → Bool
  | .trySetCapacity .. => true
  | _ => false

lemma turn_spec {op : Op} (hk : op.isSetCapacity = false) (hfr : fresh ∉ mem.leases)
    (hp : phase.isInstalling → mem.capacityRevision % 2 = 1)
    (hf : mem.reservedBytes ≤ u64Max) (hsn : op.Sound phase mem own)
    (hle : mem.leased + op.tentative ≤ mem.reservedBytes)
    (h : turn spurious fresh mem op = some (mem', nx)) : TurnSpec phase mem mem' own op nx := by
  have hle' : op.tentative ≤ mem.reservedBytes := (Nat.le_add_left _ _).trans hle
  cases op with
  | tryAcquire bs pc =>
    rcases ha : mem.acquire spurious bs pc with ⟨mem'', anext⟩
    rw [turn, ha] at h
    have hs := acquire_spec hp hsn.1 hle' ha
    rcases anext with pc' | _ | e <;> cases h
    · refine .acquires hf hs rfl rfl rfl rfl ⟨rfl, rfl⟩ ?_ nofun
      rintro _ ⟨⟩
      exact ⟨rfl, rfl, ⟨hs.sound_after rfl, hsn.2⟩, rfl⟩
    · exact .grants hs hf hfr
    · refine .acquires hf hs rfl rfl rfl rfl ⟨rfl, rfl⟩ nofun ?_
      rintro _ ⟨⟩
      rfl
  | trySetCapacity cap pc => cases hk
  | reconcileDown ls actual pc =>
    obtain ⟨held, hl, ht⟩ := map_eq_some_iff.mp h
    exact reconcileDown_spec hl hf hsn hle' ht
  | splitOff ls bs pc =>
    obtain ⟨held, hl, ht⟩ := map_eq_some_iff.mp h
    exact splitOff_spec hfr hl hf hsn ht
  | absorb ls o pc =>
    obtain ⟨held, hl, ht⟩ := map_eq_some_iff.mp h
    exact absorb_spec hl hf hsn hle ht
  | absorbForeign ls o =>
    cases h
    exact .returns hf rfl fun _ _ => ⟨rfl, rfl⟩
  | tryReconcileExact ls eb pc =>
    obtain ⟨held, hl, ht⟩ := map_eq_some_iff.mp h
    exact tryReconcileExact_spec hp hl hf hsn hle' ht
  | drop ls pc =>
    cases pc with
    | swap =>
      obtain ⟨held, hl, ⟨⟩⟩ := map_eq_some_iff.mp h
      exact .retires hl hf hsn
    | release bs pc =>
      rcases hr : mem.release spurious bs pc with ⟨mem'', more⟩
      rw [turn, hr] at h
      rcases more with _ | pc' <;> cases h
      · exact .gives hf hle' hr rfl rfl nofun (fun _ => ⟨rfl, rfl⟩) nofun nofun nofun
      · refine .gives hf hle' hr rfl rfl (fun _ => ⟨rfl, rfl⟩) nofun ?_ ?_ nofun
        · rintro _ ⟨⟩
          exact ⟨rfl, rfl, hsn⟩
        · rintro _ ⟨⟩ ⟨⟩

end Hypercolor.Screen
