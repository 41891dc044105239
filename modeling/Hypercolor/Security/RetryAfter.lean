import Hypercolor.Security.RateLimiter

/-!
# Retrying after a refusal

A refusal names the whole seconds that are left of the window, rounded down.

* **`retry_refused`**: a retry at that time meets the same window, still open and still full.
* **`retry_iff`**: it meets another exactly when whole seconds were left, or when the shared window
  refuses the retried discovery before the client's window is asked.
-/

namespace Hypercolor.Security

open Lib Option AList

namespace RateLimiter

variable {l : RateLimiter} {call : Call}

/-- The account whose window refuses a request. -/
def refusedBy (l : RateLimiter) (call : Call) : Option Account :=
  if (l.checkAndRecord call).2.allowed then none
  else if ((l.dropExpired call).chargeDiscovery call.operation).isNone then some .discovery
  else some (.client call.clientId call.operation.budget)

/-- The request again, at the time the refusal names or later, is not refused by the same window. -/
def Honest (l : RateLimiter) (call : Call) : Prop :=
  let r := l.checkAndRecord call
  ∀ retry : Call, retry.clientId = call.clientId → retry.operation = call.operation →
    call.now + r.2.retryAfterSecs * 10 ^ 9 ≤ retry.now → r.1.refusedBy retry ≠ l.refusedBy call

/-- Whole seconds are left of the window. -/
def WholeSeconds (l : RateLimiter) (now : Nat) (account : Account) : Prop :=
  ∀ w ∈ l.window account, (now - w.1) % 10 ^ 9 = 0

/-- The shared window is full once it has counted the discovery, and lasts as long as the client's. -/
def Shadowed (l : RateLimiter) (call : Call) : Prop :=
  call.operation = .discovery ∧ discoveryLimitPerMin ≤ (l.dropExpired call).discoveryCount + 1 ∧
    ∀ w ∈ l.clients.lookup call.clientId, w.windowStart ≤ (l.dropExpired call).discoveryWindowStart

/-- The shared window refuses. -/
def Full (l : RateLimiter) (call : Call) : Prop :=
  call.operation = .discovery ∧ call.discoveryNow - l.discoveryWindowStart < rateWindow ∧
    discoveryLimitPerMin ≤ l.discoveryCount

/-- A full shared window is not started again. -/
lemma Full.kept (hf : l.Full call) : (l.dropExpired call).discoveryWindowStart = l.discoveryWindowStart ∧
    (l.dropExpired call).discoveryCount = l.discoveryCount := by
  unfold dropExpired
  rw [if_neg (Nat.not_le.mpr hf.2.1)]
  exact ⟨rfl, rfl⟩

lemma full_iff : (l.dropExpired call).chargeDiscovery call.operation = none ↔ l.Full call := by
  rw [chargeDiscovery_eq_none, Full]
  unfold dropExpired
  split_ifs with hp
  · simp [hp.not_gt, discoveryLimitPerMin]
  · simp [Nat.not_le.mp hp]

/-- The client's window of a call is open at both of its readings, and full. -/
def ClientFull (l : RateLimiter) (call : Call) (w : ClientWindow) : Prop :=
  l.clients.lookup call.clientId = some w ∧ call.clientNow - w.windowStart < rateWindow ∧
    call.operation.budget.limit ≤ w.count call.operation.budget

variable {w : ClientWindow}

/-- The sweep keeps a window that is open at the later reading. -/
lemma lookup_dropExpired_iff (hon : call.clientNow - w.windowStart < rateWindow) :
    (l.dropExpired call).clients.lookup call.clientId = some w ↔
      l.clients.lookup call.clientId = some w := by
  have ho := call.ordered
  rw [lookup_dropExpired, filter_eq_some_iff, decide_eq_true_eq]
  exact and_iff_left (by omega)

/-- What the two windows of a call do. -/
lemma refused_cases (l : RateLimiter) (call : Call) :
    (l.Full call ∧ l.refusedBy call = some .discovery ∧
        l.checkAndRecord call = (l.dropExpired call,
          .refused discoveryLimitPerMin
            (remainingWindowSecs l.discoveryWindowStart call.now) call.epoch)) ∨
      (¬ l.Full call ∧ (∃ w l', l.ClientFull call w ∧
          (l.dropExpired call).chargeDiscovery call.operation = some l' ∧
          l.refusedBy call = some (.client call.clientId call.operation.budget) ∧
          l.checkAndRecord call = ({ l' with clients := l'.clients.insert call.clientId w },
            .refused call.operation.budget.limit
              (remainingWindowSecs w.windowStart call.now) call.epoch))) ∨
      (¬ l.Full call ∧ (∀ w, ¬ l.ClientFull call w) ∧ l.refusedBy call = none) := by
  unfold refusedBy
  rcases hd : (l.dropExpired call).chargeDiscovery call.operation with _ | l'
  · have hf := full_iff.mp hd
    have hr : l.checkAndRecord call = (l.dropExpired call,
        .refused discoveryLimitPerMin
          (remainingWindowSecs l.discoveryWindowStart call.now) call.epoch) := by
      simp only [checkAndRecord, hd, hf.kept.1]
    rw [hr]
    exact .inl ⟨hf, rfl, rfl⟩
  · have hn : ¬ l.Full call := fun hf => by
      rw [full_iff.mpr hf] at hd
      cases hd
    have hr : l.checkAndRecord call = l'.chargeClient call := by
      simp only [checkAndRecord, hd]
    have hc : l'.clients = (l.dropExpired call).clients := by
      obtain ⟨-, rfl⟩ | ⟨-, -, rfl⟩ := chargeDiscovery_eq_some.mp hd <;> rfl
    rw [hr]
    obtain ⟨w, hw, hon, hf, he⟩ | ⟨ha, w, hw, hlt, -⟩ := chargeClient_cases l' call
    · rw [hc, lookup_dropExpired_iff hon] at hw
      rw [he]
      exact .inr (.inl ⟨hn, w, l', ⟨hw, hon, hf⟩, rfl, rfl, rfl⟩)
    · refine .inr (.inr ⟨hn, fun full hfu => ?_, if_pos ha⟩)
      have hl' := (lookup_dropExpired_iff (l := l) hfu.2.1).mpr hfu.1
      rw [← hc] at hl'
      obtain ⟨hw, -⟩ | ⟨ho, -⟩ := hw
      · rw [hl'] at hw
        cases hw
        exact absurd hfu.2.2 (Nat.not_le.mpr hlt)
      · exact absurd hfu.2.1 (Nat.not_lt.mpr (ho full hl'))

lemma refusedBy_discovery : l.refusedBy call = some .discovery ↔ l.Full call := by
  obtain ⟨hf, hr, -⟩ | ⟨hf, ⟨w, l', -, -, hr, -⟩⟩ | ⟨hf, -, hr⟩ := refused_cases l call <;> simp [hf, hr]

lemma refusedBy_client : l.refusedBy call = some (.client call.clientId call.operation.budget) ↔
    ¬ l.Full call ∧ ∃ w, l.ClientFull call w := by
  obtain ⟨hf, hr, -⟩ | ⟨hf, ⟨w, l', hw, -, hr, -⟩⟩ | ⟨hf, hw, hr⟩ := refused_cases l call
  · simp [hf, hr]
  · exact iff_of_true hr ⟨hf, w, hw⟩
  · simp [hf, hr, hw]

/-- A shared window that has refused a discovery. -/
lemma honest_of_full (hs : l.discoveryWindowStart ≤ call.now) (hf : l.Full call) :
    l.Honest call ↔ (call.now - l.discoveryWindowStart) % 10 ^ 9 = 0 := by
  obtain ⟨-, hr, he⟩ | ⟨hn, -⟩ | ⟨hn, -⟩ := refused_cases l call
  · unfold Honest
    simp only [he, hr, ne_eq, refusedBy_discovery, Full, hf.kept, RateDecision.refused,
      remainingWindowSecs]
    have hon := hf.2.1
    have ho := call.ordered
    unfold rateWindow at hon ⊢
    constructor
    · intro h
      by_contra hz
      -- the last instant of the window
      have hlast :=
          h (.at call.clientId .discovery (l.discoveryWindowStart + 60 * 10 ^ 9 - 1)) rfl hf.1.symm
      simp only [Call.at, true_and, hf.2.2, and_true] at hlast
      omega
    · rintro hz retry - - hl ⟨-, hlt, -⟩
      have := retry.ordered
      omega
  · exact absurd hf hn
  · exact absurd hf hn

/-- A window of the client that has refused a request. -/
lemma honest_of_clientFull (hs : w.windowStart ≤ call.now) (hn : ¬ l.Full call)
    (hw : l.ClientFull call w) :
    l.Honest call ↔ (call.now - w.windowStart) % 10 ^ 9 = 0 ∨ l.Shadowed call := by
  obtain ⟨hf, -⟩ | ⟨-, ⟨w', l', hw', hc, hr, he⟩⟩ | ⟨-, hno, -⟩ := refused_cases l call
  · exact absurd hf hn
  · obtain rfl : w' = w := some.inj (hw'.1.symm.trans hw.1)
    have hsh : l.Shadowed call ↔ call.operation = .discovery ∧ discoveryLimitPerMin ≤ l'.discoveryCount ∧
        w'.windowStart ≤ l'.discoveryWindowStart := by
      unfold Shadowed
      rw [hw.1]
      obtain ⟨hc, -⟩ | ⟨-, -, rfl⟩ := chargeDiscovery_eq_some.mp hc
      · exact iff_of_false (fun h => hc h.1) fun h => hc h.1
      · simp
    have hrc : ∀ retry : Call, retry.clientId = call.clientId → retry.operation = call.operation →
        (RateLimiter.refusedBy { l' with clients := l'.clients.insert call.clientId w' } retry ≠
          some (.client call.clientId call.operation.budget) ↔
          (retry.clientNow - w'.windowStart < rateWindow → call.operation = .discovery ∧
            retry.discoveryNow - l'.discoveryWindowStart < rateWindow ∧
              discoveryLimitPerMin ≤ l'.discoveryCount)) := by
      rintro ⟨clientId, operation, now, discoveryNow, clientNow, epoch, hord⟩ rfl rfl
      rw [ne_eq, refusedBy_client, not_and, not_imp_not]
      simp [ClientFull, Full, hw.2.2]
    unfold Honest
    rw [hsh]
    simp only [he, hr, RateDecision.refused, remainingWindowSecs]
    have hon := hw.2.1
    have ho := call.ordered
    unfold rateWindow at hon hrc ⊢
    constructor
    · intro h
      refine or_iff_not_imp_left.mpr fun hz => ?_
      -- the last instant of the window
      obtain ⟨last, hlast⟩ : ∃ last, last + 1 = w'.windowStart + 60 * 10 ^ 9 :=
        ⟨w'.windowStart + 59999999999, rfl⟩
      have hr := h (.at call.clientId call.operation last) rfl rfl
      rw [hrc (.at call.clientId call.operation last) rfl rfl] at hr
      simp only [Call.at] at hr
      obtain ⟨ho, hlt, hfu⟩ := hr (by omega) (by omega)
      exact ⟨ho, hfu, by omega⟩
    · rintro hz retry hid hop hl
      have := retry.ordered
      refine (hrc retry hid hop).mpr fun hlt => ?_
      obtain hz | ⟨ho, hfu, hle⟩ := hz
      · omega
      · exact ⟨ho, by omega, hfu⟩
  · exact absurd hw (hno w)

end RateLimiter

/-- **A retry is honest** exactly when whole seconds were left of the window that refused, or when the
shared window stands before it. -/
theorem retry_iff {start : Nat} {s : Limited} (h : (Limited.limiting start).Reachable s) {call : Call}
    (hclock : s.clock ≤ call.now) {account : Account}
        (hrefused : s.limiter.refusedBy call = some account) :
    s.limiter.Honest call ↔ s.limiter.WholeSeconds call.now account ∨
      account ≠ .discovery ∧ s.limiter.Shadowed call := by
  have hb := fun account w hw => (Limited.begun_of_reachable h account w hw).trans hclock
  obtain ⟨hf, hr, -⟩ | ⟨hn, ⟨w, l', hw, -, hr, -⟩⟩ | ⟨-, -, hr⟩ := s.limiter.refused_cases call
  · obtain rfl : account = .discovery := some.inj (hrefused.symm.trans hr)
    rw [RateLimiter.honest_of_full (hb .discovery _ rfl) hf]
    simp [RateLimiter.WholeSeconds, RateLimiter.window]
  · obtain rfl : account = .client call.clientId call.operation.budget :=
      some.inj (hrefused.symm.trans hr)
    have hlw : s.limiter.window (.client call.clientId call.operation.budget) =
        some (w.windowStart, w.count call.operation.budget) := by simp [RateLimiter.window, hw.1]
    rw [RateLimiter.honest_of_clientFull (hb _ _ hlw) hn hw]
    simp [RateLimiter.WholeSeconds, hlw]
  · rw [hr] at hrefused
    cases hrefused

/-- A client without writes left is told whole seconds. -/
theorem retry_iff_withoutWrites : withoutWrites.limiter.Honest (.at "10.0.0.2" .write (10 ^ 9)) :=
  (retry_iff reachable_withoutWrites (by decide) (by decide +kernel :
    withoutWrites.limiter.refusedBy _ = some (.client "10.0.0.2" .writes))).mpr
    (.inl (by unfold RateLimiter.WholeSeconds; decide +kernel))

/-- **Half a second after the window began**, the refusal names 59 seconds, half a second short. -/
theorem retry_refused : ¬ ∀ s : Limited, (Limited.limiting 0).Reachable s → ∀ call : Call,
    s.clock ≤ call.now → s.limiter.refusedBy call ≠ none → s.limiter.Honest call := by
  intro h
  have hh := h withoutWrites reachable_withoutWrites (.at "10.0.0.2" .write (5 * 10 ^ 8)) (by decide)
    (by decide +kernel) (.at "10.0.0.2" .write (595 * 10 ^ 8)) rfl rfl (by decide +kernel)
  exact absurd hh (by decide +kernel)

end Hypercolor.Security
