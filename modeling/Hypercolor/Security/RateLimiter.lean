import Hypercolor.Lib.FixedWindow
import Hypercolor.Lib.Inverse
import Hypercolor.Lib.Machine

/-!
# The rate limiter

`api/security.rs`: every client has a window with a budget for reads, one for writes and discoveries
together, and one for pairings; discoveries of all clients share one more window.

* **`budgets_hold`**: no window lets through more than its limit and no 60 seconds more than twice
  that, and a refused request spends nothing, except a discovery that its client's window refuses
  after the shared window has counted it.
* **`refused_discovery_spends`**: a client without a write left empties the discovery budget of everyone.

A call reads the clock up to three times: `now` when it starts, and once more by the `elapsed()` of
each of the two windows it asks. A window that ends in between is started again at `now`, before its
end; the budgets are shown for the runs in which that does not happen (`Prompt`). Instants are
nanoseconds.
-/

namespace Hypercolor.Security

open Lib Option AList

/-! ## The limiter -/

/-- `RATE_WINDOW` -/
def rateWindow : Nat := 60 * 10 ^ 9

/-- `OperationClass` -/
inductive OperationClass where
  | read
  | write
  | discovery
  | pairing
deriving DecidableEq

/-- The counts of a client's window. -/
inductive Budget where
  | reads
  | writes
  | pairings
deriving DecidableEq

/-- The budget a class is charged to. -/
def OperationClass.budget : OperationClass → Budget
  | .read => .reads
  | .write | .discovery => .writes
  | .pairing => .pairings

/-- `READ_LIMIT_PER_MIN`, `WRITE_LIMIT_PER_MIN`, `PAIRING_LIMIT_PER_MIN` -/
def Budget.limit : Budget → Nat
  | .reads => 120
  | .writes => 60
  | .pairings => 6

/-- `DISCOVERY_LIMIT_PER_MIN` -/
def discoveryLimitPerMin : Nat := 2

/-- `ClientWindow` -/
structure ClientWindow where
  windowStart : Nat
  readCount : Nat
  writeCount : Nat
  pairingCount : Nat

namespace ClientWindow

def fresh (now : Nat) : ClientWindow := ⟨now, 0, 0, 0⟩

def count (window : ClientWindow) : Budget → Nat
  | .reads => window.readCount
  | .writes => window.writeCount
  | .pairings => window.pairingCount

def spend (window : ClientWindow) : Budget → ClientWindow
  | .reads => { window with readCount := window.readCount + 1 }
  | .writes => { window with writeCount := window.writeCount + 1 }
  | .pairings => { window with pairingCount := window.pairingCount + 1 }

@[simp] theorem count_fresh (now : Nat) (budget : Budget) : (fresh now).count budget = 0 := by
  cases budget <;> rfl

@[simp] theorem windowStart_spend (window : ClientWindow) (budget : Budget) :
    (window.spend budget).windowStart = window.windowStart := by
  cases budget <;> rfl

@[simp] theorem count_spend (window : ClientWindow) (budget o : Budget) :
    (window.spend budget).count o = window.count o + if o = budget then 1 else 0 := by
  cases budget <;> cases o <;> rfl

end ClientWindow

/-- `RateLimiter` -/
structure RateLimiter where
  clients : Table String ClientWindow
  discoveryWindowStart : Nat
  discoveryCount : Nat

/-- One call of `check_and_record`: its arguments and, in the order they are taken, its readings of
the clock (`now`, `discovery_window_start.elapsed()`, `window.window_start.elapsed()`), with the unix
time. -/
structure Call where
  clientId : String
  operation : OperationClass
  now : Nat
  discoveryNow : Nat
  clientNow : Nat
  epoch : Nat
  ordered : now ≤ discoveryNow ∧ discoveryNow ≤ clientNow

/-- A call that finds the clock at one instant. -/
def Call.at (clientId : String) (operation : OperationClass) (now : Nat) : Call :=
  ⟨clientId, operation, now, now, now, 0, le_rfl, le_rfl⟩

/-- `RateDecision` -/
structure RateDecision where
  allowed : Bool
  limit : Nat
  remaining : Nat
  resetEpochSecs : Nat
  retryAfterSecs : Nat

/-- `remaining_window_secs` -/
def remainingWindowSecs (windowStart now : Nat) : Nat := (rateWindow - (now - windowStart)) / 10 ^ 9

def RateDecision.refused (limit retryAfter epoch : Nat) : RateDecision :=
  ⟨false, limit, 0, epoch + retryAfter, retryAfter⟩

namespace RateLimiter

variable (l : RateLimiter)

/-- `new` -/
def new (now : Nat) : RateLimiter := ⟨∅, now, 0⟩

/-- The windows that have passed are dropped, and the shared one starts again. -/
def dropExpired (call : Call) : RateLimiter :=
  let clients := l.clients.retain fun _ window => call.now - window.windowStart < rateWindow
  if rateWindow ≤ call.discoveryNow - l.discoveryWindowStart then ⟨clients, call.now, 0⟩
  else { l with clients }

/-- The shared window refuses a discovery, or counts it. -/
def chargeDiscovery (class_ : OperationClass) : Option RateLimiter :=
  if class_ ≠ .discovery then some l
  else if discoveryLimitPerMin ≤ l.discoveryCount then none
  else some { l with discoveryCount := l.discoveryCount + 1 }

/-- The client's window refuses a request, or counts it. -/
def chargeClient (call : Call) : RateLimiter × RateDecision :=
  let budget := call.operation.budget
  let window := (l.clients.lookup call.clientId).getD (.fresh call.now)
  let window := if rateWindow ≤ call.clientNow - window.windowStart then .fresh call.now else window
  let retryAfter := remainingWindowSecs window.windowStart call.now
  if budget.limit ≤ window.count budget then
    ({ l with clients := l.clients.insert call.clientId window },
      .refused budget.limit retryAfter call.epoch)
  else
    let spent := window.spend budget
    ({ l with clients := l.clients.insert call.clientId spent },
      ⟨true, budget.limit, budget.limit - spent.count budget,
        call.epoch + if retryAfter = 0 then rateWindow / 10 ^ 9 else retryAfter, retryAfter⟩)

/-- `check_and_record` -/
def checkAndRecord (call : Call) : RateLimiter × RateDecision :=
  let l := l.dropExpired call
  match l.chargeDiscovery call.operation with
  | none =>
    (l, .refused discoveryLimitPerMin (remainingWindowSecs l.discoveryWindowStart call.now) call.epoch)
  | some l => l.chargeClient call

end RateLimiter

/-! ## What is counted -/

/-- What has a window and a limit of its own. -/
inductive Account where
  | client (clientId : String) (budget : Budget)
  | discovery
deriving DecidableEq

def Account.limit : Account → Nat
  | .client _ budget => budget.limit
  | .discovery => discoveryLimitPerMin

/-- What a request is charged to. -/
def charges (clientId : String) (class_ : OperationClass) : List Account :=
  .client clientId class_.budget :: if class_ = .discovery then [.discovery] else []

/-- The start and the count of an account's window. -/
def RateLimiter.window (l : RateLimiter) : Account → Option (Nat × Nat)
  | .client clientId budget => (l.clients.lookup clientId).map fun w => (w.windowStart, w.count budget)
  | .discovery => some (l.discoveryWindowStart, l.discoveryCount)

/-- A limiter in use, at the last reading of its last call, with the allowed requests of each account:
when, and in the window that started when. -/
structure Limited where
  limiter : RateLimiter
  clock : Nat
  passed : Account → List (Nat × Nat)

namespace Limited

def perform (s : Limited) (call : Call) : Limited :=
  let r := s.limiter.checkAndRecord call
  { limiter := r.1
    clock := call.clientNow
    passed := fun account =>
      if r.2.allowed ∧ account ∈ charges call.clientId call.operation then
        s.passed account ++ ((r.1.window account).map fun w => (call.now, w.1)).toList
      else s.passed account }

/-- Any calls, one after the other, by a clock that does not go back. -/
def limiting (start : Nat) : Machine Limited Call where
  init s := s = ⟨.new start, start, fun _ => []⟩
  step s call t := s.clock ≤ call.now ∧ t = s.perform call

/-- Every account keeps its budget. -/
def Kept (s : Limited) : Prop :=
  ∀ account, Windows rateWindow account.limit (s.limiter.window account) (s.passed account) s.clock

end Limited

/-- Neither of the two windows of a call ends between its first reading and the one they are asked at. -/
def Call.Prompt (call : Call) (s : Limited) : Prop :=
  (call.now < s.limiter.discoveryWindowStart + rateWindow →
      call.discoveryNow < s.limiter.discoveryWindowStart + rateWindow) ∧
    ∀ w, s.limiter.clients.lookup call.clientId = some w →
      call.now < w.windowStart + rateWindow → call.clientNow < w.windowStart + rateWindow

/-- The shared window counts a discovery that the client's window then refuses. -/
def Overspends (l : RateLimiter) (call : Call) : Prop :=
  call.operation = .discovery ∧ (l.dropExpired call).discoveryCount < discoveryLimitPerMin ∧
    ∃ w, (l.dropExpired call).clients.lookup call.clientId = some w ∧ Budget.writes.limit ≤ w.writeCount

/-! ## What a call does -/

namespace RateLimiter

variable {l l' : RateLimiter} {clientId : String} {budget : Budget} {class_ : OperationClass}
    {call : Call}
variable {now clock : Nat} {account : Account} {passed : Account → List (Nat × Nat)} {w : ClientWindow}

lemma rateWindow_pos : 0 < rateWindow := by decide

/-- A client's window that has not passed is kept. -/
lemma lookup_dropExpired (l : RateLimiter) (call : Call) (clientId : String) :
    (l.dropExpired call).clients.lookup clientId =
      (l.clients.lookup clientId).filter fun w => call.now - w.windowStart < rateWindow := by
  have hc : (l.dropExpired call).clients = l.clients.retain fun _ w =>
      call.now - w.windowStart < rateWindow := by
    unfold dropExpired
    split_ifs <;> rfl
  ext w
  rw [hc, Table.lookup_retain_eq_some, filter_eq_some_iff]

lemma chargeDiscovery_eq_none : l.chargeDiscovery class_ = none ↔
    class_ = .discovery ∧ discoveryLimitPerMin ≤ l.discoveryCount := by
  unfold chargeDiscovery
  split_ifs <;> simp_all

/-- The shared window lets a request pass, and counts it if it is a discovery. -/
lemma chargeDiscovery_eq_some : l.chargeDiscovery class_ = some l' ↔
    class_ ≠ .discovery ∧ l' = l ∨ class_ = .discovery ∧ l.discoveryCount < discoveryLimitPerMin ∧
      l' = { l with discoveryCount := l.discoveryCount + 1 } := by
  unfold chargeDiscovery
  split_ifs with hc hf
  · simp [hc, eq_comm]
  · simp [not_not.mp hc, Nat.not_lt.mpr hf]
  · simp [not_not.mp hc, Nat.lt_of_not_le hf, eq_comm]

/-- The client's window refuses a request and is left as it is, or it counts one more, or a new one
does. -/
lemma chargeClient_cases (l : RateLimiter) (call : Call) :
    (∃ w, l.clients.lookup call.clientId = some w ∧ call.clientNow - w.windowStart < rateWindow ∧
      call.operation.budget.limit ≤ w.count call.operation.budget ∧ l.chargeClient call =
        ({ l with clients := l.clients.insert call.clientId w }, .refused call.operation.budget.limit
          (remainingWindowSecs w.windowStart call.now) call.epoch)) ∨
    (l.chargeClient call).2.allowed ∧ ∃ w : ClientWindow,
      (l.clients.lookup call.clientId = some w ∧ call.clientNow - w.windowStart < rateWindow ∨
        (∀ old, l.clients.lookup call.clientId = some old →
            rateWindow ≤ call.clientNow - old.windowStart) ∧
          w = .fresh call.now) ∧
      w.count call.operation.budget < call.operation.budget.limit ∧ (l.chargeClient call).1 =
        { l with clients := l.clients.insert call.clientId (w.spend call.operation.budget) } := by
  have hnew : (ClientWindow.fresh call.now).count call.operation.budget <
      call.operation.budget.limit := by
    rw [ClientWindow.count_fresh]
    cases call.operation.budget <;> decide
  unfold chargeClient
  rcases hl : l.clients.lookup call.clientId with _ | w
  · simp only [getD_none, ite_self, if_neg (Nat.not_le.mpr hnew)]
    exact .inr ⟨trivial, _, .inr ⟨nofun, rfl⟩, hnew, rfl⟩
  · simp only [getD_some]
    by_cases ho : rateWindow ≤ call.clientNow - w.windowStart
    · simp only [if_pos ho, if_neg (Nat.not_le.mpr hnew)]
      exact .inr ⟨trivial, _, .inr ⟨fun _ he => some.inj he ▸ ho, rfl⟩, hnew, rfl⟩
    · simp only [if_neg ho]
      by_cases hf : call.operation.budget.limit ≤ w.count call.operation.budget
      · exact .inl ⟨w, rfl, Nat.lt_of_not_le ho, hf, by rw [if_pos hf]⟩
      · simp only [if_neg hf]
        exact .inr ⟨trivial, w, .inl ⟨rfl, Nat.lt_of_not_le ho⟩, Nat.lt_of_not_le hf, rfl⟩

/-- Putting a client's window back changes no account. -/
lemma window_insert_self (hw : l.clients.lookup clientId = some w) (account : Account) :
    RateLimiter.window { l with clients := l.clients.insert clientId w } account = l.window account := by
  rcases account with ⟨other, budget⟩ | _
  · by_cases ho : other = clientId
    · subst ho
      simp only [window, lookup_insert, hw]
    · simp only [window, lookup_insert_ne ho]
  · rfl

/-! ## Windows in order -/

/-- The accounts at the time of a call, whose windows are all open. -/
def Ready (l : RateLimiter) (passed : Account → List (Nat × Nat)) (now : Nat) : Prop :=
  ∀ account, Windows rateWindow account.limit (l.window account) (passed account) now ∧
    ∀ w ∈ l.window account, now < w.1 + rateWindow

lemma ready_dropExpired (hl : clock ≤ call.now) (hp : call.now < l.discoveryWindowStart + rateWindow →
      call.discoveryNow < l.discoveryWindowStart + rateWindow)
    (h : ∀ account, Windows rateWindow account.limit (l.window account) (passed account) clock) :
    (l.dropExpired call).Ready passed call.now := by
  have hn := call.ordered.1
  rintro (⟨clientId, budget⟩ | _)
  · have hold := h (.client clientId budget)
    simp only [window, lookup_dropExpired] at hold ⊢
    generalize l.clients.lookup clientId = fd at hold ⊢
    rcases fd with _ | w
    · exact ⟨hold.later hl, nofun⟩
    · by_cases hon : call.now - w.windowStart < rateWindow
      · rw [filter_some_pos (by simpa using hon)]
        refine ⟨hold.later hl, ?_⟩
        rintro _ ⟨⟩
        dsimp only
        omega
      · rw [filter_some_neg (by simpa using hon)]
        have hb := (hold.opened _ rfl).1
        dsimp only at hb
        exact ⟨hold.expire (by omega), nofun⟩
  · have hold := h .discovery
    have hb := (hold.opened _ rfl).1
    unfold dropExpired window at *
    split_ifs with hpa
    · have hp : l.discoveryWindowStart + rateWindow ≤ call.now := by omega
      refine ⟨(hold.expire hp).opens rateWindow_pos, ?_⟩
      rintro _ ⟨⟩
      exact Nat.lt_add_of_pos_right rateWindow_pos
    · refine ⟨hold.later hl, ?_⟩
      rintro _ ⟨⟩
      dsimp only at hb ⊢
      omega

/-- A request that its client's window counts. -/
lemma ready_spend (h : l.Ready passed now)
    (hl : l.clients.lookup clientId = some w ∨ l.clients.lookup clientId = none ∧ w = .fresh now)
    (hlt : w.count budget < budget.limit) :
    RateLimiter.Ready { l with clients := l.clients.insert clientId (w.spend budget) }
      (fun account => if account = .client clientId budget then passed account ++ [(now, w.windowStart)]
        else passed account) now := by
  rintro (⟨o, budget'⟩ | _)
  · by_cases hoh : o = clientId
    · subst hoh
      have hw : Windows rateWindow budget'.limit (some (w.windowStart, w.count budget'))
          (passed (.client o budget')) now ∧ now < w.windowStart + rateWindow := by
        obtain ⟨hold, hon⟩ := h (.client o budget')
        rcases hl with hs | ⟨hn, rfl⟩
        · simp only [window, hs] at hold hon
          exact ⟨hold, hon _ rfl⟩
        · simp only [window, hn] at hold
          rw [ClientWindow.count_fresh]
          exact ⟨hold.opens rateWindow_pos, Nat.lt_add_of_pos_right rateWindow_pos⟩
      simp only [window, lookup_insert, map_some, ClientWindow.windowStart_spend,
        ClientWindow.count_spend, mem_some_iff, forall_eq', Account.client.injEq, true_and]
      refine ⟨?_, hw.2⟩
      split_ifs with hb
      · subst hb
        exact hw.1.passes hlt hw.2
      · exact hw.1
    · simp only [window, lookup_insert_ne hoh, Account.client.injEq, hoh, false_and, if_false]
      exact h (.client o budget')
  · simpa [window] using h .discovery

/-- The shared window refuses a discovery, or counts it, whether it is let through in the end or not. -/
lemma chargeDiscovery_ready (h : l.Ready passed now)
    (hd : l.chargeDiscovery class_ = some l') (allowed : Bool) :
    l'.Ready (fun account => if allowed ∧ class_ = .discovery ∧ account = .discovery then
        passed account ++ [(now, l.discoveryWindowStart)] else passed account) now ∧
      l'.clients = l.clients ∧ l'.discoveryWindowStart = l.discoveryWindowStart := by
  unfold chargeDiscovery at hd
  split_ifs at hd with hc hf <;> cases hd
  · simpa [hc] using h
  · refine ⟨?_, rfl, rfl⟩
    rintro (⟨clientId, budget⟩ | _)
    · simpa [window] using h (.client clientId budget)
    · obtain ⟨hold, hon⟩ := h .discovery
      have hn := hon _ rfl
      refine ⟨?_, by rintro _ ⟨⟩; exact hn⟩
      cases allowed
      · exact hold.spends
      · simp only [not_not.mp hc, true_and, if_true]
        exact hold.passes (Nat.lt_of_not_le hf) hn

end RateLimiter

namespace Limited

open RateLimiter

variable {s : Limited} {call : Call} {start : Nat}

lemma kept_perform (h : s.Kept) (hle : s.clock ≤ call.now) (hp : call.Prompt s) :
    (s.perform call).Kept := by
  have hr := ready_dropExpired hle hp.1 h
  have hlk := lookup_dropExpired s.limiter call call.clientId
  unfold Limited.Kept perform checkAndRecord
  generalize s.limiter.dropExpired call = l at hr hlk ⊢
  refine fun account => Windows.later ?_ (call.ordered.1.trans call.ordered.2)
  rcases hd : l.chargeDiscovery call.operation with _ | l'
  · simpa [hd, RateDecision.refused] using (hr account).1
  · obtain ⟨hcn, hcl, hst⟩ := chargeDiscovery_ready hr hd true
    simp only [hd]
    obtain ⟨w, hw, -, -, he⟩ | ⟨ha, w, hw, hlt, hl⟩ := chargeClient_cases l' call
    · rw [he]
      simpa [RateDecision.refused, window_insert_self hw] using
        ((chargeDiscovery_ready hr hd false).1 account).1
    · have hnew : l'.clients.lookup call.clientId = some w ∨
          l'.clients.lookup call.clientId = none ∧ w = .fresh call.now := by
        refine hw.imp And.left (And.imp_left fun ho => eq_none_iff_forall_ne_some.mpr fun old hold => ?_)
        -- a window that is open at the first reading is open at the last
        have hover := ho old hold
        rw [hcl, hlk, filter_eq_some_iff, decide_eq_true_eq] at hold
        have := hp.2 old hold.1
        omega
      have hs := (ready_spend hcn hnew hlt account).1
      simp only [ha, hl, true_and]
      rcases account with ⟨clientId, budget⟩ | _
      · by_cases he : clientId = call.clientId ∧ budget = call.operation.budget
        · obtain ⟨rfl, rfl⟩ := he
          simpa [window, charges] using hs
        · simpa [window, charges, he] using hs
      · by_cases hc : call.operation = .discovery
        · simpa [window, charges, hc, hst] using hs
        · simpa [window, charges, hc] using hs

lemma kept_of_reachable (h : ((limiting start).restrict Call.Prompt).Reachable s) : s.Kept := by
  refine h.invariant (fun s hs => ?_) fun s call t hs hst => ?_
  · subst hs
    rintro (_ | _)
    · exact .nil
    · exact Windows.nil.opens rateWindow_pos
  · obtain ⟨⟨hl, rfl⟩, hp⟩ := hst
    exact kept_perform hs hl hp

/-- No window starts after the last call, whatever its readings. -/
lemma begun_of_reachable (h : (limiting start).Reachable s) (account : Account) (w : Nat × Nat)
    (hw : w ∈ s.limiter.window account) : w.1 ≤ s.clock := by
  refine h.invariant (I := fun s => ∀ account, ∀ w ∈ s.limiter.window account, w.1 ≤ s.clock)
    (fun s hs => ?_) (fun s call t hs hst => ?_) account w hw
  · subst hs
    rintro (_ | _) w ⟨⟩
    exact le_rfl
  · obtain ⟨hle, rfl⟩ := hst
    have ho := call.ordered
    have hb : ∀ account, ∀ w ∈ (s.limiter.dropExpired call).window account, w.1 ≤ call.now := by
      rintro (⟨clientId, budget⟩ | _) w hw
      · simp only [window, lookup_dropExpired, mem_def, map_eq_some_iff, filter_eq_some_iff] at hw
        obtain ⟨cw, ⟨hcw, -⟩, rfl⟩ := hw
        exact (hs (.client clientId budget) _ (by simp [window, hcw])).trans hle
      · have hd := hs .discovery _ rfl
        unfold dropExpired window at hw
        split_ifs at hw <;> cases hw
        · exact le_rfl
        · exact hd.trans hle
    suffices hc : ∀ account, ∀ w ∈ (s.limiter.checkAndRecord call).1.window account, w.1 ≤ call.now from
      fun account w hw => (hc account w hw).trans (ho.1.trans ho.2)
    unfold checkAndRecord
    generalize s.limiter.dropExpired call = l at hb ⊢
    rcases hd : l.chargeDiscovery call.operation with _ | l' <;> simp only [hd]
    · exact hb
    · have hb' : ∀ account, ∀ w ∈ l'.window account, w.1 ≤ call.now := by
        obtain ⟨-, rfl⟩ | ⟨-, -, rfl⟩ := chargeDiscovery_eq_some.mp hd
        · exact hb
        · rintro (⟨clientId, budget⟩ | _) w hw
          · exact hb (.client clientId budget) w hw
          · cases hw
            exact hb .discovery (l.discoveryWindowStart, l.discoveryCount) rfl
      obtain ⟨w, hw, -, -, he⟩ | ⟨-, w, hw, -, he⟩ := chargeClient_cases l' call <;> rw [he]
      · exact fun account => window_insert_self hw account ▸ hb' account
      · have hws : w.windowStart ≤ call.now := by
          obtain ⟨hw, -⟩ | ⟨-, rfl⟩ := hw
          · exact hb' (.client call.clientId .reads) (w.windowStart, w.count .reads)
              (by simp [window, hw])
          · exact le_rfl
        rintro (⟨clientId, budget⟩ | _) x hx
        · by_cases hc : clientId = call.clientId
          · subst hc
            simp only [window, lookup_insert, map_some, mem_some_iff] at hx
            subst hx
            simpa using hws
          · simp only [window, lookup_insert_ne hc] at hx
            exact hb' (.client clientId budget) x hx
        · exact hb' .discovery x hx

end Limited

/-! ## What a refusal spends -/

/-- **The budgets hold** in the runs whose calls meet no end of a window, and a refused request,
whatever its readings, **spends nothing**, unless it is a discovery that the shared window counts
before its client's window refuses it. -/
theorem budgets_hold (start : Nat) (s : Limited) (l : RateLimiter) (call : Call) :
    (((Limited.limiting start).restrict Call.Prompt).Reachable s →
      (∀ account begun, (s.passed account).countP (·.2 = begun) ≤ account.limit) ∧
        ∀ account time, (s.passed account).countP (fun p => time ≤ p.1 ∧ p.1 ≤ time + rateWindow) ≤
          2 * account.limit) ∧
    ((l.checkAndRecord call).2.allowed = false →
      ((∀ account, (l.checkAndRecord call).1.window account = (l.dropExpired call).window account) ↔
        ¬ Overspends l call)) := by
  refine ⟨fun h => ?_, ?_⟩
  · have hk := Limited.kept_of_reachable h
    exact ⟨fun account begun => (hk account).within begun, fun account => (hk account).le_twice⟩
  · unfold RateLimiter.checkAndRecord Overspends
    generalize l.dropExpired call = l
    rcases hd : l.chargeDiscovery call.operation with _ | l' <;> simp only [hd]
    · have hf := (RateLimiter.chargeDiscovery_eq_none.mp hd).2
      exact fun _ => ⟨fun _ hov => absurd hf (Nat.not_le.mpr hov.2.1), fun _ _ => trivial⟩
    · intro ha
      obtain ⟨w, hw, -, hsp, he⟩ | ⟨hco, -⟩ := RateLimiter.chargeClient_cases l' call
      · simp only [he, RateLimiter.window_insert_self hw]
        obtain ⟨hc, rfl⟩ | ⟨hc, hlt, rfl⟩ := RateLimiter.chargeDiscovery_eq_some.mp hd
        · exact ⟨fun _ hov => hc hov.1, fun _ _ => rfl⟩
        · rw [hc] at hsp
          refine ⟨fun hs => ?_, fun hn => absurd ⟨hc, hlt, w, hw, hsp⟩ hn⟩
          have hcn := hs .discovery
          simp [RateLimiter.window] at hcn
      · rw [ha] at hco
        cases hco

/-! ## A client without writes left -/

/-- A client has made 60 writes. -/
def withoutWrites : Limited :=
  (List.replicate 60 (.at "10.0.0.2" .write 0)).foldl Limited.perform ⟨.new 0, 0, fun _ => []⟩

lemma prompt_withoutWrites : ((Limited.limiting 0).restrict Call.Prompt).Reachable withoutWrites := by
  have hr : ∀ n (s : Limited), s.clock = 0 → ((Limited.limiting 0).restrict Call.Prompt).Reachable s →
      ((Limited.limiting 0).restrict Call.Prompt).Reachable
        ((List.replicate n (.at "10.0.0.2" .write 0)).foldl Limited.perform s) := by
    intro n
    induction n with
    | zero => exact fun _ _ hs => hs
    | succ n ih => exact fun s hc hs => ih _ rfl (hs.step ⟨⟨hc.le, rfl⟩, id, fun _ _ => id⟩)
  exact hr 60 _ rfl (.init rfl)

lemma reachable_withoutWrites : (Limited.limiting 0).Reachable withoutWrites :=
  prompt_withoutWrites.of_restrict

/-- The bounds of its run, and what the refusal of a 61st write leaves. -/
theorem budgets_hold_withoutWrites :
    (withoutWrites.passed (.client "10.0.0.2" .writes)).countP (·.2 = 0) ≤ 60 ∧
      (withoutWrites.passed .discovery).countP (fun p => 0 ≤ p.1 ∧ p.1 ≤ 0 + rateWindow) ≤ 2 * 2 ∧
      (withoutWrites.limiter.checkAndRecord (.at "10.0.0.2" .write 1)).1.window .discovery =
        (withoutWrites.limiter.dropExpired (.at "10.0.0.2" .write 1)).window .discovery :=
  have h := budgets_hold 0 withoutWrites withoutWrites.limiter (.at "10.0.0.2" .write 1)
  ⟨(h.1 prompt_withoutWrites).1 (.client "10.0.0.2" .writes) 0,
    (h.1 prompt_withoutWrites).2 .discovery 0,
    (h.2 (by decide +kernel)).mpr (nofun ∘ And.left) _⟩

/-- **Its refused discoveries empty the budget of all clients.** -/
theorem refused_discovery_spends : ¬ ∀ s : Limited, (Limited.limiting 0).Reachable s → ∀ call : Call,
    s.clock ≤ call.now → (s.limiter.checkAndRecord call).2.allowed = false → ∀ account,
    (s.limiter.checkAndRecord call).1.window account = (s.limiter.dropExpired call).window account := by
  intro h
  have hc := h withoutWrites reachable_withoutWrites (.at "10.0.0.2" .discovery 0) (by decide)
    (by decide +kernel) .discovery
  exact absurd hc (by decide +kernel)

end Hypercolor.Security
