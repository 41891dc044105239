import Hypercolor.Security.RetryAfter

/-!
# Clients apart

Every call sweeps the windows of all clients, and discoveries share one. Who makes none is answered as if
it were alone, **`decisions_alone`**.
-/

namespace Hypercolor.Security.RateLimiter

open List AList

variable {l l' : RateLimiter} {call : Call} {clientId : String} {now : Nat}

/-- What a client is answered in a run. -/
def decisions (clientId : String) : RateLimiter → List Call → List RateDecision
  | _, [] => []
  | l, call :: calls =>
    (if call.clientId = clientId then [(l.checkAndRecord call).2] else []) ++
      decisions clientId (l.checkAndRecord call).1 calls

/-- The client's window is the same to every call from `now` on, swept or not. -/
def Alike (clientId : String) (now : Nat) (l l' : RateLimiter) : Prop := ∀ later : Call, now ≤ later.now →
  (l.dropExpired later).clients.lookup clientId = (l'.dropExpired later).clients.lookup clientId

/-- The client's own calls find the same window and leave the same window. -/
lemma Alike.own (h : Alike call.clientId now l l') (hle : now ≤ call.now)
    (hc : call.operation ≠ .discovery) :
    (l.checkAndRecord call).2 = (l'.checkAndRecord call).2 ∧
      Alike call.clientId call.clientNow (l.checkAndRecord call).1 (l'.checkAndRecord call).1 := by
  simp only [checkAndRecord, chargeDiscovery, if_pos hc, chargeClient, h _ hle]
  split_ifs <;> exact ⟨rfl, fun later _ => by simp only [lookup_dropExpired, lookup_insert]⟩

/-- Another client's call leaves what its sweep leaves. -/
lemma lookup_checkAndRecord_ne (hn : clientId ≠ call.clientId) :
    (l.checkAndRecord call).1.clients.lookup clientId = (l.dropExpired call).clients.lookup clientId := by
  have hl : ∀ l, (chargeClient l call).1.clients.lookup clientId = l.clients.lookup clientId :=
      fun l => by
    unfold chargeClient
    dsimp only
    split_ifs <;> exact lookup_insert_ne hn
  simp only [checkAndRecord]
  split
  · rfl
  · rename_i hd
    obtain ⟨-, rfl⟩ | ⟨-, -, rfl⟩ := chargeDiscovery_eq_some.mp hd <;> exact hl _

/-- A window that another client's call has swept would be swept later as well. -/
lemma Alike.other (h : Alike clientId now l l') (hle : now ≤ call.now) (hn : clientId ≠ call.clientId) :
    Alike clientId call.clientNow (l.checkAndRecord call).1 l' := by
  intro later hlater
  have ho := call.ordered
  rw [← h later (by omega), lookup_dropExpired, lookup_checkAndRecord_ne hn, lookup_dropExpired,
    lookup_dropExpired]
  rcases l.clients.lookup clientId with _ | w
  · rfl
  · simp only [Option.filter_some]
    split_ifs <;> grind

variable {calls : List Call} (hs : calls.Pairwise (·.clientNow ≤ ·.now))
  (hc : ∀ call ∈ calls, call.clientId = clientId → call.operation ≠ .discovery)
include hs hc

/-- Limiters that are alike to the client answer it alike, whoever else calls in between. -/
lemma Alike.decisions_eq (h : Alike clientId now l l') (hle : ∀ call ∈ calls, now ≤ call.now) :
    decisions clientId l calls = decisions clientId l' (calls.filter (·.clientId = clientId)) := by
  induction calls generalizing l l' now with
  | nil => rfl
  | cons call calls ih =>
    obtain ⟨hn, hs⟩ := pairwise_cons.mp hs
    obtain ⟨hle, -⟩ := forall_mem_cons.mp hle
    obtain ⟨hc, hcs⟩ := forall_mem_cons.mp hc
    by_cases ho : call.clientId = clientId
    · subst ho
      obtain ⟨he, ha⟩ := h.own hle (hc rfl)
      simp [decisions, he, ih hs hcs ha hn]
    · simpa [decisions, ho] using ih hs hcs (h.other hle (Ne.symm ho)) hn

/-- **A client that makes no discoveries is answered as if it were alone.** -/
theorem decisions_alone (start : Nat) : decisions clientId (new start) calls =
    decisions clientId (new start) (calls.filter (·.clientId = clientId)) :=
  Alike.decisions_eq hs hc (fun _ _ => rfl) fun _ _ => Nat.zero_le _

omit hs hc in
/-- The other client calls before, between and after. -/
theorem decisions_alone_two : decisions "a" (new 0) [.at "b" .discovery 0, .at "a" .write 1,
      .at "b" .write 2, .at "b" .read (2 * rateWindow), .at "a" .write (2 * rateWindow),
      .at "b" .pairing (3 * rateWindow)] =
    decisions "a" (new 0) [.at "a" .write 1, .at "a" .write (2 * rateWindow)] :=
  decisions_alone (by decide) (by decide) 0

end Hypercolor.Security.RateLimiter
