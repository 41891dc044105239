import Hypercolor.Input.Sources

/-!
# One consumer of the router

`consumption` is the machine of everything that can happen to a router, with what it delivered to
one consumer on record. Resolutions and removals of other consumers leave that consumer alone, so an
invariant of its state is one of `resolveInto`.

* **`reachable_state`**: the invariant rule for the state of the consumer.
-/

namespace Hypercolor.Input

open Lib InteractionRouter

/-- What a router is asked. -/
inductive RouterOp where
  | resolve (consumer : ConsumerIncarnation) (request : InteractionRouteRequest)
      (sources : List InteractionRouteSource) (nowMs : Nat)
  | remove (consumer : ConsumerIncarnation) (nowMs : Nat)

/-- A router with the events it delivered to one consumer, in order, and what the resolutions of
the consumer's present life returned. -/
structure RouterSession where
  router : InteractionRouter
  delivered : List TimedInputEvent
  outputs : List RoutedInteraction

namespace RouterSession

/-- The state of a consumer. -/
def state (session : RouterSession) (consumer : ConsumerIncarnation) : ConsumerRouteState :=
  (session.router.consumers.lookup consumer).getD default

/-- One operation, seen by one consumer. -/
def perform (consumer : ConsumerIncarnation) (session : RouterSession) : RouterOp → RouterSession
  | .resolve other request sources nowMs =>
    let resolved := session.router.resolveInto other request sources nowMs
    if other = consumer then
      { router := resolved.1
        delivered := session.delivered ++ resolved.2.interaction.batch.events
        outputs := session.outputs ++ [resolved.2] }
    else { session with router := resolved.1 }
  | .remove other nowMs =>
    let removed := session.router.removeConsumer other nowMs
    if other = consumer then
      { router := removed.1, delivered := session.delivered ++ removed.2, outputs := [] }
    else { session with router := removed.1 }

variable {co o : ConsumerIncarnation} {session : RouterSession}

section

variable (rq : InteractionRouteRequest) (ss : List InteractionRouteSource) (nowMs : Nat)

lemma state_resolve : (session.perform co (.resolve co rq ss nowMs)).state co =
      ((session.state co).resolveInto rq.policy (selectSources rq ss) nowMs).1 := by
  simp [perform, state, resolveInto]

lemma outputs_resolve : (session.perform co (.resolve co rq ss nowMs)).outputs = session.outputs ++
      [((session.state co).resolveInto rq.policy (selectSources rq ss) nowMs).2] := by
  simp [perform, state, resolveInto]

lemma delivered_resolve : (session.perform co (.resolve co rq ss nowMs)).delivered =
      session.delivered ++ ((session.state co).resolveInto rq.policy
        (selectSources rq ss) nowMs).2.interaction.batch.events := by
  simp [perform, state, resolveInto]

end

lemma state_remove (nowMs : Nat) : (session.perform co (.remove co nowMs)).state co = default := by
  simp [perform, state, removeConsumer]

/-- What other consumers do leaves a consumer alone. -/
lemma perform_resolve_of_ne (h : o ≠ co) (rq : InteractionRouteRequest)
    (ss : List InteractionRouteSource) (nowMs : Nat) :
    let next := session.perform co (.resolve o rq ss nowMs)
    next.router.consumers.lookup co = session.router.consumers.lookup co ∧
      next.delivered = session.delivered ∧ next.outputs = session.outputs := by
  simp [perform, h, resolveInto, AList.lookup_insert_ne h.symm]

lemma perform_remove_of_ne (h : o ≠ co) (nowMs : Nat) :
    let next := session.perform co (.remove o nowMs)
    next.router.consumers.lookup co = session.router.consumers.lookup co ∧
      next.delivered = session.delivered ∧ next.outputs = session.outputs := by
  simp [perform, h, removeConsumer, AList.lookup_erase_ne h.symm]

end RouterSession

/-- Everything that can happen to a router, seen by one consumer. -/
def consumption (consumer : ConsumerIncarnation) : Machine RouterSession RouterOp where
  init session := session = ⟨⟨∅⟩, [], []⟩
  step session op next := next = session.perform consumer op

/-- A condition on the resolutions of one consumer: on what came before, the sources that are
selected, and the time. -/
def AtResolutions (consumer : ConsumerIncarnation)
    (C : RouterSession → InteractionRouteRequest → List InteractionRouteSource → Nat → Prop)
    (op : RouterOp) (session : RouterSession) : Prop :=
  match op with
  | .resolve other request sources nowMs => other = consumer →
      C session request (selectSources request sources) nowMs
  | .remove _ _ => True

/-- **Invariant rule** for the state of a consumer. -/
theorem reachable_state {co : ConsumerIncarnation}
    {C : RouterSession → InteractionRouteRequest → List InteractionRouteSource → Nat → Prop}
    {P : ConsumerRouteState → Prop} (hd : P default) (hr : ∀ session rq selected nowMs,
      (selected.map InteractionRouteSource.incarnation).Nodup → P (session.state co) →
        C session rq selected nowMs → P ((session.state co).resolveInto rq.policy selected nowMs).1)
    {session : RouterSession} (h : ((consumption co).restrict (AtResolutions co C)).Reachable session) :
    P (session.state co) := by
  refine h.invariant (I := fun session => P (session.state co)) ?_ ?_
  · rintro session rfl
    exact hd
  · rintro session op nx hP ⟨rfl, hC⟩
    cases op with
    | resolve o rq ss nowMs =>
      by_cases hoh : o = co
      · subst hoh
        rw [RouterSession.state_resolve]
        exact hr _ rq _ nowMs (nodup_selectSources rq ss) hP (hC rfl)
      · rw [RouterSession.state, (RouterSession.perform_resolve_of_ne hoh _ _ _).1]
        exact hP
    | remove o nowMs =>
      by_cases hoh : o = co
      · subst hoh
        rw [RouterSession.state_remove]
        exact hd
      · rw [RouterSession.state, (RouterSession.perform_remove_of_ne hoh _).1]
        exact hP

/-! ## Concrete sources -/

/-- An edge of a key. -/
def keyEdge (key : String) (state : InputButtonState) (atMs seq : Nat) : TimedInputEvent :=
  ⟨.key "keyboard" key state, atMs, seq, none, 1⟩

/-- A snapshot that holds keys. -/
def holdingKeys (keys : List String) (generation : Nat) : InteractionData :=
  { (default : InteractionData) with keyboard := ⟨keys, []⟩, generation }

/-- What a slot answers that has lost nothing. -/
def answering (snapshot : InteractionData) (captured : List TimedInputEvent) : InteractionRouteRead :=
  ⟨some snapshot, ⟨1, 0, 0⟩, default, captured⟩

/-- A host source that answers every read alike. -/
def hostSource (value : Nat) (read : InteractionRouteRead) : InteractionRouteSource :=
  ⟨⟨.host, value⟩, .host, 1, fun _ => read, fun _ => read⟩

end Hypercolor.Input
