import Mathlib.Data.List.Infix
import TendermintRpc.Driver.Step

/-! # One inner map per subscription id

The router never checks that an id it installs is absent from the maps of the
other queries, so spec invariant 1 holds along a run exactly when no step
installs an id that another query's map already holds. -/

namespace TendermintRpc

variable {Data : Type}

namespace Driver

/-- Where the step installs a sink, as `(query, id)`: an `add(id, query, _)`, or
a `confirm_add` of a pending request for `(query, id)`. -/
def installsAt (driver : Driver Data) : Operation Data → Option (String × SubscriptionId)
  | .add id query _ => some (query, id)
  | .confirmAdd reqId =>
      (driver.router.pendingSubscribe.lookup reqId).map fun pending => (pending.query, pending.id)
  | _ => none

variable {driver : Driver Data} {operation : Operation Data}

/-- What `sinkAfter_eq_some` says, read through `installsAt`. -/
theorem sinkAfter_isSome {query : String} {id : SubscriptionId}
    (held : (driver.sinkAfter query id operation).isSome) :
    (driver.router.sink query id).isSome ∨ driver.installsAt operation = some (query, id) := by
  obtain ⟨eventTx, held⟩ := Option.isSome_iff_exists.mp held
  rcases sinkAfter_eq_some held with old | rfl | ⟨reqId, pending, rfl, found, rfl, rfl, -⟩
  · exact .inl (by simp [old])
  · exact .inr rfl
  · exact .inr (by simp [installsAt, found])

/-- A step keeps a sink that is not at the place it installs at. -/
theorem sinkAfter_of_installsAt {query other : String} {id : SubscriptionId}
    (installs : driver.installsAt operation = some (query, id)) (different : other ≠ query) :
    driver.sinkAfter other id operation = driver.router.sink other id := by
  cases operation with
  | add added addedQuery eventTx =>
      simp only [installsAt, Option.some.injEq, Prod.mk.injEq] at installs
      simp [sinkAfter, installs.1, different]
  | confirmAdd reqId =>
      simp only [installsAt] at installs
      obtain ⟨pending, found, sameQuery⟩ := Option.map_eq_some'.mp installs
      simp only [Prod.mk.injEq] at sameQuery
      simp [sinkAfter, found, sameQuery.1, different]
  | _ => simp [installsAt] at installs

/-- A step that installs only ids no other query holds keeps spec invariant 1. -/
theorem uniqueIds_step (unique : driver.router.UniqueIds)
    (fresh : ∀ query id, driver.installsAt operation = some (query, id) →
      ∀ other, other ≠ query → driver.router.sink other id = none) :
    (driver.step operation).router.UniqueIds := by
  intro query other id held otherHeld
  rw [sink_step] at held otherHeld
  rcases sinkAfter_isSome held with old | installs <;>
    rcases sinkAfter_isSome otherHeld with otherOld | otherInstalls
  · exact unique query other id old otherOld
  · by_contra different
    simp [fresh other id otherInstalls query different] at old
  · by_contra different
    simp [fresh query id installs other (Ne.symm different)] at otherOld
  · exact (Prod.mk.inj (Option.some.inj (installs.symm.trans otherInstalls))).1

/-- A step that installs an id another query holds breaks spec invariant 1. -/
theorem not_uniqueIds_step {query other : String} {id : SubscriptionId}
    (installs : driver.installsAt operation = some (query, id)) (different : other ≠ query)
    (held : (driver.router.sink other id).isSome) :
    ¬(driver.step operation).router.UniqueIds := by
  intro unique
  have installed : ((driver.step operation).router.sink query id).isSome := by
    rw [sink_step]
    cases operation with
    | add added addedQuery eventTx =>
        simp only [installsAt, Option.some.injEq, Prod.mk.injEq] at installs
        simp [sinkAfter, installs.1, installs.2]
    | confirmAdd reqId =>
        simp only [installsAt] at installs
        obtain ⟨pending, found, sameQuery⟩ := Option.map_eq_some'.mp installs
        simp only [Prod.mk.injEq] at sameQuery
        simp [sinkAfter, found, sameQuery.1, sameQuery.2]
    | _ => simp [installsAt] at installs
  have kept : ((driver.step operation).router.sink other id).isSome := by
    rwa [sink_step, sinkAfter_of_installsAt installs different]
  exact different (unique other query id kept installed)

/-- A step adds to the queries of the routing table at most the one it installs
at, and removes none, not even a query whose map it empties. -/
theorem mem_subscriptions_step (driver : Driver Data) (operation : Operation Data)
    (query : String) :
    query ∈ (driver.step operation).router.subscriptions ↔
      query ∈ driver.router.subscriptions ∨
        (driver.installsAt operation).map Prod.fst = some query := by
  cases operation with
  | publish ev =>
      have kept := SubscriptionRouter.keys_of_publish (Option.eq_some_of_isSome
        (SubscriptionRouter.publish_isSome driver.router driver.events ev))
      simp only [installsAt, Option.map_none', reduceCtorEq, or_false]
      rw [AList.mem_keys, AList.mem_keys]
      exact Iff.of_eq (congrArg (fun keys => query ∈ keys) kept)
  | add id addedQuery eventTx =>
      simp only [step]
      rw [SubscriptionRouter.mem_of_add (Option.eq_some_of_isSome
        (SubscriptionRouter.add_isSome driver.router id addedQuery eventTx)) query]
      simp [installsAt, eq_comm, or_comm]
  | confirmAdd reqId =>
      obtain ⟨⟨router', results', reply⟩, confirmed⟩ := Option.isSome_iff_exists.mp
        (SubscriptionRouter.confirmAdd_isSome driver.router driver.results reqId)
      rw [step_confirmAdd driver confirmed]
      rcases SubscriptionRouter.confirmAdd_inv confirmed with
        ⟨absent, rfl, -, -⟩ | ⟨pending, found, added, -⟩
      · simp [installsAt, absent]
      · rw [SubscriptionRouter.mem_of_add added query]
        simp [installsAt, found, eq_comm, or_comm]
  | cancelAdd reqId err =>
      simp [installsAt, step, SubscriptionRouter.cancelAdd_router]
  | remove id removedQuery =>
      simp [installsAt, step, SubscriptionRouter.mem_remove]
  | confirmRemove reqId =>
      simp only [installsAt, step, SubscriptionRouter.confirmRemove_router, Option.map_none',
        reduceCtorEq, or_false]
      split
      · exact SubscriptionRouter.mem_remove _ _ _ query
      · rfl
  | cancelRemove reqId err =>
      simp [installsAt, step, SubscriptionRouter.cancelRemove_router]
  | _ => simp [installsAt, step, SubscriptionRouter.pendingAdd, SubscriptionRouter.pendingRemove]

end Driver

variable (operations : List (Operation Data))

/-- Spec invariant 1 holds after every prefix of a run from the start exactly
when no step of the run installs a subscription id under a query while the map
of another query holds that id. -/
theorem uniqueIds_iff_no_install_elsewhere :
    (∀ history, history <+: operations →
      ((default : Driver Data).run history).router.UniqueIds) ↔
    ∀ history operation, history ++ [operation] <+: operations → ∀ query id,
      ((default : Driver Data).run history).installsAt operation = some (query, id) →
      ∀ other, other ≠ query → ((default : Driver Data).run history).router.sink other id = none := by
  constructor
  · intro unique history operation before query id installs other different
    cases held : ((default : Driver Data).run history).router.sink other id with
    | none => rfl
    | some _ =>
        have breaks := Driver.not_uniqueIds_step installs different (by simp [held])
        exact absurd (by simpa using unique _ before) breaks
  · intro fresh history before
    induction history using List.reverseRecOn with
    | nil =>
        intro query other id held
        simp at held
    | append_singleton history operation induction =>
        rw [Driver.run_append_singleton]
        exact Driver.uniqueIds_step (induction ((List.prefix_append _ _).trans before))
          (fresh history operation before)

/-- The same subscription id added under two queries. -/
def addedUnderTwoQueries : List (Operation Unit) :=
  [.add ⟨"s"⟩ "a" ⟨1⟩, .add ⟨"s"⟩ "b" ⟨2⟩]

/-- After `addedUnderTwoQueries` the id is in two inner maps; removing it from
one leaves it active, and `get_active_subscription_mut` finds a different
sender depending on the order the maps are iterated in. -/
theorem addedUnderTwoQueries_breaks_uniqueness :
    ¬((default : Driver Unit).run addedUnderTwoQueries).router.UniqueIds ∧
      (((default : Driver Unit).run addedUnderTwoQueries).router.remove ⟨"s"⟩ "a").isActive
        ⟨"s"⟩ = true ∧
      SubscriptionRouter.getActiveSubscriptionIn
          ((default : Driver Unit).run addedUnderTwoQueries).router.subscriptions.entries ⟨"s"⟩ ≠
        SubscriptionRouter.getActiveSubscriptionIn
          ((default : Driver Unit).run addedUnderTwoQueries).router.subscriptions.entries.reverse
          ⟨"s"⟩ :=
  ⟨fun unique => absurd (unique "a" "b" ⟨"s"⟩ (by decide) (by decide)) (by decide), by decide,
    by decide⟩

/-- The routing table never forgets a query: after every run from the start it
has a map for exactly the queries some `add` or some `confirm_add` of a pending
request installed a sink under, even when every sink of that map has since
been removed or evicted. -/
theorem queries_are_never_forgotten (query : String) :
    query ∈ ((default : Driver Data).run operations).router.subscriptions ↔
      ∃ history operation, history ++ [operation] <+: operations ∧
        (((default : Driver Data).run history).installsAt operation).map Prod.fst = some query := by
  induction operations using List.reverseRecOn with
  | nil => simp
  | append_singleton history operation induction =>
      rw [Driver.run_append_singleton, Driver.mem_subscriptions_step, induction]
      constructor
      · rintro (⟨before, earlier, prefixed, installs⟩ | installs)
        · exact ⟨before, earlier, prefixed.trans (List.prefix_append _ _), installs⟩
        · exact ⟨history, operation, List.prefix_refl _, installs⟩
      · rintro ⟨before, earlier, prefixed, installs⟩
        rcases List.prefix_concat_iff.mp prefixed with same | prefixed
        · obtain ⟨rfl, last⟩ := List.append_inj' same rfl
          obtain rfl := List.singleton_inj.mp last
          exact .inr installs
        · exact .inl ⟨before, earlier, prefixed, installs⟩

end TendermintRpc
