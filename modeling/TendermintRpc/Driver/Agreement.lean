import TendermintRpc.Driver.History

/-! # Runs do not depend on how the maps hold their entries

A `HashMap` has no iteration order, and the router's maps are modelled as
association lists, which have one. Two drivers *agree* when a caller of the
router and the consumers of its channels cannot tell them apart: the same
sender at every query and id, the same pending request at every request id,
and the same channels. The order of the entries, and whether a query whose map
was emptied still has one, are not observed.

Every step keeps agreement, so every run does: `publish` sends as many copies
of the event on a channel as the query has sinks on it, whatever order it
visits them in, and every other step reads the maps through lookups only.
`get_active_subscription_mut` is the one method whose answer depends on the
order, and it does not when the id is held under one query at most. -/

namespace TendermintRpc

variable {Data : Type}

theorem Channel.ext {α : Type} {channel other : Channel α}
    (enqueued : channel.enqueued = other.enqueued) (closed : channel.closed = other.closed) :
    channel = other := by
  cases channel
  cases other
  simp_all

namespace SubscriptionRouter

variable {router other : SubscriptionRouter Data} {query : String}

theorem nodupKeys_sinksFor (router : SubscriptionRouter Data) (query : String) :
    (router.sinksFor query).NodupKeys := by
  cases found : router.subscriptions.lookup query with
  | none => simp [sinksFor, found]
  | some subsForQuery => simpa [sinksFor, found] using subsForQuery.nodupKeys

theorem dlookup_sinksFor (router : SubscriptionRouter Data) (query : String)
    (id : SubscriptionId) : (router.sinksFor query).dlookup id = router.sink query id := by
  cases found : router.subscriptions.lookup query with
  | none => simp [sinksFor, sink, found]
  | some subsForQuery =>
      simp only [sinksFor, sink, found, Option.map_some', Option.getD_some, Option.some_bind]
      rfl

/-- Routers with the same sink at every id of a query visit the same sinks
when they publish for it, possibly in another order. -/
theorem sinksFor_perm (same : ∀ id, router.sink query id = other.sink query id) :
    (router.sinksFor query).Perm (other.sinksFor query) :=
  List.lookup_ext (router.nodupKeys_sinksFor query) (other.nodupKeys_sinksFor query)
    fun id eventTx => by rw [dlookup_sinksFor, dlookup_sinksFor, same]

theorem isActive_congr (same : ∀ query id, router.sink query id = other.sink query id)
    (id : SubscriptionId) : router.isActive id = other.isActive id :=
  Bool.eq_iff_iff.mpr (by simp only [isActive_iff_sink, same])

/-- When no two queries hold the id, the search of `get_active_subscription_mut`
returns the sink of the query that holds it, in whatever order it visits the
maps. -/
theorem getActiveSubscriptionIn_of_unique {id : SubscriptionId}
    {order : List (Σ _ : String, HashMap SubscriptionId (EventTx Data))}
    (permuted : order.Perm router.subscriptions.entries)
    (unique : ∀ query other, (router.sink query id).isSome → (router.sink other id).isSome →
      query = other)
    (held : (router.sink query id).isSome) :
    getActiveSubscriptionIn order id = router.sink query id := by
  obtain ⟨eventTx, found⟩ := Option.isSome_iff_exists.mp held
  rw [found]
  obtain ⟨subsForQuery, entry, lookedUp⟩ := Option.bind_eq_some.mp found
  apply getActiveSubscriptionIn_of_forall id
  · intro subs member holds
    have stored := mem_entries_iff_sink.mp (permuted.subset member)
    have sameQuery : subs.1 = query := unique subs.1 query
      (by simp [sink, stored, AList.lookup_isSome.mpr holds]) held
    rw [sameQuery, entry] at stored
    rw [← Option.some.inj stored, lookedUp]
  · exact ⟨⟨query, subsForQuery⟩, permuted.symm.subset (mem_entries_iff_sink.mpr entry),
      AList.lookup_isSome.mp (by simp [lookedUp])⟩

/-- An id no query holds is found in no order. -/
theorem getActiveSubscriptionIn_of_forall_none {id : SubscriptionId}
    {order : List (Σ _ : String, HashMap SubscriptionId (EventTx Data))}
    (permuted : order.Perm router.subscriptions.entries)
    (absent : ∀ query, router.sink query id = none) :
    getActiveSubscriptionIn order id = none := by
  apply Option.not_isSome_iff_eq_none.mp
  rw [getActiveSubscriptionIn_isSome]
  simp only [List.any_eq_true, decide_eq_true_eq, not_exists, not_and]
  intro subs member holds
  have missing := absent subs.1
  simp only [sink, mem_entries_iff_sink.mp (permuted.subset member), Option.some_bind] at missing
  exact absurd (AList.lookup_isSome.mpr holds) (by simp [missing])

end SubscriptionRouter

namespace Driver

/-- What a caller of the router and the consumers of its channels observe of a
driver agrees with another driver. -/
structure Agree (driver other : Driver Data) : Prop where
  sink : ∀ query id, driver.router.sink query id = other.router.sink query id
  pendingSubscribe : ∀ reqId,
    driver.router.pendingSubscribe.lookup reqId = other.router.pendingSubscribe.lookup reqId
  pendingUnsubscribe : ∀ reqId,
    driver.router.pendingUnsubscribe.lookup reqId = other.router.pendingUnsubscribe.lookup reqId
  events : driver.events = other.events
  results : driver.results = other.results

theorem Agree.refl (driver : Driver Data) : driver.Agree driver :=
  ⟨fun _ _ => rfl, fun _ => rfl, fun _ => rfl, rfl, rfl⟩

section Step

variable {driver other : Driver Data}

theorem Agree.sinkAfter (agree : driver.Agree other) (query : String) (id : SubscriptionId)
    (operation : Operation Data) :
    driver.sinkAfter query id operation = other.sinkAfter query id operation := by
  cases operation <;>
    simp only [Driver.sinkAfter, agree.sink, agree.pendingSubscribe, agree.pendingUnsubscribe,
      agree.events]

/-- `publish` enqueues one copy of the event per sink on the channel, so what it
enqueues depends on the sinks of the event's query alone, not on their order. -/
theorem deliveredBy_publish_congr {ev : Event Data}
    (sameSinks : ∀ id, driver.router.sink ev.query id = other.router.sink ev.query id)
    (sameEvents : driver.events = other.events) (channel : Nat) :
    driver.deliveredBy channel (.publish ev) = other.deliveredBy channel (.publish ev) := by
  have sameCount := ((SubscriptionRouter.sinksFor_perm sameSinks).filter
    fun sink => decide (sink.2.channel = channel)).length_eq
  simp only [Driver.deliveredBy, sameEvents, List.map_const', sameCount]

theorem Agree.deliveredBy (agree : driver.Agree other) (channel : Nat)
    (operation : Operation Data) :
    driver.deliveredBy channel operation = other.deliveredBy channel operation := by
  cases operation with
  | publish ev => exact deliveredBy_publish_congr (agree.sink ev.query) agree.events channel
  | _ => rfl

theorem Agree.repliedBy (agree : driver.Agree other) (channel : Nat)
    (operation : Operation Data) :
    driver.repliedBy channel operation = other.repliedBy channel operation := by
  cases operation <;>
    simp only [Driver.repliedBy, Driver.replyOn, agree.pendingSubscribe, agree.pendingUnsubscribe,
      agree.results]

/-- Every step keeps agreement. -/
theorem Agree.step (agree : driver.Agree other) (operation : Operation Data) :
    (driver.step operation).Agree (other.step operation) where
  sink query id := by rw [sink_step, sink_step, agree.sinkAfter]
  pendingSubscribe reqId := by
    rw [pendingSubscribe_step, pendingSubscribe_step, Operation.lookup_onPendingSubscribe,
      Operation.lookup_onPendingSubscribe, agree.pendingSubscribe]
  pendingUnsubscribe reqId := by
    rw [pendingUnsubscribe_step, pendingUnsubscribe_step, Operation.lookup_onPendingUnsubscribe,
      Operation.lookup_onPendingUnsubscribe, agree.pendingUnsubscribe]
  events := funext fun channel => Channel.ext
    (by rw [events_step_enqueued, events_step_enqueued, agree.deliveredBy, agree.events])
    (by rw [events_step_closed, events_step_closed, agree.events])
  results := funext fun channel => Channel.ext
    (by rw [results_step_enqueued, results_step_enqueued, agree.repliedBy, agree.results])
    (by rw [results_step_closed, results_step_closed, agree.results])

end Step

theorem Agree.run {driver other : Driver Data} (agree : driver.Agree other) :
    ∀ operations : List (Operation Data), (driver.run operations).Agree (other.run operations)
  | [] => agree
  | operation :: operations => (agree.step operation).run operations

theorem Agree.subscriptionState {driver other : Driver Data} (agree : driver.Agree other)
    (reqId : String) :
    driver.router.subscriptionState reqId = other.router.subscriptionState reqId :=
  SubscriptionRouter.subscriptionState_congr other.router reqId (by rw [agree.pendingSubscribe])
    (by rw [agree.pendingUnsubscribe]) (SubscriptionRouter.isActive_congr agree.sink _)

theorem Agree.getActiveSubscriptionMut {driver other : Driver Data} (agree : driver.Agree other)
    {id : SubscriptionId}
    (unique : ∀ query other, (driver.router.sink query id).isSome →
      (driver.router.sink other id).isSome → query = other) :
    driver.router.getActiveSubscriptionMut id = other.router.getActiveSubscriptionMut id := by
  have otherUnique : ∀ query query', (other.router.sink query id).isSome →
      (other.router.sink query' id).isSome → query = query' := by
    simpa only [agree.sink] using unique
  by_cases held : ∃ query, (driver.router.sink query id).isSome
  · obtain ⟨query, held⟩ := held
    rw [SubscriptionRouter.getActiveSubscriptionMut,
      SubscriptionRouter.getActiveSubscriptionIn_of_unique (List.Perm.refl _) unique held,
      SubscriptionRouter.getActiveSubscriptionMut,
      SubscriptionRouter.getActiveSubscriptionIn_of_unique (List.Perm.refl _) otherUnique
        (by rwa [← agree.sink]), agree.sink]
  · have absent : ∀ query, driver.router.sink query id = none := fun query =>
      Option.not_isSome_iff_eq_none.mp fun found => held ⟨query, found⟩
    rw [SubscriptionRouter.getActiveSubscriptionMut, SubscriptionRouter.getActiveSubscriptionMut,
      SubscriptionRouter.getActiveSubscriptionIn_of_forall_none (List.Perm.refl _) absent,
      SubscriptionRouter.getActiveSubscriptionIn_of_forall_none (List.Perm.refl _) fun query => by
        rw [← agree.sink, absent]]

variable (operations : List (Operation Data))

/-- Two drivers that agree on every sink, every pending request and every
channel agree after any run: no step reads the order in which a map holds its
entries, or whether a query's emptied map is kept. So they give every request
id the same `subscription_state`, and `get_active_subscription_mut` the same
answer for every id that no two queries hold. -/
theorem agreeing_drivers_stay_in_agreement {driver other : Driver Data}
    (agree : driver.Agree other) :
    (driver.run operations).Agree (other.run operations) ∧
      (∀ reqId, (driver.run operations).router.subscriptionState reqId =
        (other.run operations).router.subscriptionState reqId) ∧
      ∀ id, (∀ query query', ((driver.run operations).router.sink query id).isSome →
          ((driver.run operations).router.sink query' id).isSome → query = query') →
        (driver.run operations).router.getActiveSubscriptionMut id =
          (other.run operations).router.getActiveSubscriptionMut id :=
  ⟨agree.run operations, (agree.run operations).subscriptionState,
    fun _ unique => (agree.run operations).getActiveSubscriptionMut unique⟩

/-- Two sinks for one query, added in one order and in the other. -/
def addTwoSinks : List (Operation Unit) := [.add ⟨"a"⟩ "q" ⟨1⟩, .add ⟨"b"⟩ "q" ⟨2⟩]

def addTwoSinksReversed : List (Operation Unit) :=
  [.add ⟨"b"⟩ "q" ⟨2⟩, .add ⟨"a"⟩ "q" ⟨1⟩]

theorem addTwoSinks_agree :
    ((default : Driver Unit).run addTwoSinks).Agree
      ((default : Driver Unit).run addTwoSinksReversed) where
  sink query id := by
    simp only [addTwoSinks, addTwoSinksReversed, Driver.run_cons, Driver.run_nil, Driver.sink_step,
      Driver.sinkAfter, SubscriptionRouter.default_sink, Driver.default_router]
    split_ifs <;> simp_all
  pendingSubscribe _ := rfl
  pendingUnsubscribe _ := rfl
  events := rfl
  results := rfl

theorem addTwoSinks_publish_agree :
    ((default : Driver Unit).run addTwoSinks).router.sinksFor "q" ≠
        ((default : Driver Unit).run addTwoSinksReversed).router.sinksFor "q" ∧
      ((default : Driver Unit).run addTwoSinks).Agree
        ((default : Driver Unit).run addTwoSinksReversed) ∧
      (((default : Driver Unit).run addTwoSinks).run [.publish ⟨"q", ()⟩]).Agree
        (((default : Driver Unit).run addTwoSinksReversed).run [.publish ⟨"q", ()⟩]) :=
  ⟨by decide, addTwoSinks_agree,
    (agreeing_drivers_stay_in_agreement [.publish ⟨"q", ()⟩] addTwoSinks_agree).1⟩

end Driver

end TendermintRpc
