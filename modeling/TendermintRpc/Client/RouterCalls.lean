import TendermintRpc.Client.RouterSpec

/-! # Single calls of the router

What one call of `publish`, `add` or `get_active_subscription_mut` does, from
any router state: the fan-out and the eviction of `publish`, the absence of
panics, and the agreement of the lookup with `is_active`. -/

namespace TendermintRpc

namespace SubscriptionRouter

variable {Data : Type}

/-- `publish(ev)` enqueues one `Ok(ev)` for every sink of the event's query on
that sink's channel when its receiver is alive, and nothing else anywhere.
Afterwards the query's map holds exactly the sinks whose receiver was alive,
and every other table, map and key is as before. -/
theorem publish_delivers_and_evicts (router : SubscriptionRouter Data)
    (events : EventChannels Data) (ev : Event Data) :
    ∃ router' events', router.publish events ev = some (router', events') ∧
      (∀ channel, (events' channel).closed = (events channel).closed ∧
        (events' channel).enqueued = (events channel).enqueued ++
          if (events channel).closed then []
          else ((router.sinksFor ev.query).filter fun sink => sink.2.channel = channel).map
            fun _ => .ok ev) ∧
      (∀ id, router'.sink ev.query id = (router.sink ev.query id).filter (Live events)) ∧
      (∀ query, query ≠ ev.query →
        router'.subscriptions.lookup query = router.subscriptions.lookup query) ∧
      router'.subscriptions.keys = router.subscriptions.keys ∧
      router'.pendingSubscribe = router.pendingSubscribe ∧
      router'.pendingUnsubscribe = router.pendingUnsubscribe := by
  obtain ⟨⟨router', events'⟩, published⟩ := Option.isSome_iff_exists.mp
    (publish_isSome router events ev)
  refine ⟨router', events', published, fun channel =>
    ⟨closed_of_publish published channel, enqueued_of_publish published channel⟩,
    fun id => by simpa using sink_of_publish published ev.query id,
    fun _ different => lookup_of_publish_ne published different,
    keys_of_publish published, pending_of_publish published⟩

/-- Neither `add` nor `publish` panics: the `unwrap` after inserting a new map
in `add`, and the second lookup of the event's query in `publish`, always find
their key. -/
theorem add_and_publish_never_panic (router : SubscriptionRouter Data) (id : SubscriptionId)
    (query : String) (eventTx : EventTx Data) (events : EventChannels Data) (ev : Event Data) :
    (router.add id query eventTx).isSome ∧ (router.publish events ev).isSome :=
  ⟨add_isSome router id query eventTx, publish_isSome router events ev⟩

/-- `get_active_subscription_mut` finds a sink exactly when `is_active` holds,
every sink it returns is held under some query, and when a single query's map
holds the id it returns that sink in whatever order the maps are visited. -/
theorem getActiveSubscriptionMut_agrees_with_isActive (router : SubscriptionRouter Data)
    (id : SubscriptionId) :
    (router.getActiveSubscriptionMut id).isSome = router.isActive id ∧
      (∀ eventTx, router.getActiveSubscriptionMut id = some eventTx →
        ∃ query, router.sink query id = some eventTx) ∧
      ∀ query eventTx, router.sink query id = some eventTx →
        (∀ other, (router.sink other id).isSome → other = query) →
        ∀ order, order.Perm router.subscriptions.entries →
          getActiveSubscriptionIn order id = some eventTx := by
  refine ⟨getActiveSubscriptionIn_isSome id _, fun eventTx found => ?_, ?_⟩
  · obtain ⟨subs, member, lookedUp⟩ := mem_of_getActiveSubscriptionIn id found
    exact ⟨subs.1, by simp [sink, mem_entries_iff_sink.mp member, lookedUp]⟩
  · intro query eventTx held unique order permuted
    obtain ⟨subsForQuery, found, lookedUp⟩ := Option.bind_eq_some.mp held
    apply getActiveSubscriptionIn_of_forall id
    · intro subs member holds
      have entry := mem_entries_iff_sink.mp (permuted.subset member)
      have sameQuery : subs.1 = query :=
        unique subs.1 (by simp [sink, entry, AList.lookup_isSome.mpr holds])
      rw [sameQuery, found] at entry
      rw [← Option.some.inj entry, lookedUp]
    · refine ⟨⟨query, subsForQuery⟩, permuted.symm.subset (mem_entries_iff_sink.mpr found), ?_⟩
      exact AList.lookup_isSome.mp (by simp [lookedUp])

end SubscriptionRouter

end TendermintRpc
