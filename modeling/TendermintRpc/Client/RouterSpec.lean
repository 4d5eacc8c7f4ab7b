import TendermintRpc.Client.Router

/-! # What each router method does

An inversion lemma for each method that can panic, and from it what the method
leaves in each table and on each channel: the sink a query and an id lead to,
the pending tables by request id, and the values enqueued on every channel. -/

namespace TendermintRpc

namespace SubscriptionRouter

variable {Data : Type}

/-- The sink the routing table holds for `id` under `query`. -/
def sink (router : SubscriptionRouter Data) (query : String) (id : SubscriptionId) :
    Option (EventTx Data) :=
  (router.subscriptions.lookup query).bind fun subsForQuery => subsForQuery.lookup id

/-- The sinks registered under `query`, in iteration order. -/
def sinksFor (router : SubscriptionRouter Data) (query : String) :
    List (Σ _ : SubscriptionId, EventTx Data) :=
  ((router.subscriptions.lookup query).map AList.entries).getD []

/-- Spec invariant 1: a subscription id is a key of at most one inner map of
the routing table. -/
def UniqueIds (router : SubscriptionRouter Data) : Prop :=
  ∀ query other id, (router.sink query id).isSome → (router.sink other id).isSome → query = other

/-- A sink is live when the receiver of its channel is still there. -/
def Live (events : EventChannels Data) (eventTx : EventTx Data) : Bool :=
  !(events eventTx.channel).closed

@[simp] theorem default_sink (query : String) (id : SubscriptionId) :
    (default : SubscriptionRouter Data).sink query id = none := rfl

@[simp] theorem default_subscriptions :
    (default : SubscriptionRouter Data).subscriptions = ∅ := rfl

@[simp] theorem default_pendingSubscribe :
    (default : SubscriptionRouter Data).pendingSubscribe = ∅ := rfl

@[simp] theorem default_pendingUnsubscribe :
    (default : SubscriptionRouter Data).pendingUnsubscribe = ∅ := rfl

/-! ## publish -/

theorem publishLoop_disconnected (ev : Event Data)
    (entries : List (Σ _ : SubscriptionId, EventTx Data)) (events : EventChannels Data)
    (disconnected : List SubscriptionId) :
    (publishLoop ev entries events disconnected).2 =
      disconnected ++ (entries.filter fun sink => !Live events sink.2).map Sigma.fst := by
  induction entries generalizing events disconnected with
  | nil => simp [publishLoop]
  | cons sink rest induction =>
      obtain ⟨id, eventTx⟩ := sink
      rw [publishLoop, induction]
      by_cases closed : (events eventTx.channel).closed <;>
        simp [closed, Live, ChannelTx.send_closed, Result.isErr]

theorem publishLoop_closed (ev : Event Data)
    (entries : List (Σ _ : SubscriptionId, EventTx Data)) (events : EventChannels Data)
    (disconnected : List SubscriptionId) (channel : Nat) :
    ((publishLoop ev entries events disconnected).1 channel).closed = (events channel).closed := by
  induction entries generalizing events disconnected with
  | nil => rfl
  | cons sink rest induction => rw [publishLoop, induction, ChannelTx.send_closed]

theorem publishLoop_enqueued (ev : Event Data)
    (entries : List (Σ _ : SubscriptionId, EventTx Data)) (events : EventChannels Data)
    (disconnected : List SubscriptionId) (channel : Nat) :
    ((publishLoop ev entries events disconnected).1 channel).enqueued =
      (events channel).enqueued ++
        if (events channel).closed then []
        else (entries.filter fun sink => sink.2.channel = channel).map fun _ => .ok ev := by
  induction entries generalizing events disconnected with
  | nil => simp [publishLoop]
  | cons sink rest induction =>
      obtain ⟨id, eventTx⟩ := sink
      rw [publishLoop, induction, ChannelTx.send_enqueued, ChannelTx.send_closed]
      by_cases same : channel = eventTx.channel
      · subst same
        by_cases closed : (events eventTx.channel).closed <;> simp [closed]
      · simp [same, Ne.symm same]

section Publish

variable {router router' : SubscriptionRouter Data} {events events' : EventChannels Data}
  {ev : Event Data}

theorem publish_inv (published : router.publish events ev = some (router', events')) :
    (router.subscriptions.lookup ev.query = none ∧ router' = router ∧ events' = events) ∨
    ∃ subsForQuery, router.subscriptions.lookup ev.query = some subsForQuery ∧
      events' = (publishLoop ev subsForQuery.entries events []).1 ∧
      router' = { router with
        subscriptions := (router.subscriptions.replace ev.query
          ((publishLoop ev subsForQuery.entries events []).2.foldl
            (fun subs id => subs.erase id) subsForQuery)) } := by
  unfold publish at published
  split at published
  · next absent => exact .inl ⟨absent, by simp_all⟩
  · next subsForQuery found =>
      simp only [found, Option.some.injEq, Prod.mk.injEq] at published
      exact .inr ⟨subsForQuery, found, published.2.symm, published.1.symm⟩

theorem publish_isSome (router : SubscriptionRouter Data) (events : EventChannels Data)
    (ev : Event Data) : (router.publish events ev).isSome := by
  unfold publish
  split
  · rfl
  · next found => simp [found]

/-- `publish` evicts exactly the sinks of the event's query whose receiver is
gone. -/
theorem sink_of_publish (published : router.publish events ev = some (router', events'))
    (query : String) (id : SubscriptionId) :
    router'.sink query id =
      if query = ev.query then (router.sink query id).filter (Live events)
      else router.sink query id := by
  rcases publish_inv published with ⟨absent, rfl, rfl⟩ | ⟨subsForQuery, found, rfl, rfl⟩
  · by_cases same : query = ev.query
    · subst same
      simp [sink, absent]
    · simp [same]
  · by_cases same : query = ev.query
    · subst same
      have member : ev.query ∈ router.subscriptions := AList.lookup_isSome.mp (by simp [found])
      simp only [sink, HashMap.lookup_replace_self member, found, Option.some_bind,
        HashMap.lookup_foldl_erase, publishLoop_disconnected, List.nil_append,
        HashMap.mem_map_fst_filter, if_true]
      cases subsForQuery.lookup id with
      | none => rfl
      | some eventTx => cases live : Live events eventTx <;> simp [Option.filter, live]
    · simp [sink, same, HashMap.lookup_replace_ne]

theorem lookup_of_publish_ne (published : router.publish events ev = some (router', events'))
    {query : String} (different : query ≠ ev.query) :
    router'.subscriptions.lookup query = router.subscriptions.lookup query := by
  rcases publish_inv published with ⟨-, rfl, rfl⟩ | ⟨subsForQuery, -, rfl, rfl⟩
  · rfl
  · exact HashMap.lookup_replace_ne different

theorem keys_of_publish (published : router.publish events ev = some (router', events')) :
    router'.subscriptions.keys = router.subscriptions.keys := by
  rcases publish_inv published with ⟨-, rfl, rfl⟩ | ⟨subsForQuery, -, rfl, rfl⟩
  · rfl
  · exact AList.keys_replace _ _ _

theorem pending_of_publish (published : router.publish events ev = some (router', events')) :
    router'.pendingSubscribe = router.pendingSubscribe ∧
      router'.pendingUnsubscribe = router.pendingUnsubscribe := by
  rcases publish_inv published with ⟨-, rfl, rfl⟩ | ⟨subsForQuery, -, rfl, rfl⟩ <;>
    exact ⟨rfl, rfl⟩

theorem closed_of_publish (published : router.publish events ev = some (router', events'))
    (channel : Nat) : (events' channel).closed = (events channel).closed := by
  rcases publish_inv published with ⟨-, rfl, rfl⟩ | ⟨subsForQuery, -, rfl, rfl⟩
  · rfl
  · exact publishLoop_closed _ _ _ _ _

/-- `publish` enqueues one `Ok(ev)` on a live channel for each sink of the
event's query that sends on it, and nothing anywhere else. -/
theorem enqueued_of_publish (published : router.publish events ev = some (router', events'))
    (channel : Nat) :
    (events' channel).enqueued =
      (events channel).enqueued ++
        if (events channel).closed then []
        else ((router.sinksFor ev.query).filter fun sink => sink.2.channel = channel).map
          fun _ => .ok ev := by
  rcases publish_inv published with ⟨absent, rfl, rfl⟩ | ⟨subsForQuery, found, rfl, rfl⟩
  · simp [sinksFor, absent]
  · simp only [publishLoop_enqueued, sinksFor, found, Option.map_some', Option.getD_some]

end Publish

/-! ## add and remove -/

section Add

variable {router router' : SubscriptionRouter Data} {id : SubscriptionId} {query : String}
  {eventTx : EventTx Data}

theorem add_inv (added : router.add id query eventTx = some router') :
    router' = { router with
      subscriptions := (router.subscriptions.lookup query).elim
        (router.subscriptions.insert query ((∅ : HashMap _ _).insert id eventTx))
        fun subsForQuery => router.subscriptions.replace query (subsForQuery.insert id eventTx) } := by
  unfold add at added
  split at added
  · next subsForQuery found =>
      rw [found]
      exact (Option.some.inj added).symm
  · next absent =>
      simp only [AList.lookup_insert, Option.some.injEq] at added
      subst added
      rw [absent]
      congr 1
      apply AList.ext
      simp [AList.replace, AList.insert, List.kreplace, List.lookmap_cons_some]

theorem add_isSome (router : SubscriptionRouter Data) (id : SubscriptionId) (query : String)
    (eventTx : EventTx Data) : (router.add id query eventTx).isSome := by
  unfold add
  split
  · rfl
  · simp [AList.lookup_insert]

theorem lookup_of_add (added : router.add id query eventTx = some router') (other : String) :
    router'.subscriptions.lookup other =
      if other = query then some (((router.subscriptions.lookup query).getD ∅).insert id eventTx)
      else router.subscriptions.lookup other := by
  rw [add_inv added]
  cases found : router.subscriptions.lookup query with
  | none =>
      by_cases same : other = query
      · subst same
        simp [AList.lookup_insert]
      · simp [same, AList.lookup_insert_ne]
  | some subsForQuery =>
      have member : query ∈ router.subscriptions := AList.lookup_isSome.mp (by simp [found])
      by_cases same : other = query
      · subst same
        simp [member]
      · simp [same]

/-- `add` installs the sink at its query and id, and changes no other sink. -/
theorem sink_of_add (added : router.add id query eventTx = some router') (other : String)
    (otherId : SubscriptionId) :
    router'.sink other otherId =
      if other = query ∧ otherId = id then some eventTx else router.sink other otherId := by
  by_cases same : other = query
  · subst same
    by_cases sameId : otherId = id
    · subst sameId
      simp [sink, lookup_of_add added, AList.lookup_insert]
    · simp only [sink, lookup_of_add added, if_true, Option.some_bind,
        AList.lookup_insert_ne sameId, sameId, and_false, if_false]
      cases router.subscriptions.lookup other <;> rfl
  · simp [sink, lookup_of_add added, same]

theorem mem_of_add (added : router.add id query eventTx = some router') (other : String) :
    other ∈ router'.subscriptions ↔ other = query ∨ other ∈ router.subscriptions := by
  rw [← AList.lookup_isSome, ← AList.lookup_isSome, lookup_of_add added]
  by_cases same : other = query <;> simp [same]

theorem pending_of_add (added : router.add id query eventTx = some router') :
    router'.pendingSubscribe = router.pendingSubscribe ∧
      router'.pendingUnsubscribe = router.pendingUnsubscribe := by
  rw [add_inv added]
  exact ⟨rfl, rfl⟩

end Add

section Remove

variable (router : SubscriptionRouter Data) (id : SubscriptionId) (query : String)

/-- `remove` uninstalls the sink at its query and id, and changes no other
sink. -/
theorem sink_remove (other : String) (otherId : SubscriptionId) :
    (router.remove id query).sink other otherId =
      if other = query ∧ otherId = id then none else router.sink other otherId := by
  unfold remove
  split
  · next absent =>
      by_cases same : other = query
      · subst same
        simp [sink, absent]
      · simp [same]
  · next subsForQuery found =>
      have member : query ∈ router.subscriptions := AList.lookup_isSome.mp (by simp [found])
      by_cases same : other = query
      · subst same
        by_cases sameId : otherId = id
        · subst sameId
          simp [sink, member, AList.lookup_erase]
        · simp [sink, member, sameId, found, AList.lookup_erase_ne]
      · simp [sink, same]

theorem mem_remove (other : String) :
    other ∈ (router.remove id query).subscriptions ↔ other ∈ router.subscriptions := by
  unfold remove
  split
  · rfl
  · exact AList.mem_replace

@[simp] theorem remove_pendingSubscribe :
    (router.remove id query).pendingSubscribe = router.pendingSubscribe := by
  unfold remove
  split <;> rfl

@[simp] theorem remove_pendingUnsubscribe :
    (router.remove id query).pendingUnsubscribe = router.pendingUnsubscribe := by
  unfold remove
  split <;> rfl

end Remove

/-! ## Pending requests and their acknowledgements -/

section Acknowledge

variable (router : SubscriptionRouter Data) (results : ResultChannels) (reqId : String)
  (err : Error)

theorem confirmAdd_of_lookup {pending : PendingSubscribe Data}
    (found : router.pendingSubscribe.lookup reqId = some pending) :
    router.confirmAdd results reqId =
      ({ router with pendingSubscribe := router.pendingSubscribe.erase reqId }.add
          pending.id pending.query pending.eventTx).map
        fun router => (router, pending.resultTx.send results (.ok ())) := by
  simp [confirmAdd, AList.extract_eq_lookup_erase, found, -ChannelTx.send_result]

/-- An acknowledgement for a request id that is not pending changes nothing and
returns `Ok(())`. -/
theorem confirmAdd_of_not_mem (absent : reqId ∉ router.pendingSubscribe) :
    router.confirmAdd results reqId = some (router, results, .ok ()) := by
  simp [confirmAdd, AList.extract_eq_lookup_erase, AList.lookup_eq_none.mpr absent,
    HashMap.erase_of_not_mem absent]

theorem confirmAdd_isSome : (router.confirmAdd results reqId).isSome := by
  cases found : router.pendingSubscribe.lookup reqId with
  | none => simp [confirmAdd_of_not_mem _ _ _ (AList.lookup_eq_none.mp found)]
  | some pending => simp [confirmAdd_of_lookup _ _ _ found, add_isSome]

theorem cancelAdd_of_lookup {pending : PendingSubscribe Data}
    (found : router.pendingSubscribe.lookup reqId = some pending) :
    router.cancelAdd results reqId err =
      ({ router with pendingSubscribe := router.pendingSubscribe.erase reqId },
        (pending.resultTx.send results (.err err)).1,
        (pending.resultTx.send results (.err err)).2.mapErr fun _ => .clientInternalError
          ("failed to communicate result of pending subscription with ID: " ++
            toString pending.id)) := by
  simp [cancelAdd, AList.extract_eq_lookup_erase, found]

theorem cancelAdd_of_not_mem (absent : reqId ∉ router.pendingSubscribe) :
    router.cancelAdd results reqId err = (router, results, .ok ()) := by
  simp [cancelAdd, AList.extract_eq_lookup_erase, AList.lookup_eq_none.mpr absent,
    HashMap.erase_of_not_mem absent]

theorem confirmRemove_of_lookup {pending : PendingUnsubscribe}
    (found : router.pendingUnsubscribe.lookup reqId = some pending) :
    router.confirmRemove results reqId =
      (({ router with pendingUnsubscribe := router.pendingUnsubscribe.erase reqId }.remove
          pending.id pending.query),
        pending.resultTx.send results (.ok ())) := by
  simp [confirmRemove, AList.extract_eq_lookup_erase, found, -ChannelTx.send_result]

theorem confirmRemove_of_not_mem (absent : reqId ∉ router.pendingUnsubscribe) :
    router.confirmRemove results reqId = (router, results, .ok ()) := by
  simp [confirmRemove, AList.extract_eq_lookup_erase, AList.lookup_eq_none.mpr absent,
    HashMap.erase_of_not_mem absent]

theorem cancelRemove_of_lookup {pending : PendingUnsubscribe}
    (found : router.pendingUnsubscribe.lookup reqId = some pending) :
    router.cancelRemove results reqId err =
      ({ router with pendingUnsubscribe := router.pendingUnsubscribe.erase reqId },
        pending.resultTx.send results (.err err)) := by
  simp [cancelRemove, AList.extract_eq_lookup_erase, found, -ChannelTx.send_result]

theorem cancelRemove_of_not_mem (absent : reqId ∉ router.pendingUnsubscribe) :
    router.cancelRemove results reqId err = (router, results, .ok ()) := by
  simp [cancelRemove, AList.extract_eq_lookup_erase, AList.lookup_eq_none.mpr absent,
    HashMap.erase_of_not_mem absent]

section Confirmed

variable {router router' : SubscriptionRouter Data} {results results' : ResultChannels}
  {reqId : String} {reply : Result Unit}

theorem confirmAdd_inv
    (confirmed : router.confirmAdd results reqId = some (router', results', reply)) :
    (router.pendingSubscribe.lookup reqId = none ∧ router' = router ∧ results' = results ∧
      reply = .ok ()) ∨
    ∃ pending, router.pendingSubscribe.lookup reqId = some pending ∧
      { router with pendingSubscribe := router.pendingSubscribe.erase reqId }.add
        pending.id pending.query pending.eventTx = some router' ∧
      pending.resultTx.send results (.ok ()) = (results', reply) := by
  cases found : router.pendingSubscribe.lookup reqId with
  | none =>
      rw [confirmAdd_of_not_mem _ _ _ (AList.lookup_eq_none.mp found)] at confirmed
      simp only [Option.some.injEq, Prod.mk.injEq] at confirmed
      exact .inl ⟨rfl, confirmed.1.symm, confirmed.2.1.symm, confirmed.2.2.symm⟩
  | some pending =>
      rw [confirmAdd_of_lookup _ _ _ found, Option.map_eq_some'] at confirmed
      obtain ⟨added, isAdded, same⟩ := confirmed
      simp only [Prod.mk.injEq] at same
      exact .inr ⟨pending, rfl, same.1 ▸ isAdded, same.2⟩

theorem pending_of_confirmAdd
    (confirmed : router.confirmAdd results reqId = some (router', results', reply)) :
    router'.pendingSubscribe = router.pendingSubscribe.erase reqId ∧
      router'.pendingUnsubscribe = router.pendingUnsubscribe := by
  rcases confirmAdd_inv confirmed with ⟨absent, rfl, -, -⟩ | ⟨pending, -, added, -⟩
  · exact ⟨(HashMap.erase_of_not_mem (AList.lookup_eq_none.mp absent)).symm, rfl⟩
  · exact pending_of_add added

/-- `confirm_add` installs the pending request's sink, if there is one. -/
theorem sink_of_confirmAdd
    (confirmed : router.confirmAdd results reqId = some (router', results', reply))
    (query : String) (id : SubscriptionId) :
    router'.sink query id =
      match router.pendingSubscribe.lookup reqId with
      | some pending =>
          if query = pending.query ∧ id = pending.id then some pending.eventTx
          else router.sink query id
      | none => router.sink query id := by
  rcases confirmAdd_inv confirmed with ⟨absent, rfl, -, -⟩ | ⟨pending, found, added, -⟩
  · rw [absent]
  · rw [found, sink_of_add added]
    rfl

theorem results_of_confirmAdd
    (confirmed : router.confirmAdd results reqId = some (router', results', reply)) :
    (results', reply) =
      match router.pendingSubscribe.lookup reqId with
      | some pending => pending.resultTx.send results (.ok ())
      | none => (results, .ok ()) := by
  rcases confirmAdd_inv confirmed with ⟨absent, -, rfl, rfl⟩ | ⟨pending, found, -, sent⟩
  · rw [absent]
  · rw [found]
    exact sent.symm

end Confirmed

section Total

variable (router : SubscriptionRouter Data) (results : ResultChannels) (reqId : String)
  (err : Error)

theorem cancelAdd_router :
    (router.cancelAdd results reqId err).1 =
      { router with pendingSubscribe := router.pendingSubscribe.erase reqId } := by
  cases found : router.pendingSubscribe.lookup reqId with
  | none =>
      have absent := AList.lookup_eq_none.mp found
      rw [cancelAdd_of_not_mem _ _ _ _ absent, HashMap.erase_of_not_mem absent]
  | some pending => rw [cancelAdd_of_lookup _ _ _ _ found]

theorem cancelAdd_results :
    (router.cancelAdd results reqId err).2.1 =
      match router.pendingSubscribe.lookup reqId with
      | some pending => (pending.resultTx.send results (.err err)).1
      | none => results := by
  cases found : router.pendingSubscribe.lookup reqId with
  | none => rw [cancelAdd_of_not_mem _ _ _ _ (AList.lookup_eq_none.mp found)]
  | some pending => rw [cancelAdd_of_lookup _ _ _ _ found]

theorem confirmRemove_router :
    (router.confirmRemove results reqId).1 =
      match router.pendingUnsubscribe.lookup reqId with
      | some pending =>
          { router with pendingUnsubscribe := router.pendingUnsubscribe.erase reqId }.remove
            pending.id pending.query
      | none => router := by
  cases found : router.pendingUnsubscribe.lookup reqId with
  | none => rw [confirmRemove_of_not_mem _ _ _ (AList.lookup_eq_none.mp found)]
  | some pending => rw [confirmRemove_of_lookup _ _ _ found]

theorem confirmRemove_results :
    (router.confirmRemove results reqId).2.1 =
      match router.pendingUnsubscribe.lookup reqId with
      | some pending => (pending.resultTx.send results (.ok ())).1
      | none => results := by
  cases found : router.pendingUnsubscribe.lookup reqId with
  | none => rw [confirmRemove_of_not_mem _ _ _ (AList.lookup_eq_none.mp found)]
  | some pending => rw [confirmRemove_of_lookup _ _ _ found]

theorem cancelRemove_router :
    (router.cancelRemove results reqId err).1 =
      { router with pendingUnsubscribe := router.pendingUnsubscribe.erase reqId } := by
  cases found : router.pendingUnsubscribe.lookup reqId with
  | none =>
      have absent := AList.lookup_eq_none.mp found
      rw [cancelRemove_of_not_mem _ _ _ _ absent, HashMap.erase_of_not_mem absent]
  | some pending => rw [cancelRemove_of_lookup _ _ _ _ found]

theorem cancelRemove_results :
    (router.cancelRemove results reqId err).2.1 =
      match router.pendingUnsubscribe.lookup reqId with
      | some pending => (pending.resultTx.send results (.err err)).1
      | none => results := by
  cases found : router.pendingUnsubscribe.lookup reqId with
  | none => rw [cancelRemove_of_not_mem _ _ _ _ (AList.lookup_eq_none.mp found)]
  | some pending => rw [cancelRemove_of_lookup _ _ _ _ found]

/-- What `confirm_add` does to the router does not depend on the reply channels. -/
theorem confirmAdd_map_router :
    (router.confirmAdd results reqId).map Prod.fst =
      match router.pendingSubscribe.lookup reqId with
      | some pending =>
          { router with pendingSubscribe := router.pendingSubscribe.erase reqId }.add
            pending.id pending.query pending.eventTx
      | none => some router := by
  cases found : router.pendingSubscribe.lookup reqId with
  | none => rw [confirmAdd_of_not_mem _ _ _ (AList.lookup_eq_none.mp found), Option.map_some']
  | some pending => simp [confirmAdd_of_lookup _ _ _ found, Option.map_map, Function.comp_def]

/-! Each acknowledgement returns an error exactly when it answers a request
whose reply receiver is gone. -/

theorem confirmAdd_isErr :
    (router.confirmAdd results reqId).map (fun answered => answered.2.2.isErr) =
      some ((router.pendingSubscribe.lookup reqId).any fun pending =>
        (results pending.resultTx.channel).closed) := by
  cases found : router.pendingSubscribe.lookup reqId with
  | none => simp [confirmAdd_of_not_mem _ _ _ (AList.lookup_eq_none.mp found), Result.isErr]
  | some pending =>
      obtain ⟨added, isAdded⟩ := Option.isSome_iff_exists.mp (add_isSome
        { router with pendingSubscribe := router.pendingSubscribe.erase reqId }
        pending.id pending.query pending.eventTx)
      simp only [confirmAdd_of_lookup _ _ _ found, isAdded, Option.map_some', Option.any_some,
        ChannelTx.send_result]
      split <;> simp_all [Result.isErr]

theorem cancelAdd_isErr :
    (router.cancelAdd results reqId err).2.2.isErr =
      (router.pendingSubscribe.lookup reqId).any fun pending =>
        (results pending.resultTx.channel).closed := by
  cases found : router.pendingSubscribe.lookup reqId with
  | none => simp [cancelAdd_of_not_mem _ _ _ _ (AList.lookup_eq_none.mp found), Result.isErr]
  | some pending =>
      simp only [cancelAdd_of_lookup _ _ _ _ found, Result.isErr_mapErr, ChannelTx.send_result,
        Option.any_some]
      split <;> simp_all [Result.isErr]

theorem confirmRemove_isErr :
    (router.confirmRemove results reqId).2.2.isErr =
      (router.pendingUnsubscribe.lookup reqId).any fun pending =>
        (results pending.resultTx.channel).closed := by
  cases found : router.pendingUnsubscribe.lookup reqId with
  | none => simp [confirmRemove_of_not_mem _ _ _ (AList.lookup_eq_none.mp found), Result.isErr]
  | some pending =>
      simp only [confirmRemove_of_lookup _ _ _ found, ChannelTx.send_result, Option.any_some]
      split <;> simp_all [Result.isErr]

theorem cancelRemove_isErr :
    (router.cancelRemove results reqId err).2.2.isErr =
      (router.pendingUnsubscribe.lookup reqId).any fun pending =>
        (results pending.resultTx.channel).closed := by
  cases found : router.pendingUnsubscribe.lookup reqId with
  | none => simp [cancelRemove_of_not_mem _ _ _ _ (AList.lookup_eq_none.mp found), Result.isErr]
  | some pending =>
      simp only [cancelRemove_of_lookup _ _ _ _ found, ChannelTx.send_result, Option.any_some]
      split <;> simp_all [Result.isErr]

end Total

end Acknowledge

/-! ## Looking a subscription up -/

section Lookup

variable (id : SubscriptionId)

theorem getActiveSubscriptionIn_isSome
    (order : List (Σ _ : String, HashMap SubscriptionId (EventTx Data))) :
    (getActiveSubscriptionIn order id).isSome = order.any fun subs => decide (id ∈ subs.2) := by
  induction order with
  | nil => rfl
  | cons subs rest induction =>
      by_cases held : id ∈ subs.2
      · simp [getActiveSubscriptionIn, held, AList.lookup_isSome]
      · simpa [getActiveSubscriptionIn, held] using induction

theorem mem_of_getActiveSubscriptionIn
    {order : List (Σ _ : String, HashMap SubscriptionId (EventTx Data))} {eventTx : EventTx Data}
    (found : getActiveSubscriptionIn order id = some eventTx) :
    ∃ subs ∈ order, subs.2.lookup id = some eventTx := by
  induction order with
  | nil => simp [getActiveSubscriptionIn] at found
  | cons subs rest induction =>
      by_cases held : id ∈ subs.2
      · exact ⟨subs, List.mem_cons_self _ _, by simpa [getActiveSubscriptionIn, held] using found⟩
      · obtain ⟨other, member, lookedUp⟩ :=
          induction (by simpa [getActiveSubscriptionIn, held] using found)
        exact ⟨other, List.mem_cons_of_mem _ member, lookedUp⟩

/-- When every map that holds the id maps it to the same sink, the search finds
that sink whatever the order. -/
theorem getActiveSubscriptionIn_of_forall
    {order : List (Σ _ : String, HashMap SubscriptionId (EventTx Data))} {eventTx : EventTx Data}
    (agree : ∀ subs ∈ order, id ∈ subs.2 → subs.2.lookup id = some eventTx)
    (held : ∃ subs ∈ order, id ∈ subs.2) : getActiveSubscriptionIn order id = some eventTx := by
  induction order with
  | nil => simp at held
  | cons subs rest induction =>
      by_cases here : id ∈ subs.2
      · simpa [getActiveSubscriptionIn, here] using agree subs (List.mem_cons_self _ _) here
      · have later : getActiveSubscriptionIn rest id = some eventTx :=
          induction (fun other member => agree other (List.mem_cons_of_mem _ member))
            (by simpa [here] using held)
        simpa [getActiveSubscriptionIn, here] using later

theorem mem_entries_iff_sink {router : SubscriptionRouter Data}
    {subs : Σ _ : String, HashMap SubscriptionId (EventTx Data)} :
    subs ∈ router.subscriptions.entries ↔ router.subscriptions.lookup subs.1 = some subs.2 :=
  AList.mem_lookup_iff.symm

/-- `is_active` holds exactly when some query leads to a sink for the id. -/
theorem isActive_iff_sink {router : SubscriptionRouter Data} :
    router.isActive id = true ↔ ∃ query, (router.sink query id).isSome := by
  simp only [isActive, List.any_eq_true, decide_eq_true_eq, sink]
  constructor
  · rintro ⟨subs, member, held⟩
    exact ⟨subs.1, by simp [mem_entries_iff_sink.mp member, AList.lookup_isSome.mpr held]⟩
  · rintro ⟨query, held⟩
    cases found : router.subscriptions.lookup query with
    | none => simp [found] at held
    | some subsForQuery =>
        simp only [found, Option.some_bind, AList.lookup_isSome] at held
        exact ⟨⟨query, subsForQuery⟩, mem_entries_iff_sink.mpr found, held⟩

theorem isActive_eq_false_iff {router : SubscriptionRouter Data} :
    router.isActive id = false ↔ ∀ query, router.sink query id = none := by
  rw [← Bool.not_eq_true, isActive_iff_sink]
  simp

end Lookup

/-! ## subscription_state -/

section State

variable (router : SubscriptionRouter Data) (reqId : String)

theorem subscriptionState_eq_notFound :
    router.subscriptionState reqId = .notFound ↔
      router.pendingSubscribe.lookup reqId = none ∧ router.pendingUnsubscribe.lookup reqId = none ∧
        router.isActive (.fromStr reqId) = false := by
  unfold subscriptionState
  split_ifs <;> simp_all [AList.lookup_eq_none]

theorem subscriptionState_eq_active :
    router.subscriptionState reqId = .active ↔
      router.pendingSubscribe.lookup reqId = none ∧ router.pendingUnsubscribe.lookup reqId = none ∧
        router.isActive (.fromStr reqId) = true := by
  unfold subscriptionState
  split_ifs <;> simp_all [AList.lookup_eq_none]

theorem subscriptionState_eq :
    router.subscriptionState reqId =
      if (router.pendingSubscribe.lookup reqId).isSome then .pending
      else if (router.pendingUnsubscribe.lookup reqId).isSome then .cancelling
      else if router.isActive (.fromStr reqId) then .active
      else .notFound := by
  simp only [subscriptionState, AList.lookup_isSome]

theorem subscriptionState_congr {router' : SubscriptionRouter Data}
    (subscribing : (router'.pendingSubscribe.lookup reqId).isSome =
      (router.pendingSubscribe.lookup reqId).isSome)
    (unsubscribing : (router'.pendingUnsubscribe.lookup reqId).isSome =
      (router.pendingUnsubscribe.lookup reqId).isSome)
    (active : router'.isActive (.fromStr reqId) = router.isActive (.fromStr reqId)) :
    router'.subscriptionState reqId = router.subscriptionState reqId := by
  rw [subscriptionState_eq, subscriptionState_eq, subscribing, unsubscribing, active]

end State

/-! ## The pending tables as a frame

Only the acknowledgements read the pending tables, each at its own request id,
so every method does the same to a router whose pending tables are replaced by
others that agree at that id. -/

section Frame

variable (router : SubscriptionRouter Data) (subscribing : HashMap String (PendingSubscribe Data))
  (unsubscribing : HashMap String PendingUnsubscribe)

/-- `router` with its two pending tables replaced. -/
def withPending : SubscriptionRouter Data :=
  { router with pendingSubscribe := subscribing, pendingUnsubscribe := unsubscribing }

@[simp] theorem withPending_subscriptions :
    (router.withPending subscribing unsubscribing).subscriptions = router.subscriptions := rfl

@[simp] theorem withPending_pendingSubscribe :
    (router.withPending subscribing unsubscribing).pendingSubscribe = subscribing := rfl

@[simp] theorem withPending_pendingUnsubscribe :
    (router.withPending subscribing unsubscribing).pendingUnsubscribe = unsubscribing := rfl

@[simp] theorem withPending_self :
    router.withPending router.pendingSubscribe router.pendingUnsubscribe = router := rfl

theorem publish_withPending (events : EventChannels Data) (ev : Event Data) :
    (router.withPending subscribing unsubscribing).publish events ev =
      (router.publish events ev).map fun published =>
        (published.1.withPending subscribing unsubscribing, published.2) := by
  cases found : router.subscriptions.lookup ev.query <;> simp [publish, withPending, found]

theorem add_withPending (id : SubscriptionId) (query : String) (eventTx : EventTx Data) :
    (router.withPending subscribing unsubscribing).add id query eventTx =
      (router.add id query eventTx).map fun added => added.withPending subscribing unsubscribing := by
  cases found : router.subscriptions.lookup query <;> simp [add, withPending, found]

theorem remove_withPending (id : SubscriptionId) (query : String) :
    (router.withPending subscribing unsubscribing).remove id query =
      (router.remove id query).withPending subscribing unsubscribing := by
  cases found : router.subscriptions.lookup query <;> simp [remove, withPending, found]

variable (results : ResultChannels) (reqId : String) (err : Error)

theorem confirmAdd_withPending
    (agree : subscribing.lookup reqId = router.pendingSubscribe.lookup reqId) :
    (router.withPending subscribing unsubscribing).confirmAdd results reqId =
      (router.confirmAdd results reqId).map fun confirmed =>
        (confirmed.1.withPending (subscribing.erase reqId) unsubscribing, confirmed.2) := by
  cases found : router.pendingSubscribe.lookup reqId with
  | none =>
      have absent : reqId ∉ subscribing := AList.lookup_eq_none.mp (agree.trans found)
      rw [confirmAdd_of_not_mem _ _ _ (AList.lookup_eq_none.mp found),
        confirmAdd_of_not_mem _ _ _ absent, HashMap.erase_of_not_mem absent]
      rfl
  | some pending =>
      rw [confirmAdd_of_lookup _ _ _ found, confirmAdd_of_lookup _ _ _ (agree.trans found)]
      have shape : { router.withPending subscribing unsubscribing with
          pendingSubscribe := (router.withPending subscribing unsubscribing).pendingSubscribe.erase
            reqId } =
          ({ router with pendingSubscribe := router.pendingSubscribe.erase reqId }).withPending
            (subscribing.erase reqId) unsubscribing := rfl
      rw [shape, add_withPending]
      simp [Option.map_map, Function.comp_def]

theorem cancelAdd_withPending
    (agree : subscribing.lookup reqId = router.pendingSubscribe.lookup reqId) :
    (router.withPending subscribing unsubscribing).cancelAdd results reqId err =
      let cancelled := router.cancelAdd results reqId err
      (cancelled.1.withPending (subscribing.erase reqId) unsubscribing, cancelled.2) := by
  cases found : router.pendingSubscribe.lookup reqId with
  | none =>
      have absent : reqId ∉ subscribing := AList.lookup_eq_none.mp (agree.trans found)
      rw [cancelAdd_of_not_mem _ _ _ _ (AList.lookup_eq_none.mp found),
        cancelAdd_of_not_mem _ _ _ _ absent, HashMap.erase_of_not_mem absent]
  | some pending =>
      rw [cancelAdd_of_lookup _ _ _ _ found, cancelAdd_of_lookup _ _ _ _ (agree.trans found)]
      rfl

theorem confirmRemove_withPending
    (agree : unsubscribing.lookup reqId = router.pendingUnsubscribe.lookup reqId) :
    (router.withPending subscribing unsubscribing).confirmRemove results reqId =
      let confirmed := router.confirmRemove results reqId
      (confirmed.1.withPending subscribing (unsubscribing.erase reqId), confirmed.2) := by
  cases found : router.pendingUnsubscribe.lookup reqId with
  | none =>
      have absent : reqId ∉ unsubscribing := AList.lookup_eq_none.mp (agree.trans found)
      rw [confirmRemove_of_not_mem _ _ _ (AList.lookup_eq_none.mp found),
        confirmRemove_of_not_mem _ _ _ absent, HashMap.erase_of_not_mem absent]
  | some pending =>
      rw [confirmRemove_of_lookup _ _ _ found, confirmRemove_of_lookup _ _ _ (agree.trans found)]
      have shape : { router.withPending subscribing unsubscribing with
          pendingUnsubscribe :=
            (router.withPending subscribing unsubscribing).pendingUnsubscribe.erase reqId } =
          ({ router with pendingUnsubscribe := router.pendingUnsubscribe.erase reqId }).withPending
            subscribing (unsubscribing.erase reqId) := rfl
      rw [shape, remove_withPending]

theorem cancelRemove_withPending
    (agree : unsubscribing.lookup reqId = router.pendingUnsubscribe.lookup reqId) :
    (router.withPending subscribing unsubscribing).cancelRemove results reqId err =
      let cancelled := router.cancelRemove results reqId err
      (cancelled.1.withPending subscribing (unsubscribing.erase reqId), cancelled.2) := by
  cases found : router.pendingUnsubscribe.lookup reqId with
  | none =>
      have absent : reqId ∉ unsubscribing := AList.lookup_eq_none.mp (agree.trans found)
      rw [cancelRemove_of_not_mem _ _ _ _ (AList.lookup_eq_none.mp found),
        cancelRemove_of_not_mem _ _ _ _ absent, HashMap.erase_of_not_mem absent]
  | some pending =>
      rw [cancelRemove_of_lookup _ _ _ _ found, cancelRemove_of_lookup _ _ _ _ (agree.trans found)]
      rfl

end Frame

end SubscriptionRouter

end TendermintRpc
