import Mathlib.Data.List.Infix
import TendermintRpc.Driver.Agreement

/-! # The lifecycle of a subscription under the client's discipline

The client drives the router in a disciplined way: the subscription id of a
request is `SubscriptionId::from(req_id)`, a subscribe request is filed only
for a request id in state `NotFound`, an unsubscribe request only for one in
state `Active` and for the query that created the subscription, and the client
never calls `add` or `remove` directly. Along every such run the router keeps
an invariant, and from it `subscription_state` moves only along the lifecycle
`NotFound → Pending → Active → Cancelling → NotFound`, with a cancelled request
going back, and with an evicting `publish` ending an active subscription. -/

namespace TendermintRpc

variable {Data : Type}

namespace Operation

/-- The query of a `pending_add` for `reqId`. -/
def subscribeQuery (reqId : String) : Operation Data → Option String
  | .pendingAdd pendingId _ query _ _ => if pendingId = reqId then some query else none
  | _ => none

end Operation

/-- The query of the last `pending_add` for `reqId` in `history`: of the
request that created the subscription of `reqId`, when there is one. -/
def creatingQuery (history : List (Operation Data)) (reqId : String) : Option String :=
  history.foldl (fun found operation => (operation.subscribeQuery reqId).or found) none

@[simp] theorem creatingQuery_append_singleton (history : List (Operation Data))
    (operation : Operation Data) (reqId : String) :
    creatingQuery (history ++ [operation]) reqId =
      (operation.subscribeQuery reqId).or (creatingQuery history reqId) := by
  simp [creatingQuery, List.foldl_append]

/-- Whether the client's discipline lets it take the step after `history`. -/
def clientMay (history : List (Operation Data)) : Operation Data → Bool
  | .pendingAdd reqId subsId _ _ _ =>
      decide (subsId = .fromStr reqId) &&
        decide (((default : Driver Data).run history).router.subscriptionState reqId = .notFound)
  | .pendingRemove reqId subsId query _ =>
      decide (subsId = .fromStr reqId) &&
        decide (((default : Driver Data).run history).router.subscriptionState reqId = .active) &&
        decide (creatingQuery history reqId = some query)
  | .add .. => false
  | .remove .. => false
  | _ => true

/-- Whether every step of `operations` is one the discipline allows after
`history` and the steps of `operations` before it. -/
def disciplinedAfter (history : List (Operation Data)) : List (Operation Data) → Bool
  | [] => true
  | operation :: rest => clientMay history operation && disciplinedAfter (history ++ [operation]) rest

/-- A run from the start that follows the client's discipline. -/
def Disciplined (operations : List (Operation Data)) : Prop :=
  disciplinedAfter [] operations = true

instance (operations : List (Operation Data)) : Decidable (Disciplined operations) :=
  inferInstanceAs (Decidable (_ = true))

theorem disciplinedAfter_append_singleton (history rest : List (Operation Data))
    (operation : Operation Data) :
    disciplinedAfter history (rest ++ [operation]) =
      (disciplinedAfter history rest && clientMay (history ++ rest) operation) := by
  induction rest generalizing history with
  | nil => simp [disciplinedAfter]
  | cons first rest induction => simp [disciplinedAfter, induction, Bool.and_assoc]

theorem Disciplined.append_singleton {history : List (Operation Data)}
    {operation : Operation Data} :
    Disciplined (history ++ [operation]) ↔
      Disciplined history ∧ clientMay history operation = true := by
  simp [Disciplined, disciplinedAfter_append_singleton]

theorem Disciplined.of_prefix {history operations : List (Operation Data)}
    (disciplined : Disciplined operations) (before : history <+: operations) :
    Disciplined history := by
  obtain ⟨rest, rfl⟩ := before
  induction rest using List.reverseRecOn with
  | nil => simpa using disciplined
  | append_singleton rest operation induction =>
      rw [← List.append_assoc, Disciplined.append_singleton] at disciplined
      exact induction disciplined.1

/-! ## The invariant of disciplined runs -/

/-- What every disciplined run keeps true of the router after `history`: no
request id is both subscribing and unsubscribing; a pending request of either
kind is for `SubscriptionId::from(req_id)` and for the query of the last
`pending_add` of its request id, and the subscription of a pending subscribe
request is not active; and an id is active only under the query of the last
`pending_add` of its request id. -/
structure Lifecycle (history : List (Operation Data)) (router : SubscriptionRouter Data) :
    Prop where
  exclusive : ∀ reqId, (router.pendingSubscribe.lookup reqId).isSome →
    router.pendingUnsubscribe.lookup reqId = none
  subscribing : ∀ reqId pending, router.pendingSubscribe.lookup reqId = some pending →
    pending.id = .fromStr reqId ∧ creatingQuery history reqId = some pending.query ∧
      ∀ query, router.sink query (.fromStr reqId) = none
  unsubscribing : ∀ reqId pending, router.pendingUnsubscribe.lookup reqId = some pending →
    pending.id = .fromStr reqId ∧ creatingQuery history reqId = some pending.query
  active : ∀ query id, (router.sink query id).isSome → creatingQuery history id.value = some query

theorem Lifecycle.start : Lifecycle [] (default : SubscriptionRouter Data) :=
  ⟨fun _ found => by simp at found, fun _ _ found => by simp at found,
    fun _ _ found => by simp at found, fun _ _ held => by simp at held⟩

/-- A step that files no request, only forgets pending requests and only
removes sinks keeps the invariant. -/
theorem Lifecycle.mono {history history' : List (Operation Data)}
    {router router' : SubscriptionRouter Data} (lifecycle : Lifecycle history router)
    (sameQuery : ∀ reqId, creatingQuery history' reqId = creatingQuery history reqId)
    (subscribing : ∀ reqId pending, router'.pendingSubscribe.lookup reqId = some pending →
      router.pendingSubscribe.lookup reqId = some pending)
    (unsubscribing : ∀ reqId pending, router'.pendingUnsubscribe.lookup reqId = some pending →
      router.pendingUnsubscribe.lookup reqId = some pending)
    (sinks : ∀ query id, (router'.sink query id).isSome → (router.sink query id).isSome) :
    Lifecycle history' router' where
  exclusive reqId found := by
    obtain ⟨pending, found⟩ := Option.isSome_iff_exists.mp found
    have absent := lifecycle.exclusive reqId (by simp [subscribing reqId pending found])
    cases unsubscribed : router'.pendingUnsubscribe.lookup reqId with
    | none => rfl
    | some other => simp [unsubscribing reqId other unsubscribed] at absent
  subscribing reqId pending found := by
    obtain ⟨id, query, inactive⟩ := lifecycle.subscribing reqId pending (subscribing _ _ found)
    refine ⟨id, (sameQuery reqId).trans query, fun other => ?_⟩
    cases held : router'.sink other (.fromStr reqId) with
    | none => rfl
    | some _ => simpa [inactive other] using sinks other (.fromStr reqId) (by simp [held])
  unsubscribing reqId pending found := by
    obtain ⟨id, query⟩ := lifecycle.unsubscribing reqId pending (unsubscribing _ _ found)
    exact ⟨id, (sameQuery reqId).trans query⟩
  active query id held := (sameQuery id.value).trans (lifecycle.active query id (sinks _ _ held))

namespace Lifecycle

variable {history : List (Operation Data)} {router : SubscriptionRouter Data}

theorem not_isActive (lifecycle : Lifecycle history router) {reqId : String}
    {pending : PendingSubscribe Data} (found : router.pendingSubscribe.lookup reqId = some pending) :
    router.isActive (.fromStr reqId) = false :=
  (SubscriptionRouter.isActive_eq_false_iff _).mpr (lifecycle.subscribing reqId pending found).2.2

/-- Filing a subscribe request for a request id in state `NotFound`, with the
subscription id `SubscriptionId::from(req_id)`, keeps the invariant. -/
theorem pendingAdd (lifecycle : Lifecycle history router) {reqId : String} {query : String}
    {eventTx : EventTx Data} {resultTx : ResultTx}
    (notFound : router.subscriptionState reqId = .notFound) :
    Lifecycle (history ++ [.pendingAdd reqId (.fromStr reqId) query eventTx resultTx])
      (router.pendingAdd reqId (.fromStr reqId) query eventTx resultTx) := by
  obtain ⟨notSubscribing, notUnsubscribing, inactive⟩ :=
    (SubscriptionRouter.subscriptionState_eq_notFound router reqId).mp notFound
  have noSink := (SubscriptionRouter.isActive_eq_false_iff _).mp inactive
  have created : ∀ other, creatingQuery
      (history ++ [.pendingAdd reqId (.fromStr reqId) query eventTx resultTx]) other =
        if reqId = other then some query else creatingQuery history other := fun other => by
    by_cases same : reqId = other <;> simp [Operation.subscribeQuery, same]
  constructor
  · intro other found
    by_cases same : reqId = other
    · subst same
      exact notUnsubscribing
    · exact lifecycle.exclusive other
        (by simpa [SubscriptionRouter.pendingAdd, AList.lookup_insert_ne (Ne.symm same)] using found)
  · intro other pending found
    by_cases same : reqId = other
    · subst same
      simp only [SubscriptionRouter.pendingAdd, AList.lookup_insert, Option.some.injEq] at found
      subst found
      exact ⟨rfl, by simp [created], noSink⟩
    · simp only [SubscriptionRouter.pendingAdd, AList.lookup_insert_ne (Ne.symm same)] at found
      rw [created, if_neg same]
      exact lifecycle.subscribing other pending found
  · intro other pending found
    have different : reqId ≠ other := by
      rintro rfl
      simp [SubscriptionRouter.pendingAdd, notUnsubscribing] at found
    rw [created, if_neg different]
    exact lifecycle.unsubscribing other pending found
  · intro other id held
    have different : reqId ≠ id.value := by
      rintro rfl
      change (router.sink other id).isSome = true at held
      rw [← SubscriptionId.fromStr_value id, noSink other] at held
      cases held
    rw [created, if_neg different]
    exact lifecycle.active other id held

/-- Filing an unsubscribe request for an active request id, with the
subscription id `SubscriptionId::from(req_id)` and the query that created the
subscription, keeps the invariant. -/
theorem pendingRemove (lifecycle : Lifecycle history router) {reqId : String} {query : String}
    {resultTx : ResultTx} (active : router.subscriptionState reqId = .active)
    (created : creatingQuery history reqId = some query) :
    Lifecycle (history ++ [.pendingRemove reqId (.fromStr reqId) query resultTx])
      (router.pendingRemove reqId (.fromStr reqId) query resultTx) := by
  obtain ⟨notSubscribing, -, -⟩ :=
    (SubscriptionRouter.subscriptionState_eq_active router reqId).mp active
  have sameQuery : ∀ other, creatingQuery
      (history ++ [.pendingRemove reqId (.fromStr reqId) query resultTx]) other =
        creatingQuery history other := by
    simp [Operation.subscribeQuery]
  refine ⟨fun other found => ?_, fun other pending found => ?_, fun other pending found => ?_,
    fun other id held => ?_⟩
  · have different : reqId ≠ other := by
      rintro rfl
      simp [SubscriptionRouter.pendingRemove, notSubscribing] at found
    simpa [SubscriptionRouter.pendingRemove, AList.lookup_insert_ne (Ne.symm different)] using
      lifecycle.exclusive other found
  · rw [sameQuery]
    exact lifecycle.subscribing other pending found
  · rw [sameQuery]
    by_cases same : reqId = other
    · subst same
      simp only [SubscriptionRouter.pendingRemove, AList.lookup_insert, Option.some.injEq] at found
      subst found
      exact ⟨rfl, created⟩
    · simp only [SubscriptionRouter.pendingRemove, AList.lookup_insert_ne (Ne.symm same)] at found
      exact lifecycle.unsubscribing other pending found
  · rw [sameQuery]
    exact lifecycle.active other id held

/-- Confirming a pending subscribe request installs its sink at an id that is
active nowhere else, under the query of the request, and keeps the
invariant. -/
theorem confirmAdd (lifecycle : Lifecycle history router) {results : ResultChannels}
    {reqId : String} {pending : PendingSubscribe Data}
    (found : router.pendingSubscribe.lookup reqId = some pending)
    {router' : SubscriptionRouter Data} {results' : ResultChannels} {reply : Result Unit}
    (confirmed : router.confirmAdd results reqId = some (router', results', reply)) :
    Lifecycle (history ++ [.confirmAdd reqId]) router' := by
  obtain ⟨id, created, -⟩ := lifecycle.subscribing reqId pending found
  obtain ⟨subscribing, unsubscribing⟩ := SubscriptionRouter.pending_of_confirmAdd confirmed
  have sink := SubscriptionRouter.sink_of_confirmAdd confirmed
  simp only [found] at sink
  have sameQuery : ∀ other, creatingQuery (history ++ [.confirmAdd reqId]) other =
      creatingQuery history other := by
    simp [Operation.subscribeQuery]
  refine ⟨fun other subscribed => ?_, fun other filed filedFound => ?_,
    fun other filed filedFound => ?_, fun query other held => ?_⟩
  · rw [subscribing] at subscribed
    have different : other ≠ reqId := by
      rintro rfl
      simp at subscribed
    rw [unsubscribing]
    exact lifecycle.exclusive other (by rwa [AList.lookup_erase_ne different] at subscribed)
  · rw [subscribing] at filedFound
    have different : other ≠ reqId := by
      rintro rfl
      simp at filedFound
    rw [AList.lookup_erase_ne different] at filedFound
    obtain ⟨filedId, filedQuery, inactive⟩ := lifecycle.subscribing other filed filedFound
    refine ⟨filedId, (sameQuery other).trans filedQuery, fun query => ?_⟩
    have otherId : SubscriptionId.fromStr other ≠ pending.id := by
      rw [id]
      exact fun same => different (SubscriptionId.fromStr_injective same)
    simp [sink, otherId, inactive query]
  · rw [unsubscribing] at filedFound
    rw [sameQuery]
    exact lifecycle.unsubscribing other filed filedFound
  · rw [sameQuery, sink] at *
    split at held
    · next installed =>
        obtain ⟨rfl, rfl⟩ := installed
        rw [id]
        exact created
    · exact lifecycle.active query other held

/-- One step the discipline allows keeps the invariant. -/
theorem step {operation : Operation Data}
    (lifecycle : Lifecycle history ((default : Driver Data).run history).router)
    (may : clientMay history operation = true) :
    Lifecycle (history ++ [operation]) (((default : Driver Data).run history).step operation).router := by
  have sameQuery : (∀ reqId, operation.subscribeQuery reqId = none) → ∀ reqId,
      creatingQuery (history ++ [operation]) reqId = creatingQuery history reqId := by
    intro files reqId
    simp [files]
  cases operation with
  | pendingAdd reqId subsId query eventTx resultTx =>
      simp only [clientMay, Bool.and_eq_true, decide_eq_true_eq] at may
      obtain ⟨rfl, notFound⟩ := may
      exact lifecycle.pendingAdd notFound
  | pendingRemove reqId subsId query resultTx =>
      simp only [clientMay, Bool.and_eq_true, decide_eq_true_eq] at may
      obtain ⟨⟨rfl, active⟩, created⟩ := may
      exact lifecycle.pendingRemove active created
  | confirmAdd reqId =>
      obtain ⟨⟨router', results', reply⟩, confirmed⟩ := Option.isSome_iff_exists.mp
        (SubscriptionRouter.confirmAdd_isSome ((default : Driver Data).run history).router
          ((default : Driver Data).run history).results reqId)
      rw [Driver.step_confirmAdd _ confirmed]
      cases found : ((default : Driver Data).run history).router.pendingSubscribe.lookup reqId with
      | some pending => exact lifecycle.confirmAdd found confirmed
      | none =>
          have absent := AList.lookup_eq_none.mp found
          rw [SubscriptionRouter.confirmAdd_of_not_mem _ _ _ absent] at confirmed
          cases confirmed
          exact lifecycle.mono (sameQuery fun _ => rfl) (fun _ _ => id) (fun _ _ => id) (fun _ _ => id)
  | add id query eventTx => simp [clientMay] at may
  | remove id query => simp [clientMay] at may
  | _ =>
      exact lifecycle.mono (sameQuery fun _ => rfl)
        (fun _ _ found => Driver.pendingSubscribe_of_step found rfl)
        (fun _ _ found => Driver.pendingUnsubscribe_of_step found rfl)
        (fun _ _ => Driver.sink_of_step (by simp) (by simp))

end Lifecycle

/-- Every disciplined run from the start keeps the invariant. -/
theorem lifecycle_run {history : List (Operation Data)} (disciplined : Disciplined history) :
    Lifecycle history ((default : Driver Data).run history).router := by
  induction history using List.reverseRecOn with
  | nil => exact Lifecycle.start
  | append_singleton history operation induction =>
      rw [Disciplined.append_singleton] at disciplined
      rw [Driver.run_append_singleton]
      exact (induction disciplined.1).step disciplined.2

/-! ## The changes of `subscription_state` -/

/-- The changes of `subscription_state(reqId)` the lifecycle allows, each with
the step that makes it and what that step needs of the driver it starts from:
a `cancel_remove` goes back to `Active` exactly when the subscription is still
active, and to `NotFound` only when its sink was evicted while the request was
pending; a `publish` ends an active subscription only by evicting a sink of the
id under the event's query whose receiver is gone. -/
def LifecycleChange (driver : Driver Data) (reqId : String) :
    SubscriptionState → SubscriptionState → Operation Data → Prop
  | .notFound, .pending, .pendingAdd pendingId .. => pendingId = reqId
  | .pending, .active, .confirmAdd acknowledged => acknowledged = reqId
  | .pending, .notFound, .cancelAdd acknowledged _ => acknowledged = reqId
  | .active, .cancelling, .pendingRemove pendingId .. => pendingId = reqId
  | .cancelling, .notFound, .confirmRemove acknowledged => acknowledged = reqId
  | .cancelling, .active, .cancelRemove acknowledged _ =>
      acknowledged = reqId ∧ driver.router.isActive (.fromStr reqId) = true
  | .cancelling, .notFound, .cancelRemove acknowledged _ =>
      acknowledged = reqId ∧ driver.router.isActive (.fromStr reqId) = false
  | .active, .notFound, .publish ev =>
      ∃ eventTx, driver.router.sink ev.query (.fromStr reqId) = some eventTx ∧
        SubscriptionRouter.Live driver.events eventTx = false
  | _, _, _ => False

namespace Driver

variable {driver : Driver Data} {ev : Event Data} {id : SubscriptionId}

/-- `publish` only evicts sinks, so an id active after it was active before. -/
theorem isActive_of_publish (active : (driver.step (.publish ev)).router.isActive id = true) :
    driver.router.isActive id = true := by
  obtain ⟨query, held⟩ := (SubscriptionRouter.isActive_iff_sink _).mp active
  refine (SubscriptionRouter.isActive_iff_sink _).mpr ⟨query, ?_⟩
  rw [sink_step] at held
  simp only [sinkAfter] at held
  split at held
  · exact Option.isSome_filter_of_isSome _ _ held
  · exact held

/-- A `publish` that leaves an active id inactive evicted a sink of the id under
the event's query whose receiver was gone. -/
theorem exists_evicted_of_publish (active : driver.router.isActive id = true)
    (inactive : (driver.step (.publish ev)).router.isActive id = false) :
    ∃ eventTx, driver.router.sink ev.query id = some eventTx ∧
      SubscriptionRouter.Live driver.events eventTx = false := by
  obtain ⟨query, held⟩ := (SubscriptionRouter.isActive_iff_sink _).mp active
  obtain ⟨eventTx, found⟩ := Option.isSome_iff_exists.mp held
  have gone := (SubscriptionRouter.isActive_eq_false_iff _).mp inactive query
  rw [sink_step] at gone
  simp only [sinkAfter, found] at gone
  split at gone
  · next published =>
      subst published
      exact ⟨eventTx, found, by simpa using gone⟩
  · cases gone

end Driver

namespace Lifecycle

variable {history : List (Operation Data)} {driver : Driver Data} {reqId : String}

/-- A step that neither files nor answers a request for `reqId`, other than
`add`, `remove` and `publish`, leaves every sink of `SubscriptionId::from(reqId)`
as it is. -/
theorem sinkAfter_of_untouched (lifecycle : Lifecycle history driver.router)
    {operation : Operation Data}
    (untouchedSubscribe : operation.touchesPendingSubscribe reqId = false)
    (untouchedUnsubscribe : operation.touchesPendingUnsubscribe reqId = false)
    (noAdd : ∀ id query eventTx, operation ≠ .add id query eventTx)
    (noRemove : ∀ id query, operation ≠ .remove id query) (noPublish : ∀ ev, operation ≠ .publish ev)
    (query : String) :
    driver.sinkAfter query (.fromStr reqId) operation = driver.router.sink query (.fromStr reqId) := by
  cases operation with
  | publish ev => exact absurd rfl (noPublish ev)
  | add id addedQuery eventTx => exact absurd rfl (noAdd id addedQuery eventTx)
  | remove id removedQuery => exact absurd rfl (noRemove id removedQuery)
  | confirmAdd acknowledged =>
      simp only [Driver.sinkAfter]
      split
      · next pending found =>
          have different : SubscriptionId.fromStr reqId ≠ pending.id := by
            rw [(lifecycle.subscribing acknowledged pending found).1]
            intro same
            simp_all [Operation.touchesPendingSubscribe, SubscriptionId.fromStr_injective same]
          simp [different]
      · rfl
  | confirmRemove acknowledged =>
      simp only [Driver.sinkAfter]
      split
      · next pending found =>
          have different : SubscriptionId.fromStr reqId ≠ pending.id := by
            rw [(lifecycle.unsubscribing acknowledged pending found).1]
            intro same
            simp_all [Operation.touchesPendingUnsubscribe, SubscriptionId.fromStr_injective same]
          simp [different]
      · rfl
  | _ => rfl

/-- Such a step leaves `subscription_state(reqId)` as it is. -/
theorem subscriptionState_of_untouched (lifecycle : Lifecycle history driver.router)
    {operation : Operation Data}
    (untouchedSubscribe : operation.touchesPendingSubscribe reqId = false)
    (untouchedUnsubscribe : operation.touchesPendingUnsubscribe reqId = false)
    (noAdd : ∀ id query eventTx, operation ≠ .add id query eventTx)
    (noRemove : ∀ id query, operation ≠ .remove id query) (noPublish : ∀ ev, operation ≠ .publish ev) :
    (driver.step operation).router.subscriptionState reqId =
      driver.router.subscriptionState reqId := by
  apply SubscriptionRouter.subscriptionState_congr
  · rw [Driver.pendingSubscribe_step, Operation.lookup_onPendingSubscribe, untouchedSubscribe]
    rfl
  · rw [Driver.pendingUnsubscribe_step, Operation.lookup_onPendingUnsubscribe, untouchedUnsubscribe]
    rfl
  · apply Bool.eq_iff_iff.mpr
    simp only [SubscriptionRouter.isActive_iff_sink, Driver.sink_step,
      lifecycle.sinkAfter_of_untouched untouchedSubscribe untouchedUnsubscribe noAdd noRemove
        noPublish]

/-- A request id with a pending unsubscribe request has no pending subscribe
request. -/
theorem not_subscribing (lifecycle : Lifecycle history driver.router) {pending : PendingUnsubscribe}
    (found : driver.router.pendingUnsubscribe.lookup reqId = some pending) :
    driver.router.pendingSubscribe.lookup reqId = none := by
  cases subscribed : driver.router.pendingSubscribe.lookup reqId with
  | none => rfl
  | some _ => simpa [found] using lifecycle.exclusive reqId (by simp [subscribed])

/-- `publish` only evicts sinks, so it can only end an active subscription, and
only by evicting a sink whose receiver is gone. -/
theorem change_publish (ev : Event Data)
    (changed : (driver.step (.publish ev)).router.subscriptionState reqId ≠
      driver.router.subscriptionState reqId) :
    LifecycleChange driver reqId (driver.router.subscriptionState reqId)
      ((driver.step (.publish ev)).router.subscriptionState reqId) (.publish ev) := by
  rw [SubscriptionRouter.subscriptionState_eq, SubscriptionRouter.subscriptionState_eq,
    Driver.pendingSubscribe_step, Driver.pendingUnsubscribe_step] at changed ⊢
  simp only [Operation.onPendingSubscribe, Operation.onPendingUnsubscribe] at changed ⊢
  by_cases subscribing : (driver.router.pendingSubscribe.lookup reqId).isSome
  · simp [subscribing] at changed
  by_cases unsubscribing : (driver.router.pendingUnsubscribe.lookup reqId).isSome
  · simp [subscribing, unsubscribing] at changed
  cases after : (driver.step (.publish ev)).router.isActive (.fromStr reqId)
  · cases before : driver.router.isActive (.fromStr reqId)
    · simp [after, before] at changed
    · simp only [subscribing, unsubscribing, after, before, Bool.false_eq_true, ↓reduceIte]
      exact Driver.exists_evicted_of_publish before after
  · simp [after, Driver.isActive_of_publish after] at changed

theorem change_pendingAdd {query : String} {eventTx : EventTx Data} {resultTx : ResultTx}
    (notFound : driver.router.subscriptionState reqId = .notFound) :
    LifecycleChange driver reqId (driver.router.subscriptionState reqId)
      ((driver.step (.pendingAdd reqId (.fromStr reqId) query eventTx resultTx)).router
        |>.subscriptionState reqId) (.pendingAdd reqId (.fromStr reqId) query eventTx resultTx) := by
  rw [notFound, SubscriptionRouter.subscriptionState_eq]
  simp [Driver.step, SubscriptionRouter.pendingAdd]
  exact rfl

theorem change_pendingRemove {query : String} {resultTx : ResultTx}
    (active : driver.router.subscriptionState reqId = .active) :
    LifecycleChange driver reqId (driver.router.subscriptionState reqId)
      ((driver.step (.pendingRemove reqId (.fromStr reqId) query resultTx)).router.subscriptionState
        reqId) (.pendingRemove reqId (.fromStr reqId) query resultTx : Operation Data) := by
  have notSubscribing := ((SubscriptionRouter.subscriptionState_eq_active _ _).mp active).1
  rw [active, SubscriptionRouter.subscriptionState_eq]
  simp [Driver.step, SubscriptionRouter.pendingRemove, notSubscribing]
  exact rfl

/-- A `confirm_add` that changes the state installs the sink of a pending
request, whose id was active nowhere. -/
theorem change_confirmAdd (lifecycle : Lifecycle history driver.router)
    (changed : (driver.step (.confirmAdd reqId)).router.subscriptionState reqId ≠
      driver.router.subscriptionState reqId) :
    LifecycleChange driver reqId (driver.router.subscriptionState reqId)
      ((driver.step (.confirmAdd reqId)).router.subscriptionState reqId)
      (.confirmAdd reqId : Operation Data) := by
  obtain ⟨⟨router', results', reply⟩, confirmed⟩ := Option.isSome_iff_exists.mp
    (SubscriptionRouter.confirmAdd_isSome driver.router driver.results reqId)
  rw [Driver.step_confirmAdd driver confirmed] at changed ⊢
  cases found : driver.router.pendingSubscribe.lookup reqId with
  | none =>
      rw [SubscriptionRouter.confirmAdd_of_not_mem _ _ _ (AList.lookup_eq_none.mp found)]
        at confirmed
      cases confirmed
      exact absurd rfl changed
  | some pending =>
      obtain ⟨subscribing, unsubscribing⟩ := SubscriptionRouter.pending_of_confirmAdd confirmed
      have installed := SubscriptionRouter.sink_of_confirmAdd confirmed pending.query pending.id
      simp only [found, and_self, if_true] at installed
      have active : router'.isActive (.fromStr reqId) = true :=
        (SubscriptionRouter.isActive_iff_sink _).mpr ⟨pending.query, by
          rw [← (lifecycle.subscribing reqId pending found).1, installed]
          rfl⟩
      have notUnsubscribing := lifecycle.exclusive reqId (by simp [found])
      rw [SubscriptionRouter.subscriptionState_eq, SubscriptionRouter.subscriptionState_eq]
      simp [found, subscribing, unsubscribing, notUnsubscribing, active]
      exact rfl

theorem change_cancelAdd (lifecycle : Lifecycle history driver.router) {err : Error}
    (changed : (driver.step (.cancelAdd reqId err)).router.subscriptionState reqId ≠
      driver.router.subscriptionState reqId) :
    LifecycleChange driver reqId (driver.router.subscriptionState reqId)
      ((driver.step (.cancelAdd reqId err)).router.subscriptionState reqId)
      (.cancelAdd reqId err : Operation Data) := by
  have active : (driver.step (.cancelAdd reqId err)).router.isActive (.fromStr reqId) =
      driver.router.isActive (.fromStr reqId) := by
    simp only [Driver.step, SubscriptionRouter.cancelAdd_router]
    rfl
  rw [SubscriptionRouter.subscriptionState_eq, SubscriptionRouter.subscriptionState_eq,
    active] at changed ⊢
  cases found : driver.router.pendingSubscribe.lookup reqId with
  | none => simp [Driver.step, SubscriptionRouter.cancelAdd_router, found] at changed
  | some pending =>
      have notUnsubscribing := lifecycle.exclusive reqId (by simp [found])
      simp [Driver.step, SubscriptionRouter.cancelAdd_router, found, notUnsubscribing,
        lifecycle.not_isActive found]
      exact rfl

/-- A `confirm_remove` that changes the state removes the only sink of the id,
the one under the query that created it. -/
theorem change_confirmRemove (lifecycle : Lifecycle history driver.router)
    (changed : (driver.step (.confirmRemove reqId)).router.subscriptionState reqId ≠
      driver.router.subscriptionState reqId) :
    LifecycleChange driver reqId (driver.router.subscriptionState reqId)
      ((driver.step (.confirmRemove reqId)).router.subscriptionState reqId)
      (.confirmRemove reqId : Operation Data) := by
  cases found : driver.router.pendingUnsubscribe.lookup reqId with
  | none =>
      have unchanged : (driver.step (.confirmRemove reqId)).router = driver.router := by
        simp only [Driver.step]
        rw [SubscriptionRouter.confirmRemove_of_not_mem _ _ _ (AList.lookup_eq_none.mp found)]
      exact absurd (by rw [unchanged]) changed
  | some pending =>
      obtain ⟨id, created⟩ := lifecycle.unsubscribing reqId pending found
      have inactive : (driver.step (.confirmRemove reqId)).router.isActive (.fromStr reqId) =
          false := by
        refine (SubscriptionRouter.isActive_eq_false_iff _).mpr fun query => ?_
        simp only [Driver.step, SubscriptionRouter.confirmRemove_router, found,
          SubscriptionRouter.sink_remove, id, and_true]
        split_ifs with removed
        · rfl
        · cases held : driver.router.sink query (.fromStr reqId) with
          | none => exact held
          | some _ =>
              have := lifecycle.active query (.fromStr reqId) (by simp [held])
              simp_all
      rw [SubscriptionRouter.subscriptionState_eq, SubscriptionRouter.subscriptionState_eq,
        inactive]
      simp [Driver.step, SubscriptionRouter.confirmRemove_router, found,
        lifecycle.not_subscribing found]
      exact rfl

theorem change_cancelRemove (lifecycle : Lifecycle history driver.router) {err : Error}
    (changed : (driver.step (.cancelRemove reqId err)).router.subscriptionState reqId ≠
      driver.router.subscriptionState reqId) :
    LifecycleChange driver reqId (driver.router.subscriptionState reqId)
      ((driver.step (.cancelRemove reqId err)).router.subscriptionState reqId)
      (.cancelRemove reqId err : Operation Data) := by
  have active : (driver.step (.cancelRemove reqId err)).router.isActive (.fromStr reqId) =
      driver.router.isActive (.fromStr reqId) := by
    simp only [Driver.step, SubscriptionRouter.cancelRemove_router]
    rfl
  rw [SubscriptionRouter.subscriptionState_eq, SubscriptionRouter.subscriptionState_eq,
    active] at changed ⊢
  cases found : driver.router.pendingUnsubscribe.lookup reqId with
  | none => simp [Driver.step, SubscriptionRouter.cancelRemove_router, found] at changed
  | some pending =>
      cases active : driver.router.isActive (.fromStr reqId) <;>
        simp [Driver.step, SubscriptionRouter.cancelRemove_router, found,
          lifecycle.not_subscribing found, active] <;>
        exact And.intro rfl active

/-- Under the invariant, a step the discipline allows changes
`subscription_state(reqId)` only as the lifecycle allows: a step that does not
touch a request of `reqId` leaves it as it is, and each of the others is one
of the lemmas above. -/
theorem change (lifecycle : Lifecycle history ((default : Driver Data).run history).router)
    {operation : Operation Data} (may : clientMay history operation = true)
    (changed : (((default : Driver Data).run history).step operation).router.subscriptionState
        reqId ≠ ((default : Driver Data).run history).router.subscriptionState reqId) :
    LifecycleChange ((default : Driver Data).run history) reqId
      (((default : Driver Data).run history).router.subscriptionState reqId)
      ((((default : Driver Data).run history).step operation).router.subscriptionState reqId)
      operation := by
  rcases Decidable.em (operation.touchesPendingSubscribe reqId = false ∧
      operation.touchesPendingUnsubscribe reqId = false) with untouched | untouched
  · cases operation with
    | publish ev => exact change_publish ev changed
    | add id query eventTx => simp [clientMay] at may
    | remove id query => simp [clientMay] at may
    | _ => exact absurd (lifecycle.subscriptionState_of_untouched untouched.1 untouched.2
        (by simp) (by simp) (by simp)) changed
  · cases operation
    all_goals
      simp [Operation.touchesPendingSubscribe, Operation.touchesPendingUnsubscribe] at untouched
    case pendingAdd pendingId subsId query eventTx resultTx =>
      subst untouched
      simp only [clientMay, Bool.and_eq_true, decide_eq_true_eq] at may
      obtain ⟨rfl, notFound⟩ := may
      exact change_pendingAdd notFound
    case pendingRemove pendingId subsId query resultTx =>
      subst untouched
      simp only [clientMay, Bool.and_eq_true, decide_eq_true_eq] at may
      obtain ⟨⟨rfl, active⟩, -⟩ := may
      exact change_pendingRemove active
    case confirmAdd acknowledged =>
      subst untouched
      exact lifecycle.change_confirmAdd changed
    case cancelAdd acknowledged err =>
      subst untouched
      exact lifecycle.change_cancelAdd changed
    case confirmRemove acknowledged =>
      subst untouched
      exact lifecycle.change_confirmRemove changed
    case cancelRemove acknowledged err =>
      subst untouched
      exact lifecycle.change_cancelRemove changed

end Lifecycle

variable (operations : List (Operation Data))

/-- In every run from the start that follows the client's discipline, no
request id is ever a key of both pending tables, and every change of
`subscription_state(reqId)` made by one step is one the lifecycle allows:
`NotFound → Pending` by `pending_add(reqId)`, `Pending → Active` by
`confirm_add(reqId)`, `Pending → NotFound` by `cancel_add(reqId)`,
`Active → Cancelling` by `pending_remove(reqId)`, `Cancelling → NotFound` by
`confirm_remove(reqId)`, `Cancelling → Active` by `cancel_remove(reqId)` while
the subscription is active, or `→ NotFound` once its sink was evicted, and
`Active → NotFound` by a `publish` that evicts a sink of the subscription whose
receiver is gone. -/
theorem disciplined_runs_follow_lifecycle (disciplined : Disciplined operations) :
    (∀ history, history <+: operations → ∀ reqId,
      ¬(reqId ∈ ((default : Driver Data).run history).router.pendingSubscribe ∧
        reqId ∈ ((default : Driver Data).run history).router.pendingUnsubscribe)) ∧
    ∀ history operation, history ++ [operation] <+: operations → ∀ reqId,
      ((default : Driver Data).run (history ++ [operation])).router.subscriptionState reqId ≠
          ((default : Driver Data).run history).router.subscriptionState reqId →
        LifecycleChange ((default : Driver Data).run history) reqId
          (((default : Driver Data).run history).router.subscriptionState reqId)
          (((default : Driver Data).run (history ++ [operation])).router.subscriptionState reqId)
          operation := by
  refine ⟨fun history before reqId both => ?_, fun history operation before reqId changed => ?_⟩
  · have absent := (lifecycle_run (disciplined.of_prefix before)).exclusive reqId
      (AList.lookup_isSome.mpr both.1)
    exact AList.lookup_eq_none.mp absent both.2
  · obtain ⟨earlier, may⟩ := Disciplined.append_singleton.mp (disciplined.of_prefix before)
    rw [Driver.run_append_singleton] at changed ⊢
    exact (lifecycle_run earlier).change may changed

/-- A subscription made and ended through the client's discipline. -/
def subscribeThenUnsubscribe : List (Operation Unit) :=
  [.pendingAdd "r" ⟨"r"⟩ "q" ⟨1⟩ ⟨7⟩, .confirmAdd "r", .pendingRemove "r" ⟨"r"⟩ "q" ⟨8⟩,
    .confirmRemove "r"]

/-- A subscription whose receiver is dropped while its unsubscribe request is
pending, so that a `publish` evicts its sink before the request is cancelled. -/
def evictedWhileCancelling : List (Operation Unit) :=
  [.pendingAdd "r" ⟨"r"⟩ "q" ⟨1⟩ ⟨7⟩, .confirmAdd "r", .pendingRemove "r" ⟨"r"⟩ "q" ⟨8⟩,
    .dropEventRx 1, .publish ⟨"q", ()⟩]

example : ((default : Driver Unit).run evictedWhileCancelling).router.subscriptionState "r" =
      .cancelling ∧
    ((default : Driver Unit).run
      (evictedWhileCancelling ++ [.cancelRemove "r" .transport])).router.subscriptionState "r" =
      .notFound := by decide

theorem evictedWhileCancelling_cancel_ends_subscription :
    Disciplined (evictedWhileCancelling ++ [.cancelRemove "r" .transport]) ∧
      LifecycleChange ((default : Driver Unit).run evictedWhileCancelling) "r"
        (((default : Driver Unit).run evictedWhileCancelling).router.subscriptionState "r")
        (((default : Driver Unit).run
          (evictedWhileCancelling ++ [.cancelRemove "r" .transport])).router.subscriptionState "r")
        (.cancelRemove "r" .transport : Operation Unit) := by
  have disciplined : Disciplined (evictedWhileCancelling ++ [.cancelRemove "r" .transport]) := by
    decide
  exact ⟨disciplined, (disciplined_runs_follow_lifecycle _ disciplined).2 evictedWhileCancelling
    (.cancelRemove "r" .transport) (List.prefix_refl _) "r" (by decide)⟩

/-- In every run that follows the client's discipline, spec invariant 1 holds:
an id is active under the query of the last `pending_add` of its request id
only. -/
theorem disciplined_runs_keep_ids_unique (disciplined : Disciplined operations) :
    ((default : Driver Data).run operations).router.UniqueIds := fun query other id held
      otherHeld => by
  have lifecycle := lifecycle_run disciplined
  exact Option.some.inj ((lifecycle.active query id held).symm.trans
    (lifecycle.active other id otherHeld))

theorem subscribeThenUnsubscribe_keeps_ids_unique :
    Disciplined subscribeThenUnsubscribe ∧
      ((default : Driver Unit).run subscribeThenUnsubscribe).router.UniqueIds :=
  ⟨by decide, disciplined_runs_keep_ids_unique subscribeThenUnsubscribe (by decide)⟩

/-- In every run that follows the client's discipline, the search of
`get_active_subscription_mut` for `SubscriptionId::from(reqId)` finds the same
sender in whatever order it visits the maps: the sink under the query of the
last `pending_add(reqId, …)` of the run, or nothing. -/
theorem disciplined_lookups_ignore_iteration_order (disciplined : Disciplined operations)
    (reqId : String) (order : List (Σ _ : String, HashMap SubscriptionId (EventTx Data)))
    (permuted : order.Perm ((default : Driver Data).run operations).router.subscriptions.entries) :
    SubscriptionRouter.getActiveSubscriptionIn order (.fromStr reqId) =
      (creatingQuery operations reqId).bind fun query =>
        ((default : Driver Data).run operations).router.sink query (.fromStr reqId) := by
  have lifecycle := lifecycle_run disciplined
  have unique : ∀ query other,
      (((default : Driver Data).run operations).router.sink query (.fromStr reqId)).isSome →
      (((default : Driver Data).run operations).router.sink other (.fromStr reqId)).isSome →
      query = other := fun query other held otherHeld =>
    Option.some.inj
      ((lifecycle.active query _ held).symm.trans (lifecycle.active other _ otherHeld))
  by_cases held :
      ∃ query, (((default : Driver Data).run operations).router.sink query (.fromStr reqId)).isSome
  · obtain ⟨query, held⟩ := held
    have created : creatingQuery operations reqId = some query := lifecycle.active query _ held
    rw [SubscriptionRouter.getActiveSubscriptionIn_of_unique permuted unique held, created,
      Option.some_bind]
  · have absent : ∀ query,
        ((default : Driver Data).run operations).router.sink query (.fromStr reqId) = none :=
      fun query => Option.not_isSome_iff_eq_none.mp fun found => held ⟨query, found⟩
    rw [SubscriptionRouter.getActiveSubscriptionIn_of_forall_none permuted absent]
    cases creatingQuery operations reqId <;> simp [absent]

/-- Subscriptions of requests `"r"` and `"s"` to two queries, both confirmed. -/
def subscribeConfirmed : List (Operation Unit) :=
  [.pendingAdd "r" ⟨"r"⟩ "q" ⟨1⟩ ⟨7⟩, .confirmAdd "r", .pendingAdd "s" ⟨"s"⟩ "p" ⟨2⟩ ⟨8⟩,
    .confirmAdd "s"]

theorem subscribeConfirmed_found_in_reverse_order :
    Disciplined subscribeConfirmed ∧
      ((default : Driver Unit).run subscribeConfirmed).router.subscriptions.entries.reverse.Perm
        ((default : Driver Unit).run subscribeConfirmed).router.subscriptions.entries ∧
      SubscriptionRouter.getActiveSubscriptionIn
          ((default : Driver Unit).run subscribeConfirmed).router.subscriptions.entries.reverse
          (.fromStr "r") =
        (creatingQuery subscribeConfirmed "r").bind fun query =>
          ((default : Driver Unit).run subscribeConfirmed).router.sink query (.fromStr "r") :=
  ⟨by decide, List.reverse_perm _,
    disciplined_lookups_ignore_iteration_order subscribeConfirmed (by decide) "r" _
      (List.reverse_perm _)⟩

end TendermintRpc
