import TendermintRpc.Client.RouterSpec

/-! # The driver and its runs

The router is owned by one driver task, which calls its methods one at a time;
the consumers of the channels the router sends on may drop their receivers at
any moment. A step is one such call or one such drop, and a run is a list of
steps from the state where the router is `SubscriptionRouter::default`, no
channel has been sent on and every receiver is alive. For each part of the
state there is one definition of what a step does to it, and one lemma that
the step does that. -/

namespace TendermintRpc

/-- A call of a router method with its arguments, or a consumer dropping the
receiver of an event or reply channel. -/
inductive Operation (Data : Type) where
  | publish (ev : Event Data)
  | add (id : SubscriptionId) (query : String) (eventTx : EventTx Data)
  | pendingAdd (reqId : String) (subsId : SubscriptionId) (query : String)
      (eventTx : EventTx Data) (resultTx : ResultTx)
  | confirmAdd (reqId : String)
  | cancelAdd (reqId : String) (err : Error)
  | remove (id : SubscriptionId) (query : String)
  | pendingRemove (reqId : String) (subsId : SubscriptionId) (query : String)
      (resultTx : ResultTx)
  | confirmRemove (reqId : String)
  | cancelRemove (reqId : String) (err : Error)
  | dropEventRx (channel : Nat)
  | dropResultRx (channel : Nat)
  deriving DecidableEq, Repr

namespace Operation

variable {Data : Type}

/-- What a step does to the pending-subscribe table. -/
def onPendingSubscribe : Operation Data → HashMap String (PendingSubscribe Data) →
    HashMap String (PendingSubscribe Data)
  | .pendingAdd reqId subsId query eventTx resultTx, table =>
      table.insert reqId ⟨subsId, query, eventTx, resultTx⟩
  | .confirmAdd reqId, table => table.erase reqId
  | .cancelAdd reqId _, table => table.erase reqId
  | _, table => table

/-- What a step does to the pending-unsubscribe table. -/
def onPendingUnsubscribe : Operation Data → HashMap String PendingUnsubscribe →
    HashMap String PendingUnsubscribe
  | .pendingRemove reqId subsId query resultTx, table =>
      table.insert reqId ⟨subsId, query, resultTx⟩
  | .confirmRemove reqId, table => table.erase reqId
  | .cancelRemove reqId _, table => table.erase reqId
  | _, table => table

/-- Whether the step drops the receiver of event channel `channel`. -/
def dropsEventRx (channel : Nat) : Operation Data → Bool
  | .dropEventRx dropped => dropped = channel
  | _ => false

/-- Whether the step drops the receiver of reply channel `channel`. -/
def dropsResultRx (channel : Nat) : Operation Data → Bool
  | .dropResultRx dropped => dropped = channel
  | _ => false

end Operation

/-- The router together with the event and reply channels it sends on. -/
structure Driver (Data : Type) where
  router : SubscriptionRouter Data
  events : EventChannels Data
  results : ResultChannels

namespace Driver

variable {Data : Type}

/-- The start of every run. -/
instance : Inhabited (Driver Data) := ⟨⟨default, Channels.fresh, Channels.fresh⟩⟩

/-- One step. `publish`, `add` and `confirm_add` never panic
(`publish_isSome`, `add_isSome`, `confirmAdd_isSome`), so their result is
taken out of the `Option`. -/
def step (driver : Driver Data) : Operation Data → Driver Data
  | .publish ev =>
      let published := (driver.router.publish driver.events ev).get
        (SubscriptionRouter.publish_isSome _ _ _)
      { driver with router := published.1, events := published.2 }
  | .add id query eventTx =>
      { driver with
        router := (driver.router.add id query eventTx).get (SubscriptionRouter.add_isSome _ _ _ _) }
  | .pendingAdd reqId subsId query eventTx resultTx =>
      { driver with router := driver.router.pendingAdd reqId subsId query eventTx resultTx }
  | .confirmAdd reqId =>
      let confirmed := (driver.router.confirmAdd driver.results reqId).get
        (SubscriptionRouter.confirmAdd_isSome _ _ _)
      { driver with router := confirmed.1, results := confirmed.2.1 }
  | .cancelAdd reqId err =>
      let cancelled := driver.router.cancelAdd driver.results reqId err
      { driver with router := cancelled.1, results := cancelled.2.1 }
  | .remove id query => { driver with router := driver.router.remove id query }
  | .pendingRemove reqId subsId query resultTx =>
      { driver with router := driver.router.pendingRemove reqId subsId query resultTx }
  | .confirmRemove reqId =>
      let confirmed := driver.router.confirmRemove driver.results reqId
      { driver with router := confirmed.1, results := confirmed.2.1 }
  | .cancelRemove reqId err =>
      let cancelled := driver.router.cancelRemove driver.results reqId err
      { driver with router := cancelled.1, results := cancelled.2.1 }
  | .dropEventRx channel => { driver with events := driver.events.dropRx channel }
  | .dropResultRx channel => { driver with results := driver.results.dropRx channel }

@[simp] theorem default_router : (default : Driver Data).router = default := rfl

@[simp] theorem default_events : (default : Driver Data).events = Channels.fresh := rfl

@[simp] theorem default_results : (default : Driver Data).results = Channels.fresh := rfl

/-- The state after the steps `operations`, oldest first. -/
def run (driver : Driver Data) (operations : List (Operation Data)) : Driver Data :=
  operations.foldl step driver

@[simp] theorem run_nil (driver : Driver Data) : driver.run [] = driver := rfl

@[simp] theorem run_cons (driver : Driver Data) (operation : Operation Data)
    (operations : List (Operation Data)) :
    driver.run (operation :: operations) = (driver.step operation).run operations := rfl

@[simp] theorem run_append_singleton (driver : Driver Data) (operations : List (Operation Data))
    (operation : Operation Data) :
    driver.run (operations ++ [operation]) = (driver.run operations).step operation := by
  simp [run, List.foldl_append]

theorem run_append (driver : Driver Data) (first second : List (Operation Data)) :
    driver.run (first ++ second) = (driver.run first).run second := by
  simp [run, List.foldl_append]

/-! ## What a step does -/

/-- What the routing table holds at `(query, id)` after the step `operation`. -/
def sinkAfter (driver : Driver Data) (query : String) (id : SubscriptionId) :
    Operation Data → Option (EventTx Data)
  | .publish ev =>
      if query = ev.query then (driver.router.sink query id).filter
        (SubscriptionRouter.Live driver.events)
      else driver.router.sink query id
  | .add added addedQuery eventTx =>
      if query = addedQuery ∧ id = added then some eventTx else driver.router.sink query id
  | .confirmAdd reqId =>
      match driver.router.pendingSubscribe.lookup reqId with
      | some pending =>
          if query = pending.query ∧ id = pending.id then some pending.eventTx
          else driver.router.sink query id
      | none => driver.router.sink query id
  | .remove removed removedQuery =>
      if query = removedQuery ∧ id = removed then none else driver.router.sink query id
  | .confirmRemove reqId =>
      match driver.router.pendingUnsubscribe.lookup reqId with
      | some pending =>
          if query = pending.query ∧ id = pending.id then none else driver.router.sink query id
      | none => driver.router.sink query id
  | _ => driver.router.sink query id

/-- What the step `operation` enqueues on event channel `channel`. -/
def deliveredBy (driver : Driver Data) (channel : Nat) :
    Operation Data → List (Result (Event Data))
  | .publish ev =>
      if (driver.events channel).closed then []
      else ((driver.router.sinksFor ev.query).filter fun sink => sink.2.channel = channel).map
        fun _ => .ok ev
  | _ => []

/-- The reply a step sends to a pending request, when the request's reply
channel is `channel` and its receiver is alive. -/
def replyOn (driver : Driver Data) (channel : Nat) (resultTx : ResultTx) (reply : Result Unit) :
    List (Result Unit) :=
  if channel = resultTx.channel ∧ (driver.results channel).closed = false then [reply] else []

/-- What the step `operation` enqueues on reply channel `channel`. -/
def repliedBy (driver : Driver Data) (channel : Nat) : Operation Data → List (Result Unit)
  | .confirmAdd reqId =>
      ((driver.router.pendingSubscribe.lookup reqId).map fun pending =>
        driver.replyOn channel pending.resultTx (.ok ())).getD []
  | .cancelAdd reqId err =>
      ((driver.router.pendingSubscribe.lookup reqId).map fun pending =>
        driver.replyOn channel pending.resultTx (.err err)).getD []
  | .confirmRemove reqId =>
      ((driver.router.pendingUnsubscribe.lookup reqId).map fun pending =>
        driver.replyOn channel pending.resultTx (.ok ())).getD []
  | .cancelRemove reqId err =>
      ((driver.router.pendingUnsubscribe.lookup reqId).map fun pending =>
        driver.replyOn channel pending.resultTx (.err err)).getD []
  | _ => []

/-- A step puts a sender at a place of the routing table only by an `add`, or by
a `confirm_add` of a pending request for that place; otherwise the sender was
there before. -/
theorem sinkAfter_eq_some {driver : Driver Data} {query : String} {id : SubscriptionId}
    {operation : Operation Data} {eventTx : EventTx Data}
    (installed : driver.sinkAfter query id operation = some eventTx) :
    driver.router.sink query id = some eventTx ∨ operation = .add id query eventTx ∨
      ∃ reqId pending, operation = .confirmAdd reqId ∧
        driver.router.pendingSubscribe.lookup reqId = some pending ∧
        pending.query = query ∧ pending.id = id ∧ pending.eventTx = eventTx := by
  cases operation with
  | publish ev =>
      simp only [sinkAfter] at installed
      split at installed
      · exact .inl (Option.mem_def.mp (Option.filter_eq_some.mp installed).1)
      · exact .inl installed
  | add added addedQuery passed =>
      simp only [sinkAfter] at installed
      split at installed
      · next slot =>
          obtain ⟨rfl, rfl⟩ := slot
          obtain rfl := Option.some.inj installed
          exact .inr (.inl rfl)
      · exact .inl installed
  | confirmAdd reqId =>
      simp only [sinkAfter] at installed
      split at installed
      · next pending found =>
          split at installed
          · next slot =>
              obtain ⟨rfl, rfl⟩ := slot
              exact .inr (.inr ⟨reqId, pending, rfl, found, rfl, rfl, Option.some.inj installed⟩)
          · exact .inl installed
      · exact .inl installed
  | remove removed removedQuery =>
      simp only [sinkAfter] at installed
      split at installed
      · simp at installed
      · exact .inl installed
  | confirmRemove reqId =>
      simp only [sinkAfter] at installed
      split at installed
      · split at installed
        · simp at installed
        · exact .inl installed
      · exact .inl installed
  | _ => exact .inl installed

variable (driver : Driver Data) (operation : Operation Data)

theorem step_confirmAdd {reqId : String} {router : SubscriptionRouter Data}
    {results : ResultChannels} {reply : Result Unit}
    (confirmed : driver.router.confirmAdd driver.results reqId = some (router, results, reply)) :
    driver.step (.confirmAdd reqId) = { driver with router, results } := by
  simp [step, confirmed]

theorem pendingSubscribe_step :
    (driver.step operation).router.pendingSubscribe =
      operation.onPendingSubscribe driver.router.pendingSubscribe := by
  cases operation with
  | publish ev =>
      exact (SubscriptionRouter.pending_of_publish (Option.eq_some_of_isSome _)).1
  | add id query eventTx =>
      exact (SubscriptionRouter.pending_of_add (Option.eq_some_of_isSome _)).1
  | confirmAdd reqId =>
      exact (SubscriptionRouter.pending_of_confirmAdd (Option.eq_some_of_isSome _)).1
  | cancelAdd reqId err =>
      simp [step, Operation.onPendingSubscribe, SubscriptionRouter.cancelAdd_router]
  | confirmRemove reqId =>
      simp only [step, Operation.onPendingSubscribe, SubscriptionRouter.confirmRemove_router]
      split <;> simp
  | cancelRemove reqId err =>
      simp [step, Operation.onPendingSubscribe, SubscriptionRouter.cancelRemove_router]
  | remove id query => simp [step, Operation.onPendingSubscribe]
  | _ => rfl

theorem pendingUnsubscribe_step :
    (driver.step operation).router.pendingUnsubscribe =
      operation.onPendingUnsubscribe driver.router.pendingUnsubscribe := by
  cases operation with
  | publish ev =>
      exact (SubscriptionRouter.pending_of_publish (Option.eq_some_of_isSome _)).2
  | add id query eventTx =>
      exact (SubscriptionRouter.pending_of_add (Option.eq_some_of_isSome _)).2
  | confirmAdd reqId =>
      exact (SubscriptionRouter.pending_of_confirmAdd (Option.eq_some_of_isSome _)).2
  | cancelAdd reqId err =>
      simp [step, Operation.onPendingUnsubscribe, SubscriptionRouter.cancelAdd_router]
  | confirmRemove reqId =>
      simp only [step, Operation.onPendingUnsubscribe, SubscriptionRouter.confirmRemove_router]
      split
      · next pending found =>
          simp [HashMap.erase_of_not_mem, found]
      · next absent =>
          simp [HashMap.erase_of_not_mem (AList.lookup_eq_none.mp absent)]
  | cancelRemove reqId err =>
      simp [step, Operation.onPendingUnsubscribe, SubscriptionRouter.cancelRemove_router]
  | remove id query => simp [step, Operation.onPendingUnsubscribe]
  | _ => rfl

theorem sink_step (query : String) (id : SubscriptionId) :
    (driver.step operation).router.sink query id = driver.sinkAfter query id operation := by
  cases operation with
  | publish ev =>
      exact SubscriptionRouter.sink_of_publish (Option.eq_some_of_isSome _) query id
  | add added addedQuery eventTx =>
      exact SubscriptionRouter.sink_of_add (Option.eq_some_of_isSome _) query id
  | confirmAdd reqId =>
      exact SubscriptionRouter.sink_of_confirmAdd (Option.eq_some_of_isSome _) query id
  | cancelAdd reqId err =>
      simp [step, sinkAfter, SubscriptionRouter.cancelAdd_router, SubscriptionRouter.sink]
  | remove removed removedQuery => exact SubscriptionRouter.sink_remove _ _ _ _ _
  | confirmRemove reqId =>
      simp only [step, sinkAfter, SubscriptionRouter.confirmRemove_router]
      cases driver.router.pendingUnsubscribe.lookup reqId with
      | none => rfl
      | some pending =>
          rw [SubscriptionRouter.sink_remove]
          rfl
  | cancelRemove reqId err =>
      simp [step, sinkAfter, SubscriptionRouter.cancelRemove_router, SubscriptionRouter.sink]
  | _ => rfl

theorem events_step_enqueued (channel : Nat) :
    ((driver.step operation).events channel).enqueued =
      (driver.events channel).enqueued ++ driver.deliveredBy channel operation := by
  cases operation with
  | publish ev =>
      exact SubscriptionRouter.enqueued_of_publish (Option.eq_some_of_isSome _) channel
  | dropEventRx dropped => simp [step, deliveredBy]
  | _ => simp [step, deliveredBy]

theorem events_step_closed (channel : Nat) :
    ((driver.step operation).events channel).closed =
      ((driver.events channel).closed || operation.dropsEventRx channel) := by
  cases operation with
  | publish ev =>
      simpa [Operation.dropsEventRx] using
        SubscriptionRouter.closed_of_publish (Option.eq_some_of_isSome _) channel
  | dropEventRx dropped =>
      by_cases same : channel = dropped
      · simp [step, Operation.dropsEventRx, same]
      · simp [step, Operation.dropsEventRx, same, Ne.symm same]
  | _ => simp [step, Operation.dropsEventRx]

theorem results_step_closed (channel : Nat) :
    ((driver.step operation).results channel).closed =
      ((driver.results channel).closed || operation.dropsResultRx channel) := by
  cases operation with
  | confirmAdd reqId =>
      obtain ⟨⟨router, results, reply⟩, confirmed⟩ := Option.isSome_iff_exists.mp
        (SubscriptionRouter.confirmAdd_isSome driver.router driver.results reqId)
      have replied := SubscriptionRouter.results_of_confirmAdd confirmed
      rw [step_confirmAdd driver confirmed]
      cases found : driver.router.pendingSubscribe.lookup reqId with
      | none => simp_all [Operation.dropsResultRx]
      | some pending =>
          simp only [found] at replied
          rw [show results = _ from congrArg Prod.fst replied]
          simp [Operation.dropsResultRx]
  | cancelAdd reqId err =>
      simp only [step, Operation.dropsResultRx, SubscriptionRouter.cancelAdd_results]
      split <;> simp
  | confirmRemove reqId =>
      simp only [step, Operation.dropsResultRx, SubscriptionRouter.confirmRemove_results]
      split <;> simp
  | cancelRemove reqId err =>
      simp only [step, Operation.dropsResultRx, SubscriptionRouter.cancelRemove_results]
      split <;> simp
  | dropResultRx dropped =>
      by_cases same : channel = dropped
      · simp [step, Operation.dropsResultRx, same]
      · simp [step, Operation.dropsResultRx, same, Ne.symm same]
  | _ => simp [step, Operation.dropsResultRx]

theorem results_step_enqueued (channel : Nat) :
    ((driver.step operation).results channel).enqueued =
      (driver.results channel).enqueued ++ driver.repliedBy channel operation := by
  cases operation with
  | confirmAdd reqId =>
      obtain ⟨⟨router, results, reply⟩, confirmed⟩ := Option.isSome_iff_exists.mp
        (SubscriptionRouter.confirmAdd_isSome driver.router driver.results reqId)
      have replied := SubscriptionRouter.results_of_confirmAdd confirmed
      rw [step_confirmAdd driver confirmed]
      cases found : driver.router.pendingSubscribe.lookup reqId with
      | none => simp_all [repliedBy]
      | some pending =>
          simp only [found] at replied
          rw [show results = _ from congrArg Prod.fst replied]
          simp [repliedBy, replyOn, found]
  | cancelAdd reqId err =>
      simp only [step, repliedBy, SubscriptionRouter.cancelAdd_results]
      split <;> simp_all [replyOn]
  | confirmRemove reqId =>
      simp only [step, repliedBy, SubscriptionRouter.confirmRemove_results]
      split <;> simp_all [replyOn]
  | cancelRemove reqId err =>
      simp only [step, repliedBy, SubscriptionRouter.cancelRemove_results]
      split <;> simp_all [replyOn]
  | _ => simp [step, repliedBy]

end Driver

end TendermintRpc
