import TendermintRpc.Foundation.HashMap
import TendermintRpc.Client.Subscription

/-! # The subscription router

`SubscriptionRouter` and its methods, one definition each. A method that can
panic, through an `unwrap` in `add` or `publish` or through a call of `add`,
returns an `Option`: `none` is the panic. The channels a method sends on are
passed in and returned, and an `async` method that returns `Result<()>`
returns that result last. -/

namespace TendermintRpc

/-- The event channels of every subscription. -/
abbrev EventChannels (Data : Type) := Channels (Result (Event Data))

/-- The reply channels of every subscribe and unsubscribe request. -/
abbrev ResultChannels := Channels (Result Unit)

/-- `SubscriptionRouter`: the routing table from queries to sinks, and the
requests awaiting their acknowledgement, by JSON-RPC request id. -/
structure SubscriptionRouter (Data : Type) where
  subscriptions : HashMap String (HashMap SubscriptionId (EventTx Data))
  pendingSubscribe : HashMap String (PendingSubscribe Data)
  pendingUnsubscribe : HashMap String PendingUnsubscribe

namespace SubscriptionRouter

variable {Data : Type}

/-- `SubscriptionRouter::default`: all three tables empty. -/
instance : Inhabited (SubscriptionRouter Data) := ⟨⟨∅, ∅, ∅⟩⟩

/-- The fan-out loop of `publish`: send `Ok(ev)` on every sink in iteration
order and push the id of every sink whose send failed. -/
def publishLoop (ev : Event Data) :
    List (Σ _ : SubscriptionId, EventTx Data) → EventChannels Data → List SubscriptionId →
      EventChannels Data × List SubscriptionId
  | [], events, disconnected => (events, disconnected)
  | ⟨id, eventTx⟩ :: rest, events, disconnected =>
      let (events, sent) := eventTx.send events (.ok ev)
      publishLoop ev rest events (if sent.isErr then disconnected ++ [id] else disconnected)

/-- `publish`: fan the event out to the sinks of its query, then look the query
up again and remove every sink whose send failed. -/
def publish (router : SubscriptionRouter Data) (events : EventChannels Data) (ev : Event Data) :
    Option (SubscriptionRouter Data × EventChannels Data) :=
  match router.subscriptions.lookup ev.query with
  | none => some (router, events)
  | some subsForQuery =>
      let (events, disconnected) := publishLoop ev subsForQuery.entries events []
      match router.subscriptions.lookup ev.query with
      | none => none
      | some subsForQuery =>
          let subsForQuery := disconnected.foldl (fun subs id => subs.erase id) subsForQuery
          some ({ router with
            subscriptions := router.subscriptions.replace ev.query subsForQuery }, events)

/-- `add`: insert the sink into the query's map, creating that map (and
unwrapping the lookup that follows) when the query has none yet. -/
def add (router : SubscriptionRouter Data) (id : SubscriptionId) (query : String)
    (eventTx : EventTx Data) : Option (SubscriptionRouter Data) :=
  match router.subscriptions.lookup query with
  | some subsForQuery =>
      some { router with
        subscriptions := router.subscriptions.replace query (subsForQuery.insert id eventTx) }
  | none =>
      let subscriptions := router.subscriptions.insert query ∅
      match subscriptions.lookup query with
      | none => none
      | some subsForQuery =>
          some { router with
            subscriptions := subscriptions.replace query (subsForQuery.insert id eventTx) }

/-- `pending_add`. -/
def pendingAdd (router : SubscriptionRouter Data) (reqId : String) (subsId : SubscriptionId)
    (query : String) (eventTx : EventTx Data) (resultTx : ResultTx) : SubscriptionRouter Data :=
  { router with
    pendingSubscribe := router.pendingSubscribe.insert reqId ⟨subsId, query, eventTx, resultTx⟩ }

/-- `confirm_add`: remove the pending request; if there was one, `add` its
subscription and send `Ok(())` to its caller, returning what that send gave. -/
def confirmAdd (router : SubscriptionRouter Data) (results : ResultChannels) (reqId : String) :
    Option (SubscriptionRouter Data × ResultChannels × Result Unit) :=
  let (removed, pendingSubscribe) := router.pendingSubscribe.extract reqId
  let router := { router with pendingSubscribe }
  match removed with
  | some pending =>
      (router.add pending.id pending.query pending.eventTx).map fun router =>
        let (results, sent) := pending.resultTx.send results (.ok ())
        (router, results, sent)
  | none => some (router, results, .ok ())

/-- `cancel_add`: remove the pending request; if there was one, send it the
error, reporting a failed send as an internal error that names the id. -/
def cancelAdd (router : SubscriptionRouter Data) (results : ResultChannels) (reqId : String)
    (err : Error) : SubscriptionRouter Data × ResultChannels × Result Unit :=
  let (removed, pendingSubscribe) := router.pendingSubscribe.extract reqId
  let router := { router with pendingSubscribe }
  match removed with
  | some pending =>
      let (results, sent) := pending.resultTx.send results (.err err)
      (router, results, sent.mapErr fun _ => .clientInternalError
        ("failed to communicate result of pending subscription with ID: " ++ toString pending.id))
  | none => (router, results, .ok ())

/-- `remove`. -/
def remove (router : SubscriptionRouter Data) (id : SubscriptionId) (query : String) :
    SubscriptionRouter Data :=
  match router.subscriptions.lookup query with
  | none => router
  | some subsForQuery =>
      { router with subscriptions := router.subscriptions.replace query (subsForQuery.erase id) }

/-- `pending_remove`. -/
def pendingRemove (router : SubscriptionRouter Data) (reqId : String) (subsId : SubscriptionId)
    (query : String) (resultTx : ResultTx) : SubscriptionRouter Data :=
  { router with
    pendingUnsubscribe := router.pendingUnsubscribe.insert reqId ⟨subsId, query, resultTx⟩ }

/-- `confirm_remove`: remove the pending request; if there was one, `remove`
its subscription and send `Ok(())` to its caller. -/
def confirmRemove (router : SubscriptionRouter Data) (results : ResultChannels) (reqId : String) :
    SubscriptionRouter Data × ResultChannels × Result Unit :=
  let (removed, pendingUnsubscribe) := router.pendingUnsubscribe.extract reqId
  let router := { router with pendingUnsubscribe }
  match removed with
  | some pending =>
      let router := router.remove pending.id pending.query
      let (results, sent) := pending.resultTx.send results (.ok ())
      (router, results, sent)
  | none => (router, results, .ok ())

/-- `cancel_remove`: remove the pending request; if there was one, send it the
error. -/
def cancelRemove (router : SubscriptionRouter Data) (results : ResultChannels) (reqId : String)
    (err : Error) : SubscriptionRouter Data × ResultChannels × Result Unit :=
  let (removed, pendingUnsubscribe) := router.pendingUnsubscribe.extract reqId
  let router := { router with pendingUnsubscribe }
  match removed with
  | some pending =>
      let (results, sent) := pending.resultTx.send results (.err err)
      (router, results, sent)
  | none => (router, results, .ok ())

/-- `is_active`: some query's map holds the id. -/
def isActive (router : SubscriptionRouter Data) (id : SubscriptionId) : Bool :=
  router.subscriptions.entries.any fun subs => decide (id ∈ subs.2)

/-- The search of `get_active_subscription_mut` over the query maps in the order
`order` in which the routing table iterates them: the sink of the id in the
first map that holds it. -/
def getActiveSubscriptionIn
    (order : List (Σ _ : String, HashMap SubscriptionId (EventTx Data))) (id : SubscriptionId) :
    Option (EventTx Data) :=
  (order.find? fun subs => decide (id ∈ subs.2)).bind fun subs => subs.2.lookup id

/-- `get_active_subscription_mut`. -/
def getActiveSubscriptionMut (router : SubscriptionRouter Data) (id : SubscriptionId) :
    Option (EventTx Data) :=
  getActiveSubscriptionIn router.subscriptions.entries id

/-- `subscription_state`: `Pending`, `Cancelling`, `Active` and `NotFound`, in
that order of priority. -/
def subscriptionState (router : SubscriptionRouter Data) (reqId : String) : SubscriptionState :=
  if reqId ∈ router.pendingSubscribe then .pending
  else if reqId ∈ router.pendingUnsubscribe then .cancelling
  else if router.isActive (SubscriptionId.fromStr reqId) then .active
  else .notFound

end SubscriptionRouter

end TendermintRpc
