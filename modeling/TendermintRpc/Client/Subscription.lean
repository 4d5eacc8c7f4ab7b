import TendermintRpc.Client.Sync

/-! # Subscriptions and their identifiers

The data a subscription is made of: its identifier and the conversions between
identifiers and JSON-RPC request ids, the events routed to it, the handle a
caller holds and the termination request that handle sends to the driver. -/

namespace TendermintRpc

/-- Modelled from the spec: `crate::event::Event` is not among the sources. An
event carries the query it was produced for; the router routes on that field
alone and never looks at the rest of the payload, here `data`. -/
structure Event (Data : Type) where
  query : String
  data : Data
  deriving DecidableEq, Repr

/-- Modelled from the spec: `crate::Id`, a JSON-RPC request id, is not among the
sources. It is a string, an integer, or absent. -/
inductive Id where
  | num (value : Int)
  | str (value : String)
  | none
  deriving DecidableEq, Repr

/-- `SubscriptionId(String)`: equality is equality of the textual form. -/
structure SubscriptionId where
  value : String
  deriving DecidableEq, Repr

namespace SubscriptionId

/-- `Display for SubscriptionId`. -/
instance : ToString SubscriptionId := ⟨SubscriptionId.value⟩

/-- `From<&str> for SubscriptionId`. -/
def fromStr (s : String) : SubscriptionId := ⟨s⟩

/-- `Into<Id> for SubscriptionId`. -/
def into (id : SubscriptionId) : Id := .str id.value

theorem fromStr_injective : Function.Injective fromStr := fun _ _ same =>
  congrArg SubscriptionId.value same

@[simp] theorem fromStr_value (id : SubscriptionId) : fromStr id.value = id := rfl

@[simp] theorem value_fromStr (s : String) : (fromStr s).value = s := rfl

end SubscriptionId

/-- `TryInto<SubscriptionId> for Id`. -/
def Id.tryInto : Id → Result SubscriptionId
  | .str s => .ok ⟨s⟩
  | .num i => .ok ⟨toString i⟩
  | .none => .err (.clientInternalError
      "cannot convert an empty JSON-RPC ID into a subscription ID")

/-- A subscription id survives the trip through a JSON-RPC request id. -/
@[simp] theorem Id.tryInto_into (id : SubscriptionId) : id.into.tryInto = .ok id := rfl

/-- The conversion fails exactly on the empty id, with the message above. -/
theorem Id.tryInto_eq_err_iff (id : Id) (error : Error) :
    id.tryInto = .err error ↔ id = .none ∧ error = .clientInternalError
      "cannot convert an empty JSON-RPC ID into a subscription ID" := by
  cases id <;> simp [Id.tryInto, eq_comm]

/-- The sender of a subscription's event channel. -/
abbrev EventTx (Data : Type) := ChannelTx (Result (Event Data))

/-- The sender of a channel that carries the outcome of a request. -/
abbrev ResultTx := ChannelTx (Result Unit)

/-- `TerminateSubscription`: the request a handle sends to the driver. -/
structure TerminateSubscription where
  id : SubscriptionId
  query : String
  resultTx : ResultTx
  deriving DecidableEq, Repr

/-- `Subscription`: the caller's handle. Its receiver is the channel
`eventRx` of the event channels. -/
structure Subscription where
  query : String
  id : SubscriptionId
  eventRx : Nat
  terminateTx : ChannelTx TerminateSubscription

/-- `Subscription::terminate`, cut at its await on the reply: it sends a
`TerminateSubscription` carrying a new reply channel `resultTx` on the control
channel, and `reply` is what the reply receiver then yields, `none` when every
sender of that channel was dropped without a value. A failed send returns what
`ChannelTx::send` reports, as the source's `?` does; spec §4.2 calls it a
transport error. -/
def Subscription.terminate (subscription : Subscription)
    (control : Channels TerminateSubscription) (resultTx : ResultTx)
    (reply : Option (Result Unit)) : Channels TerminateSubscription × Result Unit :=
  let (control, sent) := subscription.terminateTx.send control
    ⟨subscription.id, subscription.query, resultTx⟩
  match sent, reply with
  | .err error, _ => (control, .err error)
  | .ok (), some result => (control, result)
  | .ok (), none => (control, .err (.clientInternalError
      "failed to hear back from subscription termination request"))

/-- `terminate` enqueues one request carrying the handle's id and query and the
new reply channel on the control channel when the driver still listens, and
nothing otherwise; it then returns the reply, the send error, or the internal
error when the reply channel was dropped unanswered. -/
theorem Subscription.terminate_sends_request (subscription : Subscription)
    (control : Channels TerminateSubscription) (resultTx : ResultTx)
    (reply : Option (Result Unit)) (channel : Nat) :
    ((subscription.terminate control resultTx reply).1 channel).enqueued =
        (control channel).enqueued ++
          (if channel = subscription.terminateTx.channel ∧ (control channel).closed = false then
            [⟨subscription.id, subscription.query, resultTx⟩] else []) ∧
      (subscription.terminate control resultTx reply).2 =
        if (control subscription.terminateTx.channel).closed then .err ChannelTx.sendError
        else reply.getD (.err (.clientInternalError
          "failed to hear back from subscription termination request")) := by
  have enqueued := ChannelTx.send_enqueued subscription.terminateTx control
    ⟨subscription.id, subscription.query, resultTx⟩ channel
  have sent := ChannelTx.send_result subscription.terminateTx control
    ⟨subscription.id, subscription.query, resultTx⟩
  unfold terminate
  generalize subscription.terminateTx.send control _ = outcome at enqueued sent
  obtain ⟨control', result⟩ := outcome
  subst sent
  dsimp only at enqueued
  by_cases closed : (control subscription.terminateTx.channel).closed <;>
    cases reply <;> simpa [closed] using enqueued

/-- `PendingSubscribe`: a subscribe request awaiting its acknowledgement. -/
structure PendingSubscribe (Data : Type) where
  id : SubscriptionId
  query : String
  eventTx : EventTx Data
  resultTx : ResultTx
  deriving DecidableEq, Repr

/-- `PendingUnsubscribe`: an unsubscribe request awaiting its acknowledgement. -/
structure PendingUnsubscribe where
  id : SubscriptionId
  query : String
  resultTx : ResultTx
  deriving DecidableEq, Repr

/-- `SubscriptionState`. -/
inductive SubscriptionState where
  | pending
  | active
  | cancelling
  | notFound
  deriving DecidableEq, Repr

end TendermintRpc
