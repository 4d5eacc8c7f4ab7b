import TendermintRpc.Driver.Agreement
import TendermintRpc.Driver.Delivery
import TendermintRpc.Driver.Replies

/-! # What the router sends on channels it was handed

The results on delivery and replies elsewhere assume that every subscription
and every request comes with a channel of its own. A client may as well share
one channel between several of them. For every run, shared channels or not:
the router sends on an event channel only `Ok(ev)`, and only for an event whose
query the channel was handed to the router with; and it sends on a reply
channel at most one reply for each request filed with that channel, none for a
request still pending. -/

namespace TendermintRpc

variable {Data : Type}

/-! ## Event channels -/

namespace Driver

/-- Every sink of the routing table after `history` was handed to the router,
for its query and id, by a step of `history`. -/
theorem sink_run_passed {history : List (Operation Data)} {query : String} {id : SubscriptionId}
    {eventTx : EventTx Data}
    (held : ((default : Driver Data).run history).router.sink query id = some eventTx) :
    ∃ operation ∈ history, operation.passedSink = some (id, query, eventTx) := by
  induction history using List.reverseRecOn generalizing query id eventTx with
  | nil => simp at held
  | append_singleton history operation induction =>
      rw [run_append_singleton, sink_step] at held
      rcases sinkAfter_eq_some held with
        before | rfl | ⟨reqId, pending, rfl, found, rfl, rfl, rfl⟩
      · obtain ⟨passing, member, passed⟩ := induction before
        exact ⟨passing, List.mem_append_left _ member, passed⟩
      · exact ⟨_, List.mem_append_right _ (List.mem_singleton_self _), rfl⟩
      · rw [pendingSubscribe_run] at found
        obtain ⟨filing, member, entry⟩ := mem_of_unansweredPendingAdd found
        exact ⟨filing, List.mem_append_left _ member,
          Operation.passedSink_of_pendingSubscribeEntry entry⟩

/-- What a `publish` enqueues on a channel is `Ok` of the event, once for each
sink of its query that sends on that channel. -/
theorem mem_deliveredBy {driver : Driver Data} {channel : Nat} {operation : Operation Data}
    {value : Result (Event Data)} (delivered : value ∈ driver.deliveredBy channel operation) :
    ∃ ev id, operation = .publish ev ∧ value = .ok ev ∧
      driver.router.sink ev.query id = some ⟨channel⟩ := by
  cases operation with
  | publish ev =>
      simp only [Driver.deliveredBy] at delivered
      split at delivered
      · simp at delivered
      · obtain ⟨⟨id, eventTx⟩, member, rfl⟩ := List.mem_map.mp delivered
        obtain ⟨held, sameChannel⟩ := List.mem_filter.mp member
        have sender : eventTx = ⟨channel⟩ := ChannelTx.ext (by simpa using sameChannel)
        subst sender
        refine ⟨ev, id, rfl, rfl, ?_⟩
        rw [← SubscriptionRouter.dlookup_sinksFor]
        exact List.mem_dlookup (SubscriptionRouter.nodupKeys_sinksFor _ _) held
  | _ => simp [Driver.deliveredBy] at delivered

end Driver

variable (operations : List (Operation Data))

/-- In every run from the start, whatever channels the client shares between
subscriptions, the router sends on an event channel nothing but `Ok(ev)`, and
only for an event whose query some `add` or `pending_add` of the run handed
that channel over with. A channel never handed over stays empty. -/
theorem event_channels_hear_only_their_queries (channel : Nat) :
    ∀ value ∈ (((default : Driver Data).run operations).events channel).enqueued,
      ∃ ev, value = .ok ev ∧
        ∃ operation ∈ operations, ∃ id,
          operation.passedSink = some (id, ev.query, ⟨channel⟩) := by
  induction operations using List.reverseRecOn with
  | nil => simp
  | append_singleton history operation induction =>
      intro value member
      rw [Driver.run_append_singleton, Driver.events_step_enqueued] at member
      rcases List.mem_append.mp member with before | delivered
      · obtain ⟨ev, rfl, passing, passingMember, id, passed⟩ := induction value before
        exact ⟨ev, rfl, passing, List.mem_append_left _ passingMember, id, passed⟩
      · obtain ⟨ev, id, rfl, rfl, held⟩ := Driver.mem_deliveredBy delivered
        obtain ⟨passing, passingMember, passed⟩ := Driver.sink_run_passed held
        exact ⟨ev, rfl, passing, List.mem_append_left _ passingMember, id, passed⟩

/-- A run that shares channel 1 between a subscription to `"q"` and one to
`"p"`, and publishes for both queries and for a third. -/
def sharedChannel : List (Operation Unit) :=
  [.add ⟨"a"⟩ "q" ⟨1⟩, .add ⟨"b"⟩ "p" ⟨1⟩, .publish ⟨"q", ()⟩, .publish ⟨"p", ()⟩,
    .publish ⟨"r", ()⟩]

example : (((default : Driver Unit).run sharedChannel).events 1).enqueued =
    [.ok ⟨"q", ()⟩, .ok ⟨"p", ()⟩] := by decide

theorem sharedChannel_hears_only_its_queries :
    (.ok ⟨"p", ()⟩ : Result (Event Unit)) ∈
        (((default : Driver Unit).run sharedChannel).events 1).enqueued ∧
      ∃ ev, (.ok ⟨"p", ()⟩ : Result (Event Unit)) = .ok ev ∧
        ∃ operation ∈ sharedChannel, ∃ id,
          operation.passedSink = some (id, ev.query, ⟨1⟩) :=
  ⟨by decide, event_channels_hear_only_their_queries sharedChannel 1 _ (by decide)⟩

/-! ## Reply channels -/

/-- The number of requests filed with reply channel `channel` in `history`. -/
def filedWith (history : List (Operation Data)) (channel : Nat) : Nat :=
  history.countP fun operation =>
    operation.passedResultTx.any fun resultTx => resultTx.channel = channel

/-- The number of the router's pending requests, of either kind, whose reply
channel is `channel`. -/
def SubscriptionRouter.pendingOn (router : SubscriptionRouter Data) (channel : Nat) : Nat :=
  router.pendingSubscribe.entries.countP (fun entry => entry.2.resultTx.channel = channel) +
    router.pendingUnsubscribe.entries.countP fun entry => entry.2.resultTx.channel = channel

theorem filedWith_append_singleton (history : List (Operation Data)) (operation : Operation Data)
    (channel : Nat) :
    filedWith (history ++ [operation]) channel = filedWith history channel +
      if operation.passedResultTx.any (fun resultTx => resultTx.channel = channel) then 1
      else 0 := by
  simp [filedWith, List.countP_append, List.countP_cons]

namespace Driver

theorem replyOn_length_le (driver : Driver Data) (channel : Nat) (resultTx : ResultTx)
    (reply : Result Unit) :
    (driver.replyOn channel resultTx reply).length ≤
      if resultTx.channel = channel then 1 else 0 := by
  unfold replyOn
  split
  · next sent => simp [sent.1]
  · exact Nat.zero_le _

/-- Answering the pending request of a request id, if there is one, takes it
from the table and sends at most one reply, on its own channel. -/
private theorem answer_le {V : Type} (resultOf : V → ResultTx) (table : HashMap String V)
    (reqId : String) (channel : Nat) (replyTo : V → List (Result Unit))
    (bounded : ∀ pending, (replyTo pending).length ≤
      if (resultOf pending).channel = channel then 1 else 0) :
    (((table.lookup reqId).map replyTo).getD []).length +
        (table.erase reqId).entries.countP (fun entry => (resultOf entry.2).channel = channel) ≤
      table.entries.countP fun entry => (resultOf entry.2).channel = channel := by
  cases found : table.lookup reqId with
  | none => simp [HashMap.erase_of_not_mem (AList.lookup_eq_none.mp found)]
  | some pending =>
      have erased := HashMap.countP_erase
        (fun entry => decide ((resultOf entry.2).channel = channel)) found
      have sent := bounded pending
      by_cases same : (resultOf pending).channel = channel <;>
        simp only [same, decide_True, decide_False, if_true, if_false] at erased sent <;>
        simp only [Option.map_some', Option.getD_some] <;> omega

variable (driver : Driver Data) (channel : Nat)

/-- One step adds to the replies sent on `channel` and the requests pending on
it together at most the request it files with `channel`. -/
theorem replies_step_le (operation : Operation Data) :
    ((driver.step operation).results channel).enqueued.length +
        (driver.step operation).router.pendingOn channel ≤
      (driver.results channel).enqueued.length + driver.router.pendingOn channel +
        if operation.passedResultTx.any (fun resultTx => resultTx.channel = channel) then 1
        else 0 := by
  rw [results_step_enqueued, List.length_append]
  unfold SubscriptionRouter.pendingOn
  rw [pendingSubscribe_step, pendingUnsubscribe_step]
  cases operation with
  | pendingAdd reqId subsId query eventTx resultTx =>
      have inserted := HashMap.countP_insert_le
        (fun entry => decide (entry.2.resultTx.channel = channel)) reqId
        ⟨subsId, query, eventTx, resultTx⟩ driver.router.pendingSubscribe
      simp only [repliedBy, Operation.onPendingSubscribe, Operation.onPendingUnsubscribe,
        Operation.passedResultTx, Option.any_some, List.length_nil] at inserted ⊢
      omega
  | pendingRemove reqId subsId query resultTx =>
      have inserted := HashMap.countP_insert_le
        (fun entry => decide (entry.2.resultTx.channel = channel)) reqId
        ⟨subsId, query, resultTx⟩ driver.router.pendingUnsubscribe
      simp only [repliedBy, Operation.onPendingSubscribe, Operation.onPendingUnsubscribe,
        Operation.passedResultTx, Option.any_some, List.length_nil] at inserted ⊢
      omega
  | confirmAdd reqId =>
      have answered :=
        answer_le PendingSubscribe.resultTx driver.router.pendingSubscribe reqId channel _
          fun pending => driver.replyOn_length_le channel pending.resultTx (.ok ())
      simp only [repliedBy, Operation.onPendingSubscribe, Operation.onPendingUnsubscribe,
        Operation.passedResultTx] at answered ⊢
      omega
  | cancelAdd reqId err =>
      have answered :=
        answer_le PendingSubscribe.resultTx driver.router.pendingSubscribe reqId channel _
          fun pending => driver.replyOn_length_le channel pending.resultTx (.err err)
      simp only [repliedBy, Operation.onPendingSubscribe, Operation.onPendingUnsubscribe,
        Operation.passedResultTx] at answered ⊢
      omega
  | confirmRemove reqId =>
      have answered :=
        answer_le PendingUnsubscribe.resultTx driver.router.pendingUnsubscribe reqId channel _
          fun pending => driver.replyOn_length_le channel pending.resultTx (.ok ())
      simp only [repliedBy, Operation.onPendingSubscribe, Operation.onPendingUnsubscribe,
        Operation.passedResultTx] at answered ⊢
      omega
  | cancelRemove reqId err =>
      have answered :=
        answer_le PendingUnsubscribe.resultTx driver.router.pendingUnsubscribe reqId channel _
          fun pending => driver.replyOn_length_le channel pending.resultTx (.err err)
      simp only [repliedBy, Operation.onPendingSubscribe, Operation.onPendingUnsubscribe,
        Operation.passedResultTx] at answered ⊢
      omega
  | _ => simp [repliedBy, Operation.onPendingSubscribe, Operation.onPendingUnsubscribe]

end Driver

/-- In every run from the start, whatever reply channels the client shares
between requests, the replies sent on a channel and the requests still pending
on it are together at most the requests filed with it: each request is
answered at most once, and one still pending not yet. -/
theorem reply_channels_answer_each_request_at_most_once (channel : Nat) :
    (((default : Driver Data).run operations).results channel).enqueued.length +
        ((default : Driver Data).run operations).router.pendingOn channel ≤
      filedWith operations channel := by
  induction operations using List.reverseRecOn with
  | nil => simp [SubscriptionRouter.pendingOn, filedWith]
  | append_singleton history operation induction =>
      have stepped := ((default : Driver Data).run history).replies_step_le channel operation
      rw [Driver.run_append_singleton, filedWith_append_singleton]
      omega

end TendermintRpc
