import TendermintRpc.Driver.Delivery
import TendermintRpc.Driver.Lifecycle
import TendermintRpc.Driver.Replies

/-! # Acknowledgements of different requests commute

The node answers the client's subscribe and unsubscribe requests in an order the
client does not control, and the driver hands each answer to the router as it
arrives. An acknowledgement erases one pending request, writes at most one place
of the routing table and sends at most one reply. Under the client's
discipline the place is keyed by the request id, and when every request has a
reply channel of its own the replies go to different channels; so two
acknowledgements of different requests can be taken in either order, and
nothing a caller or a consumer of the channels observes tells the two orders
apart, then or after any later steps. -/

namespace TendermintRpc

variable {Data : Type}

namespace Operation

/-- The request id a `confirm_add`, `cancel_add`, `confirm_remove` or
`cancel_remove` answers. -/
def acknowledged : Operation Data → Option String
  | .confirmAdd reqId | .cancelAdd reqId _ | .confirmRemove reqId | .cancelRemove reqId _ =>
      some reqId
  | _ => none

variable {operation : Operation Data} {reqId other : String}

theorem touchesPendingSubscribe_of_acknowledged (ack : operation.acknowledged = some reqId)
    (touched : operation.touchesPendingSubscribe other = true) : other = reqId := by
  cases operation <;> simp_all [acknowledged, touchesPendingSubscribe]

theorem touchesPendingUnsubscribe_of_acknowledged (ack : operation.acknowledged = some reqId)
    (touched : operation.touchesPendingUnsubscribe other = true) : other = reqId := by
  cases operation <;> simp_all [acknowledged, touchesPendingUnsubscribe]

theorem filedRequest_of_pendingSubscribeEntry {pending : PendingSubscribe Data}
    (entry : operation.pendingSubscribeEntry = some pending)
    (touched : operation.touchesPendingSubscribe reqId = true) :
    operation.filedRequest = some reqId := by
  cases operation <;> simp_all [pendingSubscribeEntry, touchesPendingSubscribe, filedRequest]

theorem filedRequest_of_pendingUnsubscribeEntry {pending : PendingUnsubscribe}
    (entry : operation.pendingUnsubscribeEntry = some pending)
    (touched : operation.touchesPendingUnsubscribe reqId = true) :
    operation.filedRequest = some reqId := by
  cases operation <;> simp_all [pendingUnsubscribeEntry, touchesPendingUnsubscribe, filedRequest]

end Operation

/-- The step of `history` that filed the request the pending-subscribe table
holds for `reqId`. -/
theorem exists_filing_of_unansweredPendingAdd {history : List (Operation Data)} {reqId : String}
    {pending : PendingSubscribe Data} (found : unansweredPendingAdd history reqId = some pending) :
    ∃ filing ∈ history, filing.filedRequest = some reqId ∧
      filing.passedResultTx = some pending.resultTx := by
  obtain ⟨filing, last, entry⟩ := Option.bind_eq_some.mp found
  exact ⟨filing, List.mem_reverse.mp (List.mem_of_find?_eq_some last),
    Operation.filedRequest_of_pendingSubscribeEntry entry (List.find?_some last),
    Operation.passedResultTx_of_pendingSubscribeEntry entry⟩

theorem exists_filing_of_unansweredPendingRemove {history : List (Operation Data)}
    {reqId : String} {pending : PendingUnsubscribe}
    (found : unansweredPendingRemove history reqId = some pending) :
    ∃ filing ∈ history, filing.filedRequest = some reqId ∧
      filing.passedResultTx = some pending.resultTx := by
  obtain ⟨filing, last, entry⟩ := Option.bind_eq_some.mp found
  exact ⟨filing, List.mem_reverse.mp (List.mem_of_find?_eq_some last),
    Operation.filedRequest_of_pendingUnsubscribeEntry entry (List.find?_some last),
    Operation.passedResultTx_of_pendingUnsubscribeEntry entry⟩

namespace Driver

/-- The one place of the routing table an acknowledgement writes, and what it
writes there: the sender of the answered subscribe request, or `none` for an
answered unsubscribe request. -/
def sinkWrite (driver : Driver Data) :
    Operation Data → Option ((String × SubscriptionId) × Option (EventTx Data))
  | .confirmAdd reqId =>
      (driver.router.pendingSubscribe.lookup reqId).map fun pending =>
        ((pending.query, pending.id), some pending.eventTx)
  | .confirmRemove reqId =>
      (driver.router.pendingUnsubscribe.lookup reqId).map fun pending =>
        ((pending.query, pending.id), none)
  | _ => none

section Acknowledgement

variable {driver : Driver Data} {operation : Operation Data} {reqId : String}

theorem sinkAfter_of_acknowledged (ack : operation.acknowledged = some reqId) (query : String)
    (id : SubscriptionId) :
    driver.sinkAfter query id operation = (driver.sinkWrite operation).elim
      (driver.router.sink query id) fun write =>
        if (query, id) = write.1 then write.2 else driver.router.sink query id := by
  cases operation with
  | confirmAdd acknowledged =>
      simp only [sinkAfter, sinkWrite]
      cases driver.router.pendingSubscribe.lookup acknowledged <;> simp
  | confirmRemove acknowledged =>
      simp only [sinkAfter, sinkWrite]
      cases driver.router.pendingUnsubscribe.lookup acknowledged <;> simp
  | cancelAdd | cancelRemove => rfl
  | _ => simp [Operation.acknowledged] at ack

theorem events_step_of_acknowledged (ack : operation.acknowledged = some reqId) :
    (driver.step operation).events = driver.events := by
  cases operation <;> first | rfl | simp [Operation.acknowledged] at ack

theorem results_closed_of_acknowledged (ack : operation.acknowledged = some reqId)
    (channel : Nat) : ((driver.step operation).results channel).closed =
      (driver.results channel).closed := by
  cases operation <;>
    simp_all [Operation.acknowledged, results_step_closed, Operation.dropsResultRx]

/-- An acknowledgement leaves the pending requests of every other request id. -/
theorem pendingSubscribe_of_acknowledged (ack : operation.acknowledged = some reqId)
    {other : String} (different : other ≠ reqId) :
    (driver.step operation).router.pendingSubscribe.lookup other =
      driver.router.pendingSubscribe.lookup other := by
  rw [pendingSubscribe_step, Operation.lookup_onPendingSubscribe]
  cases touched : operation.touchesPendingSubscribe other
  · rfl
  · exact absurd (Operation.touchesPendingSubscribe_of_acknowledged ack touched) different

theorem pendingUnsubscribe_of_acknowledged (ack : operation.acknowledged = some reqId)
    {other : String} (different : other ≠ reqId) :
    (driver.step operation).router.pendingUnsubscribe.lookup other =
      driver.router.pendingUnsubscribe.lookup other := by
  rw [pendingUnsubscribe_step, Operation.lookup_onPendingUnsubscribe]
  cases touched : operation.touchesPendingUnsubscribe other
  · rfl
  · exact absurd (Operation.touchesPendingUnsubscribe_of_acknowledged ack touched) different

/-- An acknowledgement erases the pending request it answers, and no other. -/
theorem lookup_pendingSubscribe_of_acknowledged (ack : operation.acknowledged = some reqId)
    (other : String) :
    (driver.step operation).router.pendingSubscribe.lookup other =
      if operation.touchesPendingSubscribe other then none
      else driver.router.pendingSubscribe.lookup other := by
  rw [pendingSubscribe_step, Operation.lookup_onPendingSubscribe]
  cases operation <;> simp_all [Operation.acknowledged, Operation.pendingSubscribeEntry]

theorem lookup_pendingUnsubscribe_of_acknowledged (ack : operation.acknowledged = some reqId)
    (other : String) :
    (driver.step operation).router.pendingUnsubscribe.lookup other =
      if operation.touchesPendingUnsubscribe other then none
      else driver.router.pendingUnsubscribe.lookup other := by
  rw [pendingUnsubscribe_step, Operation.lookup_onPendingUnsubscribe]
  cases operation <;> simp_all [Operation.acknowledged, Operation.pendingUnsubscribeEntry]

variable {second : Operation Data} {secondId : String}

/-- What an acknowledgement of another request id does is not changed by a
first acknowledgement: it finds the same pending request and the same reply
channels. -/
theorem sinkWrite_step (ack : operation.acknowledged = some reqId)
    (secondAck : second.acknowledged = some secondId) (different : secondId ≠ reqId) :
    (driver.step operation).sinkWrite second = driver.sinkWrite second := by
  cases second with
  | confirmAdd acknowledged =>
      obtain rfl : acknowledged = secondId := Option.some.inj secondAck
      simp only [sinkWrite, pendingSubscribe_of_acknowledged ack different]
  | confirmRemove acknowledged =>
      obtain rfl : acknowledged = secondId := Option.some.inj secondAck
      simp only [sinkWrite, pendingUnsubscribe_of_acknowledged ack different]
  | _ => rfl

theorem repliedBy_step (ack : operation.acknowledged = some reqId)
    (secondAck : second.acknowledged = some secondId) (different : secondId ≠ reqId)
    (channel : Nat) :
    (driver.step operation).repliedBy channel second = driver.repliedBy channel second := by
  cases second with
  | confirmAdd acknowledged | cancelAdd acknowledged =>
      obtain rfl : acknowledged = secondId := Option.some.inj secondAck
      simp only [repliedBy, replyOn, pendingSubscribe_of_acknowledged ack different,
        results_closed_of_acknowledged ack]
  | confirmRemove acknowledged | cancelRemove acknowledged =>
      obtain rfl : acknowledged = secondId := Option.some.inj secondAck
      simp only [repliedBy, replyOn, pendingUnsubscribe_of_acknowledged ack different,
        results_closed_of_acknowledged ack]
  | _ => rfl

end Acknowledgement

/-- Two writes at different places of the routing table commute. -/
theorem sinkWrite_commute
    {first second : Option ((String × SubscriptionId) × Option (EventTx Data))}
    (apart : ∀ firstWrite secondWrite, first = some firstWrite → second = some secondWrite →
      firstWrite.1 ≠ secondWrite.1)
    (place : String × SubscriptionId) (old : Option (EventTx Data)) :
    second.elim (first.elim old fun write => if place = write.1 then write.2 else old)
        (fun write => if place = write.1 then write.2
          else first.elim old fun write => if place = write.1 then write.2 else old) =
      first.elim (second.elim old fun write => if place = write.1 then write.2 else old)
        (fun write => if place = write.1 then write.2
          else second.elim old fun write => if place = write.1 then write.2 else old) := by
  cases first with
  | none => cases second <;> rfl
  | some firstWrite =>
      cases second with
      | none => rfl
      | some secondWrite =>
          have different := apart firstWrite secondWrite rfl rfl
          by_cases atFirst : place = firstWrite.1 <;> by_cases atSecond : place = secondWrite.1
          · exact absurd (atFirst.symm.trans atSecond) different
          all_goals simp [atFirst, atSecond, different, Ne.symm different]

/-- Two acknowledgements of different request ids that write at different
places of the routing table and never reply on the same channel commute. -/
theorem Agree.acknowledgements_commute {driver : Driver Data} {first second : Operation Data}
    {firstId secondId : String} (firstAck : first.acknowledged = some firstId)
    (secondAck : second.acknowledged = some secondId) (different : secondId ≠ firstId)
    (apart : ∀ firstWrite secondWrite, driver.sinkWrite first = some firstWrite →
      driver.sinkWrite second = some secondWrite → firstWrite.1 ≠ secondWrite.1)
    (replies : ∀ channel,
      driver.repliedBy channel first = [] ∨ driver.repliedBy channel second = []) :
    ((driver.step first).step second).Agree ((driver.step second).step first) where
  sink query id := by
    rw [sink_step, sink_step, sinkAfter_of_acknowledged secondAck,
      sinkAfter_of_acknowledged firstAck, sinkWrite_step firstAck secondAck different,
      sinkWrite_step secondAck firstAck (Ne.symm different), sink_step, sink_step,
      sinkAfter_of_acknowledged firstAck, sinkAfter_of_acknowledged secondAck]
    exact sinkWrite_commute apart (query, id) _
  pendingSubscribe other := by
    rw [lookup_pendingSubscribe_of_acknowledged secondAck,
      lookup_pendingSubscribe_of_acknowledged firstAck,
      lookup_pendingSubscribe_of_acknowledged firstAck,
      lookup_pendingSubscribe_of_acknowledged secondAck]
    split_ifs <;> rfl
  pendingUnsubscribe other := by
    rw [lookup_pendingUnsubscribe_of_acknowledged secondAck,
      lookup_pendingUnsubscribe_of_acknowledged firstAck,
      lookup_pendingUnsubscribe_of_acknowledged firstAck,
      lookup_pendingUnsubscribe_of_acknowledged secondAck]
    split_ifs <;> rfl
  events := by
    rw [events_step_of_acknowledged secondAck, events_step_of_acknowledged firstAck,
      events_step_of_acknowledged firstAck, events_step_of_acknowledged secondAck]
  results := funext fun channel => Channel.ext
    (by
      rw [results_step_enqueued, results_step_enqueued, repliedBy_step firstAck secondAck different,
        results_step_enqueued, results_step_enqueued,
        repliedBy_step secondAck firstAck (Ne.symm different)]
      rcases replies channel with silent | silent <;> simp [silent])
    (by
      rw [results_closed_of_acknowledged secondAck, results_closed_of_acknowledged firstAck,
        results_closed_of_acknowledged firstAck, results_closed_of_acknowledged secondAck])

/-! ## Events and acknowledgements -/

section Publish

variable {driver : Driver Data} {ev : Event Data}

/-- `publish` leaves what every step reads of the pending tables and of the reply
channels. -/
theorem sinkWrite_publish (operation : Operation Data) :
    (driver.step (.publish ev)).sinkWrite operation = driver.sinkWrite operation := by
  cases operation <;>
    simp [sinkWrite, pendingSubscribe_step, pendingUnsubscribe_step, Operation.onPendingSubscribe,
      Operation.onPendingUnsubscribe]

theorem repliedBy_publish (channel : Nat) (operation : Operation Data) :
    (driver.step (.publish ev)).repliedBy channel operation =
      driver.repliedBy channel operation := by
  cases operation <;>
    simp [repliedBy, replyOn, pendingSubscribe_step, pendingUnsubscribe_step,
      Operation.onPendingSubscribe, Operation.onPendingUnsubscribe, results_step_closed,
      Operation.dropsResultRx]

/-- An acknowledgement that writes under another query leaves the senders
under `query`. -/
theorem sink_of_writes_elsewhere {operation : Operation Data} {reqId query : String}
    (ack : operation.acknowledged = some reqId)
    (elsewhere : ∀ write, driver.sinkWrite operation = some write → write.1.1 ≠ query)
    (id : SubscriptionId) :
    (driver.step operation).router.sink query id = driver.router.sink query id := by
  rw [sink_step, sinkAfter_of_acknowledged ack]
  cases writes : driver.sinkWrite operation with
  | none => rfl
  | some write =>
      have apart : (query, id) ≠ write.1 := fun same => elsewhere write writes (by rw [← same])
      simp [apart]

/-- A `publish` and an acknowledgement that writes under another query than the
event's commute. -/
theorem Agree.publish_acknowledgement_commute {operation : Operation Data} {reqId : String}
    (ack : operation.acknowledged = some reqId)
    (elsewhere : ∀ write, driver.sinkWrite operation = some write → write.1.1 ≠ ev.query) :
    ((driver.step (.publish ev)).step operation).Agree
      ((driver.step operation).step (.publish ev)) where
  sink query id := by
    by_cases published : query = ev.query
    · subst published
      rw [sink_of_writes_elsewhere ack (by rw [sinkWrite_publish]; exact elsewhere),
        sink_step driver (.publish ev), sink_step (driver.step operation) (.publish ev)]
      simp only [Driver.sinkAfter, if_true, events_step_of_acknowledged ack,
        sink_of_writes_elsewhere ack elsewhere]
    · have untouched : ∀ other : Driver Data,
          (other.step (.publish ev)).router.sink query id = other.router.sink query id :=
        fun other => by rw [sink_step]; simp [Driver.sinkAfter, published]
      rw [sink_step (driver.step (.publish ev)) operation, untouched (driver.step operation),
        sink_step driver operation, sinkAfter_of_acknowledged ack, sinkAfter_of_acknowledged ack,
        sinkWrite_publish, untouched driver]
  pendingSubscribe other := by
    simp only [lookup_pendingSubscribe_of_acknowledged ack, pendingSubscribe_step _ (.publish ev),
      Operation.onPendingSubscribe]
  pendingUnsubscribe other := by
    simp only [lookup_pendingUnsubscribe_of_acknowledged ack,
      pendingUnsubscribe_step _ (.publish ev), Operation.onPendingUnsubscribe]
  events := funext fun channel => Channel.ext
    (by
      rw [events_step_of_acknowledged ack, events_step_enqueued driver,
        events_step_enqueued (driver.step operation), events_step_of_acknowledged ack,
        deliveredBy_publish_congr (sink_of_writes_elsewhere ack elsewhere)
          (events_step_of_acknowledged ack)])
    (by
      rw [events_step_of_acknowledged ack, events_step_closed driver,
        events_step_closed (driver.step operation), events_step_of_acknowledged ack])
  results := funext fun channel => Channel.ext
    (by
      rw [results_step_enqueued (driver.step (.publish ev)) operation, repliedBy_publish,
        results_step_enqueued (driver.step operation) (.publish ev),
        results_step_enqueued driver operation]
      simp only [Driver.repliedBy, List.append_nil]
      rfl)
    (by simp [results_step_closed, Operation.dropsResultRx])

end Publish

/-! ## Along a disciplined run with a reply channel per request -/

section Disciplined

variable {history : List (Operation Data)} {operation : Operation Data} {reqId : String}

/-- Under the discipline, an acknowledgement of `reqId` writes at the id
`SubscriptionId::from(reqId)`. -/
theorem sinkWrite_id (disciplined : Disciplined history) (ack : operation.acknowledged = some reqId)
    {write : (String × SubscriptionId) × Option (EventTx Data)}
    (writes : ((default : Driver Data).run history).sinkWrite operation = some write) :
    write.1.2 = .fromStr reqId := by
  have lifecycle := lifecycle_run disciplined
  cases operation with
  | confirmAdd acknowledged =>
      obtain rfl : acknowledged = reqId := Option.some.inj ack
      obtain ⟨pending, found, rfl⟩ := Option.map_eq_some'.mp writes
      exact (lifecycle.subscribing _ pending found).1
  | confirmRemove acknowledged =>
      obtain rfl : acknowledged = reqId := Option.some.inj ack
      obtain ⟨pending, found, rfl⟩ := Option.map_eq_some'.mp writes
      exact (lifecycle.unsubscribing _ pending found).1
  | _ => simp [sinkWrite] at writes

/-- Answering the pending request of a request id sends a reply on `channel`
only if there is one and its reply channel is `channel`. -/
theorem exists_of_answer_ne_nil {V : Type} {driver : Driver Data} {table : HashMap String V}
    {resultOf : V → ResultTx} {channel : Nat} {reply : Result Unit}
    (replied : ((table.lookup reqId).map fun pending =>
      driver.replyOn channel (resultOf pending) reply).getD [] ≠ []) :
    ∃ pending, table.lookup reqId = some pending ∧ (resultOf pending).channel = channel := by
  cases found : table.lookup reqId with
  | none => simp [found] at replied
  | some pending =>
      simp only [found, Option.map_some', Option.getD_some, replyOn] at replied
      exact ⟨pending, rfl, (ite_ne_right_iff.mp replied).1.1.symm⟩

/-- An acknowledgement that sends a reply on `channel` answers a request some
step of the run filed with `channel`. -/
theorem exists_filing_of_repliedBy (ack : operation.acknowledged = some reqId) {channel : Nat}
    (replied : ((default : Driver Data).run history).repliedBy channel operation ≠ []) :
    ∃ filing ∈ history, filing.filedRequest = some reqId ∧
      filing.passedResultTx.map (fun resultTx => resultTx.channel) = some channel := by
  cases operation with
  | confirmAdd acknowledged | cancelAdd acknowledged =>
      obtain rfl : acknowledged = reqId := Option.some.inj ack
      obtain ⟨pending, found, onChannel⟩ := exists_of_answer_ne_nil replied
      rw [pendingSubscribe_run] at found
      obtain ⟨filing, member, filed, passed⟩ := exists_filing_of_unansweredPendingAdd found
      exact ⟨filing, member, filed, by rw [passed, Option.map_some', onChannel]⟩
  | confirmRemove acknowledged | cancelRemove acknowledged =>
      obtain rfl : acknowledged = reqId := Option.some.inj ack
      obtain ⟨pending, found, onChannel⟩ := exists_of_answer_ne_nil replied
      rw [pendingUnsubscribe_run] at found
      obtain ⟨filing, member, filed, passed⟩ := exists_filing_of_unansweredPendingRemove found
      exact ⟨filing, member, filed, by rw [passed, Option.map_some', onChannel]⟩
  | _ => simp [Operation.acknowledged] at ack

/-- With a reply channel per request, acknowledgements of different request ids
never reply on the same channel. -/
theorem repliedBy_eq_nil_or (fresh : FreshResultChannels history)
    {second : Operation Data} {secondId : String} (ack : operation.acknowledged = some reqId)
    (secondAck : second.acknowledged = some secondId) (different : secondId ≠ reqId)
    (channel : Nat) :
    ((default : Driver Data).run history).repliedBy channel operation = [] ∨
      ((default : Driver Data).run history).repliedBy channel second = [] := by
  by_contra both
  obtain ⟨replied, secondReplied⟩ := not_or.mp both
  obtain ⟨filing, member, filed, passed⟩ := exists_filing_of_repliedBy ack replied
  obtain ⟨secondFiling, secondMember, secondFiled, secondPassed⟩ :=
    exists_filing_of_repliedBy secondAck secondReplied
  obtain rfl := eq_of_nodup_filterMap fresh member secondMember passed secondPassed
  exact different (Option.some.inj (secondFiled.symm.trans filed))

end Disciplined

end Driver

variable (history : List (Operation Data))

/-- In every run that follows the client's discipline and gives each request a
reply channel of its own, two acknowledgements of different request ids, of
either kind, can be taken in either order: after them, and after any steps that
follow, the two orders give drivers that no caller of the router and no
consumer of its channels can tell apart. -/
theorem acknowledgements_of_different_requests_commute (disciplined : Disciplined history)
    (fresh : FreshResultChannels history) {first second : Operation Data}
    {firstId secondId : String} (firstAck : first.acknowledged = some firstId)
    (secondAck : second.acknowledged = some secondId) (different : secondId ≠ firstId)
    (rest : List (Operation Data)) :
    ((default : Driver Data).run (history ++ first :: second :: rest)).Agree
      ((default : Driver Data).run (history ++ second :: first :: rest)) := by
  rw [Driver.run_append, Driver.run_append, Driver.run_cons, Driver.run_cons, Driver.run_cons,
    Driver.run_cons]
  apply Driver.Agree.run
  exact Driver.Agree.acknowledgements_commute firstAck secondAck different
    (fun firstWrite secondWrite writes secondWrites same => different <|
      SubscriptionId.fromStr_injective <| by
        rw [← Driver.sinkWrite_id disciplined secondAck secondWrites,
          ← Driver.sinkWrite_id disciplined firstAck writes, same])
    (Driver.repliedBy_eq_nil_or fresh firstAck secondAck different)

/-- Two subscribe requests filed in a disciplined run, each with its reply
channel. -/
def twoPendingSubscribes : List (Operation Unit) :=
  [.pendingAdd "r" ⟨"r"⟩ "q" ⟨1⟩ ⟨7⟩, .pendingAdd "s" ⟨"s"⟩ "q" ⟨2⟩ ⟨8⟩]

theorem twoPendingSubscribes_answered_in_either_order :
    Disciplined twoPendingSubscribes ∧ FreshResultChannels twoPendingSubscribes ∧
      ((default : Driver Unit).run (twoPendingSubscribes ++
          [.confirmAdd "r", .cancelAdd "s" .transport, .publish ⟨"q", ()⟩])).Agree
        ((default : Driver Unit).run (twoPendingSubscribes ++
          [.cancelAdd "s" .transport, .confirmAdd "r", .publish ⟨"q", ()⟩])) :=
  ⟨by decide, by decide,
    @acknowledgements_of_different_requests_commute Unit twoPendingSubscribes (by decide)
      (by decide) (.confirmAdd "r") (.cancelAdd "s" .transport) "r" "s" rfl rfl (by decide)
      [.publish ⟨"q", ()⟩]⟩

/-- From every state, a `publish(ev)` and an acknowledgement can be taken in
either order unless the acknowledgement is a `confirm_add` or a `confirm_remove`
answering a request for the event's query: after them, and after any steps
that follow, no caller of the router and no consumer of its channels can tell
the two orders apart. -/
theorem events_and_answers_for_other_queries_commute (driver : Driver Data) (ev : Event Data)
    {operation : Operation Data} {reqId : String} (ack : operation.acknowledged = some reqId)
    (elsewhere : ∀ write, driver.sinkWrite operation = some write → write.1.1 ≠ ev.query)
    (rest : List (Operation Data)) :
    (driver.run (.publish ev :: operation :: rest)).Agree
      (driver.run (operation :: .publish ev :: rest)) :=
  (Driver.Agree.publish_acknowledgement_commute ack elsewhere).run rest

/-- A subscribe request for `"q"` waiting while a subscription to `"p"` is
active. -/
def pendingBesideActive : List (Operation Unit) :=
  [.pendingAdd "r" ⟨"r"⟩ "q" ⟨1⟩ ⟨7⟩, .add ⟨"x"⟩ "p" ⟨2⟩]

theorem pendingBesideActive_event_and_answer_commute :
    (∀ write, ((default : Driver Unit).run pendingBesideActive).sinkWrite (.confirmAdd "r") =
        some write → write.1.1 ≠ "p") ∧
      (((default : Driver Unit).run pendingBesideActive).run
          [.publish ⟨"p", ()⟩, .confirmAdd "r"]).Agree
        (((default : Driver Unit).run pendingBesideActive).run
          [.confirmAdd "r", .publish ⟨"p", ()⟩]) := by
  have elsewhere : ∀ write, ((default : Driver Unit).run pendingBesideActive).sinkWrite
      (.confirmAdd "r") = some write → write.1.1 ≠ "p" := fun write writes => by
    rw [show ((default : Driver Unit).run pendingBesideActive).sinkWrite (.confirmAdd "r") =
      some (("q", ⟨"r"⟩), some ⟨1⟩) from by decide] at writes
    cases writes
    decide
  exact ⟨elsewhere, @events_and_answers_for_other_queries_commute Unit _ ⟨"p", ()⟩
    (.confirmAdd "r") "r" rfl elsewhere []⟩

end TendermintRpc
