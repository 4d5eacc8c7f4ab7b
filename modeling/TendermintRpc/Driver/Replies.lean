import Mathlib.Data.List.Infix
import Mathlib.Data.List.Nodup
import TendermintRpc.Driver.History

/-! # Replies to pending requests

Each `pending_add` and `pending_remove` hands the router the sender of a reply
channel. The router answers the request on that channel at the first
acknowledgement for its request id that follows it, unless a new request with
that id has replaced it first; every other acknowledgement finds nothing to
answer, returns `Ok(())` and changes nothing. -/

namespace TendermintRpc

variable {Data : Type}

namespace Operation

/-- The reply channel a `pending_add` or a `pending_remove` is passed. -/
def passedResultTx : Operation Data → Option ResultTx
  | .pendingAdd _ _ _ _ resultTx => some resultTx
  | .pendingRemove _ _ _ resultTx => some resultTx
  | _ => none

/-- The request id a `pending_add` or a `pending_remove` files. -/
def filedRequest : Operation Data → Option String
  | .pendingAdd reqId .. | .pendingRemove reqId .. => some reqId
  | _ => none

/-- The reply a `confirm_add(reqId)` or a `cancel_add(reqId, err)` sends to the
subscribe request it answers. -/
def subscribeReply (reqId : String) : Operation Data → Option (Result Unit)
  | .confirmAdd acknowledged => if acknowledged = reqId then some (.ok ()) else none
  | .cancelAdd acknowledged err => if acknowledged = reqId then some (.err err) else none
  | _ => none

/-- The reply a `confirm_remove(reqId)` or a `cancel_remove(reqId, err)` sends
to the unsubscribe request it answers. -/
def unsubscribeReply (reqId : String) : Operation Data → Option (Result Unit)
  | .confirmRemove acknowledged => if acknowledged = reqId then some (.ok ()) else none
  | .cancelRemove acknowledged err => if acknowledged = reqId then some (.err err) else none
  | _ => none

theorem passedResultTx_of_pendingSubscribeEntry {operation : Operation Data}
    {pending : PendingSubscribe Data} (entry : operation.pendingSubscribeEntry = some pending) :
    operation.passedResultTx = some pending.resultTx := by
  cases operation <;> simp [pendingSubscribeEntry] at entry
  subst entry
  rfl

theorem passedResultTx_of_pendingUnsubscribeEntry {operation : Operation Data}
    {pending : PendingUnsubscribe} (entry : operation.pendingUnsubscribeEntry = some pending) :
    operation.passedResultTx = some pending.resultTx := by
  cases operation <;> simp [pendingUnsubscribeEntry] at entry
  subst entry
  rfl

theorem subscribeReply_of_not_touches {operation : Operation Data} {reqId : String}
    (untouched : operation.touchesPendingSubscribe reqId = false) :
    operation.subscribeReply reqId = none := by
  cases operation <;> simp_all [touchesPendingSubscribe, subscribeReply]

theorem unsubscribeReply_of_not_touches {operation : Operation Data} {reqId : String}
    (untouched : operation.touchesPendingUnsubscribe reqId = false) :
    operation.unsubscribeReply reqId = none := by
  cases operation <;> simp_all [touchesPendingUnsubscribe, unsubscribeReply]

end Operation

/-- Every `pending_add` and `pending_remove` of `operations` is passed the
sender of a new reply channel, one that no other of them is passed. -/
def FreshResultChannels (operations : List (Operation Data)) : Prop :=
  (operations.filterMap fun operation =>
    operation.passedResultTx.map fun resultTx => resultTx.channel).Nodup

instance (operations : List (Operation Data)) : Decidable (FreshResultChannels operations) :=
  inferInstanceAs (Decidable (List.Nodup _))

theorem FreshResultChannels.of_append_singleton {history : List (Operation Data)}
    {operation : Operation Data} (fresh : FreshResultChannels (history ++ [operation])) :
    FreshResultChannels history :=
  fresh.sublist ((List.sublist_append_left _ _).filterMap _)

/-- No step but the request itself passes the request's reply channel. -/
theorem not_passed_of_fresh {before after : List (Operation Data)} {filing : Operation Data}
    {resultTx : ResultTx} (fresh : FreshResultChannels (before ++ filing :: after))
    (filed : filing.passedResultTx = some resultTx) :
    ∀ operation ∈ before ++ after, ∀ passed, operation.passedResultTx = some passed →
      passed.channel ≠ resultTx.channel := by
  intro operation member passed passing same
  have selected : ∀ {steps : List (Operation Data)}, operation ∈ steps →
      resultTx.channel ∈ steps.filterMap fun operation =>
        operation.passedResultTx.map fun resultTx => resultTx.channel :=
    fun member => List.mem_filterMap.mpr ⟨operation, member, by simp [passing, same]⟩
  simp only [FreshResultChannels, List.filterMap_append, List.filterMap_cons, filed,
    Option.map_some', List.nodup_append, List.nodup_cons] at fresh
  rcases List.mem_append.mp member with earlier | later
  · exact fresh.2.2 (selected earlier) (List.mem_cons_self _ _)
  · exact fresh.2.1.1 (selected later)

/-! ## The request a reply channel belongs to

Both pending tables hold, after a run, the request filed by the last step that
touches the request id (`pendingSubscribe_run`, `pendingUnsubscribe_run`). The
lemmas of this section are stated once for both tables: `touches` is the test
for a step touching the id, `entry` the request a step files, and `resultTxOf`
the reply channel of a request. -/

section LastEntry

variable {β : Type} (touches : Operation Data → Bool) (entry : Operation Data → Option β)
  {resultTxOf : β → ResultTx} {channel : Nat}

theorem filter_entry_of_not_passed
    (filedTx : ∀ {operation pending}, entry operation = some pending →
      operation.passedResultTx = some (resultTxOf pending))
    {operation : Operation Data}
    (notPassed : ∀ passed, operation.passedResultTx = some passed → passed.channel ≠ channel) :
    (entry operation).filter (fun pending => decide (channel = (resultTxOf pending).channel)) =
      none := by
  cases filed : entry operation with
  | none => rfl
  | some pending => simp [Ne.symm (notPassed _ (filedTx filed))]

/-- A request filed by a step that does not pass `channel` has another reply
channel. -/
theorem filter_lastEntry_of_not_passed
    (filedTx : ∀ {operation pending}, entry operation = some pending →
      operation.passedResultTx = some (resultTxOf pending))
    {history : List (Operation Data)}
    (notPassed : ∀ operation ∈ history, ∀ passed, operation.passedResultTx = some passed →
      passed.channel ≠ channel) :
    ((history.reverse.find? touches).bind entry).filter
      (fun pending => decide (channel = (resultTxOf pending).channel)) = none := by
  cases last : history.reverse.find? touches with
  | none => rfl
  | some operation =>
      exact filter_entry_of_not_passed entry filedTx
        (notPassed operation (List.mem_reverse.mp (List.mem_of_find?_eq_some last)))

/-- After `before ++ filing :: after`, with the reply channel of `filing` fresh,
the last request for the id has that channel exactly when `filing` is the last
step touching the id. -/
theorem filter_lastEntry_of_filed
    (filedTx : ∀ {operation pending}, entry operation = some pending →
      operation.passedResultTx = some (resultTxOf pending))
    {before after : List (Operation Data)} {filing : Operation Data}
    {resultTx : ResultTx} (fresh : FreshResultChannels (before ++ filing :: after))
    (filed : filing.passedResultTx = some resultTx) :
    (((before ++ filing :: after).reverse.find? touches).bind entry).filter
        (fun pending => decide (resultTx.channel = (resultTxOf pending).channel)) =
      if (after.find? touches).isNone ∧ touches filing then entry filing else none := by
  have notPassed := not_passed_of_fresh fresh filed
  rw [List.reverse_append, List.reverse_cons, List.append_assoc, List.find?_append,
    List.find?_append, List.find?_singleton]
  cases last : after.reverse.find? touches with
  | some operation =>
      have answered : ¬((after.find? touches).isNone ∧ touches filing) := fun ⟨untouched, _⟩ => by
        simp only [Option.isNone_iff_eq_none, List.find?_eq_none] at untouched
        exact untouched operation (List.mem_reverse.mp (List.mem_of_find?_eq_some last))
          (List.find?_some last)
      rw [Option.or_some, if_neg answered]
      exact filter_entry_of_not_passed entry filedTx fun passed => notPassed operation
        (List.mem_append_right _ (List.mem_reverse.mp (List.mem_of_find?_eq_some last))) passed
  | none =>
      have unanswered : (after.find? touches).isNone := by simpa [List.find?_eq_none] using last
      cases touching : touches filing with
      | true =>
          cases filedEntry : entry filing with
          | none => simp [filedEntry]
          | some pending =>
              have same : resultTx = resultTxOf pending := Option.some.inj
                (filed.symm.trans (filedTx filedEntry))
              simp [filedEntry, unanswered, same]
      | false =>
          simpa [unanswered] using filter_lastEntry_of_not_passed touches entry filedTx
            fun operation (member : operation ∈ before) => notPassed operation
              (List.mem_append_left _ member)

end LastEntry

namespace Driver

/-- What an acknowledgement sends on `channel`, read through the reply channel
of the request it finds. -/
theorem replyOn_getD {β : Type} (driver : Driver Data) (channel : Nat) (found : Option β)
    (resultTxOf : β → ResultTx) (reply : Result Unit) :
    (found.map fun pending => driver.replyOn channel (resultTxOf pending) reply).getD [] =
      if (driver.results channel).closed = false then
        ((found.filter fun pending => decide (channel = (resultTxOf pending).channel)).map
          fun _ => reply).toList
      else [] := by
  cases found with
  | none => simp
  | some pending =>
      simp only [Option.map_some', Option.getD_some, replyOn, Option.filter_some,
        decide_eq_true_eq]
      split_ifs <;> simp_all

end Driver

/-- The reply owed to a `pending_add(reqId, …)` that the steps `after` follow:
that of the first step of `after` to file or answer a subscribe request for
`reqId`, `Ok(())` when it is a `confirm_add(reqId)` and `Err(err)` when it is a
`cancel_add(reqId, err)`; none when a new `pending_add(reqId, …)` comes first or
no step answers. -/
def answerToPendingAdd (after : List (Operation Data)) (reqId : String) : Option (Result Unit) :=
  (after.find? (Operation.touchesPendingSubscribe reqId)).bind (Operation.subscribeReply reqId)

/-- The reply owed to a `pending_remove(reqId, …)` that the steps `after`
follow. -/
def answerToPendingRemove (after : List (Operation Data)) (reqId : String) :
    Option (Result Unit) :=
  (after.find? (Operation.touchesPendingUnsubscribe reqId)).bind (Operation.unsubscribeReply reqId)

namespace Driver

theorem repliedBy_of_not_passed {history : List (Operation Data)} {channel : Nat}
    (notPassed : ∀ operation ∈ history, ∀ passed, operation.passedResultTx = some passed →
      passed.channel ≠ channel) (operation : Operation Data) :
    ((default : Driver Data).run history).repliedBy channel operation = [] := by
  have subscribe := fun reqId => filter_lastEntry_of_not_passed
    (Operation.touchesPendingSubscribe reqId) Operation.pendingSubscribeEntry
    Operation.passedResultTx_of_pendingSubscribeEntry notPassed
  have unsubscribe := fun reqId => filter_lastEntry_of_not_passed
    (Operation.touchesPendingUnsubscribe reqId) Operation.pendingUnsubscribeEntry
    Operation.passedResultTx_of_pendingUnsubscribeEntry notPassed
  cases operation <;>
    simp only [repliedBy, pendingSubscribe_run, pendingUnsubscribe_run, replyOn_getD,
      unansweredPendingAdd, unansweredPendingRemove, subscribe, unsubscribe, Option.map_none',
      Option.toList_none, ite_self]

/-- No reply channel holds anything before a step passes it to the router. -/
theorem results_run_of_not_passed {history : List (Operation Data)} {channel : Nat}
    (notPassed : ∀ operation ∈ history, ∀ passed, operation.passedResultTx = some passed →
      passed.channel ≠ channel) :
    (((default : Driver Data).run history).results channel).enqueued = [] := by
  induction history using List.reverseRecOn with
  | nil => rfl
  | append_singleton history operation induction =>
      have earlier := fun other member => notPassed other (List.mem_append_left _ member)
      rw [run_append_singleton, results_step_enqueued, induction earlier,
        repliedBy_of_not_passed earlier, List.append_nil]

section Filed

variable {before after : List (Operation Data)} {filing : Operation Data} {reqId : String}
  {resultTx : ResultTx}

private theorem answered_iff {β : Type} (dropped : Bool) (touches : String → Operation Data → Bool)
    (after : List (Operation Data)) (reqId acknowledged : String) (filed : β)
    (reply : Result Unit) :
    (if dropped = false then
        ((if (after.find? (touches acknowledged)).isNone = true ∧ reqId = acknowledged then
            some filed
          else none).map fun _ => reply).toList
      else []) =
      if (after.find? (touches reqId)).isNone = true ∧ dropped = false then
        (if acknowledged = reqId then some reply else none).toList
      else [] := by
  by_cases same : acknowledged = reqId
  · subst same
    cases dropped <;> cases (after.find? (touches acknowledged)).isNone <;> simp
  · simp [same, Ne.symm same]

/-- After a `pending_add` or a `pending_remove` for `reqId` with a fresh reply
channel, a step sends on that channel exactly when it is the first step since
the request to touch `reqId` in the request's table, it acknowledges the
request, and the receiver is alive. -/
theorem repliedBy_of_filed (fresh : FreshResultChannels (before ++ filing :: after))
    (filed : filing.passedResultTx = some resultTx) (files : filing.filedRequest = some reqId)
    (operation : Operation Data) :
    ((default : Driver Data).run (before ++ filing :: after)).repliedBy resultTx.channel
        operation =
      if filing.touchesPendingSubscribe reqId then
        if (after.find? (Operation.touchesPendingSubscribe reqId)).isNone ∧
            resultRxDropped (before ++ filing :: after) resultTx.channel = false
        then (operation.subscribeReply reqId).toList else []
      else
        if (after.find? (Operation.touchesPendingUnsubscribe reqId)).isNone ∧
            resultRxDropped (before ++ filing :: after) resultTx.channel = false
        then (operation.unsubscribeReply reqId).toList else [] := by
  have subscribe := fun acknowledged => filter_lastEntry_of_filed
    (Operation.touchesPendingSubscribe acknowledged) Operation.pendingSubscribeEntry
    Operation.passedResultTx_of_pendingSubscribeEntry fresh filed
  have unsubscribe := fun acknowledged => filter_lastEntry_of_filed
    (Operation.touchesPendingUnsubscribe acknowledged) Operation.pendingUnsubscribeEntry
    Operation.passedResultTx_of_pendingUnsubscribeEntry fresh filed
  cases filing <;> simp only [Operation.filedRequest, Option.some.injEq, reduceCtorEq] at files
  all_goals
    subst files
    cases operation <;>
      simp only [repliedBy, pendingSubscribe_run, pendingUnsubscribe_run, replyOn_getD,
        unansweredPendingAdd, unansweredPendingRemove, subscribe, unsubscribe,
        results_closed_run] <;>
      simp only [Operation.touchesPendingSubscribe, Operation.touchesPendingUnsubscribe,
        Operation.pendingSubscribeEntry, Operation.pendingUnsubscribeEntry,
        Operation.subscribeReply, Operation.unsubscribeReply, decide_True, decide_eq_true_eq,
        Bool.false_eq_true, and_false, and_true, if_true, if_false, Option.map_none',
        Option.toList_none, ite_self, answered_iff]

end Filed

/-- What the reply channel of a request holds: each step after the request
adds, while the receiver is alive, the reply of the first step to touch the
request's id, when that step answers the request. So the channel holds at most
that reply, and exactly that reply when its receiver was never dropped. -/
theorem replies_of_repliedBy {before : List (Operation Data)} {filing : Operation Data}
    {resultTx : ResultTx} {touches : Operation Data → Bool}
    {reply : Operation Data → Option (Result Unit)} {after : List (Operation Data)}
    (fresh : FreshResultChannels (before ++ filing :: after))
    (filed : filing.passedResultTx = some resultTx)
    (silent : ∀ {operation}, touches operation = false → reply operation = none)
    (replied : ∀ {after}, FreshResultChannels (before ++ filing :: after) → ∀ operation,
      ((default : Driver Data).run (before ++ filing :: after)).repliedBy resultTx.channel
          operation =
        if (after.find? touches).isNone ∧
            resultRxDropped (before ++ filing :: after) resultTx.channel = false
        then (reply operation).toList else []) :
    (((default : Driver Data).run (before ++ filing :: after)).results
        resultTx.channel).enqueued <+: ((after.find? touches).bind reply).toList ∧
      (resultRxDropped (before ++ filing :: after) resultTx.channel = false →
        (((default : Driver Data).run (before ++ filing :: after)).results
          resultTx.channel).enqueued = ((after.find? touches).bind reply).toList) := by
  induction after using List.reverseRecOn with
  | nil =>
      have notPassed := fun operation (member : operation ∈ before) =>
        not_passed_of_fresh fresh filed operation (List.mem_append_left _ member)
      have unanswered :
          ((default : Driver Data).run before).repliedBy resultTx.channel filing = [] := by
        cases filing <;> first | rfl | simp [Operation.passedResultTx] at filed
      rw [run_append_singleton, results_step_enqueued, results_run_of_not_passed notPassed,
        unanswered]
      simp
  | append_singleton after operation induction =>
      have shape : before ++ filing :: (after ++ [operation]) =
          (before ++ filing :: after) ++ [operation] := by simp
      rw [shape] at fresh ⊢
      obtain ⟨received, alive⟩ := induction fresh.of_append_singleton
      rw [run_append_singleton, results_step_enqueued, replied fresh.of_append_singleton,
        List.find?_append, List.find?_singleton]
      have stillAlive : resultRxDropped ((before ++ filing :: after) ++ [operation])
          resultTx.channel = false →
          resultRxDropped (before ++ filing :: after) resultTx.channel = false := by
        simp only [resultRxDropped, List.any_append, Bool.or_eq_false_iff]
        exact And.left
      cases answered : after.find? touches with
      | some answering =>
          simp only [answered, Option.isNone_some, Bool.false_eq_true, false_and, if_false,
            List.append_nil, Option.or_some] at received alive ⊢
          exact ⟨received, fun dropped => alive (stillAlive dropped)⟩
      | none =>
          have nothing : (((default : Driver Data).run (before ++ filing :: after)).results
              resultTx.channel).enqueued = [] := by simpa [answered] using received
          have answer : (if touches operation then some operation else none).bind reply =
              reply operation := by
            cases touching : touches operation <;> simp [touching, silent]
          simp only [nothing, Option.isNone_none, true_and, List.nil_append, Option.none_or,
            answer]
          constructor
          · split <;> simp
          · intro dropped
            simp [stillAlive dropped]

section Acknowledgements

variable {before after : List (Operation Data)} {reqId : String} {subsId : SubscriptionId}
  {query : String} {resultTx : ResultTx}

theorem replies_to_pendingAdd {eventTx : EventTx Data}
    (fresh :
      FreshResultChannels (before ++ .pendingAdd reqId subsId query eventTx resultTx :: after)) :
    let replies := (((default : Driver Data).run
      (before ++ .pendingAdd reqId subsId query eventTx resultTx :: after)).results
        resultTx.channel).enqueued
    replies <+: (answerToPendingAdd after reqId).toList ∧
      (resultRxDropped (before ++ .pendingAdd reqId subsId query eventTx resultTx :: after)
        resultTx.channel = false → replies = (answerToPendingAdd after reqId).toList) :=
  replies_of_repliedBy fresh rfl Operation.subscribeReply_of_not_touches fun fresh operation =>
    (repliedBy_of_filed fresh rfl rfl operation).trans
      (if_pos (by simp [Operation.touchesPendingSubscribe]))

theorem replies_to_pendingRemove
    (fresh : FreshResultChannels (before ++ .pendingRemove reqId subsId query resultTx :: after)) :
    let replies := (((default : Driver Data).run
      (before ++ .pendingRemove reqId subsId query resultTx :: after)).results
        resultTx.channel).enqueued
    replies <+: (answerToPendingRemove after reqId).toList ∧
      (resultRxDropped (before ++ .pendingRemove reqId subsId query resultTx :: after)
        resultTx.channel = false → replies = (answerToPendingRemove after reqId).toList) :=
  replies_of_repliedBy fresh rfl Operation.unsubscribeReply_of_not_touches fun fresh operation =>
    (repliedBy_of_filed fresh rfl rfl operation).trans
      (if_neg (by simp [Operation.touchesPendingSubscribe]))

/-- An acknowledgement after `history` that finds no request to answer returns
`Ok(())` and changes neither the router nor any reply channel. -/
theorem unanswered_acknowledgement (history : List (Operation Data)) (reqId : String)
    (err : Error) :
    let driver := (default : Driver Data).run history
    (unansweredPendingAdd history reqId = none →
      driver.router.confirmAdd driver.results reqId =
          some (driver.router, driver.results, .ok ()) ∧
        driver.router.cancelAdd driver.results reqId err =
          (driver.router, driver.results, .ok ())) ∧
    (unansweredPendingRemove history reqId = none →
      driver.router.confirmRemove driver.results reqId = (driver.router, driver.results, .ok ()) ∧
        driver.router.cancelRemove driver.results reqId err =
          (driver.router, driver.results, .ok ())) := by
  constructor
  · intro unanswered
    have absent := AList.lookup_eq_none.mp ((pendingSubscribe_run history reqId).trans unanswered)
    exact ⟨SubscriptionRouter.confirmAdd_of_not_mem _ _ _ absent,
      SubscriptionRouter.cancelAdd_of_not_mem _ _ _ _ absent⟩
  · intro unanswered
    have absent := AList.lookup_eq_none.mp ((pendingUnsubscribe_run history reqId).trans unanswered)
    exact ⟨SubscriptionRouter.confirmRemove_of_not_mem _ _ _ absent,
      SubscriptionRouter.cancelRemove_of_not_mem _ _ _ _ absent⟩

end Acknowledgements

end Driver

variable (operations : List (Operation Data))

/-- In every run from the start in which each `pending_add` and
`pending_remove` is passed a fresh reply channel, the reply channel of a
request receives at most one value: the reply of the first acknowledgement of
its request id that follows it, when no new request with that id comes first,
and exactly that reply when its receiver is never dropped. An acknowledgement
that finds no request to answer returns `Ok(())` and changes nothing. What an
acknowledgement does to the router does not depend on whether its reply can
be delivered, and it returns an error exactly when it answers a request whose
reply receiver is gone. -/
theorem acknowledgements_answer_each_request_once (fresh : FreshResultChannels operations) :
    (∀ before reqId subsId query eventTx resultTx after,
      operations = before ++ .pendingAdd reqId subsId query eventTx resultTx :: after →
      (((default : Driver Data).run operations).results resultTx.channel).enqueued <+:
          (answerToPendingAdd after reqId).toList ∧
        (resultRxDropped operations resultTx.channel = false →
          (((default : Driver Data).run operations).results resultTx.channel).enqueued =
            (answerToPendingAdd after reqId).toList)) ∧
    (∀ before reqId subsId query resultTx after,
      operations = before ++ .pendingRemove reqId subsId query resultTx :: after →
      (((default : Driver Data).run operations).results resultTx.channel).enqueued <+:
          (answerToPendingRemove after reqId).toList ∧
        (resultRxDropped operations resultTx.channel = false →
          (((default : Driver Data).run operations).results resultTx.channel).enqueued =
            (answerToPendingRemove after reqId).toList)) ∧
    (∀ history, history <+: operations → ∀ reqId err,
      let driver := (default : Driver Data).run history
      (unansweredPendingAdd history reqId = none →
        driver.router.confirmAdd driver.results reqId =
            some (driver.router, driver.results, .ok ()) ∧
          driver.router.cancelAdd driver.results reqId err =
            (driver.router, driver.results, .ok ())) ∧
      (unansweredPendingRemove history reqId = none →
        driver.router.confirmRemove driver.results reqId =
            (driver.router, driver.results, .ok ()) ∧
          driver.router.cancelRemove driver.results reqId err =
            (driver.router, driver.results, .ok ()))) ∧
    (∀ (router : SubscriptionRouter Data) (results results' : ResultChannels) reqId err,
      (router.confirmAdd results reqId).map Prod.fst =
          (router.confirmAdd results' reqId).map Prod.fst ∧
        (router.cancelAdd results reqId err).1 = (router.cancelAdd results' reqId err).1 ∧
        (router.confirmRemove results reqId).1 = (router.confirmRemove results' reqId).1 ∧
        (router.cancelRemove results reqId err).1 = (router.cancelRemove results' reqId err).1) ∧
    (∀ (router : SubscriptionRouter Data) (results : ResultChannels) reqId err,
      (router.confirmAdd results reqId).map (fun answered => answered.2.2.isErr) =
          some ((router.pendingSubscribe.lookup reqId).any fun pending =>
            (results pending.resultTx.channel).closed) ∧
        (router.cancelAdd results reqId err).2.2.isErr =
          (router.pendingSubscribe.lookup reqId).any (fun pending =>
            (results pending.resultTx.channel).closed) ∧
        (router.confirmRemove results reqId).2.2.isErr =
          (router.pendingUnsubscribe.lookup reqId).any (fun pending =>
            (results pending.resultTx.channel).closed) ∧
        (router.cancelRemove results reqId err).2.2.isErr =
          (router.pendingUnsubscribe.lookup reqId).any fun pending =>
            (results pending.resultTx.channel).closed) := by
  refine ⟨?_, ?_, fun history _ reqId err => Driver.unanswered_acknowledgement history reqId err,
    fun router results results' reqId err => ⟨?_, ?_, ?_, ?_⟩,
    fun router results reqId err => ⟨SubscriptionRouter.confirmAdd_isErr _ _ _,
      SubscriptionRouter.cancelAdd_isErr _ _ _ _, SubscriptionRouter.confirmRemove_isErr _ _ _,
      SubscriptionRouter.cancelRemove_isErr _ _ _ _⟩⟩
  · rintro before reqId subsId query eventTx resultTx after rfl
    exact Driver.replies_to_pendingAdd fresh
  · rintro before reqId subsId query resultTx after rfl
    exact Driver.replies_to_pendingRemove fresh
  · rw [SubscriptionRouter.confirmAdd_map_router, SubscriptionRouter.confirmAdd_map_router]
  · rw [SubscriptionRouter.cancelAdd_router, SubscriptionRouter.cancelAdd_router]
  · rw [SubscriptionRouter.confirmRemove_router, SubscriptionRouter.confirmRemove_router]
  · rw [SubscriptionRouter.cancelRemove_router, SubscriptionRouter.cancelRemove_router]

/-- A subscribe request acknowledged twice, the second time too late. -/
def subscribeAckedTwice : List (Operation Unit) :=
  [.pendingAdd "r" ⟨"r"⟩ "q" ⟨1⟩ ⟨7⟩, .confirmAdd "r", .confirmAdd "r"]

theorem subscribeAckedTwice_replied_once :
    FreshResultChannels subscribeAckedTwice ∧
      (((default : Driver Unit).run subscribeAckedTwice).results 7).enqueued = [.ok ()] :=
  ⟨by decide, ((acknowledgements_answer_each_request_once subscribeAckedTwice (by decide)).1
    [] "r" ⟨"r"⟩ "q" ⟨1⟩ ⟨7⟩ _ rfl).2 (by decide)⟩

end TendermintRpc
