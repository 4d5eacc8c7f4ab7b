import TendermintRpc.Driver.Step

/-! # What a run remembers

After a run from the start, the two pending tables and the dropped receivers
are read off the history alone: a request id is pending with the request of
its last `pending_*` call when no acknowledgement for that id came later, and a
receiver is gone when some step dropped it. -/

namespace TendermintRpc

namespace Operation

variable {Data : Type}

/-- Whether the step is a `pending_add`, `confirm_add` or `cancel_add` for
`reqId`. -/
def touchesPendingSubscribe (reqId : String) : Operation Data → Bool
  | .pendingAdd pendingId .. => pendingId = reqId
  | .confirmAdd acknowledged => acknowledged = reqId
  | .cancelAdd acknowledged _ => acknowledged = reqId
  | _ => false

/-- Whether the step is a `pending_remove`, `confirm_remove` or `cancel_remove`
for `reqId`. -/
def touchesPendingUnsubscribe (reqId : String) : Operation Data → Bool
  | .pendingRemove pendingId .. => pendingId = reqId
  | .confirmRemove acknowledged => acknowledged = reqId
  | .cancelRemove acknowledged _ => acknowledged = reqId
  | _ => false

/-- The request a `pending_add` files. -/
def pendingSubscribeEntry : Operation Data → Option (PendingSubscribe Data)
  | .pendingAdd _ subsId query eventTx resultTx => some ⟨subsId, query, eventTx, resultTx⟩
  | _ => none

/-- The request a `pending_remove` files. -/
def pendingUnsubscribeEntry : Operation Data → Option PendingUnsubscribe
  | .pendingRemove _ subsId query resultTx => some ⟨subsId, query, resultTx⟩
  | _ => none

theorem lookup_onPendingSubscribe (operation : Operation Data)
    (table : HashMap String (PendingSubscribe Data)) (reqId : String) :
    (operation.onPendingSubscribe table).lookup reqId =
      if operation.touchesPendingSubscribe reqId then operation.pendingSubscribeEntry
      else table.lookup reqId := by
  cases operation <;> simp [onPendingSubscribe, touchesPendingSubscribe, pendingSubscribeEntry,
    HashMap.lookup_insert_eq_ite, HashMap.lookup_erase_eq_ite]

theorem lookup_onPendingUnsubscribe (operation : Operation Data)
    (table : HashMap String PendingUnsubscribe) (reqId : String) :
    (operation.onPendingUnsubscribe table).lookup reqId =
      if operation.touchesPendingUnsubscribe reqId then operation.pendingUnsubscribeEntry
      else table.lookup reqId := by
  cases operation <;> simp [onPendingUnsubscribe, touchesPendingUnsubscribe,
    pendingUnsubscribeEntry, HashMap.lookup_insert_eq_ite, HashMap.lookup_erase_eq_ite]

end Operation

variable {Data : Type}

/-- The `pending_add` for `reqId` that no acknowledgement has answered after
`history`: the last step of `history` that is a `pending_add`, `confirm_add` or
`cancel_add` for `reqId`, when that step is a `pending_add`. -/
def unansweredPendingAdd (history : List (Operation Data)) (reqId : String) :
    Option (PendingSubscribe Data) :=
  (history.reverse.find? (Operation.touchesPendingSubscribe reqId)).bind
    Operation.pendingSubscribeEntry

/-- The `pending_remove` for `reqId` that no acknowledgement has answered after
`history`. -/
def unansweredPendingRemove (history : List (Operation Data)) (reqId : String) :
    Option PendingUnsubscribe :=
  (history.reverse.find? (Operation.touchesPendingUnsubscribe reqId)).bind
    Operation.pendingUnsubscribeEntry

/-- Whether some step of `history` dropped the receiver of event channel
`channel`. -/
def eventRxDropped (history : List (Operation Data)) (channel : Nat) : Bool :=
  history.any (Operation.dropsEventRx channel)

/-- Whether some step of `history` dropped the receiver of reply channel
`channel`. -/
def resultRxDropped (history : List (Operation Data)) (channel : Nat) : Bool :=
  history.any (Operation.dropsResultRx channel)

theorem mem_of_unansweredPendingAdd {history : List (Operation Data)} {reqId : String}
    {pending : PendingSubscribe Data} (found : unansweredPendingAdd history reqId = some pending) :
    ∃ operation ∈ history, operation.pendingSubscribeEntry = some pending := by
  obtain ⟨operation, last, entry⟩ := Option.bind_eq_some.mp found
  exact ⟨operation, List.mem_reverse.mp (List.mem_of_find?_eq_some last), entry⟩

theorem unansweredPendingAdd_append_singleton (history : List (Operation Data))
    (operation : Operation Data) (reqId : String) :
    unansweredPendingAdd (history ++ [operation]) reqId =
      if operation.touchesPendingSubscribe reqId then operation.pendingSubscribeEntry
      else unansweredPendingAdd history reqId := by
  unfold unansweredPendingAdd
  by_cases touches : operation.touchesPendingSubscribe reqId <;> simp [touches]

theorem unansweredPendingRemove_append_singleton (history : List (Operation Data))
    (operation : Operation Data) (reqId : String) :
    unansweredPendingRemove (history ++ [operation]) reqId =
      if operation.touchesPendingUnsubscribe reqId then operation.pendingUnsubscribeEntry
      else unansweredPendingRemove history reqId := by
  unfold unansweredPendingRemove
  by_cases touches : operation.touchesPendingUnsubscribe reqId <;> simp [touches]

namespace Driver

section Shrinking

variable {driver : Driver Data} {operation : Operation Data}

/-- A step that files no subscribe request only forgets pending ones. -/
theorem pendingSubscribe_of_step {reqId : String} {pending : PendingSubscribe Data}
    (found : (driver.step operation).router.pendingSubscribe.lookup reqId = some pending)
    (files : operation.pendingSubscribeEntry = none) :
    driver.router.pendingSubscribe.lookup reqId = some pending := by
  rw [pendingSubscribe_step, Operation.lookup_onPendingSubscribe, files] at found
  split at found
  · cases found
  · exact found

theorem pendingUnsubscribe_of_step {reqId : String} {pending : PendingUnsubscribe}
    (found : (driver.step operation).router.pendingUnsubscribe.lookup reqId = some pending)
    (files : operation.pendingUnsubscribeEntry = none) :
    driver.router.pendingUnsubscribe.lookup reqId = some pending := by
  rw [pendingUnsubscribe_step, Operation.lookup_onPendingUnsubscribe, files] at found
  split at found
  · cases found
  · exact found

/-- A step that is neither an `add` nor a `confirm_add` installs no sink. -/
theorem sink_of_step (noAdd : ∀ id query eventTx, operation ≠ .add id query eventTx)
    (noConfirm : ∀ reqId, operation ≠ .confirmAdd reqId) {query : String} {id : SubscriptionId}
    (held : ((driver.step operation).router.sink query id).isSome) :
    (driver.router.sink query id).isSome := by
  obtain ⟨sent, held⟩ := Option.isSome_iff_exists.mp held
  rw [sink_step] at held
  rcases sinkAfter_eq_some held with old | added | ⟨reqId, _, confirmed, -⟩
  · simp [old]
  · exact absurd added (noAdd _ _ _)
  · exact absurd confirmed (noConfirm reqId)

end Shrinking

variable (operations : List (Operation Data))

/-- After a run from the start, the pending-subscribe table holds the
unanswered `pending_add` of every request id. -/
theorem pendingSubscribe_run (reqId : String) :
    ((default : Driver Data).run operations).router.pendingSubscribe.lookup reqId =
      unansweredPendingAdd operations reqId := by
  induction operations using List.reverseRecOn with
  | nil => rfl
  | append_singleton history operation induction =>
      rw [run_append_singleton, pendingSubscribe_step, Operation.lookup_onPendingSubscribe,
        unansweredPendingAdd_append_singleton, induction]

theorem pendingUnsubscribe_run (reqId : String) :
    ((default : Driver Data).run operations).router.pendingUnsubscribe.lookup reqId =
      unansweredPendingRemove operations reqId := by
  induction operations using List.reverseRecOn with
  | nil => rfl
  | append_singleton history operation induction =>
      rw [run_append_singleton, pendingUnsubscribe_step, Operation.lookup_onPendingUnsubscribe,
        unansweredPendingRemove_append_singleton, induction]

theorem events_closed_run (channel : Nat) :
    (((default : Driver Data).run operations).events channel).closed =
      eventRxDropped operations channel := by
  induction operations using List.reverseRecOn with
  | nil => rfl
  | append_singleton history operation induction =>
      simp [events_step_closed, induction, eventRxDropped]

theorem results_closed_run (channel : Nat) :
    (((default : Driver Data).run operations).results channel).closed =
      resultRxDropped operations channel := by
  induction operations using List.reverseRecOn with
  | nil => rfl
  | append_singleton history operation induction =>
      simp [results_step_closed, induction, resultRxDropped]

end Driver

end TendermintRpc
