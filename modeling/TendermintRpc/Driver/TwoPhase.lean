import TendermintRpc.Driver.History

/-! # Two-phase subscriptions refine one-phase ones

Between a `pending_add(r, …)` and its `confirm_add(r)` the only trace the
request leaves in the router is its entry in the pending-subscribe table, which
no other step reads. So the two-phase path ends in the router the one-phase
`add` reaches, and a cancelled request leaves the router as if it had never
been made; the same holds for unsubscribing. -/

namespace TendermintRpc

variable {Data : Type}

namespace Operation

theorem onPendingSubscribe_erase {operation : Operation Data} {reqId : String}
    (untouched : operation.touchesPendingSubscribe reqId = false)
    (table : HashMap String (PendingSubscribe Data)) :
    (operation.onPendingSubscribe table).erase reqId =
      operation.onPendingSubscribe (table.erase reqId) := by
  cases operation with
  | pendingAdd pendingId subsId query eventTx resultTx =>
      exact HashMap.erase_insert_of_ne (by simpa [touchesPendingSubscribe] using untouched)
  | confirmAdd acknowledged => exact AList.erase_erase _ _ _
  | cancelAdd acknowledged err => exact AList.erase_erase _ _ _
  | _ => rfl

theorem onPendingUnsubscribe_erase {operation : Operation Data} {reqId : String}
    (untouched : operation.touchesPendingUnsubscribe reqId = false)
    (table : HashMap String PendingUnsubscribe) :
    (operation.onPendingUnsubscribe table).erase reqId =
      operation.onPendingUnsubscribe (table.erase reqId) := by
  cases operation with
  | pendingRemove pendingId subsId query resultTx =>
      exact HashMap.erase_insert_of_ne (by simpa [touchesPendingUnsubscribe] using untouched)
  | confirmRemove acknowledged => exact AList.erase_erase _ _ _
  | cancelRemove acknowledged err => exact AList.erase_erase _ _ _
  | _ => rfl

end Operation

namespace Driver

/-- The driver with the pending tables of its router replaced. -/
def withPending (driver : Driver Data) (subscribing : HashMap String (PendingSubscribe Data))
    (unsubscribing : HashMap String PendingUnsubscribe) : Driver Data :=
  { driver with router := driver.router.withPending subscribing unsubscribing }

/-- A step does the same to a driver whose pending tables are replaced by ones
that agree at the request ids the step touches. -/
theorem step_withPending (driver : Driver Data)
    (subscribing : HashMap String (PendingSubscribe Data))
    (unsubscribing : HashMap String PendingUnsubscribe) (operation : Operation Data)
    (agreeSubscribe : ∀ reqId, operation.touchesPendingSubscribe reqId = true →
      subscribing.lookup reqId = driver.router.pendingSubscribe.lookup reqId)
    (agreeUnsubscribe : ∀ reqId, operation.touchesPendingUnsubscribe reqId = true →
      unsubscribing.lookup reqId = driver.router.pendingUnsubscribe.lookup reqId) :
    (driver.withPending subscribing unsubscribing).step operation =
      (driver.step operation).withPending (operation.onPendingSubscribe subscribing)
        (operation.onPendingUnsubscribe unsubscribing) := by
  cases operation with
  | confirmAdd reqId =>
      have agree := agreeSubscribe reqId (by simp [Operation.touchesPendingSubscribe])
      simp [step, withPending, SubscriptionRouter.confirmAdd_withPending _ _ _ _ _ agree,
        Option.get_map, Operation.onPendingSubscribe, Operation.onPendingUnsubscribe]
  | cancelAdd reqId err =>
      have agree := agreeSubscribe reqId (by simp [Operation.touchesPendingSubscribe])
      simp [step, withPending, SubscriptionRouter.cancelAdd_withPending _ _ _ _ _ _ agree,
        Operation.onPendingSubscribe, Operation.onPendingUnsubscribe]
  | confirmRemove reqId =>
      have agree := agreeUnsubscribe reqId (by simp [Operation.touchesPendingUnsubscribe])
      simp [step, withPending, SubscriptionRouter.confirmRemove_withPending _ _ _ _ _ agree,
        Operation.onPendingSubscribe, Operation.onPendingUnsubscribe]
  | cancelRemove reqId err =>
      have agree := agreeUnsubscribe reqId (by simp [Operation.touchesPendingUnsubscribe])
      simp [step, withPending, SubscriptionRouter.cancelRemove_withPending _ _ _ _ _ _ agree,
        Operation.onPendingSubscribe, Operation.onPendingUnsubscribe]
  | pendingAdd reqId subsId query eventTx resultTx => rfl
  | pendingRemove reqId subsId query resultTx => rfl
  | _ =>
      simp [step, withPending, SubscriptionRouter.publish_withPending,
        SubscriptionRouter.add_withPending, SubscriptionRouter.remove_withPending, Option.get_map,
        Operation.onPendingSubscribe, Operation.onPendingUnsubscribe]

/-! ## A run with one more pending request

Both pending tables carry an extra request through a run in the same way, so
the run lemma is stated once over the table: `table` reads it off a driver,
`extend` puts another table in its place, `touches` tests whether a step
touches a request id of the table, and `onTable` is what a step does to it. -/

section ExtraRequest

variable {V : Type} (table : Driver Data → HashMap String V)
  (extend : Driver Data → HashMap String V → Driver Data)
  (touches : String → Operation Data → Bool)
  (onTable : Operation Data → HashMap String V → HashMap String V) {reqId : String} {entry : V}

/-- Along steps that touch no request for `reqId` in the table, a run from a
driver with one more pending request, at `reqId`, stays the run without it,
plus that request. -/
theorem run_extend
    (extend_step : ∀ driver extra operation, (∀ other, touches other operation = true →
        extra.lookup other = (table driver).lookup other) →
      (extend driver extra).step operation =
        extend (driver.step operation) (onTable operation extra))
    (table_step : ∀ driver operation,
      table (driver.step operation) = onTable operation (table driver))
    (erase_onTable : ∀ operation extra, touches reqId operation = false →
      (onTable operation extra).erase reqId = onTable operation (extra.erase reqId))
    (lookup_onTable : ∀ operation extra, touches reqId operation = false →
      (onTable operation extra).lookup reqId = extra.lookup reqId) :
    ∀ (operations : List (Operation Data)),
      (∀ operation ∈ operations, touches reqId operation = false) →
      ∀ (driver : Driver Data) (extra : HashMap String V), extra.erase reqId = table driver →
        extra.lookup reqId = some entry →
        ∃ extra', (extend driver extra).run operations = extend (driver.run operations) extra' ∧
          extra'.erase reqId = table (driver.run operations) ∧ extra'.lookup reqId = some entry
  | [], _, _, extra, erased, filed => ⟨extra, rfl, erased, filed⟩
  | operation :: rest, untouched, driver, extra, erased, filed => by
      have untouchedHere := untouched operation (List.mem_cons_self _ _)
      have agree : ∀ other, touches other operation = true →
          extra.lookup other = (table driver).lookup other := fun other touching => by
        have different : other ≠ reqId := by
          rintro rfl
          simp [untouchedHere] at touching
        rw [← erased, AList.lookup_erase_ne different]
      rw [run_cons, run_cons, extend_step driver extra operation agree]
      exact run_extend extend_step table_step erase_onTable lookup_onTable rest
        (fun other member => untouched other (List.mem_cons_of_mem _ member)) _ _
        (by rw [erase_onTable operation extra untouchedHere, erased, table_step])
        (by rw [lookup_onTable operation extra untouchedHere, filed])

end ExtraRequest

section Answer

variable (driver : Driver Data) {reqId : String}

/-- Confirming the extra pending subscribe request leaves the router that an
`add` of its subscription leaves, and sends on no event channel. -/
theorem step_confirmAdd_withPending {subscribing : HashMap String (PendingSubscribe Data)}
    {entry : PendingSubscribe Data}
    (erased : subscribing.erase reqId = driver.router.pendingSubscribe)
    (filed : subscribing.lookup reqId = some entry) :
    ((driver.withPending subscribing driver.router.pendingUnsubscribe).step
        (.confirmAdd reqId)).router =
      (driver.step (.add entry.id entry.query entry.eventTx)).router ∧
    ((driver.withPending subscribing driver.router.pendingUnsubscribe).step
        (.confirmAdd reqId)).events =
      (driver.step (.add entry.id entry.query entry.eventTx)).events := by
  have confirmed := SubscriptionRouter.confirmAdd_of_lookup
    (driver.router.withPending subscribing driver.router.pendingUnsubscribe) driver.results reqId
    filed
  have restored : { driver.router.withPending subscribing driver.router.pendingUnsubscribe with
      pendingSubscribe := (driver.router.withPending subscribing
        driver.router.pendingUnsubscribe).pendingSubscribe.erase reqId } = driver.router := by
    simp only [SubscriptionRouter.withPending_pendingSubscribe, erased]
    rfl
  rw [restored] at confirmed
  exact ⟨by simp [step, withPending, confirmed, Option.get_map], rfl⟩

/-- Cancelling the extra pending subscribe request leaves the router without
it, and sends on no event channel. -/
theorem step_cancelAdd_withPending {subscribing : HashMap String (PendingSubscribe Data)}
    (erased : subscribing.erase reqId = driver.router.pendingSubscribe) (err : Error) :
    ((driver.withPending subscribing driver.router.pendingUnsubscribe).step
        (.cancelAdd reqId err)).router = driver.router ∧
      ((driver.withPending subscribing driver.router.pendingUnsubscribe).step
        (.cancelAdd reqId err)).events = driver.events := by
  refine ⟨?_, rfl⟩
  simp only [step, SubscriptionRouter.cancelAdd_router, withPending,
    SubscriptionRouter.withPending_pendingSubscribe, erased]
  rfl

/-- Confirming the extra pending unsubscribe request leaves the router that a
`remove` of its subscription leaves, and sends on no event channel. -/
theorem step_confirmRemove_withPending {unsubscribing : HashMap String PendingUnsubscribe}
    {entry : PendingUnsubscribe}
    (erased : unsubscribing.erase reqId = driver.router.pendingUnsubscribe)
    (filed : unsubscribing.lookup reqId = some entry) :
    ((driver.withPending driver.router.pendingSubscribe unsubscribing).step
        (.confirmRemove reqId)).router = (driver.step (.remove entry.id entry.query)).router ∧
      ((driver.withPending driver.router.pendingSubscribe unsubscribing).step
        (.confirmRemove reqId)).events = (driver.step (.remove entry.id entry.query)).events := by
  refine ⟨?_, rfl⟩
  simp only [step, SubscriptionRouter.confirmRemove_router, withPending,
    SubscriptionRouter.withPending_pendingUnsubscribe, filed, erased]
  rfl

/-- Cancelling the extra pending unsubscribe request leaves the router without
it, and sends on no event channel. -/
theorem step_cancelRemove_withPending {unsubscribing : HashMap String PendingUnsubscribe}
    (erased : unsubscribing.erase reqId = driver.router.pendingUnsubscribe) (err : Error) :
    ((driver.withPending driver.router.pendingSubscribe unsubscribing).step
        (.cancelRemove reqId err)).router = driver.router ∧
      ((driver.withPending driver.router.pendingSubscribe unsubscribing).step
        (.cancelRemove reqId err)).events = driver.events := by
  refine ⟨?_, rfl⟩
  simp only [step, SubscriptionRouter.cancelRemove_router, withPending,
    SubscriptionRouter.withPending_pendingUnsubscribe, erased]
  rfl

end Answer

end Driver

variable (driver : Driver Data) (reqId : String) (subsId : SubscriptionId) (query : String)
  (operations : List (Operation Data))

/-- From every state, for a request id with no pending subscribe request and
steps `operations` that touch no subscribe request for it, `pending_add`, then
`operations`, then `confirm_add` leaves the router (all three tables) and the
event channels that `operations` then `add` leave, and `pending_add`, then
`operations`, then `cancel_add` leaves those `operations` alone leave. The same
holds for `pending_remove` with `confirm_remove`, `remove` and
`cancel_remove`. -/
theorem two_phase_refines_one_phase (eventTx : EventTx Data) (resultTx : ResultTx) (err : Error) :
    (driver.router.pendingSubscribe.lookup reqId = none →
      (∀ operation ∈ operations, operation.touchesPendingSubscribe reqId = false) →
      (driver.run (.pendingAdd reqId subsId query eventTx resultTx :: operations ++
          [.confirmAdd reqId])).router = (driver.run (operations ++ [.add subsId query eventTx])).router ∧
      (driver.run (.pendingAdd reqId subsId query eventTx resultTx :: operations ++
          [.confirmAdd reqId])).events = (driver.run (operations ++ [.add subsId query eventTx])).events ∧
      (driver.run (.pendingAdd reqId subsId query eventTx resultTx :: operations ++
          [.cancelAdd reqId err])).router = (driver.run operations).router ∧
      (driver.run (.pendingAdd reqId subsId query eventTx resultTx :: operations ++
          [.cancelAdd reqId err])).events = (driver.run operations).events) ∧
    (driver.router.pendingUnsubscribe.lookup reqId = none →
      (∀ operation ∈ operations, operation.touchesPendingUnsubscribe reqId = false) →
      (driver.run (.pendingRemove reqId subsId query resultTx :: operations ++
          [.confirmRemove reqId])).router = (driver.run (operations ++ [.remove subsId query])).router ∧
      (driver.run (.pendingRemove reqId subsId query resultTx :: operations ++
          [.confirmRemove reqId])).events = (driver.run (operations ++ [.remove subsId query])).events ∧
      (driver.run (.pendingRemove reqId subsId query resultTx :: operations ++
          [.cancelRemove reqId err])).router = (driver.run operations).router ∧
      (driver.run (.pendingRemove reqId subsId query resultTx :: operations ++
          [.cancelRemove reqId err])).events = (driver.run operations).events) := by
  constructor
  · intro absent untouched
    let filing : PendingSubscribe Data := ⟨subsId, query, eventTx, resultTx⟩
    obtain ⟨subscribing, related, erased, filed⟩ := Driver.run_extend
      (fun driver => driver.router.pendingSubscribe)
      (fun driver extra => driver.withPending extra driver.router.pendingUnsubscribe)
      Operation.touchesPendingSubscribe Operation.onPendingSubscribe
      (fun driver extra operation agree => by
        rw [Driver.step_withPending _ _ _ _ agree fun _ _ => rfl,
          ← Driver.pendingUnsubscribe_step])
      Driver.pendingSubscribe_step
      (fun _ extra untouched => Operation.onPendingSubscribe_erase untouched extra)
      (fun _ _ untouched => by simp [Operation.lookup_onPendingSubscribe, untouched])
      operations untouched driver (driver.router.pendingSubscribe.insert reqId filing)
      (HashMap.erase_insert_of_not_mem (AList.lookup_eq_none.mp absent)) (AList.lookup_insert _)
    have filed_step : driver.step (.pendingAdd reqId subsId query eventTx resultTx) =
        driver.withPending (driver.router.pendingSubscribe.insert reqId filing)
          driver.router.pendingUnsubscribe := rfl
    simp only [Driver.run_cons, Driver.run_append_singleton, filed_step, related]
    exact ⟨Driver.step_confirmAdd_withPending _ erased filed |>.1,
      Driver.step_confirmAdd_withPending _ erased filed |>.2,
      Driver.step_cancelAdd_withPending _ erased err⟩
  · intro absent untouched
    let filing : PendingUnsubscribe := ⟨subsId, query, resultTx⟩
    obtain ⟨unsubscribing, related, erased, filed⟩ := Driver.run_extend
      (fun driver => driver.router.pendingUnsubscribe)
      (fun driver extra => driver.withPending driver.router.pendingSubscribe extra)
      Operation.touchesPendingUnsubscribe Operation.onPendingUnsubscribe
      (fun driver extra operation agree => by
        rw [Driver.step_withPending _ _ _ _ (fun _ _ => rfl) agree,
          ← Driver.pendingSubscribe_step])
      Driver.pendingUnsubscribe_step
      (fun _ extra untouched => Operation.onPendingUnsubscribe_erase untouched extra)
      (fun _ _ untouched => by simp [Operation.lookup_onPendingUnsubscribe, untouched])
      operations untouched driver (driver.router.pendingUnsubscribe.insert reqId filing)
      (HashMap.erase_insert_of_not_mem (AList.lookup_eq_none.mp absent)) (AList.lookup_insert _)
    have filed_step : driver.step (.pendingRemove reqId subsId query resultTx) =
        driver.withPending driver.router.pendingSubscribe
          (driver.router.pendingUnsubscribe.insert reqId filing) := rfl
    simp only [Driver.run_cons, Driver.run_append_singleton, filed_step, related]
    exact ⟨Driver.step_confirmRemove_withPending _ erased filed |>.1,
      Driver.step_confirmRemove_withPending _ erased filed |>.2,
      Driver.step_cancelRemove_withPending _ erased err⟩

/-- Another subscription is added and an event published while the
subscribe request `"r"` waits for its acknowledgement. -/
def addAndPublish : List (Operation Unit) := [.add ⟨"t"⟩ "p" ⟨2⟩, .publish ⟨"q", ()⟩]

theorem addAndPublish_between_phases :
    (default : Driver Unit).router.pendingSubscribe.lookup "r" = none ∧
    (∀ operation ∈ addAndPublish, operation.touchesPendingSubscribe "r" = false) ∧
    ((default : Driver Unit).run (.pendingAdd "r" ⟨"s"⟩ "q" ⟨1⟩ ⟨7⟩ :: addAndPublish ++
        [.confirmAdd "r"])).router = ((default : Driver Unit).run (addAndPublish ++
        [.add ⟨"s"⟩ "q" ⟨1⟩])).router ∧
    (default : Driver Unit).router.pendingUnsubscribe.lookup "r" = none ∧
    (∀ operation ∈ addAndPublish, operation.touchesPendingUnsubscribe "r" = false) ∧
    ((default : Driver Unit).run (.pendingRemove "r" ⟨"t"⟩ "p" ⟨7⟩ :: addAndPublish ++
        [.confirmRemove "r"])).router = ((default : Driver Unit).run (addAndPublish ++
        [.remove ⟨"t"⟩ "p"])).router :=
  ⟨rfl, by decide,
    ((two_phase_refines_one_phase default "r" ⟨"s"⟩ "q" addAndPublish ⟨1⟩ ⟨7⟩ .transport).1 rfl
      (by decide)).1,
    rfl, by decide,
    ((two_phase_refines_one_phase default "r" ⟨"t"⟩ "p" addAndPublish ⟨1⟩ ⟨7⟩ .transport).2 rfl
      (by decide)).1⟩

end TendermintRpc
