import Mathlib.Data.List.Infix
import TendermintRpc.Driver.History
import TendermintRpc.Foundation.Since

/-! # Installation and delivery of a sink

When a sink is installed in the routing table, when it stops being installed,
and which events it receives, all read off the history of a run: the steps
that install a sender at a query and id, the steps that uninstall it, and the
`publish` calls made while it is installed. -/

namespace TendermintRpc

variable {Data : Type}

section Installation

variable (eventTx : EventTx Data) (query : String) (id : SubscriptionId)

/-- Whether the step, after `history`, installs `eventTx` under `(query, id)`: an
`add(id, query, eventTx)`, or a `confirm_add(r)` that answers a
`pending_add(r, id, query, eventTx, _)`. -/
def installs (history : List (Operation Data)) : Operation Data → Bool
  | .add added addedQuery passed => decide ((query = addedQuery ∧ id = added) ∧ passed = eventTx)
  | .confirmAdd reqId => (unansweredPendingAdd history reqId).any fun pending =>
      decide ((query = pending.query ∧ id = pending.id) ∧ pending.eventTx = eventTx)
  | _ => false

/-- Whether the step, after `history`, ends the installation of `eventTx` under
`(query, id)`: a `remove(id, query)`, a `confirm_remove` that answers a
`pending_remove(_, id, query, _)`, an `add` or `confirm_add` installing another
sender at `(query, id)`, or a `publish` for `query` that finds the receiver of
`eventTx` dropped. -/
def uninstalls (history : List (Operation Data)) : Operation Data → Bool
  | .remove removed removedQuery => decide (query = removedQuery ∧ id = removed)
  | .confirmRemove reqId => (unansweredPendingRemove history reqId).any fun pending =>
      decide (query = pending.query ∧ id = pending.id)
  | .add added addedQuery passed => decide ((query = addedQuery ∧ id = added) ∧ passed ≠ eventTx)
  | .confirmAdd reqId => (unansweredPendingAdd history reqId).any fun pending =>
      decide ((query = pending.query ∧ id = pending.id) ∧ pending.eventTx ≠ eventTx)
  | .publish ev => decide (query = ev.query) && eventRxDropped history eventTx.channel
  | _ => false

/-- `eventTx` is installed under `(query, id)` after `history`: some step
installed it and no later step ended that. -/
def Installed (history : List (Operation Data)) : Prop :=
  Since (installs eventTx query id) (uninstalls eventTx query id) history

instance (history : List (Operation Data)) : Decidable (Installed eventTx query id history) :=
  inferInstanceAs (Decidable (Since _ _ _))

/-- `Ok(ev)` for each `publish(ev)` for `query` in `history` executed while
`eventTx` is installed under `(query, id)`, in the order of the calls. -/
def deliveries (history : List (Operation Data)) : List (Result (Event Data)) :=
  history.inits.filterMap fun done =>
    match done.getLast? with
    | some (.publish ev) =>
        if ev.query = query ∧ Installed eventTx query id done then some (.ok ev) else none
    | _ => none

theorem deliveries_append_singleton (history : List (Operation Data))
    (operation : Operation Data) :
    deliveries eventTx query id (history ++ [operation]) =
      deliveries eventTx query id history ++
        match operation with
        | .publish ev =>
            if ev.query = query ∧ Installed eventTx query id (history ++ [operation]) then [.ok ev]
            else []
        | _ => [] := by
  have inits : (history ++ [operation]).inits = history.inits ++ [history ++ [operation]] := by
    simp [List.inits_append]
  rw [deliveries, inits, List.filterMap_append, ← deliveries]
  cases operation <;> simp only [List.filterMap_cons, List.filterMap_nil, List.getLast?_concat]
  split <;> simp_all

private theorem install_iff {β : Type} {slot : Prop} [Decidable slot] (passed eventTx : β)
    (old : Option β) :
    (if slot then some passed else old) = some eventTx ↔
      (slot ∧ passed = eventTx) ∨ (old = some eventTx ∧ ¬(slot ∧ passed ≠ eventTx)) := by
  by_cases slot <;> by_cases passed = eventTx <;> simp_all

private theorem uninstall_iff {β : Type} {slot : Prop} [Decidable slot] (old : Option β)
    (eventTx : β) : (if slot then none else old) = some eventTx ↔ old = some eventTx ∧ ¬slot := by
  by_cases slot <;> simp_all

/-- What one step does to the sink at `(query, id)`, read as the history says:
it is `eventTx` afterwards exactly when the step installs it, or it was
`eventTx` and the step does not end that. -/
theorem sinkAfter_eq_some_iff (history : List (Operation Data)) (operation : Operation Data) :
    ((default : Driver Data).run history).sinkAfter query id operation = some eventTx ↔
      installs eventTx query id history operation = true ∨
        (((default : Driver Data).run history).router.sink query id = some eventTx ∧
          uninstalls eventTx query id history operation = false) := by
  cases operation with
  | publish ev =>
      by_cases same : query = ev.query <;>
        simp [Driver.sinkAfter, installs, uninstalls, same, SubscriptionRouter.Live,
          Driver.events_closed_run]
  | add added addedQuery passed =>
      simp only [Driver.sinkAfter, installs, uninstalls, install_iff, decide_eq_true_eq,
        decide_eq_false_iff_not]
  | confirmAdd reqId =>
      simp only [Driver.sinkAfter, installs, uninstalls, Driver.pendingSubscribe_run]
      cases unansweredPendingAdd history reqId with
      | none => simp
      | some pending =>
          simp only [Option.any_some, install_iff, decide_eq_true_eq, decide_eq_false_iff_not]
  | remove removed removedQuery =>
      simp only [Driver.sinkAfter, installs, uninstalls, uninstall_iff, Bool.false_eq_true,
        false_or, decide_eq_false_iff_not]
  | confirmRemove reqId =>
      simp only [Driver.sinkAfter, installs, uninstalls, Driver.pendingUnsubscribe_run]
      cases unansweredPendingRemove history reqId with
      | none => simp
      | some pending =>
          simp only [Option.any_some, uninstall_iff, Bool.false_eq_true, false_or,
            decide_eq_false_iff_not]
  | _ => simp [Driver.sinkAfter, installs, uninstalls]

/-- After every run from the start, the sink at `(query, id)` is `eventTx`
exactly when the history says it is installed. -/
theorem sink_run_iff_installed (history : List (Operation Data)) :
    ((default : Driver Data).run history).router.sink query id = some eventTx ↔
      Installed eventTx query id history := by
  induction history using List.reverseRecOn with
  | nil => simp [Installed, Since.not_nil]
  | append_singleton history operation induction =>
      rw [Driver.run_append_singleton, Driver.sink_step, sinkAfter_eq_some_iff, Installed,
        Since.append_singleton, ← Installed, ← induction]

end Installation

/-! ## Delivery to a fresh sink -/

namespace Operation

/-- The sink a step hands to the router: the id, query and sender of an `add`
or of a `pending_add`. -/
def passedSink : Operation Data → Option (SubscriptionId × String × EventTx Data)
  | .add id query eventTx => some (id, query, eventTx)
  | .pendingAdd _ subsId query eventTx _ => some (subsId, query, eventTx)
  | _ => none

theorem passedSink_of_pendingSubscribeEntry {operation : Operation Data}
    {pending : PendingSubscribe Data} (entry : operation.pendingSubscribeEntry = some pending) :
    operation.passedSink = some (pending.id, pending.query, pending.eventTx) := by
  cases operation <;> simp [pendingSubscribeEntry] at entry
  subst entry
  rfl

end Operation

/-- Every `add` and `pending_add` of `operations` is passed the sender of a new
event channel, one that no other step of `operations` is passed. -/
def FreshEventChannels (operations : List (Operation Data)) : Prop :=
  (operations.filterMap fun operation => operation.passedSink.map fun passed => passed.2.2).Nodup

instance (operations : List (Operation Data)) : Decidable (FreshEventChannels operations) :=
  inferInstanceAs (Decidable (List.Nodup _))

section Delivery

variable {eventTx : EventTx Data} {query : String} {id : SubscriptionId}

/-- Every step of `history` that hands the router `eventTx` hands it for
`(query, id)`. -/
def PassedOnlyFor (eventTx : EventTx Data) (query : String) (id : SubscriptionId)
    (history : List (Operation Data)) : Prop :=
  ∀ operation ∈ history, ∀ passed, operation.passedSink = some passed →
    passed.2.2 = eventTx → passed.1 = id ∧ passed.2.1 = query

theorem PassedOnlyFor.of_append_singleton {history : List (Operation Data)}
    {operation : Operation Data} (onlyFor : PassedOnlyFor eventTx query id (history ++ [operation])) :
    PassedOnlyFor eventTx query id history := fun other member =>
  onlyFor other (List.mem_append_left _ member)

/-- When `eventTx` is handed to the router for `(query, id)` only, the routing
table never holds it anywhere else. -/
theorem sink_run_only {history : List (Operation Data)}
    (onlyFor : PassedOnlyFor eventTx query id history) (other : String) (otherId : SubscriptionId)
    (held : ((default : Driver Data).run history).router.sink other otherId = some eventTx) :
    other = query ∧ otherId = id := by
  induction history using List.reverseRecOn generalizing other otherId with
  | nil => simp at held
  | append_singleton history operation induction =>
      rw [Driver.run_append_singleton, Driver.sink_step] at held
      rcases Driver.sinkAfter_eq_some held with before | rfl | ⟨reqId, pending, rfl, found, rfl, rfl, rfl⟩
      · exact induction onlyFor.of_append_singleton other otherId before
      · obtain ⟨same, sameQuery⟩ :=
          onlyFor (.add otherId other eventTx) (by simp) (otherId, other, eventTx) rfl rfl
        exact ⟨sameQuery, same⟩
      · rw [Driver.pendingSubscribe_run] at found
        obtain ⟨filed, member, entry⟩ := mem_of_unansweredPendingAdd found
        obtain ⟨same, sameQuery⟩ := onlyFor filed (List.mem_append_left _ member) _
          (Operation.passedSink_of_pendingSubscribeEntry entry) rfl
        exact ⟨sameQuery, same⟩

/-- The sinks of a query that send on the channel of `eventTx`, when the
routing table holds `eventTx` at `(query, id)` at most. -/
theorem sinksFor_filter_channel {router : SubscriptionRouter Data}
    (only : ∀ other otherId, router.sink other otherId = some eventTx → other = query ∧ otherId = id)
    (published : String) :
    (router.sinksFor published).filter (fun sink => sink.2.channel = eventTx.channel) =
      if published = query ∧ router.sink query id = some eventTx then [⟨id, eventTx⟩] else [] := by
  cases found : router.subscriptions.lookup published with
  | none =>
      have absent : router.sink published id = none := by simp [SubscriptionRouter.sink, found]
      by_cases same : published = query
      · subst same
        simp [SubscriptionRouter.sinksFor, found, absent]
      · simp [SubscriptionRouter.sinksFor, found, same]
  | some subsForQuery =>
      have held : ∀ otherId sent, ⟨otherId, sent⟩ ∈ subsForQuery.entries →
          router.sink published otherId = some sent := fun otherId sent member => by
        simp [SubscriptionRouter.sink, found, Option.mem_def.mp (AList.mem_lookup_iff.mpr member)]
      rw [SubscriptionRouter.sinksFor, found, Option.map_some', Option.getD_some,
        HashMap.filter_eq_of_forall_eq ⟨id, eventTx⟩ subsForQuery.nodupKeys.nodup]
      · congr 1
        apply propext
        constructor
        · rintro ⟨member, -⟩
          have installed := held id eventTx member
          obtain ⟨rfl, -⟩ := only published id installed
          exact ⟨rfl, installed⟩
        · rintro ⟨rfl, installed⟩
          refine ⟨AList.mem_lookup_iff.mp ?_, by simp⟩
          simpa [SubscriptionRouter.sink, found] using installed
      · rintro ⟨otherId, sent⟩ member sameChannel
        have sameSender : sent = eventTx := ChannelTx.ext (by simpa using sameChannel)
        subst sameSender
        obtain ⟨-, rfl⟩ := only published otherId (held otherId sent member)
        rfl

/-- When `eventTx` is handed to the router for `(query, id)` only, its channel
holds, after a run from the start, what the history says was delivered to it. -/
theorem enqueued_run_eq_deliveries {history : List (Operation Data)}
    (onlyFor : PassedOnlyFor eventTx query id history) :
    (((default : Driver Data).run history).events eventTx.channel).enqueued =
      deliveries eventTx query id history := by
  induction history using List.reverseRecOn with
  | nil => rfl
  | append_singleton history operation induction =>
      rw [Driver.run_append_singleton, Driver.events_step_enqueued,
        induction onlyFor.of_append_singleton, deliveries_append_singleton]
      congr 1
      cases operation with
      | publish ev =>
          simp only [← sink_run_iff_installed, Driver.run_append_singleton, Driver.sink_step,
            Driver.deliveredBy, Driver.sinkAfter,
            sinksFor_filter_channel (sink_run_only onlyFor.of_append_singleton)]
          by_cases same : ev.query = query
          · subst same
            cases closed : (((default : Driver Data).run history).events eventTx.channel).closed <;>
              simp [closed, SubscriptionRouter.Live, apply_ite]
          · simp [same, Ne.symm same]
      | _ => rfl

/-- Two members of a list that select the same value, when no value is selected
twice, are the same. -/
theorem eq_of_nodup_filterMap {γ δ : Type} {select : γ → Option δ} :
    ∀ {entries : List γ}, (entries.filterMap select).Nodup →
      ∀ {first second : γ} {value : δ}, first ∈ entries → second ∈ entries →
        select first = some value → select second = some value → first = second
  | [], _, _, _, _, member, _, _, _ => absurd member (List.not_mem_nil _)
  | head :: rest, nodup, first, second, value, firstMember, secondMember, firstSelect,
      secondSelect => by
      have later : ∀ {other}, other ∈ head :: rest → select other = some value →
          other ≠ head → other ∈ rest := fun member _ different =>
        (List.mem_cons.mp member).resolve_left different
      cases headSelect : select head with
      | none =>
          rw [List.filterMap_cons_none headSelect] at nodup
          have firstLater := later firstMember firstSelect (by rintro rfl; simp_all)
          have secondLater := later secondMember secondSelect (by rintro rfl; simp_all)
          exact eq_of_nodup_filterMap nodup firstLater secondLater firstSelect secondSelect
      | some selected =>
          rw [List.filterMap_cons_some headSelect, List.nodup_cons] at nodup
          have notLater : ∀ {other}, other ∈ rest → select other = some value → value ≠ selected :=
            fun member chosen same => nodup.1 (same ▸ List.mem_filterMap.mpr ⟨_, member, chosen⟩)
          by_cases firstHead : first = head <;> by_cases secondHead : second = head
          · rw [firstHead, secondHead]
          · subst firstHead
            exact absurd (Option.some.inj (firstSelect.symm.trans headSelect))
              (notLater (later secondMember secondSelect secondHead) secondSelect)
          · subst secondHead
            exact absurd (Option.some.inj (secondSelect.symm.trans headSelect))
              (notLater (later firstMember firstSelect firstHead) firstSelect)
          · exact eq_of_nodup_filterMap nodup.2 (later firstMember firstSelect firstHead)
              (later secondMember secondSelect secondHead) firstSelect secondSelect

theorem passedOnlyFor_of_fresh {operations : List (Operation Data)}
    (fresh : FreshEventChannels operations)
    (passed : ∃ operation ∈ operations, operation.passedSink = some (id, query, eventTx)) :
    PassedOnlyFor eventTx query id operations := by
  intro operation member sink passedSink sameSender
  obtain ⟨passing, passingMember, passingSink⟩ := passed
  have selected : operation.passedSink.map (fun passed => passed.2.2) = some eventTx := by
    simp [passedSink, sameSender]
  have passingSelected : passing.passedSink.map (fun passed => passed.2.2) = some eventTx := by
    simp [passingSink]
  have same : operation = passing :=
    eq_of_nodup_filterMap fresh member passingMember selected passingSelected
  rw [same, passingSink] at passedSink
  obtain rfl := Option.some.inj passedSink
  exact ⟨rfl, rfl⟩

end Delivery

variable (operations : List (Operation Data))

/-- In every run from the start in which each `add` and `pending_add` is passed
the sender of a fresh event channel, a sender handed to the router for
`(query, id)` is installed there at exactly the points of the run the history
says (installed by an `add` or by the first `confirm_add` answering its
`pending_add`, uninstalled by the first later `remove`, `confirm_remove`,
overwriting install or evicting `publish`), and its channel holds exactly
`Ok(ev)` for each `publish(ev)` for `query` executed while it is installed, once
each and in the order of the calls. -/
theorem installed_exactly_and_delivered_in_order (fresh : FreshEventChannels operations)
    (id : SubscriptionId) (query : String) (eventTx : EventTx Data)
    (passed : ∃ operation ∈ operations, operation.passedSink = some (id, query, eventTx)) :
    (∀ history, history <+: operations →
      (((default : Driver Data).run history).router.sink query id = some eventTx ↔
        Installed eventTx query id history)) ∧
    (((default : Driver Data).run operations).events eventTx.channel).enqueued =
      deliveries eventTx query id operations :=
  ⟨fun history _ => sink_run_iff_installed eventTx query id history,
    enqueued_run_eq_deliveries (passedOnlyFor_of_fresh fresh passed)⟩

/-- A run that adds a sink and publishes one event for its query. -/
def addThenPublish : List (Operation Unit) :=
  [.add ⟨"a"⟩ "q" ⟨1⟩, .publish ⟨"q", ()⟩]

theorem addThenPublish_installed_and_delivered :
    FreshEventChannels addThenPublish ∧
      (∃ operation ∈ addThenPublish, operation.passedSink = some (⟨"a"⟩, "q", ⟨1⟩)) ∧
      ((∀ history, history <+: addThenPublish →
        (((default : Driver Unit).run history).router.sink "q" ⟨"a"⟩ = some ⟨1⟩ ↔
          Installed ⟨1⟩ "q" ⟨"a"⟩ history)) ∧
      (((default : Driver Unit).run addThenPublish).events 1).enqueued =
        deliveries ⟨1⟩ "q" ⟨"a"⟩ addThenPublish) :=
  ⟨by decide, ⟨_, List.mem_cons_self _ _, rfl⟩,
    installed_exactly_and_delivered_in_order addThenPublish (by decide) ⟨"a"⟩ "q" ⟨1⟩
      ⟨_, List.mem_cons_self _ _, rfl⟩⟩

end TendermintRpc
