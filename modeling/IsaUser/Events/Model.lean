import IsaUser.Lib.Clocked

/-!
# Events and Their Processors

A stored event is looked at by processors, each of which reports success or failure. A report reads
the row of the event, changes it, and writes it back whole. A poll claims pending events, and a
retry puts failed events back to pending.

The update of a row carries the report that it is made for. The reports are noted in the order in
which they come to the store, whether they are executed or not.
-/

namespace IsaUser.Events

/-! ### The tables -/

inductive EventSource where
  | frontend
  | backend
  | system
  | iotDevice
  | externalApi
  | scheduled
  deriving DecidableEq, Repr

def EventSource.value : EventSource → PyStr
  | frontend => "frontend".toList
  | backend => "backend".toList
  | system => "system".toList
  | iotDevice => "iot_device".toList
  | externalApi => "external_api".toList
  | scheduled => "scheduled".toList

inductive EventStatus where
  | pending
  | processing
  | processed
  | failed
  | archived
  deriving DecidableEq, Repr

inductive ProcessingStatus where
  | success
  | failed
  | skipped
  | retry
  deriving DecidableEq, Repr

/-- A row of `event.events`. -/
structure Event where
  eventType : PyStr
  eventSource : EventSource
  status : EventStatus := .pending
  processedAt : Option Timestamp := none
  processors : List PyStr := []
  errorMessage : Option PyStr := none
  retryCount : ℤ := 0
  deriving DecidableEq

/-- `EventProcessingResult`, and a row of `event.processing_results`. -/
structure EventProcessingResult where
  eventId : PyStr
  processorName : PyStr
  status : ProcessingStatus
  message : Option PyStr := none
  processedAt : Timestamp
  durationMs : Option ℤ := none
  deriving DecidableEq

structure Report where
  eventId : PyStr
  processorName : PyStr
  status : ProcessingStatus
  deriving DecidableEq

structure EventStore where
  events : PyStr → Option Event
  results : List EventProcessingResult

/-! ### Statements -/

/-- The statements of the repository. Which of the pending events a claim gets, and in which order
events are found, is part of the statement: rows that others have locked are skipped. -/
inductive Call where
  | selectEvent (eventId : PyStr)
  | updateEvent (eventId : PyStr) (event : Event) (report : Option Report)
  | claimPending (limit : ℕ) (ids : List PyStr)
  | selectFailed (p : Event → Bool) (ids : List PyStr)
  | insertResult (result : EventProcessingResult)

def Call.Reply : Call → Type
  | selectEvent _ => Option Event
  | updateEvent _ _ _ => ℕ
  | claimPending _ _ => List (PyStr × Event)
  | selectFailed _ _ => List (PyStr × Event)
  | insertResult _ => ℕ

@[reducible] def EventApi : Interface := ⟨Call, Call.Reply⟩

inductive EventError where
  | unavailable
  /-- A method that the repository does not have. -/
  | attributeError
  deriving DecidableEq, Repr

/-- The columns that `update_event` writes. -/
def Event.overwrite (row event : Event) : Event :=
  { row with
    status := event.status
    processedAt := event.processedAt
    processors := event.processors
    errorMessage := event.errorMessage
    retryCount := event.retryCount }

def EventStore.setEvent (s : EventStore) (eventId : PyStr) (event : Option Event) : EventStore :=
  { s with events := Function.update s.events eventId event }

def EventStore.isPending (s : EventStore) (eventId : PyStr) : Bool :=
  (s.events eventId).any fun event => event.status = .pending

def EventStore.claimed (s : EventStore) (limit : ℕ) (ids : List PyStr) : List PyStr :=
  (ids.filter s.isPending).take limit

def Event.claim (event : Event) : Event := { event with status := .processing }

def EventStore.claim (s : EventStore) (ids : List PyStr) : EventStore :=
  { s with events := fun id => if id ∈ ids then (s.events id).map .claim else s.events id }

def EventStore.rows (s : EventStore) (ids : List PyStr) : List (PyStr × Event) :=
  ids.filterMap fun id => (s.events id).map (id, ·)

def execute : Handler (EventApi.fallible EventError) EventStore
  | .selectEvent eventId, s => (.ok (s.events eventId), s)
  | .updateEvent eventId event _, s =>
    (.ok (s.events eventId).toList.length,
      s.setEvent eventId ((s.events eventId).map (·.overwrite event)))
  | .claimPending limit ids, s =>
    (.ok ((s.claim (s.claimed limit ids)).rows (s.claimed limit ids)),
      s.claim (s.claimed limit ids))
  | .selectFailed p ids, s => (.ok ((s.rows ids).filter fun row => p row.2), s)
  | .insertResult result, s => (.ok (1 : ℕ), { s with results := result :: s.results })

/-- The store, and the reports that have come to it, latest first. -/
structure World where
  db : Clocked EventStore
  reports : List Report

def noted : Timed Call → List Report → List Report
  | .call (.updateEvent _ _ (some report)), reports => report :: reports
  | _, reports => reports

def handle : Handler (EventApi.timed.fallible EventError) World := fun c w =>
  ((Clocked.handle EventError.unavailable execute c w.db).1,
    { db := (Clocked.handle EventError.unavailable execute c w.db).2, reports := noted c w.reports })

def Shifts (w w' : World) : Prop := Clocked.Shifts w.db w'.db ∧ w'.reports = w.reports

theorem handle_store {w : World} (c : Call) : (handle (.call c) w).2.db.store =
    if w.db.link = .down then w.db.store else (execute c w.db.store).2 := by
  change (w.db.link.pass EventError.unavailable (execute c w.db.store) w.db.store).2 = _
  cases w.db.link <;> rfl

/-! ### The repository -/

abbrev EventM := Prog (EventApi.timed.fallible EventError) EventError

def ask (c : Call) : EventM c.Reply := Prog.ask (I := EventApi) id c

def now : EventM Timestamp := Prog.now (I := EventApi) id

/-- `get_event`: what fails is no event. -/
def getEvent (eventId : PyStr) : EventM (Option Event) :=
  (ask (.selectEvent eventId) : EventM (Option Event)).tryCatch fun _ => return none

/-- `update_event`: what fails is passed over. -/
def updateEvent (eventId : PyStr) (event : Event) (report : Option Report) : EventM Bool :=
  Prog.tryCatch (ε := EventError) (do
    let count : ℕ ← ask (.updateEvent eventId event report)
    return decide (0 < count)) fun _ => return false

/-- `save_processing_result`: what fails is raised. -/
def saveProcessingResult (result : EventProcessingResult) : EventM Unit := do
  let _ : ℕ ← ask (.insertResult result)
  return ()

/-- `get_unprocessed_events`: what fails is no events. -/
def getUnprocessedEvents (limit : ℕ) (ids : List PyStr) : EventM (List (PyStr × Event)) :=
  (ask (.claimPending limit ids) : EventM (List (PyStr × Event))).tryCatch fun _ => return []

/-! ### The service -/

/-- The filters of a processor: those it has, with their values, if these are texts. -/
structure Filters where
  eventType : Option (Option PyStr) := none
  eventSource : Option (Option PyStr) := none
  deriving DecidableEq

structure EventProcessor where
  processorName : PyStr
  enabled : Bool := true
  filters : Filters := {}
  deriving DecidableEq

/-- The service: its processors, and the query for failed events of its repository, by the number
of retries that are allowed. The repository has no such query. -/
structure EventService where
  processors : List EventProcessor
  getFailedEvents : Option (ℤ → Event → Bool) := none

def matchesProcessor (event : Event) (processor : EventProcessor) : Bool :=
  (∀ v ∈ processor.filters.eventType, v = some event.eventType) ∧
    ∀ v ∈ processor.filters.eventSource, v = some event.eventSource.value

def Event.addProcessor (event : Event) (processorName : PyStr) : List PyStr :=
  if processorName ∈ event.processors then event.processors
  else event.processors ++ [processorName]

def Event.succeed (event : Event) (processorName : PyStr) (time : Timestamp) : Event :=
  { event with
    processors := event.addProcessor processorName
    status := .processed
    processedAt := some time }

def Event.fail (event : Event) (processorName : PyStr) (message : Option PyStr) : Event :=
  { event with
    processors := event.addProcessor processorName
    status := .failed
    errorMessage := message
    retryCount := event.retryCount + 1 }

def Event.mark (event : Event) (processorName : PyStr) (result : EventProcessingResult) :
    EventM Event :=
  match result.status with
  | .success => do
    let time ← now
    return event.succeed processorName time
  | .failed => return event.fail processorName result.message
  | .skipped | .retry => return { event with processors := event.addProcessor processorName }

def markEventProcessed (eventId processorName : PyStr) (result : EventProcessingResult) :
    EventM Bool := do
  match ← getEvent eventId with
  | none => return false
  | some event => do
    let marked ← event.mark processorName result
    let _ ← updateEvent eventId marked (some ⟨eventId, processorName, result.status⟩)
    saveProcessingResult result
    return true

def reportOf (eventId processorName : PyStr) (status : ProcessingStatus)
    (message : Option PyStr) : EventM Bool := do
  let time ← now
  markEventProcessed eventId processorName
    { eventId, processorName, status, message, processedAt := time }

/-- `_execute_processor`: it reports success, and failure if that fails. -/
def executeProcessor (eventId : PyStr) (processor : EventProcessor) (message : Option PyStr) :
    EventM Unit := do
  let _ ← (reportOf eventId processor.processorName .success none).tryCatch fun _ =>
    reportOf eventId processor.processorName .failed message
  return ()

def Awaits (event : Event) (processor : EventProcessor) : Prop :=
  processor.enabled = true ∧ matchesProcessor event processor = true
  deriving Decidable

def executeProcessors (eventId : PyStr) (event : Event) (message : Option PyStr) :
    List EventProcessor → EventM Unit
  | [] => return ()
  | processor :: processors =>
    if Awaits event processor then do
      executeProcessor eventId processor message
      executeProcessors eventId event message processors
    else executeProcessors eventId event message processors

def eventProcessor : PyStr := "event_processor".toList

def processEvent (service : EventService) (eventId : PyStr) (event : Event)
    (message : Option PyStr) : EventM Bool :=
  Prog.tryCatch (ε := EventError) (do
    Prog.tryCatch (ε := EventError) (executeProcessors eventId event message service.processors)
      fun _ => return ()
    reportOf eventId eventProcessor .success none) fun _ =>
      reportOf eventId eventProcessor .failed message

def retryAll : List (PyStr × Event) → EventM Unit
  | [] => return ()
  | row :: rows => do
    let _ ← updateEvent row.1 { row.2 with status := .pending } none
    retryAll rows

def retryFailedEvents (service : EventService) (maxRetries : ℤ) (ids : List PyStr) : EventM ℕ :=
  match service.getFailedEvents with
  | none => .raise .attributeError
  | some p => do
    let failed : List (PyStr × Event) ← ask (.selectFailed (p maxRetries) ids)
    retryAll failed
    return failed.length

/-! ### Requests -/

/-- The reports of processors, the processing of an event that was read, the polls and the retries.
The text of an exception is part of the request. -/
inductive Request where
  | mark (eventId processorName : PyStr) (result : EventProcessingResult)
  | process (eventId : PyStr) (event : Event) (message : Option PyStr)
  | poll (limit : ℕ) (ids : List PyStr)
  | retry (maxRetries : ℤ) (ids : List PyStr)
  deriving DecidableEq

inductive Response where
  | marked (success : Bool)
  | claimed (events : List (PyStr × Event))
  | retried (count : ℕ)
  deriving DecidableEq

def Request.serve (service : EventService) : Request → EventM Response
  | mark eventId processorName result => do
    let success ← markEventProcessed eventId processorName result
    return .marked success
  | process eventId event message => do
    let success ← processEvent service eventId event message
    return .marked success
  | poll limit ids => do
    let events ← getUnprocessedEvents limit ids
    return .claimed events
  | retry maxRetries ids => do
    let count ← retryFailedEvents service maxRetries ids
    return .retried count

abbrev EventPast := Past (EventApi.timed.fallible EventError) World

abbrev EventPool (ι : Type*) :=
  Pool (EventApi.timed.fallible EventError) EventError Response ι World

def EventPool.start {ι : Type*} (service : EventService) (requests : ι → Request) (w : World) :
    EventPool ι :=
  Pool.start w fun i => (requests i).serve service

abbrev EventRun {ι : Type*} [DecidableEq ι] (A : EventPast → World → Timed Call → Prop) :
    EventPool ι → EventPool ι → Prop :=
  Pool.Reach handle Shifts fun i past => A (past i)

end IsaUser.Events
