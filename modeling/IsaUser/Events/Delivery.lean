import IsaUser.Events.Model
import IsaUser.Lib.Dict

/-!
# Two Ways to a Processor

Any number of replicas share the table of events, and each has a queue of its own. An event that is
created is stored as pending and put in the queue of the replica that created it. The queue loop of
that replica takes it from the queue, and the polls of all replicas claim what is pending. Neither
asks whether the event has gone the other way.

Between two steps a replica may start anew, with an empty queue. The repository has no query for
failed events, so a retry raises, and no event is ever put back.
-/

namespace IsaUser.Events.Delivery

/-! ### The calls -/

inductive Call where
  | stored (c : Timed Events.Call)
  | insertEvent (eventId : PyStr) (event : Event)
  | put (replica : ℕ) (eventId : PyStr) (event : Event)
  | get (replica : ℕ)
  | execute (eventId processorId : PyStr)

def Call.Reply : Call → Type
  | stored c => (EventApi.timed.fallible EventError).Reply c
  | insertEvent .. => Except EventError ℕ
  | put .. => Unit
  | get _ => Option (PyStr × Event)
  | execute .. => Unit

@[reducible] def DeliveryApi : Interface := ⟨Call, Call.Reply⟩

structure World where
  base : Events.World
  queues : ℕ → List (PyStr × Event)

def insertRow (eventId : PyStr) (event : Event) (s : EventStore) :
    Except EventError ℕ × EventStore :=
  match s.events eventId with
  | none => (.ok 1, s.setEvent eventId (some event))
  | some _ => (.error .unavailable, s)

def World.withStore (w : World) (s : EventStore) : World :=
  { w with base := { w.base with db := { w.base.db with store := s } } }

def World.withQueue (w : World) (replica : ℕ) (queue : List (PyStr × Event)) : World :=
  { w with queues := Function.update w.queues replica queue }

def handle : Handler DeliveryApi World
  | .stored c, w => ((Events.handle c w.base).1, { w with base := (Events.handle c w.base).2 })
  | .insertEvent eventId event, w =>
    let answer := w.base.db.link.pass .unavailable (insertRow eventId event w.base.db.store)
      w.base.db.store
    (answer.1, w.withStore answer.2)
  | .put replica eventId event, w =>
    ((), w.withQueue replica (w.queues replica ++ [(eventId, event)]))
  | .get replica, w => ((w.queues replica).head?, w.withQueue replica (w.queues replica).tail)
  | .execute .., w => ((), w)

def Shifts (w w' : World) : Prop :=
  Events.Shifts w.base w'.base ∧ ∀ replica, w'.queues replica = w.queues replica ∨
    w'.queues replica = []

/-! ### The service -/

inductive DeliveryError where
  | repository (e : EventError)
  | notSaved
  deriving DecidableEq, Repr

abbrev DeliveryM := Prog DeliveryApi DeliveryError

def make (c : Call) : DeliveryM c.Reply := Prog.perform (I := DeliveryApi) c

def stored {α : Type} (p : EventM α) : DeliveryM α :=
  p.embed ⟨.stored, fun _ r => r⟩ .repository

def saveEvent (eventId : PyStr) (event : Event) : DeliveryM (PyStr × Event) := do
  let reply : Except EventError ℕ ← make (.insertEvent eventId event)
  let count : ℕ ← Prog.lift (reply.mapError .repository)
  if 0 < count then return (eventId, event)
  else
    match ← stored (getEvent eventId) with
    | some row => return (eventId, row)
    | none => .raise .notSaved

/-- `create_event`, on a replica and with the id that is drawn. -/
def createEvent (replica : ℕ) (eventId eventType : PyStr) (eventSource : EventSource) :
    DeliveryM Unit := do
  let saved ← saveEvent eventId { eventType, eventSource }
  make (.put replica saved.1 saved.2)

def executeProcessors (eventId : PyStr) (event : Event) (message : Option PyStr) :
    List (PyStr × EventProcessor) → DeliveryM Unit
  | [] => return ()
  | (processorId, processor) :: processors =>
    if Awaits event processor then do
      let _ : Unit ← make (.execute eventId processorId)
      stored (executeProcessor eventId processor message)
      executeProcessors eventId event message processors
    else executeProcessors eventId event message processors

/-- `_process_event`, with the processors of a replica. -/
def processEventInner (processors : Dict PyStr EventProcessor) (eventId : PyStr) (event : Event)
    (message : Option PyStr) : DeliveryM Unit :=
  (executeProcessors eventId event message processors.rows).tryCatch fun _ => return ()

def reportEvent (eventId : PyStr) (status : ProcessingStatus) (message : Option PyStr) :
    DeliveryM Unit := do
  let _ ← stored (reportOf eventId eventProcessor status message)
  return ()

def processEvent (processors : Dict PyStr EventProcessor) (eventId : PyStr) (event : Event)
    (message : Option PyStr) : DeliveryM Unit :=
  Prog.tryCatch (ε := DeliveryError) (do
    processEventInner processors eventId event message
    reportEvent eventId .success none) fun _ => reportEvent eventId .failed message

/-- One round of `_process_event_queue`. -/
def processNext (replica : ℕ) (processors : Dict PyStr EventProcessor)
    (message : PyStr → Option PyStr) : DeliveryM Unit :=
  Prog.tryCatch (ε := DeliveryError) (do
    let next : Option (PyStr × Event) ← make (.get replica)
    match next with
    | none => return ()
    | some (eventId, event) =>
      processEventInner processors eventId event (message eventId)) fun _ => return ()

/-- `_process_event_queue`, for some rounds. The texts of the exceptions of a round are given. -/
def processEventQueue (replica : ℕ) (processors : Dict PyStr EventProcessor) :
    List (PyStr → Option PyStr) → DeliveryM Unit
  | [] => return ()
  | message :: rounds => do
    processNext replica processors message
    processEventQueue replica processors rounds

def processAll (processors : Dict PyStr EventProcessor) (message : PyStr → Option PyStr) :
    List (PyStr × Event) → DeliveryM Unit
  | [] => return ()
  | (eventId, event) :: events => do
    (processEvent processors eventId event (message eventId)).tryCatch fun _ => return ()
    processAll processors message events

/-- A round of polling: the order in which pending events are found, and the texts of exceptions. -/
structure Round where
  ids : List PyStr
  message : PyStr → Option PyStr

/-- One round of `process_pending_events`. -/
def processBatch (processors : Dict PyStr EventProcessor) (batchSize : ℕ) (round : Round) :
    DeliveryM Unit :=
  Prog.tryCatch (ε := DeliveryError) (do
    let events ← stored (getUnprocessedEvents batchSize round.ids.dedup)
    processAll processors round.message events) fun _ => return ()

/-- `process_pending_events`, for some rounds. -/
def processPendingEvents (processors : Dict PyStr EventProcessor) (batchSize : ℕ) :
    List Round → DeliveryM Unit
  | [] => return ()
  | round :: rounds => do
    processBatch processors batchSize round
    processPendingEvents processors batchSize rounds

/-! ### Requests -/

inductive Request where
  | create (replica : ℕ) (eventId eventType : PyStr) (eventSource : EventSource)
  | processQueue (replica : ℕ) (rounds : List (PyStr → Option PyStr))
  | processPending (replica batchSize : ℕ) (rounds : List Round)
  | retry (maxRetries : ℤ) (ids : List PyStr)

def Request.serve (processors : ℕ → Dict PyStr EventProcessor) : Request → DeliveryM Unit
  | create replica eventId eventType eventSource =>
    createEvent replica eventId eventType eventSource
  | processQueue replica rounds => processEventQueue replica (processors replica) rounds
  | processPending replica batchSize rounds =>
    processPendingEvents (processors replica) batchSize rounds
  | retry maxRetries ids => do
    let _ ← stored (retryFailedEvents ⟨[], none⟩ maxRetries ids)
    return ()

abbrev DeliveryPast := Past DeliveryApi World

abbrev DeliveryPool (ι : Type*) := Pool DeliveryApi DeliveryError Unit ι World

def DeliveryPool.start {ι : Type*} (processors : ℕ → Dict PyStr EventProcessor)
    (requests : ι → Request) (base : Events.World) : DeliveryPool ι :=
  Pool.start ⟨base, fun _ => []⟩ fun i => (requests i).serve processors

/-! ### The law -/

def claimedBy : World × Call → List PyStr
  | (w, .stored (.call (.claimPending limit ids))) =>
    if w.base.db.link = .up then w.base.db.store.claimed limit ids else []
  | _ => []

def takenBy : World × Call → Option PyStr
  | (w, .get replica) => (w.queues replica).head?.map Prod.fst
  | _ => none

def Hands (eventId : PyStr) (e : World × Call) : Prop := eventId ∈ claimedBy e ∨ eventId ∈ takenBy e
  deriving Decidable

def Executes (eventId processorId : PyStr) : Call → Prop
  | .execute eventId' processorId' => eventId' = eventId ∧ processorId' = processorId
  | _ => False

instance (eventId processorId : PyStr) : DecidablePred (Executes eventId processorId)
  | .execute .. => inferInstanceAs (Decidable (_ ∧ _))
  | .stored _ | .insertEvent .. | .put .. | .get _ => .isFalse id

def Retries (eventId : PyStr) : Call → Prop
  | .stored (.call (.updateEvent eventId' _ none)) => eventId' = eventId
  | _ => False

section Law

variable {ι : Type*}

def Excused (pool : DeliveryPool ι) (eventId : PyStr) : Prop :=
  (∃ r ∈ pool.state.base.reports, r.eventId = eventId ∧ r.status = .failed) ∧
    ∃ i, ∃ e ∈ pool.past i, Retries eventId e.2

/-- An event is handed out once, and each processor is started on it once, unless a failure of it
was reported and it was retried. -/
def DeliveredOnce (pool : DeliveryPool ι) : Prop :=
  ∀ eventId, ¬Excused pool eventId → CalledOnce pool.past (Hands eventId) ∧
    ∀ processorId, CalledOnce pool.past fun e => Executes eventId processorId e.2

/-- No poll claims an event that a queue has handed out, and no queue hands out an event that a poll
has claimed. -/
def Apart (past : ι → DeliveryPast) (w : World) (c : Call) : Prop :=
  (∀ eventId ∈ claimedBy (w, c), ∀ i, ∀ e ∈ past i, eventId ∉ takenBy e) ∧
    ∀ eventId ∈ takenBy (w, c), ∀ i, ∀ e ∈ past i, eventId ∉ claimedBy e

instance [Fintype ι] (past : ι → DeliveryPast) (w : World) : DecidablePred (Apart past w) :=
  fun c => inferInstanceAs (Decidable
    ((∀ eventId ∈ claimedBy (w, c), ∀ i, ∀ e ∈ past i, eventId ∉ takenBy e) ∧
      ∀ eventId ∈ takenBy (w, c), ∀ i, ∀ e ∈ past i, eventId ∉ claimedBy e))

abbrev ApartRun [DecidableEq ι] : DeliveryPool ι → DeliveryPool ι → Prop :=
  Pool.Reach handle Shifts fun _ => Apart

end Law

end IsaUser.Events.Delivery
