import IsaUser.Lib.Dict
import IsaUser.Lib.Json

/-!
# Projections of Events

A projection is built from the events of an entity, all at once from their stream or one by one as
they are processed. The stream is read as one row, and what a loop over a row finds are the names of
its columns. So no projection is ever built, and none is there to be updated.
-/

namespace IsaUser.Events

/-! ### Events and projections -/

/-- The fields of an `Event` that a projection reads. -/
structure EntityEvent where
  eventId : PyStr
  eventType : PyStr
  userId : Option PyStr
  data : JsonDict

structure EventProjection where
  projectionId : PyStr
  projectionName : PyStr
  entityId : PyStr
  entityType : PyStr
  state : Dict PyStr JsonDict := .empty
  version : ℤ := 0
  lastEventId : Option PyStr := none

/-- A row of `event.event_streams`. -/
structure EventStream where
  streamType : PyStr
  entityId : PyStr
  entityType : PyStr
  events : Json
  version : ℤ

def EventStream.keys (_ : EventStream) : List String :=
  ["stream_id", "stream_type", "entity_id", "entity_type", "events", "version", "created_at",
    "updated_at"]

inductive ProjectionError where
  | unavailable
  | attributeError
  | typeError
  deriving DecidableEq, Repr

inductive Item where
  | event (event : EntityEvent)
  | key (name : String)

/-- `for event in events`, over what `get_event_stream` returns: nothing, or a row. -/
def items : Option EventStream → Except ProjectionError (List Item)
  | none => .error .typeError
  | some row => .ok (row.keys.map .key)

/-- `_apply_event_to_projection`, with an event. -/
def EventProjection.apply (p : EventProjection) (event : EntityEvent) : EventProjection :=
  { p with
    state := p.state.set event.eventType event.data
    version := p.version + 1
    lastEventId := event.eventId }

/-- `_apply_event_to_projection`, with anything: a text has no `data`. -/
def EventProjection.applyItem (p : EventProjection) : Item → Except ProjectionError EventProjection
  | .event event => .ok (p.apply event)
  | .key _ => .error .attributeError

/-! ### The service -/

structure StreamTable where
  streams : PyStr → Option EventStream
  answers : Bool
  saves : Bool

/-- `EventRepository.get_event_stream`: what fails is no stream. -/
def StreamTable.getEventStream (t : StreamTable) (streamId : PyStr) : Option EventStream :=
  if t.answers then t.streams streamId else none

structure ProjectionRequest where
  projectionId : PyStr
  projectionName : PyStr
  entityId : PyStr
  entityType : PyStr

/-- `EventService.create_projection`: what it returns, and the projections after it. -/
def createProjection (t : StreamTable) (r : ProjectionRequest) (ps : List EventProjection) :
    Except ProjectionError EventProjection × List EventProjection :=
  let created : Except ProjectionError EventProjection := do
    let events ← items (t.getEventStream (r.entityType ++ ':' :: r.entityId))
    let projection ← events.foldlM EventProjection.applyItem
      { projectionId := r.projectionId, projectionName := r.projectionName
        entityId := r.entityId, entityType := r.entityType }
    if t.saves then return projection else throw .unavailable
  (created, ps ++ created.toOption.toList)

/-- `_update_projections`: the first projection of the user is changed in memory, and then the
repository is asked for `update_projection`, which it does not have. -/
def updateProjections (event : EntityEvent) :
    List EventProjection → Except ProjectionError Unit × List EventProjection
  | [] => (.ok (), [])
  | p :: ps =>
    if some p.entityId = event.userId then (.error .attributeError, p.apply event :: ps)
    else ((updateProjections event ps).1, p :: (updateProjections event ps).2)

/-- A step of the service: a projection is created, or an event is processed, where an error is
written to the log. -/
inductive ProjectionStep where
  | create (t : StreamTable) (r : ProjectionRequest)
  | process (event : EntityEvent)

def ProjectionStep.run (ps : List EventProjection) : ProjectionStep → List EventProjection
  | create t r => (createProjection t r ps).2
  | process event => (updateProjections event ps).2

/-! ### The law -/

def lastData (events : List EntityEvent) (eventType : PyStr) : Option JsonDict :=
  (events.reverse.find? (·.eventType = eventType)).map EntityEvent.data

/-- A projection that is created before some events and updated by each, and one that is created
after them, agree, and have the data of the last event of each type. -/
def Agree (before after : StreamTable) (r r' : ProjectionRequest) (ps : List EventProjection)
    (events : List EntityEvent) : Prop :=
  ∃ p, (createProjection before r ps).1 = .ok p ∧
    ∃ incremental ∈ events.foldl (fun ps event => (updateProjections event ps).2)
        (createProjection before r ps).2,
      incremental.projectionId = p.projectionId ∧
      ∃ rebuilt, (createProjection after r' ps).1 = .ok rebuilt ∧
        rebuilt.version = incremental.version ∧ rebuilt.lastEventId = incremental.lastEventId ∧
        ∀ eventType, rebuilt.state.lookup eventType = incremental.state.lookup eventType ∧
          rebuilt.state.lookup eventType = lastData events eventType

/-! ### Nothing is projected -/

section Projections

variable {t : StreamTable} {r : ProjectionRequest} {ps : List EventProjection}

theorem createProjection_raises (t : StreamTable) (r : ProjectionRequest)
    (ps : List EventProjection) : ∃ e, createProjection t r ps = (.error e, ps) := by
  rw [createProjection]
  cases t.getEventStream (r.entityType ++ ':' :: r.entityId) with
  | none => exact ⟨.typeError, by simp [items, bind, Except.bind, Except.toOption]⟩
  | some row => exact ⟨.attributeError, by simp [items, EventStream.keys, List.foldlM,
      EventProjection.applyItem, bind, Except.bind, Except.toOption]⟩

theorem updateProjections_of_first {event : EntityEvent} {p : EventProjection}
    {qs : List EventProjection} (hps : ∀ q ∈ ps, some q.entityId ≠ event.userId)
    (hp : some p.entityId = event.userId) : updateProjections event (ps ++ p :: qs) =
      (.error .attributeError, ps ++ p.apply event :: qs) := by
  induction ps with
  | nil => simp [updateProjections, hp]
  | cons q ps ih =>
    obtain ⟨hq, hps⟩ := List.forall_mem_cons.mp hps
    rw [List.cons_append, updateProjections, if_neg hq, ih hps]
    rfl

theorem projections_eq_nil (steps : List ProjectionStep) :
    steps.foldl ProjectionStep.run [] = [] := by
  induction steps with
  | nil => rfl
  | cons step steps ih =>
    have hstep : ProjectionStep.run [] step = [] := by
      cases step with
      | create t r =>
        obtain ⟨e, h⟩ := createProjection_raises t r []
        rw [ProjectionStep.run, h]
      | process event => rfl
    rw [List.foldl_cons, hstep]
    exact ih

end Projections

/-- **Rebuilt and incremental projections agree**: never, after any history, for any streams and any
events. -/
theorem not_agree (before after : StreamTable) (r r' : ProjectionRequest)
    (steps : List ProjectionStep) (events : List EntityEvent) :
    ¬Agree before after r r' (steps.foldl ProjectionStep.run []) events := by
  rintro ⟨p, hp, -⟩
  obtain ⟨e, h⟩ := createProjection_raises before r (steps.foldl ProjectionStep.run [])
  rw [h] at hp
  cases hp

/-! ### An entity with one event -/

def noStreams : StreamTable := ⟨fun _ => none, true, true⟩

def oneStream : StreamTable := { noStreams with streams := fun _ => some ⟨[], ['u'], ['t'], .null, 1⟩ }

def userProjection : ProjectionRequest := ⟨['p'], ['n'], ['u'], ['t']⟩

def signedUp : EntityEvent := ⟨['e'], ['s'], some ['u'], []⟩

theorem not_agree_signedUp :
    ¬Agree noStreams oneStream userProjection userProjection [] [signedUp] := by
  rintro ⟨p, hp, -⟩
  cases hp

end IsaUser.Events
