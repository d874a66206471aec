import IsaUser.Lib.Json
import IsaUser.Lib.Pool

/-!
# Tasks and Their Executions

A task is executed by a run in the background: it is marked as running, its executor is called, and
the execution record, the statistics and the status are written. A scheduler asks for the tasks that
are due.

The calls are those of the repository. What is written about a run is noted beside the store: that
it starts, how its executor fares, and that its last status is written.
-/

namespace IsaUser.Tasks

/-! ### The tables -/

inductive TaskStatus where
  | pending
  | scheduled
  | running
  | completed
  | failed
  | cancelled
  | paused
  deriving DecidableEq, Repr

inductive TaskType where
  | dailyWeather
  | dailyNews
  | newsMonitor
  | weatherAlert
  | priceTracker
  | dataBackup
  | todo
  | reminder
  | calendarEvent
  | custom
  deriving DecidableEq, Repr

inductive TaskPriority where
  | low
  | medium
  | high
  | urgent
  deriving DecidableEq, Repr

def TaskPriority.rank : TaskPriority → ℤ
  | high => 0
  | low => 1
  | medium => 2
  | urgent => 3

/-- A row of `task.user_tasks`. -/
structure Task where
  userId : PyStr
  taskType : TaskType
  status : TaskStatus := .pending
  priority : TaskPriority := .medium
  schedule : Option JsonDict := none
  creditsPerRun : ℚ := 0
  nextRunTime : Option Timestamp := none
  lastRunTime : Option Timestamp := none
  lastSuccessTime : Option Timestamp := none
  runCount : ℤ := 0
  successCount : ℤ := 0
  failureCount : ℤ := 0
  totalCreditsConsumed : ℚ := 0
  deletedAt : Option Timestamp := none

/-- A row of `task.task_executions`. -/
structure Execution where
  executionId : PyStr
  taskId : PyStr
  userId : PyStr
  status : TaskStatus
  triggerType : PyStr
  result : Option Json := none
  errorMessage : Option PyStr := none
  creditsConsumed : ℚ := 0
  startedAt : Timestamp
  completedAt : Option Timestamp := none

structure TaskStore where
  tasks : PyStr → Option Task
  executions : List Execution
  unique : (executions.map Execution.executionId).Nodup

/-- What is noted of runs: that one starts, how its executor fares, and when its last status is
written. -/
inductive Entry where
  | started (taskId executionId : PyStr)
  | executed (executionId : PyStr) (success : Bool)
  | finished (taskId executionId : PyStr) (time : Timestamp)
  deriving DecidableEq

/-- The store, the clock, and what has been noted, latest first. -/
structure World where
  store : TaskStore
  clock : Timestamp
  log : List Entry

/-! ### The repository -/

structure TaskUpdates where
  status : Option TaskStatus := none
  priority : Option TaskPriority := none
  schedule : Option (Option JsonDict) := none
  nextRunTime : Option (Option Timestamp) := none

structure ExecutionUpdates where
  status : Option TaskStatus := none
  result : Option (Option Json) := none
  errorMessage : Option (Option PyStr) := none
  creditsConsumed : Option ℚ := none

structure ExecutionResult where
  success : Bool
  result : Option Json := none
  error : Option PyStr := none
  creditsConsumed : ℚ
  startedAt : Timestamp

def ExecutionResult.updates (r : ExecutionResult) : ExecutionUpdates where
  result := r.result.map some
  creditsConsumed := some r.creditsConsumed

inductive Call where
  | getTaskById (taskId userId : PyStr)
  | getUserTasks (userId : PyStr) (limit : ℕ) (order : List PyStr)
  | createExecution (executionId taskId userId triggerType : PyStr)
  | updateTask (taskId : PyStr) (updates : TaskUpdates ⊕ PyStr) (userId : PyStr ⊕ TaskUpdates)
      (ends : Option PyStr)
  | execute (executionId : PyStr) (success : Bool)
  | updateExecution (executionId : PyStr) (updates : ExecutionUpdates)
  | updateTaskExecutionStats (taskId : PyStr) (success : Bool ⊕ ExecutionResult)
      (creditsConsumed : ℚ)
  | getPendingTasks (limit : ℕ) (order : List PyStr)

def Call.Reply : Call → Type
  | getTaskById _ _ => Option Task
  | getUserTasks _ _ _ => List (PyStr × Task)
  | createExecution _ _ _ _ => Option Execution
  | updateTask _ _ _ _ => Bool
  | execute _ _ => Unit
  | updateExecution _ _ => Bool
  | updateTaskExecutionStats _ _ _ => Bool
  | getPendingTasks _ _ => List (PyStr × Task)

@[reducible] def TaskApi : Interface := ⟨Call, Call.Reply⟩

/-- The columns that `update_task` looks for. -/
def taskFields : List PyStr :=
  ["name".toList, "description".toList, "status".toList, "priority".toList, "config".toList,
    "schedule".toList, "tags".toList, "metadata".toList, "due_date".toList, "reminder_time".toList,
    "next_run_time".toList, "last_error".toList, "last_result".toList]

def Task.update (task : Task) (updates : TaskUpdates) : Task :=
  { task with
    status := updates.status.getD task.status
    priority := updates.priority.getD task.priority
    schedule := updates.schedule.getD task.schedule
    nextRunTime := updates.nextRunTime.getD task.nextRunTime }

def TaskUpdates.isEmpty (updates : TaskUpdates) : Bool :=
  updates.status.isNone && updates.priority.isNone && updates.schedule.isNone &&
    updates.nextRunTime.isNone

def Execution.update (execution : Execution) (updates : ExecutionUpdates) (now : Timestamp) :
    Execution :=
  { execution with
    status := updates.status.getD execution.status
    result := updates.result.getD execution.result
    errorMessage := updates.errorMessage.getD execution.errorMessage
    creditsConsumed := updates.creditsConsumed.getD execution.creditsConsumed
    completedAt :=
      if updates.status ∈ [some .completed, some .failed, some .cancelled] then some now
      else execution.completedAt }

def isTrue : Bool ⊕ ExecutionResult → Bool
  | .inl success => success
  | .inr _ => true

def Task.count (task : Task) (success : Bool ⊕ ExecutionResult) (creditsConsumed : ℚ)
    (now : Timestamp) : Task :=
  if isTrue success then
    { task with
      runCount := task.runCount + 1
      successCount := task.successCount + 1
      totalCreditsConsumed := task.totalCreditsConsumed + creditsConsumed
      lastRunTime := some now
      lastSuccessTime := some now }
  else
    { task with
      runCount := task.runCount + 1
      failureCount := task.failureCount + 1
      totalCreditsConsumed := task.totalCreditsConsumed + creditsConsumed
      lastRunTime := some now }

def TaskStore.setTask (s : TaskStore) (taskId : PyStr) (task : Task) : TaskStore :=
  { s with tasks := Function.update s.tasks taskId (some task) }

def TaskStore.addExecution (s : TaskStore) (execution : Execution)
    (h : ¬∃ e ∈ s.executions, e.executionId = execution.executionId) : TaskStore where
  tasks := s.tasks
  executions := execution :: s.executions
  unique := List.nodup_cons.mpr ⟨fun hmem => h (List.mem_map.mp hmem), s.unique⟩

def TaskStore.updateExecution (s : TaskStore) (executionId : PyStr) (updates : ExecutionUpdates)
    (now : Timestamp) : TaskStore where
  tasks := s.tasks
  executions := s.executions.map fun e =>
    if e.executionId = executionId then e.update updates now else e
  unique := by
    have hids : ∀ e : Execution, (if e.executionId = executionId then e.update updates now
        else e).executionId = e.executionId := by
      intro e
      split <;> rfl
    rw [List.map_map, show Execution.executionId ∘ _ = Execution.executionId from funext hids]
    exact s.unique

def TaskStore.taskOf (s : TaskStore) (taskId userId : PyStr) : Option Task :=
  (s.tasks taskId).filter fun task =>
    task.deletedAt = none ∧ (userId ≠ [] → task.userId = userId)

/-- `update_task`. A text is searched for the names of the columns, and has no columns to read. -/
def TaskStore.updateTask (s : TaskStore) (taskId : PyStr) (updates : TaskUpdates ⊕ PyStr)
    (userId : PyStr ⊕ TaskUpdates) : Bool × TaskStore :=
  match updates, userId with
  | .inr text, _ => (!taskFields.any fun field => decide (field <:+: text), s)
  | .inl updates, .inr _ => (updates.isEmpty, s)
  | .inl updates, .inl userId =>
    if updates.isEmpty then (true, s)
    else
      match (s.tasks taskId).filter fun task => userId ≠ [] → task.userId = userId with
      | some task => (true, s.setTask taskId (task.update updates))
      | none => (false, s)

def Task.isDue (task : Task) (now : Timestamp) : Bool :=
  task.status = .scheduled ∧ task.deletedAt = none ∧ ∀ t ∈ task.nextRunTime, t ≤ now

/-- The key of `ORDER BY priority DESC, next_run_time`. -/
def Task.key (task : Task) : ℤ ×ₗ WithTop Timestamp :=
  toLex (-task.priority.rank, nullsLast task.nextRunTime)

def TaskStore.rows (s : TaskStore) (order : List PyStr) : List (PyStr × Task) :=
  order.filterMap fun id => (s.tasks id).map (id, ·)

/-- `get_pending_tasks`. -/
def TaskStore.pending (s : TaskStore) (limit : ℕ) (order : List PyStr) (now : Timestamp) :
    List (PyStr × Task) :=
  (orderBy (fun row => row.2.key) ((s.rows order).filter fun row => row.2.isDue now)).take limit

def World.note (w : World) (e : Entry) : World := { w with log := e :: w.log }

def handle : Handler TaskApi World
  | .getTaskById taskId userId, w => (w.store.taskOf taskId userId, w)
  | .getUserTasks userId limit order, w =>
    (((w.store.rows order).filter fun row =>
      row.2.userId = userId ∧ row.2.deletedAt = none).take limit, w)
  | .createExecution executionId taskId userId triggerType, w =>
    let execution : Execution :=
      { executionId, taskId, userId, status := .running, triggerType, startedAt := w.clock }
    if h : ∃ e ∈ w.store.executions, e.executionId = executionId then (none, w)
    else (some execution,
      { w with store := w.store.addExecution execution h }.note (.started taskId executionId))
  | .updateTask taskId updates userId ends, w =>
    let written : World := { w with store := (w.store.updateTask taskId updates userId).2 }
    ((w.store.updateTask taskId updates userId).1,
      match ends with
      | some executionId => written.note (.finished taskId executionId w.clock)
      | none => written)
  | .execute executionId success, w => ((), w.note (.executed executionId success))
  | .updateExecution executionId updates, w =>
    (w.store.executions.any fun e => e.executionId = executionId,
      { w with store := w.store.updateExecution executionId updates w.clock })
  | .updateTaskExecutionStats taskId success creditsConsumed, w =>
    match w.store.tasks taskId with
    | some task => (true,
        { w with store := w.store.setTask taskId (task.count success creditsConsumed w.clock) })
    | none => (false, w)
  | .getPendingTasks limit order, w => (w.store.pending limit order w.clock, w)

def Shifts (w w' : World) : Prop := w'.store = w.store ∧ w'.log = w.log ∧ w.clock ≤ w'.clock

/-! ### The service -/

/-- `TaskExecutionError`, by its code. -/
inductive TaskError where
  | notFound
  | permissionDenied
  | invalidStatus
  | executionLimitExceeded
  | limitCheckError
  /-- "Failed to create execution record". -/
  | notCreated
  | noExecutor
  /-- What an executor raises. -/
  | executor (message : PyStr)
  deriving DecidableEq, Repr

abbrev TaskM := Prog TaskApi TaskError

def ask (c : Call) : TaskM c.Reply := Prog.perform (I := TaskApi) c

/-- What the service knows of users: who may execute which tasks, and their subscriptions. -/
structure TaskService where
  allowed : PyStr → TaskType → Bool
  subscriptionLevel : PyStr → Option PyStr

def maxExecutionsPerDay (level : PyStr) : ℤ :=
  if level = "free".toList then 10
  else if level = "basic".toList then 100
  else if level = "pro".toList then 1000
  else if level = "enterprise".toList then -1
  else 10

def TaskType.hasExecutor : TaskType → Bool
  | dataBackup => false
  | _ => true

/-- A request to execute a task: with the execution id that is drawn, the order of rows, the day,
and how the executor fares. -/
structure ExecuteRequest where
  taskId : PyStr
  userId : PyStr
  triggerType : PyStr := "manual".toList
  executionId : PyStr
  order : List PyStr := []
  today : Timestamp := 0
  startedAt : Timestamp := 0
  outcome : Except PyStr Json

def checkTaskAccessPermission (service : TaskService) (taskId userId : PyStr) : TaskM Unit := do
  match (← ask (.getTaskById taskId userId) : Option Task) with
  | none => .raise .notFound
  | some task =>
    if service.allowed userId task.taskType = false then .raise .permissionDenied else return ()

def checkExecutionLimits (service : TaskService) (r : ExecuteRequest) : TaskM Unit := do
  let limit := maxExecutionsPerDay ((service.subscriptionLevel r.userId).getD "free".toList)
  if limit ≤ 0 then return ()
  else do
    let tasks : List (PyStr × Task) ← ask (.getUserTasks r.userId 1000 r.order)
    let today := tasks.filter fun row => ∃ t ∈ row.2.lastRunTime, r.today ≤ t
    if limit ≤ (today.map fun row => row.2.runCount).sum then .raise .executionLimitExceeded
    else return ()

/-- A status, as the service passes it on: the user comes where the updates are meant to be. -/
def writeStatus (taskId : PyStr) (task : Task) (status : TaskStatus) (ends : Option PyStr) :
    TaskM Unit := do
  let _ : Bool ← ask (.updateTask taskId (.inr task.userId) (.inr { status := some status }) ends)
  return ()

/-- `update_task_execution_info`, as the service calls it: the whole result comes where its success
is meant to be, and no credits are passed. -/
def updateTaskExecutionInfo (taskId : PyStr) (result : ExecutionResult) : TaskM Unit := do
  let _ : Bool ← ask (.updateTaskExecutionStats taskId (.inr result) 0)
  return ()

def executeTaskAsync (r : ExecuteRequest) (task : Task) (execution : Execution) : TaskM Unit :=
  Prog.tryCatch (ε := TaskError) (do
    writeStatus r.taskId task .running none
    if task.taskType.hasExecutor = false then .raise .noExecutor
    else do
      let _ : Unit ← ask (.execute execution.executionId (r.outcome matches .ok _))
      match r.outcome with
      | .error message => .raise (.executor message)
      | .ok result => do
        let done : ExecutionResult :=
          { success := true, result := some result, creditsConsumed := task.creditsPerRun
            startedAt := r.startedAt }
        let _ : Bool ← ask (.updateExecution execution.executionId done.updates)
        updateTaskExecutionInfo r.taskId done
        writeStatus r.taskId task
          (if (task.schedule.filter (· ≠ [])).isSome then .scheduled else .completed)
          (some execution.executionId)) fun _ => do
    let failed : ExecutionResult :=
      { success := false, error := some [], creditsConsumed := 0, startedAt := execution.startedAt }
    let _ : Bool ← ask (.updateExecution execution.executionId failed.updates)
    updateTaskExecutionInfo r.taskId failed
    writeStatus r.taskId task .failed (some execution.executionId)

/-- `execute_task`, and the run that it starts. -/
def executeTask (service : TaskService) (r : ExecuteRequest) : TaskM Unit := do
  checkTaskAccessPermission service r.taskId r.userId
  match (← ask (.getTaskById r.taskId r.userId) : Option Task) with
  | none => .raise .notFound
  | some task =>
    if task.status ∈ [TaskStatus.cancelled, TaskStatus.running] then .raise .invalidStatus
    else do
      checkExecutionLimits service r
      match (← ask (.createExecution r.executionId r.taskId r.userId r.triggerType) :
          Option Execution) with
      | none => .raise .notCreated
      | some execution => executeTaskAsync r task execution

/-! ### Requests -/

/-- The requests: a task is executed, or a scheduler asks for those that are due. -/
inductive Request where
  | execute (r : ExecuteRequest)
  | pending (limit : ℕ) (order : List PyStr)

inductive Response where
  | executed
  | tasks (rows : List (PyStr × Task))

def Request.serve (service : TaskService) : Request → TaskM Response
  | execute r => do
    executeTask service r
    return .executed
  | pending limit order => do
    let rows : List (PyStr × Task) ← ask (.getPendingTasks limit order)
    return .tasks rows

abbrev TaskPast := Past TaskApi World

abbrev TaskPool (ι : Type*) := Pool TaskApi TaskError Response ι World

def TaskPool.start {ι : Type*} (service : TaskService) (requests : ι → Request) (w : World) :
    TaskPool ι :=
  Pool.start w fun i => (requests i).serve service

abbrev TaskRun {ι : Type*} [DecidableEq ι] : TaskPool ι → TaskPool ι → Prop :=
  Pool.Reach handle Shifts fun _ _ _ _ => True

end IsaUser.Tasks
