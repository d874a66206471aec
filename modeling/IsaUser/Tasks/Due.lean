import IsaUser.Lib.OneTime
import IsaUser.Tasks.Runs
import Mathlib.Data.Int.ConditionallyCompleteOrder

/-!
# Tasks That Are Due

A scheduler asks for the tasks that are due, and executes them. The time when a task is due is
computed when it is created, and no run writes it, or the status. So a task that is due stays due.
-/

open List

namespace IsaUser.Tasks

/-! ### The law -/

def nextOccurrence (occurrence : JsonDict → Timestamp → Timestamp) (schedule : JsonDict)
    (time : Timestamp) : WithTop Timestamp :=
  match schedule.get? "type" with
  | some (.str kind) => if kind = "once".toList then ⊤ else occurrence schedule time
  | _ => occurrence schedule time

structure MayReturn (occurrence : JsonDict → Timestamp → Timestamp) (w : World) (taskId : PyStr)
    (schedule : JsonDict) : Prop where
  idle : ∀ x, ¬w.InProgress taskId x
  due : ∀ x time, .finished taskId x time ∈ w.log →
    nextOccurrence occurrence schedule time ≤ w.clock

def AllMayReturn (occurrence : JsonDict → Timestamp → Timestamp) (w : World)
    (rows : List (PyStr × Task)) : Prop :=
  ∀ row ∈ rows, ∀ schedule ∈ row.2.schedule, MayReturn occurrence w row.1 schedule

def DueOnce {ι : Type*} (occurrence : JsonDict → Timestamp → Timestamp) (pool : TaskPool ι) :
    Prop :=
  ∀ i w limit order, (w, .getPendingTasks limit order) ∈ pool.past i →
    AllMayReturn occurrence w (w.store.pending limit order w.clock)

/-! ### The condition -/

/-- Whenever a scheduler asks, the tasks may be returned that the store had as due at the start. -/
def DueAtStart {ι : Type*} (occurrence : JsonDict → Timestamp → Timestamp) (w₀ : World)
    (pool : TaskPool ι) : Prop :=
  ∀ i w limit order, (w, .getPendingTasks limit order) ∈ pool.past i →
    AllMayReturn occurrence w (w₀.store.pending limit order w.clock)

/-! ### What is due stays due -/

section Stays

variable {occurrence : JsonDict → Timestamp → Timestamp} {w w₀ w₁ : World} {limit : ℕ}
  {order : List PyStr} {now : Timestamp}

def planRow (row : PyStr × Task) : PyStr × Task := (row.1, row.2.plan)

theorem rows_plan (s : TaskStore) :
    (s.rows order).map planRow =
      order.filterMap fun id => ((s.tasks id).map Task.plan).map (id, ·) := by
  rw [TaskStore.rows, map_filterMap]
  refine filterMap_congr fun id _ => ?_
  rw [Option.map_map, Option.map_map]
  rfl

theorem pending_plan (s : TaskStore) :
    (s.pending limit order now).map planRow =
      (orderBy (fun row => row.2.key)
        (((s.rows order).map planRow).filter fun row => row.2.isDue now)).take limit := by
  rw [TaskStore.pending, map_take, ← orderBy_map (f := planRow) _ _ fun _ _ => rfl,
    filter_map]
  rfl

theorem Later.pending_plan (h : Later w₀ w) :
    (w.store.pending limit order now).map planRow =
      (w₀.store.pending limit order now).map planRow := by
  rw [Tasks.pending_plan, Tasks.pending_plan, rows_plan, rows_plan]
  simp only [h.plan]

theorem allMayReturn_map {rows : List (PyStr × Task)} :
    AllMayReturn occurrence w (rows.map planRow) ↔ AllMayReturn occurrence w rows := by
  rw [AllMayReturn, forall_mem_map]
  rfl

theorem Later.allMayReturn_iff (h : Later w₀ w) :
    AllMayReturn occurrence w₁ (w.store.pending limit order now) ↔
      AllMayReturn occurrence w₁ (w₀.store.pending limit order now) := by
  rw [← allMayReturn_map, h.pending_plan, allMayReturn_map]

end Stays

/-! ### Runs -/

section Runs

variable {ι : Type*} [DecidableEq ι]

theorem later_of_mem_past {service : TaskService} {requests : ι → Request} {w₀ : World}
    {pool : TaskPool ι} (hpool : TaskRun (TaskPool.start service requests w₀) pool) (i : ι) :
    ∀ e ∈ pool.past i, Later w₀ e.1 := by
  have hall : Later w₀ pool.state ∧ ∀ j, ∀ e ∈ pool.past j, Later w₀ e.1 := by
    refine hpool.invariant allSound_start (fun _ _ _ _ _ => trivial) terms_handle
      (fun _ _ hinv hshifts => shifts_keeps hinv hshifts)
      (J := fun w past => Later w₀ w ∧ ∀ j, ∀ e ∈ past j, Later w₀ e.1)
      ⟨Later.refl w₀, fun _ _ h => absurd h not_mem_nil⟩ ?_ ?_
    · intro w w' past hshifts hpast
      exact ⟨hpast.1.trans hshifts.later.1, hpast.2⟩
    · intro j past w c hinv _ hpromise hpast
      exact ⟨hpast.1.trans (handle_keeps c hinv hpromise).2,
        forall_mem_update (fun j => hpast.2 j) hpast.1⟩
  exact hall.2 i

end Runs

/-! ### A daily task -/

def nineOClock : Timestamp := 9 * (microsPerDay / 24)

def nextNineOClock (_ : JsonDict) (time : Timestamp) : Timestamp :=
  days ((time - nineOClock) / microsPerDay + 1) + nineOClock

example : nextNineOClock [] (nineOClock - 1) = nineOClock := by decide

def dailyTask : World where
  store :=
    { tasks := fun id => if id = ['t'] then
        some { userId := ['u'], taskType := .custom, status := .scheduled, creditsPerRun := 2
               schedule := some [("type", .str "daily".toList)], nextRunTime := some nineOClock }
      else none
      executions := []
      unique := List.nodup_nil }
  clock := nineOClock
  log := []

def scheduler (i : Fin 3) : Request :=
  if i = 1 then
    .execute
      { taskId := ['t'], userId := ['u'], triggerType := "scheduled".toList, executionId := ['x']
        outcome := .ok (.dict []) }
  else .pending 100 [['t']]

def scheduled (order : List (Fin 3)) : TaskPool (Fin 3) :=
  (TaskPool.start openService scheduler dailyTask).schedule handle order

theorem scheduled_reached (order : List (Fin 3)) :
    TaskRun (TaskPool.start openService scheduler dailyTask) (scheduled order) :=
  Pool.Reach.start.schedule (Pool.permitted_anyCall _ _ _)

end IsaUser.Tasks
