import IsaUser.Tasks.Runs
import Mathlib.Algebra.BigOperators.Ring.Finset

/-!
# The Daily Limit

The executions of a day are counted from the rows of the tasks: all runs of every task whose last
run is of this day. The rows are written at the end of a run, and those that are read are not
deleted. So the count is that of the day as long as no task is run on two days or deleted on the
day of a run, and runs end before they are counted.
-/

open List

namespace IsaUser.Tasks

/-! ### Histories -/

/-- The store and the clock, the ids of the tasks, the latest first, and the executions under way. -/
structure Diary where
  world : World
  order : List PyStr
  running : List Execution

inductive TaskEvent where
  /-- A task is created. -/
  | created (taskId : PyStr) (task : Task)
  /-- An execution is recorded. -/
  | started (executionId taskId userId triggerType : PyStr)
  /-- The statistics of an execution are written. -/
  | ended (executionId : PyStr) (success : Bool ⊕ ExecutionResult) (creditsConsumed : ℚ)
  /-- A task is deleted. -/
  | deleted (taskId : PyStr)
  /-- Time passes. -/
  | passed (micros : ℕ)

def Task.new (task : Task) : Task :=
  { task with
    lastRunTime := none
    lastSuccessTime := none
    runCount := 0
    successCount := 0
    failureCount := 0
    totalCreditsConsumed := 0
    deletedAt := none }

def Diary.setTask (d : Diary) (taskId : PyStr) (task : Task) : Diary :=
  { d with world := { d.world with store := d.world.store.setTask taskId task } }

def Diary.start (d : Diary) (executionId taskId userId triggerType : PyStr) : Diary :=
  if (d.world.store.taskOf taskId userId).isSome then
    let recorded := handle (.createExecution executionId taskId userId triggerType) d.world
    let execution : Option Execution := recorded.1
    { d with world := recorded.2, running := execution.toList ++ d.running }
  else d

def Diary.finish (d : Diary) (executionId : PyStr) (success : Bool ⊕ ExecutionResult)
    (creditsConsumed : ℚ) : Diary :=
  match d.running.find? fun e => e.executionId = executionId with
  | none => d
  | some e =>
    { d with
      world := (handle (.updateTaskExecutionStats e.taskId success creditsConsumed) d.world).2
      running := d.running.eraseP fun e => e.executionId = executionId }

def Diary.step (d : Diary) : TaskEvent → Diary
  | .created taskId task =>
    if (d.world.store.tasks taskId).isSome then d
    else { d.setTask taskId task.new with order := taskId :: d.order }
  | .started executionId taskId userId triggerType => d.start executionId taskId userId triggerType
  | .ended executionId success creditsConsumed => d.finish executionId success creditsConsumed
  | .deleted taskId =>
    match d.world.store.tasks taskId with
    | none => d
    | some task => d.setTask taskId { task with deletedAt := some d.world.clock }
  | .passed micros => { d with world := { d.world with clock := d.world.clock + micros } }

def Diary.empty (clock : Timestamp) : Diary where
  world := { store := { tasks := fun _ => none, executions := [], unique := nodup_nil }, clock
             log := [] }
  order := []
  running := []

def Diary.run (d : Diary) (history : List TaskEvent) : Diary := history.foldl Diary.step d

/-! ### The law -/

def World.today (w : World) : Timestamp := days (w.clock / microsPerDay)

def World.startedBy (w : World) (userId : PyStr) : List Execution :=
  w.store.executions.filter fun e => e.userId = userId ∧ w.today ≤ e.startedAt

def Diary.LimitsRight (service : TaskService) (d : Diary) (userId : PyStr) : Prop :=
  ∀ r : ExecuteRequest, r.userId = userId → r.order = d.order → r.today = d.world.today →
    let limit := maxExecutionsPerDay ((service.subscriptionLevel userId).getD "free".toList)
    (((checkExecutionLimits service r).run handle d.world).1 = .error .executionLimitExceeded ↔
      0 < limit ∧ limit ≤ (d.world.startedBy userId).length)

/-! ### The condition -/

def Task.FreshAt (task : Task) (today : Timestamp) : Prop :=
  task.runCount = 0 ∨ ∃ t ∈ task.lastRunTime, today ≤ t

def Diary.tasksOf (d : Diary) (userId : PyStr) : List (PyStr × Task) :=
  (d.world.store.rows d.order).filter fun row => row.2.userId = userId ∧ row.2.deletedAt = none

def Diary.Steady (d : Diary) : TaskEvent → Prop
  | .created _ task => (d.tasksOf task.userId).length < 1000
  | .started _ taskId userId _ =>
    userId ≠ [] ∧ ∀ task ∈ d.world.store.tasks taskId, task.FreshAt d.world.today
  | .ended .. => True
  | .deleted taskId => ∀ e ∈ d.world.store.executions, e.taskId = taskId →
      e.startedAt < d.world.today
  | .passed micros => d.running ≠ [] →
      (d.world.clock + micros) / microsPerDay = d.world.clock / microsPerDay

def Diary.SteadyRun (d : Diary) : List TaskEvent → Prop
  | [] => True
  | event :: history => d.Steady event ∧ (d.step event).SteadyRun history

/-! ### What the rows count -/

def World.startedOf (w : World) (taskId : PyStr) : ℕ :=
  w.store.executions.countP fun e => e.taskId = taskId ∧ w.today ≤ e.startedAt

def Task.runsOn (task : Task) (today : Timestamp) : ℤ :=
  if ∃ t ∈ task.lastRunTime, today ≤ t then task.runCount else 0

structure Diary.Counted (d : Diary) : Prop where
  unique : d.order.Nodup
  listed : ∀ id, id ∈ d.order ↔ (d.world.store.tasks id).isSome
  few : ∀ userId, (d.tasksOf userId).length ≤ 1000
  owned : ∀ e ∈ d.world.store.executions, ∃ task ∈ d.world.store.tasks e.taskId,
    task.userId = e.userId
  past : ∀ e ∈ d.world.store.executions, e.startedAt ≤ d.world.clock
  recorded : ∀ e ∈ d.running, e ∈ d.world.store.executions
  fresh : ∀ e ∈ d.running, ∀ task ∈ d.world.store.tasks e.taskId, task.FreshAt d.world.today
  last : ∀ id, ∀ task ∈ d.world.store.tasks id, 0 ≤ task.runCount ∧
    ∀ t ∈ task.lastRunTime, t ≤ d.world.clock
  kept : ∀ id, ∀ task ∈ d.world.store.tasks id, task.deletedAt ≠ none → d.world.startedOf id = 0
  counted : ∀ id, ∀ task ∈ d.world.store.tasks id, (d.world.startedOf id : ℤ) =
    task.runsOn d.world.today + d.running.countP fun e => e.taskId = id

section Counts

variable {d : Diary} {event : TaskEvent} {w : World} {id userId : PyStr} {task : Task}

theorem mem_rows_iff {s : TaskStore} {order : List PyStr} {row : PyStr × Task} :
    row ∈ s.rows order ↔ row.1 ∈ order ∧ s.tasks row.1 = some row.2 := by
  obtain ⟨id, task⟩ := row
  simp only [TaskStore.rows, mem_filterMap, Option.map_eq_some_iff, Prod.mk.injEq]
  constructor
  · rintro ⟨id', hid', task', htask', rfl, rfl⟩
    exact ⟨hid', htask'⟩
  · rintro ⟨hid, htask⟩
    exact ⟨id, hid, task, htask, rfl, rfl⟩

theorem rows_nodup (s : TaskStore) {order : List PyStr} (h : order.Nodup) :
    ((s.rows order).map Prod.fst).Nodup := by
  refine h.sublist ?_
  rw [TaskStore.rows, map_filterMap]
  induction order with
  | nil => exact .slnil
  | cons id order ih =>
    cases htask : s.tasks id with
    | none => simpa [htask] using (ih (nodup_cons.mp h).2).cons id
    | some task => simpa [htask] using (ih (nodup_cons.mp h).2).cons_cons id

theorem sum_countP_eq_length {α κ : Type*} [DecidableEq κ] {key : α → κ} {keys : List κ}
    {l : List α} (hkeys : keys.Nodup) (hl : ∀ a ∈ l, key a ∈ keys) :
    (keys.map fun k => l.countP fun a => key a = k).sum = l.length := by
  have hcount (k : κ) : (l.countP fun a => key a = k) = Multiset.count k (l.map key : List κ) := by
    rw [Multiset.coe_count, count, countP_map]
    exact countP_congr fun a _ => by simp
  rw [map_congr_left fun k _ => hcount k, ← sum_toFinset _ hkeys,
    Multiset.sum_count_eq_card fun k hk => ?_]
  · simp
  · obtain ⟨a, ha, rfl⟩ := mem_map.mp (Multiset.mem_coe.mp hk)
    exact mem_toFinset.mpr (hl a ha)

theorem sum_map_filter {α : Type*} {p : α → Bool} {f : α → ℤ} (l : List α) :
    ((l.filter p).map f).sum = (l.map fun a => if p a then f a else 0).sum := by
  induction l with
  | nil => rfl
  | cons a l ih => by_cases ha : p a <;> simp [ha, ih]

theorem Task.runsOn_of_fresh {today : Timestamp} (h : task.FreshAt today) :
    task.runsOn today = task.runCount := by
  rw [Task.runsOn]
  split
  · rfl
  · next hnone => exact (h.resolve_right hnone).symm

theorem World.today_le (w : World) : w.today ≤ w.clock := by
  exact Int.ediv_mul_le _ (by decide)

theorem tasksOf_length (d : Diary) (userId : PyStr) : (d.tasksOf userId).length =
    d.order.countP fun id => (d.world.store.tasks id).any fun task =>
      task.userId = userId ∧ task.deletedAt = none := by
  rw [Diary.tasksOf, ← countP_eq_length_filter, TaskStore.rows, countP_filterMap]
  refine countP_congr fun id _ => ?_
  cases d.world.store.tasks id <;> simp

theorem Diary.Counted.startedOf_eq_zero (h : d.Counted) (hnone : d.world.store.tasks id = none) :
    d.world.startedOf id = 0 ∧ (d.running.countP fun e => e.taskId = id) = 0 := by
  have hnever : ∀ e ∈ d.world.store.executions, e.taskId ≠ id := by
    rintro e he rfl
    obtain ⟨task, htask, -⟩ := h.owned e he
    cases hnone.symm.trans htask
  refine ⟨countP_eq_zero.mpr fun e he => ?_, countP_eq_zero.mpr fun e he => ?_⟩
  · simp [hnever e he]
  · simp [hnever e (h.recorded e he)]

def Diary.write (d : Diary) (id : PyStr) (task : Task) (order : List PyStr)
    (running : List Execution) : Diary :=
  { d.setTask id task with order, running }

theorem tasks_write {order : List PyStr} {running : List Execution} (id' : PyStr) :
    (d.write id task order running).world.store.tasks id' =
      if id' = id then some task else d.world.store.tasks id' :=
  Function.update_apply ..

theorem mem_tasks_write {order : List PyStr} {running : List Execution} {id' : PyStr}
    {task' : Task} : task' ∈ (d.write id task order running).world.store.tasks id' ↔
      id' = id ∧ task' = task ∨ id' ≠ id ∧ task' ∈ d.world.store.tasks id' := by
  rw [tasks_write]
  split
  · next hid => simp [hid, eq_comm]
  · next hid => simp [hid]

theorem tasksOf_write_le {task' : Task} {running : List Execution}
    (htask : task ∈ d.world.store.tasks id) (huser : task'.userId = task.userId)
    (hdeleted : task'.deletedAt = none → task.deletedAt = none) :
    ((d.write id task' d.order running).tasksOf userId).length ≤ (d.tasksOf userId).length := by
  rw [tasksOf_length, tasksOf_length]
  refine countP_mono_left fun id' _ h => ?_
  rw [tasks_write] at h
  split at h
  · next hid =>
      rw [hid, Option.mem_def.mp htask, Option.any_some, decide_eq_true_eq]
      rw [Option.any_some, decide_eq_true_eq, huser] at h
      exact ⟨h.1, hdeleted h.2⟩
  · exact h

theorem Diary.Counted.write (h : d.Counted) {order : List PyStr} {running : List Execution}
    (hunique : order.Nodup) (hlisted : ∀ id', id' ∈ order ↔ id' = id ∨ id' ∈ d.order)
    (hfew : ∀ userId, ((d.write id task order running).tasksOf userId).length ≤ 1000)
    (huser : ∀ task' ∈ d.world.store.tasks id, task.userId = task'.userId)
    (hrunning : ∀ e ∈ running, e ∈ d.running ∧ (e.taskId = id → task.FreshAt d.world.today))
    (hothers : ∀ id', id' ≠ id →
      (running.countP fun e => e.taskId = id') = d.running.countP fun e => e.taskId = id')
    (hlast : 0 ≤ task.runCount ∧ ∀ t ∈ task.lastRunTime, t ≤ d.world.clock)
    (hkept : task.deletedAt ≠ none → d.world.startedOf id = 0)
    (hcounted : (d.world.startedOf id : ℤ) =
      task.runsOn d.world.today + running.countP fun e => e.taskId = id) :
    (d.write id task order running).Counted where
  unique := hunique
  listed id' := by
    change id' ∈ order ↔ _
    rw [hlisted, h.listed, tasks_write]
    by_cases hid : id' = id <;> simp [hid]
  few := hfew
  owned e he := by
    obtain ⟨task', htask', howner⟩ := h.owned e he
    by_cases hid : e.taskId = id
    · exact ⟨task, mem_tasks_write.mpr (.inl ⟨hid, rfl⟩), (huser task' (hid ▸ htask')).trans howner⟩
    · exact ⟨task', mem_tasks_write.mpr (.inr ⟨hid, htask'⟩), howner⟩
  past := h.past
  recorded e he := h.recorded e (hrunning e he).1
  fresh e he task' htask' := by
    obtain ⟨hid, rfl⟩ | ⟨-, htask'⟩ := mem_tasks_write.mp htask'
    · exact (hrunning e he).2 hid
    · exact h.fresh e (hrunning e he).1 task' htask'
  last id' task' htask' := by
    obtain ⟨-, rfl⟩ | ⟨-, htask'⟩ := mem_tasks_write.mp htask'
    · exact hlast
    · exact h.last id' task' htask'
  kept id' task' htask' hdeleted := by
    obtain ⟨rfl, rfl⟩ | ⟨-, htask'⟩ := mem_tasks_write.mp htask'
    · exact hkept hdeleted
    · exact h.kept id' task' htask' hdeleted
  counted id' task' htask' := by
    obtain ⟨rfl, rfl⟩ | ⟨hne, htask'⟩ := mem_tasks_write.mp htask'
    · exact hcounted
    · have hrest := h.counted id' task' htask'
      rw [← hothers id' hne] at hrest
      exact hrest

theorem Diary.Counted.created (h : d.Counted) (hnone : d.world.store.tasks id = none)
    (hfew : (d.tasksOf task.userId).length < 1000) :
    (d.write id task.new (id :: d.order) d.running).Counted := by
  have hid : id ∉ d.order := by simp [h.listed, hnone]
  obtain ⟨hstarted, hrunning⟩ := h.startedOf_eq_zero hnone
  refine h.write (nodup_cons.mpr ⟨hid, h.unique⟩) (fun _ => mem_cons) (fun userId => ?_) ?_
    (fun e he => ⟨he, fun _ => .inl rfl⟩) (fun _ _ => rfl) ⟨le_rfl, fun _ ht => by cases ht⟩
    (fun hdeleted => absurd rfl hdeleted) ?_
  · have hold : ((d.write id task.new d.order d.running).tasksOf userId).length ≤
        (d.tasksOf userId).length := by
      rw [tasksOf_length, tasksOf_length]
      refine countP_mono_left fun id' hid' h => ?_
      rwa [tasks_write, if_neg (ne_of_mem_of_not_mem hid' hid)] at h
    have hall := h.few userId
    rw [tasksOf_length] at hold ⊢
    change (id :: d.order).countP _ ≤ 1000
    rw [countP_cons, tasks_write, if_pos rfl, Option.any_some]
    split
    · next howner =>
        obtain ⟨rfl, -⟩ := of_decide_eq_true howner
        exact Nat.succ_le_of_lt (hold.trans_lt hfew)
    · exact hold.trans hall
  · rw [hnone]
    intro _ htask'
    cases htask'
  · rw [hstarted, hrunning]
    rfl

theorem Diary.Counted.deleted (h : d.Counted) (htask : task ∈ d.world.store.tasks id)
    (hearlier : ∀ e ∈ d.world.store.executions, e.taskId = id → e.startedAt < d.world.today) :
    (d.write id { task with deletedAt := some d.world.clock } d.order d.running).Counted := by
  have hid : id ∈ d.order := (h.listed id).mpr (Option.isSome_of_mem htask)
  refine h.write h.unique (fun id' => ?_) (fun userId => ?_) ?_
    (fun e he => ⟨he, fun hid => h.fresh e he task (hid ▸ htask)⟩) (fun _ _ => rfl)
    (h.last id task htask) (fun _ => ?_) (h.counted id task htask)
  · constructor
    · exact .inr
    · rintro (rfl | hmem)
      · exact hid
      · exact hmem
  · refine le_trans (tasksOf_write_le htask rfl fun hnone => ?_) (h.few userId)
    cases hnone
  · intro task' htask'
    rw [Option.mem_unique htask' htask]
  · refine countP_eq_zero.mpr fun e he => ?_
    simpa using hearlier e he

theorem Task.count_cases (task : Task) (success : Bool ⊕ ExecutionResult) (creditsConsumed : ℚ)
    (now : Timestamp) :
    let counted := task.count success creditsConsumed now
    counted.runCount = task.runCount + 1 ∧ counted.lastRunTime = some now ∧
      counted.userId = task.userId ∧ counted.deletedAt = task.deletedAt := by
  rw [Task.count]
  split <;> exact ⟨rfl, rfl, rfl, rfl⟩

theorem Diary.Counted.ended (h : d.Counted) {executionId : PyStr} {e : Execution}
    (hfind : d.running.find? (fun e => e.executionId = executionId) = some e)
    (success : Bool ⊕ ExecutionResult) (creditsConsumed : ℚ) :
    (d.finish executionId success creditsConsumed).Counted := by
  have hmem := mem_of_find?_eq_some hfind
  obtain ⟨task, htask, -⟩ := h.owned e (h.recorded e hmem)
  have hfinish : d.finish executionId success creditsConsumed =
      d.write e.taskId (task.count success creditsConsumed d.world.clock) d.order
        (d.running.eraseP fun e => e.executionId = executionId) := by
    rw [Diary.finish, hfind]
    dsimp only [handle]
    rw [Option.mem_def.mp htask]
    rfl
  obtain ⟨hruns, hlast, huser, hdeleted⟩ :=
    task.count_cases success creditsConsumed d.world.clock
  have htoday : (task.count success creditsConsumed d.world.clock).FreshAt d.world.today :=
    .inr ⟨d.world.clock, hlast, d.world.today_le⟩
  obtain ⟨hpos, before, after, hrunning, hbefore⟩ := find?_eq_some_iff_append.mp hfind
  have hself := eraseP_cons_of_pos (p := fun e : Execution => e.executionId = executionId)
    (l := after) hpos
  have herase : d.running.eraseP (fun e => e.executionId = executionId) = before ++ after := by
    rw [hrunning, eraseP_append_right _ fun e' he' => by simpa using hbefore e' he', hself]
  have hid : e.taskId ∈ d.order := (h.listed _).mpr (Option.isSome_of_mem htask)
  rw [hfinish, herase]
  refine h.write h.unique (fun id' => ?_) (fun userId => ?_) ?_ (fun e' he' => ?_)
    (fun id' hne => ?_) ⟨?_, fun t ht => ?_⟩ (fun hgone => ?_) ?_
  · constructor
    · exact .inr
    · rintro (rfl | hmem)
      · exact hid
      · exact hmem
  · exact (tasksOf_write_le htask huser hdeleted.symm.trans).trans (h.few userId)
  · intro task' htask'
    rw [huser, Option.mem_unique htask' htask]
  · refine ⟨?_, fun _ => htoday⟩
    rw [hrunning]
    simp only [mem_append, mem_cons] at he' ⊢
    tauto
  · rw [hrunning, countP_append, countP_append, countP_cons_of_neg (by simpa using hne.symm)]
  · rw [hruns]
    have := (h.last _ task htask).1
    omega
  · rw [hlast] at ht
    exact (Option.some.inj ht).ge
  · exact h.kept _ task htask (hdeleted ▸ hgone)
  · have hcounted := h.counted _ task htask
    rw [Task.runsOn_of_fresh (h.fresh e hmem task htask), hrunning, countP_append,
      countP_cons_of_pos (by simp)] at hcounted
    rw [Task.runsOn_of_fresh htoday, hruns, countP_append, hcounted]
    omega

def Diary.record (d : Diary) (e : Execution) (log : List Entry)
    (hnew : ¬∃ e' ∈ d.world.store.executions, e'.executionId = e.executionId) : Diary :=
  { d with
    world := { d.world with store := d.world.store.addExecution e hnew, log }
    running := e :: d.running }

theorem startedOf_record {e : Execution} {log : List Entry}
    {hnew : ¬∃ e' ∈ d.world.store.executions, e'.executionId = e.executionId}
    (he : d.world.today ≤ e.startedAt) : (d.record e log hnew).world.startedOf id =
      d.world.startedOf id + if e.taskId = id then 1 else 0 := by
  refine countP_cons.trans ?_
  rw [World.today] at he
  simp [he, World.startedOf, Diary.record, World.today]
  rfl

theorem Diary.Counted.record (h : d.Counted) {e : Execution} {log : List Entry}
    (hnew : ¬∃ e' ∈ d.world.store.executions, e'.executionId = e.executionId)
    (htask : task ∈ d.world.store.tasks e.taskId) (howner : task.userId = e.userId)
    (hactive : task.deletedAt = none) (hfresh : task.FreshAt d.world.today)
    (hnow : e.startedAt = d.world.clock) : (d.record e log hnew).Counted where
  unique := h.unique
  listed := h.listed
  few := h.few
  owned := forall_mem_cons.mpr ⟨⟨task, htask, howner⟩, h.owned⟩
  past := forall_mem_cons.mpr ⟨hnow.le, h.past⟩
  recorded := forall_mem_cons.mpr
    ⟨mem_cons_self, fun e he => mem_cons_of_mem _ (h.recorded e he)⟩
  fresh := by
    refine forall_mem_cons.mpr ⟨fun task' htask' => ?_, h.fresh⟩
    rw [Option.mem_unique htask' htask]
    exact hfresh
  last := h.last
  kept id task' htask' hdeleted := by
    have hne : e.taskId ≠ id := by
      rintro rfl
      rw [Option.mem_unique htask' htask] at hdeleted
      exact hdeleted hactive
    rw [startedOf_record (hnow ▸ d.world.today_le), if_neg hne, h.kept id task' htask' hdeleted]
  counted id task' htask' := by
    have hcounted := h.counted id task' htask'
    rw [startedOf_record (hnow ▸ d.world.today_le)]
    change _ = task'.runsOn d.world.today + ((countP _ (e :: d.running) : ℕ) : ℤ)
    rw [countP_cons, Nat.cast_add, Nat.cast_add, hcounted, add_assoc]
    simp only [decide_eq_true_eq]

theorem Diary.Counted.started (h : d.Counted) {executionId triggerType : PyStr}
    (huser : userId ≠ []) (hfresh : ∀ task ∈ d.world.store.tasks id, task.FreshAt d.world.today) :
    (d.start executionId id userId triggerType).Counted := by
  rw [Diary.start]
  split
  · next htaskOf =>
      obtain ⟨task, htaskOf⟩ := Option.isSome_iff_exists.mp htaskOf
      obtain ⟨htask, hmine⟩ := Option.filter_eq_some_iff.mp htaskOf
      obtain ⟨hactive, howner⟩ := of_decide_eq_true hmine
      dsimp only [handle]
      split
      · exact h
      · next hnew => exact h.record hnew htask (howner huser) hactive (hfresh task htask) rfl
  · exact h

theorem today_lt {clock clock' : ℤ} (hle : clock ≤ clock')
    (hday : clock' / microsPerDay ≠ clock / microsPerDay) :
    clock < days (clock' / microsPerDay) := by
  simp only [days, microsPerDay] at hday ⊢
  omega

theorem Diary.Counted.passed (h : d.Counted) {micros : ℕ}
    (hsteady : d.Steady (.passed micros)) : (d.step (.passed micros)).Counted := by
  have hclock : d.world.clock ≤ d.world.clock + micros :=
    le_add_of_nonneg_right (Int.natCast_nonneg micros)
  have hbase (hfresh : ∀ e ∈ d.running, ∀ task ∈ d.world.store.tasks e.taskId,
        task.FreshAt (d.step (.passed micros)).world.today)
      (hcounted : ∀ id, ∀ task ∈ d.world.store.tasks id, ((d.step (.passed micros)).world.startedOf
        id : ℤ) = task.runsOn (d.step (.passed micros)).world.today +
          d.running.countP fun e => e.taskId = id)
      (hkept : ∀ id, d.world.startedOf id = 0 → (d.step (.passed micros)).world.startedOf id = 0) :
      (d.step (.passed micros)).Counted :=
    { unique := h.unique
      listed := h.listed
      few := h.few
      owned := h.owned
      past := fun e he => (h.past e he).trans hclock
      recorded := h.recorded
      fresh := hfresh
      last := fun id task htask => ⟨(h.last id task htask).1, fun t ht =>
        ((h.last id task htask).2 t ht).trans hclock⟩
      kept := fun id task htask hdeleted => hkept id (h.kept id task htask hdeleted)
      counted := hcounted }
  by_cases hday : (d.world.clock + micros) / microsPerDay = d.world.clock / microsPerDay
  · have htoday : (d.step (.passed micros)).world.today = d.world.today := congrArg days hday
    have hstarted (id : PyStr) :
        (d.step (.passed micros)).world.startedOf id = d.world.startedOf id := by
      rw [World.startedOf, htoday]
      rfl
    rw [htoday] at hbase
    exact hbase h.fresh (fun id task htask => by rw [hstarted, h.counted id task htask])
      fun id hzero => by rw [hstarted, hzero]
  · have hidle : d.running = [] := by
      by_contra hne
      exact hday (hsteady hne)
    have hlater : d.world.clock < (d.step (.passed micros)).world.today := today_lt hclock hday
    have hstarted (id : PyStr) : (d.step (.passed micros)).world.startedOf id = 0 := by
      refine countP_eq_zero.mpr fun e he => ?_
      have hearlier := (h.past e he).trans_lt hlater
      simp [hearlier]
    refine hbase (by simp [hidle]) (fun id task htask => ?_) fun id _ => hstarted id
    have hnone : ¬∃ t ∈ task.lastRunTime, (d.step (.passed micros)).world.today ≤ t := by
      intro ⟨t, ht, hle⟩
      exact (hlater.trans_le hle).not_ge ((h.last id task htask).2 t ht)
    rw [hstarted, Task.runsOn, if_neg hnone, hidle]
    rfl

theorem Diary.Counted.step (h : d.Counted) (hsteady : d.Steady event) : (d.step event).Counted := by
  cases event with
  | created id task =>
    rw [Diary.step]
    split
    · exact h
    · next hnone => exact h.created (Option.not_isSome_iff_eq_none.mp hnone) hsteady
  | started executionId id userId triggerType => exact h.started hsteady.1 hsteady.2
  | ended executionId success creditsConsumed =>
    cases hfind : d.running.find? fun e => e.executionId = executionId with
    | none =>
      rw [Diary.step, Diary.finish, hfind]
      exact h
    | some e => exact h.ended hfind success creditsConsumed
  | deleted id =>
    rw [Diary.step]
    split
    · exact h
    · next task htask => exact h.deleted htask hsteady
  | passed micros => exact h.passed hsteady

theorem Diary.counted_empty (clock : Timestamp) : (Diary.empty clock).Counted where
  unique := nodup_nil
  listed _ := by simp [Diary.empty]
  few _ := by simp [Diary.empty, Diary.tasksOf, TaskStore.rows]
  owned _ h := absurd h not_mem_nil
  past _ h := absurd h not_mem_nil
  recorded _ h := absurd h not_mem_nil
  fresh _ h := absurd h not_mem_nil
  last _ _ h := by cases h
  kept _ _ h := by cases h
  counted _ _ h := by cases h

theorem Diary.Counted.run (h : d.Counted) {history : List TaskEvent} (hsteady : d.SteadyRun history) :
    (d.run history).Counted := by
  induction history generalizing d with
  | nil => exact h
  | cons event history ih => exact ih (h.step hsteady.1) hsteady.2

theorem mem_tasksOf {row : PyStr × Task} (hrow : row ∈ d.tasksOf userId) :
    d.world.store.tasks row.1 = some row.2 ∧ row.2.userId = userId := by
  obtain ⟨hmem, hmine⟩ := mem_filter.mp hrow
  exact ⟨(mem_rows_iff.mp hmem).2, (of_decide_eq_true hmine).1⟩

theorem Diary.Counted.startedOf_eq (h : d.Counted) (htask : d.world.store.tasks id = some task) :
    d.world.startedOf id = (d.world.startedBy task.userId).countP fun e => e.taskId = id := by
  rw [World.startedBy, countP_filter]
  refine countP_congr fun e he => ?_
  obtain ⟨task', htask', howner⟩ := h.owned e he
  simp only [Bool.and_eq_true, decide_eq_true_eq]
  constructor
  · rintro ⟨rfl, htoday⟩
    rw [Option.mem_unique htask' htask] at howner
    exact ⟨rfl, howner.symm, htoday⟩
  · rintro ⟨hid, -, htoday⟩
    exact ⟨hid, htoday⟩

theorem Diary.Counted.sum_eq (h : d.Counted) (hidle : ∀ e ∈ d.running, e.userId ≠ userId) :
    (((d.tasksOf userId).filter fun row => ∃ t ∈ row.2.lastRunTime, d.world.today ≤ t).map
      fun row => row.2.runCount).sum = (d.world.startedBy userId).length := by
  have hrow : ∀ row ∈ d.tasksOf userId, (if decide (∃ t ∈ row.2.lastRunTime, d.world.today ≤ t) then
      row.2.runCount else 0) =
        (((d.world.startedBy userId).countP fun e => e.taskId = row.1 : ℕ) : ℤ) := by
    intro row hrow
    obtain ⟨htask, huser⟩ := mem_tasksOf hrow
    have hnone : (d.running.countP fun e => e.taskId = row.1) = 0 := by
      refine countP_eq_zero.mpr fun e he heq => hidle e he ?_
      obtain ⟨task, htask', howner⟩ := h.owned e (h.recorded e he)
      rw [of_decide_eq_true heq] at htask'
      rw [← howner, Option.mem_unique htask' htask, huser]
    have hcounted := h.counted row.1 row.2 htask
    rw [hnone, h.startedOf_eq htask, huser] at hcounted
    rw [hcounted, Task.runsOn]
    simp
  have hkeys : ∀ e ∈ d.world.startedBy userId, e.taskId ∈ (d.tasksOf userId).map Prod.fst := by
    intro e he
    obtain ⟨hmem, hmine⟩ := mem_filter.mp he
    obtain ⟨huser, htoday⟩ := of_decide_eq_true hmine
    obtain ⟨task, htask, howner⟩ := h.owned e hmem
    have hactive : task.deletedAt = none := by
      by_contra hdeleted
      exact countP_eq_zero.mp (h.kept e.taskId task htask hdeleted) e hmem (by simp [htoday])
    refine mem_map.mpr ⟨(e.taskId, task), mem_filter.mpr ⟨mem_rows_iff.mpr ⟨?_, htask⟩, ?_⟩, rfl⟩
    · exact (h.listed _).mpr (Option.isSome_of_mem htask)
    · simp [howner, huser, hactive]
  have hunique : ((d.tasksOf userId).map Prod.fst).Nodup :=
    (rows_nodup _ h.unique).sublist (filter_sublist.map _)
  rw [sum_map_filter, map_congr_left hrow, ← sum_countP_eq_length hunique hkeys, Nat.cast_list_sum,
    map_map, map_map]
  rfl

end Counts

def runOf (executionId : PyStr) : List TaskEvent :=
  [.started executionId ['t'] ['u'] [], .ended executionId (.inl true) 0]

def newTask : TaskEvent := .created ['t'] { userId := ['u'], taskType := .todo }

def twoDays : List TaskEvent :=
  newTask :: ((range 9).flatMap fun n => runOf (replicate n 'e')) ++
    .passed 86400000000 :: runOf (replicate 9 'e')

structure Diary.Accounted (d : Diary) : Prop where
  known : ∀ e ∈ d.running, (d.world.store.tasks e.taskId).isSome
  recorded : ∀ id, ((d.world.executionsOf id).length : ℤ) =
    ((d.world.store.tasks id).map (·.runCount)).getD 0 + d.running.countP fun e => e.taskId = id
  sides : ∀ id, ∀ task ∈ d.world.store.tasks id,
    task.runCount = task.successCount + task.failureCount

section Accounts

variable {d : Diary} {event : TaskEvent} {id userId : PyStr} {task : Task}

theorem perm_cons_eraseP {α : Type*} {p : α → Bool} {l : List α} {a : α}
    (h : l.find? p = some a) : l ~ a :: l.eraseP p := by
  obtain ⟨hpos, before, after, rfl, hbefore⟩ := find?_eq_some_iff_append.mp h
  rw [eraseP_append_right _ fun b hb => by simpa using hbefore b hb, eraseP_cons_of_pos hpos]
  exact perm_middle

theorem Diary.Accounted.write (h : d.Accounted) {order : List PyStr} {running : List Execution}
    (hrunning : running ⊆ d.running)
    (hothers : ∀ id', id' ≠ id →
      (running.countP fun e => e.taskId = id') = d.running.countP fun e => e.taskId = id')
    (hself : ((d.world.executionsOf id).length : ℤ) =
      task.runCount + running.countP fun e => e.taskId = id)
    (hsides : task.runCount = task.successCount + task.failureCount) :
    (d.write id task order running).Accounted where
  known e he := by
    rw [tasks_write]
    split
    · rfl
    · exact h.known e (hrunning he)
  recorded id' := by
    rw [tasks_write]
    split
    · next hid => exact hid ▸ hself
    · next hid => exact (h.recorded id').trans (congrArg _ (congrArg _ (hothers id' hid).symm))
  sides id' task' htask' := by
    obtain ⟨-, rfl⟩ | ⟨-, htask'⟩ := mem_tasks_write.mp htask'
    · exact hsides
    · exact h.sides id' task' htask'

theorem Diary.Accounted.ended (h : d.Accounted) {executionId : PyStr} {e : Execution}
    (hfind : d.running.find? (fun e => e.executionId = executionId) = some e)
    (success : Bool ⊕ ExecutionResult) (creditsConsumed : ℚ) :
    (d.finish executionId success creditsConsumed).Accounted := by
  obtain ⟨task, htask⟩ := Option.isSome_iff_exists.mp (h.known e (mem_of_find?_eq_some hfind))
  have hfinish : d.finish executionId success creditsConsumed =
      d.write e.taskId (task.count success creditsConsumed d.world.clock) d.order
        (d.running.eraseP fun e => e.executionId = executionId) := by
    rw [Diary.finish, hfind]
    dsimp only [handle]
    rw [htask]
    rfl
  have hperm := perm_cons_eraseP hfind
  have hrecorded := h.recorded e.taskId
  rw [htask, hperm.countP_eq, countP_cons_of_pos (by simp)] at hrecorded
  have hsides := h.sides e.taskId task htask
  rw [hfinish]
  refine h.write (eraseP_subset ..) (fun id' hne => ?_) ?_ ?_
  · rw [hperm.countP_eq, countP_cons_of_neg (by simpa using hne.symm)]
  · rw [hrecorded, (task.count_cases success creditsConsumed d.world.clock).1]
    simp only [Option.map_some, Option.getD_some]
    omega
  · rw [Task.count]
    split <;> dsimp only <;> omega

theorem Diary.Accounted.started (h : d.Accounted) {executionId triggerType : PyStr} :
    (d.start executionId id userId triggerType).Accounted := by
  rw [Diary.start]
  split
  · next htaskOf =>
      obtain ⟨task, htaskOf⟩ := Option.isSome_iff_exists.mp htaskOf
      have htask := (Option.filter_eq_some_iff.mp htaskOf).1
      dsimp only [handle]
      split
      · exact h
      · refine ⟨forall_mem_cons.mpr ⟨Option.isSome_of_mem htask, h.known⟩, fun id' => ?_, h.sides⟩
        have hrecorded := h.recorded id'
        simp only [World.executionsOf, ← countP_eq_length_filter] at hrecorded ⊢
        simp [World.note, TaskStore.addExecution, countP_cons, hrecorded]
        omega
  · exact h

theorem Diary.Accounted.step (h : d.Accounted) : (d.step event).Accounted := by
  cases event with
  | created id task =>
    rw [Diary.step]
    split
    · exact h
    · next hnone =>
        have hrecorded := h.recorded id
        rw [Option.not_isSome_iff_eq_none.mp hnone] at hrecorded
        exact h.write (Subset.refl _) (fun _ _ => rfl) hrecorded rfl
  | started executionId id userId triggerType => exact h.started
  | ended executionId success creditsConsumed =>
    cases hfind : d.running.find? fun e => e.executionId = executionId with
    | none =>
      rw [Diary.step, Diary.finish, hfind]
      exact h
    | some e => exact h.ended hfind success creditsConsumed
  | deleted id =>
    rw [Diary.step]
    split
    · exact h
    · next task htask =>
        have hrecorded := h.recorded id
        rw [htask] at hrecorded
        exact h.write (Subset.refl _) (fun _ _ => rfl) hrecorded (h.sides id task htask)
  | passed micros => exact ⟨h.known, h.recorded, h.sides⟩

end Accounts

end IsaUser.Tasks
