import IsaUser.Tasks.Model

/-!
# The Runs of a Task

The service passes the user of a task where `update_task` expects the updates, the status of an
execution is not among what is written of it, and its result comes where its success is expected. So
runs of a task do not exclude each other, their records stay running, and each of them counts as a
success.

## Main results

* `tasks_recorded_iff`: the runs of a task are exclusive and recorded just until one has ended.
* `not_tasks_recorded`: one run is enough.
-/

open List Option

namespace IsaUser.Tasks

open World

/-! ### The law -/

def World.InProgress (w : World) (taskId executionId : PyStr) : Prop :=
  .started taskId executionId ∈ w.log ∧ ∀ time, .finished taskId executionId time ∉ w.log

def World.executionsOf (w : World) (taskId : PyStr) : List Execution :=
  w.store.executions.filter fun e => e.taskId = taskId

def World.Succeeded (w : World) (e : Execution) : Prop := .executed e.executionId true ∈ w.log
  deriving Decidable

/-- The executions of a task and its statistics say how its executors have fared. -/
structure Recorded (w : World) (taskId : PyStr) (task : Task) : Prop where
  status : ∀ e ∈ w.executionsOf taskId, e.status = if w.Succeeded e then .completed else .failed
  runCount : task.runCount = task.successCount + task.failureCount
  executions : task.runCount = (w.executionsOf taskId).length
  successCount : task.successCount = (w.executionsOf taskId).countP fun e => w.Succeeded e
  totalCredits : task.totalCreditsConsumed =
    ((w.executionsOf taskId).countP fun e => w.Succeeded e) * task.creditsPerRun

structure Lawful (w : World) (taskId : PyStr) : Prop where
  exclusive : ∀ x y, w.InProgress taskId x → w.InProgress taskId y → x = y
  recorded : (∀ x, ¬w.InProgress taskId x) → ∀ task ∈ w.store.tasks taskId, Recorded w taskId task

/-! ### The condition -/

def Entry.startOf (taskId : PyStr) : Entry → Option PyStr
  | .started id executionId => if id = taskId then some executionId else none
  | _ => none

def World.starts (w : World) (taskId : PyStr) : List PyStr := w.log.filterMap (Entry.startOf taskId)

def Undecided (w₀ w : World) (taskId : PyStr) : Prop :=
  w.starts taskId = w₀.starts taskId ∨ ∃ x, ∀ y, w.InProgress taskId y ↔ y = x

/-! ### What a run leaves -/

section Kept

def Task.plan (task : Task) : Task :=
  { task with
    runCount := 0, successCount := 0, failureCount := 0, totalCreditsConsumed := 0
    lastRunTime := none, lastSuccessTime := none }

def Task.stats (task : Task) : ℤ × ℤ × ℤ × ℚ × ℚ :=
  (task.runCount, task.successCount, task.failureCount, task.totalCreditsConsumed,
    task.creditsPerRun)

def World.Running (w : World) (taskId executionId : PyStr) : Prop :=
  ∃ e ∈ w.store.executions, e.executionId = executionId ∧ e.taskId = taskId ∧ e.status = .running

/-- Nothing has started for a task, and nothing is written about it. -/
structure Untouched (w₀ w : World) (taskId : PyStr) : Prop where
  starts : w.starts taskId = w₀.starts taskId
  executions : w.executionsOf taskId = w₀.executionsOf taskId
  stats : (w.store.tasks taskId).map Task.stats = (w₀.store.tasks taskId).map Task.stats
  inProgress : ∀ x, w.InProgress taskId x → w₀.InProgress taskId x
  succeeded : ∀ e ∈ w₀.executionsOf taskId, w.Succeeded e ↔ w₀.Succeeded e

structure Begun (w₀ w : World) (taskId : PyStr) : Prop where
  running : ∃ executionId, w.Running taskId executionId
  task : (w.store.tasks taskId).isSome
  starts : (w₀.starts taskId).length < (w.starts taskId).length

/-- What is later: time passes, runs start, records stay running, and what is planned stays. -/
structure Later (w w' : World) : Prop where
  clock : w.clock ≤ w'.clock
  starts : ∀ taskId, (w.starts taskId).length ≤ (w'.starts taskId).length
  running : ∀ taskId executionId, w.Running taskId executionId → w'.Running taskId executionId
  plan : ∀ taskId, (w'.store.tasks taskId).map Task.plan = (w.store.tasks taskId).map Task.plan

variable {w₀ w w' : World} {taskId executionId : PyStr}

theorem Later.refl (w : World) : Later w w :=
  ⟨le_rfl, fun _ => le_rfl, fun _ _ h => h, fun _ => rfl⟩

theorem Later.trans {w'' : World} (h : Later w w') (h' : Later w' w'') : Later w w'' where
  clock := le_trans h.clock h'.clock
  starts taskId := le_trans (h.starts taskId) (h'.starts taskId)
  running taskId executionId hr := h'.running _ _ (h.running taskId executionId hr)
  plan taskId := (h'.plan taskId).trans (h.plan taskId)

theorem Later.isSome (h : Later w w') (htask : (w.store.tasks taskId).isSome) :
    (w'.store.tasks taskId).isSome := by
  have hplan := congrArg Option.isSome (h.plan taskId)
  rw [Option.isSome_map, Option.isSome_map] at hplan
  rw [hplan]
  exact htask

theorem Begun.later (hbegun : Begun w₀ w taskId) (h : Later w w') : Begun w₀ w' taskId := by
  obtain ⟨executionId, hrunning⟩ := hbegun.running
  exact ⟨⟨executionId, h.running _ _ hrunning⟩, h.isSome hbegun.task,
    lt_of_lt_of_le hbegun.starts (h.starts taskId)⟩

theorem Untouched.refl (w : World) : Untouched w w taskId :=
  ⟨rfl, rfl, rfl, fun _ h => h, fun _ _ => Iff.rfl⟩

theorem Untouched.trans (h : Untouched w₀ w taskId) (h' : Untouched w w' taskId) :
    Untouched w₀ w' taskId where
  starts := h'.starts.trans h.starts
  executions := h'.executions.trans h.executions
  stats := h'.stats.trans h.stats
  inProgress x hx := h.inProgress x (h'.inProgress x hx)
  succeeded e he := (h'.succeeded e (h.executions ▸ he)).trans (h.succeeded e he)

theorem starts_note (w : World) (entry : Entry) (taskId : PyStr) :
    (w.note entry).starts taskId = (entry.startOf taskId).toList ++ w.starts taskId := by
  rw [starts, note, filterMap_cons]
  cases entry.startOf taskId <;> rfl

def taskTerms (w₀ : World) : Terms World where
  inv w := ∀ taskId, Untouched w₀ w taskId ∨ Begun w₀ w taskId
  rel := Later
  rel_refl := Later.refl
  rel_trans := Later.trans

def Own (w₀ w : World) (taskId executionId : PyStr) : Prop :=
  Begun w₀ w taskId ∧ w.Running taskId executionId

theorem Own.later (hown : Own w₀ w taskId executionId) (h : Later w w') :
    Own w₀ w' taskId executionId :=
  ⟨hown.1.later h, h.running _ _ hown.2⟩

/-- What a program promises of its calls: it writes about its own execution, whose status it does
not write, and it passes a text for the updates of a task. -/
def Promise (w₀ : World) (w : World) : Call → Prop
  | .createExecution _ taskId _ _ => (w.store.tasks taskId).isSome
  | .updateTask _ updates _ _ => ∃ text, updates = .inr text
  | .execute executionId _ => ∃ taskId, Own w₀ w taskId executionId
  | .updateExecution executionId updates =>
    updates.status = none ∧ ∃ taskId, Own w₀ w taskId executionId
  | .updateTaskExecutionStats taskId _ _ => ∃ executionId, Own w₀ w taskId executionId
  | _ => True

theorem Own.unique (h : Own w₀ w taskId executionId) {e : Execution} (he : e ∈ w.store.executions)
    (hid : e.executionId = executionId) : e.taskId = taskId := by
  obtain ⟨e', he', hid', htask', -⟩ := h.2
  have heq : e = e' := inj_on_of_nodup_map w.store.unique he he' (hid.trans hid'.symm)
  rw [heq, htask']

theorem keeps_of_later (hinv : (taskTerms w₀).inv w) (hlater : Later w w')
    (htouched : ∀ taskId, Untouched w w' taskId ∨ Begun w₀ w' taskId) :
    (taskTerms w₀).inv w' ∧ (taskTerms w₀).rel w w' := by
  refine ⟨fun taskId => ?_, hlater⟩
  rcases hinv taskId with hold | hold
  · rcases htouched taskId with hnew | hnew
    · exact .inl (hold.trans hnew)
    · exact .inr hnew
  · exact .inr (hold.later hlater)

theorem keeps_note (hinv : (taskTerms w₀).inv w) {entry : Entry}
    (hstart : ∀ taskId, entry.startOf taskId = none)
    (hsuccess : ∀ taskId, (∃ e ∈ w.executionsOf taskId, entry = .executed e.executionId true) →
      Begun w₀ w taskId) :
    (taskTerms w₀).inv (w.note entry) ∧ (taskTerms w₀).rel w (w.note entry) := by
  have hstarts : ∀ taskId, (w.note entry).starts taskId = w.starts taskId := by
    intro taskId
    rw [starts_note, hstart taskId]
    rfl
  have hlater : Later w (w.note entry) :=
    ⟨le_rfl, fun taskId => (congrArg length (hstarts taskId)).ge, fun _ _ h => h, fun _ => rfl⟩
  refine keeps_of_later hinv hlater fun taskId => ?_
  by_cases htouched : ∃ e ∈ w.executionsOf taskId, entry = .executed e.executionId true
  · exact .inr ((hsuccess taskId htouched).later hlater)
  · refine .inl ⟨hstarts taskId, rfl, rfl, fun x hx => ⟨?_, fun time h => ?_⟩, fun e he => ?_⟩
    · rcases mem_cons.mp hx.1 with h | h
      · have hnone := hstart taskId
        rw [← h, Entry.startOf, if_pos rfl] at hnone
        cases hnone
      · exact h
    · exact hx.2 time (mem_cons_of_mem _ h)
    · constructor
      · intro h
        rcases mem_cons.mp h with h | h
        · exact absurd ⟨e, he, h.symm⟩ htouched
        · exact h
      · exact mem_cons_of_mem _

def newExecution (w : World) (executionId taskId userId triggerType : PyStr) : Execution :=
  { executionId, taskId, userId, status := .running, triggerType, startedAt := w.clock }

def World.begin (w : World) (executionId taskId userId triggerType : PyStr)
    (h : ¬∃ e ∈ w.store.executions, e.executionId = executionId) : World :=
  { w with store := w.store.addExecution (newExecution w executionId taskId userId triggerType) h
    }.note (.started taskId executionId)

section Begin

variable {userId triggerType : PyStr}

theorem handle_createExecution (hfresh : ¬∃ e ∈ w.store.executions, e.executionId = executionId) :
    handle (.createExecution executionId taskId userId triggerType) w =
      (some (newExecution w executionId taskId userId triggerType),
        w.begin executionId taskId userId triggerType hfresh) := by
  simp only [handle, hfresh]
  rfl

theorem handle_createExecution_of_taken
    (h : ∃ e ∈ w.store.executions, e.executionId = executionId) :
    handle (.createExecution executionId taskId userId triggerType) w = (none, w) := by
  simp only [handle, h]
  rfl

theorem starts_begin (hfresh : ¬∃ e ∈ w.store.executions, e.executionId = executionId)
    (taskId' : PyStr) : (w.begin executionId taskId userId triggerType hfresh).starts taskId' =
      (if taskId = taskId' then [executionId] else []) ++ w.starts taskId' := by
  rw [begin, starts_note, Entry.startOf]
  split <;> rfl

theorem own_begin (hinv : (taskTerms w₀).inv w) (htask : (w.store.tasks taskId).isSome)
    (hfresh : ¬∃ e ∈ w.store.executions, e.executionId = executionId) :
    Own w₀ (w.begin executionId taskId userId triggerType hfresh) taskId executionId := by
  have hrunning : (w.begin executionId taskId userId triggerType hfresh).Running taskId
      executionId :=
    ⟨newExecution w executionId taskId userId triggerType, mem_cons_self, rfl, rfl, rfl⟩
  refine ⟨⟨⟨executionId, hrunning⟩, htask, ?_⟩, hrunning⟩
  have hbefore : (w₀.starts taskId).length ≤ (w.starts taskId).length := by
    rcases hinv taskId with hold | hold
    · exact (congrArg length hold.starts).ge
    · exact hold.starts.le
  rw [starts_begin, if_pos rfl, length_append, add_comm]
  exact Nat.lt_succ_of_le hbefore

theorem keeps_begin (hinv : (taskTerms w₀).inv w) (htask : (w.store.tasks taskId).isSome)
    (hfresh : ¬∃ e ∈ w.store.executions, e.executionId = executionId) :
    (taskTerms w₀).inv (w.begin executionId taskId userId triggerType hfresh) ∧
      (taskTerms w₀).rel w (w.begin executionId taskId userId triggerType hfresh) := by
  refine keeps_of_later hinv ⟨le_rfl, fun taskId' => ?_, fun taskId' id h => ?_, fun _ => rfl⟩
    fun taskId' => ?_
  · exact ((sublist_cons_self _ _).filterMap _).length_le
  · obtain ⟨e, he, h⟩ := h
    exact ⟨e, mem_cons_of_mem _ he, h⟩
  rcases eq_or_ne taskId taskId' with rfl | hne
  · exact .inr (own_begin hinv htask hfresh).1
  · refine .inl ⟨?_, ?_, rfl, fun x hx => ?_, fun e _ => ?_⟩
    · rw [starts_begin, if_neg hne, nil_append]
    · exact filter_cons_of_neg fun h => hne (of_decide_eq_true h)
    · refine ⟨?_, fun time h => hx.2 time (mem_cons_of_mem _ h)⟩
      rcases mem_cons.mp hx.1 with h | h
      · cases h
        exact absurd rfl hne
      · exact h
    · constructor
      · intro h
        rcases mem_cons.mp h with h | h
        · cases h
        · exact h
      · exact mem_cons_of_mem _

end Begin

theorem keeps_updateExecution (hinv : (taskTerms w₀).inv w) {updates : ExecutionUpdates}
    (hstatus : updates.status = none) (hown : Own w₀ w taskId executionId) :
    (taskTerms w₀).inv (handle (.updateExecution executionId updates) w).2 ∧
      (taskTerms w₀).rel w (handle (.updateExecution executionId updates) w).2 := by
  have hlater : Later w (handle (.updateExecution executionId updates) w).2 := by
    refine ⟨le_rfl, fun _ => le_rfl, fun taskId' id h => ?_, fun _ => rfl⟩
    obtain ⟨e, he, hid, htask, hrunning⟩ := h
    refine ⟨_, mem_map_of_mem he, ?_⟩
    split
    · refine ⟨hid, htask, ?_⟩
      rw [Execution.update, hstatus]
      exact hrunning
    · exact ⟨hid, htask, hrunning⟩
  refine keeps_of_later hinv hlater fun taskId' => ?_
  rcases eq_or_ne taskId taskId' with rfl | hne
  · exact .inr (hown.1.later hlater)
  · refine .inl ⟨rfl, ?_, rfl, fun _ h => h, fun _ _ => Iff.rfl⟩
    rw [executionsOf, handle, TaskStore.updateExecution]
    rw [List.filter_map]
    have hkept : ((fun e : Execution => decide (e.taskId = taskId')) ∘ fun e =>
        if e.executionId = executionId then e.update updates w.clock else e) =
        fun e => decide (e.taskId = taskId') := by
      funext e
      rw [Function.comp_apply]
      split <;> rfl
    rw [hkept]
    refine (map_congr_left fun e he => ?_).trans (map_id _)
    obtain ⟨he, htask⟩ := mem_filter.mp he
    refine if_neg fun hid => hne ?_
    exact (hown.unique he hid).symm.trans (of_decide_eq_true htask)

theorem keeps_updateStats (hinv : (taskTerms w₀).inv w) {success : Bool ⊕ ExecutionResult}
    {creditsConsumed : ℚ} (hown : Own w₀ w taskId executionId) :
    (taskTerms w₀).inv (handle (.updateTaskExecutionStats taskId success creditsConsumed) w).2 ∧
      (taskTerms w₀).rel w
        (handle (.updateTaskExecutionStats taskId success creditsConsumed) w).2 := by
  obtain ⟨task, htask⟩ := isSome_iff_exists.mp hown.1.task
  have hhandle : (handle (.updateTaskExecutionStats taskId success creditsConsumed) w).2 =
      { w with store := w.store.setTask taskId (task.count success creditsConsumed w.clock) } := by
    simp only [handle, htask]
  have hplan : (task.count success creditsConsumed w.clock).plan = task.plan := by
    rw [Task.count]
    split <;> rfl
  rw [hhandle]
  have hlater : Later w
      { w with store := w.store.setTask taskId (task.count success creditsConsumed w.clock) } := by
    refine ⟨le_rfl, fun _ => le_rfl, fun _ _ h => h, fun taskId' => ?_⟩
    rw [TaskStore.setTask]
    dsimp only
    rcases eq_or_ne taskId' taskId with rfl | hne
    · rw [Function.update_self, htask, map_some, map_some, hplan]
    · rw [Function.update_of_ne hne]
  refine keeps_of_later hinv hlater fun taskId' => ?_
  rcases eq_or_ne taskId' taskId with rfl | hne
  · exact .inr (hown.1.later hlater)
  · refine .inl ⟨rfl, rfl, ?_, fun _ h => h, fun _ _ => Iff.rfl⟩
    rw [TaskStore.setTask]
    dsimp only
    rw [Function.update_of_ne hne]

theorem handle_keeps (c : Call) (hinv : (taskTerms w₀).inv w) (hpromise : Promise w₀ w c) :
    (taskTerms w₀).inv (handle c w).2 ∧ (taskTerms w₀).rel w (handle c w).2 := by
  cases c with
  | getTaskById | getUserTasks | getPendingTasks => exact ⟨hinv, Later.refl w⟩
  | createExecution executionId taskId userId triggerType =>
    by_cases htaken : ∃ e ∈ w.store.executions, e.executionId = executionId
    · rw [handle_createExecution_of_taken htaken]
      exact ⟨hinv, Later.refl w⟩
    · rw [handle_createExecution htaken]
      exact keeps_begin hinv hpromise htaken
  | updateTask taskId updates userId ends =>
    obtain ⟨text, rfl⟩ := hpromise
    cases ends with
    | none => exact ⟨hinv, Later.refl w⟩
    | some executionId =>
      refine keeps_note hinv (fun _ => rfl) ?_
      rintro taskId' ⟨e, -, ⟨⟩⟩
  | execute executionId success =>
    obtain ⟨taskId, hown⟩ := hpromise
    refine keeps_note hinv (fun _ => rfl) ?_
    rintro taskId' ⟨e, he, ⟨⟩⟩
    obtain ⟨he, htask⟩ := mem_filter.mp he
    rw [← of_decide_eq_true htask, hown.unique he rfl]
    exact hown.1
  | updateExecution =>
    obtain ⟨hstatus, taskId, hown⟩ := hpromise
    exact keeps_updateExecution hinv hstatus hown
  | updateTaskExecutionStats =>
    obtain ⟨executionId, hown⟩ := hpromise
    exact keeps_updateStats hinv hown

theorem Shifts.later (hshifts : Shifts w w') : Later w w' ∧ ∀ taskId, Untouched w w' taskId := by
  obtain ⟨store, clock, log⟩ := w
  obtain ⟨store', clock', log'⟩ := w'
  obtain ⟨hstore, hlog, hclock⟩ := hshifts
  obtain rfl : store' = store := hstore
  obtain rfl : log' = log := hlog
  exact ⟨⟨hclock, fun _ => le_rfl, fun _ _ h => h, fun _ => rfl⟩,
    fun taskId => ⟨rfl, rfl, rfl, fun _ h => h, fun _ _ => Iff.rfl⟩⟩

theorem shifts_keeps (hinv : (taskTerms w₀).inv w) (hshifts : Shifts w w') :
    (taskTerms w₀).inv w' ∧ (taskTerms w₀).rel w w' :=
  keeps_of_later hinv hshifts.later.1 fun taskId => .inl (hshifts.later.2 taskId)

end Kept

/-! ### Programs -/

section Programs

variable {w₀ w : World} {taskId executionId : PyStr} {past : TaskPast} {α β : Type} {task : Task}

/-- A program keeps its promises, and ends as `Q` says. -/
abbrev TaskSound (w₀ : World) (Q : World → Prop) (p : TaskM α) (past : TaskPast) (w : World) :
    Prop :=
  p.Sound (taskTerms w₀) handle (fun _ _ _ => True) (fun _ w c => Promise w₀ w c)
    (fun _ _ w => Q w) past w

def Owned (w₀ : World) (taskId executionId : PyStr) (p : TaskM α) : Prop :=
  ∀ past w, Own w₀ w taskId executionId →
    TaskSound w₀ (fun w => Own w₀ w taskId executionId) p past w

theorem owned_ret (a : α) : Owned w₀ taskId executionId (Prog.ret a : TaskM α) :=
  fun _ _ h _ hrel _ => h.later hrel

theorem owned_raise (e : TaskError) : Owned w₀ taskId executionId (Prog.raise e : TaskM α) :=
  fun _ _ h _ hrel _ => h.later hrel

theorem owned_call {c : Call} {k : c.Reply → TaskM α}
    (hc : ∀ w, Own w₀ w taskId executionId → Promise w₀ w c)
    (hk : ∀ reply, Owned w₀ taskId executionId (k reply)) :
    Owned w₀ taskId executionId (Prog.call (I := TaskApi) c k) := by
  intro past w h w' hrel hinv
  have hown := h.later hrel
  refine ⟨hc w' hown, fun _ => hk _ _ _ ?_⟩
  exact hown.later (handle_keeps c hinv (hc w' hown)).2

theorem Owned.bind {p : TaskM α} {f : α → TaskM β} (hp : Owned w₀ taskId executionId p)
    (hf : ∀ a, Owned w₀ taskId executionId (f a)) : Owned w₀ taskId executionId (p >>= f) :=
  fun past w h => (hp past w h).bind (fun a past w h => hf a past w h) fun _ _ _ h => h

theorem Owned.tryCatch {p : TaskM α} {f : TaskError → TaskM α}
    (hp : Owned w₀ taskId executionId p) (hf : ∀ e, Owned w₀ taskId executionId (f e)) :
    Owned w₀ taskId executionId (Prog.tryCatch (ε := TaskError) p f) :=
  fun past w h => (hp past w h).tryCatch (fun _ _ _ h => h) fun e past w h => hf e past w h

theorem writeStatus_owned {status : TaskStatus} {ends : Option PyStr} :
    Owned w₀ taskId executionId (writeStatus taskId task status ends) :=
  owned_call (fun _ _ => ⟨task.userId, rfl⟩) fun _ => owned_ret ()

theorem updateTaskExecutionInfo_owned {result : ExecutionResult} :
    Owned w₀ taskId executionId (updateTaskExecutionInfo taskId result) :=
  owned_call (fun _ h => ⟨executionId, h⟩) fun _ => owned_ret ()

theorem executeTaskAsync_owned {r : ExecuteRequest} {execution : Execution} :
    Owned w₀ r.taskId execution.executionId (executeTaskAsync r task execution) := by
  have hupdate : ∀ result : ExecutionResult, ∀ w, Own w₀ w r.taskId execution.executionId →
      Promise w₀ w (.updateExecution execution.executionId result.updates) :=
    fun _ _ h => ⟨rfl, r.taskId, h⟩
  refine Owned.tryCatch (writeStatus_owned.bind fun _ => ?_) fun _ => ?_
  · split
    · exact owned_raise _
    · refine owned_call (fun _ h => ⟨r.taskId, h⟩) fun _ => ?_
      split
      · exact owned_raise _
      · refine owned_call (hupdate _) fun _ => ?_
        exact updateTaskExecutionInfo_owned.bind fun _ => writeStatus_owned
  · refine owned_call (hupdate _) fun _ => ?_
    exact updateTaskExecutionInfo_owned.bind fun _ => writeStatus_owned

variable {service : TaskService} {r : ExecuteRequest}

theorem checkTaskAccessPermission_sound {userId : PyStr} :
    TaskSound w₀ (fun _ => True) (checkTaskAccessPermission service taskId userId) past w := by
  intro w₁ _ _
  refine ⟨trivial, fun _ => ?_⟩
  dsimp only [Prog.bind]
  split
  · exact fun _ _ _ => trivial
  · split <;> exact fun _ _ _ => trivial

theorem checkExecutionLimits_sound :
    TaskSound w₀ (fun _ => True) (checkExecutionLimits service r) past w := by
  rw [checkExecutionLimits]
  split
  · exact fun _ _ _ => trivial
  · intro w₁ _ _
    refine ⟨trivial, fun _ => ?_⟩
    dsimp only [Prog.bind]
    split <;> exact fun _ _ _ => trivial

theorem isSome_of_taskOf {s : TaskStore} {userId : PyStr} (h : s.taskOf taskId userId = some task) :
    (s.tasks taskId).isSome := by
  rw [(filter_eq_some_iff.mp h).1]
  rfl

theorem executeTask_sound : TaskSound w₀ (fun _ => True) (executeTask service r) past w := by
  refine checkTaskAccessPermission_sound.bind (fun _ past w _ => ?_) fun _ _ _ h => h
  intro w₁ _ _
  refine ⟨trivial, fun _ => ?_⟩
  generalize htaskOf : (handle (.getTaskById r.taskId r.userId) w₁).1 = found
  cases found with
  | none => exact fun _ _ _ => trivial
  | some task =>
    dsimp only [Prog.bind]
    split
    · exact fun _ _ _ => trivial
    · have hlimits : TaskSound w₀ (fun _ => True) (checkExecutionLimits service r)
          ((w₁, .getTaskById r.taskId r.userId) :: past) w₁ := checkExecutionLimits_sound
      have hchecked := hlimits.frame (P := fun w => (w.store.tasks r.taskId).isSome)
        (isSome_of_taskOf htaskOf) (fun hlater => hlater.isSome)
        fun _ _ c hinv hpromise => (handle_keeps c hinv hpromise).2
      refine hchecked.bind (fun _ past w₂ htask => ?_) fun _ _ _ h => h.1
      intro w₃ hrel hinv
      have htask₃ : (w₃.store.tasks r.taskId).isSome := Later.isSome hrel htask.2
      refine ⟨htask₃, fun _ => ?_⟩
      by_cases htaken : ∃ e ∈ w₃.store.executions, e.executionId = r.executionId
      · rw [handle_createExecution_of_taken htaken]
        exact fun _ _ _ => trivial
      · rw [handle_createExecution htaken]
        exact (executeTaskAsync_owned _ _ (own_begin hinv htask₃ htaken)).mono
          fun _ _ _ _ => trivial

theorem serve_sound {request : Request} :
    TaskSound w₀ (fun _ => True) (request.serve service) past w := by
  cases request with
  | execute r =>
    exact executeTask_sound.bind (fun _ _ _ _ => fun _ _ _ => trivial) fun _ _ _ h => h
  | pending limit order => exact fun _ _ _ => ⟨trivial, fun _ _ _ _ => trivial⟩

end Programs

/-! ### Runs -/

section Runs

variable {ι : Type*} {service : TaskService} {requests : ι → Request} {w₀ w : World}
  {pool : TaskPool ι} {taskId : PyStr}

theorem allSound_start : Pool.AllSound (taskTerms w₀) handle (fun _ _ _ _ => True)
    (fun _ _ w c => Promise w₀ w c) (fun _ _ _ _ => True)
    (TaskPool.start service requests w₀) :=
  ⟨fun _ => .inl (Untouched.refl w₀), fun _ => serve_sound⟩

theorem terms_handle (_ : ι) (_ : TaskPast) (w : World) (c : Call)
    (hinv : (taskTerms w₀).inv w) (_ : True) (hpromise : Promise w₀ w c) :
    (taskTerms w₀).inv (handle c w).2 ∧ (taskTerms w₀).rel w (handle c w).2 :=
  handle_keeps c hinv hpromise

variable [DecidableEq ι]

theorem TaskRun.terms (hpool : TaskRun (TaskPool.start service requests w₀) pool) :
    (taskTerms w₀).inv pool.state ∧ Later w₀ pool.state := by
  have hsound := hpool.sound allSound_start (fun _ _ _ _ _ => trivial) terms_handle
    fun _ _ hinv hshifts => shifts_keeps hinv hshifts
  exact ⟨hsound.1, hpool.later allSound_start (fun _ _ _ _ _ => trivial) terms_handle
    fun _ _ hinv hshifts => shifts_keeps hinv hshifts⟩

theorem Untouched.recorded (h : Untouched w₀ w taskId) {task task₀ : Task}
    (hrecorded : Recorded w₀ taskId task₀) (hstats : task.stats = task₀.stats) :
    Recorded w taskId task := by
  obtain ⟨hrun, hstats⟩ := Prod.mk.inj hstats
  obtain ⟨hsuccess, hstats⟩ := Prod.mk.inj hstats
  obtain ⟨hfailure, hstats⟩ := Prod.mk.inj hstats
  obtain ⟨htotal, hcredits⟩ := Prod.mk.inj hstats
  have hcount : (w.executionsOf taskId).countP (fun e => w.Succeeded e) =
      (w₀.executionsOf taskId).countP fun e => w₀.Succeeded e := by
    rw [h.executions]
    exact countP_congr fun e he => by simpa using h.succeeded e he
  refine ⟨fun e he => ?_, ?_, ?_, ?_, ?_⟩
  · rw [h.executions] at he
    rw [hrecorded.status e he]
    simp only [h.succeeded e he]
  · rw [hrun, hsuccess, hfailure, hrecorded.runCount]
  · rw [hrun, h.executions, hrecorded.executions]
  · rw [hsuccess, hcount, hrecorded.successCount]
  · rw [htotal, hcredits, hcount, hrecorded.totalCredits]

theorem Begun.not_recorded (h : Begun w₀ w taskId) {task : Task} :
    ¬Recorded w taskId task := by
  intro hrecorded
  obtain ⟨executionId, e, he, -, htask, hrunning⟩ := h.running
  have hstatus := hrecorded.status e (mem_filter.mpr ⟨he, decide_eq_true htask⟩)
  rw [hrunning] at hstatus
  split at hstatus <;> cases hstatus

/-- **The runs of a task are exclusive and recorded just until one has ended**: none has started
since, or one is in progress. -/
theorem tasks_recorded_iff (service : TaskService) (requests : ι → Request) (w₀ : World)
    (taskId : PyStr) (hrest : ∀ x, ¬w₀.InProgress taskId x)
    (hrecorded : ∀ task ∈ w₀.store.tasks taskId, Recorded w₀ taskId task) (pool : TaskPool ι)
    (hpool : TaskRun (TaskPool.start service requests w₀) pool) :
    Lawful pool.state taskId ↔ Undecided w₀ pool.state taskId := by
  obtain ⟨hinv, -⟩ := TaskRun.terms hpool
  constructor
  · intro hlawful
    rcases hinv taskId with huntouched | hbegun
    · exact .inl huntouched.starts
    · obtain ⟨task, htask⟩ := isSome_iff_exists.mp hbegun.task
      have hbusy : ∃ x, pool.state.InProgress taskId x := by
        by_contra hnone
        rw [not_exists] at hnone
        exact hbegun.not_recorded (hlawful.recorded hnone task htask)
      obtain ⟨x, hx⟩ := hbusy
      refine .inr ⟨x, fun y => ⟨fun hy => hlawful.exclusive y x hy hx, ?_⟩⟩
      rintro rfl
      exact hx
  · rintro (hstarts | ⟨x, hx⟩)
    · rcases hinv taskId with huntouched | hbegun
      · refine ⟨fun x _ h => absurd (huntouched.inProgress x h) (hrest x), fun _ task htask => ?_⟩
        have hstats := huntouched.stats
        rw [show pool.state.store.tasks taskId = some task from htask] at hstats
        obtain ⟨task₀, htask₀, hstats⟩ := map_eq_some_iff.mp hstats.symm
        exact huntouched.recorded (hrecorded task₀ htask₀) hstats.symm
      · exact absurd hstarts (Nat.ne_of_gt hbegun.starts ∘ congrArg length)
    · refine ⟨fun y z hy hz => ((hx y).mp hy).trans ((hx z).mp hz).symm, fun hnone => ?_⟩
      exact absurd ((hx x).mpr rfl) (hnone x)

end Runs

/-! ### One run -/

def oneTask : World where
  store :=
    { tasks := fun id => if id = ['t'] then
        some { userId := ['u'], taskType := .custom, status := .scheduled, creditsPerRun := 2 }
      else none
      executions := []
      unique := List.nodup_nil }
  clock := 0
  log := []

def openService : TaskService where
  allowed _ _ := true
  subscriptionLevel _ := none

def runTwice (i : Fin 2) : Request :=
  .execute
    { taskId := ['t'], userId := ['u'], executionId := if i = 0 then ['x'] else ['y']
      outcome := .ok (.dict []) }

/-- The requests of `runTwice`, in some order. -/
def runs (order : List (Fin 2)) : TaskPool (Fin 2) :=
  (TaskPool.start openService runTwice oneTask).schedule handle order

theorem runs_reached (order : List (Fin 2)) :
    TaskRun (TaskPool.start openService runTwice oneTask) (runs order) :=
  Pool.Reach.start.schedule (Pool.permitted_anyCall _ _ _)

theorem rest_oneTask : (∀ x, ¬oneTask.InProgress ['t'] x) ∧
    ∀ task ∈ oneTask.store.tasks ['t'], Recorded oneTask ['t'] task := by
  refine ⟨fun x h => not_mem_nil h.1, fun task htask => ?_⟩
  obtain rfl := some.inj htask
  refine ⟨fun e he => absurd he not_mem_nil, rfl, rfl, rfl, ?_⟩
  exact (zero_mul _).symm

/-- One run that has ended is not recorded, and another starts before it has ended. -/
theorem not_tasks_recorded :
    TaskRun (TaskPool.start openService runTwice oneTask) (runs [0, 0, 0, 0, 0, 0, 0, 0, 0]) ∧
      (∀ x, ¬(runs [0, 0, 0, 0, 0, 0, 0, 0, 0]).state.InProgress ['t'] x) ∧
      ¬Lawful (runs [0, 0, 0, 0, 0, 0, 0, 0, 0]).state ['t'] ∧
      (runs [0, 0, 0, 0, 1, 1, 1, 1]).state.InProgress ['t'] ['x'] ∧
      (runs [0, 0, 0, 0, 1, 1, 1, 1]).state.InProgress ['t'] ['y'] := by
  have hended : ∀ x, ¬(runs [0, 0, 0, 0, 0, 0, 0, 0, 0]).state.InProgress ['t'] x := by
    have hlog : (runs [0, 0, 0, 0, 0, 0, 0, 0, 0]).state.log =
        [.finished ['t'] ['x'] 0, .executed ['x'] true, .started ['t'] ['x']] := by
      decide +kernel
    intro x hx
    rw [InProgress, hlog] at hx
    obtain ⟨hstarted, hunfinished⟩ := hx
    obtain rfl : x = ['x'] := by simpa using hstarted
    exact hunfinished 0 mem_cons_self
  have hlog : (runs [0, 0, 0, 0, 1, 1, 1, 1]).state.log =
      [.started ['t'] ['y'], .started ['t'] ['x']] := by
    decide +kernel
  refine ⟨runs_reached _, hended, fun h => ?_, ?_, ?_⟩
  · have hrunning : ∃ e ∈ (runs [0, 0, 0, 0, 0, 0, 0, 0, 0]).state.executionsOf ['t'],
        e.status = .running := ⟨_, mem_cons_self, rfl⟩
    obtain ⟨e, he, hrunning⟩ := hrunning
    have hstatus := (h.recorded hended _ rfl).status e he
    rw [hrunning] at hstatus
    split at hstatus <;> cases hstatus
  · rw [InProgress, hlog]
    simp
  · rw [InProgress, hlog]
    simp

/-- One run is in progress. -/
theorem tasks_recorded_iff_atWork : Lawful (runs [0, 0, 0, 0]).state ['t'] := by
  have hlog : (runs [0, 0, 0, 0]).state.log = [.started ['t'] ['x']] := by decide +kernel
  refine (tasks_recorded_iff openService runTwice oneTask ['t'] rest_oneTask.1 rest_oneTask.2
    _ (runs_reached _)).mpr (.inr ⟨['x'], fun y => ?_⟩)
  rw [InProgress, hlog]
  simp

end IsaUser.Tasks
