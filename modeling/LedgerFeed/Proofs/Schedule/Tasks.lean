import LedgerFeed.Schedule.Machine

namespace LedgerFeed.Schedule

variable {φ : Type} {schedule : Schedule φ}

theorem complete_tasks (schedule : Schedule φ) (future : Nat) (outcome : Outcome) :
    (schedule.complete future outcome).tasks = schedule.tasks := by
  unfold complete
  split <;> rfl

theorem whenDone_tasks (schedule : Schedule φ) (future : Nat) (callback : Callback) :
    (schedule.whenDone future callback).tasks = schedule.tasks := by
  unfold whenDone
  split <;> rfl

theorem watch_tasks (future : Nat) (tasks : List Nat) (schedule : Schedule φ) :
    (tasks.foldl (fun schedule task =>
      schedule.whenDone (schedule.taskFuture task) (.gathered future task)) schedule).tasks =
        schedule.tasks := by
  induction tasks generalizing schedule with
  | nil => rfl
  | cons task rest ih => rw [List.foldl_cons, ih, whenDone_tasks]

theorem spawn_all (children : List (List φ)) (schedule : Schedule φ) (earlier : List Nat) :
    let spawned := children.foldl (fun (schedule, tasks) frames =>
      let (schedule, task) := spawn schedule frames
      (schedule, tasks ++ [task])) (schedule, earlier)
    spawned.2 = earlier ++ List.range' schedule.tasks.size children.length ∧
      spawned.1.tasks.toList.map (·.frames) = schedule.tasks.toList.map (·.frames) ++ children := by
  -- On the computations, for any schedule and any tasks before theirs.
  induction children generalizing schedule earlier with
  | nil => simp
  | cons frames rest ih =>
      obtain ⟨numbers, running⟩ := ih (schedule.spawn frames).1 (earlier ++ [schedule.tasks.size])
      refine ⟨numbers.trans ?_, running.trans ?_⟩
      · simp [spawn, newFuture, List.range'_succ]
      · simp [spawn, newFuture]

theorem gather_starts (schedule : Schedule φ) (children : List (List φ)) (keepsFaults : Bool) :
    let gathered := schedule.gather children keepsFaults
    gathered.2.1 = List.range' schedule.tasks.size children.length ∧
      gathered.1.tasks.toList.map (·.frames) = schedule.tasks.toList.map (·.frames) ++ children := by
  obtain ⟨numbers, running⟩ := spawn_all children schedule []
  rw [List.nil_append] at numbers
  unfold gather
  generalize children.foldl _ (schedule, []) = spawned at numbers running
  obtain ⟨spawned, tasks⟩ := spawned
  dsimp only at numbers running ⊢
  split
  · exact ⟨numbers, by rw [complete_tasks, watch_tasks]; exact running⟩
  · exact ⟨numbers, by rw [watch_tasks]; exact running⟩

theorem complete_outcome {future : Nat} (known : future < schedule.futures.size)
    (pending : schedule.isDone future = false) (outcome : Outcome) :
    (schedule.complete future outcome).outcome? future = some outcome := by
  have there := Array.getElem?_eq_getElem known
  cases held : schedule.futures[future] with
  | mk kind found stopping callbacks =>
      rw [held] at there
      rw [isDone, outcome?, there] at pending
      cases found with
      | some _ => cases pending
      | none =>
          rw [complete, there, outcome?, Array.getElem?_setIfInBounds_self_of_lt known]
          rfl

end LedgerFeed.Schedule

namespace LedgerFeed.Machine

variable {α σ : Type} {machine : Machine α σ} {task : Nat}

theorem endTask_outcome {ending : Task (Frame α)} (found : machine.schedule.tasks[task]? = some ending)
    (known : ending.future < machine.schedule.futures.size)
    (pending : machine.schedule.isTaskDone task = false) (unasked : ending.cancelRequested = false)
    (outcome : Outcome) :
    (machine.endTask task outcome).schedule.taskOutcome? task = some outcome := by
  simp only [Schedule.isTaskDone, Schedule.taskOutcome?, Schedule.taskFuture, found] at pending
  have completed := @Schedule.complete_outcome _ { machine.schedule with active := none } _ known
    pending outcome
  simp only [endTask, found, unasked, withSchedule, Schedule.taskOutcome?,
    Schedule.taskFuture, Schedule.complete_tasks]
  cases outcome <;> exact completed

end LedgerFeed.Machine
