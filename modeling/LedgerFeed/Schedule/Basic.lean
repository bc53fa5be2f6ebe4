import LedgerFeed.Fault

/-!
# Schedules

Tasks take turns on one thread and one clock. A task is a stack of frames: the top frame runs until
it waits for a future, and its outcome goes to the frame below. What is due runs in the order in
which it became due, and the clock moves only when nothing is. Cancelling a task cancels what it
waits for, or marks the task so that its next turn is the cancellation.
-/

namespace LedgerFeed

inductive Stop
  | fault (fault : Fault)
  | cancelled

inductive Reply
  | nothing
  | flag (b : Bool)
  | count (n : Nat)
  | message (channel payload : Value)
  | ended
  | tasks (names : List Nat)

abbrev Outcome := Except Stop Reply

def Outcome.nothing : Outcome := .ok .nothing

inductive Callback
  | begin (task : Nat)
  | wake (task future : Nat)
  | settle (future : Nat)
  | gathered (gathering child : Nat)
  | post

inductive FutureKind
  | plain
  | ofTask (task : Nat)
  /-- The end of several tasks, some of which have not been reported yet. If it keeps faults, they
  count as results. -/
  | ofTasks (tasks : List Nat) (keepsFaults : Bool) (unreported : Nat)

structure Future where
  kind : FutureKind
  outcome? : Option Outcome
  stopping : Bool
  callbacks : List Callback

structure Task (φ : Type) where
  frames : List φ
  started : Bool
  waiting : Option Nat
  cancelRequested : Bool
  future : Nat

structure Timer where
  due : Rat
  future : Nat

structure Schedule (φ : Type) where
  clock : Rat
  ready : List Callback
  timers : List Timer
  futures : Array Future
  tasks : Array (Task φ)
  active : Option (Nat × Outcome)

namespace Schedule

variable {φ : Type}

def empty : Schedule φ := ⟨0, [], [], #[], #[], none⟩

/-! ## Futures -/

def newFuture (schedule : Schedule φ) (kind : FutureKind) : Schedule φ × Nat :=
  ({ schedule with futures := schedule.futures.push ⟨kind, none, false, []⟩ },
    schedule.futures.size)

def outcome? (schedule : Schedule φ) (future : Nat) : Option Outcome :=
  (schedule.futures[future]?).bind (·.outcome?)

def isDone (schedule : Schedule φ) (future : Nat) : Bool := (schedule.outcome? future).isSome

def enqueue (schedule : Schedule φ) (callback : Callback) : Schedule φ :=
  { schedule with ready := schedule.ready ++ [callback] }

def complete (schedule : Schedule φ) (future : Nat) (outcome : Outcome) : Schedule φ :=
  match schedule.futures[future]? with
  | some ⟨kind, none, stopping, callbacks⟩ =>
      { schedule with
        futures := schedule.futures.setIfInBounds future ⟨kind, some outcome, stopping, []⟩
        ready := schedule.ready ++ callbacks }
  | _ => schedule

def whenDone (schedule : Schedule φ) (future : Nat) (callback : Callback) : Schedule φ :=
  if schedule.isDone future then
    schedule.enqueue callback
  else
    { schedule with
      futures := schedule.futures.modify future fun f =>
        { f with callbacks := f.callbacks ++ [callback] } }

def Callback.settles (future : Nat) : Callback → Bool
  | .settle other => other = future
  | _ => false

def forget (schedule : Schedule φ) (future settled : Nat) : Schedule φ :=
  { schedule with
    futures := schedule.futures.modify future fun f =>
      { f with
        callbacks := f.callbacks.filter fun callback => !(Callback.settles settled callback) } }

/-! ## Timers -/

def insertTimer (timer : Timer) : List Timer → List Timer
  | [] => [timer]
  | first :: rest =>
      if timer.due < first.due then timer :: first :: rest else first :: insertTimer timer rest

def setTimer (schedule : Schedule φ) (future : Nat) (length : Option Rat) : Schedule φ :=
  match length with
  | some length =>
      { schedule with timers := insertTimer ⟨schedule.clock + length, future⟩ schedule.timers }
  | none => schedule

def clearTimer (schedule : Schedule φ) (future : Nat) : Schedule φ :=
  { schedule with timers := schedule.timers.filter fun timer => timer.future ≠ future }

def moveClock (schedule : Schedule φ) (instant : Rat) : Schedule φ :=
  let (due, later) := schedule.timers.partition fun timer => timer.due ≤ instant
  { schedule with
    clock := instant
    timers := later
    ready := schedule.ready ++ due.map fun timer => .settle timer.future }

/-! ## Tasks -/

def spawn (schedule : Schedule φ) (frames : List φ) : Schedule φ × Nat :=
  let task := schedule.tasks.size
  let (schedule, future) := schedule.newFuture (.ofTask task)
  ({ schedule with
      tasks := schedule.tasks.push ⟨frames, false, none, false, future⟩
      ready := schedule.ready ++ [.begin task] },
    task)

def taskFuture (schedule : Schedule φ) (task : Nat) : Nat :=
  match schedule.tasks[task]? with
  | some t => t.future
  | none => schedule.futures.size

def taskOutcome? (schedule : Schedule φ) (task : Nat) : Option Outcome :=
  schedule.outcome? (schedule.taskFuture task)

def isTaskDone (schedule : Schedule φ) (task : Nat) : Bool := (schedule.taskOutcome? task).isSome

def modifyTask (schedule : Schedule φ) (task : Nat) (change : Task φ → Task φ) : Schedule φ :=
  { schedule with tasks := schedule.tasks.modify task change }

/-- Cancels a future; whether it could be cancelled. The rounds bound the chain of what waits for
what. -/
def cancelWithin : Nat → Schedule φ → Nat → Schedule φ × Bool
  | 0, schedule, _ => (schedule, false)
  | rounds + 1, schedule, future =>
      match schedule.futures[future]? with
      | some ⟨kind, none, _, _⟩ =>
          match kind with
          | .plain => (schedule.complete future (.error .cancelled), true)
          | .ofTask task =>
              let (schedule, cancelled) :=
                match (schedule.tasks[task]?).bind (·.waiting) with
                | some awaited => cancelWithin rounds schedule awaited
                | none => (schedule, false)
              if cancelled then
                (schedule, true)
              else
                (schedule.modifyTask task fun t => { t with cancelRequested := true }, true)
          | .ofTasks tasks _ _ =>
              let (schedule, cancelled) := tasks.foldl (fun (schedule, cancelled) task =>
                let (schedule, one) := cancelWithin rounds schedule (schedule.taskFuture task)
                (schedule, cancelled || one)) (schedule, false)
              if cancelled then
                let futures :=
                  schedule.futures.modify future fun f => { f with stopping := true }
                ({ schedule with futures := futures }, true)
              else
                (schedule, false)
      | _ => (schedule, false)

def cancelFuture (schedule : Schedule φ) (future : Nat) : Schedule φ × Bool :=
  cancelWithin (schedule.futures.size + 1) schedule future

def cancelTask (schedule : Schedule φ) (task : Nat) : Schedule φ :=
  (schedule.cancelFuture (schedule.taskFuture task)).1

/-! ## Gatherings -/

/-- Starts several tasks in order, with a future for the end of all of them. -/
def gather (schedule : Schedule φ) (children : List (List φ)) (keepsFaults : Bool) :
    Schedule φ × List Nat × Nat :=
  let (schedule, tasks) := children.foldl (fun (schedule, tasks) frames =>
    let (schedule, task) := spawn schedule frames
    (schedule, tasks ++ [task])) (schedule, [])
  let (schedule, future) := schedule.newFuture (.ofTasks tasks keepsFaults tasks.length)
  let schedule := tasks.foldl (fun schedule task =>
    schedule.whenDone (schedule.taskFuture task) (.gathered future task)) schedule
  if tasks.isEmpty then
    (schedule.complete future .nothing, tasks, future)
  else
    (schedule, tasks, future)

def childDone (schedule : Schedule φ) (gathering child : Nat) : Schedule φ :=
  match schedule.futures[gathering]?, schedule.taskOutcome? child with
  | some ⟨.ofTasks tasks keepsFaults unreported, none, stopping, callbacks⟩, some outcome =>
      let reported : Future :=
        ⟨.ofTasks tasks keepsFaults (unreported - 1), none, stopping, callbacks⟩
      let schedule :=
        { schedule with futures := schedule.futures.setIfInBounds gathering reported }
      match outcome, keepsFaults with
      | .error stop, false => schedule.complete gathering (.error stop)
      | _, _ =>
          if unreported ≤ 1 then
            schedule.complete gathering
              (if stopping then Except.error Stop.cancelled else Outcome.nothing)
          else
            schedule
  | _, _ => schedule

end Schedule

end LedgerFeed
