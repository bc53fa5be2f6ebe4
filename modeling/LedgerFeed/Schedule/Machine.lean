import LedgerFeed.Schedule.Basic

namespace LedgerFeed

inductive Frame (α : Type)
  | pause (length : Option Rat) (isPositive : Bool)
  | paused (future : Nat)
  | yielded
  /-- Runs a computation of its own task for at most some milliseconds. -/
  | limit (length : Option Rat) (isPositive : Bool) (body : List (Frame α))
  | limited (waiter child : Nat)
  | cutting (waiter child : Nat) (expired : Bool)
  | gather (children : List (List (Frame α))) (keepsFaults : Bool)
  | gathered (tasks : List Nat)
  | await (future : Nat)
  | awaited
  | app (frame : α)

/-- What a frame does when it has had its turn. -/
inductive Move (α : Type)
  | finish (outcome : Outcome)
  | call (frames : List (Frame α))
  | wait (frame : Frame α) (future : Nat)
  | yield (frame : Frame α)

structure Machine (α σ : Type) where
  schedule : Schedule (Frame α)
  state : σ

structure Programs (α σ : Type) where
  resume : α → Outcome → Machine α σ → Machine α σ × Move α
  post : Machine α σ → Machine α σ

def expiry : Fault := .raised ⟨"TimeoutError", false, none⟩

namespace Schedule

variable {α : Type}

def cut (schedule : Schedule (Frame α)) (child : Nat) (expired : Bool) :
    Schedule (Frame α) × Move α :=
  let (schedule, waiter) := schedule.newFuture .plain
  let schedule := schedule.whenDone (schedule.taskFuture child) (.settle waiter)
  let schedule := schedule.cancelTask child
  (schedule, .wait (.cutting waiter child expired) waiter)

def outcomeOf (schedule : Schedule (Frame α)) (task : Nat) : Outcome :=
  (schedule.taskOutcome? task).getD (.error .cancelled)

def resumeLimited (schedule : Schedule (Frame α)) (waiter child : Nat) (outcome : Outcome) :
    Schedule (Frame α) × Move α :=
  let schedule := schedule.clearTimer waiter
  if schedule.isTaskDone child then
    (schedule, .finish (schedule.outcomeOf child))
  else
    let schedule := schedule.forget (schedule.taskFuture child) waiter
    match outcome with
    | .ok _ => schedule.cut child true
    | .error _ => schedule.cut child false

def resume (schedule : Schedule (Frame α)) (frame : Frame α) (outcome : Outcome) :
    Schedule (Frame α) × Move α :=
  match frame with
  | .pause length isPositive =>
      if isPositive then
        let (schedule, future) := schedule.newFuture .plain
        (schedule.setTimer future length, .wait (.paused future) future)
      else
        (schedule, .yield .yielded)
  | .paused future => (schedule.clearTimer future, .finish outcome)
  | .limit length isPositive body =>
      if isPositive then
        let (schedule, waiter) := schedule.newFuture .plain
        let schedule := schedule.setTimer waiter length
        let (schedule, child) := schedule.spawn body
        let schedule := schedule.whenDone (schedule.taskFuture child) (.settle waiter)
        (schedule, .wait (.limited waiter child) waiter)
      else
        let (schedule, child) := schedule.spawn body
        schedule.cut child true
  | .limited waiter child => schedule.resumeLimited waiter child outcome
  | .cutting waiter child expired =>
      let schedule := schedule.forget (schedule.taskFuture child) waiter
      match outcome, expired with
      | .error stop, _ => (schedule, .finish (.error stop))
      | .ok _, false => (schedule, .finish (.error .cancelled))
      | .ok _, true =>
          match schedule.outcomeOf child with
          | .error .cancelled => (schedule, .finish (.error (.fault expiry)))
          | outcome => (schedule, .finish outcome)
  | .gather children keepsFaults =>
      let (schedule, tasks, future) := schedule.gather children keepsFaults
      (schedule, .wait (.gathered tasks) future)
  | .gathered tasks => (schedule, .finish (outcome.map fun _ => .tasks tasks))
  | .await future => (schedule, .wait .awaited future)
  | _ => (schedule, .finish outcome)

end Schedule

namespace Machine

variable {α σ : Type}

def withSchedule (machine : Machine α σ) (schedule : Schedule (Frame α)) : Machine α σ :=
  { machine with schedule := schedule }

def resume (programs : Programs α σ) (machine : Machine α σ) (frame : Frame α) (outcome : Outcome) :
    Machine α σ × Move α :=
  match frame with
  | .app frame => programs.resume frame outcome machine
  | frame =>
      let (schedule, move) := machine.schedule.resume frame outcome
      (machine.withSchedule schedule, move)

def endTask (machine : Machine α σ) (task : Nat) (outcome : Outcome) : Machine α σ :=
  let requested := match machine.schedule.tasks[task]? with
    | some t => t.cancelRequested
    | none => false
  let outcome := match outcome, requested with
    | .ok _, true => .error .cancelled
    | outcome, _ => outcome
  machine.withSchedule
    ({ machine.schedule with active := none }.complete (machine.schedule.taskFuture task) outcome)

def suspend (schedule : Schedule (Frame α)) (task future : Nat) : Schedule (Frame α) :=
  let requested := match schedule.tasks[task]? with
    | some t => t.cancelRequested
    | none => false
  let schedule := { schedule with active := none }
  let schedule := schedule.modifyTask task fun t => { t with waiting := some future }
  let schedule := schedule.whenDone future (.wake task future)
  if requested then
    let (schedule, cancelled) := schedule.cancelFuture future
    if cancelled then schedule.modifyTask task fun t => { t with cancelRequested := false }
    else schedule
  else
    schedule

def push (schedule : Schedule (Frame α)) (task : Nat) (frames : List (Frame α)) :
    Schedule (Frame α) :=
  schedule.modifyTask task fun t => { t with frames := frames ++ t.frames }

def follow (machine : Machine α σ) (task : Nat) (move : Move α) : Machine α σ :=
  let schedule := machine.schedule
  match move with
  | .finish outcome => machine.withSchedule { schedule with active := some (task, outcome) }
  | .call frames =>
      machine.withSchedule { push schedule task frames with active := some (task, .nothing) }
  | .wait frame future =>
      let schedule := push schedule task [frame]
      match schedule.outcome? future with
      | some outcome => machine.withSchedule { schedule with active := some (task, outcome) }
      | none => machine.withSchedule (suspend schedule task future)
  | .yield frame =>
      let schedule := push schedule task [frame]
      machine.withSchedule ({ schedule with active := none }.enqueue (.begin task))

def activate (machine : Machine α σ) (task : Nat) (outcome : Outcome) : Machine α σ :=
  match machine.schedule.tasks[task]? with
  | none => machine
  | some t =>
      let outcome := if t.cancelRequested then .error .cancelled else outcome
      let frames := if t.started || !t.cancelRequested then t.frames else []
      let schedule := machine.schedule.modifyTask task fun t =>
        { t with frames := frames, started := true, waiting := none, cancelRequested := false }
      machine.withSchedule { schedule with active := some (task, outcome) }

def fire (programs : Programs α σ) (machine : Machine α σ) (callback : Callback) : Machine α σ :=
  match callback with
  | .begin task => machine.activate task .nothing
  | .wake task future =>
      machine.activate task ((machine.schedule.outcome? future).getD .nothing)
  | .settle future => machine.withSchedule (machine.schedule.complete future .nothing)
  | .gathered gathering child =>
      machine.withSchedule (machine.schedule.childDone gathering child)
  | .post => programs.post machine

def stepTask (programs : Programs α σ) (machine : Machine α σ) (task : Nat) (outcome : Outcome) :
    Machine α σ :=
  match (machine.schedule.tasks[task]?).map (·.frames) with
  | some (frame :: rest) =>
      let machine := machine.withSchedule
        (machine.schedule.modifyTask task fun t => { t with frames := rest })
      let (machine, move) := machine.resume programs frame outcome
      machine.follow task move
  | _ => machine.endTask task outcome

def step (programs : Programs α σ) (machine : Machine α σ) : Option (Machine α σ) :=
  match machine.schedule.active, machine.schedule.ready with
  | some (task, outcome), _ => some (machine.stepTask programs task outcome)
  | none, callback :: rest =>
      let machine := { machine with schedule := { machine.schedule with ready := rest } }
      some (machine.fire programs callback)
  | none, [] => none

def settle (programs : Programs α σ) : Nat → Machine α σ → Machine α σ
  | 0, machine => machine
  | fuel + 1, machine =>
      match machine.step programs with
      | some machine => machine.settle programs fuel
      | none => machine

def nextDue? (machine : Machine α σ) : Option Rat := machine.schedule.timers.head?.map (·.due)

def moveClock (machine : Machine α σ) (instant : Rat) : Machine α σ :=
  machine.withSchedule (machine.schedule.moveClock instant)

def runUntil (programs : Programs α σ) (effort : Nat) (instant : Rat) :
    Nat → Machine α σ → Machine α σ
  | 0, machine => machine
  | fuel + 1, machine =>
      let machine := machine.settle programs effort
      match machine.nextDue? with
      | some due =>
          if due ≤ instant then (machine.moveClock due).runUntil programs effort instant fuel
          else machine.moveClock instant
      | none => machine.moveClock instant

def runTask (programs : Programs α σ) (effort : Nat) (task : Nat) :
    Nat → Machine α σ → Machine α σ
  | 0, machine => machine
  | fuel + 1, machine =>
      let machine := machine.settle programs effort
      if machine.schedule.isTaskDone task then
        machine
      else
        match machine.nextDue? with
        | some due => (machine.moveClock due).runTask programs effort task fuel
        | none => machine

end Machine

end LedgerFeed
