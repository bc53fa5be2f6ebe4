import LedgerFeed.Proofs.Gateway.Traffic
import LedgerFeed.Proofs.Schedule.Tasks
import LedgerFeed.Rehearsal.Programs

/-!
# The stacks of a broadcaster's calls

In a rehearsal a call on the broadcaster is a stack of acts of some task. A turn of one of them is a
step of `Traffic`, and what the act goes on with is what `Traffic` has left of the call.
-/

namespace LedgerFeed

open Rehearsal (Act Rig)

/-! ## Moves -/

def Broadcaster.Delivery.move (deadline : Seconds) (client : ConnectionName) (frame : Text) :
    Broadcaster.Delivery → Move Act
  | .checking => .finish (.ok .nothing)
  | .sending =>
      .call [.limit deadline.milliseconds? deadline.isPositive [.app (.send client frame)],
        .app (.deliver client frame .sending)]
  | .closing => .call [.app (.close client), .app (.deliver client frame .closing)]
  | .over delivered => .finish (.ok (.flag delivered))

namespace FanOut

def deliveries (fanOut : FanOut) : List (List (Frame Act)) :=
  fanOut.dispatches.map fun dispatch =>
    [.app (.deliver dispatch.client fanOut.frame dispatch.point)]

def begin (fanOut : FanOut) : Move Act :=
  if fanOut.dispatches.isEmpty then .finish (.ok (.count 0))
  else .call [.gather fanOut.deliveries false, .app .countDelivered]

def Ended (fanOut : FanOut) (rig : Rig) (tasks : List Nat) : Prop :=
  List.Forall₂ (fun task dispatch => ∃ outcome,
    dispatch.point.move rig.state.sendTimeout dispatch.client fanOut.frame = .finish outcome ∧
      rig.schedule.taskOutcome? task = some outcome) tasks fanOut.dispatches

def Returns (fanOut : FanOut) (count : Nat) : Prop :=
  ∀ rig tasks, fanOut.Ended rig tasks →
    Rig.resume .countDelivered (.ok (.tasks tasks)) rig = rig.ok (.count count)

end FanOut

def Traffic.sweep (count : Nat) : List ConnectionName → Move Rehearsal.Act
  | [] => .finish (.ok (.count count))
  | client :: rest => .call [.app (.close client), .app (.closingAll rest count)]

/-! ## Turns -/

namespace Rehearsal.Rig

structure Shares (rig : Rig) (traffic : Traffic) : Prop where
  broadcaster : rig.state.broadcaster = traffic.broadcaster
  sendTimeout : rig.state.sendTimeout = traffic.sendTimeout

variable {rig : Rig} {traffic : Traffic} {client : ConnectionName} {frame : Text}
  {outcome : Outcome}

theorem Shares.say (shares : rig.Shares traffic) (logs : Logs) : (rig.say logs).Shares traffic :=
  ⟨shares.broadcaster, shares.sendTimeout⟩

theorem register_turn (shares : rig.Shares traffic) (client : ConnectionName) (filter : Value)
    (reply : Reply) :
    (resume (.perform (.register client filter)) (.ok reply) rig).1.Shares
      (traffic.register client filter) := by
  simp only [resume, perform, register, Traffic.register]
  cases filter.channelFilter with
  | error fault => exact shares
  | ok channels => exact ⟨by rw [← shares.broadcaster]; rfl, shares.sendTimeout⟩

theorem unregister_turn (shares : rig.Shares traffic) (client : ConnectionName) (reply : Reply) :
    let turn := resume (.perform (.unregister client)) (.ok reply) rig
    turn.1.Shares (traffic.unregister client) ∧
      turn.2 = .finish (.ok (.flag (traffic.broadcaster.unregister client).2)) := by
  rw [← shares.broadcaster]
  exact ⟨⟨by rw [Traffic.unregister, ← shares.broadcaster]; rfl, shares.sendTimeout⟩, rfl⟩

theorem broadcast_moves (rig : Rig) (channel data : Value) : rig.broadcast channel data =
    match Broadcaster.frame channel data with
    | .error fault => rig.fault fault
    | .ok (known, frame) =>
        (rig.setBroadcaster (rig.state.broadcaster.snapshot known).1 [],
          (FanOut.start frame (rig.state.broadcaster.snapshot known).2).begin) := by
  unfold broadcast
  cases Broadcaster.frame channel data with
  | error fault => rfl
  | ok framed =>
      simp only [FanOut.start, FanOut.begin, FanOut.deliveries, List.isEmpty_map, List.map_map]
      split <;> rfl

theorem broadcast_turn (shares : rig.Shares traffic) (channel data : Value) (reply : Reply) :
    let turn := resume (.broadcast channel data) (.ok reply) rig
    turn.1.Shares (traffic.broadcast channel data) ∧
      match Broadcaster.frame channel data with
      | .error fault => turn = rig.fault fault
      | .ok (known, frame) =>
          turn.2 = (FanOut.start frame (traffic.broadcaster.snapshot known).2).begin := by
  simp only [resume, broadcast_moves, Traffic.broadcast, ← shares.broadcaster]
  cases Broadcaster.frame channel data with
  | error fault => exact ⟨shares, rfl⟩
  | ok framed => exact ⟨⟨rfl, shares.sendTimeout⟩, rfl⟩

theorem deliver_moves {point next : Broadcaster.Delivery} {conduct : Broadcaster.Conduct}
    {broadcaster : Broadcaster} {logs : Logs}
    (told : rig.conduct? client point outcome = some conduct)
    (proceeds : rig.state.broadcaster.proceed client rig.state.sendTimeout point conduct =
      some (broadcaster, next, logs)) (frame : Text) :
    resume (.deliver client frame point) outcome rig =
      (rig.setBroadcaster broadcaster logs, next.move rig.state.sendTimeout client frame) := by
  simp only [resume, deliver, told, Option.bind_some, proceeds]
  cases next <;> rfl

theorem deliver_cases (rig : Rig) (dispatch : Dispatch) (frame : Text) (outcome : Outcome) :
    let turn := resume (.deliver dispatch.client frame dispatch.point) outcome rig
    turn = rig.finish outcome ∨ ∃ conduct broadcaster next logs,
      rig.conduct? dispatch.client dispatch.point outcome = some conduct ∧
      dispatch.step rig.state.broadcaster rig.state.sendTimeout (.does conduct) =
        some (broadcaster, next) ∧
      turn = (rig.setBroadcaster broadcaster logs,
        next.point.move rig.state.sendTimeout dispatch.client frame) := by
  -- A turn that is told of nothing it waits for passes on what it is told.
  cases told : rig.conduct? dispatch.client dispatch.point outcome with
  | none => simp only [resume, deliver, told, Option.bind_none, true_or]
  | some conduct =>
      cases proceeds : rig.state.broadcaster.proceed dispatch.client rig.state.sendTimeout
          dispatch.point conduct with
      | none => simp only [resume, deliver, told, Option.bind_some, proceeds, true_or]
      | some moved =>
          exact .inr ⟨conduct, _, _, _, rfl, Dispatch.step_does proceeds,
            deliver_moves told proceeds frame⟩

theorem deliver_turn (shares : rig.Shares traffic) {earlier later : List FanOut} {fanOut : FanOut}
    {before after : List Dispatch} {dispatch : Dispatch}
    (under : traffic.fanOuts = earlier ++ fanOut :: later)
    (split : fanOut.dispatches = before ++ dispatch :: after) (outcome : Outcome) :
    let turn := resume (.deliver dispatch.client fanOut.frame dispatch.point) outcome rig
    turn = rig.finish outcome ∨ ∃ conduct broadcaster next history,
      let last := { traffic with
        broadcaster := broadcaster
        fanOuts := earlier ++ { fanOut with dispatches := before ++ next :: after } :: later
        history := history }
      Traffic.Step (.deed dispatch.client (.does conduct)) traffic last ∧ turn.1.Shares last ∧
        turn.2 = next.point.move traffic.sendTimeout dispatch.client fanOut.frame := by
  rcases rig.deliver_cases dispatch fanOut.frame outcome with
    passes | ⟨conduct, broadcaster, next, logs, -, step, turn⟩
  · exact .inl passes
  · rw [shares.broadcaster, shares.sendTimeout] at step
    refine .inr ⟨conduct, broadcaster, next, _, .deed (.does conduct) under split step, ?_, ?_⟩
    · rw [turn]
      exact ⟨rfl, shares.sendTimeout⟩
    · rw [turn, shares.sendTimeout]

theorem gather_turn (rig : Rig) (fanOut : FanOut) (outcome : Outcome) :
    ∃ future, let turn := Machine.resume programs rig (.gather fanOut.deliveries false) outcome
      let tasks := List.range' rig.schedule.tasks.size fanOut.dispatches.length
      turn.2 = .wait (.gathered tasks) future ∧
        turn.1.schedule.tasks.toList.map (·.frames) =
          rig.schedule.tasks.toList.map (·.frames) ++ fanOut.deliveries ∧
        ∀ later reply, Machine.resume programs later (.gathered tasks) (.ok reply) =
          (later, .finish (.ok (.tasks tasks))) := by
  obtain ⟨numbers, running⟩ := rig.schedule.gather_starts fanOut.deliveries false
  rw [FanOut.deliveries, List.length_map, ← FanOut.deliveries] at numbers
  refine ⟨(rig.schedule.gather fanOut.deliveries false).2.2, ?_, running, fun _ _ => rfl⟩
  rw [← numbers]
  rfl

theorem countDelivered_turn {fanOut : FanOut} {tasks : List Nat} (ended : fanOut.Ended rig tasks) :
    resume .countDelivered (.ok (.tasks tasks)) rig = rig.ok (.count fanOut.delivered) := by
  obtain ⟨frame, dispatches⟩ := fanOut
  unfold FanOut.Ended at ended
  simp only [resume, countDelivered, FanOut.delivered]
  congr 2
  dsimp only at ended
  -- On the tasks with their deliveries: a task counts exactly if its delivery got through.
  induction ended with
  | nil => rfl
  | @cons task dispatch tasks dispatches same _ ih =>
      obtain ⟨outcome, finishes, found⟩ := same
      rw [List.countP_cons, List.countP_cons, ih, found]
      obtain ⟨client, point, taken⟩ := dispatch
      rcases point with - | - | - | delivered
      · cases finishes
        rfl
      · cases finishes
      · cases finishes
      · cases finishes
        cases delivered <;> rfl

def ended (outcomes : List Outcome) : Rig where
  schedule := { (Schedule.empty : Schedule (Frame Act)) with
    futures := (outcomes.map fun outcome => Future.mk .plain (some outcome) false []).toArray
    tasks := ((List.range outcomes.length).map (Task.mk [] true none false)).toArray }
  state := .start

theorem ended_outcome {outcomes : List Outcome} {task : Nat} (listed : task < outcomes.length) :
    (ended outcomes).schedule.taskOutcome? task = some outcomes[task] := by
  simp [ended, Schedule.taskOutcome?, Schedule.taskFuture, Schedule.outcome?, listed]

theorem exists_ended {fanOut : FanOut} (isOver : fanOut.isOver = true) :
    ∃ rig tasks, fanOut.Ended rig tasks := by
  let outcomes := fanOut.dispatches.map fun dispatch =>
    (.ok (.flag (dispatch.point = .over true)) : Outcome)
  have size : outcomes.length = fanOut.dispatches.length := List.length_map ..
  refine ⟨ended outcomes, List.range outcomes.length,
    List.forall₂_iff_get.mpr ⟨List.length_range.trans size, fun task _ listed => ?_⟩⟩
  refine ⟨outcomes[task], ?_, ?_⟩
  · have finished := List.all_eq_true.mp isOver _ (List.getElem_mem listed)
    simp only [outcomes, List.getElem_map, List.get_eq_getElem]
    generalize fanOut.dispatches[task] = dispatch at finished
    obtain ⟨client, point, taken⟩ := dispatch
    rcases point with - | - | - | delivered
    · cases finished
    · cases finished
    · cases finished
    · cases delivered <;> rfl
  · simpa using ended_outcome (size ▸ listed)

theorem returns_iff {fanOut : FanOut} (isOver : fanOut.isOver = true) {count : Nat} :
    fanOut.Returns count ↔ fanOut.delivered = count := by
  constructor
  · intro returns
    obtain ⟨rig, tasks, ended⟩ := exists_ended isOver
    have same := (countDelivered_turn ended).symm.trans (returns rig tasks ended)
    simpa [ok] using same
  · rintro rfl rig tasks ended
    exact countDelivered_turn ended

theorem closeNext_turn (shares : rig.Shares traffic) (rest : List ConnectionName) (count : Nat) :
    (rig.closeNext rest count).1.Shares traffic ∧
      (rig.closeNext rest count).2 = Traffic.sweep count rest := by
  cases rest with
  | nil => exact ⟨shares.say _, rfl⟩
  | cons client rest => exact ⟨shares, rfl⟩

theorem closeAll_turn (shares : rig.Shares traffic) (reply : Reply) :
    let turn := resume .closeAll (.ok reply) rig
    let taken := traffic.broadcaster.takeAll.2
    turn.1.Shares traffic.closeAll ∧ turn.2 = Traffic.sweep taken.length taken := by
  rw [← shares.broadcaster]
  have swept : (rig.setBroadcaster rig.state.broadcaster.takeAll.1 []).Shares traffic.closeAll :=
    ⟨by rw [Traffic.closeAll, ← shares.broadcaster]; rfl, shares.sendTimeout⟩
  exact closeNext_turn swept _ _

theorem closingAll_turn (shares : rig.Shares traffic) {earlier later : List (List ConnectionName)}
    {rest : List ConnectionName} (under : traffic.sweeps = earlier ++ (client :: rest) :: later)
    (count : Nat) (outcome : Outcome) :
    let turn := resume (.closingAll rest count) outcome rig
    turn = rig.finish outcome ∨ ∃ failure history,
      let last := { traffic with sweeps := earlier ++ rest :: later, history := history }
      Traffic.Step (.closeEnds failure) traffic last ∧ turn.1.Shares last ∧
        turn.2 = Traffic.sweep count rest := by
  have shared {rig : Rig} (shares : rig.Shares traffic) (history : List Occurrence) :
      rig.Shares { traffic with sweeps := earlier ++ rest :: later, history := history } :=
    ⟨shares.broadcaster, shares.sendTimeout⟩
  cases outcome with
  | ok reply =>
      exact .inr ⟨none, _, .closeEnds none nofun under, closeNext_turn (shared shares _) rest count⟩
  | error stop =>
      cases stop with
      | cancelled => exact .inl rfl
      | fault fault =>
          simp only [resume, closingAll]
          split
          · rename_i caught
            refine .inr ⟨some fault, _, .closeEnds (some fault) ?_ under,
              closeNext_turn (shared (shares.say _) _) rest count⟩
            rintro other ⟨⟩
            exact caught
          · exact .inl rfl

end Rehearsal.Rig

end LedgerFeed
