import Mathlib.Data.List.Basic
import LedgerFeed.Relay.Lifecycle

namespace LedgerFeed

/-- A relay with the tasks of loops that have not ended and, for each call that stops the relay, the
task that it waits for. Tasks are numbered from `fresh` on. -/
structure Lifecycle where
  relay : Relay
  unfinished : List Nat
  stopping : List Nat
  fresh : Nat

namespace Lifecycle

def idle (relay : Relay) : Lifecycle :=
  ⟨{ relay with running := false, task := none }, [], [], 0⟩

def isDone (lifecycle : Lifecycle) (task : Nat) : Bool := !lifecycle.unfinished.contains task

def start (lifecycle : Lifecycle) : Lifecycle :=
  if lifecycle.relay.running then
    lifecycle
  else
    { lifecycle with
      relay := (lifecycle.relay.start lifecycle.fresh).1
      unfinished := lifecycle.fresh :: lifecycle.unfinished
      fresh := lifecycle.fresh + 1 }

def stop (lifecycle : Lifecycle) : Lifecycle :=
  let relay := lifecycle.relay.askToStop
  match relay.task with
  | some task =>
      if lifecycle.isDone task then
        { lifecycle with relay := relay.forgetTask.1 }
      else
        { lifecycle with relay := relay, stopping := task :: lifecycle.stopping }
  | none => { lifecycle with relay := relay.forgetTask.1 }

def stopped (lifecycle : Lifecycle) (task : Nat) : Lifecycle :=
  if task ∈ lifecycle.stopping ∧ lifecycle.isDone task then
    { lifecycle with
      relay := lifecycle.relay.forgetTask.1
      stopping := lifecycle.stopping.erase task }
  else
    lifecycle

inductive Act
  | start
  | stop
  | ends (task : Nat)
  | stopped (task : Nat)

def perform (lifecycle : Lifecycle) : Act → Lifecycle
  | .start => lifecycle.start
  | .stop => lifecycle.stop
  | .ends task =>
      { lifecycle with unfinished := lifecycle.unfinished.filter fun other => other ≠ task }
  | .stopped task => lifecycle.stopped task

def run (lifecycle : Lifecycle) : List Act → Lifecycle
  | [] => lifecycle
  | act :: rest => (lifecycle.perform act).run rest

def Apart (lifecycle : Lifecycle) : List Act → Prop
  | [] => True
  | act :: rest => (act = .start → lifecycle.stopping = []) ∧ (lifecycle.perform act).Apart rest

def Held (lifecycle : Lifecycle) : Prop :=
  ∀ task ∈ lifecycle.unfinished, lifecycle.unfinished = [task] ∧
    lifecycle.relay.task = some task ∧ lifecycle.relay.isRunning lifecycle.isDone = true

/-- There is no loop but the one that the relay holds. The calls that stop the relay wait for it,
and it runs unless there are such calls. -/
def Sound (lifecycle : Lifecycle) : Prop :=
  ∀ task ∈ lifecycle.unfinished, lifecycle.unfinished = [task] ∧
    lifecycle.relay.task = some task ∧ (∀ other ∈ lifecycle.stopping, other = task) ∧
    (lifecycle.stopping = [] → lifecycle.relay.running = true)

variable {lifecycle : Lifecycle}

theorem Sound.start (h : lifecycle.Sound) (apart : lifecycle.stopping = []) :
    lifecycle.start.Sound := by
  unfold Lifecycle.start
  split
  · exact h
  · rename_i halted
    have none : lifecycle.unfinished = [] :=
      List.eq_nil_iff_forall_not_mem.mpr fun task listed => halted ((h task listed).2.2.2 apart)
    intro task listed
    rw [none] at listed ⊢
    cases List.mem_singleton.mp listed
    exact ⟨rfl, rfl, by simp [apart], fun _ => rfl⟩

theorem Sound.stop (h : lifecycle.Sound) : lifecycle.stop.Sound := by
  -- A task that the relay does not hold is not one of an unfinished loop.
  have done (held : ∀ task ∈ lifecycle.unfinished, lifecycle.relay.task ≠ some task) :
      ({ lifecycle with relay := lifecycle.relay.askToStop.forgetTask.1 } : Lifecycle).Sound :=
    fun task listed => absurd (h task listed).2.1 (held task listed)
  unfold Lifecycle.stop
  dsimp only
  split
  · rename_i task holds
    have holds : lifecycle.relay.task = some task := holds
    split
    · rename_i ended
      refine done fun other listed same => ?_
      cases holds.symm.trans same
      simp [isDone, listed] at ended
    · intro other listed
      obtain ⟨alone, same, waiting, -⟩ := h other listed
      cases holds.symm.trans same
      exact ⟨alone, holds, by simpa using waiting, fun none => by cases none⟩
  · rename_i holds
    refine done fun other listed same => ?_
    cases (show lifecycle.relay.task = none from holds).symm.trans same

theorem Sound.ends (h : lifecycle.Sound) (task : Nat) :
    (lifecycle.perform (.ends task)).Sound := by
  intro other listed
  obtain ⟨was, differs⟩ := List.mem_filter.mp listed
  obtain ⟨alone, rest⟩ := h other was
  refine ⟨?_, rest⟩
  show lifecycle.unfinished.filter _ = [other]
  rw [alone, List.filter_cons, if_pos differs, List.filter_nil]

theorem Sound.stopped (h : lifecycle.Sound) (task : Nat) : (lifecycle.stopped task).Sound := by
  unfold Lifecycle.stopped
  split
  · rename_i ready
    intro other listed
    obtain rfl : task = other := (h other listed).2.2.1 task ready.1
    simp [isDone, show task ∈ lifecycle.unfinished from listed] at ready
  · exact h

theorem Sound.run (h : lifecycle.Sound) {acts : List Act} (apart : lifecycle.Apart acts) :
    (lifecycle.run acts).Sound := by
  induction acts generalizing lifecycle with
  | nil => exact h
  | cons act rest ih =>
      refine ih ?_ apart.2
      cases act with
      | start => exact h.start (apart.1 rfl)
      | stop => exact h.stop
      | ends task => exact h.ends task
      | stopped task => exact h.stopped task

theorem held_apart (relay : Relay) {acts : List Act} (apart : (idle relay).Apart acts)
    (quiet : ((idle relay).run acts).stopping = []) : ((idle relay).run acts).Held := by
  have sound : (idle relay).Sound := fun task listed => by cases listed
  intro task listed
  obtain ⟨alone, holds, -, running⟩ := sound.run apart task listed
  refine ⟨alone, holds, ?_⟩
  simp [Relay.isRunning, holds, running quiet, isDone, listed]

/-- The relay is started while it stops, and nothing holds the loop that this starts. -/
theorem orphaned_overlapping (relay : Relay) :
    let orphaned := (idle relay).run [.start, .stop, .start, .ends 0, .stopped 0]
    orphaned.stopping = [] ∧ orphaned.unfinished = [1] ∧ orphaned.relay.task = none ∧
      orphaned.relay.isRunning orphaned.isDone = false :=
  ⟨rfl, rfl, rfl, rfl⟩

end Lifecycle

end LedgerFeed
