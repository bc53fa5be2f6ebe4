import LedgerFeed.Bus.Registry
import LedgerFeed.Proofs.Bus.Subscribers

/-!
# One bus for all of a process

Whoever asks for the in-memory bus gets the one that is shared. Handles to it outlive the sharing:
a bus may be closed by any of its users or by a reset, and another one is shared from then on. As no
bus is shared before the one shared earlier is closed, only the bus that is shared now can be open
(`Shared`). So two users whose buses are both open use the same one (`only_one_open`).
-/

namespace LedgerFeed

def MemoryBus.after (bus : MemoryBus) (act : BusHistory.Act) : MemoryBus :=
  (BusHistory.perform ⟨bus, [], []⟩ act).bus

theorem MemoryBus.close_closed (bus : MemoryBus) : bus.close.1.closed = true := by
  unfold MemoryBus.close
  split
  · assumption
  · rfl

namespace BusRegistry

def operations (bus : Nat) : BusOperations BusRegistry where
  publish registry channel payload :=
    match registry.buses[bus]? with
    | some found =>
        let (found, result) := MemoryBus.operations.publish found channel payload
        ({ registry with buses := registry.buses.set bus found }, result)
    | none => (registry, .ok ())
  close registry := (registry.close bus, .ok ())

inductive Call
  | get
  | reset
  | createPublisher (settings : Settings)
  | createSubscriber (settings : Settings)
  | createCommitPublisher (settings : Settings)
  | close (handle : BusHandle)
  | closePublisher (bus : Nat) (stats : CommitStats)
  | use (bus : Nat) (act : BusHistory.Act)

def Call.Asks : Call → Prop
  | .get => True
  | .createPublisher settings | .createSubscriber settings | .createCommitPublisher settings =>
      settings.backend = .memory
  | .reset | .close _ | .closePublisher .. | .use .. => False

def Call.Closes : Call → Nat → Prop
  | .reset, _ => True
  | .close (.memory bus), other | .closePublisher bus _, other => bus = other
  | _, _ => False

def answer (registry : BusRegistry) : Call → BusRegistry × Option BusHandle
  | .get =>
      let (registry, bus) := registry.get
      (registry, some (.memory bus))
  | .reset => (registry.reset, none)
  | .createPublisher settings =>
      let (registry, handle, _) := registry.createPublisher settings
      (registry, some handle)
  | .createSubscriber settings =>
      match registry.createSubscriber settings with
      | .ok (registry, handle) => (registry, some handle)
      | .error _ => (registry, none)
  | .createCommitPublisher settings =>
      let (registry, handle, _) := registry.createCommitPublisher settings
      (registry, some handle)
  | .close handle => ((registry.closeHandle handle).1, none)
  | .closePublisher bus stats =>
      ((Publisher.close (operations bus) ⟨stats, registry, []⟩).2.bus, none)
  | .use bus act =>
      ({ registry with buses := registry.buses.modify bus fun bus => bus.after act }, none)

structure History where
  registry : BusRegistry
  handles : List BusHandle

def History.perform (history : History) (call : Call) : History :=
  let (registry, handle) := history.registry.answer call
  ⟨registry, history.handles ++ handle.toList⟩

def run (calls : List Call) : History := calls.foldl History.perform ⟨.empty, []⟩

/-! ## The shared bus -/

/-- Only the bus that is shared now can be open. -/
def Shared (registry : BusRegistry) : Prop :=
  ∀ bus, registry.isClosed bus = false → registry.current = some bus

structure Keeps (registry : BusRegistry) (answer : BusRegistry × Option BusHandle) : Prop where
  shared : answer.1.Shared
  grown : registry.buses.length ≤ answer.1.buses.length
  opened : ∀ bus, answer.2 = some (.memory bus) → answer.1.isClosed bus = false

variable {registry : BusRegistry}

theorem make_keeps (closed : ∀ bus, registry.isClosed bus = true) :
    registry.Keeps (registry.make.1, some (.memory registry.make.2)) where
  shared bus opened := by
    have former := closed bus
    unfold isClosed make at opened
    unfold isClosed at former
    rw [List.getElem?_append] at opened
    split at opened
    · rename_i found at_
      split at at_
      · rw [at_] at former
        exact absurd (former.symm.trans opened) nofun
      · have last : bus - registry.buses.length < 1 :=
          (List.getElem?_eq_some_iff.mp at_).1
        exact congrArg some (by omega)
    · cases opened
  grown := by simp [make]
  opened bus returned := by
    cases returned
    simp [make, isClosed, MemoryBus.empty]

theorem Shared.get_keeps (h : registry.Shared) :
    registry.Keeps (registry.get.1, some (.memory registry.get.2)) := by
  unfold get
  split
  · rename_i none
    exact make_keeps fun bus => Bool.of_not_eq_false fun opened =>
      absurd (none.symm.trans (h bus opened)) nofun
  · rename_i bus shared
    split
    · rename_i closed
      refine make_keeps fun other => Bool.of_not_eq_false fun opened => ?_
      cases shared.symm.trans (h other opened)
      exact absurd (closed.symm.trans opened) nofun
    · rename_i opened
      refine ⟨h, Nat.le_refl _, fun returned same => ?_⟩
      cases same
      exact Bool.eq_false_iff.mpr opened

theorem modify_isClosed (bus : Nat) {change : MemoryBus → MemoryBus}
    (closes : ∀ found : MemoryBus, found.closed = true → (change found).closed = true) {other : Nat}
    (opened : ({ registry with buses := registry.buses.modify bus change } : BusRegistry).isClosed
      other = false) : registry.isClosed other = false := by
  unfold isClosed at opened ⊢
  rw [List.getElem?_modify] at opened
  cases found : registry.buses[other]? with
  | none => rw [found] at opened; exact opened
  | some former =>
      rw [found] at opened
      refine Bool.eq_false_iff.mpr fun closed => Bool.eq_false_iff.mp opened ?_
      dsimp only [Functor.map, Option.map]
      split
      · exact closes former closed
      · exact closed

theorem Shared.modify_keeps (h : registry.Shared) (bus : Nat) {change : MemoryBus → MemoryBus}
    (closes : ∀ found : MemoryBus, found.closed = true → (change found).closed = true) :
    registry.Keeps ({ registry with buses := registry.buses.modify bus change }, none) where
  shared other opened := h other (modify_isClosed bus closes opened)
  grown := (List.length_modify ..).ge
  opened _ returned := by cases returned

theorem Shared.close_keeps (h : registry.Shared) (bus : Nat) :
    registry.Keeps (registry.close bus, none) :=
  h.modify_keeps bus fun found _ => found.close_closed

theorem close_isClosed (registry : BusRegistry) (bus : Nat) :
    (registry.close bus).isClosed bus = true := by
  unfold isClosed close
  rw [List.getElem?_modify_eq]
  cases registry.buses[bus]? with
  | none => rfl
  | some found => exact found.close_closed

theorem Shared.reset_closed (h : registry.Shared) (bus : Nat) :
    registry.reset.isClosed bus = true := by
  refine Bool.of_not_eq_false fun opened => ?_
  unfold reset at opened
  split at opened
  · rename_i none
    exact absurd (none.symm.trans (h bus opened)) nofun
  · rename_i shared current
    cases current.symm.trans ((h.close_keeps shared).shared bus opened)
    exact absurd ((registry.close_isClosed bus).symm.trans opened) nofun

theorem Shared.answer_keeps (h : registry.Shared) (call : Call) :
    registry.Keeps (registry.answer call) := by
  have same (handle : Option BusHandle) (other : ∀ bus, handle ≠ some (.memory bus)) :
      registry.Keeps (registry, handle) :=
    ⟨h, Nat.le_refl _, fun bus returned => absurd returned (other bus)⟩
  cases call with
  | get => exact h.get_keeps
  | reset =>
      refine ⟨fun bus opened => absurd ((h.reset_closed bus).symm.trans opened) nofun, ?_, nofun⟩
      change _ ≤ registry.reset.buses.length
      unfold reset
      split
      · exact Nat.le_refl _
      · exact (h.close_keeps _).grown
  | createPublisher settings | createCommitPublisher settings =>
      simp only [answer, createCommitPublisher, createPublisher]
      cases settings.backend with
      | memory => exact h.get_keeps
      | redis => exact same _ nofun
  | createSubscriber settings =>
      simp only [answer, createSubscriber]
      cases settings.backend with
      | memory => exact h.get_keeps
      | redis => cases Redis.subscriberOptions settings <;> exact same _ nofun
  | close handle =>
      cases handle with
      | memory bus => exact h.close_keeps bus
      | redisPublisher | redisSubscriber => exact same _ nofun
  | closePublisher bus => exact h.close_keeps bus
  | use bus act =>
      refine h.modify_keeps bus fun found closed => ?_
      have still : (BusHistory.perform ⟨found, [], []⟩ act).bus.closed = true :=
        BusHistory.perform_closed closed act
      exact still

theorem answer_asked (registry : BusRegistry) {call : Call} (asks : call.Asks) :
    ∃ bus, (registry.answer call).2 = some (.memory bus) := by
  cases call with
  | get => exact ⟨_, rfl⟩
  | createPublisher settings | createSubscriber settings | createCommitPublisher settings =>
      have memory : settings.backend = .memory := asks
      simp only [answer, createCommitPublisher, createPublisher, createSubscriber, memory]
      exact ⟨_, rfl⟩
  | reset | close | closePublisher | use => exact asks.elim

theorem Shared.answer_closes (h : registry.Shared) {call : Call} {bus : Nat}
    (closes : call.Closes bus) : (registry.answer call).1.isClosed bus = true := by
  cases call with
  | reset => exact h.reset_closed bus
  | close handle =>
      cases handle with
      | memory other =>
          cases closes
          exact registry.close_isClosed _
      | redisPublisher | redisSubscriber => exact closes.elim
  | closePublisher other =>
      cases closes
      exact registry.close_isClosed _
  | get | createPublisher | createSubscriber | createCommitPublisher | use => exact closes.elim

/-! ## Runs of calls -/

theorem lt_of_isClosed {bus : Nat} (opened : registry.isClosed bus = false) :
    bus < registry.buses.length := by
  unfold isClosed at opened
  split at opened
  · rename_i found
    exact (List.getElem?_eq_some_iff.mp found).1
  · cases opened

structure History.Sound (history : History) : Prop where
  shared : history.registry.Shared
  made : ∀ bus, .memory bus ∈ history.handles → bus < history.registry.buses.length

theorem History.Sound.perform {history : History} (h : history.Sound) (call : Call) :
    (history.perform call).Sound := by
  have keeps := h.shared.answer_keeps call
  refine ⟨keeps.shared, fun bus listed => ?_⟩
  rcases List.mem_append.mp listed with earlier | new
  · exact Nat.lt_of_lt_of_le (h.made bus earlier) keeps.grown
  · exact lt_of_isClosed (keeps.opened bus (Option.mem_toList.mp new))

theorem run_history_sound (calls : List Call) : (run calls).Sound :=
  List.foldlRecOn (motive := History.Sound) calls History.perform ⟨nofun, nofun⟩
    fun _ sound call _ => sound.perform call

/-- Whatever a process does about its buses, at most one of those it has made is open. Handles are
to buses it has made, whoever asks for the in-memory bus gets one that is open, and whoever closes a
bus leaves it closed. -/
theorem only_one_open (calls : List Call) :
    let history := run calls
    (∀ one other, history.registry.isClosed one = false →
      history.registry.isClosed other = false → one = other) ∧
    (∀ bus, .memory bus ∈ history.handles → bus < history.registry.buses.length) ∧
    (∀ call, call.Asks → ∃ bus, (history.registry.answer call).2 = some (.memory bus)) ∧
    (∀ call bus, (history.registry.answer call).2 = some (.memory bus) →
      (history.registry.answer call).1.isClosed bus = false) ∧
    ∀ call bus, call.Closes bus → (history.registry.answer call).1.isClosed bus = true := by
  have sound := run_history_sound calls
  refine ⟨fun one other first second => ?_, sound.made, fun call => answer_asked _,
    fun call => (sound.shared.answer_keeps call).opened, fun call bus => sound.shared.answer_closes⟩
  exact Option.some.inj ((sound.shared one first).symm.trans (sound.shared other second))

end BusRegistry

end LedgerFeed
