import Mathlib.Data.List.Nodup
import LedgerFeed.Proofs.Gateway.FanOut

namespace LedgerFeed

namespace Broadcaster

variable {broadcaster : Broadcaster} {client : ConnectionName}

def names (broadcaster : Broadcaster) : List ConnectionName := broadcaster.connections.map (·.1)

theorem isRegistered_iff : broadcaster.isRegistered client = true ↔ client ∈ broadcaster.names := by
  simp only [isRegistered, names, List.lookup_isSome_iff, List.mem_map, beq_iff_eq]
  exact exists_congr fun entry => and_congr_right fun _ => eq_comm

theorem isRegistered_eq : broadcaster.isRegistered client = decide (client ∈ broadcaster.names) :=
  Bool.eq_iff_iff.mpr (isRegistered_iff.trans decide_eq_true_iff.symm)

theorem mem_insert_names (connections : List (ConnectionName × List Channel))
    (other : ConnectionName) (channels : List Channel) :
    client ∈ (insert connections other channels).map (·.1) ↔
      client = other ∨ client ∈ connections.map (·.1) := by
  induction connections with
  | nil => simp [insert]
  | cons entry rest ih =>
      by_cases same : entry.1 = other
      · simp [insert, same]
      · simp only [insert, same, ↓reduceIte, List.map_cons, List.mem_cons, ih]
        tauto

theorem insert_nodup {connections : List (ConnectionName × List Channel)}
    (h : (connections.map (·.1)).Nodup) (other : ConnectionName) (channels : List Channel) :
    ((insert connections other channels).map (·.1)).Nodup := by
  induction connections with
  | nil => simp [insert]
  | cons entry rest ih =>
      rw [List.map_cons, List.nodup_cons] at h
      by_cases same : entry.1 = other
      · subst same
        simpa [insert] using h
      · simp only [insert, same, ↓reduceIte, List.map_cons, List.nodup_cons]
        refine ⟨fun listed => ?_, ih h.2⟩
        exact ((mem_insert_names rest other channels).mp listed).elim same h.1

theorem register_isRegistered (other : ConnectionName) (channels : List Channel) :
    (broadcaster.register other channels).1.isRegistered client =
      (decide (client = other) || broadcaster.isRegistered client) := by
  rw [isRegistered_eq, isRegistered_eq, ← Bool.decide_or]
  exact decide_eq_decide.mpr (mem_insert_names _ _ _)

theorem register_registered (absent : broadcaster.isRegistered client = false)
    (channels : List Channel) :
    (broadcaster.register client channels).1.Registered client channels := by
  have outside : client ∉ broadcaster.connections.map (·.1) := fun listed =>
    Bool.false_ne_true (absent.symm.trans (isRegistered_iff.mpr listed))
  unfold Registered
  change (insert broadcaster.connections client channels).filter _ = _
  generalize broadcaster.connections = connections at outside
  induction connections with
  | nil => simp [insert]
  | cons entry rest ih =>
      rw [List.map_cons, List.mem_cons, not_or] at outside
      simp only [insert, List.filter_cons, Ne.symm outside.1, decide_false, Bool.false_eq_true,
        ↓reduceIte, ih outside.2]

theorem unregister_isRegistered (other : ConnectionName) :
    (broadcaster.unregister other).1.isRegistered client =
      (decide (client ≠ other) && broadcaster.isRegistered client) := by
  rw [isRegistered_eq, isRegistered_eq, ← Bool.decide_and]
  refine decide_eq_decide.mpr ?_
  simp only [names, unregister, List.mem_map, List.mem_filter]
  constructor
  · rintro ⟨entry, ⟨listed, differs⟩, rfl⟩
    exact ⟨of_decide_eq_true differs, entry, listed, rfl⟩
  · rintro ⟨differs, entry, listed, rfl⟩
    exact ⟨entry, ⟨listed, decide_eq_true differs⟩, rfl⟩

theorem drop_connections (other : ConnectionName) (reason : String) :
    (broadcaster.drop other reason).1.connections =
      (broadcaster.unregister other).1.connections := by
  unfold drop
  split <;> simp_all

theorem drop_isRegistered (other : ConnectionName) (reason : String) :
    (broadcaster.drop other reason).1.isRegistered client =
      (decide (client ≠ other) && broadcaster.isRegistered client) := by
  rw [← unregister_isRegistered, isRegistered, drop_connections, ← isRegistered]

theorem drop_found (other : ConnectionName) (reason : String) :
    (broadcaster.drop other reason).2.1 = broadcaster.isRegistered other := by
  unfold drop
  split <;> simp_all [unregister]

end Broadcaster

/-! ## The calls under way -/

/-- Who takes a connection out of the set. -/
inductive Remover
  | caller
  | delivery
  | sweep
  deriving DecidableEq

inductive Occurrence
  | registered (client : ConnectionName)
  | removed (client : ConnectionName) (remover : Remover)
  | closed (client : ConnectionName)
  deriving DecidableEq

def Occurrence.client : Occurrence → ConnectionName
  | .registered client | .removed client _ | .closed client => client

structure Traffic where
  broadcaster : Broadcaster
  sendTimeout : Seconds
  fanOuts : List FanOut
  sweeps : List (List ConnectionName)
  history : List Occurrence

def Dispatch.occurrences (broadcaster : Broadcaster) (dispatch next : Dispatch) (deed : Deed) :
    List Occurrence :=
  let found := match deed with
    | .does (.seen false) => (broadcaster.drop dispatch.client "closed").2.1
    | .does (.raised _) => (broadcaster.drop dispatch.client "send_failed").2.1
    | _ => false
  (if found then [.removed dispatch.client .delivery] else []) ++
    if next.point = .closing then [.closed dispatch.client] else []

namespace Traffic

def idle (sendTimeout : Seconds) : Traffic := ⟨.empty, sendTimeout, [], [], []⟩

def register (traffic : Traffic) (client : ConnectionName) (filter : Value) : Traffic :=
  match filter.channelFilter with
  | .error _ => traffic
  | .ok channels =>
      { traffic with
        broadcaster := (traffic.broadcaster.register client channels).1
        history := traffic.history ++ [.registered client] }

def unregister (traffic : Traffic) (client : ConnectionName) : Traffic :=
  let (broadcaster, found) := traffic.broadcaster.unregister client
  { traffic with
    broadcaster := broadcaster
    history := traffic.history ++ if found then [.removed client .caller] else [] }

def broadcast (traffic : Traffic) (channel data : Value) : Traffic :=
  match Broadcaster.frame channel data with
  | .error _ => traffic
  | .ok (channel, frame) =>
      let (broadcaster, targets) := traffic.broadcaster.snapshot channel
      { traffic with
        broadcaster := broadcaster
        fanOuts := traffic.fanOuts ++ [.start frame targets] }

def nextClose : List ConnectionName → List Occurrence
  | [] => []
  | client :: _ => [.closed client]

def closeAll (traffic : Traffic) : Traffic :=
  let (broadcaster, taken) := traffic.broadcaster.takeAll
  { traffic with
    broadcaster := broadcaster
    sweeps := traffic.sweeps ++ [taken]
    history := traffic.history ++ (taken.map (.removed · .sweep) ++ nextClose taken) }

inductive Act
  | register (client : ConnectionName) (filter : Value)
  | unregister (client : ConnectionName)
  | broadcast (channel data : Value)
  | deed (client : ConnectionName) (deed : Deed)
  | closeAll
  | closeEnds (failure : Option Fault)

inductive Step : Act → Traffic → Traffic → Prop
  | register {traffic : Traffic} (client : ConnectionName) (filter : Value) :
      Step (.register client filter) traffic (traffic.register client filter)
  | unregister {traffic : Traffic} (client : ConnectionName) :
      Step (.unregister client) traffic (traffic.unregister client)
  | broadcast {traffic : Traffic} (channel data : Value) :
      Step (.broadcast channel data) traffic (traffic.broadcast channel data)
  | deed {traffic : Traffic} {earlier later : List FanOut} {fanOut : FanOut}
      {before after : List Dispatch} {dispatch next : Dispatch} {broadcaster : Broadcaster}
      (deed : Deed) (under : traffic.fanOuts = earlier ++ fanOut :: later)
      (split : fanOut.dispatches = before ++ dispatch :: after)
      (step : dispatch.step traffic.broadcaster traffic.sendTimeout deed =
        some (broadcaster, next)) :
      Step (.deed dispatch.client deed) traffic
        { traffic with
          broadcaster := broadcaster
          fanOuts := earlier ++ { fanOut with dispatches := before ++ next :: after } :: later
          history := traffic.history ++
            dispatch.occurrences traffic.broadcaster next deed }
  | closeAll {traffic : Traffic} : Step .closeAll traffic traffic.closeAll
  | closeEnds {traffic : Traffic} {earlier later : List (List ConnectionName)}
      {client : ConnectionName} {rest : List ConnectionName} (failure : Option Fault)
      (caught : ∀ fault, failure = some fault → fault.isOrdinary = true)
      (under : traffic.sweeps = earlier ++ (client :: rest) :: later) :
      Step (.closeEnds failure) traffic
        { traffic with
          sweeps := earlier ++ rest :: later
          history := traffic.history ++ nextClose rest }

/-- What calls do from a state on, in the order in which they do it. -/
inductive Run (start : Traffic) : List Act → Traffic → Prop
  | refl : Run start [] start
  | snoc {acts : List Act} {traffic next : Traffic} {act : Act} (run : Run start acts traffic)
      (step : Step act traffic next) : Run start (acts ++ [act]) next

end Traffic

end LedgerFeed
