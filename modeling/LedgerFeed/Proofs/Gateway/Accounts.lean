import Mathlib.Algebra.GroupWithZero.Nat
import LedgerFeed.Proofs.Gateway.Turns
import LedgerFeed.Proofs.Gateway.Removal

/-!
# The accounts of a broadcaster

The counters of a broadcaster are read off what its calls did, whatever the calls overtake
(`Run.tallied`). Connections that are registered at most once are in the set or were removed, each of
them once, by a caller, a delivery or a call that closes all (`registrations_perm`), and so the
counters balance at every moment (`accounts_balance`).
-/

namespace LedgerFeed

namespace Traffic

/-! ## What the history says -/

def registrations (history : List Occurrence) : List ConnectionName :=
  history.filterMap fun
    | .registered client => some client
    | .removed _ _ | .closed _ => none

def removals (remover : Remover) (history : List Occurrence) : List ConnectionName :=
  history.filterMap fun
    | .removed client role => if role = remover then some client else none
    | .registered _ | .closed _ => none

variable {remover : Remover} {client : ConnectionName}

theorem registrations_append (earlier later : List Occurrence) :
    registrations (earlier ++ later) = registrations earlier ++ registrations later :=
  List.filterMap_append ..

theorem removals_append (earlier later : List Occurrence) :
    removals remover (earlier ++ later) = removals remover earlier ++ removals remover later :=
  List.filterMap_append ..

theorem count_registrations (history : List Occurrence) :
    (registrations history).count client = history.count (.registered client) := by
  rw [registrations, List.count_filterMap, List.count_eq_countP]
  refine List.countP_congr fun occurrence _ => ?_
  cases occurrence <;> simp

theorem count_removals (history : List Occurrence) :
    (removals remover history).count client = history.count (.removed client remover) := by
  rw [removals, List.count_filterMap, List.count_eq_countP]
  refine List.countP_congr fun occurrence _ => ?_
  cases occurrence with
  | registered | closed => simp
  | removed other role => by_cases same : role = remover <;> simp [same]

theorem swept (taken : List ConnectionName) :
    registrations (taken.map (.removed · .sweep) ++ nextClose taken) = [] ∧
      ∀ role, removals role (taken.map (.removed · .sweep) ++ nextClose taken) =
        if role = .sweep then taken else [] := by
  have registers : registrations (nextClose taken) = [] := by cases taken <;> rfl
  have removes (role : Remover) : removals role (nextClose taken) = [] := by cases taken <;> rfl
  refine ⟨?_, fun role => ?_⟩
  · rw [registrations_append, registers]
    simp [registrations, List.filterMap_map]
  · rw [removals_append, removes, List.append_nil]
    cases role <;> simp [removals, List.filterMap_map]

inductive Tells (client : ConnectionName) (remover : Remover) : Bool → List Occurrence → Prop
  | missed : Tells client remover false []
  | removed : Tells client remover true [.removed client remover]
  | ousted : Tells client remover true [.removed client remover, .closed client]

theorem Tells.registrations {found : Bool} {said : List Occurrence} (h : Tells client remover found said) :
    registrations said = [] := by
  cases h <;> rfl

theorem Tells.removals {found : Bool} {said : List Occurrence} (h : Tells client remover found said)
    (role : Remover) :
    (removals role said).length = if remover = role then found.toNat else 0 := by
  cases h <;> by_cases same : remover = role <;> simp [Traffic.removals, same]

end Traffic

/-! ## What a step adds -/

namespace Broadcaster

theorem drop_eq (broadcaster : Broadcaster) (client : ConnectionName) (reason : String) :
    (broadcaster.drop client reason).1 =
      { (broadcaster.unregister client).1 with
        failed := broadcaster.failed + (broadcaster.isRegistered client).toNat } := by
  cases found : broadcaster.isRegistered client <;> simp [drop, unregister, found]

end Broadcaster

def Deed.completesSend (deed : Deed) : Bool := deed matches .does .sent

namespace Dispatch

def isDelivered (dispatch : Dispatch) : Bool := dispatch.point = .over true

variable {dispatch next : Dispatch} {deed : Deed} {broadcaster later : Broadcaster}

structure Counts (dispatch next : Dispatch) (deed : Deed) (broadcaster later : Broadcaster) :
    Prop where
  connected : later.connectedTotal = broadcaster.connectedTotal
  failed : ∃ found, later.failed = broadcaster.failed + found.toNat ∧
    Traffic.Tells dispatch.client .delivery found (dispatch.occurrences broadcaster next deed)
  sent : later.messagesSent = broadcaster.messagesSent + deed.completesSend.toNat
  delivers : dispatch.isDelivered = false ∧ next.isDelivered = deed.completesSend
  begun : later.broadcasts = broadcaster.broadcasts

theorem Steps.counts (h : Steps broadcaster dispatch deed later next) :
    Counts dispatch next deed broadcaster later := by
  obtain ⟨client, point, taken⟩ := dispatch
  cases h with
  | opened at_ | takes at_ | sent at_ | closed _ at_ =>
      cases at_
      exact ⟨rfl, ⟨false, rfl, .missed⟩, rfl, ⟨rfl, rfl⟩, rfl⟩
  | shut at_ =>
      cases at_
      rw [Broadcaster.drop_eq]
      refine ⟨rfl, ⟨_, rfl, ?_⟩, rfl, ⟨rfl, rfl⟩, rfl⟩
      cases found : broadcaster.isRegistered client with
      | false => simpa [occurrences, Broadcaster.drop_found, found] using Traffic.Tells.missed
      | true => simpa [occurrences, Broadcaster.drop_found, found] using Traffic.Tells.removed
  | raised fault at_ =>
      cases at_
      rw [Broadcaster.drop_eq, Broadcaster.drop_found]
      cases found : broadcaster.isRegistered client with
      | false =>
          refine ⟨rfl, ⟨false, rfl, ?_⟩, rfl, ⟨rfl, rfl⟩, rfl⟩
          simpa [occurrences, Broadcaster.drop_found, found] using Traffic.Tells.missed
      | true =>
          refine ⟨rfl, ⟨true, rfl, ?_⟩, rfl, ⟨rfl, rfl⟩, rfl⟩
          simpa [occurrences, Broadcaster.drop_found, found] using Traffic.Tells.ousted

end Dispatch

namespace FanOut

theorem delivered_split {frame : Text} {before after : List Dispatch} (dispatch : Dispatch) :
    (FanOut.mk frame (before ++ dispatch :: after)).delivered =
      (FanOut.mk frame (before ++ after)).delivered + dispatch.isDelivered.toNat := by
  simp only [delivered, Dispatch.isDelivered, List.countP_append, List.countP_cons, ← Nat.add_assoc]
  cases decide (dispatch.point = .over true) <;> rfl

theorem delivered_start (frame : Text) (targets : List ConnectionName) :
    (start frame targets).delivered = 0 := by
  simp [delivered, start]

end FanOut

namespace Traffic

def Act.completesSend : Act → Bool
  | .deed _ does => does.completesSend
  | .register _ _ | .unregister _ | .broadcast _ _ | .closeAll | .closeEnds _ => false

def Act.unregisters (traffic : Traffic) : Act → Bool
  | .unregister client => (traffic.broadcaster.unregister client).2
  | .register _ _ | .broadcast _ _ | .deed _ _ | .closeAll | .closeEnds _ => false

def Act.sweeps (traffic : Traffic) : Act → Nat
  | .closeAll => traffic.broadcaster.takeAll.2.length
  | .register _ _ | .unregister _ | .broadcast _ _ | .deed _ _ | .closeEnds _ => 0

def delivered (traffic : Traffic) : Nat := (traffic.fanOuts.map FanOut.delivered).sum

/-- What an act adds to the history and to the counters. -/
structure Adds (act : Act) (traffic next : Traffic) (new : List Occurrence) : Prop where
  history : next.history = traffic.history ++ new
  connected : next.broadcaster.connectedTotal =
    traffic.broadcaster.connectedTotal + (registrations new).length
  failed : next.broadcaster.failed = traffic.broadcaster.failed + (removals .delivery new).length
  unregistered : (removals .caller new).length = (act.unregisters traffic).toNat
  swept : (removals .sweep new).length = act.sweeps traffic
  sent : next.broadcaster.messagesSent =
    traffic.broadcaster.messagesSent + act.completesSend.toNat
  delivered : next.delivered = traffic.delivered + act.completesSend.toNat
  begun : next.broadcaster.broadcasts + traffic.fanOuts.length =
    traffic.broadcaster.broadcasts + next.fanOuts.length

variable {traffic next : Traffic} {act : Act} {acts : List Act}

theorem deed_delivers {earlier later : List FanOut} {fanOut : FanOut} {before after : List Dispatch}
    {dispatch next : Dispatch} {deed : Deed} (under : traffic.fanOuts = earlier ++ fanOut :: later)
    (split : fanOut.dispatches = before ++ dispatch :: after)
    (delivers : dispatch.isDelivered = false ∧ next.isDelivered = deed.completesSend) :
    ((earlier ++ { fanOut with dispatches := before ++ next :: after } :: later).map
      FanOut.delivered).sum = traffic.delivered + deed.completesSend.toNat := by
  have held : fanOut.delivered = (FanOut.mk fanOut.frame (before ++ after)).delivered := by
    have same : fanOut = ⟨fanOut.frame, before ++ dispatch :: after⟩ := by rw [← split]
    rw [same, FanOut.delivered_split, delivers.1]
    rfl
  simp only [Traffic.delivered, under, List.map_append, List.map_cons, List.sum_append,
    List.sum_cons, FanOut.delivered_split, held, delivers.2]
  omega

theorem unregister_tells (broadcaster : Broadcaster) (other : ConnectionName) :
    Tells other .caller (broadcaster.isRegistered other)
      (if broadcaster.isRegistered other then [.removed other .caller] else []) := by
  cases broadcaster.isRegistered other with
  | false => exact .missed
  | true => exact .removed

theorem Step.adds (h : Step act traffic next) : ∃ new, Adds act traffic next new := by
  cases h with
  | register other filter =>
      unfold Traffic.register
      split
      · exact ⟨[], (List.append_nil _).symm, rfl, rfl, rfl, rfl, rfl, rfl, rfl⟩
      · exact ⟨[.registered other], rfl, rfl, rfl, rfl, rfl, rfl, rfl, rfl⟩
  | unregister other =>
      have tells := unregister_tells traffic.broadcaster other
      refine ⟨_, rfl, ?_, ?_, tells.removals .caller, tells.removals .sweep, rfl, rfl, rfl⟩
      · rw [tells.registrations]
        rfl
      · rw [tells.removals]
        rfl
  | broadcast channel data =>
      unfold Traffic.broadcast
      split
      · exact ⟨[], (List.append_nil _).symm, rfl, rfl, rfl, rfl, rfl, rfl, rfl⟩
      · refine ⟨[], (List.append_nil _).symm, rfl, rfl, rfl, rfl, rfl, ?_, ?_⟩
        · simp [Traffic.delivered, FanOut.delivered_start, Act.completesSend]
        · simp only [Broadcaster.snapshot, List.length_append, List.length_singleton]
          omega
  | deed deed under split step =>
      obtain ⟨connected, ⟨found, failed, tells⟩, sent, delivers, begun⟩ :=
        (Dispatch.step_cases step).counts
      refine ⟨_, rfl, ?_, ?_, tells.removals .caller, tells.removals .sweep, sent,
        deed_delivers under split delivers, ?_⟩
      · rw [tells.registrations]
        exact connected
      · rw [tells.removals]
        exact failed
      · simp [under, begun]
  | closeAll =>
      obtain ⟨registers, removes⟩ := swept traffic.broadcaster.names
      have lengths (remover : Remover) := congrArg List.length (removes remover)
      refine ⟨_, rfl, ?_, ?_, lengths .caller, lengths .sweep, rfl, rfl, rfl⟩
      · exact congrArg (fun clients => _ + clients.length) registers.symm
      · exact congrArg (_ + ·) (lengths .delivery).symm
  | @closeEnds _ earlier later client rest failure caught under =>
      refine ⟨_, rfl, ?_, ?_, ?_, ?_, rfl, rfl, rfl⟩ <;> cases rest <;> rfl

/-! ## Whole runs -/

/-- A run with the number of its calls to unregister that return that they removed a connection, and
the number of connections that its calls to close all take. -/
inductive Answered (start : Traffic) : List Act → Traffic → Nat → Nat → Prop
  | refl : Answered start [] start 0 0
  | snoc {acts : List Act} {traffic next : Traffic} {act : Act} {unregistered swept : Nat}
      (run : Answered start acts traffic unregistered swept) (step : Step act traffic next) :
      Answered start (acts ++ [act]) next (unregistered + (act.unregisters traffic).toNat)
        (swept + act.sweeps traffic)

section

variable {start : Traffic} {unregistered swept : Nat}

theorem Answered.run (h : Answered start acts traffic unregistered swept) :
    Run start acts traffic := by
  induction h with
  | refl => exact .refl
  | snoc _ step ih => exact ih.snoc step

theorem Run.answered (run : Run start acts traffic) :
    ∃ unregistered swept, Answered start acts traffic unregistered swept := by
  induction run with
  | refl => exact ⟨0, 0, .refl⟩
  | snoc _ step ih =>
      obtain ⟨unregistered, swept, answered⟩ := ih
      exact ⟨_, _, answered.snoc step⟩

theorem Answered.removals {sendTimeout : Seconds}
    (h : Answered (idle sendTimeout) acts traffic unregistered swept) :
    (removals .caller traffic.history).length = unregistered ∧
      (removals .sweep traffic.history).length = swept := by
  induction h with
  | refl => exact ⟨rfl, rfl⟩
  | snoc _ step ih =>
      obtain ⟨new, adds⟩ := step.adds
      obtain ⟨unregistered, swept⟩ := ih
      rw [adds.history, removals_append, removals_append, List.length_append, List.length_append,
        unregistered, swept, adds.unregistered, adds.swept]
      exact ⟨rfl, rfl⟩

end

structure Tallied (acts : List Act) (traffic : Traffic) : Prop where
  connected : traffic.broadcaster.connectedTotal = (registrations traffic.history).length
  failed : traffic.broadcaster.failed = (removals .delivery traffic.history).length
  sent : traffic.broadcaster.messagesSent = acts.countP Act.completesSend
  delivered : traffic.broadcaster.messagesSent = traffic.delivered
  begun : traffic.broadcaster.broadcasts = traffic.fanOuts.length

theorem Tallied.step (h : Tallied acts traffic) (step : Step act traffic next) :
    Tallied (acts ++ [act]) next := by
  obtain ⟨new, adds⟩ := step.adds
  constructor
  · rw [adds.connected, h.connected, adds.history, registrations_append, List.length_append]
  · rw [adds.failed, h.failed, adds.history, removals_append, List.length_append]
  · rw [adds.sent, h.sent, List.countP_append, List.countP_singleton]
    cases act.completesSend <;> rfl
  · rw [adds.sent, h.delivered, adds.delivered]
  · have begun := adds.begun
    rw [h.begun] at begun
    omega

theorem Run.tallied {sendTimeout : Seconds} (run : Run (idle sendTimeout) acts traffic) :
    Tallied acts traffic := by
  induction run with
  | refl => exact ⟨rfl, rfl, rfl, rfl, rfl⟩
  | snoc _ step ih => exact ih.step step

theorem Story.balance {place : Place} {told : List Occurrence} (h : Story client place told) :
    told.count (.registered client) = place.inSet.toNat + (told.count (.removed client .caller) +
      (told.count (.removed client .delivery) + told.count (.removed client .sweep))) := by
  cases h with
  | unknown | present | taken => simp
  | removed remover | closed remover => cases remover <;> simp

theorem count_names (once : traffic.broadcaster.names.Nodup) (client : ConnectionName) :
    traffic.broadcaster.names.count client = (traffic.place client).inSet.toNat := by
  rw [once.count, place, Broadcaster.isRegistered_eq]
  by_cases listed : client ∈ traffic.broadcaster.names <;> simp [listed]

theorem registrations_perm {sendTimeout : Seconds} (run : Run (idle sendTimeout) acts traffic)
    (once : ∀ client, traffic.history.count (.registered client) ≤ 1) :
    (registrations traffic.history).Perm (traffic.broadcaster.names ++
      (removals .caller traffic.history ++
        (removals .delivery traffic.history ++ removals .sweep traffic.history))) := by
  refine List.perm_iff_count.mpr fun client => ?_
  have balance := (run.story (once client)).balance
  rw [count_about (by rfl), count_about (by rfl), count_about (by rfl), count_about (by rfl)] at balance
  simp only [List.count_append, count_registrations, count_removals,
    count_names (run.nodup List.nodup_nil)]
  exact balance

theorem returned_of_complete {fanOuts : List FanOut}
    (complete : ∀ fanOut ∈ fanOuts, fanOut.isOver = true) :
    List.Forall₂ FanOut.Returns fanOuts (fanOuts.map FanOut.delivered) := by
  refine List.forall₂_map_right_iff.mpr (List.forall₂_same.mpr fun fanOut listed => ?_)
  exact (Rehearsal.Rig.returns_iff (complete fanOut listed)).mpr rfl

/-- After any steps of calls on connections that are registered at most once: every registration is
accounted for by a connection in the set or by one removal, no connection fails twice, and what was
sent is what the broadcasts return. -/
theorem accounts_balance {sendTimeout : Seconds} {unregistered swept : Nat}
    (answered : Answered (idle sendTimeout) acts traffic unregistered swept)
    (once : ∀ client, traffic.history.count (.registered client) ≤ 1) :
    traffic.broadcaster.connectedTotal = traffic.broadcaster.connectionCount +
        traffic.broadcaster.failed + unregistered + swept ∧
      (traffic.broadcaster.failed = (removals .delivery traffic.history).length ∧
        (removals .delivery traffic.history).Nodup) ∧
      traffic.broadcaster.messagesSent = acts.countP Act.completesSend ∧
      traffic.broadcaster.broadcasts = traffic.fanOuts.length ∧
      ((∀ fanOut ∈ traffic.fanOuts, fanOut.isOver = true) →
        ∃ counts, List.Forall₂ FanOut.Returns traffic.fanOuts counts ∧
          traffic.broadcaster.messagesSent = counts.sum) := by
  have tallied := answered.run.tallied
  have perm := registrations_perm answered.run once
  obtain ⟨byCallers, bySweeps⟩ := answered.removals
  have distinct : (registrations traffic.history).Nodup :=
    List.nodup_iff_count_le_one.mpr fun client => by rw [count_registrations]; exact once client
  refine ⟨?_, ⟨tallied.failed, ?_⟩, tallied.sent, tallied.begun, fun complete => ?_⟩
  · have lengths := perm.length_eq
    have present : traffic.broadcaster.names.length = traffic.broadcaster.connectionCount :=
      List.length_map ..
    simp only [List.length_append] at lengths
    rw [tallied.connected, tallied.failed, lengths, present, byCallers, bySweeps]
    omega
  · have removed := (List.nodup_append'.mp (perm.nodup_iff.mp distinct)).2.1
    exact (List.nodup_append'.mp (List.nodup_append'.mp removed).2.1).1
  · exact ⟨_, returned_of_complete complete, tallied.delivered⟩

def oneSent (sendTimeout : Seconds) (broadcaster : Broadcaster) (second : Broadcaster.Delivery)
    (history : List Occurrence) : Traffic :=
  { broadcaster := broadcaster
    sendTimeout := sendTimeout
    fanOuts :=
      [⟨frameText (.blocks, "null"), [⟨0, .over true, true⟩]⟩,
       ⟨frameText (.events, "null"), [⟨0, second, false⟩]⟩]
    sweeps := []
    history := history }

theorem oneSent_second {sendTimeout : Seconds} {broadcaster later : Broadcaster}
    {second point : Broadcaster.Delivery} {history : List Occurrence} (deed : Deed)
    (step : Dispatch.step broadcaster sendTimeout ⟨0, second, false⟩ deed =
      some (later, ⟨0, point, false⟩)) :
    Step (.deed 0 deed) (oneSent sendTimeout broadcaster second history)
      (oneSent sendTimeout later point
        (history ++ Dispatch.occurrences broadcaster ⟨0, second, false⟩ ⟨0, point, false⟩ deed)) :=
  @Step.deed (oneSent sendTimeout broadcaster second history) [_] [] ⟨_, _⟩ [] [] _ _ _ deed
    rfl rfl step

def settledActs : List Act :=
  pairActs ++ [.deed 0 (.does .sent), .deed 0 tearing, .deed 0 (.does (.closed none))]

def settled (sendTimeout : Seconds) : Traffic :=
  oneSent sendTimeout ⟨[], 1, 1, 1, 2⟩ (.over false) [.registered 0, .removed 0 .delivery, .closed 0]

theorem settled_run (sendTimeout : Seconds) :
    Run (idle sendTimeout) settledActs (settled sendTimeout) := by
  have sent : Step (.deed 0 (.does .sent)) (whole sendTimeout)
      (oneSent sendTimeout ⟨[(0, Channel.all)], 1, 0, 1, 2⟩ .sending [.registered 0]) :=
    @Step.deed (whole sendTimeout) [] [_] ⟨_, _⟩ [] [] _ _ _ (.does .sent) rfl rfl rfl
  exact (((whole_run sendTimeout).snoc sent).snoc (oneSent_second tearing rfl)).snoc
    (oneSent_second (.does (.closed none)) rfl)

theorem accounts_balance_settled :
    Answered (idle (.whole 5)) settledActs (settled (.whole 5)) 0 0 ∧
      (settled (.whole 5)).broadcaster.connectedTotal = 0 + 1 + 0 + 0 ∧
      ∃ counts, List.Forall₂ FanOut.Returns (settled (.whole 5)).fanOuts counts ∧
        (settled (.whole 5)).broadcaster.messagesSent = counts.sum := by
  have once (client : ConnectionName) :
      (settled (.whole 5)).history.count (.registered client) ≤ 1 := by
    have distinct : (registrations (settled (.whole 5)).history).Nodup := by decide
    rw [← count_registrations]
    exact List.nodup_iff_count_le_one.mp distinct client
  obtain ⟨unregistered, swept, answered⟩ := (settled_run (.whole 5)).answered
  obtain ⟨rfl, rfl⟩ := answered.removals
  obtain ⟨connected, -, -, -, returned⟩ := accounts_balance answered once
  exact ⟨answered, connected, returned (by decide)⟩

end Traffic

end LedgerFeed
