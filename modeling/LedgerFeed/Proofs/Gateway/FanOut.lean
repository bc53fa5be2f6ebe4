import Mathlib.Data.List.Basic
import LedgerFeed.Gateway.Broadcaster

namespace LedgerFeed

structure Dispatch where
  client : ConnectionName
  point : Broadcaster.Delivery
  taken : Bool

inductive Deed
  | takes
  | does (conduct : Broadcaster.Conduct)

def Deed.Steady : Deed → Prop
  | .does (.seen isOpen) => isOpen = true
  | .does (.raised _) => False
  | .takes | .does .sent | .does (.closed _) => True

structure FanOut where
  frame : Text
  dispatches : List Dispatch

namespace Broadcaster

def Registered (broadcaster : Broadcaster) (client : ConnectionName) (channels : List Channel) :
    Prop :=
  (broadcaster.connections.filter fun entry => entry.1 = client) = [(client, channels)]

variable {broadcaster : Broadcaster} {client other : ConnectionName} {channels : List Channel}

theorem insert_other (connections : List (ConnectionName × List Channel)) (others : List Channel)
    (h : other ≠ client) :
    ((insert connections other others).filter fun entry => entry.1 = client) =
      connections.filter fun entry => entry.1 = client := by
  induction connections with
  | nil => simp [insert, h]
  | cons entry rest ih =>
      obtain ⟨name, old⟩ := entry
      by_cases same : name = other
      · subst same
        simp [insert, h]
      · simp only [insert, same, ↓reduceIte, List.filter_cons, ih]

theorem Registered.register (hr : broadcaster.Registered client channels) (h : other ≠ client)
    (others : List Channel) :
    (broadcaster.register other others).1.Registered client channels := by
  unfold Registered at *
  rw [← hr]
  exact insert_other _ _ h

theorem Registered.unregister (hr : broadcaster.Registered client channels) (h : other ≠ client) :
    (broadcaster.unregister other).1.Registered client channels := by
  unfold Registered Broadcaster.unregister at *
  rw [List.filter_filter, ← hr]
  refine List.filter_congr fun entry _ => ?_
  by_cases same : entry.1 = client
  · simp [same, h.symm]
  · simp [same]

theorem Registered.drop (hr : broadcaster.Registered client channels) (h : other ≠ client)
    (reason : String) : (broadcaster.drop other reason).1.Registered client channels := by
  have removed := hr.unregister h
  unfold Broadcaster.drop
  split
  · rename_i next equation
    rw [equation] at removed
    exact removed
  · rename_i next equation
    rw [equation] at removed
    exact removed

theorem Registered.snapshot (hr : broadcaster.Registered client channels) (channel : Channel) :
    ((broadcaster.snapshot channel).2.filter fun target => target = client) =
      if channels.contains channel then [client] else [] := by
  unfold Registered at hr
  simp only [Broadcaster.snapshot, List.filter_map, Function.comp_def, List.filter_filter]
  rw [List.filter_congr fun entry _ => Bool.and_comm _ _, ← List.filter_filter, hr]
  rw [List.filter_cons]
  split <;> rfl

end Broadcaster

/-! ## One dispatch -/

def Broadcaster.Conduct.isSent (conduct : Broadcaster.Conduct) : Bool := conduct matches .sent

namespace Dispatch

def step (broadcaster : Broadcaster) (deadline : Seconds) (dispatch : Dispatch) :
    Deed → Option (Broadcaster × Dispatch)
  | .takes =>
      if dispatch.point = .sending ∧ dispatch.taken = false then
        some (broadcaster, { dispatch with taken := true })
      else
        none
  | .does conduct =>
      (broadcaster.proceed dispatch.client deadline dispatch.point conduct).map
        fun (broadcaster, point, _) =>
          (broadcaster, { dispatch with
            point := point
            taken := dispatch.taken || conduct.isSent })

def isOver (dispatch : Dispatch) : Bool :=
  match dispatch.point with
  | .over _ => true
  | _ => false

def rank (dispatch : Dispatch) : Nat :=
  match dispatch.point with
  | .checking => 4
  | .sending => if dispatch.taken then 2 else 3
  | .closing => 1
  | .over _ => 0

def gained (frame : Text) (dispatch next : Dispatch) : List (ConnectionName × Text) :=
  if next.taken && !dispatch.taken then [(dispatch.client, frame)] else []

inductive OnCourse : Dispatch → Prop
  | checking (client : ConnectionName) : OnCourse ⟨client, .checking, false⟩
  | sending (client : ConnectionName) (taken : Bool) : OnCourse ⟨client, .sending, taken⟩
  | delivered (client : ConnectionName) : OnCourse ⟨client, .over true, true⟩

variable {broadcaster later : Broadcaster} {deadline : Seconds} {dispatch next : Dispatch}
  {deed : Deed}

theorem step_does {conduct : Broadcaster.Conduct} {point : Broadcaster.Delivery} {logs : Logs}
    (proceeds : broadcaster.proceed dispatch.client deadline dispatch.point conduct =
      some (later, point, logs)) :
    dispatch.step broadcaster deadline (.does conduct) = some (later, { dispatch with
      point := point
      taken := dispatch.taken || conduct.isSent }) := by
  rw [step, proceeds]
  rfl

inductive Steps (broadcaster : Broadcaster) (dispatch : Dispatch) :
    Deed → Broadcaster → Dispatch → Prop
  | opened (at_ : dispatch.point = .checking) :
      Steps broadcaster dispatch (.does (.seen true)) broadcaster { dispatch with point := .sending }
  | shut (at_ : dispatch.point = .checking) :
      Steps broadcaster dispatch (.does (.seen false))
        (broadcaster.drop dispatch.client "closed").1 { dispatch with point := .over false }
  | takes (at_ : dispatch.point = .sending) (fresh : dispatch.taken = false) :
      Steps broadcaster dispatch .takes broadcaster { dispatch with taken := true }
  | sent (at_ : dispatch.point = .sending) :
      Steps broadcaster dispatch (.does .sent)
        { broadcaster with messagesSent := broadcaster.messagesSent + 1 }
        { dispatch with point := .over true, taken := true }
  | raised (fault : Fault) (at_ : dispatch.point = .sending) :
      Steps broadcaster dispatch (.does (.raised fault))
        (broadcaster.drop dispatch.client "send_failed").1
        { dispatch with
          point := if (broadcaster.drop dispatch.client "send_failed").2.1 then .closing
            else .over false }
  | closed (failure : Option Fault) (at_ : dispatch.point = .closing) :
      Steps broadcaster dispatch (.does (.closed failure)) broadcaster
        { dispatch with point := .over false }

theorem step_cases (h : dispatch.step broadcaster deadline deed = some (later, next)) :
    Steps broadcaster dispatch deed later next := by
  cases deed with
  | takes =>
      simp only [step] at h
      split at h <;> cases h
      rename_i ready
      exact .takes ready.1 ready.2
  | does conduct =>
      obtain ⟨⟨_, _, logs⟩, proceeds, same⟩ := Option.map_eq_some_iff.mp h
      cases same
      unfold Broadcaster.proceed at proceeds
      split at proceeds
      · rename_i isOpen at_
        simp only [Broadcaster.Conduct.isSent, Bool.or_false]
        cases isOpen with
        | true =>
            cases proceeds
            exact .opened at_
        | false =>
            cases proceeds
            exact .shut at_
      · rename_i at_
        simp only [Broadcaster.Conduct.isSent, Bool.or_true]
        cases proceeds
        exact .sent at_
      · rename_i fault at_
        simp only [Broadcaster.Conduct.isSent, Bool.or_false]
        split at proceeds
        · cases proceeds
          exact .raised fault at_
        · cases proceeds
      · rename_i at_
        simp only [Broadcaster.Conduct.isSent, Bool.or_false]
        cases proceeds
        exact .closed none at_
      · rename_i fault at_
        simp only [Broadcaster.Conduct.isSent, Bool.or_false]
        split at proceeds
        · cases proceeds
          exact .closed (some fault) at_
        · cases proceeds
      · cases proceeds

theorem Steps.client (h : Steps broadcaster dispatch deed later next) :
    next.client = dispatch.client := by
  cases h <;> rfl

theorem Steps.taken (h : Steps broadcaster dispatch deed later next)
    (ht : dispatch.taken = true) : next.taken = true := by
  cases h <;> first | exact ht | rfl

theorem Steps.turns {conduct : Broadcaster.Conduct}
    (h : Steps broadcaster dispatch (.does conduct) later next) :
    next.point ≠ dispatch.point ∧ next.point ≠ .checking := by
  cases h with
  | opened at_ | shut at_ | sent at_ | closed _ at_ => simp [at_]
  | raised fault at_ => split <;> simp [at_]

theorem Steps.rank (h : Steps broadcaster dispatch deed later next) :
    next.rank < dispatch.rank := by
  have sending : 1 < (if dispatch.taken then 2 else 3) := by split <;> omega
  cases h with
  | opened at_ =>
      simp only [Dispatch.rank, at_]
      split <;> omega
  | shut at_ => simp [Dispatch.rank, at_]
  | takes at_ fresh => simp [Dispatch.rank, at_, fresh]
  | sent at_ =>
      simp only [Dispatch.rank, at_]
      omega
  | raised fault at_ =>
      cases (broadcaster.drop dispatch.client "send_failed").2.1 <;>
        simp only [Dispatch.rank, at_, Bool.false_eq_true, ↓reduceIte] <;> omega
  | closed failure at_ => simp [Dispatch.rank, at_]

theorem step_enabled (broadcaster : Broadcaster) (deadline : Seconds) (h : dispatch.isOver = false) :
    ∃ deed later next, deed.Steady ∧
      dispatch.step broadcaster deadline deed = some (later, next) := by
  obtain ⟨client, _ | _ | _ | delivered, taken⟩ := dispatch
  · exact ⟨.does (.seen true), _, _, rfl, rfl⟩
  · exact ⟨.does .sent, _, _, trivial, rfl⟩
  · exact ⟨.does (.closed none), _, _, trivial, rfl⟩
  · cases h

theorem Steps.onCourse (h : Steps broadcaster dispatch deed later next)
    (steady : deed.Steady) (hc : dispatch.OnCourse) : next.OnCourse := by
  cases h with
  | opened at_ =>
      cases hc with
      | checking client => exact .sending client false
      | sending | delivered => cases at_
  | shut at_ => cases steady
  | takes at_ fresh =>
      cases hc with
      | sending client taken => exact .sending client true
      | checking | delivered => cases at_
  | sent at_ => exact .delivered _
  | raised => exact steady.elim
  | closed failure at_ => cases hc <;> cases at_

theorem OnCourse.over (hc : dispatch.OnCourse) (h : dispatch.isOver = true) :
    dispatch.taken = true := by
  cases hc with
  | delivered => rfl
  | checking | sending => cases h

theorem Steps.registered (h : Steps broadcaster dispatch deed later next)
    {client : ConnectionName} {channels : List Channel}
    (steady : dispatch.client = client → deed.Steady)
    (hr : broadcaster.Registered client channels) : later.Registered client channels := by
  cases h with
  | opened | takes | sent | closed => exact hr
  | shut at_ => exact hr.drop (fun same => Bool.false_ne_true (steady same)) _
  | raised => exact hr.drop (fun same => steady same) _

end Dispatch

/-! ## All dispatches -/

namespace FanOut

def start (frame : Text) (targets : List ConnectionName) : FanOut :=
  ⟨frame, targets.map fun client => ⟨client, .checking, false⟩⟩

def isOver (fanOut : FanOut) : Bool := fanOut.dispatches.all Dispatch.isOver

def delivered (fanOut : FanOut) : Nat :=
  fanOut.dispatches.countP fun dispatch => dispatch.point = .over true

def total : List Dispatch → Nat
  | [] => 0
  | dispatch :: rest => dispatch.rank + total rest

theorem total_append (before after : List Dispatch) :
    total (before ++ after) = total before + total after := by
  induction before with
  | nil => simp [total]
  | cons dispatch rest ih => simp only [List.cons_append, total, ih, Nat.add_assoc]

def rank (fanOut : FanOut) : Nat := total fanOut.dispatches

/-- What a broadcast owes a connection, and what of it the connection has. -/
inductive Serves (fanOut : FanOut) (client : ConnectionName) : List Text → List Text → Prop
  | apart (none : (fanOut.dispatches.filter fun d => d.client = client) = []) :
      Serves fanOut client [] []
  | one (dispatch : Dispatch) (course : dispatch.OnCourse)
      (mine : (fanOut.dispatches.filter fun d => d.client = client) = [dispatch]) :
      Serves fanOut client [fanOut.frame] (if dispatch.taken then [fanOut.frame] else [])

variable {fanOut : FanOut} {client : ConnectionName} {due arrived : List Text}

theorem serves_start {broadcaster : Broadcaster} {channels : List Channel}
    (hr : broadcaster.Registered client channels) (channel : Channel) (frame : Text) :
    (start frame (broadcaster.snapshot channel).2).Serves client
      (if channels.contains channel then [frame] else []) [] := by
  have targets := hr.snapshot channel
  have mine : ((start frame (broadcaster.snapshot channel).2).dispatches.filter
      fun d => d.client = client) =
        ((broadcaster.snapshot channel).2.filter fun target => target = client).map
          fun name => ⟨name, .checking, false⟩ := by
    simp only [FanOut.start, List.filter_map, Function.comp_def]
  rw [targets] at mine
  split at mine
  · rename_i heard
    rw [if_pos heard]
    exact .one _ (.checking client) mine
  · rename_i heard
    rw [if_neg heard]
    exact .apart mine

theorem Serves.arrived_prefix (h : fanOut.Serves client due arrived) : arrived <+: due := by
  cases h with
  | apart => exact List.prefix_refl []
  | one dispatch =>
      split
      · exact List.prefix_refl _
      · exact List.nil_prefix

theorem Serves.step (h : fanOut.Serves client due arrived) {broadcaster later : Broadcaster}
    {deed : Deed} {before after : List Dispatch} {dispatch next : Dispatch}
    (split : fanOut.dispatches = before ++ dispatch :: after)
    (steady : dispatch.client = client → deed.Steady)
    (step : Dispatch.Steps broadcaster dispatch deed later next) :
    (FanOut.mk fanOut.frame (before ++ next :: after)).Serves client due
      (arrived ++ ((dispatch.gained fanOut.frame next).filter fun gain => gain.1 = client).map
        (·.2)) := by
  have sender := step.client
  by_cases mine : dispatch.client = client
  · have owner : next.client = client := sender.trans mine
    cases h with
    | apart none =>
        rw [split] at none
        simp [mine] at none
    | one dispatch' course only =>
        -- The connection has one dispatch, so this is it and no other one is the connection's.
        rw [split, List.filter_append, List.filter_cons, if_pos (by simpa using mine),
          List.append_eq_singleton_iff] at only
        obtain ⟨first, rest⟩ | ⟨-, impossible⟩ := only
        · obtain ⟨rfl, others⟩ := List.cons.inj rest
          have last : (before ++ next :: after).filter (fun d => d.client = client) = [next] := by
            rw [List.filter_append, first, List.filter_cons, if_pos (by simpa using owner), others]
            rfl
          have gain : (if dispatch.taken then [fanOut.frame] else []) ++
              ((dispatch.gained fanOut.frame next).filter fun gain => gain.1 = client).map (·.2) =
                if next.taken then [fanOut.frame] else [] := by
            unfold Dispatch.gained
            cases had : dispatch.taken with
            | true => simp [step.taken had]
            | false => cases next.taken <;> simp [mine]
          rw [gain]
          exact .one next (step.onCourse (steady mine) course) last
        · cases impossible
  · have elsewhere : next.client ≠ client := sender ▸ mine
    have gain : (dispatch.gained fanOut.frame next).filter (fun gain => gain.1 = client) = [] := by
      unfold Dispatch.gained
      split <;> simp [mine]
    have same : (before ++ next :: after).filter (fun d => d.client = client) =
        fanOut.dispatches.filter fun d => d.client = client := by
      simp only [split, List.filter_append, List.filter_cons, mine, elsewhere, decide_false,
        Bool.false_eq_true, ↓reduceIte]
    rw [gain, List.map_nil, List.append_nil]
    cases h with
    | apart none => exact .apart (same.trans none)
    | one dispatch' course only => exact .one dispatch' course (same.trans only)

theorem Serves.over (h : fanOut.Serves client due arrived) (ho : fanOut.isOver = true) :
    arrived = due := by
  cases h with
  | apart => rfl
  | one dispatch course mine =>
      have listed : dispatch ∈ fanOut.dispatches :=
        List.mem_of_mem_filter (mine ▸ List.mem_singleton_self dispatch)
      rw [course.over (List.all_eq_true.mp ho dispatch listed), if_pos rfl]

theorem exists_unfinished (h : fanOut.isOver = false) :
    ∃ before dispatch after,
      fanOut.dispatches = before ++ dispatch :: after ∧ dispatch.isOver = false := by
  obtain ⟨dispatch, listed, unfinished⟩ := List.all_eq_false.mp h
  obtain ⟨before, after, split⟩ := List.append_of_mem listed
  exact ⟨before, dispatch, after, split, Bool.eq_false_iff.mpr unfinished⟩

theorem rank_step {broadcaster later : Broadcaster} {deed : Deed}
    {before after : List Dispatch} {dispatch next : Dispatch}
    (split : fanOut.dispatches = before ++ dispatch :: after)
    (step : Dispatch.Steps broadcaster dispatch deed later next) :
    (FanOut.mk fanOut.frame (before ++ next :: after)).rank < fanOut.rank := by
  have less := step.rank
  simp only [rank, split, total_append, total]
  omega

end FanOut

end LedgerFeed
