import Mathlib.Algebra.GroupWithZero.Nat
import Mathlib.Logic.Relation
import LedgerFeed.Proofs.Gateway.Manner
import LedgerFeed.Proofs.Gateway.Removal

/-!
# What a stuck connection stalls

Calls are under way on one broadcaster, and each connection behaves in its manner. Left to itself
the traffic comes to rest, and then nothing is left but closes that never end. A broadcast is then
unfinished exactly if one of its deliveries waits for such a close, and a call that closes all has
closed the connections up to the first one whose close never ends (`stalls_at_close`).
-/

namespace LedgerFeed

namespace Traffic

open Relation

inductive Internal (manners : Manners) : Traffic → Traffic → Prop
  | deed {traffic next : Traffic} {client : ConnectionName} {deed : Deed}
      (shows : (manners client).Shows deed) (step : Step (.deed client deed) traffic next) :
      Internal manners traffic next
  | closeEnds {traffic : Traffic} {earlier later : List (List ConnectionName)}
      {client : ConnectionName} {rest : List ConnectionName} {failure : Option Fault}
      (shows : (manners client).Shows (.does (.closed failure)))
      (under : traffic.sweeps = earlier ++ (client :: rest) :: later) :
      Internal manners traffic
        { traffic with
          sweeps := earlier ++ rest :: later
          history := traffic.history ++ nextClose rest }

def Act.IsCall : Act → Prop
  | .register _ _ | .unregister _ | .broadcast _ _ | .closeAll => True
  | .deed _ _ | .closeEnds _ => False

inductive Going (manners : Manners) : Traffic → Traffic → Prop
  | internal {traffic next : Traffic} (internal : Internal manners traffic next) :
      Going manners traffic next
  | call {traffic next : Traffic} {act : Act} (step : Step act traffic next) (calls : act.IsCall) :
      Going manners traffic next

def Reached (manners : Manners) (sendTimeout : Seconds) (traffic : Traffic) : Prop :=
  ReflTransGen (Going manners) (idle sendTimeout) traffic

/-- Nothing can go on by itself: what has not ended waits for a close that never ends. -/
def Quiet (manners : Manners) (traffic : Traffic) : Prop :=
  ∀ next, ¬ Internal manners traffic next

variable {manners : Manners} {sendTimeout : Seconds} {start traffic next later : Traffic}

/-! ## Runs -/

theorem Internal.act (h : Internal manners traffic next) : ∃ act, Step act traffic next := by
  cases h with
  | deed shows step => exact ⟨_, step⟩
  | @closeEnds _ _ _ _ failure shows under => exact ⟨_, .closeEnds failure shows.ends.2 under⟩

theorem Going.act (h : Going manners traffic next) : ∃ act, Step act traffic next := by
  cases h with
  | internal internal => exact internal.act
  | call step calls => exact ⟨_, step⟩

theorem run_of_going (h : ReflTransGen (Going manners) start traffic) :
    ∃ acts, Run start acts traffic := by
  induction h with
  | refl => exact ⟨[], .refl⟩
  | tail _ going ih =>
      obtain ⟨acts, run⟩ := ih
      obtain ⟨act, step⟩ := going.act
      exact ⟨acts ++ [act], run.snoc step⟩

theorem history_grows (reached : Reached manners sendTimeout traffic)
    (run : ReflTransGen (Going manners) traffic later) : traffic.history <+: later.history := by
  obtain ⟨acts, before⟩ := run_of_going reached
  obtain ⟨more, after⟩ := run_of_going run
  exact after.history_prefix (before.nodup List.nodup_nil)

theorem call_adds {act : Act} (calls : act.IsCall) (step : Step act traffic next) :
    (∀ fanOut ∈ next.fanOuts, fanOut ∈ traffic.fanOuts ∨
        ∃ frame targets, fanOut = .start frame targets) ∧
      ∃ begun, next.sweeps = traffic.sweeps ++ begun := by
  cases step with
  | register client filter =>
      unfold Traffic.register
      split <;> exact ⟨fun _ listed => .inl listed, [], (List.append_nil _).symm⟩
  | unregister client => exact ⟨fun _ listed => .inl listed, [], (List.append_nil _).symm⟩
  | broadcast channel data =>
      unfold Traffic.broadcast
      split
      · exact ⟨fun _ listed => .inl listed, [], (List.append_nil _).symm⟩
      · refine ⟨fun fanOut listed => ?_, [], (List.append_nil _).symm⟩
        rcases List.mem_append.mp listed with listed | listed
        · exact .inl listed
        · exact .inr ⟨_, _, List.mem_singleton.mp listed⟩
  | closeAll => exact ⟨fun _ listed => .inl listed, _, rfl⟩
  | deed | closeEnds => exact calls.elim

/-! ## Coming to rest -/

def rank (traffic : Traffic) : Nat :=
  (traffic.fanOuts.map FanOut.rank).sum + (traffic.sweeps.map List.length).sum

theorem Internal.rank_lt (h : Internal manners traffic next) : next.rank < traffic.rank := by
  cases h with
  | deed shows step =>
      cases step with
      | deed deed under split step =>
          have less := FanOut.rank_step split (Dispatch.step_cases step)
          simp only [rank, under, List.map_append, List.map_cons, List.sum_append, List.sum_cons]
          omega
  | closeEnds shows under =>
      simp only [rank, under, List.map_append, List.map_cons, List.sum_append, List.sum_cons,
        List.length_cons]
      omega

theorem terminates (traffic : Traffic) :
    Acc (fun next traffic => Internal manners traffic next) traffic :=
  Subrelation.accessible Internal.rank_lt ((measure rank).wf.apply traffic)

/-! ## Unfinished broadcasts -/

theorem quiet_iff : traffic.Quiet manners ↔
    (∀ fanOut ∈ traffic.fanOuts, ∀ dispatch ∈ fanOut.dispatches,
        dispatch.isOver = true ∨ dispatch.Stuck (manners dispatch.client)) ∧
      ∀ sweep ∈ traffic.sweeps, ∀ client ∈ sweep.head?, (manners client).close = .never := by
  constructor
  · refine fun quiet => ⟨fun fanOut under dispatch listed => ?_, fun sweep under client first => ?_⟩
    · by_contra neither
      obtain ⟨unfinished, free⟩ := not_or.mp neither
      obtain ⟨deed, shows, -, broadcaster, next, step⟩ := Dispatch.goes_on traffic.broadcaster
        traffic.sendTimeout true (Bool.eq_false_iff.mpr unfinished) free
      obtain ⟨earlier, later, among⟩ := List.append_of_mem under
      obtain ⟨before, after, split⟩ := List.append_of_mem listed
      exact quiet _ (.deed shows (.deed deed among split step))
    · by_contra ends
      obtain ⟨failure, shows⟩ := Manner.close_ends ends
      obtain ⟨rest, rfl⟩ := List.head?_eq_some_iff.mp first
      obtain ⟨earlier, later, among⟩ := List.append_of_mem under
      exact quiet _ (.closeEnds shows among)
  · rintro ⟨deliveries, sweeps⟩ next internal
    cases internal with
    | deed shows step =>
        cases step with
        | deed deed under split step =>
            have rests := deliveries _ (under ▸ List.mem_append_cons_self) _
              (split ▸ List.mem_append_cons_self)
            rw [Dispatch.step_none rests shows] at step
            cases step
    | closeEnds shows under =>
        exact shows.ends.1 (sweeps _ (under ▸ List.mem_append_cons_self) _ rfl)

theorem Quiet.unfinished_iff (quiet : traffic.Quiet manners) {fanOut : FanOut}
    (under : fanOut ∈ traffic.fanOuts) {dispatch : Dispatch}
    (listed : dispatch ∈ fanOut.dispatches) :
    dispatch.isOver = false ↔ dispatch.Stuck (manners dispatch.client) := by
  constructor
  · intro unfinished
    have rests := (quiet_iff.mp quiet).1 fanOut under dispatch listed
    exact rests.resolve_left (by simp [unfinished])
  · rintro ⟨waits, -⟩
    simp [Dispatch.isOver, waits]

def ClosesFailed (manners : Manners) (traffic : Traffic) : Prop :=
  ∀ fanOut ∈ traffic.fanOuts, ∀ dispatch ∈ fanOut.dispatches,
    dispatch.point = .closing → (manners dispatch.client).send ≠ .returns

theorem ClosesFailed.going (h : traffic.ClosesFailed manners)
    (going : Going manners traffic next) : next.ClosesFailed manners := by
  cases going with
  | call step calls =>
      intro fanOut under dispatch listed closing
      rcases (call_adds calls step).1 fanOut under with under | ⟨frame, targets, rfl⟩
      · exact h fanOut under dispatch listed closing
      · obtain ⟨client, -, rfl⟩ := List.mem_map.mp listed
        cases closing
  | internal internal =>
      cases internal with
      | closeEnds shows under => exact h
      | deed shows step =>
          cases step with
          | @deed _ earlier later fanOut before after dispatch next broadcaster deed under split
              step =>
              intro other among found listed closing
              have old : ∀ found ∈ fanOut.dispatches, found.point = .closing →
                  (manners found.client).send ≠ .returns := h fanOut (by simp [under])
              rcases List.mem_append.mp among with among | among
              · exact h other (by simp [under, among]) found listed closing
              rcases List.mem_cons.mp among with rfl | among
              · rcases List.mem_append.mp listed with listed | listed
                · exact old found (by simp [split, listed]) closing
                rcases List.mem_cons.mp listed with rfl | listed
                · -- Only a send that fails leads to closing.
                  cases Dispatch.step_cases step with
                  | opened | shut | sent | closed => cases closing
                  | takes at_ =>
                      rw [show _ = _ from at_] at closing
                      cases closing
                  | raised fault => exact shows.fails
                · exact old found (by simp [split, listed]) closing
              · exact h other (by simp [under, among]) found listed closing

theorem Reached.closesFailed (reached : Reached manners sendTimeout traffic) :
    traffic.ClosesFailed manners := by
  induction reached with
  | refl =>
      intro fanOut under
      cases under
  | tail _ going ih => exact ih.going going

theorem Quiet.over (quiet : traffic.Quiet manners) (reached : Reached manners sendTimeout traffic)
    (spared : ∀ client, (manners client).close = .never → (manners client).send = .returns)
    {fanOut : FanOut} (under : fanOut ∈ traffic.fanOuts) : fanOut.isOver = true := by
  refine List.all_eq_true.mpr fun dispatch listed => ?_
  refine ((quiet_iff.mp quiet).1 fanOut under dispatch listed).resolve_right fun ⟨waits, never⟩ => ?_
  exact reached.closesFailed fanOut under dispatch listed waits (spared _ never)

def alone (sendTimeout : Seconds) (client : ConnectionName) (broadcaster : Broadcaster)
    (point : Broadcaster.Delivery) (history : List Occurrence) : Traffic :=
  { broadcaster := broadcaster
    sendTimeout := sendTimeout
    fanOuts := [⟨frameText (.blocks, "null"), [⟨client, point, false⟩]⟩]
    sweeps := []
    history := history }

theorem alone_step {client : ConnectionName} {broadcaster later : Broadcaster}
    {point next : Broadcaster.Delivery} {deed : Deed} (history : List Occurrence)
    (shows : (manners client).Shows deed)
    (step : Dispatch.step broadcaster sendTimeout ⟨client, point, false⟩ deed =
      some (later, ⟨client, next, false⟩)) :
    Going manners (alone sendTimeout client broadcaster point history)
      (alone sendTimeout client later next (history ++
        Dispatch.occurrences broadcaster ⟨client, point, false⟩ ⟨client, next, false⟩ deed)) :=
  .internal (.deed shows
    (@Step.deed (alone sendTimeout client broadcaster point history) [] [] ⟨_, _⟩ [] [] _ _ _ deed
      rfl rfl step))

def failedAlone (sendTimeout : Seconds) (client : ConnectionName) : Traffic :=
  alone sendTimeout client ⟨[], 1, 1, 0, 1⟩ .closing
    [.registered client, .removed client .delivery, .closed client]

theorem reached_failedAlone (sendTimeout : Seconds) {client : ConnectionName}
    (fails : (manners client).send ≠ .returns) :
    Reached manners sendTimeout (failedAlone sendTimeout client) := by
  obtain ⟨fault, caught, shows⟩ :=
    (manners client).send_ends.resolve_left fun sent => fails sent.sends
  have registered : Reached manners sendTimeout ⟨⟨[(client, Channel.all)], 1, 0, 0, 0⟩,
      sendTimeout, [], [], [.registered client]⟩ := .single (.call (.register client .null) trivial)
  have begun := registered.tail (.call
    (.broadcast (.ofSlot (.channel .blocks)) Json.null.toValue) trivial)
  rw [broadcast_null] at begun
  change Reached manners sendTimeout (alone sendTimeout client
    ⟨[(client, Channel.all)], 1, 0, 0, 1⟩ .checking [.registered client]) at begun
  have opened := begun.tail (alone_step _ (.seen true) rfl)
  have drops : Broadcaster.drop ⟨[(client, Channel.all)], 1, 0, 0, 1⟩ client "send_failed" =
      (⟨[], 1, 1, 0, 1⟩, true, [Broadcaster.log .info "connection_dropped"
        [("reason", .text "send_failed"), ("connections", .ofNat 0)]]) := by
    simp [Broadcaster.drop, Broadcaster.unregister, Broadcaster.isRegistered,
      Broadcaster.connectionCount]
  have step : Dispatch.step ⟨[(client, Channel.all)], 1, 0, 0, 1⟩ sendTimeout
      ⟨client, .sending, false⟩ (.does (.raised fault)) =
        some (⟨[], 1, 1, 0, 1⟩, ⟨client, .closing, false⟩) := by
    simp [Dispatch.step, Broadcaster.proceed, caught, Broadcaster.conclude, drops,
      Broadcaster.Conduct.isSent]
  have failed := alone_step [.registered client] shows step
  simp only [Dispatch.occurrences, drops, ↓reduceIte] at failed
  exact opened.tail failed

theorem quiet_failedAlone (sendTimeout : Seconds) {client : ConnectionName}
    (never : (manners client).close = .never) : (failedAlone sendTimeout client).Quiet manners := by
  rw [quiet_iff]
  simp [failedAlone, alone, Dispatch.Stuck, never]

/-! ## Closing all -/

def upToStuck (manners : Manners) : List ConnectionName → List ConnectionName
  | [] => []
  | client :: rest =>
      match (manners client).close with
      | .never => [client]
      | .returns | .raises _ _ => client :: upToStuck manners rest

theorem upToStuck_cons {client : ConnectionName} (ends : (manners client).close ≠ .never)
    (rest : List ConnectionName) :
    upToStuck manners (client :: rest) = client :: upToStuck manners rest := by
  rw [upToStuck]
  split
  · exact absurd ‹_› ends
  · rfl
  · rfl

theorem upToStuck_append {done : List ConnectionName}
    (ends : ∀ client ∈ done, (manners client).close ≠ .never) (rest : List ConnectionName) :
    upToStuck manners (done ++ rest) = done ++ upToStuck manners rest := by
  induction done with
  | nil => rfl
  | cons client done ih =>
      obtain ⟨first, others⟩ := List.forall_mem_cons.mp ends
      rw [List.cons_append, upToStuck_cons first, ih others, List.cons_append]

theorem upToStuck_eq_self_iff (names : List ConnectionName) :
    upToStuck manners names = names ↔
      ∀ client ∈ names.dropLast, (manners client).close ≠ .never := by
  induction names with
  | nil => simp [upToStuck]
  | cons client rest ih =>
      by_cases ends : (manners client).close = .never
      · cases rest with
        | nil => simp [upToStuck, ends]
        | cons second rest => simp [upToStuck, ends]
      · rw [upToStuck_cons ends, List.cons_inj_right, ih]
        cases rest with
        | nil => simp
        | cons second rest => simp [List.dropLast_cons_cons, ends]

/-- How far a call that closes all has come with the connections that it took. -/
def Swept (manners : Manners) (index : Nat) (names : List ConnectionName) (traffic : Traffic) :
    Prop :=
  ∃ done rest, names = done ++ rest ∧ traffic.sweeps[index]? = some rest ∧
    (∀ client ∈ done, (manners client).close ≠ .never) ∧
    ∀ client ∈ done ++ rest.take 1, .closed client ∈ traffic.history

theorem nextClose_eq (rest : List ConnectionName) :
    nextClose rest = (rest.take 1).map .closed := by
  cases rest <;> rfl

variable {index : Nat} {names : List ConnectionName}

theorem swept_closeAll (traffic : Traffic) :
    Swept manners traffic.sweeps.length traffic.broadcaster.names traffic.closeAll := by
  refine ⟨[], traffic.broadcaster.names, rfl, ?_, by simp, fun client listed => ?_⟩
  · simp [Traffic.closeAll, Broadcaster.takeAll, Broadcaster.names]
  · refine List.mem_append_right _ (List.mem_append_right _ ?_)
    show _ ∈ nextClose traffic.broadcaster.names
    rw [nextClose_eq]
    exact List.mem_map_of_mem listed

theorem Swept.going (h : traffic.Swept manners index names) (going : Going manners traffic next)
    (grows : traffic.history <+: next.history) : next.Swept manners index names := by
  obtain ⟨done, rest, rfl, at_, ends, closed⟩ := h
  have still : ∀ client ∈ done ++ rest.take 1, .closed client ∈ next.history :=
    fun client listed => grows.subset (closed client listed)
  cases going with
  | call step calls =>
      obtain ⟨begun, adds⟩ := (call_adds calls step).2
      obtain ⟨bound, -⟩ := List.getElem?_eq_some_iff.mp at_
      exact ⟨done, rest, rfl, by rw [adds, List.getElem?_append_left bound, at_], ends, still⟩
  | internal internal =>
      cases internal with
      | deed shows step =>
          cases step with
          | deed => exact ⟨done, rest, rfl, at_, ends, still⟩
      | @closeEnds earlier later client left failure shows under =>
          by_cases same : index = earlier.length
          · subst same
            rw [under, List.getElem?_append_right (Nat.le_refl _), Nat.sub_self] at at_
            cases at_
            refine ⟨done ++ [client], left, by simp, by simp, ?_, fun other listed => ?_⟩
            · simpa [or_imp, forall_and] using ⟨ends, shows.ends.1⟩
            · rw [List.mem_append] at listed
              rcases listed with listed | listed
              · exact still other (by simpa using listed)
              · rw [nextClose_eq]
                exact List.mem_append_right _ (List.mem_map_of_mem listed)
          · have elsewhere : earlier ++ left :: later = traffic.sweeps.set earlier.length left := by
              rw [under, List.set_append_right _ _ (Nat.le_refl _), Nat.sub_self]
              rfl
            refine ⟨done, rest, rfl, ?_, ends, still⟩
            show (earlier ++ left :: later)[index]? = some rest
            rw [elsewhere, List.getElem?_set_ne (Ne.symm same), at_]

theorem Swept.run (h : traffic.Swept manners index names)
    (reached : Reached manners sendTimeout traffic)
    (run : ReflTransGen (Going manners) traffic later) : later.Swept manners index names := by
  induction run with
  | refl => exact h
  | tail run going ih => exact ih.going going (history_grows (reached.trans run) (.single going))

theorem Swept.quiet (h : traffic.Swept manners index names) (quiet : traffic.Quiet manners) :
    ∃ rest, names = upToStuck manners names ++ rest.tail ∧ traffic.sweeps[index]? = some rest ∧
      ∀ client ∈ upToStuck manners names, .closed client ∈ traffic.history := by
  obtain ⟨done, rest, rfl, at_, ends, closed⟩ := h
  rw [upToStuck_append ends]
  cases rest with
  | nil => exact ⟨[], by simp [upToStuck], at_, by simpa [upToStuck] using closed⟩
  | cons client rest =>
      have never := (quiet_iff.mp quiet).2 _ (List.mem_of_getElem? at_) client rfl
      exact ⟨client :: rest, by simp [upToStuck, never], at_,
        by simpa [upToStuck, never] using closed⟩

theorem unclosed (reached : Reached manners sendTimeout traffic) {rest : List ConnectionName}
    (under : rest ∈ traffic.sweeps) {client : ConnectionName} (listed : client ∈ rest.tail)
    (once : traffic.history.count (.registered client) ≤ 1) :
    .closed client ∉ traffic.history := by
  obtain ⟨acts, run⟩ := run_of_going reached
  have owed : (traffic.place client).owed ≠ 0 :=
    Nat.ne_zero_of_lt (List.count_pos_iff.mpr (List.mem_flatMap.mpr ⟨rest, under, listed⟩))
  have told := (run.story once).owed owed
  intro closed
  have mine : .closed client ∈ about client traffic.history :=
    List.mem_filter.mpr ⟨closed, by simp [Occurrence.client]⟩
  simp [told] at mine

/-! ## The stall -/

/-- Left to itself the traffic comes to rest. Then a delivery is unfinished exactly if it waits for a
close that never ends, which no broadcast does just if each connection whose close never ends
completes its sends. A call that closes all has then closed the connections that it took up to the
first one whose close never ends, and none after it. -/
theorem stalls_at_close (manners : Manners) (sendTimeout : Seconds) :
    (∀ traffic, Acc (fun next traffic => Internal manners traffic next) traffic) ∧
    (∀ traffic : Traffic, traffic.Quiet manners → ∀ fanOut ∈ traffic.fanOuts,
      ∀ dispatch ∈ fanOut.dispatches,
        (dispatch.isOver = false ↔ dispatch.Stuck (manners dispatch.client))) ∧
    ((∀ traffic, Reached manners sendTimeout traffic → traffic.Quiet manners →
        ∀ fanOut ∈ traffic.fanOuts, fanOut.isOver = true) ↔
      ∀ client, (manners client).close = .never → (manners client).send = .returns) ∧
    ∀ traffic later, Reached manners sendTimeout traffic →
      ReflTransGen (Going manners) traffic.closeAll later → later.Quiet manners →
      (∀ client ∈ traffic.broadcaster.names, later.history.count (.registered client) ≤ 1) →
      (∀ client ∈ traffic.broadcaster.names, .closed client ∈ later.history ↔
        client ∈ upToStuck manners traffic.broadcaster.names) ∧
      ((∀ client ∈ traffic.broadcaster.names, .closed client ∈ later.history) ↔
        ∀ client ∈ traffic.broadcaster.names.dropLast, (manners client).close ≠ .never) := by
  refine ⟨terminates, fun traffic quiet fanOut under dispatch listed =>
    quiet.unfinished_iff under listed, ⟨fun ended client never => ?_, fun spared traffic reached quiet
      fanOut under => quiet.over reached spared under⟩, ?_⟩
  · by_contra fails
    have unfinished := ended _ (reached_failedAlone sendTimeout fails)
      (quiet_failedAlone sendTimeout never) _ List.mem_cons_self
    cases unfinished
  · intro traffic later reached run quiet once
    have begun : Reached manners sendTimeout traffic.closeAll :=
      reached.tail (.call .closeAll trivial)
    obtain ⟨rest, split, at_, closed⟩ := ((swept_closeAll traffic).run begun run).quiet quiet
    have untouched : ∀ client ∈ rest.tail, .closed client ∉ later.history :=
      fun client listed => unclosed (begun.trans run) (List.mem_of_getElem? at_) listed
        (once client (split ▸ List.mem_append_right _ listed))
    have exactly : ∀ client ∈ traffic.broadcaster.names, .closed client ∈ later.history ↔
        client ∈ upToStuck manners traffic.broadcaster.names := by
      refine fun client listed => ⟨fun seen => ?_, closed client⟩
      rw [split] at listed
      exact (List.mem_append.mp listed).resolve_right fun last => untouched client last seen
    refine ⟨exactly, ?_⟩
    rw [← upToStuck_eq_self_iff]
    constructor
    · intro all
      have none : rest.tail = [] := List.eq_nil_iff_forall_not_mem.mpr fun client listed =>
        untouched client listed (all client (split ▸ List.mem_append_right _ listed))
      rw [none, List.append_nil] at split
      exact split.symm
    · intro whole client listed
      exact closed client (whole.symm ▸ listed)

def firstGone : Manners
  | 0 => ⟨.raises (.raised ⟨"OSError", false, some "gone"⟩) rfl, .never⟩
  | _ => ⟨.returns, .returns⟩

def both : Traffic :=
  ⟨⟨[(0, Channel.all), (1, Channel.all)], 2, 0, 0, 0⟩, .whole 5, [], [],
    [.registered 0, .registered 1]⟩

theorem reached_both : Reached firstGone (.whole 5) both := by
  have first : Reached firstGone (.whole 5) ((idle (.whole 5)).register 0 .null) :=
    .single (.call (.register 0 .null) trivial)
  exact first.tail (.call (.register 1 .null) trivial)

theorem quiet_closeAll_both : both.closeAll.Quiet firstGone := by
  rw [quiet_iff]
  simp [Traffic.closeAll, Broadcaster.takeAll, both, firstGone]

theorem stalls_at_close_firstGone :
    Reached firstGone (.whole 5) both ∧ both.closeAll.Quiet firstGone ∧
      .closed 0 ∈ both.closeAll.history ∧ .closed 1 ∉ both.closeAll.history := by
  obtain ⟨-, -, -, sweeps⟩ := stalls_at_close firstGone (.whole 5)
  obtain ⟨exactly, -⟩ :=
    sweeps both both.closeAll reached_both .refl quiet_closeAll_both (by decide)
  refine ⟨reached_both, quiet_closeAll_both, (exactly 0 (by decide)).mpr (by decide), fun closed => ?_⟩
  exact absurd ((exactly 1 (by decide)).mp closed) (by decide)

/-- A broadcast stays unfinished for good, and a call that closes all never closes a connection that
was in the set, though nothing is wrong with that one. -/
theorem stuck_close_stalls :
    (∃ traffic, Reached firstGone (.whole 5) traffic ∧ traffic.Quiet firstGone ∧
      ∃ fanOut ∈ traffic.fanOuts, fanOut.isOver = false) ∧
    ∃ traffic, Reached firstGone (.whole 5) traffic ∧ 1 ∈ traffic.broadcaster.names ∧
      (firstGone 1).close = .returns ∧
      ∃ later, ReflTransGen (Going firstGone) traffic.closeAll later ∧ later.Quiet firstGone ∧
        .closed 1 ∉ later.history :=
  ⟨⟨failedAlone (.whole 5) 0, reached_failedAlone _ (by simp [firstGone]), quiet_failedAlone _ rfl, _,
      List.mem_cons_self, rfl⟩,
    both, reached_both, by decide, rfl, both.closeAll, .refl, quiet_closeAll_both, by decide⟩

end Traffic

end LedgerFeed
