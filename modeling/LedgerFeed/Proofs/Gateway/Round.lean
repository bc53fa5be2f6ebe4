import Mathlib.Data.List.Perm.Basic
import Mathlib.Logic.Relation
import LedgerFeed.Proofs.Except
import LedgerFeed.Proofs.Gateway.Turns
import LedgerFeed.Proofs.Gateway.Manner

/-!
# A broadcast by itself

A broadcast goes on with no other call beside it, in whatever order the connections do their part.
Where each delivery is says what has become of the broadcaster, what was asked of the connections and
what they received (`Accounted`). So it is settled in advance how the broadcast ends: the connections
that are open and complete their sends are served once, and the others that receive the channel are
removed, and closed if they were open (`broadcast_settles`).
-/

namespace LedgerFeed

inductive Request
  | send (client : ConnectionName) (frame : Text)
  | close (client : ConnectionName)
  deriving DecidableEq

structure Crowd where
  isOpen : ConnectionName → Bool
  manners : Manners

namespace Crowd

variable {crowd : Crowd} {client : ConnectionName}

def serves (crowd : Crowd) (client : ConnectionName) : Bool :=
  crowd.isOpen client && (crowd.manners client).send matches .returns

/-- What a broadcast of a frame asks of a connection that receives the channel, in all. -/
def due (crowd : Crowd) (frame : Text) (client : ConnectionName) : List Request :=
  if crowd.isOpen client then
    if crowd.serves client then [.send client frame] else [.send client frame, .close client]
  else
    []

theorem serves_iff :
    crowd.serves client = true ↔
      crowd.isOpen client = true ∧ (crowd.manners client).send = .returns := by
  cases ends : (crowd.manners client).send <;> simp [serves, ends]

end Crowd

/-! ## Where a delivery is -/

namespace Dispatch

def asks (frame : Text) (dispatch next : Dispatch) : List Request :=
  if next.point = dispatch.point then [] else
    match next.point with
    | .sending => [.send dispatch.client frame]
    | .closing => [.close dispatch.client]
    | .checking | .over _ => []

def asked (crowd : Crowd) (frame : Text) (dispatch : Dispatch) : List Request :=
  match dispatch.point with
  | .checking => []
  | .sending | .over true => [.send dispatch.client frame]
  | .closing => [.send dispatch.client frame, .close dispatch.client]
  | .over false =>
      if crowd.isOpen dispatch.client then
        [.send dispatch.client frame, .close dispatch.client]
      else
        []

def handed (frame : Text) (dispatch : Dispatch) : List (ConnectionName × Text) :=
  if dispatch.taken then [(dispatch.client, frame)] else []

def isLost (dispatch : Dispatch) : Bool :=
  match dispatch.point with
  | .closing | .over false => true
  | .checking | .sending | .over true => false

inductive Lawful (crowd : Crowd) : Dispatch → Prop
  | checking (client : ConnectionName) : Lawful crowd ⟨client, .checking, false⟩
  | sending (client : ConnectionName) (taken : Bool) (opens : crowd.isOpen client = true) :
      Lawful crowd ⟨client, .sending, taken⟩
  | closing (client : ConnectionName) (taken : Bool) (opens : crowd.isOpen client = true)
      (fails : (crowd.manners client).send ≠ .returns) : Lawful crowd ⟨client, .closing, taken⟩
  | delivered (client : ConnectionName) (serves : crowd.serves client = true) :
      Lawful crowd ⟨client, .over true, true⟩
  | refused (client : ConnectionName) (shut : crowd.isOpen client = false) :
      Lawful crowd ⟨client, .over false, false⟩
  | failed (client : ConnectionName) (taken : Bool) (opens : crowd.isOpen client = true)
      (fails : (crowd.manners client).send ≠ .returns) : Lawful crowd ⟨client, .over false, taken⟩

variable {crowd : Crowd} {broadcaster later : Broadcaster} {dispatch next : Dispatch} {deed : Deed}

theorem Steps.lawful (h : Steps broadcaster dispatch deed later next)
    (lawful : dispatch.Lawful crowd) (shows : (crowd.manners dispatch.client).Shows deed)
    (sees : ∀ isOpen, deed = .does (.seen isOpen) → isOpen = crowd.isOpen dispatch.client) :
    next.Lawful crowd := by
  cases h with
  | opened at_ =>
      cases lawful with
      | checking client => exact .sending client false (sees true rfl).symm
      | _ => cases at_
  | shut at_ =>
      cases lawful with
      | checking client => exact .refused client (sees false rfl).symm
      | _ => cases at_
  | takes at_ fresh =>
      cases lawful with
      | sending client taken opens => exact .sending client true opens
      | _ => cases at_
  | sent at_ =>
      cases lawful with
      | sending client taken opens => exact .delivered client (Crowd.serves_iff.mpr ⟨opens, shows.sends⟩)
      | _ => cases at_
  | raised fault at_ =>
      cases lawful with
      | sending client taken opens =>
          split
          · exact .closing client taken opens shows.fails
          · exact .failed client taken opens shows.fails
      | _ => cases at_
  | closed failure at_ =>
      cases lawful with
      | closing client taken opens fails => exact .failed client taken opens fails
      | _ => cases at_

theorem Steps.asked (h : Steps broadcaster dispatch deed later next)
    (lawful : dispatch.Lawful crowd)
    (sees : ∀ isOpen, deed = .does (.seen isOpen) → isOpen = crowd.isOpen dispatch.client)
    (closes : dispatch.point = .sending → next.point ≠ .over false) (frame : Text) :
    next.asked crowd frame = dispatch.asked crowd frame ++ dispatch.asks frame next := by
  cases h with
  | opened at_ | takes at_ | sent at_ => simp [Dispatch.asked, asks, at_]
  | shut at_ => simp [Dispatch.asked, asks, at_, ← sees false rfl]
  | raised fault at_ =>
      split at closes
      · simp [Dispatch.asked, asks, *]
      · exact absurd rfl (closes at_)
  | closed failure at_ =>
      cases lawful with
      | closing client taken opens fails => simp [Dispatch.asked, asks, opens]
      | _ => cases at_

theorem Steps.handed (h : Steps broadcaster dispatch deed later next) (frame : Text) :
    next.handed frame = dispatch.handed frame ++ dispatch.gained frame next := by
  have kept := h.taken
  cases had : dispatch.taken with
  | true => simp [Dispatch.handed, gained, had, kept had, h.client]
  | false => cases has : next.taken <;> simp [Dispatch.handed, gained, had, has, h.client]

theorem Lawful.over (lawful : dispatch.Lawful crowd) (ended : dispatch.isOver = true) :
    (dispatch.point = .over true ↔ crowd.serves dispatch.client = true) ∧
      dispatch.isLost = !crowd.serves dispatch.client ∧
      ∀ frame, dispatch.asked crowd frame = crowd.due frame dispatch.client := by
  cases lawful with
  | checking | sending | closing => cases ended
  | delivered client serves =>
      have opens := (Crowd.serves_iff.mp serves).1
      simp [serves, isLost, asked, Crowd.due, opens]
  | refused client shut => simp [Crowd.serves, isLost, asked, Crowd.due, shut]
  | failed client taken opens fails =>
      have fails : crowd.serves client = false :=
        Bool.eq_false_iff.mpr fun serves => fails (Crowd.serves_iff.mp serves).2
      simp [fails, isLost, asked, Crowd.due, opens]

theorem Lawful.served (lawful : dispatch.Lawful crowd) (ended : dispatch.isOver = true)
    (serves : crowd.serves dispatch.client = true) : dispatch.taken = true := by
  obtain ⟨opens, sends⟩ := Crowd.serves_iff.mp serves
  cases lawful with
  | checking | sending | closing => cases ended
  | delivered => rfl
  | refused client shut => exact absurd (shut.symm.trans opens) Bool.false_ne_true
  | failed client taken _ fails => exact absurd sends fails

theorem handed_apart {dispatches : List Dispatch} {client : ConnectionName}
    (apart : client ∉ dispatches.map Dispatch.client) (frame : Text) :
    (dispatches.flatMap (Dispatch.handed frame)).filter (fun gain => gain.1 = client) = [] := by
  refine List.filter_eq_nil_iff.mpr fun gain listed => ?_
  obtain ⟨dispatch, among, mine⟩ := List.mem_flatMap.mp listed
  have differs : dispatch.client ≠ client := fun same => apart (same ▸ List.mem_map_of_mem among)
  unfold Dispatch.handed at mine
  split at mine
  · rw [List.mem_singleton.mp mine]
    simpa using differs
  · cases mine

theorem Lawful.taken (lawful : dispatch.Lawful crowd) (taken : dispatch.taken = true) :
    crowd.isOpen dispatch.client = true := by
  cases lawful with
  | checking | refused => cases taken
  | sending client taken opens | closing client taken opens | failed client taken opens => exact opens
  | delivered client serves => exact (Crowd.serves_iff.mp serves).1

end Dispatch

/-! ## The broadcaster amid deliveries -/

namespace Broadcaster

def lost (dispatches : List Dispatch) (client : ConnectionName) : Bool :=
  dispatches.any fun dispatch => dispatch.client == client && dispatch.isLost

def amid (broadcaster : Broadcaster) (dispatches : List Dispatch) : Broadcaster :=
  { broadcaster with
    connections := broadcaster.connections.filter fun entry => !lost dispatches entry.1
    failed := broadcaster.failed + dispatches.countP Dispatch.isLost
    messagesSent := broadcaster.messagesSent +
      dispatches.countP fun dispatch => dispatch.point = .over true }

variable {broadcaster later : Broadcaster} {before after : List Dispatch} {dispatch next : Dispatch}
  {deed : Deed}

theorem drop_registered {client : ConnectionName} (registered : broadcaster.isRegistered client = true)
    (reason : String) :
    (broadcaster.drop client reason).1 =
        { (broadcaster.unregister client).1 with failed := broadcaster.failed + 1 } ∧
      (broadcaster.drop client reason).2.1 = true := by
  simp [drop, unregister, registered]

theorem lost_split (before after : List Dispatch) (dispatch : Dispatch) (client : ConnectionName) :
    lost (before ++ dispatch :: after) client =
      (lost before client || (dispatch.client == client && dispatch.isLost) || lost after client) := by
  simp [lost, Bool.or_assoc]

theorem lost_eq_false (others : dispatch.client ∉ before.map Dispatch.client) :
    lost before dispatch.client = false := by
  refine List.any_eq_false.mpr fun other listed => ?_
  have differs : other.client ≠ dispatch.client := fun same =>
    others (same ▸ List.mem_map_of_mem listed)
  simp [differs]

theorem amid_registered (once : ((before ++ dispatch :: after).map Dispatch.client).Nodup)
    (kept : dispatch.isLost = false) (known : dispatch.client ∈ broadcaster.names) :
    (broadcaster.amid (before ++ dispatch :: after)).isRegistered dispatch.client = true := by
  rw [List.map_append, List.map_cons, List.nodup_append', List.nodup_cons] at once
  obtain ⟨-, ⟨later, -⟩, apart⟩ := once
  have earlier : dispatch.client ∉ before.map Dispatch.client := fun listed =>
    apart listed List.mem_cons_self
  have unlost : lost (before ++ dispatch :: after) dispatch.client = false := by
    simp [lost_split, lost_eq_false earlier, lost_eq_false later, kept]
  rw [isRegistered_iff]
  obtain ⟨entry, listed, same⟩ := List.mem_map.mp known
  refine List.mem_map.mpr ⟨entry, List.mem_filter.mpr ⟨listed, ?_⟩, same⟩
  rw [same, unlost]
  rfl

theorem amid_keeps (client : next.client = dispatch.client) (loss : next.isLost = dispatch.isLost)
    (ended : next.point = .over true ↔ dispatch.point = .over true) :
    broadcaster.amid (before ++ next :: after) = broadcaster.amid (before ++ dispatch :: after) := by
  simp [amid, lost_split, List.countP_cons, client, loss, ended]

theorem amid_serves (client : next.client = dispatch.client) (kept : dispatch.isLost = false)
    (unserved : dispatch.point ≠ .over true) (ended : next.point = .over true) :
    broadcaster.amid (before ++ next :: after) =
      { broadcaster.amid (before ++ dispatch :: after) with
        messagesSent := (broadcaster.amid (before ++ dispatch :: after)).messagesSent + 1 } := by
  have served : next.isLost = false := by simp [Dispatch.isLost, ended]
  simp [amid, lost_split, client, kept, unserved, ended, served, Nat.add_assoc]

theorem amid_loses (client : next.client = dispatch.client) (kept : dispatch.isLost = false)
    (unserved : dispatch.point ≠ .over true) (loses : next.isLost = true) :
    broadcaster.amid (before ++ next :: after) =
      { ((broadcaster.amid (before ++ dispatch :: after)).unregister dispatch.client).1 with
        failed := (broadcaster.amid (before ++ dispatch :: after)).failed + 1 } := by
  have served : next.point ≠ .over true := fun ended => by simp [Dispatch.isLost, ended] at loses
  have others : (fun entry : ConnectionName × List Channel =>
      !lost (before ++ next :: after) entry.1) = fun entry =>
        decide (entry.1 ≠ dispatch.client) && !lost (before ++ dispatch :: after) entry.1 := by
    funext entry
    by_cases same : entry.1 = dispatch.client
    · simp [lost_split, client, loses, same]
    · have differs : (dispatch.client == entry.1) = false := beq_eq_false_iff_ne.mpr (Ne.symm same)
      simp [lost_split, client, same, differs]
  have losses : (before ++ next :: after).countP Dispatch.isLost =
      (before ++ dispatch :: after).countP Dispatch.isLost + 1 := by
    simp [kept, loses, Nat.add_assoc]
  simp [amid, unregister, others, losses, List.filter_filter, unserved, served, Nat.add_assoc]

theorem amid_step (once : ((before ++ dispatch :: after).map Dispatch.client).Nodup)
    (known : dispatch.client ∈ broadcaster.names)
    (step : dispatch.Steps (broadcaster.amid (before ++ dispatch :: after)) deed later next) :
    later = broadcaster.amid (before ++ next :: after) ∧
      (dispatch.point = .sending → next.point ≠ .over false) := by
  have registered (at_ : dispatch.point = .checking ∨ dispatch.point = .sending) :
      (broadcaster.amid (before ++ dispatch :: after)).isRegistered dispatch.client = true :=
    amid_registered once (by rcases at_ with at_ | at_ <;> simp [Dispatch.isLost, at_]) known
  obtain ⟨client, point, taken⟩ := dispatch
  cases step with
  | opened at_ =>
      cases at_
      exact ⟨Eq.symm (amid_keeps (by rfl) (by rfl) (by simp)), by simp⟩
  | takes at_ fresh =>
      cases at_
      exact ⟨Eq.symm (amid_keeps (by rfl) (by rfl) (by simp)), by simp⟩
  | closed failure at_ =>
      cases at_
      exact ⟨Eq.symm (amid_keeps (by rfl) (by rfl) (by simp)), by simp⟩
  | sent at_ =>
      cases at_
      exact ⟨Eq.symm (amid_serves (by rfl) (by rfl) (by simp) (by rfl)), by simp⟩
  | shut at_ =>
      cases at_
      rw [(drop_registered (registered (.inl rfl)) _).1]
      exact ⟨Eq.symm (amid_loses (by rfl) (by rfl) (by simp) (by rfl)), by simp⟩
  | raised fault at_ =>
      cases at_
      obtain ⟨drops, found⟩ := drop_registered (registered (.inr rfl)) "send_failed"
      rw [drops, found]
      exact ⟨Eq.symm (amid_loses (by rfl) (by rfl) (by simp) (by rfl)), by simp⟩

end Broadcaster

/-! ## One broadcast -/

structure Round where
  broadcaster : Broadcaster
  fanOut : FanOut
  requests : List Request
  received : List (ConnectionName × Text)

namespace Round

def start (broadcaster : Broadcaster) (channel : Channel) (frame : Text) : Round :=
  let (broadcaster, targets) := broadcaster.snapshot channel
  ⟨broadcaster, .start frame targets, [], []⟩

inductive Step (crowd : Crowd) (deadline : Seconds) : Round → Round → Prop
  | deed {round : Round} {before after : List Dispatch} {dispatch next : Dispatch}
      {broadcaster : Broadcaster} {deed : Deed}
      (shows : (crowd.manners dispatch.client).Shows deed)
      (sees : ∀ isOpen, deed = .does (.seen isOpen) → isOpen = crowd.isOpen dispatch.client)
      (split : round.fanOut.dispatches = before ++ dispatch :: after)
      (step : dispatch.step round.broadcaster deadline deed = some (broadcaster, next)) :
      Step crowd deadline round
        { broadcaster := broadcaster
          fanOut := { round.fanOut with dispatches := before ++ next :: after }
          requests := round.requests ++ dispatch.asks round.fanOut.frame next
          received := round.received ++ dispatch.gained round.fanOut.frame next }

/-- The places of the deliveries account for all that the broadcast has done. -/
structure Accounted (crowd : Crowd) (before : Broadcaster) (channel : Channel) (frame : Text)
    (round : Round) : Prop where
  frame_eq : round.fanOut.frame = frame
  clients : round.fanOut.dispatches.map Dispatch.client = (before.snapshot channel).2
  lawful : ∀ dispatch ∈ round.fanOut.dispatches, dispatch.Lawful crowd
  broadcaster : round.broadcaster = (before.snapshot channel).1.amid round.fanOut.dispatches
  requests : round.requests.Perm (round.fanOut.dispatches.flatMap (Dispatch.asked crowd frame))
  received : round.received.Perm (round.fanOut.dispatches.flatMap (Dispatch.handed frame))

variable {crowd : Crowd} {deadline : Seconds} {round next : Round} {before : Broadcaster}
  {channel : Channel} {frame : Text}

theorem perm_step {β : Type} {f : Dispatch → List β} {all new : List β}
    {earlier later : List Dispatch} {dispatch next : Dispatch}
    (h : all.Perm ((earlier ++ dispatch :: later).flatMap f)) (grows : f next = f dispatch ++ new) :
    (all ++ new).Perm ((earlier ++ next :: later).flatMap f) := by
  have grown := h.append_right new
  simp only [List.flatMap_append, List.flatMap_cons, grows, List.append_assoc] at grown ⊢
  exact grown.trans ((List.perm_append_comm.append_left _).append_left _)

theorem snapshot_nodup (once : before.names.Nodup) (channel : Channel) :
    (before.snapshot channel).2.Nodup :=
  once.sublist (List.filter_sublist.map _)

theorem snapshot_subset (before : Broadcaster) (channel : Channel) {client : ConnectionName}
    (listed : client ∈ (before.snapshot channel).2) : client ∈ before.names :=
  (List.filter_sublist.map _).subset listed

theorem accounted_start (crowd : Crowd) (before : Broadcaster) (channel : Channel)
    (frame : Text) : (start before channel frame).Accounted crowd before channel frame where
  frame_eq := rfl
  clients := by simp [start, FanOut.start, Function.comp_def]
  lawful dispatch listed := by
    obtain ⟨client, -, rfl⟩ := List.mem_map.mp listed
    exact .checking client
  broadcaster := by
    have kept (client : ConnectionName) :
        Broadcaster.lost (start before channel frame).fanOut.dispatches client = false := by
      simp [Broadcaster.lost, start, FanOut.start, Dispatch.isLost]
    simp only [Broadcaster.amid, kept]
    simp [start, FanOut.start, Function.comp_def, Dispatch.isLost]
  requests := by simp [start, FanOut.start, List.flatMap_map, Dispatch.asked]
  received := by simp [start, FanOut.start, List.flatMap_map, Dispatch.handed]

theorem Accounted.step (h : round.Accounted crowd before channel frame)
    (once : before.names.Nodup) (step : Step crowd deadline round next) :
    next.Accounted crowd before channel frame := by
  obtain ⟨rfl, clients, lawful, amid, requests, received⟩ := h
  cases step with
  | @deed earlier later dispatch moved broadcaster deed shows sees split step =>
      rw [split] at clients lawful requests received amid
      rw [amid] at step
      have here : dispatch.Lawful crowd := lawful dispatch List.mem_append_cons_self
      have nodup := snapshot_nodup once channel
      rw [← clients] at nodup
      have known : dispatch.client ∈ (before.snapshot channel).1.names := by
        refine snapshot_subset before channel ?_
        rw [← clients]
        exact List.mem_map_of_mem List.mem_append_cons_self
      have steps := Dispatch.step_cases step
      obtain ⟨after, closes⟩ := Broadcaster.amid_step nodup known steps
      refine ⟨rfl, ?_, ?_, after, ?_, ?_⟩
      · simpa [steps.client] using clients
      · intro other listed
        rcases List.mem_append.mp listed with listed | listed
        · exact lawful other (List.mem_append_left _ listed)
        rcases List.mem_cons.mp listed with rfl | listed
        · exact steps.lawful here shows sees
        · exact lawful other (List.mem_append_right _ (List.mem_cons_of_mem _ listed))
      · exact perm_step requests (steps.asked here sees closes _)
      · exact perm_step received (steps.handed _)

theorem Accounted.run (h : round.Accounted crowd before channel frame)
    (once : before.names.Nodup) (run : Relation.ReflTransGen (Step crowd deadline) round next) :
    next.Accounted crowd before channel frame := by
  induction run with
  | refl => exact h
  | tail _ step ih => exact ih.step once step

/-! ## How it goes on -/

def rank (round : Round) : Nat := round.fanOut.rank

theorem Step.rank_lt (h : Step crowd deadline round next) : next.rank < round.rank := by
  cases h with
  | deed shows sees split step => exact FanOut.rank_step split (Dispatch.step_cases step)

theorem terminates (crowd : Crowd) (deadline : Seconds) (round : Round) :
    Acc (fun next round => Step crowd deadline round next) round :=
  Subrelation.accessible Step.rank_lt ((measure rank).wf.apply round)

theorem rests_iff (ends : ∀ client, (crowd.manners client).close ≠ .never) (deadline : Seconds) :
    (∀ next, ¬ Step crowd deadline round next) ↔ round.fanOut.isOver = true := by
  constructor
  · intro rests
    by_contra unfinished
    obtain ⟨earlier, dispatch, later, split, unfinished⟩ :=
      FanOut.exists_unfinished (Bool.eq_false_iff.mpr unfinished)
    have free : ¬ dispatch.Stuck (crowd.manners dispatch.client) := fun stuck => ends _ stuck.2
    obtain ⟨deed, shows, sees, broadcaster, next, step⟩ := Dispatch.goes_on round.broadcaster
      deadline (crowd.isOpen dispatch.client) unfinished free
    exact rests _ (.deed shows sees split step)
  · intro ended next step
    cases step with
    | @deed _ _ dispatch _ _ _ shows sees split step =>
        have rests := List.all_eq_true.mp ended dispatch (split ▸ List.mem_append_cons_self)
        rw [Dispatch.step_none (.inl rests) shows] at step
        cases step

/-! ## How it ends -/

structure Settled (crowd : Crowd) (before : Broadcaster) (channel : Channel) (frame : Text)
    (round : Round) : Prop where
  delivered : round.fanOut.delivered = (before.snapshot channel).2.countP crowd.serves
  broadcaster : round.broadcaster =
    { connections := before.connections.filter fun entry =>
        !entry.2.contains channel || crowd.serves entry.1
      connectedTotal := before.connectedTotal
      failed := before.failed + (before.snapshot channel).2.countP fun client => !crowd.serves client
      messagesSent := before.messagesSent + (before.snapshot channel).2.countP crowd.serves
      broadcasts := before.broadcasts + 1 }
  requests : round.requests.Perm ((before.snapshot channel).2.flatMap (crowd.due frame))
  served : ∀ client ∈ (before.snapshot channel).2, crowd.serves client = true →
    round.received.filter (fun gain => gain.1 = client) = [(client, frame)]
  received : ∀ gain ∈ round.received, gain.1 ∈ (before.snapshot channel).2 ∧
    crowd.isOpen gain.1 = true ∧ gain.2 = frame

theorem mem_snapshot (once : before.names.Nodup) {entry : ConnectionName × List Channel}
    (listed : entry ∈ before.connections) :
    entry.1 ∈ (before.snapshot channel).2 ↔ entry.2.contains channel = true := by
  simp only [Broadcaster.snapshot, List.mem_map, List.mem_filter]
  constructor
  · rintro ⟨other, ⟨among, subscribed⟩, same⟩
    rwa [← List.inj_on_of_nodup_map once among listed same]
  · exact fun subscribed => ⟨entry, ⟨listed, subscribed⟩, rfl⟩

theorem Accounted.settled (h : round.Accounted crowd before channel frame)
    (once : before.names.Nodup) (ended : round.fanOut.isOver = true) :
    round.Settled crowd before channel frame := by
  -- Every delivery is over, so its place is the one that the crowd determines.
  have places := fun dispatch (listed : dispatch ∈ round.fanOut.dispatches) =>
    (h.lawful dispatch listed).over (List.all_eq_true.mp ended dispatch listed)
  have delivered : round.fanOut.delivered = (before.snapshot channel).2.countP crowd.serves := by
    rw [← h.clients, List.countP_map]
    refine List.countP_congr fun dispatch listed => ?_
    simpa using (places dispatch listed).1
  constructor
  · exact delivered
  · have lost (client : ConnectionName) : Broadcaster.lost round.fanOut.dispatches client =
        (decide (client ∈ (before.snapshot channel).2) && !crowd.serves client) := by
      rw [← h.clients, Bool.eq_iff_iff]
      simp only [Broadcaster.lost, List.any_eq_true, Bool.and_eq_true, beq_iff_eq,
        decide_eq_true_eq, List.mem_map]
      constructor
      · rintro ⟨dispatch, listed, rfl, loses⟩
        exact ⟨⟨dispatch, listed, rfl⟩, (places dispatch listed).2.1 ▸ loses⟩
      · rintro ⟨⟨dispatch, listed, rfl⟩, loses⟩
        exact ⟨dispatch, listed, rfl, (places dispatch listed).2.1.trans loses⟩
    have losses : round.fanOut.dispatches.countP Dispatch.isLost =
        (before.snapshot channel).2.countP fun client => !crowd.serves client := by
      rw [← h.clients, List.countP_map]
      exact List.countP_congr fun dispatch listed => by simp [(places dispatch listed).2.1]
    have kept : (before.connections.filter fun entry =>
        !Broadcaster.lost round.fanOut.dispatches entry.1) = before.connections.filter fun entry =>
          !entry.2.contains channel || crowd.serves entry.1 := by
      refine List.filter_congr fun entry listed => ?_
      have heard : decide (entry.1 ∈ (before.snapshot channel).2) = entry.2.contains channel :=
        Bool.eq_iff_iff.mpr (decide_eq_true_iff.trans (mem_snapshot once listed))
      rw [lost, heard, Bool.not_and, Bool.not_not]
    rw [h.broadcaster, ← delivered, ← losses, ← kept]
    rfl
  · refine h.requests.trans (List.Perm.of_eq ?_)
    rw [← h.clients, List.flatMap_map]
    exact List.flatMap_congr fun dispatch listed => (places dispatch listed).2.2 frame
  · intro client listed serves
    have nodup := snapshot_nodup once channel
    rw [← h.clients] at listed nodup
    obtain ⟨dispatch, among, rfl⟩ := List.mem_map.mp listed
    have taken := (h.lawful dispatch among).served (List.all_eq_true.mp ended dispatch among) serves
    have mine := h.received.filter fun gain => gain.1 = dispatch.client
    obtain ⟨earlier, later, split⟩ := List.append_of_mem among
    rw [split, List.map_append, List.map_cons, List.nodup_append', List.nodup_cons] at nodup
    obtain ⟨-, ⟨after, -⟩, apart⟩ := nodup
    rw [split, List.flatMap_append, List.flatMap_cons, List.filter_append, List.filter_append,
      Dispatch.handed_apart (fun other => apart other List.mem_cons_self),
      Dispatch.handed_apart after] at mine
    simpa [Dispatch.handed, taken] using mine
  · intro gain listed
    obtain ⟨dispatch, among, mine⟩ := List.mem_flatMap.mp (h.received.subset listed)
    unfold Dispatch.handed at mine
    split at mine
    · rename_i taken
      rw [List.mem_singleton.mp mine, ← h.clients]
      exact ⟨List.mem_map_of_mem among, (h.lawful dispatch among).taken taken, rfl⟩
    · cases mine

/-! ## The turns of its deliveries -/

def point? : Move Rehearsal.Act → Option Broadcaster.Delivery
  | .call [_, .app (.deliver _ _ point)] => some point
  | .finish (.ok (.flag delivered)) => some (.over delivered)
  | _ => none

def requested (deadline : Seconds) : Move Rehearsal.Act → List Request
  | .call (.limit length isPositive [.app (.send client frame)] :: _) =>
      if length = deadline.milliseconds? ∧ isPositive = deadline.isPositive then
        [.send client frame]
      else
        []
  | .call (.app (.close client) :: _) => [.close client]
  | _ => []

/-- A delivery of the broadcast has its turn in some rig with the broadcaster, told how what it waited
for has ended, or its connection takes the frame. -/
inductive Turn (crowd : Crowd) (deadline : Seconds) : Round → Round → Prop
  | takes {round : Round} {before after : List Dispatch} {dispatch : Dispatch}
      (split : round.fanOut.dispatches = before ++ dispatch :: after)
      (sending : dispatch.point = .sending) (fresh : dispatch.taken = false) :
      Turn crowd deadline round
        { round with
          fanOut := { round.fanOut with
            dispatches := before ++ { dispatch with taken := true } :: after }
          received := round.received ++ [(dispatch.client, round.fanOut.frame)] }
  | resumes {round : Round} {before after : List Dispatch} {dispatch next : Dispatch}
      {rig later : Rehearsal.Rig} {outcome : Outcome} {move : Move Rehearsal.Act} {has : Bool}
      (split : round.fanOut.dispatches = before ++ dispatch :: after)
      (shares : rig.state.broadcaster = round.broadcaster)
      (within : rig.state.sendTimeout = deadline)
      (opens : rig.state.isOpen dispatch.client = crowd.isOpen dispatch.client)
      (answers : (crowd.manners dispatch.client).Answers dispatch.point outcome has)
      (turn : Rehearsal.Rig.resume (.deliver dispatch.client round.fanOut.frame dispatch.point)
        outcome rig = (later, move))
      (goes : point? move = some next.point) (same : next.client = dispatch.client)
      (took : next.taken = (dispatch.taken || has)) :
      Turn crowd deadline round
        { broadcaster := later.state.broadcaster
          fanOut := { round.fanOut with dispatches := before ++ next :: after }
          requests := round.requests ++ requested deadline move
          received := round.received ++ dispatch.gained round.fanOut.frame next }

variable {client : ConnectionName} {manner : Manner} {point : Broadcaster.Delivery}
  {outcome : Outcome} {has : Bool}

theorem requested_move {dispatch moved : Dispatch} (leaves : moved.point ≠ dispatch.point)
    (deadline : Seconds) (frame : Text) :
    requested deadline (moved.point.move deadline dispatch.client frame) =
      dispatch.asks frame moved := by
  rw [Dispatch.asks, if_neg leaves]
  cases moved.point with
  | sending => exact if_pos ⟨rfl, rfl⟩
  | checking | closing | _ => rfl

theorem point?_move {point : Broadcaster.Delivery} (begun : point ≠ .checking) (deadline : Seconds)
    (client : ConnectionName) (frame : Text) :
    point? (point.move deadline client frame) = some point := by
  cases point with
  | checking => exact absurd rfl begun
  | sending | closing | _ => rfl

def rigFor (crowd : Crowd) (deadline : Seconds) (broadcaster : Broadcaster)
    (client : ConnectionName) : Rehearsal.Rig :=
  let open_ := crowd.isOpen client
  let scripted : ScriptedClient := ⟨"", open_, 0, none, none, none, none, [], 0⟩
  .start { Rehearsal.World.start with
    broadcaster := broadcaster
    sendTimeout := deadline
    clients := List.replicate (client + 1) (.scripted scripted) }

theorem rigFor_isOpen (crowd : Crowd) (deadline : Seconds) (broadcaster : Broadcaster)
    (client : ConnectionName) :
    (rigFor crowd deadline broadcaster client).state.isOpen client = crowd.isOpen client := by
  simp [rigFor, Rehearsal.Rig.start, Rehearsal.World.isOpen]

theorem answers_told (answers : manner.Answers point outcome has) (rig : Rehearsal.Rig)
    (client : ConnectionName) :
    ∃ conduct, rig.conduct? client point outcome = some conduct ∧ manner.Shows (.does conduct) ∧
      (∀ isOpen, conduct = .seen isOpen → isOpen = rig.state.isOpen client) ∧
      conduct.isSent = has ∧
      ∃ moved, rig.state.broadcaster.proceed client rig.state.sendTimeout point conduct =
        some moved := by
  cases answers with
  | checked => exact ⟨_, rfl, .seen _, fun _ same => by cases same; rfl, rfl, _, rfl⟩
  | sent reply ends => exact ⟨_, rfl, .sent ends, nofun, rfl, _, rfl⟩
  | @refuses fault caught ends => exact ⟨_, rfl, .refuses ends, nofun, rfl, _, if_pos caught⟩
  | cutOff ends => exact ⟨_, rfl, .cutOff ends, nofun, rfl, _, rfl⟩
  | closes reply ends => exact ⟨_, rfl, .closes ends, nofun, rfl, _, rfl⟩
  | @closeFails fault caught ends => exact ⟨_, rfl, .closeFails ends, nofun, rfl, _, if_pos caught⟩

theorem shows_answers {conduct : Broadcaster.Conduct} {broadcaster : Broadcaster}
    {moved : Broadcaster × Broadcaster.Delivery × Logs} (shows : manner.Shows (.does conduct))
    (proceeds : broadcaster.proceed client deadline point conduct = some moved) :
    ∃ outcome has, manner.Answers point outcome has ∧ conduct.isSent = has ∧
      ∀ rig : Rehearsal.Rig, (∀ isOpen, conduct = .seen isOpen → isOpen = rig.state.isOpen client) →
        rig.conduct? client point outcome = some conduct := by
  cases shows with
  | seen isOpen =>
      cases point with
      | checking =>
          refine ⟨_, _, .checked, rfl, fun rig sees => ?_⟩
          rw [sees isOpen rfl]
          rfl
      | sending | closing | _ => cases proceeds
  | sent ends =>
      cases point with
      | sending => exact ⟨_, _, .sent .nothing ends, rfl, fun _ _ => rfl⟩
      | checking | closing | _ => cases proceeds
  | refuses ends =>
      cases point with
      | sending => exact ⟨_, _, .refuses ends, rfl, fun _ _ => rfl⟩
      | checking | closing | _ => cases proceeds
  | cutOff ends =>
      cases point with
      | sending => exact ⟨_, _, .cutOff ends, rfl, fun _ _ => rfl⟩
      | checking | closing | _ => cases proceeds
  | closes ends =>
      cases point with
      | closing => exact ⟨_, _, .closes .nothing ends, rfl, fun _ _ => rfl⟩
      | checking | sending | _ => cases proceeds
  | closeFails ends =>
      cases point with
      | closing => exact ⟨_, _, .closeFails ends, rfl, fun _ _ => rfl⟩
      | checking | sending | _ => cases proceeds

theorem Turn.step (turn : Turn crowd deadline round next) : Step crowd deadline round next := by
  cases turn with
  | @takes before after dispatch split sending fresh =>
      have step : dispatch.step round.broadcaster deadline .takes =
          some (round.broadcaster, { dispatch with taken := true }) := if_pos ⟨sending, fresh⟩
      simpa [Dispatch.asks, Dispatch.gained, fresh] using
        Step.deed .takes nofun split step
  | @resumes before after dispatch moved rig later outcome move has split shares within opens
      answers turn goes same took =>
      obtain ⟨conduct, told, shows, sees, rfl, ⟨broadcaster, point, logs⟩, proceeds⟩ :=
        answers_told answers rig dispatch.client
      have resumed := Rehearsal.Rig.deliver_moves told proceeds round.fanOut.frame
      rw [within, shares] at proceeds
      have step := Dispatch.step_does proceeds
      obtain ⟨leaves, begun⟩ := (Dispatch.step_cases step).turns
      rw [resumed, within] at turn
      cases turn
      -- Where the delivery goes is read off its move, so the move fixes the place.
      rw [point?_move begun] at goes
      have arrives : moved = { dispatch with
          point := point
          taken := dispatch.taken || conduct.isSent } := by
        obtain ⟨client, there, taken⟩ := moved
        cases same
        cases took
        cases goes
        rfl
      subst arrives
      have asked := requested_move leaves deadline round.fanOut.frame
      dsimp only at asked
      rw [asked]
      refine .deed shows (fun isOpen seen => ?_) split step
      cases seen
      exact (sees isOpen rfl).trans opens

theorem Step.turn (step : Step crowd deadline round next) : Turn crowd deadline round next := by
  cases step with
  | @deed before after dispatch moved broadcaster deed shows sees split step =>
      cases deed with
      | takes =>
          cases Dispatch.step_cases step with
          | takes sending fresh =>
              have taken : Turn crowd deadline round _ := .takes split sending fresh
              simpa [Dispatch.asks, Dispatch.gained, fresh] using taken
      | does conduct =>
          -- Any rig will do that has the broadcaster and finds the connection open or not.
          let rig := rigFor crowd deadline round.broadcaster dispatch.client
          have opens := rigFor_isOpen crowd deadline round.broadcaster dispatch.client
          obtain ⟨leaves, begun⟩ := (Dispatch.step_cases step).turns
          obtain ⟨⟨later, point, logs⟩, proceeds, same⟩ := Option.map_eq_some_iff.mp step
          cases same
          obtain ⟨outcome, has, answers, completes, told⟩ := shows_answers shows proceeds
          have told := told rig fun isOpen seen => (sees isOpen (seen ▸ rfl)).trans opens.symm
          have turn := Rehearsal.Rig.deliver_moves told proceeds round.fanOut.frame
          rw [← requested_move leaves deadline]
          exact .resumes split rfl rfl opens answers turn
            (point?_move begun deadline dispatch.client round.fanOut.frame) rfl
            (congrArg (dispatch.taken || ·) completes)

/-! ## The call -/

theorem frame_eq_ok {channel data : Value} {known : Channel} {frame : Text} :
    Broadcaster.frame channel data = .ok (known, frame) ↔ channel.toChannel = .ok known ∧
      ∃ json, data.form = .ok json ∧ frame = (Envelope.wrap known json).compact := by
  constructor
  · intro framed
    obtain ⟨found, named, framed⟩ := bind_eq_ok.mp framed
    split at framed
    · rename_i text equation
      cases framed
      obtain ⟨tree, wrapped, rfl⟩ := map_eq_ok.mp equation
      obtain ⟨json, form, rfl⟩ := map_eq_ok.mp wrapped
      exact ⟨named, json, form, rfl⟩
    · cases framed
  · rintro ⟨named, json, form, rfl⟩
    simp [Broadcaster.frame, named, bind, Except.bind, Envelope.text, Envelope.json, form, Except.map]

/-- If there is no such channel, or the data has no form, a broadcast raises and changes nothing.
Otherwise it begins a delivery to each connection that receives the channel. In whatever order these
have their turns, they come to an end, all of them are settled then, and the broadcast returns the
number of connections that it served. -/
theorem broadcast_settles (crowd : Crowd) (ends : ∀ client, (crowd.manners client).close ≠ .never)
    (rig : Rehearsal.Rig) (once : rig.state.broadcaster.names.Nodup) (channel data : Value) :
    ((∀ known, channel.toChannel ≠ .ok known) ∨ (∀ json, data.form ≠ .ok json) →
      ∃ fault, rig.broadcast channel data = rig.fault fault) ∧
    ∀ known json, channel.toChannel = .ok known → data.form = .ok json →
      let frame := (Envelope.wrap known json).compact
      let start := start rig.state.broadcaster known frame
      let deadline := rig.state.sendTimeout
      rig.broadcast channel data = (rig.setBroadcaster start.broadcaster [], start.fanOut.begin) ∧
      Acc (fun next round => Turn crowd deadline round next) start ∧
      ∀ round, Relation.ReflTransGen (Turn crowd deadline) start round →
        ((∀ next, ¬ Turn crowd deadline round next) ↔ round.fanOut.isOver = true) ∧
        (round.fanOut.isOver = true → round.Settled crowd rig.state.broadcaster known frame ∧
          ∀ (last : Rehearsal.Rig) (tasks : List Nat), round.fanOut.Ended last tasks →
            Rehearsal.Rig.resume .countDelivered (.ok (.tasks tasks)) last =
              last.ok (.count ((rig.state.broadcaster.snapshot known).2.countP crowd.serves))) := by
  constructor
  · intro refused
    cases framed : Broadcaster.frame channel data with
    | error fault => exact ⟨fault, by rw [Rehearsal.Rig.broadcast, framed]⟩
    | ok result =>
        obtain ⟨named, json, form, -⟩ := frame_eq_ok.mp framed
        exact refused.elim (fun unknown => absurd named (unknown _)) fun formless =>
          absurd form (formless _)
  · intro known json named form frame start deadline
    have framed := frame_eq_ok.mpr ⟨named, json, form, rfl⟩
    have turns : Turn crowd deadline = Step crowd deadline :=
      funext fun _ => funext fun _ => propext ⟨Turn.step, Step.turn⟩
    rw [turns]
    refine ⟨?_, terminates crowd deadline start,
      fun round run => ⟨rests_iff ends deadline, fun ended => ?_⟩⟩
    · rw [Rehearsal.Rig.broadcast_moves, framed]
      rfl
    · have settled := ((accounted_start crowd _ known frame).run once run).settled once ended
      refine ⟨settled, fun last tasks closed => ?_⟩
      rw [Rehearsal.Rig.countDelivered_turn closed, settled.delivered]

theorem gone_isOrdinary :
    (Fault.raised ⟨"OSError", false, some "gone"⟩).isOrdinary = true ∧
      (Fault.raised ⟨"RuntimeError", false, some "gone"⟩).isOrdinary = true := ⟨rfl, rfl⟩

def mixed : Crowd where
  isOpen client := client ≠ 1 && client ≠ 4
  manners
    | 2 => ⟨.raises (.raised ⟨"OSError", false, some "gone"⟩) gone_isOrdinary.1, .returns⟩
    | 3 => ⟨.never, .raises (.raised ⟨"RuntimeError", false, some "gone"⟩) gone_isOrdinary.2⟩
    | _ => ⟨.returns, .returns⟩

def mixedRig : Rehearsal.Rig :=
  .start { Rehearsal.World.start with
    broadcaster := ⟨[(0, [.blocks]), (1, [.blocks]), (2, Channel.all), (3, [.blocks]),
      (4, [.events])], 5, 0, 0, 0⟩ }

theorem broadcast_settles_mixed :
    (∀ client, (mixed.manners client).close ≠ .never) ∧
    mixedRig.state.broadcaster.names.Nodup ∧
    (∃ fault, mixedRig.broadcast (.ofSlot (.channel .blocks)) (.ofSlot (.buffer .bytes [])) =
      mixedRig.fault fault) ∧
    ∀ round, Relation.ReflTransGen (Turn mixed mixedRig.state.sendTimeout)
        (start mixedRig.state.broadcaster .blocks (Envelope.wrap .blocks .null).compact) round →
      round.fanOut.isOver = true →
      (∀ (last : Rehearsal.Rig) (tasks : List Nat), round.fanOut.Ended last tasks →
        Rehearsal.Rig.resume .countDelivered (.ok (.tasks tasks)) last = last.ok (.count 1)) ∧
      round.broadcaster.names = [0, 4] ∧
      ∃ frame, round.requests.Perm
        [.send 0 frame, .send 2 frame, .close 2, .send 3 frame, .close 3] := by
  have ends : ∀ client, (mixed.manners client).close ≠ .never := by
    intro client
    unfold mixed
    simp only
    split <;> simp
  have once : mixedRig.state.broadcaster.names.Nodup := by decide
  have settles := broadcast_settles mixed ends mixedRig once (.ofSlot (.channel .blocks))
  refine ⟨ends, once, ?_, fun round run ended => ?_⟩
  · refine (settles (.ofSlot (.buffer .bytes []))).1 (.inr fun json => ?_)
    rw [Value.form, form.eq_def]
    simp [Value.ofSlot]
  · have form : (Value.ofSlot .null).form = .ok .null := by
      rw [Value.form, form.eq_def]
      rfl
    obtain ⟨-, -, reached⟩ := (settles (.ofSlot .null)).2 .blocks .null rfl form
    obtain ⟨settled, counts⟩ := (reached round run).2 ended
    have served : (mixedRig.state.broadcaster.snapshot .blocks).2.countP mixed.serves = 1 := by
      decide
    rw [served] at counts
    refine ⟨counts, ?_, (Envelope.wrap .blocks .null).compact, settled.requests.trans (.of_eq ?_)⟩
    · rw [settled.broadcaster]
      decide
    · rfl

end Round

end LedgerFeed
