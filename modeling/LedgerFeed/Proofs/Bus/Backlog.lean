import LedgerFeed.Proofs.Ledger.Trace
import LedgerFeed.Bus.Memory

namespace LedgerFeed

def Publication.posting (publication : Publication) : Posting :=
  .message (.text publication.1.name) (.text publication.2)

namespace MemoryBus

def operations : BusOperations MemoryBus where
  publish bus channel payload :=
    let (bus, result) := bus.publish (.text channel.name) (.text payload)
    (bus, result.map fun _ => ())
  close bus := (bus.close.1, .ok ())

def named (bus : MemoryBus) (serial : Nat) : List Subscription :=
  bus.subscriptions.filter fun s => s.serial = serial

def backlog (bus : MemoryBus) (serial : Nat) : List Posting :=
  (bus.named serial).flatMap (·.queue) ++
    (bus.posted.filter fun posting => posting.1 = serial).map (·.2)

structure Listening (bus : MemoryBus) (serial : Nat) : Prop where
  opened : bus.closed = false
  alone : ∃ s, bus.named serial = [s] ∧ s.reachable = true ∧
    ∀ channel : Channel, s.wants (.text channel.name) = true

variable {bus : MemoryBus} {serial : Nat}

theorem find?_named (bus : MemoryBus) (serial : Nat) :
    bus.find? serial = (bus.named serial).head? := by
  rw [named, List.head?_filter]
  rfl

theorem named_update (bus : MemoryBus) (serial other : Nat) {change : Subscription → Subscription}
    (h : ∀ s, (change s).serial = s.serial) :
    (bus.update other change).named serial =
      if serial = other then (bus.named serial).map change else bus.named serial := by
  have kept : (fun s : Subscription => decide (s.serial = serial)) ∘
      (fun s => if s.serial = other then change s else s) = fun s => decide (s.serial = serial) := by
    funext s
    simp only [Function.comp_apply]
    split <;> simp [h]
  simp only [named, update, List.filter_map, kept]
  split
  · rename_i same
    refine List.map_congr_left fun s hs => ?_
    rw [if_pos ((of_decide_eq_true (List.mem_filter.mp hs).2).trans same)]
  · rename_i differ
    refine (List.map_congr_left fun s hs => ?_).trans (List.map_id _)
    exact if_neg fun same => differ ((of_decide_eq_true (List.mem_filter.mp hs).2).symm.trans same)

/-! ## Publishing -/

theorem checkWanted_text (s : Text) : checkWanted (.text s) = .ok () := by
  rfl

theorem publish_eq (h : bus.closed = false) (s payload : Text) :
    bus.publish (.text s) (.text payload) =
      ((bus.post (.text s) (.text payload)).1, .ok (bus.post (.text s) (.text payload)).2) := by
  unfold publish
  rw [h, checkWanted_text]
  simp

theorem post_named {s : Subscription} (alone : bus.named serial = [s])
    (reachable : s.reachable = true) (channel payload : Value) :
    (bus.post channel payload).1.named serial = [s] := by
  have kept := congrArg (List.filter fun s => !(s.wants channel) || s.reachable) alone
  simp only [List.filter_cons, reachable, Bool.or_true, ↓reduceIte, List.filter_nil] at kept
  simp only [named, post, List.filter_filter, Bool.and_comm] at kept ⊢
  exact kept

theorem reached_postings {s : Subscription} (alone : bus.named serial = [s])
    (reached : Subscription → Bool) (posting : Posting) :
    ((((bus.subscriptions.filter reached).map fun t => (t.serial, posting)).filter
      fun p => p.1 = serial).map (·.2)) = if reached s then [posting] else [] := by
  have mine := congrArg (List.filter reached) alone
  rw [named, List.filter_filter, List.filter_cons, List.filter_nil] at mine
  simp only [List.filter_map, List.map_map, List.filter_filter, Function.comp_def]
  rw [List.filter_congr fun t _ => Bool.and_comm _ _, mine]
  split <;> rfl

theorem post_backlog {s : Subscription} (alone : bus.named serial = [s])
    (reachable : s.reachable = true) (channel payload : Value) :
    (bus.post channel payload).1.backlog serial =
      bus.backlog serial ++ if s.wants channel then [.message channel payload] else [] := by
  have mine := reached_postings alone (fun s => s.wants channel && s.reachable)
    (.message channel payload)
  rw [reachable, Bool.and_true] at mine
  rw [backlog, post_named alone reachable, backlog, alone, ← mine, List.append_assoc,
    ← List.map_append, ← List.filter_append]
  rfl

theorem publish_backlog (h : bus.Listening serial) (channel : Channel) (payload : Text) :
    (operations.publish bus channel payload).2 = .ok () ∧
      (operations.publish bus channel payload).1.Listening serial ∧
      (operations.publish bus channel payload).1.backlog serial =
        bus.backlog serial ++ [Publication.posting (channel, payload)] := by
  have published : operations.publish bus channel payload =
      ((bus.post (.text channel.name) (.text payload)).1, .ok ()) := by
    simp only [operations, publish_eq h.opened, Except.map]
  obtain ⟨s, alone, reachable, wants⟩ := h.alone
  rw [published]
  refine ⟨rfl, ⟨h.opened, s, post_named alone reachable _ _, reachable, wants⟩, ?_⟩
  rw [post_backlog alone reachable, wants, if_pos rfl]
  rfl

theorem operations_raisesOrdinary : operations.RaisesOrdinary := by
  intro bus channel payload fault h
  simp only [operations, publish, checkWanted_text, ite_self] at h
  split at h <;> cases h
  rfl

theorem replay_backlog {recorded : Recorded MemoryBus} (h : recorded.bus.Listening serial)
    (publications : List Publication) :
    (operations.recording.replay recorded publications).bus.Listening serial ∧
      (operations.recording.replay recorded publications).bus.backlog serial =
        recorded.bus.backlog serial ++ publications.map Publication.posting ∧
      (operations.recording.replay recorded publications).taken =
        recorded.taken ++ publications := by
  induction publications generalizing recorded with
  | nil => exact ⟨h, by simp, by simp⟩
  | cons publication rest ih =>
      obtain ⟨hok, hlistening, hbacklog⟩ := publish_backlog h publication.1 publication.2
      have bus : (operations.recording.publish recorded publication.1 publication.2).1.bus =
          (operations.publish recorded.bus publication.1 publication.2).1 := rfl
      have taken : (operations.recording.publish recorded publication.1 publication.2).1.taken =
          recorded.taken ++ [publication] := by
        simp only [BusOperations.recording, hok]
      obtain ⟨listening, backlog, all⟩ := ih (bus ▸ hlistening)
      rw [BusOperations.replay_cons]
      refine ⟨listening, ?_, ?_⟩
      · rw [backlog, bus, hbacklog, List.append_assoc]
        rfl
      · rw [all, taken, List.append_assoc]
        rfl

/-! ## Putting and taking -/

def deliverTo (bus : MemoryBus) (serial : Nat) : MemoryBus :=
  match bus.posted.find? fun posting => posting.1 = serial with
  | none => bus
  | some (_, posting) =>
      { bus with posted := bus.posted.eraseP fun posting => posting.1 = serial }.update serial
        (·.put posting)

theorem deliver_eq {posting : Posting} {rest : List (Nat × Posting)}
    (h : bus.posted = (serial, posting) :: rest) : bus.deliver = bus.deliverTo serial := by
  simp [deliver, deliverTo, h]

theorem filter_eraseP_same {α : Type} (p : α → Bool) (items : List α) :
    (items.eraseP p).filter p = (items.filter p).tail := by
  induction items with
  | nil => rfl
  | cons item rest ih => cases h : p item <;> simp [h, ih]

theorem filter_eraseP_other {α : Type} {p q : α → Bool} (apart : ∀ item, p item → q item = false)
    (items : List α) : (items.eraseP p).filter q = items.filter q := by
  induction items with
  | nil => rfl
  | cons item rest ih =>
      cases h : p item with
      | true => simp [h, apart item h]
      | false => simp [h, List.filter_cons, ih]

theorem deliverTo_closed (bus : MemoryBus) (serial : Nat) :
    (bus.deliverTo serial).closed = bus.closed := by
  unfold deliverTo
  split <;> rfl

theorem deliverTo_backlog {s : Subscription} (alone : bus.named serial = [s]) (other : Nat) :
    (∃ queue, (bus.deliverTo other).named serial = [{ s with queue := queue }]) ∧
      (bus.deliverTo other).backlog serial = bus.backlog serial := by
  unfold deliverTo
  split
  · exact ⟨⟨s.queue, alone⟩, rfl⟩
  · rename_i name posting found
    have kept (t : Subscription) : (t.put posting).serial = t.serial := rfl
    have named := named_update { bus with posted := bus.posted.eraseP fun p => p.1 = other } serial
      other kept
    change _ = (if serial = other then (bus.named serial).map (·.put posting)
      else bus.named serial) at named
    rw [alone] at named
    simp only [backlog, named, alone]
    change _ ∧ _ ++ ((bus.posted.eraseP _).filter _).map _ = _
    by_cases same : serial = other
    · subst same
      obtain ⟨rest, first⟩ : ∃ rest, bus.posted.filter (fun p => p.1 = serial) =
          (name, posting) :: rest := by
        rw [← List.head?_filter] at found
        exact List.head?_eq_some_iff.mp found
      rw [filter_eraseP_same, first, if_pos rfl]
      exact ⟨⟨_, rfl⟩, by simp [Subscription.put]⟩
    · rw [filter_eraseP_other fun p h => by simp_all [eq_comm], if_neg same]
      exact ⟨⟨s.queue, rfl⟩, rfl⟩

theorem deliver_backlog (h : bus.Listening serial) :
    bus.deliver.Listening serial ∧ bus.deliver.backlog serial = bus.backlog serial := by
  obtain ⟨s, alone, reachable, wants⟩ := h.alone
  cases posted : bus.posted with
  | nil => simpa only [deliver, posted] using ⟨h, trivial⟩
  | cons first rest =>
      obtain ⟨⟨queue, named⟩, same⟩ := deliverTo_backlog alone first.1
      rw [deliver_eq posted]
      exact ⟨⟨(deliverTo_closed ..).trans h.opened, _, named, reachable, wants⟩, same⟩

theorem deliver_posted (h : bus.posted ≠ []) : bus.deliver.posted.length < bus.posted.length := by
  unfold deliver
  cases hposted : bus.posted with
  | nil => exact absurd hposted h
  | cons first rest => exact Nat.lt_succ_self rest.length

theorem receive_eq {next : MemoryBus} {posting : Posting}
    (hr : bus.receive serial = (next, some posting)) :
    next = bus.update serial fun s => { s with queue := s.queue.tail } := by
  unfold receive at hr
  split at hr <;> cases hr
  rfl

theorem receive_closed {next : MemoryBus} {posting : Posting}
    (hr : bus.receive serial = (next, some posting)) : next.closed = bus.closed := by
  rw [receive_eq hr]
  rfl

theorem receive_backlog {s : Subscription} (alone : bus.named serial = [s]) {next : MemoryBus}
    {posting : Posting} (hr : bus.receive serial = (next, some posting)) :
    (∃ queue, next.named serial = [{ s with queue := queue }]) ∧
      bus.backlog serial = posting :: next.backlog serial := by
  unfold receive at hr
  rw [find?_named, alone] at hr
  cases queue : s.queue with
  | nil => simp [queue] at hr
  | cons head tail =>
      simp only [List.head?_cons, Option.bind_some, queue, Prod.mk.injEq, Option.some.injEq] at hr
      obtain ⟨rfl, rfl⟩ := hr
      have named : (bus.update serial fun s => { s with queue := s.queue.tail }).named serial =
          [{ s with queue := tail }] := by
        have kept (t : Subscription) : { t with queue := t.queue.tail }.serial = t.serial := rfl
        rw [named_update _ _ _ kept, if_pos rfl, alone, List.map_cons, queue]
        rfl
      refine ⟨⟨tail, named⟩, ?_⟩
      rw [backlog, backlog, named, alone]
      simp only [List.flatMap_cons, List.flatMap_nil, List.append_nil, queue, List.cons_append]
      rfl

theorem receive_some (h : bus.Listening serial) {next : MemoryBus} {posting : Posting}
    (hr : bus.receive serial = (next, some posting)) :
    next.Listening serial ∧ bus.backlog serial = posting :: next.backlog serial := by
  obtain ⟨s, alone, reachable, wants⟩ := h.alone
  obtain ⟨⟨queue, named⟩, taken⟩ := receive_backlog alone hr
  exact ⟨⟨(receive_closed hr).trans h.opened, _, named, reachable, wants⟩, taken⟩

/-! ## Closing -/

theorem close_named (bus : MemoryBus) (serial : Nat) :
    bus.close.1.named serial = bus.named serial := by
  unfold close
  split <;> rfl

theorem close_backlog {s : Subscription} (alone : bus.named serial = [s])
    (reachable : s.reachable = true) (opened : bus.closed = false) :
    bus.close.1.backlog serial = bus.backlog serial ++ [.ended] := by
  have mine := reached_postings alone (·.reachable) .ended
  rw [reachable, if_pos rfl] at mine
  rw [backlog, close_named, backlog, ← mine, List.append_assoc, ← List.map_append,
    ← List.filter_append]
  simp only [close, opened, Bool.false_eq_true, ↓reduceIte]

theorem backlog_nil (h : bus.Listening serial) (hp : bus.posted = [])
    (hr : (bus.receive serial).2 = none) : bus.backlog serial = [] := by
  obtain ⟨s, hnamed, -⟩ := h.alone
  unfold receive at hr
  rw [find?_named, hnamed] at hr
  cases hqueue : s.queue with
  | nil => simp [backlog, hnamed, hqueue, hp]
  | cons head tail => simp [hqueue] at hr

end MemoryBus

end LedgerFeed
