import LedgerFeed.Proofs.Gateway.Traffic
import LedgerFeed.Proofs.Ledger.Payloads

/-!
# Removing and closing connections

What becomes of one connection in one step is one of a few things (`Step.effect`), and what becomes
of it in all is the beginning of one story: it is registered, removed once, and closed after that at
most once (`connection_story`).
-/

namespace LedgerFeed

namespace Traffic

/-- Where a connection is: whether it is in the set, and how often those that took it out have yet to
close it. -/
structure Place where
  inSet : Bool
  owed : Nat

def place (traffic : Traffic) (client : ConnectionName) : Place :=
  ⟨traffic.broadcaster.isRegistered client,
    (traffic.sweeps.flatMap List.tail).count client⟩

def about (client : ConnectionName) (history : List Occurrence) : List Occurrence :=
  history.filter fun occurrence => occurrence.client == client

theorem about_append (client : ConnectionName) (earlier later : List Occurrence) :
    about client (earlier ++ later) = about client earlier ++ about client later :=
  List.filter_append ..

def Act.Removes (act : Act) (client : ConnectionName) : Remover → Prop
  | .caller => act = .unregister client
  | .delivery => ∃ deed, act = .deed client deed ∧ ¬ deed.Steady
  | .sweep => act = .closeAll

inductive Effect (client : ConnectionName) (act : Act) : Place → Place → List Occurrence → Prop
  | apart (place : Place) : Effect client act place place []
  | registered (inSet : Bool) (owed : Nat) :
      Effect client act ⟨inSet, owed⟩ ⟨true, owed⟩ [.registered client]
  | removed (remover : Remover) (role : act.Removes client remover) (owed : Nat) :
      Effect client act ⟨true, owed⟩ ⟨false, owed⟩ [.removed client remover]
  | taken (role : act = .closeAll) (owed : Nat) :
      Effect client act ⟨true, owed⟩ ⟨false, owed + 1⟩ [.removed client .sweep]
  | ousted (remover : Remover) (role : act.Removes client remover) (owed : Nat) :
      Effect client act ⟨true, owed⟩ ⟨false, owed⟩ [.removed client remover, .closed client]
  | closed (inSet : Bool) (owed : Nat) :
      Effect client act ⟨inSet, owed + 1⟩ ⟨inSet, owed⟩ [.closed client]

/-! ## What each step does -/

variable {traffic next : Traffic} {client : ConnectionName} {act : Act}

theorem register_effect (other : ConnectionName) (filter : Value) :
    ∃ new, (traffic.register other filter).history = traffic.history ++ new ∧
      Effect client act (traffic.place client) ((traffic.register other filter).place client)
        (about client new) := by
  unfold Traffic.register
  split
  · exact ⟨[], (List.append_nil _).symm, .apart _⟩
  · refine ⟨_, rfl, ?_⟩
    simp only [place, Broadcaster.register_isRegistered]
    by_cases same : other = client
    · subst same
      simpa [about, Occurrence.client] using Effect.registered _ _
    · simpa [about, Occurrence.client, same, Ne.symm same] using Effect.apart _

theorem removal_effect (broadcaster : Broadcaster) {other : ConnectionName} {remover : Remover}
    (role : act.Removes other remover) {ending : List Occurrence}
    (ends : ending = [] ∨ ending = [.closed other]) (owed : Nat) :
    Effect client act ⟨broadcaster.isRegistered client, owed⟩
      ⟨decide (client ≠ other) && broadcaster.isRegistered client, owed⟩
      (about client
        (if broadcaster.isRegistered other then .removed other remover :: ending else [])) := by
  by_cases same : other = client
  · subst same
    cases found : broadcaster.isRegistered other with
    | false => simpa [about] using Effect.apart _
    | true =>
        rcases ends with rfl | rfl
        · simpa [about, Occurrence.client] using Effect.removed remover role owed
        · simpa [about, Occurrence.client] using Effect.ousted remover role owed
  · have elsewhere : about client
        (if broadcaster.isRegistered other then .removed other remover :: ending else []) = [] := by
      rcases ends with rfl | rfl <;> split <;> simp [about, Occurrence.client, same]
    rw [elsewhere]
    simpa [Ne.symm same] using Effect.apart _

theorem unregister_effect (other : ConnectionName) :
    ∃ new, (traffic.unregister other).history = traffic.history ++ new ∧
      Effect client (.unregister other) (traffic.place client)
        ((traffic.unregister other).place client) (about client new) := by
  refine ⟨_, rfl, ?_⟩
  simp only [place, Traffic.unregister, Broadcaster.unregister_isRegistered]
  have role : (Act.unregister other).Removes other .caller := rfl
  exact removal_effect traffic.broadcaster role (.inl rfl) _

theorem broadcast_effect (channel data : Value) :
    ∃ new, (traffic.broadcast channel data).history = traffic.history ++ new ∧
      Effect client act (traffic.place client) ((traffic.broadcast channel data).place client)
        (about client new) := by
  refine ⟨[], ?_, ?_⟩
  · unfold Traffic.broadcast
    split <;> simp
  · unfold Traffic.broadcast
    split <;> exact .apart _

theorem deed_effect {broadcaster later : Broadcaster} {dispatch next : Dispatch} {deed : Deed}
    (step : Dispatch.Steps broadcaster dispatch deed later next) (owed : Nat) :
    Effect client (.deed dispatch.client deed) ⟨broadcaster.isRegistered client, owed⟩
      ⟨later.isRegistered client, owed⟩
      (about client (dispatch.occurrences broadcaster next deed)) := by
  cases step with
  | opened | sent | closed => exact .apart _
  | takes at_ =>
      simpa [Dispatch.occurrences, at_, about] using Effect.apart _
  | shut at_ =>
      have role : (Act.deed dispatch.client (.does (.seen false))).Removes dispatch.client
          .delivery := ⟨_, rfl, Bool.false_ne_true⟩
      rw [Broadcaster.drop_isRegistered]
      simpa [Dispatch.occurrences, Broadcaster.drop_found] using
        removal_effect broadcaster role (.inl rfl) owed
  | raised fault at_ =>
      have role : (Act.deed dispatch.client (.does (.raised fault))).Removes dispatch.client
          .delivery := ⟨_, rfl, id⟩
      have removal : Effect client _ _ _ _ := removal_effect broadcaster role (.inr rfl) owed
      rw [Broadcaster.drop_isRegistered]
      cases found : broadcaster.isRegistered dispatch.client with
      | false => simpa [Dispatch.occurrences, Broadcaster.drop_found, found] using removal
      | true => simpa [Dispatch.occurrences, Broadcaster.drop_found, found] using removal

theorem about_removed (client : ConnectionName) (taken : List ConnectionName) :
    about client (taken.map (.removed · .sweep)) =
      List.replicate (taken.count client) (.removed client .sweep) := by
  simp only [about, List.filter_map, Function.comp_def, Occurrence.client, List.filter_beq,
    List.map_replicate]

theorem closeAll_effect (once : traffic.broadcaster.names.Nodup) :
    ∃ new, traffic.closeAll.history = traffic.history ++ new ∧
      Effect client .closeAll (traffic.place client) (traffic.closeAll.place client)
        (about client new) := by
  refine ⟨_, rfl, ?_⟩
  have here : traffic.place client = ⟨decide (client ∈ traffic.broadcaster.names),
    (traffic.sweeps.flatMap List.tail).count client⟩ := by
    rw [place, Broadcaster.isRegistered_eq]
  have gone : traffic.closeAll.place client =
      ⟨false, (traffic.sweeps.flatMap List.tail).count client +
        traffic.broadcaster.names.tail.count client⟩ := by
    simp [place, Traffic.closeAll, Broadcaster.takeAll, Broadcaster.isRegistered,
      Broadcaster.names]
  rw [here, gone, about_append, about_removed]
  change Effect client .closeAll _ _ (List.replicate (traffic.broadcaster.names.count client) _ ++
    about client (nextClose traffic.broadcaster.names))
  cases names : traffic.broadcaster.names with
  | nil => simpa [nextClose, about] using Effect.apart _
  | cons first rest =>
      rw [names, List.nodup_cons] at once
      by_cases same : first = client
      · subst same
        have others : rest.count first = 0 := List.count_eq_zero.mpr once.1
        simpa [nextClose, about, Occurrence.client, others] using Effect.ousted .sweep rfl _
      · have unbegun : about client (nextClose (first :: rest)) = [] := by
          simp [about, nextClose, Occurrence.client, same]
        rw [unbegun, List.append_nil, List.count_cons_of_ne same, List.tail_cons,
          once.2.count]
        by_cases listed : client ∈ rest
        · simpa [listed] using Effect.taken rfl _
        · simpa [listed, Ne.symm same] using Effect.apart _

theorem closeEnds_effect {earlier later : List (List ConnectionName)} {first : ConnectionName}
    {rest : List ConnectionName} (under : traffic.sweeps = earlier ++ (first :: rest) :: later) :
    Effect client act (traffic.place client)
      ({ traffic with sweeps := earlier ++ rest :: later }.place client)
      (about client (nextClose rest)) := by
  simp only [place, under, List.flatMap_append, List.flatMap_cons, List.count_append,
    List.tail_cons]
  cases rest with
  | nil => exact .apart _
  | cons second rest =>
      by_cases same : second = client
      · subst same
        have counted (before after : Nat) : before + ((second :: rest).count second + after) =
            before + (rest.count second + after) + 1 := by
          rw [List.count_cons_self]
          omega
        rw [counted, show about second (nextClose (second :: rest)) = [.closed second] by
          simp [about, nextClose, Occurrence.client]]
        exact .closed _ _
      · simpa [nextClose, about, Occurrence.client, same] using Effect.apart _

theorem Step.nodup (h : Step act traffic next) (once : traffic.broadcaster.names.Nodup) :
    next.broadcaster.names.Nodup := by
  have unregistered (broadcaster : Broadcaster) (other : ConnectionName)
      (once : broadcaster.names.Nodup) : (broadcaster.unregister other).1.names.Nodup :=
    once.sublist (List.filter_sublist.map _)
  cases h with
  | register client filter =>
      unfold Traffic.register
      split
      · exact once
      · exact Broadcaster.insert_nodup once _ _
  | unregister client => exact unregistered _ client once
  | broadcast channel data =>
      unfold Traffic.broadcast
      split <;> exact once
  | @deed _ _ _ _ _ _ dispatch _ _ deed under split step =>
      cases Dispatch.step_cases step with
      | opened | takes | sent | closed => exact once
      | shut | raised =>
          show (List.map _ _).Nodup
          rw [Broadcaster.drop_connections]
          exact unregistered _ dispatch.client once
  | closeAll => exact List.nodup_nil
  | closeEnds => exact once

theorem Step.effect (h : Step act traffic next) (once : traffic.broadcaster.names.Nodup)
    (client : ConnectionName) :
    ∃ new, next.history = traffic.history ++ new ∧
      Effect client act (traffic.place client) (next.place client) (about client new) := by
  cases h with
  | register other filter => exact register_effect other filter
  | unregister other => exact unregister_effect other
  | broadcast channel data => exact broadcast_effect channel data
  | deed deed under split step => exact ⟨_, rfl, deed_effect (Dispatch.step_cases step) _⟩
  | closeAll => exact closeAll_effect once
  | closeEnds failure caught under => exact ⟨_, rfl, closeEnds_effect under⟩

/-! ## The story of a connection -/

/-- How far the story of a connection is told, by where the connection is. -/
inductive Story (client : ConnectionName) : Place → List Occurrence → Prop
  | unknown : Story client ⟨false, 0⟩ []
  | present : Story client ⟨true, 0⟩ [.registered client]
  | removed (remover : Remover) :
      Story client ⟨false, 0⟩ [.registered client, .removed client remover]
  | taken : Story client ⟨false, 1⟩ [.registered client, .removed client .sweep]
  | closed (remover : Remover) :
      Story client ⟨false, 0⟩ [.registered client, .removed client remover, .closed client]

theorem Story.step {before after : Place} {told new : List Occurrence}
    (h : Story client before told) (effect : Effect client act before after new)
    (once : (told ++ new).count (.registered client) ≤ 1) : Story client after (told ++ new) := by
  -- The effects that a place admits are those that the story can go on with, but for another
  -- registration.
  cases h with
  | unknown =>
      cases effect with
      | apart => exact .unknown
      | registered => exact .present
  | present =>
      cases effect with
      | apart => exact .present
      | registered => simp at once
      | removed remover => exact .removed remover
      | taken => exact .taken
      | ousted remover => exact .closed remover
  | removed remover =>
      cases effect with
      | apart => exact .removed remover
      | registered => simp at once
  | taken =>
      cases effect with
      | apart => exact .taken
      | registered => simp at once
      | closed => exact .closed .sweep
  | closed remover =>
      cases effect with
      | apart => exact .closed remover
      | registered => simp at once

theorem count_about {occurrence : Occurrence} (subject : occurrence.client = client)
    (history : List Occurrence) :
    (about client history).count occurrence = history.count occurrence :=
  List.count_filter (beq_iff_eq.mpr subject)

theorem Effect.removes {before after : Place} {new : List Occurrence} {remover : Remover}
    (effect : Effect client act before after new) (h : .removed client remover ∈ new) :
    act.Removes client remover := by
  cases effect <;> simp_all [Act.Removes]

theorem Story.begins {place : Place} {told : List Occurrence} (h : Story client place told) :
    ∃ remover, told <+: [.registered client, .removed client remover, .closed client] := by
  cases h with
  | unknown => exact ⟨.caller, List.nil_prefix⟩
  | present => exact ⟨.caller, _, rfl⟩
  | removed remover | closed remover => exact ⟨remover, _, rfl⟩
  | taken => exact ⟨.sweep, _, rfl⟩

theorem Story.inSet_iff {place : Place} {told : List Occurrence} (h : Story client place told) :
    place.inSet = true ↔ told = [.registered client] := by
  cases h <;> simp

theorem Story.owed {place : Place} {told : List Occurrence} (h : Story client place told)
    (owed : place.owed ≠ 0) : told = [.registered client, .removed client .sweep] := by
  cases h with
  | unknown | present | removed | closed => exact absurd rfl owed
  | taken => rfl

theorem Story.kept {place : Place} {told : List Occurrence} (h : Story client place told)
    (kept : ∀ remover, .removed client remover ∉ told) : told <+: [.registered client] := by
  cases h with
  | unknown => exact List.nil_prefix
  | present => exact List.prefix_refl _
  | removed remover | closed remover => exact absurd (by simp) (kept remover)
  | taken => exact absurd (by simp) (kept .sweep)

theorem mem_about {remover : Remover} {history : List Occurrence} :
    .removed client remover ∈ about client history ↔ .removed client remover ∈ history := by
  simp [about, Occurrence.client]

/-! ## Whole runs -/

variable {start : Traffic} {acts : List Act}

theorem Run.nodup (run : Run start acts traffic) (once : start.broadcaster.names.Nodup) :
    traffic.broadcaster.names.Nodup := by
  induction run with
  | refl => exact once
  | snoc _ step ih => exact step.nodup ih

theorem Run.history_prefix (run : Run start acts traffic) (once : start.broadcaster.names.Nodup) :
    start.history <+: traffic.history := by
  induction run with
  | refl => exact List.prefix_refl _
  | snoc run step ih =>
      obtain ⟨new, grows, -⟩ := step.effect (run.nodup once) 0
      exact ih.trans (grows ▸ List.prefix_append _ _)

theorem Run.trans {middle : Traffic} {more : List Act} (run : Run start acts middle)
    (rest : Run middle more traffic) : Run start (acts ++ more) traffic := by
  induction rest with
  | refl => rwa [List.append_nil]
  | snoc _ step ih =>
      rw [← List.append_assoc]
      exact .snoc ih step

theorem Run.story {sendTimeout : Seconds} (run : Run (idle sendTimeout) acts traffic)
    (once : traffic.history.count (.registered client) ≤ 1) :
    Story client (traffic.place client) (about client traffic.history) := by
  induction run with
  | refl => exact .unknown
  | @snoc acts traffic next act run step ih =>
      obtain ⟨new, grows, effect⟩ := step.effect (run.nodup List.nodup_nil) client
      rw [grows] at once ⊢
      have earlier : traffic.history.count (.registered client) ≤ 1 :=
        Nat.le_trans ((List.sublist_append_left _ _).count_le _) once
      rw [about_append]
      refine (ih earlier).step effect ?_
      rwa [← about_append, count_about (by rfl)]

theorem Run.removed_by {sendTimeout : Seconds} (run : Run (idle sendTimeout) acts traffic)
    {remover : Remover} (h : .removed client remover ∈ traffic.history) :
    ∃ act ∈ acts, act.Removes client remover := by
  induction run with
  | refl => cases h
  | @snoc acts traffic next act run step ih =>
      obtain ⟨new, grows, effect⟩ := step.effect (run.nodup List.nodup_nil) client
      rw [grows] at h
      rcases List.mem_append.mp h with h | h
      · obtain ⟨earlier, listed, removes⟩ := ih h
        exact ⟨earlier, List.mem_append_left _ listed, removes⟩
      · exact ⟨act, by simp, effect.removes (mem_about.mpr h)⟩

def Act.Spares (client : ConnectionName) : Act → Prop
  | .unregister other => other ≠ client
  | .deed target does => target = client → does.Steady
  | .register _ _ | .broadcast _ _ | .closeAll | .closeEnds _ => True

theorem Act.Spares.removes {remover : Remover} (spares : act.Spares client)
    (removes : act.Removes client remover) : remover = .sweep := by
  cases remover with
  | caller =>
      cases removes
      exact absurd rfl spares
  | delivery =>
      obtain ⟨deed, rfl, unsteady⟩ := removes
      exact absurd (spares rfl) unsteady
  | sweep => rfl

/-- A connection that is registered at most once has a part of one story: it is registered, removed
by one call, and closed once after that. It is in the set exactly when it is registered and not
removed, and once it is removed it never comes back. If it is spared by all that is done and no call
takes it to close all, it is neither removed nor closed. -/
theorem connection_story {sendTimeout : Seconds} (run : Run (idle sendTimeout) acts traffic)
    (once : traffic.history.count (.registered client) ≤ 1) :
    (∃ remover, about client traffic.history <+:
        [.registered client, .removed client remover, .closed client]) ∧
      (traffic.broadcaster.isRegistered client = true ↔
        about client traffic.history = [.registered client]) ∧
      (∀ remover, .removed client remover ∈ traffic.history → ∀ more later,
        Run traffic more later → later.history.count (.registered client) ≤ 1 →
          later.broadcaster.isRegistered client = false) ∧
      ((∀ act ∈ acts, act.Spares client) → .removed client .sweep ∉ traffic.history →
        about client traffic.history <+: [.registered client]) := by
  have story := run.story once
  refine ⟨story.begins, story.inSet_iff, fun remover removed more later rest still => ?_,
    fun spares untaken => story.kept fun remover removed => ?_⟩
  · have kept := (rest.history_prefix (run.nodup List.nodup_nil)).subset removed
    have told := (run.trans rest).story still
    refine Bool.eq_false_iff.mpr fun back => ?_
    rw [← mem_about, told.inSet_iff.mp back] at kept
    simp at kept
  · rw [mem_about] at removed
    obtain ⟨act, listed, removes⟩ := run.removed_by removed
    cases (spares act listed).removes removes
    exact untaken removed

def pair (sendTimeout : Seconds) (broadcaster : Broadcaster) (first second : Broadcaster.Delivery)
    (history : List Occurrence) : Traffic :=
  { broadcaster := broadcaster
    sendTimeout := sendTimeout
    fanOuts :=
      [⟨frameText (.blocks, "null"), [⟨0, first, false⟩]⟩,
       ⟨frameText (.events, "null"), [⟨0, second, false⟩]⟩]
    sweeps := []
    history := history }

section

variable {sendTimeout : Seconds} {broadcaster later : Broadcaster}
  {first second point : Broadcaster.Delivery} {history : List Occurrence} (deed : Deed)

theorem pair_first
    (step : Dispatch.step broadcaster sendTimeout ⟨0, first, false⟩ deed =
      some (later, ⟨0, point, false⟩)) :
    Step (.deed 0 deed) (pair sendTimeout broadcaster first second history)
      (pair sendTimeout later point second
        (history ++ Dispatch.occurrences broadcaster ⟨0, first, false⟩ ⟨0, point, false⟩ deed)) :=
  @Step.deed (pair sendTimeout broadcaster first second history) [] [_] ⟨_, _⟩ [] [] _ _ _ deed
    rfl rfl step

theorem pair_second
    (step : Dispatch.step broadcaster sendTimeout ⟨0, second, false⟩ deed =
      some (later, ⟨0, point, false⟩)) :
    Step (.deed 0 deed) (pair sendTimeout broadcaster first second history)
      (pair sendTimeout later first point
        (history ++ Dispatch.occurrences broadcaster ⟨0, second, false⟩ ⟨0, point, false⟩ deed)) :=
  @Step.deed (pair sendTimeout broadcaster first second history) [_] [] ⟨_, _⟩ [] [] _ _ _ deed
    rfl rfl step

end

def pairActs : List Act :=
  [.register 0 .null, .broadcast (.ofSlot (.channel .blocks)) Json.null.toValue,
    .broadcast (.ofSlot (.channel .events)) Json.null.toValue, .deed 0 (.does (.seen true)),
    .deed 0 (.does (.seen true))]

def whole (sendTimeout : Seconds) : Traffic :=
  pair sendTimeout ⟨[(0, Channel.all)], 1, 0, 0, 2⟩ .sending .sending [.registered 0]

theorem broadcast_null (traffic : Traffic) (channel : Channel) :
    traffic.broadcast (.ofSlot (.channel channel)) Json.null.toValue =
      { traffic with
        broadcaster := (traffic.broadcaster.snapshot channel).1
        fanOuts := traffic.fanOuts ++
          [.start (frameText (channel, "null")) (traffic.broadcaster.snapshot channel).2] } := by
  rw [Traffic.broadcast, frame_tidy channel .null]
  rfl

theorem whole_run (sendTimeout : Seconds) :
    Run (idle sendTimeout) pairActs (whole sendTimeout) := by
  have registered : Run (idle sendTimeout) [.register 0 .null]
      ⟨⟨[(0, Channel.all)], 1, 0, 0, 0⟩, sendTimeout, [], [], [.registered 0]⟩ :=
    .snoc .refl (.register 0 .null)
  have blocks := registered.snoc (.broadcast (.ofSlot (.channel .blocks)) Json.null.toValue)
  have events := blocks.snoc (.broadcast (.ofSlot (.channel .events)) Json.null.toValue)
  rw [broadcast_null, broadcast_null] at events
  change Run _ _ (pair sendTimeout ⟨[(0, Channel.all)], 1, 0, 0, 2⟩ .checking .checking
    [.registered 0]) at events
  exact (events.snoc (pair_first (.does (.seen true)) rfl)).snoc
    (pair_second (.does (.seen true)) rfl)

def tearing : Deed := .does (.raised (.raised ⟨"RuntimeError", false, some "broken pipe"⟩))

/-- The connection fails both broadcasts. The first to find out removes it and closes it. -/
def torn (sendTimeout : Seconds) : Traffic :=
  pair sendTimeout ⟨[], 1, 1, 0, 2⟩ .closing (.over false)
    [.registered 0, .removed 0 .delivery, .closed 0]

theorem torn_run (sendTimeout : Seconds) :
    Run (idle sendTimeout) (pairActs ++ [.deed 0 tearing, .deed 0 tearing]) (torn sendTimeout) :=
  ((whole_run sendTimeout).snoc (pair_first tearing rfl)).snoc (pair_second tearing rfl)

theorem connection_story_torn :
    Run (idle (.whole 5)) pairActs (whole (.whole 5)) ∧
      about 0 (whole (.whole 5)).history <+: [.registered 0] ∧
      Run (idle (.whole 5)) (pairActs ++ [.deed 0 tearing, .deed 0 tearing]) (torn (.whole 5)) ∧
      (∃ remover, about 0 (torn (.whole 5)).history <+:
        [.registered 0, .removed 0 remover, .closed 0]) ∧
      (torn (.whole 5)).broadcaster.isRegistered 0 = false := by
  have once : (whole (.whole 5)).history.count (.registered 0) ≤ 1 := by decide
  have tornOnce : (torn (.whole 5)).history.count (.registered 0) ≤ 1 := by decide
  obtain ⟨-, -, -, kept⟩ := connection_story (whole_run (.whole 5)) once
  obtain ⟨begins, -, gone, -⟩ := connection_story (torn_run (.whole 5)) tornOnce
  refine ⟨whole_run _, kept ?_ (by decide), torn_run _, begins,
    gone .delivery (by decide) [] _ .refl tornOnce⟩
  simp [pairActs, Act.Spares, Deed.Steady]

end Traffic

end LedgerFeed
