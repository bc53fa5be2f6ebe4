import Mathlib.Data.List.Nodup
import LedgerFeed.Ledger.Hooks

/-!
# Notifications of commit hooks

Hooks may install and remove hooks and begin notifications of their own while they are called. The
trace of a host tells which hooks stand at each moment (`standing`), and a stretch of a trace that an
act leaves behind has all of each notification that begins in it (`Stretch`). So a notification calls
the hooks that stood when it began, each of them once, whatever they do (`hooks_fan_out`).
-/

namespace LedgerFeed

def Hook.Distinct (hooks : List Hook) : Prop := hooks.Pairwise fun a b => a.same b = false

theorem Hook.Distinct.nodup {hooks : List Hook} (h : Distinct hooks) : hooks.Nodup := by
  refine h.imp fun {a b} differ same => ?_
  subst same
  simp [Hook.same] at differ

theorem Hook.Distinct.eraseP {hooks : List Hook} (h : Distinct hooks) {p : Hook → Bool} {entry : Hook}
    (found : hooks.find? p = some entry) :
    hooks.eraseP p = hooks.filter fun hook => !decide (entry = hook) := by
  obtain ⟨holds, earlier, later, rfl, fails⟩ := List.find?_eq_some_iff_append.mp found
  have apart : entry ∉ earlier ++ later := (List.nodup_middle.mp h.nodup).notMem
  have others : (earlier ++ later).filter (fun hook => !decide (entry = hook)) = earlier ++ later :=
    List.filter_eq_self.mpr fun hook listed => by
      have differs : entry ≠ hook := fun same => apart (same ▸ listed)
      simpa using differs
  have none (hook : Hook) (listed : hook ∈ earlier) : ¬ p hook = true := by
    simpa using fails hook listed
  rw [List.eraseP_append_right _ none, List.eraseP_cons_of_pos holds, List.filter_append,
    List.filter_cons_of_neg (by simp), ← List.filter_append, others]

namespace HookEvent

def removes (hook : Hook) : HookEvent → Bool
  | .uninstalled other => other = hook
  | _ => false

/-- The hooks that were installed and not removed since, in the order of their installation. -/
def standing : List HookEvent → List Hook
  | [] => []
  | .installed hook :: later =>
      if later.any (removes hook) then standing later else hook :: standing later
  | _ :: later => standing later

def calls (number : Nat) (trace : List HookEvent) : List HookCall :=
  trace.filterMap fun
    | .called call => if call.round.number = number then some call else none
    | _ => none

def inRound (round : HookRound) (hooks : List Hook) (number : Nat) : List HookCall :=
  if number = round.number then hooks.map (HookCall.mk round) else []

theorem rounds_append (earlier later : List HookEvent) :
    rounds (earlier ++ later) = rounds earlier + rounds later :=
  List.countP_append

theorem rounds_began (round : HookRound) (hooks : List Hook) (later : List HookEvent) :
    rounds (.began round hooks :: later) = rounds later + 1 :=
  List.countP_cons_of_pos rfl

theorem calls_append (number : Nat) (earlier later : List HookEvent) :
    calls number (earlier ++ later) = calls number earlier ++ calls number later :=
  List.filterMap_append

theorem standing_append (earlier later : List HookEvent) :
    standing (earlier ++ later) =
      (standing earlier).filter (fun hook => !later.any (removes hook)) ++ standing later := by
  induction earlier with
  | nil => rfl
  | cons event rest ih =>
      cases event with
      | installed hook =>
          simp only [List.cons_append, standing, List.any_append]
          cases rest.any (removes hook) <;> cases gone : later.any (removes hook) <;> simp [ih, gone]
      | uninstalled | began | called | ended | closing | closed | logged => exact ih

def Still : HookEvent → Prop
  | .installed _ | .uninstalled _ => False
  | .began _ _ | .called _ | .ended _ | .closing _ | .closed _ | .logged _ => True

theorem standing_still (trace : List HookEvent) {event : HookEvent} (still : event.Still) :
    standing (trace ++ [event]) = standing trace := by
  rw [standing_append]
  cases event with
  | installed | uninstalled => exact still.elim
  | began | called | ended | closing | closed | logged => simp [standing, removes]

theorem split_append {new more part rest : List HookEvent} {event : HookEvent}
    (h : new ++ more = part ++ event :: rest) :
    (∃ middle, new = part ++ event :: middle ∧ rest = middle ++ more) ∨
      ∃ front, part = new ++ front ∧ more = front ++ event :: rest := by
  rcases List.append_eq_append_iff.mp h with ⟨front, rfl, rfl⟩ | ⟨middle, rfl, tail⟩
  · exact .inr ⟨front, rfl, rfl⟩
  · cases middle with
    | nil => exact .inr ⟨[], by simp, tail.symm⟩
    | cons first middle =>
        obtain ⟨rfl, rfl⟩ := List.cons.inj tail
        exact .inl ⟨middle, rfl, rfl⟩

/-! ## Stretches of a trace -/

/-- What acts leave behind a trace. Each notification that begins in it is all there, and `made` are
the calls for notifications that began before it. -/
structure Stretch (before new : List HookEvent) (made : Nat → List HookCall) : Prop where
  distinct : ∀ part, part <+: new → Hook.Distinct (standing (before ++ part))
  complete : ∀ part round hooks rest, new = part ++ .began round hooks :: rest →
    round.number = rounds (before ++ part) ∧ hooks = standing (before ++ part) ∧
      .ended round ∈ rest ∧ calls round.number new = hooks.map (HookCall.mk round)
  made : ∀ number < rounds before, calls number new = made number
  fresh : ∀ number ≥ rounds (before ++ new), calls number new = []

variable {before new more : List HookEvent} {made others : Nat → List HookCall}

theorem Stretch.append (h : Stretch before new made) (h' : Stretch (before ++ new) more others)
    (earlier : ∀ number ≥ rounds before, others number = []) :
    Stretch before (new ++ more) fun number => made number ++ others number := by
  have grows := rounds_append before new
  refine ⟨fun part start => ?_, fun part round hooks rest split => ?_, fun number early => ?_,
    fun number late => ?_⟩
  · rcases List.prefix_or_prefix_of_prefix start (List.prefix_append new more) with
      within | ⟨front, rfl⟩
    · exact h.distinct part within
    · rw [← List.append_assoc]
      exact h'.distinct front ((List.prefix_append_right_inj new).mp start)
  -- A round of the first part makes no calls in the second, for those are for rounds before both,
  -- and a round of the second part had not begun in the first.
  · rcases split_append split with ⟨middle, here, rfl⟩ | ⟨front, rfl, there⟩
    · obtain ⟨number, stood, ended, called⟩ := h.complete part round hooks middle here
      have known : round.number < rounds (before ++ new) := by
        rw [number, here, ← List.append_assoc, rounds_append (before ++ part), rounds_began]
        omega
      have none : others round.number = [] := earlier _ (by rw [number, rounds_append]; omega)
      refine ⟨number, stood, List.mem_append_left _ ended, ?_⟩
      rw [calls_append, called, h'.made _ known, none, List.append_nil]
    · obtain ⟨number, stood, ended, called⟩ := h'.complete front round hooks rest there
      rw [List.append_assoc] at number stood
      have unknown : calls round.number new = [] :=
        h.fresh _ (by rw [number, ← List.append_assoc, rounds_append (before ++ new)]; omega)
      exact ⟨number, stood, ended, by rw [calls_append, unknown, called, List.nil_append]⟩
  · rw [calls_append, h.made number early, h'.made number (by omega)]
  · rw [← List.append_assoc, rounds_append (before ++ new)] at late
    rw [calls_append, h.fresh number (by omega), h'.fresh number (by rw [rounds_append]; omega)]
    rfl

theorem Stretch.single {event : HookEvent} (stood : Hook.Distinct (standing before))
    (stand : Hook.Distinct (standing (before ++ [event])))
    (begins : rounds [event] = 0)
    (early : ∀ number ≥ rounds before, calls number [event] = []) :
    Stretch before [event] fun number => calls number [event] := by
  refine ⟨fun part start => ?_, fun part round hooks rest split => ?_, fun number _ => rfl,
    fun number late => early number ?_⟩
  · rcases List.prefix_cons_iff.mp start with rfl | ⟨tail, rfl, nil⟩
    · rwa [List.append_nil]
    · rwa [List.prefix_nil.mp nil]
  · obtain rfl : event = .began round hooks := by
      have listed : HookEvent.began round hooks ∈ [event] := split ▸ by simp
      exact (List.mem_singleton.mp listed).symm
    cases begins
  · rwa [rounds_append, begins] at late

theorem Stretch.round {round : HookRound} {hooks : List Hook}
    (number : round.number = rounds before) (stood : hooks = standing before)
    (distinct : Hook.Distinct hooks)
    (body : Stretch (before ++ [.began round hooks]) new (inRound round hooks)) :
    Stretch before (.began round hooks :: (new ++ [.ended round])) fun _ => [] := by
  have begins : rounds (before ++ [.began round hooks]) = rounds before + 1 := rounds_append ..
  have same (n : Nat) : calls n (.began round hooks :: (new ++ [.ended round])) = calls n new := by
    rw [← List.cons_append, calls_append]
    exact List.append_nil _
  have onward (part : List HookEvent) :
      before ++ .began round hooks :: part = before ++ [.began round hooks] ++ part := by simp
  refine ⟨fun part start => ?_, fun part other others rest split => ?_, fun n early => ?_,
    fun n late => ?_⟩
  · rcases List.prefix_cons_iff.mp start with rfl | ⟨tail, rfl, within⟩
    · rw [List.append_nil]
      exact stood ▸ distinct
    · rw [onward]
      rcases List.prefix_concat_iff.mp within with rfl | within
      · rw [← List.append_assoc, standing_still _ (by trivial)]
        exact body.distinct new (List.prefix_refl _)
      · exact body.distinct tail within
  -- The notification that begins is this one or one within its body.
  · rw [same]
    cases part with
    | nil =>
        obtain ⟨begun, rfl⟩ := List.cons.inj split
        cases begun
        rw [List.append_nil]
        refine ⟨number, stood, by simp, ?_⟩
        rw [body.made _ (by omega), inRound, if_pos rfl]
    | cons first part =>
        obtain ⟨rfl, later⟩ := List.cons.inj split
        rcases split_append later with ⟨middle, here, rfl⟩ | ⟨front, -, ends⟩
        · obtain ⟨number, stood, ended, called⟩ := body.complete part other others middle here
          rw [onward]
          exact ⟨number, stood, List.mem_append_left _ ended, called⟩
        · have listed : HookEvent.began other others ∈ [.ended round] := ends ▸ by simp
          cases List.mem_singleton.mp listed
  · rw [same, body.made n (by omega), inRound, if_neg (by omega)]
  · have grows := rounds_append (before ++ [.began round hooks] ++ new) [.ended round]
    rw [onward, ← List.append_assoc] at late
    rw [same, body.fresh n (by omega)]

end HookEvent

namespace HookHost

open HookEvent

/-! ## What hooks may do -/

mutual

def Act.isOrdinary : Act → Bool
  | .install _ | .uninstall _ => true
  | .notify _ _ scripts | .shutdown scripts => Script.allOrdinary scripts

def Act.allOrdinary : List Act → Bool
  | [] => true
  | act :: rest => act.isOrdinary && Act.allOrdinary rest

def Script.isOrdinary : Script → Bool
  | .mk acts outcome => Act.allOrdinary acts && outcome.all Fault.isOrdinary

def Script.allOrdinary : List Script → Bool
  | [] => true
  | script :: rest => script.isOrdinary && Script.allOrdinary rest

end

/-! ## What each step leaves in the trace -/

structure Sound (host : HookHost) : Prop where
  stands : host.hooks = standing host.trace
  distinct : Hook.Distinct host.hooks

structure Advances (host next : HookHost) (made : Nat → List HookCall) : Prop where
  sound : next.Sound
  trace : ∃ new, next.trace = host.trace ++ new ∧ Stretch host.trace new made

variable {host middle next : HookHost} {made others : Nat → List HookCall}

theorem Advances.trans (h : Advances host middle made) (h' : Advances middle next others)
    (earlier : ∀ number ≥ rounds host.trace, others number = []) :
    Advances host next fun number => made number ++ others number := by
  obtain ⟨new, traced, stretch⟩ := h.trace
  obtain ⟨more, traced', stretch'⟩ := h'.trace
  rw [traced] at stretch'
  exact ⟨h'.sound, new ++ more, by rw [traced', traced, List.append_assoc],
    stretch.append stretch' earlier⟩

theorem Advances.congr (h : Advances host next made) (same : ∀ number, made number = others number) :
    Advances host next others :=
  (funext same : made = others) ▸ h

theorem Advances.quiet (h : Advances host middle made) (h' : Advances middle next fun _ => []) :
    Advances host next made :=
  (h.trans h' fun _ _ => rfl).congr fun _ => List.append_nil _

theorem Advances.refl (sound : host.Sound) : Advances host host fun _ => [] := by
  refine ⟨sound, [], (List.append_nil _).symm, fun part start => ?_, fun part round hooks rest split => ?_,
    fun _ _ => rfl, fun _ _ => rfl⟩
  · rw [List.prefix_nil.mp start, List.append_nil, ← sound.stands]
    exact sound.distinct
  · simp at split

theorem Advances.single {hooks : List Hook} {event : HookEvent} (sound : host.Sound)
    (after : Sound ⟨hooks, host.trace ++ [event]⟩) (begins : rounds [event] = 0)
    (early : ∀ number ≥ rounds host.trace, calls number [event] = []) :
    Advances host ⟨hooks, host.trace ++ [event]⟩ fun number => calls number [event] :=
  ⟨after, [event], rfl, .single (sound.stands ▸ sound.distinct) (after.stands ▸ after.distinct) begins
    early⟩

theorem Sound.record (sound : host.Sound) {event : HookEvent} (still : event.Still) :
    (host.record event).Sound :=
  ⟨sound.stands.trans (standing_still _ still).symm, sound.distinct⟩

theorem log_advances (sound : host.Sound) (level : Level) (event : String)
    (fields : List (String × Value)) : Advances host (host.log level event fields) fun _ => [] :=
  .single sound (sound.record trivial) rfl fun _ _ => rfl

theorem beginClosing_advances (sound : host.Sound) : Advances host host.beginClosing fun _ => [] :=
  .single sound (sound.record trivial) rfl fun _ _ => rfl

theorem closed_advances (sound : host.Sound) (hook : Hook) :
    Advances host (host.record (.closed hook)) fun _ => [] :=
  .single sound (sound.record trivial) rfl fun _ _ => rfl

theorem called_advances (sound : host.Sound) {round : HookRound}
    (begun : round.number < rounds host.trace) (hook : Hook) :
    Advances host (host.record (.called ⟨round, hook⟩)) (inRound round [hook]) := by
  have called (number : Nat) : calls number [.called ⟨round, hook⟩] = inRound round [hook] number := by
    by_cases same : round.number = number
    · simp [calls, inRound, same]
    · simp [calls, inRound, same, Ne.symm same]
  have after : (host.record (.called ⟨round, hook⟩)).Sound := sound.record trivial
  refine (Advances.single sound after rfl fun number late => ?_).congr called
  rw [called, inRound, if_neg (by omega)]

theorem install_advances (sound : host.Sound) (hook : Hook) :
    Advances host (host.install hook) fun _ => [] := by
  unfold install
  split
  · exact .refl sound
  · rename_i absent
    have apart : ∀ other ∈ host.hooks, other.same hook = false := by simpa using absent
    have stands : standing (host.trace ++ [.installed hook]) = host.hooks ++ [hook] := by
      rw [standing_append, sound.stands]
      simp [standing, removes]
    have distinct : Hook.Distinct (host.hooks ++ [hook]) :=
      List.pairwise_append.mpr ⟨sound.distinct, List.pairwise_singleton _ _, by simpa using apart⟩
    have added : Advances host ⟨host.hooks ++ [hook], host.trace ++ [.installed hook]⟩ fun _ => [] :=
      .single sound ⟨stands.symm, distinct⟩ rfl fun _ _ => rfl
    exact added.quiet (log_advances added.sound _ _ _)

theorem uninstall_advances (sound : host.Sound) (hook : Hook) :
    Advances host (host.uninstall hook).1 fun _ => [] := by
  unfold uninstall
  split
  · exact .refl sound
  · rename_i entry found
    have stands : standing (host.trace ++ [.uninstalled entry]) = host.hooks.eraseP (·.same hook) := by
      rw [sound.distinct.eraseP found, standing_append, sound.stands]
      simp [standing, removes]
    have distinct : Hook.Distinct (host.hooks.eraseP (·.same hook)) :=
      sound.distinct.sublist List.eraseP_sublist
    have removed : Advances host
        ⟨host.hooks.eraseP (·.same hook), host.trace ++ [.uninstalled entry]⟩ fun _ => [] :=
      .single sound ⟨stands.symm, distinct⟩ rfl fun _ _ => rfl
    exact removed.quiet (log_advances removed.sound _ _ _)

theorem settleCall_advances (sound : host.Sound) (hook : Hook) {outcome : Option Fault}
    (ordinary : outcome.all Fault.isOrdinary = true) :
    ∃ next, host.settleCall hook outcome = (next, none) ∧ Advances host next fun _ => [] := by
  cases outcome with
  | none => exact ⟨host, rfl, .refl sound⟩
  | some fault =>
      have caught : fault.isOrdinary = true := ordinary
      exact ⟨_, if_pos (by rw [caught]; rfl), log_advances sound _ _ _⟩

theorem settleClose_advances (sound : host.Sound) (hook : Hook) {outcome : Option Fault}
    (ordinary : outcome.all Fault.isOrdinary = true) :
    ∃ next, host.settleClose hook outcome = (next, none) ∧ Advances host next fun _ => [] := by
  cases outcome with
  | none => exact ⟨host, rfl, .refl sound⟩
  | some fault =>
      have caught : fault.isOrdinary = true := ordinary
      exact ⟨_, if_pos caught, log_advances sound _ _ _⟩

theorem Advances.rounds_le (h : Advances host next made) : rounds host.trace ≤ rounds next.trace := by
  obtain ⟨new, traced, -⟩ := h.trace
  rw [traced, rounds_append]
  exact Nat.le_add_right _ _

/-! ## Rounds -/

theorem inRound_cons (round : HookRound) (hook : Hook) (rest : List Hook) (number : Nat) :
    inRound round [hook] number ++ inRound round rest number = inRound round (hook :: rest) number := by
  unfold inRound
  split <;> rfl

theorem notifyQuietly_advances (sound : host.Sound) {round : HookRound}
    (begun : round.number < rounds host.trace) (hooks : List Hook) :
    Advances host (host.notifyQuietly round hooks) (inRound round hooks) := by
  induction hooks generalizing host with
  | nil => exact (Advances.refl sound).congr fun number => (ite_self _).symm
  | cons hook rest ih =>
      have called := called_advances sound begun hook
      have others := ih called.sound (Nat.lt_of_lt_of_le begun called.rounds_le)
      exact (called.trans others fun number late => if_neg (by omega)).congr (inRound_cons round hook rest)

theorem closeQuietly_advances (sound : host.Sound) (hooks : List Hook) :
    Advances host (host.closeQuietly hooks) fun _ => [] := by
  induction hooks generalizing host with
  | nil => exact .refl sound
  | cons hook rest ih =>
      have removed := uninstall_advances sound hook
      simp only [closeQuietly, List.foldl_cons]
      split
      · have closed := removed.quiet (closed_advances removed.sound hook)
        exact closed.quiet (ih closed.sound)
      · exact removed.quiet (ih removed.sound)

theorem begin_sound (sound : host.Sound) (round : HookRound) : (host.begin round).Sound :=
  sound.record trivial

theorem nextRound_begun (host : HookHost) (block records : Value) :
    (host.nextRound block records).number <
      rounds (host.begin (host.nextRound block records)).trace := by
  rw [begin, record, rounds_append]
  exact Nat.lt_succ_self _

structure Returns (host : HookHost) (result : HookHost × Option Fault) (made : Nat → List HookCall) :
    Prop where
  faultless : result.2 = none
  advances : Advances host result.1 made

theorem finish_returns (sound : host.Sound) {round : HookRound}
    (number : round.number = rounds host.trace) {result : HookHost × Option Fault}
    (body : Returns (host.begin round) result (inRound round host.hooks)) :
    Returns host (finish round result) fun _ => [] := by
  obtain ⟨after, fault⟩ := result
  obtain ⟨rfl, advances⟩ := body
  obtain ⟨new, traced, stretch⟩ := advances.trace
  have told : (after.record (.ended round)).trace =
      host.trace ++ .began round host.hooks :: (new ++ [.ended round]) := by
    have traced : after.trace = host.trace ++ [.began round host.hooks] ++ new := traced
    simp [record, traced]
  have ends : (after.record (.ended round)).Sound := advances.sound.record trivial
  exact ⟨rfl, ends, _, told, .round number sound.stands sound.distinct stretch⟩

mutual

theorem perform_returns : ∀ (act : Act) {host : HookHost}, host.Sound → act.isOrdinary = true →
    Returns host (perform host act) fun _ => []
  | .install hook, _, sound, _ => ⟨rfl, install_advances sound hook⟩
  | .uninstall hook, _, sound, _ => ⟨rfl, uninstall_advances sound hook⟩
  | .notify block records scripts, host, sound, ordinary =>
      finish_returns sound rfl (notifyEach_returns scripts (begin_sound sound _)
        (host.nextRound_begun block records) host.hooks ordinary)
  | .shutdown scripts, host, sound, ordinary => by
      have begun := beginClosing_advances sound
      have closed := closeEach_returns scripts begun.sound host.hooks ordinary
      exact ⟨closed.faultless, begun.quiet closed.advances⟩

theorem performAll_returns : ∀ (acts : List Act) {host : HookHost}, host.Sound →
    Act.allOrdinary acts = true → Returns host (performAll host acts) fun _ => []
  | [], _, sound, _ => ⟨rfl, .refl sound⟩
  | act :: rest, host, sound, ordinary => by
      obtain ⟨first, others⟩ := Bool.and_eq_true_iff.mp ordinary
      obtain ⟨returned, advances⟩ := perform_returns act sound first
      have onward := performAll_returns rest advances.sound others
      rw [performAll]
      generalize perform host act = result at returned advances onward
      obtain ⟨after, fault⟩ := result
      subst returned
      exact ⟨onward.faultless, advances.quiet onward.advances⟩

theorem follow_returns : ∀ (script : Script) {host : HookHost}, host.Sound →
    script.isOrdinary = true → (follow host script).2.all Fault.isOrdinary = true ∧
      Advances host (follow host script).1 fun _ => []
  | .mk acts outcome, host, sound, ordinary => by
      obtain ⟨first, last⟩ := Bool.and_eq_true_iff.mp ordinary
      obtain ⟨returned, advances⟩ := performAll_returns acts sound first
      rw [follow]
      generalize performAll host acts = result at returned advances
      obtain ⟨after, fault⟩ := result
      subst returned
      exact ⟨last, advances⟩

theorem notifyEach_returns : ∀ (scripts : List Script) {host : HookHost}, host.Sound →
    ∀ {round : HookRound}, round.number < rounds host.trace → ∀ hooks : List Hook,
      Script.allOrdinary scripts = true →
        Returns host (notifyEach host round hooks scripts) (inRound round hooks)
  | [], _, sound, _, begun, hooks, _ => ⟨rfl, notifyQuietly_advances sound begun hooks⟩
  | script :: scripts, host, sound, round, begun, hooks, ordinary => by
      obtain ⟨first, others⟩ := Bool.and_eq_true_iff.mp ordinary
      cases hooks with
      | nil => exact ⟨rfl, (Advances.refl sound).congr fun number => (ite_self _).symm⟩
      | cons hook rest =>
          have called := called_advances sound begun hook
          obtain ⟨caught, followed⟩ := follow_returns script called.sound first
          obtain ⟨after, settled, settles⟩ := settleCall_advances followed.sound hook caught
          have handled := (called.quiet followed).quiet settles
          have onward := notifyEach_returns scripts handled.sound
            (Nat.lt_of_lt_of_le begun handled.rounds_le) rest others
          simp only [notifyEach, settled]
          refine ⟨onward.faultless, ?_⟩
          exact (handled.trans onward.advances fun number late => if_neg (by omega)).congr
            (inRound_cons round hook rest)

theorem closeEach_returns : ∀ (scripts : List Script) {host : HookHost}, host.Sound →
    ∀ hooks : List Hook, Script.allOrdinary scripts = true →
      Returns host (closeEach host hooks scripts) fun _ => []
  | [], _, sound, hooks, _ => ⟨rfl, closeQuietly_advances sound hooks⟩
  | script :: scripts, host, sound, hooks, ordinary => by
      obtain ⟨first, others⟩ := Bool.and_eq_true_iff.mp ordinary
      cases hooks with
      | nil => exact ⟨rfl, .refl sound⟩
      | cons hook rest =>
          have removed := uninstall_advances sound hook
          by_cases closable : hook.closable = true
          · have closed := removed.quiet (closed_advances removed.sound hook)
            obtain ⟨caught, followed⟩ := follow_returns script closed.sound first
            obtain ⟨after, settled, settles⟩ := settleClose_advances followed.sound hook caught
            have handled := (closed.quiet followed).quiet settles
            have onward := closeEach_returns scripts handled.sound rest others
            simp only [closeEach, closable, ↓reduceIte, settled]
            exact ⟨onward.faultless, handled.quiet onward.advances⟩
          · have onward := closeEach_returns scripts removed.sound rest others
            simp only [closeEach, closable, Bool.false_eq_true, ↓reduceIte]
            exact ⟨onward.faultless, removed.quiet onward.advances⟩

end

/-! ## Whole runs -/

theorem empty_sound : empty.Sound := ⟨rfl, List.Pairwise.nil⟩

theorem notify_begins (sound : host.Sound) (block records : Value) {scripts : List Script}
    (ordinary : Script.allOrdinary scripts = true) :
    ∃ later, (host.notify scripts block records).1.trace =
      host.trace ++ .began (host.nextRound block records) host.hooks :: later := by
  have body := notifyEach_returns scripts (begin_sound sound _) (host.nextRound_begun block records)
    host.hooks ordinary
  simp only [notify, perform]
  generalize notifyEach _ _ _ _ = result at body ⊢
  obtain ⟨after, fault⟩ := result
  obtain ⟨rfl, advances⟩ := body
  obtain ⟨new, traced, -⟩ := advances.trace
  have traced : after.trace =
    host.trace ++ [.began (host.nextRound block records) host.hooks] ++ new := traced
  exact ⟨new ++ [.ended (host.nextRound block records)], by simp [finish, record, traced]⟩

/-- Whatever hooks do, if all that they raise are exceptions: the list never has two equal hooks, and
has those that stand in the order of their installation. Every notification that begins, within
others or by itself, calls the hooks that stand at that moment, each of them once and in that order,
with the block and the records that it was given, and returns. -/
theorem hooks_fan_out (acts : List Act) (ordinary : Act.allOrdinary acts = true) :
    ∃ host, performAll empty acts = (host, none) ∧ host.hooks = standing host.trace ∧
      (∀ part, part <+: host.trace → Hook.Distinct (standing part)) ∧
      (∀ earlier round hooks later, host.trace = earlier ++ .began round hooks :: later →
        round.number = rounds earlier ∧ hooks = standing earlier ∧ .ended round ∈ later ∧
          calls round.number host.trace = hooks.map (HookCall.mk round)) ∧
      ∀ block records scripts, Script.allOrdinary scripts = true →
        ∃ next, host.notify scripts block records = (next, none) ∧
          calls (rounds host.trace) next.trace =
            host.hooks.map (HookCall.mk ⟨rounds host.trace, block, records⟩) := by
  obtain ⟨returned, sound, trace⟩ := performAll_returns acts empty_sound ordinary
  generalize performAll empty acts = result at returned sound trace ⊢
  obtain ⟨host, fault⟩ := result
  obtain rfl : fault = none := returned
  obtain ⟨new, rfl, stretch⟩ : ∃ new, host.trace = new ∧ Stretch [] new fun _ => [] := trace
  refine ⟨host, rfl, sound.stands, stretch.distinct, stretch.complete,
    fun block records scripts ordinary => ?_⟩
  have unknown : calls (rounds host.trace) host.trace = [] := stretch.fresh _ (Nat.le_refl _)
  obtain ⟨ended, -, more, traced, stretch'⟩ :=
    perform_returns (.notify block records scripts) sound ordinary
  obtain ⟨later, begins⟩ := notify_begins sound block records ordinary
  obtain rfl := List.append_cancel_left (traced.symm.trans begins)
  obtain ⟨-, -, -, called⟩ := stretch'.complete [] _ _ _ rfl
  refine ⟨_, Prod.ext rfl ended, ?_⟩
  rw [begins, calls_append, unknown]
  exact called

def plainHook (identity : Nat) : Hook := ⟨identity, "Hook", none, false⟩

def reentrantActs : List Act :=
  [.install (plainHook 0), .install (plainHook 1), .install (plainHook 0),
    .notify .null .null
      [.mk [.uninstall (plainHook 1), .install (plainHook 2), .notify .null .null []]
        (some (.raised ⟨"RuntimeError", false, some "hook"⟩))]]

theorem hooks_fan_out_reentrant :
    Act.allOrdinary reentrantActs = true ∧
      ∃ host next, performAll empty reentrantActs = (host, none) ∧
        host.notify [] .null .null = (next, none) ∧
        calls 2 next.trace = [⟨⟨2, .null, .null⟩, plainHook 0⟩, ⟨⟨2, .null, .null⟩, plainHook 2⟩] := by
  obtain ⟨host, run, -, -, -, onward⟩ := hooks_fan_out reentrantActs rfl
  obtain ⟨next, returned, called⟩ := onward .null .null [] rfl
  refine ⟨rfl, host, next, run, returned, ?_⟩
  obtain rfl : (performAll empty reentrantActs).1 = host := by rw [run]
  exact called

end HookHost

end LedgerFeed
