import Mathlib.Data.List.Pairwise
import LedgerFeed.Proofs.Ledger.Notifications

/-!
# Shutting a host down

A shutdown takes the hooks of its snapshot one after the other, uninstalls each and closes it if it
can be closed. While a hook is closed it may call back, and even begin another shutdown, with a
snapshot of its own. So a hook is closed as often as a shutdown found it installed
(`closeEach_closes`), and a shutdown that has returned has removed every hook that it found and has
closed it, once unless another shutdown found it too (`shutdown_closes`).
-/

namespace LedgerFeed

theorem Hook.same_comm (a b : Hook) : a.same b = b.same a := by
  rw [Bool.eq_iff_iff]
  simp only [Hook.same, Bool.or_eq_true, Bool.and_eq_true, decide_eq_true_eq]
  constructor
  all_goals
    rintro (same | ⟨grouped, same⟩)
    · exact .inl same.symm
    · exact .inr ⟨same ▸ grouped, same.symm⟩

theorem Hook.Distinct.eq_of_same {hooks : List Hook} (h : Distinct hooks) {a b : Hook}
    (first : a ∈ hooks) (second : b ∈ hooks) (same : a.same b = true) : a = b := by
  have : Std.Symm fun a b : Hook => a.same b = false := ⟨fun a b apart => by rwa [same_comm]⟩
  by_contra differs
  rw [h.forall first second differs] at same
  cases same

namespace HookEvent

def closings (hook : Hook) (trace : List HookEvent) : Nat :=
  trace.countP fun
    | .closed other => other = hook
    | _ => false

def findings (hook : Hook) (trace : List HookEvent) : Nat :=
  trace.countP fun
    | .closing hooks => hook ∈ hooks
    | _ => false

theorem closings_append (hook : Hook) (earlier later : List HookEvent) :
    closings hook (earlier ++ later) = closings hook earlier + closings hook later :=
  List.countP_append

theorem findings_append (hook : Hook) (earlier later : List HookEvent) :
    findings hook (earlier ++ later) = findings hook earlier + findings hook later :=
  List.countP_append

theorem closings_closed (hook other : Hook) : closings hook [.closed other] = [other].count hook := by
  by_cases same : other = hook <;> simp [closings, same]

theorem closings_closing (hook : Hook) (hooks : List Hook) (later : List HookEvent) :
    closings hook (.closing hooks :: later) = closings hook later :=
  List.countP_cons_of_neg (by simp)

theorem findings_closing (hook : Hook) {hooks : List Hook} (nodup : hooks.Nodup)
    (later : List HookEvent) :
    findings hook (.closing hooks :: later) = hooks.count hook + findings hook later := by
  rw [nodup.count, findings, List.countP_cons, Nat.add_comm]
  by_cases listed : hook ∈ hooks <;> simp [findings, listed]

end HookEvent

namespace HookHost

open HookEvent

def Logs (host next : HookHost) : Prop :=
  next = host ∨ ∃ level event fields, next = host.log level event fields

theorem settleCall_logs (host : HookHost) (hook : Hook) (outcome : Option Fault) :
    Logs host (host.settleCall hook outcome).1 := by
  cases outcome with
  | none => exact .inl rfl
  | some fault =>
      rw [settleCall]
      split
      · exact .inr ⟨_, _, _, rfl⟩
      · exact .inl rfl

theorem settleClose_logs (host : HookHost) (hook : Hook) (outcome : Option Fault) :
    Logs host (host.settleClose hook outcome).1 := by
  cases outcome with
  | none => exact .inl rfl
  | some fault =>
      rw [settleClose]
      split
      · exact .inr ⟨_, _, _, rfl⟩
      · exact .inl rfl

/-! ## How often hooks are closed -/

/-- From one host to another by acts that close a hook once for each shutdown among them that finds
it, and those that are due besides. -/
def Closes (host next : HookHost) (due : List Hook) : Prop :=
  ∃ new, next.trace = host.trace ++ new ∧
    ∀ hook, hook.closable = true → closings hook new = due.count hook + findings hook new

variable {host middle next : HookHost} {due others : List Hook}

theorem Closes.trans (h : Closes host middle due) (h' : Closes middle next others) :
    Closes host next (due ++ others) := by
  obtain ⟨new, traced, counted⟩ := h
  obtain ⟨more, traced', counted'⟩ := h'
  refine ⟨new ++ more, by rw [traced', traced, List.append_assoc], fun hook closable => ?_⟩
  rw [closings_append, findings_append, List.count_append, counted hook closable,
    counted' hook closable]
  omega

theorem Closes.quiet (h : Closes host middle due) (h' : Closes middle next []) :
    Closes host next due := by
  rw [← List.append_nil due]
  exact h.trans h'

theorem Closes.idle {new : List HookEvent} (traced : next.trace = host.trace ++ new)
    (idle : ∀ hook, closings hook new = 0 ∧ findings hook new = 0) : Closes host next [] := by
  refine ⟨new, traced, fun hook _ => ?_⟩
  rw [(idle hook).1, (idle hook).2]
  rfl

theorem Closes.refl (host : HookHost) : Closes host host [] :=
  .idle (List.append_nil _).symm fun _ => ⟨rfl, rfl⟩

theorem install_closes (host : HookHost) (hook : Hook) : Closes host (host.install hook) [] := by
  unfold install
  split
  · exact .refl host
  · exact .idle (List.append_assoc ..) fun _ => ⟨rfl, rfl⟩

theorem uninstall_closes (host : HookHost) (hook : Hook) :
    Closes host (host.uninstall hook).1 [] := by
  unfold uninstall
  split
  · exact .refl host
  · exact .idle (List.append_assoc ..) fun _ => ⟨rfl, rfl⟩

theorem closed_closes (host : HookHost) (hook : Hook) :
    Closes host (host.record (.closed hook)) [hook] :=
  ⟨_, rfl, fun other _ => closings_closed other hook⟩

theorem unclosable_closes (host : HookHost) {hook : Hook} (unclosable : ¬ hook.closable = true) :
    Closes host host [hook] := by
  refine ⟨[], (List.append_nil _).symm, fun other closable => ?_⟩
  have differs : other ∉ [hook] := fun listed =>
    unclosable (List.mem_singleton.mp listed ▸ closable)
  rw [List.count_eq_zero_of_not_mem differs]
  rfl

theorem Logs.closes (h : Logs host next) : Closes host next [] := by
  rcases h with rfl | ⟨level, event, fields, rfl⟩
  · exact .refl _
  · exact .idle rfl fun _ => ⟨rfl, rfl⟩

theorem notifyQuietly_closes (host : HookHost) (round : HookRound) (hooks : List Hook) :
    Closes host (host.notifyQuietly round hooks) [] := by
  induction hooks generalizing host with
  | nil => exact .refl host
  | cons hook rest ih =>
      have called : Closes host (host.record (.called ⟨round, hook⟩)) [] :=
        .idle rfl fun _ => ⟨rfl, rfl⟩
      exact called.quiet (ih _)

theorem closeQuietly_closes (host : HookHost) (hooks : List Hook) :
    Closes host (host.closeQuietly hooks) hooks := by
  induction hooks generalizing host with
  | nil => exact .refl host
  | cons hook rest ih =>
      have removed := uninstall_closes host hook
      simp only [closeQuietly, List.foldl_cons]
      split
      · exact (removed.trans (closed_closes _ hook)).trans (ih _)
      · exact (removed.trans (unclosable_closes _ ‹_›)).trans (ih _)

theorem finish_closes {result : HookHost × Option Fault} (round : HookRound)
    (h : Closes host result.1 due) : Closes host (finish round result).1 due := by
  obtain ⟨after, fault⟩ := result
  cases fault with
  | none => exact h.quiet (.idle rfl fun _ => ⟨rfl, rfl⟩)
  | some fault => exact h

theorem beginClosing_closes (sound : host.Sound) (h : Closes host.beginClosing next host.hooks) :
    Closes host next [] := by
  obtain ⟨new, traced, counted⟩ := h
  refine ⟨.closing host.hooks :: new, traced.trans (List.append_assoc ..), fun hook closable => ?_⟩
  rw [closings_closing, findings_closing hook sound.distinct.nodup, counted hook closable,
    List.count_nil, Nat.zero_add]

mutual

theorem perform_closes : ∀ (act : Act) {host : HookHost}, host.Sound → act.isOrdinary = true →
    Closes host (perform host act).1 []
  | .install hook, host, _, _ => install_closes host hook
  | .uninstall hook, host, _, _ => uninstall_closes host hook
  | .notify block records scripts, host, sound, ordinary => by
      have begun : Closes host (host.begin (host.nextRound block records)) [] :=
        .idle rfl fun _ => ⟨rfl, rfl⟩
      have body := notifyEach_closes scripts (begin_sound sound (host.nextRound block records))
        (host.nextRound block records) host.hooks ordinary
      exact finish_closes _ (begun.quiet body)
  | .shutdown scripts, host, sound, ordinary => by
      have begun := (beginClosing_advances sound).sound
      exact beginClosing_closes sound (closeEach_closes scripts begun host.hooks ordinary)

theorem performAll_closes : ∀ (acts : List Act) {host : HookHost}, host.Sound →
    Act.allOrdinary acts = true → Closes host (performAll host acts).1 []
  | [], host, _, _ => .refl host
  | act :: rest, host, sound, ordinary => by
      obtain ⟨first, others⟩ := Bool.and_eq_true_iff.mp ordinary
      have closed := perform_closes act sound first
      obtain ⟨returned, advances⟩ := perform_returns act sound first
      have onward := performAll_closes rest advances.sound others
      rw [performAll]
      generalize perform host act = result at returned closed onward
      obtain ⟨after, fault⟩ := result
      subst returned
      exact closed.quiet onward

theorem follow_closes : ∀ (script : Script) {host : HookHost}, host.Sound →
    script.isOrdinary = true → Closes host (follow host script).1 []
  | .mk acts outcome, host, sound, ordinary => by
      have closed := performAll_closes acts sound (Bool.and_eq_true_iff.mp ordinary).1
      rw [follow]
      generalize performAll host acts = result at closed
      obtain ⟨after, fault⟩ := result
      cases fault <;> exact closed

theorem notifyEach_closes : ∀ (scripts : List Script) {host : HookHost}, host.Sound →
    ∀ (round : HookRound) (hooks : List Hook), Script.allOrdinary scripts = true →
      Closes host (notifyEach host round hooks scripts).1 []
  | [], host, _, round, hooks, _ => notifyQuietly_closes host round hooks
  | script :: scripts, host, sound, round, hooks, ordinary => by
      obtain ⟨first, others⟩ := Bool.and_eq_true_iff.mp ordinary
      cases hooks with
      | nil => exact .refl host
      | cons hook rest =>
          have begun : (host.record (.called ⟨round, hook⟩)).Sound := sound.record trivial
          have called : Closes host (host.record (.called ⟨round, hook⟩)) [] :=
            .idle rfl fun _ => ⟨rfl, rfl⟩
          have body := follow_closes script begun first
          obtain ⟨caught, advances⟩ := follow_returns script begun first
          rw [notifyEach]
          generalize follow (host.record (.called ⟨round, hook⟩)) script = result at body caught advances
          obtain ⟨middle, outcome⟩ := result
          obtain ⟨after, settled, settles⟩ := settleCall_advances advances.sound hook caught
          have logged := settleCall_logs middle hook outcome
          simp only [settled] at logged ⊢
          have handled := (called.quiet body).quiet logged.closes
          exact handled.quiet (notifyEach_closes scripts settles.sound round rest others)

theorem closeEach_closes : ∀ (scripts : List Script) {host : HookHost}, host.Sound →
    ∀ hooks : List Hook, Script.allOrdinary scripts = true →
      Closes host (closeEach host hooks scripts).1 hooks
  | [], host, _, hooks, _ => closeQuietly_closes host hooks
  | script :: scripts, host, sound, hooks, ordinary => by
      obtain ⟨first, others⟩ := Bool.and_eq_true_iff.mp ordinary
      cases hooks with
      | nil => exact .refl host
      | cons hook rest =>
          have removed := uninstall_closes host hook
          have remains := (uninstall_advances sound hook).sound
          by_cases closable : hook.closable = true
          · have closed := removed.trans (closed_closes _ hook)
            have begun : ((host.uninstall hook).1.record (.closed hook)).Sound :=
              remains.record trivial
            have body := follow_closes script begun first
            obtain ⟨caught, advances⟩ := follow_returns script begun first
            simp only [closeEach, closable, ↓reduceIte]
            generalize follow ((host.uninstall hook).1.record (.closed hook)) script = result
              at body caught advances
            obtain ⟨middle, outcome⟩ := result
            obtain ⟨after, settled, settles⟩ := settleClose_advances advances.sound hook caught
            have logged := settleClose_logs middle hook outcome
            simp only [settled] at logged ⊢
            have handled := (closed.quiet body).quiet logged.closes
            exact handled.trans (closeEach_closes scripts settles.sound rest others)
          · have onward := closeEach_closes scripts remains rest others
            simp only [closeEach, closable, Bool.false_eq_true, ↓reduceIte]
            exact (removed.trans (unclosable_closes _ closable)).trans onward

end

/-! ## What hooks install -/

mutual

def Act.installs : Act → List Hook
  | .install hook => [hook]
  | .uninstall _ => []
  | .notify _ _ scripts | .shutdown scripts => Script.allInstalls scripts

def Act.allInstalls : List Act → List Hook
  | [] => []
  | act :: rest => act.installs ++ Act.allInstalls rest

def Script.installs : Script → List Hook
  | .mk acts _ => Act.allInstalls acts

def Script.allInstalls : List Script → List Hook
  | [] => []
  | script :: rest => script.installs ++ Script.allInstalls rest

end

structure Without (hook : Hook) (host next : HookHost) : Prop where
  absent : hook ∉ next.hooks
  trace : ∃ new, next.trace = host.trace ++ new ∧ ∀ round, .called ⟨round, hook⟩ ∉ new

variable {hook : Hook}

theorem Without.trans (h : Without hook host middle) (h' : Without hook middle next) :
    Without hook host next := by
  obtain ⟨new, traced, uncalled⟩ := h.trace
  obtain ⟨more, traced', uncalled'⟩ := h'.trace
  refine ⟨h'.absent, new ++ more, by rw [traced', traced, List.append_assoc], fun round called => ?_⟩
  exact (List.mem_append.mp called).elim (uncalled round) (uncalled' round)

theorem Without.refl (absent : hook ∉ host.hooks) : Without hook host host :=
  ⟨absent, [], (List.append_nil _).symm, fun _ => List.not_mem_nil⟩

theorem record_without (absent : hook ∉ host.hooks) {event : HookEvent}
    (uncalled : ∀ round, event ≠ .called ⟨round, hook⟩) : Without hook host (host.record event) :=
  ⟨absent, [event], rfl, fun round called => uncalled round (List.mem_singleton.mp called).symm⟩

theorem install_without (absent : hook ∉ host.hooks) {other : Hook} (differs : hook ≠ other) :
    Without hook host (host.install other) := by
  unfold install
  split
  · exact .refl absent
  · have added : hook ∉ host.hooks ++ [other] := by simpa using ⟨absent, differs⟩
    exact ⟨added, _, List.append_assoc .., by simp⟩

theorem uninstall_without (absent : hook ∉ host.hooks) (other : Hook) :
    Without hook host (host.uninstall other).1 := by
  unfold uninstall
  split
  · exact .refl absent
  · have remains : hook ∉ host.hooks.eraseP (·.same other) := fun listed =>
      absent (List.mem_of_mem_eraseP listed)
    exact ⟨remains, _, List.append_assoc .., by simp⟩

theorem closed_without (absent : hook ∉ host.hooks) (other : Hook) :
    Without hook host ((host.uninstall other).1.record (.closed other)) := by
  have removed := uninstall_without absent other
  exact removed.trans (record_without removed.absent nofun)

theorem Logs.without (h : Logs host next) (absent : hook ∉ host.hooks) :
    Without hook host next := by
  rcases h with rfl | ⟨level, event, fields, rfl⟩
  · exact .refl absent
  · exact record_without absent nofun

theorem notifyQuietly_without (absent : hook ∉ host.hooks) (round : HookRound) {hooks : List Hook}
    (unlisted : hook ∉ hooks) : Without hook host (host.notifyQuietly round hooks) := by
  induction hooks generalizing host with
  | nil => exact .refl absent
  | cons other rest ih =>
      obtain ⟨differs, unlisted⟩ := not_or.mp (mt List.mem_cons.mpr unlisted)
      have called : Without hook host (host.record (.called ⟨round, other⟩)) :=
        record_without absent fun _ same => differs (by cases same; rfl)
      exact called.trans (ih called.absent unlisted)

theorem closeQuietly_without (absent : hook ∉ host.hooks) (hooks : List Hook) :
    Without hook host (host.closeQuietly hooks) := by
  induction hooks generalizing host with
  | nil => exact .refl absent
  | cons other rest ih =>
      have removed := uninstall_without absent other
      simp only [closeQuietly, List.foldl_cons]
      split
      · have closed := closed_without absent other
        exact closed.trans (ih closed.absent)
      · exact removed.trans (ih removed.absent)

theorem finish_without {result : HookHost × Option Fault} (round : HookRound)
    (h : Without hook host result.1) : Without hook host (finish round result).1 := by
  obtain ⟨after, fault⟩ := result
  cases fault with
  | none => exact h.trans (record_without h.absent nofun)
  | some fault => exact h

mutual

theorem perform_without : ∀ (act : Act) {host : HookHost}, hook ∉ host.hooks →
    hook ∉ act.installs → Without hook host (perform host act).1
  | .install other, _, absent, spared =>
      install_without absent fun same => spared (List.mem_singleton.mpr same)
  | .uninstall other, _, absent, _ => uninstall_without absent other
  | .notify block records scripts, host, absent, spared => by
      have begun : Without hook host (host.begin (host.nextRound block records)) :=
        record_without absent nofun
      exact finish_without _ (begun.trans
        (notifyEach_without scripts begun.absent _ absent spared))
  | .shutdown scripts, host, absent, spared => by
      have begun : Without hook host host.beginClosing := record_without absent nofun
      exact begun.trans (closeEach_without scripts begun.absent host.hooks spared)

theorem performAll_without : ∀ (acts : List Act) {host : HookHost}, hook ∉ host.hooks →
    hook ∉ Act.allInstalls acts → Without hook host (performAll host acts).1
  | [], _, absent, _ => .refl absent
  | act :: rest, host, absent, spared => by
      obtain ⟨first, others⟩ := not_or.mp (mt List.mem_append.mpr spared)
      have performed := perform_without act absent first
      rw [performAll]
      generalize perform host act = result at performed
      obtain ⟨after, fault⟩ := result
      cases fault with
      | none => exact performed.trans (performAll_without rest performed.absent others)
      | some fault => exact performed

theorem follow_without : ∀ (script : Script) {host : HookHost}, hook ∉ host.hooks →
    hook ∉ script.installs → Without hook host (follow host script).1
  | .mk acts outcome, host, absent, spared => by
      have performed := performAll_without acts absent spared
      rw [follow]
      generalize performAll host acts = result at performed
      obtain ⟨after, fault⟩ := result
      cases fault <;> exact performed

theorem notifyEach_without : ∀ (scripts : List Script) {host : HookHost}, hook ∉ host.hooks →
    ∀ (round : HookRound) {hooks : List Hook}, hook ∉ hooks → hook ∉ Script.allInstalls scripts →
      Without hook host (notifyEach host round hooks scripts).1
  | [], _, absent, round, _, unlisted, _ => notifyQuietly_without absent round unlisted
  | script :: scripts, host, absent, round, hooks, unlisted, spared => by
      obtain ⟨first, others⟩ := not_or.mp (mt List.mem_append.mpr spared)
      cases hooks with
      | nil => exact .refl absent
      | cons other rest =>
          obtain ⟨differs, unlisted⟩ := not_or.mp (mt List.mem_cons.mpr unlisted)
          have called : Without hook host (host.record (.called ⟨round, other⟩)) :=
            record_without absent fun _ same => differs (by cases same; rfl)
          have body := called.trans (follow_without script called.absent first)
          simp only [notifyEach]
          generalize follow (host.record (.called ⟨round, other⟩)) script = result at body
          obtain ⟨middle, outcome⟩ := result
          have handled := body.trans ((settleCall_logs middle other outcome).without body.absent)
          dsimp only
          generalize settleCall middle other outcome = settled at handled
          obtain ⟨after, fault⟩ := settled
          cases fault with
          | none =>
              exact handled.trans (notifyEach_without scripts handled.absent round unlisted others)
          | some fault => exact handled

theorem closeEach_without : ∀ (scripts : List Script) {host : HookHost}, hook ∉ host.hooks →
    ∀ hooks : List Hook, hook ∉ Script.allInstalls scripts →
      Without hook host (closeEach host hooks scripts).1
  | [], _, absent, hooks, _ => closeQuietly_without absent hooks
  | script :: scripts, host, absent, hooks, spared => by
      obtain ⟨first, others⟩ := not_or.mp (mt List.mem_append.mpr spared)
      cases hooks with
      | nil => exact .refl absent
      | cons other rest =>
          have removed := uninstall_without absent other
          by_cases closable : other.closable = true
          · have closed := closed_without absent other
            have body := closed.trans (follow_without script closed.absent first)
            simp only [closeEach, closable, ↓reduceIte]
            generalize follow ((host.uninstall other).1.record (.closed other)) script = result at body
            obtain ⟨middle, outcome⟩ := result
            have handled := body.trans ((settleClose_logs middle other outcome).without body.absent)
            dsimp only
            generalize settleClose middle other outcome = settled at handled
            obtain ⟨after, fault⟩ := settled
            cases fault with
            | none => exact handled.trans (closeEach_without scripts handled.absent rest others)
            | some fault => exact handled
          · simp only [closeEach, closable, Bool.false_eq_true, ↓reduceIte]
            exact removed.trans (closeEach_without scripts removed.absent rest others)

end

/-! ## What a shutdown leaves -/

theorem uninstall_absent (sound : host.Sound) (hook : Hook) :
    hook ∉ (host.uninstall hook).1.hooks := by
  have itself : hook.same hook = true := by simp [Hook.same]
  unfold uninstall
  split
  · rename_i found
    exact fun listed => List.find?_eq_none.mp found hook listed itself
  · rename_i entry found
    have matched := List.find?_some found
    change hook ∉ host.hooks.eraseP (·.same hook)
    rw [sound.distinct.eraseP found]
    intro remains
    obtain ⟨listed, differs⟩ := List.mem_filter.mp remains
    have one := sound.distinct.eq_of_same (List.mem_of_find?_eq_some found) listed matched
    simp [one] at differs

theorem uninstall_due (sound : host.Sound) {other : Hook} {rest : List Hook}
    (due : hook ∈ other :: rest ∨ hook ∉ host.hooks) :
    hook ∈ rest ∨ hook ∉ (host.uninstall other).1.hooks := by
  rcases due with listed | absent
  · rcases List.mem_cons.mp listed with rfl | later
    · exact .inr (uninstall_absent sound hook)
    · exact .inl later
  · exact .inr (uninstall_without absent other).absent

theorem closeQuietly_absent (sound : host.Sound) {hooks : List Hook}
    (due : hook ∈ hooks ∨ hook ∉ host.hooks) : hook ∉ (host.closeQuietly hooks).hooks := by
  induction hooks generalizing host with
  | nil => exact due.resolve_left List.not_mem_nil
  | cons other rest ih =>
      have remains := (uninstall_advances sound other).sound
      have later := uninstall_due sound due
      simp only [closeQuietly, List.foldl_cons]
      split
      · exact ih (remains.record trivial) later
      · exact ih remains later

theorem closeEach_absent (scripts : List Script) (sound : host.Sound) {hooks : List Hook}
    (ordinary : Script.allOrdinary scripts = true) (spared : hook ∉ Script.allInstalls scripts)
    (due : hook ∈ hooks ∨ hook ∉ host.hooks) :
    hook ∉ (closeEach host hooks scripts).1.hooks := by
  induction scripts generalizing host hooks with
  | nil => exact closeQuietly_absent sound due
  | cons script scripts ih =>
      obtain ⟨first, others⟩ := Bool.and_eq_true_iff.mp ordinary
      obtain ⟨spares, sparesOthers⟩ := not_or.mp (mt List.mem_append.mpr spared)
      cases hooks with
      | nil => exact due.resolve_left List.not_mem_nil
      | cons other rest =>
          have remains := (uninstall_advances sound other).sound
          have later := uninstall_due sound due
          by_cases closable : other.closable = true
          · have begun : ((host.uninstall other).1.record (.closed other)).Sound :=
              remains.record trivial
            have body (absent : hook ∉ (host.uninstall other).1.hooks) :
                Without hook _ (follow ((host.uninstall other).1.record (.closed other)) script).1 :=
              follow_without script absent spares
            obtain ⟨caught, advances⟩ := follow_returns script begun first
            simp only [closeEach, closable, ↓reduceIte]
            generalize follow ((host.uninstall other).1.record (.closed other)) script = result
              at body caught advances
            obtain ⟨middle, outcome⟩ := result
            obtain ⟨after, settled, settles⟩ := settleClose_advances advances.sound other caught
            have logged := settleClose_logs middle other outcome
            simp only [settled] at logged ⊢
            exact ih settles.sound others sparesOthers
              (later.imp_right fun absent => (logged.without (body absent).absent).absent)
          · simp only [closeEach, closable, Bool.false_eq_true, ↓reduceIte]
            exact ih remains others sparesOthers later

theorem removed_of_absent {new : List HookEvent} (sound : host.Sound) (after : next.Sound)
    (traced : next.trace = host.trace ++ new) (listed : hook ∈ host.hooks)
    (absent : hook ∉ next.hooks) : .uninstalled hook ∈ new := by
  rw [after.stands, traced, standing_append, ← sound.stands] at absent
  have removed : new.any (removes hook) = true := by
    by_contra kept
    exact absent (List.mem_append_left _ (List.mem_filter.mpr ⟨listed, by simpa using kept⟩))
  obtain ⟨event, happened, removes⟩ := List.any_eq_true.mp removed
  cases event with
  | uninstalled other =>
      obtain rfl : other = hook := of_decide_eq_true removes
      exact happened
  | installed | began | called | ended | closing | closed | logged => cases removes

/-- Whatever the hooks do when they are closed, as long as all that they raise are exceptions and
they install nothing: a shutdown returns and leaves no hook installed. It has removed every hook that
was installed when it began. It has closed those of them that can be closed, each of them once unless
another shutdown found it installed. No notification calls them after it, unless they are installed
again. -/
theorem shutdown_closes (sound : host.Sound) {scripts : List Script}
    (ordinary : Script.allOrdinary scripts = true) (installs : Script.allInstalls scripts = []) :
    ∃ next new, host.shutdown scripts = (next, none) ∧ next.trace = host.trace ++ new ∧
      next.hooks = [] ∧ ∀ hook ∈ host.hooks, .uninstalled hook ∈ new ∧
        (hook.closable = true →
          1 ≤ closings hook new ∧ (findings hook new = 1 → closings hook new = 1)) ∧
        ∀ acts, hook ∉ Act.allInstalls acts → ∃ later,
          (performAll next acts).1.trace = next.trace ++ later ∧
            ∀ round, .called ⟨round, hook⟩ ∉ later := by
  have spared (hook : Hook) : hook ∉ Script.allInstalls scripts := by
    rw [installs]
    exact List.not_mem_nil
  have begun := (beginClosing_advances sound).sound
  obtain ⟨returned, advances⟩ := perform_returns (.shutdown scripts) sound ordinary
  obtain ⟨rest, traced, counted⟩ := closeEach_closes scripts begun host.hooks ordinary
  have gone (hook : Hook) (listed : hook ∈ host.hooks) :
      hook ∉ (host.shutdown scripts).1.hooks :=
    closeEach_absent scripts begun ordinary (spared hook) (.inl listed)
  have none_left : (host.shutdown scripts).1.hooks = [] := by
    refine List.eq_nil_iff_forall_not_mem.mpr fun hook => ?_
    by_cases listed : hook ∈ host.hooks
    · exact gone hook listed
    · exact (perform_without (.shutdown scripts) listed (spared hook)).absent
  have all : (host.shutdown scripts).1.trace = host.trace ++ .closing host.hooks :: rest :=
    traced.trans (List.append_assoc ..)
  refine ⟨_, _, Prod.ext rfl returned, all, none_left, fun hook listed => ⟨?_, fun closable => ?_, ?_⟩⟩
  · exact removed_of_absent sound advances.sound all listed (gone hook listed)
  · have once := List.count_eq_one_of_mem sound.distinct.nodup listed
    rw [closings_closing, findings_closing hook sound.distinct.nodup, counted hook closable, once]
    exact ⟨Nat.le_add_right .., id⟩
  · intro acts installed
    exact (performAll_without acts (gone hook listed) installed).trace

def closableHook (identity : Nat) : Hook := ⟨identity, "Hook", none, true⟩

def fourHooks : HookHost :=
  (performAll empty [.install (closableHook 0), .install (closableHook 1), .install (plainHook 2),
    .install (closableHook 3)]).1

def fourClosings : List Script :=
  [.mk [.uninstall (closableHook 1)] (some (.raised ⟨"RuntimeError", false, some "close failed"⟩)),
    .quiet, .quiet, .mk [.shutdown []] none]

theorem fourHooks_sound : fourHooks.Sound :=
  (performAll_returns _ empty_sound rfl).advances.sound

theorem shutdown_closes_reentrant :
    fourHooks.Sound ∧ Script.allOrdinary fourClosings = true ∧ Script.allInstalls fourClosings = [] ∧
      ∃ next new, fourHooks.shutdown fourClosings = (next, none) ∧
        next.trace = fourHooks.trace ++ new ∧ next.hooks = [] ∧
        closings (closableHook 0) new = 1 ∧ closings (closableHook 1) new = 1 ∧
        closings (closableHook 3) new = 1 ∧
        ∃ later, (performAll next [.install (plainHook 2), .notify .null .null []]).1.trace =
          next.trace ++ later ∧ ∀ round, .called ⟨round, closableHook 0⟩ ∉ later := by
  obtain ⟨next, new, run, traced, empty, each⟩ := shutdown_closes fourHooks_sound
    (rfl : Script.allOrdinary fourClosings = true) rfl
  obtain rfl : (fourHooks.shutdown fourClosings).1 = next := congrArg Prod.fst run
  obtain rfl : (fourHooks.shutdown fourClosings).1.trace.drop fourHooks.trace.length = new := by
    rw [traced, List.drop_left]
  have once (hook : Hook) (listed : hook ∈ fourHooks.hooks) (closable : hook.closable = true) :=
    ((each hook listed).2.1 closable).2
  exact ⟨fourHooks_sound, rfl, rfl, _, _, run, traced, empty, once _ (by decide) rfl rfl,
    once _ (by decide) rfl rfl, once _ (by decide) rfl rfl,
    (each (closableHook 0) (by decide)).2.2 _ (by decide)⟩

/-- A hook that is installed again is closed again, and one that is still installed when a closing
begins another shutdown is closed by both. -/
theorem closed_twice :
    closings (closableHook 0) (performAll empty
        [.install (closableHook 0), .shutdown [], .install (closableHook 0), .shutdown []]).1.trace = 2 ∧
      closings (closableHook 1) (performAll empty
        [.install (closableHook 0), .install (closableHook 1),
          .shutdown [.mk [.shutdown []] none]]).1.trace = 2 :=
  ⟨rfl, rfl⟩

end HookHost

end LedgerFeed
