import LedgerFeed.Gateway.Launch
import LedgerFeed.Proofs.Relay.Backoff
import LedgerFeed.Proofs.Settings.Accepted

namespace LedgerFeed

open RelayRun

namespace Binary64

theorem lt_self (x : Binary64) : x.lt x = false := by
  cases x with
  | nan => rfl
  | infinity negative => cases negative <;> rfl
  | finite negative significand exponent => simp [lt, le, isNan, ratio?]

theorem Ample.lt_double {x y : Binary64} (first : x.Ample) (second : y.Ample)
    (less : x.lt y = true) : x.lt y.double = true := by
  rcases second with rfl | ⟨w, value, ample⟩
  · cases x <;> cases less
  · rcases first with rfl | ⟨v, known, -⟩
    · cases less
    · obtain ⟨twice, doubled, grows⟩ := value.double ample
      exact (known.lt_iff doubled).mpr (((known.lt_iff value).mp less).trans_le grows)

end Binary64

/-! ## Accepted pauses -/

theorem between_eq_ok {low high : Bound} {x found : Binary64} (h : between low high x = .ok found) :
    found = x ∧ high.value.lt x = false ∧ x.lt low.value = false := by
  unfold between at h
  split at h
  · cases h
  · rename_i within
    split at h
    · cases h
    · rename_i above
      cases h
      exact ⟨rfl, Bool.eq_false_iff.mpr within, Bool.eq_false_iff.mpr above⟩

theorem ample_of_floor {x : Binary64} (h : x.lt (bound "0.01").value = false) : x.Ample := by
  have floor : (bound "0.01").value = .finite false 5764607523034235 (-59) := by decide +kernel
  have ample : Binary64.ampleLeast ≤ (5764607523034235 : Nat) * 2 ^ (-59 : Int) :=
    calc Binary64.ampleLeast ≤ 2 ^ (-59 : Int) := zpow_le_zpow_right₀ one_le_two (by decide)
      _ ≤ (5764607523034235 : Nat) * 2 ^ (-59 : Int) :=
        le_mul_of_one_le_left (Binary64.zpow_positive _).le (by norm_num)
  rw [floor] at h
  exact Binary64.ample_of_not_lt (.finite _ _) ample h

theorem readSeconds_ample {high : String} {value : Value} {found : Binary64}
    (h : readSeconds "0.01" high value = .ok found) : found.Ample := by
  obtain ⟨x, -, checked⟩ := bind_eq_ok.mp h
  obtain ⟨rfl, -, above⟩ := between_eq_ok checked
  exact ample_of_floor above

namespace Accepted

variable {sources : Sources} {settings : Settings}

theorem reconnectDelay_ample (h : Accepted sources settings) : settings.reconnectDelay.Ample :=
  h.reconnectDelay.holds (ample_of_floor (by decide +kernel)) fun _ _ => readSeconds_ample

theorem maxReconnectDelay_ample (h : Accepted sources settings) : settings.maxReconnectDelay.Ample :=
  h.maxReconnectDelay.holds (ample_of_floor (by decide +kernel)) fun _ _ => readSeconds_ample

end Accepted

/-! ## Pauses that hold a ceiling -/

def Held (longest : Binary64) (delay : Seconds) : Prop :=
  ∃ x, delay = .float x ∧ x.Ample ∧ longest.lt x = false

variable {longest : Binary64} {delay : Seconds} {relay : Relay}

theorem Held.doubled (h : Held longest delay) (ample : longest.Ample) :
    Held longest (delay.double.least (.float longest)) ∧
      (delay.double.least (.float longest)).lt delay = false := by
  obtain ⟨x, rfl, above, within⟩ := h
  obtain ⟨still, grows⟩ := above.double
  unfold Seconds.least
  split
  · exact ⟨⟨longest, rfl, ample, longest.lt_self⟩, within⟩
  · rename_i below
    exact ⟨⟨x.double, rfl, still, Bool.eq_false_iff.mpr below⟩, grows⟩

theorem delayFrom_held (first : Held longest relay.reconnectDelay)
    (ceiling : relay.maxReconnectDelay = .float longest) (ample : longest.Ample)
    (endings : List (Option Fault)) :
    Held longest (delayFrom relay relay.reconnectDelay endings) := by
  induction endings using List.reverseRecOn with
  | nil => exact first
  | append_singleton endings ending ih =>
      rw [delayFrom, List.foldl_append]
      cases ending with
      | none => exact first
      | some fault =>
          change Held longest (nextDelay relay (delayFrom relay relay.reconnectDelay endings) (some fault))
          rw [nextDelay, ceiling]
          exact (ih.doubled ample).1

/-! ## What the relay does -/

def KeepsCeiling (relay : Relay) : Prop :=
  ∀ attempts n, ∀ rest ∈ restsBy relay attempts n, relay.maxReconnectDelay.lt rest.length = false

def NeverShrinks (relay : Relay) : Prop :=
  ∀ attempts n i (rest next : Rest) fault another,
    (restsBy relay attempts n)[i]? = some rest → (endingsOf relay attempts)[i]? = some (some fault) →
    (restsBy relay attempts n)[i + 1]? = some next →
    (endingsOf relay attempts)[i + 1]? = some (some another) →
      next.length.lt rest.length = false

section

variable (running : relay.running = true) (first : Held longest relay.reconnectDelay)
  (ceiling : relay.maxReconnectDelay = .float longest) (ample : longest.Ample)

include running first ceiling ample

theorem keepsCeiling : KeepsCeiling relay := by
  intro attempts n rest listed
  obtain ⟨i, brought⟩ := List.getElem?_of_mem listed
  obtain ⟨ending, -, rfl⟩ := rests_getElem? (restsBy_getElem? running brought)
  rw [ceiling]
  cases ending with
  | none =>
      obtain ⟨x, same, -, within⟩ := first
      rw [restAfter, same]
      exact within
  | some fault =>
      obtain ⟨x, same, -, within⟩ := delayFrom_held first ceiling ample
        ((endingsOf relay attempts).take i)
      rw [restAfter, same]
      exact within

theorem neverShrinks : NeverShrinks relay := by
  intro attempts n i rest next fault another brought failed brought' failed'
  obtain ⟨ending, found, rfl⟩ := rests_getElem? (restsBy_getElem? running brought)
  obtain ⟨ending', found', rfl⟩ := rests_getElem? (restsBy_getElem? running brought')
  cases found.symm.trans failed
  cases found'.symm.trans failed'
  have before := delayFrom_held first ceiling ample ((endingsOf relay attempts).take i)
  have after : delayFrom relay relay.reconnectDelay ((endingsOf relay attempts).take (i + 1)) =
      (delayFrom relay relay.reconnectDelay ((endingsOf relay attempts).take i)).double.least
        (.float longest) := by
    rw [List.take_add_one, failed, delayFrom, List.foldl_append, ← ceiling]
    rfl
  rw [restAfter, restAfter, after]
  exact (before.doubled ample).2

end

/-! ## A first pause above the ceiling -/

def refusals (n : Nat) : List Attempt := List.replicate n (.refused (.bus (.closed none)))

theorem exists_refusals (running : relay.running = true) (m : Nat) : ∃ n,
    restsBy relay (refusals m) n =
      rests relay relay.reconnectDelay (List.replicate m (some (.bus (.closed none)))) := by
  have endings : endingsOf relay (refusals m) =
      List.replicate m (some (.bus (.closed none))) := List.map_replicate
  rw [← endings]
  refine exists_rested running fun fault listed => ?_
  rw [endings] at listed
  cases List.eq_of_mem_replicate listed
  rfl

section

variable {shortest : Binary64} (running : relay.running = true)
  (first : relay.reconnectDelay = .float shortest)
  (ceiling : relay.maxReconnectDelay = .float longest) (above : longest.lt shortest = true)

include running first ceiling above

theorem not_keepsCeiling : ¬ KeepsCeiling relay := by
  intro keeps
  obtain ⟨n, rested⟩ := exists_refusals running 1
  have within := keeps (refusals 1) n (restAfter relay relay.reconnectDelay _) (by
    rw [rested]
    exact List.mem_cons_self)
  rw [ceiling, restAfter, first] at within
  cases within.symm.trans above

theorem not_neverShrinks (ample : shortest.Ample) (ample' : longest.Ample) :
    ¬ NeverShrinks relay := by
  intro grows
  obtain ⟨n, rested⟩ := exists_refusals running 2
  have shrinks : relay.maxReconnectDelay.lt relay.reconnectDelay.double = true := by
    rw [ceiling, first]
    exact ample'.lt_double ample above
  have kept := grows (refusals 2) n 0 _ _ _ _ (by rw [rested]; rfl) rfl (by rw [rested]; rfl) rfl
  rw [restAfter, restAfter, nextDelay, Seconds.least, if_pos shrinks, ceiling, first] at kept
  cases kept.symm.trans above

end

/-! ## The relay of accepted settings -/

/-- Settings are accepted whichever of the two pauses is longer. The relay keeps its ceiling, and its
pauses in a row of failures never shrink, just when the first pause is not above the longest. -/
theorem ceiling_iff {sources : Sources} {settings : Settings}
    (h : Settings.read sources = .ok settings) (task : Nat) :
    let relay := ((Launch.relay settings).start task).1
    (KeepsCeiling relay ↔ settings.maxReconnectDelay.lt settings.reconnectDelay = false) ∧
      (NeverShrinks relay ↔ settings.maxReconnectDelay.lt settings.reconnectDelay = false) := by
  intro relay
  have accepted := accepted_of_read h
  have ample := accepted.reconnectDelay_ample
  have ample' := accepted.maxReconnectDelay_ample
  cases above : settings.maxReconnectDelay.lt settings.reconnectDelay with
  | false =>
      have first : Held settings.maxReconnectDelay relay.reconnectDelay := ⟨_, rfl, ample, above⟩
      exact ⟨iff_of_true (keepsCeiling rfl first rfl ample') rfl,
        iff_of_true (neverShrinks rfl first rfl ample') rfl⟩
  | true =>
      exact ⟨iff_of_false (not_keepsCeiling rfl rfl rfl above) nofun,
        iff_of_false (not_neverShrinks rfl rfl rfl above ample ample') nofun⟩

def onlyFirstPause (pause : Int) : Sources := ⟨[("relay_reconnect_delay", .ofInt pause)], []⟩

theorem ceiling_iff_minute : ∃ settings, Settings.read (onlyFirstPause 60) = .ok settings ∧
    KeepsCeiling ((Launch.relay settings).start 0).1 ∧
    NeverShrinks ((Launch.relay settings).start 0).1 := by
  obtain ⟨settings, accepted, first, longest⟩ : ∃ settings,
      Settings.read (onlyFirstPause 60) = .ok settings ∧
        settings.reconnectDelay = Binary64.ofInt 60 ∧
        settings.maxReconnectDelay = Binary64.ofInt 60 := ⟨_, rfl, by decide +kernel, by decide +kernel⟩
  have within : settings.maxReconnectDelay.lt settings.reconnectDelay = false := by
    rw [first, longest]
    exact Binary64.lt_self _
  obtain ⟨keeps, grows⟩ := ceiling_iff accepted 0
  exact ⟨settings, accepted, keeps.mpr within, grows.mpr within⟩

theorem pauses_above_ceiling : ∃ settings, Settings.read (onlyFirstPause 300) = .ok settings ∧
    ¬ KeepsCeiling ((Launch.relay settings).start 0).1 := by
  obtain ⟨settings, accepted, above⟩ : ∃ settings,
      Settings.read (onlyFirstPause 300) = .ok settings ∧
        settings.maxReconnectDelay.lt settings.reconnectDelay = true := ⟨_, rfl, by decide +kernel⟩
  exact ⟨settings, accepted, not_keepsCeiling rfl rfl rfl above⟩

end LedgerFeed
