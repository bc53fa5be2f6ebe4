import LedgerFeed.Proofs.Gateway.FanOut
import LedgerFeed.Schedule.Machine

namespace LedgerFeed

inductive Ending
  | returns
  | raises (fault : Fault) (caught : fault.isOrdinary = true)
  | never

structure Manner where
  send : Ending
  close : Ending

abbrev Manners := ConnectionName → Manner

/-- What a connection with a manner does with a delivery. It may be open or not whenever it is asked,
and a send may hand the frame over however it ends. -/
inductive Manner.Shows (manner : Manner) : Deed → Prop
  | seen (isOpen : Bool) : manner.Shows (.does (.seen isOpen))
  | takes : manner.Shows .takes
  | sent (ends : manner.send = .returns) : manner.Shows (.does .sent)
  | refuses {fault : Fault} {caught : fault.isOrdinary = true}
      (ends : manner.send = .raises fault caught) : manner.Shows (.does (.raised fault))
  | cutOff (ends : manner.send = .never) : manner.Shows (.does (.raised expiry))
  | closes (ends : manner.close = .returns) : manner.Shows (.does (.closed none))
  | closeFails {fault : Fault} {caught : fault.isOrdinary = true}
      (ends : manner.close = .raises fault caught) : manner.Shows (.does (.closed (some fault)))

inductive Manner.Answers (manner : Manner) : Broadcaster.Delivery → Outcome → Bool → Prop
  | checked : manner.Answers .checking .nothing false
  | sent (reply : Reply) (ends : manner.send = .returns) :
      manner.Answers .sending (.ok reply) true
  | refuses {fault : Fault} {caught : fault.isOrdinary = true}
      (ends : manner.send = .raises fault caught) :
      manner.Answers .sending (.error (.fault fault)) false
  | cutOff (ends : manner.send = .never) :
      manner.Answers .sending (.error (.fault expiry)) false
  | closes (reply : Reply) (ends : manner.close = .returns) :
      manner.Answers .closing (.ok reply) false
  | closeFails {fault : Fault} {caught : fault.isOrdinary = true}
      (ends : manner.close = .raises fault caught) :
      manner.Answers .closing (.error (.fault fault)) false

namespace Manner

variable {manner : Manner}

theorem Shows.sends (h : manner.Shows (.does .sent)) : manner.send = .returns := by
  cases h with
  | sent ends => exact ends

theorem Shows.fails {fault : Fault} (h : manner.Shows (.does (.raised fault))) :
    manner.send ≠ .returns := by
  cases h with
  | refuses ends => simp [ends]
  | cutOff ends => simp [ends]

theorem Shows.ends {failure : Option Fault} (h : manner.Shows (.does (.closed failure))) :
    manner.close ≠ .never ∧ ∀ fault, failure = some fault → fault.isOrdinary = true := by
  cases h with
  | closes ends => exact ⟨by simp [ends], by simp⟩
  | @closeFails fault caught ends =>
      refine ⟨by simp [ends], fun other same => ?_⟩
      cases same
      exact caught

theorem expiry_isOrdinary : expiry.isOrdinary = true := by decide

theorem send_ends (manner : Manner) : manner.Shows (.does .sent) ∨
    ∃ fault, fault.isOrdinary = true ∧ manner.Shows (.does (.raised fault)) := by
  cases ends : manner.send with
  | returns => exact .inl (.sent ends)
  | raises fault caught => exact .inr ⟨fault, caught, .refuses ends⟩
  | never => exact .inr ⟨expiry, expiry_isOrdinary, .cutOff ends⟩

theorem close_ends (h : manner.close ≠ .never) :
    ∃ failure, manner.Shows (.does (.closed failure)) := by
  cases ends : manner.close with
  | returns => exact ⟨none, .closes ends⟩
  | raises fault caught => exact ⟨some fault, .closeFails ends⟩
  | never => exact absurd ends h

end Manner

namespace Dispatch

variable {broadcaster later : Broadcaster} {deadline : Seconds} {dispatch next : Dispatch}
  {deed : Deed} {manner : Manner}

/-- The delivery waits for a close that never ends. -/
def Stuck (manner : Manner) (dispatch : Dispatch) : Prop :=
  dispatch.point = .closing ∧ manner.close = .never

theorem step_none (h : dispatch.isOver = true ∨ dispatch.Stuck manner)
    (shows : manner.Shows deed) : dispatch.step broadcaster deadline deed = none := by
  refine Option.eq_none_iff_forall_ne_some.mpr fun ⟨later, next⟩ step => ?_
  cases step_cases step with
  | opened at_ | shut at_ | takes at_ | sent at_ | raised fault at_ =>
      simp [isOver, Stuck, at_] at h
  | closed failure at_ => exact shows.ends.1 (h.resolve_left (by simp [isOver, at_])).2

theorem goes_on (broadcaster : Broadcaster) (deadline : Seconds) (isOpen : Bool)
    (unfinished : dispatch.isOver = false) (free : ¬ dispatch.Stuck manner) :
    ∃ deed, manner.Shows deed ∧ (∀ b, deed = .does (.seen b) → b = isOpen) ∧
      ∃ later next, dispatch.step broadcaster deadline deed = some (later, next) := by
  suffices moves : ∃ deed, manner.Shows deed ∧ (∀ b, deed = .does (.seen b) → b = isOpen) ∧
      (dispatch.step broadcaster deadline deed).isSome = true by
    obtain ⟨deed, shows, asked, moves⟩ := moves
    obtain ⟨⟨later, next⟩, step⟩ := Option.isSome_iff_exists.mp moves
    exact ⟨deed, shows, asked, later, next, step⟩
  obtain ⟨client, _ | _ | _ | delivered, taken⟩ := dispatch
  · refine ⟨.does (.seen isOpen), .seen isOpen, fun b same => ?_, rfl⟩
    cases same
    rfl
  · rcases manner.send_ends with shows | ⟨fault, caught, shows⟩
    · exact ⟨.does .sent, shows, by simp, rfl⟩
    · exact ⟨.does (.raised fault), shows, by simp, by simp [step, Broadcaster.proceed, caught]⟩
  · have ends : manner.close ≠ .never := fun never => free ⟨rfl, never⟩
    obtain ⟨failure, shows⟩ := Manner.close_ends ends
    refine ⟨.does (.closed failure), shows, by simp, ?_⟩
    cases failure with
    | none => rfl
    | some fault => simp [step, Broadcaster.proceed, shows.ends.2 fault rfl]
  · cases unfinished

end Dispatch

end LedgerFeed
