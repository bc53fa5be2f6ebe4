import LedgerFeed.Proofs.Characters.Utf8
import LedgerFeed.Proofs.Json.LongNumbers
import LedgerFeed.Wire.Payload

namespace LedgerFeed

open Json.Grammar

inductive Carries (raw : Value) : Text → Prop
  | text {text : Text} (same : raw.text? = some text) : Carries raw text
  | octets {kind : Buffer} {chars : List Char}
      (same : raw.slot = .buffer kind (Utf8.encode chars)) (owned : kind ≠ .memoryview) :
      Carries raw (.ofChars chars)

theorem payloadText_eq_ok {raw : Value} {text : Text} :
    payloadText raw = .ok text ↔ Carries raw text := by
  constructor
  · intro h
    unfold payloadText at h
    split at h
    · rename_i same
      cases h
      exact .text same
    · cases h
    · rename_i kind octets owned _ same
      split at h
      · rename_i decoded
        cases h
        rw [Utf8.decode?_eq_some.mp decoded] at same
        exact .octets same owned
      · cases h
    · cases h
  · intro h
    cases h with
    | text same =>
        unfold payloadText
        rw [same]
    | @octets kind chars same owned =>
        have noText : raw.text? = none := by
          rw [Value.text?, same]
          rfl
        cases kind with
        | memoryview => exact absurd rfl owned
        | bytes => simp only [payloadText, noText, same, Utf8.decode?_encode]
        | bytearray => simp only [payloadText, noText, same, Utf8.decode?_encode]

theorem parsePayload_carried {raw : Value} {text : Text} (h : Carries raw text)
    (name : String) : parsePayload name raw = readBody name text := by
  rw [parsePayload, payloadText_eq_ok.mpr h]

theorem carries_or_refused (name : String) (raw : Value) :
    (∃ text, Carries raw text) ∨ ∃ error, parsePayload name raw = .error (.payload name error) := by
  cases h : payloadText raw with
  | ok text => exact .inl ⟨text, payloadText_eq_ok.mp h⟩
  | error error =>
      refine .inr ⟨error, ?_⟩
      rw [parsePayload, h]

theorem readBody_eq_ok {name : String} {text : Text} {body : Json} :
    readBody name text = .ok body ↔ ElementOf text body ∧ body.isObject = true := by
  rw [← Json.read_eq_ok]
  unfold readBody
  split
  · rename_i found read
    rw [read]
    split
    · rename_i isObject
      constructor
      · rintro ⟨⟩
        exact ⟨rfl, isObject⟩
      · rintro ⟨⟨⟩, -⟩
        rfl
    · rename_i other
      constructor
      · rintro ⟨⟩
      · rintro ⟨⟨⟩, isObject⟩
        exact absurd isObject other
  · rename_i read
    simp [read]
  · rename_i read
    simp [read]

theorem readBody_eq_longInteger {name : String} {text : Text} {count : Nat} :
    readBody name text = .error (.longInteger count) ↔ LongAt count text := by
  rw [← Json.read_eq_tooManyDigits]
  unfold readBody
  split
  · rename_i read
    rw [read]
    split <;> simp
  · rename_i read
    simp [read]
  · rename_i other read
    simpa [read] using other count

theorem parsePayload_fails {name : String} {raw : Value} {fault : Fault}
    (h : parsePayload name raw = .error fault) :
    (∃ count, fault = .longInteger count) ∨ ∃ error, fault = .payload name error := by
  unfold parsePayload at h
  split at h
  · unfold readBody at h
    split at h
    · split at h
      · cases h
      · cases h
        exact .inr ⟨_, rfl⟩
    · cases h
      exact .inl ⟨_, rfl⟩
    · cases h
      exact .inr ⟨_, rfl⟩
  · cases h
    exact .inr ⟨_, rfl⟩

/-- What becomes of a payload: its body is read, or reading stops at a number with too many digits,
or the payload is refused under the name of its channel. Octets are read as the text that they
encode. -/
theorem parsePayload_decides (name : String) (raw : Value) :
    (∀ body, parsePayload name raw = .ok body ↔
      ∃ text, Carries raw text ∧ ElementOf text body ∧ body.isObject = true) ∧
    (∀ count, parsePayload name raw = .error (.longInteger count) ↔
      ∃ text, Carries raw text ∧ LongAt count text) ∧
    ((∃ body, parsePayload name raw = .ok body) ∨
      (∃ count, parsePayload name raw = .error (.longInteger count)) ∨
        ∃ error, parsePayload name raw = .error (.payload name error)) ∧
    (∀ text, Carries raw text →
      parsePayload name raw = parsePayload name (.text text)) := by
  refine ⟨fun body => ⟨fun h => ?_, ?_⟩, fun count => ⟨fun h => ?_, ?_⟩, ?_, fun text carried => ?_⟩
  · rcases carries_or_refused name raw with ⟨text, carried⟩ | ⟨error, refused⟩
    · rw [parsePayload_carried carried] at h
      exact ⟨text, carried, readBody_eq_ok.mp h⟩
    · rw [refused] at h
      cases h
  · rintro ⟨text, carried, derived⟩
    rw [parsePayload_carried carried]
    exact readBody_eq_ok.mpr derived
  · rcases carries_or_refused name raw with ⟨text, carried⟩ | ⟨error, refused⟩
    · rw [parsePayload_carried carried] at h
      exact ⟨text, carried, readBody_eq_longInteger.mp h⟩
    · rw [refused] at h
      cases h
  · rintro ⟨text, carried, long⟩
    rw [parsePayload_carried carried]
    exact readBody_eq_longInteger.mpr long
  · cases h : parsePayload name raw with
    | ok body => exact .inl ⟨body, rfl⟩
    | error fault =>
        rcases parsePayload_fails h with ⟨count, rfl⟩ | ⟨error, rfl⟩
        · exact .inr (.inl ⟨count, rfl⟩)
        · exact .inr (.inr ⟨error, rfl⟩)
  · have same : Carries (.text text) text := .text rfl
    rw [parsePayload_carried carried, parsePayload_carried same]

end LedgerFeed
