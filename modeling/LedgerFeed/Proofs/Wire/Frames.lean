import LedgerFeed.Proofs.Ledger.Payloads

namespace LedgerFeed

theorem readBody_tidy {name : String} {text : Text} {body : Json}
    (h : readBody name text = .ok body) : body.Tidy ∧ body.isObject = true := by
  unfold readBody at h
  split at h
  · rename_i found hread
    have tidy := Json.read_tidy hread
    split at h
    · rename_i isObject
      cases h
      exact ⟨tidy, isObject⟩
    · cases h
  · cases h
  · cases h

theorem parsePayload_tidy {name : String} {raw : Value} {body : Json}
    (h : parsePayload name raw = .ok body) : body.Tidy ∧ body.isObject = true := by
  unfold parsePayload at h
  split at h
  · exact readBody_tidy h
  · cases h

theorem wrap_faithful (channel : Channel) {body : Json} (h : body.Faithful) :
    (Envelope.wrap channel body).Faithful := by
  refine .object (by simp) fun member hm => ?_
  simp only [List.mem_cons, List.not_mem_nil, or_false] at hm
  rcases hm with rfl | rfl
  · exact .string _
  · exact h

theorem relayed_frame_faithful {name : String} {raw : Value} {body : Json} (channel : Channel)
    (accepted : parsePayload name raw = .ok body) (free : body.FloatFree) :
    ∃ frame, (Envelope.mk channel body.toValue).text = .ok frame ∧
      Json.read frame =
        .ok (.object [("type", .string channel.name), ("data", body)]) := by
  obtain ⟨tidy, -⟩ := parsePayload_tidy accepted
  have faithful := wrap_faithful channel (tidy.faithful free)
  have text := envelope_text tidy channel
  rw [← compact_wrap] at text
  exact ⟨_, text, Json.read_compact faithful⟩

def spacedPayload : Value :=
  .text "\x7b \"\\ud83d\\ude00\" : [-7,\x7b\x7d] ,\n\"a\":1,\t\"\\u0061\":\"\\ud800\" \x7d"

def spacedBody : Json :=
  .object [("😀", .array [.int (-7), .object []]), ("a", .string [.half 0])]

def spacedLeaves? : Except Fault Json → Option (Text × Int × Text × Text)
  | .ok (.object [(pair, .array [.int n, .object []]), (letter, .string half)]) =>
      some (pair, n, letter, half)
  | _ => none

theorem parsePayload_spaced : parsePayload "events" spacedPayload = .ok spacedBody := by
  -- The kernel runs the reader; only the leaves of what it gives are compared.
  have run : spacedLeaves? (parsePayload "events" spacedPayload) =
      some (.ofString "😀", -7, .ofString "a", [.half 0]) := by
    decide +kernel
  unfold spacedLeaves? at run
  split at run
  · rename_i found
    cases run
    exact found
  · cases run

theorem spacedBody_free : spacedBody.FloatFree := by
  have numbers : Json.FloatFree (.array [.int (-7), .object []]) := by
    refine .array fun item hi => ?_
    simp only [List.mem_cons, List.not_mem_nil, or_false] at hi
    rcases hi with rfl | rfl
    · exact .int _
    · exact .object fun member hm => by cases hm
  refine .object fun member hm => ?_
  simp only [List.mem_cons, List.not_mem_nil, or_false] at hm
  rcases hm with rfl | rfl
  · exact numbers
  · exact .string _

theorem relayed_frame_faithful_spaced :
    parsePayload "events" spacedPayload = .ok spacedBody ∧ spacedBody.FloatFree ∧
      ∃ frame, (Envelope.mk .events spacedBody.toValue).text = .ok frame ∧
        Json.read frame =
          .ok (.object [("type", .string "events"), ("data", spacedBody)]) :=
  ⟨parsePayload_spaced, spacedBody_free,
    relayed_frame_faithful .events parsePayload_spaced spacedBody_free⟩

end LedgerFeed
