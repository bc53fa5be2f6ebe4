import Mathlib.Data.List.Forall2
import LedgerFeed.Bus.Redis
import LedgerFeed.Proofs.Value.Search

/-!
# A subscription on a server

A subscription reads frames until there are no more, one of them cannot be had or read, or its
reader leaves it. What it has yielded by then are the messages among the frames it has read
(`readFrames_stops`). However it ends, it is closed once, and neither the end nor an error is lost in
closing it (`listen_yields`).
-/

namespace LedgerFeed.Redis

def Legible (frame : Value) : Prop :=
  frame.slot = .null ∨ (frame.slot.entries? frame.heap).isSome

def isMessage (frame : Value) : Bool :=
  (frame.entry? "type").bind Value.text? = some (.ofString "message")

inductive OnChannel (frame : Value) : Value → Prop
  | octets {channel : Value} {octets : List UInt8} (given : frame.entry? "channel" = some channel)
      (bytes : channel.slot = .buffer .bytes octets) :
      OnChannel frame (.text (.ofChars (Utf8.decodeReplacing octets)))
  | given {channel : Value} (given : frame.entry? "channel" = some channel)
      (other : ∀ octets, channel.slot ≠ .buffer .bytes octets) : OnChannel frame channel
  | missing (absent : frame.entry? "channel" = none) : OnChannel frame .null

structure Carries (frame : Value) (pair : Value × Value) : Prop where
  channel : OnChannel frame pair.1
  data : pair.2 = (frame.entry? "data").getD .null

/-- The reader does not have all it wants. It leaves only when it is given a pair, so it has at least
one by then. -/
def Unsatisfied (wanted : Option Nat) (count : Nat) : Prop :=
  ∀ enough, wanted = some enough → count < max enough 1

inductive Stops (wanted : Option Nat) (count : Nat) : List (Except Raised Value) → Ending → Prop
  | exhausted (wants : Unsatisfied wanted count) : Stops wanted count [] .exhausted
  | failed {error : Raised} {rest : List (Except Raised Value)} (wants : Unsatisfied wanted count) :
      Stops wanted count (.error error :: rest) (.failed (.raised error))
  | illegible {frame : Value} {rest : List (Except Raised Value)} (wants : Unsatisfied wanted count)
      (illegible : ¬ Legible frame) :
      Stops wanted count (.ok frame :: rest) (.failed (.noAttribute frame.typeName "get"))
  | abandoned {enough : Nat} {rest : List (Except Raised Value)} (limit : wanted = some enough)
      (reached : count = max enough 1) : Stops wanted count rest .abandoned

/-- What an error comes to for the reader: one of the client library says that the bus is unavailable,
and why; any other is passed on. -/
structure Surfaces (error : Raised) (result : Except Fault Unit) : Prop where
  store : error.fromStore = true →
    ∃ shown, result = .error (.bus (.subscriptionFailed shown error))
  other : error.fromStore = false → result = .error (.raised error)

def Ending.Shows (result : Except Fault Unit) : Ending → Prop
  | .exhausted | .abandoned => result = .ok ()
  | .failed (.raised error) => Surfaces error result
  | .failed fault => result = .error fault

theorem onChannel_frameChannel (frame : Value) : OnChannel frame (frameChannel frame) := by
  unfold frameChannel
  split
  · exact .missing ‹_›
  · rename_i channel given
    split
    · exact .octets given ‹_›
    · rename_i other
      exact .given given other

inductive Read (frame : Value) : Except Fault (Option (Value × Value)) → Prop
  | message {pair : Value × Value} (legible : Legible frame) (kind : isMessage frame = true)
      (carries : Carries frame pair) : Read frame (.ok (some pair))
  | other (legible : Legible frame) (kind : isMessage frame = false) : Read frame (.ok none)
  | illegible (illegible : ¬ Legible frame) :
      Read frame (.error (.noAttribute frame.typeName "get"))

theorem read_framePair (frame : Value) : Read frame (framePair? frame) := by
  unfold framePair?
  split
  · rename_i nothing
    have untyped : isMessage frame = false := by
      simp [isMessage, Value.entry?, nothing, Slot.entries?, Slot.cell?]
    exact .other (.inl nothing) untyped
  · rename_i something
    split
    · rename_i none
      exact .illegible fun legible => legible.elim something (by simp [none])
    · rename_i entries found
      have legible : Legible frame := .inr (by simp [found])
      split
      · rename_i kind
        exact .message legible (by simpa [isMessage] using kind)
          ⟨onChannel_frameChannel frame, rfl⟩
      · rename_i kind
        exact .other legible (by simpa [isMessage] using kind)

theorem unsatisfied_zero (wanted : Option Nat) : Unsatisfied wanted 0 := fun _ _ => by omega

theorem Unsatisfied.next {wanted : Option Nat} {count : Nat}
    (more : ¬ (wanted = some 0 ∨ wanted = some 1))
    (wants : Unsatisfied (wanted.map (· - 1)) count) : Unsatisfied wanted (count + 1) := by
  intro enough limit
  subst limit
  have lower := wants (enough - 1) rfl
  have large : enough ≠ 0 ∧ enough ≠ 1 := by simpa using more
  omega

theorem Stops.next {wanted : Option Nat} {count : Nat} {rest : List (Except Raised Value)}
    {ending : Ending} (more : ¬ (wanted = some 0 ∨ wanted = some 1))
    (stops : Stops (wanted.map (· - 1)) count rest ending) : Stops wanted (count + 1) rest ending := by
  cases stops with
  | exhausted wants => exact .exhausted (wants.next more)
  | failed wants => exact .failed (wants.next more)
  | illegible wants illegible => exact .illegible (wants.next more) illegible
  | abandoned limit reached =>
      obtain ⟨enough, rfl, rfl⟩ := Option.map_eq_some_iff.mp limit
      have large : enough ≠ 0 ∧ enough ≠ 1 := by simpa using more
      exact .abandoned rfl (by omega)

/-- What a subscription yields are the messages among the frames that it has read. -/
theorem readFrames_stops (frames : List (Except Raised Value)) (wanted : Option Nat) :
    ∃ (read : List Value) (rest : List (Except Raised Value)), frames = read.map .ok ++ rest ∧
      (∀ frame ∈ read, Legible frame) ∧
      List.Forall₂ Carries (read.filter isMessage) (readFrames frames wanted).1 ∧
      Stops wanted (readFrames frames wanted).1.length rest (readFrames frames wanted).2 := by
  -- On the frames, whatever number of pairs is still wanted.
  induction frames generalizing wanted with
  | nil => exact ⟨[], [], rfl, nofun, .nil, .exhausted (unsatisfied_zero wanted)⟩
  | cons first frames ih =>
      cases first with
      | error error =>
          exact ⟨[], _, rfl, nofun, .nil, .failed (unsatisfied_zero wanted)⟩
      | ok frame =>
          have what := read_framePair frame
          unfold readFrames
          generalize framePair? frame = read at what ⊢
          cases what with
          | illegible illegible =>
              exact ⟨[], _, rfl, nofun, .nil, .illegible (unsatisfied_zero wanted) illegible⟩
          | other legible kind =>
              obtain ⟨read, rest, rfl, each, carried, stops⟩ := ih wanted
              refine ⟨frame :: read, rest, rfl, List.forall_mem_cons.mpr ⟨legible, each⟩, ?_, stops⟩
              rwa [List.filter_cons_of_neg (by simp [kind])]
          | @message pair legible kind carries =>
              dsimp only
              split
              · rename_i enough
                refine ⟨[frame], frames, rfl, by simpa using legible, ?_, ?_⟩
                · rw [List.filter_cons_of_pos kind]
                  exact .cons carries .nil
                · rcases enough with rfl | rfl <;> exact .abandoned rfl rfl
              · rename_i more
                obtain ⟨read, rest, rfl, each, carried, stops⟩ := ih (wanted.map (· - 1))
                refine ⟨frame :: read, rest, rfl, List.forall_mem_cons.mpr ⟨legible, each⟩, ?_,
                  stops.next more⟩
                rw [List.filter_cons_of_pos kind]
                exact .cons carries carried

/-! ## Whole subscriptions -/

theorem holdsLongInt_text {value : Value} (text : value.text?.isSome) :
    value.holdsLongInt = false := by
  obtain ⟨heap, slot⟩ := value
  have plain (identity : Identity) : slot ≠ .object identity := by
    rintro rfl
    cases text
  refine Bool.eq_false_iff.mpr fun holds => ?_
  obtain ⟨n, rfl | rfl, -⟩ := (oversized_stuck (PartOf.leaf plain)).mp (holdsLongInt_iff.mp holds)
  all_goals cases text

theorem subscriptionFault_surfaces (short : names.any Value.holdsLongInt = false) (error : Raised) :
    Surfaces error (.error (subscriptionFault names (.raised error))) where
  store fromStore := by simp [subscriptionFault, fromStore, short]
  other foreign := by simp [subscriptionFault, foreign]

theorem finish_calls (result : Except Fault Unit) (calls : List Call) (logs : Logs)
    (closing : Option Raised) :
    (finish result calls logs closing).calls = calls ++ [.closeSubscription] := by
  unfold finish
  dsimp only
  split
  · rfl
  · split <;> rfl

theorem finish_result (store : ∀ error, closing = some error → error.fromStore = true)
    (result : Except Fault Unit) (calls : List Call) (logs : Logs) :
    (finish result calls logs closing).result = result := by
  unfold finish
  dsimp only
  split
  · rfl
  · rw [if_pos (store _ rfl)]

/-- A subscription to channels that can be shown, closed without an error but of the client library:
it opens, and closes once, whatever happens. An error in subscribing surfaces, with nothing yielded.
Otherwise some first frames are read, and the pairs yielded are those of the messages among them, in
order. Reading ends after the last frame, at an error, which surfaces, at a frame that is no mapping,
or when the reader has what it wants. -/
theorem listen_yields {channels : Value} (items : channels.items = .ok names)
    (short : names.any Value.holdsLongInt = false) (subscribing : Option Raised)
    (frames : List (Except Raised Value)) (wanted : Option Nat)
    (store : ∀ error, closing = some error → error.fromStore = true) :
    let listening := listen channels subscribing frames wanted closing
    listening.outcome.calls = [.openSubscription, .subscribe names, .closeSubscription] ∧
      (∀ error, subscribing = some error →
        listening.yielded = [] ∧ Surfaces error listening.outcome.result) ∧
      (subscribing = none → ∃ (read : List Value) (rest : List (Except Raised Value)) (ending : Ending),
        frames = read.map .ok ++ rest ∧ (∀ frame ∈ read, Legible frame) ∧
          List.Forall₂ Carries (read.filter isMessage) listening.yielded ∧
          Stops wanted listening.yielded.length rest ending ∧
          ending.Shows listening.outcome.result) := by
  unfold listen
  rw [items]
  cases subscribing with
  | some error =>
      refine ⟨finish_calls .., fun _ same => ⟨rfl, ?_⟩, nofun⟩
      cases same
      dsimp only
      rw [finish_result store]
      exact subscriptionFault_surfaces short error
  | none =>
      refine ⟨finish_calls .., nofun, fun _ => ?_⟩
      obtain ⟨read, rest, split, legible, carried, stops⟩ := readFrames_stops frames wanted
      refine ⟨read, rest, _, split, legible, carried, stops, ?_⟩
      dsimp only
      rw [finish_result store]
      generalize (readFrames frames wanted).2 = ending at stops ⊢
      cases stops with
      | exhausted | illegible | abandoned => rfl
      | failed wants => exact subscriptionFault_surfaces short _

def frame (entries : List (String × Slot)) : Value :=
  ⟨#[.dict (entries.map fun (name, slot) => (.text name, slot))], .object 0⟩

def connectionLost : Raised := ⟨"ConnectionError", true, some "gone"⟩

def lostConnection : List (Except Raised Value) :=
  [.ok (frame [("type", .text "subscribe"), ("channel", .text "blocks")]), .ok .null,
    .ok (frame [("type", .text "message"), ("channel", .buffer .bytes [98, 255]),
      ("data", .buffer .bytes [123, 125])]),
    .ok (frame [("type", .text "message"), ("channel", .text "events"), ("data", .null)]),
    .error connectionLost]

theorem listen_yields_lost :
    ∃ names, (Value.texts ["blocks"]).items = .ok names ∧
      names.any Value.holdsLongInt = false ∧ connectionLost.fromStore = true ∧
      let listening := listen (.texts ["blocks"]) none lostConnection none (some connectionLost)
      listening.outcome.calls = [.openSubscription, .subscribe names, .closeSubscription] ∧
        (∃ (read : List Value) (rest : List (Except Raised Value)) (ending : Ending),
          lostConnection = read.map .ok ++ rest ∧
            List.Forall₂ Carries (read.filter isMessage) listening.yielded ∧
            Stops none listening.yielded.length rest ending ∧ ending.Shows listening.outcome.result) ∧
        (listening.yielded.map fun pair => (pair.1.text?, pair.2.slot)) =
          [(some (.ofString "b\ufffd"), .buffer .bytes [123, 125]),
            (some (.ofString "events"), .null)] ∧
        ∃ shown, listening.outcome.result =
          .error (.bus (.subscriptionFailed shown connectionLost)) := by
  have short : [(Value.texts ["blocks"]).withSlot (.text "blocks")].any Value.holdsLongInt = false := by
    rw [List.any_cons, holdsLongInt_text rfl]
    rfl
  have items : (Value.texts ["blocks"]).items =
      .ok [(Value.texts ["blocks"]).withSlot (.text "blocks")] := rfl
  have store : ∀ error, some connectionLost = some error → error.fromStore = true := by
    rintro error ⟨⟩
    rfl
  obtain ⟨calls, -, reading⟩ := listen_yields items short none lostConnection none store
  obtain ⟨read, rest, ending, split, -, carried, stops, shows⟩ := reading rfl
  refine ⟨_, rfl, short, rfl, calls, ⟨read, rest, ending, split, carried, stops, shows⟩, ?_, ?_⟩
  · decide +kernel
  · have surfaces := subscriptionFault_surfaces short connectionLost
    exact surfaces.store rfl

end LedgerFeed.Redis
