import LedgerFeed.Value.Count
import LedgerFeed.Characters.Utf8
import LedgerFeed.Settings.Basic

namespace LedgerFeed.Redis

inductive Call
  | publish (channel payload : Value)
  | ping
  | close
  | openSubscription
  | subscribe (channels : List Value)
  | closeSubscription
  | closeClient

structure Outcome (α : Type) where
  result : Except Fault α
  calls : List Call
  logs : Logs

def publisher : String := "redis_publisher"

def publishFault (channel : Value) (error : Raised) : Fault :=
  if error.fromStore then channel.unlessLong (.bus (.publishFailed channel error))
  else .raised error

def publish (channel payload : Value) (reply : Except Raised Value) : Outcome Int :=
  { result := match reply with
      | .ok receivers => receivers.count
      | .error error => .error (publishFault channel error)
    calls := [.publish channel payload]
    logs := [] }

def ping (reply : Except Raised Value) : Outcome Bool :=
  { result := match reply with
      | .ok answer => .ok answer.isTrue
      | .error error => if error.fromStore then .ok false else .error (.raised error)
    calls := [.ping]
    logs := [] }

def close (reply : Except Raised Value) : Outcome Unit :=
  match reply with
  | .ok _ => ⟨.ok (), [.close], [entry publisher .info "redis_publisher_closed" []]⟩
  | .error error => ⟨.error (.raised error), [.close], []⟩

def subscriber : String := "redis_subscriber"

inductive Ending
  | exhausted
  | abandoned
  | failed (fault : Fault)

def frameChannel (frame : Value) : Value :=
  match frame.entry? "channel" with
  | none => .null
  | some channel =>
      match channel.slot with
      | .buffer .bytes octets => .text (.ofChars (Utf8.decodeReplacing octets))
      | _ => channel

def framePair? (frame : Value) : Except Fault (Option (Value × Value)) :=
  match frame.slot with
  | .null => .ok none
  | slot =>
      match slot.entries? frame.heap with
      | none => .error (.noAttribute frame.typeName "get")
      | some _ =>
          if (frame.entry? "type").bind Value.text? = some (.ofString "message") then
            .ok (some (frameChannel frame, (frame.entry? "data").getD .null))
          else
            .ok none

/-- Reads frames until they end, one fails, or the reader has what it wants, which it notices only
after a pair. -/
def readFrames : List (Except Raised Value) → Option Nat → List (Value × Value) × Ending
  | [], _ => ([], .exhausted)
  | .error error :: _, _ => ([], .failed (.raised error))
  | .ok frame :: rest, wanted =>
      match framePair? frame with
      | .error fault => ([], .failed fault)
      | .ok none => readFrames rest wanted
      | .ok (some pair) =>
          if wanted = some 0 ∨ wanted = some 1 then
            ([pair], .abandoned)
          else
            let (pairs, ending) := readFrames rest (wanted.map (· - 1))
            (pair :: pairs, ending)

def subscriptionFault (channels : List Value) : Fault → Fault
  | .raised error =>
      if error.fromStore then
        if channels.any Value.holdsLongInt then .form .tooManyDigits
        else
          .bus (.subscriptionFailed ("[" ++ commaSeparated (channels.map Value.shown) ++ "]") error)
      else
        .raised error
  | fault => fault

structure Listening where
  yielded : List (Value × Value)
  outcome : Outcome Unit

/-- The end of a subscription: it is closed, and an error in closing may take over. -/
def finish (result : Except Fault Unit) (calls : List Call) (logs : Logs)
    (closing : Option Raised) : Outcome Unit :=
  let calls := calls ++ [.closeSubscription]
  match closing with
  | none => ⟨result, calls, logs⟩
  | some error =>
      if error.fromStore then
        ⟨result, calls, logs ++
          [entry subscriber .debug "redis_pubsub_close_failed" [("error", .text error.message)]]⟩
      else
        ⟨.error (.raised error), calls, logs⟩

def listen (channels : Value) (subscribing : Option Raised) (frames : List (Except Raised Value))
    (wanted : Option Nat) (closing : Option Raised) : Listening :=
  match channels.items with
  | .error fault => ⟨[], ⟨.error fault, [], []⟩⟩
  | .ok names =>
      let calls := [Call.openSubscription, .subscribe names]
      match subscribing with
      | some error =>
          ⟨[], finish (.error (subscriptionFault names (.raised error))) calls [] closing⟩
      | none =>
          let logs := [entry subscriber .info "redis_subscribed"
            [("channels", match names with
              | [] => .texts []
              | name :: _ => ⟨(name.heap.alloc (.list (names.map (·.slot)))).1,
                  .object name.heap.size⟩)]]
          let (pairs, ending) := readFrames frames wanted
          let result := match ending with
            | .failed fault => .error (subscriptionFault names fault)
            | _ => .ok ()
          ⟨pairs, finish result calls logs closing⟩

def closeClient (failure : Option Raised) : Outcome Unit :=
  match failure with
  | none => ⟨.ok (), [.closeClient], [entry subscriber .info "redis_subscriber_closed" []]⟩
  | some error => ⟨.error (.raised error), [.closeClient], []⟩

def publisherOptions (settings : Settings) : List (String × Value) :=
  [("host", .text settings.redisHost), ("port", .ofInt settings.redisPort),
   ("db", .ofInt settings.redisDb), ("password", .ofText? settings.redisPassword),
   ("socket_timeout", .ofFloat settings.publishTimeout),
   ("socket_connect_timeout", .ofFloat settings.publishTimeout),
   ("retry_on_timeout", .ofBool false)]

def publisherCreated (settings : Settings) : LogEntry :=
  entry publisher .info "redis_publisher_created"
    [("host", .text settings.redisHost), ("port", .ofInt settings.redisPort)]

def subscriberOptions (settings : Settings) : Except Fault (List (String × Value)) :=
  settings.redisUrl.map fun url =>
    [("url", .text url), ("socket_connect_timeout", .ofFloat settings.publishTimeout),
     ("health_check_interval", .ofInt 30)]

end LedgerFeed.Redis
