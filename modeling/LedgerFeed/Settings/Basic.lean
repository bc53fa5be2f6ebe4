import LedgerFeed.Characters.Sigma
import LedgerFeed.Settings.Reading
import LedgerFeed.Logging.Entry

namespace LedgerFeed

inductive Backend
  | redis
  | memory
  deriving DecidableEq, Repr

def Backend.name : Backend → String
  | .redis => "redis"
  | .memory => "memory"

structure Settings where
  backend : Backend
  redisHost : String
  redisPort : Int
  redisDb : Int
  redisPassword : Option String
  publishTimeout : Binary64
  reconnectDelay : Binary64
  maxReconnectDelay : Binary64
  websocketHost : String
  websocketPort : Int
  sendTimeout : Binary64
  logLevel : Level
  logJson : Bool

structure Sources where
  given : List (String × Value)
  environment : List (String × Text)

def Sources.none : Sources := ⟨[], []⟩

def Sources.find? (sources : Sources) (field : String) : Option Value :=
  match sources.given.lookup field with
  | some value => some value
  | .none =>
      (sources.environment.reverse.find? fun (name, _) => lowerText name = field).map
        fun (_, text) => .text text

def choiceMessage (what given : String) (choices : List String) : String :=
  let listed := String.intercalate ", " (choices.map fun (choice : String) => quoted choice)
  s!"Invalid {what}: {given}. Must be one of ({listed})"

def readBackend (value : Value) : Except Issue Backend := do
  let word := lowerText (← readText value)
  match [Backend.redis, Backend.memory].find? fun backend => backend.name = word with
  | some backend => .ok backend
  | none => .error (.refused (choiceMessage "bus backend" word ["redis", "memory"]))

def readHost (value : Value) : Except Issue String := do
  let host := trimWith isBlank (← readText value).toList
  if host.isEmpty then .error (.refused "redis_host must not be empty")
  else .ok (String.ofList host)

def readLevel (value : Value) : Except Issue Level := do
  let word := upperText (← readText value)
  match Level.all.find? fun level => level.name = word with
  | some level => .ok level
  | none => .error (.refused (choiceMessage "log level" word (Level.all.map Level.name)))

def readPort (value : Value) : Except Issue Int := do
  atMost 65535 (← atLeast 1 (← readInteger value))

def readPassword (value : Value) : Except Issue (Option String) :=
  match value.slot with
  | .null => .ok none
  | _ => (readText value).map some

def readSeconds (low high : String) (value : Value) : Except Issue Binary64 := do
  between (bound low) (bound high) (← readNumber value)

abbrev Issues := List (String × Issue)

/-- A field's value, or its default where it cannot be read and an issue says so. -/
def readField (sources : Sources) (name : String) (read : Value → Except Issue α) (default : α) :
    StateM Issues α := fun issues =>
  match sources.find? name with
  | none => (default, issues)
  | some value =>
      match read value with
      | .ok found => (found, issues)
      | .error issue => (default, issues ++ [(name, issue)])

def seconds (text : String) : Binary64 := (bound text).value

def readFields (sources : Sources) : StateM Issues Settings := do
  let backend ← readField sources "bus_backend" readBackend .redis
  let redisHost ← readField sources "redis_host" readHost "localhost"
  let redisPort ← readField sources "redis_port" readPort 6379
  let redisDb ← readField sources "redis_db" (fun value => readInteger value >>= atLeast 0) 0
  let redisPassword ← readField sources "redis_password" readPassword none
  let publishTimeout ← readField sources "publish_timeout_seconds" (readSeconds "0.05" "60")
    (seconds "2")
  let reconnectDelay ← readField sources "relay_reconnect_delay" (readSeconds "0.01" "300")
    (seconds "2")
  let maxReconnectDelay ← readField sources "relay_max_reconnect_delay" (readSeconds "0.01" "3600")
    (seconds "60")
  let websocketHost ← readField sources "websocket_host" readText "0.0.0.0"
  let websocketPort ← readField sources "websocket_port" readPort 8000
  let sendTimeout ← readField sources "websocket_send_timeout" (readSeconds "0.1" "300")
    (seconds "30")
  let logLevel ← readField sources "log_level" readLevel .info
  let logJson ← readField sources "log_json" readTruth true
  pure
    { backend, redisHost, redisPort, redisDb, redisPassword, publishTimeout, reconnectDelay,
      maxReconnectDelay, websocketHost, websocketPort, sendTimeout, logLevel, logJson }

namespace Settings

def read (sources : Sources) : Except Issues Settings :=
  match readFields sources [] with
  | (settings, []) => .ok settings
  | (_, issues) => .error issues

def fields (settings : Settings) : List (String × Value) :=
  [("bus_backend", .text settings.backend.name), ("redis_host", .text settings.redisHost),
   ("redis_port", .ofInt settings.redisPort), ("redis_db", .ofInt settings.redisDb),
   ("redis_password", .ofText? settings.redisPassword),
   ("publish_timeout_seconds", .ofFloat settings.publishTimeout),
   ("relay_reconnect_delay", .ofFloat settings.reconnectDelay),
   ("relay_max_reconnect_delay", .ofFloat settings.maxReconnectDelay),
   ("websocket_host", .text settings.websocketHost),
   ("websocket_port", .ofInt settings.websocketPort),
   ("websocket_send_timeout", .ofFloat settings.sendTimeout),
   ("log_level", .text settings.logLevel.name), ("log_json", .ofBool settings.logJson)]

def names : List String := (readFields Sources.none []).1.fields.map (·.1)

def redisUrl (settings : Settings) : Except Fault String :=
  let authority := match settings.redisPassword with
    | some password => if password.isEmpty then "" else s!":{password}@"
    | none => ""
  if exceedsDigitLimit settings.redisPort || exceedsDigitLimit settings.redisDb then
    .error (.form .tooManyDigits)
  else
    let port := intText settings.redisPort
    let db := intText settings.redisDb
    .ok s!"redis://{authority}{settings.redisHost}:{port}/{db}"

def busEntry (component : Option String) (settings : Settings) : LogEntry :=
  ⟨.info, component, "bus_config",
    [("backend", .text settings.backend.name), ("host", .text settings.redisHost),
     ("port", .ofInt settings.redisPort), ("db", .ofInt settings.redisDb),
     ("publish_timeout_seconds", .ofFloat settings.publishTimeout)]⟩

end Settings

end LedgerFeed
