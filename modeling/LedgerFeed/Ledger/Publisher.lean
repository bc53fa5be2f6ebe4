import LedgerFeed.Wire.Message
import LedgerFeed.Ledger.Record
import LedgerFeed.Logging.Entry

namespace LedgerFeed

structure BusOperations (β : Type) where
  publish : β → Channel → Text → β × Except Fault Unit
  close : β → β × Except Fault Unit

structure CommitStats where
  commits : Nat
  published : Nat
  publishFailures : Nat
  encodingFailures : Nat
  faultedRecords : Nat
  deriving DecidableEq, Repr

def CommitStats.zero : CommitStats := ⟨0, 0, 0, 0, 0⟩

structure Publishing (β : Type) where
  stats : CommitStats
  bus : β
  logs : Logs

/-- Steps of a commit. A fault keeps what was done before it. -/
abbrev PublishM (β : Type) := ExceptT Fault (StateM (Publishing β))

namespace Publisher

def component : String := "commit_publisher"

variable {β : Type}

def count (change : CommitStats → CommitStats) : PublishM β Unit :=
  modify fun state => { state with stats := change state.stats }

def log (level : Level) (event : String) (fields : List (String × Value)) : PublishM β Unit :=
  modify fun state => { state with logs := state.logs ++ [entry component level event fields] }

def errorFields (fault : Fault) : List (String × Value) :=
  [("error", .text fault.message), ("error_type", .text fault.kind)]

def publish (operations : BusOperations β) (channel : Channel) (payload : Text) :
    PublishM β Bool := do
  let state ← get
  let (bus, outcome) := operations.publish state.bus channel payload
  set { state with bus := bus }
  match outcome with
  | .ok _ =>
      count fun stats => { stats with published := stats.published + 1 }
      pure true
  | .error fault =>
      if fault.isOrdinary then
        count fun stats => { stats with publishFailures := stats.publishFailures + 1 }
        log .error "bus_publish_failed" ([("channel", .text channel.name)] ++ errorFields fault ++
          [("bus_unavailable", .ofBool fault.isBusUnavailable)])
        pure false
      else
        throw fault

def publishBlock (operations : BusOperations β) (block : Value) : PublishM β Value := do
  match encodeBlock block with
  | .error fault =>
      if fault.isOrdinary then
        count fun stats => { stats with encodingFailures := stats.encodingFailures + 1 }
        log .warning "block_encoding_failed" (errorFields fault)
        pure .null
      else
        throw fault
  | .ok message =>
      match message.text with
      | .error error => throw (.form error)
      | .ok payload =>
          let _ ← publish operations .blocks payload
          pure ((message.field? "hash").getD .null)

def notificationParts (notification : Value) : Except Fault (Value × Value) :=
  match notification.slot.cell? notification.heap with
  | some (.notification contract state) =>
      .ok (notification.withSlot contract, notification.withSlot state)
  | _ => .error (.noAttribute notification.typeName "contract")

def encodeEvent (txid notification : Value) :
    Except Fault (Except (Value × EncodingError) Text) := do
  let (contract, state) ← notificationParts notification
  match encodeNotification contract txid state with
  | .ok message =>
      match message.text with
      | .ok payload => pure (.ok payload)
      | .error error => throw (.form error)
  | .error (.encoding error) => pure (.error (contract, error))
  | .error fault => throw fault

def publishEvent (operations : BusOperations β) (txid notification : Value) : PublishM β Bool := do
  match ← encodeEvent txid notification with
  | .ok payload => publish operations .events payload
  | .error (contract, error) =>
      count fun stats => { stats with encodingFailures := stats.encodingFailures + 1 }
      log .warning "notification_encoding_failed"
        [("txid", txid), ("contract", contract),
         ("parameter_type", .ofText? (error.parameterKind?.map ParameterKind.name)),
         ("error", .text error.message)]
      pure false

def publishEvents (operations : BusOperations β) (txid : Value) :
    List Value → Nat → PublishM β Nat
  | [], events => pure events
  | notification :: rest, events => do
      let sent ← publishEvent operations txid notification
      publishEvents operations txid rest (if sent then events + 1 else events)

def publishRecord (operations : BusOperations β) (value : Value) (events : Nat) :
    PublishM β Nat := do
  let record ← value.record "faulted"
  let faulted ← record.faulted
  if faulted then
    count fun stats => { stats with faultedRecords := stats.faultedRecords + 1 }
    let notifications ← record.notifications.length
    log .debug "faulted_record_skipped"
      [("txid", record.txid), ("notifications", .ofNat notifications)]
    pure events
  else
    let notifications ← record.notifications.items
    publishEvents operations record.txid notifications events

def publishRecords (operations : BusOperations β) : List Value → Nat → PublishM β Nat
  | [], events => pure events
  | record :: rest, events => do
      let events ← publishRecord operations record events
      publishRecords operations rest events

def publishCommit (operations : BusOperations β) (block records : Value) : PublishM β Unit := do
  let hash ← publishBlock operations block
  let items ← records.items
  let events ← publishRecords operations items 0
  let total ← records.length
  log .debug "commit_published"
    [("block_hash", hash), ("records", .ofNat total), ("events", .ofNat events)]

/-- Publishes one commit. Ordinary faults end it early and are logged. -/
def onCommit (operations : BusOperations β) (block records : Value) (state : Publishing β) :
    Except Fault Unit × Publishing β :=
  let counted := { state with stats := { state.stats with commits := state.stats.commits + 1 } }
  match (publishCommit operations block records).run counted with
  | (.ok _, final) => (.ok (), final)
  | (.error fault, final) =>
      if fault.isOrdinary then
        (log .error "commit_publish_failed" (errorFields fault)).run final
      else
        (.error fault, final)

def close (operations : BusOperations β) (state : Publishing β) :
    Except Fault Unit × Publishing β :=
  let (bus, outcome) := operations.close state.bus
  (outcome, { state with bus := bus })

end Publisher

end LedgerFeed
