import LedgerFeed.Value.Access

namespace LedgerFeed

def namedChannel (text : Text) : Except Fault Channel :=
  match Channel.parse? text with
  | some channel => .ok channel
  | none => .error (.unknownChannel (String.ofList (quoteText text)))

namespace Value

def parseChannel (name : Value) : Except Fault Channel :=
  match name.text?, name.slot with
  | some text, _ => namedChannel text
  | none, .buffer .memoryview _ => .error (.noAttribute name.typeName "strip")
  | none, .buffer _ _ => .error (.unknownChannel name.shown)
  | none, _ => .error (.noAttribute name.typeName "strip")

def exactChannel (value : Value) : Except Fault Channel :=
  match value.text?.bind Channel.ofName? with
  | some channel => .ok channel
  | none => .error (value.unlessLong (.notAChannel value.shown))

def toChannel (value : Value) : Except Fault Channel :=
  match value.text? with
  | some text => namedChannel text
  | none => value.exactChannel

end Value

def selected (channels : List Channel) : List Channel :=
  if channels.isEmpty then Channel.all else Channel.sorted channels

def filterParts (text : Text) : List Text :=
  (splitAt (.char ',') text).filter fun part => !(trim part).isEmpty

def parseFilter (text : Text) : Except Fault (List Channel) :=
  ((filterParts text).mapM namedChannel).map selected

def Value.channelFilter (filter : Value) : Except Fault (List Channel) :=
  match filter.text?, filter.slot with
  | some text, _ => parseFilter text
  | none, .null => .ok Channel.all
  | none, _ => do
      let items ← filter.items
      let channels ← items.mapM Value.toChannel
      pure (selected channels)

end LedgerFeed
