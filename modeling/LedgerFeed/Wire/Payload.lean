import LedgerFeed.Value.Access
import LedgerFeed.Characters.Utf8

namespace LedgerFeed

def payloadText (raw : Value) : Except PayloadError Text :=
  match raw.text?, raw.slot with
  | some text, _ => .ok text
  | none, .buffer .memoryview _ => .error (.unsupported raw.typeName)
  | none, .buffer _ octets =>
      match Utf8.decode? octets with
      | some text => .ok (.ofChars text)
      | none => .error .notUtf8
  | none, _ => .error (.unsupported raw.typeName)

def readBody (channel : String) (text : Text) : Except Fault Json :=
  match Json.read text with
  | .ok body => if body.isObject then .ok body else .error (.payload channel .notAnObject)
  | .error (.tooManyDigits count) => .error (.longInteger count)
  | .error error => .error (.payload channel (.notJson error))

def parsePayload (channel : String) (raw : Value) : Except Fault Json :=
  match payloadText raw with
  | .ok text => readBody channel text
  | .error error => .error (.payload channel error)

end LedgerFeed
