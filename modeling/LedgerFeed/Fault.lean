import LedgerFeed.Value.Form
import LedgerFeed.Value.Shown
import LedgerFeed.Json.Reader
import LedgerFeed.Ledger.Kind

namespace LedgerFeed

/-! ## The codec's refusals -/

inductive EncodingError
  | notAParameter (type : String)
  | unknownKind (shown : String)
  | unrendered (kind : ParameterKind)
  | recursive (kind : ParameterKind)
  | mismatch (kind : ParameterKind) (type : String)
  | hashDigits (kind : ParameterKind) (size : Nat) (shown : String)
  | hashLength (kind : ParameterKind) (size : Nat) (length : Nat)
  | mapEntry
  | emptyContract
  | emptyTransaction
  | notABlock (type : String)
  | blockForm (error : FormError)
  deriving DecidableEq, Repr

namespace EncodingError

def message : EncodingError → String
  | .notAParameter type => s!"Expected ContractParameter, got {type}"
  | .unknownKind shown => s!"Unknown parameter type: {shown}"
  | .unrendered kind => s!"{kind.name} parameters cannot be rendered"
  | .recursive kind => s!"Recursive {kind.name} parameter"
  | .mismatch kind type => s!"{kind.name} parameter cannot hold a {type}"
  | .hashDigits kind size shown => s!"{kind.name} must be {2 * size} hex digits, got {shown}"
  | .hashLength kind size length => s!"{kind.name} must be {size} bytes, got {length}"
  | .mapEntry => "Map entries must be (key, value) pairs"
  | .emptyContract => "notification contract must be a non-empty string"
  | .emptyTransaction => "notification txid must be a non-empty string"
  | .notABlock type => s!"Cannot encode block of type {type}"
  | .blockForm error => s!"Block fields are not JSON serializable: {error.message}"

def parameterKind? : EncodingError → Option ParameterKind
  | .unrendered kind => some kind
  | .recursive kind => some kind
  | .mismatch kind _ => some kind
  | .hashDigits kind _ _ => some kind
  | .hashLength kind _ _ => some kind
  | .mapEntry => some .map
  | _ => none

def cause? : EncodingError → Option String
  | .blockForm error => some error.kind
  | _ => none

end EncodingError

/-! ## Errors of collaborators -/

namespace Raised

def message (error : Raised) : Text :=
  match error.text with
  | none => ""
  | some text => if error.kind = "KeyError" ∧ !error.fromStore then quoted text else text

def isOrdinary (error : Raised) : Bool :=
  error.fromStore ||
    error.kind ∉
      ["KeyboardInterrupt", "SystemExit", "GeneratorExit", "CancelledError", "BaseException"]

def isTimeout (error : Raised) : Bool := !error.fromStore && error.kind = "TimeoutError"

end Raised

/-! ## Payloads and the bus -/

inductive PayloadError
  | notUtf8
  | unsupported (type : String)
  | notJson (error : ReadError)
  | notAnObject
  deriving DecidableEq, Repr

def PayloadError.message : PayloadError → String
  | .notUtf8 => "Payload is not valid UTF-8"
  | .unsupported type => s!"Unsupported payload type {type}"
  | .notJson error => s!"Invalid JSON: {error.message}"
  | .notAnObject => "Payload is not a JSON object"

def PayloadError.cause? : PayloadError → Option String
  | .notUtf8 => some "UnicodeDecodeError"
  | .notJson _ => some "JSONDecodeError"
  | _ => none

inductive BusError
  | closed (channel : Option Value)
  | publishFailed (channel : Value) (error : Raised)
  | subscriptionFailed (channels : String) (error : Raised)
  deriving Repr

namespace BusError

def message : BusError → Text
  | .closed _ => "In-memory bus is closed"
  | .publishFailed channel error => s!"Publish to {channel.shown} failed: " ++ error.message
  | .subscriptionFailed channels error => s!"Subscription to {channels} failed: " ++ error.message

def channel? : BusError → Option Value
  | .closed channel => channel
  | .publishFailed channel _ => some channel
  | .subscriptionFailed .. => none

def cause? : BusError → Option String
  | .closed _ => none
  | .publishFailed _ error => some error.kind
  | .subscriptionFailed _ error => some error.kind

end BusError

/-! ## All faults -/

inductive Fault
  | raised (error : Raised)
  | encoding (error : EncodingError)
  | payload (channel : String) (error : PayloadError)
  | bus (error : BusError)
  | form (error : FormError)
  | longInteger (count : Nat)
  | missing (field : String)
  | unknownChannel (shown : String)
  | notAChannel (shown : String)
  | notIterable (type : String)
  | notAnIterator (type : String)
  | noLength (type : String)
  | noAttribute (type name : String)
  | notAMapping (type : String)
  | unhashable (type : String)
  | unordered (left right : String)
  | flagOperand (type : String)
  | notCopyable (what : String)
  | entryNotSequence (index : Nat)
  | entryLength (index length : Nat)
  | tooFewParts (count : Nat)
  | tooManyParts
  | notANumber (shown : String)
  | notNumeric (type : String)
  | nanToInteger
  | infinityToInteger
  deriving Repr

/-- A fault whose text shows a value, unless that holds a whole number too long for text. -/
def Value.unlessLong (value : Value) (fault : Fault) : Fault :=
  if value.holdsLongInt then .form .tooManyDigits else fault

namespace Fault

def kind : Fault → String
  | .raised error => error.kind
  | .encoding _ => "EncodingError"
  | .payload .. => "MalformedPayloadError"
  | .bus _ => "BusUnavailableError"
  | .form error => error.kind
  | .longInteger _ => "ValueError"
  | .missing _ => "ValueError"
  | .unknownChannel _ => "ValueError"
  | .notAChannel _ => "ValueError"
  | .notIterable _ => "TypeError"
  | .notAnIterator _ => "TypeError"
  | .noLength _ => "TypeError"
  | .noAttribute .. => "AttributeError"
  | .notAMapping _ => "TypeError"
  | .unhashable _ => "TypeError"
  | .unordered .. => "TypeError"
  | .flagOperand _ => "TypeError"
  | .notCopyable _ => "TypeError"
  | .entryNotSequence _ => "TypeError"
  | .entryLength .. => "ValueError"
  | .tooFewParts _ => "ValueError"
  | .tooManyParts => "ValueError"
  | .notANumber _ => "ValueError"
  | .notNumeric _ => "TypeError"
  | .nanToInteger => "ValueError"
  | .infinityToInteger => "OverflowError"

def message : Fault → Text
  | .raised error => error.message
  | .encoding error => error.message
  | .payload _ error => error.message
  | .bus error => error.message
  | .form error => error.message
  | .longInteger count => (ReadError.tooManyDigits count).message
  | .missing field => s!"{field} is required and must be a non-empty string"
  | .unknownChannel shown => s!"Unknown channel: {shown}"
  | .notAChannel shown => s!"{shown} is not a valid Channel"
  | .notIterable type => s!"'{type}' object is not iterable"
  | .notAnIterator type => s!"cannot unpack non-iterable {type} object"
  | .noLength type => s!"object of type '{type}' has no len()"
  | .noAttribute type name => s!"'{type}' object has no attribute '{name}'"
  | .notAMapping type => s!"'{type}' object is not a mapping"
  | .unhashable type => s!"unhashable type: '{type}'"
  | .unordered left right =>
      s!"'<' not supported between instances of '{left}' and '{right}'"
  | .flagOperand type => s!"unsupported operand type(s) for &: '{type}' and 'VMState'"
  | .notCopyable what => s!"cannot pickle {what}"
  | .entryNotSequence index =>
      s!"cannot convert dictionary update sequence element #{index} to a sequence"
  | .entryLength index length =>
      s!"dictionary update sequence element #{index} has length {length}; 2 is required"
  | .tooFewParts count => s!"not enough values to unpack (expected 2, got {count})"
  | .tooManyParts => "too many values to unpack (expected 2)"
  | .notANumber shown => s!"invalid literal for int() with base 10: {shown}"
  | .notNumeric type =>
      s!"int() argument must be a string, a bytes-like object or a real number, not '{type}'"
  | .nanToInteger => "cannot convert float NaN to integer"
  | .infinityToInteger => "cannot convert float infinity to integer"

def isOrdinary : Fault → Bool
  | .raised error => error.isOrdinary
  | _ => true

def isBusUnavailable : Fault → Bool
  | .raised error => !error.fromStore && error.kind = "BusUnavailableError"
  | .bus _ => true
  | _ => false

def isWrongValue : Fault → Bool
  | .raised error =>
      !error.fromStore &&
        ["ValueError", "UnicodeDecodeError", "JSONDecodeError"].contains error.kind
  | fault => fault.kind = "ValueError"

def isTimeout : Fault → Bool
  | .raised error => error.isTimeout
  | _ => false

end Fault

end LedgerFeed
