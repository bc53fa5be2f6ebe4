import LedgerFeed.Characters.Text

namespace LedgerFeed

inductive ParameterKind
  | signature
  | boolean
  | integer
  | hash160
  | hash256
  | byteArray
  | publicKey
  | string
  | array
  | map
  | interopInterface
  | void
  deriving DecidableEq, Repr

namespace ParameterKind

def all : List ParameterKind :=
  [.signature, .boolean, .integer, .hash160, .hash256, .byteArray, .publicKey, .string, .array,
   .map, .interopInterface, .void]

def name : ParameterKind → String
  | .signature => "Signature"
  | .boolean => "Boolean"
  | .integer => "Integer"
  | .hash160 => "Hash160"
  | .hash256 => "Hash256"
  | .byteArray => "ByteArray"
  | .publicKey => "PublicKey"
  | .string => "String"
  | .array => "Array"
  | .map => "Map"
  | .interopInterface => "InteropInterface"
  | .void => "Void"

def ofName? (name : Text) : Option ParameterKind := all.find? fun kind => kind.name = name

end ParameterKind

end LedgerFeed
