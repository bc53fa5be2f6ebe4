import LedgerFeed.Json.Basic
import LedgerFeed.Number.Text
import LedgerFeed.Characters.Hex

namespace LedgerFeed

structure JsonLayout where
  comma : Text
  colon : Text
  ascii : Bool

def JsonLayout.compact : JsonLayout := ⟨[','], [':'], false⟩

def JsonLayout.line : JsonLayout := ⟨[',', ' '], [':', ' '], true⟩

namespace Json

def unicodeEscape (code : Nat) : Text := '\\' :: 'u' :: Text.ofChars (hexCode 4 code)

def asciiEscape (code : Nat) : Text :=
  if code < 0x10000 then
    unicodeEscape code
  else
    let offset := code - 0x10000
    unicodeEscape (0xd800 + offset / 0x400) ++ unicodeEscape (0xdc00 + offset % 0x400)

def escapeChar (ascii : Bool) (c : Char) : Text :=
  if c = '"' then ['\\', '"']
  else if c = '\\' then ['\\', '\\']
  else if c = '\n' then ['\\', 'n']
  else if c = '\r' then ['\\', 'r']
  else if c = '\t' then ['\\', 't']
  else if c = '\x08' then ['\\', 'b']
  else if c = '\x0c' then ['\\', 'f']
  else if c.toNat < 0x20 then unicodeEscape c.toNat
  else if ascii && c.toNat > 0x7e then asciiEscape c.toNat
  else [.char c]

def escapeLetter (ascii : Bool) : Letter → Text
  | .char c => escapeChar ascii c
  | .half place => if ascii then unicodeEscape (Letter.half place).code else [.half place]

def writeText (ascii : Bool) (text : Text) : Text :=
  .char '"' :: text.flatMap (escapeLetter ascii) ++ [.char '"']

def separate (comma : Text) : List Text → Text
  | [] => []
  | [last] => last
  | first :: rest => first ++ comma ++ separate comma rest

mutual

def write (layout : JsonLayout) : Json → Text
  | .null => "null"
  | .bool true => "true"
  | .bool false => "false"
  | .int n => .ofChars (intDigits n)
  | .float x => .ofChars (FloatLayout.json.write x)
  | .string text => writeText layout.ascii text
  | .array items => .char '[' :: separate layout.comma (writeItems layout items) ++ [.char ']']
  | .object members =>
      .char '\x7b' :: separate layout.comma (writeMembers layout members) ++ [.char '\x7d']

def writeItems (layout : JsonLayout) : List Json → List Text
  | [] => []
  | item :: rest => write layout item :: writeItems layout rest

def writeMembers (layout : JsonLayout) : List (Text × Json) → List Text
  | [] => []
  | (name, value) :: rest =>
      (writeText layout.ascii name ++ layout.colon ++ write layout value) ::
        writeMembers layout rest

end

def compact (value : Json) : Text := write .compact value

end Json

end LedgerFeed
