import LedgerFeed.Characters.Blank
import LedgerFeed.Characters.Case

namespace LedgerFeed

inductive Channel
  | blocks
  | events
  deriving DecidableEq, Repr, Inhabited

namespace Channel

def all : List Channel := [.blocks, .events]

def name : Channel → String
  | .blocks => "blocks"
  | .events => "events"

def member : Channel → String
  | .blocks => "BLOCKS"
  | .events => "EVENTS"

def ofName? (name : Text) : Option Channel := all.find? fun channel => channel.name = name

def parse? (text : Text) : Option Channel := ofName? (lowercase (trim text))

def sorted (channels : List Channel) : List Channel := all.filter channels.contains

end Channel

end LedgerFeed
