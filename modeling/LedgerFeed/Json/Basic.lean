import LedgerFeed.Number.Binary64
import LedgerFeed.Characters.Text

namespace LedgerFeed

inductive Json
  | null
  | bool (b : Bool)
  | int (n : Int)
  | float (x : Binary64)
  | string (text : Text)
  | array (items : List Json)
  | object (members : List (Text × Json))
  deriving Repr, Inhabited

namespace Json

def insertMember (members : List (Text × Json)) (name : Text) (value : Json) :
    List (Text × Json) :=
  match members with
  | [] => [(name, value)]
  | (other, old) :: rest =>
      if other = name then (other, value) :: rest
      else (other, old) :: insertMember rest name value

/-- The members with each name once, at its first place and with its last value. -/
def mergeMembers (members : List (Text × Json)) : List (Text × Json) :=
  members.foldl (fun merged (name, value) => insertMember merged name value) []

def isObject : Json → Bool
  | .object _ => true
  | _ => false

end Json

end LedgerFeed
