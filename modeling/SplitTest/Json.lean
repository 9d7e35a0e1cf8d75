import Std.Data.ExtTreeMap

namespace SplitTest

inductive Json where
  | null
  | bool (b : Bool)
  | unsigned (n : UInt64)
  | signed (n : Int64)
  | float (x : Float)
  | string (s : String)
  | array (items : List Json)
  | object (members : List (String × Json))
deriving Inhabited

namespace Json

/-- The object of some members; of two with one key the later one counts. -/
def ofMembers (members : List (String × Json)) : Json :=
  object (Std.ExtTreeMap.ofList members).toList

def isNull : Json → Bool
  | null => true
  | _ => false

def member? (key : String) : Json → Option Json
  | object members => members.lookup key
  | _ => none

def given? (key : String) (j : Json) : Option Json :=
  (j.member? key).filter (! ·.isNull)

def string? : Json → Option String
  | string s => some s
  | _ => none

def bool? : Json → Option Bool
  | bool b => some b
  | _ => none

def integer? : Json → Option Int
  | unsigned n => some n.toNat
  | signed n => some n.toInt
  | _ => none

def float? : Json → Option Float
  | unsigned n => some n.toFloat
  | signed n => some n.toFloat
  | float x => some x
  | _ => none

def ofInt (i : Int) : Json := signed (Int64.ofInt i)

def ofNat (n : Nat) : Json := unsigned (UInt64.ofNat n)

def ofOption {α : Type} (f : α → Json) : Option α → Json
  | some a => f a
  | none => null

end Json

end SplitTest
