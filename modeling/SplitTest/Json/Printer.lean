import SplitTest.Json
import SplitTest.Uuid

namespace SplitTest.Json

def escaped (c : Char) : List Char :=
  if c = '"' then ['\\', '"']
  else if c = '\\' then ['\\', '\\']
  else if c.toNat < 32 then
    ['\\', 'u', '0', '0', Hex.digit (c.toNat / 16), Hex.digit (c.toNat % 16)]
  else [c]

def quoted (s : String) : String :=
  String.ofList ('"' :: s.toList.flatMap escaped ++ ['"'])

mutual

def render (number : Float → String) : Json → String
  | null => "null"
  | bool b => if b then "true" else "false"
  | unsigned n => toString n.toNat
  | signed n => toString n.toInt
  | float x => number x
  | string s => quoted s
  | array items => "[" ++ ",".intercalate (renderItems number items) ++ "]"
  | object members => "\x7b" ++ ",".intercalate (renderMembers number members) ++ "\x7d"

def renderItems (number : Float → String) : List Json → List String
  | [] => []
  | j :: rest => render number j :: renderItems number rest

def renderMembers (number : Float → String) : List (String × Json) → List String
  | [] => []
  | (key, j) :: rest => (quoted key ++ ":" ++ render number j) :: renderMembers number rest

end

end SplitTest.Json
