import Std.Data.ExtTreeMap

namespace SplitTest

namespace Hex

def digit (n : Nat) : Char := Nat.digitChar n

def value? (c : Char) : Option Nat :=
  if '0' ≤ c ∧ c ≤ '9' then some (c.toNat - 48)
  else if 'a' ≤ c ∧ c ≤ 'f' then some (c.toNat - 87)
  else if 'A' ≤ c ∧ c ≤ 'F' then some (c.toNat - 55)
  else none

def encode (bytes : List UInt8) : String :=
  String.ofList (bytes.flatMap fun b => [digit (b.toNat / 16), digit (b.toNat % 16)])

def decode? : List Char → Option (List UInt8)
  | [] => some []
  | [_] => none
  | high :: low :: rest => do
    return UInt8.ofNat (16 * (← value? high) + (← value? low)) :: (← decode? rest)

end Hex

structure Uuid where
  bits : BitVec 128
deriving DecidableEq, Inhabited

namespace Uuid

instance : Ord Uuid := ⟨compareOn Uuid.bits⟩

instance : Std.TransOrd Uuid := inferInstanceAs (Std.TransCmp (compareOn Uuid.bits))

instance : Std.LawfulEqOrd Uuid where
  eq_of_compare {a b} h := by
    cases a; cases b
    exact congrArg Uuid.mk (Std.LawfulEqOrd.eq_of_compare h)

def groups : List Nat := [8, 4, 4, 4, 12]

def digits (u : Uuid) : List Char :=
  (List.range 32).map fun i => Hex.digit (u.bits.toNat / Nat.pow 16 (31 - i) % 16)

def cut : List Nat → List Char → List (List Char)
  | [], _ => []
  | n :: ns, cs => cs.take n :: cut ns (cs.drop n)

def text (u : Uuid) : String :=
  String.ofList (List.intercalate ['-'] (cut groups u.digits))

instance : ToString Uuid := ⟨text⟩

def readGroups : List Nat → List Char → Option (List Nat)
  | [], cs => if cs.isEmpty then some [] else none
  | [n], cs => if cs.length = n then cs.mapM Hex.value? else none
  | n :: ns, cs =>
    match cs.drop n with
    | '-' :: rest => do return (← (cs.take n).mapM Hex.value?) ++ (← readGroups ns rest)
    | _ => none

def parse? (text : String) : Option Uuid :=
  (readGroups groups text.toList).map fun ds =>
    ⟨BitVec.ofNat 128 (ds.foldl (fun value d => 16 * value + d) 0)⟩

end Uuid

end SplitTest
