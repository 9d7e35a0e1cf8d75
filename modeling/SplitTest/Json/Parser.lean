import SplitTest.Json
import SplitTest.Uuid

/-!
Reads a value from text. Every part takes characters from the front and gives back the rest, or
finds none. An integer is unsigned or, after a minus sign, signed, as long as 64 bits hold it; any
other number is a floating-point number.
-/

namespace SplitTest.Json

def isBlank (c : Char) : Bool := c = ' ' || c = '\t' || c = '\n' || c = '\r'

def skipBlanks (cs : List Char) : List Char := cs.dropWhile isBlank

def codeUnit? : List Char → Option (Nat × List Char)
  | a :: b :: c :: d :: rest => do
    let ds ← [a, b, c, d].mapM Hex.value?
    return (ds.foldl (fun value digit => 16 * value + digit) 0, rest)
  | _ => none

def escape? : List Char → Option (Char × List Char)
  | '"' :: rest => some ('"', rest)
  | '\\' :: rest => some ('\\', rest)
  | '/' :: rest => some ('/', rest)
  | 'b' :: rest => some (Char.ofNat 8, rest)
  | 'f' :: rest => some (Char.ofNat 12, rest)
  | 'n' :: rest => some ('\n', rest)
  | 'r' :: rest => some ('\r', rest)
  | 't' :: rest => some ('\t', rest)
  | 'u' :: rest => do
    let (high, rest) ← codeUnit? rest
    if 0xd800 ≤ high ∧ high < 0xdc00 then
      match rest with
      | '\\' :: 'u' :: rest =>
        let (low, rest) ← codeUnit? rest
        if 0xdc00 ≤ low ∧ low < 0xe000 then
          return (Char.ofNat (0x10000 + (high - 0xd800) * 0x400 + (low - 0xdc00)), rest)
        else none
      | _ => none
    else if 0xdc00 ≤ high ∧ high < 0xe000 then none
    else return (Char.ofNat high, rest)
  | _ => none

def text? : Nat → List Char → List Char → Option (List Char × List Char)
  | 0, _, _ => none
  | _ + 1, _, [] => none
  | _ + 1, done, '"' :: rest => some (done, rest)
  | fuel + 1, done, '\\' :: rest => do
    let (c, rest) ← escape? rest
    text? fuel (c :: done) rest
  | fuel + 1, done, c :: rest => if c.toNat < 32 then none else text? fuel (c :: done) rest

def quotedText? (cs : List Char) : Option (String × List Char) := do
  let (done, rest) ← text? (cs.length + 1) [] cs
  return (String.ofList done.reverse, rest)

def natOfDigits (ds : List Char) : Nat := ds.foldl (fun n d => 10 * n + (d.toNat - 48)) 0

def digits? (cs : List Char) : Option (List Char × List Char) :=
  match cs.takeWhile Char.isDigit with
  | [] => none
  | ds => some (ds, cs.dropWhile Char.isDigit)

def whole? : List Char → Option (List Char × List Char)
  | '0' :: rest => some (['0'], rest)
  | cs => digits? cs

def fraction? : List Char → Option (Option (List Char) × List Char)
  | '.' :: rest => do
    let (ds, rest) ← digits? rest
    return (some ds, rest)
  | cs => some (none, cs)

def exponentDigits? : List Char → Option (Int × List Char)
  | '-' :: rest => do
    let (ds, rest) ← digits? rest
    return (-(natOfDigits ds : Int), rest)
  | '+' :: rest => do
    let (ds, rest) ← digits? rest
    return (natOfDigits ds, rest)
  | cs => do
    let (ds, rest) ← digits? cs
    return (natOfDigits ds, rest)

def exponent? : List Char → Option (Option Int × List Char)
  | 'e' :: rest | 'E' :: rest => do
    let (k, rest) ← exponentDigits? rest
    return (some k, rest)
  | cs => some (none, cs)

def nearestFloat (mantissa : Nat) (exponent : Int) : Float :=
  let magnitude := (Nat.toDigits 10 mantissa).length + exponent
  if mantissa = 0 ∨ magnitude < -400 then 0
  else if 400 < magnitude then 1.0 / 0.0
  else if exponent < 0 then Float.ofScientific mantissa true exponent.natAbs
  else Float.ofScientific mantissa false exponent.natAbs

def number? (negative : Bool) (cs : List Char) : Option (Json × List Char) := do
  let (whole, cs) ← whole? cs
  let (fraction, cs) ← fraction? cs
  let (exponent, cs) ← exponent? cs
  let n := natOfDigits whole
  if fraction.isNone && exponent.isNone && negative && n ≤ Nat.pow 2 63 then
    return (signed (Int64.ofInt (-n)), cs)
  else if fraction.isNone && exponent.isNone && !negative && n < Nat.pow 2 64 then
    return (unsigned (UInt64.ofNat n), cs)
  else
    let behind := fraction.getD []
    let x := nearestFloat (natOfDigits (whole ++ behind)) (exponent.getD 0 - behind.length)
    if x.isInf then none
    else return (float (if negative then -x else x), cs)

mutual

/-- A value at the very front; each level of nesting takes one unit of fuel. -/
def value? : Nat → List Char → Option (Json × List Char)
  | 0, _ => none
  | fuel + 1, cs =>
    match cs with
    | 'n' :: 'u' :: 'l' :: 'l' :: rest => some (null, rest)
    | 't' :: 'r' :: 'u' :: 'e' :: rest => some (bool true, rest)
    | 'f' :: 'a' :: 'l' :: 's' :: 'e' :: rest => some (bool false, rest)
    | '"' :: rest => do
      let (s, rest) ← quotedText? rest
      return (string s, rest)
    | '[' :: rest =>
      match skipBlanks rest with
      | ']' :: rest => some (array [], rest)
      | rest => items? fuel [] rest
    | '\x7b' :: rest =>
      match skipBlanks rest with
      | '\x7d' :: rest => some (object [], rest)
      | rest => members? fuel [] rest
    | '-' :: rest => number? true rest
    | _ => number? false cs

def items? : Nat → List Json → List Char → Option (Json × List Char)
  | 0, _, _ => none
  | fuel + 1, done, cs => do
    let (item, rest) ← value? fuel (skipBlanks cs)
    match skipBlanks rest with
    | ',' :: rest => items? fuel (item :: done) rest
    | ']' :: rest => return (array (item :: done).reverse, rest)
    | _ => none

def members? : Nat → List (String × Json) → List Char → Option (Json × List Char)
  | 0, _, _ => none
  | fuel + 1, done, cs => do
    let (key, rest) ← key? (skipBlanks cs)
    let (j, rest) ← value? fuel rest
    match skipBlanks rest with
    | ',' :: rest => members? fuel ((key, j) :: done) rest
    | '\x7d' :: rest => return (ofMembers ((key, j) :: done).reverse, rest)
    | _ => none

def key? : List Char → Option (String × List Char)
  | '"' :: rest => do
    let (key, rest) ← quotedText? rest
    match skipBlanks rest with
    | ':' :: rest => return (key, skipBlanks rest)
    | _ => none
  | _ => none

end

def skipMark : List Char → List Char
  | '\ufeff' :: rest => rest
  | cs => cs

def parse? (text : String) : Option Json := do
  let cs := skipBlanks (skipMark text.toList)
  let (j, rest) ← value? (cs.length + 1) cs
  if (skipBlanks rest).isEmpty then return j else none

end SplitTest.Json
