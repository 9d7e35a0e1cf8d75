namespace SplitTest

inductive Binary64 where
  | nan
  | infinite (negative : Bool)
  | finite (negative : Bool) (mantissa : Nat) (exponent : Int)
deriving DecidableEq, Repr

namespace Binary64

def ofFloat (x : Float) : Binary64 :=
  let bits := x.toBits.toNat
  let negative := bits / Nat.pow 2 63 = 1
  let exponent : Nat := bits / Nat.pow 2 52 % 2048
  let fraction := bits % Nat.pow 2 52
  if exponent = 2047 then
    if fraction = 0 then infinite negative else nan
  else if exponent = 0 then finite negative fraction (-1074)
  else finite negative (Nat.pow 2 52 + fraction) (exponent - 1075)

def ratio (mantissa : Nat) (exponent : Int) : Nat × Nat :=
  (mantissa * Nat.pow 2 exponent.toNat, Nat.pow 2 (-exponent).toNat)

/-- The nearest integer to a quotient; of two equally near ones the even one. -/
def roundDiv (num den : Nat) : Nat :=
  let q := num / den
  let r := num % den
  if 2 * r > den ∨ (2 * r = den ∧ q % 2 = 1) then q + 1 else q

def pointed (places n : Nat) : String :=
  let digits := Nat.toDigits 10 n
  let padded := List.replicate (places + 1 - digits.length) '0' ++ digits
  let whole := padded.length - places
  if places = 0 then String.ofList padded
  else String.ofList (padded.take whole ++ '.' :: padded.drop whole)

def signed (negative : Bool) (text : String) : String :=
  if negative then "-" ++ text else text

def fixed (places : Nat) : Binary64 → String
  | nan => "nan"
  | infinite negative => signed negative "inf"
  | finite negative mantissa exponent =>
    let (num, den) := ratio mantissa exponent
    signed negative (pointed places (roundDiv (num * Nat.pow 10 places) den))

def decimalExponent (num den : Nat) : Int :=
  (Nat.toDigits 10 (num * Nat.pow 10 400 / den)).length - 401

def exponentText (k : Int) : String :=
  let digits := toString k.natAbs
  (if k < 0 then "e-" else "e+") ++ (if k.natAbs < 10 then "0" ++ digits else digits)

def scientific (places : Nat) : Binary64 → String
  | nan => "nan"
  | infinite negative => signed negative "inf"
  | finite negative mantissa exponent =>
    if mantissa = 0 then signed negative (pointed places 0 ++ exponentText 0)
    else
      let (num, den) := ratio mantissa exponent
      let k := decimalExponent num den
      let shift := (places : Int) - k
      let n := roundDiv (num * Nat.pow 10 shift.toNat) (den * Nat.pow 10 (-shift).toNat)
      -- rounding up may carry into one more digit
      if n = Nat.pow 10 (places + 1) then
        signed negative (pointed places (Nat.pow 10 places) ++ exponentText (k + 1))
      else signed negative (pointed places n ++ exponentText k)

end Binary64

end SplitTest
