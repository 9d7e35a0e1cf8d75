import SplitTest.Binary64
import SplitTest.Experiment
import SplitTest.Settings

/-!
Summaries of samples, and Welch's two-sided test of two means by the normal approximation. The error
function is summed from its power series in fixed-point arithmetic and rounded once.
-/

namespace SplitTest

namespace Stats

def fractionBits : Nat := 256

def twoOverRootPi : Nat :=
  112837916709551257389615890312154517168810125865799771368817144342128493688298682

def erfTerm (z : Nat) (s : Int × Nat) (n : Nat) : Int × Nat :=
  let term : Int := s.2 / (2 * n + 1)
  let power := s.2 * z / Nat.pow 2 fractionBits * z / Nat.pow 2 fractionBits / (n + 1)
  (if n % 2 = 0 then s.1 + term else s.1 - term, power)

/-- `erf` of a fixed-point number below six, where 256 terms reach the last bit. -/
def erfFixed (z : Nat) : Nat :=
  let sum := ((List.range 256).foldl (erfTerm z) (0, z)).1.toNat
  sum * twoOverRootPi / Nat.pow 10 80

def erf (x : Float) : Float :=
  match Binary64.ofFloat x with
  | .nan => x
  | .infinite negative => if negative then -1.0 else 1.0
  | .finite negative mantissa exponent =>
    let (num, den) := Binary64.ratio mantissa exponent
    let magnitude :=
      if 6 * den ≤ num then 1.0
      else
        let scale := Nat.pow 2 fractionBits
        Float.ofNat (erfFixed (num * scale / den)) / Float.ofNat scale
    if negative then -magnitude else magnitude

def normalCdf (x : Float) : Float := 0.5 * (1.0 + erf (x / Float.sqrt 2.0))

end Stats

structure VariantStats where
  name : String
  subjects : Nat
  observations : Nat
  mean : Float
  stddev : Float
  min : Float
  max : Float

structure Sample where
  mean : Float
  stddev : Float
  size : Nat

def VariantStats.sample (s : VariantStats) : Sample := ⟨s.mean, s.stddev, s.observations⟩

def Sample.gap (a b : Sample) : Float := (a.mean - b.mean).abs

structure WelchTest where
  standardError : Float
  t : Float
  pValue : Float

namespace Stats

/-- What the coefficients of a list come to, as a library of vectors gives it: in which order it
adds them up is its own affair. Of no coefficients the answers mean nothing. -/
structure Reductions where
  mean : List Float → Float
  squares : Float → List Float → Float
  least : List Float → Float
  greatest : List Float → Float

namespace Reductions

def total : List Float → Float
  | [] => 0
  | first :: rest => rest.foldl (· + ·) first

def extreme (better : Float → Float → Bool) : List Float → Float
  | [] => 0
  | first :: rest => rest.foldl (fun best x => if better x best then x else best) first

def inOrder : Reductions where
  mean values := total values / Float.ofNat values.length
  squares center values := total (values.map fun x => (x - center) * (x - center))
  least := extreme fun x best => x < best
  greatest := extreme fun x best => best < x

end Reductions

def summarize (name : String) (values : List Float) (subjects : Nat)
    (reductions : Reductions := .inOrder) : Except Invalid VariantStats :=
  if values.isEmpty then .error (.noObservations name)
  else
    let mean := reductions.mean values
    .ok { name, subjects, mean
          observations := values.length
          stddev :=
            if values.length ≤ 1 then 0
            else (reductions.squares mean values / Float.ofNat (values.length - 1)).sqrt
          min := reductions.least values
          max := reductions.greatest values }

/-- Two samples without spread differ for certain or not at all; a spread too small to square
tells nothing. Any other p-value is raised to the floor. -/
def welch (a b : Sample) (floor : Float) : Except Invalid WelchTest :=
  if a.size = 0 ∨ b.size = 0 then .error .emptySample
  else if a.stddev == 0 && b.stddev == 0 then
    if a.mean == b.mean then .ok ⟨0, 0, 1⟩ else .ok ⟨0, 1.0 / 0.0, 0⟩
  else
    let standardError := (a.stddev * a.stddev / Float.ofNat a.size +
      b.stddev * b.stddev / Float.ofNat b.size).sqrt
    if standardError == 0 then .ok ⟨standardError, 0, 1⟩
    else
      let t := a.gap b / standardError
      let p := 2.0 * (1.0 - normalCdf t)
      .ok ⟨standardError, t, if p < floor then floor else p⟩

end Stats

structure Results where
  experiment : Uuid
  name : String
  status : Status
  metric : String
  variants : Std.ExtTreeMap String VariantStats
  significant : Bool := false
  pValue : Option Float := none
  t : Option Float := none
  confidence : Float

namespace Results

def contenders? (settings : Settings) (variants : Std.ExtTreeMap String VariantStats) :
    Option (VariantStats × VariantStats) :=
  match variants.values with
  | [a, b] =>
    if settings.minSubjects.toNat ≤ a.subjects ∧ settings.minSubjects.toNat ≤ b.subjects then
      some (a, b)
    else none
  | _ => none

def ofStats (settings : Settings) (e : Experiment) (metric : String) (stats : List VariantStats)
    (confidence : Float) : Except Invalid Results := do
  let variants := Std.ExtTreeMap.ofList (stats.map fun s => (s.name, s))
  let results : Results :=
    { experiment := e.id, name := e.name, status := e.status, metric, variants, confidence }
  match contenders? settings variants with
  | none => return results
  | some (a, b) =>
    let test ← Stats.welch a.sample b.sample settings.pValueFloor
    return { results with
      pValue := some test.pValue
      t := some test.t
      significant := test.pValue < 1.0 - confidence }

end Results

end SplitTest
