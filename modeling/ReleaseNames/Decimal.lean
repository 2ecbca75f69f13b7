/-!
# Decimal numbers as written

A number with a decimal point is kept as it is written. It is shown as the
shortest digits of the nearest double, always in positional notation and without
a fraction part that is zero.

A non-negative rational is rounded to the nearest binary number with a significand
of at most 53 bits and an exponent of at least -1074; a half goes to the even
significand, and numbers past the largest exponent become infinite. All arithmetic is
on natural numbers.

The reals that round to a double form an interval, with its ends when the
significand is even. On the grid of multiples of a power of ten, a double has two
neighbours; grids are tried from coarse to fine, and the first grid with a neighbour
inside the interval wins. Of two neighbours inside, the nearer is taken, and the
larger in a tie.
-/

namespace ReleaseNames

/-- A written decimal: `digits / 10 ^ places` with a sign. -/
structure Decimal where
  negative : Bool
  digits : Nat
  places : Nat
deriving DecidableEq

namespace Decimal

/-- A non-negative double: `significand * 2 ^ exponent`, or infinity. -/
inductive Double where
  | finite (significand : Nat) (exponent : Int)
  | infinite
deriving DecidableEq

/-- `num / den` as a quotient of naturals, after multiplying by `2 ^ shift`. -/
def scaled (num den : Nat) (shift : Int) : Nat × Nat :=
  match shift with
  | .ofNat k => (num * Nat.pow 2 k, den)
  | .negSucc k => (num, den * Nat.pow 2 (k + 1))

def roundHalfEven (num den : Nat) : Nat :=
  let quotient := num / den
  let twice := 2 * (num % den)
  if twice < den then quotient
  else if den < twice then quotient + 1
  else quotient + quotient % 2

/-- The largest `k` with `2 ^ k ≤ num / den`, for positive arguments. -/
def floorLog (num den : Nat) : Int :=
  let k : Int := (Nat.log2 num : Int) - Nat.log2 den
  let (n, d) := scaled num den (-k)
  if d ≤ n then k else k - 1

def minExponent : Int := -1074

def maxExponent : Int := 971

def Double.nearest (num den : Nat) : Double :=
  if num = 0 then .finite 0 minExponent
  else
    let exponent := max (floorLog num den - 52) minExponent
    let (n, d) := scaled num den (-exponent)
    let significand := roundHalfEven n d
    let (significand, exponent) :=
      if significand = Nat.pow 2 53 then (Nat.pow 2 52, exponent + 1) else (significand, exponent)
    if maxExponent < exponent then .infinite else .finite significand exponent

/-- The power of ten just above a positive quotient: `10 ^ (k - 1) ≤ num / den < 10 ^ k`. -/
def decimalExponent (num den : Nat) : Int :=
  if den ≤ num then ((Nat.toDigits 10 (num / den)).length : Int)
  else 1 - ((Nat.toDigits 10 ((den + num - 1) / num - 1)).length : Int)

/-- A positive double with the ends of its rounding interval, counted in quarters of its unit. -/
structure Quarters where
  low : Nat
  value : Nat
  high : Nat
  /-- Whether the ends of the interval round to the double. -/
  closed : Bool

/-- The rounding interval of a double. The gap below a power of two is half as wide. -/
def quarters (significand : Nat) (exponent : Int) : Quarters :=
  { low := if significand = Nat.pow 2 52 ∧ minExponent < exponent then 4 * significand - 1
      else 4 * significand - 2
    value := 4 * significand
    high := 4 * significand + 2
    closed := significand % 2 = 0 }

/-- The neighbour on a grid that reads back as the double: `gridUnit` and `unit` are the steps of
the grid and of the quarters over a common denominator. -/
def gridNeighbour? (q : Quarters) (gridUnit unit : Nat) : Option Nat :=
  let value := q.value * unit
  let below := value / gridUnit
  let inside := fun (a : Nat) =>
    let x := a * gridUnit
    if q.closed then q.low * unit ≤ x && x ≤ q.high * unit
    else q.low * unit < x && x < q.high * unit
  match inside below, inside (below + 1) with
  | true, true =>
    if value - below * gridUnit < (below + 1) * gridUnit - value then some below
    else some (below + 1)
  | true, false => some below
  | false, true => some (below + 1)
  | false, false => none

/-- Powers of an integer exponent as numerator and denominator. -/
def powerRatio (base : Nat) : Int → Nat × Nat
  | .ofNat k => (Nat.pow base k, 1)
  | .negSucc k => (1, Nat.pow base (k + 1))

/-- The shortest digits of a positive double, as a number and a power of ten. -/
def shortest (significand : Nat) (exponent : Int) : Nat × Int :=
  let q := quarters significand exponent
  let (unitNum, unitDen) := powerRatio 2 (exponent - 2)
  let top := decimalExponent (q.value * unitNum) unitDen
  let candidate? := fun (count : Nat) =>
    let place := top - 1 - count
    let (gridNum, gridDen) := powerRatio 10 place
    (gridNeighbour? q (gridNum * unitDen) (unitNum * gridDen)).map fun a => (a, place)
  match (List.range 17).findSome? candidate? with
  | some found => found
  | none => (0, 0)

def dropTrailingZeros (digits : List Char) : List Char :=
  (digits.reverse.dropWhile (· == '0')).reverse

/-- A number in positional notation, given its digits and the power of ten of the last one. -/
def positional (digits : List Char) (place : Int) : List Char :=
  match place with
  | .ofNat k => digits ++ List.replicate k '0'
  | .negSucc k =>
    let places := k + 1
    if places < digits.length then
      digits.take (digits.length - places) ++ '.' :: digits.drop (digits.length - places)
    else '0' :: '.' :: (List.replicate (places - digits.length) '0' ++ digits)

/-- Digits of a number times a power of ten, without zeros after the last significant digit. -/
def positionalNumber (number : Nat) (place : Int) : List Char :=
  let digits := Nat.toDigits 10 number
  let significant := dropTrailingZeros digits
  positional significant (place + (digits.length - significant.length : Nat))

def Double.text : Double → List Char
  | .infinite => "inf".toList
  | .finite significand exponent =>
    if significand = 0 then ['0']
    else
      let (number, place) := shortest significand exponent
      positionalNumber number place

/-- The number as it is shown in messages. -/
def shown (d : Decimal) : String :=
  let magnitude := (Double.nearest d.digits (Nat.pow 10 d.places)).text
  String.ofList (if d.negative then '-' :: magnitude else magnitude)

/-- A fraction that is zero is not shown, and a half-way digit goes up. -/
example : shown ⟨false, 100, 1⟩ = "10" ∧ shown ⟨true, 0, 1⟩ = "-0" ∧
    shown ⟨false, 105943828592625425, 2⟩ = "1059438285926254.3" := by decide +kernel

end Decimal

end ReleaseNames
