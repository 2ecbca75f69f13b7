import ReleaseNames.Decimal
import ReleaseNames.Toml.Text

/-!
# TOML numbers, dates and times

Integers in four bases and numbers with a fraction or an exponent. A single
underscore may stand between two digits, and a decimal number has no zero before
its other digits. Integers fit in 64 bits with a sign. A positive number too
large for a double is refused; a negative one counts as minus infinity.

A date has a day that its month has in that year, and a time has seconds, up to
a leap second, with any number of digits after the point. A date may be followed
by a time, and that time by an offset.

Only what follows a number, a date or a time is given: its value is checked and not
kept.
-/

namespace ReleaseNames.Toml

def readPair (least greatest : Nat) : List Char → Option (Nat × List Char)
  | c :: d :: rest =>
    if c.isDigit ∧ d.isDigit then
      let n := Nat.ofDigitChars 10 [c, d] 0
      if least ≤ n ∧ n ≤ greatest then some (n, rest) else none
    else none
  | _ => none

def readYear : List Char → Option (Nat × List Char)
  | c :: rest =>
    let digits := c :: rest.take 3
    if digits.length = 4 ∧ digits.all Char.isDigit then
      some (Nat.ofDigitChars 10 digits 0, rest.drop 3)
    else none
  | [] => none

def isLeapYear (year : Nat) : Bool :=
  year % 4 = 0 && (year % 100 ≠ 0 || year % 400 = 0)

def daysIn (year month : Nat) : Nat :=
  if month = 2 then if isLeapYear year then 29 else 28
  else if month = 4 ∨ month = 6 ∨ month = 9 ∨ month = 11 then 30
  else 31

def afterDate? (cs : List Char) : Option (List Char) :=
  match readYear cs with
  | some (year, '-' :: rest) =>
    match readPair 1 12 rest with
    | some (month, '-' :: rest) => (readPair 1 (daysIn year month) rest).map (·.2)
    | _ => none
  | _ => none

def afterMinutes? (cs : List Char) : Option (List Char) :=
  match readPair 0 23 cs with
  | some (_, ':' :: rest) => (readPair 0 59 rest).map (·.2)
  | _ => none

/-- What follows a point with digits, if they are there. -/
def afterFraction : List Char → List Char
  | '.' :: c :: rest => if c.isDigit then rest.dropWhile Char.isDigit else '.' :: c :: rest
  | cs => cs

def afterTime? (cs : List Char) : Option (List Char) :=
  match afterMinutes? cs with
  | some (':' :: rest) => (readPair 0 60 rest).map fun r => afterFraction r.2
  | _ => none

/-- What follows an offset, if there is one. -/
def afterOffset (cs : List Char) : List Char :=
  match cs with
  | 'Z' :: rest => rest
  | 'z' :: rest => rest
  | '+' :: rest => (afterMinutes? rest).getD cs
  | '-' :: rest => (afterMinutes? rest).getD cs
  | cs => cs

/-- What follows a time and its offset after a date, if they are there. -/
def afterTimeOfDay : List Char → List Char
  | [] => []
  | c :: rest =>
    if c = 'T' ∨ c = 't' ∨ c = ' ' then
      match afterTime? rest with
      | some after => afterOffset after
      | none => c :: rest
    else c :: rest

/-- What follows a date, a time, or both. -/
def afterMoment? (cs : List Char) : Option (List Char) :=
  match afterDate? cs with
  | some rest => some (afterTimeOfDay rest)
  | none => afterTime? cs

example : afterMoment? "2000-02-29 23:59:60.25-05:30,".toList = some [','] ∧
    afterMoment? "1900-02-29".toList = none ∧ afterMoment? "07:32".toList = none := by
  decide +kernel

end ReleaseNames.Toml

namespace ReleaseNames.Toml

def readMoreDigits (isDigit : Char → Bool) : List Char → Option (List Char × List Char)
  | [] => some ([], [])
  | ['_'] => none
  | '_' :: c :: rest =>
    if isDigit c then (readMoreDigits isDigit rest).map fun r => (c :: r.1, r.2) else none
  | c :: rest =>
    if isDigit c then (readMoreDigits isDigit rest).map fun r => (c :: r.1, r.2)
    else some ([], c :: rest)

def readDigits (isDigit : Char → Bool) : List Char → Option (List Char × List Char)
  | [] => none
  | c :: rest =>
    if isDigit c then (readMoreDigits isDigit rest).map fun r => (c :: r.1, r.2) else none

/-- The digits of a decimal number; after a zero there are no more. -/
def readWhole : List Char → Option (List Char × List Char)
  | '0' :: rest => some (['0'], rest)
  | cs => readDigits Char.isDigit cs

/-- Whether a sign is a minus, and what follows the sign; without a sign, the whole text. -/
def splitSign : List Char → Bool × List Char
  | '-' :: rest => (true, rest)
  | '+' :: rest => (false, rest)
  | cs => (false, cs)

def isDigitOf (base : Nat) (c : Char) : Bool :=
  c.isDigit && c.toNat < '0'.toNat + base

/-- One more than the largest integer. -/
def integerBound : Nat := 0x8000000000000000

/-- What follows an integer in a base other than ten, after the letter of the base. -/
def afterDigits? (base : Nat) (isDigit : Char → Bool) (cs : List Char) : Option (List Char) :=
  match readDigits isDigit cs with
  | some (digits, rest) =>
    match digits.foldlM (fun n c => (hexDigit? c).map (base * n + ·)) 0 with
    | some n => if n < integerBound then some rest else none
    | none => none
  | none => none

def afterInteger? (cs : List Char) : Option (List Char) :=
  match cs with
  | '0' :: 'x' :: rest => afterDigits? 16 (fun c => (hexDigit? c).isSome) rest
  | '0' :: 'o' :: rest => afterDigits? 8 (isDigitOf 8) rest
  | '0' :: 'b' :: rest => afterDigits? 2 (isDigitOf 2) rest
  | cs =>
    let (negative, unsigned) := splitSign cs
    match readWhole unsigned with
    | some (digits, rest) =>
      let n := Nat.ofDigitChars 10 digits 0
      if n < integerBound ∨ (negative ∧ n = integerBound) then some rest else none
    | none => none

/-- An exponent with its letter, if there is one; a letter without digits is refused. -/
def readExponent : List Char → Option (Int × List Char)
  | 'e' :: cs => signed cs
  | 'E' :: cs => signed cs
  | cs => some (0, cs)
where
  signed (cs : List Char) : Option (Int × List Char) :=
    let (negative, unsigned) := splitSign cs
    (readDigits Char.isDigit unsigned).map fun r =>
      let n : Nat := Nat.ofDigitChars 10 r.1 0
      (if negative then -(n : Int) else n, r.2)

/-- A fraction with its point, if there is one; a point without digits is refused. -/
def readFraction : List Char → Option (List Char × List Char)
  | '.' :: cs => readDigits Char.isDigit cs
  | cs => some ([], cs)

/-- Whether `digits * 10 ^ exponent` rounds to infinity. Only a number between `10 ^ 308` and
`10 ^ 309` has to be rounded to find out. -/
def isTooLarge (digits : List Char) (exponent : Int) : Bool :=
  let significant := digits.dropWhile (· == '0')
  let size := significant.length + exponent
  if significant = [] ∨ size < 309 then false
  else if 309 < size then true
  else
    let n := Nat.ofDigitChars 10 significant 0
    Decimal.Double.nearest (n * Nat.pow 10 exponent.toNat) (Nat.pow 10 (-exponent).toNat)
      == .infinite

/-- What follows a number with a fraction or an exponent. -/
def afterDecimal? (cs : List Char) : Option (List Char) :=
  let (negative, unsigned) := splitSign cs
  match readWhole unsigned with
  | none => none
  | some (whole, rest) =>
    match readFraction rest with
    | none => none
    | some (fraction, more) =>
      match readExponent more with
      | none => none
      | some (exponent, after) =>
        if after.length = rest.length then none
        else if !negative && isTooLarge (whole ++ fraction) (exponent - fraction.length) then none
        else some after

def afterSpecial? (cs : List Char) : Option (List Char) :=
  match (splitSign cs).2 with
  | 'i' :: 'n' :: 'f' :: rest => some rest
  | 'n' :: 'a' :: 'n' :: rest => some rest
  | _ => none

def afterNumber? (cs : List Char) : Option (List Char) :=
  (afterDecimal? cs).or ((afterSpecial? cs).or (afterInteger? cs))

/-- The bounds of integers and of doubles. -/
example : afterInteger? "9223372036854775808".toList = none ∧
    afterInteger? "-9_223_372_036_854_775_808".toList = some [] ∧
    afterNumber? "1.7976931348623158e+308".toList = some [] ∧
    afterNumber? "1e309".toList = some "e309".toList ∧
    afterNumber? "-1e309".toList = some [] := by
  decide +kernel

end ReleaseNames.Toml
