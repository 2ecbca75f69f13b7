import ReleaseNames.Payload
import ReleaseNames.Toml.Text

/-!
# JSON

Values as trees, their compact texts, and a reader of texts. An object keeps its
members as they are written, in their order and also when two have one name. A
number is kept as its numeral: what it has to fit is for the record that holds it
to say.

The reader skips white space around the parts of a text. In quotes it takes every
escape, also the two halves of a surrogate pair, and refuses control characters
and half pairs. It has no bound on the depth: the fuel is the length of the text.

The whole text is read before a record takes its members from it. A half pair is
therefore refused wherever it stands, also in a member that the record skips, where
a reader that goes along with the record would only pass over its digits.
-/

namespace ReleaseNames

namespace Json

/-- Where a numeral stands after some of its characters. -/
inductive NumeralState where
  | start
  | sign
  | zero
  | whole
  | point
  | fraction
  | exponentMark
  | exponentSign
  | exponent
deriving DecidableEq

namespace NumeralState

def onDigit? (state : NumeralState) (c : Char) : Option NumeralState :=
  if c.isDigit then some state else none

/-- The state after the first digit. A zero has no digits after it. -/
def onFirstDigit? (c : Char) : Option NumeralState :=
  if c = '0' then some zero else onDigit? whole c

def onExponent? (c : Char) : Option NumeralState :=
  if c = 'e' ∨ c = 'E' then some exponentMark else none

def onPoint? (c : Char) : Option NumeralState :=
  if c = '.' then some point else onExponent? c

def next? (state : NumeralState) (c : Char) : Option NumeralState :=
  match state with
  | start => if c = '-' then some sign else onFirstDigit? c
  | sign => onFirstDigit? c
  | zero => onPoint? c
  | whole => (onDigit? whole c).or (onPoint? c)
  | point => onDigit? fraction c
  | fraction => (onDigit? fraction c).or (onExponent? c)
  | exponentMark => if c = '+' ∨ c = '-' then some exponentSign else onDigit? exponent c
  | exponentSign => onDigit? exponent c
  | exponent => onDigit? exponent c

def isEnd : NumeralState → Bool
  | zero => true
  | whole => true
  | fraction => true
  | exponent => true
  | _ => false

end NumeralState

def isNumeral (cs : List Char) : Bool :=
  (cs.foldlM NumeralState.next? .start).any NumeralState.isEnd

/-- The characters of a number. -/
structure Numeral where
  text : List Char
  valid : isNumeral text = true

theorem foldlM_toDigits {n : Nat} (h : 0 < n) :
    (Nat.toDigits 10 n).foldlM NumeralState.next? .start = some .whole := by
  induction n using Nat.strongRecOn with
  | ind n ih =>
    by_cases hn : n < 10
    · have hsmall : ∀ k : Fin 10, 0 < k.val →
          [Nat.digitChar k].foldlM NumeralState.next? .start = some .whole := by decide
      rw [Nat.toDigits_of_lt_base hn]
      exact hsmall ⟨n, hn⟩ h
    · have hdigit : ∀ k : Fin 10, NumeralState.next? .whole (Nat.digitChar k) = some .whole := by
        decide
      rw [Nat.toDigits_of_base_le (by decide) (by omega), List.foldlM_append,
        ih (n / 10) (by omega) (by omega)]
      simp [hdigit ⟨n % 10, by omega⟩]

theorem isNumeral_toDigits (n : Nat) : isNumeral (Nat.toDigits 10 n) = true := by
  obtain rfl | h := Nat.eq_zero_or_pos n
  · rfl
  · simp [isNumeral, foldlM_toDigits h, NumeralState.isEnd]

def Numeral.ofNat (n : Nat) : Numeral :=
  ⟨Nat.toDigits 10 n, isNumeral_toDigits n⟩

end Json

inductive Json where
  | null
  | truth (b : Bool)
  | number (n : Json.Numeral)
  | text (s : String)
  | array (items : List Json)
  | object (members : List (String × Json))

namespace Json

mutual

/-- A value without white space. -/
def compact : Json → List Char
  | .null => "null".toList
  | .truth b => Payload.truth b
  | .number n => n.text
  | .text s => Payload.quoted s
  | .array items => Payload.array (compactItems items)
  | .object members => Payload.object (compactMembers members)

def compactItems : List Json → List (List Char)
  | [] => []
  | item :: items => item.compact :: compactItems items

def compactMembers : List (String × Json) → List (String × List Char)
  | [] => []
  | (name, value) :: members => (name, value.compact) :: compactMembers members

end

def skipSpace (cs : List Char) : List Char :=
  cs.dropWhile fun c => c == ' ' || c == '\n' || c == '\r' || c == '\t'

/-- A code unit in four hexadecimal digits. -/
def readUnit (cs : List Char) : Option (Nat × List Char) :=
  if 4 ≤ cs.length then (Toml.hexNumber? 0 (cs.take 4)).map fun n => (n, cs.drop 4) else none

/-- The character of a code unit, or of a high one and the low one that is escaped after it. -/
def readCode (cs : List Char) : Option (Char × List Char) :=
  match readUnit cs with
  | none => none
  | some (unit, rest) =>
    if unit.isValidChar then some (Char.ofNat unit, rest)
    else
      match rest with
      | '\\' :: 'u' :: more =>
        match readUnit more with
        | none => none
        | some (low, after) =>
          if unit < 0xDC00 ∧ 0xDC00 ≤ low ∧ low < 0xE000 then
            some (Char.ofNat (0x10000 + 0x400 * (unit - 0xD800) + (low - 0xDC00)), after)
          else none
      | _ => none

/-- The character of an escape, after the backslash. -/
def readEscape : List Char → Option (Char × List Char)
  | '"' :: rest => some ('"', rest)
  | '\\' :: rest => some ('\\', rest)
  | '/' :: rest => some ('/', rest)
  | 'b' :: rest => some ('\x08', rest)
  | 'f' :: rest => some ('\x0c', rest)
  | 'n' :: rest => some ('\n', rest)
  | 'r' :: rest => some ('\r', rest)
  | 't' :: rest => some ('\t', rest)
  | 'u' :: rest => readCode rest
  | _ => none

/-- The characters of a text, up to its closing quote. The fuel bounds their number. -/
def readContent : Nat → List Char → Option (List Char × List Char)
  | 0, _ => none
  | _ + 1, [] => none
  | fuel + 1, c :: rest =>
    if c = '"' then some ([], rest)
    else if c = '\\' then
      match readEscape rest with
      | some (d, after) => (readContent fuel after).map fun r => (d :: r.1, r.2)
      | none => none
    else if c.toNat < 0x20 then none
    else (readContent fuel rest).map fun r => (c :: r.1, r.2)

/-- A text after its opening quote. -/
def readText (cs : List Char) : Option (String × List Char) :=
  (readContent (cs.length + 1) cs).map fun r => (String.ofList r.1, r.2)

def isNumeralChar (c : Char) : Bool :=
  c.isDigit || c == '-' || c == '+' || c == '.' || c == 'e' || c == 'E'

def readNumber (cs : List Char) : Option (Json × List Char) :=
  if h : isNumeral (cs.takeWhile isNumeralChar) = true then
    some (.number ⟨_, h⟩, cs.dropWhile isNumeralChar)
  else none

/-- A value that holds no other value. -/
def readAtom : List Char → Option (Json × List Char)
  | '"' :: rest => (readText rest).map fun r => (.text r.1, r.2)
  | 'n' :: 'u' :: 'l' :: 'l' :: rest => some (.null, rest)
  | 't' :: 'r' :: 'u' :: 'e' :: rest => some (.truth true, rest)
  | 'f' :: 'a' :: 'l' :: 's' :: 'e' :: rest => some (.truth false, rest)
  | cs => readNumber cs

/-- The name of a member and the colon after it. -/
def readName : List Char → Option (String × List Char)
  | '"' :: rest =>
    match readText rest with
    | none => none
    | some (name, after) =>
      match skipSpace after with
      | ':' :: more => some (name, skipSpace more)
      | _ => none
  | _ => none

mutual

/-- A value at the head of a text. -/
def readValue : Nat → List Char → Option (Json × List Char)
  | 0, _ => none
  | fuel + 1, '[' :: rest =>
    match skipSpace rest with
    | ']' :: after => some (.array [], after)
    | more => (readItems fuel more).map fun r => (.array r.1, r.2)
  | fuel + 1, '\x7b' :: rest =>
    match skipSpace rest with
    | '\x7d' :: after => some (.object [], after)
    | more => (readMembers fuel more).map fun r => (.object r.1, r.2)
  | _ + 1, cs => readAtom cs

def readItems : Nat → List Char → Option (List Json × List Char)
  | 0, _ => none
  | fuel + 1, cs =>
    match readValue fuel cs with
    | none => none
    | some (item, rest) =>
      match skipSpace rest with
      | ']' :: after => some ([item], after)
      | ',' :: more => (readItems fuel (skipSpace more)).map fun r => (item :: r.1, r.2)
      | _ => none

def readMembers : Nat → List Char → Option (List (String × Json) × List Char)
  | 0, _ => none
  | fuel + 1, cs =>
    match readName cs with
    | none => none
    | some (name, more) =>
      match readValue fuel more with
      | none => none
      | some (value, rest) =>
        match skipSpace rest with
        | '\x7d' :: after => some ([(name, value)], after)
        | ',' :: more =>
          (readMembers fuel (skipSpace more)).map fun r => ((name, value) :: r.1, r.2)
        | _ => none

end

section Unfolding

variable (fuel : Nat) (cs rest : List Char)

theorem readValue_nil : readValue fuel [] = none := by
  cases fuel <;> rfl

theorem readValue_bracket :
    readValue (fuel + 1) ('[' :: rest) =
      match skipSpace rest with
      | ']' :: after => some (.array [], after)
      | more => (readItems fuel more).map fun r => (.array r.1, r.2) := rfl

theorem readValue_brace :
    readValue (fuel + 1) ('\x7b' :: rest) =
      match skipSpace rest with
      | '\x7d' :: after => some (.object [], after)
      | more => (readMembers fuel more).map fun r => (.object r.1, r.2) := rfl

theorem readItems_succ :
    readItems (fuel + 1) cs =
      match readValue fuel cs with
      | none => none
      | some (item, rest) =>
        match skipSpace rest with
        | ']' :: after => some ([item], after)
        | ',' :: more => (readItems fuel (skipSpace more)).map fun r => (item :: r.1, r.2)
        | _ => none := rfl

theorem readMembers_succ :
    readMembers (fuel + 1) cs =
      match readName cs with
      | none => none
      | some (name, more) =>
        match readValue fuel more with
        | none => none
        | some (value, rest) =>
          match skipSpace rest with
          | '\x7d' :: after => some ([(name, value)], after)
          | ',' :: more =>
            (readMembers fuel (skipSpace more)).map fun r => ((name, value) :: r.1, r.2)
          | _ => none := rfl

end Unfolding

def read? (cs : List Char) : Option Json :=
  match readValue (cs.length + 1) (skipSpace cs) with
  | none => none
  | some (value, rest) => if skipSpace rest = [] then some value else none

end Json

end ReleaseNames
