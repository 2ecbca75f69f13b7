/-!
# TOML strings

The four kinds of TOML strings. Basic strings have escapes and literal strings
have none; multi-line strings, in three quotes, also hold line ends, which are
read as line feeds, and up to two quotes in a row. In a multi-line basic string a
backslash at the end of a line removes the line end and the white space after it.
-/

namespace ReleaseNames.Toml

/-- A character that can stand in a string or a comment: a tab or no ASCII control character. -/
def isTextChar (c : Char) : Bool :=
  c == '\t' || (' ' ≤ c && c ≤ '~') || 0x80 ≤ c.toNat

def afterLineEnd? : List Char → Option (List Char)
  | '\n' :: rest => some rest
  | '\r' :: '\n' :: rest => some rest
  | _ => none

def skipLines : List Char → List Char
  | ' ' :: rest => skipLines rest
  | '\t' :: rest => skipLines rest
  | '\n' :: rest => skipLines rest
  | '\r' :: '\n' :: rest => skipLines rest
  | cs => cs

def skipSpaces (cs : List Char) : List Char :=
  cs.dropWhile fun c => c == ' ' || c == '\t'

def hexDigit? (c : Char) : Option Nat :=
  if c.isDigit then some (c.toNat - '0'.toNat)
  else if 'a' ≤ c ∧ c ≤ 'f' then some (c.toNat - 'a'.toNat + 10)
  else if 'A' ≤ c ∧ c ≤ 'F' then some (c.toNat - 'A'.toNat + 10)
  else none

def hexNumber? (n : Nat) : List Char → Option Nat
  | [] => some n
  | c :: rest =>
    match hexDigit? c with
    | some d => hexNumber? (16 * n + d) rest
    | none => none

/-- The character whose code point is written in a given number of hexadecimal digits. -/
def readCode (digits : Nat) (cs : List Char) : Option (Char × List Char) :=
  if digits ≤ cs.length then
    match hexNumber? 0 (cs.take digits) with
    | some n => if n.isValidChar then some (Char.ofNat n, cs.drop digits) else none
    | none => none
  else none

/-- The character of an escape, after the backslash. -/
def readEscape : List Char → Option (Char × List Char)
  | 'b' :: rest => some ('\x08', rest)
  | 't' :: rest => some ('\t', rest)
  | 'n' :: rest => some ('\n', rest)
  | 'f' :: rest => some ('\x0c', rest)
  | 'r' :: rest => some ('\r', rest)
  | '"' :: rest => some ('"', rest)
  | '\\' :: rest => some ('\\', rest)
  | 'u' :: rest => readCode 4 rest
  | 'U' :: rest => readCode 8 rest
  | _ => none

/-- What follows a backslash that ends a line, without the white space after it. -/
def afterFold? (cs : List Char) : Option (List Char) :=
  (afterLineEnd? (skipSpaces cs)).map skipLines

/-- The content of a string on one line, up to its closing quote. -/
def readLine (quote : Char) (escapes : Bool) : Nat → List Char → Option (List Char × List Char)
  | 0, _ => none
  | _ + 1, [] => none
  | fuel + 1, c :: rest =>
    if c = quote then some ([], rest)
    else if escapes ∧ c = '\\' then
      match readEscape rest with
      | some (d, after) => (readLine quote escapes fuel after).map fun r => (d :: r.1, r.2)
      | none => none
    else if isTextChar c then (readLine quote escapes fuel rest).map fun r => (c :: r.1, r.2)
    else none

def readLines (quote : Char) (escapes : Bool) :
    Nat → List Char → Option (List Char × List Char)
  | 0, _ => none
  | _ + 1, [] => none
  | fuel + 1, c :: rest =>
    if c = quote then
      let quotes := ((c :: rest).takeWhile (· == quote)).length
      if 3 ≤ quotes then
        let kept := min (quotes - 3) 2
        some (List.replicate kept quote, (c :: rest).drop (kept + 3))
      else (readLines quote escapes fuel rest).map fun r => (c :: r.1, r.2)
    else if escapes ∧ c = '\\' then
      match afterFold? rest with
      | some after => readLines quote escapes fuel after
      | none =>
        match readEscape rest with
        | some (d, after) => (readLines quote escapes fuel after).map fun r => (d :: r.1, r.2)
        | none => none
    else
      match afterLineEnd? (c :: rest) with
      | some after => (readLines quote escapes fuel after).map fun r => ('\n' :: r.1, r.2)
      | none =>
        if isTextChar c then (readLines quote escapes fuel rest).map fun r => (c :: r.1, r.2)
        else none

/-- A multi-line string after its opening quotes; a line end right there is dropped. -/
def readBlock (quote : Char) (escapes : Bool) (cs : List Char) : Option (List Char × List Char) :=
  readLines quote escapes (cs.length + 1) ((afterLineEnd? cs).getD cs)

def readShort : List Char → Option (List Char × List Char)
  | '"' :: rest => readLine '"' true (rest.length + 1) rest
  | '\'' :: rest => readLine '\'' false (rest.length + 1) rest
  | _ => none

def readText : List Char → Option (List Char × List Char)
  | '"' :: '"' :: '"' :: rest => readBlock '"' true rest
  | '\'' :: '\'' :: '\'' :: rest => readBlock '\'' false rest
  | cs => readShort cs

end ReleaseNames.Toml
