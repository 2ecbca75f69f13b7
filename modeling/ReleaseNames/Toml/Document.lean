import ReleaseNames.Toml.Scalar

/-!
# TOML documents

A document is a list of statements: table headers, headers of table arrays, and
entries. Values are strings, arrays, inline tables and scalars. Scalars are the
numbers, truth values, dates and times; they are checked, but what they are is
not kept, since no setting is one.

Inline tables give no key twice. That the statements give no key twice is for
their reader to see to.
-/

namespace ReleaseNames.Toml

inductive Value where
  | text (s : String)
  | scalar
  | array (items : List Value)
  | table (entries : List (List String × Value))

inductive Statement where
  | header (key : List String)
  | arrayHeader (key : List String)
  | entry (key : List String) (value : Value)

def isBareKeyChar (c : Char) : Bool :=
  c.isAlphanum || c == '_' || c == '-'

/-- Drop a comment, if there is one, up to the line end or a character that it cannot hold. -/
def skipComment : List Char → List Char
  | '#' :: rest => rest.dropWhile isTextChar
  | cs => cs

/-- Drop white space, line ends and comments. The fuel bounds the number of comments. -/
def skipGap : Nat → List Char → List Char
  | 0, cs => cs
  | fuel + 1, cs =>
    match skipLines cs with
    | '#' :: rest => skipGap fuel (skipComment ('#' :: rest))
    | rest => rest

/-- The rest of a line that holds nothing more than a comment; gives what follows its end. -/
def endLine? (cs : List Char) : Option (List Char) :=
  match skipComment (skipSpaces cs) with
  | [] => some []
  | rest => afterLineEnd? rest

def readSimpleKey (cs : List Char) : Option (String × List Char) :=
  match readShort cs with
  | some (key, rest) => some (String.ofList key, rest)
  | none =>
    match cs.takeWhile isBareKeyChar with
    | [] => none
    | key => some (String.ofList key, cs.dropWhile isBareKeyChar)

/-- Fewer arrays and inline tables than this lie one in another, and a key has fewer parts. -/
def depthLimit : Nat := 80

/-- The parts of a key, at most as many as asked for. The dots may have spaces around them. -/
def readKeyParts : Nat → List Char → Option (List String × List Char)
  | 0, _ => none
  | room + 1, cs =>
    match readSimpleKey cs with
    | none => none
    | some (part, rest) =>
      match skipSpaces rest with
      | '.' :: more => (readKeyParts room (skipSpaces more)).map fun r => (part :: r.1, r.2)
      | _ => some ([part], rest)

def readKey (cs : List Char) : Option (List String × List Char) :=
  readKeyParts (depthLimit - 1) cs

/-- A key and the equals sign after it. -/
def readAssignment (cs : List Char) : Option (List String × List Char) :=
  match readKey cs with
  | none => none
  | some (key, rest) =>
    match skipSpaces rest with
    | '=' :: more => some (key, skipSpaces more)
    | _ => none

def afterTruth? : List Char → Option (List Char)
  | 't' :: 'r' :: 'u' :: 'e' :: rest => some rest
  | 'f' :: 'a' :: 'l' :: 's' :: 'e' :: rest => some rest
  | _ => none

def afterScalar? (cs : List Char) : Option (List Char) :=
  (afterMoment? cs).or ((afterTruth? cs).or (afterNumber? cs))

def readAtom (cs : List Char) : Option (Value × List Char) :=
  match readText cs with
  | some (text, rest) => some (.text (String.ofList text), rest)
  | none => (afterScalar? cs).map fun rest => (.scalar, rest)

/-- Whether neither of two keys is the other or leads into its value. -/
def areApart (a b : List String) : Bool :=
  !a.isPrefixOf b && !b.isPrefixOf a

def areDistinct : List (List String) → Bool
  | [] => true
  | key :: rest => rest.all (areApart key) && areDistinct rest

mutual

/-- A value. The first number is fuel, the second bounds the depth of arrays and tables. -/
def readValue : Nat → Nat → List Char → Option (Value × List Char)
  | 0, _, _ => none
  | fuel + 1, depth + 1, '[' :: rest =>
    (readItems fuel depth rest).map fun r => (.array r.1, r.2)
  | fuel + 1, depth + 1, '\x7b' :: rest =>
    match skipSpaces rest with
    | '\x7d' :: after => some (.table [], after)
    | more =>
      match readEntries fuel depth more with
      | some (entries, after) =>
        if areDistinct (entries.map (·.1)) then some (.table entries, after) else none
      | none => none
  | _ + 1, _, cs => readAtom cs

/-- The items of an array, up to its closing bracket. A comma may follow the last item. -/
def readItems : Nat → Nat → List Char → Option (List Value × List Char)
  | 0, _, _ => none
  | fuel + 1, depth, cs =>
    match skipGap (fuel + 1) cs with
    | ']' :: after => some ([], after)
    | more =>
      match readValue fuel depth more with
      | none => none
      | some (value, rest) =>
        match skipGap (fuel + 1) rest with
        | ']' :: after => some ([value], after)
        | ',' :: after => (readItems fuel depth after).map fun r => (value :: r.1, r.2)
        | _ => none

/-- One or more entries of an inline table, up to its closing brace. No comma may follow the
last entry. -/
def readEntries : Nat → Nat → List Char → Option (List (List String × Value) × List Char)
  | 0, _, _ => none
  | fuel + 1, depth, cs =>
    match readAssignment cs with
    | none => none
    | some (key, rest) =>
      match readValue fuel depth rest with
      | none => none
      | some (value, rest) =>
        match skipSpaces rest with
        | '\x7d' :: after => some ([(key, value)], after)
        | ',' :: more =>
          (readEntries fuel depth (skipSpaces more)).map fun r => ((key, value) :: r.1, r.2)
        | _ => none

end

/-- One statement, without the end of its line. -/
def readStatement (fuel : Nat) : List Char → Option (Statement × List Char)
  | '[' :: '[' :: rest =>
    match readKey (skipSpaces rest) with
    | some (key, more) =>
      match skipSpaces more with
      | ']' :: ']' :: after => some (.arrayHeader key, after)
      | _ => none
    | none => none
  | '[' :: rest =>
    match readKey (skipSpaces rest) with
    | some (key, more) =>
      match skipSpaces more with
      | ']' :: after => some (.header key, after)
      | _ => none
    | none => none
  | cs =>
    match readAssignment cs with
    | some (key, rest) => (readValue fuel (depthLimit - 1) rest).map fun r => (.entry key r.1, r.2)
    | none => none

def readStatements : Nat → List Char → Option (List Statement)
  | 0, _ => none
  | fuel + 1, cs =>
    match endLine? cs with
    | some [] => some []
    | some after => readStatements fuel after
    | none =>
      match readStatement (fuel + 1) (skipSpaces cs) with
      | none => none
      | some (statement, rest) =>
        match endLine? rest with
        | some after => (readStatements fuel after).map (statement :: ·)
        | none => none

def skipOrderMark : List Char → List Char
  | c :: rest => if c.toNat = 0xFEFF then rest else c :: rest
  | [] => []

/-- The statements of a document. Reading a value takes at most two steps for each character. -/
def read? (s : String) : Option (List Statement) :=
  readStatements (2 * s.toList.length + 2) (skipOrderMark s.toList)

end ReleaseNames.Toml
