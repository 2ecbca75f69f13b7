import ReleaseNames.Rule.Call
import ReleaseNames.Text.Words

/-!
# Tokens

White space separates tokens and is otherwise ignored. Names are runs of ASCII
letters, digits and underscores that start with no digit. A number may have a
sign and a decimal point; without a point it must fit 64 bits. In a string a
backslash stands for the character after it. Every token list ends with one `stop`,
which stands for the end of the expression.

A position is found from what is left to read: it is the length of the whole
expression less the length of the rest, both in bytes of UTF-8.
-/

namespace ReleaseNames

inductive Token where
  | ident (name : String)
  | int (value : Int64)
  | decimal (value : Decimal)
  | str (value : String)
  | colon
  | pipe
  | arrow
  | openParen
  | closeParen
  | comma
  | stop
deriving DecidableEq

/-- A token and the number of bytes in front of it. -/
structure Located where
  token : Token
  position : Nat
deriving DecidableEq

namespace Token

def shown : Token → String
  | .ident name => "'" ++ name ++ "'"
  | .int value => toString value.toInt
  | .decimal value => value.shown
  | .str value => "\"" ++ value ++ "\""
  | .colon => "':'"
  | .pipe => "'|'"
  | .arrow => "'>'"
  | .openParen => "'('"
  | .closeParen => "')'"
  | .comma => "','"
  | .stop => "end of expression"

def literal? : Token → Option Literal
  | .int value => some (.int value)
  | .decimal value => some (.decimal value)
  | .str value => some (.str value)
  | _ => none

/-- The token of a character that is one on its own. -/
def symbol? : Char → Option Token
  | ':' => some .colon
  | '|' => some .pipe
  | '>' => some .arrow
  | '(' => some .openParen
  | ')' => some .closeParen
  | ',' => some .comma
  | _ => none

end Token

end ReleaseNames

namespace ReleaseNames.Lexer

def utf8Length : List Char → Nat
  | [] => 0
  | c :: rest => c.utf8Size + utf8Length rest

/-- Position of the place where `rest` is still to be read of an expression of `total` bytes. -/
def offset (total : Nat) (rest : List Char) : Nat :=
  total - utf8Length rest

def isNameChar (c : Char) : Bool :=
  c.isAlphanum || c == '_'

def startsName (c : Char) : Bool :=
  c.isAlpha || c == '_'

def startsNumber (c : Char) : Bool :=
  c.isDigit || c == '-' || c == '+'

/-- The content of a string up to its closing quote, and what follows the quote. -/
def readString : List Char → Option (List Char × List Char)
  | [] => none
  | '"' :: rest => some ([], rest)
  | '\\' :: c :: rest =>
    match readString rest with
    | some (content, after) => some (c :: content, after)
    | none => none
  | '\\' :: [] => none
  | c :: rest =>
    match readString rest with
    | some (content, after) => some (c :: content, after)
    | none => none

/-- Whether a number is negative, and what follows its sign. -/
def readSign : List Char → Bool × List Char
  | '-' :: rest => (true, rest)
  | '+' :: rest => (false, rest)
  | cs => (false, cs)

/-- An integer with a sign, if it fits 64 bits. -/
def int64? (negative : Bool) (magnitude : Nat) : Option Int64 :=
  if negative then
    if magnitude ≤ 0x8000000000000000 then some (Int64.ofInt (-(magnitude : Int))) else none
  else if magnitude < 0x8000000000000000 then some (Int64.ofInt magnitude) else none

def readNumber (total : Nat) (cs : List Char) : Except ExpressionError (Token × List Char) :=
  let (negative, unsigned) := readSign cs
  let digits := unsigned.takeWhile Char.isDigit
  let rest := unsigned.dropWhile Char.isDigit
  if digits = [] then .error (.unexpectedChar (rest.headD ' ') (offset total rest))
  else
    match rest with
    | '.' :: more =>
      let fraction := more.takeWhile Char.isDigit
      let number := Nat.ofDigitChars 10 (digits ++ fraction) 0
      .ok (.decimal ⟨negative, number, fraction.length⟩, more.dropWhile Char.isDigit)
    | _ =>
      match int64? negative (Nat.ofDigitChars 10 digits 0) with
      | some value => .ok (.int value, rest)
      | none =>
        let source := String.ofList (cs.take (cs.length - rest.length))
        .error (.unexpectedToken .number ("'" ++ source ++ "'") (offset total cs))

/-- The token at the head of a text that does not start with white space, and what follows it. -/
def readToken (total : Nat) (c : Char) (rest : List Char) :
    Except ExpressionError (Token × List Char) :=
  match Token.symbol? c with
  | some token => .ok (token, rest)
  | none =>
    if c = '"' then
      match readString rest with
      | some (content, after) => .ok (.str (String.ofList content), after)
      | none => .error (.unterminatedString (offset total (c :: rest)))
    else if startsNumber c then readNumber total (c :: rest)
    else if startsName c then
      .ok (.ident (String.ofList (c :: rest.takeWhile isNameChar)), rest.dropWhile isNameChar)
    else .error (.unexpectedChar c (offset total (c :: rest)))

theorem length_dropWhile_le (p : Char → Bool) (cs : List Char) :
    (cs.dropWhile p).length ≤ cs.length :=
  (List.dropWhile_sublist p).length_le

theorem length_of_readString {cs content after : List Char}
    (h : readString cs = some (content, after)) : after.length < cs.length := by
  fun_induction readString cs generalizing content after with
  | case1 => simp at h
  | case2 rest => simp at h; simp [h]
  | case3 c rest v w hr ih =>
    simp at h
    have := ih hr
    simp [← h.2]
    omega
  | case4 => simp at h
  | case5 => simp at h
  | case6 c rest _ _ _ v w hr ih =>
    simp at h
    have := ih hr
    simp [← h.2]
    omega
  | case7 => simp at h

theorem length_readSign (cs : List Char) : (readSign cs).2.length ≤ cs.length := by
  unfold readSign
  split <;> simp

theorem length_of_readNumber {total : Nat} {c : Char} {rest after : List Char} {token : Token}
    (h : readNumber total (c :: rest) = .ok (token, after)) : after.length ≤ rest.length := by
  have hsign := length_readSign (c :: rest)
  revert h
  unfold readNumber
  generalize readSign (c :: rest) = signed at hsign
  obtain ⟨negative, unsigned⟩ := signed
  simp only [List.length_cons] at hsign
  have hsplit := congrArg List.length
    (List.takeWhile_append_dropWhile (p := Char.isDigit) (l := unsigned))
  simp only [List.length_append] at hsplit
  simp only
  intro h
  split at h
  · simp at h
  · next hdigits =>
    have hpos : 0 < (unsigned.takeWhile Char.isDigit).length := List.length_pos_iff.mpr hdigits
    split at h
    · next more hmore =>
      simp at h
      have hlen := length_dropWhile_le Char.isDigit more
      rw [hmore, List.length_cons] at hsplit
      rw [← h.2]
      omega
    · split at h
      · simp at h
        rw [← h.2]
        omega
      · simp at h

theorem length_of_readToken {total : Nat} {c : Char} {rest after : List Char} {token : Token}
    (h : readToken total c rest = .ok (token, after)) : after.length ≤ rest.length := by
  unfold readToken at h
  split at h
  · simp at h; simp [h]
  · split at h
    · split at h
      · next hs =>
        simp at h
        have := length_of_readString hs
        rw [← h.2]
        omega
      · simp at h
    · split at h
      · exact length_of_readNumber h
      · split at h
        · simp at h
          rw [← h.2]
          exact length_dropWhile_le _ _
        · simp at h

def readTokens (total : Nat) (cs : List Char) : Except ExpressionError (List Located) :=
  match _hcs : cs.dropWhile Text.isBlank with
  | [] => .ok [⟨.stop, total⟩]
  | c :: rest =>
    match _htoken : readToken total c rest with
    | .error e => .error e
    | .ok (token, after) =>
      match readTokens total after with
      | .error e => .error e
      | .ok tokens => .ok (⟨token, offset total (c :: rest)⟩ :: tokens)
termination_by cs.length
decreasing_by
  have h1 := length_of_readToken _htoken
  have h2 := length_dropWhile_le Text.isBlank cs
  rw [_hcs, List.length_cons] at h2
  omega

def tokenize (expression : String) : Except ExpressionError (List Located) :=
  readTokens (utf8Length expression.toList) expression.toList

end ReleaseNames.Lexer
