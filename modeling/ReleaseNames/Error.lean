import ReleaseNames.Rule
import ReleaseNames.Value

/-!
# Errors

What can be wrong with an expression, and where: a position is the number of bytes
of UTF-8 in front of the place. Then why no name could be produced. Each error names
its cause; the wording is one function.

A dangling index means that a value refers to a volume or part which the request
does not list, and an overflow that a sum left its word. These two are not reported
but stop the program, and no run meets them.
-/

namespace ReleaseNames

/-- What the grammar allows at a place. -/
inductive Expected where
  | number
  | ruleName
  | argument
  | closeParen
  | sectionEnd
deriving DecidableEq

def Expected.phrase : Expected → String
  | .number => "a number"
  | .ruleName => "a rule name"
  | .argument => "an argument"
  | .closeParen => "')'"
  | .sectionEnd => "'|', '>' or end of expression"

/-- A fault of an expression. Argument indices count from zero. -/
inductive ExpressionError where
  | unexpectedChar (char : Char) (position : Nat)
  | unexpectedToken (expected : Expected) (found : String) (position : Nat)
  | unterminatedString (position : Nat)
  | unknownSection (name : String) (position : Nat)
  | duplicateSection (key : Char) (position : Nat)
  | unprefixedSection (position : Nat)
  | unknownRule (name : String) (position : Nat)
  | misplacedBackref (position : Nat)
  | arity (rule : String) (expected found : Nat) (position : Nat)
  | nonAsciiArgument (rule : String) (index : Nat) (position : Nat)
  | argumentType (rule : String) (index : Nat) (expected : ArgType) (position : Nat)
deriving DecidableEq

namespace ExpressionError

def position : ExpressionError → Nat
  | .unexpectedChar _ p => p
  | .unexpectedToken _ _ p => p
  | .unterminatedString p => p
  | .unknownSection _ p => p
  | .duplicateSection _ p => p
  | .unprefixedSection p => p
  | .unknownRule _ p => p
  | .misplacedBackref p => p
  | .arity _ _ _ p => p
  | .nonAsciiArgument _ _ p => p
  | .argumentType _ _ _ p => p

def message : ExpressionError → String
  | .unexpectedChar c p =>
    "unexpected character '" ++ String.ofList [c] ++ "' at position " ++ toString p
  | .unexpectedToken expected found p =>
    "expected " ++ expected.phrase ++ " at position " ++ toString p ++ ", found " ++ found
  | .unterminatedString p => "unterminated string starting at position " ++ toString p
  | .unknownSection name p =>
    "unknown section '" ++ name ++ "' at position " ++ toString p ++ " (expected t, n or f)"
  | .duplicateSection key p =>
    "section '" ++ String.ofList [key] ++ "' at position " ++ toString p
      ++ " must be present only once"
  | .unprefixedSection p =>
    "section at position " ++ toString p ++ " needs a prefix when several sections are given"
  | .unknownRule name p => "unknown rule '" ++ name ++ "' at position " ++ toString p
  | .misplacedBackref p =>
    "_t at position " ++ toString p ++ " must be the first rule of the n or f section"
  | .arity rule expected found p =>
    "rule '" ++ rule ++ "' at position " ++ toString p ++ " takes at most " ++ toString expected
      ++ " argument(s), got " ++ toString found
  | .nonAsciiArgument rule index p =>
    "argument " ++ toString index ++ " of rule '" ++ rule ++ "' at position " ++ toString p
      ++ " must be ASCII"
  | .argumentType rule index expected p =>
    "argument " ++ toString index ++ " of rule '" ++ rule ++ "' at position " ++ toString p
      ++ " must be " ++ expected.phrase

end ExpressionError

/-- Why a library of overrides cannot be used. -/
inductive LibraryError where
  | relativePath
  | fileNotFound
  /-- The path does not lead to anything. -/
  | unresolved
  /-- The file is not a library. -/
  | notLibrary
  | noExports
  | noRelease
deriving DecidableEq

def LibraryError.message : LibraryError → String
  | .relativePath => "override library path must be absolute"
  | .fileNotFound => "file not found"
  | .unresolved => "path cannot be resolved"
  | .notLibrary => "file is not a library"
  | .noExports => "exports none of to_title, to_filename, to_folder"
  | .noRelease => "missing namegen_free"

/-- An index that leads nowhere. -/
inductive Dangling where
  | volume (index : Nat)
  | part (index : Nat)
deriving DecidableEq

def Dangling.message : Dangling → String
  | .volume index => "volume #" ++ toString index
  | .part index => "part #" ++ toString index

/-- Why a release cannot be named. -/
inductive NamingError where
  | expression (error : ExpressionError)
  /-- A rule met a value that it does not accept. -/
  | mismatch (channel : Channel) (rule : Rule) (stage : Stage)
  /-- A channel ended before its value was a string. -/
  | unterminated (channel : Channel) (stage : Stage)
  | emptyName (channel : Channel)
  | library (path : String) (error : LibraryError)
  /-- An override reported a failure. -/
  | overrideFailed (channel : Channel) (message : String)
  | request (error : RequestError)
  | dangling (index : Dangling)
  | overflow (sum : Overflow)
deriving DecidableEq

def NamingError.message : NamingError → String
  | .expression e => "Invalid namegen rules: " ++ e.message
  | .mismatch channel rule stage =>
    "Rule '" ++ rule.name ++ "' cannot be applied to a " ++ stage.name ++ " value (channel "
      ++ channel.keyText ++ ")"
  | .unterminated channel stage =>
    "Channel " ++ channel.keyText ++ " ended on a " ++ stage.name ++ " value instead of a string"
  | .emptyName channel => "Channel " ++ channel.keyText ++ " produced an empty name"
  | .library path e => "Cannot load override library '" ++ path ++ "': " ++ e.message
  | .overrideFailed channel message =>
    "Override for channel " ++ channel.keyText ++ " failed: " ++ message
  | .request e => "Invalid naming request: " ++ e.message
  | .dangling i => "The request does not list " ++ i.message
  | .overflow sum => sum.message

end ReleaseNames
