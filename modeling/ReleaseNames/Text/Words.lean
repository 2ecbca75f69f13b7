import ReleaseNames.Text.Character

/-!
# Words and numbers in text

Trimming and splitting are stated for any class of characters; the forms for white
space are instances. Text is handled as a list of characters, and `onChars` lifts
such a function to strings. The numbers that stand in titles are padded, read and
worded here, with ASCII digits only. Words are compared without regard to case.
-/

namespace ReleaseNames.Text

def onChars (f : List Char → List Char) (s : String) : String :=
  String.ofList (f s.toList)

def trimWhere (p : Char → Bool) (cs : List Char) : List Char :=
  ((cs.dropWhile p).reverse.dropWhile p).reverse

def trim (cs : List Char) : List Char :=
  trimWhere isBlank cs

/-- The maximal non-empty runs of characters outside a class, in order. -/
def pieces (p : Char → Bool) (cs : List Char) : List (List Char) :=
  (cs.splitOnP p).filter fun piece => !piece.isEmpty

def words (cs : List Char) : List (List Char) :=
  pieces isBlank cs

def unwords (ws : List (List Char)) : List Char :=
  List.intercalate [' '] ws

@[simp] theorem toList_onChars (f : List Char → List Char) (s : String) :
    (onChars f s).toList = f s.toList := by
  simp [onChars]

theorem onChars_onChars (f g : List Char → List Char) (s : String) :
    onChars f (onChars g s) = onChars (fun cs => f (g cs)) s := by
  simp [onChars]

theorem trimWhere_nil (p : Char → Bool) : trimWhere p [] = [] := rfl

def stripPunctuation (cs : List Char) : List Char :=
  cs.filter fun c => !isPunctuation c

/-- Whether the last character is a punctuation mark; false for the empty text. -/
def endsWithPunctuation (s : String) : Bool :=
  s.toList.getLast?.any isPunctuation

/-- Pad a text of digits with zeros on the left; any other text is returned unchanged. -/
def zeroPad (width : Nat) (s : String) : String :=
  if s.toList ≠ [] ∧ s.toList.all Char.isDigit then
    String.ofList (List.replicate (width - s.toList.length) '0' ++ s.toList)
  else s

/-- Lower case of a character, as far as it falls inside ASCII: the capital letters and the
Kelvin sign. No other character has an ASCII lower case, so comparing the result with an ASCII
word is comparing the full lower case with it. -/
def lowerChar (c : Char) : Char :=
  if c = Char.ofNat 0x212A then 'k' else c.toLower

def lower (s : String) : String :=
  String.ofList (s.toList.map lowerChar)

def numberWords : List (String × Nat) := [
  ("one", 1), ("two", 2), ("three", 3), ("four", 4), ("five", 5), ("six", 6), ("seven", 7),
  ("eight", 8), ("nine", 9), ("ten", 10), ("eleven", 11), ("twelve", 12), ("thirteen", 13),
  ("fourteen", 14), ("fifteen", 15), ("sixteen", 16), ("seventeen", 17), ("eighteen", 18),
  ("nineteen", 19), ("twenty", 20)]

def wordNumber? (s : String) : Option Nat :=
  numberWords.lookup (lower s)

/-- Write a number word in digits; any other text is returned unchanged. -/
def digitsOfWord (s : String) : String :=
  match wordNumber? s with
  | some n => toString n
  | none => s

/-- The digits of a text with at most one leading plus sign, if it is such a text. -/
def unsignedDigits? (s : String) : Option (List Char) :=
  let digits := match s.toList with
    | '+' :: rest => rest
    | cs => cs
  if digits ≠ [] ∧ digits.all Char.isDigit then some digits else none

def unsigned? (s : String) : Option UInt64 :=
  match unsignedDigits? s with
  | some digits =>
    let n := Nat.ofDigitChars 10 digits 0
    if n < 0x10000000000000000 then some (UInt64.ofNat n) else none
  | none => none

def stopwords : List String := [
  "a", "about", "above", "after", "again", "against", "all", "am", "an", "and", "any", "are", "as",
  "at", "be", "because", "been", "before", "being", "below", "between", "both", "but", "by", "can",
  "did", "do", "does", "doing", "down", "during", "each", "few", "for", "from", "further", "had",
  "has", "have", "having", "he", "her", "here", "hers", "herself", "him", "himself", "his", "how",
  "i", "if", "in", "into", "is", "it", "its", "itself", "just", "me", "more", "most", "my",
  "myself", "no", "nor", "not", "now", "of", "off", "on", "once", "only", "or", "other", "our",
  "ours", "ourselves", "out", "over", "own", "same", "she", "should", "so", "some", "such", "than",
  "that", "the", "their", "theirs", "them", "themselves", "then", "there", "these", "they", "this",
  "those", "through", "to", "too", "under", "until", "up", "very", "was", "we", "were", "what",
  "when", "where", "which", "while", "who", "whom", "why", "will", "with", "you", "your", "yours",
  "yourself", "yourselves"]

def isStopword (word : List Char) : Bool :=
  stopwords.contains (lower (String.ofList word))

end ReleaseNames.Text
