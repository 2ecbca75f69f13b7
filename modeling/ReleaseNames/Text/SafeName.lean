import ReleaseNames.Text.Character
import ReleaseNames.Text.Decomposition
import ReleaseNames.Text.Words

/-!
# Names that file systems accept

Three normal forms of a title. A file name keeps ASCII letters and digits and
any characters asked for, a folder name keeps all but a few rejected characters,
and a slug is a lower-case hyphenated file name. Each first folds accents away.

A rejected run is replaced once, by a replacement text, and characters of the
replacement are then trimmed from both ends. That a folder name is a usable path
component is not asserted.
-/

namespace ReleaseNames.Text

/-- Decompose accented characters and drop the nonspacing marks. -/
def stripMarks (cs : List Char) : List Char :=
  (canonical cs).filter fun c => !isNonspacingMark c

/-- Replace each maximal run of rejected characters by one replacement text.
The flag says whether the text starts inside such a run. -/
def replaceRuns (reject : Char → Bool) (replacement : List Char) (inRun : Bool) :
    List Char → List Char
  | [] => []
  | c :: rest =>
    if reject c then
      if inRun then replaceRuns reject replacement true rest
      else replacement ++ replaceRuns reject replacement true rest
    else c :: replaceRuns reject replacement false rest

theorem replaceRuns_nil (reject : Char → Bool) (replacement : List Char) (inRun : Bool) :
    replaceRuns reject replacement inRun [] = [] := rfl

theorem replaceRuns_cons (reject : Char → Bool) (replacement : List Char) (inRun : Bool)
    (c : Char) (rest : List Char) :
    replaceRuns reject replacement inRun (c :: rest) =
      if reject c then
        if inRun then replaceRuns reject replacement true rest
        else replacement ++ replaceRuns reject replacement true rest
      else c :: replaceRuns reject replacement false rest := rfl

def keeps (preserve : List Char) (c : Char) : Bool :=
  c.isAlphanum || preserve.contains c

/-- The file-name form: every run of characters that are not kept becomes the replacement. -/
def fileName (replacement preserve : List Char) (cs : List Char) : List Char :=
  trimWhere (fun c => replacement.contains c)
    (replaceRuns (fun c => !keeps preserve c) replacement false (stripMarks cs))

example : onChars (fileName ['_'] ['-']) "Café: 1-2!" = "Cafe_1-2" := by decide +kernel

/-- Characters that common file systems reject in a folder name. -/
def folderRejected : List Char := ['<', '>', ':', '"', '/', '\\', '|', '?', '*']

def folderName (cs : List Char) : List Char :=
  trimWhere (fun c => c == '_')
    (replaceRuns (fun c => folderRejected.contains c) ['_'] false (stripMarks cs))

/-- The runs of ASCII letters and digits in lower case, joined by hyphens. -/
def slug (cs : List Char) : List Char :=
  List.intercalate ['-']
    ((pieces (fun c => !c.isAlphanum) (stripMarks cs)).map fun piece => piece.map Char.toLower)

end ReleaseNames.Text
