import ReleaseNames.Proofs.Folding
import ReleaseNames.Proofs.Pieces
import ReleaseNames.Proofs.Writing
import ReleaseNames.Transform.Names

/-!
# The words of a file name

A file name consists of the words of a title: the maximal runs of ASCII letters and
digits that are left once accents are folded away. An ASCII character of another
kind ends a word and takes part in no decomposition, so it keeps the texts on its
two sides apart. Spaces, brackets and colons are such characters. Texts that are put
together with them have the words of the texts, in order, whatever the texts are,
and a file name cannot tell one way of putting them together from another.
-/

namespace ReleaseNames

namespace Text

variable {c : Char} {s t : String}

/-- An ASCII character that is neither a letter nor a digit. -/
def isGap (c : Char) : Bool :=
  c.toNat < 0x80 && !c.isAlphanum

/-- The maximal runs of ASCII letters and digits of a text without its accents. -/
def fileWords (s : String) : List (List Char) :=
  pieces (fun c => !c.isAlphanum) (stripMarks s.toList)

def startsApart (s : String) : Bool :=
  s.toList.head?.all isGap

def endsApart (s : String) : Bool :=
  s.toList.getLast?.all isGap

theorem fileName_eq_words (s : String) :
    onChars (fileName ['_'] []) s = String.ofList (['_'].intercalate (fileWords s)) := by
  rw [onChars, fileName, trimWhere_replaceRuns (by simp [keeps])]
  simp [fileWords, keeps]

theorem fileWords_eq_nil_iff :
    fileWords s = [] ↔ ∀ c ∈ stripMarks s.toList, c.isAlphanum = false := by
  simp [fileWords, pieces_eq_nil_iff]

theorem fileName_eq_empty_iff : onChars (fileName ['_'] []) s = "" ↔ fileWords s = [] := by
  rw [fileName_eq_words, String.ofList_eq_empty_iff]
  exact intercalate_eq_nil_iff fun word hword => (of_mem_pieces hword).1

/-- A gap keeps what stands before it apart from what stands after it. -/
theorem pieces_stripMarks_gap (hc : isGap c = true) (xs ys : List Char) :
    pieces (fun c => !c.isAlphanum) (stripMarks (xs ++ c :: ys)) =
      pieces (fun c => !c.isAlphanum) (stripMarks xs) ++
        pieces (fun c => !c.isAlphanum) (stripMarks ys) := by
  obtain ⟨hascii, hother⟩ := Bool.and_eq_true_iff.mp hc
  have hcode : c.toNat < 0x80 := by simpa using hascii
  rw [stripMarks_append_cons (isFolded_of_ascii hcode) (combiningClass_of_ascii hcode),
    pieces_append_reject hother]

theorem fileWords_of_ascii (h : isAsciiText s = true) :
    fileWords s = pieces (fun c => !c.isAlphanum) s.toList := by
  rw [fileWords, stripMarks_of_ascii (by simpa [isAsciiText] using h)]

theorem fileWords_append_of_startsApart (ht : startsApart t = true) :
    fileWords (s ++ t) = fileWords s ++ fileWords t := by
  rw [fileWords, fileWords, fileWords, String.toList_append]
  cases h : t.toList with
  | nil => simp [stripMarks, canonical, reorder, pieces_nil]
  | cons c ys =>
    have hc : isGap c = true := by simpa [startsApart, h] using ht
    have hstart := pieces_stripMarks_gap hc [] ys
    rw [List.nil_append] at hstart
    rw [pieces_stripMarks_gap hc, hstart]
    rfl

theorem fileWords_append_of_endsApart (hs : endsApart s = true) :
    fileWords (s ++ t) = fileWords s ++ fileWords t := by
  rw [fileWords, fileWords, fileWords, String.toList_append]
  rcases List.eq_nil_or_concat s.toList with h | ⟨xs, c, h⟩
  · rw [h]
    rfl
  · have hc : isGap c = true := by simpa [endsApart, h] using hs
    have hend := pieces_stripMarks_gap hc xs []
    rw [h, List.concat_eq_append, List.append_assoc, List.singleton_append,
      pieces_stripMarks_gap hc, hend, List.append_assoc]
    rfl

section Gaps

variable {g : String} (hg : g.toList.all isGap = true)

include hg

theorem fileWords_of_gaps : fileWords g = [] := by
  have hgap : ∀ c ∈ g.toList, c.toNat < 0x80 ∧ c.isAlphanum = false := by
    simpa [isGap] using hg
  have hascii : isAsciiText g = true := List.all_eq_true.mpr fun c hc => by
    simpa using (hgap c hc).1
  rw [fileWords_of_ascii hascii, pieces_eq_nil_iff]
  intro c hc
  simp [(hgap c hc).2]

theorem fileWords_append_gaps (s : String) : fileWords (s ++ g) = fileWords s := by
  have hstart : startsApart g = true := by
    rw [startsApart, Option.all_eq_true]
    exact fun c hc => List.all_eq_true.mp hg c (List.mem_of_head? hc)
  rw [fileWords_append_of_startsApart hstart, fileWords_of_gaps hg, List.append_nil]

/-- Texts with gaps between them keep their words. -/
theorem fileWords_append_gaps_append (hne : g ≠ "") (s t : String) :
    fileWords (s ++ g ++ t) = fileWords s ++ fileWords t := by
  have hend : endsApart (s ++ g) = true := by
    rw [endsApart, String.toList_append, List.getLast?_append_of_ne_nil _ (by simpa using hne),
      Option.all_eq_true]
    exact fun c hc => List.all_eq_true.mp hg c (List.mem_of_getLast? hc)
  rw [fileWords_append_of_endsApart hend, fileWords_append_gaps hg]

end Gaps

theorem fileWords_empty : fileWords "" = [] :=
  fileWords_of_gaps (by simp)

end Text

open Text (fileWords fileWords_empty fileWords_of_ascii fileWords_append_gaps
  fileWords_append_gaps_append fileWords_append_of_startsApart)

/-- Empty texts have no words, so leaving them out leaves out none. -/
theorem fileWords_spaced (texts : List String) :
    fileWords (spaced texts) = texts.flatMap fileWords := by
  induction texts with
  | nil => exact fileWords_empty
  | cons text texts ih =>
    rw [List.flatMap_cons, ← ih, spaced, spaced]
    by_cases htext : text = ""
    · rw [List.filter_cons_of_neg (by simpa using htext), htext, fileWords_empty, List.nil_append]
    · rw [List.filter_cons_of_pos (by simpa using htext)]
      cases texts.filter fun text => text ≠ "" with
      | nil => simp [fileWords_empty]
      | cons next rest =>
        rw [String.intercalate_cons_cons, fileWords_append_gaps_append (by decide) (by decide)]

theorem fileWords_heading (colon : Bool) (name : String) :
    fileWords (SeriesName.heading colon name) = fileWords name := by
  rw [SeriesName.heading]
  split
  · exact fileWords_append_gaps (by decide) name
  · rfl

def Part.numberText (p : Part) : String :=
  toString p.number.toNat

/-- The number of a part after the number of its volume. -/
def Part.dottedText (p : Part) : String :=
  toString p.volume.toNat ++ "." ++ p.numberText

def rangeText (f : Part → String) : List Part → String
  | first :: second :: rest => "Parts " ++ f first ++ " to " ++ f (rest.getLastD second)
  | _ => ""

theorem exists_of_several {α : Type} {xs : List α} (h : 1 < xs.length) :
    ∃ first second rest, xs = first :: second :: rest := by
  match xs, h with
  | first :: second :: rest, _ => exact ⟨first, second, rest, rfl⟩

namespace Legacy

variable {m : Marker} {parts : List Part} {volumes : List Volume}

theorem fileWords_finalSuffix (h : m.complete = false) :
    fileWords (finalSuffix m) = fileWords m.full := by
  have hfinal : fileWords " - Final" = fileWords "[Final]" := by
    rw [fileWords_of_ascii (by decide), fileWords_of_ascii (by decide)]
    decide
  rw [finalSuffix, Marker.full, h]
  cases m.final with
  | false => rfl
  | true => exact hfinal

/-- The legacy file name of an ASCII title. -/
theorem filename_of_ascii {series : Series} (name : String)
    (h : title series volumes parts m = name) (hascii : isAsciiText name = true) :
    filename series volumes parts m =
      String.ofList (['_'].intercalate (Text.pieces (fun c => !c.isAlphanum) name.toList)) := by
  rw [filename, h, Text.fileName_eq_words, fileWords_of_ascii hascii]

/-- The words of a single part and its marker. -/
theorem fileWords_title_part (series : Series) (volumes : List Volume) (p : Part)
    (h : m.complete = false) :
    fileWords (title series volumes [p] m) = fileWords p.title ++ fileWords m.full := by
  have hfinal : fileWords " [Final]" = fileWords "[Final]" := by
    rw [fileWords_of_ascii (by decide), fileWords_of_ascii (by decide)]
    decide
  rw [title, Marker.full, h]
  cases m.final with
  | false => simp [fileWords_empty]
  | true =>
    rw [if_pos rfl, fileWords_append_of_startsApart (by decide), hfinal]
    rfl

theorem startsApart_finalSuffix (m : Marker) : Text.startsApart (finalSuffix m) = true := by
  rw [finalSuffix]
  cases m.final <;> decide

/-- A complete volume is named by its marker alone, another range by its ends and its marker. -/
theorem fileWords_range (m : Marker) (range : String) :
    fileWords (if m.complete then "Complete" else range ++ finalSuffix m) =
      fileWords (if m.complete then "" else range) ++ fileWords m.full := by
  cases h : m.complete with
  | true =>
    have hmarker : fileWords "Complete" = fileWords "[Complete]" := by
      rw [fileWords_of_ascii (by decide), fileWords_of_ascii (by decide)]
      decide
    simpa [Marker.full, h, fileWords_empty] using hmarker
  | false =>
    simp only [Bool.false_eq_true, if_false]
    rw [fileWords_append_of_startsApart (startsApart_finalSuffix m), fileWords_finalSuffix h]

/-- The words of several parts of one volume. -/
theorem fileWords_title_volume (series : Series) (v : Volume) (h : 1 < parts.length) :
    fileWords (title series [v] parts m) = fileWords v.title ++
      fileWords (if m.complete then "" else rangeText Part.numberText parts) ++
        fileWords m.full := by
  obtain ⟨first, second, rest, rfl⟩ := exists_of_several h
  rw [List.append_assoc, ← fileWords_range, title, fileWords_append_gaps (by decide),
    fileWords_append_gaps_append (by decide) (by decide)]
  rfl

/-- The words of parts that are not of one volume. -/
theorem fileWords_title_series (series : Series) (h : 1 < parts.length)
    (hvolumes : volumes.length ≠ 1) :
    fileWords (title series volumes parts m) = fileWords series.title ++
      fileWords (volumeSegment volumes) ++ fileWords (rangeText Part.dottedText parts) ++
        fileWords (finalSuffix m) := by
  obtain ⟨first, second, rest, rfl⟩ := exists_of_several h
  have hcolon : (if Text.endsWithPunctuation series.title then "" else ":").toList.all
      Text.isGap = true := by
    split <;> decide
  have htitle : title series volumes (first :: second :: rest) m =
      series.title ++ (if Text.endsWithPunctuation series.title then "" else ":") ++ " " ++
        volumeSegment volumes ++ " [" ++ rangeText Part.dottedText (first :: second :: rest) ++
          finalSuffix m ++ "]" := by
    -- The literal that opens the bracket also starts the range.
    have hparts : " [Parts " = " [" ++ "Parts " := by decide
    rw [title]
    · simp only [hparts, rangeText, Part.dottedText, Part.numberText, String.append_assoc]
    · rintro v rfl
      exact hvolumes rfl
  rw [htitle, fileWords_append_gaps (by decide),
    fileWords_append_of_startsApart (startsApart_finalSuffix m),
    fileWords_append_gaps_append (by decide) (by decide),
    fileWords_append_gaps_append (by decide) (by decide), fileWords_append_gaps hcolon]

end Legacy

end ReleaseNames
