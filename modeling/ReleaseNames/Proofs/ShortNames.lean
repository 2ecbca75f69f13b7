import ReleaseNames.Proofs.Pieces
import ReleaseNames.Proofs.Reach

/-!
# Shortening a series name in several steps

A series name can be cut to its first words, to the initials of its words or to its
first characters. The rules read a name as words and write it as words with a single
space between them, so what one rule has written the next one reads back unchanged,
and two cuts are one cut at the smaller count. Counts are signed: a number of
characters is at least zero and a number of words at least one.
-/

namespace ReleaseNames

variable {ctx : Context} {name : String} {volumes parts : List Nat} {notes : Notes}

/-- The rules that shorten a series name by counting. -/
def Rule.shortening : List Rule := [.ssAcronym, .ssFirst, .ssMaxLen]

namespace Text

variable {c : Char} {cs : List Char} {ws : List (List Char)}

/-- A word has characters, and none of them is white space. -/
def IsWord (word : List Char) : Prop :=
  word ≠ [] ∧ ∀ c ∈ word, isBlank c = false

theorem isWord_of_mem_words {word : List Char} (h : word ∈ words cs) : IsWord word :=
  of_mem_pieces h

/-- Words that are written with spaces between them are read back. -/
theorem words_unwords (h : ∀ word ∈ ws, IsWord word) : words (unwords ws) = ws := by
  have hspace : ∀ c ∈ [' '], isBlank c = true := List.forall_mem_singleton.mpr rfl
  exact pieces_intercalate (List.cons_ne_nil ' ' []) hspace h

theorem stripPunctuation_eq_self (h : ∀ c ∈ cs, isPunctuation c = false) :
    stripPunctuation cs = cs :=
  List.filter_eq_self.mpr fun c hc => by simp [h c hc]

end Text

namespace SeriesName

variable {ws : List (List Char)}

def countedWords (name : List Char) : List (List Char) :=
  Text.words (Text.stripPunctuation name)

theorem stripPunctuation_firstWords (count : Nat) (name : List Char) :
    Text.stripPunctuation (firstWords count name) = firstWords count name := by
  refine Text.stripPunctuation_eq_self fun c hc => ?_
  rcases Text.of_mem_intercalate hc with ⟨word, hword, hmem⟩ | hspace
  · have hkept := Text.mem_of_mem_pieces (List.mem_of_mem_take hword) hmem
    simpa using (List.mem_filter.mp hkept).2
  · obtain rfl := List.mem_singleton.mp hspace
    decide

/-- The first words are read back as they were written. -/
theorem countedWords_firstWords (count : Nat) (name : List Char) :
    countedWords (firstWords count name) = (countedWords name).take count := by
  rw [countedWords, stripPunctuation_firstWords]
  exact Text.words_unwords fun word hword =>
    Text.isWord_of_mem_words (List.mem_of_mem_take hword)

theorem firstWords_firstWords (a b : Nat) (name : List Char) :
    firstWords b (firstWords a name) = firstWords (min a b) name := by
  rw [firstWords, ← countedWords, countedWords_firstWords, List.take_take, Nat.min_comm]
  rfl

theorem filterMap_head?_take (h : ∀ word ∈ ws, Text.IsWord word) (count : Nat) :
    (ws.take count).filterMap List.head? = (ws.filterMap List.head?).take count := by
  induction ws generalizing count with
  | nil => simp
  | cons word ws ih =>
    obtain ⟨hword, hws⟩ := List.forall_mem_cons.mp h
    obtain ⟨c, rest, rfl⟩ := List.exists_cons_of_ne_nil hword.1
    cases count with
    | zero => rfl
    | succ count => simp [ih hws]

/-- Every word has an initial, so the initials of the first words are the first initials. -/
theorem acronym_firstWords (count : Nat) (name : List Char) :
    acronym (firstWords count name) = (acronym name).take count := by
  rw [acronym, ← countedWords, countedWords_firstWords]
  exact filterMap_head?_take (fun word => Text.isWord_of_mem_words) count

end SeriesName

namespace Call

def cutCharacters (n : Int64) : Call := ⟨.ssMaxLen, [.int n]⟩

def cutWords (n : Int64) : Call := ⟨.ssFirst, [.int n]⟩

theorem toNat_toInt_max (a b : Int64) :
    (max a b).toInt.toNat = max a.toInt.toNat b.toInt.toNat := by
  have hmax : max a b = if a ≤ b then b else a := rfl
  rw [hmax]
  split <;> rename_i h <;> rw [Int64.le_iff_toInt_le] at h <;> omega

theorem toNat_toInt_min (a b : Int64) :
    (min a b).toInt.toNat = min a.toInt.toNat b.toInt.toNat := by
  have hmin : min a b = if a ≤ b then a else b := rfl
  rw [hmin]
  split <;> rename_i h <;> rw [Int64.le_iff_toInt_le] at h <;> omega

@[simp] theorem apply_cutCharacters (n : Int64) :
    (cutCharacters n).apply ctx (.seriesString name volumes parts notes) =
      .ok (.seriesString (Text.onChars (List.take n.toInt.toNat) name) volumes parts notes) :=
  rfl

@[simp] theorem apply_cutWords (n : Int64) :
    (cutWords n).apply ctx (.seriesString name volumes parts notes) =
      .ok (.seriesString (Text.onChars (SeriesName.firstWords (max n.toInt.toNat 1)) name)
        volumes parts notes) :=
  rfl

@[simp] theorem apply_acronym :
    (ofRule .ssAcronym).apply ctx (.seriesString name volumes parts notes) =
      .ok (.seriesString (Text.onChars SeriesName.acronym name) volumes parts notes) :=
  rfl

/-- One step: a rule that shortens a name changes nothing but the name. -/
theorem exists_apply_shortening {call : Call} (h : call.rule ∈ Rule.shortening) :
    ∃ shorter, call.apply ctx (.seriesString name volumes parts notes) =
      .ok (.seriesString shorter volumes parts notes) := by
  obtain ⟨rule, args⟩ := call
  simp only [Rule.shortening, List.mem_cons, List.not_mem_nil, or_false] at h
  rcases h with rfl | rfl | rfl <;> exact ⟨_, rfl⟩

end Call

namespace Pipeline

theorem exists_applyAll_shortening {calls : List Call}
    (h : ∀ call ∈ calls, call.rule ∈ Rule.shortening) :
    ∃ shorter, applyAll ctx calls (.seriesString name volumes parts notes) =
      .ok (.seriesString shorter volumes parts notes) := by
  induction calls generalizing name with
  | nil => exact ⟨name, rfl⟩
  | cons call calls ih =>
    obtain ⟨hcall, hcalls⟩ := List.forall_mem_cons.mp h
    obtain ⟨next, hnext⟩ := Call.exists_apply_shortening hcall
    rw [applyAll_cons hnext]
    exact ih hcalls

theorem applyAll_cutCharacters_twice (a b : Int64) :
    applyAll ctx [.cutCharacters a, .cutCharacters b] (.seriesString name volumes parts notes) =
      applyAll ctx [.cutCharacters (min (max a 0) (max b 0))]
        (.seriesString name volumes parts notes) := by
  have hcount : (min (max a 0) (max b 0)).toInt.toNat = min b.toInt.toNat a.toInt.toNat := by
    simp only [Call.toNat_toInt_min, Call.toNat_toInt_max, Int64.toInt_zero, Int.toNat_zero]
    omega
  simp only [applyAll, Call.apply_cutCharacters, Text.onChars_onChars, List.take_take, hcount]

theorem applyAll_cutWords_twice (a b : Int64) :
    applyAll ctx [.cutWords a, .cutWords b] (.seriesString name volumes parts notes) =
      applyAll ctx [.cutWords (min (max a 1) (max b 1))]
        (.seriesString name volumes parts notes) := by
  have hcount : max (min (max a 1) (max b 1)).toInt.toNat 1 =
      min (max a.toInt.toNat 1) (max b.toInt.toNat 1) := by
    simp only [Call.toNat_toInt_min, Call.toNat_toInt_max, Int64.toInt_one, Int.toNat_one]
    omega
  simp only [applyAll, Call.apply_cutWords, Text.onChars_onChars, SeriesName.firstWords_firstWords,
    hcount]

theorem applyAll_cutWords_acronym (a : Int64) :
    applyAll ctx [.cutWords a, .ofRule .ssAcronym] (.seriesString name volumes parts notes) =
      applyAll ctx [.ofRule .ssAcronym, .cutCharacters (max a 1)]
        (.seriesString name volumes parts notes) := by
  have hcount : (max a 1).toInt.toNat = max a.toInt.toNat 1 := by
    simp only [Call.toNat_toInt_max, Int64.toInt_one, Int.toNat_one]
  simp only [applyAll, Call.apply_cutWords, Call.apply_acronym, Call.apply_cutCharacters,
    Text.onChars_onChars, SeriesName.acronym_firstWords, hcount]

end Pipeline

/-- Two cuts to a number of characters, or of words, are one cut to the smaller number. The acronym
of the first words is the start of the acronym. Shortening a name always succeeds and changes
nothing else of the value. -/
theorem short_names_compose (ctx : Context) (name : String) (volumes parts : List Nat)
    (notes : Notes) (a b : Int64) :
    let v := Value.seriesString name volumes parts notes
    Pipeline.applyAll ctx [.cutCharacters a, .cutCharacters b] v =
        Pipeline.applyAll ctx [.cutCharacters (min (max a 0) (max b 0))] v ∧
      Pipeline.applyAll ctx [.cutWords a, .cutWords b] v =
        Pipeline.applyAll ctx [.cutWords (min (max a 1) (max b 1))] v ∧
      Pipeline.applyAll ctx [.cutWords a, .ofRule .ssAcronym] v =
        Pipeline.applyAll ctx [.ofRule .ssAcronym, .cutCharacters (max a 1)] v ∧
      ∀ calls : List Call, (∀ call ∈ calls, call.rule ∈ Rule.shortening) →
        ∃ shorter, Pipeline.applyAll ctx calls v =
          .ok (.seriesString shorter volumes parts notes) := by
  exact ⟨Pipeline.applyAll_cutCharacters_twice a b, Pipeline.applyAll_cutWords_twice a b,
    Pipeline.applyAll_cutWords_acronym a, fun calls => Pipeline.exists_applyAll_shortening⟩

/-- A negative number of words counts as one and a negative number of characters as none. The comma
is no part of a word, and the line break between two words becomes a space. -/
theorem short_names_compose_clamped :
    let ctx : Context := ⟨⟨⟨"S", none, none⟩, [⟨1, "S 1"⟩], [⟨1, 3, "P"⟩], ⟨true, false⟩⟩, .title⟩
    let notes := Notes.ofMarker ⟨true, false⟩
    let v : Value := .seriesString "Spice, and\nWolf" [0] [0] notes
    Pipeline.applyAll ctx [.cutWords 2, .cutWords (-7)] v =
        .ok (.seriesString "Spice" [0] [0] notes) ∧
      Pipeline.applyAll ctx [.ofRule .ssAcronym, .cutCharacters (max (-7) 1)] v =
        .ok (.seriesString "S" [0] [0] notes) ∧
      (∀ call ∈ [Call.cutWords 2, .cutCharacters (-7)], call.rule ∈ Rule.shortening) ∧
      ∃ shorter, Pipeline.applyAll ctx [.cutWords 2, .cutCharacters (-7)] v =
        .ok (.seriesString shorter [0] [0] notes) := by
  intro ctx notes v
  have hrules : ∀ call ∈ [Call.cutWords 2, .cutCharacters (-7)], call.rule ∈ Rule.shortening := by
    decide
  obtain ⟨-, hwords, -, hshorter⟩ :=
    short_names_compose ctx "Spice, and\nWolf" [0] [0] notes 2 (-7)
  obtain ⟨-, -, hinitials, -⟩ := short_names_compose ctx "Spice, and\nWolf" [0] [0] notes (-7) 2
  refine ⟨hwords.trans ?_, hinitials.symm.trans ?_, hrules, hshorter _ hrules⟩
  · exact Outcome.eq_ok_of_toOption (by decide +kernel)
  · exact Outcome.eq_ok_of_toOption (by decide +kernel)

end ReleaseNames
