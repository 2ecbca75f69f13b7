import ReleaseNames.Proofs.KeptCharacters

/-!
# Slugs are file names in lower case

A slug takes the words of a folded text, in lower case, and joins them by hyphens. A
file name replaces what stands between the words and trims what stands around them.
Both come to the same row of words, whatever stands at the ends of the text and
however long the gaps are. Such a row is its own slug, since lower-case letters,
digits and hyphens fold to themselves.
-/

namespace ReleaseNames.Text

variable {c : Char} {cs : List Char}

def isSlugChar (c : Char) : Bool :=
  c.isLower || c.isDigit

theorem keeps_of_isSlugChar (h : isSlugChar c = true) : keeps [] c = true := by
  rcases Bool.or_eq_true_iff.mp h with hlower | hdigit
  · have halpha : c.isAlpha = true := Bool.or_eq_true_iff.mpr (.inr hlower)
    simp [keeps, Char.isAlphanum, halpha]
  · simp [keeps, Char.isAlphanum, hdigit]

theorem toNat_of_isUpper (h : c.isUpper = true) : 65 ≤ c.toNat ∧ c.toNat ≤ 90 :=
  of_decide_eq_true h

theorem toLower_of_isSlugChar (h : isSlugChar c = true) : c.toLower = c := by
  have hcode : 97 ≤ c.toNat ∨ c.toNat ≤ 57 := by
    rcases Bool.or_eq_true_iff.mp h with hlower | hdigit
    · exact .inl (of_decide_eq_true (Bool.and_eq_true_iff.mp hlower).1)
    · exact .inr (Lexer.toNat_of_isDigit hdigit).2
  refine dif_neg fun hupper => ?_
  have hcode' := toNat_of_isUpper (decide_eq_true hupper)
  omega

theorem toNat_toLower_of_isUpper (h : c.isUpper = true) : c.toLower.toNat = c.toNat + 32 := by
  have hsum : c.toLower.val = c.val + 32 := congrArg Char.val (dif_pos (of_decide_eq_true h))
  have hcode : c.val.toNat ≤ 90 := (toNat_of_isUpper h).2
  rw [Char.toNat, hsum, UInt32.toNat_add]
  exact Nat.mod_eq_of_lt (Nat.lt_of_le_of_lt (Nat.add_le_add_right hcode 32) (by decide))

theorem isLower_toLower (h : c.isAlpha = true) : c.toLower.isLower = true := by
  rcases Bool.or_eq_true_iff.mp h with hupper | hlower
  · have hcode := toNat_of_isUpper hupper
    have hlower : 97 ≤ c.toLower.toNat ∧ c.toLower.toNat ≤ 122 := by
      rw [toNat_toLower_of_isUpper hupper]
      omega
    exact Bool.and_eq_true_iff.mpr ⟨decide_eq_true hlower.1, decide_eq_true hlower.2⟩
  · rwa [toLower_of_isSlugChar (Bool.or_eq_true_iff.mpr (.inl hlower))]

theorem isSlugChar_toLower (h : c.isAlphanum = true) : isSlugChar c.toLower = true := by
  cases halpha : c.isAlpha with
  | true => simp [isSlugChar, isLower_toLower halpha]
  | false =>
    have hdigit : c.isDigit = true := by simpa [Char.isAlphanum, halpha] using h
    have hself : c.toLower = c := toLower_of_isSlugChar (by simp [isSlugChar, hdigit])
    simp [isSlugChar, hself, hdigit]

theorem map_intercalate_singleton (f : Char → Char) (r : Char) (blocks : List (List Char)) :
    ([r].intercalate blocks).map f = [f r].intercalate (blocks.map (List.map f)) := by
  induction blocks with
  | nil => rfl
  | cons block rest ih =>
    cases rest with
    | nil => simp
    | cons next rest =>
      simp only [List.map_cons, List.intercalate_cons_cons, List.map_append] at ih ⊢
      rw [ih]
      rfl

theorem slug_eq_lower_fileName (cs : List Char) :
    slug cs = (fileName ['-'] [] cs).map Char.toLower := by
  have hrejected : ∀ c ∈ ['-'], keeps [] c = false := by simp [keeps]
  rw [fileName_of_rejected hrejected, map_intercalate_singleton, slug]
  simp [keeps]

/-- The words of a slug. -/
theorem of_mem_lower_pieces {block : List Char}
    (h : block ∈ (pieces (fun c => !c.isAlphanum) cs).map (List.map Char.toLower)) :
    block ≠ [] ∧ ∀ c ∈ block, isSlugChar c = true := by
  obtain ⟨piece, hpiece, rfl⟩ := List.mem_map.mp h
  obtain ⟨hne, hkept⟩ := of_mem_pieces hpiece
  refine ⟨by simpa using hne, fun c hc => ?_⟩
  obtain ⟨d, hd, rfl⟩ := List.mem_map.mp hc
  exact isSlugChar_toLower (by simpa using hkept d hd)

theorem slug_eq_nil_iff : slug cs = [] ↔ ∀ c ∈ stripMarks cs, c.isAlphanum = false := by
  rw [slug, intercalate_eq_nil_iff fun block hblock => (of_mem_lower_pieces hblock).1,
    List.map_eq_nil_iff, pieces_eq_nil_iff]
  simp

theorem slug_eq_nil_or_inBlocks (cs : List Char) :
    slug cs = [] ∨ InBlocks isSlugChar '-' (slug cs) := by
  by_cases hne : slug cs = []
  · exact .inl hne
  · refine .inr ⟨_, ?_, fun block => of_mem_lower_pieces, rfl⟩
    intro hnil
    exact hne (by rw [slug, hnil]; rfl)

/-- A row of words of lower-case letters and digits is its own file name, and has nothing to put in
lower case. -/
theorem slug_of_inBlocks (h : InBlocks isSlugChar '-' cs) : slug cs = cs := by
  obtain ⟨blocks, hne, hblocks, rfl⟩ := h
  have hfile : fileName ['-'] [] (['-'].intercalate blocks) = ['-'].intercalate blocks :=
    fileName_of_inBlocks (by decide) (by simp [keeps]) (by simp) ⟨blocks, hne,
      fun block hblock => (hblocks block hblock).imp_right fun hchars c hc =>
        keeps_of_isSlugChar (hchars c hc), rfl⟩
  rw [slug_eq_lower_fileName, hfile]
  refine (List.map_congr_left fun c hc => ?_).trans (List.map_id _)
  rcases of_mem_intercalate hc with ⟨block, hblock, hmem⟩ | hhyphen
  · exact toLower_of_isSlugChar ((hblocks block hblock).2 c hmem)
  · obtain rfl := List.mem_singleton.mp hhyphen
    rfl

theorem slug_slug (cs : List Char) : slug (slug cs) = slug cs := by
  rcases slug_eq_nil_or_inBlocks cs with hnil | hblocks
  · rw [hnil]
    rfl
  · exact slug_of_inBlocks hblocks

/-- The slug of a text is its file name with hyphens, in lower case. It is empty or a row of words
of lower-case letters and digits, a slug is its own slug, and a text has an empty one exactly if
folding leaves it no ASCII letter or digit. -/
theorem slugs_lower_file_names (cs : List Char) :
    slug cs = (fileName ['-'] [] cs).map Char.toLower ∧
      (slug cs = [] ∨ InBlocks isSlugChar '-' (slug cs)) ∧
      slug (slug cs) = slug cs ∧
      (slug cs = [] ↔ ¬ ∃ c ∈ stripMarks cs, c.isAlphanum = true) := by
  refine ⟨slug_eq_lower_fileName cs, slug_eq_nil_or_inBlocks cs, slug_slug cs, ?_⟩
  simp [slug_eq_nil_iff]

example : onChars slug "-- Café: 2!" = "cafe-2" := by decide +kernel

end ReleaseNames.Text
