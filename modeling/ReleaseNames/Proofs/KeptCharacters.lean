import ReleaseNames.Proofs.RepeatedFileName

/-!
# What a file name keeps of a text

A file name is made of the characters that are kept, in the order in which folding
leaves them. Two of them that stand side by side stay together, and two that have
rejected characters between them get one replacement character. So a name is a row
of blocks of kept characters. If the replacement and the preserved characters are
ASCII then folding does not touch such a row, and the rows are exactly the texts that
are their own file names.

The replacement is a single character that is not kept itself. What longer
replacements do is another matter.
-/

namespace ReleaseNames.Text

variable {r c d : Char} {preserve cs before gap after : List Char}

section Rejected

variable (hr : keeps preserve r = false)

include hr

theorem not_keeps_of_contains {x : Char} (hx : [r].contains x = true) :
    keeps preserve x = false := by
  obtain rfl : x = r := by simpa using hx
  exact hr

theorem fileName_eq_nil_or_inBlocks (cs : List Char) :
    fileName [r] preserve cs = [] ∨ InBlocks (keeps preserve) r (fileName [r] preserve cs) := by
  by_cases hne : fileName [r] preserve cs = []
  · exact .inl hne
  · exact .inr (inBlocks_fileName hr hne)

theorem filter_keeps_replaceRuns (cs : List Char) :
    (replaceRuns (fun x => !keeps preserve x) [r] false cs).filter (keeps preserve) =
      cs.filter (keeps preserve) := by
  have hreject : ∀ c ∈ [r], (!keeps preserve c) = true := by simpa using hr
  simpa using filter_replaceRuns hreject false cs

/-- A file name has the characters that are kept, in order and with none lost. -/
theorem filter_fileName (cs : List Char) :
    (fileName [r] preserve cs).filter (keeps preserve) =
      (stripMarks cs).filter (keeps preserve) := by
  rw [fileName, filter_trimWhere fun x => not_keeps_of_contains hr, filter_keeps_replaceRuns hr]

/-- Two kept characters with nothing kept between them: they stay side by side, or the characters
between them become one replacement. -/
theorem fileName_of_neighbours (hfold : stripMarks cs = before ++ c :: (gap ++ d :: after))
    (hc : keeps preserve c = true) (hd : keeps preserve d = true)
    (hgap : ∀ x ∈ gap, keeps preserve x = false) :
    ∃ us vs, fileName [r] preserve cs =
        us ++ c :: ((if gap = [] then [] else [r]) ++ d :: vs) ∧
      us.filter (keeps preserve) = before.filter (keeps preserve) ∧
      vs.filter (keeps preserve) = after.filter (keeps preserve) := by
  have hstays : ∀ {x}, keeps preserve x = true → [r].contains x = false := fun hx =>
    eq_false_of_ne_true fun hmem => by simp [not_keeps_of_contains hr hmem] at hx
  have hmid : replaceRuns (fun x => !keeps preserve x) [r] false gap =
      if gap = [] then [] else [r] :=
    replaceRuns_of_reject fun x hx => by simp [hgap x hx]
  have hruns : replaceRuns (fun x => !keeps preserve x) [r] false (stripMarks cs) =
      replaceRuns (fun x => !keeps preserve x) [r] false before ++
        c :: ((if gap = [] then [] else [r]) ++
          d :: replaceRuns (fun x => !keeps preserve x) [r] false after) := by
    rw [hfold, replaceRuns_append_cons (by simp [hc]), replaceRuns_append_cons (by simp [hd]),
      hmid]
  refine ⟨(replaceRuns (fun x => !keeps preserve x) [r] false before).dropWhile [r].contains,
    (replaceRuns (fun x => !keeps preserve x) [r] false after).rdropWhile [r].contains, ?_, ?_, ?_⟩
  · rw [fileName, hruns, trimWhere_append_cons (hstays hc) (hstays hd)]
  · rw [filter_dropWhile fun x => not_keeps_of_contains hr, filter_keeps_replaceRuns hr]
  · rw [filter_rdropWhile fun x => not_keeps_of_contains hr, filter_keeps_replaceRuns hr]

end Rejected

theorem toNat_of_keeps (hpreserve : ∀ c ∈ preserve, c.toNat < 0x80)
    (h : keeps preserve c = true) : c.toNat < 0x80 := by
  rcases Bool.or_eq_true_iff.mp h with halphanum | hmem
  · exact toNat_of_isAlphanum halphanum
  · exact hpreserve c (by simpa using hmem)

/-- A row of blocks of ASCII characters is its own file name. -/
theorem fileName_of_inBlocks (hascii : r.toNat < 0x80) (hr : keeps preserve r = false)
    (hpreserve : ∀ c ∈ preserve, c.toNat < 0x80) (h : InBlocks (keeps preserve) r cs) :
    fileName [r] preserve cs = cs := by
  obtain ⟨blocks, -, hblocks, rfl⟩ := h
  have hfold : stripMarks ([r].intercalate blocks) = [r].intercalate blocks := by
    refine stripMarks_of_ascii fun c hc => ?_
    rcases of_mem_intercalate hc with ⟨block, hblock, hmem⟩ | hsep
    · exact toNat_of_keeps hpreserve ((hblocks block hblock).2 c hmem)
    · obtain rfl := List.mem_singleton.mp hsep
      exact hascii
  have hrejected : ∀ c ∈ [r], keeps preserve c = false := by simpa using hr
  rw [fileName_of_rejected hrejected, hfold,
    pieces_intercalate (List.cons_ne_nil r []) (by simpa using hr)]
  simpa using hblocks

/-- The file name of a text is empty or a row of blocks of kept characters with one replacement
between any two. It has the kept characters of the folded text in order, side by side where they
were side by side. The texts that are their own file names are the rows and the empty text. -/
theorem file_name_keeps (r : Char) (preserve : List Char) (hascii : r.toNat < 0x80)
    (hother : r.isAlphanum = false) (hpreserve : ∀ c ∈ preserve, c.toNat < 0x80)
    (hfree : r ∉ preserve) :
    (∀ cs,
      (fileName [r] preserve cs = [] ∨
        InBlocks (keeps preserve) r (fileName [r] preserve cs)) ∧
      (fileName [r] preserve cs).filter (keeps preserve) =
        (stripMarks cs).filter (keeps preserve) ∧
      ∀ before c gap d after, stripMarks cs = before ++ c :: (gap ++ d :: after) →
        keeps preserve c = true → keeps preserve d = true →
          (∀ x ∈ gap, keeps preserve x = false) →
            ∃ us vs, fileName [r] preserve cs =
                us ++ c :: ((if gap = [] then [] else [r]) ++ d :: vs) ∧
              us.filter (keeps preserve) = before.filter (keeps preserve) ∧
              vs.filter (keeps preserve) = after.filter (keeps preserve)) ∧
    ∀ cs, fileName [r] preserve cs = cs ↔ cs = [] ∨ InBlocks (keeps preserve) r cs := by
  have hr : keeps preserve r = false := by simp [keeps, hother, hfree]
  refine ⟨fun cs => ⟨fileName_eq_nil_or_inBlocks hr cs, filter_fileName hr cs, ?_⟩, fun cs => ?_⟩
  · exact fun before c gap d after => fileName_of_neighbours hr
  · constructor
    · intro hself
      have hshape := fileName_eq_nil_or_inBlocks hr cs
      rwa [hself] at hshape
    · rintro (rfl | hblocks)
      · rfl
      · exact fileName_of_inBlocks hascii hr hpreserve hblocks

/-- The accent is folded away, the colon and the blank after it become one replacement, the
preserved hyphens stay side by side, and the name that comes out is its own. -/
theorem file_name_keeps_preserved :
    '_'.toNat < 0x80 ∧ '_'.isAlphanum = false ∧ (∀ c ∈ ['-', '.'], c.toNat < 0x80) ∧
      '_' ∉ ['-', '.'] ∧
      stripMarks "Café: 1--2!".toList =
        "Caf".toList ++ 'e' :: (": ".toList ++ '1' :: "--2!".toList) ∧
      fileName ['_'] ['-', '.'] "Café: 1--2!".toList = "Cafe_1--2".toList ∧
      (∃ us vs, "Cafe_1--2".toList = us ++ 'e' :: (['_'] ++ '1' :: vs) ∧
        us.filter (keeps ['-', '.']) = "Caf".toList ∧
        vs.filter (keeps ['-', '.']) = "--2".toList) ∧
      InBlocks (keeps ['-', '.']) '_' "Cafe_1--2".toList ∧
      fileName ['_'] ['-', '.'] "Cafe_1--2".toList = "Cafe_1--2".toList := by
  have hascii : '_'.toNat < 0x80 := by decide
  have hother : '_'.isAlphanum = false := by decide
  have hpreserve : ∀ c ∈ ['-', '.'], c.toNat < 0x80 := by simp
  have hfree : '_' ∉ ['-', '.'] := by decide
  have hfold : stripMarks "Café: 1--2!".toList =
      "Caf".toList ++ 'e' :: (": ".toList ++ '1' :: "--2!".toList) := by decide +kernel
  have hname : fileName ['_'] ['-', '.'] "Café: 1--2!".toList = "Cafe_1--2".toList := by
    decide +kernel
  have hgap : (": ".toList.all fun c => !keeps ['-', '.'] c) = true := by decide +kernel
  obtain ⟨hall, hself⟩ := file_name_keeps '_' ['-', '.'] hascii hother hpreserve hfree
  obtain ⟨hshape, -, hbetween⟩ := hall "Café: 1--2!".toList
  rw [hname] at hshape
  have hblocks := hshape.resolve_left (by decide)
  obtain ⟨us, vs, hsplit, hus, hvs⟩ := hbetween "Caf".toList 'e' ": ".toList '1' "--2!".toList hfold
    (by decide +kernel) (by decide +kernel) fun c hc => by simpa using List.all_eq_true.mp hgap c hc
  refine ⟨hascii, hother, hpreserve, hfree, hfold, hname, ⟨us, vs, ?_, ?_, ?_⟩, hblocks,
    (hself _).mpr (.inr hblocks)⟩
  · rw [← hname, hsplit]
    rfl
  · rw [hus]
    decide +kernel
  · rw [hvs]
    decide +kernel

end ReleaseNames.Text
