import ReleaseNames.Proofs.FileWords
import ReleaseNames.Proofs.FolderName

/-!
# When the default names are empty

The default program fails only by an empty name, and which name is empty can be read
off the characters of the legacy title and of the series title. A file name needs an
ASCII letter or digit, a folder name any character that is neither rejected nor an
underscore. A title of several parts names their range or says that it is complete,
so it has letters whatever the titles are, and then only the folder can be nameless.
-/

namespace ReleaseNames

open Text (fileWords)

variable {r : Request}

namespace Legacy

variable {series : Series} {volumes : List Volume} {parts : List Part} {m : Marker}

theorem filename_eq_empty_iff : filename series volumes parts m = "" ↔
    ∀ c ∈ Text.stripMarks (title series volumes parts m).toList, c.isAlphanum = false := by
  rw [filename, Text.fileName_eq_empty_iff, Text.fileWords_eq_nil_iff]

theorem folder_eq_empty_iff : folder series = "" ↔
    ∀ c ∈ Text.stripMarks series.title.toList, c = '_' ∨ c ∈ Text.folderRejected := by
  rw [folder, Text.onChars, String.ofList_eq_empty_iff, Text.folderName_eq_nil_iff]

theorem filename_ne_empty_iff : filename series volumes parts m ≠ "" ↔
    ∃ c ∈ Text.stripMarks (title series volumes parts m).toList, c.isAlphanum = true := by
  simp [filename_eq_empty_iff]

theorem folder_ne_empty_iff : folder series ≠ "" ↔
    ∃ c ∈ Text.stripMarks series.title.toList, c ≠ '_' ∧ c ∉ Text.folderRejected := by
  simp [folder_eq_empty_iff]

/-- A title of several parts names their range or says that it is complete. -/
theorem fileWords_title_ne_nil (h : 1 < parts.length) :
    fileWords (title series volumes parts m) ≠ [] := by
  have hparts : fileWords "Parts " ≠ [] := by
    rw [Text.fileWords_of_ascii (by decide)]
    decide
  have hcomplete : fileWords "[Complete]" ≠ [] := by
    rw [Text.fileWords_of_ascii (by decide)]
    decide
  have hrange : ∀ f, fileWords (rangeText f parts) ≠ [] := by
    intro f
    obtain ⟨first, second, rest, rfl⟩ := exists_of_several h
    rw [rangeText, String.append_assoc, String.append_assoc,
      Text.fileWords_append_of_endsApart (by decide)]
    simp [hparts]
  by_cases hone : volumes.length = 1
  · obtain ⟨v, rfl⟩ := List.length_eq_one_iff.mp hone
    rw [fileWords_title_volume series v h]
    cases hm : m.complete with
    | true => simp [Marker.full, hm, hcomplete]
    | false => simp [hrange]
  · rw [fileWords_title_series series h hone]
    simp [hrange]

theorem title_ne_empty (h : 1 < parts.length) : title series volumes parts m ≠ "" := by
  intro hempty
  have hwords : fileWords (title series volumes parts m) ≠ [] := fileWords_title_ne_nil h
  rw [hempty, Text.fileWords_empty] at hwords
  exact hwords rfl

theorem filename_ne_empty (h : 1 < parts.length) : filename series volumes parts m ≠ "" := by
  intro hempty
  exact fileWords_title_ne_nil h (Text.fileName_eq_empty_iff.mp hempty)

end Legacy

/-- The default program fails exactly at its first empty name. -/
theorem Generator.generate_default_iff (hr : r.Valid) :
    let names := r.legacyNames r.spanned
    let outcome := Generator.default.generate r
    (outcome = .error (.emptyName .title) ↔ names.title = "") ∧
    (outcome = .error (.emptyName .filename) ↔ names.title ≠ "" ∧ names.filename = "") ∧
    (outcome = .error (.emptyName .folder) ↔
      names.title ≠ "" ∧ names.filename ≠ "" ∧ names.folder = "") ∧
    (outcome = .ok names ↔ names.title ≠ "" ∧ names.filename ≠ "" ∧ names.folder ≠ "") := by
  simp only [generate_default_eq hr]
  by_cases htitle : (r.legacyNames r.spanned).title = ""
  · simp [htitle]
  by_cases hfilename : (r.legacyNames r.spanned).filename = ""
  · simp [htitle, hfilename]
  by_cases hfolder : (r.legacyNames r.spanned).folder = ""
  · simp [htitle, hfilename, hfolder]
  · simp [htitle, hfilename, hfolder]

/-- Why the default program fails for a valid request, and when it does not. -/
theorem default_fails_iff (hr : r.Valid) :
    let name := Legacy.title r.series r.spanned r.parts r.marker
    let outcome := Generator.default.generate r
    (outcome = .error (.emptyName .title) ↔ name = "") ∧
    (outcome = .error (.emptyName .filename) ↔
      name ≠ "" ∧ ∀ c ∈ Text.stripMarks name.toList, c.isAlphanum = false) ∧
    (outcome = .error (.emptyName .folder) ↔
      name ≠ "" ∧ (∃ c ∈ Text.stripMarks name.toList, c.isAlphanum = true) ∧
        ∀ c ∈ Text.stripMarks r.series.title.toList, c = '_' ∨ c ∈ Text.folderRejected) ∧
    (outcome = .ok (r.legacyNames r.spanned) ↔
      name ≠ "" ∧ (∃ c ∈ Text.stripMarks name.toList, c.isAlphanum = true) ∧
        ∃ c ∈ Text.stripMarks r.series.title.toList, c ≠ '_' ∧ c ∉ Text.folderRejected) ∧
    (1 < r.parts.length → name ≠ "" ∧
      (∃ c ∈ Text.stripMarks name.toList, c.isAlphanum = true) ∧
        ∀ e, outcome = .error e → e = .emptyName .folder) := by
  intro name outcome
  obtain ⟨htitle, hfilename, hfolder, hnames⟩ := Generator.generate_default_iff hr
  refine ⟨htitle, ?_, ?_, ?_, fun hparts => ⟨Legacy.title_ne_empty hparts, ?_, fun e he => ?_⟩⟩
  · exact hfilename.trans (and_congr_right fun _ => Legacy.filename_eq_empty_iff)
  · exact hfolder.trans (and_congr_right fun _ =>
      and_congr Legacy.filename_ne_empty_iff Legacy.folder_eq_empty_iff)
  · exact hnames.trans (and_congr_right fun _ =>
      and_congr Legacy.filename_ne_empty_iff Legacy.folder_ne_empty_iff)
  · exact Legacy.filename_ne_empty_iff.mp (Legacy.filename_ne_empty hparts)
  · by_cases hempty : (r.legacyNames r.spanned).folder = ""
    · have hfails := hfolder.mpr
        ⟨Legacy.title_ne_empty hparts, Legacy.filename_ne_empty hparts, hempty⟩
      exact Except.error.inj (he.symm.trans hfails)
    · have hnamed := hnames.mpr
        ⟨Legacy.title_ne_empty hparts, Legacy.filename_ne_empty hparts, hempty⟩
      cases he.symm.trans hnamed

/-- A title without a Latin letter, and several parts of a series that no folder can be named
after. -/
theorem default_fails_iff_symbols :
    let part : Request := ⟨⟨"S", none, none⟩, [⟨1, "V"⟩], [⟨1, 1, "…日本"⟩], ⟨false, false⟩⟩
    let parts : Request := ⟨⟨"?_?", none, none⟩, [⟨1, "日本"⟩], [⟨1, 1, "x"⟩, ⟨1, 2, "y"⟩],
      ⟨false, false⟩⟩
    part.Valid ∧ Generator.default.generate part = .error (.emptyName .filename) ∧
      parts.Valid ∧ 1 < parts.parts.length ∧
        Generator.default.generate parts = .error (.emptyName .folder) := by
  intro part parts
  have hpart : part.Valid := by decide
  have hparts : parts.Valid := by decide
  have hseveral : 1 < parts.parts.length := by decide
  have hname : Legacy.title part.series part.spanned part.parts part.marker = "…日本" := rfl
  have hnone : (Text.stripMarks "…日本".toList).all (fun c => !c.isAlphanum) = true := by
    decide +kernel
  have hrejected : (Text.stripMarks "?_?".toList).all
      (fun c => c == '_' || Text.folderRejected.contains c) = true := by
    decide +kernel
  obtain ⟨-, hfilename, -⟩ := default_fails_iff hpart
  obtain ⟨-, -, hfolder, -, hnamed⟩ := default_fails_iff hparts
  obtain ⟨htitle, hword, -⟩ := hnamed hseveral
  rw [hname] at hfilename
  refine ⟨hpart, hfilename.mpr ⟨by decide, fun c hc => ?_⟩, hparts, hseveral,
    hfolder.mpr ⟨htitle, hword, fun c hc => ?_⟩⟩
  · simpa using List.all_eq_true.mp hnone c hc
  · simpa using List.all_eq_true.mp hrejected c hc

end ReleaseNames
