import ReleaseNames.FileSystem
import ReleaseNames.Proofs.SafeFileName

/-!
# Folder names as path components

A folder name is what lies between the rejected characters and underscores at the
two ends of a folded text, with every rejected run inside replaced. So it holds no
rejected character, no underscore stands at its ends, and if there is no underscore
in it at all then it is what lay there, unchanged.

Dots are not rejected. A title that is one or two dots up to rejected characters and
underscores at its ends is named after the directory it is in, or the one above it;
every other name that is not empty names a directory below.
-/

namespace ReleaseNames

namespace FilePath

/-- A name that leads from any place one level down, to a directory of that name. -/
def NamesSubdirectory (name : FilePath) : Prop :=
  ∀ place, (names name).foldl step place = place ++ [name]

theorem step_of_ne {name : String} (hempty : name ≠ "") (hdot : name ≠ ".") (hdots : name ≠ "..")
    (place : List String) : step place name = place ++ [name] := by
  unfold step
  split
  · exact absurd rfl hempty
  · exact absurd rfl hdot
  · exact absurd rfl hdots
  · rfl

theorem mem_of_mem_step {place : List String} {name x : String} (h : x ∈ step place name) :
    x ∈ place ∨ x = name := by
  unfold step at h
  split at h
  · exact .inl h
  · exact .inl h
  · exact .inl (List.dropLast_subset place h)
  · simpa using h

/-- Following names leads to a place made of the names and of where the way started. -/
theorem mem_of_mem_foldl_step {names place : List String} {x : String}
    (h : x ∈ names.foldl step place) : x ∈ place ∨ x ∈ names := by
  induction names generalizing place with
  | nil => exact .inl h
  | cons name names ih =>
    rcases ih h with hstep | hrest
    · refine (mem_of_mem_step hstep).imp_right ?_
      rintro rfl
      exact List.mem_cons_self
    · exact .inr (List.mem_cons_of_mem name hrest)

theorem names_of_not_mem {name : FilePath} (h : '/' ∉ name.toList) : names name = [name] := by
  rw [names, List.splitOn_eq_singleton h]
  simp

theorem not_mem_of_mem_names {name : FilePath} {x : String} (h : x ∈ names name) :
    '/' ∉ x.toList := by
  obtain ⟨piece, hpiece, rfl⟩ := List.mem_map.mp h
  intro hslash
  have hfree := Text.not_mem_of_mem_splitOnP hpiece '/' (by simpa using hslash)
  simp at hfree

theorem namesSubdirectory_iff {name : FilePath} :
    NamesSubdirectory name ↔ '/' ∉ name.toList ∧ name ≠ "" ∧ name ≠ "." ∧ name ≠ ".." := by
  constructor
  · intro h
    have hmem : name ∈ (names name).foldl step [] := by simp [h []]
    have hslash : '/' ∉ name.toList :=
      not_mem_of_mem_names ((mem_of_mem_foldl_step hmem).resolve_left List.not_mem_nil)
    have hroot := h []
    rw [names_of_not_mem hslash] at hroot
    refine ⟨hslash, ?_, ?_, ?_⟩ <;> rintro rfl <;> exact absurd hroot (by decide)
  · rintro ⟨hslash, hempty, hdot, hdots⟩ place
    rw [names_of_not_mem hslash]
    exact step_of_ne hempty hdot hdots place

end FilePath

namespace Text

variable {p : Char → Bool} {r : Char} {cs ds : List Char}

theorem dropWhile_replaceRuns_singleton (inRun : Bool) (cs : List Char) :
    (replaceRuns p [r] inRun cs).dropWhile (fun c => c == r) =
      replaceRuns p [r] false (cs.dropWhile fun c => c == r || p c) := by
  induction cs generalizing inRun with
  | nil => rfl
  | cons c cs ih =>
    rw [replaceRuns_cons]
    by_cases hc : p c = true
    · rw [if_pos hc, List.dropWhile_cons_of_pos (by simp [hc])]
      split
      · exact ih true
      · rw [List.singleton_append, List.dropWhile_cons_of_pos (by simp)]
        exact ih true
    · rw [if_neg hc]
      by_cases hr : c = r
      · rw [List.dropWhile_cons_of_pos (by simp [hr]), List.dropWhile_cons_of_pos (by simp [hr])]
        exact ih false
      · rw [List.dropWhile_cons_of_neg (by simp [hr]),
          List.dropWhile_cons_of_neg (by simp [hr, hc]), replaceRuns_cons, if_neg hc]

/-- A rejected character at the end is dropped or replaced. -/
theorem replaceRuns_concat_of_reject {c : Char} (hc : p c = true) (replacement : List Char)
    (inRun : Bool) (cs : List Char) :
    replaceRuns p replacement inRun (cs ++ [c]) = replaceRuns p replacement inRun cs ∨
      replaceRuns p replacement inRun (cs ++ [c]) =
        replaceRuns p replacement inRun cs ++ replacement := by
  induction cs generalizing inRun with
  | nil => cases inRun <;> simp [replaceRuns_nil, replaceRuns_cons, hc]
  | cons d cs ih =>
    rw [List.cons_append, replaceRuns_cons, replaceRuns_cons]
    split
    · split
      · exact ih true
      · exact (ih true).imp (fun h => by rw [h]) fun h => by rw [h, List.append_assoc]
    · exact (ih false).imp (fun h => by rw [h]) fun h => by rw [h, List.cons_append]

theorem rdropWhile_replaceRuns_singleton (inRun : Bool) (cs : List Char) :
    (replaceRuns p [r] inRun cs).rdropWhile (fun c => c == r) =
      replaceRuns p [r] inRun (cs.rdropWhile fun c => c == r || p c) := by
  induction cs using List.reverseRecOn with
  | nil => rfl
  | append_singleton cs c ih =>
    by_cases hc : p c = true
    · rw [List.rdropWhile_concat_pos _ _ _ (by simp [hc])]
      rcases replaceRuns_concat_of_reject hc [r] inRun cs with h | h
      · rw [h, ih]
      · rw [h, List.rdropWhile_concat_pos _ _ _ (by simp), ih]
    · rw [replaceRuns_append_cons (eq_false_of_ne_true hc), replaceRuns_nil]
      by_cases hr : c = r
      · rw [List.rdropWhile_concat_pos _ _ _ (by simp [hr]),
          List.rdropWhile_concat_pos _ _ _ (by simp [hr]), ih]
      · rw [List.rdropWhile_concat_neg _ _ _ (by simp [hr]),
          List.rdropWhile_concat_neg _ _ _ (by simp [hr, hc]),
          replaceRuns_append_cons (eq_false_of_ne_true hc), replaceRuns]

/-- Trimming the replacement after replacing is trimming what is rejected too before replacing. -/
theorem trimWhere_replaceRuns_singleton (cs : List Char) :
    trimWhere (fun c => c == r) (replaceRuns p [r] false cs) =
      replaceRuns p [r] false (trimWhere (fun c => c == r || p c) cs) := by
  rw [trimWhere_eq_rdropWhile, dropWhile_replaceRuns_singleton, rdropWhile_replaceRuns_singleton]
  rfl

/-- A text without the replacement is what comes out only if nothing was replaced. -/
theorem eq_of_replaceRuns_eq (h : replaceRuns p [r] false cs = ds) (hr : r ∉ ds) : cs = ds := by
  induction cs generalizing ds with
  | nil => exact h
  | cons c cs ih =>
    rw [replaceRuns_cons] at h
    split at h
    · rw [← h] at hr
      simp at hr
    · subst h
      exact congrArg (c :: ·) (ih rfl fun hmem => hr (List.mem_cons_of_mem c hmem))

/-- A folded text without the rejected characters and underscores at its ends. -/
def bare (cs : List Char) : List Char :=
  trimWhere (fun c => c == '_' || folderRejected.contains c) (stripMarks cs)

theorem folderName_eq (cs : List Char) :
    folderName cs = replaceRuns (fun c => folderRejected.contains c) ['_'] false (bare cs) :=
  trimWhere_replaceRuns_singleton (stripMarks cs)

theorem folderName_eq_iff (hr : '_' ∉ ds) (hkept : ∀ c ∈ ds, c ∉ folderRejected) :
    folderName cs = ds ↔ bare cs = ds := by
  rw [folderName_eq]
  constructor
  · exact fun h => eq_of_replaceRuns_eq h hr
  · rintro rfl
    exact replaceRuns_of_keep (fun c hc => by simpa using hkept c hc) false

theorem not_mem_of_mem_folderName {c : Char} (h : c ∈ folderName cs) : c ∉ folderRejected := by
  rcases of_mem_replaceRuns (mem_of_mem_trimWhere h) with ⟨-, hkept⟩ | hreplacement
  · simpa using hkept
  · obtain rfl := List.mem_singleton.mp hreplacement
    decide

theorem head?_folderName_ne (cs : List Char) : (folderName cs).head? ≠ some '_' :=
  fun h => absurd (head?_trimWhere h) (by decide)

theorem getLast?_folderName_ne (cs : List Char) : (folderName cs).getLast? ≠ some '_' :=
  fun h => absurd (getLast?_trimWhere h) (by decide)

theorem folderName_eq_dot_iff : folderName cs = ['.'] ↔ bare cs = ['.'] :=
  folderName_eq_iff (by decide) (by simp [folderRejected])

theorem folderName_eq_dots_iff : folderName cs = ['.', '.'] ↔ bare cs = ['.', '.'] :=
  folderName_eq_iff (by decide) (by simp [folderRejected])

theorem folderName_eq_nil_iff :
    folderName cs = [] ↔ ∀ c ∈ stripMarks cs, c = '_' ∨ c ∈ folderRejected := by
  rw [folderName_eq_iff List.not_mem_nil (by simp), bare, trimWhere_eq_nil_iff]
  simp

end Text

/-- Without a section and an override of its own the folder is named after the series. -/
theorem Generator.folder_of_generate {p : Program} {o : Overrides} {r : Request} {names : Names}
    (hr : r.Valid) (hpipeline : p.pipeline .folder = .default .folder)
    (ho : o.get? .folder = none) (h : Generator.generate ⟨p, o⟩ r = .ok names) :
    names.folder = Legacy.folder r.series ∧ names.folder ≠ "" := by
  have hresults := (generate_eq_ok_iff hr).mp h
  have htitle : Generator.result ⟨p, o⟩ r .title = .ok names.title := hresults .title
  have hname : Generator.result ⟨p, o⟩ r .folder = .ok names.folder := hresults .folder
  rw [result_of_title (by decide) htitle, name_of_no_override ho, hpipeline,
    Pipeline.run_default_folder hr] at hname
  obtain ⟨hne, marker, htext⟩ := Pipeline.finish_eq_ok.mp hname
  obtain ⟨hfolder, -⟩ := Value.string.inj htext
  exact ⟨hfolder.symm, hne⟩

theorem Legacy.namesSubdirectory_folder_iff {series : Series} (hne : folder series ≠ "") :
    FilePath.NamesSubdirectory (folder series) ↔
      Text.bare series.title.toList ≠ ['.'] ∧ Text.bare series.title.toList ≠ ['.', '.'] := by
  have htext : (folder series).toList = Text.folderName series.title.toList :=
    Text.toList_onChars _ _
  have hslash : '/' ∉ (folder series).toList := by
    rw [htext]
    exact fun h => Text.not_mem_of_mem_folderName h (by decide)
  have hdot : folder series = "." ↔ Text.bare series.title.toList = ['.'] := by
    rw [← Text.folderName_eq_dot_iff, ← htext]
    exact String.toList_inj.symm
  have hdots : folder series = ".." ↔ Text.bare series.title.toList = ['.', '.'] := by
    rw [← Text.folderName_eq_dots_iff, ← htext]
    exact String.toList_inj.symm
  rw [FilePath.namesSubdirectory_iff]
  simp [hslash, hne, hdot, hdots]

/-- The folder name of a title holds no rejected character and has no underscore at its ends, and it
is one or two dots exactly if the bare title is. So without a section and an override of its own the
folder of a series is a directory below, except for such titles. -/
theorem folder_names_subdirectory (title : String) :
    (∀ c ∈ Text.folderName title.toList, c ∉ Text.folderRejected) ∧
    (Text.folderName title.toList).head? ≠ some '_' ∧
    (Text.folderName title.toList).getLast? ≠ some '_' ∧
    (Text.folderName title.toList = ['.'] ↔ Text.bare title.toList = ['.']) ∧
    (Text.folderName title.toList = ['.', '.'] ↔ Text.bare title.toList = ['.', '.']) ∧
    ∀ (expression : Option String) (p : Program) (o : Overrides) (r : Request) (names : Names),
      compile expression = .ok p → ¬ HasSection expression .folder → o.get? .folder = none →
        r.Valid → r.series.title = title → Generator.generate ⟨p, o⟩ r = .ok names →
          names.folder ≠ "" ∧ names.folder.toList = Text.folderName title.toList ∧
          (FilePath.NamesSubdirectory names.folder ↔
            Text.bare title.toList ≠ ['.'] ∧ Text.bare title.toList ≠ ['.', '.']) := by
  refine ⟨fun c => Text.not_mem_of_mem_folderName, Text.head?_folderName_ne _,
    Text.getLast?_folderName_ne _, Text.folderName_eq_dot_iff, Text.folderName_eq_dots_iff, ?_⟩
  rintro expression p o r names hcompile hsection ho hr rfl hgenerate
  have hpipeline := pipeline_of_not_hasSection hcompile (by decide) hsection
  obtain ⟨hfolder, hne⟩ := Generator.folder_of_generate hr hpipeline ho hgenerate
  rw [hfolder] at hne ⊢
  exact ⟨hne, Text.toList_onChars _ _, Legacy.namesSubdirectory_folder_iff hne⟩

/-- The sign `≮` decomposes into a rejected character and a mark, and the section for the file name
leaves the folder alone. -/
theorem folder_names_subdirectory_decomposed :
    let r : Request := ⟨⟨"../≮Ünï?", none, none⟩, [⟨1, "S 1"⟩], [⟨1, 3, "P"⟩], ⟨true, false⟩⟩
    let p : Program := { Program.default with filename := .default .title }
    let names : Names := ⟨"P [Final]", "P [Final]", ".._Uni"⟩
    compile (some "n:legacy_t") = .ok p ∧ ¬ HasSection (some "n:legacy_t") .folder ∧ r.Valid ∧
      Generator.generate ⟨p, .empty⟩ r = .ok names ∧
        Text.bare r.series.title.toList = "../<Uni".toList ∧
        FilePath.NamesSubdirectory names.folder := by
  intro r p names
  have hcompile : compile (some "n:legacy_t") = .ok p :=
    Outcome.eq_ok_of_toOption (by decide +kernel)
  have hread : Lexer.tokenize "n:legacy_t" = .ok [⟨.ident "n", 0⟩, ⟨.colon, 1⟩,
      ⟨.ident "legacy_t", 2⟩, ⟨.stop, 10⟩] := Outcome.eq_ok_of_toOption (by decide +kernel)
  have hderives : Derives "n:legacy_t" [⟨some .filename, [⟨"legacy_t", []⟩]⟩] :=
    ⟨_, _, hread, rfl, .one (.keyed .filename (.one (.bare "legacy_t")))⟩
  have hsection : ¬ HasSection (some "n:legacy_t") .folder := by
    rw [hderives.hasSection_iff]
    decide
  have hvalid : r.Valid := by decide
  have hgenerate : Generator.generate ⟨p, .empty⟩ r = .ok names :=
    Outcome.eq_ok_of_toOption (by decide +kernel)
  have hbare : Text.bare r.series.title.toList = "../<Uni".toList := by decide +kernel
  obtain ⟨-, -, -, -, -, hfolder⟩ := folder_names_subdirectory r.series.title
  obtain ⟨-, -, hnames⟩ := hfolder _ _ _ _ _ hcompile hsection rfl hvalid rfl hgenerate
  refine ⟨hcompile, hsection, hvalid, hgenerate, hbare, hnames.mpr ?_⟩
  rw [hbare]
  decide

/-- Two dots name the directory above. -/
theorem folder_names_not_subdirectory :
    Text.folderName ['.', '.'] = ['.', '.'] ∧
      ¬ ∀ (expression : Option String) (p : Program) (o : Overrides) (r : Request) (names : Names),
        compile expression = .ok p → ¬ HasSection expression .folder → o.get? .folder = none →
          r.Valid → Generator.generate ⟨p, o⟩ r = .ok names →
            FilePath.NamesSubdirectory names.folder := by
  have hdots : Text.folderName ['.', '.'] = ['.', '.'] := by decide +kernel
  refine ⟨hdots, fun h => ?_⟩
  have hsection : ¬ HasSection none .folder := by
    rintro ⟨text, clauses, htext, -⟩
    cases htext
  have hgenerate : Generator.generate ⟨.default, .empty⟩
      ⟨⟨"..", none, none⟩, [⟨1, "S 1"⟩], [⟨1, 3, "P"⟩], ⟨true, false⟩⟩ =
        .ok ⟨"P [Final]", "P_Final", ".."⟩ := Outcome.eq_ok_of_toOption (by decide +kernel)
  have hbelow := h none .default .empty _ _ rfl hsection rfl (by decide) hgenerate
  exact (FilePath.namesSubdirectory_iff.mp hbelow).2.2.2 rfl

end ReleaseNames
