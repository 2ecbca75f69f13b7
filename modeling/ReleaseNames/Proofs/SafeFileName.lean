import ReleaseNames.Proofs.LegacyNames
import ReleaseNames.Proofs.Pieces
import ReleaseNames.Proofs.SectionOrder

/-!
# File names are safe

A channel that ends in a safe file name holds letters and digits, characters that
were asked for and characters of the replacement, and the replacement stands at
neither end. A file name without a section of its own is a row of blocks of
letters and digits, whatever the title is. A title may come from an override, so
it can be any text.
-/

namespace ReleaseNames

namespace Text

variable {c : Char} {cs replacement preserve : List Char}

theorem of_mem_fileName (h : c ∈ fileName replacement preserve cs) :
    c.isAlphanum = true ∨ c ∈ preserve ∨ c ∈ replacement := by
  rcases of_mem_replaceRuns (mem_of_mem_trimWhere h) with ⟨-, hkept⟩ | hreplacement
  · have hkeeps : keeps preserve c = true := by simpa using hkept
    rw [keeps, Bool.or_eq_true] at hkeeps
    rcases hkeeps with halphanum | hpreserve
    · exact .inl halphanum
    · exact .inr (.inl (by simpa using hpreserve))
  · exact .inr (.inr hreplacement)

theorem head?_fileName_ne (hc : c ∈ replacement) :
    (fileName replacement preserve cs).head? ≠ some c := by
  intro h
  have hfree := head?_trimWhere h
  simp [hc] at hfree

theorem getLast?_fileName_ne (hc : c ∈ replacement) :
    (fileName replacement preserve cs).getLast? ≠ some c := by
  intro h
  have hfree := getLast?_trimWhere h
  simp [hc] at hfree

/-- With a replacement of rejected characters the file name is the kept pieces, joined. -/
theorem fileName_of_rejected (hr : ∀ c ∈ replacement, keeps preserve c = false) (cs : List Char) :
    fileName replacement preserve cs =
      replacement.intercalate (pieces (fun c => !keeps preserve c) (stripMarks cs)) :=
  trimWhere_replaceRuns (fun c hc => by simp [hr c hc]) _

theorem inBlocks_fileName {r : Char} (hr : keeps preserve r = false)
    (h : fileName [r] preserve cs ≠ []) :
    InBlocks (keeps preserve) r (fileName [r] preserve cs) := by
  rw [fileName_of_rejected (by simpa using hr)] at h ⊢
  exact inBlocks_pieces h

end Text

/-- A run that names its channel ends with its last call making that name. -/
theorem Pipeline.exists_of_run {p : Pipeline} {ctx : Context} {title : Option String}
    {name : String} {before : List Call} {last : Call} (hsteps : p.steps = before ++ [last])
    (h : p.run ctx title = .ok name) :
    ∃ v marker, last.apply ctx v = .ok (.string name marker) := by
  obtain ⟨-, first, marker, -, hrun⟩ := run_eq_ok.mp h
  rw [hsteps, applyAll_append] at hrun
  obtain ⟨v, -, hlast⟩ := Outcome.bind_eq_ok.mp hrun
  refine ⟨v, marker, ?_⟩
  rw [applyAll] at hlast
  split at hlast
  · next happly =>
    cases hlast
    exact happly
  · cases hlast

/-- What a safe file name makes of a text. -/
theorem Call.exists_of_apply_strFilesafe {ctx : Context} {v : Value}
    {replacement preserve name : String} {marker : Option Marker}
    (h : Call.apply ⟨.strFilesafe, [.str replacement, .str preserve]⟩ ctx v =
      .ok (.string name marker)) :
    ∃ cs, name.toList = Text.fileName replacement.toList preserve.toList cs := by
  have hmapped : v.mapText (Text.fileName replacement.toList preserve.toList) =
      .string name marker := Except.ok.inj (Call.apply_eq_ok.mp h).2
  cases v with
  | string text m =>
    obtain ⟨hname, -⟩ := Value.string.inj hmapped
    exact ⟨text.toList, by rw [← hname, Text.toList_onChars]⟩
  | _ => exact nomatch hmapped

/-- Without a section and an override of its own the file name is what the title leaves. -/
theorem Generator.filename_of_generate {p : Program} {o : Overrides} {r : Request} {names : Names}
    (hr : r.Valid) (hpipeline : p.pipeline .filename = .default .filename)
    (ho : o.get? .filename = none) (h : Generator.generate ⟨p, o⟩ r = .ok names) :
    names.filename = Text.onChars (Text.fileName ['_'] []) names.title ∧ names.filename ≠ "" := by
  have hresults := (generate_eq_ok_iff hr).mp h
  have htitle : Generator.result ⟨p, o⟩ r .title = .ok names.title := hresults .title
  have hname : Generator.result ⟨p, o⟩ r .filename = .ok names.filename := hresults .filename
  rw [result_of_title (by decide) htitle, name_of_no_override ho, hpipeline,
    Pipeline.run_default_filename] at hname
  obtain ⟨hne, marker, htext⟩ := Pipeline.finish_eq_ok.mp hname
  obtain ⟨hfilename, -⟩ := Value.string.inj htext
  exact ⟨hfilename.symm, hne⟩

/-- A file name without a section and an override of its own is a row of blocks of letters and
digits. More generally, the replacement and the preserved characters of a last step say which other
characters a name holds, and the replacement stands at neither end of it. -/
theorem safe_file_names :
    (∀ (expression : Option String) (p : Program) (o : Overrides) (r : Request) (names : Names),
      compile expression = .ok p → ¬ HasSection expression .filename → o.get? .filename = none →
        r.Valid → Generator.generate ⟨p, o⟩ r = .ok names →
          Text.InBlocks Char.isAlphanum '_' names.filename.toList) ∧
    ∀ (p : Pipeline) (ctx : Context) (title : Option String) (replacement preserve name : String),
      p.steps.getLast? = some ⟨.strFilesafe, [.str replacement, .str preserve]⟩ →
        p.run ctx title = .ok name →
          (∀ c ∈ name.toList,
            c.isAlphanum = true ∨ c ∈ preserve.toList ∨ c ∈ replacement.toList) ∧
          ∀ c ∈ replacement.toList,
            name.toList.head? ≠ some c ∧ name.toList.getLast? ≠ some c := by
  constructor
  · intro expression p o r names hcompile hsection ho hr hgenerate
    have hpipeline := pipeline_of_not_hasSection hcompile (by decide) hsection
    obtain ⟨hfilename, hne⟩ := Generator.filename_of_generate hr hpipeline ho hgenerate
    have hkeeps : Text.keeps [] = Char.isAlphanum := by
      funext c
      simp [Text.keeps]
    have htext : names.filename.toList = Text.fileName ['_'] [] names.title.toList := by
      rw [hfilename, Text.toList_onChars]
    have hlist : Text.fileName ['_'] [] names.title.toList ≠ [] := by
      rw [← htext]
      simpa using hne
    rw [htext, ← hkeeps]
    exact Text.inBlocks_fileName (by decide) hlist
  · intro p ctx title replacement preserve name hlast hrun
    obtain ⟨before, hsteps⟩ := List.getLast?_eq_some_iff.mp hlast
    obtain ⟨v, marker, happly⟩ := Pipeline.exists_of_run hsteps hrun
    obtain ⟨cs, hname⟩ := Call.exists_of_apply_strFilesafe happly
    rw [hname]
    exact ⟨fun c => Text.of_mem_fileName, fun c hc =>
      ⟨Text.head?_fileName_ne hc, Text.getLast?_fileName_ne hc⟩⟩

theorem safe_file_names_overridden :
    let r : Request := ⟨⟨"S", none, none⟩, [⟨1, "S 1"⟩], [⟨1, 3, "P"⟩], ⟨true, false⟩⟩
    let o : Overrides := ⟨some fun _ _ _ _ => .ok "../Ünï: 42/", none, none⟩
    let names : Names := ⟨"../Ünï: 42/", "Uni_42", "S"⟩
    compile (some "f:legacy_f") = .ok .default ∧ ¬ HasSection (some "f:legacy_f") .filename ∧
      Generator.generate ⟨.default, o⟩ r = .ok names ∧
        Text.InBlocks Char.isAlphanum '_' names.filename.toList ∧
        Pipeline.run ⟨.title, [⟨.strFilesafe, [.str "--", .str "."]⟩]⟩ ⟨r, .filename⟩
          (some "--.a/b--") = .ok ".a--b" ∧
        (∀ c ∈ ".a--b".toList, c.isAlphanum = true ∨ c ∈ ".".toList ∨ c ∈ "--".toList) ∧
        ∀ c ∈ "--".toList, ".a--b".toList.head? ≠ some c ∧ ".a--b".toList.getLast? ≠ some c := by
  intro r o names
  have hcompile : compile (some "f:legacy_f") = .ok .default :=
    Outcome.eq_ok_of_toOption (by decide +kernel)
  have hread : Lexer.tokenize "f:legacy_f" = .ok [⟨.ident "f", 0⟩, ⟨.colon, 1⟩,
      ⟨.ident "legacy_f", 2⟩, ⟨.stop, 10⟩] := Outcome.eq_ok_of_toOption (by decide +kernel)
  have hderives : Derives "f:legacy_f" [⟨some .folder, [⟨"legacy_f", []⟩]⟩] :=
    ⟨_, _, hread, rfl, .one (.keyed .folder (.one (.bare "legacy_f")))⟩
  have hsection : ¬ HasSection (some "f:legacy_f") .filename := by
    rintro ⟨text, clauses, c, hother, hc, hkey⟩
    cases c
    obtain rfl := hderives.unique hother
    obtain rfl := List.mem_singleton.mp hkey.1
    cases hkey.2
  have hgenerate : Generator.generate ⟨.default, o⟩ r = .ok names :=
    Outcome.eq_ok_of_toOption (by decide +kernel)
  have hrun : Pipeline.run ⟨.title, [⟨.strFilesafe, [.str "--", .str "."]⟩]⟩ ⟨r, .filename⟩
      (some "--.a/b--") = .ok ".a--b" := Outcome.eq_ok_of_toOption (by decide +kernel)
  obtain ⟨hfilename, hlast⟩ := safe_file_names
  exact ⟨hcompile, hsection, hgenerate,
    hfilename _ _ _ _ _ hcompile hsection rfl (by decide) hgenerate, hrun,
    hlast _ _ _ _ _ _ rfl hrun⟩

end ReleaseNames
