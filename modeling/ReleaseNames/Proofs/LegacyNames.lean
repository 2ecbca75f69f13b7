import ReleaseNames.Proofs.Isolation
import ReleaseNames.Proofs.Prefixing

/-!
# The default program and legacy names

Without overrides the default program gives a valid request its legacy names. The
volumes that count for them are those that the parts span, in order of first
occurrence. They need not be the listed volumes, which may be in another order and
may include volumes without a packaged part; the number of listed volumes alone
would tell a package of one volume from a package of several.
-/

namespace ReleaseNames

variable {r : Request}

namespace Request

def spanned (r : Request) : List Volume :=
  r.spannedVolumes.filterMap fun v => r.volumes[v]?

/-- The legacy names of what a request packages, for a list of volumes. -/
def legacyNames (r : Request) (volumes : List Volume) : Names :=
  ⟨Legacy.title r.series volumes r.parts r.marker,
    Legacy.filename r.series volumes r.parts r.marker,
    Legacy.folder r.series⟩

theorem mapM_volumeAt_spannedVolumes (r : Request) :
    r.spannedVolumes.mapM r.volumeAt = .ok r.spanned := by
  have hlisted : ∀ v ∈ r.spannedVolumes, ∃ volume, r.volumes[v]? = some volume := fun v hv =>
    getElem?_of_mem_spannedVolumes hv
  rw [spanned]
  generalize r.spannedVolumes = indices at hlisted
  induction indices with
  | nil => rfl
  | cons v vs ih =>
    obtain ⟨hv, hrest⟩ := List.forall_mem_cons.mp hlisted
    obtain ⟨volume, hvolume⟩ := hv
    rw [List.mapM_cons, volumeAt_eq_ok.mpr hvolume, ih hrest, List.filterMap_cons_some hvolume]
    rfl

theorem mapM_partAt_range (r : Request) :
    (List.range r.parts.length).mapM r.partAt = .ok r.parts := by
  rw [Outcome.mapM_eq_ok, List.forall₂_iff_get]
  refine ⟨List.length_range, fun i hi hi' => ?_⟩
  rw [partAt_eq_ok]
  simp

end Request

/-- Every value that is aligned with a valid request has the same legacy title, which is that of
the spanned volumes and the packaged parts. -/
theorem Value.legacyTitle_of_aligned {v : Value} (hr : r.Valid) (hv : v.Aligned r)
    (hterminal : v.isTerminal = false) (c : Channel) :
    v.legacyTitle ⟨r, c⟩ = .ok (.text (r.legacyNames r.spanned).title) := by
  rw [legacyTitle, hterminal, v.members_of_aligned hr hv hterminal]
  simp only [Bool.false_eq_true, if_false, Outcome.ok_bind, r.mapM_volumeAt_spannedVolumes,
    r.mapM_partAt_range]
  rfl

theorem Request.Valid.exists_structured_seed (hr : r.Valid) :
    ∃ first, r.seed = .ok first ∧ first.Aligned r ∧ first.isTerminal = false := by
  obtain ⟨first, hfirst⟩ := hr.exists_seed
  refine ⟨first, hfirst, aligned_of_seed hfirst, ?_⟩
  cases starts_of_seed hfirst <;> rfl

/-- The same as a step, on whatever value the step meets. -/
theorem Call.apply_legacyT {call : Call} {v : Value} {c : Channel} (hrule : call.rule = .legacyT)
    (hr : r.Valid) (hv : v.Aligned r) (hterminal : v.isTerminal = false) :
    call.apply ⟨r, c⟩ v = .ok (.text (r.legacyNames r.spanned).title) := by
  rw [apply_of_admits (by simpa [hrule, Rule.accepts, Accepts.admits] using hterminal), transform,
    hrule]
  exact v.legacyTitle_of_aligned hr hv hterminal c

namespace Pipeline

variable {c : Channel}

theorem run_of_seed {ctx : Context} {first : Value} (h : ctx.request.seed = .ok first)
    (calls : List Call) (title : Option String) :
    run ⟨.request, calls⟩ ctx title = applyAll ctx calls first >>= finish ctx.channel := by
  simp only [run, start, h]
  cases applyAll ctx calls first <;> rfl

theorem run_default_title (hr : r.Valid) (title : Option String) :
    (Pipeline.default .title).run ⟨r, c⟩ title =
      finish c (.text (r.legacyNames r.spanned).title) := by
  obtain ⟨first, hfirst, haligned, hterminal⟩ := hr.exists_structured_seed
  rw [Pipeline.default, run_of_seed hfirst,
    applyAll_cons (Call.apply_legacyT rfl hr haligned hterminal), applyAll, Outcome.ok_bind]

theorem run_default_filename (t : String) :
    (Pipeline.default .filename).run ⟨r, c⟩ (some t) =
      finish c (.text (Text.onChars (Text.fileName ['_'] []) t)) :=
  rfl

theorem run_default_folder (hr : r.Valid) (title : Option String) :
    (Pipeline.default .folder).run ⟨r, c⟩ title = finish c (.text (Legacy.folder r.series)) := by
  obtain ⟨first, hfirst, -, hterminal⟩ := hr.exists_structured_seed
  have happly : (Call.ofRule .legacyF).apply ⟨r, c⟩ first =
      .ok (.text (Legacy.folder r.series)) := by
    rw [Call.apply_of_admits (by simpa [Call.ofRule, Rule.accepts, Accepts.admits] using hterminal)]
    rfl
  rw [Pipeline.default, run_of_seed hfirst, applyAll_cons happly, applyAll, Outcome.ok_bind]

theorem finish_text {s : String} (h : s ≠ "") : finish c (.text s) = .ok s :=
  if_neg h

end Pipeline

namespace Generator

/-- What a channel gives without a section, once the title is there. -/
theorem name_default (hr : r.Valid) (c : Channel) {title : Option String}
    (htitle : c ≠ .title → title = some (r.legacyNames r.spanned).title) :
    Generator.default.name c r title =
      Pipeline.finish c (.text ((r.legacyNames r.spanned).get c)) := by
  rw [name_of_no_override (by cases c <;> rfl)]
  cases c with
  | title => exact Pipeline.run_default_title hr title
  | filename =>
    rw [htitle (by decide)]
    exact Pipeline.run_default_filename _
  | folder => exact Pipeline.run_default_folder hr title

/-- The default names are the legacy names, and the first of them that is empty is the error. -/
theorem generate_default_eq (hr : r.Valid) :
    Generator.default.generate r =
      let names := r.legacyNames r.spanned
      if names.title = "" then .error (.emptyName .title)
      else if names.filename = "" then .error (.emptyName .filename)
      else if names.folder = "" then .error (.emptyName .folder)
      else .ok names := by
  have hempty : ∀ {c : Channel} {s : String}, s = "" →
      Pipeline.finish c (.text s) = .error (.emptyName c) := fun h => if_pos h
  rw [generate, Request.check_eq_ok hr]
  dsimp only
  rw [name_default hr .title (by simp), Names.get]
  split
  · next htitle => rw [hempty htitle, Outcome.error_bind]
  next htitle =>
  rw [Pipeline.finish_text htitle, Outcome.ok_bind, name_default hr .filename fun _ => rfl,
    Names.get]
  split
  · next hfilename => rw [hempty hfilename, Outcome.error_bind]
  next hfilename =>
  rw [Pipeline.finish_text hfilename, Outcome.ok_bind, name_default hr .folder fun _ => rfl,
    Names.get]
  split
  · next hfolder => rw [hempty hfolder, Outcome.error_bind]
  · next hfolder =>
    rw [Pipeline.finish_text hfolder]
    rfl

/-- A valid request gets the legacy names of the volumes that it spans, if none is empty. -/
theorem generate_default (hr : r.Valid) (hnames : ∀ c, (r.legacyNames r.spanned).get c ≠ "") :
    Generator.default.generate r = .ok (r.legacyNames r.spanned) := by
  have htitle : (r.legacyNames r.spanned).title ≠ "" := hnames .title
  have hfilename : (r.legacyNames r.spanned).filename ≠ "" := hnames .filename
  have hfolder : (r.legacyNames r.spanned).folder ≠ "" := hnames .folder
  rw [generate_default_eq hr]
  simp only [htitle, hfilename, hfolder, if_false]

end Generator

/-- The title of a single part does not read the volumes. -/
theorem Request.legacyNames_of_single (h : r.parts.length = 1) (volumes others : List Volume) :
    r.legacyNames volumes = r.legacyNames others := by
  obtain ⟨p, hp⟩ := List.length_eq_one_iff.mp h
  have htitle : ∀ vs, Legacy.title r.series vs r.parts r.marker =
      p.title ++ (if r.marker.final then " [Final]" else "") := by
    intro vs
    rw [hp]
    rfl
  simp only [legacyNames, Legacy.filename, htitle]

/-- The default generator gives the legacy names of the spanned volumes. These are the legacy names
of the listed volumes if a single part is packaged, or if exactly the spanned volumes are listed, in
order of first occurrence. -/
theorem default_names_legacy :
    (∀ r : Request, r.Valid → (∀ c, (r.legacyNames r.spanned).get c ≠ "") →
      Generator.default.generate r = .ok (r.legacyNames r.spanned)) ∧
    ∀ r : Request, r.Valid → (r.parts.length = 1 ∨ r.volumes = r.spanned) →
      (∀ c, (r.legacyNames r.volumes).get c ≠ "") →
        Generator.default.generate r = .ok (r.legacyNames r.volumes) := by
  refine ⟨fun r => Generator.generate_default, ?_⟩
  intro r hr hlisted hnames
  have hsame : r.legacyNames r.volumes = r.legacyNames r.spanned := by
    rcases hlisted with hone | hvolumes
    · exact Request.legacyNames_of_single hone r.volumes r.spanned
    · rw [← hvolumes]
  rw [hsame] at hnames ⊢
  exact Generator.generate_default hr hnames

theorem default_names_legacy_volume :
    let r : Request := ⟨⟨"S", none, none⟩, [⟨1, "A"⟩, ⟨2, "B"⟩],
      [⟨2, 1, "x"⟩, ⟨2, 2, "y"⟩], ⟨false, true⟩⟩
    r.Valid ∧ (∀ c, (r.legacyNames r.spanned).get c ≠ "") ∧ r.spanned = [⟨2, "B"⟩] ∧
      Generator.default.generate r = .ok (r.legacyNames [⟨2, "B"⟩]) := by
  intro r
  have hr : r.Valid := by decide
  have hspanned : r.spanned = [⟨2, "B"⟩] := by decide +kernel
  have hnames : ∀ c, (r.legacyNames r.spanned).get c ≠ "" := by
    intro c
    cases c <;> decide +kernel
  have hgenerate := default_names_legacy.1 r hr hnames
  rw [hspanned] at hgenerate
  exact ⟨hr, hnames, hspanned, hgenerate⟩

/-- With a listed volume that holds no packaged part, the legacy names of the listed volumes are
others than those that the default generator gives. -/
theorem default_names_not_listed :
    let r : Request := ⟨⟨"Extra", none, none⟩, [⟨1, "V1"⟩, ⟨2, "V2"⟩, ⟨3, "V3"⟩],
      [⟨2, 1, "a"⟩, ⟨2, 2, "b"⟩], ⟨false, false⟩⟩
    r.Valid ∧
      r.legacyNames r.volumes = ⟨"Extra: Volumes 1, 2 & 3 [Parts 2.1 to 2.2]",
        "Extra_Volumes_1_2_3_Parts_2_1_to_2_2", "Extra"⟩ ∧
      Generator.default.generate r = .ok ⟨"V2 [Parts 1 to 2]", "V2_Parts_1_to_2", "Extra"⟩ ∧
      Generator.default.generate r ≠ .ok (r.legacyNames r.volumes) := by
  intro r
  have hlegacy : r.legacyNames r.volumes = ⟨"Extra: Volumes 1, 2 & 3 [Parts 2.1 to 2.2]",
      "Extra_Volumes_1_2_3_Parts_2_1_to_2_2", "Extra"⟩ := by decide +kernel
  have hgenerate : Generator.default.generate r =
      .ok ⟨"V2 [Parts 1 to 2]", "V2_Parts_1_to_2", "Extra"⟩ :=
    Outcome.eq_ok_of_toOption (by decide +kernel)
  refine ⟨by decide, hlegacy, hgenerate, ?_⟩
  rw [hgenerate, hlegacy]
  simp

end ReleaseNames
