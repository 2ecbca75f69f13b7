import Mathlib.Data.List.Perm.Subperm
import ReleaseNames.Expression.Compile
import ReleaseNames.Proofs.FileWords
import ReleaseNames.Proofs.LegacyNames

/-!
# Legacy file names from rules

Three chains build the legacy file name from a part, from a volume and from a series,
without the legacy rule. What they write and the legacy title are differently
bracketed, and a chain writes no space where a title is empty. But the words are the
same, in the same order, and a file name consists of its words. So the chain and the
legacy rule give the same name, or both give none.
-/

namespace ReleaseNames

open Text (fileWords)

variable {r : Request} {c : Channel}

/-- Full part numbers are a range, if the numbers stand for several parts. -/
theorem fullPartNumbers_eq_rangeText {f : Part → String} {ps : List PartNumber}
    {parts : List Part} (h : ps.map (·.text) = parts.map f) (hseveral : 1 < parts.length) :
    fullPartNumbers ps = rangeText f parts := by
  obtain ⟨first, second, rest, rfl⟩ := exists_of_several hseveral
  obtain ⟨p, ps, rfl, hfirst, h⟩ := List.map_eq_cons_iff.mp h
  obtain ⟨q, ps, rfl, hsecond, hrest⟩ := List.map_eq_cons_iff.mp h
  have hlast : (ps.getLastD q).text = f (rest.getLastD second) := by
    calc (ps.getLastD q).text = (ps.map (·.text)).getLastD q.text := List.getLastD_map.symm
      _ = (rest.map f).getLastD (f second) := by rw [hrest, hsecond]
      _ = f (rest.getLastD second) := List.getLastD_map
  rw [fullPartNumbers, rangeText, hfirst, hlast]

/-- Volume numbers that are not merged are spelled out as the legacy title lists them. -/
theorem spelled_eq_volumeSegment {ns : List VolumeNumber} {volumes : List Volume}
    (h : ns.map VolumeNumber.dotted = volumes.map fun v => toString v.number.toNat)
    (hseveral : 1 < volumes.length) :
    VolumeNumbers.spelled ⟨ns, false⟩ = .ok (Legacy.volumeSegment volumes) := by
  have htexts : VolumeNumbers.texts ⟨ns, false⟩ = volumes.map fun v => toString v.number.toNat := h
  have hlength : ns.length = volumes.length := by simpa using congrArg List.length h
  obtain ⟨n, n', ns, rfl⟩ := exists_of_several (hlength ▸ hseveral)
  obtain ⟨v, v', volumes, rfl⟩ := exists_of_several hseveral
  calc VolumeNumbers.spelled ⟨n :: n' :: ns, false⟩
      = .ok ("Volumes " ++ enumerate (VolumeNumbers.texts ⟨n :: n' :: ns, false⟩)) := rfl
    _ = .ok (Legacy.volumeSegment (v :: v' :: volumes)) := by rw [htexts]; rfl

namespace Request

/-- The number stands for a packaged part, with a text made from that part. -/
def Numbers (r : Request) (f : Part → String) (p : PartNumber) : Prop :=
  ∃ part, r.parts[p.part]? = some part ∧ p.text = f part

theorem map_text_of_numbers {f : Part → String} {ps : List PartNumber}
    (hparts : ps.map (·.part) = List.range r.parts.length) (h : ∀ p ∈ ps, r.Numbers f p) :
    ps.map (·.text) = r.parts.map f := by
  have hlength : ps.length = r.parts.length := by simpa using congrArg List.length hparts
  refine List.ext_getElem (by simp [hlength]) fun i hi hi' => ?_
  rw [List.length_map] at hi hi'
  obtain ⟨part, hpart, htext⟩ := h ps[i] (List.getElem_mem hi)
  have hindex : ps[i].part = i := by
    have hget : (ps.map (·.part))[i]? = some i := by rw [hparts]; simp [hi']
    simpa [hi] using hget
  rw [hindex, List.getElem?_eq_getElem hi'] at hpart
  cases hpart
  simpa using htext

theorem numbers_of_partNumbers {ps : List PartNumber}
    (h : (List.range r.parts.length).mapM r.partNumber = .ok ps) :
    ∀ p ∈ ps, r.Numbers Part.numberText p := by
  intro p hp
  obtain ⟨i, -, hi⟩ := Outcome.exists_of_mem_mapM h hp
  obtain ⟨part, hpart, rfl⟩ := partNumber_eq_ok.mp hi
  exact ⟨part, hpart, rfl⟩

/-- A prefix turns the number of a part into that number after the number of its volume. -/
theorem numbers_of_prefixed {ns : List VolumeNumber} {p q : PartNumber}
    (hns : r.spannedVolumes.mapM r.internalNumber = .ok ns) (hp : r.Numbers Part.numberText p)
    (h : p.Prefixed r ⟨ns, false⟩ q) : r.Numbers Part.dottedText q := by
  obtain ⟨part, hpart, htext⟩ := hp
  cases h with
  | intro hsame hvn hhome =>
    obtain rfl := Option.some.inj (hpart.symm.trans hsame)
    obtain ⟨i, -, hi⟩ := Outcome.exists_of_mem_mapM hns hvn
    obtain ⟨volume, hvolume, rfl⟩ := internalNumber_eq_ok.mp hi
    -- The volume is listed under the number that the part gives for its volume.
    obtain ⟨home, hlisted, hnumber⟩ := getElem?_of_volumeIndex? hhome
    obtain rfl := Option.some.inj (hvolume.symm.trans hlisted)
    refine ⟨part, hpart, ?_⟩
    rw [Part.dottedText, ← htext, ← hnumber]
    rfl

theorem numbers_of_all_prefixed {ns : List VolumeNumber} {ps qs : List PartNumber}
    (hns : r.spannedVolumes.mapM r.internalNumber = .ok ns)
    (hps : ∀ p ∈ ps, r.Numbers Part.numberText p)
    (h : List.Forall₂ (PartNumber.Prefixed r ⟨ns, false⟩) ps qs) :
    ∀ q ∈ qs, r.Numbers Part.dottedText q := by
  induction h with
  | nil => simp
  | cons hpq _ ih =>
    obtain ⟨hp, hrest⟩ := List.forall_mem_cons.mp hps
    exact List.forall_mem_cons.mpr ⟨numbers_of_prefixed hns hp hpq, ih hrest⟩

theorem map_part_of_prefixed {vns : VolumeNumbers} {ps qs : List PartNumber}
    (h : List.Forall₂ (PartNumber.Prefixed r vns) ps qs) : qs.map (·.part) = ps.map (·.part) := by
  induction h with
  | nil => rfl
  | cons hpq _ ih =>
    cases hpq
    rw [List.map_cons, List.map_cons, ih]

theorem map_dotted_internalNumbers {ns : List VolumeNumber}
    (h : r.spannedVolumes.mapM r.internalNumber = .ok ns) :
    ns.map VolumeNumber.dotted = r.spanned.map fun v => toString v.number.toNat := by
  let text (i : Nat) : Option String := (r.volumes[i]?).map fun v => toString v.number.toNat
  have hnumbers : ns.map (fun n => some n.dotted) = r.spannedVolumes.map text := by
    refine Outcome.map_of_mapM_eq_ok (fun i n hn => ?_) h
    obtain ⟨volume, hvolume, rfl⟩ := internalNumber_eq_ok.mp hn
    simp [text, hvolume, VolumeNumber.dotted, VolumeNumber.internal]
  have hvolumes : r.spanned.map (fun v => some (toString v.number.toNat)) =
      r.spannedVolumes.map text := by
    refine Outcome.map_of_mapM_eq_ok (fun i v hv => ?_) r.mapM_volumeAt_spannedVolumes
    simp [text, volumeAt_eq_ok.mp hv]
  have hsome : (ns.map VolumeNumber.dotted).map some =
      (r.spanned.map fun v => toString v.number.toNat).map some := by
    rw [List.map_map, List.map_map]
    exact hnumbers.trans hvolumes.symm
  exact List.map_injective_iff.mpr (fun _ _ => Option.some.inj) hsome

theorem length_spanned (r : Request) : r.spanned.length = r.spannedVolumes.length :=
  (Outcome.mapM_eq_ok.mp r.mapM_volumeAt_spannedVolumes).length_eq.symm

theorem length_spannedVolumes_le (r : Request) : r.spannedVolumes.length ≤ r.parts.length := by
  have hsubset : r.spannedVolumes ⊆ r.parts.filterMap fun p => r.volumeIndex? p.volume :=
    fun v hv => List.mem_eraseDups.mp hv
  exact (List.subperm_of_subset r.nodup_spannedVolumes hsubset).length_le.trans
    (List.length_filterMap_le _ _)

/-- Several parts of one volume start as that volume, with the number of each part. -/
theorem Valid.exists_volume_seed (hr : r.Valid) (hparts : 1 < r.parts.length)
    (hone : r.spannedVolumes.length = 1) :
    ∃ v volume ps,
      r.seed = .ok (.volume v (List.range r.parts.length) ⟨.absent, .raw ps, .raw r.marker⟩) ∧
      r.volumes[v]? = some volume ∧ r.spanned = [volume] ∧
      ps.map (·.text) = r.parts.map Part.numberText := by
  obtain ⟨first, hfirst⟩ := hr.exists_seed
  cases starts_of_seed hfirst with
  | part hp => simp [hp] at hparts
  | series hspan hps hns hseveral =>
    rw [hspan] at hone
    omega
  | @volume v ps hspan hps =>
    have hv : v ∈ r.spannedVolumes := by rw [hspan]; exact List.mem_singleton_self v
    obtain ⟨volume, hvolume⟩ := getElem?_of_mem_spannedVolumes hv
    refine ⟨v, volume, ps, hfirst, hvolume, by simp [spanned, hspan, hvolume], ?_⟩
    exact map_text_of_numbers (parts_of_partNumbers hps) (numbers_of_partNumbers hps)

/-- Parts of several volumes start as the series, with the number of each spanned volume and of each
part. Prefixing leaves the numbers of the parts after those of their volumes. -/
theorem Valid.exists_series_seed (hr : r.Valid) (hseveral : 1 < r.spannedVolumes.length)
    (c : Channel) :
    ∃ ns ps qs, r.seed = .ok (.series r.spannedVolumes (List.range r.parts.length)
        ⟨.raw ⟨ns, false⟩, .raw ps, .raw r.marker⟩) ∧
      (Call.ofRule .pnPrependVn).apply ⟨r, c⟩ (.series r.spannedVolumes
        (List.range r.parts.length) ⟨.raw ⟨ns, false⟩, .raw ps, .raw r.marker⟩) =
          .ok (.series r.spannedVolumes (List.range r.parts.length)
            ⟨.raw ⟨ns, false⟩, .raw qs, .raw r.marker⟩) ∧
      ns.map VolumeNumber.dotted = (r.spanned.map fun v => toString v.number.toNat) ∧
      qs.map (·.text) = r.parts.map Part.dottedText := by
  obtain ⟨first, hfirst⟩ := hr.exists_seed
  have haligned := aligned_of_seed hfirst
  cases starts_of_seed hfirst with
  | part hp =>
    have := r.length_spannedVolumes_le
    simp only [hp, List.length_singleton] at this
    omega
  | volume hspan hps => simp [hspan] at hseveral
  | @series vs ps ns hspan hps hns _ =>
    subst hspan
    obtain ⟨qs, hqs, hall⟩ := Value.exists_prepend hr haligned rfl rfl rfl
    refine ⟨ns, ps, qs, hfirst, ?_, map_dotted_internalNumbers hns, map_text_of_numbers ?_ ?_⟩
    · rw [Call.apply_of_admits rfl]
      exact hqs
    · rw [map_part_of_prefixed hall, parts_of_partNumbers hps]
    · exact numbers_of_all_prefixed hns (numbers_of_partNumbers hps) hall

end Request

namespace Call

def legacyChain : List Call := [.ofRule .legacyT, .ofRule .strFilesafe]

def partChain : List Call := [.ofRule .fcFull, .ofRule .pTitle, .ofRule .strFilesafe]

/-- The title of a volume with the range of its parts, unless it is complete, as a file name. -/
def volumeChain : List Call :=
  [.ofRule .pnRmIfComplete, .ofRule .pnFull, .ofRule .fcFull, .ofRule .vTitle,
    .ofRule .strFilesafe]

def seriesChain : List Call :=
  [.ofRule .pnPrependVn, .ofRule .vnFull, .ofRule .pnFull, .ofRule .fcFull, .ofRule .sTitle,
    ⟨.toString, [.int 1]⟩, .ofRule .strFilesafe]

example : (compile (some
    "n:pn_prepend_vn>vn_full>pn_full>fc_full>s_title>to_string(1)>str_filesafe")).toOption.map
      (·.filename) = some ⟨.request, seriesChain⟩ := by
  decide +kernel

end Call

namespace Pipeline

/-- A legacy file name as the result of a channel: the name, or the error that it is empty. -/
def legacyFilename (r : Request) (c : Channel) : Except NamingError String :=
  finish c (.text (Legacy.filename r.series r.spanned r.parts r.marker))

theorem finish_strFilesafe (ctx : Context) (text : String) (marker : Option Marker) :
    (applyAll ctx [.ofRule .strFilesafe] (.string text marker) >>= finish ctx.channel) =
      finish ctx.channel (.text (Text.onChars (Text.fileName ['_'] []) text)) := by
  have happly : (Call.ofRule .strFilesafe).apply ctx (.string text marker) =
      .ok (.string (Text.onChars (Text.fileName ['_'] []) text) marker) := by
    rw [Call.apply_of_admits rfl]
    rfl
  rw [applyAll_cons happly, applyAll, Outcome.ok_bind, finish, Value.text, finish]

/-- A value that is written with the words of the legacy title gets the legacy file name. -/
theorem run_of_words {first v : Value} {head : String} {n : Notes} {last : Call}
    (calls : List Call) (hfirst : r.seed = .ok first)
    (hcalls : applyAll ⟨r, c⟩ calls first = .ok v) (hwrites : last.Writes r v head)
    (hn : v.notes? = some n)
    (hwords : fileWords head ++ n.texts.flatMap fileWords =
      fileWords (Legacy.title r.series r.spanned r.parts r.marker)) (title : Option String) :
    run ⟨.request, calls ++ [last, .ofRule .strFilesafe]⟩ ⟨r, c⟩ title = legacyFilename r c := by
  have hlast : last.apply ⟨r, c⟩ v = .ok (.string (spaced (head :: n.texts)) n.marker.raw?) :=
    Call.apply_of_writes hwrites hn
  have hname : Text.onChars (Text.fileName ['_'] []) (spaced (head :: n.texts)) =
      Legacy.filename r.series r.spanned r.parts r.marker := by
    rw [Legacy.filename, Text.fileName_eq_words, Text.fileName_eq_words, fileWords_spaced,
      List.flatMap_cons, hwords]
  rw [run_of_seed hfirst, applyAll_append, hcalls, Outcome.ok_bind, applyAll_cons hlast,
    finish_strFilesafe, hname, legacyFilename]

theorem run_legacyChain (hr : r.Valid) (title : Option String) :
    run ⟨.request, Call.legacyChain⟩ ⟨r, c⟩ title = legacyFilename r c := by
  obtain ⟨first, hfirst, haligned, hterminal⟩ := hr.exists_structured_seed
  rw [Call.legacyChain, run_of_seed hfirst,
    applyAll_cons (Call.apply_legacyT rfl hr haligned hterminal), Value.text, finish_strFilesafe]
  rfl

theorem run_partChain (hone : r.parts.length = 1) (hcomplete : r.marker.complete = false)
    (title : Option String) :
    run ⟨.request, Call.partChain⟩ ⟨r, c⟩ title = legacyFilename r c := by
  obtain ⟨p, hp⟩ := List.length_eq_one_iff.mp hone
  have hfirst : r.seed = .ok (.part 0 (.ofMarker r.marker)) := by rw [Request.seed, hp]
  have hpart : r.parts[0]? = some p := by rw [hp]; rfl
  let n : Notes := ⟨.absent, .absent, .rendered r.marker.full⟩
  have hwords : fileWords p.title ++ n.texts.flatMap fileWords =
      fileWords (Legacy.title r.series r.spanned r.parts r.marker) := by
    rw [hp, Legacy.fileWords_title_part _ _ _ hcomplete]
    simp [n, Notes.texts, Slot.text, Text.fileWords_empty]
  exact run_of_words (n := n) [.ofRule .fcFull] hfirst rfl (.part rfl hpart) rfl hwords title

theorem run_volumeChain (hr : r.Valid) (hparts : 1 < r.parts.length)
    (hone : r.spannedVolumes.length = 1) (title : Option String) :
    run ⟨.request, Call.volumeChain⟩ ⟨r, c⟩ title = legacyFilename r c := by
  obtain ⟨v, volume, ps, hfirst, hvolume, hspanned, hps⟩ := hr.exists_volume_seed hparts hone
  let n : Notes := ⟨.absent, if r.marker.complete then .absent else .rendered (fullPartNumbers ps),
    .rendered r.marker.full⟩
  -- A complete volume loses its part numbers before they are rendered.
  have hrm : (Call.ofRule .pnRmIfComplete).apply ⟨r, c⟩
      (.volume v (List.range r.parts.length) ⟨.absent, .raw ps, .raw r.marker⟩) =
        .ok (.volume v (List.range r.parts.length)
          ⟨.absent, if r.marker.complete then .absent else .raw ps, .raw r.marker⟩) := by
    rw [Call.apply_of_admits rfl]
    simp only [Call.transform, Call.ofRule]
    cases r.marker.complete <;> rfl
  have hcalls : applyAll ⟨r, c⟩ [.ofRule .pnRmIfComplete, .ofRule .pnFull, .ofRule .fcFull]
      (.volume v (List.range r.parts.length) ⟨.absent, .raw ps, .raw r.marker⟩) =
        .ok (.volume v (List.range r.parts.length) n) := by
    rw [applyAll_cons hrm]
    cases hcomplete : r.marker.complete with
    | true =>
      simp only [n, hcomplete, if_true]
      rfl
    | false =>
      simp only [n, hcomplete, Bool.false_eq_true, if_false]
      rfl
  have hwords : fileWords volume.title ++ n.texts.flatMap fileWords =
      fileWords (Legacy.title r.series r.spanned r.parts r.marker) := by
    rw [hspanned, Legacy.fileWords_title_volume _ _ hparts,
      ← fullPartNumbers_eq_rangeText hps hparts]
    cases hcomplete : r.marker.complete <;>
      simp [n, hcomplete, Notes.texts, Slot.text, Text.fileWords_empty]
  exact run_of_words (n := n) _ hfirst hcalls (.volume rfl hvolume) rfl hwords title

theorem run_seriesChain (hr : r.Valid) (hseveral : 1 < r.spannedVolumes.length)
    (hcomplete : r.marker.complete = false)
    (hsubtitle : r.series.subtitle = none ∨ r.series.subtitle = some "")
    (title : Option String) :
    run ⟨.request, Call.seriesChain⟩ ⟨r, c⟩ title = legacyFilename r c := by
  obtain ⟨ns, ps, qs, hfirst, hprepend, hns, hqs⟩ := hr.exists_series_seed hseveral c
  have hparts : 1 < r.parts.length := lt_of_lt_of_le hseveral r.length_spannedVolumes_le
  have hspanned : 1 < r.spanned.length := by rw [r.length_spanned]; exact hseveral
  have htitle : r.series.fullTitle = r.series.title := by
    rcases hsubtitle with h | h <;> simp [Series.fullTitle, h]
  let n : Notes := ⟨.rendered (Legacy.volumeSegment r.spanned), .rendered (fullPartNumbers qs),
    .rendered r.marker.full⟩
  have hfull : (Call.ofRule .vnFull).apply ⟨r, c⟩ (.series r.spannedVolumes
        (List.range r.parts.length) ⟨.raw ⟨ns, false⟩, .raw qs, .raw r.marker⟩) =
      .ok (.series r.spannedVolumes (List.range r.parts.length)
        ⟨.rendered (Legacy.volumeSegment r.spanned), .raw qs, .raw r.marker⟩) := by
    rw [Call.apply_ofRule rfl rfl]
    exact Value.renderVolumeNumbers_of_raw (v := .series _ _ ⟨.raw ⟨ns, false⟩, .raw qs, _⟩)
      rfl rfl (spelled_eq_volumeSegment hns hspanned)
  have hcalls : applyAll ⟨r, c⟩ [.ofRule .pnPrependVn, .ofRule .vnFull, .ofRule .pnFull,
      .ofRule .fcFull, .ofRule .sTitle] (.series r.spannedVolumes (List.range r.parts.length)
        ⟨.raw ⟨ns, false⟩, .raw ps, .raw r.marker⟩) =
      .ok (.seriesString r.series.title r.spannedVolumes (List.range r.parts.length) n) := by
    rw [applyAll_cons hprepend, applyAll_cons hfull, ← htitle]
    rfl
  -- A colon after the name is no word, so it does not matter whether one is written.
  have hwords : ∀ colon, fileWords (SeriesName.heading colon r.series.title) ++
      n.texts.flatMap fileWords =
        fileWords (Legacy.title r.series r.spanned r.parts r.marker) := by
    intro colon
    rw [Legacy.fileWords_title_series _ hparts hspanned.ne',
      ← fullPartNumbers_eq_rangeText hqs hparts, Legacy.fileWords_finalSuffix hcomplete,
      fileWords_heading]
    simp [n, Notes.texts, Slot.text]
  exact run_of_words (n := n) _ hfirst hcalls (.name rfl) rfl (hwords _) title

end Pipeline

/-- The rules give the legacy file name that the legacy rule gives, or none where it gives none:
for a part and for parts of several volumes unless the marker is complete, for several parts of one
volume always. The legacy title has no subtitle, so a series must not have one either. -/
theorem rules_reproduce_legacy (hr : r.Valid) (c : Channel) (title : Option String) :
    let name := Legacy.filename r.series r.spanned r.parts r.marker
    let result : Except NamingError String :=
      if name = "" then .error (.emptyName c) else .ok name
    Pipeline.run ⟨.request, Call.legacyChain⟩ ⟨r, c⟩ title = result ∧
    (r.parts.length = 1 → r.marker.complete = false →
      Pipeline.run ⟨.request, Call.partChain⟩ ⟨r, c⟩ title = result) ∧
    (1 < r.parts.length → r.spannedVolumes.length = 1 →
      Pipeline.run ⟨.request, Call.volumeChain⟩ ⟨r, c⟩ title = result) ∧
    (1 < r.spannedVolumes.length → r.marker.complete = false →
      (r.series.subtitle = none ∨ r.series.subtitle = some "") →
        Pipeline.run ⟨.request, Call.seriesChain⟩ ⟨r, c⟩ title = result) := by
  refine ⟨Pipeline.run_legacyChain hr title, ?_, ?_, ?_⟩
  · intro hone hcomplete
    exact Pipeline.run_partChain hone hcomplete title
  · intro hparts hone
    exact Pipeline.run_volumeChain hr hparts hone title
  · intro hseveral hcomplete hsubtitle
    exact Pipeline.run_seriesChain hr hseveral hcomplete hsubtitle title

/-- A part without a title, a complete volume, and two volumes of a series that lists three. -/
theorem rules_reproduce_legacy_each :
    let volumes : List Volume := [⟨1, "A: 1"⟩, ⟨2, "A: 2"⟩, ⟨3, "A: 3"⟩]
    let part : Request := ⟨⟨"A", none, none⟩, volumes, [⟨2, 1, ""⟩], ⟨true, false⟩⟩
    let volume : Request :=
      ⟨⟨"A", none, none⟩, volumes, [⟨2, 1, "x"⟩, ⟨2, 2, "y"⟩], ⟨true, true⟩⟩
    let series : Request :=
      ⟨⟨"A!", some "", none⟩, volumes, [⟨3, 1, "x"⟩, ⟨1, 4, "y"⟩], ⟨true, false⟩⟩
    (part.Valid ∧ part.parts.length = 1 ∧ part.marker.complete = false ∧
      Pipeline.run ⟨.request, Call.legacyChain⟩ ⟨part, .title⟩ none = .ok "Final" ∧
      Pipeline.run ⟨.request, Call.partChain⟩ ⟨part, .title⟩ none = .ok "Final") ∧
    (volume.Valid ∧ 1 < volume.parts.length ∧ volume.spannedVolumes.length = 1 ∧
      Pipeline.run ⟨.request, Call.legacyChain⟩ ⟨volume, .title⟩ none = .ok "A_2_Complete" ∧
      Pipeline.run ⟨.request, Call.volumeChain⟩ ⟨volume, .title⟩ none = .ok "A_2_Complete") ∧
    (series.Valid ∧ 1 < series.spannedVolumes.length ∧ series.marker.complete = false ∧
      Pipeline.run ⟨.request, Call.legacyChain⟩ ⟨series, .title⟩ none =
        .ok "A_Volumes_3_1_Parts_3_1_to_1_4_Final" ∧
      Pipeline.run ⟨.request, Call.seriesChain⟩ ⟨series, .title⟩ none =
        .ok "A_Volumes_3_1_Parts_3_1_to_1_4_Final") := by
  intro volumes part volume series
  have hpart : part.Valid := by decide
  have hvolume : volume.Valid := by decide
  have hseries : series.Valid := by decide
  have hpartName : Legacy.filename part.series part.spanned part.parts part.marker = "Final" :=
    (Legacy.filename_of_ascii " [Final]" (by decide +kernel) (by decide)).trans (by decide)
  have hvolumeName : Legacy.filename volume.series volume.spanned volume.parts volume.marker =
      "A_2_Complete" :=
    (Legacy.filename_of_ascii "A: 2 [Complete]" (by decide +kernel) (by decide)).trans (by decide)
  have hseriesName : Legacy.filename series.series series.spanned series.parts series.marker =
      "A_Volumes_3_1_Parts_3_1_to_1_4_Final" :=
    (Legacy.filename_of_ascii "A! Volumes 3 & 1 [Parts 3.1 to 1.4 - Final]" (by decide +kernel)
      (by decide)).trans (by decide)
  have hone : volume.spannedVolumes.length = 1 := by decide +kernel
  have hseveral : 1 < series.spannedVolumes.length := by decide +kernel
  obtain ⟨hpartLegacy, hpartRules, -⟩ := rules_reproduce_legacy hpart .title none
  obtain ⟨hvolumeLegacy, -, hvolumeRules, -⟩ := rules_reproduce_legacy hvolume .title none
  obtain ⟨hseriesLegacy, -, -, hseriesRules⟩ := rules_reproduce_legacy hseries .title none
  rw [hpartName] at hpartLegacy hpartRules
  rw [hvolumeName] at hvolumeLegacy hvolumeRules
  rw [hseriesName] at hseriesLegacy hseriesRules
  exact ⟨⟨hpart, rfl, rfl, hpartLegacy, hpartRules rfl rfl⟩,
    ⟨hvolume, by decide, hone, hvolumeLegacy, hvolumeRules (by decide) hone⟩,
    ⟨hseries, hseveral, rfl, hseriesLegacy, hseriesRules hseveral rfl (.inr rfl)⟩⟩

end ReleaseNames
