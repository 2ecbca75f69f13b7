import ReleaseNames.Proofs.Reach
import ReleaseNames.Proofs.Writing

/-!
# Merging only changes how volume numbers are spelled out

Merging gives every number one segment, its dotted form, and marks a list of several
for compact notation. It keeps the dotted form of every number. Compact notation and
the prefixes of part numbers are made of dotted forms, so neither can tell whether
numbers have been merged, not even when compact notation overflows. Spelled out,
merged numbers are their compact form under one label, and free text has no label.
-/

namespace ReleaseNames

variable {r : Request} {ctx : Context} {v : Value}

namespace VolumeNumber

@[simp] theorem dotted_merge (n : VolumeNumber) : n.merge.dotted = n.dotted := by
  rw [merge]
  split
  · exact String.intercalate_singleton
  · rfl

@[simp] theorem merge_merge (n : VolumeNumber) : n.merge.merge = n.merge := by
  by_cases hseveral : n.segments.length > 1
  · have hone : n.merge.segments = [⟨n.dotted, .merged⟩] := by rw [merge, if_pos hseveral]
    rw [merge.eq_def n.merge, hone]
    rfl
  · have hself : n.merge = n := if_neg hseveral
    rw [hself, hself]

/-- A merged number is one segment, which is free text only if it was that before. -/
theorem exists_segments_merge {n : VolumeNumber} (h : n.segments ≠ []) :
    ∃ kind, n.merge.segments = [⟨n.dotted, kind⟩] ∧
      (kind = .special ↔ ∃ segment, n.segments = [segment] ∧ segment.kind = .special) := by
  by_cases hseveral : n.segments.length > 1
  · refine ⟨.merged, by rw [merge, if_pos hseveral], ?_⟩
    constructor
    · intro hmerged
      cases hmerged
    · rintro ⟨segment, hlist, -⟩
      simp [hlist] at hseveral
  · have hpos := List.length_pos_iff.mpr h
    obtain ⟨segment, hlist⟩ := List.length_eq_one_iff.mp (show n.segments.length = 1 by omega)
    have hdotted : n.dotted = segment.text := by simp [dotted, hlist]
    refine ⟨segment.kind, by rw [merge, if_neg hseveral, hlist, hdotted], ?_⟩
    simp [hlist]

end VolumeNumber

namespace VolumeNumbers

variable {n m : VolumeNumbers} {s : String}

@[simp] theorem texts_merge (n : VolumeNumbers) : n.merge.texts = n.texts := by
  simp [texts, merge]

@[simp] theorem compact_merge (n : VolumeNumbers) : n.merge.compact = n.compact := by
  rw [compact, texts_merge, compact]

@[simp] theorem merge_merge (n : VolumeNumbers) : n.merge.merge = n.merge := by
  simp [merge]

theorem find?_merge (n : VolumeNumbers) (volume : Nat) :
    n.merge.find? volume = (n.find? volume).map VolumeNumber.merge := by
  simp only [find?, merge, List.find?_map, Function.comp_def, volume_merge]

/-- A list with a number, and a segment in each, that is marked only if there are several. -/
structure Countable (n : VolumeNumbers) : Prop where
  nonempty : n.numbers ≠ []
  segments : ∀ v ∈ n.numbers, v.segments ≠ []
  several : n.merged = true → 1 < n.numbers.length

/-- What merged numbers are spelled out as, given their compact form. -/
inductive Labelled (n : VolumeNumbers) (s : String) : String → Prop
  | several (h : 1 < n.numbers.length) : Labelled n s ("Volumes " ++ s)
  | special {v : VolumeNumber} {segment : Segment} (hone : n.numbers = [v])
    (hsegment : v.segments = [segment]) (hkind : segment.kind = .special) : Labelled n s s
  | one {v : VolumeNumber} (hone : n.numbers = [v]) (hne : v.segments ≠ [])
    (hkind : ∀ segment, v.segments = [segment] → segment.kind ≠ .special) :
    Labelled n s ("Volume " ++ s)

theorem countable_singleton (v : Nat) {segments : List Segment} (h : segments ≠ []) :
    Countable ⟨[⟨v, segments⟩], false⟩ :=
  ⟨List.cons_ne_nil _ _, by simpa using h, by simp⟩

theorem Countable.mapTexts (h : n.Countable) (f : String → String) : (n.mapTexts f).Countable := by
  refine ⟨by simpa [VolumeNumbers.mapTexts] using h.nonempty, ?_, ?_⟩
  · intro v hv
    obtain ⟨u, hu, rfl⟩ := List.mem_map.mp hv
    simpa using h.segments u hu
  · simpa [VolumeNumbers.mapTexts] using h.several

theorem Countable.merge (h : n.Countable) : n.merge.Countable := by
  refine ⟨by simpa [VolumeNumbers.merge] using h.nonempty, ?_, ?_⟩
  · intro v hv
    obtain ⟨u, hu, rfl⟩ := List.mem_map.mp hv
    rw [VolumeNumber.merge]
    split
    · exact List.cons_ne_nil _ _
    · exact h.segments u hu
  · intro hmerged
    by_cases hlength : 1 < n.numbers.length
    · simpa [VolumeNumbers.merge] using hlength
    · have hmarked : n.merged = true := by simpa [VolumeNumbers.merge, hlength] using hmerged
      exact absurd (h.several hmarked) hlength

theorem Countable.change (h : n.Countable) (hm : n.Change m) : m.Countable := by
  cases hm with
  | digits => exact h.mapTexts _
  | pad => exact h.mapTexts _
  | merge => exact h.merge

/-- The compact form of one number is its dotted form. -/
theorem compact_singleton (v : VolumeNumber) (merged : Bool) :
    compact ⟨[v], merged⟩ = .ok v.dotted := by
  have hruns : cutRuns (texts ⟨[v], merged⟩) = .ok [[v.dotted]] := rfl
  rw [compact, hruns, Outcome.ok_bind]
  exact congrArg Except.ok String.intercalate_singleton

/-- Merged numbers are their compact form under one label, unless they are free text. -/
theorem exists_labelled_merge (h : n.Countable) (hs : n.compact = .ok s) :
    ∃ t, n.merge.spelled = .ok t ∧ n.Labelled s t := by
  by_cases hlength : 1 < n.numbers.length
  · have hmerged : n.merge.merged = true := if_pos hlength
    refine ⟨"Volumes " ++ s, ?_, .several hlength⟩
    rw [spelled, if_pos hmerged, compact_merge, hs, Outcome.ok_bind]
    rfl
  have hpos := List.length_pos_iff.mpr h.nonempty
  obtain ⟨v, hone⟩ := List.length_eq_one_iff.mp (show n.numbers.length = 1 by omega)
  have hmarked : n.merged = false := eq_false_of_ne_true fun hm => hlength (h.several hm)
  have hmerge : n.merge = ⟨[v.merge], false⟩ := by
    rw [merge, hone, hmarked]
    rfl
  have hcompact : n.compact = .ok v.dotted := by
    rw [← compact_merge, hmerge, compact_singleton, VolumeNumber.dotted_merge]
  obtain rfl : v.dotted = s := Except.ok.inj (hcompact.symm.trans hs)
  have hsegments : v.segments ≠ [] := h.segments v (by simp [hone])
  obtain ⟨kind, hsegment, hspecial⟩ := VolumeNumber.exists_segments_merge hsegments
  have hspelled : spelled ⟨[v.merge], false⟩ =
      .ok (if kind = .special then v.dotted else "Volume " ++ v.dotted) := by
    simp [spelled, hsegment]
  refine ⟨_, by rw [hmerge, hspelled], ?_⟩
  split
  · next hkind =>
    obtain ⟨segment, hlist, hfree⟩ := hspecial.mp hkind
    exact .special hone hlist hfree
  · next hkind =>
    exact .one hone hsegments fun segment hlist hfree =>
      hkind (hspecial.mpr ⟨segment, hlist, hfree⟩)

end VolumeNumbers

theorem Request.countable_of_internalNumbers {indices : List Nat} {ns : List VolumeNumber}
    (hseveral : 1 < indices.length) (h : indices.mapM r.internalNumber = .ok ns) :
    VolumeNumbers.Countable ⟨ns, false⟩ := by
  have hlength := congrArg List.length (volumes_of_internalNumbers h)
  rw [List.length_map] at hlength
  have hne : ns ≠ [] := List.ne_nil_of_length_pos (by omega)
  refine ⟨hne, fun v hv => ?_, by simp⟩
  obtain ⟨i, -, hi⟩ := Outcome.exists_of_mem_mapM h hv
  obtain ⟨volume, -, rfl⟩ := internalNumber_eq_ok.mp hi
  exact List.cons_ne_nil _ _

/-- Raw volume numbers that a run comes to have are countable, whatever the request. -/
theorem Context.Reaches.countable (h : ctx.Reaches .request v) :
    v.Lists VolumeNumbers.Countable := by
  refine h.induct (fun first hfirst => ?_) (fun text n vns hn => nomatch hn) fun hstep hv => ?_
  · exact Request.lists_of_seed hfirst Request.countable_of_internalNumbers
  · exact (Effect.of_apply hstep).lists VolumeNumbers.Countable.change
      (fun v _ => VolumeNumbers.countable_singleton v) hv

namespace Slot

variable {α : Type}

theorem mapRaw_mapRaw (f g : α → α) (slot : Slot α) :
    (slot.mapRaw g).mapRaw f = slot.mapRaw fun a => f (g a) := by
  cases slot <;> rfl

end Slot

/-- A prefix is a dotted number, and merging keeps that. -/
theorem PartNumber.prepend_merge (vns : VolumeNumbers) (p : PartNumber) :
    p.prepend r vns.merge = p.prepend r vns := by
  rw [prepend, prepend]
  cases r.homeVolume p.part with
  | error e => rfl
  | ok volume =>
    rw [Outcome.ok_bind, Outcome.ok_bind, VolumeNumbers.find?_merge]
    cases vns.find? volume with
    | none => rfl
    | some vn => simp

namespace Notes

theorem mergeVolumeNumbers_mergeVolumeNumbers (n : Notes) :
    n.mergeVolumeNumbers.mergeVolumeNumbers = n.mergeVolumeNumbers := by
  simp [mergeVolumeNumbers, Slot.mapRaw_mapRaw]

theorem renderVolumeNumbers_mergeVolumeNumbers (f : VolumeNumbers → Except Overflow String)
    (n : Notes) :
    n.mergeVolumeNumbers.renderVolumeNumbers f = n.renderVolumeNumbers fun vns => f vns.merge := by
  obtain ⟨volumeNumbers, partNumbers, marker⟩ := n
  cases volumeNumbers <;> rfl

theorem renderShortVolumeNumbers_mergeVolumeNumbers (n : Notes) :
    n.mergeVolumeNumbers.renderShortVolumeNumbers = n.renderShortVolumeNumbers := by
  simp [renderShortVolumeNumbers, renderVolumeNumbers_mergeVolumeNumbers]

theorem prependVolumeNumbers_mergeVolumeNumbers (several : Bool) (n : Notes) :
    n.mergeVolumeNumbers.prependVolumeNumbers r several =
      (n.prependVolumeNumbers r several).map mergeVolumeNumbers := by
  obtain ⟨volumeNumbers, partNumbers, marker⟩ := n
  cases volumeNumbers with
  | raw vns =>
    cases partNumbers with
    | raw ps =>
      have hlength : vns.merge.numbers.length = vns.numbers.length := List.length_map _
      have hprepend : PartNumber.prepend r vns.merge = PartNumber.prepend r vns :=
        funext (PartNumber.prepend_merge vns)
      simp only [mergeVolumeNumbers, prependVolumeNumbers, Slot.mapRaw, hlength, hprepend]
      split
      · rfl
      · cases ps.mapM (PartNumber.prepend r vns) <;> rfl
    | _ => rfl
  | _ => rfl

end Notes

namespace Value

theorem mapNotes_mapNotes (f g : Notes → Notes) (v : Value) :
    (v.mapNotes g).mapNotes f = v.mapNotes fun n => f (g n) := by
  cases v <;> rfl

theorem mapNotesM_mapNotes (f : Notes → Except NamingError Notes) (g : Notes → Notes) (v : Value) :
    (v.mapNotes g).mapNotesM f = v.mapNotesM fun n => f (g n) := by
  cases v <;> rfl

/-- A change of the notes that may fail, after one that commutes with it. -/
theorem mapNotesM_mapNotes_comm {f : Notes → Except NamingError Notes} {g : Notes → Notes}
    (h : ∀ n, f (g n) = (f n).map g) (v : Value) :
    (v.mapNotes g).mapNotesM f = (v.mapNotesM f).map (mapNotes g) := by
  rw [mapNotesM_mapNotes, funext h]
  cases v with
  | string s m => rfl
  | _ =>
    simp only [mapNotesM]
    cases f _ <;> rfl

end Value

namespace Call

variable {rule : Rule}

theorem apply_vnMerge (hv : v.isTerminal = false) :
    (ofRule .vnMerge).apply ctx v = .ok (v.mapNotes Notes.mergeVolumeNumbers) :=
  apply_ofRule rfl hv

theorem apply_vnShort (hv : v.isTerminal = false) :
    (ofRule .vnShort).apply ctx v = v.mapNotesM Notes.renderShortVolumeNumbers :=
  apply_ofRule rfl hv

theorem apply_vnFull (hv : v.isTerminal = false) :
    (ofRule .vnFull).apply ctx v = v.mapNotesM Notes.renderFullVolumeNumbers :=
  apply_ofRule rfl hv

/-- The rules that prefix part numbers, always or only next to several volume numbers. -/
def prefixing : List Rule := [.pnPrependVn, .pnPrependVnIfMultiple]

/-- What a rule that prefixes part numbers does to a value that is no string. -/
theorem exists_apply_prefixing (ctx : Context) (h : rule ∈ prefixing) : ∃ several, ∀ v : Value,
    v.isTerminal = false → (ofRule rule).apply ctx v =
      v.mapNotesM (Notes.prependVolumeNumbers ctx.request several) := by
  simp only [prefixing, List.mem_cons, List.not_mem_nil, or_false] at h
  rcases h with rfl | rfl
  · exact ⟨false, fun v hv => apply_ofRule rfl hv⟩
  · exact ⟨true, fun v hv => apply_ofRule rfl hv⟩

end Call

namespace Pipeline

variable {rule : Rule}

/-- Part numbers get the same prefixes before merging and after it. -/
theorem applyAll_merge_prefix (h : rule ∈ Call.prefixing) (hv : v.isTerminal = false) :
    applyAll ctx [.ofRule .vnMerge, .ofRule rule] v =
      applyAll ctx [.ofRule rule, .ofRule .vnMerge] v := by
  obtain ⟨several, happly⟩ := Call.exists_apply_prefixing ctx h
  have hmerged : (v.mapNotes Notes.mergeVolumeNumbers).isTerminal = false :=
    (Value.isTerminal_mapNotes _ v).trans hv
  rw [applyAll_cons (Call.apply_vnMerge hv), applyAll, happly _ hmerged,
    v.mapNotesM_mapNotes_comm fun n => n.prependVolumeNumbers_mergeVolumeNumbers several, applyAll,
    happly v hv]
  cases hprefix : v.mapNotesM (Notes.prependVolumeNumbers ctx.request several) with
  | error e => rfl
  | ok w =>
    have hw := (Value.isTerminal_of_mapNotesM hprefix).trans hv
    simp only [Except.map, applyAll, Call.apply_vnMerge hw]

/-- Where all part numbers are those of packaged parts, prefixing them cannot fail. -/
theorem exists_applyAll_merge_prefix (h : rule ∈ Call.prefixing) (hr : ctx.request.Valid)
    (hv : v.isTerminal = false) (hparts : ∀ n ps, v.notes? = some n → n.partNumbers = .raw ps →
      ∀ p ∈ ps, p.part < ctx.request.parts.length) :
    ∃ w, applyAll ctx [.ofRule rule, .ofRule .vnMerge] v = .ok w := by
  obtain ⟨several, happly⟩ := Call.exists_apply_prefixing ctx h
  obtain ⟨n, hn⟩ := Value.exists_notes? hv
  cases hprefix : v.mapNotesM (Notes.prependVolumeNumbers ctx.request several) with
  | error e =>
    have hstray := n.strays_of_prependVolumeNumbers (fun _ ps _ hps => hparts n ps hn hps)
      ((Value.mapNotesM_eq_error hn).mp hprefix)
    exact absurd hstray hr.not_strays
  | ok w =>
    have hw := (Value.isTerminal_of_mapNotesM hprefix).trans hv
    refine ⟨w.mapNotes Notes.mergeVolumeNumbers, ?_⟩
    rw [applyAll_cons ((happly v hv).trans hprefix), applyAll_cons (Call.apply_vnMerge hw)]
    rfl

end Pipeline

theorem Call.exists_apply_vnShort (hv : v.isTerminal = false)
    (h : ¬ (Call.ofRule .vnShort).Overflows v) :
    ∃ w, (Call.ofRule .vnShort).apply ctx v = .ok w := by
  rw [apply_ofRule rfl hv]
  cases hw : (Call.ofRule .vnShort).transform ctx v with
  | ok w => exact ⟨w, rfl⟩
  | error e => exact absurd ((transform_eq_error_iff (.inl rfl)).mp hw).1 h

/-- Raw volume numbers in compact notation, and spelled out after merging. -/
theorem Value.apply_of_raw {n : Notes} {vns : VolumeNumbers} {s t : String} (ctx : Context)
    (hn : v.notes? = some n) (hraw : n.volumeNumbers = .raw vns) (hs : vns.compact = .ok s)
    (ht : vns.merge.spelled = .ok t) :
    (Call.ofRule .vnShort).apply ctx v =
        .ok (v.mapNotes fun n => { n with volumeNumbers := .rendered s }) ∧
      Pipeline.applyAll ctx [.ofRule .vnMerge, .ofRule .vnFull] v =
        .ok (v.mapNotes fun n => { n with volumeNumbers := .rendered t }) := by
  have hv := isTerminal_of_notes? hn
  have hmerged : (v.mapNotes Notes.mergeVolumeNumbers).isTerminal = false :=
    (isTerminal_mapNotes _ v).trans hv
  constructor
  · rw [← VolumeNumbers.compact_merge] at hs
    rw [Call.apply_vnShort hv]
    exact renderVolumeNumbers_of_raw hn hraw hs
  · have hfull : (Call.ofRule .vnFull).apply ctx (v.mapNotes Notes.mergeVolumeNumbers) =
        .ok (v.mapNotes fun n => { n with volumeNumbers := .rendered t }) := by
      rw [Call.apply_vnFull hmerged, mapNotesM_mapNotes]
      simp only [Notes.renderFullVolumeNumbers, Notes.renderVolumeNumbers_mergeVolumeNumbers]
      exact renderVolumeNumbers_of_raw hn hraw ht
    rw [Pipeline.applyAll_cons (Call.apply_vnMerge hv), Pipeline.applyAll_cons hfull]
    rfl

/-- Merging changes nothing but how volume numbers are spelled out: it can be repeated, compact
notation and prefixes do not see it, and what is spelled out afterwards is compact notation under
one label, unless it is free text. -/
theorem merging_only_respells :
    (∀ (ctx : Context) (v : Value), v.isTerminal = false →
      ∃ w, (Call.ofRule .vnMerge).apply ctx v = .ok w ∧
        (Call.ofRule .vnMerge).apply ctx w = .ok w ∧
        (Call.ofRule .vnShort).apply ctx w = (Call.ofRule .vnShort).apply ctx v ∧
        (¬ (Call.ofRule .vnShort).Overflows v → ∃ u, (Call.ofRule .vnShort).apply ctx v = .ok u) ∧
        ∀ rule ∈ Call.prefixing,
          Pipeline.applyAll ctx [.ofRule .vnMerge, .ofRule rule] v =
            Pipeline.applyAll ctx [.ofRule rule, .ofRule .vnMerge] v ∧
          (ctx.request.Valid → (∀ n ps, v.notes? = some n → n.partNumbers = .raw ps →
              ∀ p ∈ ps, p.part < ctx.request.parts.length) →
            ∃ x, Pipeline.applyAll ctx [.ofRule rule, .ofRule .vnMerge] v = .ok x)) ∧
    ∀ (ctx : Context) (v : Value) (n : Notes) (vns : VolumeNumbers), ctx.Reaches .request v →
      v.notes? = some n → n.volumeNumbers = .raw vns →
        ∃ s t, (Call.ofRule .vnShort).apply ctx v =
            .ok (v.mapNotes fun n => { n with volumeNumbers := .rendered s }) ∧
          Pipeline.applyAll ctx [.ofRule .vnMerge, .ofRule .vnFull] v =
            .ok (v.mapNotes fun n => { n with volumeNumbers := .rendered t }) ∧
          vns.Labelled s t := by
  constructor
  · intro ctx v hv
    have hw : (v.mapNotes Notes.mergeVolumeNumbers).isTerminal = false :=
      (Value.isTerminal_mapNotes _ v).trans hv
    refine ⟨_, Call.apply_vnMerge hv, ?_, ?_, Call.exists_apply_vnShort hv, fun rule hrule =>
      ⟨Pipeline.applyAll_merge_prefix hrule hv,
        fun hr => Pipeline.exists_applyAll_merge_prefix hrule hr hv⟩⟩
    · rw [Call.apply_vnMerge hw, Value.mapNotes_mapNotes,
        funext Notes.mergeVolumeNumbers_mergeVolumeNumbers]
    · rw [Call.apply_vnShort hw, Call.apply_vnShort hv, Value.mapNotesM_mapNotes,
        funext Notes.renderShortVolumeNumbers_mergeVolumeNumbers]
  · intro ctx v n vns hv hn hraw
    have hfits : ¬ vns.Overflows := (hv.sound.bounded n vns hn hraw).not_overflows
    obtain ⟨s, hs⟩ := VolumeNumbers.exists_compact_eq_ok hfits
    obtain ⟨t, ht, hlabelled⟩ := VolumeNumbers.exists_labelled_merge (hv.countable n vns hn hraw) hs
    obtain ⟨hshort, hfull⟩ := v.apply_of_raw ctx hn hraw hs ht
    exact ⟨s, t, hshort, hfull, hlabelled⟩

/-- A volume that its title counts in two ways. -/
theorem merging_only_respells_compound :
    let r : Request := ⟨⟨"S", none, none⟩, [⟨7, "S: Part 5 Volume 2"⟩],
      [⟨7, 1, "x"⟩, ⟨7, 2, "y"⟩], ⟨false, false⟩⟩
    let ctx : Context := ⟨r, .title⟩
    let vns : VolumeNumbers := ⟨[⟨0, [⟨"5", .part⟩, ⟨"2", .volume⟩]⟩], false⟩
    let n : Notes := ⟨.raw vns, .raw [⟨0, "1"⟩, ⟨1, "2"⟩], .raw ⟨false, false⟩⟩
    let v : Value := .series [0] [0, 1] n
    v.isTerminal = false ∧ ctx.Reaches .request v ∧ v.notes? = some n ∧
      n.volumeNumbers = .raw vns ∧
      (Call.ofRule .vnShort).apply ctx v =
        .ok (v.mapNotes fun n => { n with volumeNumbers := .rendered "5.2" }) ∧
      Pipeline.applyAll ctx [.ofRule .vnMerge, .ofRule .vnFull] v =
        .ok (v.mapNotes fun n => { n with volumeNumbers := .rendered "Volume 5.2" }) ∧
      vns.Labelled "5.2" "Volume 5.2" ∧
      Rule.pnPrependVn ∈ Call.prefixing ∧
      Pipeline.applyAll ctx [.ofRule .vnMerge, .ofRule .pnPrependVn] v =
        Pipeline.applyAll ctx [.ofRule .pnPrependVn, .ofRule .vnMerge] v ∧
      r.Valid ∧ ∃ x, Pipeline.applyAll ctx [.ofRule .pnPrependVn, .ofRule .vnMerge] v = .ok x := by
  intro r ctx vns n v
  have hr : r.Valid := by decide
  have hseed : r.seed = .ok (.volume 0 [0, 1] { n with volumeNumbers := .absent }) :=
    Outcome.eq_ok_of_toOption (by decide +kernel)
  have hsplit : Pipeline.applyAll ctx [.ofRule .vSplitVolume]
      (.volume 0 [0, 1] { n with volumeNumbers := .absent }) = .ok v :=
    Outcome.eq_ok_of_toOption (by decide +kernel)
  have hreaches : ctx.Reaches .request v := (Context.Reaches.of_seed hseed).applyAll hsplit
  have hshort : (Call.ofRule .vnShort).apply ctx v =
      .ok (v.mapNotes fun n => { n with volumeNumbers := .rendered "5.2" }) :=
    Outcome.eq_ok_of_toOption (by decide +kernel)
  have hfull : Pipeline.applyAll ctx [.ofRule .vnMerge, .ofRule .vnFull] v =
      .ok (v.mapNotes fun n => { n with volumeNumbers := .rendered "Volume 5.2" }) :=
    Outcome.eq_ok_of_toOption (by decide +kernel)
  obtain ⟨hrules, hlabels⟩ := merging_only_respells
  obtain ⟨w, -, -, -, -, hprefix⟩ := hrules ctx v rfl
  obtain ⟨hcomm, hsome⟩ := hprefix .pnPrependVn (by decide)
  obtain ⟨s, t, hs, ht, hlabelled⟩ := hlabels ctx v n vns hreaches rfl rfl
  have hsame : "5.2" = s := by simpa [v, Value.mapNotes] using hshort.symm.trans hs
  have hsame' : "Volume 5.2" = t := by simpa [v, Value.mapNotes] using hfull.symm.trans ht
  subst hsame hsame'
  refine ⟨rfl, hreaches, rfl, rfl, hshort, hfull, hlabelled, by decide, hcomm, hr, hsome hr ?_⟩
  intro n' ps hn hps p hp
  cases hn
  cases hps
  revert p
  decide

end ReleaseNames
