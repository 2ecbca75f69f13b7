import Mathlib.Data.List.Find
import ReleaseNames.Proofs.Failure

/-!
# Renumbering volumes

Values refer to volumes by their indices in a request. Another request may list
the volumes of the same parts at other indices. As long as it gives each part the
same volume, every step does the same in both requests up to the change of
indices, and so every run ends with the same name or the same error.
-/

namespace ReleaseNames

def VolumeNumbers.mapVolumes (ρ : Nat → Nat) (n : VolumeNumbers) : VolumeNumbers :=
  { n with numbers := n.numbers.map fun v => { v with volume := ρ v.volume } }

def Notes.mapVolumes (ρ : Nat → Nat) (n : Notes) : Notes :=
  { n with volumeNumbers := n.volumeNumbers.mapRaw (VolumeNumbers.mapVolumes ρ) }

/-- Change the indices of all volumes that a value refers to. -/
def Value.mapVolumes (ρ : Nat → Nat) : Value → Value
  | .part i n => .part i (n.mapVolumes ρ)
  | .volume v parts n => .volume (ρ v) parts (n.mapVolumes ρ)
  | .series volumes parts n => .series (volumes.map ρ) parts (n.mapVolumes ρ)
  | .seriesString name volumes parts n =>
    .seriesString name (volumes.map ρ) parts (n.mapVolumes ρ)
  | .string text marker => .string text marker

/-- The second request gives each part the volume that the first one gives it, at an index that
`ρ` tells from the index there. -/
structure Request.Relabels (ρ : Nat → Nat) (r s : Request) : Prop where
  series : s.series = r.series
  parts : s.parts = r.parts
  marker : s.marker = r.marker
  index : ∀ p ∈ r.parts, s.volumeIndex? p.volume = (r.volumeIndex? p.volume).map ρ
  record : ∀ v ∈ r.spannedVolumes, s.volumes[ρ v]? = r.volumes[v]?

theorem eraseDups_map {f : Nat → Nat} : ∀ {l : List Nat},
    (∀ a ∈ l, ∀ b ∈ l, f a = f b → a = b) → (l.map f).eraseDups = l.eraseDups.map f
  | [], _ => rfl
  | a :: l, h => by
    have hfilter : (l.map f).filter (fun b => !b == f a) = (l.filter fun b => !b == a).map f := by
      rw [List.filter_map]
      congr 1
      apply List.filter_congr
      intro b hb
      have heq : (f b == f a) = (b == a) := by
        rw [Bool.eq_iff_iff, beq_iff_eq, beq_iff_eq]
        exact ⟨h b (List.mem_cons_of_mem a hb) a List.mem_cons_self, congrArg f⟩
      simp [heq]
    have hrest : ∀ b ∈ l.filter (fun b => !b == a), ∀ c ∈ l.filter (fun b => !b == a),
        f b = f c → b = c := fun b hb c hc =>
      h b (List.mem_cons_of_mem a (List.mem_of_mem_filter hb)) c
        (List.mem_cons_of_mem a (List.mem_of_mem_filter hc))
    rw [List.map_cons, List.eraseDups_cons, List.eraseDups_cons, List.map_cons, hfilter,
      eraseDups_map hrest]
termination_by l => l.length
decreasing_by exact Nat.lt_succ_of_le (List.length_filter_le _ l)

namespace Request.Relabels

variable {ρ : Nat → Nat} {r s : Request}

theorem partAt (h : Relabels ρ r s) (i : Nat) : s.partAt i = r.partAt i := by
  rw [Request.partAt, Request.partAt, h.parts]

theorem partNumber (h : Relabels ρ r s) (i : Nat) : s.partNumber i = r.partNumber i := by
  rw [Request.partNumber, Request.partNumber, h.partAt]

theorem homeVolume (h : Relabels ρ r s) (i : Nat) :
    s.homeVolume i = (r.homeVolume i).map ρ := by
  rw [Request.homeVolume, Request.homeVolume, Request.volumeOfPart, Request.volumeOfPart, h.parts]
  cases hp : r.parts[i]? with
  | none => rfl
  | some p =>
    dsimp only
    rw [h.index p (List.mem_of_getElem? hp)]
    cases r.volumeIndex? p.volume with
    | none => rfl
    | some v => rfl

variable {v w : Nat}

theorem volumeAt (h : Relabels ρ r s) (hv : v ∈ r.spannedVolumes) :
    s.volumeAt (ρ v) = r.volumeAt v := by
  obtain ⟨volume, hvolume⟩ := getElem?_of_mem_spannedVolumes hv
  rw [Request.volumeAt, Request.volumeAt, h.record v hv, hvolume]

theorem internalNumber (h : Relabels ρ r s) (hv : v ∈ r.spannedVolumes) :
    s.internalNumber (ρ v) =
      (r.internalNumber v).map fun n => { n with volume := ρ n.volume } := by
  obtain ⟨volume, hvolume⟩ := exists_volumeAt hv
  rw [Request.internalNumber, Request.internalNumber, h.volumeAt hv, hvolume]
  rfl

/-- Two spanned volumes at one new index have one number, and the first of that number is one. -/
theorem injective (h : Relabels ρ r s) (hv : v ∈ r.spannedVolumes) (hw : w ∈ r.spannedVolumes)
    (heq : ρ v = ρ w) : v = w := by
  obtain ⟨p, -, hp⟩ := mem_spannedVolumes.mp hv
  obtain ⟨q, -, hq⟩ := mem_spannedVolumes.mp hw
  obtain ⟨volume, hvolume, hnumber⟩ := getElem?_of_volumeIndex? hp
  obtain ⟨other, hother, hothers⟩ := getElem?_of_volumeIndex? hq
  have hrecord := h.record v hv
  rw [heq, h.record w hw, hother, hvolume] at hrecord
  cases hrecord
  rw [← hnumber, hothers, hq] at hp
  cases hp
  rfl

theorem spannedVolumes (h : Relabels ρ r s) : s.spannedVolumes = r.spannedVolumes.map ρ := by
  have hindices : s.parts.filterMap (fun p => s.volumeIndex? p.volume) =
      (r.parts.filterMap fun p => r.volumeIndex? p.volume).map ρ := by
    rw [h.parts, List.map_filterMap]
    exact List.filterMap_congr h.index
  rw [Request.spannedVolumes, Request.spannedVolumes, hindices]
  apply eraseDups_map
  intro a ha b hb
  exact h.injective (List.mem_eraseDups.mpr ha) (List.mem_eraseDups.mpr hb)

end Request.Relabels

/-! What reads no index commutes with a change of indices. -/

namespace VolumeNumbers

variable (ρ : Nat → Nat) (n : VolumeNumbers)

theorem texts_mapVolumes : (n.mapVolumes ρ).texts = n.texts := by
  simp [texts, mapVolumes, Function.comp_def, VolumeNumber.dotted]

theorem mapTexts_mapVolumes (f : String → String) :
    (n.mapVolumes ρ).mapTexts f = (n.mapTexts f).mapVolumes ρ := by
  simp [mapTexts, mapVolumes, Function.comp_def]

theorem merge_mapVolumes : (n.mapVolumes ρ).merge = n.merge.mapVolumes ρ := by
  have hmerge : ∀ v : VolumeNumber, VolumeNumber.merge { v with volume := ρ v.volume } =
      { v.merge with volume := ρ v.merge.volume } := by
    intro v
    rw [VolumeNumber.merge, VolumeNumber.merge]
    split <;> rfl
  simp [merge, mapVolumes, Function.comp_def, hmerge]

theorem compact_mapVolumes : (n.mapVolumes ρ).compact = n.compact := by
  rw [compact, compact, texts_mapVolumes]

theorem spelled_mapVolumes : (n.mapVolumes ρ).spelled = n.spelled := by
  rw [spelled, spelled, compact_mapVolumes, texts_mapVolumes]
  obtain ⟨numbers, merged⟩ := n
  cases numbers with
  | nil => rfl
  | cons v rest =>
    cases rest with
    | nil => rfl
    | cons w rest => rfl

end VolumeNumbers

/-- A change of notes that reads no index of a volume. -/
def Notes.Oblivious (f : Notes → Notes) : Prop :=
  ∀ (ρ : Nat → Nat) (n : Notes), f (n.mapVolumes ρ) = (f n).mapVolumes ρ

namespace Notes

theorem oblivious_dropMarker : Oblivious dropMarker :=
  fun _ _ => rfl

theorem oblivious_dropPartNumbers : Oblivious dropPartNumbers :=
  fun _ _ => rfl

theorem oblivious_padPartNumbers : Oblivious padPartNumbers :=
  fun _ _ => rfl

theorem oblivious_renderPartNumbers (f : List PartNumber → String) :
    Oblivious (renderPartNumbers f) :=
  fun _ _ => rfl

theorem oblivious_dropVolumeNumbers : Oblivious dropVolumeNumbers := by
  intro ρ n
  obtain ⟨vns, ps, m⟩ := n
  cases vns <;> rfl

theorem oblivious_dropCarriedVolumeNumbers : Oblivious dropCarriedVolumeNumbers := by
  intro ρ n
  rw [dropCarriedVolumeNumbers, dropCarriedVolumeNumbers, oblivious_dropVolumeNumbers]
  exact (apply_ite (mapVolumes ρ) _ _ _).symm

theorem oblivious_mapSegments (f : String → String) : Oblivious (mapSegments f) := by
  intro ρ n
  obtain ⟨vns, ps, m⟩ := n
  cases vns with
  | raw vns => simp [mapSegments, mapVolumes, Slot.mapRaw, VolumeNumbers.mapTexts_mapVolumes]
  | _ => rfl

theorem oblivious_mergeVolumeNumbers : Oblivious mergeVolumeNumbers := by
  intro ρ n
  obtain ⟨vns, ps, m⟩ := n
  cases vns with
  | raw vns => simp [mergeVolumeNumbers, mapVolumes, Slot.mapRaw, VolumeNumbers.merge_mapVolumes]
  | _ => rfl

theorem renderVolumeNumbers_mapVolumes {ρ : Nat → Nat} {f : VolumeNumbers → Except Overflow String}
    (hf : ∀ vns, f (VolumeNumbers.mapVolumes ρ vns) = f vns) (n : Notes) :
    (n.mapVolumes ρ).renderVolumeNumbers f = (n.renderVolumeNumbers f).map (mapVolumes ρ) := by
  obtain ⟨vns, ps, m⟩ := n
  cases vns with
  | raw vns =>
    simp only [renderVolumeNumbers, mapVolumes, Slot.mapRaw, hf]
    cases f vns <;> rfl
  | _ => rfl

theorem pieces_mapVolumes (ρ : Nat → Nat) (n : Notes) : (n.mapVolumes ρ).pieces = n.pieces := by
  obtain ⟨vns, ps, m⟩ := n
  cases vns <;> rfl

end Notes

namespace Value

variable {ρ : Nat → Nat}

theorem stage_mapVolumes (v : Value) : (v.mapVolumes ρ).stage = v.stage := by
  cases v <;> rfl

theorem isTerminal_mapVolumes (v : Value) : (v.mapVolumes ρ).isTerminal = v.isTerminal := by
  cases v <;> rfl

theorem mapNotes_mapVolumes {f : Notes → Notes} (hf : Notes.Oblivious f) (v : Value) :
    (v.mapVolumes ρ).mapNotes f = (v.mapNotes f).mapVolumes ρ := by
  cases v <;> simp only [mapVolumes, mapNotes, hf ρ]

theorem renderMarker_mapVolumes (f : Marker → String) (v : Value) :
    (v.mapVolumes ρ).renderMarker f = (v.renderMarker f).mapVolumes ρ := by
  cases v with
  | string text marker => cases marker <;> rfl
  | _ => rfl

theorem collapse_mapVolumes (head : Option String) (v : Value) :
    (v.mapVolumes ρ).collapse head = (v.collapse head).mapVolumes ρ := by
  cases v <;> simp only [mapVolumes, collapse, notes?, Notes.pieces_mapVolumes] <;> rfl

theorem nameSeries_mapVolumes (name : String) (v : Value) :
    (v.mapVolumes ρ).nameSeries name = (v.nameSeries name).mapVolumes ρ := by
  cases v <;> rfl

theorem mapName_mapVolumes (f : List Char → List Char) (v : Value) :
    (v.mapVolumes ρ).mapName f = (v.mapName f).mapVolumes ρ := by
  cases v <;> rfl

theorem mapText_mapVolumes (f : List Char → List Char) (v : Value) :
    (v.mapVolumes ρ).mapText f = (v.mapText f).mapVolumes ρ := by
  cases v <;> rfl

theorem toText_mapVolumes (addColon : Bool) (v : Value) :
    (v.mapVolumes ρ).toText addColon = (v.toText addColon).mapVolumes ρ := by
  cases v with
  | seriesString name volumes parts n =>
    rw [mapVolumes, toText, toText]
    exact collapse_mapVolumes (some _) (.seriesString name volumes parts n)
  | part i n => exact collapse_mapVolumes none (.part i n)
  | volume v parts n => exact collapse_mapVolumes none (.volume v parts n)
  | series volumes parts n => exact collapse_mapVolumes none (.series volumes parts n)
  | string text marker => rfl

end Value

namespace Request.Relabels

variable {ρ : Nat → Nat} {r s : Request} {v : Value}

theorem partToVolume (h : Relabels ρ r s) (v : Value) :
    (v.mapVolumes ρ).partToVolume s = (v.partToVolume r).map (Value.mapVolumes ρ) := by
  cases v with
  | part i n =>
    rw [Value.mapVolumes, Value.partToVolume, Value.partToVolume, h.homeVolume, h.partNumber]
    cases r.homeVolume i with
    | error e => rfl
    | ok home => cases r.partNumber i <;> rfl
  | _ => rfl

theorem partToSeries (h : Relabels ρ r s) (v : Value) :
    (v.mapVolumes ρ).partToSeries s = (v.partToSeries r).map (Value.mapVolumes ρ) := by
  cases v with
  | part i n =>
    rw [Value.mapVolumes, Value.partToSeries, Value.partToSeries, h.homeVolume, h.partNumber]
    cases hhome : r.homeVolume i with
    | error e => rfl
    | ok home =>
      have hnumber := h.internalNumber (mem_spannedVolumes_of_homeVolume hhome)
      simp only [Except.map, Outcome.ok_bind, hnumber]
      cases r.internalNumber home with
      | error e => rfl
      | ok number => cases r.partNumber i <;> rfl
  | _ => rfl

theorem volumeToSeries (h : Relabels ρ r s) (hv : v.Aligned r) :
    (v.mapVolumes ρ).volumeToSeries s = (v.volumeToSeries r).map (Value.mapVolumes ρ) := by
  cases v with
  | volume w parts n =>
    have hmem := Value.mem_of_aligned_volume hv
    rw [Value.mapVolumes, Value.volumeToSeries, Value.volumeToSeries, h.internalNumber hmem]
    cases r.internalNumber w <;> rfl
  | _ => rfl

theorem splitVolume (h : Relabels ρ r s) (hv : v.Aligned r) :
    (v.mapVolumes ρ).splitVolume s = (v.splitVolume r).map (Value.mapVolumes ρ) := by
  cases v with
  | volume w parts n =>
    have hmem := Value.mem_of_aligned_volume hv
    rw [Value.mapVolumes, Value.splitVolume, Value.splitVolume, h.volumeAt hmem, h.series]
    cases r.volumeAt w with
    | error e => rfl
    | ok listed =>
      simp only [Outcome.ok_bind]
      cases VolumeTitle.qualifier r.series listed.title <;> rfl
  | _ => rfl

theorem toSeries (h : Relabels ρ r s) (hv : v.Aligned r) :
    (v.mapVolumes ρ).toSeries s = (v.toSeries r).map (Value.mapVolumes ρ) := by
  rw [Value.toSeries, Value.toSeries, h.volumeToSeries hv]
  cases v.volumeToSeries r with
  | error e => rfl
  | ok w => exact h.partToSeries w

theorem partTitle (h : Relabels ρ r s) (v : Value) :
    (v.mapVolumes ρ).partTitle s = (v.partTitle r).map (Value.mapVolumes ρ) := by
  cases v with
  | part i n =>
    rw [Value.mapVolumes, Value.partTitle, Value.partTitle, h.partAt]
    cases r.partAt i with
    | error e => rfl
    | ok p => exact congrArg Except.ok (Value.collapse_mapVolumes _ (.part i n))
  | _ => rfl

theorem volumeTitle (h : Relabels ρ r s) (hv : v.Aligned r) :
    (v.mapVolumes ρ).volumeTitle s = (v.volumeTitle r).map (Value.mapVolumes ρ) := by
  cases v with
  | volume w parts n =>
    have hmem := Value.mem_of_aligned_volume hv
    rw [Value.mapVolumes, Value.volumeTitle, Value.volumeTitle, h.volumeAt hmem]
    cases r.volumeAt w with
    | error e => rfl
    | ok listed => exact congrArg Except.ok (Value.collapse_mapVolumes _ (.volume w parts n))
  | _ => rfl

def Counts (r : Request) (vns : VolumeNumbers) : Prop :=
  ∀ n ∈ vns.numbers, n.volume ∈ r.spannedVolumes

theorem find? (h : Relabels ρ r s) {vns : VolumeNumbers} (hvns : Counts r vns) {w : Nat}
    (hw : w ∈ r.spannedVolumes) :
    (vns.mapVolumes ρ).find? (ρ w) =
      (vns.find? w).map fun n => { n with volume := ρ n.volume } := by
  rw [VolumeNumbers.find?, VolumeNumbers.find?, VolumeNumbers.mapVolumes, List.find?_map]
  congr 1
  apply List.find?_congr
  intro n hn
  rw [Function.comp_apply, Bool.eq_iff_iff, beq_iff_eq, beq_iff_eq]
  exact ⟨h.injective (hvns n hn) hw, congrArg ρ⟩

theorem prepend (h : Relabels ρ r s) {vns : VolumeNumbers} (hvns : Counts r vns)
    (p : PartNumber) : p.prepend s (vns.mapVolumes ρ) = p.prepend r vns := by
  rw [PartNumber.prepend, PartNumber.prepend, h.homeVolume]
  cases hhome : r.homeVolume p.part with
  | error e => rfl
  | ok home =>
    have hfind := h.find? hvns (mem_spannedVolumes_of_homeVolume hhome)
    simp only [Except.map, Outcome.ok_bind, hfind]
    cases vns.find? home <;> rfl

theorem prependVolumeNumbers (h : Relabels ρ r s) (several : Bool) {n : Notes}
    (hn : ∀ vns, n.volumeNumbers = .raw vns → Counts r vns) :
    (n.mapVolumes ρ).prependVolumeNumbers s several =
      (n.prependVolumeNumbers r several).map (Notes.mapVolumes ρ) := by
  obtain ⟨slot, ps, m⟩ := n
  cases slot with
  | raw vns =>
    cases ps with
    | raw ps =>
      have hprepend : PartNumber.prepend s (vns.mapVolumes ρ) = PartNumber.prepend r vns :=
        funext (h.prepend (hn vns rfl))
      have hlength : (vns.mapVolumes ρ).numbers.length = vns.numbers.length := List.length_map _
      simp only [Notes.prependVolumeNumbers, Notes.mapVolumes, Slot.mapRaw, hprepend, hlength]
      split
      · rfl
      · cases ps.mapM (PartNumber.prepend r vns) <;> rfl
    | _ => rfl
  | _ => rfl

theorem mapNotesM (f g : Notes → Except NamingError Notes)
    (hf : ∀ n, v.notes? = some n → g (n.mapVolumes ρ) = (f n).map (Notes.mapVolumes ρ)) :
    (v.mapVolumes ρ).mapNotesM g = (v.mapNotesM f).map (Value.mapVolumes ρ) := by
  cases v with
  | string text marker => rfl
  | part i n =>
    rw [Value.mapVolumes, Value.mapNotesM, Value.mapNotesM, hf n rfl]
    cases f n <;> rfl
  | volume w parts n =>
    rw [Value.mapVolumes, Value.mapNotesM, Value.mapNotesM, hf n rfl]
    cases f n <;> rfl
  | series volumes parts n =>
    rw [Value.mapVolumes, Value.mapNotesM, Value.mapNotesM, hf n rfl]
    cases f n <;> rfl
  | seriesString name volumes parts n =>
    rw [Value.mapVolumes, Value.mapNotesM, Value.mapNotesM, hf n rfl]
    cases f n <;> rfl

theorem counts_of_aligned {n : Notes} {vns : VolumeNumbers} (hv : v.Aligned r)
    (hn : v.notes? = some n) (hvns : n.volumeNumbers = .raw vns) : Counts r vns := by
  have hcounts : ∀ {volumes : List Nat}, volumes = r.spannedVolumes →
      vns.numbers.map (·.volume) = volumes → Counts r vns := by
    rintro volumes rfl hmap w hw
    rw [← hmap]
    exact List.mem_map_of_mem hw
  cases v with
  | part i n' =>
    cases hn
    rw [hv.2.2.1] at hvns
    cases hvns
  | volume w parts n' =>
    cases hn
    rw [hv.2.2.1] at hvns
    cases hvns
  | series volumes parts n' =>
    cases hn
    exact hcounts hv.1 (hv.2.2.volumeNumbers vns hvns)
  | seriesString name volumes parts n' =>
    cases hn
    exact hcounts hv.1 (hv.2.2.volumeNumbers vns hvns)
  | string text marker => cases hn

theorem members (h : Relabels ρ r s) (v : Value) :
    (v.mapVolumes ρ).members s = (v.members r).map fun m => (m.1.map ρ, m.2) := by
  cases v with
  | part i n =>
    rw [Value.mapVolumes, Value.members, Value.members, h.homeVolume]
    cases r.homeVolume i <;> rfl
  | _ => rfl

theorem mapM_volumeAt (h : Relabels ρ r s) {volumes : List Nat}
    (hvolumes : ∀ w ∈ volumes, w ∈ r.spannedVolumes) :
    (volumes.map ρ).mapM s.volumeAt = volumes.mapM r.volumeAt := by
  have hmap : (volumes.map ρ).mapM s.volumeAt = (volumes.mapM r.volumeAt).map (List.map id) := by
    apply Outcome.mapM_map
    intro w hw
    rw [h.volumeAt (hvolumes w hw), Except.map_id]
    rfl
  rw [hmap, List.map_id_fun, Except.map_id]
  rfl

theorem legacyTitle (h : Relabels ρ r s) (c : Channel) (hv : v.Aligned r) :
    (v.mapVolumes ρ).legacyTitle ⟨s, c⟩ =
      (v.legacyTitle ⟨r, c⟩).map (Value.mapVolumes ρ) := by
  have hpartAt : s.partAt = r.partAt := funext h.partAt
  rw [Value.legacyTitle, Value.legacyTitle, Value.isTerminal_mapVolumes, Value.stage_mapVolumes,
    h.members, hpartAt, h.series, h.marker]
  split
  · rfl
  · cases hmembers : v.members r with
    | error e => rfl
    | ok m =>
      have hspanned := (Value.mem_of_members hv hmembers).1
      simp only [Except.map, Outcome.ok_bind, h.mapM_volumeAt hspanned]
      cases m.1.mapM r.volumeAt with
      | error e => rfl
      | ok volumes => cases m.2.mapM r.partAt <;> rfl

theorem dropIfComplete (h : Relabels ρ r s) {f : Notes → Notes} (hf : Notes.Oblivious f)
    (v : Value) :
    (if s.marker.complete then (v.mapVolumes ρ).mapNotes f else v.mapVolumes ρ) =
      (if r.marker.complete then v.mapNotes f else v).mapVolumes ρ := by
  rw [h.marker, Value.mapNotes_mapVolumes hf]
  exact (apply_ite (Value.mapVolumes ρ) _ _ _).symm

/-- One step: a rule does the same in both requests, up to the change of indices. -/
theorem transform (h : Relabels ρ r s) (call : Call) (c : Channel) (hv : v.Aligned r) :
    call.transform ⟨s, c⟩ (v.mapVolumes ρ) =
      (call.transform ⟨r, c⟩ v).map (Value.mapVolumes ρ) := by
  have hok : ∀ {a b : Value}, a = b.mapVolumes ρ →
      (Except.ok a : Except NamingError Value) = (Except.ok b).map (Value.mapVolumes ρ) :=
    fun heq => congrArg Except.ok heq
  have hprepend : ∀ several,
      (v.mapVolumes ρ).mapNotesM (Notes.prependVolumeNumbers s several) =
        (v.mapNotesM (Notes.prependVolumeNumbers r several)).map (Value.mapVolumes ρ) :=
    fun several => mapNotesM _ _ fun n hn =>
      h.prependVolumeNumbers several fun vns hvns => counts_of_aligned hv hn hvns
  have hrender : ∀ f : VolumeNumbers → Except Overflow String,
      (∀ vns, f (VolumeNumbers.mapVolumes ρ vns) = f vns) →
        (v.mapVolumes ρ).mapNotesM (Notes.renderVolumeNumbers f) =
          (v.mapNotesM (Notes.renderVolumeNumbers f)).map (Value.mapVolumes ρ) :=
    fun f hf => mapNotesM _ _ fun n _ => n.renderVolumeNumbers_mapVolumes hf
  obtain ⟨rule, args⟩ := call
  cases rule with
  | fcRm => exact hok (Value.mapNotes_mapVolumes Notes.oblivious_dropMarker v)
  | fcRmIfComplete => exact hok (h.dropIfComplete Notes.oblivious_dropMarker v)
  | fcShort => exact hok (Value.renderMarker_mapVolumes Marker.short v)
  | fcFull => exact hok (Value.renderMarker_mapVolumes Marker.full v)
  | pToVolume => exact h.partToVolume v
  | pToSeries => exact h.partToSeries v
  | pSplitPart => exact h.partToVolume v
  | pTitle => exact h.partTitle v
  | pnRm => exact hok (Value.mapNotes_mapVolumes Notes.oblivious_dropPartNumbers v)
  | pnRmIfComplete => exact hok (h.dropIfComplete Notes.oblivious_dropPartNumbers v)
  | pnPrependVn => exact hprepend false
  | pnPrependVnIfMultiple => exact hprepend true
  | pnZeroPad => exact hok (Value.mapNotes_mapVolumes Notes.oblivious_padPartNumbers v)
  | pnShort =>
    exact hok (Value.mapNotes_mapVolumes (Notes.oblivious_renderPartNumbers shortPartNumbers) v)
  | pnFull =>
    exact hok (Value.mapNotes_mapVolumes (Notes.oblivious_renderPartNumbers fullPartNumbers) v)
  | vToSeries => exact h.volumeToSeries hv
  | vSplitVolume => exact h.splitVolume hv
  | vTitle => exact h.volumeTitle hv
  | vnRm => exact hok (Value.mapNotes_mapVolumes Notes.oblivious_dropVolumeNumbers v)
  | vnRmIfPn => exact hok (Value.mapNotes_mapVolumes Notes.oblivious_dropCarriedVolumeNumbers v)
  | vnNumber =>
    exact hok (Value.mapNotes_mapVolumes (Notes.oblivious_mapSegments Text.digitsOfWord) v)
  | vnMerge => exact hok (Value.mapNotes_mapVolumes Notes.oblivious_mergeVolumeNumbers v)
  | vnZeroPad =>
    exact hok (Value.mapNotes_mapVolumes (Notes.oblivious_mapSegments (Text.zeroPad 2)) v)
  | vnShort =>
    refine hrender (fun vns => vns.merge.compact) fun vns => ?_
    rw [VolumeNumbers.merge_mapVolumes, VolumeNumbers.compact_mapVolumes]
  | vnFull => exact hrender VolumeNumbers.spelled (VolumeNumbers.spelled_mapVolumes ρ)
  | toSeries => exact h.toSeries hv
  | sTitle => exact hok (h.series ▸ Value.nameSeries_mapVolumes r.series.fullTitle v)
  | sSlug => exact hok (h.series ▸ Value.nameSeries_mapVolumes r.series.slugOrTitle v)
  | ssRmStopwords => exact hok (Value.mapName_mapVolumes _ v)
  | ssRmSubtitle => exact hok (Value.mapName_mapVolumes _ v)
  | ssAcronym => exact hok (Value.mapName_mapVolumes _ v)
  | ssFirst => exact hok (Value.mapName_mapVolumes _ v)
  | ssMaxLen => exact hok (Value.mapName_mapVolumes _ v)
  | legacyT => exact h.legacyTitle c hv
  | legacyF =>
    have hfolder : Value.text (Legacy.folder s.series) = Value.text (Legacy.folder r.series) := by
      rw [h.series]
    exact hok hfolder
  | toString => exact hok (Value.toText_mapVolumes _ v)
  | strRmSpace => exact hok (Value.mapText_mapVolumes _ v)
  | strReplaceSpace => exact hok (Value.mapText_mapVolumes _ v)
  | strFilesafe => exact hok (Value.mapText_mapVolumes _ v)

theorem apply (h : Relabels ρ r s) (call : Call) (c : Channel) (hv : v.Aligned r) :
    call.apply ⟨s, c⟩ (v.mapVolumes ρ) = (call.apply ⟨r, c⟩ v).map (Value.mapVolumes ρ) := by
  have hadmits : ∀ a : Accepts, a.admits (v.mapVolumes ρ) = a.admits v := by
    intro a
    cases a <;> simp only [Accepts.admits, Value.isTerminal_mapVolumes]
  rw [Call.apply, Call.apply, hadmits, Value.stage_mapVolumes]
  split
  · exact h.transform call c hv
  · rfl

/-- A run: the calls do the same in both requests, up to the change of indices. -/
theorem applyAll (h : Relabels ρ r s) (c : Channel) (calls : List Call) (hv : v.Aligned r) :
    Pipeline.applyAll ⟨s, c⟩ calls (v.mapVolumes ρ) =
      (Pipeline.applyAll ⟨r, c⟩ calls v).map (Value.mapVolumes ρ) := by
  induction calls generalizing v with
  | nil => rfl
  | cons call calls ih =>
    rw [Pipeline.applyAll, Pipeline.applyAll, h.apply call c hv]
    cases hnext : call.apply ⟨r, c⟩ v with
    | error e => rfl
    | ok next => exact ih ((Effect.of_apply hnext).aligned hv)

theorem mapM_internalNumber (h : Relabels ρ r s) :
    (r.spannedVolumes.map ρ).mapM s.internalNumber =
      (r.spannedVolumes.mapM r.internalNumber).map
        (List.map fun n => { n with volume := ρ n.volume }) :=
  Outcome.mapM_map fun _ hw => h.internalNumber hw

theorem seed (h : Relabels ρ r s) : s.seed = r.seed.map (Value.mapVolumes ρ) := by
  have hpartNumber : s.partNumber = r.partNumber := funext h.partNumber
  rw [Request.seed.eq_def, Request.seed.eq_def, h.parts, h.marker, h.spannedVolumes, hpartNumber]
  have hnumbers := h.mapM_internalNumber
  split
  · rfl
  · cases hspan : r.spannedVolumes with
    | nil => rfl
    | cons first others =>
      rw [hspan, List.map_cons] at hnumbers
      simp only [List.map_cons, List.map_eq_nil_iff, hnumbers]
      cases (List.range r.parts.length).mapM r.partNumber with
      | error e => rfl
      | ok partNumbers =>
        simp only [Outcome.ok_bind]
        split
        · rfl
        · cases (first :: others).mapM r.internalNumber <;> rfl

theorem start (h : Relabels ρ r s) (p : Pipeline) (c : Channel) (title : Option String) :
    p.start ⟨s, c⟩ title = (p.start ⟨r, c⟩ title).map (Value.mapVolumes ρ) := by
  rw [Pipeline.start.eq_def, Pipeline.start.eq_def]
  cases p.seed with
  | request => exact h.seed
  | title => cases title <;> rfl

/-- A pipeline makes the same name in both requests, or fails by the same error. -/
theorem run (h : Relabels ρ r s) (p : Pipeline) (c : Channel) (title : Option String) :
    p.run ⟨s, c⟩ title = p.run ⟨r, c⟩ title := by
  rw [Pipeline.run, Pipeline.run, h.start]
  cases hstart : p.start ⟨r, c⟩ title with
  | error e => rfl
  | ok first =>
    have haligned := Pipeline.aligned_of_start hstart
    dsimp only [Except.map]
    rw [h.applyAll c p.steps haligned]
    cases Pipeline.applyAll ⟨r, c⟩ p.steps first with
    | error e => rfl
    | ok last => cases last <;> rfl

end Request.Relabels

end ReleaseNames
