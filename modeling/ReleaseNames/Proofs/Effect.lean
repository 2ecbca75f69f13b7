import ReleaseNames.Proofs.Home
import ReleaseNames.Transform

/-!
# What a rule can do to a value

There are many rules, but a rule that succeeds does one of ten things: it keeps
the value, edits its notes, moves it up by one or two stages, names or renames a
series, makes a string of it, or changes a string. What holds of values along a
run is proved for these effects and not for each rule.

An effect says from what and to what a value goes, and keeps the texts that rules
compute only where they go into volume or part numbers.
-/

namespace ReleaseNames

variable {r : Request}

/-- What can happen to a slot: nothing, or, while it is raw, its content is dropped, changed in an
allowed way, or rendered. -/
inductive Slot.Edit {α : Type} (allowed : α → α → Prop) : Slot α → Slot α → Prop
  | keep (s : Slot α) : Edit allowed s s
  | drop (a : α) : Edit allowed (.raw a) .absent
  | change {a b : α} (h : allowed a b) : Edit allowed (.raw a) (.raw b)
  | render (a : α) (text : String) : Edit allowed (.raw a) (.rendered text)

/-- How volume numbers change while they stay raw. -/
inductive VolumeNumbers.Change : VolumeNumbers → VolumeNumbers → Prop
  | digits (n : VolumeNumbers) : Change n (n.mapTexts Text.digitsOfWord)
  | pad (n : VolumeNumbers) : Change n (n.mapTexts (Text.zeroPad 2))
  | merge (n : VolumeNumbers) : Change n n.merge

/-- How part numbers change while they stay raw, next to a slot of volume numbers. -/
inductive PartNumber.Change (r : Request) (slot : Slot VolumeNumbers) :
    List PartNumber → List PartNumber → Prop
  | pad (ps : List PartNumber) :
    Change r slot ps (ps.map fun p => { p with text := Text.zeroPad 2 p.text })
  | prepend {vns : VolumeNumbers} {ps qs : List PartNumber} (hslot : slot = .raw vns)
    (h : ps.mapM (PartNumber.prepend r vns) = .ok qs) : Change r slot ps qs

/-- What can happen to the notes of a value that stays at its stage. A marker is never changed
into another marker. -/
structure Notes.Edit (r : Request) (n m : Notes) : Prop where
  volumeNumbers : n.volumeNumbers.Edit VolumeNumbers.Change m.volumeNumbers
  partNumbers : n.partNumbers.Edit (PartNumber.Change r n.volumeNumbers) m.partNumbers
  marker : n.marker.Edit (fun _ _ => False) m.marker

/-- What a rule that succeeds can do to a value. -/
inductive Effect (r : Request) : Value → Value → Prop
  | keep (v : Value) : Effect r v v
  | edit {v : Value} {n m : Notes} (hn : v.notes? = some n) (h : n.Edit r m) :
    Effect r v (v.mapNotes fun _ => m)
  | partToVolume {i v : Nat} {n : Notes} {number : PartNumber} (hv : r.homeVolume i = .ok v)
    (hi : r.partNumber i = .ok number) :
    Effect r (.part i n) (.volume v [i] { n with partNumbers := .raw [number] })
  | partToSeries {i v : Nat} {n : Notes} {volumeNumber : VolumeNumber} {partNumber : PartNumber}
    (hv : r.homeVolume i = .ok v) (hn : r.internalNumber v = .ok volumeNumber)
    (hi : r.partNumber i = .ok partNumber) :
    Effect r (.part i n) (.series [v] [i] { n with
      volumeNumbers := .raw ⟨[volumeNumber], false⟩
      partNumbers := .raw [partNumber] })
  | volumeToSeries (v : Nat) (parts : List Nat) (n : Notes) {segments : List Segment}
    (hsegments : segments ≠ []) :
    Effect r (.volume v parts n) (Value.numberedSeries ⟨v, segments⟩ v parts n)
  | name (name : String) (volumes parts : List Nat) (n : Notes) :
    Effect r (.series volumes parts n) (.seriesString name volumes parts n)
  | rename (name name' : String) (volumes parts : List Nat) (n : Notes) :
    Effect r (.seriesString name volumes parts n) (.seriesString name' volumes parts n)
  | collapse {v : Value} (h : v.isTerminal = false) (head : Option String) :
    Effect r v (v.collapse head)
  | legacy {v : Value} (h : v.isTerminal = false) (text : String) : Effect r v (.text text)
  | retext (s t : String) (m : Option Marker) : Effect r (.string s m) (.string t m)
  | mark (s t : String) (m : Marker) : Effect r (.string s (some m)) (.text t)

namespace Slot

variable {α : Type} {allowed : α → α → Prop}

theorem edit_dropRaw (s : Slot α) : s.Edit allowed s.dropRaw := by
  cases s with
  | raw a => exact .drop a
  | absent => exact .keep _
  | rendered text => exact .keep _

theorem edit_render (f : α → String) (s : Slot α) : s.Edit allowed (s.render f) := by
  cases s with
  | raw a => exact .render a (f a)
  | absent => exact .keep _
  | rendered text => exact .keep _

theorem edit_mapRaw {f : α → α} (h : ∀ a, allowed a (f a)) (s : Slot α) :
    s.Edit allowed (s.mapRaw f) := by
  cases s with
  | raw a => exact .change (h a)
  | absent => exact .keep _
  | rendered text => exact .keep _

end Slot

namespace Notes

theorem Edit.refl (n : Notes) : n.Edit r n :=
  ⟨.keep _, .keep _, .keep _⟩

theorem edit_dropMarker (n : Notes) : n.Edit r n.dropMarker :=
  ⟨.keep _, .keep _, n.marker.edit_dropRaw⟩

theorem edit_renderMarker (f : Marker → String) (n : Notes) : n.Edit r (n.renderMarker f) :=
  ⟨.keep _, .keep _, n.marker.edit_render f⟩

theorem edit_dropPartNumbers (n : Notes) : n.Edit r n.dropPartNumbers :=
  ⟨.keep _, n.partNumbers.edit_dropRaw, .keep _⟩

theorem edit_padPartNumbers (n : Notes) : n.Edit r n.padPartNumbers :=
  ⟨.keep _, n.partNumbers.edit_mapRaw PartNumber.Change.pad, .keep _⟩

theorem edit_renderPartNumbers (f : List PartNumber → String) (n : Notes) :
    n.Edit r (n.renderPartNumbers f) :=
  ⟨.keep _, n.partNumbers.edit_render f, .keep _⟩

theorem edit_dropVolumeNumbers (n : Notes) : n.Edit r n.dropVolumeNumbers :=
  ⟨n.volumeNumbers.edit_dropRaw, .keep _, .keep _⟩

theorem edit_dropCarriedVolumeNumbers (n : Notes) : n.Edit r n.dropCarriedVolumeNumbers := by
  rw [dropCarriedVolumeNumbers]
  split
  · exact n.edit_dropVolumeNumbers
  · exact .refl n

theorem edit_mapSegments {f : String → String}
    (hf : ∀ v : VolumeNumbers, v.Change (v.mapTexts f)) (n : Notes) : n.Edit r (n.mapSegments f) :=
  ⟨n.volumeNumbers.edit_mapRaw hf, .keep _, .keep _⟩

theorem edit_mergeVolumeNumbers (n : Notes) : n.Edit r n.mergeVolumeNumbers :=
  ⟨n.volumeNumbers.edit_mapRaw .merge, .keep _, .keep _⟩

theorem edit_of_renderVolumeNumbers {f : VolumeNumbers → Except Overflow String} {n m : Notes}
    (h : n.renderVolumeNumbers f = .ok m) : n.Edit r m := by
  rw [renderVolumeNumbers] at h
  split at h
  · next vns hraw =>
    split at h
    · next text _ =>
      cases h
      refine ⟨?_, .keep _, .keep _⟩
      rw [hraw]
      exact .render vns text
    · cases h
  · cases h
    exact .refl n

theorem edit_of_prependVolumeNumbers {several : Bool} {n m : Notes}
    (h : n.prependVolumeNumbers r several = .ok m) : n.Edit r m := by
  rw [prependVolumeNumbers] at h
  split at h
  · next vns ps hv hp =>
    split at h
    · cases h
      exact .refl n
    · obtain ⟨qs, hqs, hm⟩ := Outcome.bind_eq_ok.mp h
      cases hm
      refine ⟨.keep _, ?_, .keep _⟩
      rw [hp]
      exact .change (.prepend hv hqs)
  · cases h
    exact .refl n

end Notes

namespace Value

theorem exists_notes? {v : Value} (hv : v.isTerminal = false) : ∃ n, v.notes? = some n := by
  cases v with
  | string s m => cases hv
  | _ => exact ⟨_, rfl⟩

theorem isTerminal_of_notes? {v : Value} {n : Notes} (hn : v.notes? = some n) :
    v.isTerminal = false := by
  cases v <;> cases hn <;> rfl

theorem notes?_mapNotes {v : Value} {n : Notes} {f : Notes → Notes} (hn : v.notes? = some n) :
    (v.mapNotes f).notes? = some (f n) := by
  cases v <;> cases hn <;> rfl

theorem notes?_collapse {v : Value} (hv : v.isTerminal = false) (head : Option String) :
    (v.collapse head).notes? = none := by
  cases v with
  | string s m => cases hv
  | _ => rfl

theorem mapNotes_of_notes? {v : Value} {n : Notes} {f : Notes → Notes} (hn : v.notes? = some n) :
    v.mapNotes f = v.mapNotes fun _ => f n := by
  cases v <;> cases hn <;> rfl

theorem mapNotes_of_notes?_eq_none {v : Value} {f : Notes → Notes} (hn : v.notes? = none) :
    v.mapNotes f = v := by
  cases v with
  | string s m => rfl
  | _ => cases hn

theorem mapNotesM_eq_ok {v w : Value} {n : Notes} {f : Notes → Except NamingError Notes}
    (hn : v.notes? = some n) :
    v.mapNotesM f = .ok w ↔ ∃ m, f n = .ok m ∧ (v.mapNotes fun _ => m) = w := by
  cases v <;> cases hn <;>
    simp only [mapNotesM, mapNotes, Outcome.bind_eq_ok, Outcome.pure_eq_ok, Except.ok.injEq]

theorem mapNotesM_eq_error {v : Value} {n : Notes} {f : Notes → Except NamingError Notes}
    {e : NamingError} (hn : v.notes? = some n) : v.mapNotesM f = .error e ↔ f n = .error e := by
  cases v <;> cases hn <;> simp [mapNotesM, Outcome.bind_eq_error]

theorem mapNotesM_of_notes?_eq_none {v : Value} {f : Notes → Except NamingError Notes}
    (hn : v.notes? = none) : v.mapNotesM f = .ok v := by
  cases v with
  | string s m => rfl
  | _ => cases hn

theorem renderVolumeNumbers_of_raw {v : Value} {n : Notes} {vns : VolumeNumbers} {text : String}
    {f : VolumeNumbers → Except Overflow String} (hn : v.notes? = some n)
    (hraw : n.volumeNumbers = .raw vns) (htext : f vns = .ok text) :
    v.mapNotesM (Notes.renderVolumeNumbers f) =
      .ok (v.mapNotes fun n => { n with volumeNumbers := .rendered text }) := by
  refine (mapNotesM_eq_ok hn).mpr ⟨{ n with volumeNumbers := .rendered text }, ?_, ?_⟩
  · simp [Notes.renderVolumeNumbers, hraw, htext]
  · exact (mapNotes_of_notes? (f := fun n => { n with volumeNumbers := .rendered text }) hn).symm

theorem exists_toText_eq_collapse {v : Value} (hv : v.isTerminal = false) (colon : Bool) :
    ∃ head, v.toText colon = v.collapse head := by
  cases v with
  | string s m => cases hv
  | seriesString name vs parts n => exact ⟨some _, rfl⟩
  | _ => exact ⟨none, rfl⟩

end Value

namespace Call

variable {call : Call} {ctx : Context} {v w : Value}

theorem apply_of_admits (h : call.rule.accepts.admits v = true) :
    call.apply ctx v = call.transform ctx v := by
  rw [apply, h]
  rfl

theorem apply_of_not_admits (h : call.rule.accepts.admits v = false) :
    call.apply ctx v = .error (.mismatch ctx.channel call.rule v.stage) := by
  rw [apply, h]
  rfl

theorem apply_ofRule {rule : Rule} (haccepts : rule.accepts = .structured)
    (hv : v.isTerminal = false) :
    (ofRule rule).apply ctx v = (ofRule rule).transform ctx v :=
  apply_of_admits (by simp [ofRule, haccepts, Accepts.admits, hv])

theorem apply_eq_ok :
    call.apply ctx v = .ok w ↔
      call.rule.accepts.admits v = true ∧ call.transform ctx v = .ok w := by
  cases h : call.rule.accepts.admits v with
  | true => simp [apply_of_admits h]
  | false => simp [apply_of_not_admits h]

end Call

namespace Effect

theorem of_mapNotes {f : Notes → Notes} (hf : ∀ n : Notes, n.Edit r (f n)) (v : Value) :
    Effect r v (v.mapNotes f) := by
  cases hn : v.notes? with
  | some n =>
    rw [Value.mapNotes_of_notes? hn]
    exact .edit hn (hf n)
  | none =>
    rw [Value.mapNotes_of_notes?_eq_none hn]
    exact .keep v

theorem of_mapNotesM {f : Notes → Except NamingError Notes}
    (hf : ∀ n m : Notes, f n = .ok m → n.Edit r m) {v w : Value} (h : v.mapNotesM f = .ok w) :
    Effect r v w := by
  cases hn : v.notes? with
  | some n =>
    obtain ⟨m, hm, rfl⟩ := (Value.mapNotesM_eq_ok hn).mp h
    exact .edit hn (hf n m hm)
  | none =>
    rw [Value.mapNotesM_of_notes?_eq_none hn] at h
    cases h
    exact .keep v

theorem of_renderMarker (f : Marker → String) (v : Value) : Effect r v (v.renderMarker f) := by
  cases v with
  | string s m =>
    cases m with
    | some m => exact .mark s _ m
    | none => exact .keep _
  | _ => exact .of_mapNotes (Notes.edit_renderMarker f) _

theorem of_partToVolume {v w : Value} (h : v.partToVolume r = .ok w) : Effect r v w := by
  cases v with
  | part i n =>
    obtain ⟨volume, hv, h⟩ := Outcome.bind_eq_ok.mp h
    obtain ⟨number, hi, h⟩ := Outcome.bind_eq_ok.mp h
    cases h
    exact .partToVolume hv hi
  | _ => cases h; exact .keep _

theorem of_partToSeries {v w : Value} (h : v.partToSeries r = .ok w) : Effect r v w := by
  cases v with
  | part i n =>
    obtain ⟨volume, hv, h⟩ := Outcome.bind_eq_ok.mp h
    obtain ⟨volumeNumber, hn, h⟩ := Outcome.bind_eq_ok.mp h
    obtain ⟨partNumber, hi, h⟩ := Outcome.bind_eq_ok.mp h
    cases h
    exact .partToSeries hv hn hi
  | _ => cases h; exact .keep _

theorem of_volumeToSeries {v w : Value} (h : v.volumeToSeries r = .ok w) : Effect r v w := by
  cases v with
  | volume v parts n =>
    obtain ⟨number, hn, h⟩ := Outcome.bind_eq_ok.mp h
    obtain ⟨volume, -, rfl⟩ := Request.internalNumber_eq_ok.mp hn
    cases h
    exact .volumeToSeries v parts n (List.cons_ne_nil _ _)
  | _ => cases h; exact .keep _

theorem of_splitVolume {v w : Value} (h : v.splitVolume r = .ok w) : Effect r v w := by
  cases v with
  | volume v parts n =>
    obtain ⟨listed, -, h⟩ := Outcome.bind_eq_ok.mp h
    split at h
    · cases h
      exact .keep _
    · cases h
      exact .volumeToSeries v parts n (VolumeTitle.segments_ne_nil _)
  | _ => cases h; exact .keep _

/-- Only one of the two moves to the series is made: the first gives a series, which the second
keeps, or keeps a value that is no volume. -/
theorem of_toSeries {v w : Value} (h : v.toSeries r = .ok w) : Effect r v w := by
  obtain ⟨u, hu, h⟩ := Outcome.bind_eq_ok.mp h
  cases v with
  | volume v parts n =>
    obtain ⟨number, hn, hu'⟩ := Outcome.bind_eq_ok.mp hu
    cases hu'
    cases h
    exact of_volumeToSeries hu
  | _ => cases hu; exact of_partToSeries h

theorem of_partTitle {v w : Value} (h : v.partTitle r = .ok w) : Effect r v w := by
  cases v with
  | part i n =>
    obtain ⟨p, -, h⟩ := Outcome.bind_eq_ok.mp h
    cases h
    exact .collapse rfl _
  | _ => cases h; exact .keep _

theorem of_volumeTitle {v w : Value} (h : v.volumeTitle r = .ok w) : Effect r v w := by
  cases v with
  | volume v parts n =>
    obtain ⟨listed, -, h⟩ := Outcome.bind_eq_ok.mp h
    cases h
    exact .collapse rfl _
  | _ => cases h; exact .keep _

theorem of_toText (colon : Bool) (v : Value) : Effect r v (v.toText colon) := by
  cases hv : v.isTerminal with
  | true =>
    cases v with
    | string s m => exact .keep _
    | _ => cases hv
  | false =>
    obtain ⟨head, hhead⟩ := v.exists_toText_eq_collapse hv colon
    rw [hhead]
    exact .collapse hv head

theorem of_legacyTitle {ctx : Context} {v w : Value} (h : v.legacyTitle ctx = .ok w) :
    Effect ctx.request v w := by
  rw [Value.legacyTitle] at h
  split at h
  · cases h
  · next hv =>
    obtain ⟨⟨vs, ps⟩, -, h⟩ := Outcome.bind_eq_ok.mp h
    obtain ⟨volumes, -, h⟩ := Outcome.bind_eq_ok.mp h
    obtain ⟨parts, -, h⟩ := Outcome.bind_eq_ok.mp h
    cases h
    exact .legacy (by simpa using hv) _

theorem of_nameSeries (name : String) (v : Value) : Effect r v (v.nameSeries name) := by
  cases v with
  | series vs parts n => exact .name name vs parts n
  | _ => exact .keep _

theorem of_mapName (f : List Char → List Char) (v : Value) : Effect r v (v.mapName f) := by
  cases v with
  | seriesString name vs parts n => exact .rename name _ vs parts n
  | _ => exact .keep _

theorem of_mapText (f : List Char → List Char) (v : Value) : Effect r v (v.mapText f) := by
  cases v with
  | string s m => exact .retext s _ m
  | _ => exact .keep _

/-- The effects cover every rule, on every value that the rule accepts. -/
theorem of_transform {call : Call} {ctx : Context} {v w : Value}
    (ha : call.rule.accepts.admits v = true) (h : call.transform ctx v = .ok w) :
    Effect ctx.request v w := by
  obtain ⟨rule, args⟩ := call
  cases rule with
  | fcRm => cases h; exact of_mapNotes Notes.edit_dropMarker v
  | fcRmIfComplete =>
    cases h
    split
    · exact of_mapNotes Notes.edit_dropMarker v
    · exact .keep v
  | fcShort => cases h; exact of_renderMarker _ v
  | fcFull => cases h; exact of_renderMarker _ v
  | pToVolume => exact of_partToVolume h
  | pToSeries => exact of_partToSeries h
  | pSplitPart => exact of_partToVolume h
  | pTitle => exact of_partTitle h
  | pnRm => cases h; exact of_mapNotes Notes.edit_dropPartNumbers v
  | pnRmIfComplete =>
    cases h
    split
    · exact of_mapNotes Notes.edit_dropPartNumbers v
    · exact .keep v
  | pnPrependVn => exact of_mapNotesM (fun _ _ => Notes.edit_of_prependVolumeNumbers) h
  | pnPrependVnIfMultiple => exact of_mapNotesM (fun _ _ => Notes.edit_of_prependVolumeNumbers) h
  | pnZeroPad => cases h; exact of_mapNotes Notes.edit_padPartNumbers v
  | pnShort => cases h; exact of_mapNotes (Notes.edit_renderPartNumbers _) v
  | pnFull => cases h; exact of_mapNotes (Notes.edit_renderPartNumbers _) v
  | vToSeries => exact of_volumeToSeries h
  | vSplitVolume => exact of_splitVolume h
  | vTitle => exact of_volumeTitle h
  | vnRm => cases h; exact of_mapNotes Notes.edit_dropVolumeNumbers v
  | vnRmIfPn => cases h; exact of_mapNotes Notes.edit_dropCarriedVolumeNumbers v
  | vnNumber => cases h; exact of_mapNotes (Notes.edit_mapSegments .digits) v
  | vnMerge => cases h; exact of_mapNotes Notes.edit_mergeVolumeNumbers v
  | vnZeroPad => cases h; exact of_mapNotes (Notes.edit_mapSegments .pad) v
  | vnShort => exact of_mapNotesM (fun _ _ => Notes.edit_of_renderVolumeNumbers) h
  | vnFull => exact of_mapNotesM (fun _ _ => Notes.edit_of_renderVolumeNumbers) h
  | toSeries => exact of_toSeries h
  | sTitle => cases h; exact of_nameSeries _ v
  | sSlug => cases h; exact of_nameSeries _ v
  | ssRmStopwords => cases h; exact of_mapName _ v
  | ssRmSubtitle => cases h; exact of_mapName _ v
  | ssAcronym => cases h; exact of_mapName _ v
  | ssFirst => cases h; exact of_mapName _ v
  | ssMaxLen => cases h; exact of_mapName _ v
  | legacyT => exact of_legacyTitle h
  | legacyF =>
    cases h
    exact .legacy (by simpa [Accepts.admits, Rule.accepts] using ha) _
  | toString => cases h; exact of_toText _ v
  | strRmSpace => cases h; exact of_mapText _ v
  | strReplaceSpace => cases h; exact of_mapText _ v
  | strFilesafe => cases h; exact of_mapText _ v

theorem of_apply {call : Call} {ctx : Context} {v w : Value} (h : call.apply ctx v = .ok w) :
    Effect ctx.request v w := by
  obtain ⟨ha, ht⟩ := Call.apply_eq_ok.mp h
  exact of_transform ha ht

end Effect

end ReleaseNames
