import ReleaseNames.Proofs.Effect

/-!
# How values are written

A value that is not a string becomes one by being written with its rendered notes
or by a legacy rule. What is written has a head, which stands for the part, the
volume or the series, and then the rendered volume numbers, part numbers and
marker, with one space between the texts that are not empty. The legacy rules do
not look at the notes.
-/

namespace ReleaseNames

variable {r : Request} {ctx : Context} {v w : Value} {n : Notes}

def Slot.text {α : Type} : Slot α → String
  | .rendered text => text
  | _ => ""

def Notes.texts (n : Notes) : List String :=
  [n.volumeNumbers.text, n.partNumbers.text, n.marker.text]

/-- The texts that are not empty, with one space between them. -/
def spaced (texts : List String) : String :=
  " ".intercalate (texts.filter fun text => text ≠ "")

/-- A series name at the head of a text, with a colon if asked for and if no punctuation ends it. -/
def SeriesName.heading (colon : Bool) (name : String) : String :=
  if colon && name ≠ "" && !Text.endsWithPunctuation name then name ++ ":" else name

/-- The call writes a value as a string that begins with the given text: a part or a volume with
its title, a series with the name that it was given, and every other value without one. -/
inductive Call.Writes (r : Request) (call : Call) : Value → String → Prop
  | part {i : Nat} {n : Notes} {p : Part} (hrule : call.rule = .pTitle)
    (hp : r.parts[i]? = some p) : Writes r call (.part i n) p.title
  | volume {v : Nat} {parts : List Nat} {n : Notes} {volume : Volume}
    (hrule : call.rule = .vTitle) (hv : r.volumes[v]? = some volume) :
    Writes r call (.volume v parts n) volume.title
  | name {name : String} {volumes parts : List Nat} {n : Notes} (hrule : call.rule = .toString) :
    Writes r call (.seriesString name volumes parts n) (SeriesName.heading (call.int 0 != 0) name)
  | bare {v : Value} (hrule : call.rule = .toString)
    (hv : v.stage = .part ∨ v.stage = .volume ∨ v.stage = .series) : Writes r call v ""

theorem Slot.pieces_eq {α : Type} (s : Slot α) :
    s.pieces = [s.text].filter fun text => text ≠ "" := by
  cases s with
  | rendered text => by_cases h : text = "" <;> simp [pieces, Slot.text, h]
  | _ => rfl

theorem Notes.pieces_eq (n : Notes) : n.pieces = n.texts.filter fun text => text ≠ "" := by
  rw [pieces, Slot.pieces_eq, Slot.pieces_eq, Slot.pieces_eq, ← List.filter_append,
    ← List.filter_append]
  rfl

namespace Value

theorem collapse_some (hn : v.notes? = some n) (head : String) :
    v.collapse (some head) = .string (spaced (head :: n.texts)) n.marker.raw? := by
  rw [collapse, hn]
  by_cases h : head = "" <;> simp [spaced, Notes.pieces_eq, h]

theorem collapse_none (hn : v.notes? = some n) :
    v.collapse none = .string (spaced ("" :: n.texts)) n.marker.raw? := by
  rw [collapse, hn]
  simp [spaced, Notes.pieces_eq]

end Value

namespace Call

variable {call : Call} {head : String}

/-- What is written is the head and the rendered notes, and a raw marker stays pending. -/
theorem apply_of_writes (h : call.Writes ctx.request v head) (hn : v.notes? = some n) :
    call.apply ctx v = .ok (.string (spaced (head :: n.texts)) n.marker.raw?) := by
  obtain ⟨rule, args⟩ := call
  cases h with
  | @part i k p hrule hp =>
    cases hrule
    have hpart : ctx.request.partAt i = .ok p := Request.partAt_eq_ok.mpr hp
    rw [apply_of_admits rfl, transform, Value.partTitle, hpart, Outcome.ok_bind]
    exact congrArg Except.ok (Value.collapse_some hn p.title)
  | @volume v parts k volume hrule hv =>
    cases hrule
    have hvolume : ctx.request.volumeAt v = .ok volume := Request.volumeAt_eq_ok.mpr hv
    rw [apply_of_admits rfl, transform, Value.volumeTitle, hvolume, Outcome.ok_bind]
    exact congrArg Except.ok (Value.collapse_some hn volume.title)
  | name hrule =>
    cases hrule
    exact congrArg Except.ok (Value.collapse_some hn _)
  | bare hrule hv =>
    cases hrule
    have htext : ∀ colon, v.toText colon = v.collapse none := by
      intro colon
      cases v with
      | seriesString name vs ps k => simp [Value.stage] at hv
      | _ => rfl
    rw [apply_of_admits rfl, transform, htext]
    exact congrArg Except.ok (Value.collapse_none hn)

def ending : List Rule := [.pTitle, .vTitle, .toString, .legacyT, .legacyF]

end Call

namespace Value

@[simp] theorem isTerminal_mapNotes (f : Notes → Notes) (v : Value) :
    (v.mapNotes f).isTerminal = v.isTerminal := by
  cases v <;> rfl

@[simp] theorem isTerminal_renderMarker (f : Marker → String) (v : Value) :
    (v.renderMarker f).isTerminal = v.isTerminal := by
  cases v with
  | string s m => cases m <;> rfl
  | _ => rfl

@[simp] theorem isTerminal_nameSeries (name : String) (v : Value) :
    (v.nameSeries name).isTerminal = v.isTerminal := by
  cases v <;> rfl

@[simp] theorem isTerminal_mapName (f : List Char → List Char) (v : Value) :
    (v.mapName f).isTerminal = v.isTerminal := by
  cases v <;> rfl

@[simp] theorem isTerminal_mapText (f : List Char → List Char) (v : Value) :
    (v.mapText f).isTerminal = v.isTerminal := by
  cases v <;> rfl

theorem isTerminal_of_mapNotesM {f : Notes → Except NamingError Notes}
    (h : v.mapNotesM f = .ok w) : w.isTerminal = v.isTerminal := by
  cases hn : v.notes? with
  | some n =>
    obtain ⟨m, -, rfl⟩ := (mapNotesM_eq_ok hn).mp h
    exact isTerminal_mapNotes _ v
  | none =>
    rw [mapNotesM_of_notes?_eq_none hn] at h
    cases h
    rfl

theorem isTerminal_of_partToVolume (h : v.partToVolume r = .ok w) :
    w.isTerminal = v.isTerminal := by
  cases v with
  | part i n =>
    obtain ⟨_, -, h⟩ := Outcome.bind_eq_ok.mp h
    obtain ⟨_, -, h⟩ := Outcome.bind_eq_ok.mp h
    cases h
    rfl
  | _ => cases h; rfl

theorem isTerminal_of_partToSeries (h : v.partToSeries r = .ok w) :
    w.isTerminal = v.isTerminal := by
  cases v with
  | part i n =>
    obtain ⟨_, -, h⟩ := Outcome.bind_eq_ok.mp h
    obtain ⟨_, -, h⟩ := Outcome.bind_eq_ok.mp h
    obtain ⟨_, -, h⟩ := Outcome.bind_eq_ok.mp h
    cases h
    rfl
  | _ => cases h; rfl

theorem isTerminal_of_volumeToSeries (h : v.volumeToSeries r = .ok w) :
    w.isTerminal = v.isTerminal := by
  cases v with
  | volume v parts n =>
    obtain ⟨_, -, h⟩ := Outcome.bind_eq_ok.mp h
    cases h
    rfl
  | _ => cases h; rfl

theorem isTerminal_of_splitVolume (h : v.splitVolume r = .ok w) :
    w.isTerminal = v.isTerminal := by
  cases v with
  | volume v parts n =>
    obtain ⟨_, -, h⟩ := Outcome.bind_eq_ok.mp h
    split at h <;> cases h <;> rfl
  | _ => cases h; rfl

theorem isTerminal_of_toSeries (h : v.toSeries r = .ok w) : w.isTerminal = v.isTerminal := by
  obtain ⟨u, hu, h⟩ := Outcome.bind_eq_ok.mp h
  exact (isTerminal_of_partToSeries h).trans (isTerminal_of_volumeToSeries hu)

end Value

namespace Call

variable {call : Call}

/-- Every other rule keeps strings strings and makes none. -/
theorem isTerminal_of_transform (hrule : call.rule ∉ ending)
    (h : call.transform ctx v = .ok w) : w.isTerminal = v.isTerminal := by
  obtain ⟨rule, args⟩ := call
  cases rule with
  | pTitle | vTitle | toString | legacyT | legacyF => simp [ending] at hrule
  | pToVolume | pSplitPart => exact Value.isTerminal_of_partToVolume h
  | pToSeries => exact Value.isTerminal_of_partToSeries h
  | pnPrependVn | pnPrependVnIfMultiple | vnShort | vnFull => exact Value.isTerminal_of_mapNotesM h
  | vToSeries => exact Value.isTerminal_of_volumeToSeries h
  | vSplitVolume => exact Value.isTerminal_of_splitVolume (r := ctx.request) h
  | toSeries => exact Value.isTerminal_of_toSeries h
  | fcRmIfComplete | pnRmIfComplete => cases h; split <;> simp
  | _ => cases h; simp

/-- A step that makes a string of another value writes it, or is one of the legacy rules. -/
theorem exists_writes_of_ends (hn : v.notes? = some n) (h : call.apply ctx v = .ok w)
    (hw : w.stage = .string) :
    call.rule = .legacyT ∨ call.rule = .legacyF ∨ ∃ head, call.Writes ctx.request v head := by
  have hv : v.isTerminal = false := Value.isTerminal_of_notes? hn
  have htransform := (apply_eq_ok.mp h).2
  have hending : call.rule ∈ ending := by
    by_contra hrule
    have hsame := isTerminal_of_transform hrule htransform
    rw [Value.isTerminal_iff.mpr hw, hv] at hsame
    cases hsame
  obtain ⟨rule, args⟩ := call
  have hrules : rule = .pTitle ∨ rule = .vTitle ∨ rule = .toString ∨ rule = .legacyT ∨
      rule = .legacyF := by
    simpa [ending] using hending
  rcases hrules with rfl | rfl | rfl | rfl | rfl
  · cases v with
    | part i n =>
      obtain ⟨p, hp, -⟩ := Outcome.bind_eq_ok.mp htransform
      exact .inr (.inr ⟨p.title, .part rfl (Request.partAt_eq_ok.mp hp)⟩)
    | string s m => cases hn
    | _ => cases htransform; cases hw
  · cases v with
    | volume v parts n =>
      obtain ⟨volume, hvolume, -⟩ := Outcome.bind_eq_ok.mp htransform
      exact .inr (.inr ⟨volume.title, .volume rfl (Request.volumeAt_eq_ok.mp hvolume)⟩)
    | string s m => cases hn
    | _ => cases htransform; cases hw
  · cases v with
    | seriesString name vs ps n => exact .inr (.inr ⟨_, .name rfl⟩)
    | string s m => cases hn
    | _ => exact .inr (.inr ⟨"", .bare rfl (by simp [Value.stage])⟩)
  · exact .inl rfl
  · exact .inr (.inl rfl)

/-- The legacy rules do not look at the notes. -/
theorem apply_mapNotes_of_legacy (hrule : call.rule = .legacyT ∨ call.rule = .legacyF)
    (f : Notes → Notes) (v : Value) : call.apply ctx (v.mapNotes f) = call.apply ctx v := by
  obtain ⟨rule, args⟩ := call
  rcases hrule with rfl | rfl
  · cases v <;> rfl
  · cases v <;> rfl

end Call

end ReleaseNames
