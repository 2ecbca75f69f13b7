import ReleaseNames.Transform.Notes

/-!
# Moving between stages

Rules that turn a part into its volume or its series, a volume into its series,
and a part or volume into its title. What is known of a part or volume is not
lost on the way up: its number goes into the notes. Parts and volumes are looked up
in the request, so a value that refers to something the request does not list is an
error.

A volume can also be numbered by its title. This usually starts with the title of
its series, and the rest of it, the qualifier, counts volumes, parts or both. The
first "Volume" followed by digits and the first "Part" followed by a word are read,
in the order in which they stand. A qualifier with neither is kept whole.
-/

namespace ReleaseNames.VolumeTitle

def afterStart? : List Char → List Char → Option (List Char)
  | [], cs => some cs
  | _ :: _, [] => none
  | a :: start, c :: cs => if a = c then afterStart? start cs else none

theorem afterStart?_eq_some_iff {start cs rest : List Char} :
    afterStart? start cs = some rest ↔ cs = start ++ rest := by
  fun_induction afterStart? start cs with
  | case1 => simp
  | case2 => simp
  | case3 a start cs ih => simp [ih]
  | case4 a start c cs h => simp [Ne.symm h]

/-- A title without its start, which is the full title of the series, or else its plain title. -/
def withoutSeries (series : Series) (title : List Char) : List Char :=
  match afterStart? series.fullTitle.toList title with
  | some rest => rest
  | none => (afterStart? series.title.toList title).getD title

/-- The part of a volume title that does not name the series, without colons and white space
around it. -/
def qualifier (series : Series) (title : String) : List Char :=
  Text.trim (Text.trimWhere (· == ':') (withoutSeries series title.toList))

def countAt (label : List Char) (p : Char → Bool) (cs : List Char) : List Char :=
  match afterStart? label cs with
  | some rest => rest.takeWhile p
  | none => []

/-- The first non-empty run that follows a label, and how many characters stand before the label. -/
def count? (label : List Char) (p : Char → Bool) : List Char → Option (Nat × List Char)
  | [] => none
  | c :: rest =>
    match countAt label p (c :: rest) with
    | [] =>
      match count? label p rest with
      | some (skipped, run) => some (skipped + 1, run)
      | none => none
    | d :: run => some (0, d :: run)

def volumeCount? (q : List Char) : Option (Nat × List Char) :=
  count? "Volume ".toList Text.isDecimalDigit q

def partCount? (q : List Char) : Option (Nat × List Char) :=
  count? "Part ".toList Text.isWordChar q

def segments (q : List Char) : List Segment :=
  match volumeCount? q, partCount? q with
  | none, none => [⟨String.ofList q, .special⟩]
  | some (_, v), none => [⟨String.ofList v, .volume⟩]
  | none, some (_, p) => [⟨String.ofList p, .part⟩]
  | some (i, v), some (j, p) =>
    if i ≤ j then [⟨String.ofList v, .volume⟩, ⟨String.ofList p, .part⟩]
    else [⟨String.ofList p, .part⟩, ⟨String.ofList v, .volume⟩]

theorem segments_ne_nil (q : List Char) : segments q ≠ [] := by
  rw [segments]
  split
  · exact List.cons_ne_nil _ _
  · exact List.cons_ne_nil _ _
  · exact List.cons_ne_nil _ _
  · split <;> exact List.cons_ne_nil _ _

end ReleaseNames.VolumeTitle

namespace ReleaseNames

namespace Request

def partAt (r : Request) (index : Nat) : Except NamingError Part :=
  match r.parts[index]? with
  | some p => .ok p
  | none => .error (.dangling (.part index))

def volumeAt (r : Request) (index : Nat) : Except NamingError Volume :=
  match r.volumes[index]? with
  | some v => .ok v
  | none => .error (.dangling (.volume index))

def partNumber (r : Request) (index : Nat) : Except NamingError PartNumber := do
  let p ← r.partAt index
  return ⟨index, toString p.number.toNat⟩

def internalNumber (r : Request) (index : Nat) : Except NamingError VolumeNumber := do
  let v ← r.volumeAt index
  return .internal index v.number

end Request

namespace Value

/-- Turn a part into its volume, with the part number in the notes. -/
def partToVolume (r : Request) : Value → Except NamingError Value
  | .part i notes => do
    let volume ← r.homeVolume i
    let number ← r.partNumber i
    return .volume volume [i] { notes with partNumbers := .raw [number] }
  | value => return value

/-- Turn a part into its series, with both numbers in the notes. -/
def partToSeries (r : Request) : Value → Except NamingError Value
  | .part i notes => do
    let volume ← r.homeVolume i
    let volumeNumber ← r.internalNumber volume
    let partNumber ← r.partNumber i
    return .series [volume] [i]
      { notes with
        volumeNumbers := .raw ⟨[volumeNumber], false⟩
        partNumbers := .raw [partNumber] }
  | value => return value

/-- Turn a volume into its series, given the number of the volume. -/
def numberedSeries (number : VolumeNumber) (volume : Nat) (parts : List Nat) (notes : Notes) :
    Value :=
  .series [volume] parts { notes with volumeNumbers := .raw ⟨[number], false⟩ }

def volumeToSeries (r : Request) : Value → Except NamingError Value
  | .volume v parts notes => do
    let number ← r.internalNumber v
    return numberedSeries number v parts notes
  | value => return value

/-- Turn a volume into its series under the number that its title counts. A volume whose title
says no more than the series stays. -/
def splitVolume (r : Request) : Value → Except NamingError Value
  | .volume v parts notes => do
    let listed ← r.volumeAt v
    match VolumeTitle.qualifier r.series listed.title with
    | [] => return .volume v parts notes
    | q => return numberedSeries ⟨v, VolumeTitle.segments q⟩ v parts notes
  | value => return value

def toSeries (r : Request) (value : Value) : Except NamingError Value := do
  let value ← value.volumeToSeries r
  value.partToSeries r

def partTitle (r : Request) : Value → Except NamingError Value
  | .part i notes => do
    let p ← r.partAt i
    return (Value.part i notes).collapse (some p.title)
  | value => return value

def volumeTitle (r : Request) : Value → Except NamingError Value
  | .volume v parts notes => do
    let listed ← r.volumeAt v
    return (Value.volume v parts notes).collapse (some listed.title)
  | value => return value

end Value

end ReleaseNames
