/-!
# Naming requests and channels

A request says what is packaged: the series, the listed volumes, the packaged
parts in order, and a marker. Volumes are listed in any order and may repeat a
number; a part belongs to the first listed volume with its number. A request may
be malformed, and `check` says in which way.

From a request three names are computed in a fixed order: the title, the file name
and the folder name. Each of these channels has a one-letter key, which introduces
its section of an expression and stands for it in messages.
-/

namespace ReleaseNames

/-- One of the three names of a release. -/
inductive Channel where
  | title
  | filename
  | folder
deriving DecidableEq

namespace Channel

/-- The channels in the order in which they are computed. -/
def all : List Channel := [.title, .filename, .folder]

/-- The letter that introduces the channel's section. -/
def key : Channel → Char
  | .title => 't'
  | .filename => 'n'
  | .folder => 'f'

def keyText (c : Channel) : String :=
  String.ofList [c.key]

def ofKey? (s : String) : Option Channel :=
  all.find? fun c => c.keyText == s

/-- Name of the function by which a library overrides the channel. -/
def symbol : Channel → String
  | .title => "to_title"
  | .filename => "to_filename"
  | .folder => "to_folder"

theorem ofKey?_keyText (c : Channel) : ofKey? c.keyText = some c := by
  cases c <;> decide

theorem key_injective {a b : Channel} (h : a.key = b.key) : a = b := by
  cases a <;> cases b <;> first | rfl | exact absurd h (by decide)

end Channel

/-- The work that is released. -/
structure Series where
  title : String
  subtitle : Option String
  /-- Address fragment supplied by the catalogue. -/
  slug : Option String
deriving DecidableEq

/-- A collection of parts. The number need not be the one shown in the title. -/
structure Volume where
  number : UInt32
  title : String
deriving DecidableEq

/-- The smallest released unit. -/
structure Part where
  /-- Number of the volume the part belongs to. -/
  volume : UInt32
  /-- Number of the part inside its volume. -/
  number : UInt32
  title : String
deriving DecidableEq

/-- Whether the last packaged part ends its volume, and whether a whole volume is packaged. -/
structure Marker where
  final : Bool
  complete : Bool
deriving DecidableEq

/-- What is packaged, and from which series. -/
structure Request where
  series : Series
  volumes : List Volume
  parts : List Part
  marker : Marker
deriving DecidableEq

/-- The title with the subtitle after a colon, if there is a non-empty one. -/
def Series.fullTitle (s : Series) : String :=
  match s.subtitle with
  | some subtitle => if subtitle = "" then s.title else s.title ++ ": " ++ subtitle
  | none => s.title

inductive RequestError where
  | noVolumes
  | noParts
  | unknownVolume (title : String) (volume : UInt32)
  /-- The part at an index has no listed volume. -/
  | strayPart (index : Nat)
  /-- A channel starts from the title, which has not been computed. -/
  | titleNotReady (channel : Channel)
deriving DecidableEq

def RequestError.message : RequestError → String
  | .noVolumes => "no volumes"
  | .noParts => "no parts"
  | .unknownVolume title volume =>
    "part '" ++ title ++ "' refers to unknown volume " ++ toString volume.toNat
  | .strayPart index => "part #" ++ toString index ++ " has no known volume"
  | .titleNotReady channel =>
    "channel " ++ channel.keyText ++ " reads the title before it is computed"

namespace Request

/-- Index of the first listed volume with a number. -/
def volumeIndex? (r : Request) (number : UInt32) : Option Nat :=
  r.volumes.findIdx? fun v => v.number == number

def volumeOf? (r : Request) (p : Part) : Option Volume :=
  match r.volumeIndex? p.volume with
  | some i => r.volumes[i]?
  | none => none

def volumeOfPart (r : Request) (index : Nat) : Except RequestError Nat :=
  match r.parts[index]? with
  | some p =>
    match r.volumeIndex? p.volume with
    | some i => .ok i
    | none => .error (.strayPart index)
  | none => .error (.strayPart index)

/-- Indices of the volumes that hold a packaged part, each once, in order of first occurrence. -/
def spannedVolumes (r : Request) : List Nat :=
  (r.parts.filterMap fun p => r.volumeIndex? p.volume).eraseDups

def check (r : Request) : Except RequestError Unit :=
  if r.volumes.isEmpty then .error .noVolumes
  else if r.parts.isEmpty then .error .noParts
  else
    match r.parts.find? fun p => (r.volumeIndex? p.volume).isNone with
    | some p => .error (.unknownVolume p.title p.volume)
    | none => .ok ()

def Valid (r : Request) : Prop :=
  r.check = .ok ()

instance (r : Request) : Decidable r.Valid :=
  match h : r.check with
  | .ok () => isTrue h
  | .error _ => isFalse (by simp [Valid, h])

theorem valid_iff {r : Request} :
    r.Valid ↔ r.volumes ≠ [] ∧ r.parts ≠ [] ∧
      ∀ p ∈ r.parts, (r.volumeIndex? p.volume).isSome := by
  unfold Valid check
  cases r.volumes with
  | nil => simp
  | cons v vs =>
    cases hp : r.parts with
    | nil => simp
    | cons p ps =>
      simp only [List.isEmpty_cons, Bool.false_eq_true, if_false]
      constructor
      · intro h
        refine ⟨by simp, by simp, fun q hq => ?_⟩
        split at h
        · simp at h
        · next hnone =>
          have := List.find?_eq_none.mp hnone q hq
          cases hv : r.volumeIndex? q.volume with
          | none => simp [hv] at this
          | some i => rfl
      · rintro ⟨-, -, h⟩
        split
        · next q hsome =>
          have hq := List.find?_some hsome
          have hs := h q (List.mem_of_find?_eq_some hsome)
          simp [Option.isNone_iff_eq_none.mp hq] at hs
        · rfl

end Request

end ReleaseNames
