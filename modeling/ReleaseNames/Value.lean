import ReleaseNames.Request
import ReleaseNames.VolumeNumber

/-!
# Naming values

A value stands between the request and a name. It starts as a part, a volume or
a series and ends as a string, and it refers to volumes and parts by their
indices in the request. Until it is a string it carries notes: volume numbers,
part numbers and the marker, each in a slot that is absent, raw or rendered.

That the indices lie inside a given request is not part of the type.
-/

namespace ReleaseNames

/-- An annotation: missing, still structured, or already text. -/
inductive Slot (α : Type) where
  | absent
  | raw (content : α)
  | rendered (text : String)
deriving DecidableEq

namespace Slot

variable {α : Type}

def raw? : Slot α → Option α
  | raw content => some content
  | _ => none

def isRaw : Slot α → Bool
  | raw _ => true
  | _ => false

/-- The text of a slot that was rendered to a non-empty text, as a list of at most one. -/
def pieces : Slot α → List String
  | rendered text => if text = "" then [] else [text]
  | _ => []

/-- Drop structured content; a rendered slot stays. -/
def dropRaw : Slot α → Slot α
  | raw _ => absent
  | slot => slot

def mapRaw (f : α → α) : Slot α → Slot α
  | raw content => raw (f content)
  | slot => slot

/-- Turn structured content into text; a slot without it stays. -/
def render (f : α → String) : Slot α → Slot α
  | raw content => rendered (f content)
  | slot => slot

end Slot

/-- The annotations of a value that is not yet a string. -/
structure Notes where
  volumeNumbers : Slot VolumeNumbers
  partNumbers : Slot (List PartNumber)
  marker : Slot Marker
deriving DecidableEq

def Notes.ofMarker (m : Marker) : Notes :=
  ⟨.absent, .absent, .raw m⟩

def Notes.pieces (n : Notes) : List String :=
  n.volumeNumbers.pieces ++ n.partNumbers.pieces ++ n.marker.pieces

/-- The stages a value passes through. -/
inductive Stage where
  | part
  | volume
  | series
  | seriesString
  | string
deriving DecidableEq

def Stage.name : Stage → String
  | .part => "PartValue"
  | .volume => "VolumeValue"
  | .series => "SeriesValue"
  | .seriesString => "SeriesStringValue"
  | .string => "StringValue"

/-- Position of a stage; values never move to a lower one. -/
def Stage.rank : Stage → Nat
  | .part => 0
  | .volume => 1
  | .series => 2
  | .seriesString => 3
  | .string => 4

/-- The value a channel works on. -/
inductive Value where
  /-- A single part. -/
  | part (part : Nat) (notes : Notes)
  /-- One volume with the parts packaged from it. -/
  | volume (volume : Nat) (parts : List Nat) (notes : Notes)
  /-- The series with the volumes and parts packaged from it. -/
  | series (volumes parts : List Nat) (notes : Notes)
  /-- A series under a derived name. -/
  | seriesString (name : String) (volumes parts : List Nat) (notes : Notes)
  /-- A text, with the marker that was still raw when the value became one. -/
  | string (text : String) (marker : Option Marker)
deriving DecidableEq

namespace Value

def text (s : String) : Value :=
  .string s none

def stage : Value → Stage
  | .part .. => .part
  | .volume .. => .volume
  | .series .. => .series
  | .seriesString .. => .seriesString
  | .string .. => .string

def isTerminal : Value → Bool
  | .string .. => true
  | _ => false

def notes? : Value → Option Notes
  | .part _ notes => some notes
  | .volume _ _ notes => some notes
  | .series _ _ notes => some notes
  | .seriesString _ _ _ notes => some notes
  | .string .. => none

/-- Change the notes; a string has none and stays. -/
def mapNotes (f : Notes → Notes) : Value → Value
  | .part i notes => .part i (f notes)
  | .volume v parts notes => .volume v parts (f notes)
  | .series vs parts notes => .series vs parts (f notes)
  | .seriesString name vs parts notes => .seriesString name vs parts (f notes)
  | .string s marker => .string s marker

/-- Turn a value into a string: the head, if there is one and it is not empty, and the rendered
notes, with one space between them. Raw numbers are dropped and a raw marker stays pending. -/
def collapse (head : Option String) (value : Value) : Value :=
  match value.notes? with
  | some notes =>
    let heads := match head with
      | some h => if h = "" then [] else [h]
      | none => []
    .string (" ".intercalate (heads ++ notes.pieces)) notes.marker.raw?
  | none => value

@[simp] theorem stage_mapNotes (f : Notes → Notes) (v : Value) :
    (v.mapNotes f).stage = v.stage := by
  cases v <;> rfl

theorem isTerminal_iff {v : Value} : v.isTerminal = true ↔ v.stage = .string := by
  cases v <;> simp [isTerminal, stage]

end Value

end ReleaseNames
