import ReleaseNames.Error

/-!
# Rules on notes

Raw notes can be dropped and rendered. Part numbers can also be padded and prefixed
with the numbers of their volumes, and they are rendered as a single number or by
their two ends. Volume numbers can be written in digits, padded and merged, and they
are rendered in compact notation or spelled out with labels. On a string a pending
marker can still be appended, once. A marker that was dropped or rendered never
comes back.
-/

namespace ReleaseNames

/-- Change the notes by a function that may fail; a string has none and stays. -/
def Value.mapNotesM (f : Notes → Except NamingError Notes) : Value → Except NamingError Value
  | .part i notes => return .part i (← f notes)
  | .volume v parts notes => return .volume v parts (← f notes)
  | .series vs parts notes => return .series vs parts (← f notes)
  | .seriesString name vs parts notes => return .seriesString name vs parts (← f notes)
  | .string s marker => return .string s marker

/-- The short text of a marker; completeness goes before finality. -/
def Marker.short (m : Marker) : String :=
  if m.complete then "[C]" else if m.final then "[F]" else ""

def Marker.full (m : Marker) : String :=
  if m.complete then "[Complete]" else if m.final then "[Final]" else ""

def Notes.dropMarker (n : Notes) : Notes :=
  { n with marker := n.marker.dropRaw }

def Notes.renderMarker (f : Marker → String) (n : Notes) : Notes :=
  { n with marker := n.marker.render f }

/-- Append a marker text to a string, with a space where both have text. -/
def appendMark (text mark : String) : String :=
  if mark = "" then text else if text = "" then mark else text ++ " " ++ mark

def Value.renderMarker (f : Marker → String) : Value → Value
  | .string text (some m) => .text (appendMark text (f m))
  | value => value.mapNotes (Notes.renderMarker f)

def Notes.dropPartNumbers (n : Notes) : Notes :=
  { n with partNumbers := n.partNumbers.dropRaw }

/-- Pad raw part numbers to two digits. -/
def Notes.padPartNumbers (n : Notes) : Notes :=
  { n with partNumbers := n.partNumbers.mapRaw fun ps =>
      ps.map fun p => { p with text := Text.zeroPad 2 p.text } }

def Notes.renderPartNumbers (f : List PartNumber → String) (n : Notes) : Notes :=
  { n with partNumbers := n.partNumbers.render f }

def shortPartNumbers : List PartNumber → String
  | [] => ""
  | [p] => p.text
  | first :: second :: rest => first.text ++ "-" ++ (rest.getLastD second).text

def fullPartNumbers : List PartNumber → String
  | [] => ""
  | [p] => "Part " ++ p.text
  | first :: second :: rest =>
    "Parts " ++ first.text ++ " to " ++ (rest.getLastD second).text

def Request.homeVolume (r : Request) (part : Nat) : Except NamingError Nat :=
  match r.volumeOfPart part with
  | .ok v => .ok v
  | .error e => .error (.request e)

/-- Prefix a part number with the dotted number of its volume, if that number is listed. -/
def PartNumber.prepend (r : Request) (vns : VolumeNumbers) (p : PartNumber) :
    Except NamingError PartNumber := do
  let volume ← r.homeVolume p.part
  match vns.find? volume with
  | some vn => return { p with text := vn.dotted ++ "." ++ p.text }
  | none => return p

/-- Prefix raw part numbers with raw volume numbers; with `onlyIfMultiple`, only if there are
several volume numbers. -/
def Notes.prependVolumeNumbers (r : Request) (onlyIfMultiple : Bool) (n : Notes) :
    Except NamingError Notes :=
  match n.volumeNumbers, n.partNumbers with
  | .raw vns, .raw ps =>
    if onlyIfMultiple && vns.numbers.length ≤ 1 then .ok n
    else do
      let numbers ← ps.mapM (PartNumber.prepend r vns)
      return { n with partNumbers := .raw numbers }
  | _, _ => .ok n

namespace Notes

def dropVolumeNumbers (n : Notes) : Notes :=
  { n with volumeNumbers := n.volumeNumbers.dropRaw }

/-- Drop raw volume numbers if there are raw part numbers to carry them. -/
def dropCarriedVolumeNumbers (n : Notes) : Notes :=
  if n.partNumbers.isRaw then n.dropVolumeNumbers else n

def mapSegments (f : String → String) (n : Notes) : Notes :=
  { n with volumeNumbers := n.volumeNumbers.mapRaw (VolumeNumbers.mapTexts f) }

def mergeVolumeNumbers (n : Notes) : Notes :=
  { n with volumeNumbers := n.volumeNumbers.mapRaw VolumeNumbers.merge }

def renderVolumeNumbers (f : VolumeNumbers → Except Overflow String) (n : Notes) :
    Except NamingError Notes :=
  match n.volumeNumbers with
  | .raw vns =>
    match f vns with
    | .ok text => return { n with volumeNumbers := .rendered text }
    | .error sum => .error (.overflow sum)
  | _ => return n

def renderShortVolumeNumbers : Notes → Except NamingError Notes :=
  renderVolumeNumbers fun vns => vns.merge.compact

def renderFullVolumeNumbers : Notes → Except NamingError Notes :=
  renderVolumeNumbers VolumeNumbers.spelled

end Notes

end ReleaseNames
