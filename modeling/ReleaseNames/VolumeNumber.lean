import ReleaseNames.Text.Words

/-!
# Volume and part numbers

A volume number is a list of segments, since a title may count in two ways
("Part 5 Volume 2"). A list of volume numbers can be written in compact notation,
where consecutive numbers form a run. Texts that are not unsigned 64-bit numbers
never join a run. Neighbours that are such numbers are compared by the successor of
the first, and the largest of them has none: there compact notation stops with an
overflow.
-/

namespace ReleaseNames

/-- Where a segment of a volume number comes from. -/
inductive SegmentKind where
  /-- The catalogue's number. -/
  | internal
  /-- A volume counted in the title. -/
  | volume
  /-- A part counted in the volume's title. -/
  | part
  /-- Several segments in dotted form. -/
  | merged
  /-- Free text. -/
  | special
deriving DecidableEq

/-- The word that introduces a segment when it is spelled out. -/
def SegmentKind.label? : SegmentKind → Option String
  | .internal | .volume | .merged => some "Volume"
  | .part => some "Part"
  | .special => none

structure Segment where
  text : String
  kind : SegmentKind
deriving DecidableEq

def Segment.spelled (s : Segment) : String :=
  match s.kind.label? with
  | some label => label ++ " " ++ s.text
  | none => s.text

/-- The number of the volume at an index of the request. -/
structure VolumeNumber where
  volume : Nat
  segments : List Segment
deriving DecidableEq

/-- The number of the part at an index of the request. -/
structure PartNumber where
  part : Nat
  text : String
deriving DecidableEq

/-- The volume numbers of a value, and whether the list is to be written compactly. -/
structure VolumeNumbers where
  numbers : List VolumeNumber
  merged : Bool
deriving DecidableEq

def VolumeNumber.dotted (n : VolumeNumber) : String :=
  ".".intercalate (n.segments.map (·.text))

def VolumeNumber.internal (volume : Nat) (number : UInt32) : VolumeNumber :=
  ⟨volume, [⟨toString number.toNat, .internal⟩]⟩

/-- Replace several segments by one dotted segment. -/
def VolumeNumber.merge (n : VolumeNumber) : VolumeNumber :=
  if n.segments.length > 1 then { n with segments := [⟨n.dotted, .merged⟩] } else n

/-- A sum does not fit its 64-bit word. -/
inductive Overflow where
  | successor
deriving DecidableEq

def Overflow.message : Overflow → String
  | .successor => "attempt to add with overflow"

def successor (x : UInt64) : Except Overflow UInt64 :=
  if x.toNat + 1 < UInt64.size then .ok (x + 1) else .error .successor

/-- Whether the second text writes the successor of the number the first one writes. The sum is
computed as soon as both write numbers, whatever the second number is. -/
def continuesRun (a b : String) : Except Overflow Bool :=
  match Text.unsigned? a, Text.unsigned? b with
  | some x, some y => do
    let next ← successor x
    return y == next
  | _, _ => return false

def joinRun (entry : String) : List (List String) → List (List String)
  | [] => [[entry]]
  | run :: runs => (entry :: run) :: runs

/-- A list cut into its maximal runs. Every two neighbours are compared once. -/
def cutRuns : List String → Except Overflow (List (List String))
  | [] => return []
  | [entry] => return [[entry]]
  | entry :: next :: rest => do
    let joined ← continuesRun entry next
    let runs ← cutRuns (next :: rest)
    return if joined then joinRun entry runs else [entry] :: runs

/-- A run is written by its ends, a single entry as it is. -/
def writeRun : List String → String
  | [] => ""
  | [text] => text
  | first :: next :: rest => first ++ "-" ++ rest.getLastD next

/-- Texts with commas between them and an ampersand before the last. -/
def enumerate (texts : List String) : String :=
  match texts.reverse with
  | [] => ""
  | [text] => text
  | last :: init => ", ".intercalate init.reverse ++ " & " ++ last

namespace VolumeNumbers

def texts (n : VolumeNumbers) : List String :=
  n.numbers.map VolumeNumber.dotted

def find? (n : VolumeNumbers) (volume : Nat) : Option VolumeNumber :=
  n.numbers.find? fun v => v.volume == volume

/-- Compact notation: maximal runs by their ends, separated by commas. -/
def compact (n : VolumeNumbers) : Except Overflow String := do
  let runs ← cutRuns n.texts
  return ",".intercalate (runs.map writeRun)

example :
    (compact ⟨[.internal 0 1, .internal 1 2, .internal 2 3, .internal 3 5], false⟩).toOption =
      some "1-3,5" := by
  decide +kernel

def merge (n : VolumeNumbers) : VolumeNumbers :=
  ⟨n.numbers.map VolumeNumber.merge, if n.numbers.length > 1 then true else n.merged⟩

/-- The numbers with their labels. Only a list that is marked for compact notation can overflow. -/
def spelled (n : VolumeNumbers) : Except Overflow String :=
  if n.merged then do
    let text ← n.compact
    return "Volumes " ++ text
  else
    match n.numbers with
    | [] => return ""
    | [number] =>
      match number.segments with
      | [segment] =>
        return if segment.kind = .special then segment.text else "Volume " ++ segment.text
      | segments => return " ".intercalate (segments.map Segment.spelled)
    | _ => return "Volumes " ++ enumerate n.texts

def mapTexts (f : String → String) (n : VolumeNumbers) : VolumeNumbers :=
  { n with numbers := n.numbers.map fun v =>
      { v with segments := v.segments.map fun s => { s with text := f s.text } } }

end VolumeNumbers

end ReleaseNames
