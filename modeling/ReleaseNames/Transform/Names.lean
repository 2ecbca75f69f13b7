import ReleaseNames.Text.SafeName
import ReleaseNames.Transform.Stage

/-!
# Names and strings

A series gets a name of its own from its title or its slug, and the name can then be
shortened in several ways. A value becomes a string by collapsing or by taking a
legacy name, and a string can have its spaces replaced or be made a safe file name.
A pending marker stays pending while the text changes.

The legacy names have fixed forms, for libraries whose files already bear them. The
title of a single part is the part's title, of several parts of one volume the
volume's title with a range of parts, and otherwise the series title with a list
of volumes and a range of parts.
-/

namespace ReleaseNames.Legacy

/-- What follows a range of parts that ends a volume. -/
def finalSuffix (m : Marker) : String :=
  if m.final then " - Final" else ""

def volumeSegment (volumes : List Volume) : String :=
  let numbers := volumes.map fun v => toString v.number.toNat
  match numbers with
  | [] => ""
  | [number] => "Volume " ++ number
  | _ => "Volumes " ++ enumerate numbers

def title (series : Series) (volumes : List Volume) (parts : List Part) (m : Marker) : String :=
  match parts with
  | [] => series.title
  | [part] => part.title ++ (if m.final then " [Final]" else "")
  | first :: second :: rest =>
    let last := rest.getLastD second
    match volumes with
    | [volume] =>
      let range :=
        if m.complete then "Complete"
        else "Parts " ++ toString first.number.toNat ++ " to " ++ toString last.number.toNat
          ++ finalSuffix m
      volume.title ++ " [" ++ range ++ "]"
    | _ =>
      let colon := if Text.endsWithPunctuation series.title then "" else ":"
      series.title ++ colon ++ " " ++ volumeSegment volumes
        ++ " [Parts " ++ toString first.volume.toNat ++ "." ++ toString first.number.toNat
        ++ " to " ++ toString last.volume.toNat ++ "." ++ toString last.number.toNat
        ++ finalSuffix m ++ "]"

/-- The legacy file name: the legacy title as a safe file name. -/
def filename (series : Series) (volumes : List Volume) (parts : List Part) (m : Marker) : String :=
  Text.onChars (Text.fileName ['_'] []) (title series volumes parts m)

/-- The legacy folder name: the series title as a safe folder name. -/
def folder (series : Series) : String :=
  Text.onChars Text.folderName series.title

end ReleaseNames.Legacy

namespace ReleaseNames

/-- What a rule may read: the request, and the channel for messages. -/
structure Context where
  request : Request
  channel : Channel
deriving DecidableEq

/-- The slug of the catalogue, or else a slug of the full title. -/
def Series.slugOrTitle (s : Series) : String :=
  match s.slug with
  | some slug => if slug = "" then Text.onChars Text.slug s.fullTitle else slug
  | none => Text.onChars Text.slug s.fullTitle

namespace Value

def nameSeries (name : String) : Value → Value
  | .series volumes parts notes => .seriesString name volumes parts notes
  | value => value

def mapName (f : List Char → List Char) : Value → Value
  | .seriesString name volumes parts notes =>
    .seriesString (Text.onChars f name) volumes parts notes
  | value => value

end Value

namespace SeriesName

def withoutStopwords (name : List Char) : List Char :=
  Text.unwords ((Text.words name).filter fun word => !Text.isStopword word)

def withoutSubtitle (name : List Char) : List Char :=
  Text.trim (name.takeWhile (· != ':'))

def acronym (name : List Char) : List Char :=
  (Text.words (Text.stripPunctuation name)).filterMap List.head?

def firstWords (count : Nat) (name : List Char) : List Char :=
  Text.unwords ((Text.words (Text.stripPunctuation name)).take count)

end SeriesName

def replaceSpaces (replacement cs : List Char) : List Char :=
  cs.flatMap fun c => if c = ' ' then replacement else [c]

namespace Value

def mapText (f : List Char → List Char) : Value → Value
  | .string s marker => .string (Text.onChars f s) marker
  | value => value

/-- Turn a value into a string: a series name is kept, with a colon if asked for and if no
punctuation ends it, and titles are not written. -/
def toText (addColon : Bool) : Value → Value
  | .seriesString name volumes parts notes =>
    let head :=
      if addColon && name ≠ "" && !Text.endsWithPunctuation name then name ++ ":" else name
    (Value.seriesString name volumes parts notes).collapse (some head)
  | value => value.collapse none

/-- The indices of the volumes and parts of a value, in order. A string has none. -/
def members (r : Request) : Value → Except NamingError (List Nat × List Nat)
  | .part i _ => do
    let volume ← r.homeVolume i
    return ([volume], [i])
  | .volume v parts _ => return ([v], parts)
  | .series volumes parts _ => return (volumes, parts)
  | .seriesString _ volumes parts _ => return (volumes, parts)
  | .string .. => return ([], [])

/-- Turn a value into the legacy title of its volumes and parts. A string has none, and is never
met here: the rule does not accept it. -/
def legacyTitle (ctx : Context) (value : Value) : Except NamingError Value :=
  if value.isTerminal then .error (.mismatch ctx.channel .legacyT value.stage)
  else do
    let (volumeIndices, partIndices) ← value.members ctx.request
    let volumes ← volumeIndices.mapM ctx.request.volumeAt
    let parts ← partIndices.mapM ctx.request.partAt
    return .text (Legacy.title ctx.request.series volumes parts ctx.request.marker)

end Value

end ReleaseNames
