import ReleaseNames.Error
import ReleaseNames.Payload
import ReleaseNames.Text.Utf8

/-!
# Overrides and libraries of overrides

Any channel can be given a function that makes its name from the parts of a
request. What such a function returns is used as it is, even if it is empty or no
safe file name. A function may fail with a message.

A library exports naming functions for some channels and a function that
releases their results. A naming function receives the request as JSON, in a text
without zero bytes, and returns nothing or bytes that end at the first zero byte.
A library without naming functions or without the release function is refused.
Four small libraries show what a library can do: name a title, fail in different
ways, and lack one of the exports that a library needs.
-/

namespace ReleaseNames

/-- A function that names a release, or fails with a message. -/
abbrev Override : Type :=
  Series → List Volume → List Part → Marker → Except String String

/-- At most one override for each channel. -/
structure Overrides where
  title : Option Override
  filename : Option Override
  folder : Option Override

namespace Overrides

def empty : Overrides := ⟨none, none, none⟩

def get? (o : Overrides) : Channel → Option Override
  | .title => o.title
  | .filename => o.filename
  | .folder => o.folder

def set (o : Overrides) (channel : Channel) (f : Override) : Overrides :=
  match channel with
  | .title => { o with title := some f }
  | .filename => { o with filename := some f }
  | .folder => { o with folder := some f }

def isEmpty (o : Overrides) : Bool :=
  Channel.all.all fun c => (o.get? c).isNone

def call? (o : Overrides) (channel : Channel) (r : Request) : Option (Except NamingError String) :=
  match o.get? channel with
  | some f =>
    match f r.series r.volumes r.parts r.marker with
    | .ok name => some (.ok name)
    | .error message => some (.error (.overrideFailed channel message))
  | none => none

def summary (o : Overrides) : String :=
  "Overrides \x7b title: " ++ toString o.title.isSome ++ ", filename: "
    ++ toString o.filename.isSome ++ ", folder: " ++ toString o.folder.isSome ++ " \x7d"

end Overrides

/-- A naming function of a library, from JSON to bytes. -/
abbrev NameFunction : Type :=
  String → Option (List UInt8)

/-- The exports of a library. -/
structure Library where
  title : Option NameFunction
  filename : Option NameFunction
  folder : Option NameFunction
  /-- Whether the function that releases results is exported. -/
  releases : Bool

/-- Why a call of a library function failed. -/
inductive LibraryCallError where
  /-- The request has a zero byte in its JSON. -/
  | zeroByte (index : Nat)
  | returnedNothing (channel : Channel)
  | notText (error : Text.Utf8Error)
deriving DecidableEq

def LibraryCallError.message : LibraryCallError → String
  | .zeroByte index => "nul byte found in provided data at position: " ++ toString index
  | .returnedNothing channel => channel.symbol ++ " returned null"
  | .notText e => e.message

namespace Library

def function? (l : Library) : Channel → Option NameFunction
  | .title => l.title
  | .filename => l.filename
  | .folder => l.folder

def call (channel : Channel) (f : NameFunction) (payload : String) :
    Except LibraryCallError String :=
  match payload.toUTF8.toList.findIdx? (· == 0) with
  | some index => .error (.zeroByte index)
  | none =>
    match f payload with
    | none => .error (.returnedNothing channel)
    | some bytes =>
      match Text.ofUtf8 (bytes.takeWhile (· != 0)) with
      | .ok name => .ok name
      | .error e => .error (.notText e)

/-- A naming function as an override. -/
def override (channel : Channel) (f : NameFunction) : Override :=
  fun series volumes parts marker =>
    match call channel f (Payload.text series volumes parts marker) with
    | .ok name => .ok name
    | .error e => .error e.message

def overrides (l : Library) : Except LibraryError Overrides :=
  if Channel.all.all fun c => (l.function? c).isNone then .error .noExports
  else if !l.releases then .error .noRelease
  else .ok ⟨l.title.map (override .title), l.filename.map (override .filename),
    l.folder.map (override .folder)⟩

/-- Names the title with the JSON it receives. -/
def titleOnly : Library :=
  { title := some fun payload => some payload.toUTF8.toList
    filename := none
    folder := none
    releases := true }

/-- Returns nothing for the title and bytes that are not text for the file name. -/
def failing : Library :=
  { title := some fun _ => none
    filename := some fun _ => some [0x66, 0xFF, 0xFE]
    folder := some fun _ => some "Fixture Folder".toUTF8.toList
    releases := true }

/-- Names the title but cannot release the name. -/
def noFree : Library :=
  { titleOnly with releases := false }

/-- Exports no naming function. -/
def noExports : Library :=
  { title := none, filename := none, folder := none, releases := true }

def samples : List (String × Library) :=
  [("title_only", titleOnly), ("failing", failing), ("no_free", noFree), ("no_exports", noExports)]

example : noFree.overrides = .error .noRelease ∧ noExports.overrides = .error .noExports :=
  ⟨rfl, rfl⟩

end Library

end ReleaseNames
