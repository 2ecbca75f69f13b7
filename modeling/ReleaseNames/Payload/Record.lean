import ReleaseNames.Json

/-!
# Requests as records

The JSON tree of a request and the request that a tree gives. A record is written
as an object with its members in the order of their declaration. It is read from
an object, where other members are skipped, or from an array, where the position
says which member it is. A member that can be absent may be `null` or left out of
an object, but not out of an array.
-/

namespace ReleaseNames

namespace Json

/-- The value of a member, if there is one; two of one name are refused. -/
def member? (members : List (String × Json)) (name : String) : Option (Option Json) :=
  match members.filter fun m => m.1 == name with
  | [] => some none
  | [m] => some (some m.2)
  | _ => none

def fields? (names : List String) : Json → Option (List (Option Json))
  | .object members => names.mapM (member? members)
  | .array items => if items.length = names.length then some (items.map some) else none
  | _ => none

def asText? : Json → Option String
  | .text s => some s
  | _ => none

/-- A text, or none where it is `null` or left out. -/
def asTextOrNone? : Option Json → Option (Option String)
  | none => some none
  | some .null => some none
  | some j => j.asText?.map some

/-- A whole number in 32 bits. -/
def asWord? : Json → Option UInt32
  | .number n =>
    let value := Nat.ofDigitChars 10 n.text 0
    if n.text.all Char.isDigit ∧ value < UInt32.size then some (UInt32.ofNat value) else none
  | _ => none

def asTruth? : Json → Option Bool
  | .truth b => some b
  | _ => none

def asList? {α : Type} (read : Json → Option α) : Json → Option (List α)
  | .array items => items.mapM read
  | _ => none

def ofWord (n : UInt32) : Json :=
  .number (.ofNat n.toNat)

def ofText? : Option String → Json
  | some s => .text s
  | none => .null

end Json

def Series.toJson (s : Series) : Json :=
  .object [("title", .text s.title), ("subtitle", .ofText? s.subtitle), ("slug", .ofText? s.slug)]

def Series.ofJson? (j : Json) : Option Series :=
  match j.fields? ["title", "subtitle", "slug"] with
  | some [some title, subtitle, slug] => do
    return ⟨← title.asText?, ← Json.asTextOrNone? subtitle, ← Json.asTextOrNone? slug⟩
  | _ => none

def Volume.toJson (v : Volume) : Json :=
  .object [("num", .ofWord v.number), ("title", .text v.title)]

def Volume.ofJson? (j : Json) : Option Volume :=
  match j.fields? ["num", "title"] with
  | some [some number, some title] => do return ⟨← number.asWord?, ← title.asText?⟩
  | _ => none

def Part.toJson (p : Part) : Json :=
  .object [("volume", .ofWord p.volume), ("num_in_volume", .ofWord p.number),
    ("title", .text p.title)]

def Part.ofJson? (j : Json) : Option Part :=
  match j.fields? ["volume", "num_in_volume", "title"] with
  | some [some volume, some number, some title] => do
    return ⟨← volume.asWord?, ← number.asWord?, ← title.asText?⟩
  | _ => none

def Marker.toJson (m : Marker) : Json :=
  .object [("final", .truth m.final), ("complete", .truth m.complete)]

def Marker.ofJson? (j : Json) : Option Marker :=
  match j.fields? ["final", "complete"] with
  | some [some final, some complete] => do return ⟨← final.asTruth?, ← complete.asTruth?⟩
  | _ => none

namespace Request

def toJson (r : Request) : Json :=
  .object [("series", r.series.toJson), ("volumes", .array (r.volumes.map Volume.toJson)),
    ("parts", .array (r.parts.map Part.toJson)), ("fc", r.marker.toJson)]

def ofJson? (j : Json) : Option Request :=
  match j.fields? ["series", "volumes", "parts", "fc"] with
  | some [some series, some volumes, some parts, some marker] => do
    return ⟨← Series.ofJson? series, ← volumes.asList? Volume.ofJson?,
      ← parts.asList? Part.ofJson?, ← Marker.ofJson? marker⟩
  | _ => none

/-- The compact JSON text of a request. -/
def encode (r : Request) : String :=
  String.ofList r.toJson.compact

/-- The request that a JSON text gives. -/
def decode? (payload : String) : Option Request :=
  (Json.read? payload.toList).bind ofJson?

/-- White space, other members, another order, escapes, and a member left out. -/
example :
    decode? ("\x7b\"fc\": [false,true],\"note\":[1.5e3],\"parts\":[],\n" ++
      "\"volumes\":[],\"series\":\x7b\"title\":\"\\u0056\\ud83d\\ude00\"\x7d\x7d") =
    some ⟨⟨"V😀", none, none⟩, [], [], ⟨false, true⟩⟩ := by
  decide +kernel

end Request

end ReleaseNames
