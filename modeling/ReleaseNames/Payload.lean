import ReleaseNames.Request

/-!
# The request as JSON

Libraries receive the request as compact JSON: members in a fixed order, `null`
for a missing text, short escapes where JSON has them and `\u00xx` for the other
control characters. All other characters stand for themselves.
-/

namespace ReleaseNames.Payload

def escapeCode (n : Nat) : List Char :=
  ['\\', 'u', '0', '0', Nat.digitChar (n / 16), Nat.digitChar (n % 16)]

def escapeChar (c : Char) : List Char :=
  if c = '"' then ['\\', '"']
  else if c = '\\' then ['\\', '\\']
  else if c = '\x08' then ['\\', 'b']
  else if c = '\x0c' then ['\\', 'f']
  else if c = '\n' then ['\\', 'n']
  else if c = '\r' then ['\\', 'r']
  else if c = '\t' then ['\\', 't']
  else if c.toNat < 0x20 then escapeCode c.toNat
  else [c]

def quoted (s : String) : List Char :=
  '"' :: (s.toList.flatMap escapeChar ++ ['"'])

/-- A text in quotes, or `null`. -/
def quoted? : Option String → List Char
  | some s => quoted s
  | none => "null".toList

def number (n : UInt32) : List Char :=
  Nat.toDigits 10 n.toNat

def truth (b : Bool) : List Char :=
  if b then "true".toList else "false".toList

def object (members : List (String × List Char)) : List Char :=
  '\x7b' :: (List.intercalate [','] (members.map fun m => quoted m.1 ++ ':' :: m.2) ++ ['\x7d'])

def array (items : List (List Char)) : List Char :=
  '[' :: (List.intercalate [','] items ++ [']'])

def ofSeries (s : Series) : List Char :=
  object [("title", quoted s.title), ("subtitle", quoted? s.subtitle), ("slug", quoted? s.slug)]

def ofVolume (v : Volume) : List Char :=
  object [("num", number v.number), ("title", quoted v.title)]

def ofPart (p : Part) : List Char :=
  object [("volume", number p.volume), ("num_in_volume", number p.number),
    ("title", quoted p.title)]

def ofMarker (m : Marker) : List Char :=
  object [("final", truth m.final), ("complete", truth m.complete)]

def text (series : Series) (volumes : List Volume) (parts : List Part) (m : Marker) : String :=
  String.ofList (object [("series", ofSeries series), ("volumes", array (volumes.map ofVolume)),
    ("parts", array (parts.map ofPart)), ("fc", ofMarker m)])

end ReleaseNames.Payload

namespace ReleaseNames

def Request.json (r : Request) : String :=
  Payload.text r.series r.volumes r.parts r.marker

end ReleaseNames
