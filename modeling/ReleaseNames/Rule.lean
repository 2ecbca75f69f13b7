/-!
# The rules

A rule is one step of a channel. This module lists the rules with the names by
which expressions call them, the values they accept and their parameters. What a
rule does to a value is defined elsewhere.
-/

namespace ReleaseNames

/-- A registered rule. The initial letters say what it works on: `fc` the marker, `p` a part,
`pn` part numbers, `v` a volume, `vn` volume numbers, `s` a series, `ss` a series name and `str`
a string. -/
inductive Rule where
  | fcRm
  | fcRmIfComplete
  | fcShort
  | fcFull
  | pToVolume
  | pToSeries
  | pSplitPart
  | pTitle
  | pnRm
  | pnRmIfComplete
  | pnPrependVn
  | pnPrependVnIfMultiple
  | pnZeroPad
  | pnShort
  | pnFull
  | vToSeries
  | vSplitVolume
  | vTitle
  | vnRm
  | vnRmIfPn
  | vnNumber
  | vnMerge
  | vnZeroPad
  | vnShort
  | vnFull
  | toSeries
  | sTitle
  | sSlug
  | ssRmStopwords
  | ssRmSubtitle
  | ssAcronym
  | ssFirst
  | ssMaxLen
  | legacyT
  | legacyF
  | toString
  | strRmSpace
  | strReplaceSpace
  | strFilesafe
deriving DecidableEq

inductive Accepts where
  /-- Values that are not strings. -/
  | structured
  /-- Strings. -/
  | terminal
  /-- All values. -/
  | any
deriving DecidableEq

inductive ArgType where
  | integer
  | text
deriving DecidableEq

def ArgType.phrase : ArgType → String
  | .integer => "an integer"
  | .text => "a string"

inductive Arg where
  | int (value : Int64)
  | str (value : String)
deriving DecidableEq

def Arg.type : Arg → ArgType
  | .int _ => .integer
  | .str _ => .text

/-- A parameter, whose default also fixes its type. -/
structure Param where
  name : String
  default : Arg
  /-- Whether text must be ASCII. -/
  ascii : Bool
deriving DecidableEq

namespace Rule

def all : List Rule := [
  .fcRm, .fcRmIfComplete, .fcShort, .fcFull, .pToVolume, .pToSeries, .pSplitPart, .pTitle, .pnRm,
  .pnRmIfComplete, .pnPrependVn, .pnPrependVnIfMultiple, .pnZeroPad, .pnShort, .pnFull, .vToSeries,
  .vSplitVolume, .vTitle, .vnRm, .vnRmIfPn, .vnNumber, .vnMerge, .vnZeroPad, .vnShort, .vnFull,
  .toSeries, .sTitle, .sSlug, .ssRmStopwords, .ssRmSubtitle, .ssAcronym, .ssFirst, .ssMaxLen,
  .legacyT, .legacyF, .toString, .strRmSpace, .strReplaceSpace, .strFilesafe]

def name : Rule → String
  | .fcRm => "fc_rm"
  | .fcRmIfComplete => "fc_rm_if_complete"
  | .fcShort => "fc_short"
  | .fcFull => "fc_full"
  | .pToVolume => "p_to_volume"
  | .pToSeries => "p_to_series"
  | .pSplitPart => "p_split_part"
  | .pTitle => "p_title"
  | .pnRm => "pn_rm"
  | .pnRmIfComplete => "pn_rm_if_complete"
  | .pnPrependVn => "pn_prepend_vn"
  | .pnPrependVnIfMultiple => "pn_prepend_vn_if_multiple"
  | .pnZeroPad => "pn_0pad"
  | .pnShort => "pn_short"
  | .pnFull => "pn_full"
  | .vToSeries => "v_to_series"
  | .vSplitVolume => "v_split_volume"
  | .vTitle => "v_title"
  | .vnRm => "vn_rm"
  | .vnRmIfPn => "vn_rm_if_pn"
  | .vnNumber => "vn_number"
  | .vnMerge => "vn_merge"
  | .vnZeroPad => "vn_0pad"
  | .vnShort => "vn_short"
  | .vnFull => "vn_full"
  | .toSeries => "to_series"
  | .sTitle => "s_title"
  | .sSlug => "s_slug"
  | .ssRmStopwords => "ss_rm_stopwords"
  | .ssRmSubtitle => "ss_rm_subtitle"
  | .ssAcronym => "ss_acronym"
  | .ssFirst => "ss_first"
  | .ssMaxLen => "ss_max_len"
  | .legacyT => "legacy_t"
  | .legacyF => "legacy_f"
  | .toString => "to_string"
  | .strRmSpace => "str_rm_space"
  | .strReplaceSpace => "str_replace_space"
  | .strFilesafe => "str_filesafe"

def accepts : Rule → Accepts
  | .fcShort | .fcFull | .toString => .any
  | .strRmSpace | .strReplaceSpace | .strFilesafe => .terminal
  | _ => .structured

def params : Rule → List Param
  | .ssFirst => [⟨"n", .int 1, false⟩]
  | .ssMaxLen => [⟨"n", .int 30, false⟩]
  | .toString => [⟨"add_colon", .int 0, false⟩]
  | .strReplaceSpace => [⟨"replacement", .str "_", false⟩]
  | .strFilesafe => [⟨"replacement", .str "_", true⟩, ⟨"preserve", .str "", false⟩]
  | _ => []

def ofName? (s : String) : Option Rule :=
  all.find? fun r => r.name == s

theorem mem_all (r : Rule) : r ∈ all := by
  cases r <;> decide

theorem ofName?_name (r : Rule) : ofName? r.name = some r := by
  cases r <;> decide

theorem name_injective {a b : Rule} (h : a.name = b.name) : a = b := by
  have ha := ofName?_name a
  rw [h, ofName?_name b] at ha
  exact (Option.some.inj ha).symm

theorem name_of_ofName? {s : String} {r : Rule} (h : ofName? s = some r) : r.name = s := by
  simpa using List.find?_some h

end Rule

end ReleaseNames
