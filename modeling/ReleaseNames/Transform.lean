import ReleaseNames.Rule.Call
import ReleaseNames.Transform.Names

/-!
# Applying rules

The effect of each rule on a value. A call is applied only to values that its
rule accepts; a rule that finds nothing to work on leaves the value as it is.
-/

namespace ReleaseNames

def Accepts.admits (a : Accepts) (value : Value) : Bool :=
  match a with
  | .structured => !value.isTerminal
  | .terminal => value.isTerminal
  | .any => true

namespace Call

/-- The effect of a call, on a value that its rule accepts. -/
def transform (call : Call) (ctx : Context) (value : Value) : Except NamingError Value :=
  match call.rule with
  | .fcRm => return value.mapNotes Notes.dropMarker
  | .fcRmIfComplete =>
    return if ctx.request.marker.complete then value.mapNotes Notes.dropMarker else value
  | .fcShort => return value.renderMarker Marker.short
  | .fcFull => return value.renderMarker Marker.full
  | .pToVolume => value.partToVolume ctx.request
  | .pToSeries => value.partToSeries ctx.request
  | .pSplitPart => value.partToVolume ctx.request
  | .pTitle => value.partTitle ctx.request
  | .pnRm => return value.mapNotes Notes.dropPartNumbers
  | .pnRmIfComplete =>
    return if ctx.request.marker.complete then value.mapNotes Notes.dropPartNumbers else value
  | .pnPrependVn => value.mapNotesM (Notes.prependVolumeNumbers ctx.request false)
  | .pnPrependVnIfMultiple => value.mapNotesM (Notes.prependVolumeNumbers ctx.request true)
  | .pnZeroPad => return value.mapNotes Notes.padPartNumbers
  | .pnShort => return value.mapNotes (Notes.renderPartNumbers shortPartNumbers)
  | .pnFull => return value.mapNotes (Notes.renderPartNumbers fullPartNumbers)
  | .vToSeries => value.volumeToSeries ctx.request
  | .vSplitVolume => value.splitVolume ctx.request
  | .vTitle => value.volumeTitle ctx.request
  | .vnRm => return value.mapNotes Notes.dropVolumeNumbers
  | .vnRmIfPn => return value.mapNotes Notes.dropCarriedVolumeNumbers
  | .vnNumber => return value.mapNotes (Notes.mapSegments Text.digitsOfWord)
  | .vnMerge => return value.mapNotes Notes.mergeVolumeNumbers
  | .vnZeroPad => return value.mapNotes (Notes.mapSegments (Text.zeroPad 2))
  | .vnShort => value.mapNotesM Notes.renderShortVolumeNumbers
  | .vnFull => value.mapNotesM Notes.renderFullVolumeNumbers
  | .toSeries => value.toSeries ctx.request
  | .sTitle => return value.nameSeries ctx.request.series.fullTitle
  | .sSlug => return value.nameSeries ctx.request.series.slugOrTitle
  | .ssRmStopwords => return value.mapName SeriesName.withoutStopwords
  | .ssRmSubtitle => return value.mapName SeriesName.withoutSubtitle
  | .ssAcronym => return value.mapName SeriesName.acronym
  | .ssFirst => return value.mapName (SeriesName.firstWords (max (call.count 0) 1))
  | .ssMaxLen => return value.mapName (List.take (call.count 0))
  | .legacyT => value.legacyTitle ctx
  | .legacyF => return .text (Legacy.folder ctx.request.series)
  | .toString => return value.toText (call.int 0 != 0)
  | .strRmSpace => return value.mapText (replaceSpaces [])
  | .strReplaceSpace => return value.mapText (replaceSpaces (call.str 0).toList)
  | .strFilesafe => return value.mapText (Text.fileName (call.str 0).toList (call.str 1).toList)

/-- Apply a call, if its rule accepts the value. -/
def apply (call : Call) (ctx : Context) (value : Value) : Except NamingError Value :=
  if call.rule.accepts.admits value then call.transform ctx value
  else .error (.mismatch ctx.channel call.rule value.stage)

end Call

end ReleaseNames
