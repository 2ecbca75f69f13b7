import ReleaseNames.Proofs.EverySeed
import ReleaseNames.Proofs.MarkerUse
import ReleaseNames.Proofs.MergedNumbers
import ReleaseNames.Proofs.Overflow
import ReleaseNames.Proofs.ShortNames

/-!
# Rules that need not be repeated

Most rules leave a value on which they have nothing more to do: what they drop is
gone, what they render is text, a stage that they leave is behind, and a text that
they write is one that they would write again. Such a rule can be repeated, it then
succeeds and changes nothing. The others are prefixing, writing a title, an acronym,
a legacy name or a safe file name, and replacing spaces by something with a space in
it.
-/

namespace ReleaseNames

variable {r : Request} {ctx : Context} {v w : Value}

/-- The rules that are done after one application. -/
def Rule.normalising : List Rule := [
  .fcRm, .fcRmIfComplete, .fcShort, .fcFull, .pToVolume, .pSplitPart, .pToSeries, .pnRm,
  .pnRmIfComplete, .pnZeroPad, .pnShort, .pnFull, .vToSeries, .vSplitVolume, .vnRm, .vnRmIfPn,
  .vnNumber, .vnMerge, .vnZeroPad, .vnShort, .vnFull, .toSeries, .sTitle, .sSlug, .ssRmStopwords,
  .ssRmSubtitle, .ssFirst, .ssMaxLen, .toString, .strRmSpace, .strReplaceSpace]

namespace Text

theorem zeroPad_zeroPad (width : Nat) (s : String) :
    zeroPad width (zeroPad width s) = zeroPad width s := by
  by_cases hdigits : s.toList ≠ [] ∧ s.toList.all Char.isDigit
  · have hpad : zeroPad width s =
        String.ofList (List.replicate (width - s.toList.length) '0' ++ s.toList) := if_pos hdigits
    have hfull : width - (zeroPad width s).toList.length = 0 := by
      rw [hpad, String.toList_ofList, List.length_append, List.length_replicate]
      omega
    rw [zeroPad.eq_def width (zeroPad width s), hfull]
    simp
  · have hself : zeroPad width s = s := if_neg hdigits
    rw [hself, hself]

/-- Digits spell no number word. -/
theorem digitsOfWord_digitsOfWord (s : String) :
    digitsOfWord (digitsOfWord s) = digitsOfWord s := by
  have hdigits : ∀ n < 21, wordNumber? (toString n) = none := by decide +kernel
  cases h : wordNumber? s with
  | none =>
    have hself : digitsOfWord s = s := by rw [digitsOfWord, h]
    rw [hself, hself]
  | some n =>
    have hnumber : digitsOfWord s = toString n := by rw [digitsOfWord, h]
    have hle := le_twenty_of_wordNumber? h
    rw [hnumber, digitsOfWord, hdigits n (by omega)]

end Text

namespace SeriesName

theorem withoutStopwords_withoutStopwords (name : List Char) :
    withoutStopwords (withoutStopwords name) = withoutStopwords name := by
  have hwords : ∀ word ∈ (Text.words name).filter (fun word => !Text.isStopword word),
      Text.IsWord word := fun word hword =>
    Text.isWord_of_mem_words (List.mem_filter.mp hword).1
  rw [withoutStopwords.eq_def (withoutStopwords name), withoutStopwords, Text.words_unwords hwords,
    List.filter_filter]
  simp

/-- Without a colon there is no subtitle, and trimming brings none in. -/
theorem withoutSubtitle_withoutSubtitle (name : List Char) :
    withoutSubtitle (withoutSubtitle name) = withoutSubtitle name := by
  have hplain : ∀ c ∈ withoutSubtitle name, (c != ':') = true := by
    intro c hc
    have htaken : c ∈ name.takeWhile (· != ':') := Text.mem_of_mem_trimWhere hc
    exact List.mem_takeWhile_imp (p := (· != ':')) htaken
  rw [withoutSubtitle.eq_def (withoutSubtitle name), List.takeWhile_eq_self_iff.mpr hplain]
  exact Text.trimWhere_trimWhere _ _

end SeriesName

theorem replaceSpaces_of_free {cs : List Char} (h : ' ' ∉ cs) (replacement : List Char) :
    replaceSpaces replacement cs = cs := by
  have hkept : ∀ c ∈ cs, (if c = ' ' then replacement else [c]) = [c] := fun c hc =>
    if_neg (ne_of_mem_of_not_mem hc h)
  rw [replaceSpaces, List.flatMap_congr hkept, List.flatMap_singleton']

theorem replaceSpaces_replaceSpaces {replacement : List Char} (h : ' ' ∉ replacement)
    (cs : List Char) :
    replaceSpaces replacement (replaceSpaces replacement cs) = replaceSpaces replacement cs := by
  refine replaceSpaces_of_free (fun hspace => ?_) replacement
  obtain ⟨c, -, hc⟩ := List.mem_flatMap.mp hspace
  split at hc
  · exact h hc
  · next hne => exact hne (List.mem_singleton.mp hc).symm

namespace Slot

variable {α : Type}

@[simp] theorem dropRaw_dropRaw (s : Slot α) : s.dropRaw.dropRaw = s.dropRaw :=
  dropRaw_of_raw?_eq_none (raw?_dropRaw s)

@[simp] theorem render_render (f : α → String) (s : Slot α) : (s.render f).render f = s.render f :=
  render_of_raw?_eq_none (raw?_render f s)

theorem mapRaw_twice {f : α → α} (h : ∀ a, f (f a) = f a) (s : Slot α) :
    (s.mapRaw f).mapRaw f = s.mapRaw f := by
  rw [mapRaw_mapRaw, funext h]

end Slot

namespace Notes

theorem padPartNumbers_padPartNumbers (n : Notes) :
    n.padPartNumbers.padPartNumbers = n.padPartNumbers := by
  rw [padPartNumbers, padPartNumbers, Slot.mapRaw_twice]
  simp [Text.zeroPad_zeroPad]

theorem mapSegments_twice {f : String → String} (h : ∀ s, f (f s) = f s) (n : Notes) :
    (n.mapSegments f).mapSegments f = n.mapSegments f := by
  rw [mapSegments, mapSegments, Slot.mapRaw_twice]
  simp [VolumeNumbers.mapTexts, h]

/-- The part numbers that carry the volume numbers are still there after these are dropped. -/
theorem dropCarriedVolumeNumbers_twice (n : Notes) :
    n.dropCarriedVolumeNumbers.dropCarriedVolumeNumbers = n.dropCarriedVolumeNumbers := by
  cases h : n.partNumbers.isRaw <;> simp [dropCarriedVolumeNumbers, dropVolumeNumbers, h]

end Notes

theorem Notes.renderVolumeNumbers_again {f : VolumeNumbers → Except Overflow String} {n m : Notes}
    (h : n.renderVolumeNumbers f = .ok m) : m.renderVolumeNumbers f = .ok m := by
  have hraw := h
  rw [renderVolumeNumbers] at hraw
  split at hraw
  · split at hraw
    · cases hraw
      rfl
    · cases hraw
  · cases hraw
    exact h

theorem ite_twice {α : Type} {p : Prop} [Decidable p] {f : α → α} {a : α} (h : f (f a) = f a) :
    (if p then f (if p then f a else a) else if p then f a else a) = if p then f a else a := by
  by_cases hp : p <;> simp [hp, h]

namespace Value

theorem mapNotes_twice {f : Notes → Notes} (h : ∀ n, f (f n) = f n) (v : Value) :
    (v.mapNotes f).mapNotes f = v.mapNotes f := by
  rw [mapNotes_mapNotes, funext h]

theorem mapNotesM_again {f : Notes → Except NamingError Notes}
    (hf : ∀ n m, f n = .ok m → f m = .ok m) (h : v.mapNotesM f = .ok w) :
    w.mapNotesM f = .ok w := by
  cases hn : v.notes? with
  | some n =>
    obtain ⟨m, hm, rfl⟩ := (mapNotesM_eq_ok hn).mp h
    rw [mapNotesM_mapNotes, hf n m hm]
    cases v with
    | string s k => cases hn
    | _ => rfl
  | none =>
    rw [mapNotesM_of_notes?_eq_none hn] at h
    cases h
    exact mapNotesM_of_notes?_eq_none hn

theorem renderMarker_renderMarker (f : Marker → String) (v : Value) :
    (v.renderMarker f).renderMarker f = v.renderMarker f :=
  renderMarker_of_dead (live?_renderMarker f v)

theorem nameSeries_nameSeries (name : String) (v : Value) :
    (v.nameSeries name).nameSeries name = v.nameSeries name := by
  cases v <;> rfl

theorem mapName_twice {f : List Char → List Char} (h : ∀ cs, f (f cs) = f cs) (v : Value) :
    (v.mapName f).mapName f = v.mapName f := by
  cases v with
  | seriesString name vs parts n => simp only [mapName, Text.onChars_onChars, h]
  | _ => rfl

theorem mapText_twice {f : List Char → List Char} (h : ∀ cs, f (f cs) = f cs) (v : Value) :
    (v.mapText f).mapText f = v.mapText f := by
  cases v with
  | string s m => simp only [mapText, Text.onChars_onChars, h]
  | _ => rfl

theorem toText_toText (colon : Bool) (v : Value) :
    (v.toText colon).toText colon = v.toText colon := by
  cases v <;> rfl

theorem partToVolume_again (h : v.partToVolume r = .ok w) : w.partToVolume r = .ok w := by
  cases v with
  | part i n =>
    obtain ⟨volume, -, h⟩ := Outcome.bind_eq_ok.mp h
    obtain ⟨number, -, h⟩ := Outcome.bind_eq_ok.mp h
    cases h
    rfl
  | _ => cases h; rfl

theorem partToSeries_again (h : v.partToSeries r = .ok w) : w.partToSeries r = .ok w := by
  cases v with
  | part i n =>
    obtain ⟨volume, -, h⟩ := Outcome.bind_eq_ok.mp h
    obtain ⟨volumeNumber, -, h⟩ := Outcome.bind_eq_ok.mp h
    obtain ⟨partNumber, -, h⟩ := Outcome.bind_eq_ok.mp h
    cases h
    rfl
  | _ => cases h; rfl

theorem volumeToSeries_again (h : v.volumeToSeries r = .ok w) : w.volumeToSeries r = .ok w := by
  cases v with
  | volume v parts n =>
    obtain ⟨number, -, h⟩ := Outcome.bind_eq_ok.mp h
    cases h
    rfl
  | _ => cases h; rfl

/-- A volume whose title says no more than the series stays a volume, again and again. -/
theorem splitVolume_again (h : v.splitVolume r = .ok w) : w.splitVolume r = .ok w := by
  cases v with
  | volume v parts n =>
    obtain ⟨listed, -, hsplit⟩ := Outcome.bind_eq_ok.mp h
    split at hsplit
    · cases hsplit
      exact h
    · cases hsplit
      rfl
  | _ => cases h; rfl

theorem toSeries_again (h : v.toSeries r = .ok w) : w.toSeries r = .ok w := by
  obtain ⟨u, hu, hw⟩ := Outcome.bind_eq_ok.mp h
  cases v with
  | volume v parts n =>
    obtain ⟨number, -, hu⟩ := Outcome.bind_eq_ok.mp hu
    cases hu
    cases hw
    rfl
  | part i n =>
    cases hu
    obtain ⟨volume, -, hw⟩ := Outcome.bind_eq_ok.mp hw
    obtain ⟨volumeNumber, -, hw⟩ := Outcome.bind_eq_ok.mp hw
    obtain ⟨partNumber, -, hw⟩ := Outcome.bind_eq_ok.mp hw
    cases hw
    rfl
  | _ => cases hu; cases hw; rfl

end Value

theorem Accepts.admits_congr (a : Accepts) (h : w.isTerminal = v.isTerminal) :
    a.admits w = a.admits v := by
  cases a <;> simp only [Accepts.admits, h]

namespace Call

variable {call : Call}

theorem transform_again_of_eq {f : Value → Value} (hf : ∀ v, call.transform ctx v = .ok (f v))
    (htwice : f (f v) = f v) (h : call.transform ctx v = .ok w) : call.transform ctx w = .ok w := by
  rw [hf] at h
  cases h
  rw [hf, htwice]

/-- What a normalising rule has made of a value it makes of it again. -/
theorem transform_again (hrule : call.rule ∈ Rule.normalising)
    (hspace : call.rule = .strReplaceSpace → ' ' ∉ (call.str 0).toList)
    (h : call.transform ctx v = .ok w) : call.transform ctx w = .ok w := by
  obtain ⟨rule, args⟩ := call
  cases rule with
  | pTitle | vTitle | pnPrependVn | pnPrependVnIfMultiple | ssAcronym | legacyT | legacyF
  | strFilesafe => simp [Rule.normalising] at hrule
  | fcRm =>
    exact transform_again_of_eq (fun _ => rfl)
      (v.mapNotes_twice fun n => by simp [Notes.dropMarker]) h
  | pnRm =>
    exact transform_again_of_eq (fun _ => rfl)
      (v.mapNotes_twice fun n => by simp [Notes.dropPartNumbers]) h
  | vnRm =>
    exact transform_again_of_eq (fun _ => rfl)
      (v.mapNotes_twice fun n => by simp [Notes.dropVolumeNumbers]) h
  | fcRmIfComplete =>
    exact transform_again_of_eq (fun _ => rfl)
      (ite_twice (v.mapNotes_twice fun n => by simp [Notes.dropMarker])) h
  | pnRmIfComplete =>
    exact transform_again_of_eq (fun _ => rfl)
      (ite_twice (v.mapNotes_twice fun n => by simp [Notes.dropPartNumbers])) h
  | vnRmIfPn =>
    exact transform_again_of_eq (fun _ => rfl)
      (v.mapNotes_twice Notes.dropCarriedVolumeNumbers_twice) h
  | fcShort | fcFull =>
    exact transform_again_of_eq (fun _ => rfl) (v.renderMarker_renderMarker _) h
  | pnShort | pnFull =>
    exact transform_again_of_eq (fun _ => rfl)
      (v.mapNotes_twice fun n => by simp [Notes.renderPartNumbers]) h
  | vnShort | vnFull =>
    exact Value.mapNotesM_again (fun _ _ => Notes.renderVolumeNumbers_again) h
  | pnZeroPad =>
    exact transform_again_of_eq (fun _ => rfl)
      (v.mapNotes_twice Notes.padPartNumbers_padPartNumbers) h
  | vnZeroPad =>
    exact transform_again_of_eq (fun _ => rfl)
      (v.mapNotes_twice (Notes.mapSegments_twice (Text.zeroPad_zeroPad 2))) h
  | vnNumber =>
    exact transform_again_of_eq (fun _ => rfl)
      (v.mapNotes_twice (Notes.mapSegments_twice Text.digitsOfWord_digitsOfWord)) h
  | vnMerge =>
    exact transform_again_of_eq (fun _ => rfl)
      (v.mapNotes_twice Notes.mergeVolumeNumbers_mergeVolumeNumbers) h
  | pToVolume | pSplitPart => exact Value.partToVolume_again h
  | pToSeries => exact Value.partToSeries_again h
  | vToSeries => exact Value.volumeToSeries_again h
  | vSplitVolume => exact Value.splitVolume_again h
  | toSeries => exact Value.toSeries_again h
  | sTitle | sSlug => exact transform_again_of_eq (fun _ => rfl) (v.nameSeries_nameSeries _) h
  | ssRmStopwords =>
    exact transform_again_of_eq (fun _ => rfl)
      (v.mapName_twice SeriesName.withoutStopwords_withoutStopwords) h
  | ssRmSubtitle =>
    exact transform_again_of_eq (fun _ => rfl)
      (v.mapName_twice SeriesName.withoutSubtitle_withoutSubtitle) h
  | ssFirst =>
    exact transform_again_of_eq (fun _ => rfl)
      (v.mapName_twice fun name => by rw [SeriesName.firstWords_firstWords, Nat.min_self]) h
  | ssMaxLen =>
    exact transform_again_of_eq (fun _ => rfl)
      (v.mapName_twice fun name => by rw [List.take_take, Nat.min_self]) h
  | toString => exact transform_again_of_eq (fun _ => rfl) (v.toText_toText _) h
  | strRmSpace =>
    exact transform_again_of_eq (fun _ => rfl)
      (v.mapText_twice (replaceSpaces_replaceSpaces List.not_mem_nil)) h
  | strReplaceSpace =>
    exact transform_again_of_eq (fun _ => rfl)
      (v.mapText_twice (replaceSpaces_replaceSpaces (hspace rfl))) h

/-- A normalising rule accepts what it makes: it makes no string, or it accepts strings. -/
theorem admits_of_transform (hrule : call.rule ∈ Rule.normalising)
    (hv : call.rule.accepts.admits v = true) (h : call.transform ctx v = .ok w) :
    call.rule.accepts.admits w = true := by
  by_cases hending : call.rule ∈ ending
  · have hany : ∀ rule ∈ Rule.normalising, rule ∈ ending → rule.accepts = .any := by decide
    rw [hany call.rule hrule hending]
    rfl
  · rw [Accepts.admits_congr _ (isTerminal_of_transform hending h), hv]

/-- One step: if a normalising rule succeeds, it does so again and changes nothing. -/
theorem apply_again (hrule : call.rule ∈ Rule.normalising)
    (hspace : call.rule = .strReplaceSpace → ' ' ∉ (call.str 0).toList)
    (h : call.apply ctx v = .ok w) : call.apply ctx w = .ok w := by
  obtain ⟨hadmits, htransform⟩ := apply_eq_ok.mp h
  exact apply_eq_ok.mpr ⟨admits_of_transform hrule hadmits htransform,
    transform_again hrule hspace htransform⟩

end Call

/-- On a valid request, a normalising rule that accepts a value which a run has reached can be
applied to it once and then once more, and the second time changes nothing. Spaces must be replaced
by something without spaces. -/
theorem normalising_rule_repeats {seed : Seed} {call : Call} (hr : ctx.request.Valid)
    (hv : ctx.Reaches seed v) (hrule : call.rule ∈ Rule.normalising)
    (hspace : call.rule = .strReplaceSpace → ' ' ∉ (call.str 0).toList)
    (hadmits : call.rule.accepts.admits v = true) :
    ∃ w, call.apply ctx v = .ok w ∧ call.apply ctx w = .ok w := by
  obtain ⟨w, hw⟩ := Call.exists_apply_of_admits hr hv.sound hadmits
  exact ⟨w, hw, Call.apply_again hrule hspace hw⟩

/-- Two spaces between the words of a series title become two replacements, which stay. -/
theorem normalising_rule_repeats_spaces :
    let ctx : Context :=
      ⟨⟨⟨"Two  Worlds", none, none⟩, [⟨1, "S 1"⟩], [⟨1, 3, "P"⟩], ⟨true, false⟩⟩, .filename⟩
    let v : Value := .string "Two  Worlds" (some ⟨true, false⟩)
    let w : Value := .string "Two_-_-Worlds" (some ⟨true, false⟩)
    let call : Call := ⟨.strReplaceSpace, [.str "_-"]⟩
    ctx.request.Valid ∧ ctx.Reaches .request v ∧ call.rule ∈ Rule.normalising ∧
      (call.rule = .strReplaceSpace → ' ' ∉ (call.str 0).toList) ∧
      call.rule.accepts.admits v = true ∧
      call.apply ctx v = .ok w ∧ call.apply ctx w = .ok w := by
  intro ctx v w call
  have hvalid : ctx.request.Valid := by decide
  have hrun : Pipeline.applyAll ctx [.ofRule .toSeries, .ofRule .sTitle, .ofRule .toString]
      (.part 0 (.ofMarker ⟨true, false⟩)) = .ok v :=
    Outcome.eq_ok_of_toOption (by decide +kernel)
  have hreaches : ctx.Reaches .request v := (Context.Reaches.of_seed rfl).applyAll hrun
  have hrule : call.rule ∈ Rule.normalising := by decide
  have hspace : call.rule = .strReplaceSpace → ' ' ∉ (call.str 0).toList := by decide
  have hadmits : call.rule.accepts.admits v = true := rfl
  have hfirst : call.apply ctx v = .ok w := Outcome.eq_ok_of_toOption (by decide +kernel)
  obtain ⟨u, hu, hagain⟩ := normalising_rule_repeats hvalid hreaches hrule hspace hadmits
  rw [hfirst] at hu
  cases hu
  exact ⟨hvalid, hreaches, hrule, hspace, hadmits, hfirst, hagain⟩

end ReleaseNames
