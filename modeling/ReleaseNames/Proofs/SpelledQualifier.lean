import ReleaseNames.Proofs.Effect
import ReleaseNames.Proofs.Lexeme
import ReleaseNames.Proofs.Pieces

/-!
# Qualifiers are read and spelled out again

A volume title that names the series and counts a volume, a part or both is split
into the series and the segments of its count. Spelling these out writes the count
again, word for word, with one exception. A single segment is spelled out as a volume
whatever it counts, so a title that only counts a part gets the wrong label.

A word of a title is any run of word characters, which may be a label itself.
-/

namespace ReleaseNames

/-- The ways in which a volume title counts. -/
inductive Qualifier where
  | volume (count : String)
  | part (word : String)
  | volumePart (count word : String)
  | partVolume (word count : String)
deriving DecidableEq

namespace Qualifier

def text : Qualifier → String
  | volume count => "Volume " ++ count
  | part word => "Part " ++ word
  | volumePart count word => "Volume " ++ count ++ " Part " ++ word
  | partVolume word count => "Part " ++ word ++ " Volume " ++ count

def segments : Qualifier → List Segment
  | volume count => [⟨count, .volume⟩]
  | part word => [⟨word, .part⟩]
  | volumePart count word => [⟨count, .volume⟩, ⟨word, .part⟩]
  | partVolume word count => [⟨word, .part⟩, ⟨count, .volume⟩]

/-- The qualifier as it is spelled out: a part alone is called a volume. -/
def spelled : Qualifier → String
  | part word => "Volume " ++ word
  | q => q.text

def IsCount (s : String) : Prop :=
  s.toList ≠ [] ∧ s.toList.all Text.isDecimalDigit = true

def IsWord (s : String) : Prop :=
  s.toList ≠ [] ∧ s.toList.all Text.isWordChar = true

def WellFormed : Qualifier → Prop
  | volume count => IsCount count
  | part word => IsWord word
  | volumePart count word => IsCount count ∧ IsWord word
  | partVolume word count => IsWord word ∧ IsCount count

theorem spelled_eq_text_iff (q : Qualifier) : q.spelled = q.text ↔ ∀ word, q ≠ part word := by
  cases q with
  | part word =>
    constructor
    · intro h
      have hlists := congrArg String.toList h
      simp [spelled, text] at hlists
    · intro h
      exact absurd rfl (h word)
  | _ => simp [spelled]

end Qualifier

namespace VolumeTitle

variable {cs rest : List Char} {p : Char → Bool} {c : Char}

section Count

/-- Where the label stands, the run after it is counted. -/
theorem countAt_append (label : List Char) {run : List Char} (hrun : run.all p = true)
    (hrest : Lexer.Stops p rest) :
    countAt label p (label ++ (run ++ rest)) = run := by
  have hstart : afterStart? label (label ++ (run ++ rest)) = some (run ++ rest) :=
    afterStart?_eq_some_iff.mpr rfl
  rw [countAt, hstart]
  exact Lexer.takeWhile_of_stops hrun hrest

theorem count?_append (label : List Char) {run : List Char} (hne : run ≠ [])
    (hrun : run.all p = true) (hrest : Lexer.Stops p rest) :
    count? label p (label ++ (run ++ rest)) = some (0, run) := by
  have hcount := countAt_append label hrun hrest
  obtain ⟨d, ds, rfl⟩ := List.exists_cons_of_ne_nil hne
  obtain ⟨c, tail, hcs⟩ := List.exists_cons_of_ne_nil
    (show label ++ (d :: ds ++ rest) ≠ [] by simp)
  rw [hcs] at hcount ⊢
  rw [count?, hcount]

/-- Where nothing is counted, the search goes on. -/
theorem count?_cons {label : List Char} (h : countAt label p (c :: cs) = []) :
    count? label p (c :: cs) = (count? label p cs).map fun m => (m.1 + 1, m.2) := by
  rw [count?, h]
  cases count? label p cs <;> rfl

/-- The search skips a text without the first character of the label. -/
theorem count?_skip (a : Char) (label : List Char) {front : List Char} (hfront : a ∉ front) :
    count? (a :: label) p (front ++ cs) =
      (count? (a :: label) p cs).map fun m => (m.1 + front.length, m.2) := by
  induction front with
  | nil => simp
  | cons c front ih =>
    have hc : a ≠ c := List.ne_of_not_mem_cons hfront
    have hnone : countAt (a :: label) p (c :: (front ++ cs)) = [] := by
      rw [countAt, afterStart?, if_neg hc]
    rw [List.cons_append, count?_cons hnone, ih (List.not_mem_of_not_mem_cons hfront),
      Option.map_map, List.length_cons]
    congr 1

theorem count?_eq_none {label : List Char} (hc : c ∈ label) (hcs : c ∉ cs) :
    count? label p cs = none := by
  induction cs with
  | nil => rfl
  | cons d cs ih =>
    have hnone : countAt label p (d :: cs) = [] := by
      rw [countAt]
      split
      · next rest hstart =>
        rw [afterStart?_eq_some_iff] at hstart
        rw [hstart] at hcs
        exact absurd (List.mem_append_left rest hc) hcs
      · rfl
    rw [count?_cons hnone, ih (List.not_mem_of_not_mem_cons hcs)]
    rfl

/-- A label ends at its space, so no count starts in a word that something else than a count
follows. -/
theorem countAt_word (label : List Char) {word : List Char} (hlabel : ' ' ∉ label)
    (hword : ' ' ∉ word) (hrest : Lexer.Stops p rest) :
    countAt (label ++ [' ']) p (word ++ ' ' :: rest) = [] := by
  rw [countAt]
  split
  · next after hstart =>
    rw [afterStart?_eq_some_iff, List.append_assoc, List.singleton_append] at hstart
    have hfree : ∀ {cs : List Char}, ' ' ∉ cs → cs.all (· ≠ ' ') = true := by
      intro cs hcs
      rw [List.all_eq_true]
      intro c hc
      simpa using fun heq : c = ' ' => hcs (heq ▸ hc)
    have hstops : ∀ cs : List Char, Lexer.Stops (· ≠ ' ') (' ' :: cs) := by
      rintro cs c hc
      obtain rfl := Option.some.inj hc
      simp
    have hsame := congrArg (List.takeWhile (· ≠ ' ')) hstart
    rw [Lexer.takeWhile_of_stops (hfree hword) (hstops rest),
      Lexer.takeWhile_of_stops (hfree hlabel) (hstops after)] at hsame
    rw [hsame] at hstart
    obtain rfl : rest = after := (List.cons.inj (List.append_cancel_left hstart)).2
    have hempty : ([] : List Char).all p = true := rfl
    exact Lexer.takeWhile_of_stops hempty hrest
  · rfl

theorem count?_word (label : List Char) {word : List Char} (hlabel : ' ' ∉ label)
    (hword : ' ' ∉ word) (hrest : Lexer.Stops p rest) :
    count? (label ++ [' ']) p (word ++ ' ' :: rest) =
      (count? (label ++ [' ']) p rest).map fun m => (m.1 + (word.length + 1), m.2) := by
  induction word with
  | nil => exact count?_cons (countAt_word label hlabel hword hrest)
  | cons c word ih =>
    have hnone := countAt_word (p := p) label hlabel hword hrest
    rw [List.cons_append] at hnone ⊢
    rw [count?_cons hnone, ih (List.not_mem_of_not_mem_cons hword), Option.map_map,
      List.length_cons]
    congr 1

end Count

section Characters

/-- The ranges of the characters that counts and words are made of. -/
def countedRanges : List (Nat × Nat) :=
  Text.digitRanges ++ Text.lowWordRanges ++ Text.middleWordRanges ++ Text.highWordRanges

def trimmedRanges : List (Nat × Nat) :=
  (0x3A, 0x3A) :: Text.blankRanges

/-- What is trimmed lies up to U+3000, and no count or word has a part in it. -/
theorem all_apart : (countedRanges.all fun r => Nat.blt 0x3000 r.1 ||
    trimmedRanges.all fun s => Nat.blt r.2 s.1 || Nat.blt s.2 r.1) = true := by
  decide +kernel

theorem apart {r s : Nat × Nat} (hr : r ∈ countedRanges) (hs : s ∈ trimmedRanges) :
    r.2 < s.1 ∨ s.2 < r.1 := by
  have hend : ∀ s ∈ trimmedRanges, s.2 ≤ 0x3000 := by decide
  have hboth := List.all_eq_true.mp all_apart r hr
  simp only [Bool.or_eq_true, Nat.blt_eq, List.all_eq_true] at hboth
  rcases hboth with hhigh | hlow
  · exact .inr (Nat.lt_of_le_of_lt (hend s hs) hhigh)
  · exact hlow s hs

theorem exists_range (h : Text.isDecimalDigit c = true ∨ Text.isWordChar c = true) :
    ∃ r ∈ countedRanges, r.1 ≤ c.toNat ∧ c.toNat ≤ r.2 := by
  simp only [Text.isDecimalDigit, Text.isWordChar, Bool.or_eq_true, Text.inRanges_iff] at h
  rcases h with ⟨r, hr, hc⟩ | (⟨r, hr, hc⟩ | ⟨r, hr, hc⟩) | ⟨r, hr, hc⟩
  · exact ⟨r, by simp [countedRanges, hr], hc⟩
  · exact ⟨r, by simp [countedRanges, hr], hc⟩
  · exact ⟨r, by simp [countedRanges, hr], hc⟩
  · exact ⟨r, by simp [countedRanges, hr], hc⟩

theorem not_isBlank_of_counted (h : Text.isDecimalDigit c = true ∨ Text.isWordChar c = true) :
    Text.isBlank c = false ∧ c ≠ ':' := by
  obtain ⟨r, hr, hlow, hhigh⟩ := exists_range h
  constructor
  · by_contra hblank
    obtain ⟨s, hs, hlow', hhigh'⟩ := Text.inRanges_iff.mp (eq_true_of_ne_false hblank)
    have := apart hr (List.mem_cons_of_mem _ hs)
    omega
  · rintro rfl
    have hcolon : ':'.toNat = 0x3A := rfl
    have := apart hr List.mem_cons_self
    omega

theorem not_isWordChar_space : Text.isWordChar ' ' = false := by
  by_contra hword
  have hblank := (not_isBlank_of_counted (.inr (eq_true_of_ne_false hword))).1
  exact absurd hblank (by decide)

end Characters

theorem not_mem_of_all (h : cs.all p = true) (hc : p c = false) : c ∉ cs := by
  intro hmem
  rw [List.all_eq_true.mp h c hmem] at hc
  cases hc

theorem stops_nil : Lexer.Stops p [] := by
  rintro c ⟨⟩

theorem stops_cons (h : p c = false) : Lexer.Stops p (c :: cs) := by
  rintro d ⟨⟩
  exact h

section Segments

variable {count word : List Char} (hne : count ≠ []) (hcount : count.all Text.isDecimalDigit = true)
  (hne' : word ≠ []) (hword : word.all Text.isWordChar = true)

include hne hcount

theorem counts_volume :
    volumeCount? ("Volume ".toList ++ count) = some (0, count) ∧
      partCount? ("Volume ".toList ++ count) = none := by
  constructor
  · have := count?_append "Volume ".toList hne hcount stops_nil
    rwa [List.append_nil] at this
  · refine count?_eq_none (c := 'P') (by decide) ?_
    exact List.not_mem_append (by decide) (not_mem_of_all hcount (by decide))

omit hne hcount
include hne' hword

theorem counts_part :
    volumeCount? ("Part ".toList ++ word) = none ∧
      partCount? ("Part ".toList ++ word) = some (0, word) := by
  constructor
  · have hspace : ' ' ∉ word := not_mem_of_all hword not_isWordChar_space
    have hskip : volumeCount? ("Part ".toList ++ word) =
        (volumeCount? word).map fun m => (m.1 + "Part ".toList.length, m.2) :=
      count?_skip 'V' "olume ".toList (by decide)
    rw [hskip, volumeCount?, count?_eq_none (c := ' ') (by decide) hspace]
    rfl
  · have := count?_append "Part ".toList hne' hword stops_nil
    rwa [List.append_nil] at this

include hne hcount

theorem counts_volumePart :
    volumeCount? ("Volume ".toList ++ (count ++ ' ' :: ("Part ".toList ++ word))) =
        some (0, count) ∧
      ∃ i, partCount? ("Volume ".toList ++ (count ++ ' ' :: ("Part ".toList ++ word))) =
        some (i, word) := by
  constructor
  · exact count?_append "Volume ".toList hne hcount (stops_cons (by decide))
  · have hfront : 'P' ∉ "Volume ".toList ++ (count ++ [' ']) := by
      have hdigits : 'P' ∉ count := not_mem_of_all hcount (by decide)
      simp [hdigits]
    have hskip : partCount? ("Volume ".toList ++ (count ++ [' ']) ++ ("Part ".toList ++ word)) =
        (partCount? ("Part ".toList ++ word)).map
          fun m => (m.1 + ("Volume ".toList ++ (count ++ [' '])).length, m.2) :=
      count?_skip 'P' "art ".toList hfront
    rw [(counts_part hne' hword).2] at hskip
    exact ⟨_, by simpa using hskip⟩

theorem counts_partVolume :
    (∃ i, volumeCount? ("Part ".toList ++ (word ++ ' ' :: ("Volume ".toList ++ count))) =
        some (i + 1, count)) ∧
      partCount? ("Part ".toList ++ (word ++ ' ' :: ("Volume ".toList ++ count))) =
        some (0, word) := by
  constructor
  · have hspace : ' ' ∉ word := not_mem_of_all hword not_isWordChar_space
    have hskip : volumeCount? ("Part ".toList ++ (word ++ ' ' :: ("Volume ".toList ++ count))) =
        (volumeCount? (word ++ ' ' :: ("Volume ".toList ++ count))).map
          fun m => (m.1 + "Part ".toList.length, m.2) :=
      count?_skip 'V' "olume ".toList (by decide)
    -- The word may be a label itself, but no digit follows it.
    have hpast : volumeCount? (word ++ ' ' :: ("Volume ".toList ++ count)) =
        (volumeCount? ("Volume ".toList ++ count)).map
          fun m => (m.1 + (word.length + 1), m.2) :=
      count?_word "Volume".toList (by decide) hspace (stops_cons (by decide))
    rw [hskip, hpast, (counts_volume hne hcount).1]
    exact ⟨_, rfl⟩
  · exact count?_append "Part ".toList hne' hword (stops_cons not_isWordChar_space)

end Segments

/-- In front of a text that is not trimmed itself, colons are trimmed and then white space. -/
theorem trim_separator {separator : List Char} (hne : cs ≠ [])
    (hhead : ∀ c, cs.head? = some c → Text.isBlank c = false ∧ c ≠ ':')
    (hlast : ∀ c, cs.getLast? = some c → Text.isBlank c = false ∧ c ≠ ':') :
    Text.trim (Text.trimWhere (· == ':') (separator ++ cs)) =
      (separator.dropWhile (· == ':')).dropWhile Text.isBlank ++ cs := by
  have hcolon : ∀ {c : Char}, Text.isBlank c = false ∧ c ≠ ':' → (c == ':') = false := by
    intro c hc
    simpa using hc.2
  rw [Text.trimWhere_append hne (fun c hc => hcolon (hhead c hc)) fun c hc => hcolon (hlast c hc),
    Text.trim, Text.trimWhere_append hne (fun c hc => (hhead c hc).1) fun c hc => (hlast c hc).1]

end VolumeTitle

namespace Qualifier

variable {q : Qualifier}

/-- A qualifier starts with a label and ends with a count or a word. -/
theorem exists_ends (hq : q.WellFormed) : ∃ c front tail,
    q.text.toList = c :: (front ++ tail) ∧ (Text.isBlank c = false ∧ c ≠ ':') ∧ tail ≠ [] ∧
      (tail.all Text.isDecimalDigit = true ∨ tail.all Text.isWordChar = true) := by
  cases q with
  | volume count =>
    refine ⟨'V', "olume ".toList, count.toList, ?_, by decide, hq.1, .inl hq.2⟩
    simp [text]
  | part word =>
    refine ⟨'P', "art ".toList, word.toList, ?_, by decide, hq.1, .inr hq.2⟩
    simp [text]
  | volumePart count word =>
    refine ⟨'V', "olume ".toList ++ count.toList ++ " Part ".toList, word.toList, ?_,
      by decide, hq.2.1, .inr hq.2.2⟩
    simp [text]
  | partVolume word count =>
    refine ⟨'P', "art ".toList ++ word.toList ++ " Volume ".toList, count.toList, ?_,
      by decide, hq.2.1, .inl hq.2.2⟩
    simp [text]

/-- What is left of a title that a qualifier ends is the qualifier. -/
theorem qualifier_title {series : Series} {separator title : String}
    (hseparator : separator = " " ∨ separator = ": ")
    (htitle : title = series.fullTitle ++ separator ++ q.text) (hq : q.WellFormed) :
    VolumeTitle.qualifier series title = q.text.toList := by
  have hrest : VolumeTitle.withoutSeries series title.toList =
      separator.toList ++ q.text.toList := by
    have hstart : VolumeTitle.afterStart? series.fullTitle.toList title.toList =
        some (separator.toList ++ q.text.toList) := by
      rw [VolumeTitle.afterStart?_eq_some_iff, htitle, String.toList_append, String.toList_append,
        List.append_assoc]
    rw [VolumeTitle.withoutSeries, hstart]
  have htrimmed : (separator.toList.dropWhile (· == ':')).dropWhile Text.isBlank = [] := by
    rcases hseparator with rfl | rfl <;> decide
  obtain ⟨c, front, tail, htext, hc, htail, hkinds⟩ := exists_ends hq
  rw [VolumeTitle.qualifier, hrest, VolumeTitle.trim_separator (by simp [htext]) (fun d hd => ?_)
    fun d hd => ?_, htrimmed, List.nil_append]
  · rw [htext] at hd
    obtain rfl := Option.some.inj hd
    exact hc
  · rw [htext, ← List.cons_append, List.getLast?_append_of_ne_nil _ htail] at hd
    have hmem : d ∈ tail := List.mem_of_getLast? hd
    refine VolumeTitle.not_isBlank_of_counted ?_
    rcases hkinds with hdigits | hword
    · exact .inl (List.all_eq_true.mp hdigits d hmem)
    · exact .inr (List.all_eq_true.mp hword d hmem)

/-- Reading a qualifier gives the segments that it counts. -/
theorem segments_text (hq : q.WellFormed) : VolumeTitle.segments q.text.toList = q.segments := by
  cases q with
  | volume count =>
    obtain ⟨hv, hp⟩ := VolumeTitle.counts_volume hq.1 hq.2
    rw [text, String.toList_append, VolumeTitle.segments, hv, hp]
    simp [segments]
  | part word =>
    obtain ⟨hv, hp⟩ := VolumeTitle.counts_part hq.1 hq.2
    rw [text, String.toList_append, VolumeTitle.segments, hv, hp]
    simp [segments]
  | volumePart count word =>
    obtain ⟨⟨hne, hcount⟩, hne', hword⟩ := hq
    obtain ⟨hv, i, hp⟩ := VolumeTitle.counts_volumePart hne hcount hne' hword
    have htext : (volumePart count word).text.toList =
        "Volume ".toList ++ (count.toList ++ ' ' :: ("Part ".toList ++ word.toList)) := by
      simp [text]
    rw [htext, VolumeTitle.segments, hv, hp]
    simp [segments]
  | partVolume word count =>
    obtain ⟨⟨hne', hword⟩, hne, hcount⟩ := hq
    obtain ⟨⟨i, hv⟩, hp⟩ := VolumeTitle.counts_partVolume hne hcount hne' hword
    have htext : (partVolume word count).text.toList =
        "Part ".toList ++ (word.toList ++ ' ' :: ("Volume ".toList ++ count.toList)) := by
      simp [text]
    rw [htext, VolumeTitle.segments, hv, hp]
    simp [segments]

/-- The segments of a qualifier, spelled out. -/
theorem spelled_segments (q : Qualifier) (v : Nat) :
    VolumeNumbers.spelled ⟨[⟨v, q.segments⟩], false⟩ = .ok q.spelled := by
  cases q with
  | volume count => simp [VolumeNumbers.spelled, segments, spelled, text]
  | part word => simp [VolumeNumbers.spelled, segments, spelled]
  | volumePart count word =>
    have hlabel : " " ++ ("Part " ++ word) = " Part " ++ word := by
      rw [← String.append_assoc]
      rfl
    simp [VolumeNumbers.spelled, segments, spelled, text, Segment.spelled, SegmentKind.label?,
      String.append_assoc, hlabel]
  | partVolume word count =>
    have hlabel : " " ++ ("Volume " ++ count) = " Volume " ++ count := by
      rw [← String.append_assoc]
      rfl
    simp [VolumeNumbers.spelled, segments, spelled, text, Segment.spelled, SegmentKind.label?,
      String.append_assoc, hlabel]

end Qualifier

/-- A volume whose title has a qualifier is split into the series and the segments of that. -/
theorem Value.splitVolume_eq_ok {r : Request} {v : Nat} {listed : Volume}
    (hlisted : r.volumes[v]? = some listed)
    (hqualifier : VolumeTitle.qualifier r.series listed.title ≠ []) (parts : List Nat)
    (notes : Notes) :
    (Value.volume v parts notes).splitVolume r =
      .ok (numberedSeries ⟨v, VolumeTitle.segments (VolumeTitle.qualifier r.series listed.title)⟩ v
        parts notes) := by
  have hvolume : r.volumeAt v = .ok listed := Request.volumeAt_eq_ok.mpr hlisted
  obtain ⟨c, cs, hcs⟩ := List.exists_cons_of_ne_nil hqualifier
  simp only [splitVolume, hvolume, Outcome.ok_bind, hcs, Outcome.pure_eq_ok]

theorem Value.splitVolume_of_qualifier {r : Request} {v : Nat} {listed : Volume} {q : Qualifier}
    {separator : String} (hlisted : r.volumes[v]? = some listed)
    (hseparator : separator = " " ∨ separator = ": ")
    (htitle : listed.title = r.series.fullTitle ++ separator ++ q.text) (hq : q.WellFormed)
    (parts : List Nat) (notes : Notes) :
    (Value.volume v parts notes).splitVolume r =
      .ok (numberedSeries ⟨v, q.segments⟩ v parts notes) := by
  have hqualifier := Qualifier.qualifier_title hseparator htitle hq
  have hne : VolumeTitle.qualifier r.series listed.title ≠ [] := by
    obtain ⟨c, front, tail, htext, -⟩ := Qualifier.exists_ends hq
    simp [hqualifier, htext]
  rw [splitVolume_eq_ok hlisted hne, hqualifier, Qualifier.segments_text hq]

/-- Splitting a title and spelling out its count gives its qualifier again, unless the qualifier
counts a part alone. Then the part is called a volume. -/
theorem restores_qualifier {ctx : Context} {v : Nat} {listed : Volume} {q : Qualifier}
    {separator : String} (hlisted : ctx.request.volumes[v]? = some listed)
    (hseparator : separator = " " ∨ separator = ": ")
    (htitle : listed.title = ctx.request.series.fullTitle ++ separator ++ q.text)
    (hq : q.WellFormed) (parts : List Nat) (notes : Notes) :
    (∃ split, Call.apply (.ofRule .vSplitVolume) ctx (.volume v parts notes) = .ok split ∧
      split.stage = .series ∧ Call.apply (.ofRule .vnFull) ctx split =
        .ok (.series [v] parts { notes with volumeNumbers := .rendered q.spelled })) ∧
      (q.spelled = q.text ↔ ∀ word, q ≠ .part word) := by
  refine ⟨⟨Value.numberedSeries ⟨v, q.segments⟩ v parts notes, ?_, rfl, ?_⟩,
    q.spelled_eq_text_iff⟩
  · rw [Call.apply_of_admits rfl]
    exact Value.splitVolume_of_qualifier hlisted hseparator htitle hq parts notes
  · rw [Call.apply_of_admits rfl]
    exact Value.renderVolumeNumbers_of_raw (v := .numberedSeries ⟨v, q.segments⟩ v parts notes)
      rfl rfl (q.spelled_segments v)

/-- A part that is a word, and a volume in digits of another script. -/
theorem restores_qualifier_volume :
    let r : Request := ⟨⟨"S", some "T", none⟩, [⟨1, "S: T: Part Volume Volume ٣"⟩], [⟨1, 2, "P"⟩],
      ⟨false, false⟩⟩
    let q : Qualifier := .partVolume "Volume" "٣"
    let notes : Notes := ⟨.absent, .raw [⟨0, "2"⟩], .absent⟩
    r.Valid ∧ q.WellFormed ∧ r.series.fullTitle ++ ": " ++ q.text = "S: T: Part Volume Volume ٣" ∧
      ∃ split, Call.apply (.ofRule .vSplitVolume) ⟨r, .title⟩ (.volume 0 [0] notes) = .ok split ∧
        split.stage = .series ∧ Call.apply (.ofRule .vnFull) ⟨r, .title⟩ split =
          .ok (.series [0] [0] ⟨.rendered "Part Volume Volume ٣", .raw [⟨0, "2"⟩], .absent⟩) := by
  intro r q notes
  have hq : q.WellFormed := ⟨⟨by decide, by decide +kernel⟩, ⟨by decide, by decide +kernel⟩⟩
  have hlisted : (Context.mk r .title).request.volumes[0]? =
      some ⟨1, "S: T: Part Volume Volume ٣"⟩ := rfl
  have htitle : "S: T: Part Volume Volume ٣" = r.series.fullTitle ++ ": " ++ q.text := by
    decide +kernel
  obtain ⟨hrestores, -⟩ := restores_qualifier hlisted (.inr rfl) htitle hq [0] notes
  exact ⟨by decide, hq, htitle.symm, hrestores⟩

/-- The second part of a series is spelled out as its second volume. -/
theorem restores_not_lone_part :
    ¬ ∀ (ctx : Context) (v : Nat) (listed : Volume) (q : Qualifier) (separator : String),
      ctx.request.Valid → ctx.request.volumes[v]? = some listed →
        (separator = " " ∨ separator = ": ") →
          listed.title = ctx.request.series.fullTitle ++ separator ++ q.text → q.WellFormed →
            ∀ (parts : List Nat) (notes : Notes), ∃ split,
              Call.apply (.ofRule .vSplitVolume) ctx (.volume v parts notes) = .ok split ∧
                split.stage = .series ∧ Call.apply (.ofRule .vnFull) ctx split =
                  .ok (.series [v] parts { notes with volumeNumbers := .rendered q.text }) := by
  intro h
  let r : Request := ⟨⟨"S", none, none⟩, [⟨1, "S Part Two"⟩], [⟨1, 2, "P"⟩], ⟨false, false⟩⟩
  let notes : Notes := .ofMarker r.marker
  obtain ⟨split, hsplit, -, hfull⟩ := h ⟨r, .title⟩ 0 ⟨1, "S Part Two"⟩ (.part "Two") " "
    (by decide) rfl (.inl rfl) (by decide +kernel) ⟨by decide, by decide +kernel⟩ [0] notes
  have hsegments : Call.apply (.ofRule .vSplitVolume) ⟨r, .title⟩ (.volume 0 [0] notes) =
      .ok (.numberedSeries ⟨0, [⟨"Two", .part⟩]⟩ 0 [0] notes) :=
    Outcome.eq_ok_of_toOption (by decide +kernel)
  rw [hsegments] at hsplit
  obtain rfl := Except.ok.inj hsplit
  have hspelled : Call.apply (.ofRule .vnFull) ⟨r, .title⟩
      (.numberedSeries ⟨0, [⟨"Two", .part⟩]⟩ 0 [0] notes) =
        .ok (.series [0] [0] { notes with volumeNumbers := .rendered "Volume Two" }) :=
    Outcome.eq_ok_of_toOption (by decide +kernel)
  rw [hspelled] at hfull
  exact absurd (congrArg Except.toOption hfull) (by decide +kernel)

end ReleaseNames
