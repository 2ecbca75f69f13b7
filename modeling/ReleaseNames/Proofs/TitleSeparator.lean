import ReleaseNames.Proofs.SpelledQualifier

/-!
# Between a series and a qualifier

Colons and white space separate the qualifier of a volume title from the title of the
series. Colons are trimmed first and white space after them, each once, so a colon that
stands behind white space stays, and so does what follows it.

The counts in a qualifier are found behind whatever is left. A qualifier that counts
nothing is kept whole, with what is left of the separator in front.
-/

namespace ReleaseNames

def Request.retitle (r : Request) (v : Nat) (title : String) : Request :=
  { r with volumes := r.volumes.modify v fun listed => { listed with title := title } }

namespace VolumeTitle

variable {label front cs q separator : List Char} {p : Char → Bool}

def isSeparating (c : Char) : Bool :=
  c == ':' || Text.isBlank c

/-- One or more colons and white space characters, in any order. -/
def IsSeparator (s : String) : Prop :=
  s ≠ "" ∧ s.toList.all isSeparating = true

/-- A text that is not empty and has no colon and no white space at its ends. -/
structure IsBare (s : String) : Prop where
  nonempty : s ≠ ""
  head : s.toList.head?.all (fun c => !isSeparating c) = true
  last : s.toList.getLast?.all (fun c => !isSeparating c) = true

/-- Somewhere in a text a label is followed by a character of a class. -/
def Labels (label : List Char) (p : Char → Bool) (cs : List Char) : Prop :=
  ∃ front d back, cs = front ++ (label ++ d :: back) ∧ p d = true

def Counts (q : List Char) : Prop :=
  Labels "Volume ".toList Text.isDecimalDigit q ∨ Labels "Part ".toList Text.isWordChar q

/-- No colon of a separator stands behind white space. -/
def ColonsFirst (separator : List Char) : Prop :=
  ∃ colons blanks, separator = colons ++ blanks ∧ colons.all (· == ':') = true ∧
    blanks.all Text.isBlank = true

/-- What trimming leaves of a separator. -/
def remainder (separator : List Char) : List Char :=
  (separator.dropWhile (· == ':')).dropWhile Text.isBlank

theorem remainder_eq_nil_iff : remainder separator = [] ↔ ColonsFirst separator := by
  rw [remainder, List.dropWhile_eq_nil_iff]
  constructor
  · intro hblank
    exact ⟨_, _, List.takeWhile_append_dropWhile.symm, List.all_takeWhile,
      List.all_eq_true.mpr hblank⟩
  · rintro ⟨colons, blanks, rfl, hcolons, hblanks⟩
    have hblank := List.all_eq_true.mp hblanks
    rw [List.dropWhile_append_of_pos (List.all_eq_true.mp hcolons)]
    exact fun c hc => hblank c ((List.dropWhile_sublist _).subset hc)

theorem countAt_ne_nil_iff :
    countAt label p cs ≠ [] ↔ ∃ d back, cs = label ++ d :: back ∧ p d = true := by
  rw [countAt]
  cases hstart : afterStart? label cs with
  | some rest =>
    rw [afterStart?_eq_some_iff] at hstart
    subst hstart
    cases rest with
    | nil => simp
    | cons d back => cases hd : p d <;> simp [hd]
  | none =>
    refine iff_of_false (fun h => h rfl) ?_
    rintro ⟨d, back, rfl, -⟩
    rw [afterStart?_eq_some_iff.mpr rfl] at hstart
    cases hstart

/-- A count is found exactly if there is one. -/
theorem count?_eq_none_iff : count? label p cs = none ↔ ¬ Labels label p cs := by
  induction cs with
  | nil => simp [count?, Labels]
  | cons c cs ih =>
    -- The search looks at the start of the text first: a label is there, or it is in the rest.
    have hsplit : Labels label p (c :: cs) ↔
        countAt label p (c :: cs) ≠ [] ∨ Labels label p cs := by
      rw [countAt_ne_nil_iff]
      constructor
      · rintro ⟨front, d, back, hcs, hd⟩
        cases front with
        | nil => exact .inl ⟨d, back, hcs, hd⟩
        | cons c' front => exact .inr ⟨front, d, back, (List.cons.inj hcs).2, hd⟩
      · rintro (⟨d, back, hcs, hd⟩ | ⟨front, d, back, hcs, hd⟩)
        · exact ⟨[], d, back, hcs, hd⟩
        · exact ⟨c :: front, d, back, by rw [hcs, List.cons_append], hd⟩
    rw [hsplit, not_or, ← ih]
    cases hcount : countAt label p (c :: cs) with
    | nil => simp [count?_cons hcount]
    | cons d run => simp [count?, hcount]

theorem counts_iff : Counts q ↔ volumeCount? q ≠ none ∨ partCount? q ≠ none := by
  rw [volumeCount?, partCount?, Ne, count?_eq_none_iff, Ne, count?_eq_none_iff, not_not, not_not]
  rfl

instance (q : List Char) : Decidable (Counts q) :=
  decidable_of_iff _ counts_iff.symm

section Front

variable (hvolume : 'V' ∉ front) (hpart : 'P' ∉ front)

include hvolume hpart

theorem counts_append :
    volumeCount? (front ++ q) = (volumeCount? q).map (fun m => (m.1 + front.length, m.2)) ∧
      partCount? (front ++ q) = (partCount? q).map fun m => (m.1 + front.length, m.2) :=
  ⟨count?_skip 'V' "olume ".toList hvolume, count?_skip 'P' "art ".toList hpart⟩

/-- The counts of a qualifier stand in the same order behind a text without their labels. -/
theorem segments_append (h : Counts q) : segments (front ++ q) = segments q := by
  obtain ⟨hv, hp⟩ := counts_append (q := q) hvolume hpart
  rw [counts_iff] at h
  rw [segments, segments, hv, hp]
  cases hvolumes : volumeCount? q with
  | none =>
    cases hparts : partCount? q with
    | none => simp [hvolumes, hparts] at h
    | some part => rfl
  | some volume =>
    cases partCount? q with
    | none => rfl
    | some part => simp

theorem segments_append_of_not_counts (h : ¬ Counts q) :
    segments (front ++ q) = [⟨String.ofList (front ++ q), .special⟩] := by
  obtain ⟨hv, hp⟩ := counts_append (q := q) hvolume hpart
  rw [counts_iff, not_or, not_not, not_not] at h
  rw [segments, hv, hp, h.1, h.2]
  rfl

end Front

theorem not_mem_remainder {c : Char} (hseparator : separator.all isSeparating = true)
    (hc : isSeparating c = false) : c ∉ remainder separator := by
  intro hmem
  have hmem : c ∈ separator :=
    (List.dropWhile_sublist _).subset ((List.dropWhile_sublist _).subset hmem)
  rw [List.all_eq_true.mp hseparator c hmem] at hc
  cases hc

theorem of_all_not_isSeparating {end? : Option Char}
    (h : end?.all (fun c => !isSeparating c) = true) {c : Char} (hc : end? = some c) :
    Text.isBlank c = false ∧ c ≠ ':' := by
  subst hc
  have hnot : isSeparating c = false := by simpa using h
  obtain ⟨hcolon, hblank⟩ := Bool.or_eq_false_iff.mp hnot
  exact ⟨hblank, by simpa using hcolon⟩

/-- Behind the title of its series a qualifier is found with what is left of the separator. -/
theorem qualifier_of_isBare {s : String} (hs : IsBare s) (series : Series) (separator : String) :
    qualifier series (series.fullTitle ++ separator ++ s) =
      remainder separator.toList ++ s.toList := by
  have hstart : afterStart? series.fullTitle.toList
      (series.fullTitle ++ separator ++ s).toList = some (separator.toList ++ s.toList) := by
    rw [afterStart?_eq_some_iff, String.toList_append, String.toList_append, List.append_assoc]
  have hne : s.toList ≠ [] := by simpa using hs.nonempty
  rw [qualifier, withoutSeries, hstart]
  exact trim_separator hne (fun _ => of_all_not_isSeparating hs.head)
    fun _ => of_all_not_isSeparating hs.last

theorem segments_remainder {s separator : String} (hseparator : IsSeparator separator) :
    segments (remainder separator.toList ++ s.toList) =
      if Counts s.toList then segments s.toList
      else [⟨String.ofList (remainder separator.toList) ++ s, .special⟩] := by
  have hvolume := not_mem_remainder (c := 'V') hseparator.2 (by decide)
  have hpart := not_mem_remainder (c := 'P') hseparator.2 (by decide)
  split
  · next h => exact segments_append hvolume hpart h
  · next h =>
    rw [segments_append_of_not_counts hvolume hpart h, String.ofList_append, String.ofList_toList]

theorem segments_remainder_eq_iff {s separator : String} (hseparator : IsSeparator separator) :
    segments (remainder separator.toList ++ s.toList) = segments s.toList ↔
      Counts s.toList ∨ ColonsFirst separator.toList := by
  rw [segments_remainder hseparator, ← remainder_eq_nil_iff]
  split
  · next h => simp [h]
  · next h =>
    have hplain : segments s.toList = [⟨s, .special⟩] := by
      have hnone := segments_append_of_not_counts (show 'V' ∉ [] from List.not_mem_nil)
        List.not_mem_nil h
      rwa [List.nil_append, String.ofList_toList] at hnone
    rw [hplain]
    simp [h]

end VolumeTitle

theorem Value.splitVolume_retitle {r : Request} {v : Nat} {s : String}
    (hv : v < r.volumes.length) (hs : VolumeTitle.IsBare s) (separator : String)
    (parts : List Nat) (notes : Notes) :
    (Value.volume v parts notes).splitVolume
        (r.retitle v (r.series.fullTitle ++ separator ++ s)) =
      .ok (numberedSeries ⟨v, VolumeTitle.segments
        (VolumeTitle.remainder separator.toList ++ s.toList)⟩ v parts notes) := by
  have hlisted : (r.retitle v (r.series.fullTitle ++ separator ++ s)).volumes[v]? =
      some ⟨r.volumes[v].number, r.series.fullTitle ++ separator ++ s⟩ := by
    simp [Request.retitle, hv]
  have hqualifier := VolumeTitle.qualifier_of_isBare hs r.series separator
  have hne : s.toList ≠ [] := by simpa using hs.nonempty
  rw [← hqualifier]
  exact splitVolume_eq_ok hlisted (by rw [Request.retitle, hqualifier]; simp [hne]) parts notes

/-- A volume is split alike whatever stands between the series and the qualifier, unless the
qualifier counts nothing and a colon stands behind white space. Then that colon and what follows it
is kept in front of the qualifier. -/
theorem splits_alike_iff {r : Request} {v : Nat} {separator s : String} (channel : Channel)
    (hv : v < r.volumes.length) (hseparator : VolumeTitle.IsSeparator separator)
    (hs : VolumeTitle.IsBare s) (parts : List Nat) (notes : Notes) :
    let split := fun separator => Call.apply (.ofRule .vSplitVolume)
      ⟨r.retitle v (r.series.fullTitle ++ separator ++ s), channel⟩ (.volume v parts notes)
    split " " = .ok (.numberedSeries ⟨v, VolumeTitle.segments s.toList⟩ v parts notes) ∧
      (split separator = split " " ↔
        VolumeTitle.Counts s.toList ∨ VolumeTitle.ColonsFirst separator.toList) ∧
      (¬ VolumeTitle.Counts s.toList → split separator = .ok (.numberedSeries
        ⟨v, [⟨String.ofList (VolumeTitle.remainder separator.toList) ++ s, .special⟩]⟩ v parts
          notes)) := by
  intro split
  have hsplit : ∀ separator, split separator = .ok (.numberedSeries ⟨v, VolumeTitle.segments
      (VolumeTitle.remainder separator.toList ++ s.toList)⟩ v parts notes) := by
    intro separator
    rw [← Value.splitVolume_retitle hv hs separator parts notes]
    exact Call.apply_of_admits rfl
  have hspace : VolumeTitle.remainder " ".toList = [] := by decide
  refine ⟨by rw [hsplit, hspace, List.nil_append], ?_, ?_⟩
  · rw [hsplit, hsplit, hspace, List.nil_append,
      ← VolumeTitle.segments_remainder_eq_iff hseparator]
    simp [Value.numberedSeries]
  · intro hcounts
    rw [hsplit, VolumeTitle.segments_remainder hseparator, if_neg hcounts]

/-- Colons and blanks in no order, and a qualifier that counts behind a colon of its own. -/
theorem splits_alike_iff_counted :
    let r : Request := ⟨⟨"S", some "T", none⟩, [⟨1, "S 1"⟩, ⟨2, "S 2"⟩], [⟨2, 3, "P"⟩],
      ⟨false, false⟩⟩
    let s := "Part Two: Volume ٣"
    let notes : Notes := ⟨.absent, .raw [⟨0, "3"⟩], .rendered "[F]"⟩
    let split := fun separator => Call.apply (.ofRule .vSplitVolume)
      ⟨r.retitle 1 (r.series.fullTitle ++ separator ++ s), .title⟩ (.volume 1 [0] notes)
    1 < r.volumes.length ∧ VolumeTitle.IsSeparator "\u3000:: :" ∧ VolumeTitle.IsBare s ∧
      VolumeTitle.Counts s.toList ∧ split "\u3000:: :" = split " " ∧
        split " " = .ok (.series [1] [0] { notes with
          volumeNumbers := .raw ⟨[⟨1, [⟨"Two", .part⟩, ⟨"٣", .volume⟩]⟩], false⟩ }) := by
  intro r s notes split
  have hv : 1 < r.volumes.length := by decide
  have hseparator : VolumeTitle.IsSeparator "\u3000:: :" := ⟨by decide, by decide⟩
  have hs : VolumeTitle.IsBare s := ⟨by decide, by decide, by decide⟩
  have hcounts : VolumeTitle.Counts s.toList := by decide +kernel
  obtain ⟨hplain, halike, -⟩ := splits_alike_iff .title hv hseparator hs [0] notes
  refine ⟨hv, hseparator, hs, hcounts, halike.mpr (.inl hcounts), hplain.trans ?_⟩
  exact Outcome.eq_ok_of_toOption (by decide +kernel)

/-- A colon with white space on both sides becomes the start of a qualifier that counts nothing. -/
theorem splits_not_alike :
    ¬ ∀ (r : Request) (channel : Channel) (v : Nat) (separator s : String), r.Valid →
      v < r.volumes.length → VolumeTitle.IsSeparator separator → VolumeTitle.IsBare s →
        ∀ (parts : List Nat) (notes : Notes),
          Call.apply (.ofRule .vSplitVolume)
              ⟨r.retitle v (r.series.fullTitle ++ separator ++ s), channel⟩
              (.volume v parts notes) =
            Call.apply (.ofRule .vSplitVolume)
              ⟨r.retitle v (r.series.fullTitle ++ " " ++ s), channel⟩ (.volume v parts notes) := by
  intro h
  have hsame := h ⟨⟨"S", none, none⟩, [⟨1, "S 1"⟩], [⟨1, 2, "P"⟩], ⟨false, false⟩⟩ .title 0 " : "
    "Short Stories" (by decide) (by decide) ⟨by decide, by decide⟩
    ⟨by decide, by decide, by decide⟩ [0] (.ofMarker ⟨false, false⟩)
  exact absurd (congrArg Except.toOption hsame) (by decide +kernel)

end ReleaseNames
