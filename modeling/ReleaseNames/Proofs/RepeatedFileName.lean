import ReleaseNames.Proofs.Arguments
import ReleaseNames.Proofs.Folding
import ReleaseNames.Proofs.SafeFileName

/-!
# When a second pass changes a safe file name

Making a name safe twice is making it safe once for some replacements and preserved
characters, and for others it is not. Two things can go wrong. A replacement that
mixes kept and rejected characters is itself replaced inside, where it stands between
kept characters that are not trimmed. And two preserved marks of different classes
can stand next to each other only after a mark of class zero between them is dropped,
so the second pass orders what the first could not. The condition below rules out
both, and it is exact: it also decides whether a repeated step can change a name.
-/

namespace ReleaseNames

namespace Text

variable {c d : Char} {cs replacement preserve : List Char}

/-- Nothing is left for a second pass. -/
structure Settles (replacement preserve : List Char) : Prop where
  /-- The replacement is kept, or it is rejected, or all that is kept is trimmed. -/
  uniform : (∀ c ∈ replacement, keeps preserve c = true) ∨
    (∀ c ∈ replacement, keeps preserve c = false) ∨
      ∀ c, isFolded c = true → keeps preserve c = true → c ∈ replacement
  /-- The marks that can be left in a name have one class. -/
  level : ∀ c ∈ preserve, ∀ d ∈ preserve, isFolded c = true → isFolded d = true →
    combiningClass c ≠ 0 → combiningClass d ≠ 0 → combiningClass c = combiningClass d

theorem toNat_of_isAlphanum (h : c.isAlphanum = true) : c.toNat < 0x80 := by
  rcases Bool.or_eq_true_iff.mp h with halpha | hdigit
  · have := Lexer.toNat_of_isAlpha halpha
    omega
  · have := Lexer.toNat_of_isDigit hdigit
    omega

/-- One character as the replacement and ASCII characters as the preserved ones settle. -/
theorem settles_singleton (r : Char) (hp : ∀ c ∈ preserve, c.toNat < 0x80) :
    Settles [r] preserve := by
  constructor
  · cases hr : keeps preserve r with
    | true => exact .inl (by simpa using hr)
    | false => exact .inr (.inl (by simpa using hr))
  · intro c hc d _ _ _ hclass
    exact absurd (combiningClass_of_ascii (hp c hc)) hclass

/-- Folding leaves a text of one class beside zero. -/
theorem stripMarks_of_level (hfolded : ∀ c ∈ cs, isFolded c = true)
    (hlevel : ∀ c ∈ cs, ∀ d ∈ cs, combiningClass c ≠ 0 → combiningClass d ≠ 0 →
      combiningClass c = combiningClass d) : stripMarks cs = cs := by
  refine stripMarks_eq_self hfolded (List.pairwise_of_forall_mem_list ?_).isChain
  intro c hc d hd
  by_cases hzero : combiningClass d = 0
  · exact .inl hzero
  · by_cases hclass : combiningClass c = 0
    · exact .inr (by omega)
    · exact .inr (hlevel c hc d hd hclass hzero).le

/-- A name whose characters are all kept and none of them trimmed. -/
theorem fileName_of_keep {ds : List Char} (hfold : stripMarks cs = ds)
    (hkeep : ∀ c ∈ ds, keeps preserve c = true) (htrim : ∀ c ∈ ds, c ∉ replacement) :
    fileName replacement preserve cs = ds := by
  have hfree : ∀ c ∈ ds, replacement.contains c = false := fun c hc => by simpa using htrim c hc
  rw [fileName, hfold, replaceRuns_of_keep fun c hc => by simp [hkeep c hc]]
  exact trimWhere_eq_self (fun c hc => hfree c (List.mem_of_head? hc))
    fun c hc => hfree c (List.mem_of_getLast? hc)

/-- A kept replacement leaves nothing to replace. -/
theorem fileName_fileName_of_kept (hkept : ∀ c ∈ replacement, keeps preserve c = true)
    (hfold : stripMarks (fileName replacement preserve cs) = fileName replacement preserve cs) :
    fileName replacement preserve (fileName replacement preserve cs) =
      fileName replacement preserve cs := by
  have hall : ∀ c ∈ fileName replacement preserve cs, keeps preserve c = true := by
    intro c hc
    rcases of_mem_replaceRuns (mem_of_mem_trimWhere hc) with ⟨-, hkeep⟩ | hreplacement
    · simpa using hkeep
    · exact hkept c hreplacement
  rw [fileName, hfold, replaceRuns_of_keep fun c hc => by simp [hall c hc]]
  exact trimWhere_trimWhere _ _

/-- A rejected replacement is put back where it stands. -/
theorem fileName_fileName_of_rejected (hne : replacement ≠ [])
    (hrejected : ∀ c ∈ replacement, keeps preserve c = false)
    (hfold : stripMarks (fileName replacement preserve cs) = fileName replacement preserve cs) :
    fileName replacement preserve (fileName replacement preserve cs) =
      fileName replacement preserve cs := by
  rw [fileName_of_rejected hrejected, hfold, fileName_of_rejected hrejected,
    pieces_intercalate hne (fun c hc => by simp [hrejected c hc]) fun block => of_mem_pieces]

/-- If all that is kept is trimmed then nothing is left. -/
theorem fileName_eq_nil
    (hall : ∀ c, isFolded c = true → keeps preserve c = true → c ∈ replacement)
    (cs : List Char) : fileName replacement preserve cs = [] := by
  refine trimWhere_eq_nil fun c hc => ?_
  rcases of_mem_replaceRuns hc with ⟨hmem, hkeep⟩ | hreplacement
  · simpa using hall c (isFolded_of_mem_stripMarks hmem) (by simpa using hkeep)
  · simpa using hreplacement

/-- Between two equal characters that are kept and not trimmed, the replacement is only replaced. -/
theorem fileName_between {x : Char} (hfolded : isFolded x = true)
    (hkeep : keeps preserve x = true) (htrim : x ∉ replacement) {mid : List Char}
    (hmid : ∀ c ∈ mid, c.toNat < 0x80) :
    fileName replacement preserve (x :: (mid ++ [x])) =
      x :: (replaceRuns (fun c => !keeps preserve c) replacement false mid ++ [x]) := by
  have hmem : ∀ c ∈ x :: (mid ++ [x]), c = x ∨ c.toNat < 0x80 := by
    intro c hc
    rcases List.mem_cons.mp hc with hx | hc
    · exact .inl hx
    · rcases List.mem_append.mp hc with hc | hc
      · exact .inr (hmid c hc)
      · exact .inl (List.mem_singleton.mp hc)
  have hx : ∀ c ∈ x :: (mid ++ [x]), combiningClass c ≠ 0 → c = x := fun c hc hclass =>
    (hmem c hc).resolve_right fun hascii => hclass (combiningClass_of_ascii hascii)
  have hfold : stripMarks (x :: (mid ++ [x])) = x :: (mid ++ [x]) := by
    refine stripMarks_of_level (fun c hc => ?_) fun c hc d hd hclass hclass' => ?_
    · rcases hmem c hc with rfl | hascii
      · exact hfolded
      · exact isFolded_of_ascii hascii
    · rw [hx c hc hclass, hx d hd hclass']
  have hfree : replacement.contains x = false := by simpa using htrim
  rw [fileName, hfold, replaceRuns_cons, if_neg (by simp [hkeep]),
    replaceRuns_append_cons (by simp [hkeep]), replaceRuns_nil]
  refine trimWhere_eq_self (fun c hc => ?_) fun c hc => ?_
  · obtain rfl : x = c := by simpa using hc
    exact hfree
  · rw [← List.cons_append, List.getLast?_concat] at hc
    obtain rfl := Option.some.inj hc
    exact hfree

section Ascii

variable (hr : ∀ c ∈ replacement, c.toNat < 0x80)

include hr

theorem isFolded_of_mem_fileName (h : c ∈ fileName replacement preserve cs) :
    isFolded c = true := by
  rcases of_mem_replaceRuns (mem_of_mem_trimWhere h) with ⟨hmem, -⟩ | hreplacement
  · exact isFolded_of_mem_stripMarks hmem
  · exact isFolded_of_ascii (hr c hreplacement)

theorem mem_preserve_of_mem_fileName (h : c ∈ fileName replacement preserve cs)
    (hclass : combiningClass c ≠ 0) : c ∈ preserve := by
  rcases of_mem_fileName h with halphanum | hpreserve | hreplacement
  · exact absurd (combiningClass_of_ascii (toNat_of_isAlphanum halphanum)) hclass
  · exact hpreserve
  · exact absurd (combiningClass_of_ascii (hr c hreplacement)) hclass

theorem stripMarks_fileName (h : Settles replacement preserve) (cs : List Char) :
    stripMarks (fileName replacement preserve cs) = fileName replacement preserve cs := by
  refine stripMarks_of_level (fun c hc => isFolded_of_mem_fileName hr hc) ?_
  intro c hc d hd hclass hclass'
  exact h.level c (mem_preserve_of_mem_fileName hr hc hclass)
    d (mem_preserve_of_mem_fileName hr hd hclass') (isFolded_of_mem_fileName hr hc)
    (isFolded_of_mem_fileName hr hd) hclass hclass'

theorem fileName_fileName (h : Settles replacement preserve) (cs : List Char) :
    fileName replacement preserve (fileName replacement preserve cs) =
      fileName replacement preserve cs := by
  have hfold := stripMarks_fileName hr h cs
  by_cases hne : replacement = []
  · exact fileName_fileName_of_kept (by simp [hne]) hfold
  · rcases h.uniform with hkept | hrejected | hall
    · exact fileName_fileName_of_kept hkept hfold
    · exact fileName_fileName_of_rejected hne hrejected hfold
    · rw [fileName_eq_nil hall, fileName_eq_nil hall]

/-- A mixed replacement grows between characters that stay. -/
theorem uniform_of_fileName_fileName
    (h : ∀ cs, fileName replacement preserve (fileName replacement preserve cs) =
      fileName replacement preserve cs) :
    (∀ c ∈ replacement, keeps preserve c = true) ∨
      (∀ c ∈ replacement, keeps preserve c = false) ∨
        ∀ c, isFolded c = true → keeps preserve c = true → c ∈ replacement := by
  by_contra hmixed
  push Not at hmixed
  obtain ⟨⟨u, hu, hrejected⟩, ⟨k, hk, hkept⟩, x, hfolded, hkeep, htrim⟩ := hmixed
  have hreject : keeps preserve u = false := eq_false_of_ne_true hrejected
  have honce : fileName replacement preserve [x, u, x] = x :: (replacement ++ [x]) := by
    have hbetween := fileName_between hfolded hkeep htrim (List.forall_mem_singleton.mpr (hr u hu))
    simpa [replaceRuns_nil, replaceRuns_cons, hreject] using hbetween
  have htwice := h [x, u, x]
  rw [honce, fileName_between hfolded hkeep htrim hr] at htwice
  have hsame : replaceRuns (fun c => !keeps preserve c) replacement false replacement =
      replacement := by simpa using htwice
  have hpos : 0 < replacement.countP fun c => !!keeps preserve c :=
    List.countP_pos_iff.mpr ⟨k, hk, by simpa using hkept⟩
  have hlength : replacement.length + replacement.countP (fun c => !!keeps preserve c) ≤
      (replaceRuns (fun c => !keeps preserve c) replacement false replacement).length :=
    add_countP_le_length_replaceRuns ⟨u, hu, by simp [hreject]⟩
  rw [hsame] at hlength
  omega

theorem not_mem_replacement_of_class (hclass : combiningClass c ≠ 0) : c ∉ replacement :=
  fun hc => hclass (combiningClass_of_ascii (hr c hc))

/-- Marks of different classes change places once nothing stands between them. -/
theorem level_of_fileName_fileName
    (h : ∀ cs, fileName replacement preserve (fileName replacement preserve cs) =
      fileName replacement preserve cs)
    (hc : c ∈ preserve) (hd : d ∈ preserve) (hfc : isFolded c = true) (hfd : isFolded d = true)
    (hzero : combiningClass d ≠ 0) : combiningClass c ≤ combiningClass d := by
  by_contra hlt
  -- U+034F is a mark of class zero that is dropped.
  have hjoiner : decompose '\u034F' = ['\u034F'] ∧ combiningClass '\u034F' = 0 ∧
      isNonspacingMark '\u034F' = true := by decide +kernel
  obtain ⟨hdecompose, hclass, hmark⟩ := hjoiner
  obtain ⟨hdc, hmc⟩ := isFolded_iff.mp hfc
  obtain ⟨hdd, hmd⟩ := isFolded_iff.mp hfd
  have hkeep : ∀ e, e = c ∨ e = d → keeps preserve e = true ∧ e ∉ replacement := by
    rintro e (rfl | rfl)
    · exact ⟨by simp [keeps, hc], not_mem_replacement_of_class hr (by omega)⟩
    · exact ⟨by simp [keeps, hd], not_mem_replacement_of_class hr hzero⟩
  have honce : fileName replacement preserve [c, '\u034F', d] = [c, d] := by
    refine fileName_of_keep ?_ (by simpa using ⟨(hkeep c (.inl rfl)).1, (hkeep d (.inr rfl)).1⟩)
      (by simpa using ⟨(hkeep c (.inl rfl)).2, (hkeep d (.inr rfl)).2⟩)
    simp [stripMarks, canonical, hdecompose, hdc, hdd, reorder, place, hclass, hmark, hmc, hmd]
  have htwice : fileName replacement preserve [c, d] = [d, c] := by
    refine fileName_of_keep ?_ (by simpa using ⟨(hkeep d (.inr rfl)).1, (hkeep c (.inl rfl)).1⟩)
      (by simpa using ⟨(hkeep d (.inr rfl)).2, (hkeep c (.inl rfl)).2⟩)
    rw [stripMarks_of_folded (by simp [hfc, hfd]), reorder, reorder, reorder, place, place,
      if_pos ⟨by omega, by omega⟩, place]
  have hsame := h [c, '\u034F', d]
  rw [honce, htwice] at hsame
  obtain rfl : d = c := by simpa using (List.cons.inj hsame).1
  exact hlt le_rfl

/-- The condition is exact. -/
theorem fileName_fileName_iff :
    (∀ cs, fileName replacement preserve (fileName replacement preserve cs) =
      fileName replacement preserve cs) ↔ Settles replacement preserve := by
  constructor
  · intro h
    refine ⟨uniform_of_fileName_fileName hr h, ?_⟩
    intro c hc d hd hfc hfd hclass hclass'
    exact le_antisymm (level_of_fileName_fileName hr h hc hd hfc hfd hclass')
      (level_of_fileName_fileName hr h hd hc hfd hfc hclass)
  · exact fileName_fileName hr

end Ascii

end Text

namespace Call

variable {call : Call}

def sanitize (call : Call) (s : String) : String :=
  Text.onChars (Text.fileName (call.str 0).toList (call.str 1).toList) s

/-- The call is settled: making a name safe again changes nothing. -/
def Settled (call : Call) : Prop :=
  Text.Settles (call.str 0).toList (call.str 1).toList

/-- Arguments that the compiler takes have an ASCII replacement. -/
theorem ascii_of_resolve {literals : List Literal} {position : Nat}
    (h : Call.resolve .strFilesafe literals position = .ok call) :
    call.rule = .strFilesafe ∧ ∀ c ∈ (call.str 0).toList, c.toNat < 0x80 := by
  have hrule : call.rule = .strFilesafe := (Call.resolve_eq_ok.mp h).2.1
  have hascii := (Call.wellFormed_of_resolve h).explicit.ascii hrule
  exact ⟨hrule, by simpa [isAsciiText] using hascii⟩

theorem sanitize_sanitize_iff (hascii : ∀ c ∈ (call.str 0).toList, c.toNat < 0x80) :
    (∀ s, call.sanitize (call.sanitize s) = call.sanitize s) ↔ call.Settled := by
  rw [Settled, ← Text.fileName_fileName_iff hascii]
  constructor
  · intro h cs
    have htwice := congrArg String.toList (h (String.ofList cs))
    simpa [sanitize] using htwice
  · intro h s
    simp only [sanitize, Text.onChars_onChars, h]

theorem apply_sanitize (hrule : call.rule = .strFilesafe) (ctx : Context) (s : String)
    (marker : Option Marker) :
    call.apply ctx (.string s marker) = .ok (.string (call.sanitize s) marker) := by
  refine apply_eq_ok.mpr ⟨by rw [hrule]; rfl, ?_⟩
  rw [transform, hrule]
  rfl

theorem eq_string_of_apply (hrule : call.rule = .strFilesafe) {ctx : Context} {v w : Value}
    (h : call.apply ctx v = .ok w) : ∃ s marker, v = .string s marker := by
  have hadmits := (apply_eq_ok.mp h).1
  rw [hrule] at hadmits
  cases v with
  | string s marker => exact ⟨s, marker, rfl⟩
  | _ => cases hadmits

end Call

namespace Pipeline

variable {call : Call}

/-- Where a second pass changes no text, the step can be repeated. -/
theorem applyAll_repeated (hrule : call.rule = .strFilesafe)
    (h : ∀ s, call.sanitize (call.sanitize s) = call.sanitize s) (ctx : Context)
    (after : List Call) (v : Value) :
    applyAll ctx (call :: call :: after) v = applyAll ctx (call :: after) v := by
  rw [applyAll, applyAll.eq_2 ctx v call after]
  cases hv : call.apply ctx v with
  | error e => rfl
  | ok w =>
    obtain ⟨s, marker, rfl⟩ := Call.eq_string_of_apply hrule hv
    rw [Call.apply_sanitize hrule] at hv
    obtain rfl := Except.ok.inj hv
    dsimp only
    rw [applyAll, Call.apply_sanitize hrule, h]

theorem run_repeated (hrule : call.rule = .strFilesafe)
    (h : ∀ s, call.sanitize (call.sanitize s) = call.sanitize s) (seed : Seed)
    (before after : List Call) (ctx : Context) (title : Option String) :
    run ⟨seed, before ++ call :: call :: after⟩ ctx title =
      run ⟨seed, before ++ call :: after⟩ ctx title := by
  have hall : ∀ v, applyAll ctx (before ++ call :: call :: after) v =
      applyAll ctx (before ++ call :: after) v := by
    intro v
    rw [applyAll_append, applyAll_append]
    cases applyAll ctx before v with
    | error e => rfl
    | ok w => exact applyAll_repeated hrule h ctx after w
  simp only [run, start, hall]

theorem finish_text_injective {channel : Channel} {s t : String}
    (h : finish channel (.text s) = finish channel (.text t)) : s = t := by
  by_cases hs : s = ""
  · by_cases ht : t = ""
    · rw [hs, ht]
    · rw [finish_text ht] at h
      obtain ⟨-, marker, hst⟩ := finish_eq_ok.mp h
      exact (Value.string.inj hst).1
  · rw [finish_text hs] at h
    obtain ⟨-, marker, hts⟩ := finish_eq_ok.mp h.symm
    exact (Value.string.inj hts).1.symm

theorem run_sanitize (hrule : call.rule = .strFilesafe) (ctx : Context) (s : String) :
    run ⟨.title, [call]⟩ ctx (some s) = finish ctx.channel (.text (call.sanitize s)) := by
  simp [run, start, applyAll, Value.text, Call.apply_sanitize hrule]

theorem run_sanitize_twice (hrule : call.rule = .strFilesafe) (ctx : Context) (s : String) :
    run ⟨.title, [call, call]⟩ ctx (some s) =
      finish ctx.channel (.text (call.sanitize (call.sanitize s))) := by
  simp [run, start, applyAll, Value.text, Call.apply_sanitize hrule]

end Pipeline

/-- For arguments that the compiler takes, a second pass changes no text, and a repeated step no
name of any pipeline, exactly if the arguments settle. -/
theorem repeats_iff_settled {literals : List Literal} {position : Nat} {call : Call}
    (h : Call.resolve .strFilesafe literals position = .ok call) :
    ((∀ s, call.sanitize (call.sanitize s) = call.sanitize s) ↔ call.Settled) ∧
      ((∀ (seed : Seed) (before after : List Call) (ctx : Context) (title : Option String),
        Pipeline.run ⟨seed, before ++ call :: call :: after⟩ ctx title =
          Pipeline.run ⟨seed, before ++ call :: after⟩ ctx title) ↔ call.Settled) := by
  obtain ⟨hrule, hascii⟩ := Call.ascii_of_resolve h
  have htexts := Call.sanitize_sanitize_iff hascii
  refine ⟨htexts, ?_⟩
  rw [← htexts]
  constructor
  · intro hrun s
    have hnames := hrun .title [] []
      ⟨⟨⟨"", none, none⟩, [], [], ⟨false, false⟩⟩, .filename⟩ (some s)
    rw [List.nil_append, List.nil_append, Pipeline.run_sanitize_twice hrule,
      Pipeline.run_sanitize hrule] at hnames
    exact Pipeline.finish_text_injective hnames
  · exact Pipeline.run_repeated hrule

/-- Without arguments, a second pass changes nothing. -/
theorem repeats_iff_settled_default :
    Call.resolve .strFilesafe [] 0 = .ok (.ofRule .strFilesafe) ∧
      (Call.ofRule .strFilesafe).Settled ∧
      (∀ s, (Call.ofRule .strFilesafe).sanitize ((Call.ofRule .strFilesafe).sanitize s) =
        (Call.ofRule .strFilesafe).sanitize s) ∧
      ∀ (seed : Seed) (before after : List Call) (ctx : Context) (title : Option String),
        Pipeline.run ⟨seed, before ++ .ofRule .strFilesafe :: .ofRule .strFilesafe :: after⟩ ctx
            title =
          Pipeline.run ⟨seed, before ++ .ofRule .strFilesafe :: after⟩ ctx title := by
  have hresolve := Call.resolve_nil .strFilesafe 0
  have hpreserve : ∀ c ∈ ([] : List Char), c.toNat < 0x80 := by simp
  have hsettled : (Call.ofRule .strFilesafe).Settled := Text.settles_singleton '_' hpreserve
  obtain ⟨htexts, hnames⟩ := repeats_iff_settled hresolve
  exact ⟨hresolve, hsettled, htexts.mpr hsettled, hnames.mpr hsettled⟩

/-- A letter and a hyphen as the replacement: the letter is kept and the hyphen replaced again. -/
theorem repeats_not_always :
    ¬ ∀ (literals : List Literal) (position : Nat) (call : Call),
      Call.resolve .strFilesafe literals position = .ok call →
        ∀ s, call.sanitize (call.sanitize s) = call.sanitize s := by
  intro h
  have hresolve : Call.resolve .strFilesafe [.str "a-"] 0 =
      .ok ⟨.strFilesafe, [.str "a-", .str ""]⟩ := Outcome.eq_ok_of_toOption (by decide +kernel)
  have hsame := h _ _ _ hresolve "x y"
  have honce : Call.sanitize ⟨.strFilesafe, [.str "a-", .str ""]⟩ "x y" = "xa-y" := by
    decide +kernel
  have htwice : Call.sanitize ⟨.strFilesafe, [.str "a-", .str ""]⟩ "xa-y" = "xaa-y" := by
    decide +kernel
  rw [honce, htwice] at hsame
  exact absurd hsame (by decide)

end ReleaseNames
