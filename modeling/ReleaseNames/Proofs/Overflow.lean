import ReleaseNames.Proofs.Alignment

/-!
# Compact notation never overflows

Raw volume numbers have two origins. A seed counts several volumes by the numbers of
the catalogue, and a move to the series makes a list of one number, which has a
segment. From then on a list is only changed by rules on volume numbers. So what
holds of both kinds of lists and is kept by every change holds of the raw volume
numbers of every value that can be reached.

The one sum that naming computes is the successor in compact notation, where
neighbours are compared as unsigned 64-bit words. It does not fit exactly if the
first of them is the largest word, and then compact notation fails, and with it the
call that asked for it. A title can count a volume by that number, but such a number
is always alone in its list, and a list of several numbers only holds numbers of the
catalogue, which have 32 bits.
-/

namespace ReleaseNames

variable {r : Request} {v w : Value} {P : VolumeNumbers → Prop}

def Value.Lists (P : VolumeNumbers → Prop) (v : Value) : Prop :=
  ∀ n vns, v.notes? = some n → n.volumeNumbers = .raw vns → P vns

section Kept

variable (hchange : ∀ {n m : VolumeNumbers}, P n → n.Change m → P m)

include hchange

theorem Notes.Edit.lists {n m : Notes} {vns : VolumeNumbers} (h : n.Edit r m)
    (hn : ∀ old, n.volumeNumbers = .raw old → P old) (hm : m.volumeNumbers = .raw vns) :
    P vns := by
  have hslot := h.volumeNumbers
  rw [hm] at hslot
  rcases hslot.eq_raw with hs | ⟨old, hs, hold⟩
  · exact hn vns hs
  · exact hchange (hn old hs) hold

/-- One step: only the two moves to the series make raw volume numbers, and they make one. -/
theorem Effect.lists (hone : ∀ v segments, segments ≠ [] → P ⟨[⟨v, segments⟩], false⟩)
    (h : Effect r v w) (hv : v.Lists P) : w.Lists P := by
  intro n vns hn hraw
  cases h with
  | keep => exact hv n vns hn hraw
  | edit hold hedit =>
    rw [Value.notes?_mapNotes hold] at hn
    cases hn
    exact hedit.lists hchange (fun old => hv _ old hold) hraw
  | partToVolume =>
    cases hn
    exact hv _ vns rfl hraw
  | partToSeries _ hnumber =>
    cases hn
    cases hraw
    obtain ⟨volume, -, rfl⟩ := Request.internalNumber_eq_ok.mp hnumber
    exact hone _ _ (List.cons_ne_nil _ _)
  | volumeToSeries _ _ _ hsegments =>
    cases hn
    cases hraw
    exact hone _ _ hsegments
  | name =>
    cases hn
    exact hv _ vns rfl hraw
  | rename =>
    cases hn
    exact hv _ vns rfl hraw
  | collapse hterminal head =>
    rw [Value.notes?_collapse hterminal head] at hn
    cases hn
  | legacy => cases hn
  | retext => cases hn
  | mark => cases hn

end Kept

theorem Request.lists_of_seed (h : r.seed = .ok v) (hseveral : ∀ {indices : List Nat} {ns},
    1 < indices.length → indices.mapM r.internalNumber = .ok ns → P ⟨ns, false⟩) :
    v.Lists P := by
  intro n vns hn hraw
  cases starts_of_seed h with
  | part =>
    cases hn
    cases hraw
  | volume =>
    cases hn
    cases hraw
  | series _ _ hns hlength =>
    cases hn
    cases hraw
    exact hseveral hlength hns

/-- To compare two texts takes a successor that does not fit a word. -/
def Exceeds (a b : String) : Prop :=
  ∃ x y, Text.unsigned? a = some x ∧ Text.unsigned? b = some y ∧ UInt64.size ≤ x.toNat + 1

/-- Some comparison of neighbours takes a successor that does not fit a word. -/
def VolumeNumbers.Overflows (n : VolumeNumbers) : Prop :=
  ∃ i a b x y, n.texts[i]? = some a ∧ n.texts[i + 1]? = some b ∧
    Text.unsigned? a = some x ∧ Text.unsigned? b = some y ∧ UInt64.size ≤ x.toNat + 1

/-- A call overflows if it writes compact notation and that overflows: the short form of volume
numbers, once they are merged, and the full form of numbers that were merged before. -/
def Call.Overflows (call : Call) (value : Value) : Prop :=
  ∃ n vns, value.notes? = some n ∧ n.volumeNumbers = .raw vns ∧
    ((call.rule = .vnShort ∧ vns.merge.Overflows) ∨
      (call.rule = .vnFull ∧ vns.merged = true ∧ vns.Overflows))

theorem continuesRun_eq_error_iff {a b : String} (sum : Overflow) :
    continuesRun a b = .error sum ↔ Exceeds a b := by
  cases sum
  cases hx : Text.unsigned? a with
  | none => simp [continuesRun, Exceeds, hx]
  | some x =>
    cases hy : Text.unsigned? b with
    | none => simp [continuesRun, Exceeds, hx, hy]
    | some y =>
      by_cases hfits : x.toNat + 1 < UInt64.size
      · simp [continuesRun, successor, Exceeds, hx, hy, hfits]
      · simp [continuesRun, successor, Exceeds, hx, hy, hfits, Nat.le_of_not_lt hfits]

theorem cutRuns_eq_error_iff {texts : List String} (sum : Overflow) :
    cutRuns texts = .error sum ↔ ¬ texts.IsChain fun a b => ¬ Exceeds a b := by
  induction texts with
  | nil => simp [cutRuns]
  | cons a rest ih =>
    cases rest with
    | nil => simp [cutRuns]
    | cons b rest =>
      rw [cutRuns, Outcome.bind_eq_error, List.isChain_cons_cons, Classical.not_and_iff_not_or_not,
        not_not, ← ih, ← continuesRun_eq_error_iff sum]
      cases hjoined : continuesRun a b with
      | error sum' => cases sum; cases sum'; simp
      | ok joined => simp [Outcome.bind_eq_error]

namespace VolumeNumbers

theorem overflows_iff {n : VolumeNumbers} :
    n.Overflows ↔ ¬ n.texts.IsChain fun a b => ¬ Exceeds a b := by
  rw [List.isChain_iff_getElem]
  constructor
  · rintro ⟨i, a, b, x, y, ha, hb, hexceeds⟩ hchain
    obtain ⟨hi, rfl⟩ := List.getElem?_eq_some_iff.mp ha
    obtain ⟨hi', rfl⟩ := List.getElem?_eq_some_iff.mp hb
    exact hchain i hi' ⟨x, y, hexceeds⟩
  · intro hchain
    by_contra hover
    refine hchain fun i hi => ?_
    rintro ⟨x, y, hexceeds⟩
    exact hover ⟨i, _, _, x, y, List.getElem?_eq_getElem _, List.getElem?_eq_getElem hi, hexceeds⟩

theorem compact_eq_error_iff {n : VolumeNumbers} {sum : Overflow} :
    n.compact = .error sum ↔ n.Overflows := by
  rw [overflows_iff, ← cutRuns_eq_error_iff sum, compact, Outcome.bind_eq_error]
  simp

theorem exists_compact_eq_ok {n : VolumeNumbers} (h : ¬ n.Overflows) : ∃ s, n.compact = .ok s := by
  cases hs : n.compact with
  | ok s => exact ⟨s, rfl⟩
  | error sum => exact absurd (compact_eq_error_iff.mp hs) h

theorem spelled_eq_error_iff {n : VolumeNumbers} {sum : Overflow} :
    n.spelled = .error sum ↔ n.merged = true ∧ n.Overflows := by
  cases hmerged : n.merged with
  | true => simp [spelled, hmerged, Outcome.bind_eq_error, compact_eq_error_iff]
  | false =>
    simp only [spelled, hmerged, Bool.false_eq_true, if_false, false_and, iff_false]
    repeat' split
    all_goals simp

end VolumeNumbers

theorem Notes.renderVolumeNumbers_eq_error {n : Notes} {e : NamingError}
    {f : VolumeNumbers → Except Overflow String} :
    n.renderVolumeNumbers f = .error e ↔
      ∃ vns sum, n.volumeNumbers = .raw vns ∧ f vns = .error sum ∧ e = .overflow sum := by
  rw [renderVolumeNumbers]
  constructor
  · intro h
    split at h
    · next vns hraw =>
      split at h
      · cases h
      · next sum hsum =>
        cases h
        exact ⟨vns, sum, hraw, hsum, rfl⟩
    · cases h
  · rintro ⟨vns, sum, hraw, hsum, rfl⟩
    simp [hraw, hsum]

theorem Value.renderVolumeNumbers_eq_error {v : Value} {e : NamingError}
    {f : VolumeNumbers → Except Overflow String} :
    v.mapNotesM (Notes.renderVolumeNumbers f) = .error e ↔
      ∃ n vns sum, v.notes? = some n ∧ n.volumeNumbers = .raw vns ∧ f vns = .error sum ∧
        e = .overflow sum := by
  cases hn : v.notes? with
  | none => simp [mapNotesM_of_notes?_eq_none hn]
  | some n => simp [mapNotesM_eq_error hn, Notes.renderVolumeNumbers_eq_error]

/-- Volume numbers are rendered unless the call overflows, and then it fails by that. -/
theorem Call.transform_eq_error_iff {call : Call} {ctx : Context} {v : Value} {e : NamingError}
    (hrule : call.rule = .vnShort ∨ call.rule = .vnFull) :
    call.transform ctx v = .error e ↔ call.Overflows v ∧ e = .overflow .successor := by
  have hsum : ∀ sum : Overflow, sum = .successor := fun sum => by cases sum; rfl
  rcases hrule with hrule | hrule
  · rw [transform, hrule]
    simp only [Notes.renderShortVolumeNumbers, Value.renderVolumeNumbers_eq_error,
      VolumeNumbers.compact_eq_error_iff]
    constructor
    · rintro ⟨n, vns, sum, hn, hraw, hover, rfl⟩
      exact ⟨⟨n, vns, hn, hraw, .inl ⟨hrule, hover⟩⟩, by rw [hsum sum]⟩
    · rintro ⟨⟨n, vns, hn, hraw, ⟨-, hover⟩ | ⟨hother, -⟩⟩, rfl⟩
      · exact ⟨n, vns, .successor, hn, hraw, hover, rfl⟩
      · cases hrule.symm.trans hother
  · rw [transform, hrule]
    simp only [Notes.renderFullVolumeNumbers, Value.renderVolumeNumbers_eq_error,
      VolumeNumbers.spelled_eq_error_iff]
    constructor
    · rintro ⟨n, vns, sum, hn, hraw, hover, rfl⟩
      exact ⟨⟨n, vns, hn, hraw, .inr ⟨hrule, hover⟩⟩, by rw [hsum sum]⟩
    · rintro ⟨⟨n, vns, hn, hraw, ⟨hother, -⟩ | ⟨-, hover⟩⟩, rfl⟩
      · cases hrule.symm.trans hother
      · exact ⟨n, vns, .successor, hn, hraw, hover, rfl⟩

namespace Text

def SuccessorFits (s : String) : Prop :=
  ∀ x, unsigned? s = some x → x.toNat + 1 < UInt64.size

theorem unsignedDigits?_of_digits {s : String} (hs : s.toList ≠ [])
    (hd : s.toList.all Char.isDigit = true) : unsignedDigits? s = some s.toList := by
  rw [unsignedDigits?]
  split
  · next rest hplus =>
    rw [hplus] at hd
    simp [Char.isDigit] at hd
  · simp [hs, hd]

theorem unsigned?_of_digits {s : String} (hs : s.toList ≠ [])
    (hd : s.toList.all Char.isDigit = true) :
    unsigned? s = if Nat.ofDigitChars 10 s.toList 0 < UInt64.size then
      some (UInt64.ofNat (Nat.ofDigitChars 10 s.toList 0)) else none := by
  rw [unsigned?]
  rw [unsignedDigits?_of_digits hs hd]

theorem successorFits_toString {n : Nat} (h : n + 1 < UInt64.size) :
    SuccessorFits (toString n) := by
  intro x hx
  have hlist : (toString n).toList = Nat.toDigits 10 n := by simp
  have hd : (toString n).toList.all Char.isDigit = true := by
    rw [hlist, List.all_eq_true]
    intro c hc
    exact Nat.isDigit_of_mem_toDigits (by omega) (by omega) hc
  rw [unsigned?_of_digits (by simp) hd, hlist, Nat.ofDigitChars_ten_toDigits,
    if_pos (by omega)] at hx
  cases hx
  rw [UInt64.toNat_ofNat_of_lt' (by omega)]
  exact h

/-- Zeros on the left do not change the number. -/
theorem unsigned?_zeroPad (width : Nat) (s : String) :
    unsigned? (zeroPad width s) = unsigned? s := by
  rw [zeroPad]
  split
  · next h =>
    obtain ⟨hs, hd⟩ := h
    have hpad : (List.replicate (width - s.toList.length) '0' ++ s.toList).all Char.isDigit
        = true := by
      rw [List.all_append, hd, Bool.and_true, List.all_eq_true]
      intro c hc
      rw [List.eq_of_mem_replicate hc]
      rfl
    have hlist :=
      String.toList_ofList (l := List.replicate (width - s.toList.length) '0' ++ s.toList)
    rw [unsigned?_of_digits hs hd, unsigned?_of_digits (by simp [hs]) (by rw [hlist]; exact hpad),
      hlist, Nat.ofDigitChars_append, Nat.ofDigitChars_replicate_zero, Nat.mul_zero]
  · rfl

theorem SuccessorFits.zeroPad {s : String} (h : SuccessorFits s) (width : Nat) :
    SuccessorFits (zeroPad width s) := by
  intro x hx
  rw [unsigned?_zeroPad] at hx
  exact h x hx

theorem le_twenty_of_wordNumber? {s : String} {n : Nat} (h : wordNumber? s = some n) : n ≤ 20 := by
  have hall : ∀ w ∈ numberWords, w.2 ≤ 20 := by decide
  obtain ⟨before, after, hsplit, -⟩ := List.lookup_eq_some_iff.mp h
  exact hall (lower s, n) (by simp [hsplit])

theorem SuccessorFits.digitsOfWord {s : String} (h : SuccessorFits s) :
    SuccessorFits (digitsOfWord s) := by
  rw [Text.digitsOfWord]
  split
  · next n hn =>
    have hle := le_twenty_of_wordNumber? hn
    exact successorFits_toString (Nat.lt_of_le_of_lt (Nat.succ_le_succ hle) (by decide))
  · exact h

end Text

namespace VolumeNumbers

/-- A list of at most one number, or of single segments whose successors fit. -/
def Bounded (n : VolumeNumbers) : Prop :=
  n.numbers.length ≤ 1 ∨
    ∀ v ∈ n.numbers, ∃ s, v.segments = [s] ∧ Text.SuccessorFits s.text

theorem bounded_singleton (v : VolumeNumber) (merged : Bool) : Bounded ⟨[v], merged⟩ :=
  .inl (Nat.le_refl 1)

theorem Bounded.mapTexts {n : VolumeNumbers} (h : n.Bounded) {f : String → String}
    (hf : ∀ s, Text.SuccessorFits s → Text.SuccessorFits (f s)) : (n.mapTexts f).Bounded := by
  rcases h with h | h
  · exact .inl (by simpa [VolumeNumbers.mapTexts] using h)
  · refine .inr fun v hv => ?_
    obtain ⟨u, hu, rfl⟩ := List.mem_map.mp hv
    obtain ⟨s, hs, hfits⟩ := h u hu
    exact ⟨{ s with text := f s.text }, by simp [hs], hf s.text hfits⟩

theorem Bounded.merge {n : VolumeNumbers} (h : n.Bounded) : n.merge.Bounded := by
  rcases h with h | h
  · exact .inl (by simpa [VolumeNumbers.merge] using h)
  · refine .inr fun v hv => ?_
    obtain ⟨u, hu, rfl⟩ := List.mem_map.mp hv
    obtain ⟨s, hs, hfits⟩ := h u hu
    exact ⟨s, by simp [VolumeNumber.merge, hs], hfits⟩

theorem Bounded.change {n m : VolumeNumbers} (h : n.Bounded) (hm : n.Change m) : m.Bounded := by
  cases hm with
  | digits => exact h.mapTexts fun _ => Text.SuccessorFits.digitsOfWord
  | pad => exact h.mapTexts fun _ hs => hs.zeroPad 2
  | merge => exact h.merge

theorem Bounded.not_overflows {n : VolumeNumbers} (h : n.Bounded) : ¬ n.Overflows := by
  rintro ⟨i, a, b, x, y, ha, hb, hx, -, hmax⟩
  rcases h with h | h
  · have hlt := (List.getElem?_eq_some_iff.mp hb).1
    simp only [texts, List.length_map] at hlt
    omega
  · obtain ⟨v, hv, hdotted⟩ := List.mem_map.mp (List.mem_of_getElem? ha)
    obtain ⟨s, hs, hfits⟩ := h v hv
    have htext : v.dotted = s.text := by simp [VolumeNumber.dotted, hs]
    rw [← hdotted, htext] at hx
    have := hfits x hx
    omega

end VolumeNumbers

def Value.Bounded (v : Value) : Prop :=
  ∀ n vns, v.notes? = some n → n.volumeNumbers = .raw vns → vns.Bounded

theorem Value.Bounded.not_overflows {call : Call} {v : Value} (h : v.Bounded) :
    ¬ call.Overflows v := by
  rintro ⟨n, vns, hn, hraw, ⟨-, hover⟩ | ⟨-, -, hover⟩⟩
  · exact (h n vns hn hraw).merge.not_overflows hover
  · exact (h n vns hn hraw).not_overflows hover

/-- One step: only the two moves to the series make raw volume numbers, and they make one. -/
theorem Effect.bounded {v w : Value} (h : Effect r v w) (hv : v.Bounded) : w.Bounded :=
  h.lists VolumeNumbers.Bounded.change (fun _ _ _ => VolumeNumbers.bounded_singleton _ _) hv

theorem Request.bounded_of_internalNumbers {indices : List Nat} {ns : List VolumeNumber}
    (h : indices.mapM r.internalNumber = .ok ns) (merged : Bool) :
    VolumeNumbers.Bounded ⟨ns, merged⟩ := by
  refine .inr fun v hv => ?_
  obtain ⟨i, -, hi⟩ := Outcome.exists_of_mem_mapM h hv
  obtain ⟨volume, -, rfl⟩ := internalNumber_eq_ok.mp hi
  have hlt : volume.number.toNat < 2 ^ 32 := volume.number.toNat_lt
  exact ⟨_, rfl, Text.successorFits_toString (Nat.lt_of_le_of_lt hlt (by decide))⟩

theorem Request.bounded_of_seed {v : Value} (h : r.seed = .ok v) : v.Bounded :=
  lists_of_seed h fun _ hns => bounded_of_internalNumbers hns false

theorem Value.bounded_text (s : String) : (Value.text s).Bounded := by
  intro n vns hn
  cases hn

/-- What a run keeps of its values: they are about what the request packages, and their raw volume
numbers do not overflow. -/
structure Value.Sound (r : Request) (v : Value) : Prop where
  aligned : v.Aligned r
  bounded : v.Bounded

theorem Effect.sound {v w : Value} (h : Effect r v w) (hv : v.Sound r) : w.Sound r :=
  ⟨h.aligned hv.aligned, h.bounded hv.bounded⟩

theorem Request.sound_of_seed {v : Value} (h : r.seed = .ok v) : v.Sound r :=
  ⟨aligned_of_seed h, bounded_of_seed h⟩

theorem Value.sound_text (r : Request) (s : String) : (Value.text s).Sound r :=
  ⟨trivial, bounded_text s⟩

namespace Pipeline

/-- A run of the pipeline comes to apply a call to a value. -/
def Meets (p : Pipeline) (ctx : Context) (title : Option String) (call : Call) (v : Value) : Prop :=
  ∃ first before after, p.steps = before ++ call :: after ∧ p.start ctx title = .ok first ∧
    applyAll ctx before first = .ok v

theorem sound_of_start {p : Pipeline} {ctx : Context} {title : Option String} {v : Value}
    (h : p.start ctx title = .ok v) : v.Sound ctx.request := by
  rw [start.eq_def] at h
  split at h
  · exact Request.sound_of_seed h
  · split at h
    · cases h
      exact Value.sound_text _ _
    · cases h

theorem sound_of_applyAll {ctx : Context} {calls : List Call} {v w : Value}
    (h : applyAll ctx calls v = .ok w) (hv : v.Sound ctx.request) : w.Sound ctx.request :=
  applyAll_preserves (fun hstep => (Effect.of_apply hstep).sound) h hv

/-- No call that a run comes to apply overflows, whatever the request, the title and the calls. -/
theorem not_overflows_of_meets {p : Pipeline} {ctx : Context} {title : Option String} {call : Call}
    {v : Value} (h : p.Meets ctx title call v) : ¬ call.Overflows v := by
  obtain ⟨first, before, after, -, hstart, hrun⟩ := h
  exact (sound_of_applyAll hrun (sound_of_start hstart)).bounded.not_overflows

end Pipeline

end ReleaseNames
