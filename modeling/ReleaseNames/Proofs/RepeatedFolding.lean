import Mathlib.Data.List.DropRight
import ReleaseNames.Proofs.Folding
import ReleaseNames.Proofs.FolderName

/-!
# Folding a text again

Folding a folded text drops nothing and decomposes nothing, so all that it can do is
put marks in order. There is something to put in order exactly if a dropped mark stood
between two characters that are left and whose classes fall, and then the order is
found at once: folding a third time changes nothing.

A folder name is a folded text in which characters of class zero are replaced by one
another or trimmed. These never change their places, so the same holds of folder
names.
-/

namespace ReleaseNames.Text

variable {c d : Char} {cs ds : List Char}

section Order

theorem head?_place (h : (place c cs).head? = some d) : d = c ∨ cs.head? = some d := by
  cases cs with
  | nil => exact .inl (Option.some.inj h).symm
  | cons e rest =>
    rw [place] at h
    split at h
    · exact .inr h
    · exact .inl (Option.some.inj h).symm

/-- A character that is put in its place leaves the text in order. -/
theorem isChain_place (h : cs.IsChain Ordered) : (place c cs).IsChain Ordered := by
  induction cs with
  | nil => exact List.isChain_singleton c
  | cons d cs ih =>
    rw [place]
    split
    · next hpass =>
      refine (ih h.tail).cons fun e he => ?_
      rcases head?_place he with rfl | hnext
      · exact .inr hpass.2.le
      · exact h.rel_head? hnext
    · next hstay =>
      refine h.cons fun e he => ?_
      obtain rfl := Option.some.inj he
      by_cases hzero : combiningClass d = 0
      · exact .inl hzero
      · exact .inr (by omega)

theorem isChain_reorder (cs : List Char) : (reorder cs).IsChain Ordered := by
  induction cs with
  | nil => exact List.isChain_nil
  | cons c cs ih => exact isChain_place ih

theorem reorder_eq_self_iff : reorder cs = cs ↔ cs.IsChain Ordered := by
  refine ⟨fun h => ?_, reorder_of_ordered⟩
  rw [← h]
  exact isChain_reorder cs

theorem reorder_reorder (cs : List Char) : reorder (reorder cs) = reorder cs :=
  reorder_of_ordered (isChain_reorder cs)

theorem getElem?_place (hclass : combiningClass d = 0) {i : Nat}
    (h : (place c cs)[i]? = some d) : (c :: cs)[i]? = some d := by
  induction cs generalizing i with
  | nil => exact h
  | cons e cs ih =>
    rw [place] at h
    split at h
    · next hpass =>
      cases i with
      | zero =>
        obtain rfl := Option.some.inj h
        omega
      | succ i =>
        have hnext := ih h
        cases i with
        | zero =>
          obtain rfl := Option.some.inj hnext
          omega
        | succ i => exact hnext
    · exact h

/-- A character of class zero stands where it stood before the text was ordered. -/
theorem getElem?_reorder (hclass : combiningClass d = 0) {i : Nat}
    (h : (reorder cs)[i]? = some d) : cs[i]? = some d := by
  induction cs generalizing i with
  | nil => exact h
  | cons c cs ih =>
    have hplaced := getElem?_place hclass h
    cases i with
    | zero => exact hplaced
    | succ i => exact ih hplaced

theorem head?_reorder (hclass : combiningClass d = 0) (h : (reorder cs).head? = some d) :
    cs.head? = some d := by
  rw [List.head?_eq_getElem?] at h ⊢
  exact getElem?_reorder hclass h

theorem getLast?_reorder (hclass : combiningClass d = 0) (h : (reorder cs).getLast? = some d) :
    cs.getLast? = some d := by
  rw [List.getLast?_eq_getElem?] at h ⊢
  rw [(reorder_perm cs).length_eq] at h
  exact getElem?_reorder hclass h

end Order

section Twice

theorem stripMarks_stripMarks (cs : List Char) :
    stripMarks (stripMarks cs) = reorder (stripMarks cs) :=
  stripMarks_of_folded fun _ => isFolded_of_mem_stripMarks

theorem isFolded_of_mem_folderName (h : c ∈ folderName cs) : isFolded c = true := by
  rcases of_mem_replaceRuns (mem_of_mem_trimWhere h) with ⟨hmem, -⟩ | hreplacement
  · exact isFolded_of_mem_stripMarks hmem
  · obtain rfl := List.mem_singleton.mp hreplacement
    decide +kernel

/-- The second pass has nothing to replace and nothing to trim. -/
theorem folderName_folderName (cs : List Char) :
    folderName (folderName cs) = reorder (folderName cs) := by
  have hclass : combiningClass '_' = 0 := combiningClass_of_ascii (by decide)
  have hkept : ∀ c ∈ reorder (folderName cs), folderRejected.contains c = false := fun c hc => by
    simpa using not_mem_of_mem_folderName ((reorder_perm _).mem_iff.mp hc)
  rw [folderName, stripMarks_of_folded fun _ => isFolded_of_mem_folderName,
    replaceRuns_of_keep hkept]
  refine trimWhere_eq_self (fun c hc => beq_eq_false_iff_ne.mpr ?_)
    fun c hc => beq_eq_false_iff_ne.mpr ?_
  · rintro rfl
    exact head?_folderName_ne cs (head?_reorder hclass hc)
  · rintro rfl
    exact getLast?_folderName_ne cs (getLast?_reorder hclass hc)

end Twice

section ClassZero

/-! Characters of class zero are free: it does not matter to the order what they stand next to. -/

theorem isChain_cons_of_class_zero (hc : combiningClass c = 0) :
    (c :: cs).IsChain Ordered ↔ cs.IsChain Ordered := by
  rw [List.isChain_cons, and_iff_right]
  exact fun d _ => .inr (by omega)

theorem isChain_prepend_of_class_zero (h : ∀ c ∈ ds, combiningClass c = 0) :
    (ds ++ cs).IsChain Ordered ↔ cs.IsChain Ordered := by
  induction ds with
  | nil => rfl
  | cons d ds ih =>
    obtain ⟨hd, hds⟩ := List.forall_mem_cons.mp h
    rw [List.cons_append, isChain_cons_of_class_zero hd, ih hds]

theorem isChain_append_of_class_zero (h : ∀ c ∈ ds, combiningClass c = 0) :
    (cs ++ ds).IsChain Ordered ↔ cs.IsChain Ordered := by
  have hds : ds.IsChain Ordered :=
    (List.pairwise_of_forall_mem_list fun _ _ d hd => .inl (h d hd)).isChain
  rw [List.isChain_append, and_iff_left]
  exact ⟨hds, fun c _ d hd => .inl (h d (List.mem_of_head? hd))⟩

variable {p : Char → Bool} {r : Char} (hp : ∀ c, p c = true → combiningClass c = 0)

include hp

theorem isChain_trimWhere_iff : (trimWhere p cs).IsChain Ordered ↔ cs.IsChain Ordered := by
  have hback : ((cs.dropWhile p).rdropWhile p ++ (cs.dropWhile p).rtakeWhile p).IsChain Ordered ↔
      (trimWhere p cs).IsChain Ordered :=
    isChain_append_of_class_zero fun c hc => hp c (List.mem_rtakeWhile_imp hc)
  have hfront : (cs.takeWhile p ++ cs.dropWhile p).IsChain Ordered ↔
      (cs.dropWhile p).IsChain Ordered :=
    isChain_prepend_of_class_zero fun c hc => hp c (List.mem_takeWhile_imp hc)
  rw [← hback, List.rdropWhile_append_rtakeWhile, ← hfront, List.takeWhile_append_dropWhile]

theorem isChain_replaceRuns_iff (hr : combiningClass r = 0) (inRun : Bool) :
    (replaceRuns p [r] inRun cs).IsChain Ordered ↔ cs.IsChain Ordered := by
  induction cs generalizing inRun with
  | nil => rfl
  | cons c cs ih =>
    rw [replaceRuns_cons]
    split
    · next hc =>
      rw [isChain_cons_of_class_zero (hp c hc)]
      split
      · exact ih true
      · rw [List.singleton_append, isChain_cons_of_class_zero hr, ih true]
    · rw [List.isChain_cons, List.isChain_cons, ih false]
      refine and_congr_left fun _ => ?_
      -- Only the next character matters, and it is replaced by a free one if it is free.
      cases cs with
      | nil => rfl
      | cons d cs =>
        rw [replaceRuns_cons]
        split
        · next hd => simp [Ordered, hr, hp d hd]
        · rfl

end ClassZero

/-- Replacing and trimming do not matter to the order. -/
theorem isChain_folderName_iff (cs : List Char) :
    (folderName cs).IsChain Ordered ↔ (stripMarks cs).IsChain Ordered := by
  have hunderscore : combiningClass '_' = 0 := combiningClass_of_ascii (by decide)
  have hrejected : ∀ c, folderRejected.contains c = true → combiningClass c = 0 := by
    intro c hc
    have hascii : (folderRejected.all fun c => c.toNat < 0x80) = true := by decide
    exact combiningClass_of_ascii (by simpa using List.all_eq_true.mp hascii c (by simpa using hc))
  rw [folderName, isChain_trimWhere_iff (by simp [hunderscore]),
    isChain_replaceRuns_iff hrejected hunderscore]

/-- What is left of a text is a chain if the relation holds across the gaps of dropped ones. -/
theorem isChain_filter_iff {R : Char → Char → Prop} {keep : Char → Bool} :
    (cs.filter keep).IsChain R ↔ ∀ before c gap d after, cs = before ++ c :: (gap ++ d :: after) →
      keep c = true → keep d = true → (∀ x ∈ gap, keep x = false) → R c d := by
  rw [List.isChain_iff_forall_rel_of_append_cons_cons]
  constructor
  · intro h before c gap d after hsplit hc hd hgap
    have hnone : gap.filter keep = [] := List.filter_eq_nil_iff.mpr fun x hx => by simp [hgap x hx]
    have hfilter : cs.filter keep = before.filter keep ++ c :: d :: after.filter keep := by
      simp [hsplit, hc, hd, hnone]
    exact h hfilter
  · intro h c d kept kept' hfilter
    obtain ⟨before, rest, hcs, -, hrest⟩ := List.filter_eq_append_iff.mp hfilter
    obtain ⟨gap, tail, hgap, hdropped, hc, htail⟩ := List.filter_eq_cons_iff.mp hrest
    obtain ⟨gap', after, hgap', hdropped', hd, -⟩ := List.filter_eq_cons_iff.mp htail
    refine h (before ++ gap) c gap' d after ?_ hc hd fun x hx => by simpa using hdropped' x hx
    rw [hcs, hgap, hgap', List.append_assoc]

/-- Two characters that are left have falling classes and had only dropped marks between them. -/
def UncoversFall (cs : List Char) : Prop :=
  ∃ before c gap d after, canonical cs = before ++ c :: (gap ++ d :: after) ∧
    isNonspacingMark c = false ∧ isNonspacingMark d = false ∧
    (∀ x ∈ gap, isNonspacingMark x = true) ∧
    0 < combiningClass d ∧ combiningClass d < combiningClass c

theorem isChain_stripMarks_iff : (stripMarks cs).IsChain Ordered ↔ ¬ UncoversFall cs := by
  rw [stripMarks, isChain_filter_iff]
  constructor
  · rintro h ⟨before, c, gap, d, after, hsplit, hc, hd, hgap, hpos, hlt⟩
    have hrel := h before c gap d after hsplit (by simp [hc]) (by simp [hd])
      fun x hx => by simp [hgap x hx]
    rcases hrel with hzero | hle <;> omega
  · intro h before c gap d after hsplit hc hd hgap
    by_contra hfall
    rw [Ordered, not_or, not_le] at hfall
    exact h ⟨before, c, gap, d, after, hsplit, by simpa using hc, by simpa using hd,
      fun x hx => by simpa using hgap x hx, Nat.pos_of_ne_zero hfall.1, hfall.2⟩

/-- Folding a text twice, or making a folder name of it twice, is the same as doing so once exactly
if no fall is uncovered. Otherwise the second time changes the order and nothing else, and a third
time changes nothing. -/
theorem folds_once_iff (cs : List Char) :
    (stripMarks (stripMarks cs) = stripMarks cs ↔ ¬ UncoversFall cs) ∧
      (folderName (folderName cs) = folderName cs ↔ ¬ UncoversFall cs) ∧
      (stripMarks (stripMarks cs)).Perm (stripMarks cs) ∧
      (folderName (folderName cs)).Perm (folderName cs) ∧
      stripMarks (stripMarks (stripMarks cs)) = stripMarks (stripMarks cs) ∧
      folderName (folderName (folderName cs)) = folderName (folderName cs) := by
  refine ⟨?_, ?_, ?_, ?_, ?_, ?_⟩
  · rw [stripMarks_stripMarks, reorder_eq_self_iff, isChain_stripMarks_iff]
  · rw [folderName_folderName, reorder_eq_self_iff, isChain_folderName_iff, isChain_stripMarks_iff]
  · rw [stripMarks_stripMarks]
    exact reorder_perm _
  · rw [folderName_folderName]
    exact reorder_perm _
  · rw [stripMarks_stripMarks (stripMarks cs), stripMarks_stripMarks cs, reorder_reorder]
  · rw [folderName_folderName (folderName cs), folderName_folderName cs, reorder_reorder]

/-- An augmentation dot and a stem of a musical note change places once the joiner between them is
dropped, in a folder name as well. -/
theorem folds_not_once :
    (¬ ∀ cs, stripMarks (stripMarks cs) = stripMarks cs) ∧
      ¬ ∀ cs, folderName (folderName cs) = folderName cs := by
  have hfolded : stripMarks [Char.ofNat 0x1D16D, '\u034F', Char.ofNat 0x1D165] =
      [Char.ofNat 0x1D16D, Char.ofNat 0x1D165] := by decide +kernel
  have hagain : stripMarks [Char.ofNat 0x1D16D, Char.ofNat 0x1D165] =
      [Char.ofNat 0x1D165, Char.ofNat 0x1D16D] := by decide +kernel
  have hfolder : folderName [Char.ofNat 0x1D16D, '\u034F', Char.ofNat 0x1D165] =
      [Char.ofNat 0x1D16D, Char.ofNat 0x1D165] := by decide +kernel
  have hfolder' : folderName [Char.ofNat 0x1D16D, Char.ofNat 0x1D165] =
      [Char.ofNat 0x1D165, Char.ofNat 0x1D16D] := by decide +kernel
  have hmoved : [Char.ofNat 0x1D165, Char.ofNat 0x1D16D] ≠
      [Char.ofNat 0x1D16D, Char.ofNat 0x1D165] := by decide
  constructor
  · intro h
    have hsame := h [Char.ofNat 0x1D16D, '\u034F', Char.ofNat 0x1D165]
    rw [hfolded, hagain] at hsame
    exact hmoved hsame
  · intro h
    have hsame := h [Char.ofNat 0x1D16D, '\u034F', Char.ofNat 0x1D165]
    rw [hfolder, hfolder'] at hsame
    exact hmoved hsame

end ReleaseNames.Text
