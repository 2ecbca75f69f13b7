import Mathlib.Data.List.Chain
import Mathlib.Data.List.Pairwise
import ReleaseNames.Text.SafeName

/-!
# Texts with their accents folded away

Folding decomposes a text, orders its combining characters and drops the nonspacing
marks. Every character that it leaves stands for itself, since decompositions are
full, so folding again changes no character. It may still change their order: a mark
of class zero keeps the characters on its two sides apart, and once it is dropped
they can change places. A text of characters that stand for themselves stays as it
is if its classes never fall from one character to the next.

Nothing is asserted of classes and decompositions beyond the tables in use.
-/

namespace ReleaseNames.Text

variable {c d : Char} {cs : List Char}

def isFolded (c : Char) : Bool :=
  decompose c == [c] && !isNonspacingMark c

theorem isFolded_iff : isFolded c = true ↔ decompose c = [c] ∧ isNonspacingMark c = false := by
  simp [isFolded]

/-- Neighbours that canonical order leaves as they are. -/
def Ordered (a b : Char) : Prop :=
  combiningClass b = 0 ∨ combiningClass a ≤ combiningClass b

section Table

/-- The code points of some rows as the bits of one number, in which they are found quickly. -/
def rowBits (rows : List (Nat × List Nat)) : Nat :=
  rows.foldr (fun row bits => bits ||| 1 <<< row.1) 0

def allRowBits : Nat :=
  mappingBlocks.foldr (fun block bits => rowBits block.rows ||| bits) 0

theorem testBit_rowBits {rows : List (Nat × List Nat)} {row : Nat × List Nat} (h : row ∈ rows) :
    (rowBits rows).testBit row.1 = true := by
  induction rows with
  | nil => cases h
  | cons first rows ih =>
    rw [rowBits, List.foldr_cons, Nat.testBit_or]
    rcases List.mem_cons.mp h with rfl | h
    · rw [Nat.one_shiftLeft, Nat.testBit_two_pow_self, Bool.or_true]
    · exact Bool.or_eq_true_iff.mpr (.inl (ih h))

theorem testBit_blocks {blocks : List MappingBlock} {block : MappingBlock}
    {row : Nat × List Nat} (hblock : block ∈ blocks) (hrow : row ∈ block.rows) :
    (blocks.foldr (fun block bits => rowBits block.rows ||| bits) 0).testBit row.1 = true := by
  induction blocks with
  | nil => cases hblock
  | cons first blocks ih =>
    rw [List.foldr_cons, Nat.testBit_or]
    rcases List.mem_cons.mp hblock with rfl | hblock
    · exact Bool.or_eq_true_iff.mpr (.inl (testBit_rowBits hrow))
    · exact Bool.or_eq_true_iff.mpr (.inr (ih hblock))

/-- A code point that is no Hangul syllable and has no row. -/
def isFull (code : Nat) : Bool :=
  (Nat.blt code 0xAC00 || (Nat.blt 0xDFFF code && Nat.blt code 0x110000)) &&
    !allRowBits.testBit code

/-- The row of no Hangul letter, with a right side that decomposes no further. -/
def isFullRow (row : Nat × List Nat) : Bool :=
  (Nat.blt row.1 0x1100 || Nat.ble 0x1200 row.1) && row.2.all isFull

/-- All decompositions are full. -/
theorem all_isFullRow : (mappingBlocks.all fun block => block.rows.all isFullRow) = true := by
  decide +kernel

theorem exists_row_of_mapping? {code : Nat} {codes : List Nat} (h : mapping? code = some codes) :
    ∃ block ∈ mappingBlocks, (code, codes) ∈ block.rows := by
  rw [mapping?] at h
  split at h
  · next block hfind =>
    obtain ⟨before, after, hrows, -⟩ := List.lookup_eq_some_iff.mp h
    exact ⟨block, List.mem_of_find?_eq_some hfind, by rw [hrows]; simp⟩
  · cases h

theorem isFullRow_of_mapping? {code : Nat} {codes : List Nat} (h : mapping? code = some codes) :
    isFullRow (code, codes) = true := by
  obtain ⟨block, hblock, hrow⟩ := exists_row_of_mapping? h
  exact List.all_eq_true.mp (List.all_eq_true.mp all_isFullRow block hblock) _ hrow

theorem mapping?_of_isFull {code : Nat} (h : isFull code = true) : mapping? code = none := by
  by_contra hmapped
  obtain ⟨codes, hcodes⟩ := Option.ne_none_iff_exists'.mp hmapped
  obtain ⟨block, hblock, hrow⟩ := exists_row_of_mapping? hcodes
  have hbit : allRowBits.testBit code = true := testBit_blocks hblock hrow
  rw [isFull, hbit, Bool.not_true, Bool.and_false] at h
  cases h

theorem mapping?_hangulLetter {code : Nat} (hlow : 0x1100 ≤ code) (hhigh : code < 0x1200) :
    mapping? code = none := by
  by_contra hmapped
  obtain ⟨codes, hcodes⟩ := Option.ne_none_iff_exists'.mp hmapped
  have hrange := (Bool.and_eq_true_iff.mp (isFullRow_of_mapping? hcodes)).1
  simp only [Bool.or_eq_true, Nat.blt_eq, Nat.ble_eq] at hrange
  omega

end Table

theorem decompose_ofNat {code : Nat} (hvalid : Nat.isValidChar code)
    (hhangul : code < hangulBase ∨ hangulBase + hangulCount ≤ code) (hnone : mapping? code = none) :
    decompose (Char.ofNat code) = [Char.ofNat code] := by
  have hcode : (Char.ofNat code).toNat = code := by
    rw [Char.ofNat, dif_pos hvalid]
    rfl
  rw [decompose, hcode, if_neg (by omega), hnone]

theorem decompose_of_isFull {code : Nat} (h : isFull code = true) :
    decompose (Char.ofNat code) = [Char.ofNat code] := by
  have hrange := (Bool.and_eq_true_iff.mp h).1
  simp only [Bool.or_eq_true, Bool.and_eq_true, Nat.blt_eq] at hrange
  have hend : hangulBase + hangulCount = 0xD7A4 := rfl
  have hbase : hangulBase = 0xAC00 := rfl
  refine decompose_ofNat ?_ (by omega) (mapping?_of_isFull h)
  rw [Nat.isValidChar]
  omega

/-- A Hangul letter stands for itself. -/
theorem decompose_hangulLetter {code : Nat} (hlow : 0x1100 ≤ code) (hhigh : code < 0x1200) :
    decompose (Char.ofNat code) = [Char.ofNat code] := by
  refine decompose_ofNat (Or.inl ?_) (Or.inl ?_) (mapping?_hangulLetter hlow hhigh)
  · omega
  · exact Nat.lt_of_lt_of_le hhigh (by decide)

theorem decompose_of_mem_hangulLetters {index : Nat} (hindex : index < hangulCount)
    (h : d ∈ hangulLetters index) : decompose d = [d] := by
  have hcount : index < 11172 := hindex
  have hletter : d = Char.ofNat (0x1100 + index / 588) ∨
      d = Char.ofNat (0x1161 + index % 588 / 28) ∨
      d = Char.ofNat (0x11A7 + index % 28) := by
    rw [hangulLetters] at h
    split at h
    · simp only [List.mem_cons, List.not_mem_nil, or_false] at h
      rcases h with h | h
      · exact .inl h
      · exact .inr (.inl h)
    · simpa using h
  rcases hletter with rfl | rfl | rfl
  · exact decompose_hangulLetter (by omega) (by omega)
  · exact decompose_hangulLetter (by omega) (by omega)
  · exact decompose_hangulLetter (by omega) (by omega)

/-- What a character decomposes into decomposes no further. -/
theorem decompose_of_mem_decompose (h : d ∈ decompose c) : decompose d = [d] := by
  rw [decompose] at h
  split at h
  · next hhangul => exact decompose_of_mem_hangulLetters (by omega) h
  · next hhangul =>
    split at h
    · next codes hcodes =>
      obtain ⟨code, hcode, rfl⟩ := List.mem_map.mp h
      have hfull := (Bool.and_eq_true_iff.mp (isFullRow_of_mapping? hcodes)).2
      exact decompose_of_isFull (List.all_eq_true.mp hfull code hcode)
    · next hnone =>
      rw [List.mem_singleton] at h
      rw [h, decompose, if_neg hhangul, hnone]

/-- What is left of a text stands for itself. -/
theorem isFolded_of_mem_stripMarks (h : c ∈ stripMarks cs) : isFolded c = true := by
  obtain ⟨hmem, hmark⟩ := List.mem_filter.mp h
  obtain ⟨d, -, hd⟩ := List.mem_flatMap.mp ((reorder_perm _).mem_iff.mp hmem)
  exact isFolded_iff.mpr ⟨decompose_of_mem_decompose hd, by simpa using hmark⟩

section Ascii

/-- The tables start above ASCII. -/
theorem tables_above_ascii : (∀ b ∈ mappingBlocks, 0x80 ≤ b.first) ∧
    (∀ r ∈ classRanges, 0x80 ≤ r.1) ∧ ∀ r ∈ markRanges, 0x80 ≤ r.1 := by
  decide +kernel

variable (hascii : c.toNat < 0x80)

include hascii

theorem decompose_of_ascii : decompose c = [c] := by
  have hnone : mapping? c.toNat = none := by
    have hfind : mappingBlocks.find? (fun b => b.first ≤ c.toNat && c.toNat ≤ b.last) = none := by
      rw [List.find?_eq_none]
      intro block hblock
      have := tables_above_ascii.1 block hblock
      simp only [Bool.and_eq_true, decide_eq_true_eq, not_and]
      omega
    rw [mapping?, hfind]
  have hbase : hangulBase = 0xAC00 := rfl
  rw [decompose, if_neg (by omega), hnone]

theorem combiningClass_of_ascii : combiningClass c = 0 := by
  have hfind : classRanges.find? (fun r => r.1 ≤ c.toNat && c.toNat ≤ r.2.1) = none := by
    rw [List.find?_eq_none]
    intro range hrange
    have := tables_above_ascii.2.1 range hrange
    simp only [Bool.and_eq_true, decide_eq_true_eq, not_and]
    omega
  rw [combiningClass, hfind]

theorem isFolded_of_ascii : isFolded c = true := by
  refine isFolded_iff.mpr ⟨decompose_of_ascii hascii, ?_⟩
  by_contra hmark
  obtain ⟨range, hrange, hlow, -⟩ := inRanges_iff.mp (eq_true_of_ne_false hmark)
  have := tables_above_ascii.2.2 range hrange
  omega

end Ascii

/-- Nothing is moved past a character of class zero. -/
theorem reorder_append_cons (hclass : combiningClass c = 0) (xs ys : List Char) :
    reorder (xs ++ c :: ys) = reorder xs ++ c :: reorder ys := by
  have hplace : ∀ (d : Char) (zs : List Char),
      place d (zs ++ c :: reorder ys) = place d zs ++ c :: reorder ys := by
    intro d zs
    induction zs with
    | nil => simp [place, hclass]
    | cons z zs ih =>
      rw [List.cons_append, place, place, ih]
      split <;> rfl
  induction xs with
  | nil => exact place_of_class_zero hclass _
  | cons d xs ih => rw [List.cons_append, reorder, reorder, ih, hplace]

/-- A character of class zero that stands for itself keeps the texts on its two sides apart. -/
theorem stripMarks_append_cons (hfolded : isFolded c = true) (hclass : combiningClass c = 0)
    (xs ys : List Char) :
    stripMarks (xs ++ c :: ys) = stripMarks xs ++ c :: stripMarks ys := by
  obtain ⟨hself, hmark⟩ := isFolded_iff.mp hfolded
  rw [stripMarks, canonical, List.flatMap_append, List.flatMap_cons, hself, List.singleton_append,
    reorder_append_cons hclass, List.filter_append, List.filter_cons_of_pos (by simp [hmark])]
  rfl

theorem flatMap_decompose (h : ∀ c ∈ cs, isFolded c = true) : cs.flatMap decompose = cs := by
  induction cs with
  | nil => rfl
  | cons c cs ih =>
    obtain ⟨hc, hcs⟩ := List.forall_mem_cons.mp h
    rw [List.flatMap_cons, (isFolded_iff.mp hc).1, ih hcs]
    rfl

/-- A text whose classes never fall is in canonical order. -/
theorem reorder_of_ordered (h : cs.IsChain Ordered) : reorder cs = cs := by
  induction cs with
  | nil => rfl
  | cons c cs ih =>
    rw [reorder, ih h.tail]
    cases cs with
    | nil => rfl
    | cons d cs =>
      have hnext : Ordered c d := h.rel
      rw [place, if_neg]
      rcases hnext with hzero | hle <;> omega

theorem stripMarks_of_folded (h : ∀ c ∈ cs, isFolded c = true) : stripMarks cs = reorder cs := by
  rw [stripMarks, canonical, flatMap_decompose h, List.filter_eq_self]
  intro c hc
  have hfolded := isFolded_iff.mp (h c ((reorder_perm cs).mem_iff.mp hc))
  simp [hfolded.2]

/-- Folding leaves a text of characters that stand for themselves, if no class falls. -/
theorem stripMarks_eq_self (h : ∀ c ∈ cs, isFolded c = true) (hordered : cs.IsChain Ordered) :
    stripMarks cs = cs := by
  rw [stripMarks_of_folded h, reorder_of_ordered hordered]

/-- ASCII texts have no accents. -/
theorem stripMarks_of_ascii (h : ∀ c ∈ cs, c.toNat < 0x80) : stripMarks cs = cs := by
  refine stripMarks_eq_self (fun c hc => isFolded_of_ascii (h c hc)) ?_
  refine (List.pairwise_of_forall_mem_list fun c _ d hd => ?_).isChain
  exact .inl (combiningClass_of_ascii (h d hd))

end ReleaseNames.Text
