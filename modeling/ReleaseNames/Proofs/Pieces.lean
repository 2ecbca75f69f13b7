import Mathlib.Data.List.DropRight
import ReleaseNames.Text.SafeName

/-!
# Texts cut into pieces

Replacing every run of rejected characters by a text of rejected characters, and
then trimming its characters from both ends, leaves the pieces between the runs
with one such text between any two of them. So the result is empty or a row of
non-empty blocks, and what the blocks hold is what is not rejected, in order.
-/

namespace ReleaseNames.Text

variable {p : Char → Bool} {c r : Char} {cs replacement : List Char}

/-- One or more non-empty blocks of characters of a class, with a separator between any two. -/
def InBlocks (keep : Char → Bool) (separator : Char) (cs : List Char) : Prop :=
  ∃ blocks : List (List Char), blocks ≠ [] ∧
    (∀ block ∈ blocks, block ≠ [] ∧ ∀ c ∈ block, keep c = true) ∧
      cs = [separator].intercalate blocks

theorem pieces_nil (p : Char → Bool) : pieces p [] = [] := by
  simp [pieces]

theorem pieces_cons_of_reject {c : Char} (hc : p c = true) (cs : List Char) :
    pieces p (c :: cs) = pieces p cs := by
  simp [pieces, List.splitOnP_cons_eq_if_modifyHead, hc]

theorem pieces_of_keep {block : List Char} (hne : block ≠ []) (hkeep : ∀ c ∈ block, p c = false) :
    pieces p block = [block] := by
  rw [pieces, List.splitOnP_eq_singleton fun c hc => by simpa using hkeep c hc]
  simpa using hne

/-- A rejected character ends a piece and belongs to none. -/
theorem pieces_append_reject {c : Char} (hc : p c = true) (xs ys : List Char) :
    pieces p (xs ++ c :: ys) = pieces p xs ++ pieces p ys := by
  rw [pieces, List.splitOnP_append_cons xs ys hc, List.filter_append]
  rfl

theorem pieces_append_cons {block : List Char} (hne : block ≠ [])
    (hkeep : ∀ c ∈ block, p c = false) {c : Char} (hc : p c = true) (cs : List Char) :
    pieces p (block ++ c :: cs) = block :: pieces p cs := by
  rw [pieces_append_reject hc, pieces_of_keep hne hkeep, List.singleton_append]

theorem pieces_append_of_reject {run : List Char} (hrun : ∀ c ∈ run, p c = true)
    (cs : List Char) : pieces p (run ++ cs) = pieces p cs := by
  induction run with
  | nil => rfl
  | cons c run ih =>
    obtain ⟨hc, hrun⟩ := List.forall_mem_cons.mp hrun
    rw [List.cons_append, pieces_cons_of_reject hc, ih hrun]

/-- Joining blocks of kept characters by rejected ones, the pieces are the blocks. -/
theorem pieces_intercalate (hne : replacement ≠ []) (hr : ∀ c ∈ replacement, p c = true)
    {blocks : List (List Char)} (hblocks : ∀ b ∈ blocks, b ≠ [] ∧ ∀ c ∈ b, p c = false) :
    pieces p (replacement.intercalate blocks) = blocks := by
  induction blocks with
  | nil => exact pieces_nil p
  | cons block rest ih =>
    obtain ⟨⟨hblock, hkeep⟩, hrest⟩ := List.forall_mem_cons.mp hblocks
    cases rest with
    | nil =>
      rw [List.intercalate_singleton]
      exact pieces_of_keep hblock hkeep
    | cons next rest =>
      obtain ⟨c, run, rfl⟩ := List.exists_cons_of_ne_nil hne
      obtain ⟨hc, hrun⟩ := List.forall_mem_cons.mp hr
      rw [List.intercalate_cons_cons, List.append_assoc, List.cons_append,
        pieces_append_cons hblock hkeep hc, pieces_append_of_reject hrun, ih hrest]

theorem not_mem_of_mem_splitOnP {cs block : List Char} (h : block ∈ cs.splitOnP p) :
    ∀ c ∈ block, p c = false := by
  induction cs generalizing block with
  | nil =>
    obtain rfl : block = [] := by simpa using h
    simp
  | cons c cs ih =>
    rw [List.splitOnP_cons_eq_if_modifyHead] at h
    split at h
    · rcases List.mem_cons.mp h with rfl | h
      · simp
      · exact ih h
    · next hc =>
      obtain ⟨first, rest, hsplit⟩ := List.exists_cons_of_ne_nil (List.splitOnP_ne_nil p cs)
      rw [hsplit] at h ih
      rcases List.mem_cons.mp h with rfl | h
      · exact List.forall_mem_cons.mpr ⟨eq_false_of_ne_true hc, ih List.mem_cons_self⟩
      · exact ih (List.mem_cons_of_mem first h)

theorem of_mem_pieces {cs block : List Char} (h : block ∈ pieces p cs) :
    block ≠ [] ∧ ∀ c ∈ block, p c = false := by
  obtain ⟨hmem, hne⟩ := List.mem_filter.mp h
  exact ⟨by simpa using hne, not_mem_of_mem_splitOnP hmem⟩

/-- The pieces hold what is kept, in order. -/
theorem flatten_pieces (p : Char → Bool) (cs : List Char) :
    (pieces p cs).flatten = cs.filter fun c => !p c := by
  rw [pieces, List.flatten_filter_not_isEmpty]
  induction cs with
  | nil => rfl
  | cons c cs ih =>
    rw [List.splitOnP_cons_eq_if_modifyHead]
    cases hc : p c with
    | true => simpa [hc] using ih
    | false =>
      obtain ⟨first, rest, hsplit⟩ := List.exists_cons_of_ne_nil (List.splitOnP_ne_nil p cs)
      rw [hsplit] at ih ⊢
      simpa [hc] using ih

theorem mem_of_mem_pieces {block : List Char} (h : block ∈ pieces p cs) (hc : c ∈ block) :
    c ∈ cs := by
  have hmem : c ∈ (pieces p cs).flatten := List.mem_flatten.mpr ⟨block, h, hc⟩
  rw [flatten_pieces] at hmem
  exact (List.mem_filter.mp hmem).1

theorem pieces_eq_nil_iff : pieces p cs = [] ↔ ∀ c ∈ cs, p c = true := by
  constructor
  · intro h c hc
    by_contra hkept
    have hmem : c ∈ (pieces p cs).flatten := by
      rw [flatten_pieces, List.mem_filter]
      exact ⟨hc, by simpa using hkept⟩
    rw [h] at hmem
    cases hmem
  · intro h
    rw [← List.append_nil cs, pieces_append_of_reject h, pieces_nil]

theorem inBlocks_pieces {keep : Char → Bool} {cs : List Char}
    (h : [r].intercalate (pieces (fun c => !keep c) cs) ≠ []) :
    InBlocks keep r ([r].intercalate (pieces (fun c => !keep c) cs)) := by
  refine ⟨pieces (fun c => !keep c) cs, ?_, ?_, rfl⟩
  · intro hnil
    exact h (by rw [hnil]; rfl)
  · intro block hblock
    obtain ⟨hne, hkeep⟩ := of_mem_pieces hblock
    exact ⟨hne, fun c hc => by simpa using hkeep c hc⟩

theorem trimWhere_eq_rdropWhile (p : Char → Bool) (cs : List Char) :
    trimWhere p cs = (cs.dropWhile p).rdropWhile p :=
  rfl

theorem rdropWhile_append (xs ys : List Char) :
    (xs ++ ys).rdropWhile p = if ys.rdropWhile p = [] then xs.rdropWhile p
      else xs ++ ys.rdropWhile p := by
  simp only [List.rdropWhile, List.reverse_append, List.dropWhile_append, List.isEmpty_iff,
    List.reverse_eq_nil_iff]
  split <;> simp

theorem rdropWhile_of_keep {block : List Char} (hkeep : ∀ c ∈ block, p c = false) :
    block.rdropWhile p = block := by
  rw [List.rdropWhile_eq_self_iff]
  intro hne
  simp [hkeep _ (List.getLast_mem hne)]

theorem mem_of_mem_trimWhere (h : c ∈ trimWhere p cs) : c ∈ cs := by
  rw [trimWhere_eq_rdropWhile] at h
  exact (List.dropWhile_suffix p).subset ((List.rdropWhile_prefix p _).subset h)

theorem head?_trimWhere (h : (trimWhere p cs).head? = some c) : p c = false := by
  rw [trimWhere_eq_rdropWhile] at h
  obtain ⟨tail, htail⟩ := List.rdropWhile_prefix p (cs.dropWhile p)
  have hhead : (cs.dropWhile p).head? = some c := by
    rw [← htail, List.head?_append, h]
    rfl
  have hkept := List.head?_dropWhile_not p cs
  rw [hhead] at hkept
  exact hkept

theorem getLast?_trimWhere (h : (trimWhere p cs).getLast? = some c) : p c = false := by
  rw [trimWhere_eq_rdropWhile] at h
  have hne : (cs.dropWhile p).rdropWhile p ≠ [] := by
    intro hnil
    rw [hnil] at h
    cases h
  rw [List.getLast?_eq_some_getLast hne] at h
  obtain rfl := Option.some.inj h
  exact eq_false_of_ne_true (List.rdropWhile_last_not p _ hne)

section Trimmed

variable {keep : Char → Bool} (htrim : ∀ c, p c = true → keep c = false)

include htrim

theorem filter_dropWhile (cs : List Char) : (cs.dropWhile p).filter keep = cs.filter keep := by
  induction cs with
  | nil => rfl
  | cons c cs ih =>
    rw [List.dropWhile_cons]
    split
    · next hc => rw [ih, List.filter_cons_of_neg (by simp [htrim c hc])]
    · rfl

theorem filter_rdropWhile (cs : List Char) : (cs.rdropWhile p).filter keep = cs.filter keep := by
  rw [List.rdropWhile, List.filter_reverse, filter_dropWhile htrim, List.filter_reverse,
    List.reverse_reverse]

/-- Trimming loses nothing that is kept. -/
theorem filter_trimWhere (cs : List Char) : (trimWhere p cs).filter keep = cs.filter keep := by
  rw [trimWhere_eq_rdropWhile, filter_rdropWhile htrim, filter_dropWhile htrim]

end Trimmed

theorem dropWhile_append_cons (hc : p c = false) (xs ys : List Char) :
    (xs ++ c :: ys).dropWhile p = xs.dropWhile p ++ c :: ys := by
  rw [List.dropWhile_append, List.dropWhile_cons_of_neg (by simp [hc])]
  split
  · next hempty =>
    rw [List.isEmpty_iff.mp hempty]
    rfl
  · rfl

theorem rdropWhile_append_cons (hc : p c = false) (xs ys : List Char) :
    (xs ++ c :: ys).rdropWhile p = xs ++ c :: ys.rdropWhile p := by
  have hreverse : (xs ++ c :: ys).reverse = ys.reverse ++ c :: xs.reverse := by simp
  rw [List.rdropWhile, hreverse, dropWhile_append_cons hc]
  simp [List.rdropWhile]

/-- What stands between two characters that are not trimmed stays as it is. -/
theorem trimWhere_append_cons {d : Char} (hc : p c = false) (hd : p d = false)
    (xs ys zs : List Char) :
    trimWhere p (xs ++ c :: (ys ++ d :: zs)) =
      xs.dropWhile p ++ c :: (ys ++ d :: zs.rdropWhile p) := by
  have hassoc : ∀ us : List Char, us ++ c :: (ys ++ d :: zs) = (us ++ c :: ys) ++ d :: zs := by
    simp
  rw [trimWhere_eq_rdropWhile, dropWhile_append_cons hc, hassoc, rdropWhile_append_cons hd]
  simp

/-- Behind a front, a text whose ends are not trimmed stays as it is. -/
theorem trimWhere_append (hne : cs ≠ []) (hhead : ∀ c, cs.head? = some c → p c = false)
    (hlast : ∀ c, cs.getLast? = some c → p c = false) (front : List Char) :
    trimWhere p (front ++ cs) = front.dropWhile p ++ cs := by
  have hend : cs.rdropWhile p = cs := by
    rw [List.rdropWhile_eq_self_iff]
    intro _
    simp [hlast _ (List.getLast?_eq_some_getLast hne)]
  obtain ⟨first, rest, rfl⟩ := List.exists_cons_of_ne_nil hne
  rw [trimWhere_eq_rdropWhile, dropWhile_append_cons (hhead first rfl), rdropWhile_append, hend,
    if_neg hne]

theorem trimWhere_eq_self (hhead : ∀ c, cs.head? = some c → p c = false)
    (hlast : ∀ c, cs.getLast? = some c → p c = false) : trimWhere p cs = cs := by
  by_cases hne : cs = []
  · rw [hne, trimWhere_nil]
  · exact trimWhere_append hne hhead hlast []

theorem trimWhere_trimWhere (p : Char → Bool) (cs : List Char) :
    trimWhere p (trimWhere p cs) = trimWhere p cs :=
  trimWhere_eq_self (fun _ => head?_trimWhere) (fun _ => getLast?_trimWhere)

theorem trimWhere_eq_nil (h : ∀ c ∈ cs, p c = true) : trimWhere p cs = [] := by
  rw [trimWhere_eq_rdropWhile, List.dropWhile_eq_nil_iff.mpr h]
  rfl

theorem trimWhere_eq_nil_iff : trimWhere p cs = [] ↔ ∀ c ∈ cs, p c = true := by
  refine ⟨fun h => ?_, trimWhere_eq_nil⟩
  rw [trimWhere_eq_rdropWhile, List.rdropWhile_eq_nil_iff] at h
  rw [← List.dropWhile_eq_nil_iff]
  by_contra hne
  have hhead := List.head_dropWhile_not p hne
  rw [h _ (List.head_mem hne)] at hhead
  cases hhead

theorem of_mem_replaceRuns {replacement : List Char} {inRun : Bool}
    (h : c ∈ replaceRuns p replacement inRun cs) : (c ∈ cs ∧ p c = false) ∨ c ∈ replacement := by
  induction cs generalizing inRun with
  | nil => cases h
  | cons d cs ih =>
    have hrest : ∀ {inRun}, c ∈ replaceRuns p replacement inRun cs →
        (c ∈ d :: cs ∧ p c = false) ∨ c ∈ replacement := fun h =>
      (ih h).imp_left fun hkept => ⟨List.mem_cons_of_mem d hkept.1, hkept.2⟩
    rw [replaceRuns_cons] at h
    split at h
    · split at h
      · exact hrest h
      · rcases List.mem_append.mp h with h | h
        · exact .inr h
        · exact hrest h
    · next hd =>
      rcases List.mem_cons.mp h with rfl | h
      · exact .inl ⟨List.mem_cons_self, eq_false_of_ne_true hd⟩
      · exact hrest h

theorem replaceRuns_of_keep (h : ∀ c ∈ cs, p c = false) (inRun : Bool) :
    replaceRuns p replacement inRun cs = cs := by
  induction cs generalizing inRun with
  | nil => rfl
  | cons c cs ih =>
    obtain ⟨hc, hcs⟩ := List.forall_mem_cons.mp h
    rw [replaceRuns_cons, if_neg (by simp [hc]), ih hcs]

/-- A kept character ends a run, so what follows it is replaced on its own. -/
theorem replaceRuns_append_cons (hc : p c = false) (inRun : Bool) (xs ys : List Char) :
    replaceRuns p replacement inRun (xs ++ c :: ys) =
      replaceRuns p replacement inRun xs ++ c :: replaceRuns p replacement false ys := by
  induction xs generalizing inRun with
  | nil => simp [replaceRuns_nil, replaceRuns_cons, hc]
  | cons d xs ih =>
    rw [List.cons_append, replaceRuns_cons, replaceRuns_cons]
    split
    · split
      · exact ih true
      · rw [ih true, List.append_assoc]
    · rw [ih false, List.cons_append]

theorem replaceRuns_of_reject (h : ∀ c ∈ cs, p c = true) :
    replaceRuns p replacement false cs = if cs = [] then [] else replacement := by
  have hinside : ∀ run : List Char, (∀ c ∈ run, p c = true) →
      replaceRuns p replacement true run = [] := by
    intro run hrun
    induction run with
    | nil => rfl
    | cons c run ih =>
      obtain ⟨hc, hrest⟩ := List.forall_mem_cons.mp hrun
      rw [replaceRuns_cons, if_pos hc, if_pos rfl, ih hrest]
  cases cs with
  | nil => rfl
  | cons c cs =>
    obtain ⟨hc, hrest⟩ := List.forall_mem_cons.mp h
    rw [replaceRuns_cons, if_pos hc, if_neg Bool.false_ne_true, hinside cs hrest, List.append_nil,
      if_neg (List.cons_ne_nil _ _)]

/-- Replacing runs by rejected characters loses and adds nothing that is kept. -/
theorem filter_replaceRuns (hr : ∀ c ∈ replacement, p c = true) (inRun : Bool) (cs : List Char) :
    (replaceRuns p replacement inRun cs).filter (fun c => !p c) = cs.filter fun c => !p c := by
  have hnone : replacement.filter (fun c => !p c) = [] :=
    List.filter_eq_nil_iff.mpr fun c hc => by simp [hr c hc]
  induction cs generalizing inRun with
  | nil => rfl
  | cons c cs ih =>
    rw [replaceRuns_cons]
    split
    · next hc =>
      rw [List.filter_cons_of_neg (by simp [hc])]
      split
      · exact ih true
      · rw [List.filter_append, hnone, List.nil_append, ih true]
    · next hc =>
      rw [List.filter_cons_of_pos (by simp [hc]), List.filter_cons_of_pos (by simp [hc]), ih]

theorem countP_le_length_replaceRuns (p : Char → Bool) (replacement : List Char) (inRun : Bool)
    (cs : List Char) :
    cs.countP (fun c => !p c) ≤ (replaceRuns p replacement inRun cs).length := by
  induction cs generalizing inRun with
  | nil => exact Nat.zero_le _
  | cons c cs ih =>
    rw [replaceRuns_cons]
    split
    · next hc =>
      rw [List.countP_cons_of_neg (by simp [hc])]
      split
      · exact ih true
      · rw [List.length_append]
        exact Nat.le_add_left_of_le (ih true)
    · next hc =>
      rw [List.countP_cons_of_pos (by simpa using hc), List.length_cons]
      exact Nat.succ_le_succ (ih false)

/-- What is kept is written, and the first run adds the replacement to it. -/
theorem add_countP_le_length_replaceRuns (hreject : ∃ c ∈ cs, p c = true) :
    replacement.length + cs.countP (fun c => !p c) ≤
      (replaceRuns p replacement false cs).length := by
  induction cs with
  | nil => simp at hreject
  | cons c cs ih =>
    rw [replaceRuns_cons]
    split
    · next hc =>
      rw [List.countP_cons_of_neg (by simp [hc]), if_neg Bool.false_ne_true, List.length_append]
      exact Nat.add_le_add_left (countP_le_length_replaceRuns p replacement true cs) _
    · next hc =>
      obtain ⟨d, hd, hreject⟩ := hreject
      rcases List.mem_cons.mp hd with rfl | hd
      · exact absurd hreject hc
      · have hrest := ih ⟨d, hd, hreject⟩
        rw [List.countP_cons_of_pos (by simpa using hc), List.length_cons]
        omega

theorem contains_of_keep (hr : ∀ c ∈ replacement, p c = true) (hc : p c = false) :
    replacement.contains c = false := by
  rw [List.contains_eq_mem, decide_eq_false_iff_not]
  intro hmem
  rw [hr c hmem] at hc
  cases hc

/-- Inside a run nothing is written until the run ends, so the text starts with a kept character. -/
theorem dropWhile_replaceRuns (hr : ∀ c ∈ replacement, p c = true) (cs : List Char) :
    (replaceRuns p replacement false cs).dropWhile (fun c => replacement.contains c) =
      replaceRuns p replacement true cs := by
  have hinside : ∀ cs, (replaceRuns p replacement true cs).dropWhile
      (fun c => replacement.contains c) = replaceRuns p replacement true cs := by
    intro cs
    induction cs with
    | nil => rfl
    | cons c cs ih =>
      rw [replaceRuns_cons]
      split
      · exact ih
      · next hc => simp only [List.dropWhile_cons, contains_of_keep hr (eq_false_of_ne_true hc),
          Bool.false_eq_true, if_false]
  cases cs with
  | nil => rfl
  | cons c cs =>
    rw [replaceRuns_cons, replaceRuns_cons]
    split
    · rw [if_neg Bool.false_ne_true, if_pos rfl,
        List.dropWhile_append_of_pos fun c hc => by simpa using hc]
      exact hinside cs
    · next hc => simp only [List.dropWhile_cons, contains_of_keep hr (eq_false_of_ne_true hc),
        Bool.false_eq_true, if_false]

theorem intercalate_ne_nil {block : List Char} (hne : block ≠ []) (separator : List Char)
    (rest : List (List Char)) : separator.intercalate (block :: rest) ≠ [] := by
  cases rest <;> simp [List.intercalate_cons_cons, hne]

theorem of_mem_intercalate {separator : List Char} {blocks : List (List Char)}
    (h : c ∈ separator.intercalate blocks) : (∃ block ∈ blocks, c ∈ block) ∨ c ∈ separator := by
  induction blocks with
  | nil => simp at h
  | cons block rest ih =>
    cases rest with
    | nil => exact .inl ⟨block, List.mem_cons_self, by simpa using h⟩
    | cons next rest =>
      rw [List.intercalate_cons_cons, List.append_assoc, List.mem_append, List.mem_append] at h
      rcases h with hblock | hseparator | hrest
      · exact .inl ⟨block, List.mem_cons_self, hblock⟩
      · exact .inr hseparator
      · exact (ih hrest).imp_left fun ⟨b, hb, hmem⟩ => ⟨b, List.mem_cons_of_mem block hb, hmem⟩

theorem intercalate_eq_nil_iff {separator : List Char} {blocks : List (List Char)}
    (h : ∀ block ∈ blocks, block ≠ []) : separator.intercalate blocks = [] ↔ blocks = [] := by
  cases blocks with
  | nil => exact iff_of_true rfl rfl
  | cons block rest =>
    exact iff_of_false (intercalate_ne_nil (h block List.mem_cons_self) separator rest)
      (List.cons_ne_nil block rest)

/-- A separator after a block is dropped from the end exactly if no block comes after it. -/
theorem rdropWhile_block {block : List Char} {blocks : List (List Char)}
    (hkeep : ∀ c ∈ block, replacement.contains c = false) (hblocks : ∀ b ∈ blocks, b ≠ [])
    (h : cs.rdropWhile (fun c => replacement.contains c) = replacement.intercalate blocks) :
    (block ++ (replacement ++ cs)).rdropWhile (fun c => replacement.contains c) =
      replacement.intercalate (block :: blocks) := by
  have hall : replacement.rdropWhile (fun c => replacement.contains c) = [] :=
    List.rdropWhile_eq_nil_iff.mpr fun c hc => by simpa using hc
  rw [rdropWhile_append, rdropWhile_append replacement cs, h, hall, rdropWhile_of_keep hkeep]
  cases blocks with
  | nil => simp
  | cons next rest =>
    have hnext := intercalate_ne_nil (hblocks next List.mem_cons_self) replacement rest
    rw [if_neg hnext, if_neg (by simp [hnext]), List.intercalate_cons_cons, List.append_assoc]

/-- What is written of a text, up to separators at its end. -/
theorem rdropWhile_replaceRuns (hr : ∀ c ∈ replacement, p c = true) (cs : List Char) :
    (replaceRuns p replacement true cs).rdropWhile (fun c => replacement.contains c) =
      replacement.intercalate (pieces p cs) := by
  have hne : ∀ {block : List Char}, (∀ c ∈ block, p c = false) →
      ∀ c ∈ block, replacement.contains c = false :=
    fun hkeep c hc => contains_of_keep hr (hkeep c hc)
  -- The other state of the reader is inside a block, the start of which has been written already.
  suffices hboth : (replaceRuns p replacement true cs).rdropWhile
      (fun c => replacement.contains c) =
      replacement.intercalate (pieces p cs) ∧ ∀ block : List Char, block ≠ [] →
        (∀ c ∈ block, p c = false) →
          (block ++ replaceRuns p replacement false cs).rdropWhile
              (fun c => replacement.contains c) =
            replacement.intercalate (pieces p (block ++ cs)) from hboth.1
  induction cs with
  | nil =>
    refine ⟨by simp [replaceRuns_nil, pieces_nil], fun block hblock hkeep => ?_⟩
    rw [replaceRuns_nil, List.append_nil, pieces_of_keep hblock hkeep,
      rdropWhile_of_keep (hne hkeep), List.intercalate_singleton]
  | cons c cs ih =>
    obtain ⟨hrun, hinside⟩ := ih
    cases hc : p c with
    | true =>
      refine ⟨?_, fun block hblock hkeep => ?_⟩
      · rw [pieces_cons_of_reject hc, replaceRuns_cons, if_pos hc]
        exact hrun
      · rw [pieces_append_cons hblock hkeep hc, replaceRuns_cons, if_pos hc]
        exact rdropWhile_block (hne hkeep) (fun b hb => (of_mem_pieces hb).1) hrun
    | false =>
      have hreplace : ∀ inRun, replaceRuns p replacement inRun (c :: cs) =
          c :: replaceRuns p replacement false cs := fun inRun => by
        rw [replaceRuns_cons, if_neg (by simp [hc])]
      refine ⟨?_, fun block hblock hkeep => ?_⟩
      · rw [hreplace]
        exact hinside [c] (by simp) (by simpa using hc)
      · have hlonger := hinside (block ++ [c]) (by simp)
          (List.forall_mem_append.mpr ⟨hkeep, by simpa using hc⟩)
        rw [List.append_assoc, List.append_assoc] at hlonger
        rw [hreplace]
        exact hlonger

/-- Replacing runs by rejected characters and trimming these joins the pieces. -/
theorem trimWhere_replaceRuns (hr : ∀ c ∈ replacement, p c = true) (cs : List Char) :
    trimWhere (fun c => replacement.contains c) (replaceRuns p replacement false cs) =
      replacement.intercalate (pieces p cs) := by
  rw [trimWhere_eq_rdropWhile, dropWhile_replaceRuns hr, rdropWhile_replaceRuns hr]

end ReleaseNames.Text
