import Mathlib.Data.List.SplitBy
import ReleaseNames.Proofs.Overflow

/-!
# What compact notation keeps

Compact notation writes the maximal runs of consecutive numbers by their ends. Reading
it back is splitting at the commas and counting from the first number of a piece to the
last. Consecutive is meant among natural numbers: where the comparison of two entries
takes a successor that does not fit a word, nothing is written at all. In all other
lists the numbers that are read are the numbers written, and runs of pipelines make no
others.
-/

namespace ReleaseNames

/-- The second text writes the natural number after the one that the first text writes. -/
def Follows (a b : String) : Prop :=
  ∃ x y, Text.unsigned? a = some x ∧ Text.unsigned? b = some y ∧ y.toNat = x.toNat + 1

/-- A list cut into runs, none of which can go on into the next. -/
structure MaximalRuns (R : String → String → Prop) (texts : List String)
    (runs : List (List String)) : Prop where
  flatten : runs.flatten = texts
  nonempty : [] ∉ runs
  related : ∀ run ∈ runs, run.IsChain R
  maximal : runs.IsChain fun a b => ∃ ha hb, ¬ R (a.getLast ha) (b.head hb)

/-- An entry alone is written as it is, a longer run as its first and its last entry. -/
def WritesRun (run : List String) (text : String) : Prop :=
  run = [text] ∨ ∃ first mid last, run = first :: (mid ++ [last]) ∧ text = first ++ "-" ++ last

namespace Text

/-- The numbers that a piece of compact notation stands for. -/
def expandPiece? (cs : List Char) : Option (List Nat) :=
  match cs.splitOn '-' with
  | [only] => do
    let a ← unsigned? (String.ofList only)
    return [a.toNat]
  | [first, last] => do
    let a ← unsigned? (String.ofList first)
    let b ← unsigned? (String.ofList last)
    return List.range' a.toNat (b.toNat + 1 - a.toNat)
  | _ => none

def expand? (s : String) : Option (List Nat) :=
  ((s.toList.splitOn ',').mapM expandPiece?).map List.flatten

end Text

theorem follows_iff_of_continuesRun {a b : String} {joined : Bool}
    (h : continuesRun a b = .ok joined) : joined = true ↔ Follows a b := by
  cases hx : Text.unsigned? a with
  | none =>
    simp only [continuesRun, hx] at h
    cases h
    simp [Follows, hx]
  | some x =>
    cases hy : Text.unsigned? b with
    | none =>
      simp only [continuesRun, hx, hy] at h
      cases h
      simp [Follows, hy]
    | some y =>
      simp only [continuesRun, hx, hy] at h
      obtain ⟨next, hnext, h⟩ := Outcome.bind_eq_ok.mp h
      cases h
      rw [successor] at hnext
      split at hnext
      · next hfits =>
        cases hnext
        have hsum : (x + 1).toNat = x.toNat + 1 := by
          rw [UInt64.toNat_add]
          exact Nat.mod_eq_of_lt hfits
        rw [beq_iff_eq, ← UInt64.toNat_inj, hsum]
        simp [Follows, hx, hy]
      · cases hnext

namespace MaximalRuns

variable {R : String → String → Prop} {a b : String} {rest : List String}
  {runs : List (List String)}

theorem singleton (R : String → String → Prop) (a : String) : MaximalRuns R [a] [[a]] :=
  ⟨rfl, by simp, by simp, .singleton _⟩

theorem exists_eq_cons (h : MaximalRuns R (b :: rest) runs) :
    ∃ tail later, runs = (b :: tail) :: later := by
  have hflatten := h.flatten
  cases runs with
  | nil => cases hflatten
  | cons run later =>
    cases run with
    | nil => exact absurd List.mem_cons_self h.nonempty
    | cons first tail =>
      cases hflatten
      exact ⟨tail, later, rfl⟩

/-- An entry that is related to the next one goes into its run. -/
theorem join (h : MaximalRuns R (b :: rest) runs) (hab : R a b) :
    MaximalRuns R (a :: b :: rest) (joinRun a runs) := by
  obtain ⟨tail, later, rfl⟩ := h.exists_eq_cons
  obtain ⟨hfirst, hrelated⟩ := List.forall_mem_cons.mp h.related
  constructor
  · exact congrArg (a :: ·) h.flatten
  · simpa [joinRun] using fun hmem => h.nonempty (List.mem_cons_of_mem _ hmem)
  · exact List.forall_mem_cons.mpr ⟨.cons_cons hab hfirst, hrelated⟩
  · have hmaximal := h.maximal
    cases later with
    | nil => exact .singleton _
    | cons run later =>
      obtain ⟨⟨ha, hb, hend⟩, hlater⟩ := List.isChain_cons_cons.mp hmaximal
      refine List.isChain_cons_cons.mpr ⟨⟨List.cons_ne_nil _ _, hb, ?_⟩, hlater⟩
      rwa [List.getLast_cons (List.cons_ne_nil _ _)]

/-- An entry that is not related to the next one is a run of its own. -/
theorem split (h : MaximalRuns R (b :: rest) runs) (hab : ¬ R a b) :
    MaximalRuns R (a :: b :: rest) ([a] :: runs) := by
  obtain ⟨tail, later, rfl⟩ := h.exists_eq_cons
  constructor
  · exact congrArg (a :: ·) h.flatten
  · simpa using h.nonempty
  · exact List.forall_mem_cons.mpr ⟨.singleton a, h.related⟩
  · exact List.isChain_cons_cons.mpr
      ⟨⟨List.cons_ne_nil _ _, List.cons_ne_nil _ _, hab⟩, h.maximal⟩

end MaximalRuns

/-- What is cut, if no comparison overflows, are the maximal runs of consecutive numbers. -/
theorem maximalRuns_of_cutRuns {texts : List String} {runs : List (List String)}
    (h : cutRuns texts = .ok runs) : MaximalRuns Follows texts runs := by
  induction texts generalizing runs with
  | nil =>
    cases h
    exact ⟨rfl, by simp, by simp, .nil⟩
  | cons a rest ih =>
    cases rest with
    | nil =>
      cases h
      exact .singleton Follows a
    | cons b rest =>
      obtain ⟨joined, hjoined, h⟩ := Outcome.bind_eq_ok.mp h
      obtain ⟨later, hlater, h⟩ := Outcome.bind_eq_ok.mp h
      cases h
      have hfollows := follows_iff_of_continuesRun hjoined
      cases joined with
      | true => exact (ih hlater).join (hfollows.mp rfl)
      | false => exact (ih hlater).split fun hab => Bool.false_ne_true (hfollows.mpr hab)

theorem writesRun_writeRun {run : List String} (h : run ≠ []) : WritesRun run (writeRun run) := by
  cases run with
  | nil => exact absurd rfl h
  | cons first rest =>
    cases rest with
    | nil => exact .inl rfl
    | cons next rest =>
      obtain hnil | ⟨mid, last, hlast⟩ := List.eq_nil_or_concat (next :: rest)
      · cases hnil
      · rw [List.concat_eq_append] at hlast
        have hend : rest.getLastD next = last := by
          rw [← List.getLastD_cons (a := first), hlast, List.getLastD_eq_getLast?,
            List.getLast?_concat]
          rfl
        exact .inr ⟨first, mid, last, by rw [hlast], by rw [writeRun, hend]⟩

section Counting

/-- The numbers from the first of a list to its last. -/
def counted : List Nat → List Nat
  | [] => []
  | x :: xs => List.range' x (xs.getLastD x + 1 - x)

variable {x : Nat} {xs : List Nat}

theorem eq_range'_of_isChain (h : (x :: xs).IsChain fun a b => b = a + 1) :
    xs.getLastD x = x + xs.length ∧ x :: xs = List.range' x (xs.length + 1) := by
  induction xs generalizing x with
  | nil => exact ⟨rfl, rfl⟩
  | cons y ys ih =>
    obtain ⟨hnext, hrest⟩ := List.isChain_cons_cons.mp h
    obtain ⟨hlast, hrange⟩ := ih hrest
    rw [List.getLastD_cons, hlast, List.length_cons, List.range'_succ, ← hnext, ← hrange]
    exact ⟨by omega, rfl⟩

theorem counted_of_isChain (h : xs.IsChain fun a b => b = a + 1) : counted xs = xs := by
  cases xs with
  | nil => rfl
  | cons x xs =>
    obtain ⟨hlast, hrange⟩ := eq_range'_of_isChain h
    have hcount : xs.getLastD x + 1 - x = xs.length + 1 := by omega
    rw [counted, hcount, ← hrange]

end Counting

namespace Text

/-- The number that a text writes, or zero. -/
def number (s : String) : Nat :=
  ((unsigned? s).getD 0).toNat

theorem number_of_unsigned? {s : String} {x : UInt64} (h : unsigned? s = some x) :
    number s = x.toNat := by
  rw [number, h]
  rfl

theorem of_mem_of_unsigned? {s : String} {x : UInt64} (h : unsigned? s = some x) {c : Char}
    (hc : c ∈ s.toList) : c = '+' ∨ c.isDigit = true := by
  cases hdigits : unsignedDigits? s with
  | none =>
    rw [unsigned?, hdigits] at h
    cases h
  | some digits =>
    rw [unsignedDigits?] at hdigits
    split at hdigits
    · next rest hplus =>
      rw [hplus] at hc
      split at hdigits
      · next hall =>
        rcases List.mem_cons.mp hc with hc | hc
        · exact .inl hc
        · exact .inr (List.all_eq_true.mp hall.2 c hc)
      · cases hdigits
    · split at hdigits
      · next hall => exact .inr (List.all_eq_true.mp hall.2 c hc)
      · cases hdigits

/-- No text of a number has a comma or a hyphen in it. -/
theorem not_mem_of_unsigned? {s : String} {x : UInt64} (h : unsigned? s = some x) :
    ',' ∉ s.toList ∧ '-' ∉ s.toList := by
  constructor
  · intro hc
    exact absurd (of_mem_of_unsigned? h hc) (by decide)
  · intro hc
    exact absurd (of_mem_of_unsigned? h hc) (by decide)

end Text

theorem Follows.number_eq {a b : String} (h : Follows a b) :
    Text.number b = Text.number a + 1 := by
  obtain ⟨x, y, hx, hy, hnext⟩ := h
  rw [Text.number_of_unsigned? hx, Text.number_of_unsigned? hy, hnext]

namespace Text

variable {run : List String} {text : String}

/-- Splitting at a separator of one character undoes joining by it. -/
theorem splitOn_toList_intercalate {separator : String} {c : Char}
    (hseparator : separator.toList = [c]) {parts : List String} (hne : parts ≠ [])
    (hfree : ∀ part ∈ parts, c ∉ part.toList) :
    (separator.intercalate parts).toList.splitOn c = parts.map String.toList := by
  rw [String.toList_intercalate, hseparator]
  exact List.splitOn_intercalate c (by simpa using hfree) (by simpa using hne)

theorem expandPiece?_of_writesRun (h : WritesRun run text)
    (hparse : ∀ t ∈ run, ∃ x, unsigned? t = some x) :
    expandPiece? text.toList = some (counted (run.map number)) := by
  rcases h with rfl | ⟨first, mid, last, rfl, rfl⟩
  · obtain ⟨x, hx⟩ := hparse text List.mem_cons_self
    have hsplit : ("-".intercalate [text]).toList.splitOn '-' = [text.toList] :=
      splitOn_toList_intercalate rfl (List.cons_ne_nil _ _)
        (List.forall_mem_singleton.mpr (not_mem_of_unsigned? hx).2)
    rw [String.intercalate_singleton] at hsplit
    simp only [expandPiece?, hsplit, String.ofList_toList, hx]
    simp [counted, number_of_unsigned? hx]
  · obtain ⟨x, hx⟩ := hparse first List.mem_cons_self
    obtain ⟨y, hy⟩ := hparse last (by simp)
    have hsplit : ("-".intercalate [first, last]).toList.splitOn '-' =
        [first.toList, last.toList] := by
      refine splitOn_toList_intercalate rfl (List.cons_ne_nil _ _) ?_
      simpa using ⟨(not_mem_of_unsigned? hx).2, (not_mem_of_unsigned? hy).2⟩
    have hjoin : "-".intercalate [first, last] = first ++ "-" ++ last := by
      simp
    rw [hjoin] at hsplit
    simp only [expandPiece?, hsplit, String.ofList_toList, hx, hy]
    simp [counted, number_of_unsigned? hx, number_of_unsigned? hy]

theorem comma_not_mem_of_writesRun (h : WritesRun run text)
    (hparse : ∀ t ∈ run, ∃ x, unsigned? t = some x) : ',' ∉ text.toList := by
  rcases h with rfl | ⟨first, mid, last, rfl, rfl⟩
  · obtain ⟨x, hx⟩ := hparse text List.mem_cons_self
    exact (not_mem_of_unsigned? hx).1
  · obtain ⟨x, hx⟩ := hparse first List.mem_cons_self
    obtain ⟨y, hy⟩ := hparse last (by simp)
    simpa using ⟨(not_mem_of_unsigned? hx).1, (not_mem_of_unsigned? hy).1⟩

/-- What is read from the pieces of several runs. -/
theorem mapM_expandPiece? {runs : List (List String)} {pieces : List String}
    (h : List.Forall₂ WritesRun runs pieces)
    (hparse : ∀ run ∈ runs, ∀ t ∈ run, ∃ x, unsigned? t = some x) :
    (∀ piece ∈ pieces, ',' ∉ piece.toList) ∧ (pieces.map String.toList).mapM expandPiece? =
      some (runs.map fun run => counted (run.map number)) := by
  induction h with
  | nil => exact ⟨by simp, rfl⟩
  | cons hpiece _ ih =>
    obtain ⟨hfirst, hrest⟩ := List.forall_mem_cons.mp hparse
    obtain ⟨hfree, hread⟩ := ih hrest
    refine ⟨List.forall_mem_cons.mpr ⟨comma_not_mem_of_writesRun hpiece hfirst, hfree⟩, ?_⟩
    rw [List.map_cons, List.mapM_cons, expandPiece?_of_writesRun hpiece hfirst, hread]
    rfl

theorem expand?_of_writesRun {runs : List (List String)} {pieces : List String}
    (h : List.Forall₂ WritesRun runs pieces) (hne : runs ≠ [])
    (hparse : ∀ run ∈ runs, ∀ t ∈ run, ∃ x, unsigned? t = some x) :
    expand? (",".intercalate pieces) =
      some (runs.flatMap fun run => counted (run.map number)) := by
  have hpieces : pieces ≠ [] := by
    rintro rfl
    cases h
    exact hne rfl
  obtain ⟨hfree, hread⟩ := mapM_expandPiece? h hparse
  rw [expand?, splitOn_toList_intercalate rfl hpieces hfree, hread, List.flatMap_def]
  rfl

theorem number_of_forall₂ {texts : List String} {values : List UInt64}
    (h : List.Forall₂ (fun text x => unsigned? text = some x) texts values) :
    (∀ t ∈ texts, ∃ x, unsigned? t = some x) ∧ texts.map number = values.map UInt64.toNat := by
  induction h with
  | nil => exact ⟨by simp, rfl⟩
  | cons hx _ ih =>
    obtain ⟨hparse, hnumbers⟩ := ih
    refine ⟨List.forall_mem_cons.mpr ⟨⟨_, hx⟩, hparse⟩, ?_⟩
    rw [List.map_cons, List.map_cons, number_of_unsigned? hx, hnumbers]

end Text

namespace VolumeNumbers

variable {n : VolumeNumbers}

theorem compact_of_overflows (h : n.Overflows) : n.compact = .error .successor :=
  compact_eq_error_iff.mpr h

theorem exists_compact (h : ¬ n.Overflows) : ∃ runs pieces, MaximalRuns Follows n.texts runs ∧
    List.Forall₂ WritesRun runs pieces ∧ n.compact = .ok (",".intercalate pieces) := by
  cases hruns : cutRuns n.texts with
  | error sum =>
    have hover : n.compact = .error sum := by rw [compact, hruns, Outcome.error_bind]
    exact absurd (compact_eq_error_iff.mp hover) h
  | ok runs =>
    have hmaximal := maximalRuns_of_cutRuns hruns
    refine ⟨runs, runs.map writeRun, hmaximal, ?_, by rw [compact, hruns]; rfl⟩
    rw [List.forall₂_map_right_iff, List.forall₂_same]
    exact fun run hrun => writesRun_writeRun (ne_of_mem_of_not_mem hrun hmaximal.nonempty)

/-- Reading what is written gives the numbers. -/
theorem expand?_of_maximalRuns {runs : List (List String)} {pieces : List String}
    (hruns : MaximalRuns Follows n.texts runs) (hpieces : List.Forall₂ WritesRun runs pieces)
    (hne : n.texts ≠ []) (hparse : ∀ t ∈ n.texts, ∃ x, Text.unsigned? t = some x) :
    Text.expand? (",".intercalate pieces) = some (n.texts.map Text.number) := by
  have hflatten := hruns.flatten
  have hsome : runs ≠ [] := by
    rintro rfl
    exact hne hflatten.symm
  have hmem : ∀ run ∈ runs, ∀ t ∈ run, t ∈ n.texts := by
    intro run hrun t ht
    rw [← hflatten]
    exact List.mem_flatten_of_mem hrun ht
  have hcounted : ∀ run ∈ runs, counted (run.map Text.number) = run.map Text.number := by
    intro run hrun
    apply counted_of_isChain
    rw [List.isChain_map]
    exact (hruns.related run hrun).imp fun _ _ => Follows.number_eq
  rw [Text.expand?_of_writesRun hpieces hsome fun run hrun t ht => hparse t (hmem run hrun t ht),
    List.flatMap_congr hcounted, List.flatMap_def, ← List.map_flatten, hflatten]

/-- Compact notation writes the maximal runs of consecutive numbers, and the numbers can be read
back. It fails exactly if two neighbours are numbers and the first is the largest word. -/
theorem compact_expands_iff (n : VolumeNumbers) :
    (n.Overflows → n.compact = .error .successor) ∧
    (¬ n.Overflows → ∃ runs pieces, MaximalRuns Follows n.texts runs ∧
      List.Forall₂ WritesRun runs pieces ∧ n.compact = .ok (",".intercalate pieces)) ∧
    ∀ values : List UInt64, values ≠ [] →
      List.Forall₂ (fun text x => Text.unsigned? text = some x) n.texts values →
        ((∃ s, n.compact = .ok s ∧ Text.expand? s = some (values.map UInt64.toNat)) ↔
          ¬ n.Overflows) := by
  refine ⟨compact_of_overflows, exists_compact, fun values hne hvalues => ?_⟩
  constructor
  · rintro ⟨s, hs, -⟩ hover
    rw [compact_of_overflows hover] at hs
    cases hs
  · intro hfits
    obtain ⟨runs, pieces, hruns, hpieces, hwritten⟩ := exists_compact hfits
    obtain ⟨hparse, hnumbers⟩ := Text.number_of_forall₂ hvalues
    have htexts : n.texts ≠ [] := by
      intro hnil
      rw [hnil] at hvalues
      cases hvalues
      exact hne rfl
    refine ⟨_, hwritten, ?_⟩
    rw [← hnumbers]
    exact expand?_of_maximalRuns hruns hpieces htexts hparse

/-- Padded numbers, a plus sign and a number out of order. -/
theorem compact_expands_iff_padded :
    let n : VolumeNumbers := ⟨["09", "10", "+11", "7"].map fun t => ⟨0, [⟨t, .internal⟩]⟩, true⟩
    let values : List UInt64 := [9, 10, 11, 7]
    values ≠ [] ∧ List.Forall₂ (fun text x => Text.unsigned? text = some x) n.texts values ∧
      ¬ n.Overflows ∧ n.compact = .ok "09-+11,7" ∧
        Text.expand? "09-+11,7" = some (values.map UInt64.toNat) := by
  intro n values
  have hvalues : List.Forall₂ (fun text x => Text.unsigned? text = some x) n.texts values := by
    have htexts : n.texts = ["09", "10", "+11", "7"] := by decide +kernel
    rw [htexts]
    exact .cons (by decide +kernel) (.cons (by decide +kernel) (.cons (by decide +kernel)
      (.cons (by decide +kernel) .nil)))
  have hwritten : n.compact = .ok "09-+11,7" := Outcome.eq_ok_of_toOption (by decide +kernel)
  have hread : Text.expand? "09-+11,7" = some (values.map UInt64.toNat) := by decide +kernel
  have hfits := ((compact_expands_iff n).2.2 values (by decide) hvalues).mp
    ⟨_, hwritten, hread⟩
  exact ⟨by decide, hvalues, hfits, hwritten, hread⟩

/-- The largest word before zero: the two are not consecutive, but nothing is written. -/
theorem compact_not_always_expands :
    ¬ ∀ (n : VolumeNumbers) (values : List UInt64), values ≠ [] →
      List.Forall₂ (fun text x => Text.unsigned? text = some x) n.texts values →
        ∃ s, n.compact = .ok s ∧ Text.expand? s = some (values.map UInt64.toNat) := by
  intro h
  have hvalues : List.Forall₂ (fun text x => Text.unsigned? text = some x)
      (texts ⟨[⟨0, [⟨"18446744073709551615", .internal⟩]⟩, ⟨1, [⟨"0", .internal⟩]⟩], false⟩)
      [18446744073709551615, 0] := by
    have htexts : texts ⟨[⟨0, [⟨"18446744073709551615", .internal⟩]⟩,
        ⟨1, [⟨"0", .internal⟩]⟩], false⟩ = ["18446744073709551615", "0"] := by decide +kernel
    rw [htexts]
    exact .cons (by decide +kernel) (.cons (by decide +kernel) .nil)
  obtain ⟨s, hs, -⟩ := h _ _ (List.cons_ne_nil _ _) hvalues
  have hnothing : (compact ⟨[⟨0, [⟨"18446744073709551615", .internal⟩]⟩,
      ⟨1, [⟨"0", .internal⟩]⟩], false⟩).toOption = none := by decide +kernel
  rw [hs] at hnothing
  cases hnothing

end VolumeNumbers

end ReleaseNames
