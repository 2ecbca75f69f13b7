import Mathlib.Data.List.Forall2
import ReleaseNames.Proofs.Lexeme

/-!
# Texts of sections

The bars of an expression cut its text into the texts of its sections. Each piece
is made of the words that stand between its bars. Conversely texts can be joined
by a bar, because it ends every word in front of it and is no part of one. A bar
in a text may be part of a string, but not if no quote comes after it.
-/

namespace ReleaseNames

def barPositions (text : String) : List Nat :=
  match Lexer.tokenize text with
  | .ok located => (located.filter (·.token = .pipe)).map (·.position)
  | .error _ => []

/-- The pieces of a text that starts at a position. It is cut at the characters at the given
positions, which increase; those characters are left out. -/
def cutAt : List Nat → Nat → List Char → List (List Char)
  | _, _, [] => [[]]
  | cuts, position, c :: cs =>
    if cuts.head? = some position then [] :: cutAt cuts.tail (position + c.utf8Size) cs
    else (cutAt cuts (position + c.utf8Size) cs).modifyHead (c :: ·)

def sectionTexts (text : String) : List String :=
  (cutAt (barPositions text) 0 text.toList).map String.ofList

namespace Token

/-- A word that ends in front of a text ends in front of what the text begins with. -/
theorem EndsBefore.of_append {t : Token} {xs ys : List Char} (h : t.EndsBefore (xs ++ ys)) :
    t.EndsBefore xs := by
  cases xs with
  | nil => exact Lexer.endsBefore_nil t
  | cons c xs => cases t <;> exact h

theorem endsBefore_bar (t : Token) (after : List Char) : t.EndsBefore ('|' :: after) := by
  have hstops : ∀ {p : Char → Bool}, p '|' = false → Lexer.Stops p ('|' :: after) := by
    intro p hp c hc
    cases hc
    exact hp
  cases t with
  | ident => exact hstops (by decide)
  | int => exact ⟨hstops (by decide), by simp⟩
  | decimal => exact hstops (by decide)
  | _ => trivial

theorem EndsBefore.append_bar {t : Token} {xs : List Char} (h : t.EndsBefore xs)
    (ys : List Char) : t.EndsBefore (xs ++ '|' :: ys) := by
  cases xs with
  | nil => exact t.endsBefore_bar ys
  | cons c xs => cases t <;> exact h

theorem source_pipe_iff {word : List Char} : Token.pipe.Source word ↔ word = ['|'] := by
  constructor
  · intro h
    cases h with
    | symbol hc =>
      rw [Token.symbol?.eq_def] at hc
      split at hc <;> first | rfl | cases hc
  · rintro rfl
    exact .symbol rfl

/-- A bar in a word is the whole word, or the word is a string and ends with a quote. -/
theorem Source.of_bar_mem {t : Token} {word : List Char} (h : t.Source word) (hbar : '|' ∈ word) :
    t = .pipe ∨ word.getLast? = some '"' := by
  have hnumeral : ∀ {signed digits : List Char} {negative : Bool},
      Lexer.IsNumeral signed digits negative → '|' ∉ signed ++ digits := by
    intro signed digits negative h hmem
    rcases List.mem_append.mp hmem with hsigned | hdigit
    · obtain ⟨hsign, -, -⟩ := h
      cases hsign <;> simp at hsigned
    · exact absurd (List.all_eq_true.mp h.digits _ hdigit) (by decide)
  cases h with
  | @ident name h =>
    exfalso
    have hall : ∀ c ∈ name.toList, c ≠ '|' := by
      rintro c hc rfl
      rw [isName] at h
      split at h
      · cases h
      · next d rest hname =>
        obtain ⟨hfirst, hrest⟩ := Bool.and_eq_true_iff.mp h
        rw [hname] at hc
        rcases List.mem_cons.mp hc with rfl | hc
        · exact absurd hfirst (by decide)
        · exact absurd (List.all_eq_true.mp hrest _ hc) (by decide)
    exact hall _ hbar rfl
  | int h _ => exact absurd hbar (hnumeral h)
  | @decimal signed digits fraction negative h hfraction =>
    exfalso
    rcases List.mem_append.mp hbar with hbar | hbar
    · exact hnumeral h hbar
    · have hbar : '|' ∈ fraction := by simpa using hbar
      exact absurd (List.all_eq_true.mp hfraction _ hbar) (by decide)
  | str _ => exact .inr (by rw [← List.cons_append, List.getLast?_concat])
  | @symbol c _ h =>
    obtain rfl : '|' = c := by simpa using hbar
    cases h
    exact .inl rfl

end Token

namespace Lexer

theorem not_isBlank_bar : Text.isBlank '|' = false := by decide

theorem scans_bar {gap cs : List Char} {ls : List Lexeme} (hgap : gap.all Text.isBlank = true)
    (h : Scans cs ls) : Scans (gap ++ '|' :: cs) (⟨gap, ['|'], .pipe⟩ :: ls) := by
  have hscans := Scans.next hgap (Token.source_pipe_iff.mpr rfl) trivial h
  rw [List.append_assoc] at hscans
  exact hscans

/-- Two texts with a bar between them are read as the tokens of the first, a bar and those of the
second. -/
theorem Scans.append_bar {xs ys : List Char} {ls ms : List Lexeme} (hx : Scans xs ls)
    (hy : Scans ys ms) :
    ∃ all, Scans (xs ++ '|' :: ys) all ∧
      all.map (·.token) = ls.map (·.token) ++ .pipe :: ms.map (·.token) := by
  induction hx with
  | done hgap => exact ⟨_, scans_bar hgap hy, rfl⟩
  | @next gap word after t ls hgap hword hends _ ih =>
    obtain ⟨all, hall, htokens⟩ := ih
    rw [List.append_assoc]
    exact ⟨_, .next hgap hword (hends.append_bar ys) hall, by simp [htokens]⟩

theorem exists_of_append_eq {us vs xs ys : List Char} {c : Char} (h : us ++ vs = xs ++ c :: ys) :
    (∃ zs, us = xs ++ c :: zs ∧ ys = zs ++ vs) ∨ ∃ zs, xs = us ++ zs ∧ vs = zs ++ c :: ys := by
  rcases List.append_eq_append_iff.mp h with ⟨zs, hxs, hvs⟩ | ⟨zs, hus, hys⟩
  · exact .inr ⟨zs, hxs, hvs⟩
  · rcases List.cons_eq_append_iff.mp hys with ⟨rfl, hvs⟩ | ⟨rest, rfl, hys⟩
    · exact .inr ⟨[], by simpa using hus.symm, by simpa using hvs⟩
    · exact .inl ⟨rest, hus, (List.cons.inj hys).2⟩

/-- A bar that is read inside or right after white space, with no quote after it, is a token. -/
theorem eq_of_bar_mem {gap word xs zs : List Char} {t : Token}
    (hgap : gap.all Text.isBlank = true) (hword : t.Source word)
    (h : gap ++ word = xs ++ '|' :: zs) (hzs : '"' ∉ zs) : t = .pipe ∧ xs = gap ∧ zs = [] := by
  rcases exists_of_append_eq h with ⟨rest, rfl, -⟩ | ⟨front, rfl, rfl⟩
  · have hbar := List.all_eq_true.mp hgap '|' (by simp)
    rw [not_isBlank_bar] at hbar
    cases hbar
  · rcases hword.of_bar_mem (by simp) with rfl | hlast
    · have hwhole := Token.source_pipe_iff.mp hword
      rw [List.append_eq_singleton_iff] at hwhole
      simpa using hwhole
    · have hmem : '"' ∈ '|' :: zs := by
        rw [List.getLast?_append_of_ne_nil _ (by simp)] at hlast
        exact List.mem_of_getLast? hlast
      simp [hzs] at hmem

/-- A bar with no quote after it is a token. -/
theorem Scans.of_append_bar {xs ys : List Char} {all : List Lexeme}
    (h : Scans (xs ++ '|' :: ys) all) (hy : '"' ∉ ys) :
    ∃ ls ms, Scans xs ls ∧ Scans ys ms ∧
      all.map (·.token) = ls.map (·.token) ++ .pipe :: ms.map (·.token) := by
  generalize htext : xs ++ '|' :: ys = text at h
  induction h generalizing xs with
  | done hgap =>
    have hbar : Text.isBlank '|' = true := List.all_eq_true.mp hgap '|' (by simp [← htext])
    rw [not_isBlank_bar] at hbar
    cases hbar
  | @next gap word after t ms hgap hword hends hrest ih =>
    rcases exists_of_append_eq htext.symm with ⟨zs, hfront, rfl⟩ | ⟨zs, rfl, rfl⟩
    · have hzs : '"' ∉ zs := fun hmem => hy (List.mem_append_left after hmem)
      obtain ⟨rfl, rfl, rfl⟩ := eq_of_bar_mem hgap hword hfront hzs
      exact ⟨[], ms, .done hgap, hrest, rfl⟩
    · obtain ⟨ls, ms, hls, hms, htokens⟩ := ih rfl
      exact ⟨_, ms, .next hgap hword hends.of_append hls, hms, by simp [htokens]⟩

/-- The positions of the bars among the words of a text that starts at a position. -/
def cuts (position : Nat) (ls : List Lexeme) : List Nat :=
  ((locate position ls).filter (·.token = .pipe)).map (·.position)

theorem le_of_mem_cuts {position q : Nat} {ls : List Lexeme} (h : q ∈ cuts position ls) :
    position ≤ q := by
  induction ls generalizing position with
  | nil => cases h
  | cons l ls ih =>
    rw [cuts, locate, List.filter_cons] at h
    split at h
    · rcases List.mem_cons.mp h with rfl | h
      · exact Nat.le_add_right _ _
      · exact Nat.le_trans (Nat.le_add_right _ _) (ih h)
    · exact Nat.le_trans (Nat.le_add_right _ _) (ih h)

theorem cuts_cons_of_ne {position : Nat} {l : Lexeme} {ls : List Lexeme} (h : l.token ≠ .pipe) :
    cuts position (l :: ls) = cuts (position + utf8Length (l.gap ++ l.word)) ls := by
  rw [cuts, locate, List.filter_cons_of_neg (by simpa using h)]
  rfl

theorem cuts_cons_pipe (position : Nat) (gap : List Char) (ls : List Lexeme) :
    cuts position (⟨gap, ['|'], .pipe⟩ :: ls) =
      (position + utf8Length gap) :: cuts (position + utf8Length gap + 1) ls := by
  rw [cuts, locate, List.filter_cons_of_pos (by simp), utf8Length_append, ← Nat.add_assoc]
  rfl

/-- Nothing is cut in front of the first cut. -/
theorem cutAt_append {cuts : List Nat} {position : Nat} {xs ys : List Char}
    (h : ∀ q ∈ cuts, position + utf8Length xs ≤ q) :
    cutAt cuts position (xs ++ ys) =
      (cutAt cuts (position + utf8Length xs) ys).modifyHead (xs ++ ·) := by
  induction xs generalizing position with
  | nil => exact (congrFun List.modifyHead_id _).symm
  | cons c xs ih =>
    rw [utf8Length, ← Nat.add_assoc] at h ⊢
    have hne : cuts.head? ≠ some position := by
      intro hhead
      have hle := h position (List.mem_of_head? hhead)
      have hpos := c.utf8Size_pos
      omega
    rw [List.cons_append, cutAt, if_neg hne, ih h, List.modifyHead_modifyHead]
    rfl

theorem cutAt_bar (cuts : List Nat) (position : Nat) (ys : List Char) :
    cutAt (position :: cuts) position ('|' :: ys) = [] :: cutAt cuts (position + 1) ys := by
  rw [cutAt, if_pos List.head?_cons]
  rfl

theorem exists_cutAt (cuts : List Nat) (position : Nat) (cs : List Char) :
    ∃ first rest more, cutAt cuts position cs = first :: rest ∧ cs = first ++ more := by
  induction cs generalizing cuts position with
  | nil => exact ⟨[], [], [], rfl, rfl⟩
  | cons c cs ih =>
    rw [cutAt]
    split
    · exact ⟨[], _, c :: cs, rfl, rfl⟩
    · obtain ⟨first, rest, more, hcut, rfl⟩ := ih cuts (position + c.utf8Size)
      rw [hcut]
      exact ⟨c :: first, rest, more, rfl, rfl⟩

theorem cutAt_nil (position : Nat) (cs : List Char) : cutAt [] position cs = [cs] := by
  have hcut := @cutAt_append [] position cs [] (by simp)
  rw [List.append_nil] at hcut
  simp [hcut, cutAt]

theorem intercalate_append_head (bar xs first : List Char) (rest : List (List Char)) :
    bar.intercalate ((xs ++ first) :: rest) = xs ++ bar.intercalate (first :: rest) := by
  cases rest with
  | nil => simp
  | cons second rest =>
    rw [List.intercalate_cons_cons, List.intercalate_cons_cons, List.append_assoc,
      List.append_assoc, List.append_assoc]

/-- A text is its pieces with bars between them, and each piece is made of the words that stand
there. -/
theorem Scans.exists_pieces {cs : List Char} {ls : List Lexeme} (h : Scans cs ls)
    (position : Nat) :
    ['|'].intercalate (cutAt (cuts position ls) position cs) = cs ∧
      ∃ pieces, List.Forall₂ Scans (cutAt (cuts position ls) position cs) pieces ∧
        pieces.map (·.map (·.token)) = (ls.map (·.token)).splitOn .pipe := by
  -- A word goes in front of the first piece of what follows it, unless it is a bar.
  induction h generalizing position with
  | @done gap hgap =>
    rw [cuts, locate, List.filter_nil, List.map_nil, cutAt_nil]
    exact ⟨List.intercalate_singleton, [[]], .cons (.done hgap) .nil, rfl⟩
  | @next gap word after t ls hgap hword hends hrest ih =>
    obtain ⟨hjoin, pieces, hpieces, htokens⟩ := ih (position + utf8Length (gap ++ word))
    have hle : ∀ q ∈ cuts (position + utf8Length (gap ++ word)) ls,
        position + utf8Length (gap ++ word) ≤ q := fun q hq => le_of_mem_cuts hq
    obtain ⟨first, rest, more, hcut, hfirst⟩ :=
      exists_cutAt (cuts (position + utf8Length (gap ++ word)) ls)
        (position + utf8Length (gap ++ word)) after
    by_cases hpipe : t = .pipe
    · subst hpipe
      obtain rfl := Token.source_pipe_iff.mp hword
      have hgaps : ∀ q ∈ (position + utf8Length gap) :: cuts (position + utf8Length gap + 1) ls,
          position + utf8Length gap ≤ q := by
        refine List.forall_mem_cons.mpr ⟨Nat.le_refl _, fun q hq => ?_⟩
        exact Nat.le_trans (Nat.le_succ _) (le_of_mem_cuts hq)
      have hcuts : cutAt (cuts position (⟨gap, ['|'], .pipe⟩ :: ls)) position
          (gap ++ ['|'] ++ after) = gap :: first :: rest := by
        rw [utf8Length_append, ← Nat.add_assoc] at hcut
        rw [cuts_cons_pipe, List.append_assoc, cutAt_append hgaps, List.singleton_append,
          cutAt_bar, List.modifyHead_cons, List.append_nil]
        exact congrArg _ hcut
      rw [hcut] at hpieces hjoin
      rw [hcuts]
      refine ⟨?_, [] :: pieces, .cons (.done hgap) hpieces, ?_⟩
      · rw [List.intercalate_cons_cons, hjoin]
      · rw [List.map_cons, List.map_cons, List.splitOn_cons_eq_if_modifyHead, htokens]
        simp
    · have hcuts : cutAt (cuts position (⟨gap, word, t⟩ :: ls)) position (gap ++ word ++ after) =
          (gap ++ word ++ first) :: rest := by
        rw [cuts_cons_of_ne hpipe, cutAt_append hle, hcut, List.modifyHead_cons]
      rw [hcut] at hpieces hjoin
      rw [hcuts]
      refine ⟨?_, ?_⟩
      · rw [intercalate_append_head, hjoin]
      · cases hpieces with
        | @cons _ piece _ pieces hpiece hothers =>
          refine ⟨(⟨gap, word, t⟩ :: piece) :: pieces, .cons ?_ hothers, ?_⟩
          · subst hfirst
            exact .next hgap hword hends.of_append hpiece
          · rw [List.map_cons (l := ls), List.splitOn_cons_eq_if_modifyHead, ← htokens]
            simp [hpipe]

end Lexer

theorem sectionTexts_ne_nil (text : String) : sectionTexts text ≠ [] := by
  obtain ⟨first, rest, -, hcut, -⟩ := Lexer.exists_cutAt (barPositions text) 0 text.toList
  simp [sectionTexts, hcut]

/-- The texts of the sections of an expression, joined by bars, are the expression, and each is
made of the words that stand there. -/
theorem exists_of_sectionTexts {text : String} {ls : List Lexeme}
    (h : Lexer.Scans text.toList ls) :
    "|".intercalate (sectionTexts text) = text ∧
      ∃ pieces,
        List.Forall₂ (fun s piece => Lexer.Scans s.toList piece) (sectionTexts text) pieces ∧
        pieces.map (·.map (·.token)) = (ls.map (·.token)).splitOn .pipe := by
  have hbars : barPositions text = Lexer.cuts 0 ls := by
    rw [barPositions, Lexer.tokenize_eq_ok_iff.mpr ⟨ls, h, rfl⟩]
    simp [Lexer.cuts]
  obtain ⟨hjoin, pieces, hpieces, htokens⟩ := h.exists_pieces 0
  refine ⟨?_, pieces, ?_, htokens⟩
  · apply String.toList_injective
    rw [String.toList_intercalate, sectionTexts, List.map_map, hbars]
    have hid : String.toList ∘ String.ofList = id := funext fun _ => String.toList_ofList
    rw [hid, List.map_id]
    exact hjoin
  · rw [sectionTexts, hbars, List.forall₂_map_left_iff]
    simpa using hpieces

end ReleaseNames
