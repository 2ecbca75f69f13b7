import ReleaseNames.Generator
import ReleaseNames.Proofs.Pieces
import ReleaseNames.Proofs.Substitution

/-!
# Options that are expressions

An option ending like the name of a library is taken for a path, so an expression
must never end that way. The last word of an expression is a closing parenthesis or
a name, a name has no point in it, and what stands in front of a name is a symbol or
white space. Only numbers and strings hold points, and neither stands in front of a
name.

White space around an expression does not matter, so the option is read as the
expression that it is. Nothing is asserted of options that do not compile.
-/

namespace ReleaseNames

open Lexer

namespace Grammar

variable {ts : List Token}

/-- The tokens end with a name or a closing parenthesis. -/
def EndsRule (ts : List Token) : Prop :=
  ∃ front t, ts = front ++ [t] ∧ (t = .closeParen ∨ ∃ name, t = .ident name)

theorem EndsRule.append {us : List Token} (h : EndsRule us) (ts : List Token) :
    EndsRule (ts ++ us) := by
  obtain ⟨front, t, rfl, ht⟩ := h
  exact ⟨ts ++ front, t, by rw [List.append_assoc], ht⟩

theorem endsRule_isRule {m : Mention} (h : IsRule ts m) : EndsRule ts := by
  cases h with
  | bare name => exact ⟨[], .ident name, rfl, .inr ⟨name, rfl⟩⟩
  | empty name => exact ⟨[.ident name, .openParen], .closeParen, rfl, .inl rfl⟩
  | @call name args _ _ => exact ⟨.ident name :: .openParen :: args, .closeParen, rfl, .inl rfl⟩

theorem endsRule_isChain {ms : List Mention} (h : IsChain ts ms) : EndsRule ts := by
  induction h with
  | one hrule => exact endsRule_isRule hrule
  | @more first _ _ _ _ _ ih => exact (ih.append [.arrow]).append first

theorem endsRule_isSection {c : Clause} (h : IsSection ts c) : EndsRule ts := by
  cases h with
  | bare hchain => exact endsRule_isChain hchain
  | keyed channel hchain => exact (endsRule_isChain hchain).append [.ident channel.keyText, .colon]

theorem endsRule_isExpression {cs : List Clause} (h : IsExpression ts cs) : EndsRule ts := by
  induction h with
  | one hsection => exact endsRule_isSection hsection
  | @more first _ _ _ _ _ ih => exact (ih.append [.pipe]).append first

/-- A word stands alone: in front of the name that ends separated tokens is a symbol. -/
theorem endsInSymbol_of_separated {front : List Token} {name : String}
    (h : Separated (front ++ [.ident name])) : EndsInSymbol front := by
  intro t ht
  obtain ⟨-, -, hnext⟩ := List.isChain_append.mp h
  rcases hnext t ht (.ident name) rfl with hsymbol | hname
  · exact hsymbol
  · cases hname

end Grammar

namespace Lexer

variable {cs : List Char} {ls : List Lexeme}

/-- White space in front of a text stands in front of its first word, and can be dropped there. -/
theorem Scans.dropWhile_blank (h : Scans cs ls) :
    ∃ all, Scans (cs.dropWhile Text.isBlank) all ∧ all.map (·.token) = ls.map (·.token) := by
  cases h with
  | done hgap =>
    rw [List.dropWhile_eq_nil_iff.mpr (List.all_eq_true.mp hgap)]
    exact ⟨[], .done rfl, rfl⟩
  | @next gap word after t ls hgap hword hends hrest =>
    obtain ⟨c, rest, rfl, hc⟩ := exists_cons_of_source hword
    have hdrop : (gap ++ c :: rest ++ after).dropWhile Text.isBlank = [] ++ c :: rest ++ after := by
      rw [List.append_assoc, List.dropWhile_append_of_pos (List.all_eq_true.mp hgap)]
      simp [hc]
    rw [hdrop]
    exact ⟨_, .next rfl hword hends hrest, rfl⟩

/-- White space at the end of a text comes after its last word. -/
theorem Scans.rdropWhile_blank (h : Scans cs ls) : Scans (cs.rdropWhile Text.isBlank) ls := by
  induction h with
  | done hgap =>
    rw [List.rdropWhile_eq_nil_iff.mpr (List.all_eq_true.mp hgap)]
    exact .done rfl
  | @next gap word after t ls hgap hword hends hrest ih =>
    obtain ⟨front, c, rfl, hc⟩ := exists_last_of_source hword
    have hstays : (gap ++ (front ++ [c])).rdropWhile Text.isBlank = gap ++ (front ++ [c]) := by
      rw [← List.append_assoc]
      exact List.rdropWhile_concat_neg _ _ _ (by simp [hc])
    rw [Text.rdropWhile_append, hstays]
    split
    · next hnil =>
      rw [hnil] at ih
      obtain rfl := ih.eq_nil
      rw [← List.append_nil (gap ++ (front ++ [c]))]
      exact .next hgap hword (endsBefore_nil t) ih
    · next hne =>
      obtain ⟨blanks, hblanks⟩ := List.rdropWhile_prefix Text.isBlank after
      rw [← hblanks] at hends
      exact .next hgap hword hends.of_append ih

/-- A text whose last word is a symbol ends with it or with white space. -/
theorem Scans.breaks_last (h : Scans cs ls) (hends : Grammar.EndsInSymbol (ls.map (·.token))) :
    ∀ c, cs.getLast? = some c → breaks c = true := by
  induction h with
  | done hgap =>
    intro c hc
    rw [breaks, List.all_eq_true.mp hgap c (List.mem_of_getLast? hc), Bool.true_or]
  | @next gap word after t ls hgap hword hafter hrest ih =>
    intro c hc
    rw [List.getLast?_append, Option.or_eq_some_iff] at hc
    rcases hc with hc | ⟨hnone, hc⟩
    · refine ih (fun u hu => ?_) c hc
      exact hends u (by rw [List.map_cons, List.getLast?_cons, hu]; rfl)
    · obtain rfl := List.getLast?_eq_none_iff.mp hnone
      obtain rfl := hrest.eq_nil
      have hsymbol : t.isSymbol = true := hends t rfl
      cases hword with
      | @symbol d _ hd =>
        rw [List.getLast?_concat] at hc
        cases hc
        rw [breaks, hd, Option.isSome_some, Bool.or_true]
      | _ => cases hsymbol

/-- The last word of a text that does not end with white space, and the text in front of it. -/
theorem Scans.exists_last {l : Lexeme} {front : List Lexeme} (h : Scans cs (front ++ [l]))
    (hlast : ∀ c, cs.getLast? = some c → Text.isBlank c = false) :
    ∃ xs gap word, cs = xs ++ gap ++ word ∧ Scans xs front ∧ gap.all Text.isBlank = true ∧
      l.token.Source word := by
  obtain ⟨xs, ys, rfl, hxs, hys⟩ := h.of_append
  cases hys with
  | @next gap word after t _ hgap hword hends hrest =>
    cases hrest with
    | done hafter =>
      obtain rfl : after = [] := by
        by_contra hne
        have hend := hlast _ (by
          rw [List.getLast?_append, List.getLast?_append, List.getLast?_eq_some_getLast hne]; rfl)
        rw [List.all_eq_true.mp hafter _ (List.getLast_mem hne)] at hend
        cases hend
      exact ⟨xs, gap, word, by simp, hxs, hgap, hword⟩

end Lexer

/-- An expression without white space at its end ends with a closing parenthesis or with a name
that starts where a word may start. -/
theorem Derives.exists_end {text : String} {clauses : List Clause} (h : Derives text clauses)
    (hlast : ∀ c, text.toList.getLast? = some c → Text.isBlank c = false) :
    ∃ xs ys, text.toList = xs ++ ys ∧
      (ys = [')'] ∨ (ys ≠ [] ∧ ∀ c ∈ ys, isNameChar c = true) ∧
        ∀ c, xs.getLast? = some c → breaks c = true) := by
  obtain ⟨ls, hls, hderived⟩ := derives_iff.mp h
  obtain ⟨front, t, htokens, ht⟩ := Grammar.endsRule_isExpression hderived
  obtain ⟨lfs, lts, rfl, hfront, hlts⟩ := List.map_eq_append_iff.mp htokens
  obtain ⟨l, rfl, rfl⟩ := List.map_eq_singleton_iff.mp hlts
  obtain ⟨xs, gap, word, htext, hxs, hgap, hword⟩ := hls.exists_last hlast
  refine ⟨xs ++ gap, word, htext, ?_⟩
  rcases ht with hparen | ⟨name, hname⟩
  · left
    rw [hparen] at hword
    cases hword with
    | symbol hc =>
      rw [Token.symbol?.eq_def] at hc
      split at hc <;> first | rfl | cases hc
  · right
    rw [hname] at hword
    have hseparated := Grammar.separated_isExpression hderived
    rw [htokens, hname] at hseparated
    have hsymbol := Grammar.endsInSymbol_of_separated hseparated
    rw [← hfront] at hsymbol
    cases hword with
    | ident h =>
      refine ⟨⟨toList_ne_nil_of_isName h, fun c hc => isNameChar_of_isName h hc⟩, ?_⟩
      intro c hc
      rw [List.getLast?_append, Option.or_eq_some_iff] at hc
      rcases hc with hc | ⟨-, hc⟩
      · rw [breaks, List.all_eq_true.mp hgap c (List.mem_of_getLast? hc), Bool.true_or]
      · exact hxs.breaks_last hsymbol c hc
    | symbol hc => cases isSymbol_of_symbol? hc

/-- White space around an expression does not matter. -/
theorem Derives.trim {text : String} {clauses : List Clause} (h : Derives text clauses) :
    Derives (Text.onChars Text.trim text) clauses := by
  obtain ⟨ls, hls, hderived⟩ := derives_iff.mp h
  obtain ⟨all, hall, htokens⟩ := hls.dropWhile_blank
  refine derives_iff.mpr ⟨all, ?_, by rw [htokens]; exact hderived⟩
  rw [Text.toList_onChars, Text.trim, Text.trimWhere_eq_rdropWhile]
  exact hall.rdropWhile_blank

namespace Generator

variable {text : String} {clauses : List Clause}

/-- No expression ends like the name of a library. -/
theorem not_namesLibrary (h : Derives text clauses)
    (hlast : ∀ c, text.toList.getLast? = some c → Text.isBlank c = false) :
    namesLibrary text = false := by
  by_contra hnames
  obtain ⟨zs, hzs⟩ : ['.', 's', 'o'] <:+ text.toList :=
    List.isSuffixOf_iff_suffix.mp (eq_true_of_ne_false hnames)
  obtain ⟨xs, ys, htext, hend⟩ := h.exists_end hlast
  rw [htext] at hzs
  rcases hend with rfl | ⟨⟨hne, hname⟩, hbreaks⟩
  · have hchars := congrArg List.getLast? hzs
    simp at hchars
  · have hpoint : '.' ∉ ys := fun hmem => absurd (hname '.' hmem) (by decide)
    -- The point stands in front of the name, so the name is the rest of the suffix or its last
    -- letter.
    rcases List.append_eq_append_iff.mp hzs with ⟨cs, rfl, hsuffix⟩ | ⟨cs, -, rfl⟩
    · match cs, hsuffix with
      | [], hsuffix =>
        rw [List.nil_append] at hsuffix
        exact hpoint (by rw [← hsuffix]; simp)
      | [c], hsuffix =>
        cases hsuffix
        exact absurd (hbreaks '.' (by simp)) (by decide)
      | [c, d], hsuffix =>
        cases hsuffix
        exact absurd (hbreaks 's' (by simp)) (by decide)
      | [c, d, e], hsuffix =>
        cases hsuffix
        exact hne rfl
    · exact hpoint (by simp)

theorem trimmedOption_eq_some (h : Derives text clauses) :
    trimmedOption (some text) = some (Text.onChars Text.trim text) := by
  have hblank := h.trim.not_blank
  refine if_neg fun hempty => ?_
  rw [hempty] at hblank
  cases hblank

/-- An option that compiles is read as an expression, whatever files there are: its text without
white space around it does not end like the name of a library, and the generator has the program
that the option compiles to and no overrides. -/
theorem ofOption_of_compile {p : Program} (hblank : isBlankText text = false)
    (hcompile : compile (some text) = .ok p) :
    namesLibrary (Text.onChars Text.trim text) = false ∧
      ∀ (fs : FileSystem) (dir : Option FilePath),
        ofOption fs (some text) dir = .ok ⟨p, .empty⟩ := by
  obtain ⟨clauses, hderives, -⟩ := Derives.exists_of_compile hblank hcompile
  have hlast : ∀ c, (Text.onChars Text.trim text).toList.getLast? = some c →
      Text.isBlank c = false := by
    intro c hc
    rw [Text.toList_onChars] at hc
    exact Text.getLast?_trimWhere hc
  have hnames := not_namesLibrary hderives.trim hlast
  have htrimmed : compile (some (Text.onChars Text.trim text)) = .ok p :=
    hderives.trim.compile_iff.mpr (hderives.compile_iff.mp hcompile)
  refine ⟨hnames, fun fs dir => ?_⟩
  rw [ofOption.eq_def, trimmedOption_eq_some hderives]
  simp only [hnames, Bool.false_eq_true, if_false, ofExpression, htrimmed]

theorem ofOption_of_compile_padded :
    let text := "  n : _t > str_filesafe(\"-\", \".so\")\u3000\n"
    let p : Program := ⟨.default .title, ⟨.title, [⟨.strFilesafe, [.str "-", .str ".so"]⟩]⟩,
      .default .folder⟩
    isBlankText text = false ∧ compile (some text) = .ok p ∧
      namesLibrary (Text.onChars Text.trim text) = false ∧
        ∀ (fs : FileSystem) (dir : Option FilePath),
          ofOption fs (some text) dir = .ok ⟨p, .empty⟩ := by
  intro text p
  have hblank : isBlankText text = false := by decide +kernel
  have hcompile : compile (some text) = .ok p := Outcome.eq_ok_of_toOption (by decide +kernel)
  exact ⟨hblank, hcompile, ofOption_of_compile hblank hcompile⟩

end Generator

end ReleaseNames
