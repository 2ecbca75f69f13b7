import Mathlib.Data.List.Chain
import ReleaseNames.Proofs.Lexeme

/-!
# Spelling and reading tokens

How tokens are written: names as they are, integers in decimal, strings in quotes
with a backslash before each quote and backslash. White space may stand before and
after every token. Such a text is read as the tokens it spells, if no two words
that could run into each other are neighbours.
-/

namespace ReleaseNames

def quoted (cs : List Char) : List Char :=
  '"' :: ((cs.flatMap fun c => if c = '"' ∨ c = '\\' then ['\\', c] else [c]) ++ ['"'])

namespace Token

/-- How a token is written. The end of an expression has no spelling. -/
def spelling : Token → List Char
  | .ident name => name.toList
  | .int value => (toString value.toInt).toList
  | .decimal value => value.shown.toList
  | .str value => quoted value.toList
  | .colon => [':']
  | .pipe => ['|']
  | .arrow => ['>']
  | .openParen => ['(']
  | .closeParen => [')']
  | .comma => [',']
  | .stop => []

/-- A token that is read as it is spelled: a name, an integer, a string or a symbol. -/
def isPlain : Token → Bool
  | .ident name => isName name
  | .decimal _ | .stop => false
  | _ => true

end Token

/-- Texts that spell tokens, with any white space around each. -/
inductive Spells : List Token → List Char → Prop
  | nil {gap : List Char} (h : gap.all Text.isBlank = true) : Spells [] gap
  | cons {gap rest : List Char} {t : Token} {ts : List Token} (h : gap.all Text.isBlank = true)
      (hrest : Spells ts rest) : Spells (t :: ts) (gap ++ t.spelling ++ rest)

/-- Of two neighbours at least one is a symbol. -/
def Separated (ts : List Token) : Prop :=
  ts.IsChain fun a b => a.isSymbol = true ∨ b.isSymbol = true

namespace Lexer

/-- A character that ends a word: white space or a symbol. -/
def breaks (c : Char) : Bool :=
  Text.isBlank c || (Token.symbol? c).isSome

/-- Neither a name nor a number goes on with a character that ends a word. -/
theorem not_isNameChar_of_breaks {c : Char} (h : breaks c = true) : isNameChar c = false := by
  by_contra hname
  have hrange := toNat_of_isNameChar (eq_true_of_ne_false hname)
  rcases Bool.or_eq_true_iff.mp h with hblank | hsymbol
  · have := toNat_of_isBlank hblank
    omega
  · obtain ⟨t, ht⟩ := Option.isSome_iff_exists.mp hsymbol
    have := toNat_of_symbol? ht
    simp only [List.mem_cons, List.not_mem_nil, or_false] at this
    omega

theorem not_isDigit_of_breaks {c : Char} (h : breaks c = true) : c.isDigit = false := by
  by_contra hdigit
  have hname := isNameChar_of_isDigit (eq_true_of_ne_false hdigit)
  rw [not_isNameChar_of_breaks h] at hname
  cases hname

theorem ne_point_of_breaks {c : Char} (h : breaks c = true) : c ≠ '.' := by
  rintro rfl
  exact absurd h (by decide)

def Ends (after : List Char) : Prop :=
  ∀ c, after.head? = some c → breaks c = true

theorem ends_append {gap after : List Char} (hgap : gap.all Text.isBlank = true)
    (h : Ends after) : Ends (gap ++ after) := by
  cases gap with
  | nil => exact h
  | cons c gap =>
    intro c' hc'
    cases hc'
    rw [List.all_cons, Bool.and_eq_true] at hgap
    rw [breaks, hgap.1, Bool.true_or]

theorem ends_symbol {c : Char} {t : Token} (h : Token.symbol? c = some t) (after : List Char) :
    Ends (c :: after) := by
  intro c' hc'
  cases hc'
  rw [breaks, h, Option.isSome_some, Bool.or_true]

theorem escapes_quoted (cs : List Char) :
    Escapes (cs.flatMap fun c => if c = '"' ∨ c = '\\' then ['\\', c] else [c]) cs := by
  induction cs with
  | nil => exact .nil
  | cons c cs ih =>
    rw [List.flatMap_cons]
    split
    · exact .escaped c ih
    · next hplain =>
      rw [not_or] at hplain
      exact .plain hplain.1 hplain.2 ih

def sign (negative : Bool) : List Char :=
  if negative then ['-'] else []

theorem isDigit_toDigits (n : Nat) : (Nat.toDigits 10 n).all Char.isDigit = true := by
  rw [List.all_eq_true]
  intro c hc
  exact Nat.isDigit_of_mem_toDigits (by decide) (by decide) hc

theorem toList_toString (z : Int) :
    (toString z).toList = sign (decide (z < 0)) ++ Nat.toDigits 10 z.natAbs := by
  cases z with
  | ofNat n =>
    have hsign : decide (Int.ofNat n < 0) = false :=
      decide_eq_false (Int.not_lt.mpr (Int.natCast_nonneg n))
    have htext : toString (Int.ofNat n) = n.repr := rfl
    rw [hsign, htext, Nat.toList_repr]
    rfl
  | negSucc n =>
    have hsign : decide (Int.negSucc n < 0) = true := decide_eq_true (Int.negSucc_lt_zero n)
    have htext : toString (Int.negSucc n) = "-" ++ (n + 1).repr := rfl
    rw [hsign, htext, String.toList_append, Nat.toList_repr]
    rfl

/-- A 64-bit integer has a magnitude that its sign allows. -/
theorem int64?_toInt (v : Int64) : int64? (decide (v.toInt < 0)) v.toInt.natAbs = some v := by
  have hlow := v.le_toInt
  have hhigh := v.toInt_lt
  rw [int64?]
  by_cases hneg : v.toInt < 0
  · have hfits : v.toInt.natAbs ≤ 0x8000000000000000 := by omega
    have hvalue : -(v.toInt.natAbs : Int) = v.toInt := by omega
    rw [if_pos (decide_eq_true hneg), if_pos hfits, hvalue, Int64.ofInt_toInt]
  · have hfits : v.toInt.natAbs < 0x8000000000000000 := by omega
    have hvalue : (v.toInt.natAbs : Int) = v.toInt := by omega
    rw [if_neg (by simpa using hneg), if_pos hfits, hvalue, Int64.ofInt_toInt]

theorem isNumeral_toDigits (negative : Bool) (n : Nat) :
    IsNumeral (sign negative) (Nat.toDigits 10 n) negative := by
  refine ⟨?_, Nat.toDigits_ne_nil, isDigit_toDigits n⟩
  cases negative with
  | true => exact .minus
  | false => exact .absent

end Lexer

namespace Token

open Lexer

theorem exists_of_isSymbol {t : Token} (h : t.isSymbol = true) :
    ∃ c, t.spelling = [c] ∧ Token.symbol? c = some t := by
  cases t with
  | colon => exact ⟨':', rfl, rfl⟩
  | pipe => exact ⟨'|', rfl, rfl⟩
  | arrow => exact ⟨'>', rfl, rfl⟩
  | openParen => exact ⟨'(', rfl, rfl⟩
  | closeParen => exact ⟨')', rfl, rfl⟩
  | comma => exact ⟨',', rfl, rfl⟩
  | _ => cases h

theorem source_spelling {t : Token} (h : t.isPlain = true) : t.Source t.spelling := by
  by_cases hsymbol : t.isSymbol = true
  · obtain ⟨c, hspelling, hc⟩ := exists_of_isSymbol hsymbol
    rw [hspelling]
    exact .symbol hc
  · cases t with
    | ident name => exact .ident h
    | int v =>
      have hv : int64? (decide (v.toInt < 0))
          (Nat.ofDigitChars 10 (Nat.toDigits 10 v.toInt.natAbs) 0) = some v := by
        rw [Nat.ofDigitChars_ten_toDigits, int64?_toInt]
      rw [spelling, toList_toString]
      exact .int (isNumeral_toDigits _ _) hv
    | str s =>
      have hword := Source.str (escapes_quoted s.toList)
      rw [String.ofList_toList] at hword
      exact hword
    | decimal => cases h
    | stop => cases h
    | _ => exact absurd rfl hsymbol

theorem endsBefore_of_ends {t : Token} {after : List Char} (h : Ends after) :
    t.EndsBefore after := by
  have hdigit : Stops Char.isDigit after := fun c hc => not_isDigit_of_breaks (h c hc)
  cases t with
  | ident => exact fun c hc => not_isNameChar_of_breaks (h c hc)
  | int => exact ⟨hdigit, fun hpoint => ne_point_of_breaks (h '.' hpoint) rfl⟩
  | decimal => exact hdigit
  | _ => trivial

end Token

namespace Spells

variable {ts : List Token} {cs : List Char}

/-- A text that spells nothing, or a symbol first, ends the word in front of it. -/
theorem ends (h : Spells ts cs) (hts : ∀ t, ts.head? = some t → t.isSymbol = true) :
    Lexer.Ends cs := by
  cases h with
  | nil hblank =>
    rw [← List.append_nil cs]
    exact Lexer.ends_append hblank (fun c hc => nomatch hc)
  | @cons gap rest t ts hblank hrest =>
    obtain ⟨c, hspelling, hsymbol⟩ := Token.exists_of_isSymbol (hts t rfl)
    rw [List.append_assoc]
    refine Lexer.ends_append hblank ?_
    rw [hspelling]
    exact Lexer.ends_symbol hsymbol rest

/-- A text is made of the words that it spells. -/
theorem exists_scans (h : Spells ts cs) (hplain : ∀ t ∈ ts, t.isPlain = true)
    (hseparated : Separated ts) : ∃ ls, Lexer.Scans cs ls ∧ ls.map (·.token) = ts := by
  -- A word ends only where the text breaks it, so each step asks where the rest of the text begins.
  induction h with
  | nil hblank => exact ⟨[], .done hblank, rfl⟩
  | @cons gap rest t ts hblank hrest ih =>
    obtain ⟨hfirst, hothers⟩ := List.forall_mem_cons.mp hplain
    obtain ⟨hnext, hrests⟩ := List.isChain_cons.mp hseparated
    obtain ⟨ls, hls, rfl⟩ := ih hothers hrests
    have hends : t.EndsBefore rest := by
      by_cases hsymbol : t.isSymbol = true
      · exact Lexer.endsBefore_of_isSymbol hsymbol rest
      · exact Token.endsBefore_of_ends (hrest.ends fun u hu => (hnext u hu).resolve_left hsymbol)
    exact ⟨_, .next hblank (Token.source_spelling hfirst) hends hls, rfl⟩

/-- A text is read as the tokens that it spells. -/
theorem tokenize_eq {text : String} (h : Spells ts text.toList)
    (hplain : ∀ t ∈ ts, t.isPlain = true) (hseparated : Separated ts) :
    ∃ used position, Lexer.tokenize text = .ok (used ++ [⟨.stop, position⟩]) ∧
      WrittenSection.tokensOf used = ts := by
  obtain ⟨ls, hls, rfl⟩ := h.exists_scans hplain hseparated
  exact ⟨Lexer.locate 0 ls, _, Lexer.tokenize_eq_ok_iff.mpr ⟨ls, hls, rfl⟩,
    Lexer.tokensOf_locate 0 ls⟩

/-- A text that spells a token is not blank. -/
theorem not_blank (h : Spells ts cs) (hplain : ∀ t ∈ ts, t.isPlain = true) (hts : ts ≠ []) :
    cs.all Text.isBlank = false := by
  cases h with
  | nil => exact absurd rfl hts
  | @cons gap rest t ts hblank hrest =>
    obtain ⟨c, word, hspelling, hc⟩ :=
      Lexer.exists_cons_of_source (Token.source_spelling (hplain t List.mem_cons_self))
    rw [hspelling, List.all_append, List.all_append, List.all_cons, hc, Bool.false_and,
      Bool.and_false, Bool.false_and]

end Spells

end ReleaseNames
