import Mathlib.Data.List.TakeWhile
import ReleaseNames.Expression.Lexer
import ReleaseNames.Proofs.Reading

/-!
# Words of an expression

Each token is read from a word of the expression, with white space in front. What
a word looks like is said apart from the lexer, and so is where a word may end:
only where the text cannot be taken for more of it. The lexer reads a text exactly
if it is made of such words, and it gives every token the position of its word.
-/

namespace ReleaseNames

/-- A name: ASCII letters, digits and underscores, and no digit first. -/
def isName (s : String) : Bool :=
  match s.toList with
  | [] => false
  | c :: rest => Lexer.startsName c && rest.all Lexer.isNameChar

namespace Lexer

/-- The text does not go on with a character of a class. -/
def Stops (p : Char → Bool) (after : List Char) : Prop :=
  ∀ c, after.head? = some c → p c = false

/-- The text between quotes and what it stands for: a backslash for the character after it. -/
inductive Escapes : List Char → List Char → Prop
  | nil : Escapes [] []
  | plain {c : Char} {body content : List Char} (hquote : c ≠ '"') (hbackslash : c ≠ '\\')
      (h : Escapes body content) : Escapes (c :: body) (c :: content)
  | escaped (c : Char) {body content : List Char} (h : Escapes body content) :
      Escapes ('\\' :: c :: body) (c :: content)

/-- The sign of a number, which may be absent, and whether it makes the number negative. -/
inductive IsSign : List Char → Bool → Prop
  | absent : IsSign [] false
  | plus : IsSign ['+'] false
  | minus : IsSign ['-'] true

/-- One or more digits after a sign that may be absent. -/
structure IsNumeral (signed digits : List Char) (negative : Bool) : Prop where
  sign : IsSign signed negative
  nonempty : digits ≠ []
  digits : digits.all Char.isDigit = true

end Lexer

namespace Token

open Lexer

/-- A word that stands for a token. -/
inductive Source : Token → List Char → Prop
  | ident {name : String} (h : isName name = true) : Source (.ident name) name.toList
  | int {signed digits : List Char} {negative : Bool} {v : Int64}
      (h : IsNumeral signed digits negative)
      (hv : int64? negative (Nat.ofDigitChars 10 digits 0) = some v) :
      Source (.int v) (signed ++ digits)
  | decimal {signed digits fraction : List Char} {negative : Bool}
      (h : IsNumeral signed digits negative) (hfraction : fraction.all Char.isDigit = true) :
      Source (.decimal ⟨negative, Nat.ofDigitChars 10 (digits ++ fraction) 0, fraction.length⟩)
        (signed ++ digits ++ '.' :: fraction)
  | str {body content : List Char} (h : Escapes body content) :
      Source (.str (String.ofList content)) ('"' :: (body ++ ['"']))
  | symbol {c : Char} {t : Token} (h : Token.symbol? c = some t) : Source t [c]

/-- The text after the word of a token cannot be taken for more of it. -/
def EndsBefore : Token → List Char → Prop
  | .ident _, after => Stops isNameChar after
  | .int _, after => Stops Char.isDigit after ∧ after.head? ≠ some '.'
  | .decimal _, after => Stops Char.isDigit after
  | _, _ => True

end Token

namespace Lexer

theorem takeWhile_of_stops {p : Char → Bool} {cs after : List Char} (hcs : cs.all p = true)
    (hafter : Stops p after) : (cs ++ after).takeWhile p = cs := by
  rw [List.takeWhile_append_of_pos (List.all_eq_true.mp hcs)]
  cases after with
  | nil => simp
  | cons c after => simp [hafter c rfl]

theorem dropWhile_of_stops {p : Char → Bool} {cs after : List Char} (hcs : cs.all p = true)
    (hafter : Stops p after) : (cs ++ after).dropWhile p = after := by
  rw [List.dropWhile_append_of_pos (List.all_eq_true.mp hcs)]
  cases after with
  | nil => rfl
  | cons c after => simp [hafter c rfl]

/-- White space lies below the printable characters of ASCII or above them. -/
theorem toNat_of_isBlank {c : Char} (h : Text.isBlank c = true) : c.toNat ≤ 32 ∨ 133 ≤ c.toNat := by
  obtain ⟨range, hrange, hlow, hhigh⟩ := Text.inRanges_iff.mp h
  simp only [Text.blankRanges, List.mem_cons, List.not_mem_nil, or_false] at hrange
  rcases hrange with rfl | rfl | rfl | rfl | rfl | rfl | rfl | rfl | rfl | rfl <;> omega

theorem toNat_of_isDigit {c : Char} (h : c.isDigit = true) : 48 ≤ c.toNat ∧ c.toNat ≤ 57 := by
  simp only [Char.isDigit, Bool.and_eq_true, decide_eq_true_eq] at h
  exact h

theorem toNat_of_isAlpha {c : Char} (h : c.isAlpha = true) : 65 ≤ c.toNat ∧ c.toNat ≤ 122 := by
  rcases Bool.or_eq_true_iff.mp h with hupper | hlower
  · obtain ⟨hlow, hhigh⟩ := of_decide_eq_true hupper
    exact ⟨hlow, Nat.le_trans hhigh (by decide)⟩
  · obtain ⟨hlow, hhigh⟩ := Bool.and_eq_true_iff.mp hlower
    exact ⟨Nat.le_trans (by decide) (of_decide_eq_true hlow), of_decide_eq_true hhigh⟩

theorem toNat_of_startsName {c : Char} (h : startsName c = true) :
    65 ≤ c.toNat ∧ c.toNat ≤ 122 := by
  rcases Bool.or_eq_true_iff.mp h with halpha | hunder
  · exact toNat_of_isAlpha halpha
  · rw [eq_of_beq hunder]
    decide

theorem toNat_of_isNameChar {c : Char} (h : isNameChar c = true) :
    (48 ≤ c.toNat ∧ c.toNat ≤ 57) ∨ (65 ≤ c.toNat ∧ c.toNat ≤ 122) := by
  rcases Bool.or_eq_true_iff.mp h with halphanum | hunder
  · rcases Bool.or_eq_true_iff.mp halphanum with halpha | hdigit
    · exact .inr (toNat_of_isAlpha halpha)
    · exact .inl (toNat_of_isDigit hdigit)
  · rw [eq_of_beq hunder]
    decide

theorem isNameChar_of_isDigit {c : Char} (h : c.isDigit = true) : isNameChar c = true := by
  simp [isNameChar, Char.isAlphanum, h]

theorem toNat_of_startsNumber {c : Char} (h : startsNumber c = true) :
    c.toNat = 43 ∨ c.toNat = 45 ∨ (48 ≤ c.toNat ∧ c.toNat ≤ 57) := by
  rw [startsNumber, Bool.or_eq_true, Bool.or_eq_true] at h
  rcases h with (hdigit | hminus) | hplus
  · exact .inr (.inr (toNat_of_isDigit hdigit))
  · rw [eq_of_beq hminus]
    decide
  · rw [eq_of_beq hplus]
    decide

theorem toNat_of_symbol? {c : Char} {t : Token} (h : Token.symbol? c = some t) :
    c.toNat ∈ [58, 124, 62, 40, 41, 44] := by
  rw [Token.symbol?.eq_def] at h
  split at h
  · decide
  · decide
  · decide
  · decide
  · decide
  · decide
  · cases h

theorem isSymbol_of_symbol? {c : Char} {t : Token} (h : Token.symbol? c = some t) :
    t.isSymbol = true := by
  rw [Token.symbol?.eq_def] at h
  split at h <;> cases h <;> rfl

theorem endsBefore_of_isSymbol {t : Token} (h : t.isSymbol = true) (after : List Char) :
    t.EndsBefore after := by
  cases t <;> trivial

theorem symbol?_eq_none {c : Char} (h : c.toNat ∉ [58, 124, 62, 40, 41, 44]) :
    Token.symbol? c = none := by
  cases hc : Token.symbol? c with
  | none => rfl
  | some t => exact absurd (toNat_of_symbol? hc) h

theorem not_isBlank {c : Char} (hlow : 32 < c.toNat) (hhigh : c.toNat < 133) :
    Text.isBlank c = false := by
  by_contra hblank
  have := toNat_of_isBlank (eq_true_of_ne_false hblank)
  omega

section ReadToken

variable {c : Char} {total : Nat} {rest : List Char}

theorem readToken_of_symbol? {t : Token} (h : Token.symbol? c = some t) :
    readToken total c rest = .ok (t, rest) := by
  rw [readToken, h]

theorem readToken_quote :
    readToken total '"' rest =
      match readString rest with
      | some (content, after) => .ok (.str (String.ofList content), after)
      | none => .error (.unterminatedString (offset total ('"' :: rest))) := by
  have hsymbol : Token.symbol? '"' = none := rfl
  rw [readToken, hsymbol]
  rfl

theorem readToken_of_startsNumber (h : startsNumber c = true) :
    readToken total c rest = readNumber total (c :: rest) := by
  have hrange := toNat_of_startsNumber h
  have hsymbol : Token.symbol? c = none := by
    apply symbol?_eq_none
    simp only [List.mem_cons, List.not_mem_nil, or_false]
    omega
  have hquote : c ≠ '"' := by
    rintro rfl
    revert hrange
    decide
  rw [readToken, hsymbol]
  simp only [hquote, if_false, h, if_true]

theorem readToken_of_startsName (h : startsName c = true) :
    readToken total c rest =
      .ok (.ident (String.ofList (c :: rest.takeWhile isNameChar)), rest.dropWhile isNameChar) := by
  have hrange := toNat_of_startsName h
  have hsymbol : Token.symbol? c = none := by
    apply symbol?_eq_none
    simp only [List.mem_cons, List.not_mem_nil, or_false]
    omega
  have hquote : c ≠ '"' := by
    rintro rfl
    revert hrange
    decide
  have hnumber : startsNumber c = false := by
    by_contra hstarts
    have := toNat_of_startsNumber (eq_true_of_ne_false hstarts)
    omega
  rw [readToken, hsymbol]
  simp only [hquote, if_false, hnumber, Bool.false_eq_true, h, if_true]

end ReadToken

variable {total : Nat} {cs after : List Char}

theorem readString_eq_some_iff {content : List Char} :
    readString cs = some (content, after) ↔
      ∃ body, cs = body ++ '"' :: after ∧ Escapes body content := by
  constructor
  · intro h
    fun_induction readString cs generalizing content after with
    | case1 => cases h
    | case2 rest =>
      cases h
      exact ⟨[], rfl, .nil⟩
    | case3 c rest _ _ hread ih =>
      cases h
      obtain ⟨body, rfl, hbody⟩ := ih hread
      exact ⟨'\\' :: c :: body, rfl, .escaped c hbody⟩
    | case4 => cases h
    | case5 => cases h
    | case6 c rest hquote hpair hlast _ _ hread ih =>
      cases h
      obtain ⟨body, rfl, hbody⟩ := ih hread
      refine ⟨c :: body, rfl, .plain hquote ?_ hbody⟩
      rintro rfl
      cases body with
      | nil => exact hpair _ _ rfl rfl
      | cons d body => exact hpair _ _ rfl rfl
    | case7 => cases h
  · rintro ⟨body, rfl, hbody⟩
    induction hbody with
    | nil => rfl
    | @plain c _ _ hquote hbackslash _ ih =>
      rw [List.cons_append, readString.eq_5 c _ hquote, ih]
      · intro _ _ hc
        exact absurd hc hbackslash
      · intro hc
        exact absurd hc hbackslash
    | escaped c _ ih => simp [readString, ih]

theorem stops_dropWhile (p : Char → Bool) (cs : List Char) : Stops p (cs.dropWhile p) := by
  intro c hc
  have hhead := List.head?_dropWhile_not p cs
  rw [hc] at hhead
  exact hhead

theorem stops_nil (p : Char → Bool) : Stops p [] :=
  fun _ hc => nomatch hc

theorem readSign_of_isDigit {c : Char} (h : c.isDigit = true) (rest : List Char) :
    readSign (c :: rest) = (false, c :: rest) := by
  rw [readSign.eq_def]
  split
  · next heq =>
    cases heq
    exact absurd h (by decide)
  · next heq =>
    cases heq
    exact absurd h (by decide)
  · rfl

section Number

variable {signed digits : List Char} {negative : Bool}

/-- A text is a sign that may be absent, then digits, then something else. -/
theorem exists_of_readSign (cs : List Char) :
    ∃ signed digits after negative, cs = signed ++ digits ++ after ∧ IsSign signed negative ∧
      readSign cs = (negative, digits ++ after) ∧ digits.all Char.isDigit = true ∧
        Stops Char.isDigit after := by
  have hsplit : ∃ signed unsigned negative, cs = signed ++ unsigned ∧ IsSign signed negative ∧
      readSign cs = (negative, unsigned) := by
    rw [readSign.eq_def]
    split
    · exact ⟨['-'], _, true, rfl, .minus, rfl⟩
    · exact ⟨['+'], _, false, rfl, .plus, rfl⟩
    · exact ⟨[], cs, false, rfl, .absent, rfl⟩
  obtain ⟨signed, unsigned, negative, rfl, hsign, hread⟩ := hsplit
  have hunsigned := List.takeWhile_append_dropWhile (p := Char.isDigit) (l := unsigned)
  refine ⟨signed, unsigned.takeWhile Char.isDigit, unsigned.dropWhile Char.isDigit, negative, ?_,
    hsign, ?_, List.all_takeWhile, stops_dropWhile Char.isDigit unsigned⟩
  · rw [List.append_assoc, hunsigned]
  · rw [hread, hunsigned]

theorem IsNumeral.readSign_eq (h : IsNumeral signed digits negative) (after : List Char) :
    readSign (signed ++ digits ++ after) = (negative, digits ++ after) := by
  obtain ⟨hsign, hnonempty, hdigits⟩ := h
  cases hsign with
  | plus => rfl
  | minus => rfl
  | absent =>
    cases digits with
    | nil => exact absurd rfl hnonempty
    | cons c digits =>
      rw [List.all_cons, Bool.and_eq_true] at hdigits
      exact readSign_of_isDigit hdigits.1 _

/-- A numeral starts like a number. -/
theorem IsNumeral.exists_cons (h : IsNumeral signed digits negative) :
    ∃ c rest, signed ++ digits = c :: rest ∧ startsNumber c = true := by
  obtain ⟨hsign, hnonempty, hdigits⟩ := h
  cases hsign with
  | plus => exact ⟨'+', digits, rfl, rfl⟩
  | minus => exact ⟨'-', digits, rfl, rfl⟩
  | absent =>
    cases digits with
    | nil => exact absurd rfl hnonempty
    | cons c digits =>
      rw [List.all_cons, Bool.and_eq_true] at hdigits
      exact ⟨c, digits, rfl, by simp [startsNumber, hdigits.1]⟩

variable (hsign : readSign (signed ++ digits ++ after) = (negative, digits ++ after))
  (hdigits : digits.all Char.isDigit = true) (hafter : Stops Char.isDigit after)

include hsign hdigits hafter

theorem readNumber_of_no_digits (hnil : digits = []) :
    readNumber total (signed ++ digits ++ after) =
      .error (.unexpectedChar (after.headD ' ') (offset total after)) := by
  rw [readNumber, hsign]
  simp only [takeWhile_of_stops hdigits hafter, dropWhile_of_stops hdigits hafter]
  exact if_pos hnil

theorem readNumber_of_point (hnonempty : digits ≠ []) {more : List Char}
    (hpoint : after = '.' :: more) :
    readNumber total (signed ++ digits ++ after) =
      .ok (.decimal ⟨negative, Nat.ofDigitChars 10 (digits ++ more.takeWhile Char.isDigit) 0,
        (more.takeWhile Char.isDigit).length⟩, more.dropWhile Char.isDigit) := by
  rw [readNumber, hsign]
  simp only [takeWhile_of_stops hdigits hafter, dropWhile_of_stops hdigits hafter, hnonempty,
    if_false]
  subst hpoint
  rfl

theorem readNumber_of_no_point (hnonempty : digits ≠ []) (hpoint : after.head? ≠ some '.') :
    readNumber total (signed ++ digits ++ after) =
      match int64? negative (Nat.ofDigitChars 10 digits 0) with
      | some v => .ok (.int v, after)
      | none => .error (.unexpectedToken .number ("'" ++ String.ofList (signed ++ digits) ++ "'")
          (offset total (signed ++ digits ++ after))) := by
  have hsource : (signed ++ digits ++ after).take
      ((signed ++ digits ++ after).length - after.length) = signed ++ digits := by
    rw [List.length_append, Nat.add_sub_cancel]
    exact List.take_left
  rw [readNumber, hsign]
  simp only [takeWhile_of_stops hdigits hafter, dropWhile_of_stops hdigits hafter, hnonempty,
    if_false, hsource]
  split
  · exact absurd rfl hpoint
  · rfl

end Number

theorem source_of_readNumber {t : Token} (h : readNumber total cs = .ok (t, after)) :
    ∃ word, cs = word ++ after ∧ t.Source word ∧ t.EndsBefore after := by
  obtain ⟨signed, digits, rest, negative, rfl, hsign, hread, hdigits, hrest⟩ :=
    exists_of_readSign cs
  by_cases hnil : digits = []
  · rw [readNumber_of_no_digits hread hdigits hrest hnil] at h
    cases h
  · have hnumeral : IsNumeral signed digits negative := ⟨hsign, hnil, hdigits⟩
    by_cases hpoint : rest.head? = some '.'
    · obtain ⟨more, rfl⟩ : ∃ more, rest = '.' :: more := List.head?_eq_some_iff.mp hpoint
      rw [readNumber_of_point hread hdigits hrest hnil rfl] at h
      cases h
      refine ⟨_, ?_, .decimal hnumeral List.all_takeWhile, stops_dropWhile Char.isDigit more⟩
      rw [List.append_assoc _ _ (more.dropWhile Char.isDigit), List.cons_append,
        List.takeWhile_append_dropWhile]
    · rw [readNumber_of_no_point hread hdigits hrest hnil hpoint] at h
      split at h
      · next v hv =>
        cases h
        exact ⟨_, rfl, .int hnumeral hv, hrest, hpoint⟩
      · cases h

theorem source_of_readToken {c : Char} {rest : List Char} {t : Token}
    (h : readToken total c rest = .ok (t, after)) :
    ∃ word, c :: rest = word ++ after ∧ t.Source word ∧ t.EndsBefore after := by
  cases hsymbol : Token.symbol? c with
  | some symbol =>
    rw [readToken_of_symbol? hsymbol] at h
    cases h
    have hends := endsBefore_of_isSymbol (isSymbol_of_symbol? hsymbol) after
    exact ⟨[c], rfl, .symbol hsymbol, hends⟩
  | none =>
    rw [readToken, hsymbol] at h
    dsimp only at h
    split at h
    · next hquote =>
      subst hquote
      split at h
      · next content _ hread =>
        cases h
        obtain ⟨body, rfl, hbody⟩ := readString_eq_some_iff.mp hread
        exact ⟨'"' :: (body ++ ['"']), by simp, .str hbody, trivial⟩
      · cases h
    · split at h
      · exact source_of_readNumber h
      · split at h
        · next hfirst =>
          cases h
          have hname : isName (String.ofList (c :: rest.takeWhile isNameChar)) = true := by
            simp [isName, hfirst]
          have hword := Token.Source.ident hname
          rw [String.toList_ofList] at hword
          refine ⟨_, ?_, hword, stops_dropWhile isNameChar rest⟩
          rw [List.cons_append, List.takeWhile_append_dropWhile]
        · cases h

theorem readToken_of_source {t : Token} {word : List Char} (hword : t.Source word)
    (hends : t.EndsBefore after) (total : Nat) :
    ∃ c rest, word = c :: rest ∧ Text.isBlank c = false ∧
      readToken total c (rest ++ after) = .ok (t, after) := by
  cases hword with
  | @ident name h =>
    rw [isName] at h
    split at h
    · cases h
    · next c rest hname =>
      obtain ⟨hfirst, hrest⟩ := Bool.and_eq_true_iff.mp h
      have hrange := toNat_of_startsName hfirst
      refine ⟨c, rest, hname, not_isBlank (by omega) (by omega), ?_⟩
      rw [readToken_of_startsName hfirst, takeWhile_of_stops hrest hends,
        dropWhile_of_stops hrest hends, ← hname, String.ofList_toList]
  | @int signed digits negative v h hv =>
    obtain ⟨c, rest, hcons, hstarts⟩ := h.exists_cons
    have hrange := toNat_of_startsNumber hstarts
    refine ⟨c, rest, hcons, not_isBlank (by omega) (by omega), ?_⟩
    rw [readToken_of_startsNumber hstarts, ← List.cons_append, ← hcons,
      readNumber_of_no_point (h.readSign_eq after) h.digits hends.1 h.nonempty hends.2, hv]
  | @decimal signed digits fraction negative h hfraction =>
    obtain ⟨c, rest, hcons, hstarts⟩ := h.exists_cons
    have hrange := toNat_of_startsNumber hstarts
    have hpoint : Stops Char.isDigit ('.' :: (fraction ++ after)) := by
      intro d hd
      cases hd
      decide
    refine ⟨c, rest ++ '.' :: fraction, by rw [hcons, List.cons_append],
      not_isBlank (by omega) (by omega), ?_⟩
    rw [readToken_of_startsNumber hstarts, List.append_assoc, ← List.cons_append, ← hcons,
      List.cons_append,
      readNumber_of_point (h.readSign_eq _) h.digits hpoint h.nonempty rfl,
      takeWhile_of_stops hfraction hends, dropWhile_of_stops hfraction hends]
  | @str body content h =>
    refine ⟨'"', body ++ ['"'], rfl, by decide, ?_⟩
    have hread : readString (body ++ ['"'] ++ after) = some (content, after) :=
      readString_eq_some_iff.mpr ⟨body, by simp, h⟩
    rw [readToken_quote, hread]
  | @symbol c _ h =>
    have hrange := toNat_of_symbol? h
    refine ⟨c, [], rfl, ?_, readToken_of_symbol? h⟩
    simp only [List.mem_cons, List.not_mem_nil, or_false] at hrange
    exact not_isBlank (by omega) (by omega)

theorem endsBefore_nil (t : Token) : t.EndsBefore [] := by
  cases t with
  | ident => exact stops_nil isNameChar
  | int => exact ⟨stops_nil Char.isDigit, by simp⟩
  | decimal => exact stops_nil Char.isDigit
  | _ => trivial

/-- A word is not empty and does not start with white space. -/
theorem exists_cons_of_source {t : Token} {word : List Char} (h : t.Source word) :
    ∃ c rest, word = c :: rest ∧ Text.isBlank c = false := by
  obtain ⟨c, rest, hcons, hc, -⟩ := readToken_of_source h (endsBefore_nil t) 0
  exact ⟨c, rest, hcons, hc⟩

/-- The characters of a name. -/
theorem isNameChar_of_isName {name : String} (h : isName name = true) {c : Char}
    (hc : c ∈ name.toList) : isNameChar c = true := by
  rw [isName] at h
  split at h
  · cases h
  · next first rest hname =>
    obtain ⟨hfirst, hrest⟩ := Bool.and_eq_true_iff.mp h
    rw [hname] at hc
    rcases List.mem_cons.mp hc with rfl | hc
    · rcases Bool.or_eq_true_iff.mp hfirst with halpha | hunder
      · simp [isNameChar, Char.isAlphanum, halpha]
      · simp [isNameChar, hunder]
    · exact List.all_eq_true.mp hrest c hc

theorem toList_ne_nil_of_isName {name : String} (h : isName name = true) : name.toList ≠ [] := by
  intro hnil
  rw [isName, hnil] at h
  cases h

theorem exists_last_of_forall {P : Char → Prop} {cs : List Char} (hne : cs ≠ [])
    (h : ∀ c ∈ cs, P c) : ∃ front c, cs = front ++ [c] ∧ P c :=
  ⟨_, _, (List.dropLast_append_getLast hne).symm, h _ (List.getLast_mem hne)⟩

/-- A word does not end with white space. -/
theorem exists_last_of_source {t : Token} {word : List Char} (h : t.Source word) :
    ∃ front c, word = front ++ [c] ∧ Text.isBlank c = false := by
  have hdigit : ∀ c : Char, c.isDigit = true → Text.isBlank c = false := by
    intro c hc
    have hrange := toNat_of_isDigit hc
    exact not_isBlank (by omega) (by omega)
  cases h with
  | @ident name h =>
    refine exists_last_of_forall (toList_ne_nil_of_isName h) fun c hc => ?_
    have hrange := toNat_of_isNameChar (isNameChar_of_isName h hc)
    exact not_isBlank (by omega) (by omega)
  | @int signed digits negative v h hv =>
    obtain ⟨front, c, rfl, hc⟩ := exists_last_of_forall h.nonempty fun c hc =>
      hdigit c (List.all_eq_true.mp h.digits c hc)
    exact ⟨signed ++ front, c, by rw [List.append_assoc], hc⟩
  | @decimal signed digits fraction negative h hfraction =>
    have hpoint : ∀ c ∈ '.' :: fraction, Text.isBlank c = false :=
      List.forall_mem_cons.mpr
        ⟨by decide, fun c hc => hdigit c (List.all_eq_true.mp hfraction c hc)⟩
    obtain ⟨front, c, hlast, hc⟩ := exists_last_of_forall (List.cons_ne_nil '.' fraction) hpoint
    exact ⟨signed ++ digits ++ front, c, by rw [hlast, ← List.append_assoc], hc⟩
  | @str body content h => exact ⟨'"' :: body, '"', rfl, by decide⟩
  | @symbol c _ h =>
    have hrange := toNat_of_symbol? h
    simp only [List.mem_cons, List.not_mem_nil, or_false] at hrange
    exact ⟨[], c, rfl, not_isBlank (by omega) (by omega)⟩

theorem readToken_eq_ok_iff {c : Char} {rest : List Char} {t : Token} :
    readToken total c rest = .ok (t, after) ↔
      ∃ word, c :: rest = word ++ after ∧ t.Source word ∧ t.EndsBefore after := by
  constructor
  · exact source_of_readToken
  · rintro ⟨word, hcons, hword, hends⟩
    obtain ⟨d, others, rfl, -, hread⟩ := readToken_of_source hword hends total
    cases hcons
    exact hread

end Lexer

/-- The mark for the end is not read from any word. -/
theorem Token.ne_stop_of_source {t : Token} {word : List Char} (h : t.Source word) : t ≠ .stop := by
  rintro rfl
  cases h with
  | symbol hc => cases Lexer.isSymbol_of_symbol? hc

/-- A token of a text: the white space in front of it and the word that it was read from. -/
structure Lexeme where
  gap : List Char
  word : List Char
  token : Token

namespace Lexer

/-- A text is made of words with white space around them. -/
inductive Scans : List Char → List Lexeme → Prop
  | done {gap : List Char} (h : gap.all Text.isBlank = true) : Scans gap []
  | next {gap word after : List Char} {t : Token} {ls : List Lexeme}
      (hgap : gap.all Text.isBlank = true) (hword : t.Source word) (hends : t.EndsBefore after)
      (hrest : Scans after ls) : Scans (gap ++ word ++ after) (⟨gap, word, t⟩ :: ls)

/-- Tokens at the positions of their words, in a text that starts at a position. -/
def locate (position : Nat) : List Lexeme → List Located
  | [] => []
  | l :: ls =>
    ⟨l.token, position + utf8Length l.gap⟩ :: locate (position + utf8Length (l.gap ++ l.word)) ls

@[simp] theorem utf8Length_append (cs ds : List Char) :
    utf8Length (cs ++ ds) = utf8Length cs + utf8Length ds := by
  induction cs with
  | nil => simp [utf8Length]
  | cons c cs ih => simp [utf8Length, ih, Nat.add_assoc]

/-- The length of a text is its size in the encoding. -/
theorem utf8ByteSize_ofList (cs : List Char) : (String.ofList cs).utf8ByteSize = utf8Length cs := by
  induction cs with
  | nil => rfl
  | cons c cs ih =>
    rw [String.ofList_cons, String.utf8ByteSize_append, String.utf8ByteSize_singleton, ih]
    rfl

theorem tokensOf_locate (position : Nat) (ls : List Lexeme) :
    WrittenSection.tokensOf (locate position ls) = ls.map (·.token) := by
  induction ls generalizing position with
  | nil => rfl
  | cons l ls ih => rw [locate, WrittenSection.tokensOf_cons, ih, List.map_cons]

/-- White space in front of a text is part of what stands in front of its first word. -/
theorem Scans.append_gap {gap cs : List Char} {ls : List Lexeme}
    (hgap : gap.all Text.isBlank = true) (h : Scans cs ls) :
    ∃ all, Scans (gap ++ cs) all ∧ all.map (·.token) = ls.map (·.token) ∧
      ∀ position, locate position all = locate (position + utf8Length gap) ls := by
  cases h with
  | done hrest => exact ⟨[], .done (by rw [List.all_append, hgap, hrest]; rfl), rfl, fun _ => rfl⟩
  | @next gap' word after t ls hgap' hword hends hrest =>
    have hall : (gap ++ gap').all Text.isBlank = true := by
      rw [List.all_append, hgap, hgap']
      rfl
    have hscans := Scans.next hall hword hends hrest
    rw [List.append_assoc, List.append_assoc, ← List.append_assoc gap'] at hscans
    exact ⟨_, hscans, rfl, fun position => by simp [locate, Nat.add_assoc]⟩

theorem readTokens_blank {cs : List Char} (h : cs.all Text.isBlank = true) (total : Nat) :
    readTokens total cs = .ok [⟨.stop, total⟩] := by
  have hnil : cs.dropWhile Text.isBlank = [] :=
    List.dropWhile_eq_nil_iff.mpr (List.all_eq_true.mp h)
  rw [readTokens.eq_def]
  split
  · rfl
  · next hcs =>
    rw [hnil] at hcs
    cases hcs

theorem readTokens_cons {total : Nat} {cs rest after : List Char} {c : Char} {t : Token}
    {tokens : List Located} (hcs : cs.dropWhile Text.isBlank = c :: rest)
    (htoken : readToken total c rest = .ok (t, after))
    (hrest : readTokens total after = .ok tokens) :
    readTokens total cs = .ok (⟨t, offset total (c :: rest)⟩ :: tokens) := by
  rw [readTokens.eq_def]
  split
  · next hnil =>
    rw [hnil] at hcs
    cases hcs
  · next hword =>
    rw [hcs] at hword
    cases hword
    split
    · next herror =>
      rw [htoken] at herror
      cases herror
    · next hread =>
      rw [htoken] at hread
      cases hread
      rw [hrest]

theorem readTokens_of_scans {cs : List Char} {ls : List Lexeme} (h : Scans cs ls)
    (position : Nat) :
    readTokens (position + utf8Length cs) cs =
      .ok (locate position ls ++ [⟨.stop, position + utf8Length cs⟩]) := by
  induction h generalizing position with
  | done hgap => exact readTokens_blank hgap _
  | @next gap word after t ls hgap hword hends _ ih =>
    have hrest := ih (position + utf8Length (gap ++ word))
    rw [Nat.add_assoc, ← utf8Length_append] at hrest
    obtain ⟨c, rest, rfl, hc, hread⟩ :=
      readToken_of_source hword hends (position + utf8Length (gap ++ word ++ after))
    have hdrop : (gap ++ c :: rest ++ after).dropWhile Text.isBlank = c :: (rest ++ after) := by
      rw [List.append_assoc, List.dropWhile_append_of_pos (List.all_eq_true.mp hgap)]
      simp [hc]
    have hoffset :
        offset (position + utf8Length (gap ++ c :: rest ++ after)) (c :: (rest ++ after)) =
        position + utf8Length gap := by
      rw [offset, List.append_assoc, List.cons_append, utf8Length_append]
      omega
    rw [readTokens_cons hdrop hread hrest, hoffset]
    rfl

theorem scans_of_readTokens {total : Nat} {cs : List Char} {located : List Located}
    (h : readTokens total cs = .ok located) : ∃ ls, Scans cs ls := by
  fun_induction readTokens total cs generalizing located with
  | case1 cs hcs => exact ⟨[], .done (List.all_eq_true.mpr (List.dropWhile_eq_nil_iff.mp hcs))⟩
  | case2 => cases h
  | case3 => cases h
  | case4 cs c rest hcs t after htoken tokens hrest ih =>
    obtain ⟨ls, hls⟩ := ih hrest
    obtain ⟨word, hcons, hword, hends⟩ := readToken_eq_ok_iff.mp htoken
    have hsplit := List.takeWhile_append_dropWhile (p := Text.isBlank) (l := cs)
    rw [hcs, hcons, ← List.append_assoc] at hsplit
    rw [← hsplit]
    exact ⟨_, .next List.all_takeWhile hword hends hls⟩

/-- A text has tokens exactly if it is made of words; every token is where its word is. -/
theorem tokenize_eq_ok_iff {text : String} {located : List Located} :
    tokenize text = .ok located ↔
      ∃ ls, Scans text.toList ls ∧
        located = locate 0 ls ++ [⟨.stop, utf8Length text.toList⟩] := by
  have hread : ∀ {ls}, Scans text.toList ls →
      tokenize text = .ok (locate 0 ls ++ [⟨.stop, utf8Length text.toList⟩]) := by
    intro ls h
    have hread := readTokens_of_scans h 0
    rw [Nat.zero_add] at hread
    exact hread
  constructor
  · intro h
    obtain ⟨ls, hls⟩ := scans_of_readTokens h
    have hsame := (hread hls).symm.trans h
    cases hsame
    exact ⟨ls, hls, rfl⟩
  · rintro ⟨ls, hls, rfl⟩
    exact hread hls

end Lexer

end ReleaseNames
