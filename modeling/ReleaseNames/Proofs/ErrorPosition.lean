import ReleaseNames.Proofs.Blame
import ReleaseNames.Proofs.Spelling

/-!
# Where errors point

The position of an error is where the expression goes on with what the error is
about. An error of the lexer is about the text that is left to read, and every
token is where its word is. Positions count bytes, so they are compared with the
sizes of texts in their encoding.
-/

namespace ReleaseNames

namespace Decimal

theorem mem_of_mem_positional {digits : List Char} {place : Int} {c : Char}
    (h : c ∈ positional digits place) : c ∈ digits ∨ c = '0' ∨ c = '.' := by
  rw [positional.eq_def] at h
  split at h
  · rcases List.mem_append.mp h with h | h
    · exact .inl h
    · exact .inr (.inl (List.eq_of_mem_replicate h))
  · dsimp only at h
    split at h
    · rcases List.mem_append.mp h with h | h
      · exact .inl (List.mem_of_mem_take h)
      · rcases List.mem_cons.mp h with h | h
        · exact .inr (.inr h)
        · exact .inl (List.mem_of_mem_drop h)
    · rcases List.mem_cons.mp h with h | h
      · exact .inr (.inl h)
      · rcases List.mem_cons.mp h with h | h
        · exact .inr (.inr h)
        · rcases List.mem_append.mp h with h | h
          · exact .inr (.inl (List.eq_of_mem_replicate h))
          · exact .inl h

theorem not_mem_positionalNumber (number : Nat) (place : Int) :
    'e' ∉ positionalNumber number place := by
  intro h
  rcases mem_of_mem_positional h with h | h | h
  · have hdigit : 'e' ∈ Nat.toDigits 10 number := by
      rw [dropTrailingZeros, List.mem_reverse] at h
      exact List.mem_reverse.mp ((List.dropWhile_sublist _).subset h)
    exact absurd (Nat.isDigit_of_mem_toDigits (by decide) (by decide) hdigit) (by decide)
  · cases h
  · cases h

/-- A number is shown without letters, or as infinite. -/
theorem not_mem_shown (d : Decimal) : 'e' ∉ d.shown.toList := by
  have htext : ∀ x : Double, 'e' ∉ x.text := by
    intro x
    cases x with
    | infinite => decide +kernel
    | finite significand exponent =>
      rw [Double.text]
      split
      · decide
      · exact not_mem_positionalNumber _ _
  rw [shown, String.toList_ofList]
  split
  · simpa using htext _
  · exact htext _

end Decimal

namespace Token

/-- Only the end of an expression is shown as such. -/
theorem shown_ne_stop {t : Token} (h : t ≠ .stop) : t.shown ≠ Token.stop.shown := by
  have hmem : 'e' ∈ Token.stop.shown.toList := by decide +kernel
  have hhead : Token.stop.shown.toList.head? = some 'e' := by decide +kernel
  intro hshown
  rw [← hshown] at hmem hhead
  cases t with
  | decimal d => exact d.not_mem_shown hmem
  | int v =>
    rw [shown, Lexer.toList_toString] at hmem
    rcases List.mem_append.mp hmem with hsign | hdigit
    · rw [Lexer.sign] at hsign
      split at hsign <;> simp at hsign
    · exact absurd (List.all_eq_true.mp (Lexer.isDigit_toDigits _) _ hdigit) (by decide)
  | stop => exact h rfl
  | ident name => simp [shown] at hhead
  | str content => simp [shown] at hhead
  | _ => exact absurd hshown (by decide)

end Token

/-- What is shown is the end of an expression exactly if the expression ends there. -/
theorem Offending.eq_stop_iff {found : String} {rest : List Char} (h : Offending found rest) :
    found = Token.stop.shown ↔ rest = [] := by
  cases h with
  | stop => simp
  | token hword _ =>
    obtain ⟨c, word, rfl, -⟩ := Lexer.exists_cons_of_source hword
    exact iff_of_false (Token.shown_ne_stop (Token.ne_stop_of_source hword)) (by simp)
  | number h _ _ =>
    refine iff_of_false ?_ (by simp [h.nonempty])
    intro hshown
    have hhead := congrArg (·.toList.head?) hshown
    have hstop : Token.stop.shown.toList.head? = some 'e' := by decide +kernel
    simp [hstop] at hhead

namespace ExpressionError

open Lexer

/-- The error points into what is left to read of an expression of `total` bytes. -/
def PointsInto (e : ExpressionError) (total : Nat) (cs : List Char) : Prop :=
  ∃ before rest, cs = before ++ rest ∧ e.position = offset total rest ∧ e.PointsTo rest

variable {e : ExpressionError} {total : Nat} {cs : List Char}

theorem PointsInto.append (h : e.PointsInto total cs) (front : List Char) :
    e.PointsInto total (front ++ cs) := by
  obtain ⟨before, rest, rfl, hposition, hpoints⟩ := h
  exact ⟨front ++ before, rest, (List.append_assoc _ _ _).symm, hposition, hpoints⟩

theorem pointsInto_of_readNumber (h : readNumber total cs = .error e) : e.PointsInto total cs := by
  obtain ⟨signed, digits, after, negative, rfl, hsign, hread, hdigits, hafter⟩ :=
    exists_of_readSign cs
  by_cases hnil : digits = []
  · rw [readNumber_of_no_digits hread hdigits hafter hnil] at h
    cases h
    refine ⟨signed ++ digits, after, rfl, rfl, ?_⟩
    cases after with
    | nil => exact .inr ⟨rfl, rfl⟩
    | cons c after => exact .inl rfl
  · by_cases hpoint : after.head? = some '.'
    · obtain ⟨more, rfl⟩ : ∃ more, after = '.' :: more := List.head?_eq_some_iff.mp hpoint
      rw [readNumber_of_point hread hdigits hafter hnil rfl] at h
      cases h
    · rw [readNumber_of_no_point hread hdigits hafter hnil hpoint] at h
      split at h
      · cases h
      · next hv =>
        cases h
        have hoffending := Offending.number ⟨hsign, hnil, hdigits⟩ hafter hv
        exact ⟨[], _, rfl, rfl, hoffending, hoffending.eq_stop_iff⟩

theorem pointsInto_of_readToken {c : Char} {rest : List Char}
    (h : readToken total c rest = .error e) : e.PointsInto total (c :: rest) := by
  rw [readToken] at h
  split at h
  · cases h
  · split at h
    · next hquote =>
      split at h
      · cases h
      · cases h
        exact ⟨[], c :: rest, rfl, rfl, congrArg some hquote⟩
    · split at h
      · exact pointsInto_of_readNumber h
      · split at h
        · cases h
        · cases h
          exact ⟨[], c :: rest, rfl, rfl, .inl rfl⟩

theorem pointsInto_of_readTokens (h : readTokens total cs = .error e) :
    e.PointsInto total cs := by
  have hsplit : ∀ cs : List Char, cs.takeWhile Text.isBlank ++ cs.dropWhile Text.isBlank = cs :=
    fun cs => List.takeWhile_append_dropWhile
  fun_induction readTokens total cs with
  | case1 => cases h
  | case2 cs c rest hcs e' htoken =>
    cases h
    have hpoints := (pointsInto_of_readToken htoken).append (cs.takeWhile Text.isBlank)
    rw [← hcs, hsplit] at hpoints
    exact hpoints
  | case3 cs c rest hcs t after htoken e' hrest ih =>
    cases h
    obtain ⟨word, hword, -, -⟩ := readToken_eq_ok_iff.mp htoken
    have hpoints := ((ih hrest).append word).append (cs.takeWhile Text.isBlank)
    rw [← hword, ← hcs, hsplit] at hpoints
    exact hpoints
  | case4 => cases h

/-- A token is at the word that it was read from. -/
theorem exists_of_mem_locate {ls : List Lexeme} (h : Scans cs ls) {position : Nat} {t : Located}
    (ht : t ∈ locate position ls) :
    ∃ before word after, cs = before ++ (word ++ after) ∧
      t.position = position + utf8Length before ∧ t.token.Source word ∧
        t.token.EndsBefore after := by
  induction h generalizing position with
  | done => cases ht
  | @next gap word after token ls _ hword hends _ ih =>
    rcases List.mem_cons.mp ht with rfl | ht
    · exact ⟨gap, word, after, List.append_assoc _ _ _, rfl, hword, hends⟩
    · obtain ⟨before, word', after', rfl, hposition, hword', hends'⟩ := ih ht
      refine ⟨gap ++ word ++ before, word', after', (List.append_assoc _ _ _).symm, ?_, hword',
        hends'⟩
      rw [hposition, Nat.add_assoc, ← utf8Length_append]

/-- An error that is about a token of an expression points to its word, or to the end. -/
theorem Blames.pointsInto {ls : List Lexeme} (h : Scans cs ls)
    (hblames : e.Blames (locate 0 ls ++ [⟨.stop, utf8Length cs⟩])) :
    e.PointsInto (utf8Length cs) cs := by
  have hoffset : ∀ before rest : List Char,
      utf8Length before = offset (utf8Length (before ++ rest)) rest := by
    intro before rest
    rw [offset, utf8Length_append, Nat.add_sub_cancel]
  cases hblames with
  | @token t expected ht =>
    rcases List.mem_append.mp ht with ht | ht
    · obtain ⟨before, word, after, rfl, hposition, hword, hends⟩ := exists_of_mem_locate h ht
      rw [Nat.zero_add] at hposition
      have hoffending := Offending.token hword hends
      exact ⟨before, word ++ after, rfl, hposition.trans (hoffset before _), hoffending,
        hoffending.eq_stop_iff⟩
    · obtain rfl := List.mem_singleton.mp ht
      exact ⟨cs, [], (List.append_nil cs).symm, rfl, .stop, Offending.stop.eq_stop_iff⟩
  | @name _ name position hmem hnames =>
    rcases List.mem_append.mp hmem with ht | ht
    · obtain ⟨before, word, after, rfl, hposition, hword, hends⟩ := exists_of_mem_locate h ht
      rw [Nat.zero_add] at hposition
      refine ⟨before, word ++ after, rfl, ?_, hnames.points _ ?_⟩
      · exact (hnames.position.trans hposition).trans (hoffset before _)
      · cases hword with
        | ident hname => exact ⟨hname, after, rfl, hends⟩
        | symbol hc => cases isSymbol_of_symbol? hc
    · cases List.mem_singleton.mp ht

theorem pointsInto_of_compile {text : String} (h : compile (some text) = .error e) :
    e.PointsInto (utf8Length text.toList) text.toList := by
  rw [compile] at h
  split at h
  · cases h
  · rcases Outcome.bind_eq_error.mp h with hread | ⟨located, hread, h⟩
    · exact pointsInto_of_readTokens hread
    · obtain ⟨ls, hls, rfl⟩ := tokenize_eq_ok_iff.mp hread
      have hstop : Token.stop ∈
          WrittenSection.tokensOf (locate 0 ls ++ [⟨.stop, utf8Length text.toList⟩]) := by
        simp
      refine Blames.pointsInto hls ?_
      rcases Outcome.bind_eq_error.mp h with hsections | ⟨sections, hsections, h⟩
      · exact WrittenSection.blames_of_readAll hstop hsections
      · exact Program.blames_of_ofSections (WrittenSection.within_of_readAll hsections) h

end ExpressionError

/-- The position of an error lies between two characters of the expression, or at its end, and
there the expression goes on with what the error is about. -/
theorem error_points {text : String} {e : ExpressionError}
    (h : compile (some text) = .error e) :
    e.position ≤ text.utf8ByteSize ∧ String.Pos.Raw.IsValid text ⟨e.position⟩ ∧
      ∃ before rest : String, text = before ++ rest ∧ before.utf8ByteSize = e.position ∧
        e.PointsTo rest.toList := by
  obtain ⟨before, rest, htext, hposition, hpoints⟩ := ExpressionError.pointsInto_of_compile h
  have hsplit : text = String.ofList before ++ String.ofList rest := by
    rw [← String.ofList_append, ← htext, String.ofList_toList]
  have hsize : (String.ofList before).utf8ByteSize = e.position := by
    rw [hposition, htext, Lexer.offset, Lexer.utf8Length_append, Nat.add_sub_cancel,
      Lexer.utf8ByteSize_ofList]
  have hvalid : String.Pos.Raw.IsValid text ⟨e.position⟩ :=
    String.Pos.Raw.isValid_iff_exists_append.mpr
      ⟨_, _, hsplit, by rw [← hsize]; rfl⟩
  refine ⟨?_, hvalid, _, _, hsplit, hsize, ?_⟩
  · exact hvalid.le_utf8ByteSize
  · rw [String.toList_ofList]
    exact hpoints

theorem error_points_past_accent :
    let text := "t:str_replace_space(\"é\") > zz"
    let e : ExpressionError := .unknownRule "zz" 28
    compile (some text) = .error e ∧ e.position ≤ text.utf8ByteSize ∧
      String.Pos.Raw.IsValid text ⟨e.position⟩ ∧
        ∃ before rest : String, text = before ++ rest ∧ before.utf8ByteSize = e.position ∧
          NameAt "zz" rest.toList := by
  intro text e
  have herror : compile (some text) = .error e := by decide +kernel
  exact ⟨herror, error_points herror⟩

end ReleaseNames
