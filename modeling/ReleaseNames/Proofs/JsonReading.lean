import ReleaseNames.Json
import ReleaseNames.Proofs.Lexeme
import ReleaseNames.Proofs.Pieces

/-!
# Compact JSON is read back

The reader gives back every tree from its compact text, whatever stands after the
text, as long as this does not continue a number. The parts are read one at a
time: an escaped character, a text, a numeral, and then, by induction on the tree,
the items of arrays and the members of objects.

A compact text has no control character, since those in quotes are escaped.
-/

namespace ReleaseNames.Json

open Lexer (Stops)

variable {fuel : Nat} {c : Char} {cs rest : List Char}

/-- A property of all trees, from the items of arrays and the values of members. -/
@[induction_eliminator]
theorem induct {motive : Json → Prop} (null : motive .null) (truth : ∀ b, motive (.truth b))
    (number : ∀ n, motive (.number n)) (text : ∀ s, motive (.text s))
    (array : ∀ items, (∀ j ∈ items, motive j) → motive (.array items))
    (object : ∀ members, (∀ m ∈ members, motive m.2) → motive (.object members)) (j : Json) :
    motive j :=
  @Json.rec motive (fun items => ∀ j ∈ items, motive j) (fun members => ∀ m ∈ members, motive m.2)
    (fun m => motive m.2) null truth number text array object (by simp)
    (fun _ _ hitem hitems => List.forall_mem_cons.mpr ⟨hitem, hitems⟩) (by simp)
    (fun _ _ hmember hmembers => List.forall_mem_cons.mpr ⟨hmember, hmembers⟩)
    (fun _ _ hvalue => hvalue) j

theorem compactItems_eq_map (items : List Json) : compactItems items = items.map compact := by
  induction items with
  | nil => rfl
  | cons item items ih => rw [compactItems, ih, List.map_cons]

theorem compactMembers_eq_map (members : List (String × Json)) :
    compactMembers members = members.map fun m => (m.1, m.2.compact) := by
  induction members with
  | nil => rfl
  | cons m members ih => rw [compactMembers, ih, List.map_cons]

/-! ## Texts -/

theorem readCode_escaped {n : Nat} (h : n < 0x20) (rest : List Char) :
    readCode ('0' :: '0' :: Nat.digitChar (n / 16) :: Nat.digitChar (n % 16) :: rest) =
      some (Char.ofNat n, rest) := by
  have hdigits : ∀ k : Fin 0x20, Toml.hexNumber? 0
      ['0', '0', Nat.digitChar (k / 16), Nat.digitChar (k % 16)] = some k.val := by decide
  have hunit : readUnit ('0' :: '0' :: Nat.digitChar (n / 16) :: Nat.digitChar (n % 16) :: rest) =
      some (n, rest) := by
    simp [readUnit, hdigits ⟨n, h⟩]
  have hvalid : n.isValidChar := .inl (by omega)
  simp [readCode, hunit, hvalid]

theorem readContent_escape {after : List Char} (h : readEscape after = some (c, rest)) :
    readContent (fuel + 1) ('\\' :: after) =
      (readContent fuel rest).map fun r => (c :: r.1, r.2) := by
  simp [readContent, h]

/-- One step of the reader takes back one written character. -/
theorem readContent_escapeChar (c : Char) :
    readContent (fuel + 1) (Payload.escapeChar c ++ rest) =
      (readContent fuel rest).map fun r => (c :: r.1, r.2) := by
  unfold Payload.escapeChar
  split_ifs with hquote hbackslash hback hfeed hline hreturn htab hcontrol
  · subst hquote; exact readContent_escape rfl
  · subst hbackslash; exact readContent_escape rfl
  · subst hback; exact readContent_escape rfl
  · subst hfeed; exact readContent_escape rfl
  · subst hline; exact readContent_escape rfl
  · subst hreturn; exact readContent_escape rfl
  · subst htab; exact readContent_escape rfl
  · have hcode := readCode_escaped hcontrol rest
    rw [Char.ofNat_toNat] at hcode
    exact readContent_escape hcode
  · simp only [List.singleton_append, readContent, hquote, hbackslash, hcontrol, if_false]

theorem readContent_quoted (cs : List Char) (hfuel : cs.length < fuel) :
    readContent fuel (cs.flatMap Payload.escapeChar ++ '"' :: rest) = some (cs, rest) := by
  induction cs generalizing fuel with
  | nil =>
    obtain ⟨fuel, rfl⟩ := Nat.exists_eq_succ_of_ne_zero (Nat.ne_zero_of_lt hfuel)
    simp [readContent]
  | cons c cs ih =>
    obtain ⟨fuel, rfl⟩ := Nat.exists_eq_succ_of_ne_zero (Nat.ne_zero_of_lt hfuel)
    rw [List.flatMap_cons, List.append_assoc, readContent_escapeChar,
      ih (by simpa using hfuel)]
    rfl

/-- No character is written as nothing, so a text has fuel for its characters. -/
theorem escapeChar_ne_nil (c : Char) : Payload.escapeChar c ≠ [] := by
  unfold Payload.escapeChar Payload.escapeCode
  repeat' split
  all_goals simp

theorem length_le_length_flatMap_escapeChar (cs : List Char) :
    cs.length ≤ (cs.flatMap Payload.escapeChar).length := by
  induction cs with
  | nil => simp
  | cons c cs ih =>
    have hpos := List.length_pos_iff.mpr (escapeChar_ne_nil c)
    rw [List.flatMap_cons, List.length_append, List.length_cons]
    omega

theorem quoted_append (s : String) :
    Payload.quoted s ++ rest = '"' :: (s.toList.flatMap Payload.escapeChar ++ '"' :: rest) := by
  simp [Payload.quoted]

theorem readText_quoted (s : String) :
    readText (s.toList.flatMap Payload.escapeChar ++ '"' :: rest) = some (s, rest) := by
  have hlength := length_le_length_flatMap_escapeChar s.toList
  rw [readText, readContent_quoted s.toList (by rw [List.length_append]; omega)]
  simp

/-! ## Numbers -/

theorem isNumeralChar_of_next? {p q : NumeralState} (h : p.next? c = some q) :
    isNumeralChar c = true := by
  have hzero : isNumeralChar '0' = true := rfl
  cases p <;> grind [NumeralState.next?, NumeralState.onDigit?, NumeralState.onFirstDigit?,
    NumeralState.onExponent?, NumeralState.onPoint?, isNumeralChar]

theorem all_of_foldlM {p q : NumeralState} (h : cs.foldlM NumeralState.next? p = some q) :
    cs.all isNumeralChar = true := by
  induction cs generalizing p with
  | nil => rfl
  | cons c cs ih =>
    rw [List.foldlM_cons] at h
    obtain ⟨next, hnext, hrest⟩ := Option.bind_eq_some_iff.mp h
    rw [List.all_cons, isNumeralChar_of_next? hnext, ih hrest, Bool.and_self]

theorem all_of_isNumeral (h : isNumeral cs = true) : cs.all isNumeralChar = true := by
  unfold isNumeral at h
  cases hq : cs.foldlM NumeralState.next? .start with
  | none => simp [hq] at h
  | some q => exact all_of_foldlM hq

theorem readNumber_numeral (n : Numeral) (hrest : Stops isNumeralChar rest) :
    readNumber (n.text ++ rest) = some (.number n, rest) := by
  have hall := all_of_isNumeral n.valid
  have htake := Lexer.takeWhile_of_stops hall hrest
  simp only [readNumber, htake, Lexer.dropWhile_of_stops hall hrest, n.valid, dif_pos]

/-- The characters that start a value other than a number. -/
def openers : List Char :=
  ['"', 'n', 't', 'f', '[', '\x7b']

theorem readValue_of_not_mem_openers (hc : c ∉ openers) :
    readValue (fuel + 1) (c :: rest) = readNumber (c :: rest) := by
  simp only [openers, List.mem_cons, not_or] at hc
  obtain ⟨hquote, hn, ht, hf, hbracket, hbrace, -⟩ := hc
  have hatom : readAtom (c :: rest) = readNumber (c :: rest) := by
    rw [readAtom] <;> simp [hquote, hn, ht, hf]
  rw [readValue, hatom]
  · simp [hbracket]
  · simp [hbrace]

theorem Numeral.text_eq_cons (n : Numeral) : ∃ c cs, n.text = c :: cs ∧ c ∉ openers := by
  have hvalid := n.valid
  cases htext : n.text with
  | nil =>
    rw [htext] at hvalid
    exact absurd hvalid (by decide)
  | cons c cs =>
    refine ⟨c, cs, rfl, fun hc => ?_⟩
    have hopeners : (openers.all fun d => NumeralState.start.next? d == none) = true := by decide
    have hfirst : NumeralState.start.next? c = none := by
      simpa using List.all_eq_true.mp hopeners c hc
    rw [htext, isNumeral, List.foldlM_cons, hfirst] at hvalid
    exact absurd hvalid (by simp)

theorem readValue_numeral (n : Numeral) (hrest : Stops isNumeralChar rest) :
    readValue (fuel + 1) (n.text ++ rest) = some (.number n, rest) := by
  obtain ⟨c, cs, htext, hc⟩ := n.text_eq_cons
  have hnumber := readNumber_numeral n hrest
  rw [htext, List.cons_append] at hnumber ⊢
  rw [readValue_of_not_mem_openers hc, hnumber]

/-! ## Arrays and objects -/

def memberText (m : String × Json) : List Char :=
  Payload.quoted m.1 ++ ':' :: m.2.compact

theorem compact_array (items : List Json) :
    (Json.array items).compact = '[' :: ([','].intercalate (items.map compact) ++ [']']) := by
  rw [compact, Payload.array, compactItems_eq_map]

theorem compact_object (members : List (String × Json)) :
    (Json.object members).compact =
      '\x7b' :: ([','].intercalate (members.map memberText) ++ ['\x7d']) := by
  rw [compact, Payload.object, compactMembers_eq_map, List.map_map]
  rfl

theorem readNumber_eq_none (hc : isNumeralChar c = false) : readNumber (c :: rest) = none := by
  simp [readNumber, hc, isNumeral, NumeralState.isEnd]

/-- What stands between the parts of a text or ends an array. No value starts with it. -/
def gaps : List Char :=
  [' ', '\n', '\r', '\t', ']']

theorem readValue_of_mem_gaps (hc : c ∈ gaps) : readValue fuel (c :: rest) = none := by
  have hgaps : (gaps.all fun d => !openers.contains d && !isNumeralChar d) = true := by decide
  have hc := List.all_eq_true.mp hgaps c hc
  simp only [Bool.and_eq_true, Bool.not_eq_true', List.contains_eq_mem, decide_eq_false_iff_not]
    at hc
  cases fuel with
  | zero => rfl
  | succ fuel => rw [readValue_of_not_mem_openers hc.1, readNumber_eq_none hc.2]

theorem not_mem_gaps_of_readValue {r : Json × List Char} (h : readValue fuel (c :: cs) = some r) :
    c ∉ gaps := by
  intro hc
  rw [readValue_of_mem_gaps hc] at h
  cases h

theorem skipSpace_of_not_mem_gaps (hc : c ∉ gaps) : skipSpace (c :: cs) = c :: cs := by
  simp only [gaps, List.mem_cons, not_or] at hc
  simp [skipSpace, hc]

/-- A tree comes back from its text, whatever stands after it. -/
def ReadsBack (j : Json) : Prop :=
  ∀ fuel rest, j.compact.length < fuel → Stops isNumeralChar rest →
    readValue fuel (j.compact ++ rest) = some (j, rest)

theorem ReadsBack.of_succ {j : Json}
    (h : ∀ fuel rest, j.compact.length ≤ fuel → Stops isNumeralChar rest →
      readValue (fuel + 1) (j.compact ++ rest) = some (j, rest)) : j.ReadsBack := by
  intro fuel rest hfuel hrest
  obtain ⟨fuel, rfl⟩ := Nat.exists_eq_succ_of_ne_zero (Nat.ne_zero_of_lt hfuel)
  exact h fuel rest (Nat.le_of_lt_succ hfuel) hrest

theorem stops_cons (hc : isNumeralChar c = false) : Stops isNumeralChar (c :: rest) := by
  simpa [Stops] using hc

theorem ReadsBack.compact_eq_cons {j : Json} (h : j.ReadsBack) :
    ∃ c cs, j.compact = c :: cs ∧ c ∉ gaps := by
  have hread := h (j.compact.length + 1) [] (by omega) (by simp [Stops])
  rw [List.append_nil] at hread
  cases hcompact : j.compact with
  | nil =>
    rw [hcompact] at hread
    rw [readValue_nil] at hread
    cases hread
  | cons c cs => exact ⟨c, cs, rfl, not_mem_gaps_of_readValue (hcompact ▸ hread)⟩

theorem intercalate_comma (text next : List Char) (texts : List (List Char)) :
    [','].intercalate (text :: next :: texts) =
      text ++ ',' :: [','].intercalate (next :: texts) := by
  rw [List.intercalate_cons_cons, List.append_assoc, List.singleton_append]

theorem intercalate_comma_eq_cons (c : Char) (cs : List Char) (texts : List (List Char)) :
    ∃ more, [','].intercalate ((c :: cs) :: texts) = c :: more := by
  cases texts with
  | nil => exact ⟨cs, List.intercalate_singleton⟩
  | cons next texts => exact ⟨_, intercalate_comma _ _ _⟩

/-- No space stands before the first item, and it starts unlike a closing bracket. -/
theorem ReadsBack.items_eq_cons {item : Json} (h : item.ReadsBack) (items : List Json) :
    ∃ c more, [','].intercalate ((item :: items).map compact) = c :: more ∧ c ∉ gaps := by
  obtain ⟨c, cs, hcompact, hc⟩ := h.compact_eq_cons
  obtain ⟨more, hmore⟩ := intercalate_comma_eq_cons c cs (items.map compact)
  exact ⟨c, more, by rw [List.map_cons, hcompact, hmore], hc⟩

/-- The items of an array come back one at a time. What stands after an item, a comma or the
bracket, has a character for the fuel that reading it takes. -/
theorem readItems_compact {items : List Json} (hread : ∀ j ∈ items, ReadsBack j)
    (hne : items ≠ []) (hfuel : ([','].intercalate (items.map compact)).length + 1 < fuel) :
    readItems fuel ([','].intercalate (items.map compact) ++ ']' :: rest) =
      some (items, rest) := by
  induction items generalizing fuel with
  | nil => exact absurd rfl hne
  | cons item items ih =>
    obtain ⟨hitem, hitems⟩ := List.forall_mem_cons.mp hread
    obtain ⟨fuel, rfl⟩ := Nat.exists_eq_succ_of_ne_zero (Nat.ne_zero_of_lt hfuel)
    rw [readItems_succ]
    cases items with
    | nil =>
      rw [List.map_singleton, List.intercalate_singleton] at hfuel ⊢
      rw [hitem fuel _ (by omega) (stops_cons rfl)]
      rfl
    | cons next items =>
      obtain ⟨c, more, hmore, hc⟩ := (List.forall_mem_cons.mp hitems).1.items_eq_cons items
      rw [List.map_cons, List.map_cons, intercalate_comma, ← List.map_cons] at hfuel ⊢
      rw [List.length_append, List.length_cons] at hfuel
      have hrest : readItems fuel _ = some (next :: items, rest) :=
        ih hitems (by simp) (by omega)
      rw [List.append_assoc, List.cons_append, hitem fuel _ (by omega) (stops_cons rfl)]
      rw [hmore, List.cons_append] at hrest ⊢
      show (readItems fuel (skipSpace (c :: (more ++ ']' :: rest)))).map _ = _
      rw [skipSpace_of_not_mem_gaps hc, hrest]
      rfl

theorem readValue_array {items : List Json} (hread : ∀ j ∈ items, ReadsBack j) :
    ReadsBack (.array items) := by
  refine .of_succ fun fuel rest hfuel _ => ?_
  rw [compact_array] at hfuel ⊢
  rw [List.cons_append, List.append_assoc, readValue_bracket]
  cases items with
  | nil => rfl
  | cons item items =>
    obtain ⟨c, more, hmore, hc⟩ := (List.forall_mem_cons.mp hread).1.items_eq_cons items
    have hitems : readItems fuel _ = some (item :: items, rest) :=
      readItems_compact hread (by simp) (by simp at hfuel ⊢; omega)
    rw [hmore, List.cons_append] at hitems
    rw [hmore, List.cons_append, skipSpace_of_not_mem_gaps hc]
    split
    -- The first item does not start with the bracket that ends an empty array.
    · next hbracket =>
      simp only [List.cons.injEq] at hbracket
      exact absurd (hbracket.1 ▸ hc) (by decide)
    · rw [List.singleton_append, hitems]
      rfl

theorem readName_member (m : String × Json) (hvalue : m.2.ReadsBack) :
    readName (memberText m ++ rest) = some (m.1, m.2.compact ++ rest) := by
  obtain ⟨c, cs, hcompact, hc⟩ := hvalue.compact_eq_cons
  rw [memberText, List.append_assoc, quoted_append, readName, readText_quoted]
  show some (m.1, skipSpace (m.2.compact ++ rest)) = _
  rw [hcompact, List.cons_append, skipSpace_of_not_mem_gaps hc]

theorem members_eq_cons (m : String × Json) (members : List (String × Json)) :
    ∃ more, [','].intercalate ((m :: members).map memberText) = '"' :: more :=
  intercalate_comma_eq_cons '"' _ (members.map memberText)

theorem readMembers_compact {members : List (String × Json)}
    (hread : ∀ m ∈ members, ReadsBack m.2) (hne : members ≠ [])
    (hfuel : ([','].intercalate (members.map memberText)).length + 1 < fuel) :
    readMembers fuel ([','].intercalate (members.map memberText) ++ '\x7d' :: rest) =
      some (members, rest) := by
  induction members generalizing fuel with
  | nil => exact absurd rfl hne
  | cons m members ih =>
    obtain ⟨hvalue, hmembers⟩ := List.forall_mem_cons.mp hread
    obtain ⟨fuel, rfl⟩ := Nat.exists_eq_succ_of_ne_zero (Nat.ne_zero_of_lt hfuel)
    have hlength : m.2.compact.length < (memberText m).length := by
      simp only [memberText, List.length_append, List.length_cons]
      omega
    rw [readMembers_succ]
    cases members with
    | nil =>
      rw [List.map_singleton, List.intercalate_singleton] at hfuel ⊢
      have hlast := hvalue fuel ('\x7d' :: rest) (by omega) (stops_cons rfl)
      simp only [readName_member m hvalue, hlast]
      rfl
    | cons next members =>
      obtain ⟨more, hmore⟩ := members_eq_cons next members
      rw [List.map_cons, List.map_cons, intercalate_comma, ← List.map_cons] at hfuel ⊢
      rw [List.length_append, List.length_cons] at hfuel
      have hrest : readMembers fuel _ = some (next :: members, rest) :=
        ih hmembers (by simp) (by omega)
      rw [hmore, List.cons_append] at hrest
      rw [hmore, List.append_assoc, List.cons_append, List.cons_append]
      have hfirst := hvalue fuel (',' :: '"' :: (more ++ '\x7d' :: rest)) (by omega)
        (stops_cons rfl)
      simp only [readName_member m hvalue, hfirst]
      show (readMembers fuel ('"' :: (more ++ '\x7d' :: rest))).map _ = _
      rw [hrest]
      rfl

theorem readValue_object {members : List (String × Json)} (hread : ∀ m ∈ members, ReadsBack m.2) :
    ReadsBack (.object members) := by
  refine .of_succ fun fuel rest hfuel _ => ?_
  rw [compact_object] at hfuel ⊢
  rw [List.cons_append, List.append_assoc, readValue_brace]
  cases members with
  | nil => rfl
  | cons m members =>
    obtain ⟨more, hmore⟩ := members_eq_cons m members
    have hmembers : readMembers fuel _ = some (m :: members, rest) :=
      readMembers_compact hread (by simp) (by simp at hfuel ⊢; omega)
    rw [hmore, List.cons_append] at hmembers
    rw [hmore, List.cons_append, List.singleton_append]
    show (readMembers fuel ('"' :: (more ++ '\x7d' :: rest))).map _ = _
    rw [hmembers]
    rfl

/-- A tree comes back from its text in front of any text that does not continue a number. -/
theorem readsBack (j : Json) : j.ReadsBack := by
  induction j with
  | null => exact .of_succ fun _ _ _ _ => rfl
  | truth b => cases b <;> exact .of_succ fun _ _ _ _ => rfl
  | number n => exact .of_succ fun _ _ _ hrest => readValue_numeral n hrest
  | text s =>
    refine .of_succ fun fuel rest _ _ => ?_
    rw [compact, quoted_append]
    show (readText _).map _ = _
    rw [readText_quoted]
    rfl
  | array items ih => exact readValue_array ih
  | object members ih => exact readValue_object ih

/-- The compact text of a tree is read as this tree. -/
theorem read?_compact (j : Json) : read? j.compact = some j := by
  obtain ⟨c, cs, hcompact, hc⟩ := j.readsBack.compact_eq_cons
  have hread := j.readsBack (j.compact.length + 1) [] (by omega) (by simp [Stops])
  have hspace : skipSpace j.compact = j.compact := by
    rw [hcompact, skipSpace_of_not_mem_gaps hc]
  rw [List.append_nil] at hread
  rw [read?, hspace, hread]
  rfl

/-! ## Control characters -/

theorem le_of_isNumeralChar (h : isNumeralChar c = true) : 0x20 ≤ c.toNat := by
  simp only [isNumeralChar, Bool.or_eq_true, beq_iff_eq] at h
  obtain ((((hdigit | rfl) | rfl) | rfl) | rfl) | rfl := h
  · exact Nat.le_trans (by decide) (Char.isDigit_iff_toNat.mp hdigit).1
  all_goals decide

def isPrinted (cs : List Char) : Bool :=
  cs.all fun c => 0x20 ≤ c.toNat

theorem isPrinted_append (cs rest : List Char) :
    isPrinted (cs ++ rest) = (isPrinted cs && isPrinted rest) :=
  List.all_append

theorem isPrinted_cons (hc : 0x20 ≤ c.toNat) : isPrinted (c :: cs) = isPrinted cs := by
  rw [isPrinted, List.all_cons, decide_eq_true hc, Bool.true_and, isPrinted]

theorem isPrinted_escapeChar (c : Char) : isPrinted (Payload.escapeChar c) = true := by
  have hcode : ∀ k : Fin 0x20, isPrinted (Payload.escapeCode k) = true := by decide
  unfold Payload.escapeChar
  split_ifs with hquote hbackslash hback hfeed hline hreturn htab hcontrol
  -- The short escapes are closed texts.
  all_goals try rfl
  · exact hcode ⟨c.toNat, hcontrol⟩
  · simpa [isPrinted] using hcontrol

theorem isPrinted_quoted (s : String) : isPrinted (Payload.quoted s) = true := by
  have hcontent : isPrinted (s.toList.flatMap Payload.escapeChar) = true := by
    rw [isPrinted, List.all_flatMap]
    exact List.all_eq_true.mpr fun c _ => isPrinted_escapeChar c
  rw [Payload.quoted, isPrinted_cons (by decide), isPrinted_append, hcontent]
  rfl

theorem isPrinted_intercalate {texts : List (List Char)}
    (h : ∀ text ∈ texts, isPrinted text = true) : isPrinted ([','].intercalate texts) = true := by
  refine List.all_eq_true.mpr fun c hc => ?_
  obtain ⟨text, htext, hc⟩ | hc := Text.of_mem_intercalate hc
  · exact List.all_eq_true.mp (h text htext) c hc
  · rw [List.mem_singleton.mp hc]
    rfl

/-- A compact text has no control character. -/
theorem isPrinted_compact (j : Json) : isPrinted j.compact = true := by
  induction j with
  | null => rfl
  | truth b => cases b <;> rfl
  | number n =>
    refine List.all_eq_true.mpr fun c hc => decide_eq_true ?_
    exact le_of_isNumeralChar (List.all_eq_true.mp (all_of_isNumeral n.valid) c hc)
  | text s => exact isPrinted_quoted s
  | array items ih =>
    have hitems := isPrinted_intercalate (List.forall_mem_map.mpr ih)
    rw [compact_array, isPrinted_cons (by decide), isPrinted_append, hitems]
    rfl
  | object members ih =>
    have hmember : ∀ m ∈ members, isPrinted (memberText m) = true := by
      intro m hm
      rw [memberText, isPrinted_append, isPrinted_cons (by decide), isPrinted_quoted, ih m hm,
        Bool.and_self]
    have hmembers := isPrinted_intercalate (List.forall_mem_map.mpr hmember)
    rw [compact_object, isPrinted_cons (by decide), isPrinted_append, hmembers]
    rfl

end ReleaseNames.Json
