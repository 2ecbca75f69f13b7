import Mathlib.Data.List.Chain
import ReleaseNames.Proofs.Lexeme

/-!
# Tokens tile an expression

Every token stands at a position, its word starts there, and between its word and the
next token there is nothing but white space. So the words and the white space between
them cover the expression without overlap, up to the mark for the end, which stands at
the number of its bytes.

A word is as long as it can be. What follows a name or an integer could not belong to
it, and what stands in front of its characters could not either, except for the digits
of a number that a name follows directly.
-/

namespace ReleaseNames

def Token.isNumber : Token → Bool
  | .int _ | .decimal _ => true
  | _ => false

namespace Lexer

variable {text : String} {position : Nat} {front rest rest' : List Char}

/-- At a position, counted in bytes, a text goes on with `rest`. -/
def RestAt (text : String) (position : Nat) (rest : List Char) : Prop :=
  ∃ front, text.toList = front ++ rest ∧ utf8Length front = position

theorem utf8Length_pos {cs : List Char} (h : cs ≠ []) : 0 < utf8Length cs := by
  obtain ⟨c, cs, rfl⟩ := List.exists_cons_of_ne_nil h
  have hc := c.utf8Size_pos
  rw [utf8Length]
  omega

theorem eq_nil_of_utf8Length {cs : List Char} (h : utf8Length cs = 0) : cs = [] := by
  by_contra hne
  exact Nat.ne_of_gt (utf8Length_pos hne) h

theorem utf8Length_toList (text : String) : utf8Length text.toList = text.utf8ByteSize := by
  rw [← utf8ByteSize_ofList, String.ofList_toList]

/-- Of two cuts the one with more bytes in front of it stands behind the other. -/
theorem exists_append_of_le {xs ys xs' ys' : List Char} (h : xs ++ ys = xs' ++ ys')
    (hle : utf8Length xs ≤ utf8Length xs') : ∃ mid, xs' = xs ++ mid ∧ ys = mid ++ ys' := by
  rcases List.append_eq_append_iff.mp h with ⟨mid, hxs, hys⟩ | ⟨mid, rfl, rfl⟩
  · exact ⟨mid, hxs, hys⟩
  · rw [utf8Length_append] at hle
    have hmid : mid = [] := eq_nil_of_utf8Length (by omega)
    exact ⟨[], by simp [hmid], by simp [hmid]⟩

/-- The place of a cut is determined by the number of bytes in front of it. -/
theorem eq_of_append_eq {xs ys xs' ys' : List Char} (h : xs ++ ys = xs' ++ ys')
    (hlength : utf8Length xs = utf8Length xs') : xs = xs' ∧ ys = ys' := by
  obtain ⟨mid, rfl, rfl⟩ := exists_append_of_le h hlength.le
  rw [utf8Length_append] at hlength
  have hmid : mid = [] := eq_nil_of_utf8Length (by omega)
  simp [hmid]

/-- A character that starts between two cuts is one of those between them. -/
theorem mem_of_utf8Length_le {xs ys zs front back : List Char} {c : Char}
    (h : front ++ c :: back = xs ++ (ys ++ zs)) (hlow : utf8Length xs ≤ utf8Length front)
    (hhigh : utf8Length front < utf8Length (xs ++ ys)) : c ∈ ys := by
  obtain ⟨mid, rfl, hrest⟩ := exists_append_of_le h.symm hlow
  rw [utf8Length_append, utf8Length_append] at hhigh
  obtain ⟨more, rfl, hback⟩ := exists_append_of_le hrest.symm (by omega)
  cases more with
  | nil => simp at hhigh
  | cons d more =>
    obtain rfl : c = d := (List.cons.inj hback).1
    simp

theorem RestAt.eq (h : RestAt text position rest) (htext : text.toList = front ++ rest')
    (hposition : utf8Length front = position) : rest = rest' := by
  obtain ⟨front', htext', hposition'⟩ := h
  exact (eq_of_append_eq (htext'.symm.trans htext) (hposition'.trans hposition.symm)).2

theorem RestAt.isValid (h : RestAt text position rest) :
    String.Pos.Raw.IsValid text ⟨position⟩ := by
  obtain ⟨front, htext, rfl⟩ := h
  refine String.Pos.Raw.isValid_iff_exists_append.mpr
    ⟨String.ofList front, String.ofList rest, ?_, ?_⟩
  · rw [← String.ofList_append, ← htext, String.ofList_toList]
  · rw [← utf8ByteSize_ofList]
    rfl

end Lexer

namespace Located

open Lexer

variable {text : String} {t u : Located} {word word' after after' : List Char}

/-- The word of a token starts at its position, and what follows cannot be taken for more of it. -/
structure Reads (text : String) (t : Located) (word after : List Char) : Prop where
  here : RestAt text t.position (word ++ after)
  source : t.token.Source word
  ends : t.token.EndsBefore after

def atEnd (text : String) : Located :=
  ⟨.stop, text.utf8ByteSize⟩

/-- Between the word of a token and another token there is only white space. -/
def IsFollowedBy (text : String) (t u : Located) : Prop :=
  ∃ word gap after, t.Reads text word (gap ++ after) ∧ gap.all Text.isBlank = true ∧
    RestAt text u.position after

/-- The byte at an offset belongs to the word of a token. -/
def Owns (text : String) (t : Located) (offset : Nat) : Prop :=
  ∃ word after, t.Reads text word after ∧ t.position ≤ offset ∧
    offset < t.position + utf8Length word

/-- A token has one word. -/
theorem Reads.unique (h : t.Reads text word after) (h' : t.Reads text word' after') :
    word = word' := by
  obtain ⟨front, htext, hposition⟩ := h'.here
  have hsame := h.here.eq htext hposition
  obtain ⟨c, rest, rfl, -, hread⟩ := readToken_of_source h.source h.ends 0
  obtain ⟨c', rest', rfl, -, hread'⟩ := readToken_of_source h'.source h'.ends 0
  obtain rfl : c = c' := (List.cons.inj hsame).1
  have htail : rest ++ after = rest' ++ after' := (List.cons.inj hsame).2
  rw [htail, hread'] at hread
  cases hread
  exact List.append_cancel_right hsame

theorem Reads.utf8Length_pos (h : t.Reads text word after) : 0 < utf8Length word := by
  obtain ⟨c, rest, rfl, -⟩ := exists_cons_of_source h.source
  exact Lexer.utf8Length_pos (List.cons_ne_nil c rest)

/-- One token stands in front of another, and so does its word. -/
def Precedes (text : String) (t u : Located) : Prop :=
  t.position < u.position ∧
    ∀ word after, t.Reads text word after → t.position + utf8Length word ≤ u.position

/-- The text in front of a token, its word, and the white space between it and the next. -/
theorem IsFollowedBy.exists_split (h : t.IsFollowedBy text u) : ∃ front word gap after,
    text.toList = front ++ word ++ gap ++ after ∧ utf8Length front = t.position ∧
      utf8Length (front ++ word ++ gap) = u.position ∧ gap.all Text.isBlank = true ∧
        t.Reads text word (gap ++ after) := by
  obtain ⟨word, gap, after, hreads, hgap, front', htext', hposition'⟩ := h
  obtain ⟨front, htext, hposition⟩ := hreads.here
  have hsplit : text.toList = front ++ word ++ gap ++ after := by
    rw [htext]
    simp
  rw [List.append_cancel_right (htext'.symm.trans hsplit)] at hposition'
  exact ⟨front, word, gap, after, hsplit, hposition, hposition', hgap, hreads⟩

theorem IsFollowedBy.precedes (h : t.IsFollowedBy text u) : t.Precedes text u := by
  obtain ⟨front, word, gap, after, -, hposition, hnext, -, hreads⟩ := h.exists_split
  have hpos := hreads.utf8Length_pos
  rw [utf8Length_append, utf8Length_append, hposition] at hnext
  refine ⟨by omega, fun word' after' hreads' => ?_⟩
  rw [hreads'.unique hreads]
  omega

theorem Precedes.trans {v : Located} (h : t.Precedes text u) (h' : u.Precedes text v) :
    t.Precedes text v :=
  ⟨h.1.trans h'.1, fun word after hreads => (h.2 word after hreads).trans h'.1.le⟩

/-- Tokens of which one precedes the other have no byte in common. -/
theorem Precedes.not_owns {offset : Nat} (h : t.Precedes text u) (ht : t.Owns text offset) :
    ¬ u.Owns text offset := by
  rintro ⟨-, -, -, hlow, -⟩
  obtain ⟨word, after, hreads, -, hhigh⟩ := ht
  have hend := h.2 word after hreads
  omega

end Located

namespace Lexer

open Located

variable {text : String} {tokens : List Located} {t u : Located} {cs front : List Char}

/-- Tokens with white space in front of the first, each followed by the next, and the mark for the
end at last. -/
structure Tiles (text : String) (tokens : List Located) : Prop where
  first : ∃ t gap after, tokens.head? = some t ∧ gap.all Text.isBlank = true ∧
    text.toList = gap ++ after ∧ utf8Length gap = t.position
  next : tokens.IsChain (IsFollowedBy text)
  last : tokens.getLast? = some (atEnd text)

section Scanned

/-- In a text that is scanned from a front on, white space leads to the first token. -/
theorem chain_of_scans {ls : List Lexeme} (h : Scans cs ls) (htext : text.toList = front ++ cs) :
    (∃ t gap after, (locate (utf8Length front) ls ++ [atEnd text]).head? = some t ∧
      gap.all Text.isBlank = true ∧ cs = gap ++ after ∧
        t.position = utf8Length (front ++ gap)) ∧
      (locate (utf8Length front) ls ++ [atEnd text]).IsChain (IsFollowedBy text) := by
  induction h generalizing front with
  | @done gap hgap =>
    refine ⟨⟨_, gap, [], rfl, hgap, by simp, ?_⟩, .singleton _⟩
    rw [← htext, utf8Length_toList]
    rfl
  | @next gap word after token ls hgap hword hends _ ih =>
    have hfront : utf8Length front + utf8Length (gap ++ word) =
        utf8Length (front ++ (gap ++ word)) := by simp
    obtain ⟨⟨u, gap', after', hhead, hgap', rfl, hposition⟩, hchain⟩ :=
      ih (show text.toList = front ++ (gap ++ word) ++ after by rw [htext]; simp)
    rw [locate, hfront]
    refine ⟨⟨_, gap, word ++ (gap' ++ after'), rfl, hgap, by simp, by simp⟩, ?_⟩
    rw [List.cons_append, List.isChain_cons]
    refine ⟨fun u' hu' => ?_, hchain⟩
    obtain rfl : u = u' := Option.some.inj (hhead.symm.trans hu')
    refine ⟨word, gap', after', ⟨⟨front ++ gap, by rw [htext]; simp, by simp⟩, hword, hends⟩, hgap',
      ⟨front ++ (gap ++ word) ++ gap', by rw [htext]; simp, hposition.symm⟩⟩

/-- Tokens that follow each other up to the end are read from the text behind a front. -/
theorem exists_scans_of_chain {ts : List Located} (hchain : (t :: ts).IsChain (IsFollowedBy text))
    (hlast : (t :: ts).getLast? = some (atEnd text))
    (htext : text.toList = front ++ cs) (hposition : utf8Length front = t.position) :
    ∃ ls, Scans cs ls ∧
      t :: ts = locate (utf8Length front) ls ++ [atEnd text] := by
  induction ts generalizing t front cs with
  | nil =>
    obtain rfl : t = atEnd text := Option.some.inj hlast
    have hcs : cs = [] := by
      refine (eq_of_append_eq (List.append_nil (front ++ cs)).symm ?_).2
      rw [hposition, ← htext, utf8Length_toList]
      rfl
    exact ⟨[], hcs ▸ .done rfl, rfl⟩
  | cons u us ih =>
    obtain ⟨hfollowed, hrest⟩ := List.isChain_cons_cons.mp hchain
    obtain ⟨front', word, gap, after, hsplit, hfront, hnext, hgap, hreads⟩ := hfollowed.exists_split
    obtain ⟨rfl, rfl⟩ : front = front' ∧ cs = word ++ (gap ++ after) :=
      eq_of_append_eq (by rw [← htext, hsplit]; simp) (hposition.trans hfront.symm)
    obtain ⟨ls, hls, hlocate⟩ := ih hrest (by simpa using hlast) hsplit hnext
    -- A chain has the white space behind a word, where a scan has it in front of the next one.
    obtain ⟨all, hall, -, hshift⟩ := hls.append_gap hgap
    have hnil : ([] : List Char).all Text.isBlank = true := rfl
    refine ⟨⟨[], word, t.token⟩ :: all, .next hnil hreads.source hreads.ends hall, ?_⟩
    have hshift' := hshift (utf8Length (front ++ word))
    rw [← utf8Length_append] at hshift'
    rw [hlocate, ← hshift', locate, utf8Length, Nat.add_zero, List.nil_append, ← utf8Length_append,
      hposition, List.cons_append]

end Scanned

/-- The lexer gives the tokens that tile a text, if there are any. -/
theorem tokenize_eq_ok_iff_tiles : tokenize text = .ok tokens ↔ Tiles text tokens := by
  rw [tokenize_eq_ok_iff, utf8Length_toList]
  constructor
  · rintro ⟨ls, hls, rfl⟩
    obtain ⟨⟨t, gap, after, hhead, hgap, hsplit, hposition⟩, hchain⟩ :=
      chain_of_scans hls (show text.toList = [] ++ text.toList from rfl)
    exact ⟨⟨t, gap, after, hhead, hgap, hsplit, hposition.symm⟩, hchain, by simp [atEnd]⟩
  · rintro ⟨⟨t, gap, after, hhead, hgap, hsplit, hposition⟩, hchain, hlast⟩
    obtain ⟨ts, rfl⟩ := List.head?_eq_some_iff.mp hhead
    obtain ⟨ls, hls, hlocate⟩ := exists_scans_of_chain hchain hlast hsplit hposition
    obtain ⟨all, hall, -, hshift⟩ := hls.append_gap hgap
    rw [← hsplit] at hall
    refine ⟨all, hall, ?_⟩
    rw [hlocate, hshift, Nat.zero_add]
    rfl

namespace Tiles

variable (h : Tiles text tokens)
include h

/-- A token stands in front of all that come after it. -/
theorem pairwise : tokens.Pairwise (Precedes text) := by
  have htrans : IsTrans Located (Precedes text) := ⟨fun _ _ _ => Precedes.trans⟩
  exact List.isChain_iff_pairwise.mp (h.next.imp fun _ _ => IsFollowedBy.precedes)

/-- At the position of every token the text goes on in some way. -/
theorem exists_restAt (ht : t ∈ tokens) : ∃ rest, RestAt text t.position rest := by
  refine h.next.induction (fun t => ∃ rest, RestAt text t.position rest) _ ?_ ?_ t ht
  · rintro t u ⟨-, -, after, -, -, hafter⟩ -
    exact ⟨after, hafter⟩
  · intro hne
    obtain ⟨t, gap, after, hhead, -, hsplit, hposition⟩ := h.first
    obtain rfl : tokens.head hne = t :=
      Option.some.inj ((List.head?_eq_some_head hne).symm.trans hhead)
    exact ⟨after, gap, hsplit, hposition⟩

/-- The tokens in front of the mark for the end. -/
theorem exists_words : ∃ words, tokens = words ++ [atEnd text] ∧
    ∀ t ∈ words, ∃ word after, t.Reads text word after := by
  obtain ⟨words, rfl⟩ := List.getLast?_eq_some_iff.mp h.last
  refine ⟨words, rfl, fun t ht => ?_⟩
  obtain ⟨before, others, rfl⟩ := List.append_of_mem ht
  have hnext := h.next
  rw [List.append_assoc, List.cons_append] at hnext
  obtain ⟨u, us, hu⟩ := List.exists_cons_of_ne_nil (l := others ++ [atEnd text]) (by simp)
  rw [hu, List.isChain_append_cons_cons] at hnext
  obtain ⟨word, gap, after, hreads, -⟩ := hnext.2.1
  exact ⟨word, gap ++ after, hreads⟩

/-- What stands in front of a token: white space, and in front of that nothing or the word of
another. -/
theorem exists_gap (ht : t ∈ tokens) : ∃ front gap after,
    text.toList = front ++ gap ++ after ∧ utf8Length (front ++ gap) = t.position ∧
      gap.all Text.isBlank = true ∧
        (front = [] ∨ ∃ u ∈ tokens, ∃ before word, front = before ++ word ∧
          u.Reads text word (gap ++ after)) := by
  obtain ⟨before, others, rfl⟩ := List.append_of_mem ht
  rcases List.eq_nil_or_concat before with rfl | ⟨ts, u, rfl⟩
  · obtain ⟨t', gap, after, hhead, hgap, hsplit, hposition⟩ := h.first
    cases hhead
    exact ⟨[], gap, after, hsplit, hposition, hgap, .inl rfl⟩
  · have hnext := h.next
    rw [List.concat_eq_append, List.append_assoc, List.singleton_append,
      List.isChain_append_cons_cons] at hnext
    obtain ⟨front, word, gap, after, hsplit, -, hposition, hgap, hreads⟩ := hnext.2.1.exists_split
    exact ⟨front ++ word, gap, after, hsplit, hposition, hgap,
      .inr ⟨u, by simp, front, word, rfl, hreads⟩⟩

/-- No byte belongs to two tokens. -/
theorem eq_of_owns {offset : Nat} (ht : t ∈ tokens) (hu : u ∈ tokens)
    (htoffset : t.Owns text offset) (huoffset : u.Owns text offset) : t = u := by
  obtain ⟨i, hi, rfl⟩ := List.getElem_of_mem ht
  obtain ⟨j, hj, rfl⟩ := List.getElem_of_mem hu
  have hprecedes := List.pairwise_iff_getElem.mp h.pairwise
  rcases Nat.lt_trichotomy i j with hij | rfl | hji
  · exact absurd huoffset ((hprecedes i j hi hj hij).not_owns htoffset)
  · rfl
  · exact absurd htoffset ((hprecedes j i hj hi hji).not_owns huoffset)

end Tiles

section Covered

variable {back : List Char} {c : Char}

/-- A character behind the position of the first token belongs to a token or is white space. -/
theorem owned_or_blank_of_chain {ts : List Located} (hchain : (t :: ts).IsChain (IsFollowedBy text))
    (hlast : (t :: ts).getLast? = some (atEnd text)) (htext : text.toList = front ++ c :: back)
    (hposition : t.position ≤ utf8Length front) :
    (∃ u ∈ t :: ts, u.Owns text (utf8Length front)) ∨ Text.isBlank c = true := by
  induction ts generalizing t with
  | nil =>
    obtain rfl : t = atEnd text := Option.some.inj hlast
    have hpos := utf8Length_pos (List.cons_ne_nil c back)
    have htotal : text.utf8ByteSize ≤ utf8Length front := hposition
    rw [← utf8Length_toList, htext, utf8Length_append] at htotal
    omega
  | cons u us ih =>
    obtain ⟨hfollowed, hrest⟩ := List.isChain_cons_cons.mp hchain
    -- The character stands behind the next token, in the word of this one, or between the two.
    by_cases hu : u.position ≤ utf8Length front
    · refine (ih hrest (by simpa using hlast) hu).imp_left ?_
      rintro ⟨v, hv, howns⟩
      exact ⟨v, List.mem_cons_of_mem t hv, howns⟩
    · obtain ⟨before, word, gap, after, hsplit, hbefore, hnext, hgap, hreads⟩ :=
        hfollowed.exists_split
      by_cases hword : utf8Length front < t.position + utf8Length word
      · exact .inl ⟨t, List.mem_cons_self, word, _, hreads, hposition, hword⟩
      · have hcut : front ++ c :: back = (before ++ word) ++ (gap ++ after) := by
          rw [← htext, hsplit, List.append_assoc]
        have hlow : utf8Length (before ++ word) ≤ utf8Length front := by
          rw [utf8Length_append]
          omega
        exact .inr (List.all_eq_true.mp hgap c (mem_of_utf8Length_le hcut hlow (by omega)))

/-- Every character belongs to exactly one token, or it is white space and belongs to none. -/
theorem Tiles.owned_or_blank (h : Tiles text tokens) (htext : text.toList = front ++ c :: back) :
    (∃! t, t ∈ tokens ∧ t.Owns text (utf8Length front)) ∨
      (Text.isBlank c = true ∧ ∀ t ∈ tokens, ¬ t.Owns text (utf8Length front)) := by
  by_cases howned : ∃ t ∈ tokens, t.Owns text (utf8Length front)
  · obtain ⟨t, ht, howns⟩ := howned
    exact .inl ⟨t, ⟨ht, howns⟩, fun u hu => h.eq_of_owns hu.1 ht hu.2 howns⟩
  · refine .inr ⟨?_, fun t ht howns => howned ⟨t, ht, howns⟩⟩
    obtain ⟨t, gap, after, hhead, hgap, hsplit, hposition⟩ := h.first
    obtain ⟨ts, rfl⟩ := List.head?_eq_some_iff.mp hhead
    by_cases hfirst : t.position ≤ utf8Length front
    · exact (owned_or_blank_of_chain h.next h.last htext hfirst).resolve_left howned
    · have hcut : front ++ c :: back = [] ++ (gap ++ after) := htext.symm.trans hsplit
      exact List.all_eq_true.mp hgap c
        (mem_of_utf8Length_le hcut (Nat.zero_le _) (by rw [List.nil_append]; omega))

end Covered

section Runs

variable {name : String} {word after before rest : List Char} {c d : Char}

/-- The characters of a class that a text starts with: it does not go on with another. -/
structure IsRun (p : Char → Bool) (run after : List Char) : Prop where
  nonempty : run ≠ []
  all : run.all p = true
  stops : Stops p after

/-- A token whose word is a name. A character in front of it that could belong to it is the last
digit of a number. -/
def IsNameAt (text : String) (tokens : List Located) (t : Located) (name : String) : Prop :=
  ∃ before after, text.toList = before ++ (name.toList ++ after) ∧ utf8Length before = t.position ∧
    t.Reads text name.toList after ∧ IsRun isNameChar name.toList after ∧
      ∀ c, before.getLast? = some c → isNameChar c = true → c.isDigit = true ∧
        ∃ u ∈ tokens, u.token.isNumber = true ∧ ∃ word, u.Reads text word (name.toList ++ after)

/-- A token whose word is a number: a sign, which may be absent, and digits, with no more of them on
either side. -/
def IsIntegerAt (text : String) (t : Located) (v : Int) : Prop :=
  ∃ before signed digits after negative,
    text.toList = before ++ (signed ++ digits ++ after) ∧ utf8Length before = t.position ∧
      t.Reads text (signed ++ digits) after ∧ IsSign signed negative ∧
        IsRun Char.isDigit digits after ∧
          (∀ c, (before ++ signed).getLast? = some c → c.isDigit = false) ∧
            v = if negative then -(Nat.ofDigitChars 10 digits 0 : Int)
              else (Nat.ofDigitChars 10 digits 0 : Int)

theorem toInt_of_int64? {negative : Bool} {magnitude : Nat} {v : Int64}
    (h : int64? negative magnitude = some v) :
    v.toInt = if negative then -(magnitude : Int) else (magnitude : Int) := by
  cases negative with
  | false =>
    rw [int64?, if_neg Bool.false_ne_true] at h
    split at h
    · cases h
      exact Int64.toInt_ofInt_of_le (by omega) (by omega)
    · cases h
  | true =>
    rw [int64?, if_pos rfl] at h
    split at h
    · cases h
      exact Int64.toInt_ofInt_of_le (by omega) (by omega)
    · cases h

/-- A word that ends with a character of a name is a name or a number. -/
theorem name_or_number_of_last (h : t.token.Source word) (hends : t.token.EndsBefore after)
    (hlast : word.getLast? = some c) (hc : isNameChar c = true) :
    Stops isNameChar after ∨
      (t.token.isNumber = true ∧ c.isDigit = true ∧ Stops Char.isDigit after) := by
  have hrange := toNat_of_isNameChar hc
  generalize t.token = token at h hends
  cases h with
  | ident => exact .inl hends
  | @int signed digits negative v h hv =>
    rw [List.getLast?_append_of_ne_nil signed h.nonempty] at hlast
    exact .inr ⟨rfl, List.all_eq_true.mp h.digits c (List.mem_of_getLast? hlast), hends.1⟩
  | @decimal signed digits fraction negative h hfraction =>
    rw [List.getLast?_append_of_ne_nil _ (List.cons_ne_nil '.' fraction)] at hlast
    rcases List.mem_cons.mp (List.mem_of_getLast? hlast) with rfl | hdigit
    · exact absurd hc (by decide)
    · exact .inr ⟨rfl, List.all_eq_true.mp hfraction c hdigit, hends⟩
  | @str body content h =>
    rw [← List.cons_append, List.getLast?_concat] at hlast
    cases hlast
    exact absurd hc (by decide)
  | @symbol d _ h =>
    obtain rfl : d = c := Option.some.inj hlast
    have hsymbol := toNat_of_symbol? h
    simp only [List.mem_cons, List.not_mem_nil, or_false] at hsymbol
    omega

/-- A character of a name directly in front of a token ends the word of another. -/
theorem Tiles.exists_reads_of_last (h : Tiles text tokens) (ht : t ∈ tokens)
    (htext : text.toList = before ++ rest) (hposition : utf8Length before = t.position)
    (hlast : before.getLast? = some c) (hc : isNameChar c = true) :
    ∃ u ∈ tokens, ∃ word, u.Reads text word rest ∧ word.getLast? = some c := by
  obtain ⟨front, gap, after, hsplit, hfront, hgap, hother⟩ := h.exists_gap ht
  obtain ⟨rfl, rfl⟩ := eq_of_append_eq (htext.symm.trans hsplit) (hposition.trans hfront.symm)
  have hgap_nil : gap = [] := by
    by_contra hne
    rw [List.getLast?_append_of_ne_nil front hne] at hlast
    have hblank := toNat_of_isBlank (List.all_eq_true.mp hgap c (List.mem_of_getLast? hlast))
    have hrange := toNat_of_isNameChar hc
    omega
  subst hgap_nil
  rw [List.append_nil] at hlast
  rcases hother with rfl | ⟨u, hu, other, word, rfl, hreads⟩
  · cases hlast
  · obtain ⟨d, ds, rfl, -⟩ := exists_cons_of_source hreads.source
    rw [List.getLast?_append_of_ne_nil other (List.cons_ne_nil d ds)] at hlast
    exact ⟨u, hu, _, hreads, hlast⟩

/-- A name may stand directly behind a number, but no word goes on with characters that could belong
to it. -/
theorem Tiles.number_in_front (h : Tiles text tokens) (ht : t ∈ tokens)
    (htext : text.toList = before ++ d :: rest) (hposition : utf8Length before = t.position)
    (hd : isNameChar d = true) (hlast : before.getLast? = some c) (hc : isNameChar c = true) :
    c.isDigit = true ∧ d.isDigit = false ∧
      ∃ u ∈ tokens, u.token.isNumber = true ∧ ∃ word, u.Reads text word (d :: rest) := by
  obtain ⟨u, hu, word, hreads, hword⟩ := h.exists_reads_of_last ht htext hposition hlast hc
  rcases name_or_number_of_last hreads.source hreads.ends hword hc with
    hname | ⟨hnumber, hdigit, hstops⟩
  · rw [hname d rfl] at hd
    cases hd
  · exact ⟨hdigit, hstops d rfl, u, hu, hnumber, word, hreads⟩

/-- A token other than the mark for the end has a word. -/
theorem Tiles.exists_reads (h : Tiles text tokens) (ht : t ∈ tokens) (hstop : t.token ≠ .stop) :
    ∃ word after, t.Reads text word after := by
  obtain ⟨words, rfl, hwords⟩ := h.exists_words
  rcases List.mem_append.mp ht with ht | ht
  · exact hwords t ht
  · rw [List.mem_singleton.mp ht] at hstop
    exact absurd rfl hstop

theorem Tiles.isNameAt (h : Tiles text tokens) (ht : t ∈ tokens) (hname : t.token = .ident name) :
    IsNameAt text tokens t name := by
  obtain ⟨word, after, hreads⟩ := h.exists_reads ht (by rw [hname]; exact nofun)
  obtain ⟨before, htext, hposition⟩ := hreads.here
  have hsource := hreads.source
  have hends := hreads.ends
  rw [hname] at hsource hends
  cases hsource with
  | symbol hsymbol => cases isSymbol_of_symbol? hsymbol
  | ident hword =>
    have hall : ∀ c ∈ name.toList, isNameChar c = true := fun _ => isNameChar_of_isName hword
    refine ⟨before, after, htext, hposition, hreads,
      ⟨toList_ne_nil_of_isName hword, List.all_eq_true.mpr hall, hends⟩, fun c hlast hc => ?_⟩
    obtain ⟨d, ds, hcons⟩ := List.exists_cons_of_ne_nil (toList_ne_nil_of_isName hword)
    rw [hcons] at htext hall ⊢
    obtain ⟨hdigit, -, hnumber⟩ :=
      h.number_in_front ht htext hposition (hall d List.mem_cons_self) hlast hc
    exact ⟨hdigit, hnumber⟩

theorem Tiles.isIntegerAt (h : Tiles text tokens) (ht : t ∈ tokens) {v : Int64}
    (hint : t.token = .int v) : IsIntegerAt text t v.toInt := by
  obtain ⟨word, after, hreads⟩ := h.exists_reads ht (by rw [hint]; exact nofun)
  obtain ⟨before, htext, hposition⟩ := hreads.here
  have hsource := hreads.source
  have hends := hreads.ends
  rw [hint] at hsource hends
  cases hsource with
  | symbol hsymbol => cases isSymbol_of_symbol? hsymbol
  | @int signed digits negative _ hnumeral hv =>
    refine ⟨before, signed, digits, after, negative, htext, hposition, hreads, hnumeral.sign,
      ⟨hnumeral.nonempty, hnumeral.digits, hends.1⟩, fun c hlast => ?_, toInt_of_int64? hv⟩
    cases hnumeral.sign with
    | absent =>
      obtain ⟨d, ds, rfl⟩ := List.exists_cons_of_ne_nil hnumeral.nonempty
      have hd : d.isDigit = true := List.all_eq_true.mp hnumeral.digits d List.mem_cons_self
      rw [List.append_nil] at hlast
      by_contra hdigit
      rw [Bool.not_eq_false] at hdigit
      obtain ⟨-, hno_digit, -⟩ := h.number_in_front ht htext hposition (isNameChar_of_isDigit hd)
        hlast (isNameChar_of_isDigit hdigit)
      rw [hd] at hno_digit
      cases hno_digit
    | plus =>
      rw [List.getLast?_concat] at hlast
      cases hlast
      decide
    | minus =>
      rw [List.getLast?_concat] at hlast
      cases hlast
      decide

end Runs

end Lexer

open Lexer Located

/-- A text has no tokens that tile it, and the lexer fails on it, or it has them, and they are the
ones that the lexer gives. -/
theorem tokens_tile (text : String) :
    (∃ e, tokenize text = .error e ∧ ∀ tokens, ¬ Tiles text tokens) ∨
      ∃ tokens, tokenize text = .ok tokens ∧ Tiles text tokens ∧
        (∃ words, tokens = words ++ [⟨.stop, text.utf8ByteSize⟩] ∧ ∀ t ∈ words, t.token ≠ .stop) ∧
        tokens.Pairwise (fun t u => t.position < u.position) ∧
        (∀ t ∈ tokens, String.Pos.Raw.IsValid text ⟨t.position⟩) ∧
        (∀ front c back, text.toList = front ++ c :: back →
          (∃! t, t ∈ tokens ∧ t.Owns text (utf8Length front)) ∨
            (Text.isBlank c = true ∧ ∀ t ∈ tokens, ¬ t.Owns text (utf8Length front))) ∧
        (∀ t ∈ tokens, ∀ name, t.token = .ident name → IsNameAt text tokens t name) ∧
        (∀ t ∈ tokens, ∀ v, t.token = .int v → IsIntegerAt text t v.toInt) := by
  cases htokens : tokenize text with
  | error e =>
    refine .inl ⟨e, rfl, fun tokens htiles => ?_⟩
    rw [tokenize_eq_ok_iff_tiles.mpr htiles] at htokens
    cases htokens
  | ok tokens =>
    have htiles := tokenize_eq_ok_iff_tiles.mp htokens
    obtain ⟨words, hwords, hreads⟩ := htiles.exists_words
    refine .inr ⟨tokens, rfl, htiles, ⟨words, hwords, fun t ht => ?_⟩,
      htiles.pairwise.imp fun hprecedes => hprecedes.1, fun t ht => ?_,
      fun front c back => htiles.owned_or_blank, fun t ht name => htiles.isNameAt ht,
      fun t ht v => htiles.isIntegerAt ht⟩
    · obtain ⟨word, after, hword⟩ := hreads t ht
      exact Token.ne_stop_of_source hword.source
    · obtain ⟨rest, hrest⟩ := htiles.exists_restAt ht
      exact hrest.isValid

end ReleaseNames
