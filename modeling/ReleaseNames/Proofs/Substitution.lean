import ReleaseNames.Proofs.Printing
import ReleaseNames.Proofs.SectionOrder

/-!
# Replacing a call in a text

A text that derives clauses can be cut around each of the rules that it calls. What
stands next to a rule is a symbol or nothing, so any other text that calls one rule
can be put there: the words around it stay as they are, and the new text derives the
same clauses with another mention in that place.
-/

namespace ReleaseNames

/-- The text calls one rule and nothing else. -/
def Calls (text : String) (m : Mention) : Prop :=
  ∃ located ts, Lexer.tokenize text = .ok located ∧ located.map (·.token) = ts ++ [.stop] ∧
    Grammar.IsRule ts m

namespace Grammar

def EndsInSymbol (ts : List Token) : Prop :=
  ∀ t, ts.getLast? = some t → t.isSymbol = true

def StartsWithSymbol (ts : List Token) : Prop :=
  ∀ t, ts.head? = some t → t.isSymbol = true

/-- Tokens that derive a result for a mention hold a rule for that mention at some place. Any rule
can be put there, and then the tokens derive the result for its mention. -/
def HasPlace (derives : List Token → Mention → Prop) (ts : List Token) (m : Mention) : Prop :=
  ∃ front call back, ts = front ++ call ++ back ∧ IsRule call m ∧ EndsInSymbol front ∧
    StartsWithSymbol back ∧
      ∀ other m', IsRule other m' → derives (front ++ other ++ back) m'

theorem EndsInSymbol.append {ts us : List Token} (ht : EndsInSymbol ts) (hu : EndsInSymbol us) :
    EndsInSymbol (ts ++ us) := by
  intro t h
  rw [List.getLast?_append, Option.or_eq_some_iff] at h
  rcases h with h | ⟨-, h⟩
  · exact hu t h
  · exact ht t h

theorem StartsWithSymbol.append {ts us : List Token} (ht : StartsWithSymbol ts)
    (hu : StartsWithSymbol us) : StartsWithSymbol (ts ++ us) := by
  intro t h
  rw [List.head?_append, Option.or_eq_some_iff] at h
  rcases h with h | ⟨-, h⟩
  · exact ht t h
  · exact hu t h

theorem endsInSymbol_nil : EndsInSymbol [] := by
  simp [EndsInSymbol]

theorem startsWithSymbol_nil : StartsWithSymbol [] := by
  simp [StartsWithSymbol]

theorem endsInSymbol_flatMap {s : Token} (hs : s.isSymbol = true) (pieces : List (List Token)) :
    EndsInSymbol (pieces.flatMap (· ++ [s])) := by
  induction pieces with
  | nil => exact endsInSymbol_nil
  | cons piece pieces ih =>
    have hpiece : EndsInSymbol (piece ++ [s]) := by
      intro t h
      obtain rfl : s = t := by simpa using h
      exact hs
    exact hpiece.append ih

theorem startsWithSymbol_flatMap {s : Token} (hs : s.isSymbol = true)
    (pieces : List (List Token)) : StartsWithSymbol (pieces.flatMap (s :: ·)) := by
  cases pieces with
  | nil => exact startsWithSymbol_nil
  | cons piece pieces =>
    intro t h
    cases h
    exact hs

variable {derives : List Token → Mention → Prop} {ts : List Token} {m : Mention}

theorem hasPlace_isRule (h : IsRule ts m) : HasPlace IsRule ts m := by
  refine ⟨[], ts, [], by simp, h, endsInSymbol_nil, startsWithSymbol_nil, ?_⟩
  intro other m' hother
  simpa using hother

/-- What is put around the tokens stays around them. -/
theorem HasPlace.extend {derives' : List Token → Mention → Prop} {front back : List Token}
    (h : HasPlace derives ts m) (hfront : EndsInSymbol front) (hback : StartsWithSymbol back)
    (hderives : ∀ us m', derives us m' → derives' (front ++ us ++ back) m') :
    HasPlace derives' (front ++ ts ++ back) m := by
  obtain ⟨before, call, after, rfl, hcall, hbefore, hafter, hfill⟩ := h
  refine ⟨front ++ before, call, after ++ back, by simp, hcall, hfront.append hbefore,
    hafter.append hback, ?_⟩
  intro other m' hother
  simpa using hderives _ m' (hfill other m' hother)

theorem intercalate_cons_flatMap {α : Type} (s : α) (x : List α) (ys : List (List α)) :
    [s].intercalate (x :: ys) = x ++ ys.flatMap (s :: ·) := by
  induction ys generalizing x with
  | nil => simp
  | cons y ys ih =>
    rw [List.intercalate_cons_cons, ih, List.flatMap_cons]
    simp

theorem intercalate_append_cons {α : Type} (s : α) (xs : List (List α)) (x : List α)
    (ys : List (List α)) :
    [s].intercalate (xs ++ x :: ys) = xs.flatMap (· ++ [s]) ++ x ++ ys.flatMap (s :: ·) := by
  induction xs with
  | nil => exact intercalate_cons_flatMap s x ys
  | cons first xs ih =>
    obtain ⟨second, rest, hrest⟩ := List.exists_cons_of_ne_nil (l := xs ++ x :: ys) (by simp)
    rw [List.cons_append, hrest, List.intercalate_cons_cons, ← hrest, ih]
    simp

/-- A chain is rules with arrows between them. -/
theorem isChain_iff {ms : List Mention} :
    IsChain ts ms ↔ ∃ pieces, pieces ≠ [] ∧ ts = [Token.arrow].intercalate pieces ∧
      List.Forall₂ IsRule pieces ms := by
  constructor
  · intro h
    induction h with
    | @one ts m hrule => exact ⟨[ts], by simp, by simp, .cons hrule .nil⟩
    | @more ts us m ms hrule _ ih =>
      obtain ⟨pieces, hne, rfl, hpieces⟩ := ih
      obtain ⟨piece, rest, rfl⟩ := List.exists_cons_of_ne_nil hne
      refine ⟨ts :: piece :: rest, by simp, ?_, .cons hrule hpieces⟩
      rw [List.intercalate_cons_cons, List.append_assoc]
      rfl
  · rintro ⟨pieces, hne, rfl, hpieces⟩
    induction hpieces with
    | nil => exact absurd rfl hne
    | cons hrule hrest ih =>
      cases hrest with
      | nil => simpa using IsChain.one hrule
      | cons hsecond hothers =>
        rw [List.intercalate_cons_cons, List.append_assoc]
        exact .more hrule (ih (by simp))

theorem exists_of_forall₂_append_cons {α β : Type} {R : α → β → Prop} {xs : List α}
    {us ws : List β} {v : β} (h : List.Forall₂ R xs (us ++ v :: ws)) :
    ∃ as b cs, xs = as ++ b :: cs ∧ List.Forall₂ R as us ∧ R b v ∧ List.Forall₂ R cs ws := by
  have hfront := List.forall₂_take_append _ _ _ h
  have hback := List.forall₂_drop_append _ _ _ h
  cases hdrop : xs.drop us.length with
  | nil =>
    rw [hdrop] at hback
    cases hback
  | cons b cs =>
    rw [hdrop] at hback
    cases hback with
    | cons hb hcs =>
      exact ⟨xs.take us.length, b, cs, by rw [← hdrop, List.take_append_drop], hfront, hb, hcs⟩

theorem forall₂_append_cons {α β : Type} {R : α → β → Prop} {as cs : List α} {b : α}
    {us ws : List β} {v : β} (hfront : List.Forall₂ R as us) (hb : R b v)
    (hback : List.Forall₂ R cs ws) : List.Forall₂ R (as ++ b :: cs) (us ++ v :: ws) :=
  List.rel_append hfront (.cons hb hback)

theorem hasPlace_isChain {before after : List Mention} (h : IsChain ts (before ++ m :: after)) :
    HasPlace (fun us m' => IsChain us (before ++ m' :: after)) ts m := by
  obtain ⟨pieces, -, rfl, hpieces⟩ := isChain_iff.mp h
  obtain ⟨front, call, back, rfl, hfront, hcall, hback⟩ := exists_of_forall₂_append_cons hpieces
  rw [intercalate_append_cons]
  refine (hasPlace_isRule hcall).extend (endsInSymbol_flatMap rfl front)
    (startsWithSymbol_flatMap rfl back) ?_
  intro us m' hus
  rw [← intercalate_append_cons]
  exact isChain_iff.mpr ⟨_, by simp, rfl, forall₂_append_cons hfront hus hback⟩

theorem hasPlace_isSection {key : Option Channel} {before after : List Mention}
    (h : IsSection ts ⟨key, before ++ m :: after⟩) :
    HasPlace (fun us m' => IsSection us ⟨key, before ++ m' :: after⟩) ts m := by
  cases h with
  | @bare ts _ hchain =>
    have hplace : HasPlace (fun us m' => IsSection us ⟨none, before ++ m' :: after⟩)
        ([] ++ ts ++ []) m :=
      (hasPlace_isChain hchain).extend endsInSymbol_nil startsWithSymbol_nil
        fun us m' hus => by simpa using IsSection.bare hus
    simpa using hplace
  | @keyed c ts _ hchain =>
    have hkey : EndsInSymbol [.ident c.keyText, .colon] := by
      intro t ht
      cases ht
      rfl
    have hplace : HasPlace (fun us m' => IsSection us ⟨some c, before ++ m' :: after⟩)
        ([.ident c.keyText, .colon] ++ ts ++ []) m :=
      (hasPlace_isChain hchain).extend hkey startsWithSymbol_nil
        fun us m' hus => by simpa using IsSection.keyed c hus
    simpa using hplace

theorem isExpression_iff_exists {cs : List Clause} :
    IsExpression ts cs ↔ ∃ pieces, pieces ≠ [] ∧ ts = [Token.pipe].intercalate pieces ∧
      List.Forall₂ IsSection pieces cs := by
  constructor
  · intro h
    exact ⟨ts.splitOn .pipe, List.splitOn_ne_nil _ _, (List.intercalate_splitOn _).symm,
      isExpression_iff.mp h⟩
  · rintro ⟨pieces, hne, rfl, hpieces⟩
    exact isExpression_intercalate hpieces hne

/-- The tokens of an expression hold a rule for each mention, and any rule can be put there. -/
theorem hasPlace_isExpression {cs ds : List Clause} {key : Option Channel}
    {before after : List Mention}
    (h : IsExpression ts (cs ++ ⟨key, before ++ m :: after⟩ :: ds)) :
    HasPlace (fun us m' => IsExpression us (cs ++ ⟨key, before ++ m' :: after⟩ :: ds)) ts m := by
  obtain ⟨pieces, -, rfl, hpieces⟩ := isExpression_iff_exists.mp h
  obtain ⟨front, piece, back, rfl, hfront, hpiece, hback⟩ := exists_of_forall₂_append_cons hpieces
  rw [intercalate_append_cons]
  refine (hasPlace_isSection hpiece).extend (endsInSymbol_flatMap rfl front)
    (startsWithSymbol_flatMap rfl back) ?_
  intro us m' hus
  rw [← intercalate_append_cons]
  exact isExpression_iff_exists.mpr
    ⟨_, by simp, rfl, forall₂_append_cons hfront hus hback⟩

end Grammar

namespace Lexer

theorem EndsBefore.append {t : Token} {xs ys : List Char} (h : t.EndsBefore xs)
    (hnil : xs = [] → t.EndsBefore ys) : t.EndsBefore (xs ++ ys) := by
  cases xs with
  | nil => exact hnil rfl
  | cons c xs => cases t <;> exact h

theorem Scans.eq_nil {ls : List Lexeme} (h : Scans [] ls) : ls = [] := by
  generalize hcs : ([] : List Char) = cs at h
  cases h with
  | done => rfl
  | @next gap word after t ls hgap hword hends hrest =>
    obtain ⟨c, rest, rfl, -⟩ := exists_cons_of_source hword
    simp at hcs

/-- Two texts side by side are read as the tokens of both, if the last word of the first one ends in
front of the second one. -/
theorem Scans.append {xs ys : List Char} {ls ms : List Lexeme} (hx : Scans xs ls)
    (hy : Scans ys ms) (hends : ∀ l, ls.getLast? = some l → l.token.EndsBefore ys) :
    ∃ all, Scans (xs ++ ys) all ∧
      all.map (·.token) = ls.map (·.token) ++ ms.map (·.token) := by
  induction hx with
  | done hgap =>
    obtain ⟨all, hall, htokens, -⟩ := hy.append_gap hgap
    exact ⟨all, hall, htokens⟩
  | @next gap word after t ls hgap hword hafter hrest ih =>
    have hlast : ∀ l, ls.getLast? = some l → l.token.EndsBefore ys := by
      intro l hl
      exact hends l (by rw [List.getLast?_cons, hl]; rfl)
    obtain ⟨all, hall, htokens⟩ := ih hlast
    have hnext : t.EndsBefore (after ++ ys) := by
      refine EndsBefore.append hafter fun hnil => ?_
      subst hnil
      obtain rfl := hrest.eq_nil
      exact hends _ rfl
    rw [List.append_assoc]
    exact ⟨_, .next hgap hword hnext hall, by simp [htokens]⟩

/-- The words of a text can be cut at any place, and the text with them. -/
theorem Scans.of_append {cs : List Char} {ls ms : List Lexeme} (h : Scans cs (ls ++ ms)) :
    ∃ xs ys, cs = xs ++ ys ∧ Scans xs ls ∧ Scans ys ms := by
  induction ls generalizing cs with
  | nil => exact ⟨[], cs, rfl, .done rfl, h⟩
  | cons l ls ih =>
    cases h with
    | @next gap word after t _ hgap hword hends hrest =>
      obtain ⟨xs, ys, rfl, hxs, hys⟩ := ih hrest
      exact ⟨gap ++ word ++ xs, ys, by simp, .next hgap hword hends.of_append hxs, hys⟩

/-- A text that has no word, or a symbol first, ends the word in front of it. -/
theorem Scans.ends {cs : List Char} {ls : List Lexeme} (h : Scans cs ls)
    (hsymbol : ∀ l, ls.head? = some l → l.token.isSymbol = true) : Ends cs := by
  cases h with
  | done hgap =>
    rw [← List.append_nil cs]
    exact ends_append hgap fun c hc => nomatch hc
  | @next gap word after t ls hgap hword hends hrest =>
    have ht : t.isSymbol = true := hsymbol _ rfl
    rw [List.append_assoc]
    refine ends_append hgap ?_
    cases hword with
    | symbol hc => exact ends_symbol hc after
    | _ => cases ht

end Lexer

theorem calls_iff {text : String} {m : Mention} :
    Calls text m ↔
      ∃ ls, Lexer.Scans text.toList ls ∧ Grammar.IsRule (ls.map (·.token)) m :=
  exists_tokens_iff

/-- A text can be cut around each rule that it calls. Any text that calls one rule can be put there,
and then the clauses have the mention of that rule in the place of the other one. -/
theorem Derives.exists_place {text : String} {cs ds : List Clause} {key : Option Channel}
    {before after : List Mention} {m : Mention}
    (h : Derives text (cs ++ ⟨key, before ++ m :: after⟩ :: ds)) :
    ∃ front call back, text = front ++ call ++ back ∧ Calls call m ∧
      ∀ other m', Calls other m' →
        Derives (front ++ other ++ back) (cs ++ ⟨key, before ++ m' :: after⟩ :: ds) := by
  -- The words before the rule, of the rule and after it cut the text in three. The cuts are next to
  -- symbols, so the words on both sides end there, whatever is put between them.
  obtain ⟨ls, hls, hderived⟩ := derives_iff.mp h
  obtain ⟨_, _, _, htokens, hcall, hfront, hback, hfill⟩ := Grammar.hasPlace_isExpression hderived
  obtain ⟨lxs, lzs, rfl, hlxs, rfl⟩ := List.map_eq_append_iff.mp htokens
  obtain ⟨lfs, lcs, rfl, rfl, rfl⟩ := List.map_eq_append_iff.mp hlxs
  obtain ⟨xys, zs, htext, hxys, hzs⟩ := hls.of_append
  obtain ⟨xs, ys, rfl, hxs, hys⟩ := hxys.of_append
  refine ⟨String.ofList xs, String.ofList ys, String.ofList zs, ?_, ?_, ?_⟩
  · apply String.toList_injective
    simpa using htext
  · exact calls_iff.mpr ⟨lcs, by simpa using hys, hcall⟩
  · intro other m' hother
    obtain ⟨los, hos, hrule⟩ := calls_iff.mp hother
    have hlast : ∀ l, lfs.getLast? = some l → l.token.EndsBefore other.toList := by
      intro l hl
      have hsymbol := hfront l.token (by rw [List.getLast?_map, hl]; rfl)
      exact Lexer.endsBefore_of_isSymbol hsymbol _
    have hends : Lexer.Ends zs := by
      refine hzs.ends fun l hl => hback l.token ?_
      rw [List.head?_map, hl]
      rfl
    obtain ⟨lfos, hfos, hfirst⟩ := hxs.append hos hlast
    obtain ⟨all, hall, hall_tokens⟩ := hfos.append hzs fun l _ => Token.endsBefore_of_ends hends
    refine derives_iff.mpr ⟨all, by simpa using hall, ?_⟩
    rw [hall_tokens, hfirst]
    exact hfill _ m' hrule

end ReleaseNames
