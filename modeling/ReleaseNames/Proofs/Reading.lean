import ReleaseNames.Proofs.Grammar

/-!
# Reading is deriving

The readers of arguments, rules, chains, sections and expressions each accept
exactly what the grammar derives. What they have used of the tokens is derived,
and conversely a derived list of tokens is read to its end if what follows it
cannot continue it. Hence a token list has at most one list of clauses.
-/

namespace ReleaseNames

namespace Grammar

variable {P : Token → Prop} {ts : List Token}

theorem eq_token_of_literal? {t : Token} {l : Literal} (h : t.literal? = some l) : t = l.token := by
  cases t <;> cases h <;> rfl

theorem literal?_token (l : Literal) : l.token.literal? = some l := by
  cases l <;> rfl

section Inner

variable (hinner : ∀ t : Token, t.isSymbol = true → t ≠ .pipe → P t)

include hinner

theorem forall_of_arguments {ls : List Literal} (h : Arguments ts ls)
    (hls : ∀ l ∈ ls, P l.token) : ∀ t ∈ ts, P t := by
  have hcomma := hinner .comma rfl (by simp)
  induction h with
  | one hliteral =>
    obtain rfl := eq_token_of_literal? hliteral
    simpa using hls
  | more hliteral _ ih =>
    obtain rfl := eq_token_of_literal? hliteral
    obtain ⟨hfirst, hrest⟩ := List.forall_mem_cons.mp hls
    exact List.forall_mem_cons.mpr ⟨hfirst, List.forall_mem_cons.mpr ⟨hcomma, ih hrest⟩⟩

theorem forall_of_isRule {m : Mention} (h : IsRule ts m)
    (hm : P (.ident m.name) ∧ ∀ l ∈ m.literals, P l.token) : ∀ t ∈ ts, P t := by
  have hopen := hinner .openParen rfl (by simp)
  have hclose := hinner .closeParen rfl (by simp)
  obtain ⟨hname, hls⟩ := hm
  cases h with
  | bare name => simpa using hname
  | empty name => simpa using ⟨hname, hopen, hclose⟩
  | call name hargs =>
    have hall := forall_of_arguments hinner hargs hls
    refine List.forall_mem_cons.mpr ⟨hname, List.forall_mem_cons.mpr ⟨hopen, ?_⟩⟩
    exact List.forall_mem_append.mpr ⟨hall, by simpa using hclose⟩

theorem forall_of_isChain {ms : List Mention} (h : IsChain ts ms)
    (hms : ∀ m ∈ ms, P (.ident m.name) ∧ ∀ l ∈ m.literals, P l.token) : ∀ t ∈ ts, P t := by
  have harrow := hinner .arrow rfl (by simp)
  induction h with
  | one hrule => exact forall_of_isRule hinner hrule (hms _ List.mem_cons_self)
  | more hrule _ ih =>
    obtain ⟨hfirst, hrest⟩ := List.forall_mem_cons.mp hms
    exact List.forall_mem_append.mpr ⟨forall_of_isRule hinner hrule hfirst,
      List.forall_mem_cons.mpr ⟨harrow, ih hrest⟩⟩

/-- What holds of symbols other than bars, of keys, and of the names and literals of a clause,
holds of every token from which the clause is derived. -/
theorem forall_of_isSection (hkey : ∀ c : Channel, P (.ident c.keyText)) {c : Clause}
    (h : IsSection ts c) (hc : ∀ m ∈ c.mentions, P (.ident m.name) ∧ ∀ l ∈ m.literals, P l.token) :
    ∀ t ∈ ts, P t := by
  have hcolon := hinner .colon rfl (by simp)
  cases h with
  | bare hchain => exact forall_of_isChain hinner hchain hc
  | keyed c hchain =>
    exact List.forall_mem_cons.mpr ⟨hkey c,
      List.forall_mem_cons.mpr ⟨hcolon, forall_of_isChain hinner hchain hc⟩⟩

end Inner

/-- No bar stands inside a section. -/
theorem pipe_not_mem_isSection {c : Clause} (h : IsSection ts c) : Token.pipe ∉ ts := by
  have hall : ∀ t ∈ ts, t ≠ .pipe := by
    refine forall_of_isSection (fun t _ ht => ht) (by simp) h fun m _ => ⟨by simp, ?_⟩
    intro l _
    cases l <;> simp [Literal.token]
  intro hmem
  exact hall _ hmem rfl

/-- What holds of symbols, keys, and the names and literals of clauses, holds of every token from
which the clauses are derived. -/
theorem forall_of_isExpression (hsymbol : ∀ t : Token, t.isSymbol = true → P t)
    (hkey : ∀ c : Channel, P (.ident c.keyText)) {cs : List Clause} (h : IsExpression ts cs)
    (hcs : ∀ c ∈ cs, ∀ m ∈ c.mentions, P (.ident m.name) ∧ ∀ l ∈ m.literals, P l.token) :
    ∀ t ∈ ts, P t := by
  have hinner : ∀ t : Token, t.isSymbol = true → t ≠ .pipe → P t := fun t ht _ => hsymbol t ht
  induction h with
  | one hsection => exact forall_of_isSection hinner hkey hsection (hcs _ List.mem_cons_self)
  | more hsection _ ih =>
    obtain ⟨hfirst, hrest⟩ := List.forall_mem_cons.mp hcs
    exact List.forall_mem_append.mpr ⟨forall_of_isSection hinner hkey hsection hfirst,
      List.forall_mem_cons.mpr ⟨hsymbol .pipe rfl, ih hrest⟩⟩

theorem ne_nil_of_isExpression {ts : List Token} {cs : List Clause} (h : IsExpression ts cs) :
    ts ≠ [] := by
  have hchain : ∀ {ts ms}, IsChain ts ms → ts ≠ [] := by
    intro ts ms hchain
    cases hchain with
    | one hrule => cases hrule <;> simp
    | more => simp
  cases h with
  | one hsection =>
    cases hsection with
    | bare h => exact hchain h
    | keyed => simp
  | more => simp

end Grammar

namespace WrittenSection

open Grammar

def tokensOf (located : List Located) : List Token :=
  located.map (·.token)

@[simp] theorem tokensOf_nil : tokensOf [] = [] := rfl

@[simp] theorem tokensOf_cons (t : Located) (located : List Located) :
    tokensOf (t :: located) = t.token :: tokensOf located := rfl

@[simp] theorem tokensOf_append (xs ys : List Located) :
    tokensOf (xs ++ ys) = tokensOf xs ++ tokensOf ys :=
  List.map_append

theorem arguments_of_readArguments {tokens after : List Located} {literals : List Literal}
    (h : readArguments tokens = .ok (literals, after)) :
    ∃ used, tokensOf tokens = used ++ .closeParen :: tokensOf after ∧ Arguments used literals := by
  fun_induction readArguments tokens generalizing literals after with
  | case1 => cases h
  | case2 => cases h
  | case3 t literal hliteral _ more rest _ hrest ih =>
    cases h
    obtain ⟨used, hused, harguments⟩ := ih hrest
    exact ⟨t.token :: .comma :: used, by simp [hused], .more hliteral harguments⟩
  | case4 => cases h
  | case5 t literal hliteral _ after =>
    cases h
    exact ⟨[t.token], by simp, .one hliteral⟩
  | case6 => cases h

theorem isRule_of_readRule {tokens after : List Located} {rule : WrittenRule}
    (h : readRule tokens = .ok (rule, after)) :
    ∃ used, tokensOf tokens = used ++ tokensOf after ∧ IsRule used rule.mention := by
  rw [readRule.eq_def] at h
  split at h
  · cases h
    exact ⟨_, rfl, .empty _⟩
  · split at h
    · next hargs =>
      cases h
      obtain ⟨used, hused, harguments⟩ := arguments_of_readArguments hargs
      exact ⟨_, by simp [hused], .call _ harguments⟩
    · cases h
  · cases h
    exact ⟨_, rfl, .bare _⟩
  · cases h

theorem isChain_of_readChain {tokens after : List Located} {rules : List WrittenRule}
    (h : readChain tokens = .ok (rules, after)) :
    ∃ used, tokensOf tokens = used ++ tokensOf after ∧
      IsChain used (rules.map WrittenRule.mention) := by
  fun_induction readChain tokens generalizing rules after with
  | case1 => cases h
  | case2 tokens rule _ more _ rest _ hrest hrule ih =>
    cases h
    obtain ⟨first, hfirst, hderived⟩ := isRule_of_readRule hrule
    obtain ⟨used, hused, hchain⟩ := ih hrest
    exact ⟨_, by simp [hfirst, hused], .more hderived hchain⟩
  | case3 => cases h
  | case4 tokens rule rest _ hrule =>
    cases h
    obtain ⟨used, hused, hderived⟩ := isRule_of_readRule hrule
    exact ⟨used, hused, .one hderived⟩

theorem keyText_of_ofKey? {s : String} {c : Channel} (h : Channel.ofKey? s = some c) :
    c.keyText = s := by
  simpa using List.find?_some h

theorem isSection_of_readSection {tokens after : List Located} {written : WrittenSection}
    (h : readSection tokens = .ok (written, after)) :
    ∃ used, tokensOf tokens = used ++ tokensOf after ∧ IsSection used written.clause := by
  rw [readSection.eq_def] at h
  split at h
  · split at h
    · cases h
    · next c hkey =>
      split at h
      · next hchain =>
        cases h
        obtain ⟨used, hused, hderived⟩ := isChain_of_readChain hchain
        refine ⟨_, ?_, .keyed c hderived⟩
        simp [hused, keyText_of_ofKey? hkey]
      · cases h
  · split at h
    · next hchain =>
      cases h
      obtain ⟨used, hused, hderived⟩ := isChain_of_readChain hchain
      exact ⟨used, hused, .bare hderived⟩
    · cases h

/-- What is read as sections is derived as clauses, up to the end of the expression. -/
theorem isExpression_of_readAll {tokens : List Located} {sections : List WrittenSection}
    (h : readAll tokens = .ok sections) :
    ∃ used rest, tokensOf tokens = used ++ rest ∧ (rest = [] ∨ ∃ more, rest = .stop :: more) ∧
      IsExpression used (sections.map WrittenSection.clause) := by
  fun_induction readAll tokens generalizing sections with
  | case1 => cases h
  | case2 tokens written _ more _ rest hrest hsection ih =>
    cases h
    obtain ⟨first, hfirst, hderived⟩ := isSection_of_readSection hsection
    obtain ⟨used, left, hused, hleft, hexpression⟩ := ih hrest
    exact ⟨_, left, by simp [hfirst, hused], hleft, .more hderived hexpression⟩
  | case3 => cases h
  | case4 tokens written _ more hsection =>
    cases h
    obtain ⟨used, hused, hderived⟩ := isSection_of_readSection hsection
    exact ⟨used, _, hused, .inr ⟨_, rfl⟩, .one hderived⟩
  | case5 tokens written hsection =>
    cases h
    obtain ⟨used, hused, hderived⟩ := isSection_of_readSection hsection
    exact ⟨used, _, hused, .inl rfl, .one hderived⟩
  | case6 => cases h

def nextToken? (located : List Located) : Option Token :=
  located.head?.map (·.token)

theorem exists_of_tokensOf_eq_cons {located : List Located} {t : Token} {ts : List Token}
    (h : tokensOf located = t :: ts) :
    ∃ p rest, located = ⟨t, p⟩ :: rest ∧ tokensOf rest = ts := by
  obtain ⟨⟨_, p⟩, rest, rfl, rfl, hrest⟩ := List.map_eq_cons_iff.mp h
  exact ⟨p, rest, rfl, hrest⟩

theorem eq_nil_of_tokensOf_eq_nil {located : List Located} (h : tokensOf located = []) :
    located = [] :=
  List.map_eq_nil_iff.mp h

theorem exists_of_tokensOf_eq_append {located : List Located} {ts us : List Token}
    (h : tokensOf located = ts ++ us) :
    ∃ first rest, located = first ++ rest ∧ tokensOf first = ts ∧ tokensOf rest = us :=
  List.map_eq_append_iff.mp h

theorem readArguments_of_arguments {used : List Located} {literals : List Literal}
    (h : Arguments (tokensOf used) literals) (position : Nat) (after : List Located) :
    readArguments (used ++ ⟨.closeParen, position⟩ :: after) = .ok (literals, after) := by
  generalize htokens : tokensOf used = tokens at h
  induction h generalizing used with
  | one hliteral =>
    obtain ⟨_, rest, rfl, hrest⟩ := exists_of_tokensOf_eq_cons htokens
    obtain rfl := eq_nil_of_tokensOf_eq_nil hrest
    simp [readArguments, hliteral]
  | more hliteral _ ih =>
    obtain ⟨_, tail, rfl, htail⟩ := exists_of_tokensOf_eq_cons htokens
    obtain ⟨_, rest, rfl, hrest⟩ := exists_of_tokensOf_eq_cons htail
    simp [readArguments, hliteral, ih hrest]

theorem exists_of_arguments {ts : List Token} {ls : List Literal} (h : Arguments ts ls) :
    ∃ t rest l, ts = t :: rest ∧ t.literal? = some l := by
  cases h with
  | one hliteral => exact ⟨_, _, _, rfl, hliteral⟩
  | more hliteral _ => exact ⟨_, _, _, rfl, hliteral⟩

/-- Arguments do not start with a parenthesis, so after one they are read as arguments. -/
theorem readRule_call (name : String) {used : List Located} {literals : List Literal}
    (h : Arguments (tokensOf used) literals) (p q position : Nat) (after : List Located) :
    readRule (⟨.ident name, p⟩ :: ⟨.openParen, q⟩ :: (used ++ ⟨.closeParen, position⟩ :: after)) =
      .ok (⟨name, literals, p⟩, after) := by
  have hread := readArguments_of_arguments h position after
  obtain ⟨t, _, l, htokens, hliteral⟩ := exists_of_arguments h
  obtain ⟨_, rest, rfl, -⟩ := exists_of_tokensOf_eq_cons htokens
  rw [List.cons_append] at hread ⊢
  cases t with
  | int | decimal | str => simp only [readRule, hread]
  | _ => cases hliteral

/-- A rule is read to its end if no parenthesis follows it. -/
theorem readRule_of_isRule {used after : List Located} {m : Mention}
    (h : IsRule (tokensOf used) m) (hafter : nextToken? after ≠ some .openParen) :
    ∃ rule, readRule (used ++ after) = .ok (rule, after) ∧ rule.mention = m := by
  generalize htokens : tokensOf used = tokens at h
  cases h with
  | bare name =>
    obtain ⟨p, rest, rfl, hrest⟩ := exists_of_tokensOf_eq_cons htokens
    obtain rfl := eq_nil_of_tokensOf_eq_nil hrest
    refine ⟨⟨name, [], p⟩, ?_, rfl⟩
    cases after with
    | nil => rfl
    | cons t after =>
      obtain ⟨token, q⟩ := t
      cases token with
      | openParen => exact absurd rfl hafter
      | _ => rfl
  | empty name =>
    obtain ⟨p, tail, rfl, htail⟩ := exists_of_tokensOf_eq_cons htokens
    obtain ⟨_, inner, rfl, hinner⟩ := exists_of_tokensOf_eq_cons htail
    obtain ⟨_, rest, rfl, hrest⟩ := exists_of_tokensOf_eq_cons hinner
    obtain rfl := eq_nil_of_tokensOf_eq_nil hrest
    exact ⟨⟨name, [], p⟩, rfl, rfl⟩
  | @call name ts ls hargs =>
    obtain ⟨p, tail, rfl, htail⟩ := exists_of_tokensOf_eq_cons htokens
    obtain ⟨q, inner, rfl, hinner⟩ := exists_of_tokensOf_eq_cons htail
    obtain ⟨args, close, rfl, rfl, hclose⟩ := exists_of_tokensOf_eq_append hinner
    obtain ⟨position, rest, rfl, hrest⟩ := exists_of_tokensOf_eq_cons hclose
    obtain rfl := eq_nil_of_tokensOf_eq_nil hrest
    have hread := readRule_call name hargs p q position after
    exact ⟨⟨name, ls, p⟩, by simpa using hread, rfl⟩

theorem readChain_one {tokens after : List Located} {rule : WrittenRule}
    (h : readRule tokens = .ok (rule, after)) (harrow : nextToken? after ≠ some .arrow) :
    readChain tokens = .ok ([rule], after) := by
  rw [readChain.eq_def]
  split
  · next herror =>
    rw [h] at herror
    cases herror
  · next rule' rest hrule =>
    rw [h] at hrule
    cases hrule
    split
    · exact absurd rfl harrow
    · rfl

theorem readChain_more {tokens rest after : List Located} {rule : WrittenRule}
    {rules : List WrittenRule} {p : Nat} (h : readRule tokens = .ok (rule, ⟨.arrow, p⟩ :: rest))
    (hrest : readChain rest = .ok (rules, after)) :
    readChain tokens = .ok (rule :: rules, after) := by
  rw [readChain.eq_def]
  split
  · next herror =>
    rw [h] at herror
    cases herror
  · next hrule =>
    rw [h] at hrule
    cases hrule
    simp only [hrest]

/-- A chain is read to its end if neither a parenthesis nor an arrow follows it. -/
theorem readChain_of_isChain {used after : List Located} {ms : List Mention}
    (h : IsChain (tokensOf used) ms) (hparen : nextToken? after ≠ some .openParen)
    (harrow : nextToken? after ≠ some .arrow) :
    ∃ rules, readChain (used ++ after) = .ok (rules, after) ∧
      rules.map WrittenRule.mention = ms := by
  generalize htokens : tokensOf used = tokens at h
  induction h generalizing used with
  | one hrule =>
    obtain ⟨rule, hread, rfl⟩ := readRule_of_isRule (htokens ▸ hrule) hparen
    exact ⟨[rule], readChain_one hread harrow, rfl⟩
  | more hrule _ ih =>
    obtain ⟨first, tail, rfl, rfl, htail⟩ := exists_of_tokensOf_eq_append htokens
    obtain ⟨p, rest, rfl, hrest⟩ := exists_of_tokensOf_eq_cons htail
    have hnext : nextToken? (⟨.arrow, p⟩ :: (rest ++ after)) ≠ some .openParen := by
      simp [nextToken?]
    obtain ⟨rule, hread, rfl⟩ := readRule_of_isRule hrule hnext
    obtain ⟨rules, hrules, rfl⟩ := ih hrest
    refine ⟨rule :: rules, ?_, rfl⟩
    rw [List.append_assoc]
    exact readChain_more hread hrules

theorem readSection_bare {tokens after : List Located} {rules : List WrittenRule}
    (hcolon : nextToken? tokens.tail ≠ some .colon) (h : readChain tokens = .ok (rules, after)) :
    readSection tokens = .ok (⟨none, rules, nextPosition tokens⟩, after) := by
  rw [readSection.eq_def]
  split
  · exact absurd rfl hcolon
  · simp only [h]

theorem readSection_keyed {tokens after : List Located} {rules : List WrittenRule} (c : Channel)
    (p q : Nat) (h : readChain tokens = .ok (rules, after)) :
    readSection (⟨.ident c.keyText, p⟩ :: ⟨.colon, q⟩ :: tokens) =
      .ok (⟨some c, rules, p⟩, after) := by
  simp only [readSection, Channel.ofKey?_keyText, h]

/-- In a rule no colon follows the name. -/
theorem exists_of_isRule {ts : List Token} {m : Mention} (h : IsRule ts m) :
    ∃ name rest, ts = .ident name :: rest ∧ rest.head? ≠ some .colon := by
  cases h with
  | bare name => exact ⟨name, [], rfl, by simp⟩
  | empty name => exact ⟨name, _, rfl, by simp⟩
  | call name _ => exact ⟨name, _, rfl, by simp⟩

theorem head?_tail_of_isChain {ts : List Token} {ms : List Mention} (h : IsChain ts ms)
    {after : List Token} (hafter : after.head? ≠ some .colon) :
    (ts ++ after).tail.head? ≠ some .colon := by
  cases h with
  | one hrule =>
    obtain ⟨name, rest, rfl, hrest⟩ := exists_of_isRule hrule
    cases rest with
    | nil => exact hafter
    | cons t rest => exact hrest
  | more hrule _ =>
    obtain ⟨name, rest, rfl, hrest⟩ := exists_of_isRule hrule
    cases rest with
    | nil => simp
    | cons t rest => exact hrest

theorem nextToken?_eq (located : List Located) :
    nextToken? located = (tokensOf located).head? := by
  simp [nextToken?, tokensOf]

/-- What follows a section does not continue it. -/
def Closes (after : List Located) : Prop :=
  ∀ t, nextToken? after = some t → t = .pipe ∨ t = .stop

theorem Closes.ne {after : List Located} (h : Closes after) {t : Token} (hpipe : t ≠ .pipe)
    (hstop : t ≠ .stop) : nextToken? after ≠ some t := by
  intro ht
  rcases h t ht with rfl | rfl
  · exact hpipe rfl
  · exact hstop rfl

theorem readSection_of_isSection {used after : List Located} {c : Clause}
    (h : IsSection (tokensOf used) c) (hafter : Closes after) :
    ∃ written, readSection (used ++ after) = .ok (written, after) ∧ written.clause = c := by
  have hparen := hafter.ne (t := .openParen) (by simp) (by simp)
  have harrow := hafter.ne (t := .arrow) (by simp) (by simp)
  have hcolon := hafter.ne (t := .colon) (by simp) (by simp)
  generalize htokens : tokensOf used = tokens at h
  cases h with
  | bare hchain =>
    subst htokens
    obtain ⟨rules, hread, rfl⟩ := readChain_of_isChain hchain hparen harrow
    refine ⟨⟨none, rules, _⟩, readSection_bare ?_ hread, rfl⟩
    rw [nextToken?_eq] at hcolon ⊢
    have := head?_tail_of_isChain hchain hcolon
    simpa [tokensOf] using this
  | keyed c hchain =>
    obtain ⟨p, tail, rfl, htail⟩ := exists_of_tokensOf_eq_cons htokens
    obtain ⟨q, rest, rfl, rfl⟩ := exists_of_tokensOf_eq_cons htail
    obtain ⟨rules, hread, rfl⟩ := readChain_of_isChain hchain hparen harrow
    exact ⟨⟨some c, rules, p⟩, readSection_keyed c p q hread, rfl⟩

theorem readAll_one {tokens after : List Located} {written : WrittenSection}
    (h : readSection tokens = .ok (written, after))
    (hafter : after = [] ∨ nextToken? after = some .stop) : readAll tokens = .ok [written] := by
  rw [readAll.eq_def]
  split
  · next herror =>
    rw [h] at herror
    cases herror
  · next hsection =>
    rw [h] at hsection
    cases hsection
    split
    · simp [nextToken?] at hafter
    · rfl
    · rfl
    · next hstop hnil =>
      rcases hafter with rfl | hstopped
      · exact (hnil h rfl HEq.rfl).elim
      · obtain ⟨⟨_, p⟩, rest, rfl, rfl⟩ : ∃ t rest, after = t :: rest ∧ t.token = .stop := by
          cases after with
          | nil => cases hstopped
          | cons t rest => exact ⟨t, rest, rfl, by simpa [nextToken?] using hstopped⟩
        exact (hstop p rest h rfl HEq.rfl).elim

theorem readAll_more {tokens rest : List Located} {written : WrittenSection}
    {sections : List WrittenSection} {p : Nat}
    (h : readSection tokens = .ok (written, ⟨.pipe, p⟩ :: rest))
    (hrest : readAll rest = .ok sections) : readAll tokens = .ok (written :: sections) := by
  rw [readAll.eq_def]
  split
  · next herror =>
    rw [h] at herror
    cases herror
  · next hsection =>
    rw [h] at hsection
    cases hsection
    simp only [hrest]

/-- What is derived as clauses is read as sections, if the expression ends there. -/
theorem readAll_of_isExpression {used : List Located} {clauses : List Clause}
    (h : IsExpression (tokensOf used) clauses) (p : Nat) :
    ∃ sections, readAll (used ++ [⟨.stop, p⟩]) = .ok sections ∧
      sections.map WrittenSection.clause = clauses := by
  generalize htokens : tokensOf used = tokens at h
  induction h generalizing used with
  | one hsection =>
    have hcloses : Closes [⟨.stop, p⟩] := by simp [Closes, nextToken?]
    obtain ⟨written, hread, rfl⟩ := readSection_of_isSection (htokens ▸ hsection) hcloses
    exact ⟨[written], readAll_one hread (.inr rfl), rfl⟩
  | more hsection _ ih =>
    obtain ⟨first, tail, rfl, rfl, htail⟩ := exists_of_tokensOf_eq_append htokens
    obtain ⟨q, rest, rfl, hrest⟩ := exists_of_tokensOf_eq_cons htail
    have hcloses : Closes (⟨.pipe, q⟩ :: (rest ++ [⟨.stop, p⟩])) := by simp [Closes, nextToken?]
    obtain ⟨written, hread, rfl⟩ := readSection_of_isSection hsection hcloses
    obtain ⟨sections, hsections, rfl⟩ := ih hrest
    refine ⟨written :: sections, ?_, rfl⟩
    rw [List.append_assoc]
    exact readAll_more hread hsections

theorem stop_not_mem_isExpression {ts : List Token} {cs : List Clause} (h : IsExpression ts cs) :
    Token.stop ∉ ts := by
  have hall : ∀ t ∈ ts, t ≠ .stop := by
    refine forall_of_isExpression (fun t ht => ?_) (by simp) h fun c _ m _ => ⟨by simp, ?_⟩
    · rintro rfl
      cases ht
    · intro l _
      cases l <;> simp [Literal.token]
  intro hmem
  exact hall _ hmem rfl

/-- Before the first mark two lists agree if they agree altogether. -/
theorem eq_of_append_cons_eq {ts us vs ws : List Token} (hts : Token.stop ∉ ts)
    (hus : Token.stop ∉ us) (h : ts ++ .stop :: vs = us ++ .stop :: ws) : ts = us := by
  have hfirst : ∀ {xs zs : List Token}, Token.stop ∉ xs →
      (xs ++ .stop :: zs).takeWhile (· ≠ .stop) = xs := by
    intro xs zs hxs
    rw [List.takeWhile_append_of_pos]
    · simp
    · intro t ht
      simpa using fun heq : t = .stop => hxs (heq ▸ ht)
  rw [← hfirst hts, h, hfirst hus]

/-- The clauses of an expression are those that the grammar derives. -/
theorem readAll_iff {used : List Located} {clauses : List Clause} (p : Nat)
    (hused : Token.stop ∉ tokensOf used) :
    (∃ sections, readAll (used ++ [⟨.stop, p⟩]) = .ok sections ∧
      sections.map WrittenSection.clause = clauses) ↔ IsExpression (tokensOf used) clauses := by
  constructor
  · rintro ⟨sections, hread, rfl⟩
    obtain ⟨derived, rest, htokens, hrest, hexpression⟩ := isExpression_of_readAll hread
    have hderived := stop_not_mem_isExpression hexpression
    rw [tokensOf_append] at htokens
    rcases hrest with rfl | ⟨more, rfl⟩
    · exfalso
      apply hderived
      rw [List.append_nil] at htokens
      simp [← htokens]
    · rw [eq_of_append_cons_eq hused hderived htokens]
      exact hexpression
  · intro h
    exact readAll_of_isExpression h p

/-- A token list has at most one list of clauses. -/
theorem clauses_unique {ts : List Token} {cs ds : List Clause} (hc : IsExpression ts cs)
    (hd : IsExpression ts ds) : cs = ds := by
  obtain ⟨used, rfl⟩ : ∃ used, tokensOf used = ts :=
    ⟨ts.map fun t => ⟨t, 0⟩, by simp [tokensOf, Function.comp_def]⟩
  obtain ⟨sections, hread, rfl⟩ := readAll_of_isExpression hc 0
  obtain ⟨others, hothers, rfl⟩ := readAll_of_isExpression hd 0
  rw [hread] at hothers
  cases hothers
  rfl

end WrittenSection

end ReleaseNames
