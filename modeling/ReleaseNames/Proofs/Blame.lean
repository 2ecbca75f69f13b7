import ReleaseNames.Proofs.Language

/-!
# What errors are about

An error points to something in the expression: a character, the word of a token,
or a name. An error of the reader is about a token, and an error in a section or a
rule is about the name that it starts with. There always is such a token, because
no reader goes past the mark for the end. Errors of the lexer come before there
are tokens.
-/

namespace ReleaseNames

open WrittenSection

/-- A text goes on with a name, and the name ends there. -/
def NameAt (name : String) (rest : List Char) : Prop :=
  isName name = true ∧ ∃ after, rest = name.toList ++ after ∧ Lexer.Stops Lexer.isNameChar after

/-- A text goes on with the token that a message shows: it is at its end, or it goes on with the
word of a token, or with a number that does not fit 64 bits. -/
inductive Offending : String → List Char → Prop
  | stop : Offending Token.stop.shown []
  | token {t : Token} {word after : List Char} (hword : t.Source word)
      (hends : t.EndsBefore after) : Offending t.shown (word ++ after)
  | number {signed digits after : List Char} {negative : Bool}
      (h : Lexer.IsNumeral signed digits negative) (hafter : Lexer.Stops Char.isDigit after)
      (hv : Lexer.int64? negative (Nat.ofDigitChars 10 digits 0) = none) :
      Offending ("'" ++ String.ofList (signed ++ digits) ++ "'") (signed ++ digits ++ after)

namespace ExpressionError

/-- What an expression goes on with at the place of an error. -/
def PointsTo : ExpressionError → List Char → Prop
  | .unexpectedChar c _, rest => rest.head? = some c ∨ (rest = [] ∧ c = ' ')
  | .unexpectedToken _ found _, rest =>
    Offending found rest ∧ (found = Token.stop.shown ↔ rest = [])
  | .unterminatedString _, rest => rest.head? = some '"'
  | .unknownSection name _, rest => NameAt name rest
  | .duplicateSection key _, rest => NameAt (String.ofList [key]) rest
  | .unprefixedSection _, rest => ∃ name, NameAt name rest
  | .unknownRule name _, rest => NameAt name rest
  | .misplacedBackref _, rest => NameAt backref rest
  | .arity rule _ _ _, rest => NameAt rule rest
  | .nonAsciiArgument rule _ _, rest => NameAt rule rest
  | .argumentType rule _ _ _, rest => NameAt rule rest

structure Names (e : ExpressionError) (name : String) (position : Nat) : Prop where
  position : e.position = position
  points : ∀ rest, NameAt name rest → e.PointsTo rest

/-- The error is about a token: one that is not allowed, or a name. -/
inductive Blames (tokens : List Located) : ExpressionError → Prop
  | token {t : Located} (expected : Expected) (h : t ∈ tokens) :
      Blames tokens (.unexpectedToken expected t.token.shown t.position)
  | name {e : ExpressionError} {name : String} {position : Nat}
      (hmem : ⟨.ident name, position⟩ ∈ tokens) (h : e.Names name position) : Blames tokens e

theorem Blames.of_suffix {tokens others : List Located} {e : ExpressionError}
    (h : e.Blames tokens) (hsuffix : tokens <:+ others) : e.Blames others := by
  cases h with
  | token expected hmem => exact .token expected (hsuffix.subset hmem)
  | name hmem hnames => exact .name (hsuffix.subset hmem) hnames

theorem blames_unexpected {tokens : List Located} (expected : Expected) (h : tokens ≠ []) :
    (unexpected expected tokens).Blames tokens := by
  cases tokens with
  | nil => exact absurd rfl h
  | cons t rest => exact .token expected List.mem_cons_self

end ExpressionError

namespace WrittenSection

open ExpressionError

variable {tokens after : List Located} {e : ExpressionError}

theorem ne_nil_of_stop_mem (h : Token.stop ∈ tokensOf tokens) : tokens ≠ [] := by
  rintro rfl
  cases h

theorem stop_mem_of_isExpression {used : List Token} {clauses : List Clause}
    (hstop : Token.stop ∈ tokensOf tokens) (hused : tokensOf tokens = used ++ tokensOf after)
    (h : Grammar.IsExpression used clauses) : Token.stop ∈ tokensOf after := by
  rw [hused, List.mem_append] at hstop
  exact hstop.resolve_left (stop_not_mem_isExpression h)

theorem suffix_of_readArguments {literals : List Literal}
    (h : readArguments tokens = .ok (literals, after)) : after <:+ tokens := by
  fun_induction readArguments tokens generalizing literals after with
  | case1 => cases h
  | case2 => cases h
  | case3 t literal _ _ more rest _ hrest ih =>
    cases h
    exact ((ih hrest).trans (List.suffix_cons _ _)).trans (List.suffix_cons _ _)
  | case4 => cases h
  | case5 =>
    cases h
    exact (List.suffix_cons _ _).trans (List.suffix_cons _ _)
  | case6 => cases h

theorem ne_stop_of_literal? {t : Token} {l : Literal} (h : t.literal? = some l) : t ≠ .stop := by
  rintro rfl
  cases h

theorem blames_of_readArguments (hstop : Token.stop ∈ tokensOf tokens)
    (h : readArguments tokens = .error e) : e.Blames tokens := by
  fun_induction readArguments tokens with
  | case1 => cases hstop
  | case2 t rest =>
    cases h
    exact .token _ List.mem_cons_self
  | case3 => cases h
  | case4 t literal hliteral p more e' hrest ih =>
    cases h
    have hmore : Token.stop ∈ tokensOf more := by
      simpa [(ne_stop_of_literal? hliteral).symm] using hstop
    exact (ih hmore hrest).of_suffix ((List.suffix_cons _ _).trans (List.suffix_cons _ _))
  | case5 => cases h
  | case6 t rest literal hliteral =>
    cases h
    have hrest : Token.stop ∈ tokensOf rest := by
      simpa [(ne_stop_of_literal? hliteral).symm] using hstop
    exact (blames_unexpected _ (ne_nil_of_stop_mem hrest)).of_suffix (List.suffix_cons _ _)

/-- A rule is read from its name on. -/
theorem exists_of_readRule {rule : WrittenRule} (h : readRule tokens = .ok (rule, after)) :
    ∃ rest, tokens = ⟨.ident rule.name, rule.position⟩ :: rest ∧ after <:+ rest := by
  rw [readRule.eq_def] at h
  split at h
  · cases h
    exact ⟨_, rfl, (List.suffix_cons _ _).trans (List.suffix_cons _ _)⟩
  · split at h
    · next hargs =>
      cases h
      exact ⟨_, rfl, (suffix_of_readArguments hargs).trans (List.suffix_cons _ _)⟩
    · cases h
  · cases h
    exact ⟨_, rfl, List.suffix_rfl⟩
  · cases h

theorem blames_of_readRule (hstop : Token.stop ∈ tokensOf tokens)
    (h : readRule tokens = .error e) : e.Blames tokens := by
  rw [readRule.eq_def] at h
  split at h
  · cases h
  · split at h
    · cases h
    · next hargs =>
      cases h
      have hrest := blames_of_readArguments (by simpa using hstop) hargs
      exact hrest.of_suffix ((List.suffix_cons _ _).trans (List.suffix_cons _ _))
  · cases h
  · cases h
    exact blames_unexpected _ (ne_nil_of_stop_mem hstop)

/-- The names of a chain are tokens, and the first of them is the first token. -/
theorem exists_of_readChain {rules : List WrittenRule}
    (h : readChain tokens = .ok (rules, after)) :
    (∃ name p rest, tokens = ⟨.ident name, p⟩ :: rest) ∧ after <:+ tokens ∧
      ∀ rule ∈ rules, ⟨.ident rule.name, rule.position⟩ ∈ tokens := by
  fun_induction readChain tokens generalizing rules after with
  | case1 => cases h
  | case2 tokens rule p more _ rest _ hrest hrule ih =>
    cases h
    obtain ⟨tail, rfl, htail⟩ := exists_of_readRule hrule
    obtain ⟨-, hafter, hrules⟩ := ih hrest
    have hmore : more <:+ ⟨.ident rule.name, rule.position⟩ :: tail :=
      ((List.suffix_cons _ more).trans htail).trans (List.suffix_cons _ tail)
    refine ⟨⟨_, _, _, rfl⟩, hafter.trans hmore, List.forall_mem_cons.mpr ⟨List.mem_cons_self, ?_⟩⟩
    exact fun rule' hrule' => hmore.subset (hrules rule' hrule')
  | case3 => cases h
  | case4 tokens rule rest _ hrule =>
    cases h
    obtain ⟨tail, rfl, htail⟩ := exists_of_readRule hrule
    exact ⟨⟨_, _, _, rfl⟩, htail.trans (List.suffix_cons _ _), by simp⟩

theorem blames_of_readChain (hstop : Token.stop ∈ tokensOf tokens)
    (h : readChain tokens = .error e) : e.Blames tokens := by
  fun_induction readChain tokens with
  | case1 tokens e' hrule =>
    cases h
    exact blames_of_readRule hstop hrule
  | case2 => cases h
  | case3 tokens rule p more _ e' hrest hrule ih =>
    cases h
    obtain ⟨used, hused, hderived⟩ := isRule_of_readRule hrule
    have hmore := stop_mem_of_isExpression hstop hused (.one (.bare (.one hderived)))
    obtain ⟨tail, rfl, htail⟩ := exists_of_readRule hrule
    refine (ih (by simpa using hmore) hrest).of_suffix ?_
    exact ((List.suffix_cons _ more).trans htail).trans (List.suffix_cons _ tail)
  | case4 => cases h

/-- The names that a section is written with are tokens. It starts with its key if it has one. -/
structure Within (tokens : List Located) (w : WrittenSection) : Prop where
  first : ∃ name, ⟨.ident name, w.position⟩ ∈ tokens ∧ ∀ c, w.channel? = some c → name = c.keyText
  rules : ∀ rule ∈ w.rules, ⟨.ident rule.name, rule.position⟩ ∈ tokens

theorem Within.of_suffix {others : List Located} {w : WrittenSection} (h : w.Within tokens)
    (hsuffix : tokens <:+ others) : w.Within others := by
  obtain ⟨⟨name, hname, hkey⟩, hrules⟩ := h
  exact ⟨⟨name, hsuffix.subset hname, hkey⟩, fun rule hrule => hsuffix.subset (hrules rule hrule)⟩

theorem within_of_readSection {w : WrittenSection} (h : readSection tokens = .ok (w, after)) :
    w.Within tokens ∧ after <:+ tokens := by
  rw [readSection.eq_def] at h
  split at h
  · next name p q rest =>
    have hrest : rest <:+ ⟨.ident name, p⟩ :: ⟨.colon, q⟩ :: rest :=
      (List.suffix_cons _ _).trans (List.suffix_cons _ _)
    split at h
    · cases h
    · next c hkey =>
      split at h
      · next hchain =>
        cases h
        obtain ⟨-, hafter, hrules⟩ := exists_of_readChain hchain
        refine ⟨⟨⟨name, List.mem_cons_self, ?_⟩, ?_⟩, hafter.trans hrest⟩
        · rintro _ ⟨⟩
          exact (keyText_of_ofKey? hkey).symm
        · exact fun rule hrule => hrest.subset (hrules rule hrule)
      · cases h
  · split at h
    · next hchain =>
      cases h
      obtain ⟨⟨name, p, rest, rfl⟩, hafter, hrules⟩ := exists_of_readChain hchain
      exact ⟨⟨⟨name, List.mem_cons_self, fun _ hkey => nomatch hkey⟩, hrules⟩, hafter⟩
    · cases h

theorem blames_of_readSection (hstop : Token.stop ∈ tokensOf tokens)
    (h : readSection tokens = .error e) : e.Blames tokens := by
  rw [readSection.eq_def] at h
  split at h
  · split at h
    · cases h
      exact .name List.mem_cons_self ⟨rfl, fun _ hname => hname⟩
    · split at h
      · cases h
      · next hchain =>
        cases h
        have hrest := blames_of_readChain (by simpa using hstop) hchain
        exact hrest.of_suffix ((List.suffix_cons _ _).trans (List.suffix_cons _ _))
  · split at h
    · cases h
    · next hchain =>
      cases h
      exact blames_of_readChain hstop hchain

theorem within_of_readAll {sections : List WrittenSection} (h : readAll tokens = .ok sections) :
    ∀ w ∈ sections, w.Within tokens := by
  fun_induction readAll tokens generalizing sections with
  | case1 => cases h
  | case2 tokens w p more _ rest hrest hsection ih =>
    cases h
    obtain ⟨hw, hafter⟩ := within_of_readSection hsection
    have hmore := (List.suffix_cons _ more).trans hafter
    exact List.forall_mem_cons.mpr ⟨hw, fun w' hw' => (ih hrest w' hw').of_suffix hmore⟩
  | case3 => cases h
  | case4 tokens w _ _ hsection =>
    cases h
    exact List.forall_mem_singleton.mpr (within_of_readSection hsection).1
  | case5 tokens w hsection =>
    cases h
    exact List.forall_mem_singleton.mpr (within_of_readSection hsection).1
  | case6 => cases h

theorem blames_of_readAll (hstop : Token.stop ∈ tokensOf tokens)
    (h : readAll tokens = .error e) : e.Blames tokens := by
  have hafter : ∀ {tokens after : List Located} {w : WrittenSection},
      Token.stop ∈ tokensOf tokens → readSection tokens = .ok (w, after) →
        Token.stop ∈ tokensOf after := by
    intro tokens after w hstop hsection
    obtain ⟨used, hused, hderived⟩ := isSection_of_readSection hsection
    exact stop_mem_of_isExpression hstop hused (.one hderived)
  fun_induction readAll tokens with
  | case1 tokens e' hsection =>
    cases h
    exact blames_of_readSection hstop hsection
  | case2 => cases h
  | case3 tokens w p more _ e' hrest hsection ih =>
    cases h
    have hmore := ih (by simpa using hafter hstop hsection) hrest
    exact hmore.of_suffix ((List.suffix_cons _ more).trans (within_of_readSection hsection).2)
  | case4 => cases h
  | case5 => cases h
  | case6 tokens w rest hsection _ _ _ _ =>
    cases h
    have hrest := blames_unexpected .sectionEnd (ne_nil_of_stop_mem (hafter hstop hsection))
    exact hrest.of_suffix (within_of_readSection hsection).2

end WrittenSection

section Resolve

open ExpressionError

variable {rule : Rule} {position : Nat} {e : ExpressionError}

theorem names_of_toArg {index : Nat} {param : Param} {literal : Literal}
    (h : literal.toArg rule position index param = .error e) : e.Names rule.name position := by
  rw [Literal.toArg.eq_def] at h
  split at h
  · cases h
  · split at h
    · cases h
      exact ⟨rfl, fun _ hname => hname⟩
    · cases h
  · cases h
    exact ⟨rfl, fun _ hname => hname⟩

theorem names_of_fillArgs {index : Nat} {params : List Param} {literals : List Literal}
    (h : fillArgs rule position index params literals = .error e) :
    e.Names rule.name position := by
  induction params generalizing index literals with
  | nil => cases h
  | cons param params ih =>
    cases literals with
    | nil => cases h
    | cons literal literals =>
      rcases Outcome.bind_eq_error.mp h with hfirst | ⟨arg, -, hrest⟩
      · exact names_of_toArg hfirst
      · rcases Outcome.bind_eq_error.mp hrest with hothers | ⟨args, -, hdone⟩
        · exact ih hothers
        · cases hdone

/-- An error in a rule is about the name of the rule. -/
theorem names_of_resolve {w : WrittenRule} (h : w.resolve = .error e) :
    e.Names w.name w.position := by
  rw [WrittenRule.resolve] at h
  split at h
  · next hbackref =>
    cases h
    rw [hbackref]
    exact ⟨rfl, fun _ hname => hname⟩
  · split at h
    · next rule hrule =>
      rw [← Rule.name_of_ofName? hrule]
      rw [Call.resolve] at h
      split at h
      · cases h
        exact ⟨rfl, fun _ hname => hname⟩
      · rcases Outcome.bind_eq_error.mp h with hargs | ⟨args, -, hdone⟩
        · exact names_of_fillArgs hargs
        · cases hdone
    · cases h
      exact ⟨rfl, fun _ hname => hname⟩

theorem Pipeline.exists_names_of_resolve {channel : Channel} {rules : List WrittenRule}
    (h : Pipeline.resolve channel rules = .error e) :
    ∃ w ∈ rules, e.Names w.name w.position := by
  have hsteps : ∀ {seed : Seed} {ws : List WrittenRule},
      (ws.mapM WrittenRule.resolve >>= fun steps => pure (⟨seed, steps⟩ : Pipeline)) = .error e →
        ∃ w ∈ ws, e.Names w.name w.position := by
    intro seed ws hws
    rcases Outcome.bind_eq_error.mp hws with hmapM | ⟨steps, -, hdone⟩
    · obtain ⟨w, hw, hresolve⟩ := Outcome.exists_of_mapM_eq_error hmapM
      exact ⟨w, hw, names_of_resolve hresolve⟩
    · cases hdone
  rw [Pipeline.resolve.eq_def] at h
  split at h
  · next first rest =>
    split at h
    · next hfirst =>
      split at h
      · cases h
        exact ⟨first, List.mem_cons_self, rfl, fun _ hname => hfirst.1 ▸ hname⟩
      · obtain ⟨w, hw, hnames⟩ := hsteps h
        exact ⟨w, List.mem_cons_of_mem first hw, hnames⟩
    · exact hsteps h
  · cases h

/-- An error in a section is about its first name or about a rule. A channel is only named twice
where a section names it, since a section without a key is the only one. -/
theorem Draft.blames_of_add {tokens : List Located} {several : Bool} {d : Draft}
    {w : WrittenSection} (hw : w.Within tokens) (hd : several = true ∨ d = Draft.empty)
    (h : d.add several w = .error e) : e.Blames tokens := by
  obtain ⟨⟨name, hname, hkey⟩, hrules⟩ := hw
  rw [Draft.add] at h
  split at h
  · cases h
    exact .name hname ⟨rfl, fun _ hat => ⟨name, hat⟩⟩
  · next hkeyed =>
    dsimp only at h
    split at h
    · next htaken =>
      cases h
      rcases hd with rfl | rfl
      · obtain ⟨c, hc⟩ : ∃ c, w.channel? = some c := by
          rw [Bool.and_true] at hkeyed
          exact Option.ne_none_iff_exists'.mp (by simpa using hkeyed)
        refine .name hname ⟨rfl, fun _ hat => ?_⟩
        rw [hkey c hc] at hat
        rw [hc]
        exact hat
      · have hempty : ∀ channel, Draft.empty.get? channel = none := fun channel => by
          cases channel <;> rfl
        rw [hempty] at htaken
        cases htaken
    · rcases Outcome.bind_eq_error.mp h with hresolve | ⟨p, -, hdone⟩
      · obtain ⟨rule, hrule, hnames⟩ := Pipeline.exists_names_of_resolve hresolve
        exact .name (hrules rule hrule) hnames
      · cases hdone

theorem Program.blames_of_ofSections {tokens : List Located} {sections : List WrittenSection}
    (hsections : ∀ w ∈ sections, w.Within tokens) (h : Program.ofSections sections = .error e) :
    e.Blames tokens := by
  rcases Outcome.bind_eq_error.mp h with hfold | ⟨d, -, hdone⟩
  · by_cases hseveral : 1 < sections.length
    · obtain ⟨d, w, hw, hadd⟩ := Outcome.exists_of_foldlM_eq_error hfold
      exact Draft.blames_of_add (hsections w hw) (.inl (decide_eq_true hseveral)) hadd
    · match sections with
      | [] => cases hfold
      | [w] =>
        rw [List.foldlM_cons] at hfold
        rcases Outcome.bind_eq_error.mp hfold with hadd | ⟨d, -, hdone⟩
        · exact Draft.blames_of_add (hsections w List.mem_cons_self) (.inr rfl) hadd
        · cases hdone
      | _ :: _ :: _ => simp at hseveral
  · cases hdone

end Resolve

end ReleaseNames
