import Mathlib.Data.List.Forall2
import ReleaseNames.Expression.Compile

/-!
# The language of expressions

What an expression is and what it means, said without a reader. A grammar relates
token lists to clauses, a clause being the channel and the rules that a section
names. Five conditions say which clauses are legal, and a relation says which
program they denote.

Positions play no part here. They only appear in the errors of expressions that
are not in the language.
-/

namespace ReleaseNames

/-- A rule as an expression mentions it. -/
structure Mention where
  name : String
  literals : List Literal
deriving DecidableEq

/-- A section as an expression writes it. -/
structure Clause where
  channel? : Option Channel
  mentions : List Mention
deriving DecidableEq

def Clause.channel (c : Clause) : Channel :=
  c.channel?.getD .title

def Token.isSymbol : Token → Bool
  | .colon | .pipe | .arrow | .openParen | .closeParen | .comma => true
  | _ => false

def Literal.token : Literal → Token
  | .int value => .int value
  | .decimal value => .decimal value
  | .str value => .str value

namespace Grammar

/-- One or more arguments with commas between them. -/
inductive Arguments : List Token → List Literal → Prop
  | one {t : Token} {l : Literal} (h : t.literal? = some l) : Arguments [t] [l]
  | more {t : Token} {l : Literal} {ts : List Token} {ls : List Literal}
      (h : t.literal? = some l) (hrest : Arguments ts ls) : Arguments (t :: .comma :: ts) (l :: ls)

/-- A name, perhaps with arguments in parentheses. -/
inductive IsRule : List Token → Mention → Prop
  | bare (name : String) : IsRule [.ident name] ⟨name, []⟩
  | empty (name : String) : IsRule [.ident name, .openParen, .closeParen] ⟨name, []⟩
  | call (name : String) {ts : List Token} {ls : List Literal} (h : Arguments ts ls) :
      IsRule (.ident name :: .openParen :: (ts ++ [.closeParen])) ⟨name, ls⟩

/-- One or more rules with arrows between them. -/
inductive IsChain : List Token → List Mention → Prop
  | one {ts : List Token} {m : Mention} (h : IsRule ts m) : IsChain ts [m]
  | more {ts us : List Token} {m : Mention} {ms : List Mention} (h : IsRule ts m)
      (hrest : IsChain us ms) : IsChain (ts ++ .arrow :: us) (m :: ms)

/-- A chain, perhaps with a channel key and a colon in front. -/
inductive IsSection : List Token → Clause → Prop
  | bare {ts : List Token} {ms : List Mention} (h : IsChain ts ms) : IsSection ts ⟨none, ms⟩
  | keyed (c : Channel) {ts : List Token} {ms : List Mention} (h : IsChain ts ms) :
      IsSection (.ident c.keyText :: .colon :: ts) ⟨some c, ms⟩

/-- One or more sections with bars between them. -/
inductive IsExpression : List Token → List Clause → Prop
  | one {ts : List Token} {c : Clause} (h : IsSection ts c) : IsExpression ts [c]
  | more {ts us : List Token} {c : Clause} {cs : List Clause} (h : IsSection ts c)
      (hrest : IsExpression us cs) : IsExpression (ts ++ .pipe :: us) (c :: cs)

end Grammar

/-- A literal that a parameter takes: it has the type of the default, and it is ASCII where the
parameter asks for that. -/
def Param.Takes (p : Param) : Literal → Prop
  | .int _ => p.default.type = .integer
  | .decimal _ => False
  | .str s => p.default.type = .text ∧ (p.ascii = true → isAsciiText s = true)

instance (p : Param) (l : Literal) : Decidable (p.Takes l) :=
  match l with
  | .int _ => inferInstanceAs (Decidable (p.default.type = .integer))
  | .decimal _ => inferInstanceAs (Decidable False)
  | .str s => inferInstanceAs
      (Decidable (p.default.type = .text ∧ (p.ascii = true → isAsciiText s = true)))

/-- Literals that fit the first parameters, at most as many as there are parameters. -/
def Fits (params : List Param) (literals : List Literal) : Prop :=
  literals.length ≤ params.length ∧
    List.Forall₂ Param.Takes (params.take literals.length) literals

structure Legal (clauses : List Clause) : Prop where
  /-- With two or more sections every section names its channel. -/
  keyed : 2 ≤ clauses.length → ∀ c ∈ clauses, c.channel?.isSome
  /-- No channel is named twice. -/
  once : (clauses.filterMap (·.channel?)).Nodup
  /-- The name `_t` only stands first in a file-name or folder section, without arguments. -/
  backref : ∀ c ∈ clauses, ∀ i m, c.mentions[i]? = some m → m.name = backref →
    i = 0 ∧ (c.channel? = some .filename ∨ c.channel? = some .folder) ∧ m.literals = []
  /-- Every other name is that of a rule. -/
  registered : ∀ c ∈ clauses, ∀ m ∈ c.mentions, m.name ≠ ReleaseNames.backref →
    ∃ rule : Rule, rule.name = m.name
  /-- The arguments of a rule fit its parameters. -/
  fitting : ∀ c ∈ clauses, ∀ m ∈ c.mentions, ∀ rule : Rule, rule.name = m.name →
    Fits rule.params m.literals

def Arg.literal : Arg → Literal
  | .int value => .int value
  | .str value => .str value

/-- Arguments for parameters: the literals first, then the defaults of the other parameters. -/
structure Completes (params : List Param) (literals : List Literal) (args : List Arg) : Prop where
  written : (args.take literals.length).map Arg.literal = literals
  omitted : args.drop literals.length = (params.drop literals.length).map (·.default)

structure Mention.Denotes (m : Mention) (call : Call) : Prop where
  name : call.rule.name = m.name
  args : Completes call.rule.params m.literals call.args

/-- A clause denotes the pipeline that starts from the title exactly if `_t` stands first, and
that calls the other rules in order. -/
structure Clause.Denotes (c : Clause) (p : Pipeline) : Prop where
  seed : p.seed = .title ↔ ∃ m, c.mentions.head? = some m ∧ m.name = backref
  steps : List.Forall₂ Mention.Denotes (c.mentions.filter fun m => m.name ≠ backref) p.steps

/-- Clauses denote the program that has their pipelines, and defaults for other channels. -/
structure Denotes (clauses : List Clause) (p : Program) : Prop where
  given : ∀ c ∈ clauses, c.Denotes (p.pipeline c.channel)
  absent : ∀ channel, (∀ c ∈ clauses, c.channel ≠ channel) →
    p.pipeline channel = .default channel

def WrittenRule.mention (w : WrittenRule) : Mention :=
  ⟨w.name, w.literals⟩

def WrittenSection.clause (w : WrittenSection) : Clause :=
  ⟨w.channel?, w.rules.map WrittenRule.mention⟩

end ReleaseNames
