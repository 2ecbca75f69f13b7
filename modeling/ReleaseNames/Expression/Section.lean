import ReleaseNames.Expression.Lexer

/-!
# Sections as written

An expression is one or more sections separated by bars. A section is a chain of
rules separated by arrows, with an optional channel key and a colon in front. A
rule may have arguments in parentheses.

This module reads that shape and nothing more: rule names and arguments are taken
as they are written.
-/

namespace ReleaseNames

structure WrittenRule where
  name : String
  literals : List Literal
  position : Nat
deriving DecidableEq

structure WrittenSection where
  channel? : Option Channel
  rules : List WrittenRule
  position : Nat
deriving DecidableEq

namespace WrittenSection

def nextPosition : List Located → Nat
  | t :: _ => t.position
  | [] => 0

def unexpected (expected : Expected) : List Located → ExpressionError
  | t :: _ => .unexpectedToken expected t.token.shown t.position
  | [] => .unexpectedToken expected Token.stop.shown 0

/-- One or more arguments and the closing parenthesis. -/
def readArguments : List Located → Except ExpressionError (List Literal × List Located)
  | [] => .error (unexpected .argument [])
  | t :: rest =>
    match t.token.literal? with
    | none => .error (unexpected .argument (t :: rest))
    | some literal =>
      match rest with
      | ⟨.comma, _⟩ :: more =>
        match readArguments more with
        | .ok (literals, after) => .ok (literal :: literals, after)
        | .error e => .error e
      | ⟨.closeParen, _⟩ :: after => .ok ([literal], after)
      | _ => .error (unexpected .closeParen rest)

def readRule : List Located → Except ExpressionError (WrittenRule × List Located)
  | ⟨.ident name, position⟩ :: ⟨.openParen, _⟩ :: ⟨.closeParen, _⟩ :: after =>
    .ok (⟨name, [], position⟩, after)
  | ⟨.ident name, position⟩ :: ⟨.openParen, _⟩ :: rest =>
    match readArguments rest with
    | .ok (literals, after) => .ok (⟨name, literals, position⟩, after)
    | .error e => .error e
  | ⟨.ident name, position⟩ :: after => .ok (⟨name, [], position⟩, after)
  | tokens => .error (unexpected .ruleName tokens)

theorem length_of_readArguments {tokens after : List Located} {literals : List Literal}
    (h : readArguments tokens = .ok (literals, after)) : after.length < tokens.length := by
  fun_induction readArguments tokens generalizing literals after with
  | case1 => simp at h
  | case2 => simp at h
  | case3 t literal hl p more v w hr ih =>
    simp at h
    have := ih hr
    simp [← h.2]
    omega
  | case4 => simp at h
  | case5 =>
    simp at h
    rw [← h.2, List.length_cons, List.length_cons]
    omega
  | case6 => simp at h

theorem length_of_readRule {tokens after : List Located} {rule : WrittenRule}
    (h : readRule tokens = .ok (rule, after)) : after.length < tokens.length := by
  unfold readRule at h
  split at h
  · simp at h
    rw [← h.2]
    simp only [List.length_cons]
    omega
  · split at h
    · next hargs =>
      simp at h
      have := length_of_readArguments hargs
      simp [← h.2]
      omega
    · simp at h
  · simp at h; simp [h]
  · simp at h

/-- One or more rules with arrows between them. -/
def readChain (tokens : List Located) :
    Except ExpressionError (List WrittenRule × List Located) :=
  match _hrule : readRule tokens with
  | .error e => .error e
  | .ok (rule, rest) =>
    match rest with
    | ⟨.arrow, _⟩ :: more =>
      match readChain more with
      | .ok (rules, after) => .ok (rule :: rules, after)
      | .error e => .error e
    | _ => .ok ([rule], rest)
termination_by tokens.length
decreasing_by
  have := length_of_readRule _hrule
  rw [List.length_cons] at this
  omega

theorem length_of_readChain {tokens after : List Located} {rules : List WrittenRule}
    (h : readChain tokens = .ok (rules, after)) : after.length < tokens.length := by
  fun_induction readChain tokens generalizing rules after with
  | case1 => simp at h
  | case2 tokens rule p more _ v w hr hrule ih =>
    simp at h
    have h1 := ih hr
    have h2 := length_of_readRule hrule
    simp at h2
    rw [← h.2]
    omega
  | case3 => simp at h
  | case4 tokens rule rest _ hrule =>
    simp at h
    have := length_of_readRule hrule
    rw [← h.2]
    omega

/-- One section. A name followed by a colon must be a channel key. -/
def readSection (tokens : List Located) :
    Except ExpressionError (WrittenSection × List Located) :=
  match tokens with
  | ⟨.ident name, position⟩ :: ⟨.colon, _⟩ :: rest =>
    match Channel.ofKey? name with
    | none => .error (.unknownSection name position)
    | some channel =>
      match readChain rest with
      | .ok (rules, after) => .ok (⟨some channel, rules, position⟩, after)
      | .error e => .error e
  | _ =>
    match readChain tokens with
    | .ok (rules, after) => .ok (⟨none, rules, nextPosition tokens⟩, after)
    | .error e => .error e

theorem length_of_readSection {tokens after : List Located} {written : WrittenSection}
    (h : readSection tokens = .ok (written, after)) : after.length < tokens.length := by
  unfold readSection at h
  split at h
  · split at h
    · simp at h
    · split at h
      · next hchain =>
        simp at h
        have := length_of_readChain hchain
        simp [← h.2]
        omega
      · simp at h
  · split at h
    · next hchain =>
      simp at h
      rw [← h.2]
      exact length_of_readChain hchain
    · simp at h

def readAll (tokens : List Located) : Except ExpressionError (List WrittenSection) :=
  match _hsection : readSection tokens with
  | .error e => .error e
  | .ok (written, rest) =>
    match rest with
    | ⟨.pipe, _⟩ :: more =>
      match readAll more with
      | .ok sections => .ok (written :: sections)
      | .error e => .error e
    | ⟨.stop, _⟩ :: _ => .ok [written]
    | [] => .ok [written]
    | _ => .error (unexpected .sectionEnd rest)
termination_by tokens.length
decreasing_by
  have := length_of_readSection _hsection
  rw [List.length_cons] at this
  omega

end WrittenSection

end ReleaseNames
