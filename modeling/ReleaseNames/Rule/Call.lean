import ReleaseNames.Decimal
import ReleaseNames.Error

/-!
# Rule calls

A call is a rule with one argument for each parameter. Calls come from the
literals of an expression: there may be fewer literals than parameters, the
missing ones are the last, and they take their defaults. No parameter takes a
number with a decimal point.
-/

namespace ReleaseNames

def Rule.default? (rule : Rule) (index : Nat) : Option Arg :=
  (rule.params[index]?).map Param.default

inductive Literal where
  | int (value : Int64)
  | decimal (value : Decimal)
  | str (value : String)
deriving DecidableEq

/-- A rule with its arguments. -/
structure Call where
  rule : Rule
  args : List Arg
deriving DecidableEq

def isAsciiText (s : String) : Bool :=
  s.toList.all fun c => c.toNat < 128

def Literal.toArg (rule : Rule) (position index : Nat) (param : Param) (literal : Literal) :
    Except ExpressionError Arg :=
  match param.default, literal with
  | .int _, .int v => .ok (.int v)
  | .str _, .str s =>
    if param.ascii && !isAsciiText s then .error (.nonAsciiArgument rule.name index position)
    else .ok (.str s)
  | default, _ => .error (.argumentType rule.name index default.type position)

/-- Arguments for parameters, from literals and then from defaults. -/
def fillArgs (rule : Rule) (position : Nat) :
    Nat → List Param → List Literal → Except ExpressionError (List Arg)
  | _, [], _ => .ok []
  | _, params, [] => .ok (params.map (·.default))
  | index, param :: params, literal :: literals => do
    let arg ← literal.toArg rule position index param
    let args ← fillArgs rule position (index + 1) params literals
    return arg :: args

namespace Call

def ofRule (rule : Rule) : Call :=
  ⟨rule, rule.params.map (·.default)⟩

/-- The call that literals denote; the position is only used in errors. -/
def resolve (rule : Rule) (literals : List Literal) (position : Nat) :
    Except ExpressionError Call :=
  if literals.length > rule.params.length then
    .error (.arity rule.name rule.params.length literals.length position)
  else do
    let args ← fillArgs rule position 0 rule.params literals
    return ⟨rule, args⟩

/-- The integer argument at an index, or else the default of the parameter there. -/
def int (call : Call) (index : Nat) : Int64 :=
  match call.args[index]? with
  | some (.int v) => v
  | _ =>
    match call.rule.default? index with
    | some (.int v) => v
    | _ => 0

/-- The integer argument at an index as a count: negative numbers count as zero. -/
def count (call : Call) (index : Nat) : Nat :=
  (call.int index).toInt.toNat

def str (call : Call) (index : Nat) : String :=
  match call.args[index]? with
  | some (.str s) => s
  | _ =>
    match call.rule.default? index with
    | some (.str s) => s
    | _ => ""

theorem resolve_nil (rule : Rule) (position : Nat) :
    resolve rule [] position = .ok (ofRule rule) := by
  cases rule <;> rfl

end Call

end ReleaseNames
