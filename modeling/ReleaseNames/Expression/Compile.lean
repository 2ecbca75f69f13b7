import ReleaseNames.Expression.Section
import ReleaseNames.Program

/-!
# Compiling expressions

An expression is read as tokens, then as sections, and only then are rule names
and arguments looked up, section by section. Several sections must all name their
channel, and no channel may be named twice; a single section without a channel is
the title. A channel without a section has its default pipeline.

The name `_t` is no rule. At the head of a file-name or folder section it makes
the pipeline start from the title.
-/

namespace ReleaseNames

/-- The name that stands for the finished title. -/
def backref : String := "_t"

def WrittenRule.resolve (rule : WrittenRule) : Except ExpressionError Call :=
  if rule.name = backref then .error (.misplacedBackref rule.position)
  else
    match Rule.ofName? rule.name with
    | some r => Call.resolve r rule.literals rule.position
    | none => .error (.unknownRule rule.name rule.position)

def Pipeline.resolve (channel : Channel) (rules : List WrittenRule) :
    Except ExpressionError Pipeline :=
  match rules with
  | first :: rest =>
    if first.name = backref ∧ channel ≠ .title then
      if first.literals ≠ [] then
        .error (.arity backref 0 first.literals.length first.position)
      else do
        let steps ← rest.mapM WrittenRule.resolve
        return ⟨.title, steps⟩
    else do
      let steps ← rules.mapM WrittenRule.resolve
      return ⟨.request, steps⟩
  | [] => .ok ⟨.request, []⟩

/-- The pipelines given so far. -/
structure Draft where
  title : Option Pipeline
  filename : Option Pipeline
  folder : Option Pipeline
deriving DecidableEq

namespace Draft

def empty : Draft := ⟨none, none, none⟩

def get? (d : Draft) : Channel → Option Pipeline
  | .title => d.title
  | .filename => d.filename
  | .folder => d.folder

def set (d : Draft) (channel : Channel) (p : Pipeline) : Draft :=
  match channel with
  | .title => { d with title := some p }
  | .filename => { d with filename := some p }
  | .folder => { d with folder := some p }

/-- Add a section; `several` says whether the expression has more than one. -/
def add (several : Bool) (d : Draft) (written : WrittenSection) : Except ExpressionError Draft :=
  if written.channel?.isNone && several then .error (.unprefixedSection written.position)
  else
    let channel := written.channel?.getD .title
    if (d.get? channel).isSome then .error (.duplicateSection channel.key written.position)
    else do
      let p ← Pipeline.resolve channel written.rules
      return d.set channel p

/-- The program with the given pipelines and defaults for the others. -/
def program (d : Draft) : Program :=
  ⟨d.title.getD (.default .title), d.filename.getD (.default .filename),
    d.folder.getD (.default .folder)⟩

end Draft

def Program.ofSections (sections : List WrittenSection) : Except ExpressionError Program := do
  let draft ← sections.foldlM (Draft.add (1 < sections.length)) Draft.empty
  return draft.program

def isBlankText (s : String) : Bool :=
  s.toList.all Text.isBlank

/-- The program that an expression denotes. No expression and a blank one denote the default. -/
def compile (expression : Option String) : Except ExpressionError Program :=
  match expression with
  | none => .ok .default
  | some text =>
    if isBlankText text then .ok .default
    else do
      let tokens ← Lexer.tokenize text
      let sections ← WrittenSection.readAll tokens
      Program.ofSections sections

example : (compile (some "t:legacy_t|n:_t>str_filesafe|f:legacy_f")).toOption = some .default := by
  decide +kernel

end ReleaseNames
