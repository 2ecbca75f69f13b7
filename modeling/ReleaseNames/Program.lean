import ReleaseNames.Transform

/-!
# Programs and their runs

A program has one pipeline for each channel. A pipeline takes its first value from
the request or from the finished title, applies its calls in order and must end on
a non-empty string. The trace lists every value on the way and ends with the first
error, if there is one.
-/

namespace ReleaseNames

inductive Seed where
  /-- A value chosen by what is packaged. -/
  | request
  /-- The finished title. -/
  | title
deriving DecidableEq

structure Pipeline where
  seed : Seed
  steps : List Call
deriving DecidableEq

/-- One pipeline for each channel. -/
structure Program where
  title : Pipeline
  filename : Pipeline
  folder : Pipeline
deriving DecidableEq

/-- The pipeline of a channel that has no section. -/
def Pipeline.default : Channel → Pipeline
  | .title => ⟨.request, [.ofRule .legacyT]⟩
  | .filename => ⟨.title, [.ofRule .strFilesafe]⟩
  | .folder => ⟨.request, [.ofRule .legacyF]⟩

namespace Program

def pipeline (p : Program) : Channel → Pipeline
  | .title => p.title
  | .filename => p.filename
  | .folder => p.folder

/-- The program of an expression without sections. -/
def default : Program :=
  ⟨.default .title, .default .filename, .default .folder⟩

end Program

/-- The value that stands for what is packaged: a single part, several parts of one volume, or
parts of several volumes. -/
def Request.seed (r : Request) : Except NamingError Value :=
  match r.parts with
  | [_] => .ok (.part 0 (.ofMarker r.marker))
  | parts =>
    let indices := List.range parts.length
    match r.spannedVolumes with
    | [] => .error (.request .noVolumes)
    | volume :: others => do
      let partNumbers ← indices.mapM r.partNumber
      let notes := { Notes.ofMarker r.marker with partNumbers := .raw partNumbers }
      if others = [] then return .volume volume indices notes
      else
        let numbers ← (volume :: others).mapM r.internalNumber
        return .series (volume :: others) indices
          { notes with volumeNumbers := .raw ⟨numbers, false⟩ }

namespace Pipeline

def start (p : Pipeline) (ctx : Context) (title : Option String) : Except NamingError Value :=
  match p.seed with
  | .request => ctx.request.seed
  | .title =>
    match title with
    | some s => .ok (.text s)
    | none => .error (.request (.titleNotReady ctx.channel))

def applyAll (ctx : Context) : List Call → Value → Except NamingError Value
  | [], value => .ok value
  | call :: calls, value =>
    match call.apply ctx value with
    | .ok next => applyAll ctx calls next
    | .error e => .error e

/-- The value before each call and after the last, up to the first error. -/
def trace (ctx : Context) : List Call → Value → List (Except NamingError Value)
  | [], value => [.ok value]
  | call :: calls, value =>
    .ok value ::
      match call.apply ctx value with
      | .ok next => trace ctx calls next
      | .error e => [.error e]

def finish (channel : Channel) : Value → Except NamingError String
  | .string text _ => if text = "" then .error (.emptyName channel) else .ok text
  | value => .error (.unterminated channel value.stage)

def run (p : Pipeline) (ctx : Context) (title : Option String) : Except NamingError String :=
  match p.start ctx title with
  | .ok first =>
    match applyAll ctx p.steps first with
    | .ok last => finish ctx.channel last
    | .error e => .error e
  | .error e => .error e

/-- Running is going through the trace to its end. -/
theorem trace_getLast? (ctx : Context) (calls : List Call) (value : Value) :
    (trace ctx calls value).getLast? = some (applyAll ctx calls value) := by
  induction calls generalizing value with
  | nil => rfl
  | cons call calls ih =>
    simp only [trace, applyAll]
    cases call.apply ctx value with
    | ok next =>
      simp only
      have := ih next
      cases h : trace ctx calls next with
      | nil => simp [h] at this
      | cons a rest => simpa [h] using this
    | error e => rfl

end Pipeline

end ReleaseNames
