import ReleaseNames.Expression.Compile
import ReleaseNames.FileSystem
import ReleaseNames.Program

/-!
# Name generators

A generator is a program with overrides. It names a valid request channel by
channel, and the title it has found is what the other channels read, whether a
pipeline or an override made it. The first channel that fails decides the error.

A generator can be made from an option: the absolute path of a library, an
expression, or nothing, in which case a library beside the settings is used if
there is one.
-/

namespace ReleaseNames

structure Names where
  title : String
  filename : String
  folder : String
deriving DecidableEq

structure Generator where
  program : Program
  overrides : Overrides

namespace Generator

def default : Generator := ⟨.default, .empty⟩

def name (g : Generator) (channel : Channel) (r : Request) (title : Option String) :
    Except NamingError String :=
  match g.overrides.call? channel r with
  | some result => result
  | none => (g.program.pipeline channel).run ⟨r, channel⟩ title

def generate (g : Generator) (r : Request) : Except NamingError Names :=
  match r.check with
  | .error e => .error (.request e)
  | .ok () => do
    let title ← g.name .title r none
    let filename ← g.name .filename r (some title)
    let folder ← g.name .folder r (some title)
    return ⟨title, filename, folder⟩

def ofExpression (expression : Option String) : Except NamingError Generator :=
  match compile expression with
  | .ok program => .ok ⟨program, .empty⟩
  | .error e => .error (.expression e)

def librarySuffix : String := ".so"

/-- The name of a library beside the settings. -/
def libraryName : String := "namegen.so"

def ofLibrary (fs : FileSystem) (path : FilePath) : Except NamingError Generator := do
  let overrides ← fs.loadOverrides path
  return ⟨.default, overrides⟩

def ofLibraryOption (fs : FileSystem) (path : FilePath) : Except NamingError Generator :=
  if !path.isAbsolute then .error (.library path .relativePath)
  else if !fs.isFile path then .error (.library path .fileNotFound)
  else ofLibrary fs path

/-- An option without white space around it, unless nothing is left. -/
def trimmedOption (option : Option String) : Option String :=
  match option with
  | some text =>
    let trimmed := Text.onChars Text.trim text
    if trimmed = "" then none else some trimmed
  | none => none

def namesLibrary (text : String) : Bool :=
  librarySuffix.toList.isSuffixOf text.toList

def ofOption (fs : FileSystem) (option : Option String) (dir : Option FilePath) :
    Except NamingError Generator :=
  match trimmedOption option with
  | some text => if namesLibrary text then ofLibraryOption fs text else ofExpression (some text)
  | none =>
    match dir with
    | some dir =>
      let path := dir.join libraryName
      if fs.isFile path then ofLibrary fs path else .ok default
    | none => .ok default

end Generator

end ReleaseNames
