import ReleaseNames.Generator
import ReleaseNames.Toml.Document

/-!
# Settings

Settings live in a directory: the first that exists of an explicit one, the
platform's directory for this program, and a directory of the user's home. If
none exists, the platform's is the one to create. The file in it holds at most
one setting, the rules, and nothing else is tolerated. The environment can
replace the rules, but a file that cannot be read is an error all the same.
-/

namespace ReleaseNames

/-- Variables with their values, and the home directory that is known for the account. -/
structure Environment where
  bindings : List (String × String)
  accountHome : Option FilePath
deriving DecidableEq

def Environment.get? (env : Environment) (name : String) : Option String :=
  env.bindings.lookup name

/-- The rules and where they were looked for. -/
structure Settings where
  rules : Option String
  dir : FilePath
deriving DecidableEq

inductive SettingsError where
  /-- The file is not text. -/
  | unreadable (path : FilePath)
  /-- The file does not hold settings. -/
  | malformed (path : FilePath)
  /-- There is no place for settings. -/
  | noDirectory
deriving DecidableEq

def SettingsError.message : SettingsError → String
  | .unreadable path =>
    "failed to read config file '" ++ path ++ "': stream did not contain valid UTF-8"
  | .malformed path => "failed to parse config file '" ++ path ++ "'"
  | .noDirectory => "no configuration directory available on this platform"

namespace Settings

def dirVariable : String := "SERIALPUB_CONFIG_DIR"

def rulesVariable : String := "SERIALPUB_NAMEGEN"

/-- The home directory: the one the environment names, or else that of the account. -/
def homeDir? (env : Environment) : Option FilePath :=
  match env.get? "HOME" with
  | some home => if home = "" then env.accountHome else some home
  | none => env.accountHome

/-- The platform's directory for settings: the one the environment names, if that is an absolute
path, or else one in the home directory. -/
def platformDir? (env : Environment) : Option FilePath :=
  let fallback := (homeDir? env).map fun home => FilePath.join home ".config"
  match env.get? "XDG_CONFIG_HOME" with
  | some dir => if FilePath.isAbsolute dir then some dir else fallback
  | none => fallback

def candidates (env : Environment) (explicit : Option FilePath) : List FilePath :=
  explicit.toList ++ ((platformDir? env).map fun dir => FilePath.join dir "serialpub").toList
    ++ ((homeDir? env).map fun home => FilePath.join home ".serialpub").toList

/-- The directory for settings: the first candidate that exists, or else the first that the
environment does not choose explicitly. -/
def directory (fs : FileSystem) (env : Environment) (explicit : Option FilePath) :
    Except SettingsError FilePath :=
  match (candidates env explicit).find? fs.isDirectory with
  | some dir => .ok dir
  | none =>
    match candidates env none with
    | dir :: _ => .ok dir
    | [] => .error .noDirectory

/-- The rules in the value of the table of rules. A table may be written as an array of its
values in order. -/
def rulesOfTable? : Toml.Value → Option (Option String)
  | .table [] => some none
  | .table [(["rules"], .text rules)] => some (some rules)
  | .array [] => some none
  | .array (.text rules :: _) => some (some rules)
  | _ => none

/-- The rules in a document that holds settings. Either there are none, or they are given once in
one of the ways to write a table with one entry. -/
def rulesOf? : List Toml.Statement → Option (Option String)
  | [] => some none
  | [.header ["namegen"]] => some none
  | [.header ["namegen"], .entry ["rules"] (.text rules)] => some (some rules)
  | [.entry ["namegen", "rules"] (.text rules)] => some (some rules)
  | [.entry ["namegen"] value] => rulesOfTable? value
  | _ => none

/-- The settings in a directory. A missing file holds none. -/
def loadFrom (fs : FileSystem) (dir : FilePath) : Except SettingsError Settings :=
  let path := FilePath.join dir "config.toml"
  if fs.isFile path then
    match fs.readText? path with
    | none => .error (.unreadable path)
    | some text =>
      match (Toml.read? text).bind rulesOf? with
      | some rules => .ok ⟨rules, dir⟩
      | none => .error (.malformed path)
  else .ok ⟨none, dir⟩

def load (fs : FileSystem) (env : Environment) : Except SettingsError Settings := do
  let dir ← directory fs env (env.get? dirVariable)
  let settings ← loadFrom fs dir
  match env.get? rulesVariable with
  | some rules => return { settings with rules := some rules }
  | none => return settings

def generator (s : Settings) (fs : FileSystem) : Except NamingError Generator :=
  Generator.ofOption fs s.rules (some s.dir)

end Settings

end ReleaseNames
