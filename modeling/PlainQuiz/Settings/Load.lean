import PlainQuiz.Files.Tree
import PlainQuiz.Settings.Basic

set_option autoImplicit false

namespace PlainQuiz

structure Environment where
  home : Option Text
  seed : Option Text
  deriving DecidableEq, Repr

inductive SettingsError where
  | missing (path : Path)
  | unreadable (path : Path) (cause : FileError)
  | malformed (path : Path)
  | badSeed (value : Text) (cause : Text.NumberError)
  deriving DecidableEq, Repr

def SettingsError.message : SettingsError → Text
  | missing path => "config file not found: " ++ Path.shown path
  | unreadable path cause =>
    "failed to read config: " ++ Path.shown path ++ ": " ++ cause.message
  | malformed path => "failed to parse config: " ++ Path.shown path
  | badSeed value cause =>
    "QUIZBLOCK_SEED must be an unsigned integer, got '" ++ value ++ "': " ++ cause.message

namespace Settings

def localPath : Path := "quizblock.toml"

def homePath (home : Text) : Path :=
  Path.join (Path.join (Path.join (Text.encode home) ".config") "quizblock") "config.toml"

def path? (files : Files) (environment : Environment) (asked : Option Path) :
    Except SettingsError (Option Path) :=
  match asked with
  | some path => if files.exists? path then .ok (some path) else .error (.missing path)
  | none =>
    if files.exists? localPath then .ok (some localPath)
    else .ok ((environment.home.map homePath).filter files.exists?)

-- Every path where settings are looked for.
def paths (environment : Environment) (asked : Option Path) : List Path :=
  match asked with
  | some path => [path]
  | none => localPath :: (environment.home.map homePath).toList

def read (readToml? : Text → Option Toml.Value) (files : Files) (path : Path) :
    Except SettingsError Settings :=
  match files.read path with
  | .error cause => .error (.unreadable path cause)
  | .ok content =>
    match (readToml? content).bind ofValue? with
    | some settings => .ok settings
    | none => .error (.malformed path)

def withEnvironment (environment : Environment) (settings : Settings) :
    Except SettingsError Settings :=
  match environment.seed with
  | none => .ok settings
  | some value =>
    match Text.readUnsigned (Text.trim value) with
    | .ok seed => .ok { settings with seed := some seed }
    | .error cause => .error (.badSeed value cause)

def load (readToml? : Text → Option Toml.Value) (files : Files) (environment : Environment)
    (asked : Option Path) : Except SettingsError Settings := do
  let path ← path? files environment asked
  let settings ← match path with
    | some path => read readToml? files path
    | none => .ok .standard
  withEnvironment environment settings

end Settings

end PlainQuiz
