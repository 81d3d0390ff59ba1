import PolygonRenderer.Config.File
import PolygonRenderer.Dump.EnvironmentFile
import PolygonRenderer.Dump.Report

/-!
# Runs of the tool

`Dump.run` is the whole tool, for any way of reading files and variables.
-/

namespace PolygonRenderer.Dump

/-- Why a run failed. -/
inductive Failure where
  /-- The model file could not be read. -/
  | unreadable
  | render (error : RenderError)
deriving DecidableEq, Repr

namespace Failure

def name : Failure → String
  | unreadable => "Os"
  | render e => e.name

end Failure

/-- How a run ended. -/
inductive Outcome where
  /-- With something to print. -/
  | printed (text : String)
  | failed (failure : Failure)
  /-- With a command line that makes no sense. -/
  | malformed
  /-- Without an answer, because something was asked for that no machine can
  do. -/
  | aborted
deriving DecidableEq, Repr

namespace Outcome

def exitCode : Outcome → Nat
  | printed _ => 0
  | failed _ => 1
  | malformed => 2
  | aborted => 101

/-- What is printed. -/
def output : Outcome → String
  | printed text => text
  | failed _ | malformed | aborted => ""

def errorName? : Outcome → Option String
  | failed f => some f.name
  | printed _ | malformed | aborted => none

end Outcome

def versionText : String :=
  "real3d-dump 0.1.0\n"

def helpText : String :=
  Report.unlines [
    "Decode a Real3D model and report the resulting draw calls",
    "",
    "Usage: real3d-dump [OPTIONS] <MODEL_FILE>",
    "",
    "Arguments:",
    "  <MODEL_FILE>  Raw model file (32-bit polygon words)",
    "",
    "Options:",
    "      --dynamic                  Cache the model as a polygon RAM model",
    "      --big-endian               Words in the file are big-endian",
    "      --lut <LUT>                LUT index to cache the model under [default: 0]",
    "      --tex-offset <TEX_OFFSET>  Texture offset word [default: 0]",
    "      --config <CONFIG>          Renderer config file (TOML); defaults to $REAL3D_CONFIG",
    "      --json                     Print the report as JSON",
    "  -h, --help                     Print help",
    "  -V, --version                  Print version"]

/-- The variable that names a configuration file. -/
def configVariable : String :=
  "REAL3D_CONFIG"

/-- The file that gives values to variables. -/
def environmentFile : String :=
  ".env"

/-- The configuration file to use, if there is one. An option goes before the
variable. -/
def configFile? (options : Options) (environment : Environment) : Option String :=
  options.configFile <|> environment.value? configVariable

/-- The outcome for a configuration and a model file. The model file is read
before the caches are created. -/
def outcome (options : Options) (config : Except RenderError Config) (file : Option ByteArray) :
    Outcome :=
  match config, file with
  | .error e, _ => .failed (.render e)
  | .ok _, none => .failed .unreadable
  | .ok config, some file =>
    if config.isAddressable then
      match Report.make config options file.toList with
      | .error e => .failed (.render e)
      | .ok r => .printed (if options.json then r.json else r.text options.modelFile)
    else .aborted

variable {m : Type → Type} [Monad m]

/-- The variables after the environment file was read. There are none where the
file asks for a value that no environment admits. -/
def environment (readFile : String → m (Option ByteArray))
    (getVariable : String → m (Option String)) : m (Option Environment) := do
  let assignments :=
    match ← readFile environmentFile with
    | some contents => EnvironmentFile.assignments contents
    | none => []
  let names := configVariable :: assignments.flatMap EnvironmentFile.Assignment.mentions
  let known ← (names.filter Environment.admits).filterMapM fun name => do
    return (← getVariable name).map fun value => (name, value)
  return EnvironmentFile.apply known assignments

/-- Run the tool. The environment file is read before the command line. -/
def run (readFile : String → m (Option ByteArray)) (getVariable : String → m (Option String))
    (arguments : List String) : m Outcome := do
  match ← environment readFile getVariable with
  | none => return .aborted
  | some environment =>
    match Request.ofArguments arguments with
    | .malformed => return .malformed
    | .help => return .printed helpText
    | .version => return .printed versionText
    | .report options =>
      let config ←
        match configFile? options environment with
        | some path => do pure (Config.load (← readFile path))
        | none => pure (.ok .standard)
      match config with
      | .error e => return outcome options (.error e) none
      | .ok config => return outcome options (.ok config) (← readFile options.modelFile)

end PolygonRenderer.Dump
