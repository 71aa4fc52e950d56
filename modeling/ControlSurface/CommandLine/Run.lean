import ControlSurface.CommandLine.Arguments
import ControlSurface.CommandLine.Files
import ControlSurface.Config.Read
import ControlSurface.Output.Json
import ControlSurface.Output.Summary
import ControlSurface.Output.Yaml

/- What the command line does: it builds a description and shows the result, or it shows what
   labels become as names. -/
namespace ControlSurface.CommandLine

/-- What a run leaves: an exit code, and what it wrote. -/
structure Outcome where
  code : Nat
  out : String
  err : String
deriving Repr, DecidableEq

/-- The name of the program in its messages. -/
def programName : String := "faust-td"

/-- The settings of a file, which must be there and well formed. -/
def loadFrom (files : Files) (path : String) : Except BuildError Config :=
  match files.text path with
  | .ok text =>
    match Config.read? text with
    | some c => .ok c
    | none => .error (.config .malformed)
  | .error .notText => .error (.config .malformed)
  | .error e => .error (.config (.unreadable path e.message))

/-- The settings of bytes, if they are well formed. -/
def settingsOf? (bytes : ByteArray) : Option Config := (String.fromUTF8? bytes).bind Config.read?

/-- The settings of a file, if it is there and well formed. -/
def loadIfPresent (files : Files) (path : String) : Option Config :=
  ((files.read path).toOption).bind settingsOf?

/-- The settings of a build: those of a file that is named, else those in the user's home, else
    the defaults. -/
def loadConfig (files : Files) : Option String → Except BuildError Config
  | some path => loadFrom files path
  | none => .ok ((files.settings.bind settingsOf?).getD Config.default)

/-- Settings with what the options ask for. -/
def BuildOptions.apply (o : BuildOptions) (c : Config) : Config :=
  { c with
    polyphony := c.polyphony || o.polyphony
    groupVoices := c.groupVoices && !o.ungroupVoices
    stripRoot := c.stripRoot && !o.keepRoot }

/-- Builds a description and renders the result. -/
def build (files : Files) (o : BuildOptions) : Except BuildError String := do
  let config ← loadConfig files o.config
  let path := o.file.getD ""
  let text ← match files.text path with
    | .ok text => .ok text
    | .error e => .error (.description (.unreadable path e.message))
  let (result, session) :=
    (Build.Session.new (o.apply config)).build text (!o.paramsOnly) none
  let report ← result
  let shown := Output.summary report session.hosts (!o.paramsOnly)
  .ok (if o.json then Output.Json.text shown else Output.Yaml.text shown)

/-- A label, its parameter stem and its channel name. -/
def legalizeLine (label : String) : String :=
  label ++ "\t" ++ Label.parameterStem label ++ "\t" ++ Label.channelName label ++ "\n"

/-- Runs the program. Wrong arguments end with the code two. -/
def run (files : Files) (args : List String) : Outcome :=
  match Command.read? args with
  | none => ⟨2, "", ""⟩
  | some .help => ⟨0, "", ""⟩
  | some (.legalize labels) => ⟨0, String.join (labels.map legalizeLine), ""⟩
  | some (.build o) =>
    match build files o with
    | .ok text => ⟨0, text ++ "\n", ""⟩
    | .error e => ⟨1, "", programName ++ ": " ++ e.display ++ "\n"⟩

end ControlSurface.CommandLine
