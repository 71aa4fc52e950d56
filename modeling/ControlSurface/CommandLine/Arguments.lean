/- The arguments of the command line. A flag may be given once. Short flags may stand together
   behind one dash; a value follows its option as the next argument, behind an equals sign, or,
   behind a short option, at once. Behind two dashes no argument is a flag. -/
namespace ControlSurface.CommandLine

/-- The options of a build. -/
structure BuildOptions where
  file : Option String := none
  config : Option String := none
  polyphony : Bool := false
  ungroupVoices : Bool := false
  keepRoot : Bool := false
  paramsOnly : Bool := false
  json : Bool := false
deriving Repr, DecidableEq

/-- What the arguments ask for. -/
inductive Command where
  | build (options : BuildOptions)
  | legalize (labels : List String)
  | help
deriving Repr, DecidableEq

/-- What one argument of a build leads to: help at once, or further options. With `awaitsConfig`
    the next argument is the value of the configuration's option. -/
inductive Progress where
  | help
  | options (options : BuildOptions) (awaitsConfig : Bool)
deriving Repr, DecidableEq

/-- Flags without a value, by their long names. -/
def setFlag (o : BuildOptions) : String → Option BuildOptions
  | "polyphony" => if o.polyphony then none else some { o with polyphony := true }
  | "ungroup-voices" => if o.ungroupVoices then none else some { o with ungroupVoices := true }
  | "keep-td-prefix" => if o.keepRoot then none else some { o with keepRoot := true }
  | "params-only" => if o.paramsOnly then none else some { o with paramsOnly := true }
  | "json" => if o.json then none else some { o with json := true }
  | _ => none

/-- The path of the configuration, which is given once and is not empty. -/
def setConfig (o : BuildOptions) (path : String) : Option BuildOptions :=
  if path = "" ∨ o.config.isSome then none else some { o with config := some path }

/-- The path of the description, which is given once and is not empty. -/
def setFile (o : BuildOptions) (path : String) : Option BuildOptions :=
  if path = "" ∨ o.file.isSome then none else some { o with file := some path }

/-- An argument behind two dashes: a name, and a value behind an equals sign. -/
def longArgument (o : BuildOptions) (cs : List Char) : Option Progress :=
  let name := String.ofList (cs.takeWhile (· ≠ '='))
  match cs.dropWhile (· ≠ '=') with
  | [] =>
    if name = "help" then some .help
    else if name = "config" then some (.options o true)
    else (setFlag o name).map (.options · false)
  | _ :: value =>
    if name = "config" then (setConfig o (String.ofList value)).map (.options · false) else none

/-- Flags behind one dash. -/
def shortArguments : BuildOptions → List Char → Option Progress
  | o, [] => some (.options o false)
  | _, 'h' :: _ => some .help
  | o, 'p' :: cs => (setFlag o "polyphony").bind fun o => shortArguments o cs
  | o, 'c' :: cs =>
    match cs with
    | [] => some (.options o true)
    | '=' :: value => (setConfig o (String.ofList value)).map (.options · false)
    | value => (setConfig o (String.ofList value)).map (.options · false)
  | _, _ => none

/-- Whether an argument is a flag: it starts with a dash and is more than a dash. -/
def isFlag (arg : String) : Bool :=
  match arg.toList with
  | '-' :: _ :: _ => true
  | _ => false

/-- Reads the arguments of a build. -/
def buildArguments : BuildOptions → Bool → Bool → List String → Option Command
  | o, awaits, _, [] => if awaits || o.file.isNone then none else some (.build o)
  | o, true, _, arg :: args =>
    if isFlag arg then none
    else (setConfig o arg).bind fun o => buildArguments o false false args
  | o, false, true, arg :: args => (setFile o arg).bind fun o => buildArguments o false true args
  | o, false, false, arg :: args =>
    if arg = "--" then buildArguments o false true args
    else
      let progress := match arg.toList with
        | '-' :: '-' :: cs => longArgument o cs
        | '-' :: c :: cs => shortArguments o (c :: cs)
        | _ => (setFile o arg).map (.options · false)
      match progress with
      | none => none
      | some .help => some .help
      | some (.options o awaits) => buildArguments o awaits false args

/-- Reads the labels to legalize; `literal` says that two dashes came before. -/
def labelArguments (labels : List String) : Bool → List String → Option Command
  | _, [] => if labels = [] then none else some (.legalize labels)
  | true, arg :: args => labelArguments (labels ++ [arg]) true args
  | false, arg :: args =>
    if arg = "--" then labelArguments labels true args
    else if isFlag arg then
      if arg = "--help" ∨ arg.toList.take 2 = ['-', 'h'] then some .help else none
    else labelArguments (labels ++ [arg]) false args

/-- Reads the arguments of a call for help: at most the name of one command. -/
def helpArguments : List String → Option Command
  | [] => some .help
  | [name] => if ["build", "legalize", "help"].contains name then some .help else none
  | _ => none

/-- Reads all arguments. -/
def Command.read? : List String → Option Command
  | [] => none
  | "build" :: args => buildArguments {} false false args
  | "legalize" :: args => labelArguments [] false args
  | "help" :: args => helpArguments args
  | arg :: _ =>
    if arg = "--help" ∨ arg.toList.take 2 = ['-', 'h'] then some .help else none

end ControlSurface.CommandLine
