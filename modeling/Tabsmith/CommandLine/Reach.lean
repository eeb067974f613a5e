import Tabsmith.CommandLine.Run

/-!
What a command line can look at: variables of the environment, and paths. It bounds what has to be
known of the system before the command line is run.
-/

namespace Tabsmith

/-- The names of the variables that a text refers to. -/
def Environment.references : List Char → List String
  | [] => []
  | c :: rest =>
    let more := references rest
    if c = '$' then
      match reference? rest with
      | some (name, _) => name :: more
      | none => more
    else more

namespace CommandLine

/-- The variables that every run looks at. -/
def usualVariables : List String :=
  ["HOME", "XDG_CONFIG_HOME", "XDG_DATA_HOME", Log.debugVariable, "NO_COLOR", "FORCE_COLOR",
    "SHELL", "PSModulePath"]

/-- The words that a user gives, on the command line and in answers. -/
def userWords (line : CommandLine) (answers : List Answer) : List String :=
  line.params ++ line.logFile.toList ++ answers.filterMap fun answer =>
    match answer with
    | .given (.text word) => some word
    | _ => none

/-- The variables that a run can look at. -/
def variablesFor (line : CommandLine) (answers : List Answer) : List String :=
  usualVariables ++ (userWords line answers).flatMap fun word =>
    Environment.references word.toList

/-- The paths that a word can mean. -/
def pathsOf (s : Setting) (word : String) : List Path :=
  let found := (s.userPath word).toOption.toList ++
    (s.userPath (s.environment.expand word)).toOption.toList
  found ++ found.map Path.collapsed ++ [(Path.ofText word).collapsed]

/-- The usual destinations of the program that a word leads to, if it leads to one. -/
def destinationsOf (s : Setting) (word : String) : List Path :=
  match (Source.load s word).outcome, (Config.load s).outcome.1 with
  | .ok program, .ok config =>
    Shell.all.flatMap fun shell =>
      match Destination.default s shell.name program.name config with
      | .ok path => [Path.ofText path]
      | .error _ => []
  | _, _ => []

/-- The paths that a run can look at, as far as the file tree of `s` tells. -/
def reach (s : Setting) (line : CommandLine) (answers : List Answer) : List Path :=
  let words := userWords line answers
  (Config.file s).toOption.toList ++ words.flatMap (pathsOf s) ++ words.flatMap (destinationsOf s)

end CommandLine

end Tabsmith
