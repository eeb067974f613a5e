import Tabsmith.ExitCode
import Tabsmith.Source

/-!
Validating a source: what its document has against it, line by line.
-/

namespace Tabsmith

namespace Validate

/-- The lines on warnings. -/
def warningLines (warnings : List Warning) : List String :=
  warnings.map fun warning => s!"  WARNING: {warning.text}"

/-- The lines on a source that gives a program. -/
def acceptedLines (warnings : List Warning) (p : Program) : List String :=
  warningLines warnings ++
    [if warnings.isEmpty then s!"Schema for '{p.name}' is valid!"
      else s!"Found {warnings.length} warning(s)"]

/-- The lines on a document that is not valid. -/
def rejectedLines (warnings : List Warning) (cause : Invalid) : List String :=
  cause.lines.map (fun line => s!"  ERROR: {line}") ++ warningLines warnings ++
    [s!"Found {cause.lines.length} error(s) and {warnings.length} warning(s)"]

/-- The report on what came of loading, and how the run ends. Only a breakdown has no report. -/
def report (loading : Loading) : Except Fault (ExitCode × String) :=
  match loading.outcome with
  | .ok program => pure (.success, "\n".intercalate (acceptedLines loading.warnings program))
  | .error (.invalid cause) =>
    pure (.invalid, "\n".intercalate (rejectedLines loading.warnings cause))
  | .error (.unusable cause) => pure (.failure, cause.message)
  | .error fault => throw fault

/-- The report on a source, and the notes taken. -/
def run (s : Setting) (source : String) : Except Fault (ExitCode × String) × List Note :=
  let loading := Source.load s source
  (report loading, loading.notes)

end Validate

end Tabsmith
