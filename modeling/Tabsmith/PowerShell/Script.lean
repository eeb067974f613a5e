import Tabsmith.Text.Blank
import Tabsmith.Text.Replace

/-!
The PowerShell scripts that this library writes: one script block that finds the path of commands
typed so far and switches on it. `Script.text` is the only place where a script becomes text.
-/

namespace Tabsmith.PowerShell

/-- A text between apostrophes, each apostrophe in it written twice. -/
def quote (s : String) : String :=
  "'" ++ Text.replace s "'" "''" ++ "'"

/-- What a candidate is. -/
inductive ResultKind where
  | parameterName | parameterValue
deriving DecidableEq, Repr, Inhabited

def ResultKind.name : ResultKind → String
  | parameterName => "ParameterName"
  | parameterValue => "ParameterValue"

/-- What a branch offers. -/
inductive Entry where
  /-- A candidate, with a description that may be empty. -/
  | result (text : String) (kind : ResultKind) (description : String)
  /-- The files of the current folder. -/
  | files
  /-- The folders of the current folder. -/
  | folders
deriving DecidableEq, Repr, Inhabited

/-- The tooltip of a candidate, which must not be empty. -/
def tooltip (text description : String) : String :=
  let line := Text.flatten description
  if line = "" then text else line

/-- The lines that list the current folder. -/
def listingLines (label selector : String) : List String :=
  ["            # " ++ label ++ " completion",
    "            Get-ChildItem -Path . " ++ selector ++ " | ForEach-Object \x7b",
    "                [CompletionResult]::new($_.Name, $_.Name, [CompletionResultType]::ParameterValue, $_.Name)",
    "            \x7d"]

/-- The lines of an entry. -/
def Entry.lines : Entry → List String
  | result text kind description =>
    ["            [CompletionResult]::new(" ++ quote text ++ ", " ++ quote text ++
      ", [CompletionResultType]::" ++ kind.name ++ ", " ++ quote (tooltip text description) ++ ")"]
  | files => listingLines "File" "-File"
  | folders => listingLines "Directory" "-Directory"

/-- The candidates after a path of names, which starts with the program. -/
structure Branch where
  path : List String
  entries : List Entry
deriving DecidableEq, Repr, Inhabited

/-- The lines of a branch. -/
def Branch.lines (b : Branch) : List String :=
  ["        " ++ quote (";".intercalate b.path) ++ " \x7b"] ++ b.entries.flatMap Entry.lines ++
    ["            break", "        \x7d"]

/-- A completion script. -/
structure Script where
  title : String
  program : String
  branches : List Branch
deriving DecidableEq, Repr, Inhabited

/-- The lines before the branches. -/
def Script.openingLines (s : Script) : List String :=
  ["# PowerShell completion for " ++ s.title,
    "# Generated by: shellcomp generate powershell",
    "",
    "using namespace System.Management.Automation",
    "using namespace System.Management.Automation.Language",
    "",
    "Register-ArgumentCompleter -Native -CommandName " ++ quote s.program ++ " -ScriptBlock \x7b",
    "    param($wordToComplete, $commandAst, $cursorPosition)",
    "",
    "    $commandElements = $commandAst.CommandElements",
    "    $command = @(",
    "        " ++ quote s.program,
    "        for ($i = 1; $i -lt $commandElements.Count; $i++) \x7b",
    "            $element = $commandElements[$i]",
    "            if ($element -isnot [StringConstantExpressionAst] -or",
    "                $element.StringConstantType -ne [StringConstantType]::BareWord -or",
    "                $element.Value.StartsWith('-') -or",
    "                $element.Value -eq $wordToComplete) \x7b",
    "                break",
    "            \x7d",
    "            $element.Value",
    "        \x7d",
    "    ) -join ';'",
    "",
    "    $completions = @(switch ($command) \x7b"]

/-- The lines after the branches. -/
def closingLines : List String :=
  ["    \x7d)",
    "",
    "    $completions.Where\x7b $_.CompletionText -like \"$wordToComplete*\" \x7d |",
    "        Sort-Object -Property ListItemText",
    "\x7d"]

/-- The text of a script. -/
def Script.text (s : Script) : String :=
  "\n".intercalate (s.openingLines ++ s.branches.flatMap Branch.lines ++ closingLines) ++ "\n"

end Tabsmith.PowerShell
