import Tabsmith.Generate
import Tabsmith.Proofs.Hiding
import Tabsmith.Proofs.Whole
import Tabsmith.Validate

/-!
Validating a source and generating a script for it come to the same verdict: both succeed, both
list the same problems, both say why the source cannot be used, or both break down alike.
-/

namespace Tabsmith

/-- What validating a source and generating a script for it without a destination come to, by what
comes of loading the source with some warnings. -/
inductive SameVerdict (shell : Shell) (warnings : List Warning) :
    Except Fault Program → (validated generated : Except Fault (ExitCode × String)) → Prop
  /-- Both succeed, and the script is the one of the loaded program. -/
  | accepted {p : Program} {report script : String}
      (hscript : generate (.text shell.name) (.inr p) = .ok script) :
      SameVerdict shell warnings (.ok p) (.ok (.success, report)) (.ok (.success, script))
  /-- Both list the same problems in the same order. -/
  | rejected (cause : Invalid) :
      SameVerdict shell warnings (.error (.invalid cause))
        (.ok (.invalid, "\n".intercalate (cause.lines.map ("  ERROR: " ++ ·) ++
          warnings.map (fun warning => "  WARNING: " ++ warning.text) ++
          [s!"Found {cause.lines.length} error(s) and {warnings.length} warning(s)"])))
        (.ok (.invalid, "\n".intercalate (cause.message :: cause.lines)))
  /-- Both give the reason why the source cannot be used. -/
  | unusable (cause : Unusable) :
      SameVerdict shell warnings (.error (.unusable cause)) (.ok (.failure, cause.message))
        (.ok (.failure, "Failed to generate completions: " ++ cause.message))
  | brokenDown (cause : Breakdown) :
      SameVerdict shell warnings (.error (.breakdown cause)) (.error (.breakdown cause))
        (.error (.breakdown cause))

section Runs

variable {s : Setting} {shell : Shell} {source : String}

theorem Order.ofWords_shell_source (shell : Shell) (source : String) :
    Order.ofWords [shell.name, source] = .ok ⟨shell, source, none⟩ := by
  rw [Order.ofWords, Shell.ofName?_name]
  rfl

/-- Without a destination, the script of the loaded program is what the run says. -/
theorem Generate.outcome_of_load_ok {p : Program}
    (hload : (Source.load s source).outcome = .ok p) :
    (Generate.run s [shell.name, source]).outcome = .ok (.success, shell.script p) := by
  have hplan : (Generate.plan s [shell.name, source]).outcome.1 =
      .ok (.reply .success (shell.script p)) := by
    rw [Generate.plan, Order.ofWords_shell_source]
    dsimp only
    rw [Generate.planOrder, hload]
    rfl
  rw [Generate.run]
  split
  next hfault =>
    rw [hfault] at hplan
    cases hplan
  next hreply =>
    rw [hreply] at hplan
    cases hplan
    rfl

/-- A run whose source gives no program ends in the reply to that. -/
theorem Generate.outcome_of_load_error {fault : Fault}
    (hload : (Source.load s source).outcome = .error fault) :
    (Generate.run s [shell.name, source]).outcome =
      (Generate.reply fault).bind fun plan => (plan.carryOut s s.files).1 := by
  have hplan : (Generate.plan s [shell.name, source]).outcome.1 = Generate.reply fault := by
    rw [Generate.plan, Order.ofWords_shell_source]
    dsimp only
    rw [Generate.planOrder, hload]
    rfl
  rw [Generate.run, ← hplan]
  split
  next hfault =>
    rw [hfault]
    rfl
  next hreply =>
    rw [hreply]
    rfl

theorem generate_of_load {p : Program} (hload : (Source.load s source).outcome = .ok p) :
    generate (.text shell.name) (.inr p) = .ok (shell.script p) := by
  rw [generate_program, Shell.isWhole_of_isWhole (Source.isWhole_of_load hload), if_pos rfl]

end Runs

/-- Validating a source and generating a script for it, for any shell, come to the same verdict. -/
theorem validate_agrees_with_generate (s : Setting) (source : String) (shell : Shell) :
    SameVerdict shell (Source.load s source).warnings (Source.load s source).outcome
      (Validate.run s source).1 (Generate.run s [shell.name, source]).outcome := by
  rw [Validate.run, Validate.report]
  cases hload : (Source.load s source).outcome with
  | ok p =>
    rw [Generate.outcome_of_load_ok hload]
    exact .accepted (generate_of_load hload)
  | error fault =>
    rw [Generate.outcome_of_load_error hload]
    cases fault with
    | invalid cause => exact .rejected cause
    | unusable cause => exact .unusable cause
    | breakdown cause => exact .brokenDown cause

end Tabsmith
