import Tabsmith.Proofs.Calls.Reach
import Tabsmith.Proofs.Reading
import Tabsmith.Proofs.Sites.Distinct

/-!
When every site has a function of its own. The names of siblings differ in a program that was read
from a document without problems, but the names of functions keep only the letters and digits of a
path: they are the same for two sites whose paths consist of the same runs of these.
-/

namespace Tabsmith

/-- No two sites have paths of the same runs of letters and digits. -/
def Program.RunsDiffer (p : Program) : Prop :=
  ∀ s ∈ p.sites, ∀ t ∈ p.sites, s.path ≠ t.path →
    s.path.flatMap nameRuns ≠ t.path.flatMap nameRuns

theorem functionName_cons_eq_iff {program : String} {a b : List String} :
    functionName (program :: a) = functionName (program :: b) ↔
      a.flatMap nameRuns = b.flatMap nameRuns := by
  rw [functionName_eq_iff (List.cons_ne_nil _ _) (List.cons_ne_nil _ _), List.flatMap_cons,
    List.flatMap_cons, List.append_cancel_left_eq]

/-- The entry function has a name of its own. -/
theorem functionName_ne_entry {program : String} {path : List String} (hpath : path ≠ []) :
    functionName (program :: path) ≠ functionName [program] := by
  rw [Ne, functionName_cons_eq_iff, List.flatMap_nil, List.flatMap_eq_nil_iff]
  intro hnil
  obtain ⟨name, rest, rfl⟩ := List.exists_cons_of_ne_nil hpath
  exact nameRuns_ne_nil name (hnil name (by simp))

theorem Command.WellFormed.siblingsDiffer {c : Command} (hc : c.WellFormed) :
    SiblingsDiffer c.subcommands := by
  induction hc with
  | intro _ _ _ _ _ hnames _ ih => exact .intro hnames ih

theorem Program.WellFormed.siblingsDiffer {p : Program} (hp : p.WellFormed) :
    SiblingsDiffer p.commands :=
  .intro hp.commandNames fun c hc => (hp.commands c hc).siblingsDiffer

/-- The names of the functions of the sites differ exactly if the runs of their paths do. -/
theorem functionNames_differ_iff (p : Program) :
    (∀ s ∈ p.sites, ∀ t ∈ p.sites, s.path ≠ t.path →
      functionName (p.name :: s.path) ≠ functionName (p.name :: t.path)) ↔ p.RunsDiffer := by
  simp only [Program.RunsDiffer, ne_eq, functionName_cons_eq_iff]

theorem nodup_functionNames_iff {p : Program} (hp : SiblingsDiffer p.commands) :
    (functionName [p.name] :: p.sites.map fun site => functionName (p.name :: site.path)).Nodup ↔
      p.RunsDiffer := by
  have hpaths : (p.sites.map (·.path)).Nodup := nodup_paths_sitesDown hp []
  have hentry : functionName [p.name] ∉
      p.sites.map fun site => functionName (p.name :: site.path) := by
    intro hmem
    obtain ⟨site, hsite, hname⟩ := List.mem_map.1 hmem
    exact functionName_ne_entry (Program.mem_sites_iff.1 hsite).1.path_ne_nil hname
  have hmap : (p.sites.map fun site => functionName (p.name :: site.path)) =
      (p.sites.map (·.path)).map fun path => functionName (p.name :: path) := by
    rw [List.map_map]
    rfl
  rw [List.nodup_cons, and_iff_right hentry, hmap, List.nodup_map_iff_inj_on hpaths,
    ← functionNames_differ_iff]
  simp only [List.forall_mem_map]
  exact forall₄_congr fun s _ t _ => not_imp_not.symm

/-- In a program whose siblings have different names, no function of the scripts is defined twice
exactly if the runs of the paths differ. -/
theorem nodup_definedNames_iff {p : Program} (hp : SiblingsDiffer p.commands) :
    ((definedNames (Bash.script p).lines).Nodup ↔ p.RunsDiffer) ∧
      ((definedNames (Zsh.script p).lines).Nodup ↔ p.RunsDiffer) := by
  have hbash := Bash.Script.definedNames_lines (s := Bash.script p)
    fun f hf => Bash.isNamed_of_mem_definitions hf
  have hzsh := Zsh.Script.definedNames_lines (s := Zsh.script p)
    fun f hf => Zsh.isNamed_of_mem_definitions hf
  have hup := (sitesUp_perm_sitesDown [] p.commands).map
    fun site => functionName (p.name :: site.path)
  rw [hbash, hzsh, Bash.definitions_names, Zsh.definitions_names,
    (List.perm_append_singleton _ _).nodup_iff, (hup.cons _).nodup_iff]
  exact ⟨nodup_functionNames_iff hp, nodup_functionNames_iff hp⟩

/-- Of a document without problems, the sites of the program have different function names exactly if
the runs of letters and digits in their paths differ, and exactly then neither script defines a
function twice. Every call then runs the function of the very command it is for. -/
theorem functions_differ_iff_runsDiffer (document : Value) (p : Program)
    (haccepted : (checkDocument document).problems = [])
    (hread : Program.ofDocument document = .ok p) :
    ((∀ s ∈ p.sites, ∀ t ∈ p.sites, s.path ≠ t.path →
        functionName (p.name :: s.path) ≠ functionName (p.name :: t.path)) ↔ p.RunsDiffer) ∧
      ((definedNames (Bash.script p).lines).Nodup ↔ p.RunsDiffer) ∧
      ((definedNames (Zsh.script p).lines).Nodup ↔ p.RunsDiffer) ∧
      (p.RunsDiffer → Bash.CallsReachTheirSites p ∧ Zsh.CallsReachTheirSites p) := by
  have hp := (wellFormed_of_no_problems haccepted hread).siblingsDiffer
  obtain ⟨hbash, hzsh⟩ := nodup_definedNames_iff hp
  refine ⟨functionNames_differ_iff p, hbash, hzsh, fun hruns => ⟨?_, ?_⟩⟩
  · have hnames := hbash.2 hruns
    rw [Bash.Script.definedNames_lines fun f hf => Bash.isNamed_of_mem_definitions hf] at hnames
    exact Bash.callsReachTheirSites hnames
  · have hnames := hzsh.2 hruns
    rw [Zsh.Script.definedNames_lines fun f hf => Zsh.isNamed_of_mem_definitions hf] at hnames
    exact Zsh.callsReachTheirSites hnames

/-- A command that was written with a name and the name of one option. -/
theorem Command.ofDocument_of_option {name flag : String} (hname : name ≠ "") (hflag : flag ≠ "") :
    Command.ofDocument (.object [("name", .text name),
      ("options", .list [.object [("name", .text flag)]])]) =
        .ok { name := name, options := [{ name := flag }] } := by
  have hoption : Opt.ofDocument (.object [("name", .text flag)]) = .ok { name := flag } := by
    change (do return ({ name := ← Reading.name "Option" (.text flag) } : Opt)) = _
    rw [Reading.name, if_neg hflag]
    rfl
  rw [Command.ofDocument]
  change (do
    let options ← [Value.object [("name", .text flag)]].mapM Opt.ofDocument
    return ({ name := ← Reading.name "Command" (.text name), options := options } : Command)) = _
  rw [List.mapM_cons, hoption, Reading.name, if_neg hname]
  rfl

/-- An instance: a tool with the commands `remote`, `remote add-url` below it, and `remote-add`. -/
theorem functions_differ_of_remote_tool :
    let force : Fields := [("name", .text "force")]
    let add : Fields := [("name", .text "add-url"), ("options", .list [.object force])]
    let remote : Fields := [("name", .text "remote"), ("subcommands", .list [.object add])]
    let other : Fields := [("name", .text "remote-add"), ("options", .list [.object force])]
    let document : Value :=
      .object [("name", .text "tool"), ("commands", .list [.object remote, .object other])]
    (checkDocument document).problems = [] ∧ ∃ p, Program.ofDocument document = .ok p ∧
      p.RunsDiffer ∧ (definedNames (Bash.script p).lines).Nodup ∧
      (definedNames (Zsh.script p).lines).Nodup ∧
      Bash.CallsReachTheirSites p ∧ Zsh.CallsReachTheirSites p := by
  intro force add remote other document
  have hforce : ∀ sub ∈ [force], IsOption sub :=
    List.forall_mem_singleton.2 (isOption_of_name (by decide))
  have hremote : IsCommand remote := isCommand_of_subcommands (by decide)
    (List.forall_mem_singleton.2 (isCommand_of_options (by decide) hforce (by decide))) (by decide)
  have hother : IsCommand other := isCommand_of_options (by decide) hforce (by decide)
  have haccepted : (checkDocument document).problems = [] :=
    problems_checkDocument_eq_nil_iff.2 ⟨_, rfl, isProgram_of_commands (by decide)
      (List.forall_mem_cons.2 ⟨hremote, List.forall_mem_singleton.2 hother⟩) (by decide)⟩
  let leaf (name : String) : Command := { name := name, options := [{ name := "force" }] }
  let p : Program := {
    name := "tool"
    commands := [{ name := "remote", subcommands := [leaf "add-url"] }, leaf "remote-add"] }
  have hreadAdd : Command.ofDocuments [.object add] = .ok [leaf "add-url"] := by
    rw [Command.ofDocuments_eq_mapM, List.mapM_cons,
      Command.ofDocument_of_option (by decide) (by decide)]
    rfl
  have hreadRemote : Command.ofDocument (.object remote) =
      .ok { name := "remote", subcommands := [leaf "add-url"] } := by
    rw [Command.ofDocument]
    change Command.ofDocuments [.object add] >>= _ = _
    rw [hreadAdd]
    rfl
  have hread : Program.ofDocument document = .ok p := by
    change Command.ofDocuments [.object remote, .object other] >>= _ = _
    rw [Command.ofDocuments_eq_mapM, List.mapM_cons, List.mapM_cons, hreadRemote,
      Command.ofDocument_of_option (by decide) (by decide)]
    rfl
  have hruns : p.RunsDiffer := by
    unfold Program.RunsDiffer
    decide
  obtain ⟨_, hbash, hzsh, hcalls⟩ := functions_differ_iff_runsDiffer document p haccepted hread
  exact ⟨haccepted, p, hread, hruns, hbash.2 hruns, hzsh.2 hruns, hcalls hruns⟩

/-- Commands named `a-b` and `a_b` are different siblings without problems, but they share one function
name, which both scripts define twice. One of the calls then runs the function of the other. -/
theorem functions_of_similar_names_collide :
    let command (name flag : String) : Fields :=
      [("name", .text name), ("options", .list [.object [("name", .text flag)]])]
    let document : Value := .object [("name", .text "p"),
      ("commands", .list [.object (command "a-b" "x"), .object (command "a_b" "y")])]
    (checkDocument document).problems = [] ∧ ∃ p, Program.ofDocument document = .ok p ∧
      (∃ s ∈ p.sites, ∃ t ∈ p.sites, s.path ≠ t.path ∧
        functionName (p.name :: s.path) = functionName (p.name :: t.path)) ∧
      ¬ (definedNames (Bash.script p).lines).Nodup ∧ ¬ (definedNames (Zsh.script p).lines).Nodup ∧
      ¬ Bash.CallsReachTheirSites p ∧ ¬ Zsh.CallsReachTheirSites p := by
  intro command document
  have hcommand : ∀ name flag, Text.isVoid name = false → Text.isVoid flag = false →
      IsCommand (command name flag) := fun name flag hname hflag =>
    isCommand_of_options hname (List.forall_mem_singleton.2 (isOption_of_name hflag))
      (List.nodup_singleton flag)
  have haccepted : (checkDocument document).problems = [] :=
    problems_checkDocument_eq_nil_iff.2 ⟨_, rfl, isProgram_of_commands (by decide)
      (List.forall_mem_cons.2 ⟨hcommand "a-b" "x" (by decide) (by decide),
        List.forall_mem_singleton.2 (hcommand "a_b" "y" (by decide) (by decide))⟩) (by decide)⟩
  let leaf (name flag : String) : Command := { name := name, options := [{ name := flag }] }
  let p : Program := { name := "p", commands := [leaf "a-b" "x", leaf "a_b" "y"] }
  have hread : Program.ofDocument document = .ok p := by
    change Command.ofDocuments [.object (command "a-b" "x"), .object (command "a_b" "y")] >>= _ = _
    rw [Command.ofDocuments_eq_mapM, List.mapM_cons, List.mapM_cons,
      Command.ofDocument_of_option (by decide) (by decide),
      Command.ofDocument_of_option (by decide) (by decide)]
    rfl
  let s : Site := ⟨["a-b"], leaf "a-b" "x"⟩
  let t : Site := ⟨["a_b"], leaf "a_b" "y"⟩
  have hsites : p.sites = [s, t] := rfl
  have hname : functionName (p.name :: s.path) = functionName (p.name :: t.path) := by decide
  have hruns : ¬ p.RunsDiffer := by
    rw [← functionNames_differ_iff]
    exact fun hdiffer => hdiffer s (by simp [hsites]) t (by simp [hsites]) (by decide) hname
  obtain ⟨hbash, hzsh⟩ := nodup_definedNames_iff
    (wellFormed_of_no_problems haccepted hread).siblingsDiffer
  refine ⟨haccepted, p, hread, ⟨s, by simp [hsites], t, by simp [hsites], by decide, hname⟩,
    mt hbash.1 hruns, mt hzsh.1 hruns, ?_, ?_⟩
  -- One name cannot run two functions, and the two offer different options.
  · rintro ⟨hentry, _⟩
    rw [Bash.calls_entryFunction] at hentry
    obtain ⟨hs, ht⟩ := List.cons.inj hentry
    have hboth := hs.symm.trans ((congrArg _ hname).trans (List.cons.inj ht).1)
    have hbody : Bash.siteFunction p.name s ≠ Bash.siteFunction p.name t := by decide
    exact hbody (Option.some.inj hboth)
  · rintro ⟨hentry, _⟩
    rw [Zsh.calls_entryFunction] at hentry
    obtain ⟨hs, ht⟩ := List.cons.inj hentry
    have hboth := hs.symm.trans ((congrArg _ hname).trans (List.cons.inj ht).1)
    have hbody : Zsh.siteFunction p.name s ≠ Zsh.siteFunction p.name t := by decide
    exact hbody (Option.some.inj hboth)

end Tabsmith
