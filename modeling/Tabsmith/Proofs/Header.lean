import Tabsmith.Proofs.Acceptance.Small
import Tabsmith.Proofs.Reading.Parts
import Tabsmith.Proofs.Text
import Tabsmith.Shell

/-!
The comments that a script opens with, up to the line that names its generator. They show texts of the
program as they are, so that a line end in such a text ends the comment: the lines are comments as long
as each line end is followed by a hash.
-/

namespace Tabsmith

/-- A line that a shell passes over. -/
def IsComment (line : List Char) : Prop :=
  line.head? = some '#'

instance (line : List Char) : Decidable (IsComment line) :=
  inferInstanceAs (Decidable (line.head? = some '#'))

/-! ## Lines of comments -/

namespace Text

variable {p : Char → Bool} {s t : List Char}

/-- Each line end of a text is followed by a hash. -/
def CommentsOn (p : Char → Bool) : List Char → Prop
  | [] => True
  | c :: rest => (p c = true → IsComment rest) ∧ CommentsOn p rest

theorem isComment_head?_pieces (hhash : p '#' = false) :
    (∀ line ∈ (pieces p s).head?, IsComment line) ↔ IsComment s := by
  cases s with
  | nil => simp [pieces, IsComment]
  | cons c rest =>
    by_cases hc : p c = true
    · have hdiffers : c ≠ '#' := by
        rintro rfl
        simp [hhash] at hc
      simp [pieces, hc, hdiffers, IsComment]
    · cases hpieces : pieces p rest <;> simp [pieces, hc, hpieces, IsComment]

theorem isComment_tail_pieces (hhash : p '#' = false) :
    (∀ line ∈ (pieces p s).tail, IsComment line) ↔ CommentsOn p s := by
  induction s with
  | nil => simp [pieces, CommentsOn]
  | cons c rest ih =>
    have hfirst := isComment_head?_pieces (s := rest) hhash
    rw [CommentsOn, ← ih]
    cases hpieces : pieces p rest with
    | nil => exact absurd hpieces (pieces_ne_nil p rest)
    | cons piece others =>
      rw [hpieces] at hfirst
      by_cases hc : p c = true
      · simp_all [pieces]
      · simp_all [pieces]

/-- All lines of a text are comments if the text begins like one and each line end is followed by
another. -/
theorem isComment_pieces (hhash : p '#' = false) :
    (∀ line ∈ pieces p s, IsComment line) ↔ IsComment s ∧ CommentsOn p s := by
  rw [← isComment_head?_pieces hhash, ← isComment_tail_pieces hhash]
  cases hpieces : pieces p s with
  | nil => exact absurd hpieces (pieces_ne_nil p s)
  | cons piece others => simp

theorem commentsOn_of_lacks (hs : ∀ c ∈ s, p c = false) : CommentsOn p s := by
  induction s with
  | nil => trivial
  | cons c rest ih =>
    have hc := hs c List.mem_cons_self
    exact ⟨by simp [hc], ih fun d hd => hs d (List.mem_cons_of_mem c hd)⟩

theorem commentsOn_lacks_append (hs : ∀ c ∈ s, p c = false) :
    CommentsOn p (s ++ t) ↔ CommentsOn p t := by
  induction s with
  | nil => rfl
  | cons c rest ih =>
    have hc := hs c List.mem_cons_self
    have hrest := ih fun d hd => hs d (List.mem_cons_of_mem c hd)
    simp [CommentsOn, hc, hrest]

theorem commentsOn_append (ht : ¬ IsComment t) :
    CommentsOn p (s ++ t) ↔ CommentsOn p s ∧ CommentsOn p t := by
  induction s with
  | nil => simp [CommentsOn]
  | cons c rest ih =>
    have hhead : IsComment (rest ++ t) ↔ IsComment rest := by
      cases rest with
      | nil => simpa [IsComment] using ht
      | cons d rest => simp [IsComment]
    rw [List.cons_append, CommentsOn, CommentsOn, ih, hhead, and_assoc]

end Text

/-! ## Headers -/

namespace Shell

/-- The characters that end a line of a script. -/
def endsLine : Shell → Char → Bool
  | powershell => fun c => c = '\n' || c = '\r'
  | _ => fun c => c = '\n'

/-- The lines that a shell reads in a text. -/
def linesOf (shell : Shell) (text : String) : List (List Char) :=
  Text.pieces shell.endsLine text.toList

/-- The line that names the generator. A zsh script has none. -/
def generatorLine (shell : Shell) : String :=
  "# Generated by: shellcomp generate " ++ shell.name

/-- The lines of a script up to the one that names the generator, and of a zsh script the line that
names the program. -/
def header (p : Program) : Shell → List String
  | bash => (Bash.script p).lines.take 2
  | zsh => (Zsh.script p).lines.take 1
  | fish =>
    ((Fish.script p).description.map fun line => "# " ++ p.name ++ " - " ++ line).toList ++
      [generatorLine fish]
  | powershell => (PowerShell.script p).openingLines.take 2

/-- What the header shows of a program as it is. A fish script shows nothing of a program without a
description. -/
def shown (p : Program) : Shell → String
  | bash | powershell => Text.trimEnd p.title
  | zsh => p.name
  | fish => if p.description = "" then "" else p.name

theorem header_bash (p : Program) : header p bash =
    ["# Bash completion for " ++ shown p bash, generatorLine bash] :=
  rfl

theorem header_powershell (p : Program) : header p powershell =
    ["# PowerShell completion for " ++ shown p powershell, generatorLine powershell] :=
  rfl

theorem header_zsh (p : Program) : header p zsh = ["#compdef " ++ shown p zsh] :=
  rfl

theorem header_fish {p : Program} (hdescription : p.description ≠ "") : header p fish =
    ["# " ++ (p.name ++ (" - " ++ Text.flatten p.description)), generatorLine fish] := by
  rw [header, Fish.script, if_neg hdescription]
  simp [String.append_assoc]

theorem header_fish_of_empty {p : Program} (hdescription : p.description = "") :
    header p fish = [generatorLine fish] := by
  rw [header, Fish.script, if_pos hdescription]
  rfl

/-- A script is its header and what follows on lines of its own. -/
theorem exists_script_eq (shell : Shell) (p : Program) : ∃ rest,
    shell.script p = "\n".intercalate (shell.header p) ++ "\n" ++ rest := by
  have hjoin (above : List String) (line : String) (below : List String) (habove : above ≠ []) :
      ∃ rest, "\n".intercalate (above ++ line :: below) ++ "\n" =
        "\n".intercalate above ++ "\n" ++ rest := by
    refine ⟨"\n".intercalate (line :: below) ++ "\n", ?_⟩
    rw [String.intercalate_append_of_ne_nil habove (List.cons_ne_nil line below),
      String.append_assoc]
  cases shell with
  | bash => exact hjoin (header p bash) "" _ (List.cons_ne_nil _ _)
  | zsh => exact hjoin (header p zsh) "" _ (List.cons_ne_nil _ _)
  | fish =>
    have hlines : ((Fish.script p).description.map fun line => "# " ++ p.name ++ " - " ++ line).toList ++
        ["# Generated by: shellcomp generate fish", ""] ++
        (Fish.script p).lines.map (Fish.Line.text p.name) =
          header p fish ++ "" :: (Fish.script p).lines.map (Fish.Line.text p.name) := by
      have hgenerator : "# Generated by: shellcomp generate fish" = generatorLine fish := rfl
      rw [header, hgenerator, List.append_assoc, List.append_assoc]
      rfl
    obtain ⟨rest, hrest⟩ := hjoin (header p fish) ""
      ((Fish.script p).lines.map (Fish.Line.text p.name))
      (List.append_ne_nil_of_right_ne_nil _ (List.cons_ne_nil _ _))
    rw [← hlines] at hrest
    exact ⟨rest, hrest⟩
  | powershell => exact hjoin (header p powershell) "" _ (List.cons_ne_nil _ _)

theorem isBlank_of_endsLine {shell : Shell} {c : Char} (hc : shell.endsLine c = true) :
    Text.isBlank c = true := by
  have hends : c = '\n' ∨ c = '\r' := by
    cases shell with
    | powershell => simpa [endsLine] using hc
    | _ => exact .inl (by simpa [endsLine] using hc)
  rcases hends with rfl | rfl
  · rfl
  · rfl

theorem endsLine_hash (shell : Shell) : shell.endsLine '#' = false := by
  cases shell <;> rfl

theorem endsLine_newline (shell : Shell) : shell.endsLine '\n' = true := by
  cases shell <;> rfl

theorem generatorLine_lacks (shell : Shell) :
    ∀ c ∈ shell.generatorLine.toList, shell.endsLine c = false := by
  have hany : shell.generatorLine.toList.any shell.endsLine = false := by
    cases shell <;> decide
  simpa using hany

theorem getLast?_header {shell : Shell} (hshell : shell ≠ .zsh) (p : Program) :
    (shell.header p).getLast? = some shell.generatorLine := by
  cases shell with
  | bash => rfl
  | zsh => contradiction
  | fish => rw [header, List.getLast?_concat]
  | powershell => rfl

/-- The lines of the header are the first lines of the script. -/
theorem linesOf_header_prefix_script (shell : Shell) (p : Program) :
    shell.linesOf ("\n".intercalate (shell.header p)) <+: shell.linesOf (shell.script p) := by
  obtain ⟨rest, hscript⟩ := exists_script_eq shell p
  have hnewline : "\n".toList = ['\n'] := rfl
  rw [hscript, linesOf, linesOf, String.toList_append, String.toList_append, hnewline,
    List.append_assoc, List.singleton_append, Text.pieces_eq_splitOnP, Text.pieces_eq_splitOnP,
    List.splitOnP_append_cons _ _ shell.endsLine_newline]
  exact List.prefix_append _ _

theorem isComment_append {shell : Shell} {start t : String} (hfirst : IsComment start.toList)
    (hstart : start.toList.any shell.endsLine = false) :
    (∀ line ∈ shell.linesOf (start ++ t), IsComment line) ↔
      Text.CommentsOn shell.endsLine t.toList := by
  have hlacks : ∀ c ∈ start.toList, shell.endsLine c = false := by simpa using hstart
  have hwhole : IsComment (start.toList ++ t.toList) := by
    cases hchars : start.toList with
    | nil => simp [hchars, IsComment] at hfirst
    | cons c rest => simpa [hchars, IsComment] using hfirst
  rw [linesOf, String.toList_append, Text.isComment_pieces shell.endsLine_hash, and_iff_right hwhole,
    Text.commentsOn_lacks_append hlacks]

theorem commentsOn_generatorLine (shell : Shell) :
    Text.CommentsOn shell.endsLine ('\n' :: shell.generatorLine.toList) := by
  refine ⟨fun _ => ?_, Text.commentsOn_of_lacks shell.generatorLine_lacks⟩
  cases shell <;> decide

/-- A header that shows a text of the program, above the line that names the generator. -/
theorem isComment_titled {shell : Shell} {start t : String} (hfirst : IsComment start.toList)
    (hstart : start.toList.any shell.endsLine = false) :
    (∀ line ∈ shell.linesOf ("\n".intercalate [start ++ t, shell.generatorLine]), IsComment line) ↔
      Text.CommentsOn shell.endsLine t.toList := by
  have htext : (t ++ "\n" ++ shell.generatorLine).toList =
      t.toList ++ '\n' :: shell.generatorLine.toList := by
    have hnewline : "\n".toList = ['\n'] := rfl
    rw [String.toList_append, String.toList_append, hnewline, List.append_assoc,
      List.singleton_append]
  rw [String.intercalate_cons_cons, String.intercalate_singleton, String.append_assoc,
    String.append_assoc, isComment_append hfirst hstart, ← String.append_assoc, htext,
    Text.commentsOn_append (by simp [IsComment])]
  exact and_iff_left shell.commentsOn_generatorLine

end Shell

open Shell in
/-- A script opens with its header, which ends with the line that names the generator. The lines of the
header are comments exactly if each line end in what it shows of the program is followed by a hash. The
description of the program is never at fault. -/
theorem header_isComment_iff (shell : Shell) (p : Program) :
    shell.linesOf ("\n".intercalate (shell.header p)) <+: shell.linesOf (shell.script p) ∧
      (shell = .zsh ∨ (shell.header p).getLast? = some shell.generatorLine) ∧
      ((∀ line ∈ shell.linesOf ("\n".intercalate (shell.header p)), IsComment line) ↔
        Text.CommentsOn shell.endsLine (shell.shown p).toList) := by
  refine ⟨linesOf_header_prefix_script shell p, or_iff_not_imp_left.2 fun h => getLast?_header h p, ?_⟩
  cases shell with
  | bash =>
    rw [header_bash]
    exact isComment_titled (by decide) (by decide)
  | zsh =>
    rw [header_zsh, String.intercalate_singleton]
    exact isComment_append (by decide) (by decide)
  | fish =>
    by_cases hdescription : p.description = ""
    · rw [header_fish_of_empty hdescription, shown, if_pos hdescription, String.intercalate_singleton,
        linesOf, Text.isComment_pieces fish.endsLine_hash]
      have hgenerator := commentsOn_generatorLine fish
      exact iff_of_true ⟨hgenerator.1 rfl, hgenerator.2⟩ trivial
    · -- The description comes after the name, on the same line.
      have hany : " - ".toList.any fish.endsLine = false := by decide
      have hdash : ∀ c ∈ " - ".toList, fish.endsLine c = false := by simpa using hany
      have hflat : ∀ c ∈ (" - " ++ Text.flatten p.description).toList, fish.endsLine c = false := by
        rw [String.toList_append, List.forall_mem_append]
        exact ⟨hdash, Text.flatten_lacks rfl (fun _ => isBlank_of_endsLine) _⟩
      rw [header_fish hdescription, shown, if_neg hdescription, isComment_titled (by decide) (by decide),
        String.toList_append, Text.commentsOn_append (by simp [IsComment])]
      exact and_iff_left (Text.commentsOn_of_lacks hflat)
  | powershell =>
    rw [header_powershell]
    exact isComment_titled (by decide) (by decide)

/-- A program whose name goes on after a line end is accepted, and what follows is a line of the script
that the shell runs. -/
theorem header_of_broken_name_runs : ∃ node p,
    (checkDocument (.object node)).problems = [] ∧ Program.ofDocument (.object node) = .ok p ∧
      ∀ shell ∈ [Shell.bash, .fish, .powershell],
        ∃ line ∈ shell.linesOf ("\n".intercalate (shell.header p)), ¬ IsComment line := by
  let node : Fields := [("name", .text "tool\nexit"), ("description", .text "A tool")]
  let p : Program :=
    { name := "tool\nexit", description := "A tool", version := "", commands := [],
      globalOptions := [] }
  have hnode : IsProgram node := by
    obtain ⟨hcs, hnoCommand, hnoName⟩ := node.no_field "commands" rfl
    obtain ⟨hos, hnoOption, hnoOptionName⟩ := node.no_field "globalOptions" rfl
    exact ⟨⟨"tool\nexit", rfl, by decide⟩, .inr ⟨"A tool", rfl⟩, .inl rfl, hcs, hnoCommand, hnoName, hos,
      hnoOption, hnoOptionName⟩
  have hread : Program.ofDocument (.object node) = .ok p := by
    rw [Program.ofDocument_object]
    rfl
  exact ⟨node, p, problems_checkDocument_eq_nil_iff.2 ⟨node, rfl, hnode⟩, hread, by decide⟩

end Tabsmith
