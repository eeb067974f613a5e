import Mathlib.Data.List.TakeWhile
import Tabsmith.Proofs.Acceptance.Small
import Tabsmith.Proofs.Nodes
import Tabsmith.Proofs.Reading.Nodes

/-!
The short flags of options. The check looks at them as they are written in the document, and reading takes
the dashes off their start. So they are tokens without a dash in front, but not all of them have a letter
left.
-/

namespace Tabsmith

/-! ## The options of a program, and the nodes they are read of -/

/-- A command has an option, or a command below it does. -/
inductive Command.HasOption : Command → Opt → Prop
  | own {c : Command} {o : Opt} (hoption : o ∈ c.options) : HasOption c o
  | under {c sub : Command} {o : Opt} (hsub : sub ∈ c.subcommands) (hoption : HasOption sub o) :
      HasOption c o

/-- A program has an option: it is one of the global ones, or belongs to a command at some depth. -/
def Program.HasOption (p : Program) (o : Opt) : Prop :=
  o ∈ p.globalOptions ∨ ∃ c ∈ p.commands, c.HasOption o

theorem Fields.ReadAs.exists_part {α : Type} {node sub : Fields} {key : String} {f : Value → Reading α}
    {parts : List α} (hread : node.ReadAs key f parts) (hsub : sub ∈ node.nodes key) :
    ∃ part ∈ parts, f (.object sub) = .ok part := by
  obtain ⟨part, hpart, hsub, _⟩ := exists_common_of_mem hread hread hsub
  exact ⟨part, hpart, hsub⟩

theorem Fields.ReadAs.exists_node {α : Type} {node : Fields} {key : String} {f : Value → Reading α}
    {parts : List α} (hread : node.ReadAs key f parts) {part : α} (hpart : part ∈ parts) :
    ∃ sub ∈ node.nodes key, f (.object sub) = .ok part := by
  have hflip : List.Forall₂ (flip fun sub part => f (.object sub) = .ok part) parts (node.nodes key) :=
    List.Forall₂.flip hread
  obtain ⟨sub, hsub, hpart, _⟩ := exists_common_of_mem hflip hflip hpart
  exact ⟨sub, hsub, hpart⟩

/-- Each option of a command was read of a node. -/
theorem IsCommand.exists_node {node : Fields} (hnode : IsCommand node) {c : Command}
    (hread : Command.ofDocument (.object node) = .ok c) {o : Opt} (hoption : c.HasOption o) :
    ∃ part, Within .command node .option part ∧ Opt.ofDocument (.object part) = .ok o := by
  induction hoption generalizing node with
  | own hoption =>
    obtain ⟨hreadOptions, _, _⟩ := hnode.readAs hread
    obtain ⟨part, hpart, hreadPart⟩ := hreadOptions.exists_node hoption
    exact ⟨part, .list (by decide) hpart (.self ..), hreadPart⟩
  | under hsub _ ih =>
    obtain ⟨_, _, hreadSubs⟩ := hnode.readAs hread
    obtain ⟨subnode, hsubnode, hreadSub⟩ := hreadSubs.exists_node hsub
    obtain ⟨part, hwithin, hreadPart⟩ := ih (hnode.of_subcommand hsubnode) hreadSub
    exact ⟨part, .list (by decide) hsubnode hwithin, hreadPart⟩

/-- Each node of an option in the node of a command is one, and was read as an option of the command. -/
theorem IsCommand.exists_option {node : Fields} (hnode : IsCommand node) {c : Command}
    (hread : Command.ofDocument (.object node) = .ok c) {part : Fields}
    (hwithin : Within .command node .option part) :
    IsOption part ∧ ∃ o, c.HasOption o ∧ Opt.ofDocument (.object part) = .ok o := by
  induction hnode using IsCommand.induction generalizing c with
  | step node hnode ih =>
    obtain ⟨hreadOptions, _, hreadSubs⟩ := hnode.readAs hread
    rcases hwithin.of_command with
      ⟨hkind, _⟩ | ⟨sub, hsub, hbelow⟩ | ⟨sub, _, hbelow⟩ | ⟨sub, hsub, hbelow⟩
    · cases hkind
    · obtain ⟨_, rfl⟩ := hbelow.of_part (.inl rfl) (by decide)
      obtain ⟨o, hoption, hreadPart⟩ := hreadOptions.exists_part hsub
      exact ⟨hnode.of_option hsub, o, .own hoption, hreadPart⟩
    · cases (hbelow.of_part (.inr rfl) (by decide)).1
    · obtain ⟨subcommand, hsubcommand, hreadSub⟩ := hreadSubs.exists_part hsub
      obtain ⟨hpart, o, hoption, hreadPart⟩ := ih sub hsub hreadSub hbelow
      exact ⟨hpart, o, .under hsubcommand hoption, hreadPart⟩

theorem IsProgram.exists_node {node : Fields} (hnode : IsProgram node) {p : Program}
    (hread : Program.ofDocument (.object node) = .ok p) {o : Opt} (hoption : p.HasOption o) :
    ∃ part, Within .program node .option part ∧ Opt.ofDocument (.object part) = .ok o := by
  obtain ⟨hreadCommands, hreadOptions⟩ := hnode.readAs hread
  rcases hoption with hglobal | ⟨c, hc, hoption⟩
  · obtain ⟨part, hpart, hreadPart⟩ := hreadOptions.exists_node hglobal
    exact ⟨part, .list (by decide) hpart (.self ..), hreadPart⟩
  · obtain ⟨sub, hsub, hreadSub⟩ := hreadCommands.exists_node hc
    obtain ⟨part, hwithin, hreadPart⟩ := (hnode.eachCommand sub hsub).exists_node hreadSub hoption
    exact ⟨part, .list (by decide) hsub hwithin, hreadPart⟩

theorem IsProgram.exists_option {node : Fields} (hnode : IsProgram node) {p : Program}
    (hread : Program.ofDocument (.object node) = .ok p) {part : Fields}
    (hwithin : Within .program node .option part) :
    IsOption part ∧ ∃ o, p.HasOption o ∧ Opt.ofDocument (.object part) = .ok o := by
  obtain ⟨hreadCommands, hreadOptions⟩ := hnode.readAs hread
  rcases hwithin.of_program with ⟨hkind, _⟩ | ⟨sub, hsub, hbelow⟩ | ⟨sub, hsub, hbelow⟩
  · cases hkind
  · obtain ⟨c, hc, hreadSub⟩ := hreadCommands.exists_part hsub
    obtain ⟨hpart, o, hoption, hreadPart⟩ :=
      (hnode.eachCommand sub hsub).exists_option hreadSub hbelow
    exact ⟨hpart, o, .inr ⟨c, hc, hoption⟩, hreadPart⟩
  · obtain ⟨_, rfl⟩ := hbelow.of_part (.inl rfl) (by decide)
    obtain ⟨o, hoption, hreadPart⟩ := hreadOptions.exists_part hsub
    exact ⟨hnode.eachOption _ hsub, o, .inl hoption, hreadPart⟩

/-! ## Aliases and short flags -/

theorem toList_withoutLead (mark : Char) (s : String) :
    (withoutLead mark s).toList = s.toList.dropWhile (· = mark) := by
  rw [withoutLead, String.toList_ofList]

theorem head?_withoutLead (mark : Char) (s : String) :
    (withoutLead mark s).toList.head? ≠ some mark := by
  intro hhead
  have hnot := List.head?_dropWhile_not (fun c => decide (c = mark)) s.toList
  rw [toList_withoutLead] at hhead
  rw [hhead] at hnot
  simp at hnot

theorem mem_of_mem_withoutLead {mark c : Char} {s : String} (hc : c ∈ (withoutLead mark s).toList) :
    c ∈ s.toList := by
  rw [toList_withoutLead] at hc
  exact List.dropWhile_subset _ hc

theorem withoutLead_ne_empty_iff {mark : Char} {s : String} :
    withoutLead mark s ≠ "" ↔ ∃ c ∈ s.toList, c ≠ mark := by
  rw [Ne, ← String.toList_inj, toList_withoutLead]
  simp [List.dropWhile_eq_nil_iff]

/-- An option is written with a short flag, alone or in a list. -/
def Fields.HasAlias (node : Fields) (s : String) : Prop :=
  .text s ∈ Condition.members (node.get "short")

theorem IsOption.isAlias_of_mem {node : Fields} (hnode : IsOption node) {value : Value}
    (hmem : value ∈ Condition.members (node.get "short")) : value.IsAlias := by
  rcases hnode.short with hnull | ⟨s, htext, hs⟩ | ⟨items, hlist, hall⟩
  · rw [hnull] at hmem
    cases hmem
  · rw [htext] at hmem
    obtain rfl := List.mem_singleton.1 hmem
    exact ⟨s, rfl, hs⟩
  · rw [hlist] at hmem
    exact hall value hmem

/-- The short flags of an option are those it is written with, without the dashes at their start. -/
theorem IsOption.mem_short_iff {node : Fields} (hnode : IsOption node) {o : Opt}
    (hread : Opt.ofDocument (.object node) = .ok o) {s : String} :
    s ∈ o.short ↔ ∃ written, node.HasAlias written ∧ withoutLead '-' written = s := by
  obtain ⟨aliases, haliases, hshort⟩ := Opt.short_of_ofDocument hread
  rw [Reading.texts_eq (hnode.short.imp fun _ h => h.isList)] at haliases
  split at haliases
  · cases haliases
  · obtain rfl := Except.ok.inj haliases
    rw [hshort, List.map_map, List.mem_map]
    constructor
    · rintro ⟨value, hmem, rfl⟩
      obtain ⟨written, rfl, _⟩ := hnode.isAlias_of_mem hmem
      exact ⟨written, hmem, rfl⟩
    · rintro ⟨written, hmem, rfl⟩
      exact ⟨.text written, hmem, rfl⟩

/-- The short flags of a document without problems have no dash in front and no space in them, at every
depth. That none of them is empty takes more than the check asks for: it is so exactly if no option is
written with a short flag of dashes only. -/
theorem short_flags_of_no_problems {node : Fields} {p : Program}
    (haccepted : (checkDocument (.object node)).problems = [])
    (hread : Program.ofDocument (.object node) = .ok p) :
    (∀ o, p.HasOption o → ∀ s ∈ o.short, s.toList.head? ≠ some '-' ∧ ' ' ∉ s.toList) ∧
      ((∀ o, p.HasOption o → ∀ s ∈ o.short, s ≠ "") ↔
        ∀ part, Within .program node .option part →
          ∀ s, part.HasAlias s → ∃ c ∈ s.toList, c ≠ '-') := by
  obtain ⟨_, hobject, hnode⟩ := problems_checkDocument_eq_nil_iff.1 haccepted
  obtain rfl := Value.object.inj hobject
  have hwritten : ∀ o, p.HasOption o → ∀ s ∈ o.short, ∃ part written,
      Within .program node .option part ∧ IsOption part ∧ part.HasAlias written ∧
        withoutLead '-' written = s := by
    intro o hoption s hs
    obtain ⟨part, hwithin, hreadPart⟩ := hnode.exists_node hread hoption
    obtain ⟨hpart, _⟩ := hnode.exists_option hread hwithin
    obtain ⟨written, halias, hs⟩ := (hpart.mem_short_iff hreadPart).1 hs
    exact ⟨part, written, hwithin, hpart, halias, hs⟩
  refine ⟨fun o hoption s hs => ?_, fun hall part hwithin written halias => ?_,
    fun hall o hoption s hs => ?_⟩
  · obtain ⟨part, written, _, hpart, halias, rfl⟩ := hwritten o hoption s hs
    obtain ⟨_, heq, _, hspace⟩ := hpart.isAlias_of_mem halias
    obtain rfl := Value.text.inj heq
    exact ⟨head?_withoutLead '-' written, fun hmem => hspace (mem_of_mem_withoutLead hmem)⟩
  · obtain ⟨hpart, o, hoption, hreadPart⟩ := hnode.exists_option hread hwithin
    have hs := (hpart.mem_short_iff hreadPart).2 ⟨written, halias, rfl⟩
    exact withoutLead_ne_empty_iff.1 (hall o hoption _ hs)
  · obtain ⟨part, written, hwithin, _, halias, rfl⟩ := hwritten o hoption s hs
    exact withoutLead_ne_empty_iff.2 (hall part hwithin written halias)

/-- An instance: an option of a command is written with its dash, and loses it. -/
theorem short_flags_of_forcing_tool :
    let force : Fields := [("name", .text "force"), ("short", .text "-f")]
    let run : Fields := [("name", .text "run"), ("options", .list [.object force])]
    let node : Fields := [("name", .text "tool"), ("commands", .list [.object run])]
    let p : Program := { name := "tool", commands := [
      { name := "run", options := [{ name := "force", short := ["f"] }] }] }
    (checkDocument (.object node)).problems = [] ∧ Program.ofDocument (.object node) = .ok p ∧
      ∀ o, p.HasOption o → ∀ s ∈ o.short, s.toList.head? ≠ some '-' ∧ ' ' ∉ s.toList ∧ s ≠ "" := by
  intro force run node p
  have hforce : IsOption force := isOption_of_short (by decide) (by decide) (by decide)
  have hrun : IsCommand run :=
    isCommand_of_options (by decide) (List.forall_mem_singleton.2 hforce) (by decide)
  have hnode : IsProgram node :=
    isProgram_of_commands (by decide) (List.forall_mem_singleton.2 hrun) (by decide)
  have haccepted := problems_checkDocument_eq_nil_iff.2 ⟨node, rfl, hnode⟩
  have hread : Program.ofDocument (.object node) = .ok p := by
    refine Program.ofDocument_of_command "tool" (by decide) ?_
    rw [Command.ofDocument_object]
    rfl
  obtain ⟨htokens, hfilled⟩ := short_flags_of_no_problems haccepted hread
  have hfilled := hfilled.2 fun part hwithin s halias => ?_
  · exact ⟨haccepted, hread, fun o hoption s hs =>
      ⟨(htokens o hoption s hs).1, (htokens o hoption s hs).2, hfilled o hoption s hs⟩⟩
  · rcases hwithin.of_program with ⟨hkind, _⟩ | ⟨sub, hsub, hbelow⟩ | ⟨_, hsub, _⟩
    · cases hkind
    · obtain rfl : sub = run := List.mem_singleton.1 hsub
      rcases hbelow.of_command with ⟨hkind, _⟩ | ⟨sub, hsub, hbelow⟩ | ⟨_, hsub, _⟩ | ⟨_, hsub, _⟩
      · cases hkind
      · obtain rfl : sub = force := List.mem_singleton.1 hsub
        obtain ⟨_, rfl⟩ := hbelow.of_part (.inl rfl) (by decide)
        obtain rfl : s = "-f" := Value.text.inj (List.mem_singleton.1 halias)
        exact ⟨'f', by decide, by decide⟩
      all_goals cases hsub
    · cases hsub

/-- A counterexample to short flags that are never empty: the check takes a dash for a token, and reading
it leaves nothing. The option is then offered as a single dash. -/
theorem short_flag_of_dash_is_empty :
    let dash : Fields := [("name", .text "x"), ("short", .text "-")]
    let node : Fields := [("name", .text "tool"), ("globalOptions", .list [.object dash])]
    let o : Opt := { name := "x", short := [""] }
    (checkDocument (.object node)).problems = [] ∧
      Program.ofDocument (.object node) = .ok { name := "tool", globalOptions := [o] } ∧
      o.flags = ["-", "--x"] := by
  intro dash node o
  have hdash : IsOption dash := isOption_of_short (by decide) (by decide) (by decide)
  have hnode : IsProgram node :=
    isProgram_of_options (by decide) (List.forall_mem_singleton.2 hdash) (by decide)
  have hread : Program.ofDocument (.object node) = .ok { name := "tool", globalOptions := [o] } := by
    rw [Program.ofDocument_object]
    rfl
  exact ⟨problems_checkDocument_eq_nil_iff.2 ⟨node, rfl, hnode⟩, hread, by decide⟩

end Tabsmith
