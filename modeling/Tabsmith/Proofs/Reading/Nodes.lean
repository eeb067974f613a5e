import Tabsmith.Proofs.Acceptance.Program
import Tabsmith.Proofs.Reading.Parts
import Tabsmith.Proofs.WellFormed

/-!
Reading the nodes of a program description without problems: each kind of node gives a well-formed
part of a program, with the names of the node.
-/

namespace Tabsmith

theorem gives_hint {node : Fields} (hnode : IsHint node) :
    Gives ((Value.object node).isUnwritable = true) (Hint.ofDocument (.object node))
      Hint.WellFormed := by
  obtain ⟨kind, htype⟩ := hnode.type
  have hneed : Reading.need node "type" = pure (.text kind.name) := by
    rw [Reading.need, Fields.lookup_of_get htype (by simp)]
  have hstrays : Reading.strays node ["command", "pattern"] = [] :=
    Reading.strays_eq_nil (by simpa using ⟨hnode.command.imp fun _ h => h.isText, hnode.pattern⟩)
  simp only [Hint.ofDocument, hneed, hstrays, pure_bind, HintKind.ofName?_name]
  refine (Reading.gives_texts (hnode.values.imp fun _ h => h.isList)).bind fun values hvalues => ?_
  refine (Reading.gives_texts (hnode.extensions.imp fun _ h => h.isList)).bind fun extensions _ => ?_
  refine .ok rfl ⟨fun hstatic => ?_, fun hcommand => ?_, rfl⟩
  · obtain rfl : kind = .static := hstatic
    have htruthy := hnode.hasValues htype
    obtain ⟨items, hlist, _⟩ := hnode.values.of_isTruthy htruthy
    rw [hlist] at htruthy
    simpa [hvalues, hlist, Condition.members, Value.isTruthy] using htruthy
  · have htruthy : (node.get "command").isTruthy = true := by
      rcases hcommand with rfl | rfl
      · exact hnode.hasCommand (Or.inl htype)
      · exact hnode.hasCommand (Or.inr htype)
    obtain ⟨s, htext, hs⟩ := hnode.command.of_isTruthy htruthy
    rw [htext] at htruthy
    simp only [Reading.text, htext, htruthy, if_true]
    exact hs

theorem gives_completion {node : Fields}
    (hnode : node.May "completion" fun value => ∃ fields, value = .object fields ∧ IsHint fields) :
    Gives ((Value.object node).isUnwritable = true) (Hint.ofField node)
      fun completion => ∀ hint ∈ completion, hint.WellFormed := by
  rw [Hint.ofField]
  split
  next htruthy =>
    obtain ⟨fields, hobject, hhint⟩ := hnode.of_isTruthy htruthy
    have hgives := (gives_hint hhint).mono fun h => Fields.isUnwritable_of_get (hobject ▸ h)
    rw [hobject, map_eq_pure_bind]
    exact hgives.bind fun hint hwell => .ok rfl (by simpa using hwell)
  next => exact .ok rfl (by simp)

theorem gives_option {node : Fields} (hnode : IsOption node) :
    Gives ((Value.object node).isUnwritable = true) (Opt.ofDocument (.object node))
      fun o => o.WellFormed ∧ (Value.object node).IsNamed o.name := by
  obtain ⟨name, hget, hvoid, hname⟩ := Reading.name_of_isFilled "Option" hnode.name
  have hstrays : Reading.strays node ["type", "description"] = [] :=
    Reading.strays_eq_nil (by simpa using ⟨hnode.type, hnode.description⟩)
  simp only [Opt.ofDocument, Reading.node, pure_bind, Reading.need_of_isFilled hnode.name, hname,
    hstrays]
  refine (Reading.gives_texts (hnode.short.imp fun _ h => h.isList)).bind fun short _ => ?_
  refine (Reading.gives_texts (hnode.choices.imp fun _ h => h.isList)).bind fun choices _ => ?_
  refine (gives_completion hnode.completion).bind fun completion hcompletion => ?_
  exact .ok rfl ⟨⟨hvoid, hcompletion, rfl⟩, hget⟩

theorem gives_argument {node : Fields} (hnode : IsArgument node) :
    Gives ((Value.object node).isUnwritable = true) (Argument.ofDocument (.object node))
      fun a => a.WellFormed ∧ (Value.object node).IsNamed a.name := by
  obtain ⟨name, hget, hvoid, hname⟩ := Reading.name_of_isFilled "Argument" hnode.name
  have hstrays : Reading.strays node ["description"] = [] :=
    Reading.strays_eq_nil (by simpa using hnode.description)
  simp only [Argument.ofDocument, Reading.node, pure_bind, Reading.need_of_isFilled hnode.name,
    hname, hstrays]
  refine (gives_completion hnode.completion).bind fun completion hcompletion => ?_
  exact .ok rfl ⟨⟨hvoid, hcompletion, rfl⟩, hget⟩

/-- The nodes in a field are read one after the other, and each gives its part. -/
theorem gives_nodes {α : Type} {f : Value → Reading α} {R : Value → α → Prop} {node : Fields}
    {key : String} (hnodes : node.HoldsNodes key) (hf : ∀ sub ∈ node.nodes key,
      Gives ((Value.object sub).isUnwritable = true) (f (.object sub)) (R (.object sub))) :
    Gives ((Value.object node).isUnwritable = true) (((node.nodes key).map .object).mapM f)
      (List.Forall₂ R (node.items key)) := by
  rw [hnodes.items_eq]
  refine Gives.mapM fun item hitem => ?_
  obtain ⟨sub, hsub, rfl⟩ := List.mem_map.1 hitem
  exact (hf sub hsub).mono (Fields.isUnwritable_of_mem_nodes hsub)

theorem gives_options {node : Fields} {key : String} (hnodes : node.HoldsNodes key)
    (heach : ∀ sub ∈ node.nodes key, IsOption sub) :
    Gives ((Value.object node).isUnwritable = true)
      (((node.nodes key).map .object).mapM Opt.ofDocument)
      (List.Forall₂ (fun item o => o.WellFormed ∧ item.IsNamed o.name) (node.items key)) :=
  gives_nodes hnodes fun sub hsub => gives_option (heach sub hsub)

theorem gives_arguments {node : Fields} {key : String} (hnodes : node.HoldsNodes key)
    (heach : ∀ sub ∈ node.nodes key, IsArgument sub) :
    Gives ((Value.object node).isUnwritable = true)
      (((node.nodes key).map .object).mapM Argument.ofDocument)
      (List.Forall₂ (fun item a => a.WellFormed ∧ item.IsNamed a.name) (node.items key)) :=
  gives_nodes hnodes fun sub hsub => gives_argument (heach sub hsub)

theorem forall₂_right {α β : Type} {R : α → β → Prop} {P : β → Prop} {xs : List α} {ys : List β}
    (hall : List.Forall₂ (fun x y => P y ∧ R x y) xs ys) : (∀ y ∈ ys, P y) ∧ List.Forall₂ R xs ys := by
  induction hall with
  | nil => exact ⟨by simp, .nil⟩
  | cons hhead _ ih =>
    rw [List.forall_mem_cons]
    exact ⟨⟨hhead.1, ih.1⟩, .cons hhead.2 ih.2⟩

/-- A command put together from what the fields of a node give. -/
theorem IsCommand.wellFormed {node : Fields} (hnode : IsCommand node) {c : Command}
    (hname : (Value.object node).IsNamed c.name) (hvoid : Text.isVoid c.name = false)
    (hwhole : c.strays = [])
    (hoptions : List.Forall₂ (fun item o => o.WellFormed ∧ item.IsNamed o.name)
      (node.items "options") c.options)
    (harguments : List.Forall₂ (fun item a => a.WellFormed ∧ item.IsNamed a.name)
      (node.items "arguments") c.arguments)
    (hsubcommands : List.Forall₂ (fun item c => c.WellFormed ∧ c.Mirrors item)
      (node.items "subcommands") c.subcommands) : c.WellFormed ∧ c.Mirrors (.object node) := by
  cases hnode with
  | intro _ _ _ hos _ hoptionNames _ _ hcs _ hsubcommandNames =>
    obtain ⟨hallOptions, hnamedOptions⟩ := forall₂_right hoptions
    obtain ⟨hallArguments, hnamedArguments⟩ := forall₂_right harguments
    obtain ⟨hallSubs, hmirrors⟩ := forall₂_right hsubcommands
    have hnamedSubs := hmirrors.imp fun _ _ h => h.isNamed
    exact ⟨.intro hvoid hallOptions (hoptionNames.nodup hos hnamedOptions) hallArguments hallSubs
      (hsubcommandNames.nodup hcs hnamedSubs) hwhole,
      .intro hname hnamedOptions hnamedArguments hmirrors⟩

/-- Reading a command without problems gives a well-formed one with the names of the document. -/
theorem gives_command {node : Fields} (hnode : IsCommand node) :
    Gives ((Value.object node).isUnwritable = true) (Command.ofDocument (.object node))
      fun c => c.WellFormed ∧ c.Mirrors (.object node) := by
  induction hnode with
  | @intro node hname hdescription hhidden hoptions heachOption hoptionNames harguments heachArgument
      hsubcommands heachSub hsubcommandNames ih =>
    have hnode : IsCommand node := .intro hname hdescription hhidden hoptions heachOption hoptionNames
      harguments heachArgument hsubcommands heachSub hsubcommandNames
    obtain ⟨name, hget, hvoid, hreadName⟩ := Reading.name_of_isFilled "Command" hname
    have hstrays : Reading.strays node ["description"] = [] :=
      Reading.strays_eq_nil (by simpa using hdescription)
    simp only [Command.ofDocument_object, Reading.need_of_isFilled hname,
      Reading.elements_eq hoptions, Reading.elements_eq harguments, Reading.elements_eq hsubcommands,
      pure_bind, hreadName, hstrays]
    refine (gives_options hoptions heachOption).bind fun options hos => ?_
    refine (gives_arguments harguments heachArgument).bind fun arguments has => ?_
    have hread := gives_nodes (R := fun item c => Command.WellFormed c ∧ c.Mirrors item)
      hsubcommands ih
    exact hread.bind fun subcommands hsubs => .ok rfl (hnode.wellFormed hget hvoid rfl hos has hsubs)

theorem gives_commands {node : Fields} {key : String} (hnodes : node.HoldsNodes key)
    (heach : ∀ sub ∈ node.nodes key, IsCommand sub) :
    Gives ((Value.object node).isUnwritable = true)
      (((node.nodes key).map .object).mapM Command.ofDocument)
      (List.Forall₂ (fun item c => c.WellFormed ∧ c.Mirrors item) (node.items key)) :=
  gives_nodes hnodes fun sub hsub => gives_command (heach sub hsub)

/-! ## The nodes that parts were read of -/

/-- The nodes in a field are read one by one, and give these parts. -/
def Fields.ReadAs {α : Type} (node : Fields) (key : String) (f : Value → Reading α) (parts : List α) :
    Prop :=
  List.Forall₂ (fun sub part => f (.object sub) = .ok part) (node.nodes key) parts

theorem Fields.readAs_iff {α : Type} {node : Fields} {key : String} {f : Value → Reading α}
    {parts : List α} :
    node.ReadAs key f parts ↔ ((node.nodes key).map .object).mapM f = .ok parts := by
  rw [mapM_eq_ok_iff, List.forall₂_map_left_iff, Fields.ReadAs]

theorem IsCommand.readAs {node : Fields} {c : Command} (hnode : IsCommand node)
    (hread : Command.ofDocument (.object node) = .ok c) :
    node.ReadAs "options" Opt.ofDocument c.options ∧
      node.ReadAs "arguments" Argument.ofDocument c.arguments ∧
      node.ReadAs "subcommands" Command.ofDocument c.subcommands := by
  cases hnode with
  | intro _ _ _ hoptions _ _ harguments _ hsubcommands _ _ =>
    simp only [Command.ofDocument_object, Reading.elements_eq hoptions,
      Reading.elements_eq harguments, Reading.elements_eq hsubcommands, pure_bind] at hread
    obtain ⟨_, _, hread⟩ := bind_eq_ok_iff.1 hread
    obtain ⟨options, hoptions, hread⟩ := bind_eq_ok_iff.1 hread
    obtain ⟨arguments, harguments, hread⟩ := bind_eq_ok_iff.1 hread
    obtain ⟨subcommands, hsubcommands, hread⟩ := bind_eq_ok_iff.1 hread
    obtain ⟨_, _, hread⟩ := bind_eq_ok_iff.1 hread
    obtain rfl := Except.ok.inj hread
    exact ⟨Fields.readAs_iff.2 hoptions, Fields.readAs_iff.2 harguments,
      Fields.readAs_iff.2 hsubcommands⟩

theorem IsProgram.readAs {node : Fields} {p : Program} (hnode : IsProgram node)
    (hread : Program.ofDocument (.object node) = .ok p) :
    node.ReadAs "commands" Command.ofDocument p.commands ∧
      node.ReadAs "globalOptions" Opt.ofDocument p.globalOptions := by
  simp only [Program.ofDocument_object, Reading.elements_eq hnode.commands,
    Reading.elements_eq hnode.options, pure_bind] at hread
  obtain ⟨_, _, hread⟩ := bind_eq_ok_iff.1 hread
  obtain ⟨_, _, hread⟩ := bind_eq_ok_iff.1 hread
  obtain ⟨commands, hcommands, hread⟩ := bind_eq_ok_iff.1 hread
  obtain ⟨options, hoptions, hread⟩ := bind_eq_ok_iff.1 hread
  obtain ⟨_, _, hread⟩ := bind_eq_ok_iff.1 hread
  obtain rfl := Except.ok.inj hread
  exact ⟨Fields.readAs_iff.2 hcommands, Fields.readAs_iff.2 hoptions⟩

theorem Argument.required_of_ofDocument {node : Fields} {a : Argument}
    (hread : Argument.ofDocument (.object node) = .ok a) :
    a.required = Reading.flag node "required" true := by
  simp only [Argument.ofDocument, Reading.node, pure_bind] at hread
  obtain ⟨_, _, hread⟩ := bind_eq_ok_iff.1 hread
  obtain ⟨_, _, hread⟩ := bind_eq_ok_iff.1 hread
  obtain ⟨_, _, hread⟩ := bind_eq_ok_iff.1 hread
  obtain rfl := Except.ok.inj hread
  rfl

theorem Opt.short_of_ofDocument {node : Fields} {o : Opt}
    (hread : Opt.ofDocument (.object node) = .ok o) :
    ∃ aliases, Reading.texts node "short" = .ok aliases ∧ o.short = aliases.map (withoutLead '-') := by
  simp only [Opt.ofDocument, Reading.node, pure_bind] at hread
  obtain ⟨_, _, hread⟩ := bind_eq_ok_iff.1 hread
  obtain ⟨aliases, haliases, hread⟩ := bind_eq_ok_iff.1 hread
  obtain ⟨_, _, hread⟩ := bind_eq_ok_iff.1 hread
  obtain ⟨_, _, hread⟩ := bind_eq_ok_iff.1 hread
  obtain ⟨_, _, hread⟩ := bind_eq_ok_iff.1 hread
  obtain rfl := Except.ok.inj hread
  exact ⟨aliases, haliases, rfl⟩

end Tabsmith
