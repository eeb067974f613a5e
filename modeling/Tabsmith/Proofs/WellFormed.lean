import Mathlib.Data.List.Forall2
import Tabsmith.Proofs.Acceptance.Nodes
import Tabsmith.Program

/-!
Well-formed programs, and programs that have the names of a document.
-/

namespace Tabsmith

/-- A hint has the candidates of its kind, or the command that prints them. -/
structure Hint.WellFormed (h : Hint) : Prop where
  values : h.kind = .static → h.values ≠ []
  command : h.kind = .command ∨ h.kind = .dynamic → Text.isVoid h.command = false
  whole : h.strays = []

/-- An option has a name. -/
structure Opt.WellFormed (o : Opt) : Prop where
  name : Text.isVoid o.name = false
  completion : ∀ hint ∈ o.completion, hint.WellFormed
  whole : o.strays = []

/-- An argument has a name. -/
structure Argument.WellFormed (a : Argument) : Prop where
  name : Text.isVoid a.name = false
  completion : ∀ hint ∈ a.completion, hint.WellFormed
  whole : a.strays = []

/-- A command has a name, and the names of its options and those of its subcommands differ; the same
holds of all commands below it. -/
inductive Command.WellFormed : Command → Prop
  | intro {c : Command} (name : Text.isVoid c.name = false)
      (options : ∀ o ∈ c.options, o.WellFormed)
      (optionNames : (c.options.map (·.name)).Nodup)
      (arguments : ∀ a ∈ c.arguments, a.WellFormed)
      (subcommands : ∀ sub ∈ c.subcommands, Command.WellFormed sub)
      (subcommandNames : (c.subcommands.map (·.name)).Nodup)
      (whole : c.strays = []) : Command.WellFormed c

/-- A program has a name, its parts are well formed, and the names of its commands and those of its
options differ. -/
structure Program.WellFormed (p : Program) : Prop where
  name : Text.isVoid p.name = false
  commands : ∀ c ∈ p.commands, c.WellFormed
  commandNames : (p.commands.map (·.name)).Nodup
  options : ∀ o ∈ p.globalOptions, o.WellFormed
  optionNames : (p.globalOptions.map (·.name)).Nodup
  whole : p.strays = []

/-! ## The names of a document -/

/-- The elements of the list in a field. -/
def Fields.items (node : Fields) (key : String) : List Value :=
  match node.get key with
  | .list items => items
  | _ => []

theorem Fields.HoldsNodes.items_eq {node : Fields} {key : String} (hnodes : node.HoldsNodes key) :
    node.items key = (node.nodes key).map .object := by
  rcases hnodes with hnull | hlist
  · rw [Fields.items, Fields.nodes, hnull]
    rfl
  · rw [Fields.items, hlist]

/-- A node has a name. -/
def Value.IsNamed : Value → String → Prop
  | .object node, name => Fields.get node "name" = .text name
  | _, _ => False

/-- A command has the name of a node, and its options, arguments and subcommands have the names of
the elements in its fields, in their order and at every depth. -/
inductive Command.Mirrors : Value → Command → Prop
  | intro {node : Fields} {c : Command} (name : (Value.object node).IsNamed c.name)
      (options : List.Forall₂ (fun item o => item.IsNamed o.name) (node.items "options") c.options)
      (arguments :
        List.Forall₂ (fun item a => item.IsNamed a.name) (node.items "arguments") c.arguments)
      (subcommands : List.Forall₂ Command.Mirrors (node.items "subcommands") c.subcommands) :
      Command.Mirrors (.object node) c

/-- A program has the name of a node, and its commands and options have the names of the elements in
its fields, in their order and at every depth. -/
structure Program.Mirrors (node : Fields) (p : Program) : Prop where
  name : (Value.object node).IsNamed p.name
  commands : List.Forall₂ Command.Mirrors (node.items "commands") p.commands
  options :
    List.Forall₂ (fun item o => item.IsNamed o.name) (node.items "globalOptions") p.globalOptions

theorem Command.Mirrors.isNamed {value : Value} {c : Command} (hmirrors : c.Mirrors value) :
    value.IsNamed c.name := by
  cases hmirrors with
  | intro name => exact name

theorem filterMap_nodeName? {α : Type} {name : α → String} {nodes : List Fields} {parts : List α}
    (hnamed : List.Forall₂ (fun item a => Value.IsNamed item (name a)) (nodes.map .object) parts) :
    nodes.filterMap nodeName? = parts.map name := by
  rw [List.forall₂_map_left_iff] at hnamed
  induction hnamed with
  | nil => rfl
  | @cons node a _ _ hname _ ih =>
    have hget : node.get "name" = .text (name a) := hname
    rw [List.filterMap_cons, nodeName?, hget, ih, List.map_cons]

/-- Parts with the names of nodes whose names differ have names that differ. -/
theorem Fields.NamesDiffer.nodup {α : Type} {name : α → String} {node : Fields} {key : String}
    {parts : List α} (hdiffer : node.NamesDiffer key) (hnodes : node.HoldsNodes key)
    (hnamed : List.Forall₂ (fun item a => item.IsNamed (name a)) (node.items key) parts) :
    (parts.map name).Nodup := by
  rw [hnodes.items_eq] at hnamed
  rw [← filterMap_nodeName? hnamed]
  exact hdiffer

end Tabsmith
