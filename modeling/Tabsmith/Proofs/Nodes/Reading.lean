import Tabsmith.Proofs.Acceptance.Program
import Tabsmith.Proofs.Nodes.Agreement
import Tabsmith.Proofs.Reading.Parts
import Tabsmith.Proofs.Sites

/-!
Reading nodes that agree. Of two nodes without problems that agree the same parts are read, and one thing
is left open: whether an argument is required. There an absent field and one that holds `null` are not the
same, and so this is a parameter of what follows.
-/

namespace Tabsmith

/-! ## Readings that end alike -/

/-- Two readings end alike: with results that are related, or with one fault. -/
inductive Reading.Related {α β : Type} (R : α → β → Prop) : Reading α → Reading β → Prop
  | ok {a : α} {b : β} (hresults : R a b) : Related R (.ok a) (.ok b)
  | error (fault : Fault) : Related R (.error fault) (.error fault)

namespace Reading

section

variable {α β γ δ : Type} {R : α → β → Prop} {S : γ → δ → Prop}

theorem Related.refl (reading : Reading α) : Related Eq reading reading := by
  cases reading with
  | ok a => exact .ok rfl
  | error fault => exact .error fault

theorem Related.eq {first second : Reading α} (hrelated : Related Eq first second) :
    first = second := by
  cases hrelated with
  | ok hresults => rw [hresults]
  | error => rfl

theorem Related.imp {R' : α → β → Prop} {first : Reading α} {second : Reading β}
    (hrelated : Related R first second) (himp : ∀ a b, R a b → R' a b) : Related R' first second := by
  cases hrelated with
  | ok hresults => exact .ok (himp _ _ hresults)
  | error fault => exact .error fault

theorem Related.bind {first : Reading α} {second : Reading β} {f : α → Reading γ} {g : β → Reading δ}
    (hrelated : Related R first second) (hnext : ∀ a b, R a b → Related S (f a) (g b)) :
    Related S (first >>= f) (second >>= g) := by
  cases hrelated with
  | ok hresults => exact hnext _ _ hresults
  | error fault => exact .error fault

/-- Two readings that start alike and go on differently. -/
theorem Related.bind_right {reading : Reading α} {f : α → Reading γ} {g : α → Reading δ}
    (hnext : ∀ a, Related S (f a) (g a)) : Related S (reading >>= f) (reading >>= g) := by
  refine (Related.refl reading).bind ?_
  rintro a _ rfl
  exact hnext a

/-- Two steps that end alike when they are taken together. -/
theorem Related.bind_bind {α' β' : Type} {first : Reading α'} {second : Reading β'}
    {f : α' → Reading α} {g : β' → Reading β} {k : α → Reading γ} {l : β → Reading δ}
    (hrelated : Related R (first >>= f) (second >>= g)) (hnext : ∀ a b, R a b → Related S (k a) (l b)) :
    Related S (first >>= fun x => f x >>= k) (second >>= fun y => g y >>= l) := by
  rw [← bind_assoc, ← bind_assoc]
  exact hrelated.bind hnext

theorem Related.mapM {f : γ → Reading α} {g : δ → Reading β} {xs : List γ} {ys : List δ}
    (hreadings : List.Forall₂ (fun x y => Related R (f x) (g y)) xs ys) :
    Related (List.Forall₂ R) (xs.mapM f) (ys.mapM g) := by
  induction hreadings with
  | nil => exact .ok .nil
  | cons hhead _ ih =>
    rw [List.mapM_cons, List.mapM_cons]
    exact hhead.bind fun a b hab => ih.bind fun as bs habs => .ok (.cons hab habs)

end

/-! ## Fields that are read alike -/

section

variable {a b : Fields} {key : String}

theorem need_congr (hget : a.get key = b.get key) (hthere : a.get key ≠ .null) :
    need a key = need b key := by
  rw [need, need, Fields.lookup_of_get rfl hthere, Fields.lookup_of_get rfl (hget ▸ hthere), hget]

theorem text_congr (hget : a.get key = b.get key) (default : String) :
    text a key default = text b key default := by
  rw [text, text, hget]

theorem texts_congr (hget : a.get key = b.get key) : texts a key = texts b key := by
  rw [texts, texts, hget]

theorem strays_congr {keys : List String} (hget : ∀ key ∈ keys, a.get key = b.get key) :
    strays a keys = strays b keys := by
  refine List.filterMap_congr fun key hkey => ?_
  rw [stray?, stray?, hget key hkey]

theorem flag_false (node : Fields) (key : String) : flag node key false = (node.get key).isTruthy := by
  rw [flag, Fields.get]
  cases List.lookup key node <;> rfl

theorem flag_congr (hget : a.get key = b.get key) : flag a key false = flag b key false := by
  rw [flag_false, flag_false, hget]

theorem elements_list (items : List Value) : elements (.list items) = pure items := by
  cases items <;> rfl

/-- Reading the elements of fields that agree, where each two nodes in them are read alike. -/
theorem related_elements {α : Type} {R : Fields → Fields → Prop} {S : α → α → Prop}
    {f : Value → Reading α} (hnodes : a.HoldsNodes key) (hagrees : ListAgrees R (a.get key) (b.get key))
    (hread : ∀ sub ∈ a.nodes key, ∀ other, R sub other →
      Related S (f (.object sub)) (f (.object other))) :
    Related (List.Forall₂ S) (do (← elements (a.get key)).mapM f)
      (do (← elements (b.get key)).mapM f) := by
  generalize hw : b.get key = w at hagrees
  rcases hnodes with hnull | hlist
  · rw [hnull] at hagrees ⊢
    cases hagrees
    exact .ok .nil
  · rw [hlist] at hagrees ⊢
    cases hagrees with
    | same hvalue => exact absurd rfl (hvalue _)
    | @list _ others hitems =>
      rw [elements_list, elements_list, pure_bind, pure_bind]
      rw [List.forall₂_map_left_iff] at hitems
      refine Related.mapM ?_
      rw [List.forall₂_map_left_iff]
      refine ((List.forall₂_and_left _ _).2 ⟨fun sub hsub => hsub, hitems⟩).imp ?_
      rintro sub _ ⟨hsub, hagrees⟩
      cases hagrees with
      | same hvalue => exact absurd rfl (hvalue _)
      | @node _ other hbelow => exact hread sub hsub other hbelow

end

end Reading

/-! ## Parts that are the same but for their arguments -/

/-- Two commands are the same, up to arguments that are related, at every depth. -/
inductive Command.SameBut (A : Argument → Argument → Prop) : Command → Command → Prop
  | intro {c d : Command} (name : c.name = d.name) (description : c.description = d.description)
      (hidden : c.hidden = d.hidden) (options : c.options = d.options)
      (arguments : List.Forall₂ A c.arguments d.arguments)
      (subcommands : List.Forall₂ (SameBut A) c.subcommands d.subcommands)
      (strays : c.strays = d.strays) : SameBut A c d

/-- Two programs are the same, up to arguments that are related. -/
structure Program.SameBut (A : Argument → Argument → Prop) (p q : Program) : Prop where
  name : p.name = q.name
  description : p.description = q.description
  version : p.version = q.version
  commands : List.Forall₂ (Command.SameBut A) p.commands q.commands
  globalOptions : p.globalOptions = q.globalOptions
  strays : p.strays = q.strays

/-- Arguments that are related only if they are the same leave nothing open. -/
theorem Command.SameBut.eq {cs ds : List Command}
    (hsame : List.Forall₂ (Command.SameBut Eq) cs ds) : cs = ds := by
  rw [← List.forall₂_eq_eq_eq]
  induction cs using forestInduction generalizing ds with
  | step cs ih =>
    refine ((List.forall₂_and_left _ _).2 ⟨fun _ hc => hc, hsame⟩).imp ?_
    rintro c d ⟨hc, hcd⟩
    cases hcd with
    | intro hname hdescription hhidden hoptions harguments hsubcommands hstrays =>
      have hbelow := ih c hc hsubcommands
      rw [List.forall₂_eq_eq_eq] at harguments hbelow
      cases c
      cases d
      simp_all

theorem Program.SameBut.eq {p q : Program} (hsame : Program.SameBut Eq p q) : p = q := by
  obtain ⟨hname, hdescription, hversion, hcommands, hoptions, hstrays⟩ := hsame
  have hcommands := Command.SameBut.eq hcommands
  cases p
  cases q
  simp_all

namespace IsAgreement

variable {N : NodeKind → Fields → Fields → Prop} {a b : Fields}

theorem need_eq (hN : IsAgreement N) {kind : NodeKind} (hnodes : N kind a b) {key : String}
    (hkey : key ∈ kind.plainKeys) (hthere : (a.get key).IsText) :
    Reading.need a key = Reading.need b key := by
  obtain ⟨s, htext⟩ := hthere
  exact Reading.need_congr (hN.plain hnodes hkey) (by simp [htext])

theorem strays_eq (hN : IsAgreement N) {kind : NodeKind} (hnodes : N kind a b) {keys : List String}
    (hkeys : ∀ key ∈ keys, key ∈ kind.plainKeys) : Reading.strays a keys = Reading.strays b keys :=
  Reading.strays_congr fun key hkey => hN.plain hnodes (hkeys key hkey)

theorem hint_eq (hN : IsAgreement N) (hnodes : N .hint a b) (ha : IsHint a) :
    Hint.ofDocument (.object a) = Hint.ofDocument (.object b) := by
  have hget := fun key (hkey : key ∈ NodeKind.plainKeys .hint) => hN.plain hnodes hkey
  obtain ⟨kind, htype⟩ := ha.type
  have hneed := hN.need_eq hnodes (by decide) ⟨kind.name, htype⟩
  have hstrays := hN.strays_eq hnodes (by decide : ∀ key ∈ ["command", "pattern"], _)
  simp only [Hint.ofDocument, hneed, hstrays, Reading.texts_congr (hget "values" (by decide)),
    Reading.texts_congr (hget "extensions" (by decide)),
    Reading.text_congr (hget "command" (by decide)), Reading.text_congr (hget "pattern" (by decide))]

theorem completion_eq (hN : IsAgreement N)
    (hnodes : NodeAgrees (N .hint) (a.get "completion") (b.get "completion"))
    (ha : a.May "completion" fun value => ∃ fields, value = .object fields ∧ IsHint fields) :
    Hint.ofField a = Hint.ofField b := by
  rw [Hint.ofField, Hint.ofField]
  generalize hw : b.get "completion" = w at hnodes
  rcases ha with hnull | ⟨fields, hobject, hhint⟩
  · rw [hnull] at hnodes ⊢
    cases hnodes
    rfl
  · rw [hobject] at hnodes ⊢
    cases hnodes with
    | same hvalue => exact absurd rfl (hvalue _)
    | @node _ other hbelow =>
      -- Both hints have a type, so neither of the two objects is empty.
      obtain ⟨kind, htype⟩ := hhint.type
      have hother : Fields.get other "type" = .text kind.name :=
        hN.plain hbelow (by decide : "type" ∈ NodeKind.plainKeys .hint) ▸ htype
      have htruthy : ∀ node : Fields, node.get "type" = .text kind.name →
          (Value.object node).isTruthy = true := by
        intro node hget
        cases node with
        | nil => cases hget
        | cons => rfl
      rw [htruthy fields htype, htruthy other hother, hN.hint_eq hbelow hhint]

theorem option_eq (hN : IsAgreement N) (hnodes : N .option a b) (ha : IsOption a) :
    Opt.ofDocument (.object a) = Opt.ofDocument (.object b) := by
  have hget := fun key (hkey : key ∈ NodeKind.plainKeys .option) => hN.plain hnodes hkey
  have hneed := hN.need_eq hnodes (by decide) ha.name.isText
  have hstrays := hN.strays_eq hnodes (by decide : ∀ key ∈ ["type", "description"], _)
  have hcompletion := hN.completion_eq (hN.node hnodes (by decide)) ha.completion
  simp only [Opt.ofDocument, Reading.node, pure_bind, hneed, hstrays, hcompletion,
    hget "default" (by decide), Reading.texts_congr (hget "short" (by decide)),
    Reading.texts_congr (hget "enum" (by decide)), Reading.text_congr (hget "type" (by decide)),
    Reading.text_congr (hget "description" (by decide)),
    Reading.flag_congr (hget "required" (by decide)),
    Reading.flag_congr (hget "repeatable" (by decide)),
    Reading.flag_congr (hget "hidden" (by decide))]

/-- Of arguments that agree the same is read, but each is required as its own node says. -/
theorem related_argument (hN : IsAgreement N) (hnodes : N .argument a b) (ha : IsArgument a) :
    Reading.Related
      (fun x y => x.required = Reading.flag a "required" true ∧
        y = { x with required := Reading.flag b "required" true })
      (Argument.ofDocument (.object a)) (Argument.ofDocument (.object b)) := by
  have hget := fun key (hkey : key ∈ NodeKind.plainKeys .argument) => hN.plain hnodes hkey
  have hneed := hN.need_eq hnodes (by decide) ha.name.isText
  have hstrays := hN.strays_eq hnodes (by decide : ∀ key ∈ ["description"], _)
  have hcompletion := hN.completion_eq (hN.node hnodes (by decide)) ha.completion
  simp only [Argument.ofDocument, Reading.node, pure_bind, hneed, hstrays, hcompletion,
    Reading.text_congr (hget "description" (by decide)),
    Reading.flag_congr (hget "variadic" (by decide))]
  refine Reading.Related.bind_right fun _ => Reading.Related.bind_right fun _ =>
    Reading.Related.bind_right fun _ => ?_
  exact .ok ⟨rfl, rfl⟩

theorem related_options (hN : IsAgreement N) {kind : NodeKind} {key : String} (hnodes : N kind a b)
    (hfield : (key, .option) ∈ kind.listFields) (hoptions : a.HoldsNodes key)
    (heach : ∀ sub ∈ a.nodes key, IsOption sub) :
    Reading.Related Eq (do (← Reading.elements (a.get key)).mapM Opt.ofDocument)
      (do (← Reading.elements (b.get key)).mapM Opt.ofDocument) := by
  rw [← List.forall₂_eq_eq_eq]
  refine Reading.related_elements hoptions (hN.list hnodes hfield) fun sub hsub other hbelow => ?_
  rw [hN.option_eq hbelow (heach sub hsub)]
  exact Reading.Related.refl _

variable {A : Argument → Argument → Prop}

/-- Of commands that agree the same is read, up to arguments, for any relation in which the arguments
are that are read of agreeing nodes. -/
theorem related_command (hN : IsAgreement N) (hA : ∀ {a b}, N .argument a b → IsArgument a →
      Reading.Related A (Argument.ofDocument (.object a)) (Argument.ofDocument (.object b)))
    (hnodes : N .command a b) (ha : IsCommand a) :
    Reading.Related (Command.SameBut A) (Command.ofDocument (.object a))
      (Command.ofDocument (.object b)) := by
  induction ha generalizing b with
  | @intro a hname hdescription hhidden hoptions heachOption _ harguments heachArgument hsubcommands
      heachSub _ ih =>
    have hget := fun key (hkey : key ∈ NodeKind.plainKeys .command) => hN.plain hnodes hkey
    have hneed := hN.need_eq hnodes (by decide) hname.isText
    have hstrays := hN.strays_eq hnodes (by decide : ∀ key ∈ ["description"], _)
    simp only [Command.ofDocument_object, hneed, hstrays,
      Reading.text_congr (hget "description" (by decide)),
      Reading.flag_congr (hget "hidden" (by decide))]
    refine Reading.Related.bind_right fun _ => ?_
    refine (hN.related_options hnodes (by decide) hoptions heachOption).bind_bind ?_
    rintro options _ rfl
    have hreadArguments := Reading.related_elements harguments (hN.list hnodes (by decide))
      fun sub hsub other hbelow => hA hbelow (heachArgument sub hsub)
    refine hreadArguments.bind_bind fun arguments others hothers => ?_
    have hreadSubs := Reading.related_elements hsubcommands (hN.list hnodes (by decide))
      fun sub hsub other hbelow => ih sub hsub hbelow
    refine hreadSubs.bind_bind fun subcommands others' hsubs => ?_
    refine Reading.Related.bind_right fun name => ?_
    exact .ok (.intro rfl rfl rfl rfl hothers hsubs rfl)

/-- Of programs that agree the same is read, up to arguments. -/
theorem related_program (hN : IsAgreement N) (hA : ∀ {a b}, N .argument a b → IsArgument a →
      Reading.Related A (Argument.ofDocument (.object a)) (Argument.ofDocument (.object b)))
    (hnodes : N .program a b) (ha : IsProgram a) :
    Reading.Related (Program.SameBut A) (Program.ofDocument (.object a))
      (Program.ofDocument (.object b)) := by
  have hget := fun key (hkey : key ∈ NodeKind.plainKeys .program) => hN.plain hnodes hkey
  have hneed := hN.need_eq hnodes (by decide) ha.name.isText
  have hstrays := hN.strays_eq hnodes (by decide : ∀ key ∈ ["description"], _)
  simp only [Program.ofDocument_object, hneed, hstrays, hget "version" (by decide),
    Reading.text_congr (hget "description" (by decide))]
  refine Reading.Related.bind_right fun _ => Reading.Related.bind_right fun version => ?_
  have hreadCommands := Reading.related_elements ha.commands (hN.list hnodes (by decide))
    fun sub hsub other hbelow => hN.related_command hA hbelow (ha.eachCommand sub hsub)
  refine hreadCommands.bind_bind fun commands others hcommands => ?_
  refine (hN.related_options hnodes (by decide) ha.options ha.eachOption).bind_bind ?_
  rintro options _ rfl
  refine Reading.Related.bind_right fun name => ?_
  exact .ok ⟨rfl, rfl, rfl, hcommands, rfl, rfl⟩

/-- Of programs that agree the same is read, if they say of the same arguments that they are
required. -/
theorem program_eq (hN : IsAgreement N) (hrequired : ∀ {a b}, N .argument a b →
      Reading.flag a "required" true = Reading.flag b "required" true)
    (hnodes : N .program a b) (ha : IsProgram a) :
    Program.ofDocument (.object a) = Program.ofDocument (.object b) := by
  have harguments : ∀ {a b}, N .argument a b → IsArgument a →
      Reading.Related Eq (Argument.ofDocument (.object a)) (Argument.ofDocument (.object b)) := by
    intro a b hbelow hargument
    refine (hN.related_argument hbelow hargument).imp ?_
    rintro x y ⟨hx, rfl⟩
    rw [← hrequired hbelow, ← hx]
  exact ((hN.related_program harguments hnodes ha).imp fun _ _ hsame => hsame.eq).eq

end IsAgreement

end Tabsmith
