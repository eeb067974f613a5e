import Tabsmith.Bash.Completion
import Tabsmith.Fish.Completion
import Tabsmith.Proofs.Acceptance.Small
import Tabsmith.Proofs.Quoting
import Tabsmith.Proofs.Reading.Parts

/-!
The candidates for the value of an option. Bash and fish get them as one text, which they cut into words: the
values that an option declares are offered exactly if each of them is one word.
-/

namespace Tabsmith

/-- The values that are declared for an option: its choices, or those of its hint if it has no choices. -/
inductive Opt.Declares (o : Opt) : List String → Prop
  | choices (hchoices : o.choices ≠ []) : o.Declares o.choices
  | hint (hchoices : o.choices = []) {hint : Hint} (hcompletion : o.completion = some hint)
      (hkind : hint.kind = .static) : o.Declares hint.values

/-- The words between the characters of a class. -/
def wordsBetween (cuts : Char → Bool) (s : List Char) : List (List Char) :=
  (Text.pieces cuts s).filter fun piece => !piece.isEmpty

/-- Each value is one word. -/
def AreWords (cuts : Char → Bool) (values : List String) : Prop :=
  ∀ value ∈ values, value ≠ "" ∧ ∀ c ∈ value.toList, cuts c = false

instance (cuts : Char → Bool) (values : List String) : Decidable (AreWords cuts values) :=
  have (value : String) : Decidable (∀ c ∈ value.toList, cuts c = false) := List.decidableBAll _ _
  List.decidableBAll (fun value => value ≠ "" ∧ ∀ c ∈ value.toList, cuts c = false) values

/-- Values behind a space each are the words of their text exactly if each of them is one word. -/
theorem wordsBetween_intercalate_iff {cuts : Char → Bool} (hspace : cuts ' ' = true) {values : List String} :
    wordsBetween cuts ([' '].intercalate (values.map String.toList)) = values.map String.toList ↔
      AreWords cuts values := by
  constructor
  · intro hwords value hvalue
    have hword : value.toList ∈ wordsBetween cuts ([' '].intercalate (values.map String.toList)) := by
      rw [hwords]
      exact List.mem_map_of_mem hvalue
    obtain ⟨hpiece, hne⟩ := List.mem_filter.1 hword
    refine ⟨?_, fun c hc => Text.eq_false_of_mem_pieces hpiece hc⟩
    rintro rfl
    cases hne
  · intro hwords
    refine Text.filter_pieces_intercalate hspace fun word hword => ?_
    obtain ⟨value, hvalue, rfl⟩ := List.mem_map.1 hword
    obtain ⟨hne, hlacks⟩ := hwords value hvalue
    exact ⟨mt String.toList_eq_nil_iff.1 hne, hlacks⟩

/-! ## Bash -/

namespace Bash

/-- The list of a statement that completes from one, without its quotes. -/
def candidateList? (statement : String) : Option (List Char) :=
  match (Text.afterLead? "COMPREPLY=($(compgen -W ".toList statement.toList).map readString with
  | some (.closed text rest) => if rest = " -- \"$cur\"))".toList then some text else none
  | _ => none

/-- Without its quotes a list of words has them one space apart. -/
theorem candidateList?_words (words : List String) :
    candidateList? (Reply.words words).text = some ([' '].intercalate (words.map String.toList)) := by
  have htext : (Reply.words words).text.toList = "COMPREPLY=($(compgen -W ".toList ++
      '"' :: ((wordList words).toList ++ '"' :: " -- \"$cur\"))".toList) := by
    unfold Reply.text fromWords
    simp
  rw [candidateList?, htext, Text.afterLead?_append, Option.map_some, readString, toList_wordList, readInside_escape]
  exact if_pos rfl

theorem valueReply_of_declares {o : Opt} {values : List String} (hdeclares : o.Declares values) :
    valueReply o = .words values := by
  cases hdeclares with
  | choices hchoices => simp [valueReply, hchoices]
  | hint hchoices hcompletion hkind => simp [valueReply, hintReply, hchoices, hcompletion, hkind]

theorem exists_afterFlag_mem {options : List Opt} {o : Opt} (ho : o ∈ visibleOptions options)
    (hvalued : o.isBoolean = false) : ∃ branches, .afterFlag branches ∈ valueStatements options ∧
      ⟨o.flags, valueReply o⟩ ∈ branches := by
  have hmem : o ∈ (visibleOptions options).filter fun o => !o.isBoolean :=
    List.mem_filter.2 ⟨ho, by rw [hvalued, Bool.not_false]⟩
  rw [valueStatements]
  split
  next hnone =>
    rw [hnone] at hmem
    cases hmem
  next => exact ⟨_, List.mem_cons_self, List.mem_map.2 ⟨o, hmem, rfl⟩⟩

theorem mem_body_of_mem_valueStatements {program : String} {site : Site} (hsubs : site.command.subcommands = [])
    {s : Statement} (hs : s ∈ valueStatements site.command.options) : s ∈ (siteFunction program site).body := by
  refine List.mem_append_right _ ?_
  rw [hsubs, List.isEmpty_nil, Bool.not_true, if_neg Bool.false_ne_true]
  cases site.command.drivingArgument? with
  | some first => simp [argumentStatements, hs]
  | none => simp [optionStatements, hs]

/-- The reply for the value of an option stands in the function of each command that has the option and no
subcommands. -/
theorem valueReply_mem_lines {program : String} {site : Site} (hsubs : site.command.subcommands = []) {o : Opt}
    (ho : o ∈ visibleOptions site.command.options) (hvalued : o.isBoolean = false) :
    "      " ++ (valueReply o).text ∈ (siteFunction program site).lines := by
  obtain ⟨branches, hstatement, hbranch⟩ := exists_afterFlag_mem ho hvalued
  have hlines : "      " ++ (valueReply o).text ∈ (Statement.afterFlag branches).lines := by
    refine List.mem_append_left _ (List.mem_append_right _ ?_)
    exact List.mem_flatMap.2 ⟨_, hbranch, List.mem_cons_of_mem _ List.mem_cons_self⟩
  have hbody : Statement.afterFlag branches ∈ (siteFunction program site).body :=
    mem_body_of_mem_valueStatements hsubs hstatement
  exact List.mem_append_left _ (List.mem_append_right _ (List.mem_flatMap.2 ⟨_, hbody, hlines⟩))

end Bash

/-! ## Fish -/

namespace Fish

/-- The list of a switch for candidates, without its quotes. -/
def candidateText? (word : String) : Option (List Char) :=
  match (Text.afterLead? "-a ".toList word.toList).map readString with
  | some (.closed text []) => some text
  | _ => none

/-- The list of the first switch for candidates, without its quotes. -/
def candidateList? (words : List String) : Option (List Char) :=
  words.findSome? candidateText?

theorem candidates_of_declares {o : Opt} {values : List String} (hvalued : o.isBoolean = false)
    (hdeclares : o.Declares values) : candidates o = some (" ".intercalate values) := by
  cases hdeclares with
  | choices hchoices => simp [candidates, hvalued, hchoices]
  | hint hchoices hcompletion hkind => simp [candidates, hvalued, hintCandidates, hchoices, hcompletion, hkind]

theorem candidateText?_quote (list : String) : candidateText? ("-a " ++ quote list) = some list.toList := by
  rw [candidateText?, String.toList_append, Text.afterLead?_append, Option.map_some, toList_quote, List.cons_append,
    readString, readInside_escape]

/-- The candidates of a flag are those of its line, if there are any. -/
theorem candidateList?_flag (f : Flag) (description list : String) :
    candidateList? (Offer.flag f description (some list)).words =
      if list = "" then none else some list.toList := by
  have hflag : candidateText? f.text = none := by
    cases f <;> simp [candidateText?, Flag.text, Text.afterLead?]
  have hdescription : (descriptionWords description).findSome? candidateText? = none := by
    rw [descriptionWords]
    split
    · rfl
    · simp [candidateText?, Text.afterLead?]
  have hvalue : candidateText? "-r" = none := by decide
  change ([f.text] ++ descriptionWords description ++ ("-r" :: _)).findSome? candidateText? = _
  rw [List.findSome?_append, List.findSome?_append, hdescription, List.findSome?_singleton, hflag, Option.or_none,
    Option.none_or, List.findSome?_cons, hvalue]
  by_cases hempty : list = ""
  · rw [if_pos hempty, if_pos hempty]
    rfl
  · rw [if_neg hempty, if_neg hempty]
    change ["-a " ++ quote list].findSome? candidateText? = _
    rw [List.findSome?_singleton, candidateText?_quote]

/-- The lines of an option have its values one space apart, if they have any text. -/
theorem candidateList?_of_declares {o : Opt} {values : List String} (hvalued : o.isBoolean = false)
    (hdeclares : o.Declares values) {condition : Condition} {line : Line}
    (hline : line ∈ optionLines condition o) :
    candidateList? line.offer.words =
      if " ".intercalate values = "" then none else some ([' '].intercalate (values.map String.toList)) := by
  obtain ⟨flag, _, rfl⟩ := List.mem_map.1 hline
  dsimp only
  rw [candidates_of_declares hvalued hdeclares, candidateList?_flag, String.toList_intercalate]
  rfl

end Fish

/-- Bash and fish get the values of an option as one text each. Without its quotes the text has the declared values
as its words exactly if each of them is one word; fish has such a text only if there are values. The lists stand
in the functions of the commands that have the option and no subcommands, and in all lines for the option. -/
theorem candidates_read_back_iff {cuts : Char → Bool} (hspace : cuts ' ' = true) {o : Opt}
    (hvalued : o.isBoolean = false) {values : List String} (hdeclares : o.Declares values) :
    (∀ program site, site.command.subcommands = [] → o ∈ visibleOptions site.command.options →
        "      " ++ (Bash.valueReply o).text ∈ (Bash.siteFunction program site).lines) ∧
      ((Bash.candidateList? (Bash.valueReply o).text).map (wordsBetween cuts) = some (values.map String.toList) ↔
        AreWords cuts values) ∧
      ∀ condition, ∀ line ∈ Fish.optionLines condition o,
        (Fish.candidateList? line.offer.words).map (wordsBetween cuts) = some (values.map String.toList) ↔
          values ≠ [] ∧ AreWords cuts values := by
  refine ⟨fun _ _ hsubs ho => Bash.valueReply_mem_lines hsubs ho hvalued, ?_, fun condition line hline => ?_⟩
  · rw [Bash.valueReply_of_declares hdeclares, Bash.candidateList?_words, Option.map_some, Option.some.injEq,
      wordsBetween_intercalate_iff hspace]
  · have hjoined : (" ".intercalate values).toList = [' '].intercalate (values.map String.toList) :=
      String.toList_intercalate
    rw [Fish.candidateList?_of_declares hvalued hdeclares hline]
    split
    next hempty =>
      refine iff_of_false nofun fun ⟨hvalues, hwords⟩ => hvalues ?_
      have hread := (wordsBetween_intercalate_iff hspace).2 hwords
      rw [← hjoined, hempty] at hread
      exact List.map_eq_nil_iff.1 hread.symm
    next hne =>
      have hvalues : values ≠ [] := by
        rintro rfl
        exact hne rfl
      rw [Option.map_some, Option.some.injEq, wordsBetween_intercalate_iff hspace, and_iff_right hvalues]

/-- An instance: the modes of a command, which are one word each. -/
theorem candidates_read_back_of_modes :
    let mode : Opt := { name := "mode", type := "string", choices := ["fast", "it's"] }
    let site : Site := ⟨["run"], { name := "run", options := [mode] }⟩
    "      " ++ (Bash.valueReply mode).text ∈ (Bash.siteFunction "tool" site).lines ∧
      Bash.candidateList? (Bash.valueReply mode).text = some "fast it's".toList ∧
      (Bash.candidateList? (Bash.valueReply mode).text).map (wordsBetween Text.isBlank) =
        some ["fast".toList, "it's".toList] ∧
      ∀ line ∈ Fish.optionLines .start mode,
        (Fish.candidateList? line.offer.words).map (wordsBetween Text.isBlank) =
          some ["fast".toList, "it's".toList] := by
  intro mode site
  have hspace : Text.isBlank ' ' = true := by decide
  have hdeclares : mode.Declares mode.choices := .choices (List.cons_ne_nil _ _)
  have hwords : AreWords Text.isBlank mode.choices := by decide
  obtain ⟨hlines, hbash, hfish⟩ := candidates_read_back_iff hspace (by decide) hdeclares
  exact ⟨hlines "tool" site rfl List.mem_cons_self, by decide, hbash.2 hwords,
    fun line hline => (hfish .start line hline).2 ⟨List.cons_ne_nil _ _, hwords⟩⟩

/-- A value with a space falls into two. -/
theorem value_with_space_falls_apart :
    let mode : Fields := [("name", .text "mode"), ("type", .text "string"), ("enum", .list [.text "a b"])]
    let run : Fields := [("name", .text "run"), ("options", .list [.object mode])]
    let node : Fields := [("name", .text "tool"), ("commands", .list [.object run])]
    let o : Opt := { name := "mode", type := "string", choices := ["a b"] }
    (checkDocument (.object node)).problems = [] ∧
      Program.ofDocument (.object node) =
        .ok { name := "tool", commands := [{ name := "run", options := [o] }] } ∧
      o.isBoolean = false ∧ o.Declares ["a b"] ∧
      (Bash.candidateList? (Bash.valueReply o).text).map (wordsBetween Text.isBlank) =
        some ["a".toList, "b".toList] ∧
      (Fish.optionLines (.path ["run"]) o).map
          (fun line => (Fish.candidateList? line.offer.words).map (wordsBetween Text.isBlank)) =
        [some ["a".toList, "b".toList]] ∧
      (["a".toList, "b".toList] : List (List Char)) ≠ ["a b"].map String.toList := by
  intro mode run node o
  have hmode : IsOption mode :=
    ⟨⟨"mode", rfl, by decide⟩, .inl rfl, .inr ⟨"string", rfl⟩, .inl rfl, .inl rfl, .inl rfl,
      .inr ⟨_, rfl, by decide⟩, .inl rfl, .inl rfl⟩
  have hrun : IsCommand run :=
    isCommand_of_options (by decide) (List.forall_mem_singleton.2 hmode) (by decide)
  have hnode : IsProgram node :=
    isProgram_of_commands (by decide) (List.forall_mem_singleton.2 hrun) (by decide)
  have hread : Command.ofDocument (.object run) = .ok { name := "run", options := [o] } := by
    rw [Command.ofDocument_object]
    rfl
  exact ⟨problems_checkDocument_eq_nil_iff.2 ⟨node, rfl, hnode⟩,
    Program.ofDocument_of_command "tool" (by decide) hread, by decide, .choices (List.cons_ne_nil _ _),
    by decide, by decide, by decide⟩

end Tabsmith
