import Tabsmith.Fish.Completion
import Tabsmith.Proofs.Acceptance.Small
import Tabsmith.Proofs.Quoting.Fish
import Tabsmith.Proofs.Reading.Parts

/-!
The lines of a fish script. The names of commands, the descriptions and the candidates stand between apostrophes,
but the name of the program and those of flags stand as they are: a line has the words that it is meant to have
exactly if these names are plain words.
-/

namespace Tabsmith.Fish

/-! ## The words of a line -/

/-- The switch that declares a flag. -/
def Flag.switch : Flag → String
  | short _ => "-s"
  | old _ => "-o"
  | long _ => "-l"

/-- The name of a flag without its dashes. -/
def Flag.name : Flag → String
  | short name => name
  | old name => name
  | long name => name

/-- The flag that an offer is about. -/
def Offer.flag? : Offer → Option Flag
  | flag f _ _ => some f
  | _ => none

/-- The switch for a description, unless it is empty. -/
def descriptionTokens (description : String) : List Token :=
  if description = "" then [] else [.bare "-d", .quoted description]

/-- The switches for the value of a flag, if it takes one. -/
def valueTokens : Option String → List Token
  | none => []
  | some list => .bare "-r" :: if list = "" then [] else [.bare "-a", .quoted list]

/-- The switches of an offer. -/
def Offer.tokens : Offer → List Token
  | command name description => [.bare "-a", .quoted name] ++ descriptionTokens description
  | flag f description candidates =>
    [.bare f.switch, .bare f.name] ++ descriptionTokens description ++ valueTokens candidates
  | folders => [.bare "-x", .bare "-a", .quoted "(__fish_complete_directories)"]

/-- The tokens of a line for a program. -/
def Line.tokens (program : String) (line : Line) : List Token :=
  [.bare "complete", .bare "-c", .bare program, .bare "-n", .quoted line.condition.text] ++ line.offer.tokens

/-- The words that a line for a program is meant to have. -/
def Line.words (program : String) (line : Line) : List String :=
  (line.tokens program).map Token.word

theorem flatMap_descriptionWords (description : String) :
    (descriptionWords description).flatMap (fun word => ' ' :: word.toList) =
      (descriptionTokens description).flatMap fun token => ' ' :: token.text.toList := by
  rw [descriptionWords, descriptionTokens]
  split
  · rfl
  · simp [Token.text]

theorem Offer.flatMap_words (offer : Offer) :
    offer.words.flatMap (fun word => ' ' :: word.toList) =
      offer.tokens.flatMap fun token => ' ' :: token.text.toList := by
  cases offer with
  | command name description =>
    rw [words, tokens, List.flatMap_cons, List.flatMap_append, flatMap_descriptionWords]
    simp [Token.text]
  | flag f description candidates =>
    have hflag : [f.text].flatMap (fun word => ' ' :: word.toList) =
        [Token.bare f.switch, .bare f.name].flatMap fun token => ' ' :: token.text.toList := by
      cases f <;> simp [Flag.text, Flag.switch, Flag.name, Token.text]
    rw [words.eq_def, tokens]
    dsimp only
    rw [List.flatMap_append, List.flatMap_append, List.flatMap_append, List.flatMap_append,
      flatMap_descriptionWords, hflag]
    congr 1
    cases candidates with
    | none => rfl
    | some list =>
      rw [valueTokens]
      dsimp only
      split
      · rfl
      · simp [Token.text]
  | folders => decide

/-- A line has its tokens one space apart. -/
theorem Line.spread_tokens (program : String) (line : Line) (rest : String) :
    spread (line.tokens program) rest.toList = ' ' :: (line.text program ++ "\n" ++ rest).toList := by
  have hjoined := append_intercalate [' ']
    (List.cons_ne_nil ("complete -c " ++ program ++ " -n " ++ quote line.condition.text).toList
      (line.offer.words.map String.toList))
  rw [text, String.toList_append, String.toList_append, String.toList_intercalate, List.map_cons]
  change _ = [' '] ++ ([' '].intercalate _ ++ _ ++ _)
  rw [← List.append_assoc, ← List.append_assoc, hjoined, List.flatMap_cons, List.flatMap_map]
  change _ = _ ++ line.offer.words.flatMap (fun word => ' ' :: word.toList) ++ _ ++ _
  rw [Offer.flatMap_words, spread, tokens, List.flatMap_append]
  simp [Token.text]

/-! ## The words without apostrophes -/

theorem isBare_of_mem_descriptionTokens {description word : String}
    (hword : .bare word ∈ descriptionTokens description) : IsBare word := by
  rw [descriptionTokens] at hword
  split at hword
  · cases hword
  · obtain rfl : word = "-d" := by simpa using hword
    decide

theorem isBare_of_mem_valueTokens {candidates : Option String} {word : String}
    (hword : .bare word ∈ valueTokens candidates) : IsBare word := by
  cases candidates with
  | none => cases hword
  | some list =>
    have hswitch : word = "-r" ∨ word = "-a" := by
      by_cases hempty : list = ""
      · exact .inl (by simpa [valueTokens, hempty] using hword)
      · simpa [valueTokens, hempty] using hword
    obtain rfl | rfl := hswitch <;> decide

/-- The switches after the name of a flag start with a dash. -/
theorem startsPlain_of_mem_head? {description : String} {candidates : Option String} :
    ∀ next ∈ (descriptionTokens description ++ valueTokens candidates).head?, next.StartsPlain := by
  intro next hnext
  rw [descriptionTokens] at hnext
  split at hnext
  · cases candidates with
    | none => cases hnext
    | some list =>
      obtain rfl : Token.bare "-r" = next := Option.some.inj hnext
      exact IsBare.startsPlain (by decide)
  · obtain rfl : Token.bare "-d" = next := Option.some.inj hnext
    exact IsBare.startsPlain (by decide)

theorem Flag.isBare_switch (f : Flag) : IsBare f.switch := by
  cases f <;> rw [switch] <;> decide

theorem isBare_of_mem_switches {description : String} {candidates : Option String} {word : String}
    (hword : .bare word ∈ descriptionTokens description ++ valueTokens candidates) : IsBare word :=
  (List.mem_append.1 hword).elim isBare_of_mem_descriptionTokens isBare_of_mem_valueTokens

/-- The words that stand in an offer without apostrophes are switches, and the name of its flag. -/
theorem Offer.forall_bare_iff (offer : Offer) :
    (∀ word, .bare word ∈ offer.tokens → IsBare word) ↔ ∀ f ∈ offer.flag?, IsBare f.name := by
  cases offer with
  | command name description =>
    refine iff_of_true (fun word hword => ?_) nofun
    obtain hname | hdescription := List.mem_append.1 hword
    · obtain rfl : word = "-a" := by simpa using hname
      decide
    · exact isBare_of_mem_descriptionTokens hdescription
  | flag f description candidates =>
    constructor
    · rintro hall g ⟨⟩
      exact hall f.name (by simp [tokens])
    · intro hname word hword
      rw [tokens, List.append_assoc] at hword
      obtain hflag | hswitches := List.mem_append.1 hword
      · obtain rfl | rfl : word = f.switch ∨ word = f.name := by simpa using hflag
        · exact f.isBare_switch
        · exact hname f rfl
      · exact isBare_of_mem_switches hswitches
  | folders =>
    refine iff_of_true (fun word hword => ?_) nofun
    obtain rfl | rfl : word = "-x" ∨ word = "-a" := by simpa [tokens] using hword
    all_goals decide

theorem Offer.spaced_tokens (offer : Offer) : Spaced offer.tokens := by
  cases hflag : offer.flag? with
  | none =>
    refine spaced_of_forall (offer.forall_bare_iff.2 ?_)
    rw [hflag]
    nofun
  | some f =>
    cases offer with
    | flag f description candidates =>
      rw [tokens, List.append_assoc]
      exact ⟨.inl f.isBare_switch, .inr startsPlain_of_mem_head?,
        spaced_of_forall fun word => isBare_of_mem_switches⟩
    | command name description => cases hflag
    | folders => cases hflag

theorem Line.spaced_tokens (program : String) (line : Line) : Spaced (line.tokens program) := by
  refine ⟨.inl (by decide), .inl (by decide), .inr ?_, .inl (by decide), line.offer.spaced_tokens⟩
  rintro next ⟨⟩
  exact IsBare.startsPlain (by decide)

theorem Line.forall_bare_iff (program : String) (line : Line) :
    (∀ word, .bare word ∈ line.tokens program → IsBare word) ↔
      IsBare program ∧ ∀ f ∈ line.offer.flag?, IsBare f.name := by
  rw [← Offer.forall_bare_iff]
  constructor
  · intro hall
    refine ⟨hall program (by simp [tokens]), fun word hword => hall word ?_⟩
    exact List.mem_append_right _ hword
  · rintro ⟨hprogram, hoffer⟩ word hword
    obtain hstart | hoffered := List.mem_append.1 hword
    · obtain rfl | rfl | rfl | rfl : word = "complete" ∨ word = "-c" ∨ word = program ∨ word = "-n" := by
        simpa using hstart
      · decide
      · decide
      · exact hprogram
      · decide
    · exact hoffer word hoffered

/-! ## The lines of a script -/

/-- The text of a script ends with its lines. -/
theorem Script.exists_text_eq (s : Script) :
    ∃ header, s.text = header ++ String.join (s.lines.map fun line => line.text s.program ++ "\n") := by
  let header := (s.description.map fun line => "# " ++ s.program ++ " - " ++ line).toList ++
    ["# Generated by: shellcomp generate fish", ""]
  have hne : header ++ s.lines.map (Line.text s.program) ≠ [] :=
    List.append_ne_nil_of_left_ne_nil (List.append_ne_nil_of_right_ne_nil _ (List.cons_ne_nil _ _)) _
  refine ⟨String.join (header.map (· ++ "\n")), ?_⟩
  rw [text, intercalate_append "\n" hne, List.map_append, List.map_map, String.join_append]
  rfl

/-- The script of a program ends with its lines. Each of them is read as the words that it is meant to have, up to
its end, exactly if the name of the program and that of the line's flag are plain words. These stand in the line as
they are; conditions, the names of commands, descriptions and candidates may be any texts. -/
theorem lines_read_back_iff (p : Program) :
    (∃ header, (script p).text =
        header ++ String.join ((script p).lines.map fun line => line.text p.name ++ "\n")) ∧
      ∀ line ∈ (script p).lines, ∀ rest : String,
        readCommand (line.text p.name ++ "\n" ++ rest) =
            .whole ((line.words p.name).map String.toList) rest.toList ↔
          IsBare p.name ∧ ∀ f ∈ line.offer.flag?, IsBare f.name := by
  refine ⟨(script p).exists_text_eq, fun line _ rest => ?_⟩
  have hread : readCommand (line.text p.name ++ "\n" ++ rest) =
      read (.outside false) (spread (line.tokens p.name) rest.toList) := by
    rw [Line.spread_tokens]
    exact (Words.after_false _).symm
  rw [hread, Line.words, List.map_map, ← Line.forall_bare_iff]
  exact read_spread_iff (line.spaced_tokens p.name) rest.toList

example : readCommand "complete -l 'a\\'; b'c\nls" =
    .whole ["complete".toList, "-l".toList, "a'; bc".toList] "ls".toList := by decide

example : readCommand "complete -l a;ls" = .special := by decide

/-- The line of a program whose name has a space is about a program of another name. -/
theorem name_with_space_falls_apart :
    let run : Fields := [("name", .text "run")]
    let node : Fields := [("name", .text "my tool"), ("commands", .list [.object run])]
    let p : Program := { name := "my tool", commands := [{ name := "run" }] }
    let line : Line := ⟨.start, .command "run" ""⟩
    (checkDocument (.object node)).problems = [] ∧ Program.ofDocument (.object node) = .ok p ∧
      (script p).lines = [line] ∧
      readCommand (line.text "my tool") =
        .whole (["complete", "-c", "my", "tool", "-n", "__fish_use_subcommand", "-a", "run"].map String.toList) [] ∧
      readCommand (line.text "my tool") ≠ .whole ((line.words "my tool").map String.toList) [] := by
  intro run node p line
  have hrun : IsCommand run := isCommand_of_name (by decide)
  have hnode : IsProgram node :=
    isProgram_of_commands (by decide) (List.forall_mem_singleton.2 hrun) (by decide)
  have hread : Command.ofDocument (.object run) = .ok { name := "run" } := by
    rw [Command.ofDocument_object]
    rfl
  refine ⟨problems_checkDocument_eq_nil_iff.2 ⟨node, rfl, hnode⟩,
    Program.ofDocument_of_command "my tool" (by decide) hread, rfl, by decide, by decide⟩

end Tabsmith.Fish
