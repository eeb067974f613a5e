import Mathlib.Data.List.Induction
import Tabsmith.CommandLine

/-!
How the words of a command line are read. They fall into tokens: a switch, the option for the log file
with the word after it, or any other word. What a command line says depends on its tokens of each sort
alone, so that options may stand anywhere among the other words.
-/

namespace Tabsmith

namespace CommandLine

/-- An option that takes no word after it. -/
inductive Switch where
  | help | version | debug
deriving DecidableEq, Repr, Inhabited

namespace Switch

/-- The words for a switch. -/
def words : Switch → List String
  | help => ["--help", "-h"]
  | version => ["--version", "-V"]
  | debug => ["--debug"]

/-- The command line with a switch turned on. -/
def turnOn (line : CommandLine) : Switch → CommandLine
  | help => { line with help := true }
  | version => { line with version := true }
  | debug => { line with debug := true }

end Switch

/-- The word for the option that takes the path of a log file. -/
def logFileWord : String := "--log-file"

/-- A part of a command line: a switch, the option for the log file, or a plain word, which is no option. -/
inductive Token where
  | switch (switch : Switch) (word : String)
  | logFile (path : String)
  | plain (word : String)
deriving DecidableEq, Repr, Inhabited

namespace Token

/-- The words that a token is made of. -/
def words : Token → List String
  | .switch _ word => [word]
  | .logFile path => [logFileWord, path]
  | .plain word => [word]

/-- The token turns a switch on. -/
def isSwitch (wanted : Switch) : Token → Bool
  | .switch found _ => found = wanted
  | .logFile _ | .plain _ => false

def path? : Token → Option String
  | .logFile path => some path
  | .switch .. | .plain _ => none

def plain? : Token → Option String
  | .plain word => some word
  | .switch .. | .logFile _ => none

end Token

/-- The tokens that words are read as. The option for the log file takes the next word, whatever it is;
without one it is no option. -/
inductive ReadAs : List String → List Token → Prop
  | nil : ReadAs [] []
  | logFile {path : String} {rest : List String} {tokens : List Token} (hrest : ReadAs rest tokens) :
      ReadAs (logFileWord :: path :: rest) (.logFile path :: tokens)
  | switch {switch : Switch} {word : String} {rest : List String} {tokens : List Token}
      (hword : word ∈ switch.words) (hrest : ReadAs rest tokens) :
      ReadAs (word :: rest) (.switch switch word :: tokens)
  | plain {word : String} {rest : List String} {tokens : List Token}
      (hswitch : ∀ switch, word ∉ Switch.words switch) (hlog : word = logFileWord → rest = [])
      (hrest : ReadAs rest tokens) : ReadAs (word :: rest) (.plain word :: tokens)

/-- The last word is the option for the log file, and it has no path. -/
def LacksPath (words : List String) : Prop :=
  ∃ tokens, ReadAs words (tokens ++ [.plain logFileWord])

/-- The command line that tokens say. -/
def ofTokens (tokens : List Token) : CommandLine where
  command := (tokens.filterMap Token.plain?).head?
  params := (tokens.filterMap Token.plain?).tail
  debug := tokens.any (Token.isSwitch .debug)
  help := tokens.any (Token.isSwitch .help)
  version := tokens.any (Token.isSwitch .version)
  logFile := (tokens.filterMap Token.path?).getLast?

/-- The command line with one more token. -/
def addToken (line : CommandLine) : Token → CommandLine
  | .switch switch _ => switch.turnOn line
  | .logFile path => { line with logFile := some path }
  | .plain word => line.addWord word

/-! ## Tokens -/

section Tokens

variable {u v words : List String} {tokens others : List Token} {switch : Switch} {word : String}

theorem ReadAs.words_eq (hread : ReadAs words tokens) : tokens.flatMap Token.words = words := by
  induction hread with
  | nil => rfl
  | logFile hrest ih | switch hword hrest ih | plain hswitch hlog hrest ih =>
    rw [List.flatMap_cons, ih]
    rfl

theorem exists_readAs : (words : List String) → ∃ tokens, ReadAs words tokens
  | [] => ⟨[], .nil⟩
  | word :: rest => by
    obtain ⟨tokens, hrest⟩ := exists_readAs rest
    by_cases hswitch : ∃ switch, word ∈ Switch.words switch
    · obtain ⟨switch, hword⟩ := hswitch
      exact ⟨_, .switch hword hrest⟩
    · have hnone := not_exists.1 hswitch
      by_cases hlog : word = logFileWord
      · subst hlog
        cases rest with
        | nil => exact ⟨_, .plain hnone (fun _ => rfl) hrest⟩
        | cons path later =>
          obtain ⟨tokens, hlater⟩ := exists_readAs later
          exact ⟨_, .logFile hlater⟩
      · exact ⟨_, .plain hnone (fun heq => absurd heq hlog) hrest⟩

theorem Switch.eq_of_mem_words {other : Switch} (hword : word ∈ switch.words) (hother : word ∈ other.words) :
    switch = other := by
  have hapart : switch ≠ other → ∀ word ∈ switch.words, word ∉ other.words := by
    cases switch <;> cases other <;> decide
  by_contra hne
  exact hapart hne word hword hother

/-- A word that does not begin with a dash is for no switch. -/
theorem not_mem_words_of_no_dash (hword : word.toList.head? ≠ some '-') (switch : Switch) :
    word ∉ switch.words := by
  have hdash : ∀ other ∈ switch.words, other.toList.head? = some '-' := by
    cases switch <;> decide
  exact fun hmem => hword (hdash word hmem)

theorem logFileWord_not_mem_words (switch : Switch) : logFileWord ∉ switch.words := by
  cases switch <;> decide

/-- Words are read in one way only. -/
theorem ReadAs.unique (hread : ReadAs words tokens) (hother : ReadAs words others) : tokens = others := by
  induction hread generalizing others with
  | nil =>
    cases hother
    rfl
  | logFile hrest ih =>
    cases hother with
    | logFile hrest' => rw [ih hrest']
    | switch hword => exact absurd hword (logFileWord_not_mem_words _)
    | plain _ hlog => cases hlog rfl
  | switch hword hrest ih =>
    cases hother with
    | logFile => exact absurd hword (logFileWord_not_mem_words _)
    | switch hword' hrest' => rw [ih hrest', Switch.eq_of_mem_words hword hword']
    | plain hswitch => exact absurd hword (hswitch _)
  | plain hswitch hlog hrest ih =>
    cases hother with
    | logFile => cases hlog rfl
    | switch hword => exact absurd hword (hswitch _)
    | plain _ _ hrest' => rw [ih hrest']

theorem lacksPath_iff (hread : ReadAs words tokens) :
    LacksPath words ↔ tokens.getLast? = some (.plain logFileWord) := by
  rw [List.getLast?_eq_some_iff]
  constructor
  · rintro ⟨before, hlast⟩
    exact ⟨before, hread.unique hlast⟩
  · rintro ⟨before, rfl⟩
    exact ⟨before, hread⟩

/-- Words are read one after the other, unless the first of them wait for a path. -/
theorem ReadAs.append (hu : ReadAs u tokens) (hpath : ¬ LacksPath u) (hv : ReadAs v others) :
    ReadAs (u ++ v) (tokens ++ others) := by
  induction hu with
  | nil => exact hv
  | logFile hrest ih =>
    apply ReadAs.logFile
    apply ih
    rintro ⟨before, hlast⟩
    exact hpath ⟨_ :: before, .logFile hlast⟩
  | switch hword hrest ih =>
    apply ReadAs.switch hword
    apply ih
    rintro ⟨before, hlast⟩
    exact hpath ⟨_ :: before, .switch hword hlast⟩
  | @plain word rest tokens hswitch hlog hrest ih =>
    have hother : word ≠ logFileWord := by
      intro heq
      obtain rfl := hlog heq
      subst heq
      exact hpath ⟨[], .plain hswitch hlog .nil⟩
    apply ReadAs.plain hswitch (fun heq => absurd heq hother)
    apply ih
    rintro ⟨before, hlast⟩
    exact hpath ⟨_ :: before, .plain hswitch (fun heq => absurd heq hother) hlast⟩

end Tokens

/-! ## Reading -/

section Reading

variable {words : List String} {tokens : List Token} {switch : Switch} {word : String}

theorem readOn_switch (line : CommandLine) (hword : word ∈ switch.words) (rest : List String) :
    line.readOn (word :: rest) = (switch.turnOn line).readOn rest := by
  have hwords : word = "--help" ∧ switch = .help ∨ word = "-h" ∧ switch = .help ∨
      word = "--version" ∧ switch = .version ∨ word = "-V" ∧ switch = .version ∨
      word = "--debug" ∧ switch = .debug := by
    cases switch <;> simpa [Switch.words] using hword
  rcases hwords with ⟨rfl, rfl⟩ | ⟨rfl, rfl⟩ | ⟨rfl, rfl⟩ | ⟨rfl, rfl⟩ | ⟨rfl, rfl⟩ <;>
    simp [readOn, Switch.turnOn]

theorem readOn_plain (line : CommandLine) {rest : List String}
    (hswitch : ∀ switch, word ∉ Switch.words switch) (hlog : word = logFileWord → rest = []) :
    line.readOn (word :: rest) = (line.addWord word).readOn rest := by
  have hhelp : ¬ (word = "--help" ∨ word = "-h") := by simpa [Switch.words] using hswitch .help
  have hversion : ¬ (word = "--version" ∨ word = "-V") := by
    simpa [Switch.words] using hswitch .version
  have hdebug : word ≠ "--debug" := by simpa [Switch.words] using hswitch .debug
  rw [readOn.eq_def]
  split
  next heq => cases heq
  next path later heq =>
    obtain ⟨rfl, rfl⟩ := List.cons_eq_cons.1 heq
    cases hlog rfl
  next first later _ heq =>
    obtain ⟨rfl, rfl⟩ := List.cons_eq_cons.1 heq
    rw [if_neg (by simpa using hhelp), if_neg (by simpa using hversion), if_neg hdebug]

theorem readOn_eq_foldl (hread : ReadAs words tokens) (line : CommandLine) :
    line.readOn words = tokens.foldl addToken line := by
  induction hread generalizing line with
  | nil => rfl
  | logFile hrest ih => exact ih _
  | switch hword hrest ih =>
    rw [readOn_switch line hword, ih]
    rfl
  | plain hswitch hlog hrest ih =>
    rw [readOn_plain line hswitch hlog, ih]
    rfl

theorem ofTokens_concat (tokens : List Token) (token : Token) :
    ofTokens (tokens ++ [token]) = (ofTokens tokens).addToken token := by
  simp only [ofTokens, List.filterMap_append, List.any_append, List.filterMap_cons, List.filterMap_nil]
  cases token with
  | switch switch word => cases switch <;> simp [addToken, Switch.turnOn, Token.isSwitch, Token.plain?, Token.path?]
  | logFile path => simp [addToken, Token.isSwitch, Token.plain?, Token.path?]
  | plain word =>
    cases tokens.filterMap Token.plain? with
    | nil => simp [addToken, addWord, Token.isSwitch, Token.plain?, Token.path?]
    | cons command params => simp [addToken, addWord, Token.isSwitch, Token.plain?, Token.path?]

/-- What words say is what their tokens say. -/
theorem ReadAs.ofWords_eq (hread : ReadAs words tokens) : ofWords words = ofTokens tokens := by
  rw [ofWords, readOn_eq_foldl hread]
  clear hread
  induction tokens using List.reverseRecOn with
  | nil => rfl
  | append_singleton tokens token ih =>
    rw [List.foldl_append, ih, ofTokens_concat]
    rfl

end Reading

/-! ## Options between words -/

theorem ofTokens_switch_between (before after : List Token) (switch : Switch) (word : String) :
    ofTokens (before ++ .switch switch word :: after) = switch.turnOn (ofTokens (before ++ after)) := by
  simp only [ofTokens, List.filterMap_append, List.any_append, List.filterMap_cons, List.any_cons]
  cases switch <;> simp [Switch.turnOn, Token.isSwitch, Token.plain?, Token.path?]

theorem ofTokens_logFile_between (before after : List Token) (path : String) :
    ofTokens (before ++ .logFile path :: after) =
      { ofTokens (before ++ after) with
        logFile := some ((after.filterMap Token.path?).getLast?.getD path) } := by
  simp only [ofTokens, List.filterMap_append, List.any_append, List.filterMap_cons, List.any_cons]
  simp [Token.isSwitch, Token.plain?, Token.path?, List.getLast?_cons]

/-- Options may stand anywhere among words, but not between the option for the log file and its path. A
switch is then turned on and the path of a log file is the last one given, and nothing else changes. The
command and its parameters are the plain words in their order, and every word is used once. -/
theorem options_stand_anywhere {u v : List String} (hpath : ¬ LacksPath u) :
    (∀ switch, ∀ word ∈ Switch.words switch,
      ofWords (u ++ word :: v) = switch.turnOn (ofWords (u ++ v))) ∧
    (∀ path later, ReadAs v later → ofWords (u ++ logFileWord :: path :: v) =
      { ofWords (u ++ v) with logFile := some ((later.filterMap Token.path?).getLast?.getD path) }) ∧
    ∀ words, ∃ tokens, ReadAs words tokens ∧ tokens.flatMap Token.words = words ∧
      (ofWords words).command.toList ++ (ofWords words).params = tokens.filterMap Token.plain? ∧
      ofWords words = ofTokens tokens := by
  obtain ⟨before, hu⟩ := exists_readAs u
  obtain ⟨after, hv⟩ := exists_readAs v
  refine ⟨?_, ?_, ?_⟩
  · intro switch word hword
    rw [(hu.append hpath (.switch hword hv)).ofWords_eq, (hu.append hpath hv).ofWords_eq]
    exact ofTokens_switch_between before after switch word
  · intro path later hlater
    rw [(hu.append hpath (.logFile hlater)).ofWords_eq, (hu.append hpath hlater).ofWords_eq]
    exact ofTokens_logFile_between before later path
  · intro words
    obtain ⟨tokens, hread⟩ := exists_readAs words
    refine ⟨tokens, hread, hread.words_eq, ?_, hread.ofWords_eq⟩
    rw [hread.ofWords_eq, ofTokens]
    cases tokens.filterMap Token.plain? <;> rfl

/-- An instance: a path that looks like a switch is a path, and the option at the end is a parameter. -/
theorem options_stand_anywhere_in_install :
    let u := ["install", "--log-file", "--debug"]
    let v := ["--log-file", "b.log", "tool.json", "--log-file"]
    let line : CommandLine :=
      { command := some "install", params := ["tool.json", "--log-file"], logFile := some "b.log" }
    ¬ LacksPath u ∧ ofWords (u ++ v) = line ∧
      ofWords (u ++ "-V" :: v) = { line with version := true } ∧
      ofWords (u ++ "--log-file" :: "a.log" :: v) = line := by
  intro u v line
  have hu : ReadAs u [.plain "install", .logFile "--debug"] :=
    .plain (not_mem_words_of_no_dash (by decide)) (by decide) (.logFile .nil)
  have hv : ReadAs v [.logFile "b.log", .plain "tool.json", .plain "--log-file"] :=
    .logFile (.plain (not_mem_words_of_no_dash (by decide)) (by decide)
      (.plain logFileWord_not_mem_words (fun _ => rfl) .nil))
  have hpath : ¬ LacksPath u := by
    rw [lacksPath_iff hu]
    decide
  have hline : ofWords (u ++ v) = line := by rw [(hu.append hpath hv).ofWords_eq]; rfl
  obtain ⟨hswitch, hlog, _⟩ := options_stand_anywhere (v := v) hpath
  refine ⟨hpath, hline, ?_, ?_⟩
  · rw [hswitch .version "-V" (by decide), hline]
    rfl
  · rw [← logFileWord, hlog "a.log" _ hv, hline]
    rfl

end CommandLine

end Tabsmith
