import Tabsmith.Parser

/-!
The words that lead to the commands of a parser. A parser keeps them in one table, in which the parser
of a command stands under the name that it was added under and under each of its aliases; the help that
was given stands in a second table, under the name alone. The commands are found by going through the
first table, where a parser counts at the first of its words only.
-/

namespace Tabsmith

/-- Words with the parsers that they lead to, in the order in which the words were first given. A parser
is told by its place among those that were added. -/
abbrev WordTable := List (Caption × Nat)

namespace WordTable

/-- The table in which a word leads to a parser. A word that was there keeps its place. -/
def set (table : WordTable) (word : Caption) (parser : Nat) : WordTable :=
  match table with
  | [] => [(word, parser)]
  | (w, p) :: rest => if w = word then (w, parser) :: rest else (w, p) :: set rest word parser

/-- The table in which each of `words` leads to a parser. -/
def add (table : WordTable) (words : List Caption) (parser : Nat) : WordTable :=
  words.foldl (fun table word => set table word parser) table

/-- The entries at which a parser is met that was not met before; `seen` are those met already. -/
def firsts (seen : List Nat) : WordTable → WordTable
  | [] => []
  | (word, parser) :: rest =>
    if seen.contains parser then firsts seen rest
    else (word, parser) :: firsts (parser :: seen) rest

end WordTable

namespace Parser

/-- The words that lead to the command of a parser. -/
def words (p : Parser) : List Caption :=
  p.name :: p.aliases.map fun word => .ofValue (.text word)

/-- The table of the words of parsers that were added one after the other. -/
def wordTable (parsers : List Parser) : WordTable :=
  parsers.zipIdx.foldl (fun table (p, place) => WordTable.add table p.words place) []

/-- The help that stands under a word, if the word is the name of a command. -/
def helpFor (parsers : List Parser) (word : Caption) : Caption :=
  ((parsers.map fun p => (p.name, p.help)).lookup word).getD .none

/-- What is made of parsers, each from the word at which it is met first and the help that stands under
that word. `make` says for each parser what is made of it. -/
def eachMet {α : Type} (parsers : List Parser) (make : List (Caption → Caption → α)) : List α :=
  (WordTable.firsts [] (wordTable parsers)).filterMap fun (word, place) =>
    make[place]?.map fun made => made word (helpFor parsers word)

end Parser

end Tabsmith
