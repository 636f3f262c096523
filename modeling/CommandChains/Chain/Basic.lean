import CommandChains.Text.Words

/-!
# Chains of commands

A line is a chain of commands. The words `;` and `&`, standing alone, are
delimiters: each closes the command in front of it. Any other word belongs to
a command, also one that has a delimiter inside it.

A delimiter with no word before it closes an empty command. Empty commands are
part of the chain, because the delimiter of the last one says whether the whole
chain is left in the background, but they are never run.

Reading a chain and writing it out as words are inverse to each other on the
chains that words can express (`Chain.Expressible`).
-/

namespace CommandChains

/-- What may stand between two commands. -/
inductive Delimiter where
  /-- The next command starts after this one has ended. -/
  | sequential
  /-- The next command may start while this one is running. -/
  | concurrent
  deriving DecidableEq, Repr

namespace Delimiter

def word : Delimiter → String
  | sequential => ";"
  | concurrent => "&"

/-- The delimiter that a word is, if it is one. -/
def ofWord? (word : String) : Option Delimiter :=
  if word = ";" then some sequential
  else if word = "&" then some concurrent
  else none

@[simp] theorem ofWord?_word (d : Delimiter) : ofWord? d.word = some d := by
  cases d <;> rfl

theorem ofWord?_eq_some_iff {word : String} {d : Delimiter} :
    ofWord? word = some d ↔ word = d.word := by
  constructor
  · intro h
    simp only [ofWord?] at h
    split at h
    · cases h; assumption
    · split at h
      · cases h; assumption
      · cases h
  · rintro rfl
    exact ofWord?_word d

end Delimiter

/-- A command: the program and its arguments, and the delimiter that closes it.
The last command of a line may be closed by the end of the line alone. -/
structure Command where
  argv : List String
  closedBy : Option Delimiter := none
  deriving DecidableEq, Repr

namespace Command

def isEmpty (c : Command) : Bool :=
  c.argv.isEmpty

def toWords (c : Command) : List String :=
  c.argv ++ c.closedBy.toList.map Delimiter.word

end Command

/-- The commands of one line, in order. -/
structure Chain where
  commands : List Command
  deriving DecidableEq, Repr

namespace Chain

/-- Puts a word that is no delimiter in front of some commands. It joins the
first of them, or is a command by itself. -/
def joinFirst (word : String) : List Command → List Command
  | [] => [⟨[word], none⟩]
  | c :: rest => { c with argv := word :: c.argv } :: rest

def commandsOf : List String → List Command
  | [] => []
  | word :: rest =>
    match Delimiter.ofWord? word with
    | some d => ⟨[], some d⟩ :: commandsOf rest
    | none => joinFirst word (commandsOf rest)

def ofWords (words : List String) : Chain :=
  ⟨commandsOf words⟩

def ofLine (line : String) : Chain :=
  ofWords (Text.wordsOf line)

def toWords (chain : Chain) : List String :=
  chain.commands.flatMap Command.toWords

def isNoop (chain : Chain) : Bool :=
  chain.commands.all Command.isEmpty

/-- Whether the chain ends in `&`, so that nothing waits for its end. -/
def endsInBackground (chain : Chain) : Bool :=
  chain.commands.getLast?.any fun c => c.closedBy == some .concurrent

/-- The commands that are run, in order. -/
def dispatchable (chain : Chain) : List Command :=
  chain.commands.filter fun c => !c.isEmpty

/-- The chains that words can express: no word of a command is a delimiter, every
command but the last is closed by a delimiter, and the last is closed by one or
has a word. -/
def Expressible (chain : Chain) : Prop :=
  (∀ c ∈ chain.commands, ∀ word ∈ c.argv, Delimiter.ofWord? word = none) ∧
  (∀ c ∈ chain.commands.dropLast, c.closedBy ≠ none) ∧
  (∀ c ∈ chain.commands.getLast?, c.closedBy ≠ none ∨ c.argv ≠ [])

@[simp] theorem commandsOf_nil : commandsOf [] = [] := rfl

theorem commandsOf_delimiter {word : String} {d : Delimiter} (rest : List String)
    (h : Delimiter.ofWord? word = some d) :
    commandsOf (word :: rest) = ⟨[], some d⟩ :: commandsOf rest := by
  simp [commandsOf, h]

theorem commandsOf_word {word : String} (rest : List String)
    (h : Delimiter.ofWord? word = none) :
    commandsOf (word :: rest) = joinFirst word (commandsOf rest) := by
  simp [commandsOf, h]

theorem toWords_ofWords (words : List String) : (ofWords words).toWords = words := by
  induction words with
  | nil => rfl
  | cons word rest ih =>
    simp only [toWords, ofWords] at ih ⊢
    cases h : Delimiter.ofWord? word with
    | some d =>
      rw [commandsOf_delimiter rest h, List.flatMap_cons, ih,
        Delimiter.ofWord?_eq_some_iff.1 h]
      rfl
    | none =>
      rw [commandsOf_word rest h]
      cases hc : commandsOf rest with
      | nil => simp [hc] at ih; simp [joinFirst, Command.toWords, ih]
      | cons c others =>
        rw [hc] at ih
        simp only [joinFirst, List.flatMap_cons, Command.toWords, List.cons_append] at ih ⊢
        rw [ih]

end Chain

end CommandChains
