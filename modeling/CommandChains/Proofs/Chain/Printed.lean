import CommandChains.Chain.Run
import CommandChains.Proofs.Text.Quoted

/-!
# What the log tells of a chain

The printed form of a chain says where each of its parts ends, whatever the words of its
commands are made of: a word ends with its quote, a list with its bracket, and neither a word nor
a command begins with a bracket that closes. So no two chains are printed in the same way, and
two lines are logged in the same way just if they have the same words.

No line break stands in what is logged of a chain. What stands behind a line break in the log has
therefore not come out of a chain.
-/

namespace CommandChains

open Text (SelfDelimiting)

/-- A list between brackets with an item in it: the first item, and the others each with a comma
in front. -/
theorem bracketed_cons (item : List Char) (items : List (List Char)) :
    bracketed (item :: items) =
      '[' :: (item ++ (items.flatMap (fun other => ',' :: ' ' :: other) ++ [']'])) := by
  induction items generalizing item with
  | nil => simp [bracketed]
  | cons next rest ih =>
    have shorter : [',', ' '].intercalate (next :: rest) ++ [']'] =
        next ++ (rest.flatMap (fun other => ',' :: ' ' :: other) ++ [']']) :=
      (List.cons.inj (ih next)).2
    simp only [bracketed, List.intercalate_cons_cons, List.cons_append, List.append_assoc,
      List.nil_append, List.flatMap_cons, shorter]

/-- A list between brackets says where it ends, if its items do and none begins with the bracket
that closes it. -/
theorem selfDelimiting_bracketed {α : Type} {print : α → List Char} (h : SelfDelimiting print)
    (begins : ∀ a, ∃ c rest, print a = c :: rest ∧ c ≠ ']') :
    SelfDelimiting fun items : List α => bracketed (items.map print) := by
  have more : SelfDelimiting fun items : List α => items.flatMap ([',', ' '] ++ print ·) ++ [']'] :=
    (h.labelled [',', ' ']).upTo fun a => ⟨',', _, rfl, by decide⟩
  -- A list without items closes where a list with items has the first one.
  have open_ : ∀ a s t, ']' :: s ≠ print a ++ t := by
    intro a s t same
    obtain ⟨c, rest, form, other⟩ := begins a
    rw [form] at same
    exact other (List.cons.inj same).1.symm
  intro items items' s t same
  cases items with
  | nil =>
    cases items' with
    | nil => exact ⟨rfl, List.append_cancel_left same⟩
    | cons b others =>
      simp only [List.map_cons, bracketed_cons, List.cons_append, List.append_assoc] at same
      exact absurd (List.cons.inj same).2 (open_ b _ _)
  | cons a rest =>
    cases items' with
    | nil =>
      simp only [List.map_cons, bracketed_cons, List.cons_append, List.append_assoc] at same
      exact absurd (List.cons.inj same).2.symm (open_ a _ _)
    | cons b others =>
      simp only [List.map_cons, bracketed_cons, List.flatMap_map, List.cons_append] at same
      have forms := (List.cons.inj same).2
      rw [List.append_assoc (print a), List.append_assoc (print b)] at forms
      obtain ⟨rfl, behind⟩ := h a b _ _ forms
      obtain ⟨rfl, rest⟩ := more rest others s t behind
      exact ⟨rfl, rest⟩

/-- No line break stands in a list between brackets, if none stands in an item. -/
theorem newline_not_mem_bracketed {items : List (List Char)} (plain : ∀ item ∈ items, '\n' ∉ item) :
    '\n' ∉ bracketed items := by
  cases items with
  | nil => decide
  | cons item rest =>
    rw [List.forall_mem_cons] at plain
    simpa [bracketed_cons, plain.1] using plain.2

/-- The letter that the name of a delimiter begins with. -/
def Delimiter.initial : Option Delimiter → Char
  | none => 'N'
  | some sequential => 'S'
  | some concurrent => 'C'

theorem Delimiter.printed_eq_cons (d : Option Delimiter) :
    ∃ rest, printed d = initial d :: rest := by
  rcases d with _ | _ | _
  · exact ⟨_, String.toList_ofList⟩
  · exact ⟨_, String.toList_ofList⟩
  · exact ⟨_, String.toList_ofList⟩

theorem Delimiter.initial_injective : Function.Injective initial := by
  rintro (_ | _ | _) (_ | _ | _) same <;> first | rfl | cases same

/-- What closes a command can be told from its name. -/
theorem Delimiter.selfDelimiting_printed : SelfDelimiting Delimiter.printed := by
  intro a b s t same
  obtain ⟨rest, form⟩ := printed_eq_cons a
  obtain ⟨rest', form'⟩ := printed_eq_cons b
  have letters : initial a = initial b := by
    rw [form, form'] at same
    exact (List.cons.inj same).1
  cases initial_injective letters
  exact ⟨rfl, List.append_cancel_left same⟩

theorem Delimiter.newline_not_mem_printed (d : Option Delimiter) : '\n' ∉ printed d := by
  rcases d with _ | _ | _
  · show '\n' ∉ "None".toList
    simp
  · show '\n' ∉ "Sequential".toList
    simp
  · show '\n' ∉ "Concurrent".toList
    simp

namespace Command

theorem selfDelimiting_printedWords : SelfDelimiting printedWords := by
  apply selfDelimiting_bracketed
  · exact Text.selfDelimiting_quoteChars.comap fun _ _ same => String.toList_inj.1 same
  · exact fun word => ⟨'"', _, rfl, by decide⟩

theorem newline_not_mem_printedWords (argv : List String) : '\n' ∉ printedWords argv := by
  apply newline_not_mem_bracketed
  intro item mem
  obtain ⟨word, -, rfl⟩ := List.mem_map.1 mem
  exact Text.newline_not_mem_quoteChars word.toList

/-- The words of a command and what closes it can be told from its printed form. -/
theorem selfDelimiting_printed : SelfDelimiting Command.printed := by
  have parts : ∀ c d : Command, c.argv = d.argv → c.closedBy = d.closedBy → c = d := by
    rintro ⟨_, _⟩ ⟨_, _⟩ rfl rfl
    rfl
  exact (((selfDelimiting_printedWords.labelled _).closed _).both
    Delimiter.selfDelimiting_printed parts).closed _

/-- The printed form of a command begins with its name. -/
theorem printed_begins (c : Command) : ∃ first rest, c.printed = first :: rest ∧ first ≠ ']' := by
  obtain ⟨rest, label⟩ : ∃ rest, "ParsedCommand \x7b argv: ".toList = 'P' :: rest :=
    ⟨_, String.toList_ofList⟩
  unfold Command.printed
  rw [label]
  exact ⟨'P', _, rfl, by decide⟩

theorem newline_not_mem_printed (c : Command) : '\n' ∉ c.printed := by
  have words := newline_not_mem_printedWords c.argv
  have closing := Delimiter.newline_not_mem_printed c.closedBy
  unfold Command.printed
  simp [words, closing]

end Command

namespace Chain

theorem selfDelimiting_printedChars : SelfDelimiting printedChars := by
  have commands : Function.Injective commands := by
    rintro ⟨_⟩ ⟨_⟩ rfl
    rfl
  exact (((selfDelimiting_bracketed Command.selfDelimiting_printed Command.printed_begins).comap
    commands).labelled _).closed _

theorem newline_not_mem_printedChars (chain : Chain) : '\n' ∉ chain.printedChars := by
  have commands : '\n' ∉ bracketed (chain.commands.map Command.printed) := by
    apply newline_not_mem_bracketed
    intro item mem
    obtain ⟨c, -, rfl⟩ := List.mem_map.1 mem
    exact c.newline_not_mem_printed
  unfold printedChars
  simp [commands]

theorem printed_injective : Function.Injective printed := by
  intro a b same
  exact selfDelimiting_printedChars.injective (String.ofList_injective same)

/-- What stands in the log of a chain: its printed form, behind a label. -/
theorem line_parsed (chain : Chain) :
    (Log.Record.parsed chain).line =
      "DEBUG chain_shell::parser: parsed command line chain=" ++ chain.printed := by
  have width : "DEBUG".length = 5 := rfl
  simp [Log.Record.line, Log.Record.level, Log.Level.name, Log.Record.module, Log.Record.message,
    Log.Record.fields, width, ← String.append_assoc]

theorem line_parsed_injective : Function.Injective fun chain => (Log.Record.parsed chain).line := by
  intro a b same
  simp only [line_parsed] at same
  exact printed_injective (String.append_right_inj _ |>.1 same)

/-- What is logged when a line is read: the chain of its words, and nothing else. -/
theorem log_of_read {S ε : Type} (line : String) (s : S) :
    ((read line : Activity S ε Chain) s).journal.records = [.parsed (ofLine line)] :=
  rfl

/-- Lines with the same chain are those with the same words. -/
theorem ofLine_eq_iff {line line' : String} :
    ofLine line = ofLine line' ↔ Text.wordsOf line = Text.wordsOf line' := by
  constructor
  · intro same
    rw [← toWords_ofWords (Text.wordsOf line), ← toWords_ofWords (Text.wordsOf line')]
    exact congrArg toWords same
  · exact congrArg ofWords

/-- The log tells chains apart. No two chains have the same printed form, whatever their words are
made of, and what is logged of a chain takes one line of the log, which no other chain has. The
same is logged when two lines are read just if they have the same words. -/
theorem log_tells_chains_apart {S ε : Type} :
    (∀ a b : Chain, a.printed = b.printed ↔ a = b) ∧
    (∀ a b : Chain, (Log.Record.parsed a).line = (Log.Record.parsed b).line ↔ a = b) ∧
    (∀ a : Chain, '\n' ∉ (Log.Record.parsed a).line.toList) ∧
    (∀ (line line' : String) (s s' : S),
      ((read line : Activity S ε Chain) s).journal.records.map Log.Record.line =
          ((read line' : Activity S ε Chain) s').journal.records.map Log.Record.line ↔
        Text.wordsOf line = Text.wordsOf line') := by
  refine ⟨fun a b => printed_injective.eq_iff, fun a b => line_parsed_injective.eq_iff,
    fun a => ?_, fun line line' s s' => ?_⟩
  · have plain := a.newline_not_mem_printedChars
    rw [line_parsed]
    simp [printed, plain]
  · rw [log_of_read, log_of_read, List.map_singleton, List.map_singleton, List.singleton_inj,
      ← ofLine_eq_iff]
    exact line_parsed_injective.eq_iff

end Chain

end CommandChains
