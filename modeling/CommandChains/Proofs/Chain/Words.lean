import CommandChains.Chain.Basic

/-!
# Reading chains and writing them

Every word is kept when a chain is read from words, so writing the chain gives the words
back. Reading gives the chain back just if the words can express it: then no word of a
command is taken for a delimiter, and no end of a command is lost.

A delimiter cuts the words of a chain. What stands behind it is read as if nothing stood
before it. The commands that are run are those that have words (`Chain.worded`), and they
have all the words that are no delimiters.
-/

namespace CommandChains

namespace Chain

variable {words argv : List String} {word : String} {d : Delimiter}
variable {c : Command} {commands : List Command}

/-- A word in front of some commands joins the first of them, whatever follows it. -/
theorem joinFirst_append (some_ : commands ≠ []) (word : String) (others : List Command) :
    joinFirst word (commands ++ others) = joinFirst word commands ++ others := by
  cases commands with
  | nil => exact absurd rfl some_
  | cons c rest => rfl

theorem commandsOf_ne_nil (some_ : words ≠ []) : commandsOf words ≠ [] := by
  intro none_
  have written := toWords_ofWords words
  rw [ofWords, none_] at written
  exact some_ written.symm

/-- A delimiter cuts the words of a chain in two. -/
theorem commandsOf_append_delimiter (front rest : List String) (d : Delimiter) :
    commandsOf (front ++ d.word :: rest) = commandsOf (front ++ [d.word]) ++ commandsOf rest := by
  induction front with
  | nil => simp only [List.nil_append, commandsOf_delimiter _ (Delimiter.ofWord?_word d),
      commandsOf_nil, List.singleton_append]
  | cons word more ih =>
    have some_ : commandsOf (more ++ [d.word]) ≠ [] := commandsOf_ne_nil (by simp)
    cases h : Delimiter.ofWord? word with
    | some e => simp only [List.cons_append, commandsOf_delimiter _ h, ih]
    | none => simp only [List.cons_append, commandsOf_word _ h, ih, joinFirst_append some_]

/-- Words that are no delimiters, and a delimiter behind them, are one command. -/
theorem commandsOf_argv_delimiter (plain : ∀ word ∈ argv, Delimiter.ofWord? word = none)
    (d : Delimiter) : commandsOf (argv ++ [d.word]) = [⟨argv, some d⟩] := by
  induction argv with
  | nil => exact commandsOf_delimiter [] (Delimiter.ofWord?_word d)
  | cons word more ih =>
    rw [List.forall_mem_cons] at plain
    rw [List.cons_append, commandsOf_word _ plain.1, ih plain.2]
    rfl

/-- Words that are no delimiters are one command, if there are any. -/
theorem commandsOf_argv (plain : ∀ word ∈ argv, Delimiter.ofWord? word = none)
    (some_ : argv ≠ []) : commandsOf argv = [⟨argv, none⟩] := by
  induction argv with
  | nil => exact absurd rfl some_
  | cons word more ih =>
    rw [List.forall_mem_cons] at plain
    rw [commandsOf_word _ plain.1]
    cases more with
    | nil => rfl
    | cons next others => rw [ih plain.2 (List.cons_ne_nil _ _)]; rfl

/-- What stands behind a delimiter, or at the beginning, is read by itself. -/
theorem commandsOf_append {front : List String}
    (closed : ∀ word ∈ front.getLast?, ∃ d : Delimiter, word = d.word) (rest : List String) :
    commandsOf (front ++ rest) = commandsOf front ++ commandsOf rest := by
  rcases List.eq_nil_or_concat front with rfl | ⟨before, word, rfl⟩
  · rfl
  · obtain ⟨d, rfl⟩ := closed word (by simp)
    rw [List.concat_eq_append, List.append_assoc, List.singleton_append,
      commandsOf_append_delimiter]

/-- A chain can be expressed if its first command can stand where it stands and the others
can be expressed. Only the last command may do without a delimiter, and then it has words. -/
theorem expressible_cons :
    Expressible ⟨c :: commands⟩ ↔
      (∀ word ∈ c.argv, Delimiter.ofWord? word = none) ∧
        (c.closedBy = none → c.argv ≠ [] ∧ commands = []) ∧ Expressible ⟨commands⟩ := by
  cases commands with
  | nil => by_cases open_ : c.closedBy = none <;> simp [Expressible, open_]
  | cons next others =>
    simp only [Expressible, List.forall_mem_cons, List.dropLast_cons_cons, List.getLast?_cons_cons,
      reduceCtorEq, and_false, imp_false]
    constructor
    · rintro ⟨⟨plain, allPlain⟩, ⟨closed, allClosed⟩, last⟩
      exact ⟨plain, closed, allPlain, allClosed, last⟩
    · rintro ⟨plain, closed, allPlain, allClosed, last⟩
      exact ⟨⟨plain, allPlain⟩, ⟨closed, allClosed⟩, last⟩

/-- What is read from words can be expressed in words. -/
theorem expressible_ofWords (words : List String) : (ofWords words).Expressible := by
  induction words with
  | nil => simp [Expressible, ofWords]
  | cons word rest ih =>
    rw [ofWords] at ih ⊢
    cases h : Delimiter.ofWord? word with
    | some d =>
      rw [commandsOf_delimiter rest h]
      exact expressible_cons.2 ⟨by simp, by simp, ih⟩
    | none =>
      rw [commandsOf_word rest h]
      cases read : commandsOf rest with
      | nil => exact expressible_cons.2 ⟨by simp [h], by simp, read ▸ ih⟩
      | cons c others =>
        rw [read] at ih
        obtain ⟨plain, last, others⟩ := expressible_cons.1 ih
        refine expressible_cons.2 ⟨?_, fun open_ => ⟨List.cons_ne_nil _ _, (last open_).2⟩, others⟩
        exact List.forall_mem_cons.2 ⟨h, plain⟩

/-- A chain that words can express is read back from the words it is written as. -/
theorem ofWords_toWords {chain : Chain} (expressible : chain.Expressible) :
    ofWords chain.toWords = chain := by
  obtain ⟨commands⟩ := chain
  simp only [ofWords, toWords, mk.injEq]
  induction commands with
  | nil => rfl
  | cons c rest ih =>
    obtain ⟨plain, last, others⟩ := expressible_cons.1 expressible
    obtain ⟨argv, closedBy⟩ := c
    rw [List.flatMap_cons]
    cases closedBy with
    | some d =>
      have written : Command.toWords ⟨argv, some d⟩ = argv ++ [d.word] := rfl
      rw [written, List.append_assoc, List.singleton_append, commandsOf_append_delimiter,
        commandsOf_argv_delimiter plain, ih others, List.singleton_append]
    | none =>
      obtain ⟨some_, rfl⟩ := last rfl
      have written : Command.toWords ⟨argv, none⟩ = argv := List.append_nil argv
      rw [written, List.flatMap_nil, List.append_nil, commandsOf_argv plain some_]

/-- Reading and writing are inverse to each other. Words that are exactly `;` or `&` are
delimiters and no others are. Whatever words a chain is read from, it is written as these
words. A chain is read back from the words it is written as just if words can express it,
and every chain that is read can be. -/
theorem ofWords_inverse_toWords :
    (∀ word d, Delimiter.ofWord? word = some d ↔
      word = ";" ∧ d = .sequential ∨ word = "&" ∧ d = .concurrent) ∧
    (∀ words, (ofWords words).toWords = words) ∧
    (∀ chain : Chain, ofWords chain.toWords = chain ↔ chain.Expressible) ∧
    ∀ words, (ofWords words).Expressible := by
  refine ⟨fun word d => ?_, toWords_ofWords, fun chain => ⟨fun read => ?_, ofWords_toWords⟩,
    expressible_ofWords⟩
  · rw [Delimiter.ofWord?_eq_some_iff]
    cases d <;> simp [Delimiter.word]
  · rw [← read]
    exact expressible_ofWords _

/-! ## The commands that are run -/

def worded (chain : Chain) : List Command :=
  chain.commands.filter fun c => c.argv ≠ []

/-- The delimiter that closes the last command of a chain, empty or not. -/
def closedBy (chain : Chain) : Option Delimiter :=
  chain.commands.getLast?.bind Command.closedBy

theorem dispatchable_eq_worded (chain : Chain) : chain.dispatchable = chain.worded := by
  refine List.filter_congr fun c _ => ?_
  cases argv : c.argv <;> simp [Command.isEmpty, argv]

theorem endsInBackground_eq (chain : Chain) :
    chain.endsInBackground = (chain.closedBy == some .concurrent) := by
  rw [endsInBackground, closedBy]
  cases chain.commands.getLast? <;> rfl

theorem ne_nil_of_mem_dispatchable {chain : Chain} {c : Command}
    (mem : c ∈ chain.dispatchable) : c.argv ≠ [] := by
  simpa [dispatchable, Command.isEmpty] using (List.mem_filter.1 mem).2

@[simp] theorem dispatchable_append (a b : List Command) :
    dispatchable ⟨a ++ b⟩ = dispatchable ⟨a⟩ ++ dispatchable ⟨b⟩ :=
  List.filter_append ..

theorem endsInBackground_append (a : List Command) {b : List Command} (some_ : b ≠ []) :
    endsInBackground ⟨a ++ b⟩ = endsInBackground ⟨b⟩ := by
  rw [endsInBackground, endsInBackground, List.getLast?_append, List.getLast?_eq_some_getLast some_,
    Option.some_or]

theorem commands_ofWords (words : List String) : (ofWords words).commands = commandsOf words :=
  rfl

theorem flatMap_argv_joinFirst (word : String) (commands : List Command) :
    (joinFirst word commands).flatMap Command.argv = word :: commands.flatMap Command.argv := by
  cases commands <;> rfl

/-- The commands of a chain have all its words that are no delimiters. -/
theorem flatMap_argv_commandsOf (words : List String) :
    (commandsOf words).flatMap Command.argv =
      words.filter fun word => Delimiter.ofWord? word = none := by
  induction words with
  | nil => rfl
  | cons word rest ih =>
    cases h : Delimiter.ofWord? word with
    | some d => rw [commandsOf_delimiter rest h, List.flatMap_cons, ih]; simp [h]
    | none => rw [commandsOf_word rest h, flatMap_argv_joinFirst, ih]; simp [h]

/-- Nothing is lost with the commands that are not run. -/
theorem flatMap_argv_dispatchable (chain : Chain) :
    chain.dispatchable.flatMap Command.argv = chain.commands.flatMap Command.argv := by
  obtain ⟨commands⟩ := chain
  simp only [dispatchable]
  induction commands with
  | nil => rfl
  | cons c rest ih =>
    rw [List.filter_cons, List.flatMap_cons, ← ih]
    split
    · rw [List.flatMap_cons]
    · next empty =>
      have none_ : c.argv = [] := by simpa [Command.isEmpty] using empty
      rw [none_, List.nil_append]

/-- A word that is no delimiter belongs to a command that is run. -/
theorem dispatchable_ne_nil (some_ : ∃ word ∈ words, Delimiter.ofWord? word = none) :
    (ofWords words).dispatchable ≠ [] := by
  intro none_
  have kept := flatMap_argv_dispatchable (ofWords words)
  rw [none_, commands_ofWords, flatMap_argv_commandsOf] at kept
  obtain ⟨word, mem, plain⟩ := some_
  exact List.ne_nil_of_mem (List.mem_filter.2 ⟨mem, decide_eq_true plain⟩) kept.symm

end Chain

end CommandChains
