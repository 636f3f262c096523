import CommandChains.Proofs.Chain.Words
import CommandChains.Proofs.Segments

/-!
# What a chain says about its words

The commands of a chain that are run can be found in the words themselves, without reading
them one after the other. A stretch is a longest run of words that are no delimiters: on
either side of it stands a delimiter, or nothing. `Chain.IsStretch` says by places which
stretches some words have. They are the commands that are run, in order, and what
stands right behind a stretch is the delimiter of its command.

That nothing is run, and that the chain is left in the background, can be read off the words
as well.
-/

namespace CommandChains

namespace Chain

variable {words argv rest : List String} {d : Delimiter}

/-! ## Places -/

/-- The delimiter at a place of some words, if one stands there. -/
def delimiterAt (words : List String) (place : Nat) : Option Delimiter :=
  words[place]?.bind Delimiter.ofWord?

/-- The words from one place up to another are a longest run of words that are no
delimiters. -/
structure IsStretch (words : List String) (first past : Nat) : Prop where
  nonempty : first < past
  within_ : past ≤ words.length
  plain : ∀ place, first ≤ place → place < past → delimiterAt words place = none
  front : first = 0 ∨ delimiterAt words (first - 1) ≠ none
  /-- Behind it stands a delimiter, or nothing. -/
  behind : past = words.length ∨ delimiterAt words past ≠ none

/-- The words from one place up to another, with the delimiter that stands behind them. -/
def commandAt (words : List String) (stretch : Nat × Nat) : Command :=
  ⟨(words.take stretch.2).drop stretch.1, delimiterAt words stretch.2⟩

theorem delimiterAt_of_plain (plain : ∀ word ∈ argv, Delimiter.ofWord? word = none)
    (place : Nat) : delimiterAt argv place = none := by
  rw [delimiterAt, Option.bind_eq_none_iff]
  exact fun word found => plain word (List.mem_of_getElem? found)

section

variable (plain : ∀ word ∈ argv, Delimiter.ofWord? word = none) (d : Delimiter)
variable (rest : List String)

include plain in
theorem delimiterAt_of_lt {place : Nat} (before : place < argv.length) :
    delimiterAt (argv ++ d.word :: rest) place = none := by
  rw [delimiterAt, List.getElem?_append_left before]
  exact delimiterAt_of_plain plain place

theorem delimiterAt_length (argv : List String) :
    delimiterAt (argv ++ d.word :: rest) argv.length = some d := by
  simp [delimiterAt]

theorem delimiterAt_behind (argv : List String) (place : Nat) :
    delimiterAt (argv ++ d.word :: rest) (argv.length + 1 + place) = delimiterAt rest place := by
  rw [delimiterAt, List.getElem?_append_right (by omega),
    show argv.length + 1 + place - argv.length = place + 1 by omega, List.getElem?_cons_succ,
    delimiterAt]

/-- Words without a delimiter are one stretch, if there are any. -/
theorem isStretch_of_plain (plain : ∀ word ∈ argv, Delimiter.ofWord? word = none)
    {first past : Nat} :
    IsStretch argv first past ↔ first = 0 ∧ past = argv.length ∧ argv ≠ [] := by
  have none_ := delimiterAt_of_plain plain
  constructor
  · rintro ⟨nonempty, within_, _, front, behind⟩
    refine ⟨front.resolve_right fun h => h (none_ _), behind.resolve_right fun h => h (none_ _), ?_⟩
    rintro rfl
    simp only [List.length_nil, Nat.le_zero_eq] at within_
    omega
  · rintro ⟨rfl, rfl, some_⟩
    exact ⟨List.length_pos_iff.2 some_, Nat.le_refl _, fun place _ _ => none_ place, .inl rfl,
      .inl rfl⟩

/-- What stands in front of a delimiter makes no difference to the stretches behind it. -/
theorem isStretch_behind (argv : List String) {first past : Nat} :
    IsStretch (argv ++ d.word :: rest) (argv.length + 1 + first) (argv.length + 1 + past) ↔
      IsStretch rest first past := by
  have here := delimiterAt_length d rest argv
  have later := delimiterAt_behind d rest argv
  have size : (argv ++ d.word :: rest).length = argv.length + 1 + rest.length := by
    simp only [List.length_append, List.length_cons]
    omega
  constructor
  · rintro ⟨nonempty, within_, plain, front, behind⟩
    refine ⟨by omega, by omega, fun place above below => ?_, ?_, ?_⟩
    · rw [← later]
      exact plain _ (by omega) (by omega)
    · refine first.eq_zero_or_pos.imp_right fun positive => ?_
      rw [← later, ← Nat.add_sub_assoc positive]
      exact front.resolve_left (by omega)
    · rw [← later]
      exact behind.imp_left fun ended => by omega
  · rintro ⟨nonempty, within_, plain, front, behind⟩
    refine ⟨by omega, by omega, fun place above below => ?_, .inr ?_, ?_⟩
    · obtain ⟨n, rfl⟩ := Nat.exists_eq_add_of_le (show argv.length + 1 ≤ place by omega)
      rw [later]
      exact plain n (by omega) (by omega)
    · -- The first stretch may begin right behind the delimiter.
      cases first with
      | zero =>
        rw [Nat.add_zero, Nat.add_sub_cancel, here]
        exact Option.some_ne_none d
      | succ first =>
        rw [← Nat.add_assoc, Nat.add_sub_cancel, later]
        exact front.resolve_left first.succ_ne_zero
    · rw [later]
      exact behind.imp_left fun ended => by omega

include plain in
/-- In front of the first delimiter there is one stretch, if there are any words. -/
theorem isStretch_inFront {first past : Nat} (before : first ≤ argv.length) :
    IsStretch (argv ++ d.word :: rest) first past ↔
      first = 0 ∧ past = argv.length ∧ argv ≠ [] := by
  have inside {place : Nat} (before : place < argv.length) :=
    delimiterAt_of_lt plain d rest before
  have here := delimiterAt_length d rest argv
  have size : (argv ++ d.word :: rest).length = argv.length + 1 + rest.length := by
    simp only [List.length_append, List.length_cons]
    omega
  constructor
  · rintro ⟨nonempty, within_, without, front, behind⟩
    -- The stretch cannot go beyond the delimiter, and has no reason to end before it.
    have short : past ≤ argv.length := by
      refine Nat.le_of_not_lt fun long => ?_
      have none_ := without argv.length before long
      rw [here] at none_
      cases none_
    have ended : past = argv.length := by
      refine Nat.le_antisymm short (Nat.le_of_not_lt fun early => ?_)
      exact behind.resolve_left (by omega) (inside early)
    refine ⟨front.resolve_right fun h => h (inside (by omega)), ended, ?_⟩
    exact List.ne_nil_of_length_pos (by omega)
  · rintro ⟨rfl, rfl, some_⟩
    refine ⟨List.length_pos_iff.2 some_, by omega, fun place _ => inside, .inl rfl, .inr ?_⟩
    rw [here]
    exact Option.some_ne_none d

include plain in
/-- A stretch of words that have a delimiter is what stands in front of the first delimiter,
or a stretch of what stands behind it. -/
theorem isStretch_append_delimiter {first past : Nat} :
    IsStretch (argv ++ d.word :: rest) first past ↔
      (first = 0 ∧ past = argv.length ∧ argv ≠ []) ∨
        ∃ i j, IsStretch rest i j ∧ first = argv.length + 1 + i ∧ past = argv.length + 1 + j := by
  by_cases before : first ≤ argv.length
  · rw [isStretch_inFront plain d rest before]
    exact ⟨.inl, fun either => either.resolve_right fun ⟨i, j, _, beyond, _⟩ => by omega⟩
  · constructor
    · intro stretch
      have further := stretch.nonempty
      obtain ⟨i, rfl⟩ := Nat.exists_eq_add_of_le (show argv.length + 1 ≤ first by omega)
      obtain ⟨j, rfl⟩ := Nat.exists_eq_add_of_le (show argv.length + 1 ≤ past by omega)
      exact .inr ⟨i, j, (isStretch_behind d rest argv).1 stretch, rfl, rfl⟩
    · rintro (⟨rfl, _⟩ | ⟨i, j, stretch, rfl, rfl⟩)
      · exact absurd (Nat.zero_le _) before
      · exact (isStretch_behind d rest argv).2 stretch

end

/-! ## The stretches of some words, in order -/

structure AreStretches (words : List String) (stretches : List (Nat × Nat)) : Prop where
  ordered : stretches.Pairwise fun a b => a.1 < b.1
  mem_iff : ∀ first past, (first, past) ∈ stretches ↔ IsStretch words first past

/-- The stretch that some words without a delimiter make up, if there are any. -/
def opening (argv : List String) : List (Nat × Nat) :=
  if argv = [] then [] else [(0, argv.length)]

theorem mem_opening {first past : Nat} :
    (first, past) ∈ opening argv ↔ first = 0 ∧ past = argv.length ∧ argv ≠ [] := by
  unfold opening
  split <;> simp [*]

theorem ordered_opening (argv : List String) :
    (opening argv).Pairwise fun a b => a.1 < b.1 := by
  unfold opening
  split <;> simp

theorem areStretches_of_plain (plain : ∀ word ∈ argv, Delimiter.ofWord? word = none) :
    AreStretches argv (opening argv) :=
  ⟨ordered_opening argv, fun _ _ => mem_opening.trans (isStretch_of_plain plain).symm⟩

/-- A stretch behind the first delimiter, with its places counted from the beginning. -/
def beyond (argv : List String) (stretch : Nat × Nat) : Nat × Nat :=
  (argv.length + 1 + stretch.1, argv.length + 1 + stretch.2)

theorem AreStretches.append_delimiter (plain : ∀ word ∈ argv, Delimiter.ofWord? word = none)
    {stretches : List (Nat × Nat)} (later : AreStretches rest stretches) (d : Delimiter) :
    AreStretches (argv ++ d.word :: rest) (opening argv ++ stretches.map (beyond argv)) := by
  refine ⟨List.pairwise_append.2 ⟨ordered_opening argv, ?_, ?_⟩, fun first past => ?_⟩
  · refine List.pairwise_map.2 (later.ordered.imp fun before => ?_)
    simp only [beyond]
    omega
  · rintro ⟨first, past⟩ inFront _ mem
    obtain ⟨stretch, _, rfl⟩ := List.mem_map.1 mem
    simp only [beyond, (mem_opening.1 inFront).1]
    omega
  · rw [List.mem_append, mem_opening, isStretch_append_delimiter plain, List.mem_map]
    refine or_congr_right ⟨?_, ?_⟩
    · rintro ⟨⟨i, j⟩, mem, same⟩
      cases same
      exact ⟨i, j, (later.mem_iff i j).1 mem, rfl, rfl⟩
    · rintro ⟨i, j, stretch, rfl, rfl⟩
      exact ⟨(i, j), (later.mem_iff i j).2 stretch, rfl⟩

/-! ## The commands that are run -/

theorem commandAt_beyond (argv : List String) (d : Delimiter) (rest : List String)
    (stretch : Nat × Nat) :
    commandAt (argv ++ d.word :: rest) (beyond argv stretch) = commandAt rest stretch := by
  have cut : argv ++ d.word :: rest = (argv ++ [d.word]) ++ rest := by simp
  have size : argv.length + 1 = (argv ++ [d.word]).length := by simp
  simp only [commandAt, beyond, delimiterAt_behind]
  rw [cut, size, List.take_length_add_append, List.drop_length_add_append]

/-- Up to the first delimiter there is the command that it closes, if there are any words. -/
theorem map_commandAt_opening (argv behind : List String) :
    (opening argv).map (commandAt (argv ++ behind)) =
      dispatchable ⟨[⟨argv, behind.head?.bind Delimiter.ofWord?⟩]⟩ := by
  unfold opening
  split
  · next none_ => simp [none_, dispatchable, Command.isEmpty]
  · next some_ =>
    have next : (argv ++ behind)[argv.length]? = behind.head? := by
      rw [List.getElem?_append_right (Nat.le_refl _), Nat.sub_self, List.head?_eq_getElem?]
    simp [some_, dispatchable, Command.isEmpty, commandAt, delimiterAt, next]

/-- The commands that are run are the stretches of the words, each with the delimiter right
behind it. -/
theorem dispatchable_eq_stretches (words : List String) :
    ∃ stretches, AreStretches words stretches ∧
      (ofWords words).dispatchable = stretches.map (commandAt words) := by
  induction words using segment_induction fun word => (Delimiter.ofWord? word).isSome with
  | last argv plain =>
    have plain : ∀ word ∈ argv, Delimiter.ofWord? word = none := by simpa using plain
    refine ⟨opening argv, areStretches_of_plain plain, ?_⟩
    have commands := map_commandAt_opening argv []
    rw [List.append_nil] at commands
    rw [commands]
    by_cases none_ : argv = []
    · subst none_
      rfl
    · rw [ofWords, commandsOf_argv plain none_]
      rfl
  | cut argv word rest plain closing ih =>
    have plain : ∀ word ∈ argv, Delimiter.ofWord? word = none := by simpa using plain
    obtain ⟨d, found⟩ := Option.isSome_iff_exists.1 closing
    obtain rfl := Delimiter.ofWord?_eq_some_iff.1 found
    obtain ⟨stretches, later, commands⟩ := ih
    refine ⟨_, later.append_delimiter plain d, ?_⟩
    have read : ofWords (argv ++ d.word :: rest) = ⟨[⟨argv, some d⟩] ++ commandsOf rest⟩ := by
      rw [ofWords, commandsOf_append_delimiter, commandsOf_argv_delimiter plain]
    have others : stretches.map (commandAt (argv ++ d.word :: rest) ∘ beyond argv) =
        stretches.map (commandAt rest) :=
      List.map_congr_left fun stretch _ => commandAt_beyond argv d rest stretch
    calc (ofWords (argv ++ d.word :: rest)).dispatchable
      _ = dispatchable ⟨[⟨argv, some d⟩]⟩ ++ (ofWords rest).dispatchable := by
        rw [read, dispatchable_append, ofWords]
      _ = (opening argv ++ stretches.map (beyond argv)).map
          (commandAt (argv ++ d.word :: rest)) := by
        rw [List.map_append, map_commandAt_opening, List.map_map, others, ← commands,
          List.head?_cons, Option.bind_some, Delimiter.ofWord?_word]

/-- A command that is run has words, and none of them is a delimiter. -/
theorem argv_of_mem_dispatchable {c : Command} (mem : c ∈ (ofWords words).dispatchable) :
    c.argv ≠ [] ∧ ∀ word ∈ c.argv, Delimiter.ofWord? word = none := by
  have inside := (List.mem_filter.1 mem).1
  exact ⟨ne_nil_of_mem_dispatchable mem, (expressible_ofWords words).1 c inside⟩

theorem isNoop_iff_flatMap_argv (chain : Chain) :
    chain.isNoop = true ↔ chain.commands.flatMap Command.argv = [] := by
  simp [isNoop, Command.isEmpty]

/-! ## The end of the words -/

theorem closedBy_joinFirst {commands : List Command} (some_ : commands ≠ []) (word : String) :
    (joinFirst word commands).getLast?.bind Command.closedBy =
      commands.getLast?.bind Command.closedBy := by
  match commands, some_ with
  | [c], _ => rfl
  | c :: next :: others, _ => simp [joinFirst]

/-- The last word says what the last command is closed by. -/
theorem closedBy_getLast?_commandsOf (words : List String) :
    (commandsOf words).getLast?.bind Command.closedBy = words.getLast?.bind Delimiter.ofWord? := by
  induction words with
  | nil => rfl
  | cons word rest ih =>
    by_cases only : rest = []
    · subst only
      cases h : Delimiter.ofWord? word with
      | some d => simp [commandsOf_delimiter [] h, h]
      | none => simp [commandsOf_word [] h, joinFirst, h]
    · have some_ := commandsOf_ne_nil only
      obtain ⟨next, others, rfl⟩ := List.exists_cons_of_ne_nil only
      rw [List.getLast?_cons_cons, ← ih]
      cases h : Delimiter.ofWord? word with
      | some d =>
        obtain ⟨c, more, read⟩ := List.exists_cons_of_ne_nil some_
        rw [commandsOf_delimiter _ h, read, List.getLast?_cons_cons]
      | none => rw [commandsOf_word _ h, closedBy_joinFirst some_]

/-! ## Words and chain -/

/-- A word is no delimiter just if it is neither `;` nor `&`. -/
theorem ofWord?_eq_none_iff {word : String} :
    Delimiter.ofWord? word = none ↔ word ≠ ";" ∧ word ≠ "&" := by
  unfold Delimiter.ofWord?
  split
  · next same => simp [same]
  · split <;> simp [*]

/-- What a chain says about the words it is read from. It is left in the background just if
the last word is `&`, and there is nothing to run just if all words are `;` or `&`. The
commands that are run are the longest runs of words that are neither, in the order of their
places, each with the delimiter that stands right behind it, if one does. So each of them
has words, none of which is a delimiter, and together they have all the words that are
not. -/
theorem ofWords_tells_words (words : List String) :
    let chain := ofWords words
    (chain.endsInBackground = true ↔ words.getLast? = some "&") ∧
    (chain.isNoop = true ↔ ∀ word ∈ words, word = ";" ∨ word = "&") ∧
    (∃ stretches : List (Nat × Nat), (stretches.Pairwise fun a b => a.1 < b.1) ∧
      (∀ first past, (first, past) ∈ stretches ↔ IsStretch words first past) ∧
      chain.dispatchable = stretches.map fun s =>
        ⟨(words.take s.2).drop s.1, words[s.2]?.bind Delimiter.ofWord?⟩) ∧
    (∀ c ∈ chain.dispatchable, c.argv ≠ [] ∧ ∀ word ∈ c.argv, word ≠ ";" ∧ word ≠ "&") ∧
    chain.dispatchable.flatMap Command.argv =
      words.filter fun word => word ≠ ";" ∧ word ≠ "&" := by
  intro chain
  have kept : chain.dispatchable.flatMap Command.argv =
      words.filter fun word => word ≠ ";" ∧ word ≠ "&" := by
    rw [flatMap_argv_dispatchable, commands_ofWords, flatMap_argv_commandsOf]
    simp only [ofWord?_eq_none_iff]
  refine ⟨?_, ?_, ?_, fun c mem => ?_, kept⟩
  · rw [endsInBackground_eq, beq_iff_eq, closedBy, commands_ofWords, closedBy_getLast?_commandsOf,
      Option.bind_eq_some_iff]
    simp only [Delimiter.ofWord?_eq_some_iff, Delimiter.word, exists_eq_right]
  · rw [isNoop_iff_flatMap_argv, ← flatMap_argv_dispatchable, kept, List.filter_eq_nil_iff]
    refine forall₂_congr fun word _ => ?_
    rw [decide_eq_true_eq, Decidable.not_and_iff_not_or_not, Decidable.not_not, Decidable.not_not]
  · obtain ⟨stretches, are, commands⟩ := dispatchable_eq_stretches words
    exact ⟨stretches, are.ordered, are.mem_iff, commands⟩
  · obtain ⟨some_, plain⟩ := argv_of_mem_dispatchable mem
    exact ⟨some_, fun word inside => ofWord?_eq_none_iff.1 (plain word inside)⟩

end Chain

end CommandChains
