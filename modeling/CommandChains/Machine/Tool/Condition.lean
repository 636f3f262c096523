import CommandChains.Machine.Tool.Basic

/-!
# Conditions

A tool that finds out whether a condition holds and says so by its status. Conditions
are about texts, whole numbers and files; they can be denied, put in parentheses and
combined. What few words mean is settled by how many there are.
-/

namespace CommandChains.Machine.Tool

inductive UnaryTest where
  | filled
  | blank
  | file (letter : Char)
  /-- Whether a number means a terminal, which none does. -/
  | terminal
  deriving DecidableEq, Repr

inductive FileOrder where
  | same
  | newer
  | older
  deriving DecidableEq, Repr

inductive BinaryTest where
  | texts (holds : Octets → Octets → Bool)
  | numbers (holds : Int → Int → Bool)
  | files (order : FileOrder)

inductive ConditionMistake where
  | missing
  | extra (word : Octets)
  | notNumber (word : Octets)
  | notUnary (word : Octets)
  | notBinary (word : Octets)
  /-- A parenthesis has to be closed, and perhaps something else is there. -/
  | parenthesis (found : Option Octets)
  deriving DecidableEq, Repr

def ConditionMistake.message (words : List Octets) : ConditionMistake → Octets
  | missing => "missing argument after ".toList ++ Octets.quoted (words.getLastD [])
  | extra word => "extra argument ".toList ++ Octets.quoted word
  | notNumber word => "invalid integer ".toList ++ Octets.quoted word
  | notUnary word => Octets.quoted word ++ ": unary operator expected".toList
  | notBinary word => Octets.quoted word ++ ": binary operator expected".toList
  | parenthesis none => "')' expected".toList
  | parenthesis (some word) => "')' expected, found ".toList ++ Octets.quoted word

namespace Condition

def unary? : Octets → Option UnaryTest
  | ['-', 'n'] => some .filled
  | ['-', 'z'] => some .blank
  | ['-', 't'] => some .terminal
  | ['-', letter] => if "ebcdfghkLNOGprsSuwx".contains letter then some (.file letter) else none
  | _ => none

/-- The conditions on two words. Texts may be compared by their order if `ordered` says
so. -/
def binary? (ordered : Bool) (word : Octets) : Option BinaryTest :=
  match String.ofList word, ordered with
  | "=", _ | "==", _ => some (.texts fun a b => a == b)
  | "!=", _ => some (.texts fun a b => a != b)
  | "<", true => some (.texts fun a b => !Octets.atMost b a)
  | ">", true => some (.texts fun a b => !Octets.atMost a b)
  | "-eq", _ => some (.numbers fun a b => a == b)
  | "-ne", _ => some (.numbers fun a b => a != b)
  | "-lt", _ => some (.numbers fun a b => decide (a < b))
  | "-le", _ => some (.numbers fun a b => decide (a ≤ b))
  | "-gt", _ => some (.numbers fun a b => decide (b < a))
  | "-ge", _ => some (.numbers fun a b => decide (b ≤ a))
  | "-ef", _ => some (.files .same)
  | "-nt", _ => some (.files .newer)
  | "-ot", _ => some (.files .older)
  | _, _ => none

def number? (word : Octets) : Option Int :=
  Octets.integer? ((word.dropWhile Octets.isSpace).reverse.dropWhile Octets.isSpace).reverse

def number (word : Octets) : Except ConditionMistake Int :=
  match number? word with
  | some n => .ok n
  | none => .error (.notNumber word)

def hasBits (n bits : Nat) : Bool := Nat.land n bits != 0

def holdsForFile (files : Files) (letter : Char) (path : Octets) : Bool :=
  match Task.namedStream? path, files.node path with
  | some number, _ => decide (number ≤ 2) && "erwpOG".contains letter
  | none, node =>
    if letter = 'L' ∨ letter = 'h' then
      (files.placeOfLink path).toOption.any fun place => place.node.isLink
    else
      node.toOption.any fun node =>
        let mode := files.modeOf node
        match letter with
        | 'e' | 'r' | 'w' | 'O' | 'G' => true
        | 'd' => node.isDirectory
        | 'f' =>
          match node with
          | .data _ | .file _ | .program _ => true
          | _ => false
        | 's' =>
          match node with
          | .file _ => !(files.textOf node).isEmpty
          | .device _ => false
          | _ => true
        | 'x' => node.isDirectory || (hasBits mode 73 && !node.isDevice)
        | 'c' => node.isDevice && !node.isPipe
        | 'p' => node.isPipe
        | 'k' => hasBits mode 512
        | 'g' => hasBits mode 1024
        | 'u' => hasBits mode 2048
        | _ => false

def compareFiles (files : Files) (order : FileOrder) (a b : Octets) : Bool :=
  let first := (files.place a).toOption
  let second := (files.place b).toOption
  let stamp (place : FileTree.Place) : Int := files.stampOf place.node
  match order, first, second with
  | .same, some p, some q =>
    match p.node, q.node with
    | .file m, .file n => m == n
    | _, _ => p.steps == q.steps
  | .newer, some p, some q => decide (stamp q < stamp p)
  | .newer, some _, none => true
  | .older, some p, some q => decide (stamp p < stamp q)
  | .older, none, some _ => true
  | _, _, _ => false

def holdsFor (files : Files) (test : UnaryTest) (word : Octets) :
    Except ConditionMistake Bool :=
  match test with
  | .filled => .ok (!word.isEmpty)
  | .blank => .ok word.isEmpty
  | .file letter => .ok (holdsForFile files letter word)
  | .terminal => (number word).map fun _ => false

def holdsBetween (files : Files) (test : BinaryTest) (a b : Octets) :
    Except ConditionMistake Bool :=
  match test with
  | .texts holds => .ok (holds a b)
  | .numbers holds => do
    let m ← number a
    let n ← number b
    pure (holds m n)
  | .files order => .ok (compareFiles files order a b)

inductive Goal where
  | counted (size : Nat)
  | either
  | both
  | single
  deriving DecidableEq, Repr

abbrev Reading := Except ConditionMistake (Bool × List Octets)

def deny (reading : Reading) : Reading := reading.map fun (holds, rest) => (!holds, rest)

/-- How conditions are read: where the files are, and whether texts can be compared by their
order. -/
structure Manner where
  files : Files
  ordered : Bool := false

def readUnary (how : Manner) : List Octets → Reading
  | [] => .error .missing
  | word :: rest =>
    match unary? word, rest with
    | none, _ => .error (.notUnary word)
    | some _, [] => .error .missing
    | some test, operand :: rest => (holdsFor how.files test operand).map (·, rest)

def isDashed : Octets → Bool
  | ['-', _] => true
  | _ => false

def readTwo (how : Manner) : List Octets → Reading
  | first :: second :: rest =>
    if first = ['!'] then .ok (second.isEmpty, rest)
    else if isDashed first then readUnary how (first :: second :: rest)
    else .error .missing
  | _ => .error .missing

/-- Reads a condition on two words, where the length of one may be meant. -/
def readBinary (how : Manner) (words : List Octets) : Reading :=
  let sized (word : Octets) : Octets := Octets.ofNat word.length
  let (left, words) := match words with
    | ['-', 'l'] :: word :: operator :: rest =>
      if (binary? how.ordered operator).isSome then (sized word, operator :: rest)
      else (['-', 'l'], word :: operator :: rest)
    | word :: rest => (word, rest)
    | [] => ([], [])
  match words with
  | operator :: ['-', 'l'] :: word :: rest =>
    match binary? how.ordered operator with
    | some test => (holdsBetween how.files test left (sized word)).map (·, rest)
    | none => .error (.notBinary operator)
  | operator :: right :: rest =>
    match binary? how.ordered operator with
    | some test => (holdsBetween how.files test left right).map (·, rest)
    | none => .error (.notBinary operator)
  | _ => .error .missing

/-- How many of some words stand between parentheses, the first of which is closed by one
of a few words or by the last one. -/
def enclosed (words : List Octets) : Nat :=
  match (words.drop 1).findIdx? (· = [')']) with
  | some place => if place < 4 then place + 1 else words.length
  | none => words.length

def read (how : Manner) : Nat → Goal → List Octets → Reading
  | 0, _, words => .ok (false, words)
  | steps + 1, .either, words =>
    match read how steps .both words with
    | .ok (first, ['-', 'o'] :: rest) =>
      (read how steps .either rest).map fun (second, rest) => (first || second, rest)
    | answer => answer
  | steps + 1, .both, words =>
    match read how steps .single words with
    | .ok (first, ['-', 'a'] :: rest) =>
      (read how steps .both rest).map fun (second, rest) => (first && second, rest)
    | answer => answer
  | steps + 1, .single, words =>
    let isOperator (place : Nat) : Bool :=
      decide (place + 1 < words.length) && (binary? how.ordered (words.getD place [])).isSome
    match words with
    | [] => .error .missing
    | ['!'] :: rest => deny (read how steps .single rest)
    | ['('] :: rest =>
      if rest.isEmpty then .error .missing
      else
        match read how steps (.counted (enclosed rest)) rest with
        | .error mistake => .error mistake
        | .ok (holds, [')'] :: rest) => .ok (holds, rest)
        | .ok (_, rest) => .error (.parenthesis rest.head?)
    | word :: rest =>
      if (word = ['-', 'l'] && isOperator 2) || isOperator 1 then readBinary how words
      else if isDashed word then readUnary how words
      else .ok (!word.isEmpty, rest)
  | steps + 1, .counted size, words =>
    match size, words with
    | 1, word :: rest => .ok (!word.isEmpty, rest)
    | 2, words => readTwo how words
    | 3, first :: second :: third :: rest =>
      if (binary? how.ordered second).isSome then readBinary how words
      else if first = ['!'] then deny (readTwo how (second :: third :: rest))
      else if first = ['('] ∧ third = [')'] then .ok (!second.isEmpty, rest)
      else if second = ['-', 'a'] ∨ second = ['-', 'o'] then read how steps .either words
      else .error (.notBinary second)
    | 4, ['!'] :: rest => deny (read how steps (.counted 3) rest)
    | 4, ['('] :: first :: second :: [')'] :: rest =>
      (readTwo how [first, second]).map fun (holds, _) => (holds, rest)
    | _, words => read how steps .either words

def holds (how : Manner) (words : List Octets) : Except ConditionMistake Bool :=
  if words.isEmpty then .ok false
  else
    match read how (5 * words.length + 5) (.counted words.length) words with
    | .error mistake => .error mistake
    | .ok (holds, []) => .ok holds
    | .ok (_, word :: _) => .error (.extra word)

end Condition

/-- Finds out whether a condition holds, which has to be closed by a bracket if the tool
is called by one. -/
def condition (bracket : Bool) : Tool := fun t =>
  let closed := t.arguments.getLast? == some [']']
  let words := if bracket then t.arguments.dropLast else t.arguments
  if bracket && ["--help".toList, "--version".toList].any (t.arguments == [·]) then t.prints []
  else if bracket && !closed then t.fails "missing ']'".toList 2
  else
    match Condition.holds { files := t.files } words with
    | .ok holds => { left := some t.input, status := if holds then 0 else 1 }
    | .error mistake => t.fails (mistake.message words) 2

end CommandChains.Machine.Tool
