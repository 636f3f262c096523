import CommandChains.Machine.Tool.Condition
import CommandChains.Machine.Shell.Builtin.Basic
import CommandChains.Machine.Shell.Printing

/-!
# Conditions of the small shell

The small shell finds out by itself whether conditions hold, and reads them in a way of
its own. Every word is a value or a sign; a sign for a condition on one word counts as
a value if nothing is behind it that it can be about. What is left over in the end is
a mistake.
-/

namespace CommandChains.Machine.Shell

namespace Condition

open Tool (UnaryTest BinaryTest)

inductive Mistake where
  | missing (sign : Octets)
  | unexpected (word : Octets)
  | openParenthesis
  | notNumber (word : Octets)
  deriving DecidableEq, Repr

def Mistake.message : Mistake → Octets
  | missing sign => sign ++ ": argument expected".toList
  | unexpected word =>
    (if word.isEmpty then [] else word ++ ": ".toList) ++ "unexpected operator".toList
  | openParenthesis => "closing paren expected".toList
  | notNumber word => "Illegal number: ".toList ++ word

inductive Sign where
  | nothing
  | value
  | unary (test : UnaryTest)
  | binary (test : BinaryTest)
  | not
  | both
  | either
  | opening
  | closing

def unary? (word : Octets) : Option UnaryTest :=
  if word = ['-', 'N'] then none else Tool.Condition.unary? word

def binary? (word : Octets) : Option BinaryTest :=
  if word = ['=', '='] then none else Tool.Condition.binary? true word

def signOf : List Octets → Sign
  | [] => .nothing
  | word :: rest =>
    let isValue := match rest with
      | [] => true
      | [_] => false
      | next :: _ => (binary? next).isSome
    match unary? word, binary? word, String.ofList word with
    | some test, _, _ => if isValue then .value else .unary test
    | none, some test, _ => .binary test
    | none, none, "!" => .not
    | none, none, "-a" => .both
    | none, none, "-o" => .either
    | none, none, "(" => if rest.isEmpty then .value else .opening
    | none, none, ")" => .closing
    | _, _, _ => .value

def number (word : Octets) : Except Mistake Int :=
  match Tool.Condition.number? word with
  | some n =>
    if -9223372036854775808 ≤ n ∧ n ≤ 9223372036854775807 then .ok n
    else .error (.notNumber word)
  | none => .error (.notNumber word)

def holdsFor (files : Files) (test : UnaryTest) (word : Octets) : Except Mistake Bool :=
  match test with
  | .terminal => (number word).map fun _ => false
  | test =>
    match Tool.Condition.holdsFor files test word with
    | .ok holds => .ok holds
    | .error _ => .error (.notNumber word)

/-- Whether a condition on two words holds. Of two files of which one is not there none is
older. -/
def holdsBetween (files : Files) (test : BinaryTest) (a b : Octets) : Except Mistake Bool :=
  match test with
  | .numbers holds => do
    let m ← number a
    let n ← number b
    pure (holds m n)
  | .files order =>
    .ok (files.has a && files.has b && Tool.Condition.compareFiles files order a b)
  | test =>
    match Tool.Condition.holdsBetween files test a b with
    | .ok holds => .ok holds
    | .error _ => .error (.unexpected a)

/-- What was read, and the words from the last one of it on. -/
abbrev Reading := Except Mistake (Bool × List Octets)

/-- How much is read: conditions of which one has to hold, or all, or a single one. -/
inductive Level where
  | either
  | both
  | denied
  | single
  deriving DecidableEq, Repr

/-- Reads a condition from a word on that is such a sign, in at most so many steps. -/
def read (files : Files) : Nat → Level → Sign → List Octets → Reading
  | 0, _, _, words => .ok (false, words)
  | steps + 1, .either, sign, words =>
    match read files steps .both sign words with
    | .error mistake => .error mistake
    | .ok (first, words) =>
      match signOf (words.drop 1) with
      | .either =>
        (read files steps .either (signOf (words.drop 2)) (words.drop 2)).map fun (second, words) =>
          (first || second, words)
      | _ => .ok (first, words)
  | steps + 1, .both, sign, words =>
    match read files steps .denied sign words with
    | .error mistake => .error mistake
    | .ok (first, words) =>
      match signOf (words.drop 1) with
      | .both =>
        (read files steps .both (signOf (words.drop 2)) (words.drop 2)).map fun (second, words) =>
          (first && second, words)
      | _ => .ok (first, words)
  | steps + 1, .denied, .not, words =>
    let rest := words.drop 1
    (read files steps .denied (signOf rest) (if rest.isEmpty then words else rest)).map
      fun (holds, words) => (!holds, words)
  | steps + 1, .denied, sign, words => read files steps .single sign words
  | steps + 1, .single, sign, words =>
    let rest := words.drop 1
    match sign with
    | .nothing => .ok (false, words)
    | .opening =>
      match signOf rest with
      | .closing => .ok (false, rest)
      | inner =>
        match read files steps .either inner rest with
        | .error mistake => .error mistake
        | .ok (holds, words) =>
          match signOf (words.drop 1) with
          | .closing => .ok (holds, words.drop 1)
          | _ => .error .openParenthesis
    | .unary test =>
      match rest with
      | [] => .error (.missing (words.headD []))
      | word :: _ => (holdsFor files test word).map (·, rest)
    | _ =>
      match signOf rest with
      | .binary test =>
        match rest with
        | _ :: right :: after =>
          (holdsBetween files test (words.headD []) right).map (·, right :: after)
        | _ => .error (.missing (rest.headD []))
      | _ => .ok (!(words.headD []).isEmpty, words)

/-- Whether all of some words make a condition that holds, where the first one is such a
sign. -/
def readAll (files : Files) (sign : Sign) (words : List Octets) : Except Mistake Bool :=
  match read files (4 * words.length + 8) .either sign words with
  | .error mistake => .error mistake
  | .ok (_, last :: _ :: _) => .error (.unexpected last)
  | .ok (holds, _) => .ok holds

def holds (files : Files) : List Octets → Except Mistake Bool
  | [] => .ok false
  | [first, second, third] =>
    match binary? second with
    | some _ => readAll files .value [first, second, third]
    | none =>
      if first = ['('] ∧ third = [')'] then readAll files (signOf [second]) [second]
      else if first = ['!'] then
        (readAll files (signOf [second, third]) [second, third]).map not
      else readAll files (signOf [first, second, third]) [first, second, third]
  | [first, second, third, fourth] =>
    if first = ['('] ∧ fourth = [')'] then
      readAll files (signOf [second, third]) [second, third]
    else if first = ['!'] then (holds files [second, third, fourth]).map not
    else readAll files (signOf [first, second, third, fourth]) [first, second, third, fourth]
  | words => readAll files (signOf words) words

end Condition

/-!
## Commands that print and test

The commands of the shell that print their arguments, and those that find out whether a
condition holds.
-/

namespace Builtin

/-- Prints its arguments. The small shell reads escapes in any case. -/
def echoSmall : Builtin := fun _ arguments s =>
  let (newline, arguments) := match arguments with
    | ['-', 'n'] :: rest => ([], rest)
    | arguments => (['\n'], arguments)
  let text := Octets.joined [' '] arguments
  let (shown, ended) := Printing.smallEscaped (text.length + 1) text
  prints (if ended then shown else shown ++ newline) s

/-- Prints its arguments. Escapes are read if an option says so. -/
def echoLarge : Builtin := fun _ arguments s =>
  let options := arguments.takeWhile Tool.setsOptions
  let letters := options.flatMap fun option => option.drop 1
  let escapes := letters.filter fun c => c == 'e' || c == 'E'
  let reads := if escapes.isEmpty then s.settings.contains "xpg_echo" else escapes.getLast? == some 'e'
  let text := Octets.joined [' '] (arguments.drop options.length)
  let newline := if letters.contains 'n' then [] else ['\n']
  let (shown, ended) := if reads then Printing.largeEscaped (text.length + 1) text else (text, false)
  prints (if ended then shown else shown ++ newline) s

def echo : Builtin := byDialect echoSmall echoLarge

def withRemarks (filled : Printing.Filled) (s : State) : State :=
  filled.remarks.foldl (fun s remark => s.commandFailing remark 1) s

def printfSmall : Builtin := fun _ =>
  withOptions "" "" fun (_, arguments) s =>
    match arguments with
    | [] => smallMistake "usage: printf format [arg ...]".toList s
    | pattern :: rest =>
      let filled := Printing.fillAll Printing.small "" pattern (rest.length + 1) rest
      let s := withRemarks filled (prints filled.output s)
      if 2 ≤ filled.status then { s with status := 2, flow := .discarding }
      else s.withStatus (max s.status filled.status)

/-- Prints its arguments in the form of a pattern, or lets a variable hold the result. -/
def printfLarge : Builtin := fun c =>
  withOptions "" "v" fun found s =>
    match found.2 with
    | [] => refuses s
    | pattern :: rest =>
      let filled := Printing.fillAll Printing.large Printing.sizeLetters pattern (rest.length + 1)
        rest
      match valueOf? 'v' found with
      | some word =>
        let r := (Reference.plain? .large word).getD { name := word }
        if !isName r.name || !r.change.isEmpty then badIdentifier word s |>.withStatus 2
        else
          let done := assigns c r.name r.key false filled.output (withRemarks filled s)
          if s.isFixed r.name then done else done.withStatus filled.status
      | none =>
        let done := withRemarks filled (prints filled.output (s.withStatus 0))
        if done.status = 0 then done.withStatus filled.status else done

def printf : Builtin := byDialect printfSmall printfLarge

/-- What the large shell says about a mistake in a condition. -/
def conditionMessage (words : List Octets) : Tool.ConditionMistake → Octets
  | .missing =>
    match words with
    | [word, _] => word ++ ": unary operator expected".toList
    | _ => "argument expected".toList
  | .extra _ => "too many arguments".toList
  | .notNumber word => word ++ ": integer expression expected".toList
  | .notUnary word => word ++ ": unary operator expected".toList
  | .notBinary word => word ++ ": binary operator expected".toList
  | .parenthesis _ => "\x60)' expected".toList

/-- Whether a condition about variables or options holds, as the large shell knows it. -/
def variableTest? (s : State) (words : List Octets) : Option Bool :=
  match words with
  | [['-', 'v'], name] =>
    match Reference.plain? .large name with
    | some r =>
      match r.key, s.knownOr? r.name with
      | none, value => some (value.bind Value.whole?).isSome
      | some key, some (.table entries) => some (entries.lookup key).isSome
      | some key, some value =>
        some ((Octets.decimal? key).any fun n => (value.asRow.lookup n).isSome)
      | some _, none => some false
    | none => some false
  | [['-', 'R'], name] => some ((s.bindings.lookup name).any Variable.refers)
  | _ => none

def condition (closing : Option Octets) : Builtin := fun _ arguments s =>
  let closed := closing.isNone || arguments.getLast? == closing
  let words := if closing.isSome then arguments.dropLast else arguments
  let outcome : Except Octets Bool := match s.dialect with
    | .small => (Condition.holds s.files words).mapError Condition.Mistake.message
    | .large =>
      match variableTest? s words with
      | some holds => .ok holds
      | none =>
        (Tool.Condition.holds { files := s.files, ordered := true } words).mapError
          (conditionMessage words)
  if !closed then
    let text := match s.dialect with
      | .small => "missing ]"
      | .large => "missing \x60]'"
    match s.dialect with
    | .small => smallMistake text.toList s
    | .large => s.commandFailing text.toList 2
  else
    match outcome with
    | .ok holds => s.withStatus (if holds then 0 else 1)
    | .error message =>
      match s.dialect with
      | .small => smallMistake message s
      | .large => s.commandFailing message 2

end Builtin

end CommandChains.Machine.Shell
