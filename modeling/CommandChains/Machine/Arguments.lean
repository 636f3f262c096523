import CommandChains.Machine.Octets
import CommandChains.Machine.Quotation

/-!
# Arguments of programs

Programs are told what to do by options and operands. An option is a letter behind a
dash or a word behind two; it may take a value. Letters can share one argument, and
a value may stand in the same argument as its option or in the next. Words can be
shortened as long as no other word begins alike. Two dashes end the options, and a
single dash is an operand.
-/

namespace CommandChains.Machine

structure Known where
  plain : String := ""
  valued : String := ""
  /-- Letters with a value only if it stands in the same argument. -/
  optional : String := ""
  words : List (String × Char) := []
  hidden : String := ""
  untilOperand : Bool := false
  /-- Whether an argument is an operand although a dash begins it. -/
  takesAsOperand : Octets → Bool := fun _ => false

inductive Misuse where
  | unknownLetter (c : Char)
  | letterWithoutValue (c : Char)
  | unknownWord (argument : Octets)
  | wordWithoutValue (word : String)
  | wordWithValue (word : String)
  | ambiguousWord (argument : Octets) (words : List String)
  deriving DecidableEq, Repr

def Misuse.message : Misuse → Octets
  | unknownLetter c => "invalid option -- '".toList ++ [c] ++ "'".toList
  | letterWithoutValue c => "option requires an argument -- '".toList ++ [c] ++ "'".toList
  | unknownWord argument => "unrecognized option '".toList ++ argument ++ "'".toList
  | wordWithoutValue word => ("option '--" ++ word ++ "' requires an argument").toList
  | wordWithValue word => ("option '--" ++ word ++ "' doesn't allow an argument").toList
  | ambiguousWord argument words =>
    "option '".toList ++ argument ++ "' is ambiguous; possibilities:".toList ++
      words.flatMap fun word => (" '--" ++ word ++ "'").toList

structure Arguments where
  options : List (Char × Octets) := []
  operands : List Octets := []
  deriving DecidableEq, Repr

namespace Arguments

def has (a : Arguments) (letter : Char) : Bool :=
  a.options.any fun option => option.1 == letter

def value? (a : Arguments) (letter : Char) : Option Octets :=
  (a.options.reverse.find? fun option => option.1 == letter).map (·.2)

/-- The values that were given for an option, in order. -/
def values (a : Arguments) (letter : Char) : List Octets :=
  (a.options.filter fun option => option.1 == letter).map (·.2)

/-- The character that ends lines: an option makes it another one. -/
def lineEnd (a : Arguments) : Char := if a.has 'z' then '\x00' else '\n'

def last? (a : Arguments) (letters : String) : Option Char :=
  (a.options.reverse.find? fun option => letters.contains option.1).map (·.1)

def withOption (a : Arguments) (letter : Char) (value : Octets) : Arguments :=
  { a with options := (letter, value) :: a.options }

def withOperand (a : Arguments) (operand : Octets) : Arguments :=
  { a with operands := operand :: a.operands }

/-- Letters that share an argument. The last one may have its value in the next
argument; then it is given apart. -/
def readLetters (k : Known) :
    Octets → Except Misuse (List (Char × Octets) × Option Char)
  | [] => .ok ([], none)
  | c :: rest =>
    if k.hidden.contains c then .error (.unknownLetter c)
    else if k.plain.contains c then
      match readLetters k rest with
      | .ok (options, owing) => .ok ((c, []) :: options, owing)
      | .error e => .error e
    else if k.optional.contains c then .ok ([(c, rest)], none)
    else if k.valued.contains c then
      if rest.isEmpty then .ok ([], some c) else .ok ([(c, rest)], none)
    else .error (.unknownLetter c)

/-- The word that an argument stands for, and its letter. -/
def findWord (k : Known) (argument name : Octets) : Except Misuse (String × Char) :=
  match k.words.find? fun entry => entry.1.toList = name with
  | some entry => .ok entry
  | none =>
    match k.words.filter fun entry => name.isPrefixOf entry.1.toList with
    | [] => .error (.unknownWord argument)
    | [entry] => .ok entry
    | entry :: others =>
      if others.all fun other => other.2 == entry.2 then .ok entry
      else .error (.ambiguousWord argument ((entry :: others).map (·.1)))

def read (k : Known) : List Octets → Except Misuse Arguments
  | [] => .ok {}
  | argument :: rest =>
    if k.takesAsOperand argument then
      if k.untilOperand then .ok { operands := argument :: rest }
      else (read k rest).map (·.withOperand argument)
    else
    match argument with
    | ['-', '-'] => .ok { operands := rest }
    | '-' :: '-' :: text =>
      let name := text.takeWhile (· != '=')
      let given := text.drop name.length
      match findWord k argument name with
      | .error e => .error e
      | .ok (word, letter) =>
        if k.valued.contains letter then
          match given, rest with
          | _ :: value, rest => (read k rest).map (·.withOption letter value)
          | [], value :: rest => (read k rest).map (·.withOption letter value)
          | [], [] => .error (.wordWithoutValue word)
        else if k.optional.contains letter then
          (read k rest).map (·.withOption letter (given.drop 1))
        else if given.isEmpty then (read k rest).map (·.withOption letter [])
        else .error (.wordWithValue word)
    | '-' :: c :: letters =>
      match readLetters k (c :: letters) with
      | .error e => .error e
      | .ok (options, none) =>
        (read k rest).map fun a => { a with options := options ++ a.options }
      | .ok (options, some owing) =>
        match rest with
        | [] => .error (.letterWithoutValue owing)
        | value :: rest =>
          (read k rest).map fun a => { a with options := options ++ (owing, value) :: a.options }
    | operand =>
      if k.untilOperand then .ok { operands := operand :: rest }
      else (read k rest).map (·.withOperand operand)

end Arguments

/-!
## Choices by name

An option can have a value that is one of several names. Some names mean the same, and a
name may be shortened as long as it means one thing only.
-/

/-- What can be chosen: the names that mean the same, and what they mean. -/
abbrev Choices (α : Type) := List (List String × α)

namespace Choices

variable {α : Type}

def meant (choices : Choices α) (text : Octets) : Choices α :=
  match choices.find? fun choice => choice.1.any fun name => name.toList = text with
  | some choice => [choice]
  | none => choices.filter fun choice => choice.1.any fun name => text.isPrefixOf name.toList

/-- What is said about a text that means nothing, or several things. -/
def complaint (choices : Choices α) (reason option : String) (text : Octets) : Octets :=
  (reason ++ " argument ").toList ++ Octets.quoted text ++
    (" for '" ++ option ++ "'\nValid arguments are:").toList ++
    choices.flatMap fun choice =>
      "\n  - ".toList ++ Octets.joined ", ".toList (choice.1.map fun name => Octets.quoted name.toList)

/-- What is chosen by a text, or what is said about it. -/
def chosen (choices : Choices α) (option : String) (text : Octets) : Except Octets α :=
  match choices.meant text with
  | [choice] => .ok choice.2
  | [] => .error (choices.complaint "invalid" option text)
  | _ => .error (choices.complaint "ambiguous" option text)

end Choices

end CommandChains.Machine
