import CommandChains.Machine.Tool.Basic

/-!
# Options for scripts

A tool that takes the arguments of a script apart: the options that the script knows are
written down, and the tool prints what is found with the options first, as words that a shell
can read.
-/

namespace CommandChains.Machine.Options

inductive Taking where
  | none
  | value
  | perhaps
  deriving DecidableEq

inductive Order where
  | behind
  | ending
  | inPlace
  deriving DecidableEq

structure Description where
  letters : Octets
  words : List (Octets × Taking) := []
  order : Order := .behind
  silent : Bool := false
  /-- Whether a single dash may stand in front of a word. -/
  singleDash : Bool := false

def Description.ofText (text : Octets) (d : Description) : Description :=
  let (order, text) := match text with
    | '+' :: rest => (Order.ending, rest)
    | '-' :: rest => (Order.inPlace, rest)
    | text => (d.order, text)
  { d with letters := text, order, silent := d.silent || text.head? == some ':' }

def Description.letter? (d : Description) (c : Char) : Option Taking :=
  if c = ':' ∨ c = ';' then none
  else
    match d.letters.dropWhile (· != c) with
    | [] => none
    | _ :: ':' :: ':' :: _ => some .perhaps
    | _ :: ':' :: _ => some .value
    | _ => some .none

inductive Item where
  | letter (c : Char) (value : Option Octets)
  | word (name : Octets) (value : Option Octets)
  | operand (text : Octets)
  deriving DecidableEq

/-- What has been found, and what is behind the options. -/
structure Found where
  items : List Item := []
  rest : List Octets := []
  mistakes : List Octets := []

namespace Found

def with_ (f : Found) (item : Item) : Found := { f with items := item :: f.items }

def without (f : Found) (message : Octets) : Found := { f with mistakes := message :: f.mistakes }

end Found

/-- What is found of a word behind dashes: an item or a mistake, and whether the next argument
is taken for its value. Nothing is found if the word may be letters. -/
def wordItem (d : Description) (dashes text : Octets) (next : Option Octets) :
    Option (Except Octets Item × Bool) :=
  let name := text.takeWhile (· != '=')
  let given := text.drop name.length
  let shown (text : Octets) : Octets := '\x27' :: dashes ++ text ++ ['\x27']
  let exact := d.words.filter fun w => w.1 == name
  let near := d.words.filter fun w => name.isPrefixOf w.1
  match if exact.isEmpty then near else exact.take 1 with
  | [] =>
    let maybeLetters := dashes.length = 1 && (text.head?.bind d.letter?).isSome
    if maybeLetters then none
    else some (.error ("unrecognized option ".toList ++ shown text), false)
  | [(name, taking)] =>
    match taking, given, next with
    | .none, [], _ => some (.ok (.word name none), false)
    | .none, _ :: _, _ =>
      some (.error ("option ".toList ++ shown name ++ " doesn't allow an argument".toList), false)
    | _, _ :: value, _ => some (.ok (.word name (some value)), false)
    | .value, [], some value => some (.ok (.word name (some value)), true)
    | .value, [], none =>
      some (.error ("option ".toList ++ shown name ++ " requires an argument".toList), false)
    | .perhaps, [], _ => some (.ok (.word name (some [])), false)
  | several =>
    some (.error ("option ".toList ++ shown text ++ " is ambiguous; possibilities:".toList ++
      several.flatMap fun w => ' ' :: shown w.1), false)

/-- What is found of letters that share an argument, in order, and whether the next argument
is taken for the value of the last. -/
def letterItems (d : Description) (next : Option Octets) :
    Octets → List (Except Octets Item) × Bool
  | [] => ([], false)
  | c :: rest =>
    match d.letter? c with
    | none =>
      let (more, taken) := letterItems d next rest
      (.error ("invalid option -- '".toList ++ [c, '\x27']) :: more, taken)
    | some .none =>
      let (more, taken) := letterItems d next rest
      (.ok (.letter c none) :: more, taken)
    | some .perhaps => ([.ok (.letter c (some rest))], false)
    | some .value =>
      if !rest.isEmpty then ([.ok (.letter c (some rest))], false)
      else
        match next with
        | some value => ([.ok (.letter c (some value))], true)
        | none => ([.error ("option requires an argument -- '".toList ++ [c, '\x27'])], false)

def find (d : Description) : List Octets → Found
  | [] => {}
  | argument :: rest =>
    let add (found : List (Except Octets Item)) (f : Found) : Found :=
      found.foldr (fun one f =>
        match one with
        | .ok item => f.with_ item
        | .error message => f.without message) f
    let after (taken : Bool) : Found :=
      match taken, rest with
      | true, _ :: rest => find d rest
      | _, rest => find d rest
    let asLetters (letters : Octets) : Found :=
      let (found, taken) := letterItems d rest.head? letters
      add found (after taken)
    match argument with
    | ['-', '-'] => { rest }
    | '-' :: '-' :: text =>
      match wordItem d ['-', '-'] text rest.head? with
      | some (found, taken) => add [found] (after taken)
      | none => after false
    | '-' :: c :: letters =>
      let long := d.singleDash && (!letters.isEmpty || (d.letter? c).isNone)
      match if long then wordItem d ['-'] (c :: letters) rest.head? else none with
      | some (found, taken) => add [found] (after taken)
      | none => asLetters (c :: letters)
    | operand =>
      match d.order with
      | .ending => { rest := operand :: rest }
      | .inPlace => (find d rest).with_ (.operand operand)
      | .behind =>
        let f := find d rest
        { f with rest := operand :: f.rest }

/-! ## Printing -/

/-- How words are written: as they are, for the usual shell, or for the other one. -/
inductive Writing where
  | plain
  | usual
  | other
  deriving DecidableEq

def Writing.word (w : Writing) (text : Octets) : Octets :=
  match w with
  | .plain => text
  | .usual =>
    let one (c : Char) : Octets := if c = '\x27' then "'\\''".toList else [c]
    '\x27' :: text.flatMap one ++ ['\x27']
  | .other =>
    let one (c : Char) : Octets :=
      if c = '\\' then "\\\\".toList
      else if c = '\x27' then "'\\''".toList
      else if c = '!' then "'\\!'".toList
      else if c = '\n' then "\\n".toList
      else if Octets.isSpace c then "'\\".toList ++ [c, '\x27']
      else [c]
    '\x27' :: text.flatMap one ++ ['\x27']

def Item.shown (w : Writing) : Item → Octets
  | letter c none => [' ', '-', c]
  | letter c (some value) => [' ', '-', c, ' '] ++ w.word value
  | word name none => " --".toList ++ name
  | word name (some value) => " --".toList ++ name ++ ' ' :: w.word value
  | operand text => ' ' :: w.word text

def Found.shown (f : Found) (w : Writing) : Octets :=
  f.items.flatMap (Item.shown w) ++ " --".toList ++ f.rest.flatMap (fun text => ' ' :: w.word text) ++
    ['\n']

/-- Words that are written down, with what tells whether they have values. -/
def wordsOf (text : Octets) : List (Octets × Taking) :=
  let commas := text.map fun c => if c = ',' then ' ' else c
  (Octets.words commas).map fun word =>
    match word.reverse with
    | ':' :: ':' :: name => (name.reverse, .perhaps)
    | ':' :: name => (name.reverse, .value)
    | _ => (word, .none)

def report (t : Task) (name : Octets) (quiet printing : Bool) (w : Writing) (d : Description)
    (arguments : List Octets) : Report :=
  let f := find d arguments
  { errors := if quiet || d.silent then []
      else f.mistakes.flatMap fun message => name ++ ": ".toList ++ message ++ ['\n']
    output := if printing then f.shown w else [], left := some t.input
    status := if f.mistakes.isEmpty then 0 else 1 }

def normalize : Tool := fun t =>
  let order : Order := if (t.environment.lookup "POSIXLY_CORRECT".toList).isSome then .ending
    else .behind
  let old := (t.environment.lookup "GETOPT_COMPATIBLE".toList).isSome
  let missing : Report := t.refuses "missing optstring argument".toList 2
  match t.arguments with
  | [] => if old then t.prints " --\n".toList else missing
  | first :: rest =>
    if old || first.head? != some '-' then
      let letters := first.dropWhile fun c => c == '-' || c == '+'
      report t t.name false true .plain (Description.ofText letters { letters, order }) rest
    else
      t.withArguments
          { plain := "aqQTu", valued := "olns", untilOperand := true
            words := [("options", 'o'), ("longoptions", 'l'), ("quiet", 'q'), ("quiet-output", 'Q'),
              ("shell", 's'), ("test", 'T'), ("unquoted", 'u'), ("alternative", 'a'),
              ("name", 'n')] } 2 fun a =>
        let shells := ["sh", "bash", "csh", "tcsh"]
        let badShell := (a.values 's').any fun name => !shells.contains (String.ofList name)
        let words := (a.values 'l').flatMap wordsOf
        if badShell then t.refuses "unknown shell after -s or --shell argument".toList 2
        else if words.any fun w => w.1.isEmpty then
          t.refuses "empty long option after -l or --long argument".toList 2
        else if a.has 'T' then { left := some t.input, status := 4 }
        else
          let writing : Writing :=
            if a.has 'u' then .plain
            else if (a.value? 's').any fun name => ["csh", "tcsh"].contains (String.ofList name) then
              .other
            else .usual
          let named := (a.value? 'n').getD t.name
          let go (letters : Octets) (arguments : List Octets) : Report :=
            report t named (a.has 'q') (!a.has 'Q') writing
              (Description.ofText letters { letters, words, order, singleDash := a.has 'a' })
              arguments
          match a.value? 'o', a.operands with
          | some letters, operands => go letters operands
          | none, letters :: operands => go letters operands
          | none, [] => missing

end CommandChains.Machine.Options
