import CommandChains.Machine.Records.Streams
import CommandChains.Machine.Calendar.Basic
import CommandChains.Machine.Expression

/-!
# What programs about records can do

Replacing what matches, and the functions that are always there.
-/

namespace CommandChains.Machine.Records

/-!
## Replacing what matches

How a program about records puts a text in the place of what an expression matches, once or
everywhere.
-/

/-- A part of what is put in the place of a match. -/
inductive Part where
  | plain (c : Char)
  | matched
  deriving DecidableEq

/-- The parts of a text with ampersands. Behind a backslash an ampersand is plain, and two
backslashes in front of one are one. -/
def parts : Octets → List Part
  | '\\' :: '\\' :: '&' :: rest => .plain '\\' :: .matched :: parts rest
  | '\\' :: '&' :: rest => .plain '&' :: parts rest
  | '&' :: rest => .matched :: parts rest
  | c :: rest => .plain c :: parts rest
  | [] => []

def replacement (parts : List Part) (matched : Octets) : Octets :=
  parts.flatMap fun
    | .plain c => [c]
    | .matched => matched

/-- A text with the first match replaced, if there is one. -/
def replaceFirst? (e : Expression) (new : List Part) (text : Octets) : Option Octets :=
  (Expression.matchFrom {} e text 0).map fun m =>
    let found := (text.drop m.start).take (m.stop - m.start)
    text.take m.start ++ replacement new found ++ text.drop m.stop

/-- A text from some place on with all matches replaced, and how many there are. A match of no
character does not count right behind another match. -/
def replaceAll (e : Expression) (new : List Part) (text : Octets) :
    Nat → Nat → Option Nat → Octets × Nat
  | 0, start, _ => (text.drop start, 0)
  | rounds + 1, start, ended =>
    match Expression.matchFrom {} e text start with
    | none => (text.drop start, 0)
    | some m =>
      let before := (text.drop start).take (m.start - start)
      let found := (text.drop m.start).take (m.stop - m.start)
      if m.start = m.stop then
        let here := (text.drop m.start).take 1
        let counts := ended != some m.start
        let put := if counts then replacement new found else []
        if text.length ≤ m.start then (before ++ put, if counts then 1 else 0)
        else
          let (rest, count) := replaceAll e new text rounds (m.start + 1) none
          (before ++ put ++ here ++ rest, if counts then count + 1 else count)
      else
        let (rest, count) := replaceAll e new text rounds m.stop (some m.stop)
        (before ++ replacement new found ++ rest, count + 1)

/-!
## The functions that are always there

What the functions do that a program about records need not define, for values that have been
computed.
-/

/-- A number rounded to a whole one, a half to the even one. -/
def roundedWhole (x : Float) : Int :=
  match realOf x with
  | ⟨negative, .ratio n d⟩ =>
    let size : Nat := min (Numeral.rounded n d) 2147483647
    if negative then -(size : Int) else size
  | ⟨negative, .infinite⟩ => if negative then -2147483647 else 2147483647
  | ⟨_, .undefined⟩ => 0

/-- A part of a text, by the place where it begins and its length. -/
def partOf (text : Octets) (start : Float) (length : Option Float) : Octets :=
  let first := roundedWhole start
  let last := match length with
    | none => (text.length : Int)
    | some length => min (text.length : Int) (roundedWhole (start + length) - 1)
  let first := max 1 first
  if last < first then [] else (text.drop (first - 1).toNat).take (last - first + 1).toNat

/-- The place of a text in another one, counted from one, or nought. -/
def placeOf (text part : Octets) : Nat :=
  if text.isEmpty then 0
  else
    let found := (List.range (text.length + 1)).find? fun place => part.isPrefixOf (text.drop place)
    (found.map (· + 1)).getD 0

def wholePart (x : Float) : Float := if x < 0 then x.ceil else x.floor

def secondsOf (clock : Calendar.Clock) (text : Octets) : Int :=
  match (Octets.words text).map Octets.integer? with
  | some year :: some month :: some day :: some hour :: some minute :: some second :: _ =>
    let months := month - 1
    let date : Calendar.Date :=
      { year := year + months / 12, month := (months % 12).toNat + 1, day := 1 }
    let number := date.number + day - 1
    let guess := Calendar.momentOf {} number hour minute second
    let zone := clock.zoneAt (guess.seconds - (clock.zoneAt guess.seconds).ahead)
    (Calendar.momentOf zone number hour minute second).seconds
  | _ => -1

namespace Act

def byChance : Act Float := do
  let (n, chance) := (← get).chance.next
  modify fun s => { s with chance }
  pure (Float.ofNat n / 2147483647)

/-- Begins another row of numbers by chance, and tells how the one before began. -/
def beginChance (given : Value) : Act Value := do
  let before := (← get).seed
  modify fun s => { s with seed := given, chance := .ofSeed (truncated given.amount) }
  pure before

def system (c : Setting) (command : Octets) : Act Value := do
  flush
  let p ← runCommand c "sh" command none false
  pure (.ofNat (statusOf p))

def filled (c : Setting) (function : String) : List Value → Act Octets
  | [] => pure []
  | pattern :: values => do
    let pattern ← textOf pattern
    match fill (← conversion) (pattern.length + 1) 1 values pattern with
    | .ok text => pure text
    | .error unfit => failAtRecord c (unfit.message function.toList pattern)

def apply (c : Setting) (name : String) (values : List Value) : Act Value := do
  let v := values.headD .unset
  let x := v.amount
  let clock := Calendar.clockOf c.task.environment
  match name, values with
  | "length", _ => do pure (.ofNat (← textOf v).length)
  | "index", [text, part] => do pure (.ofNat (placeOf (← textOf text) (← textOf part)))
  | "substr", [text, start] => do pure (.text (partOf (← textOf text) start.amount none))
  | "substr", [text, start, length] => do
    pure (.text (partOf (← textOf text) start.amount (some length.amount)))
  | "sprintf", values => do pure (.text (← filled c "sprintf" values))
  | "sin", _ => pure (.number x.sin)
  | "cos", _ => pure (.number x.cos)
  | "atan2", [y, x] => pure (.number (Float.atan2 y.amount x.amount))
  | "exp", _ => pure (.number x.exp)
  | "log", _ => pure (.number x.log)
  | "int", _ => pure (.number (wholePart x))
  | "sqrt", _ => pure (.number x.sqrt)
  | "rand", _ => do pure (.number (← byChance))
  | "srand", [] => beginChance (.number (Float.ofInt Calendar.present.seconds))
  | "srand", _ => beginChance v
  | "close", _ => do pure (.number (Float.ofInt (← close c (← textOf v))))
  | "system", _ => do system c (← textOf v)
  | "toupper", _ => do pure (.text ((← textOf v).map Char.toUpper))
  | "tolower", _ => do pure (.text (Octets.lower (← textOf v)))
  | "fflush", _ =>
    flush
    pure (.number 0)
  | "systime", _ => pure (.number (Float.ofInt Calendar.present.seconds))
  | "mktime", _ => do pure (.number (Float.ofInt (secondsOf clock (← textOf v))))
  | "strftime", values => do
    let template ← match values with
      | [] => pure "%c".toList
      | _ => textOf v
    let seconds := match values[1]? with
      | some v => truncated v.amount
      | none => Calendar.present.seconds
    let zone := if (values[2]?).any Value.holds then {} else clock.zoneAt seconds
    pure (.text (Calendar.shown template { seconds } zone))
  | _, _ => pure .unset

end Act

/-!
## Running programs about records

What the expressions and statements of a program mean: what they read and print, and what they
change. Every step into a part of a program and every round of a loop takes one of a number of
steps, so that running ends.
-/

inductive Place where
  | variable (name : String)
  | element (array : Nat) (key : String × Option Int)
  | field (number : Nat)

namespace Act

def valueAt (c : Setting) : Place → Act Value
  | .variable n => valueOfVariable c n
  | .element array key => element array key
  | .field n => field c n

def setAt (c : Setting) (v : Value) : Place → Act Unit
  | .variable n => setVariable c n v
  | .element array key => setElement array key v
  | .field n => setField c n v

def keyOf (values : List Value) : Act (String × Option Int) := do
  match values with
  | [v] =>
    match v with
    | .number x => do pure ((Value.number x).key (← conversion))
    | v => pure (v.key [])
  | values =>
    let texts ← values.mapM textOf
    pure (String.ofList (Octets.joined (← named "SUBSEP") texts), none)

def depthLimit : Nat := 1006

/-- Does something while so many more values are at hand. -/
def deeper {α : Type} (c : Setting) (more : Nat) (work : Act α) : Act α := do
  let depth := (← get).depth + more
  if depthLimit < depth then
    fail c "program limit exceeded: eval stack size=1024".toList
  else
    modify fun s => { s with depth }
    let done ← work
    modify fun s => { s with depth := depth - more }
    pure done

def hasMatch (e : Expression) (text : Octets) : Bool := (Expression.matchFrom {} e text 0).isSome

/-- Runs a function with what its parameters stand for, and tells its value. -/
def inFunction (slots : List (String × Slot)) (work : Act Unit) : Act Value := do
  let before := (← get).locals
  modify fun s => { s with locals := slots }
  let value ← tryCatch (do
    work
    pure Value.unset) fun stop =>
    match stop with
    | .leave v => pure v
    | stop => throw stop
  modify fun s => { s with locals := before }
  pure value

/-- What a name that is an argument alone stands for: its value, or an array that it will be if
it has none. -/
def argumentSlot (c : Setting) (name : String) : Act Slot := do
  match ← slot name with
  | .array place => pure (.array place)
  | .value .unset =>
    if name == "NF" then do pure (.value (← valueOfVariable c name))
    else do pure (.array (← arrayOf name))
  | .value v => pure (.value v)

def noteMatch (e : Expression) (text : Octets) : Act Value := do
  let found := Expression.matchFrom {} e text 0
  let start := (found.map fun m => m.start + 1).getD 0
  let length : Int := (found.map fun m => ((m.stop - m.start : Nat) : Int)).getD (-1)
  setSlot "RSTART" (.value (.ofNat start))
  setSlot "RLENGTH" (.value (.number (Float.ofInt length)))
  pure (.ofNat start)

/-- Takes a text apart into an array, and tells the number of parts. -/
def splitInto (sep : Separator) (text : Octets) (array : Nat) : Act Value := do
  let parts := sep.split text
  alterTable array fun _ => Table.ofValues (parts.map Value.given)
  pure (.ofNat parts.length)

mutual

def eval (c : Setting) : Nat → Expr → Act Value
  | 0, _ => throw .exit
  | f + 1, e =>
    match e with
    | .number x => pure (.number x)
    | .text s => pure (.text s)
    | .regex source => do
      let e ← expressionOf c source
      pure (.ofBool (hasMatch e (← record)))
    | .variable n => valueOfVariable c n
    | .element n subscripts => do
      let key ← keyOf (← evalAll c f subscripts)
      element (← arrayOf n) key
    | .field place => do field c (← fieldPlace c (← eval c f place))
    | .group e => eval c f e
    | .several list => do
      let key ← keyOf (← evalAll c f list)
      pure (.text key.1.toList)
    | .assign op target value => do
      let place ← placeFor c f target
      let v ← eval c f value
      let v ← match op with
        | none => pure v
        | some op => do pure (.number (op.of (← valueAt c place).amount v.amount))
      setAt c v place
      pure v
    | .step up first target => do
      let place ← placeFor c f target
      let before := (← valueAt c place).amount
      let behind := if up then before + 1 else before - 1
      setAt c (.number behind) place
      pure (.number (if first then behind else before))
    | .choice condition yes no => do
      if (← eval c f condition).holds then eval c f yes else eval c f no
    | .and a b => do
      if (← eval c f a).holds then do pure (.ofBool (← eval c f b).holds) else pure (.ofBool false)
    | .or a b => do
      if (← eval c f a).holds then pure (.ofBool true) else do pure (.ofBool (← eval c f b).holds)
    | .contains n subscripts => do
      let key ← keyOf (← evalAll c f subscripts)
      let t ← tableAt (← arrayOf n)
      pure (.ofBool (t.get? key.1).isSome)
    | .matching negated text pattern => do
      let s ← textOf (← eval c f text)
      let e ← deeper c 1 (patternFor c f pattern)
      pure (.ofBool (hasMatch e s != negated))
    | .compare comparison a b => do
      let x ← eval c f a
      let y ← deeper c 1 (eval c f b)
      pure (.ofBool (Value.compare (← conversion) comparison x y))
    | .join a b => do
      let x ← textOf (← eval c f a)
      let y ← textOf (← deeper c 1 (eval c f b))
      pure (.text (x ++ y))
    | .compute op a b => do
      let x ← eval c f a
      let y ← deeper c 1 (eval c f b)
      pure (.number (op.of x.amount y.amount))
    | .negative e => do pure (.number (-(← eval c f e).amount))
    | .positive e => do pure (.number (← eval c f e).amount)
    | .not e => do pure (.ofBool !(← eval c f e).holds)
    | .call n given => do
      match c.program.functions.lookup n with
      | none => pure .unset
      | some g =>
        let slots ← slotsFor c f given
        let locals := g.parameters.zipIdx.map fun (p, place) =>
          (p, (slots[place]?).getD (.value .unset))
        deeper c g.parameters.length (inFunction locals (exec c f g.body))
    | .builtin n given => evalBuiltin c f n given
    | .getline origin source target => do
      let place? : Option Place ← match target with
        | none => pure none
        | some e => do pure (some (← placeFor c f e))
      let taken : Option (Option Octets) ← match origin with
        | .input => do
          let rounds ← mainRounds
          pure (some (← takeFromMain c rounds))
        | .file => do
          let name ← textOf (← eval c f source)
          takeFromFile c name
        | .command => do
          let name ← textOf (← eval c f source)
          pure (some (← takeFromCommand c name))
      match taken with
      | none => pure (.number (-1))
      | some none => pure (.number 0)
      | some (some text) =>
        match place? with
        | some place => setAt c (.given text) place
        | none => setRecord text
        pure (.number 1)

def evalAll (c : Setting) : Nat → List Expr → Act (List Value)
  | 0, _ => throw .exit
  | _, [] => pure []
  | f + 1, e :: rest => do
    let v ← eval c f e
    let others ← deeper c 1 (evalAll c f rest)
    pure (v :: others)

def slotsFor (c : Setting) : Nat → List Expr → Act (List Slot)
  | 0, _ => throw .exit
  | _, [] => pure []
  | f + 1, e :: rest => do
    let slot ← match e with
      | .variable n => argumentSlot c n
      | e => do pure (.value (← eval c f e))
    let others ← slotsFor c f rest
    pure (slot :: others)

def placeFor (c : Setting) : Nat → Expr → Act Place
  | 0, _ => throw .exit
  | f + 1, e =>
    match e with
    | .element n subscripts => do
      let key ← keyOf (← evalAll c f subscripts)
      pure (.element (← arrayOf n) key)
    | .field place => do pure (.field (← fieldPlace c (← eval c f place)))
    | .variable n => pure (.variable n)
    | .group e => placeFor c f e
    | _ => pure (.variable "")

def patternFor (c : Setting) : Nat → Expr → Act Expression
  | 0, _ => throw .exit
  | f + 1, e =>
    match e with
    | .regex source => expressionOf c source
    | e => do expressionOf c (← textOf (← eval c f e))

def evalBuiltin (c : Setting) : Nat → String → List Expr → Act Value
  | 0, _, _ => throw .exit
  | f + 1, name, given =>
    match name, given with
    | "length", [] => do pure (.ofNat (← record).length)
    | "length", [.variable n] => do
      match ← slot n with
      | .array place => do pure (.ofNat (← tableAt place).size)
      | .value _ => do pure (.ofNat (← textOf (← valueOfVariable c n)).length)
    | "split", text :: .variable n :: by_ => do
      let text ← textOf (← eval c f text)
      let sep ← match by_ with
        | [] => fieldSeparator c (← named "FS")
        | .regex source :: _ => do pure (Separator.expression (← expressionOf c source))
        | e :: _ => do fieldSeparator c (← textOf (← eval c f e))
      splitInto sep text (← arrayOf n)
    | "match", [text, pattern] => do
      let text ← textOf (← eval c f text)
      noteMatch (← patternFor c f pattern) text
    | "sub", [pattern, new, target] => substitute c f false pattern new target
    | "gsub", [pattern, new, target] => substitute c f true pattern new target
    | name, given => do apply c name (← evalAll c f given)

/-- Replaces what matches at a place, and tells how often. -/
def substitute (c : Setting) : Nat → Bool → Expr → Expr → Expr → Act Value
  | 0, _, _, _, _ => throw .exit
  | f + 1, everywhere, pattern, new, target => do
    let e ← patternFor c f pattern
    let new ← textOf (← eval c f new)
    let place ← placeFor c f target
    let text ← textOf (← valueAt c place)
    if everywhere then
      let (replaced, count) := replaceAll e (parts new) text (2 * text.length + 2) 0 none
      if 0 < count then setAt c (.text replaced) place
      pure (.ofNat count)
    else
      match replaceFirst? e (parts new) text with
      | none => pure (.ofNat 0)
      | some replaced =>
        setAt c (.text replaced) place
        pure (.ofNat 1)

def exec (c : Setting) : Nat → Stmt → Act Unit
  | 0, _ => throw .exit
  | f + 1, stmt =>
    match stmt with
    | .nothing => pure ()
    | .value e => do
      let _ ← eval c f e
    | .print formatted given outlet target => do
      let values ← evalAll c f given
      let text ← if formatted then filled c "printf" values
        else
          match values with
          | [] => do pure ((← record) ++ (← named "ORS"))
          | values => do
            let pattern ← named "OFMT"
            let texts := values.map (Value.textBy pattern)
            pure (Octets.joined (← named "OFS") texts ++ (← named "ORS"))
      match outlet with
      | .output => printPlainly text
      | .file => do printTo c false (← textOf (← eval c f target)) text
      | .addition => do printTo c true (← textOf (← eval c f target)) text
      | .command => do printFor (← textOf (← eval c f target)) text
    | .ifElse condition yes no => do
      if (← eval c f condition).holds then exec c f yes else exec c f no
    | .whileLoop condition body => loop c f (some condition) none body
    | .doLoop body condition => do
      if ← round c f body then loop c f (some condition) none body
    | .forLoop first condition next body => do
      match first with
      | some e => do
        let _ ← eval c f e
      | none => pure ()
      loop c f condition next body
    | .forEach n array body => do
      let place ← arrayOf array
      let (keys, _) := (← tableAt place).keys
      alterTable place Table.withNames
      forKeys c f n keys body
    | .block list => execAll c f list
    | .next => throw .next
    | .nextFile => throw .nextFile
    | .exit status => do
      match status with
      | some e => do
        let v ← eval c f e
        modify fun s => { s with status := (truncated v.amount % 256).toNat }
      | none => pure ()
      throw .exit
    | .return_ value => do
      match value with
      | some e => do throw (.leave (← eval c f e))
      | none => throw (.leave .unset)
    | .break_ => throw .break_
    | .continue_ => throw .continue_
    | .delete n subscripts => do
      let key ← keyOf (← evalAll c f subscripts)
      alterTable (← arrayOf n) fun t => t.erase key.1
    | .deleteAll n => do alterTable (← arrayOf n) fun _ => {}

def execAll (c : Setting) : Nat → List Stmt → Act Unit
  | 0, _ => throw .exit
  | _, [] => pure ()
  | f + 1, stmt :: rest => do
    exec c f stmt
    execAll c f rest

/-- Carries out the body of a loop, and tells whether the loop goes on. -/
def round (c : Setting) : Nat → Stmt → Act Bool
  | 0, _ => throw .exit
  | f + 1, body =>
    tryCatch (do
      exec c f body
      pure true) fun stop =>
      match stop with
      | .break_ => pure false
      | .continue_ => pure true
      | stop => throw stop

def loop (c : Setting) : Nat → Option Expr → Option Expr → Stmt → Act Unit
  | 0, _, _, _ => throw .exit
  | f + 1, condition, next, body => do
    let goesOn ← match condition with
      | none => pure true
      | some e => do pure (← eval c f e).holds
    if goesOn then
      if ← round c f body then
        match next with
        | some e => do
          let _ ← eval c f e
        | none => pure ()
        loop c f condition next body

def forKeys (c : Setting) : Nat → String → List String → Stmt → Act Unit
  | 0, _, _, _ => throw .exit
  | _, _, [], _ => pure ()
  | f + 1, name, key :: rest, body => do
    setVariable c name (.text key.toList)
    if ← round c f body then forKeys c f name rest body

end

/-! ## Rules -/

/-- Whether the statements of a rule are carried out for a record. -/
def applies (c : Setting) (f : Nat) (number : Nat) : Pattern → Act Bool
  | .always => pure true
  | .when condition => do pure (← eval c f condition).holds
  | .between first last => do
    let begun := (← get).inside.contains number
    if begun || (← eval c f first).holds then
      let ended := (← eval c f last).holds
      modify fun s =>
        let others := s.inside.filter (· != number)
        { s with inside := if ended then others else number :: others }
      pure true
    else pure false

def rulesFor (c : Setting) (f : Nat) : List ((Pattern × Stmt) × Nat) → Act Unit
  | [] => pure ()
  | ((pattern, body), number) :: rest => do
    if ← applies c f number pattern then exec c f body
    rulesFor c f rest

def records (c : Setting) (f : Nat) (rules : List ((Pattern × Stmt) × Nat)) : Nat → Act Unit
  | 0 => pure ()
  | rounds + 1 => do
    let files ← mainRounds
    match ← takeFromMain c files with
    | none => pure ()
    | some text =>
      setRecord text
      tryCatch (rulesFor c f rules) fun stop =>
        match stop with
        | .next => pure ()
        | .nextFile => modify fun s => { s with main := none }
        | stop => throw stop
      records c f rules rounds

/-- Does something that may end the program, and tells whether it goes on. -/
def unlessExit (work : Act Unit) : Act Bool :=
  tryCatch (do
    work
    pure true) fun _ => do
    modify fun s => { s with locals := [], depth := 0 }
    pure false

def stepLimit : Nat := 4000000

/-- Runs a program: what comes before all records, the rules for the records, and what comes
behind them. A program that ends early still does what comes behind, unless it has failed. -/
def whole (c : Setting) : Act Unit := do
  let p := c.program
  let f := stepLimit
  let goesOn ← unlessExit (p.begins.forM (exec c f))
  let goesOn ←
    if goesOn && !(p.rules.isEmpty && p.ends.isEmpty) then
      unlessExit (records c f p.rules.zipIdx f)
    else pure goesOn
  let failed := !goesOn && (← get).failed
  if !failed then
    let _ ← unlessExit (p.ends.forM (exec c f))
  modify State.flushFiles
  let links := (← get).links
  modify fun s => { s with links := [] }
  let _ ← links.mapM (finish c)
  flush

end Act

end CommandChains.Machine.Records
