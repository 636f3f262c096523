import CommandChains.Machine.Expression
import CommandChains.Machine.Shell.Builtin.Names

/-!
# Texts as scripts

A text is run line by line. The same holds for what stands in the place of a word, for what
is to be done on signals, and for what is to be done at the end.
-/

namespace CommandChains.Machine.Shell

abbrev Runner := Action → State → State

/-- Complains about a line that cannot be read. The small shell leaves the script; the
large one leaves the text. -/
def refuseScript (c : Cursor) (e : LineError) (s : State) : State :=
  let s := { s with line := e.line }
  match s.dialect with
  | .small => s.givingUp ("Syntax error: ".toList ++ e.problem.message) 2
  | .large =>
    let place (line : Nat) : Octets :=
      let origin := match s.origin with
        | some name => ": ".toList ++ name
        | none => if s.isArgument && s.frames.isEmpty then ": -c".toList else []
      let name := if s.frames.any Frame.isFile then s.speaker else s.name
      name ++ origin ++ ": line ".toList ++ Octets.ofNat line ++ ": ".toList
    let tell (line : Nat) (message : Octets) (s : State) : State :=
      s.say 2 (place line ++ message ++ ['\n'])
    let told := match e.problem with
      | .unexpected _ _ _ =>
        let text := (Octets.splitAt '\n' c.rest).getD (e.line - c.line) []
        tell e.line ("\x60".toList ++ text ++ "'".toList) (tell e.line e.problem.longMessage s)
      | .unfinished _ => tell (e.line + 1) e.problem.longMessage s
      | problem => tell e.line problem.longMessage s
    told.withStatus 2

/-- Says that texts have ended with the script and not with lines of their own. -/
def warnUnended (c : Cursor) (s : State) : State :=
  if !s.isLarge then s
  else
    c.unended.foldl (fun s (line, mark) =>
      let place := { s with line }.place
      s.say 2 (place ++ "warning: here-document at line ".toList ++ Octets.ofNat line ++
        " delimited by end-of-file (wanted \x60".toList ++ mark ++ "')\n".toList)) s

/-- Goes on behind a line. What went wrong in it has ended the line of the large shell, but
a shell in the place of another one ends with it. -/
def State.settled (s : State) : State :=
  if s.isLarge && s.flow == .discarding then
    { s with flow := if s.depth = 0 then .going else .exiting }
  else s

def State.usableAliases (s : State) : List (Octets × Octets) :=
  if s.isLarge && !s.settings.contains "expand_aliases" then [] else s.aliases

/-- A place in a script with what is known now. -/
def Cursor.informed (c : Cursor) (s : State) : Cursor :=
  c.withAliases s.usableAliases (s.settings.contains "extglob")

/-- Runs the lines of a script, at most so many. A line that cannot be read ends it. -/
def runLines (run : Runner) : Nat → Cursor → State → State
  | 0, _, s => s
  | rounds + 1, c, s =>
    if !s.goes then s
    else
      let c := c.informed s
      match readLine c with
      | .ok none => s
      | .ok (some (action, after)) =>
        let isLast := s.isLast && isBlankScript (after.rest.length + 1) after.rest
        let read := upTo c.rest after.rest
        let before := warnUnended after s
        let done := run action
          { before with isLast, reached := c.line + read.dropLast.count '\n' }
        runLines run rounds after { done with isLast := s.isLast }.settled
      | .error e => refuseScript c e s

def runText (run : Runner) (text : Octets) (s : State) : State :=
  let line := match s.dialect with
    | .small => 1
    | .large => s.line
  let cursor := { Cursor.ofText s.dialect text with line }
  { runLines run (text.length + 1) cursor s with line := s.line }

/-- Does what is to be done when a script is left, unless a signal has ended the shell. -/
def leave (run : Runner) (s : State) : State :=
  match s.traps.lookup exitTrap with
  | some action =>
    if s.flow = .killed ∨ action.isEmpty then s
    else
      let traps := s.traps.filter fun entry => entry.1 != exitTrap
      let done := runText run action
        { s with
          flow := .going, traps, trapStatus := some s.status, command := none
          origin := some "exit trap".toList, loops := 0, line := if s.isLarge then 1 else s.line }
      if done.flow = .going then { done with flow := s.flow, status := s.status } else done
  | none => s

/-- Does what is to be done on the signals that have come. -/
def heedPending (run : Runner) (s : State) : State :=
  if s.pending.isEmpty || s.flow = .killed then s
  else
    s.pending.foldl (fun s n =>
      match s.traps.lookup n, s.goes with
      | some action, true =>
        let done := runText run action
          { s with trapStatus := some s.status, command := none, origin := some "trap".toList }
        let status := if done.goes then s.status else done.status
        { done with
          status, trapStatus := s.trapStatus, command := s.command, origin := s.origin }
      | _, _ => s) { s with pending := [] }

/-- Does what is to be done at some kind of moment, if something is. -/
def heedMoment (run : Runner) (trap : Nat) (s : State) : State :=
  match s.traps.lookup trap with
  | some action =>
    if action.isEmpty || !s.goes then s
    else
      let kept := s.traps.filter fun entry => entry.1 != trap
      let done := runText run action { s with traps := kept, command := none }
      let traps := if (done.traps.lookup trap).isSome then done.traps
        else (trap, action) :: done.traps
      let status := if done.goes then s.status else done.status
      { done with traps, status, command := s.command, pipeStatus := s.pipeStatus }
  | none => s

/-! ## Scripts in words -/

def State.printedSince (s before : State) : List Printed :=
  (s.printed.take (s.printed.length - before.printed.length)).reverse

/-- The file that a script does nothing with but let it be read, if that is all. -/
def onlyReads? (c : Cursor) : Option Word :=
  match readLine c with
  | .ok (some (.simple _ [] [] [r], _)) =>
    if r.kind = .reading ∧ r.stream = 0 then some r.target else none
  | _ => none

/-- Runs a script with its output led to a channel of its own, and gives the output. What
the script leaves running may still print, so its end is waited for. -/
def captured (run : Runner) (work : State → State) (s : State) : Octets × State :=
  let channel := s.nextChannel
  let keeps := !s.isLarge || s.settings.contains "inherit_errexit"
  let options := if keeps then s.options else s.options.filter (· != 'e')
  let start : State := { s.sub with traceDepth := s.traceDepth + 1, options }
  let inner := leave run (work (start.open_ 1 .printed))
  let inner := inner.waitUntil inner.allEnds
  let all := inner.allPrinted
  let output := (all.filter fun m => m.channel = channel).flatMap Printed.text
  let others := (all.filter fun m => m.channel != channel).reverse
  let back := s.after { inner with printed := others, jobs := [] }
  let back := back.heed (if inner.forOwner then none else inner.signal) false
  (output, { back with status := s.status, pieceStatus := some inner.status })

/-- Runs a script that stands in a word, and gives its output. -/
def substitute (run : Runner) (text : Octets) (s : State) : Octets × State :=
  let line := s.line
  let cursor := { Cursor.ofText s.dialect text with line }
  let work (s : State) : State :=
    { runLines run (text.length + 1) cursor { s with origin := none } with line }
  let reads := if s.isLarge && text.head? == some '<' then onlyReads? (cursor.informed s) else none
  match reads with
  | none => captured run work s
  | some w =>
    let file : Redirection := { stream := 0, kind := .reading, target := w }
    let none_ : Substitute := fun _ s => ([], s)
    match (Expanding.redirectAll none_ [file]).run s with
    | (.ok (), opened) => (opened.input.1, { s with status := s.status, pieceStatus := some 0 })
    | (.error e, failed) =>
      let told := failed.aborted e
      ([], { told with streams := s.streams, flow := .going, status := s.status, pieceStatus := some 1 })

/-!
## Conditions about words

The large shell knows conditions whose words are not cut, where the right side of a
comparison is a pattern or an expression, and numbers are sums.
-/

/-- Why it cannot be said whether a condition holds. -/
structure CheckError where
  message : Octets
  status : Nat

/-- What is found out about a condition: whether it holds. -/
abbrev Checking := ExceptT CheckError (StateM State)

namespace Checking

def ofWords {α : Type} (x : Expanding α) : Checking α := fun s =>
  match x.run s with
  | (.ok a, s) => (.ok a, s)
  | (.error e, s) => (.error ⟨e.message, e.status⟩, s)

def number (text : Octets) : Checking Int := fun s =>
  match (Expanding.sum text).run s with
  | (.ok n, s) => (.ok n, s)
  | (.error e, s) => (.error ⟨"[[: ".toList ++ e.message, 1⟩, s)

/-- Tells about a condition that is looked at, if everything is to be told. -/
def tell (substitute : Substitute) (text : Octets) : Checking Unit :=
  modify (State.told substitute ("[[ ".toList ++ text ++ " ]]".toList))

def plainTest (words : List Octets) : Checking Bool := do
  let s ← get
  match Tool.Condition.holds { files := s.files, ordered := true } words with
  | .ok holds => pure holds
  | .error e => throw ⟨"[[: ".toList ++ Builtin.conditionMessage words e, 2⟩

def unary (letter text : Octets) : Checking Bool := do
  let s ← get
  match Builtin.variableTest? s [letter, text] with
  | some holds => pure holds
  | none =>
    if letter = ['-', 'o'] then
      let name := String.ofList text
      pure (((Builtin.optionsOf .large).lookup name).any fun l => Builtin.isSet s (name, l))
    else plainTest [letter, text]

/-- An expression as it is written where some characters stand for themselves. -/
def expressionText (word : List Marked) : Octets :=
  word.flatMap fun (c, active) =>
    if active || c.isAlphanum || c == '_' || !Octets.isSeen c || c == ' ' then [c] else ['\\', c]

/-- Whether a text matches an expression. What its groups have matched is remembered. -/
def matches_ (text : Octets) (word : List Marked) : Checking Bool := do
  let s ← get
  match Expression.ofText { extended := true } (expressionText word) with
  | .error _ => throw ⟨[], 2⟩
  | .ok e =>
    let how : Expression.Manner := { ignoreCase := s.settings.contains "nocasematch" }
    match Expression.matchFrom how e text 0 with
    | none => do
      set { s with matches_ := [] }
      pure false
    | some m => do
      let last := e.groupCount
      set { s with matches_ := (List.range (last + 1)).map (m.textOf text) }
      pure true

/-- How two numbers are compared by an operator, if they are. -/
def comparison? (operator : Octets) : Option (Int → Int → Bool) :=
  match String.ofList operator with
  | "-eq" => some fun a b => a == b
  | "-ne" => some fun a b => a != b
  | "-lt" => some fun a b => decide (a < b)
  | "-le" => some fun a b => decide (a ≤ b)
  | "-gt" => some fun a b => decide (b < a)
  | "-ge" => some fun a b => decide (b ≤ a)
  | _ => none

def binary (substitute : Substitute) (front operator : Octets) (left right : Word) :
    Checking Bool := do
  let text ← ofWords (Expanding.wholeText substitute left)
  let pattern ← ofWords (Expanding.wholePattern substitute right)
  let other := Marked.text pattern
  tell substitute (front ++ text ++ ' ' :: operator ++ ' ' :: other)
  let style ← ofWords Expanding.style
  match comparison? operator, String.ofList operator with
  | some compare, _ => do
    let a ← number text
    let b ← number other
    pure (compare a b)
  | none, "=~" => matches_ text pattern
  | none, "=" | none, "==" => pure (fits { style with grouped := true } pattern text)
  | none, "!=" => pure (!fits { style with grouped := true } pattern text)
  | none, "<" => pure (Octets.atMost text other && text != other)
  | none, ">" => pure (Octets.atMost other text && text != other)
  | none, _ => plainTest [text, operator, other]

/-- Whether a condition holds, where `front` stands before what is told about it. -/
def holds (substitute : Substitute) (front : Octets) : Check → Checking Bool
  | .filled w => do
    let text ← ofWords (Expanding.wholeText substitute w)
    tell substitute (front ++ "-n ".toList ++ text)
    pure (!text.isEmpty)
  | .unary letter w => do
    let text ← ofWords (Expanding.wholeText substitute w)
    tell substitute (front ++ letter ++ ' ' :: text)
    unary letter text
  | .binary operator left right => binary substitute front operator left right
  | .not c => do
    let found ← holds substitute (front ++ "! ".toList) c
    pure (!found)
  | .both a b => do
    let first ← holds substitute front a
    if first then holds substitute front b else pure false
  | .either a b => do
    let first ← holds substitute front a
    if first then pure true else holds substitute front b

end Checking

def checkWords (substitute : Substitute) (c : Check) (s : State) : State :=
  match (Checking.holds substitute [] c).run s with
  | (.ok holds, s) => s.withStatus (if holds then 0 else 1)
  | (.error e, s) => if e.message.isEmpty then s.withStatus e.status else s.failing e.message e.status

end CommandChains.Machine.Shell
