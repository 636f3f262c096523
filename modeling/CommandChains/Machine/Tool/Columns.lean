import CommandChains.Machine.Tool.Fields
import CommandChains.Machine.Tool.Basic

/-!
# Lines and columns

Tools that look at the columns in which the characters of a line stand: one breaks lines
that are too long, and two put blanks in the place of tabs and the other way round.
-/

namespace CommandChains.Machine.Tool

def isBlank (c : Char) : Bool := c == ' ' || c == '\t'

/-! ## Folded lines -/

def columnAfter (bytes : Bool) (column : Nat) (c : Char) : Nat :=
  if bytes then column + 1
  else if c = '\t' then column + 8 - column % 8
  else if c = '\x08' then column - 1
  else if c = '\r' then 0
  else column + 1

/-- Where a line that is too long is broken: behind the last blank, or else at the
end. -/
def breakAt (atBlanks : Bool) (line : Octets) : Octets × Octets :=
  if atBlanks && line.any isBlank then
    let rest := (line.reverse.takeWhile fun c => !isBlank c).reverse
    (line.take (line.length - rest.length), rest)
  else (line, [])

/-- The pieces that are complete when a character comes behind a piece that is being made,
and the piece after that. Every break leaves less than there was. -/
def breakBefore (bytes atBlanks : Bool) (width : Nat) (c : Char) :
    Nat → Octets → List Octets × Octets
  | 0, sofar => ([], sofar ++ [c])
  | rounds + 1, sofar =>
    if width < columnAfter bytes (sofar.foldl (columnAfter bytes) 0) c && !sofar.isEmpty then
      let (whole, begun) := breakAt atBlanks sofar
      let (more, last) := breakBefore bytes atBlanks width c rounds begun
      (whole :: more, last)
    else ([], sofar ++ [c])

/-- A line in pieces of at most so many columns, where `sofar` is the piece that is being
made. -/
def foldLine (bytes atBlanks : Bool) (width : Nat) (sofar : Octets) : Octets → Octets
  | [] => sofar
  | c :: rest =>
    let (pieces, last) := breakBefore bytes atBlanks width c (sofar.length + 1) sofar
    Octets.unlines pieces ++ foldLine bytes atBlanks width last rest

def fold : Tool := fun t =>
  let arguments := t.arguments.flatMap fun argument =>
    match argument with
    | '-' :: c :: rest => if c.isDigit then ["-w".toList, c :: rest] else [argument]
    | _ => [argument]
  let t : Task := { t with arguments }
  t.withArguments
      { plain := "bs", valued := "w"
        words := [("bytes", 'b'), ("spaces", 's'), ("width", 'w')] } 1 fun a =>
    let value := (a.value? 'w').getD "80".toList
    match Amount.readWithin 1 (18446744073709551606) value with
    | .error mistake => t.fails (mistake.message "number of columns" value) 1
    | .ok width =>
      t.overSources a.operands Task.plainly 1 fun sources =>
        Octets.joined ['\n'] ((Octets.splitAt '\n' (Task.textOf sources)).map
          (foldLine (a.has 'b') (a.has 's') width.toNat []))

/-! ## Tab stops -/

structure TabStops where
  stops : List Nat := []
  /-- Behind these there is a stop at every multiple of this, if it is not nought. -/
  multiple : Nat := 0
  /-- Or every so many columns behind the last one. -/
  step : Nat := 0
  deriving DecidableEq, Repr

namespace TabStops

def next (t : TabStops) (column : Nat) : Option Nat :=
  let every (n from_ : Nat) : Nat := column + (n - (column - from_) % n)
  match t.stops with
  | [] => some (every (if t.multiple ≠ 0 then t.multiple else if t.step ≠ 0 then t.step else 8) 0)
  | [n] => if t.multiple = 0 ∧ t.step = 0 then some (every n 0) else among every
  | _ => among every
where
  /-- The next single stop, or one behind all of them. -/
  among (every : Nat → Nat → Nat) : Option Nat :=
    match t.stops.find? (column < ·) with
    | some stop => some stop
    | none =>
      if t.multiple ≠ 0 then some (every t.multiple 0)
      else if t.step ≠ 0 then some (every t.step (t.stops.getLast?.getD 0))
      else none

structure Sofar where
  stops : TabStops := {}
  sign : Option Char := none
  number : Option Nat := none

def Sofar.finish (s : Sofar) : Sofar :=
  match s.number, s.sign with
  | none, _ => s
  | some n, none => { s with stops := { s.stops with stops := s.stops.stops ++ [n] }, number := none }
  | some n, some '/' => { s with stops := { s.stops with multiple := n }, number := none }
  | some n, some _ => { s with stops := { s.stops with step := n }, number := none }

def read (s : Sofar) : Octets → Except Octets TabStops
  | [] => .ok s.finish.stops
  | c :: rest =>
    if c = ',' ∨ c = ' ' ∨ c = '\t' then read s.finish rest
    else if c = '/' ∨ c = '+' then
      if s.number.isSome then
        .error (Octets.quoted [c] ++ " specifier not at start of number: ".toList ++
          Octets.quoted (c :: rest))
      else read { s with sign := some c } rest
    else if c.isDigit then
      read { s with number := some (s.number.getD 0 * 10 + (c.toNat - '0'.toNat)) } rest
    else .error ("tab size contains invalid character(s): ".toList ++ Octets.quoted (c :: rest))

def grow : List Nat → Bool
  | m :: n :: rest => decide (m < n) && grow (n :: rest)
  | _ => true

/-- The stops that some lists name together, or what is said about them. -/
def ofTexts (texts : List Octets) : Except Octets TabStops := do
  let t ← texts.foldlM (fun (t : TabStops) text => read { stops := t } text) {}
  if t.stops.contains 0 then .error "tab size cannot be 0".toList
  else if !grow t.stops then .error "tab sizes must be ascending".toList
  else if t.multiple ≠ 0 ∧ t.step ≠ 0 then
    .error "'/' specifier is mutually exclusive with '+'".toList
  else .ok t

end TabStops

/-- Arguments in which a dash before a number is an option. -/
def withStops (arguments : List Octets) : List Octets :=
  arguments.flatMap fun argument =>
    match argument with
    | '-' :: c :: rest => if c.isDigit then ["-t".toList, c :: rest] else [argument]
    | _ => [argument]

/-- A line with blanks in place of its tabs, perhaps only of those before anything else. -/
def expandLine (stops : TabStops) (initial : Bool) (column : Nat) : Octets → Octets
  | [] => []
  | c :: rest =>
    if c = '\t' then
      let next := (stops.next column).getD (column + 1)
      List.replicate (next - column) ' ' ++ expandLine stops initial next rest
    else if initial && !isBlank c then c :: rest
    else c :: expandLine stops initial (if c = '\x08' then column - 1 else column + 1) rest

def expand : Tool := fun t =>
  let t : Task := { t with arguments := withStops t.arguments }
  t.withArguments
      { plain := "i", valued := "t", words := [("initial", 'i'), ("tabs", 't')] } 1 fun a =>
    match TabStops.ofTexts (a.values 't') with
    | .error message => t.fails message 1
    | .ok stops =>
      t.overSources a.operands Task.plainly 1 fun sources =>
        Octets.joined ['\n'] ((Octets.splitAt '\n' (Task.textOf sources)).map
          (expandLine stops (a.has 'i') 0))

/-- A line that is being written with tabs in place of blanks. -/
structure Compressed where
  done : Octets := []
  column : Nat := 0
  pending : Octets := []
  /-- Whether the only pending blank stands right before a stop. -/
  atStop : Bool := false
  afterBlank : Bool := true
  converts : Bool := true

namespace Compressed

def write (l : Compressed) (c : Char) (whole : Bool) : Compressed :=
  let pending :=
    if 1 < l.pending.length && l.atStop then '\t' :: l.pending.drop 1 else l.pending
  { l with
    done := c :: pending.reverse ++ l.done, pending := [], atStop := false
    afterBlank := isBlank c, converts := l.converts && (whole || isBlank c) }

def push (stops : TabStops) (whole : Bool) (l : Compressed) (c : Char) : Compressed :=
  if !l.converts then { l with done := c :: l.done }
  else if isBlank c then
    match stops.next l.column with
    | none => { l.write c whole with converts := false }
    | some next =>
      /- A single blank right before the last stop is kept, and tabs are in its place. -/
      let kept : Octets := if l.atStop then l.pending.take 1 else []
      if c = '\t' then
        let kept := if l.pending.isEmpty then kept else kept.map fun _ => '\t'
        { l with column := next, pending := kept }.write '\t' whole
      else if l.afterBlank && l.column + 1 == next then
        { l with column := next, pending := kept.map fun _ => '\t' }.write '\t' whole
      else
        { l with
          column := l.column + 1, pending := l.pending ++ [c], afterBlank := true
          atStop := l.atStop || l.column + 1 == next }
  else if c = '\x08' then { l with column := l.column - 1 }.write c whole
  else { l with column := l.column + 1 }.write c whole

end Compressed

/-- A line with tabs in place of blanks, perhaps only of those before anything else. -/
def compressLine (stops : TabStops) (whole : Bool) (line : Octets) : Octets :=
  let l := line.foldl (Compressed.push stops whole) {}
  let pending :=
    if 1 < l.pending.length && l.atStop then '\t' :: l.pending.drop 1 else l.pending
  (pending.reverse ++ l.done).reverse

def unexpand : Tool := fun t =>
  let t : Task := { t with arguments := withStops t.arguments }
  t.withArguments
      { plain := "a", valued := "t"
        words := [("all", 'a'), ("tabs", 't'), ("first-only", '\x01')] } 1 fun a =>
    match TabStops.ofTexts (a.values 't') with
    | .error message => t.fails message 1
    | .ok stops =>
      let whole := (a.has 'a' || a.has 't') && !a.has '\x01'
      t.overSources a.operands Task.plainly 1 fun sources =>
        Octets.joined ['\n'] ((Octets.splitAt '\n' (Task.textOf sources)).map
          (compressLine stops whole))

/-!
## Lines beside one another

A tool that prints lines of several sources in one, or all lines of a source in one.
-/

/-- Texts with separators between them, which are used in turn. -/
def interleave (separators : List Octets) (place : Nat) : List Octets → Octets
  | [] => []
  | [last] => last
  | text :: rest =>
    text ++ (separators[place % separators.length]?).getD [] ++
      interleave separators (place + 1) rest

def separatorsOf : Octets → List Octets
  | '\\' :: 'n' :: rest => ['\n'] :: separatorsOf rest
  | '\\' :: 't' :: rest => ['\t'] :: separatorsOf rest
  | '\\' :: '0' :: rest => [] :: separatorsOf rest
  | '\\' :: '\\' :: rest => ['\\'] :: separatorsOf rest
  | c :: rest => [c] :: separatorsOf rest
  | [] => []

/-- Takes a line from each source in turn; the input may be there several times. -/
def takeRow : List (Octets × List Octets) → List Octets → List (Option Octets) ×
    List (Octets × List Octets)
  | left, [] => ([], left)
  | left, name :: rest =>
    let line := ((left.lookup name).getD []).head?
    let left := left.map fun entry => if entry.1 = name then (name, entry.2.drop 1) else entry
    let (row, left) := takeRow left rest
    (line :: row, left)

/-- The rows of lines that stand beside one another, at most so many. -/
def rows (names : List Octets) : Nat → List (Octets × List Octets) → List (List Octets)
  | 0, _ => []
  | most + 1, left =>
    let (row, left) := takeRow left names
    if row.all Option.isNone then [] else row.map (·.getD []) :: rows names most left

/-- Prints lines beside one another, or all lines of a source in one. -/
def paste : Tool := fun t =>
  t.withArguments
      { plain := "sz", valued := "d"
        words := [("serial", 's'), ("delimiters", 'd'), ("zero-terminated", 'z')] } 1 fun a =>
    let separators := separatorsOf ((a.value? 'd').getD ['\t'])
    let separators := if separators.isEmpty then [[]] else separators
    t.overSources a.operands Task.plainly 1 fun sources =>
      if a.has 's' then
        Octets.ofRecords a.lineEnd (sources.map fun s =>
          interleave separators 0 (Octets.records a.lineEnd s.text))
      else
        let left := sources.map fun s => (s.name, Octets.records a.lineEnd s.text)
        let most := left.foldl (fun n entry => n + entry.2.length) 0
        Octets.ofRecords a.lineEnd
          ((rows (sources.map (·.name)) most left).map (interleave separators 0))

end CommandChains.Machine.Tool
