import CommandChains.Machine.Edit.State

/-!
# How the line editor works

A script is carried out on every line. What is left of the line is printed in the end, if
that is not forbidden.
-/

namespace CommandChains.Machine.Edit

/-! ## Replacements -/

def Letters.put (letters : Letters) (text : Octets) : Octets :=
  match letters with
  | .given => text
  | .capital => text.map Char.toUpper
  | .small => text.map Char.toLower

def inLetters (letters : Letters) (first : Option Letters) (text : Octets) : Octets :=
  match first, text with
  | some first, c :: rest => first.put [c] ++ letters.put rest
  | _, text => letters.put text

/-- What stands in the place of a match. Letters for a first character that has not come yet are
those of the piece before, unless a piece has its own. -/
def replacementText (m : Expression.Match) (line : Octets) :
    Option Letters → List Piece → Octets
  | _, [] => []
  | waiting, p :: rest =>
    let first := p.first.or waiting
    let matched := (p.group.map (m.textOf line)).getD []
    let behind := if p.text.isEmpty then first else none
    let waits := p.group.isSome && matched.isEmpty && p.first.isSome
    inLetters p.letters first p.text ++ inLetters p.letters behind matched ++
      replacementText m line (if waits then behind else none) rest

/-- A line with matches replaced, from a place on and from the match of this number on, in
so many rounds. Says whether any was. -/
def replaceFrom (p : Pattern) (r : Replacement) (line : Octets) (text : Array Char) :
    Nat → Nat → Nat → Option Nat → Octets × Bool
  | 0, start, _, _ => (line.drop start, false)
  | rounds + 1, start, count, previous =>
    match (p.meant.startsFrom p.how text start).findSome? (p.meant.longestAt p.how text) with
    | none => (line.drop start, false)
    | some m =>
      let before := (line.drop start).take (m.start - start)
      let one := (line.drop m.start).take 1
      if m.start = m.stop ∧ previous = some m.start then
        if m.start < line.length then
          let (rest, done) := replaceFrom p r line text rounds (m.start + 1) count none
          (before ++ one ++ rest, done)
        else (before, false)
      else
        let least := r.first.getD 1
        let wanted := decide (count = least) || (r.all && decide (least ≤ count))
        let put := if wanted then replacementText m line none r.pieces else m.textOf line 0
        if wanted && !r.all then (before ++ put ++ line.drop m.stop, true)
        else if m.start = m.stop then
          if m.start < line.length then
            let (rest, done) := replaceFrom p r line text rounds (m.start + 1) (count + 1) none
            (before ++ put ++ one ++ rest, done || wanted)
          else (before ++ put, wanted)
        else
          let (rest, done) := replaceFrom p r line text rounds m.stop (count + 1) (some m.stop)
          (before ++ put ++ rest, done || wanted)

/-! ## Lines with everything visible -/

/-- A character as it is shown if everything is to be visible. -/
def visibleCharacter (c : Char) : Octets :=
  match c with
  | '\\' => "\\\\".toList
  | '\x07' => "\\a".toList
  | '\x08' => "\\b".toList
  | '\x0c' => "\\f".toList
  | '\n' => "\\n".toList
  | '\r' => "\\r".toList
  | '\t' => "\\t".toList
  | '\x0b' => "\\v".toList
  | c =>
    if 32 ≤ c.toNat ∧ c.toNat < 127 then [c]
    else '\\' :: Octets.padded 3 (Nat.toDigits 8 c.toNat) '0'

/-- A line as it is shown with everything visible, in pieces of less than so many columns,
where so many are used. -/
def visible (width used : Nat) : Octets → Octets
  | [] => ['$']
  | c :: rest =>
    let shown := visibleCharacter c
    if 0 < width ∧ width - 1 < used + shown.length then
      '\\' :: '\n' :: shown ++ visible width shown.length rest
    else shown ++ visible width (used + shown.length) rest

inductive Flow where
  | at_ (place : Nat)
  /-- With the next line; the rest of this one is printed before, if that is usual. -/
  | nextLine (prints : Bool)
  /-- With the next line, where nothing is left of this one. -/
  | nothingLeft
  | stop
  deriving DecidableEq, Repr

namespace Act

/-! ## Telling -/

def tellLine (c : Setting) : Act Unit := do
  if c.telling then tell c ("PATTERN: ".toList ++ listedText (← get).line ++ ['\n'])

def tellKept (c : Setting) : Act Unit := do
  if c.telling then tell c ("HOLD:    ".toList ++ listedText (← get).kept ++ ['\n'])

def tellCommand (c : Setting) (place : Nat) (command : Command) : Act Unit := do
  if c.telling then
    let s ← get
    let (text, depth) := command.listing c.commands (s.ran.contains place) s.depth
    modify fun s => { s with depth }
    tell c ("COMMAND: ".toList ++ text)

/-- Tells where the groups of an expression have been found. -/
def tellGroups (c : Setting) (p : Pattern) (m : Expression.Match) : Act Unit := do
  if c.telling then
    let line := (← get).line
    tell c "MATCHED REGEX REGISTERS\n".toList
    for number in List.range (p.meant.groupCount + 1) do
      match m.group? number with
      | some (start, stop) =>
        tell c ("  regex[".toList ++ Octets.ofNat number ++ "] = ".toList ++ Octets.ofNat start ++
          '-' :: Octets.ofNat stop ++ " '".toList ++ m.textOf line number ++ "'\n".toList)
      | none => pure ()

def tellEnd (c : Setting) : Act Unit := do
  if c.telling then tell c "END-OF-CYCLE:\n".toList

/-! ## Lines that are meant -/

def meant (c : Setting) (p : Option Pattern) : Act Pattern := do
  match p.or (← get).recent with
  | none => fail c (c.place ++ "no previous regular expression".toList) 1
  | some p => do
    modify fun s => { s with recent := some p }
    pure p

/-- The text in which an expression is looked for at a place: where newlines do not end lines,
lines that are taken for themselves end with other characters. -/
def findFrom (c : Setting) (p : Pattern) (text : Array Char) (start : Nat) :
    Option Expression.Match :=
  let how := if c.mark = '\n' then p.how else { p.how with severalLines := false }
  (p.meant.startsFrom how text start).findSome? (p.meant.longestAt how text)

def isAt (c : Setting) (a : Address) : Act Bool := do
  match a with
  | .number n => do pure ((← get).number == n)
  | .last => atLast c
  | .always => pure true
  | .every first step => do
    let number := (← get).number
    pure (if step = 0 then number == first
      else decide (first ≤ number) && (number - first) % step == 0)
  | .matching p => do
    let p ← meant c p
    pure (findFrom c p (← get).line.toArray 0).isSome

def closeRange (place : Nat) : Act Unit :=
  modify fun s => { s with ranges := s.ranges.filter fun range => range.1 != place }

/-- Begins the range of the command at a place, with its last line if it is known. -/
def openRange (place : Nat) (last : Option Nat) : Act Unit :=
  modify fun s =>
    if last.any (decide <| · ≤ s.number) then s
    else { s with ranges := (place, last) :: s.ranges }

/-- Whether the command at a place is for the line. -/
def isFor (c : Setting) (place : Nat) (command : Command) : Act Bool := do
  match command.first, command.second with
  | none, _ => pure true
  | some a, none => isAt c a
  | some a, some end_ =>
    let s ← get
    let begun := match a, s.number with
      | .number 0, 1 => some none
      | _, _ => s.ranges.lookup place
    match begun with
    | some (some last) =>
      if s.number < last then pure true
      else do
        closeRange place
        pure (decide (s.number ≤ last))
    | some none =>
      match end_ with
      | .address b => do
        if ← isAt c b then closeRange place
        else if (s.ranges.lookup place).isNone then openRange place none
        pure true
      | _ => pure true
    | none =>
      if !(← isAt c a) then pure false
      else do
        match end_ with
        | .address (.number n) => openRange place (some n)
        | .address .last => if !(← atLast c) then openRange place none
        | .address .always => pure ()
        | .address _ => openRange place none
        | .more n => openRange place (some (s.number + n))
        | .multiple n => openRange place (some ((s.number + n - 1) / n * n))
        pure true

/-! ## Commands -/

def replace (c : Setting) (r : Replacement) : Act Unit := do
  let p ← meant c r.pattern
  let most := r.pieces.foldl (fun n piece => max n (piece.group.getD 0)) 0
  if p.meant.groupCount < most then
    fail c (c.place ++ "invalid reference \\".toList ++ Octets.ofNat most ++
      " on \x60s' command's RHS".toList) 1
  let p := if c.mark = '\n' then p else { p with how := { p.how with severalLines := false } }
  let line := (← get).line
  let text := line.toArray
  match findFrom c p text 0 with
  | none => pure ()
  | some m => do
    tellGroups c p m
    let (line, done) := replaceFrom p r line text (line.length + 2) 0 1 none
    if done then
      modify fun s => { s with line, replaced := true }
      if r.runs then
        if r.printsBefore then sayLine c line
        let output ← heard c line
        modify fun s =>
          { s with
            line := if output.getLast? == some c.mark then output.dropLast else output }
      else if r.printsBefore then sayLine c line
      if r.prints then sayLine c (← get).line
      match r.file with
      | some path => do
        let s ← get
        writeLine c path s.line s.ends
      | none => pure ()
  tellLine c

def placeOf (c : Setting) (name : Octets) : Nat :=
  if name.isEmpty then c.commands.size else (placeOf? c.commands name).getD c.commands.size

def firstLine? (c : Setting) (line : Octets) : Option Octets :=
  if line.contains c.mark then some (line.takeWhile (· != c.mark)) else none

/-- Goes on to the next line, which replaces the line or is put behind it. -/
def goOn (c : Setting) (keeping : Bool) : Act Bool := do
  if ← atLast c then pure false
  else
    if !keeping && !c.quiet then sayLine c (← get).line
    if ← advance c keeping then
      tellLine c
      pure true
    else pure false

def perform (c : Setting) (place : Nat) (command : Command) : Act Flow := do
  let s ← get
  let next : Act Flow := pure (.at_ (place + 1))
  match command.action with
  | .opens | .closes | .label _ => next
  | .delete false => pure (.nextLine false)
  | .delete true =>
    match firstLine? c s.line with
    | some first => do
      modify fun s => { s with line := s.line.drop (first.length + 1) }
      tellLine c
      pure (.at_ 0)
    | none => pure .nothingLeft
  | .print false => do
    sayLine c s.line
    next
  | .print true => do
    match firstLine? c s.line with
    | some first => say c (first ++ [c.mark])
    | none => sayLine c s.line
    next
  | .number => do
    say c (Octets.ofNat s.number ++ [c.mark])
    next
  | .quit status silently => do
    modify fun s => { s with status := status.getD 0 % 256 }
    if !silently then
      if !c.quiet then sayLine c s.line
      dequeue c
    pure .stop
  | .next keeping => do
    if ← goOn c keeping then next
    else if keeping then
      tellEnd c
      if !c.quiet && !c.strict then sayLine c (← get).line
      dequeue c
      pure .stop
    else
      if !c.quiet then sayLine c (← get).line
      tellEnd c
      dequeue c
      pure .stop
  | .hold keeping => do
    modify fun s =>
      { s with
        kept := if keeping then s.kept ++ c.mark :: s.line else s.line, keptEnds := s.ends }
    tellKept c
    next
  | .get keeping => do
    modify fun s =>
      { s with
        line := if keeping then s.line ++ c.mark :: s.kept else s.kept, ends := s.keptEnds }
    if keeping then tellLine c else tellKept c
    next
  | .exchange => do
    modify fun s => { s with line := s.kept, ends := s.keptEnds, kept := s.line, keptEnds := s.ends }
    tellLine c
    tellKept c
    next
  | .replace r => do
    replace c r
    next
  | .translate pairs => do
    modify fun s => { s with line := s.line.map fun d => (pairs.lookup d).getD d }
    tellLine c
    next
  | .append text => do
    modify fun s => { s with queue := s.queue ++ [.text text] }
    next
  | .insert text => do
    sayText c text
    next
  | .change text => do
    if command.negated || (s.ranges.lookup place).isNone then sayText c text
    pure (.nextLine false)
  | .run text => do
    let output ← heard c text
    modify fun s => { s with ran := place :: s.ran }
    say c output
    next
  | .runLine => do
    let output ← heard c s.line
    modify fun s =>
      { s with
        line := if output.getLast? == some c.mark then output.dropLast else output
        ends := true }
    next
  | .jump name => pure (.at_ (placeOf c name))
  | .jumpIf wanted name => do
    modify fun s => { s with replaced := false }
    if s.replaced = wanted then pure (.at_ (placeOf c name)) else next
  | .list width => do
    say c (visible (width.getD c.width) 0 s.line ++ [c.mark])
    next
  | .source => do
    say c (((s.feed.map Feed.name).getD ['-']) ++ [c.mark])
    next
  | .clear => do
    modify fun s => { s with line := [] }
    tellLine c
    next
  | .readBefore path => do
    settle c
    put c (← contentsOf c path)
    next
  | .read path false => do
    modify fun s => { s with queue := s.queue ++ [.file path] }
    next
  | .read path true => do
    match ← takeFrom c path with
    | some text => modify fun s => { s with queue := s.queue ++ [.text text] }
    | none => pure ()
    next
  | .write path false => do
    writeLine c path s.line s.ends
    next
  | .write path true => do
    let first := firstLine? c s.line
    writeLine c path (first.getD s.line) (first.isSome || s.ends)
    next
  | .lost letter => fail c ("INTERNAL ERROR: Bad cmd ".toList ++ [letter]) 4

/-- Carries out the script on the line from a place on, in so many steps. -/
def script (c : Setting) : Nat → Nat → Act Flow
  | 0, _ => pure .stop
  | steps + 1, place => do
    match c.commands[place]? with
    | none => pure (.nextLine true)
    | some command => do
      tellCommand c place command
      if (← isFor c place command) != command.negated then
        match ← perform c place command with
        | .at_ place => script c steps place
        | flow => pure flow
      else
        match command.action with
        | .opens => script c steps (closing 0 (place + 1) (c.commands.toList.drop (place + 1)))
        | _ => script c steps (place + 1)

/-- How many steps are done with one line at most. -/
def stepLimit : Nat := 1000000

def lineLimit : Nat := 1000000000

/-- Carries out the script on all lines. Each round takes at least one line. -/
def lines (c : Setting) : Nat → Act Unit
  | 0 => pure ()
  | rounds + 1 => do
    if ← advance c false then
      if c.telling then
        let s ← get
        let name := match s.feed with
          | some f => if f.live then "STDIN".toList else f.name
          | none => ['-']
        tell c ("INPUT:   '".toList ++ name ++ "' line ".toList ++ Octets.ofNat s.number ++ ['\n'])
      tellLine c
      let flow ← script c stepLimit 0
      match flow with
      | .nextLine prints => do
        tellEnd c
        if prints && !c.quiet then sayLine c (← get).line
        lines c rounds
      | .stop => pure ()
      | _ => lines c rounds

/-- Carries out the script on all lines of all files, to the very end. -/
def whole (c : Setting) : Act Unit := do
  if c.telling then tell c (listedScript c.commands)
  lines c lineLimit
  closeFeed c

def outcome (c : Setting) (s : State) : Performance :=
  let (result, s) := (whole c).run.run s
  let s := (flush.run.run s).2
  let status := match result with
    | .ok () => if s.failed then 2 else s.status
    | .error () => s.status
  s.sequel.performance s.sequel.input status

end Act

end CommandChains.Machine.Edit
