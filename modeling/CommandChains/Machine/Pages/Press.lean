import CommandChains.Machine.Calendar.Basic
import CommandChains.Machine.Octets

/-!
# Pages

How pages are set, and how their columns are filled and printed.
-/

namespace CommandChains.Machine.Pages

/-!
## How pages are set

Texts are set in pages with a heading, in one column or several. Columns are filled one after
the other from a text, or from line to line across, or each from a text of its own.
-/

structure Settings where
  /-- The lines of a page, with its heading and foot. -/
  pageLines : Nat := 66
  lineWidth : Int := 72
  columns : Nat := 1
  explicit : Bool := false
  storing : Bool := true
  across : Bool := false
  parallel : Bool := false
  controlMarks : Bool := false
  octalMarks : Bool := false
  doubleSpace : Bool := false
  dateTemplate : Option Octets := none
  expands : Bool := false
  inputTab : Char := '\t'
  inputTabWidth : Nat := 8
  usesFeeds : Bool := false
  heading : Option Octets := none
  shrinks : Bool := false
  outputTab : Char := '\t'
  outputTabWidth : Nat := 8
  joins : Bool := false
  numbered : Bool := false
  numberSeparator : Char := '\t'
  numberDigits : Nat := 5
  /-- Whether lines of pages that are left out are counted. -/
  skipCount : Bool := true
  firstNumber : Int := 1
  margin : Int := 0
  quietAboutFiles : Bool := false
  separated : Bool := false
  separator : Octets := []
  extremities : Bool := true
  keepsFeeds : Bool := false
  truncates : Bool := false
  firstPage : Nat := 0
  lastPage : Option Nat := none

namespace Settings

def headingLines : Nat := 5

/-- The number of columns up to the next place of a tab. -/
def tabWidth (width : Nat) (position : Int) : Int :=
  (width : Int) - (position.toNat % width : Nat)

def afterTab (width : Nat) (position : Int) : Int := position + tabWidth width position

/-- How much room a number takes with what stands behind it. -/
def numberWidth (s : Settings) : Int :=
  if s.numberSeparator = '\t' then s.numberDigits + tabWidth 8 s.numberDigits
  else s.numberDigits + 1

/-- The lines of a page without its heading and foot. -/
def bodyLines (s : Settings) : Nat :=
  let lines := if s.extremities then s.pageLines - 2 * headingLines else s.pageLines
  if s.doubleSpace then max 1 (lines / 2) else lines

/-- How pages are set for so many texts, where some settings follow from others. -/
def settled (s : Settings) (files : Nat) : Settings :=
  let s := if s.pageLines ≤ 2 * headingLines then { s with extremities := false, keepsFeeds := true }
    else s
  let s := if files = 0 then { s with parallel := false } else s
  let s := if s.parallel then { s with columns := files } else s
  let tabbed := s.separator = ['\t']
  let s :=
    if 1 < s.columns then
      let s :=
        if !s.separated then
          { s with separator := if s.joins then ['\t'] else [' '], separated := true }
        else if !s.joins && tabbed then { s with separator := [' '] }
        else s
      { s with
        truncates := true, shrinks := true, expands := s.expands || s.separator ≠ ['\t'] }
    else { s with storing := false }
  if s.joins then { s with truncates := false } else s

def columnWidth (s : Settings) : Int :=
  let numbers := if s.numbered && s.parallel then s.numberWidth else 0
  (s.lineWidth - numbers - ((s.columns : Int) - 1) * s.separator.length).tdiv s.columns

/-- How pages are set where the old ways to ask for widths and separators mean something
else. -/
def withOldWays (s : Settings) (hasWidth hasSeparator : Bool) : Settings :=
  let several := s.parallel || s.explicit
  if hasWidth then
    if several then { s with truncates := true, separated := s.separated || hasSeparator }
    else { s with joins := true }
  else if !s.separated && hasSeparator && several then
    if s.truncates then { s with separated := true }
    else { s with joins := true, separated := !s.separator.isEmpty }
  else s

end Settings

/-!
## Printing pages

How the columns of pages are filled and printed. Blanks and separators are owed until something
follows them, so that no line ends with them and tabs can stand for blanks. A column that is
filled before others is stored until a line of all columns is printed.
-/

inductive Status where
  | isOpen
  /-- The page ends with a form feed that stands in the text. -/
  | feedFound
  | onHold
  | closed
  deriving DecidableEq

structure Column where
  file : Nat
  status : Status := .isOpen
  stores : Bool := false
  numbered : Bool := false
  start : Int := 0
  stored : Int := 0
  line : Nat := 0
  /-- The lines that are still to be printed on the page. -/
  due : Int := 0
  full : Bool := false
  deriving Inhabited

def anywhere : Int := 0

structure Press where
  columns : Array Column
  texts : Array Octets
  printed : Octets := []
  dateText : Octets := []
  fileText : Octets := []
  ready : Int := 0
  page : Nat := 1
  lineNumber : Int := 1
  lineCount : Int := 1
  inputPosition : Int := 0
  outputPosition : Int := 0
  spacesOwed : Int := 0
  separatorsOwed : Int := 0
  paddingOwed : Int := 0
  inLine : Bool := false
  alignsEmpty : Bool := false
  emptyLine : Bool := true
  feedOnly : Bool := false
  headingDue : Bool := false
  feedDue : Bool := false
  /-- Whether the line that is read is the last one of a page that is left out. -/
  lastLine : Bool := false
  /-- The lines that are stored, with the room that each takes. -/
  lines : Array (Octets × Int) := #[]
  /-- What has been stored of the line that is read, the last character first. -/
  storing : Octets := []

abbrev Work := StateM Press

namespace Work

open Settings

/-! ## Characters -/

def put (c : Char) : Work Unit := modify fun p => { p with printed := c :: p.printed }

def putMany (c : Char) (count : Int) : Work Unit :=
  modify fun p => { p with printed := List.replicate count.toNat c ++ p.printed }

/-- Prints the blanks that are owed, with tabs where they can stand for several. -/
def blanks (s : Settings) (goal : Int) : Nat → Int → Work Unit
  | 0, position => putMany ' ' (goal - position)
  | rounds + 1, position => do
    let next := afterTab s.outputTabWidth position
    if 1 < goal - position && next ≤ goal then
      put s.outputTab
      blanks s goal rounds next
    else putMany ' ' (goal - position)

def whiteSpace (s : Settings) : Work Unit := do
  let p ← get
  let goal := p.outputPosition + p.spacesOwed
  blanks s goal p.spacesOwed.toNat p.outputPosition
  modify fun p => { p with outputPosition := goal, spacesOwed := 0 }

def isShown (c : Char) : Bool := ' ' ≤ c && c ≤ '~'

def printChar (s : Settings) (c : Char) : Work Unit := do
  if s.shrinks then
    if c = ' ' then modify fun p => { p with spacesOwed := p.spacesOwed + 1 }
    else
      if 0 < (← get).spacesOwed then whiteSpace s
      let step : Int := if isShown c then 1 else if c = '\x08' then -1 else 0
      modify fun p => { p with outputPosition := p.outputPosition + step }
      put c
  else put c

/-- Prints or stores a character of the text of a column. -/
def handle (s : Settings) (k : Column) (c : Char) : Work Unit :=
  if k.stores then modify fun p => { p with storing := c :: p.storing } else printChar s c

def padTo (s : Settings) (position : Int) : Work Unit := do
  let p ← get
  if s.shrinks then set { p with spacesOwed := position - p.outputPosition }
  else
    putMany ' ' (position - p.outputPosition)
    modify fun p => { p with outputPosition := position }

def separator (s : Settings) : Work Unit := do
  if (← get).separatorsOwed ≤ 0 then
    if 0 < (← get).spacesOwed then whiteSpace s
  else
    for c in s.separator do
      if c = ' ' then modify fun p => { p with spacesOwed := p.spacesOwed + 1 }
      else
        if 0 < (← get).spacesOwed then whiteSpace s
        put c
        modify fun p => { p with outputPosition := p.outputPosition + 1 }
    if 0 < (← get).spacesOwed then whiteSpace s
    modify fun p => { p with separatorsOwed := 0 }

def number (s : Settings) (k : Column) : Work Unit := do
  let digits := Octets.padded s.numberDigits (Octets.ofInt (← get).lineNumber)
  modify fun p => { p with lineNumber := p.lineNumber + 1 }
  for c in digits.drop (digits.length - s.numberDigits) do
    handle s k c
  if 1 < s.columns then
    if s.numberSeparator = '\t' then
      for _ in [0:(s.numberWidth - s.numberDigits).toNat] do
        handle s k ' '
    else handle s k s.numberSeparator
  else
    handle s k s.numberSeparator
    if s.numberSeparator = '\t' then
      modify fun p => { p with outputPosition := afterTab s.outputTabWidth p.outputPosition }
  if s.truncates && !s.parallel then
    modify fun p => { p with inputPosition := p.inputPosition + s.numberWidth }

/-! ## Texts -/

def column (number : Nat) : Work Column := do pure (((← get).columns[number]?).getD { file := 0 })

def alter (number : Nat) (change : Column → Column) : Work Unit :=
  modify fun p => { p with columns := p.columns.modify number change }

def alterAll (change : Column → Column) : Work Unit :=
  modify fun p => { p with columns := p.columns.map change }

/-- Takes the next character of the text of a column. -/
def take (number : Nat) : Work (Option Char) := do
  let k ← column number
  match ((← get).texts[k.file]?).getD [] with
  | [] => pure none
  | c :: rest =>
    modify fun p => { p with texts := p.texts.set! k.file rest }
    pure (some c)

/-- Takes a newline of the text of a column, if one comes next. -/
def takeNewline (number : Nat) : Work Unit := do
  let k ← column number
  match ((← get).texts[k.file]?).getD [] with
  | '\n' :: rest => modify fun p => { p with texts := p.texts.set! k.file rest }
  | _ => pure ()

def close (s : Settings) (number : Nat) : Work Unit := do
  if (← column number).status ≠ .closed then
    if s.parallel then alter number fun k => { k with status := .closed, due := 0 }
    else
      alterAll fun k => { k with status := .closed, due := if k.stored = 0 then 0 else k.due }
    modify fun p => { p with ready := p.ready - 1 }

/-- The text of a column goes on with the next page. -/
def hold (s : Settings) (number : Nat) : Work Unit := do
  if s.parallel then alter number fun k => { k with status := .onHold }
  else alterAll fun k => { k with status := if s.storing then .feedFound else .onHold }
  alter number fun k => { k with due := 0 }
  modify fun p => { p with ready := p.ready - 1 }

def feed (s : Settings) (number : Nat) : Work Unit := do
  takeNewline number
  if s.keepsFeeds then modify fun p => { p with feedDue := true }
  hold s number

/-- The characters that stand for a character of a text, and the room they take. -/
def clump (s : Settings) (position : Int) (c : Char) : Octets × Int :=
  let octal : Octets :=
    '\\' :: Octets.padded 3 (Nat.toDigits 8 c.toNat) '0'
  if c = s.inputTab ∨ c = '\t' then
    let width := tabWidth (if c = s.inputTab then s.inputTabWidth else 8) position
    (if s.expands then List.replicate width.toNat ' ' else [c], width)
  else if isShown c then ([c], 1)
  else if s.octalMarks then (octal, 4)
  else if s.controlMarks then
    if c.toNat < 128 then (['\x5e', Char.ofNat (Nat.xor c.toNat 64)], 2) else (octal, 4)
  else if c = '\x08' then ([c], -1)
  else ([c], 0)

/-- The clump of a character, where the position goes on. -/
def nextClump (s : Settings) (c : Char) : Work Octets := do
  let position := (← get).inputPosition
  let (text, width) := clump s position c
  let text := if width < 0 && position = 0 then [] else text
  modify fun p => { p with inputPosition := max 0 (position + width) }
  pure text

def skipLine (s : Settings) (number : Nat) : Nat → Work Unit
  | 0 => pure ()
  | rounds + 1 => do
    match ← take number with
    | some '\n' => pure ()
    | some '\x0c' => feed s number
    | none => close s number
    | some _ => skipLine s number rounds

/-! ## Headings -/

def heading (s : Settings) : Work Unit := do
  modify fun p => { p with outputPosition := 0 }
  padTo s s.margin
  whiteSpace s
  let p ← get
  let page := "Page ".toList ++ Octets.ofNat p.page
  let used := p.dateText.length + p.fileText.length + page.length
  let room := (s.lineWidth - used).toNat
  let gap (n : Nat) : Octets := Octets.padded n [' ']
  let text := "\n\n".toList ++ List.replicate s.margin.toNat ' ' ++ p.dateText ++ gap (room / 2) ++
    p.fileText ++ gap (room - room / 2) ++ page ++ "\n\n\n".toList
  set { p with
    printed := text.reverse ++ p.printed, headingDue := false, outputPosition := 0 }

def align (s : Settings) (k : Column) : Work Unit := do
  modify fun p => { p with paddingOwed := k.start }
  let place := k.start - s.separator.length
  if 0 < place then
    padTo s place
    modify fun p => { p with paddingOwed := anywhere }
  if s.separated then separator s
  if k.numbered then number s k

def beginColumn (s : Settings) : Work Unit := do
  let padding := (← get).paddingOwed
  if padding ≠ anywhere then
    padTo s (padding - s.separator.length)
    modify fun p => { p with paddingOwed := anywhere }
  if s.separated then separator s

/-! ## Lines -/

/-- What comes before the text of a line in a column that is not stored. -/
def beginLine (s : Settings) (k : Column) : Work Unit := do
  modify fun p => { p with inLine := true }
  if (← get).headingDue && !s.storing then heading s
  if s.parallel && (← get).alignsEmpty then
    let count := (← get).separatorsOwed.toNat
    modify fun p => { p with separatorsOwed := 0 }
    for other in (← get).columns.toList.take count do
      align s other
      modify fun p => { p with separatorsOwed := p.separatorsOwed + 1 }
    modify fun p =>
      { p with
        paddingOwed := k.start, alignsEmpty := false
        spacesOwed := if s.truncates then s.columnWidth else 0 }
  beginColumn s

/-- Whether the position is behind the end of the column. -/
def isBehind (s : Settings) : Work Bool := do
  pure (s.truncates && decide (s.columnWidth < (← get).inputPosition))

/-- The rest of a line, and whether its end has been read. -/
def restOfLine (s : Settings) (number : Nat) (k : Column) : Nat → Work Bool
  | 0 => pure true
  | rounds + 1 => do
    match ← take number with
    | some '\n' => pure true
    | some '\x0c' =>
      feed s number
      pure true
    | none =>
      close s number
      pure true
    | some c =>
      let before := (← get).inputPosition
      let text ← nextClump s c
      if ← isBehind s then
        modify fun p => { p with inputPosition := before }
        pure false
      else
        for c in text do
          handle s k c
        restOfLine s number k rounds

def lineLimit : Nat := 1000000000

/-- Reads a line, and prints or stores it. Tells whether its end has been read. -/
def readLine (s : Settings) (number : Nat) : Work Bool := do
  let before := (← get).inputPosition
  let wasFull := (← column number).full
  let first ← take number
  let first ←
    if first = some '\x0c' && wasFull then do
      let second ← take number
      if second = some '\n' then take number else pure second
    else pure first
  alter number fun k => { k with full := false }
  match first with
  | some '\x0c' =>
    takeNewline number
    modify fun p => { p with feedOnly := true }
    if (← get).headingDue && !s.storing then
      modify fun p => { p with inLine := true }
      heading s
    else if s.keepsFeeds then modify fun p => { p with feedDue := true }
    hold s number
    pure true
  | none =>
    close s number
    pure true
  | some c =>
    let k ← column number
    let text ← if c = '\n' then pure [] else nextClump s c
    if ← isBehind s then
      modify fun p => { p with inputPosition := before }
      pure false
    else
      if !k.stores then beginLine s k
      if k.numbered then Work.number s k
      modify fun p => { p with emptyLine := false }
      if c = '\n' then pure true
      else
        for c in text do
          handle s k c
        restOfLine s number k lineLimit

def storedLine (s : Settings) (number : Nat) : Work Bool := do
  let k ← column number
  alter number fun k => { k with line := k.line + 1 }
  let (text, room) := ((← get).lines[k.line]?).getD ([], 0)
  modify fun p => { p with inLine := true }
  if (← get).headingDue then heading s
  let headingOnly ←
    if k.status = .feedFound then do
      alterAll fun k => { k with status := .onHold }
      pure (decide ((← column 0).due ≤ 0))
    else pure false
  if headingOnly then
    if !s.extremities then modify fun p => { p with inLine := false }
    pure true
  else
    beginColumn s
    for c in text do
      printChar s c
    if (← get).spacesOwed = 0 then
      let less := if k.start - s.separator.length = s.margin then s.separator.length else 0
      modify fun p => { p with outputPosition := k.start + room - less }
    pure true

/-! ## Pages -/

def readyColumns (s : Settings) : Work Nat := do
  let ready := (← get).columns.toList.filter fun k =>
    k.status = .isOpen || k.status = .feedFound ||
      (s.storing && decide (0 < k.stored) && decide (0 < k.due))
  pure ready.length

/-- Stores the lines of a column, at most so many. -/
def storeColumn (s : Settings) (number : Nat) : Nat → Work Unit
  | 0 => pure ()
  | rounds + 1 => do
    if 0 < (← get).ready then
      if (← column number).status = .isOpen then
        modify fun p => { p with inputPosition := 0 }
        if !(← readLine s number) then skipLine s number lineLimit
        let p ← get
        if (← column number).status = .isOpen || !p.storing.isEmpty then
          alter number fun k => { k with stored := k.stored + 1 }
          modify fun p =>
            { p with lines := p.lines.push (p.storing.reverse, p.inputPosition), storing := [] }
      storeColumn s number rounds

/-- Fills the columns of a page, and shares the lines among them. -/
def storeColumns (s : Settings) : Work Unit := do
  modify fun p => { p with lines := #[], storing := [] }
  alterAll fun k => { k with stored := 0 }
  for number in [0:s.columns] do
    if 0 < (← get).ready then
      let line := (← get).lines.size
      alter number fun k => { k with line }
      storeColumn s number s.bodyLines
  let total := (← get).lines.size
  let share (number : Nat) : Nat :=
    total / s.columns + if number < total % s.columns then 1 else 0
  modify fun p =>
    { p with
      columns := p.columns.mapIdx fun number k =>
        let before := ((List.range number).map share).foldl (· + ·) 0
        { k with stored := share number, line := before } }

def beginPage (s : Settings) : Work Unit := do
  if s.storing then
    storeColumns s
    alterAll fun k => { k with due := k.stored }
  else alterAll fun k => { k with due := if k.status = .isOpen then s.bodyLines else 0 }

/-- Texts that wait for the next page go on. -/
def resume (s : Settings) : Work Unit := do
  let waiting := (← get).columns.toList.filter fun k => k.status = .onHold
  modify fun p => { p with ready := p.ready + waiting.length }
  alterAll fun k => { k with status := if k.status = .onHold then .isOpen else k.status }
  if s.storing then
    let closed := (← column 0).status = .closed
    modify fun p => { p with ready := if closed then 0 else 1 }

/-- Prints a line in one column and those behind it. Tells whether something has been
printed. -/
def printColumns (s : Settings) : List Nat → Bool → Work Bool
  | [], sofar => pure sofar
  | number :: rest, sofar => do
    modify fun p => { p with inputPosition := 0 }
    let k ← column number
    let goOn (sofar : Bool) : Work Bool := do
      if s.separated then modify fun p => { p with separatorsOwed := p.separatorsOwed + 1 }
      printColumns s rest sofar
    if 0 < k.due || k.status = .feedFound then
      modify fun p => { p with feedOnly := false, paddingOwed := k.start }
      let whole ← if k.stores then storedLine s number else readLine s number
      if !whole then skipLine s number lineLimit
      let sofar := sofar || (← get).inLine
      alter number fun k => { k with due := k.due - 1 }
      if (← column number).due ≤ 0 && (← readyColumns s) = 0 then pure sofar
      else
        let k ← column number
        if s.parallel && k.status ≠ .isOpen then
          if (← get).emptyLine then modify fun p => { p with alignsEmpty := true }
          else if k.status = .closed || (k.status = .onHold && (← get).feedOnly) then align s k
        goOn sofar
    else
      if s.parallel then
        if (← get).emptyLine then modify fun p => { p with alignsEmpty := true }
        else align s k
      goOn sofar

/-- Prints the lines of a page while there is room. Tells how much room is left, and whether
something has been printed. -/
def printLines (s : Settings) : Nat → Int → Bool → Work (Int × Bool)
  | 0, left, sofar => pure (left, sofar)
  | rounds + 1, left, sofar => do
    if left ≤ 0 || (← readyColumns s) = 0 then pure (left, sofar)
    else
      modify fun p =>
        { p with
          outputPosition := 0, spacesOwed := 0, separatorsOwed := 0, inLine := false
          alignsEmpty := false, emptyLine := true }
      let sofar ← printColumns s (List.range s.columns) sofar
      let ended := (← get).inLine
      if ended then put '\n'
      let left := if ended then left - 1 else left
      if (← readyColumns s) = 0 && !s.extremities then pure (left, sofar)
      else if s.doubleSpace && sofar then
        put '\n'
        printLines s rounds (left - 1) sofar
      else printLines s rounds left sofar

def printPage (s : Settings) : Work Bool := do
  beginPage s
  if (← readyColumns s) = 0 then pure false
  else
    if s.extremities then modify fun p => { p with headingDue := true }
    modify fun p => { p with inLine := false }
    let room := if s.doubleSpace then 2 * s.bodyLines else s.bodyLines
    let (left, printed) ← printLines s (room + s.columns + 4) room false
    if left = 0 then
      alterAll fun k => { k with full := k.full || k.status = .isOpen }
    modify fun p => { p with inLine := printed }
    if printed && s.extremities then
      if s.usesFeeds then put '\x0c'
      else putMany '\n' (left + headingLines)
    else if s.keepsFeeds && (← get).feedDue then
      put '\x0c'
      modify fun p => { p with feedDue := false }
    let page := (← get).page + 1
    modify fun p => { p with page }
    if s.lastPage.any fun last => last < page then pure false
    else
      resume s
      pure true

def printPages (s : Settings) : Nat → Work Unit
  | 0 => pure ()
  | rounds + 1 => do
    if ← printPage s then printPages s rounds

/-! ## Pages that are left out -/

def skipRest (s : Settings) (number : Nat) : Nat → Option Char → Work Unit
  | 0, _ => pure ()
  | _, some '\n' => pure ()
  | _, some '\x0c' => do
    if (← get).lastLine then
      if s.parallel then alter number fun k => { k with full := false }
      else alterAll fun k => { k with full := false }
    takeNewline number
    hold s number
  | _, none => close s number
  | rounds + 1, some _ => do skipRest s number rounds (← take number)

def skipRead (s : Settings) (number : Nat) : Work Unit := do
  let wasFull := (← column number).full
  let first ← take number
  let first ←
    if first = some '\x0c' && wasFull then do
      let second ← take number
      if second = some '\n' then take number else pure second
    else pure first
  alter number fun k => { k with full := false }
  if (← get).lastLine then alter number fun k => { k with full := true }
  skipRest s number lineLimit first
  if s.skipCount && (!s.parallel || number = 0) && first ≠ some '\x0c' then
    modify fun p => { p with lineCount := p.lineCount + 1 }

def skipAll (s : Settings) : Work Unit := do
  for number in [0:s.columns] do
    if (← column number).status = .isOpen then skipRead s number

/-- Skips pages up to one. If there are not so many, it tells how many there are. -/
def skipTo (s : Settings) (page : Nat) : Nat → Nat → Work (Option Nat)
  | 0, _ => pure none
  | rounds + 1, now => do
    if page ≤ now then pure none
    else
      for _ in [0:s.bodyLines - 1] do
        skipAll s
      modify fun p => { p with lastLine := true }
      skipAll s
      if s.storing then
        alterAll fun k => { k with status := if k.status = .closed then .closed else .onHold }
      resume s
      modify fun p => { p with lastLine := false }
      if (← get).ready < 1 then pure (some now) else skipTo s page rounds (now + 1)

end Work

/-- The columns of pages, with where they begin, for texts of which the numbers are given. -/
def columnsOf (s : Settings) (files : List Nat) : Array Column :=
  let separator : Int := s.separator.length
  let width := s.columnWidth
  let first := if s.parallel && s.numbered then width + s.numberWidth else width
  let startOf (number : Nat) : Int :=
    if number = 0 then s.margin + separator
    else if !s.truncates then anywhere
    else s.margin + first + separator + ((number : Int) - 1) * (width + separator)
  ((List.range s.columns).map fun (number : Nat) =>
    ({ file := if s.parallel then (files[number]?).getD number else 0
       stores := s.storing
       numbered := s.numbered && (!s.parallel || number = 0)
       start := startOf number } : Column)).toArray

end CommandChains.Machine.Pages
