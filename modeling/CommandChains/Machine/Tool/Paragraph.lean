import CommandChains.Machine.Tool.Fields
import CommandChains.Machine.Tool.Basic

/-!
# Paragraphs

A tool that breaks the lines of paragraphs anew. Of all ways to break a paragraph it takes
the one that costs least: lines are to be about as long as each other and as is wanted, and
breaks are better behind sentences than within them.
-/

namespace CommandChains.Machine.Paragraph

/-! ## Words -/

structure Word where
  text : Octets
  space : Nat
  opens : Bool
  period : Bool
  punctuated : Bool
  final : Bool
  deriving DecidableEq, Repr

def isMark (c : Char) : Bool := decide ('!' ≤ c) && decide (c ≤ '~') && !c.isAlphanum

def Word.ofText (text : Octets) : Word :=
  let closing (c : Char) : Bool := ")]'\"".contains c
  let trimmed := match text.reverse.dropWhile closing with
    | [] => text.take 1
    | rest => rest.reverse
  { text, space := 0, final := false
    opens := text.head?.any fun c => "(['\x60\"".contains c
    period := trimmed.getLast?.any fun c => ".?!".contains c
    punctuated := text.getLast?.any isMark }

/-! ## Costs -/

def square (n : Int) : Int := n * n

/-- The cost of a line that is so much too short or too long. -/
def shortCost (n : Int) : Int := square (n * 10)

/-- The cost of a break in front of a word that does not depend on the line, where the words
before it are known, the nearest first. -/
def baseCost (before : List Word) (w : Word) : Int :=
  let behind : Int := match before with
    | [] => 0
    | last :: others =>
      if last.period then (if last.final then -square 50 else square 600)
      else if last.punctuated then -square 40
      else if others.head?.any Word.final then square 200 / (last.text.length + 2)
      else 0
  let own : Int := if w.opens then -square 40
    else if w.final then square 150 / (w.text.length + 2)
    else 0
  square 70 + behind + own

/-- The best way to go on from a word: what it costs, how many words its line holds, how long
the line is, and whether it is the last one. -/
structure Plan where
  word : Word
  cost : Int
  count : Nat
  length : Nat
  isLast : Bool

structure Widths where
  most : Nat
  goal : Nat

/-- The cost of a line of some length in front of what has been planned. -/
def lineCost (w : Widths) (length : Nat) (rest : List Plan) : Int :=
  match rest with
  | [] => 0
  | next :: _ =>
    let own := shortCost ((w.goal : Int) - length)
    if next.isLast then next.cost + own
    else next.cost + own + shortCost ((length : Int) - next.length) / 2

/-- The best line among those that hold so many words or more, where the words behind it are
planned. -/
def bestFrom (w : Widths) (count length space : Nat) (best : Option (Int × Nat × Nat × Bool)) :
    List Plan → Option (Int × Nat × Nat × Bool)
  | [] =>
    if best.all fun b => (0 : Int) < b.1 then some (0, count, length, true) else best
  | next :: rest =>
    let cost := lineCost w length (next :: rest)
    let best := if best.all fun b => cost < b.1 then some (cost, count, length, false) else best
    let length := length + space + next.word.text.length
    if length < w.most then bestFrom w (count + 1) length next.word.space best rest else best

/-- Plans for the words of a paragraph, where lines but the first are indented so far. -/
def plansFrom (w : Widths) (indent : Nat) : List Word → List Word → List Plan
  | _, [] => []
  | before, word :: rest =>
    let plans := plansFrom w indent (word :: before) rest
    plan before word indent plans :: plans
where
  plan (before : List Word) (word : Word) (indent : Nat) (plans : List Plan) : Plan :=
    let (cost, count, length, isLast) :=
      (bestFrom w 1 (indent + word.text.length) word.space none plans).getD (0, 1, 0, true)
    { word, cost := cost + baseCost before word, count, length, isLast }

/-- The plans for a paragraph. Its first line is indented differently. -/
def plans (w : Widths) (first indent : Nat) (words : List Word) : List Plan :=
  match words with
  | [] => []
  | word :: rest =>
    let others := plansFrom w indent [word] rest
    plansFrom.plan w [] word first others :: others

/-! ## Reading -/

/-- What is put in front of the lines that are looked at. -/
structure Lead where
  blanks : Nat
  text : Octets
  length : Nat

def Lead.ofText (text : Octets) : Lead :=
  let rest := text.dropWhile (· == ' ')
  { blanks := text.length - rest.length, length := rest.length
    text := (rest.reverse.dropWhile (· == ' ')).reverse }

structure Manner where
  widths : Widths
  lead : Lead
  crown : Bool
  split : Bool
  tagged : Bool
  uniform : Bool

structure Place where
  rest : Octets
  column : Nat := 0
  leadColumn : Nat := 0
  tabs : Bool := false

def Place.afterSpace (p : Place) : Place :=
  let blanks := p.rest.takeWhile fun c => c == ' ' || c == '\t'
  let column := blanks.foldl (fun n c => if c = '\t' then (n / 8 + 1) * 8 else n + 1) p.column
  { p with rest := p.rest.drop blanks.length, column, tabs := p.tabs || blanks.contains '\t' }

/-- Goes on behind as much of the lead as is there, and says whether all of it is. -/
def Place.afterLead (p : Place) : Octets → Place × Bool
  | [] => (p, true)
  | c :: lead =>
    if p.rest.head? = some c then { p with rest := p.rest.drop 1, column := p.column + 1 }.afterLead lead
    else (p, false)

def Place.beginLine (l : Lead) (p : Place) : Place :=
  let p := { p with column := 0 }.afterSpace
  if l.text.isEmpty then { p with leadColumn := min l.blanks p.column }
  else
    match { p with leadColumn := p.column }.afterLead l.text with
    | (p, true) => p.afterSpace
    | (p, false) => p

def Place.atEnd (p : Place) : Bool := p.rest.head?.all (· == '\n')

/-- The words of a line, at most so many, and the place behind the line. -/
def Place.words (m : Manner) : Nat → Place → List Word × Place
  | 0, p => ([], p)
  | most + 1, p =>
    -- The first character belongs to the word whatever it is.
    let text := p.rest.take 1 ++ (p.rest.drop 1).takeWhile fun c => !Octets.isSpace c
    let after := { p with rest := p.rest.drop text.length, column := p.column + text.length }
    let next := after.afterSpace
    let word := Word.ofText text
    let space := next.column - after.column
    let final := next.rest.isEmpty || (word.period && (next.rest.head? == some '\n' || 1 < space))
    let space := if next.atEnd || m.uniform then (if final then 2 else 1) else space
    let word := { word with space, final }
    if next.atEnd then ([word], { next with rest := next.rest.drop 1 }.beginLine m.lead)
    else
      let (others, last) := next.words m most
      (word :: others, last)

/-- Whether a line goes on with the paragraph whose lead begins at a column. -/
def Place.continues (m : Manner) (leadColumn : Nat) (p : Place) : Bool :=
  p.leadColumn == leadColumn && decide (p.leadColumn + m.lead.length ≤ p.column) && !p.atEnd

/-- The words of the lines that go on with a paragraph at a column, at most so many lines. -/
def Place.linesAt (m : Manner) (leadColumn column : Nat) : Nat → Place → List Word × Place
  | 0, p => ([], p)
  | most + 1, p =>
    if p.continues m leadColumn && p.column == column then
      let (words, p) := p.words m p.rest.length
      let (others, p) := p.linesAt m leadColumn column most
      (words ++ others, p)
    else ([], p)

/-! ## Writing -/

structure Output where
  text : Octets := []
  column : Nat := 0

def Output.space (tabs : Bool) (count : Nat) (o : Output) : Output :=
  let goal := o.column + count
  let stop := goal / 8 * 8
  let tabbed : Octets × Nat := if tabs && o.column + 1 < stop then
      (List.replicate (stop / 8 - o.column / 8) '\t', stop)
    else ([], o.column)
  { text := o.text ++ tabbed.1 ++ List.replicate (goal - tabbed.2) ' ', column := max goal o.column }

def Output.add (text : Octets) (o : Output) : Output :=
  { text := o.text ++ text, column := o.column + text.length }

def lineOf (m : Manner) (tabs : Bool) (leadColumn indent : Nat) (words : List Word) : Octets :=
  let front := (Output.space tabs leadColumn {}).add m.lead.text
  let front := front.space tabs (indent - front.column)
  let all := words.zipIdx.foldl (fun (o : Output) (word, n) =>
    let o := o.add word.text
    if n + 1 < words.length then o.space tabs word.space else o) front
  all.text ++ ['\n']

/-- The lines of a planned paragraph, at most so many. -/
def linesOf (m : Manner) (tabs : Bool) (leadColumn indent other : Nat) :
    Nat → List Plan → Octets
  | 0, _ => []
  | most + 1, plans =>
    match plans with
    | [] => []
    | plan :: _ =>
      lineOf m tabs leadColumn indent ((plans.take plan.count).map Plan.word) ++
        linesOf m tabs leadColumn other other most (plans.drop plan.count)

/-- A line that belongs to no paragraph, as it is. -/
def copied (m : Manner) (p : Place) : Octets :=
  let o : Output := {}
  let ended := p.atEnd
  let line := p.rest.takeWhile (· != '\n')
  let front := if p.leadColumn < p.column || !ended then
      let o := o.space p.tabs p.leadColumn
      let o := o.add (m.lead.text.take (p.column - o.column))
      let o := if ended then o else o.space p.tabs (p.column - o.column)
      o.text ++ if p.rest.isEmpty && p.leadColumn + m.lead.text.length ≤ p.column then ['\n'] else []
    else []
  front ++ line

/-! ## Paragraphs -/

def otherIndent (m : Manner) (first before : Nat) (p : Place) (continues : Bool) : Nat :=
  if m.split then first
  else if m.crown then (if continues then p.column else first)
  else if m.tagged then
    if continues && p.column != first then p.column
    else if before = first then (if first = 0 then 3 else 0)
    else before
  else first

/-- Breaks paragraphs anew, at most so many lines and paragraphs, where the indent of the
paragraph before is known. -/
def format (m : Manner) (other : Nat) : Nat → Place → Octets
  | 0, _ => []
  | most + 1, p =>
    if p.atEnd || p.leadColumn < m.lead.blanks || p.column < p.leadColumn + m.lead.length then
      let line := p.rest.takeWhile (· != '\n')
      let shown := copied m p
      match p.rest.drop line.length with
      | [] => shown
      | _ :: rest => shown ++ '\n' :: format m other most ({ p with rest }.beginLine m.lead)
    else
      let leadColumn := p.leadColumn
      let first := p.column
      let (words, next) := p.words m p.rest.length
      let continues := next.continues m leadColumn
      let other := otherIndent m first other next continues
      let (more, next) : List Word × Place :=
        if m.split then ([], next)
        else if m.crown || m.tagged then
          if continues && (m.crown || next.column != first) then
            let (words, next) := next.words m next.rest.length
            let (others, next) := next.linesAt m leadColumn other next.rest.length
            (words ++ others, next)
          else ([], next)
        else next.linesAt m leadColumn other next.rest.length
      let all := words ++ more
      let all := all.dropLast ++ (all.getLast?.map fun word =>
        { word with period := true, final := true }).toList
      linesOf m next.tabs leadColumn first other all.length (plans m.widths first other all) ++
        format m other most next

/-! ## The tool -/

/-- The width that an option says, up to a limit. -/
def width (most : Nat) (text : Octets) : Except Octets Nat :=
  match Amount.readWithin 0 most text with
  | .ok n => .ok n.toNat
  | .error mistake => .error (mistake.message "width" text)

def widthsOf (a : Arguments) : Except Octets Widths := do
  let most? ← (a.value? 'w').mapM (width 2500)
  let most := most?.getD 75
  match a.value? 'g' with
  | none => pure { most, goal := most * 187 / 200 }
  | some text =>
    let goal ← width most text
    pure { most := most?.getD (goal + 10), goal }

def reflow : Tool := fun t =>
  let arguments := match t.arguments with
    | ('-' :: c :: digits) :: rest =>
      if c.isDigit then "-w".toList :: (c :: digits) :: rest else t.arguments
    | arguments => arguments
  let t : Task := { t with arguments }
  t.withArguments
      { plain := "0123456789cstu", valued := "wgp"
        words := [("crown-margin", 'c'), ("prefix", 'p'), ("split-only", 's'),
          ("tagged-paragraph", 't'), ("uniform-spacing", 'u'), ("width", 'w'), ("goal", 'g')] }
        1 fun a =>
    match a.options.find? fun option => option.1.isDigit with
    | some (c, _) =>
      t.refuses ("invalid option -- ".toList ++ c ::
        "; -WIDTH is recognized only when it is the first\noption; use -w N instead".toList) 1
    | none =>
      match widthsOf a with
      | .error message => t.fails message 1
      | .ok widths =>
        let m : Manner :=
          { widths, lead := .ofText ((a.value? 'p').getD []), crown := a.has 'c', split := a.has 's'
            tagged := a.has 't', uniform := a.has 'u' }
        let message (s : Source) (reason : Octets) : Octets :=
          if s.isDirectory then "read error".toList
          else "cannot open ".toList ++ Octets.shellQuoted s.name ++ " for reading: ".toList ++ reason
        t.overSources a.operands message 1 fun sources =>
          sources.flatMap fun s =>
            format m 0 (s.text.length + 1) ({ rest := s.text : Place }.beginLine m.lead)

end CommandChains.Machine.Paragraph
