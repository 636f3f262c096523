import CommandChains.Machine.Arguments
import CommandChains.Machine.Expression
import CommandChains.Machine.Tool.Basic
import CommandChains.Machine.Quotation

/-!
# A tool that lists words in their contexts

Every word of some texts is shown in a line of its own, with what stands around it, and the lines
are in the order of the words. A line has a place for the word and what follows it and one for
what comes before; what does not fit there may stand at the other end of the line.
-/

namespace CommandChains.Machine.Keywords

/-! ## What is asked for -/

inductive Style where
  | plain
  | roff
  | tex
  deriving DecidableEq, Repr

inductive Words where
  | made (isPart : Char → Bool)
  | matched (e : Expression)

structure Request where
  newer : Bool := true
  gap : Nat := 3
  width : Nat := 72
  counts : Bool := false
  /-- Whether a line begins with what tells where it comes from. -/
  marked : Bool := false
  marksRight : Bool := false
  ignoreCase : Bool := false
  macroName : Octets := "xx".toList
  truncation : Octets := ['/']
  style : Option Style := none
  context : Option Octets := none
  word : Option Octets := none
  breaks : Option Octets := none
  ignored : Option Octets := none
  only : Option Octets := none

def sentenceEnd : Expression :=
  let blanks : Octets := [' ', '\t', '\n']
  .both (.character ['.', '?', '!'])
    (.both (.repeated (.character [']', '"', '\x27', ')', '\x7d']) 0 none)
      (.both
        (.either .lineEnd (.either (.character ['\t']) (.both (.character [' ']) (.character [' ']))))
        (.repeated (.character blanks) 0 none)))

def sentenceEndText : Octets :=
  "[.?!][]\"\x27)\x7d]*\\($\\|\t\\|  \\)[ \t\n]*".toList

/-! ## Occurrences of words -/

structure Source where
  name : Octets
  text : Array Char

structure Occurrence where
  file : Nat
  start : Nat
  stop : Nat
  left : Nat
  right : Nat
  /-- Where the line begins, or how many lines there are before. -/
  reference : Nat := 0
  deriving Inhabited

structure Search where
  words : Words
  /-- What ends a context; without it the text is one. -/
  context : Option Expression
  contextText : Octets
  ignoreCase : Bool
  ignored : Option (List Octets)
  only : Option (List Octets)
  counts : Bool
  marked : Bool

namespace Search

def at_ (text : Array Char) (place : Nat) : Char := (text[place]?).getD ' '

def isBlank (text : Array Char) (place : Nat) : Bool := Octets.isSpace (at_ text place)

def skipWhile (kind : Nat → Bool) (limit : Nat) : Nat → Nat → Nat
  | 0, place => place
  | rounds + 1, place =>
    if place < limit && kind place then skipWhile kind limit rounds (place + 1) else place

def skipBlanks (text : Array Char) (limit place : Nat) : Nat :=
  skipWhile (isBlank text) limit text.size place

def skipOthers (text : Array Char) (limit place : Nat) : Nat :=
  skipWhile (fun p => !isBlank text p) limit text.size place

def backBlanks (text : Array Char) (start : Nat) : Nat → Nat
  | 0 => 0
  | place + 1 =>
    if start < place + 1 && isBlank text place then backBlanks text start place else place + 1

def slice (text : Array Char) (start stop : Nat) : Octets := (text.extract start stop).toList

def skipSomething (s : Search) (text : Array Char) (limit place : Nat) : Nat :=
  match s.words with
  | .made isPart =>
    if isPart (at_ text place) then skipWhile (fun p => isPart (at_ text p)) limit text.size place
    else place + 1
  | .matched e =>
    match Expression.matchAt { ignoreCase := s.ignoreCase } e (slice text place limit) 0 with
    | some m => place + m.stop
    | none => place + 1

def nextWord? (s : Search) (text : Array Char) (limit place : Nat) : Option (Nat × Nat) :=
  match s.words with
  | .made isPart =>
    let start := skipWhile (fun p => !isPart (at_ text p)) limit text.size place
    if limit ≤ start then none
    else some (start, skipWhile (fun p => isPart (at_ text p)) limit text.size start)
  | .matched e =>
    let rest := slice text place limit
    (Expression.matchFrom { ignoreCase := s.ignoreCase, severalLines := true } e rest 0).map
      fun m => (place + m.start, place + m.stop)

def folded (s : Search) (text : Octets) : Octets :=
  if s.ignoreCase then text.map Char.toUpper else text

def wants (s : Search) (word : Octets) : Bool :=
  let isIn (list : List Octets) : Bool := (list.map s.folded).contains (s.folded word)
  !s.ignored.any isIn && s.only.all isIn

structure Lines where
  start : Nat := 0
  scan : Nat := 0
  count : Nat := 0

def Lines.to (text : Array Char) (references : Bool) (place : Nat) : Nat → Lines → Lines
  | 0, l => l
  | rounds + 1, l =>
    if l.scan < place then
      if at_ text l.scan = '\n' then
        let start := l.scan + 1
        let scan := if references then skipOthers text text.size start else start
        Lines.to text references place rounds { start, scan, count := l.count + 1 }
      else Lines.to text references place rounds { l with scan := l.scan + 1 }
    else l

structure Found where
  occurrences : List Occurrence := []
  longest : Nat := 0
  widest : Nat := 0
  lines : Lines := {}

def inContext (s : Search) (file : Nat) (text : Array Char) (limit : Nat) :
    Nat → Nat → Nat → Found → Found
  | 0, _, _, f => f
  | rounds + 1, begun, place, f =>
    match s.nextWord? text limit place with
    | none => f
    | some (start, stop) =>
      if stop = start then inContext s file text limit rounds begun (start + 1) f
      else
        let f := { f with longest := max f.longest (stop - start) }
        let lines := if s.marked || s.counts then
            f.lines.to text (s.marked || s.counts) start (text.size + 1)
          else f.lines
        let f := if s.marked then { f with lines } else f
        let goOn (begun : Nat) (f : Found) := inContext s file text limit rounds begun stop f
        if s.marked && start < lines.scan then goOn begun f
        else if !s.wants (slice text start stop) then goOn begun f
        else
          let f := { f with lines }
          let widest := if s.marked && !s.counts then
              max f.widest (skipOthers text text.size lines.start - lines.start) else f.widest
          let begun := if s.marked && lines.start = begun then
              skipBlanks text limit (skipOthers text limit begun) else begun
          let o : Occurrence :=
            { file, start, stop, left := begun, right := limit
              reference := if s.counts then lines.count else lines.start }
          goOn begun { f with occurrences := o :: f.occurrences, widest }

/-- The words of the contexts of a text from some place on. No context can begin with its
end. -/
def inText (s : Search) (file : Nat) (text : Array Char) : Nat → Nat → Found → Option Found
  | 0, _, f => some f
  | rounds + 1, place, f =>
    if text.size ≤ place then some f
    else
      let stop? : Option Nat := match s.context with
        | none => some text.size
        | some e =>
          let rest := slice text place text.size
          let how : Expression.Manner := { ignoreCase := s.ignoreCase, severalLines := true }
          match Expression.matchFrom how e rest 0 with
          | none => some text.size
          | some m => if m.start = 0 then none else some (place + m.stop)
      match stop? with
      | none => none
      | some stop =>
        let limit := backBlanks text place stop
        inText s file text rounds stop (s.inContext file text limit (text.size + 1) place place f)

end Search

/-! ## Lines -/

/-- A part of a line: a part of a text, which may be marked as cut. -/
structure Field where
  start : Nat := 0
  stop : Nat := 0
  cut : Bool := false

namespace Field

/-- The room that it takes, which is less than nothing if it ends before it begins. -/
def size (f : Field) : Int := (f.stop : Int) - f.start

end Field

structure Widths where
  half : Int
  before : Int
  after : Int
  reference : Nat
  deriving Repr

def Request.widths (r : Request) (reference : Nat) : Widths :=
  let marks := r.counts || r.marked
  let line : Int :=
    max 0 (if marks && !r.marksRight then (r.width : Int) - (reference + r.gap) else r.width)
  let half := line.tdiv 2
  let truncation : Int := r.truncation.length
  if r.newer then
    { half, before := max 0 (half - r.gap - 2 * truncation), after := half - 2 * truncation, reference }
  else { half, before := half - r.gap, after := half - (2 * truncation + 1), reference }

/-- The parts of a line: what stands at its left end, before the word, from the word on, and at
the right end. -/
structure Line where
  tail : Field := {}
  before : Field := {}
  after : Field := {}
  head : Field := {}

/-- Goes on over words and other characters while there is room: the last end that fits, and
where the next one would be. -/
def fitting (s : Search) (text : Array Char) (limit : Nat) (inside : Nat → Bool) :
    Nat → Nat → Nat → Nat × Nat
  | 0, stop, place => (stop, place)
  | rounds + 1, stop, place =>
    if place < limit && inside place then
      fitting s text limit inside rounds place (s.skipSomething text limit place)
    else (stop, place)

/-- Goes on over words and other characters until what is left fits. -/
def shrunk (s : Search) (text : Array Char) (limit : Nat) (width : Int) : Nat → Nat → Nat
  | 0, place => place
  | rounds + 1, place =>
    if (place : Int) + width < limit then
      shrunk s text limit width rounds (s.skipSomething text limit place)
    else place

def lineOf (r : Request) (s : Search) (w : Widths) (longest : Nat) (text : Array Char)
    (o : Occurrence) : Line :=
  let rounds := text.size + 1
  let cuts := !r.truncation.isEmpty
  let inAfter (place : Nat) : Bool := (place : Int) ≤ o.start + w.after
  let (afterStop, place) := fitting s text o.right inAfter rounds o.stop o.stop
  let afterStop := if inAfter place then place else afterStop
  let afterCut := cuts && afterStop < o.right
  let afterStop := Search.backBlanks text o.start afterStop
  let leap := w.half + longest
  let fieldStart : Nat :=
    if leap < (o.start : Int) - o.left then
      s.skipSomething text o.start ((o.start : Int) - leap).toNat
    else o.left
  let beforeStop := Search.backBlanks text fieldStart o.start
  let beforeStart := shrunk s text beforeStop w.before rounds fieldStart
  let beforeCut := cuts && o.left < Search.backBlanks text 0 beforeStart
  let beforeStart := Search.skipBlanks text text.size beforeStart
  let tailWidth : Int := w.before - ((beforeStop : Int) - beforeStart) - r.gap
  let (tail, afterCut) : Field × Bool :=
    if 0 < tailWidth then
      let start := Search.skipBlanks text text.size afterStop
      let inTail (place : Nat) : Bool := (place : Int) < start + tailWidth
      let (stop, place) := fitting s text o.right inTail rounds start start
      let stop := if inTail place then place else stop
      if start < stop then
        ({ start, stop := Search.backBlanks text start stop, cut := cuts && stop < o.right }, false)
      else ({ start, stop := Search.backBlanks text start stop }, afterCut)
    else ({}, afterCut)
  let headWidth : Int := w.after - ((afterStop : Int) - o.start) - r.gap
  let (head, beforeCut) : Field × Bool :=
    if 0 < headWidth then
      let stop := Search.backBlanks text 0 beforeStart
      let start := shrunk s text stop headWidth rounds fieldStart
      if start < stop then
        ({ start := Search.skipBlanks text stop start, stop, cut := cuts && o.left < start }, false)
      else ({ start := Search.skipBlanks text stop start, stop }, beforeCut)
    else ({}, beforeCut)
  { tail, head, before := { start := beforeStart, stop := beforeStop, cut := beforeCut }
    after := { start := o.start, stop := afterStop, cut := afterCut } }

def shown (style : Style) (c : Char) : Octets :=
  if Octets.isSpace c then [' ']
  else
    match style with
    | .plain => [c]
    | .roff => if c = '"' then ['"', '"'] else [c]
    | .tex =>
      if "$%&#_".contains c then ['\\', c]
      else if c = '\x7b' ∨ c = '\x7d' then ['$', '\\', c, '$']
      else if c = '\\' then "\\backslash\x7b\x7d".toList
      else [c]

def Line.text (l : Line) (r : Request) (s : Search) (w : Widths) (style : Style)
    (text : Array Char) (reference : Octets) : Octets :=
  let part (f : Field) : Octets := (Search.slice text f.start f.stop).flatMap (shown style)
  let mark (f : Field) : Octets := if f.cut then r.truncation else []
  let room (f : Field) : Int := f.size + if f.cut then (r.truncation.length : Int) else 0
  let spaces (n : Int) : Octets := List.replicate n.toNat ' '
  let marks := r.counts || r.marked
  let reference := reference.flatMap (shown style)
  match style with
  | .plain =>
    let front :=
      if r.marksRight then []
      else if r.counts then
        reference ++ ':' :: spaces (w.reference + r.gap - reference.length - 1 : Int)
      else reference ++ spaces (w.reference + r.gap - reference.length : Int)
    let left :=
      if l.tail.start < l.tail.stop then
        part l.tail ++ mark l.tail ++ spaces (w.half - r.gap - room l.before - room l.tail)
      else spaces (w.half - r.gap - room l.before)
    let right :=
      if l.head.start < l.head.stop then
        spaces (w.half - room l.after - room l.head) ++ mark l.head ++ part l.head
      else if marks && r.marksRight then spaces (w.half - room l.after)
      else []
    let end_ := if marks && r.marksRight then spaces r.gap ++ reference else []
    front ++ left ++ mark l.before ++ part l.before ++ spaces r.gap ++ part l.after ++
      mark l.after ++ right ++ end_
  | .roff =>
    let quoted (inner : Octets) : Octets := " \"".toList ++ inner ++ ['"']
    '.' :: r.macroName ++ quoted (part l.tail ++ mark l.tail) ++
      quoted (mark l.before ++ part l.before) ++ quoted (part l.after ++ mark l.after) ++
      quoted (mark l.head ++ part l.head) ++ if marks then quoted reference else []
  | .tex =>
    let braced (inner : Octets) : Octets := '\x7b' :: inner ++ ['\x7d']
    let behind := s.skipSomething text l.after.stop l.after.start
    '\\' :: r.macroName ++ ' ' :: braced (part l.tail) ++ braced (part l.before) ++
      braced (part { l.after with stop := behind }) ++ braced (part { l.after with start := behind }) ++
      braced (part l.head) ++ if marks then braced reference else []

/-! ## The tool -/

def known : Known :=
  { plain := "AGORTfrt", valued := "FMSWbgiowX", hidden := "X"
    words := [("auto-reference", 'A'), ("break-file", 'b'), ("flag-truncation", 'F'),
      ("ignore-case", 'f'), ("gap-size", 'g'), ("ignore-file", 'i'), ("macro-name", 'M'),
      ("only-file", 'o'), ("references", 'r'), ("right-side-refs", 'R'), ("format", 'X'),
      ("sentence-regexp", 'S'), ("traditional", 'G'), ("typeset-mode", 't'), ("width", 'w'),
      ("word-regexp", 'W')] }

def styles : Choices Style := [(["roff"], .roff), (["tex"], .tex)]

/-- Why a request cannot be had: something plain, or something with a hint. -/
inductive Trouble where
  | plain (message : Octets)
  | misuse (message : Octets)

def Request.with_ (r : Request) (option : Char × Octets) : Except Trouble Request :=
  let value := option.2
  let number (what : String) : Except Trouble Nat :=
    match Octets.decimal? value with
    | some n =>
      if n = 0 then .error (.plain (what.toList ++ ": ".toList ++ Octets.quoted value)) else .ok n
    | none => .error (.plain (what.toList ++ ": ".toList ++ Octets.quoted value))
  let plain := Escapes.readAll { strict := false } value.length value
  match option.1 with
  | 'A' => .ok { r with counts := true }
  | 'b' => .ok { r with breaks := some value }
  | 'F' => .ok { r with truncation := plain.1 }
  | 'f' => .ok { r with ignoreCase := true }
  | 'G' => .ok { r with newer := false }
  | 'g' => (number "invalid gap width").map fun gap => { r with gap }
  | 'i' => .ok { r with ignored := some value }
  | 'M' => .ok { r with macroName := value }
  | 'O' => .ok { r with style := some .roff }
  | 'o' => .ok { r with only := some value }
  | 'R' => .ok { r with marksRight := true }
  | 'r' => .ok { r with marked := true }
  | 'S' => .ok { r with context := some plain.1 }
  | 'T' => .ok { r with style := some .tex }
  | 'W' => .ok { r with word := if plain.1.isEmpty then none else some plain.1 }
  | 'w' => (number "invalid line width").map fun width => { r with width }
  | 'X' =>
    match styles.chosen "--format" value with
    | .ok style => .ok { r with style := some style }
    | .error message => .error (.misuse message)
  | _ => .ok r

def expressionOf (text : Octets) : Except Octets Expression :=
  match Expression.ofText { forgiving := true } (Expression.basicOf text) with
  | .ok e => .ok e
  | .error m =>
    .error (m.message.toList ++ " (for regexp ".toList ++ Octets.quoted text ++ [')'])

/-- What can be read from a file whose name may mean the input. -/
def textAt (t : Task) (name : Octets) : Except Octets Octets :=
  match if name.isEmpty || t.isInput name then Except.ok t.input else t.contents name with
  | .ok text => .ok text
  | .error e => .error (Octets.asName name ++ ": ".toList ++ reasonOf e)

def Request.search (r : Request) (t : Task) : Except Octets Search := do
  let usualText := if r.newer && !r.marked then sentenceEndText else ['\n']
  let context ← match r.context with
    | some text => if text.isEmpty then pure none else (expressionOf text).map some
    | none =>
      pure (some (if r.newer && !r.marked then sentenceEnd else .character ['\n']))
  let usual (c : Char) : Bool :=
    if r.newer then c.isAlpha else c != ' ' && c != '\t' && c != '\n'
  let words ← match r.word, r.breaks with
    | some text, _ => (expressionOf text).map Words.matched
    | none, none => pure (Words.made usual)
    | none, some name => do
      let breaks ← textAt t name
      let others : Octets := if r.newer then [] else [' ', '\t', '\n']
      pure (Words.made fun c => !(breaks ++ others).contains c)
  let list (name : Option Octets) : Except Octets (Option (List Octets)) :=
    match name with
    | none => .ok none
    | some name =>
      (textAt t name).map fun text =>
        let words := (Octets.lines text).filter fun line => !line.isEmpty
        if words.isEmpty then none else some words
  let ignored ← list r.ignored
  let only ← list r.only
  pure { words, context, contextText := r.context.getD usualText, ignoreCase := r.ignoreCase, ignored, only
         counts := r.counts, marked := r.marked }

/-- All words of some texts. Each text is given with the number of lines before it. -/
def findAll (s : Search) (sources : List Source) : Option (Search.Found × List Nat) :=
  sources.zipIdx.foldl (fun sofar (source, file) =>
    match sofar with
    | none => none
    | some (f, ends) =>
      let scan := if s.marked then Search.skipOthers source.text source.text.size 0 else 0
      let scan := if s.marked then Search.skipBlanks source.text source.text.size scan else scan
      let f := { f with lines := { start := 0, scan, count := f.lines.count } }
      (s.inText file source.text (source.text.size + 1) 0 f).map fun f =>
        let count := f.lines.count + 1
        ({ f with lines := { f.lines with count } }, ends ++ [count])) (some ({}, []))

/-- Whether one word comes before another one, or at its place. -/
def comesFirst (s : Search) (a b : (Octets × Occurrence)) : Bool :=
  let x := s.folded a.1
  let y := s.folded b.1
  if x = y then
    decide (a.2.file < b.2.file) || (a.2.file == b.2.file && decide (a.2.start ≤ b.2.start))
  else Octets.atMost x y

def listing (r : Request) (s : Search) (sources : List Source) (f : Search.Found)
    (ends : List Nat) : Octets :=
  let textOf (file : Nat) : Array Char := ((sources[file]?).map Source.text).getD #[]
  let style := r.style.getD (if r.newer then .plain else .roff)
  let linesBefore (file : Nat) : Nat := if file = 0 then 0 else (ends[file - 1]?).getD 0
  let widest := if r.counts then
      1 + (sources.zipIdx.map fun (source, file) =>
        source.name.length +
          (Octets.ofNat ((ends[file]?).getD 0 + 1 - linesBefore file)).length).foldl max 0
    else f.widest
  let w := r.widths (if r.counts || r.marked then widest else 0)
  let keyed := f.occurrences.reverse.map fun o =>
    (Search.slice (textOf o.file) o.start o.stop, o)
  (keyed.mergeSort (comesFirst s)).flatMap fun (_, o) =>
    let text := textOf o.file
    let reference :=
      if r.counts then
        ((sources[o.file]?).map Source.name).getD [] ++ ':' ::
          Octets.ofNat (o.reference + 1 - linesBefore o.file)
      else if r.marked then
        Search.slice text o.reference (Search.skipOthers text o.right o.reference)
      else []
    (lineOf r s w f.longest text o).text r s w style text reference ++ ['\n']

def contexts : Tool := fun t =>
  t.withArguments known 1 fun a =>
    match a.options.foldlM Request.with_ {} with
    | .error (.plain message) => t.fails message 1
    | .error (.misuse message) => t.refuses message 1
    | .ok r =>
      let extra := if r.newer then [] else a.operands.drop 2
      match extra, r.search t with
      | extra :: _, _ => t.refuses ("extra operand ".toList ++ Octets.quoted extra) 1
      | [], .error message => t.fails message 1
      | [], .ok s =>
        let names := if a.operands.isEmpty then [['-']]
          else if r.newer then a.operands
          else a.operands.take 1
        let (opened, left) := t.sources (names.map fun name => if name.isEmpty then ['-'] else name)
        match opened.find? fun source => source.contents.toOption.isNone with
        | some source =>
          { errors := t.complaints [source] Task.plainly, left := some t.input, status := 1 }
        | none =>
          let sources := opened.map fun source =>
            { name := if source.isInput then [] else source.name
              text := source.text.toArray : Source }
          match findAll s sources with
          | none =>
            t.fails ("error: regular expression has a match of length zero: ".toList ++
              Octets.quoted s.contextText) 1
          | some (f, ends) =>
            let report : Report := { output := listing r s sources f ends, left }
            report.writtenTo t 1 (if r.newer then none else a.operands[1]?) Task.plainly

end CommandChains.Machine.Keywords
