import CommandChains.Machine.Expression
import CommandChains.Machine.Tool.Basic
import CommandChains.Machine.Tool.Fields
import CommandChains.Machine.Duration

/-!
# Tools about all lines

Tools that print everything they read, and one that says how much it is.
-/

namespace CommandChains.Machine.Tool

/-!
## Tools that print all lines

Tools that print everything they read: as it is, with its peculiarities shown, or
backwards.
-/

/-! ## As it is -/

/-- A character as it is shown if those that cannot be seen are made visible. -/
def visible (c : Char) : Octets :=
  let low (n : Nat) : Octets :=
    if n < 32 then ['^', Char.ofNat (n + 64)]
    else if n = 127 then ['^', '?']
    else [Char.ofNat n]
  if c.toNat < 128 then low c.toNat else 'M' :: '-' :: low (c.toNat - 128)

structure Show where
  hidden : Bool
  tabs : Bool
  ends : Bool
  numbers : Bool
  filledOnly : Bool
  squeezed : Bool

def Show.text (s : Show) (ended : Bool) (line : Octets) : Octets :=
  let shown (line : Octets) : Octets := line.flatMap fun c =>
    if c = '\t' then (if s.tabs then ['^', 'I'] else ['\t'])
    else if s.hidden then visible c else [c]
  if s.ends && ended then
    let body := match line.getLast? with
      | some '\r' => shown line.dropLast ++ ['^', 'M']
      | _ => shown line
    body ++ ['$', '\n']
  else shown line ++ if ended then ['\n'] else []

/-- Lines as they are shown, where `n` is the number of the line before and `repeated`
says that it was empty. -/
def Show.lines (s : Show) (n : Nat) (repeated : Bool) : List Octets → Octets
  | [] => []
  | [last] => if last.isEmpty then [] else number s n last ++ s.text false last
  | line :: rest =>
    if s.squeezed && repeated && line.isEmpty then s.lines n true rest
    else
      let counted := s.numbers && !(s.filledOnly && line.isEmpty)
      number s n line ++ s.text true line ++
        s.lines (if counted then n + 1 else n) line.isEmpty rest
where
  number (s : Show) (n : Nat) (line : Octets) : Octets :=
    if s.numbers && !(s.filledOnly && line.isEmpty) then
      Octets.padded 6 (Octets.ofNat (n + 1)) ++ ['\t']
    else []

def concatenate : Tool := fun t =>
  t.withArguments
      { plain := "AbeEnstTuv"
        words := [("show-all", 'A'), ("number-nonblank", 'b'), ("show-ends", 'E'),
          ("number", 'n'), ("squeeze-blank", 's'), ("show-tabs", 'T'), ("show-nonprinting", 'v')] }
        1 fun a =>
    let asked (letters : String) : Bool := letters.toList.any a.has
    let how : Show :=
      { hidden := asked "Aetv", tabs := asked "AtT", ends := asked "AeE"
        numbers := asked "bn", filledOnly := a.has 'b', squeezed := a.has 's' }
    t.overSources a.operands Task.plainly 1 fun sources =>
      how.lines 0 false (Octets.splitAt '\n' (Task.textOf sources))

def tee : Tool := fun t =>
  t.withArguments
      { plain := "aip", optional := "O", hidden := "O"
        words := [("append", 'a'), ("ignore-interrupts", 'i'), ("output-error", 'O')] } 1 fun a =>
    let start : Report := { output := t.input }
    a.operands.foldl (fun r name =>
      let how : Files.Opening := { empties := !a.has 'a' }
      match openPath (r.files.getD t.files) how name with
      | .ok (d, files) => { r with files := some files }.put files d t.input
      | .error e =>
        { r with
          errors := r.errors ++ t.complaint (Octets.asName name ++ ": ".toList ++ reasonOf e)
          status := 1 }) start

/-! ## Backwards -/

/-- The last place before `limit` where a text is matched, and where the match ends. -/
def lastMatch (e : Expression) (text : Octets) : Nat → Option (Nat × Nat)
  | 0 => none
  | limit + 1 =>
    match Expression.matchAt {} e text limit with
    | some m => some (limit, m.stop)
    | none => lastMatch e text limit

/-- The records of a text from its end, where every record ends or begins with what an
expression matches. A match does not reach into one behind it. -/
def recordsUpward (e : Expression) (before : Bool) : Nat → Octets → List Octets
  | 0, text => [text]
  | rounds + 1, text =>
    match lastMatch e text text.length with
    | none => [text]
    | some (start, stop) =>
      let edge := if before then start else stop
      if before then text.drop edge :: recordsUpward e before rounds (text.take start)
      else
        let rest := recordsUpward e before rounds (text.take start)
        let separator := (text.take stop).drop start
        text.drop edge :: match rest with
          | [] => [separator]
          | first :: others => (first ++ separator) :: others

/-- Prints the last record first. Records are lines if nothing else is said. -/
def upward : Tool := fun t =>
  t.withArguments
      { plain := "br", valued := "s"
        words := [("before", 'b'), ("regex", 'r'), ("separator", 's')] } 1 fun a =>
    let separator := (a.value? 's').getD ['\n']
    let read :=
      if a.has 'r' then Expression.ofText { forgiving := true } (Expression.basicOf separator)
      else .ok (Expression.literal (if separator.isEmpty then ['\x00'] else separator))
    match read with
    | .error mistake => t.fails mistake.message.toList 1
    | .ok e =>
      t.overSources a.operands (fun s reason =>
          if s.isDirectory then Octets.asName s.name ++ ": read error: ".toList ++ reason
          else
            "failed to open ".toList ++ Octets.shellQuoted s.name ++ " for reading: ".toList ++ reason)
          1 fun sources =>
        sources.flatMap fun s => (recordsUpward e (a.has 'b') s.text.length s.text).flatten

/-- Prints every line from its end. A dash is a file here. -/
def backward : Tool := fun t =>
  t.withArguments { plain := "0", words := [("zero", '0')] } 1 fun a =>
    let mark := if a.has '0' then '\x00' else '\n'
    let path (operand : Octets) : Octets := if operand = ['-'] then "./-".toList else operand
    t.overSources (a.operands.map path) (fun s reason =>
        let name := if s.name = "./-".toList then ['-'] else s.name
        "cannot open ".toList ++ name ++ ": ".toList ++ reason) 1 fun sources =>
      sources.flatMap fun s =>
        Octets.joined [mark] ((Octets.splitAt mark s.text).map List.reverse)

/-!
## How much there is

A tool that counts the lines, words, characters and bytes of what it reads, and finds
the width of the widest line.
-/

def widest (text : Octets) : Nat :=
  let width (line : Octets) : Nat :=
    (line.foldl (fun (most, column) c =>
      let column :=
        if c = '\t' then column + 8 - column % 8
        else if c = '\r' ∨ c = '\x0c' then 0
        else if c.toNat < 32 ∨ 127 ≤ c.toNat then column else column + 1
      (max most column, column)) (0, 0)).1
  (Octets.lines text).foldl (fun most line => max most (width line)) 0

/-- The lines, words, characters, bytes and columns of a text, as far as they are asked
for. -/
def amountsOf (a : Arguments) (text : Octets) : List Nat :=
  let all := !"lwmcL".toList.any a.has
  let asked (letter : Char) : Bool := a.has letter || (all && letter != 'm' && letter != 'L')
  [('l', text.countP (· == '\n')), ('w', (Octets.words text).length), ('m', text.length),
    ('c', text.length), ('L', widest text)].filterMap fun (letter, n) =>
      if asked letter then some n else none

def amounts : Tool := fun t =>
  t.withArguments
      { plain := "clmLw"
        words := [("bytes", 'c'), ("chars", 'm'), ("lines", 'l'), ("words", 'w'),
          ("max-line-length", 'L')] } 1 fun a =>
    let (sources, left) := t.sources a.operands
    let single := decide (sources.length ≤ 1) && decide ((amountsOf a []).length = 1)
    let width := if single then 1 else 7
    let line (amounts : List Nat) (name : Octets) : Octets :=
      Octets.joined [' '] (amounts.map fun n => Octets.padded width (Octets.ofNat n)) ++
        (if name.isEmpty then [] else ' ' :: name) ++ ['\n']
    let shown := sources.filter fun s => s.isDirectory || s.contents matches .ok _
    let each := shown.flatMap fun s =>
      line (amountsOf a s.text) (if a.operands.isEmpty then [] else s.name)
    let sums := shown.foldl (fun sums s =>
        List.zipWith (fun (sum, letter) n =>
          (if letter then max sum n else sum + n, letter)) sums (amountsOf a s.text))
      (((amountsOf a []).zipIdx 1).map fun (_, place) =>
        (0, a.has 'L' && place == (amountsOf a []).length))
    let errors := t.complaints sources Task.plainly
    { output := each ++
        if 1 < sources.length then line (sums.map (·.1)) "total".toList else []
      errors, left, status := if errors.isEmpty then 0 else 1 }

/-!
## Numbered lines

A tool that prints lines with numbers. A text consists of pages, and a page of a
header, a body and a footer, which are set apart by lines of their own; each of the
three parts has its own way to choose the lines that are numbered.
-/

inductive NumberedLines where
  | all
  | filled
  | none
  | matching (e : Expression)

namespace NumberedLines

/-- The choice that a word makes, which may not be one. -/
def ofText? : Octets → Option NumberedLines
  | 'a' :: _ => some all
  | 't' :: _ => some filled
  | 'n' :: _ => some none
  | 'p' :: text =>
    match Expression.ofText { forgiving := true, emptyRanges := true } text with
    | .ok e => some (matching e)
    | .error _ => Option.none
  | _ => Option.none

end NumberedLines

structure Numbering where
  header : NumberedLines := .none
  body : NumberedLines := .filled
  footer : NumberedLines := .none
  start : Int := 1
  step : Int := 1
  width : Nat := 6
  separator : Octets := ['\t']
  /-- Where the number stands in its column: `ln`, `rn`, or with zeros `rz`. -/
  side : Octets := "rn".toList
  /-- Of so many empty lines that follow one another only the last has a number. -/
  joined : Nat := 1
  delimiter : Octets := ['\\', ':']
  /-- Whether the numbers go on at a new part. -/
  goesOn : Bool := false

namespace Numbering

def column (n : Numbering) (value : Int) : Octets :=
  let text := Octets.ofInt value
  if n.side = "ln".toList then Octets.filled n.width text
  else if n.side = "rz".toList then
    if value < 0 then '-' :: Octets.padded (n.width - 1) (text.drop 1) '0'
    else Octets.padded n.width text '0'
  else Octets.padded n.width text

/-- The part of a page that begins with a line. -/
def partAt? (n : Numbering) (line : Octets) : Option NumberedLines :=
  let times (count : Nat) : Octets := (List.replicate count n.delimiter).flatten
  if n.delimiter.isEmpty then none
  else if line = times 3 then some n.header
  else if line = times 2 then some n.body
  else if line = times 1 then some n.footer
  else none

/-- Lines with numbers from one on, in a part of a page, where so many empty lines came
before. -/
def lines (n : Numbering) (part : NumberedLines) (value : Int) (blanks : Nat) :
    List Octets → Octets
  | [] => []
  | line :: rest =>
    match n.partAt? line with
    | some part => '\n' :: n.lines part (if n.goesOn then value else n.start) blanks rest
    | none =>
      let (isNumbered, blanks) := match part with
        | .all =>
          if 1 < n.joined && line.isEmpty && blanks + 1 < n.joined then (false, blanks + 1)
          else (true, 0)
        | .filled => (!line.isEmpty, blanks)
        | .none => (false, blanks)
        | .matching e => ((Expression.matchFrom {} e line 0).isSome, blanks)
      if isNumbered then
        n.column value ++ n.separator ++ line ++ '\n' :: n.lines part (value + n.step) blanks rest
      else
        List.replicate (n.width + n.separator.length) ' ' ++ line ++
          '\n' :: n.lines part value blanks rest

/-- The numbering with one more option, or what is said about it and whether help is
offered. -/
def withOption (n : Numbering) (letter : Char) (value : Octets) :
    Except (Octets × Bool) Numbering :=
  let style (what : String) (set : NumberedLines → Numbering) : Except (Octets × Bool) Numbering :=
    match NumberedLines.ofText? value with
    | some lines => .ok (set lines)
    | none => .error (("invalid " ++ what ++ " numbering style: ").toList ++ Octets.quoted value, true)
  let number (what : String) (least most : Int) (set : Int → Numbering) :
      Except (Octets × Bool) Numbering :=
    match Amount.readWithin least most value with
    | .ok number => .ok (set number)
    | .error mistake => .error (mistake.message what value, false)
  let limit : Int := 9223372036854775808
  match letter with
  | 'b' => style "body" fun body => { n with body }
  | 'h' => style "header" fun header => { n with header }
  | 'f' => style "footer" fun footer => { n with footer }
  | 'v' => number "starting line number" (-limit) (limit - 1) fun start => { n with start }
  | 'i' => number "line number increment" (-limit) (limit - 1) fun step => { n with step }
  | 'l' => number "line number of blank lines" 1 (limit - 1) fun m => { n with joined := m.toNat }
  | 'w' => number "line number field width" 1 (2147483647) fun m => { n with width := m.toNat }
  | 's' => .ok { n with separator := value }
  | 'd' => .ok { n with delimiter := if value.length = 1 then value ++ [':'] else value }
  | 'p' => .ok { n with goesOn := true }
  | 'n' =>
    if ["ln", "rn", "rz"].contains (String.ofList value) then .ok { n with side := value }
    else .error ("invalid line numbering format: ".toList ++ Octets.quoted value, true)
  | _ => .ok n

end Numbering

def number : Tool := fun t =>
  t.withArguments
      { plain := "p", valued := "bdfhilnsvw"
        words := [("body-numbering", 'b'), ("section-delimiter", 'd'), ("footer-numbering", 'f'),
          ("header-numbering", 'h'), ("line-increment", 'i'), ("join-blank-lines", 'l'),
          ("number-format", 'n'), ("no-renumber", 'p'), ("number-separator", 's'),
          ("starting-line-number", 'v'), ("number-width", 'w')] } 1 fun a =>
    let how := a.options.foldlM (fun (n : Numbering) option => n.withOption option.1 option.2) {}
    match how with
    | .error (message, true) => t.refuses message 1
    | .error (message, false) => t.fails message 1
    | .ok n =>
      t.overSources a.operands Task.plainly 1 fun sources =>
        n.lines n.body n.start 0 (Octets.lines (Task.textOf sources))

/-!
## Beginnings and ends

Tools that print the first or the last part of what they read, in lines or in bytes.
-/

structure Extent where
  bytes : Bool := false
  count : Nat := 10
  beyond : Bool := false
  deriving DecidableEq, Repr

/-- A text up to so many lines, or all of it. -/
def untilLine (mark : Char) : Nat → Octets → Octets
  | 0, _ => []
  | _, [] => []
  | n + 1, c :: rest => c :: untilLine mark (if c = mark then n else n + 1) rest

/-- The number of lines, where one without an end counts too. -/
def lineCount (mark : Char) (text : Octets) : Nat :=
  (Octets.records mark text).length

/-- The first part of a text, or all but the last part. -/
def Extent.first (e : Extent) (mark : Char) (text : Octets) : Octets :=
  match e.bytes, e.beyond with
  | true, false => text.take e.count
  | true, true => text.take (text.length - e.count)
  | false, false => untilLine mark e.count text
  | false, true => untilLine mark (lineCount mark text - e.count) text

/-- The last part of a text, or all from some place on. -/
def Extent.last (e : Extent) (mark : Char) (text : Octets) : Octets :=
  match e.bytes, e.beyond with
  | true, false => text.drop (text.length - e.count)
  | true, true => text.drop (e.count - 1)
  | false, false => text.drop (untilLine mark (lineCount mark text - e.count) text).length
  | false, true => text.drop (untilLine mark (e.count - 1) text).length

/-- How much an option asks for. A sign says that the number is of those on the other
side. -/
def extentOf (sign letter : Char) (value : Octets) : Except Octets Extent :=
  let (beyond, digits) := match value with
    | c :: rest =>
      if c = sign then (true, rest) else if c = '+' ∨ c = '-' then (false, rest)
      else (false, value)
    | [] => (false, [])
  match Amount.read digits with
  | .ok count => .ok ⟨letter == 'c', count, beyond⟩
  | .error mistake =>
    let what := if letter = 'c' then "number of bytes" else "number of lines"
    .error (mistake.message what (if value.head? = some '-' then digits else value))

/-- How much arguments ask for. The last word counts, but every one has to have a
meaning. -/
def wantedExtent (sign : Char) (a : Arguments) : Except Octets Extent :=
  (a.options.filter fun option => option.1 == 'n' || option.1 == 'c').foldlM
    (fun _ option => extentOf sign option.1 option.2) {}

def titleOf (s : Source) : Octets :=
  if s.isInput then "standard input".toList else s.name

def titled (wanted : Bool) (work : Octets → Octets) : Bool → List Source → Octets
  | _, [] => []
  | first, s :: rest =>
    match s.contents with
    | .error e =>
      if e = FileTree.isADirectory then heading first s ++ titled wanted work false rest
      else titled wanted work first rest
    | .ok text => heading first s ++ work text ++ titled wanted work false rest
where
  heading (first : Bool) (s : Source) : Octets :=
    if wanted then
      (if first then [] else ['\n']) ++ "==> ".toList ++ titleOf s ++ " <==\n".toList
    else []

/-- What is said about a source of which no part can be printed. -/
def unopened (s : Source) (reason : Octets) : Octets :=
  if s.isDirectory then "error reading ".toList ++ Octets.shellQuoted s.name ++ ": ".toList ++ reason
  else "cannot open ".toList ++ Octets.shellQuoted s.name ++ " for reading: ".toList ++ reason

/-- The bytes in one block of the input. Lines are looked for block by block, and a
block that has been read is not given back. -/
def block : Nat := 8192

/-- The options for parts at the beginning and the end. -/
def partOptions : Known :=
  { plain := "qvz", valued := "nc"
    words := [("lines", 'n'), ("bytes", 'c'), ("quiet", 'q'), ("silent", 'q'), ("verbose", 'v'),
      ("zero-terminated", 'z')] }

/-! ## Beginnings -/

/-- The options that a number behind a dash and the letters behind it stand for. -/
def beginningOptions (text : Octets) : Except Char (List Octets) :=
  let digits := text.takeWhile Char.isDigit
  let units (c : Char) : Bool := c == 'b' || c == 'k' || c == 'm'
  (text.drop digits.length).foldlM (fun options c =>
      if units c then .ok ["-c".toList, digits ++ [c]]
      else if c = 'c' then .ok ["-c".toList, (options.getD 1 digits)]
      else if c = 'l' then .ok ["-n".toList, digits]
      else if c = 'q' ∨ c = 'v' ∨ c = 'z' then .ok (options ++ [['-', c]])
      else .error c) ["-n".toList, digits]

def beginning : Tool := fun t =>
  let given : Except Char (List Octets) := match t.arguments with
    | ('-' :: c :: rest) :: others =>
      if c.isDigit then (beginningOptions (c :: rest)).map (· ++ others) else .ok t.arguments
    | arguments => .ok arguments
  match given with
  | .error c => t.refuses ("invalid trailing option -- ".toList ++ [c]) 1
  | .ok arguments =>
    let t : Task := { t with arguments }
    t.withArguments partOptions 1 fun a =>
      match wantedExtent '-' a with
      | .error message => t.fails message 1
      | .ok extent =>
        let mark := a.lineEnd
        let titles := (a.last? "qv").elim (decide (1 < a.operands.length)) (· == 'v')
        let report := t.overSources a.operands unopened 1 (titled titles (extent.first mark) true)
        let first := extent.first mark t.input
        let enough := !extent.beyond &&
          (if extent.bytes then first.length else first.count mark) == extent.count
        let taken := if extent.bytes then first.length
          else (first.length + block - 1) / block * block
        if report.left.isNone && enough then { report with left := some (t.input.drop taken) }
        else report

/-! ## Ends -/

/-- Arguments in which the first one has a number behind a sign and letters behind it, or
letters only, and nothing or one operand follows. -/
def withOldForm (arguments : List Octets) : List Octets :=
  match arguments with
  | (sign :: text) :: others =>
    let digits := text.takeWhile Char.isDigit
    let letters := text.drop digits.length
    let isAlone := match others with
      | [] => true
      | [operand] => operand.head? != some '-' || operand.length == 1
      | _ => false
    let (unit, followed) := match letters with
      | [] => (some "n", [])
      | ['b'] => (some "b", [])
      | ['c'] => (some "c", [])
      | ['l'] => (some "n", [])
      | ['f'] => (some "n", ["-f".toList])
      | ['c', 'f'] => (some "c", ["-f".toList])
      | ['l', 'f'] => (some "n", ["-f".toList])
      | _ => (none, [])
    let count := if digits.isEmpty then "10".toList else digits
    let count := if sign = '+' then '+' :: count else count
    match unit with
    | none => arguments
    | some unit =>
      if !isAlone || (sign != '+' && sign != '-') || text.isEmpty && sign == '-' ||
          text == ['c'] && sign == '-' then arguments
      else if unit = "b" then "-c".toList :: (count ++ ['b']) :: others
      else ('-' :: unit.toList) :: count :: followed ++ others
  | arguments => arguments

def ending : Tool := fun t =>
  let t : Task := { t with arguments := withOldForm t.arguments }
  t.withArguments
      { partOptions with
        plain := partOptions.plain ++ "fF0123456789", valued := partOptions.valued ++ "s"
        optional := "\x01"
        words := partOptions.words ++ [("follow", '\x01'), ("pid", 's'), ("sleep-interval", 's'),
          ("retry", 'r')] } 1 fun a =>
    match a.options.find? fun option => option.1.isDigit, wantedExtent '+' a with
    | some (digit, _), _ =>
      t.fails ("option used in invalid context -- ".toList ++ [digit]) 1
    | none, .error message => t.fails message 1
    | none, .ok extent =>
      let titles := (a.last? "qv").elim (decide (1 < a.operands.length)) (· == 'v')
      let report := t.overSources a.operands unopened 1
        (titled titles (extent.last a.lineEnd) true)
      let files := a.operands.filter (· != ['-'])
      let there (file : Octets) : Bool := (t.contents file).toOption.isSome
      if !("fF\x01".toList.any a.has) || files.isEmpty then report
      else if a.has 'F' || files.any there then { report with lasts := Duration.forever }
      else { report with errors := report.errors ++ t.complaint "no files remaining".toList }

end CommandChains.Machine.Tool
