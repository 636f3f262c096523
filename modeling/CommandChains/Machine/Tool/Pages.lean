import CommandChains.Machine.Pages.Press
import CommandChains.Machine.Tool.Clock

/-!
# A tool that sets texts in pages

The arguments say how pages are set, and name the texts.
-/

namespace CommandChains.Machine.Pages

def known : Known :=
  { plain := "0123456789FJTabcdfmrtv", valued := "DNWhlowCP", optional := "Seins", hidden := "CP"
    words := [("pages", 'P'), ("columns", 'C'), ("across", 'a'), ("show-control-chars", 'c'),
      ("double-space", 'd'), ("date-format", 'D'), ("expand-tabs", 'e'), ("form-feed", 'f'),
      ("header", 'h'), ("output-tabs", 'i'), ("join-lines", 'J'), ("length", 'l'),
      ("merge", 'm'), ("number-lines", 'n'), ("first-line-number", 'N'), ("indent", 'o'),
      ("no-file-warnings", 'r'), ("separator", 's'), ("sep-string", 'S'), ("omit-header", 't'),
      ("omit-pagination", 'T'), ("show-nonprinting", 'v'), ("width", 'w'), ("page-width", 'W')]
    takesAsOperand := fun word => word == ['-'] }

/-- Why settings cannot be had: something plain, or a misuse after which there is a hint. -/
inductive Trouble where
  | plain (message : Octets)
  | misuse (message : Octets)

structure Reading where
  settings : Settings := {}
  oldWidth : Bool := false
  oldSeparator : Bool := false
  digits : Option Octets := none
  inDigits : Bool := false

def numberLimit : Int := 2147483647

def numberOf (least : Int) (what : String) (text : Octets) : Except Trouble Int :=
  let refusal (reason : String) : Except Trouble Int :=
    .error (.plain (what.toList ++ ": ".toList ++ Octets.quoted text ++ reason.toList))
  let plain := if text.head? = some '+' then text.drop 1 else text
  match Octets.integer? (plain.dropWhile Octets.isSpace) with
  | none => refusal ""
  | some n =>
    if numberLimit < n then refusal ": Value too large for defined data type"
    else if n < least then refusal (if n < -numberLimit then ": Value too large for defined data type"
      else ": Numerical result out of range")
    else .ok n

/-- A character and a number, as some options take them in one argument. -/
def markAndNumber (letter : Char) (text : Octets) (mark : Char) (n : Nat) :
    Except Trouble (Char × Nat) :=
  match text with
  | [] => .ok (mark, n)
  | c :: rest =>
    let (mark, digits) := if c.isDigit then (mark, text) else (c, rest)
    let bad (reason : String) : Except Trouble (Char × Nat) :=
      .error (.misuse ("'-".toList ++ letter ::
        "' extra characters or invalid number in the argument: ".toList ++ Octets.quoted digits ++
        reason.toList))
    if digits.isEmpty then .ok (mark, n)
    else
      match Octets.integer? digits with
      | some m =>
        if m ≤ 0 then bad ""
        else if numberLimit < m then bad ": Value too large for defined data type"
        else .ok (mark, m.toNat)
      | none => bad ""

/-- The first and the last page of a range, if it is one; or what is said about a text that is
no number. -/
def pageRange (option : String) (text : Octets) : Except Octets (Option (Nat × Option Nat)) :=
  let argument := (option ++ " argument ").toList ++ Octets.quoted text
  let number (text : Octets) : Except Octets (Nat × Octets) :=
    let digits := text.takeWhile Char.isDigit
    if digits.isEmpty then .error ("invalid ".toList ++ argument)
    else if 18446744073709551615 < Octets.decimal digits then
      .error (argument ++ " too large".toList)
    else .ok (Octets.decimal digits, text.drop digits.length)
  match number text with
  | .error e => .error e
  | .ok (0, _) => .ok none
  | .ok (first, []) => .ok (some (first, none))
  | .ok (first, ':' :: rest) =>
    match number rest with
    | .error e => .error e
    | .ok (last, []) => .ok (if last < first then none else some (first, some last))
    | .ok _ => .error ("invalid suffix in ".toList ++ argument)
  | .ok _ => .ok none

def Reading.with_ (r : Reading) (option : Char × Octets) : Except Trouble Reading :=
  let s := r.settings
  let (letter, value) := option
  let given (s : Settings) : Except Trouble Reading :=
    .ok { r with settings := s, inDigits := false }
  let numbered (least : Int) (what : String) (change : Int → Reading) : Except Trouble Reading :=
    (numberOf least what value).map fun n => { change n with inDigits := false }
  match letter with
  | 'P' =>
    match pageRange "--pages" value with
    | .error message => .error (.plain message)
    | .ok (some (firstPage, lastPage)) => given { s with firstPage, lastPage }
    | .ok none => .error (.plain ("invalid page range ".toList ++ Octets.quoted value))
  | 'C' =>
    numbered 1 "invalid number of columns" fun n =>
      { r with settings := { s with columns := n.toNat, explicit := true }, digits := none }
  | 'a' => given { s with across := true, storing := false }
  | 'c' => given { s with controlMarks := true }
  | 'd' => given { s with doubleSpace := true }
  | 'D' => given { s with dateTemplate := some value }
  | 'e' =>
    (markAndNumber 'e' value s.inputTab s.inputTabWidth).map fun (inputTab, inputTabWidth) =>
      { r with settings := { s with inputTab, inputTabWidth, expands := true }, inDigits := false }
  | 'f' | 'F' => given { s with usesFeeds := true }
  | 'h' => given { s with heading := some value }
  | 'i' =>
    (markAndNumber 'i' value s.outputTab s.outputTabWidth).map fun (outputTab, outputTabWidth) =>
      { r with settings := { s with outputTab, outputTabWidth, shrinks := true }, inDigits := false }
  | 'J' => given { s with joins := true }
  | 'l' =>
    numbered 1 "'-l PAGE_LENGTH' invalid number of lines" fun n =>
      { r with settings := { s with pageLines := n.toNat } }
  | 'm' => given { s with parallel := true, storing := false }
  | 'n' =>
    (markAndNumber 'n' value s.numberSeparator s.numberDigits).map fun (mark, digits) =>
      { r with
        settings := { s with numberSeparator := mark, numberDigits := digits, numbered := true }
        inDigits := false }
  | 'N' =>
    numbered (-2147483648) "'-N NUMBER' invalid starting line number" fun n =>
      { r with settings := { s with skipCount := false, firstNumber := n } }
  | 'o' =>
    numbered 0 "'-o MARGIN' invalid line offset" fun n => { r with settings := { s with margin := n } }
  | 'r' => given { s with quietAboutFiles := true }
  | 's' =>
    let s := if s.separated || value.isEmpty then s else { s with separator := value }
    .ok { r with settings := s, oldSeparator := true, inDigits := false }
  | 'S' =>
    .ok { r with
      settings := { s with separated := true, separator := value }, oldSeparator := false
      inDigits := false }
  | 't' => given { s with extremities := false, keepsFeeds := true }
  | 'T' => given { s with extremities := false, keepsFeeds := false }
  | 'v' => given { s with octalMarks := true }
  | 'w' =>
    numbered 1 "'-w PAGE_WIDTH' invalid number of characters" fun n =>
      { r with settings := if s.truncates then s else { s with lineWidth := n }, oldWidth := true }
  | 'W' =>
    numbered 1 "'-W PAGE_WIDTH' invalid number of characters" fun n =>
      { r with settings := { s with truncates := true, lineWidth := n }, oldWidth := false }
  | c =>
    if c.isDigit then
      let sofar := if r.inDigits then r.digits.getD [] else []
      .ok { r with digits := some (sofar ++ [c]), inDigits := true }
    else .ok { r with inDigits := false }

def settingsOf (options : List (Char × Octets)) : Except Trouble (Settings × Bool × Bool) := do
  let r ← options.foldlM Reading.with_ {}
  let s ← match r.digits with
    | none => pure r.settings
    | some digits =>
      (numberOf 1 "invalid number of columns" digits).map fun n =>
        { r.settings with columns := n.toNat, explicit := true }
  pure (s, r.oldWidth, r.oldSeparator)

/-- The settings and names after one more operand, which may be a range of pages. -/
def withRange (sofar : Settings × List Octets) (name : Octets) :
    Except Octets (Settings × List Octets) :=
  let (s, names) := sofar
  match name with
  | '+' :: range =>
    if s.firstPage ≠ 0 then .ok (s, names ++ [name])
    else
      match pageRange "+" range with
      | .error message => .error message
      | .ok none => .ok (s, names ++ [name])
      | .ok (some (firstPage, lastPage)) => .ok ({ s with firstPage, lastPage }, names)
  | name => .ok (s, names ++ [name])

structure Outcome where
  output : Octets := []
  errors : Octets := []
  failed : Bool := false
  ended : Bool := false
  lineCount : Int := 1

/-- Sets some texts in pages: one, or several side by side. A text is given with its name, if it
has one, and when it was changed. -/
def pagesOf (t : Task) (asked : Settings) (names : Nat)
    (texts : List (Option (Octets × Calendar.Moment) × Octets)) (o : Outcome) : Outcome :=
  let s := asked.settled names
  if s.columnWidth < 1 then
    { o with errors := o.errors ++ t.complaint "page width too narrow".toList, failed := true
             ended := true }
  else if texts.isEmpty then o
  else
    let s := if s.parallel then { s with columns := texts.length } else s
    let own := if s.parallel then none else (texts.head?.map (·.1)).join
    let clock := Calendar.clockOf t.environment
    let moment := (own.map (·.2)).getD Calendar.present
    let template := asked.dateTemplate.getD
      (if (t.environment.lookup "POSIXLY_CORRECT".toList).isSome then "%b %e %H:%M %Y".toList
        else "%Y-%m-%d %H:%M".toList)
    let count := if s.numbered then s.firstNumber else o.lineCount
    let inputAt (entry : Option (Octets × Calendar.Moment) × Octets) : Bool :=
      entry.1.any fun own => own.1.isEmpty
    let files := texts.zipIdx.map fun (entry, place) =>
      if inputAt entry then texts.findIdx inputAt else place
    let press : Press :=
      { columns := columnsOf s files, texts := (texts.map (·.2)).toArray
        dateText := Calendar.shown template moment (clock.zoneAt moment.seconds)
        fileText := s.heading.getD ((own.map (·.1)).getD [])
        ready := if s.parallel then texts.length else 1, lineCount := count }
    let first := max 1 s.firstPage
    let work : Work (Option Nat) := do
      let short ← if 1 < first then Work.skipTo s first first 1 else pure none
      match short with
      | some count => pure (some count)
      | none =>
        modify fun p => { p with page := first, lineNumber := p.lineCount }
        Work.printPages s Work.lineLimit
        pure none
    let (short, after) := work.run press
    let complaint := match short with
      | none => []
      | some count =>
        t.complaint ("starting page number ".toList ++ Octets.ofNat first ++
          " exceeds page count ".toList ++ Octets.ofNat count)
    { o with
      output := o.output ++ after.printed.reverse, errors := o.errors ++ complaint
      lineCount := after.lineCount }

def setPages : Tool := fun t =>
  t.withArguments known 1 fun a =>
    match settingsOf a.options with
    | .error (.plain message) => t.fails message 1
    | .error (.misuse message) => t.refuses message 1
    | .ok (s, oldWidth, oldSeparator) =>
      match a.operands.foldlM withRange (s, []) with
      | .error message => t.fails message 1
      | .ok (s, operands) =>
      if s.parallel && s.explicit then
        t.fails "cannot specify number of columns when printing in parallel".toList 1
      else if s.parallel && s.across then
        t.fails "cannot specify both printing across and printing in parallel".toList 1
      else
        let s := s.withOldWays oldWidth oldSeparator
        let (sources, left) := t.sources operands
        let stampOf (name : Octets) : Calendar.Moment :=
          match t.files.node name with
          | .ok node => Calendar.momentOfStamp (t.files.stampOf node)
          | .error _ => Calendar.present
        let opened (source : Source) : Option (Option (Octets × Calendar.Moment) × Octets) :=
          match source.contents with
          | .ok text =>
            some (if operands.isEmpty then none
              else some (if source.isInput then ([], Calendar.present)
                else (source.name, stampOf source.name)), text)
          | .error _ => none
        let complaint (source : Source) : Octets :=
          match source.contents with
          | .ok _ => []
          | .error e =>
            if s.quietAboutFiles then []
            else t.complaint (Octets.asName source.name ++ ": ".toList ++ reasonOf e)
        let failed := sources.any fun source => source.contents.toOption.isNone
        let o : Outcome :=
          if s.parallel && !operands.isEmpty then
            pagesOf t s sources.length (sources.filterMap opened)
              { errors := sources.flatMap complaint }
          else
            sources.foldl (fun o source =>
              if o.ended then o
              else
                pagesOf t s operands.length (opened source).toList
                  { o with errors := o.errors ++ complaint source }) {}
        { output := o.output, errors := o.errors, left, status := if failed || o.failed then 1 else 0 }

end CommandChains.Machine.Pages
