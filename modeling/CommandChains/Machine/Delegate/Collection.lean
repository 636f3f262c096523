import CommandChains.Machine.Delegate.Surroundings

/-!
# Commands from lists

A program that starts a command with arguments that it reads from the input. Arguments
stand between blanks, where quotes and backslashes protect blanks, or between other
separators. So many of them go to a command at once; or a command is started for every
line, which is put where a mark stands among the arguments.
-/

namespace CommandChains.Machine.Delegate

/-! ## Reading -/

/-- A line of items. A line that ends in a blank goes on in the next and is the same to those
who count. -/
structure ItemLine where
  items : List Octets := []
  counts : Bool := true
  deriving DecidableEq, Repr

structure Gathered where
  lines : List ItemLine := []
  mistake : Option String := none
  deriving DecidableEq, Repr

namespace Gathered

/-- What is said about a quote that is not closed. -/
def unmatched (quote : Char) : String :=
  "unmatched " ++ (if quote = '"' then "double" else "single") ++
    " quote; by default quotes are special to xargs unless you use the -0 option"

structure Manner where
  wholeLines : Bool := false
  /-- The item that ends the list, if there is one. -/
  last : Option Octets := none
  deriving DecidableEq, Repr

inductive Position where
  | between
  /-- In an item, of which something has been read, the last character first. -/
  | inside (item : Octets)
  | quoted (quote : Char) (item : Octets)
  | escaped (item : Octets)
  deriving DecidableEq, Repr

def isBlank (c : Char) : Bool := c == ' ' || c == '\t'

def withLine (items : List Octets) (counts : Bool) (g : Gathered) : Gathered :=
  { g with lines := { items := items.reverse, counts } :: g.lines }

/-- Reads items, where `items` are those of the present line, the last one first, and
`before` is the character before this one. -/
def read (m : Manner) : Position → List Octets → Char → Octets → Gathered
  | .between, items, _, [] => if items.isEmpty then {} else withLine items true {}
  | .inside item, items, _, [] =>
    if item.isEmpty then (if items.isEmpty then {} else withLine items true {})
    else if items.isEmpty && m.last == some item.reverse then {}
    else withLine (item.reverse :: items) true {}
  | .escaped item, items, _, [] =>
    if item.isEmpty then (if items.isEmpty then {} else withLine items true {})
    else withLine (item.reverse :: items) true {}
  | .quoted q _, items, _, [] => { withLine items true {} with mistake := some (unmatched q) }
  | .escaped item, items, _, c :: rest => read m (.inside (c :: item)) items c rest
  | .quoted q item, items, _, c :: rest =>
    if c = '\n' then { withLine items true {} with mistake := some (unmatched q) }
    else if c = q then read m (.inside item) items c rest
    else read m (.quoted q (c :: item)) items c rest
  | .between, items, _, c :: rest =>
    if Octets.isSpace c then read m .between items c rest
    else if c = '\\' then read m (.escaped []) items c rest
    else if c = '"' ∨ c = '\x27' then read m (.quoted c []) items c rest
    else read m (.inside [c]) items c rest
  | .inside item, items, before, c :: rest =>
    if c = '\n' then
      if item.isEmpty && before != '"' && before != '\x27' then read m .between items c rest
      else if m.last == some item.reverse then
        if items.isEmpty then {} else withLine items true {}
      else withLine (item.reverse :: items) (!isBlank before) (read m .between [] c rest)
    else if !m.wholeLines && isBlank c then
      if m.last == some item.reverse then
        if items.isEmpty then {} else withLine items true {}
      else read m .between (item.reverse :: items) c rest
    else if c = '\\' then read m (.escaped item) items c rest
    else if c = '"' ∨ c = '\x27' then read m (.quoted c item) items c rest
    else read m (.inside (c :: item)) items c rest

end Gathered

/-- A text with another one in the place of every mark. Every round takes at least one
character. -/
def inPlaceOf (mark new : Octets) : Nat → Octets → Octets
  | 0, text => text
  | _, [] => []
  | rounds + 1, c :: rest =>
    if !mark.isEmpty && mark.isPrefixOf (c :: rest) then
      new ++ inPlaceOf mark new rounds ((c :: rest).drop mark.length)
    else c :: inPlaceOf mark new rounds rest

/-- The character that an argument writes as a separator, or what is wrong with it. -/
def separatorOf (text : Octets) : Except Octets Char :=
  let invalid : Octets := "Invalid input delimiter specification ".toList ++ text ++
    (": the delimiter must be either a single character or an escape sequence starting " ++
      "with \\.").toList
  let escape : Octets := "Invalid escape sequence ".toList ++ text ++
    " in input delimiter specification.".toList
  match text with
  | [c] => .ok c
  | '\\' :: 'x' :: digits =>
    let found := Octets.digitsOf 16 digits.length digits
    if found.isEmpty || found.length < digits.length then .error escape
    else .ok (Char.ofNat (Octets.valueOf 16 found % 256))
  | ['\\', 'a'] => .ok '\x07'
  | ['\\', 'b'] => .ok '\x08'
  | ['\\', 'f'] => .ok '\x0c'
  | ['\\', 'n'] => .ok '\n'
  | ['\\', 'r'] => .ok '\r'
  | ['\\', 't'] => .ok '\t'
  | ['\\', 'v'] => .ok '\x0b'
  | ['\\', '\\'] => .ok '\\'
  | '\\' :: digits =>
    let found := Octets.digitsOf 8 digits.length digits
    if found.isEmpty || found.length < digits.length then .error escape
    else .ok (Char.ofNat (Octets.valueOf 8 found % 256))
  | _ => .error invalid

def separated (separator : Char) (text : Octets) : List Octets :=
  let pieces := Octets.splitAt separator text
  if pieces.getLast? == some [] then pieces.dropLast else pieces

/-! ## Commands -/

structure Sharing where
  items : Option Nat := none
  lines : Option Nat := none
  /-- A command must be shorter than this or as long. -/
  size : Nat := 131072
  /-- Whether a command that would be too long ends everything. -/
  strict : Bool := false
  deriving DecidableEq, Repr

def sizeOfWords (words : List Octets) : Nat := words.foldl (fun n word => n + word.length + 1) 0

/-- Shares out items, where `pending` are those that no command has got yet, the last one
first, with their size. Gives groups of items for commands, what went wrong, and the items
that are left. -/
def Sharing.share (s : Sharing) (own : Nat) :
    List (Octets × Bool) → List Octets → Nat → Nat → List (List Octets) × Option String × List Octets
  | [], pending, _, _ => ([], none, pending.reverse)
  | (item, endsLine) :: rest, pending, used, lines =>
    let size := item.length + 1
    let isFull := s.size < own + used + size
    let lines := if endsLine then lines + 1 else lines
    let endsCommand := s.lines.any (· ≤ lines)
    if s.size ≤ own + size then ([], some "argument line too long", [])
    else if isFull && s.strict && (s.items.isSome || s.lines.isSome) then
      ([], some "argument list too long", [])
    else if isFull && endsCommand then
      let (groups, mistake, left) := share s own rest [] 0 0
      (pending.reverse :: [item] :: groups, mistake, left)
    else if isFull then
      let (groups, mistake, left) := share s own rest [item] size lines
      (pending.reverse :: groups, mistake, left)
    else if s.items.any (· ≤ pending.length + 1) || endsCommand then
      let (groups, mistake, left) := share s own rest [] 0 (if endsCommand then 0 else lines)
      ((item :: pending).reverse :: groups, mistake, left)
    else share s own rest (item :: pending) (used + size) lines

/-- The place of the least number in a list that is not empty. -/
def leastPlace (times : List Nat) : Nat :=
  (List.range times.length).foldl (fun best place =>
    if times.getD place 0 < times.getD best 0 then place else best) 0

/-- What has come of several commands: when each row of them is free, and the status. -/
structure Collected where
  rows : List Nat
  sequel : Sequel
  status : Nat := 0
  stopped : Bool := false

/-- Starts one command more, in the row that is free first. -/
def Collected.next (c : Collected) (t : Task) (start : Start) (verbose : Bool)
    (command : List Octets) : Collected :=
  if c.stopped then c
  else
    let place := leastPlace c.rows
    let begins := c.rows.getD place 0
    let told := Octets.joined [' '] (command.map (Octets.asWord false)) ++ ['\n']
    let s := { c.sequel with time := begins }
    let s := if verbose then s.prints .errors told else s
    let name := command.headD []
    let own : Octets → Performance := fun message => t.reports (t.fails message 1)
    match start { t with name, arguments := command.drop 1, input := [], inputEnds := 0
                         files := s.files } with
    | .error e =>
      let s := s.after begins (own (name ++ ": ".toList ++ reasonOf e))
      { c with sequel := s, rows := c.rows.set place s.time, status := Task.statusOf e
               stopped := true }
    | .ok p =>
      let s := s.after begins p
      let rows := c.rows.set place s.time
      match p.signal with
      | some signal =>
        let s := s.after s.time (own (name ++ ": terminated by signal ".toList ++
          Octets.ofNat signal.number))
        { c with sequel := s, rows, status := 125, stopped := true }
      | none =>
        if p.status = 255 then
          let s := s.after s.time (own (name ++ ": exited with status 255; aborting".toList))
          { c with sequel := s, rows, status := 124, stopped := true }
        else { c with sequel := s, rows, status := if p.status = 0 then c.status else 123 }

/-! ## Options -/

structure Request where
  sharing : Sharing := {}
  mark : Option Octets := none
  last : Option Octets := none
  rows : Nat := 1
  separator : Option Char := none
  errors : Octets := []
  deriving Repr

/-- The number that an option is given, or what is said about it. -/
def readNumber (letter : Char) (least : Int) (text : Octets) : Except Octets Nat :=
  let trimmed := text.dropWhile Octets.isSpace
  match Octets.integer? trimmed with
  | none =>
    .error ("invalid number \"".toList ++ text ++ "\" for -".toList ++ letter :: " option".toList)
  | some n =>
    if n < least then
      .error ("value ".toList ++ text ++ " for -".toList ++ letter :: " option should be >= ".toList ++
        Octets.ofInt least)
    else .ok n.toNat

/-- The warning about an option that takes away what another one has asked for. -/
def exclusive (t : Task) (first second : String) : Octets :=
  t.complaint ("warning: options --" ++ first ++ " and " ++ second ++
    " are mutually exclusive, ignoring previous --" ++ first ++ " value").toList

/-- What the options of arguments ask for, or why they are refused. -/
def requestOf (t : Task) (a : Arguments) : Except Report Request :=
  let refuse (message : Octets) : Report := t.refuses message 1
  a.options.foldlM
    (fun (r : Request) (letter, value) =>
      let number (least : Int) : Except Report Nat := (readNumber letter least value).mapError refuse
      let s := r.sharing
      match letter with
      | '0' => .ok { r with separator := some '\x00' }
      | 'd' =>
        match separatorOf value with
        | .ok c => .ok { r with separator := some c }
        | .error message => .error (t.fails message 1)
      | 'E' => .ok { r with last := if value.isEmpty then none else some value }
      | 'e' => .ok { r with last := if value.isEmpty then none else some value }
      | 'I' | 'i' =>
        let mark := if value.isEmpty && letter = 'i' then "\x7b\x7d".toList else value
        let (s, errors) :=
          if s.items.any (· != 1) then
            ({ s with items := none }, exclusive t "max-args" "--replace/-I/-i")
          else ({ s with items := none }, [])
        let (s, more) :=
          if s.lines.isSome then
            ({ s with lines := none }, exclusive t "max-lines" "--replace/-I/-i")
          else (s, [])
        .ok { r with mark := some mark, sharing := s, errors := r.errors ++ errors ++ more }
      | 'L' | 'l' =>
        if letter = 'l' && value.isEmpty then
          .ok { r with sharing := { s with lines := some 1 } }
        else
          (number 1).map fun n =>
            let name := if letter = 'L' then "-L" else "--max-lines/-l"
            let errors := if s.items.isSome then exclusive t "max-args" name else []
            let more := if r.mark.isSome then exclusive t "replace" name else []
            { r with mark := none, sharing := { s with lines := some n, items := none }
                     errors := r.errors ++ errors ++ more }
      | 'n' =>
        (number 1).map fun n =>
          let errors := if s.lines.isSome then exclusive t "max-lines" "--max-args/-n" else []
          let more := if n != 1 && r.mark.isSome then exclusive t "replace" "--max-args/-n" else []
          if n = 1 && r.mark.isSome then { r with errors := r.errors ++ errors }
          else
            { r with mark := none, sharing := { s with items := some n, lines := none }
                     errors := r.errors ++ errors ++ more }
      | 'P' => (number 0).map fun n => { r with rows := n }
      | 's' =>
        match readNumber 's' 1 value with
        | .ok n =>
          let limit := 2092986
          if limit < n then
            .ok { r with
              sharing := { s with size := limit }
              errors := r.errors ++ t.complaint ("value ".toList ++ value ++
                (" for -s option should be <= " ++ toString limit).toList) }
          else .ok { r with sharing := { s with size := n } }
        | .error message => .error (refuse message)
      | 'x' => .ok { r with sharing := { s with strict := true } }
      | _ => .ok r) {}

def collected : Behavior := fun start t =>
  withArguments t
      { plain := "0rtxpoS", valued := "adEInLPsV", optional := "eil", hidden := "SV"
        untilOperand := true
        words := [("null", '0'), ("no-run-if-empty", 'r'), ("verbose", 't'), ("arg-file", 'a'),
          ("delimiter", 'd'), ("max-args", 'n'), ("max-lines", 'l'), ("replace", 'i'),
          ("max-procs", 'P'), ("exit", 'x'), ("interactive", 'p'), ("max-chars", 's'),
          ("eof", 'e'), ("open-tty", 'o'), ("show-limits", 'S'), ("process-slot-var", 'V')] } 1
      fun a =>
    let contents : Except SystemError Octets := match a.value? 'a' with
      | some path => t.contents path
      | none => .ok t.input
    match requestOf t a, contents with
    | .error report, _ => t.reports report
    | _, .error e =>
      t.reports (t.fails ("Cannot open input file ".toList ++ Octets.shellQuoted
        ((a.value? 'a').getD []) ++ ": ".toList ++ reasonOf e) 1)
    | .ok r, .ok text =>
      let gathered : Gathered := match r.separator with
        | some c => { lines := (separated c text).map fun item => { items := [item] } }
        | none =>
          Gathered.read { wholeLines := r.mark.isSome, last := r.last } .between [] '\n' text
      let command := if a.operands.isEmpty then ["echo".toList] else a.operands
      let own := sizeOfWords command
      let (commands, mistake) : List (List Octets) × Option String := match r.mark with
        | some mark =>
          let items := (gathered.lines.map ItemLine.items).flatten
          (items.map fun item =>
            command.take 1 ++ (command.drop 1).map fun word =>
              inPlaceOf mark item (word.length + 1) word, none)
        | none =>
          let items := gathered.lines.flatMap fun line =>
            line.items.zipIdx.map fun (item, n) =>
              (item, line.counts && decide (n + 1 = line.items.length))
          let (groups, mistake, pending) := r.sharing.share own items [] 0 0
          let ending := if mistake.isSome then []
            else if !pending.isEmpty then
              (if r.sharing.strict && gathered.mistake.isSome then [] else [pending])
            else if groups.isEmpty && !a.has 'r' && gathered.mistake.isNone then [[]] else []
          ((groups ++ ending).map fun group => command ++ group, mistake)
      let fromFile := (a.value? 'a').isSome
      let left := if fromFile then t.input else []
      let ready := if fromFile then 0 else t.inputEnds
      let first : Collected :=
        { rows := List.replicate (if r.rows = 0 then max 1 commands.length else r.rows) ready
          sequel := { time := ready, files := t.files : Sequel }.prints .errors r.errors }
      let done :=
        if a.has 'p' then
          match commands with
          | [] => first
          | command :: _ =>
            let told := Octets.joined [' '] (command.map (Octets.asWord false))
            { first with
              status := 1, stopped := true
              sequel := first.sequel.prints .errors (told ++
                t.complaint "failed to open /dev/tty for reading: No such device or address".toList) }
        else commands.foldl (fun c command => c.next t start (a.has 't') command) first
      let ends := done.rows.foldl max ready
      let finish (message : String) : Performance :=
        let s := { done.sequel with time := ends }.prints .errors (t.complaint message.toList)
        s.performance left 1
      if done.stopped then { done.sequel with time := ends }.performance left done.status
      else
        match mistake, gathered.mistake with
        | some message, _ | none, some message => finish message
        | none, none => { done.sequel with time := ends }.performance left done.status

end CommandChains.Machine.Delegate
