import CommandChains.Machine.Tool.Basic
import CommandChains.Machine.Tool.Fields

/-!
# Tools about two sources

Walking through two sources side by side, and a tool that prints which lines are in both.
-/

namespace CommandChains.Machine.Tool

/-!
## Lines in order

Tools that walk through two sources side by side rely on the order of their lines. A lane
is one of the sources as far as it has been walked. When a line is taken, the order is
looked at, if it is to be; a source that is out of order is told about once.
-/

inductive OrderCheck where
  | never
  /-- Once a line has been seen that is in one source only. -/
  | whenUnpaired
  | always
  deriving DecidableEq, Repr

structure Lane (α : Type) where
  now : Option α
  rest : List α
  number : Nat
  before : List α := []
  disordered : Bool := false

namespace Lane

variable {α : Type}

def ofList : List α → Lane α
  | [] => { now := none, rest := [], number := 0 }
  | line :: rest => { now := some line, rest, number := 1 }

/-- How many lines are left, with the one that is looked at. -/
def left (l : Lane α) : Nat := l.rest.length + (if l.now.isSome then 1 else 0)

def next (l : Lane α) : Lane α :=
  match l.now, l.rest with
  | some line, [] => { l with now := none, before := line :: l.before }
  | some line, following :: rest =>
    { l with now := some following, rest, number := l.number + 1, before := line :: l.before }
  | none, _ => l

end Lane

/-- Arguments for looking at the order, by the letters of options. -/
def orderCheckOf (a : Arguments) : OrderCheck :=
  match a.last? "kK" with
  | some 'k' => .always
  | some _ => .never
  | none => .whenUnpaired

def orderWords : List (String × Char) := [("check-order", 'k'), ("nocheck-order", 'K')]

/-!
## Lines in two sources

A tool that prints in three columns which lines are in the first of two sources only, in
the second only, or in both.
-/

namespace Matching

structure Columns where
  first : Bool
  second : Bool
  both : Bool
  separator : Octets
  lineEnd : Char
  check : OrderCheck

structure Walk where
  left : Lane Octets
  right : Lane Octets
  unpaired : Bool := false
  output : Octets := []
  errors : List Nat := []
  ended : Bool := false
  counts : Nat × Nat × Nat := (0, 0, 0)

/-- A line in its column, or nothing if the column is not wanted. -/
def Columns.line (c : Columns) (place : Nat) (line : Octets) : Octets :=
  let gap (shown : Bool) : Octets := if shown then c.separator else []
  match place with
  | 1 => if c.first then line ++ [c.lineEnd] else []
  | 2 => if c.second then gap c.first ++ line ++ [c.lineEnd] else []
  | _ => if c.both then gap c.first ++ gap c.second ++ line ++ [c.lineEnd] else []

/-- Looks at the order of the lines of a lane that has gone on. At the end the two lines
before are looked at. -/
def looked (c : Columns) (unpaired : Bool) (l : Lane Octets) : Lane Octets × Bool :=
  let looks := match c.check with
    | .never => false
    | .whenUnpaired => unpaired
    | .always => true
  let falls : Bool := match l.now, l.before with
    | some now, before :: _ => !Octets.atMost before now
    | none, last :: before :: _ => !Octets.atMost before last
    | _, _ => false
  if looks && !l.disordered && falls then ({ l with disordered := true }, true) else (l, false)

def Walk.onLeft (c : Columns) (w : Walk) : Walk :=
  match looked c w.unpaired w.left.next with
  | (left, true) => { w with left, errors := w.errors ++ [1], ended := c.check == .always }
  | (left, false) => { w with left }

/-- Goes on in the second source, unless all has ended. -/
def Walk.onRight (c : Columns) (w : Walk) : Walk :=
  if w.ended then w
  else
    match looked c w.unpaired w.right.next with
    | (right, true) => { w with right, errors := w.errors ++ [2], ended := c.check == .always }
    | (right, false) => { w with right }

def Walk.go (c : Columns) : Nat → Walk → Walk
  | 0, w => w
  | steps + 1, w =>
    if w.ended then w
    else
      let (a, b, both) := w.counts
      let left (line : Octets) : Walk :=
        Walk.onLeft c { w with
          unpaired := true, output := w.output ++ c.line 1 line, counts := (a + 1, b, both) }
      let right (line : Octets) : Walk :=
        Walk.onRight c { w with
          unpaired := true, output := w.output ++ c.line 2 line, counts := (a, b + 1, both) }
      match w.left.now, w.right.now with
      | none, none => w
      | some line, none => (left line).go c steps
      | none, some line => (right line).go c steps
      | some one, some two =>
        if one = two then
          let w := { w with output := w.output ++ c.line 3 two, counts := (a, b, both + 1) }
          ((w.onLeft c).onRight c).go c steps
        else if Octets.atMost one two then (left one).go c steps
        else (right two).go c steps

def conflicting (values : List Octets) : Bool :=
  match values with
  | first :: others => others.any (· != first)
  | [] => false

end Matching

open Matching in
/-- Prints which lines are in one source only and which are in both. -/
def common : Tool := fun t =>
  t.withArguments
      { plain := "123z"
        valued := "O", hidden := "O"
        words := orderWords ++ [("output-delimiter", 'O'), ("total", 'T'), ("zero-terminated", 'z')] }
        1 fun a =>
    match a.operands with
    | _ :: _ :: extra :: _ => t.refuses ("extra operand ".toList ++ Octets.quoted extra) 1
    | [] => t.refuses "missing operand".toList 1
    | [one] => t.refuses ("missing operand after ".toList ++ Octets.quoted one) 1
    | operands =>
      if conflicting (a.values 'O') then t.fails "multiple output delimiters specified".toList 1
      else
        let (sources, left) := t.sources operands
        match sources.find? fun s => s.contents.toOption.isNone with
        | some s =>
          { errors := t.complaints [s] Task.plainly, left, status := 1 }
        | none =>
          let separator := match a.value? 'O' with
            | none => ['\t']
            | some [] => ['\x00']
            | some text => text
          let c : Columns :=
            { first := !a.has '1', second := !a.has '2', both := !a.has '3', separator
              lineEnd := a.lineEnd, check := orderCheckOf a }
          let lane (s : Option Source) : Lane Octets :=
            .ofList (Octets.records a.lineEnd ((s.map Source.text).getD []))
          let start : Walk := { left := lane sources.head?, right := lane (sources.drop 1).head? }
          let w := start.go c (start.left.left + start.right.left)
          let told := w.errors.flatMap fun n =>
            t.complaint ("file ".toList ++ Octets.ofNat n ++ " is not in sorted order".toList)
          let last := if w.errors.isEmpty || w.ended then []
            else t.complaint "input is not in sorted order".toList
          let (one, two, both) := w.counts
          let total := if a.has 'T' && !w.ended then
              Octets.joined separator ([one, two, both].map Octets.ofNat ++ ["total".toList]) ++
                [a.lineEnd]
            else []
          { output := w.output ++ total, errors := told ++ last, left
            status := if w.errors.isEmpty then 0 else 1 }

/-!
## Lines joined by a field

A tool that joins lines of two sources that have the same text in some field. Both sources
are in the order of these fields. Lines without a partner can be printed, too.
-/

namespace Joining

/-! ## Fields -/

/-- Whether a character separates fields if nothing else is said. -/
def isBlank (c : Char) : Bool := c == ' ' || c == '\t' || c == '\n'

/-- The fields of a text that begins with none of the blanks, at most so many. A text that
ends with blanks has an empty field behind them. -/
def blankFields : Nat → Octets → List Octets
  | 0, _ => []
  | most + 1, text =>
    match text with
    | [] => [[]]
    | text =>
      let field := text.takeWhile fun c => !isBlank c
      match text.drop field.length with
      | [] => [field]
      | rest => field :: blankFields most (rest.dropWhile isBlank)

def fieldsOf (separator : Option Char) (line : Octets) : List Octets :=
  match separator with
  | some '\n' => if line.isEmpty then [] else [line]
  | some c => if line.isEmpty then [] else Octets.splitAt c line
  | none =>
    match line.dropWhile isBlank with
    | [] => []
    | text => blankFields (text.length + 1) text

structure Row where
  line : Octets
  fields : List Octets

/-- What is printed of a pair of lines: the field they are joined by, or a field of one of
them. -/
inductive Item where
  | joining
  | field (second : Bool) (place : Nat)
  deriving DecidableEq, Repr

structure Request where
  fields : Nat × Nat
  separator : Option Char
  filler : Option Octets
  items : List Item
  /-- How many fields of the lines are printed, if it is the same number for all. -/
  counts : Option (Nat × Nat)
  onlyFirst : Bool
  onlySecond : Bool
  paired : Bool
  ignoresCase : Bool
  check : OrderCheck
  lineEnd : Char

/-- The text of a field, or what stands for an empty one. -/
def Request.text (r : Request) (place : Nat) (row : Option Row) : Octets :=
  match (row.bind fun row => row.fields[place]?).getD [] with
  | [] => r.filler.getD []
  | text => text

/-- The line for a pair of which one may be missing. -/
def Request.joined (r : Request) (one two : Option Row) : Octets :=
  let joining := if one.isSome then r.text r.fields.1 one else r.text r.fields.2 two
  let others (place : Nat) (count : Option Nat) (row : Option Row) : List Octets :=
    let count := count.getD ((row.map fun row => row.fields.length).getD 0)
    ((List.range count).filter (· != place)).map fun place => r.text place row
  let texts := if r.items.isEmpty then
      joining :: others r.fields.1 (r.counts.map (·.1)) one ++
        others r.fields.2 (r.counts.map (·.2)) two
    else
      r.items.map fun item => match item with
        | .joining => joining
        | .field second place => r.text place (if second then two else one)
  let between := match r.separator with
    | some '\n' | none => ' '
    | some c => c
  Octets.joined [between] texts ++ [r.lineEnd]

def Request.key (r : Request) (second : Bool) (row : Row) : Octets :=
  let text := (row.fields[if second then r.fields.2 else r.fields.1]?).getD []
  if r.ignoresCase then text.map Char.toUpper else text

/-! ## Walking -/

structure Walk where
  left : Lane Row
  right : Lane Row
  unpaired : Bool := false
  output : Octets := []
  /-- The lines that are out of order: the source, their number and text. -/
  errors : List (Bool × Nat × Octets) := []
  ended : Bool := false

def Walk.on (r : Request) (second : Bool) (w : Walk) : Walk :=
  if w.ended then w
  else
    let lane := (if second then w.right else w.left).next
    let looks := match r.check with
      | .never => false
      | .whenUnpaired => w.unpaired
      | .always => true
    let falls : Bool := match lane.now, lane.before with
      | some now, before :: _ => !Octets.atMost (r.key second before) (r.key second now)
      | _, _ => false
    let bad := looks && !lane.disordered && falls
    let lane := { lane with disordered := lane.disordered || bad }
    let error := match bad, lane.now with
      | true, some now => [(second, lane.number, now.line)]
      | _, _ => []
    let w := { w with errors := w.errors ++ error, ended := bad && r.check == OrderCheck.always }
    if second then { w with right := lane } else { w with left := lane }

/-- Takes lines as long as their field is some text, at most so many. -/
def Walk.takeWhile (r : Request) (second : Bool) (key : Octets) : Nat → Walk → List Row × Walk
  | 0, w => ([], w)
  | most + 1, w =>
    match (if second then w.right.now else w.left.now), w.ended with
    | some row, false =>
      if r.key second row = key then
        let (rows, w) := (w.on r second).takeWhile r second key most
        (row :: rows, w)
      else ([], w)
    | _, _ => ([], w)

/-- Prints the rest of one source, at most so many lines. -/
def Walk.finish (r : Request) (second : Bool) : Nat → Walk → Walk
  | 0, w => w
  | most + 1, w =>
    let prints := if second then r.onlySecond else r.onlyFirst
    match (if second then w.right.now else w.left.now), w.ended with
    | some row, false =>
      let line := if !prints then []
        else if second then r.joined none (some row) else r.joined (some row) none
      ({ w with output := w.output ++ line }.on r second).finish r second most
    | _, _ => w

/-- Walks through both sources, at most so many steps. -/
def Walk.go (r : Request) : Nat → Walk → Walk
  | 0, w => w
  | steps + 1, w =>
    match w.left.now, w.right.now, w.ended with
    | some one, some two, false =>
      let a := r.key false one
      let b := r.key true two
      if a = b then
        let (ones, w) := w.takeWhile r false a w.left.left
        let (twos, w) := w.takeWhile r true a w.right.left
        let lines := if r.paired then
            ones.flatMap fun one => twos.flatMap fun two => r.joined (some one) (some two)
          else []
        { w with output := if w.ended then w.output else w.output ++ lines }.go r steps
      else if Octets.atMost a b then
        let line := if r.onlyFirst then r.joined (some one) none else []
        ({ w with output := w.output ++ line, unpaired := true }.on r false).go r steps
      else
        let line := if r.onlySecond then r.joined none (some two) else []
        ({ w with output := w.output ++ line, unpaired := true }.on r true).go r steps
    | _, _, _ =>
      if w.ended then w
      else
        let w := if r.onlyFirst || r.check != .never then w.finish r false w.left.left else w
        if r.onlySecond || r.check != .never then w.finish r true w.right.left else w

/-! ## Options -/

def place (text : Octets) : Except Octets Nat :=
  match Octets.decimal? text with
  | some (n + 1) => .ok n
  | _ => .error ("invalid field number: ".toList ++ Octets.quoted text)

def itemOf (text : Octets) : Except Octets Item :=
  match text with
  | '0' :: rest =>
    if rest.isEmpty then .ok .joining
    else .error ("invalid field specifier: ".toList ++ Octets.quoted text)
  | '1' :: rest | '2' :: rest =>
    match rest with
    | '.' :: number => (place number).map (.field (text.head? == some '2'))
    | _ => .error ("invalid field specifier: ".toList ++ Octets.quoted text)
  | _ => .error ("invalid file number in field spec: ".toList ++ Octets.quoted text)

def itemsOf (text : Octets) : Except Octets (List Item) :=
  (Octets.words (text.map fun c => if c = ',' then ' ' else c)).mapM itemOf

/-- Whether an argument belongs to the list of fields in front of it. -/
def isMoreItems (text : Octets) : Bool :=
  match text with
  | '0' :: rest => rest.isEmpty || rest.head? == some ',' || rest.head? == some ' '
  | '1' :: '.' :: _ | '2' :: '.' :: _ => true
  | _ => false

/-- The arguments in the form that is read: the parts of a list of fields in one argument,
and the fields of both sources by their own letters. -/
def gathered : List Octets → List Octets
  | ['-', 'j', '1'] :: rest => "-1".toList :: gathered rest
  | ['-', 'j', '2'] :: rest => "-2".toList :: gathered rest
  | ['-', 'o'] :: list :: rest =>
    let more := rest.takeWhile isMoreItems
    ["-o".toList, Octets.joined [','] (list :: more)] ++ rest.drop more.length
  | argument :: rest => argument :: gathered rest
  | [] => []

/-- The character that separates fields, as an option says. -/
def separatorOf (text : Octets) : Except Octets Char :=
  match text with
  | [] => .ok '\n'
  | [c] => .ok c
  | ['\\', '0'] => .ok '\x00'
  | text => .error ("multi-character tab ".toList ++ Octets.quoted text)

/-- The field by which lines of one source are joined, where options must agree. -/
def agreed (values : List Octets) : Except Octets (Option Nat) :=
  values.foldl (fun found text =>
    match found, place text with
    | .error e, _ => .error e
    | .ok _, .error e => .error e
    | .ok none, .ok n => .ok (some n)
    | .ok (some m), .ok n =>
      if m = n then .ok (some m)
      else .error ("incompatible join fields ".toList ++ Octets.ofNat m ++ ", ".toList ++
        Octets.ofNat n)) (.ok none)

def request (a : Arguments) : Except Octets Request := do
  let sourceNumber (text : Octets) : Except Octets Nat :=
    match text with
    | ['1'] => .ok 1
    | ['2'] => .ok 2
    | text => .error ("invalid field number: ".toList ++ Octets.quoted text)
  let alone ← (a.values 'v').mapM sourceNumber
  let also ← (a.values 'a').mapM sourceNumber
  let joint (letter : Char) : List Octets :=
    (a.options.filter fun option => option.1 == letter || option.1 == 'j').map (·.2)
  let first ← agreed (joint '1')
  let second ← agreed (joint '2')
  let separators ← (a.values 't').mapM separatorOf
  match separators with
  | one :: others => if others.any (· != one) then throw "incompatible tabs".toList
  | [] => pure ()
  match a.values 'e' with
  | one :: others =>
    if others.any (· != one) then throw "conflicting empty-field replacement strings".toList
  | [] => pure ()
  let lists := (a.values 'o').filter (· != "auto".toList)
  let items ← lists.mapM itemsOf
  pure
    { fields := (first.getD 0, second.getD 0), separator := separators.head?
      filler := a.value? 'e', items := items.flatten, counts := none
      onlyFirst := alone.contains 1 || also.contains 1
      onlySecond := alone.contains 2 || also.contains 2
      paired := alone.isEmpty, ignoresCase := a.has 'i', check := orderCheckOf a
      lineEnd := a.lineEnd }

def join : Tool := fun t =>
  let t : Task := { t with arguments := gathered t.arguments }
  t.withArguments
      { plain := "iz", valued := "aejotv12"
        words := orderWords ++ [("ignore-case", 'i'), ("header", 'H'), ("zero-terminated", 'z')] }
        1 fun a =>
    match request a, a.operands with
    | .error message, _ => t.fails message 1
    | .ok _, _ :: _ :: extra :: _ => t.refuses ("extra operand ".toList ++ Octets.quoted extra) 1
    | .ok _, [] => t.refuses "missing operand".toList 1
    | .ok _, [one] => t.refuses ("missing operand after ".toList ++ Octets.quoted one) 1
    | .ok r, operands =>
      if operands.all (· == ['-']) then t.fails "both files cannot be standard input".toList 1
      else
        let (sources, left) := t.sources operands
        match sources.find? fun s => s.contents.toOption.isNone with
        | some s =>
          let message : Source → Octets → Octets := fun s reason =>
            if s.isDirectory then "read error: ".toList ++ reason else Task.plainly s reason
          { errors := t.complaints [s] message, left, status := 1 }
        | none =>
          let rows (s : Option Source) : List Row :=
            (Octets.records a.lineEnd ((s.map Source.text).getD [])).map fun line =>
              ⟨line, fieldsOf r.separator line⟩
          let ones := rows sources.head?
          let twos := rows (sources.drop 1).head?
          let width (rows : List Row) : Nat := (rows.head?.map fun row => row.fields.length).getD 0
          let r := if (a.values 'o').contains "auto".toList then
              { r with counts := some (width ones, width twos) } else r
          let header := if a.has 'H' && !(ones.isEmpty && twos.isEmpty) then
              r.joined ones.head? twos.head?
            else []
          let lane (rows : List Row) : Lane Row :=
            if a.has 'H' then
              let lane := Lane.ofList (rows.drop 1)
              { lane with number := lane.number + 1 }
            else .ofList rows
          let start : Walk := { left := lane ones, right := lane twos }
          let w := start.go r (start.left.left + start.right.left + 1)
          let told := w.errors.flatMap fun (second, n, line) =>
            t.complaint ((operands.getD (if second then 1 else 0) []) ++ ':' :: Octets.ofNat n ++
              ": is not sorted: ".toList ++ line)
          let last := if w.errors.isEmpty || w.ended then []
            else t.complaint "input is not in sorted order".toList
          { output := header ++ w.output, errors := told ++ last, left
            status := if w.errors.isEmpty then 0 else 1 }

end Joining

end CommandChains.Machine.Tool
