import CommandChains.Machine.Shell.Builtin.Variables

/-!
# Commands that read

The commands of the shell that read lines of their input into variables. A line is cut into
words between the separators of the shell; the last variable gets all that is left.
-/

namespace CommandChains.Machine.Shell.Builtin

/-! ## Lines -/

structure ReadingManner where
  raw : Bool := false
  /-- The character that ends what is read, if one does. -/
  ending : Option Char := some '\n'

/-- What has been read: characters and whether they may separate words, whether the end
was as it should be, and what is left. -/
abbrev LineRead := List Marked × Bool × Octets

/-- Reads up to the end of a line, at most so many characters. -/
def readUpTo (how : ReadingManner) : Nat → Octets → LineRead
  | _, [] => ([], false, [])
  | 0, rest => ([], true, rest)
  | room + 1, '\\' :: c :: rest =>
    if how.raw then
      let (line, ended, left) := readUpTo how room (c :: rest)
      (('\\', true) :: line, ended, left)
    else if c = '\n' then readUpTo how (room + 1) rest
    else
      let (line, ended, left) := readUpTo how room rest
      ((c, false) :: line, ended, left)
  | room + 1, c :: rest =>
    if some c = how.ending then ([], true, rest)
    else if c = '\\' ∧ !how.raw then ([], false, rest)
    else
      let (line, ended, left) := readUpTo how room rest
      ((c, true) :: line, ended, left)

/-- Cuts a line into so many words, the last of which holds all the rest. A separator at
the very end is dropped if nothing else separates what is left. -/
def wordsOfLine (separators : Octets) : Nat → List Marked → List Octets
  | 0, _ => []
  | rounds + 1, line =>
    let separates (m : Marked) : Bool := m.2 && separators.contains m.1
    let blank (m : Marked) : Bool := separates m && (m.1 == ' ' || m.1 == '\t' || m.1 == '\n')
    let line := line.dropWhile blank
    let word := line.takeWhile fun m => !separates m
    let behind := (line.drop word.length).dropWhile blank
    let rest := match behind with
      | m :: after => if separates m then after.dropWhile blank else behind
      | [] => []
    if rounds = 0 then
      let all := if rest.isEmpty then word else (line.reverse.dropWhile blank).reverse
      [all.map (·.1)]
    else word.map (·.1) :: wordsOfLine separators rounds rest

def allWordsOfLine (separators : Octets) : Nat → List Marked → List Octets
  | 0, _ => []
  | rounds + 1, line =>
    let separates (m : Marked) : Bool := m.2 && separators.contains m.1
    let blank (m : Marked) : Bool := separates m && (m.1 == ' ' || m.1 == '\t' || m.1 == '\n')
    let line := line.dropWhile blank
    if line.isEmpty then []
    else
      let word := line.takeWhile fun m => !separates m
      let behind := (line.drop word.length).dropWhile blank
      let rest := match behind with
        | m :: after => if separates m then after else behind
        | [] => []
      word.map (·.1) :: allWordsOfLine separators rounds rest

/-! ## Reading into variables -/

def setEach (c : Context) : List (Octets × Octets) → State → State
  | [], s => s
  | (name, word) :: rest, s =>
    match s.dialect with
    | .small =>
      if !isName name then badName name s
      else if s.isFixed name then failsFixed name s
      else setEach c rest (s.set name word)
    | .large =>
      match Reference.plain? .large name with
      | some r =>
        if !isName r.name || !r.change.isEmpty then badIdentifier name s
        else
          let before := s.status
          let done := assigns c r.name r.key false word (s.withStatus 0)
          if done.status = 0 && done.goes then setEach c rest (done.withStatus before) else done
      | none => badIdentifier name s

def pass (stream : Nat) (ends : Nat) (left : Octets) (s : State) : State :=
  (s.waitUntil ends).leave stream left

def readSmall : Builtin := fun c =>
  withOptions "r" "p" fun found s =>
    let names := found.2
    match names.find? fun name => !isName name with
    | some name => badName name s
    | none =>
      if names.isEmpty then smallMistake "arg count".toList s
      else
        match s.read? 0 with
        | none => s.withStatus 1
        | some (text, ends) =>
          let how : ReadingManner := { raw := hasOption 'r' found }
          let (line, ended, left) := readUpTo how (text.length + 1) text
          let words := wordsOfLine s.separators names.length line
          setEach c (names.zip words) ((pass 0 ends left s).withStatus (if ended then 0 else 1))

/-- What is asked for when something is read by the large shell. -/
structure ReadingOrder where
  how : ReadingManner := {}
  most : Option Nat := none
  whole : Bool := false
  stream : Nat := 0
  patience : Option Nat := none

/-- What some options ask for, or what is wrong with them. -/
def ReadingOrder.ofOptions (found : Options) : Except Octets ReadingOrder :=
  let start : ReadingOrder := { how := { raw := hasOption 'r' found } }
  found.1.foldl (fun order (letter, value) =>
    match order with
    | .error e => .error e
    | .ok order =>
      match letter with
      | 'n' | 'N' =>
        match Octets.decimal? value with
        | some n =>
          let exact := letter == 'N'
          let ending := if exact then none else order.how.ending
          .ok { order with most := some n, whole := exact, how := { order.how with ending } }
        | none => .error (value ++ ": invalid number".toList)
      | 'd' => .ok { order with how := { order.how with ending := some (value.headD '\x00') } }
      | 't' =>
        match Duration.ofText? value with
        | some time => .ok { order with patience := some time }
        | none => .error (value ++ ": invalid timeout specification".toList)
      | 'u' =>
        match Octets.decimal? value with
        | some n => .ok { order with stream := n }
        | none => .error (value ++ ": invalid file descriptor specification".toList)
      | _ => .ok order) (.ok start)

def badStream (order : ReadingOrder) (asked : Bool) (s : State) : State :=
  let number := Octets.ofNat order.stream
  if asked then
    s.commandFailing (number ++ ": invalid file descriptor: Bad file descriptor".toList) 1
  else s.commandFailing ("read error: ".toList ++ number ++ ": Bad file descriptor".toList) 1

def readLarge : Builtin := fun c =>
  withOptions "rse" "adinNptu" fun found s =>
    match ReadingOrder.ofOptions found with
    | .error message => s.commandFailing message 1
    | .ok order =>
      let wrong := found.2.find? fun name =>
        match Reference.plain? .large name with
        | some r => !isName r.name || !r.change.isEmpty
        | none => true
      let wrong := if wrong.isSome && (found.2.head? == wrong) then wrong
        else (valueOf? 'a' found).filter fun name => !isName name
      match wrong, s.read? order.stream with
      | some name, _ => badIdentifier name s
      | none, none => badStream order (hasOption 'u' found) s
      | none, some (text, ends) =>
        if order.patience = some 0 then s.withStatus (if ends ≤ s.clock then 0 else 1)
        else if order.patience.any fun time => decide (s.clock + time < ends) then
          (s.waitUntil (s.clock + order.patience.getD 0)).withStatus 142
        else
          let (line, ended, left) := readUpTo order.how (order.most.getD (text.length + 1)) text
          let s := (pass order.stream ends left s).withStatus (if ended then 0 else 1)
          let plain := line.map (·.1)
          match valueOf? 'a' found, found.2 with
          | some name, _ =>
            if s.isFixed name then failsFixed name s
            else
              let words := allWordsOfLine s.separators (line.length + 1) line
              s.setValue name (.row (words.zipIdx.map fun (t, n) => (n, t)))
          | none, [] => s.set "REPLY".toList plain
          | none, names =>
            let words := if order.whole then plain :: List.replicate (names.length - 1) []
              else wordsOfLine s.separators names.length line
            setEach c (names.zip words) s

def read : Builtin := byDialect readSmall readLarge

/-! ## Reading many lines -/

/-- The records of a text, each with the mark at its end. -/
def markedRecords (mark : Char) (text : Octets) : List Octets :=
  let records := Octets.splitAt mark text
  let last := records.getLast?.getD []
  (records.dropLast.map (· ++ [mark])) ++ if last.isEmpty then [] else [last]

def readAll : Builtin := fun c =>
  withOptions "t" "dnOsuCc" fun found s =>
    let number (letter : Char) : Except Octets (Option Nat) :=
      match valueOf? letter found with
      | none => .ok none
      | some value =>
        match Octets.decimal? value with
        | some n => .ok (some n)
        | none => .error value
    let name := found.2.headD "MAPFILE".toList
    match number 'n', number 'O', number 's', number 'u' with
    | .error e, _, _, _ | _, _, .error e, _ => s.commandFailing (e ++ ": invalid line count".toList) 1
    | _, .error e, _, _ => s.commandFailing (e ++ ": invalid array origin".toList) 1
    | _, _, _, .error e =>
      s.commandFailing (e ++ ": invalid file descriptor specification".toList) 1
    | .ok most, .ok origin, .ok skipped, .ok stream =>
      let stream := stream.getD 0
      if !isName name then badIdentifier name s
      else if s.isFixed name then failsFixed name s
      else
        match s.read? stream with
        | none =>
          let text := Octets.ofNat stream ++ ": invalid file descriptor: Bad file descriptor".toList
          s.commandFailing text 1
        | some (text, ends) =>
          let mark := match valueOf? 'd' found with
            | some value => value.headD '\x00'
            | none => '\n'
          let all := markedRecords mark text
          let wanted := (most.filter (0 < ·)).getD all.length
          let taken := (all.drop (skipped.getD 0)).take wanted
          let left := (all.drop (skipped.getD 0 + taken.length)).flatten
          let shown (record : Octets) : Octets :=
            if hasOption 't' found && record.getLast? == some mark then record.dropLast else record
          let kept := if origin.isSome then ((s.value? name).map Value.asRow).getD [] else []
          let first := origin.getD 0
          let row := (taken.map shown).zipIdx.foldl (fun row (t, n) =>
            Value.setAt row (first + n) t) kept
          let s := (pass stream ends left s).setValue name (.row row)
          match valueOf? 'C' found with
          | none => s.withStatus 0
          | some script =>
            let every := (((valueOf? 'c' found).bind Octets.decimal?).filter (0 < ·)).getD 5000
            let called := (taken.map shown).zipIdx.filter fun (_, n) => (n + 1) % every = 0
            (called.foldl (fun s (t, n) =>
              let words := script ++ ' ' :: Octets.ofNat (first + n) ++ ' ' :: Quoting.single t
              c.runText words s) s).withStatus 0

end CommandChains.Machine.Shell.Builtin
