import CommandChains.Machine.Tool.Comparison
import CommandChains.Machine.Tool.Fields
import CommandChains.Machine.Arguments
import CommandChains.Machine.Tool.Basic

/-!
# Lines in order

Lines are put in order by keys. A key is a part of the line, with a way to compare it;
without keys the whole line is compared. Lines that are the same by all keys are put
in the order of their bytes, unless they are to keep their order.
-/

namespace CommandChains.Machine

namespace Tool

/-! ## Keys -/

structure Key where
  /-- The first field and the first character in it, counted from nought. -/
  field : Nat := 0
  character : Nat := 0
  /-- The last field and how many characters of it, or all of it; or else the end of the
  line. -/
  last : Option (Nat × Nat) := none
  options : Octets := []
  /-- Whether blanks in front are passed over, at the start and at the end. -/
  skipsStart : Bool := false
  skipsEnd : Bool := false

inductive KeyMistake where
  | noNumber (place : String) (text : Octets)
  | badField (what : String) (text : Octets)
  deriving DecidableEq, Repr

def KeyMistake.message : KeyMistake → Octets
  | noNumber place text =>
    ("invalid number " ++ place ++ ": invalid count at start of ").toList ++ Octets.quoted text
  | badField what text =>
    (what ++ ": invalid field specification ").toList ++ Octets.quoted text

namespace Key

def has (k : Key) (letter : Char) : Bool := k.options.contains letter

def afterFields (separator : Option Char) : Nat → Octets → Octets
  | 0, text => text
  | n + 1, text =>
    match separator with
    | none => afterFields none n (skipFields 1 text)
    | some mark => afterFields separator n ((text.dropWhile (· != mark)).drop 1)

def part (k : Key) (separator : Option Char) (line : Octets) : Octets :=
  let skip (wanted : Bool) (text : Octets) : Octets :=
    if wanted then text.dropWhile fun c => c == ' ' || c == '\t' else text
  let start := (skip k.skipsStart (afterFields separator k.field line)).drop k.character
  match k.last with
  | none => start
  | some (field, characters) =>
    let rest :=
      if characters = 0 then
        match separator with
        | none => afterFields none field line
        | some mark => (afterFields separator (field - 1) line).dropWhile (· != mark)
      else (skip k.skipsEnd (afterFields separator (field - 1) line)).drop characters
    start.take (start.length - rest.length)

def folded (k : Key) (text : Octets) : Octets :=
  let kept := text.filter fun c =>
    (!k.has 'd' || c.isAlphanum || c == ' ' || c == '\t') &&
      (!k.has 'i' || (decide (32 ≤ c.toNat) && decide (c.toNat < 127)))
  if k.has 'f' then kept.map Char.toUpper else kept

def order (k : Key) (separator : Option Char) (a b : Octets) : Ordering :=
  let a := k.part separator a
  let b := k.part separator b
  let result :=
    if k.has 'n' then (Decimal.read a).order (Decimal.read b)
    else if k.has 'g' then (General.read a).order (General.read b)
    else if k.has 'h' then orderWithPowers a b
    else if k.has 'M' then compare (monthOf a) (monthOf b)
    else
      let a := k.folded a
      let b := k.folded b
      if k.has 'V' then orderOfNames a b else orderOfBytes a b
  if k.has 'r' then result.swap else result

def letters : String := "bdfghiMnRrV"

/-- The letters of ways that do not go together, if there are several of them, in the order
in which they are complained about. -/
def conflict? (k : Key) : Option Octets :=
  let ways := ("gnhM".toList.filter k.has).length
  let others := if k.has 'V' || k.has 'R' || k.has 'd' || k.has 'i' then 1 else 0
  if ways + others ≤ 1 then none
  else
    some ("dfghiMnRV".toList.filter fun c => k.has c && !(c == 'i' && k.has 'd'))

def readNumber (place : String) (text : Octets) : Except KeyMistake (Nat × Octets) :=
  let digits := text.takeWhile Char.isDigit
  if digits.isEmpty then .error (.noNumber place text)
  else .ok (Octets.decimal digits, text.drop digits.length)

def ofText (text : Octets) : Except KeyMistake Key := do
  let isLetter (c : Char) : Bool := letters.contains c
  let (field, rest) ← readNumber "at field start" text
  if field = 0 then throw (.badField "field number is zero" text)
  let (character, rest) ← match rest with
    | '.' :: rest => readNumber "after '.'" rest
    | rest => .ok (1, rest)
  if character = 0 then throw (.badField "character offset is zero" text)
  let options := rest.takeWhile isLetter
  let start : Key :=
    { field := field - 1, character := character - 1, options
      skipsStart := options.contains 'b' }
  match rest.drop options.length with
  | [] => pure start
  | ',' :: rest => do
    let (last, rest) ← readNumber "after ','" rest
    if last = 0 then throw (.badField "field number is zero" text)
    let (characters, rest) ← match rest with
      | '.' :: rest => readNumber "after '.'" rest
      | rest => .ok (0, rest)
    let more := rest.takeWhile isLetter
    if more.length < rest.length then
      throw (.badField "stray character in field spec" text)
    pure { start with
      last := some (last, characters), options := options ++ more
      skipsEnd := more.contains 'b' }
  | _ => throw (.badField "stray character in field spec" text)

end Key

/-! ## The tool -/

def sortWords : List (String × Char) :=
  [("general-numeric", 'g'), ("human-numeric", 'h'), ("month", 'M'), ("numeric", 'n'),
    ("random", 'R'), ("version", 'V')]

def separatorOf (a : Arguments) : Except Octets (Option Char) :=
  (a.values 't').foldlM (fun given value =>
    let set (c : Char) : Except Octets (Option Char) :=
      if given.any (· != c) then .error "incompatible tabs".toList else .ok (some c)
    match value with
    | [] => .error "empty tab".toList
    | [c] => set c
    | ['\\', '0'] => set '\x00'
    | value => .error ("multi-character tab ".toList ++ Octets.quoted value)) none

/-- The keys that arguments name. A key without ways of its own takes the general ones. -/
def keysOf (a : Arguments) : Except Octets (List Key) := do
  let byName := (a.values 'W').filterMap fun name =>
    (sortWords.find? fun entry => name.isPrefixOf entry.1.toList).map (·.2)
  let options := (a.options.map (·.1)).filter (Key.letters.contains ·) ++ byName
  let given ← (a.values 'k').mapM fun text =>
    match Key.ofText text with
    | .ok key => .ok key
    | .error mistake => .error mistake.message
  let skips := a.has 'b'
  let keys := given.map fun key =>
    if key.options.isEmpty then { key with options, skipsStart := skips, skipsEnd := skips }
    else key
  let keys : List Key :=
    if keys.isEmpty && options.any (· != 'r') then [{ options, skipsStart := skips }] else keys
  match keys.findSome? Key.conflict? with
  | some letters => .error ("options '-".toList ++ letters ++ "' are incompatible".toList)
  | none => pure keys

/-- Arguments in which a plus sign and a number, and perhaps a dash and a number behind
it, name a key in the old way: by the fields that are skipped. -/
def withOldKeys : List Octets → List Octets
  | ('+' :: c :: rest) :: others =>
    if !c.isDigit then ('+' :: c :: rest) :: withOldKeys others
    else
      let next (text : Octets) : Octets :=
        let digits := text.takeWhile Char.isDigit
        Octets.ofNat (Octets.decimal digits + 1) ++
          match text.drop digits.length with
          | '.' :: behind =>
            let characters := behind.takeWhile Char.isDigit
            '.' :: Octets.ofNat (Octets.decimal characters + 1) ++ behind.drop characters.length
          | behind => behind
      match others with
      | ('-' :: d :: last) :: others =>
        if d.isDigit then
          "-k".toList :: (next (c :: rest) ++ ',' :: d :: last) :: withOldKeys others
        else "-k".toList :: next (c :: rest) :: ('-' :: d :: last) :: withOldKeys others
      | others => "-k".toList :: next (c :: rest) :: withOldKeys others
  | argument :: others => argument :: withOldKeys others
  | [] => []

/-- Lines without those that are the same as the one before. -/
def once (order : Octets → Octets → Ordering) (lines : List Octets) : List Octets :=
  (lines.foldl (fun kept line =>
    if kept.head?.any fun last => order last line = Ordering.eq then kept else line :: kept) []).reverse

def sort : Tool := fun t =>
  let t : Task := { t with arguments := withOldKeys t.arguments }
  t.withArguments
      { plain := "bcCdfghimMnrRsuVz", valued := "ktoSTWPB", optional := "X", hidden := "WPBX"
        words := [("ignore-leading-blanks", 'b'), ("dictionary-order", 'd'), ("ignore-case", 'f'),
          ("general-numeric-sort", 'g'), ("human-numeric-sort", 'h'), ("ignore-nonprinting", 'i'),
          ("month-sort", 'M'), ("numeric-sort", 'n'), ("random-sort", 'R'), ("reverse", 'r'),
          ("sort", 'W'), ("version-sort", 'V'), ("batch-size", 'B'), ("check", 'X'),
          ("key", 'k'), ("merge", 'm'), ("output", 'o'), ("stable", 's'), ("buffer-size", 'S'),
          ("field-separator", 't'), ("temporary-directory", 'T'), ("parallel", 'P'),
          ("unique", 'u'), ("zero-terminated", 'z')] } 2 fun a =>
    let checks := a.has 'c' || a.has 'C' || a.has 'X'
    let quietly := a.has 'C' || (a.value? 'X').any fun how => ["quiet", "silent"].contains
      (String.ofList how)
    match separatorOf a, keysOf a with
    | .error message, _ | .ok _, .error message => t.fails message 2
    | .ok separator, .ok keys =>
      if checks && decide (1 < a.operands.length) then
        t.fails ("extra operand ".toList ++ Octets.quoted (a.operands.getD 1 []) ++
          " not allowed with -".toList ++ (if a.has 'C' then ['C'] else ['c'])) 2
      else
        let byKeys (x y : Octets) : Ordering :=
          keys.foldl (fun (result : Ordering) (key : Key) => result.then (key.order separator x y)) .eq
        let bytes (x y : Octets) : Ordering :=
          let result := orderOfBytes x y
          if a.has 'r' then result.swap else result
        let order (x y : Octets) : Ordering :=
          if !keys.isEmpty && (a.has 'u' || a.has 's') then byKeys x y
          else (byKeys x y).then (bytes x y)
        let inOrder (x y : Octets) : Bool := order x y != Ordering.gt
        let message (s : Source) (reason : Octets) : Octets :=
          if s.isDirectory then "read failed: ".toList ++ Octets.asName s.name ++ ": ".toList ++ reason
          else "cannot read: ".toList ++ Octets.asName s.name ++ ": ".toList ++ reason
        let linesOf (s : Source) : List Octets := Octets.records a.lineEnd s.text
        let report := t.overSources a.operands message 2 fun sources =>
          let sorted :=
            if a.has 'm' then
              sources.foldl (fun lines s => List.merge lines (linesOf s) inOrder) []
            else (sources.flatMap linesOf).mergeSort inOrder
          Octets.ofRecords a.lineEnd (if a.has 'u' then once order sorted else sorted)
        if !report.errors.isEmpty then { report with output := [] }
        else if checks then
          let source := (t.sources a.operands).1.headD ⟨['-'], .ok []⟩
          let lines := linesOf source
          let pairs := (lines.zip (lines.drop 1)).zipIdx 2
          let broken := pairs.find? fun ((x, y), _) =>
            order x y == Ordering.gt || (a.has 'u' && order x y == Ordering.eq)
          match broken with
          | none => { left := report.left }
          | some ((_, line), place) =>
            { errors := if quietly then [] else
                t.complaint (source.name ++ ':' :: Octets.ofNat place ++ ": disorder: ".toList ++ line)
              left := report.left, status := 1 }
        else report.writtenTo t 2 (a.value? 'o') fun s reason =>
          "open failed: ".toList ++ Octets.asName s.name ++ ": ".toList ++ reason

/-!
## Repeated lines

A tool that looks at lines that follow one another and are the same: it prints them
once, or only those that are or are not repeated, or all of them in groups.
-/

/-- Lines in groups of those that follow one another and are the same by some key. -/
def groups (key : Octets → Octets) : List Octets → List (List Octets)
  | [] => []
  | line :: rest =>
    match groups key rest with
    | [] => [[line]]
    | group :: others =>
      if group.head?.any fun next => key next == key line then (line :: group) :: others
      else [line] :: group :: others

structure Spacing where
  before : Bool := false
  between : Bool := false
  behind : Bool := false

namespace Spacing

def apart (s : Spacing) (groups : List (List Octets)) : List Octets :=
  if groups.isEmpty then []
  else
    (if s.before then [[]] else []) ++
      List.intercalate (if s.between then [[]] else []) groups ++
      (if s.behind then [[]] else [])

/-- The ways to set groups of repeated lines apart. -/
def ofRepeated : Choices Spacing :=
  [(["none"], {}), (["prepend"], { before := true, between := true }),
    (["separate"], { between := true })]

def ofAll : Choices Spacing :=
  [(["prepend"], { before := true, between := true }),
    (["append"], { between := true, behind := true }), (["separate"], { between := true }),
    (["both"], { before := true, between := true, behind := true })]

end Spacing

/-- A number behind a sign says how much to skip: fields behind a dash, or characters
behind a plus sign. -/
def withSkips (arguments : List Octets) : List Octets :=
  arguments.flatMap fun argument =>
    match argument with
    | '-' :: c :: rest => if c.isDigit then ["-f".toList, c :: rest] else [argument]
    | '+' :: c :: rest => if c.isDigit then ["-s".toList, c :: rest] else [argument]
    | _ => [argument]

/-- Prints lines that follow one another and are the same only once. -/
def distinct : Tool := fun t =>
  let t : Task := { t with arguments := withSkips t.arguments }
  t.withArguments
      { plain := "cdDiuz", valued := "fsw", optional := "AG", hidden := "AG"
        words := [("count", 'c'), ("repeated", 'd'), ("all-repeated", 'A'), ("group", 'G'),
          ("ignore-case", 'i'), ("unique", 'u'), ("skip-fields", 'f'), ("skip-chars", 's'),
          ("check-chars", 'w'), ("zero-terminated", 'z')] } 1 fun a =>
    let bad := [('f', "fields to skip"), ('s', "bytes to skip"), ('w', "bytes to compare")].findSome?
      fun (letter, what) =>
        ((a.values letter).find? fun value => (Octets.decimal? value).isNone).map fun value =>
          value ++ (": invalid number of " ++ what).toList
    let spacing (choices : Choices Spacing) (usual : Spacing) (letter : Char) (option : String) :
        Except Octets Spacing :=
      match (a.value? letter).getD [] with
      | [] => .ok usual
      | name => choices.chosen option name
    match bad, spacing Spacing.ofRepeated {} 'A' "--all-repeated",
        spacing Spacing.ofAll { between := true } 'G' "--group" with
    | some message, _, _ => t.fails message 1
    | none, .error message, _ | none, _, .error message => t.refuses message 1
    | none, .ok amongRepeated, .ok amongAll =>
      let all := a.has 'D' || a.has 'A'
      let extra := a.operands.drop 2
      if !extra.isEmpty then t.refuses ("extra operand ".toList ++ Octets.quoted (extra.headD [])) 1
      else if a.has 'G' && (a.has 'c' || a.has 'd' || a.has 'u' || all) then
        t.refuses "--group is mutually exclusive with -c/-d/-D/-u".toList 1
      else if all && a.has 'c' then
        t.refuses "printing all duplicated lines and repeat counts is meaningless".toList 1
      else
        let number (letter : Char) : Option Nat := (a.value? letter).bind Octets.decimal?
        let key (line : Octets) : Octets :=
          let line := (skipFields ((number 'f').getD 0) line).drop ((number 's').getD 0)
          let line := match number 'w' with
            | some n => line.take n
            | none => line
          if a.has 'i' then Octets.lower line else line
        let report := t.overSources (a.operands.take 1) Task.plainly 1 fun sources =>
          let found := groups key (Octets.records a.lineEnd (Task.textOf sources))
          let shown := found.filter fun group =>
            (!(a.has 'd' || all) || decide (1 < group.length)) &&
              (!a.has 'u' || decide (group.length = 1))
          let lines :=
            if a.has 'G' then amongAll.apart found
            else if all then amongRepeated.apart shown
            else shown.map fun group =>
              (if a.has 'c' then Octets.padded 7 (Octets.ofNat group.length) ++ [' '] else []) ++
                group.headD []
          Octets.ofRecords a.lineEnd lines
        report.writtenTo t 1 ((a.operands[1]?).filter (· != ['-'])) Task.plainly

end Tool

/-!
## Orders from pairs

A tool that reads pairs of names, the first of which comes before the second, and prints all
names in an order that fits. Where names come before one another in a circle, it tells about
the circle and forgets one of the pairs.
-/

namespace Precedence

/-- A name, how many pairs in which it comes second are left, and the names that come behind
it, the one read last first. -/
structure Item where
  name : Octets
  count : Nat := 0
  behind : List Octets := []
  done : Bool := false
  /-- The name it is linked to in the search for a circle. -/
  link : Option Octets := none

abbrev Items := List Item

namespace Items

def find (items : Items) (name : Octets) : Item :=
  (items.find? fun item => item.name == name).getD { name }

/-- Items where that of a name has become another one. -/
def alter (items : Items) (name : Octets) (change : Item → Item) : Items :=
  items.map fun item => if item.name = name then change item else item

def ofNames (names : List Octets) : Items :=
  (names.mergeSort Octets.atMost).foldr (fun name items =>
    if items.head?.any fun item => item.name == name then items else { name } :: items) []

def relate (items : Items) (before behind : Octets) : Items :=
  if before = behind then items
  else
    (items.alter behind fun item => { item with count := item.count + 1 }).alter before
      fun item => { item with behind := behind :: item.behind }

def ofPairs : List Octets → Items → Items
  | before :: behind :: rest, items => ofPairs rest (items.relate before behind)
  | _, items => items

/-! ## Names that nothing comes before -/

/-- Prints the names of a queue, and those that nothing is left to come before, at most so
many. -/
def drain : Nat → List Octets → Items → List Octets × Items
  | 0, _, items => ([], items)
  | _, [], items => ([], items)
  | most + 1, name :: queue, items =>
    let behind := (items.find name).behind
    let items := items.alter name fun item => { item with done := true }
    let (freed, items) := behind.foldl (fun (freed, items) other =>
      let items := items.alter other fun item => { item with count := item.count - 1 }
      if (items.find other).count = 0 then (freed ++ [other], items) else (freed, items))
      (([] : List Octets), items)
    let (others, items) := drain most (queue ++ freed) items
    (name :: others, items)

def free (items : Items) : List Octets :=
  (items.filter fun item => item.count == 0 && !item.done).map Item.name

/-! ## Circles -/

/-- The search for a circle: where it is, or the circle that was found. -/
structure Hunt where
  items : Items
  at_ : Option Octets := none
  circle : List Octets := []

/-- The names from one to another one along the links, at most so many. -/
def chain (items : Items) (last : Octets) : Nat → Octets → List Octets
  | 0, _ => []
  | most + 1, name =>
    if name = last then [name]
    else
      match (items.find name).link with
      | some next => name :: chain items last most next
      | none => [name]

/-- Looks at a name in the search for a circle. -/
def Hunt.look (h : Hunt) (name : Octets) : Hunt :=
  let item := h.items.find name
  if !h.circle.isEmpty || item.count = 0 then h
  else
    match h.at_ with
    | none => { h with at_ := some name }
    | some here =>
      if !item.behind.contains here then h
      else if item.link.isSome then
        let items := h.items.alter here fun item => { item with count := item.count - 1 }
        let items := items.alter name fun item => { item with behind := item.behind.erase here }
        { items := items.map fun item => { item with link := none }
          circle := chain h.items name h.items.length here }
      else
        { h with
          at_ := some name, items := h.items.alter name fun item => { item with link := some here } }

/-- Searches for a circle in at most so many rounds. -/
def hunt : Nat → Hunt → Hunt
  | 0, h => h
  | rounds + 1, h =>
    let h := (h.items.map Item.name).foldl Hunt.look h
    if h.circle.isEmpty && h.at_.isSome then hunt rounds h else h

/-- The order of the names and the circles that were found, in at most so many rounds. -/
def order : Nat → Items → List Octets × List (List Octets)
  | 0, _ => ([], [])
  | rounds + 1, items =>
    let (names, items) := drain items.length items.free items
    if items.all Item.done then (names, [])
    else
      let h := hunt (items.length + 1) { items }
      let (others, circles) := order rounds h.items
      (names ++ others, h.circle :: circles)

end Items

/-- Prints names in an order that pairs of them ask for. -/
def sorted : Tool := fun t =>
  t.withArguments {} 1 fun a =>
    match a.operands with
    | _ :: extra :: _ => t.refuses ("extra operand ".toList ++ Octets.quoted extra) 1
    | operands =>
      let name := Octets.asName (operands.headD ['-'])
      let (sources, left) := t.sources operands
      let errors := t.complaints sources fun s reason =>
        if s.isDirectory then Octets.asName s.name ++ ": read error: ".toList ++ reason
        else Task.plainly s reason
      if !errors.isEmpty then { errors, left, status := 1 }
      else
        let space (c : Char) : Char := if c = '\n' || c = '\t' then ' ' else c
        let words := (Octets.splitAt ' ' ((Task.textOf sources).map space)).filter (!·.isEmpty)
        if words.length % 2 = 1 then
          { errors := t.complaint (name ++ ": input contains an odd number of tokens".toList)
            left, status := 1 }
        else
          let items := Items.ofPairs words (Items.ofNames words)
          let (names, circles) := items.order (words.length + 1)
          let told := circles.flatMap fun circle =>
            t.complaint (name ++ ": input contains a loop:".toList) ++ circle.flatMap t.complaint
          { output := Octets.unlines names, errors := told, left
            status := if circles.isEmpty then 0 else 1 }

end Precedence

/-!
## Lines by chance

A tool that prints lines in an order that chance makes. Chance is a row of bytes; from them
numbers below a bound are drawn, and what one draw leaves goes into the next one.
-/

namespace Shuffle

/-- Where numbers come from: bytes that have not been used, and a number that is left over,
which is anything up to a greatest one. -/
structure Chance where
  bytes : Octets
  number : Nat := 0
  greatest : Nat := 0

/-- Draws bytes until the greatest number is large enough, at most so many. -/
def Chance.fill (most : Nat) : Nat → Chance → Option Chance
  | 0, c => some c
  | steps + 1, c =>
    if most ≤ c.greatest then some c
    else
      match c.bytes with
      | [] => none
      | byte :: bytes =>
        Chance.fill most steps
          { bytes, number := c.number * 256 + byte.toNat, greatest := c.greatest * 256 + 255 }

def Chance.draw (most : Nat) : Nat → Chance → Option (Nat × Chance)
  | 0, _ => none
  | rounds + 1, c =>
    match c.fill most (most.log2 + 2) with
    | none => none
    | some c =>
      if c.greatest = most then some (c.number, { c with number := 0, greatest := 0 })
      else
        let choices := most + 1
        let excess := c.greatest - most
        let unusable := excess % choices
        let reduced := c.number % choices
        if c.number ≤ c.greatest - unusable then
          some (reduced, { c with number := c.number / choices, greatest := excess / choices })
        else Chance.draw most rounds { c with number := reduced, greatest := unusable - 1 }

def Chance.below (bound : Nat) (c : Chance) : Option (Nat × Chance) :=
  if bound ≤ 1 then some (0, c) else c.draw (bound - 1) (c.bytes.length + 2)

def swapped {α : Type} (items : List α) (i j : Nat) : List α :=
  match items[i]?, items[j]? with
  | some a, some b => (items.set i b).set j a
  | _, _ => items

/-- The first things of a list after chance has chosen them one after the other. -/
def shuffle {α : Type} (count : Nat) (c : Chance) (items : List α) : Option (List α × Chance) :=
  (List.range count).foldlM (fun (items, c) i =>
    (c.below (items.length - i)).map fun (k, c) => (swapped items i (i + k), c)) (items, c)

/-- Chooses so many things of a list while walking through it once. -/
def sample {α : Type} (count : Nat) (c : Chance) (items : List α) : Option (List α × Chance) :=
  let start := items.take count
  if start.length < count then some (start, c)
  else
    let rest := (items.drop count).map some ++ [none]
    rest.zipIdx.foldlM (fun (kept, c) (item, n) =>
      (c.below (count + n + 1)).map fun (j, c) =>
        match item with
        | some item => (if j < count then kept.set j item else kept, c)
        | none => (kept, c)) (start, c)

/-- Draws so many things of a list, where a thing can be drawn again. -/
def drawn {α : Type} (items : List α) : Nat → Chance → Option (List α)
  | 0, _ => some []
  | count + 1, c =>
    match c.below items.length with
    | none => none
    | some (k, c) => (drawn items count c).map ((items[k]?).toList ++ ·)

/-! ## The shuffling tool -/

/-- The first and the last number of a range that an option says. -/
def range? (text : Octets) : Option (Nat × Nat) :=
  let low := text.takeWhile Char.isDigit
  match Octets.decimal? low, text.drop low.length with
  | some a, '-' :: high =>
    (Octets.decimal? high).bind fun b => if a ≤ b + 1 then some (a, b) else none
  | _, _ => none

/-- The most lines that are drawn if there is no limit. -/
def drawLimit : Nat := 4096

inductive Refusal where
  | plain (message : Octets)
  | hinted (message : Octets)

def refusal? (a : Arguments) : Option Refusal :=
  let badRange := (a.values 'i').find? fun text => (range? text).isNone
  let badCount := (a.values 'n').find? fun text => (Octets.decimal? text).isNone
  match badRange, badCount with
  | some text, _ => some (.plain ("invalid input range: ".toList ++ Octets.quoted text))
  | none, some text => some (.plain ("invalid line count: ".toList ++ Octets.quoted text))
  | none, none =>
    if 1 < (a.values 'i').length then some (.plain "multiple -i options specified".toList)
    else if 1 < (a.values 'o').length then some (.plain "multiple output files specified".toList)
    else if 1 < (a.values 'S').length then some (.plain "multiple random sources specified".toList)
    else if a.has 'e' && a.has 'i' then
      some (.hinted "cannot combine -e and -i options".toList)
    else
      let extra := if a.has 'e' then [] else a.operands.drop (if a.has 'i' then 0 else 1)
      extra.head?.map fun operand => .hinted ("extra operand ".toList ++ Octets.quoted operand)

def shuffled : Tool := fun t =>
  t.withArguments
      { plain := "erz", valued := "inoS", hidden := "S"
        words := [("echo", 'e'), ("input-range", 'i'), ("head-count", 'n'), ("output", 'o'),
          ("random-source", 'S'), ("repeat", 'r'), ("zero-terminated", 'z')] } 1 fun a =>
    match refusal? a with
    | some (.plain message) => t.fails message 1
    | some (.hinted message) => t.refuses message 1
    | none =>
      let limit := ((a.values 'n').filterMap Octets.decimal?).min?
      let (sources, left) : List Source × Option Octets :=
        if a.has 'e' || a.has 'i' then ([], some t.input) else t.sources a.operands
      let random := (a.value? 'S').map fun path => (path, t.contents path)
      match sources.find? fun s => s.contents.toOption.isNone, random with
      | some s, _ => { errors := t.complaints [s] Task.plainly, left, status := 1 }
      | none, some (path, .error e) =>
        { errors := t.complaint (Octets.asName path ++ ": ".toList ++ reasonOf e), left, status := 1 }
      | none, random =>
        let bytes : Octets := match random with
          | some (_, .ok text) => text
          | _ => Files.noise 65536 7
        let lines : List Octets := match (a.value? 'i').bind range? with
          | some (low, high) => (List.range (high + 1 - low)).map fun k => Octets.ofNat (low + k)
          | none =>
            if a.has 'e' then a.operands else Octets.records a.lineEnd (Task.textOf sources)
        let c : Chance := { bytes }
        let chosen : Option (List Octets) :=
          if limit = some 0 then some []
          else if a.has 'r' then
            if lines.isEmpty then some [] else drawn lines (limit.getD drawLimit) c
          else
            match limit, sources.any Source.isInput with
            | some n, true =>
              (sample n c lines).bind fun (kept, c) => (shuffle kept.length c kept).map (·.1)
            | _, _ =>
              let count := min (limit.getD lines.length) lines.length
              (shuffle count c lines).map fun found => found.1.take count
        match chosen with
        | none =>
          let path := (a.value? 'S').getD []
          { errors := t.complaint (Octets.quoted path ++ ": end of file".toList), left, status := 1 }
        | some chosen =>
          if a.has 'r' && lines.isEmpty && limit != some 0 then
            { errors := t.complaint "no lines to repeat".toList, left, status := 1 }
          else
            let r : Report := { output := Octets.ofRecords a.lineEnd chosen, left }
            r.writtenTo t 1 (a.value? 'o') Task.plainly

end Shuffle

end CommandChains.Machine
