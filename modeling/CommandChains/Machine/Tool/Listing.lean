import CommandChains.Machine.Account
import CommandChains.Machine.Arguments
import CommandChains.Machine.Permission
import CommandChains.Machine.Shell.Pattern
import CommandChains.Machine.Tool.Clock
import CommandChains.Machine.Tool.Comparison

/-!
# Lists of files

A tool that lists what is in directories: names alone, in lines, columns or rows, or with
all that is known about the files.
-/

namespace CommandChains.Machine.Listing

open FileTree

/-! ## What is asked for -/

inductive Form where
  | lines
  | columns
  | rows
  | commas
  | long
  deriving DecidableEq, Repr

inductive Style where
  | plain
  | quoted
  | escaped
  | masked
  | word (always : Bool)
  deriving DecidableEq, Repr

inductive Criterion where
  | name
  | none
  | size
  | time
  | ending
  | version
  | width
  deriving DecidableEq, Repr

inductive Marks where
  | none
  | slash
  | kind
  | all
  deriving DecidableEq, Repr

structure View where
  form : Form := .lines
  style : Style := .plain
  criterion : Criterion := .name
  backwards : Bool := false
  marks : Marks := .none
  /-- Whether hidden files are listed, and whether a directory and the one above are. -/
  hidden : Bool := false
  dots : Bool := false
  asFiles : Bool := false
  deep : Bool := false
  blocks : Bool := false
  directoriesFirst : Bool := false
  follows : Bool := false
  colored : Bool := false
  ignored : List Octets := []
  /-- Names that are not listed unless all are asked for. -/
  skipped : List Octets := []
  width : Nat := 80
  tab : Nat := 8
  end_ : Char := '\n'
  owner : Bool := true
  group : Bool := true
  numbers : Bool := false
  human : Bool := false
  /-- How times are shown, if not in the usual way. -/
  timeStyle : Option Octets := none
  clock : Calendar.Clock := {}

structure Entry where
  name : Octets
  node : Node
  behind : Option Node := none

namespace Entry

def letter (node : Node) : Char :=
  match node with
  | .directory _ _ => 'd'
  | .link _ => 'l'
  | .device _ => if node.isPipe then 'p' else 'c'
  | _ => '-'

def mark (f : Files) (m : Marks) (node : Node) : Octets :=
  match m, letter node with
  | .none, _ => []
  | _, 'd' => ['/']
  | .slash, _ => []
  | _, 'l' => ['@']
  | _, 'p' => ['|']
  | .all, '-' => if f.isRunnable node then ['*'] else []
  | _, _ => []

def color (f : Files) (node : Node) : Option String :=
  match letter node with
  | 'd' =>
    let mode := f.modeOf node
    if Nat.land mode 514 = 514 then some "30;42"
    else if Nat.land mode 2 != 0 then some "34;42"
    else if Nat.land mode 512 != 0 then some "37;44" else some "01;34"
  | 'l' => some "01;36"
  | 'p' => some "33"
  | 'c' => some "01;33"
  | _ =>
    let mode := f.modeOf node
    if Nat.land mode 2048 != 0 then some "37;41"
    else if Nat.land mode 1024 != 0 then some "30;43"
    else if f.isRunnable node then some "01;32" else none

end Entry

/-! ## Names -/

def inQuotes (c : Char) : Octets :=
  if c = '"' ∨ c = '\\' then ['\\', c]
  else if Octets.isSeen c then [c] else '\\' :: Octets.escaped c

def Style.write (s : Style) (name : Octets) : Octets :=
  match s with
  | .plain => name
  | .quoted => '"' :: name.flatMap inQuotes ++ ['"']
  | .escaped =>
    name.flatMap fun c =>
      if c = ' ' ∨ c = '\\' then ['\\', c]
      else if Octets.isSeen c then [c] else '\\' :: Octets.escaped c
  | .masked => name.map fun c => if Octets.isSeen c then c else '?'
  | .word always => if always then Octets.shellQuoted name else Octets.asWord false name

def widthOf (text : Octets) : Nat := (text.filter Octets.isSeen).length

/-! ## The order of files -/

def endingOf (name : Octets) : Octets :=
  if name.contains '.' then '.' :: (name.reverse.takeWhile (· != '.')).reverse else []

/-- Whether a file may stand in front of another one. -/
def View.ordered (v : View) (f : Files) (a b : Entry) : Bool :=
  let byName := Octets.atMost a.name b.name
  let number (x y : Int) : Bool :=
    if y < x then true else if x < y then false else byName
  let first := match v.criterion with
    | .name => byName
    | .none => true
    | .size => number (f.sizeOf a.node) (f.sizeOf b.node)
    | .time => number (f.stampOf a.node) (f.stampOf b.node)
    | .ending =>
      let x := endingOf a.name
      let y := endingOf b.name
      if x = y then byName else Octets.atMost x y
    | .version => Tool.orderOfNames a.name b.name != .gt
    | .width =>
      let x := widthOf (v.style.write a.name)
      let y := widthOf (v.style.write b.name)
      if x = y then byName else decide (x < y)
  first

/-- Whether a file is a directory, or a link to one. -/
def Entry.leadsToDirectory (e : Entry) : Bool :=
  e.node.isDirectory || e.behind.any Node.isDirectory

def View.sorted (v : View) (f : Files) (entries : List Entry) : List Entry :=
  let ordered := if v.criterion = .none then entries else entries.mergeSort (v.ordered f)
  let ordered := if v.backwards && v.criterion != .none then ordered.reverse else ordered
  if v.directoriesFirst then
    ordered.filter Entry.leadsToDirectory ++ ordered.filter fun e => !e.leadsToDirectory
  else ordered

/-! ## Sizes and times -/

def blocksOf (f : Files) (node : Node) : Nat :=
  match node with
  | .directory _ _ => 4
  | .link _ | .device _ => 0
  | node => (f.sizeOf node + 4095) / 4096 * 4

def humanSize (n : Nat) : Octets :=
  let rec go : Nat → Nat → List Char → Octets
    | 0, _, _ => []
    | _, _, [] => []
    | rounds + 1, unit, c :: units =>
      if n < unit * 1024 then
        let tenths := (n * 10 + unit - 1) / unit
        if tenths < 100 then
          Octets.ofNat (tenths / 10) ++ '.' :: Octets.ofNat (tenths % 10) ++ [c]
        else
          let whole := (n + unit - 1) / unit
          if whole < 1024 then Octets.ofNat whole ++ [c] else go rounds (unit * 1024) units
      else go rounds (unit * 1024) units
  if n < 1024 then Octets.ofNat n else go 8 1024 "KMGTPEZY".toList

def View.time (v : View) (f : Files) (node : Node) : Octets :=
  let m := Calendar.momentOfStamp (f.stampOf node)
  let recent := decide (Calendar.present.seconds - 15778476 < m.seconds) &&
    decide (m.seconds ≤ Calendar.present.seconds)
  let template := match v.timeStyle with
    | some template =>
      let kept := template.takeWhile (· != '\n')
      if kept.length < template.length && recent then template.drop (kept.length + 1) else kept
    | none => (if recent then "%b %e %H:%M" else "%b %e  %Y").toList
  Calendar.shown template m (v.clock.zoneAt m.seconds)

/-! ## Long lines -/

def timesNamed (number : Nat) : Nat → Node → Nat
  | depth + 1, .directory _ entries =>
    entries.foldl (fun n entry => n + timesNamed number depth entry.2) 0
  | _, .file n => if n = number then 1 else 0
  | _, _ => 0

def namesOf (f : Files) (node : Node) : Nat :=
  match node with
  | .file number => timesNamed number 100 f.root
  | .directory _ entries => 2 + (entries.filter fun entry => entry.2.isDirectory).length
  | _ => 1

def deviceNumbers : String → Nat × Nat
  | "null" => (1, 3)
  | "zero" => (1, 5)
  | "full" => (1, 7)
  | "random" => (1, 8)
  | "urandom" => (1, 9)
  | "tty" => (5, 0)
  | "console" => (5, 1)
  | name =>
    let major := name.toList.takeWhile Char.isDigit
    (Octets.decimal major, Octets.decimal (name.toList.drop (major.length + 1)))

/-- The size of a file as a long line shows it. -/
def View.size (v : View) (f : Files) (node : Node) : Octets :=
  match node with
  | .device name =>
    if node.isPipe then ['0']
    else
      let (major, minor) := deviceNumbers name
      Octets.ofNat major ++ ", ".toList ++ Octets.ofNat minor
  | node => if v.human then humanSize (f.sizeOf node) else Octets.ofNat (f.sizeOf node)

/-- A name with its color and its mark. The first color is announced. -/
def View.named (v : View) (f : Files) (e : Entry) (announced : Bool) : Octets × Bool :=
  let name := v.style.write e.name
  let node := e.node
  let mark := Entry.mark f v.marks node
  if v.colored then
    match Entry.color f node with
    | some color =>
      ((if announced then [] else "\x1b[0m".toList) ++ "\x1b[".toList ++ color.toList ++ 'm' :: name ++
        "\x1b[0m".toList ++ mark, true)
    | none => (name ++ mark, announced)
  else (name ++ mark, announced)

/-- The parts in front of the name of a long line. -/
def View.details (v : View) (f : Files) (e : Entry) : List (Octets × Bool) :=
  let user := if v.numbers then ['0'] else "root".toList
  [(Entry.letter e.node :: Permission.letters (f.modeOf e.node), false),
    (Octets.ofNat (namesOf f e.node), true)] ++
  (if v.owner then [(user, false)] else []) ++ (if v.group then [(user, false)] else []) ++
  [(v.size f e.node, true)]

def View.long (v : View) (f : Files) (entries : List Entry) (announced : Bool) :
    Octets × Bool :=
  let rows := entries.map fun e => (v.details f e).map (·.1)
  let widths := (List.range 5).map fun n =>
    rows.foldl (fun w row => max w ((row[n]?).getD []).length) 0
  let blockWidth := entries.foldl
    (fun w e => max w (Octets.ofNat (blocksOf f e.node)).length) 0
  entries.foldl
    (fun (done : Octets × Bool) e =>
      let parts := ((v.details f e).zip widths).map fun ((text, right), width) =>
        if right || v.numbers then Octets.padded width text else Octets.filled width text
      let (name, announced) := v.named f { e with node := e.node } done.2
      let target : Octets := match e.node with
        | .link path =>
          " -> ".toList ++ v.style.write path.toList ++
            (match e.behind with
            | some node => Entry.mark f v.marks node
            | none => [])
        | _ => []
      let name := match e.node, v.marks with
        | .link _, .none => name
        | .link _, _ => if name.getLast? = some '@' then name.dropLast else name
        | _, _ => name
      let front := if v.blocks then
        Octets.padded blockWidth (Octets.ofNat (blocksOf f e.node)) ++ [' '] else []
      (done.1 ++ front ++ Octets.joined [' '] parts ++ ' ' :: v.time f e.node ++ ' ' :: name ++
        target ++ [v.end_], announced)) ([], announced)

/-! ## Columns and rows -/

/-- Blanks and tabs from one place of a line to another. -/
def indent (tab : Nat) : Nat → Nat → Nat → Octets
  | 0, _, _ => []
  | rounds + 1, at_, goal =>
    if goal ≤ at_ then []
    else if tab != 0 && (at_ + 1) / tab < goal / tab then
      '\t' :: indent tab rounds (at_ + tab - at_ % tab) goal
    else ' ' :: indent tab rounds (at_ + 1) goal

/-- The widths of so many columns, where `place` says in which column each text stands. -/
def columnWidths (count : Nat) (place : Nat → Nat) (widths : List Nat) : List Nat :=
  (widths.zipIdx).foldl
    (fun columns (width, n) =>
      let column := place n
      let full := width + (if column + 1 = count then 0 else 2)
      columns.set column (max full ((columns[column]?).getD 3))) (List.replicate count 3)

/-- The widths of the columns when as many as possible stand in a line. -/
def bestColumns (byColumns : Bool) (line : Nat) (widths : List Nat) : List Nat :=
  let count := widths.length
  let most := max 1 (min count (if line = 0 then count else (line + 2) / 3))
  let trial (n : Nat) : List Nat :=
    let rows := (count + n - 1) / n
    columnWidths n (fun i => if byColumns then i / rows else i % n) widths
  let fits (n : Nat) : Bool :=
    line = 0 || decide ((trial n).foldl (· + ·) 0 < line)
  let best := ((List.range most).reverse.map (· + 1)).find? fun n => n = 1 || fits n
  trial (best.getD 1)

def inColumns (tab : Nat) (columns : List Nat) (texts : List (Octets × Nat)) : Octets :=
  let rows := (texts.length + columns.length - 1) / columns.length
  (List.range rows).flatMap fun row =>
    let cells := (List.range columns.length).filterMap fun column => texts[column * rows + row]?
    let (line, _) := (cells.zipIdx).foldl
      (fun (done : Octets × Nat) (cell, column) =>
        let (text, width) := cell
        let next := done.2 + (columns[column]?).getD 0
        if column + 1 = cells.length then (done.1 ++ text, done.2)
        else (done.1 ++ text ++ indent tab 1000 (done.2 + width) next, next)) ([], 0)
    line ++ ['\n']

def inRows (tab : Nat) (columns : List Nat) (texts : List (Octets × Nat)) : Octets :=
  let count := columns.length
  let (text, _, _) := (texts.zipIdx).foldl
    (fun (done : Octets × Nat × Nat) ((text, width), n) =>
      let (before, place, last) := done
      let column := n % count
      if n = 0 then (text, 0, width)
      else if column = 0 then (before ++ '\n' :: text, 0, width)
      else
        let next := place + (columns[column - 1]?).getD 0
        (before ++ indent tab 1000 (place + last) next ++ text, next, width)) ([], 0, 0)
  text ++ ['\n']

def withCommas (line : Nat) (texts : List (Octets × Nat)) : Octets :=
  let (text, _) := (texts.zipIdx).foldl
    (fun (done : Octets × Nat) ((text, width), n) =>
      if n = 0 then (text, width)
      else if line = 0 || done.2 + width + 2 < line then
        (done.1 ++ ", ".toList ++ text, done.2 + 2 + width)
      else (done.1 ++ ",\n".toList ++ text, width)) ([], 0)
  text ++ ['\n']

def View.list (v : View) (f : Files) (entries : List Entry) (announced : Bool) :
    Octets × Bool :=
  if entries.isEmpty then ([], announced)
  else if v.form = .long then v.long f entries announced
  else
    let blockWidth := entries.foldl
      (fun w e => max w (Octets.ofNat (blocksOf f e.node)).length) 0
    let (texts, announced) := entries.foldl
      (fun (done : List (Octets × Nat) × Bool) e =>
        let (name, announced) := v.named f e done.2
        let front := if v.blocks then
          Octets.padded blockWidth (Octets.ofNat (blocksOf f e.node)) ++ [' '] else []
        let width := widthOf (v.style.write e.name) + (Entry.mark f v.marks e.node).length +
          front.length
        (done.1 ++ [(front ++ name, width)], announced)) ([], announced)
    let text := match v.form with
      | .columns => inColumns v.tab (bestColumns true v.width (texts.map (·.2))) texts
      | .rows => inRows v.tab (bestColumns false v.width (texts.map (·.2))) texts
      | .commas => withCommas v.width texts
      | _ => texts.flatMap fun (text, _) => text ++ [v.end_]
    (text, announced)

/-! ## Directories -/

def below (directory : Octets) (name : Octets) : Octets :=
  if directory.getLast? = some '/' then directory ++ name else directory ++ '/' :: name

def fitsName (name pattern : Octets) : Bool :=
  Shell.fits {} (Shell.Marked.active pattern) name &&
    !(name.head? = some '.' && pattern.head?.any fun c => c == '*' || c == '?' || c == '[')

def View.entriesOf (v : View) (f : Files) (path : Octets) (place : Place) : List Entry :=
  let behindOf (name : Octets) (node : Node) : Option Node :=
    if node.isLink then (f.node (below path name)).toOption else none
  let own : List Entry := if v.dots then
      [⟨['.'], place.node, none⟩,
        ⟨['.', '.'], (place.above.head?.map (·.2)).getD place.node, none⟩] else []
  let found := place.node.entries.filterMap fun (name, node) =>
    let name := name.toList
    let isHidden := name.head? = some '.' && !v.hidden
    if isHidden || v.ignored.any (fitsName name) || (!v.hidden && v.skipped.any (fitsName name)) then
      none
    else
      let behind := behindOf name node
      some ⟨name, if v.follows then behind.getD node else node, behind⟩
  v.sorted f (own ++ found)

/-- What is listed of a directory, with what it takes. -/
def View.inside (v : View) (f : Files) (path : Octets) (place : Place) (announced : Bool) :
    Octets × Bool :=
  let entries := v.entriesOf f path place
  let total := entries.foldl (fun n e => n + blocksOf f e.node) 0
  let front := if v.form = .long || v.blocks then
      "total ".toList ++ (if v.human then humanSize (total * 1024) else Octets.ofNat total) ++ ['\n']
    else []
  let (text, announced) := v.list f entries announced
  (front ++ text, announced)

/-- What has been listed so far: the text, whether a color has been announced, and whether
something stands in front. -/
abbrev Listed := Octets × Bool × Bool

/-- Lists a directory, and those below it if they are asked for. -/
def View.directory (v : View) (f : Files) (header : Bool) : Nat → Octets → Place → Listed → Listed
  | 0, _, _, done => done
  | depth + 1, path, place, (text, announced, begun) =>
    let (inner, announced) := v.inside f path place announced
    let front := (if begun then ['\n'] else []) ++
      (if header || v.deep then v.style.write path ++ ":\n".toList else [])
    let done : Listed := (text ++ front ++ inner, announced, true)
    if !v.deep then done
    else
      (v.entriesOf f path place).foldl
        (fun done e =>
          if e.node.isDirectory && e.name != ['.'] && e.name != ['.', '.'] then
            let path := below path e.name
            match f.place path with
            | .ok place => v.directory f header depth path place done
            | .error _ => done
          else done) done

/-! ## Options -/

def criteria : Choices Criterion :=
  [(["none"], .none), (["time"], .time), (["size"], .size), (["extension"], .ending),
    (["version"], .version), (["width"], .width)]

def forms : Choices Form :=
  [(["verbose", "long"], .long), (["commas"], .commas), (["horizontal", "across"], .rows),
    (["vertical"], .columns), (["single-column"], .lines)]

def markChoices : Choices Marks :=
  [(["none"], .none), (["slash"], .slash), (["file-type"], .kind), (["classify"], .all)]

def styles : Choices Style :=
  [(["literal"], .plain), (["shell"], .word false), (["shell-always"], .word true),
    (["shell-escape"], .word false), (["shell-escape-always"], .word true), (["c"], .quoted),
    (["c-maybe"], .quoted), (["escape"], .escaped), (["locale"], .quoted), (["clocale"], .quoted)]

def occasions : Choices Bool :=
  [(["always", "yes", "force"], true), (["never", "no", "none"], false),
    (["auto", "tty", "if-tty"], false)]

def View.withOption (v : View) (letter : Char) (value : Octets) : Except Octets View :=
  match letter with
  | '1' => .ok (if v.form = .long then v else { v with form := .lines })
  | 'a' => .ok { v with hidden := true, dots := true }
  | 'A' => .ok { v with hidden := true, dots := false }
  | 'b' => .ok { v with style := .escaped }
  | 'B' => .ok { v with ignored := v.ignored ++ ["*~".toList, ".*~".toList] }
  | 'c' | 'u' => .ok v
  | 'C' => .ok { v with form := .columns }
  | 'd' => .ok { v with asFiles := true }
  | 'f' => .ok { v with hidden := true, dots := true, criterion := .none }
  | 'F' =>
    if value.isEmpty then .ok { v with marks := .all }
    else
      (occasions.chosen "--classify" value).map fun yes =>
        if yes then { v with marks := .all } else v
  | 'g' => .ok { v with form := .long, owner := false }
  | 'G' => .ok { v with group := false }
  | 'h' => .ok { v with human := true }
  | 'H' => .ok v
  | 'I' => .ok { v with ignored := v.ignored ++ [value] }
  | 'l' => .ok { v with form := .long }
  | 'L' => .ok { v with follows := true }
  | 'm' => .ok { v with form := .commas }
  | 'n' => .ok { v with form := .long, numbers := true }
  | 'N' => .ok { v with style := .plain }
  | 'o' => .ok { v with form := .long, group := false }
  | 'p' => .ok { v with marks := .slash }
  | 'q' => .ok (if v.style = .plain then { v with style := .masked } else v)
  | 'Q' => .ok { v with style := .quoted }
  | 'r' => .ok { v with backwards := true }
  | 'R' => .ok { v with deep := true }
  | 's' => .ok { v with blocks := true }
  | 'S' => .ok { v with criterion := .size }
  | 't' => .ok { v with criterion := .time }
  | 'T' =>
    match Octets.decimal? value with
    | some tab => .ok { v with tab }
    | none => .error ("invalid tab size: ".toList ++ Octets.quoted value)
  | 'U' => .ok { v with criterion := .none }
  | 'v' => .ok { v with criterion := .version }
  | 'w' =>
    match Octets.decimal? value with
    | some width => .ok { v with width }
    | none => .error ("invalid line width: ".toList ++ Octets.quoted value)
  | 'x' => .ok { v with form := .rows }
  | 'X' => .ok { v with criterion := .ending }
  | '\x01' => .ok { v with marks := .kind }
  | '\x02' => .ok { v with directoriesFirst := true }
  | '\x03' => (criteria.chosen "--sort" value).map fun criterion => { v with criterion }
  | '\x04' => (forms.chosen "--format" value).map fun form => { v with form }
  | '\x05' => (markChoices.chosen "--indicator-style" value).map fun marks => { v with marks }
  | '\x06' => (styles.chosen "--quoting-style" value).map fun style => { v with style }
  | '\x07' =>
    if value.isEmpty then .ok { v with colored := true }
    else (occasions.chosen "--color" value).map fun colored => { v with colored }
  | '\x08' => .ok { v with skipped := v.skipped ++ [value] }
  | '\x0b' => .ok { v with end_ := '\x00', form := if v.form = .long then .long else .lines }
  | '\x0c' =>
    let template : Option Octets := match String.ofList value with
      | "full-iso" => some "%Y-%m-%d %H:%M:%S.%N %z".toList
      | "long-iso" => some "%Y-%m-%d %H:%M".toList
      | "iso" => some "%Y-%m-%d \n%m-%d %H:%M".toList
      | _ => if value.head? = some '+' then some (value.drop 1) else none
    .ok { v with timeStyle := template }
  | '\x0e' =>
    .ok { v with form := .long, timeStyle := some "%Y-%m-%d %H:%M:%S.%N %z".toList }
  | _ => .ok v

def words : List (String × Char) :=
  [("all", 'a'), ("escape", 'b'), ("directory", 'd'), ("dired", 'D'), ("full-time", '\x0e'),
    ("group-directories-first", '\x02'), ("human-readable", 'h'), ("inode", 'i'),
    ("kibibytes", 'k'), ("numeric-uid-gid", 'n'), ("no-group", 'G'), ("hide-control-chars", 'q'),
    ("reverse", 'r'), ("size", 's'), ("width", 'w'), ("almost-all", 'A'),
    ("ignore-backups", 'B'), ("classify", '\x0f'), ("file-type", '\x01'), ("si", 'h'),
    ("dereference-command-line", 'H'), ("hide", '\x08'), ("ignore", 'I'),
    ("indicator-style", '\x05'), ("dereference", 'L'), ("literal", 'N'), ("quote-name", 'Q'),
    ("quoting-style", '\x06'), ("recursive", 'R'), ("format", '\x04'), ("sort", '\x03'),
    ("tabsize", 'T'), ("time", '\x10'), ("time-style", '\x0c'), ("zero", '\x0b'),
    ("color", '\x07'), ("hyperlink", '\x11'), ("block-size", '\x12'), ("context", 'Z')]

/-- The terminals that can show colors, by how their names begin. -/
def colorTerminals : List String :=
  ["Eterm", "ansi", "alacritty", "color-xterm", "con", "cons25", "console", "cygwin", "dtterm",
    "eterm-color", "gnome", "hurd", "jfbterm", "konsole", "kterm", "linux", "mach", "mlterm",
    "putty", "rxvt", "screen", "st", "terminator", "tmux", "vt100", "xterm"]

def hasColors (e : Environment) : Bool :=
  let told (name : String) : Octets := (e.lookup name.toList).getD []
  !(told "LS_COLORS").isEmpty || !(told "COLORTERM").isEmpty ||
    colorTerminals.any fun name => !(told "TERM").isEmpty && name.toList.isPrefixOf (told "TERM")

def listAs (usual : View) : Tool := fun t =>
  t.withArguments
      { plain := "aAbBcCdfFgGhHiklLmnNopqQrRsStuUvxXZ1D\x01\x02\x0b\x0e"
        valued := "ITw\x08\x05\x06\x04\x03\x10\x0c\x12", optional := "\x07\x0f\x11"
        hidden := "\x01\x02\x03\x04\x05\x06\x07\x08\x0b\x0c\x0e\x0f\x10\x11\x12", words } 2 fun a =>
    let width := ((t.environment.lookup "COLUMNS".toList).bind Octets.decimal?).getD 80
    let usual := { usual with width, clock := Calendar.clockOf t.environment }
    let read := a.options.foldlM
      (fun (v : View) (letter, value) =>
        v.withOption (if letter = '\x0f' then 'F' else letter) value) usual
    match read with
    | .error message =>
      if "invalid argument".toList.isPrefixOf message || "ambiguous".toList.isPrefixOf message then
        t.refuses message 1
      else t.fails message 2
    | .ok v =>
      let v := { v with colored := v.colored && hasColors t.environment }
      let f := t.files
      let names := if a.operands.isEmpty then [['.']] else a.operands
      let found := names.map fun name =>
        let own := f.placeOfLink name
        let far := f.place name
        let isFar := v.follows || a.has 'H' || name.getLast? = some '/' ||
          (v.form != .long && v.marks != .all && !v.asFiles)
        let place := match own, far with
          | .ok p, .error _ => if v.follows || name.getLast? = some '/' then far else .ok p
          | .ok p, .ok q =>
            if isFar && (q.node.isDirectory || v.follows || name.getLast? = some '/') then .ok q
            else .ok p
          | .error e, .ok q => if name.getLast? = some '/' then .ok q else
              (if (Task.namedStream? name).isSome then .ok q else .error e)
          | .error e, .error _ => .error e
        (name, place)
      let errors := found.flatMap fun (name, place) =>
        match place with
        | .ok _ => []
        | .error e =>
          t.complaint ("cannot access ".toList ++ Octets.shellQuoted name ++ ": ".toList ++ reasonOf e)
      let there := found.filterMap fun (name, place) => place.toOption.map fun place => (name, place)
      let isShown (entry : Octets × Place) : Bool := v.asFiles || !entry.2.node.isDirectory
      let entryOf (entry : Octets × Place) : Entry :=
        ⟨entry.1, entry.2.node,
          if entry.2.node.isLink then (f.node entry.1).toOption else none⟩
      let files := v.sorted f ((there.filter isShown).map entryOf)
      let directories := v.sorted f ((there.filter fun entry => !isShown entry).map entryOf)
      let (text, announced) := v.list f files false
      let header := decide (1 < names.length)
      let (text, _, _) := directories.foldl
        (fun done e =>
          match there.lookup e.name with
          | some place => v.directory f header 1000 e.name place done
          | none => done) ((text, announced, !files.isEmpty) : Listed)
      { output := text, errors, left := some t.input, status := if errors.isEmpty then 0 else 2 }

def list : Tool := listAs {}

def listInColumns : Tool := listAs { form := .columns, style := .escaped }

def listInFull : Tool := listAs { form := .long, style := .escaped }

end CommandChains.Machine.Listing
