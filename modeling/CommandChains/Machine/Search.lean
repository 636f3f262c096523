import CommandChains.Machine.Expression
import CommandChains.Machine.Ordered.Pattern
import CommandChains.Machine.Ordered.Reader
import CommandChains.Machine.Shell.Pattern
import CommandChains.Machine.Tool.Basic

/-!
# Lines that are found

What is looked for in lines, and how lines are shown in which it was found.
-/

namespace CommandChains.Machine.Search

/-!
## What is looked for in lines

Lines are searched for expressions, of which the first place counts and there the longest text,
or for a pattern with an order. Only whole words or whole lines may count.
-/

/-- A stretch of a line: where it begins and where it ends. -/
structure Stretch where
  start : Nat
  stop : Nat
  deriving DecidableEq, Repr

inductive Wanted where
  | expressions (all : List Expression) (how : Expression.Manner) (words whole : Bool)
  | ordered (pattern : Ordered.Pattern)

namespace Wanted

/-- Whether no word goes on before or behind a stretch. -/
def standsAlone (line : Array Char) (s : Stretch) : Bool :=
  !(Expression.around line s.start).1 && !(Expression.around line s.stop).2

/-- Where the match of an expression that begins at a place ends, if one counts. If only words
count, shorter matches are tried too, as long as something is left. -/
def stopOf? (how : Expression.Manner) (words whole : Bool) (line : Array Char) (start : Nat)
    (e : Expression) : Option Nat :=
  let stops := e.stopsAt how line start
  if whole then
    if start = 0 && stops.contains line.size then some line.size else none
  else if words then
    let fits (stop : Nat) : Bool := standsAlone line ⟨start, stop⟩
    match stops with
    | [] => none
    | longest :: shorter =>
      if fits longest then some longest
      else shorter.find? fun stop => decide (start < stop) && fits stop
  else stops.head?

/-- The first stretch of a line from some place on that is wanted. -/
def find? (w : Wanted) (line : Array Char) (start : Nat) : Option Stretch :=
  match w with
  | expressions all how words whole =>
    let alive := all.filter fun e => !(e.startsFrom how line start).isEmpty
    if alive.isEmpty then none
    else
      ((List.range (line.size + 1 - start)).map (· + start)).findSome? fun start =>
        let stops := alive.filterMap (stopOf? how words whole line start)
        stops.max?.map fun stop => ⟨start, stop⟩
  | ordered pattern => (pattern.find? line start).map fun s => ⟨s.start, s.place⟩

def isIn (w : Wanted) (line : Array Char) : Bool :=
  match w with
  | expressions all how false false =>
    all.any fun e => !(e.startsFrom how line 0).isEmpty && (!e.refers || (w.find? line 0).isSome)
  | _ => (w.find? line 0).isSome

/-- The stretches of a line from some place on that are wanted and not empty, one behind the
other, in so many rounds. -/
def stretches (w : Wanted) (line : Array Char) : Nat → Nat → List Stretch
  | 0, _ => []
  | rounds + 1, start =>
    match w.find? line start with
    | none => []
    | some s =>
      if s.stop ≤ s.start then stretches w line rounds (max s.start start + 1)
      else s :: stretches w line rounds s.stop

def allIn (w : Wanted) (line : Array Char) : List Stretch := w.stretches line (line.size + 2) 0

end Wanted

/-!
## How lines are shown that were found

Lines that were found are shown with what is known about them in front, or only the parts that
were looked for, with lines around them, and in colors. Between lines that do not follow one
another stands a mark.
-/

structure Shown where
  names : Bool := false
  numbers : Bool := false
  offsets : Bool := false
  /-- Whether only the parts that were looked for are shown. -/
  only : Bool := false
  aligned : Bool := false
  colored : Bool := false
  zeros : Bool := false
  /-- Whether the lines without what is looked for are meant. -/
  inverted : Bool := false
  mark : Char := '\n'
  /-- What stands between lines that do not follow one another. -/
  separator : Option Octets := some ['-', '-']
  /-- How many lines before and behind are shown, if that was said. -/
  before : Option Nat := none
  behind : Option Nat := none

/-- A line with its number and the number of bytes before it. -/
structure Numbered where
  number : Nat
  offset : Nat
  text : Array Char

def numbered (number offset : Nat) : List Octets → List Numbered
  | [] => []
  | line :: rest =>
    ⟨number, offset, line.toArray⟩ :: numbered (number + 1) (offset + line.length + 1) rest

namespace Shown

def paint (h : Shown) (color : String) (text : Octets) : Octets :=
  if h.colored then
    ("\x1b[" ++ color ++ "m\x1b[K").toList ++ text ++ "\x1b[m\x1b[K".toList
  else text

def name (h : Shown) (name : Octets) : Octets := h.paint "35" name

/-- A sign behind what stands in front of a line. -/
def sign (h : Shown) (sign : Char) : Octets := h.paint "36" [sign]

def title (h : Shown) (name : Octets) (sign : Char) : Octets :=
  h.name name ++ (if h.zeros then ['\x00'] else h.sign sign)

def numberWidth : Nat := 19

/-- What stands in front of a text that begins at a place. -/
def label (h : Shown) (name : Octets) (sign : Char) (number offset : Nat) (isEmpty : Bool) :
    Octets :=
  let shown (n : Nat) : Octets :=
    let digits := Octets.ofNat n
    h.paint "32" (if h.aligned then Octets.padded numberWidth digits else digits) ++ h.sign sign
  (if h.names then h.title name sign else []) ++ (if h.numbers then shown number else []) ++
    (if h.offsets then shown offset else []) ++
    (if h.aligned && (h.names || h.numbers || h.offsets) && !isEmpty then ['\t'] else [])

def slice (line : Array Char) (s : Stretch) : Octets := (line.extract s.start s.stop).toList

/-- A line from some place on where stretches have a color. -/
def painted (h : Shown) (line : Array Char) (start : Nat) : List Stretch → Octets
  | [] => slice line ⟨start, line.size⟩
  | s :: rest =>
    slice line ⟨start, s.start⟩ ++ h.paint "01;31" (slice line s) ++ painted h line s.stop rest

/-- A line behind a sign that says whether it was meant. -/
def line (h : Shown) (w : Wanted) (name : Octets) (sign : Char) (l : Numbered) : Octets :=
  let hasMatch := (sign == ':') != h.inverted
  if h.only then
    if !hasMatch then []
    else (w.allIn l.text).flatMap fun s =>
      h.label name (if h.inverted then '-' else ':') l.number (l.offset + s.start) false ++
        h.paint "01;31" (slice l.text s) ++ [h.mark]
  else
    h.label name sign l.number l.offset l.text.isEmpty ++
      (if h.colored && hasMatch then h.painted l.text 0 (w.allIn l.text) else l.text.toList) ++
      [h.mark]

end Shown

/-! ## Searching a text -/

structure Request where
  wanted : Wanted
  shown : Shown := {}
  most : Option Nat := none
  counting : Bool := false
  first : Bool := false
  anyText : Bool := false
  noBinary : Bool := false

structure Walk where
  output : List Octets := []
  /-- The number of the last line that is shown, or zero. -/
  last : Nat := 0
  pending : Nat := 0
  count : Nat := 0
  /-- Whether anything has been shown, also of other texts. -/
  used : Bool := false
  /-- The bytes that have been looked at, if the search ended early. -/
  stopped : Option Nat := none

namespace Walk

/-- Shows lines up to the one with some number, if they are still to be shown. -/
def showPending (r : Request) (name : Octets) (limit : Nat) (lines : Array Numbered) (w : Walk) :
    Walk :=
  let due := lines.extract w.last (min (w.last + w.pending) (limit - 1))
  { w with
    output := due.foldl (fun out l => r.shown.line r.wanted name '-' l :: out) w.output
    last := w.last + due.size, pending := w.pending - due.size }

/-- Shows a line that was found, with those before it. -/
def showFound (r : Request) (name : Octets) (lines : Array Numbered) (l : Numbered) (w : Walk) :
    Walk :=
  let w := w.showPending r name l.number lines
  let h := r.shown
  let first := max (w.last + 1) (l.number - h.before.getD 0)
  let gap := (h.before.isSome || h.behind.isSome) && w.used &&
    (w.last == 0 || first != w.last + 1)
  let between : Octets := match h.separator with
    | some text => if gap then h.paint "36" text ++ ['\n'] else []
    | none => []
  let context := (lines.extract (first - 1) (l.number - 1)).toList.map (h.line r.wanted name '-')
  { w with
    output := h.line r.wanted name ':' l :: (context.reverse ++ between :: w.output)
    last := l.number, pending := h.behind.getD 0, used := true }

def through (r : Request) (name : Octets) (quiet first : Bool) (lines : Array Numbered) :
    List Numbered → Walk → Walk
  | [], w => w.showPending r name (lines.size + 1) lines
  | l :: rest, w =>
    if r.wanted.isIn l.text == r.shown.inverted then through r name quiet first lines rest w
    else
      let w := if quiet then w else w.showFound r name lines l
      let w := { w with count := w.count + 1 }
      let enough := r.most.any (decide <| · ≤ w.count)
      if first || enough then
        let w := if first then w else w.showPending r name (lines.size + 1) lines
        { w with stopped := (lines[max w.last l.number]?).map (·.offset) }
      else through r name quiet first lines rest w

end Walk

structure Outcome where
  walk : Walk := {}
  /-- Whether something was found in a text that cannot be shown. -/
  binary : Bool := false

/-- Searches a text. One with zero bytes is not shown, and they end lines in it. -/
def Request.search (r : Request) (name text : Octets) (used : Bool) : Outcome :=
  let binary := r.shown.mark == '\n' && !r.anyText && text.contains '\x00'
  if binary && r.noBinary then { walk := { used } }
  else
    let text := if binary then text.map fun c => if c = '\x00' then '\n' else c else text
    let lines := numbered 1 0 (Octets.records r.shown.mark text)
    let first := r.first || (binary && !r.counting)
    let walk := Walk.through r name (first || r.counting) first lines.toArray lines { used }
    let hidden := binary && !r.counting && !r.first && walk.count != 0
    { walk, binary := hidden }

/-!
## What a search is asked

The options of a search say how its patterns are written and what counts as a match, which lines
are shown and how, and what is searched. They are looked at one after the other, and the first
that makes no sense ends the search.
-/

inductive Writing where
  | basic
  | extended
  | fixed
  | ordered
  deriving DecidableEq, Repr

/-- A pattern, and the file and the line that it comes from. -/
structure Line where
  text : Octets
  origin : Option (Octets × Nat) := none

inductive Directories where
  | read
  | enter
  | skip
  deriving DecidableEq, Repr

/-- A pattern for the names of what is searched or not. -/
structure Choice where
  includes : Bool
  pattern : Octets

structure Asked where
  writing : Option Writing := none
  patterns : Option (List Line) := none
  /-- Whether anything stands in them, be it the end of a line. -/
  hasText : Bool := false
  readInput : Bool := false
  ignoreCase : Bool := false
  words : Bool := false
  whole : Bool := false
  shown : Shown := {}
  context : Option Nat := none
  digits : Octets := []
  most : Option Nat := none
  counting : Bool := false
  quiet : Bool := false
  /-- Whether names are listed: of texts with lines that are meant, or without. -/
  listing : Option Bool := none
  names : Option Bool := none
  anyText : Bool := false
  noBinary : Bool := false
  silent : Bool := false
  label : Option Octets := none
  directories : Directories := .read
  follows : Bool := false
  skipsDevices : Bool := false
  choices : List Choice := []
  directoryChoices : List Choice := []
  help : Bool := false
  version : Bool := false
  warnings : Octets := []

/-! ## Options -/

def help : Octets :=
  Octets.unlines (List.map String.toList [
    "Usage: grep [OPTION]... PATTERNS [FILE]...",
    "Search for PATTERNS in each FILE.",
    "Example: grep -i \x27hello world\x27 menu.h main.c",
    "PATTERNS can contain multiple patterns separated by newlines.",
    "",
    "Pattern selection and interpretation:",
    "  -E, --extended-regexp     PATTERNS are extended regular expressions",
    "  -F, --fixed-strings       PATTERNS are strings",
    "  -G, --basic-regexp        PATTERNS are basic regular expressions",
    "  -P, --perl-regexp         PATTERNS are Perl regular expressions",
    "  -e, --regexp=PATTERNS     use PATTERNS for matching",
    "  -f, --file=FILE           take PATTERNS from FILE",
    "  -i, --ignore-case         ignore case distinctions in patterns and data",
    "      --no-ignore-case      do not ignore case distinctions (default)",
    "  -w, --word-regexp         match only whole words",
    "  -x, --line-regexp         match only whole lines",
    "  -z, --null-data           a data line ends in 0 byte, not newline",
    "",
    "Miscellaneous:",
    "  -s, --no-messages         suppress error messages",
    "  -v, --invert-match        select non-matching lines",
    "  -V, --version             display version information and exit",
    "      --help                display this help text and exit",
    "",
    "Output control:",
    "  -m, --max-count=NUM       stop after NUM selected lines",
    "  -b, --byte-offset         print the byte offset with output lines",
    "  -n, --line-number         print line number with output lines",
    "      --line-buffered       flush output on every line",
    "  -H, --with-filename       print file name with output lines",
    "  -h, --no-filename         suppress the file name prefix on output",
    "      --label=LABEL         use LABEL as the standard input file name prefix",
    "  -o, --only-matching       show only nonempty parts of lines that match",
    "  -q, --quiet, --silent     suppress all normal output",
    "      --binary-files=TYPE   assume that binary files are TYPE;",
    "                            TYPE is \x27binary\x27, \x27text\x27, or \x27without-match\x27",
    "  -a, --text                equivalent to --binary-files=text",
    "  -I                        equivalent to --binary-files=without-match",
    "  -d, --directories=ACTION  how to handle directories;",
    "                            ACTION is \x27read\x27, \x27recurse\x27, or \x27skip\x27",
    "  -D, --devices=ACTION      how to handle devices, FIFOs and sockets;",
    "                            ACTION is \x27read\x27 or \x27skip\x27",
    "  -r, --recursive           like --directories=recurse",
    "  -R, --dereference-recursive  likewise, but follow all symlinks",
    "      --include=GLOB        search only files that match GLOB (a file pattern)",
    "      --exclude=GLOB        skip files that match GLOB",
    "      --exclude-from=FILE   skip files that match any file pattern from FILE",
    "      --exclude-dir=GLOB    skip directories that match GLOB",
    "  -L, --files-without-match  print only names of FILEs with no selected lines",
    "  -l, --files-with-matches  print only names of FILEs with selected lines",
    "  -c, --count               print only a count of selected lines per FILE",
    "  -T, --initial-tab         make tabs line up (if needed)",
    "  -Z, --null                print 0 byte after FILE name",
    "",
    "Context control:",
    "  -B, --before-context=NUM  print NUM lines of leading context",
    "  -A, --after-context=NUM   print NUM lines of trailing context",
    "  -C, --context=NUM         print NUM lines of output context",
    "  -NUM                      same as --context=NUM",
    "      --group-separator=SEP  print SEP on line between matches with context",
    "      --no-group-separator  do not print separator for matches with context",
    "      --color[=WHEN],",
    "      --colour[=WHEN]       use markers to highlight the matching strings;",
    "                            WHEN is \x27always\x27, \x27never\x27, or \x27auto\x27",
    "  -U, --binary              do not strip CR characters at EOL (MSDOS/Windows)",
    "",
    "When FILE is \x27-\x27, read standard input.  With no FILE, read \x27.\x27 if",
    "recursive, \x27-\x27 otherwise.  With fewer than two FILEs, assume -h.",
    "Exit status is 0 if any line is selected, 1 otherwise;",
    "if any error occurs and -q is not given, the exit status is 2."])

def usage (t : Task) : Octets :=
  "Usage: ".toList ++ t.name ++ " [OPTION]... PATTERNS [FILE]...\n".toList ++ t.hint

def known : Known :=
  { plain := "EFGPiyvwxcoqsnHhblLarRzUTZIuV0123456789\x03\x0e\x0f\x11", valued := "efmABCdD\x02\x04\x05\x06\x07\x08\x10"
    optional := "\x01", hidden := "\x01\x02\x03\x04\x05\x06\x07\x08\x0e\x0f\x10\x11"
    words := [("basic-regexp", 'G'), ("extended-regexp", 'E'), ("fixed-regexp", 'F'),
      ("fixed-strings", 'F'), ("perl-regexp", 'P'), ("after-context", 'A'), ("before-context", 'B'),
      ("binary-files", '\x10'), ("binary", 'U'), ("byte-offset", 'b'), ("context", 'C'),
      ("color", '\x01'), ("colour", '\x01'), ("count", 'c'), ("devices", 'D'), ("directories", 'd'),
      ("exclude", '\x05'), ("exclude-from", '\x06'), ("exclude-dir", '\x07'), ("file", 'f'),
      ("files-with-matches", 'l'), ("files-without-match", 'L'), ("group-separator", '\x02'),
      ("help", '\x11'), ("include", '\x04'), ("ignore-case", 'i'), ("no-ignore-case", '\x0f'),
      ("initial-tab", 'T'), ("label", '\x08'), ("line-buffered", '\x0e'), ("line-number", 'n'),
      ("line-regexp", 'x'), ("max-count", 'm'), ("no-filename", 'h'),
      ("no-group-separator", '\x03'), ("no-messages", 's'), ("null", 'Z'), ("null-data", 'z'),
      ("only-matching", 'o'), ("quiet", 'q'), ("recursive", 'r'), ("dereference-recursive", 'R'),
      ("regexp", 'e'), ("invert-match", 'v'), ("silent", 'q'), ("text", 'a'),
      ("unix-byte-offsets", 'u'), ("version", 'V'), ("with-filename", 'H'), ("word-regexp", 'w')] }

/-- A whole number with blanks and a sign in front. -/
def number? (text : Octets) : Option Int :=
  let text := text.dropWhile Octets.isSpace
  match text with
  | '-' :: digits => (Octets.decimal? digits).map fun n => -(n : Int)
  | '+' :: digits => (Octets.decimal? digits).map fun n => (n : Int)
  | digits => (Octets.decimal? digits).map fun n => (n : Int)

def linesAround (t : Task) (text : Octets) : Except Report Nat :=
  match number? text with
  | some (.ofNat n) => .ok n
  | _ => .error (t.fails (text ++ ": invalid context length argument".toList) 2)

def directoryActions : Choices Directories :=
  [(["read"], .read), (["recurse"], .enter), (["skip"], .skip)]

def Asked.add (s : Asked) (lines : List Line) (isEmpty : Bool) : Asked :=
  { s with patterns := some (s.patterns.getD [] ++ lines), hasText := s.hasText || !isEmpty }

def Asked.addFile (s : Asked) (t : Task) (name : Octets) : Except Report Asked :=
  let contents := if t.isInput name then .ok (if s.readInput then [] else t.input) else t.contents name
  match contents with
  | .error e => .error (t.fails (name ++ ": ".toList ++ reasonOf e) 2)
  | .ok text =>
    let lines := Octets.lines text
    let numbers := (List.range lines.length).map (· + 1)
    let origin (n : Nat) : Option (Octets × Nat) :=
      some (if t.isInput name then "(standard input)".toList else name, n)
    .ok { s.add ((lines.zip numbers).map fun (text, n) => { text, origin := origin n }) text.isEmpty
          with readInput := s.readInput || t.isInput name }

/-- With a way in which patterns are written, which has to be the only one. -/
def Asked.written (s : Asked) (t : Task) (w : Writing) : Except Report Asked :=
  if s.writing.any (· != w) then .error (t.fails "conflicting matchers specified".toList 2)
  else .ok { s with writing := some w }

def Asked.with_ (t : Task) (s : Asked) (option : Char × Octets) : Except Report Asked := do
  let (letter, value) := option
  let before := s
  let s := if letter.isDigit then s else { s with digits := [] }
  let sh := s.shown
  match letter with
  | 'E' => s.written t .extended
  | 'F' => s.written t .fixed
  | 'G' => s.written t .basic
  | 'P' => s.written t .ordered
  | 'e' => pure (s.add ((Octets.splitAt '\n' value).map fun text => { text }) false)
  | 'f' => s.addFile t value
  | 'i' | 'y' => pure { s with ignoreCase := true }
  | '\x0f' => pure { s with ignoreCase := false }
  | 'w' => pure { s with words := true }
  | 'x' => pure { s with whole := true }
  | 'v' => pure { s with shown := { sh with inverted := true } }
  | 'c' => pure { s with counting := true }
  | 'o' => pure { s with shown := { sh with only := true } }
  | 'q' => pure { s with quiet := true }
  | 's' => pure { s with silent := true }
  | 'n' => pure { s with shown := { sh with numbers := true } }
  | 'b' => pure { s with shown := { sh with offsets := true } }
  | 'T' => pure { s with shown := { sh with aligned := true } }
  | 'Z' => pure { s with shown := { sh with zeros := true } }
  | 'z' => pure { s with shown := { sh with mark := '\x00' } }
  | 'H' => pure { s with names := some true }
  | 'h' => pure { s with names := some false }
  | 'l' => pure { s with listing := some true }
  | 'L' => pure { s with listing := some false }
  | 'a' => pure { s with anyText := true, noBinary := false }
  | 'I' => pure { s with noBinary := true, anyText := false }
  | 'r' => pure { s with directories := .enter }
  | 'R' => pure { s with directories := .enter, follows := true }
  | 'A' => do pure { s with shown := { sh with behind := some (← linesAround t value) } }
  | 'B' => do pure { s with shown := { sh with before := some (← linesAround t value) } }
  | 'C' => do pure { s with context := some (← linesAround t value) }
  | 'm' =>
    match number? value with
    | none => throw (t.fails "invalid max count".toList 2)
    | some n => pure { s with most := if n < 0 then none else some n.toNat }
  | 'd' =>
    match directoryActions.chosen "--directories" value with
    | .ok directories => pure { s with directories }
    | .error message =>
      throw { errors := t.complaint message ++ usage t, left := some t.input, status := 1 }
  | 'D' =>
    match String.ofList value with
    | "read" => pure { s with skipsDevices := false }
    | "skip" => pure { s with skipsDevices := true }
    | _ => throw (t.fails "unknown devices method".toList 2)
  | 'u' =>
    let warning := t.complaint "warning: --unix-byte-offsets (-u) is obsolete".toList
    pure { s with warnings := s.warnings ++ warning }
  | 'V' => pure { s with version := true }
  | '\x11' => pure { s with help := true }
  | '\x01' =>
    match String.ofList value with
    | "always" | "yes" | "force" => pure { s with shown := { sh with colored := true } }
    | "" | "never" | "no" | "none" | "auto" | "tty" | "if-tty" =>
      pure { s with shown := { sh with colored := false } }
    | _ => pure { s with help := true }
  | '\x02' => pure { s with shown := { sh with separator := some value } }
  | '\x03' => pure { s with shown := { sh with separator := none } }
  | '\x04' => pure { s with choices := ⟨true, value⟩ :: s.choices }
  | '\x05' => pure { s with choices := ⟨false, value⟩ :: s.choices }
  | '\x06' =>
    match t.contents value with
    | .error e => throw (t.fails (value ++ ": ".toList ++ reasonOf e) 2)
    | .ok text =>
      pure { s with choices := ((Octets.lines text).map (⟨false, ·⟩)).reverse ++ s.choices }
  | '\x07' =>
    let pattern := (value.reverse.dropWhile (· == '/')).reverse
    pure { s with directoryChoices := ⟨false, pattern⟩ :: s.directoryChoices }
  | '\x08' => pure { s with label := some value }
  | '\x10' =>
    match String.ofList value with
    | "binary" => pure { s with anyText := false, noBinary := false }
    | "text" => pure { s with anyText := true, noBinary := false }
    | "without-match" => pure { s with anyText := false, noBinary := true }
    | _ => throw (t.fails "unknown binary-files type".toList 2)
  | c =>
    if c.isDigit then
      let digits := before.digits ++ [c]
      pure { s with digits, context := some (Octets.decimal digits) }
    else pure s

/-! ## Patterns -/

/-- The signs of repetition with nothing in front of them, where `start` says that nothing has
been read. -/
def startingSigns (form : Expression.Form) : Nat → Bool → Octets → List String
  | 0, _, _ => []
  | _, _, [] => []
  | rounds + 1, start, c :: rest =>
    let sign (name : String) (rest : Octets) (start_ : Bool) : List String :=
      (if start then [name] else []) ++ startingSigns form rounds start_ rest
    match c with
    | '\\' =>
      let edge := rest.head?.any fun d => "<>bB\x60\x27".contains d
      startingSigns form rounds (start && edge) (rest.drop 1)
    | '[' =>
      match Expression.readBracket form rest with
      | .ok (_, rest) => startingSigns form rounds false rest
      | .error _ => []
    | '(' | '|' => startingSigns form rounds true rest
    | '^' | '$' => startingSigns form rounds start rest
    | '*' => sign "*" rest start
    | '+' => sign "+" rest start
    | '?' => sign "?" rest start
    | '\x7b' =>
      match Expression.readTimes form rest with
      | .ok (some (_, rest)) => sign "\x7b...\x7d" rest false
      | _ => startingSigns form rounds false rest
    | _ => startingSigns form rounds false rest

def formOf (extended : Bool) : Expression.Form :=
  { extended, forgiving := true, doubleBrackets := true }

/-- What is looked for and what is to be said about it, or why the search cannot begin. -/
def Asked.wanted (s : Asked) (t : Task) (lines : List Line) : Except Report (Wanted × Octets) :=
  let told (messages : List Octets) : Report :=
    { errors := messages.flatMap t.complaint, left := some t.input, status := 2 }
  let expressions (all : List Expression) : Wanted :=
    .expressions all { ignoreCase := s.ignoreCase } s.words s.whole
  let ofForm (form : Expression.Form) : Except Report (Wanted × Octets) :=
    let read := lines.map fun line => (line, Expression.ofText form line.text)
    let mistakes := read.filterMap fun (line, result) =>
      match result with
      | .error m => some (line, m)
      | .ok _ => none
    let front (line : Line) : Octets :=
      match line.origin with
      | some (name, number) => name ++ [':'] ++ Octets.ofNat number ++ ": ".toList
      | none => []
    let (late, soon) := mistakes.partition fun m => m.2 = .singleBracket
    if !soon.isEmpty then
      .error (told (soon.map fun (line, m) => front line ++ m.message.toList))
    else if !late.isEmpty then .error (told [Expression.Mistake.singleBracket.message.toList])
    else
      let signs := if form.extended then
          lines.flatMap fun line => startingSigns form (line.text.length + 1) true line.text
        else []
      let warnings := signs.flatMap fun sign =>
        t.complaint ("warning: " ++ sign ++ " at start of expression").toList
      .ok (expressions (read.filterMap fun (_, result) => result.toOption), warnings)
  match s.writing.getD .basic with
  | .basic => ofForm (formOf false)
  | .extended => ofForm (formOf true)
  | .fixed => .ok (expressions (lines.map fun line => Expression.literal line.text), [])
  | .ordered =>
    match lines with
    | [line] =>
      let text := if s.words && !s.whole then
          "(?<!\\w)(?:".toList ++ line.text ++ ")(?!\\w)".toList
        else line.text
      let flags : Ordered.Flags :=
        { ignoreCase := s.ignoreCase, severalLines := s.shown.mark == '\x00' }
      match Ordered.Compiled.ofText flags text with
      | .error failure => .error (told [failure.mistake.message.toList])
      | .ok c =>
        .ok (.ordered (if s.whole then .both (.holds .lineStart) (.both c.pattern (.holds .lineEnd))
          else c.pattern), [])
    | _ => .error (told ["the -P option only supports a single pattern".toList])

/-! ## Names -/

/-- Whether a name is left out: the last choice that fits counts, or else the first one. -/
def isLeftOut (command : Bool) (choices : List Choice) (name : Octets) : Bool :=
  let fits (pattern : Octets) (name : Octets) : Bool :=
    Shell.fits {} (Shell.Marked.active pattern) name
  let ends := (List.range name.length).filterMap fun n =>
    if name[n]? = some '/' && name[n + 1]? != some '/' then some (name.drop (n + 1)) else none
  let isMeant (c : Choice) : Bool :=
    fits c.pattern name || (command && ends.any (fits c.pattern))
  match choices.find? isMeant, choices.getLast? with
  | some c, _ => !c.includes
  | none, some c => c.includes
  | none, none => false

end CommandChains.Machine.Search
