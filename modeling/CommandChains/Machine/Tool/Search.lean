import CommandChains.Machine.Search
import CommandChains.Machine.Tool.Compression

/-!
# Search for lines

A tool that prints the lines in which something is found, or those in which it is not, or only
how many there are or where. It searches its input, files, or all files below directories.
-/

namespace CommandChains.Machine.Search

/-- The paths of the files below a directory, to a limited depth. -/
def filesBelow (s : Asked) (f : Files) : Nat → Octets → Node → List Octets
  | 0, _, _ => []
  | depth + 1, path, node =>
    node.entries.flatMap fun (name, entry) =>
      let name := name.toList
      let path := if path.isEmpty then name
        else if path.getLast? = some '/' then path ++ name else path ++ '/' :: name
      let entry := if s.follows && entry.isLink then (f.node path).toOption.getD entry else entry
      if entry.isDirectory then
        if isLeftOut false s.directoryChoices name then [] else filesBelow s f depth path entry
      else if entry.isLink || entry.isDevice || isLeftOut false s.choices name then []
      else [path]

def depthLimit : Nat := 64

/-- The names of what is searched for an operand, and whether it is a directory that is
entered. -/
def namesFor (s : Asked) (t : Task) (operand : Octets) : List Octets × Bool :=
  if operand = ['-'] then ([operand], false)
  else
    match t.files.node operand with
    | .ok node =>
      if node.isDirectory then
        match s.directories with
        | .skip => ([], false)
        | .read => ([operand], false)
        | .enter =>
          if isLeftOut true s.directoryChoices operand then ([], true)
          else (filesBelow s t.files depthLimit operand node, true)
      else if isLeftOut true s.choices operand || (s.skipsDevices && node.isDevice) then ([], false)
      else ([operand], false)
    | .error _ => ([operand], false)

/-- What has come of the texts that have been searched. -/
structure Progress where
  output : Octets := []
  errors : Octets := []
  late : Octets := []
  used : Bool := false
  found : Bool := false
  trouble : Bool := false
  done : Bool := false
  left : Octets

def Progress.say (p : Progress) (message : Octets) : Progress :=
  if p.output.isEmpty then { p with errors := p.errors ++ message }
  else { p with late := p.late ++ message }

def portion : Nat := 98304

def searchSource (s : Asked) (t : Task) (r : Request) (p : Progress) (source : Source) : Progress :=
  if p.done then p
  else
    match source.contents with
    | .error e =>
      let p := { p with trouble := true }
      if s.silent then p else p.say (t.complaint (source.name ++ ": ".toList ++ reasonOf e))
    | .ok text =>
      let name := if source.isInput then s.label.getD "(standard input)".toList else source.name
      let h := r.shown
      let outcome := r.search name text p.used
      let found := outcome.walk.count != 0
      let listed := s.listing = some found
      let output :=
        if s.quiet then []
        else if s.listing.isSome then
          if listed then h.name name ++ [if h.zeros then '\x00' else '\n'] else []
        else if s.counting then
          (if h.names then h.title name ':' else []) ++ Octets.ofNat outcome.walk.count ++ ['\n']
        else outcome.walk.output.reverse.flatten
      let left := if source.isInput then
          match outcome.walk.stopped with
          | some bytes => p.left.drop ((bytes + portion - 1) / portion * portion)
          | none => []
        else p.left
      let p := { p with
        output := p.output ++ output, used := outcome.walk.used, found := p.found || found
        done := s.quiet && found, left }
      if outcome.binary then p.say (t.complaint (name ++ ": binary file matches".toList)) else p

def Asked.search (s : Asked) (t : Task) (wanted : Wanted) (warnings : Octets)
    (operands : List Octets) : Report :=
  let entering := s.directories = .enter
  let named : List (List Octets × Bool) :=
    if operands.isEmpty then
      if entering then
        [(filesBelow s t.files depthLimit [] ((t.files.node ['.']).toOption.getD (.data [])), true)]
      else [([['-']], false)]
    else operands.map (namesFor s t)
  let several := decide (1 < operands.length) || named.any (·.2)
  let shown := { s.shown with
    names := s.names.getD several
    before := s.shown.before.orElse fun _ => s.context
    behind := s.shown.behind.orElse fun _ => s.context }
  let r : Request :=
    { wanted, shown, most := s.most, counting := s.counting && s.listing.isNone && !s.quiet
      first := s.quiet || s.listing.isSome, anyText := s.anyText, noBinary := s.noBinary }
  let sources := t.open_ s.readInput (named.flatMap (·.1))
  let p := sources.foldl (searchSource s t r)
    { errors := s.warnings ++ warnings, left := if s.readInput then [] else t.input }
  { output := p.output, errors := p.errors, late := p.late, left := some p.left
    status := if p.trouble && !(s.quiet && p.found) then 2 else if p.found then 0 else 1 }

def linesThatMatch : Tool := fun t =>
  let refusal (message : Octets) (status : Nat) : Report :=
    { errors := message ++ usage t, left := some t.input, status }
  match Arguments.read known t.arguments with
  | .error misuse => refusal (t.complaint misuse.message) 2
  | .ok a =>
    match a.options.foldlM (Asked.with_ t) {} with
    | .error report => report
    | .ok s =>
      if s.version then { left := some t.input }
      else if s.help then { output := help, left := some t.input }
      else
        let (patterns, operands) := match s.patterns, a.operands with
          | some lines, operands => (some lines, operands)
          | none, first :: operands =>
            (some ((Octets.splitAt '\n' first).map fun text => { text }), operands)
          | none, [] => (none, [])
        match patterns with
        | none => refusal s.warnings 2
        | some lines =>
          let nothing := s.patterns.isSome && !s.hasText
          let s := if nothing then
              { s with words := false, whole := false
                       shown := { s.shown with inverted := !s.shown.inverted } }
            else s
          let lines := if nothing then [{ text := [] }] else lines
          let matchesAll := lines.length = 1 && lines.all (·.text.isEmpty)
          let hopeless := s.most = some 0 ||
            (matchesAll && s.shown.inverted && !s.words && !s.whole)
          if hopeless && s.listing != some false then
            { errors := s.warnings, left := some (if s.readInput then [] else t.input), status := 1 }
          else
            match s.wanted t lines with
            | .error report => { report with errors := s.warnings ++ report.errors }
            | .ok (wanted, warnings) => s.search t wanted warnings operands

/-- Prints the lines in which something is found, with an option in front of the others. -/
def linesWith (option : String) : Tool := fun t =>
  linesThatMatch { t with name := "grep".toList, arguments := option.toList :: t.arguments }

/-- Prints the lines in which something is found where packed files are unpacked, with an option in
front of the others. -/
def packedLinesWith (option : String) : Tool := fun t =>
  if t.arguments.isEmpty then
    let path := "/usr/bin/zgrep".toList
    { errors := path ++ ": 188: 1: missing pattern; try `".toList ++ path ++
        " --help' for help\n".toList
      left := some t.input, status := 2 }
  else
    let r : Compression.Request := { unpacks := true, toOutput := true, force := true, quiet := true }
    linesWith option
      { t with input := (Compression.unpackedText r "stdin".toList t.input).text }

end CommandChains.Machine.Search
