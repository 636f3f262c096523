import CommandChains.Machine.Arguments
import CommandChains.Machine.Difference
import CommandChains.Machine.Expression
import CommandChains.Machine.Tool.Basic

/-!
# Changes between files

A tool that prints what must be changed to make one file another one. There are several ways
to show changes: alone, with lines around them, as commands for an editor, or both files side
by side. Directories are compared file by file.
-/

namespace CommandChains.Machine.Changes

/-! ## Lines -/

structure Tolerance where
  letters : Bool
  amounts : Bool
  blanks : Bool
  trailing : Bool
  tabs : Bool
  returns : Bool

def withoutTabs (size : Nat) (text : Octets) : Octets :=
  (text.foldl (fun (shown, column) c =>
    if c = '\t' then
      let gap := size - column % size
      (shown ++ List.replicate gap ' ', column + gap)
    else (shown ++ [c], column + 1)) (([], 0) : Octets × Nat)).1

/-- A text with one blank for every row of blanks, and none at its end. -/
def withoutAmounts (text : Octets) : Octets :=
  let shown := text.foldr (fun c rest =>
    if Octets.isSpace c then (if rest.head? = some ' ' then rest else ' ' :: rest) else c :: rest) []
  if shown.getLast? = some ' ' then shown.dropLast else shown

def Tolerance.key (t : Tolerance) (line : Octets) : Octets :=
  let line := if t.returns && line.getLast? = some '\r' then line.dropLast else line
  let line := if t.tabs then withoutTabs 8 line else line
  let line := if t.blanks then line.filter fun c => !Octets.isSpace c
    else if t.amounts then withoutAmounts line
    else if t.trailing then (line.reverse.dropWhile Octets.isSpace).reverse
    else line
  if t.letters then Octets.lower line else line

/-- The lines of a file and whether the last one has no end. -/
structure Text where
  lines : List Octets
  open_ : Bool

def Text.ofOctets (text : Octets) : Text :=
  { lines := Octets.lines text, open_ := !text.isEmpty && text.getLast? != some '\n' }

/-- Numbers for the lines of two texts: equal ones for lines between which nothing makes a
difference. A last line without an end is different from all others. -/
def classes (t : Tolerance) (a b : Text) : List Nat × List Nat :=
  let keys (x : Text) : List (Octets × Bool) :=
    let tolerant := t.blanks || t.amounts || t.trailing
    x.lines.zipIdx.map fun (line, k) =>
      (t.key line, x.open_ && !tolerant && k + 1 == x.lines.length)
  let one := keys a
  let two := keys b
  let all := (one ++ two).eraseDups
  (one.map all.idxOf, two.map all.idxOf)

/-! ## Ways to show changes -/

inductive Style where
  | normal
  | unified (context : Nat)
  | context (context : Nat)
  | commands
  /-- Commands for an editor in the order of the file. -/
  | forward
  | counted
  | brief
  | beside
  | merged (name : Octets)
  deriving DecidableEq, Repr

structure Manner where
  style : Style
  tolerance : Tolerance
  minimal : Bool
  ignoresEmpty : Bool
  ignored : List Expression
  tabbed : Bool
  expanded : Bool
  width : Nat
  leftOnly : Bool
  changedOnly : Bool
  labels : List Octets
  tellsSame : Bool
  asText : Bool
  recursive : Bool
  newFiles : Bool
  options : List Octets

/-- The lines from a place on, so many of them. -/
def slice (t : Text) (first count : Nat) : List (Octets × Bool) :=
  ((t.lines.drop first).take count).zipIdx.map fun (line, k) =>
    (line, !(t.open_ && first + k + 1 == t.lines.length))

/-- Lines with something in front of each. A line without an end is told about. -/
def shown (m : Manner) (front : Octets) (lines : List (Octets × Bool)) : Octets :=
  lines.flatMap fun (line, ended) =>
    let line := if m.expanded then withoutTabs 8 line else line
    front ++ line ++ ['\n'] ++ if ended then [] else "\\ No newline at end of file\n".toList

def range (between : Char) (first count : Nat) : Octets :=
  if 1 < count then Octets.ofNat (first + 1) ++ between :: Octets.ofNat (first + count)
  else Octets.ofNat (first + count)

def letter (c : Change) : Char :=
  if c.inserted = 0 then 'd' else if c.deleted = 0 then 'a' else 'c'

def normal (m : Manner) (a b : Text) (changes : List Change) : Octets :=
  let blank := if m.tabbed then '\t' else ' '
  changes.flatMap fun c =>
    range ',' c.left c.deleted ++ letter c :: range ',' c.right c.inserted ++ ['\n'] ++
      shown m ['<', blank] (slice a c.left c.deleted) ++
      (if c.deleted != 0 && c.inserted != 0 then "---\n".toList else []) ++
      shown m ['>', blank] (slice b c.right c.inserted)

def grouped (context : Nat) : List Change → List (List Change)
  | [] => []
  | c :: rest =>
    match grouped context rest with
    | [] => [[c]]
    | [] :: others => [c] :: others
    | (next :: more) :: others =>
      if next.left ≤ c.left + c.deleted + 2 * context then (c :: next :: more) :: others
      else [c] :: (next :: more) :: others

/-- The range around a group of changes in both files: where it begins and how long it is. -/
def around (context : Nat) (a b : Text) (group : List Change) : (Nat × Nat) × (Nat × Nat) :=
  match group.head?, group.getLast? with
  | some first, some last =>
    let before := min context (min first.left first.right)
    let left := first.left - min context first.left
    let right := first.right - min context first.right
    let behind := min context (a.lines.length - (last.left + last.deleted))
    let behindB := min context (b.lines.length - (last.right + last.inserted))
    let _ := before
    ((left, last.left + last.deleted + behind - left),
      (right, last.right + last.inserted + behindB - right))
  | _, _ => ((0, 0), (0, 0))

/-- A range as headers of changes with lines around them show it. -/
def unifiedRange (first count : Nat) : Octets :=
  if count = 0 then Octets.ofNat first ++ ",0".toList
  else if count = 1 then Octets.ofNat (first + 1)
  else Octets.ofNat (first + 1) ++ ',' :: Octets.ofNat count

def unified (m : Manner) (context : Nat) (a b : Text) (changes : List Change) : Octets :=
  let front (c : Char) : Octets := if m.tabbed then (if c = ' ' then ['\t'] else [c, '\t']) else [c]
  (grouped context changes).flatMap fun group =>
    let ((left, count), (right, countB)) := around context a b group
    let (body, at_) := group.foldl (fun (body, at_) c =>
      (body ++ shown m (front ' ') (slice a at_ (c.left - at_)) ++
        shown m (front '-') (slice a c.left c.deleted) ++
        shown m (front '+') (slice b c.right c.inserted), c.left + c.deleted))
      (([], left) : Octets × Nat)
    "@@ -".toList ++ unifiedRange left count ++ " +".toList ++ unifiedRange right countB ++
      " @@\n".toList ++ body ++ shown m (front ' ') (slice a at_ (left + count - at_))

/-- Changes with lines around them, both files one behind the other. -/
def inContext (m : Manner) (context : Nat) (a b : Text) (changes : List Change) : Octets :=
  let blank := if m.tabbed then '\t' else ' '
  (grouped context changes).flatMap fun group =>
    let ((left, count), (right, countB)) := around context a b group
    let side (t : Text) (first count : Nat) (part : Change → Nat × Nat) (mark : Char) : Octets :=
      let (body, at_) := group.foldl (fun (body, at_) c =>
        let (place, size) := part c
        let mark := if c.deleted != 0 && c.inserted != 0 then '!' else mark
        (body ++ shown m [' ', blank] (slice t at_ (place - at_)) ++
          shown m [mark, blank] (slice t place size), place + size)) (([], first) : Octets × Nat)
      body ++ shown m [' ', blank] (slice t at_ (first + count - at_))
    let old := if group.any fun c => c.deleted != 0 then
        side a left count (fun c => (c.left, c.deleted)) '-'
      else []
    let new := if group.any fun c => c.inserted != 0 then
        side b right countB (fun c => (c.right, c.inserted)) '+'
      else []
    let header (first count : Nat) : Octets :=
      if count ≤ 1 then Octets.ofNat (first + count)
      else Octets.ofNat (first + 1) ++ ',' :: Octets.ofNat (first + count)
    "***************\n*** ".toList ++ header left count ++ " ****\n".toList ++ old ++
      "--- ".toList ++ header right countB ++ " ----\n".toList ++ new

/-- Lines that are given to an editor. A line that is a point alone would end them. -/
def inserted (lines : List (Octets × Bool)) : Octets :=
  let (body, isOpen) := lines.foldl (fun (body, isOpen) (line, _) =>
    let front := if isOpen then [] else ['a', '\n']
    if line = ['.'] then (body ++ front ++ "..\n.\ns/.//\n".toList, false)
    else (body ++ front ++ line ++ ['\n'], true)) (([], true) : Octets × Bool)
  body ++ if isOpen then ['.', '\n'] else []

def commands (b : Text) (changes : List Change) : Octets :=
  changes.reverse.flatMap fun c =>
    range ',' c.left c.deleted ++ letter c :: '\n' ::
      if c.inserted = 0 then [] else inserted (slice b c.right c.inserted)

def forward (b : Text) (changes : List Change) : Octets :=
  changes.flatMap fun c =>
    letter c :: range ' ' c.left c.deleted ++ '\n' ::
      if c.inserted = 0 then []
      else (slice b c.right c.inserted).flatMap (fun entry => entry.1 ++ ['\n']) ++ ['.', '\n']

def counted (b : Text) (changes : List Change) : Octets :=
  changes.flatMap fun c =>
    (if c.deleted = 0 then []
      else 'd' :: Octets.ofNat (c.left + 1) ++ ' ' :: Octets.ofNat c.deleted ++ ['\n']) ++
      if c.inserted = 0 then []
      else
        'a' :: Octets.ofNat (c.left + c.deleted) ++ ' ' :: Octets.ofNat c.inserted ++ '\n' ::
          (slice b c.right c.inserted).flatMap fun entry =>
            entry.1 ++ if entry.2 then ['\n'] else []

/-- One text where the preprocessor of a language chooses between the files. -/
def merged (name : Octets) (a b : Text) (changes : List Change) : Octets :=
  let text (lines : List (Octets × Bool)) : Octets :=
    lines.flatMap fun entry => entry.1 ++ ['\n']
  let (body, at_) := changes.foldl (fun (body, at_) c =>
    let old := text (slice a c.left c.deleted)
    let new := text (slice b c.right c.inserted)
    let change :=
      if c.inserted = 0 then "#ifndef ".toList ++ name ++ '\n' :: old ++ "#endif /* ! ".toList ++ name
      else if c.deleted = 0 then "#ifdef ".toList ++ name ++ '\n' :: new ++ "#endif /* ".toList ++ name
      else "#ifndef ".toList ++ name ++ '\n' :: old ++ "#else /* ".toList ++ name ++ " */\n".toList ++
        new ++ "#endif /* ".toList ++ name
    (body ++ text (slice a at_ (c.left - at_)) ++ change ++ " */\n".toList, c.left + c.deleted))
    (([], 0) : Octets × Nat)
  body ++ text (slice a at_ (a.lines.length - at_))

/-! ## Side by side -/

def gap (expanded : Bool) (from_ goal : Nat) : Octets :=
  if expanded then List.replicate (goal - from_) ' '
  else
    let stop := goal / 8 * 8
    if from_ < stop then
      List.replicate (goal / 8 - from_ / 8) '\t' ++ List.replicate (goal - stop) ' '
    else List.replicate (goal - from_) ' '

/-- As much of a line as fits in a width, and how wide it is. -/
def half (expanded : Bool) (width : Nat) (line : Octets) : Octets × Nat :=
  let (text, _, column) := line.foldl (fun (text, seen, column) c =>
    if c = '\t' then
      let space := 8 - seen % 8
      if seen != column then (text, seen + space, column)
      else if expanded then
        let stop := min (column + space) width
        (text ++ List.replicate (stop - column) ' ', seen + space, stop)
      else if column + space < width then (text ++ ['\t'], seen + space, column + space)
      else (text, seen + space, column)
    else if Octets.isSeen c then
      if seen < width then (text ++ [c], seen + 1, seen + 1) else (text, seen + 1, column)
    else if seen < width then (text ++ [c], seen, column) else (text, seen, column))
    (([], 0, 0) : Octets × Nat × Nat)
  (text, column)

/-- A line of both files, with a mark between them. -/
def pair (m : Manner) (left : Option (Octets × Bool)) (mark : Char) (right : Option (Octets × Bool)) :
    Octets :=
  let tab := if m.expanded then 1 else 8
  let least := tab + 3
  let unaligned := m.width / 2 + least / 2 + (m.width % 2) * (least % 2)
  let offset := unaligned - unaligned % tab
  let halfWidth := min (offset - 3) (m.width - offset)
  let column := if halfWidth = 0 then m.width else offset
  let ended (line : Option (Octets × Bool)) : Bool := line.any (·.2)
  let (text, at_) := match left with
    | some (line, _) => half m.expanded halfWidth line
    | none => ([], 0)
  let mark := if mark = '|' && ended left != ended right then (if ended left then '/' else '\\')
    else mark
  let (text, at_) := if mark = ' ' then (text, at_)
    else
      let stop := (halfWidth + column - 1) / 2
      (text ++ gap m.expanded at_ stop ++ [mark], stop + 1)
  let text := match right with
    | some (line, _) =>
      if line.isEmpty then text else text ++ gap m.expanded at_ column ++ (half m.expanded halfWidth line).1
    | none => text
  text ++ if ended left || ended right then ['\n'] else []

def commonPairs (m : Manner) (a b : Text) (left count right countB : Nat) : Octets :=
  if m.changedOnly then []
  else
    let one := (slice a left count).map some
    let two := (slice b right countB).map some
    if m.leftOnly then one.flatMap fun line => pair m line '(' none
    else
      let both := min count countB
      ((one.zip two).flatMap fun (x, y) => pair m x ' ' y) ++
        ((two.drop both).flatMap fun line => pair m none ')' line) ++
        (one.drop both).flatMap fun line => pair m line '(' none

def beside (m : Manner) (a b : Text) (changes : List Change) : Octets :=
  let (body, left, right) := changes.foldl (fun (body, left, right) c =>
    let common := commonPairs m a b left (c.left - left) right (c.right - right)
    let one := (slice a c.left c.deleted).map some
    let two := (slice b c.right c.inserted).map some
    let both := min c.deleted c.inserted
    (body ++ common ++ ((one.zip two).flatMap fun (x, y) => pair m x '|' y) ++
      ((two.drop both).flatMap fun line => pair m none '>' line) ++
      ((one.drop both).flatMap fun line => pair m line '<' none),
      c.left + c.deleted, c.right + c.inserted)) (([], 0, 0) : Octets × Nat × Nat)
  body ++ commonPairs m a b left (a.lines.length - left) right (b.lines.length - right)

/-! ## Files -/

def isTrivial (m : Manner) (a b : Text) (c : Change) : Bool :=
  let lines := (slice a c.left c.deleted ++ slice b c.right c.inserted).map (·.1)
  let skipped (line : Octets) : Bool :=
    (m.ignoresEmpty && (m.tolerance.key line).isEmpty) ||
      m.ignored.any fun e => (Expression.matchFrom {} e line 0).isSome
  lines.all skipped

def changesOf (m : Manner) (a b : Text) : List Change :=
  let (one, two) := classes m.tolerance a b
  let all := Difference.changes m.minimal one two
  if m.ignoresEmpty || !m.ignored.isEmpty then all.filter fun c => !isTrivial m a b c else all

/-- How a file is named in front of changes. Nothing is known of its time. -/
def label (m : Manner) (place : Nat) (name : Octets) : Octets :=
  match m.labels[place]? with
  | some label => label
  | none => name ++ "\t1970-01-01 00:00:00.000000000 +0000".toList

/-- What has come of a comparison: 0 if there are no differences, 1 if there are some, 2 if
something went wrong. -/
structure Verdict where
  output : Octets := []
  errors : Octets := []
  status : Nat := 0

def Verdict.append (v w : Verdict) : Verdict :=
  { output := v.output ++ w.output, errors := v.errors ++ w.errors, status := max v.status w.status }

def isBinary (text : Octets) : Bool := text.contains '\x00'

def compareTexts (t : Task) (m : Manner) (nameA nameB a b : Octets) : Verdict :=
  let told (words : List Octets) : Octets := words.flatten ++ ['\n']
  let same : Verdict :=
    { output := if m.tellsSame then
        told ["Files ".toList, nameA, " and ".toList, nameB, " are identical".toList]
      else [] }
  let differ : Verdict :=
    { output := told ["Files ".toList, nameA, " and ".toList, nameB, " differ".toList], status := 1 }
  if !m.asText && (isBinary a || isBinary b) then
    if a = b then same
    else if m.style = .brief then differ
    else
      { output := told ["Binary files ".toList, nameA, " and ".toList, nameB, " differ".toList]
        status := 1 }
  else
    let one := Text.ofOctets a
    let two := Text.ofOctets b
    let changes := changesOf m one two
    let front (old new : String) : Octets :=
      told [old.toList, label m 0 nameA] ++ told [new.toList, label m 1 nameB]
    let unended : Octets :=
      let name (text : Text) (name : Octets) : Octets :=
        if text.open_ then t.complaint (name ++ ": No newline at end of file\n".toList) else []
      name one nameA ++ name two nameB
    let output := match m.style with
      | .normal => normal m one two changes
      | .unified n => front "--- " "+++ " ++ unified m n one two changes
      | .context n => front "*** " "--- " ++ inContext m n one two changes
      | .commands => commands two changes
      | .forward => forward two changes
      | .counted => counted two changes
      | .beside => beside m one two changes
      | .merged name => merged name one two changes
      | .brief => differ.output
    let errors := if (m.style = .commands || m.style = .forward) && !changes.isEmpty then unended else []
    match m.style with
    | .beside | .merged _ => { output, status := if changes.isEmpty then 0 else 1 }
    | _ => if changes.isEmpty then same else { output, errors, status := if errors.isEmpty then 1 else 2 }

/-- A path made of a directory and a name in it. -/
def inside (directory name : Octets) : Octets :=
  if directory.getLast? = some '/' then directory ++ name else directory ++ '/' :: name

/-- Compares what two paths lead to, where directories are at most so deep. -/
def comparePaths (t : Task) (m : Manner) : Nat → Bool → Octets → Octets → Verdict
  | 0, _, _, _ => {}
  | depth + 1, isTop, pathA, pathB =>
    let look (path : Octets) : Except SystemError (Option Octets) :=
      if t.isInput path then .ok (some t.input)
      else
        match t.contents path with
        | .ok text => .ok (some text)
        | .error e => if e = FileTree.isADirectory then .ok none else .error e
    let failure (path : Octets) (e : SystemError) : Verdict :=
      { errors := t.complaint (path ++ ": ".toList ++ reasonOf e), status := 2 }
    let absent := m.newFiles
    let missing (e : SystemError) : Bool := e = FileTree.notFound
    match look pathA, look pathB with
    | .error e, .error f => (failure pathA e).append (failure pathB f)
    | .error e, .ok text =>
      if absent && missing e then compareTexts t m pathA pathB [] (text.getD []) else failure pathA e
    | .ok text, .error e =>
      if absent && missing e then compareTexts t m pathA pathB (text.getD []) [] else failure pathB e
    | .ok (some a), .ok (some b) =>
      let v := compareTexts t m pathA pathB a b
      if isTop || v.output.isEmpty || m.style = .brief || v.output.head? = some 'B' ||
          v.status = 0 then v
      else
        let line := Octets.joined [' '] (t.name :: m.options ++ [pathA, pathB])
        { v with output := line ++ '\n' :: v.output }
    | .ok (some _), .ok none =>
      if isTop then comparePaths t m depth true pathA (inside pathB (Path.lastStep pathA))
      else
        { output := "File ".toList ++ pathA ++ " is a regular file while file ".toList ++ pathB ++
            " is a directory\n".toList, status := 1 }
    | .ok none, .ok (some _) =>
      if isTop then comparePaths t m depth true (inside pathA (Path.lastStep pathB)) pathB
      else
        { output := "File ".toList ++ pathA ++ " is a directory while file ".toList ++ pathB ++
            " is a regular file\n".toList, status := 1 }
    | .ok none, .ok none =>
      if !isTop && !m.recursive then
        { output := "Common subdirectories: ".toList ++ pathA ++ " and ".toList ++ pathB ++ ['\n'] }
      else
        let names (path : Octets) : List Octets :=
          ((t.files.node path).toOption.map Files.names).getD []
        let one := names pathA
        let two := names pathB
        let all := ((one ++ two).eraseDups).mergeSort Octets.atMost
        all.foldl (fun v name =>
          let only (path : Octets) : Verdict :=
            { output := "Only in ".toList ++ path ++ ": ".toList ++ name ++ ['\n'], status := 1 }
          let w := match one.contains name, two.contains name, m.newFiles with
            | true, false, false => only pathA
            | false, true, false => only pathB
            | _, _, _ => comparePaths t m depth false (inside pathA name) (inside pathB name)
          v.append w) ({} : Verdict)

/-! ## The tool -/

abbrev Refusal := Octets

/-- The number of lines around changes that an option says. -/
def contextOf (text : Octets) : Except Refusal Nat :=
  match text with
  | [] => .ok 3
  | text =>
    match Octets.decimal? text with
    | some n => .ok n
    | none => .error ("invalid context length '".toList ++ text ++ "'".toList)

def styleOf (a : Arguments) : Except Refusal Style := do
  let one (option : Char × Octets) : Except Refusal (Option Style) :=
    match option with
    | ('u', _) => .ok (some (.unified 3))
    | ('c', _) => .ok (some (.context 3))
    | ('U', value) => (contextOf value).map fun n => some (.unified n)
    | ('C', value) => (contextOf value).map fun n => some (.context n)
    | ('e', _) => .ok (some .commands)
    | ('f', _) => .ok (some .forward)
    | ('n', _) => .ok (some .counted)
    | ('y', _) => .ok (some .beside)
    | ('M', _) => .ok (some .normal)
    | ('D', value) => .ok (some (.merged value))
    | _ => .ok none
  let kind : Style → Nat
    | .normal => 0
    | .unified _ => 1
    | .context _ => 2
    | .commands => 3
    | .forward => 4
    | .counted => 5
    | .brief => 6
    | .beside => 7
    | .merged _ => 8
  let found ← a.options.mapM one
  let styles := found.filterMap id
  let widest (s t : Style) : Style := match s, t with
    | .unified m, .unified n => .unified (max m n)
    | .context m, .context n => .context (max m n)
    | s, _ => s
  match styles with
  | [] => pure (if a.has 'q' then .brief else if a.has 'p' then .context 3 else .normal)
  | first :: others =>
    if others.any fun other => kind other != kind first then
      throw "conflicting output style options".toList
    else
      let style := others.foldl widest first
      pure (if a.has 'q' then .brief else style)

def mannerOf (t : Task) (a : Arguments) : Except Refusal Manner := do
  let style ← styleOf a
  let width ← match a.value? 'W' with
    | none => pure 130
    | some text =>
      match Octets.decimal? text with
      | some (n + 1) => pure (n + 1)
      | _ => throw ("invalid width '".toList ++ text ++ "'".toList)
  let ignored ← (a.values 'I').mapM fun text =>
    (Expression.ofText { forgiving := true } text).mapError fun mistake => mistake.message.toList
  pure
    { style, width, ignored, minimal := a.has 'd', ignoresEmpty := a.has 'B', tabbed := a.has 'T'
      tolerance :=
        { letters := a.has 'i', amounts := a.has 'b', blanks := a.has 'w', trailing := a.has 'Z'
          tabs := a.has 'E', returns := a.has '\x02' }
      expanded := a.has 't', leftOnly := a.has '\x03', changedOnly := a.has '\x04'
      labels := a.values 'L', tellsSame := a.has 's', asText := a.has 'a', recursive := a.has 'r'
      newFiles := a.has 'N', options := t.arguments.filter fun w => !a.operands.contains w }

def known : Known :=
  { plain := "abBcdeEfilnNpqrstTuvwyZ0123456789", valued := "CDFILSUWxX", optional := "\x05"
    words := [("text", 'a'), ("ignore-space-change", 'b'), ("ignore-blank-lines", 'B'),
      ("context", '\x06'), ("minimal", 'd'), ("ed", 'e'), ("ignore-tab-expansion", 'E'),
      ("forward-ed", 'f'), ("ignore-case", 'i'), ("ignore-matching-lines", 'I'), ("paginate", 'l'),
      ("label", 'L'), ("rcs", 'n'), ("new-file", 'N'), ("show-c-function", 'p'), ("brief", 'q'),
      ("recursive", 'r'), ("report-identical-files", 's'), ("starting-file", 'S'),
      ("expand-tabs", 't'), ("initial-tab", 'T'), ("unified", '\x07'), ("ignore-all-space", 'w'),
      ("width", 'W'), ("exclude", 'x'), ("exclude-from", 'X'), ("side-by-side", 'y'),
      ("ignore-trailing-space", 'Z'), ("normal", 'M'), ("ifdef", 'D'),
      ("strip-trailing-cr", '\x02'), ("left-column", '\x03'), ("suppress-common-lines", '\x04'),
      ("color", '\x05'), ("speed-large-files", '\x08'), ("show-function-line", 'F')] }

/-- Arguments where a number of lines behind a word stands for the letter with a value. -/
def spelled (argument : Octets) : Octets :=
  let swap (word : String) (short bare : Octets) : Option Octets :=
    if argument = word.toList then some bare
    else if (word ++ "=").toList.isPrefixOf argument then some (short ++ argument.drop (word.length + 1))
    else none
  ((swap "--unified" "-U".toList "-u".toList).or
    (swap "--context" "-C".toList "-c".toList)).getD argument

def refuses (t : Task) (message : Octets) (status : Nat) : Report :=
  { errors := t.complaint message ++ t.complaint ("Try '".toList ++ t.name ++
      " --help' for more information.".toList)
    left := some t.input, status }

def operandMisuse? (t : Task) (least most : Nat) (operands : List Octets) : Option Octets :=
  if operands.length < least then
    some ("missing operand after '".toList ++ (operands.getLast?.getD t.name) ++ "'".toList)
  else if most < operands.length then
    some ("extra operand '".toList ++ (operands.getD most []) ++ "'".toList)
  else none

def compare (t : Task) (m : Manner) (operands : List Octets) : Report :=
  let one := operands.headD []
  let two := operands.getD 1 []
  let left := if operands.any t.isInput then none else some t.input
  let v : Verdict :=
    if one = two then
      match t.isInput one, t.contents one with
      | false, .error e =>
        if e = FileTree.isADirectory then {}
        else
          let told := t.complaint (one ++ ": ".toList ++ reasonOf e)
          { errors := told ++ told, status := 2 }
      | isInput, found =>
        let text := if isInput then t.input else found.toOption.getD []
        compareTexts t m one two text text
    else comparePaths t m 64 true one two
  { output := v.output, errors := v.errors, left, status := v.status }

def difference : Tool := fun t =>
  let t : Task := { t with arguments := t.arguments.map spelled }
  t.withArgumentsOr known (fun message => refuses t message 2) fun a =>
    match mannerOf t a, operandMisuse? t 2 2 a.operands with
    | .error message, _ => refuses t message 2
    | .ok _, some message => refuses t message 2
    | .ok m, none => compare t m a.operands

def sideBySide : Tool := fun t =>
  t.withArgumentsOr
      { plain := "aBbdEHilstvWZ", valued := "Iow"
        words := [("ignore-space-change", 'b'), ("ignore-blank-lines", 'B'), ("minimal", 'd'),
          ("ignore-tab-expansion", 'E'), ("ignore-case", 'i'), ("left-column", 'l'),
          ("suppress-common-lines", 's'), ("expand-tabs", 't'), ("ignore-all-space", 'W'),
          ("width", 'w'), ("text", 'a'), ("output", 'o'), ("ignore-trailing-space", 'Z')] }
      (fun message => refuses t message 2) fun a =>
    let own : Arguments :=
      { options := a.options.filterMap (fun (letter, value) =>
          match letter with
          | 'l' => some ('\x03', value)
          | 's' => some ('\x04', value)
          | 'W' => some ('w', value)
          | 'w' => some ('W', value)
          | letter => some (letter, value)) ++ [('y', [])]
        operands := a.operands }
    let helper : Task := { t with name := "diff".toList }
    match operandMisuse? t 2 2 a.operands, mannerOf t own with
    | some message, _ => refuses t message 2
    | none, .error message => refuses helper message 2
    | none, .ok m => compare helper m a.operands

def threeWay : Tool := fun t =>
  t.withArgumentsOr
      { plain := "aeEmAxX3iTv", valued := "L", words := [("text", 'a'), ("ed", 'e'), ("merge", 'm')] }
      (fun message => refuses t message 2) fun a =>
    match operandMisuse? t 3 3 a.operands with
    | some message => refuses t message 2
    | none => { left := some t.input }

end CommandChains.Machine.Changes
