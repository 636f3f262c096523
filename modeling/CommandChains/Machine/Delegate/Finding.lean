import CommandChains.Machine.Delegate.Collection
import CommandChains.Machine.Expression
import CommandChains.Machine.Quotation
import CommandChains.Machine.Tool.Listing

/-!
# Finding files

A program that goes through directories and asks of every file whether a query holds for
it. Queries can be denied and combined; some do something, such as printing the path of the
file or starting a command.
-/

namespace CommandChains.Machine.Finding

open FileTree Listing

/-! ## Queries -/

/-- How a number is compared with one that is asked for. -/
inductive Quantity where
  | exactly (n : Int)
  | more (n : Int)
  | less (n : Int)
  deriving DecidableEq, Repr

def Quantity.holds (q : Quantity) (m : Int) : Bool :=
  match q with
  | .exactly n => m == n
  | .more n => decide (n < m)
  | .less n => decide (m < n)

inductive Outlet where
  | output
  | file (path : Octets)
  deriving DecidableEq, Repr

inductive Query where
  | constant (holds : Bool)
  | name (pattern : Octets) (ignoreCase : Bool)
  | path (pattern : Octets) (ignoreCase : Bool)
  | target (pattern : Octets) (ignoreCase : Bool)
  | expression (e : Expression) (ignoreCase : Bool)
  | kind (letters : Octets) (far : Bool)
  | size (q : Quantity) (unit : Nat)
  | empty
  /-- Permissions, and a sign that says how they are compared. -/
  | permission (mode : Nat) (sign : Char)
  | newer (stamp : Int)
  | age (q : Quantity) (unit : Nat)
  | names (q : Quantity)
  | number (q : Quantity)
  | usable (letter : Char)
  | same (steps : List String)
  | print (outlet : Outlet) (end_ : Char)
  | printFormat (outlet : Outlet) (format : Octets)
  | listed (outlet : Outlet)
  | run (command : List Octets) (inPlace asks : Bool)
  /-- A command for many files at once, by its number. -/
  | runAll (number : Nat) (command : List Octets) (inPlace : Bool)
  | delete
  | prune
  | quit
  | no (q : Query)
  | both (a b : Query)
  | either (a b : Query)
  | then_ (a b : Query)

/-- Whether a query does something, so that nothing else is to be done. -/
def Query.acts : Query → Bool
  | print _ _ | printFormat _ _ | listed _ | run _ _ _ | runAll _ _ _ | delete | quit => true
  | no q => q.acts
  | both a b | either a b | then_ a b => a.acts || b.acts
  | _ => false

structure Visit where
  path : Octets
  start : Octets
  depth : Nat
  node : Node
  /-- The node itself, if that is a link which was followed. -/
  own : Node

structure Progress where
  sequel : Delegate.Sequel
  failed : Bool := false
  ended : Bool := false
  pruned : Bool := false
  waiting : List (Nat × List Octets) := []

structure Manner where
  least : Nat := 0
  most : Option Nat := none
  late : Bool := false
  follows : Bool := false
  followsFirst : Bool := false
  deriving DecidableEq, Repr

namespace Progress

def complains (p : Progress) (t : Task) (message : Octets) : Progress :=
  { p with sequel := p.sequel.prints .errors (t.complaint message), failed := true }

def cannotUse (p : Progress) (t : Task) (path : Octets) (e : SystemError) : Progress :=
  p.complains t (Octets.shellQuoted path ++ ": ".toList ++ reasonOf e)

def prints (p : Progress) (outlet : Outlet) (text : Octets) : Progress :=
  match outlet with
  | .output => { p with sequel := p.sequel.prints .output text }
  | .file path =>
    match openPath p.sequel.files { empties := false } path with
    | .ok (.output, _) => { p with sequel := p.sequel.prints .output text }
    | .ok (.errors, _) => { p with sequel := p.sequel.prints .errors text }
    | .ok (.file outlet, files) =>
      { p with sequel := p.sequel.withFiles (files.append outlet text) }
    | .error _ => p

end Progress

/-! ## What is printed -/

/-- The last step of a path, without slashes at its end. -/
def lastStep (path : Octets) : Octets :=
  let trimmed := (path.reverse.dropWhile (· == '/')).reverse
  if trimmed.isEmpty then path.take 1 else (trimmed.reverse.takeWhile (· != '/')).reverse

def directoryOf (path : Octets) : Octets :=
  let trimmed := (path.reverse.dropWhile (· == '/')).reverse
  if trimmed.contains '/' then ((trimmed.reverse.dropWhile (· != '/')).drop 1).reverse
  else ['.']

def letterOf (node : Node) : Char :=
  match Entry.letter node with
  | '-' => 'f'
  | c => c

def field (f : Files) (v : Visit) (letter : Char) : Option Octets :=
  let m := Calendar.momentOfStamp (f.stampOf v.node)
  match letter with
  | 'p' => some v.path
  | 'f' => some (lastStep v.path)
  | 'h' => some (directoryOf v.path)
  | 'H' => some v.start
  | 'P' =>
    let rest := v.path.drop v.start.length
    some (if rest.head? = some '/' then rest.drop 1 else rest)
  | 'd' => some (Octets.ofNat v.depth)
  | 's' => some (Octets.ofNat (f.sizeOf v.node))
  | 'k' => some (Octets.ofNat (blocksOf f v.node))
  | 'b' => some (Octets.ofNat (2 * blocksOf f v.node))
  | 'm' => some (Nat.toDigits 8 (f.modeOf v.node))
  | 'M' => some (Entry.letter v.node :: Permission.letters (f.modeOf v.node))
  | 'n' => some (Octets.ofNat (namesOf f v.node))
  | 'u' | 'g' => some "root".toList
  | 'U' | 'G' => some ['0']
  | 'y' => some [letterOf v.own]
  | 'Y' =>
    match v.own with
    | .link _ =>
      match f.node v.path with
      | .ok node => some [letterOf node]
      | .error e => some [if e = tooManyLinks then 'L' else if e = notFound then 'N' else '?']
    | node => some [letterOf node]
  | 'l' =>
    match v.own with
    | .link path => some path.toList
    | _ => some []
  | 'i' => some ['1']
  | 'D' => some ['1']
  | 'F' => some "overlay".toList
  | 'S' => some ['1']
  | 't' | 'a' | 'c' => some (Calendar.shown "%a %b %e %H:%M:%S.%N0 %Y".toList m)
  | _ => none

/-- What stands behind a backslash in a format: a text, and how much of it there was. -/
def escape (text : Octets) : Option (Octets × Octets) :=
  match text with
  | 'a' :: rest => some (['\x07'], rest)
  | 'b' :: rest => some (['\x08'], rest)
  | 'f' :: rest => some (['\x0c'], rest)
  | 'n' :: rest => some (['\n'], rest)
  | 'r' :: rest => some (['\r'], rest)
  | 't' :: rest => some (['\t'], rest)
  | 'v' :: rest => some (['\x0b'], rest)
  | '\\' :: rest => some (['\\'], rest)
  | text =>
    match Octets.digitsOf 8 3 text with
    | [] => none
    | digits => some ([Escapes.byteOf 8 digits], text.drop digits.length)

/-- A text brought to the width that flags and digits ask for. -/
def fitted (flags : Octets) (text : Octets) (isNumber : Bool) : Octets :=
  let left := flags.contains '-'
  let digits := flags.dropWhile fun c => c == '-' || c == '0' || c == '+' || c == ' ' || c == '#'
  let width := Octets.decimal (digits.takeWhile Char.isDigit)
  let rest := digits.dropWhile Char.isDigit
  let text := match rest with
    | '.' :: limit => if isNumber then text else text.take (Octets.decimal limit)
    | _ => text
  let zeros := isNumber && !left && (flags.takeWhile fun c => !c.isDigit || c == '0').contains '0'
  if left then Octets.filled width text else Octets.padded width text (if zeros then '0' else ' ')

/-- What a format shows of a file, in at most so many parts. -/
def formatted (f : Files) (v : Visit) : Nat → Octets → Octets
  | 0, _ => []
  | _, [] => []
  | rounds + 1, '\\' :: rest =>
    if rest.head? = some 'c' then []
    else
      match escape rest with
      | some (text, rest) => text ++ formatted f v rounds rest
      | none =>
        match rest with
        | [] => ['\\']
        | c :: rest => '\\' :: c :: formatted f v rounds rest
  | rounds + 1, '%' :: rest =>
    let flags := rest.takeWhile fun c => c.isDigit || "-+ #.".contains c
    match rest.drop flags.length with
    | [] => ['%']
    | '%' :: rest => '%' :: formatted f v rounds rest
    | c :: rest =>
      if "ABCT".contains c then
        let m := Calendar.momentOfStamp (f.stampOf v.node)
        match rest with
        | '@' :: rest =>
          fitted flags (Octets.ofInt m.seconds ++ ".0000000000".toList) false ++
            formatted f v rounds rest
        | '+' :: rest =>
          fitted flags (Calendar.shown "%Y-%m-%d+%H:%M:%S.0000000000".toList m) false ++
            formatted f v rounds rest
        | 'S' :: rest =>
          fitted flags (Calendar.shown "%S.0000000000".toList m) false ++ formatted f v rounds rest
        | 'T' :: rest =>
          fitted flags (Calendar.shown "%H:%M:%S.0000000000".toList m) false ++
            formatted f v rounds rest
        | k :: rest => fitted flags (Calendar.shown ['%', k] m) false ++ formatted f v rounds rest
        | [] => []
      else
        match field f v c with
        | some text => fitted flags text ("dskbnUGmi".contains c) ++ formatted f v rounds rest
        | none => '%' :: (flags ++ c :: formatted f v rounds rest)
  | rounds + 1, c :: rest => c :: formatted f v rounds rest

/-- What is to be said about a format before anything is shown, at most so many times. -/
def warnings (t : Task) : Nat → Octets → Except Octets Octets
  | 0, _ => .ok []
  | _, [] => .ok []
  | rounds + 1, '\\' :: rest =>
    if rest.head? = some 'c' then .ok []
    else
      match escape rest, rest with
      | some (_, rest), _ => warnings t rounds rest
      | none, [] => .ok (t.complaint "warning: escape \x60\\' followed by nothing at all".toList)
      | none, c :: rest =>
        (warnings t rounds rest).map fun more =>
          t.complaint ("warning: unrecognized escape \x60\\".toList ++ c :: ['\x27']) ++ more
  | rounds + 1, '%' :: rest =>
    let flags := rest.takeWhile fun c => c.isDigit || "-+ #.".contains c
    match rest.drop flags.length with
    | [] => .error "error: % at end of format string".toList
    | c :: rest =>
      if c = '%' then warnings t rounds rest
      else if "ABCT".contains c then
        if rest.isEmpty then .error "error: % at end of format string".toList
        else warnings t rounds (rest.drop 1)
      else if "pfhHPdskbmMnugUGyYliDFStacZ".contains c then warnings t rounds rest
      else
        (warnings t rounds rest).map fun more =>
          t.complaint ("warning: unrecognized format directive \x60%".toList ++ flags ++ c ::
            ['\x27']) ++ more
  | rounds + 1, _ :: rest => warnings t rounds rest

/-! ## Asking -/

def fitsText (ignoreCase : Bool) (pattern text : Octets) : Bool :=
  Shell.fits { ignoreCase } (Shell.Marked.active pattern) text

/-- The words of a command with a path in the place of every mark. -/
def commandFor (command : List Octets) (path : Octets) : List Octets :=
  command.map fun word => Delegate.inPlaceOf "\x7b\x7d".toList path (word.length + 1) word

/-- The path of a file as seen from the directory that it is in, and that directory. -/
def inOwnDirectory (path : Octets) : Octets × Octets :=
  ("./".toList ++ lastStep path, directoryOf path)

/-- Starts a command, in the directory that a path goes through if that is asked for. -/
def runCommand (t : Task) (start : Start) (p : Progress) (inPlace : Option Octets)
    (command : List Octets) : Progress × Bool :=
  let here := p.sequel.files
  let there := match inPlace with
    | some directory => (here.goTo directory).toOption.getD here
    | none => here
  let own : Delegate.Sequel := { p.sequel with files := there }
  let (s, done) := own.run t start command fun name reason =>
    Octets.shellQuoted name ++ ": ".toList ++ reason
  ({ p with sequel := { s with files := here.seenAfter s.files } }, done.status = 0)

def isOfKind (f : Files) (v : Visit) (letters : Octets) (far : Bool) : Bool :=
  let node := if far then
      match v.node with
      | .link _ => (f.node v.path).toOption.getD v.node
      | node => if v.own.isLink then v.own else node
    else v.node
  letters.contains (letterOf node)

def ageOf (f : Files) (node : Node) : Int :=
  let seconds := (Calendar.momentOfStamp (f.stampOf node)).seconds
  Calendar.present.seconds - seconds

/-- Whether a query holds for a file, and what it has done. -/
def ask (t : Task) (start : Start) (m : Manner) (v : Visit) : Query → Progress → Bool × Progress
  | .constant holds, p => (holds, p)
  | .name pattern ignoreCase, p => (fitsText ignoreCase pattern (lastStep v.path), p)
  | .path pattern ignoreCase, p => (fitsText ignoreCase pattern v.path, p)
  | .target pattern ignoreCase, p =>
    match v.node with
    | .link path => (fitsText ignoreCase pattern path.toList, p)
    | _ => (false, p)
  | .expression e ignoreCase, p =>
    ((e.stopsAt { ignoreCase } v.path.toArray 0).contains v.path.length, p)
  | .kind letters far, p => (isOfKind p.sequel.files v letters far, p)
  | .size q unit, p => (q.holds ((p.sequel.files.sizeOf v.node + unit - 1) / unit : Nat), p)
  | .empty, p =>
    (match v.node with
      | .directory _ entries => entries.isEmpty
      | .link _ | .device _ => false
      | node => (p.sequel.files.textOf node).isEmpty, p)
  | .permission mode sign, p =>
    let own := p.sequel.files.modeOf v.node
    (match sign with
      | '-' => Nat.land own mode == mode
      | '/' => mode == 0 || Nat.land own mode != 0
      | _ => own == mode, p)
  | .newer stamp, p => (decide (stamp < p.sequel.files.stampOf v.node), p)
  | .age q unit, p => (q.holds (ageOf p.sequel.files v.node / unit), p)
  | .names q, p => (q.holds (namesOf p.sequel.files v.node), p)
  | .number q, p => (q.holds 0, p)
  | .usable letter, p =>
    (letter != 'x' || v.node.isDirectory || p.sequel.files.isRunnable v.node, p)
  | .same steps, p =>
    (((p.sequel.files.placeOfLink v.path).toOption.any fun place => place.steps == steps), p)
  | .print outlet end_, p => (true, p.prints outlet (v.path ++ [end_]))
  | .printFormat outlet format, p =>
    (true, p.prints outlet (formatted p.sequel.files v (format.length + 1) format))
  | .listed outlet, p =>
    let view : View := { form := .long }
    let line := (view.long p.sequel.files [⟨v.path, v.node, none⟩] false).1
    (true, p.prints outlet ("        1      ".toList ++
      Octets.padded 2 (Octets.ofNat (blocksOf p.sequel.files v.node)) ++ ' ' :: line))
  | .run command inPlace asks, p =>
    let (path, directory) := if inPlace then
      ((inOwnDirectory v.path).1, some (inOwnDirectory v.path).2) else (v.path, none)
    if asks then
      let question := "< ".toList ++ command.headD [] ++ " ... ".toList ++ v.path ++ " > ? ".toList
      let answer := p.sequel.input.takeWhile (· != '\n')
      let s := { p.sequel.prints .errors question with
        input := p.sequel.input.drop (answer.length + 1) }
      let p := { p with sequel := s }
      if answer.head? = some 'y' || answer.head? = some 'Y' then
        let (p, holds) := runCommand t start p directory (commandFor command path)
        (holds, p)
      else (false, p)
    else
      let (p, holds) := runCommand t start p directory (commandFor command path)
      (holds, p)
  | .runAll number command inPlace, p =>
    if inPlace then
      let (path, directory) := inOwnDirectory v.path
      let (p, holds) := runCommand t start p (some directory) (command ++ [path])
      (true, if holds then p else { p with failed := true })
    else
      let paths := (p.waiting.lookup number).getD []
      (true, { p with
        waiting := (number, paths ++ [v.path]) :: p.waiting.filter fun entry => entry.1 != number })
  | .delete, p =>
    if v.path = ['.'] then (true, p)
    else
      let f := p.sequel.files
      match if v.node.isDirectory then f.removeDirectory v.path else f.remove v.path with
      | .ok files => (true, { p with sequel := p.sequel.withFiles files })
      | .error e =>
        (false, p.complains t ("cannot delete ".toList ++ Octets.shellQuoted v.path ++ ": ".toList ++
          reasonOf e))
  | .prune, p => (true, { p with pruned := true })
  | .quit, p => (true, { p with ended := true })
  | .no q, p =>
    let (holds, p) := ask t start m v q p
    (!holds, p)
  | .both a b, p =>
    let (holds, p) := ask t start m v a p
    if holds && !p.ended then ask t start m v b p else (false, p)
  | .either a b, p =>
    let (holds, p) := ask t start m v a p
    if holds || p.ended then (true, p) else ask t start m v b p
  | .then_ a b, p =>
    let (_, p) := ask t start m v a p
    if p.ended then (true, p) else ask t start m v b p

/-! ## The way -/

/-- Goes through a path and all that is below it, so many directories deep at most. -/
def go (t : Task) (start : Start) (m : Manner) (q : Query) :
    Nat → Octets → Octets → Nat → Progress → Progress
  | 0, _, _, _, p => p
  | fuel + 1, first, path, depth, p =>
    if p.ended then p
    else
      let f := p.sequel.files
      let own := f.placeOfLink path
      let far := f.place path
      let follows := m.follows || (depth = 0 && (m.followsFirst || path.getLast? = some '/'))
      let place : Except SystemError Place := match own, far with
        | .ok o, .ok x => if follows then .ok x else .ok o
        | .ok o, .error e => if path.getLast? = some '/' then .error e else .ok o
        | .error e, _ => .error e
      match place with
      | .error e => p.cannotUse t path e
      | .ok place =>
        let v : Visit :=
          { path, start := first, depth, node := place.node
            own := ((own.toOption.map Place.node).getD place.node) }
        let asked (p : Progress) : Progress :=
          if depth < m.least then p else (ask t start m v q { p with pruned := false }).2
        let p := if m.late then p else asked p
        let goes := place.node.isDirectory && !(p.pruned && !m.late && m.least ≤ depth) &&
          m.most.all (depth < ·) && !p.ended
        let p := if goes then
            if (p.sequel.files.place path).toOption.isNone then p.cannotUse t path notFound
            else
              place.node.entries.foldl
                (fun p entry =>
                  let next := if path.getLast? = some '/' then path ++ entry.1.toList
                    else path ++ '/' :: entry.1.toList
                  if (p.sequel.files.placeOfLink next).toOption.isNone then p
                  else go t start m q fuel first next (depth + 1) p) p
          else p
        if m.late && !p.ended then asked p else p

/-! ## Reading queries -/

inductive Item where
  | query (name : Octets) (q : Query)
  | not_ (name : Octets)
  | and_ (name : Octets)
  | or_ (name : Octets)
  | comma (name : Octets)
  | open_ (name : Octets)
  | close_

structure Config where
  manner : Manner := {}
  form : Option Expression.Form := none
  commands : Nat := 0
  errors : Octets := []
  outlets : List Octets := []

def quantity? (text : Octets) : Option Quantity :=
  match text with
  | '+' :: digits => (Octets.decimal? digits).map fun n => .more n
  | '-' :: digits => (Octets.decimal? digits).map fun n => .less n
  | digits => (Octets.decimal? digits).map fun n => .exactly n

/-- The size that a text asks for, or what is wrong with it. -/
def readSize (text : Octets) : Except Octets Query :=
  let units := [('c', 1), ('w', 2), ('b', 512), ('k', 1024), ('M', 1048576), ('G', 1073741824)]
  match text.getLast? with
  | none => .error "invalid null argument to -size".toList
  | some c =>
    match units.lookup c with
    | some unit =>
      match quantity? text.dropLast with
      | some q => .ok (.size q unit)
      | none => .error ("Invalid argument \x60".toList ++ text ++ "' to -size".toList)
    | none =>
      if c.isDigit then
        match quantity? text with
        | some q => .ok (.size q 512)
        | none => .error ("Invalid argument \x60".toList ++ text ++ "' to -size".toList)
      else .error ("invalid -size type \x60".toList ++ c :: ['\x27'])

/-- The kinds that a text lists, or what is wrong with it. -/
def readKinds (name text : Octets) : Except Octets Octets :=
  let rec go : Octets → Octets → Except Octets Octets
    | found, [] => .ok found
    | found, c :: rest =>
      if !"bcdpflsD".contains c then
        .error ("Unknown argument to ".toList ++ name ++ ": ".toList ++ [c])
      else if found.contains c then
        .error ("Duplicate file type '".toList ++ c ::
          "' in the argument list to ".toList ++ name ++ ['.'])
      else
        match rest with
        | [] => .ok (found ++ [c])
        | ',' :: [] =>
          .error ("Last file type in list argument to ".toList ++ name ++
            " is missing, i.e., list is ending on: ','".toList)
        | ',' :: rest => go (found ++ [c]) rest
        | _ =>
          .error ("Must separate multiple arguments to ".toList ++ name ++ " using: ','".toList)
  if text.isEmpty then
    .error ("Arguments to ".toList ++ name ++ " should contain at least one letter".toList)
  else go [] text

/-- The expression that a text writes, or what is wrong with it. -/
def readExpression (c : Config) (text : Octets) : Except Octets Expression :=
  let read := match c.form with
    | none => Expression.ofText { forgiving := true } (Expression.basicOf text)
    | some form => Expression.ofText form text
  read.mapError fun mistake =>
    "failed to compile regular expression ".toList ++ Octets.shellQuoted text ++ ": ".toList ++
      (if mistake = .openBracket || mistake = .emptyBracket then "Invalid regular expression"
      else mistake.message).toList

def formNames : List (String × Option Expression.Form) :=
  [("findutils-default", none), ("ed", some {}), ("emacs", none), ("gnu-awk", some { extended := true }),
    ("grep", some { forgiving := true }), ("posix-awk", some { extended := true }), ("awk", some { extended := true }),
    ("posix-basic", some {}),
    ("posix-egrep", some { extended := true, forgiving := true }),
    ("egrep", some { extended := true, forgiving := true }), ("posix-extended", some { extended := true }),
    ("posix-minimal-basic", some {}), ("sed", some {})]

/-- The command that words begin with, through the word that ends it, and what is left. -/
def readCommand (name : Octets) (mayCollect : Bool) :
    List Octets → List Octets → Except Octets (List Octets × Bool × List Octets)
  | _, [] => .error ("missing argument to \x60".toList ++ name ++ ['\x27'])
  | found, word :: rest =>
    if word = [';'] then
      if found.isEmpty then
        .error ("invalid argument \x60".toList ++ word ++ "' to \x60".toList ++ name ++ ['\x27'])
      else .ok (found.reverse, false, rest)
    else if word = ['+'] && mayCollect && found.head? = some "\x7b\x7d".toList then
      if 1 < (found.filter fun word => Octets.occursIn "\x7b\x7d".toList word).length then
        .error ("Only one instance of \x7b\x7d is supported with ".toList ++ name ++ " ... +".toList)
      else .ok ((found.drop 1).reverse, true, rest)
    else readCommand name mayCollect (word :: found) rest

def readQuery (t : Task) (c : Config) (name : Octets) (rest : List Octets) :
    Except Octets (Query × Config × List Octets) :=
  let missing : Octets := "missing argument to \x60".toList ++ name ++ ['\x27']
  let invalid (value : Octets) : Octets :=
    "invalid argument \x60".toList ++ value ++ "' to \x60".toList ++ name ++ ['\x27']
  let value (work : Octets → Except Octets (Query × Config)) :
      Except Octets (Query × Config × List Octets) :=
    match rest with
    | [] => .error missing
    | value :: rest => (work value).map fun (q, c) => (q, c, rest)
  let alone (q : Query) : Except Octets (Query × Config × List Octets) := .ok (q, c, rest)
  let plain (make : Octets → Query) := value fun text => .ok (make text, c)
  let count (make : Quantity → Query) := value fun text =>
    match quantity? text with
    | some q => .ok (make q, c)
    | none => .error (invalid text)
  let depthOf (set : Nat → Manner → Manner) := value fun text =>
    match Octets.decimal? text with
    | some n => .ok (.constant true, { c with manner := set n c.manner })
    | none =>
      .error ("Expected a positive decimal integer argument to ".toList ++ name ++
        ", but got ".toList ++ Octets.shellQuoted text)
  let outlet (make : Outlet → Query) := value fun path =>
    .ok (make (.file path), { c with outlets := c.outlets ++ [path] })
  let formatOf (out : Outlet) (format : Octets) (c : Config) : Except Octets (Query × Config) :=
    (warnings t (format.length + 1) format).map fun errors =>
      (.printFormat out format, { c with errors := c.errors ++ errors })
  let command (inPlace asks : Bool) : Except Octets (Query × Config × List Octets) :=
    (readCommand name (!asks) [] rest).map fun (words, all, rest) =>
      if all then
        (.runAll c.commands words inPlace, { c with commands := c.commands + 1 }, rest)
      else (.run words inPlace asks, c, rest)
  match String.ofList name with
  | "-name" => plain (.name · false)
  | "-iname" => plain (.name · true)
  | "-path" | "-wholename" => plain (.path · false)
  | "-ipath" | "-iwholename" => plain (.path · true)
  | "-lname" => plain (.target · false)
  | "-ilname" => plain (.target · true)
  | "-regex" => value fun text =>
      (readExpression c text).map fun e => (.expression e false, c)
  | "-iregex" => value fun text =>
      (readExpression c text).map fun e => (.expression e true, c)
  | "-regextype" => value fun text =>
      match formNames.lookup (String.ofList text) with
      | some form => .ok (.constant true, { c with form })
      | none =>
        .error ("Unknown regular expression type ".toList ++ Octets.shellQuoted text ++
          "; valid types are ".toList ++ Octets.joined ", ".toList
            (formNames.map fun entry => Octets.shellQuoted entry.1.toList) ++ ['.'])
  | "-type" => value fun text => (readKinds name text).map fun letters => (.kind letters false, c)
  | "-xtype" => value fun text => (readKinds name text).map fun letters => (.kind letters true, c)
  | "-size" => value fun text => (readSize text).map fun q => (q, c)
  | "-empty" => alone .empty
  | "-perm" => value fun text =>
      let (sign, mode) := match text with
        | '-' :: mode => ('-', mode)
        | '/' :: mode => ('/', mode)
        | mode => (' ', mode)
      match Permission.changes? mode with
      | some changes => .ok (.permission (Permission.applied 0 false 0 changes) sign, c)
      | none => .error ("invalid mode ".toList ++ Octets.shellQuoted text)
  | "-newer" | "-anewer" | "-cnewer" | "-newermm" => value fun path =>
      match t.files.node path with
      | .ok node => .ok (.newer (t.files.stampOf node), c)
      | .error e => .error (Octets.shellQuoted path ++ ": ".toList ++ reasonOf e)
  | "-newermt" | "-newerat" | "-newerct" => value fun text =>
      match Calendar.momentOf? (Calendar.clockOf t.environment) text with
      | some m =>
        .ok (.newer (if m.seconds < Calendar.present.seconds then Calendar.stampAt m.seconds
          else 1000000000), c)
      | none =>
        .error ("I cannot figure out how to interpret ".toList ++ Octets.shellQuoted text ++
          " as a date or time".toList)
  | "-mtime" | "-atime" | "-ctime" => count (.age · 86400)
  | "-mmin" | "-amin" | "-cmin" => count (.age · 60)
  | "-links" => count .names
  | "-inum" | "-used" => count fun _ => .constant false
  | "-uid" | "-gid" => count .number
  | "-user" => value fun text =>
      match Account.userNumber? text with
      | some n => .ok (.constant (n = 0), c)
      | none => .error (Octets.shellQuoted text ++ " is not the name of a known user".toList)
  | "-group" => value fun text =>
      match Account.groupNumber? text with
      | some n => .ok (.constant (n = 0), c)
      | none => .error (Octets.shellQuoted text ++ " is not the name of an existing group".toList)
  | "-fstype" | "-context" => value fun _ => .ok (.constant false, c)
  | "-nouser" | "-nogroup" | "-false" => alone (.constant false)
  | "-true" | "-daystart" | "-noleaf" | "-mount" | "-xdev" | "-warn" | "-nowarn"
  | "-ignore_readdir_race" | "-noignore_readdir_race" => alone (.constant true)
  | "-follow" => .ok (.constant true, { c with manner := { c.manner with follows := true } }, rest)
  | "-depth" | "-d" =>
    .ok (.constant true, { c with manner := { c.manner with late := true } }, rest)
  | "-maxdepth" => depthOf fun n m => { m with most := some n }
  | "-mindepth" => depthOf fun n m => { m with least := n }
  | "-executable" => alone (.usable 'x')
  | "-readable" => alone (.usable 'r')
  | "-writable" => alone (.usable 'w')
  | "-samefile" => value fun path =>
      match t.files.placeOfLink path with
      | .ok place => .ok (.same place.steps, c)
      | .error e => .error (Octets.shellQuoted path ++ ": ".toList ++ reasonOf e)
  | "-print" => alone (.print .output '\n')
  | "-print0" => alone (.print .output '\x00')
  | "-printf" => value fun format => formatOf .output format c
  | "-fprint" => outlet (.print · '\n')
  | "-fprint0" => outlet (.print · '\x00')
  | "-fls" => outlet .listed
  | "-fprintf" =>
    match rest with
    | [] => .error missing
    | [path] => .error (invalid path)
    | path :: format :: rest =>
      (formatOf (.file path) format { c with outlets := c.outlets ++ [path] }).map
        fun (q, c) => (q, c, rest)
  | "-ls" => alone (.listed .output)
  | "-exec" => command false false
  | "-execdir" => command true false
  | "-ok" => command false true
  | "-okdir" => command true true
  | "-delete" =>
    .ok (.delete, { c with manner := { c.manner with late := true } }, rest)
  | "-prune" => alone .prune
  | "-quit" => alone .quit
  | _ => .error ("unknown predicate \x60".toList ++ name ++ ['\x27'])

/-- Whether a word is a part of a query, not a path. -/
def isQueryWord (first : Bool) (word : Octets) : Bool :=
  match word with
  | '-' :: _ :: _ => true
  | [')'] | [','] => !first
  | ['('] | ['!'] => true
  | _ => false

/-- Reads the words of a query, at most so many. -/
def readItems (t : Task) : Nat → Config → Option Octets → List Octets →
    Except (List Octets) (List Item × Config)
  | _, c, _, [] => .ok ([], c)
  | 0, c, _, _ => .ok ([], c)
  | rounds + 1, c, before, word :: rest =>
    let more (item : Item) (c : Config) (before : Option Octets) (rest : List Octets) :
        Except (List Octets) (List Item × Config) :=
      (readItems t rounds c before rest).map fun (items, c) => (item :: items, c)
    if !isQueryWord false word then
      let first := "paths must precede expression: \x60".toList ++ word ++ ['\x27']
      match before with
      | some name =>
        if t.files.has word && ! ["-print".toList].contains name then
          .error [first, "possible unquoted pattern after predicate \x60".toList ++ name ++
            "'?".toList]
        else if name = "-o".toList || name = "-a".toList then
          .error [first, "possible unquoted pattern after predicate \x60".toList ++ name ++
            "'?".toList]
        else .error [first]
      | none => .error [first]
    else
      match String.ofList word with
      | "(" => more (.open_ word) c (some word) rest
      | ")" => more .close_ c (some word) rest
      | "," => more (.comma word) c (some word) rest
      | "!" | "-not" => more (.not_ word) c (some word) rest
      | "-a" | "-and" => more (.and_ word) c (some word) rest
      | "-o" | "-or" => more (.or_ word) c (some word) rest
      | _ =>
        match readQuery t c word rest with
        | .error message => .error [message]
        | .ok (q, c, left) => more (.query word q) c (some word) left

def nothingBefore (name : Octets) : Octets :=
  "invalid expression; you have used a binary operator ".toList ++ Octets.shellQuoted name ++
    " with nothing before it.".toList

inductive Level where
  | comma
  | or_
  | and_
  deriving DecidableEq, Repr

mutual

/-- Reads a query that stands alone, where `owing` is the word that it has to follow. -/
def readAlone : Nat → Option Octets → List Item → Except Octets (Query × List Item)
  | 0, _, _ => .error []
  | _ + 1, owing, [] =>
    .error ("expected an expression after ".toList ++ Octets.shellQuoted (owing.getD []))
  | rounds + 1, owing, item :: rest =>
    match item with
    | .query _ q => .ok (q, rest)
    | .not_ name =>
      (readAlone rounds (some name) rest).map fun (q, rest) => (.no q, rest)
    | .and_ name | .or_ name | .comma name => .error (nothingBefore name)
    | .close_ =>
      match owing with
      | some name =>
        .error ("expected an expression between ".toList ++ Octets.shellQuoted name ++
          " and ')'".toList)
      | none => .error "invalid expression; you have too many ')'".toList
    | .open_ name =>
      match rest with
      | [] =>
        .error (("invalid expression; expected to find a ')' but didn't see one. Perhaps you " ++
          "need an extra predicate after ").toList ++ Octets.shellQuoted name)
      | .close_ :: _ =>
        .error "invalid expression; empty parentheses are not allowed.".toList
      | rest =>
        match readLevel rounds .comma none rest with
        | .error e => .error e
        | .ok (q, .close_ :: rest) => .ok (q, rest)
        | .ok _ =>
          .error ("invalid expression; I was expecting to find a ')' somewhere but did not " ++
            "see one.").toList

def readLevel : Nat → Level → Option Octets → List Item → Except Octets (Query × List Item)
  | 0, _, _, _ => .error []
  | rounds + 1, .and_, owing, items =>
    match readAlone rounds owing items with
    | .error e => .error e
    | .ok (q, rest) =>
      match rest with
      | .and_ name :: rest =>
        (readLevel rounds .and_ (some name) rest).map fun (r, rest) => (.both q r, rest)
      | .query _ _ :: _ | .not_ _ :: _ | .open_ _ :: _ =>
        (readLevel rounds .and_ none rest).map fun (r, rest) => (.both q r, rest)
      | rest => .ok (q, rest)
  | rounds + 1, .or_, owing, items =>
    match readLevel rounds .and_ owing items with
    | .error e => .error e
    | .ok (q, .or_ name :: rest) =>
      (readLevel rounds .or_ (some name) rest).map fun (r, rest) => (.either q r, rest)
    | .ok done => .ok done
  | rounds + 1, .comma, owing, items =>
    match readLevel rounds .or_ owing items with
    | .error e => .error e
    | .ok (q, .comma name :: rest) =>
      (readLevel rounds .comma (some name) rest).map fun (r, rest) => (.then_ q r, rest)
    | .ok done => .ok done

end

def readWhole (items : List Item) : Except Octets Query :=
  match items with
  | [] => .ok (.print .output '\n')
  | items =>
    match readLevel (8 * items.length + 8) .comma none items with
    | .error e => .error e
    | .ok (q, []) =>
      .ok (if q.acts then q else .both q (.print .output '\n'))
    | .ok _ => .error "you have too many ')'".toList

/-- The options in front of paths, and what is left. -/
def leading (m : Manner) : List Octets → Manner × List Octets
  | word :: rest =>
    match String.ofList word with
    | "-L" => leading { m with follows := true, followsFirst := true } rest
    | "-H" => leading { m with follows := false, followsFirst := true } rest
    | "-P" => leading { m with follows := false, followsFirst := false } rest
    | "-D" => leading m (rest.drop 1)
    | "--" => (m, rest)
    | _ => if word.take 2 = "-O".toList then leading m rest else (m, word :: rest)
  | [] => (m, [])
termination_by words => words.length

def runWaiting (t : Task) (start : Start) : Query → Progress → Progress
  | .runAll number command _, p =>
    match p.waiting.lookup number with
    | some paths =>
      let (p, holds) := runCommand t start p none (command ++ paths)
      if holds then p else { p with failed := true }
    | none => p
  | .no q, p => runWaiting t start q p
  | .both a b, p | .either a b, p | .then_ a b, p =>
    runWaiting t start b (runWaiting t start a p)
  | _, p => p

def depthLimit : Nat := 1000

def find : Behavior := fun start t =>
  let (m, words) := leading {} t.arguments
  let paths := words.takeWhile fun word => !isQueryWord true word
  let rest := words.drop paths.length
  let paths := if paths.isEmpty then [['.']] else paths
  if rest.any fun word => word = "-help".toList || word = "--help".toList ||
      word = "-version".toList || word = "--version".toList then t.reports (t.prints [])
  else
    let fails (messages : List Octets) : Performance :=
      t.reports { errors := messages.flatMap t.complaint, left := some t.input, status := 1 }
    match readItems t (rest.length + 1) { manner := m } none rest with
    | .error messages => fails messages
    | .ok (items, c) =>
      match readWhole items with
      | .error message => fails [message]
      | .ok q =>
        let s : Delegate.Sequel := { files := t.files, input := t.input }
        let opened := c.outlets.foldl
          (fun (s : Delegate.Sequel) path =>
            match openPath s.files {} path with
            | .ok (.file _, files) => s.withFiles files
            | _ => s) (s.prints .errors c.errors)
        let p : Progress := paths.foldl
          (fun p path => go t start c.manner q depthLimit path path 0 p) { sequel := opened }
        let p := runWaiting t start q p
        p.sequel.performance p.sequel.input (if p.failed then 1 else 0)

end CommandChains.Machine.Finding
