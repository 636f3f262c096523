import CommandChains.Machine.Path
import CommandChains.Machine.Arguments
import CommandChains.Machine.Permission
import CommandChains.Machine.Tool.Basic
import CommandChains.Machine.Tool.Making

/-!
# Copying and moving files

Tools that copy files, move them or give them further names. The last operand says where
to: a directory, under which each file keeps its last step, or the path itself.
-/

namespace CommandChains.Machine.Copying

open FileTree

/-! ## Where to -/

inductive Goal where
  | into (directory : Octets)
  | exactly (path : Octets)
  deriving DecidableEq, Repr

def below (directory name : Octets) : Octets :=
  if directory.getLast? = some '/' then directory ++ name else directory ++ '/' :: name

def Goal.pathFor (g : Goal) (source : Octets) : Octets :=
  match g with
  | .into directory => below directory (Path.lastStep source)
  | .exactly path => path

def isDirectory (f : Files) (path : Octets) : Bool :=
  (f.node path).toOption.any Node.isDirectory

/-- The files that operands name and where they go, or a refusal. -/
def goalOf (t : Task) (a : Arguments) (noDirectory : Bool) :
    Except Report (List Octets × Goal) :=
  let whyNot (path : Octets) : SystemError :=
    match t.files.node path with
    | .ok _ => notADirectory
    | .error e => e
  match a.value? 't', a.operands with
  | some directory, operands =>
    if operands.isEmpty then .error (t.refuses "missing file operand".toList 1)
    else if noDirectory then
      .error (t.fails ("cannot combine --target-directory (-t) and " ++
        "--no-target-directory (-T)").toList 1)
    else if !isDirectory t.files directory then
      .error (t.fails ("target directory ".toList ++ Octets.shellQuoted directory ++ ": ".toList ++
        reasonOf (whyNot directory)) 1)
    else .ok (operands, .into directory)
  | none, [] => .error (t.refuses "missing file operand".toList 1)
  | none, [source] =>
    .error (t.refuses ("missing destination file operand after ".toList ++ Octets.shellQuoted source) 1)
  | none, operands =>
    let sources := operands.dropLast
    let last := operands.getLastD []
    if noDirectory then
      match operands with
      | _ :: _ :: extra :: _ =>
        .error (t.refuses ("extra operand ".toList ++ Octets.shellQuoted extra) 1)
      | _ => .ok (sources, .exactly last)
    else if isDirectory t.files last then .ok (sources, .into last)
    else if 1 < sources.length then
      .error (t.fails ("target ".toList ++ Octets.shellQuoted last ++ ": ".toList ++
        reasonOf (whyNot last)) 1)
    else .ok (sources, .exactly last)

/-! ## What is there already -/

inductive Backup where
  | none
  | simple
  | existing
  | numbered
  deriving DecidableEq, Repr

/-- The names of the ways to keep what is there. -/
def backupChoices : Choices Backup :=
  [(["none", "off"], .none), (["simple", "never"], .simple), (["existing", "nil"], .existing),
    (["numbered", "t"], .numbered)]

/-- What an option asks for, or what is wrong with it. -/
def backupOf (a : Arguments) : Except Octets Backup :=
  match a.last? "bBS" with
  | none => .ok .none
  | some _ =>
    match a.value? 'B' with
    | some text =>
      if text.isEmpty then .ok .existing else backupChoices.chosen "backup type" text
    | none => .ok .existing

def lastNumber (f : Files) (path : Octets) : Nat → Nat
  | 0 => 0
  | n + 1 =>
    if f.has (path ++ ".~".toList ++ Octets.ofNat (n + 1) ++ ['~']) then n + 1
    else lastNumber f path n

def Backup.pathFor (b : Backup) (ending : Octets) (f : Files) (path : Octets) : Option Octets :=
  let last := lastNumber f path 100
  let numbered := path ++ ".~".toList ++ Octets.ofNat (last + 1) ++ ['~']
  match b with
  | .none => Option.none
  | .simple => some (path ++ ending)
  | .numbered => some numbered
  | .existing => some (if last = 0 then path ++ ending else numbered)

/-- What to do about a file that is there already. -/
inductive Existing where
  | replace
  | keep
  | ask
  deriving DecidableEq, Repr

structure Manner where
  existing : Existing := .replace
  backup : Backup := .none
  ending : Octets := ['~']
  onlyNewer : Bool := false
  verbose : Bool := false
  all : Bool := false
  keepsLinks : Bool := false
  exact : Bool := false
  removes : Bool := false
  /-- Whether files get further names in place of copies. -/
  hard : Bool := false
  soft : Bool := false
  /-- The permissions of copies, if not those of the files. -/
  mode : Option Nat := none
  deriving DecidableEq, Repr

/-- What has been done so far, the answers that are left, and the paths that were made. -/
structure Progress where
  errand : Errand
  answers : Octets
  made : List (List String) := []

def Progress.complains (p : Progress) (t : Task) (message : Octets) : Progress :=
  { p with errand := p.errand.complains t message }

def sameFile (f : Files) (a b : Octets) : Bool :=
  match (f.place a).toOption, (f.place b).toOption with
  | some p, some q =>
    match p.node, q.node with
    | .file m, .file n => m == n
    | _, _ => p.steps == q.steps
  | _, _ => false

def stepsOf (f : Files) (path : Octets) : Option (List String) :=
  ((f.slot false (Files.trimmed path)).toOption).map Slot.steps

/-! ## Copies -/

def depthLimit : Nat := 1000

def copied (m : Manner) : Nat → Files → Node → Node × Files
  | depth + 1, f, .directory mode entries =>
    let (entries, f) := entries.foldl
      (fun (done : List (String × Node) × Files) entry =>
        let (node, f) := copied m depth done.2 entry.2
        (done.1 ++ [(entry.1, node)], f)) ([], f)
    (.directory (if m.exact then mode else f.allowed mode) entries, f)
  | _, f, .file number =>
    if m.hard then (.file number, f)
    else
      let mode := f.modeOf (.file number)
      let body : Body :=
        { mode := m.mode.getD (if m.exact then mode else f.allowed mode)
          stamp := if m.exact then f.stampOf (.file number) else f.next
          text := f.textOf (.file number) }
      (.file f.next, { f.setBody f.next body with next := f.next + 1 })
  | _, f, .data text =>
    let body : Body := { mode := m.mode.getD (f.allowed 420), stamp := f.next, text }
    (.file f.next, { f.setBody f.next body with next := f.next + 1 })
  | _, f, node => (node, f)

def told (source path : Octets) : Nat → Node → Octets
  | depth + 1, .directory _ entries =>
    Octets.shellQuoted source ++ " -> ".toList ++ Octets.shellQuoted path ++ ['\n'] ++
      entries.flatMap fun entry =>
        told (below source entry.1.toList) (below path entry.1.toList) depth entry.2
  | _, _ => Octets.shellQuoted source ++ " -> ".toList ++ Octets.shellQuoted path ++ ['\n']

/-- Puts a copy of a node over what is there. Directories are put together. -/
def merged (m : Manner) : Nat → Files → Node → Node → Node × Files
  | depth + 1, f, .directory mode old, .directory _ new =>
    let (entries, f) := new.foldl
      (fun (done : List (String × Node) × Files) entry =>
        match done.1.lookup entry.1 with
        | some there =>
          let (node, f) := merged m depth done.2 there entry.2
          (done.1.map fun e => if e.1 = entry.1 then (e.1, node) else e, f)
        | none =>
          let (node, f) := copied m depth done.2 entry.2
          (done.1 ++ [(entry.1, node)], f)) (old, f)
    (.directory mode entries, f)
  | _, f, .file number, .file other => (.file number, f.setText number (f.textOf (.file other)))
  | depth, f, _, new => copied m depth f new

def copyText (t : Task) (m : Manner) (p : Progress) (node : Node) (source path : Octets) :
    Progress :=
  let f := p.errand.files
  let text := match Task.namedStream? source with
    | some 0 => t.input
    | _ => f.textOf node
  let mode := m.mode.getD (f.modeOf node)
  let isThere := (f.placeOfLink path).toOption.isSome
  let isDangling := isThere && !f.has path
  if path.getLast? = some '/' && !isThere then
    p.complains t ("cannot create regular file ".toList ++ Octets.shellQuoted path ++ ": ".toList ++
      reasonOf (if f.has (Path.withoutLastStep path) then notADirectory else notFound))
  else if isDangling && !m.removes then
    p.complains t ("not writing through dangling symlink ".toList ++ Octets.shellQuoted path)
  else
    let f := if m.removes && isThere then (f.remove path).toOption.getD f else f
    match openPath f { mode } path with
    | .error e =>
      p.complains t ("cannot create regular file ".toList ++ Octets.shellQuoted path ++ ": ".toList ++
        reasonOf e)
    | .ok (.output, files) =>
      { p with errand := { p.errand with output := p.errand.output ++ text, files } }
    | .ok (.errors, files) =>
      { p with errand := { p.errand with errors := p.errand.errors ++ text, files } }
    | .ok (.file outlet, files) =>
      let files := files.append outlet text
      let files := match outlet, m.exact || m.mode.isSome with
        | .file number, true =>
          files.setBody number
            { mode, stamp := if m.exact then f.stampOf node else files.next, text }
        | _, _ => files
      { p with errand := { p.errand with files } }

/-- Copies a file or a directory to a path, where nothing stands against it. -/
def copyTo (t : Task) (m : Manner) (p : Progress) (place : Place) (source path : Octets) :
    Progress :=
  let f := p.errand.files
  let done (files : Files) : Progress := { p with errand := { p.errand with files } }
  let fails (what : String) (e : SystemError) : Progress :=
    p.complains t (("cannot create " ++ what ++ " ").toList ++ Octets.shellQuoted path ++
      ": ".toList ++ reasonOf e)
  match place.node with
  | .directory _ _ =>
    match f.slot false (Files.trimmed path) with
    | .error e => fails "directory" e
    | .ok slot =>
      let (node, files) := match slot.node with
        | some old => merged m depthLimit f old place.node
        | none => copied m depthLimit f place.node
      done (files.alter slot.steps fun _ => some node)
  | node =>
    if m.hard then
      let f := if (f.placeOfLink path).toOption.isSome then (f.remove path).toOption.getD f else f
      match f.link source path with
      | .ok files => done files
      | .error e =>
        p.complains t ("cannot create hard link ".toList ++ Octets.shellQuoted path ++ " to ".toList ++
          Octets.shellQuoted source ++ ": ".toList ++ reasonOf e)
    else if m.soft then
      if source.head? != some '/' && path.contains '/' then
        p.complains t (Octets.asName path ++
          ": can make relative symbolic links only in current directory".toList)
      else
        let f := if (f.placeOfLink path).toOption.isSome then (f.remove path).toOption.getD f else f
        match f.putNode (.link (String.ofList source)) path with
        | .ok files => done files
        | .error e => fails "symbolic link" e
    else
      match node with
      | .link target =>
        let f := if (f.placeOfLink path).toOption.isSome then (f.remove path).toOption.getD f else f
        match f.putNode (.link target) path with
        | .ok files => done files
        | .error e => fails "symbolic link" e
      | .program name =>
        match f.slot true path with
        | .ok slot => done (f.alter slot.steps fun _ => some (.program name))
        | .error e => fails "regular file" e
      | .device name =>
        if m.all && (Task.namedStream? source).isNone then
          match f.putNode (.device name) path with
          | .ok files => done files
          | .error e => fails "special file" e
        else copyText t m p node source path
      | node => copyText t m p node source path

/-- What is there at a path, if it is a thing to write over. -/
def thereAt (f : Files) (path : Octets) : Option Place :=
  match f.place path with
  | .ok place => some place
  | .error _ => (f.placeOfLink path).toOption

/-- Whether a file may be written over. Gives the answers that are left, too. -/
def mayReplace (t : Task) (m : Manner) (p : Progress) (path : Octets) : Bool × Progress :=
  match m.existing with
  | .replace => (true, p)
  | .keep => (false, p)
  | .ask =>
    let question := t.name ++ ": overwrite ".toList ++ Octets.shellQuoted path ++ "? ".toList
    let answer := p.answers.takeWhile (· != '\n')
    (answer.head? = some 'y' || answer.head? = some 'Y',
      { p with
        answers := p.answers.drop (answer.length + 1)
        errand := { p.errand with errors := p.errand.errors ++ question } })

/-- Keeps what is there under another name. Gives that name. -/
def keepOld (m : Manner) (p : Progress) (path : Octets) : Progress × Option Octets :=
  let f := p.errand.files
  match m.backup.pathFor m.ending f path with
  | none => (p, none)
  | some kept =>
    match f.rename path kept with
    | .ok files => ({ p with errand := { p.errand with files } }, some kept)
    | .error _ => (p, none)

def tells (m : Manner) (p : Progress) (text : Octets) (kept : Option Octets) : Progress :=
  let behind := match kept with
    | some path => " (backup: ".toList ++ Octets.shellQuoted path ++ [')']
    | none => []
  if m.verbose then
    { p with errand := { p.errand with output := p.errand.output ++ text ++ behind ++ ['\n'] } }
  else p

def copyOne (t : Task) (m : Manner) (g : Goal) (p : Progress) (source : Octets) : Progress :=
  let f := p.errand.files
  let found : Except SystemError Place :=
    match Task.namedStream? source with
    | some _ => .ok ⟨.device "stream", []⟩
    | none => if m.keepsLinks then f.placeOfLink source else f.place source
  match found with
  | .error e =>
    p.complains t ("cannot stat ".toList ++ Octets.shellQuoted source ++ ": ".toList ++ reasonOf e)
  | .ok place =>
    let path := g.pathFor source
    let there := if m.keepsLinks && place.node.isLink then (f.placeOfLink path).toOption
      else thereAt f path
    let isThereDirectory := there.any fun place => place.node.isDirectory
    let sourceSteps := place.steps
    let targetSteps := ((f.place path).toOption.map Place.steps).orElse fun _ => stepsOf f path
    if place.node.isDirectory && !m.all then
      p.complains t ((if m.mode.isSome then "omitting directory " else
        "-r not specified; omitting directory ").toList ++ Octets.shellQuoted source)
    else if there.isSome && (sameFile f source path) && !(m.backup != .none) &&
        !(m.removes && (f.placeOfLink path).toOption.any fun place => place.node.isLink) &&
        !m.hard && !place.node.isDirectory then
      p.complains t (Octets.shellQuoted source ++ " and ".toList ++ Octets.shellQuoted path ++
        " are the same file".toList)
    else if there.isSome && !place.node.isDirectory && isThereDirectory then
      p.complains t ("cannot overwrite directory ".toList ++ Octets.shellQuoted path ++
        " with non-directory".toList)
    else if there.isSome && place.node.isDirectory && !isThereDirectory then
      p.complains t ("cannot overwrite non-directory ".toList ++ Octets.shellQuoted path ++
        " with directory ".toList ++ Octets.shellQuoted source)
    else if place.node.isDirectory && targetSteps.any fun steps => sourceSteps.isPrefixOf steps then
      let p := copyTo t m p place source path
      p.complains t ("cannot copy a directory, ".toList ++ Octets.shellQuoted source ++
        ", into itself, ".toList ++ Octets.shellQuoted path)
    else if there.isSome && p.made.any (fun steps => targetSteps == some steps) &&
        !place.node.isDirectory then
      p.complains t ("will not overwrite just-created ".toList ++ Octets.shellQuoted path ++
        " with ".toList ++ Octets.shellQuoted source)
    else if there.isNone && path.getLast? = some '/' && f.has (Files.trimmed path) &&
        !isDirectory f (Files.trimmed path) then
      p.complains t ("cannot stat ".toList ++ Octets.shellQuoted path ++ ": Not a directory".toList)
    else
      let isOld := m.onlyNewer && there.any fun old =>
        decide (f.stampOf place.node ≤ f.stampOf old.node)
      let (may, p) := if there.isSome && !place.node.isDirectory && !isOld then mayReplace t m p path
        else (!isOld, p)
      if !may then p
      else
        let (p, kept) := if there.isSome && !place.node.isDirectory then keepOld m p path else (p, none)
        let after := copyTo t m p place source path
        let after := if after.errand.failed = p.errand.failed then
            match place.node with
            | .directory _ _ =>
              if m.verbose then
                { after with errand :=
                  { after.errand with
                    output := after.errand.output ++
                      (let text := told source path depthLimit place.node
                      if isThereDirectory then text.drop
                        ((text.takeWhile (· != '\n')).length + 1) else text) } }
              else after
            | _ =>
              tells m after (Octets.shellQuoted source ++ " -> ".toList ++ Octets.shellQuoted path) kept
          else after
        { after with made := after.made ++ targetSteps.toList }

def commonWords : List (String × Char) :=
  [("backup", 'B'), ("force", 'f'), ("interactive", 'i'), ("no-clobber", 'n'),
    ("no-target-directory", 'T'), ("strip-trailing-slashes", 'K'), ("suffix", 'S'),
    ("target-directory", 't'), ("update", 'u'), ("verbose", 'v')]

def mannerOf (a : Arguments) (backup : Backup) : Manner :=
  { existing := match a.last? "fin" with
      | some 'i' => .ask
      | some 'n' => .keep
      | _ => .replace
    backup, ending := (a.value? 'S').getD ['~'], onlyNewer := a.has 'u', verbose := a.has 'v' }

def Progress.report (p : Progress) (t : Task) (asks : Bool) (reads : Bool) : Report :=
  { p.errand.report t with
    left := if asks then (if p.answers.isEmpty then none else some p.answers)
      else if reads then none else some t.input }

/-- The directories that a path goes through, made below a directory. -/
def makeParents (t : Task) (m : Manner) (p : Progress) (goal : Octets) :
    Octets → List Octets → Progress
  | _, [] | _, [_] => p
  | before, step :: rest =>
    let own := if before.isEmpty then step else before ++ '/' :: step
    let path := below goal own
    if step.isEmpty || p.errand.files.has path then makeParents t m p goal own rest
    else
      match p.errand.files.makeDirectory 511 path with
      | .ok files =>
        let p := { p with errand := { p.errand with files } }
        makeParents t m (tells m p (own ++ " -> ".toList ++ path) none) goal own rest
      | .error _ => p

def copy : Tool := fun t =>
  t.withArguments
      { plain := "abdfiHlLnpPrRsTuvxZAKMO", valued := "StWY", optional := "BQ", hidden := "ABKMOQWY"
        words := commonWords ++
          [("archive", 'a'), ("attributes-only", 'A'), ("copy-contents", 'M'),
            ("dereference", 'L'), ("link", 'l'), ("no-dereference", 'P'), ("no-preserve", 'W'),
            ("one-file-system", 'x'), ("parents", 'O'), ("preserve", 'Q'), ("recursive", 'r'),
            ("reflink", 'Q'), ("remove-destination", 'M'), ("sparse", 'Y'),
            ("symbolic-link", 's')] } 1 fun a =>
    match backupOf a with
    | .error message => t.refuses message 1
    | .ok backup =>
      match goalOf t a (a.has 'T') with
      | .error r => r
      | .ok (sources, goal) =>
        let all := a.has 'r' || a.has 'R' || a.has 'a'
        let follows := match a.last? "adLPH" with
          | some 'L' | some 'H' => true
          | some _ => false
          | none => !all
        let m : Manner :=
          { mannerOf a backup with
            all, keepsLinks := !follows, exact := a.has 'p' || a.has 'a'
            removes := a.has 'M', hard := a.has 'l', soft := a.has 's' }
        let isInto := match goal with
          | .into _ => true
          | .exactly _ => false
        if a.has 'O' && !isInto then
          t.refuses "with --parents, the destination must be a directory".toList 1
        else
          let work (p : Progress) (source : Octets) : Progress :=
            match goal, a.has 'O' with
            | .into directory, true =>
              let p := makeParents t m p directory [] (Octets.splitAt '/' source)
              copyOne t m (.exactly (below directory source)) p source
            | goal, _ => copyOne t m goal p source
          let p := sources.foldl work { errand := { files := t.files }, answers := t.input }
          p.report t (m.existing = .ask)
            (sources.any fun source => Task.namedStream? source = some 0)

/-! ## Moving -/

def moveOne (t : Task) (m : Manner) (g : Goal) (p : Progress) (source : Octets) : Progress :=
  let f := p.errand.files
  match f.placeOfLink (Files.trimmed source) with
  | .error e =>
    p.complains t ("cannot stat ".toList ++ Octets.shellQuoted source ++ ": ".toList ++ reasonOf e)
  | .ok place =>
    let path := g.pathFor source
    let there := (f.placeOfLink (Files.trimmed path)).toOption
    let isThereDirectory := there.any fun place => place.node.isDirectory
    let targetSteps := stepsOf f path
    let cannot (e : SystemError) : Progress :=
      p.complains t ("cannot move ".toList ++ Octets.shellQuoted source ++ " to ".toList ++
        Octets.shellQuoted path ++ ": ".toList ++ reasonOf e)
    if there.isSome && targetSteps == some place.steps then
      if place.node.isDirectory then
        p.complains t ("cannot move ".toList ++ Octets.shellQuoted source ++
          " to a subdirectory of itself, ".toList ++ Octets.shellQuoted path)
      else
        p.complains t (Octets.shellQuoted source ++ " and ".toList ++ Octets.shellQuoted path ++
          " are the same file".toList)
    else if there.isSome && !place.node.isDirectory && isThereDirectory then
      p.complains t ("cannot overwrite directory ".toList ++ Octets.shellQuoted path ++
        " with non-directory".toList)
    else if there.isSome && place.node.isDirectory && !isThereDirectory then
      p.complains t ("cannot overwrite non-directory ".toList ++ Octets.shellQuoted path ++
        " with directory ".toList ++ Octets.shellQuoted source)
    else if place.node.isDirectory && targetSteps.any fun steps => place.steps.isPrefixOf steps then
      p.complains t ("cannot move ".toList ++ Octets.shellQuoted source ++
        " to a subdirectory of itself, ".toList ++ Octets.shellQuoted path)
    else if there.isNone && !place.node.isDirectory && path.getLast? = some '/' then
      cannot (if f.has (Path.withoutLastStep path) then notADirectory else notFound)
    else
      let isOld := m.onlyNewer && there.any fun old =>
        decide (f.stampOf place.node ≤ f.stampOf old.node)
      let (may, p) := if there.isSome && !isOld then mayReplace t m p path else (!isOld, p)
      if !may then p
      else
        let (p, kept) := if there.isSome then keepOld m p path else (p, none)
        match p.errand.files.rename source path with
        | .ok files =>
          tells m { p with errand := { p.errand with files }, made := p.made ++ targetSteps.toList }
            ("renamed ".toList ++ Octets.shellQuoted source ++ " -> ".toList ++
              Octets.shellQuoted path) kept
        | .error e => cannot e

def move : Tool := fun t =>
  t.withArguments
      { plain := "bfinTuvZKC", valued := "St", optional := "B", hidden := "BKC"
        words := commonWords } 1 fun a =>
    match backupOf a with
    | .error message => t.refuses message 1
    | .ok backup =>
      match goalOf t a (a.has 'T') with
      | .error r => r
      | .ok (sources, goal) =>
        let m := mannerOf a backup
        let p := sources.foldl (moveOne t m goal) { errand := { files := t.files }, answers := t.input }
        p.report t (m.existing = .ask) false

/-! ## Further names -/

/-- Gives one file a further name, or makes a link that leads to it. -/
def linkOne (t : Task) (m : Manner) (relative : Bool) (g : Goal) (p : Progress)
    (source : Octets) : Progress :=
  let f := p.errand.files
  let path := g.pathFor source
  let there := (f.placeOfLink path).toOption
  let target := if relative && m.soft then
      let directory := Canonical.straightPath f (Path.withoutLastStep path)
      Canonical.relative ((Canonical.pathOf f .nothing directory).toOption.getD directory)
        ((Canonical.pathOf f .nothing source).toOption.getD source)
    else source
  let isThere := there.isSome
  let found := if m.keepsLinks then f.placeOfLink source else f.place source
  let quotedPath := Octets.shellQuoted path
  match m.soft, found with
  | false, .error e =>
    p.complains t ("failed to access ".toList ++ Octets.shellQuoted source ++ ": ".toList ++
      reasonOf e)
  | soft, found =>
    let isDirectory := !soft && found.toOption.any fun place => place.node.isDirectory
    let replaces := m.existing != .keep || m.backup != .none
    if isDirectory then
      p.complains t (Octets.asName source ++ ": hard link not allowed for directory".toList)
    else if isThere && replaces && (there.any fun place => place.node.isDirectory) then
      p.complains t (Octets.asName path ++ ": cannot overwrite directory".toList)
    else if isThere && replaces && !soft && sameFile f source path then
      p.complains t (Octets.shellQuoted source ++ " and ".toList ++ quotedPath ++
        " are the same file".toList)
    else
      let (may, p) := if isThere && m.existing = .ask then
          let question := t.name ++ ": replace ".toList ++ quotedPath ++ "? ".toList
          let answer := p.answers.takeWhile (· != '\n')
          (answer.head? = some 'y' || answer.head? = some 'Y',
            { p with
              answers := p.answers.drop (answer.length + 1)
              errand := { p.errand with errors := p.errand.errors ++ question } })
        else (true, p)
      if !may then p
      else
        let (p, kept) := if isThere then keepOld m p path else (p, none)
        let f := p.errand.files
        let f := if isThere && m.existing != .keep then (f.remove path).toOption.getD f else f
        let made := if soft then
            (if target.isEmpty then .error notFound
              else f.putNode (.link (String.ofList target)) path)
          else if m.keepsLinks then f.link source path
          else
            match f.place source with
            | .ok place => f.link (FileTree.pathOf place.steps) path
            | .error e => .error e
        match made with
        | .ok files =>
          let arrow := if soft then " -> ".toList else " => ".toList
          tells m { p with errand := { p.errand with files } }
            (quotedPath ++ arrow ++ Octets.shellQuoted target) kept
        | .error e =>
          let what := if soft then
              "failed to create symbolic link ".toList ++ quotedPath ++
                (if target.isEmpty || e = nameTooLong then " -> ".toList ++ Octets.shellQuoted target
                  else [])
            else
              "failed to create hard link ".toList ++ quotedPath ++
                (if e = fileExists then [] else " => ".toList ++ Octets.shellQuoted source)
          p.complains t (what ++ ": ".toList ++ reasonOf e)

def link : Tool := fun t =>
  t.withArguments
      { plain := "bdFfinLPrsTv", valued := "St", optional := "B", hidden := "B"
        words := [("backup", 'B'), ("directory", 'd'), ("no-dereference", 'n'),
          ("no-target-directory", 'T'), ("force", 'f'), ("interactive", 'i'), ("suffix", 'S'),
          ("target-directory", 't'), ("logical", 'L'), ("physical", 'P'), ("relative", 'r'),
          ("symbolic", 's'), ("verbose", 'v')] } 1 fun a =>
    match backupOf a with
    | .error message => t.refuses message 1
    | .ok backup =>
      let f := t.files
      let isLink (path : Octets) : Bool :=
        (f.placeOfLink path).toOption.any fun place => place.node.isLink
      let last := a.operands.getLastD []
      let apart := a.has 'T' || (a.has 'n' && isLink last && a.operands.length = 2)
      let chosen : Except Report (List Octets × Goal) :=
        match a.value? 't', a.operands with
        | none, [source] =>
          if a.has 'T' then
            .error (t.refuses ("missing destination file operand after ".toList ++
              Octets.shellQuoted source) 1)
          else .ok ([source], .into ['.'])
        | some directory, _ =>
          match f.node directory with
          | .error e =>
            if a.operands.isEmpty then goalOf t a (a.has 'T')
            else
              .error (t.fails ("failed to access ".toList ++ Octets.shellQuoted directory ++
                ": ".toList ++ reasonOf e) 1)
          | .ok _ => goalOf t a (a.has 'T')
        | _, _ => goalOf t a apart
      match chosen with
      | .error r => r
      | .ok (sources, goal) =>
        let m : Manner :=
          { existing := match a.last? "fi" with
              | some 'f' => .replace
              | some _ => .ask
              | none => .keep
            backup, ending := (a.value? 'S').getD ['~'], verbose := a.has 'v'
            soft := a.has 's', keepsLinks := a.last? "LP" != some 'L' }
        let p := sources.foldl (linkOne t m (a.has 'r') goal)
          { errand := { files := t.files }, answers := t.input }
        p.report t (m.existing = .ask) false

def singleLink : Tool := fun t =>
  t.withArguments {} 1 fun a =>
    match a.operands with
    | [] => t.refuses "missing operand".toList 1
    | [path] => t.refuses ("missing operand after ".toList ++ Octets.quoted path) 1
    | [old, new] =>
      Errand.each t [()] fun e _ =>
        e.try_ t ("cannot create link ".toList ++ Octets.shellQuoted new ++ " to ".toList ++
          Octets.shellQuoted old) (e.files.link old new)
    | _ :: _ :: extra :: _ => t.refuses ("extra operand ".toList ++ Octets.quoted extra) 1

/-! ## Installing -/

/-- Copies files and gives them permissions, or makes directories. -/
def install : Tool := fun t =>
  t.withArguments
      { plain := "bcCdDpsTvZ", valued := "gmoSt", optional := "B", hidden := "B"
        words := [("backup", 'B'), ("compare", 'C'), ("directory", 'd'), ("group", 'g'),
          ("mode", 'm'), ("no-target-directory", 'T'), ("owner", 'o'),
          ("preserve-timestamps", 'p'), ("strip", 's'), ("suffix", 'S'),
          ("target-directory", 't'), ("verbose", 'v')] } 1 fun a =>
    let mode := match a.value? 'm' with
      | none => some 493
      | some text =>
        (Permission.changes? text).map fun changes => Permission.applied 0 (a.has 'd') 0 changes
    match mode, backupOf a with
    | none, _ => t.fails ("invalid mode ".toList ++ Octets.quoted ((a.value? 'm').getD [])) 1
    | _, .error message => t.refuses message 1
    | some mode, .ok backup =>
      let toldOf (path : Octets) : Octets :=
        t.name ++ ": creating directory ".toList ++ Octets.shellQuoted path
      let make (e : Errand) (mode : Nat) (path : Octets) : Errand :=
        Making.makePath t e (a.has 'v') mode toldOf [] (Octets.splitAt '/' path)
      if a.has 'd' then
        if a.operands.isEmpty then t.refuses "missing file operand".toList 1
        else Errand.each t a.operands fun e path => make e mode path
      else
        let place := match a.value? 't' with
          | some directory => some directory
          | none => if 1 < a.operands.length then
              some (Path.withoutLastStep (a.operands.getLastD [])) else none
        let e : Errand := { files := t.files }
        let e := match place, a.has 'D' with
          | some directory, true => make e 493 directory
          | _, _ => e
        match goalOf { t with files := e.files } a (a.has 'T') with
        | .error r => r
        | .ok (sources, goal) =>
          let m : Manner :=
            { mannerOf a backup with existing := .replace, removes := true, mode := some mode }
          (sources.foldl (copyOne t m goal) { errand := e, answers := [] }).report t false
            (sources.any fun source => Task.namedStream? source = some 0)

end CommandChains.Machine.Copying
