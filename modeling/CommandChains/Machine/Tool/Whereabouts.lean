import CommandChains.Machine.Path
import CommandChains.Machine.Tool.Basic
import CommandChains.Machine.Tool.Identity

/-!
# Tools that resolve paths

Tools that print paths without detours, paths from one place to another, and where links
lead.
-/

namespace CommandChains.Machine

namespace Resolution

open FileTree Canonical

/-! ## Paths without detours -/

/-- Whether the steps that follow one need it to be a directory. -/
def needsDirectory (rest : List Octets) : Bool :=
  match rest.find? fun step => !step.isEmpty && step != ['.'] with
  | some step => step == ['.', '.']
  | none => !rest.isEmpty

/-- Looks at some steps of a path without following links in it. -/
def check (f : Files) (p : Presence) : List Octets → List Octets → Except SystemError Unit
  | _, [] => .ok ()
  | before, step :: rest =>
    let path := Octets.joined ['/'] (before ++ [step])
    let here : Except SystemError Unit :=
      if step.isEmpty || step = ['.'] || step = ['.', '.'] then .ok ()
      else if needsDirectory rest then
        match f.node path with
        | .ok node => if node.isDirectory then .ok () else .error notADirectory
        | .error e =>
          if p = .directories && e = notFound && rest.all List.isEmpty then .ok () else .error e
      else if !rest.isEmpty then .ok ()
      else
        match f.node path with
        | .ok _ => .ok ()
        | .error e =>
          if p = .directories && (e = notFound || e = notADirectory) then .ok () else .error e
    match here with
    | .error e => .error e
    | .ok () => check f p (before ++ [step]) rest

structure Manner where
  presence : Presence := .directories
  keepsLinks : Bool := false
  /-- Whether steps back are taken before links are followed. -/
  straight : Bool := false
  deriving DecidableEq, Repr

def Manner.resolve (m : Manner) (f : Files) (path : Octets) : Except SystemError Octets :=
  if path.isEmpty then .error notFound
  else if m.keepsLinks || m.straight then
    let front : Octets := if path.head? = some '/' then [] else FileTree.pathOf f.here ++ ['/']
    match if m.presence = .nothing then .ok () else
        check f m.presence [] (Octets.splitAt '/' (front ++ path)) with
    | .error e => .error e
    | .ok () =>
      if m.keepsLinks then .ok (straightPath f path)
      else Canonical.pathOf f m.presence (straightPath f path)
  else Canonical.pathOf f m.presence path

/-- Whether a path leads to something below a directory, or to the directory. -/
def isBelow (directory path : Octets) : Bool :=
  directory = ['/'] || path == directory || (directory ++ ['/']).isPrefixOf path

/-- What paths are shown from: a directory, and the one where that ends. -/
structure Base where
  from_ : Option Octets := none
  within : Option Octets := none

def Base.shown (b : Base) (path : Octets) : Octets :=
  match b.from_, b.within with
  | none, _ => path
  | some directory, none => relative directory path
  | some directory, some outer =>
    if isBelow outer path then relative directory path else path

/-- What paths are shown from, or a directory that cannot be resolved. -/
def baseOf (m : Manner) (f : Files) (a : Arguments) : Except (Octets × SystemError) Base :=
  let resolved (path : Octets) : Except (Octets × SystemError) Octets :=
    match m.resolve f path with
    | .error e => .error (path, e)
    | .ok found =>
      let isThere := (f.node found).toOption.any Node.isDirectory
      if m.presence = .everything && !isThere then .error (path, notADirectory) else .ok found
  match a.value? 't', a.value? 'b' with
  | none, none => .ok {}
  | some path, none => (resolved path).map fun directory => { from_ := some directory }
  | none, some path =>
    (resolved path).map fun directory => { from_ := some directory, within := some directory }
  | some start, some path =>
    match resolved start, resolved path with
    | .error e, _ => .error e
    | .ok _, .error e => .error e
    | .ok directory, .ok outer =>
      if isBelow outer directory then .ok { from_ := some directory, within := some outer }
      else .ok { within := some directory }

def realPaths : Tool := fun t =>
  t.withArguments
      { plain := "eLmPqsz", valued := "tb", hidden := "tb"
        words := [("canonicalize-existing", 'e'), ("canonicalize-missing", 'm'),
          ("logical", 'L'), ("physical", 'P'), ("quiet", 'q'), ("strip", 's'),
          ("no-symlinks", 's'), ("zero", 'z'), ("relative-to", 't'), ("relative-base", 'b')] } 1 fun a =>
    if a.operands.isEmpty then t.refuses "missing operand".toList 1
    else
      let m : Manner :=
        { presence := match a.last? "em" with
            | some 'e' => .everything
            | some 'm' => .nothing
            | _ => .directories
          keepsLinks := a.last? "sLP" = some 's', straight := a.last? "sLP" = some 'L' }
      let told (path : Octets) (e : SystemError) : Octets :=
        t.complaint (Octets.asName path ++ ": ".toList ++ reasonOf e)
      match baseOf m t.files a with
      | .error (path, e) => { errors := told path e, left := some t.input, status := 1 }
      | .ok base =>
        let found := a.operands.map fun path => (path, m.resolve t.files path)
        { output := found.flatMap fun (_, path) =>
            match path with
            | .ok path => base.shown path ++ [a.lineEnd]
            | .error _ => []
          errors := found.flatMap fun (path, resolved) =>
            match resolved with
            | .ok _ => []
            | .error e => if a.has 'q' then [] else told path e
          left := some t.input
          status := if found.all fun (_, path) => path.toOption.isSome then 0 else 1 }

/-! ## Links -/

def target (f : Files) (path : Octets) : Except SystemError Octets :=
  match f.placeOfLink path with
  | .ok place =>
    match place.node with
    | .link path => .ok path.toList
    | _ => .error invalid
  | .error e => .error e

def linkTargets : Tool := fun t =>
  t.withArguments
      { plain := "femnqsvz"
        words := [("canonicalize", 'f'), ("canonicalize-existing", 'e'),
          ("canonicalize-missing", 'm'), ("no-newline", 'n'), ("quiet", 'q'), ("silent", 's'),
          ("verbose", 'v'), ("zero", 'z')] } 1 fun a =>
    if a.operands.isEmpty then t.refuses "missing operand".toList 1
    else
      let several := decide (1 < a.operands.length)
      let resolve (path : Octets) : Except SystemError Octets :=
        match a.last? "fem" with
        | some 'f' => { presence := .directories : Manner }.resolve t.files path
        | some 'e' => { presence := .everything : Manner }.resolve t.files path
        | some _ => { presence := .nothing : Manner }.resolve t.files path
        | none => target t.files path
      let found := a.operands.map fun path => (path, resolve path)
      let end_ := if a.has 'n' && !several then [] else [a.lineEnd]
      let warning := if a.has 'n' && several then
        t.complaint "ignoring --no-newline with multiple arguments".toList else []
      { output := found.flatMap fun (_, path) =>
          match path with
          | .ok path => path ++ end_
          | .error _ => []
        errors := warning ++ found.flatMap fun (path, resolved) =>
          match resolved with
          | .ok _ => []
          | .error e =>
            if a.last? "qsv" = some 'v' then
              t.complaint (Octets.asName path ++ ": ".toList ++ reasonOf e)
            else []
        left := some t.input
        status := if found.all fun (_, path) => path.toOption.isSome then 0 else 1 }

end Resolution

/-!
## Tools about names

Tools that take paths apart or follow them and tell what variables hold.
-/

namespace Tool

/-! ## Paths -/

/-- A name without an ending, unless nothing else is there. -/
def withoutEnding (ending name : Octets) : Octets :=
  if name ≠ ending && ending.isSuffixOf name then name.take (name.length - ending.length)
  else name

def lastSteps : Tool := fun t =>
  t.withArguments
      { plain := "az", valued := "s", untilOperand := true
        words := [("multiple", 'a'), ("suffix", 's'), ("zero", 'z')] } 1 fun a =>
    let end_ := if a.has 'z' then ['\x00'] else ['\n']
    let several := a.has 'a' || a.has 's'
    if a.operands.isEmpty then t.refuses "missing operand".toList 1
    else if !several && decide (2 < a.operands.length) then
      t.refuses ("extra operand ".toList ++ Octets.quoted (a.operands.getD 2 [])) 1
    else
      let ending := if several then (a.value? 's').getD [] else a.operands.getD 1 []
      let paths := if several then a.operands else a.operands.take 1
      t.prints (paths.flatMap fun path => withoutEnding ending (Path.lastStep path) ++ end_)

def directories : Tool := fun t =>
  t.withArguments { plain := "z", words := [("zero", 'z')] } 1 fun a =>
    let end_ := if a.has 'z' then ['\x00'] else ['\n']
    if a.operands.isEmpty then t.refuses "missing operand".toList 1
    else t.prints (a.operands.flatMap fun path => Path.withoutLastStep path ++ end_)

def whereabouts : Tool := fun t =>
  t.withArguments { plain := "as" } 2 fun a =>
    let searchPath := Octets.splitAt ':' ((t.environment.lookup "PATH".toList).getD [])
    let found (name : Octets) : Option Octets :=
      if name.contains '/' then
        (t.files.programAt name).toOption.map fun _ => name
      else
        (searchPath.map fun directory => directory ++ '/' :: name).find? fun path =>
          (t.files.programAt path).toOption.isSome
    let places := a.operands.map found
    { output := Octets.unlines (places.filterMap id), left := some t.input
      status := if a.operands.isEmpty || places.any Option.isNone then 1 else 0 }

/-! ## Variables -/

def environment : Tool := fun t =>
  t.withArguments { plain := "0", untilOperand := true, words := [("null", '0')] } 2 fun a =>
    let end_ := if a.has '0' then ['\x00'] else ['\n']
    if a.operands.isEmpty then
      t.prints (t.environment.flatMap fun (name, value) => name ++ '=' :: value ++ end_)
    else
      let values := a.operands.map fun name => t.environment.lookup name
      { output := (values.filterMap id).flatMap (· ++ end_), left := some t.input
        status := if values.all Option.isSome then 0 else 1 }

end Tool

/-!
## Tools about places

Tools that print where a program runs, and say whether paths can be used and what they lead
through.
-/

namespace Whereabouts

/-- Whether a path has steps that lead nowhere else. -/
def hasDots (path : Octets) : Bool :=
  (Octets.splitAt '/' path).any fun step => step == ['.'] || step == ['.', '.']

/-- Prints the directory that the program runs in. A path that a variable holds can be taken
if it leads there. -/
def working : Tool := fun t =>
  t.withArguments { plain := "LP", words := [("logical", 'L'), ("physical", 'P')] } 1 fun a =>
    let logical := match a.last? "LP" with
      | some c => c == 'L'
      | none => (t.environment.lookup "POSIXLY_CORRECT".toList).isSome
    let remark := if a.operands.isEmpty then []
      else t.complaint "ignoring non-option arguments".toList
    match t.files.workplace with
    | .error e => t.fails ("couldn't find directory entry in '..'".toList ++ reasonOf e) 1
    | .ok place =>
      let path := FileTree.pathOf place.steps
      let told := (t.environment.lookup "PWD".toList).filter fun given =>
        given.head? == some '/' && !hasDots given &&
          ((t.files.place given).toOption.map FileTree.Place.steps) == some place.steps
      let shown := if logical then told.getD path else path
      { t.prints (shown ++ ['\n']) with errors := remark }

/-! ## Names of files -/

def isPortable (c : Char) : Bool := c.isAlphanum || "._-/".contains c

/-- What keeps a path from being used, if something does. -/
def trouble? (t : Task) (basic extra : Bool) (path : Octets) : Option Octets :=
  let steps := (Octets.splitAt '/' path).filter (!·.isEmpty)
  let limit (most : Nat) (what : String) (text : Octets) : Octets :=
    "limit ".toList ++ Octets.ofNat most ++ " exceeded by length ".toList ++
      Octets.ofNat text.length ++ (" of file name " ++ what).toList ++ Octets.quoted text
  if extra && steps.any fun step => step.head? == some '-' then
    some ("leading '-' in a component of file name ".toList ++ Octets.quoted path)
  else if (basic || extra) && path.isEmpty then some "empty file name".toList
  else if basic then
    match path.find? fun c => !isPortable c with
    | some c =>
      some ("nonportable character ".toList ++ Octets.quoted [c] ++ " in file name ".toList ++
        Octets.quoted path)
    | none =>
      if 255 < path.length then some (limit 255 "" path)
      else (steps.find? fun step => 14 < step.length).map (limit 14 "component ")
  else
    match t.files.slot false path with
    | .ok _ => if path.isEmpty then some "'': No such file or directory".toList else none
    | .error e =>
      if e = FileTree.notFound && !path.isEmpty then none
      else some (Octets.asName path ++ ": ".toList ++ reasonOf e)

def check : Tool := fun t =>
  t.withArguments { plain := "pP", hidden := "x", words := [("portability", 'x')] } 1 fun a =>
    let all := a.has 'x'
    if a.operands.isEmpty then t.refuses "missing operand".toList 1
    else
      let found := a.operands.filterMap (trouble? t (all || a.has 'p') (all || a.has 'P'))
      { errors := found.flatMap t.complaint, left := some t.input
        status := if found.isEmpty then 0 else 1 }

/-- Says which files cannot be opened to be made safe. -/
def sync : Tool := fun t =>
  t.withArguments { plain := "df", words := [("data", 'd'), ("file-system", 'f')] } 1 fun a =>
    if a.has 'd' && a.has 'f' then
      t.fails "cannot specify both --data and --file-system".toList 1
    else if a.operands.isEmpty && a.has 'd' then
      t.fails "--data needs at least one argument".toList 1
    else
      let found := a.operands.filterMap fun path =>
        match t.files.node path with
        | .ok _ => none
        | .error e =>
          some ("error opening ".toList ++ Octets.quoted path ++ ": ".toList ++ reasonOf e)
      { errors := found.flatMap t.complaint, left := some t.input
        status := if found.isEmpty then 0 else 1 }

/-- Tells how many processors there are, or rather what is wrong with the question. -/
def processors : Tool := fun t =>
  t.withArguments
      { valued := "i", plain := "a", hidden := "ia", words := [("all", 'a'), ("ignore", 'i')] } 1
      fun a =>
    let bad := (a.value? 'i').filter fun n => (Octets.decimal? n).isNone
    match bad with
    | some n => t.fails ("invalid number: ".toList ++ Octets.quoted n) 1
    | none => Identity.withAtMost t 0 1 a (t.prints [])

/-! ## Where file systems are mounted -/

def mounts : List String := ["/", "/proc", "/dev", "/sys", "/dev/pts", "/dev/shm", "/dev/mqueue"]

/-- Says whether another file system begins at a path. -/
def mounted : Tool := fun t =>
  t.withArgumentsOr
      { plain := "qdx", words := [("quiet", 'q'), ("fs-devno", 'd'), ("devno", 'x'),
          ("nofollow", 'n')], hidden := "n" }
      (fun m => t.refuses m 1) fun a =>
    match a.operands with
    | [path] =>
      match t.files.place path with
      | .error e =>
        let r := t.fails (path ++ ": ".toList ++ reasonOf e) 1
        if a.has 'q' then { r with errors := [] } else r
      | .ok place =>
        let isOne := mounts.any fun m => m.toList == FileTree.pathOf place.steps
        let line := path ++ (if isOne then " is a mountpoint\n" else " is not a mountpoint\n").toList
        { output := if a.has 'q' || a.has 'd' then [] else line, left := some t.input
          status := if isOne then 0 else 32 }
    | _ => t.refuses "bad usage".toList 1

end Whereabouts

end CommandChains.Machine
