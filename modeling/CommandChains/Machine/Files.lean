import CommandChains.Machine.Octets
import CommandChains.SystemError

/-!
# Files and where they are found

Files make a tree. A path is followed from the root or from the place where a process
stands. Following a path needs a directory at every step but the last, and a step can
only be so long. A link leads on to another path; only so many may be followed.

Programs are files. A name with a slash in it is a path and is followed as it
stands. A name without one is looked for in the directories of the search path,
in order. A directory where the name cannot be run does not end the search, but
if nothing better turns up the refusal is what is reported.
-/

namespace CommandChains.Machine

inductive Node where
  | directory (mode : Nat) (entries : List (String × Node))
  /-- A file as it comes with the system, and what it holds. -/
  | data (text : Octets)
  /-- A file that was made or changed, by the number of what it holds. -/
  | file (number : Nat)
  | device (name : String)
  /-- A file that can be run, by the name of what it does. -/
  | program (name : String)
  | link (path : String)
  deriving Inhabited

namespace Node

def isLink : Node → Bool
  | link _ => true
  | _ => false

def isDirectory : Node → Bool
  | directory _ _ => true
  | _ => false

def isDevice : Node → Bool
  | device _ => true
  | _ => false

/-- The device that stands for a pipe with a name. -/
def pipe : Node := device "pipe"

def isPipe : Node → Bool
  | device "pipe" => true
  | _ => false

def entries : Node → List (String × Node)
  | directory _ entries => entries
  | _ => []

/-- Entries where the one with a name has become something else, or nothing. -/
def alterEntry (entries : List (String × Node)) (name : String)
    (change : Option Node → Option Node) : List (String × Node) :=
  match change (entries.lookup name) with
  | none => entries.filter fun entry => entry.1 != name
  | some node =>
    if (entries.lookup name).isSome then
      entries.map fun entry => if entry.1 = name then (name, node) else entry
    else entries ++ [(name, node)]

/-- A tree where what some steps lead to has become something else, or nothing. -/
def alter (change : Option Node → Option Node) : List String → Node → Node
  | [], node => (change (some node)).getD node
  | [name], directory mode entries => directory mode (alterEntry entries name change)
  | name :: rest, directory mode entries =>
    directory mode (entries.map fun entry =>
      if entry.1 = name then (name, alter change rest entry.2) else entry)
  | _, node => node

end Node

namespace FileTree

def notAllowed : SystemError := .number 1

def notFound : SystemError := .number 2

def argumentTooLong : SystemError := .number 7

def noProgram : SystemError := .number 8

def notPermitted : SystemError := .number 13

def fileExists : SystemError := .number 17

def notADirectory : SystemError := .number 20

def isADirectory : SystemError := .number 21

def invalid : SystemError := .number 22

/-- A step of a path, or the whole path, is too long. -/
def nameTooLong : SystemError := .number 36

def notEmpty : SystemError := .number 39

def tooManyLinks : SystemError := .number 40

def longestName : Nat := 255

def pathLimit : Nat := 4096

def argumentLimit : Nat := 131072

def linkLimit : Nat := 40

/-- Where a path has led: a node, and the directories it lies in, the nearest first, each
with the name of the step that led on from it. The root lies in itself. -/
structure Place where
  node : Node
  above : List (String × Node)

def Place.steps (p : Place) : List String := (p.above.map (·.1)).reverse

/-- A path that leads to some steps from the root. -/
def pathOf (steps : List String) : Octets :=
  if steps.isEmpty then ['/'] else steps.flatMap fun step => '/' :: step.toList

abbrev Steps := List Octets

/-- The place that a path starts from: the root, or else the place it is taken from. -/
def startOf (root : Node) (path : Octets) (here : Place) : Place :=
  if path.head? = some '/' then ⟨root, []⟩ else here

def enter (place : Place) (name : Octets) : Except SystemError Place :=
  match place.node with
  | .directory _ entries =>
    if name = [] ∨ name = ['.'] then .ok place
    else if name = ['.', '.'] then
      match place.above with
      | [] => .ok place
      | (_, up) :: higher => .ok ⟨up, higher⟩
    else if longestName < name.length then .error nameTooLong
    else
      match entries.lookup (String.ofList name) with
      | none => .error notFound
      | some next => .ok ⟨next, (String.ofList name, place.node) :: place.above⟩
  | _ => .error notADirectory

/-- Follows steps from a place, where `jump` goes on behind a link. -/
def followBy (root : Node) (jump : Place → Steps → Except SystemError Place) :
    Place → Steps → Except SystemError Place
  | place, [] => .ok place
  | place, name :: rest =>
    match enter place name with
    | .error e => .error e
    | .ok next =>
      match next.node with
      | .link path =>
        jump (startOf root path.toList place) (Octets.splitAt '/' path.toList ++ rest)
      | _ => followBy root jump next rest

def follow (root : Node) : Nat → Place → Steps → Except SystemError Place
  | 0 => followBy root fun _ _ => .error tooManyLinks
  | links + 1 => followBy root (follow root links)

/-- Where a file is or could be: a directory and a name in it. -/
structure Slot where
  directory : Place
  name : Octets
  node : Option Node

def Slot.steps (s : Slot) : List String := s.directory.steps ++ [String.ofList s.name]

/-- The slot that the last of some steps leads to, where a link there is followed if
`through` says so, at most so many times. -/
def slotAt (root : Node) (through : Bool) : Nat → Place → Steps → Except SystemError Slot
  | 0, _, _ => .error tooManyLinks
  | links + 1, start, steps =>
    match follow root linkLimit start steps.dropLast with
    | .error e => .error e
    | .ok directory =>
      let name := steps.getLast?.getD []
      match enter directory name with
      | .ok ⟨.link path, above⟩ =>
        if through then
          slotAt root through links (startOf root path.toList directory)
            (Octets.splitAt '/' path.toList)
        else .ok ⟨directory, name, some (Place.mk (.link path) above).node⟩
      | .ok place =>
        match name, place.above with
        | [], (own, up) :: higher | ['.'], (own, up) :: higher
        | ['.', '.'], (own, up) :: higher => .ok ⟨⟨up, higher⟩, own.toList, some place.node⟩
        | _, _ => .ok ⟨directory, name, some place.node⟩
      | .error e => if e = notFound then .ok ⟨directory, name, none⟩ else .error e

end FileTree

/-!
## Files as a process sees them

The tree of all files, what the files hold that can change, and the place where the
process stands. Everything that makes, changes or removes a file gives the files as they
are after that.
-/

structure Body where
  mode : Nat
  /-- When it was changed last: later changes have greater numbers. What was changed before
  the machine was started has a number that is not positive. -/
  stamp : Int
  text : Octets
  deriving DecidableEq, Repr

structure Files where
  root : Node
  bodies : List (Nat × Body) := []
  next : Nat := 1
  /-- The steps from the root to the place where the process stands. -/
  here : List String := []
  mask : Nat := 18

namespace Files

open FileTree

/-! ## Looking -/

def workplace (f : Files) : Except SystemError Place :=
  follow f.root linkLimit ⟨f.root, []⟩ (f.here.map String.toList)

/-- Does something with the steps of a path and the place where they begin. -/
def along {α : Type} (f : Files) (path : Octets)
    (work : Place → Steps → Except SystemError α) : Except SystemError α :=
  if path = [] then .error notFound
  else if pathLimit ≤ path.length then .error nameTooLong
  else
    match if path.head? = some '/' then .ok ⟨f.root, []⟩ else f.workplace with
    | .error e => .error e
    | .ok start => work start (Octets.splitAt '/' path)

def place (f : Files) (path : Octets) : Except SystemError Place :=
  f.along path (follow f.root linkLimit)

def node (f : Files) (path : Octets) : Except SystemError Node :=
  (f.place path).map Place.node

/-- Where a path leads if a link at its end is not followed. -/
def placeOfLink (f : Files) (path : Octets) : Except SystemError Place :=
  f.along path fun start steps =>
    match follow f.root linkLimit start steps.dropLast with
    | .error e => .error e
    | .ok directory => enter directory (steps.getLast?.getD [])

def has (f : Files) (path : Octets) : Bool := (f.node path).toOption.isSome

/-- How much is read at most of a device that never ends. -/
def deviceLimit : Nat := 65536

def noise : Nat → Nat → Octets
  | 0, _ => []
  | size + 1, seed =>
    let seed := (seed * 1103515245 + 12345) % 2147483648
    Char.ofNat (seed / 65536 % 256) :: noise size seed

def textOf (f : Files) : Node → Octets
  | .data text => text
  | .file number => ((f.bodies.lookup number).map Body.text).getD []
  | .device "zero" | .device "full" => List.replicate deviceLimit '\x00'
  | .device "random" | .device "urandom" => noise 4096 1
  | _ => []

/-- What can be read from the file at a path. -/
def contents (f : Files) (path : Octets) : Except SystemError Octets :=
  match f.node path with
  | .error e => .error e
  | .ok (.directory _ _) => .error isADirectory
  | .ok node => .ok (f.textOf node)

/-- The programs that run with the rights of their owner. -/
def ownerPrograms : List String :=
  ["chfn", "chsh", "gpasswd", "mount", "newgrp", "passwd", "su", "umount"]

def modeOf (f : Files) : Node → Nat
  | .directory mode _ => mode
  | .data _ => 420
  | .file number => ((f.bodies.lookup number).map Body.mode).getD 420
  | .device name => if name = "pipe" then 420 else 438
  | .program name => if ownerPrograms.contains name then 2541 else 493
  | .link _ => 511

def stampOf (f : Files) : Node → Int
  | .file number => ((f.bodies.lookup number).map Body.stamp).getD 0
  | _ => 0

def sizeOf (f : Files) : Node → Nat
  | .directory _ _ => 4096
  | .device _ => 0
  | .link path => path.utf8ByteSize
  | node => (f.textOf node).length

def isRunnable (f : Files) (node : Node) : Bool :=
  !node.isDirectory && (f.modeOf node) % 2 + (f.modeOf node / 8) % 2 + (f.modeOf node / 64) % 2 != 0

def names (node : Node) : List Octets :=
  (node.entries.map fun entry => entry.1.toList).mergeSort Octets.atMost

def herePath (f : Files) : Octets := pathOf f.here

/-! ## Programs -/

/-- A program that was found: one that comes with the system, or a script. -/
inductive Runnable where
  | known (name : String)
  | script (text : Octets)
  deriving DecidableEq, Repr

def programAt (f : Files) (path : Octets) : Except SystemError Runnable :=
  match f.node path with
  | .error e => .error e
  | .ok (.program name) => .ok (.known name)
  | .ok node => if f.isRunnable node && !node.isDevice then .ok (.script (f.textOf node))
    else .error notPermitted

/-- Looks for a name in directories, where `otherwise` is what to report if nothing
is found. Gives the path, too. -/
def search (f : Files) (name : Octets) (otherwise : SystemError) :
    List Octets → Except SystemError (Octets × Runnable)
  | [] => .error otherwise
  | directory :: rest =>
    let path := if directory.isEmpty then name else directory ++ '/' :: name
    match f.programAt path with
    | .ok p => .ok (path, p)
    | .error e =>
      if e = notPermitted then search f name notPermitted rest
      else if e = notFound ∨ e = notADirectory then search f name otherwise rest
      else .error e

/-- The program that a name stands for, and its path. -/
def find (f : Files) (searchPath : List Octets) (name : Octets) :
    Except SystemError (Octets × Runnable) :=
  if name = [] then .error notFound
  else if '/' ∈ name then (f.programAt name).map fun p => (name, p)
  else f.search name notFound searchPath

/-! ## Changing -/

/-- Files where what some steps lead to has become something else, or nothing. -/
def alter (f : Files) (steps : List String) (change : Option Node → Option Node) : Files :=
  { f with root := f.root.alter change steps }

/-- Files where what a file holds has become something else. -/
def setBody (f : Files) (number : Nat) (body : Body) : Files :=
  { f with
    bodies := (number, body) :: f.bodies.filter fun entry => entry.1 != number }

def setText (f : Files) (number : Nat) (text : Octets) : Files :=
  let mode := ((f.bodies.lookup number).map Body.mode).getD 420
  { f.setBody number { mode, stamp := f.next, text } with next := f.next + 1 }

def slot (f : Files) (through : Bool) (path : Octets) : Except SystemError Slot :=
  f.along path (slotAt f.root through linkLimit)

def allowed (f : Files) (mode : Nat) : Nat := Nat.land mode (4095 - f.mask % 512)

def newFile (f : Files) (s : Slot) (mode : Nat) (text : Octets) : Nat × Files :=
  let number := f.next
  let f := f.alter s.steps fun _ => some (.file number)
  (number, { f.setBody number { mode, stamp := number, text } with next := number + 1 })

/-- Files where the file at a path counts as changed at some time. -/
def setStamp (f : Files) (stamp : Int) (path : Octets) : Except SystemError Files :=
  match f.place path with
  | .error e => .error e
  | .ok place =>
    match place.node with
    | .file number =>
      match f.bodies.lookup number with
      | some body => .ok (f.setBody number { body with stamp })
      | none => .ok f
    | .data text =>
      let number := f.next
      let f := f.alter place.steps fun _ => some (.file number)
      .ok { f.setBody number { mode := 420, stamp, text } with next := number + 1 }
    | _ => .ok f

inductive Outlet where
  | file (number : Nat)
  | nowhere
  | full
  deriving DecidableEq, Repr

structure Opening where
  empties : Bool := true
  mustBeNew : Bool := false
  makes : Bool := true
  mode : Nat := 438

def openToWrite (f : Files) (how : Opening) (path : Octets) : Except SystemError (Outlet × Files) :=
  match f.slot true path with
  | .error e => .error e
  | .ok s =>
    let kept (text : Octets) : Octets := if how.empties then [] else text
    match s.node with
    | none =>
      if path.getLast? = some '/' then .error isADirectory
      else if !how.makes then .error notFound
      else
        match s.directory.steps with
        | "proc" :: _ | "sys" :: _ => .error notFound
        | _ =>
          let (number, f) := f.newFile s (f.allowed how.mode) []
          .ok (.file number, f)
    | some (.directory _ _) => .error isADirectory
    | some (.device name) => .ok (if name = "full" then .full else .nowhere, f)
    | some (.file number) =>
      if how.mustBeNew then .error fileExists
      else
        let text := f.textOf (.file number)
        .ok (.file number, if how.empties && !text.isEmpty then f.setText number [] else f)
    | some node =>
      if how.mustBeNew then .error fileExists
      else
        let (number, f) := f.newFile s (f.modeOf node) (kept (f.textOf node))
        .ok (.file number, f)

def append (f : Files) (o : Outlet) (text : Octets) : Files :=
  match o with
  | .file number => if text.isEmpty then f else f.setText number (f.textOf (.file number) ++ text)
  | _ => f

def write (f : Files) (path text : Octets) (how : Opening := {}) : Except SystemError Files :=
  (f.openToWrite how path).map fun (outlet, f) => f.append outlet text

/-- A path without slashes at its end, unless nothing else is there. -/
def trimmed (path : Octets) : Octets :=
  match (path.reverse.dropWhile (· == '/')).reverse with
  | [] => path.take 1
  | path => path

def makeDirectory (f : Files) (mode : Nat) (path : Octets) : Except SystemError Files :=
  match f.slot false (trimmed path) with
  | .error e => .error e
  | .ok s =>
    if s.node.isSome then .error fileExists
    else
      match s.directory.steps with
      | "proc" :: _ | "sys" :: _ => .error notFound
      | _ => .ok (f.alter s.steps fun _ => some (.directory (f.allowed mode) []))

def remove (f : Files) (path : Octets) : Except SystemError Files :=
  match f.slot false path with
  | .error e => .error e
  | .ok s =>
    match s.node with
    | none => .error notFound
    | some (.directory _ _) => .error isADirectory
    | some _ => .ok (f.alter s.steps fun _ => none)

def removeDirectory (f : Files) (path : Octets) : Except SystemError Files :=
  match f.slot false (trimmed path) with
  | .error e => .error e
  | .ok s =>
    let last := (Octets.splitAt '/' (trimmed path)).getLastD []
    match s.node with
    | none => .error notFound
    | some (.directory _ entries) =>
      if last = ['.'] then .error invalid
      else if last = ['.', '.'] || !entries.isEmpty then .error notEmpty
      else .ok (f.alter s.steps fun _ => none)
    | some _ => .error notADirectory

def removeAll (f : Files) (path : Octets) : Except SystemError Files :=
  match f.slot false (trimmed path) with
  | .error e => .error e
  | .ok s => if s.node.isSome then .ok (f.alter s.steps fun _ => none) else .error notFound

/-- Puts a node into a slot that a path leads to. -/
def putNode (f : Files) (node : Node) (path : Octets) : Except SystemError Files :=
  match f.slot false (trimmed path) with
  | .error e => .error e
  | .ok s => if s.node.isSome then .error fileExists else .ok (f.alter s.steps fun _ => some node)

def link (f : Files) (old new : Octets) : Except SystemError Files :=
  match f.placeOfLink old with
  | .error e => .error e
  | .ok place =>
    if place.node.isDirectory then .error notAllowed
    else
      match place.node with
      | .data text =>
        let (number, g) := f.newFile ⟨⟨place.node, place.above.tail⟩,
          (place.above.head?.map fun entry => entry.1.toList).getD [], none⟩ 420 text
        (g.alter place.steps fun _ => some (.file number)).putNode (.file number) new
      | node => f.putNode node new

def rename (f : Files) (old new : Octets) : Except SystemError Files :=
  match f.slot false (trimmed old), f.slot false (trimmed new) with
  | .error e, _ => .error e
  | .ok _, .error e => .error e
  | .ok s, .ok d =>
    match s.node, d.node with
    | none, _ => .error notFound
    | some (.directory _ _), some (.directory _ (_ :: _)) =>
      if s.steps = d.steps then .ok f else .error notEmpty
    | some (.directory _ _), some (.directory _ []) =>
      .ok ((f.alter s.steps fun _ => none).alter d.steps fun _ => s.node)
    | some (.directory _ _), some _ => .error notADirectory
    | some _, some (.directory _ _) => .error isADirectory
    | some node, _ =>
      if s.steps = d.steps then .ok f
      else if node.isDirectory && s.steps.isPrefixOf d.steps then .error invalid
      else .ok ((f.alter s.steps fun _ => none).alter d.steps fun _ => some node)

def changeMode (f : Files) (mode : Nat) (path : Octets) : Except SystemError Files :=
  match f.place path with
  | .error e => .error e
  | .ok place =>
    match place.node with
    | .directory _ entries =>
      .ok (f.alter place.steps fun _ => some (.directory mode entries))
    | .file number =>
      match f.bodies.lookup number with
      | some body => .ok (f.setBody number { body with mode })
      | none => .ok f
    | .data text =>
      let number := f.next
      let f := f.alter place.steps fun _ => some (.file number)
      .ok { f.setBody number { mode, stamp := 0, text } with next := number + 1 }
    | _ => .ok f

def goTo (f : Files) (path : Octets) : Except SystemError Files :=
  match f.place path with
  | .error e => .error e
  | .ok place =>
    if place.node.isDirectory then .ok { f with here := place.steps } else .error notADirectory

/-- The files of another process, seen from the place of this one. -/
def seenAfter (f other : Files) : Files := { other with here := f.here, mask := f.mask }

end Files

end CommandChains.Machine
