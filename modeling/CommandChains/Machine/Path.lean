import CommandChains.Machine.Files
import CommandChains.Machine.Octets

/-!
# Paths

A path is a row of steps with slashes between them. It can be taken apart without
following it.
-/

namespace CommandChains.Machine

namespace Path

def dropSlashes (path : Octets) : Octets :=
  (path.reverse.dropWhile (· == '/')).reverse

def lastStep (path : Octets) : Octets :=
  match dropSlashes path with
  | [] => if path.isEmpty then [] else ['/']
  | trimmed => (trimmed.reverse.takeWhile (· != '/')).reverse

def withoutLastStep (path : Octets) : Octets :=
  let trimmed := dropSlashes path
  let before := (trimmed.reverse.dropWhile (· != '/')).reverse
  if trimmed.isEmpty then (if path.isEmpty then ['.'] else ['/'])
  else if before.isEmpty then ['.']
  else match dropSlashes before with
    | [] => ['/']
    | directory => directory

end Path

/-!
## Paths without detours

Every file has a path from the root on which no step is a link and none leads back. A
path can be given without detours even if not everything on it is there.
-/

namespace Canonical

open FileTree

inductive Presence where
  | everything
  | directories
  | nothing
  deriving DecidableEq, Repr

/-- How far a path has been followed: to a place, and to steps behind it that are not
there. -/
structure Trail where
  place : Place
  /-- The steps that are not there, the last one first. -/
  missing : List Octets := []

def Trail.back (t : Trail) : Trail :=
  match t.missing, t.place.above with
  | _ :: missing, _ => { t with missing }
  | [], (_, up) :: higher => { t with place := ⟨up, higher⟩ }
  | [], [] => t

def Trail.path (t : Trail) : Octets :=
  pathOf (t.place.steps ++ t.missing.reverse.map String.ofList)

def walkBy (root : Node) (p : Presence) (jump : Trail → Steps → Except SystemError Trail) :
    Trail → Steps → Except SystemError Trail
  | t, [] => .ok t
  | t, name :: rest =>
    let stands := p = .nothing || !t.missing.isEmpty || t.place.node.isDirectory
    if !stands then .error notADirectory
    else if name = [] ∨ name = ['.'] then walkBy root p jump t rest
    else if name = ['.', '.'] then walkBy root p jump t.back rest
    else if !t.missing.isEmpty then
      walkBy root p jump { t with missing := name :: t.missing } rest
    else
      match enter t.place name with
      | .ok next =>
        match next.node with
        | .link path =>
          jump { place := startOf root path.toList t.place }
            (Octets.splitAt '/' path.toList ++ rest)
        | _ => walkBy root p jump { place := next } rest
      | .error e =>
        let missing : Trail := { t with missing := [name] }
        match p with
        | .nothing => if e = nameTooLong then .error e else walkBy root p jump missing rest
        | .directories =>
          if e = notFound && rest.all List.isEmpty then .ok missing else .error e
        | .everything => .error e

def walk (root : Node) (p : Presence) : Nat → Trail → Steps → Except SystemError Trail
  | 0 => walkBy root p fun _ _ => .error tooManyLinks
  | links + 1 => walkBy root p (walk root p links)

def pathOf (f : Files) (p : Presence) (path : Octets) : Except SystemError Octets :=
  f.along path fun start steps =>
    (walk f.root p linkLimit { place := start } steps).map Trail.path

/-- Steps where those that lead back are taken away with those before them, without looking
where they lead. -/
def straightened : Steps → List Octets → List Octets
  | [], done => done.reverse
  | name :: rest, done =>
    if name = [] ∨ name = ['.'] then straightened rest done
    else if name = ['.', '.'] then straightened rest (done.drop 1)
    else straightened rest (name :: done)

/-- A path from the root, made of the steps of another one without looking at links. -/
def straightPath (f : Files) (path : Octets) : Octets :=
  let front := if path.head? = some '/' then [] else f.here.map String.toList
  FileTree.pathOf ((straightened (front ++ Octets.splitAt '/' path) []).map String.ofList)

/-- How to come from a directory to a path, both without detours. -/
def relative (directory path : Octets) : Octets :=
  let a := (Octets.splitAt '/' directory).filter (!·.isEmpty)
  let b := (Octets.splitAt '/' path).filter (!·.isEmpty)
  let common := ((a.zip b).takeWhile fun (x, y) => x == y).length
  let steps := (a.drop common).map (fun _ => ['.', '.']) ++ b.drop common
  if steps.isEmpty then ['.'] else Octets.joined ['/'] steps

end Canonical

end CommandChains.Machine
