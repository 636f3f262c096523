import CommandChains.Machine.Arguments
import CommandChains.Machine.Account
import CommandChains.Machine.Installation
import CommandChains.Machine.Path
import CommandChains.Machine.Quotation

/-!
# Tools

A tool is a program that does its work at once: from its arguments and the input it
makes output, complaints and an exit status. A tool reads its input or the files
that its operands name, where a single dash names the input. What it has not read
is left to others.
-/

namespace CommandChains.Machine

structure Task where
  name : Octets
  arguments : List Octets := []
  environment : Environment := []
  input : Octets := []
  /-- When the input is complete, in nanoseconds from the start. -/
  inputEnds : Nat := 0
  /-- What can be read from further streams, by their numbers. -/
  streams : List (Nat × Octets) := []
  files : Files := Installation.files
  niceness : Int := 0

structure Report where
  output : Octets := []
  errors : Octets := []
  /-- What it says on the stream of errors after it has printed. -/
  late : Octets := []
  files : Option Files := none
  lasts : Nat := 0
  /-- The input that is left, unless the tool has gone on to its end. -/
  left : Option Octets := none
  status : Nat := 0

structure Source where
  name : Octets
  contents : Except SystemError Octets

namespace Source

def isInput (s : Source) : Bool := s.name == ['-']

def text (s : Source) : Octets :=
  match s.contents with
  | .ok text => text
  | .error _ => []

def isDirectory (s : Source) : Bool :=
  match s.contents with
  | .ok _ => false
  | .error e => e = FileTree.isADirectory

end Source

def reasonOf : SystemError → Octets
  | .number code => (SystemError.describe code).toList
  | .text message => Octets.ofText message

namespace Task

def complaint (t : Task) (message : Octets) : Octets :=
  t.name ++ ": ".toList ++ message ++ ['\n']

def hint (t : Task) : Octets :=
  "Try '".toList ++ t.name ++ " --help' for more information.\n".toList

def prints (t : Task) (output : Octets) : Report :=
  { output, left := some t.input }

def fails (t : Task) (message : Octets) (status : Nat) : Report :=
  { errors := t.complaint message, left := some t.input, status }

def refuses (t : Task) (message : Octets) (status : Nat) : Report :=
  { errors := t.complaint message ++ t.hint, left := some t.input, status }

/-- Takes the arguments apart and goes on with them, or refuses them. A tool that is asked
to tell about itself does nothing else; what it tells does not matter. -/
def withArgumentsOr (t : Task) (known : Known) (refusal : Octets → Report)
    (work : Arguments → Report) : Report :=
  let words := known.words ++ [("help", '\x00'), ("version", '\x00')]
  match Arguments.read { known with words } t.arguments with
  | .error misuse => refusal misuse.message
  | .ok a => if a.has '\x00' then { left := some t.input } else work a

/-- Takes the arguments apart and goes on with them, or refuses them with a status. -/
def withArguments (t : Task) (known : Known) (status : Nat) (work : Arguments → Report) :
    Report :=
  t.withArgumentsOr known (fun message => t.refuses message status) work

/-- The number of a stream that has a name as a file. -/
def namedStream? (path : Octets) : Option Nat :=
  match String.ofList path with
  | "/dev/stdin" => some 0
  | "/dev/stdout" => some 1
  | "/dev/stderr" => some 2
  | _ =>
    ["/dev/fd/", "/proc/self/fd/"].findSome? fun front =>
      if front.toList.isPrefixOf path then Octets.decimal? (path.drop front.length) else none

def isInput (t : Task) (name : Octets) : Bool :=
  name == ['-'] || (namedStream? name == some 0 && !t.streams.any fun stream => stream.1 == 0)

/-- What can be read from a file that is not the input. -/
def contents (t : Task) (path : Octets) : Except SystemError Octets :=
  match namedStream? path with
  | some number =>
    if number = 0 then .ok t.input
    else
      match t.streams.lookup number with
      | some text => .ok text
      | none => if number ≤ 2 then .ok [] else .error FileTree.notFound
  | none => t.files.contents path

/-- What some operands name: each a source, where the input can be read once. -/
def open_ (t : Task) : Bool → List Octets → List Source
  | _, [] => []
  | read, name :: rest =>
    if t.isInput name then ⟨name, .ok (if read then [] else t.input)⟩ :: open_ t true rest
    else ⟨name, t.contents name⟩ :: open_ t read rest

/-- What the operands name, or the input if there are none, and the input that is left if
it is not among them. -/
def sources (t : Task) (operands : List Octets) : List Source × Option Octets :=
  let names := if operands.isEmpty then [['-']] else operands
  (open_ t false names, if names.any t.isInput then none else some t.input)

def complaints (t : Task) (sources : List Source)
    (message : Source → Octets → Octets) : Octets :=
  sources.flatMap fun s =>
    match s.contents with
    | .ok _ => []
    | .error e => t.complaint (message s (reasonOf e))

/-- The usual way to say that a source cannot be read. -/
def plainly (s : Source) (reason : Octets) : Octets :=
  Octets.asName s.name ++ ": ".toList ++ reason

def overSources (t : Task) (operands : List Octets) (message : Source → Octets → Octets)
    (failure : Nat) (work : List Source → Octets) : Report :=
  let (sources, left) := t.sources operands
  let errors := t.complaints sources message
  { output := work sources, errors, left,
    status := if errors.isEmpty then 0 else failure }

/-- The texts that can be read, one behind the other. -/
def textOf (sources : List Source) : Octets :=
  sources.flatMap Source.text

end Task

inductive Destination where
  | output
  | errors
  | file (outlet : Files.Outlet)
  deriving DecidableEq, Repr

def openPath (files : Files) (how : Files.Opening) (path : Octets) :
    Except SystemError (Destination × Files) :=
  match Task.namedStream? path with
  | some 1 => .ok (.output, files)
  | some 2 => .ok (.errors, files)
  | _ => (files.openToWrite how path).map fun (outlet, files) => (.file outlet, files)

namespace Report

/-- With a text written to some place, where the files were as given if nothing is known
of them. -/
def put (r : Report) (files : Files) (d : Destination) (text : Octets) : Report :=
  match d with
  | .output => { r with output := r.output ++ text }
  | .errors => { r with errors := r.errors ++ text }
  | .file outlet => { r with files := some ((r.files.getD files).append outlet text) }

/-- What a tool has done that writes its output to a file, if one is named. -/
def writtenTo (r : Report) (t : Task) (failure : Nat) (path : Option Octets)
    (message : Source → Octets → Octets) : Report :=
  match path with
  | none => r
  | some path =>
    match openPath (r.files.getD t.files) {} path with
    | .ok (d, files) => { r with output := [], files := some files }.put files d r.output
    | .error e => t.fails (message ⟨path, .error e⟩ (reasonOf e)) failure

end Report

abbrev Tool := Task → Report

/-!
## Errands

What a tool does to files, one after the other: the files as they are after each, what it
tells about them, and what it complains about. A complaint does not end the errand.
-/

structure Errand where
  files : Files
  output : Octets := []
  errors : Octets := []
  failed : Bool := false

namespace Errand

def tells (e : Errand) (line : Octets) : Errand := { e with output := e.output ++ line ++ ['\n'] }

def complains (e : Errand) (t : Task) (message : Octets) : Errand :=
  { e with errors := e.errors ++ t.complaint message, failed := true }

/-- Goes on with a change of the files, or complains with a reason. -/
def try_ (e : Errand) (t : Task) (message : Octets) (change : Except SystemError Files)
    (then_ : Errand → Errand := id) : Errand :=
  match change with
  | .ok files => then_ { e with files }
  | .error reason => e.complains t (message ++ ": ".toList ++ reasonOf reason)

/-- What a tool has done at the end of an errand. -/
def report (e : Errand) (t : Task) (failure : Nat := 1) : Report :=
  { output := e.output, errors := e.errors, files := some e.files, left := some t.input
    status := if e.failed then failure else 0 }

def each {α : Type} (t : Task) (things : List α) (work : Errand → α → Errand)
    (failure : Nat := 1) : Report :=
  (things.foldl work { files := t.files }).report t failure

end Errand

namespace Task

def needsOperands (t : Task) (a : Arguments) (what : String) (work : Report) : Report :=
  if a.operands.isEmpty then t.refuses ("missing " ++ what ++ "operand").toList 1 else work

end Task

end CommandChains.Machine
