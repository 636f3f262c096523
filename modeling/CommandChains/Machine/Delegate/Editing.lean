import CommandChains.Machine.Edit.Reader
import CommandChains.Machine.Edit.Run

/-!
# The line editor

A program that takes line after line and carries out a script on each. The script is the first
operand, or comes from options; the other operands name files.
-/

namespace CommandChains.Machine.Edit

/-- How a page is referred to. -/
def page (host path : String) : String :=
  "<https://" ++ host ++ "/" ++ path ++ "/>."

def usage : Octets := Octets.unlines <| [
  "Usage: sed [OPTION]... \x7bscript-only-if-no-other-script\x7d [input-file]...",
  "",
  "  -n, --quiet, --silent",
  "                 suppress automatic printing of pattern space",
  "      --debug",
  "                 annotate program execution",
  "  -e script, --expression=script",
  "                 add the script to the commands to be executed",
  "  -f script-file, --file=script-file",
  "                 add the contents of script-file to the commands to be executed",
  "  --follow-symlinks",
  "                 follow symlinks when processing in place",
  "  -i[SUFFIX], --in-place[=SUFFIX]",
  "                 edit files in place (makes backup if SUFFIX supplied)",
  "  -l N, --line-length=N",
  "                 specify the desired line-wrap length for the \x60l' command",
  "  --posix",
  "                 disable all GNU extensions.",
  "  -E, -r, --regexp-extended",
  "                 use extended regular expressions in the script",
  "                 (for portability use POSIX -E).",
  "  -s, --separate",
  "                 consider files as separate rather than as a single,",
  "                 continuous long stream.",
  "      --sandbox",
  "                 operate in sandbox mode (disable e/r/w commands).",
  "  -u, --unbuffered",
  "                 load minimal amounts of data from the input files and flush",
  "                 the output buffers more often",
  "  -z, --null-data",
  "                 separate lines by NUL characters",
  "      --help     display this help and exit",
  "      --version  output version information and exit",
  "",
  "If no -e, --expression, -f, or --file option is given, then the first",
  "non-option argument is taken as the sed script to interpret.  All",
  "remaining arguments are names of input files; if no input files are",
  "specified, then the standard input is read.",
  "",
  "GNU sed home page: " ++ page "www.gnu.org" "software/sed",
  "General help using GNU software: " ++ page "www.gnu.org" "gethelp"].map String.toList

def known : Known :=
  { plain := "nErsuzb", valued := "eflV", optional := "i", hidden := "DPSFHW"
    words := [("binary", 'b'), ("regexp-extended", 'r'), ("debug", 'D'), ("in-place", 'i'),
      ("expression", 'e'), ("file", 'f'), ("line-length", 'l'), ("null-data", 'z'),
      ("zero-terminated", 'z'), ("quiet", 'n'), ("posix", 'P'), ("silent", 'n'),
      ("sandbox", 'S'), ("separate", 's'), ("unbuffered", 'u'), ("version", 'W'), ("help", 'H'),
      ("follow-symlinks", 'F')] }

/-- Reads the parts of a script in the order of the options, with so many arguments among them
before. Files are read at once. -/
def readParts (t : Task) (d : Dialect) : Nat → List (Char × Octets) → Octets → Reading Octets
  | _, [], input => pure input
  | before, ('e', text) :: rest, input => do
    Reading.part d (.argument before) text
    readParts t d (before + 1) rest input
  | before, ('f', name) :: rest, input => do
    let own := t.isInput name
    let task := { t with files := (← get).files }
    let text ← match if own then Except.ok input else task.contents name with
      | .ok text => pure text
      | .error e =>
        if e = FileTree.isADirectory then pure []
        else
          let message := "couldn't open file ".toList ++ name ++ ": ".toList ++ reasonOf e
          throw { message, status := 4 }
    Reading.part d (.file name) text
    readParts t d before rest (if own then [] else input)
  | before, _ :: rest, input => readParts t d before rest input

/-- Edits what the operands name with a script in parts. -/
def edit (start : Start) (t : Task) (a : Arguments) (parts : List (Char × Octets))
    (operands : List Octets) : Performance :=
  let d : Dialect :=
    { extended := a.has 'E' || a.has 'r', strict := a.has 'P', guarded := a.has 'S' }
  let reading : Reading Octets := do
    let input ← readParts t d 0 parts t.input
    Reading.finish
    pure input
  let (result, draft) := reading.run.run { files := t.files }
  let touched : Option Files := if draft.outlets.isEmpty then none else some draft.files
  match result with
  | .error refusal =>
    t.reports { t.fails refusal.message refusal.status with files := touched }
  | .ok input =>
    if a.has 'i' && operands.isEmpty then
      t.reports { t.fails "no input files".toList 4 with files := touched }
    else
      let width := ((a.value? 'l').map fun n => Octets.decimal (n.takeWhile Char.isDigit)).getD 70
      let c : Setting :=
        { task := t, start, commands := draft.commands.reverse.toArray
          quiet := a.has 'n' || draft.quiet, strict := a.has 'P', telling := a.has 'D'
          eager := a.has 'u', separate := a.has 's' || a.has 'i'
          editing := (a.value? 'i').map fun keeping => { keeping, follows := a.has 'F' }
          mark := a.lineEnd, width, place := draft.placeBehind }
      let sequel : Delegate.Sequel :=
        { files := draft.files, changed := touched.isSome, input }
      Act.outcome c
        { sequel, names := if operands.isEmpty then [['-']] else operands
          outlets := draft.outlets.map fun (name, target) => (name, target, false) }

def behavior : Behavior := fun start t =>
  let refuse (complaint : Octets) : Performance :=
    t.reports { errors := complaint ++ usage, left := some t.input, status := 1 }
  match Arguments.read known t.arguments with
  | .error misuse => refuse (t.complaint misuse.message)
  | .ok a =>
    if a.has 'H' then t.reports (t.prints usage)
    else if a.has 'W' then t.reports (t.prints [])
    else if a.has 'e' || a.has 'f' then edit start t a a.options a.operands
    else
      match a.operands with
      | [] => refuse []
      | script :: operands => edit start t a [('e', script)] operands

end CommandChains.Machine.Edit
