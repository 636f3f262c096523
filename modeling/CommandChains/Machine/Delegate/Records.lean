import CommandChains.Machine.Records.Reader
import CommandChains.Machine.Records.Run

/-!
# A program that runs programs about records

What comes in is taken apart into records and fields, and a small program says what to do with
them. It is an argument or stands in files.
-/

namespace CommandChains.Machine.Records

def usage : Octets := Octets.unlines <| [
  "Usage: mawk [Options] [Program] [file ...]",
  "",
  "Program:",
  "    The -f option value is the name of a file containing program text.",
  "    If no -f option is given, a \"--\" ends option processing; the following",
  "    parameters are the program text.",
  "",
  "Options:",
  "    -f program-file  Program  text is read from file instead of from the",
  "                     command-line.  Multiple -f options are accepted.",
  "    -F value         sets the field separator, FS, to value.",
  "    -v var=value     assigns value to program variable var.",
  "    --               unambiguous end of options.",
  "",
  "    Implementation-specific options are prefixed with \"-W\".  They can be",
  "    abbreviated:",
  "",
  "    -W version       show version information and exit.",
  "    -W dump          show assembler-like listing of program and exit.",
  "    -W help          show this message and exit.",
  "    -W interactive   set unbuffered output, line-buffered input.",
  "    -W exec file     use file as program as well as last option.",
  "    -W posix         stricter POSIX checking.",
  "    -W random=number set initial random seed.",
  "    -W sprintf=number adjust size of sprintf buffer.",
  "    -W usage         show this message and exit."].map String.toList

def version : Octets := Octets.unlines <| [
  "mawk 1.3.4 20200120",
  "",
  "random-funcs:       srandom/random",
  "regex-funcs:        internal",
  "compiled limits:",
  "sprintf buffer      8192",
  "maximum-integer     2147483647"].map String.toList

structure Request where
  separator : Option Octets := none
  settings : List (String × Octets) := []
  sources : List Octets := []
  remarks : Octets := []

/-- What comes of the arguments: a request and the operands, or an end at once. -/
inductive Asked where
  | request (r : Request) (operands : List Octets)
  | ended (output : Octets)
  | misused (message : Octets)

def optionWords : List String :=
  ["version", "dump", "help", "interactive", "exec", "posix", "random", "sprintf", "usage",
    "lint", "re-interval", "traditional"]

/-- Reads the arguments. Each round takes at least one of them. -/
def readArguments (t : Task) : Nat → Request → List Octets → Asked
  | 0, r, operands => .request r operands
  | rounds + 1, r, arguments =>
    let word (text : Octets) (rest : List Octets) (otherwise : Asked) : Asked :=
      let name := text.takeWhile (· != '=')
      match optionWords.find? fun w => name.isPrefixOf w.toList && !name.isEmpty with
      | some "version" => .ended version
      | some "help" | some "usage" => .ended usage
      | some "exec" =>
        match text.drop (name.length + 1), rest with
        | [], file :: rest => .request { r with sources := r.sources ++ [file] } rest
        | [], [] => .misused "option -W lacks argument".toList
        | file, rest => .request { r with sources := r.sources ++ [file] } rest
      | some _ => readArguments t rounds r rest
      | none => otherwise
    let valued (letter : Char) (text : Octets) (rest : List Octets) : Asked :=
      match letter with
      | 'F' =>
        readArguments t rounds
          { r with separator := some (Lexeme.unescaped (text.length + 1) text) } rest
      | 'f' => readArguments t rounds { r with sources := r.sources ++ [text] } rest
      | 'v' =>
        match Act.setting? text with
        | some setting =>
          readArguments t rounds { r with settings := r.settings ++ [setting] } rest
        | none => .misused ("improper assignment: -v ".toList ++ text)
      | _ =>
        let remark := t.complaint ("vacuous option: -W \"".toList ++ text ++ ['"'])
        word text rest (readArguments t rounds { r with remarks := r.remarks ++ remark } rest)
    match arguments with
    | ['-', '-'] :: rest => .request r rest
    | ('-' :: '-' :: name) :: rest =>
      word name rest (.misused ("not an option: --".toList ++ name))
    | ('-' :: letter :: text) :: rest =>
      if "FfvW".contains letter then
        match text, rest with
        | [], [] => .misused ("option -".toList ++ letter :: " lacks argument".toList)
        | [], text :: rest => valued letter text rest
        | text, rest => valued letter text rest
      else .misused ("not an option: -".toList ++ letter :: text)
    | operands => .request r operands

/-- The program that files hold, one behind the other, and the input that is left; or the file
that cannot be read. -/
def sourceText (t : Task) : List Octets → Octets → Except Octets (Octets × Octets)
  | [], input => .ok ([], input)
  | name :: rest, input =>
    let own := t.isInput name
    match if own then Except.ok input else t.contents name with
    | .error e =>
      .error (if e = FileTree.isADirectory then "read error (Is a directory)".toList
        else "cannot open \"".toList ++ name ++ "\" (".toList ++ reasonOf e ++ [')'])
    | .ok text =>
      (sourceText t rest (if own then [] else input)).map fun (others, input) =>
        (text ++ others, input)

def beginning (t : Task) (r : Request) (operands : List Octets) (input : Octets) : State :=
  let text (s : Octets) : Slot := .value (.text s)
  let count (n : Nat) : Slot := .value (.ofNat n)
  let given := t.name :: operands
  let arguments : Table Value := given.zipIdx.foldl
    (fun table (word, place) => table.set (toString place) (some (place : Nat)) (.given word)) {}
  let environment : Table Value := t.environment.foldl
    (fun table (name, value) => table.set (String.ofList name) none (.given value)) {}
  let pattern := "%.6g".toList
  let slots : List (String × Slot) :=
    [("FS", text (r.separator.getD [' '])), ("OFS", text [' ']), ("ORS", text ['\n']),
      ("RS", text ['\n']), ("SUBSEP", text ['\x1c']), ("CONVFMT", text pattern),
      ("OFMT", text pattern), ("NR", count 0), ("FNR", count 0), ("RSTART", count 0),
      ("RLENGTH", .value (.number (-1))), ("FILENAME", .value .unset),
      ("ARGC", count given.length), ("ARGV", .array 0), ("ENVIRON", .array 1)] ++
    r.settings.map fun (name, value) => (name, .value (.given value))
  { globals := .ofList slots
    arrays := .ofList [(0, arguments), (1, environment)], arrayCount := 2
    sequel := { files := t.files, input } }

def perform (c : Setting) (s : State) (remarks : Octets) : Performance :=
  let after := ((Act.whole c).run.run s).2
  let p := after.sequel.performance after.sequel.input after.status
  { p with marks := Mark.ofText 0 .errors remarks ++ p.marks }

def behavior : Behavior := fun start t =>
  let ends (r : Request) (message : Octets) : Performance :=
    let report := t.fails message 2
    t.reports { report with errors := r.remarks ++ report.errors }
  if t.arguments.isEmpty then t.reports { errors := usage, left := some t.input, status := 2 }
  else
    match readArguments t (t.arguments.length + 1) {} t.arguments with
    | .ended output => t.reports (t.prints output)
    | .misused message => t.reports (t.fails message 2)
    | .request r operands =>
      let (inline, operands) := if r.sources.isEmpty then (operands.headD [], operands.drop 1)
        else ([], operands)
      match sourceText t r.sources t.input with
      | .error message => ends r message
      | .ok (text, input) =>
        let t := if r.sources.any t.isInput then { t with input := [] } else t
        let front := match r.sources.getLast? with
          | some name => name ++ ": ".toList
          | none => []
        match Reader.program (if r.sources.isEmpty then inline else text) with
        | .error messages =>
          t.reports { t.fails [] 2 with
            errors := r.remarks ++ messages.flatMap fun m => t.complaint (front ++ m) }
        | .ok program =>
          perform ⟨program, t, start⟩ (beginning t r operands input) r.remarks

end CommandChains.Machine.Records
