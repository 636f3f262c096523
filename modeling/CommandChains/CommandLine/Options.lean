/-!
# Options of the command line

Arguments are judged from left to right, and the first error wins. The word after
an option that takes a value is its value, whatever it looks like. There are no
arguments besides options.

A request for help is carried out when all arguments have been judged. After it
further options are not allowed; it may be repeated. Two hyphens end the options.
-/

namespace CommandChains.CommandLine

/-- What the program is asked to do with lines. -/
structure Options where
  /-- Read lines without the line editor. -/
  plain : Bool := false
  lines : List String := []
  logFilter : Option String := none
  deriving DecidableEq, Repr

inductive Request where
  | help
  | run (options : Options)
  deriving DecidableEq, Repr

inductive UsageError where
  | unrecognized (argument : String)
  | noValue (option : String)
  /-- An option that is given once at most is given again. -/
  | repeated (option value : String)
  | afterHelp
  deriving DecidableEq, Repr

def programName : String := "chain_shell"

namespace UsageError

def message : UsageError → String
  | unrecognized argument => "Unrecognized argument: " ++ argument ++ "\n"
  | noValue option => "No value provided for option '" ++ option ++ "'.\n"
  | repeated option value =>
    "Error parsing option '" ++ option ++ "' with value '" ++ value ++
      "': duplicate values provided\n"
  | afterHelp => "Trailing arguments are not allowed after `help`."

/-- The text of an error, and where to find help. -/
def report (e : UsageError) : String :=
  e.message ++ "\nRun " ++ programName ++ " --help for more information.\n"

end UsageError

def usage : String :=
  "Usage: " ++ programName ++ " [--plain] [-c <command...>] [--log-level <log-level>]\n" ++
  "\n" ++
  "Run commands chained with `;` (one after another) and `&` (side by side).\n" ++
  "\n" ++
  "Options:\n" ++
  "  --plain           read lines from stdin without the line editor\n" ++
  "  -c, --command     run this line instead of prompting; may be repeated\n" ++
  "  --log-level       log filter used when RUST_LOG is not set\n" ++
  "  --help, help      display usage information\n" ++
  "\n"

def asksForHelp (argument : String) : Bool :=
  argument == "--help" || argument == "help"

def isOption (argument : String) : Bool :=
  argument.toList.head? == some '-'

/-- Judges arguments, where `help` says that help has been asked for and `ended` that
the options have ended. -/
def judge (help ended : Bool) (options : Options) :
    List String → Except UsageError Request
  | [] => .ok (if help then .help else .run options)
  | argument :: rest =>
    if !ended && asksForHelp argument then judge true ended options rest
    else if ended || !isOption argument then .error (.unrecognized argument)
    else if argument = "--" then judge help true options rest
    else if help then .error .afterHelp
    else if argument = "--plain" then judge help ended { options with plain := true } rest
    else if argument = "-c" ∨ argument = "--command" then
      match rest with
      | [] => .error (.noValue argument)
      | value :: rest =>
        judge help ended { options with lines := options.lines ++ [value] } rest
    else if argument = "--log-level" then
      match rest with
      | [] => .error (.noValue argument)
      | value :: rest =>
        if options.logFilter.isSome then .error (.repeated argument value)
        else judge help ended { options with logFilter := some value } rest
    else .error (.unrecognized argument)

def Request.ofArguments (arguments : List String) : Except UsageError Request :=
  judge false false {} arguments

end CommandChains.CommandLine
