import CommandChains.CommandLine.Options
import CommandChains.Log.Filter
import CommandChains.Session

/-!
# The program as a whole

The program runs one session on what it finds around it: on lines given as options, on
prompted lines of its input, or on the lines of the editor. Its output is what is seen of
it there, and so is its error output. That begins with complaints about the log filter;
the log as far as the filter shows it comes next, and then the error that ended the
session, if one did.

What commands do, and how their output comes between the lines of the session, is up to
the surroundings. The program asks them for nothing but what `Surroundings` lists.
-/

namespace CommandChains.CommandLine

/-- What the program finds when it is run. -/
structure Setting where
  arguments : List String
  /-- All of its input. -/
  input : Text.Bytes := []
  /-- The log filter of the surroundings, which goes before the one of the options. -/
  logFilter : Option String := none
  sink : Sink := {}

/-- What the program leaves behind. -/
structure Finish where
  exitCode : Nat
  output : Text.Bytes
  errors : Text.Bytes
  deriving DecidableEq, Repr

/-- What the program is run in: what starts its commands, over states `σ`, and its input,
over states `τ`, which the commands may share. -/
structure Surroundings (σ τ : Type) where
  facility : Facility σ
  prompted : LineSource σ τ
  /-- The lines of the editor. -/
  unprompted : LineSource σ τ
  found : Setting → σ × τ
  /-- What is seen of the output, if this is what entries of the journal put there and
  these are the last words. -/
  output : σ → (Entry → Text.Bytes) → Text.Bytes → Journal → Text.Bytes
  /-- What is seen of the error output, told in the same way. -/
  errors : σ → (Entry → Text.Bytes) → Text.Bytes → Journal → Text.Bytes

/-- The log filter if none is given. -/
def usualLogFilter : String := "warn"

/-- The log filter, and complaints about it. -/
def chooseFilter (surroundings option : Option String) : Log.Filter × List String :=
  match surroundings.bind Log.Filter.ofText? with
  | some filter => (filter, [])
  | none => Log.Filter.ofTextLossy (option.getD usualLogFilter)

def line (text : String) : Text.Bytes :=
  Text.Utf8.encode (text ++ "\n")

/-- What the log shows of an entry. -/
def logged (filter : Log.Filter) (entry : Entry) : Text.Bytes :=
  match entry.record? with
  | some record => if filter.shows record then line record.line else []
  | none => []

namespace Surroundings

variable {σ τ : Type}

/-- How the session goes. The editor is made ready only if it is to read lines. -/
def runSession (here : Surroundings σ τ) (options : Options) (setting : Setting) :
    Run (Session σ) SessionError SessionEnd :=
  let (facility, input) := here.found setting
  let start : Session σ := { facility, sink := setting.sink }
  let alone (first : Journal) (run : Run (Session σ × τ) SessionError SessionEnd) :
      Run (Session σ) SessionError SessionEnd :=
    ⟨run.result, run.state.1, first ++ run.journal⟩
  if !options.lines.isEmpty then
    Session.executeEach here.facility options.lines start
  else if options.plain then
    alone [] (Session.converse here.facility here.prompted (start, input))
  else
    alone [.logged .editorReady] (Session.converse here.facility here.unprompted (start, input))

/-- Runs a session and sums it up. -/
def finish (here : Surroundings σ τ) (options : Options) (setting : Setting) : Finish :=
  let (filter, complaints) := chooseFilter setting.logFilter options.logFilter
  let run := here.runSession options setting
  let (exitCode, journal, lastWords) := match run.result with
    | .ok how => (0, run.journal ++ [.logged (.sessionOver how)], [])
    | .error e => (1, run.journal, line (programName ++ ": " ++ e.report))
  let left := run.state.facility
  { exitCode
    output := here.output left Entry.bytes [] journal
    errors := complaints.flatMap line ++ here.errors left (logged filter) lastWords journal }

/-- Runs the program. -/
def perform (here : Surroundings σ τ) (setting : Setting) : Finish :=
  match Request.ofArguments setting.arguments with
  | .error e => ⟨1, [], Text.Utf8.encode e.report⟩
  | .ok .help => ⟨0, Text.Utf8.encode usage, []⟩
  | .ok (.run options) => here.finish options setting

end Surroundings

end CommandChains.CommandLine
