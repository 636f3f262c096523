import CommandChains.Chain.Printed
import CommandChains.Ending
import CommandChains.Failure
import CommandChains.Handle

/-!
# Log records

What the library logs, one constructor a kind. Each kind has a level, the module
that speaks, a message and fields.
-/

namespace CommandChains.Log

/-- How much a record matters, the most pressing first. -/
inductive Level where
  | error
  | warn
  | info
  | debug
  | trace
  deriving DecidableEq, Repr

namespace Level

/-- The place of a level; a filter that shows one level shows all lower places. -/
def rank : Level → Nat
  | error => 1
  | warn => 2
  | info => 3
  | debug => 4
  | trace => 5

def name : Level → String
  | error => "ERROR"
  | warn => "WARN"
  | info => "INFO"
  | debug => "DEBUG"
  | trace => "TRACE"

end Level

inductive Record where
  | parsed (chain : Chain)
  | dispatched (program : String) (handle : Handle)
  | dispatchFailed (program : String) (error : StartError)
  | awaited (handle : Handle)
  /-- Another child has ended during a wait; nobody will hear of it again. -/
  | discarded (handle other : Handle)
  | gaveUp (handle : Handle) (error : WaitError)
  | exitRequested (prompt : Nat)
  | endOfInput
  /-- The line editor is ready, and says how it measures characters. -/
  | editorReady
  /-- The line editor finds no terminal and reads plain lines. -/
  | noTerminal
  | sessionOver (how : SessionEnd)
  deriving DecidableEq, Repr

namespace Record

def level : Record → Level
  | dispatchFailed .. | gaveUp .. => .warn
  | discarded .. => .trace
  | _ => .debug

def module : Record → String
  | parsed _ => "chain_shell::parser"
  | dispatched .. | dispatchFailed .. => "chain_shell::dispatch"
  | awaited _ | discarded .. | gaveUp .. => "chain_shell::sync"
  | exitRequested _ | endOfInput => "chain_shell::interpreter"
  | editorReady | noTerminal => "rustyline"
  | sessionOver _ => "chain_shell"

def message : Record → String
  | parsed _ => "parsed command line"
  | dispatched .. => "dispatched"
  | dispatchFailed .. => "dispatch failed"
  | awaited _ => "awaited handle terminated"
  | discarded .. => "discarded unrelated termination"
  | gaveUp .. => "gave up waiting"
  | exitRequested _ => "exit requested"
  | endOfInput => "end of input"
  | editorReady => "GraphemeClusterMode: WcWidth"
  | noTerminal => "stdin is not a tty"
  | sessionOver _ => "session terminated"

def fields : Record → List (String × String)
  | parsed chain => [("chain", chain.printed)]
  | dispatched program handle => [("program", program), ("handle", handle.text)]
  | dispatchFailed program error => [("program", program), ("error", error.message)]
  | awaited handle => [("handle", handle.text)]
  | discarded handle other => [("handle", handle.text), ("discarded", other.text)]
  | gaveUp handle error => [("handle", handle.text), ("error", error.message)]
  | exitRequested prompt => [("prompt", toString prompt)]
  | endOfInput => []
  | editorReady | noTerminal => []
  | sessionOver how => [("end", how.printed)]

/-- The names of everything that a record says. The message goes by a name of its own,
and what the line editor logs says where in its text it comes from. -/
def fieldNames (r : Record) : List String :=
  "message" :: match r with
    | editorReady | noTerminal =>
      ["log.target", "log.module_path", "log.file", "log.line"]
    | r => r.fields.map Prod.fst

/-- A record as a line of the log: the level in five columns, the module, the
message and the fields. -/
def line (r : Record) : String :=
  let name := r.level.name
  String.ofList (List.replicate (5 - name.length) ' ') ++ name ++ " " ++ r.module ++ ": " ++
    r.message ++ String.join (r.fields.map fun field => " " ++ field.1 ++ "=" ++ field.2)

end Record

end CommandChains.Log
