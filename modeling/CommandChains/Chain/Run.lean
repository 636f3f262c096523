import CommandChains.Await
import CommandChains.Chain.Basic
import CommandChains.Ending
import CommandChains.Launch

/-!
# Running a chain

The commands of a chain are launched in order. Before a command that follows
`;`, the child started last is awaited, and so it is at the end of a chain that
is not left in the background. A command that could not be started leaves the
child started last as it was. A command `exit` ends the run at once, after the
wait that stands before it.

Only the delimiter right after the previous command that was launched counts:
empty commands in between change nothing.
-/

namespace CommandChains

namespace Chain

variable {σ : Type}

/-- Waits for a child, if there is one to wait for. -/
def awaitLast (F : Facility σ) (last : Option Handle) : Activity (World σ) SystemError Unit :=
  match last with
  | some handle => awaitOrWarn F handle
  | none => pure ()

/-- Launches commands, where `last` is the child started last in this chain and
`pending` the delimiter before the next command. -/
def runCommands (F : Facility σ) (background : Bool) :
    List Command → Option Handle → Option Delimiter → Activity (World σ) SystemError Ending
  | [], last, _ => do
    unless background do awaitLast F last
    pure .completed
  | c :: rest, last, pending => do
    if pending = some .sequential then awaitLast F last
    match ← launch F c.argv with
    | .exit => pure .exit
    | .started handle => runCommands F background rest (some handle) c.closedBy
    | .failed => runCommands F background rest last c.closedBy

def read {S ε : Type} (line : String) : Activity S ε Chain := do
  let chain := ofLine line
  Activity.log (.parsed chain)
  pure chain

def run (F : Facility σ) (chain : Chain) : Activity (World σ) SystemError Ending :=
  runCommands F chain.endsInBackground chain.dispatchable none none

end Chain

end CommandChains
