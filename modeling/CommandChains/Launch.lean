import CommandChains.World

/-!
# Launching a command

A command is launched in two steps. Its program is named on the sink, and then
the facility starts it. A start that fails is reported on the sink and is no
failure of the launch; only the sink can make a launch fail. The command `exit`
is named like any other but is not handed to the facility.
-/

namespace CommandChains

def exitWord : String := "exit"

/-- What has become of a command. -/
inductive Launched where
  | exit
  | started (handle : Handle)
  /-- It could not be started, and this has been reported. -/
  | failed
  deriving DecidableEq, Repr

def echoLine (program : String) : String :=
  program ++ "\n"

def failureLine (program : String) (error : StartError) : String :=
  program ++ ": " ++ error.message ++ "\n"

/-- Launches the command with these words. Without words nothing happens. -/
def launch {σ : Type} (F : Facility σ) (argv : List String) :
    Activity (World σ) SystemError Launched :=
  match argv with
  | [] => pure .failed
  | program :: _ => do
    World.onSink (Sink.say (echoLine program))
    if program = exitWord then pure .exit
    else
      match ← World.spawn F argv with
      | .ok handle => do
        Activity.log (.dispatched program handle)
        pure (.started handle)
      | .error error => do
        Activity.log (.dispatchFailed program error)
        World.onSink (Sink.say (failureLine program error))
        pure .failed

end CommandChains
