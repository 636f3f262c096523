import CommandChains.CommandLine.Run
import CommandChains.Machine.Dialogue
import CommandChains.Machine.Program

/-!
# The program on a machine

The machine as what the program is run in: its processes are the children of the session,
they share its input with the session, and what is seen is what both print.
-/

namespace CommandChains.CommandLine

/-- The variables that processes are told: that the log has no colours, where programs
are, and the log filter of the surroundings. -/
def environment (setting : Setting) : Machine.Environment :=
  let told (name value : String) : Machine.Octets × Machine.Octets :=
    (name.toList, Machine.Octets.ofText value)
  [told "NO_COLOR" "1",
    ("PATH".toList, Machine.Octets.joined [':'] Machine.Installation.searchPath)] ++
  (setting.logFilter.map (told "RUST_LOG")).toList

def machine : Surroundings Machine.Host Machine.Intake where
  facility := Machine.Host.facility
  prompted := Machine.Intake.prompted
  unprompted := Machine.Intake.unprompted
  found setting :=
    ({ input := setting.input, environment := environment setting },
      { allowance := setting.input.length })
  output h := h.shown .output
  errors h := h.shown .errors

/-- Runs the program on a machine. -/
def perform (setting : Setting) : Finish :=
  machine.perform setting

end CommandChains.CommandLine
