import CommandChains.Facility.Basic
import CommandChains.Sink

/-!
# A facility and a sink

The commands of a line work on two things: the facility that runs them and the
sink that is told about it.
-/

namespace CommandChains

/-- The state of a facility together with a sink. -/
structure World (σ : Type) where
  facility : σ
  sink : Sink := {}

namespace World

variable {σ ε α : Type}

def onSink (a : Activity Sink ε α) : Activity (World σ) ε α :=
  a.within World.sink fun sink w => { w with sink }

def spawn (F : Facility σ) (argv : List String) :
    Activity (World σ) ε (Except StartError Handle) := fun w =>
  let answer := F.spawn argv w.facility
  ⟨.ok answer.1, { w with facility := answer.2 }, [.spawned argv answer.1]⟩

/-- Asks the facility for the end of some child. -/
def waitAny (F : Facility σ) : Activity (World σ) ε (Except WaitError Handle) := fun w =>
  let answer := F.waitAny w.facility
  ⟨.ok answer.1, { w with facility := answer.2 }, [.waited answer.1]⟩

end World

end CommandChains
