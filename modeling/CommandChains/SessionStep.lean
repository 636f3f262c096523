import CommandChains.Input.LineSource
import CommandChains.Input.Prompted
import CommandChains.Session

/-!
# Steps of a session

What can be asked of a session, one step at a time: a line to be run, or a source
of lines to be worked through. A step leaves a step behind: the one that is left
to be done with what has not been read. A sequence of steps is performed by
`Activity.series`.
-/

namespace CommandChains.Session

inductive Step where
  | line (text : String)
  | stream (input : ByteSource)
  | listed (input : ListedLines)
  deriving DecidableEq, Repr

/-- What has come of a step that did not fail. -/
inductive Answer where
  | ended (how : Ending)
  /-- No more lines were wanted, or there were none. -/
  | closed (how : SessionEnd)
  deriving DecidableEq, Repr

/-- What has come of a step, and what is left of it. -/
structure Report where
  answer : Except SessionError Answer
  left : Step

def Step.perform {σ : Type} (F : Facility σ) (step : Step) : Activity (Session σ) Empty Report :=
  fun s =>
    match step with
    | line text =>
      let run := execute F text s
      ⟨.ok ⟨run.result.map .ended, step⟩, run.state, run.journal⟩
    | stream input =>
      let run := converse F Prompted.source (s, input)
      ⟨.ok ⟨run.result.map .closed, .stream run.state.2⟩, run.state.1, run.journal⟩
    | listed input =>
      let run := converse F ListedLines.source (s, input)
      ⟨.ok ⟨run.result.map .closed, .listed run.state.2⟩, run.state.1, run.journal⟩

end CommandChains.Session
