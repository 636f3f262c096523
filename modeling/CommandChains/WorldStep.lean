import CommandChains.Chain.Run

/-!
# Steps on a facility and a sink

What can be asked of a facility and a sink outside a session, one step at a time:
a line or a chain to be run, a command to be launched, a child to be waited for,
or a plain call of the facility. A sequence of steps is performed by
`Activity.series`.
-/

namespace CommandChains.World

inductive Step where
  | line (text : String)
  | chain (chain : Chain)
  | launch (argv : List String)
  | await (handle : Handle)
  | spawn (argv : List String)
  /-- Ask the facility for the end of some child. -/
  | waitAny
  deriving DecidableEq, Repr

inductive Answer where
  | ended (how : Ending)
  | launched (what : Launched)
  | awaited (handle : Handle) (answer : Except WaitError Unit)
  | spawned (answer : Except StartError Handle)
  | waited (answer : Except WaitError Handle)

def Step.perform {σ : Type} (F : Facility σ) : Step → Activity (World σ) SystemError Answer
  | line text => do
    let chain ← Chain.read text
    .ended <$> chain.run F
  | chain c => .ended <$> c.run F
  | launch argv => .launched <$> CommandChains.launch F argv
  | await handle => .awaited handle <$> CommandChains.await F handle
  | spawn argv => .spawned <$> World.spawn F argv
  | waitAny => .waited <$> World.waitAny F

end CommandChains.World
