import CommandChains.Machine.Calendar.Basic
import CommandChains.Machine.Calendar.Understanding
import CommandChains.Machine.Arguments
import CommandChains.Machine.Duration
import CommandChains.Machine.Tool.Basic

/-!
# Tools about time

Tools that tell moments, and tools that take their time.
-/

namespace CommandChains.Machine

/-!
## Telling the date

A tool that prints moments: the present, those that texts describe, or when a file was
changed.
-/

namespace Calendar

/-- The stamp of files that were changed at a moment before the machine was started. -/
def stampAt (seconds : Int) : Int := seconds - 10000000000000

def momentOfStamp (stamp : Int) : Moment :=
  if stamp < -1000000000000 then { seconds := stamp + 10000000000000 } else present

def clockOf (e : Environment) : Clock :=
  match e.lookup "TZ".toList with
  | some text => Clock.ofText text
  | none => {}

def usualTemplate : Octets := "%a %b %e %H:%M:%S %Z %Y".toList

def isoTemplates : Choices String :=
  [(["hours"], "%Y-%m-%dT%H%:z"), (["minutes"], "%Y-%m-%dT%H:%M%:z"), (["date"], "%Y-%m-%d"),
    (["seconds"], "%Y-%m-%dT%H:%M:%S%:z"), (["ns"], "%Y-%m-%dT%H:%M:%S,%N%:z")]

/-- Templates that go on to some unit, for those who like blanks. -/
def standardTemplates : Choices String :=
  [(["date"], "%Y-%m-%d"), (["seconds"], "%Y-%m-%d %H:%M:%S%:z"),
    (["ns"], "%Y-%m-%d %H:%M:%S.%N%:z")]

/-- The templates that options ask for, or what is wrong with them. -/
def askedTemplates (a : Arguments) : Except Octets (List Octets) :=
  a.options.foldlM
    (fun (found : List Octets) (letter, value) => do
      let more : List Octets ← match letter with
        | 'R' => pure ["%a, %d %b %Y %H:%M:%S %z".toList]
        | 'I' =>
          if value.isEmpty then pure ["%Y-%m-%d".toList]
          else
            let template ← isoTemplates.chosen "--iso-8601" value
            pure [template.toList]
        | '3' =>
          let template ← standardTemplates.chosen "--rfc-3339" value
          pure [template.toList]
        | _ => pure []
      pure (found ++ more)) []

def date : Tool := fun t =>
  t.withArguments
      { plain := "uRG", valued := "dfrs3", optional := "I", hidden := "3G"
        words := [("date", 'd'), ("file", 'f'), ("iso-8601", 'I'), ("reference", 'r'),
          ("rfc-email", 'R'), ("rfc-822", 'R'), ("rfc-2822", 'R'), ("rfc-3339", '3'),
          ("set", 's'), ("universal", 'u'), ("uct", 'u'), ("utc", 'u'), ("debug", 'G')] }
        1 fun a =>
    let clock := if a.has 'u' then {} else clockOf t.environment
    let described := a.last? "dfr"
    let formats := a.operands.filter fun word => word.head? = some '+'
    match askedTemplates a with
    | .error message => t.refuses message 1
    | .ok asked =>
      let kinds := [a.has 'd', a.has 'f', a.has 'r'].filter id
      if 1 < asked.length || (asked.length = 1 && !formats.isEmpty) then
        t.fails "multiple output formats specified".toList 1
      else if 1 < kinds.length then
        t.refuses "the options to specify dates for printing are mutually exclusive".toList 1
      else if !kinds.isEmpty && a.has 's' then
        t.refuses "the options to print and set the time may not be used together".toList 1
      else if 1 < a.operands.length then
        t.refuses ("extra operand ".toList ++ Octets.quoted (a.operands.getD 1 [])) 1
      else
        match a.operands.head? with
        | some word =>
          if word.head? != some '+' && described.isSome then
            t.refuses ("the argument ".toList ++ Octets.quoted word ++
              (" lacks a leading '+';\nwhen using an option to specify date(s), any non-option\n" ++
                "argument must be a format string beginning with '+'").toList) 1
          else if word.head? != some '+' then
            t.fails ("invalid date ".toList ++ Octets.quoted word) 1
          else printed a clock t asked formats described
        | none => printed a clock t asked formats described
where
  printed (a : Arguments) (clock : Clock) (t : Task) (asked formats : List Octets)
      (described : Option Char) : Report :=
    let template := match formats.head?, asked.head? with
      | some word, _ => word.drop 1
      | none, some template => template
      | none, none => usualTemplate
    let line (m : Moment) : Octets := shown template m (clock.zoneAt m.seconds) ++ ['\n']
    let invalid (text : Octets) : Octets :=
      t.complaint ("invalid date ".toList ++ Octets.quoted text)
    match described with
    | some 'd' =>
      let text := (a.value? 'd').getD []
      match momentOf? clock text with
      | some m => t.prints (line m)
      | none => { errors := invalid text, left := some t.input, status := 1 }
    | some 'f' =>
      let (sources, left) := t.sources [(a.value? 'f').getD []]
      let errors := t.complaints sources Task.plainly
      let found := (Octets.lines (Task.textOf sources)).map fun text =>
        (text, momentOf? clock text)
      { output := found.flatMap fun (_, m) => (m.map line).getD []
        errors := errors ++ found.flatMap fun (text, m) => if m.isNone then invalid text else []
        left
        status := if errors.isEmpty && found.all fun (_, m) => m.isSome then 0 else 1 }
    | some _ =>
      let path := (a.value? 'r').getD []
      match t.files.node path with
      | .ok node => t.prints (line (momentOfStamp (t.files.stampOf node)))
      | .error e => t.fails (Octets.asName path ++ ": ".toList ++ reasonOf e) 1
    | none =>
      match (a.value? 's').map fun text => (text, momentOf? clock text) with
      | some (text, none) => { errors := invalid text, left := some t.input, status := 1 }
      | some (_, some m) =>
        { output := line m
          errors := t.complaint "cannot set date: Operation not permitted".toList
          left := some t.input, status := 1 }
      | none => t.prints (line present)

end Calendar

/-!
## Tools that take time

A tool that does nothing for a while, and one that does the same for ever.
-/

namespace Tool

/-- Lets as much time pass as all its operands together say. It refuses to begin if one
of them is no duration. -/
def sleep : Tool := fun t =>
  t.withArguments {} 1 fun a =>
    let wrong := a.operands.filter fun operand => (Duration.ofText? operand).isNone
    let complaint (operand : Octets) : Octets :=
      t.complaint ("invalid time interval ".toList ++ Octets.quoted operand)
    if a.operands.isEmpty then t.refuses "missing operand".toList 1
    else if !wrong.isEmpty then
      { errors := wrong.flatMap complaint ++ t.hint, left := some t.input, status := 1 }
    else
      { left := some t.input
        lasts := a.operands.foldl (fun n operand => n + (Duration.ofText? operand).getD 0) 0 }

def endlessOutput : Nat := 65536

def repeatLine : Tool := fun t =>
  t.withArguments {} 1 fun a =>
    let words := if a.operands.isEmpty then [['y']] else a.operands
    let line := Octets.joined [' '] words ++ ['\n']
    let output := (List.replicate (endlessOutput / line.length + 1) line).flatten
    { output, left := some t.input, lasts := Duration.forever }

end Tool

end CommandChains.Machine
