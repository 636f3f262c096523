import CommandChains.Machine.Charset
import CommandChains.Machine.Tool.Basic

/-!
# Texts in other charsets

A tool that writes texts in another charset.
-/

namespace CommandChains.Machine.Recoding

def hint (t : Task) : Octets :=
  "Try \x60".toList ++ t.name ++ " --help' or \x60".toList ++ t.name ++
    " --usage' for more information.\n".toList

/-- A charset with what may be done about characters that are missing, as a text says. -/
def named? (text : Octets) : Option Charset × Charset.Leniency :=
  let capital := text.map Char.toUpper
  let rec parts : Nat → Octets → List Octets
    | 0, text => [text]
    | rounds + 1, text =>
      match text.findIdx? (· == '/') with
      | some place =>
        match text.drop place with
        | '/' :: '/' :: rest => text.take place :: parts rounds rest
        | _ => [text]
      | none => [text]
  match parts text.length capital with
  | [] => (none, {})
  | name :: words =>
    let has (word : String) : Bool := (words.flatMap (Octets.splitAt ',')).any (·  == word.toList)
    (Charset.ofName? (String.ofList name), { alike := has "TRANSLIT", omits := has "IGNORE" })

/-- What has been written of some sources: the output, the complaints, and whether something
has gone wrong. -/
def overAll (t : Task) (convert : Octets → Charset.Written) (quiet : Bool) :
    List Source → Octets × Octets × Bool
  | [] => ([], [], false)
  | s :: rest =>
    let on (output errors : Octets) : Octets × Octets × Bool :=
      let (more, others, _) := overAll t convert quiet rest
      (output ++ more, errors ++ others, true)
    match s.contents with
    | .error e =>
      if e = FileTree.isADirectory then
        ([], t.complaint ("error while reading the input: ".toList ++ reasonOf e), true)
      else
        on [] (t.complaint ("cannot open input file \x60".toList ++ s.name ++ "': ".toList ++
          reasonOf e))
    | .ok text =>
      let w := convert text
      let trouble := match w.trouble with
        | some trouble => some trouble
        | none => if w.omitted && !quiet then some (.illegal text.length) else none
      match trouble with
      | some trouble => (w.text, t.complaint trouble.message, true)
      | none =>
        let (more, others, failed) := overAll t convert quiet rest
        (w.text ++ more, others, failed)

def recode : Tool := fun t =>
  let refusal (message : Octets) : Report :=
    { errors := t.complaint message ++ hint t, left := some t.input, status := 64 }
  t.withArgumentsOr
      { plain := "cslvu", valued := "fto", hidden := "vu"
        words := [("from-code", 'f'), ("to-code", 't'), ("output", 'o'), ("list", 'l'),
          ("silent", 's'), ("verbose", 'v'), ("usage", 'u')] } refusal fun a =>
    let (source, _) := named? ((a.value? 'f').getD [])
    let (target, l) := named? ((a.value? 't').getD [])
    let name (letter : Char) : Octets := '\x60' :: (a.value? letter).getD [] ++ ['\x27']
    let unsupported (message : Octets) : Report :=
      { errors := t.complaint message ++ hint t, left := some t.input, status := 1 }
    if a.has 'l' || a.has 'u' then { left := some t.input }
    else
      match source, target with
      | none, none =>
        unsupported ("conversions from ".toList ++ name 'f' ++ " and to ".toList ++ name 't' ++
          " are not supported".toList)
      | none, some _ => unsupported ("conversion from ".toList ++ name 'f' ++
          " is not supported".toList)
      | some _, none => unsupported ("conversion to ".toList ++ name 't' ++
          " is not supported".toList)
      | some source, some target =>
        let l := { l with omits := l.omits || a.has 'c' }
        let (sources, left) := t.sources a.operands
        let (output, errors, failed) := overAll t (source.convert target l) (a.has 'c') sources
        let r : Report := { output, late := errors, left, status := if failed then 1 else 0 }
        match a.value? 'o' with
        | none => r
        | some path =>
          if output.isEmpty then r
          else
            match openPath t.files {} path with
            | .ok (d, files) =>
              { r with output := [], files := some files }.put files d output
            | .error e =>
              { t.fails ("cannot open output file: ".toList ++ reasonOf e) 1 with left }

end CommandChains.Machine.Recoding
