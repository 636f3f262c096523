import CommandChains.Machine.Shell.Builtin.Jobs

/-!
# Commands about names of commands

The commands of the shell that say what a name means, give names to texts, and remember
where programs are.
-/

namespace CommandChains.Machine.Shell.Builtin

/-! ## Programs -/

def searchPlaces (s : State) : List Octets :=
  match s.text? "PATH" with
  | some path => Octets.splitAt ':' path
  | none => []

/-- The directories that are searched if nothing is to be trusted. -/
def standardPlaces : List Octets :=
  ["/usr/local/sbin", "/usr/local/bin", "/usr/sbin", "/usr/bin", "/sbin", "/bin"].map String.toList

/-- Where programs are that a name may mean, in some directories. -/
def pathsIn (s : State) (places : List Octets) (name : Octets) : List Octets :=
  let found (path : Octets) : Bool := (s.files.programAt path).toOption.isSome
  if name.isEmpty then []
  else if name.contains '/' then if found name then [name] else []
  else
    (places.map fun place =>
      if place.isEmpty then name else place ++ '/' :: name).filter found

def pathOf? (s : State) (name : Octets) : Option Octets := (pathsIn s (searchPlaces s) name).head?

def remember (name path : Octets) (hits : Nat) (s : State) : State :=
  match s.found.lookup name with
  | some (path, before) =>
    { s with found := s.found.map fun entry =>
      if entry.1 = name then (name, path, before + hits) else entry }
  | none => { s with found := s.found ++ [(name, path, hits)] }

/-! ## What names mean -/

/-- Commands whose settings of variables stay, and which end the script when they fail. -/
def special : List String :=
  [".", ":", "break", "continue", "eval", "exec", "exit", "export", "readonly", "return", "set",
    "shift", "source", "times", "trap", "unset"]

def smallNames : List String :=
  [".", ":", "[", "alias", "bg", "break", "cd", "chdir", "command", "continue", "echo", "eval",
    "exec", "exit", "export", "false", "fg", "getopts", "hash", "jobs", "kill", "local", "printf",
    "pwd", "read", "readonly", "return", "set", "shift", "test", "times", "trap", "true", "type",
    "ulimit", "umask", "unalias", "unset", "wait"]

def largeNames : List String :=
  [".", ":", "[", "alias", "bg", "bind", "break", "builtin", "caller", "cd", "command", "compgen",
    "complete", "compopt", "continue", "declare", "dirs", "disown", "echo", "enable", "eval",
    "exec", "exit", "export", "false", "fc", "fg", "getopts", "hash", "help", "history", "jobs",
    "kill", "let", "local", "logout", "mapfile", "popd", "printf", "pushd", "pwd", "read",
    "readarray", "readonly", "return", "set", "shift", "shopt", "source", "suspend", "test",
    "times", "trap", "true", "type", "typeset", "ulimit", "umask", "unalias", "unset", "wait"]

/-- A setting that says that a command of the shell itself is not to be used. -/
def disabling (name : String) : String := "without " ++ name

/-- Whether a name is that of a command of the shell itself. -/
def isOwn (s : State) (name : String) : Bool :=
  (match s.dialect with
    | .small => smallNames
    | .large => largeNames).contains name && !s.settings.contains (disabling name)

inductive Meaning where
  | keyword
  | standsFor (text : Octets)
  | defined (body : Action)
  | own (special : Bool)
  | remembered (path : Octets)
  | program (path : Octets)

def meanings (s : State) (functions : Bool) (name : Octets) : List Meaning :=
  let text := String.ofList name
  let list {α : Type} (o : Option α) (f : α → Meaning) : List Meaning := (o.map f).toList
  let known := (s.aliases.lookup name).filter fun _ =>
    !s.isLarge || s.settings.contains "expand_aliases"
  let keyword := if (Token.keywords s.dialect).contains text then [Meaning.keyword] else []
  let standing := list known Meaning.standsFor
  (if s.isLarge then standing ++ keyword else keyword ++ standing) ++
    (if functions then list (s.functions.lookup name) Meaning.defined else []) ++
    (if isOwn s text then [.own (special.contains text && !s.isLarge)] else []) ++
    (match s.found.lookup name with
      | some (path, _) => [.remembered path]
      | none => []) ++
    (pathsIn s (searchPlaces s) name).map Meaning.program

def describe (s : State) (name : Octets) : Meaning → Octets
  | .keyword => name ++ " is a shell keyword".toList
  | .standsFor text =>
    match s.dialect with
    | .small => name ++ " is an alias for ".toList ++ text
    | .large => name ++ " is aliased to \x60".toList ++ text ++ ['\x27']
  | .defined body =>
    match s.dialect with
    | .small => name ++ " is a shell function".toList
    | .large => name ++ " is a function\n".toList ++ (Action.shownFunction name body).dropLast
  | .own isSpecial =>
    name ++ (if isSpecial then " is a special shell builtin" else " is a shell builtin").toList
  | .remembered path =>
    match s.dialect with
    | .small => name ++ " is a tracked alias for ".toList ++ path
    | .large => name ++ " is hashed (".toList ++ path ++ [')']
  | .program path => name ++ " is ".toList ++ path

def brief (name : Octets) : Meaning → Octets
  | .standsFor text => "alias ".toList ++ name ++ '=' :: Quoting.small text
  | .remembered path | .program path => path
  | _ => name

/-- Says what a name means, or that it means nothing. -/
def describeOne (long : Bool) (s : State) (name : Octets) : State :=
  match (meanings s true name).head?, s.dialect with
  | some m, _ => s.say 1 ((if long then describe s name m else brief name m) ++ ['\n'])
  | none, .small =>
    (if long then s.say 1 (name ++ ": not found\n".toList) else s).withStatus 127
  | none, .large =>
    if long then s.commandFailing (name ++ ": not found".toList) 1 else s.withStatus 1

def kindOf : Meaning → String
  | .keyword => "keyword"
  | .standsFor _ => "alias"
  | .defined _ => "function"
  | .own _ => "builtin"
  | .remembered _ | .program _ => "file"

def type_ : Builtin := fun _ arguments s =>
  match s.dialect with
  | .small => arguments.foldl (describeOne true) (s.withStatus 0)
  | .large =>
    withOptions "afptP" "" (fun found s =>
      let has := fun (letter : Char) => hasOption letter found
      found.2.foldl (fun s name =>
        let all := meanings s (!has 'f') name
        let files := all.filter fun m => kindOf m == "file"
        let seen := if has 'a' then all.filter fun m =>
            match m with
            | .remembered _ => false
            | _ => true
          else all.take 1
        let chosen := if has 'P' then (if has 'a' then files else files.take 1)
          else if has 'p' then seen.filter fun m => kindOf m == "file"
          else seen
        if all.isEmpty || (has 'P' && files.isEmpty) then
          if has 't' || has 'p' || has 'P' then s.withStatus 1
          else s.commandFailing (name ++ ": not found".toList) 1
        else
          s.say 1 (chosen.flatMap fun m =>
            (if has 't' then (kindOf m).toList
              else if has 'p' || has 'P' then brief name m
              else describe s name m) ++ ['\n'])) (s.withStatus 0)) arguments s

/-- Runs a command whatever scripts define, or says what a name means. -/
def command : Builtin := fun c =>
  withOptions "pvV" "" fun found s =>
    let s := s.withStatus 0
    if hasOption 'v' found || hasOption 'V' found then
      let long := hasOption 'V' found
      match s.dialect with
      | .small => (found.2.take 1).foldl (describeOne long) s
      | .large =>
        let done := found.2.foldl (fun (state : State × Bool) name =>
          let s := describeOne long (state.1.withStatus 0) name
          (s, state.2 || s.status == 0)) (s, false)
        done.1.withStatus (if done.2 || found.2.isEmpty then 0 else 1)
    else if hasOption 'p' found then
      let path := s.bindings.lookup "PATH".toList
      let usual := Octets.joined [':'] standardPlaces
      let done := c.invoke found.2 (s.setValue "PATH".toList (.text usual))
      { done with bindings := done.bindings.alter "PATH".toList fun _ => path }
    else c.invoke found.2 s

def builtin : Builtin := fun c =>
  withOptions "" "" fun found s =>
    match found.2 with
    | [] => s.withStatus 0
    | name :: rest =>
      if isOwn s (String.ofList name) then c.invoke (name :: rest) s
      else s.commandFailing (name ++ ": not a shell builtin".toList) 1

def hash : Builtin := fun _ arguments s =>
  let add (s : State) (name : Octets) : State :=
    if name.contains '/' then s
    else
      match pathOf? s name with
      | some path => remember name path 0 { s with found := s.found.filter fun e => e.1 != name }
      | none =>
        if s.isLarge && isOwn s (String.ofList name) then s
        else s.commandFailing (name ++ ": not found".toList) 1
  match s.dialect with
  | .small =>
    withOptions "r" "" (fun found s =>
      if hasOption 'r' found then { s with found := [], status := 0 }
      else if found.2.isEmpty then
        prints (s.found.flatMap fun (_, path, _) => path ++ ['\n']) s
      else found.2.foldl add (s.withStatus 0)) arguments s
  | .large =>
    withOptions "rdtl" "p" (fun found s =>
      let s := if hasOption 'r' found then { s with found := [] } else s
      match valueOf? 'p' found, found.2 with
      | some path, names =>
        (names.foldl (fun s name => remember name path 0 s) s).withStatus 0
      | none, [] =>
        if hasOption 'r' found then s.withStatus 0
        else if hasOption 'l' found then
          prints (s.found.flatMap fun (name, path, _) =>
            "builtin hash -p ".toList ++ path ++ ' ' :: name ++ ['\n']) s
        else if s.found.isEmpty then prints "hash: hash table empty\n".toList s
        else
          prints ("hits\tcommand\n".toList ++ s.found.flatMap fun (_, path, hits) =>
            Octets.padded 4 (Octets.ofNat hits) ++ '\t' :: path ++ ['\n']) s
      | none, names =>
        names.foldl (fun s name =>
          let known := s.found.lookup name
          if hasOption 't' found || hasOption 'd' found then
            match known with
            | some (path, _) =>
              if hasOption 'd' found then { s with found := s.found.filter fun e => e.1 != name }
              else if 1 < names.length then s.say 1 (name ++ '\t' :: path ++ ['\n'])
              else s.say 1 (path ++ ['\n'])
            | none => s.commandFailing (name ++ ": not found".toList) 1
          else add s name) (s.withStatus 0)) arguments s

/-! ## Names for texts -/

/-- The names that stand for texts, in the order in which they are listed. -/
def aliasesInOrder (s : State) : List (Octets × Octets) :=
  match s.dialect with
  | .small =>
    s.aliases.mergeSort fun a b => decide (Variables.bucketOf a.1 ≤ Variables.bucketOf b.1)
  | .large => s.aliases.mergeSort fun a b => Octets.atMost a.1 b.1

/-- A name that stands for a text, as it is listed. -/
def shownAlias (s : State) (entry : Octets × Octets) : Octets :=
  match s.dialect with
  | .small => entry.1 ++ '=' :: Quoting.small entry.2 ++ ['\n']
  | .large => "alias ".toList ++ entry.1 ++ '=' :: Quoting.single entry.2 ++ ['\n']

/-- Lets names stand for texts, or lists those that do. -/
def alias_ : Builtin := fun _ arguments s =>
  let work (listed : Bool) (words : List Octets) (s : State) : State :=
    let listing := (aliasesInOrder s).flatMap (shownAlias s)
    let s := if listed || words.isEmpty then prints listing s else s.withStatus 0
    words.foldl (fun s word =>
      let name := word.takeWhile (· != '=')
      if name.length < word.length && !name.isEmpty then
        if s.isLarge && name.any fun c => " \t\n$\x60'\"\\/&|;()<>".contains c then
          s.commandFailing ('\x60' :: name ++ "': invalid alias name".toList) 1
        else { s with aliases := Environment.set s.aliases name (word.drop (name.length + 1)) }
      else
        match s.aliases.lookup word, s.dialect with
        | some text, _ => s.say 1 (shownAlias s (word, text))
        | none, .small => (s.say 2 ("alias: ".toList ++ word ++ " not found\n".toList)).withStatus 1
        | none, .large => s.commandFailing (word ++ ": not found".toList) 1) s
  match s.dialect with
  | .small => work false arguments s
  | .large => withOptions "p" "" (fun found => work (hasOption 'p' found) found.2) arguments s

def unalias : Builtin := fun _ =>
  withOptions "a" "" fun found s =>
    if hasOption 'a' found then { s with aliases := [], status := 0 }
    else if found.2.isEmpty && s.isLarge then refuses s
    else
      found.2.foldl (fun s name =>
        match s.aliases.lookup name, s.dialect with
        | some _, _ => { s with aliases := Environment.erase s.aliases name }
        | none, .small => (s.say 2 ("unalias: ".toList ++ name ++ " not found\n".toList)).withStatus 1
        | none, .large => s.commandFailing (name ++ ": not found".toList) 1) (s.withStatus 0)

/-! ## Settings of the large shell -/

/-- The settings that the large shell knows by names, and whether they are usual. -/
def settingNames : List (String × Bool) :=
  [("autocd", false), ("assoc_expand_once", false), ("cdable_vars", false), ("cdspell", false),
    ("checkhash", false), ("checkjobs", false), ("checkwinsize", true), ("cmdhist", true),
    ("compat31", false), ("compat32", false), ("compat40", false), ("compat41", false),
    ("compat42", false), ("compat43", false), ("compat44", false), ("complete_fullquote", true),
    ("direxpand", false), ("dirspell", false), ("dotglob", false), ("execfail", false),
    ("expand_aliases", false), ("extdebug", false), ("extglob", false), ("extquote", true),
    ("failglob", false), ("force_fignore", true), ("globasciiranges", true),
    ("globskipdots", true), ("globstar", false), ("gnu_errfmt", false), ("histappend", false),
    ("histreedit", false), ("histverify", false), ("hostcomplete", true), ("huponexit", false),
    ("inherit_errexit", false), ("interactive_comments", true), ("lastpipe", false),
    ("lithist", false), ("localvar_inherit", false), ("localvar_unset", false),
    ("login_shell", false), ("mailwarn", false), ("no_empty_cmd_completion", false),
    ("nocaseglob", false), ("nocasematch", false), ("noexpand_translation", false),
    ("nullglob", false), ("patsub_replacement", true), ("progcomp", true),
    ("progcomp_alias", false), ("promptvars", true), ("restricted_shell", false),
    ("shift_verbose", false), ("sourcepath", true), ("varredir_close", false),
    ("xpg_echo", false)]

def usualSettings : List String :=
  "interactive-comments" :: (settingNames.filter (·.2)).map (·.1)

def settingLine (reusable : Bool) (name : String) (on : Bool) : Octets :=
  if reusable then (if on then "shopt -s " else "shopt -u ").toList ++ name.toList ++ ['\n']
  else Octets.filled 15 name.toList ++ '\t' :: (if on then "on\n" else "off\n").toList

def shopt : Builtin := fun _ =>
  withOptions "pqsuo" "" fun found s =>
    let has := fun (letter : Char) => hasOption letter found
    if has 's' && has 'u' then
      s.commandFailing "cannot set and unset shell options simultaneously".toList 1
    else
      let known : List String :=
        if has 'o' then (optionsOf .large).map Prod.fst else settingNames.map Prod.fst
      let isOn (s : State) (name : String) : Bool :=
        if has 'o' then isSet s (name, ((optionsOf .large).lookup name).join)
        else s.settings.contains name
      let line (s : State) (name : String) : Octets :=
        if has 'o' && has 'p' then
          (if isOn s name then "set -o " else "set +o ").toList ++ name.toList ++ ['\n']
        else settingLine (has 'p') name (isOn s name)
      match found.2 with
      | [] =>
        let wanted := known.filter fun name =>
          if has 's' then isOn s name else if has 'u' then !isOn s name else true
        if has 'q' then s.withStatus 0 else prints (wanted.flatMap (line s)) s
      | names =>
        names.foldl (fun s name =>
          let name := String.ofList name
          if !known.contains name then
            let text := if has 'o' then ": invalid option name" else ": invalid shell option name"
            s.commandFailing (name ++ text).toList 1
          else if has 's' || has 'u' then
            if has 'o' then (setByName? (has 's') name s).getD s else setSetting (has 's') name s
          else
            let s := if isOn s name then s else s.withStatus 1
            if has 'q' then s else s.say 1 (line s name)) (s.withStatus 0)

/-- Lets commands of the shell itself be used, or not. -/
def enable : Builtin := fun _ =>
  withOptions "adnps" "f" fun found s =>
    let off := hasOption 'n' found
    match found.2 with
    | [] =>
      let wanted := largeNames.filter fun name =>
        hasOption 'a' found || s.settings.contains (disabling name) == off
      prints (wanted.flatMap fun name =>
        (if s.settings.contains (disabling name) then "enable -n " else "enable ").toList ++
          name.toList ++ ['\n']) s
    | names =>
      names.foldl (fun s name =>
        let name := String.ofList name
        if largeNames.contains name then setSetting off (disabling name) s
        else s.commandFailing (name ++ ": not a shell builtin").toList 1) (s.withStatus 0)

/-! ## What else there is -/

def caller : Builtin := fun _ arguments s =>
  let frames := s.frames
  let place (n : Nat) : Octets :=
    match frames[n + 1]? with
    | some f => f.name
    | none => if s.isFile then s.name else "NULL".toList
  match arguments with
  | [] =>
    match frames with
    | [] => s.withStatus 1
    | f :: _ => prints (Octets.ofNat f.line ++ " ".toList ++
        (if s.isFile then s.name else "NULL".toList) ++ ['\n']) s
  | word :: _ =>
    match (Octets.decimal? word).bind fun n => frames[n]?.map fun f => (n, f) with
    | some (n, f) =>
      if n + 1 < frames.length then
        prints (Octets.ofNat f.line ++ ' ' :: place n ++ " ".toList ++
          (if s.isFile then s.name else "NULL".toList) ++ ['\n']) s
      else s.withStatus 1
    | none => s.withStatus 1

def completions : Builtin := fun _ =>
  withOptions "abcdefgjksuv" "oAGWFCXPS" fun found s =>
    let front := found.2.headD []
    let words : List Octets := match valueOf? 'W' found with
      | some text => (cutWords s.separators [.value text]).map Marked.text
      | none =>
        if hasOption 'b' found || valueOf? 'A' found == some "builtin".toList then
          largeNames.map String.toList
        else if hasOption 'v' found then s.bindings.inOrder.map (·.1)
        else if hasOption 'A' found && valueOf? 'A' found == some "function".toList then
          (s.functions.map (·.1)).mergeSort Octets.atMost
        else if hasOption 'k' found then (Token.keywords .large).map String.toList
        else if hasOption 'a' found then (aliasesInOrder s).map (·.1)
        else []
    let fitting := words.filter front.isPrefixOf
    if fitting.isEmpty then s.withStatus 1 else prints (Octets.unlines fitting) s

/-- Says that something cannot be done by a shell that nobody talks to. -/
def cannot (text : String) (status : Nat) : Builtin := fun _ _ s =>
  s.commandFailing text.toList status

/-- Tells about commands of the shell itself. What it tells is not kept here. -/
def help : Builtin := fun _ arguments s =>
  match arguments.find? fun word => !largeNames.contains (String.ofList word) with
  | some word =>
    let quoted := '\x60' :: word ++ ['\x27']
    s.commandFailing ("no help topics match ".toList ++ quoted ++
      ".  Try \x60help help' or \x60man -k ".toList ++ word ++ "' or \x60info ".toList ++ word ++
      "'.".toList) 1
  | none => s.withStatus 0

/-! ## The table -/

def common : List (String × Builtin) :=
  [(":", leaves 0), ("true", leaves 0), ("false", leaves 1), ("echo", echo), ("printf", printf),
    ("test", condition none), ("[", condition (some [']'])), ("exit", exit), ("return", return_),
    ("break", leaveLoops .breaking), ("continue", leaveLoops .continuing), ("eval", evaluate),
    (".", source), ("exec", replaceShell), ("export", export_), ("readonly", readonly),
    ("local", local_), ("unset", unset), ("set", set), ("shift", shift), ("times", times),
    ("getopts", nextOption), ("read", read), ("cd", changeDirectory), ("pwd", workplace),
    ("umask", creationMask), ("ulimit", limits), ("wait", wait), ("kill", kill), ("trap", trap),
    ("jobs", showJobs), ("fg", resume), ("bg", resume), ("alias", alias_), ("unalias", unalias),
    ("type", type_), ("command", command), ("hash", hash)]

/-- The commands that only the large shell has, by their names. -/
def additional : List (String × Builtin) :=
  [("source", source), ("let", sums), ("declare", declareLarge false),
    ("typeset", declareLarge false), ("shopt", shopt), ("enable", enable), ("disown", disown),
    ("builtin", builtin), ("mapfile", readAll), ("readarray", readAll), ("pushd", pushPlace),
    ("popd", popPlace), ("dirs", listPlaces), ("caller", caller), ("compgen", completions),
    ("complete", leaves 0), ("compopt", leaves 1), ("history", leaves 0), ("fc", leaves 0),
    ("bind", cannot "warning: line editing not enabled" 1),
    ("suspend", cannot "cannot suspend: no job control" 1),
    ("logout", cannot "not login shell: use \x60exit'" 1), ("help", help)]

/-- The command of the shell itself that a name means. -/
def named? (s : State) (name : Octets) : Option Builtin :=
  let text := String.ofList name
  if s.settings.contains (disabling text) then none
  else
    match common.lookup text, s.dialect with
    | some builtin, _ => some builtin
    | none, .small => if text = "chdir" then some changeDirectory else none
    | none, .large => additional.lookup text

end CommandChains.Machine.Shell.Builtin
