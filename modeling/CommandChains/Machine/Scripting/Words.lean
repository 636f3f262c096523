import CommandChains.Machine.Scripting.Scanner

/-!
# Words and signs of scripts

The signs between values and how closely they hold them, the words for functions that are always
there and what they are given, and the modules that scripts can use.
-/

namespace CommandChains.Machine.Scripting

/-! ## Signs between values -/

/-- The signs between values, and how closely they hold what is beside them. -/
def innerSigns : List (String × Nat) :=
  [("<=>", 12), ("...", 7), ("..", 7), ("&&", 9), ("||", 8), ("//", 8), ("==", 12), ("!=", 12),
    ("=~", 18), ("!~", 18), ("<=", 13), (">=", 13), ("<<", 15), (">>", 15), ("+", 16), ("-", 16),
    (".", 16), ("*", 17), ("/", 17), ("%", 17), ("<", 13), (">", 13), ("&", 11), ("|", 10),
    ("\x5e", 10)]

def innerOperations : List (String × Nat) :=
  [("lt", 13), ("gt", 13), ("le", 13), ("ge", 13), ("eq", 12), ("ne", 12), ("cmp", 12),
    ("isa", 14)]

/-- The signs behind which an equals sign sets what is in front of them. -/
def settingSigns : List String :=
  ["**", "||", "&&", "//", "<<", ">>", "+", "-", "*", "/", ".", "%", "x", "&", "|", "\x5e"]

/-- The sign that sets something, at the beginning of a text. -/
def settingSign? (text : Octets) : Option String :=
  match text with
  | '=' :: c :: _ => if c = '=' ∨ c = '~' ∨ c = '>' then none else some ""
  | ['='] => some ""
  | _ => settingSigns.find? fun s => (s.toList ++ ['=']).isPrefixOf text &&
      !((s.toList ++ ['=', '=']).isPrefixOf text) && !((s.toList ++ ['=', '~']).isPrefixOf text)

/-- The sign or word between two values at the beginning of a text, and how closely it holds. -/
def innerSign? (text : Octets) : Option (String × Nat) :=
  if (settingSign? text).isSome then none
  else
    match text with
    | 'x' :: rest =>
      if ("=>".toList).isPrefixOf rest then none
      else if rest.head?.any (fun c => isWordly c && !c.isDigit) then none else some ("x", 17)
    | '*' :: '*' :: _ => none
    | _ =>
      match innerOperations.find? fun (word, _) => startsWithWord word text with
      | some found => some found
      | none => innerSigns.find? fun (sign, _) => sign.toList.isPrefixOf text

def operations : List (String × Operation) :=
  [("+", .add), ("-", .sub), ("*", .mul), ("/", .div), ("%", .mod), ("**", .pow), (".", .join),
    ("<<", .left), (">>", .right), ("&", .bitAnd), ("|", .bitOr), ("\x5e", .bitXor), ("<", .less),
    (">", .greater), ("<=", .atMost), (">=", .atLeast), ("==", .equal), ("!=", .unequal),
    ("<=>", .order), ("lt", .before), ("gt", .after), ("le", .notAfter), ("ge", .notBefore),
    ("eq", .same), ("ne", .different), ("cmp", .textOrder)]

def connectives : List (String × Connective) := [("&&", .both), ("||", .either), ("//", .present)]

/-! ## Functions -/

/-- The functions of one value, which is the topic if none is told. -/
def topicFunctions : List String :=
  ["lc", "uc", "lcfirst", "ucfirst", "fc", "length", "chr", "ord", "hex", "oct", "abs", "int",
    "sqrt", "sin", "cos", "exp", "log", "quotemeta", "chomp", "chop", "readlink", "rmdir", "stat",
    "lstat", "alarm", "pos", "ref", "defined", "study", "unlink", "require", "chroot"]

def singleFunctions : List String :=
  ["shift", "pop", "caller", "exit", "umask", "sleep", "localtime", "gmtime", "srand", "rand",
    "chdir", "close", "eof", "readline", "fileno", "undef", "scalar", "delete", "exists", "each",
    "keys", "values", "getc", "tell", "readdir", "closedir", "rewinddir", "lock", "untie", "tied"]

def plainFunctions : List String :=
  ["time", "times", "wait", "wantarray", "fork", "getppid", "getlogin", "__SUB__"]

def listFunctions : List String :=
  ["push", "unshift", "splice", "join", "split", "sprintf", "reverse", "die", "warn", "kill",
    "system", "exec", "open", "binmode", "seek", "read", "sysread", "syswrite", "sysopen", "index",
    "rindex", "substr", "pack", "unpack", "atan2", "bless", "chmod", "chown", "utime", "rename",
    "link", "symlink", "mkdir", "opendir", "select", "vec", "waitpid", "crypt", "truncate",
    "flock", "pipe", "utime", "local_time", "sysseek", "seekdir", "tie", "formline", "fcntl"]

def leastValues : List (String × Nat) :=
  [("push", 1), ("unshift", 1), ("splice", 1), ("join", 1), ("sprintf", 1), ("index", 2),
    ("rindex", 2), ("substr", 2), ("pack", 1), ("atan2", 2), ("bless", 1), ("rename", 2),
    ("link", 2), ("symlink", 2), ("opendir", 2), ("open", 1), ("binmode", 1), ("seek", 3),
    ("read", 3), ("waitpid", 2), ("unpack", 1), ("vec", 3), ("scalar", 1), ("delete", 1),
    ("exists", 1), ("each", 1), ("keys", 1), ("values", 1)]

def mostValues : List (String × Nat) :=
  [("index", 3), ("rindex", 3), ("substr", 4), ("atan2", 2), ("bless", 2), ("rename", 2),
    ("link", 2), ("symlink", 2), ("opendir", 2), ("seek", 3), ("waitpid", 2)]

def titleOf (name : String) : String :=
  match name with
  | "join" => "join or string"
  | "ref" => "reference-type operator"
  | "defined" => "defined operator"
  | "undef" => "undef operator"
  | name => name

def fileFunctions : List String :=
  ["open", "close", "eof", "binmode", "fileno", "seek", "tell", "readline", "getc", "read",
    "sysread", "syswrite", "opendir", "readdir", "closedir", "rewinddir", "flock", "truncate",
    "stat", "lstat", "sysopen", "pipe", "chdir", "select", "sysseek"]

/-- The signs of files that stand for questions about them. -/
def questionLetters : String := "rwxoRWXOezsfdlpSugkbctTBAMC"

/-! ## What is behind a function -/

/-- Whether a value can begin with a text, where a function takes several values or one. -/
def beginsValue (several : Bool) (text : Octets) : Bool :=
  match text with
  | [] => false
  | c :: rest =>
    if ")]\x7d;:,?=|>\x5e".contains c then false
    else if c = '.' then rest.head?.any Char.isDigit
    else if c = '/' then several || rest.head? != some '/'
    else if c = '*' then several && rest.head?.any fun d => beginsWord d || d == '\x7b'
    else if c = '&' then rest.head?.any fun d => beginsWord d || d == '$' || d == '\x7b'
    else if c = '%' then
      rest.head?.any fun d => beginsWord d || d == '$' || d == '\x7b' || d == '+'
    else if c = '!' then rest.head? != some '=' && rest.head? != some '~'
    else if beginsWord c then
      !(innerWords.any fun word => startsWithWord word text)
        || (("=>".toList).isPrefixOf (skipped (.blanks false) (wordIn text).2))
    else true

/-!
## Modules of scripts

The modules that scripts can use, and what is known or done differently where one is used. Some
change how the script is read; others make functions known by their names.
-/

/-- The modules that there are, with the functions that are known without being asked for and
those that can be asked for. -/
def modules : List (String × List String × List String) :=
  [("List::Util", [],
      ["sum", "sum0", "product", "max", "min", "maxstr", "minstr", "first", "reduce", "any", "all",
        "none", "notall", "shuffle", "uniq", "uniqnum", "pairs", "pairkeys", "pairvalues", "head",
        "tail", "reductions", "uniqint", "uniqstr", "pairmap", "pairgrep", "sample"]),
    ("Scalar::Util", [],
      ["blessed", "reftype", "looks_like_number", "refaddr", "weaken", "dualvar", "readonly",
        "openhandle"]),
    ("POSIX",
      ["floor", "ceil", "fmod", "pow", "strftime", "strtol", "strtod", "INT_MAX", "INT_MIN",
        "UINT_MAX", "LONG_MAX", "LONG_MIN", "DBL_MAX", "DBL_MIN", "DBL_EPSILON", "FLT_MAX",
        "FLT_EPSILON", "EXIT_SUCCESS", "EXIT_FAILURE", "isatty", "getpid", "toupper", "tolower",
        "_exit", "ENOENT", "EACCES", "EEXIST", "EINVAL", "WNOHANG", "SIGINT", "SIGTERM", "SIGKILL",
        "SIGALRM", "SIGHUP", "SIGUSR1", "SIGUSR2", "tan", "asin", "acos", "atan", "sinh", "cosh",
        "tanh", "log10", "ldexp", "abs", "fabs", "strstr", "mktime", "ctime", "asctime", "pause",
        "setlocale", "LC_ALL", "uname", "getcwd", "ttyname", "access", "dup2", "strerror",
        "CHAR_BIT", "SHRT_MAX", "SHRT_MIN", "RAND_MAX", "PATH_MAX", "WIFEXITED", "WEXITSTATUS",
        "WIFSIGNALED", "WTERMSIG", "modf", "frexp"],
      ["round", "trunc", "lround", "fmin", "fmax", "cbrt", "log2", "isnan", "isinf", "NAN",
        "INFINITY", "M_PI", "FLT_RADIX"]),
    ("Cwd", ["cwd", "getcwd"], ["abs_path", "realpath"]),
    ("File::Basename", ["basename", "dirname", "fileparse"], []),
    ("Carp", ["croak", "carp", "confess"], ["cluck"]),
    ("Text::Wrap", ["wrap", "fill"], []),
    ("Text::Tabs", ["expand", "unexpand"], []),
    ("Text::ParseWords", ["shellwords", "quotewords", "parse_line"], []),
    ("File::Path", ["mkpath", "rmtree"], ["make_path", "remove_tree"]),
    ("File::Temp", ["tempfile", "tempdir"], []), ("File::Spec", [], []),
    ("File::Spec::Unix", [], []), ("File::Glob", [], ["bsd_glob"]),
    ("Getopt::Long", ["GetOptions"], []), ("Hash::Util", [], ["lock_keys", "lock_hash"]),
    ("IO::Handle", [], []), ("IO::File", [], []), ("IO::Pipe", [], []), ("IO::Seekable", [], []),
    ("IO::Select", [], []), ("IO::Socket", [], []), ("IO", [], []), ("FileHandle", [], []),
    ("IPC::Open2", ["open2"], []), ("IPC::Open3", ["open3"], []), ("Socket", [], []),
    ("Symbol", ["gensym"], []), ("SelectSaver", [], []), ("Tie::Hash", [], []),
    ("Fcntl", ["O_RDONLY", "O_WRONLY", "O_RDWR", "O_CREAT", "O_TRUNC", "O_EXCL", "O_APPEND"],
      ["LOCK_SH", "LOCK_EX", "LOCK_NB", "LOCK_UN", "SEEK_SET", "SEEK_CUR", "SEEK_END", ":flock",
        ":seek", ":mode", ":DEFAULT"]),
    ("Errno", [], ["ENOENT", "EACCES", "EEXIST", "EINVAL", ":POSIX"]), ("Config", [], []),
    ("Exporter", [], ["import"]), ("AutoLoader", [], []), ("DynaLoader", [], []),
    ("XSLoader", [], []), ("attributes", [], []), ("bytes", [], []), ("fields", [], []),
    ("locale", [], []), ("overload", [], []), ("overloading", [], []), ("re", [], []),
    ("utf8", [], []), ("lib", [], []), ("strict", [], []), ("warnings", [], []),
    ("warnings::register", [], []), ("feature", [], []), ("integer", [], []), ("constant", [], []),
    ("vars", [], []), ("parent", [], []), ("base", [], []), ("builtin", [], [])]

/-- The functions of modules that are given a block first. -/
def blockFunctions : List String :=
  ["first", "reduce", "any", "all", "none", "notall", "reductions", "pairmap", "pairgrep"]

def libraryPath : List String :=
  ["/etc/perl", "/usr/local/lib/x86_64-linux-gnu/perl/5.36.0", "/usr/local/share/perl/5.36.0",
    "/usr/lib/x86_64-linux-gnu/perl5/5.36", "/usr/share/perl5", "/usr/lib/x86_64-linux-gnu/perl-base",
    "/usr/lib/x86_64-linux-gnu/perl/5.36", "/usr/share/perl/5.36", "/usr/local/lib/site_perl"]

def moduleFile (name : String) : Octets :=
  let rec go : Octets → Octets
    | ':' :: ':' :: rest => '/' :: go rest
    | c :: rest => c :: go rest
    | [] => []
  go name.toList ++ ".pm".toList

/-- What is said if a file of a library is not there. -/
def notLocated (file : Octets) (moduleName : Option Octets) : Octets :=
  let advice : Octets := match moduleName with
    | some name => " (you may need to install the ".toList ++ name ++ " module)".toList
    | none => []
  "Can't locate ".toList ++ file ++ " in @INC".toList ++ advice ++ " (@INC contains: ".toList ++
    Octets.joined [' '] (libraryPath.map String.toList) ++ [')']

namespace Reading

/-- The texts that an expression is, as far as they are known without running anything. -/
def knownTexts : Expr → List Octets
  | .constant (.text s) => [s]
  | .constant (.number n) => [n.text]
  | .several list => go list
  | .newHash list => go list
  | .builtin "split" [.rule (.constant (.text [c])) _, .constant (.text s)] => Octets.splitAt c s
  | _ => []
where
  go : List Expr → List Octets
    | [] => []
    | .constant (.text s) :: rest => s :: go rest
    | .constant (.number n) :: rest => n.text :: go rest
    | .several list :: rest => knownTexts (.several list) ++ go rest
    | _ :: rest => go rest

def everySecond {α : Type} : List α → List α
  | a :: _ :: rest => a :: everySecond rest
  | list => list

/-- The number that a version with several points is, in millionths. -/
def versionNumber (text : Octets) : Nat :=
  let text := match text with
    | 'v' :: rest => rest
    | text => text
  match (Octets.splitAt '.' text).map Octets.decimal with
  | major :: minor :: third :: _ => major * 1000000 + minor * 1000 + third
  | [major, minor] => major * 1000000 + minor * 1000
  | [major] => major * 1000000
  | [] => 0

def currentVersion : Nat := 5036000

def useVersion (text : Octets) : Reading Unit := do
  let isLong : Bool := text.head? = some 'v' || 1 < (text.filter (· == '.')).length
  let n := if isLong then versionNumber text else
    match Octets.splitAt '.' text with
    | [major] => Octets.decimal major * 1000000
    | major :: minor :: _ =>
      Octets.decimal major * 1000000 + Octets.decimal ((minor ++ "000000".toList).take 6)
    | [] => 0
  if currentVersion < n then
    let shown := 'v' :: Octets.ofNat (n / 1000000) ++ '.' :: Octets.ofNat (n / 1000 % 1000) ++
      '.' :: Octets.ofNat (n % 1000)
    let where_ ← place (← line)
    throw
      { message := "Perl ".toList ++ shown ++ " required--this is only v5.36.0, stopped".toList ++
          where_ ++ ".\nBEGIN failed--compilation aborted".toList ++ where_ ++ ".\n".toList
        aborts := false }
  else
    alterScope fun s =>
      { s with
        modern := s.modern || 5010000 ≤ n
        signatures := s.signatures || 5035000 ≤ n
        strictNames := s.strictNames || 5011000 ≤ n
        strictLinks := s.strictLinks || 5011000 ≤ n
        strictWords := s.strictWords || 5011000 ≤ n
        warns := s.warns || 5035000 ≤ n }

def importNames (module_ : String) (names : List String) : Reading Unit := do
  let package := (← scope).package
  modify fun p =>
    { p with
      known := names.map (fun n => package ++ "::" ++ n) ++ p.known
      blockFirst := (names.filter blockFunctions.contains).map (fun n => package ++ "::" ++ n) ++
        p.blockFirst
      plainKnown := (names.filter fun n => n.toList.all fun c => !c.isLower).map
        (fun n => package ++ "::" ++ n) ++ p.plainKnown
      script :=
        { p.script with
          imports := p.script.imports ++
            names.map fun n => (package ++ "::" ++ n, module_ ++ "::" ++ n) } }

def beStrict (on : Bool) (words : List Octets) (s : Scope) : Scope :=
  let all := words.isEmpty
  { s with
    strictNames := if all || words.contains "vars".toList then on else s.strictNames
    strictLinks := if all || words.contains "refs".toList then on else s.strictLinks
    strictWords := if all || words.contains "subs".toList then on else s.strictWords }

/-- Ends with what is said if a module cannot be used. -/
def refuseModule {α : Type} (message : Octets) : Reading α := do
  let where_ ← place (← line)
  throw
    { message := message ++ where_ ++ ".\nBEGIN failed--compilation aborted".toList ++ where_ ++
        ".\n".toList
      aborts := false }

/-- Uses a module, or does not use it any longer, with what is asked for. -/
def useModule (on : Bool) (name : String) (list : Option Expr) : Reading Unit := do
  let first (e : Expr) : Reading Unit := do
    let stmt := Stmt.plain (← site) e
    modify fun p => { p with script := { p.script with starts := p.script.starts ++ [[stmt]] } }
  let words := (list.map knownTexts).getD []
  let isEmptyList : Bool := match list with
    | some (.several []) => true
    | _ => false
  match name with
  | "strict" =>
    alterScope (beStrict on words)
  | "warnings" =>
    if on || words.isEmpty || words.contains "all".toList then
      alterScope fun s => { s with warns := on }
  | "utf8" =>
    alterScope fun s => { s with wide := on }
  | "integer" =>
    alterScope fun s => { s with wholes := on }
  | "feature" =>
    alterScope fun s =>
      { s with modern := on || s.modern, signatures := s.signatures || (on && words.any fun w =>
          w == "signatures".toList || w == ":5.36".toList || w == ":all".toList) }
  | "vars" =>
    let package := (← scope).package
    alterScope fun s =>
      { s with names := words.map (fun w =>
          (String.ofList w, .shared (qualified package (String.ofList (w.drop 1))))) ++ s.names }
  | "constant" =>
    let package := (← scope).package
    match list with
    | none => pure ()
    | some e =>
      let given := match e with
        | .several given => given
        | e => [e]
      let names : List Octets := match given with
        | [.newHash inner] => everySecond inner |>.flatMap knownTexts
        | first :: _ => knownTexts first
        | [] => []
      let full := names.map fun n => package ++ "::" ++ String.ofList n
      modify fun p => { p with known := full ++ p.known, plainKnown := full ++ p.plainKnown }
      first (.define package given)
  | "parent" | "base" =>
    let package := (← scope).package
    let classes := words.filter (· != "-norequire".toList)
    first (.builtin "push" [.named .array (.shared (package ++ "::ISA")),
      .several (classes.map Expr.ofText)])
  | name =>
    match modules.find? fun (n, _, _) => n == name with
    | none => refuseModule (notLocated (moduleFile name) (some name.toList))
    | some (_, usual, others) =>
      if on then
        modify fun p =>
          { p with script :=
              { p.script with imports := p.script.imports ++ ((usual ++ others).filter fun n =>
                  !n.startsWith ":").map fun n => (name ++ "::" ++ n, name ++ "::" ++ n) } }
      if on && !isEmptyList then
        let asked := words.map String.ofList
        let tagged := asked.any fun w => w.startsWith ":"
        let wanted := if list.isNone || (tagged && asked.all fun w => w.startsWith ":") then
            if tagged then usual ++ others.filter (fun n => !n.startsWith ":") else usual
          else asked.filter fun w => !w.startsWith ":"
        match wanted.find? fun w => !usual.contains w && !others.contains w &&
            !usual.contains (String.ofList (w.toList.drop 1)) && w.toList.head?.any beginsWord with
        | some odd =>
          if !(usual.isEmpty && others.isEmpty) then
            refuseModule (("\"" ++ odd ++ "\" is not exported by the " ++ name ++
              " module\nCan't continue after import errors").toList)
        | none => importNames name wanted

end Reading

/-!
## What expressions are called in complaints

A value that is computed cannot be set, and a function that changes something is given what can be
changed. A statement whose value nobody wants and that changes nothing is told, where doubtful
things are.
-/

namespace Expr

/-! ## What cannot be set -/

/-- What something by a name or a link is called. -/
def heldTitle (sigil : Sigil) (own : Bool) : String :=
  match sigil, own with
  | .scalar, true => "private variable"
  | .array, true => "private array"
  | .hash, true => "private hash"
  | .scalar, false => "scalar dereference"
  | .array, false => "array dereference"
  | .hash, false => "hash dereference"
  | .code, _ => "subroutine entry"
  | .glob, _ => "glob value"

def title : Expr → String
  | constant .unset => "undef operator"
  | constant _ | compute _ (constant _) (constant _) | negative (constant _) => "constant item"
  | joined _ | spaced _ => "string"
  | named sigil (.own _ _) | declare _ [some (sigil, .own _ _)] _ => heldTitle sigil true
  | named sigil _ | follow sigil _ _ => heldTitle sigil false
  | item _ _ => "array element"
  | entry _ _ => "hash element"
  | items _ _ => "array slice"
  | entries _ _ => "hash slice"
  | lastPlace _ => "array length"
  | compute op _ _ => op.title
  | connect .both _ _ => "logical and (&&)"
  | connect .either _ _ => "logical or (||)"
  | connect .present _ _ => "defined or (//)"
  | opposite _ => "not"
  | negative _ => "negation (-)"
  | complement _ => "1's complement (~)"
  | range _ _ _ _ => "range (or flop)"
  | repeated _ _ _ => "repeat (x)"
  | step true true _ => "preincrement (++)"
  | step true false _ => "postincrement (++)"
  | step false true _ => "predecrement (--)"
  | step false false _ => "postdecrement (--)"
  | newArray _ => "anonymous array ([])"
  | newHash _ => "anonymous hash (\x7b\x7d)"
  | newCode _ _ _ => "anonymous subroutine"
  | reference _ => "single ref constructor"
  | find _ _ _ => "pattern match (m//)"
  | replace _ _ _ _ => "substitution (s///)"
  | exchange _ _ => "transliteration (tr///)"
  | rule _ _ => "pattern quote (qr//)"
  | output _ => "quoted execution (\x60\x60, qx)"
  | readLine _ => "<HANDLE>"
  | paths _ => "glob"
  | block _ => "do block"
  | attempt _ => "eval \x7bblock\x7d exit"
  | evaluate _ _ => "eval \"string\""
  | test letter _ => String.ofList ['-', letter]
  | print kind _ _ => kind
  | arrange _ _ _ => "sort"
  | through true _ _ => "grep iterator"
  | through false _ _ => "map iterator"
  | builtin name _ => titleOf name
  | call _ _ | method _ _ _ | methodBy _ _ _ => "subroutine entry"
  | _ => "list"

def settableFunctions : List String := ["substr", "pos", "vec", "keys", "local"]

def fixedTitle? (e : Expr) : Option String :=
  match e with
  | constant (.glob _) => none
  | builtin "substr" (first :: _) => first.fixedTitle?
  | builtin name _ => if settableFunctions.contains name then none else some e.title
  | constant _ | joined _ | spaced _ | compute _ _ _ | connect _ _ _ | opposite _ | negative _
  | complement _ | range _ _ _ _ | repeated _ _ _ | step _ _ _ | newArray _ | newHash _
  | newCode _ _ _ | find _ _ _ | replace _ _ _ _ | exchange _ _ | rule _ _ | output _ | readLine _
  | paths _ | attempt _ | evaluate _ _ | test _ _ | print _ _ _ | arrange _ _ _
  | through _ _ _ => some e.title
  | _ => none

/-- What something is called in which several values are set, if it cannot be set; nothing takes
a value there that is not wanted. -/
def fixedPartTitles : List Expr → List String
  | [] => []
  | constant .unset :: rest => fixedPartTitles rest
  | e :: rest => e.fixedTitle?.toList ++ fixedPartTitles rest

/-- What something is called that cannot be set as one value. -/
def unsteadyTitle? (e : Expr) : Option String :=
  match e with
  | named .array _ | named .hash _ | follow .array _ _ | follow .hash _ _
  | items _ _ | entries _ _ => some e.title
  | e => e.fixedTitle?

def isArray : Expr → Bool
  | named .array _ | follow .array _ _ | declare _ [some (.array, _)] _ => true
  | _ => false

def isHash : Expr → Bool
  | named .hash _ | follow .hash _ _ | declare _ [some (.hash, _)] _ => true
  | _ => false

/-- Whether something can be taken out of an array or a hash, or asked for there. -/
def isInner : Expr → Bool
  | item _ _ | entry _ _ | items _ _ | entries _ _ | pairs _ _ _ => true
  | localized e => e.isInner
  | _ => false

/-! ## Values for nothing -/

/-- Functions that only have a value, with what they are called in complaints. -/
def idleFunctions : List (String × String) :=
  [("length", "length"), ("defined", "defined operator"), ("ref", "reference-type operator"),
    ("wantarray", "wantarray"), ("reverse", "reverse"), ("time", "time"), ("substr", "substr"),
    ("index", "index"), ("rindex", "rindex"), ("caller", "caller"), ("localtime", "localtime"),
    ("gmtime", "gmtime"), ("unpack", "unpack"), ("pack", "pack"), ("join", "join or string"),
    ("sprintf", "sprintf"), ("lc", "lc"), ("uc", "uc"), ("ord", "ord"), ("chr", "chr"),
    ("hex", "hex"), ("oct", "oct"), ("abs", "abs"), ("int", "int"), ("ucfirst", "ucfirst"),
    ("lcfirst", "lcfirst"), ("quotemeta", "quotemeta")]

/-- The value of an operation on values that are known, as far as it is plain. -/
def settled? (op : Operation) (a b : Value) : Option Value :=
  match op with
  | .add => some (.number (a.amount.add b.amount))
  | .sub => some (.number (a.amount.sub b.amount))
  | .mul => some (.number (a.amount.mul b.amount))
  | .join => some (.text (a.plainText ++ b.plainText))
  | _ => none

/-- What a value that is known is called in complaints, unless it is one that is put for
nothing. -/
def constantTitle : Value → List String
  | .number n =>
    let text := String.ofList n.text
    if text == "0" || text == "1" then [] else ["a constant (" ++ text ++ ")"]
  | .text s => ["a constant (\"" ++ String.ofList s ++ "\")"]
  | _ => []

def nameTitle (sigil : Sigil) : Variable → List String
  | .own _ _ =>
    match sigil with
    | .array => ["private array"]
    | .hash => ["private hash"]
    | _ => ["private variable"]
  | _ => ["a variable"]

mutual

/-- What an expression is called in complaints if it only has a value; each part of it by
itself. -/
def idleTitles : Expr → List String
  | constant v => constantTitle v
  | joined _ | spaced _ => ["string"]
  | named sigil v => if sigil == .code || sigil == .glob then [] else nameTitle sigil v
  | follow sigil _ _ => if sigil == .code || sigil == .glob then [] else ["a variable"]
  | item _ _ => ["array element"]
  | entry _ _ => ["hash element"]
  | items _ _ => ["array slice"]
  | entries _ _ => ["hash slice"]
  | lastPlace _ => ["array length"]
  | compute op (constant a) (constant b) =>
    match settled? op a b with
    | some v => constantTitle v
    | none => []
  | compute op _ _ => [op.title]
  | opposite _ => ["not"]
  | negative _ => ["negation (-)"]
  | complement _ => ["1's complement (~)"]
  | range _ _ _ _ => ["range (or flop)"]
  | repeated _ _ _ => ["repeat (x)"]
  | newArray _ => ["anonymous array ([])"]
  | newHash _ => ["anonymous hash (\x7b\x7d)"]
  | newCode _ _ _ => ["anonymous subroutine"]
  | reference _ => ["single ref constructor"]
  | arrange _ _ _ => ["sort"]
  | builtin name _ => (idleFunctions.lookup name).toList
  | connect _ _ b => idleTitles b
  | choice _ yes no => idleTitles yes ++ idleTitles no
  | several list => idleTitlesOf list
  | _ => []

def idleTitlesOf : List Expr → List String
  | [] => []
  | e :: rest => idleTitles e ++ idleTitlesOf rest

end

end Expr

namespace Stmt

/-- What is told about an expression that only has a value. -/
def idleWarnings (site : Site) (e : Expr) : Octets :=
  if site.warns then
    e.idleTitles.flatMap fun title =>
      "Useless use of ".toList ++ title.toList ++ " in void context at ".toList ++ site.file ++
        " line ".toList ++ Octets.ofNat site.line ++ ".\n".toList
  else []

mutual

/-- What is told about a statement that does nothing. The value of a last statement may be
wanted. -/
def idle (isWanted : Bool) : Stmt → Octets
  | plain site e => if isWanted then [] else idleWarnings site e
  | choose _ _ yes no => idleAll isWanted yes ++ idleAll isWanted no
  | loop _ _ _ _ body continuing => idleAll false body ++ idleAll false continuing
  | counted _ _ _ _ _ body => idleAll false body
  | each _ _ _ _ body continuing => idleAll false body ++ idleAll false continuing
  | bare _ _ body continuing => idleAll isWanted body ++ idleAll false continuing
  | nothing => []

def idleAll (isWanted : Bool) : List Stmt → Octets
  | [] => []
  | [stmt] => idle isWanted stmt
  | stmt :: rest => idle false stmt ++ idleAll isWanted rest

end

end Stmt

/-- What is told about statements of a script that do nothing. -/
def Script.idle (script : Script) : Octets :=
  (script.functions.flatMap fun (_, _, body) => Stmt.idleAll true body) ++
    Stmt.idleAll false script.body

end CommandChains.Machine.Scripting
