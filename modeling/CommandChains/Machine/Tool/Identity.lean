import CommandChains.Machine.Account
import CommandChains.Machine.Tool.Basic

/-!
# Tools about who and what

Tools that print who runs a program, which users and groups there are, and what kind of
system it is.
-/

namespace CommandChains.Machine

namespace Identity

/-- Refuses the first of some operands that are too many. -/
def withAtMost (t : Task) (most status : Nat) (a : Arguments) (work : Report) : Report :=
  match a.operands.drop most with
  | [] => work
  | extra :: _ => t.refuses ("extra operand ".toList ++ Octets.quoted extra) status

def constantly (line : String) : Tool := fun t =>
  t.withArguments {} 1 fun a => withAtMost t 0 1 a (t.prints (line.toList ++ ['\n']))

/-- Takes no operands. What it prints is not the same everywhere, and is left out. -/
def withoutOperands : Tool := fun t =>
  t.withArguments {} 1 fun a => withAtMost t 0 1 a (t.prints [])

def loginName : Tool := fun t =>
  t.withArguments {} 1 fun a => withAtMost t 0 1 a (t.fails "no login name".toList 1)

def visitors (known : Known) (most : Nat) : Tool := fun t =>
  t.withArguments known 1 fun a => withAtMost t most 1 a (t.prints [])

def visitorOptions : Known :=
  { plain := "abdlmpqrstuwHT", hidden := "L"
    words := [("all", 'a'), ("boot", 'b'), ("count", 'q'), ("dead", 'd'), ("heading", 'H'),
      ("login", 'l'), ("lookup", 'L'), ("message", 'T'), ("process", 'p'), ("runlevel", 'r'),
      ("short", 's'), ("time", 't'), ("users", 'u'), ("writable", 'T'), ("mesg", 'T')] }

def terminal : Tool := fun t =>
  t.withArguments { plain := "s", words := [("silent", 's'), ("quiet", 's')] } 2 fun a =>
    withAtMost t 0 2 a
      { output := if a.has 's' then [] else "not a tty\n".toList, left := some t.input, status := 1 }

def system : Tool := fun t =>
  t.withArguments
      { plain := "asnrvmpio"
        words := [("all", 'a'), ("kernel-name", 's'), ("sysname", 's'), ("nodename", 'n'),
          ("kernel-release", 'r'), ("release", 'r'), ("kernel-version", 'v'), ("machine", 'm'),
          ("processor", 'p'), ("hardware-platform", 'i'), ("operating-system", 'o')] } 1 fun a =>
    let words := [('s', "Linux"), ('m', "x86_64"), ('p', "unknown"), ('i', "unknown"),
      ('o', "GNU/Linux")]
    let asked := words.filter fun word => a.has word.1
    let shown := if a.options.isEmpty then ["Linux"] else asked.map (·.2)
    withAtMost t 0 1 a (t.prints (Octets.joined [' '] (shown.map String.toList) ++ ['\n']))

/-! ## Users -/

/-- The user that is meant by a name or a number. -/
def user? (text : Octets) : Option Account.User :=
  match Account.user? text with
  | some u => some u
  | none =>
    let digits := if text.head? = some '+' then text.drop 1 else text
    (Octets.decimal? digits).bind fun n => Account.users.find? fun u => u.number = n

def self : Account.User :=
  { name := "root", number := 0, group := 0, purpose := "root", home := "/root" }

def named (n : Nat) (name : Octets) : Octets := Octets.ofNat n ++ '(' :: name ++ [')']

def described (u : Account.User) : Octets :=
  let group := named u.group (Account.groupName u.group)
  "uid=".toList ++ named u.number u.name.toList ++ " gid=".toList ++ group ++
    " groups=".toList ++ group

/-- The options of the tool that prints who somebody is. -/
def known : Known :=
  { plain := "agGnruzZ"
    words := [("context", 'Z'), ("group", 'g'), ("groups", 'G'), ("name", 'n'), ("real", 'r'),
      ("user", 'u'), ("zero", 'z')] }

def identity : Tool := fun t =>
  t.withArguments known 1 fun a =>
    let choices := [a.has 'u', a.has 'g', a.has 'G'].count true
    if a.has 'Z' then
      t.fails "--context (-Z) works only on an SELinux-enabled kernel".toList 1
    else if 1 < choices then t.fails "cannot print \"only\" of more than one choice".toList 1
    else if choices = 0 && (a.has 'n' || a.has 'r') then
      t.fails "cannot print only names or real IDs in default format".toList 1
    else if choices = 0 && a.has 'z' then
      t.fails "option --zero not permitted in default format".toList 1
    else
      let line (u : Account.User) : Octets :=
        let number := if a.has 'u' then u.number else u.group
        let name := if a.has 'u' then u.name.toList else Account.groupName u.group
        let text := if choices = 0 then described u
          else if a.has 'n' then name
          else Octets.ofNat number
        let end_ := if !a.has 'z' then ['\n']
          else if a.has 'G' && 1 < a.operands.length then ['\x00', '\x00']
          else ['\x00']
        text ++ end_
      if a.operands.isEmpty then t.prints (line self)
      else
        let found := a.operands.map fun name => (name, user? name)
        let unknown := found.filter fun entry => entry.2.isNone
        { output := (found.filterMap (·.2)).flatMap line, left := some t.input
          errors := unknown.flatMap fun entry =>
            t.complaint (Octets.quoted entry.1 ++ ": no such user".toList)
          status := if unknown.isEmpty then 0 else 1 }

def groups : Tool := fun t =>
  t.withArguments {} 1 fun a =>
    if a.operands.isEmpty then t.prints "root\n".toList
    else
      let found := a.operands.map fun name => (name, Account.user? name)
      let unknown := found.filter fun entry => entry.2.isNone
      { output := (found.filterMap (·.2)).flatMap fun u =>
          u.name.toList ++ " : ".toList ++ Account.groupName u.group ++ ['\n']
        left := some t.input
        errors := unknown.flatMap fun entry =>
          t.complaint (Octets.quoted entry.1 ++ ": no such user".toList)
        status := if unknown.isEmpty then 0 else 1 }

/-! ## Lists of the system -/

/-- The services of the network that have names: name, number, protocol, other names. -/
def services : List (String × Nat × String × String) :=
  [("ftp", 21, "tcp", ""), ("ssh", 22, "tcp", ""), ("telnet", 23, "tcp", ""),
    ("smtp", 25, "tcp", "mail"), ("domain", 53, "tcp", ""), ("http", 80, "tcp", "www"),
    ("pop3", 110, "tcp", "pop-3"), ("imap2", 143, "tcp", "imap"), ("https", 443, "tcp", "")]

/-- The lines about some names in a list of the system, or nothing if the list is not there. A
name that is not found has no line. -/
def entries? (list : String) (names : List Octets) : Option (List (Option Octets)) :=
  let lines := fun (all : Octets) (one? : Octets → Option Octets) =>
    if names.isEmpty then [some all] else names.map fun n => (one? n).map (· ++ ['\n'])
  match list with
  | "passwd" =>
    some (lines Account.userLines fun n =>
      (if (Octets.decimal? n).isSome then user? n else Account.user? n).map Account.User.line)
  | "group" =>
    some (lines Account.groupLines fun n =>
      match Octets.decimal? n with
      | some number =>
        (Account.groups.find? fun g => g.2 = number).map Account.groupLine
      | none => (Account.groups.find? fun g => g.1.toList = n).map Account.groupLine)
  | "services" =>
    some (lines [] fun n =>
      (services.find? fun s => s.1.toList = n || Octets.ofNat s.2.1 = n).map fun s =>
        let front := Octets.filled 22 s.1.toList ++ Octets.ofNat s.2.1 ++ '/' :: s.2.2.1.toList
        if s.2.2.2.isEmpty then front else front ++ ' ' :: s.2.2.2.toList)
  | "hosts" | "ahosts" | "ahostsv4" | "ahostsv6" | "networks" | "protocols" | "rpc" | "shadow"
  | "gshadow" | "aliases" | "ethers" | "netgroup" | "initgroups" =>
    some (names.map fun _ => none)
  | _ => none

def lookup : Tool := fun t =>
  let hint := "Try `getent --help' or `getent --usage' for more information.\n".toList
  let misused (front : Octets) : Report :=
    { errors := front ++ hint, left := some t.input, status := 1 }
  t.withArgumentsOr { plain := "iA", valued := "s", untilOperand := true }
      (fun m => misused (t.complaint m)) fun a =>
    match a.operands with
    | [] => misused (t.complaint "wrong number of arguments".toList)
    | list :: names =>
      match entries? (String.ofList list) names with
      | none => misused ("Unknown database: ".toList ++ list ++ ['\n'])
      | some lines =>
        { output := (lines.filterMap id).flatten, left := some t.input
          status := if lines.all Option.isSome then 0 else 2 }

end Identity

/-!
## Limits of the system

A tool that prints how much the system allows and what it can do, by the names that
standards have for that.
-/

namespace Limits

def ofSystem : List (String × List String) :=
  [("2097152",
      ["ARG_MAX", "_POSIX_ARG_MAX"]),
    ("2147483647",
      ["ATEXIT_MAX", "INT_MAX", "NL_MSGMAX", "NL_NMAX", "NL_SETMAX", "NL_TEXTMAX",
      "DELAYTIMER_MAX", "SEM_VALUE_MAX"]),
    ("8",
      ["CHAR_BIT"]),
    ("127",
      ["CHAR_MAX", "SCHAR_MAX"]),
    ("-128",
      ["CHAR_MIN", "SCHAR_MIN"]),
    ("100",
      ["CLK_TCK"]),
    ("-2147483648",
      ["INT_MIN"]),
    ("1024",
      ["IOV_MAX", "NSS_BUFLEN_GROUP", "NSS_BUFLEN_PASSWD", "PTHREAD_KEYS_MAX", "UIO_MAXIOV"]),
    ("256",
      ["LOGNAME_MAX", "LOGIN_NAME_MAX"]),
    ("64",
      ["LONG_BIT", "HOST_NAME_MAX"]),
    ("16",
      ["MB_LEN_MAX", "_POSIX_STREAM_MAX", "STREAM_MAX"]),
    ("65536",
      ["NGROUPS_MAX", "_POSIX_NGROUPS_MAX"]),
    ("4096",
      ["NL_ARGMAX", "PAGESIZE", "PAGE_SIZE"]),
    ("2048",
      ["NL_LANGMAX", "BC_DIM_MAX", "CHARCLASS_NAME_MAX", "LINE_MAX", "POSIX2_BC_DIM_MAX",
      "_POSIX2_LINE_MAX", "POSIX2_LINE_MAX"]),
    ("20",
      ["NZERO", "AIO_PRIO_DELTA_MAX"]),
    ("1048576",
      ["OPEN_MAX", "_POSIX_OPEN_MAX"]),
    ("8192",
      ["PASS_MAX"]),
    ("4",
      ["PTHREAD_DESTRUCTOR_ITERATIONS", "_XOPEN_XCU_VERSION"]),
    ("16384",
      ["PTHREAD_STACK_MIN"]),
    ("undefined",
      ["PTHREAD_THREADS_MAX", "TZNAME_MAX", "_POSIX_PII", "_POSIX_PII_INTERNET",
      "_POSIX_PII_INTERNET_DGRAM", "_POSIX_PII_INTERNET_STREAM", "_POSIX_PII_OSI",
      "_POSIX_PII_OSI_CLTS", "_POSIX_PII_OSI_COTS", "_POSIX_PII_OSI_M", "_POSIX_PII_SOCKET",
      "_POSIX_PII_XTI", "_POSIX_POLL", "_POSIX_SELECT", "_POSIX_THREAD_ROBUST_PRIO_INHERIT",
      "_POSIX_THREAD_ROBUST_PRIO_PROTECT", "TIMER_MAX", "_POSIX_TZNAME_MAX", "_T_IOV_MAX",
      "_XOPEN_CRYPT", "EQUIV_CLASS_MAX", "POSIX2_FORT_DEV", "POSIX2_FORT_RUN", "POSIX2_UPE",
      "_XBS5_ILP32_OFF32", "_XBS5_ILP32_OFFBIG", "_XBS5_LPBIG_OFFBIG", "_POSIX_V6_ILP32_OFF32",
      "_POSIX_V6_ILP32_OFFBIG", "_POSIX_V6_LPBIG_OFFBIG", "_POSIX_V7_ILP32_OFF32",
      "_POSIX_V7_ILP32_OFFBIG", "_POSIX_V7_LPBIG_OFFBIG", "_POSIX_BASE", "_POSIX_C_LANG_SUPPORT",
      "_POSIX_C_LANG_SUPPORT_R", "_POSIX_DEVICE_SPECIFIC", "_POSIX_DEVICE_SPECIFIC_R",
      "_POSIX_FD_MGMT", "_POSIX_FIFO", "_POSIX_PIPE", "_POSIX_FILE_ATTRIBUTES",
      "_POSIX_FILE_LOCKING", "_POSIX_FILE_SYSTEM", "_POSIX_MULTI_PROCESS",
      "_POSIX_SINGLE_PROCESS", "_POSIX_NETWORKING", "_REGEX_VERSION", "_POSIX_SIGNALS",
      "_POSIX_SPORADIC_SERVER", "_POSIX_THREAD_SPORADIC_SERVER", "_POSIX_SYSTEM_DATABASE",
      "_POSIX_SYSTEM_DATABASE_R", "_POSIX_TYPED_MEMORY_OBJECTS", "_POSIX_USER_GROUPS",
      "_POSIX_USER_GROUPS_R", "POSIX2_PBS", "POSIX2_PBS_ACCOUNTING", "POSIX2_PBS_LOCATE",
      "POSIX2_PBS_TRACK", "POSIX2_PBS_MESSAGE", "SYMLOOP_MAX", "AIO_LISTIO_MAX", "AIO_MAX",
      "MQ_OPEN_MAX", "_POSIX_DEVICE_IO", "_POSIX_TRACE", "_POSIX_TRACE_EVENT_FILTER",
      "_POSIX_TRACE_INHERIT", "_POSIX_TRACE_LOG", "SEM_NSEMS_MAX"]),
    ("32767",
      ["SHRT_MAX", "SSIZE_MAX", "_POSIX_SSIZE_MAX", "POSIX2_RE_DUP_MAX", "RE_DUP_MAX"]),
    ("-32768",
      ["SHRT_MIN"]),
    ("32",
      ["TTY_NAME_MAX", "WORD_BIT", "EXPR_NEST_MAX", "POSIX2_EXPR_NEST_MAX", "RTSIG_MAX"]),
    ("255",
      ["UCHAR_MAX", "COLL_WEIGHTS_MAX", "POSIX2_COLL_WEIGHTS_MAX"]),
    ("4294967295",
      ["UINT_MAX"]),
    ("18446744073709551615",
      ["ULONG_MAX"]),
    ("65535",
      ["USHRT_MAX"]),
    ("200809",
      ["_POSIX_ASYNCHRONOUS_IO", "_POSIX_FSYNC", "_POSIX_MAPPED_FILES", "_POSIX_MEMLOCK",
      "_POSIX_MEMLOCK_RANGE", "_POSIX_MEMORY_PROTECTION", "_POSIX_MESSAGE_PASSING",
      "_POSIX_PRIORITIZED_IO", "_POSIX_PRIORITY_SCHEDULING", "_POSIX_REALTIME_SIGNALS",
      "_POSIX_SEMAPHORES", "_POSIX_SHARED_MEMORY_OBJECTS", "_POSIX_SYNCHRONIZED_IO",
      "_POSIX_THREADS", "_POSIX_THREAD_ATTR_STACKADDR", "_POSIX_THREAD_ATTR_STACKSIZE",
      "_POSIX_THREAD_PRIORITY_SCHEDULING", "_POSIX_THREAD_PRIO_INHERIT",
      "_POSIX_THREAD_PRIO_PROTECT", "_POSIX_THREAD_PROCESS_SHARED",
      "_POSIX_THREAD_SAFE_FUNCTIONS", "_POSIX_TIMERS", "_POSIX_VERSION", "POSIX2_CHAR_TERM",
      "POSIX2_C_BIND", "POSIX2_C_DEV", "POSIX2_C_VERSION", "POSIX2_LOCALEDEF", "POSIX2_SW_DEV",
      "POSIX2_VERSION", "_POSIX_ADVISORY_INFO", "_POSIX_BARRIERS", "_POSIX_CLOCK_SELECTION",
      "_POSIX_CPUTIME", "_POSIX_THREAD_CPUTIME", "_POSIX_MONOTONIC_CLOCK",
      "_POSIX_READER_WRITER_LOCKS", "_POSIX_SPIN_LOCKS", "_POSIX_SPAWN", "_POSIX_TIMEOUTS",
      "IPV6", "RAW_SOCKETS", "_POSIX_IPV6", "_POSIX_RAW_SOCKETS"]),
    ("1",
      ["_POSIX_JOB_CONTROL", "_POSIX_SAVED_IDS", "_XOPEN_ENH_I18N", "_XOPEN_LEGACY",
      "_XOPEN_REALTIME", "_XOPEN_REALTIME_THREADS", "_XOPEN_SHM", "_XOPEN_UNIX", "_XOPEN_XPG2",
      "_XOPEN_XPG3", "_XOPEN_XPG4", "_XBS5_LP64_OFF64", "_POSIX_V6_LP64_OFF64",
      "_POSIX_V7_LP64_OFF64", "_POSIX_REGEXP", "_POSIX_SHELL"]),
    ("700",
      ["_XOPEN_VERSION"]),
    ("99",
      ["BC_BASE_MAX", "BC_SCALE_MAX", "POSIX2_BC_BASE_MAX", "POSIX2_BC_SCALE_MAX"]),
    ("1000",
      ["BC_STRING_MAX", "POSIX2_BC_STRING_MAX"]),
    ("/bin:/usr/bin",
      ["PATH", "CS_PATH"]),
    ("",
      ["LFS_CFLAGS", "LFS_LDFLAGS", "LFS_LIBS", "LFS_LINTFLAGS", "LFS64_LDFLAGS", "LFS64_LIBS",
      "XBS5_ILP32_OFF32_CFLAGS", "XBS5_ILP32_OFF32_LDFLAGS", "XBS5_ILP32_OFF32_LIBS",
      "XBS5_ILP32_OFF32_LINTFLAGS", "XBS5_ILP32_OFFBIG_CFLAGS", "XBS5_ILP32_OFFBIG_LDFLAGS",
      "XBS5_ILP32_OFFBIG_LIBS", "XBS5_ILP32_OFFBIG_LINTFLAGS", "XBS5_LP64_OFF64_LIBS",
      "XBS5_LP64_OFF64_LINTFLAGS", "XBS5_LPBIG_OFFBIG_CFLAGS", "XBS5_LPBIG_OFFBIG_LDFLAGS",
      "XBS5_LPBIG_OFFBIG_LIBS", "XBS5_LPBIG_OFFBIG_LINTFLAGS", "POSIX_V6_ILP32_OFF32_CFLAGS",
      "POSIX_V6_ILP32_OFF32_LDFLAGS", "POSIX_V6_ILP32_OFF32_LIBS",
      "POSIX_V6_ILP32_OFF32_LINTFLAGS", "POSIX_V6_ILP32_OFFBIG_CFLAGS",
      "POSIX_V6_ILP32_OFFBIG_LDFLAGS", "POSIX_V6_ILP32_OFFBIG_LIBS",
      "POSIX_V6_ILP32_OFFBIG_LINTFLAGS", "POSIX_V6_LP64_OFF64_LIBS",
      "POSIX_V6_LP64_OFF64_LINTFLAGS", "POSIX_V6_LPBIG_OFFBIG_CFLAGS",
      "POSIX_V6_LPBIG_OFFBIG_LDFLAGS", "POSIX_V6_LPBIG_OFFBIG_LIBS",
      "POSIX_V6_LPBIG_OFFBIG_LINTFLAGS", "POSIX_V7_ILP32_OFF32_CFLAGS",
      "POSIX_V7_ILP32_OFF32_LDFLAGS", "POSIX_V7_ILP32_OFF32_LIBS",
      "POSIX_V7_ILP32_OFF32_LINTFLAGS", "POSIX_V7_ILP32_OFFBIG_CFLAGS",
      "POSIX_V7_ILP32_OFFBIG_LDFLAGS", "POSIX_V7_ILP32_OFFBIG_LIBS",
      "POSIX_V7_ILP32_OFFBIG_LINTFLAGS", "POSIX_V7_LP64_OFF64_LIBS",
      "POSIX_V7_LP64_OFF64_LINTFLAGS", "POSIX_V7_LPBIG_OFFBIG_CFLAGS",
      "POSIX_V7_LPBIG_OFFBIG_LDFLAGS", "POSIX_V7_LPBIG_OFFBIG_LIBS",
      "POSIX_V7_LPBIG_OFFBIG_LINTFLAGS"]),
    ("-D_LARGEFILE64_SOURCE",
      ["LFS64_CFLAGS", "LFS64_LINTFLAGS"]),
    ("XBS5_LP64_OFF64",
      ["_XBS5_WIDTH_RESTRICTED_ENVS", "XBS5_WIDTH_RESTRICTED_ENVS"]),
    ("-m64",
      ["XBS5_LP64_OFF64_CFLAGS", "XBS5_LP64_OFF64_LDFLAGS", "POSIX_V6_LP64_OFF64_CFLAGS",
      "POSIX_V6_LP64_OFF64_LDFLAGS", "POSIX_V7_LP64_OFF64_CFLAGS", "POSIX_V7_LP64_OFF64_LDFLAGS"]),
    ("POSIX_V6_LP64_OFF64",
      ["_POSIX_V6_WIDTH_RESTRICTED_ENVS", "POSIX_V6_WIDTH_RESTRICTED_ENVS"]),
    ("POSIX_V7_LP64_OFF64",
      ["_POSIX_V7_WIDTH_RESTRICTED_ENVS", "POSIX_V7_WIDTH_RESTRICTED_ENVS"]),
    ("32768",
      ["MQ_PRIO_MAX"]),
    ("glibc 2.36",
      ["GNU_LIBC_VERSION"]),
    ("NPTL 2.36",
      ["GNU_LIBPTHREAD_VERSION"])]

/-- What may be different from path to path: each value with its names. -/
def ofPaths : List (String × List String) :=
  [("127",
      ["LINK_MAX", "_POSIX_LINK_MAX"]),
    ("255",
      ["MAX_CANON", "_POSIX_MAX_CANON", "MAX_INPUT", "_POSIX_MAX_INPUT", "NAME_MAX",
      "_POSIX_NAME_MAX"]),
    ("4096",
      ["PATH_MAX", "_POSIX_PATH_MAX", "PIPE_BUF", "_POSIX_PIPE_BUF", "POSIX_ALLOC_SIZE_MIN",
      "POSIX_REC_MIN_XFER_SIZE", "POSIX_REC_XFER_ALIGN"]),
    ("undefined",
      ["SOCK_MAXBUF", "_POSIX_ASYNC_IO", "_POSIX_PRIO_IO", "_POSIX_SYNC_IO",
      "POSIX_REC_INCR_XFER_SIZE", "POSIX_REC_MAX_XFER_SIZE", "SYMLINK_MAX"]),
    ("1",
      ["_POSIX_CHOWN_RESTRICTED", "_POSIX_NO_TRUNC", "POSIX2_SYMLINKS"]),
    ("0",
      ["_POSIX_VDISABLE"]),
    ("64",
      ["FILESIZEBITS"])]

def value? (table : List (String × List String)) (name : Octets) : Option String :=
  (table.find? fun entry => entry.2.contains (String.ofList name)).map (·.1)

def usage (t : Task) : Octets :=
  "Usage: ".toList ++ t.name ++ " [-v specification] variable_name [pathname]\n".toList ++
    List.replicate 7 ' ' ++ t.name ++ " -a [pathname]\n".toList

def limit : Tool := fun t =>
  let refused : Report := { errors := usage t, left := some t.input, status := 2 }
  let arguments := match t.arguments with
    | ['-', 'v'] :: _ :: rest => some rest
    | ['-', 'v'] :: [] => none
    | ('-' :: 'v' :: _) :: rest => some rest
    | ['-', '-'] :: rest => some rest
    | arguments => some arguments
  match arguments with
  | none | some [] => refused
  | some (name :: rest) =>
    if ["--help", "--version", "-a"].contains (String.ofList name) then { left := some t.input }
    else if 1 < rest.length then refused
    else
      match value? ofSystem name, value? ofPaths name with
      | some value, _ => if rest.isEmpty then t.prints (value.toList ++ ['\n']) else refused
      | none, some value => if rest.isEmpty then refused else t.prints (value.toList ++ ['\n'])
      | none, none =>
        t.fails ("Unrecognized variable \x60".toList ++ name ++ ['\x27']) 2

end Limits

end CommandChains.Machine
