import CommandChains.Machine.Octets

/-!
# Accounts

Who can own files: users and groups, each with a name and a number.
-/

namespace CommandChains.Machine

namespace Account

structure User where
  name : String
  number : Nat
  group : Nat
  purpose : String
  home : String
  shell : String := "/usr/sbin/nologin"
  deriving DecidableEq, Repr

def users : List User :=
  [{ name := "root", number := 0, group := 0, purpose := "root", home := "/root"
     shell := "/bin/bash" },
    { name := "daemon", number := 1, group := 1, purpose := "daemon", home := "/usr/sbin" },
    { name := "bin", number := 2, group := 2, purpose := "bin", home := "/bin" },
    { name := "sys", number := 3, group := 3, purpose := "sys", home := "/dev" },
    { name := "sync", number := 4, group := 65534, purpose := "sync", home := "/bin"
      shell := "/bin/sync" },
    { name := "games", number := 5, group := 60, purpose := "games", home := "/usr/games" },
    { name := "man", number := 6, group := 12, purpose := "man", home := "/var/cache/man" },
    { name := "lp", number := 7, group := 7, purpose := "lp", home := "/var/spool/lpd" },
    { name := "mail", number := 8, group := 8, purpose := "mail", home := "/var/mail" },
    { name := "news", number := 9, group := 9, purpose := "news", home := "/var/spool/news" },
    { name := "uucp", number := 10, group := 10, purpose := "uucp", home := "/var/spool/uucp" },
    { name := "proxy", number := 13, group := 13, purpose := "proxy", home := "/bin" },
    { name := "www-data", number := 33, group := 33, purpose := "www-data", home := "/var/www" },
    { name := "backup", number := 34, group := 34, purpose := "backup", home := "/var/backups" },
    { name := "list", number := 38, group := 38, purpose := "Mailing List Manager"
      home := "/var/list" },
    { name := "irc", number := 39, group := 39, purpose := "ircd", home := "/run/ircd" },
    { name := "_apt", number := 42, group := 65534, purpose := "", home := "/nonexistent" },
    { name := "nobody", number := 65534, group := 65534, purpose := "nobody"
      home := "/nonexistent" }]

def groups : List (String × Nat) :=
  [("root", 0), ("daemon", 1), ("bin", 2), ("sys", 3), ("adm", 4), ("tty", 5), ("disk", 6),
    ("lp", 7), ("mail", 8), ("news", 9), ("uucp", 10), ("man", 12), ("proxy", 13),
    ("kmem", 15), ("dialout", 20), ("fax", 21), ("voice", 22), ("cdrom", 24), ("floppy", 25),
    ("tape", 26), ("sudo", 27), ("audio", 29), ("dip", 30), ("www-data", 33), ("backup", 34),
    ("operator", 37), ("list", 38), ("irc", 39), ("src", 40), ("shadow", 42), ("utmp", 43),
    ("video", 44), ("sasl", 45), ("plugdev", 46), ("staff", 50), ("games", 60),
    ("users", 100), ("nogroup", 65534)]

def user? (name : Octets) : Option User := users.find? fun u => u.name.toList = name

/-- The number of a user with a name, or the number that is written. -/
def userNumber? (text : Octets) : Option Nat :=
  match user? text with
  | some u => some u.number
  | none => Octets.decimal? text

/-- The number of a group with a name, or the number that is written. -/
def groupNumber? (text : Octets) : Option Nat :=
  match groups.lookup (String.ofList text) with
  | some n => some n
  | none => Octets.decimal? text

def userName (n : Nat) : Octets :=
  match users.find? fun u => u.number = n with
  | some u => u.name.toList
  | none => Octets.ofNat n

def groupName (n : Nat) : Octets :=
  match groups.find? fun g => g.2 = n with
  | some g => g.1.toList
  | none => Octets.ofNat n

def User.line (u : User) : Octets :=
  Octets.joined [':'] [u.name.toList, ['x'], Octets.ofNat u.number, Octets.ofNat u.group,
    u.purpose.toList, u.home.toList, u.shell.toList]

def groupLine (g : String × Nat) : Octets :=
  Octets.joined [':'] [g.1.toList, ['x'], Octets.ofNat g.2, []]

def userLines : Octets := Octets.unlines (users.map User.line)

def groupLines : Octets := Octets.unlines (groups.map groupLine)

end Account

/-!
## Environments

The variables that a program is told, in order.
-/

abbrev Environment := List (Octets × Octets)

namespace Environment

/-- An environment with a variable set. A variable that is there keeps its place. -/
def set (e : Environment) (name value : Octets) : Environment :=
  if (e.lookup name).isSome then
    e.map fun entry => if entry.1 = name then (name, value) else entry
  else e ++ [(name, value)]

def erase (e : Environment) (name : Octets) : Environment :=
  e.filter fun entry => entry.1 != name

def setting (word : Octets) : Octets × Octets :=
  let name := word.takeWhile (· != '=')
  (name, word.drop (name.length + 1))

end Environment

end CommandChains.Machine
