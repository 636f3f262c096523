import CommandChains.Machine.Delegate.Collection
import CommandChains.Machine.Delegate.Editing
import CommandChains.Machine.Delegate.Finding
import CommandChains.Machine.Delegate.Surroundings
import CommandChains.Machine.Delegate.Records
import CommandChains.Machine.Delegate.Scripting
import CommandChains.Machine.Delegate.Variables
import CommandChains.Machine.Process
import CommandChains.Machine.Shell
import CommandChains.Machine.Tool.Arithmetic
import CommandChains.Machine.Tool.Dump
import CommandChains.Machine.Tool.Columns
import CommandChains.Machine.Tool.Blocks
import CommandChains.Machine.Tool.Changes
import CommandChains.Machine.Tool.Clock
import CommandChains.Machine.Tool.Compression
import CommandChains.Machine.Tool.Condition
import CommandChains.Machine.Tool.Copying
import CommandChains.Machine.Tool.Digests
import CommandChains.Machine.Tool.Facts
import CommandChains.Machine.Tool.Format
import CommandChains.Machine.Tool.Identity
import CommandChains.Machine.Tool.Matching
import CommandChains.Machine.Tool.Keywords
import CommandChains.Machine.Tool.Lines
import CommandChains.Machine.Tool.Listing
import CommandChains.Machine.Tool.Making
import CommandChains.Machine.Tool.Whereabouts
import CommandChains.Machine.Tool.Options
import CommandChains.Machine.Tool.Order
import CommandChains.Machine.Tool.Pages
import CommandChains.Machine.Tool.Paragraph
import CommandChains.Machine.Tool.Recoding
import CommandChains.Machine.Tool.Sameness
import CommandChains.Machine.Tool.Search
import CommandChains.Machine.Tool.Translation
import CommandChains.Machine.Tool.Units

/-!
# Programs of the machine

What the programs do that commands can start, by their names. A program that is not
listed ends at once and prints nothing.
-/

namespace CommandChains.Machine

namespace Program

def tools : List (String × Tool) :=
  [("false", fun t => { left := some t.input, status := 1 }), ("echo", Tool.echo),
    ("printf", Tool.printf), ("seq", Tool.sequence), ("factor", Tool.factor),
    ("expr", Tool.computation), ("test", Tool.condition false), ("[", Tool.condition true),
    ("sleep", Tool.sleep), ("yes", Tool.repeatLine), ("cat", Tool.concatenate),
    ("tee", Tool.tee), ("tac", Tool.upward), ("rev", Tool.backward), ("nl", Tool.number),
    ("fold", Tool.fold), ("expand", Tool.expand), ("unexpand", Tool.unexpand), ("paste", Tool.paste),
    ("head", Tool.beginning),
    ("tail", Tool.ending), ("wc", Tool.amounts), ("cut", Tool.cut), ("uniq", Tool.distinct),
    ("sort", Tool.sort), ("tr", Tool.translate), ("grep", Search.linesThatMatch),
    ("egrep", Search.linesWith "-E"), ("fgrep", Search.linesWith "-F"),
    ("rgrep", Search.linesWith "-r"),
    ("basename", Tool.lastSteps), ("dirname", Tool.directories), ("which", Tool.whereabouts),
    ("printenv", Tool.environment), ("tty", Identity.terminal),
    ("uname", Identity.system), ("id", Identity.identity), ("whoami", Identity.constantly "root"),
    ("groups", Identity.groups), ("arch", Identity.constantly "x86_64"),
    ("logname", Identity.loginName), ("users", Identity.visitors {} 1),
    ("who", Identity.visitors Identity.visitorOptions 2), ("getent", Identity.lookup),
    ("hostid", Identity.withoutOperands), ("pwd", Whereabouts.working), ("pathchk", Whereabouts.check),
    ("sync", Whereabouts.sync), ("nproc", Whereabouts.processors), ("mountpoint", Whereabouts.mounted), ("ls", Listing.list),
    ("dir", Listing.listInColumns), ("vdir", Listing.listInFull), ("od", Dump.dump), ("sum", Tool.sums), ("cksum", Tool.anySums),
    ("md5sum", Tool.digests .md5), ("sha1sum", Tool.digests .sha1),
    ("sha224sum", Tool.digests .sha224), ("sha256sum", Tool.digests .sha256),
    ("sha384sum", Tool.digests .sha384), ("sha512sum", Tool.digests .sha512),
    ("b2sum", Tool.digests .blake2b), ("base64", Tool.armor .base64),
    ("base32", Tool.armor .base32), ("basenc", Tool.anyArmor), ("comm", Tool.common),
    ("join", Tool.Joining.join), ("fmt", Paragraph.reflow), ("pr", Pages.setPages), ("ptx", Keywords.contexts),
    ("tsort", Precedence.sorted), ("shuf", Shuffle.shuffled), ("numfmt", Units.convertAll),
    ("dd", Blocks.copyBlocks), ("getopt", Options.normalize), ("iconv", Recoding.recode), ("getconf", Limits.limit), ("diff", Changes.difference), ("sdiff", Changes.sideBySide), ("diff3", Changes.threeWay), ("cmp", Sameness.compareFiles), ("date", Calendar.date),
    ("mkdir", Making.directories), ("mkfifo", Making.pipes), ("mknod", Making.device),
    ("touch", Making.touch), ("truncate", Making.truncate), ("mktemp", Making.temporary),
    ("rm", Removing.files), ("rmdir", Removing.directories), ("unlink", Removing.single),
    ("cp", Copying.copy), ("mv", Copying.move), ("ln", Copying.link),
    ("link", Copying.singleLink), ("install", Copying.install),
    ("chmod", Ownership.changeModes), ("chown", Ownership.changeOwners),
    ("chgrp", Ownership.changeGroups), ("stat", Facts.status),
    ("gzip", Compression.pack []), ("gunzip", Compression.pack ["-d"]),
    ("zcat", Compression.pack ["-cd"]),
    ("zgrep", Search.packedLinesWith "-G"), ("zegrep", Search.packedLinesWith "-E"),
    ("zfgrep", Search.packedLinesWith "-F"), ("realpath", Resolution.realPaths), ("readlink", Resolution.linkTargets)]

def delegates : List (String × Behavior) :=
  [("env", Variables.environment), ("nice", Delegate.priority), ("nohup", Delegate.persistent),
    ("setsid", Delegate.ownSession), ("stdbuf", Delegate.buffered), ("timeout", Delegate.limited),
    ("xargs", Delegate.collected), ("find", Finding.find),
    ("chroot", Delegate.ownRoot), ("flock", Delegate.locked),
    ("ionice", Delegate.behind { valued := "cn" }),
    ("chrt", Delegate.behind { valued := "TPD", operands := 1 }),
    ("taskset", Delegate.behind { operands := 1 }), ("prlimit", Delegate.behind {}),
    ("choom", Delegate.behind { valued := "n" }), ("setpriv", Delegate.behind {}),
    ("unshare", Delegate.behind {}), ("setarch", Delegate.behind {}),
    ("mawk", Records.behavior), ("sed", Edit.behavior),
    ("perl", Scripting.behavior), ("dash", Shell.behavior .small), ("bash", Shell.behavior .large)]

def quiet : Tool := fun t => { left := some t.input }

def named (name : String) : Behavior :=
  match delegates.lookup name, tools.lookup name with
  | some behavior, _ => behavior
  | none, some tool => tool.behavior
  | none, none => quiet.behavior

/-- The directories that an environment says to search for programs. Without a word about
it the usual ones are searched. -/
def searchPathOf (e : Environment) : List Octets :=
  match e.lookup "PATH".toList with
  | some path => Octets.splitAt ':' path
  | none => ["/bin".toList, "/usr/bin".toList]

def noRoom : SystemError := .number 11

/-- The words that run a script: those of its first line, if that names a program, with the
path of the script behind them. -/
def interpreter? (path text : Octets) : Option (List Octets) :=
  match text with
  | '#' :: '!' :: rest =>
    let line := rest.takeWhile (· != '\n')
    let blank (c : Char) : Bool := c == ' ' || c == '\t'
    let trimmed := (line.reverse.dropWhile blank).reverse.dropWhile blank
    let name := trimmed.takeWhile fun c => !blank c
    let argument := (trimmed.drop name.length).dropWhile blank
    if name.isEmpty then none
    else some (name :: (if argument.isEmpty then [path] else [argument, path]))
  | _ => none

/-- Starts a command where at most so many programs are started by one another. -/
def startWithin : Nat → Start
  | 0 => fun _ => .error noRoom
  | depth + 1 => fun t =>
    match t.files.find (searchPathOf t.environment) t.name with
    | .error e => .error e
    | .ok (_, .known name) => .ok (named name (startWithin depth) t)
    | .ok (path, .script text) =>
      match interpreter? path text with
      | some (name :: words) =>
        startWithin depth { t with name, arguments := words ++ t.arguments }
      | _ => .error FileTree.noProgram

def depthLimit : Nat := 1000

def start : Start := startWithin depthLimit

end Program

/-- The facility on which the programs of this machine run. -/
def Host.facility : Facility Host :=
  Host.processes Program.start

end CommandChains.Machine
