import CommandChains.Machine.Account
import CommandChains.Machine.Files

/-!
# The files of the machine

A small system as it comes: programs in one directory, with links from where they
used to be, devices, settings, and what the system tells about itself. Directories
are given as far as their entries can matter.
-/

namespace CommandChains.Machine.Installation

def programNames : List String :=
  ["[", "addpart", "apt", "apt-cache", "apt-cdrom", "apt-config", "apt-get", "apt-key",
    "apt-mark", "arch", "b2sum", "base32", "base64", "basename", "basenc", "bash", "bashbug",
    "captoinfo", "cat", "chage", "chattr", "chcon", "chfn", "chgrp", "chmod", "choom", "chown",
    "chrt", "chsh", "cksum", "clear", "clear_console", "cmp", "comm", "cp", "csplit", "cut",
    "dash", "date", "dd", "deb-systemd-helper", "deb-systemd-invoke", "debconf",
    "debconf-apt-progress", "debconf-communicate", "debconf-copydb", "debconf-escape",
    "debconf-set-selections", "debconf-show", "delpart", "df", "diff", "diff3", "dir",
    "dircolors", "dirname", "dmesg", "dpkg", "dpkg-deb", "dpkg-divert",
    "dpkg-maintscript-helper", "dpkg-query", "dpkg-realpath", "dpkg-split",
    "dpkg-statoverride", "dpkg-trigger", "du", "echo", "egrep", "env", "expand", "expiry",
    "expr", "factor", "faillog", "fallocate", "false", "fgrep", "fincore", "find", "findmnt",
    "flock", "fmt", "fold", "getconf", "getent", "getopt", "gpasswd", "gpgv", "grep",
    "groups", "gunzip", "gzexe", "gzip", "hardlink", "head", "hostid", "hostname", "iconv",
    "id", "infocmp", "install", "ionice", "ipcmk", "ipcrm", "ipcs", "ischroot", "join",
    "last", "lastb", "ldd", "link", "ln", "locale", "localedef", "logger", "login", "logname",
    "ls", "lsattr", "lsblk", "lscpu", "lsipc", "lslocks", "lslogins", "lsmem", "lsns", "mawk",
    "mcookie", "md5sum", "mesg", "mkdir", "mkfifo", "mknod", "mktemp", "more", "mount",
    "mountpoint", "mv", "namei", "newgrp", "nice", "nl", "nohup", "nproc", "nsenter",
    "numfmt", "od", "partx", "passwd", "paste", "pathchk", "perl", "pinky", "pldd", "pr",
    "printenv", "printf", "prlimit", "ptx", "pwd", "readlink", "realpath", "renice",
    "resizepart", "rev", "rgrep", "rm", "rmdir", "run-parts", "runcon", "savelog", "script",
    "scriptlive", "scriptreplay", "sdiff", "sed", "seq", "setarch", "setpriv", "setsid",
    "setterm", "sha1sum", "sha224sum", "sha256sum", "sha384sum", "sha512sum", "shred", "shuf",
    "sleep", "sort", "split", "stat", "stdbuf", "stty", "su", "sum", "sync", "tabs", "tac",
    "tail", "tar", "taskset", "tee", "tempfile", "test", "tic", "timeout", "toe", "touch",
    "tput", "tr", "true", "truncate", "tset", "tsort", "tty", "tzselect", "umount", "uname",
    "unexpand", "uniq", "unlink", "unshare", "update-alternatives", "users", "utmpdump", "vdir",
    "wall", "wc", "whereis", "who", "whoami", "xargs", "yes", "zcat", "zcmp", "zdiff",
    "zdump", "zegrep", "zfgrep", "zforce", "zgrep", "zless", "zmore", "znew"]

/-- Other names of programs, and the programs they are links to. -/
def otherNames : List (String × String) :=
  [("sh", "dash"), ("rbash", "bash"), ("awk", "/etc/alternatives/awk"),
    ("nawk", "/etc/alternatives/nawk"), ("which", "/etc/alternatives/which"),
    ("pager", "/etc/alternatives/pager"),
    ("dnsdomainname", "hostname"), ("domainname", "hostname"), ("nisdomainname", "hostname"),
    ("ypdomainname", "hostname"), ("linux32", "setarch"), ("linux64", "setarch"),
    ("i386", "setarch"), ("x86_64", "setarch"), ("reset", "tset"), ("infotocap", "tic"),
    ("sg", "newgrp"), ("uncompress", "gunzip")]

/-- The names that are links to one of several programs that do the same. -/
def alternatives : List (String × String) :=
  [("awk", "/usr/bin/mawk"), ("nawk", "/usr/bin/mawk"), ("which", "/usr/bin/which.debianutils"),
    ("pager", "/bin/more"), ("rmt", "/usr/sbin/rmt-tar")]

def superviseNames : List String :=
  ["add-shell", "adduser", "agetty", "badblocks", "blkid", "blockdev", "chgpasswd", "chmem",
    "chpasswd", "chroot", "cpgr", "cppw", "ctrlaltdel", "debugfs", "deluser", "e2fsck",
    "fdisk", "fsck", "fsfreeze", "fstrim", "groupadd", "groupdel", "groupmod", "grpck", "hwclock",
    "iconvconfig", "invoke-rc.d", "ldattach", "ldconfig", "losetup", "mkfs", "mkswap",
    "newusers", "nologin", "pivot_root", "pwck", "pwconv", "remove-shell", "rmt-tar", "rtcwake",
    "runuser", "service", "sfdisk", "shadowconfig", "start-stop-daemon", "sulogin", "swapoff",
    "swapon", "switch_root", "tarcat", "tune2fs", "tzconfig", "update-passwd", "update-rc.d",
    "useradd", "userdel", "usermod", "vigr", "vipw", "zic", "zramctl"]

def programs (names : List String) : List (String × Node) :=
  names.map fun name => (name, .program name)

def links (paths : List (String × String)) : List (String × Node) :=
  paths.map fun (name, path) => (name, .link path)

def directories (names : List String) : List (String × Node) :=
  names.map fun name => (name, .directory 493 [])

/-- Files that cannot be run. What they hold does not matter, so they count as empty. -/
def dataFiles (names : List String) : List (String × Node) :=
  names.map fun name => (name, .data [])

def deviceFiles (names : List String) : List (String × Node) :=
  names.map fun name => (name, .device name)

def processFiles : List (String × Node) :=
  dataFiles ["auxv", "cgroup", "clear_refs", "cmdline", "comm", "coredump_filter", "cpuset",
    "environ", "gid_map", "io", "limits", "loginuid", "maps", "mem", "mountinfo", "mounts",
    "mountstats", "numa_maps", "oom_adj", "oom_score", "oom_score_adj", "pagemap",
    "personality", "projid_map", "sched", "schedstat", "sessionid", "setgroups", "smaps",
    "smaps_rollup", "stack", "stat", "statm", "status", "syscall", "timens_offsets", "timers",
    "timerslack_ns", "uid_map", "wchan"] ++
  directories ["attr", "fdinfo", "map_files", "net", "ns", "task", "cwd"] ++
  [("fd", .directory 320 (dataFiles ["0", "1", "2"])), ("root", .link "/")]

def systemFiles : List (String × Node) :=
  [("self", .directory 365 processFiles), ("1", .directory 365 processFiles)] ++
  links [("thread-self", "self"), ("mounts", "self/mounts"), ("net", "self/net")] ++
  dataFiles ["buddyinfo", "cgroups", "cmdline", "consoles", "cpuinfo", "crypto", "devices",
    "diskstats", "execdomains", "fb", "filesystems", "interrupts", "iomem", "ioports",
    "kallsyms", "kcore", "key-users", "keys", "kmsg", "loadavg", "locks", "meminfo", "misc",
    "modules", "pagetypeinfo", "partitions", "slabinfo", "softirqs", "stat", "swaps",
    "sysrq-trigger", "timer_list", "uptime", "version", "vmallocinfo", "vmstat", "zoneinfo"] ++
  directories ["acpi", "bus", "driver", "fs", "irq", "sys", "sysvipc", "tty"]

def devices : List (String × Node) :=
  deviceFiles ["null", "zero", "full", "random", "urandom", "tty", "console"] ++
  directories ["pts", "shm", "mqueue"] ++
  links [("fd", "/proc/self/fd"), ("stdin", "/proc/self/fd/0"),
    ("stdout", "/proc/self/fd/1"), ("stderr", "/proc/self/fd/2"), ("core", "/proc/kcore")]

/-- The paths of shells, after a line that says so. -/
def shellLines : Octets :=
  Octets.unlines (["# /etc/shells: valid login shells", "/bin/sh", "/usr/bin/sh", "/bin/bash",
    "/usr/bin/bash", "/bin/rbash", "/usr/bin/rbash", "/bin/dash", "/usr/bin/dash"].map
      String.toList)

def settings : List (String × Node) :=
  [("passwd", .data Account.userLines), ("group", .data Account.groupLines),
    ("shells", .data shellLines), ("host.conf", .data "multi on\n".toList),
    ("alternatives", .directory 493 (links alternatives))] ++
  dataFiles ["adduser.conf", "bash.bashrc", "bindresvport.blacklist", "debconf.conf",
    "debian_version", "deluser.conf", "environment", "fstab", "gai.conf", "group-",
    "gshadow", "gshadow-", "hostname", "hosts", "issue", "issue.net",
    "ld.so.cache", "ld.so.conf", "libaudit.conf", "localtime", "login.defs", "machine-id",
    "mke2fs.conf", "motd", "networks", "nsswitch.conf", "os-release", "pam.conf",
    "passwd-", "profile", "protocols", "resolv.conf", "rmt", "services", "shadow", "shadow-",
    "subgid", "subuid", "timezone", "xattr.conf"] ++
  directories ["apt", "cron.d", "cron.daily", "default", "dpkg", "init.d",
    "ld.so.conf.d", "logrotate.d", "opt", "pam.d", "profile.d", "rc0.d", "rc1.d", "rc2.d",
    "rc3.d", "rc4.d", "rc5.d", "rc6.d", "rcS.d", "security", "selinux", "skel", "ssl", "systemd",
    "terminfo", "update-motd.d"] ++
  links [("mtab", "/proc/mounts")]

def directory (entries : List (String × Node)) : Node := .directory 493 entries

/-- The root of all files. Processes begin in an empty directory below it. -/
def root : Node :=
  directory ([
    ("usr", directory ([
      ("bin", directory (programs programNames ++
        [("which.debianutils", .program "which")] ++ links otherNames)),
      ("sbin", directory (programs superviseNames ++
        links [("rmt", "/etc/alternatives/rmt")])),
      ("local", directory (directories
        ["bin", "etc", "games", "include", "lib", "man", "sbin", "share", "src"]))] ++
      directories ["games", "include", "lib", "lib64", "libexec", "share", "src"])),
    ("etc", directory settings),
    ("dev", directory devices),
    ("proc", .directory 365 systemFiles),
    ("sys", directory (directories ["block", "bus", "class", "dev", "devices", "firmware", "fs",
      "hypervisor", "kernel", "module", "power"])),
    ("run", directory (directories ["lock"])),
    ("var", directory (directories ["backups", "cache", "lib", "local", "log", "mail", "opt",
      "spool", "tmp"] ++ links [("run", "/run"), ("lock", "/run/lock")])),
    ("tmp", .directory 1023 []), ("root", .directory 448 [])] ++
    links [("bin", "usr/bin"), ("sbin", "usr/sbin"), ("lib", "usr/lib"),
      ("lib64", "usr/lib64")] ++
    directories ["home", "opt", "mnt", "media", "srv", "boot", "work"])

def files : Files := { root, here := ["work"] }

def searchPath : List Octets := ["/usr/bin".toList, "/bin".toList]

end CommandChains.Machine.Installation
