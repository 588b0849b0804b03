import Retrace.Files.Tree

/-!
# What every machine has

The directories, devices and programs that are there before anything is put in
place. A program is a file that begins with the mark of an executable, followed by
its name, so that a copy of it is the same program.
-/

namespace Retrace.Files

/-- What a file begins with that a machine itself can run. -/
def executableMark : List UInt8 := [127, 69, 76, 70]

def executable (name : String) : Node :=
  .file (executableMark ++ Text.Utf8.encode name.toList) true

def programName? (bytes : List UInt8) : Option (List UInt8) :=
  if executableMark.isPrefixOf bytes then some (bytes.drop executableMark.length) else none

def standardDirs : List String :=
  ["/boot", "/dev", "/dev/pts", "/dev/shm", "/dev/mqueue", "/etc", "/home", "/media", "/mnt", "/opt",
    "/proc", "/root", "/run", "/srv", "/sys", "/tmp", "/usr", "/usr/bin", "/usr/games", "/usr/include",
    "/usr/lib", "/usr/lib64", "/usr/libexec", "/usr/local", "/usr/local/bin", "/usr/local/etc",
    "/usr/local/games", "/usr/local/include", "/usr/local/lib", "/usr/local/sbin", "/usr/local/share",
    "/usr/local/src", "/usr/sbin", "/usr/share", "/usr/src", "/var", "/var/cache", "/var/lib",
    "/var/local", "/var/log", "/var/mail", "/var/opt", "/var/spool", "/var/tmp"]

def standardLinks : List (String × String) :=
  [("/bin", "usr/bin"), ("/lib", "usr/lib"), ("/lib64", "usr/lib64"), ("/sbin", "usr/sbin"),
    ("/var/run", "/run"), ("/var/lock", "/run/lock"), ("/usr/bin/sh", "dash"), ("/usr/bin/awk", "mawk"),
    ("/usr/bin/nawk", "mawk"), ("/usr/bin/which", "which.debianutils"), ("/usr/bin/rbash", "bash"),
    ("/usr/local/man", "share/man")]

def standardDevices : List (String × Device) :=
  [("/dev/null", .null), ("/dev/zero", .zero), ("/dev/full", .full), ("/dev/random", .random),
    ("/dev/urandom", .random), ("/dev/tty", .terminal)]

def standardPrograms : List String :=
  ["[", "arch", "b2sum", "base32", "base64", "basename", "basenc", "bash", "cat", "chcon", "chgrp",
    "chmod", "chown", "cksum", "cmp", "comm", "cp", "csplit", "cut", "dash", "date", "dd", "df", "diff",
    "diff3", "dir", "dircolors", "dirname", "du", "echo", "egrep", "env", "expand", "expr", "factor",
    "false", "fgrep", "find", "flock", "fmt", "fold", "getconf", "getopt", "grep", "groups", "gunzip",
    "gzip", "head", "hostid", "hostname", "iconv", "id", "install", "ionice", "join", "ldd", "link", "ln",
    "locale", "logger", "logname", "ls", "mawk", "mcookie", "md5sum", "mkdir", "mkfifo", "mknod",
    "mktemp", "more", "mount", "mountpoint", "mv", "namei", "nice", "nl", "nohup", "nproc", "numfmt",
    "od", "paste", "pathchk", "perl", "pinky", "pr", "printenv", "printf", "ptx", "pwd", "readlink",
    "realpath", "renice", "rev", "rgrep", "rm", "rmdir", "run-parts", "runcon", "savelog", "script",
    "sdiff", "sed", "seq", "setsid", "sha1sum", "sha224sum", "sha256sum", "sha384sum", "sha512sum",
    "shred", "shuf", "sleep", "sort", "split", "stat", "stdbuf", "stty", "sum", "sync", "tac", "tail",
    "tar", "taskset", "tee", "tempfile", "test", "timeout", "touch", "tput", "tr", "true", "truncate",
    "tsort", "tty", "uname", "unexpand", "uniq", "unlink", "users", "vdir", "wc", "whereis",
    "which.debianutils", "who", "whoami", "xargs", "yes", "zcat"]

def standardNodes : List (Location × Node) :=
  let place := fun path : String => ({} : Files).resolve path
  standardDirs.map (fun path => (place path, .dir)) ++
  standardLinks.map (fun (path, target) => (place path, .link (Text.Utf8.encode target.toList))) ++
  standardDevices.map (fun (path, kind) => (place path, .device kind)) ++
  standardPrograms.map fun name => (place ("/usr/bin/" ++ name), executable name)

def standard : Files := { nodes := standardNodes }

end Retrace.Files
