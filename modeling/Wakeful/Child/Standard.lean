import Wakeful.Child.Launch
import Wakeful.Shell.Image
import Wakeful.Shell.Program
import Wakeful.Shell.Run

/-! The directories, programs and files that every system has. -/

namespace Wakeful.Standard

/-- The directories, apart from those that others imply. -/
def directories : List String :=
  -- Most of them are empty here.
  ["/boot", "/dev/pts", "/dev/shm", "/etc/alternatives", "/etc/default", "/etc/init.d",
    "/etc/profile.d", "/etc/security", "/etc/skel", "/etc/ssl/certs", "/home", "/media", "/mnt",
    "/opt", "/proc/self/fd", "/proc/sys/kernel", "/root", "/run/lock", "/srv", "/sys/class",
    "/sys/kernel", "/tmp", "/usr/bin", "/usr/games", "/usr/include", "/usr/lib/x86_64-linux-gnu",
    "/usr/lib64", "/usr/libexec", "/usr/local/bin", "/usr/local/etc", "/usr/local/include",
    "/usr/local/lib", "/usr/local/sbin", "/usr/local/share", "/usr/local/src", "/usr/sbin",
    "/usr/share/doc", "/usr/src", "/var/backups", "/var/cache", "/var/lib", "/var/local",
    "/var/log", "/var/mail", "/var/opt", "/var/spool", "/var/tmp"]

/-- The directories in which everybody may leave files. -/
def shared : List String := ["/tmp", "/var/tmp", "/dev/shm", "/run/lock"]

/-- The links with what they lead to. -/
def links : List (String × String) :=
  -- The directories of programs and libraries have short names.
  [("/bin", "usr/bin"), ("/usr/bin/sh", "dash"), ("/sbin", "usr/sbin"), ("/lib", "usr/lib"),
    ("/lib64", "usr/lib64"), ("/dev/fd", "/proc/self/fd"), ("/dev/stdin", "/proc/self/fd/0"),
    ("/dev/stdout", "/proc/self/fd/1"), ("/dev/stderr", "/proc/self/fd/2"),
    ("/proc/self/fd/0", "/dev/null"), ("/proc/self/cwd", "/"), ("/proc/self/root", "/"),
    ("/var/run", "/run"), ("/var/lock", "/run/lock")]

/-- The devices. -/
def devices : List String :=
  -- Nothing is to be read from them.
  ["/dev/null", "/dev/tty", "/dev/zero", "/dev/full", "/dev/random", "/dev/urandom",
    "/proc/self/fd/1", "/proc/self/fd/2"]

/-- The text in the stead of a library for programs that are being made. -/
def libraryText (names : String) : String :=
  -- It is meant for another tool than the loader.
  "/* What programs that use the library are made with. */\nOUTPUT_FORMAT(elf64-x86-64)\nGROUP ( " ++ names ++ " )\n"

/-- The files with their contents. -/
def files : List (String × String) :=
  -- One of them tells a program that it ignores no signals.
  [("/proc/self/status", "SigIgn:\t0000000000000000\n"),
    ("/etc/passwd",
      "root:x:0:0:root:/root:/bin/bash\ndaemon:x:1:1:daemon:/usr/sbin:/usr/sbin/nologin\n"),
    ("/etc/group", "root:x:0:\ndaemon:x:1:\n"), ("/etc/shells", "/bin/sh\n/usr/bin/sh\n"),
    ("/etc/hosts", "127.0.0.1\tlocalhost\n"), ("/etc/hostname", "localhost\n"),
    ("/etc/fstab", "# UNCONFIGURED FSTAB\n"), ("/etc/resolv.conf", "nameserver 127.0.0.1\n"),
    ("/etc/profile", "export PATH\n"), ("/etc/environment", ""), ("/etc/os-release", "ID=linux\n"),
    ("/usr/lib/x86_64-linux-gnu/libc.so", libraryText "/lib/x86_64-linux-gnu/libc.so.6"),
    ("/usr/lib/x86_64-linux-gnu/libm.so", libraryText "/lib/x86_64-linux-gnu/libm.so.6")]

/-- The tree with all of this and nothing else. -/
def tree : FileTree :=
  -- A directory is made before what lies in it.
  let place (path : String) := Place.ofPath (Octets.ofText path)
  let made := directories.foldl (fun tree path => tree.withDirectories (place path)) FileTree.empty
  let nodes := shared.map (fun path => (path, Node.directory 0o1777))
    ++ links.map (fun (path, target) => (path, Node.link (Octets.ofText target)))
    ++ devices.map (fun path => (path, Node.device 0o666))
    ++ files.map (fun (path, text) => (path, Node.file 0o644 (Octets.ofText text)))
    ++ Shell.Program.all.map fun (name, _) =>
      ("/usr/bin/" ++ name, Node.file 0o755 (Shell.Image.ofName name))
  nodes.foldl (fun tree (path, node) => tree.plant (place path) node) made

/-- What comes of the programs that every system has. -/
def executor : Executor :=
  -- Every program is one of them or a script for one of them.
  Shell.execute

end Wakeful.Standard
