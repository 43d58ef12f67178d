import RunMeter.Machine.FileTree

/-!
# RunMeter.Machine.FileTree.Layout — the files of a new machine

The programs stand in one directory, to which other directories are links.  The devices and the pipes of a process
have names as well.

* `FileTree.furnished`: the tree with programs of given names.

Nothing that is proved depends on this module.
-/

namespace RunMeter.Machine.FileTree

/-- The names of a path. -/
def parts (path : String) : List Raw :=
  (Raw.splitAt '/' path.toList).filter (!·.isEmpty)

/-- The tree with something under a path. -/
def holding (t : FileTree) (mode : Nat) (path : String) (body : Nat → Body) : FileTree :=
  t.install mode false body root (parts path)

/-- The tree with a directory. -/
def withDirectory (t : FileTree) (mode : Nat) (path : String) : FileTree :=
  t.holding mode path fun above => .directory above []

/-- The tree with a link. -/
def withLink (t : FileTree) (link : String × String) : FileTree :=
  t.holding 0o777 link.1 fun _ => .link link.2.toList

/-- The tree with a file. -/
def withFile (t : FileTree) (file : String × String) : FileTree :=
  t.holding 0o644 file.1 fun _ => .file (Raw.ofText file.2)

/-- The tree with a device. -/
def withDevice (t : FileTree) (device : String × Device) : FileTree :=
  t.holding 0o666 device.1 fun _ => .device device.2

/-- The tree with a program. -/
def withProgram (t : FileTree) (name : String) : FileTree :=
  t.holding 0o755 ("usr/bin/" ++ name) fun _ => .program name

/-- The directories that anyone may search. -/
def directories : List String :=
  ["usr/bin", "usr/games", "usr/include", "usr/lib", "usr/lib64", "usr/local/bin", "usr/local/etc", "usr/local/games",
   "usr/local/include", "usr/local/lib", "usr/local/sbin", "usr/local/share", "usr/local/src", "usr/sbin",
   "usr/share/doc", "usr/share/man", "usr/share/zoneinfo", "usr/src", "boot", "dev/pts", "etc/alternatives",
   "etc/default", "etc/init.d", "home", "media", "mnt", "opt", "proc/self/fd", "run", "srv", "sys", "var/cache",
   "var/lib", "var/log", "var/spool"]

/-- The links, each with what it leads to. -/
def links : List (String × String) :=
  [("bin", "usr/bin"), ("lib", "usr/lib"), ("lib64", "usr/lib64"), ("sbin", "usr/sbin"), ("usr/bin/sh", "dash"),
   ("usr/bin/rbash", "bash"), ("dev/fd", "/proc/self/fd"), ("dev/stdin", "/proc/self/fd/0"),
   ("dev/stdout", "/proc/self/fd/1"), ("dev/stderr", "/proc/self/fd/2"), ("var/run", "/run"), ("var/lock", "/run/lock")]

/-- The devices. -/
def devices : List (String × Device) :=
  [("dev/null", .null), ("dev/zero", .zero), ("dev/full", .full), ("dev/random", .random), ("dev/urandom", .random),
   ("dev/tty", .terminal)]

/-- The files with contents. -/
def files : List (String × String) :=
  [("etc/passwd", "root:x:0:0:root:/root:/bin/bash\n" ++
    "daemon:x:1:1:daemon:/usr/sbin:/usr/sbin/nologin\n" ++
    "nobody:x:65534:65534:nobody:/nonexistent:/usr/sbin/nologin\n"),
   ("etc/group", "root:x:0:\ndaemon:x:1:\nnogroup:x:65534:\n"),
   ("etc/hostname", "localhost\n"),
   ("etc/hosts", "127.0.0.1\tlocalhost\n"),
   ("etc/shells", "# /etc/shells: valid login shells\n/bin/sh\n/usr/bin/sh\n/bin/bash\n/usr/bin/bash\n" ++
    "/bin/rbash\n/usr/bin/rbash\n/bin/dash\n/usr/bin/dash\n"),
   ("etc/debian_version", "12.0\n")]

/-- How many descriptors have names. -/
def namedDescriptors : Nat := 64

/-- The tree of a new machine, with programs of given names. -/
def furnished (programs : List String) : FileTree :=
  let t := directories.foldl (·.withDirectory 0o755) bare
  let t := (t.withDirectory 0o700 "root").withDirectory 0o1777 "tmp"
  let t := (t.withDirectory 0o1777 "var/tmp").withDirectory 0o1777 "dev/shm"
  let t := devices.foldl withDevice (files.foldl withFile (links.foldl withLink t))
  let t := programs.foldl withProgram t
  (List.range namedDescriptors).foldl (fun t fd =>
    t.holding 0o700 ("proc/self/fd/" ++ toString fd) fun _ => .descriptor fd) t

end RunMeter.Machine.FileTree
