import MessageBus.Text.Utf8

namespace MessageBus

/-- What a host's file tree holds: its directories and other files, by absolute path without a
final `/`; the root is the empty path, and `.` the working directory. -/
structure Host where
  directories : List String
  files : List String

namespace Host

/-- A plain Linux host: the usual top-level directories, and a few system files. -/
def plain : Host where
  directories := ["", ".", "/tmp", "/etc", "/dev", "/dev/shm", "/proc", "/sys", "/usr", "/usr/bin",
    "/usr/lib", "/usr/local", "/usr/share", "/var", "/var/run", "/var/tmp", "/var/lib", "/var/log",
    "/root", "/home", "/run", "/bin", "/lib", "/sbin", "/opt", "/mnt", "/srv", "/media"]
  files := ["/etc/passwd", "/etc/group", "/etc/hosts", "/etc/hostname", "/etc/resolv.conf",
    "/dev/null", "/dev/zero", "/dev/random", "/dev/urandom"]

/-- The system's words for a missing entry. -/
def missing : String := "[Errno 2] No such file or directory"

/-- The system's words for a connection nobody accepts. -/
def refused : String := "[Errno 111] Connection refused"

/-- The directory above one. -/
def parent (dir : String) : String := String.intercalate "/" (dir.splitOn "/").dropLast

/-- Go from directory `dir` to its entry `c`, or say why there is no such directory to go
from. -/
def descend (h : Host) (dir : String) (c : String) : Except String String :=
  if !h.directories.contains dir then
    .error (if h.files.contains dir then "[Errno 20] Not a directory" else missing)
  else if c == "" || c == "." then .ok dir
  else if c == ".." then .ok (parent dir)
  else .ok (dir ++ "/" ++ c)

/-- Why connecting to a socket at a path fails. -/
def pathError (h : Host) (path : String) : String :=
  let absolute := path.startsWith "/"
  let parts := path.splitOn "/"
  match (if absolute then parts.drop 1 else parts).foldlM h.descend
      (if absolute then "" else ".") with
  | .error why => why
  | .ok last => if h.directories.contains last || h.files.contains last then refused else missing

/-- Why dialling the unix socket at `target` fails on the host. -/
def dialError (h : Host) (target : Text) : String :=
  match Utf8.encode target with
  | .error e => e.message
  | .ok octets =>
    let abstract := target.codes.head? == some 0
    if octets.length > (if abstract then 108 else 107) then "AF_UNIX path too long"
    else if abstract then refused
    else h.pathError (String.ofList (target.toString.toList.takeWhile (· != Char.ofNat 0)))

/-- Dial the unix socket at `target`: on this host it always fails. -/
def dial (h : Host) (target : Text) : Except String Unit := .error (h.dialError target)

end Host

end MessageBus
