/-
# Paths

Of the files of a system only those are known that every system has, and the files that a script
makes.  A path is walked name by name, because each name has to be found in a directory before the
next one matters, and because a link leads elsewhere before the names behind it are read: the
directory above a link is not the one above the place that the link leads to.

A path that does not begin at the root begins at the directory of the process.
-/
import PassContext.Toolchain.Shell.State

namespace PassContext.Shell

/-! ## 1. What every system has -/

/-- The directory that a script begins in.  Nothing is known of it but that it is there. -/
def firstDirectory : String := "/work"

/-- The directories that every system has. -/
def directories : List String :=
  ["/", "/boot", "/dev", "/dev/pts", "/dev/shm", "/etc", "/etc/default", "/etc/init.d", "/home",
   "/media", "/mnt", "/opt", "/proc", "/proc/self", "/proc/self/fd", "/root", "/run", "/srv",
   "/sys", "/tmp", "/usr", "/usr/bin", "/usr/games", "/usr/include", "/usr/lib", "/usr/lib64",
   "/usr/local", "/usr/local/bin", "/usr/local/etc", "/usr/local/games",
   "/usr/local/include", "/usr/local/lib",
   "/usr/local/sbin", "/usr/local/share", "/usr/local/src", "/usr/sbin", "/usr/share", "/usr/src",
   "/var", "/var/backups", "/var/cache", "/var/lib", "/var/local", "/var/log", "/var/mail",
   "/var/opt", "/var/spool", "/var/tmp", firstDirectory]

/-- The links that every system has, with where they lead. -/
def links : List (String × String) :=
  [("/bin", "usr/bin"), ("/lib", "usr/lib"), ("/lib64", "usr/lib64"), ("/sbin", "usr/sbin"),
   ("/dev/fd", "/proc/self/fd"), ("/dev/stderr", "/proc/self/fd/2"),
   ("/dev/stdin", "/proc/self/fd/0"), ("/dev/stdout", "/proc/self/fd/1"),
   ("/var/lock", "/run/lock"), ("/var/run", "/run"), ("/usr/bin/sh", "dash")]

/-- The devices that every system has. -/
def devices : List (String × Device) :=
  [("/dev/full", .full), ("/dev/null", .null), ("/dev/random", .zeros), ("/dev/tty", .terminal),
   ("/dev/urandom", .zeros), ("/dev/zero", .zeros)]

/-- The programs that are known. -/
def programNames : List String :=
  ["[", "basename", "cat", "cut", "dash", "dirname", "echo", "egrep", "env", "expr", "false",
   "fgrep", "grep", "head", "kill", "ls", "printenv", "printf", "pwd", "sed", "seq", "sleep",
   "sort", "tail", "tee", "test", "tr", "true", "uniq", "wc", "xargs", "yes"]

/-- Where programs are looked for, unless a script says otherwise. -/
def programDirectories : String :=
  "/usr/local/sbin:/usr/local/bin:/usr/sbin:/usr/bin:/sbin:/bin"

/-! ## 2. Places -/

/-- Why a path leads nowhere. -/
inductive Trouble
  | missing
  /-- A name is looked for in something that is no directory. -/
  | notDirectory
  | looped
  | nameTooLong
deriving DecidableEq, Repr

/-- What stands at a path.  What was made, or can be, has a path through no links. -/
inductive Place
  | directory (path : Octets)
  | device (d : Device)
  /-- What a descriptor of the process leads to. -/
  | descriptor (number : Nat)
  | program (name : String)
  | file (path : Octets) (number : Nat)
  /-- A link that has not been followed. -/
  | link (path target : Octets)
  /-- Nothing, in a directory that is there; the path may ask for a directory. -/
  | absent (path : Octets) (asDirectory : Bool)
  | refused (t : Trouble)
deriving DecidableEq, Repr

/-- The path of a name in a directory. -/
def below (directory name : Octets) : Octets :=
  if directory = ['/'] then '/' :: name else directory ++ '/' :: name

/-- The directory that a path is in. -/
def parent (path : Octets) : Octets :=
  match ((path.reverse.dropWhile (· ≠ '/')).drop 1).reverse with
  | [] => ['/']
  | directory => directory

/-- The last name of a path that does not end in a slash. -/
def lastPart (path : Octets) : Octets := (path.reverse.takeWhile (· ≠ '/')).reverse

/-- The descriptor that a path stands for. -/
def descriptorAt? (path : Octets) : Option Nat :=
  let front := "/proc/self/fd/".toList
  if front.isPrefixOf path then
    match natural? 10 (path.drop front.length) with
    | some (n, []) => some n
    | _ => none
  else none

/-- What a system has at a path. -/
def systemPlace? (path : Octets) : Option Place :=
  let isPath (text : String) : Bool := text.toList == path
  if directories.any isPath then some (.directory path)
  else match links.find? fun (from_, _) => isPath from_ with
    | some (_, target) => some (.link path target.toList)
    | none =>
      match devices.find? fun (name, _) => isPath name with
      | some (_, d) => some (.device d)
      | none =>
        match descriptorAt? path with
        | some n => some (.descriptor n)
        | none =>
          if parent path = "/usr/bin".toList then
            (programNames.find? (·.toList == lastPart path)).map .program
          else none

/-- What stands at a path that leads through no links. -/
def placed? (fs : Files) (path : Octets) : Option Place :=
  match fs.paths.lookup path with
  | some n => some (.file path n)
  | none => systemPlace? path

/-- The greatest length of a name in a path. -/
def maxNameLength : Nat := 255

/-- The greatest length of a path. -/
def maxPathLength : Nat := 4095

/-- What stands behind names, from a directory on; the last name is followed if it is that of a
link and links are to be followed.  So many names are read at most, those of links included. -/
def walk (fs : Files) (follow : Bool) : Nat → Octets → List Octets → Place
  | 0, _, _ => .refused .looped
  | _ + 1, here, [] => .directory here
  | bound + 1, here, name :: rest =>
    if name = [] ∨ name = ['.'] then walk fs follow bound here rest
    else if name = ['.', '.'] then walk fs follow bound (parent here) rest
    else if maxNameLength < name.length then .refused .nameTooLong
    else match placed? fs (below here name) with
      | none =>
        if rest.all List.isEmpty then .absent (below here name) (!rest.isEmpty)
        else .refused .missing
      | some (.directory path) => walk fs follow bound path rest
      | some (.link path target) =>
        if rest = [] ∧ !follow then .link path target
        else
          let start := if target.head? = some '/' then ['/'] else here
          walk fs follow bound start (target.splitOn '/' ++ rest)
      | some p => if rest = [] then p else .refused .notDirectory

/-- How many names are read at most. -/
def maxNames : Nat := 10000

/-- What stands at a path, seen from a directory. -/
def placeOf (fs : Files) (follow : Bool) (directory path : Octets) : Place :=
  if path = [] then .refused .missing
  else if maxPathLength < path.length then .refused .nameTooLong
  else
    let start := if path.head? = some '/' then [] else directory.splitOn '/'
    walk fs follow maxNames ['/'] (start ++ path.splitOn '/')

/-- What stands at a path, seen from the directory of the process. -/
def place (path : Octets) : Act Place := do
  let s ← get
  return placeOf s.files true s.process.directory path

/-- What stands at a path, where a link at its end is not followed. -/
def placeItself (path : Octets) : Act Place := do
  let s ← get
  return placeOf s.files false s.process.directory path

/-- Whether something stands at a place. -/
def Place.isThere : Place → Bool
  | .absent _ _ | .refused _ => false
  | _ => true

def Place.isDirectory : Place → Bool
  | .directory _ => true
  | _ => false

/-! ## 3. Directories -/

/-- The names in a directory of which it is known that they are there, in order and each of them
once. -/
def namesIn (fs : Files) (directory : Octets) : List Octets :=
  let system := directories.map String.toList ++ links.map (·.1.toList) ++
    devices.map (·.1.toList) ++ programNames.map fun name => "/usr/bin/".toList ++ name.toList
  let inside := (fs.paths.map (·.1) ++ system).filter fun path =>
    path ≠ ['/'] && parent path == directory
  ((inside.map lastPart).mergeSort precedes).eraseReps

/-! ## 4. Rights -/

/-- Whether somebody may run what stands at a place.  Nobody may run what a script has made. -/
def Place.isRunnable : Place → Bool
  | .directory _ | .program _ | .link _ _ => true
  | _ => false

/-- Whether what stands in a directory is for its owner alone to take away, though everybody may
write there. -/
def Place.isSticky : Place → Bool
  | .directory path => path = "/tmp".toList ∨ path = "/var/tmp".toList
  | _ => false

/-! ## 5. Files at paths -/

/-- What is said of a path that leads nowhere. -/
def Trouble.shown : Trouble → String
  | .missing => "No such file or directory"
  | .notDirectory => "Not a directory"
  | .looped => "Too many levels of symbolic links"
  | .nameTooLong => "File name too long"

/-- Why nothing can be read at a place, if nothing can. -/
def Place.refusal? : Place → Option String
  | .directory _ => some "Is a directory"
  | .absent _ _ => some Trouble.missing.shown
  | .refused t => some t.shown
  | .device .terminal => some "No such device or address"
  | _ => none

/-- What a file holds. -/
def contentOf (number : Nat) : Act Octets := do
  return ((← get).files.contents[number]?.getD #[]).toList

/-- What can be read at a place. -/
def readPlace (p : Place) : Act Octets := do
  match p with
  | .file _ n => contentOf n
  | .descriptor n => return (← read? n false).getD []
  | .device .zeros | .device .full => return List.replicate endlessCount '\x00'
  | _ => return []

/-- Opens the file at a place for writing, if there can be one: the handle, or what stands in the
way. -/
def openPlace (p : Place) (truncates appends : Bool) : Act (Except Place Handle) := do
  let s ← get
  match p with
  | .file _ n =>
    let (h, files) := s.files.openFile n appends
    let contents := if truncates then files.contents.set! n #[] else files.contents
    set { s with files := { files with contents } }
    return .ok h
  | .absent path false =>
    let (n, files) := s.files.addFile []
    let (h, files) := files.openFile n appends
    set { s with files := { files with paths := (path, n) :: files.paths } }
    return .ok h
  | .device .terminal => return .error p
  | .device d => return .ok (.device d)
  | .descriptor n =>
    match ← handle? n with
    | some h => return .ok h
    | none => return .error (.refused .missing)
  | p => return .error p

/-- Opens the file at a path for writing, from its start or at its end. -/
def openFile (path : Octets) (appends : Bool) : Act (Except Place Handle) := do
  openPlace (← place path) (!appends) appends

end PassContext.Shell
