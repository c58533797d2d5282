import JobShell.System.Errno
import JobShell.Text.Utf8

/-!
# Files and directories

A tree of directories, regular files, links, devices and installed programs, given by
the absolute path of each, with the uses of them that the system refuses (`Access`).
`FileSystem.resolve` follows the text of a path and the links on its way; opening, executing
and entering are built on it and fail with the error that the system would give.

Files that are written here are never executable, as their permissions are `rw-r--r--`.
Programs belong to the system, and nobody writes to them.
-/

namespace JobShell

/-- An absolute path: the names from the root down. -/
abbrev Path := List String

/-- What a path leads to. -/
inductive Node where
  | directory
  | file (content : Bytes)
  /-- A device that keeps nothing of what is written to it; a full one refuses it. -/
  | device (full : Bool)
  | program (utility : String)
  /-- A link to what this text leads to from the directory of the link. -/
  | link (target : String)
deriving DecidableEq, Repr

/-- A way of using a node. -/
inductive Access where
  | read
  | write
  /-- To execute a program, or to pass through a directory. -/
  | execute
deriving DecidableEq, Repr

/-- Where following a path has led to. A directory that has been removed since somebody
entered it is still a place: nothing is in it, but the way up is open. -/
structure Place where
  path : Path
  removed : Bool
deriving DecidableEq, Repr

structure FileSystem where
  entries : List (Path × Node) := []
  /-- The uses of nodes that are refused, for want of a permission or for another reason. -/
  refusals : List ((Path × Access) × Errno) := []
deriving DecidableEq, Repr

namespace Path

/-- The parts of a text between its slashes. -/
def split : List Char → List (List Char)
  | [] => [[]]
  | '/' :: cs => [] :: split cs
  | c :: cs =>
    match split cs with
    | [] => [[c]]
    | part :: rest => (c :: part) :: rest

/-- The names between the slashes of a text. -/
def names (s : String) : List String :=
  (split s.toList).map String.ofList

def text : Path → String
  | [] => "/"
  | names => (names.map ("/" ++ ·)).foldr (· ++ ·) ""

/-- Whether a text gives a path from the root. -/
def isAbsolute (s : String) : Bool :=
  s.toList.head? == some '/'

/-- The text of a path that is taken from a directory, unless it starts at the root. -/
def join (directory : Path) (s : String) : String :=
  if isAbsolute s then s
  else if directory.isEmpty then "/" ++ s
  else text directory ++ "/" ++ s

/-- The path that a text leads to from a directory if all directories on the way exist. -/
def ofText (directory : Path) (s : String) : Path :=
  (names (join directory s)).foldl
    (fun path name =>
      if name = "" ∨ name = "." then path
      else if name = ".." then path.dropLast
      else path ++ [name]) []

/-- The longest name in a directory, in bytes. -/
def maxNameLength : Nat := 255

/-- The length from which on the text of a path is refused, in bytes. -/
def maxTextLength : Nat := 4096

/-- The largest number of links that are followed on the way to one place. -/
def maxLinks : Nat := 40

end Path

namespace FileSystem

/-- What a path leads to, if it exists. -/
def node? (fs : FileSystem) (path : Path) : Option Node :=
  (fs.entries.find? fun e => e.1 == path).map Prod.snd

def isDirectory (fs : FileSystem) (path : Path) : Bool :=
  fs.node? path == some .directory

/-- Puts a node at a path, in the place of what was there. -/
def put (fs : FileSystem) (path : Path) (node : Node) : FileSystem :=
  { fs with entries :=
      if (fs.node? path).isSome then
        fs.entries.map fun e => if e.1 == path then (path, node) else e
      else fs.entries ++ [(path, node)] }

/-- Takes a node away, and with it what was refused of it. -/
def remove (fs : FileSystem) (path : Path) : FileSystem where
  entries := fs.entries.filter fun e => e.1 != path
  refusals := fs.refusals.filter fun r => r.1.1 != path

/-- The names right below a directory. -/
def children (fs : FileSystem) (path : Path) : List String :=
  fs.entries.filterMap fun e =>
    if !e.1.isEmpty && e.1.dropLast == path then e.1.getLast? else none

def content (fs : FileSystem) (path : Path) : Bytes :=
  match fs.node? path with
  | some (.file bytes) => bytes
  | _ => []

/-- Writes into a file from a position on, which may lie behind its end; other nodes take
nothing. -/
def writeAt (fs : FileSystem) (path : Path) (position : Nat) (bytes : Bytes) : FileSystem :=
  match fs.node? path, bytes with
  | some (.file before), _ :: _ =>
    fs.put path (.file (before.take position ++ List.replicate (position - before.length) 0 ++
      bytes ++ before.drop (position + bytes.length)))
  | _, _ => fs

/-- Whether what is at a path may be used in this way, or why not. -/
def permit (fs : FileSystem) (path : Path) (access : Access) : Except Errno Unit :=
  match fs.refusals.find? fun r => r.1 == (path, access) with
  | some (_, e) => .error e
  | none => .ok ()

/-- A directory by its path, which is a removed one if no directory is there any more. -/
def directoryAt (fs : FileSystem) (path : Path) : Place :=
  ⟨path, !fs.isDirectory path⟩

def nodeAt? (fs : FileSystem) (place : Place) : Option Node :=
  if place.removed then some .directory else fs.node? place.path

/-- One step of following a path, through a directory that may be passed. The last step of all
may lead to nothing. -/
def enter (fs : FileSystem) (place : Place) (name : String) : Except Errno Place :=
  match fs.nodeAt? place with
  | none => .error .noEntry
  | some .directory =>
    if name = "" then .ok place
    else
      match fs.permit place.path .execute with
      | .error e => .error e
      | .ok () =>
        if name = "." then .ok place
        else if name = ".." then .ok (fs.directoryAt place.path.dropLast)
        else if place.removed then .error .noEntry
        else if Path.maxNameLength < name.utf8ByteSize then .error .nameTooLong
        else .ok ⟨place.path ++ [name], false⟩
  | some _ => .error .notDirectory

/-- Where following names has come to. -/
inductive Walked where
  | arrived (place : Place)
  /-- A link in this directory is to be followed before these names. -/
  | atLink (directory : Place) (target : String) (rest : List String)

/-- Follows names from a place up to the first link that is to be followed; at the last name
one is only if `followLast` says so. -/
def walk (fs : FileSystem) (followLast : Bool) : Place → List String → Except Errno Walked
  | place, [] => .ok (.arrived place)
  | place, name :: rest =>
    match fs.enter place name with
    | .error e => .error e
    | .ok next =>
      match fs.nodeAt? next with
      | some (.link target) =>
        if rest.isEmpty && !followLast then .ok (.arrived next)
        else .ok (.atLink place target rest)
      | _ => fs.walk followLast next rest

/-- Where the text of a path starts that is met in a directory. -/
def origin (fs : FileSystem) (directory : Place) (text : String) : Place :=
  if Path.isAbsolute text then fs.directoryAt [] else directory

/-- Follows names from a place, and so many links on the way. -/
def follow (fs : FileSystem) (followLast : Bool) :
    Nat → Place → List String → Except Errno Place
  | links, place, names =>
    match fs.walk followLast place names, links with
    | .error e, _ => .error e
    | .ok (.arrived place), _ => .ok place
    | .ok (.atLink _ _ _), 0 => .error .tooManyLinks
    | .ok (.atLink directory target rest), links + 1 =>
      if target = "" then .error .noEntry
      else
        fs.follow followLast links (fs.origin directory target) (Path.names target ++ rest)

/-- Follows the text of a path. Everything up to the last name has to exist; a link there is
followed if `followLast` says so, and in any case if a slash stands behind it. -/
def resolveUpTo (fs : FileSystem) (followLast : Bool) (directory : Path) (text : String) :
    Except Errno Place :=
  if text = "" then .error .noEntry
  else if Path.maxTextLength ≤ text.utf8ByteSize then .error .nameTooLong
  else
    fs.follow followLast Path.maxLinks (fs.origin (fs.directoryAt directory) text)
      (Path.names text)

/-- Follows the text of a path, and all links on its way. -/
def resolve (fs : FileSystem) (directory : Path) (text : String) : Except Errno Place :=
  fs.resolveUpTo true directory text

/-- The node that following a path has led to. -/
def found (fs : FileSystem) (place : Place) : Except Errno (Path × Node) :=
  match fs.nodeAt? place with
  | none => .error .noEntry
  | some node => .ok (place.path, node)

/-- The path and node that a text leads to. -/
def find (fs : FileSystem) (directory : Path) (text : String) : Except Errno (Path × Node) := do
  fs.found (← fs.resolve directory text)

/-- The path and node that a text names, which may be a link. -/
def findLink (fs : FileSystem) (directory : Path) (text : String) :
    Except Errno (Path × Node) := do
  fs.found (← fs.resolveUpTo false directory text)

/-- Opens for reading. A directory can be opened, though not read. -/
def openRead (fs : FileSystem) (directory : Path) (text : String) :
    Except Errno (Path × Node) := do
  let (path, node) ← fs.find directory text
  fs.permit path .read
  return (path, node)

/-- The text without the slashes at its end. -/
def withoutEndSlashes (text : String) : String :=
  String.ofList (text.toList.reverse.dropWhile (· == '/')).reverse

/-- The path of a file that is to be written and may not exist yet. -/
def resolveWritable (fs : FileSystem) (directory : Path) (text : String) :
    Except Errno Place :=
  let bare := withoutEndSlashes text
  if bare = text then fs.resolve directory text
  else if bare = "" then .error .isDirectory
  else
    match fs.resolveUpTo false directory bare with
    | .error e => .error e
    | .ok _ => .error .isDirectory

/-- Opens a place for writing: what may be written to is emptied if `emptied` says so, and
where nothing is a file is created, in a directory that may be written to. -/
def openPlace (fs : FileSystem) (emptied : Bool) (place : Place) :
    Except Errno (Path × FileSystem) :=
  match fs.nodeAt? place with
  | none => do
    fs.permit place.path.dropLast .write
    return (place.path, fs.put place.path (.file []))
  | some (.file _) => do
    fs.permit place.path .write
    return (place.path, if emptied then fs.put place.path (.file []) else fs)
  | some (.device _) => do
    fs.permit place.path .write
    return (place.path, fs)
  | some .directory => .error .isDirectory
  | some (.program _) => .error .accessDenied
  -- a link that has been followed is no place where a path ends
  | some (.link _) => .error .tooManyLinks

/-- Opens for writing: a file is created or emptied. -/
def openWrite (fs : FileSystem) (directory : Path) (text : String) :
    Except Errno (Path × FileSystem) := do
  fs.openPlace true (← fs.resolveWritable directory text)

/-- Opens for writing at the end: a file is created if there is none. -/
def openAppend (fs : FileSystem) (directory : Path) (text : String) :
    Except Errno (Path × FileSystem) := do
  fs.openPlace false (← fs.resolveWritable directory text)

def enterDirectory (fs : FileSystem) (directory : Path) (text : String) :
    Except Errno Path := do
  match ← fs.find directory text with
  | (path, .directory) =>
    fs.permit path .execute
    return path
  | _ => .error .notDirectory

/-- The program that a text with a slash leads to. -/
def executable (fs : FileSystem) (directory : Path) (text : String) : Except Errno String := do
  match ← fs.find directory text with
  | (path, .program utility) =>
    fs.permit path .execute
    return utility
  | _ => .error .accessDenied

/-- The text that names a program in a directory; one without a name is the current one. -/
def candidate (place name : String) : String :=
  if place = "" then name else place ++ "/" ++ name

/-- Looks for a program in directories, the first one first, up to one where it may be executed.
Places where it is not or may not be executed are passed over, and any other error ends the
search. `reason` is why it has not been found so far; a place where it may not be executed
stays the reason. -/
def search (fs : FileSystem) (directory : Path) (name : String) (reason : Errno) :
    List String → Except Errno String
  | [] => .error reason
  | place :: rest =>
    match fs.executable directory (candidate place name) with
    | .ok utility => .ok utility
    | .error e =>
      if e = .accessDenied then fs.search directory name .accessDenied rest
      else if e = .noEntry ∨ e = .notDirectory then
        fs.search directory name (if reason = .accessDenied then reason else e) rest
      else .error e

/-- The program that a name stands for: a name with a slash is a path, any other is looked
for in the directories of programs. -/
def findProgram (fs : FileSystem) (directory : Path) (places : List String)
    (name : String) : Except Errno String :=
  if name = "" then .error .noEntry
  else if name.toList.contains '/' then fs.executable directory name
  else if Path.maxNameLength < name.utf8ByteSize then .error .nameTooLong
  else fs.search directory name .noEntry places

end FileSystem

end JobShell
