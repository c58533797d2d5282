import JobShell.Session.Label
import JobShell.Userland.Basic

/-!
# Setting a session up

A session starts in a new directory of its own with the given directories and files, on a
plain system, with standard input at its end.
-/

namespace JobShell

/-- What a session starts with. Names are taken from its directory. -/
structure SessionSetup where
  directories : List String := []
  files : List (String × Bytes) := []
  home : Option String := none

namespace SessionSetup

def path (name : String) : Path :=
  Path.ofText Label.sessionDirectory name

/-- The files with a directory and all directories above it. -/
def addDirectory (fs : FileSystem) (path : Path) : FileSystem :=
  (List.range (path.length + 1)).foldl
    (fun fs n =>
      if fs.isDirectory (path.take n) then fs else fs.put (path.take n) .directory) fs

def startFiles (s : SessionSetup) : FileSystem :=
  let fs := addDirectory Userland.systemFiles Label.sessionDirectory
  let fs := s.directories.foldl (fun fs name => addDirectory fs (path name)) fs
  s.files.foldl
    (fun fs file =>
      (addDirectory fs (path file.1).dropLast).put (path file.1) (.file file.2)) fs

def shellPid : Pid := 3514820

def machine (s : SessionSetup) : Machine where
  files := s.startFiles
  directory := Label.sessionDirectory
  home := Path.text Label.sessionDirectory ++ (s.home.map ("/" ++ ·)).getD ""
  places := Userland.places
  shellPid := shellPid
  lastPid := shellPid

def fileText (m : Machine) (name : String) : Option String :=
  match m.files.node? (path name) with
  | some (.file content) => some (Text.decodeLossy content)
  | _ => none

end SessionSetup

end JobShell
