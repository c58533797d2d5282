import JobShell.Userland.Script.Interpreter

/-!
# The installed programs

The programs of a plain system, where they are installed, and `Userland.host`, the host on
which they run. Scripts that start scripts are followed to a fixed depth.
-/

namespace JobShell

namespace Userland

def installed : List String :=
  ["true", "false", "echo", "cat", "sort", "pwd", "sleep", "rmdir", "stat", "readlink", "sh"]

/-- The deepest nesting of scripts. -/
def maxDepth : Nat := 16

/-- The end of a utility: it complains about output that could not be written. -/
def closeOutput (p : Process) (code : Nat) : Process × Nat :=
  match p.refused with
  | none => (p, code)
  | some e =>
    let p := { p with refused := none }
    if p.execution.utility = "sort" then
      (complain (complain p ("fflush failed: 'standard output': " ++ e.text)) "write error", 2)
    else (complain p ("write error: " ++ e.text), 1)

/-- Runs an installed program, and scripts within it to the given depth. -/
def runProgram : Nat → Program
  | depth, p, rest =>
    match utility? p.execution.utility with
    | some utility =>
      let (p, code) := utility p
      let (p, code) := closeOutput p code
      rest p (Termination.exitStatus code)
    | none =>
      if p.execution.utility = "sleep" then sleep p rest
      else
        match depth with
        | 0 => rest (p.warn "sh: too deep") (Termination.exitStatus 2)
        | depth + 1 => Script.interpreter (runProgram depth) p rest

def host : Host where
  run e s := runProgram maxDepth (Process.start e s) fun p status => .ended p.effect status

def places : List String :=
  ["/usr/local/sbin", "/usr/local/bin", "/usr/sbin", "/usr/bin", "/sbin", "/bin"]

def systemDirectories : List Path :=
  [[], ["bin"], ["boot"], ["dev"], ["etc"], ["home"], ["lib"], ["media"], ["mnt"], ["opt"],
   ["proc"], ["root"], ["run"], ["sbin"], ["srv"], ["sys"], ["tmp"], ["usr"], ["usr", "bin"],
   ["usr", "lib"], ["usr", "local"], ["usr", "local", "bin"], ["usr", "local", "sbin"],
   ["usr", "sbin"], ["usr", "share"], ["var"], ["var", "tmp"]]

/-- The devices of a plain system that keep nothing. -/
def devices : List (Path × Node) :=
  [(["dev", "null"], .device false), (["dev", "zero"], .device false),
    (["dev", "full"], .device true)]

/-- The files of a plain system: its directories, devices and programs. -/
def systemFiles : FileSystem where
  entries := systemDirectories.map (·, Node.directory) ++ devices ++
    installed.flatMap fun name =>
      [(["usr", "bin", name], .program name), (["bin", name], .program name)]

end Userland

end JobShell
