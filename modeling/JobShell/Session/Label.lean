import JobShell.System.Machine

/-!
# Labels in transcripts

The transcript of a session must not depend on where the session ran and which pids the
system gave. So the working directory of the session is written `<DIR>` in it, the pid of
the shell `<PID>`, and the pid of the n-th background child `<BGn>`.
-/

namespace JobShell

namespace Label

/-- Puts `label` in the place of every `pattern`, from left to right; the first `skip`
characters belong to a pattern that was replaced already. -/
def replaceChars (pattern label : List Char) : Nat → List Char → List Char
  | _, [] => []
  | skip + 1, _ :: cs => replaceChars pattern label skip cs
  | 0, c :: cs =>
    if pattern.isPrefixOf (c :: cs) then
      label ++ replaceChars pattern label (pattern.length - 1) cs
    else c :: replaceChars pattern label 0 cs

/-- Puts `label` in the place of every `pattern`. -/
def replace (pattern label text : String) : String :=
  if pattern.isEmpty then text
  else String.ofList (replaceChars pattern.toList label.toList 0 text.toList)

def sessionDirectory : Path := ["tmp", "job-shell-session"]

/-- The text with the label of the directory. -/
def directory (text : String) : String :=
  replace (Path.text sessionDirectory) "<DIR>" text

/-- The forms in which the pid of a background child is shown: what stands before it and
after it. -/
def pidForms : List (String × String) :=
  [("background pid is ", "\n"), ("background pid ", " is done"), ("Pid(", ")")]

def child? (pids : List Pid) (digits : List Char) : Option (List Char) :=
  (pids.findIdx? fun pid => (toString pid).toList == digits).map fun n =>
    ("<BG" ++ toString (n + 1) ++ ">").toList

/-- If the pid of a background child stands in front in one of these forms: what is to be
written, and the number of characters in whose place it is written. -/
def childInFront? (pids : List Pid) (cs : List Char) :
    List (String × String) → Option (List Char × Nat)
  | [] => none
  | (before, after) :: forms =>
    let digits := (cs.drop before.length).takeWhile Char.isDigit
    let length := before.length + digits.length
    if before.toList.isPrefixOf cs && after.toList.isPrefixOf (cs.drop length) then
      match child? pids digits with
      | some label => some (before.toList ++ label, length)
      | none => childInFront? pids cs forms
    else childInFront? pids cs forms

/-- Labels background children from left to right; the first `skip` characters have been
labelled already. -/
def childrenChars (pids : List Pid) : Nat → List Char → List Char
  | _, [] => []
  | skip + 1, _ :: cs => childrenChars pids skip cs
  | 0, c :: cs =>
    match childInFront? pids (c :: cs) pidForms with
    | some (label, length) => label ++ childrenChars pids (length - 1) cs
    | none => c :: childrenChars pids 0 cs

/-- The text with the labels of background children, which are numbered from 1 on. -/
def children (pids : List Pid) (text : String) : String :=
  String.ofList (childrenChars pids 0 text.toList)

def all (m : Machine) (text : String) : String :=
  let text := children m.launched (directory text)
  replace ("pid: " ++ toString m.shellPid ++ "\t") "pid: <PID>\t" text

/-- The text of bytes that came out of the session, with its labels. -/
def shown (m : Machine) (bytes : Bytes) : String :=
  all m (Text.decodeLossy bytes)

end Label

end JobShell
