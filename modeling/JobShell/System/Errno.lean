/-!
# Errors of the system

The causes for which the system refuses a request, each with its number and its texts. The
library of the system and the shell's own table word some of them differently: `text` is what
programs and failed operations on files show, `description` what the shell shows of the
requests that it makes itself.
-/

namespace JobShell

/-- Why the system refused a request. -/
inductive Errno where
  | notPermitted
  | noEntry
  | noProcess
  | interrupted
  | badDescriptor
  | noChild
  | tryAgain
  | noMemory
  | accessDenied
  | notDirectory
  | isDirectory
  | invalidArgument
  | tooManyFiles
  | textBusy
  | noSpace
  | readOnly
  | nameTooLong
  | notEmpty
  | tooManyLinks
deriving DecidableEq, Repr

namespace Errno

def number : Errno → Nat
  | notPermitted => 1
  | noEntry => 2
  | noProcess => 3
  | interrupted => 4
  | badDescriptor => 9
  | noChild => 10
  | tryAgain => 11
  | noMemory => 12
  | accessDenied => 13
  | notDirectory => 20
  | isDirectory => 21
  | invalidArgument => 22
  | tooManyFiles => 24
  | textBusy => 26
  | noSpace => 28
  | readOnly => 30
  | nameTooLong => 36
  | notEmpty => 39
  | tooManyLinks => 40

def text : Errno → String
  | notPermitted => "Operation not permitted"
  | noEntry => "No such file or directory"
  | noProcess => "No such process"
  | interrupted => "Interrupted system call"
  | badDescriptor => "Bad file descriptor"
  | noChild => "No child processes"
  | tryAgain => "Resource temporarily unavailable"
  | noMemory => "Cannot allocate memory"
  | accessDenied => "Permission denied"
  | notDirectory => "Not a directory"
  | isDirectory => "Is a directory"
  | invalidArgument => "Invalid argument"
  | tooManyFiles => "Too many open files"
  | textBusy => "Text file busy"
  | noSpace => "No space left on device"
  | readOnly => "Read-only file system"
  | nameTooLong => "File name too long"
  | notEmpty => "Directory not empty"
  | tooManyLinks => "Too many levels of symbolic links"

/-- The text in the shell's own table. -/
def description : Errno → String
  | badDescriptor => "Bad file number"
  | tryAgain => "Try again"
  | noMemory => "Out of memory"
  | tooManyLinks => "Too many symbolic links encountered"
  | e => e.text

/-- The name of the error in the system's own notes. -/
def name : Errno → String
  | notPermitted => "EPERM"
  | noEntry => "ENOENT"
  | noProcess => "ESRCH"
  | interrupted => "EINTR"
  | badDescriptor => "EBADF"
  | noChild => "ECHILD"
  | tryAgain => "EAGAIN"
  | noMemory => "ENOMEM"
  | accessDenied => "EACCES"
  | notDirectory => "ENOTDIR"
  | isDirectory => "EISDIR"
  | invalidArgument => "EINVAL"
  | tooManyFiles => "EMFILE"
  | textBusy => "ETXTBSY"
  | noSpace => "ENOSPC"
  | readOnly => "EROFS"
  | nameTooLong => "ENAMETOOLONG"
  | notEmpty => "ENOTEMPTY"
  | tooManyLinks => "ELOOP"

/-- The text with the number, as the shell shows the causes of its own failures. -/
def message (e : Errno) : String :=
  e.text ++ " (os error " ++ toString e.number ++ ")"

end Errno

end JobShell
