/-!
# What the operating system refuses

The causes a file or process operation can fail with, and their wording. A cause
of the system itself has a number, which is told with its text.
-/

namespace Retrace

inductive OsError where
  | notPermitted
  | notFound
  | noProcess
  | interrupted
  | inputOutput
  | noDevice
  | argumentsTooLong
  | badExecutable
  | badDescriptor
  | noChild
  | denied
  | busy
  | alreadyThere
  | otherDevice
  | notDirectory
  | isDirectory
  | invalid
  | tooManyFiles
  | inUse
  | tooLarge
  | full
  | noSeek
  | tooManyLinks
  | brokenPipe
  /-- A path or one of its names is longer than a path or name may be. -/
  | nameTooLong
  | notEmpty
  /-- Links lead to links without an end. -/
  | linkLoop
  /-- A file name holds a NUL. -/
  | nulInName
  /-- A process argument holds a NUL. -/
  | nulInArgument
  /-- A file read as text is not UTF-8. -/
  | notText
  /-- No unused name was found for a temporary file. -/
  | namesExhausted
  /-- A refusal in the words of whoever refused. -/
  | other (text : String)
  deriving DecidableEq, Repr

namespace OsError

def text : OsError → String
  | .notPermitted => "Operation not permitted"
  | .notFound => "No such file or directory"
  | .noProcess => "No such process"
  | .interrupted => "Interrupted system call"
  | .inputOutput => "Input/output error"
  | .noDevice => "No such device or address"
  | .argumentsTooLong => "Argument list too long"
  | .badExecutable => "Exec format error"
  | .badDescriptor => "Bad file descriptor"
  | .noChild => "No child processes"
  | .denied => "Permission denied"
  | .busy => "Device or resource busy"
  | .alreadyThere => "File exists"
  | .otherDevice => "Invalid cross-device link"
  | .notDirectory => "Not a directory"
  | .isDirectory => "Is a directory"
  | .invalid => "Invalid argument"
  | .tooManyFiles => "Too many open files"
  | .inUse => "Text file busy"
  | .tooLarge => "File too large"
  | .full => "No space left on device"
  | .noSeek => "Illegal seek"
  | .tooManyLinks => "Too many links"
  | .brokenPipe => "Broken pipe"
  | .nameTooLong => "File name too long"
  | .notEmpty => "Directory not empty"
  | .linkLoop => "Too many levels of symbolic links"
  | .nulInName => "file name contained an unexpected NUL byte"
  | .nulInArgument => "nul byte found in provided data"
  | .notText => "stream did not contain valid UTF-8"
  | .namesExhausted => "too many temporary files exist"
  | .other text => text

def number? : OsError → Option Nat
  | .notPermitted => some 1
  | .notFound => some 2
  | .noProcess => some 3
  | .interrupted => some 4
  | .inputOutput => some 5
  | .noDevice => some 6
  | .argumentsTooLong => some 7
  | .badExecutable => some 8
  | .badDescriptor => some 9
  | .noChild => some 10
  | .denied => some 13
  | .busy => some 16
  | .alreadyThere => some 17
  | .otherDevice => some 18
  | .notDirectory => some 20
  | .isDirectory => some 21
  | .invalid => some 22
  | .tooManyFiles => some 24
  | .inUse => some 26
  | .tooLarge => some 27
  | .full => some 28
  | .noSeek => some 29
  | .tooManyLinks => some 31
  | .brokenPipe => some 32
  | .nameTooLong => some 36
  | .notEmpty => some 39
  | .linkLoop => some 40
  | _ => none

def message (cause : OsError) : String :=
  match cause.number? with
  | some number => cause.text ++ " (os error " ++ toString number ++ ")"
  | none => cause.text

end OsError
end Retrace
