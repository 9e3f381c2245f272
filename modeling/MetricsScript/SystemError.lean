/-!
# Errors of the operating system

An error is a kind, which programs tell apart, and a message, which people read.
-/

namespace MetricsScript

/-- The kinds of error that an operation on files, streams or processes can end in. -/
inductive ErrorKind where
  | addressInUse
  | addressNotAvailable
  | alreadyExists
  | argumentListTooLong
  | brokenPipe
  | connectionAborted
  | connectionRefused
  | connectionReset
  | crossesDevices
  | deadlock
  | directoryNotEmpty
  | executableFileBusy
  | fileTooLarge
  | filesystemLoop
  | hostUnreachable
  | inProgress
  | interrupted
  | invalidData
  | invalidFilename
  | invalidInput
  | isADirectory
  | networkDown
  | networkUnreachable
  | notADirectory
  | notConnected
  | notFound
  | notSeekable
  | other
  | outOfMemory
  | permissionDenied
  | quotaExceeded
  | readOnlyFilesystem
  | resourceBusy
  | staleNetworkFileHandle
  | storageFull
  | timedOut
  | tooManyLinks
  | uncategorized
  | unexpectedEnd
  | unsupported
  | wouldBlock
  | writeZero
deriving DecidableEq, Repr, Inhabited

/-- The message of an error of which nothing but the kind is known. -/
def ErrorKind.description : ErrorKind → String
  | .addressInUse => "address in use"
  | .addressNotAvailable => "address not available"
  | .alreadyExists => "entity already exists"
  | .argumentListTooLong => "argument list too long"
  | .brokenPipe => "broken pipe"
  | .connectionAborted => "connection aborted"
  | .connectionRefused => "connection refused"
  | .connectionReset => "connection reset"
  | .crossesDevices => "cross-device link or rename"
  | .deadlock => "deadlock"
  | .directoryNotEmpty => "directory not empty"
  | .executableFileBusy => "executable file busy"
  | .fileTooLarge => "file too large"
  | .filesystemLoop => "filesystem loop or indirection limit (e.g. symlink loop)"
  | .hostUnreachable => "host unreachable"
  | .inProgress => "in progress"
  | .interrupted => "operation interrupted"
  | .invalidData => "invalid data"
  | .invalidFilename => "invalid filename"
  | .invalidInput => "invalid input parameter"
  | .isADirectory => "is a directory"
  | .networkDown => "network down"
  | .networkUnreachable => "network unreachable"
  | .notADirectory => "not a directory"
  | .notConnected => "not connected"
  | .notFound => "entity not found"
  | .notSeekable => "seek on unseekable file"
  | .other => "other error"
  | .outOfMemory => "out of memory"
  | .permissionDenied => "permission denied"
  | .quotaExceeded => "quota exceeded"
  | .readOnlyFilesystem => "read-only filesystem or storage medium"
  | .resourceBusy => "resource busy"
  | .staleNetworkFileHandle => "stale network file handle"
  | .storageFull => "no storage space"
  | .timedOut => "timed out"
  | .tooManyLinks => "too many links"
  | .uncategorized => "uncategorized error"
  | .unexpectedEnd => "unexpected end of file"
  | .unsupported => "unsupported"
  | .wouldBlock => "operation would block"
  | .writeZero => "write zero"

/-- An error of a kind, with the message that describes it. -/
structure SystemError where
  kind : ErrorKind
  message : String
deriving DecidableEq, Repr

namespace SystemError

/-- The error of which nothing but the kind is known. -/
def ofKind (kind : ErrorKind) : SystemError :=
  ⟨kind, kind.description⟩

/-- The error that the operating system reports under a number of its own. -/
def ofNumber (kind : ErrorKind) (description : String) (number : Nat) : SystemError :=
  ⟨kind, description ++ " (os error " ++ toString number ++ ")"⟩

/-- There is no such file. -/
def notFound : SystemError :=
  ofNumber .notFound "No such file or directory" 2

/-- The file may not be used in this way. -/
def permissionDenied : SystemError :=
  ofNumber .permissionDenied "Permission denied" 13

/-- A part of a path that should be a directory is not one. -/
def notADirectory : SystemError :=
  ofNumber .notADirectory "Not a directory" 20

/-- A directory stands where a file is wanted. -/
def isADirectory : SystemError :=
  ofNumber .isADirectory "Is a directory" 21

/-- The disk is full. -/
def noSpace : SystemError :=
  ofNumber .storageFull "No space left on device" 28

/-- A name is longer than any file's name can be. -/
def nameTooLong : SystemError :=
  ofNumber .invalidFilename "File name too long" 36

/-- A program, an argument or a variable holds a NUL, which no process can be given. -/
def nulInArgument : SystemError :=
  ⟨.invalidInput, "nul byte found in provided data"⟩

/-- A file name holds a NUL. -/
def nulInFileName : SystemError :=
  ⟨.invalidInput, "file name contained an unexpected NUL byte"⟩

/-- The bytes of a stream are not UTF-8. -/
def notText : SystemError :=
  ⟨.invalidData, "stream did not contain valid UTF-8"⟩

end SystemError
end MetricsScript
