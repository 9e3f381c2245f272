import MetricsScript.Host.Path
import MetricsScript.SystemError

/-!
# Files

The files of a host are kept under the names that lead to them from the root.  A path is
followed step by step, and every step but the last has to lead to a directory.
-/

namespace MetricsScript
namespace Host

/-- The names that lead to a file from the root. -/
abbrev Location := List String

/-- A device that takes or gives bytes without being a file. -/
inductive Device where
  /-- Takes everything and gives nothing. -/
  | null
  /-- Takes nothing, as if the disk were full, and gives zeros without end. -/
  | full
  /-- Takes everything and gives zeros without end. -/
  | zero
  /-- The standard output of the program that uses it. -/
  | output
  /-- The standard error of the program that uses it. -/
  | errors
deriving DecidableEq, Repr

/-- A program that the host knows how to run. -/
inductive Utility where
  /-- The tool that scripts are written for. -/
  | tool
  | shell
  | printf
  | echo
  | test
  | cat
  | head
  | tr
  | sleep
  | sequence
  | repetition
  | succeed
  | fail
deriving DecidableEq, Repr

/-- What stands at a location. -/
inductive Node where
  | directory
  | file (bytes : List UInt8)
  /-- A file that can be run.  Its bytes do not tell what it does. -/
  | executable (program : Utility) (bytes : List UInt8 := [])
  | device (device : Device)
deriving DecidableEq, Repr

/-- The bytes of a file. -/
def Node.bytes? : Node → Option (List UInt8)
  | .file bytes | .executable _ bytes => some bytes
  | .directory | .device _ => none

/-- Where a disk stops taking bytes. -/
structure Limit where
  /-- The number of bytes that it still takes. -/
  room : Nat
  /-- What is reported behind them. -/
  cause : SystemError
deriving DecidableEq, Repr

/-- The files of a host. -/
structure Files where
  nodes : List (Location × Node)
  /-- The directory in which paths without a slash in front begin. -/
  working : Location
  /-- The places at which nothing may be written or made, and what is reported there. -/
  refusals : List (Location × SystemError) := []
  /-- Where the disk stops taking bytes, if it does. -/
  limit : Option Limit := none
deriving DecidableEq, Repr

/-- What takes the bytes that are appended at a path. -/
inductive Receiver where
  /-- The file at a location, behind the bytes that it holds. -/
  | file (location : Location) (held : List UInt8)
  | device (device : Device)
deriving DecidableEq, Repr

/-- What has become of bytes that were to be appended. -/
structure Appended where
  /-- The files afterwards.  One of them may have grown even if not all bytes were taken. -/
  files : Files
  /-- Whether the bytes came out on standard output. -/
  shown : Bool := false
  /-- Why not all bytes were taken, if they were not. -/
  cause? : Option SystemError := none
deriving DecidableEq, Repr

namespace Files

/-- What stands at a location.  The root is always a directory. -/
def node? (files : Files) (location : Location) : Option Node :=
  if location.isEmpty then some .directory else files.nodes.lookup location

/-- Puts something at a location, in place of what was there. -/
def put (files : Files) (location : Location) (node : Node) : Files :=
  { files with nodes := (location, node) :: files.nodes.filter fun entry => entry.1 ≠ location }

/-- The bytes of the file at a location. -/
def bytes? (files : Files) (location : Location) : Option (List UInt8) :=
  (files.node? location).bind Node.bytes?

/-- Puts bytes into the file at a location, which is made if it is not there. -/
def store (files : Files) (location : Location) (bytes : List UInt8) : Files :=
  files.put location
    (match files.node? location with
      | some (.executable program _) => .executable program bytes
      | _ => .file bytes)

/-- Where one step leads from a directory. -/
def move (start : Location) : Step → Location
  | .enter name => start ++ [name]
  | .stay => start
  | .up => start.dropLast

/-- Follows the steps of a path.  Nothing is said of what stands at the end. -/
def follow (files : Files) : Location → List Step → Except SystemError Location
  | start, [] => .ok start
  | start, step :: rest =>
      match files.node? start with
      | none => .error .notFound
      | some .directory =>
          match step with
          | .enter name =>
              if width name > longestName then .error .nameTooLong
              else files.follow (move start step) rest
          | _ => files.follow (move start step) rest
      | some _ => .error .notADirectory

/-- The location that a path leads to. -/
def locate (files : Files) (path : String) : Except SystemError (Location × Path) :=
  if path.toList.contains '\x00' then .error .nulInFileName
  else if path.isEmpty then .error .notFound
  else if width path > longestPath then .error .nameTooLong
  else
    let parsed := Path.parse path
    (files.follow (if parsed.absolute then [] else files.working) parsed.steps).map
      fun location => (location, parsed)

/-- What stands at the end of a path.  A path that ends in a slash leads to directories
only. -/
def find (files : Files) (path : String) : Except SystemError Node := do
  let (location, parsed) ← files.locate path
  match files.node? location with
  | none => .error .notFound
  | some .directory => .ok .directory
  | some node => if parsed.closed then .error .notADirectory else .ok node

/-- The bytes of a file, which anyone may read.  A device reads as empty, which is true of the
null device only: what the others give is not told. -/
def read (files : Files) (path : String) : Except SystemError (List UInt8) := do
  match ← files.find path with
  | .directory => .error .isADirectory
  | .file bytes | .executable _ bytes => .ok bytes
  | .device _ => .ok []

/-- What takes the bytes that are appended at a path.  A free place will get a file. -/
def receiver (files : Files) (path : String) : Except SystemError Receiver := do
  let (location, parsed) ← files.locate path
  if parsed.closed then .error .isADirectory
  else
    match files.node? location, files.refusals.lookup location with
    | some .directory, _ => .error .isADirectory
    | _, some cause => .error cause
    | none, none => .ok (.file location [])
    | some (.file held), none | some (.executable _ held), none => .ok (.file location held)
    | some (.device device), none => .ok (.device device)

/-- The bytes that the disk takes of some. -/
def taken (files : Files) (bytes : List UInt8) : List UInt8 :=
  match files.limit with
  | none => bytes
  | some limit => bytes.take limit.room

/-- Why the disk does not take all of some bytes, if it does not. -/
def shortage? (files : Files) (bytes : List UInt8) : Option SystemError :=
  match files.limit with
  | none => none
  | some limit => if bytes.length ≤ limit.room then none else some limit.cause

/-- The files when a number of bytes has been used up on the disk. -/
def use (files : Files) (count : Nat) : Files :=
  { files with limit := files.limit.map fun limit => { limit with room := limit.room - count } }

/-- Writes bytes to what takes them.  What comes out on standard error is not told. -/
def write (files : Files) (bytes : List UInt8) : Receiver → Appended
  | .file location held =>
      let taken := files.taken bytes
      { files := (files.store location (held ++ taken)).use taken.length
        cause? := files.shortage? bytes }
  | .device .full => { files, cause? := if bytes.isEmpty then none else some .noSpace }
  | .device .output => { files, shown := true }
  | .device .null | .device .zero | .device .errors => { files }

/-- Appends bytes at a path. -/
def extend (files : Files) (path : String) (bytes : List UInt8) : Appended :=
  match files.receiver path with
  | .error cause => { files, cause? := some cause }
  | .ok receiver => files.write bytes receiver

/-- The files when bytes were appended at a path, if all of them were taken. -/
def append (files : Files) (path : String) (bytes : List UInt8) :
    Except SystemError Files :=
  let appended := files.extend path bytes
  match appended.cause? with
  | none => .ok appended.files
  | some cause => .error cause

end Files
end Host
end MetricsScript
