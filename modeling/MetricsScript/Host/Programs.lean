import MetricsScript.Host.Files

/-!
# Finding programs

A program is named by a path, or by a name that is looked for in the directories of the search
path.
-/

namespace MetricsScript
namespace Host

/-- The directories in which programs are looked for if nothing else is said. -/
def standardPath : String :=
  "/usr/local/sbin:/usr/local/bin:/usr/sbin:/usr/bin:/sbin:/bin"

/-- A program, and the path at whose end it stands. -/
structure Program where
  path : String
  utility : Utility
deriving DecidableEq, Repr

/-- The program that stands at the end of a path. -/
def Files.program (files : Files) (path : String) : Except SystemError Program :=
  match files.find path with
  | .ok (.executable utility _) => .ok ⟨path, utility⟩
  | .ok _ => .error .permissionDenied
  | .error cause => .error cause

/-- Looks for a program in directories.  A program that may not be run is passed over, but
is reported if no other is found. -/
def Files.search (files : Files) (name : String) (refused : Bool) :
    List String → Except SystemError Program
  | [] => .error (if refused then .permissionDenied else .notFound)
  | directory :: directories =>
      match files.program (if directory.isEmpty then name else directory ++ "/" ++ name) with
      | .ok program => .ok program
      | .error cause =>
          if cause = .permissionDenied then files.search name true directories
          else if cause = .notFound || cause = .notADirectory then
            files.search name refused directories
          else .error cause

/-- The directories of a search path, which stand between colons. -/
def searchDirectories (path : String) : List String :=
  (path.toList.foldr
    (fun c names =>
      match names with
      | [] => [[c]]
      | name :: more => if c = ':' then [] :: name :: more else (c :: name) :: more)
    [[]]).map String.ofList

/-- Finds a program.  A name with a slash in it is a path. -/
def Files.findProgram (files : Files) (searchPath name : String) :
    Except SystemError Program :=
  if name.isEmpty then .error .notFound
  else if name.toList.contains '/' then files.program name
  else if width name > longestName then .error .nameTooLong
  else files.search name false (searchDirectories searchPath)

end Host
end MetricsScript
