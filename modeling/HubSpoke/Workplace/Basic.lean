/-!
# Where commands run

A command reads and writes files, prints lines and looks at a clock and at its environment.  It is
written over any monad that offers these, so that it runs against a real system and against
`Session`, a directory held as a value, alike.
-/

namespace HubSpoke

/-- Why a file is neither read nor written. -/
inductive FileError where
  | missing
  | isDirectory
  | notDirectory
  | nameHoldsNul
  | other (cause : String)
deriving DecidableEq, Repr

def FileError.message : FileError → String
  | .missing => "No such file or directory (os error 2)"
  | .isDirectory => "Is a directory (os error 21)"
  | .notDirectory => "Not a directory (os error 20)"
  | .nameHoldsNul => "file name contained an unexpected NUL byte"
  | .other cause => cause

/-- What a command may do where it runs. -/
class Workplace (m : Type → Type) where
  /-- The octets of a file. -/
  readFile : String → m (Except FileError ByteArray)
  /-- There is something at a path. -/
  isPresent : String → m Bool
  /-- Puts a text in place of what a file holds. -/
  writeFile : String → String → m (Except FileError Unit)
  /-- Adds a text to what a file holds, and creates the file if there is none. -/
  appendFile : String → String → m (Except FileError Unit)
  /-- Prints a line. -/
  printLine : String → m Unit
  /-- Prints a line among the errors. -/
  reportLine : String → m Unit
  /-- The value of a variable of the environment. -/
  environment : String → m (Option String)
  /-- The time, in milliseconds. -/
  now : m Nat

end HubSpoke
