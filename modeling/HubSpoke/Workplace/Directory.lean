import HubSpoke.KeyMap
import HubSpoke.Text.Segments
import HubSpoke.Workplace.Basic

/-!
# A directory as a value

A directory holds files and no directories.  A `Session` is a directory in which commands run,
with what they print; its clock stands at zero.
-/

namespace HubSpoke

/-- A directory of files. -/
structure Directory where
  files : KeyMap ByteArray := .empty

namespace Directory

/-- The file that the parts of a path lead to, or the directory itself. -/
def walk (d : Directory) : List String → Except FileError (Option String)
  | [] => .ok none
  | [name] => .ok (if ["", ".", ".."].contains name then none else some name)
  | name :: rest =>
      if name = "" ∨ name = "." then d.walk rest
      else if (d.files.find? name).isSome then .error .notDirectory
      else .error .missing

/-- The file at a path, or the directory itself. -/
def locate (d : Directory) (path : String) : Except FileError (Option String) :=
  if path.toList.contains '\x00' then .error .nameHoldsNul
  else if path.isEmpty ∨ path.startsWith "/" then .error .missing
  else d.walk (Text.segments '/' path)

/-- The name of a file that is to be opened. -/
def fileName (d : Directory) (path : String) : Except FileError String := do
  match ← d.locate path with
  | some name => .ok name
  | none => .error .isDirectory

/-- The octets of a file. -/
def read (d : Directory) (path : String) : Except FileError ByteArray := do
  match d.files.find? (← d.fileName path) with
  | some octets => .ok octets
  | none => .error .missing

/-- The directory with a text in place of what a file held. -/
def write (d : Directory) (path text : String) : Except FileError Directory := do
  let name ← d.fileName path
  return { files := d.files.insert name text.toUTF8 }

/-- The directory with a text added to what a file held. -/
def append (d : Directory) (path text : String) : Except FileError Directory := do
  let name ← d.fileName path
  let held := (d.files.find? name).getD .empty
  return { files := d.files.insert name (held ++ text.toUTF8) }

end Directory

/-- A directory in which commands run. -/
structure Session where
  directory : Directory := {}
  environment : KeyMap String := .empty
  /-- The lines printed. -/
  printed : String := ""
  /-- The lines printed among the errors. -/
  reported : String := ""

namespace Session

/-- Makes a change to the directory, if it can be made. -/
def change (f : Directory → Except FileError Directory) : StateM Session (Except FileError Unit) :=
  modifyGet fun s => match f s.directory with
    | .ok directory => (.ok (), { s with directory })
    | .error e => (.error e, s)

instance : Workplace (StateM Session) where
  readFile path := do return (← get).directory.read path
  isPresent path := do
    let directory := (← get).directory
    return match directory.locate path with
      | .ok (some name) => (directory.files.find? name).isSome
      | .ok none => true
      | .error _ => false
  writeFile path text := change fun directory => directory.write path text
  appendFile path text := change fun directory => directory.append path text
  printLine line := modify fun s => { s with printed := s.printed ++ line ++ "\n" }
  reportLine line := modify fun s => { s with reported := s.reported ++ line ++ "\n" }
  environment name := do return (← get).environment.find? name
  now := pure 0

end Session

end HubSpoke
