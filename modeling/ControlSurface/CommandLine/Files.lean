import ControlSurface.Text.Segments

/- The files that the command line reads, and a directory held in memory. -/
namespace ControlSurface.CommandLine

/-- Why a file cannot be read. -/
inductive ReadFault where
  | missing
  | notDirectory
  | isDirectory
  | notText
  | other (reason : String)
deriving Repr, DecidableEq

/-- The wording of a fault. -/
def ReadFault.message : ReadFault → String
  | missing => "No such file or directory (os error 2)"
  | notDirectory => "Not a directory (os error 20)"
  | isDirectory => "Is a directory (os error 21)"
  | notText => "stream did not contain valid UTF-8"
  | other reason => reason

/-- The files in reach: the one at a path, and the settings in the user's home. -/
structure Files where
  read : String → Except ReadFault ByteArray
  settings : Option ByteArray

/-- The text of a file. -/
def Files.text (f : Files) (path : String) : Except ReadFault String :=
  match f.read path with
  | .error e => .error e
  | .ok bytes =>
    match String.fromUTF8? bytes with
    | some s => .ok s
    | none => .error .notText

/-- A file held in memory: the names on its path, and its bytes. -/
abbrev Entry : Type := List String × ByteArray

/-- Follows a path through files held in memory. `here` are the names that lead to the current
    directory; outside the outermost directory nothing is found. -/
def follow (entries : List Entry) (here : List String) : List String → Except ReadFault ByteArray
  | [] => .error .isDirectory
  | name :: names =>
    if name = "" ∨ name = "." then follow entries here names
    else if name = ".." then
      if here = [] then .error (if names.all (fun n => n = "" ∨ n = "." ∨ n = "..") then .isDirectory
        else .missing)
      else follow entries here.dropLast names
    else
      let there := here ++ [name]
      match entries.lookup there with
      | some bytes => if names = [] then .ok bytes else .error .notDirectory
      | none =>
        if entries.any fun e => there.isPrefixOf e.1 then follow entries there names
        else .error .missing

/-- The names on a path. -/
def pathNames (path : String) : List String :=
  (Text.segments '/' path.toList).map String.ofList

/-- Files held in memory, by their paths. -/
def Files.ofEntries (entries : List (String × ByteArray)) (settings : Option ByteArray) : Files :=
  let entries := entries.map fun (path, bytes) => (pathNames path, bytes)
  { read := fun path =>
      if path.toList.head? = some '/' then
        .error (if path.toList.all (· == '/') then .isDirectory else .missing)
      else follow entries [] (pathNames path)
    settings := settings }

end ControlSurface.CommandLine
