import SuperChip.Text.Quoted

/-!
# The folder that programs are read from

A folder is a finite table of names, each with the bytes of a file or marked as
a folder of its own.  A path is walked name by name: an empty name and `.` stay
where they are, `..` goes up, and any other name must be in the table.  What
lies above the folder is not known and holds nothing.

Nothing else in the library depends on how paths are walked: programs are read
through `Files`, which is any way to open paths.
-/

namespace SuperChip

/-- The reasons why a path does not open as a file. -/
inductive FolderError where
  | notFound (path : String)
  /-- The path goes on behind a file. -/
  | notFolder (path : String)
  /-- The path is that of a folder. -/
  | isFolder (path : String)
  /-- A name, or the path altogether, has too many bytes. -/
  | nameTooLong (path : String)
  deriving DecidableEq, Repr

/-- What the user is told about a path that does not open. -/
def FolderError.message : FolderError → String
  | .notFound path => s!"[Errno 2] No such file or directory: {quoted path}"
  | .notFolder path => s!"[Errno 20] Not a directory: {quoted path}"
  | .isFolder path => s!"[Errno 21] Is a directory: {quoted path}"
  | .nameTooLong path => s!"[Errno 36] File name too long: {quoted path}"

/-- What opening a path gives: the bytes of a file, or the reason why there are
none. -/
structure Files where
  read : String → Except FolderError (List UInt8)

/-- A table of paths below the folder, each with its bytes, or with nothing if
it is a folder. -/
structure Folder where
  entries : List (String × Option (List UInt8))

namespace Folder

/-- A folder with nothing in it. -/
def empty : Folder := ⟨[]⟩

/-- What stands at the end of a path. -/
inductive Node where
  | file (bytes : List UInt8)
  | folder (names : List String)
  | outside

/-- Names as a path below the folder. -/
def joined (names : List String) : String := "/".intercalate names

/-- The node at some names below the folder.  A folder exists also if only
something below it is in the table. -/
def node? (folder : Folder) (names : List String) : Option Node :=
  match folder.entries.find? fun entry => entry.1 == joined names with
  | some (_, some bytes) => some (.file bytes)
  | some (_, none) => some (.folder names)
  | none =>
    if folder.entries.any fun entry => entry.1.startsWith (joined names ++ "/") then
      some (.folder names)
    else none

/-- The largest number of bytes in a name. -/
def nameLimit : Nat := 255

/-- The number of bytes that no path reaches. -/
def pathLimit : Nat := 4096

/-- Follow the names of a path from a node. -/
def walk (folder : Folder) (path : String) : Node → List String → Except FolderError Node
  | node, [] => .ok node
  | .file _, _ :: _ => .error (.notFolder path)
  | .outside, name :: rest =>
    if name = "" ∨ name = "." ∨ name = ".." then folder.walk path .outside rest
    else if nameLimit < name.utf8ByteSize then .error (.nameTooLong path)
    else .error (.notFound path)
  | .folder names, name :: rest =>
    if name = "" ∨ name = "." then folder.walk path (.folder names) rest
    else if name = ".." then
      folder.walk path (if names = [] then .outside else .folder names.dropLast) rest
    else if nameLimit < name.utf8ByteSize then .error (.nameTooLong path)
    else match folder.node? (names ++ [name]) with
      | some node => folder.walk path node rest
      | none => .error (.notFound path)

/-- The bytes of the file with a path. -/
def read (folder : Folder) (path : String) : Except FolderError (List UInt8) := do
  if path = "" then throw (.notFound path)
  if pathLimit ≤ path.utf8ByteSize then throw (.nameTooLong path)
  let start := if path.startsWith "/" then Node.outside else Node.folder []
  match ← folder.walk path start (path.splitOn "/") with
  | .file bytes => pure bytes
  | .folder _ | .outside => throw (.isFolder path)

/-- A folder as the place that programs are read from. -/
def files (folder : Folder) : Files := ⟨folder.read⟩

end Folder

end SuperChip
