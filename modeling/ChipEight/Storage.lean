import ChipEight.Text.Quoted

/-!
# Files by name

The part of a file system a run of the machine depends on: how a name is made absolute,
how it is split into its stem and its extension, and what a walk along its parts comes
to.  A working directory has files but no directories in it; of what lies outside, only
the directories on the way to it and the places that are listed are known.
-/

namespace ChipEight.Storage

/-- Why a file cannot be opened. -/
inductive FileError
  | missing (path : String)
  | isDirectory (path : String)
  /-- The path leads through a file. -/
  | notDirectory (path : String)
  | nameTooLong (path : String)
  /-- A path with a character that ends every name. -/
  | nullCharacter
deriving DecidableEq, Repr

/-- The wording of a file error. -/
def FileError.message : FileError → String
  | .missing p => "[Errno 2] No such file or directory: " ++ Text.quoted p
  | .isDirectory p => "[Errno 21] Is a directory: " ++ Text.quoted p
  | .notDirectory p => "[Errno 20] Not a directory: " ++ Text.quoted p
  | .nameTooLong p => "[Errno 36] File name too long: " ++ Text.quoted p
  | .nullCharacter => "embedded null byte"

/-! ## Paths -/

/-- A part of a path, between two slashes. -/
abbrev Part := List Char

/-- The part that leads to the directory above. -/
def upwards : Part := ['.', '.']

/-- The parts of a path that name something: neither empty nor the directory itself. -/
def parts (path : List Char) : List Part :=
  (path.splitOn '/').filter fun p => decide (p ≠ [] ∧ p ≠ ['.'])

/-- Joins the parts of a path. -/
def join (ps : List Part) : List Char := ['/'].intercalate ps

/-- The slashes in front of a path: exactly two are kept, any other number counts as one. -/
def lead (path : List Char) : List Char :=
  let slashes := path.takeWhile (· == '/')
  if slashes.length = 2 then slashes else slashes.take 1

/-- A path seen from a directory; a path that starts at the root stays there. -/
def absolute (directory path : String) : String :=
  let tail := join (parts path.toList)
  if lead path.toList ≠ [] then String.ofList (lead path.toList ++ tail)
  else if tail = [] then directory
  else directory ++ "/" ++ String.ofList tail

/-- The last part of a path, behind its last slash. -/
def baseName (path : List Char) : List Char := (path.reverse.takeWhile (· ≠ '/')).reverse

/-- The extension of a path with its point: what follows the last point of its last
part, unless nothing but points stands before it. -/
def extension (path : List Char) : List Char :=
  let base := baseName path
  let tail := (base.reverse.takeWhile (· ≠ '.')).reverse
  let stem := base.take (base.length - tail.length - 1)
  if tail.length < base.length ∧ stem.any (· ≠ '.') then '.' :: tail else []

/-- The number of bytes of a text. -/
def byteLength (cs : List Char) : Nat := (String.ofList cs).utf8ByteSize

/-- The most bytes a part of a path can have. -/
def partLimit : Nat := 255

/-- The number of bytes from which on a path is too long. -/
def pathLimit : Nat := 4096

/-! ## Walks -/

/-- What stands at a place: a directory or the bytes of a file. -/
inductive Entry
  | directory
  | file (content : List UInt8)
deriving DecidableEq, Repr

/-- A directory with files and no directories in it. -/
structure Directory where
  path : String
  files : List (String × List UInt8) := []
  /-- Places by their parts from the root. -/
  elsewhere : List (List Part × Entry) := []

/-- Where a walk has come to. -/
inductive Place
  /-- The working directory. -/
  | home
  /-- A directory above the working directory. -/
  | above
  /-- A directory with the parts that lead to it from the root. -/
  | outside (names : List Part)
  | file (content : List UInt8)
deriving DecidableEq, Repr

namespace Directory

/-- Where a path starts, and the parts to walk along from there. -/
def start (d : Directory) (path : String) : Place × List Part :=
  let home := d.path.toList ++ ['/']
  let whole := path.toList ++ ['/']
  if home.isPrefixOf whole then (.home, parts (whole.drop home.length))
  else (.outside [], parts path.toList)

/-- Looks a name up where a walk has come to. -/
def enter (d : Directory) (shown : String) (place : Place) (name : Part) :
    Except FileError Place :=
  match place with
  | .home =>
    match d.files.lookup (String.ofList name) with
    | some content => .ok (.file content)
    | none => .error (.missing shown)
  | .outside names =>
    match d.elsewhere.lookup (names ++ [name]) with
    | some .directory => .ok (.outside (names ++ [name]))
    | some (.file content) => .ok (.file content)
    | none => .error (.missing shown)
  | _ => .error (.missing shown)

/-- One step of a walk.  The root is its own directory above. -/
def step (d : Directory) (shown : String) (place : Place) (part : Part) :
    Except FileError Place :=
  match place with
  | .file _ => .error (.notDirectory shown)
  | .outside names =>
    if part = upwards then .ok (.outside names.dropLast) else named place part
  | _ => if part = upwards then .ok .above else named place part
where
  /-- A step to a name, which must not be too long. -/
  named (place : Place) (part : Part) : Except FileError Place :=
    if partLimit < byteLength part then .error (.nameTooLong shown)
    else d.enter shown place part

/-- A walk along the parts of a path. -/
def walk (d : Directory) (shown : String) (place : Place) : List Part → Except FileError Place
  | [] => .ok place
  | part :: rest =>
    match d.step shown place part with
    | .error e => .error e
    | .ok next => d.walk shown next rest

/-- What is wrong with a path before any walk. -/
def checkPath (shown : String) : Except FileError Unit :=
  if '\x00' ∈ shown.toList then .error .nullCharacter
  else if pathLimit ≤ byteLength shown.toList then .error (.nameTooLong shown)
  else .ok ()

/-- The bytes of the file at an absolute path. -/
def read (d : Directory) (path : String) : Except FileError (List UInt8) := do
  checkPath path
  let (place, way) := d.start path
  match ← d.walk path place way with
  | .file content => return content
  | _ => throw (.isDirectory path)

/-- Makes a file at an absolute path, in a directory that is there; the error shows the
path as it was given. -/
def create (d : Directory) (path given : String) : Except FileError Unit := do
  checkPath given
  let (place, way) := d.start path
  let parent ← d.walk given place way.dropLast
  match d.walk given parent (way.drop (way.length - 1)) with
  | .ok (.file _) => return
  | .ok _ => throw (.isDirectory given)
  | .error (.missing _) => return
  | .error e => throw e

end Directory

end ChipEight.Storage
