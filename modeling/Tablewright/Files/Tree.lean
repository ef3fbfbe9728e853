import Tablewright.Files.Fault

/-!
# Trees of files

A tree of directories, files and symbolic links, and the paths that lead to them. A path is followed
component by component from the root or from the working directory: every component but the last must
be a directory that is there, an empty one and `.` stay where they are, `..` goes up as far as to the
root, and a link goes on with the path that it stands for (`FileTree.follow`). A file that is written
takes the place of the file or the link that is there.
-/

namespace Tablewright

/-- A file. -/
structure File where
  content : ByteArray
  /-- The permission bits. -/
  mode : Nat

/-- Files are equal if their bytes and modes are. -/
instance : DecidableEq File := fun ⟨⟨a⟩, m⟩ ⟨⟨b⟩, n⟩ =>
  decidable_of_iff (a = b ∧ m = n) (by simp)

/-- Where a file or directory is: the names that lead to it from the root. -/
abbrev Location := List String

/-- A tree of directories, files and links, seen from a directory. -/
structure FileTree where
  /-- The directories below the root. -/
  directories : List Location
  files : List (Location × File)
  /-- The symbolic links and the paths that they stand for. -/
  links : List (Location × String)
  /-- Where relative paths begin. -/
  workingDirectory : Location
  deriving DecidableEq

namespace FileTree

/-- Whether there is a directory. -/
def isDirectory (t : FileTree) (l : Location) : Bool :=
  l.isEmpty || t.directories.contains l

/-- The file at a location. -/
def file? (t : FileTree) (l : Location) : Option File :=
  t.files.lookup l

/-- The path that the link at a location stands for. -/
def link? (t : FileTree) (l : Location) : Option String :=
  t.links.lookup l

/-! ## Paths -/

/-- The components of a path. -/
def components (path : String) : List String :=
  (path.toList.splitOn '/').map String.ofList

/-- Where a path begins: at the root, or else at a location. -/
def beginning (path : String) (l : Location) : Location :=
  if path.startsWith "/" then [] else l

/-- Follow the components of a path from a location; `jump` goes on where a link leads to. -/
def followWith (t : FileTree) (jump : Location → List String → Except FileFault Location) :
    Location → List String → Except FileFault Location
  | l, [] => .ok l
  | l, c :: rest =>
    if t.isDirectory l then
      if c = "" || c = "." then followWith t jump l rest
      else if c = ".." then followWith t jump l.dropLast rest
      else
        match t.link? (l ++ [c]) with
        | some target => jump (beginning target l) (components target ++ rest)
        | none => followWith t jump (l ++ [c]) rest
    else if (t.file? l).isSome then .error .notDirectory
    else .error .notFound

/-- Follow the components of a path from a location, over at most so many links. -/
def follow (t : FileTree) : Nat → Location → List String → Except FileFault Location
  | 0 => t.followWith fun _ _ => .error .tooManyLinks
  | links + 1 => t.followWith (follow t links)

/-- How many links are followed on a path. -/
def mostLinks : Nat :=
  40

/-- The location that a path leads to; what is there need not exist. -/
def locate (t : FileTree) (path : String) : Except FileFault Location :=
  if path.isEmpty then .error .notFound
  else t.follow mostLinks (beginning path t.workingDirectory) (components path)

/-! ## Reading -/

/-- The text of the file that a path leads to. -/
def readText (t : FileTree) (path : String) : Except FileFault String := do
  let l ← t.locate path
  match t.file? l with
  | some f =>
    match String.fromUTF8? f.content with
    | some text => return text
    | none => throw .notText
  | none => throw (if t.isDirectory l then .isDirectory else .notFound)

/-! ## Writing -/

/-- The mode of a new file. -/
def newFileMode : Nat :=
  0o644

/-- The tree with a file put in place. -/
def setFile (t : FileTree) (l : Location) (f : File) : FileTree :=
  if t.files.any (·.1 == l) then
    { t with files := t.files.map fun entry => if entry.1 == l then (l, f) else entry }
  else { t with files := t.files ++ [(l, f)] }

/-- The tree without a file. -/
def removeFile (t : FileTree) (l : Location) : FileTree :=
  { t with files := t.files.filter (·.1 != l) }

/-- The tree without a link. -/
def removeLink (t : FileTree) (l : Location) : FileTree :=
  { t with links := t.links.filter (·.1 != l) }

/-- Whether nothing is at a location. -/
def isFree (t : FileTree) (l : Location) : Bool :=
  (t.file? l).isNone && !t.isDirectory l && (t.link? l).isNone

/-- The location of the directory that a file to write is in. -/
def locateDirectory (t : FileTree) (path : String) : Except FileFault Location :=
  if path.isEmpty then .error .notFound
  else t.follow mostLinks (beginning path t.workingDirectory) ((components path).dropLast ++ ["."])

/-- The last component of a path. -/
def lastName (path : String) : String :=
  (components path).getLast?.getD ""

/-- Whether a name can be that of a file. -/
def isFileName (name : String) : Bool :=
  name != "" && name != "." && name != ".."

/-- The place of a file to write: a link that is there is not followed. -/
def place (t : FileTree) (path : String) : Except FileFault Location := do
  return (← t.locateDirectory path) ++ [lastName path]

/-- Move a file to a name in a directory, in place of the file or the link that is there. -/
def moveFile (t : FileTree) (source directory : Location) (name : String) :
    Except FileFault FileTree :=
  match t.file? source with
  | none => .error .notFound
  | some f =>
    if isFileName name && !t.isDirectory (directory ++ [name]) then
      .ok (((t.removeFile source).removeLink (directory ++ [name])).setFile (directory ++ [name]) f)
    else .error .isDirectory

/-! ## Directories -/

/-- Whether components lead to a directory from a location. -/
def leadsToDirectory (t : FileTree) (l : Location) (cs : List String) : Bool :=
  match t.follow mostLinks l cs with
  | .ok l => t.isDirectory l
  | .error _ => false

/-- Make a directory where components lead to from a location. -/
def makeDirectory (t : FileTree) (l : Location) (above : List String) (name : String) :
    Except FileFault FileTree := do
  let directory ← t.follow mostLinks l (above ++ ["."])
  if name = ".." || !t.isFree (directory ++ [name]) then throw .taken
  return { t with directories := t.directories ++ [directory ++ [name]] }

/-- Make a directory and those above it, where components lead to from a location; the last component
comes first. A directory that is there is left as it is. -/
def makeDirectories (t : FileTree) (l : Location) : List String → Except FileFault FileTree
  | [] => .ok t
  | name :: above =>
    let make (t : FileTree) : Except FileFault FileTree :=
      match t.makeDirectory l above.reverse name with
      | .ok t => .ok t
      | .error fault =>
        if t.leadsToDirectory l (above.reverse ++ [name]) then .ok t else .error fault
    match make t with
    | .error .notFound => makeDirectories t l above >>= make
    | result => result

/-- Make the directories above the file that a path leads to. -/
def makeParents (t : FileTree) (path : String) : Except FileFault FileTree :=
  t.makeDirectories (beginning path t.workingDirectory)
    (((components path).dropLast).filter fun c => c != "" && c != ".").reverse

end FileTree

end Tablewright
