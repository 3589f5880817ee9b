/-!
# File trees

Directories and text files by their paths, as far as a log file needs them.
Creating a directory creates those above it; each refusal has the cause that a
POSIX system gives.
-/

namespace StarWatch

/-- The names along a path. -/
abbrev Path := List String

namespace Path

def ofText (text : String) : Path :=
  ((text.toList.splitOn '/').filter fun name => !name.isEmpty).map String.ofList

/-- The names with a slash in front of each; a name has none in it. -/
def key (path : Path) : String := path.foldl (fun text name => text ++ "/" ++ name) ""

/-- The text of a name below a directory; an absolute name stands for itself. -/
def join (dir name : String) : String :=
  if name.toList.head? = some '/' then name
  else if dir.isEmpty || dir.toList.getLast? = some '/' then dir ++ name
  else dir ++ "/" ++ name

def longestName : Nat := 255

def longest : Nat := 4095

end Path

inductive FileError where
  | notFound
  | occupied
  | notDirectory
  | isDirectory
  | nameTooLong
  | zeroByte
deriving DecidableEq

namespace FileError

def message : FileError → String
  | notFound => "No such file or directory (os error 2)"
  | occupied => "File exists (os error 17)"
  | notDirectory => "Not a directory (os error 20)"
  | isDirectory => "Is a directory (os error 21)"
  | nameTooLong => "File name too long (os error 36)"
  | zeroByte => "file name contained an unexpected NUL byte"

end FileError

namespace FileTree

inductive Entry where
  | directory
  | file (content : String)
deriving DecidableEq

end FileTree

/-- What there is, by the key of its path. The empty path is always a directory. -/
structure FileTree where
  entries : List (String × FileTree.Entry)

namespace FileTree

def empty : FileTree := ⟨[]⟩

def lookup (t : FileTree) (path : Path) : Option Entry :=
  match path with
  | [] => some .directory
  | path => t.entries.lookup path.key

def put (t : FileTree) (path : Path) (entry : Entry) : FileTree :=
  ⟨(path.key, entry) :: t.entries⟩

/-- Goes on from a directory along names, and creates what is missing; `created` tells whether
anything was missing so far.

The whole path is tried before anything is created, so a file on the way is a wrong directory
there. Behind a created directory the path is tried name by name, and a file is in the way of the
directory of its name. A last name `.` is not looked up in a directory that is missing too. -/
def makeBelow (t : FileTree) (created : Bool) (here : Path) :
    Path → Except FileError (FileTree × Path)
  | [] => .ok (t, here)
  | "." :: rest => makeBelow t created here rest
  | ".." :: rest => makeBelow t created here.dropLast rest
  | name :: rest =>
    let path := here ++ [name]
    let isLast := rest.isEmpty
    let endsInDots := !isLast && rest.all (· == ".")
    if Path.longestName < name.utf8ByteSize then .error .nameTooLong
    else match t.lookup path with
      | some .directory => makeBelow t created path rest
      | some (.file _) =>
        .error (if isLast || (created && !endsInDots) then .occupied else .notDirectory)
      | none =>
        if endsInDots then .error .notFound
        else makeBelow (t.put path .directory) true path rest

/-- The names of a path that a system call takes. -/
def resolvable (text : String) : Except FileError Path :=
  if text.toList.contains (Char.ofNat 0) then .error .zeroByte
  else if Path.longest < text.utf8ByteSize then .error .nameTooLong
  else .ok (Path.ofText text)

/-- Creates a directory and those above it; the directory's own path comes with the tree. -/
def makeDirectory (t : FileTree) (text : String) : Except FileError (FileTree × Path) := do
  t.makeBelow false [] (← resolvable text)

/-- Opens a file for appending in a directory; it is created where there is none. The text is that
of the whole path. -/
def openFile (t : FileTree) (directory : Path) (name text : String) :
    Except FileError (FileTree × Path) := do
  let _ ← resolvable text
  let path := directory ++ [name]
  match t.lookup path with
  | some .directory => throw .isDirectory
  | some (.file _) => return (t, path)
  | none => return (t.put path (.file ""), path)

/-- The content of a file. -/
def content? (t : FileTree) (path : Path) : Option String :=
  match t.lookup path with
  | some (.file content) => some content
  | _ => none

def append (t : FileTree) (path : Path) (text : String) : FileTree :=
  t.put path (.file ((t.content? path).getD "" ++ text))

end FileTree

end StarWatch
