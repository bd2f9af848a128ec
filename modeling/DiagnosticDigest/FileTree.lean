import DiagnosticDigest.Gathering
import DiagnosticDigest.Json.Value
import DiagnosticDigest.Text.Split

/-!
# File trees

A file system as a value: files with their bytes, and directories with named entries. A path is
followed name by name from the root or from the working directory. A directory can be opened like a
file, but not read.

## Main definitions

* `FileTree`: a file or a directory.
* `FileTree.add`: a tree with one more file or directory, its parents made as needed.
* `FileTree.openPath`: what opening a path gives.
-/

namespace DiagnosticDigest

/-- A file or a directory. -/
inductive FileTree where
  | file (content : List UInt8)
  | directory (entries : List (String × FileTree))

namespace FileTree

/-- A directory without entries. -/
def emptyDirectory : FileTree :=
  .directory []

/-- The names in a path. A slash at either end leaves an empty name there. -/
def namesOf (path : String) : List String :=
  Text.split '/' path

/-- A tree with a file or a directory under a list of names. A directory that is there already keeps
its entries. -/
def add (leaf : FileTree) : List String → FileTree → FileTree
  | [], here =>
    match leaf, here with
    | .directory [], .directory entries => .directory entries
    | _, _ => leaf
  | name :: names, .directory entries =>
    let child := (Members.find? name entries).getD emptyDirectory
    .directory (Members.insert name (add leaf names child) entries)
  | name :: names, .file _ => .directory [(name, add leaf names emptyDirectory)]

/-- The longest name that an entry can have, in bytes. -/
def maxName : Nat := 255

/-- The longest path that can be opened, in bytes. -/
def maxPath : Nat := 4095

/-- Follows names from the first of the given trees; the others are the directories above it, the
nearest first. -/
def follow : List FileTree → List String → Except Failure (List FileTree)
  | trees, [] => .ok trees
  | [], _ :: _ => .error .noSuchFile
  | .file _ :: _, _ :: _ => .error .notDirectory
  | .directory entries :: above, name :: names =>
    if name = "" ∨ name = "." then follow (.directory entries :: above) names
    else if name = ".." then
      follow (if above.isEmpty then [.directory entries] else above) names
    else if maxName < (Utf8.encode name).length then .error .nameTooLong
    else
      match Members.find? name entries with
      | none => .error .noSuchFile
      | some child => follow (child :: .directory entries :: above) names

/-- What opening a path gives, in a tree with a working directory. -/
def openPath (root : FileTree) (workingDirectory : List String) : Files := fun path =>
  if '\x00' ∈ path.toList then .error .nulInPath
  else if path = "" then .error .noSuchFile
  else if maxPath < (Utf8.encode path).length then .error .nameTooLong
  else
    let names := namesOf path
    let start := if path.toList.head? = some '/' then [] else workingDirectory
    match follow [root] (start ++ names) with
    | .error reason => .error reason
    | .ok [] => .error .noSuchFile
    | .ok (.file content :: _) => .ok (Source.whole content)
    | .ok (.directory _ :: _) => .ok [.failure .isDirectory]

end FileTree

end DiagnosticDigest
