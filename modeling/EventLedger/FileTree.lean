/-!
# Trees of files

Files by their way from the root of a tree. A path is followed part by part from the working
directory, or from the root if the tree is the whole of what there is and the path begins there;
nothing exists outside of the tree.
-/
namespace EventLedger

/-- Files by their parts from the root, and the working directory. -/
structure FileTree where
  /-- The files with their content. -/
  files : List (List String × String)
  /-- The working directory. -/
  workingDirectory : List String
  /-- Whether the tree is the whole of what there is. -/
  isWhole : Bool

namespace FileTree

/-- The parts of a path between slashes. -/
def parts (path : String) : List String := (path.toList.splitOn '/').map String.ofList

/-- Files by path, in a part of what there is. -/
def ofPaths (files : List (String × String)) (workingDirectory : String) : FileTree where
  files := files.map fun (path, content) => ((parts path).filter (· != ""), content)
  workingDirectory := (parts workingDirectory).filter fun part => part != "" && part != "."
  isWhole := false

/-- Whether a directory exists: something lies in it, or the working directory is there. -/
def isDirectory (tree : FileTree) (directory : List String) : Bool :=
  directory.isPrefixOf tree.workingDirectory ||
    tree.files.any fun (path, _) => directory.length < path.length && directory.isPrefixOf path

/-- Follow parts from a place; every place on the way must be a directory. -/
def follow (tree : FileTree) : (place parts : List String) → Option (List String)
  | place, [] => some place
  | place, part :: rest =>
    if !tree.isDirectory place then none
    else if part = "" || part = "." then follow tree place rest
    else if part = ".." then if place.isEmpty then none else follow tree place.dropLast rest
    else follow tree (place ++ [part]) rest

/-- The content of the file at a path from the working directory. -/
def read? (tree : FileTree) (path : String) : Option String :=
  let begin? := if !path.startsWith "/" then some tree.workingDirectory
    else if tree.isWhole then some []
    else none
  match begin?.bind fun place => tree.follow place (parts path) with
  | none => none
  | some place => tree.files.lookup place

/-- The content of the nearest file of a name in a directory, whose parts come from the innermost
one, or in those above it. -/
def findAbove? (tree : FileTree) (name : String) : (directory : List String) → Option String
  | [] => tree.files.lookup [name]
  | part :: above =>
    match tree.files.lookup ((part :: above).reverse ++ [name]) with
    | some content => some content
    | none => findAbove? tree name above

/-- The content of the nearest file of a name in the working directory or those above it. -/
def findUpwards? (tree : FileTree) (name : String) : Option String :=
  tree.findAbove? name tree.workingDirectory.reverse

end FileTree

end EventLedger
