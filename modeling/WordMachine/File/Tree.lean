import WordMachine.File.Failure

/-!
# File trees

A file tree maps paths to contents.  The directories are those that the paths of
its files go through; what lies above the top of the tree is not known.
-/

namespace WordMachine

/-- Files below one directory. -/
structure FileTree where
  /-- The names on the way to each file, with its contents.  Of two entries for one file the first
  counts. -/
  entries : List (List Text × Array UInt8) := []

namespace FileTree

/-- The tree without files. -/
def empty : FileTree :=
  {}

/-- The contents of the file that the given names lead to, if it is one. -/
def file?
    (tree : FileTree)
    (names : List Text) : Option (Array UInt8) :=
  tree.entries.lookup names

/-- Whether names lead to a directory. -/
def isDirectory
    (tree : FileTree)
    (names : List Text) : Bool :=
  names.isEmpty ||
    tree.entries.any fun (file, _) => names.length < file.length && names.isPrefixOf file

/-- What names lead to. -/
inductive Place where
  /-- A directory. -/
  | directory
  /-- A file. -/
  | file (contents : Array UInt8)
  /-- Nothing. -/
  | nothing
  /-- Nothing, because a file is on the way. -/
  | belowFile
  /-- Nothing, because a name is too long to be looked up. -/
  | tooLong

/-- Follows names from a directory, which is given by the names that lead to it, the last one
first, or unknown if it is above the top. -/
def follow
    (tree : FileTree) : Option (List Text) -> List Text -> Place
  | _, [] => .directory
  | here?, name :: names =>
      if name = ".." then
        follow tree (here?.bind List.tail?) names
      else if SystemName.nameLimit < SystemName.byteCount name then
        .tooLong
      else
        match here? with
        | none => .nothing
        | some here =>
            let there := name :: here
            match tree.file? there.reverse with
            | some contents => if names.isEmpty then .file contents else .belowFile
            | none =>
                if tree.isDirectory there.reverse then follow tree (some there) names else .nothing

/-- What a path leads to. -/
def find
    (tree : FileTree)
    (path : Path) : Place :=
  if SystemName.pathLimit < SystemName.byteCount path.display then
    .tooLong
  else
    tree.follow (if path.root = "" then some [] else none) path.parts

/-- The contents of a file. -/
def read
    (tree : FileTree)
    (path : Path) : Except FileFailure (Array UInt8) :=
  match FileFailure.ofPath? path with
  | some failure => .error failure
  | none =>
      match tree.find path with
      | .file contents => .ok contents
      | .directory => .error (.isDirectory path)
      | .nothing => .error (.missing path)
      | .belowFile => .error (.notDirectory path)
      | .tooLong => .error (.tooLong path)

/-- Stores a file. -/
def write
    (tree : FileTree)
    (path : Path)
    (contents : Array UInt8) : FileTree :=
  ⟨(path.parts, contents) :: tree.entries⟩

end FileTree
end WordMachine
