import Rpn.Path

/-!
# Files

What a path can lead to: a directory, a file of bytes, or an archive, which is described by its
members in their order. A `FileTree` holds such nodes below a working directory.
-/

namespace Rpn

/-- The kinds of archives. -/
inductive ArchiveFormat where
  | zip
  | tarXz
  | sevenZip
  deriving DecidableEq, Repr

/-- What a member of an archive is. -/
inductive MemberKind where
  | file (bytes : List UInt8)
  | directory
  | link (target : String)
  | pipe
  deriving DecidableEq, Repr

/-- A member of an archive. -/
structure Member where
  name : String
  kind : MemberKind
  deriving DecidableEq, Repr

/-- What a file holds. -/
inductive FileContent where
  | plain (bytes : List UInt8)
  | archive (format : ArchiveFormat) (members : List Member)
  deriving DecidableEq, Repr

/-- What a path leads to. -/
inductive FileNode where
  | directory
  | file (content : FileContent)
  deriving DecidableEq, Repr

/-- Why a path leads to no file. -/
inductive FileError where
  | notFound
  | isDirectory
  | notDirectory
  deriving DecidableEq, Repr

/-- What each path leads to. -/
abbrev FileView := Path → Except FileError FileNode

namespace FileView

/-- The content of a file. -/
def content (view : FileView) (path : Path) : Except FileError FileContent :=
  match view path with
  | .ok (.file content) => .ok content
  | .ok .directory => .error .isDirectory
  | .error error => .error error

/-- Whether a path leads to a file. -/
def isFile (view : FileView) (path : Path) : Bool :=
  match view path with
  | .ok (.file _) => true
  | _ => false

/-- Why no file can be written at a path. -/
def obstacle? (view : FileView) (path : Path) : Option FileError :=
  match view path with
  | .ok (.file _) => none
  | .ok .directory => some .isDirectory
  | .error .notFound => none
  | .error error => some error

end FileView

/-- Nodes by the names that lead to them from the working directory. The directories on the way
are there without an entry of their own. -/
abbrev FileTree := List (List String × FileNode)

namespace FileTree

/-- What the names lead to, read one after the other from a directory. -/
def node? (tree : FileTree) (names : List String) : Option FileNode :=
  match tree.lookup names with
  | some node => some node
  | none =>
      if names.isEmpty || tree.any (fun entry => names.isPrefixOf entry.1) then some .directory
      else none

/-- The names that lead to the place of a path without pairs of dots, from the directory of the
given names, which are in reverse. Each name on the way has to be a directory. -/
def resolveFrom (tree : FileTree) (here : List String) :
    List String → Except FileError (List String)
  | [] => .ok here.reverse
  | name :: rest =>
      match tree.node? here.reverse with
      | none => .error .notFound
      | some (.file _) => .error .notDirectory
      | some .directory =>
          if name = ".." then
            match here with
            | [] => .error .notFound
            | _ :: outer => resolveFrom tree outer rest
          else resolveFrom tree (name :: here) rest

/-- The names that lead to the place of a path. Nothing is known of places outside of the working
directory. -/
def resolve (tree : FileTree) (path : Path) : Except FileError (List String) :=
  match path.root with
  | .working => tree.resolveFrom [] path.names
  | _ => .error .notFound

/-- What each path leads to; a root is a directory. -/
def view (tree : FileTree) : FileView := fun path =>
  match path.root, path.names with
  | .slash, [] => .ok .directory
  | .doubleSlash, [] => .ok .directory
  | _, _ => do
      let names ← tree.resolve path
      match tree.node? names with
      | some node => .ok node
      | none => .error .notFound

end FileTree

end Rpn
