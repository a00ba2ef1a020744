import ApiModel.Text.Segments

/-!
# Files

What reads files takes the reading as an argument: an action that gives the text of a path or
the reason why there is none. A file tree gives one such action.

## Main definitions

* `FileError`: why a file cannot be read or written.
* `FileReader`: how files are read.
* `FileTree`, `FileTree.read`: a directory with the files below it.
-/

namespace ApiModel

/-- Why a file cannot be read or written. -/
inductive FileError where
  | notFound
  | notDirectory
  | isDirectory
  | nameTooLong
  | unfitName
  | other (message : String)
  deriving DecidableEq, Repr

/-- The wording of a reason. -/
def FileError.message : FileError → String
  | notFound => "No such file or directory (os error 2)"
  | notDirectory => "Not a directory (os error 20)"
  | isDirectory => "Is a directory (os error 21)"
  | nameTooLong => "File name too long (os error 36)"
  | unfitName => "file name contained an unexpected NUL byte"
  | other message => message

/-- How the text of a file is read. -/
abbrev FileReader (m : Type → Type) : Type := String → ExceptT FileError m String

/-- A directory with the files below it, by the segments of their paths. -/
structure FileTree where
  /-- The files. -/
  files : List (List String × String)
  deriving Repr, Inhabited

namespace FileTree

/-- The segments of a path. -/
def segments (path : String) : List String :=
  (Text.segments '/' path.toList).map String.ofList

/-- Whether a segment leads nowhere else. -/
def isStay (s : String) : Bool := s = "" || s = "."

/-- The tree of files given by their paths. -/
def ofFiles (files : List (String × String)) : FileTree :=
  ⟨files.map fun (path, text) => ((segments path).filter fun s => !isStay s, text)⟩

/-- Whether there is a directory at a place. -/
def hasDirectory (t : FileTree) (place : List String) : Bool :=
  t.files.any fun (path, _) => place.isPrefixOf path && place ≠ path

/-- Reads the file that segments lead to from a directory, or from somewhere outside of the
tree, where there are only directories above it. -/
def readFrom (t : FileTree) : Option (List String) → List String → Except FileError String
  | _, [] => .error .isDirectory
  | place, s :: rest =>
    if isStay s then t.readFrom place rest
    else if s = ".." then
      t.readFrom (place.bind fun p => if p.isEmpty then none else some p.dropLast) rest
    else if 255 < s.utf8ByteSize then .error .nameTooLong
    else
      match place with
      | none => .error .notFound
      | some place =>
        match t.files.lookup (place ++ [s]) with
        | some text => if rest.isEmpty then .ok text else .error .notDirectory
        | none =>
          if t.hasDirectory (place ++ [s]) then t.readFrom (some (place ++ [s])) rest
          else .error .notFound

/-- How many octets a path may have. -/
def longestPath : Nat := 4095

/-- Reads the file of a path, taken from the top directory of the tree. -/
def read (t : FileTree) : FileReader Id := fun path =>
  .mk <|
    if path.toList.contains '\x00' then .error .unfitName
    else if path.isEmpty then .error .notFound
    else if longestPath < path.utf8ByteSize then .error .nameTooLong
    else t.readFrom (if path.toList.head? = some '/' then none else some []) (segments path)

end FileTree

end ApiModel
