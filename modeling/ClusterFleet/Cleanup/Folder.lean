import ClusterFleet.Cleanup.Manifests
import ClusterFleet.Cleanup.ManifestText
import ClusterFleet.Cleanup.Template
import ClusterFleet.Text.Ranges

/-!
# Cleanup — where manifests are kept

Manifests come from a list of named texts, or from a folder of templates. Folders are a tree: a
path goes down it segment by segment, and the faults of paths are worded as the operating system
words them.
-/

namespace ClusterFleet

/-- A tree of files. A folder is there when a file stands in it. -/
structure FileTree where
  /-- The files with their paths from the top. -/
  files : List (List String × ByteArray)
  /-- The folders that are there even without a file. -/
  folders : List (List String)
  /-- The folder where paths begin that do not begin at the top. -/
  here : List String

namespace FileTree

/-! ## Faults -/

/-- Why a file cannot be read. -/
inductive Fault where
  /-- There is nothing of the name. -/
  | missing
  /-- The path goes on after a file. -/
  | notFolder
  /-- The path ends with a folder. -/
  | isFolder
  /-- A name, or the whole path, is too long. -/
  | tooLong
  /-- A name holds the character that ends names. -/
  | zero
  /-- The file is no text. -/
  | notText
  deriving DecidableEq, Repr

/-- The wording of a fault. -/
def Fault.message : Fault → String
  | .missing => "No such file or directory (os error 2)"
  | .notFolder => "Not a directory (os error 20)"
  | .isFolder => "Is a directory (os error 21)"
  | .tooLong => "File name too long (os error 36)"
  | .zero => "file name contained an unexpected NUL byte"
  | .notText => "stream did not contain valid UTF-8"

/-! ## Paths -/

/-- The greatest number of bytes of a name. -/
def maxName : Nat := 255

/-- The number of bytes that a path must stay under. -/
def maxPath : Nat := 4096

/-- The segments of a path. -/
def segments (path : String) : List String :=
  (Text.splitAt '/' path.toList).map String.ofList

/-- Whether a path begins at the top. -/
def isAbsolute (path : String) : Bool :=
  path.toList.head? = some '/'

/-- The path of a file in a folder. A file with a path from the top is not looked for there. -/
def join (folder file : String) : String :=
  if isAbsolute file then file
  else if folder.isEmpty || folder.toList.getLast? = some '/' then folder ++ file
  else folder ++ "/" ++ file

/-! ## Looking up -/

/-- Whether there is a folder at a place. -/
def hasFolder (place : List String) (t : FileTree) : Bool :=
  (place <+: t.here) || t.folders.any (fun f => place <+: f) ||
    t.files.any fun f => place ≠ f.1 && place <+: f.1

/-- The file at a place. -/
def file? (place : List String) (t : FileTree) : Option ByteArray :=
  t.files.lookup place

/-- Goes down a path from a folder. -/
def walk (t : FileTree) : List String → List String → Except Fault (List String)
  | place, [] => .ok place
  | place, name :: rest =>
    if (t.file? place).isSome then .error .notFolder
    else if name.isEmpty || name = "." then walk t place rest
    else if name = ".." then walk t place.dropLast rest
    else if maxName < name.utf8ByteSize then .error .tooLong
    else
      let next := place ++ [name]
      if (t.file? next).isSome || t.hasFolder next then walk t next rest
      else .error .missing

/-- The text of the file at a path. -/
def read (path : String) (t : FileTree) : Except Fault String :=
  if path.toList.contains '\x00' then .error .zero
  else if path.isEmpty then .error .missing
  else if maxPath ≤ path.utf8ByteSize then .error .tooLong
  else
    match t.walk (if isAbsolute path then [] else t.here) (segments path) with
    | .error fault => .error fault
    | .ok place => match t.file? place with
      | none => .error .isFolder
      | some bytes => match String.fromUTF8? bytes with
        | none => .error .notText
        | some text => .ok text

end FileTree

/-! ## Sources -/

namespace ManifestSource

/-- The manifests among named texts. -/
def ofEntries (entries : List (String × ByteArray)) : ManifestSource := fun file =>
  match entries.lookup file with
  | none => .error (.plain ("no such manifest " ++ file))
  | some bytes => Manifest.targetOfBytes bytes

/-- The templates in a folder, made into manifests for one cluster. -/
def ofFolder (t : FileTree) (folder clusterName : String) : ManifestSource := fun file =>
  let path := FileTree.join folder file
  match t.read path with
  | .error fault => .error (Failure.context ("reading manifest " ++ path) (.plain fault.message))
  | .ok text => Manifest.targetOfBytes (Template.render clusterName text).toUTF8

end ManifestSource

end ClusterFleet
