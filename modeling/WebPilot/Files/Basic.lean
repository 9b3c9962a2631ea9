import WebPilot.Files.Path
import WebPilot.Json.Basic
import WebPilot.Text.Quoted
import WebPilot.Text.Utf8
import WebPilot.Text.Blank

/-!
# Files below the working directory

The files of a session are a table from paths to contents and directories.  Every operation says
why it fails; what it leaves alone, it leaves unchanged.

A place is given by its names from the working directory.  Outside of that, only the directories
above it and the root of all paths are there; a place outside starts with double points or with a
slash, which are no names of their own.
-/

namespace WebPilot

set_option autoImplicit false

/-- What a path leads to. -/
inductive Entry where
  | file (bytes : List UInt8)
  | directory
  deriving DecidableEq, Repr

/-- Why a path cannot be used. -/
inductive FileTrouble where
  | missing
  | notDirectory
  | isDirectory
  | exists_
  | nameTooLong
  | nullByte
  deriving DecidableEq, Repr

/-- A trouble with a path. -/
structure FileFault where
  trouble : FileTrouble
  path : String
  deriving DecidableEq, Repr

namespace FileFault

/-- The fault in words. -/
def message (f : FileFault) : String :=
  let ofPath (words : String) : String := s!"{words}: {Text.Quoted.ofText f.path}"
  match f.trouble with
  | .missing => ofPath "[Errno 2] No such file or directory"
  | .exists_ => ofPath "[Errno 17] File exists"
  | .notDirectory => ofPath "[Errno 20] Not a directory"
  | .isDirectory => ofPath "[Errno 21] Is a directory"
  | .nameTooLong => ofPath "[Errno 36] File name too long"
  | .nullByte => "embedded null byte"

/-- Whether the system has refused the path; a path with a null byte never gets there. -/
def isSystem (f : FileFault) : Bool :=
  f.trouble ≠ .nullByte

end FileFault

/-- The files and directories below the working directory, by their names from there. -/
structure Files where
  entries : List (List String × Entry)
  deriving Repr, Inhabited

namespace Files

/-- No files and no directories. -/
def empty : Files := ⟨[]⟩

/-- The place of the root of all paths. -/
def root : List String := ["/"]

/-- Whether a place is the working directory, one above it, or the root. -/
def isFixed (names : List String) : Bool :=
  names = root || names.all (· = "..")

/-- What names from the working directory lead to. -/
def at? (files : Files) (names : List String) : Option Entry :=
  if isFixed names then some .directory else files.entries.lookup names

/-- The place of the directory that holds a place. -/
def above (names : List String) : List String :=
  if names = root then root
  else if names.all (· = "..") then names ++ [".."]
  else names.dropLast

/-- The place that a name leads to from another place. -/
def below (here : List String) (name : String) : List String :=
  if name = ".." then above here else here ++ [name]

/-- Where a path starts. -/
def start (path : Path) : List String :=
  if path.slashes = 0 then [] else root

/-- The longest name that a directory can hold, in bytes. -/
def maxNameBytes : Nat := 255

/-- The longest path that the system takes, in bytes. -/
def maxPathBytes : Nat := 4095

/-- Whether a text has more bytes than a limit. -/
def exceeds (limit : Nat) (text : String) : Bool :=
  decide (limit < (Text.Utf8.encode text).length)

/-- What is wrong with a path before anything is looked up. -/
def trouble? (path : Path) : Option FileTrouble :=
  if path.text.toList.contains '\x00' then some .nullByte
  else if exceeds maxPathBytes path.text then some .nameTooLong
  else none

/-- Follows names one by one from a directory. -/
def follow (files : Files) (here : List String) : List String → Except FileTrouble (List String)
  | [] => .ok here
  | name :: rest =>
    match files.at? here with
    | some .directory =>
      if exceeds maxNameBytes name then .error .nameTooLong
      else files.follow (below here name) rest
    | some (.file _) => .error .notDirectory
    | none => .error .missing

/-- The place that a path leads to. -/
def resolve (files : Files) (path : Path) : Except FileFault (List String) :=
  match trouble? path with
  | some trouble => .error ⟨trouble, path.text⟩
  | none =>
    match files.follow (start path) path.names with
    | .ok names => .ok names
    | .error trouble => .error ⟨trouble, path.text⟩

/-- What a path leads to; none if there is nothing.  Under a path with a null byte there is
nothing. -/
def find? (files : Files) (path : Path) : Except FileFault (Option Entry) :=
  match files.resolve path with
  | .ok names => .ok (files.at? names)
  | .error ⟨.missing, _⟩ => .ok none
  | .error ⟨.notDirectory, _⟩ => .ok none
  | .error ⟨.nullByte, _⟩ => .ok none
  | .error fault => .error fault

/-- The bytes of a file. -/
def read (files : Files) (path : Path) : Except FileFault (List UInt8) :=
  match files.resolve path with
  | .error fault => .error fault
  | .ok names =>
    match files.at? names with
    | some (.file bytes) => .ok bytes
    | some .directory => .error ⟨.isDirectory, path.text⟩
    | none => .error ⟨.missing, path.text⟩

/-- Sets what names lead to: in its place if there is something, at the end otherwise. -/
def set (names : List String) (entry : Entry) :
    List (List String × Entry) → List (List String × Entry)
  | [] => [(names, entry)]
  | (n, e) :: rest => if n = names then (n, entry) :: rest else (n, e) :: set names entry rest

/-- Writes a file. -/
def write (files : Files) (path : Path) (bytes : List UInt8) : Except FileFault Files :=
  match files.resolve path with
  | .error fault => .error fault
  | .ok names =>
    match files.at? names with
    | some .directory => .error ⟨.isDirectory, path.text⟩
    | _ => .ok ⟨set names (.file bytes) files.entries⟩

/-- What an operation leaves behind: the files, changed up to a fault if there is one. -/
abbrev Change := Files × Option FileFault

/-- Makes the directories that names lead through from `here`, where `walked` are the names before.
A fault is one of the whole path, or of the names up to it once a directory was made. -/
def makeFrom (files : Files) (path : Path) (made : Bool) (walked here : List String) :
    List String → Change
  | [] => (files, none)
  | name :: rest =>
    let there := below here name
    let reached : Path := ⟨path.slashes, walked ++ [name]⟩
    let refused (trouble : FileTrouble) : Change :=
      (files, some ⟨trouble, if made then reached.text else path.text⟩)
    if exceeds maxNameBytes name then refused .nameTooLong
    else match files.at? there with
      | some .directory => makeFrom files path made reached.names there rest
      | some (.file _) => refused (if made || rest.isEmpty then .exists_ else .notDirectory)
      | none => makeFrom ⟨set there .directory files.entries⟩ path true reached.names there rest

/-- Makes a directory and those above it; one that is there already is left alone. -/
def makeDirectories (files : Files) (path : Path) : Change :=
  match trouble? path with
  | some trouble => (files, some ⟨trouble, path.text⟩)
  | none => files.makeFrom path false [] (start path) path.names

/-- Makes a directory where there is nothing. -/
def makeDirectory (files : Files) (path : Path) : Except FileFault Files :=
  match files.resolve path with
  | .error fault => .error fault
  | .ok names =>
    match files.at? names with
    | some _ => .error ⟨.exists_, path.text⟩
    | none => .ok ⟨set names .directory files.entries⟩

/-- Puts a file with a content, or a new directory without one, after the directories above it. -/
def put (files : Files) (path : Path) (content : Option (List UInt8)) : Change :=
  match files.makeDirectories ⟨path.slashes, path.names.dropLast⟩ with
  | (files, some fault) => (files, some fault)
  | (files, none) =>
    let put := match content with
      | some bytes => files.write path bytes
      | none => files.makeDirectory path
    match put with
    | .ok files => (files, none)
    | .error fault => (files, some fault)

/-- The names and entries directly inside a directory. -/
def inside (files : Files) (directory : List String) : List (String × Entry) :=
  files.entries.filterMap fun (names, entry) =>
    match names.getLast? with
    | some last => if names.dropLast = directory then some (last, entry) else none
    | none => none

/-- The text of a file: its bytes read strictly, with every line break a line feed. -/
def textOf (bytes : List UInt8) : Except Text.Utf8.Fault String :=
  match Text.Utf8.decode bytes with
  | .ok s => .ok (String.ofList (Text.unifyBreaks s.toList))
  | .error fault => .error fault

/-- Whether a place lies outside of the working directory. -/
def isOutside (names : List String) : Bool :=
  names.head? = some ".." || names.head? = root.head?

/-- The files below the working directory as a value: the text of each, or its bytes as `bytes`
writes them.  Directories are left out. -/
def toJson (bytes : List UInt8 → Json) (files : Files) : Json :=
  .object (files.entries.filterMap fun (names, entry) =>
    match entry with
    | .directory => none
    | .file content =>
      if isOutside names then none else
      let body := match Text.Utf8.decode content with
        | .ok s => .text s
        | .error _ => bytes content
      some (String.intercalate "/" names, body))

end Files

end WebPilot
