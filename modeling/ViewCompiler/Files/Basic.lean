import ViewCompiler.Files.Location
import ViewCompiler.Text.Utf8

/-!
# Files

Files and directories by the names on the way to them.  The working directory
is the empty path, and it is always there.  The directories above it have paths
of two dots, and the root has a path of its own, above which there is nothing.

A name has at most 255 bytes and a written location at most 4095, and neither
has a null character.  A file holds bytes.  It is read as a text with all its
line ends as they are.
-/

namespace ViewCompiler

/-- The names on the way to a file or a directory; two dots stand at most at the
start. -/
abbrev TreePath := List String

namespace TreePath

def root : TreePath := ["/"]

/-- The path leads to the working directory or to one above it. -/
def isUpward (path : TreePath) : Bool :=
  path.all (· == "..")

/-- The path leads to something in the working directory. -/
def isInside (path : TreePath) : Bool :=
  match path with
  | [] => false
  | name :: _ => name != ".." && name != "/"

def enter (path : TreePath) (name : String) : TreePath :=
  if name = ".." then
    if path = root then root
    else if path.isUpward then path ++ [name]
    else path.dropLast
  else path ++ [name]

end TreePath

inductive Content where
  | directory
  | file (bytes : ByteArray)

inductive FileFault where
  | notFound
  | alreadyExists
  | notDirectory
  | isDirectory
  | nameTooLong
  | nullCharacter
  | undecodable (fault : Utf8.Fault)
deriving DecidableEq, Repr

/-- A refused operation and the location that it was asked for. -/
structure FileError where
  fault : FileFault
  location : Location
deriving DecidableEq, Repr

def FileError.message (error : FileError) : String :=
  let path := ": " ++ Text.quoted error.location.text
  match error.fault with
  | .notFound => "[Errno 2] No such file or directory" ++ path
  | .alreadyExists => "[Errno 17] File exists" ++ path
  | .notDirectory => "[Errno 20] Not a directory" ++ path
  | .isDirectory => "[Errno 21] Is a directory" ++ path
  | .nameTooLong => "[Errno 36] File name too long" ++ path
  | .nullCharacter => "embedded null byte"
  | .undecodable fault => fault.message

structure Files where
  entries : List (TreePath × Content) := []

namespace Files

def anchorPath : Anchor → TreePath
  | .workingDirectory => []
  | .root => TreePath.root
  | .doubleRoot => TreePath.root

def at? (files : Files) (path : TreePath) : Option Content :=
  if path.isUpward || path = TreePath.root then some .directory
  else files.entries.lookup path

/-- Put something at a path, in place of what stands there. -/
def put (files : Files) (path : TreePath) (content : Content) : Files :=
  if (files.entries.lookup path).isSome then
    { entries := files.entries.map fun entry =>
        if entry.1 = path then (path, content) else entry }
  else { entries := files.entries ++ [(path, content)] }

/-- The files in the working directory and below it that hold a text, with their
texts. -/
def inside (files : Files) : List (TreePath × String) :=
  files.entries.filterMap fun (path, content) =>
    match content with
    | .file bytes =>
      if path.isInside then (String.fromUTF8? bytes).map ((path, ·)) else none
    | .directory => none

/-- The texts in the working directory and below it that are not among given
files, by their written paths and in the order of these. -/
def additions (files : Files) (given : List Location) : Entries String :=
  let others := files.inside.filter fun entry =>
    !given.any fun location => location.names == entry.1
  let written := others.map fun (path, text) => ("/".intercalate path, text)
  written.mergeSort fun a b => decide (a.1 ≤ b.1)

/-- Follow names from a path, all but the last of which have to lead to
directories. -/
def follow (files : Files) : TreePath → List String → Except FileFault TreePath
  | path, [] => .ok path
  | path, name :: rest =>
    match files.at? path with
    | some .directory =>
      if 255 < name.utf8ByteSize then .error .nameTooLong
      else follow files (path.enter name) rest
    | some (.file _) => .error .notDirectory
    | none => .error .notFound

/-- The path that a location leads to. -/
def resolve (files : Files) (location : Location) : Except FileFault TreePath :=
  if location.text.contains '\x00' then .error .nullCharacter
  else if 4095 < location.text.utf8ByteSize then .error .nameTooLong
  else follow files (anchorPath location.anchor) location.names

def isDirectory (files : Files) (location : Location) : Bool :=
  match files.resolve location with
  | .ok path =>
    match files.at? path with
    | some .directory => true
    | _ => false
  | .error _ => false

/-- The text of a file. -/
def read (files : Files) (location : Location) : Except FileError String :=
  match files.resolve location with
  | .error fault => .error ⟨fault, location⟩
  | .ok path =>
    match files.at? path with
    | none => .error ⟨.notFound, location⟩
    | some .directory => .error ⟨.isDirectory, location⟩
    | some (.file bytes) =>
      (Utf8.decode bytes).mapError fun fault => ⟨.undecodable fault, location⟩

/-- Write a text, in place of the file that is there. -/
def write (files : Files) (location : Location) (text : String) :
    Except FileError Files :=
  match files.resolve location with
  | .error fault => .error ⟨fault, location⟩
  | .ok path =>
    match files.at? path with
    | some .directory => .error ⟨.isDirectory, location⟩
    | _ => .ok (files.put path (.file text.toUTF8))

/-- Make one directory where nothing is. -/
def makeDirectory (files : Files) (location : Location) :
    Except FileError Files :=
  match files.resolve location with
  | .error fault => .error ⟨fault, location⟩
  | .ok path =>
    if (files.at? path).isSome then .error ⟨.alreadyExists, location⟩
    else .ok (files.put path .directory)

/-- Make one directory unless it is there. -/
def ensureDirectory (files : Files) (location : Location) :
    Files × Option FileError :=
  match files.makeDirectory location with
  | .ok files => (files, none)
  | .error error =>
    (files, if files.isDirectory location then none else some error)

/-- Make a directory and those on the way to it, unless they are there.  The
names are those of the location, last name first.  What was made before a
refusal stays. -/
def ensureAll (files : Files) (anchor : Anchor) :
    List String → Files × Option FileError
  | [] => files.ensureDirectory { anchor }
  | name :: above =>
    let location : Location := { anchor, names := (name :: above).reverse }
    match files.makeDirectory location with
    | .error ⟨.notFound, _⟩ =>
      match ensureAll files anchor above with
      | (files, none) => files.ensureDirectory location
      | (files, some error) => (files, some error)
    | _ => files.ensureDirectory location

def ensureDirectories (files : Files) (location : Location) :
    Files × Option FileError :=
  files.ensureAll location.anchor location.names.reverse

end Files

end ViewCompiler
