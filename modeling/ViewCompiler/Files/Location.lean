import ViewCompiler.Value.Basic

/-!
# Locations

A location names a file or a directory by the names on the way to it.  Repeated
slashes, slashes at the end and single dots mean nothing; two dots are kept,
because what they lead to depends on the files.  Exactly two slashes at the
start are kept apart from one.
-/

namespace ViewCompiler

inductive Anchor where
  | workingDirectory
  | root
  | doubleRoot
deriving DecidableEq, Repr

def Anchor.text : Anchor → String
  | workingDirectory => ""
  | root => "/"
  | doubleRoot => "//"

structure Location where
  anchor : Anchor := .workingDirectory
  names : List String := []
deriving DecidableEq, Repr

/-- A value of the given type stands where a location is expected. -/
structure LocationFault where
  type : String
deriving DecidableEq, Repr

def LocationFault.message (fault : LocationFault) : String :=
  "expected str, bytes or os.PathLike object, not " ++ fault.type

namespace Location

def readAnchor : List Char → Anchor
  | '/' :: '/' :: '/' :: _ => .root
  | '/' :: '/' :: _ => .doubleRoot
  | '/' :: _ => .root
  | _ => .workingDirectory

def splitNames : List Char → List (List Char)
  | [] => [[]]
  | c :: rest =>
    if c = '/' then [] :: splitNames rest
    else
      match splitNames rest with
      | name :: names => (c :: name) :: names
      | [] => [[c]]

/-- The location that a text names. -/
def read (text : String) : Location :=
  { anchor := readAnchor text.toList
    names := ((splitNames text.toList).map String.ofList).filter fun name =>
      name != "" && name != "." }

/-- The location that a value names: only a text does. -/
def ofValue : Value → Except LocationFault Location
  | .text s => .ok (read s)
  | value => .error ⟨value.typeName⟩

/-- A location as it is written. -/
def text (location : Location) : String :=
  if location.anchor = .workingDirectory && location.names.isEmpty then "."
  else location.anchor.text ++ "/".intercalate location.names

/-- A location as seen from another one. -/
def join (base location : Location) : Location :=
  if location.anchor = .workingDirectory then
    { base with names := base.names ++ location.names }
  else location

end Location

end ViewCompiler
