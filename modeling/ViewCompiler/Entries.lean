/-!
# Named values in order

Properties, schemas, parameters and settings are named values whose order is the
order in which the names were first given.  Giving a name again changes its
value and keeps its place.
-/

namespace ViewCompiler

/-- Named values in the order of their names. -/
abbrev Entries (α : Type) := List (String × α)

namespace Entries

variable {α β : Type}

def keys (entries : Entries α) : List String :=
  entries.map Prod.fst

def values (entries : Entries α) : List α :=
  entries.map Prod.snd

/-- The value under a name. -/
def get? : Entries α → String → Option α
  | [], _ => none
  | (name, value) :: rest, key =>
    if name = key then some value else get? rest key

def has (entries : Entries α) (key : String) : Bool :=
  (get? entries key).isSome

/-- Give a name a value: in its place if it occurs, else at the end. -/
def set : Entries α → String → α → Entries α
  | [], key, value => [(key, value)]
  | (name, old) :: rest, key, value =>
    if name = key then (name, value) :: rest
    else (name, old) :: set rest key value

/-- Give each name of a list its value, one after the other. -/
def setAll (entries : Entries α) (pairs : List (String × α)) : Entries α :=
  pairs.foldl (fun result pair => set result pair.1 pair.2) entries

/-- The entries that a list of pairs describes. -/
def ofPairs (pairs : List (String × α)) : Entries α :=
  setAll [] pairs

def mapValues (f : α → β) (entries : Entries α) : Entries β :=
  entries.map fun entry => (entry.1, f entry.2)

end Entries

end ViewCompiler
