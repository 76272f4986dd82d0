import ViewCompiler.Text.Blank
import ViewCompiler.Text.Word

/-!
# Patterns

A pattern describes texts: characters and classes of characters, anchors,
sequences, alternatives and repetitions.  A search asks only whether some part
of a text is described, so the order in which repetitions are tried has no
influence, and a pattern does not record it.
-/

namespace ViewCompiler

inductive ClassItem where
  | range (low high : Char)
  | digit (negated : Bool)
  | word (negated : Bool)
  | blank (negated : Bool)
deriving DecidableEq, Repr

def ClassItem.holds : ClassItem → Char → Bool
  | range low high, c => low ≤ c && c ≤ high
  | digit negated, c => Text.isDigit c != negated
  | word negated, c => Text.isWord c != negated
  | blank negated, c => Text.isBlank c != negated

/-- A character class: the characters of its parts, or all others. -/
structure CharSet where
  negated : Bool
  items : List ClassItem
deriving DecidableEq, Repr

namespace CharSet

def single (c : Char) : CharSet :=
  ⟨false, [.range c c]⟩

/-- The class of all characters but the line feed. -/
def anyInLine : CharSet :=
  ⟨true, [.range '\n' '\n']⟩

def holds (set : CharSet) (c : Char) : Bool :=
  (set.items.any fun item => item.holds c) != set.negated

end CharSet

inductive Regex where
  | empty
  /-- One character of a class. -/
  | one (set : CharSet)
  | start
  /-- The end of the text, or also the place before a line feed that ends it. -/
  | finish (beforeLineFeed : Bool)
  /-- A place between a word character and another, or every other place. -/
  | boundary (negated : Bool)
  | seq (first second : Regex)
  | alt (left right : Regex)
  /-- A number of repetitions in the given bounds. -/
  | loop (least : Nat) (most : Option Nat) (body : Regex)
deriving DecidableEq, Repr

/-- A pattern with the text that it was written as. -/
structure Pattern where
  source : String
  regex : Regex
deriving DecidableEq, Repr

end ViewCompiler
