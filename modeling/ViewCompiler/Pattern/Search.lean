import ViewCompiler.Pattern.Basic

/-!
# Searching a pattern in a text

A set of places in a text is a number whose bits are the places.  Read against
one text, a pattern becomes a route: tests of a place, steps over a character,
and their combinations.  A route leads a set of places to the places where a
match from one of them may end.  A repetition collects the places that its body
leads to, again and again, until its bound is reached or nothing new is found.

A route led from the union of two sets ends at the union of their ends, so a
search starts from all places at once.
-/

namespace ViewCompiler

/-- A set of places, as the bits of a number. -/
abbrev Places := Nat

namespace Places

/-- The places below a bound that pass a test. -/
def below (bound : Nat) (test : Nat → Bool) : Places :=
  (List.range bound).foldr (fun place rest => 2 * rest + (test place).toNat) 0

def all (bound : Nat) : Places :=
  Nat.pow 2 bound - 1

/-- The places of the first set that are not in the second. -/
def without (places others : Places) : Places :=
  places ^^^ (places &&& others)

/-- The places after exactly the given number of moves. -/
def afterMoves (move : Places → Places) : Nat → Places → Places
  | 0, places => places
  | count + 1, places =>
    if places = 0 then 0 else afterMoves move count (move places)

/-- The places found so far and those after at most the given number of further
moves from the last ones. -/
def withinMoves (move : Places → Places) : Nat → Places → Places → Places
  | 0, found, _ => found
  | count + 1, found, last =>
    let fresh := (move last).without found
    if fresh = 0 then found else withinMoves move count (found ||| fresh) fresh

end Places

/-- What a pattern asks of one text. -/
inductive Route where
  /-- Be at one of the given places. -/
  | stay (allowed : Places)
  /-- Step over the character at one of the given places. -/
  | step (allowed : Places)
  | seq (first second : Route)
  | alt (left right : Route)
  /-- The body a number of times, and then up to a number of times more. -/
  | loop (least more : Nat) (body : Route)
deriving DecidableEq, Repr

/-- The places where a match from one of the given places may end. -/
def Route.lead : Route → Places → Places
  | stay allowed, places => places &&& allowed
  | step allowed, places => 2 * (places &&& allowed)
  | seq first second, places => second.lead (first.lead places)
  | alt left right, places => left.lead places ||| right.lead places
  | loop least more body, places =>
    let reached := Places.afterMoves body.lead least places
    Places.withinMoves body.lead more reached reached

namespace Regex

def isWordAt (text : Array Char) (place : Nat) : Bool :=
  text[place]?.any Text.isWord

/-- A word starts or ends at the place. -/
def isBoundary (text : Array Char) (place : Nat) : Bool :=
  (place != 0 && isWordAt text (place - 1)) != isWordAt text place

/-- A boundary of the asked kind is at the place; the empty text has none of
either kind. -/
def meetsBoundary (text : Array Char) (negated : Bool) (place : Nat) : Bool :=
  !text.isEmpty && isBoundary text place != negated

/-- The text ends at the place, or a line feed there ends it. -/
def meetsFinish (text : Array Char) (beforeLineFeed : Bool) (place : Nat) :
    Bool :=
  place == text.size ||
    (beforeLineFeed && place + 1 == text.size && text[place]? == some '\n')

/-- The route of a pattern through a text.  Moves that find a new place are at
most as many as there are places. -/
def route (text : Array Char) : Regex → Route
  | empty => .stay (Places.all (text.size + 1))
  | one set =>
    .step (Places.below text.size fun place => text[place]?.any set.holds)
  | start => .stay 1
  | finish beforeLineFeed =>
    .stay (Places.below (text.size + 1) (meetsFinish text beforeLineFeed))
  | boundary negated =>
    .stay (Places.below (text.size + 1) (meetsBoundary text negated))
  | seq first second => .seq (route text first) (route text second)
  | alt left right => .alt (route text left) (route text right)
  | loop least most body =>
    let more := match most with
      | some most => most - least
      | none => text.size + 1
    .loop least more (route text body)

end Regex

/-- Some part of the text is described by the pattern. -/
def Pattern.found (pattern : Pattern) (text : String) : Bool :=
  let chars := text.toList.toArray
  (pattern.regex.route chars).lead (Places.all (chars.size + 1)) != 0

end ViewCompiler
