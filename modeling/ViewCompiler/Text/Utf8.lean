import ViewCompiler.Text.Quoted

/-!
# Texts as bytes

A file holds bytes, and a text is stored as its UTF-8 form.  Bytes that are no
such form are refused with the first place at which no character stands.
-/

namespace ViewCompiler.Utf8

inductive Reason where
  | invalidStart
  | invalidContinuation
  | unexpectedEnd
deriving DecidableEq, Repr

structure Fault where
  position : Nat
  bytes : List UInt8
  reason : Reason
deriving DecidableEq, Repr

def Reason.message : Reason → String
  | invalidStart => "invalid start byte"
  | invalidContinuation => "invalid continuation byte"
  | unexpectedEnd => "unexpected end of data"

def Fault.message (fault : Fault) : String :=
  let start := toString fault.position
  let place := match fault.bytes with
    | [byte] =>
      "byte 0x" ++ String.ofList (Text.hex 2 byte.toNat) ++ " in position " ++
        start
    | bytes =>
      "bytes in position " ++ start ++ "-" ++
        toString (fault.position + bytes.length - 1)
  "'utf-8' codec can't decode " ++ place ++ ": " ++ fault.reason.message

/-- The bounds of the bytes that follow a first byte; there are none if no
character starts with it. -/
def continuation? (first : UInt8) : Option (List (UInt8 × UInt8)) :=
  if first < 0x80 then some []
  else if first < 0xC2 then none
  else if first < 0xE0 then some [(0x80, 0xBF)]
  else if first < 0xF0 then
    -- no form longer than needed, and no surrogates
    let low := if first = 0xE0 then 0xA0 else 0x80
    let high := if first = 0xED then 0x9F else 0xBF
    some [(low, high), (0x80, 0xBF)]
  else if first < 0xF5 then
    -- no form longer than needed, and nothing above the last code point
    let low := if first = 0xF0 then 0x90 else 0x80
    let high := if first = 0xF4 then 0x8F else 0xBF
    some [(low, high), (0x80, 0xBF), (0x80, 0xBF)]
  else none

/-- How many bytes are within their bounds, up to the first that is not. -/
def countWithin : List (UInt8 × UInt8) → List UInt8 → Nat
  | (low, high) :: bounds, byte :: rest =>
    if low ≤ byte ∧ byte ≤ high then countWithin bounds rest + 1 else 0
  | _, _ => 0

/-- The first place, counted from a position, at which no character stands. -/
def firstFault (position : Nat) : List UInt8 → Fault
  | [] => ⟨position, [], .unexpectedEnd⟩
  | first :: rest =>
    match continuation? first with
    | none => ⟨position, [first], .invalidStart⟩
    | some bounds =>
      let count := countWithin bounds rest
      if count = bounds.length then
        firstFault (position + 1 + count) (rest.drop count)
      else
        ⟨position, first :: rest.take count,
          if count = rest.length then .unexpectedEnd
          else .invalidContinuation⟩
termination_by bytes => bytes.length
decreasing_by
  simp only [List.length_cons, List.length_drop]
  omega

def decode (bytes : ByteArray) : Except Fault String :=
  match String.fromUTF8? bytes with
  | some text => .ok text
  | none => .error (firstFault 0 bytes.toList)

end ViewCompiler.Utf8
