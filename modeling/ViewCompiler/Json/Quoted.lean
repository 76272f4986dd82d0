import ViewCompiler.Text.Quoted

/-!
# JSON strings

Writing a text as a JSON string and reading one back.  Writing escapes the
quote, the backslash and the control characters, and leaves every other
character as it is.  Reading accepts every escape of the format, joins two
escaped surrogates, and refuses a raw control character.  A surrogate that
stands alone is no character, and a string with one has no text.
-/

namespace ViewCompiler.Json

def escapeChar (c : Char) : List Char :=
  if c == '"' then ['\\', '"']
  else if c == '\\' then ['\\', '\\']
  else if c == '\n' then ['\\', 'n']
  else if c == '\r' then ['\\', 'r']
  else if c == '\t' then ['\\', 't']
  else if c == '\x08' then ['\\', 'b']
  else if c == '\x0c' then ['\\', 'f']
  else if c.toNat < 0x20 then '\\' :: 'u' :: Text.hex 4 c.toNat
  else [c]

/-- The characters of a JSON string with its quotes. -/
def quoteChars (chars : List Char) : List Char :=
  '"' :: chars.flatMap escapeChar ++ ['"']

def quote (text : String) : String :=
  String.ofList (quoteChars text.toList)

/-- The character that a one-letter escape stands for. -/
def unescape (c : Char) : Option Char :=
  if c == '"' || c == '\\' || c == '/' then some c
  else if c == 'n' then some '\n'
  else if c == 'r' then some '\r'
  else if c == 't' then some '\t'
  else if c == 'b' then some '\x08'
  else if c == 'f' then some '\x0c'
  else none

def hexDigit (c : Char) : Option Nat :=
  if '0' ≤ c && c ≤ '9' then some (c.toNat - 48)
  else if 'a' ≤ c && c ≤ 'f' then some (c.toNat - 87)
  else if 'A' ≤ c && c ≤ 'F' then some (c.toNat - 55)
  else none

def hexValue (a b c d : Char) : Option Nat := do
  let a ← hexDigit a
  let b ← hexDigit b
  let c ← hexDigit c
  let d ← hexDigit d
  return ((a * 16 + b) * 16 + c) * 16 + d

/-- Read a JSON string whose opening quote has been passed: the codes of its
characters, a pair of escaped surrogates still being two of them, and what
follows the closing quote. -/
def readCodes : List Char → Option (List Nat × List Char)
  | [] => none
  | '"' :: rest => some ([], rest)
  | '\\' :: 'u' :: a :: b :: c :: d :: rest =>
    match hexValue a b c d with
    | none => none
    | some code => (readCodes rest).map fun found => (code :: found.1, found.2)
  | '\\' :: escape :: rest =>
    match unescape escape with
    | none => none
    | some c => (readCodes rest).map fun found => (c.toNat :: found.1, found.2)
  | c :: rest =>
    if c.toNat < 0x20 then none
    else (readCodes rest).map fun found => (c.toNat :: found.1, found.2)

def isSurrogate (code : Nat) : Bool :=
  0xD800 ≤ code && code < 0xE000

/-- The characters of a list of codes.  A high and a low surrogate in turn are
one character; any other surrogate is none. -/
def joinCodes : List Nat → Option (List Char)
  | high :: low :: rest =>
    if 0xD800 ≤ high && high < 0xDC00 && 0xDC00 ≤ low && low < 0xE000 then
      let code := 0x10000 + (high - 0xD800) * 0x400 + (low - 0xDC00)
      (joinCodes rest).map (Char.ofNat code :: ·)
    else if isSurrogate high then none
    else (joinCodes (low :: rest)).map (Char.ofNat high :: ·)
  | [code] => if isSurrogate code then none else some [Char.ofNat code]
  | [] => some []

/-- What follows a JSON string is shorter than the string. -/
theorem length_lt_of_readCodes {chars rest : List Char} {codes : List Nat}
    (h : readCodes chars = some (codes, rest)) :
    rest.length < chars.length := by
  fun_induction readCodes chars generalizing codes with
  | case1 => simp at h
  | case2 tail =>
    simp only [Option.some.injEq, Prod.mk.injEq] at h
    simp [h.2]
  | case3 => simp at h
  | case4 a b c d tail code _ ih =>
    obtain ⟨found, hfound, heq⟩ := Option.map_eq_some_iff.1 h
    have hrest : found.2 = rest := congrArg Prod.snd heq
    have hread : readCodes tail = some (found.1, rest) := by
      rw [hfound, ← hrest]
    have := ih hread
    simp only [List.length_cons]
    omega
  | case5 => simp at h
  | case6 escape tail _ c _ ih =>
    obtain ⟨found, hfound, heq⟩ := Option.map_eq_some_iff.1 h
    have hrest : found.2 = rest := congrArg Prod.snd heq
    have hread : readCodes tail = some (found.1, rest) := by
      rw [hfound, ← hrest]
    have := ih hread
    simp only [List.length_cons]
    omega
  | case7 => simp at h
  | case8 c tail _ _ _ _ ih =>
    obtain ⟨found, hfound, heq⟩ := Option.map_eq_some_iff.1 h
    have hrest : found.2 = rest := congrArg Prod.snd heq
    have hread : readCodes tail = some (found.1, rest) := by
      rw [hfound, ← hrest]
    have := ih hread
    simp only [List.length_cons]
    omega

end ViewCompiler.Json
