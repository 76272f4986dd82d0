import ViewCompiler.Json.Reader
import ViewCompiler.Proofs.General
import Mathlib.Data.List.TakeWhile

/-!
# The grammar of JSON texts

The format as a grammar over characters, apart from any way of reading it: white
space, names and numbers of any length, strings, and arrays and objects of
elements.  The names of the numbers that are not finite count as well.

Whatever is read is of the grammar.  A text that is not is therefore refused, and
the refusal calls it malformed unless an integer that is too long is met first.
-/

namespace ViewCompiler.Json

/-! ## The grammar -/

/-- Nothing but white space. -/
def IsBlank (chars : List Char) : Prop :=
  ∀ c ∈ chars, isSpace c = true

/-- One digit or more. -/
def IsDigits (chars : List Char) : Prop :=
  chars ≠ [] ∧ ∀ c ∈ chars, c.isDigit = true

/-- The integer part of a number: zero, or digits that do not start with it. -/
def IsWhole (chars : List Char) : Prop :=
  chars = ['0'] ∨ IsDigits chars ∧ chars.head? ≠ some '0'

/-- A fraction, or nothing. -/
def IsFraction (chars : List Char) : Prop :=
  chars = [] ∨ ∃ digits, IsDigits digits ∧ chars = '.' :: digits

/-- An exponent, or nothing. -/
def IsExponent (chars : List Char) : Prop :=
  chars = [] ∨ ∃ mark sign digits, (mark = 'e' ∨ mark = 'E') ∧
    (sign = [] ∨ sign = ['+'] ∨ sign = ['-']) ∧ IsDigits digits ∧
    chars = mark :: sign ++ digits

def IsNumber (chars : List Char) : Prop :=
  ∃ sign whole fraction exponent, (sign = [] ∨ sign = ['-']) ∧
    IsWhole whole ∧ IsFraction fraction ∧ IsExponent exponent ∧
    chars = sign ++ whole ++ fraction ++ exponent

def IsName (chars : List Char) : Prop :=
  String.ofList chars ∈
    ["null", "true", "false", "NaN", "Infinity", "-Infinity"]

/-- The rest of a string behind its opening quote. -/
inductive IsQuoted : List Char → Prop
  | close : IsQuoted ['"']
  | plain {c : Char} {rest : List Char} : 0x20 ≤ c.toNat → c ≠ '"' → c ≠ '\\' →
      IsQuoted rest → IsQuoted (c :: rest)
  | letter {c : Char} {rest : List Char} :
      c ∈ ['"', '\\', '/', 'b', 'f', 'n', 'r', 't'] →
      IsQuoted rest → IsQuoted ('\\' :: c :: rest)
  | code {digits rest : List Char} : digits.length = 4 →
      (∀ c ∈ digits, (hexDigit c).isSome = true) →
      IsQuoted rest → IsQuoted ('\\' :: 'u' :: digits ++ rest)

def IsString (chars : List Char) : Prop :=
  ∃ rest, chars = '"' :: rest ∧ IsQuoted rest

mutual

inductive IsValue : List Char → Prop
  | name {chars : List Char} : IsName chars → IsValue chars
  | number {chars : List Char} : IsNumber chars → IsValue chars
  | string {chars : List Char} : IsString chars → IsValue chars
  | emptyArray {blanks : List Char} : IsBlank blanks →
      IsValue ('[' :: blanks ++ [']'])
  | array {elements : List Char} : IsElements elements →
      IsValue ('[' :: elements ++ [']'])
  | emptyObject {blanks : List Char} : IsBlank blanks →
      IsValue ('\x7b' :: blanks ++ ['\x7d'])
  | object {members : List Char} : IsMembers members →
      IsValue ('\x7b' :: members ++ ['\x7d'])

/-- A value with white space around it. -/
inductive IsElement : List Char → Prop
  | padded {before value after : List Char} : IsBlank before → IsValue value →
      IsBlank after → IsElement (before ++ value ++ after)

inductive IsElements : List Char → Prop
  | last {element : List Char} : IsElement element → IsElements element
  | more {element elements : List Char} : IsElement element →
      IsElements elements → IsElements (element ++ ',' :: elements)

inductive IsMember : List Char → Prop
  | entry {before key after element : List Char} : IsBlank before →
      IsString key → IsBlank after → IsElement element →
      IsMember (before ++ key ++ after ++ ':' :: element)

inductive IsMembers : List Char → Prop
  | last {entry : List Char} : IsMember entry → IsMembers entry
  | more {entry members : List Char} : IsMember entry →
      IsMembers members → IsMembers (entry ++ ',' :: members)

end

/-- The text is one element. -/
def IsText (text : String) : Prop :=
  IsElement text.toList

/-! ## Numbers and names -/

theorem isDigits_takeWhile {chars : List Char}
    (hsome : ¬(chars.takeWhile Char.isDigit).isEmpty = true) :
    IsDigits (chars.takeWhile Char.isDigit) :=
  ⟨fun hnil => hsome (by rw [hnil]; rfl),
    List.all_eq_true.mp List.all_takeWhile⟩

theorem exists_sign_spanSign (chars : List Char) :
    ∃ sign, (sign = [] ∨ sign = ['+'] ∨ sign = ['-']) ∧
      chars = sign ++ (Decimal.spanSign chars).2 := by
  unfold Decimal.spanSign
  split
  · exact ⟨['-'], by simp, rfl⟩
  · exact ⟨['+'], by simp, rfl⟩
  · exact ⟨[], by simp, rfl⟩

theorem isExponent_of_readExponent {chars : List Char}
    (hread : (Decimal.readExponent chars).isSome = true) :
    IsExponent chars := by
  cases chars with
  | nil => exact Or.inl rfl
  | cons mark rest =>
      obtain ⟨sign, hsign, hrest⟩ := exists_sign_spanSign rest
      generalize hunsigned : (Decimal.spanSign rest).2 = unsigned at hrest
      simp only [Decimal.readExponent, Decimal.spanDigits, hunsigned] at hread
      by_cases hmark : (mark == 'e' || mark == 'E') = true
      · by_cases hdigits : ((unsigned.takeWhile Char.isDigit).isEmpty ||
            !(unsigned.dropWhile Char.isDigit).isEmpty) = true
        · rw [if_pos hmark, if_pos hdigits] at hread
          contradiction
        · rw [Bool.or_eq_true, not_or] at hdigits
          have hnone : unsigned.dropWhile Char.isDigit = [] := by
            simpa using hdigits.2
          have hall : unsigned.takeWhile Char.isDigit = unsigned := by
            have happend := List.takeWhile_append_dropWhile
              (p := Char.isDigit) (l := unsigned)
            rwa [hnone, List.append_nil] at happend
          refine Or.inr ⟨mark, sign, unsigned, by simpa using hmark, hsign,
            ?_, by rw [List.cons_append, ← hrest]⟩
          have hsome := isDigits_takeWhile hdigits.1
          rwa [hall] at hsome
      · rw [if_neg hmark] at hread
        contradiction

theorem exists_fraction_of_isNumberTail {chars : List Char}
    (htail : isNumberTail chars = true) :
    ∃ fraction exponent, IsFraction fraction ∧ IsExponent exponent ∧
      chars = fraction ++ exponent := by
  unfold isNumberTail at htail
  split at htail
  · rename_i rest
    simp only [Decimal.spanDigits, Bool.and_eq_true, Bool.not_eq_true',
      ← Bool.not_eq_true] at htail
    refine ⟨'.' :: rest.takeWhile Char.isDigit, rest.dropWhile Char.isDigit,
      Or.inr ⟨_, isDigits_takeWhile htail.1, rfl⟩,
      isExponent_of_readExponent htail.2, ?_⟩
    rw [List.cons_append, List.takeWhile_append_dropWhile]
  · exact ⟨[], chars, Or.inl rfl, isExponent_of_readExponent htail, rfl⟩

theorem isWhole_of_not_superfluous {chars : List Char}
    (hdigits : IsDigits chars)
    (hzero : ¬(chars.head? == some '0' && chars.length != 1) = true) :
    IsWhole chars := by
  by_cases hhead : chars.head? = some '0'
  · obtain ⟨rest, rfl⟩ := List.head?_eq_some_iff.mp hhead
    left
    simpa using hzero
  · exact Or.inr ⟨hdigits, hhead⟩

theorem isNumber_of_readNumber {chars : List Char} {n : Number}
    (hread : readNumber chars = some n) : IsNumber chars := by
  have hsign : ∃ sign, (sign = [] ∨ sign = ['-']) ∧ chars = sign ++
      (if chars.head? == some '-' then chars.tail else chars) := by
    cases chars with
    | nil => exact ⟨[], by simp, rfl⟩
    | cons c rest =>
        by_cases hminus : c = '-'
        · exact ⟨['-'], by simp, by simp [hminus]⟩
        · exact ⟨[], by simp, by simp [hminus]⟩
  obtain ⟨sign, hsign, hchars⟩ := hsign
  simp only [readNumber] at hread
  generalize (if chars.head? == some '-' then chars.tail else chars) =
    unsigned at hchars hread
  have hspan : unsigned =
      (Decimal.spanDigits unsigned).1 ++ (Decimal.spanDigits unsigned).2 :=
    List.takeWhile_append_dropWhile.symm
  split at hread
  · contradiction
  · rename_i haccepted
    rw [Bool.or_eq_true, Bool.or_eq_true, not_or, not_or] at haccepted
    obtain ⟨⟨hdigits, hzero⟩, htail⟩ := haccepted
    obtain ⟨fraction, exponent, hfraction, hexponent, hrest⟩ :=
      exists_fraction_of_isNumberTail (by simpa using htail)
    refine ⟨sign, (Decimal.spanDigits unsigned).1, fraction, exponent, hsign,
      isWhole_of_not_superfluous (isDigits_takeWhile hdigits) hzero,
      hfraction, hexponent, ?_⟩
    rw [List.append_assoc, ← hrest, List.append_assoc, ← hspan, ← hchars]

theorem isName_or_isNumber_of_readScalar {chars : List Char} {data : Json}
    (hread : readScalar chars = some data) :
    IsName chars ∨ IsNumber chars := by
  by_cases hname : IsName chars
  · exact Or.inl hname
  · simp only [IsName, List.mem_cons, List.not_mem_nil, or_false, not_or]
      at hname
    obtain ⟨hnull, htrue, hfalse, hnan, hinfinity, hnegative⟩ := hname
    simp only [readScalar, beq_iff_eq, hnull, htrue, hfalse, hnan, hinfinity,
      hnegative, if_false, Option.map_eq_some_iff] at hread
    obtain ⟨n, hnumber, _⟩ := hread
    exact Or.inr (isNumber_of_readNumber hnumber)

/-! ## Strings -/

theorem mem_of_unescape {c plain : Char} (hescape : unescape c = some plain) :
    c ∈ ['"', '\\', '/', 'b', 'f', 'n', 'r', 't'] := by
  by_cases hmem : c ∈ ['"', '\\', '/', 'b', 'f', 'n', 'r', 't']
  · exact hmem
  · simp only [List.mem_cons, List.not_mem_nil, or_false, not_or] at hmem
    simp [unescape, hmem] at hescape

theorem isSome_of_hexValue {a b c d : Char} {code : Nat}
    (hcode : hexValue a b c d = some code) :
    ∀ digit ∈ [a, b, c, d], (hexDigit digit).isSome = true := by
  simp only [hexValue, Option.bind_eq_bind, Option.bind_eq_some_iff] at hcode
  obtain ⟨_, ha, _, hb, _, hc, _, hd, _⟩ := hcode
  simp [ha, hb, hc, hd]

/-- A character that has been taken leaves the rest of the string to be read. -/
theorem exists_readCodes_of_map {rest after : List Char} {code : Nat}
    {codes : List Nat}
    (hmap : (readCodes rest).map (fun found => (code :: found.1, found.2)) =
      some (codes, after)) :
    ∃ codes, readCodes rest = some (codes, after) := by
  obtain ⟨⟨codes, found⟩, hfound, heq⟩ := Option.map_eq_some_iff.mp hmap
  obtain rfl : found = after := congrArg Prod.snd heq
  exact ⟨codes, hfound⟩

theorem isQuoted_of_readCodes {chars after : List Char} {codes : List Nat}
    (hread : readCodes chars = some (codes, after)) :
    ∃ rest, IsQuoted rest ∧ chars = rest ++ after := by
  fun_induction readCodes chars generalizing codes with
  | case1 => contradiction
  | case2 tail =>
      simp only [Option.some.injEq, Prod.mk.injEq] at hread
      exact ⟨['"'], .close, by rw [hread.2]; rfl⟩
  | case3 => contradiction
  | case4 a b c d tail code hcode ih =>
      obtain ⟨_, hread⟩ := exists_readCodes_of_map hread
      obtain ⟨rest, hrest, rfl⟩ := ih hread
      have hdigits : [a, b, c, d].length = 4 := rfl
      exact ⟨_, .code hdigits (isSome_of_hexValue hcode) hrest, rfl⟩
  | case5 => contradiction
  | case6 escape tail _ c hescape ih =>
      obtain ⟨_, hread⟩ := exists_readCodes_of_map hread
      obtain ⟨rest, hrest, rfl⟩ := ih hread
      exact ⟨_, .letter (mem_of_unescape hescape) hrest, rfl⟩
  | case7 => contradiction
  | case8 c tail hquote hcode hletter hprinted ih =>
      obtain ⟨_, hread⟩ := exists_readCodes_of_map hread
      obtain ⟨rest, hrest, rfl⟩ := ih hread
      have hbackslash : c ≠ '\\' := by
        rintro rfl
        cases rest with
        | nil => cases hrest
        | cons next rest => exact hletter next (rest ++ after) rfl rfl
      exact ⟨c :: rest, .plain (Nat.le_of_not_lt hprinted) hquote hbackslash
        hrest, rfl⟩

/-! ## Tokens -/

/-- The characters are those of the token. -/
def Spells (chars : List Char) : Token → Prop
  | .openArray => chars = ['[']
  | .closeArray => chars = [']']
  | .openObject => chars = ['\x7b']
  | .closeObject => chars = ['\x7d']
  | .comma => chars = [',']
  | .colon => chars = [':']
  | .string _ => IsString chars
  | .scalar _ => IsName chars ∨ IsNumber chars
  | .longInteger _ => True
  | .broken => True

theorem spells_of_punctuation {c : Char} {token : Token}
    (hpunctuation : punctuation c = some token) : Spells [c] token := by
  unfold punctuation at hpunctuation
  grind [Spells]

theorem spells_scalarToken (chars : List Char) :
    Spells chars (scalarToken chars) := by
  unfold scalarToken
  simp only
  split
  · trivial
  · split
    · rename_i data hread
      exact isName_or_isNumber_of_readScalar hread
    · trivial

theorem isBlank_of_tokens_eq_nil {chars : List Char}
    (htokens : tokens chars = []) : IsBlank chars := by
  fun_induction tokens chars with
  | case1 => simp [IsBlank]
  | case2 c rest hspace ih => exact List.forall_mem_cons.mpr ⟨hspace, ih htokens⟩
  | _ => contradiction

/-- The first token of a text, with the white space before it and what follows. -/
theorem exists_of_tokens_eq_cons {chars : List Char} {token : Token}
    {rest : List Token} (htokens : tokens chars = token :: rest) :
    ∃ blanks lexeme after, IsBlank blanks ∧ Spells lexeme token ∧
      tokens after = rest ∧ chars = blanks ++ lexeme ++ after := by
  fun_induction tokens chars with
  | case1 => contradiction
  | case2 c tail hspace ih =>
      obtain ⟨blanks, lexeme, after, hblanks, hspells, hrest, rfl⟩ := ih htokens
      exact ⟨c :: blanks, lexeme, after,
        List.forall_mem_cons.mpr ⟨hspace, hblanks⟩, hspells, hrest, rfl⟩
  | case3 c tail _ mark hmark _ =>
      obtain ⟨rfl, rfl⟩ := List.cons.inj htokens
      exact ⟨[], [c], tail, by simp [IsBlank], spells_of_punctuation hmark,
        rfl, rfl⟩
  | case4 c tail _ _ _ _ =>
      obtain ⟨rfl, rfl⟩ := List.cons.inj htokens
      exact ⟨[], c :: tail, [], by simp [IsBlank], trivial, by rw [tokens],
        by simp⟩
  | case5 c tail _ _ hquote codes after hread _ =>
      obtain ⟨rfl, rfl⟩ := List.cons.inj htokens
      obtain ⟨quoted, hquoted, rfl⟩ := isQuoted_of_readCodes hread
      obtain rfl := eq_of_beq hquote
      exact ⟨[], '"' :: quoted, after, by simp [IsBlank],
        ⟨quoted, rfl, hquoted⟩, rfl, rfl⟩
  | case6 c tail _ _ _ _ _ =>
      obtain ⟨rfl, rfl⟩ := List.cons.inj htokens
      exact ⟨[], _, _, by simp [IsBlank], spells_scalarToken _, rfl, by simp⟩
  | case7 c tail _ _ _ _ =>
      obtain ⟨rfl, rfl⟩ := List.cons.inj htokens
      exact ⟨[], c :: tail, [], by simp [IsBlank], trivial, by rw [tokens],
        by simp⟩

/-! ## Reading -/

/-- What each of the three readers has taken from the front of a text. -/
structure ReadersSound (fuel : Nat) : Prop where
  value : ∀ {chars data rest},
    readValue fuel (tokens chars) = .ok (data, rest) →
    ∃ blanks value after, IsBlank blanks ∧ IsValue value ∧
      tokens after = rest ∧ chars = blanks ++ value ++ after
  items : ∀ {chars data rest},
    readItems fuel (tokens chars) = .ok (data, rest) →
    ∃ elements after, IsElements elements ∧
      tokens after = rest ∧ chars = elements ++ ']' :: after
  entries : ∀ {chars data rest},
    readEntries fuel (tokens chars) = .ok (data, rest) →
    ∃ members after, IsMembers members ∧
      tokens after = rest ∧ chars = members ++ '\x7d' :: after

section Step

variable {fuel : Nat} {chars : List Char} {rest : List Token}
  (hsound : ReadersSound fuel)

include hsound

theorem ReadersSound.value_succ {data : Json}
    (hread : readValue (fuel + 1) (tokens chars) = .ok (data, rest)) :
    ∃ blanks value after, IsBlank blanks ∧ IsValue value ∧
      tokens after = rest ∧ chars = blanks ++ value ++ after := by
  generalize htokens : tokens chars = list at hread
  unfold readValue at hread
  split at hread
  case h_2 =>
      obtain ⟨rfl, rfl⟩ := Prod.mk.inj (Except.ok.inj hread)
      obtain ⟨blanks, lexeme, after, hblanks, hname | hnumber, hrest, rfl⟩ :=
        exists_of_tokens_eq_cons htokens
      · exact ⟨blanks, lexeme, after, hblanks, .name hname, hrest, rfl⟩
      · exact ⟨blanks, lexeme, after, hblanks, .number hnumber, hrest, rfl⟩
  case h_3 =>
      obtain ⟨rfl, rfl⟩ := Prod.mk.inj (Except.ok.inj hread)
      obtain ⟨blanks, lexeme, after, hblanks, hstring, hrest, rfl⟩ :=
        exists_of_tokens_eq_cons htokens
      exact ⟨blanks, lexeme, after, hblanks, .string hstring, hrest, rfl⟩
  case h_5 =>
      obtain ⟨rfl, rfl⟩ := Prod.mk.inj (Except.ok.inj hread)
      obtain ⟨blanks, _, inner, hblanks, rfl, hinner, rfl⟩ :=
        exists_of_tokens_eq_cons htokens
      obtain ⟨between, _, after, hbetween, rfl, hrest, rfl⟩ :=
        exists_of_tokens_eq_cons hinner
      exact ⟨blanks, _, after, hblanks, .emptyArray hbetween, hrest, by simp⟩
  case h_6 =>
      rename_i steps _ _ hfuel
      obtain rfl : fuel = steps := Nat.succ.inj hfuel
      obtain ⟨blanks, _, inner, hblanks, rfl, rfl, rfl⟩ :=
        exists_of_tokens_eq_cons htokens
      obtain ⟨found, hitems, hfound⟩ := Except.map_eq_ok_iff.mp hread
      obtain ⟨rfl, rfl⟩ := Prod.mk.inj hfound
      obtain ⟨elements, after, helements, hrest, rfl⟩ := hsound.items hitems
      exact ⟨blanks, _, after, hblanks, .array helements, hrest, by simp⟩
  case h_7 =>
      obtain ⟨rfl, rfl⟩ := Prod.mk.inj (Except.ok.inj hread)
      obtain ⟨blanks, _, inner, hblanks, rfl, hinner, rfl⟩ :=
        exists_of_tokens_eq_cons htokens
      obtain ⟨between, _, after, hbetween, rfl, hrest, rfl⟩ :=
        exists_of_tokens_eq_cons hinner
      exact ⟨blanks, _, after, hblanks, .emptyObject hbetween, hrest, by simp⟩
  case h_8 =>
      rename_i steps _ _ hfuel
      obtain rfl : fuel = steps := Nat.succ.inj hfuel
      obtain ⟨blanks, _, inner, hblanks, rfl, rfl, rfl⟩ :=
        exists_of_tokens_eq_cons htokens
      obtain ⟨found, hentries, hfound⟩ := Except.map_eq_ok_iff.mp hread
      obtain ⟨rfl, rfl⟩ := Prod.mk.inj hfound
      obtain ⟨members, after, hmembers, hrest, rfl⟩ := hsound.entries hentries
      exact ⟨blanks, _, after, hblanks, .object hmembers, hrest, by simp⟩
  all_goals contradiction

/-- A value and the mark behind it are an element and that mark. -/
theorem ReadersSound.element {data : Json} {mark : Token} (c : Char)
    (hread : readValue fuel (tokens chars) = .ok (data, mark :: rest))
    (hmark : ∀ lexeme, Spells lexeme mark → lexeme = [c]) :
    ∃ element after, IsElement element ∧ tokens after = rest ∧
      chars = element ++ c :: after := by
  obtain ⟨before, value, behind, hbefore, hvalue, hbehind, rfl⟩ :=
    hsound.value hread
  obtain ⟨blanks, lexeme, after, hblanks, hspells, hrest, rfl⟩ :=
    exists_of_tokens_eq_cons hbehind
  obtain rfl := hmark lexeme hspells
  exact ⟨_, after, .padded hbefore hvalue hblanks, hrest, by simp⟩

theorem ReadersSound.items_succ {items : List Json}
    (hread : readItems (fuel + 1) (tokens chars) = .ok (items, rest)) :
    ∃ elements after, IsElements elements ∧
      tokens after = rest ∧ chars = elements ++ ']' :: after := by
  unfold readItems at hread
  split at hread
  case h_2 item tail hvalue =>
      obtain ⟨element, inner, helement, rfl, rfl⟩ :=
        hsound.element ',' hvalue fun _ hspells => hspells
      obtain ⟨found, hitems, hfound⟩ := Except.map_eq_ok_iff.mp hread
      obtain ⟨rfl, rfl⟩ := Prod.mk.inj hfound
      obtain ⟨elements, after, helements, hrest, rfl⟩ := hsound.items hitems
      exact ⟨_, after, .more helement helements, hrest, by simp⟩
  case h_3 item tail hvalue =>
      obtain ⟨rfl, rfl⟩ := Prod.mk.inj (Except.ok.inj hread)
      obtain ⟨element, after, helement, hrest, rfl⟩ :=
        hsound.element ']' hvalue fun _ hspells => hspells
      exact ⟨element, after, .last helement, hrest, rfl⟩
  all_goals contradiction

theorem ReadersSound.entries_succ {entries : List (String × Json)}
    (hread : readEntries (fuel + 1) (tokens chars) = .ok (entries, rest)) :
    ∃ members after, IsMembers members ∧
      tokens after = rest ∧ chars = members ++ '\x7d' :: after := by
  generalize htokens : tokens chars = list at hread
  unfold readEntries at hread
  split at hread
  case h_2 =>
      rename_i steps key _ hfuel
      obtain rfl : fuel = steps := Nat.succ.inj hfuel
      obtain ⟨before, name, behind, hbefore, hname, hbehind, rfl⟩ :=
        exists_of_tokens_eq_cons htokens
      obtain ⟨blanks, _, inner, hblanks, rfl, rfl, rfl⟩ :=
        exists_of_tokens_eq_cons hbehind
      split at hread
      case h_2 value tail hvalue =>
          obtain ⟨element, inner, helement, rfl, rfl⟩ :=
            hsound.element ',' hvalue fun _ hspells => hspells
          have hmember := IsMember.entry hbefore hname hblanks helement
          obtain ⟨found, hentries, hfound⟩ := Except.map_eq_ok_iff.mp hread
          obtain ⟨rfl, rfl⟩ := Prod.mk.inj hfound
          obtain ⟨members, after, hmembers, hrest, rfl⟩ :=
            hsound.entries hentries
          exact ⟨_, after, .more hmember hmembers, hrest, by simp⟩
      case h_3 value tail hvalue =>
          obtain ⟨rfl, rfl⟩ := Prod.mk.inj (Except.ok.inj hread)
          obtain ⟨element, after, helement, hrest, rfl⟩ :=
            hsound.element '\x7d' hvalue fun _ hspells => hspells
          exact ⟨_, after, .last (.entry hbefore hname hblanks helement), hrest,
            by simp⟩
      all_goals contradiction
  all_goals contradiction

end Step

theorem readersSound (fuel : Nat) : ReadersSound fuel := by
  induction fuel with
  | zero =>
      refine ⟨?_, ?_, ?_⟩
      · intro chars data rest hread
        rw [readValue] at hread
        contradiction
      · intro chars data rest hread
        rw [readItems] at hread
        contradiction
      · intro chars data rest hread
        rw [readEntries] at hread
        contradiction
  | succ fuel ih =>
      exact ⟨ih.value_succ, ih.items_succ, ih.entries_succ⟩

theorem readValue_of_read {text : String} {data : Json}
    (hread : read text = .ok data) :
    readValue (2 * (tokens text.toList).length + 2) (tokens text.toList) =
        .ok (data, []) ∧
      (tokens text.toList).any Token.isTextless = false := by
  simp only [read] at hread
  split at hread
  · contradiction
  · rename_i found hvalue
    split at hread
    · contradiction
    · rename_i htexts
      rw [hvalue, Except.ok.inj hread]
      exact ⟨rfl, Bool.eq_false_iff.mpr htexts⟩
  · contradiction

theorem isText_of_readValue {text : String} {data : Json} {fuel : Nat}
    (hread : readValue fuel (tokens text.toList) = .ok (data, [])) :
    IsText text := by
  obtain ⟨before, value, after, hbefore, hvalue, hafter, htext⟩ :=
    (readersSound fuel).value hread
  rw [IsText, htext]
  exact .padded hbefore hvalue (isBlank_of_tokens_eq_nil hafter)

theorem isText_of_read {text : String} {data : Json}
    (hread : read text = .ok data) : IsText text :=
  isText_of_readValue (readValue_of_read hread).1

/-! ## An array that is not closed behind a long integer -/

theorem getLast?_of_isValue_openArray {rest : List Char}
    (hvalue : IsValue ('[' :: rest)) : rest.getLast? = some ']' := by
  generalize hchars : '[' :: rest = chars at hvalue
  cases hvalue with
  | name hname =>
      subst hchars
      simp [IsName, ← String.toList_inj] at hname
  | number hnumber =>
      obtain ⟨sign, whole, fraction, exponent, hsign, hwhole, -, -, hsplit⟩ :=
        hnumber
      have hbracket : '['.isDigit = false := by decide
      have hdigits : IsDigits whole := by
        rcases hwhole with rfl | hwhole
        · simp [IsDigits]
        · exact hwhole.1
      obtain ⟨first, others, rfl⟩ := List.exists_cons_of_ne_nil hdigits.1
      have hfirst := hdigits.2 first List.mem_cons_self
      rcases hsign with rfl | rfl
      · obtain rfl : '[' = first := by
          simpa using congrArg List.head? (hchars.trans hsplit)
        simp [hbracket] at hfirst
      · simpa using congrArg List.head? (hchars.trans hsplit)
  | string hstring =>
      obtain ⟨quoted, rfl, -⟩ := hstring
      simp at hchars
  | emptyArray hblanks =>
      obtain rfl := (List.cons.inj hchars).2
      simp
  | array helements =>
      obtain rfl := (List.cons.inj hchars).2
      simp
  | emptyObject hblanks => simp at hchars
  | object hmembers => simp at hchars

theorem ne_of_isDigit {c d : Char} (hdigit : c.isDigit = true)
    (hother : d.isDigit = false) : c ≠ d := by
  rintro rfl
  simp [hdigit] at hother

theorem isSpace_of_isDigit {c : Char} (hdigit : c.isDigit = true) :
    isSpace c = false := by
  have hne := fun d => ne_of_isDigit (d := d) hdigit
  simp [isSpace, hne ' ' rfl, hne '\t' rfl, hne '\n' rfl, hne '\r' rfl]

theorem punctuation_of_isDigit {c : Char} (hdigit : c.isDigit = true) :
    punctuation c = none := by
  have hne := fun d => ne_of_isDigit (d := d) hdigit
  simp [punctuation, hne '[' rfl, hne ']' rfl, hne '\x7b' rfl,
    hne '\x7d' rfl, hne ',' rfl, hne ':' rfl]

section LongInteger

variable {digits : List Char} (hdigits : IsDigits digits)

include hdigits

theorem not_isText_openArray_digits :
    ¬IsText (String.ofList ('[' :: digits)) := by
  intro htext
  rw [IsText, String.toList_ofList] at htext
  generalize hchars : '[' :: digits = chars at htext
  obtain ⟨hbefore, hvalue, hafter⟩ := htext
  rename_i before value after
  obtain ⟨last, hlast⟩ :=
    Option.isSome_iff_exists.mp (List.getLast?_isSome.mpr hdigits.1)
  have hdigit := hdigits.2 last (List.mem_of_getLast? hlast)
  -- Neither end is white space, so the whole text would have to be a value.
  obtain rfl : after = [] := by
    cases hend : after.getLast? with
    | none => exact List.getLast?_eq_none_iff.mp hend
    | some c =>
        have hspace := hafter c (List.mem_of_getLast? hend)
        have hsame := congrArg List.getLast? hchars
        rw [List.getLast?_append, hend, List.getLast?_cons, hlast] at hsame
        obtain rfl : last = c := by simpa using hsame
        exact absurd hspace (by simp [isSpace_of_isDigit hdigit])
  obtain rfl : before = [] := by
    cases before with
    | nil => rfl
    | cons c rest =>
        obtain rfl : '[' = c := by simpa using congrArg List.head? hchars
        have hspace := hbefore '[' List.mem_cons_self
        simp [isSpace] at hspace
  rw [List.nil_append, List.append_nil] at hchars
  subst hchars
  rw [getLast?_of_isValue_openArray hvalue] at hlast
  obtain rfl := Option.some.inj hlast
  contradiction

theorem integerLength_of_isDigits (hhead : digits.head? ≠ some '0') :
    integerLength digits = digits.length := by
  have hsign : digits.head? ≠ some '-' := by
    intro hsign
    have hminus := hdigits.2 '-' (List.mem_of_head? hsign)
    contradiction
  simp [integerLength, Decimal.spanDigits, hsign, hhead,
    List.takeWhile_eq_self_iff.mpr hdigits.2,
    List.dropWhile_eq_nil_iff.mpr hdigits.2, startsFraction]

theorem tokens_digits (hhead : digits.head? ≠ some '0')
    (hlong : Decimal.integerDigitLimit < digits.length) :
    tokens digits = [.longInteger digits.length] := by
  obtain ⟨c, rest, rfl⟩ := List.exists_cons_of_ne_nil hdigits.1
  have hscalar : ∀ d ∈ c :: rest, isScalarChar d = true := by
    intro d hd
    simp [isScalarChar, Char.isAlphanum, hdigits.2 d hd]
  have hdigit := hdigits.2 c List.mem_cons_self
  have htake : rest.takeWhile isScalarChar = rest :=
    List.takeWhile_eq_self_iff.mpr fun d hd =>
      hscalar d (List.mem_cons_of_mem c hd)
  have hdrop : rest.dropWhile isScalarChar = [] :=
    List.dropWhile_eq_nil_iff.mpr fun d hd =>
      hscalar d (List.mem_cons_of_mem c hd)
  have htoken : scalarToken (c :: rest) = .longInteger (c :: rest).length := by
    rw [scalarToken, integerLength_of_isDigits hdigits hhead]
    exact if_pos hlong
  rw [tokens, isSpace_of_isDigit hdigit, punctuation_of_isDigit hdigit, htake,
    hdrop, hscalar c List.mem_cons_self, htoken]
  simp [ne_of_isDigit hdigit (d := '"') rfl, tokens]

theorem read_openArray_digits (hhead : digits.head? ≠ some '0')
    (hlong : Decimal.integerDigitLimit < digits.length) :
    read (String.ofList ('[' :: digits)) =
      .error (.longInteger digits.length) := by
  have htokens : tokens ('[' :: digits) =
      [.openArray, .longInteger digits.length] := by
    rw [tokens, ← tokens_digits hdigits hhead hlong]
    simp [isSpace, punctuation]
  rw [read, String.toList_ofList, htokens]
  rfl

end LongInteger

end ViewCompiler.Json
