import ViewCompiler.Expression
import Mathlib.Data.List.Basic

/-!
# Facts about names

What the analyses of programs rely on: a handler key is never a directive, a
text that is a plain path stays one when the white space around it is removed,
and the setter of a name is longer than the name, so that no name is its own
setter.
-/

namespace ViewCompiler

/-! ## White space around a path -/

namespace Text

theorem trimChars_eq_self {chars : List Char}
    (hhead : ∀ c ∈ chars.head?, isBlank c = false)
    (hlast : ∀ c ∈ chars.getLast?, isBlank c = false) :
    trimChars chars = chars := by
  have hfront : dropBlanks chars = chars := by
    cases chars with
    | nil => rfl
    | cons first rest =>
        have hfirst : isBlank first = false := hhead first (by simp)
        simp [dropBlanks, hfirst]
  have hback : dropBlanks chars.reverse = chars.reverse := by
    cases hreverse : chars.reverse with
    | nil => rfl
    | cons last rest =>
        have hmem : last ∈ chars.getLast? := by
          rw [← List.head?_reverse, hreverse]
          rfl
        have hblank : isBlank last = false := hlast last hmem
        simp [dropBlanks, hblank]
  rw [trimChars, hfront, hback, List.reverse_reverse]

theorem isBlank_head_dropBlanks (chars : List Char) :
    ∀ c ∈ (dropBlanks chars).head?, isBlank c = false := by
  intro c hc
  have hnot := List.head?_dropWhile_not isBlank chars
  rw [← dropBlanks, Option.mem_def.mp hc] at hnot
  simpa using hnot

theorem head_of_dropBlanks_eq_self {chars : List Char}
    (hself : dropBlanks chars = chars) :
    ∀ c ∈ chars.head?, isBlank c = false := by
  have hhead := isBlank_head_dropBlanks chars
  rwa [hself] at hhead

/-- A text is trimmed if it has white space at neither end. -/
theorem isTrimmed_iff {text : String} :
    isTrimmed text = true ↔
      (∀ c ∈ text.toList.head?, isBlank c = false) ∧
        ∀ c ∈ text.toList.getLast?, isBlank c = false := by
  rw [isTrimmed, beq_iff_eq, trim]
  constructor
  · intro htrim
    have hchars : trimChars text.toList = text.toList := by
      rw [← String.toList_ofList (l := trimChars text.toList), htrim]
    have hsuffix : dropBlanks text.toList <:+ text.toList :=
      List.dropWhile_suffix isBlank
    have hshorter : (trimChars text.toList).length ≤
        (dropBlanks text.toList).length := by
      have hback := (List.dropWhile_suffix isBlank
        (l := (dropBlanks text.toList).reverse)).length_le
      simpa [trimChars, dropBlanks] using hback
    have hfront : dropBlanks text.toList = text.toList := by
      apply hsuffix.eq_of_length_le
      rwa [hchars] at hshorter
    have hback : dropBlanks text.toList.reverse = text.toList.reverse := by
      rw [trimChars, hfront, List.reverse_eq_iff] at hchars
      exact hchars
    refine ⟨head_of_dropBlanks_eq_self hfront, ?_⟩
    rw [← List.head?_reverse]
    exact head_of_dropBlanks_eq_self hback
  · rintro ⟨hhead, hlast⟩
    rw [trimChars_eq_self hhead hlast, String.ofList_toList]

theorem isTrimmed_trim (text : String) : isTrimmed (trim text) = true := by
  have hback := isBlank_head_dropBlanks (dropBlanks text.toList).reverse
  -- What is left at the end starts like the text without white space in front.
  have hfront : trimChars text.toList <+: dropBlanks text.toList := by
    rw [← List.reverse_suffix, trimChars, List.reverse_reverse]
    exact List.dropWhile_suffix isBlank
  obtain ⟨dropped, hdropped⟩ := hfront
  rw [isTrimmed_iff, trim, String.toList_ofList]
  constructor
  · intro c hc
    apply isBlank_head_dropBlanks text.toList c
    rw [← hdropped, List.head?_append, Option.mem_def.mp hc]
    rfl
  · rw [trimChars, List.getLast?_reverse]
    exact hback

/-- A line feed at the end is removed, if the text starts with no white
space. -/
theorem trimChars_append_lineFeed {first : Char} {rest : List Char}
    (hfirst : isBlank first = false) :
    trimChars (first :: rest ++ ['\n']) = trimChars (first :: rest) := by
  have hfeed : isBlank '\n' = true := by decide
  simp [trimChars, dropBlanks, hfirst, hfeed]

end Text

namespace Name

theorem isPathChar_of_isStart {c : Char} (hc : isStart c = true) :
    isPathChar c = true := by
  simp only [isStart, Bool.or_eq_true] at hc
  simp only [isPathChar, Char.isAlphanum, Bool.or_eq_true]
  rcases hc with (halpha | hunderscore) | hdollar
  · simp [halpha]
  · simp [hunderscore]
  · simp [hdollar]

/-- The characters of a path lie between the dollar sign and the letter `z`. -/
theorem toNat_of_isPathChar {c : Char} (hc : isPathChar c = true) :
    36 ≤ c.toNat ∧ c.toNat ≤ 122 := by
  simp only [isPathChar, Char.isAlphanum, Char.isDigit] at hc
  delta Char.isAlpha Char.isUpper Char.isLower at hc
  simp only [Bool.or_eq_true, Bool.and_eq_true, decide_eq_true_eq, beq_iff_eq,
    UInt32.le_iff_toNat_le, ge_iff_le] at hc
  change ((((((65 ≤ c.toNat ∧ c.toNat ≤ 90) ∨ (97 ≤ c.toNat ∧ c.toNat ≤ 122)) ∨
    (48 ≤ c.toNat ∧ c.toNat ≤ 57)) ∨ c = '_') ∨ c = '$') ∨ c = '.') at hc
  rcases hc with ((hletter | rfl) | rfl) | rfl
  · omega
  · decide
  · decide
  · decide

theorem isBlank_of_isPathChar {c : Char} (hc : isPathChar c = true) :
    Text.isBlank c = false := by
  have hcode := toNat_of_isPathChar hc
  simp only [Text.isBlank, Bool.or_eq_false_iff, Bool.and_eq_false_iff,
    decide_eq_false_iff_not, beq_eq_false_iff_ne]
  omega

theorem ne_lineFeed_of_isPathChar {c : Char} (hc : isPathChar c = true) :
    c ≠ '\n' := by
  rintro rfl
  exact absurd hc (by decide)

theorem dropFinalLineFeed_eq_self {chars : List Char}
    (hchars : ∀ c ∈ chars, isPathChar c = true) :
    dropFinalLineFeed chars = chars := by
  unfold dropFinalLineFeed
  rw [if_neg]
  intro hlast
  have hmem : '\n' ∈ chars := List.mem_of_getLast? (by simpa using hlast)
  exact ne_lineFeed_of_isPathChar (hchars '\n' hmem) rfl

/-- A name is a run of the characters that may follow, with at most one line feed
behind them. -/
theorem isNameOf_cases {follows : Char → Bool} {first : Char} {rest : List Char}
    (hname : isNameOf follows (first :: rest) = true) :
    ∃ inner, (rest = inner ∨ rest = inner ++ ['\n']) ∧
      isStart first = true ∧ ∀ c ∈ inner, follows c = true := by
  simp only [isNameOf, Bool.and_eq_true, List.all_eq_true] at hname
  obtain ⟨hfirst, hrest⟩ := hname
  unfold dropFinalLineFeed at hrest
  by_cases hfeed : rest.getLast? = some '\n'
  · refine ⟨rest.dropLast, Or.inr ?_, hfirst, ?_⟩
    · exact (List.dropLast_append_getLast? '\n' hfeed).symm
    · simpa [hfeed] using hrest
  · refine ⟨rest, Or.inl rfl, hfirst, ?_⟩
    simpa [hfeed] using hrest

/-- Removing the white space around a path leaves a path. -/
theorem isPath_trim {text : String} (hpath : isPath text = true) :
    isPath (Text.trim text) = true := by
  unfold isPath at hpath ⊢
  cases hchars : text.toList with
  | nil =>
      rw [hchars] at hpath
      exact absurd hpath (by decide)
  | cons first rest =>
      rw [hchars] at hpath
      obtain ⟨inner, hrest, hfirst, hinner⟩ := isNameOf_cases hpath
      have hfirstPath := isPathChar_of_isStart hfirst
      have hfirstBlank := isBlank_of_isPathChar hfirstPath
      have hall : ∀ c ∈ first :: inner, isPathChar c = true := by
        intro c hc
        rcases List.mem_cons.mp hc with rfl | hc
        · exact hfirstPath
        · exact hinner c hc
      have hplain : Text.trimChars (first :: inner) = first :: inner := by
        apply Text.trimChars_eq_self
        · intro c hc
          exact isBlank_of_isPathChar (hall c (List.mem_of_head? hc))
        · intro c hc
          exact isBlank_of_isPathChar (hall c (List.mem_of_getLast? hc))
      have htrim : Text.trimChars (first :: rest) = first :: inner := by
        rcases hrest with rfl | rfl
        · exact hplain
        · rw [← List.cons_append, Text.trimChars_append_lineFeed hfirstBlank]
          exact hplain
      rw [Text.trim, hchars, htrim, String.toList_ofList]
      simp only [isNameOf, Bool.and_eq_true, List.all_eq_true]
      refine ⟨hfirst, ?_⟩
      rw [dropFinalLineFeed_eq_self hinner]
      exact hinner

end Name

/-- The expression that a path denotes has the root of the path, without the
white space after it. -/
theorem Expression.root_of_isPath {text : String}
    (hpath : Name.isPath text = true) :
    (Expression.of text).root = some (Name.pathRoot (Text.trim text)) := by
  simp [Expression.root, Expression.of, Name.isPath_trim hpath]

namespace Name

/-! ## Keys and setters -/

theorem isDirective_of_isEventKey {key : String}
    (hkey : isEventKey key = true) : isDirective key = false := by
  by_contra hdirective
  have hmem : key ∈ directives := by
    simpa [isDirective] using hdirective
  simp only [directives, List.mem_cons, List.not_mem_nil, or_false] at hmem
  rcases hmem with rfl | rfl | rfl
  · exact absurd hkey (by decide)
  · exact absurd hkey (by decide)
  · exact absurd hkey (by decide)

theorem raiseChar_ne_nil (c : Char) : Text.raiseChar c ≠ [] := by
  unfold Text.raiseChar
  cases hfound : Text.raiseExpansions.lookup c.toNat with
  | some codes =>
      obtain ⟨before, after, hsplit, _⟩ := List.lookup_eq_some_iff.mp hfound
      have hmem : (c.toNat, codes) ∈ Text.raiseExpansions := by
        rw [hsplit]
        simp
      have htable : ∀ entry ∈ Text.raiseExpansions, entry.2 ≠ [] := by decide
      simpa using htable _ hmem
  | none =>
      cases Text.raiseStrides.find? fun stride => stride.holds c.toNat with
      | none => simp
      | some stride => simp

theorem length_lt_setter (name : String) :
    name.length < (setter name).length := by
  have hset : "set".length = 3 := by decide
  unfold setter capitalize
  cases hchars : name.toList with
  | nil =>
      have hempty : name.length = 0 := by
        rw [← String.length_toList, hchars]
        rfl
      simp [hempty, hset]
  | cons first rest =>
      have hraised := List.length_pos_iff.mpr (raiseChar_ne_nil first)
      have hlength : name.length = rest.length + 1 := by
        rw [← String.length_toList, hchars]
        rfl
      simp only [String.length_append, String.length_ofList,
        List.length_append, hlength, hset]
      omega

/-- No name is its own setter. -/
theorem setter_ne_self (name : String) : setter name ≠ name := by
  intro heq
  have hlength := length_lt_setter name
  rw [heq] at hlength
  exact Nat.lt_irrefl _ hlength

end Name

end ViewCompiler
