import ViewCompiler.Json.Reader

/-!
# JSON strings are read back

A text that is written as a JSON string is read as that text, whatever follows
it: every escape that writing uses stands for the character that it was written
for.  A whole JSON text that is one written string is therefore read as the text
in it.
-/

namespace ViewCompiler.Json

/-- A character is written by a letter behind a backslash, by its code, or as it
is. -/
theorem escapeChar_cases (c : Char) :
    (∃ letter, (c.toNat < 0x20 ∨ c = '"' ∨ c = '\\') ∧
        escapeChar c = ['\\', letter] ∧ unescape letter = some c) ∨
      (c.toNat < 0x20 ∧
        escapeChar c = '\\' :: 'u' :: Text.hex 4 c.toNat) ∨
      (0x20 ≤ c.toNat ∧ c ≠ '"' ∧ c ≠ '\\' ∧ escapeChar c = [c]) := by
  by_cases hletter : c ∈ ['"', '\\', '\n', '\r', '\t', '\x08', '\x0c']
  · left
    have htable : ∀ c ∈ ['"', '\\', '\n', '\r', '\t', '\x08', '\x0c'],
        (c.toNat < 0x20 ∨ c = '"' ∨ c = '\\') ∧
          escapeChar c = ['\\', (escapeChar c).getLastD ' '] ∧
          unescape ((escapeChar c).getLastD ' ') = some c := by
      simp only [List.forall_mem_cons, List.not_mem_nil, false_implies,
        implies_true, and_true]
      decide
    exact ⟨_, htable c hletter⟩
  · right
    simp only [List.mem_cons, List.not_mem_nil, or_false, not_or] at hletter
    obtain ⟨hquote, hbackslash, hfeed, hreturn, htab, hback, hform⟩ := hletter
    have hescape : escapeChar c =
        if c.toNat < 0x20 then '\\' :: 'u' :: Text.hex 4 c.toNat else [c] := by
      simp only [escapeChar, beq_iff_eq, hquote, hbackslash, hfeed, hreturn,
        htab, hback, hform, if_false]
    by_cases hcontrol : c.toNat < 0x20
    · rw [if_pos hcontrol] at hescape
      exact Or.inl ⟨hcontrol, hescape⟩
    · rw [if_neg hcontrol] at hescape
      exact Or.inr ⟨Nat.le_of_not_lt hcontrol, hquote, hbackslash, hescape⟩

/-- The code of a control character is written in the last two digits. -/
theorem hex_eq_of_control :
    ∀ code < 0x20, Text.hex 4 code =
      ['0', '0', Nat.digitChar (code / 16), Nat.digitChar (code % 16)] := by
  decide

theorem hexValue_of_control :
    ∀ code < 0x20,
      hexValue '0' '0' (Nat.digitChar (code / 16))
        (Nat.digitChar (code % 16)) = some code := by
  decide

/-- An escaped character is read as its code, and reading goes on behind it. -/
theorem readCodes_escapeChar (c : Char) (rest : List Char) :
    readCodes (escapeChar c ++ rest) =
      (readCodes rest).map fun found => (c.toNat :: found.1, found.2) := by
  rcases escapeChar_cases c with
    ⟨letter, _, hescape, hletter⟩ | ⟨hcontrol, hescape⟩ |
      ⟨hprinted, hquote, hbackslash, hescape⟩
  · have hcode : letter ≠ 'u' := by
      rintro rfl
      have hnone : unescape 'u' = none := by decide
      rw [hnone] at hletter
      contradiction
    rw [hescape, List.cons_append, List.singleton_append, readCodes.eq_4,
      hletter]
    intro _ _ _ _ _ heq
    exact absurd heq hcode
  · rw [hescape, hex_eq_of_control _ hcontrol]
    simp only [List.cons_append, List.nil_append]
    rw [readCodes, hexValue_of_control _ hcontrol]
  · rw [hescape, List.singleton_append, readCodes.eq_5,
      if_neg (Nat.not_lt.mpr hprinted)]
    · exact hquote
    · intro _ _ _ _ _ heq
      exact absurd heq hbackslash
    · intro _ _ heq
      exact absurd heq hbackslash

theorem readCodes_escaped (chars rest : List Char) :
    readCodes (chars.flatMap escapeChar ++ '"' :: rest) =
      some (chars.map Char.toNat, rest) := by
  induction chars with
  | nil => rfl
  | cons c chars ih =>
      rw [List.flatMap_cons, List.append_assoc, readCodes_escapeChar, ih]
      rfl

/-- No character is a surrogate. -/
theorem not_surrogate (c : Char) : ¬(0xD800 ≤ c.toNat ∧ c.toNat < 0xE000) := by
  have hvalid : c.toNat < 0xD800 ∨ 0xDFFF < c.toNat ∧ c.toNat < 0x110000 :=
    c.valid
  omega

theorem joinCodes_map_toNat (chars : List Char) :
    joinCodes (chars.map Char.toNat) = some chars := by
  induction chars with
  | nil => rfl
  | cons c chars ih =>
      have hcode := not_surrogate c
      have hsingle : ¬isSurrogate c.toNat = true := by
        simpa [isSurrogate] using hcode
      cases chars with
      | nil =>
          rw [List.map_singleton, joinCodes, if_neg hsingle, Char.ofNat_toNat]
      | cons next chars =>
          have hpair : ¬(decide (0xD800 ≤ c.toNat) && decide (c.toNat < 0xDC00) &&
              decide (0xDC00 ≤ next.toNat) &&
              decide (next.toNat < 0xE000)) = true := by
            simp only [Bool.and_eq_true, decide_eq_true_eq]
            omega
          rw [List.map_cons, List.map_cons, joinCodes, if_neg hpair,
            if_neg hsingle, Char.ofNat_toNat, ← List.map_cons, ih]
          rfl

theorem tokens_quoteChars (chars : List Char) :
    tokens (quoteChars chars) = [.string (some (String.ofList chars))] := by
  have hread : readCodes (chars.flatMap escapeChar ++ ['"']) =
      some (chars.map Char.toNat, []) :=
    readCodes_escaped chars []
  have hspace : isSpace '"' = false := by decide
  have hpunctuation : punctuation '"' = none := by decide
  rw [quoteChars, List.cons_append, tokens]
  simp only [hspace, hpunctuation, Bool.false_eq_true, if_false,
    beq_self_eq_true, if_true]
  split
  · rename_i hnone
    rw [hread] at hnone
    contradiction
  · rename_i codes after hsome
    rw [hread, Option.some.injEq, Prod.mk.injEq] at hsome
    rw [← hsome.1, ← hsome.2, joinCodes_map_toNat, tokens]
    rfl

/-- A written JSON string is a JSON text, and it is read as what was written. -/
theorem read_quote (text : String) : read (quote text) = .ok (.text text) := by
  rw [read, quote, String.toList_ofList, tokens_quoteChars,
    String.ofList_toList]
  rfl

end ViewCompiler.Json
