import ViewCompiler.Proofs.Json.Quoted
import ViewCompiler.Proofs.Name
import ViewCompiler.Proofs.Output.Nesting

/-!
# Literal texts in the markup

A literal text is written in one of two ways: as it is, between quotes or as a
line of raw text, or as a JSON string between braces.  A JSON string is read back
as the text.  What is written as it is keeps the text only as far as markup does
not read it differently.

Two ways of writing are chosen between by looking at the characters of the text,
and both choices overlook some.  Between quotes markup has no escapes, but
control characters are escaped there.  In a raw line markup folds line breaks and
decodes character references, but texts with a line break or an ampersand are
written raw.
-/

namespace ViewCompiler

namespace Json

/-! ## Escaped texts -/

/-- The characters of a text inside a JSON string. -/
def escaped (text : String) : String :=
  String.ofList (text.toList.flatMap escapeChar)

theorem quote_eq_escaped (text : String) :
    quote text = "\"" ++ escaped text ++ "\"" := by
  apply String.toList_injective
  simp [quote, quoteChars, escaped]

/-- A quote, a backslash and a control character are written by several
characters, and every other one as it is. -/
theorem escapeChar_eq_or_two_le_length (c : Char) :
    (0x20 ≤ c.toNat ∧ c ≠ '"' ∧ c ≠ '\\') ∧ escapeChar c = [c] ∨
      ¬(0x20 ≤ c.toNat ∧ c ≠ '"' ∧ c ≠ '\\') ∧ 2 ≤ (escapeChar c).length := by
  rcases escapeChar_cases c with
    ⟨letter, hspecial, hescape, _⟩ | ⟨hcontrol, hescape⟩ |
      ⟨hprinted, hquote, hbackslash, hescape⟩
  · right
    refine ⟨?_, by simp [hescape]⟩
    rintro ⟨hprinted, hquote, hbackslash⟩
    rcases hspecial with hcontrol | hspecial | hspecial
    · omega
    · exact hquote hspecial
    · exact hbackslash hspecial
  · right
    refine ⟨?_, by simp [hescape]⟩
    rintro ⟨hprinted, _⟩
    omega
  · exact Or.inl ⟨⟨hprinted, hquote, hbackslash⟩, hescape⟩

private theorem length_le_flatMap_escapeChar (chars : List Char) :
    chars.length ≤ (chars.flatMap escapeChar).length := by
  induction chars with
  | nil => simp
  | cons c chars ih =>
      rw [List.flatMap_cons, List.length_append, List.length_cons]
      rcases escapeChar_eq_or_two_le_length c with ⟨_, hescape⟩ | ⟨_, hlong⟩
      · rw [hescape, List.length_singleton]
        omega
      · omega

theorem flatMap_escapeChar_eq_self_iff {chars : List Char} :
    chars.flatMap escapeChar = chars ↔
      ∀ c ∈ chars, 0x20 ≤ c.toNat ∧ c ≠ '"' ∧ c ≠ '\\' := by
  induction chars with
  | nil => simp
  | cons c chars ih =>
      rw [List.flatMap_cons, List.forall_mem_cons, ← ih]
      rcases escapeChar_eq_or_two_le_length c with
        ⟨hplain, hescape⟩ | ⟨hspecial, hlong⟩
      · rw [hescape, List.singleton_append, List.cons.injEq]
        simp only [hplain, true_and, ne_eq, not_false_eq_true]
      · have hlength := length_le_flatMap_escapeChar chars
        constructor
        · intro hself
          have hsame := congrArg List.length hself
          rw [List.length_append, List.length_cons] at hsame
          omega
        · rintro ⟨hplain, _⟩
          exact absurd hplain hspecial

theorem escaped_eq_self_iff {text : String} :
    escaped text = text ↔
      ∀ c ∈ text.toList, 0x20 ≤ c.toNat ∧ c ≠ '"' ∧ c ≠ '\\' := by
  rw [← flatMap_escapeChar_eq_self_iff, ← String.toList_inj, escaped,
    String.toList_ofList]

end Json

namespace Markup

/-! ## Attributes -/

/-- What is written for an attribute keeps a text.  In the form with quotes the
characters between them are those of the text, and in the form with braces what
stands between them is a JSON text that is read as the text. -/
structure KeepsInAttribute (key text written : String) : Prop where
  quoted : ∀ inner,
    written = key ++ "=\"" ++ inner ++ "\"" → inner = text
  coded : (∀ inner, written ≠ key ++ "=\"" ++ inner ++ "\"") →
    ∃ code, written = key ++ "=" ++ braced code ∧
      Json.read code = .ok (.text text)

theorem braced_ne_quoted (key code inner : String) :
    key ++ "=" ++ braced code ≠ key ++ "=\"" ++ inner ++ "\"" := by
  intro hsame
  have hchars := congrArg String.toList hsame
  simp [braced] at hchars

theorem isPlainString_iff {text : String} :
    isPlainString text = true ↔
      '"' ∉ text.toList ∧ '\\' ∉ text.toList := by
  simp [isPlainString]

section Attribute

variable {key text : String}
  (hhandler : ¬(Name.isEventKey key = true ∧ Name.isPath text = true))

include hhandler

theorem attributeText_of_plain (hplain : isPlainString text = true) :
    attributeText key (.text text) =
      key ++ "=\"" ++ Json.escaped text ++ "\"" := by
  have hquote : "=" ++ Json.quote text = "=\"" ++ Json.escaped text ++ "\"" := by
    apply String.toList_injective
    simp [Json.quote_eq_escaped]
  rw [← Bool.and_eq_true] at hhandler
  simp only [attributeText, PropValue.text, if_neg hhandler, if_pos hplain]
  rw [String.append_assoc, hquote]
  simp only [String.append_assoc]

theorem attributeText_of_not_plain (hplain : isPlainString text = false) :
    attributeText key (.text text) =
      key ++ "=" ++ braced (Json.quote text) := by
  rw [← Bool.and_eq_true] at hhandler
  simp only [attributeText, PropValue.text, if_neg hhandler, hplain,
    Bool.false_eq_true, if_false]

theorem keepsInAttribute_iff_of_plain (hplain : isPlainString text = true) :
    KeepsInAttribute key text (attributeText key (.text text)) ↔
      ∀ c ∈ text.toList, 0x20 ≤ c.toNat := by
  rw [attributeText_of_plain hhandler hplain]
  obtain ⟨hquote, hbackslash⟩ := isPlainString_iff.mp hplain
  constructor
  · intro hkeeps c hc
    have hself := hkeeps.quoted _ rfl
    exact (Json.escaped_eq_self_iff.mp hself c hc).1
  · intro hprinted
    have hself : Json.escaped text = text := by
      apply Json.escaped_eq_self_iff.mpr
      intro c hc
      refine ⟨hprinted c hc, ?_, ?_⟩
      · rintro rfl
        exact hquote hc
      · rintro rfl
        exact hbackslash hc
    refine ⟨?_, ?_⟩
    · intro inner hwritten
      have hchars := congrArg String.toList hwritten
      rw [← String.toList_inj, ← hself]
      simpa using hchars.symm
    · intro hnever
      exact absurd rfl (hnever _)

theorem keepsInAttribute_of_not_plain (hplain : isPlainString text = false) :
    KeepsInAttribute key text (attributeText key (.text text)) := by
  rw [attributeText_of_not_plain hhandler hplain]
  refine ⟨?_, ?_⟩
  · intro inner hwritten
    exact absurd hwritten (braced_ne_quoted key _ inner)
  · intro _
    exact ⟨_, rfl, Json.read_quote text⟩

end Attribute

/-- A literal that is no handler is written between quotes exactly if it has
neither a quote nor a backslash.  The attribute keeps it, unless it is written
between quotes and has a control character, which stands there as an escape. -/
theorem attribute_keeps_literal_iff {key text : String}
    (hhandler : ¬(Name.isEventKey key = true ∧ Name.isPath text = true)) :
    ((∃ inner, attributeText key (.text text) =
        key ++ "=\"" ++ inner ++ "\"") ↔
      '"' ∉ text.toList ∧ '\\' ∉ text.toList) ∧
    (KeepsInAttribute key text (attributeText key (.text text)) ↔
      ('"' ∉ text.toList ∧ '\\' ∉ text.toList →
        ∀ c ∈ text.toList, 0x20 ≤ c.toNat)) := by
  rw [← isPlainString_iff]
  cases hplain : isPlainString text with
  | true =>
      refine ⟨?_, ?_⟩
      · rw [attributeText_of_plain hhandler hplain]
        exact iff_of_true ⟨_, rfl⟩ rfl
      · rw [keepsInAttribute_iff_of_plain hhandler hplain]
        exact (imp_iff_right rfl).symm
  | false =>
      refine ⟨?_, ?_⟩
      · rw [attributeText_of_not_plain hhandler hplain]
        apply iff_of_false
        · rintro ⟨inner, hwritten⟩
          exact braced_ne_quoted key _ inner hwritten
        · exact Bool.false_ne_true
      · apply iff_of_true (keepsInAttribute_of_not_plain hhandler hplain)
        intro hfalse
        contradiction

/-- A text for a handler that is no path, with a quote and a line feed, is kept
by a JSON string. -/
theorem handler_text_kept :
    ¬(Name.isEventKey "onClick" = true ∧
        Name.isPath "say \"hi\"\n" = true) ∧
      KeepsInAttribute "onClick" "say \"hi\"\n"
        (attributeText "onClick" (.text "say \"hi\"\n")) := by
  have hhandler : ¬(Name.isEventKey "onClick" = true ∧
      Name.isPath "say \"hi\"\n" = true) := by
    decide +kernel
  refine ⟨hhandler, (attribute_keeps_literal_iff hhandler).2.mpr ?_⟩
  rintro ⟨hquote, _⟩
  exact absurd hquote (by decide)

/-- A line feed between quotes becomes a backslash and a letter. -/
theorem quoted_lineFeed_changed :
    ¬KeepsInAttribute "title" "a\nb"
      (attributeText "title" (.text "a\nb")) := by
  intro hkeeps
  have hinner := hkeeps.quoted "a\\nb" (by decide +kernel)
  exact absurd hinner (by decide)

/-! ## Lines of text -/

/-- The characters that end a line of code. -/
def IsLineBreak (c : Char) : Prop :=
  c = '\n' ∨ c = '\r' ∨ c = '\u2028' ∨ c = '\u2029'

/-- A text that can stand for itself between tags, as far as its ends and the
braces and angle brackets go. -/
structure RawShaped (text : String) : Prop where
  nonempty : text ≠ ""
  first : ∀ c ∈ text.toList.head?, Text.isBlank c = false
  last : ∀ c ∈ text.toList.getLast?, Text.isBlank c = false
  unbracketed : ∀ c ∈ text.toList, c ∉ ['\x7b', '\x7d', '<', '>']

/-- What a line of content denotes: raw text denotes itself, unless markup would
trim or fold it, take it for markup or decode a reference in it, and a JSON text
between braces denotes what it is read as. -/
inductive Denotes : String → String → Prop
  | raw {text : String} (hshape : RawShaped text)
      (hplain : ∀ c ∈ text.toList, ¬IsLineBreak c ∧ c ≠ '&') :
      Denotes text text
  | coded {code text : String} (hread : Json.read code = .ok (.text text)) :
      Denotes (braced code) text

theorem isRawText_iff {text : String} :
    isRawText text = true ↔ RawShaped text := by
  have hspecial : ∀ c, isTextSpecial c = true ↔
      c ∈ ['\x7b', '\x7d', '<', '>'] := by
    intro c
    simp [isTextSpecial, or_assoc]
  have hbrackets : (!text.toList.any isTextSpecial) = true ↔
      ∀ c ∈ text.toList, c ∉ ['\x7b', '\x7d', '<', '>'] := by
    simp only [Bool.not_eq_true', List.any_eq_false, hspecial]
  have hnonempty : (!text.isEmpty) = true ↔ text ≠ "" := by
    simp
  rw [isRawText, Bool.and_eq_true, Bool.and_eq_true, hnonempty, hbrackets,
    Text.isTrimmed_iff]
  constructor
  · rintro ⟨⟨hne, hfirst, hlast⟩, hplain⟩
    exact ⟨hne, hfirst, hlast, hplain⟩
  · rintro ⟨hne, hfirst, hlast, hplain⟩
    exact ⟨⟨hne, hfirst, hlast⟩, hplain⟩

theorem braced_inj {first second : String} :
    braced first = braced second ↔ first = second := by
  unfold braced
  constructor
  · intro hsame
    have hchars := congrArg String.toList hsame
    apply String.toList_injective
    simpa using hchars
  · rintro rfl
    rfl

theorem not_rawShaped_braced (code : String) : ¬RawShaped (braced code) := by
  intro hshape
  have hmem : '\x7b' ∈ (braced code).toList := by simp [braced]
  exact hshape.unbracketed _ hmem (by decide)

/-- What a JSON text between braces denotes. -/
theorem denotes_braced_iff {code value : String} :
    Denotes (braced code) value ↔ Json.read code = .ok (.text value) := by
  constructor
  · intro hdenotes
    generalize hcontent : braced code = content at hdenotes
    cases hdenotes with
    | raw hshape =>
        rw [← hcontent] at hshape
        exact absurd hshape (not_rawShaped_braced code)
    | coded hread =>
        rw [braced_inj.mp hcontent]
        exact hread
  · exact .coded

/-- What a raw text denotes. -/
theorem denotes_raw_iff {text value : String} (hshape : RawShaped text) :
    Denotes text value ↔
      value = text ∧ ∀ c ∈ text.toList, ¬IsLineBreak c ∧ c ≠ '&' := by
  constructor
  · intro hdenotes
    cases hdenotes with
    | raw _ hplain => exact ⟨rfl, hplain⟩
    | coded => exact absurd hshape (not_rawShaped_braced _)
  · rintro ⟨rfl, hplain⟩
    exact .raw hshape hplain

theorem textContent_denotes_iff (text : String) :
    (∀ value, Denotes (textContent (.text text)) value ↔ value = text) ↔
      (RawShaped text → ∀ c ∈ text.toList, ¬IsLineBreak c ∧ c ≠ '&') := by
  by_cases hraw : isRawText text = true
  · have hshape := isRawText_iff.mp hraw
    have hcontent : textContent (.text text) = text := by
      simp [textContent, PropValue.text, hraw]
    rw [hcontent]
    simp only [denotes_raw_iff hshape, and_iff_left_iff_imp]
    constructor
    · intro hdenotes _
      exact hdenotes text rfl
    · intro hplain _ _
      exact hplain hshape
  · have hcontent : textContent (.text text) = braced (Json.quote text) := by
      simp [textContent, PropValue.text, hraw]
    rw [hcontent]
    apply iff_of_true
    · intro value
      rw [denotes_braced_iff, Json.read_quote]
      simp [eq_comm]
    · intro hshape
      exact absurd (isRawText_iff.mpr hshape) hraw

/-- The text of an element is the line behind the element's first one.  It
denotes the text and nothing else, unless it is written raw and has a line break
or an ampersand. -/
theorem text_keeps_literal_iff (text : String) :
    (∀ tags tag props children depth,
      Entries.get? props "text" = some (.text text) →
        ∃ rest, nodeLines tags (.element tag props children) depth =
          ⟨depth, opener tags (.element tag props children)⟩ ::
            ⟨depth + 1, textContent (.text text)⟩ :: rest) ∧
    ((∀ value, Denotes (textContent (.text text)) value ↔ value = text) ↔
      (RawShaped text → ∀ c ∈ text.toList, ¬IsLineBreak c ∧ c ≠ '&')) := by
  refine ⟨?_, textContent_denotes_iff text⟩
  intro tags tag props children depth htext
  have hchildren := nodesLines_written tags children (depth + 1)
  rw [nodeLines, elementLines_eq tag props hchildren,
    textLines_of_text htext]
  exact ⟨_, rfl⟩

/-- A reference in a text is written as it is. -/
theorem ampersand_not_denoted :
    ¬∀ value, Denotes (textContent (.text "a &amp; b")) value ↔
      value = "a &amp; b" := by
  rw [textContent_denotes_iff]
  intro hplain
  have hshape : RawShaped "a &amp; b" :=
    isRawText_iff.mp (by decide +kernel)
  exact (hplain hshape '&' (by decide)).2 rfl

end Markup
end ViewCompiler
