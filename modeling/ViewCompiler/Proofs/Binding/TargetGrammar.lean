import ViewCompiler.Proofs.Binding.Partition
import Mathlib.Data.List.Nodup
import Mathlib.Data.List.TakeWhile

/-!
# The grammar of bind targets

A bind is meant to name its target by a simple identifier.  The scan of a
program and the markup test the text of a bind in the same way, and both accept
one text more for every simple identifier: the identifier followed by a line
feed, which then is part of the name.  Such a target differs from the name that
an expression with its text refers to, and it may stand beside the target
without the line feed.
-/

namespace ViewCompiler

namespace Name

def IsLetter (c : Char) : Prop :=
  ('A' ≤ c ∧ c ≤ 'Z') ∨ ('a' ≤ c ∧ c ≤ 'z')

def IsDigit (c : Char) : Prop :=
  '0' ≤ c ∧ c ≤ '9'

/-- The whole text is a simple identifier: a letter, an underscore or a dollar
sign, and then letters, digits and underscores. -/
def IsSimple (text : String) : Prop :=
  ∃ first rest, text.toList = first :: rest ∧
    (IsLetter first ∨ first = '_' ∨ first = '$') ∧
    ∀ c ∈ rest, IsLetter c ∨ IsDigit c ∨ c = '_'

/-- A text without its white space. -/
def spelling (text : String) : List Char :=
  text.toList.filter fun c => !Text.isBlank c

/-! ## Characters -/

theorem isAlpha_iff {c : Char} : c.isAlpha = true ↔ IsLetter c := by
  delta Char.isAlpha Char.isUpper Char.isLower
  simp only [Bool.or_eq_true, Bool.and_eq_true, decide_eq_true_eq, IsLetter,
    Char.le_def, ge_iff_le]

theorem isDigit_iff {c : Char} : c.isDigit = true ↔ IsDigit c := by
  delta Char.isDigit
  simp only [Bool.and_eq_true, decide_eq_true_eq, IsDigit, Char.le_def,
    ge_iff_le]

theorem isStart_iff {c : Char} :
    isStart c = true ↔ IsLetter c ∨ c = '_' ∨ c = '$' := by
  simp only [isStart, Bool.or_eq_true, beq_iff_eq, isAlpha_iff, or_assoc]

theorem isTargetChar_iff {c : Char} :
    isTargetChar c = true ↔ IsLetter c ∨ IsDigit c ∨ c = '_' := by
  simp only [isTargetChar, Char.isAlphanum, Bool.or_eq_true, beq_iff_eq,
    isAlpha_iff, isDigit_iff, or_assoc]

theorem isPathChar_of_isTargetChar {c : Char} (hc : isTargetChar c = true) :
    isPathChar c = true := by
  simp only [isTargetChar, Bool.or_eq_true] at hc
  simp only [isPathChar, Bool.or_eq_true]
  exact Or.inl (Or.inl hc)

private theorem ne_dot_of_isStart {c : Char} (hc : isStart c = true) :
    c ≠ '.' := by
  rintro rfl
  exact absurd hc (by decide)

private theorem ne_dot_of_isTargetChar {c : Char} (hc : isTargetChar c = true) :
    c ≠ '.' := by
  rintro rfl
  exact absurd hc (by decide)

/-! ## Simple identifiers -/

theorem isSimple_iff {text : String} :
    IsSimple text ↔
      ∃ first rest, text.toList = first :: rest ∧ isStart first = true ∧
        ∀ c ∈ rest, isTargetChar c = true := by
  simp only [IsSimple, isStart_iff, isTargetChar_iff]

theorem IsSimple.path_chars {text : String} (hsimple : IsSimple text) :
    ∀ c ∈ text.toList, isPathChar c = true := by
  obtain ⟨first, rest, htext, hfirst, hrest⟩ := isSimple_iff.mp hsimple
  intro c hc
  rw [htext] at hc
  rcases List.mem_cons.mp hc with hhead | htail
  · rw [hhead]
    exact isPathChar_of_isStart hfirst
  · exact isPathChar_of_isTargetChar (hrest c htail)

theorem IsSimple.not_blank {text : String} (hsimple : IsSimple text) :
    ∀ c ∈ text.toList, Text.isBlank c = false := by
  intro c hc
  exact isBlank_of_isPathChar (hsimple.path_chars c hc)

theorem IsSimple.ne_dot {text : String} (hsimple : IsSimple text) :
    ∀ c ∈ text.toList, c ≠ '.' := by
  obtain ⟨first, rest, htext, hfirst, hrest⟩ := isSimple_iff.mp hsimple
  intro c hc
  rw [htext] at hc
  rcases List.mem_cons.mp hc with hhead | htail
  · rw [hhead]
    exact ne_dot_of_isStart hfirst
  · exact ne_dot_of_isTargetChar (hrest c htail)

theorem IsSimple.spelling_eq {text : String} (hsimple : IsSimple text) :
    spelling text = text.toList := by
  rw [spelling, List.filter_eq_self]
  intro c hc
  simp [hsimple.not_blank c hc]

theorem IsSimple.spelling_lineFeed {name : String} (hsimple : IsSimple name) :
    spelling (name ++ "\n") = name.toList := by
  have hblank : Text.isBlank '\n' = true := by decide
  rw [← hsimple.spelling_eq]
  simp [spelling, hblank]

/-- No simple identifier ends in a line feed. -/
theorem not_isSimple_lineFeed (name : String) : ¬IsSimple (name ++ "\n") := by
  intro hsimple
  have hmem : '\n' ∈ (name ++ "\n").toList := by simp
  have hblank := hsimple.not_blank '\n' hmem
  exact absurd hblank (by decide)

theorem isTarget_of_isSimple {text : String} (hsimple : IsSimple text) :
    isTarget text = true := by
  obtain ⟨first, rest, htext, hfirst, hrest⟩ := isSimple_iff.mp hsimple
  have hdrop : dropFinalLineFeed rest = rest := by
    apply dropFinalLineFeed_eq_self
    intro c hc
    exact isPathChar_of_isTargetChar (hrest c hc)
  rw [isTarget, htext, isNameOf, hdrop, hfirst, Bool.true_and,
    List.all_eq_true]
  exact hrest

theorem isTarget_lineFeed_of_isSimple {name : String}
    (hsimple : IsSimple name) :
    isTarget (name ++ "\n") = true := by
  obtain ⟨first, rest, htext, hfirst, hrest⟩ := isSimple_iff.mp hsimple
  have hchars : (name ++ "\n").toList = first :: (rest ++ ['\n']) := by
    simp [htext]
  have hdrop : dropFinalLineFeed (rest ++ ['\n']) = rest := by
    simp [dropFinalLineFeed]
  rw [isTarget, hchars, isNameOf, hdrop, hfirst, Bool.true_and,
    List.all_eq_true]
  exact hrest

/-- The texts that are accepted as targets: the simple identifiers, and each of
them with a line feed behind it. -/
theorem isTarget_iff {text : String} :
    isTarget text = true ↔
      IsSimple text ∨ ∃ name, IsSimple name ∧ text = name ++ "\n" := by
  constructor
  · intro htarget
    cases htext : text.toList with
    | nil =>
        rw [isTarget, htext] at htarget
        exact absurd htarget (by decide)
    | cons first rest =>
        rw [isTarget, htext] at htarget
        obtain ⟨inner, hrest, hfirst, hinner⟩ := isNameOf_cases htarget
        have hsimple : IsSimple (String.ofList (first :: inner)) := by
          rw [isSimple_iff, String.toList_ofList]
          exact ⟨first, inner, rfl, hfirst, hinner⟩
        rcases hrest with hrest | hrest
        · left
          rwa [← hrest, ← htext, String.ofList_toList] at hsimple
        · right
          refine ⟨String.ofList (first :: inner), hsimple, ?_⟩
          apply String.toList_injective
          rw [htext, hrest]
          simp
  · rintro (hsimple | ⟨name, hsimple, rfl⟩)
    · exact isTarget_of_isSimple hsimple
    · exact isTarget_lineFeed_of_isSimple hsimple

/-! ## The name that a target refers to -/

theorem IsSimple.trim_eq {text : String} (hsimple : IsSimple text) :
    Text.trim text = text := by
  have htrim : Text.trimChars text.toList = text.toList := by
    apply Text.trimChars_eq_self
    · intro c hc
      exact hsimple.not_blank c (List.mem_of_head? hc)
    · intro c hc
      exact hsimple.not_blank c (List.mem_of_getLast? hc)
  rw [Text.trim, htrim, String.ofList_toList]

theorem isPath_of_isSimple {text : String} (hsimple : IsSimple text) :
    isPath text = true := by
  obtain ⟨first, rest, htext, hfirst, hrest⟩ := isSimple_iff.mp hsimple
  have hpath : ∀ c ∈ rest, isPathChar c = true := by
    intro c hc
    exact isPathChar_of_isTargetChar (hrest c hc)
  rw [isPath, htext, isNameOf, dropFinalLineFeed_eq_self hpath, hfirst,
    Bool.true_and, List.all_eq_true]
  exact hpath

theorem IsSimple.pathRoot_eq {text : String} (hsimple : IsSimple text) :
    pathRoot text = text := by
  have hall : text.toList.takeWhile (· != '.') = text.toList := by
    rw [List.takeWhile_eq_self_iff]
    intro c hc
    simpa using hsimple.ne_dot c hc
  rw [pathRoot, hall, String.ofList_toList]

theorem IsSimple.trim_lineFeed {name : String} (hsimple : IsSimple name) :
    Text.trim (name ++ "\n") = name := by
  obtain ⟨first, rest, htext, hfirst, _⟩ := isSimple_iff.mp hsimple
  have hblank : Text.isBlank first = false :=
    isBlank_of_isPathChar (isPathChar_of_isStart hfirst)
  have hchars : (name ++ "\n").toList = first :: rest ++ ['\n'] := by
    simp [htext]
  rw [Text.trim, hchars, Text.trimChars_append_lineFeed hblank, ← htext]
  exact hsimple.trim_eq

end Name

theorem Expression.root_of_isSimple {text : String}
    (hsimple : Name.IsSimple text) :
    (Expression.of text).root = some text := by
  rw [root_of_isPath (Name.isPath_of_isSimple hsimple), hsimple.trim_eq,
    hsimple.pathRoot_eq]

/-- With a line feed behind it, a simple identifier denotes what it denotes
without. -/
theorem Expression.of_lineFeed {name : String} (hsimple : Name.IsSimple name) :
    Expression.of (name ++ "\n") = Expression.of name := by
  unfold Expression.of
  rw [hsimple.trim_lineFeed, hsimple.trim_eq]

namespace Binding

/-- An element of the program has the given properties, with a bind that has the
given text as a literal or as an expression. -/
def BindsText (program : Program) (props : Props) (text : String) : Prop :=
  (∃ tag children, .element tag props children ∈ program.nodes) ∧
    (Entries.get? props "bind" = some (.literal (.text text)) ∨
      ∃ kind, Entries.get? props "bind" = some (.expression ⟨kind, text⟩))

/-- The bind targets of a program are its simple identifiers: a bind gives a
target of the scan and of the markup exactly if its text is one, every target is
the root of the expression with its text, and no two targets differ only in
white space. -/
structure SimpleTargets (program : Program) : Prop where
  scanned_iff : ∀ props text, BindsText program props text →
    ((∃ target ∈ (scan program).targets, target.name = text) ↔
      Name.IsSimple text)
  bound_iff : ∀ props text, BindsText program props text →
    (target? props = some text ↔ Name.IsSimple text)
  root_eq : ∀ target ∈ (scan program).targets,
    (Expression.of target.name).root = some target.name
  spellings_nodup :
    ((scan program).targets.map fun target =>
      Name.spelling target.name).Nodup

theorem target?_eq_some_iff {props : Props} {name : String} :
    target? props = some name ↔
      (Entries.get? props "bind").map bindContent = some (.text name) ∧
        Name.isTarget name = true := by
  unfold target?
  constructor
  · intro htarget
    split at htarget
    · rename_i text hbind
      by_cases haccepted : Name.isTarget text = true
      · rw [if_pos haccepted, Option.some.injEq] at htarget
        subst name
        exact ⟨hbind, haccepted⟩
      · simp [haccepted] at htarget
    · contradiction
  · rintro ⟨hbind, haccepted⟩
    rw [hbind]
    simp [haccepted]

theorem BindsText.bindContent_eq {program : Program} {props : Props}
    {text : String} (hbinds : BindsText program props text) :
    (Entries.get? props "bind").map bindContent = some (.text text) := by
  rcases hbinds.2 with hliteral | ⟨kind, hexpression⟩
  · rw [hliteral]
    rfl
  · rw [hexpression]
    rfl

theorem BindsText.bound_iff {program : Program} {props : Props}
    {text : String} (hbinds : BindsText program props text) :
    target? props = some text ↔ Name.isTarget text = true := by
  rw [target?_eq_some_iff]
  exact and_iff_right hbinds.bindContent_eq

/-- Every target of a scan is the text of a bind, and it is accepted. -/
theorem exists_bindsText_of_mem {program : Program} {target : BindTarget}
    (htarget : target ∈ (scan program).targets) :
    (∃ props, BindsText program props target.name) ∧
      Name.isTarget target.name = true := by
  have hname : target.name ∈ (scan program).targets.map BindTarget.name :=
    List.mem_map_of_mem htarget
  obtain ⟨node, hnode, hbound⟩ :=
    (scan_covers program).mem_targetNames_iff.mp hname
  cases node with
  | element tag props children =>
      obtain ⟨hbind, haccepted⟩ := target?_eq_some_iff.mp hbound
      refine ⟨⟨props, ⟨tag, children, hnode⟩, ?_⟩, haccepted⟩
      obtain ⟨value, hget, hcontent⟩ := Option.map_eq_some_iff.mp hbind
      cases value with
      | literal value =>
          left
          rw [hget, show value = .text target.name from hcontent]
      | expression e =>
          right
          have htext : e.text = target.name := by
            injection hcontent
          refine ⟨e.kind, ?_⟩
          rw [hget, ← htext]
  | conditional condition children => contradiction
  | loop item source children => contradiction

theorem BindsText.scanned_iff {program : Program} {props : Props}
    {text : String} (hbinds : BindsText program props text) :
    (∃ target ∈ (scan program).targets, target.name = text) ↔
      Name.isTarget text = true := by
  constructor
  · rintro ⟨target, htarget, rfl⟩
    exact (exists_bindsText_of_mem htarget).2
  · intro haccepted
    obtain ⟨tag, children, hnode⟩ := hbinds.1
    have hbound : boundTarget? (.element tag props children) = some text :=
      hbinds.bound_iff.mpr haccepted
    exact List.mem_map.mp
      ((scan_covers program).mem_targetNames_iff.mpr ⟨_, hnode, hbound⟩)

theorem exists_bindsText_iff {program : Program} {name : String}
    (haccepted : Name.isTarget name = true) :
    (∃ props, BindsText program props name) ↔
      ∃ target ∈ (scan program).targets, target.name = name := by
  constructor
  · rintro ⟨props, hbinds⟩
    exact hbinds.scanned_iff.mpr haccepted
  · rintro ⟨target, htarget, rfl⟩
    exact (exists_bindsText_of_mem htarget).1

theorem roots_eq_iff (program : Program) :
    (∀ target ∈ (scan program).targets,
        (Expression.of target.name).root = some target.name) ↔
      ∀ props name, Name.IsSimple name →
        ¬BindsText program props (name ++ "\n") := by
  constructor
  · intro hroots props name hsimple hbinds
    have haccepted := Name.isTarget_lineFeed_of_isSimple hsimple
    obtain ⟨target, htarget, hname⟩ := hbinds.scanned_iff.mpr haccepted
    have hroot := hroots target htarget
    rw [hname, Expression.of_lineFeed hsimple,
      Expression.root_of_isSimple hsimple, Option.some.injEq] at hroot
    rw [hroot] at hsimple
    exact Name.not_isSimple_lineFeed name hsimple
  · intro hfree target htarget
    obtain ⟨⟨props, hbinds⟩, haccepted⟩ := exists_bindsText_of_mem htarget
    rcases Name.isTarget_iff.mp haccepted with hsimple | ⟨name, hsimple, hname⟩
    · exact Expression.root_of_isSimple hsimple
    · rw [hname] at hbinds
      exact absurd hbinds (hfree props name hsimple)

/-- Two targets that differ only in white space are a simple identifier without
and with a line feed behind it. -/
theorem spellings_nodup_iff (program : Program) :
    ((scan program).targets.map fun target =>
        Name.spelling target.name).Nodup ↔
      ∀ name, Name.IsSimple name →
        (∃ props, BindsText program props name) →
          ∀ props, ¬BindsText program props (name ++ "\n") := by
  have hnodup := (scan_covers program).nodup_targetNames
  constructor
  · intro hspellings name hsimple hplain props hbinds
    have hfeed := Name.isTarget_lineFeed_of_isSimple hsimple
    obtain ⟨target, htarget, hname⟩ :=
      (exists_bindsText_iff (Name.isTarget_of_isSimple hsimple)).mp hplain
    obtain ⟨other, hother, hotherName⟩ := hbinds.scanned_iff.mpr hfeed
    have hsame : Name.spelling target.name = Name.spelling other.name := by
      rw [hname, hotherName, hsimple.spelling_eq, hsimple.spelling_lineFeed]
    have heq := List.inj_on_of_nodup_map hspellings htarget hother hsame
    rw [← heq, hname] at hotherName
    rw [hotherName] at hsimple
    exact Name.not_isSimple_lineFeed name hsimple
  · intro hfree
    apply List.Nodup.map_on _ hnodup.of_map
    intro target htarget other hother hsame
    apply List.inj_on_of_nodup_map hnodup htarget hother
    obtain ⟨⟨props, hbinds⟩, haccepted⟩ := exists_bindsText_of_mem htarget
    obtain ⟨⟨props', hbinds'⟩, haccepted'⟩ := exists_bindsText_of_mem hother
    rcases Name.isTarget_iff.mp haccepted with hsimple | ⟨name, hsimple, hname⟩
    · rcases Name.isTarget_iff.mp haccepted' with
        hsimple' | ⟨name', hsimple', hname'⟩
      · rw [hsimple.spelling_eq, hsimple'.spelling_eq] at hsame
        exact String.toList_injective hsame
      · rw [hname', hsimple.spelling_eq, hsimple'.spelling_lineFeed] at hsame
        have hplain := String.toList_injective hsame
        rw [hname', ← hplain] at hbinds'
        exact absurd hbinds' (hfree _ hsimple ⟨props, hbinds⟩ props')
    · rcases Name.isTarget_iff.mp haccepted' with
        hsimple' | ⟨name', hsimple', hname'⟩
      · rw [hname, hsimple.spelling_lineFeed, hsimple'.spelling_eq] at hsame
        have hplain := String.toList_injective hsame
        rw [hname, hplain] at hbinds
        exact absurd hbinds (hfree _ hsimple' ⟨props', hbinds'⟩ props)
      · rw [hname, hname', hsimple.spelling_lineFeed,
          hsimple'.spelling_lineFeed] at hsame
        rw [hname, hname', String.toList_injective hsame]

/-- A bind gives a target exactly if its text is a simple identifier, or one with
a line feed behind it; the scan and the markup agree on it.  So the targets of a
program are its simple identifiers exactly if no bind of the program has a line
feed behind one. -/
theorem targets_simple_iff (program : Program) :
    (∀ props text, BindsText program props text →
      ((∃ target ∈ (scan program).targets, target.name = text) ↔
          target? props = some text) ∧
        (target? props = some text ↔
          Name.IsSimple text ∨
            ∃ name, Name.IsSimple name ∧ text = name ++ "\n")) ∧
    (SimpleTargets program ↔
      ∀ props name, Name.IsSimple name →
        ¬BindsText program props (name ++ "\n")) := by
  refine ⟨?_, ?_, ?_⟩
  · intro props text hbinds
    rw [hbinds.scanned_iff, hbinds.bound_iff]
    exact ⟨Iff.rfl, Name.isTarget_iff⟩
  · intro htargets
    exact (roots_eq_iff program).mp htargets.root_eq
  · intro hfree
    have haccepted : ∀ props text, BindsText program props text →
        (Name.isTarget text = true ↔ Name.IsSimple text) := by
      intro props text hbinds
      rw [Name.isTarget_iff, or_iff_left]
      rintro ⟨name, hsimple, rfl⟩
      exact hfree props name hsimple hbinds
    refine ⟨?_, ?_, (roots_eq_iff program).mpr hfree, ?_⟩
    · intro props text hbinds
      rw [hbinds.scanned_iff]
      exact haccepted props text hbinds
    · intro props text hbinds
      rw [hbinds.bound_iff]
      exact haccepted props text hbinds
    · apply (spellings_nodup_iff program).mpr
      intro name hsimple _ props
      exact hfree props name hsimple

/-- An input that is bound to `n` and a line feed is bound, although a line feed
is no part of a simple identifier. -/
theorem lineFeed_target_not_simple :
    ¬SimpleTargets
      { body := [.element "Input" [("bind", .text "n\n")] []] } := by
  intro htargets
  have hbound : target? [("bind", .text "n\n")] = some "n\n" := by
    decide +kernel
  have hsimple := (htargets.bound_iff _ "n\n"
    ⟨⟨"Input", [], List.mem_singleton.mpr rfl⟩, Or.inl rfl⟩).mp hbound
  exact Name.not_isSimple_lineFeed "n" hsimple

end Binding
end ViewCompiler
