import Mathlib.Data.List.Flatten
import Mathlib.Data.List.Forall2
import Mathlib.Data.List.Induction
import Mathlib.Data.List.Nodup

/-!
# Outcomes and lists

Facts that are about no part of the program: how the steps of a computation that
may fail come to its outcome, and how lists grow.
-/

namespace Except

variable {ε α β : Type} {x : Except ε α}

theorem bind_eq_ok_iff {f : α → Except ε β} {b : β} :
    (x >>= f) = .ok b ↔ ∃ a, x = .ok a ∧ f a = .ok b := by
  cases x with
  | error e => simp [bind, Except.bind]
  | ok a => simp [bind, Except.bind]

theorem bind_eq_error_iff {f : α → Except ε β} {e : ε} :
    (x >>= f) = .error e ↔ x = .error e ∨ ∃ a, x = .ok a ∧ f a = .error e := by
  cases x with
  | error e => simp [bind, Except.bind]
  | ok a => simp [bind, Except.bind]

theorem map_eq_ok_iff {f : α → β} {b : β} :
    x.map f = .ok b ↔ ∃ a, x = .ok a ∧ f a = b := by
  cases x with
  | error e => simp [Except.map]
  | ok a => simp [Except.map]

theorem exists_eq_ok_iff_isOk : (∃ a, x = .ok a) ↔ x.isOk = true := by
  cases x with
  | error e => simp [Except.isOk, Except.toBool]
  | ok a => simp [Except.isOk, Except.toBool]

theorem toOption_eq_some_iff {a : α} : x.toOption = some a ↔ x = .ok a := by
  cases x with
  | error e => simp [Except.toOption]
  | ok a => simp [Except.toOption]

end Except

namespace List

variable {α β : Type}

/-! ## First occurrences -/

section EraseDups

variable [BEq α] [LawfulBEq α] {list : List α} {a : α}

theorem eraseDups_concat_of_mem (hmem : a ∈ list) :
    (list ++ [a]).eraseDups = list.eraseDups := by
  rw [eraseDups_append, removeAll, filter_singleton]
  simp [hmem]

theorem eraseDups_concat_of_notMem (hnew : a ∉ list) :
    (list ++ [a]).eraseDups = list.eraseDups ++ [a] := by
  rw [eraseDups_append, removeAll, filter_singleton]
  simp [hnew, eraseDups_cons]

theorem nodup_eraseDups (list : List α) : list.eraseDups.Nodup := by
  induction list using reverseRecOn with
  | nil => simp
  | append_singleton list a ih =>
      by_cases hmem : a ∈ list
      · rw [eraseDups_concat_of_mem hmem]
        exact ih
      · rw [eraseDups_concat_of_notMem hmem, nodup_append]
        refine ⟨ih, by simp, ?_⟩
        intro other hother last hlast heq
        rw [mem_singleton] at hlast
        subst last
        subst other
        exact hmem (mem_eraseDups.mp hother)

end EraseDups

/-! ## One more element -/

theorem append_subset_insert (before after : List α) (a : α) :
    before ++ after ⊆ before ++ a :: after :=
  ((sublist_cons_self a after).append_left before).subset

theorem mem_insert_of_mem_insert {before after : List α} {a b c : α}
    (hmem : c ∈ before ++ a :: after) : c = a ∨ c ∈ before ++ b :: after := by
  rcases mem_append.mp hmem with hbefore | hrest
  · exact Or.inr (mem_append_left _ hbefore)
  · rcases mem_cons.mp hrest with rfl | hafter
    · exact Or.inl rfl
    · exact Or.inr (append_subset_insert before after b
        (mem_append_right _ hafter))

/-! ## What elements give -/

/-- Leaving out elements that give something changes what is given in all. -/
theorem flatMap_filter_eq_iff {p : α → Bool} {f : α → List β}
    (hgives : ∀ x, p x = true → f x ≠ []) (list : List α) :
    list.flatMap f = (list.filter fun x => !p x).flatMap f ↔
      ∀ x ∈ list, p x = false := by
  induction list with
  | nil => simp
  | cons x rest ih =>
      cases hp : p x with
      | false => simp [hp, ih]
      | true =>
          have hsublist : ((rest.filter fun x => !p x).flatMap f).Sublist
              (rest.flatMap f) :=
            filter_sublist.flatMap f
          have hlength := hsublist.length_le
          have hpos := length_pos_iff.mpr (hgives x hp)
          have hne : f x ++ rest.flatMap f ≠
              (rest.filter fun x => !p x).flatMap f := by
            intro heq
            have hsame := congrArg List.length heq
            rw [length_append] at hsame
            omega
          simp [hp, hne]

theorem exists_of_mem_of_forall₂ {related : α → β → Prop}
    {given : List α} {found : List β} (hall : Forall₂ related given found) :
    ∀ value ∈ found, ∃ source, related source value := by
  induction hall with
  | nil => simp
  | cons hfirst _ ih => exact forall_mem_cons.mpr ⟨⟨_, hfirst⟩, ih⟩

end List
