import ViewCompiler.Proofs.Entries
import ViewCompiler.Proofs.Json.Grammar
import Mathlib.Algebra.GroupWithZero.Nat
import Mathlib.Data.List.Induction

/-!
# Data that can be shown

An integer has a limit of digits where it is read, and the same limit where it is
shown.  So what is read from a text can be shown, and so can every part of it.
-/

namespace ViewCompiler

theorem Decimal.digitsValue_lt_pow {chars : List Char}
    (hdigits : ∀ c ∈ chars, c.isDigit = true) :
    digitsValue chars < 10 ^ chars.length := by
  induction chars using List.reverseRecOn with
  | nil => decide
  | append_singleton chars c ih =>
      have hvalue : digitsValue (chars ++ [c]) =
          10 * digitsValue chars + (c.toNat - 48) := by
        simp [digitsValue]
      have hdigit : c.toNat - 48 < 10 := by
        have hc := hdigits c (by simp)
        simp only [Char.isDigit, Bool.and_eq_true, decide_eq_true_eq] at hc
        have hle : c.toNat ≤ 57 := hc.2
        omega
      have hrest := ih fun d hd => hdigits d (List.mem_append_left _ hd)
      rw [hvalue, List.length_append, List.length_singleton, Nat.pow_succ]
      omega

namespace Json

@[simp] theorem isPrintable_array {items : List Json} :
    (array items).isPrintable = true ↔
      ∀ item ∈ items, item.isPrintable = true := by
  rw [isPrintable]
  induction items with
  | nil => simp [arePrintable]
  | cons item rest ih => simp [arePrintable, ih]

@[simp] theorem isPrintable_object {entries : List (String × Json)} :
    (object entries).isPrintable = true ↔
      ∀ entry ∈ entries, entry.2.isPrintable = true := by
  rw [isPrintable]
  induction entries with
  | nil => simp [haveEntriesPrintable]
  | cons entry rest ih => simp [haveEntriesPrintable, ih]

/-! ## Integers -/

theorem natAbs_lt_of_readNumber {chars : List Char} {n : Int}
    (hread : readNumber chars = some (.int n)) :
    n.natAbs < 10 ^ integerLength chars := by
  simp only [readNumber] at hread
  simp only [integerLength]
  generalize (if chars.head? == some '-' then chars.tail else chars) =
    unsigned at hread ⊢
  let whole := (Decimal.spanDigits unsigned).1
  split at hread
  · contradiction
  · rename_i haccepted
    rw [Bool.or_eq_true, Bool.or_eq_true, not_or, not_or] at haccepted
    obtain ⟨⟨-, hzero⟩, -⟩ := haccepted
    split at hread
    · rename_i htail
      have hvalue : n.natAbs = Decimal.digitsValue whole := by
        rw [← Number.int.inj (Option.some.inj hread)]
        split
        · exact Int.natAbs_neg _
        · rfl
      have hlength : (if startsFraction (Decimal.spanDigits unsigned).2 then 0
          else if whole.head? == some '0' then 1 else whole.length) =
            whole.length := by
        rw [List.isEmpty_iff.mp htail]
        by_cases hhead : whole.head? == some '0'
        · have hone : whole.length = 1 := by
            rw [Bool.and_eq_true, not_and] at hzero
            simpa using hzero hhead
          simp [startsFraction, hhead, hone]
        · simp [startsFraction, hhead]
      rw [hlength, hvalue]
      exact Decimal.digitsValue_lt_pow (List.all_eq_true.mp List.all_takeWhile)
    · obtain ⟨decimal, -, hdouble⟩ := Option.map_eq_some_iff.mp hread
      contradiction

theorem isPrintable_of_readScalar {chars : List Char} {data : Json}
    (hread : readScalar chars = some data)
    (hshort : integerLength chars ≤ Decimal.integerDigitLimit) :
    data.isPrintable = true := by
  simp only [readScalar] at hread
  iterate 6
    split at hread
    · obtain rfl := Option.some.inj hread
      rfl
  obtain ⟨n, hnumber, rfl⟩ := Option.map_eq_some_iff.mp hread
  cases n with
  | double d => rfl
  | int n =>
      rw [isPrintable, decide_eq_true_eq]
      generalize Decimal.integerDigitLimit = limit at hshort ⊢
      exact Nat.lt_of_lt_of_le (natAbs_lt_of_readNumber hnumber)
        (Nat.pow_le_pow_right (by decide) hshort)

/-! ## Texts -/

/-- The datum of the token, if it has one, can be shown. -/
def Token.IsPrintable : Token → Prop
  | scalar data => data.isPrintable = true
  | _ => True

theorem isPrintable_scalarToken (chars : List Char) :
    (scalarToken chars).IsPrintable := by
  unfold scalarToken
  simp only
  split
  · trivial
  · rename_i hshort
    split
    · rename_i data hread
      exact isPrintable_of_readScalar hread (Nat.le_of_not_lt hshort)
    · trivial

theorem isPrintable_of_punctuation {c : Char} {token : Token}
    (hpunctuation : punctuation c = some token) : token.IsPrintable := by
  unfold punctuation at hpunctuation
  grind [Token.IsPrintable]

theorem isPrintable_of_mem_tokens {chars : List Char} :
    ∀ token ∈ tokens chars, token.IsPrintable := by
  fun_induction tokens chars with
  | case1 => simp
  | case2 c rest hspace ih => exact ih
  | case3 c rest _ mark hmark ih =>
      exact List.forall_mem_cons.mpr ⟨isPrintable_of_punctuation hmark, ih⟩
  | case4 | case7 => simp [Token.IsPrintable]
  | case5 c rest _ _ _ codes after _ ih =>
      exact List.forall_mem_cons.mpr ⟨trivial, ih⟩
  | case6 c rest _ _ _ _ ih =>
      exact List.forall_mem_cons.mpr ⟨isPrintable_scalarToken _, ih⟩

/-- The three readers make data that can be shown of tokens that can be, and
leave such tokens. -/
structure ReadersPrintable (fuel : Nat) : Prop where
  value : ∀ {list data rest}, readValue fuel list = .ok (data, rest) →
    (∀ token ∈ list, token.IsPrintable) →
    data.isPrintable = true ∧ ∀ token ∈ rest, token.IsPrintable
  items : ∀ {list items rest}, readItems fuel list = .ok (items, rest) →
    (∀ token ∈ list, token.IsPrintable) →
    (∀ item ∈ items, item.isPrintable = true) ∧
      ∀ token ∈ rest, token.IsPrintable
  entries : ∀ {list entries rest},
    readEntries fuel list = .ok (entries, rest) →
    (∀ token ∈ list, token.IsPrintable) →
    (∀ entry ∈ entries, entry.2.isPrintable = true) ∧
      ∀ token ∈ rest, token.IsPrintable

section Step

variable {fuel : Nat} {list rest : List Token}
  (hreaders : ReadersPrintable fuel)
  (hlist : ∀ token ∈ list, token.IsPrintable)

include hreaders hlist

theorem ReadersPrintable.value_succ {data : Json}
    (hread : readValue (fuel + 1) list = .ok (data, rest)) :
    data.isPrintable = true ∧ ∀ token ∈ rest, token.IsPrintable := by
  unfold readValue at hread
  split at hread
  case h_2 =>
      obtain ⟨rfl, rfl⟩ := Prod.mk.inj (Except.ok.inj hread)
      exact List.forall_mem_cons.mp hlist
  case h_3 =>
      obtain ⟨rfl, rfl⟩ := Prod.mk.inj (Except.ok.inj hread)
      exact ⟨rfl, (List.forall_mem_cons.mp hlist).2⟩
  case h_5 | h_7 =>
      obtain ⟨rfl, rfl⟩ := Prod.mk.inj (Except.ok.inj hread)
      refine ⟨rfl, ?_⟩
      exact (List.forall_mem_cons.mp (List.forall_mem_cons.mp hlist).2).2
  case h_6 =>
      rename_i steps _ _ hfuel
      obtain rfl : fuel = steps := Nat.succ.inj hfuel
      obtain ⟨found, hitems, hfound⟩ := Except.map_eq_ok_iff.mp hread
      obtain ⟨rfl, rfl⟩ := Prod.mk.inj hfound
      obtain ⟨hshown, hrest⟩ :=
        hreaders.items hitems (List.forall_mem_cons.mp hlist).2
      exact ⟨isPrintable_array.mpr hshown, hrest⟩
  case h_8 =>
      rename_i steps _ _ hfuel
      obtain rfl : fuel = steps := Nat.succ.inj hfuel
      obtain ⟨found, hentries, hfound⟩ := Except.map_eq_ok_iff.mp hread
      obtain ⟨rfl, rfl⟩ := Prod.mk.inj hfound
      obtain ⟨hshown, hrest⟩ :=
        hreaders.entries hentries (List.forall_mem_cons.mp hlist).2
      refine ⟨isPrintable_object.mpr ?_, hrest⟩
      intro entry hentry
      exact hshown entry (Entries.mem_ofPairs hentry)
  all_goals contradiction

theorem ReadersPrintable.items_succ {items : List Json}
    (hread : readItems (fuel + 1) list = .ok (items, rest)) :
    (∀ item ∈ items, item.isPrintable = true) ∧
      ∀ token ∈ rest, token.IsPrintable := by
  unfold readItems at hread
  split at hread
  case h_2 item tail hvalue =>
      obtain ⟨hitem, htail⟩ := hreaders.value hvalue hlist
      obtain ⟨found, hitems, hfound⟩ := Except.map_eq_ok_iff.mp hread
      obtain ⟨rfl, rfl⟩ := Prod.mk.inj hfound
      obtain ⟨hothers, hrest⟩ :=
        hreaders.items hitems (List.forall_mem_cons.mp htail).2
      exact ⟨List.forall_mem_cons.mpr ⟨hitem, hothers⟩, hrest⟩
  case h_3 item tail hvalue =>
      obtain ⟨hitem, htail⟩ := hreaders.value hvalue hlist
      obtain ⟨rfl, rfl⟩ := Prod.mk.inj (Except.ok.inj hread)
      exact ⟨List.forall_mem_singleton.mpr hitem,
        (List.forall_mem_cons.mp htail).2⟩
  all_goals contradiction

theorem ReadersPrintable.entries_succ {entries : List (String × Json)}
    (hread : readEntries (fuel + 1) list = .ok (entries, rest)) :
    (∀ entry ∈ entries, entry.2.isPrintable = true) ∧
      ∀ token ∈ rest, token.IsPrintable := by
  unfold readEntries at hread
  split at hread
  case h_2 =>
      rename_i steps key _ hfuel
      obtain rfl : fuel = steps := Nat.succ.inj hfuel
      have hinner := (List.forall_mem_cons.mp (List.forall_mem_cons.mp hlist).2).2
      split at hread
      case h_2 value tail hvalue =>
          obtain ⟨hshown, htail⟩ := hreaders.value hvalue hinner
          obtain ⟨found, hentries, hfound⟩ := Except.map_eq_ok_iff.mp hread
          obtain ⟨rfl, rfl⟩ := Prod.mk.inj hfound
          obtain ⟨hothers, hrest⟩ :=
            hreaders.entries hentries (List.forall_mem_cons.mp htail).2
          exact ⟨List.forall_mem_cons.mpr ⟨hshown, hothers⟩, hrest⟩
      case h_3 value tail hvalue =>
          obtain ⟨hshown, htail⟩ := hreaders.value hvalue hinner
          obtain ⟨rfl, rfl⟩ := Prod.mk.inj (Except.ok.inj hread)
          exact ⟨List.forall_mem_singleton.mpr hshown,
            (List.forall_mem_cons.mp htail).2⟩
      all_goals contradiction
  all_goals contradiction

end Step

theorem readersPrintable (fuel : Nat) : ReadersPrintable fuel := by
  induction fuel with
  | zero =>
      refine ⟨?_, ?_, ?_⟩
      · intro list data rest hread
        rw [readValue] at hread
        contradiction
      · intro list data rest hread
        rw [readItems] at hread
        contradiction
      · intro list data rest hread
        rw [readEntries] at hread
        contradiction
  | succ fuel ih =>
      exact ⟨fun hread hlist => ih.value_succ hlist hread,
        fun hread hlist => ih.items_succ hlist hread,
        fun hread hlist => ih.entries_succ hlist hread⟩

/-- What is read from a text can be shown. -/
theorem isPrintable_of_read {text : String} {data : Json}
    (hread : read text = .ok data) : data.isPrintable = true := by
  obtain ⟨hvalue, -⟩ := readValue_of_read hread
  exact ((readersPrintable _).value hvalue isPrintable_of_mem_tokens).1

end Json
end ViewCompiler
