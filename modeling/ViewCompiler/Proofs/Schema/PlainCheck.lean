import ViewCompiler.Proofs.Schema.Conforms

/-!
# Checks without parts

A plain schema has no schemas inside.  Checking a value against it has one of
two outcomes: the value is accepted as it is and nothing is dropped, or there is
a failure that is about the value itself, at its own path.
-/

namespace ViewCompiler

/-- The classes of failures that come from the check of a value. -/
def FailureKind.ofChecks : List FailureKind :=
  [.missingRequired, .typeMismatch, .constraintViolation, .unionExhausted]

/-- The failure is about the value at the path. -/
structure Failure.IsAbout (failure : Failure) (path : String) (value : Value) :
    Prop where
  path_eq : failure.path = path
  message_eq : ∃ wording, failure.message = path ++ wording
  absent : failure.kind = .missingRequired →
    value.isAbsent ∧ failure.value = .null
  present : failure.kind ≠ .missingRequired →
    ¬value.isAbsent ∧ failure.value = value
  kind_mem : failure.kind ∈ FailureKind.ofChecks

/-- The value is accepted as it is, or there is a failure about it. -/
def Verdict.Plain (path : String) (value : Value) (verdict : Verdict) : Prop :=
  verdict = .unchanged value ∨
    ∃ failure, verdict = .error failure ∧ failure.IsAbout path value

theorem Verdict.Plain.isAbout {path : String} {value : Value}
    {verdict : Verdict} (hplain : Verdict.Plain path value verdict)
    {failure : Failure} (herror : verdict = .error failure) :
    failure.IsAbout path value := by
  rcases hplain with hsame | ⟨found, hfound, habout⟩
  · rw [hsame] at herror
    contradiction
  · rw [hfound, Except.error.injEq] at herror
    exact herror ▸ habout

theorem Verdict.Plain.eq_unchanged {path : String} {value : Value}
    {verdict : Verdict} (hplain : Verdict.Plain path value verdict)
    {accepted : Accepted} (hok : verdict = .ok accepted) :
    accepted = { value } := by
  rcases hplain with hsame | ⟨found, hfound, _⟩
  · rw [hsame, Verdict.unchanged, Except.ok.injEq] at hok
    exact hok.symm
  · rw [hfound] at hok
    contradiction

section Verdicts

variable {path : String} {value : Value}

theorem Verdict.unchanged_plain :
    Verdict.Plain path value (.unchanged value) :=
  Or.inl rfl

variable (hpresent : ¬value.isAbsent)

include hpresent

theorem Failure.isAbout_of_present {failure : Failure} {wording : String}
    (hpath : failure.path = path) (hmessage : failure.message = path ++ wording)
    (hkind : failure.kind ≠ .missingRequired)
    (hchecks : failure.kind ∈ FailureKind.ofChecks)
    (hvalue : failure.value = value) :
    failure.IsAbout path value :=
  ⟨hpath, ⟨wording, hmessage⟩, fun hmissing => absurd hmissing hkind,
    fun _ => ⟨hpresent, hvalue⟩, hchecks⟩

theorem Verdict.violation_plain {message : String} :
    Verdict.Plain path value (.violation path message value) := by
  refine Or.inr ⟨_, rfl, ?_⟩
  exact Failure.isAbout_of_present hpresent rfl (String.append_assoc ..)
    (by simp) (by simp [FailureKind.ofChecks]) rfl

theorem Verdict.mismatch_plain {kind : Kind} :
    Verdict.Plain path value (.mismatch kind value path) := by
  have hmessage : path ++ " must be " ++ kind.article ++ " " ++ kind.name ++
      ", got " ++ value.kindName =
        path ++ (" must be " ++ kind.article ++ " " ++ kind.name ++ ", got " ++
          value.kindName) := by
    simp only [String.append_assoc]
  refine Or.inr ⟨_, rfl, ?_⟩
  exact Failure.isAbout_of_present hpresent rfl hmessage (by simp)
    (by simp [FailureKind.ofChecks]) rfl

theorem Schema.exhausted_plain {messages : List String} :
    Verdict.Plain path value (Schema.exhausted messages value path) := by
  refine Or.inr ⟨_, rfl, ?_⟩
  exact Failure.isAbout_of_present hpresent rfl (String.append_assoc ..)
    (by simp) (by simp [FailureKind.ofChecks]) rfl

end Verdicts

theorem TextLimits.check_plain (limits : TextLimits)
    (text path : String) :
    Verdict.Plain path (.text text) (limits.check text path) := by
  have hpresent : ¬(Value.text text).isAbsent := by simp [Value.isAbsent]
  unfold TextLimits.check
  dsimp only
  cases limits.minLength.filter (Bound.undercut (.int text.length)) with
  | some bound => exact Verdict.violation_plain hpresent
  | none =>
      cases limits.maxLength.filter (Bound.exceeded (.int text.length)) with
      | some bound => exact Verdict.violation_plain hpresent
      | none =>
          cases limits.pattern.filter (!·.found text) with
          | some pattern => exact Verdict.violation_plain hpresent
          | none => exact Verdict.unchanged_plain

theorem NumberLimits.check_plain (limits : NumberLimits)
    (number : Number) (path : String) :
    Verdict.Plain path (.number number) (limits.check number path) := by
  have hpresent : ¬(Value.number number).isAbsent := by simp [Value.isAbsent]
  unfold NumberLimits.check
  dsimp only
  cases limits.minimum.filter (Bound.undercut number) with
  | some bound => exact Verdict.violation_plain hpresent
  | none =>
      cases limits.maximum.filter (Bound.exceeded number) with
      | some bound => exact Verdict.violation_plain hpresent
      | none =>
          cases limits.integer && !number.isWhole with
          | true => exact Verdict.violation_plain hpresent
          | false => exact Verdict.unchanged_plain

namespace Schema

theorem conformBare_plain (kind : Kind) {value : Value}
    (hpresent : ¬value.isAbsent) (path : String) :
    Verdict.Plain path value (conformBare kind value path) := by
  cases kind with
  | any => exact Verdict.unchanged_plain
  | enum => exact Verdict.violation_plain hpresent
  | union => exact exhausted_plain hpresent
  | number =>
      cases value with
      | number number =>
          simp only [conformBare]
          cases number.isNan with
          | true => exact Verdict.mismatch_plain hpresent
          | false => exact Verdict.unchanged_plain
      | _ => exact Verdict.mismatch_plain hpresent
  | array =>
      cases value with
      | list items => exact Verdict.unchanged_plain
      | tuple items => exact Verdict.unchanged_plain
      | _ => exact Verdict.mismatch_plain hpresent
  | string =>
      cases value with
      | text text => exact Verdict.unchanged_plain
      | _ => exact Verdict.mismatch_plain hpresent
  | boolean =>
      cases value with
      | bool b => exact Verdict.unchanged_plain
      | _ => exact Verdict.mismatch_plain hpresent
  | function =>
      cases value with
      | function => exact Verdict.unchanged_plain
      | _ => exact Verdict.mismatch_plain hpresent
  | object =>
      cases value with
      | record entries => exact Verdict.unchanged_plain
      | _ => exact Verdict.mismatch_plain hpresent

theorem validateArray_none_plain (size : SizeLimits)
    {rebuild : List Value → Value} {items : List Value}
    (hpresent : ¬(rebuild items).isAbsent) (path : String) :
    Verdict.Plain path (rebuild items)
      (validateArray size none rebuild items path) := by
  unfold validateArray
  cases size.breach items.length with
  | some message => exact Verdict.violation_plain hpresent
  | none => exact Verdict.unchanged_plain

theorem conform_plain {schema : Schema} (hplain : schema.isPlain)
    {value : Value} (hpresent : ¬value.isAbsent) (path : String) :
    Verdict.Plain path value (schema.conform value path) := by
  cases schema with
  | bare kind presence =>
      simp only [conform]
      exact conformBare_plain kind hpresent path
  | string presence limits =>
      cases value with
      | text text =>
          simp only [conform]
          exact limits.check_plain text path
      | _ =>
          simp only [conform]
          exact Verdict.mismatch_plain hpresent
  | number presence limits =>
      cases value with
      | number number =>
          simp only [conform]
          cases number.isNan with
          | true => exact Verdict.mismatch_plain hpresent
          | false => exact limits.check_plain number path
      | _ =>
          simp only [conform]
          exact Verdict.mismatch_plain hpresent
  | array presence items size =>
      obtain rfl : items = none := by simpa [isPlain] using hplain
      cases value with
      | list items =>
          simp only [conform]
          exact validateArray_none_plain size hpresent path
      | tuple items =>
          simp only [conform]
          exact validateArray_none_plain size hpresent path
      | _ =>
          simp only [conform]
          exact Verdict.mismatch_plain hpresent
  | object presence properties =>
      obtain rfl : properties = none := by simpa [isPlain] using hplain
      cases value with
      | record entries =>
          simp only [conform]
          exact Verdict.unchanged_plain
      | _ =>
          simp only [conform]
          exact Verdict.mismatch_plain hpresent
  | enum presence values =>
      simp only [conform]
      cases value.isMember values with
      | true => exact Verdict.unchanged_plain
      | false => exact Verdict.violation_plain hpresent
  | union presence alternatives => contradiction

end Schema

end ViewCompiler
