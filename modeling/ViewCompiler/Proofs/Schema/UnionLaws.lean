import ViewCompiler.Proofs.Schema.Acceptance
import ViewCompiler.Proofs.Schema.Conformance
import Mathlib.Data.List.Forall2

/-!
# Unions as ordered searches

A union goes through its alternatives in order, up to the first one that accepts
the value or that has no verdict on it.  `settles?` says what an alternative
contributes to this search, so that a union is a search through a plain list:
a union inside a union can be written out in its place, and what comes behind
the alternative that accepts does not matter.

A value that is absent is dealt with by the union itself, and all laws leave it
out.
-/

namespace ViewCompiler

theorem Verdict.toOption_eq_of_ok_iff {verdict other : Verdict}
    (hok : ∀ accepted, verdict = .ok accepted ↔ other = .ok accepted) :
    verdict.toOption = other.toOption := by
  cases verdict with
  | ok accepted =>
      rw [(hok accepted).mp rfl]
  | error failure =>
      cases other with
      | ok accepted => exact absurd ((hok accepted).mpr rfl) (by simp)
      | error failure => rfl

namespace Schema

/-- Checking the value at the path comes to the verdict. -/
@[mk_iff]
structure Concludes (schema : Schema) (value : Value) (path : String)
    (verdict : Verdict) : Prop where
  comparable : schema.comparison? value = none
  validate_eq : schema.validate value path = verdict

/-- What ends a search at the schema: a comparison that cannot be made, or what
the value comes to if it is accepted. -/
def settles? (value : Value) (path : String) (schema : Schema) :
    Option (Except Comparison Accepted) :=
  match schema.comparison? value with
  | some comparison => some (.error comparison)
  | none => (schema.validate value path).toOption.map .ok

section Searches

variable {schema : Schema} {value : Value} {path : String}

theorem settles?_eq_ok_iff {accepted : Accepted} :
    settles? value path schema = some (.ok accepted) ↔
      Concludes schema value path (.ok accepted) := by
  rw [concludes_iff, settles?]
  cases schema.comparison? value with
  | some comparison => simp
  | none =>
      cases schema.validate value path with
      | ok found => simp [Except.toOption]
      | error failure => simp [Except.toOption]

theorem settles?_eq_none_iff :
    settles? value path schema = none ↔
      ∃ failure, Concludes schema value path (.error failure) := by
  simp only [concludes_iff, settles?]
  cases schema.comparison? value with
  | some comparison => simp
  | none =>
      cases schema.validate value path with
      | ok found => simp [Except.toOption]
      | error failure => simp [Except.toOption]

/-! ## A union is a search through its alternatives -/

private theorem alternativesComparison?_cons_of_accepts {rest : List Schema}
    (hcomparable : schema.comparison? value = none)
    (haccepts : Accepts schema value) :
    alternativesComparison? (schema :: rest) value = none := by
  rw [accepts_iff_isOk] at haccepts
  simp [alternativesComparison?, hcomparable, haccepts]

private theorem alternativesComparison?_cons_of_refuses {rest : List Schema}
    (hcomparable : schema.comparison? value = none)
    (hrefuses : ¬Accepts schema value) :
    alternativesComparison? (schema :: rest) value =
      alternativesComparison? rest value := by
  rw [accepts_iff_isOk] at hrefuses
  simp [alternativesComparison?, hcomparable, hrefuses]

variable (hconcrete : value.isConcrete)

include hconcrete

theorem validate_union_eq_ok_iff {presence : Presence}
    {alternatives : List Schema} {accepted : Accepted} :
    (union presence alternatives).validate value path = .ok accepted ↔
      conformAlternatives alternatives value path = .ok accepted := by
  rw [validate_concrete hconcrete, conform_union_eq_ok_iff]

theorem settles?_union_nil {presence : Presence} :
    settles? value path (.union presence []) = none := by
  have hcomparable : (union presence []).comparison? value = none := rfl
  have hrefused : ∀ accepted,
      (union presence []).validate value path ≠ .ok accepted := by
    intro accepted
    rw [ne_eq, validate_union_eq_ok_iff hconcrete]
    simp [conformAlternatives]
  rw [settles?_eq_none_iff]
  cases hvalidate : (union presence []).validate value path with
  | ok accepted => exact absurd hvalidate (hrefused accepted)
  | error failure => exact ⟨failure, hcomparable, hvalidate⟩

/-- An alternative either ends the search or leaves it to those behind it. -/
theorem settles?_union_cons {presence : Presence} {rest : List Schema} :
    settles? value path (.union presence (schema :: rest)) =
      (settles? value path schema).or
        (settles? value path (.union presence rest)) := by
  cases hcomparison : schema.comparison? value with
  | some comparison =>
      have hunion : (union presence (schema :: rest)).comparison? value =
          some comparison := by
        simp [comparison?, alternativesComparison?, hcomparison]
      simp [settles?, hcomparison, hunion]
  | none =>
      cases hvalidate : schema.validate value path with
      | ok accepted =>
          have hfirst : Concludes schema value path (.ok accepted) :=
            ⟨hcomparison, hvalidate⟩
          have hunion : Concludes (union presence (schema :: rest)) value path
              (.ok accepted) :=
            ⟨alternativesComparison?_cons_of_accepts hcomparison
              (accepts_of_ok hvalidate),
              (validate_union_eq_ok_iff hconcrete).mpr
                (conformAlternatives_cons_of_ok hvalidate rest)⟩
          rw [settles?_eq_ok_iff.mpr hfirst, settles?_eq_ok_iff.mpr hunion,
            Option.some_or]
      | error failure =>
          have hfirst : settles? value path schema = none :=
            settles?_eq_none_iff.mpr ⟨failure, hcomparison, hvalidate⟩
          have hrefuses : ¬Accepts schema value := by
            intro haccepts
            obtain ⟨accepted, hok⟩ := haccepts path
            rw [hvalidate] at hok
            contradiction
          have hcomparable :
              (union presence (schema :: rest)).comparison? value =
                (union presence rest).comparison? value :=
            alternativesComparison?_cons_of_refuses hcomparison hrefuses
          have houtcome :
              ((union presence (schema :: rest)).validate value path).toOption =
                ((union presence rest).validate value path).toOption := by
            apply Verdict.toOption_eq_of_ok_iff
            intro accepted
            rw [validate_union_eq_ok_iff hconcrete,
              validate_union_eq_ok_iff hconcrete,
              conformAlternatives_cons_of_error hvalidate]
          rw [hfirst, Option.none_or, settles?, settles?, hcomparable, houtcome]

theorem settles?_union (presence : Presence) (alternatives : List Schema) :
    settles? value path (.union presence alternatives) =
      alternatives.findSome? (settles? value path) := by
  induction alternatives with
  | nil => exact settles?_union_nil hconcrete
  | cons schema rest ih =>
      rw [settles?_union_cons hconcrete, ih]
      cases hfirst : settles? value path schema with
      | some outcome => simp [hfirst]
      | none => simp [hfirst]

end Searches

/-! ## Refused values -/

theorem conformAlternatives_cons_eq_error_iff {schema : Schema} {value : Value}
    {path : String} {failure : Failure}
    (herror : schema.validate value path = .error failure)
    {rest : List Schema} {messages : List String} :
    conformAlternatives (schema :: rest) value path = .error messages ↔
      ∃ others, conformAlternatives rest value path = .error others ∧
        failure.message :: others = messages := by
  unfold validate at herror
  simp only [conformAlternatives, herror]
  cases conformAlternatives rest value path with
  | ok accepted => simp
  | error others => simp

/-- All alternatives refuse the value, and their messages are listed. -/
theorem conformAlternatives_eq_error_iff {alternatives : List Schema}
    {value : Value} {path : String} {messages : List String} :
    conformAlternatives alternatives value path = .error messages ↔
      ∃ failures : List Failure,
        List.Forall₂ (fun alternative failure =>
          alternative.validate value path = .error failure)
          alternatives failures ∧
        failures.map Failure.message = messages := by
  induction alternatives generalizing messages with
  | nil => simp [conformAlternatives]
  | cons schema rest ih =>
      cases hschema : schema.validate value path with
      | ok accepted =>
          rw [conformAlternatives_cons_of_ok hschema]
          constructor
          · intro herror
            contradiction
          · rintro ⟨failures, hfailures, _⟩
            cases hfailures with
            | cons hfirst _ =>
                rw [hschema] at hfirst
                contradiction
      | error failure =>
          rw [conformAlternatives_cons_eq_error_iff hschema]
          constructor
          · rintro ⟨others, hothers, rfl⟩
            obtain ⟨failures, hfailures, rfl⟩ := ih.mp hothers
            exact ⟨failure :: failures, .cons hschema hfailures, rfl⟩
          · rintro ⟨failures, hfailures, rfl⟩
            cases hfailures with
            | @cons _ first _ failures hfirst hfailures =>
                obtain rfl : failure = first :=
                  Except.error.inj (hschema.symm.trans hfirst)
                exact ⟨failures.map Failure.message,
                  ih.mpr ⟨failures, hfailures, rfl⟩, rfl⟩

theorem conform_union_eq_error_iff {presence : Presence}
    {alternatives : List Schema} {value : Value} {path : String}
    {failure : Failure} :
    conform (.union presence alternatives) value path = .error failure ↔
      ∃ messages, conformAlternatives alternatives value path =
          .error messages ∧
        exhausted messages value path = .error failure := by
  simp only [conform]
  cases conformAlternatives alternatives value path with
  | ok accepted => simp
  | error messages => simp

theorem concludes_union_error_iff {presence : Presence}
    {alternatives : List Schema} {value : Value} (hconcrete : value.isConcrete)
    {path : String} {failure : Failure} :
    Concludes (.union presence alternatives) value path (.error failure) ↔
      ∃ failures : List Failure,
        List.Forall₂ (fun alternative inner =>
          Concludes alternative value path (.error inner))
          alternatives failures ∧
        exhausted (failures.map Failure.message) value path =
          .error failure := by
  constructor
  · intro hunion
    have hall : ∀ alternative ∈ alternatives,
        alternative.comparison? value = none := by
      have hnone := settles?_eq_none_iff.mpr ⟨failure, hunion⟩
      rw [settles?_union hconcrete, List.findSome?_eq_none_iff] at hnone
      intro alternative hmem
      obtain ⟨inner, hinner⟩ := settles?_eq_none_iff.mp (hnone alternative hmem)
      exact hinner.comparable
    have hvalidate := hunion.validate_eq
    rw [validate_concrete hconcrete, conform_union_eq_error_iff] at hvalidate
    obtain ⟨messages, hmessages, hfailure⟩ := hvalidate
    obtain ⟨failures, hfailures, rfl⟩ :=
      conformAlternatives_eq_error_iff.mp hmessages
    have hboth := (List.forall₂_and_left _ _).mpr ⟨hall, hfailures⟩
    exact ⟨failures, hboth.imp fun _ _ hinner => ⟨hinner.1, hinner.2⟩, hfailure⟩
  · rintro ⟨failures, hfailures, hfailure⟩
    have hrefused : List.Forall₂ (fun alternative inner =>
        alternative.validate value path = .error inner)
        alternatives failures :=
      hfailures.imp fun _ _ hinner => hinner.validate_eq
    have hvalidate :
        (union presence alternatives).validate value path = .error failure := by
      rw [validate_concrete hconcrete, conform_union_eq_error_iff]
      exact ⟨_, conformAlternatives_eq_error_iff.mpr ⟨failures, hrefused, rfl⟩,
        hfailure⟩
    have hnone : settles? value path (.union presence alternatives) = none := by
      have hboth : List.Forall₂ (fun alternative inner =>
          settles? value path alternative = none ∧
            Concludes alternative value path (.error inner))
          alternatives failures :=
        hfailures.imp fun _ inner hinner =>
          ⟨settles?_eq_none_iff.mpr ⟨inner, hinner⟩, hinner⟩
      rw [settles?_union hconcrete, List.findSome?_eq_none_iff]
      exact ((List.forall₂_and_left _ _).mp hboth).1
    obtain ⟨other, hother⟩ := settles?_eq_none_iff.mp hnone
    exact ⟨hother.comparable, hvalidate⟩

/-! ## The laws -/

theorem concludes_runtime (schema : Schema) (source path : String) :
    Concludes schema (.runtime source) path
      (.ok { value := .runtime source }) := by
  have hvalue : ¬(Value.runtime source).isConcrete := Bool.false_ne_true
  exact ⟨comparison?_of_not_isConcrete hvalue schema, rfl⟩

/-- If all alternatives have a verdict, it is enough that one accepts. -/
theorem exists_concludes_ok_iff {presence : Presence}
    {alternatives : List Schema} {value : Value} (hconcrete : value.isConcrete)
    {path : String} (hcomparable : ∀ alternative ∈ alternatives,
      alternative.comparison? value = none) :
    (∃ accepted,
      Concludes (.union presence alternatives) value path (.ok accepted)) ↔
      ∃ alternative ∈ alternatives, Accepts alternative value := by
  have hunion : Accepts (.union presence alternatives) value ↔
      ∃ alternative ∈ alternatives, Accepts alternative value :=
    accepts_union_iff hconcrete
  rw [← hunion, accepts_iff_exists_ok path]
  constructor
  · rintro ⟨accepted, hconcludes⟩
    exact ⟨accepted, hconcludes.validate_eq⟩
  · rintro ⟨accepted, hok⟩
    exact ⟨accepted, alternativesComparison?_eq_none hcomparable, hok⟩

section Laws

variable {value : Value} (hpresent : ¬value.isAbsent) {path : String}

include hpresent

theorem runtime_or_concrete_of_present :
    (∃ source, value = .runtime source) ∨ value.isConcrete := by
  rcases value.isAbsent_or_runtime_or_concrete with
    habsent | hruntime | hconcrete
  · exact absurd habsent hpresent
  · exact Or.inl hruntime
  · exact Or.inr hconcrete

theorem settles?_union_flatten (outer inner flat : Presence)
    (before nested after : List Schema) :
    settles? value path
        (.union outer (before ++ [.union inner nested] ++ after)) =
      settles? value path (.union flat (before ++ nested ++ after)) := by
  rcases runtime_or_concrete_of_present hpresent with
    ⟨source, rfl⟩ | hconcrete
  · rw [settles?_eq_ok_iff.mpr (concludes_runtime _ source path),
      settles?_eq_ok_iff.mpr (concludes_runtime _ source path)]
  · have hinner : [union inner nested].findSome? (settles? value path) =
        nested.findSome? (settles? value path) := by
      rw [← settles?_union hconcrete inner nested]
      simp
    simp only [settles?_union hconcrete, List.findSome?_append, hinner]

theorem settles?_union_append_of_ok {presence : Presence}
    {alternatives : List Schema} {accepted : Accepted}
    (hok : settles? value path (.union presence alternatives) =
      some (.ok accepted)) (more : List Schema) :
    settles? value path (.union presence (alternatives ++ more)) =
      some (.ok accepted) := by
  rcases runtime_or_concrete_of_present hpresent with
    ⟨source, rfl⟩ | hconcrete
  · rw [settles?_eq_ok_iff.mpr (concludes_runtime _ source path)] at hok ⊢
    exact hok
  · rw [settles?_union hconcrete] at hok ⊢
    rw [List.findSome?_append, hok, Option.some_or]

private theorem exists_concludes_ok_of_perm {presence other : Presence}
    {alternatives reordered : List Schema}
    (hperm : alternatives.Perm reordered)
    (hcomparable : ∀ alternative ∈ alternatives,
      alternative.comparison? value = none) :
    (∃ accepted,
      Concludes (.union presence alternatives) value path (.ok accepted)) ↔
    ∃ accepted,
      Concludes (.union other reordered) value path (.ok accepted) := by
  rcases runtime_or_concrete_of_present hpresent with
    ⟨source, rfl⟩ | hconcrete
  · exact iff_of_true ⟨_, concludes_runtime _ source path⟩
      ⟨_, concludes_runtime _ source path⟩
  · have hreordered : ∀ alternative ∈ reordered,
        alternative.comparison? value = none :=
      fun alternative hmem => hcomparable alternative (hperm.mem_iff.mpr hmem)
    rw [exists_concludes_ok_iff hconcrete hcomparable,
      exists_concludes_ok_iff hconcrete hreordered]
    simp only [hperm.mem_iff]

theorem concludes_union_error_iff_of_present {presence : Presence}
    {alternatives : List Schema} {failure : Failure} :
    Concludes (.union presence alternatives) value path (.error failure) ↔
      value.isConcrete ∧ ∃ failures : List Failure,
        List.Forall₂ (fun alternative inner =>
          Concludes alternative value path (.error inner))
          alternatives failures ∧
        exhausted (failures.map Failure.message) value path =
          .error failure := by
  rcases runtime_or_concrete_of_present hpresent with
    ⟨source, rfl⟩ | hconcrete
  · constructor
    · intro hconcludes
      have herror : Verdict.unchanged (.runtime source) = .error failure :=
        hconcludes.validate_eq
      contradiction
    · rintro ⟨hconcrete, _⟩
      contradiction
  · rw [concludes_union_error_iff hconcrete, and_iff_right hconcrete]

end Laws

/-- The laws of unions, for a value that is there.  A union inside a union may
be written out in its place; the order of the alternatives does not matter for
whether a value is accepted, as long as all of them have a verdict; further
alternatives at the end change nothing for an accepted value; and a value is
refused exactly if all alternatives refuse it, with one failure that lists their
messages in order. -/
theorem union_laws {value : Value} (hpresent : ¬value.isAbsent)
    (path : String) :
    (∀ (outer inner flat : Presence) (before nested after : List Schema)
        (accepted : Accepted),
      Concludes (.union outer (before ++ [.union inner nested] ++ after)) value
          path (.ok accepted) ↔
        Concludes (.union flat (before ++ nested ++ after)) value path
          (.ok accepted)) ∧
    (∀ (presence other : Presence) (alternatives reordered : List Schema),
      alternatives.Perm reordered →
      (∀ alternative ∈ alternatives, alternative.comparison? value = none) →
        ((∃ accepted, Concludes (.union presence alternatives) value path
            (.ok accepted)) ↔
          ∃ accepted, Concludes (.union other reordered) value path
            (.ok accepted))) ∧
    (∀ (presence : Presence) (alternatives more : List Schema)
        (accepted : Accepted),
      Concludes (.union presence alternatives) value path (.ok accepted) →
        Concludes (.union presence (alternatives ++ more)) value path
          (.ok accepted)) ∧
    ∀ (presence : Presence) (alternatives : List Schema) (failure : Failure),
      Concludes (.union presence alternatives) value path (.error failure) ↔
        value.isConcrete ∧ ∃ failures : List Failure,
          List.Forall₂ (fun alternative inner =>
            Concludes alternative value path (.error inner))
            alternatives failures ∧
          failure =
            { kind := .unionExhausted
              path
              message := path ++ " must match one of the union types. Errors: " ++
                "; ".intercalate (failures.map Failure.message)
              value
              alternatives := failures.map Failure.message } := by
  refine ⟨?_, ?_, ?_, ?_⟩
  · intro outer inner flat before nested after accepted
    rw [← settles?_eq_ok_iff, ← settles?_eq_ok_iff,
      settles?_union_flatten hpresent outer inner flat]
  · intro presence other alternatives reordered hperm hcomparable
    exact exists_concludes_ok_of_perm hpresent hperm hcomparable
  · intro presence alternatives more accepted hok
    rw [← settles?_eq_ok_iff] at hok ⊢
    exact settles?_union_append_of_ok hpresent hok more
  · intro presence alternatives failure
    simp only [concludes_union_error_iff_of_present hpresent, exhausted,
      Except.error.injEq, eq_comm (b := failure)]

def flagOrSmall : List Schema :=
  [boolean {}, .enum {} [.text "small"]]

theorem large_follows_union_laws :
    Concludes (.union {} ([.number {} {}] ++
          [.union { required := true } flagOrSmall] ++ [.string {} {}]))
        (.text "large") "size" (.ok { value := .text "large" }) ∧
      Concludes (.union {} ([.number {} {}] ++ flagOrSmall ++ [.string {} {}]))
        (.text "large") "size" (.ok { value := .text "large" }) ∧
      (∃ accepted, Concludes (.union {} [.string {} {}, .number {} {}])
        (.text "large") "size" (.ok accepted)) ∧
      ∃ failure failures,
        Concludes (.union {} flagOrSmall) (.text "large") "size"
          (.error failure) ∧
        List.Forall₂ (fun alternative inner =>
          Concludes alternative (.text "large") "size" (.error inner))
          flagOrSmall failures ∧
        failure.alternatives = failures.map Failure.message := by
  have hpresent : ¬(Value.text "large").isAbsent := by decide
  obtain ⟨hflatten, hreorder, _, hrefuse⟩ := union_laws hpresent "size"
  have hnested : Concludes (.union {} ([.number {} {}] ++
      [.union { required := true } flagOrSmall] ++ [.string {} {}]))
      (.text "large") "size" (.ok { value := .text "large" }) := ⟨rfl, rfl⟩
  have hnumberFirst : Concludes (.union {} [.number {} {}, .string {} {}])
      (.text "large") "size" (.ok { value := .text "large" }) := ⟨rfl, rfl⟩
  have hstringFirst := (hreorder {} {} [.number {} {}, .string {} {}]
    [.string {} {}, .number {} {}] (.swap _ _ _)
    (by simp [comparison?, Bound.comparison?])).mp ⟨_, hnumberFirst⟩
  have hrefused : Concludes (.union {} flagOrSmall) (.text "large") "size"
      (.error _) := ⟨rfl, rfl⟩
  obtain ⟨_, failures, hfailures, hfailure⟩ := (hrefuse _ _ _).mp hrefused
  exact ⟨hnested, (hflatten _ _ _ _ _ _ _).mp hnested, hstringFirst, _, failures,
    hrefused, hfailures, congrArg Failure.alternatives hfailure⟩

end Schema

end ViewCompiler
