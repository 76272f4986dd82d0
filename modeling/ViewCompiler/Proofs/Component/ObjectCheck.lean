import ViewCompiler.Component.Validator
import ViewCompiler.Proofs.Schema.Relocation

/-!
# Components are checked as objects

The properties of a component and the entries of an object with the same
declared properties are checked by two loops of their own.  The loops agree:
they accept the same properties and keep the same of them, and where they
refuse, they refuse the same property for the same reason.  They report their
findings in different places.  A component knows its properties by name alone,
an object puts its own path in front; and what an object counts among the
dropped entries, a component lists as unknown.
-/

namespace ViewCompiler
namespace Validator

/-- The property is the first declared one whose value is refused. -/
def FirstRefused (schemas : Entries Schema) (props : Entries Value)
    (prop : String) : Prop :=
  ∃ before schema after cause,
    schemas = before ++ (prop, schema) :: after ∧
      (∀ earlier ∈ before, ∃ accepted,
        earlier.2.validate (Value.entry props earlier.1) earlier.1 =
          .ok accepted) ∧
      schema.validate (Value.entry props prop) prop = .error cause

theorem checkProps_cons_of_error (component : String) {prop : String}
    {schema : Schema} {props : Entries Value} {cause : Failure}
    (herror : schema.validate (Value.entry props prop) prop = .error cause)
    (rest : Entries Schema) :
    checkProps component ((prop, schema) :: rest) props =
      .error (locate component prop cause) := by
  unfold Value.entry at herror
  simp only [checkProps, herror]

theorem checkProps_cons_of_ok (component : String) {prop : String}
    {schema : Schema} {props : Entries Value} {accepted : Accepted}
    (hok : schema.validate (Value.entry props prop) prop = .ok accepted)
    (rest : Entries Schema) :
    checkProps component ((prop, schema) :: rest) props =
      checkProps component rest props >>= fun found =>
        if Entries.has props prop || !accepted.value.isNull then
          .ok ((prop, accepted.value) :: found.1, accepted.dropped ++ found.2)
        else .ok (found.1, accepted.dropped ++ found.2) := by
  unfold Value.entry at hok
  simp only [checkProps, hok]
  rfl

/-- The failure of a component is that of the first declared property that is
refused, with the component and the property added. -/
theorem exists_cause_of_checkProps_eq_error {component : String}
    {schemas : Entries Schema} {props : Entries Value} {failure : Failure}
    (herror : checkProps component schemas props = .error failure) :
    ∃ before prop schema after cause,
      schemas = before ++ (prop, schema) :: after ∧
        (∀ earlier ∈ before, ∃ accepted,
          earlier.2.validate (Value.entry props earlier.1) earlier.1 =
            .ok accepted) ∧
        schema.validate (Value.entry props prop) prop = .error cause ∧
        failure = locate component prop cause := by
  induction schemas with
  | nil => simp [checkProps] at herror
  | cons declared rest ih =>
      obtain ⟨prop, schema⟩ := declared
      cases hschema : schema.validate (Value.entry props prop) prop with
      | error cause =>
          rw [checkProps_cons_of_error component hschema,
            Except.error.injEq] at herror
          exact ⟨[], prop, schema, rest, cause, rfl, by simp, hschema,
            herror.symm⟩
      | ok accepted =>
          rw [checkProps_cons_of_ok component hschema] at herror
          cases hrest : checkProps component rest props with
          | ok found =>
              simp only [hrest, bind, Except.bind] at herror
              split at herror <;> contradiction
          | error cause =>
              rw [hrest] at herror
              obtain rfl : cause = failure := Except.error.inj herror
              obtain ⟨before, other, found, after, reason, rfl, hbefore,
                hreason, hlocated⟩ := ih hrest
              refine ⟨(prop, schema) :: before, other, found, after, reason,
                rfl, ?_, hreason, hlocated⟩
              rw [List.forall_mem_cons]
              exact ⟨⟨accepted, hschema⟩, hbefore⟩

theorem checkProps_of_refused (component : String) {prop : String}
    {schema : Schema} {before : Entries Schema} {props : Entries Value}
    {cause : Failure}
    (hbefore : ∀ earlier ∈ before, ∃ accepted,
      earlier.2.validate (Value.entry props earlier.1) earlier.1 =
        .ok accepted)
    (hcause : schema.validate (Value.entry props prop) prop = .error cause)
    (after : Entries Schema) :
    checkProps component (before ++ (prop, schema) :: after) props =
      .error (locate component prop cause) := by
  induction before with
  | nil => exact checkProps_cons_of_error component hcause after
  | cons declared rest ih =>
      rw [List.forall_mem_cons] at hbefore
      obtain ⟨⟨accepted, hok⟩, hrest⟩ := hbefore
      rw [List.cons_append, checkProps_cons_of_ok component hok, ih hrest]
      rfl

theorem firstRefused_of_checkProps_eq_error {component : String}
    {schemas : Entries Schema} {props : Entries Value} {failure : Failure}
    (herror : checkProps component schemas props = .error failure) :
    ∃ prop, failure.prop = some prop ∧ FirstRefused schemas props prop := by
  obtain ⟨before, prop, schema, after, cause, hschemas, hbefore, hcause, rfl⟩ :=
    exists_cause_of_checkProps_eq_error herror
  exact ⟨prop, rfl, before, schema, after, cause, hschemas, hbefore, hcause⟩

/-- A component passes exactly if all its declared properties do. -/
theorem checkProps_isOk_iff {component : String} {schemas : Entries Schema}
    {props : Entries Value} :
    (∃ found, checkProps component schemas props = .ok found) ↔
      ∀ declared ∈ schemas, ∃ accepted,
        declared.2.validate (Value.entry props declared.1) declared.1 =
          .ok accepted := by
  induction schemas with
  | nil => simp [checkProps]
  | cons declared rest ih =>
      obtain ⟨prop, schema⟩ := declared
      rw [List.forall_mem_cons, ← ih]
      cases hschema : schema.validate (Value.entry props prop) prop with
      | error cause => simp [checkProps_cons_of_error component hschema]
      | ok accepted =>
          rw [checkProps_cons_of_ok component hschema]
          cases checkProps component rest props with
          | error cause => simp [bind, Except.bind]
          | ok found =>
              simp only [bind, Except.bind]
              split <;> simp

/-- The loop over the properties of a component and the loop over the declared
entries of an object. -/
theorem checkProps_relocates (component path : String)
    (schemas : Entries Schema) (props : Entries Value) :
    Alike (Failure.Relocates (path ++ ".")) (RelocatesDropped (path ++ "."))
      (checkProps component schemas props)
      (Schema.conformProperties schemas props path) := by
  induction schemas with
  | nil =>
      rw [Schema.conformProperties]
      exact ⟨rfl, rfl⟩
  | cons declared rest ih =>
      obtain ⟨prop, schema⟩ := declared
      have hentry := schema.validate_relocates (path ++ ".")
        (Value.entry props prop) prop
      rw [Schema.conformProperties]
      change Alike _ _ _ (schema.validate (Value.entry props prop)
        (path ++ "." ++ prop) >>= _)
      rcases hentry.cases with ⟨accepted, moved, hok, hmoved, hresults⟩ |
        ⟨cause, moved, herror, hmoved, hcauses⟩
      · obtain ⟨hvalue, hdropped⟩ := hresults
        dsimp only at hvalue hdropped
        rw [checkProps_cons_of_ok component hok, hmoved]
        refine ih.bind ?_
        rintro ⟨kept, dropped⟩ ⟨kept', dropped'⟩ ⟨hkept, htail⟩
        dsimp only at hkept htail
        subst kept' dropped'
        rw [hvalue, hdropped]
        cases Entries.has props prop || !accepted.value.isNull with
        | true => exact ⟨rfl, by simp⟩
        | false => exact ⟨rfl, by simp⟩
      · rw [checkProps_cons_of_error component herror, hmoved]
        exact ⟨hcauses.kind, hcauses.path, hcauses.value, hcauses.expected,
          hcauses.actual⟩

/-- Checking the properties of a component and checking them as an object with
the same declared properties end in the same way.  The properties that are kept
are the same; what the object reports as dropped is what the component reports
as dropped and then what it reports as unknown, behind the path of the object;
and a failure is the same failure, found at the first declared property whose
value is refused. -/
theorem component_check_refines_object_check (component : String)
    (schemas : Entries Schema) (presence : Presence) (props : Entries Value)
    (path : String) :
    match (Validator.mk component schemas).validate props,
      (Schema.object presence (some schemas)).validate (.record props) path with
    | .ok accepted, .ok result =>
        result.value = .record accepted.props ∧
          result.dropped =
            accepted.dropped.map (path ++ "." ++ ·) ++
              accepted.unknown.map (path ++ "." ++ ·)
    | .error failure, .error refusal =>
        refusal.kind = failure.kind ∧
          refusal.value = failure.value ∧
          refusal.expected = failure.expected ∧
          refusal.actual = failure.actual ∧
          refusal.path = path ++ "." ++ failure.path ∧
          ∃ prop, failure.prop = some prop ∧ FirstRefused schemas props prop
    | _, _ => False := by
  rw [Schema.validate_concrete rfl, Schema.conform, validate]
  rcases (checkProps_relocates component path schemas props).cases with
    ⟨⟨kept, dropped⟩, ⟨kept', dropped'⟩, hcomponent, hobject, hkept, hdropped⟩ |
      ⟨failure, refusal, hcomponent, hobject, hmoved⟩
  · dsimp only at hkept hdropped
    subst kept' dropped'
    rw [hcomponent, hobject]
    exact ⟨rfl, rfl⟩
  · rw [hcomponent, hobject]
    exact ⟨hmoved.kind, hmoved.value, hmoved.expected, hmoved.actual,
      hmoved.path, firstRefused_of_checkProps_eq_error hcomponent⟩

end Validator
end ViewCompiler
