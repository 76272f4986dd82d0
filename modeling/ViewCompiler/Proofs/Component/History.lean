import ViewCompiler.Component.Registry
import ViewCompiler.Proofs.Binding.Scan
import ViewCompiler.Proofs.Component.ObjectCheck
import ViewCompiler.Proofs.Entries
import ViewCompiler.Proofs.Schema.FailurePlace

/-!
# Registries over time

A registry starts empty.  Components are registered, rules are added, and
components are checked, in any order.  What was registered and what was added,
read as two lists of pairs, determines the registry: a name has the place of
its first pair and the content of its last one.  Checks leave no trace.  The
verdict of a check is told here from the two lists alone: which component is
known, what its properties are checked against, and which rule is the first
that has something to complain about.
-/

namespace ViewCompiler

namespace Entries

variable {α : Type}

/-- The last value that a name is given. -/
def last? (pairs : List (String × α)) (name : String) : Option α :=
  (pairs.reverse.find? fun pair => pair.1 == name).map Prod.snd

theorem get?_ofPairs (pairs : List (String × α)) (name : String) :
    get? (ofPairs pairs) name = last? pairs name := by
  rw [ofPairs, get?_setAll, get?, Option.or_none]
  rfl

theorem ofPairs_append_singleton (pairs : List (String × α))
    (pair : String × α) :
    ofPairs (pairs ++ [pair]) = set (ofPairs pairs) pair.1 pair.2 := by
  rw [ofPairs, setAll, List.foldl_append]
  rfl

/-- Names keep the order in which they are first given. -/
theorem keys_ofPairs (pairs : List (String × α)) :
    keys (ofPairs pairs) = (keys pairs).eraseDups := by
  induction pairs using List.reverseRecOn with
  | nil => rfl
  | append_singleton pairs pair ih =>
      have hkeys : keys (pairs ++ [pair]) = keys pairs ++ [pair.1] := by
        rw [keys, List.map_append]
        rfl
      rw [ofPairs_append_singleton, keys_set, ih, hkeys]
      by_cases hmem : pair.1 ∈ keys pairs
      · rw [if_pos (List.mem_eraseDups.mpr hmem),
          List.eraseDups_concat_of_mem hmem]
      · rw [if_neg (mt List.mem_eraseDups.mp hmem),
          List.eraseDups_concat_of_notMem hmem]

theorem last?_eq_none_iff {pairs : List (String × α)} {name : String} :
    last? pairs name = none ↔ name ∉ keys pairs := by
  rw [← get?_ofPairs, ← List.mem_eraseDups, ← keys_ofPairs, ← has_iff_mem_keys,
    has]
  simp

theorem mem_ofPairs_iff {pairs : List (String × α)} {name : String}
    {value : α} :
    (name, value) ∈ ofPairs pairs ↔ last? pairs name = some value := by
  rw [← get?_ofPairs, get?_eq_some_iff_mem (nodup_keys_ofPairs pairs)]

end Entries

theorem Validator.kind_mem_of_validate_eq_error {validator : Validator}
    {props : Entries Value} {failure : Failure}
    (hfails : validator.validate props = .error failure) :
    failure.kind ∈ FailureKind.ofChecks := by
  cases hchecked : checkProps validator.component validator.schemas props with
  | ok found =>
      rw [validate, hchecked] at hfails
      contradiction
  | error cause =>
      rw [validate, hchecked] at hfails
      obtain rfl : cause = failure := Except.error.inj hfails
      obtain ⟨_, prop, schema, _, reason, _, _, hreason, rfl⟩ :=
        exists_cause_of_checkProps_eq_error hchecked
      have hkind := Schema.kind_mem_of_validate_eq_error hreason
      exact hkind

/-- The rule has nothing to complain about. -/
def Rule.IsKept (rule : Rule) (component : String) (props : Entries Value) :
    Prop :=
  rule component props = none ∨ rule component props = some ""

theorem Rule.filter_eq_none_iff {rule : Rule} {component : String}
    {props : Entries Value} :
    (rule component props).filter (!·.isEmpty) = none ↔
      Rule.IsKept rule component props := by
  cases hcomplaint : rule component props with
  | none => simp [Rule.IsKept, hcomplaint]
  | some complaint => simp [Rule.IsKept, hcomplaint]

theorem Rule.filter_eq_some_iff {rule : Rule} {component complaint : String}
    {props : Entries Value} :
    (rule component props).filter (!·.isEmpty) = some complaint ↔
      rule component props = some complaint ∧ complaint ≠ "" := by
  rw [Option.filter_eq_some_iff]
  simp

namespace Registry

/-! ## The first rule that is broken -/

section Rules

variable {name : String} {props : Entries Value}

private theorem brokenRule_cons_of_kept {check : Rule}
    (hkept : Rule.IsKept check name props) (rule : String)
    (rest : Entries Rule) :
    brokenRule name props ((rule, check) :: rest) =
      brokenRule name props rest := by
  rw [brokenRule, Rule.filter_eq_none_iff.mpr hkept]

private theorem brokenRule_cons_of_broken {check : Rule} {complaint : String}
    (hbroken : check name props = some complaint ∧ complaint ≠ "")
    (rule : String) (rest : Entries Rule) :
    brokenRule name props ((rule, check) :: rest) = some (rule, complaint) := by
  rw [brokenRule, Rule.filter_eq_some_iff.mpr hbroken]

private theorem brokenRule_append_of_kept {before : Entries Rule}
    (hkept : ∀ entry ∈ before, Rule.IsKept entry.2 name props)
    (rest : Entries Rule) :
    brokenRule name props (before ++ rest) = brokenRule name props rest := by
  induction before with
  | nil => rfl
  | cons entry before ih =>
      rw [List.forall_mem_cons] at hkept
      rw [List.cons_append, brokenRule_cons_of_kept hkept.1, ih hkept.2]

private theorem kept_or_first_broken (name : String) (props : Entries Value)
    (rules : Entries Rule) :
    (∀ entry ∈ rules, Rule.IsKept entry.2 name props) ∨
      ∃ before rule check after complaint,
        rules = before ++ (rule, check) :: after ∧
          (∀ entry ∈ before, Rule.IsKept entry.2 name props) ∧
          check name props = some complaint ∧ complaint ≠ "" := by
  induction rules with
  | nil => exact Or.inl (by simp)
  | cons entry rest ih =>
      obtain ⟨rule, check⟩ := entry
      cases hfilter : (check name props).filter (!·.isEmpty) with
      | some complaint =>
          exact Or.inr ⟨[], rule, check, rest, complaint, rfl, by simp,
            Rule.filter_eq_some_iff.mp hfilter⟩
      | none =>
          have hkept := Rule.filter_eq_none_iff.mp hfilter
          rcases ih with hall |
            ⟨before, other, found, after, complaint, rfl, hbefore, hbroken⟩
          · exact Or.inl (List.forall_mem_cons.mpr ⟨hkept, hall⟩)
          · exact Or.inr ⟨(rule, check) :: before, other, found, after,
              complaint, rfl, List.forall_mem_cons.mpr ⟨hkept, hbefore⟩,
              hbroken⟩

end Rules

/-! ## One check -/

section Verdicts

variable {registry : Registry} {name : String} {schemas : Entries Schema}
  {given : Option (Entries Value)}

/-- The properties of a component as the value that a broken rule shows. -/
def shown (given : Option (Entries Value)) : Value :=
  (given.map .record).getD .null

private theorem validate_of_unknown
    (hget : Entries.get? registry.components name = none) :
    registry.validate name given = .error (unknownComponent name) := by
  rw [validate, validator?, hget]
  rfl

variable (hget : Entries.get? registry.components name = some schemas)

include hget

theorem validate_of_refused {failure : Failure}
    (hfails : (Validator.mk name schemas).validate (given.getD []) =
      .error failure) :
    registry.validate name given = .error failure := by
  rw [validate, validator?, hget]
  simp only [Option.map_some, hfails]
  rfl

theorem validate_of_accepted {accepted : AcceptedProps}
    (haccepts : (Validator.mk name schemas).validate (given.getD []) =
      .ok accepted) :
    registry.validate name given =
      registry.applyRules name (shown given) accepted := by
  rw [validate, validator?, hget]
  simp only [Option.map_some, haccepts]
  rfl

private theorem validate_of_kept {accepted : AcceptedProps}
    (haccepts : (Validator.mk name schemas).validate (given.getD []) =
      .ok accepted)
    (hkept : brokenRule name accepted.props registry.rules = none) :
    registry.validate name given = .ok accepted := by
  rw [validate_of_accepted hget haccepts, applyRules, hkept]

private theorem validate_of_broken {accepted : AcceptedProps}
    {rule complaint : String}
    (haccepts : (Validator.mk name schemas).validate (given.getD []) =
      .ok accepted)
    (hbroken : brokenRule name accepted.props registry.rules =
      some (rule, complaint)) :
    registry.validate name given =
      .error (violation name rule complaint (shown given)) := by
  rw [validate_of_accepted hget haccepts, applyRules, hbroken]

end Verdicts

/-! ## Operations -/

inductive Operation where
  | register (name : String) (schemas : Entries Schema)
  | addRule (name : String) (rule : Rule)
  | validate (name : String) (given : Option (Entries Value))

namespace Operation

def registration? : Operation → Option (String × Entries Schema)
  | register name schemas => some (name, schemas)
  | _ => none

def addition? : Operation → Option (String × Rule)
  | addRule name rule => some (name, rule)
  | _ => none

def isCheck : Operation → Bool
  | validate _ _ => true
  | _ => false

end Operation

/-- The registry after an operation, with the verdict of a check. -/
def perform (registry : Registry) :
    Operation → Registry × Option (Except Failure AcceptedProps)
  | .register name schemas => (registry.register name schemas, none)
  | .addRule name rule => (registry.addRule name rule, none)
  | .validate name given => (registry, some (registry.validate name given))

/-- The registry after operations on an empty one. -/
def after (operations : List Operation) : Registry :=
  operations.foldl (fun registry operation => (registry.perform operation).1) {}

/-- What was registered, in order. -/
def registered (operations : List Operation) :
    List (String × Entries Schema) :=
  operations.filterMap Operation.registration?

/-- The rules that were added, in order. -/
def added (operations : List Operation) : List (String × Rule) :=
  operations.filterMap Operation.addition?

theorem after_append_singleton (operations : List Operation)
    (operation : Operation) :
    after (operations ++ [operation]) =
      ((after operations).perform operation).1 := by
  simp [after]

theorem registered_append_singleton (operations : List Operation)
    (operation : Operation) :
    registered (operations ++ [operation]) =
      registered operations ++ operation.registration?.toList := by
  cases operation <;> simp [registered, Operation.registration?]

theorem added_append_singleton (operations : List Operation)
    (operation : Operation) :
    added (operations ++ [operation]) =
      added operations ++ operation.addition?.toList := by
  cases operation <;> simp [added, Operation.addition?]

/-- The registry is at every time what the two lists make of an empty one. -/
theorem after_eq (operations : List Operation) :
    after operations =
      { components := Entries.ofPairs (registered operations)
        rules := Entries.ofPairs (added operations) } := by
  induction operations using List.reverseRecOn with
  | nil => rfl
  | append_singleton operations operation ih =>
      rw [after_append_singleton, registered_append_singleton,
        added_append_singleton, ih]
      cases operation with
      | register name schemas =>
          simp [perform, register, Operation.registration?,
            Operation.addition?, Entries.ofPairs_append_singleton]
      | addRule name rule =>
          simp [perform, addRule, Operation.registration?,
            Operation.addition?, Entries.ofPairs_append_singleton]
      | validate name given =>
          simp [perform, Operation.registration?, Operation.addition?]

/-- Without the checks, the operations leave the same registry. -/
theorem after_filter (operations : List Operation) :
    after (operations.filter fun operation => !operation.isCheck) =
      after operations := by
  have hregistered :
      registered (operations.filter fun operation => !operation.isCheck) =
        registered operations := by
    rw [registered, List.filterMap_filter]
    apply List.filterMap_congr
    intro operation _
    cases operation <;> rfl
  have hadded :
      added (operations.filter fun operation => !operation.isCheck) =
        added operations := by
    rw [added, List.filterMap_filter]
    apply List.filterMap_congr
    intro operation _
    cases operation <;> rfl
  rw [after_eq, after_eq, hregistered, hadded]

/-! ## Verdicts over time -/

/-- The verdict of a check, told from what was registered and what was added
before it. -/
inductive Judged (registered : List (String × Entries Schema))
    (added : List (String × Rule)) (name : String)
    (given : Option (Entries Value)) : Except Failure AcceptedProps → Prop
  | unknown (hnever : name ∉ Entries.keys registered) :
      Judged registered added name given (.error (unknownComponent name))
  | refused {schemas : Entries Schema} {failure : Failure}
      (hlast : Entries.last? registered name = some schemas)
      (hfails : (Validator.mk name schemas).validate (given.getD []) =
        .error failure) :
      Judged registered added name given (.error failure)
  | broken {schemas : Entries Schema} {accepted : AcceptedProps}
      {earlier later : List String} {rule complaint : String} {check : Rule}
      (hlast : Entries.last? registered name = some schemas)
      (haccepts : (Validator.mk name schemas).validate (given.getD []) =
        .ok accepted)
      (hrules : (Entries.keys added).eraseDups = earlier ++ rule :: later)
      (hkept : ∀ other ∈ earlier, ∀ found ∈ Entries.last? added other,
        Rule.IsKept found name accepted.props)
      (hcheck : Entries.last? added rule = some check)
      (hcomplaint : check name accepted.props = some complaint)
      (hwords : complaint ≠ "") :
      Judged registered added name given
        (.error (violation name rule complaint (shown given)))
  | accepted {schemas : Entries Schema} {accepted : AcceptedProps}
      (hlast : Entries.last? registered name = some schemas)
      (haccepts : (Validator.mk name schemas).validate (given.getD []) =
        .ok accepted)
      (hkept : ∀ rule, ∀ found ∈ Entries.last? added rule,
        Rule.IsKept found name accepted.props) :
      Judged registered added name given (.ok accepted)

section Judged

variable {registered : List (String × Entries Schema)}
  {added : List (String × Rule)} {name : String}
  {given : Option (Entries Value)}

/-- Rules in order, by name: a split of the rules is a split of their names. -/
theorem split_rules {earlier later : List String} {rule : String}
    {check : Rule}
    (hrules : (Entries.keys added).eraseDups = earlier ++ rule :: later)
    (hcheck : Entries.last? added rule = some check) :
    ∃ before after, Entries.ofPairs added = before ++ (rule, check) :: after ∧
      Entries.keys before = earlier := by
  rw [← Entries.keys_ofPairs, Entries.keys, List.map_eq_append_iff] at hrules
  obtain ⟨before, rest, hsplit, hbefore, hrest⟩ := hrules
  obtain ⟨entry, after, rfl, rfl, _⟩ := List.map_eq_cons_iff.mp hrest
  have hmem : entry ∈ Entries.ofPairs added := by
    rw [hsplit]
    simp
  have hlast : Entries.last? added entry.1 = some entry.2 :=
    Entries.mem_ofPairs_iff.mp hmem
  have hsame : entry.2 = check := by
    rw [hlast, Option.some.injEq] at hcheck
    exact hcheck
  subst hsame
  exact ⟨before, after, hsplit, hbefore⟩

theorem kept_iff_names {before after : Entries Rule} {props : Entries Value}
    (hsplit : Entries.ofPairs added = before ++ after) :
    (∀ entry ∈ before, Rule.IsKept entry.2 name props) ↔
      ∀ other ∈ Entries.keys before,
        ∀ found ∈ Entries.last? added other,
          Rule.IsKept found name props := by
  have hlast : ∀ entry ∈ before,
      Entries.last? added entry.1 = some entry.2 := by
    intro entry hentry
    have hmem : entry ∈ Entries.ofPairs added := by
      rw [hsplit]
      exact List.mem_append_left _ hentry
    exact Entries.mem_ofPairs_iff.mp hmem
  constructor
  · intro hkept other hother found hfound
    obtain ⟨entry, hentry, rfl⟩ := List.mem_map.mp hother
    rw [hlast entry hentry, Option.mem_some_iff] at hfound
    subst hfound
    exact hkept entry hentry
  · intro hkept entry hentry
    exact hkept entry.1 (List.mem_map_of_mem hentry) entry.2
      (hlast entry hentry)

theorem Judged.eq_validate {verdict : Except Failure AcceptedProps}
    (hjudged : Judged registered added name given verdict) :
    (Registry.mk (Entries.ofPairs registered)
      (Entries.ofPairs added)).validate name given = verdict := by
  cases hjudged with
  | unknown hnever =>
      apply validate_of_unknown
      rw [Entries.get?_ofPairs, Entries.last?_eq_none_iff]
      exact hnever
  | refused hlast hfails =>
      rw [← Entries.get?_ofPairs] at hlast
      exact validate_of_refused hlast hfails
  | broken hlast haccepts hrules hkept hcheck hcomplaint hwords =>
      rw [← Entries.get?_ofPairs] at hlast
      apply validate_of_broken hlast haccepts
      obtain ⟨before, after, hsplit, rfl⟩ := split_rules hrules hcheck
      have hbefore := (kept_iff_names hsplit).mpr hkept
      rw [hsplit, brokenRule_append_of_kept hbefore]
      exact brokenRule_cons_of_broken ⟨hcomplaint, hwords⟩ _ after
  | accepted hlast haccepts hkept =>
      rw [← Entries.get?_ofPairs] at hlast
      apply validate_of_kept hlast haccepts
      have hall := (kept_iff_names (List.append_nil _).symm).mpr
        fun other _ => hkept other
      rw [← List.append_nil (Entries.ofPairs added),
        brokenRule_append_of_kept hall]
      rfl

theorem Judged.never_registered {failure : Failure}
    (hjudged : Judged registered added name given (.error failure))
    (hkind : failure.kind = .unknownComponent) :
    name ∉ Entries.keys registered := by
  cases hjudged with
  | unknown hnever => exact hnever
  | refused _ hfails =>
      have hchecks := Validator.kind_mem_of_validate_eq_error hfails
      rw [hkind] at hchecks
      exact absurd hchecks (by decide)
  | broken => contradiction

private theorem judged_validate (registered : List (String × Entries Schema))
    (added : List (String × Rule)) (name : String)
    (given : Option (Entries Value)) :
    Judged registered added name given
      ((Registry.mk (Entries.ofPairs registered)
        (Entries.ofPairs added)).validate name given) := by
  cases hlast : Entries.last? registered name with
  | none =>
      have hunknown : Judged registered added name given _ :=
        .unknown (Entries.last?_eq_none_iff.mp hlast)
      rw [hunknown.eq_validate]
      exact hunknown
  | some schemas =>
      cases hchecked :
          (Validator.mk name schemas).validate (given.getD []) with
      | error failure =>
          have hrefused : Judged registered added name given _ :=
            .refused hlast hchecked
          rw [hrefused.eq_validate]
          exact hrefused
      | ok accepted =>
          rcases kept_or_first_broken name accepted.props
              (Entries.ofPairs added) with
            hkept |
              ⟨before, rule, check, after, complaint, hsplit, hkept,
                hcomplaint, hwords⟩
          · have haccepted : Judged registered added name given _ :=
              .accepted hlast hchecked fun rule found hfound =>
                hkept (rule, found) (Entries.mem_ofPairs_iff.mpr hfound)
            rw [haccepted.eq_validate]
            exact haccepted
          · have hrules : (Entries.keys added).eraseDups =
                Entries.keys before ++ rule :: Entries.keys after := by
              rw [← Entries.keys_ofPairs, hsplit, Entries.keys,
                List.map_append, List.map_cons]
              rfl
            have hmem : (rule, check) ∈ Entries.ofPairs added := by
              rw [hsplit]
              simp
            have hbroken : Judged registered added name given _ :=
              .broken hlast hchecked hrules
                ((kept_iff_names hsplit).mp hkept)
                (Entries.mem_ofPairs_iff.mp hmem) hcomplaint hwords
            rw [hbroken.eq_validate]
            exact hbroken

end Judged

/-- A registry lists the components that were registered, each once and in the
order of the first registrations, and holds the schemas of the last ones.
Checks change nothing.  A check fails because nothing was registered under the
name, or as the component fails, or because of the first rule, in the order of
the first additions and each as it was added last, that complains about the
accepted properties; and it succeeds as the component does if no rule
complains. -/
theorem registry_follows_history (operations : List Operation) :
    let registry := after operations
    let registered := registered operations
    let added := added operations
    (registry.names.Nodup ∧
      registry.names = (Entries.keys registered).eraseDups) ∧
    (∀ name, registry.validator? name =
      (Entries.last? registered name).map fun schemas => ⟨name, schemas⟩) ∧
    after (operations.filter fun operation => !operation.isCheck) =
      registry ∧
    ∀ name given,
      ((∃ failure, registry.validate name given = .error failure ∧
          failure.kind = .unknownComponent) ↔
        name ∉ Entries.keys registered) ∧
      ∀ verdict,
        registry.perform (.validate name given) = (registry, some verdict) ↔
          Judged registered added name given verdict := by
  intro registry registered added
  have hregistry : registry = Registry.mk (Entries.ofPairs registered)
      (Entries.ofPairs added) := after_eq operations
  have hnames : registry.names = (Entries.keys registered).eraseDups := by
    rw [hregistry, names, Entries.keys_ofPairs]
  have hvalidate : ∀ name given verdict,
      registry.validate name given = verdict ↔
        Judged registered added name given verdict := by
    intro name given verdict
    rw [hregistry]
    constructor
    · rintro rfl
      exact judged_validate registered added name given
    · exact Judged.eq_validate
  refine ⟨⟨?_, hnames⟩, ?_, after_filter operations, ?_⟩
  · rw [hnames]
    exact List.nodup_eraseDups _
  · intro name
    rw [hregistry, validator?, Entries.get?_ofPairs]
  · intro name given
    refine ⟨⟨?_, ?_⟩, ?_⟩
    · rintro ⟨failure, hfailure, hkind⟩
      exact ((hvalidate name given _).mp hfailure).never_registered hkind
    · intro hnever
      exact ⟨_, (hvalidate name given _).mpr (.unknown hnever), rfl⟩
    · intro verdict
      rw [← hvalidate, perform, Prod.mk.injEq, Option.some.injEq,
        and_iff_right rfl]

-- The badge keeps its place and gets other schemas, and so does the rule.
example :
    let silent : Rule := fun _ _ => none
    let complains : Rule := fun component props =>
      if Entries.has props "wide" then some (component ++ " is wide") else some ""
    let registry := after
      [.register "Badge" [], .addRule "width" silent, .register "Card" [],
        .validate "Badge" none, .addRule "length" complains,
        .register "Badge" [("wide", .bare .boolean {})],
        .addRule "width" complains]
    registry.names = ["Badge", "Card"] ∧
      (registry.validate "Card" (some [("wide", .bool true)])).isOk = true ∧
      ((registry.validate "Badge" (some [("wide", .bool true)])).mapError
          Failure.message).map AcceptedProps.dropped =
        .error "Global rule 'width' failed: Badge is wide" := by
  decide +kernel

end Registry
end ViewCompiler
