import ViewCompiler.Proofs.Schema.NumericBounds
import ViewCompiler.Proofs.Schema.Acceptance
import ViewCompiler.Proofs.Value

/-!
# Parts that are left to render time

Any part of a value may be left to an expression that has a value at render time
only.  A schema that accepts the value then accepts what is left of it, unless
an enumeration inside lists values that have parts themselves: such a value is
compared as a whole, and an expression in it is equal to nothing.

What becomes of the value may change, since an alternative that refused it
before may accept it now.
-/

namespace ViewCompiler
namespace Value

/-- The second value is the first one with some of its parts, or all of it, left
to render time. -/
inductive Defers : Value → Value → Prop
  | kept (value : Value) : Defers value value
  | deferred (value : Value) (source : String) : Defers value (.runtime source)
  | list {items others : List Value}
      (hitems : List.Forall₂ Defers items others) :
      Defers (.list items) (.list others)
  | tuple {items others : List Value}
      (hitems : List.Forall₂ Defers items others) :
      Defers (.tuple items) (.tuple others)
  | record {entries others : List (String × Value)}
      (hkeys : Entries.keys entries = Entries.keys others)
      (hvalues : List.Forall₂ Defers (Entries.values entries)
        (Entries.values others)) :
      Defers (.record entries) (.record others)

/-- The value is null, a truth value, a number or a text. -/
def isScalar : Value → Bool
  | null => true
  | bool _ => true
  | number _ => true
  | text _ => true
  | _ => false

private theorem forall₂_entries_of_values {same : Value → Value → Prop}
    {entries others : List (String × Value)}
    (hkeys : Entries.keys entries = Entries.keys others)
    (hvalues : List.Forall₂ same (Entries.values entries)
      (Entries.values others)) :
    List.Forall₂ (fun entry other : String × Value =>
      entry.1 = other.1 ∧ same entry.2 other.2) entries others := by
  induction entries generalizing others with
  | nil =>
      cases others with
      | nil => exact .nil
      | cons => contradiction
  | cons entry rest ih =>
      cases others with
      | nil => contradiction
      | cons other others =>
          simp only [Entries.keys, Entries.values, List.map_cons,
            List.cons.injEq, List.forall₂_cons] at hkeys hvalues
          exact .cons ⟨hkeys.1, hvalues.1⟩ (ih hkeys.2 hvalues.2)

theorem MakesArrays.defers {rebuild : List Value → Value}
    (hrebuild : MakesArrays rebuild) {items others : List Value}
    (hitems : List.Forall₂ Defers items others) :
    Defers (rebuild items) (rebuild others) := by
  rcases hrebuild with rfl | rfl
  · exact .list hitems
  · exact .tuple hitems

theorem MakesArrays.isConcrete {rebuild : List Value → Value}
    (hrebuild : MakesArrays rebuild) (items : List Value) :
    (rebuild items).isConcrete := by
  rcases hrebuild with rfl | rfl
  · rfl
  · rfl

/-- What is found under a key is deferred, or not found on either side. -/
theorem Defers.entry {entries others : List (String × Value)}
    (hkeys : Entries.keys entries = Entries.keys others)
    (hvalues : List.Forall₂ Defers (Entries.values entries)
      (Entries.values others)) (key : String) :
    Defers (Value.entry entries key) (Value.entry others key) := by
  have hrel := rel_get?_of_forall₂ (forall₂_entries_of_values hkeys hvalues) key
  unfold Value.entry
  generalize Entries.get? entries key = first at hrel ⊢
  generalize Entries.get? others key = second at hrel ⊢
  cases hrel with
  | some hvalue => exact hvalue
  | none => exact .kept .missing

theorem isScalar_of_same {candidate value : Value}
    (hscalar : candidate.isScalar) (hsame : candidate.same value) :
    value.isScalar := by
  cases value with
  | null => rfl
  | bool b => rfl
  | number n => rfl
  | text s => rfl
  | _ =>
      cases candidate with
      | null => simp [same, asNumber?] at hsame
      | bool b => simp [same, asNumber?] at hsame
      | number n => simp [same, asNumber?] at hsame
      | text s => simp [same, asNumber?] at hsame
      | _ => contradiction

theorem isScalar_of_isMember {value : Value} {allowed : List Value}
    (hscalars : ∀ candidate ∈ allowed, candidate.isScalar)
    (hmember : value.isMember allowed) : value.isScalar := by
  obtain ⟨candidate, hmem, hsame, _⟩ := isMember_iff.mp hmember
  exact isScalar_of_same (hscalars candidate hmem) hsame

end Value

namespace Schema

/-- All values that the schema itself enumerates are scalars. -/
def ListsScalars : Schema → Prop
  | .enum _ values => ∀ candidate ∈ values, candidate.isScalar
  | _ => True

theorem accepts_bare_array_iff {kind : Kind} {presence : Presence}
    {rebuild : List Value → Value} (hrebuild : Value.MakesArrays rebuild)
    (items : List Value) :
    Accepts (.bare kind presence) (rebuild items) ↔
      kind = .array ∨ kind = .any := by
  rw [accepts_concrete_iff (hrebuild.isConcrete items)]
  rcases hrebuild with rfl | rfl
  · cases kind <;> simp [conform, conformBare, Verdict.unchanged,
      Verdict.mismatch, Verdict.violation, outsideValues, exhausted]
  · cases kind <;> simp [conform, conformBare, Verdict.unchanged,
      Verdict.mismatch, Verdict.violation, outsideValues, exhausted]

theorem accepts_bare_record_iff {kind : Kind} {presence : Presence}
    (entries : List (String × Value)) :
    Accepts (.bare kind presence) (.record entries) ↔
      kind = .object ∨ kind = .any := by
  rw [accepts_concrete_iff rfl]
  cases kind <;> simp [conform, conformBare, Verdict.unchanged,
    Verdict.mismatch, Verdict.violation, outsideValues, exhausted]

private theorem accepts_deferred_items {schema : Schema}
    (hstep : ∀ value deferred : Value, value.Defers deferred →
      Accepts schema value → Accepts schema deferred)
    {items others : List Value}
    (hitems : List.Forall₂ Value.Defers items others)
    (haccepts : ∀ item ∈ items, Accepts schema item) :
    ∀ other ∈ others, Accepts schema other := by
  induction hitems with
  | nil => simp
  | cons hdefers _ ih =>
      rw [List.forall_mem_cons] at haccepts ⊢
      exact ⟨hstep _ _ hdefers haccepts.1, ih haccepts.2⟩

section Shapes

variable {schema : Schema} (hscalars : ListsScalars schema)
  (hparts : ∀ part, PartOf part schema → ∀ value deferred : Value,
    value.Defers deferred → Accepts part value → Accepts part deferred)

include hscalars hparts

private theorem accepts_deferred_array {rebuild : List Value → Value}
    (hrebuild : Value.MakesArrays rebuild) {items others : List Value}
    (hitems : List.Forall₂ Value.Defers items others)
    (haccepts : Accepts schema (rebuild items)) :
    Accepts schema (rebuild others) := by
  have hfirst := hrebuild.isConcrete items
  have hsecond := hrebuild.isConcrete others
  cases schema with
  | bare kind presence =>
      rw [accepts_bare_array_iff hrebuild] at haccepts ⊢
      exact haccepts
  | string presence limits =>
      obtain ⟨text, htext, _⟩ := (accepts_string_iff hfirst).mp haccepts
      rcases hrebuild with rfl | rfl <;> contradiction
  | number presence limits =>
      obtain ⟨number, hnumber, _⟩ := (accepts_number_iff hfirst).mp haccepts
      rcases hrebuild with rfl | rfl <;> contradiction
  | array presence part size =>
      obtain ⟨values, hvalues, hmeets, hall⟩ :=
        (accepts_array_iff hfirst).mp haccepts
      obtain rfl : items = values := by
        rcases hrebuild with rfl | rfl
        · simpa using hvalues
        · simpa using hvalues
      refine (accepts_array_iff hsecond).mpr
        ⟨others, hrebuild.apply others, ?_, ?_⟩
      · rw [← hitems.length_eq]
        exact hmeets
      · rintro inner rfl
        exact accepts_deferred_items (hparts inner .items) hitems
          (hall inner rfl)
  | object presence properties =>
      obtain ⟨entries, hentries, _⟩ := (accepts_object_iff hfirst).mp haccepts
      rcases hrebuild with rfl | rfl <;> contradiction
  | enum presence values =>
      have hmember := (accepts_enum_iff hfirst).mp haccepts
      have hscalar := Value.isScalar_of_isMember hscalars hmember
      rcases hrebuild with rfl | rfl <;> contradiction
  | union presence alternatives =>
      obtain ⟨alternative, hmem, haccepts⟩ :=
        (accepts_union_iff hfirst).mp haccepts
      have halternative := hparts alternative (.alternative hmem) _ _
        (hrebuild.defers hitems) haccepts
      exact (accepts_union_iff hsecond).mpr ⟨alternative, hmem, halternative⟩

private theorem accepts_deferred_record {entries others : List (String × Value)}
    (hkeys : Entries.keys entries = Entries.keys others)
    (hvalues : List.Forall₂ Value.Defers (Entries.values entries)
      (Entries.values others))
    (haccepts : Accepts schema (.record entries)) :
    Accepts schema (.record others) := by
  cases schema with
  | bare kind presence =>
      rw [accepts_bare_record_iff] at haccepts ⊢
      exact haccepts
  | string presence limits =>
      obtain ⟨text, htext, _⟩ := (accepts_string_iff rfl).mp haccepts
      contradiction
  | number presence limits =>
      obtain ⟨number, hnumber, _⟩ := (accepts_number_iff rfl).mp haccepts
      contradiction
  | array presence part size =>
      obtain ⟨items, hitems, _⟩ := (accepts_array_iff rfl).mp haccepts
      rcases hitems with hitems | hitems <;> contradiction
  | object presence properties =>
      obtain ⟨given, hgiven, haccepted⟩ := (accepts_object_iff rfl).mp haccepts
      obtain rfl : entries = given := Value.record.inj hgiven
      refine (accepts_object_iff rfl).mpr ⟨others, rfl, ?_⟩
      rintro declared rfl property hmem
      exact hparts property.2 (.property hmem) _ _
        (Value.Defers.entry hkeys hvalues property.1)
        (haccepted declared rfl property hmem)
  | enum presence values =>
      have hmember := (accepts_enum_iff rfl).mp haccepts
      have hscalar := Value.isScalar_of_isMember hscalars hmember
      contradiction
  | union presence alternatives =>
      obtain ⟨alternative, hmem, haccepts⟩ :=
        (accepts_union_iff rfl).mp haccepts
      have halternative := hparts alternative (.alternative hmem) _ _
        (.record hkeys hvalues) haccepts
      exact (accepts_union_iff rfl).mpr ⟨alternative, hmem, halternative⟩

end Shapes

private theorem accepts_deferred {schema : Schema}
    (hscalars : Throughout ListsScalars schema) {value deferred : Value}
    (hdefers : value.Defers deferred) (haccepts : Accepts schema value) :
    Accepts schema deferred := by
  induction schema using induction_on_parts generalizing value deferred with
  | hstep schema ih =>
      have hparts : ∀ part, PartOf part schema → ∀ value deferred : Value,
          value.Defers deferred → Accepts part value → Accepts part deferred :=
        fun part hpart _ _ => ih part hpart (hscalars.part hpart)
      cases hdefers with
      | kept => exact haccepts
      | deferred _ source => exact accepts_runtime schema source
      | list hitems =>
          exact accepts_deferred_array hscalars.self hparts (Or.inl rfl) hitems
            haccepts
      | tuple hitems =>
          exact accepts_deferred_array hscalars.self hparts (Or.inr rfl) hitems
            haccepts
      | record hkeys hvalues =>
          exact accepts_deferred_record hscalars.self hparts hkeys hvalues
            haccepts

/-- A schema that enumerates only scalars accepts every value that it accepts
also with any of its parts left to render time, at whatever path.  If its bounds
are numbers, no comparison keeps the check from a verdict. -/
theorem deferring_introduces_no_failure {schema : Schema}
    (hscalars : Throughout ListsScalars schema) {value deferred : Value}
    (hdefers : value.Defers deferred) {path : String} {accepted : Accepted}
    (hok : schema.validate value path = .ok accepted) :
    (∀ place, ∃ result, schema.validate deferred place = .ok result) ∧
      (schema.hasNumericBounds = true → schema.comparison? deferred = none) := by
  have haccepts : Accepts schema value := accepts_of_ok hok
  have hdeferred : Accepts schema deferred :=
    accepts_deferred hscalars hdefers haccepts
  refine ⟨hdeferred, ?_⟩
  intro hnumeric
  exact comparison?_eq_none_of_numeric schema hnumeric deferred

/-- An order has a size and lines, each a count or a line with a name. -/
def order : Schema :=
  .object { required := true } (some
    [("size", .enum {} [.text "small", .bool true, .number (.int 3)]),
      ("lines", .array { required := true }
        (some (.union {}
          [.number {} { minimum := some (.int 1) },
            .object {} (some [("name", .string { required := true } {})])]))
        { minItems := some (.int 1) })])

def plainOrder : Value :=
  .record
    [("size", .number (.int 3)),
      ("lines", .tuple
        [.number (.int 2), .record [("name", .text "Nails")], .null])]

def deferredOrder : Value :=
  .record
    [("size", .runtime "chosen"),
      ("lines", .tuple
        [.number (.int 2), .record [("name", .runtime "label")],
          .runtime "rest"])]

theorem order_listsScalars : Throughout ListsScalars order := by
  have hsizes : ListsScalars
      (.enum {} [.text "small", .bool true, .number (.int 3)]) := by
    simp [ListsScalars, Value.isScalar]
  refine .object trivial ?_
  rw [List.forall_mem_cons, List.forall_mem_singleton]
  refine ⟨.of_plain rfl hsizes, .array trivial (.union trivial ?_)⟩
  rw [List.forall_mem_cons, List.forall_mem_singleton]
  refine ⟨.of_plain rfl trivial, .object trivial ?_⟩
  rw [List.forall_mem_singleton]
  exact .of_plain rfl trivial

theorem plainOrder_defers : plainOrder.Defers deferredOrder := by
  have hlines : List.Forall₂ Value.Defers
      [.number (.int 2), .record [("name", .text "Nails")], .null]
      [.number (.int 2), .record [("name", .runtime "label")],
        .runtime "rest"] :=
    .cons (.kept _)
      (.cons (.record rfl (.cons (.deferred _ _) .nil))
        (.cons (.deferred _ _) .nil))
  exact .record rfl (.cons (.deferred _ _) (.cons (.tuple hlines) .nil))

theorem deferredOrder_accepted :
    Throughout ListsScalars order ∧ plainOrder.Defers deferredOrder ∧
      (∃ accepted, order.validate plainOrder "order" = .ok accepted) ∧
      (∃ result, order.validate deferredOrder "order" = .ok result) ∧
      order.comparison? deferredOrder = none := by
  obtain ⟨accepted, hok⟩ : ∃ accepted,
      order.validate plainOrder "order" = .ok accepted := by
    rw [Except.exists_eq_ok_iff_isOk]
    decide +kernel
  obtain ⟨haccepts, hcompares⟩ := deferring_introduces_no_failure
    order_listsScalars plainOrder_defers hok
  exact ⟨order_listsScalars, plainOrder_defers, ⟨accepted, hok⟩,
    haccepts "order", hcompares (by decide)⟩

-- A list that is enumerated is compared as a whole.
example :
    ((Schema.enum {} [.list [.text "a"]]).validate
        (.list [.text "a"]) "value").isOk = true ∧
      ((Schema.enum {} [.list [.text "a"]]).validate
        (.list [.runtime "first"]) "value").isOk = false :=
  ⟨rfl, rfl⟩

end Schema

end ViewCompiler
