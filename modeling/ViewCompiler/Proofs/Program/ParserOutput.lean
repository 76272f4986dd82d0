import ViewCompiler.Program.Loading
import ViewCompiler.Proofs.Entries

/-!
# Parser output

Data that has no serialized part in it is read by the loader as parser output
throughout, whatever form the program has.  `Ensures` says what holds of a
loaded part, with a rule for each way in which loading is put together.
-/

namespace ViewCompiler

/-- The kinds that mark serialized parts of a program. -/
def Json.serializedKinds : List String :=
  ["app", "component", "element", "if", "for"]

/-- Data without a serialized part: no object in it names such a kind. -/
inductive Json.Unserialized : Json → Prop
  | null : Unserialized .null
  | bool (b : Bool) : Unserialized (.bool b)
  | number (n : Number) : Unserialized (.number n)
  | text (s : String) : Unserialized (.text s)
  | array {items : List Json} (hitems : ∀ item ∈ items, Unserialized item) :
      Unserialized (.array items)
  | object {entries : List (String × Json)}
      (hkind : ∀ kind ∈ serializedKinds,
        Entries.get? entries "kind" ≠ some (.text kind))
      (hentries : ∀ entry ∈ entries, Unserialized entry.2) :
      Unserialized (.object entries)

@[simp] theorem Json.unserialized_array_iff {items : List Json} :
    (Json.array items).Unserialized ↔ ∀ item ∈ items, item.Unserialized := by
  constructor
  · rintro (_ | _ | _ | _ | hitems)
    exact hitems
  · exact .array

@[simp] theorem Json.unserialized_object_iff {entries : List (String × Json)} :
    (Json.object entries).Unserialized ↔
      (∀ kind ∈ serializedKinds,
        Entries.get? entries "kind" ≠ some (.text kind)) ∧
      ∀ entry ∈ entries, entry.2.Unserialized := by
  constructor
  · rintro (_ | _ | _ | _ | _ | ⟨hkind, hentries⟩)
    exact ⟨hkind, hentries⟩
  · rintro ⟨hkind, hentries⟩
    exact .object hkind hentries

theorem Json.Unserialized.isText_kind {entries : List (String × Json)}
    (hdata : (Json.object entries).Unserialized) {kind : String}
    (hkind : kind ∈ Json.serializedKinds) :
    ((Entries.get? entries "kind").getD .null).isText kind = false := by
  cases hdata with
  | object hkinds _ =>
      have hne := hkinds kind hkind
      cases hget : Entries.get? entries "kind" with
      | none => rfl
      | some found =>
          rw [hget] at hne
          cases found <;> simp_all [Json.isText]

namespace Load

variable {α β : Type}

/-- Whatever is loaded has the property. -/
structure Ensures (load : Load α) (holds : α → Prop) : Prop where
  of_eq_ok : ∀ value, load = .ok value → holds value

theorem Ensures.bind {load : Load α} {next : α → Load β} {holds : α → Prop}
    {result : β → Prop} (hload : Ensures load holds)
    (hnext : ∀ value, holds value → Ensures (next value) result) :
    Ensures (load >>= next) result := by
  constructor
  intro value hvalue
  cases hfirst : load with
  | error fault =>
      rw [hfirst] at hvalue
      contradiction
  | ok first =>
      rw [hfirst] at hvalue
      exact (hnext first (hload.of_eq_ok first hfirst)).of_eq_ok value hvalue

theorem Ensures.pure {holds : α → Prop} {value : α} (hvalue : holds value) :
    Ensures (.ok value) holds := by
  constructor
  intro found hfound
  cases hfound
  exact hvalue

theorem Ensures.error {holds : α → Prop} {fault : LoadError} :
    Ensures (.error fault) holds := by
  constructor
  intro found hfound
  contradiction

theorem Ensures.refuse {holds : α → Prop} {error : Json → LoadError}
    {data : Json} : Ensures (refuse error data) holds := by
  unfold Load.refuse
  split
  · exact Ensures.error
  · exact Ensures.error

theorem Ensures.map {load : Load α} {f : α → β} {holds : α → Prop}
    {result : β → Prop} (hload : Ensures load holds)
    (hf : ∀ value, holds value → result (f value)) :
    Ensures (load.map f) result := by
  cases load with
  | error fault => exact Ensures.error
  | ok first => exact Ensures.pure (hf first (hload.of_eq_ok first rfl))

theorem ensures_true (load : Load α) : Ensures load fun _ => True :=
  ⟨fun _ _ => trivial⟩

/-- The form of unserialized data is unserialized too. -/
def Form.Unserialized : Form → Prop
  | .serialized _ => False
  | .parts entries => ∀ entry ∈ entries, entry.2.Unserialized
  | .items list => ∀ item ∈ list, item.Unserialized

theorem form_unserialized {data : Json} (hdata : data.Unserialized) :
    Ensures (form data) Form.Unserialized := by
  cases hdata with
  | array hitems => exact Ensures.pure hitems
  | object hkinds hentries =>
      rename_i entries
      have hself := Json.Unserialized.object hkinds hentries
      have hkind : ((Json.object entries).field "kind").isText "app" = false :=
        hself.isText_kind (by decide)
      have hitems : Form.Unserialized (.items [.object entries]) :=
        List.forall_mem_singleton.mpr hself
      simp only [form, hkind]
      by_cases hparts :
          (Entries.has entries "body" || Entries.has entries "components") = true
      · rw [if_neg Bool.false_ne_true, if_pos hparts]
        apply (ensures_true _).bind
        intro isDefinition _
        split
        next => exact Ensures.pure hitems
        next => exact Ensures.pure hentries
      · rw [if_neg Bool.false_ne_true, if_neg hparts]
        exact Ensures.pure hitems
  | _ => exact Ensures.error

end Load
end ViewCompiler
