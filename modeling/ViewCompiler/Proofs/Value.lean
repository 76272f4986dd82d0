import ViewCompiler.Proofs.Entries
import ViewCompiler.Value.Basic
import Mathlib.Data.List.Forall2

/-!
# Inside values

A trail leads from a value to something inside it, one step for each array or
object on the way.  Its text, behind the path of the value, is the path that
messages name the place by.

Two values agree if they differ in nothing but the order of entries in objects.
Equality takes a truth value for the number one or zero; membership in a list of
values does so only inside of them.
-/

namespace ViewCompiler

/-- A step to an item of an array or to an entry of an object. -/
inductive Step where
  | item (index : Nat)
  | entry (key : String)
deriving DecidableEq, Repr

/-- The steps from a value to something inside it. -/
abbrev Trail := List Step

def Step.text : Step → String
  | item index => "[" ++ toString index ++ "]"
  | entry key => "." ++ key

/-- The path of the place that the trail leads to, from the path of the value
that it starts from. -/
def Trail.path (start : String) (trail : Trail) : String :=
  trail.foldl (fun path step => path ++ step.text) start

theorem Trail.path_item (start : String) (index : Nat) (trail : Trail) :
    Trail.path start (.item index :: trail) =
      Trail.path (start ++ "[" ++ toString index ++ "]") trail := by
  simp only [Trail.path, List.foldl_cons, Step.text, String.append_assoc]

theorem Trail.path_entry (start key : String) (trail : Trail) :
    Trail.path start (.entry key :: trail) =
      Trail.path (start ++ "." ++ key) trail := by
  simp only [Trail.path, List.foldl_cons, Step.text, String.append_assoc]

namespace Value

/-- Values are put together to a list or to a tuple. -/
def MakesArrays (rebuild : List Value → Value) : Prop :=
  rebuild = .list ∨ rebuild = .tuple

theorem MakesArrays.apply {rebuild : List Value → Value}
    (hrebuild : MakesArrays rebuild) (items : List Value) :
    rebuild items = .list items ∨ rebuild items = .tuple items := by
  rcases hrebuild with rfl | rfl
  · exact Or.inl rfl
  · exact Or.inr rfl

/-- What a step leads to, if there is something. -/
def step? : Value → Step → Option Value
  | list items, .item index => items[index]?
  | tuple items, .item index => items[index]?
  | record entries, .entry key => Entries.get? entries key
  | _, _ => none

theorem MakesArrays.step?_item {rebuild : List Value → Value}
    (hrebuild : MakesArrays rebuild) (items : List Value) (i : Nat) :
    (rebuild items).step? (.item i) = items[i]? := by
  rcases hrebuild with rfl | rfl
  · rfl
  · rfl

theorem MakesArrays.step?_entry {rebuild : List Value → Value}
    (hrebuild : MakesArrays rebuild) (items : List Value) (key : String) :
    (rebuild items).step? (.entry key) = none := by
  rcases hrebuild with rfl | rfl
  · rfl
  · rfl

theorem step?_cases {value inner : Value} {step : Step}
    (hstep : value.step? step = some inner) :
    (∃ rebuild items i, MakesArrays rebuild ∧ value = rebuild items ∧
      step = .item i ∧ items[i]? = some inner) ∨
    ∃ entries key, value = .record entries ∧ step = .entry key ∧
      Entries.get? entries key = some inner := by
  cases step with
  | item i =>
      left
      cases value with
      | list items => exact ⟨_, items, i, Or.inl rfl, rfl, rfl, hstep⟩
      | tuple items => exact ⟨_, items, i, Or.inr rfl, rfl, rfl, hstep⟩
      | _ => contradiction
  | entry key =>
      right
      cases value with
      | record entries => exact ⟨entries, key, rfl, rfl, hstep⟩
      | _ => contradiction

theorem sizeOf_lt_of_step? {value inner : Value} {step : Step}
    (hstep : value.step? step = some inner) : sizeOf inner < sizeOf value := by
  rcases step?_cases hstep with
    ⟨rebuild, items, i, hrebuild, rfl, rfl, hitem⟩ |
      ⟨entries, key, rfl, rfl, hentry⟩
  · have hlt := List.sizeOf_lt_of_mem (List.mem_of_getElem? hitem)
    rcases hrebuild with rfl | rfl
    · simp only [list.sizeOf_spec]
      omega
    · simp only [tuple.sizeOf_spec]
      omega
  · have hlt := List.sizeOf_lt_of_mem (Entries.mem_of_get?_eq_some hentry)
    simp only [record.sizeOf_spec, Prod.mk.sizeOf_spec] at hlt ⊢
    omega

/-- The value with something else where a step leads to. -/
def put : Value → Step → Value → Value
  | list items, .item index, inner => list (items.set index inner)
  | tuple items, .item index, inner => tuple (items.set index inner)
  | record entries, .entry key, inner => record (Entries.set entries key inner)
  | value, _, _ => value

theorem MakesArrays.put_item {rebuild : List Value → Value}
    (hrebuild : MakesArrays rebuild) (items : List Value) (i : Nat)
    (inner : Value) :
    (rebuild items).put (.item i) inner = rebuild (items.set i inner) := by
  rcases hrebuild with rfl | rfl
  · rfl
  · rfl

section Put

variable {value inner : Value} {step : Step}
  (hstep : value.step? step = some inner) (new : Value)

include hstep

theorem step?_put_self : (value.put step new).step? step = some new := by
  rcases step?_cases hstep with
    ⟨rebuild, items, i, hrebuild, rfl, rfl, hitem⟩ |
      ⟨entries, key, rfl, rfl, _⟩
  · obtain ⟨hi, _⟩ := List.getElem?_eq_some_iff.mp hitem
    rw [hrebuild.put_item, hrebuild.step?_item, List.getElem?_set_self hi]
  · exact Entries.get?_set_self entries key new

theorem step?_put_of_ne {other : Step} (hne : other ≠ step) :
    (value.put step new).step? other = value.step? other := by
  rcases step?_cases hstep with
    ⟨rebuild, items, i, hrebuild, rfl, rfl, _⟩ | ⟨entries, key, rfl, rfl, _⟩
  · rw [hrebuild.put_item]
    cases other with
    | item j =>
        have hindex : i ≠ j := fun heq => hne (congrArg Step.item heq.symm)
        rw [hrebuild.step?_item, hrebuild.step?_item,
          List.getElem?_set_ne hindex]
    | entry name => rw [hrebuild.step?_entry, hrebuild.step?_entry]
  · cases other with
    | item j => rfl
    | entry name =>
        have hname : name ≠ key := fun heq => hne (congrArg Step.entry heq)
        exact Entries.get?_set_of_ne hname

end Put

/-- What a trail leads to, if there is something. -/
def at? (value : Value) : Trail → Option Value
  | [] => some value
  | step :: trail => (value.step? step).bind (at? · trail)

/-- The steps that lead to something. -/
def steps : Value → List Step
  | list items => (List.range items.length).map .item
  | tuple items => (List.range items.length).map .item
  | record entries => (Entries.keys entries).map .entry
  | _ => []

theorem mem_steps {value inner : Value} {step : Step}
    (hstep : value.step? step = some inner) : step ∈ value.steps := by
  rcases step?_cases hstep with
    ⟨rebuild, items, i, hrebuild, rfl, rfl, hitem⟩ |
      ⟨entries, key, rfl, rfl, hentry⟩
  · obtain ⟨hi, _⟩ := List.getElem?_eq_some_iff.mp hitem
    rcases hrebuild with rfl | rfl
    · simp [steps, hi]
    · simp [steps, hi]
  · have hkey := Entries.has_iff_mem_keys.mp
      (Entries.has_of_get?_eq_some hentry)
    simp [steps, hkey]

/-- A value has only so many places. -/
theorem exists_trails (value : Value) :
    ∃ trails : List Trail, ∀ trail inner, value.at? trail = some inner →
      trail ∈ trails := by
  induction hsize : sizeOf value using Nat.strongRecOn generalizing value with
  | ind size ih =>
      have hinside : ∀ step, ∃ trails : List Trail, ∀ trail inner,
          (value.step? step).bind (at? · trail) = some inner →
            trail ∈ trails := by
        intro step
        cases hstep : value.step? step with
        | none => exact ⟨[], by simp⟩
        | some part =>
            have hlt := sizeOf_lt_of_step? hstep
            exact ih (sizeOf part) (hsize ▸ hlt) part rfl
      choose trails htrails using hinside
      refine ⟨[] :: value.steps.flatMap fun step =>
        (trails step).map (step :: ·), ?_⟩
      intro trail inner hinner
      cases trail with
      | nil => exact List.mem_cons_self
      | cons step trail =>
          have hrest := htrails step trail inner hinner
          obtain ⟨part, hpart, _⟩ := Option.bind_eq_some_iff.mp hinner
          apply List.mem_cons_of_mem
          exact List.mem_flatMap.mpr ⟨step, mem_steps hpart,
            List.mem_map.mpr ⟨trail, hrest, rfl⟩⟩

/-- The property holds of the value and of everything inside it. -/
def Throughout (p : Value → Prop) (value : Value) : Prop :=
  ∀ trail inner, value.at? trail = some inner → p inner

theorem Throughout.self {p : Value → Prop} {value : Value}
    (hall : Throughout p value) : p value :=
  hall [] value rfl

theorem Throughout.step {p : Value → Prop} {value inner : Value} {step : Step}
    (hall : Throughout p value) (hstep : value.step? step = some inner) :
    Throughout p inner := by
  intro trail found hfound
  apply hall (step :: trail) found
  rw [at?, hstep, Option.bind_some, hfound]

section Throughout

variable {p : Value → Prop}

theorem Throughout.of_steps {value : Value} (hself : p value)
    (hsteps : ∀ step inner, value.step? step = some inner →
      Throughout p inner) : Throughout p value := by
  intro trail found hfound
  cases trail with
  | nil =>
      obtain rfl := Option.some.inj hfound
      exact hself
  | cons step trail =>
      rw [at?, Option.bind_eq_some_iff] at hfound
      obtain ⟨inner, hinner, hfound⟩ := hfound
      exact hsteps step inner hinner trail found hfound

theorem Throughout.text {text : String} (hself : p (.text text)) :
    Throughout p (.text text) := by
  apply of_steps hself
  intro step inner hstep
  cases step <;> contradiction

theorem Throughout.array {rebuild : List Value → Value} {items : List Value}
    (hrebuild : MakesArrays rebuild) (hself : p (rebuild items))
    (hitems : ∀ item ∈ items, Throughout p item) :
    Throughout p (rebuild items) := by
  apply of_steps hself
  intro step inner hstep
  cases step with
  | item i =>
      rw [hrebuild.step?_item] at hstep
      exact hitems inner (List.mem_of_getElem? hstep)
  | entry key =>
      rw [hrebuild.step?_entry] at hstep
      contradiction

theorem Throughout.record {entries : List (String × Value)}
    (hself : p (.record entries))
    (hentries : ∀ entry ∈ entries, Throughout p entry.2) :
    Throughout p (.record entries) := by
  apply of_steps hself
  intro step inner hstep
  cases step with
  | item i => contradiction
  | entry key => exact hentries _ (Entries.mem_of_get?_eq_some hstep)

theorem Throughout.imp {q : Value → Prop} {value : Value}
    (hall : Throughout p value) (himp : ∀ inner, p inner → q inner) :
    Throughout q value :=
  fun trail inner hinner => himp inner (hall trail inner hinner)

end Throughout

theorem rel_get?_of_forall₂ {same : Value → Value → Prop}
    {entries others : List (String × Value)}
    (hentries : List.Forall₂ (fun entry other : String × Value =>
      entry.1 = other.1 ∧ same entry.2 other.2) entries others)
    (key : String) :
    Option.Rel same (Entries.get? entries key) (Entries.get? others key) := by
  induction hentries with
  | nil => exact .none
  | @cons entry other rest others hfirst _ ih =>
      obtain ⟨name, value⟩ := entry
      obtain ⟨name', value'⟩ := other
      obtain ⟨rfl, hvalue⟩ : name = name' ∧ same value value' := hfirst
      by_cases hname : name = key
      · simp only [Entries.get?, if_pos hname]
        exact .some hvalue
      · simp only [Entries.get?, if_neg hname]
        exact ih

/-- No key stands twice in the value itself, if it is an object. -/
def DistinctKeys : Value → Prop
  | .record entries => (Entries.keys entries).Nodup
  | _ => True

/-- The two values are the same but for the order of entries. -/
inductive Agrees : Value → Value → Prop
  | refl (value : Value) : Agrees value value
  | list {items others : List Value}
      (hitems : List.Forall₂ Agrees items others) :
      Agrees (.list items) (.list others)
  | tuple {items others : List Value}
      (hitems : List.Forall₂ Agrees items others) :
      Agrees (.tuple items) (.tuple others)
  | record {entries others : List (String × Value)}
      (hentries : ∀ key, Option.Rel Agrees (Entries.get? entries key)
        (Entries.get? others key)) :
      Agrees (.record entries) (.record others)

end Value

/-! ## Equality and membership -/

namespace Number

theorem same_iff {first second : Number} :
    first.same second = true ↔
      ∃ place, first.place = some place ∧ second.place = some place := by
  unfold same
  cases first.place with
  | none => simp
  | some place =>
      cases second.place with
      | none => simp
      | some other =>
          simp only [beq_iff_eq, Option.some.injEq, exists_eq_left']
          exact eq_comm

theorem same_comm {first second : Number} :
    first.same second = second.same first := by
  rw [Bool.eq_iff_iff, same_iff, same_iff]
  simp only [and_comm]

theorem same_congr {number other : Number} (hsame : number.same other = true)
    (first : Number) : first.same number = first.same other := by
  obtain ⟨place, hnumber, hother⟩ := same_iff.mp hsame
  unfold same
  rw [hnumber, hother]

theorem same_int_int_iff {m n : Int} :
    (int m).same (int n) = true ↔ m = n := by
  have hunits : (Double.unitsInOne : Int) ≠ 0 := by decide +kernel
  rw [same_iff]
  simp only [place, Option.some.injEq, exists_eq_left', Place.units.injEq]
  rw [Int.mul_eq_mul_right_iff hunits]
  exact eq_comm

end Number

namespace Value

/-- The truth value that the value is, if it is one. -/
def flag? : Value → Option Bool
  | bool b => some b
  | _ => none

/-- Membership compares truth values at the root and nowhere else. -/
theorem isMember_iff {value : Value} {allowed : List Value} :
    value.isMember allowed = true ↔
      ∃ candidate ∈ allowed, candidate.same value = true ∧
        candidate.flag? = value.flag? := by
  rw [isMember, List.any_eq_true]
  refine exists_congr fun candidate => and_congr_right fun _ => ?_
  split
  next b c =>
    rw [beq_iff_eq]
    constructor
    · rintro rfl
      exact ⟨Number.same_int_int_iff.mpr rfl, rfl⟩
    · rintro ⟨_, hflag⟩
      exact Option.some.inj hflag
  next b hvalue => simp [flag?]
  next c hcandidate => simp [flag?]
  next hcandidate hvalue _ => simp [flag?]

end Value

end ViewCompiler
