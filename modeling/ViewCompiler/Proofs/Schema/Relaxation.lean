import ViewCompiler.Proofs.Schema.Acceptance
import ViewCompiler.Proofs.Schema.NumericBounds

/-!
# Relaxed schemas

A schema is loosened by one change that lifts a restriction, in itself or in a
schema inside it, and relaxed by any number of such changes.  A relaxed schema
accepts whatever the schema accepted before.  What becomes of an accepted value
may change, since another alternative may come first or entries may be kept
that were dropped.
-/

namespace ViewCompiler

/-! ## Bounds that are moved or removed -/

theorem Place.lt_units_of_le {place : Place} {m n : Int} (hle : m ≤ n)
    (hlt : place.lt (.units m)) : place.lt (.units n) := by
  cases place with
  | below => rfl
  | units count =>
      simp only [Place.lt, decide_eq_true_eq] at hlt ⊢
      omega
  | above => contradiction

theorem Place.units_lt_of_le {place : Place} {m n : Int} (hle : m ≤ n)
    (hlt : (Place.units n).lt place) : (Place.units m).lt place := by
  cases place with
  | below => contradiction
  | units count =>
      simp only [Place.lt, decide_eq_true_eq] at hlt ⊢
      omega
  | above => rfl

namespace Bound

/-- The bound is a finite number, with the given count of smallest units. -/
def CountsUnits (bound : Bound) (count : Int) : Prop :=
  ∃ number, bound.size? = some number ∧ number.place = some (.units count)

theorem CountsUnits.undercut_eq {bound : Bound} {count : Int}
    (hcount : bound.CountsUnits count) (number : Number) :
    undercut number bound = number.place.any (·.lt (.units count)) := by
  obtain ⟨size, hsize, hplace⟩ := hcount
  simp only [undercut, hsize, Option.any_some, Number.lt, hplace]
  cases number.place with
  | none => rfl
  | some place => rfl

theorem CountsUnits.exceeded_eq {bound : Bound} {count : Int}
    (hcount : bound.CountsUnits count) (number : Number) :
    exceeded number bound = number.place.any ((Place.units count).lt ·) := by
  obtain ⟨size, hsize, hplace⟩ := hcount
  simp only [exceeded, hsize, Option.any_some, Number.lt, hplace]
  cases number.place with
  | none => rfl
  | some place => rfl

/-- Both bounds are finite numbers, and the first is not above the second. -/
def AtMost (lower higher : Bound) : Prop :=
  ∃ m n, lower.CountsUnits m ∧ higher.CountsUnits n ∧ m ≤ n

theorem AtMost.undercut {lower higher : Bound} (hle : lower.AtMost higher)
    {number : Number} (hundercut : Bound.undercut number lower) :
    Bound.undercut number higher := by
  obtain ⟨m, n, hm, hn, hmn⟩ := hle
  rw [hm.undercut_eq, Option.any_eq_true] at hundercut
  rw [hn.undercut_eq, Option.any_eq_true]
  obtain ⟨place, hplace, hlt⟩ := hundercut
  exact ⟨place, hplace, Place.lt_units_of_le hmn hlt⟩

theorem AtMost.exceeded {lower higher : Bound} (hle : lower.AtMost higher)
    {number : Number} (hexceeded : Bound.exceeded number higher) :
    Bound.exceeded number lower := by
  obtain ⟨m, n, hm, hn, hmn⟩ := hle
  rw [hn.exceeded_eq, Option.any_eq_true] at hexceeded
  rw [hm.exceeded_eq, Option.any_eq_true]
  obtain ⟨place, hplace, hlt⟩ := hexceeded
  exact ⟨place, hplace, Place.units_lt_of_le hmn hlt⟩

/-- A lower bound is moved down or removed. -/
inductive Lowered : Option Bound → Option Bound → Prop
  | moved {bound lower : Bound} (hle : lower.AtMost bound) :
      Lowered (some bound) (some lower)
  | removed {bound : Option Bound} : Lowered bound none

/-- An upper bound is moved up or removed. -/
inductive Raised : Option Bound → Option Bound → Prop
  | moved {bound higher : Bound} (hle : bound.AtMost higher) :
      Raised (some bound) (some higher)
  | removed {bound : Option Bound} : Raised bound none

theorem Lowered.keeps {old new : Option Bound} (hlowered : Lowered old new)
    {number : Number} (hmeets : ∀ bound ∈ old, ¬undercut number bound) :
    ∀ bound ∈ new, ¬undercut number bound := by
  cases hlowered with
  | removed => simp
  | @moved bound lower hle =>
      rintro _ ⟨⟩ hundercut
      exact hmeets bound rfl (hle.undercut hundercut)

theorem Raised.keeps {old new : Option Bound} (hraised : Raised old new)
    {number : Number} (hmeets : ∀ bound ∈ old, ¬exceeded number bound) :
    ∀ bound ∈ new, ¬exceeded number bound := by
  cases hraised with
  | removed => simp
  | @moved bound higher hle =>
      rintro _ ⟨⟩ hexceeded
      exact hmeets bound rfl (hle.exceeded hexceeded)

end Bound

namespace Schema

/-! ## One change -/

/-- One restriction is lifted, in the schema or in a schema inside it. -/
inductive Loosened : Schema → Schema → Prop
  | optional {schema : Schema} :
      Loosened schema
        (schema.withPresence { schema.presence with required := false })
  | any {schema : Schema} {presence : Presence}
      (hrequired : presence.required → schema.required) :
      Loosened schema (any presence)
  | minLength {presence : Presence} {limits : TextLimits}
      {bound : Option Bound} (hbound : Bound.Lowered limits.minLength bound) :
      Loosened (.string presence limits)
        (.string presence { limits with minLength := bound })
  | maxLength {presence : Presence} {limits : TextLimits}
      {bound : Option Bound} (hbound : Bound.Raised limits.maxLength bound) :
      Loosened (.string presence limits)
        (.string presence { limits with maxLength := bound })
  | pattern {presence : Presence} {limits : TextLimits} :
      Loosened (.string presence limits)
        (.string presence { limits with pattern := none })
  | minimum {presence : Presence} {limits : NumberLimits}
      {bound : Option Bound} (hbound : Bound.Lowered limits.minimum bound) :
      Loosened (.number presence limits)
        (.number presence { limits with minimum := bound })
  | maximum {presence : Presence} {limits : NumberLimits}
      {bound : Option Bound} (hbound : Bound.Raised limits.maximum bound) :
      Loosened (.number presence limits)
        (.number presence { limits with maximum := bound })
  | integer {presence : Presence} {limits : NumberLimits} :
      Loosened (.number presence limits)
        (.number presence { limits with integer := false })
  | minItems {presence : Presence} {items : Option Schema} {size : SizeLimits}
      {bound : Option Bound} (hbound : Bound.Lowered size.minItems bound) :
      Loosened (.array presence items size)
        (.array presence items { size with minItems := bound })
  | maxItems {presence : Presence} {items : Option Schema} {size : SizeLimits}
      {bound : Option Bound} (hbound : Bound.Raised size.maxItems bound) :
      Loosened (.array presence items size)
        (.array presence items { size with maxItems := bound })
  | items {presence : Presence} {items : Option Schema} {size : SizeLimits} :
      Loosened (.array presence items size) (.array presence none size)
  | property {presence : Presence} {before after : List (String × Schema)}
      {property : String × Schema} :
      Loosened (.object presence (some (before ++ property :: after)))
        (.object presence (some (before ++ after)))
  | properties {presence : Presence}
      {properties : Option (List (String × Schema))} :
      Loosened (.object presence properties) (.object presence none)
  | value {presence : Presence} {before after : List Value} {value : Value} :
      Loosened (.enum presence (before ++ after))
        (.enum presence (before ++ value :: after))
  | alternative {presence : Presence} {before after : List Schema}
      {alternative : Schema} :
      Loosened (.union presence (before ++ after))
        (.union presence (before ++ alternative :: after))
  | bareEnum {presence : Presence} {values : List Value} :
      Loosened (.bare .enum presence) (.enum presence values)
  | bareUnion {presence : Presence} {alternatives : List Schema} :
      Loosened (.bare .union presence) (.union presence alternatives)
  | inItems {presence : Presence} {schema looser : Schema} {size : SizeLimits}
      (hloosened : Loosened schema looser) :
      Loosened (.array presence (some schema) size)
        (.array presence (some looser) size)
  | inProperty {presence : Presence} {before after : List (String × Schema)}
      {key : String} {schema looser : Schema}
      (hloosened : Loosened schema looser) :
      Loosened (.object presence (some (before ++ (key, schema) :: after)))
        (.object presence (some (before ++ (key, looser) :: after)))
  | inAlternative {presence : Presence} {before after : List Schema}
      {schema looser : Schema} (hloosened : Loosened schema looser) :
      Loosened (.union presence (before ++ schema :: after))
        (.union presence (before ++ looser :: after))

theorem presence_withPresence (schema : Schema) (presence : Presence) :
    (schema.withPresence presence).presence = presence := by
  cases schema <;> rfl

theorem conform_withPresence (schema : Schema) (presence : Presence)
    (value : Value) (path : String) :
    (schema.withPresence presence).conform value path =
      schema.conform value path := by
  cases schema with
  | array _ items _ => cases items <;> simp only [withPresence, conform]
  | object _ properties =>
      cases properties <;> simp only [withPresence, conform]
  | _ => simp only [withPresence, conform]

theorem Loosened.required {schema looser : Schema}
    (hloosened : Loosened schema looser) :
    looser.required → schema.required := by
  cases hloosened with
  | optional => simp [Schema.required, presence_withPresence]
  | any hrequired => exact hrequired
  | _ => exact id

/-- A change is safe if it demands no more values to be given and refuses none
of those that are there. -/
theorem accepts_of_concrete {schema looser : Schema}
    (hrequired : looser.required → schema.required)
    (hconcrete : ∀ value : Value, value.isConcrete → Accepts schema value →
      Accepts looser value)
    {value : Value} (haccepts : Accepts schema value) :
    Accepts looser value := by
  rcases value.isAbsent_or_runtime_or_concrete with
    habsent | ⟨source, rfl⟩ | hvalue
  · rw [accepts_absent_iff habsent] at haccepts ⊢
    exact fun hdemanded => haccepts (hrequired hdemanded)
  · exact accepts_runtime looser source
  · exact hconcrete value hvalue haccepts

section Shapes

variable {presence : Presence} {value : Value}

theorem accepts_string_mono {limits looser : TextLimits}
    (hmeets : ∀ text, limits.Meets text → looser.Meets text)
    (haccepts : Accepts (.string presence limits) value) :
    Accepts (.string presence looser) value := by
  apply accepts_of_concrete _ _ haccepts
  · exact id
  · intro value hvalue haccepts
    obtain ⟨text, rfl, htext⟩ := (accepts_string_iff hvalue).mp haccepts
    exact (accepts_string_iff hvalue).mpr ⟨text, rfl, hmeets text htext⟩

theorem accepts_number_mono {limits looser : NumberLimits}
    (hmeets : ∀ number, limits.Meets number → looser.Meets number)
    (haccepts : Accepts (.number presence limits) value) :
    Accepts (.number presence looser) value := by
  apply accepts_of_concrete _ _ haccepts
  · exact id
  · intro value hvalue haccepts
    obtain ⟨number, rfl, hnan, hnumber⟩ :=
      (accepts_number_iff hvalue).mp haccepts
    exact (accepts_number_iff hvalue).mpr
      ⟨number, rfl, hnan, hmeets number hnumber⟩

theorem accepts_array_mono {items looserItems : Option Schema}
    {size looserSize : SizeLimits}
    (hsize : ∀ count, size.Meets count → looserSize.Meets count)
    (hitems : ∀ looser ∈ looserItems, ∃ schema ∈ items, ∀ item,
      Accepts schema item → Accepts looser item)
    (haccepts : Accepts (.array presence items size) value) :
    Accepts (.array presence looserItems looserSize) value := by
  apply accepts_of_concrete _ _ haccepts
  · exact id
  · intro value hvalue haccepts
    obtain ⟨values, hvalues, hmeets, hall⟩ :=
      (accepts_array_iff hvalue).mp haccepts
    refine (accepts_array_iff hvalue).mpr
      ⟨values, hvalues, hsize _ hmeets, ?_⟩
    intro looser hlooser item hitem
    obtain ⟨schema, hschema, hstep⟩ := hitems looser hlooser
    exact hstep item (hall schema hschema item hitem)

theorem accepts_object_mono
    {properties looserProperties : Option (List (String × Schema))}
    (hproperties : ∀ lessDeclared ∈ looserProperties, ∃ declared ∈ properties,
      ∀ looser ∈ lessDeclared, ∃ property ∈ declared,
        property.1 = looser.1 ∧
          ∀ entry, Accepts property.2 entry → Accepts looser.2 entry)
    (haccepts : Accepts (.object presence properties) value) :
    Accepts (.object presence looserProperties) value := by
  apply accepts_of_concrete _ _ haccepts
  · exact id
  · intro value hvalue haccepts
    obtain ⟨entries, rfl, hall⟩ := (accepts_object_iff hvalue).mp haccepts
    refine (accepts_object_iff hvalue).mpr ⟨entries, rfl, ?_⟩
    intro lessDeclared hless looser hlooser
    obtain ⟨declared, hdeclared, hfrom⟩ := hproperties lessDeclared hless
    obtain ⟨property, hproperty, hname, hstep⟩ := hfrom looser hlooser
    rw [← hname]
    exact hstep _ (hall declared hdeclared property hproperty)

theorem accepts_enum_mono {values looser : List Value}
    (hvalues : values ⊆ looser)
    (haccepts : Accepts (.enum presence values) value) :
    Accepts (.enum presence looser) value := by
  apply accepts_of_concrete _ _ haccepts
  · exact id
  · intro value hvalue haccepts
    rw [accepts_enum_iff hvalue, Value.isMember, List.any_eq_true]
      at haccepts ⊢
    obtain ⟨candidate, hmem, hsame⟩ := haccepts
    exact ⟨candidate, hvalues hmem, hsame⟩

theorem accepts_union_mono {alternatives looserAlternatives : List Schema}
    (halternatives : ∀ alternative ∈ alternatives,
      ∃ looser ∈ looserAlternatives, ∀ value,
        Accepts alternative value → Accepts looser value)
    (haccepts : Accepts (.union presence alternatives) value) :
    Accepts (.union presence looserAlternatives) value := by
  apply accepts_of_concrete _ _ haccepts
  · exact id
  · intro value hvalue haccepts
    obtain ⟨alternative, hmem, haccepts⟩ :=
      (accepts_union_iff hvalue).mp haccepts
    obtain ⟨looser, hlooser, hstep⟩ := halternatives alternative hmem
    exact (accepts_union_iff hvalue).mpr ⟨looser, hlooser, hstep value haccepts⟩

end Shapes

theorem Loosened.accepts {schema looser : Schema}
    (hloosened : Loosened schema looser) {value : Value}
    (haccepts : Accepts schema value) : Accepts looser value := by
  -- The induction is on the depth of the change; only the last three cases
  -- have a hypothesis, for the part that was changed.
  induction hloosened generalizing value with
  | optional =>
      apply accepts_of_concrete Loosened.optional.required _ haccepts
      intro value hvalue haccepts
      rw [accepts_concrete_iff hvalue] at haccepts ⊢
      simpa only [conform_withPresence] using haccepts
  | any hrequired =>
      apply accepts_of_concrete (Loosened.any hrequired).required _ haccepts
      intro value hvalue _
      exact accepts_any hvalue
  | minLength hbound =>
      apply accepts_string_mono _ haccepts
      intro text hmeets
      exact ⟨hbound.keeps hmeets.minLength, hmeets.maxLength, hmeets.pattern⟩
  | maxLength hbound =>
      apply accepts_string_mono _ haccepts
      intro text hmeets
      exact ⟨hmeets.minLength, hbound.keeps hmeets.maxLength, hmeets.pattern⟩
  | pattern =>
      apply accepts_string_mono _ haccepts
      intro text hmeets
      exact ⟨hmeets.minLength, hmeets.maxLength, by simp⟩
  | minimum hbound =>
      apply accepts_number_mono _ haccepts
      intro number hmeets
      exact ⟨hbound.keeps hmeets.minimum, hmeets.maximum, hmeets.integer⟩
  | maximum hbound =>
      apply accepts_number_mono _ haccepts
      intro number hmeets
      exact ⟨hmeets.minimum, hbound.keeps hmeets.maximum, hmeets.integer⟩
  | integer =>
      apply accepts_number_mono _ haccepts
      intro number hmeets
      exact ⟨hmeets.minimum, hmeets.maximum, by simp⟩
  | minItems hbound =>
      apply accepts_array_mono _ _ haccepts
      · intro count hmeets
        exact ⟨hbound.keeps hmeets.minItems, hmeets.maxItems⟩
      · intro schema hschema
        exact ⟨schema, hschema, fun _ => id⟩
  | maxItems hbound =>
      apply accepts_array_mono _ _ haccepts
      · intro count hmeets
        exact ⟨hmeets.minItems, hbound.keeps hmeets.maxItems⟩
      · intro schema hschema
        exact ⟨schema, hschema, fun _ => id⟩
  | items =>
      apply accepts_array_mono _ _ haccepts
      · exact fun _ => id
      · simp
  | @property presence before after property =>
      apply accepts_object_mono _ haccepts
      rintro _ ⟨⟩
      refine ⟨_, rfl, ?_⟩
      intro kept hkept
      exact ⟨kept, List.append_subset_insert before after property hkept, rfl,
        fun _ => id⟩
  | properties =>
      apply accepts_object_mono _ haccepts
      simp
  | value => exact accepts_enum_mono (List.append_subset_insert _ _ _) haccepts
  | alternative =>
      apply accepts_union_mono _ haccepts
      intro kept hkept
      exact ⟨kept, List.append_subset_insert _ _ _ hkept, fun _ => id⟩
  | bareEnum =>
      apply accepts_of_concrete _ _ haccepts
      · exact id
      · intro value hvalue haccepts
        rw [accepts_concrete_iff hvalue] at haccepts
        simp [conform, conformBare, outsideValues, Verdict.violation] at haccepts
  | bareUnion =>
      apply accepts_of_concrete _ _ haccepts
      · exact id
      · intro value hvalue haccepts
        rw [accepts_concrete_iff hvalue] at haccepts
        simp [conform, conformBare, exhausted] at haccepts
  | inItems _ ih =>
      apply accepts_array_mono _ _ haccepts
      · exact fun _ => id
      · rintro _ ⟨⟩
        exact ⟨_, rfl, fun _ => ih⟩
  | @inProperty presence before after key schema looser _ ih =>
      apply accepts_object_mono _ haccepts
      rintro _ ⟨⟩
      refine ⟨_, rfl, ?_⟩
      intro property hproperty
      rcases List.mem_insert_of_mem_insert (b := (key, schema)) hproperty with
        rfl | hother
      · exact ⟨(key, schema), by simp, rfl, fun _ => ih⟩
      · exact ⟨property, hother, rfl, fun _ => id⟩
  | @inAlternative presence before after schema looser _ ih =>
      apply accepts_union_mono _ haccepts
      intro alternative halternative
      rcases List.mem_insert_of_mem_insert (b := looser) halternative with
        rfl | hother
      · exact ⟨looser, by simp, fun _ => ih⟩
      · exact ⟨alternative, hother, fun _ => id⟩

/-! ## Any number of changes -/

/-- Any number of restrictions are lifted, one after the other. -/
abbrev Relaxed : Schema → Schema → Prop :=
  Relation.ReflTransGen Loosened

theorem Relaxed.accepts {schema relaxed : Schema}
    (hrelaxed : Relaxed schema relaxed) {value : Value}
    (haccepts : Accepts schema value) : Accepts relaxed value := by
  induction hrelaxed with
  | refl => exact haccepts
  | tail _ hstep ih => exact hstep.accepts ih

/-- A value that a schema accepts is accepted by the schema with restrictions
lifted, as long as all bounds are numbers that something can be compared
with. -/
theorem relaxing_rejects_no_more {schema relaxed : Schema}
    (hrelaxed : Relaxed schema relaxed)
    (hnumeric : relaxed.hasNumericBounds = true) {value : Value}
    {path : String} {accepted : Accepted}
    (hok : schema.validate value path = .ok accepted) :
    relaxed.comparison? value = none ∧
      ∃ result, relaxed.validate value path = .ok result := by
  have haccepts : Accepts relaxed value := hrelaxed.accepts (accepts_of_ok hok)
  exact ⟨comparison?_eq_none_of_numeric relaxed hnumeric value, haccepts path⟩

/-- A label of the given length and one of the given sizes. -/
def labelled (minLength : Int) (sizes : List Schema) : Schema :=
  .object { required := true } (some
    [("label", .string { required := true }
        { minLength := some (.int minLength) }),
      ("size", .union { required := true } sizes)])

def largeSizes : Schema :=
  .number {} { minimum := some (.int 10), integer := true }

def sizedLabel : Value :=
  .record [("label", .text "Total"), ("size", .number (.int 12))]

theorem labelled_relaxed :
    Relaxed (labelled 3 [largeSizes])
      (labelled 1 [boolean {}, .number {} { integer := true }]) := by
  have hle : (Bound.int 1).AtMost (Bound.int 3) :=
    ⟨_, _, ⟨_, rfl, rfl⟩, ⟨_, rfl, rfl⟩, by decide +kernel⟩
  have hlabel : Loosened (labelled 3 [largeSizes]) (labelled 1 [largeSizes]) :=
    @Loosened.inProperty _ [] _ _ _ _ (.minLength (.moved hle))
  have hsize : Loosened (labelled 1 [largeSizes])
      (labelled 1 [boolean {}, largeSizes]) :=
    @Loosened.inProperty _ [_] _ _ _ _ (@Loosened.alternative _ [] _ _)
  have hlarge : Loosened (labelled 1 [boolean {}, largeSizes])
      (labelled 1 [boolean {}, .number {} { integer := true }]) :=
    @Loosened.inProperty _ [_] _ _ _ _
      (@Loosened.inAlternative _ [_] _ _ _ (.minimum .removed))
  exact ((Relation.ReflTransGen.single hlabel).tail hsize).tail hlarge

theorem sizedLabel_accepted_by_relaxed :
    Relaxed (labelled 3 [largeSizes])
        (labelled 1 [boolean {}, .number {} { integer := true }]) ∧
      (∃ accepted,
        (labelled 3 [largeSizes]).validate sizedLabel "label" = .ok accepted) ∧
      ∃ result, (labelled 1 [boolean {}, .number {} { integer := true }]).validate
        sizedLabel "label" = .ok result := by
  have hok : ∃ accepted,
      (labelled 3 [largeSizes]).validate sizedLabel "label" = .ok accepted := by
    rw [Except.exists_eq_ok_iff_isOk]
    decide +kernel
  obtain ⟨accepted, haccepted⟩ := hok
  have hresult := relaxing_rejects_no_more labelled_relaxed (by decide)
    haccepted
  exact ⟨labelled_relaxed, ⟨accepted, haccepted⟩, hresult.2⟩

end Schema

end ViewCompiler
