import ViewCompiler.Proofs.Schema.Acceptance
import ViewCompiler.Proofs.Schema.PlainCheck
import ViewCompiler.Proofs.Value

/-!
# Where a check fails

A check stops at the first breach.  The path of its failure is the path of the
value with the steps to the breach behind it, and following the same steps
leads to the value that the failure carries, or to nothing where a value is
demanded.  Everything that the check looked at on the way there was accepted.

Alternatives of a union fail on their own and are not on the way: a union that
is exhausted is itself the place of the failure.
-/

namespace ViewCompiler

namespace Schema

/-! ## The first refused part -/

/-- Items fail at the first one that is refused. -/
theorem exists_refused_item {schema : Schema} {path : String} {index : Nat}
    {items : List Value} {failure : Failure}
    (herror : validateItems schema.validate path index items = .error failure) :
    ∃ before item after, items = before ++ item :: after ∧
      (∀ earlier ∈ before, Accepts schema earlier) ∧
      schema.validate item
          (path ++ "[" ++ toString (index + before.length) ++ "]") =
        .error failure := by
  induction items generalizing index with
  | nil => simp [validateItems] at herror
  | cons first rest ih =>
      simp only [validateItems, Except.bind_eq_error_iff] at herror
      rcases herror with hfirst | ⟨accepted, hfirst, hrest | ⟨found, _, hpure⟩⟩
      · exact ⟨[], first, rest, rfl, by simp, hfirst⟩
      · obtain ⟨before, item, after, rfl, hbefore, hitem⟩ := ih hrest
        refine ⟨first :: before, item, after, rfl, ?_, ?_⟩
        · rw [List.forall_mem_cons]
          exact ⟨accepts_of_ok hfirst, hbefore⟩
        · rw [List.length_cons, ← Nat.add_assoc, Nat.add_right_comm]
          exact hitem
      · contradiction

/-- Declared properties fail at the first one whose entry is refused. -/
theorem exists_refused_property {properties : List (String × Schema)}
    {entries : List (String × Value)} {path : String} {failure : Failure}
    (herror : conformProperties properties entries path = .error failure) :
    ∃ before key schema after, properties = before ++ (key, schema) :: after ∧
      (∀ earlier ∈ before,
        Accepts earlier.2 (Value.entry entries earlier.1)) ∧
      schema.validate (Value.entry entries key) (path ++ "." ++ key) =
        .error failure := by
  induction properties with
  | nil => simp [conformProperties] at herror
  | cons property rest ih =>
      obtain ⟨key, schema⟩ := property
      simp only [conformProperties, Except.bind_eq_error_iff] at herror
      rcases herror with hfirst | ⟨accepted, hfirst, hrest | ⟨found, _, hpure⟩⟩
      · exact ⟨[], key, schema, rest, rfl, by simp, hfirst⟩
      · obtain ⟨before, name, found, after, rfl, hbefore, hentry⟩ := ih hrest
        refine ⟨(key, schema) :: before, name, found, after, rfl, ?_, hentry⟩
        rw [List.forall_mem_cons]
        exact ⟨accepts_of_ok hfirst, hbefore⟩
      · split at hpure <;> contradiction

/-! ## The way to the failure -/

/-- The trail leads from a value to something inside it, and from the schema of
the value to the schema of what is found there.  All items before the trail at
an array, and all properties declared before it at an object, pass. -/
inductive Leads : Schema → Value → Trail → Schema → Value → Prop
  | here {schema : Schema} {value : Value} :
      Leads schema value [] schema value
  | item {presence : Presence} {schema inner : Schema} {size : SizeLimits}
      {value item found : Value} {before after : List Value} {trail : Trail}
      (hvalue : value = .list (before ++ item :: after) ∨
        value = .tuple (before ++ item :: after))
      (hbefore : ∀ earlier ∈ before, Passes schema earlier)
      (hinner : Leads schema item trail inner found) :
      Leads (.array presence (some schema) size) value
        (.item before.length :: trail) inner found
  | entry {presence : Presence} {schema inner : Schema} {key : String}
      {before after : List (String × Schema)}
      {entries : List (String × Value)} {found : Value} {trail : Trail}
      (hbefore : ∀ earlier ∈ before,
        Passes earlier.2 (Value.entry entries earlier.1))
      (hinner : Leads schema (Value.entry entries key) trail inner found) :
      Leads (.object presence (some (before ++ (key, schema) :: after)))
        (.record entries) (.entry key :: trail) inner found

/-- A trail that leaves the value leads to something absent. -/
theorem Leads.found_eq {schema inner : Schema} {value found : Value}
    {trail : Trail} (hleads : Leads schema value trail inner found) :
    found = (value.at? trail).getD .missing := by
  induction hleads with
  | here => rfl
  | item hvalue _ _ ih =>
      rcases hvalue with rfl | rfl
      · simpa [Value.at?, Value.step?] using ih
      · simpa [Value.at?, Value.step?] using ih
  | @entry _ _ _ key _ _ entries _ trail _ _ ih =>
      rw [ih, Value.at?, Value.step?, Value.entry]
      cases Entries.get? entries key with
      | some given => rfl
      | none =>
          cases trail with
          | nil => rfl
          | cons step rest => rfl

private theorem conform_items_eq_error {presence : Presence} {schema : Schema}
    {size : SizeLimits} {value : Value} {path : String} {failure : Failure}
    (hpresent : ¬value.isAbsent)
    (herror : conform (.array presence (some schema) size) value path =
      .error failure) :
    failure.IsAbout path value ∨
      ∃ items, (value = .list items ∨ value = .tuple items) ∧
        size.breach items.length = none ∧
        validateItems schema.validate path 0 items = .error failure := by
  have hcheck : ∀ rebuild items, ¬(rebuild items : Value).isAbsent →
      validateArray size (some schema.validate) rebuild items path =
          .error failure →
        failure.IsAbout path (rebuild items) ∨
          size.breach items.length = none ∧
            validateItems schema.validate path 0 items = .error failure := by
    intro rebuild items hrebuilt hfails
    unfold validateArray at hfails
    cases hbreach : size.breach items.length with
    | some message =>
        rw [hbreach] at hfails
        exact Or.inl ((Verdict.violation_plain hrebuilt).isAbout hfails)
    | none =>
        simp only [hbreach, Except.bind_eq_error_iff] at hfails
        rcases hfails with hitems | ⟨found, _, hpure⟩
        · exact Or.inr ⟨rfl, hitems⟩
        · contradiction
  cases value with
  | list items =>
      simp only [conform] at herror
      refine (hcheck .list items hpresent herror).imp_right ?_
      exact fun hitems => ⟨items, Or.inl rfl, hitems⟩
  | tuple items =>
      simp only [conform] at herror
      refine (hcheck .tuple items hpresent herror).imp_right ?_
      exact fun hitems => ⟨items, Or.inr rfl, hitems⟩
  | _ =>
      simp only [conform] at herror
      exact Or.inl ((Verdict.mismatch_plain hpresent).isAbout herror)

private theorem conform_properties_eq_error {presence : Presence}
    {properties : List (String × Schema)} {value : Value} {path : String}
    {failure : Failure} (hpresent : ¬value.isAbsent)
    (herror : conform (.object presence (some properties)) value path =
      .error failure) :
    failure.IsAbout path value ∨
      ∃ entries, value = .record entries ∧
        conformProperties properties entries path = .error failure := by
  cases value with
  | record entries =>
      simp only [conform, Except.bind_eq_error_iff] at herror
      rcases herror with hproperties | ⟨found, _, hpure⟩
      · exact Or.inr ⟨entries, rfl, hproperties⟩
      · contradiction
  | _ =>
      simp only [conform] at herror
      exact Or.inl ((Verdict.mismatch_plain hpresent).isAbout herror)

private theorem conform_union_isAbout {presence : Presence}
    {alternatives : List Schema} {value : Value} {path : String}
    {failure : Failure} (hpresent : ¬value.isAbsent)
    (herror : conform (.union presence alternatives) value path =
      .error failure) :
    failure.IsAbout path value := by
  simp only [conform] at herror
  cases hall : conformAlternatives alternatives value path with
  | ok accepted => simp [hall] at herror
  | error messages =>
      rw [hall] at herror
      exact (exhausted_plain hpresent).isAbout herror

/-- The ways in which a check fails: by the value itself, by the first item that
is refused, or by the first declared property whose entry is. -/
theorem validate_eq_error_cases {schema : Schema} {value : Value}
    {path : String} {failure : Failure}
    (hfailure : schema.validate value path = .error failure) :
    failure.IsAbout path value ∨
      (∃ presence inner size before item after,
        schema = .array presence (some inner) size ∧
          (value = .list (before ++ item :: after) ∨
            value = .tuple (before ++ item :: after)) ∧
          size.breach (before ++ item :: after).length = none ∧
          (∀ earlier ∈ before, Accepts inner earlier) ∧
          inner.validate item
              (path ++ "[" ++ toString before.length ++ "]") =
            .error failure) ∨
      ∃ presence before key inner after entries,
        schema = .object presence (some (before ++ (key, inner) :: after)) ∧
          value = .record entries ∧
          (∀ earlier ∈ before,
            Accepts earlier.2 (Value.entry entries earlier.1)) ∧
          inner.validate (Value.entry entries key) (path ++ "." ++ key) =
            .error failure := by
  rcases value.isAbsent_or_runtime_or_concrete with
    habsent | ⟨source, rfl⟩ | hconcrete
  · left
    rw [validate, Presence.judge_absent habsent] at hfailure
    split at hfailure
    · obtain rfl := Except.error.inj hfailure
      exact ⟨rfl, ⟨" is required", rfl⟩, fun _ => ⟨habsent, rfl⟩,
        fun hkind => absurd rfl hkind, List.mem_cons_self⟩
    · contradiction
  · contradiction
  · have hpresent := Value.isAbsent_of_isConcrete hconcrete
    rw [validate_concrete hconcrete] at hfailure
    cases schema with
    | array presence items size =>
        cases items with
        | none =>
            exact Or.inl ((conform_plain rfl hpresent path).isAbout hfailure)
        | some inner =>
            rcases conform_items_eq_error hpresent hfailure with
              habout | ⟨items, hvalue, hbreach, hitems⟩
            · exact Or.inl habout
            · obtain ⟨before, item, after, rfl, hbefore, hitem⟩ :=
                exists_refused_item hitems
              rw [Nat.zero_add] at hitem
              exact Or.inr (Or.inl ⟨presence, inner, size, before, item, after,
                rfl, hvalue, hbreach, hbefore, hitem⟩)
    | object presence properties =>
        cases properties with
        | none =>
            exact Or.inl ((conform_plain rfl hpresent path).isAbout hfailure)
        | some properties =>
            rcases conform_properties_eq_error hpresent hfailure with
              habout | ⟨entries, rfl, hproperties⟩
            · exact Or.inl habout
            · obtain ⟨before, key, inner, after, rfl, hbefore, hentry⟩ :=
                exists_refused_property hproperties
              exact Or.inr (Or.inr ⟨presence, before, key, inner, after,
                entries, rfl, rfl, hbefore, hentry⟩)
    | union presence alternatives =>
        exact Or.inl (conform_union_isAbout hpresent hfailure)
    | _ => exact Or.inl ((conform_plain rfl hpresent path).isAbout hfailure)

theorem property_partOf {presence : Presence} {key : String} {inner : Schema}
    (before after : List (String × Schema)) :
    PartOf inner
      (.object presence (some (before ++ (key, inner) :: after))) :=
  @PartOf.property _ _ (key, inner) (by simp)

/-- Whatever the schema and the value, a check fails for a reason of its own. -/
theorem kind_mem_of_validate_eq_error {schema : Schema} {value : Value}
    {path : String} {failure : Failure}
    (hfailure : schema.validate value path = .error failure) :
    failure.kind ∈ FailureKind.ofChecks := by
  induction schema using induction_on_parts generalizing value path with
  | hstep schema ih =>
      rcases validate_eq_error_cases hfailure with habout |
        ⟨_, inner, _, _, _, _, rfl, _, _, _, hitem⟩ |
        ⟨_, before, key, inner, after, _, rfl, _, _, hentry⟩
      · exact habout.kind_mem
      · exact ih inner .items hitem
      · exact ih inner (property_partOf before after) hentry

/-- A trail leads to a value and a schema that have the failure of their
own. -/
def Located (schema : Schema) (value : Value) (path : String)
    (failure : Failure) : Prop :=
  ∃ trail inner found, Leads schema value trail inner found ∧
    inner.validate found (trail.path path) = .error failure ∧
    failure.IsAbout (trail.path path) found

private theorem located_item {presence : Presence} {schema : Schema}
    {size : SizeLimits} {value item : Value} {before after : List Value}
    {path : String} {failure : Failure}
    (hvalue : value = .list (before ++ item :: after) ∨
      value = .tuple (before ++ item :: after))
    (hbefore : ∀ earlier ∈ before, Passes schema earlier)
    (hitem : Located schema item
      (path ++ "[" ++ toString before.length ++ "]") failure) :
    Located (.array presence (some schema) size) value path failure := by
  obtain ⟨trail, inner, found, hleads, hfailure, habout⟩ := hitem
  rw [← Trail.path_item] at hfailure habout
  exact ⟨_, inner, found, .item hvalue hbefore hleads, hfailure, habout⟩

private theorem located_entry {presence : Presence} {schema : Schema}
    {key : String}
    {before after : List (String × Schema)} {entries : List (String × Value)}
    {path : String} {failure : Failure}
    (hbefore : ∀ earlier ∈ before,
      Passes earlier.2 (Value.entry entries earlier.1))
    (hentry : Located schema (Value.entry entries key) (path ++ "." ++ key)
      failure) :
    Located (.object presence (some (before ++ (key, schema) :: after)))
      (.record entries) path failure := by
  obtain ⟨trail, inner, found, hleads, hfailure, habout⟩ := hentry
  rw [← Trail.path_entry] at hfailure habout
  exact ⟨_, inner, found, .entry hbefore hleads, hfailure, habout⟩

private theorem located_of_error {schema : Schema} {value : Value}
    {path : String}
    {failure : Failure} (hverdict : schema.comparison? value = none)
    (hfailure : schema.validate value path = .error failure) :
    Located schema value path failure := by
  induction schema using induction_on_parts generalizing value path with
  | hstep schema ih =>
      rcases validate_eq_error_cases hfailure with habout |
        ⟨_, inner, _, before, item, after, rfl, hvalue, hbreach, hbefore,
          hitem⟩ |
        ⟨_, before, key, inner, after, _, rfl, rfl, hbefore, hentry⟩
      · exact ⟨[], schema, value, .here, hfailure, habout⟩
      · have hmeets := SizeLimits.breach_eq_none_iff.mp hbreach
        have hnone :=
          (comparison?_items_eq_none_iff hvalue hmeets).mp hverdict
        obtain ⟨hpasses, hcomparable⟩ :=
          (items_checksInRow inner).passes_before hnone.2 hbefore
        exact located_item hvalue hpasses
          (ih inner .items hcomparable hitem)
      · obtain ⟨hpasses, hcomparable⟩ :=
          (properties_checksInRow _).passes_before hverdict hbefore
        exact located_entry hpasses
          (ih inner (property_partOf before after) hcomparable hentry)

/-- A failed check points at the first breach.  A trail leads to it: its path is
the path of the failure and begins the message; what it leads to is the value
of the failure, or nothing where something is required; all that was checked
before passes; and the schema at the end of the trail is the one that
refuses. -/
theorem failure_points_at_first_breach {schema : Schema} {value : Value}
    {path : String} {failure : Failure}
    (hverdict : schema.comparison? value = none)
    (hfailure : schema.validate value path = .error failure) :
    ∃ trail inner found,
      failure.path = trail.path path ∧
        (failure.kind ≠ .missingRequired →
          value.at? trail = some failure.value) ∧
        (failure.kind = .missingRequired →
          failure.value = .null ∧
            ∀ reached ∈ value.at? trail, reached.isAbsent) ∧
        (∃ wording, failure.message = failure.path ++ wording) ∧
        Leads schema value trail inner found ∧
        inner.validate found failure.path = .error failure := by
  obtain ⟨trail, inner, found, hleads, hinner, habout⟩ :=
    located_of_error hverdict hfailure
  have hfound := hleads.found_eq
  refine ⟨trail, inner, found, habout.path_eq, ?_, ?_, ?_, hleads, ?_⟩
  · intro hkind
    obtain ⟨hpresent, hvalue⟩ := habout.present hkind
    cases hreached : value.at? trail with
    | none =>
        rw [hreached] at hfound
        rw [hfound] at hpresent
        exact absurd rfl hpresent
    | some reached =>
        rw [hreached] at hfound
        rw [hvalue, hfound, Option.getD_some]
  · intro hkind
    obtain ⟨habsent, hnull⟩ := habout.absent hkind
    refine ⟨hnull, ?_⟩
    intro reached hreached
    rw [hfound, Option.mem_def.mp hreached, Option.getD_some] at habsent
    exact habsent
  · rw [habout.path_eq]
    exact habout.message_eq
  · rw [habout.path_eq]
    exact hinner

/-- An album has a title and tracks, each with a name and a length. -/
def album : Schema :=
  .object { required := true } (some
    [("title", .string { required := true } {}),
      ("tracks", .array {}
        (some (.object {} (some
          [("name", .string { required := true } {}),
            ("seconds", .number {} {})])))
        {})])

def unmeasuredAlbum : Value :=
  .record
    [("title", .text "Rain"),
      ("tracks", .list
        [.record [("name", .text "Drops"), ("seconds", .number (.int 95))],
          .record [("seconds", .text "long"), ("name", .text "Flood")]])]

theorem unmeasuredAlbum_failure_place :
    album.comparison? unmeasuredAlbum = none ∧
      ∃ failure trail inner found,
        album.validate unmeasuredAlbum "album" = .error failure ∧
          failure.path = "album.tracks[1].seconds" ∧
          failure.path = trail.path "album" ∧
          unmeasuredAlbum.at? trail = some failure.value ∧
          failure.value = .text "long" ∧
          Leads album unmeasuredAlbum trail inner found := by
  have hverdict : album.comparison? unmeasuredAlbum = none := by
    decide +kernel
  obtain ⟨failure, hfailure, hkind, hpath, hvalue⟩ : ∃ failure,
      album.validate unmeasuredAlbum "album" = .error failure ∧
        failure.kind = .typeMismatch ∧
        failure.path = "album.tracks[1].seconds" ∧
        failure.value = .text "long" :=
    ⟨_, rfl, rfl, by decide +kernel, rfl⟩
  obtain ⟨trail, inner, found, htrail, hpresent, _, _, hleads, _⟩ :=
    failure_points_at_first_breach hverdict hfailure
  have hreached : unmeasuredAlbum.at? trail = some failure.value := by
    apply hpresent
    rw [hkind]
    decide
  exact ⟨hverdict, failure, trail, inner, found, hfailure, hpath, htrail,
    hreached, hvalue, hleads⟩

end Schema

end ViewCompiler
