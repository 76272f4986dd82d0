import ViewCompiler.Proofs.Schema.Conforms

/-!
# Checking a value at another path

A check writes further steps behind the path that it is given and puts the
path into its messages, but nothing that it decides depends on the path.  If
something is put in front of the path, the same values are accepted and become
the same; all paths that the check reports, of a failure or of dropped entries,
get the same front.  Only the wording of a failure is left open, because a
message about alternatives repeats the path within.
-/

namespace ViewCompiler

/-- Two outcomes of one kind: errors that are related, or results that are. -/
def Alike {ε α : Type} (errors : ε → ε → Prop) (results : α → α → Prop) :
    Except ε α → Except ε α → Prop
  | .ok a, .ok b => results a b
  | .error e, .error f => errors e f
  | _, _ => False

theorem Alike.cases {ε α : Type} {errors : ε → ε → Prop}
    {results : α → α → Prop} {x y : Except ε α}
    (halike : Alike errors results x y) :
    (∃ a b, x = .ok a ∧ y = .ok b ∧ results a b) ∨
      ∃ e f, x = .error e ∧ y = .error f ∧ errors e f := by
  cases x with
  | ok a =>
      cases y with
      | ok b => exact Or.inl ⟨a, b, rfl, rfl, halike⟩
      | error f => exact halike.elim
  | error e =>
      cases y with
      | ok b => exact halike.elim
      | error f => exact Or.inr ⟨e, f, rfl, rfl, halike⟩

theorem Alike.bind {ε α β : Type} {errors : ε → ε → Prop}
    {results : α → α → Prop} {later : β → β → Prop} {x y : Except ε α}
    {f g : α → Except ε β} (hfirst : Alike errors results x y)
    (hrest : ∀ a b, results a b → Alike errors later (f a) (g b)) :
    Alike errors later (x >>= f) (y >>= g) := by
  rcases hfirst.cases with ⟨a, b, rfl, rfl, hresults⟩ |
    ⟨e, e', rfl, rfl, herrors⟩
  · exact hrest a b hresults
  · exact herrors

/-- The failure of the same check with something in front of its path. -/
structure Failure.Relocates (front : String) (failure moved : Failure) :
    Prop where
  kind : moved.kind = failure.kind
  path : moved.path = front ++ failure.path
  value : moved.value = failure.value
  expected : moved.expected = failure.expected
  actual : moved.actual = failure.actual

/-- The same result, with something in front of the paths of dropped
entries. -/
def RelocatesDropped {α : Type} (front : String)
    (found moved : α × List String) : Prop :=
  moved.1 = found.1 ∧ moved.2 = found.2.map (front ++ ·)

def Accepted.Relocates (front : String) (accepted moved : Accepted) : Prop :=
  RelocatesDropped front (accepted.value, accepted.dropped)
    (moved.value, moved.dropped)

abbrev Verdict.Relocates (front : String) : Verdict → Verdict → Prop :=
  Alike (Failure.Relocates front) (Accepted.Relocates front)

/-! ## Verdicts without parts -/

namespace Verdict

variable {front path : String} {value : Value}

theorem unchanged_relocates :
    Relocates front (.unchanged value) (.unchanged value) :=
  ⟨rfl, rfl⟩

theorem violation_relocates {message : String} :
    Relocates front (.violation path message value)
      (.violation (front ++ path) message value) :=
  ⟨rfl, rfl, rfl, rfl, rfl⟩

theorem mismatch_relocates {kind : Kind} :
    Relocates front (.mismatch kind value path)
      (.mismatch kind value (front ++ path)) :=
  ⟨rfl, rfl, rfl, rfl, rfl⟩

end Verdict

theorem Presence.judge_relocates {presence : Presence} {front path : String}
    {value : Value} {verdict moved : Verdict}
    (hverdict : Verdict.Relocates front verdict moved) :
    Verdict.Relocates front (presence.judge value path verdict)
      (presence.judge value (front ++ path) moved) := by
  rcases value.isAbsent_or_runtime_or_concrete with
    habsent | ⟨source, rfl⟩ | hconcrete
  · rw [judge_absent habsent, judge_absent habsent]
    by_cases hrequired : presence.required = true
    · rw [if_pos hrequired, if_pos hrequired]
      exact ⟨rfl, rfl, rfl, rfl, rfl⟩
    · rw [if_neg hrequired, if_neg hrequired]
      exact Verdict.unchanged_relocates
  · exact Verdict.unchanged_relocates
  · rw [judge_concrete hconcrete, judge_concrete hconcrete]
    exact hverdict

theorem TextLimits.check_relocates (limits : TextLimits)
    (text front path : String) :
    Verdict.Relocates front (limits.check text path)
      (limits.check text (front ++ path)) := by
  unfold TextLimits.check
  dsimp only
  cases limits.minLength.filter (Bound.undercut (.int text.length)) with
  | some bound => exact Verdict.violation_relocates
  | none =>
      cases limits.maxLength.filter (Bound.exceeded (.int text.length)) with
      | some bound => exact Verdict.violation_relocates
      | none =>
          cases limits.pattern.filter (!·.found text) with
          | some pattern => exact Verdict.violation_relocates
          | none => exact Verdict.unchanged_relocates

theorem NumberLimits.check_relocates (limits : NumberLimits) (number : Number)
    (front path : String) :
    Verdict.Relocates front (limits.check number path)
      (limits.check number (front ++ path)) := by
  unfold NumberLimits.check
  dsimp only
  cases limits.minimum.filter (Bound.undercut number) with
  | some bound => exact Verdict.violation_relocates
  | none =>
      cases limits.maximum.filter (Bound.exceeded number) with
      | some bound => exact Verdict.violation_relocates
      | none =>
          cases limits.integer && !number.isWhole with
          | true => exact Verdict.violation_relocates
          | false => exact Verdict.unchanged_relocates

namespace Schema

variable {front path : String}

theorem outsideValues_relocates {values : List Value} {value : Value} :
    Verdict.Relocates front (outsideValues values value path)
      (outsideValues values value (front ++ path)) :=
  Verdict.violation_relocates

theorem exhausted_relocates {messages messages' : List String}
    {value : Value} :
    Verdict.Relocates front (exhausted messages value path)
      (exhausted messages' value (front ++ path)) :=
  ⟨rfl, rfl, rfl, rfl, rfl⟩

theorem conformBare_relocates (kind : Kind) (value : Value) :
    Verdict.Relocates front (conformBare kind value path)
      (conformBare kind value (front ++ path)) := by
  cases kind with
  | any => exact Verdict.unchanged_relocates
  | enum => exact outsideValues_relocates
  | union => exact exhausted_relocates
  | number =>
      cases value with
      | number number =>
          simp only [conformBare]
          cases number.isNan with
          | true => exact Verdict.mismatch_relocates
          | false => exact Verdict.unchanged_relocates
      | _ => exact Verdict.mismatch_relocates
  | string =>
      cases value with
      | text text => exact Verdict.unchanged_relocates
      | _ => exact Verdict.mismatch_relocates
  | boolean =>
      cases value with
      | bool b => exact Verdict.unchanged_relocates
      | _ => exact Verdict.mismatch_relocates
  | function =>
      cases value with
      | function => exact Verdict.unchanged_relocates
      | _ => exact Verdict.mismatch_relocates
  | array =>
      cases value with
      | list items => exact Verdict.unchanged_relocates
      | tuple items => exact Verdict.unchanged_relocates
      | _ => exact Verdict.mismatch_relocates
  | object =>
      cases value with
      | record entries => exact Verdict.unchanged_relocates
      | _ => exact Verdict.mismatch_relocates

/-! ## Items -/

section Items

variable {validate : Value → String → Verdict}
  (hvalidate : ∀ item path,
    Verdict.Relocates front (validate item path)
      (validate item (front ++ path)))

include hvalidate

theorem validateItems_relocates (index : Nat) (items : List Value) :
    Alike (Failure.Relocates front) (RelocatesDropped front)
      (validateItems validate path index items)
      (validateItems validate (front ++ path) index items) := by
  induction items generalizing index with
  | nil => exact ⟨rfl, rfl⟩
  | cons item rest ih =>
      simp only [validateItems, String.append_assoc]
      refine (hvalidate item _).bind ?_
      rintro accepted moved ⟨hvalue, hdropped⟩
      refine (ih (index + 1)).bind ?_
      rintro ⟨found, dropped⟩ ⟨found', dropped'⟩ ⟨hfound, hrest⟩
      dsimp only at hvalue hdropped hfound hrest
      refine ⟨?_, ?_⟩
      · simp only [hvalue, hfound]
      · simp only [hdropped, hrest, List.map_append]

theorem validateArray_relocates (size : SizeLimits)
    (rebuild : List Value → Value) (items : List Value) :
    Verdict.Relocates front
      (validateArray size (some validate) rebuild items path)
      (validateArray size (some validate) rebuild items (front ++ path)) := by
  unfold validateArray
  cases size.breach items.length with
  | some message => exact Verdict.violation_relocates
  | none =>
      refine (validateItems_relocates hvalidate 0 items).bind ?_
      rintro ⟨found, dropped⟩ ⟨found', dropped'⟩ ⟨hfound, hdropped⟩
      dsimp only at hfound hdropped
      subst found'
      exact ⟨rfl, hdropped⟩

end Items

theorem validateArray_none_relocates (size : SizeLimits)
    (rebuild : List Value → Value) (items : List Value) :
    Verdict.Relocates front (validateArray size none rebuild items path)
      (validateArray size none rebuild items (front ++ path)) := by
  unfold validateArray
  cases size.breach items.length with
  | some message => exact Verdict.violation_relocates
  | none => exact Verdict.unchanged_relocates

/-! ## Schemas -/

mutual

theorem conform_relocates (front : String) :
    ∀ (schema : Schema) (value : Value) (path : String),
      Verdict.Relocates front (schema.conform value path)
        (schema.conform value (front ++ path))
  | .bare kind presence, value, path => by
      simp only [conform]
      exact conformBare_relocates kind value
  | .string presence limits, value, path => by
      cases value with
      | text text =>
          simp only [conform]
          exact limits.check_relocates text front path
      | _ =>
          simp only [conform]
          exact Verdict.mismatch_relocates
  | .number presence limits, value, path => by
      cases value with
      | number number =>
          simp only [conform]
          cases number.isNan with
          | true => exact Verdict.mismatch_relocates
          | false => exact limits.check_relocates number front path
      | _ =>
          simp only [conform]
          exact Verdict.mismatch_relocates
  | .array presence none size, value, path => by
      cases value with
      | list items =>
          simp only [conform]
          exact validateArray_none_relocates size .list items
      | tuple items =>
          simp only [conform]
          exact validateArray_none_relocates size .tuple items
      | _ =>
          simp only [conform]
          exact Verdict.mismatch_relocates
  | .array presence (some schema) size, value, path => by
      have hitem : ∀ item itemPath,
          Verdict.Relocates front (schema.validate item itemPath)
            (schema.validate item (front ++ itemPath)) :=
        fun item itemPath =>
          Presence.judge_relocates (conform_relocates front schema item itemPath)
      cases value with
      | list items =>
          simp only [conform]
          exact validateArray_relocates hitem size .list items
      | tuple items =>
          simp only [conform]
          exact validateArray_relocates hitem size .tuple items
      | _ =>
          simp only [conform]
          exact Verdict.mismatch_relocates
  | .object presence none, value, path => by
      cases value with
      | record entries =>
          simp only [conform]
          exact Verdict.unchanged_relocates
      | _ =>
          simp only [conform]
          exact Verdict.mismatch_relocates
  | .object presence (some properties), value, path => by
      cases value with
      | record entries =>
          simp only [conform]
          refine (conformProperties_relocates front properties entries
            path).bind ?_
          rintro ⟨kept, dropped⟩ ⟨kept', dropped'⟩ ⟨hkept, hdropped⟩
          dsimp only at hkept hdropped
          refine ⟨?_, ?_⟩
          · simp only [hkept]
          · simp [hdropped, Function.comp_def, String.append_assoc]
      | _ =>
          simp only [conform]
          exact Verdict.mismatch_relocates
  | .enum presence values, value, path => by
      simp only [conform]
      cases value.isMember values with
      | true => exact Verdict.unchanged_relocates
      | false => exact outsideValues_relocates
  | .union presence alternatives, value, path => by
      simp only [conform]
      rcases (conformAlternatives_relocates front alternatives value
          path).cases with
        ⟨accepted, moved, hfirst, hmoved, hresults⟩ |
          ⟨messages, messages', hfirst, hmoved, _⟩
      · rw [hfirst, hmoved]
        exact hresults
      · rw [hfirst, hmoved]
        exact exhausted_relocates

theorem conformProperties_relocates (front : String) :
    ∀ (properties : List (String × Schema)) (entries : List (String × Value))
      (path : String),
      Alike (Failure.Relocates front) (RelocatesDropped front)
        (conformProperties properties entries path)
        (conformProperties properties entries (front ++ path))
  | [], entries, path => by
      simp only [conformProperties]
      exact ⟨rfl, rfl⟩
  | (key, schema) :: rest, entries, path => by
      simp only [conformProperties, String.append_assoc]
      refine Alike.bind (Presence.judge_relocates
        (conform_relocates front schema _ _)) ?_
      rintro accepted moved ⟨hvalue, hdropped⟩
      refine (conformProperties_relocates front rest entries path).bind ?_
      rintro ⟨kept, dropped⟩ ⟨kept', dropped'⟩ ⟨hkept, hrest⟩
      dsimp only at hvalue hdropped hkept hrest
      subst kept' dropped'
      rw [hvalue, hdropped]
      cases Entries.has entries key || !accepted.value.isNull with
      | true => exact ⟨rfl, by simp⟩
      | false => exact ⟨rfl, by simp⟩

theorem conformAlternatives_relocates (front : String) :
    ∀ (alternatives : List Schema) (value : Value) (path : String),
      Alike (fun _ _ => True) (Accepted.Relocates front)
        (conformAlternatives alternatives value path)
        (conformAlternatives alternatives value (front ++ path))
  | [], value, path => by
      simp only [conformAlternatives]
      exact trivial
  | schema :: rest, value, path => by
      simp only [conformAlternatives]
      rcases Alike.cases (Presence.judge_relocates
          (conform_relocates front schema value path)) with
        ⟨accepted, moved, hfirst, hmoved, hresults⟩ |
          ⟨failure, failure', hfirst, hmoved, _⟩
      · rw [hfirst, hmoved]
        exact hresults
      · rw [hfirst, hmoved]
        rcases (conformAlternatives_relocates front rest value path).cases with
          ⟨accepted, moved, hrest, hrestMoved, hresults⟩ |
            ⟨messages, messages', hrest, hrestMoved, _⟩
        · simp only [hrest, hrestMoved]
          exact hresults
        · simp only [hrest, hrestMoved]
          exact trivial

end

/-- Something in front of the path of a check stands in front of every path
that the check reports, and changes nothing else. -/
theorem validate_relocates (front : String) (schema : Schema) (value : Value)
    (path : String) :
    Verdict.Relocates front (schema.validate value path)
      (schema.validate value (front ++ path)) :=
  Presence.judge_relocates (conform_relocates front schema value path)

end Schema

end ViewCompiler
