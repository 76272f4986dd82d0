import ViewCompiler.Proofs.Schema.Deferral

/-!
# Truth values in enumerated values

Equality of values takes a truth value for the number one or zero.  An
enumeration keeps the two apart where the value itself is a truth value or a
number, and does not look any further: inside an array or an object, a truth
value is accepted for its number and a number for its truth value.

Exchanging a truth value inside a value for its number, or back, is what an
enumeration cannot see.  It keeps truth values and numbers apart exactly if what
it lists stays listed under every such exchange.
-/

namespace ViewCompiler
namespace Value

/-- The values are equal, and wherever both have something inside, a truth value
stands against the same truth value. -/
structure Matches (allowed value : Value) : Prop where
  same : allowed.same value = true
  flags_eq : ∀ trail inner other, allowed.at? trail = some inner →
    value.at? trail = some other → inner.flag? = other.flag?

/-- The number of a truth value, and the truth value of one and zero. -/
def counterpart : Value → Value
  | bool b => number (.int (if b then 1 else 0))
  | number n =>
    if n.same (.int 1) then bool true
    else if n.same (.int 0) then bool false
    else number n
  | value => value

/-- The value with what a trail leads to exchanged for its counterpart. -/
def exchange (value : Value) : Trail → Value
  | [] => value.counterpart
  | step :: trail =>
    match value.step? step with
    | some inner => value.put step (inner.exchange trail)
    | none => value

theorem exchange_cons_of_some {value inner : Value} {step : Step}
    (hstep : value.step? step = some inner) (trail : Trail) :
    value.exchange (step :: trail) = value.put step (inner.exchange trail) := by
  rw [exchange, hstep]

theorem exchange_cons_of_none {value : Value} {step : Step}
    (hstep : value.step? step = none) (trail : Trail) :
    value.exchange (step :: trail) = value := by
  rw [exchange, hstep]

/-! ## Equality does not see an exchange -/

theorem same_bool (first : Value) (b : Bool) :
    first.same (.bool b) =
      first.same (.number (.int (if b then 1 else 0))) := by
  cases first <;> simp [same, asNumber?]

theorem same_number_congr {n m : Number} (hsame : n.same m = true)
    (first : Value) : first.same (.number n) = first.same (.number m) := by
  cases first with
  | bool b => simp only [same, asNumber?, Number.same_congr hsame]
  | number k => simp only [same, asNumber?, Number.same_congr hsame]
  | _ => rfl

theorem counterpart_number_cases (n : Number) :
    (n.same (.int 1) = true ∧ (number n).counterpart = bool true) ∨
      (n.same (.int 0) = true ∧ (number n).counterpart = bool false) ∨
      (n.same (.int 1) = false ∧ n.same (.int 0) = false ∧
        (number n).counterpart = number n) := by
  simp only [counterpart]
  cases hone : n.same (.int 1) with
  | true => exact Or.inl ⟨rfl, rfl⟩
  | false =>
      right
      cases hzero : n.same (.int 0) with
      | true => exact Or.inl ⟨rfl, rfl⟩
      | false => exact Or.inr ⟨rfl, rfl, rfl⟩

private theorem same_counterpart (first value : Value) :
    first.same value.counterpart = first.same value := by
  cases value with
  | bool b => exact (same_bool first b).symm
  | number n =>
      rcases counterpart_number_cases n with
        ⟨hone, heq⟩ | ⟨hzero, heq⟩ | ⟨_, _, heq⟩
      · rw [heq, same_number_congr hone]
        exact same_bool first true
      · rw [heq, same_number_congr hzero]
        exact same_bool first false
      · rw [heq]
  | _ => rfl

theorem sameItems_set {items : List Value} {i : Nat} {inner new : Value}
    (hitem : items[i]? = some inner)
    (hnew : ∀ first : Value, first.same new = first.same inner)
    (others : List Value) :
    sameItems others (items.set i new) = sameItems others items := by
  induction items generalizing i others with
  | nil => contradiction
  | cons item rest ih =>
      cases others with
      | nil => cases i <;> rfl
      | cons other others =>
          cases i with
          | zero =>
              obtain rfl : item = inner := Option.some.inj hitem
              simp only [List.set_cons_zero, sameItems, hnew]
          | succ i =>
              simp only [List.set_cons_succ, sameItems, ih hitem]

theorem sameEntries_set {entries : List (String × Value)} {key : String}
    {inner new : Value} (hentry : Entries.get? entries key = some inner)
    (hnew : ∀ first : Value, first.same new = first.same inner)
    (others : List (String × Value)) :
    sameEntries others (Entries.set entries key new) =
      sameEntries others entries := by
  induction others with
  | nil => rfl
  | cons other others ih =>
      obtain ⟨name, value⟩ := other
      by_cases hname : name = key
      · subst hname
        simp only [sameEntries, Entries.get?_set_self, hentry, hnew, ih]
      · simp only [sameEntries, Entries.get?_set_of_ne hname, ih]

theorem length_set_of_get? {entries : List (String × Value)} {key : String}
    {inner : Value} (hentry : Entries.get? entries key = some inner)
    (new : Value) : (Entries.set entries key new).length = entries.length := by
  have hkey : key ∈ Entries.keys entries :=
    Entries.has_iff_mem_keys.mp (Entries.has_of_get?_eq_some hentry)
  have hkeys : Entries.keys (Entries.set entries key new) =
      Entries.keys entries := by
    rw [Entries.keys_set, if_pos hkey]
  have hlength := congrArg List.length hkeys
  simpa [Entries.keys] using hlength

private theorem same_put {value inner new : Value} {step : Step}
    (hstep : value.step? step = some inner)
    (hnew : ∀ first : Value, first.same new = first.same inner)
    (first : Value) : first.same (value.put step new) = first.same value := by
  rcases step?_cases hstep with
    ⟨rebuild, items, i, hrebuild, rfl, rfl, hitem⟩ |
      ⟨entries, key, rfl, rfl, hentry⟩
  · rcases hrebuild with rfl | rfl
    · cases first with
      | list others => simp only [put, same, sameItems_set hitem hnew]
      | _ => rfl
    · cases first with
      | tuple others => simp only [put, same, sameItems_set hitem hnew]
      | _ => rfl
  · cases first with
    | record others =>
        simp only [put, same, sameEntries_set hentry hnew,
          length_set_of_get? hentry]
    | _ => rfl

theorem same_exchange (first value : Value) (trail : Trail) :
    first.same (value.exchange trail) = first.same value := by
  induction trail generalizing first value with
  | nil => exact same_counterpart first value
  | cons step trail ih =>
      cases hstep : value.step? step with
      | none => rw [exchange_cons_of_none hstep]
      | some inner =>
          rw [exchange_cons_of_some hstep]
          exact same_put hstep (fun other => ih other inner) first

/-! ## Truth values after an exchange -/

theorem step?_counterpart (value : Value) (step : Step) :
    value.counterpart.step? step = value.step? step := by
  cases value with
  | bool b => cases step <;> rfl
  | number n =>
      rcases counterpart_number_cases n with
        ⟨_, heq⟩ | ⟨_, heq⟩ | ⟨_, _, heq⟩
      · rw [heq]
        cases step <;> rfl
      · rw [heq]
        cases step <;> rfl
      · rw [heq]
  | _ => rfl

theorem flag?_put (value : Value) (step : Step) (new : Value) :
    (value.put step new).flag? = value.flag? := by
  cases value <;> cases step <;> rfl

theorem flags_exchange_self {value inner : Value} {trail : Trail}
    (hinner : value.at? trail = some inner) :
    (value.exchange trail).at? trail = some inner.counterpart := by
  induction trail generalizing value with
  | nil =>
      obtain rfl : value = inner := Option.some.inj hinner
      rfl
  | cons step trail ih =>
      obtain ⟨part, hpart, hinner⟩ := Option.bind_eq_some_iff.mp hinner
      rw [exchange_cons_of_some hpart, at?, step?_put_self hpart,
        Option.bind_some]
      exact ih hinner

/-- Elsewhere there is something as before, and the same truth value or none. -/
theorem flags_exchange_of_ne {trail other : Trail} (hne : other ≠ trail)
    (value : Value) :
    ((value.exchange trail).at? other).map flag? =
      (value.at? other).map flag? := by
  induction trail generalizing value other with
  | nil =>
      cases other with
      | nil => exact absurd rfl hne
      | cons step other => simp only [exchange, at?, step?_counterpart]
  | cons step trail ih =>
      cases hstep : value.step? step with
      | none => rw [exchange_cons_of_none hstep]
      | some inner =>
          rw [exchange_cons_of_some hstep]
          cases other with
          | nil => simp only [at?, Option.map_some, flag?_put]
          | cons first other =>
              by_cases hfirst : first = step
              · subst hfirst
                have hrest : other ≠ trail := fun heq => hne (heq ▸ rfl)
                rw [at?, at?, step?_put_self hstep, hstep, Option.bind_some,
                  Option.bind_some]
                exact ih hrest inner
              · rw [at?, at?, step?_put_of_ne hstep _ hfirst]

theorem counterpart_number_of_same {b : Bool} {n : Number}
    (hsame : (Number.int (if b then 1 else 0)).same n = true) :
    (number n).counterpart = bool b := by
  rcases counterpart_number_cases n with
    ⟨hone, heq⟩ | ⟨hzero, heq⟩ | ⟨hone, hzero, _⟩
  · rw [Number.same_congr hone, Number.same_int_int_iff] at hsame
    cases b with
    | true => exact heq
    | false => contradiction
  · rw [Number.same_congr hzero, Number.same_int_int_iff] at hsame
    cases b with
    | true => contradiction
    | false => exact heq
  · rw [Number.same_comm] at hsame
    cases b with
    | true => exact absurd hsame (by simp [hone])
    | false => exact absurd hsame (by simp [hzero])

/-- Of two equal values one is a truth value and the other is not.  Then the
counterpart of the other has the truth value, and giving it back leads to what
there was. -/
theorem flag?_counterpart {inner other : Value}
    (hsame : inner.same other = true) (hne : inner.flag? ≠ other.flag?) :
    other.counterpart.flag? = inner.flag? ∧
      other.counterpart.counterpart.flag? = other.flag? := by
  cases inner with
  | bool b =>
      cases other with
      | bool c =>
          have hint := Number.same_int_int_iff.mp hsame
          cases b <;> cases c <;> simp_all [flag?]
      | number n =>
          have hback : (number n).counterpart = bool b :=
            counterpart_number_of_same hsame
          rw [hback]
          exact ⟨rfl, rfl⟩
      | _ => simp [same, asNumber?] at hsame
  | number n =>
      cases other with
      | bool b =>
          have hself := Number.same_int_int_iff.mpr
            (rfl : (if b = true then 1 else 0 : Int) = if b = true then 1 else 0)
          exact ⟨rfl, congrArg flag? (counterpart_number_of_same hself)⟩
      | _ => exact absurd rfl hne
  | _ =>
      cases other with
      | bool b => simp [same, asNumber?] at hsame
      | _ => exact absurd rfl hne

/-! ## Places where flags differ -/

/-- The trail leads to something in both values, and a truth value stands
against something else. -/
def DiffersAt (allowed value : Value) (trail : Trail) : Prop :=
  ∃ inner other, allowed.at? trail = some inner ∧
    value.at? trail = some other ∧ inner.flag? ≠ other.flag?

theorem same_of_sameItems {items others : List Value}
    (hsame : sameItems items others = true) {i : Nat} {item other : Value}
    (hitem : items[i]? = some item) (hother : others[i]? = some other) :
    item.same other = true := by
  induction items generalizing others i with
  | nil => contradiction
  | cons first rest ih =>
      cases others with
      | nil => contradiction
      | cons second others =>
          rw [sameItems, Bool.and_eq_true] at hsame
          cases i with
          | zero =>
              obtain rfl : first = item := Option.some.inj hitem
              obtain rfl : second = other := Option.some.inj hother
              exact hsame.1
          | succ i => exact ih hsame.2 hitem hother

private theorem same_of_sameEntries {entries others : List (String × Value)}
    (hsame : sameEntries entries others = true) {key : String}
    {item other : Value} (hitem : (key, item) ∈ entries)
    (hother : Entries.get? others key = some other) :
    item.same other = true := by
  induction entries with
  | nil => contradiction
  | cons entry rest ih =>
      obtain ⟨name, value⟩ := entry
      rw [sameEntries, Bool.and_eq_true] at hsame
      rcases List.mem_cons.mp hitem with heq | hrest
      · obtain ⟨rfl, rfl⟩ := Prod.mk.inj heq
        simpa [hother] using hsame.1
      · exact ih hsame.2 hrest

private theorem same_step {allowed value : Value}
    (hsame : allowed.same value = true) {step : Step} {inner other : Value}
    (hinner : allowed.step? step = some inner)
    (hother : value.step? step = some other) : inner.same other = true := by
  rcases step?_cases hinner with
    ⟨rebuild, items, i, hrebuild, rfl, rfl, hitem⟩ |
      ⟨entries, key, rfl, rfl, hentry⟩
  · rcases hrebuild with rfl | rfl
    · cases value with
      | list others =>
          rw [same] at hsame
          exact same_of_sameItems hsame hitem hother
      | _ => simp [same, asNumber?] at hsame
    · cases value with
      | tuple others =>
          rw [same] at hsame
          exact same_of_sameItems hsame hitem hother
      | _ => simp [same, asNumber?] at hsame
  · cases value with
    | record others =>
        rw [same, Bool.and_eq_true] at hsame
        exact same_of_sameEntries hsame.2
          (Entries.mem_of_get?_eq_some hentry) hother
    | _ => simp [same, asNumber?] at hsame

theorem same_at {allowed value : Value} (hsame : allowed.same value = true)
    {trail : Trail} {inner other : Value}
    (hinner : allowed.at? trail = some inner)
    (hother : value.at? trail = some other) : inner.same other = true := by
  induction trail generalizing allowed value with
  | nil =>
      obtain rfl := Option.some.inj hinner
      obtain rfl := Option.some.inj hother
      exact hsame
  | cons step trail ih =>
      obtain ⟨part, hpart, hinner⟩ := Option.bind_eq_some_iff.mp hinner
      obtain ⟨counter, hcounter, hother⟩ := Option.bind_eq_some_iff.mp hother
      exact ih (same_step hsame hpart hcounter) hinner hother

theorem exists_at_exchange_of_ne {trail other : Trail} (hne : other ≠ trail)
    {value inner : Value} (hinner : value.at? other = some inner) :
    ∃ after, (value.exchange trail).at? other = some after ∧
      after.flag? = inner.flag? := by
  have hflags := flags_exchange_of_ne hne value
  rw [hinner, Option.map_some, Option.map_eq_some_iff] at hflags
  exact hflags

private theorem exists_at_of_exchange_of_ne {trail other : Trail}
    (hne : other ≠ trail) {value after : Value}
    (hafter : (value.exchange trail).at? other = some after) :
    ∃ inner, value.at? other = some inner ∧ inner.flag? = after.flag? := by
  have hflags := flags_exchange_of_ne hne value
  rw [hafter, Option.map_some, eq_comm, Option.map_eq_some_iff] at hflags
  exact hflags

/-- An exchange where flags differ settles the difference there and makes no
new one. -/
theorem DiffersAt.of_exchange {allowed value : Value}
    (hsame : allowed.same value = true) {trail other : Trail}
    (htrail : DiffersAt allowed value trail)
    (hother : DiffersAt allowed (value.exchange trail) other) :
    other ≠ trail ∧ DiffersAt allowed value other := by
  obtain ⟨inner, after, hinner, hafter, hflags⟩ := hother
  have hne : other ≠ trail := by
    rintro rfl
    obtain ⟨found, counter, hfound, hcounter, hdiffer⟩ := htrail
    rw [hinner, Option.some.injEq] at hfound
    rw [flags_exchange_self hcounter, Option.some.injEq] at hafter
    subst hfound hafter
    exact hflags (flag?_counterpart (same_at hsame hinner hcounter) hdiffer).1.symm
  obtain ⟨before, hbefore, heq⟩ := exists_at_of_exchange_of_ne hne hafter
  exact ⟨hne, inner, before, hinner, hbefore, heq ▸ hflags⟩

theorem Matches.of_exchange_twice {allowed value : Value}
    (hsame : allowed.same value = true) {trail : Trail}
    (htrail : DiffersAt allowed value trail) {candidate : Value}
    (hmatches : candidate.Matches ((value.exchange trail).exchange trail)) :
    candidate.Matches value := by
  have hequal := hmatches.same
  rw [same_exchange, same_exchange] at hequal
  refine ⟨hequal, ?_⟩
  intro other inner before hinner hbefore
  by_cases hne : other = trail
  · subst hne
    obtain ⟨found, counter, hfound, hcounter, hdiffer⟩ := htrail
    obtain rfl : counter = before :=
      Option.some.inj (hcounter.symm.trans hbefore)
    have htwice := flags_exchange_self (flags_exchange_self hcounter)
    have hback := flag?_counterpart (same_at hsame hfound hcounter) hdiffer
    rw [hmatches.flags_eq other inner _ hinner htwice, hback.2]
  · obtain ⟨once, honce, honceFlag⟩ := exists_at_exchange_of_ne hne hbefore
    obtain ⟨twice, htwice, htwiceFlag⟩ := exists_at_exchange_of_ne hne honce
    rw [hmatches.flags_eq other inner twice hinner htwice, htwiceFlag,
      honceFlag]

theorem flag?_exchange_of_ne_nil (value : Value) {trail : Trail}
    (hne : trail ≠ []) : (value.exchange trail).flag? = value.flag? := by
  have hflags := flags_exchange_of_ne hne.symm value
  exact Option.some.inj hflags

/-- The value is one of the allowed ones, with truth values and numbers kept
apart at every place. -/
def Listed (values : List Value) (value : Value) : Prop :=
  ∃ allowed ∈ values, allowed.Matches value

private theorem listed_of_exchanges {values : List Value}
    (hclosed : ∀ value trail, trail ≠ [] → Listed values value →
      Listed values (value.exchange trail))
    {allowed : Value} (hmem : allowed ∈ values) (trails : List Trail)
    {value : Value} (hsame : allowed.same value = true)
    (hflag : allowed.flag? = value.flag?)
    (hdiffers : ∀ trail, DiffersAt allowed value trail → trail ∈ trails) :
    Listed values value := by
  -- The places where flags differ are exchanged one by one, until the allowed
  -- value matches; the value is reached again by the same exchanges.
  induction trails generalizing value with
  | nil =>
      refine ⟨allowed, hmem, hsame, ?_⟩
      intro trail inner other hinner hother
      by_contra hne
      exact absurd (hdiffers trail ⟨inner, other, hinner, hother, hne⟩)
        List.not_mem_nil
  | cons trail rest ih =>
      by_cases htrail : DiffersAt allowed value trail
      · have hinside : trail ≠ [] := by
          rintro rfl
          obtain ⟨inner, other, hinner, hother, hne⟩ := htrail
          obtain rfl := Option.some.inj hinner
          obtain rfl := Option.some.inj hother
          exact hne hflag
        have hexchanged : Listed values (value.exchange trail) := by
          apply ih
          · rw [same_exchange]
            exact hsame
          · rw [flag?_exchange_of_ne_nil value hinside]
            exact hflag
          · intro other hother
            obtain ⟨hne, hbefore⟩ := htrail.of_exchange hsame hother
            exact (List.mem_cons.mp (hdiffers other hbefore)).resolve_left hne
        obtain ⟨candidate, hcandidate, hmatches⟩ :=
          hclosed _ trail hinside hexchanged
        exact ⟨candidate, hcandidate, hmatches.of_exchange_twice hsame htrail⟩
      · apply ih hsame hflag
        intro other hother
        have hne : other ≠ trail := by
          rintro rfl
          exact htrail hother
        exact (List.mem_cons.mp (hdiffers other hother)).resolve_left hne

theorem isConcrete_put (value : Value) (step : Step) (new : Value) :
    (value.put step new).isConcrete = value.isConcrete := by
  cases value <;> cases step <;> rfl

theorem isConcrete_exchange (value : Value) {trail : Trail}
    (hne : trail ≠ []) :
    (value.exchange trail).isConcrete = value.isConcrete := by
  cases trail with
  | nil => exact absurd rfl hne
  | cons step trail =>
      cases hstep : value.step? step with
      | none => rw [exchange_cons_of_none hstep]
      | some inner => rw [exchange_cons_of_some hstep, isConcrete_put]

/-- A value without parts is not changed by an exchange inside it. -/
theorem exchange_of_no_parts {value : Value}
    (hparts : ∀ step, value.step? step = none) {trail : Trail}
    (hne : trail ≠ []) : value.exchange trail = value := by
  cases trail with
  | nil => exact absurd rfl hne
  | cons step trail => exact exchange_cons_of_none (hparts step) trail

theorem step?_of_not_isConcrete {value : Value}
    (hvalue : ¬value.isConcrete) (step : Step) : value.step? step = none := by
  cases value with
  | list items => exact absurd rfl hvalue
  | tuple items => exact absurd rfl hvalue
  | record entries => exact absurd rfl hvalue
  | _ => cases step <;> rfl

theorem step?_of_isScalar {value : Value} (hscalar : value.isScalar)
    (step : Step) : value.step? step = none := by
  cases value with
  | list items => contradiction
  | tuple items => contradiction
  | record entries => contradiction
  | _ => cases step <;> rfl

theorem Matches.flag?_eq {allowed value : Value}
    (hmatches : allowed.Matches value) : allowed.flag? = value.flag? :=
  hmatches.flags_eq [] allowed value rfl rfl

private theorem listed_exchange_of_isScalar {values : List Value}
    (hscalars : ∀ allowed ∈ values, allowed.isScalar) {value : Value}
    {trail : Trail} (hne : trail ≠ []) (hlisted : Listed values value) :
    Listed values (value.exchange trail) := by
  obtain ⟨allowed, hmem, hmatches⟩ := hlisted
  have hscalar := isScalar_of_same (hscalars allowed hmem) hmatches.same
  rw [exchange_of_no_parts (step?_of_isScalar hscalar) hne]
  exact ⟨allowed, hmem, hmatches⟩

end Value

namespace Schema

/-- Whatever concrete value the enumeration accepts is listed with its truth
values. -/
def KeepsFlagsApart (presence : Presence) (values : List Value)
    (path : String) : Prop :=
  ∀ value : Value, value.isConcrete →
    (∃ accepted, (enum presence values).validate value path = .ok accepted) →
      Value.Listed values value

variable (presence : Presence) (values : List Value) (path : String)

theorem enum_accepts_iff {value : Value} (hconcrete : value.isConcrete) :
    (∃ accepted, (enum presence values).validate value path = .ok accepted) ↔
      ∃ allowed ∈ values, allowed.same value = true ∧
        allowed.flag? = value.flag? := by
  rw [← accepts_iff_exists_ok, accepts_enum_iff hconcrete, Value.isMember_iff]

theorem keepsFlagsApart_of_exchanges
    (hclosed : ∀ value trail, trail ≠ [] → Value.Listed values value →
      Value.Listed values (value.exchange trail)) :
    KeepsFlagsApart presence values path := by
  intro value hconcrete haccepted
  obtain ⟨allowed, hmem, hsame, hflag⟩ :=
    (enum_accepts_iff presence values path hconcrete).mp haccepted
  obtain ⟨trails, htrails⟩ := Value.exists_trails allowed
  apply Value.listed_of_exchanges hclosed hmem trails hsame hflag
  rintro trail ⟨inner, other, hinner, _, _⟩
  exact htrails trail inner hinner

variable {presence values path} in
/-- What is listed is accepted after an exchange inside it, since membership
does not see the exchange. -/
theorem KeepsFlagsApart.listed_exchange
    (hkeeps : KeepsFlagsApart presence values path) {value : Value}
    {trail : Trail} (hne : trail ≠ [])
    (hlisted : Value.Listed values value) :
    Value.Listed values (value.exchange trail) := by
  by_cases hconcrete : value.isConcrete = true
  · have hexchanged : (value.exchange trail).isConcrete := by
      rw [Value.isConcrete_exchange value hne]
      exact hconcrete
    apply hkeeps _ hexchanged
    rw [enum_accepts_iff presence values path hexchanged]
    obtain ⟨allowed, hmem, hmatches⟩ := hlisted
    refine ⟨allowed, hmem, ?_, ?_⟩
    · rw [Value.same_exchange]
      exact hmatches.same
    · rw [Value.flag?_exchange_of_ne_nil value hne]
      exact hmatches.flag?_eq
  · rw [Value.exchange_of_no_parts
      (Value.step?_of_not_isConcrete hconcrete) hne]
    exact hlisted

/-- An accepted value equals a listed one that is the same truth value, if one
of the two is a truth value.  That this is so inside of them as well holds
exactly if what is listed stays listed under exchanges inside it, and so it
holds where only scalars are listed. -/
theorem enumeration_keeps_flags_apart_iff :
    (∀ value : Value, value.isConcrete →
      (∃ accepted, (enum presence values).validate value path = .ok accepted) →
        ∃ allowed ∈ values, allowed.same value = true ∧
          allowed.flag? = value.flag?) ∧
    (KeepsFlagsApart presence values path ↔
      ∀ value trail, trail ≠ [] → Value.Listed values value →
        Value.Listed values (value.exchange trail)) ∧
    ((∀ allowed ∈ values, allowed.isScalar) →
      KeepsFlagsApart presence values path) := by
  refine ⟨?_, ⟨?_, ?_⟩, ?_⟩
  · intro value hconcrete haccepted
    exact (enum_accepts_iff presence values path hconcrete).mp haccepted
  · intro hkeeps value trail hne hlisted
    exact hkeeps.listed_exchange hne hlisted
  · exact keepsFlagsApart_of_exchanges presence values path
  · intro hscalars
    apply keepsFlagsApart_of_exchanges
    intro value trail hne hlisted
    exact Value.listed_exchange_of_isScalar hscalars hne hlisted

/-- An enumeration of a truth value, the number equal to it, and a text. -/
def switchValues : List Value :=
  [.bool true, .number (.int 1), .text "auto"]

theorem switchValues_keeps_flags_apart :
    (∀ allowed ∈ switchValues, allowed.isScalar) ∧
      KeepsFlagsApart {} switchValues "mode" :=
  have hscalars : ∀ allowed ∈ switchValues, allowed.isScalar := by
    simp [switchValues, Value.isScalar]
  ⟨hscalars,
    (enumeration_keeps_flags_apart_iff {} switchValues "mode").2.2 hscalars⟩

/-- Inside an array a truth value is accepted for the number one. -/
theorem listed_one_accepts_true :
    (∃ accepted, (enum {} [.list [.number (.int 1)]]).validate
      (.list [.bool true]) "value" = .ok accepted) ∧
    ¬Value.Listed [.list [.number (.int 1)]] (.list [.bool true]) := by
  have hone : (Number.int 1).same (.int 1) = true :=
    Number.same_int_int_iff.mpr rfl
  constructor
  · rw [enum_accepts_iff _ _ _ rfl]
    refine ⟨_, List.mem_singleton_self _, ?_, rfl⟩
    simpa [Value.same, Value.sameItems, Value.asNumber?] using hone
  · rintro ⟨allowed, hmem, hmatches⟩
    obtain rfl := List.mem_singleton.mp hmem
    have hflags : (none : Option Bool) = some true :=
      hmatches.flags_eq [.item 0] _ _ rfl rfl
    exact absurd hflags (by decide)

end Schema

end ViewCompiler
