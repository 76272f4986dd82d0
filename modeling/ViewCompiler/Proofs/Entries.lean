import ViewCompiler.Entries

/-!
# Named values that are looked up and set

Looking up a name finds one of the entries, and giving names values adds no
other entry than the given ones.  Setting a name changes what is found under it
and nothing else; setting names of which all are set again later changes
nothing in the end.
-/

namespace ViewCompiler
namespace Entries

variable {α : Type} {entries : Entries α} {key : String} {value : α}

theorem mem_of_get?_eq_some (hget : get? entries key = some value) :
    (key, value) ∈ entries := by
  induction entries with
  | nil => contradiction
  | cons entry rest ih =>
      obtain ⟨name, first⟩ := entry
      by_cases hname : name = key
      · subst hname
        rw [get?, if_pos rfl, Option.some.injEq] at hget
        simp [hget]
      · rw [get?, if_neg hname] at hget
        exact List.mem_cons_of_mem _ (ih hget)

theorem get?_isSome_of_mem (hmem : (key, value) ∈ entries) :
    (get? entries key).isSome = true := by
  induction entries with
  | nil => contradiction
  | cons entry rest ih =>
      obtain ⟨name, first⟩ := entry
      by_cases hname : name = key
      · rw [get?, if_pos hname, Option.isSome_some]
      · rw [get?, if_neg hname]
        apply ih
        rcases List.mem_cons.mp hmem with heq | hrest
        · exact absurd (Prod.mk.inj heq).1.symm hname
        · exact hrest

theorem get?_map_of_mem (value : String → α) {names : List String}
    {name : String} (hname : name ∈ names) :
    get? (names.map fun other => (other, value other)) name =
      some (value name) := by
  induction names with
  | nil => contradiction
  | cons first rest ih =>
      rw [List.map_cons, get?]
      by_cases heq : first = name
      · rw [if_pos heq, heq]
      · rw [if_neg heq]
        have hne : name ≠ first := fun h => heq h.symm
        exact ih (List.mem_of_ne_of_mem hne hname)

theorem has_of_get?_eq_some (hget : get? entries key = some value) :
    has entries key = true := by
  rw [has, hget, Option.isSome_some]

theorem has_of_get?_eq_none (hget : get? entries key = none) :
    has entries key = false := by
  rw [has, hget, Option.isSome_none]

theorem has_iff_mem_keys : has entries key = true ↔ key ∈ keys entries := by
  constructor
  · intro hhas
    obtain ⟨value, hget⟩ := Option.isSome_iff_exists.mp hhas
    exact List.mem_map.mpr ⟨_, mem_of_get?_eq_some hget, rfl⟩
  · intro hkey
    obtain ⟨⟨name, value⟩, hmem, rfl⟩ := List.mem_map.mp hkey
    exact get?_isSome_of_mem hmem

theorem get?_eq_some_of_mem (hkeys : (keys entries).Nodup)
    (hmem : (key, value) ∈ entries) : get? entries key = some value := by
  induction entries with
  | nil => contradiction
  | cons entry rest ih =>
      obtain ⟨name, first⟩ := entry
      obtain ⟨hfresh, hrest⟩ := List.nodup_cons.mp hkeys
      rcases List.mem_cons.mp hmem with heq | hmem
      · obtain ⟨rfl, rfl⟩ := Prod.mk.inj heq
        rw [get?, if_pos rfl]
      · have hname : name ≠ key := by
          rintro rfl
          exact hfresh (List.mem_map.mpr ⟨_, hmem, rfl⟩)
        rw [get?, if_neg hname]
        exact ih hrest hmem

theorem get?_eq_some_iff_mem (hkeys : (keys entries).Nodup) :
    get? entries key = some value ↔ (key, value) ∈ entries :=
  ⟨mem_of_get?_eq_some, get?_eq_some_of_mem hkeys⟩

theorem get?_of_perm {others : Entries α} (hkeys : (keys entries).Nodup)
    (hperm : entries.Perm others) : get? entries = get? others := by
  have hothers : (keys others).Nodup := (hperm.map Prod.fst).nodup_iff.mp hkeys
  funext key
  apply Option.ext
  intro value
  rw [get?_eq_some_iff_mem hkeys, get?_eq_some_iff_mem hothers, hperm.mem_iff]

theorem mem_set {entry : String × α} (hentry : entry ∈ set entries key value) :
    entry = (key, value) ∨ entry ∈ entries := by
  induction entries with
  | nil => exact Or.inl (List.mem_singleton.mp hentry)
  | cons first rest ih =>
      obtain ⟨name, old⟩ := first
      by_cases hname : name = key
      · subst hname
        rw [set, if_pos rfl, List.mem_cons] at hentry
        exact hentry.imp_right (List.mem_cons_of_mem _)
      · rw [set, if_neg hname, List.mem_cons] at hentry
        rcases hentry with rfl | hrest
        · exact Or.inr List.mem_cons_self
        · exact (ih hrest).imp_right (List.mem_cons_of_mem _)

theorem mem_setAll {pairs : List (String × α)} {entry : String × α}
    (hentry : entry ∈ setAll entries pairs) :
    entry ∈ pairs ∨ entry ∈ entries := by
  induction pairs generalizing entries with
  | nil => exact Or.inr hentry
  | cons pair rest ih =>
      rcases ih hentry with hrest | hset
      · exact Or.inl (List.mem_cons_of_mem _ hrest)
      · rcases mem_set hset with rfl | hentries
        · exact Or.inl List.mem_cons_self
        · exact Or.inr hentries

theorem mem_ofPairs {pairs : List (String × α)} {entry : String × α}
    (hentry : entry ∈ ofPairs pairs) : entry ∈ pairs := by
  rcases mem_setAll hentry with hpairs | hnone
  · exact hpairs
  · contradiction

theorem keys_set (entries : Entries α) (key : String) (value : α) :
    keys (set entries key value) =
      if key ∈ keys entries then keys entries else keys entries ++ [key] := by
  induction entries with
  | nil => rfl
  | cons entry rest ih =>
      obtain ⟨name, old⟩ := entry
      by_cases hname : name = key
      · simp [set, keys, hname]
      · simp only [keys] at ih
        by_cases hkey : key ∈ rest.map Prod.fst
        · simp [set, keys, hname, ih, hkey]
        · simp [set, keys, hname, Ne.symm hname, ih, hkey]

theorem nodup_keys_setAll (hkeys : (keys entries).Nodup)
    (pairs : List (String × α)) : (keys (setAll entries pairs)).Nodup := by
  induction pairs generalizing entries with
  | nil => exact hkeys
  | cons pair rest ih =>
      apply ih
      rw [keys_set]
      split
      next => exact hkeys
      next hkey => exact List.nodup_append.mpr ⟨hkeys, by simp, by grind⟩

theorem nodup_keys_ofPairs (pairs : List (String × α)) :
    (keys (ofPairs pairs)).Nodup := by
  apply nodup_keys_setAll
  exact List.nodup_nil

theorem mapValues_cons {β : Type} (f : α → β) (name : String) (value : α)
    (rest : Entries α) :
    mapValues f ((name, value) :: rest) = (name, f value) :: mapValues f rest :=
  rfl

/-! ## Looking up a name after setting one -/

@[simp] theorem get?_set_self (entries : Entries α) (key : String) (value : α) :
    get? (set entries key value) key = some value := by
  induction entries with
  | nil => simp [set, get?]
  | cons entry rest ih =>
      obtain ⟨name, old⟩ := entry
      by_cases hname : name = key
      · simp [set, get?, hname]
      · simp [set, get?, hname, ih]

theorem get?_set_of_ne {other : String} (hne : other ≠ key) :
    get? (set entries key value) other = get? entries other := by
  induction entries with
  | nil => simp [set, get?, hne.symm]
  | cons entry rest ih =>
      obtain ⟨name, old⟩ := entry
      by_cases hname : name = key
      · subst hname
        simp [set, get?, hne.symm]
      · simp [set, get?, hname, ih]

section SetAll

variable {pairs : List (String × α)}

theorem get?_setAll_of_notMem (hkey : key ∉ keys pairs) :
    get? (setAll entries pairs) key = get? entries key := by
  induction pairs generalizing entries with
  | nil => rfl
  | cons pair rest ih =>
      simp only [keys, List.map_cons, List.mem_cons, not_or] at hkey
      calc
        get? (setAll (set entries pair.1 pair.2) rest) key =
            get? (set entries pair.1 pair.2) key := ih hkey.2
        _ = get? entries key := get?_set_of_ne hkey.1

/-- What is found under a name that was set does not depend on the entries that
were there before. -/
theorem get?_setAll_of_mem (hkey : key ∈ keys pairs)
    (first second : Entries α) :
    get? (setAll first pairs) key = get? (setAll second pairs) key := by
  induction pairs generalizing first second with
  | nil => contradiction
  | cons pair rest ih =>
      change get? (setAll (set first pair.1 pair.2) rest) key =
        get? (setAll (set second pair.1 pair.2) rest) key
      by_cases hrest : key ∈ keys rest
      · exact ih hrest _ _
      · have hpair : pair.1 = key := by
          simp only [keys, List.map_cons, List.mem_cons] at hkey hrest
          exact (hkey.resolve_right hrest).symm
        rw [get?_setAll_of_notMem hrest, get?_setAll_of_notMem hrest, hpair,
          get?_set_self, get?_set_self]

theorem get?_setAll_isSome (hkey : key ∈ keys pairs) :
    (get? (setAll entries pairs) key).isSome = true := by
  induction pairs generalizing entries with
  | nil => contradiction
  | cons pair rest ih =>
      change (get? (setAll (set entries pair.1 pair.2) rest) key).isSome = true
      by_cases hrest : key ∈ keys rest
      · exact ih hrest
      · have hpair : pair.1 = key := by
          simp only [keys, List.map_cons, List.mem_cons] at hkey hrest
          exact (hkey.resolve_right hrest).symm
        rw [get?_setAll_of_notMem hrest, hpair, get?_set_self,
          Option.isSome_some]

/-- Of the values that a name is given one after the other, the last is found. -/
theorem get?_setAll (entries : Entries α) (pairs : List (String × α))
    (key : String) :
    get? (setAll entries pairs) key =
      ((pairs.reverse.find? fun pair => pair.1 == key).map Prod.snd).or
        (get? entries key) := by
  induction pairs generalizing entries with
  | nil => rfl
  | cons pair rest ih =>
      change get? (setAll (set entries pair.1 pair.2) rest) key = _
      rw [ih, List.reverse_cons, List.find?_append, Option.map_or,
        Option.or_assoc]
      congr 1
      by_cases hpair : pair.1 = key
      · simp [← hpair]
      · simp [hpair, get?_set_of_ne (Ne.symm hpair)]

theorem get?_setAll_of_nodup (hkeys : (keys pairs).Nodup)
    (hget : get? pairs key = some value) :
    get? (setAll entries pairs) key = some value := by
  induction pairs generalizing entries with
  | nil => contradiction
  | cons pair rest ih =>
      obtain ⟨name, first⟩ := pair
      obtain ⟨hfresh, hrest⟩ := List.nodup_cons.mp hkeys
      change get? (setAll (set entries name first) rest) key = some value
      by_cases hname : name = key
      · subst hname
        rw [get?, if_pos rfl] at hget
        rw [get?_setAll_of_notMem hfresh, get?_set_self, hget]
      · rw [get?, if_neg hname] at hget
        exact ih hrest hget

theorem ofPairs_eq_nil_iff : ofPairs pairs = [] ↔ pairs = [] := by
  constructor
  · intro hnil
    cases pairs with
    | nil => rfl
    | cons pair rest =>
        have hfound : (get? (ofPairs (pair :: rest)) pair.1).isSome = true :=
          get?_setAll_isSome List.mem_cons_self
        rw [hnil] at hfound
        contradiction
  · rintro rfl
    rfl

theorem filter_set {p : String → Bool} (hkey : p key = false) :
    (set entries key value).filter (fun entry => p entry.1) =
      entries.filter fun entry => p entry.1 := by
  induction entries with
  | nil => simp [set, hkey]
  | cons entry rest ih =>
      obtain ⟨name, old⟩ := entry
      by_cases hname : name = key
      · subst hname
        simp [set, hkey]
      · simp [set, hname, List.filter_cons, ih]

/-- Setting names changes no entry of another name, nor the order of these. -/
theorem filter_setAll {p : String → Bool}
    (hpairs : ∀ key ∈ keys pairs, p key = false) :
    (setAll entries pairs).filter (fun entry => p entry.1) =
      entries.filter fun entry => p entry.1 := by
  induction pairs generalizing entries with
  | nil => rfl
  | cons pair rest ih =>
      simp only [keys, List.map_cons, List.forall_mem_cons] at hpairs
      calc
        (setAll (set entries pair.1 pair.2) rest).filter (fun entry => p entry.1)
          = (set entries pair.1 pair.2).filter (fun entry => p entry.1) :=
            ih hpairs.2
        _ = entries.filter fun entry => p entry.1 := filter_set hpairs.1

end SetAll

/-! ## Setting names again -/

theorem set_eq_self (hget : get? entries key = some value) :
    set entries key value = entries := by
  induction entries with
  | nil => contradiction
  | cons entry rest ih =>
      obtain ⟨name, old⟩ := entry
      by_cases hname : name = key
      · rw [get?, if_pos hname, Option.some.injEq] at hget
        rw [set, if_pos hname, hget]
      · rw [get?, if_neg hname] at hget
        rw [set, if_neg hname, ih hget]

theorem set_set_self (entries : Entries α) (key : String) (old value : α) :
    set (set entries key old) key value = set entries key value := by
  induction entries with
  | nil => simp [set]
  | cons entry rest ih =>
      obtain ⟨name, first⟩ := entry
      by_cases hname : name = key
      · simp [set, hname]
      · simp [set, hname, ih]

/-- Names that differ can be set in either order if the first one has a place
already. -/
theorem set_comm {other : String} (hne : other ≠ key)
    (hhas : (get? entries key).isSome = true) (value found : α) :
    set (set entries key value) other found =
      set (set entries other found) key value := by
  induction entries with
  | nil => contradiction
  | cons entry rest ih =>
      obtain ⟨name, old⟩ := entry
      by_cases hname : name = key
      · subst hname
        simp [set, hne.symm]
      · rw [get?, if_neg hname] at hhas
        by_cases hother : name = other
        · simp [set, hother, hne]
        · simp [set, hname, hother, ih hhas]

theorem setAll_set_of_mem {pairs : List (String × α)}
    (hkey : key ∈ keys pairs) (hhas : (get? entries key).isSome = true)
    (value : α) :
    setAll (set entries key value) pairs = setAll entries pairs := by
  induction pairs generalizing entries with
  | nil => contradiction
  | cons pair rest ih =>
      change setAll (set (set entries key value) pair.1 pair.2) rest =
        setAll (set entries pair.1 pair.2) rest
      by_cases hpair : pair.1 = key
      · rw [hpair, set_set_self]
      · have hrest : key ∈ keys rest := by
          simp only [keys, List.map_cons, List.mem_cons] at hkey ⊢
          exact hkey.resolve_left (Ne.symm hpair)
        rw [set_comm hpair hhas]
        apply ih hrest
        rw [get?_set_of_ne (Ne.symm hpair)]
        exact hhas

/-- Setting names changes nothing where each has its last value already. -/
theorem setAll_eq_self {pairs : List (String × α)}
    (hvalues : ∀ key ∈ keys pairs,
      get? entries key = get? (ofPairs pairs) key) :
    setAll entries pairs = entries := by
  induction pairs with
  | nil => rfl
  | cons pair rest ih =>
      obtain ⟨key, value⟩ := pair
      have hrest : setAll entries rest = entries := by
        apply ih
        intro other hother
        rw [hvalues other (List.mem_cons_of_mem _ hother)]
        exact get?_setAll_of_mem hother _ _
      have hkey := hvalues key List.mem_cons_self
      change setAll (set entries key value) rest = entries
      by_cases hagain : key ∈ keys rest
      · have hhas : (get? entries key).isSome = true := by
          rw [hkey]
          exact get?_setAll_isSome List.mem_cons_self
        rw [setAll_set_of_mem hagain hhas, hrest]
      · have hget : get? entries key = some value := by
          rw [hkey]
          change get? (setAll (set [] key value) rest) key = some value
          rw [get?_setAll_of_notMem hagain, get?_set_self]
        rw [set_eq_self hget, hrest]

theorem setAll_setAll_self (entries : Entries α)
    (pairs : List (String × α)) :
    setAll (setAll entries pairs) pairs = setAll entries pairs := by
  apply setAll_eq_self
  intro key hkey
  exact get?_setAll_of_mem hkey _ _

end Entries
end ViewCompiler
