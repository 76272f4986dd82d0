import ViewCompiler.Output.Artifact

/-!
# What writing changes

Making a directory and writing a file are described by what stands at every
path afterwards.  Neither takes a directory away, so what led to a path before
still leads there.  Writing files into a directory therefore changes nothing
but the directories on the way to it and the files themselves, also if it is
refused halfway.  If it is not, the directories are there and the files hold
their texts.
-/

namespace ViewCompiler

/-! ## Texts as bytes -/

namespace Utf8

theorem decode_toUTF8 (text : String) : decode text.toUTF8 = .ok text := by
  have htext : String.fromUTF8? text.toUTF8 = some text := by
    rw [String.fromUTF8?, String.toUTF8_eq_toByteArray,
      dif_pos text.isValidUTF8]
    rfl
  rw [decode, htext]

/-- Bytes are read as a text exactly if they are its UTF-8 form. -/
theorem decode_eq_ok_iff {bytes : ByteArray} {text : String} :
    decode bytes = .ok text ↔ bytes = text.toUTF8 := by
  constructor
  · intro hdecode
    unfold decode String.fromUTF8? at hdecode
    by_cases hvalid : bytes.IsValidUTF8
    · simp only [dif_pos hvalid] at hdecode
      obtain rfl := Except.ok.inj hdecode
      rfl
    · simp only [dif_neg hvalid] at hdecode
      contradiction
  · rintro rfl
    exact decode_toUTF8 text

example : (firstFault 0 [0x5B, 0xC3, 0xA9, 0xE2, 0x82]).message =
    "'utf-8' codec can't decode bytes in position 3-4: unexpected end of data" := by
  decide +kernel

end Utf8

namespace Files

variable {files middle later : Files} {location : Location}
  {start path : TreePath} {names : List String}

/-! ## What stands at a path -/

private theorem lookup_cons_eq_ite (entry : TreePath × Content)
    (rest : List (TreePath × Content)) (path : TreePath) :
    (entry :: rest).lookup path =
      if path = entry.1 then some entry.2 else rest.lookup path := by
  by_cases hpath : path = entry.1
  · rw [if_pos hpath, List.lookup_cons, beq_iff_eq.mpr hpath]
  · rw [if_neg hpath, List.lookup_cons, beq_false_of_ne hpath]

private theorem lookup_map_replace (entries : List (TreePath × Content))
    (path other : TreePath) (content : Content) :
    (entries.map fun entry =>
      if entry.1 = path then (path, content) else entry).lookup other =
      if other = path then (entries.lookup path).map fun _ => content
      else entries.lookup other := by
  induction entries with
  | nil => simp
  | cons entry rest ih =>
      rw [List.map_cons, lookup_cons_eq_ite, lookup_cons_eq_ite,
        lookup_cons_eq_ite, ih]
      by_cases hentry : entry.1 = path
      · by_cases hother : other = path
        · simp [hentry, hother]
        · simp [hentry, hother]
      · by_cases hother : other = path
        · simp [hentry, hother, Ne.symm hentry]
        · simp [hentry, hother]

private theorem lookup_put (files : Files) (path other : TreePath)
    (content : Content) :
    (files.put path content).entries.lookup other =
      if other = path then some content else files.entries.lookup other := by
  unfold put
  cases hfound : files.entries.lookup path with
  | some old =>
      simp only [Option.isSome_some, if_true, lookup_map_replace, hfound,
        Option.map_some]
  | none =>
      simp only [Option.isSome_none, Bool.false_eq_true, if_false,
        List.lookup_append, lookup_cons_eq_ite, List.lookup_nil]
      by_cases hother : other = path
      · simp [hother, hfound]
      · simp [hother]

/-- Where no directory stands, anything can be put, and it changes nothing
else. -/
theorem at?_put (hpath : files.at? path ≠ some .directory) (content : Content)
    (other : TreePath) :
    (files.put path content).at? other =
      if other = path then some content else files.at? other := by
  have hfixed : ¬(path.isUpward || decide (path = TreePath.root)) = true :=
    fun hfixed => hpath (by rw [at?, if_pos hfixed])
  by_cases hother : other = path
  · rw [hother, at?, if_neg hfixed, lookup_put, if_pos rfl, if_pos rfl]
  · rw [at?, at?, lookup_put, if_neg hother, if_neg hother]

/-! ## Following names -/

theorem follow_cons_of_directory {name : String}
    (hdirectory : files.at? path = some .directory) :
    files.follow path (name :: names) =
      if 255 < name.utf8ByteSize then .error .nameTooLong
      else files.follow (path.enter name) names := by
  rw [follow, hdirectory]

theorem follow_cons_eq_ok {name : String}
    (hfollow : files.follow start (name :: names) = .ok path) :
    files.at? start = some .directory ∧ ¬255 < name.utf8ByteSize ∧
      files.follow (start.enter name) names = .ok path := by
  unfold follow at hfollow
  cases hcontent : files.at? start with
  | none =>
      rw [hcontent] at hfollow
      contradiction
  | some content =>
      rw [hcontent] at hfollow
      cases content with
      | file bytes => contradiction
      | directory =>
          by_cases hlong : 255 < name.utf8ByteSize
          · simp only [if_pos hlong] at hfollow
            contradiction
          · simp only [if_neg hlong] at hfollow
            exact ⟨rfl, hlong, hfollow⟩

theorem follow_append_eq_ok {more : List String} :
    files.follow start (names ++ more) = .ok path ↔
      ∃ middle, files.follow start names = .ok middle ∧
        files.follow middle more = .ok path := by
  induction names generalizing start with
  | nil => simp [follow]
  | cons name rest ih =>
      constructor
      · intro hfollow
        obtain ⟨hdirectory, hlong, hrest⟩ := follow_cons_eq_ok hfollow
        obtain ⟨middle, hmiddle, hmore⟩ := ih.mp hrest
        refine ⟨middle, ?_, hmore⟩
        rw [follow_cons_of_directory hdirectory, if_neg hlong, hmiddle]
      · rintro ⟨middle, hmiddle, hmore⟩
        obtain ⟨hdirectory, hlong, hrest⟩ := follow_cons_eq_ok hmiddle
        rw [List.cons_append, follow_cons_of_directory hdirectory,
          if_neg hlong]
        exact ih.mpr ⟨middle, hrest, hmore⟩

/-- Names that lead to a path still do when there are more directories. -/
theorem follow_of_directories_kept
    (hkept : ∀ path, files.at? path = some .directory →
      later.at? path = some .directory)
    (hfollow : files.follow start names = .ok path) :
    later.follow start names = .ok path := by
  induction names generalizing start with
  | nil => exact hfollow
  | cons name rest ih =>
      obtain ⟨hdirectory, hlong, hrest⟩ := follow_cons_eq_ok hfollow
      rw [follow_cons_of_directory (hkept start hdirectory), if_neg hlong]
      exact ih hrest

theorem follow_of_resolve (hresolve : files.resolve location = .ok path) :
    files.follow (anchorPath location.anchor) location.names = .ok path := by
  unfold resolve at hresolve
  split at hresolve
  · contradiction
  · split at hresolve
    · contradiction
    · exact hresolve

theorem resolve_of_directories_kept
    (hkept : ∀ path, files.at? path = some .directory →
      later.at? path = some .directory)
    (hresolve : files.resolve location = .ok path) :
    later.resolve location = .ok path := by
  have hfollow :=
    follow_of_directories_kept hkept (follow_of_resolve hresolve)
  unfold resolve at hresolve ⊢
  split at hresolve
  · contradiction
  · rename_i hnull
    split at hresolve
    · contradiction
    · rename_i hlong
      rw [if_neg hnull, if_neg hlong, hfollow]

/-- The path is that of a directory on the way to a location, or of the location
itself. -/
def OnTheWay (files : Files) (location : Location) (path : TreePath) : Prop :=
  ∃ names, names <+: location.names ∧
    files.follow (anchorPath location.anchor) names = .ok path

theorem OnTheWay.of_resolve (hresolve : files.resolve location = .ok path) :
    files.OnTheWay location path :=
  ⟨location.names, List.prefix_rfl, follow_of_resolve hresolve⟩

theorem OnTheWay.of_directories_kept
    (hkept : ∀ path, files.at? path = some .directory →
      later.at? path = some .directory)
    (hway : files.OnTheWay location path) : later.OnTheWay location path := by
  obtain ⟨names, hprefix, hfollow⟩ := hway
  exact ⟨names, hprefix, follow_of_directories_kept hkept hfollow⟩

theorem OnTheWay.at?_eq_directory {base : TreePath}
    (hresolve : files.resolve location = .ok base)
    (hbase : files.at? base = some .directory)
    (hway : files.OnTheWay location path) :
    files.at? path = some .directory := by
  obtain ⟨names, ⟨more, hmore⟩, hfollow⟩ := hway
  have hfull := follow_of_resolve hresolve
  rw [← hmore, follow_append_eq_ok] at hfull
  obtain ⟨middle, hmiddle, hrest⟩ := hfull
  rw [hfollow] at hmiddle
  obtain rfl := Except.ok.inj hmiddle
  cases more with
  | nil =>
      obtain rfl := Except.ok.inj hrest
      exact hbase
  | cons name rest => exact (follow_cons_eq_ok hrest).1

theorem read_of_resolve_error {fault : FileFault}
    (hresolve : files.resolve location = .error fault) :
    files.read location = .error ⟨fault, location⟩ := by
  rw [read, hresolve]

theorem read_of_at?_none
    (hresolve : files.resolve location = .ok path)
    (hnone : files.at? path = none) :
    files.read location = .error ⟨.notFound, location⟩ := by
  simp only [read, hresolve, hnone]

theorem read_of_file {bytes : ByteArray}
    (hresolve : files.resolve location = .ok path)
    (hfile : files.at? path = some (.file bytes)) :
    files.read location = (Utf8.decode bytes).mapError fun fault =>
      ⟨.undecodable fault, location⟩ := by
  simp only [read, hresolve, hfile]

/-- A text is read where a file holds its bytes. -/
theorem read_eq_ok_iff {text : String} :
    files.read location = .ok text ↔
      ∃ path, files.resolve location = .ok path ∧
        files.at? path = some (.file text.toUTF8) := by
  constructor
  · intro hread
    cases hresolve : files.resolve location with
    | error fault =>
        rw [read_of_resolve_error hresolve] at hread
        contradiction
    | ok path =>
        refine ⟨path, rfl, ?_⟩
        cases hcontent : files.at? path with
        | none =>
            rw [read_of_at?_none hresolve hcontent] at hread
            contradiction
        | some content =>
            cases content with
            | directory => simp [read, hresolve, hcontent] at hread
            | file bytes =>
                rw [read_of_file hresolve hcontent] at hread
                cases hdecode : Utf8.decode bytes with
                | error fault =>
                    rw [hdecode] at hread
                    contradiction
                | ok found =>
                    rw [hdecode] at hread
                    obtain rfl : found = text := Except.ok.inj hread
                    rw [Utf8.decode_eq_ok_iff.mp hdecode]
  · rintro ⟨path, hresolve, hfile⟩
    rw [read_of_file hresolve hfile, Utf8.decode_toUTF8]
    rfl

/-- A written location that is short and has no null character is followed by its
names. -/
theorem resolve_of_text {text : String} (htext : location.text = text)
    (hnull : text.contains '\x00' = false) (hshort : text.utf8ByteSize ≤ 4095)
    (files : Files) :
    files.resolve location =
      files.follow (anchorPath location.anchor) location.names := by
  rw [resolve, htext, hnull, if_neg Bool.false_ne_true,
    if_neg (Nat.not_lt.mpr hshort)]

/-- A file of the working directory that stands first is found by its name. -/
theorem resolve_of_first {name : String} {content : Content}
    {entries : List (TreePath × Content)}
    (hlocation : location = { names := [name] })
    (hname : name ≠ ".." ∧ name ≠ "/") (hnull : name.contains '\x00' = false)
    (hshort : name.utf8ByteSize ≤ 255) :
    let files : Files := { entries := ([name], content) :: entries }
    files.resolve location = .ok [name] ∧ files.at? [name] = some content := by
  intro files
  have htext : location.text = name := by
    rw [hlocation]
    simp [Location.text, Anchor.text]
  have hroot : [name] ≠ TreePath.root := by
    simp [TreePath.root, hname.2]
  have hworking : files.at? [] = some .directory := rfl
  constructor
  · rw [resolve_of_text htext hnull (by omega), hlocation]
    change follow _ [] [name] = _
    rw [follow_cons_of_directory hworking, if_neg (by omega), follow]
    simp [TreePath.enter, hname.1]
  · simp [files, at?, TreePath.isUpward, hname.1, hroot]

/-! ## Making directories -/

/-- Nothing is changed, but directories are made at some of the given places,
where nothing was. -/
def Deepens (files later : Files) (places : TreePath → Prop) : Prop :=
  ∀ path, later.at? path = files.at? path ∨
    files.at? path = none ∧ later.at? path = some .directory ∧ places path

theorem Deepens.refl (files : Files) (places : TreePath → Prop) :
    files.Deepens files places :=
  fun _ => Or.inl rfl

theorem Deepens.directories_kept {places : TreePath → Prop}
    (hdeepens : files.Deepens later places) (path : TreePath)
    (hdirectory : files.at? path = some .directory) :
    later.at? path = some .directory := by
  rcases hdeepens path with hsame | ⟨hnone, _⟩
  · rw [hsame, hdirectory]
  · rw [hdirectory] at hnone
    contradiction

theorem Deepens.trans {first second places : TreePath → Prop}
    (hfirst : files.Deepens middle first) (hsecond : middle.Deepens later second)
    (hfirstPlaces : ∀ path, first path → places path)
    (hsecondPlaces : ∀ path, second path → places path) :
    files.Deepens later places := by
  intro path
  rcases hfirst path with hsame | ⟨hnone, hmade, hplace⟩
  · rcases hsecond path with hsame' | ⟨hnone, hmade, hplace⟩
    · exact Or.inl (hsame'.trans hsame)
    · exact Or.inr ⟨hsame ▸ hnone, hmade, hsecondPlaces path hplace⟩
  · exact Or.inr ⟨hnone, hsecond.directories_kept path hmade,
      hfirstPlaces path hplace⟩

theorem Deepens.weaken {fewer places : TreePath → Prop}
    (hdeepens : files.Deepens later fewer)
    (hplaces : ∀ path, fewer path → places path) :
    files.Deepens later places :=
  hdeepens.trans (.refl _ fewer) hplaces hplaces

/-- Making a directory puts it where nothing was, finds it there, or is refused
and changes nothing. -/
theorem ensureDirectory_cases (files : Files) (location : Location) :
    (∃ path, files.resolve location = .ok path ∧ files.at? path = none ∧
      files.ensureDirectory location = (files.put path .directory, none)) ∨
    (∃ path, files.resolve location = .ok path ∧
      files.at? path = some .directory ∧
      files.ensureDirectory location = (files, none)) ∨
    ∃ error, files.ensureDirectory location = (files, some error) := by
  cases hresolve : files.resolve location with
  | error fault =>
      refine Or.inr (Or.inr ⟨⟨fault, location⟩, ?_⟩)
      simp [ensureDirectory, makeDirectory, isDirectory, hresolve]
  | ok path =>
      cases hcontent : files.at? path with
      | none =>
          refine Or.inl ⟨path, rfl, hcontent, ?_⟩
          simp [ensureDirectory, makeDirectory, hresolve, hcontent]
      | some content =>
          cases content with
          | directory =>
              refine Or.inr (Or.inl ⟨path, rfl, hcontent, ?_⟩)
              simp [ensureDirectory, makeDirectory, isDirectory, hresolve,
                hcontent]
          | file bytes =>
              refine Or.inr (Or.inr ⟨⟨.alreadyExists, location⟩, ?_⟩)
              simp [ensureDirectory, makeDirectory, isDirectory, hresolve,
                hcontent]

theorem put_directory_deepens (hnone : files.at? path = none) :
    files.Deepens (files.put path .directory) (· = path) := by
  have hfree : files.at? path ≠ some .directory := by simp [hnone]
  have hput := at?_put hfree .directory
  intro other
  rw [hput other]
  by_cases hother : other = path
  · exact Or.inr ⟨hother ▸ hnone, if_pos hother, hother⟩
  · exact Or.inl (if_neg hother)

theorem ensureDirectory_deepens (files : Files) (location : Location) :
    let later := (files.ensureDirectory location).1
    files.Deepens later fun path => later.resolve location = .ok path := by
  intro later
  rcases files.ensureDirectory_cases location with
    ⟨path, hresolve, hnone, hensure⟩ | ⟨path, -, -, hensure⟩ |
    ⟨error, hensure⟩
  · have hdeepens := put_directory_deepens hnone
    have hlater : later = files.put path .directory := by
      simp only [later, hensure]
    rw [hlater]
    refine hdeepens.weaken ?_
    rintro _ rfl
    exact resolve_of_directories_kept hdeepens.directories_kept hresolve
  · simp only [later, hensure]
    exact .refl _ _
  · simp only [later, hensure]
    exact .refl _ _

/-- The location leads to a directory. -/
def Leads (files : Files) (location : Location) : Prop :=
  ∃ base, files.resolve location = .ok base ∧
    files.at? base = some .directory

theorem ensureDirectory_leads
    (hensure : files.ensureDirectory location = (later, none)) :
    later.Leads location := by
  rcases files.ensureDirectory_cases location with
    ⟨path, hresolve, hnone, hput⟩ | ⟨path, hresolve, hdirectory, hkept⟩ |
    ⟨error, hrefused⟩
  · rw [hput] at hensure
    obtain rfl := congrArg Prod.fst hensure
    refine ⟨path, resolve_of_directories_kept
      (put_directory_deepens hnone).directories_kept hresolve, ?_⟩
    rw [at?_put (by simp [hnone]), if_pos rfl]
  · rw [hkept] at hensure
    obtain rfl := congrArg Prod.fst hensure
    exact ⟨path, hresolve, hdirectory⟩
  · rw [hrefused] at hensure
    have hrefusal := congrArg Prod.snd hensure
    contradiction

/-- A longer way passes by the directories of a shorter one. -/
theorem OnTheWay.extend {anchor : Anchor} {more : List String}
    (hway : files.OnTheWay { anchor, names } path) :
    files.OnTheWay { anchor, names := names ++ more } path := by
  obtain ⟨passed, hprefix, hfollow⟩ := hway
  exact ⟨passed, hprefix.trans (List.prefix_append _ _), hfollow⟩

private theorem ensureDirectory_onTheWay (files : Files) (location : Location) :
    let later := (files.ensureDirectory location).1
    files.Deepens later (later.OnTheWay location) :=
  (files.ensureDirectory_deepens location).weaken fun _ hresolve =>
    .of_resolve hresolve

/-- Only directories on the way are made, also if the last of them is
refused. -/
theorem ensureAll_deepens (files : Files) (anchor : Anchor)
    (reversed : List String) :
    let later := (files.ensureAll anchor reversed).1
    files.Deepens later
      (later.OnTheWay { anchor, names := reversed.reverse }) := by
  induction reversed with
  | nil => exact files.ensureDirectory_onTheWay { anchor }
  | cons name above ih =>
      intro later
      cases habove : files.ensureAll anchor above with
      | mk middle refusal =>
          have hmiddle : files.Deepens middle
              (middle.OnTheWay { anchor, names := above.reverse }) := by
            rw [habove] at ih
            exact ih
          have hway : ∀ path,
              middle.OnTheWay { anchor, names := above.reverse } path →
              middle.OnTheWay { anchor, names := (name :: above).reverse }
                path := by
            intro path hway
            rw [List.reverse_cons]
            exact hway.extend
          have hlater : later =
              (files.ensureAll anchor (name :: above)).1 := rfl
          rw [ensureAll] at hlater
          simp only [habove] at hlater
          split at hlater
          · cases refusal with
            | none =>
                have hlast := middle.ensureDirectory_onTheWay
                  { anchor, names := (name :: above).reverse }
                rw [hlater]
                refine hmiddle.trans hlast ?_ fun _ hplace => hplace
                intro path hplace
                exact (hway path hplace).of_directories_kept
                  hlast.directories_kept
            | some error =>
                rw [hlater]
                exact hmiddle.weaken hway
          · rw [hlater]
            exact files.ensureDirectory_onTheWay _

theorem ensureAll_leads {anchor : Anchor} {reversed : List String}
    (hensure : files.ensureAll anchor reversed = (later, none)) :
    later.Leads { anchor, names := reversed.reverse } := by
  cases reversed with
  | nil => exact ensureDirectory_leads hensure
  | cons name above =>
      unfold ensureAll at hensure
      simp only at hensure
      split at hensure
      · split at hensure
        · exact ensureDirectory_leads hensure
        · have hrefusal := congrArg Prod.snd hensure
          contradiction
      · exact ensureDirectory_leads hensure

theorem ensureDirectories_deepens (files : Files) (location : Location) :
    let later := (files.ensureDirectories location).1
    files.Deepens later (later.OnTheWay location) := by
  have hdeepens :=
    files.ensureAll_deepens location.anchor location.names.reverse
  rwa [List.reverse_reverse] at hdeepens

theorem ensureDirectories_leads
    (hensure : files.ensureDirectories location = (later, none)) :
    later.Leads location := by
  have hleads := ensureAll_leads hensure
  rwa [List.reverse_reverse] at hleads

/-! ## Writing files -/

/-- The location of a name in a directory. -/
def inDirectory (directory : Location) (name : String) : Location :=
  directory.join { names := [name] }

/-- The files of given names and texts in a directory. -/
def artifactsIn (directory : Location) (written : Entries String) :
    List Artifact :=
  written.map fun entry => ⟨inDirectory directory entry.1, entry.2⟩

/-- Nothing is changed but files at some of the given places, where no directory
was. -/
def Touches (files later : Files) (places : TreePath → Prop) : Prop :=
  ∀ path, later.at? path = files.at? path ∨
    files.at? path ≠ some .directory ∧
      (∃ bytes, later.at? path = some (.file bytes)) ∧ places path

theorem Touches.refl (files : Files) (places : TreePath → Prop) :
    files.Touches files places :=
  fun _ => Or.inl rfl

theorem Touches.directories_kept {places : TreePath → Prop}
    (htouches : files.Touches later places) (path : TreePath)
    (hdirectory : files.at? path = some .directory) :
    later.at? path = some .directory := by
  rcases htouches path with hsame | ⟨hfree, -⟩
  · rw [hsame, hdirectory]
  · exact absurd hdirectory hfree

theorem Touches.trans {first second places : TreePath → Prop}
    (hfirst : files.Touches middle first)
    (hsecond : middle.Touches later second)
    (hfirstPlaces : ∀ path, first path → places path)
    (hsecondPlaces : ∀ path, second path → places path) :
    files.Touches later places := by
  intro path
  have hfree : middle.at? path ≠ some .directory →
      files.at? path ≠ some .directory :=
    fun hfree hdirectory =>
      hfree (hfirst.directories_kept path hdirectory)
  rcases hsecond path with hsame | ⟨hmiddle, hfile, hplace⟩
  · rw [hsame]
    rcases hfirst path with hsame' | ⟨hfiles, hfile, hplace⟩
    · exact Or.inl hsame'
    · exact Or.inr ⟨hfiles, hfile, hfirstPlaces path hplace⟩
  · exact Or.inr ⟨hfree hmiddle, hfile, hsecondPlaces path hplace⟩

theorem write_eq_ok {text : String}
    (hwrite : files.write location text = .ok later) :
    ∃ path, later.resolve location = .ok path ∧
      later.at? path = some (.file text.toUTF8) ∧
      files.Touches later (· = path) := by
  unfold write at hwrite
  cases hresolve : files.resolve location with
  | error fault =>
      rw [hresolve] at hwrite
      contradiction
  | ok path =>
      rw [hresolve] at hwrite
      simp only at hwrite
      split at hwrite
      · contradiction
      · rename_i hfree
        obtain rfl := Except.ok.inj hwrite
        have hput := at?_put hfree (.file text.toUTF8)
        have htouches : files.Touches
            (files.put path (.file text.toUTF8)) (· = path) := by
          intro other
          rw [hput other]
          by_cases hother : other = path
          · exact Or.inr ⟨hother ▸ hfree, ⟨_, if_pos hother⟩, hother⟩
          · exact Or.inl (if_neg hother)
        refine ⟨path, ?_, by rw [hput, if_pos rfl], htouches⟩
        exact resolve_of_directories_kept htouches.directories_kept hresolve

/-- A name in a directory leads to the path of the directory and that name. -/
theorem eq_append_of_resolve_inDirectory {directory : Location} {name : String}
    {base : TreePath} (hbase : files.resolve directory = .ok base)
    (hname : name ≠ "..")
    (hresolve : files.resolve (inDirectory directory name) = .ok path) :
    path = base ++ [name] := by
  have hfollow := follow_of_resolve hresolve
  have hnames : (inDirectory directory name).names = directory.names ++ [name] := rfl
  have hanchor : (inDirectory directory name).anchor = directory.anchor := rfl
  rw [hnames, hanchor, follow_append_eq_ok] at hfollow
  obtain ⟨middle, hmiddle, hlast⟩ := hfollow
  rw [follow_of_resolve hbase] at hmiddle
  obtain rfl := Except.ok.inj hmiddle
  obtain ⟨_, _, hlast⟩ := follow_cons_eq_ok hlast
  rw [TreePath.enter, if_neg hname] at hlast
  exact (Except.ok.inj hlast).symm

/-- The path is that of one of the names in a directory. -/
def Named (files : Files) (directory : Location) (names : List String)
    (path : TreePath) : Prop :=
  ∃ name ∈ names, files.resolve (inDirectory directory name) = .ok path

section Written

variable {directory : Location} {base : TreePath} {written : Entries String}

theorem Named.of_directories_kept
    (hkept : ∀ path, files.at? path = some .directory →
      later.at? path = some .directory)
    (hnamed : files.Named directory names path) :
    later.Named directory names path := by
  obtain ⟨name, hname, hresolve⟩ := hnamed
  exact ⟨name, hname, resolve_of_directories_kept hkept hresolve⟩

theorem writeAll_touches (files : Files) (directory : Location)
    (written : Entries String) :
    let later := (files.writeAll (artifactsIn directory written)).1
    files.Touches later (later.Named directory (Entries.keys written)) := by
  induction written generalizing files with
  | nil => exact .refl _ _
  | cons entry rest ih =>
      obtain ⟨name, text⟩ := entry
      rw [artifactsIn, List.map_cons, writeAll]
      cases hfirst : files.write (inDirectory directory name) text with
      | error error => exact .refl _ _
      | ok middle =>
          obtain ⟨path, hpath, -, htouches⟩ := write_eq_ok hfirst
          have hrest := ih middle
          refine htouches.trans hrest ?_ ?_
          · rintro _ rfl
            exact ⟨name, List.mem_cons_self,
              resolve_of_directories_kept hrest.directories_kept hpath⟩
          · rintro path ⟨other, hother, hresolve⟩
            exact ⟨other, List.mem_cons_of_mem _ hother, hresolve⟩

theorem writeAll_holds (hbase : files.resolve directory = .ok base)
    (hnames : ∀ name ∈ Entries.keys written, name ≠ "..")
    (hnodup : (Entries.keys written).Nodup)
    (hwrite : files.writeAll (artifactsIn directory written) =
      (later, none)) :
    ∀ entry ∈ written,
      later.read (inDirectory directory entry.1) = .ok entry.2 := by
  induction written generalizing files with
  | nil => simp
  | cons entry rest ih =>
      obtain ⟨name, text⟩ := entry
      rw [Entries.keys, List.map_cons, List.forall_mem_cons] at hnames
      rw [Entries.keys, List.map_cons, List.nodup_cons] at hnodup
      rw [artifactsIn, List.map_cons, writeAll] at hwrite
      cases hfirst : files.write (inDirectory directory name) text with
      | error error =>
          rw [hfirst] at hwrite
          simp at hwrite
      | ok middle =>
          rw [hfirst] at hwrite
          obtain ⟨path, hpath, hfile, htouches⟩ := write_eq_ok hfirst
          have hmiddle : middle.resolve directory = .ok base :=
            resolve_of_directories_kept htouches.directories_kept hbase
          have hrest := writeAll_touches middle directory rest
          have hlater : (middle.writeAll (artifactsIn directory rest)).1 =
              later := congrArg Prod.fst hwrite
          rw [hlater] at hrest
          refine List.forall_mem_cons.mpr
            ⟨?_, ih hmiddle hnames.2 hnodup.2 hwrite⟩
          -- the later files have other names, so the first stays as it is
          refine read_eq_ok_iff.mpr ⟨path, resolve_of_directories_kept
            hrest.directories_kept hpath, ?_⟩
          rcases hrest path with hsame | ⟨-, -, other, hother, hresolve⟩
          · rw [hsame, hfile]
          · have hlaterBase : later.resolve directory = .ok base :=
              resolve_of_directories_kept hrest.directories_kept hmiddle
            have hfirstPath := eq_append_of_resolve_inDirectory hmiddle
              hnames.1 hpath
            have hotherPath := eq_append_of_resolve_inDirectory hlaterBase
              (hnames.2 other hother) hresolve
            have hname : name = other := by
              simpa using hfirstPath.symm.trans hotherPath
            exact absurd (hname ▸ hother) hnodup.1

/-- The files after a directory was made and files of given names were written
into it, as far as that went: no other file has changed, no directory is gone,
and those that are new lie on the way. -/
structure Spares (files later : Files) (directory : Location)
    (names : List String) : Prop where
  otherFiles : ∀ path, ¬later.Named directory names path →
    ∀ bytes, later.at? path = some (.file bytes) ↔
      files.at? path = some (.file bytes)
  oldDirectories : ∀ path, files.at? path = some .directory →
    later.at? path = some .directory
  newDirectories : ∀ path, later.at? path = some .directory →
    files.at? path = some .directory ∨ later.OnTheWay directory path

theorem Deepens.spares
    (hdeepens : files.Deepens middle (middle.OnTheWay directory))
    (htouches : middle.Touches later (later.Named directory names)) :
    files.Spares later directory names where
  otherFiles := by
    intro path hother bytes
    rcases htouches path with hsame | ⟨-, -, hnamed⟩
    · rw [hsame]
      rcases hdeepens path with hsame | ⟨hnone, hmade, -⟩
      · rw [hsame]
      · simp [hnone, hmade]
    · exact absurd hnamed hother
  oldDirectories := fun path hdirectory =>
    htouches.directories_kept path (hdeepens.directories_kept path hdirectory)
  newDirectories := by
    intro path hdirectory
    rcases htouches path with hsame | ⟨-, ⟨bytes, hfile⟩, -⟩
    · rw [hsame] at hdirectory
      rcases hdeepens path with hsame | ⟨-, -, hway⟩
      · exact Or.inl (hsame ▸ hdirectory)
      · exact Or.inr (hway.of_directories_kept htouches.directories_kept)
    · simp [hfile] at hdirectory

theorem writeTo_spares (files : Files) (directory : Location)
    (written : Entries String) :
    files.Spares (files.writeTo directory (artifactsIn directory written)).1
      directory (Entries.keys written) := by
  have hdeepens := files.ensureDirectories_deepens directory
  rw [writeTo]
  cases hensure : files.ensureDirectories directory with
  | mk middle refusal =>
      rw [hensure] at hdeepens
      cases refusal with
      | none => exact hdeepens.spares (middle.writeAll_touches directory written)
      | some error => exact hdeepens.spares (.refl _ _)

/-- The files after all of given names and texts were written into a directory:
they hold their texts, and the directories on the way are there. -/
structure Leaves (files later : Files) (directory : Location)
    (written : Entries String) : Prop where
  spares : files.Spares later directory (Entries.keys written)
  holds : ∀ entry ∈ written,
    later.read (inDirectory directory entry.1) = .ok entry.2
  directories : ∀ path, later.OnTheWay directory path →
    later.at? path = some .directory

theorem writeTo_leaves
    (hnames : ∀ name ∈ Entries.keys written, name ≠ "..")
    (hnodup : (Entries.keys written).Nodup)
    (hwrite : files.writeTo directory (artifactsIn directory written) =
      (later, none)) :
    files.Leaves later directory written := by
  have hspares := files.writeTo_spares directory written
  rw [hwrite] at hspares
  rw [writeTo] at hwrite
  cases hensure : files.ensureDirectories directory with
  | mk middle refusal =>
      cases refusal with
      | some error =>
          rw [hensure] at hwrite
          simp at hwrite
      | none =>
          rw [hensure] at hwrite
          obtain ⟨base, hbase, hdirectory⟩ := ensureDirectories_leads hensure
          have htouches := middle.writeAll_touches directory written
          have hlater : (middle.writeAll (artifactsIn directory written)).1 =
              later := congrArg Prod.fst hwrite
          rw [hlater] at htouches
          have hkept := htouches.directories_kept
          refine ⟨hspares, writeAll_holds hbase hnames hnodup hwrite, ?_⟩
          intro path hway
          exact hway.at?_eq_directory
            (resolve_of_directories_kept hkept hbase) (hkept base hdirectory)

end Written

end Files
end ViewCompiler
