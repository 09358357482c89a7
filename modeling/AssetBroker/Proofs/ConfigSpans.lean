import AssetBroker.Proofs.ConfigChecks

/-!
# Where configuration errors point

An error of checking points at text in the files the configuration was read
from. Main statement (`validation_spans_locate_settings`): each error is
located where the setting of its failed check is found, and that is

- in the file of highest precedence whose text has the setting, over the key
  itself, or for a listed source over its quoted name, at the occurrence
  that counts the earlier listings of the same name;
- nowhere exactly when no file's text has the setting.

The place depends on the files' text only. A value that an environment
variable overrides, or that is left at its default, is still pointed at in
a file that sets the key (`overridden_level_points_at_file`).

The search for a key reads the text line by line; `KeySearch` is what it
knows after each line, and `Covers` says a span stands over a piece of text.
-/

namespace AssetBroker

namespace Text

/-! ## Byte lengths and line pieces -/

@[simp] theorem byteLength_nil : byteLength [] = 0 := rfl

theorem foldl_utf8Size (cs : List Char) (n : Nat) :
    cs.foldl (fun n c => n + c.utf8Size) n = n + cs.foldl (fun n c => n + c.utf8Size) 0 := by
  induction cs generalizing n with
  | nil => simp
  | cons c cs ih =>
    simp only [List.foldl_cons]
    rw [ih (n + c.utf8Size), ih (0 + c.utf8Size)]
    omega

@[simp] theorem byteLength_cons (c : Char) (cs : List Char) :
    byteLength (c :: cs) = c.utf8Size + byteLength cs := by
  unfold byteLength
  rw [List.foldl_cons, foldl_utf8Size]
  omega

@[simp] theorem byteLength_append (a b : List Char) :
    byteLength (a ++ b) = byteLength a + byteLength b := by
  induction a with
  | nil => simp
  | cons c a ih => simp [ih]; omega

theorem dropBytes_zero (cs : List Char) : dropBytes 0 cs = cs := by
  cases cs <;> simp [dropBytes]

theorem dropBytes_byteLength_append (a b : List Char) (n : Nat) :
    dropBytes (byteLength a + n) (a ++ b) = dropBytes n b := by
  induction a with
  | nil => simp
  | cons c a ih =>
    have hpos := Char.utf8Size_pos c
    simp only [List.cons_append, dropBytes, byteLength_cons]
    rw [if_neg (by omega)]
    rw [show c.utf8Size + byteLength a + n - c.utf8Size = byteLength a + n by omega, ih]

/-- What `takeBytes` takes is a prefix. -/
theorem takeBytes_append_eq (n : Nat) (cs : List Char) : ∃ more, cs = takeBytes n cs ++ more := by
  induction cs generalizing n with
  | nil => exact ⟨[], rfl⟩
  | cons c cs ih =>
    simp only [takeBytes]
    split
    · exact ⟨c :: cs, rfl⟩
    · obtain ⟨more, h⟩ := ih (n - c.utf8Size)
      exact ⟨more, by rw [List.cons_append, ← h]⟩

theorem utf8ByteSize_eq_byteLength (s : String) : s.utf8ByteSize = byteLength s.toList := by
  rw [← String.ofList_toList (s := s)]
  generalize s.toList = l
  induction l with
  | nil => rfl
  | cons c l ih =>
    rw [String.toList_ofList] at ih ⊢
    rw [String.ofList_cons, String.utf8ByteSize_append, String.utf8ByteSize_singleton, ih,
      byteLength_cons]

/-- The pieces of a text are the text. -/
theorem flatten_splitLinesInclusive (cs : List Char) : (splitLinesInclusive cs).flatten = cs := by
  -- the fold keeps the pieces so far, then the current piece, equal to the text read
  have hfold : ∀ (acc : List (List Char)) (cur : List Char) (rest : List Char),
      let r := rest.foldl
        (fun p c => if c == '\n' then (p.1 ++ [p.2 ++ [c]], []) else (p.1, p.2 ++ [c]))
        (acc, cur)
      r.1.flatten ++ r.2 = acc.flatten ++ cur ++ rest := by
    intro acc cur rest
    induction rest generalizing acc cur with
    | nil => simp
    | cons c rest ih =>
      simp only [List.foldl_cons]
      split
      · rw [ih]; simp
      · rw [ih]; simp
  unfold splitLinesInclusive
  split
  · rename_i lines cur hsplit
    have h := hfold [] [] cs
    -- the definition's step is the same function, written with a pattern
    erw [hsplit] at h
    simp only [List.flatten_nil, List.nil_append] at h
    -- the last piece is kept unless it is empty
    split <;> simp_all

theorem eq_append_of_startsWith {s p : List Char} (h : startsWith s p = true) :
    s = p ++ s.drop p.length := by
  have htake : s.take p.length = p := by simpa [startsWith] using h
  calc s = s.take p.length ++ s.drop p.length := (List.take_append_drop _ _).symm
    _ = p ++ s.drop p.length := by rw [htake]

theorem byteLength_trimStart (line : List Char) :
    byteLength line - byteLength (trimStart line) = byteLength (line.takeWhile isBlank) := by
  have h : line = line.takeWhile isBlank ++ trimStart line := (List.takeWhile_append_dropWhile).symm
  conv => lhs; arg 1; rw [h]
  rw [byteLength_append]
  omega

end Text

namespace SourceSet

/-! ## Finding a key, a quoted value, a file -/

/-- What the search for `key` knows after reading the text `read`: while
nothing is found the offset counts the bytes read, and an offset found
stands just before the key in the text. -/
def KeySearch (key read : List Char) (state : List Char × Nat × Option Nat) : Prop :=
  (state.2.2 = none → state.2.1 = Text.byteLength read) ∧
    ∀ off, state.2.2 = some off → ∃ pre rest, read = pre ++ key ++ rest ∧ off = Text.byteLength pre

theorem KeySearch.step {wanted key read line : List Char} {state : List Char × Nat × Option Nat}
    (h : KeySearch key read state) : KeySearch key (read ++ line) (keyLineStep wanted key state line) := by
  obtain ⟨table, offset, found⟩ := state
  cases found with
  | some off =>
    refine ⟨fun hnone => (nomatch hnone), fun off' hoff => ?_⟩
    obtain ⟨pre, rest, hread, hpre⟩ := h.2 off' hoff
    exact ⟨pre, rest ++ line, by rw [hread]; simp, hpre⟩
  | none =>
    have hoffset : offset = Text.byteLength read := h.1 rfl
    have hline : line = line.takeWhile Text.isBlank ++ Text.trimStart line :=
      List.takeWhile_append_dropWhile.symm
    unfold keyLineStep
    simp only
    -- a header line, the key's line, or any other line
    split
    · exact ⟨fun _ => (by simp [hoffset]), fun _ hoff => nomatch hoff⟩
    · split
      · rename_i hkey
        simp only [Bool.and_eq_true] at hkey
        refine ⟨fun hnone => (nomatch hnone), fun off hoff => ?_⟩
        cases hoff
        have htrim := Text.eq_append_of_startsWith hkey.1.2
        refine ⟨read ++ line.takeWhile Text.isBlank, (Text.trimStart line).drop key.length, ?_, ?_⟩
        · conv => lhs; rw [hline, htrim]
          simp
        · rw [Text.byteLength_trimStart, Text.byteLength_append, hoffset]
      · exact ⟨fun _ => (by simp [hoffset]), fun _ hoff => nomatch hoff⟩

theorem KeySearch.foldl (wanted : List Char) {key : List Char} (lines : List (List Char)) :
    ∀ (read : List Char) (state : List Char × Nat × Option Nat), KeySearch key read state →
      KeySearch key (read ++ lines.flatten) (lines.foldl (keyLineStep wanted key) state) := by
  induction lines with
  | nil => intro read state h; simpa using h
  | cons line lines ih =>
    intro read state h
    rw [List.foldl_cons, List.flatten_cons, ← List.append_assoc]
    exact ih _ _ h.step

/-- An offset the search finds stands just before the key. -/
theorem keyOffset_eq_some {content wanted key : List Char} {off : Nat}
    (h : keyOffset content wanted key = some off) :
    ∃ pre rest, content = pre ++ key ++ rest ∧ off = Text.byteLength pre := by
  have hstart : KeySearch key [] ([], 0, none) := ⟨fun _ => rfl, fun _ hoff => nomatch hoff⟩
  have hsearch := KeySearch.foldl wanted (Text.splitLinesInclusive content) [] _ hstart
  rw [List.nil_append, Text.flatten_splitLinesInclusive] at hsearch
  exact hsearch.2 off h

theorem occurrences_go_mem {text pattern : List Char} :
    ∀ (fuel : Nat) (cs read : List Char) (offset : Nat), text = read ++ cs →
      offset = Text.byteLength read → ∀ o ∈ occurrences.go pattern cs offset fuel,
        ∃ pre suf, text = pre ++ pattern ++ suf ∧ o = Text.byteLength pre := by
  intro fuel
  induction fuel with
  | zero => intro cs read offset _ _ o ho; simp [occurrences.go] at ho
  | succ fuel ih =>
    intro cs read offset htext hoffset o ho
    cases cs with
    | nil => simp [occurrences.go] at ho
    | cons c rest =>
      simp only [occurrences.go] at ho
      -- an occurrence is taken whole, or one character is passed over
      split at ho
      · rename_i hstart
        simp only [Bool.and_eq_true] at hstart
        have hcs := Text.eq_append_of_startsWith hstart.2
        rcases List.mem_cons.1 ho with rfl | ho
        · exact ⟨read, (c :: rest).drop pattern.length, by rw [htext, hcs]; simp, hoffset⟩
        · refine ih _ (read ++ pattern) _ ?_ (by rw [hoffset, Text.byteLength_append]) o ho
          conv => lhs; rw [htext, hcs]
          simp
      · exact ih rest (read ++ [c]) _ (by rw [htext]; simp) (by simp [hoffset]) o ho

/-- Each occurrence found stands just before the pattern in the text. -/
theorem mem_occurrences {text pattern : List Char} {o : Nat} (h : o ∈ occurrences text pattern) :
    ∃ pre suf, text = pre ++ pattern ++ suf ∧ o = Text.byteLength pre :=
  occurrences_go_mem _ text [] 0 rfl rfl o h

/-- The span stands over `piece` in `content`. -/
def Covers (content : List Char) (span : Span) (piece : List Char) : Prop :=
  ∃ pre rest, content = pre ++ piece ++ rest ∧ span = ⟨Text.byteLength pre, Text.byteLength piece⟩

theorem keySpan_eq_some {table key : String} {content : List Char} {span : Span}
    (h : keySpan table key content = some span) : Covers content span key.toList := by
  obtain ⟨off, hoff, rfl⟩ := Option.map_eq_some_iff.1 h
  obtain ⟨pre, rest, hcontent, rfl⟩ := keyOffset_eq_some hoff
  exact ⟨pre, rest, hcontent, by rw [Text.utf8ByteSize_eq_byteLength]⟩

theorem valueSpan_eq_some {table key : String} {quoted content : List Char} {nth : Nat} {span : Span}
    (h : valueSpan table key quoted nth content = some span) : Covers content span quoted := by
  unfold valueSpan at h
  split at h
  · cases h
  · rename_i start hstart
    obtain ⟨kpre, krest, hcontent, rfl⟩ := keyOffset_eq_some hstart
    -- the statement is read from the key on
    have hrest : Text.dropBytes (Text.byteLength kpre) content = key.toList ++ krest := by
      rw [hcontent, List.append_assoc, ← Nat.add_zero (Text.byteLength kpre),
        Text.dropBytes_byteLength_append, Text.dropBytes_zero]
    simp only [hrest] at h
    obtain ⟨o, ho, rfl⟩ := Option.map_eq_some_iff.1 h
    obtain ⟨more, hmore⟩ := Text.takeBytes_append_eq
      (statementLength (key.toList ++ krest)) (key.toList ++ krest)
    obtain ⟨spre, ssuf, hstatement, rfl⟩ := mem_occurrences (List.mem_of_getElem? ho)
    refine ⟨kpre ++ spre, ssuf ++ more, ?_, by simp⟩
    rw [hcontent, List.append_assoc, hmore, hstatement]
    simp

/-- A place is found in the file of highest precedence, among those admitted,
where `find` finds it. -/
theorem locate_eq_some_iff {s : SourceSet} {file : Option String} {find : List Char → Option Span}
    {span : Span} {name : String} :
    s.locate file find = some (span, name) ↔
      ∃ pre content post, s.files = pre ++ (name, content) :: post ∧ file.all (· == name) = true ∧
        find content.toList = some span ∧
        ∀ p ∈ post, file.all (· == p.1) = true → find p.2.toList = none := by
  unfold locate
  rw [List.findSome?_eq_some_iff]
  constructor
  · rintro ⟨later, ⟨name', content⟩, earlier, hrev, hfound, hlater⟩
    simp only at hfound
    split at hfound
    · rename_i hfile
      obtain ⟨span', hspan, heq⟩ := Option.map_eq_some_iff.1 hfound
      cases heq
      refine ⟨earlier.reverse, content, later.reverse, ?_, hfile, hspan, ?_⟩
      · rw [← List.reverse_reverse s.files, hrev]
        simp
      · intro p hp hfile'
        have := hlater p (List.mem_reverse.1 hp)
        simpa [hfile'] using this
    · cases hfound
  · rintro ⟨pre, content, post, hfiles, hfile, hspan, hpost⟩
    refine ⟨post.reverse, (name, content), pre.reverse, by simp [hfiles], ?_, ?_⟩
    · simp [hfile, hspan]
    · intro p hp
      by_cases hfile' : file.all (· == p.1) = true
      · simp [hfile', hpost p (List.mem_reverse.1 hp) hfile']
      · simp [hfile']

/-- No place is found exactly when no admitted file has it. -/
theorem locate_eq_none_iff {s : SourceSet} {file : Option String} {find : List Char → Option Span} :
    s.locate file find = none ↔ ∀ p ∈ s.files, file.all (· == p.1) = true → find p.2.toList = none := by
  unfold locate
  rw [List.findSome?_eq_none_iff]
  constructor
  · intro h p hp hfile
    have := h p (List.mem_reverse.2 hp)
    simpa [hfile] using this
  · intro h p hp
    by_cases hfile : file.all (· == p.1) = true
    · simp [hfile, h p (List.mem_reverse.1 hp) hfile]
    · simp [hfile]

end SourceSet

namespace Config

open SourceSet

/-! ## The place of each check -/

/-- Where the `i`-th listed source is found in a text: the quoted name, at
the occurrence that counts the earlier listings of the same name. -/
def sourceSpan (names : List String) (i : Nat) (content : List Char) : Option Span :=
  match names[i]? with
  | some name => valueSpan "plugins" "sources" (('"' :: name.toList) ++ ['"'])
      ((names.take i).count name) content
  | none => none

/-- The table and key of the setting a check reads. -/
def Check.setting : Check → String × String
  | .searchPathVar => ("plugins", "search_path_var")
  | .entryPointsDisableVar => ("plugins", "entry_points_disable_var")
  | .entryPointGroup => ("plugins", "entry_point_group")
  | .someSource => ("plugins", "sources")
  | .source _ => ("plugins", "sources")
  | .managerIdentifier => ("manager", "identifier")
  | .logLevel => ("logging", "level")

/-- Where a check's error is found in a text. -/
def Check.spanIn (c : BrokerConfig) : Check → List Char → Option Span
  | .source i => sourceSpan c.plugins.sources i
  | k => keySpan k.setting.1 k.setting.2

/-- The text a check's error points at: the quoted name of a listed source,
the key of any other setting. -/
def Check.pointsAt (c : BrokerConfig) : Check → List Char
  | .source i => ('"' :: (c.plugins.sources[i]?.getD "").toList) ++ ['"']
  | k => k.setting.2.toList

/-- Where a check's error points: the highest-precedence file whose text has
the setting. -/
def Check.location (c : BrokerConfig) (s : SourceSet) (k : Check) : Option (Span × String) :=
  s.locate none (k.spanIn c)

theorem sourceSpan_append_of_lt {names : List String} {i : Nat} (n : String)
    (h : i < names.length) : sourceSpan (names ++ [n]) i = sourceSpan names i := by
  unfold sourceSpan
  rw [List.getElem?_append_left h, List.take_append_of_le_length (Nat.le_of_lt h)]

theorem locations_sourceStep (s : SourceSet) (names : List String) (n : String) :
    (sourceStep s (names, []) n).2.map ConfigError.location =
      ((sourceFinding (names ++ [n]) names.length).map
        fun _ => s.locate none (sourceSpan (names ++ [n]) names.length)).toList := by
  have hspan : sourceSpan (names ++ [n]) names.length =
      valueSpan "plugins" "sources" (('"' :: n.toList) ++ ['"']) (names.count n) := by
    funext content
    simp [sourceSpan]
  rw [sourceFinding_append_length, hspan]
  by_cases hk : n ∈ knownSources
  · by_cases hb : n ∈ names
    · simp [sourceStep, hk, hb, ConfigError.location, locateValue]
    · simp [sourceStep, hk, hb]
  · simp [sourceStep, hk, ConfigError.location, locateValue]

/-- The errors of the listed sources are located where their checks' sources are. -/
theorem sourceErrors_locations (s : SourceSet) (names : List String) :
    (sourceErrors s names).map ConfigError.location =
      (List.range names.length).filterMap fun i =>
        (sourceFinding names i).map fun _ => s.locate none (sourceSpan names i) := by
  induction names using List.reverseRecOn with
  | nil => rfl
  | append_singleton names n ih =>
    rw [sourceErrors_append_singleton, List.map_append, ih, locations_sourceStep,
      List.length_append, List.length_singleton, List.range_succ, List.filterMap_append]
    congr 1
    · apply List.filterMap_congr
      intro i hi
      have hlt := List.mem_range.mp hi
      rw [sourceFinding_append_of_lt n hlt, sourceSpan_append_of_lt n hlt]

/-- The errors of `validate` are located where their failed checks' settings
are found in the files. -/
theorem validate_locations (c : BrokerConfig) (s : SourceSet) :
    (validate c s).map ConfigError.location =
      (checks c).filterMap fun k => (k.failure c).map fun _ => k.location c s := by
  rw [checks_eq]
  simp only [validate, List.filterMap_append, List.filterMap_map, List.map_append,
    List.append_assoc, sourceErrors_locations]
  refine congrArg₂ (fun (x y : List (Option (Span × String))) => x ++ y) ?_ ?_
  · -- the two variable names
    by_cases h₁ : EnvVarName c.plugins.searchPathVar <;>
      by_cases h₂ : EnvVarName c.plugins.entryPointsDisableVar <;>
      simp [Check.failure, h₁, h₂, isEnvVarName_iff, ConfigError.location, Check.location,
        Check.spanIn, Check.setting, locateKey]
  refine congrArg₂ (fun (x y : List (Option (Span × String))) => x ++ y) ?_ ?_
  · by_cases h : Blank c.plugins.entryPointGroup <;>
      simp [Check.failure, h, isBlankText_iff, emptyValueAt, ConfigError.location, Check.location,
        Check.spanIn, Check.setting, locateKey]
  refine congrArg₂ (fun (x y : List (Option (Span × String))) => x ++ y) ?_ ?_
  · by_cases h : c.plugins.sources = [] <;>
      simp [Check.failure, h, emptyValueAt, ConfigError.location, Check.location, Check.spanIn,
        Check.setting, locateKey]
  refine congrArg₂ (fun (x y : List (Option (Span × String))) => x ++ y) rfl ?_
  refine congrArg₂ (fun (x y : List (Option (Span × String))) => x ++ y) ?_ ?_
  · cases hm : c.manager with
    | none => simp [Check.failure, hm]
    | some m =>
      by_cases h : Blank m.identifier <;>
        simp [Check.failure, hm, h, isBlankText_iff, emptyValueAt, ConfigError.location,
          Check.location, Check.spanIn, Check.setting, locateKey]
  · by_cases h : c.logging.level ∈ logLevels <;>
      simp [Check.failure, h, ConfigError.location, Check.location, Check.spanIn, Check.setting,
        locateKey]

theorem spanIn_covers {c : BrokerConfig} {k : Check} {content : List Char} {span : Span}
    (h : k.spanIn c content = some span) : Covers content span (k.pointsAt c) := by
  cases k with
  | source i =>
    simp only [Check.spanIn, sourceSpan] at h
    split at h
    · rename_i name hname
      simpa [Check.pointsAt, hname] using valueSpan_eq_some h
    · cases h
  | searchPathVar | entryPointsDisableVar | entryPointGroup | someSource | managerIdentifier
  | logLevel => exact keySpan_eq_some h

/-- Each error of checking points where its setting is found in the files,
whichever layer set the value: in the file of highest precedence whose text
has the setting, over its key or its quoted listed name; and nowhere exactly
when no file's text has the setting. -/
theorem validation_spans_locate_settings (c : BrokerConfig) (s : SourceSet) :
    (validate c s).map ConfigError.location =
        (checks c).filterMap (fun k => (k.failure c).map fun _ => k.location c s) ∧
    (∀ (k : Check) (span : Span) (name : String), k.location c s = some (span, name) →
      ∃ pre content post, s.files = pre ++ (name, content) :: post ∧
        Covers content.toList span (k.pointsAt c) ∧ ∀ p ∈ post, k.spanIn c p.2.toList = none) ∧
    (∀ k : Check, k.location c s = none ↔ ∀ p ∈ s.files, k.spanIn c p.2.toList = none) := by
  refine ⟨validate_locations c s, ?_, ?_⟩
  · intro k span name h
    obtain ⟨pre, content, post, hfiles, -, hspan, hpost⟩ := locate_eq_some_iff.1 h
    exact ⟨pre, content, post, hfiles, spanIn_covers hspan, fun p hp => hpost p hp rfl⟩
  · intro k
    unfold Check.location
    rw [locate_eq_none_iff]
    simp

/-- A log level that the files do not set, as when an environment variable
overrides it, is still pointed at in the file that sets the key. -/
theorem overridden_level_points_at_file :
    some (⟨10, 5⟩, "work/assetio.toml") ∈
      (validate ⟨PluginsConfig.default, none, ⟨"loud"⟩⟩
        ⟨[("work/assetio.toml", "[logging]\nlevel = \"warn\"\n")]⟩).map ConfigError.location := by
  rw [(validation_spans_locate_settings _ _).1, List.mem_filterMap]
  refine ⟨.logLevel, by simp [checks], ?_⟩
  have hlevel : "loud" ∉ logLevels := by simp [logLevels]
  -- the file's `level` key stands ten bytes in
  have hplace : Check.location ⟨PluginsConfig.default, none, ⟨"loud"⟩⟩
      ⟨[("work/assetio.toml", "[logging]\nlevel = \"warn\"\n")]⟩ .logLevel =
        some (⟨10, 5⟩, "work/assetio.toml") := by
    decide +kernel
  simp [Check.failure, hlevel, hplace]

end Config

end AssetBroker
