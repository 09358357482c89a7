import AssetBroker.Config.Validate
import Mathlib

/-!
# Every broken rule of a configuration is reported, once and in order

`Config.validate` collects its errors rather than stopping at the first.
Here the rules are stated on their own, as the checks of a configuration in
the order their errors come: the two variable names, the entry point group,
a non-empty source list, one check per listed source, the manager's
identifier and the log level. A source check fails for an unknown name,
repeated or not, and for a known name listed before.

The main statement, `validate_reports_failed_checks`: the errors are exactly
the findings of the failed checks, one each and in order, so there are none
exactly when the configuration is `Valid`.
-/

namespace AssetBroker

namespace Config

/-- A name of an environment variable as the configuration accepts it: not
empty, and made of upper-case ASCII letters, digits and `_`. -/
def EnvVarName (s : String) : Prop :=
  s ≠ "" ∧ ∀ c ∈ s.toList, ('A' ≤ c ∧ c ≤ 'Z') ∨ ('0' ≤ c ∧ c ≤ '9') ∨ c = '_'

instance : DecidablePred EnvVarName := fun s => inferInstanceAs (Decidable (s ≠ "" ∧ _))

/-- A text that is empty or white space throughout. -/
def Blank (s : String) : Prop := ∀ c ∈ s.toList, Text.isBlank c = true

instance : DecidablePred Blank := fun s => inferInstanceAs (Decidable (∀ c ∈ s.toList, _))

/-- A configuration every rule accepts. -/
structure Valid (c : BrokerConfig) : Prop where
  searchPathVar : EnvVarName c.plugins.searchPathVar
  entryPointsDisableVar : EnvVarName c.plugins.entryPointsDisableVar
  entryPointGroup : ¬ Blank c.plugins.entryPointGroup
  sources_ne_nil : c.plugins.sources ≠ []
  sources_known : ∀ s ∈ c.plugins.sources, s ∈ knownSources
  sources_nodup : c.plugins.sources.Nodup
  managerIdentifier : ∀ m, c.manager = some m → ¬ Blank m.identifier
  logLevel : c.logging.level ∈ logLevels

/-- What an error says is wrong, its place and suggestion left aside. -/
inductive Finding where
  | badEnvVarName (key name : String)
  | emptyValue (key : String)
  | unknownSource (name : String)
  | duplicateSource (name : String)
  | unknownLogLevel (level : String)
  deriving DecidableEq

/-- The finding of an error of checking; none for an error of reading. -/
def ConfigError.finding? : ConfigError → Option Finding
  | .badEnvVarName key name _ => some (.badEnvVarName key name)
  | .emptyValue key _ => some (.emptyValue key)
  | .unknownSource name _ _ => some (.unknownSource name)
  | .duplicateSource name _ => some (.duplicateSource name)
  | .unknownLogLevel level _ _ => some (.unknownLogLevel level)
  | _ => none

/-- The rules of a configuration, one check each. -/
inductive Check where
  | searchPathVar
  | entryPointsDisableVar
  | entryPointGroup
  | someSource
  /-- The rule for the listed source at this position. -/
  | source (i : Nat)
  | managerIdentifier
  | logLevel

/-- The checks of a configuration in the order they are reported. -/
def checks (c : BrokerConfig) : List Check :=
  [.searchPathVar, .entryPointsDisableVar, .entryPointGroup, .someSource] ++
    (List.range c.plugins.sources.length).map .source ++ [.managerIdentifier, .logLevel]

/-- What the `i`-th listed source breaks: an unknown name, repeated or not,
or a known name listed before it. -/
def sourceFinding (names : List String) (i : Nat) : Option Finding :=
  match names[i]? with
  | none => none
  | some name =>
    if name ∉ knownSources then some (.unknownSource name)
    else if name ∈ names.take i then some (.duplicateSource name)
    else none

/-- What a check finds wrong with a configuration, if anything. -/
def Check.failure (c : BrokerConfig) : Check → Option Finding
  | searchPathVar =>
    if EnvVarName c.plugins.searchPathVar then none
    else some (.badEnvVarName "plugins.search_path_var" c.plugins.searchPathVar)
  | entryPointsDisableVar =>
    if EnvVarName c.plugins.entryPointsDisableVar then none
    else some (.badEnvVarName "plugins.entry_points_disable_var" c.plugins.entryPointsDisableVar)
  | entryPointGroup =>
    if Blank c.plugins.entryPointGroup then some (.emptyValue "plugins.entry_point_group") else none
  | someSource => if c.plugins.sources = [] then some (.emptyValue "plugins.sources") else none
  | source i => sourceFinding c.plugins.sources i
  | managerIdentifier =>
    match c.manager with
    | some m => if Blank m.identifier then some (.emptyValue "manager.identifier") else none
    | none => none
  | logLevel =>
    if c.logging.level ∈ logLevels then none else some (.unknownLogLevel c.logging.level)

/-! ## The single rules -/

theorem isEnvVarName_iff (s : String) : isEnvVarName s = true ↔ EnvVarName s := by
  simp [isEnvVarName, EnvVarName, String.all_bool_eq, or_assoc]

theorem isBlankText_iff (s : String) : Text.isBlankText s = true ↔ Blank s := by
  simp [Text.isBlankText, Blank]

/-! ## The listed sources

The loop over the sources keeps the names seen so far; a source's error
depends on them only. Unrolled from the end, the loop adds the error of the
last source, which is the finding of its check. -/

theorem foldl_sourceStep_fst (s : SourceSet) (names : List String)
    (acc : List String × List ConfigError) :
    (names.foldl (sourceStep s) acc).1 = acc.1 ++ names := by
  induction names generalizing acc with
  | nil => simp
  | cons n names ih =>
    rw [List.foldl_cons, ih]
    simp [sourceStep]

theorem sourceErrors_append_singleton (s : SourceSet) (names : List String) (n : String) :
    sourceErrors s (names ++ [n]) = sourceErrors s names ++ (sourceStep s (names, []) n).2 := by
  have hfst := foldl_sourceStep_fst s names ([], [])
  simp only [sourceErrors, List.foldl_append, List.foldl_cons, List.foldl_nil]
  generalize names.foldl (sourceStep s) ([], []) = acc at hfst ⊢
  obtain ⟨before, errors⟩ := acc
  simp only [List.nil_append] at hfst
  subst hfst
  simp [sourceStep]

theorem sourceFinding_append_of_lt {names : List String} {i : Nat} (n : String)
    (h : i < names.length) : sourceFinding (names ++ [n]) i = sourceFinding names i := by
  simp [sourceFinding, List.getElem?_append_left h, List.take_append_of_le_length (Nat.le_of_lt h)]

theorem sourceFinding_append_length (names : List String) (n : String) :
    sourceFinding (names ++ [n]) names.length =
      if n ∉ knownSources then some (.unknownSource n)
      else if n ∈ names then some (.duplicateSource n) else none := by
  simp [sourceFinding]

theorem findings_sourceStep (s : SourceSet) (names : List String) (n : String) :
    (sourceStep s (names, []) n).2.map ConfigError.finding? =
      (sourceFinding (names ++ [n]) names.length).toList.map some := by
  rw [sourceFinding_append_length]
  by_cases hk : n ∈ knownSources
  · by_cases hb : n ∈ names
    · simp [sourceStep, hk, hb, ConfigError.finding?]
    · simp [sourceStep, hk, hb]
  · simp [sourceStep, hk, ConfigError.finding?]

theorem filterMap_sourceFinding_append (names : List String) (n : String) :
    (List.range (names ++ [n]).length).filterMap (sourceFinding (names ++ [n])) =
      (List.range names.length).filterMap (sourceFinding names) ++
        (sourceFinding (names ++ [n]) names.length).toList := by
  rw [List.length_append, List.length_singleton, List.range_succ, List.filterMap_append]
  congr 1
  · apply List.filterMap_congr
    intro i hi
    exact sourceFinding_append_of_lt n (List.mem_range.mp hi)

/-- The errors of the listed sources are the findings of their checks. -/
theorem sourceErrors_findings (s : SourceSet) (names : List String) :
    (sourceErrors s names).map ConfigError.finding? =
      ((List.range names.length).filterMap (sourceFinding names)).map some := by
  induction names using List.reverseRecOn with
  | nil => rfl
  | append_singleton names n ih =>
    rw [sourceErrors_append_singleton, List.map_append, ih, findings_sourceStep,
      filterMap_sourceFinding_append, List.map_append]

/-- The source checks all pass exactly when every listed source is known
and none is listed twice. -/
theorem sourceFindings_eq_nil_iff (names : List String) :
    (List.range names.length).filterMap (sourceFinding names) = [] ↔
      (∀ n ∈ names, n ∈ knownSources) ∧ names.Nodup := by
  induction names using List.reverseRecOn with
  | nil => simp
  | append_singleton names n ih =>
    have hall : (∀ x ∈ names ++ [n], x ∈ knownSources) ↔
        (∀ x ∈ names, x ∈ knownSources) ∧ n ∈ knownSources := by
      simp [or_imp, forall_and]
    have hnodup : (names ++ [n]).Nodup ↔ names.Nodup ∧ n ∉ names := by
      simp [List.nodup_append, List.forall_mem_ne']
    rw [filterMap_sourceFinding_append, List.append_eq_nil_iff, ih, sourceFinding_append_length,
      hall, hnodup]
    by_cases hk : n ∈ knownSources
    · by_cases hb : n ∈ names
      · simp [hk, hb]
      · simp [hk, hb]
    · simp [hk]

/-! ## The whole configuration

`validate` appends the errors of six groups of rules. Split the same way,
the checks give one equation per group; the groups of one rule are settled
by whether that rule holds. -/

theorem checks_eq (c : BrokerConfig) :
    checks c = [Check.searchPathVar, .entryPointsDisableVar] ++ [.entryPointGroup] ++
      [.someSource] ++ (List.range c.plugins.sources.length).map .source ++
      [.managerIdentifier] ++ [.logLevel] := by
  simp [checks]

theorem failure_source (c : BrokerConfig) :
    Check.failure c ∘ Check.source = sourceFinding c.plugins.sources := rfl

/-- The errors of `validate` are the findings of the failed checks, in order. -/
theorem validate_findings (c : BrokerConfig) (s : SourceSet) :
    (validate c s).map ConfigError.finding? =
      ((checks c).filterMap (Check.failure c)).map some := by
  rw [checks_eq]
  simp only [validate, List.filterMap_append, List.filterMap_map, List.map_append,
    List.append_assoc, failure_source, sourceErrors_findings]
  refine congrArg₂ (fun (x y : List (Option Finding)) => x ++ y) ?_ ?_
  · -- the two variable names
    by_cases h₁ : EnvVarName c.plugins.searchPathVar <;>
      by_cases h₂ : EnvVarName c.plugins.entryPointsDisableVar <;>
      simp [Check.failure, h₁, h₂, isEnvVarName_iff, ConfigError.finding?]
  refine congrArg₂ (fun (x y : List (Option Finding)) => x ++ y) ?_ ?_
  · by_cases h : Blank c.plugins.entryPointGroup <;>
      simp [Check.failure, h, isBlankText_iff, emptyValueAt, ConfigError.finding?]
  refine congrArg₂ (fun (x y : List (Option Finding)) => x ++ y) ?_ ?_
  · by_cases h : c.plugins.sources = [] <;>
      simp [Check.failure, h, emptyValueAt, ConfigError.finding?]
  refine congrArg₂ (fun (x y : List (Option Finding)) => x ++ y) rfl ?_
  refine congrArg₂ (fun (x y : List (Option Finding)) => x ++ y) ?_ ?_
  · cases hm : c.manager with
    | none => simp [Check.failure, hm]
    | some m =>
      by_cases h : Blank m.identifier <;>
        simp [Check.failure, hm, h, isBlankText_iff, emptyValueAt, ConfigError.finding?]
  · by_cases h : c.logging.level ∈ logLevels <;>
      simp [Check.failure, h, ConfigError.finding?]

/-- A configuration is valid exactly when none of its checks fails. -/
theorem valid_iff_failures_eq_nil (c : BrokerConfig) :
    Valid c ↔ (checks c).filterMap (Check.failure c) = [] := by
  rw [checks_eq]
  simp only [List.filterMap_append, List.filterMap_map, failure_source, List.append_eq_nil_iff,
    sourceFindings_eq_nil_iff]
  constructor
  · intro h
    refine ⟨⟨⟨⟨⟨?_, ?_⟩, ?_⟩, h.sources_known, h.sources_nodup⟩, ?_⟩, ?_⟩
    · simp [Check.failure, h.searchPathVar, h.entryPointsDisableVar]
    · simp [Check.failure, h.entryPointGroup]
    · simp [Check.failure, h.sources_ne_nil]
    · cases hm : c.manager with
      | none => simp [Check.failure, hm]
      | some m => simp [Check.failure, hm, h.managerIdentifier m hm]
    · simp [Check.failure, h.logLevel]
  · rintro ⟨⟨⟨⟨⟨hvars, hgroup⟩, hsome⟩, hknown, hnodup⟩, hmanager⟩, hlevel⟩
    simp only [List.filterMap_eq_nil_iff, List.mem_cons, List.mem_nil_iff, or_false,
      forall_eq_or_imp, forall_eq] at hvars hgroup hsome hmanager hlevel
    obtain ⟨hsearch, hdisable⟩ := hvars
    refine ⟨?_, ?_, ?_, ?_, hknown, hnodup, ?_, ?_⟩
    · simpa [Check.failure] using hsearch
    · simpa [Check.failure] using hdisable
    · simpa [Check.failure] using hgroup
    · simpa [Check.failure] using hsome
    · intro m hm
      simpa [Check.failure, hm] using hmanager
    · simpa [Check.failure] using hlevel

/-- Checking a configuration reports every broken rule and nothing else:
there are no errors exactly when the configuration is valid, and the errors
are the findings of the failed checks, one each and in the order of the
checks. -/
theorem validate_reports_failed_checks (c : BrokerConfig) (s : SourceSet) :
    (validate c s = [] ↔ Valid c) ∧
      (validate c s).map ConfigError.finding? =
        ((checks c).filterMap (Check.failure c)).map some := by
  have hfindings := validate_findings c s
  refine ⟨?_, hfindings⟩
  rw [valid_iff_failures_eq_nil, ← List.map_eq_nil_iff, hfindings, List.map_eq_nil_iff]

/-- A repeated unknown name is reported at each listing, a repeated known
name from its second listing on. -/
example : (List.range 4).filterMap (sourceFinding ["python", "native", "python", "native"]) =
    [.unknownSource "python", .unknownSource "python", .duplicateSource "native"] := by
  decide

end Config

end AssetBroker
