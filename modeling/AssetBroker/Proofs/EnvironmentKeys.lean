import AssetBroker.Config.Load
import Mathlib

/-!
# The settings environment variables set

A variable configures when its name, with ASCII letters in lower case,
starts with `assetio_` and the rest, its key, starts with `plugins_` or
`logging_` or is `manager_identifier` (`envKeyPath?_isSome_iff`). The key
becomes a key path: the first `plugins_`, then the first `logging_`, then
the first `manager_` are replaced by the table's name and a dot, and the
result is split at dots.

The first replacement that applies is the key's leading table word, so the
path of every variable starts with its table. The later replacements are
not confined to the table word: a key whose tail holds another table word
followed by `_` is split there as well, so `ASSETIO_PLUGINS_LOGGING_LEVEL`
sets `logging` in the `plugins` table, with `level` below it. A tail with
no table word and no dot is one key (both in `envKeyPath?_of_table`), so
every key of the `plugins` and `logging` tables, and the manager's
identifier, can be set.

Main statement: `env_variables_set_keys_of_their_table`.
-/

namespace AssetBroker

namespace Text

/-! ## Replacing the first occurrence -/

theorem replaceFirst_of_prefix {pattern replacement cs : List Char} (hp : pattern ≠ [])
    (h : pattern <+: cs) : replaceFirst pattern replacement cs = replacement ++ cs.drop pattern.length := by
  cases cs with
  | nil => exact absurd (List.prefix_nil.1 h) hp
  | cons c rest =>
    have htake : (c :: rest).take pattern.length = pattern := (List.prefix_iff_eq_take.1 h).symm
    simp [replaceFirst, hp, htake]

/-- A text in which the pattern does not occur is left as it is. -/
theorem replaceFirst_of_not_infix {pattern replacement cs : List Char} (h : ¬ pattern <:+: cs) :
    replaceFirst pattern replacement cs = cs := by
  induction cs with
  | nil => rfl
  | cons c rest ih =>
    have hrest : ¬ pattern <:+: rest := fun hin => h (hin.trans (List.suffix_cons c rest).isInfix)
    have hstart : (c :: rest).take pattern.length ≠ pattern := by
      intro heq
      have hpre := List.take_prefix pattern.length (c :: rest)
      rw [heq] at hpre
      exact h hpre.isInfix
    simp [replaceFirst, hstart, ih hrest]

/-- When no suffix of `a` begins the pattern, and `a` is no longer than the
pattern, no occurrence starts inside `a`: the first one of `a ++ b` is the
first one of `b`. -/
theorem replaceFirst_append {pattern replacement a : List Char} (b : List Char)
    (hlen : a.length ≤ pattern.length) (hno : ∀ i < a.length, ¬ a.drop i <+: pattern) :
    replaceFirst pattern replacement (a ++ b) = a ++ replaceFirst pattern replacement b := by
  induction a with
  | nil => rfl
  | cons c a ih =>
    have hstart : (c :: (a ++ b)).take pattern.length ≠ pattern := by
      intro heq
      -- the whole of `c :: a` would begin the pattern
      have hpre : c :: a <+: pattern := by
        rw [← heq, ← List.cons_append, List.take_append, List.take_of_length_le hlen]
        exact List.prefix_append _ _
      exact hno 0 (by simp) hpre
    have ih' := ih (by simp at hlen; omega) fun i hi => hno (i + 1) (by simp; omega)
    simp [replaceFirst, hstart, ih']

end Text

namespace Config

/-! ## Which variables configure -/

/-- The key of a variable whose lower-cased name starts with the prefix. -/
theorem envKeyPath?_of_key {name : String} {key : List Char}
    (hname : (asciiLower name).toList = envPrefix.toList ++ key) :
    envKeyPath? name =
      if "plugins_".toList.isPrefixOf key || "logging_".toList.isPrefixOf key ||
          key == "manager_identifier".toList then
        some ((((Text.replaceFirst "manager_".toList "manager.".toList
          (Text.replaceFirst "logging_".toList "logging.".toList
            (Text.replaceFirst "plugins_".toList "plugins.".toList key))).splitOn '.').filter
              (fun part => !part.isEmpty)).map String.ofList)
      else none := by
  have hprefix : envPrefix.toList.isPrefixOf (asciiLower name).toList = true :=
    List.isPrefixOf_iff_prefix.2 ⟨key, hname.symm⟩
  have hkey : (asciiLower name).toList.drop envPrefix.length = key := by
    rw [hname, ← String.length_toList, List.drop_left]
  simp only [envKeyPath?, hprefix, Bool.not_true, hkey]
  rfl

/-- The path a configuring variable sets: its key with the table words
replaced, split at dots. -/
theorem envKeyPath?_of_read {name : String} {key : List Char}
    (hname : (asciiLower name).toList = envPrefix.toList ++ key)
    (hread : "plugins_".toList <+: key ∨ "logging_".toList <+: key ∨ key = "manager_identifier".toList) :
    envKeyPath? name =
      some ((((Text.replaceFirst "manager_".toList "manager.".toList
        (Text.replaceFirst "logging_".toList "logging.".toList
          (Text.replaceFirst "plugins_".toList "plugins.".toList key))).splitOn '.').filter
            (fun part => !part.isEmpty)).map String.ofList) := by
  rw [envKeyPath?_of_key hname, if_pos (by simpa [List.isPrefixOf_iff_prefix, or_assoc] using hread)]

/-- A variable configures exactly when its lower-cased name starts with the
prefix and its key starts with `plugins_` or `logging_` or is
`manager_identifier`. -/
theorem envKeyPath?_isSome_iff (name : String) :
    (envKeyPath? name).isSome = true ↔ ∃ key, (asciiLower name).toList = envPrefix.toList ++ key ∧
      ("plugins_".toList <+: key ∨ "logging_".toList <+: key ∨ key = "manager_identifier".toList) := by
  constructor
  · intro h
    -- a name without the prefix sets nothing
    have hprefix : envPrefix.toList <+: (asciiLower name).toList := by
      by_contra hno
      rw [← List.isPrefixOf_iff_prefix, Bool.not_eq_true] at hno
      simp [envKeyPath?, hno] at h
    obtain ⟨key, hkey⟩ := hprefix
    rw [envKeyPath?_of_key hkey.symm] at h
    refine ⟨key, hkey.symm, ?_⟩
    split at h
    · rename_i hread
      simpa [List.isPrefixOf_iff_prefix, or_assoc] using hread
    · cases h
  · rintro ⟨key, hkey, hread⟩
    rw [envKeyPath?_of_read hkey hread]
    rfl

/-! ## The path of a variable -/

/-- Split at dots, a text that starts with a word and a dot gives the word
first. -/
theorem path_of_word_dot {word rest : List Char} (hword : word ≠ []) (hdot : '.' ∉ word) :
    (((word ++ '.' :: rest).splitOn '.').filter (fun part => !part.isEmpty)).map String.ofList =
      String.ofList word :: (((rest.splitOn '.').filter (fun part => !part.isEmpty)).map String.ofList) := by
  have hsplit : (word ++ '.' :: rest).splitOn '.' = word :: rest.splitOn '.' :=
    List.splitOnP_append_cons_of_forall_mem (fun c hc => by
      have hne : c ≠ '.' := fun h => hdot (h ▸ hc)
      simpa using hne) '.' (by simp) rest
  rw [hsplit, List.filter_cons_of_pos (by simpa using hword), List.map_cons]

theorem path_of_no_dot {rest : List Char} (hrest : rest ≠ []) (hdot : '.' ∉ rest) :
    (((rest.splitOn '.').filter (fun part => !part.isEmpty)).map String.ofList) = [String.ofList rest] := by
  have hsplit : rest.splitOn '.' = [rest] :=
    List.splitOnP_eq_singleton fun c hc => by
      have hne : c ≠ '.' := fun h => hdot (h ▸ hc)
      simpa using hne
  rw [hsplit, List.filter_cons_of_pos (by simpa using hrest)]
  rfl

/-- A key of the `plugins` table keeps its table word, and only its tail can
be changed by the later replacements. -/
theorem dotted_plugins (tail : List Char) :
    Text.replaceFirst "manager_".toList "manager.".toList
        (Text.replaceFirst "logging_".toList "logging.".toList
          (Text.replaceFirst "plugins_".toList "plugins.".toList ("plugins_".toList ++ tail))) =
      "plugins".toList ++ '.' :: Text.replaceFirst "manager_".toList "manager.".toList
        (Text.replaceFirst "logging_".toList "logging.".toList tail) := by
  rw [Text.replaceFirst_of_prefix (by decide) (List.prefix_append _ _), List.drop_left' rfl,
    Text.replaceFirst_append _ (by decide) (by decide), Text.replaceFirst_append _ (by decide) (by decide)]
  rfl

/-- A key of the `logging` table keeps its table word, and only its tail can
be changed by the other replacements. -/
theorem dotted_logging (tail : List Char) :
    Text.replaceFirst "manager_".toList "manager.".toList
        (Text.replaceFirst "logging_".toList "logging.".toList
          (Text.replaceFirst "plugins_".toList "plugins.".toList ("logging_".toList ++ tail))) =
      "logging".toList ++ '.' :: Text.replaceFirst "manager_".toList "manager.".toList
        (Text.replaceFirst "plugins_".toList "plugins.".toList tail) := by
  rw [Text.replaceFirst_append _ (by decide) (by decide),
    Text.replaceFirst_of_prefix (by decide) (List.prefix_append _ _), List.drop_left' rfl,
    Text.replaceFirst_append _ (by decide) (by decide)]
  rfl

/-- The path of a variable of a table starts with the table. When the key's
tail is not empty and holds no dot and no table word followed by `_`, the
path is the table and the tail. -/
theorem envKeyPath?_of_table {name table : String} (htable : table ∈ topKeys) {tail : List Char}
    (hname : (asciiLower name).toList = envPrefix.toList ++ table.toList ++ '_' :: tail)
    (hread : (envKeyPath? name).isSome = true) :
    ∃ more, envKeyPath? name = some (table :: more) ∧
      (tail ≠ [] → '.' ∉ tail → (∀ t ∈ topKeys, ¬ (t ++ "_").toList <:+: tail) →
        more = [String.ofList tail]) := by
  have hname' : (asciiLower name).toList = envPrefix.toList ++ (table.toList ++ '_' :: tail) := by
    rw [hname, List.append_assoc]
  obtain ⟨key, hkey, hcond⟩ := (envKeyPath?_isSome_iff name).1 hread
  obtain rfl : key = table.toList ++ '_' :: tail := List.append_cancel_left (hkey.symm.trans hname')
  rw [envKeyPath?_of_read hname' hcond]
  simp only [topKeys, List.mem_cons, List.not_mem_nil, or_false] at htable
  rcases htable with rfl | rfl | rfl
  · -- the `plugins` word is replaced first, and the tail then holds no other
    rw [show "plugins".toList ++ '_' :: tail = "plugins_".toList ++ tail by simp, dotted_plugins,
      path_of_word_dot (by decide) (by decide), String.ofList_toList]
    refine ⟨_, rfl, fun hne hdot hclean => ?_⟩
    have hl : ¬ "logging_".toList <:+: tail := by simpa using hclean "logging" (by decide)
    have hm : ¬ "manager_".toList <:+: tail := by simpa using hclean "manager" (by decide)
    rw [Text.replaceFirst_of_not_infix hl, Text.replaceFirst_of_not_infix hm, path_of_no_dot hne hdot]
  · -- the manager's identifier is the one key of its table that is read
    have hword : "manager".toList ++ '_' :: tail = "manager_".toList ++ tail := by simp
    have htail : tail = "identifier".toList := by
      rw [hword] at hcond
      rcases hcond with h | h | h
      · simp [List.cons_prefix_cons] at h
      · simp [List.cons_prefix_cons] at h
      · exact List.append_cancel_left (h.trans (by simp))
    subst htail
    exact ⟨["identifier"], by decide, fun _ _ _ => by simp⟩
  · -- the `logging` word is replaced second, and the tail then holds no other
    rw [show "logging".toList ++ '_' :: tail = "logging_".toList ++ tail by simp, dotted_logging,
      path_of_word_dot (by decide) (by decide), String.ofList_toList]
    refine ⟨_, rfl, fun hne hdot hclean => ?_⟩
    have hp : ¬ "plugins_".toList <:+: tail := by simpa using hclean "plugins" (by decide)
    have hm : ¬ "manager_".toList <:+: tail := by simpa using hclean "manager" (by decide)
    rw [Text.replaceFirst_of_not_infix hp, Text.replaceFirst_of_not_infix hm, path_of_no_dot hne hdot]

/-- A variable configures exactly when its lower-cased name starts with
`assetio_` and its key starts with `plugins_` or `logging_` or is
`manager_identifier`. The path it sets starts with its table; when the
key's tail is not empty and holds no dot and no table word followed by `_`,
the path is the table and the tail. Every key of the `plugins` and
`logging` tables, and the manager's identifier, can so be set. -/
theorem env_variables_set_keys_of_their_table (name : String) :
    ((envKeyPath? name).isSome = true ↔
      ∃ key, (asciiLower name).toList = envPrefix.toList ++ key ∧
        ("plugins_".toList <+: key ∨ "logging_".toList <+: key ∨ key = "manager_identifier".toList)) ∧
    (∀ (table : String) (tail : List Char), table ∈ topKeys →
      (asciiLower name).toList = envPrefix.toList ++ table.toList ++ '_' :: tail →
      (envKeyPath? name).isSome = true →
      ∃ more, envKeyPath? name = some (table :: more) ∧
        (tail ≠ [] → '.' ∉ tail → (∀ t ∈ topKeys, ¬ (t ++ "_").toList <:+: tail) →
          more = [String.ofList tail])) ∧
    (∀ key ∈ pluginsKeys, envKeyPath? ("ASSETIO_PLUGINS_" ++ key.toUpper) = some ["plugins", key]) ∧
    (∀ key ∈ loggingKeys, envKeyPath? ("ASSETIO_LOGGING_" ++ key.toUpper) = some ["logging", key]) ∧
    envKeyPath? "ASSETIO_MANAGER_IDENTIFIER" = some ["manager", "identifier"] := by
  refine ⟨envKeyPath?_isSome_iff name, fun table tail htable hname hread =>
    envKeyPath?_of_table htable hname hread, ?_, ?_, ?_⟩
  all_goals decide +kernel

/-- A variable whose tail holds the `logging` table word: its path is split
again there, so it sets `logging` in the `plugins` table, with `level`
below it. -/
theorem plugins_logging_level_splits_again :
    envKeyPath? "ASSETIO_PLUGINS_LOGGING_LEVEL" = some ["plugins", "logging", "level"] ∧
    "plugins" ∈ topKeys ∧
    (asciiLower "ASSETIO_PLUGINS_LOGGING_LEVEL").toList =
      envPrefix.toList ++ "plugins".toList ++ '_' :: "logging_level".toList ∧
    (envKeyPath? "ASSETIO_PLUGINS_LOGGING_LEVEL").isSome = true ∧
    ∃ more, envKeyPath? "ASSETIO_PLUGINS_LOGGING_LEVEL" = some ("plugins" :: more) ∧
      ("logging_level".toList ≠ [] → '.' ∉ "logging_level".toList →
        (∀ t ∈ topKeys, ¬ (t ++ "_").toList <:+: "logging_level".toList) →
          more = [String.ofList "logging_level".toList]) := by
  have hpath : envKeyPath? "ASSETIO_PLUGINS_LOGGING_LEVEL" = some ["plugins", "logging", "level"] := by
    decide +kernel
  have hname : (asciiLower "ASSETIO_PLUGINS_LOGGING_LEVEL").toList =
      envPrefix.toList ++ "plugins".toList ++ '_' :: "logging_level".toList := by
    decide +kernel
  have hread : (envKeyPath? "ASSETIO_PLUGINS_LOGGING_LEVEL").isSome = true := by
    rw [hpath]
    rfl
  exact ⟨hpath, by decide, hname, hread,
    (env_variables_set_keys_of_their_table "ASSETIO_PLUGINS_LOGGING_LEVEL").2.1 "plugins" _ (by decide)
      hname hread⟩

end Config

end AssetBroker
