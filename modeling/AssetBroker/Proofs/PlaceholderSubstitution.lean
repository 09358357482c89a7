import AssetBroker.Config.Placeholder
import Mathlib

/-!
# The configuration directory placeholder leaves no trace

`Text.replaceAll` scans a text from the left; where the pattern starts it
writes the replacement and resumes after the occurrence, elsewhere it keeps
the character. Two equations say what that does: a text without the pattern
is left as it is, and a text whose first occurrence of the pattern follows
`a` becomes `a`, the replacement, and the rest replaced in turn. These are
the rules of replacing every non-overlapping occurrence, leftmost first.

A default manager's string settings have `${config_dir}` replaced by the
directory of the file. When that directory begins with `/` and holds no
`$`, no occurrence is left afterwards: a new one would have to begin at a
`$` of the setting, and the text after that `$` either was no occurrence to
begin with or is cut short by the directory's `/`, which the placeholder
does not hold. Substituting a second time therefore changes nothing.
-/

namespace AssetBroker

namespace Keyed

theorem find?_map_values {α β : Type} (f : α → β) (key : String) (m : List (String × α)) :
    find? key (m.map fun kv => (kv.1, f kv.2)) = (find? key m).map f := by
  induction m with
  | nil => rfl
  | cons kv m ih =>
    obtain ⟨k, v⟩ := kv
    by_cases hk : k = key <;> simp [find?, hk, ih]

end Keyed

namespace Text

/-! ## The scanning loop -/

section Scan

variable {p r : List Char}

theorem replaceAll_go_nil (fuel : Nat) : replaceAll.go p r [] fuel = [] := by
  cases fuel <;> rfl

theorem replaceAll_go_cons (c : Char) (rest : List Char) (fuel : Nat) :
    replaceAll.go p r (c :: rest) (fuel + 1) =
      if p <+: c :: rest then r ++ replaceAll.go p r ((c :: rest).drop p.length) fuel
      else c :: replaceAll.go p r rest fuel := by
  have hmatch : (List.take p.length (c :: rest) == p) = true ↔ p <+: c :: rest := by
    rw [beq_iff_eq, List.prefix_iff_eq_take, eq_comm]
  simp only [replaceAll.go]
  by_cases h : p <+: c :: rest
  · rw [if_pos (hmatch.2 h), if_pos h]
  · rw [if_neg (mt hmatch.1 h), if_neg h]

/-- Where the pattern never occurs, the scan keeps every character. -/
theorem replaceAll_go_of_no_occurrence {cs : List Char} (h : ¬ p <:+: cs) (fuel : Nat) :
    replaceAll.go p r cs fuel = cs := by
  induction fuel generalizing cs with
  | zero => rfl
  | succ fuel ih =>
    cases cs with
    | nil => rfl
    | cons c rest =>
      have hp : ¬ p <+: c :: rest := fun hp => h hp.isInfix
      rw [replaceAll_go_cons, if_neg hp, ih fun hi => h (hi.trans (List.suffix_cons c rest).isInfix)]

/-- Once the fuel covers the text, more fuel changes nothing: each step of
the scan consumes at least one character. -/
theorem replaceAll_go_succ (hp : p ≠ []) :
    ∀ (cs : List Char) (fuel : Nat), cs.length ≤ fuel →
      replaceAll.go p r cs (fuel + 1) = replaceAll.go p r cs fuel := by
  have hpos : 0 < p.length := List.length_pos_iff.2 hp
  intro cs fuel
  induction fuel generalizing cs with
  | zero =>
    intro h
    rw [List.eq_nil_of_length_eq_zero (Nat.le_zero.1 h), replaceAll_go_nil, replaceAll_go_nil]
  | succ fuel ih =>
    intro h
    cases cs with
    | nil => rw [replaceAll_go_nil, replaceAll_go_nil]
    | cons c rest =>
      simp only [List.length_cons] at h
      rw [replaceAll_go_cons, replaceAll_go_cons]
      split
      · rw [ih _ (by simp only [List.length_drop, List.length_cons]; omega)]
      · rw [ih _ (by omega)]

theorem replaceAll_go_of_length_le (hp : p ≠ []) (cs : List Char) (fuel : Nat) (h : cs.length ≤ fuel) :
    replaceAll.go p r cs fuel = replaceAll.go p r cs cs.length := by
  induction fuel, h using Nat.le_induction with
  | base => rfl
  | succ fuel hle ih => rw [replaceAll_go_succ hp cs fuel hle, ih]

/-- The scan starts with the characters before the first occurrence, then
the replacement, then the rest scanned in turn. -/
theorem replaceAll_go_first_occurrence {a b : List Char} (hp : p ≠ [])
    (hfirst : ¬ p <:+: a ++ p.dropLast) (fuel : Nat) (hfuel : a.length < fuel) :
    replaceAll.go p r (a ++ p ++ b) fuel = a ++ r ++ replaceAll.go p r b (fuel - a.length - 1) := by
  induction a generalizing fuel with
  | nil =>
    obtain ⟨fuel, rfl⟩ := Nat.exists_eq_add_one_of_ne_zero (Nat.pos_iff_ne_zero.1 hfuel)
    obtain ⟨c, rest, rfl⟩ := List.exists_cons_of_ne_nil hp
    have hpre : c :: rest <+: c :: (rest ++ b) := List.cons_prefix_cons.2 ⟨rfl, List.prefix_append _ _⟩
    rw [List.nil_append, List.cons_append, replaceAll_go_cons, if_pos hpre]
    simp
  | cons c a ih =>
    obtain ⟨fuel, rfl⟩ := Nat.exists_eq_add_one_of_ne_zero (by omega : fuel ≠ 0)
    -- no occurrence starts at `c`: it would lie inside `c :: a ++ p.dropLast`
    have hnot : ¬ p <+: c :: (a ++ p ++ b) := by
      intro hpre
      have hsplit : c :: (a ++ p ++ b) = (c :: a ++ p.dropLast) ++ (p.getLast hp :: b) := by
        conv_lhs => rw [← List.dropLast_append_getLast hp]
        simp
      have hlen : p.length ≤ (c :: a ++ p.dropLast).length := by
        simp only [List.cons_append, List.length_cons, List.length_append, List.length_dropLast]
        omega
      rw [hsplit] at hpre
      exact hfirst (List.prefix_of_prefix_length_le hpre (List.prefix_append _ _) hlen).isInfix
    rw [List.cons_append, List.cons_append, replaceAll_go_cons, if_neg hnot,
      ih (fun hi => hfirst (hi.trans (List.suffix_cons c _).isInfix)) fuel (by simpa using hfuel)]
    simp

/-- A text that starts the scan's output after a character of its own
stands at the start of the input, when the replacement begins with a
character the text does not hold. -/
theorem prefix_of_prefix_replaceAll_go {d : Char} {r' w : List Char} (hd : d ∉ w) :
    ∀ (cs : List Char) (fuel : Nat), w <+: replaceAll.go p (d :: r') cs fuel → w <+: cs := by
  intro cs fuel
  induction fuel generalizing cs w with
  | zero => exact id
  | succ fuel ih =>
    cases cs with
    | nil => exact fun h => by rwa [replaceAll_go_nil] at h
    | cons c rest =>
      intro h
      rw [replaceAll_go_cons] at h
      split at h
      · -- the output starts with the replacement, whose `d` the text lacks
        cases w with
        | nil => exact List.nil_prefix
        | cons w₀ w' =>
          rw [List.cons_append] at h
          obtain ⟨rfl, -⟩ := List.cons_prefix_cons.1 h
          exact absurd List.mem_cons_self hd
      · cases w with
        | nil => exact List.nil_prefix
        | cons w₀ w' =>
          obtain ⟨rfl, hw'⟩ := List.cons_prefix_cons.1 h
          exact List.cons_prefix_cons.2 ⟨rfl, ih (fun hm => hd (List.mem_cons_of_mem _ hm)) rest hw'⟩

/-- A pattern whose first character is not in `r` occurs in `r ++ x` only
within `x`. -/
theorem infix_of_infix_append {c₀ : Char} {q : List Char} (hc : c₀ ∉ r) {x : List Char}
    (h : c₀ :: q <:+: r ++ x) : c₀ :: q <:+: x := by
  induction r with
  | nil => exact h
  | cons d r ih =>
    rcases List.infix_cons_iff.1 h with hpre | hin
    · obtain ⟨rfl, -⟩ := List.cons_prefix_cons.1 (hpre.trans (List.prefix_refl _))
      exact absurd List.mem_cons_self hc
    · exact ih (fun hm => hc (List.mem_cons_of_mem _ hm)) hin

/-- The scan leaves no occurrence of a pattern `c₀ :: q` behind when the
replacement holds no `c₀` and begins with a character that `q` lacks. -/
theorem not_infix_replaceAll_go {c₀ d : Char} {q r' : List Char} (hc : c₀ ∉ d :: r') (hd : d ∉ q) :
    ∀ (cs : List Char) (fuel : Nat), cs.length ≤ fuel →
      ¬ c₀ :: q <:+: replaceAll.go (c₀ :: q) (d :: r') cs fuel := by
  intro cs fuel
  induction fuel generalizing cs with
  | zero =>
    intro hlen hin
    rw [List.eq_nil_of_length_eq_zero (Nat.le_zero.1 hlen), replaceAll_go_nil] at hin
    exact List.cons_ne_nil _ _ (List.eq_nil_of_infix_nil hin)
  | succ fuel ih =>
    intro hlen hin
    cases cs with
    | nil =>
      rw [replaceAll_go_nil] at hin
      exact List.cons_ne_nil _ _ (List.eq_nil_of_infix_nil hin)
    | cons c rest =>
      rw [replaceAll_go_cons] at hin
      split at hin
      · -- an occurrence would lie after the replacement, in the rest scanned
        refine ih _ ?_ (infix_of_infix_append hc hin)
        simp only [List.length_drop, List.length_cons] at hlen ⊢
        omega
      · rename_i hnot
        rcases List.infix_cons_iff.1 hin with hpre | hin
        · -- an occurrence at `c` continues with `q`, which the scan only
          -- passes on from the input: the input matched there
          obtain ⟨rfl, hq⟩ := List.cons_prefix_cons.1 hpre
          exact hnot (List.cons_prefix_cons.2 ⟨rfl, prefix_of_prefix_replaceAll_go hd rest fuel hq⟩)
        · exact ih rest (by simp only [List.length_cons] at hlen; omega) hin

end Scan

/-! ## Replacing and searching in text -/

/-- The search finds exactly the occurrences of the pattern. -/
theorem containsText_iff (s pattern : String) :
    containsText s pattern = true ↔ pattern.toList <:+: s.toList := by
  unfold containsText
  generalize s.toList = cs
  induction cs with
  | nil =>
    simp only [containsText.go, List.isEmpty_iff]
    exact ⟨fun h => h ▸ List.nil_infix, List.eq_nil_of_infix_nil⟩
  | cons c rest ih =>
    rw [containsText.go, Bool.or_eq_true, ih, List.infix_cons_iff, beq_iff_eq, eq_comm,
      ← List.prefix_iff_eq_take]

theorem replaceAll_of_not_containsText {s pattern : String} (replacement : String)
    (h : containsText s pattern = false) : replaceAll s pattern replacement = s := by
  have hin : ¬ pattern.toList <:+: s.toList := by
    rw [← containsText_iff, h]
    exact Bool.false_ne_true
  unfold replaceAll
  split
  · rfl
  · exact (congrArg String.ofList (replaceAll_go_of_no_occurrence hin _)).trans String.ofList_toList

/-- The text before the first occurrence of the pattern is kept, the
occurrence replaced, and the rest replaced in turn. -/
theorem replaceAll_first_occurrence {a b pattern : String} (replacement : String) (hp : pattern ≠ "")
    (hfirst : ¬ pattern.toList <:+: a.toList ++ pattern.toList.dropLast) :
    replaceAll (a ++ pattern ++ b) pattern replacement = a ++ replacement ++ replaceAll b pattern replacement := by
  have hne : pattern.toList ≠ [] := fun h => hp (String.toList_inj.1 (h.trans String.toList_empty.symm))
  have hpos : 0 < pattern.toList.length := List.length_pos_iff.2 hne
  have hempty : pattern.isEmpty = false := by
    rw [Bool.eq_false_iff, ne_eq, String.isEmpty_iff]
    exact hp
  rw [replaceAll, replaceAll, if_neg (by simp [hempty]), if_neg (by simp [hempty])]
  simp only [String.toList_append, ← String.length_toList, List.length_append]
  rw [replaceAll_go_first_occurrence hne hfirst _ (by omega),
    replaceAll_go_of_length_le hne b.toList (b.toList.length + 1) (by omega),
    replaceAll_go_of_length_le hne b.toList
      (a.toList.length + pattern.toList.length + b.toList.length + 1 - a.toList.length - 1) (by omega)]
  simp only [String.ofList_append, String.ofList_toList]

/-- Replacing by a text that holds no `$` and begins with `/` leaves no
occurrence of the placeholder. -/
theorem containsText_replaceAll_placeholder (s dir : String) (hslash : dir.toList.head? = some '/')
    (hdollar : '$' ∉ dir.toList) :
    containsText (replaceAll s configDirPlaceholder dir) configDirPlaceholder = false := by
  obtain ⟨r', hdir⟩ : ∃ r', dir.toList = '/' :: r' := by
    cases h : dir.toList with
    | nil => simp [h] at hslash
    | cons d r' =>
      rw [h, List.head?_cons, Option.some.injEq] at hslash
      exact ⟨r', hslash ▸ rfl⟩
  have hp : configDirPlaceholder.toList = '$' :: "\x7bconfig_dir\x7d".toList := by decide
  rw [Bool.eq_false_iff, ne_eq, containsText_iff, replaceAll, if_neg (by decide)]
  simp only [String.toList_ofList, hp, hdir]
  refine not_infix_replaceAll_go (hdir ▸ hdollar) (by decide) _ _ ?_
  rw [String.length_toList]
  omega

end Text

/-! ## Substituting the configuration directory -/

theorem substituteConfigDir_entries (settings : Settings) (dir : String) :
    substituteConfigDir settings dir = settings.map fun (k, v) =>
      (k, match v with
        | .str s => .str (Text.replaceAll s configDirPlaceholder dir)
        | other => other) := by
  unfold substituteConfigDir
  congr 1
  funext kv
  obtain ⟨k, v⟩ := kv
  cases v <;> rfl

/-- Settings in which no string holds the placeholder are left as they are. -/
theorem substituteConfigDir_of_no_placeholder {settings : Settings} (dir : String)
    (h : ∀ k s, (k, PropertyValue.str s) ∈ settings → Text.containsText s configDirPlaceholder = false) :
    substituteConfigDir settings dir = settings := by
  rw [substituteConfigDir_entries]
  conv => rhs; rw [← List.map_id settings]
  refine List.map_congr_left fun kv hkv => ?_
  obtain ⟨k, v⟩ := kv
  cases v with
  | str s => simp [Text.replaceAll_of_not_containsText dir (h k s hkv)]
  | _ => rfl

/-- Substituting a directory that begins with `/` and holds no `$` keeps
every key, replaces the placeholder in each top-level string and leaves
every other value as it was, strings inside dictionaries included; no
top-level string holds the placeholder afterwards, so a second
substitution changes nothing. -/
theorem substitution_leaves_no_placeholder (settings : Settings) (dir : String)
    (hslash : dir.toList.head? = some '/') (hdollar : '$' ∉ dir.toList) :
    Keyed.keys (substituteConfigDir settings dir) = Keyed.keys settings ∧
      (∀ k, Keyed.find? k (substituteConfigDir settings dir) =
        (Keyed.find? k settings).map fun v =>
          match v with
          | .str s => .str (Text.replaceAll s configDirPlaceholder dir)
          | other => other) ∧
      (∀ k s, (k, PropertyValue.str s) ∈ substituteConfigDir settings dir →
        Text.containsText s configDirPlaceholder = false) ∧
      substituteConfigDir (substituteConfigDir settings dir) dir = substituteConfigDir settings dir := by
  have hclean : ∀ k s, (k, PropertyValue.str s) ∈ substituteConfigDir settings dir →
      Text.containsText s configDirPlaceholder = false := by
    intro k s hmem
    rw [substituteConfigDir_entries, List.mem_map] at hmem
    obtain ⟨⟨k', v⟩, -, hkv⟩ := hmem
    cases v with
    | str s' =>
      obtain ⟨-, rfl⟩ := Prod.mk.inj hkv |>.imp id PropertyValue.str.inj
      exact Text.containsText_replaceAll_placeholder s' dir hslash hdollar
    | _ => cases (Prod.mk.inj hkv).2
  refine ⟨?_, fun k => ?_, hclean, substituteConfigDir_of_no_placeholder dir hclean⟩
  · rw [substituteConfigDir_entries]
    simp [Keyed.keys]
  · rw [substituteConfigDir_entries]
    exact Keyed.find?_map_values (fun v => match v with
      | .str s => PropertyValue.str (Text.replaceAll s configDirPlaceholder dir)
      | other => other) k settings

/-- The library root of a show's settings, substituted under `/opt/show`,
is substituted once and for all. -/
theorem show_library_root_substituted :
    ("/opt/show".toList.head? = some '/' ∧ '$' ∉ "/opt/show".toList) ∧
      substituteConfigDir [("count", .int 2), ("root", .str (configDirPlaceholder ++ "/library"))]
          "/opt/show" =
        [("count", .int 2), ("root", .str "/opt/show/library")] ∧
      Keyed.find? "root" (substituteConfigDir (substituteConfigDir
          [("count", .int 2), ("root", .str (configDirPlaceholder ++ "/library"))] "/opt/show") "/opt/show") =
        some (.str "/opt/show/library") := by
  have h := substitution_leaves_no_placeholder
    [("count", .int 2), ("root", .str (configDirPlaceholder ++ "/library"))] "/opt/show"
    (by decide) (by decide)
  have hval : substituteConfigDir [("count", .int 2), ("root", .str (configDirPlaceholder ++ "/library"))]
      "/opt/show" = [("count", .int 2), ("root", .str "/opt/show/library")] := by
    rfl
  refine ⟨⟨by decide, by decide⟩, hval, ?_⟩
  rw [h.2.2.2, hval]
  rfl

end AssetBroker
