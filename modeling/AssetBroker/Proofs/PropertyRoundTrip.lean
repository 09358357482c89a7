import AssetBroker.Proofs.PropertyReading

/-!
# Property values read back from their JSON text

The library checks whether a property value survives being written as
compact JSON and read back (`PropertyValue.roundTrips`, which the value
script reports as `roundtrip_equal`). The reader tries the forms of a value
in a fixed order, and this order is harmless: an integer's text reads as
that integer, and a binary64's text, always written with a fraction or an
exponent, never reads as an integer. Dictionaries read back entry by entry.
What remains, and all that remains, are two limits of the reader:

* a binary64 reads back only as well as the reader's decimal conversion
  allows: a non-finite one is written `null`, and even a finite one may come
  back as a neighbour, since the reader scales the decimal digits by a
  rounded power of ten (`roundTrips_six_e23`);
* an opening brace at the reader's depth limit is refused
  (`nestedDict_roundTrips_iff`).

`PropertyValue.roundTrips_iff` states this for every value the library can
hold (integers in 64 bits, dictionaries sorted by key), and
`TraitsData.roundTrips_iff` for traits data read through its own reader,
which reads an object of objects as the property value reader reads the
same dictionary of dictionaries.
-/

namespace AssetBroker

namespace Json

theorem toOption_map {ε α β : Type} (f : α → β) (x : Except ε α) :
    (x.map f).toOption = x.toOption.map f := by
  cases x <;> rfl

end Json

namespace Keyed

variable {α : Type}

instance (m : List (String × α)) : Decidable (Sorted m) :=
  inferInstanceAs (Decidable ((keys m).Pairwise (· < ·)))

/-- A key above every key of a map is inserted at its end. -/
theorem insert_of_lt_keys {key : String} {value : α} :
    ∀ {m : List (String × α)}, (∀ k ∈ keys m, k < key) → insert key value m = m ++ [(key, value)]
  | [], _ => rfl
  | (k, v) :: rest, h => by
    have hk : k < key := h k List.mem_cons_self
    have hnot : ¬ key < k := fun hlt => lt_asymm hk hlt
    have hne : (key == k) = false := by
      rw [beq_eq_false_iff_ne]
      exact fun heq => lt_irrefl k (heq ▸ hk)
    simp only [insert, hnot, if_false, hne, Bool.false_eq_true, List.cons_append]
    rw [insert_of_lt_keys fun k' hk' => h k' (List.mem_cons_of_mem _ hk')]

/-- Inserting the pairs of a sorted list, each above all before it, builds
that list. -/
theorem foldl_insert_of_sorted :
    ∀ (m pairs : List (String × α)), Sorted (m ++ pairs) →
      pairs.foldl (fun m (k, v) => insert k v m) m = m ++ pairs
  | m, [], _ => by simp
  | m, (k, v) :: rest, h => by
    have hkeys : (keys m ++ k :: keys rest).Pairwise (· < ·) := by
      simpa [Sorted, keys] using h
    have hlt : ∀ k' ∈ keys m, k' < k :=
      fun k' hk' => (List.pairwise_append.1 hkeys).2.2 k' hk' k List.mem_cons_self
    have hnext : Sorted ((m ++ [(k, v)]) ++ rest) := by
      simpa using h
    rw [List.foldl_cons]
    show rest.foldl _ (insert k v m) = _
    rw [insert_of_lt_keys hlt, foldl_insert_of_sorted _ rest hnext]
    simp

/-- A sorted list of pairs is its own map. -/
theorem ofList_of_sorted {pairs : List (String × α)} (h : Sorted pairs) : ofList pairs = pairs :=
  foldl_insert_of_sorted [] pairs h

/-- Mapping every value of a map, when each succeeds, keeps its keys. -/
theorem keys_of_mapM {β : Type} {f : α → Option β} :
    ∀ {entries : List (String × α)} {ws : List (String × β)},
      entries.mapM (fun e => (f e.2).map (e.1, ·)) = some ws → keys ws = keys entries
  | [], ws, h => by
    simp only [List.mapM_nil, pure, Option.some.injEq] at h
    subst h
    rfl
  | (k, v) :: rest, ws, h => by
    simp only [List.mapM_cons, Option.bind_eq_bind, Option.bind_eq_some_iff, Option.map_eq_some_iff,
      pure] at h
    obtain ⟨_, ⟨w, -, rfl⟩, ws', hrest, hws⟩ := h
    simp only [Option.some.injEq] at hws
    subst hws
    have hkeys := keys_of_mapM hrest
    simp only [keys, List.map_cons] at hkeys ⊢
    rw [hkeys]

/-- Mapping every value of a sorted map, when each succeeds, gives a sorted map. -/
theorem sorted_of_mapM {β : Type} {f : α → Option β} {entries : List (String × α)}
    {ws : List (String × β)} (hsorted : Sorted entries)
    (h : entries.mapM (fun e => (f e.2).map (e.1, ·)) = some ws) : Sorted ws := by
  unfold Sorted
  rw [keys_of_mapM h]
  exact hsorted

/-- Mapping every value of a map succeeds with values related entry by entry
exactly when each value maps to a related one. -/
theorem mapM_entrywise_iff (f : α → Option α) (r : α → α → Bool) :
    ∀ entries : List (String × α),
      (∃ ws, entries.mapM (fun e => (f e.2).map (e.1, ·)) = some ws ∧ entrywise r entries ws = true) ↔
        ∀ e ∈ entries, ∃ w, f e.2 = some w ∧ r e.2 w = true
  | [] => by simp [entrywise]
  | (k, v) :: rest => by
    rw [List.forall_mem_cons, ← mapM_entrywise_iff f r rest]
    simp only [List.mapM_cons, Option.bind_eq_bind, pure]
    constructor
    · rintro ⟨ws, hws, hrel⟩
      cases hf : f v with
      | none => simp [hf] at hws
      | some w =>
        cases hm : rest.mapM (fun e => (f e.2).map (e.1, ·)) with
        | none => simp [hf, hm] at hws
        | some ws' =>
          simp only [hf, hm, Option.map_some, Option.bind_some, Option.some.injEq] at hws
          subst hws
          obtain ⟨-, hr, hrest⟩ := (entrywise_cons r k k v w rest ws').1 hrel
          exact ⟨⟨w, rfl, hr⟩, ws', rfl, hrest⟩
    · rintro ⟨⟨w, hf, hr⟩, ws', hm, hrest⟩
      refine ⟨(k, w) :: ws', by simp [hf, hm], ?_⟩
      exact (entrywise_cons r k k v w rest ws').2 ⟨rfl, hr, hrest⟩

/-- Comparing maps whose values went through one function. -/
theorem entrywise_map {β : Type} (r : β → β → Bool) (f : α → β) (m₁ m₂ : List (String × α)) :
    entrywise r (m₁.map fun p => (p.1, f p.2)) (m₂.map fun p => (p.1, f p.2)) =
      entrywise (fun x y => r (f x) (f y)) m₁ m₂ := by
  simp [entrywise, List.zip_map, List.all_map, Function.comp_def]

theorem insert_map {β : Type} (f : α → β) (key : String) (value : α) :
    ∀ m : List (String × α),
      insert key (f value) (m.map fun p => (p.1, f p.2)) = (insert key value m).map fun p => (p.1, f p.2)
  | [] => rfl
  | (k, v) :: rest => by
    simp only [List.map_cons, insert]
    split_ifs <;> simp [insert_map f key value rest]

/-- Building a map commutes with changing every value by one function. -/
theorem ofList_map {β : Type} (f : α → β) (pairs : List (String × α)) :
    ofList (pairs.map fun p => (p.1, f p.2)) = (ofList pairs).map fun p => (p.1, f p.2) := by
  suffices h : ∀ m : List (String × α),
      (pairs.map fun p => (p.1, f p.2)).foldl (fun m (k, v) => insert k v m) (m.map fun p => (p.1, f p.2)) =
        (pairs.foldl (fun m (k, v) => insert k v m) m).map fun p => (p.1, f p.2) from h []
  induction pairs with
  | nil => intro m; rfl
  | cons p rest ih =>
    intro m
    obtain ⟨k, v⟩ := p
    simp only [List.map_cons, List.foldl_cons]
    rw [insert_map, ih]

end Keyed

namespace PropertyValue

open Json

mutual

/-- A value the library can hold: integers in the signed 64-bit range, and
dictionaries sorted by key, each key once, at every level. -/
def representable : PropertyValue → Bool
  | int n => decide (-(2 ^ 63 : Int) ≤ n ∧ n < 2 ^ 63)
  | dict entries => decide (Keyed.Sorted entries) && entriesRepresentable entries
  | _ => true

/-- Every value of some entries can be held. -/
def entriesRepresentable : List (String × PropertyValue) → Bool
  | [] => true
  | (_, v) :: rest => representable v && entriesRepresentable rest

end

theorem entriesRepresentable_iff (entries : List (String × PropertyValue)) :
    entriesRepresentable entries = true ↔ ∀ e ∈ entries, e.2.representable = true := by
  induction entries with
  | nil => simp [entriesRepresentable]
  | cons e rest ih =>
    obtain ⟨k, v⟩ := e
    simp [entriesRepresentable, ih]

mutual

/-- How deeply dictionaries nest in a value: not at all in a scalar, one
level more than its deepest entry in a dictionary. -/
def nesting : PropertyValue → Nat
  | dict entries => entriesNesting entries + 1
  | _ => 0

/-- The deepest nesting among the values of some entries. -/
def entriesNesting : List (String × PropertyValue) → Nat
  | [] => 0
  | (_, v) :: rest => max (nesting v) (entriesNesting rest)

end

theorem entriesNesting_lt_iff {n : Nat} (hn : 0 < n) (entries : List (String × PropertyValue)) :
    entriesNesting entries < n ↔ ∀ e ∈ entries, e.2.nesting < n := by
  induction entries with
  | nil => simp [entriesNesting, hn]
  | cons e rest ih =>
    obtain ⟨k, v⟩ := e
    simp [entriesNesting, ih]

theorem ofJson?_obj (fields : List (String × Json)) :
    ofJson? (.obj fields) =
      (fields.mapM fun f => (ofJson? f.2).map (f.1, ·)).map fun entries => dict (Keyed.ofList entries) := by
  rw [ofJson?, List.mapM_subtype (g := fun f => (ofJson? f.2).map (f.1, ·)) (fun _ _ => rfl),
    List.unattach_attach]

/-- Decoding the fields read from a dictionary's text decodes each entry's
reading in turn. -/
theorem entriesReading_bind (depth : Nat) (entries : List (String × PropertyValue)) :
    (entriesReading depth entries).bind (fun js => js.mapM fun f => (ofJson? f.2).map (f.1, ·)) =
      entries.mapM fun e => ((e.2.reading depth).bind ofJson?).map (e.1, ·) := by
  induction entries with
  | nil => rfl
  | cons e rest ih =>
    obtain ⟨k, v⟩ := e
    rw [entriesReading, List.mapM_cons, ← ih]
    cases v.reading depth with
    | none => rfl
    | some j =>
      cases entriesReading depth rest <;> cases ofJson? j <;> simp

/-- The text of `v`, read with `depth` levels of nesting allowed and
decoded, gives a value equal to `v`. -/
def ReadsBack (depth : Nat) (v : PropertyValue) : Prop :=
  ∃ w, (v.reading depth).bind ofJson? = some w ∧ v.beq w = true

/-- Each field read from a dictionary's text is an entry's key with the
reading of its value. -/
theorem mem_entriesReading {depth : Nat} :
    ∀ {entries : List (String × PropertyValue)} {js : List (String × Json)},
      entriesReading depth entries = some js →
        ∀ f ∈ js, ∃ v, (f.1, v) ∈ entries ∧ v.reading depth = some f.2
  | [], js, h => by
    simp only [entriesReading, Option.some.injEq] at h
    subst h
    simp
  | (k, v) :: rest, js, h => by
    simp only [entriesReading, Option.bind_eq_some_iff, Option.map_eq_some_iff] at h
    obtain ⟨j, hj, js', hrest, rfl⟩ := h
    intro f hf
    rcases List.mem_cons.1 hf with rfl | hf
    · exact ⟨v, List.mem_cons_self, hj⟩
    · obtain ⟨v', hv', hread⟩ := mem_entriesReading hrest f hf
      exact ⟨v', List.mem_cons_of_mem _ hv', hread⟩

/-- The reading of a dictionary, decoded: refused at the depth limit, and
otherwise each entry decoded from its reading. -/
theorem bind_ofJson?_dict (depth : Nat) (entries : List (String × PropertyValue)) :
    ((dict entries).reading depth).bind ofJson? =
      if depth ≤ 1 then none
      else (entries.mapM fun (e : String × PropertyValue) =>
        ((e.2.reading (depth - 1)).bind ofJson?).map (e.1, ·)).map
        fun ws => dict (Keyed.ofList ws) := by
  rw [reading]
  split_ifs
  · rfl
  · rw [← entriesReading_bind]
    cases entriesReading (depth - 1) entries <;> simp [ofJson?_obj]

/-- Below the depth limit, a sorted dictionary reads back exactly when each
of its values does, one level deeper. -/
theorem readsBack_dict_iff {depth : Nat} (hdepth : 1 < depth) {entries : List (String × PropertyValue)}
    (hsorted : Keyed.Sorted entries) :
    ReadsBack depth (dict entries) ↔ ∀ e ∈ entries, ReadsBack (depth - 1) e.2 := by
  unfold ReadsBack
  rw [← Keyed.mapM_entrywise_iff (fun v => (v.reading (depth - 1)).bind ofJson?) beq entries,
    bind_ofJson?_dict, if_neg (by omega)]
  constructor
  · rintro ⟨w, hw, hbeq⟩
    obtain ⟨ws, hws, rfl⟩ := Option.map_eq_some_iff.1 hw
    -- the decoded entries keep the keys, so they are sorted and kept as they are
    have hsorted' := Keyed.sorted_of_mapM (f := fun v : PropertyValue => (v.reading (depth - 1)).bind ofJson?)
      hsorted hws
    rw [Keyed.ofList_of_sorted hsorted'] at hbeq
    have hset : Settings.beq entries ws = true := hbeq
    exact ⟨ws, hws, Settings.beq_eq_entrywise entries ws ▸ hset⟩
  · rintro ⟨ws, hws, hrel⟩
    have hsorted' := Keyed.sorted_of_mapM (f := fun v : PropertyValue => (v.reading (depth - 1)).bind ofJson?)
      hsorted hws
    refine ⟨dict ws, by rw [hws, Option.map_some, Keyed.ofList_of_sorted hsorted'], ?_⟩
    show Settings.beq entries ws = true
    rw [Settings.beq_eq_entrywise]
    exact hrel

/-- The binary64 numbers and the nesting of a dictionary, entry by entry. -/
theorem floats_nesting_dict {depth : Nat} (hdepth : 1 < depth) (P : Binary64 → Prop)
    (entries : List (String × PropertyValue)) :
    (∀ e ∈ entries, (∀ x ∈ e.2.floats, P x) ∧ e.2.nesting < depth - 1) ↔
      (∀ x ∈ (dict entries).floats, P x) ∧ (dict entries).nesting < depth := by
  have hlt : (dict entries).nesting < depth ↔ ∀ e ∈ entries, e.2.nesting < depth - 1 := by
    rw [nesting, ← entriesNesting_lt_iff (by omega)]
    omega
  rw [hlt, floats]
  constructor
  · intro h
    refine ⟨fun x hx => ?_, fun e he => (h e he).2⟩
    obtain ⟨k, v, hkv, hx⟩ := mem_entryFloats.1 hx
    exact (h (k, v) hkv).1 x hx
  · rintro ⟨hfloats, hnest⟩ e he
    exact ⟨fun x hx => hfloats x (mem_entryFloats.2 ⟨e.1, e.2, he, hx⟩), hnest e he⟩

/-- A value that can be held reads back, with `depth` levels of nesting
allowed, exactly when each binary64 in it reads back and its dictionaries
nest less deeply than `depth`. -/
theorem readsBack_iff (v : PropertyValue) :
    v.representable = true → ∀ depth, 0 < depth →
      (ReadsBack depth v ↔ (∀ x ∈ v.floats, ReadsBack depth (float x)) ∧ v.nesting < depth) := by
  induction v using PropertyValue.ind with
  | bool b =>
    intro _ depth hdepth
    simp [ReadsBack, reading, ofJson?, beq, floats, nesting, hdepth]
  | int n =>
    intro hv depth hdepth
    have hrange : -(2 ^ 63 : Int) ≤ n ∧ n < 2 ^ 63 := by simpa [representable] using hv
    have hread : (int n).reading depth = some (.int n) := numberReading_intText hrange.1 hrange.2
    have hin : -9223372036854775808 ≤ n ∧ n < 9223372036854775808 := by simpa using hrange
    simp only [ReadsBack, hread, Option.bind_some]
    simp [ofJson?, hin, beq, floats, nesting, hdepth]
  | float x =>
    intro _ depth hdepth
    simp [floats, nesting, hdepth]
  | str s =>
    intro _ depth hdepth
    simp [ReadsBack, reading, ofJson?, beq, floats, nesting, hdepth]
  | dict entries ih =>
    intro hv depth hdepth
    have hdict : Keyed.Sorted entries ∧ ∀ e ∈ entries, e.2.representable = true := by
      simpa [representable, entriesRepresentable_iff] using hv
    by_cases hd : depth ≤ 1
    · -- the opening brace is refused
      have hno : ¬ ReadsBack depth (dict entries) := by simp [ReadsBack, reading, hd]
      simp only [hno, false_iff, not_and, nesting]
      omega
    rw [readsBack_dict_iff (by omega) hdict.1, ← floats_nesting_dict (by omega)]
    exact forall₂_congr fun e he => ih e.1 e.2 he (hdict.2 e he) (depth - 1) (by omega)

/-- The round-trip check reports whether the value's text reads back at the
reader's depth limit. -/
theorem roundTrips_iff_readsBack (v : PropertyValue) :
    v.roundTrips = true ↔ ReadsBack depthLimit v := by
  have hparse := parse_toJsonText v
  unfold roundTrips ReadsBack
  cases hp : Json.parse v.toJsonText with
  | error e =>
    rw [hp, toOption_error] at hparse
    simp [← hparse]
  | ok j =>
    rw [hp, toOption_ok] at hparse
    rw [← hparse, Option.bind_some]
    cases hj : ofJson? j <;> simp [hj]

/-- A value that can be held reads back from its JSON text exactly when each
binary64 in it does on its own, and its dictionaries nest less deeply than
the reader's depth limit. -/
theorem roundTrips_iff {v : PropertyValue} (hv : v.representable = true) :
    v.roundTrips = true ↔
      (∀ x ∈ v.floats, (float x).roundTrips = true) ∧ v.nesting < depthLimit := by
  simp only [roundTrips_iff_readsBack]
  exact readsBack_iff v hv depthLimit (by decide)

/-- `n` dictionaries, each holding the next under the key `a`, around
`true`. -/
def nestedDict : Nat → PropertyValue
  | 0 => bool true
  | n + 1 => dict [("a", nestedDict n)]

theorem nesting_nestedDict (n : Nat) : (nestedDict n).nesting = n := by
  induction n with
  | zero => rfl
  | succ n ih => simp [nestedDict, nesting, entriesNesting, ih]

theorem representable_nestedDict (n : Nat) : (nestedDict n).representable = true := by
  induction n with
  | zero => rfl
  | succ n ih =>
    simp [nestedDict, representable, entriesRepresentable, ih, Keyed.Sorted, Keyed.keys]

theorem floats_nestedDict (n : Nat) : (nestedDict n).floats = [] := by
  induction n with
  | zero => rfl
  | succ n ih => simp [nestedDict, floats, entryFloats, ih]

/-- Depth is the only limit on dictionaries: a chain of them, with no
binary64 inside, reads back exactly when it is shallower than the reader's
depth limit. -/
theorem nestedDict_roundTrips_iff (n : Nat) : (nestedDict n).roundTrips = true ↔ n < depthLimit := by
  rw [roundTrips_iff (representable_nestedDict n), floats_nestedDict, nesting_nestedDict]
  simp

/-- A binary64 that reads back is finite: the others are written `null`,
which no form of value accepts. -/
theorem isFinite_of_roundTrips {x : Binary64} (h : (float x).roundTrips = true) :
    x.isFinite = true := by
  rw [roundTrips_iff_readsBack] at h
  obtain ⟨w, hw, -⟩ := h
  cases hx : x.isFinite
  · simp [reading, hx, ofJson?] at hw
  · rfl

/-- Finite is not enough: the binary64 nearest to 6 × 10²³ is written
`6e+23`, which the reader, scaling 6 by a rounded power of ten, reads as
the binary64 just below it. -/
theorem roundTrips_six_e23 : (float ⟨0x44DFC3842BD1F072⟩).roundTrips = false := by
  have hfin : Binary64.isFinite ⟨0x44DFC3842BD1F072⟩ = true := by decide
  have htext : Binary64.jsonText ⟨0x44DFC3842BD1F072⟩ = "6e+23" := by decide +kernel
  have hread : numberReading "6e+23".toList = some (.float ⟨0x44DFC3842BD1F071⟩) := by rfl
  have hne : Binary64.numericEq ⟨0x44DFC3842BD1F072⟩ ⟨0x44DFC3842BD1F071⟩ = false := by decide
  rw [← Bool.not_eq_true, roundTrips_iff_readsBack]
  rintro ⟨w, hw, hbeq⟩
  rw [reading, if_pos hfin, htext, hread, Option.bind_some, ofJson?, Option.some.injEq] at hw
  subst hw
  simp [beq, hne] at hbeq

/-- The text of a binary64 never parses as an integer, even when its value
is integral: it is written with a fraction or an exponent, or as `null`. -/
theorem parse_float_ne_int (x : Binary64) (n : Int) :
    Json.parse (float x).toJsonText ≠ .ok (.int n) := by
  intro h
  have hread := parse_toJsonText (float x)
  rw [h, toOption_ok] at hread
  cases hx : x.isFinite
  · simp [reading, hx] at hread
  · obtain ⟨y, hy⟩ := Binary64.numberReading_jsonText hx (.int n) (by simpa [reading, hx] using hread.symm)
    cases hy

end PropertyValue

/-- Mapping with a reader that may fail, seen as an option, is mapping with
the option reader. -/
theorem mapM_option_of_except {β γ δ ε : Type} (h : β → Except ε γ) (g : β → Option δ) (F : γ → δ) :
    ∀ l : List β, (∀ x ∈ l, g x = (h x).toOption.map F) →
      l.mapM g = (l.mapM h).toOption.map (List.map F)
  | [], _ => rfl
  | x :: rest, hx => by
    rw [List.mapM_cons, List.mapM_cons, hx x List.mem_cons_self,
      mapM_option_of_except h g F rest fun y hy => hx y (List.mem_cons_of_mem _ hy)]
    cases h x <;> cases rest.mapM h <;> rfl

namespace TraitsData

open Json PropertyValue

/-- Whether the compact JSON text of traits data reads back, through the
traits data reader, as equal traits data. -/
def roundTrips (d : TraitsData) : Bool :=
  match Json.parse d.toJson.compact with
  | .ok j =>
    match ofJson? j with
    | .ok d' => d == d'
    | .error _ => false
  | .error _ => false

/-- Traits data compare as their nested dictionaries do. -/
theorem beq_asValue (a b : TraitsData) : a.asValue.beq b.asValue = (a == b) := by
  show Settings.beq _ _ = _
  rw [Settings.beq_eq_entrywise, beq_eq_entrywise, Keyed.entrywise_map]
  rfl

/-- One trait of a traits data object: its id and its properties, which
must be an object. -/
def traitOfJson? (field : String × Json) : Except String (String × Settings) :=
  match field.2 with
  | .obj _ => (Settings.ofJson? field.2).map fun s => (field.1, s)
  | other => .error (Json.invalidType other "a map")

theorem ofJson?_obj (fields : List (String × Json)) :
    ofJson? (.obj fields) = (fields.mapM traitOfJson?).map fun entries => ⟨Keyed.ofList entries⟩ :=
  rfl

/-- Settings read from an object: each value read as a property value. -/
theorem settings_ofJson?_obj (pf : List (String × Json)) :
    (Settings.ofJson? (.obj pf)).toOption =
      (pf.mapM fun f => (PropertyValue.ofJson? f.2).map (f.1, ·)).map Keyed.ofList := by
  rw [Settings.ofJson?]
  -- the reader's entries are the same mapping, written with a pattern
  split
  next entries h =>
    rw [show (pf.mapM fun f => (PropertyValue.ofJson? f.2).map (f.1, ·)) = some entries from h]
    rfl
  next h =>
    rw [show (pf.mapM fun f => (PropertyValue.ofJson? f.2).map (f.1, ·)) = none from h]
    rfl

/-- An object of objects reads as traits data exactly as it reads as a
property value. -/
theorem ofJson?_asValue (fields : List (String × Json)) (h : ∀ f ∈ fields, ∃ pf, f.2 = .obj pf) :
    PropertyValue.ofJson? (.obj fields) = (ofJson? (.obj fields)).toOption.map asValue := by
  -- each trait reads as its dictionary of properties
  have hfield : ∀ f ∈ fields, (PropertyValue.ofJson? f.2).map (f.1, ·) =
      (traitOfJson? f).toOption.map fun p => (p.1, PropertyValue.dict p.2) := by
    intro f hf
    obtain ⟨pf, hpf⟩ := h f hf
    rw [traitOfJson?, hpf, toOption_map, settings_ofJson?_obj, PropertyValue.ofJson?_obj]
    simp [Option.map_map, Function.comp_def]
  rw [PropertyValue.ofJson?_obj, ofJson?_obj, toOption_map,
    mapM_option_of_except traitOfJson? _ _ fields hfield]
  simp only [Option.map_map, Function.comp_def, asValue, ← Keyed.ofList_map]

/-- Whatever the text of traits data reads as is an object of objects. -/
theorem reading_asValue {d : TraitsData} {depth : Nat} {j : Json}
    (h : d.asValue.reading depth = some j) :
    ∃ fields, j = .obj fields ∧ ∀ f ∈ fields, ∃ pf, f.2 = .obj pf := by
  unfold asValue at h
  rw [reading] at h
  split_ifs at h with hdepth
  obtain ⟨js, hjs, rfl⟩ := Option.map_eq_some_iff.1 h
  refine ⟨js, rfl, fun f hf => ?_⟩
  obtain ⟨v, hv, hread⟩ := mem_entriesReading hjs f hf
  obtain ⟨tp, -, htp⟩ := List.mem_map.1 hv
  obtain ⟨-, rfl⟩ := Prod.mk.inj htp
  rw [reading] at hread
  split_ifs at hread
  obtain ⟨pf, -, hpf⟩ := Option.map_eq_some_iff.1 hread
  exact ⟨pf, hpf.symm⟩

/-- Traits data reads back from its text exactly when it does as the
dictionary of its traits. -/
theorem roundTrips_eq_asValue (d : TraitsData) : d.roundTrips = d.asValue.roundTrips := by
  have hparse := parse_toJson d
  unfold roundTrips PropertyValue.roundTrips PropertyValue.toJsonText
  rw [toJson_asValue]
  cases hp : Json.parse d.toJson.compact with
  | error e => rfl
  | ok j =>
    rw [hp, toOption_ok] at hparse
    obtain ⟨fields, rfl, hfields⟩ := reading_asValue hparse.symm
    simp only
    rw [ofJson?_asValue fields hfields]
    cases ofJson? (.obj fields) with
    | error e => rfl
    | ok d' => simp [beq_asValue]

/-- Canonical traits data whose values can all be held is a dictionary that
can be held. -/
theorem representable_asValue {d : TraitsData} (hd : d.Canonical)
    (hv : ∀ tp ∈ d.traits, ∀ e ∈ tp.2, e.2.representable = true) : d.asValue.representable = true := by
  have hkeys : Keyed.keys (d.traits.map fun tp => (tp.1, PropertyValue.dict tp.2)) = Keyed.keys d.traits := by
    simp [Keyed.keys]
  simp only [asValue, representable, Bool.and_eq_true, decide_eq_true_eq, entriesRepresentable_iff,
    List.mem_map]
  refine ⟨by unfold Keyed.Sorted; rw [hkeys]; exact hd.1, ?_⟩
  rintro _ ⟨tp, htp, rfl⟩
  simp only [representable, Bool.and_eq_true, decide_eq_true_eq, entriesRepresentable_iff]
  exact ⟨hd.2 tp htp, hv tp htp⟩

theorem mem_floats_asValue {d : TraitsData} {x : Binary64} : x ∈ d.asValue.floats ↔ x ∈ d.floats := by
  simp [asValue, PropertyValue.floats, entryFloats_eq_flatMap, TraitsData.floats]

/-- Canonical traits data whose values can all be held reads back from its
JSON text exactly when each binary64 in it does on its own and, counting the
two levels of traits and properties, its dictionaries nest less deeply than
the reader's depth limit. -/
theorem roundTrips_iff {d : TraitsData} (hd : d.Canonical)
    (hv : ∀ tp ∈ d.traits, ∀ e ∈ tp.2, e.2.representable = true) :
    d.roundTrips = true ↔
      (∀ x ∈ d.floats, (PropertyValue.float x).roundTrips = true) ∧ d.asValue.nesting < depthLimit := by
  rw [roundTrips_eq_asValue, PropertyValue.roundTrips_iff (representable_asValue hd hv)]
  simp only [mem_floats_asValue]

end TraitsData

namespace PropertyValue

open Json

/-- The JSON round trip of property values and traits data. A value the
library can hold reads back from its compact text exactly when every binary64
in it does on its own and its dictionaries nest less deeply than the
reader's limit; so all its binary64 numbers are then finite, and the text of
a binary64 never reads as an integer. Canonical traits data whose values can
all be held reads back exactly when the dictionary of its traits does. -/
theorem json_text_reads_back_iff {v : PropertyValue} (hv : v.representable = true) {d : TraitsData}
    (hd : d.Canonical) (hdv : ∀ tp ∈ d.traits, ∀ e ∈ tp.2, e.2.representable = true) :
    (v.roundTrips = true ↔ (∀ x ∈ v.floats, (float x).roundTrips = true) ∧ v.nesting < depthLimit) ∧
    (v.roundTrips = true → ∀ x ∈ v.floats, x.isFinite = true) ∧
    (∀ (x : Binary64) (n : Int), Json.parse (float x).toJsonText ≠ .ok (.int n)) ∧
    (d.roundTrips = true ↔
      (∀ x ∈ d.floats, (float x).roundTrips = true) ∧ d.asValue.nesting < depthLimit) := by
  have hiff := roundTrips_iff hv
  refine ⟨hiff, ?_, parse_float_ne_int, TraitsData.roundTrips_iff hd hdv⟩
  intro hback x hx
  exact isFinite_of_roundTrips ((hiff.1 hback).1 x hx)

/-- Finite is not enough: a dictionary holding the binary64 nearest to
6 × 10²³ does not read back. -/
theorem six_e23_in_a_dictionary :
    (dict [("a", float ⟨0x44DFC3842BD1F072⟩)]).representable = true ∧
      (dict [("a", float ⟨0x44DFC3842BD1F072⟩)]).roundTrips = false := by
  have hrep : (dict [("a", float ⟨0x44DFC3842BD1F072⟩)]).representable = true := by decide
  refine ⟨hrep, ?_⟩
  rw [← Bool.not_eq_true, (json_text_reads_back_iff hrep TraitsData.canonical_empty
    (fun _ h => absurd h List.not_mem_nil)).1]
  rintro ⟨hfloats, -⟩
  have hx := hfloats ⟨0x44DFC3842BD1F072⟩ (by simp [floats, entryFloats])
  rw [roundTrips_six_e23] at hx
  exact Bool.false_ne_true hx

/-- Finite floats are not enough for a value to read back: a dictionary
holding the binary64 nearest to 6 × 10²³, which is finite, and a chain of
`depthLimit` dictionaries around `true`, which holds no binary64 at all, are
both written and neither reads back. -/
theorem finite_values_that_do_not_read_back :
    let six := dict [("a", float ⟨0x44DFC3842BD1F072⟩)]
    (six.representable = true ∧ (∀ x ∈ six.floats, x.isFinite = true) ∧ six.roundTrips = false) ∧
      ((nestedDict depthLimit).representable = true ∧ (nestedDict depthLimit).floats = [] ∧
        (nestedDict depthLimit).roundTrips = false) := by
  intro six
  have hrep : six.representable = true := by decide
  have hfloats : six.floats = [⟨0x44DFC3842BD1F072⟩] := by simp [six, floats, entryFloats]
  -- the one binary64 inside fails to read back on its own
  have hsix : six.roundTrips = false := by
    rw [← Bool.not_eq_true, roundTrips_iff hrep, hfloats]
    simp [roundTrips_six_e23]
  -- the chain is one level too deep for the reader
  have hdeep : (nestedDict depthLimit).roundTrips = false := by
    rw [← Bool.not_eq_true, nestedDict_roundTrips_iff]
    exact Nat.lt_irrefl _
  refine ⟨⟨hrep, ?_, hsix⟩, representable_nestedDict _, floats_nestedDict _, hdeep⟩
  rw [hfloats]
  intro x hx
  rw [List.mem_singleton.1 hx]
  decide

end PropertyValue

end AssetBroker
