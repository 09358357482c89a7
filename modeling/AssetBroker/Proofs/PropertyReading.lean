import AssetBroker.Proofs.JsonReading
import AssetBroker.Proofs.TraitsAlgebra

/-!
# Reading the JSON text of a property value

What the reader makes of the compact text of any property value, followed by
a delimiter, is computed by `PropertyValue.reading`, by structural recursion
over the value: literals, integers and strings come back as the JSON value
written, a binary64 as its text reads (`null` when it is not finite), and a
dictionary as the object of its entries' readings, provided the nesting
limit is not reached at its opening brace. The main statements:

* `PropertyValue.readValue_text`: the reader on the text of a value, for any
  delimiter after it and any fuel beyond the text's length;
* `PropertyValue.parse_toJsonText`: parsing the text of a value;
* `TraitsData.parse_toJson`: the same for traits data, which is written as
  the dictionary of its traits' property dictionaries.
-/

namespace AssetBroker

namespace Json

theorem compact_obj (fields : List (String × Json)) :
    (obj fields).compact =
      "\x7b" ++ ",".intercalate (fields.map fun f => quote f.1 ++ ":" ++ f.2.compact) ++ "\x7d" := by
  rw [compact, List.map_subtype (g := fun f => quote f.1 ++ ":" ++ f.2.compact) (fun _ _ => rfl),
    List.unattach_attach]

/-- A value that is neither an array nor an object is written as a scalar. -/
theorem compact_of_scalar {j : Json} (harr : ∀ items, j ≠ .arr items)
    (hobj : ∀ fields, j ≠ .obj fields) : j.compact = j.scalarText := by
  rw [compact.eq_def]
  split
  · exact absurd rfl (harr _)
  · exact absurd rfl (hobj _)
  · rfl

/-- A text read whole, as `o` says, parses as `o` says. -/
theorem parse_of_readValue {text : String} {o : Option Json}
    (h : (readValue text.toList (text.toList.length + 2) depthLimit).toOption = o.map (·, [])) :
    (parse text).toOption = o := by
  unfold parse
  simp only
  cases hread : readValue text.toList (text.toList.length + 2) depthLimit with
  | error e =>
    rw [hread] at h
    cases o <;> simp_all
  | ok p =>
    rw [hread] at h
    cases o with
    | none => simp at h
    | some j =>
      simp only [toOption_ok, Option.map_some, Option.some.injEq] at h
      subst h
      rfl

end Json

namespace PropertyValue

open Json

mutual

/-- What the reader makes of a value's compact text with `depth` levels of
nesting allowed: the JSON value read, or `none` where reading fails. -/
def reading : Nat → PropertyValue → Option Json
  | _, bool b => some (.bool b)
  | _, int n => numberReading (toString n).toList
  | _, float x => if x.isFinite then numberReading x.jsonText.toList else some .null
  | _, str s => some (.str s)
  | depth, dict entries =>
    if depth ≤ 1 then none else (entriesReading (depth - 1) entries).map .obj

/-- What the reader makes of the fields of a dictionary's text. -/
def entriesReading : Nat → List (String × PropertyValue) → Option (List (String × Json))
  | _, [] => some []
  | depth, (k, v) :: rest =>
    (reading depth v).bind fun j => (entriesReading depth rest).map ((k, j) :: ·)

end

theorem toJson_dict (entries : List (String × PropertyValue)) :
    (dict entries).toJson = .obj (entries.map fun e => (e.1, e.2.toJson)) := by
  rw [toJson, List.map_subtype (g := fun e => (e.1, e.2.toJson)) (fun _ _ => rfl),
    List.unattach_attach]

/-- The characters of one field of a dictionary's text: the quoted key, a
colon and the value's text. -/
def fieldChars (e : String × PropertyValue) : List Char :=
  (quote e.1).toList ++ ':' :: e.2.toJson.compact.toList

theorem text_dict (entries : List (String × PropertyValue)) :
    (dict entries).toJson.compact.toList =
      '{' :: ([','].intercalate (entries.map fieldChars) ++ ['}']) := by
  rw [toJson_dict, compact_obj]
  have hfield : ∀ e : String × PropertyValue,
      (quote e.1 ++ ":" ++ e.2.toJson.compact).toList = fieldChars e := by
    intro e
    simp only [String.toList_append, fieldChars, show ":".toList = [':'] from rfl,
      List.append_assoc, List.singleton_append]
  simp only [String.toList_append, String.toList_intercalate, List.map_map, Function.comp_def,
    hfield, show "\x7b".toList = ['{'] from rfl, show ",".toList = [','] from rfl,
    show "\x7d".toList = ['}'] from rfl, List.cons_append, List.nil_append]

theorem length_quote (k : String) : 2 ≤ (quote k).toList.length := by
  simp [toList_quote]

/-- The fields of a dictionary's text, then its closing brace, are read one
after the other, when each value's text is read as `reading` says. -/
theorem readFields_entries (entries : List (String × PropertyValue))
    (ih : ∀ k v, (k, v) ∈ entries → ∀ tail fuel depth, Delimited tail →
      v.toJson.compact.toList.length < fuel →
      (readValue (v.toJson.compact.toList ++ tail) fuel depth).toOption = (v.reading depth).map (·, tail))
    (hne : entries ≠ []) :
    ∀ (acc : List (String × Json)) (tail : List Char) (fuel depth : Nat),
      ([','].intercalate (entries.map fieldChars)).length < fuel →
      (readFields acc ([','].intercalate (entries.map fieldChars) ++ '}' :: tail) fuel depth).toOption =
        (entriesReading depth entries).map fun js => (.obj (acc.reverse ++ js), tail) := by
  induction entries with
  | nil => exact absurd rfl hne
  | cons e rest ihrest =>
    obtain ⟨k, v⟩ := e
    intro acc tail fuel depth hfuel
    obtain ⟨f, rfl⟩ := Nat.exists_eq_add_one_of_ne_zero (Nat.pos_iff_ne_zero.1
      (Nat.lt_of_le_of_lt (Nat.zero_le _) hfuel))
    have hk := length_quote k
    rcases rest with _ | ⟨e', rest'⟩
    · -- the last field, then the closing brace
      simp only [List.map_cons, List.map_nil, List.intercalate_singleton, fieldChars,
        List.length_append, List.length_cons] at hfuel ⊢
      rw [List.append_assoc, List.cons_append, readFields_last (ih k v List.mem_cons_self _ f depth
        (delimited_brace tail) (by omega))]
      simp only [entriesReading]
      cases v.reading depth <;> simp
    · -- a field, a comma, then the fields after it
      have hrest := ihrest (fun k' v' hm => ih k' v' (List.mem_cons_of_mem _ hm)) (List.cons_ne_nil _ _)
      rw [List.map_cons, List.intercalate_cons_of_ne_nil (by simp), fieldChars] at hfuel ⊢
      simp only [List.length_append, List.length_cons] at hfuel
      simp only [List.append_assoc, List.cons_append, List.nil_append]
      rw [readFields_comma (ih k v List.mem_cons_self _ f depth (delimited_comma _) (by omega)),
        entriesReading]
      cases v.reading depth with
      | none => rfl
      | some j =>
        rw [Option.bind_some, Option.bind_some, hrest ((k, j) :: acc) tail f depth (by omega)]
        cases entriesReading depth (e' :: rest') <;> simp

/-- The compact text of any value, followed by a delimiter, is read as
`reading` says, given fuel beyond the text's length: the depth limit is met
at each opening brace, and every number is read on its own. -/
theorem readValue_text (v : PropertyValue) :
    ∀ (tail : List Char) (fuel depth : Nat), Delimited tail →
      v.toJson.compact.toList.length < fuel →
      (readValue (v.toJson.compact.toList ++ tail) fuel depth).toOption =
        (v.reading depth).map (·, tail) := by
  induction v using PropertyValue.ind with
  | bool b =>
    intro tail fuel depth _ hfuel
    obtain ⟨f, rfl⟩ : ∃ f, fuel = f + 1 := ⟨fuel - 1, by omega⟩
    cases b
    · rw [show (bool false).toJson.compact = "false" by
        rw [toJson, compact_of_scalar (by simp) (by simp)]; rfl, readValue_false]
      rfl
    · rw [show (bool true).toJson.compact = "true" by
        rw [toJson, compact_of_scalar (by simp) (by simp)]; rfl, readValue_true]
      rfl
  | int n =>
    intro tail fuel depth htail hfuel
    obtain ⟨f, rfl⟩ : ∃ f, fuel = f + 1 := ⟨fuel - 1, by omega⟩
    rw [show (int n).toJson.compact = toString n by
        rw [toJson, compact_of_scalar (by simp) (by simp)]; rfl,
      readValue_number (intText_layout n) htail]
    rfl
  | float x =>
    intro tail fuel depth htail hfuel
    obtain ⟨f, rfl⟩ : ∃ f, fuel = f + 1 := ⟨fuel - 1, by omega⟩
    rw [show (float x).toJson.compact = x.jsonText by
      rw [toJson, compact_of_scalar (by simp) (by simp)]; rfl]
    cases hx : x.isFinite
    · -- written `null`, which is read as such
      rw [Binary64.jsonText_of_not_finite hx, readValue_null]
      simp [reading, hx]
    · rw [readValue_number (Binary64.jsonText_layout hx) htail]
      simp [reading, hx]
  | str s =>
    intro tail fuel depth _ hfuel
    obtain ⟨f, rfl⟩ : ∃ f, fuel = f + 1 := ⟨fuel - 1, by omega⟩
    rw [show (str s).toJson.compact = quote s by
      rw [toJson, compact_of_scalar (by simp) (by simp)]; rfl, readValue_quote]
    rfl
  | dict entries ih =>
    intro tail fuel depth _ hfuel
    obtain ⟨f, rfl⟩ : ∃ f, fuel = f + 1 := ⟨fuel - 1, by omega⟩
    rw [text_dict] at hfuel ⊢
    rw [List.cons_append, readValue_brace, reading]
    by_cases hdepth : depth ≤ 1
    · simp [hdepth, failAt]
    rw [if_neg hdepth, if_neg hdepth, List.append_assoc, List.singleton_append]
    simp only [List.length_cons, List.length_append] at hfuel
    rcases entries with _ | ⟨e, rest⟩
    · -- `{}`
      obtain ⟨g, rfl⟩ : ∃ g, f = g + 1 := ⟨f - 1, by omega⟩
      simp [readFields_close, entriesReading]
    · rw [readFields_entries _ ih (List.cons_ne_nil _ _) [] tail f (depth - 1) (by omega)]
      simp [Function.comp_def]

/-- Parsing a value's compact text gives what `reading` says at the
reader's depth limit. -/
theorem parse_toJsonText (v : PropertyValue) :
    (Json.parse v.toJsonText).toOption = v.reading depthLimit := by
  apply parse_of_readValue
  have h := readValue_text v [] (v.toJsonText.toList.length + 2) depthLimit delimited_nil
    (by simp [toJsonText])
  rwa [List.append_nil] at h

end PropertyValue

namespace TraitsData

open Json

/-- Traits data seen as one property value: a dictionary from trait ids to
dictionaries of properties. -/
def asValue (d : TraitsData) : PropertyValue :=
  .dict (d.traits.map fun tp => (tp.1, .dict tp.2))

theorem toJson_asValue (d : TraitsData) : d.asValue.toJson = d.toJson := by
  simp [asValue, PropertyValue.toJson_dict, TraitsData.toJson, Settings.toJson]

/-- Parsing the compact text of traits data gives what `reading` says of it
as a property value. -/
theorem parse_toJson (d : TraitsData) :
    (Json.parse d.toJson.compact).toOption = d.asValue.reading depthLimit := by
  rw [← toJson_asValue]
  exact d.asValue.parse_toJsonText

end TraitsData

end AssetBroker
