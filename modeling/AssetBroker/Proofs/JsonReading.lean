import AssetBroker.Proofs.TokenRoundTrip
import AssetBroker.Json.Write
import Mathlib

/-!
# Reading back what the JSON writer writes

The compact writer lays out every value in a way the reader takes whole. This
module proves it piece by piece, for a value followed by anything that may
follow it in a document (`Delimited`: nothing, a comma or a closing brace):

* numbers: the reader of a number is shown to depend only on the number's
  own characters (`readNumber_append`), and every number the writer lays out
  (`NumberLayout`: a sign, digits, an optional fraction and exponent) to be
  read to its end (`readNumber_takesAll`). The JSON text of a finite binary64
  always has a fraction or an exponent, so it never reads as an integer
  (`Binary64.numberReading_jsonText`); a 64-bit signed integer's text reads
  as that integer (`numberReading_intText`). Whether a binary64 reads back as
  itself is not claimed here: the reader rounds twice;
* strings: every escape the writer uses is decoded to the character it
  stands for (`readStringBody_escaped`);
* literals, and the fields of an object one at a time (`readFields_comma`,
  `readFields_last`), with the depth limit checked at each opening brace.
-/

namespace AssetBroker
namespace Json

/-- What may follow a value inside a document: nothing, or the comma or the
closing brace after a field of an object. -/
def Delimited (rest : List Char) : Prop := ∀ c ∈ rest.head?, c = ',' ∨ c = '}'

theorem delimited_nil : Delimited [] := by simp [Delimited]

theorem delimited_comma (r : List Char) : Delimited (',' :: r) := by simp [Delimited]

theorem delimited_brace (r : List Char) : Delimited ('}' :: r) := by simp [Delimited]

theorem Delimited.not_digit {rest : List Char} (h : Delimited rest) :
    ∀ c ∈ rest.head?, c.isDigit = false := by
  intro c hc
  rcases h c hc with rfl | rfl <;> rfl

section Append

variable {α : Type} {p : α → Bool} {rest : List α}

theorem takeWhile_append_of_head (h : ∀ c ∈ rest.head?, p c = false) (l : List α) :
    (l ++ rest).takeWhile p = l.takeWhile p := by
  induction l with
  | nil =>
    cases rest with
    | nil => rfl
    | cons c r => simp [h c rfl]
  | cons x xs ih =>
    simp only [List.cons_append, List.takeWhile_cons]
    split <;> simp [ih]

theorem dropWhile_append_of_head (h : ∀ c ∈ rest.head?, p c = false) (l : List α) :
    (l ++ rest).dropWhile p = l.dropWhile p ++ rest := by
  induction l with
  | nil =>
    cases rest with
    | nil => rfl
    | cons c r => simp [h c rfl]
  | cons x xs ih =>
    simp only [List.cons_append, List.dropWhile_cons]
    split <;> simp [ih]

end Append

/-! ## Numbers followed by a delimiter -/

@[simp] theorem toOption_ok {ε α : Type} (a : α) : (Except.ok a : Except ε α).toOption = some a := rfl

@[simp] theorem toOption_error {ε α : Type} (e : ε) : (Except.error e : Except ε α).toOption = none := rfl

theorem toOption_scaledNumber (s : Except String Binary64) (r : List Char) :
    (scaledNumber s r).toOption = s.toOption.map fun x => (.float x, r) := by
  cases s <;> rfl

/-- A literal integer is always read, whatever follows it. -/
theorem integerOrFloat_ok (negative : Bool) (sig : Nat) :
    ∃ j, ∀ r, integerOrFloat negative sig r = .ok (j, r) := by
  unfold integerOrFloat
  split_ifs
  all_goals exact ⟨_, fun _ => rfl⟩

section Frame

variable {rest : List Char} (hrest : Delimited rest)
include hrest

theorem readExponent_append (negative : Bool) (sig : Nat) (exp10 : Int) (r : List Char) :
    (readExponent negative sig exp10 (r ++ rest)).toOption =
      (readExponent negative sig exp10 r).toOption.map fun p => (p.1, p.2 ++ rest) := by
  have hdigit := hrest.not_digit
  unfold readExponent
  rcases r with _ | ⟨s, r⟩
  · -- an `e` with nothing after it in the number
    rcases rest with _ | ⟨c, rest⟩
    · rfl
    · obtain rfl | rfl := hrest c rfl <;> rfl
  -- the sign of the exponent is read the same way; the digits after it stop at the delimiter
  by_cases hplus : s = '+'
  on_goal 1 => subst hplus; simp only [List.cons_append]
  on_goal 2 =>
    by_cases hminus : s = '-'
    on_goal 1 => subst hminus; simp only [List.cons_append]
    on_goal 2 =>
      simp only [List.cons_append, List.cons.injEq, hplus, hminus, false_and, imp_self, implies_true]
      simp only [← List.cons_append]
  all_goals
    simp only [takeWhile_append_of_head hdigit, dropWhile_append_of_head hdigit]
    split_ifs <;> simp [toOption_scaledNumber, failAt, Function.comp_def]

theorem numberEnd_append (negative : Bool) (sig : Nat) (exp10 : Int) (scaled : Bool)
    (sigWhole : Nat) (af : List Char) :
    (numberEnd negative sig exp10 scaled sigWhole (af ++ rest)).toOption =
      (numberEnd negative sig exp10 scaled sigWhole af).toOption.map fun p => (p.1, p.2 ++ rest) := by
  obtain ⟨j, hj⟩ := integerOrFloat_ok negative sigWhole
  rcases af with _ | ⟨e, r⟩
  · -- the number ends where the delimiter starts
    rcases rest with _ | ⟨c, rest⟩
    · simp
    · obtain rfl | rfl := hrest c rfl <;>
      · simp only [List.nil_append, numberEnd]
        split_ifs <;> simp_all [toOption_scaledNumber, Function.comp_def]
  · simp only [List.cons_append, numberEnd]
    split_ifs
    · exact readExponent_append hrest negative sig exp10 r
    all_goals simp [toOption_scaledNumber, hj, Function.comp_def]

theorem readUnsigned_append (negative : Bool) (body : List Char) :
    (readUnsigned negative (body ++ rest)).toOption =
      (readUnsigned negative body).toOption.map fun p => (p.1, p.2 ++ rest) := by
  have hdigit := hrest.not_digit
  unfold readUnsigned
  simp only [takeWhile_append_of_head hdigit, dropWhile_append_of_head hdigit]
  split_ifs
  -- no digit, or a leading zero: refused with the delimiter as without it
  iterate 5 rfl
  generalize body.dropWhile Char.isDigit = aw
  rcases aw with _ | ⟨c, r⟩
  · -- the integer digits end the number, at the delimiter
    rcases rest with _ | ⟨e, rest⟩
    · exact numberEnd_append hrest _ _ _ _ _ []
    · obtain rfl | rfl := hrest e rfl <;> exact numberEnd_append hrest _ _ _ _ _ []
  by_cases hdot : c = '.'
  · subst hdot
    simp only [List.cons_append, takeWhile_append_of_head hdigit, dropWhile_append_of_head hdigit]
    split_ifs
    -- a point with no digit after it
    iterate 4 rfl
    exact numberEnd_append hrest _ _ _ _ _ _
  · simp only [List.cons_append, List.cons.injEq, hdot, false_and, imp_self, implies_true]
    exact numberEnd_append hrest _ _ _ _ _ (c :: r)

/-- A number followed by a delimiter is read as the number alone, and the
delimiter is left; a number that fails alone fails before one too. -/
theorem readNumber_append (cs : List Char) :
    (readNumber (cs ++ rest)).toOption =
      (readNumber cs).toOption.map fun p => (p.1, p.2 ++ rest) := by
  rcases cs with _ | ⟨c, b⟩
  · rcases rest with _ | ⟨e, rest⟩
    · rfl
    · obtain rfl | rfl := hrest e rfl <;> rfl
  unfold readNumber
  by_cases hc : c = '-'
  · subst hc
    exact readUnsigned_append hrest true b
  · simp only [List.cons_append, List.cons.injEq, hc, false_and, imp_self, implies_true]
    exact readUnsigned_append hrest false (c :: b)

end Frame

/-! ## Numbers as they are written -/

/-- A nonempty run of decimal digits. -/
def DigitRun (ds : List Char) : Prop := ds ≠ [] ∧ ∀ c ∈ ds, c.isDigit = true

/-- What ends a written number: nothing, or `e`, an optional sign and digits. -/
def ExponentPart (cs : List Char) : Prop :=
  cs = [] ∨ ∃ s ds, (s = [] ∨ s = ['+'] ∨ s = ['-']) ∧ DigitRun ds ∧ cs = 'e' :: (s ++ ds)

/-- What follows the integer digits of a written number: an optional
fraction, then the exponent part. -/
def FractionPart (cs : List Char) : Prop :=
  ExponentPart cs ∨ ∃ f e, DigitRun f ∧ ExponentPart e ∧ cs = '.' :: (f ++ e)

/-- A written number without its sign: the integer digits and what follows
them, which is empty exactly when the number is not `scaled`. -/
def UnsignedLayout (scaled : Bool) (cs : List Char) : Prop :=
  ∃ w t, DigitRun w ∧ FractionPart t ∧ t.isEmpty = !scaled ∧ cs = w ++ t

/-- A written number: an optional minus, then the number without its sign. -/
def NumberLayout (scaled : Bool) (cs : List Char) : Prop :=
  UnsignedLayout scaled cs ∨ ∃ b, UnsignedLayout scaled b ∧ cs = '-' :: b

/-- A reading that, when it succeeds, took the whole text, and gave a
binary64 when `scaled`. -/
def TakesAll (scaled : Bool) (o : Option (Json × List Char)) : Prop :=
  ∀ p ∈ o, p.2 = [] ∧ (scaled = true → ∃ y, p.1 = .float y)

@[simp] theorem takesAll_none (scaled : Bool) : TakesAll scaled none := by
  simp [TakesAll]

@[simp] theorem takesAll_some (scaled : Bool) (p : Json × List Char) :
    TakesAll scaled (some p) ↔ p.2 = [] ∧ (scaled = true → ∃ y, p.1 = .float y) := by
  simp [TakesAll]

theorem takesAll_scaledNumber (scaled : Bool) (r : Except String Binary64) :
    TakesAll scaled (scaledNumber r []).toOption := by
  cases r <;> simp [TakesAll, scaledNumber, failAt]

theorem takesAll_integerOrFloat (negative : Bool) (sig : Nat) :
    TakesAll false (integerOrFloat negative sig []).toOption := by
  obtain ⟨j, hj⟩ := integerOrFloat_ok negative sig
  simp [TakesAll, hj]

theorem DigitRun.takeWhile {ds : List Char} (h : DigitRun ds) : ds.takeWhile Char.isDigit = ds :=
  List.takeWhile_eq_self_iff.2 h.2

theorem DigitRun.dropWhile {ds : List Char} (h : DigitRun ds) : ds.dropWhile Char.isDigit = [] :=
  List.dropWhile_eq_nil_iff.2 h.2

theorem DigitRun.not_isEmpty {ds : List Char} (h : DigitRun ds) : ds.isEmpty = false :=
  List.isEmpty_eq_false_iff.2 h.1

/-- A written exponent's sign and digits are read to the end. -/
theorem readExponent_takesAll {s ds : List Char} (hs : s = [] ∨ s = ['+'] ∨ s = ['-'])
    (hds : DigitRun ds) (negative : Bool) (sig : Nat) (exp10 : Int) :
    TakesAll true (readExponent negative sig exp10 (s ++ ds)).toOption := by
  obtain ⟨d, ds', hcons⟩ := List.exists_cons_of_ne_nil hds.1
  have hd : d.isDigit = true := hds.2 d (hcons ▸ List.mem_cons_self)
  have hsign : d ≠ '+' ∧ d ≠ '-' := by
    constructor <;> rintro rfl <;> revert hd <;> decide
  unfold readExponent
  rcases hs with rfl | rfl | rfl
  · rw [List.nil_append, hcons]
    simp only [List.cons.injEq, hsign.1, hsign.2, false_and, imp_self, implies_true]
    rw [← hcons]
    simp only [hds.takeWhile, hds.dropWhile, hds.not_isEmpty]
    split_ifs <;> simp [takesAll_scaledNumber, failAt]
  all_goals
    simp only [List.cons_append, List.nil_append, hds.takeWhile, hds.dropWhile, hds.not_isEmpty]
    split_ifs <;> simp [takesAll_scaledNumber, failAt]

theorem TakesAll.weaken {scaled scaled' : Bool} {o : Option (Json × List Char)}
    (h : TakesAll scaled o) (hs : scaled' = true → scaled = true) : TakesAll scaled' o :=
  fun p hp => ⟨(h p hp).1, fun h' => (h p hp).2 (hs h')⟩

theorem ExponentPart.head_not_digit {cs : List Char} (h : ExponentPart cs) :
    ∀ c ∈ cs.head?, c.isDigit = false := by
  rcases h with rfl | ⟨s, ds, -, -, rfl⟩ <;> simp

theorem FractionPart.head_not_digit {cs : List Char} (h : FractionPart cs) :
    ∀ c ∈ cs.head?, c.isDigit = false := by
  rcases h with h | ⟨f, e, -, -, rfl⟩
  · exact h.head_not_digit
  · simp

/-- After the digits and fraction, a written number's exponent part is read to the end. -/
theorem numberEnd_takesAll {af : List Char} (haf : ExponentPart af) (negative : Bool) (sig : Nat)
    (exp10 : Int) (scaled : Bool) (sigWhole : Nat) :
    TakesAll (scaled || !af.isEmpty) (numberEnd negative sig exp10 scaled sigWhole af).toOption := by
  rcases haf with rfl | ⟨s, ds, hs, hds, rfl⟩
  · cases scaled
    · exact takesAll_integerOrFloat negative sigWhole
    · exact takesAll_scaledNumber _ _
  · simp only [numberEnd, beq_self_eq_true, Bool.true_or, if_true, List.isEmpty_cons,
      Bool.not_false, Bool.or_true]
    exact readExponent_takesAll hs hds negative sig exp10

/-- The digits of a written number, then its fraction and exponent, are read
to the end; the value is a binary64 when there is a fraction or an exponent. -/
theorem readUnsigned_takesAll {scaled : Bool} {cs : List Char} (h : UnsignedLayout scaled cs)
    (negative : Bool) : TakesAll scaled (readUnsigned negative cs).toOption := by
  obtain ⟨w, t, hw, ht, hscaled, rfl⟩ := h
  have hscaled' : scaled = !t.isEmpty := by
    rw [hscaled, Bool.not_not]
  subst hscaled'
  have hhead := ht.head_not_digit
  unfold readUnsigned
  simp only [takeWhile_append_of_head hhead, dropWhile_append_of_head hhead, hw.takeWhile,
    hw.dropWhile, List.nil_append, hw.not_isEmpty, Bool.false_eq_true, if_false]
  split_ifs
  · simp [failAt]
  rcases ht with ((rfl | ⟨s, ds, hs, hds, rfl⟩) | ⟨f, e, hf, he, rfl⟩)
  · exact (numberEnd_takesAll (.inl rfl) _ _ _ _ _).weaken (by simp)
  · exact (numberEnd_takesAll (.inr ⟨s, ds, hs, hds, rfl⟩) _ _ _ _ _).weaken (by simp)
  · have hehead := he.head_not_digit
    simp only [takeWhile_append_of_head hehead, dropWhile_append_of_head hehead, hf.takeWhile,
      hf.dropWhile, List.nil_append, hf.not_isEmpty, Bool.false_eq_true, if_false]
    exact (numberEnd_takesAll he _ _ _ _ _).weaken (by simp)

theorem UnsignedLayout.head {scaled : Bool} {cs : List Char} (h : UnsignedLayout scaled cs) :
    ∃ d r, cs = d :: r ∧ d.isDigit = true := by
  obtain ⟨w, t, hw, -, -, rfl⟩ := h
  obtain ⟨d, w', rfl⟩ := List.exists_cons_of_ne_nil hw.1
  exact ⟨d, w' ++ t, rfl, hw.2 d List.mem_cons_self⟩

/-- A number without a minus is read as unsigned. -/
theorem readNumber_of_digit {d : Char} (hd : d.isDigit = true) (r : List Char) :
    readNumber (d :: r) = readUnsigned false (d :: r) := by
  have hminus : d ≠ '-' := by
    rintro rfl
    revert hd
    decide
  unfold readNumber
  simp only [List.cons.injEq, hminus, false_and, imp_self, implies_true]

/-- A written number is read to the end; it is a binary64 when `scaled`. -/
theorem readNumber_takesAll {scaled : Bool} {cs : List Char} (h : NumberLayout scaled cs) :
    TakesAll scaled (readNumber cs).toOption := by
  rcases h with h | ⟨b, h, rfl⟩
  · obtain ⟨d, r, rfl, hd⟩ := h.head
    rw [readNumber_of_digit hd]
    exact readUnsigned_takesAll h false
  · exact readUnsigned_takesAll h true

/-- A written number starts with a minus or a digit. -/
theorem NumberLayout.head {scaled : Bool} {cs : List Char} (h : NumberLayout scaled cs) :
    ∃ d r, cs = d :: r ∧ (d == '-' || d.isDigit) = true := by
  rcases h with h | ⟨b, -, rfl⟩
  · obtain ⟨d, r, rfl, hd⟩ := h.head
    exact ⟨d, r, rfl, by simp [hd]⟩
  · exact ⟨'-', b, rfl, rfl⟩

def numberReading (cs : List Char) : Option Json := (readNumber cs).toOption.map Prod.fst

/-- A written number followed by a delimiter is read whole, and the
delimiter is left. -/
theorem readNumber_layout_append {scaled : Bool} {cs rest : List Char} (h : NumberLayout scaled cs)
    (hrest : Delimited rest) :
    (readNumber (cs ++ rest)).toOption = (numberReading cs).map (·, rest) := by
  have hall := readNumber_takesAll h
  rw [readNumber_append hrest, numberReading]
  cases hread : (readNumber cs).toOption with
  | none => rfl
  | some p =>
    rw [hread] at hall
    have hp : p.2 = [] := ((takesAll_some _ _).1 hall).1
    simp [hp]

/-! ## The written numbers are numbers as they are written -/

theorem DigitRun.toDigits (m : Nat) : DigitRun (Nat.toDigits 10 m) :=
  ⟨Nat.toDigits_ne_nil, fun _ hc => Nat.isDigit_of_mem_toDigits (by decide) (by decide) hc⟩

theorem DigitRun.append {a b : List Char} (ha : DigitRun a) (hb : ∀ c ∈ b, c.isDigit = true) :
    DigitRun (a ++ b) :=
  ⟨by simp [ha.1], by simpa using fun c hc => (List.mem_append.1 hc).elim (ha.2 c) (hb c)⟩

theorem DigitRun.prepend {a b : List Char} (ha : ∀ c ∈ a, c.isDigit = true) (hb : DigitRun b) :
    DigitRun (a ++ b) :=
  ⟨by simp [hb.1], by simpa using fun c hc => (List.mem_append.1 hc).elim (ha c) (hb.2 c)⟩

theorem isDigit_of_mem_replicate {k : Nat} : ∀ c ∈ List.replicate k '0', c.isDigit = true := by
  intro c hc
  rw [List.eq_of_mem_replicate hc]
  rfl

/-- The decimal text of an integer is a written number with no fraction and
no exponent. -/
theorem intText_layout (n : Int) : NumberLayout false (toString n).toList := by
  have hplain (m : Nat) : UnsignedLayout false (Nat.toDigits 10 m) :=
    ⟨_, [], DigitRun.toDigits m, .inl (.inl rfl), rfl, by simp⟩
  cases n with
  | ofNat m => exact .inl (by simpa [Int.toString_eq_repr, Int.repr] using hplain m)
  | negSucc m => exact .inr ⟨_, hplain (m + 1), by simp [Int.toString_eq_repr, Int.repr]⟩

end Json

namespace Decimal

open Json

theorem positional_layout (d : Decimal) : UnsignedLayout true (d.positional true).toList := by
  have hds := DigitRun.toDigits d.digits
  have hlen : (toString d.digits).length = (Nat.toDigits 10 d.digits).length := by
    rw [← String.length_toList]
    simp
  unfold positional
  by_cases hexp : d.exponent ≥ 0
  · -- an integral value: the digits, zeros and `.0`
    simp only [hexp, if_true]
    refine ⟨Nat.toDigits 10 d.digits ++ List.replicate d.exponent.toNat '0', ['.', '0'],
      hds.append isDigit_of_mem_replicate, .inr ⟨['0'], [], ⟨by simp, by simp⟩, .inl rfl, by simp⟩,
      rfl, ?_⟩
    simp [zeros]
  simp only [hexp, if_false]
  by_cases hshift : (-d.exponent).toNat < (toString d.digits).length
  · -- the point falls inside the digits
    simp only [hshift, if_true]
    rw [hlen] at hshift ⊢
    have hpos : 0 < (-d.exponent).toNat := by omega
    refine ⟨(Nat.toDigits 10 d.digits).take ((Nat.toDigits 10 d.digits).length - (-d.exponent).toNat),
      '.' :: ((Nat.toDigits 10 d.digits).drop
        ((Nat.toDigits 10 d.digits).length - (-d.exponent).toNat) ++ []),
      ⟨?_, fun c hc => hds.2 c (List.mem_of_mem_take hc)⟩,
      .inr ⟨_, [], ⟨?_, fun c hc => hds.2 c (List.mem_of_mem_drop hc)⟩, .inl rfl, rfl⟩, rfl, ?_⟩
    · simp only [ne_eq, List.take_eq_nil_iff, not_or]
      exact ⟨by omega, hds.1⟩
    · simp only [ne_eq, List.drop_eq_nil_iff, not_le]
      omega
    · simp
  · -- the point comes before the digits, after a zero
    simp only [hshift, if_false]
    refine ⟨['0'], '.' :: (List.replicate ((-d.exponent).toNat - (toString d.digits).length) '0' ++
      Nat.toDigits 10 d.digits ++ []), ⟨by simp, by simp⟩,
      .inr ⟨_, [], DigitRun.prepend isDigit_of_mem_replicate hds, .inl rfl, rfl⟩, rfl, ?_⟩
    simp [zeros]

theorem scientific_layout (d : Decimal) : UnsignedLayout true (d.scientific true).toList := by
  unfold scientific
  simp only [if_true]
  generalize d.exponent + _ = lead
  have hds := DigitRun.toDigits d.digits
  -- the exponent: its sign, then the digits of its magnitude
  obtain ⟨s, hs, hexp⟩ : ∃ s, (s = [] ∨ s = ['+'] ∨ s = ['-']) ∧
      (if lead < 0 then "-" ++ toString lead.natAbs else "+" ++ toString lead.natAbs).toList =
        s ++ Nat.toDigits 10 lead.natAbs := by
    split_ifs
    · exact ⟨['-'], by simp, by simp⟩
    · exact ⟨['+'], by simp, by simp⟩
  have he : ExponentPart ('e' :: (s ++ Nat.toDigits 10 lead.natAbs)) :=
    .inr ⟨s, _, hs, DigitRun.toDigits _, rfl⟩
  have hcs : (toString d.digits).toList = Nat.toDigits 10 d.digits := by simp
  obtain ⟨c, r, hcr⟩ := List.exists_cons_of_ne_nil hds.1
  have hc : c.isDigit = true := hds.2 c (hcr ▸ List.mem_cons_self)
  rw [String.toList_append, hexp, hcs, hcr]
  rcases r with _ | ⟨c', rest⟩
  · -- a single digit, then the exponent
    exact ⟨[c], _, ⟨by simp, by simp [hc]⟩, .inl he, rfl, by simp⟩
  · -- the leading digit, a point, the other digits, then the exponent
    have hrest : DigitRun (c' :: rest) :=
      ⟨by simp, fun x hx => hds.2 x (hcr ▸ List.mem_cons_of_mem c hx)⟩
    exact ⟨[c], _, ⟨by simp, by simp [hc]⟩, .inr ⟨_, _, hrest, he, rfl⟩, rfl, by simp⟩

end Decimal

namespace Binary64

open Json

/-- The JSON text of a finite binary64 is a written number with a fraction or
an exponent, so it never reads as an integer. -/
theorem jsonText_layout {x : Binary64} (hx : x.isFinite = true) :
    NumberLayout true x.jsonText.toList := by
  have hnan : x.isNaN = false := by
    simp only [isFinite, bne_iff_ne, ne_eq] at hx
    simp [isNaN, hx]
  have hinf : x.isInfinite = false := by
    simp only [isFinite, bne_iff_ne, ne_eq] at hx
    simp [isInfinite, hx]
  unfold jsonText render
  have hstyle : DecimalStyle.json.pointZero = true ∧ DecimalStyle.json.exponentPlus = true :=
    ⟨rfl, rfl⟩
  simp only [hnan, hinf, Bool.false_eq_true, if_false, hstyle.1, hstyle.2]
  -- the sign, then either layout of the digits
  split_ifs
  · exact .inr ⟨_, x.shortest.positional_layout, by simp⟩
  · exact .inr ⟨_, x.shortest.scientific_layout, by simp⟩
  · exact .inl (by simpa using x.shortest.positional_layout)
  · exact .inl (by simpa using x.shortest.scientific_layout)

/-- A binary64 that is not finite is written `null`. -/
theorem jsonText_of_not_finite {x : Binary64} (hx : x.isFinite = false) : x.jsonText = "null" := by
  have hexp : x.biasedExponent = 2047 := by simpa [isFinite] using hx
  unfold jsonText render
  by_cases hnan : x.isNaN = true
  · simp [hnan, DecimalStyle.json]
  · have hfrac : x.fraction = 0 := by simpa [isNaN, hexp] using hnan
    have hinf : x.isInfinite = true := by simp [isInfinite, hexp, hfrac]
    simp only [hnan, hinf, Bool.false_eq_true, if_false, if_true]
    cases x.sign <;> rfl

/-- The JSON text of a finite binary64 reads, if it reads at all, as a
binary64: never as an integer, even for an integral value. -/
theorem numberReading_jsonText {x : Binary64} (hx : x.isFinite = true) :
    ∀ j ∈ numberReading x.jsonText.toList, ∃ y, j = .float y := by
  intro j hj
  obtain ⟨p, hp, rfl⟩ := Option.map_eq_some_iff.1 hj
  exact ((readNumber_takesAll (jsonText_layout hx)) p hp).2 rfl

end Binary64

namespace Json

/-! ## Strings as they are written -/

theorem hexValue?_hexDigit : ∀ n < 16, hexValue? (hexDigit n) = some n := by decide

/-- The escaped form of a character is read back as that character. -/
theorem readStringBody_escapeChar (c : Char) (acc more : List Char) (fuel : Nat) :
    readStringBody acc (escapeChar c ++ more) (fuel + 1) = readStringBody (c :: acc) more fuel := by
  unfold escapeChar
  split_ifs with hquote hslash hline hreturn htab hback hfeed hcontrol
  -- a short escape names the character itself
  · rw [eq_of_beq hquote]; rfl
  · rw [eq_of_beq hslash]; rfl
  · rw [eq_of_beq hline]; rfl
  · rw [eq_of_beq hreturn]; rfl
  · rw [eq_of_beq htab]; rfl
  · rw [← Char.ofNat_toNat c, (beq_iff_eq.1 hback)]; rfl
  · rw [← Char.ofNat_toNat c, (beq_iff_eq.1 hfeed)]; rfl
  · -- another control character is written as four hexadecimal digits
    have hlt : c.toNat < 32 := by simpa using hcontrol
    have hhi : hexValue? (hexDigit (c.toNat / 16)) = some (c.toNat / 16) :=
      hexValue?_hexDigit _ (by omega)
    have hlo : hexValue? (hexDigit (c.toNat % 16)) = some (c.toNat % 16) :=
      hexValue?_hexDigit _ (by omega)
    have hzero : hexValue? '0' = some 0 := rfl
    have hu : shortEscape? 'u' = none := rfl
    have hval : ((0 * 16 + 0) * 16 + c.toNat / 16) * 16 + c.toNat % 16 = c.toNat := by omega
    have htrail : isTrailingSurrogate c.toNat = false := by
      simp only [isTrailingSurrogate, Bool.and_eq_false_iff, decide_eq_false_iff_not, Nat.not_le]
      omega
    have hlead : isLeadingSurrogate c.toNat = false := by
      simp only [isLeadingSurrogate, Bool.and_eq_false_iff, decide_eq_false_iff_not, Nat.not_le]
      omega
    simp only [List.cons_append, List.nil_append, readStringBody, readHex4, hzero, hhi, hlo, hu,
      hval, htrail, hlead]
    simp [Char.ofNat_toNat]
  · -- any other character stands for itself
    have hplain : ¬ c.toNat < 32 := by simpa using hcontrol
    simp only [List.singleton_append, readStringBody, Bool.not_eq_true] at hquote hslash ⊢
    simp [hquote, hslash, hplain]

theorem length_le_flatMap_escapeChar (s : List Char) : s.length ≤ (s.flatMap escapeChar).length := by
  induction s with
  | nil => simp
  | cons c s ih =>
    have hc : 1 ≤ (escapeChar c).length := by
      unfold escapeChar
      split_ifs <;> simp
    simp only [List.length_cons, List.flatMap_cons, List.length_append]
    omega

/-- An escaped string body and its closing quote are read back as the string. -/
theorem readStringBody_escaped (rest : List Char) :
    ∀ (s acc : List Char) (fuel : Nat), s.length < fuel →
      readStringBody acc (s.flatMap escapeChar ++ '"' :: rest) fuel =
        .ok (String.ofList (acc.reverse ++ s), rest) := by
  intro s
  induction s with
  | nil =>
    intro acc fuel hfuel
    obtain ⟨f, rfl⟩ := Nat.exists_eq_add_one_of_ne_zero (Nat.pos_iff_ne_zero.1 hfuel)
    simp [readStringBody]
  | cons c s ih =>
    intro acc fuel hfuel
    obtain ⟨f, rfl⟩ := Nat.exists_eq_add_one_of_ne_zero
      (Nat.pos_iff_ne_zero.1 (Nat.lt_of_le_of_lt (Nat.zero_le _) hfuel))
    rw [List.flatMap_cons, List.append_assoc, readStringBody_escapeChar,
      ih (c :: acc) f (by simp only [List.length_cons] at hfuel; omega)]
    simp

/-- The body of a quoted string is read back, with the fuel the reader gives
it: one more than the characters left. -/
theorem readStringBody_quoted (s : String) (rest : List Char) :
    readStringBody [] (s.toList.flatMap escapeChar ++ '"' :: rest)
      ((s.toList.flatMap escapeChar ++ '"' :: rest).length + 1) = .ok (s, rest) := by
  have hlen := length_le_flatMap_escapeChar s.toList
  rw [readStringBody_escaped rest s.toList [] _ (by simp only [List.length_append, List.length_cons]; omega)]
  simp

theorem toList_quote (s : String) :
    (quote s).toList = '"' :: (s.toList.flatMap escapeChar ++ ['"']) := by
  simp [quote]

/-! ## Values as they are written -/

theorem skipBlank_cons {c : Char} (hc : (c == ' ' || c == '\t' || c == '\n' || c == '\r') = false)
    (r : List Char) : skipBlank (c :: r) = c :: r := by
  simp [skipBlank, hc]

/-- A quoted string is read back as the string, whatever follows it. -/
theorem readValue_quote (s : String) (tail : List Char) (fuel depth : Nat) :
    readValue ((quote s).toList ++ tail) (fuel + 1) depth = .ok (.str s, tail) := by
  rw [toList_quote]
  simp only [List.cons_append, List.append_assoc, List.nil_append,
    readValue, skipBlank_cons (c := '"') rfl]
  rw [if_neg (by decide), if_pos (by decide), readStringBody_quoted]

theorem readValue_true (tail : List Char) (fuel depth : Nat) :
    readValue ("true".toList ++ tail) (fuel + 1) depth = .ok (.bool true, tail) := rfl

theorem readValue_false (tail : List Char) (fuel depth : Nat) :
    readValue ("false".toList ++ tail) (fuel + 1) depth = .ok (.bool false, tail) := rfl

theorem readValue_null (tail : List Char) (fuel depth : Nat) :
    readValue ("null".toList ++ tail) (fuel + 1) depth = .ok (.null, tail) := rfl

/-- A text starting with a minus or a digit is read as a number. -/
theorem readValue_of_number_start {c : Char} (hc : (c == '-' || c.isDigit) = true)
    (rest : List Char) (fuel depth : Nat) : readValue (c :: rest) (fuel + 1) depth = readNumber (c :: rest) := by
  -- `c` differs from every character that starts another kind of value, or a blank
  have hne : ∀ x : Char, (x == '-' || x.isDigit) = false → (c == x) = false := by
    intro x hx
    rw [beq_eq_false_iff_ne]
    rintro rfl
    rw [hc] at hx
    exact Bool.noConfusion hx
  have hblank : (c == ' ' || c == '\t' || c == '\n' || c == '\r') = false := by
    simp [hne ' ' rfl, hne '\t' rfl, hne '\n' rfl, hne '\r' rfl]
  simp only [readValue, skipBlank_cons hblank, hne '{' rfl, hne '[' rfl, hne '"' rfl, hne 't' rfl,
    hne 'f' rfl, hne 'n' rfl, hc, Bool.or_self, Bool.false_eq_true, if_false, if_true]

/-- A written number followed by a delimiter is read as a value on its own. -/
theorem readValue_number {scaled : Bool} {cs tail : List Char} (h : NumberLayout scaled cs)
    (htail : Delimited tail) (fuel depth : Nat) :
    (readValue (cs ++ tail) (fuel + 1) depth).toOption = (numberReading cs).map (·, tail) := by
  obtain ⟨c, r, rfl, hc⟩ := h.head
  rw [List.cons_append, readValue_of_number_start hc, ← List.cons_append]
  exact readNumber_layout_append h htail

/-- The decimal digits of a 64-bit number are read as that integer. -/
theorem readUnsigned_toDigits (negative : Bool) {m : Nat} (hm : m < 2 ^ 64) :
    readUnsigned negative (Nat.toDigits 10 m) = integerOrFloat negative m [] := by
  have hds := DigitRun.toDigits m
  have hacc : accumulate 0 (Nat.toDigits 10 m) = (m, (Nat.toDigits 10 m).length) := by
    rw [accumulate_of_le hds.2] <;> rw [Nat.ofDigitChars_ten_toDigits]
    simp only [accumulatorMax]
    omega
  have hnolead : ¬ (1 < (Nat.toDigits 10 m).length ∧ (Nat.toDigits 10 m).head? = some '0') := by
    rintro ⟨hlen, hhead⟩
    rw [eq_zero_of_head_toDigits m hhead, Nat.toDigits_zero] at hlen
    simp at hlen
  simp only [readUnsigned, hds.takeWhile, hds.dropWhile, hds.not_isEmpty, hacc]
  simp [hnolead, numberEnd]

/-- The decimal text of a 64-bit signed integer is read as that integer. -/
theorem numberReading_intText {n : Int} (hlo : -(2 ^ 63 : Int) ≤ n) (hhi : n < 2 ^ 63) :
    numberReading (toString n).toList = some (.int n) := by
  cases n with
  | ofNat m =>
    have hm : m < 2 ^ 64 := by
      rw [Int.ofNat_eq_natCast] at hhi
      omega
    obtain ⟨d, r, hdr, hd⟩ := toDigits_eq_cons m
    simp only [Int.toString_eq_repr, Int.repr, Nat.toList_repr, numberReading]
    rw [hdr, readNumber_of_digit hd, ← hdr, readUnsigned_toDigits false hm]
    rfl
  | negSucc m =>
    have hm : m + 1 ≤ 2 ^ 63 := by
      rw [Int.negSucc_eq] at hlo
      omega
    simp only [Int.toString_eq_repr, Int.repr, String.toList_append, Nat.toList_repr, numberReading,
      show "-".toList = ['-'] from rfl, List.singleton_append, readNumber]
    rw [readUnsigned_toDigits true (by omega)]
    have hcond : ((m.succ != 0) && decide (m.succ ≤ 0x8000000000000000)) = true := by
      rw [Bool.and_eq_true, bne_iff_ne, decide_eq_true_eq]
      exact ⟨Nat.succ_ne_zero m, hm⟩
    have hneg : -((m + 1 : Nat) : Int) = Int.negSucc m := by
      rw [Int.negSucc_eq]
      omega
    simp only [integerOrFloat, Bool.not_true, Bool.false_eq_true, if_false, hcond, if_true,
      toOption_ok, Option.map_some, hneg]

/-! ## Objects as they are written -/

/-- An opening brace starts an object, unless nesting has reached its limit. -/
theorem readValue_brace (rest : List Char) (fuel depth : Nat) :
    readValue ('{' :: rest) (fuel + 1) depth =
      if depth ≤ 1 then failAt "recursion limit exceeded" ('{' :: rest)
      else readFields [] rest fuel (depth - 1) := by
  simp only [readValue, skipBlank_cons (c := '{') rfl, show ('{' == '{') = true from rfl,
    Bool.true_or, if_true]

/-- An empty object is closed at once. -/
theorem readFields_close (rest : List Char) (fuel depth : Nat) :
    readFields [] ('}' :: rest) (fuel + 1) depth = .ok (.obj [], rest) := by
  simp [readFields, skipBlank_cons (c := '}') rfl]

section Field

variable {acc : List (String × Json)} {k : String} {t : List Char} {fuel depth : Nat}
  {o : Option Json}

/-- A field whose value is followed by a comma: the fields after it are read next. -/
theorem readFields_comma {more : List Char}
    (hv : (readValue (t ++ ',' :: more) fuel depth).toOption = o.map (·, ',' :: more)) :
    (readFields acc ((quote k).toList ++ ':' :: (t ++ ',' :: more)) (fuel + 1) depth).toOption =
      o.bind fun j => (readFields ((k, j) :: acc) more fuel depth).toOption := by
  rw [toList_quote]
  simp only [List.cons_append, List.append_assoc, readFields, skipBlank_cons (c := '"') rfl]
  rw [readStringBody_quoted]
  simp only [List.nil_append, skipBlank_cons (c := ':') rfl]
  cases hread : readValue (t ++ ',' :: more) fuel depth with
  | error e =>
    rw [hread] at hv
    cases o <;> simp_all
  | ok p =>
    rw [hread] at hv
    cases o with
    | none => simp at hv
    | some j =>
      simp only [toOption_ok, Option.map_some, Option.some.injEq] at hv
      subst hv
      simp [skipBlank_cons (c := ',') rfl]

/-- The last field, followed by the closing brace, ends the object. -/
theorem readFields_last {tail : List Char}
    (hv : (readValue (t ++ '}' :: tail) fuel depth).toOption = o.map (·, '}' :: tail)) :
    (readFields acc ((quote k).toList ++ ':' :: (t ++ '}' :: tail)) (fuel + 1) depth).toOption =
      o.map fun j => (.obj ((k, j) :: acc).reverse, tail) := by
  rw [toList_quote]
  simp only [List.cons_append, List.append_assoc, readFields, skipBlank_cons (c := '"') rfl]
  rw [readStringBody_quoted]
  simp only [List.nil_append, skipBlank_cons (c := ':') rfl]
  cases hread : readValue (t ++ '}' :: tail) fuel depth with
  | error e =>
    rw [hread] at hv
    cases o <;> simp_all
  | ok p =>
    rw [hread] at hv
    cases o with
    | none => simp at hv
    | some j =>
      simp only [toOption_ok, Option.map_some, Option.some.injEq] at hv
      subst hv
      simp [skipBlank_cons (c := '}') rfl]

end Field

end Json

end AssetBroker
