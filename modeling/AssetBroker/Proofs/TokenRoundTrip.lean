import AssetBroker.Manager.Token
import Mathlib

/-!
# Catalog tokens read back what was written

A catalog state persists as `{"id":<n>,"parent":<m>|null}`. Main statement:
reading the token written for any state number and any optional parent, over
the whole unsigned 64-bit range, gives them back (`Token.read_write`).

The token reader is a state monad over a cursor that also counts the bytes
consumed. `Reads r input v rest` says that `r` reads `input` to `v` and leaves
`rest`, whatever the count started at; readers are chained by `Reads.bind`,
and each step of the record (a key, a number, `null`, the closing brace) has
its own lemma. Numbers go through the plain JSON reader, whose digit
accumulator is shown to take a 64-bit decimal text whole.
-/

namespace AssetBroker

namespace Json

/-! ## Decimal numbers -/

theorem overflows_iff {acc d : Nat} (hd : d ≤ 9) :
    overflows acc d = true ↔ accumulatorMax < acc * 10 + d := by
  simp [overflows, accumulatorMax]
  omega

theorem le_ofDigitChars (cs : List Char) (acc : Nat) : acc ≤ Nat.ofDigitChars 10 cs acc := by
  rw [Nat.ofDigitChars_eq_ofDigitChars_zero]
  have hpow : 1 ≤ 10 ^ cs.length := Nat.one_le_pow cs.length 10 (by decide)
  have : acc ≤ 10 ^ cs.length * acc := Nat.le_mul_of_pos_left acc hpow
  omega

theorem digit_le_nine {c : Char} (hc : c.isDigit = true) : c.toNat - '0'.toNat ≤ 9 := by
  simp only [Char.isDigit, Bool.and_eq_true, decide_eq_true_eq, UInt32.le_iff_toNat_le] at hc
  simp only [Char.toNat]
  have : '9'.val.toNat = 57 := rfl
  have : '0'.val.toNat = 48 := rfl
  omega

/-- Digits whose value fits the accumulator are all taken. -/
theorem accumulate_of_le {cs : List Char} {acc : Nat} (hdigits : ∀ c ∈ cs, c.isDigit = true)
    (hle : Nat.ofDigitChars 10 cs acc ≤ accumulatorMax) :
    accumulate acc cs = (Nat.ofDigitChars 10 cs acc, cs.length) := by
  induction cs generalizing acc with
  | nil => simp [accumulate, Nat.ofDigitChars]
  | cons c cs ih =>
    have hd := digit_le_nine (hdigits c List.mem_cons_self)
    rw [Nat.ofDigitChars_cons] at hle
    -- the value only grows with later digits, so this digit fits too
    have hfits : ¬ accumulatorMax < acc * 10 + (c.toNat - '0'.toNat) := by
      have := le_ofDigitChars cs (10 * acc + (c.toNat - '0'.toNat))
      omega
    have hno : overflows acc (c.toNat - '0'.toNat) = false := by
      rw [← Bool.not_eq_true, overflows_iff hd]
      exact hfits
    rw [Nat.mul_comm] at hle
    simp only [accumulate, hno, Bool.false_eq_true, if_false,
      ih (fun c' hc' => hdigits c' (List.mem_cons_of_mem _ hc')) hle, Nat.ofDigitChars_cons,
      Nat.mul_comm, List.length_cons]

/-- The decimal text of a number starts with `0` only when it is `0`. -/
theorem eq_zero_of_head_toDigits (n : Nat) (h : (Nat.toDigits 10 n).head? = some '0') : n = 0 := by
  induction n using Nat.strongRecOn with
  | _ n ih =>
    rw [Nat.toDigits_eq_if (by decide)] at h
    split at h
    · simpa using h
    · rename_i hn
      have hne : Nat.toDigits 10 (n / 10) ≠ [] := Nat.toDigits_ne_nil
      rw [List.head?_append, Option.or_of_isSome (by simp [hne])] at h
      have := ih (n / 10) (by omega) h
      omega

/-- A decimal text starts with a digit. -/
theorem toDigits_eq_cons (n : Nat) : ∃ d ds, Nat.toDigits 10 n = d :: ds ∧ d.isDigit = true := by
  obtain ⟨d, ds, hds⟩ := List.exists_cons_of_ne_nil (Nat.toDigits_ne_nil (n := n) (b := 10))
  exact ⟨d, ds, hds, Nat.isDigit_of_mem_toDigits (by decide) (by decide) (hds ▸ List.mem_cons_self)⟩

/-- What may follow a number without changing how it is read. -/
def EndsNumber (c : Char) : Prop := c.isDigit = false ∧ c ≠ '.' ∧ c ≠ 'e' ∧ c ≠ 'E'

instance : DecidablePred EndsNumber := fun _ => inferInstanceAs (Decidable (_ ∧ _))

/-- The decimal text of a 64-bit number, ended by a character that cannot
continue it, reads as that integer. -/
theorem readNumber_toDigits {n : Nat} (hn : n < 2 ^ 64) {c : Char} (rest : List Char)
    (hc : EndsNumber c) : readNumber (Nat.toDigits 10 n ++ c :: rest) = .ok (.int n, c :: rest) := by
  obtain ⟨hdigit, hdot, he⟩ := hc
  have hdigits : ∀ d ∈ Nat.toDigits 10 n, d.isDigit = true :=
    fun d hd => Nat.isDigit_of_mem_toDigits (by decide) (by decide) hd
  have hwhole : (Nat.toDigits 10 n ++ c :: rest).takeWhile Char.isDigit = Nat.toDigits 10 n := by
    rw [List.takeWhile_append_of_pos hdigits]
    simp [hdigit]
  have hafter : (Nat.toDigits 10 n ++ c :: rest).dropWhile Char.isDigit = c :: rest := by
    rw [List.dropWhile_append_of_pos hdigits]
    simp [hdigit]
  have hacc : accumulate 0 (Nat.toDigits 10 n) = (n, (Nat.toDigits 10 n).length) := by
    rw [accumulate_of_le hdigits] <;> rw [Nat.ofDigitChars_ten_toDigits]
    simp only [accumulatorMax]
    omega
  obtain ⟨d, ds, hds, hd⟩ := toDigits_eq_cons n
  have hminus : d ≠ '-' := by
    rintro rfl
    revert hd
    decide
  have hnolead : ¬ (1 < (Nat.toDigits 10 n).length ∧ (Nat.toDigits 10 n).head? = some '0') := by
    rintro ⟨hlen, hhead⟩
    rw [eq_zero_of_head_toDigits n hhead, Nat.toDigits_zero] at hlen
    simp at hlen
  unfold readNumber
  -- the sign test looks at the first digit only
  rw [hds, List.cons_append]
  simp only [List.cons.injEq, hminus, false_and, imp_self, implies_true]
  rw [← List.cons_append, ← hds]
  simp only [readUnsigned, hwhole, hafter, hacc]
  simp [hdot, he, hnolead, numberEnd, integerOrFloat]

/-- A character a string body holds as it stands: no quote, no backslash and
no control character. -/
def plainChar (c : Char) : Bool := c != '"' && c != '\\' && decide (0x20 ≤ c.toNat)

/-- A string body of plain characters is read as it stands, up to its closing
quote. -/
theorem readStringBody_plain {key : List Char} (rest : List Char) (hkey : key.all plainChar = true) :
    ∀ (acc : List Char) (fuel : Nat), key.length < fuel →
      readStringBody acc (key ++ '"' :: rest) fuel =
        .ok (String.ofList (acc.reverse ++ key), rest) := by
  induction key with
  | nil =>
    intro acc fuel hfuel
    obtain ⟨f, rfl⟩ := Nat.exists_eq_add_one_of_ne_zero (Nat.pos_iff_ne_zero.1 hfuel)
    simp [readStringBody]
  | cons c key ih =>
    intro acc fuel hfuel
    obtain ⟨f, rfl⟩ := Nat.exists_eq_add_one_of_ne_zero
      (Nat.pos_iff_ne_zero.1 (Nat.lt_of_le_of_lt (Nat.zero_le _) hfuel))
    simp only [List.all_cons, Bool.and_eq_true] at hkey
    obtain ⟨hc, hkey⟩ := hkey
    simp only [plainChar, Bool.and_eq_true, bne_iff_ne, ne_eq, decide_eq_true_eq] at hc
    obtain ⟨⟨hquote, hslash⟩, hcontrol⟩ := hc
    have hrest := ih hkey (c :: acc) f (by simp only [List.length_cons] at hfuel; omega)
    simp only [List.cons_append, readStringBody, beq_iff_eq, hquote, hslash, if_false]
    rw [if_neg (by omega), hrest]
    simp

end Json

namespace Token

open Json

/-! ## Readers that succeed -/

/-- `r` reads `input` to `v` and leaves `rest`, whatever number of bytes was
consumed before. -/
def Reads {α : Type} (r : Reader α) (input : List Char) (v : α) (rest : List Char) : Prop :=
  ∀ k, ∃ k', r.run ⟨input, k⟩ = .ok (v, ⟨rest, k'⟩)

theorem Reads.bind {α β : Type} {r : Reader α} {f : α → Reader β} {i m o : List Char} {v : α}
    {w : β} (hr : Reads r i v m) (hf : Reads (f v) m w o) : Reads (r >>= f) i w o := by
  intro k
  obtain ⟨k₁, h₁⟩ := hr k
  obtain ⟨k₂, h₂⟩ := hf k₁
  refine ⟨k₂, ?_⟩
  change r ⟨i, k⟩ = _ at h₁
  show StateT.bind r f ⟨i, k⟩ = _
  unfold StateT.bind
  rw [h₁]
  exact h₂

/-- A reader that looks at the cursor and reads on from it. -/
theorem Reads.get_bind {β : Type} {f : Cursor → Reader β} {i o : List Char} {w : β}
    (h : ∀ k, Reads (f ⟨i, k⟩) i w o) : Reads (get >>= f) i w o := by
  intro k
  obtain ⟨k', hk⟩ := h k k
  exact ⟨k', hk⟩

theorem reads_pure {α : Type} (v : α) (i : List Char) : Reads (pure v) i v i :=
  fun k => ⟨k, rfl⟩

theorem reads_peek (i : List Char) : Reads peek? i i.head? i :=
  fun k => ⟨k, rfl⟩

theorem reads_eat (c : Char) (i : List Char) : Reads eat (c :: i) () i :=
  fun k => ⟨k + c.utf8Size, rfl⟩

theorem reads_skipBlank {c : Char} (i : List Char)
    (hc : (c == ' ' || c == '\t' || c == '\n' || c == '\r') = false) :
    Reads skipBlank (c :: i) () (c :: i) := by
  intro k
  refine ⟨k, ?_⟩
  simp [skipBlank, StateT.run, modify, modifyGet, MonadStateOf.modifyGet, StateT.modifyGet, hc,
    pure, Except.pure]

theorem reads_skipBlank_nil : Reads skipBlank [] () [] :=
  fun k => ⟨k, rfl⟩

theorem reads_plain {α : Type} {r : Json.Reader α} {i rest : List Char} {v : α}
    (h : r i = .ok (v, rest)) : Reads (plain r) i v rest := by
  intro k
  refine ⟨k + (Text.byteLength i - Text.byteLength rest), ?_⟩
  simp [plain, StateT.run, bind, StateT.bind, get, getThe, MonadStateOf.get, StateT.get, set,
    StateT.set, pure, StateT.pure, Except.bind, Except.pure, h]

theorem reads_keyword_ull (rest : List Char) :
    Reads (keyword ['u', 'l', 'l']) ('u' :: 'l' :: 'l' :: rest) () rest :=
  fun _ => ⟨_, rfl⟩

theorem reads_stringBody (key : List Char) (rest : List Char) (hkey : key.all plainChar = true) :
    Reads stringBody (key ++ '"' :: rest) (String.ofList key) rest := by
  refine reads_plain ?_
  rw [readStringBody_plain rest hkey [] _ (by simp only [List.length_append, List.length_cons]; omega)]
  rfl

/-! ## Numbers and `null` -/

theorem not_blank_of_isDigit {d : Char} (hd : d.isDigit = true) :
    (d == ' ' || d == '\t' || d == '\n' || d == '\r') = false := by
  simp only [Bool.or_eq_false_iff, beq_eq_false_iff_ne, ne_eq]
  refine ⟨⟨⟨?_, ?_⟩, ?_⟩, ?_⟩ <;> (rintro rfl; revert hd; decide)

theorem reads_unsigned (n : UInt64) {c : Char} (rest : List Char) (hc : EndsNumber c) :
    Reads unsigned (Nat.toDigits 10 n.toNat ++ c :: rest) n (c :: rest) := by
  obtain ⟨d, ds, hds, hd⟩ := toDigits_eq_cons n.toNat
  unfold unsigned
  rw [hds, List.cons_append]
  refine Reads.bind (reads_skipBlank _ (not_blank_of_isDigit hd)) ?_
  refine Reads.bind (reads_peek _) ?_
  simp only [List.head?_cons, hd, Bool.or_true, if_true]
  rw [← List.cons_append, ← hds]
  refine Reads.bind (reads_plain (readNumber_toDigits n.toNat_lt rest hc)) ?_
  have hback : ((n.toNat : Int).toNat).toUInt64 = n := by simp
  simp only [Int.natCast_nonneg, if_true, hback]
  exact reads_pure n _

def parentChars : Option UInt64 → List Char
  | some p => Nat.toDigits 10 p.toNat
  | none => ['n', 'u', 'l', 'l']

theorem reads_optionalUnsigned (parent : Option UInt64) (rest : List Char) :
    Reads optionalUnsigned (parentChars parent ++ '}' :: rest) parent ('}' :: rest) := by
  unfold optionalUnsigned
  cases parent with
  | none =>
    refine Reads.bind (reads_skipBlank _ (by decide)) ?_
    refine Reads.bind (reads_peek _) ?_
    refine Reads.bind (reads_eat _ _) ?_
    exact Reads.bind (reads_keyword_ull _) (reads_pure _ _)
  | some p =>
    obtain ⟨d, ds, hds, hd⟩ := toDigits_eq_cons p.toNat
    have hn : d ≠ 'n' := by
      rintro rfl
      revert hd
      decide
    simp only [parentChars]
    rw [hds, List.cons_append]
    refine Reads.bind (reads_skipBlank _ (not_blank_of_isDigit hd)) ?_
    refine Reads.bind (reads_peek _) ?_
    -- a digit is not the `n` of `null`
    simp only [List.head?_cons, Option.some.injEq, hn, imp_self]
    rw [← List.cons_append, ← hds]
    exact Reads.bind (reads_unsigned p rest (by decide)) (reads_pure _ _)

/-! ## The record's fields -/

/-- The `id` field, read first, then the fields after it. -/
theorem reads_fields_id (id : UInt64) (c : Char) (hc : EndsNumber c) (fuel : Nat)
    (rest out : List Char) {v : UInt64 × Option UInt64}
    (hnext : Reads (fields (some id) none false fuel) (c :: rest) v out) :
    Reads (fields none none true (fuel + 1))
      ('"' :: 'i' :: 'd' :: '"' :: ':' :: (Nat.toDigits 10 id.toNat ++ c :: rest)) v out := by
  rw [fields]
  refine Reads.bind (reads_skipBlank _ (by decide)) ?_
  refine Reads.bind (reads_peek _) ?_
  simp only [List.head?_cons]
  refine Reads.bind (reads_pure _ _) ?_
  refine Reads.bind (reads_peek _) ?_
  simp only [List.head?_cons]
  refine Reads.bind (reads_eat _ _) ?_
  refine Reads.bind (reads_stringBody ['i', 'd'] _ rfl) ?_
  have hid : String.ofList ['i', 'd'] = "id" := rfl
  have hne : ("id" == "parent") = false := by decide
  -- neither key has been read, so this one is no repeat
  simp only [hid, hne, beq_self_eq_true, Option.isSome_none, Bool.and_false, Bool.or_false,
    Bool.false_eq_true, if_false, if_true]
  refine Reads.bind (reads_skipBlank _ (by decide)) ?_
  refine Reads.bind (reads_peek _) ?_
  simp only [List.head?_cons]
  refine Reads.bind (reads_eat _ _) ?_
  exact Reads.bind (reads_unsigned id rest hc) hnext

/-- The `parent` field after the `id` field, then the fields after it. -/
theorem reads_fields_parent (id : UInt64) (parent : Option UInt64) (fuel : Nat)
    (rest out : List Char) {v : UInt64 × Option UInt64}
    (hnext : Reads (fields (some id) (some parent) false fuel) ('}' :: rest) v out) :
    Reads (fields (some id) none false (fuel + 1))
      (',' :: '"' :: 'p' :: 'a' :: 'r' :: 'e' :: 'n' :: 't' :: '"' :: ':' ::
        (parentChars parent ++ '}' :: rest)) v out := by
  rw [fields]
  refine Reads.bind (reads_skipBlank _ (by decide)) ?_
  refine Reads.bind (reads_peek _) ?_
  simp only [List.head?_cons]
  refine Reads.bind (reads_eat _ _) ?_
  refine Reads.bind (reads_skipBlank _ (by decide)) ?_
  refine Reads.bind (reads_pure _ _) ?_
  refine Reads.bind (reads_peek _) ?_
  simp only [List.head?_cons]
  refine Reads.bind (reads_eat _ _) ?_
  refine Reads.bind (reads_stringBody ['p', 'a', 'r', 'e', 'n', 't'] _ rfl) ?_
  have hparent : String.ofList ['p', 'a', 'r', 'e', 'n', 't'] = "parent" := rfl
  have hne : ("parent" == "id") = false := by decide
  -- `parent` has not been read yet, so this one is no repeat
  simp only [hparent, hne, beq_self_eq_true, Option.isSome_none, Bool.and_false, Bool.false_and,
    Bool.or_false, Bool.false_eq_true, if_false, if_true]
  refine Reads.bind (reads_skipBlank _ (by decide)) ?_
  refine Reads.bind (reads_peek _) ?_
  simp only [List.head?_cons]
  refine Reads.bind (reads_eat _ _) ?_
  exact Reads.bind (reads_optionalUnsigned parent rest) hnext

/-- The closing brace, once `id` has been read. -/
theorem reads_fields_close (id : UInt64) (parent : Option (Option UInt64)) (fuel : Nat)
    (rest : List Char) :
    Reads (fields (some id) parent false (fuel + 1)) ('}' :: rest) (id, parent.getD none) rest := by
  rw [fields]
  refine Reads.bind (reads_skipBlank _ (by decide)) ?_
  refine Reads.bind (reads_peek _) ?_
  simp only [List.head?_cons]
  refine Reads.bind (reads_pure _ _) ?_
  refine Reads.bind (reads_eat _ _) ?_
  exact reads_pure _ _

/-! ## Whole tokens -/

theorem toList_write (id : UInt64) (parent : Option UInt64) :
    (write id parent).toList =
      '{' :: '"' :: 'i' :: 'd' :: '"' :: ':' :: (Nat.toDigits 10 id.toNat ++
        ',' :: '"' :: 'p' :: 'a' :: 'r' :: 'e' :: 'n' :: 't' :: '"' :: ':' ::
          (parentChars parent ++ ['}'])) := by
  have hnum (n : UInt64) : (toString n).toList = Nat.toDigits 10 n.toNat := by
    show (toString n.toNat).toList = _
    simp [toString, Nat.repr]
  cases parent <;> simp [write, parentChars, hnum]

theorem reads_record (id : UInt64) (parent : Option UInt64) :
    Reads record (write id parent).toList (id, parent) [] := by
  unfold record
  rw [toList_write]
  refine Reads.bind (reads_skipBlank _ (by decide)) ?_
  refine Reads.bind (reads_peek _) ?_
  simp only [List.head?_cons]
  refine Reads.bind (reads_eat _ _) (Reads.get_bind fun _ => ?_)
  -- the fuel is the length of the text after the brace, enough for the three fields' steps
  simp only [List.length_cons]
  refine Reads.bind (reads_fields_id id ',' (by decide) _ _ _
    (reads_fields_parent id parent _ _ _ (reads_fields_close id (some parent) _ _))) ?_
  refine Reads.bind reads_skipBlank_nil ?_
  refine Reads.bind (reads_peek _) ?_
  exact reads_pure _ _

/-- Reading the token written for a state gives back its number and its
parent's, for every pair of unsigned 64-bit numbers. -/
theorem read_write (id : UInt64) (parent : Option UInt64) :
    read (write id parent) = .ok (id, parent) := by
  obtain ⟨_, h⟩ := reads_record id parent 0
  unfold read
  rw [h]

theorem write_ne_empty (id : UInt64) (parent : Option UInt64) : write id parent ≠ "" := by
  intro h
  have := congrArg String.toList h
  simp [toList_write] at this

end Token

end AssetBroker
