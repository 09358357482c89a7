import AssetBroker.CommandLine.Program
import AssetBroker.Proofs.TraitsCanonical
import Mathlib

/-!
# What the query commands print, and how they end

`resolve` and `exists` first check every text with the manager; the first
text it does not recognise stops the command with an input error naming
that text, before anything is printed or asked of the manager. Otherwise
they make a reading context and send all references in one batch, each
element's outcome returned in place (elements that received nothing count
as `unknown`).

From the outcomes, in input order: `exists` prints a line
`<reference>\t<true|false>` per element that succeeded, `resolve` prints
one object mapping each resolved reference to its traits data (a reference
given twice keeps its last resolution), and each failed element is
reported on its own line. The command fails with the first failed element
by index, not by the order the manager reported in, and the process exits
with that element's code, between 128 and 134; any other failure exits
with 1.
-/

namespace AssetBroker

namespace Query

open Session

variable {α : Type}

/-! ## Checking the texts -/

/-- The input error naming a text the manager does not recognise. -/
def refusal (b : Backend) (t : String) : BrokerError :=
  .invalidInput ("'" ++ t ++ "' is not a valid entity reference for manager '" ++ b.identifier ++ "'")

theorem run_createEntityReference (t : String) (s : Session) :
    (createEntityReference t).run s =
      (if s.backend.isEntityReferenceString t then .ok t else .error (refusal s.backend t), s) := by
  by_cases h : s.backend.isEntityReferenceString t <;> simp [createEntityReference, refusal, h] <;> rfl

/-- The checking loop keeps the texts the manager accepts, up to the first
it refuses, whose refusal ends the loop; the session is left as it was. -/
theorem run_forIn_references
    {f : String → Option (Except BrokerError (List String)) × List String →
      Act (ForInStep (Option (Except BrokerError (List String)) × List String))}
    (hf : ∀ t r s, (f t r).run s =
      (if s.backend.isEntityReferenceString t then ForInStep.yield (none, r.2 ++ [t])
        else ForInStep.done (some (.error (refusal s.backend t)), r.2), s))
    (s : Session) (texts acc : List String) :
    (forIn texts (none, acc) f).run s =
      (((texts.find? fun t => !s.backend.isEntityReferenceString t).map fun t =>
          .error (refusal s.backend t),
        acc ++ texts.takeWhile fun t => s.backend.isEntityReferenceString t), s) := by
  induction texts generalizing acc with
  | nil => simp; rfl
  | cons t texts ih =>
    rw [List.forIn_cons, StateT.run_bind, hf]
    by_cases h : s.backend.isEntityReferenceString t
    · -- an accepted text is kept, and the loop goes on
      simp only [h, if_true]
      refine (ih (acc ++ [t])).trans ?_
      simp [h]
    · -- the first refused text ends the loop with its refusal
      simp only [h]
      show ((some (Except.error _), acc), s) = _
      simp [h]

/-- Checking the texts answers the first refusal, or all texts. -/
theorem run_references (texts : List String) (s : Session) :
    (references texts).run s =
      (match texts.find? (fun t => !s.backend.isEntityReferenceString t) with
        | some t => .error (refusal s.backend t)
        | none => .ok texts, s) := by
  unfold references
  simp only [StateT.run_bind]
  rw [run_forIn_references ?hf]
  · cases hfind : texts.find? (fun t => !s.backend.isEntityReferenceString t) with
    | some t => rfl
    | none =>
      -- every text is accepted, so all of them were kept
      have hall : texts.takeWhile (fun t => s.backend.isEntityReferenceString t) = texts := by
        rw [List.takeWhile_eq_self_iff]
        intro t ht
        simpa using List.find?_eq_none.1 hfind t ht
      simp only [Option.map_none, List.nil_append, hall]
      rfl
  case hf =>
    intro t r s
    simp only [StateT.run_bind, run_createEntityReference]
    split <;> rfl

theorem find?_first_refused {accepts : String → Bool} {texts : List String} {i : Nat}
    (hi : i < texts.length) (hrefused : accepts texts[i] = false)
    (hbefore : ∀ j (hj : j < i), accepts texts[j] = true) :
    texts.find? (fun t => !accepts t) = some texts[i] :=
  List.find?_eq_some_iff_getElem.2 ⟨by simpa using hrefused, i, hi, rfl,
    fun j hj => by simpa using hbefore j hj⟩

/-! ## Asking the manager -/

/-- Binding a plain value in the identity monad applies the continuation. -/
theorem id_bind_eq {β γ : Type} (x : β) (f : β → Id γ) : (x >>= f : Id γ) = f x := rfl

/-- A refused text stops a query before the manager is asked anything, and
leaves the session as it was. -/
theorem run_gatherOutcomes_of_refused (texts : List String) (call : List String → Act (Ran α)) (s : Session)
    {t : String} (ht : texts.find? (fun t => !s.backend.isEntityReferenceString t) = some t) :
    (gatherOutcomes texts call).run s = (.error (refusal s.backend t), s) := by
  simp only [gatherOutcomes, StateT.run_bind, run_references, ht]
  rfl

/-- With every text accepted, a context made and the batch answered as a
whole, a query pairs each reference with its outcome, in input order. -/
theorem run_gatherOutcomes (texts : List String) (call : List String → Act (Ran α)) (s : Session)
    (hall : ∀ t ∈ texts, s.backend.isEntityReferenceString t = true) {c : Context} {s₁ : Session}
    (hc : createContext.run s = (.ok c, s₁)) {ds : List (Delivery α)} {s₂ : Session}
    (hcall : (call texts).run s₁ = ((ds, .ok ()), s₂)) :
    (gatherOutcomes texts call).run s = (.ok (texts.zip (Delivery.outcomes texts.length ds)), s₂) := by
  have hrefs := run_references texts s
  rw [List.find?_eq_none.2 fun t ht => by simp [hall t ht]] at hrefs
  simp only [gatherOutcomes, StateT.run_bind, hrefs, id_bind_eq, hc, hcall]
  rfl

/-! ## The first failed element -/

/-- Element `i` failed with `e`, and every element before it succeeded. -/
def FirstFailed (outs : List (Except ElementError α)) (i : Nat) (e : ElementError) : Prop :=
  outs[i]? = some (.error e) ∧ ∀ j < i, ∃ v, outs[j]? = some (.ok v)

theorem FirstFailed.not_all_ok {outs : List (Except ElementError α)} {i : Nat} {e : ElementError}
    (h : FirstFailed outs i e) : ¬ ∀ o ∈ outs, ∃ v, o = .ok v := fun hall => by
  obtain ⟨v, hv⟩ := hall _ (List.mem_of_getElem? h.1)
  cases hv

/-- At most one element is the first to fail. -/
theorem FirstFailed.unique {outs : List (Except ElementError α)} {i i' : Nat} {e e' : ElementError}
    (h : FirstFailed outs i e) (h' : FirstFailed outs i' e') : i = i' ∧ e = e' := by
  rcases Nat.lt_trichotomy i i' with hlt | rfl | hgt
  · obtain ⟨v, hv⟩ := h'.2 i hlt
    simp [h.1] at hv
  · have he := h.1.symm.trans h'.1
    simp only [Option.some.injEq, Except.error.injEq] at he
    exact ⟨rfl, he⟩
  · obtain ⟨v, hv⟩ := h.2 i' hgt
    simp [h'.1] at hv

/-- The search behind the command's result finds nothing exactly when no
element failed, and otherwise the first failed element. -/
theorem firstFailure_cases (pairs : List (String × Except ElementError α)) :
    (firstFailure pairs = .ok () ∧ ∀ o ∈ pairs.map (·.2), ∃ v, o = .ok v) ∨
      ∃ i e, firstFailure pairs = .error (.batchElement i e) ∧ FirstFailed (pairs.map (·.2)) i e := by
  unfold firstFailure
  generalize hfind : List.find? _ pairs.zipIdx = found
  rcases found with _ | ⟨⟨r, _ | v⟩, i⟩
  · -- no element failed, or the search would have stopped at it
    refine .inl ⟨rfl, fun o ho => ?_⟩
    obtain ⟨⟨r, o⟩, hp, rfl⟩ := List.mem_map.1 ho
    obtain ⟨k, hk⟩ := List.mem_iff_getElem?.1 hp
    have hskip := List.find?_eq_none.1 hfind _ (List.mk_mem_zipIdx_iff_getElem?.2 hk)
    cases o with
    | ok v => exact ⟨v, rfl⟩
    | error e => simp at hskip
  · -- the search stops at the first element whose outcome is an error
    rename_i e
    obtain ⟨-, k, hk, hget, hbefore⟩ := List.find?_eq_some_iff_getElem.1 hfind
    rw [List.getElem_zipIdx] at hget
    simp only [Prod.mk.injEq, Nat.zero_add] at hget
    obtain ⟨hpk, rfl⟩ := hget
    have hk' : k < pairs.length := by simpa using hk
    refine .inr ⟨k, e, rfl, by simp [hk', hpk], fun j hj => ?_⟩
    have hj' : j < pairs.length := by omega
    have hskip := hbefore j hj
    rw [List.getElem_zipIdx] at hskip
    rw [List.getElem?_map, List.getElem?_eq_getElem hj']
    generalize pairs[j] = q at hskip
    obtain ⟨r', o⟩ := q
    cases o with
    | ok v => exact ⟨v, rfl⟩
    | error e' => simp at hskip
  · -- the search only stops at a failed element
    have hsat := List.find?_some hfind
    simp at hsat

/-- The command's result is success exactly when no element failed, and
otherwise the first failed element by index, with its error. -/
theorem firstFailure_spec (pairs : List (String × Except ElementError α)) :
    (firstFailure pairs = .ok () ↔ ∀ o ∈ pairs.map (·.2), ∃ v, o = .ok v) ∧
      (∀ i e, firstFailure pairs = .error (.batchElement i e) ↔ FirstFailed (pairs.map (·.2)) i e) ∧
      (∀ err, firstFailure pairs = .error err → ∃ i e, err = .batchElement i e) := by
  rcases firstFailure_cases pairs with ⟨hok, hall⟩ | ⟨i, e, hfail, hfirst⟩
  · refine ⟨iff_of_true hok hall, fun i e => ?_, fun err h => ?_⟩
    · rw [hok]
      exact iff_of_false (by simp) fun hf => hf.not_all_ok hall
    · rw [hok] at h
      cases h
  · refine ⟨?_, fun i' e' => ?_, fun err h => ⟨i, e, ?_⟩⟩
    · rw [hfail]
      exact iff_of_false (by simp) hfirst.not_all_ok
    · rw [hfail]
      constructor
      · intro h
        simp only [Except.error.injEq, BrokerError.batchElement.injEq] at h
        obtain ⟨rfl, rfl⟩ := h
        exact hfirst
      · intro h'
        obtain ⟨rfl, rfl⟩ := hfirst.unique h'
        rfl
    · rw [hfail] at h
      cases h
      rfl

/-- Each failed element, and only those, gets a line on the error stream. -/
theorem mem_failureLines {pairs : List (String × Except ElementError α)} {l : String} :
    l ∈ failureLines pairs ↔ ∃ r e, (r, .error e) ∈ pairs ∧ l = failureLine r e := by
  unfold failureLines
  rw [List.mem_filterMap]
  constructor
  · rintro ⟨⟨r, o⟩, hmem, h⟩
    cases o with
    | ok v => cases h
    | error e => exact ⟨r, e, hmem, (Option.some.inj h).symm⟩
  · rintro ⟨r, e, hmem, rfl⟩
    exact ⟨(r, .error e), hmem, rfl⟩

/-- What a query reports about the outcomes `outs` of its references `texts`:
a line on the error stream for each failed element, and as its result the
first failed element by index, or success when none failed. -/
structure Reports (texts : List String) (outs : List (Except ElementError α)) (p : Printed) : Prop where
  failures : ∀ l, l ∈ p.err ↔ ∃ r e, (r, .error e) ∈ texts.zip outs ∧ l = failureLine r e
  ok_iff : p.result = .ok () ↔ ∀ o ∈ outs, ∃ v, o = .ok v
  first_iff : ∀ i e, p.result = .error (.batchElement i e) ↔ FirstFailed outs i e
  element : ∀ err, p.result = .error err → ∃ i e, err = .batchElement i e

/-- A query that reports its outcomes through `failureLines` and
`firstFailure` reports them as `Reports` says. -/
theorem reports_of_outcomes (texts : List String) {outs : List (Except ElementError α)}
    (hlen : outs.length = texts.length) (out : String) :
    Reports texts outs { out, err := failureLines (texts.zip outs), result := firstFailure (texts.zip outs) } := by
  have houts : (texts.zip outs).map (·.2) = outs := List.map_snd_zip (by omega)
  obtain ⟨hok, hfirst, helem⟩ := firstFailure_spec (texts.zip outs)
  rw [houts] at hok hfirst
  exact ⟨fun _ => mem_failureLines, hok, hfirst, helem⟩

theorem length_outcomes (n : Nat) (ds : List (Delivery α)) : (Delivery.outcomes n ds).length = n := by
  simp [Delivery.outcomes]

/-! ## The printed results -/

/-- The last value `r` was resolved to among the outcomes, if any. -/
def lastResolved (pairs : List (String × Except ElementError α)) (r : String) : Option α :=
  (pairs.filterMap fun p => if p.1 = r then p.2.toOption else none).getLast?

theorem lastResolved_append_singleton (pairs : List (String × Except ElementError α))
    (r' : String) (o : Except ElementError α) (r : String) :
    lastResolved (pairs ++ [(r', o)]) r = (if r' = r then o.toOption else none).or (lastResolved pairs r) := by
  unfold lastResolved
  rw [List.filterMap_append, List.getLast?_append]
  by_cases h : r' = r <;> cases o <;> simp [h, Except.toOption]

/-- Folding the outcomes into a map, inserting each value under its
reference, keeps the map sorted and leaves under each reference its last
value. -/
theorem foldl_resolved {β : Type} (g : α → β)
    {f : List (String × β) → String × Except ElementError α → List (String × β)}
    (hok : ∀ m r v, f m (r, .ok v) = Keyed.insert r (g v) m) (herr : ∀ m r e, f m (r, .error e) = m)
    (pairs : List (String × Except ElementError α)) :
    Keyed.Sorted (pairs.foldl f []) ∧ ∀ r, Keyed.find? r (pairs.foldl f []) = (lastResolved pairs r).map g := by
  induction pairs using List.reverseRecOn with
  | nil => simp [Keyed.Sorted, Keyed.keys, lastResolved, Keyed.find?]
  | append_singleton pairs p ih =>
    obtain ⟨hsorted, hfind⟩ := ih
    obtain ⟨r', o⟩ := p
    rw [List.foldl_append, List.foldl_cons, List.foldl_nil]
    cases o with
    | ok v =>
      rw [hok]
      refine ⟨Keyed.keys_insert_sorted hsorted, fun r => ?_⟩
      rw [Keyed.find?_insert, lastResolved_append_singleton, hfind]
      by_cases h : r = r'
      · simp [h, Except.toOption]
      · simp [h, Ne.symm h]
    | error e =>
      rw [herr]
      refine ⟨hsorted, fun r => ?_⟩
      rw [lastResolved_append_singleton, hfind]
      simp [Except.toOption]

/-- Keeping a value, through `line`, for each element that succeeded. -/
theorem filterMap_of_toOption {β : Type} {f : String × Except ElementError α → Option β}
    (line : String → α → β) (hf : ∀ r o, f (r, o) = o.toOption.map (line r))
    (pairs : List (String × Except ElementError α)) :
    pairs.filterMap f = pairs.filterMap fun q => q.2.toOption.map (line q.1) :=
  List.filterMap_congr fun ⟨r, o⟩ _ => hf r o

/-! ## The two commands -/

theorem run_existence_of_refused (texts : List String) (s : Session) {t : String}
    (ht : texts.find? (fun t => !s.backend.isEntityReferenceString t) = some t) :
    (existence texts).run s = ({ result := .error (refusal s.backend t) }, s) := by
  simp only [existence, StateT.run_bind, run_gatherOutcomes_of_refused texts _ s ht, id_bind_eq]
  rfl

theorem run_resolution_of_refused (texts : List String) (traits : TraitSet) (s : Session) {t : String}
    (ht : texts.find? (fun t => !s.backend.isEntityReferenceString t) = some t) :
    (resolution texts traits).run s = ({ result := .error (refusal s.backend t) }, s) := by
  simp only [resolution, StateT.run_bind, run_gatherOutcomes_of_refused texts _ s ht, id_bind_eq]
  rfl

section Answered

variable {texts : List String} {s s₁ s₂ : Session} {c : Context}

/-- The existence check prints, in input order, a line for each element
that succeeded, and reports the failed ones. -/
theorem run_existence (hall : ∀ t ∈ texts, s.backend.isEntityReferenceString t = true)
    (hc : createContext.run s = (.ok c, s₁)) {ds : List (Delivery Bool)}
    (hcall : (entityExists texts false).run s₁ = ((ds, .ok ()), s₂)) :
    (existence texts).run s =
      ({ out := String.join ((texts.zip (Delivery.outcomes texts.length ds)).filterMap fun q =>
            q.2.toOption.map fun b => q.1 ++ "\t" ++ toString b ++ "\n"),
         err := failureLines (texts.zip (Delivery.outcomes texts.length ds)),
         result := firstFailure (texts.zip (Delivery.outcomes texts.length ds)) }, s₂) := by
  simp only [existence, StateT.run_bind,
    run_gatherOutcomes texts (fun refs => entityExists refs false) s hall hc hcall, id_bind_eq]
  rw [filterMap_of_toOption (fun r b => r ++ "\t" ++ toString b ++ "\n") ?lines]
  · rfl
  case lines =>
    intro r o
    cases o with
    | error e => rfl
    | ok b => cases b <;> rfl

/-- Resolution prints one object holding, under each resolved reference,
the traits data of its last resolution, and reports the failed elements. -/
theorem run_resolution (traits : TraitSet) (hall : ∀ t ∈ texts, s.backend.isEntityReferenceString t = true)
    (hc : createContext.run s = (.ok c, s₁)) {ds : List (Delivery TraitsData)}
    (hcall : (resolve texts traits false).run s₁ = ((ds, .ok ()), s₂)) :
    ∃ m : List (String × Json), Keyed.Sorted m ∧
      (∀ r, Keyed.find? r m = (lastResolved (texts.zip (Delivery.outcomes texts.length ds)) r).map
        TraitsData.toJson) ∧
      (resolution texts traits).run s =
        ({ out := (Json.obj m).pretty ++ "\n", err := failureLines (texts.zip (Delivery.outcomes texts.length ds)),
           result := firstFailure (texts.zip (Delivery.outcomes texts.length ds)) }, s₂) := by
  simp only [resolution, StateT.run_bind,
    run_gatherOutcomes texts (fun refs => resolve refs traits false) s hall hc hcall, id_bind_eq]
  refine ⟨_, ?_, ?_, rfl⟩
  · refine (foldl_resolved TraitsData.toJson ?_ ?_ _).1 <;> intros <;> rfl
  · refine (foldl_resolved TraitsData.toJson ?_ ?_ _).2 <;> intros <;> rfl

end Answered

end Query

/-! ## Exit status -/

theorem ErrorCode.value_bounds (c : ErrorCode) : 128 ≤ c.value ∧ c.value ≤ 134 := by
  cases c <;> decide

namespace CommandLine

/-- A failed element ends the process with its error's code. -/
theorem exitStatus_batchElement (i : Nat) (e : ElementError) :
    exitStatus (.batchElement i e) = e.code.value := by
  have hle : (BrokerError.batchElement i e).exitCode ≤ 255 := by
    have := (ErrorCode.value_bounds e.code).2
    simp only [BrokerError.exitCode]
    omega
  rw [exitStatus, if_pos hle]
  rfl

/-- Every other error ends the process with 1. -/
theorem exitStatus_of_not_batchElement {err : BrokerError} (h : ∀ i e, err ≠ .batchElement i e) :
    exitStatus err = 1 := by
  cases err with
  | batchElement i e => exact absurd rfl (h i e)
  | _ => rfl

end CommandLine

namespace Query

open Session

/-- How the query commands end. A text the manager refuses stops both
commands with an input error naming the first such text, and the session is
left as it was: nothing was asked of the manager. Otherwise, once a context
is made and the batch answered as a whole, the existence check prints a
line per element that succeeded and resolution an object of the last
resolution of each reference; both report every failed element and end
with the first failed element by index, whose code, between 128 and 134, is
the exit status; any other error exits with 1. -/
theorem queries_end_with_first_failed_element (texts : List String) (traits : TraitSet) (s : Session) :
    (∀ i (hi : i < texts.length), s.backend.isEntityReferenceString texts[i] = false →
      (∀ j (hj : j < i), s.backend.isEntityReferenceString texts[j] = true) →
      (existence texts).run s = ({ result := .error (refusal s.backend texts[i]) }, s) ∧
        (resolution texts traits).run s = ({ result := .error (refusal s.backend texts[i]) }, s)) ∧
    ((∀ t ∈ texts, s.backend.isEntityReferenceString t = true) →
      ∀ c s₁, createContext.run s = (.ok c, s₁) →
      (∀ ds s₂, (entityExists texts false).run s₁ = ((ds, .ok ()), s₂) →
        ∃ p, (existence texts).run s = (p, s₂) ∧ Reports texts (Delivery.outcomes texts.length ds) p ∧
          p.out = String.join ((texts.zip (Delivery.outcomes texts.length ds)).filterMap fun q =>
            q.2.toOption.map fun b => q.1 ++ "\t" ++ toString b ++ "\n")) ∧
      (∀ ds s₂, (resolve texts traits false).run s₁ = ((ds, .ok ()), s₂) →
        ∃ p m, (resolution texts traits).run s = (p, s₂) ∧ Reports texts (Delivery.outcomes texts.length ds) p ∧
          p.out = (Json.obj m).pretty ++ "\n" ∧ Keyed.Sorted m ∧
          ∀ r, Keyed.find? r m =
            (lastResolved (texts.zip (Delivery.outcomes texts.length ds)) r).map TraitsData.toJson)) ∧
    (∀ i e, CommandLine.exitStatus (.batchElement i e) = e.code.value ∧
      128 ≤ e.code.value ∧ e.code.value ≤ 134) ∧
    (∀ err, (∀ i e, err ≠ .batchElement i e) → CommandLine.exitStatus err = 1) := by
  refine ⟨fun i hi hrefused hbefore => ?_, fun hall c s₁ hc => ⟨fun ds s₂ hcall => ?_, fun ds s₂ hcall => ?_⟩,
    fun i e => ⟨CommandLine.exitStatus_batchElement i e, ErrorCode.value_bounds e.code⟩,
    fun err h => CommandLine.exitStatus_of_not_batchElement h⟩
  · -- the first refused text is the error, before a context or a call
    have ht := find?_first_refused hi hrefused hbefore
    exact ⟨run_existence_of_refused texts s ht, run_resolution_of_refused texts traits s ht⟩
  · exact ⟨_, run_existence hall hc hcall, reports_of_outcomes texts (length_outcomes _ _) _, rfl⟩
  · obtain ⟨m, hsorted, hfind, hrun⟩ := run_resolution traits hall hc hcall
    exact ⟨_, m, hrun, reports_of_outcomes texts (length_outcomes _ _) _, rfl, hsorted, hfind⟩

/-- With a silent reference the catalog answers nothing for, the existence
check first stops at a refused text, and with both texts accepted reports
its outcomes as above. -/
theorem existence_of_refused_and_silent_texts :
    let s := Session.start (.catalog { capabilities := [.existenceQueries], silent := ["mock:///b"] })
      Host.testing
    let refused := ["mock:///a", "cat"]
    let texts := ["mock:///a", "mock:///b"]
    (s.backend.isEntityReferenceString refused[1] = false ∧
      (existence refused).run s = ({ result := .error (refusal s.backend "cat") }, s)) ∧
    (createContext.run s = (.ok {}, s) ∧
      ∃ p, (existence texts).run s = (p, ((entityExists texts false).run s).2) ∧
        Reports texts (Delivery.outcomes 2 ((entityExists texts false).run s).1.1) p) :=
  ⟨⟨by decide +kernel,
      ((queries_end_with_first_failed_element ["mock:///a", "cat"] [] _).1 1 (by decide)
        (by decide +kernel) (by decide +kernel)).1⟩,
    ⟨rfl, (((queries_end_with_first_failed_element ["mock:///a", "mock:///b"] [] _).2.1
      (by decide +kernel) {} _ rfl).1 _ _ rfl).imp fun _ h => ⟨h.1, h.2.1⟩⟩⟩

end Query

end AssetBroker
