import AssetBroker.Proofs.ExactlyOnce

/-!
# One batch call in every shape

A batch call comes back to its caller as the deliveries themselves, as the
answer for one element, or as the answers for all elements, under the variant
policy (every element answers its own outcome) or the exception policy (the
first element error fails the call). Each shape gathers what a finished sink
handed on, and `delivered_finish` says what that is for a manager that made a
given list of reports. This module computes every gathered shape from the
reports alone: the first outcome of each element, and under the exception
policy the first error among the first reports, or the unknown error of the
least element nobody reported.
-/

namespace AssetBroker

open Delivery

variable {α : Type}

/-- The first outcome reported for element `i`, or the unknown error where no
report names it. -/
def firstOutcome (rs : List (Nat × Except ElementError α)) (i : Nat) : Except ElementError α :=
  match rs.find? (·.1 == i) with
  | some x => x.2
  | none => .error ElementError.unreported

namespace Gathered

/-- The answers for all elements, each as the answer for one element. -/
def entries : Gathered α → List (Single α)
  | .outcomes os => os.map .outcome
  | .values vs => vs.map .value

end Gathered

namespace Delivery

variable {n : Nat} {rs : List (Nat × Except ElementError α)}

theorem find?_firstReports (i : Nat) :
    (firstReports n rs).find? (·.index == i) =
      if i < n then (rs.find? (·.1 == i)).map fun x => ⟨x.1, x.2⟩ else none := by
  induction rs with
  | nil => simp [firstReports]
  | cons x rs ih =>
    obtain ⟨j, o⟩ := x
    by_cases hj : j < n
    · by_cases hji : j = i
      · subst hji
        simp [firstReports, hj]
      · -- dropping the later reports of `j` leaves the search for `i` unchanged
        have hskip : ((firstReports n rs).filter (·.index != j)).find? (·.index == i) =
            (firstReports n rs).find? (·.index == i) := by
          rw [List.find?_filter]
          congr 1
          funext d
          by_cases hd : d.index = i
          · simp [hd, Ne.symm hji]
          · simp [hd]
        simp [firstReports, hj, hji, hskip, ih]
    · by_cases hji : j = i
      · -- a report beyond the batch names an index nobody asks for
        subst hji
        simp [firstReports, hj, ih]
      · simp [firstReports, hj, hji, ih]

theorem find?_unreported (l : List Nat) (i : Nat) :
    (l.map (unreported (α := α))).find? (·.index == i) =
      if i ∈ l then some (unreported i) else none := by
  induction l with
  | nil => rfl
  | cons j l ih =>
    rw [List.map_cons, List.find?_cons]
    by_cases hji : j = i
    · subst hji
      simp [unreported]
    · have hne : ((unreported (α := α) j).index == i) = false := by simp [unreported, hji]
      rw [hne, ih]
      simp only [List.mem_cons, Ne.symm hji, false_or]


/-- In the deliveries a finished sink hands on, an element of the batch is
found with its first outcome. -/
theorem find?_handedOn {i : Nat} (hi : i < n) :
    (firstReports n rs ++ (neverReported n rs).map (unreported (α := α))).find? (·.index == i) =
      some ⟨i, firstOutcome rs i⟩ := by
  rw [List.find?_append, find?_firstReports, if_pos hi, find?_unreported]
  unfold firstOutcome
  cases hf : rs.find? (·.1 == i) with
  | some x =>
    have hx : x.1 = i := by simpa using List.find?_some hf
    simp [hx]
  | none =>
    -- no report names `i`, so the finish reports it
    have hnever : i ∈ neverReported n rs := by
      have hnot := List.find?_eq_none.1 hf
      simpa [neverReported, hi] using hnot
    simp [hnever, unreported]

theorem outcomes_handedOn :
    outcomes n (firstReports n rs ++ (neverReported n rs).map unreported) =
      (List.range n).map (firstOutcome rs) := by
  unfold outcomes
  refine List.map_congr_left fun i hi => ?_
  rw [find?_handedOn (List.mem_range.1 hi)]

/-- In a list naming each index once, searching for the index of a member
finds that member. -/
theorem find?_index_of_nodup {l : List (Delivery α)} (hl : (l.map (·.index)).Nodup)
    {d : Delivery α} (hd : d ∈ l) : l.find? (·.index == d.index) = some d := by
  induction l with
  | nil => cases hd
  | cons e l ih =>
    rw [List.map_cons, List.nodup_cons] at hl
    rcases List.mem_cons.1 hd with rfl | hd
    · simp
    · -- `e` names another index than the member of the tail
      have hne : e.index ≠ d.index := by
        rintro heq
        exact hl.1 (heq ▸ List.mem_map_of_mem hd)
      simp [hne, ih hl.2 hd]

theorem firstOutcome_of_mem_handedOn {d : Delivery α}
    (hd : d ∈ firstReports n rs ++ (neverReported n rs).map unreported) :
    firstOutcome rs d.index = d.outcome := by
  have hfound : _ = some d := find?_index_of_nodup handedOn_nodup hd
  rw [find?_handedOn (index_lt_of_mem_handedOn hd)] at hfound
  exact congrArg Delivery.outcome (Option.some_inj.1 hfound)

theorem firstError?_throughFirstError (ds : List (Delivery α)) :
    firstError? (throughFirstError ds) = firstError? ds := by
  induction ds with
  | nil => rfl
  | cons d ds ih =>
    obtain ⟨i, o⟩ := d
    cases o with
    | error e => simp [throughFirstError, firstError?, isError]
    | ok v => simpa [throughFirstError, firstError?, isError] using ih

theorem firstError?_eq_none_iff {ds : List (Delivery α)} :
    firstError? ds = none ↔ ∀ d ∈ ds, d.isError = false := by
  simp only [firstError?, List.findSome?_eq_none_iff]
  refine forall₂_congr fun d _ => ?_
  obtain ⟨i, o⟩ := d
  cases o <;> simp [isError]

/-- The first error found splits the deliveries at it, with no error before. -/
theorem firstError?_eq_some {ds : List (Delivery α)} {i : Nat} {e : ElementError}
    (h : firstError? ds = some (i, e)) :
    ∃ pre post, ds = pre ++ ⟨i, .error e⟩ :: post ∧ ∀ d ∈ pre, d.isError = false := by
  induction ds with
  | nil => cases h
  | cons d ds ih =>
    obtain ⟨j, o⟩ := d
    cases o with
    | error e' =>
      simp only [firstError?, List.findSome?_cons, Option.some.injEq, Prod.mk.injEq] at h
      obtain ⟨rfl, rfl⟩ := h
      exact ⟨[], ds, rfl, by simp⟩
    | ok v =>
      simp only [firstError?, List.findSome?_cons] at h
      obtain ⟨pre, post, rfl, hpre⟩ := ih h
      refine ⟨⟨j, .ok v⟩ :: pre, post, rfl, ?_⟩
      intro d hd
      rcases List.mem_cons.1 hd with rfl | hd
      · rfl
      · exact hpre d hd

theorem values_go_map_ok (i : Nat) (vs : List α) : values.go i (vs.map .ok) = .ok vs := by
  induction vs generalizing i with
  | nil => rfl
  | cons v vs ih => simp [values.go, ih, Except.map]

theorem exists_map_ok {os : List (Except ElementError α)} (h : ∀ o ∈ os, o.isOk) :
    ∃ vs : List α, os = vs.map .ok := by
  induction os with
  | nil => exact ⟨[], rfl⟩
  | cons o os ih =>
    obtain ⟨vs, rfl⟩ := ih fun o' ho' => h o' (List.mem_cons_of_mem o ho')
    cases o with
    | ok v => exact ⟨v :: vs, rfl⟩
    | error e => simp [Except.isOk, Except.toBool] at h

/-- Below the first index never reported, every index is reported. -/
theorem named_below_neverReported {i : Nat} {rest : List Nat} (h : neverReported n rs = i :: rest) :
    ∀ j < i, ∃ x ∈ rs, x.1 = j := by
  intro j hj
  by_contra hnot
  have hi : i < n := by
    have hmem : i ∈ neverReported n rs := h ▸ List.mem_cons_self
    simpa [neverReported] using (List.mem_filter.1 hmem).1
  have hj' : j ∈ neverReported n rs := by
    simp only [not_exists, not_and] at hnot
    simpa [neverReported, show j < n by omega] using fun a b hab => hnot (a, b) hab
  -- the indices never reported ascend, so `j` cannot come after `i`
  have hasc : (neverReported n rs).Pairwise (· < ·) := List.pairwise_lt_range.filter _
  rw [h, List.pairwise_cons] at hasc
  rw [h] at hj'
  rcases List.mem_cons.1 hj' with rfl | hj'
  · omega
  · exact absurd (hasc.1 j hj') (by omega)

theorem isError_eq_not_isOk (d : Delivery α) : d.isError = !d.outcome.isOk := by
  obtain ⟨i, o⟩ := d
  cases o <;> rfl

theorem firstError?_append (ds ds' : List (Delivery α)) :
    firstError? (ds ++ ds') = (firstError? ds).or (firstError? ds') := by
  simp only [firstError?, List.findSome?_append]

theorem throughFirstError_of_ok {ds : List (Delivery α)} (h : ∀ d ∈ ds, d.isError = false) :
    throughFirstError ds = ds := by
  simpa [throughFirstError] using throughFirstError_append_of_ok h []

/-- The first error of a finished batch is the first error among the first
reports, or else the unknown error of the least index nobody reported. -/
theorem firstError?_handedOn {i : Nat} {e : ElementError}
    (h : firstError? (firstReports n rs ++ (neverReported n rs).map unreported) = some (i, e)) :
    (∃ pre post, firstReports n rs = pre ++ ⟨i, .error e⟩ :: post ∧ ∀ d ∈ pre, d.isError = false) ∨
      ((∀ d ∈ firstReports n rs, d.isError = false) ∧ e = ElementError.unreported ∧ i < n ∧
        (∀ x ∈ rs, x.1 ≠ i) ∧ ∀ j < i, ∃ x ∈ rs, x.1 = j) := by
  rw [firstError?_append] at h
  cases hfr : firstError? (firstReports n rs) with
  | some p =>
    rw [hfr, Option.some_or, Option.some_inj] at h
    subst h
    exact Or.inl (firstError?_eq_some hfr)
  | none =>
    rw [hfr, Option.none_or] at h
    cases hnr : neverReported n rs with
    | nil => simp [hnr, firstError?] at h
    | cons j rest =>
      simp only [hnr, List.map_cons, firstError?, List.findSome?_cons, unreported,
        Option.some.injEq, Prod.mk.injEq] at h
      obtain ⟨rfl, rfl⟩ := h
      have hmem : j ∈ neverReported n rs := hnr ▸ List.mem_cons_self
      have hj : j < n := List.mem_range.1 (List.mem_filter.1 hmem).1
      exact Or.inr ⟨firstError?_eq_none_iff.1 hfr, rfl, hj, neverReported_not_named hmem,
        named_below_neverReported hnr⟩

theorem gatherAll_variant_handedOn :
    gatherAll .variant n (passedOn false (firstReports n rs ++ (neverReported n rs).map unreported)) =
      .ok (.outcomes ((List.range n).map (firstOutcome rs))) := by
  simp [gatherAll, passedOn, outcomes_handedOn]

/-- Under the exception policy a finished batch raises its first error, and
otherwise answers the values of the first outcomes. -/
theorem gatherAll_exception_handedOn :
    gatherAll .exception n (passedOn true (firstReports n rs ++ (neverReported n rs).map unreported)) =
      match firstError? (firstReports n rs ++ (neverReported n rs).map unreported) with
      | some (i, e) => .error (.batchElement i e)
      | none => (values ((List.range n).map (firstOutcome rs))).map .values := by
  simp only [gatherAll, passedOn, if_true, firstError?_throughFirstError]
  cases hL : firstError? (firstReports n rs ++ (neverReported n rs).map unreported) with
  | some p => rfl
  | none =>
    -- with no error the stop never cut the deliveries short
    rw [throughFirstError_of_ok (firstError?_eq_none_iff.1 hL), outcomes_handedOn]

theorem mem_handedOn_firstOutcome {i : Nat} (hi : i < n) :
    ⟨i, firstOutcome rs i⟩ ∈ firstReports n rs ++ (neverReported n rs).map unreported :=
  List.mem_of_find?_eq_some (find?_handedOn hi)

theorem gatherAll_exception_of_isOk (h : ∀ o ∈ (List.range n).map (firstOutcome rs), o.isOk) :
    ∃ vs : List α, (List.range n).map (firstOutcome rs) = vs.map .ok ∧
      gatherAll .exception n (passedOn true (firstReports n rs ++ (neverReported n rs).map unreported)) =
        .ok (.values vs) := by
  obtain ⟨vs, hvs⟩ := exists_map_ok h
  refine ⟨vs, hvs, ?_⟩
  rw [gatherAll_exception_handedOn]
  cases hL : firstError? (firstReports n rs ++ (neverReported n rs).map unreported) with
  | some p =>
    -- an error delivered is the first outcome of its element, which is a value
    obtain ⟨i, e⟩ := p
    obtain ⟨pre, post, hsplit, -⟩ := firstError?_eq_some hL
    have hmem : (⟨i, .error e⟩ : Delivery α) ∈ _ := hsplit ▸ List.mem_append_right pre List.mem_cons_self
    have hok := h _ (List.mem_map_of_mem (List.mem_range.2 (index_lt_of_mem_handedOn hmem)))
    rw [firstOutcome_of_mem_handedOn hmem] at hok
    cases hok
  | none =>
    rw [hvs]
    simp only [values, values_go_map_ok]
    rfl

theorem gatherAll_exception_of_not_isOk
    (h : ∃ o ∈ (List.range n).map (firstOutcome rs), o.isOk = false) :
    ∃ i e, gatherAll .exception n (passedOn true (firstReports n rs ++ (neverReported n rs).map unreported)) =
        .error (.batchElement i e) ∧
      ((∃ pre post, firstReports n rs = pre ++ ⟨i, .error e⟩ :: post ∧ ∀ d ∈ pre, d.isError = false) ∨
        ((∀ d ∈ firstReports n rs, d.isError = false) ∧ e = ElementError.unreported ∧ i < n ∧
          (∀ x ∈ rs, x.1 ≠ i) ∧ ∀ j < i, ∃ x ∈ rs, x.1 = j)) := by
  rw [gatherAll_exception_handedOn]
  cases hL : firstError? (firstReports n rs ++ (neverReported n rs).map unreported) with
  | some p =>
    obtain ⟨i, e⟩ := p
    exact ⟨i, e, rfl, firstError?_handedOn hL⟩
  | none =>
    -- the failed first outcome is delivered, so an error is
    obtain ⟨o, ho, hbad⟩ := h
    obtain ⟨i, hi, rfl⟩ := List.mem_map.1 ho
    have hclean := (firstError?_eq_none_iff.1 hL) _ (mem_handedOn_firstOutcome (List.mem_range.1 hi))
    rw [isError_eq_not_isOk] at hclean
    simp [hbad] at hclean

/-- The one-element answer is the all-elements answer on one element. -/
theorem gatherAll_one (p : Policy) (ds : List (Delivery α)) :
    (gatherAll p 1 ds).map Gathered.entries = (gatherOne p ds).map ([·]) := by
  obtain ⟨o, ho⟩ : ∃ o, outcomes 1 ds = [o] := ⟨_, rfl⟩
  cases p with
  | variant => simp [gatherAll, gatherOne, ho, Gathered.entries, Except.map]
  | exception =>
    cases hfe : firstError? ds with
    | some q => simp [gatherAll, gatherOne, hfe, Except.map]
    | none =>
      cases o with
      | ok v => simp [gatherAll, gatherOne, hfe, ho, values, values.go, Gathered.entries, Except.map]
      | error e => simp [gatherAll, gatherOne, hfe, ho, values, values.go, Except.map]

end Delivery

namespace Ran

@[simp] theorem all_ok (p : Policy) (len : Nat) (ds : List (Delivery α)) :
    Ran.all p len (ds, .ok ()) = gatherAll p len ds := rfl

/-- A call failed as a whole fails the same way in both gathered shapes. -/
theorem all_of_error {ran : Ran α} {e : BrokerError} (h : ran.2 = .error e) (p : Policy) (len : Nat) :
    Ran.all p len ran = .error e := by
  obtain ⟨ds, r⟩ := ran
  dsimp only at h
  subst h
  rfl

theorem one_of_error {ran : Ran α} {e : BrokerError} (h : ran.2 = .error e) (p : Policy) :
    Ran.one p ran = .error e := by
  obtain ⟨ds, r⟩ := ran
  dsimp only at h
  subst h
  rfl

theorem all_one (p : Policy) (ran : Ran α) :
    (Ran.all p 1 ran).map Gathered.entries = (Ran.one p ran).map ([·]) := by
  obtain ⟨ds, res⟩ := ran
  cases res with
  | error e => rfl
  | ok u => exact gatherAll_one p ds

end Ran

namespace Session

variable {n : Nat} {rs : List (Nat × Except ElementError α)}

/-- A gated call whose manager reports `rs` and succeeds hands on what a
finished sink holds. -/
theorem gated_run'_of_ok {s : Session} {cap : Capability} {check : Except BrokerError Unit}
    {stop : Bool} {call : Backend → SinkRun α → Reply α}
    (hcap : s.backend.hasCapability cap = true) (hcheck : check = .ok ())
    (hcall : (call s.backend (SinkRun.fresh n stop)).run = (SinkRun.fresh n stop).reportAll rs)
    (hres : (call s.backend (SinkRun.fresh n stop)).result = .ok ()) :
    (gated cap check n stop call).run' s =
      (passedOn stop (firstReports n rs ++ (neverReported n rs).map unreported), .ok ()) := by
  rw [gated_run', hcap, hcheck]
  dsimp only
  rw [hcall, hres, SinkRun.delivered_finish]

/-- A gated call whose manager fails as a whole fails with the manager's error. -/
theorem gated_run'_of_error {s : Session} {cap : Capability} {check : Except BrokerError Unit}
    {stop : Bool} {call : Backend → SinkRun α → Reply α} {e : BrokerError}
    (hcap : s.backend.hasCapability cap = true) (hcheck : check = .ok ())
    (hres : (call s.backend (SinkRun.fresh n stop)).result = .error e) :
    ((gated cap check n stop call).run' s).2 = .error e := by
  rw [gated_run', hcap, hcheck]
  exact hres

end Session

/-- Every shape of a batch call answers from the same reports. For a manager
that reports `rs` into the sink of a call on `n` elements: the variant policy
answers the first outcome of each element; the exception policy answers the
values exactly when all of those outcomes are values, and otherwise raises the
first error among the first reports or, failing one, the unknown error of the
least element never reported; the one-element answer is the all-elements
answer on one element; and a call failed as a whole fails the same way in every
shape. -/
theorem batch_shapes_agree (s : Session) (cap : Capability) (check : Except BrokerError Unit)
    (n : Nat) (call : Backend → SinkRun α → Reply α) (rs : List (Nat × Except ElementError α))
    (res : Except BrokerError Unit)
    (hcap : s.backend.hasCapability cap = true) (hcheck : check = .ok ())
    (hcall : ∀ stop, (call s.backend (SinkRun.fresh n stop)).run = (SinkRun.fresh n stop).reportAll rs)
    (hres : ∀ stop, (call s.backend (SinkRun.fresh n stop)).result = res) :
    let ran := fun p : Policy => (Session.gated cap check n p.stopsOnError call).run' s
    let entries := (List.range n).map (firstOutcome rs)
    (res = .ok () → Ran.all .variant n (ran .variant) = .ok (.outcomes entries)) ∧
    (res = .ok () → (∀ o ∈ entries, o.isOk) →
      ∃ vs, entries = vs.map .ok ∧ Ran.all .exception n (ran .exception) = .ok (.values vs)) ∧
    (res = .ok () → (∃ o ∈ entries, o.isOk = false) →
      ∃ i e, Ran.all .exception n (ran .exception) = .error (.batchElement i e) ∧
        ((∃ pre post, firstReports n rs = pre ++ ⟨i, .error e⟩ :: post ∧
            ∀ d ∈ pre, d.isError = false) ∨
          ((∀ d ∈ firstReports n rs, d.isError = false) ∧ e = ElementError.unreported ∧ i < n ∧
            (∀ x ∈ rs, x.1 ≠ i) ∧ ∀ j < i, ∃ x ∈ rs, x.1 = j))) ∧
    (n = 1 → ∀ p, (Ran.all p n (ran p)).map Gathered.entries = (Ran.one p (ran p)).map ([·])) ∧
    (∀ e, res = .error e → ∀ p,
      (ran p).2 = .error e ∧ Ran.all p n (ran p) = .error e ∧ Ran.one p (ran p) = .error e) := by
  intro ran entries
  -- each policy runs the call once, into a sink that stops as the policy says
  have hok : res = .ok () → ∀ p, ran p =
      (passedOn p.stopsOnError (firstReports n rs ++ (neverReported n rs).map unreported), .ok ()) := by
    rintro rfl p
    exact Session.gated_run'_of_ok hcap hcheck (hcall _) (hres _)
  refine ⟨?variant, ?values, ?raises, ?one, ?whole⟩
  case variant =>
    intro h
    rw [hok h .variant, Ran.all_ok]
    exact gatherAll_variant_handedOn
  case values =>
    intro h hall
    rw [hok h .exception, Ran.all_ok]
    exact gatherAll_exception_of_isOk hall
  case raises =>
    intro h hbad
    rw [hok h .exception, Ran.all_ok]
    exact gatherAll_exception_of_not_isOk hbad
  case one =>
    rintro rfl p
    exact Ran.all_one p (ran p)
  case whole =>
    intro e he p
    have hfail : (ran p).2 = .error e :=
      Session.gated_run'_of_error hcap hcheck ((hres _).trans he)
    exact ⟨hfail, Ran.all_of_error hfail p n, Ran.one_of_error hfail p⟩

theorem two_element_batch_answers_first_outcomes :
    (Session.start (.bare {}) Host.testing).backend.hasCapability .entityReferenceIdentification = true ∧
    Ran.all .variant 2 ((Session.gated .entityReferenceIdentification (.ok ()) 2 Policy.variant.stopsOnError
        fun b r => ⟨r.reportAll [(1, .ok true), (0, .error ⟨.unknown, "bad"⟩), (0, .ok false)], b, .ok ()⟩).run'
        (Session.start (.bare {}) Host.testing)) =
      .ok (.outcomes [.error ⟨.unknown, "bad"⟩, .ok true]) :=
  ⟨by decide, (batch_shapes_agree (Session.start (.bare {}) Host.testing) .entityReferenceIdentification
    (.ok ()) 2 (fun b r => ⟨r.reportAll [(1, .ok true), (0, .error ⟨.unknown, "bad"⟩), (0, .ok false)], b, .ok ()⟩)
    [(1, .ok true), (0, .error ⟨.unknown, "bad"⟩), (0, .ok false)] (.ok ()) (by decide) rfl
    (fun _ => rfl) (fun _ => rfl)).1 rfl⟩

end AssetBroker
