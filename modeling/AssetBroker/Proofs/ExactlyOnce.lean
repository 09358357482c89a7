import AssetBroker.Proofs.SinkRun
import AssetBroker.Manager.Session

/-!
# Each element once

A batch sink guards the caller against a careless manager. Whatever the
manager reports, in whatever order and however often, each element of the
batch reaches the caller at most once, carrying the first outcome reported
for it while the sink was still taking outcomes, and nothing outside the
batch reaches the caller at all. A sink that does not stop on error reaches
every element once `finish` has run, the elements never reported last and in
ascending order; a sink that stops on error hands on at most one error, and
nothing after it.

Every statement here is read off `SinkRun.delivered_finish`, which says
exactly what a sink hands on. The raw shape of a batch call runs the manager
into a sink that does not stop on error and finishes it only when the call
succeeds; `Session.gated_run'` says what such a call returns.
-/

namespace AssetBroker

open Delivery

variable {α : Type}

/-! ## A gated batch call -/

namespace Session

/-- A batch call is refused before the manager sees it, or runs the manager
into a fresh sink, finished unless the manager failed the whole call. -/
theorem gated_run' (cap : Capability) (check : Except BrokerError Unit) (n : Nat) (stop : Bool)
    (call : Backend → SinkRun α → Reply α) (s : Session) :
    (gated cap check n stop call).run' s =
      match s.backend.hasCapability cap, check with
      | true, .ok () =>
        let reply := call s.backend (SinkRun.fresh n stop)
        ((match reply.result with
          | .ok () => reply.run.finish
          | .error _ => reply.run).delivered, reply.result)
      | true, .error e => ([], .error e)
      | false, _ => ([], .error (.capabilityUnsupported s.backend.identifier cap)) := by
  cases hcap : s.backend.hasCapability cap <;> cases check <;>
    simp [gated, require, runSink, log, hcap] <;> rfl

end Session

/-! ## What the handed-on list is made of -/

namespace Delivery

variable {n : Nat} {rs : List (Nat × Except ElementError α)}

theorem index_lt_of_mem_handedOn {d : Delivery α}
    (h : d ∈ firstReports n rs ++ (neverReported n rs).map unreported) : d.index < n := by
  rcases List.mem_append.1 h with h | h
  · exact (mem_firstReports h).1
  · obtain ⟨i, hi, rfl⟩ := List.mem_map.1 h
    simpa [neverReported, unreported] using (List.mem_filter.1 hi).1

theorem neverReported_not_named {i : Nat} (h : i ∈ neverReported n rs) : ∀ x ∈ rs, x.1 ≠ i := by
  simp only [neverReported, List.mem_filter, List.all_eq_true, bne_iff_ne] at h
  exact h.2

/-- The first reports and the `unknown` errors name each element at most
once between them. -/
theorem handedOn_nodup :
    ((firstReports n rs ++ (neverReported n rs).map unreported).map fun d : Delivery α => d.index).Nodup := by
  have hnever : ((neverReported n rs).map (unreported (α := α))).map (·.index) = neverReported n rs := by
    simp [List.map_map, unreported, Function.comp_def]
  rw [List.map_append, List.nodup_append, hnever]
  refine ⟨firstReports_nodup n rs, (List.nodup_range).filter _, ?_⟩
  intro i hi j hj hij
  subst hij
  obtain ⟨-, x, hx, rfl⟩ := index_mem_firstReports.1 hi
  exact neverReported_not_named hj x hx rfl

/-- When a sink stopping on error hands on a first report, every first report
made before it was a value. -/
theorem firstReports_ok_before {pre post : List (Nat × Except ElementError α)} {d : Delivery α}
    (hsplit : rs = pre ++ (d.index, d.outcome) :: post) (hpre : ∀ x ∈ pre, x.1 ≠ d.index)
    (hd : d ∈ throughFirstError (firstReports n rs ++ (neverReported n rs).map unreported)) :
    ∀ e ∈ firstReports n pre, e.isError = false := by
  -- the first reports of `pre` open the list, and `d` comes after them
  have hopen : firstReports n rs = firstReports n pre ++
      (firstReports n ((d.index, d.outcome) :: post)).filter fun e => e.index ∉ pre.map (·.1) := by
    rw [hsplit, firstReports_append]
  have hnot : d ∉ firstReports n pre := fun h => hpre _ (mem_firstReports h).2 rfl
  intro e he
  by_contra herr
  -- an earlier error would end the list before `d`
  rw [hopen, List.append_assoc, throughFirstError_append_of_error ⟨e, he, by simpa using herr⟩] at hd
  exact hnot ((passedOn_sublist true _).subset hd)

end Delivery

/-! ## Each element once -/

namespace SinkRun

variable {n : Nat} {stop : Bool} {rs : List (Nat × Except ElementError α)}

/-- Nothing outside the batch reaches the caller. -/
theorem finish_index_lt : ∀ d ∈ ((fresh n stop).reportAll rs).finish.delivered, d.index < n := by
  intro d hd
  rw [delivered_finish] at hd
  exact index_lt_of_mem_handedOn ((passedOn_sublist stop _).subset hd)

/-- No element reaches the caller twice. -/
theorem finish_nodup : ((((fresh n stop).reportAll rs).finish.delivered).map (·.index)).Nodup := by
  rw [delivered_finish]
  exact handedOn_nodup.sublist ((passedOn_sublist stop _).map _)

/-- What reaches the caller for an element is the first report made for it,
made while the sink still took outcomes, or, for an element no report
names, the `unknown` error of `finish`. -/
theorem finish_carries_first_report :
    ∀ d ∈ ((fresh n stop).reportAll rs).finish.delivered,
      (∃ pre post, rs = pre ++ (d.index, d.outcome) :: post ∧ (∀ x ∈ pre, x.1 ≠ d.index) ∧
        ((fresh n stop).reportAll pre).isAborted = false) ∨
      (d.outcome = .error ElementError.unreported ∧ ∀ x ∈ rs, x.1 ≠ d.index) := by
  intro d hd
  rw [delivered_finish] at hd
  rcases List.mem_append.1 ((passedOn_sublist stop _).subset hd) with hfirst | hnever
  · -- a first report: the sink was not aborted when it was made
    obtain ⟨pre, post, hsplit, hpre⟩ := exists_split_of_mem_firstReports hfirst
    refine Or.inl ⟨pre, post, hsplit, hpre, ?_⟩
    rw [isAborted_reportAll_fresh]
    cases stop
    · rfl
    · have hok := firstReports_ok_before hsplit hpre (by simpa [passedOn] using hd)
      simpa using hok
  · obtain ⟨i, hi, rfl⟩ := List.mem_map.1 hnever
    exact Or.inr ⟨rfl, neverReported_not_named hi⟩

/-- The first report made for an element of the batch while the sink still
took outcomes reaches the caller. -/
theorem first_report_reaches {i : Nat} {o : Except ElementError α} {pre post}
    (hsplit : rs = pre ++ (i, o) :: post) (hi : i < n) (hpre : ∀ x ∈ pre, x.1 ≠ i)
    (hlive : ((fresh n stop).reportAll pre).isAborted = false) :
    ⟨i, o⟩ ∈ ((fresh n stop).reportAll rs).finish.delivered := by
  have hopen : firstReports n rs = firstReports n pre ++ ⟨i, o⟩ ::
      ((firstReports n post).filter (·.index != i)).filter fun e => e.index ∉ pre.map (·.1) := by
    rw [hsplit, firstReports_append]
    simp only [firstReports, if_pos hi]
    rw [List.filter_cons_of_pos (by simpa using fun x hx => hpre (i, x) hx rfl)]
  rw [delivered_finish, hopen]
  cases stop
  · simp [passedOn]
  · have hok : ∀ e ∈ firstReports n pre, e.isError = false := by
      rw [isAborted_reportAll_fresh] at hlive
      simpa using hlive
    simp only [passedOn, if_true, List.append_assoc, List.cons_append]
    rw [throughFirstError_append_of_ok hok]
    cases herr : (⟨i, o⟩ : Delivery α).isError <;> simp [throughFirstError, herr]

/-- Without stopping on error, every element of the batch reaches the
caller. -/
theorem finish_covers (h : stop = false) :
    ∀ i < n, i ∈ (((fresh n stop).reportAll rs).finish.delivered).map (·.index) := by
  subst h
  intro i hi
  rw [delivered_finish]
  simp only [passedOn, Bool.false_eq_true, if_false, List.map_append, List.mem_append]
  by_cases hnamed : ∃ x ∈ rs, x.1 = i
  · exact Or.inl (index_mem_firstReports.2 ⟨hi, hnamed⟩)
  · refine Or.inr (List.mem_map.2 ⟨unreported i, List.mem_map.2 ⟨i, ?_, rfl⟩, rfl⟩)
    simp only [neverReported, List.mem_filter, List.mem_range, List.all_eq_true, bne_iff_ne]
    exact ⟨hi, fun x hx hxi => hnamed ⟨x, hx, hxi⟩⟩

/-- Without stopping on error, `finish` adds the `unknown` error of every
element never reported, ascending, after what the reports delivered. -/
theorem finish_appends_unreported (h : stop = false) :
    ((fresh n stop).reportAll rs).finish.delivered =
      ((fresh n stop).reportAll rs).delivered ++ (neverReported n rs).map unreported := by
  subst h
  rw [delivered_finish, reportAll_fresh_delivered]
  simp [passedOn]

/-- Stopping on error, nothing reaches the caller after an error. -/
theorem finish_error_last (h : stop = true) {pre post : List (Delivery α)} {d : Delivery α}
    (hds : ((fresh n stop).reportAll rs).finish.delivered = pre ++ d :: post) (hd : d.isError = true) :
    post = [] := by
  subst h
  rw [delivered_finish] at hds
  exact throughFirstError_error_last hds hd

end SinkRun

namespace Session

variable {n : Nat} {rs : List (Nat × Except ElementError α)}

/-- A raw-form batch call whose manager reports `rs` into its sink hands each
element on at most once, and only elements of the batch; when the call
succeeds, it has handed every element on. -/
theorem raw_call_once (s : Session) (cap : Capability) (check : Except BrokerError Unit)
    (call : Backend → SinkRun α → Reply α)
    (hcall : (call s.backend (SinkRun.fresh n false)).run = (SinkRun.fresh n false).reportAll rs) :
    let ran := (gated cap check n false call).run' s
    ((ran.1.map (·.index)).Nodup ∧ ∀ d ∈ ran.1, d.index < n) ∧
      (ran.2 = .ok () → ∀ i < n, i ∈ ran.1.map (·.index)) := by
  intro ran
  simp only [ran, gated_run']
  cases hcap : s.backend.hasCapability cap <;> cases check
  · simp
  · simp
  · simp
  cases hres : (call s.backend (SinkRun.fresh n false)).result with
  | error e =>
      -- refused as a whole: what the reports delivered, unfinished
      simp only [hcall, SinkRun.reportAll_fresh_delivered, passedOn, Bool.false_eq_true, if_false]
      refine ⟨⟨firstReports_nodup n rs, fun d hd => (mem_firstReports hd).1⟩, by simp⟩
  | ok u =>
      simp only [hcall]
      exact ⟨⟨SinkRun.finish_nodup, SinkRun.finish_index_lt⟩, fun _ => SinkRun.finish_covers rfl⟩

end Session

/-! ## The guarantee -/

/-- **Each element once.** Take a batch of `n` elements, either setting of
stopping on error, and any sequence of reports (a `success` or an `error` is
the report of a value or of an error) followed by `finish`. Nothing outside
the batch reaches the caller. No element reaches it twice, and what reaches
it for an element is the first report made for it while the sink was not
aborted, or, for an element no report names, the `unknown` error; every such
first report does reach it. Without stopping on error every element is
reached, those never reported by `finish`, in ascending order. Stopping on
error, nothing reaches the caller after an error. So a raw-form batch call
hands each element on at most once, and exactly once when it succeeds. -/
theorem sink_delivers_each_element_once (n : Nat) (stop : Bool)
    (rs : List (Nat × Except ElementError α)) :
    let ds := ((SinkRun.fresh n stop).reportAll rs).finish.delivered
    (∀ d ∈ ds, d.index < n) ∧
    (ds.map (·.index)).Nodup ∧
    (∀ d ∈ ds,
      (∃ pre post, rs = pre ++ (d.index, d.outcome) :: post ∧ (∀ x ∈ pre, x.1 ≠ d.index) ∧
        ((SinkRun.fresh n stop).reportAll pre).isAborted = false) ∨
      (d.outcome = .error ElementError.unreported ∧ ∀ x ∈ rs, x.1 ≠ d.index)) ∧
    (∀ i o pre post, rs = pre ++ (i, o) :: post → i < n → (∀ x ∈ pre, x.1 ≠ i) →
      ((SinkRun.fresh n stop).reportAll pre).isAborted = false → ⟨i, o⟩ ∈ ds) ∧
    (stop = false →
      (∀ i < n, i ∈ ds.map (·.index)) ∧
      ds = ((SinkRun.fresh n stop).reportAll rs).delivered ++ (neverReported n rs).map unreported) ∧
    (stop = true → ∀ pre d post, ds = pre ++ d :: post → d.isError = true → post = []) ∧
    (∀ (s : Session) (cap : Capability) (check : Except BrokerError Unit)
      (call : Backend → SinkRun α → Reply α),
      (call s.backend (SinkRun.fresh n false)).run = (SinkRun.fresh n false).reportAll rs →
      let ran := (Session.gated cap check n false call).run' s
      ((ran.1.map (·.index)).Nodup ∧ ∀ d ∈ ran.1, d.index < n) ∧
        (ran.2 = .ok () → ∀ i < n, i ∈ ran.1.map (·.index))) :=
  ⟨SinkRun.finish_index_lt, SinkRun.finish_nodup, SinkRun.finish_carries_first_report,
    fun _ _ _ _ hsplit hi hpre hlive => SinkRun.first_report_reaches hsplit hi hpre hlive,
    fun h => ⟨SinkRun.finish_covers h, SinkRun.finish_appends_unreported h⟩,
    fun h _ _ _ hds hd => SinkRun.finish_error_last h hds hd,
    fun s cap check call hcall => Session.raw_call_once s cap check call hcall⟩

/-- The reports of the sink's own test, for three elements: a value for 2, an
error for 1, a second value for 1, a value for the missing element 7, and a
value for 0. Element 1 is reached. -/
theorem three_element_batch_reaches_one :
    1 < 3 ∧ 1 ∈ (((SinkRun.fresh 3 false).reportAll
      [(2, .ok 20), (1, .error ⟨.unknown, "bad"⟩), (1, .ok 10), (7, .ok 70), (0, .ok (0 : Nat))]).finish.delivered).map
        (·.index) :=
  ⟨by decide, ((sink_delivers_each_element_once 3 false _).2.2.2.2.1 rfl).1 1 (by decide)⟩

end AssetBroker
