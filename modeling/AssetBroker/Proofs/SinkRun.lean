import AssetBroker.Batch.Sink
import Mathlib

/-!
# What a batch sink hands on

A manager reports outcomes into a sink one call at a time, in any order and
as often as it likes; `success` and `error` are `report` with a value or an
error. This module follows a fresh sink through any sequence of reports and
then `finish`, and computes exactly what it hands to the caller
(`delivered_finish`):

* without stopping on error, the first report of each element of the batch,
  in the order made, then the `unknown` error for each element never
  reported, ascending (`firstReports`, `neverReported`);
* stopping on error, the same list cut just after its first error
  (`throughFirstError`).

One invariant carries the proof, `SinkRun.Tracks`: the sink's flags mark
exactly the delivered elements, and it is aborted exactly when it stops on
error and has delivered an error. Every report keeps it, and `finish` is, as
far as the sink and its deliveries go, one more report of the `unknown`
error per element still unreported (`finish_as_reports`).
-/

namespace AssetBroker

namespace Sink

theorem getD_set_true {l : List Bool} {i : Nat} (hi : i < l.length) (j : Nat) :
    (l.set i true).getD j false = (j == i || l.getD j false) := by
  simp only [List.getD_eq_getElem?_getD, List.getElem?_set]
  by_cases h : i = j
  · subst h
    simp [hi]
  · simp [h, Ne.symm h]

/-- The unreported elements are the elements without their flag, ascending. -/
theorem unreported_eq (s : Sink) :
    s.unreported = (List.range s.len).filter fun i => !s.isReported i := by
  obtain ⟨l, so, ab⟩ := s
  simp only [unreported, len, isReported]
  induction l using List.reverseRecOn with
  | nil => simp
  | append_singleton l b ih =>
      rw [List.length_append, List.length_singleton, List.range_succ, List.zip_append (by simp),
        List.filterMap_append, ih, List.filter_append]
      congr 1
      · apply List.filter_congr
        intro i hi
        rw [List.mem_range] at hi
        simp [List.getD_eq_getElem?_getD, List.getElem?_append_left hi]
      · cases b <;> simp

end Sink

/-! ## The lists a sink hands on -/

namespace Delivery

variable {α : Type}

def isError (d : Delivery α) : Bool :=
  match d.outcome with
  | .ok _ => false
  | .error _ => true

@[simp] theorem isError_ok (i : Nat) (v : α) : (⟨i, .ok v⟩ : Delivery α).isError = false := rfl

@[simp] theorem isError_error (i : Nat) (e : ElementError) :
    (⟨i, .error e⟩ : Delivery α).isError = true := rfl

/-- The `unknown` error handed to an element that received nothing. -/
def unreported (i : Nat) : Delivery α := ⟨i, .error ElementError.unreported⟩

/-- The first report of each element below `n`, in the order the reports
were made. -/
def firstReports (n : Nat) : List (Nat × Except ElementError α) → List (Delivery α)
  | [] => []
  | (i, o) :: rs =>
    if i < n then ⟨i, o⟩ :: (firstReports n rs).filter (·.index != i) else firstReports n rs

/-- The deliveries up to and including the first element error. -/
def throughFirstError : List (Delivery α) → List (Delivery α)
  | [] => []
  | d :: ds => if d.isError then [d] else d :: throughFirstError ds

/-- What a sink hands on out of `ds`: all of it, or, when it stops on error,
what comes up to the first error. -/
def passedOn (stop : Bool) (ds : List (Delivery α)) : List (Delivery α) :=
  if stop then throughFirstError ds else ds

/-- The elements below `n` that no report names, ascending. -/
def neverReported (n : Nat) (rs : List (Nat × Except ElementError α)) : List Nat :=
  (List.range n).filter fun i => rs.all (·.1 != i)

theorem mem_firstReports {n : Nat} {rs : List (Nat × Except ElementError α)} {d : Delivery α}
    (h : d ∈ firstReports n rs) : d.index < n ∧ (d.index, d.outcome) ∈ rs := by
  induction rs with
  | nil => simp [firstReports] at h
  | cons x rs ih =>
      obtain ⟨i, o⟩ := x
      simp only [firstReports] at h
      split at h
      · simp only [List.mem_cons, List.mem_filter] at h
        rcases h with rfl | ⟨h, -⟩
        · simp_all
        · exact ⟨(ih h).1, List.mem_cons_of_mem _ (ih h).2⟩
      · exact ⟨(ih h).1, List.mem_cons_of_mem _ (ih h).2⟩

theorem index_mem_filter {ds : List (Delivery α)} {i j : Nat} :
    i ∈ (ds.filter (·.index != j)).map (·.index) ↔ i ≠ j ∧ i ∈ ds.map (·.index) := by
  simp only [List.mem_map, List.mem_filter, bne_iff_ne, ne_eq]
  constructor
  · rintro ⟨d, ⟨hd, hne⟩, rfl⟩
    exact ⟨hne, d, hd, rfl⟩
  · rintro ⟨hne, d, hd, rfl⟩
    exact ⟨d, ⟨hd, hne⟩, rfl⟩

/-- An element has a first report exactly when it is in the batch and some
report names it. -/
theorem index_mem_firstReports {n : Nat} {rs : List (Nat × Except ElementError α)} {i : Nat} :
    i ∈ (firstReports n rs).map (·.index) ↔ i < n ∧ ∃ x ∈ rs, x.1 = i := by
  induction rs with
  | nil => simp [firstReports]
  | cons x rs ih =>
      obtain ⟨j, o⟩ := x
      simp only [firstReports]
      split
      · rw [List.map_cons, List.mem_cons, index_mem_filter, ih]
        by_cases hij : i = j
        · subst hij
          simp_all
        · simp [hij, Ne.symm hij]
      · rw [ih]
        by_cases hij : i = j
        · subst hij
          constructor
          · exact fun ⟨hi, x, hx, hxi⟩ => ⟨hi, x, List.mem_cons_of_mem _ hx, hxi⟩
          · intro h
            omega
        · simp [Ne.symm hij]

theorem firstReports_nodup (n : Nat) (rs : List (Nat × Except ElementError α)) :
    ((firstReports n rs).map (·.index)).Nodup := by
  induction rs with
  | nil => simp [firstReports]
  | cons x rs ih =>
      obtain ⟨j, o⟩ := x
      simp only [firstReports]
      split
      · rw [List.map_cons, List.nodup_cons, index_mem_filter]
        exact ⟨fun h => h.1 rfl, ih.sublist (List.filter_sublist.map _)⟩
      · exact ih

/-- Reports naming distinct elements of the batch are each the first. -/
theorem firstReports_of_nodup {n : Nat} {l : List Nat} (hl : l.Nodup) (hn : ∀ i ∈ l, i < n)
    (o : Except ElementError α) : firstReports n (l.map (·, o)) = l.map fun i => ⟨i, o⟩ := by
  induction l with
  | nil => rfl
  | cons i l ih =>
      simp only [List.nodup_cons, List.mem_cons, forall_eq_or_imp] at hl hn
      simp only [List.map_cons, firstReports, if_pos hn.1, ih hl.2 hn.2, List.cons.injEq, true_and]
      rw [List.filter_eq_self]
      intro d hd
      obtain ⟨j, hj, rfl⟩ := List.mem_map.1 hd
      simpa using fun h : j = i => hl.1 (h ▸ hj)

theorem throughFirstError_append_of_ok {ds : List (Delivery α)} (h : ∀ d ∈ ds, d.isError = false)
    (ds' : List (Delivery α)) : throughFirstError (ds ++ ds') = ds ++ throughFirstError ds' := by
  induction ds with
  | nil => rfl
  | cons d ds ih =>
      simp only [List.mem_cons, forall_eq_or_imp] at h
      simp [throughFirstError, h.1, ih h.2]

theorem throughFirstError_append_of_error {ds : List (Delivery α)} (h : ∃ d ∈ ds, d.isError = true)
    (ds' : List (Delivery α)) : throughFirstError (ds ++ ds') = throughFirstError ds := by
  induction ds with
  | nil => simp at h
  | cons d ds ih =>
      by_cases hd : d.isError
      · simp [throughFirstError, hd]
      · have h' : ∃ d ∈ ds, d.isError = true := by simpa [hd] using h
        simp [throughFirstError, hd, ih h']

theorem any_throughFirstError (ds : List (Delivery α)) :
    (throughFirstError ds).any (·.isError) = ds.any (·.isError) := by
  induction ds with
  | nil => rfl
  | cons d ds ih =>
      by_cases hd : d.isError
      · simp [throughFirstError, hd]
      · simp [throughFirstError, hd, ih]

theorem passedOn_nil (stop : Bool) : passedOn stop ([] : List (Delivery α)) = [] := by
  cases stop <;> rfl

theorem passedOn_cons_of_error {stop : Bool} {d : Delivery α} (h : (stop && d.isError) = true)
    (ds : List (Delivery α)) : passedOn stop (d :: ds) = [d] := by
  simp only [Bool.and_eq_true] at h
  simp [passedOn, throughFirstError, h.1, h.2]

theorem passedOn_cons {stop : Bool} {d : Delivery α} (h : (stop && d.isError) = false)
    (ds : List (Delivery α)) : passedOn stop (d :: ds) = d :: passedOn stop ds := by
  cases stop <;> simp_all [passedOn, throughFirstError]

/-- The first reports of a longer sequence: those of its first part, then
those of the rest for elements the first part never names. -/
theorem firstReports_append (n : Nat) (rs rs' : List (Nat × Except ElementError α)) :
    firstReports n (rs ++ rs') =
      firstReports n rs ++ (firstReports n rs').filter fun d => d.index ∉ rs.map (·.1) := by
  induction rs with
  | nil =>
      simp only [List.nil_append, firstReports, List.map_nil]
      exact (List.filter_eq_self.2 fun d _ => by simp).symm
  | cons x rs ih =>
      obtain ⟨i, o⟩ := x
      simp only [List.cons_append, firstReports]
      split
      · rw [ih, List.filter_append, List.filter_filter, List.cons_append]
        congr 2
        apply List.filter_congr
        intro d _
        by_cases hdi : d.index = i
        · simp [hdi]
        · have hne : (d.index != i) = true := by simpa using hdi
          rw [hne, Bool.true_and]
          congr 1
          simp [hdi]
      · rw [ih]
        congr 1
        apply List.filter_congr
        intro d hd
        have hne : d.index ≠ i := fun h => by have := (mem_firstReports hd).1; omega
        simp [hne]

/-- A first report is a report made with no earlier report for its element. -/
theorem exists_split_of_mem_firstReports {n : Nat} {rs : List (Nat × Except ElementError α)}
    {d : Delivery α} (h : d ∈ firstReports n rs) :
    ∃ pre post, rs = pre ++ (d.index, d.outcome) :: post ∧ ∀ x ∈ pre, x.1 ≠ d.index := by
  induction rs with
  | nil => simp [firstReports] at h
  | cons x rs ih =>
      obtain ⟨i, o⟩ := x
      simp only [firstReports] at h
      split at h
      · rcases List.mem_cons.1 h with rfl | h
        · exact ⟨[], rs, rfl, by simp⟩
        · obtain ⟨h, hne⟩ := List.mem_filter.1 h
          obtain ⟨pre, post, rfl, hpre⟩ := ih h
          refine ⟨(i, o) :: pre, post, rfl, ?_⟩
          simp only [bne_iff_ne, ne_eq] at hne
          simpa [Ne.symm hne] using hpre
      · obtain ⟨pre, post, rfl, hpre⟩ := ih h
        refine ⟨(i, o) :: pre, post, rfl, ?_⟩
        have hne : i ≠ d.index := fun h' => by have := (mem_firstReports h).1; omega
        simpa [hne] using hpre

theorem passedOn_sublist (stop : Bool) (ds : List (Delivery α)) : (passedOn stop ds).Sublist ds := by
  cases stop
  · exact List.Sublist.refl ds
  · show (throughFirstError ds).Sublist ds
    induction ds with
    | nil => exact List.Sublist.slnil
    | cons d ds ih =>
        by_cases hd : d.isError
        · simp [throughFirstError, hd]
        · simpa [throughFirstError, hd] using ih

/-- Nothing comes after an error in what a sink stopping on error hands on. -/
theorem throughFirstError_error_last {ds pre post : List (Delivery α)} {d : Delivery α}
    (h : throughFirstError ds = pre ++ d :: post) (hd : d.isError = true) : post = [] := by
  induction ds generalizing pre with
  | nil => simp [throughFirstError] at h
  | cons e ds ih =>
      by_cases he : e.isError
      · simp only [throughFirstError, he, if_true] at h
        rcases pre with _ | ⟨_, pre⟩
        · simp only [List.nil_append, List.cons.injEq] at h
          exact h.2.symm
        · simp at h
      · simp only [throughFirstError, he, Bool.false_eq_true, if_false] at h
        rcases pre with _ | ⟨_, pre⟩
        · simp only [List.nil_append, List.cons.injEq] at h
          rw [← h.1] at hd
          exact absurd hd (by simp [he])
        · exact ih (List.cons.inj h).2

end Delivery

/-! ## One report -/

namespace SinkRun

variable {α : Type}

/-- Whether the sink passes an outcome for `i` on: it is not aborted, and `i`
is an element of the batch that has not received its outcome. -/
def accepts (r : SinkRun α) (i : Nat) : Bool :=
  !r.sink.aborted && decide (i < r.sink.len) && !r.sink.isReported i

/-- The run after a sequence of reports, made in order. -/
def reportAll (r : SinkRun α) (rs : List (Nat × Except ElementError α)) : SinkRun α :=
  rs.foldl (fun r x => r.report x.1 x.2) r

@[simp] theorem reportAll_nil (r : SinkRun α) : r.reportAll [] = r := rfl

@[simp] theorem reportAll_cons (r : SinkRun α) (x : Nat × Except ElementError α) (rs) :
    r.reportAll (x :: rs) = (r.report x.1 x.2).reportAll rs := rfl

theorem error_eq_report (r : SinkRun α) (i : Nat) (e : ElementError) :
    r.error i e = r.report i (.error e) := rfl

@[simp] theorem log_sink (r : SinkRun α) (l m f) : (r.log l m f).sink = r.sink := rfl

@[simp] theorem log_delivered (r : SinkRun α) (l m f) : (r.log l m f).delivered = r.delivered := rfl

theorem accept_eq (r : SinkRun α) (i : Nat) :
    (r.accept i).1 = r.accepts i ∧ (r.accept i).2.delivered = r.delivered ∧
      (r.accept i).2.sink =
        if r.accepts i then { r.sink with reported := r.sink.reported.set i true } else r.sink := by
  unfold accept accepts
  by_cases ha : r.sink.aborted <;> by_cases hi : i < r.sink.len <;> by_cases hr : r.sink.isReported i <;>
    simp [ha, hi, hr]

/-- A report is handed on exactly when the sink accepts it. -/
theorem report_delivered (r : SinkRun α) (i : Nat) (o : Except ElementError α) :
    (r.report i o).delivered = if r.accepts i then r.delivered ++ [⟨i, o⟩] else r.delivered := by
  obtain ⟨h1, h2, -⟩ := accept_eq r i
  cases o with
  | ok v =>
      simp only [report, success]
      split <;> simp_all
  | error e =>
      simp only [report, error]
      split <;> simp_all

/-- An accepted report marks its element, and an accepted error aborts a sink
that stops on error. -/
theorem report_sink (r : SinkRun α) (i : Nat) (o : Except ElementError α) :
    (r.report i o).sink =
      if r.accepts i then
        { r.sink with reported := r.sink.reported.set i true,
                      aborted := r.sink.stopOnError && (⟨i, o⟩ : Delivery α).isError }
      else r.sink := by
  obtain ⟨h1, -, h3⟩ := accept_eq r i
  have hab : r.accepts i = true → r.sink.aborted = false := by
    simp only [accepts, Bool.and_eq_true, Bool.not_eq_true']
    exact fun h => h.1.1
  cases o with
  | ok v =>
      simp only [report, success]
      split <;> simp_all
  | error e =>
      simp only [report, error]
      split <;> simp_all

theorem report_of_not_accepts {r : SinkRun α} {i : Nat} (h : r.accepts i = false)
    (o : Except ElementError α) : (r.report i o).sink = r.sink ∧ (r.report i o).delivered = r.delivered := by
  rw [report_sink, report_delivered, if_neg (by simp [h]), if_neg (by simp [h])]
  exact ⟨rfl, rfl⟩

/-- What a report does depends on the sink and the deliveries only, not on
the events logged. -/
theorem report_congr {r r' : SinkRun α} (hs : r.sink = r'.sink) (hd : r.delivered = r'.delivered)
    (i : Nat) (o : Except ElementError α) :
    (r.report i o).sink = (r'.report i o).sink ∧ (r.report i o).delivered = (r'.report i o).delivered := by
  have ha : r.accepts i = r'.accepts i := by simp [accepts, hs]
  simp [report_sink, report_delivered, ha, hs, hd]

/-! ## The invariant -/

/-- What the sink's bookkeeping says about the deliveries made: a sink for
`n` elements whose flags mark exactly the delivered elements, and which is
aborted exactly when it stops on error and has delivered an error. -/
structure Tracks (n : Nat) (stop : Bool) (r : SinkRun α) : Prop where
  len : r.sink.len = n
  stopOnError : r.sink.stopOnError = stop
  reported : ∀ i, r.sink.isReported i = true ↔ i ∈ r.delivered.map (·.index)
  aborted : r.sink.aborted = (stop && r.delivered.any (·.isError))

theorem tracks_fresh (n : Nat) (stop : Bool) : Tracks n stop (fresh n stop : SinkRun α) where
  len := by simp [fresh, Sink.fresh, Sink.len]
  stopOnError := rfl
  reported i := by
    simp only [fresh, Sink.fresh, Sink.isReported, List.getD_eq_getElem?_getD, List.getElem?_replicate]
    split <;> simp
  aborted := by simp [fresh, Sink.fresh]

variable {n : Nat} {stop : Bool} {r : SinkRun α}

theorem Tracks.accepts_iff (h : Tracks n stop r) (i : Nat) :
    r.accepts i = true ↔ r.sink.aborted = false ∧ i < n ∧ i ∉ r.delivered.map (·.index) := by
  rw [← h.len, ← h.reported i]
  simp [accepts, and_assoc]

theorem Tracks.report (h : Tracks n stop r) (i : Nat) (o : Except ElementError α) :
    Tracks n stop (r.report i o) := by
  by_cases ha : r.accepts i
  · obtain ⟨hab, hi, -⟩ := (h.accepts_iff i).1 ha
    have hclean : (stop && r.delivered.any (·.isError)) = false := by rw [← h.aborted, hab]
    constructor
    · simpa [report_sink, ha, Sink.len] using h.len
    · simpa [report_sink, ha] using h.stopOnError
    · intro j
      rw [report_sink, report_delivered, if_pos ha, if_pos ha]
      show (r.sink.reported.set i true).getD j false = true ↔ _
      have hr := h.reported j
      simp only [Sink.isReported] at hr
      rw [Sink.getD_set_true (h.len ▸ hi : i < r.sink.len), Bool.or_eq_true, beq_iff_eq, hr]
      simp [or_comm]
    · rw [report_sink, report_delivered, if_pos ha, if_pos ha, h.stopOnError]
      cases stop <;> simp_all
  · obtain ⟨hs, hd⟩ := report_of_not_accepts (by simpa using ha) o
    exact ⟨hs ▸ h.len, hs ▸ h.stopOnError, hs ▸ hd ▸ h.reported, hs ▸ hd ▸ h.aborted⟩

theorem Tracks.reportAll (h : Tracks n stop r) (rs : List (Nat × Except ElementError α)) :
    Tracks n stop (r.reportAll rs) := by
  induction rs generalizing r with
  | nil => exact h
  | cons x rs ih => exact ih (h.report x.1 x.2)

/-! ## Runs of reports -/

open Delivery

/-- An aborted sink takes nothing more. -/
theorem reportAll_of_aborted (h : r.sink.aborted = true) (rs : List (Nat × Except ElementError α)) :
    (r.reportAll rs).sink = r.sink ∧ (r.reportAll rs).delivered = r.delivered := by
  induction rs generalizing r with
  | nil => exact ⟨rfl, rfl⟩
  | cons x rs ih =>
      have hx := report_of_not_accepts (r := r) (i := x.1) (by simp [accepts, h]) x.2
      rw [reportAll_cons, (ih (hx.1 ▸ h)).1, (ih (hx.1 ▸ h)).2, hx.1, hx.2]
      exact ⟨rfl, rfl⟩

/-- What a sink not yet aborted hands on from a sequence of reports: the
first report of each element it has not served yet, up to the first error
when it stops on error. -/
theorem Tracks.reportAll_delivered (h : Tracks n stop r) (ha : r.sink.aborted = false)
    (rs : List (Nat × Except ElementError α)) :
    (r.reportAll rs).delivered =
      r.delivered ++
        passedOn stop ((firstReports n rs).filter fun d => d.index ∉ r.delivered.map (·.index)) := by
  induction rs generalizing r with
  | nil => simp [firstReports, passedOn_nil]
  | cons x rs ih =>
      obtain ⟨i, o⟩ := x
      rw [reportAll_cons]
      by_cases hacc : r.accepts i
      · -- a first report: handed on, and the run goes on unless it was an error that stops it
        obtain ⟨-, hi, hnew⟩ := (h.accepts_iff i).1 hacc
        have hd : (r.report i o).delivered = r.delivered ++ [⟨i, o⟩] := by
          rw [report_delivered, if_pos hacc]
        have hab : (r.report i o).sink.aborted = (stop && (⟨i, o⟩ : Delivery α).isError) := by
          rw [report_sink, if_pos hacc, h.stopOnError]
        have hfirst : (firstReports n ((i, o) :: rs)).filter
            (fun d => d.index ∉ r.delivered.map (·.index)) =
            ⟨i, o⟩ :: ((firstReports n rs).filter (·.index != i)).filter
              (fun d => d.index ∉ r.delivered.map (·.index)) := by
          simp only [firstReports, if_pos hi]
          rw [List.filter_cons_of_pos (by simpa using hnew)]
        rw [hfirst]
        cases herr : (stop && (⟨i, o⟩ : Delivery α).isError)
        · rw [ih (h.report i o) (hab.trans herr), hd, passedOn_cons herr, List.append_assoc,
            List.filter_filter, List.singleton_append]
          congr 3
          apply List.filter_congr
          intro d _
          by_cases hdi : d.index = i <;> simp [hdi, hnew]
        · rw [(reportAll_of_aborted (hab.trans herr) rs).2, hd, passedOn_cons_of_error herr]
      · -- a repeated or out-of-range report: dropped
        have hx := report_of_not_accepts (by simpa using hacc) o
        rw [ih (h.report i o) (hx.1 ▸ ha), hx.2]
        congr 2
        by_cases hi : i < n
        · have hold : i ∈ r.delivered.map (·.index) := by
            by_contra hnew
            exact hacc ((h.accepts_iff i).2 ⟨ha, hi, hnew⟩)
          simp only [firstReports, if_pos hi, List.filter_cons, hold, not_true_eq_false, decide_false,
            Bool.false_eq_true, if_false, List.filter_filter]
          congr 1
          funext d
          by_cases hdi : d.index = i <;> simp [hdi, hold]
        · simp [firstReports, hi]

theorem reportAll_fresh_delivered (n : Nat) (stop : Bool) (rs : List (Nat × Except ElementError α)) :
    ((fresh n stop).reportAll rs).delivered = passedOn stop (firstReports n rs) := by
  have h := (tracks_fresh (α := α) n stop).reportAll_delivered rfl rs
  rw [h]
  simp only [fresh, List.nil_append, List.map_nil, List.not_mem_nil, not_false_eq_true, decide_true]
  exact congrArg _ (List.filter_eq_self.2 fun _ _ => rfl)

/-- A fresh sink is aborted exactly when it stops on error and an error was
among the first reports. -/
theorem isAborted_reportAll_fresh (n : Nat) (stop : Bool) (rs : List (Nat × Except ElementError α)) :
    ((fresh n stop).reportAll rs).isAborted = (stop && (firstReports n rs).any (·.isError)) := by
  rw [isAborted, ((tracks_fresh n stop).reportAll rs).aborted, reportAll_fresh_delivered]
  cases stop
  · rfl
  · simp [passedOn, any_throughFirstError]

/-! ## Finishing -/

/-- A fold whose every step acts on the sink and the deliveries as a report
of the error `e` acts as the run of those reports. -/
theorem foldl_as_reports (f : SinkRun α → Nat → SinkRun α) (e : ElementError)
    (hf : ∀ acc i, (f acc i).sink = (acc.report i (.error e)).sink ∧
      (f acc i).delivered = (acc.report i (.error e)).delivered) (l : List Nat) :
    ∀ acc acc' : SinkRun α, acc.sink = acc'.sink → acc.delivered = acc'.delivered →
      (l.foldl f acc).sink = (acc'.reportAll (l.map (·, .error e))).sink ∧
      (l.foldl f acc).delivered = (acc'.reportAll (l.map (·, .error e))).delivered := by
  induction l with
  | nil => exact fun acc acc' hs hd => ⟨hs, hd⟩
  | cons i l ih =>
      intro acc acc' hs hd
      have hstep := report_congr hs hd i (.error e)
      exact ih (f acc i) (acc'.report i (.error e)) ((hf acc i).1.trans hstep.1)
        ((hf acc i).2.trans hstep.2)

/-- As far as the sink and its deliveries go, `finish` is one report of the
`unknown` error for each element still unreported, in ascending order. -/
theorem finish_as_reports (r : SinkRun α) :
    r.finish.sink = (r.reportAll (r.sink.unreported.map (·, .error ElementError.unreported))).sink ∧
    r.finish.delivered =
      (r.reportAll (r.sink.unreported.map (·, .error ElementError.unreported))).delivered := by
  refine foldl_as_reports _ _ (fun acc i => ?_) _ r r rfl rfl
  by_cases ha : acc.sink.aborted
  · have hx := report_of_not_accepts (r := acc) (i := i) (by simp [accepts, ha])
      (.error ElementError.unreported)
    simp only [ha, if_true]
    exact ⟨hx.1.symm, hx.2.symm⟩
  · simp only [ha, Bool.false_eq_true, if_false, error_eq_report]
    exact report_congr (log_sink _ _ _ _) (log_delivered _ _ _ _) i _

/-- The elements a fresh sink has not served after taking every first
report are those no report names. -/
theorem unreported_reportAll_fresh {rs : List (Nat × Except ElementError α)}
    (h : ((fresh n stop).reportAll rs).delivered = firstReports n rs) :
    ((fresh n stop).reportAll rs).sink.unreported = neverReported n rs := by
  have ht := (tracks_fresh (α := α) n stop).reportAll rs
  rw [Sink.unreported_eq, ht.len, neverReported]
  apply List.filter_congr
  intro i hi
  rw [List.mem_range] at hi
  have hrep := ht.reported i
  rw [h, index_mem_firstReports] at hrep
  rw [Bool.eq_iff_iff, Bool.not_eq_true', ← Bool.not_eq_true, hrep]
  simp only [hi, true_and, not_exists, not_and, List.all_eq_true, bne_iff_ne, ne_eq]

/-- Everything a fresh sink for `n` elements hands on, for any sequence of
reports followed by `finish`: the first report of each element, in the order
made, then the `unknown` error for each element never reported, ascending;
cut just after the first error when the sink stops on error. -/
theorem delivered_finish (n : Nat) (stop : Bool) (rs : List (Nat × Except ElementError α)) :
    ((fresh n stop).reportAll rs).finish.delivered =
      passedOn stop (firstReports n rs ++ (neverReported n rs).map unreported) := by
  have ht := (tracks_fresh (α := α) n stop).reportAll rs
  have hr := reportAll_fresh_delivered n stop rs
  have habort := isAborted_reportAll_fresh (α := α) n stop rs
  rw [(finish_as_reports _).2]
  cases hab : ((fresh n stop).reportAll rs).sink.aborted
  · -- the sink took every first report, none of them an error if it stops on error
    have hok : stop = true → ∀ d ∈ firstReports n rs, d.isError = false := by
      rintro rfl
      rw [isAborted, hab] at habort
      simpa using habort.symm
    have hdel : ((fresh n stop).reportAll rs).delivered = firstReports n rs := by
      rw [hr]
      cases stop
      · rfl
      · simpa [passedOn, throughFirstError] using throughFirstError_append_of_ok (hok rfl) []
    have hfill : firstReports (α := α) n ((neverReported n rs).map (·, .error ElementError.unreported)) =
        (neverReported n rs).map unreported :=
      firstReports_of_nodup ((List.nodup_range).filter _)
        (fun i hi => by simpa [neverReported] using (List.mem_filter.1 hi).1) _
    have hkeep : ((neverReported n rs).map (unreported (α := α))).filter
        (fun d => d.index ∉ (firstReports n rs).map (·.index)) = (neverReported n rs).map unreported := by
      rw [List.filter_eq_self]
      intro d hd
      obtain ⟨i, hi, rfl⟩ := List.mem_map.1 hd
      simp only [neverReported, List.mem_filter, List.all_eq_true, bne_iff_ne] at hi
      simp only [unreported, index_mem_firstReports, decide_eq_true_eq, not_and, not_exists]
      exact fun _ x hx => hi.2 x hx
    rw [ht.reportAll_delivered hab, unreported_reportAll_fresh hdel, hfill, hdel, hkeep]
    cases stop
    · rfl
    · simp only [passedOn, if_true]
      exact (throughFirstError_append_of_ok (hok rfl) _).symm
  · -- aborted: an error was handed on, and nothing is after it
    have herr : stop = true ∧ ∃ d ∈ firstReports n rs, d.isError = true := by
      rw [isAborted, hab] at habort
      simpa using habort.symm
    obtain ⟨rfl, herr⟩ := herr
    rw [(reportAll_of_aborted hab _).2, hr]
    simp only [passedOn, if_true]
    exact (throughFirstError_append_of_error herr _).symm

end SinkRun

end AssetBroker
