import AssetBroker.Proofs.RefusedCalls
import Mathlib

/-!
# The catalog's batch loops

The catalog answers a batch by walking its elements in order, looking at
the sink before each one and reporting one outcome per element. This module
states such a walk as the run of its reports (`Catalog.reportsFrom`). Into a
sink that does not stop on error the walk makes every report
(`Catalog.reportEach_go_of_tracks`); a walk that reports every element, in
order, hands the caller exactly its reports (`handedOn_reportsFrom_map_some`)
and each element its own outcome (`find?_reportsFrom_map_some`).

A gated call that passes its checks leaves the session with the manager the
implementation returned (`Session.gated_run_backend`).
-/

namespace AssetBroker

variable {α : Type}

namespace Catalog

/-- The reports a loop over `outcomes` makes from index `i` on: one for each
element that has an outcome, under its index. -/
def reportsFrom (i : Nat) : List (Option (Except ElementError α)) → List (Nat × Except ElementError α)
  | [] => []
  | none :: rest => reportsFrom (i + 1) rest
  | some o :: rest => (i, o) :: reportsFrom (i + 1) rest

@[simp] theorem reportsFrom_nil (i : Nat) : reportsFrom i ([] : List (Option (Except ElementError α))) = [] :=
  rfl

@[simp] theorem reportsFrom_some (i : Nat) (o : Except ElementError α) (rest) :
    reportsFrom i (some o :: rest) = (i, o) :: reportsFrom (i + 1) rest := rfl

/-- A sink that does not stop on error is never aborted, so the catalog's
loop makes every report it has. -/
theorem reportEach_go_of_tracks {n : Nat} {run : SinkRun α} (h : SinkRun.Tracks n false run)
    (i : Nat) (outcomes : List (Option (Except ElementError α))) :
    reportEach.go run i outcomes = run.reportAll (reportsFrom i outcomes) := by
  induction outcomes generalizing run i with
  | nil => rfl
  | cons o rest ih =>
    have hlive : run.isAborted = false := by simpa [SinkRun.isAborted] using h.aborted
    cases o with
    | none => simp only [reportEach.go, hlive, reportsFrom, ih h]; rfl
    | some o =>
      simp only [reportEach.go, hlive, reportsFrom, SinkRun.reportAll_cons]
      exact ih (h.report i o) (i + 1)

/-- A loop from `i` over outcomes that are all there reports each under its
index. -/
theorem reportsFrom_map_some (i : Nat) (xs : List (Except ElementError α)) :
    reportsFrom i (xs.map some) = (xs.zipIdx i).map fun x => (x.2, x.1) := by
  induction xs generalizing i with
  | nil => rfl
  | cons x xs ih => simp [ih, List.zipIdx_cons]

/-- Handed on as deliveries, the reports of a loop over outcomes that are all
there are the outcomes under their indices. -/
theorem deliveries_reportsFrom_map_some (i : Nat) (xs : List (Except ElementError α)) :
    (reportsFrom i (xs.map some)).map (fun x => (⟨x.1, x.2⟩ : Delivery α)) =
      (xs.zipIdx i).map fun x => ⟨x.2, x.1⟩ := by
  rw [reportsFrom_map_some, List.map_map]
  rfl

/-- The reports of a loop from `i` over outcomes that are all there name
the indices from `i` on, in order. -/
theorem indices_reportsFrom_map_some (i : Nat) (xs : List (Except ElementError α)) :
    (reportsFrom i (xs.map some)).map (·.1) = List.range' i xs.length := by
  rw [reportsFrom_map_some, List.map_map]
  exact List.zipIdx_map_snd i xs

/-- Among the reports of outcomes that are all there, element `j` is found
with its own outcome. -/
theorem find?_reportsFrom_map_some (i : Nat) (xs : List (Except ElementError α)) {j : Nat}
    (hj : j < xs.length) :
    (reportsFrom i (xs.map some)).find? (·.1 == i + j) = some (i + j, xs[j]) := by
  induction xs generalizing i j with
  | nil => simp at hj
  | cons x xs ih =>
    cases j with
    | zero => simp
    | succ j =>
      have hskip : (i == i + (j + 1)) = false := by simp
      simp only [List.map_cons, reportsFrom, List.find?_cons, hskip]
      rw [show i + (j + 1) = (i + 1) + j by omega, ih (i + 1) (by simpa using hj)]
      rfl

/-- Element by element, a loop that reports every element hands each its own
outcome. -/
theorem firstOutcome_reportsFrom_map_some (xs : List (Except ElementError α)) :
    (List.range xs.length).map (firstOutcome (reportsFrom 0 (xs.map some))) = xs := by
  apply List.ext_getElem (by simp)
  intro j hj _
  have hfind := find?_reportsFrom_map_some 0 xs (j := j) (by simpa using hj)
  rw [Nat.zero_add] at hfind
  simp [firstOutcome, hfind]

end Catalog

namespace Delivery

/-- Reports that name distinct elements of the batch are each the first. -/
theorem firstReports_of_indices_nodup {n : Nat} {rs : List (Nat × Except ElementError α)}
    (hl : (rs.map (·.1)).Nodup) (hn : ∀ x ∈ rs, x.1 < n) :
    firstReports n rs = rs.map fun x => ⟨x.1, x.2⟩ := by
  induction rs with
  | nil => rfl
  | cons x rs ih =>
    simp only [List.map_cons, List.nodup_cons, List.mem_map, not_exists, not_and] at hl
    simp only [List.mem_cons, forall_eq_or_imp] at hn
    simp only [firstReports, if_pos hn.1, ih hl.2 hn.2, List.map_cons, List.cons.injEq, true_and]
    rw [List.filter_eq_self]
    intro d hd
    obtain ⟨y, hy, rfl⟩ := List.mem_map.1 hd
    simpa using fun h : y.1 = x.1 => hl.1 y hy h

/-- A batch whose every element was reported leaves none for `finish`. -/
theorem neverReported_of_indices {n : Nat} {rs : List (Nat × Except ElementError α)}
    (h : ∀ j < n, ∃ x ∈ rs, x.1 = j) : neverReported n rs = [] := by
  rw [neverReported, List.filter_eq_nil_iff]
  intro j hj
  obtain ⟨x, hx, rfl⟩ := h j (List.mem_range.1 hj)
  simp only [List.all_eq_true, bne_iff_ne, ne_eq, not_forall, not_not]
  exact ⟨x, hx, rfl⟩

/-- A loop from `i` that reports elements of the batch in order makes only
first reports. -/
theorem firstReports_reportsFrom_map_some {n i : Nat} {xs : List (Except ElementError α)}
    (h : i + xs.length ≤ n) :
    firstReports n (Catalog.reportsFrom i (xs.map some)) =
      (Catalog.reportsFrom i (xs.map some)).map fun x => ⟨x.1, x.2⟩ := by
  have hidx := Catalog.indices_reportsFrom_map_some i xs
  refine firstReports_of_indices_nodup (hidx ▸ List.nodup_range') fun x hx => ?_
  have hmem : x.1 ∈ List.range' i xs.length := hidx ▸ List.mem_map_of_mem hx
  rw [List.mem_range'_1] at hmem
  omega

/-- A loop that reports every element of the batch, in order, has its
reports handed on as they are, and `finish` adds nothing. -/
theorem handedOn_reportsFrom_map_some (xs : List (Except ElementError α)) :
    firstReports xs.length (Catalog.reportsFrom 0 (xs.map some)) ++
        (neverReported xs.length (Catalog.reportsFrom 0 (xs.map some))).map unreported =
      (Catalog.reportsFrom 0 (xs.map some)).map fun x => ⟨x.1, x.2⟩ := by
  have hidx := Catalog.indices_reportsFrom_map_some 0 xs
  rw [← List.range_eq_range'] at hidx
  have hfirst : firstReports xs.length (Catalog.reportsFrom 0 (xs.map some)) = _ :=
    firstReports_reportsFrom_map_some (by omega)
  have hnever : neverReported xs.length (Catalog.reportsFrom 0 (xs.map some)) = [] := by
    apply neverReported_of_indices
    intro j hj
    obtain ⟨y, hy, hyj⟩ := List.mem_map.1 (hidx ▸ List.mem_range.2 hj : j ∈ _)
    exact ⟨y, hy, hyj⟩
  rw [hfirst, hnever, List.map_nil, List.append_nil]

end Delivery

namespace Session

/-- A gated call that passes its checks leaves the manager as the
implementation returned it. -/
theorem gated_run_backend {cap : Capability} {check : Except BrokerError Unit} {n : Nat} {stop : Bool}
    {call : Backend → SinkRun α → Reply α} {s : Session}
    (hcap : s.backend.hasCapability cap = true) (hcheck : check = .ok ()) :
    ((gated cap check n stop call).run s).2.backend = (call s.backend (SinkRun.fresh n stop)).backend := by
  subst hcheck
  simp [gated, require, runSink, hcap]
  rfl

end Session

end AssetBroker
