import AssetBroker.Batch.Relay
import AssetBroker.Proofs.SinkRun
import AssetBroker.Manager.Pages
import AssetBroker.Manager.Session

/-!
# A relay in front of a fresh sink changes nothing

A relaying manager puts a sink of its own in front of the caller's
(`Relay.bind`) and lets the manager it wraps report into that. Put in front
of a fresh sink for as many elements, the relay cannot be seen: whatever the
wrapped manager reports, the caller's sink ends up exactly as if the reports
had been made into it directly, each value wrapped (`relay_is_transparent`),
its callbacks fired, its flags set and its log written alike; and after every
report the relay's abort flag and flags are the caller's, so the wrapped
manager polling the relay sees what the caller's sink would answer.

One invariant carries it: the relay *mirrors* the caller's sink when its
bookkeeping is that sink's own (`Relay.mirror`). A mirroring relay takes an
outcome exactly when the caller's sink would, logging what that sink would
log, and hands it on to a sink that then takes it silently. So one report
keeps the relay mirroring (`mirror_report`), a run of them does
(`mirror_reportAll`), and a relay bound in front of a fresh sink starts out
mirroring it (`bind_eq_mirror`).

A bound manager's paged queries are served through such a relay
(`Backend.bindPagers`): the wrapped manager reports into the relay's own
sink, and what that sink took is run through the relay. Every manager's paged
method only reports into the sink it is handed (`Backend.reports_paged`), and
reported again into the sink it started from, what a run of reports took is
taken in full and ends where the run ended (`SinkRun.reportAll_replay`). So a
bound manager answers its paged queries, delivers, logs and fails exactly as
the manager it wraps (`Session.bound_paging_is_plain_paging`).
-/

namespace AssetBroker

variable {α β : Type}

namespace SinkRun

/-- Deciding on an outcome reads neither the deliveries nor changes them. -/
theorem accept_withDelivered (r : SinkRun α) (d : List (Delivery α)) (i : Nat) :
    ({ r with delivered := d } : SinkRun α).accept i = ((r.accept i).1, { (r.accept i).2 with delivered := d }) := by
  unfold accept
  by_cases ha : r.sink.aborted
  · simp [ha, log]
  · by_cases hi : i < r.sink.len
    · by_cases hr : r.sink.isReported i
      · simp [ha, hi, hr, log]
      · simp [ha, hi, hr]
    · simp [ha, hi, log]

/-- A taken outcome marks its index and logs nothing. -/
theorem accept_eq_true {r r' : SinkRun α} {i : Nat} (h : r.accept i = (true, r')) :
    r' = { r with sink := { r.sink with reported := r.sink.reported.set i true } } := by
  unfold accept at h
  by_cases ha : r.sink.aborted
  · simp [ha] at h
  · by_cases hi : i < r.sink.len
    · by_cases hr : r.sink.isReported i
      · simp [ha, hi, hr] at h
      · rw [if_neg ha, if_pos hi, if_neg hr] at h
        exact (Prod.mk.inj h).2.symm
    · simp [ha, hi] at h

/-- A dropped outcome only logs. -/
theorem accept_eq_false {r r' : SinkRun α} {i : Nat} (h : r.accept i = (false, r')) :
    r' = { r with trail := r'.trail } := by
  unfold accept at h
  by_cases ha : r.sink.aborted
  · simp only [ha, if_true, Prod.mk.injEq, true_and] at h
    rw [← h]
    rfl
  · by_cases hi : i < r.sink.len
    · by_cases hr : r.sink.isReported i
      · simp only [ha, hi, hr, Bool.false_eq_true, if_false, if_true, Prod.mk.injEq, true_and] at h
        rw [← h]
        rfl
      · simp [ha, hi, hr] at h
    · simp only [ha, hi, Bool.false_eq_true, if_false, Prod.mk.injEq, true_and] at h
      rw [← h]
      rfl

end SinkRun

namespace Relay

/-- The relay whose bookkeeping is the caller's sink's own. -/
def mirror (run : SinkRun α) : Relay α := ⟨run.sink, run⟩

/-- The relay after a sequence of reports, made in order. -/
def reportAll (wrap : β → α) (r : Relay α) (rs : List (Nat × Except ElementError β)) : Relay α :=
  rs.foldl (fun r x => r.report wrap x.1 x.2) r

/-- The reports handed to the caller's sink, each value wrapped. -/
def wrapped (wrap : β → α) (rs : List (Nat × Except ElementError β)) : List (Nat × Except ElementError α) :=
  rs.map fun x => (x.1, x.2.map wrap)

@[simp] theorem reportAll_nil (wrap : β → α) (r : Relay α) : r.reportAll wrap [] = r := rfl

@[simp] theorem reportAll_cons (wrap : β → α) (r : Relay α) (x : Nat × Except ElementError β) (rs) :
    r.reportAll wrap (x :: rs) = (r.report wrap x.1 x.2).reportAll wrap rs := rfl

/-- A mirroring relay decides as the caller's sink would, and logs as it
would, but leaves the caller's flags to the caller's sink. -/
theorem mirror_accept {run run' : SinkRun α} {i : Nat} {passed : Bool}
    (h : run.accept i = (passed, run')) :
    (mirror run).accept i = (passed, ⟨run'.sink, { run with trail := run'.trail }⟩) := by
  have hown : (mirror run).own = { run with delivered := [] } := rfl
  unfold accept
  rw [hown, SinkRun.accept_withDelivered, h]
  rfl

/-- A mirroring relay that takes an outcome has marked its own flag only. -/
theorem mirror_accept_taken {run run' : SinkRun α} {i : Nat} (h : run.accept i = (true, run')) :
    (mirror run).accept i = (true, ⟨run'.sink, run⟩) := by
  rw [mirror_accept h, SinkRun.accept_eq_true h]

/-- A mirroring relay that drops an outcome still mirrors the caller's sink
as it would be had it dropped the outcome itself. -/
theorem mirror_accept_dropped {run run' : SinkRun α} {i : Nat} (h : run.accept i = (false, run')) :
    (mirror run).accept i = (false, mirror run') := by
  rw [mirror_accept h, ← SinkRun.accept_eq_false h]
  rfl

/-- **Step.** One report into a mirroring relay is the report, wrapped, into
the caller's sink, and the relay still mirrors it. -/
theorem mirror_report (wrap : β → α) (run : SinkRun α) (i : Nat) (o : Except ElementError β) :
    (mirror run).report wrap i o = mirror (run.report i (o.map wrap)) := by
  rcases hacc : run.accept i with ⟨_ | _, run'⟩
  · -- dropped: both log the same warning and nothing else
    have hrelay := mirror_accept_dropped hacc
    cases o with
    | ok v =>
      simp only [report, success, hrelay, Except.map, SinkRun.report, SinkRun.success, hacc]
    | error e =>
      simp only [report, error, hrelay, Except.map, SinkRun.report, SinkRun.error, hacc]
  · -- taken: the relay marks its own flag, then the caller's sink takes it
    have hrelay := mirror_accept_taken hacc
    cases o with
    | ok v =>
      simp only [report, success, hrelay, Except.map, SinkRun.report, SinkRun.success, hacc]
      rfl
    | error e =>
      simp only [report, error, hrelay, Except.map, SinkRun.report, SinkRun.error, hacc]
      rfl

/-- **Run.** A run of reports into a mirroring relay is the run of the
wrapped reports into the caller's sink, and the relay ends mirroring it. -/
theorem mirror_reportAll (wrap : β → α) (run : SinkRun α) (rs : List (Nat × Except ElementError β)) :
    (mirror run).reportAll wrap rs = mirror (run.reportAll (wrapped wrap rs)) := by
  induction rs generalizing run with
  | nil => rfl
  | cons x rs ih =>
    rw [reportAll_cons, mirror_report, ih]
    rfl

/-- A relay bound in front of a fresh sink for as many elements starts out
mirroring it. -/
theorem bind_eq_mirror {len : Nat} {outer : SinkRun α}
    (hfresh : outer.sink.reported = List.replicate len false) (hcalm : outer.sink.aborted = false) :
    bind len outer = mirror outer := by
  obtain ⟨⟨reported, stop, aborted⟩, delivered, trail⟩ := outer
  simp only at hfresh hcalm
  subst hfresh hcalm
  rfl

end Relay

/-- **A relay is transparent.** Bind a relay for `len` elements in front of a
fresh sink for `len` elements (no element reported, not aborted), stopping on
error or not, and let the wrapped manager make any sequence of reports into
the relay. The caller's sink then ends up exactly as if the same reports,
each value wrapped, had been made into it directly: the same callbacks fired
in the same order, the same flags, the same log. The relay's abort flag and
flags are then the caller's sink's. -/
theorem relay_is_transparent (len : Nat) (outer : SinkRun α)
    (hfresh : outer.sink.reported = List.replicate len false) (hcalm : outer.sink.aborted = false)
    (wrap : β → α) (rs : List (Nat × Except ElementError β)) :
    let relay := (Relay.bind len outer).reportAll wrap rs
    relay.outer = outer.reportAll (Relay.wrapped wrap rs) ∧
      relay.isAborted = relay.outer.isAborted ∧ ∀ i, relay.isReported i = relay.outer.sink.isReported i := by
  intro relay
  have hrun : relay = Relay.mirror (outer.reportAll (Relay.wrapped wrap rs)) := by
    rw [← Relay.mirror_reportAll, ← Relay.bind_eq_mirror hfresh hcalm]
  rw [hrun]
  exact ⟨rfl, rfl, fun _ => rfl⟩

/-- The paged query of the binding's own test, through a relay in front of a
sink for three elements that stops on error: a pager for the first element,
an error for the second, then a pager for the third that the aborted sink
drops. -/
theorem relay_before_stopping_sink :
    let outer : SinkRun PageSource := SinkRun.fresh 3 true
    let rs : List (Nat × Except ElementError PageSource) :=
      [(0, .ok .empty), (1, .error ⟨.entityResolutionError, "file:///b"⟩), (2, .ok .empty)]
    (outer.sink.reported = List.replicate 3 false ∧ outer.sink.aborted = false) ∧
      let relay := (Relay.bind 3 outer).reportAll id rs
      relay.outer = outer.reportAll (Relay.wrapped id rs) ∧
        relay.isAborted = relay.outer.isAborted ∧ ∀ i, relay.isReported i = relay.outer.sink.isReported i :=
  ⟨⟨rfl, rfl⟩, relay_is_transparent 3 _ rfl rfl id _⟩

/-! ## Bound managers -/

namespace SinkRun

theorem eq_of_parts {r r' : SinkRun α} (hs : r.sink = r'.sink) (hd : r.delivered = r'.delivered)
    (ht : r.trail = r'.trail) : r = r' := by
  obtain ⟨s, d, t⟩ := r
  obtain ⟨s', d', t'⟩ := r'
  simp only at hs hd ht
  subst hs hd ht
  rfl

/-- A taken report logs nothing. -/
theorem report_trail_of_accepts {r : SinkRun α} {i : Nat} (h : r.accepts i = true)
    (o : Except ElementError α) : (r.report i o).trail = r.trail := by
  rcases hacc : r.accept i with ⟨passed, r'⟩
  have hpassed : passed = true := by rw [← h, ← (accept_eq r i).1, hacc]
  subst hpassed
  have hrun := accept_eq_true hacc
  cases o with
  | ok v => simp only [report, success, hacc, hrun]
  | error e => simp only [report, error, hacc, hrun]

/-- **Replay.** What a run of reports took, reported again in order into the
sink the run started from, is taken in full and ends where the run ended;
the log is the one it started from, without the warnings for what the run
dropped. -/
theorem reportAll_replay (r : SinkRun α) (rs : List (Nat × Except ElementError α)) :
    ∃ news, (r.reportAll rs).delivered = r.delivered ++ news ∧
      ∀ t, ({ r with trail := t } : SinkRun α).reportAll (news.map fun d => (d.index, d.outcome)) =
        { r.reportAll rs with trail := t } := by
  induction rs generalizing r with
  | nil => exact ⟨[], by simp, fun t => rfl⟩
  | cons x rs ih =>
    obtain ⟨news, hd, hre⟩ := ih (r.report x.1 x.2)
    have hcongr := fun t => @report_congr α { r with trail := t } r rfl rfl x.1 x.2
    by_cases ha : r.accepts x.1 = true
    · -- taken: the replay takes it too, and logs nothing
      refine ⟨⟨x.1, x.2⟩ :: news, ?_, fun t => ?_⟩
      · rw [reportAll_cons, hd, report_delivered, if_pos ha, List.append_assoc, List.singleton_append]
      · have hstep : ({ r with trail := t } : SinkRun α).report x.1 x.2 = { r.report x.1 x.2 with trail := t } :=
          eq_of_parts (hcongr t).1 (hcongr t).2 (@report_trail_of_accepts α { r with trail := t } x.1 ha x.2)
        rw [List.map_cons, reportAll_cons, reportAll_cons, hstep, hre t]
    · -- dropped: the run only logged, and the replay has nothing to take
      obtain ⟨hs, hd'⟩ := report_of_not_accepts (by simpa using ha) x.2
      refine ⟨news, by rw [reportAll_cons, hd, hd'], fun t => ?_⟩
      have hstart : ({ r with trail := t } : SinkRun α) = { r.report x.1 x.2 with trail := t } :=
        eq_of_parts hs.symm hd'.symm rfl
      rw [reportAll_cons, hstart, hre t]

end SinkRun

/-- A batch method that does nothing to the sink it is handed but report
into it: what it leaves is a run of reports from that sink. -/
def ReportsOnly (call : SinkRun α → Reply α) : Prop :=
  ∀ run, ∃ rs, (call run).run = run.reportAll rs

/-- The catalog's loop over a batch is a run of reports into the sink it is
handed, cut short once that sink is aborted. -/
theorem Catalog.reportEach_go_reports (run : SinkRun α) (i : Nat)
    (outcomes : List (Option (Except ElementError α))) :
    ∃ rs, Catalog.reportEach.go run i outcomes = run.reportAll rs := by
  induction outcomes generalizing run i with
  | nil => exact ⟨[], rfl⟩
  | cons o rest ih =>
    cases ha : run.isAborted with
    | true => exact ⟨[], by simp [Catalog.reportEach.go, ha]⟩
    | false =>
      cases o with
      | none =>
        obtain ⟨rs, h⟩ := ih run (i + 1)
        exact ⟨rs, by simp [Catalog.reportEach.go, ha, h]⟩
      | some o =>
        obtain ⟨rs, h⟩ := ih (run.report i o) (i + 1)
        exact ⟨(i, o) :: rs, by simp [Catalog.reportEach.go, ha, h]⟩

/-- A script played into a sink is a run of reports into it, up to its end,
a failure, a value it cannot read, or a poll of an aborted sink. -/
theorem Scripted.play_go_reports (method : String) (read : Json → Option α) (run : SinkRun α)
    (cues : List Cue) : ∃ rs, (Scripted.play.go method read run cues).1 = run.reportAll rs := by
  induction cues generalizing run with
  | nil => exact ⟨[], rfl⟩
  | cons c rest ih =>
    cases c with
    | report i o =>
      cases o with
      | ok j =>
        cases hr : read j with
        | none => exact ⟨[], by simp [Scripted.play.go, hr]⟩
        | some v =>
          obtain ⟨rs, h⟩ := ih (run.success i v)
          exact ⟨(i, .ok v) :: rs, by simp [Scripted.play.go, hr, h]; rfl⟩
      | error e =>
        obtain ⟨rs, h⟩ := ih (run.error i e)
        exact ⟨(i, .error e) :: rs, by simp [Scripted.play.go, h]; rfl⟩
    | poll =>
      cases ha : run.isAborted with
      | true => exact ⟨[], by simp [Scripted.play.go, ha]⟩
      | false =>
        obtain ⟨rs, h⟩ := ih run
        exact ⟨rs, by simp [Scripted.play.go, ha, h]⟩
    | fail m => exact ⟨[], rfl⟩

/-- An empty pager for each element, reported in order. -/
theorem SinkRun.emptyPagers_eq (len : Nat) (run : SinkRun PageSource) :
    (List.range len).foldl (fun r i => r.success i .empty) run =
      run.reportAll ((List.range len).map fun i => (i, .ok .empty)) := by
  rw [SinkRun.reportAll, List.foldl_map]
  rfl

theorem Scripted.playPaged_reports (s : Scripted) (method : String) (len : Nat) (run : SinkRun PageSource) :
    ∃ rs, (s.playPaged method len run).1 = run.reportAll rs := by
  unfold Scripted.playPaged
  split
  · exact Scripted.play_go_reports method readPager run _
  · exact ⟨_, SinkRun.emptyPagers_eq len run⟩

/-- Every manager's paged methods only report into the sink they are
handed. -/
theorem Backend.reports_paged (b : Backend) (result : TraitSet) (pageSize : Nat) :
    (∀ refs relationship, ReportsOnly (b.getWithRelationshipPaged refs relationship result pageSize)) ∧
      ∀ r relationships, ReportsOnly (b.getWithRelationshipsPaged r relationships result pageSize) := by
  refine ⟨fun refs relationship run => ?_, fun r relationships run => ?_⟩ <;> cases b with
  | catalog c => exact Catalog.reportEach_go_reports run 0 _
  | scripted s => exact Scripted.playPaged_reports s _ _ run
  | bare _ => exact ⟨_, SinkRun.emptyPagers_eq _ run⟩

namespace Relay

/-- Reports, each value wrapped by nothing, are the reports themselves. -/
@[simp] theorem wrapped_id (rs : List (Nat × Except ElementError α)) : wrapped id rs = rs := by
  simp [wrapped, Except.map_id]

end Relay

/-- The binding as a run of the wrapped manager's reports, passed through a
relay for `len` elements in front of the caller's sink with the wrapped
manager's log. -/
theorem Backend.bindPagers_eq (len : Nat) (call : SinkRun PageSource → Reply PageSource)
    (outer : SinkRun PageSource) :
    Backend.bindPagers len call outer =
      { call (Relay.bind len outer).own with
        run := ((Relay.bind len { outer with trail := (call (Relay.bind len outer).own).run.trail }).reportAll id
          ((call (Relay.bind len outer).own).run.delivered.map fun d => (d.index, d.outcome))).outer } := by
  rw [Relay.reportAll, List.foldl_map]
  rfl

/-- **A bound paged method is the method.** In front of a fresh sink, a relay
passes on exactly what the wrapped manager's reports left in its own sink,
so the binding answers, delivers and logs as the manager does. -/
theorem Backend.bindPagers_fresh {len : Nat} {stop : Bool} {call : SinkRun PageSource → Reply PageSource}
    (h : ReportsOnly call) :
    Backend.bindPagers len call (SinkRun.fresh len stop) = call (SinkRun.fresh len stop) := by
  obtain ⟨rs, hrun⟩ := h (SinkRun.fresh len stop)
  obtain ⟨news, hd, hre⟩ := SinkRun.reportAll_replay (SinkRun.fresh len stop) rs
  have hnews : (call (SinkRun.fresh len stop)).run.delivered = news := by
    rw [hrun, hd]
    rfl
  -- the wrapped manager runs on the relay's own sink, a fresh one
  have hown : (Relay.bind len (SinkRun.fresh len stop : SinkRun PageSource)).own = SinkRun.fresh len stop := rfl
  -- and the relay in front of the caller's sink with the wrapped manager's log
  -- mirrors that sink, so what the relay passes on is replayed into it
  have hmirror : ∀ t, Relay.bind len ({ SinkRun.fresh len stop with trail := t } : SinkRun PageSource) =
      Relay.mirror { SinkRun.fresh len stop with trail := t } := fun _ => Relay.bind_eq_mirror rfl rfl
  rw [Backend.bindPagers_eq, hown, hmirror, Relay.mirror_reportAll, Relay.wrapped_id, hnews, hre, ← hrun]
  rfl

/-- A gated call runs its method once, on a fresh sink: methods that answer
alike there make the same step. -/
theorem Session.gated_congr_fresh {cap : Capability} {check : Except BrokerError Unit} {len : Nat}
    {stop : Bool} {call call' : Backend → SinkRun α → Reply α}
    (h : ∀ b, call b (SinkRun.fresh len stop) = call' b (SinkRun.fresh len stop)) :
    Session.gated cap check len stop call = Session.gated cap check len stop call' := by
  unfold Session.gated Session.runSink
  simp only [h]

/-- **Binding a manager changes none of its paged answers.** A manager whose
code lives in a loaded binary serves both paged queries through a relay in
front of the caller's sink, and the session step is the one of the manager it
wraps: the same deliveries, the same failure, the same log and the same
manager after. -/
theorem Session.bound_paging_is_plain_paging (result : TraitSet) (pageSize : Nat) (stop : Bool) :
    (∀ refs relationship, Session.boundGetWithRelationshipPaged refs relationship result pageSize stop =
      Session.getWithRelationshipPaged refs relationship result pageSize stop) ∧
      ∀ r relationships, Session.boundGetWithRelationshipsPaged r relationships result pageSize stop =
        Session.getWithRelationshipsPaged r relationships result pageSize stop := by
  constructor
  · intro refs relationship
    exact Session.gated_congr_fresh fun b =>
      Backend.bindPagers_fresh ((Backend.reports_paged b result pageSize).1 refs relationship)
  · intro r relationships
    exact Session.gated_congr_fresh fun b =>
      Backend.bindPagers_fresh ((Backend.reports_paged b result pageSize).2 r relationships)

end AssetBroker
