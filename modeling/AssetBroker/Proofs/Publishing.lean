import AssetBroker.Proofs.CatalogLoops
import AssetBroker.Proofs.TraitsCanonical
import Mathlib

/-!
# Publishing to the catalog

A register call publishes data under references. For each element in turn
the catalog stores the element's data under its reference (for related
creation, under a fresh reference below it), records the element's index and
answers the reference it stored under; a reference that is not the
catalog's is refused as malformed and leaves the catalog alone. The loop
looks at the sink before each element, and under the exception policy the
sink stops at the first error.

Main statement (`register_publishes_as_policy_says`): under the exception
policy the call publishes exactly the leading well-formed elements and then
fails with the first malformed one, or publishes all and succeeds; under the
variant policy and in the raw shape every element is answered in order and
every well-formed one is published, in order. Either way the library then
holds, under each reference written to, the data of the last element
published under it.

A batch is followed as a list of `Publication`s, each element with the
reference its data is stored under. One element moves the loop as
`register_go_malformed` and `register_go_wellFormed` say; from them, by
induction on the batch, the loop into a sink that does not stop
(`register_go_continuing`) and into one that stops at the first error
(`register_go_stopping`). What the published elements did to the catalog is
`Catalog.Stored`.
-/

namespace AssetBroker

namespace Catalog

/-- An element of a publishing batch: its reference and data, and the
reference its data is stored under when it is published. -/
structure Publication where
  ref : String
  data : TraitsData
  target : String

namespace Publication

/-- Whether the reference is one of the catalog's. -/
def wellFormed (p : Publication) : Bool := p.ref.startsWith referencePrefix

/-- What the batch answers for the element: the reference its data is
stored under, or the refusal of a malformed reference. -/
def outcome (p : Publication) : Except ElementError String :=
  if p.wellFormed then .ok p.target else .error ⟨.malformedEntityReference, p.ref⟩

/-- The element as the call takes it. -/
def item (p : Publication) : String × TraitsData := (p.ref, p.data)

end Publication

/-- The index of the first reference that is not the catalog's, or the
number of references when all are. -/
def firstMalformed (refs : List String) : Nat := refs.findIdx fun r => !r.startsWith referencePrefix

/-- What publishing the elements `stored`, each with its index, in order,
made of the catalog `c`: the indices are appended to the published ones,
and each element's data is stored under its reference, a later element
replacing an earlier one stored under the same reference. -/
structure Stored (c c' : Catalog) (stored : List (Publication × Nat)) : Prop where
  published : c'.published = c.published ++ stored.map (·.2)
  entities : c'.entities = stored.foldl (fun m x => Keyed.insert x.1.target x.1.data m) c.entities

theorem Stored.refl (c : Catalog) : Stored c c [] := ⟨by simp, rfl⟩

theorem Stored.cons {c c₁ c₂ : Catalog} {x : Publication × Nat} {stored : List (Publication × Nat)}
    (h₁ : Stored c c₁ [x]) (h₂ : Stored c₁ c₂ stored) : Stored c c₂ (x :: stored) where
  published := by rw [h₂.published, h₁.published]; simp
  entities := by rw [h₂.entities, h₁.entities]; rfl

/-- After storing in turn, a reference holds the data of the last element
stored under it, or else what it held before. -/
theorem find?_foldl_store (t : String) (m : List (String × TraitsData)) (stored : List (Publication × Nat)) :
    Keyed.find? t (stored.foldl (fun m x => Keyed.insert x.1.target x.1.data m) m) =
      ((stored.reverse.find? (·.1.target == t)).map (·.1.data)).or (Keyed.find? t m) := by
  induction stored using List.reverseRecOn with
  | nil => simp
  | append_singleton stored x ih =>
    rw [List.foldl_append, List.foldl_cons, List.foldl_nil, Keyed.find?_insert, List.reverse_append]
    by_cases ht : t = x.1.target
    · simp [ht]
    · have hx : (x.1.target == t) = false := by simpa using Ne.symm ht
      simp [ht, hx, ih]

/-- The catalog holds, under each reference of the elements `stored`, the
data of the last of them with that reference. -/
def LastWrites (c' : Catalog) (stored : List (Publication × Nat)) : Prop :=
  ∀ x ∈ stored, Keyed.find? x.1.ref c'.entities = (stored.reverse.find? (·.1.ref == x.1.ref)).map (·.1.data)

/-- When every element is stored under its own reference, each reference
written to holds the data of the last element published under it. -/
theorem Stored.last_write {c c' : Catalog} {stored : List (Publication × Nat)} (h : Stored c c' stored)
    (hown : ∀ x ∈ stored, x.1.target = x.1.ref) : LastWrites c' stored := by
  intro x hx
  have hsame : stored.reverse.find? (·.1.target == x.1.ref) = stored.reverse.find? (·.1.ref == x.1.ref) :=
    List.find?_congr fun y hy => by rw [hown y (List.mem_reverse.1 hy)]
  -- the element itself is a candidate, so the last one stored under its reference is found
  obtain ⟨y, hy⟩ : ∃ y, stored.reverse.find? (·.1.ref == x.1.ref) = some y :=
    Option.isSome_iff_exists.1 (List.find?_isSome.2 ⟨x, List.mem_reverse.2 hx, by simp⟩)
  rw [h.entities, find?_foldl_store, hsame, hy]
  rfl

/-! ## One element of the loop -/

section Loop

variable (access : PublishingAccess)

theorem register_go_of_aborted {c : Catalog} {run : SinkRun String} (ha : run.isAborted = true) (i : Nat)
    (items : List (String × TraitsData)) : register.go access c run i items = (run, c) := by
  cases items with
  | nil => rfl
  | cons x rest => simp [register.go, ha]

theorem register_go_malformed {c : Catalog} {run : SinkRun String} (ha : run.isAborted = false) (i : Nat)
    {r : String} (hr : r.startsWith referencePrefix = false) (d : TraitsData) (rest : List (String × TraitsData)) :
    register.go access c run i ((r, d) :: rest) =
      register.go access c (run.error i ⟨.malformedEntityReference, r⟩) (i + 1) rest := by
  simp [register.go, ha, hr]

/-- A well-formed element is stored under its place, its index recorded,
and answered with its place. -/
theorem register_go_wellFormed (c : Catalog) {run : SinkRun String} (ha : run.isAborted = false) (i : Nat)
    {r : String} (hr : r.startsWith referencePrefix = true) (d : TraitsData) (rest : List (String × TraitsData)) :
    ∃ t c₁, (access = .write → t = r) ∧ Stored c c₁ [(⟨r, d, t⟩, i)] ∧
      register.go access c run i ((r, d) :: rest) = register.go access c₁ (run.success i t) (i + 1) rest := by
  cases access with
  | write =>
    refine ⟨r, { c with entities := Keyed.insert r d c.entities, published := c.published ++ [i] },
      fun _ => rfl, ⟨rfl, rfl⟩, ?_⟩
    simp [register.go, ha, hr]
  | createRelated =>
    refine ⟨r ++ "/" ++ createdName (c.created + 1),
      { c with created := c.created + 1,
               entities := Keyed.insert (r ++ "/" ++ createdName (c.created + 1)) d c.entities,
               published := c.published ++ [i] },
      (by intro h; cases h), ⟨rfl, rfl⟩, ?_⟩
    simp [register.go, ha, hr]

/-! ## A whole batch -/

/-- Into a sink that does not stop on error the loop answers every element
and publishes every well-formed one. -/
theorem register_go_continuing {n : Nat} (items : List (String × TraitsData)) :
    ∀ (c : Catalog) (run : SinkRun String) (i : Nat), SinkRun.Tracks n false run →
      ∃ ps : List Publication, ps.map Publication.item = items ∧
        (access = .write → ∀ p ∈ ps, p.target = p.ref) ∧
        ∃ c', register.go access c run i items =
            (run.reportAll (reportsFrom i ((ps.map Publication.outcome).map some)), c') ∧
          Stored c c' ((ps.zipIdx i).filter (·.1.wellFormed)) := by
  induction items with
  | nil => exact fun c run i _ => ⟨[], rfl, by simp, c, rfl, Stored.refl c⟩
  | cons x rest ih =>
    intro c run i h
    obtain ⟨r, d⟩ := x
    have hlive : run.isAborted = false := by simpa [SinkRun.isAborted] using h.aborted
    cases hr : r.startsWith referencePrefix
    · -- a malformed element is refused, and the loop goes on
      have htracks := h.report i (.error ⟨.malformedEntityReference, r⟩)
      rw [← SinkRun.error_eq_report] at htracks
      obtain ⟨ps, hitems, hown, c', hgo, hstored⟩ :=
        ih c (run.error i ⟨.malformedEntityReference, r⟩) (i + 1) htracks
      refine ⟨⟨r, d, r⟩ :: ps, by simp [Publication.item, hitems], ?_, c', ?_, ?_⟩
      · intro hw p hp
        rcases List.mem_cons.1 hp with rfl | hp
        · rfl
        · exact hown hw p hp
      · rw [register_go_malformed access hlive i hr, hgo]
        simp [Publication.outcome, Publication.wellFormed, hr, SinkRun.error_eq_report]
      · simpa [List.zipIdx_cons, Publication.wellFormed, hr] using hstored
    · -- a well-formed element is published, and the loop goes on
      obtain ⟨t, c₁, htw, hone, hstep⟩ := register_go_wellFormed access c hlive i hr d rest
      obtain ⟨ps, hitems, hown, c', hgo, hstored⟩ := ih c₁ (run.success i t) (i + 1) (h.report i (.ok t))
      refine ⟨⟨r, d, t⟩ :: ps, by simp [Publication.item, hitems], ?_, c', ?_, ?_⟩
      · intro hw p hp
        rcases List.mem_cons.1 hp with rfl | hp
        · exact htw hw
        · exact hown hw p hp
      · rw [hstep, hgo]
        simp [Publication.outcome, Publication.wellFormed, hr]
        rfl
      · rw [List.zipIdx_cons, List.filter_cons_of_pos (by simpa [Publication.wellFormed] using hr)]
        exact hone.cons hstored

/-- A sink that stops on error, has not stopped and has delivered nothing
from index `i` on is aborted by an error for `i`. -/
theorem isAborted_error_of_tracks {n : Nat} {run : SinkRun String} (h : SinkRun.Tracks n true run)
    (ha : run.isAborted = false) {i : Nat} (hi : i < n) (hnew : ∀ d ∈ run.delivered, d.index < i)
    (e : ElementError) : (run.error i e).isAborted = true := by
  have hacc : run.accepts i = true := by
    refine (h.accepts_iff i).2 ⟨by simpa [SinkRun.isAborted] using ha, hi, ?_⟩
    intro hmem
    obtain ⟨d, hd, rfl⟩ := List.mem_map.1 hmem
    exact absurd (hnew d hd) (Nat.lt_irrefl _)
  rw [SinkRun.isAborted, SinkRun.error_eq_report, SinkRun.report_sink, if_pos hacc, h.stopOnError]
  rfl

/-- Into a sink that stops on error the loop publishes the leading
well-formed elements, answers the first malformed one with its refusal,
and stops there. -/
theorem register_go_stopping {n : Nat} (items : List (String × TraitsData)) :
    ∀ (c : Catalog) (run : SinkRun String) (i : Nat), SinkRun.Tracks n true run → run.isAborted = false →
      (∀ d ∈ run.delivered, d.index < i) → i + items.length ≤ n →
      ∃ good rest : List Publication, (good ++ rest).map Publication.item = items ∧
        (access = .write → ∀ p ∈ good ++ rest, p.target = p.ref) ∧
        (∀ p ∈ good, p.wellFormed = true) ∧ (∀ p ∈ rest.head?, p.wellFormed = false) ∧
        ∃ c', register.go access c run i items =
            (run.reportAll (reportsFrom i (((good ++ rest.take 1).map Publication.outcome).map some)), c') ∧
          Stored c c' (good.zipIdx i) := by
  induction items with
  | nil => exact fun c run i _ _ _ _ => ⟨[], [], rfl, by simp, by simp, by simp, c, rfl, Stored.refl c⟩
  | cons x items ih =>
    intro c run i h ha hnew hlen
    obtain ⟨r, d⟩ := x
    cases hr : r.startsWith referencePrefix
    · -- the first malformed element aborts the sink, and the loop ends with its refusal
      have hab := isAborted_error_of_tracks h ha (by simp at hlen; omega) hnew ⟨.malformedEntityReference, r⟩
      refine ⟨[], ⟨r, d, r⟩ :: items.map fun x => ⟨x.1, x.2, x.1⟩, ?_, ?_, by simp, ?_, c, ?_, Stored.refl c⟩
      · simp [Publication.item, Function.comp_def]
      · intro _ p hp
        simp only [List.nil_append, List.mem_cons, List.mem_map] at hp
        rcases hp with rfl | ⟨_, _, rfl⟩ <;> rfl
      · simpa [Publication.wellFormed] using hr
      · rw [register_go_malformed access ha i hr, register_go_of_aborted access hab]
        simp [Publication.outcome, Publication.wellFormed, hr, SinkRun.error_eq_report]
    · -- a well-formed element is published, and the sink goes on
      obtain ⟨t, c₁, htw, hone, hstep⟩ := register_go_wellFormed access c ha i hr d items
      have hlive : (run.success i t).isAborted = false := by
        have hs := SinkRun.report_sink run i (.ok t)
        simp only [SinkRun.isAborted] at ha ⊢
        change (run.report i (.ok t)).sink.aborted = false
        rw [hs]
        split <;> simp [ha]
      have hnew' : ∀ e ∈ (run.success i t).delivered, e.index < i + 1 := by
        intro e he
        have hd := SinkRun.report_delivered run i (.ok t)
        change e ∈ (run.report i (.ok t)).delivered at he
        rw [hd] at he
        split at he
        · rcases List.mem_append.1 he with he | he
          · exact Nat.lt_succ_of_lt (hnew e he)
          · obtain rfl := List.mem_singleton.1 he
            exact Nat.lt_succ_self i
        · exact Nat.lt_succ_of_lt (hnew e he)
      obtain ⟨good, rest, hitems, hown, hgood, hrest, c', hgo, hstored⟩ :=
        ih c₁ (run.success i t) (i + 1) (h.report i (.ok t)) hlive hnew' (by simp at hlen; omega)
      refine ⟨⟨r, d, t⟩ :: good, rest, by simp [Publication.item, ← hitems], ?_, ?_, hrest, c', ?_, ?_⟩
      · intro hw p hp
        rcases List.mem_cons.1 hp with rfl | hp
        · exact htw hw
        · exact hown hw p hp
      · intro p hp
        rcases List.mem_cons.1 hp with rfl | hp
        · simpa [Publication.wellFormed] using hr
        · exact hgood p hp
      · rw [hstep, hgo]
        simp [Publication.outcome, Publication.wellFormed, hr]
        rfl
      · rw [List.zipIdx_cons]
        exact hone.cons hstored

theorem firstError?_wellFormed {good : List Publication} (hgood : ∀ p ∈ good, p.wellFormed = true) (i : Nat) :
    Delivery.firstError? (((good.map Publication.outcome).zipIdx i).map
      fun x => (⟨x.2, x.1⟩ : Delivery String)) = none := by
  rw [Delivery.firstError?_eq_none_iff]
  intro d hd
  obtain ⟨⟨o, j⟩, hmem, rfl⟩ := List.mem_map.1 hd
  obtain ⟨q, hq, rfl⟩ := List.mem_map.1 (List.fst_mem_of_mem_zipIdx hmem)
  simp [Publication.outcome, hgood q hq, Delivery.isError]

/-- Before the first malformed reference every element is published; the
first malformed one is refused. -/
theorem firstError?_publications {good : List Publication} (hgood : ∀ p ∈ good, p.wellFormed = true)
    {p : Publication} (hp : p.wellFormed = false) (more : List (Delivery String)) :
    Delivery.firstError? ((((good ++ [p]).map Publication.outcome).zipIdx.map fun x => ⟨x.2, x.1⟩) ++ more) =
      some (good.length, ⟨.malformedEntityReference, p.ref⟩) := by
  rw [List.map_append, List.zipIdx_append, List.map_append, List.append_assoc,
    Delivery.firstError?_append, firstError?_wellFormed hgood]
  simp [Publication.outcome, hp, Delivery.firstError?]

end Loop

theorem refs_of_items {ps : List Publication} {refs : List String} {datas : List TraitsData}
    (hlen : datas.length = refs.length) (h : ps.map Publication.item = refs.zip datas) :
    ps.map Publication.ref = refs := by
  have hfst := congrArg (List.map Prod.fst) h
  rw [List.map_fst_zip (by omega), List.map_map] at hfst
  exact hfst

/-- A batch made of a well-formed run and a rest that starts malformed has
its first malformed reference right after the run. -/
theorem firstMalformed_split {good rest : List Publication} (hgood : ∀ p ∈ good, p.wellFormed = true)
    (hrest : ∀ p ∈ rest.head?, p.wellFormed = false) :
    firstMalformed ((good ++ rest).map Publication.ref) = good.length := by
  have hnone : good.findIdx (fun p => !p.wellFormed) = good.length :=
    List.findIdx_eq_length.2 fun p hp => by simp [hgood p hp]
  have hhead : rest.findIdx (fun p => !p.wellFormed) = 0 := by
    cases rest with
    | nil => rfl
    | cons p rest => simp [List.findIdx_cons, hrest p rfl]
  rw [firstMalformed, List.findIdx_map]
  change List.findIdx (fun p => !p.wellFormed) (good ++ rest) = _
  rw [List.findIdx_append, hnone, if_neg (Nat.lt_irrefl _), hhead, Nat.zero_add]

end Catalog

namespace Session

/-- A register call on a session over the catalog runs the catalog's loop
over the references and data side by side, into a fresh sink; when the loop
makes the reports `rs` and leaves the catalog `c'`, the call hands on what
the finished sink holds and leaves `c'` as the manager. -/
theorem register_of_go {s : Session} {c : Catalog} (hb : s.backend = .catalog c)
    (hcap : c.capabilities.contains .publishing = true) {refs : List String} {datas : List TraitsData}
    (hlen : datas.length = refs.length) (access : PublishingAccess) (stop : Bool)
    {rs : List (Nat × Except ElementError String)} {c' : Catalog}
    (hgo : Catalog.register.go access c (SinkRun.fresh refs.length stop) 0 (refs.zip datas) =
      ((SinkRun.fresh refs.length stop).reportAll rs, c')) :
    (register refs datas access stop).run' s =
        (Delivery.passedOn stop (Delivery.firstReports refs.length rs ++
          (Delivery.neverReported refs.length rs).map Delivery.unreported), .ok ()) ∧
      ((register refs datas access stop).run s).2.backend = .catalog c' := by
  have hcap' : s.backend.hasCapability .publishing = true := by
    rw [hb]
    exact hcap
  have hcheck : lengthCheck "register" "traits datas" refs.length datas.length = .ok () :=
    (BatchQuery.lengthCheck_eq_ok_iff _ _ _ _).2 (by simp [hlen])
  have hcall : (Backend.catalog c).register refs datas access (SinkRun.fresh refs.length stop) =
      ⟨(SinkRun.fresh refs.length stop).reportAll rs, .catalog c', .ok ()⟩ := by
    simp only [Backend.register, Catalog.register, hgo]
  constructor
  · exact gated_run'_of_ok hcap' hcheck (by rw [hb, hcall]) (by rw [hb, hcall])
  · rw [register, gated_run_backend hcap' hcheck, hb, hcall]

/-- Under the exception policy a register call publishes the leading run of
well-formed elements and fails with the first malformed one, or publishes
every element and answers where each was stored. -/
theorem register_stopping {s : Session} {c : Catalog} (hb : s.backend = .catalog c)
    (hcap : c.capabilities.contains .publishing = true) {refs : List String} {datas : List TraitsData}
    (hlen : datas.length = refs.length) (access : PublishingAccess) :
    ∃ ps : List Catalog.Publication, ps.map Catalog.Publication.item = refs.zip datas ∧
      (access = .write → ∀ p ∈ ps, p.target = p.ref) ∧
      Ran.all .exception refs.length ((register refs datas access true).run' s) =
        (if h : Catalog.firstMalformed refs < refs.length then
          .error (.batchElement (Catalog.firstMalformed refs)
            ⟨.malformedEntityReference, refs[Catalog.firstMalformed refs]⟩)
        else .ok (.values (ps.map Catalog.Publication.target))) ∧
      ∃ c', ((register refs datas access true).run s).2.backend = .catalog c' ∧
        Catalog.Stored c c' (ps.zipIdx.take (Catalog.firstMalformed refs)) := by
  have hzip : (refs.zip datas).length = refs.length := by simp [hlen]
  obtain ⟨good, rest, hitems, hown, hgood, hrest, c', hgo, hstored⟩ :=
    Catalog.register_go_stopping access (refs.zip datas) c (SinkRun.fresh refs.length true) 0
      (SinkRun.tracks_fresh _ _) rfl (by simp [SinkRun.fresh]) (by omega)
  have hrefs := Catalog.refs_of_items hlen hitems
  have hk : Catalog.firstMalformed refs = good.length := hrefs ▸ Catalog.firstMalformed_split hgood hrest
  have hn : refs.length = good.length + rest.length := by simp [← hrefs]
  obtain ⟨hran, hback⟩ := register_of_go hb hcap hlen access true hgo
  refine ⟨good ++ rest, hitems, hown, ?_, c', hback, ?_⟩
  · rw [hran, Ran.all_ok, Delivery.gatherAll_exception_handedOn]
    cases rest with
    | nil =>
      -- every element is well formed and answered with where it was stored
      have hvals : (good.map Catalog.Publication.outcome) = (good.map Catalog.Publication.target).map .ok := by
        simp only [List.map_map]
        exact List.map_congr_left fun p hp => by simp [Catalog.Publication.outcome, hgood p hp]
      have hall : refs.length = (good.map Catalog.Publication.outcome).length := by simp [hn]
      simp only [List.take_nil, List.append_nil]
      rw [dif_neg (by rw [hk, hn]; simp), hall, Delivery.handedOn_reportsFrom_map_some,
        Catalog.deliveries_reportsFrom_map_some, Catalog.firstError?_wellFormed hgood,
        Catalog.firstOutcome_reportsFrom_map_some, hvals]
      simp only [Delivery.values, Delivery.values_go_map_ok]
      rfl
    | cons p more =>
      -- the first malformed element is refused, and its refusal is the first error
      have hp : p.wellFormed = false := hrest p rfl
      have hlt : Catalog.firstMalformed refs < refs.length := by rw [hk, hn]; simp
      have href : refs[Catalog.firstMalformed refs] = p.ref := by
        rw [List.getElem_eq_iff, hk, ← hrefs]
        simp
      have hreported : 0 + ((good ++ [p]).map Catalog.Publication.outcome).length ≤ refs.length := by
        simp only [List.length_map, List.length_append, List.length_cons, List.length_nil, hn]
        omega
      simp only [List.take_succ_cons, List.take_zero]
      rw [dif_pos hlt, Delivery.firstReports_reportsFrom_map_some hreported,
        Catalog.deliveries_reportsFrom_map_some, Catalog.firstError?_publications hgood hp, href, hk]
  · rw [hk, List.zipIdx_append, List.take_left' (by simp)]
    exact hstored

/-- Under the variant policy, and in the raw shape, a register call answers
every element, in order, and publishes every well-formed one. -/
theorem register_continuing {s : Session} {c : Catalog} (hb : s.backend = .catalog c)
    (hcap : c.capabilities.contains .publishing = true) {refs : List String} {datas : List TraitsData}
    (hlen : datas.length = refs.length) (access : PublishingAccess) :
    ∃ ps : List Catalog.Publication, ps.map Catalog.Publication.item = refs.zip datas ∧
      (access = .write → ∀ p ∈ ps, p.target = p.ref) ∧
      (register refs datas access false).run' s =
        ((ps.map Catalog.Publication.outcome).zipIdx.map fun x => ⟨x.2, x.1⟩, .ok ()) ∧
      Ran.all .variant refs.length ((register refs datas access false).run' s) =
        .ok (.outcomes (ps.map Catalog.Publication.outcome)) ∧
      ∃ c', ((register refs datas access false).run s).2.backend = .catalog c' ∧
        Catalog.Stored c c' (ps.zipIdx.filter (·.1.wellFormed)) := by
  obtain ⟨ps, hitems, hown, c', hgo, hstored⟩ :=
    Catalog.register_go_continuing access (refs.zip datas) c (SinkRun.fresh refs.length false) 0
      (SinkRun.tracks_fresh _ _)
  have hall : refs.length = (ps.map Catalog.Publication.outcome).length := by
    simp [← Catalog.refs_of_items hlen hitems]
  obtain ⟨hran, hback⟩ := register_of_go hb hcap hlen access false hgo
  refine ⟨ps, hitems, hown, ?_, ?_, c', hback, hstored⟩
  · rw [hran, hall, Delivery.handedOn_reportsFrom_map_some, Catalog.deliveries_reportsFrom_map_some]
    rfl
  · rw [hran, Ran.all_ok, hall, Delivery.gatherAll_variant_handedOn,
      Catalog.firstOutcome_reportsFrom_map_some]

end Session

/-- A register call publishes as its policy says. Under the exception policy
it publishes the leading run of well-formed elements, in order, and fails
with the first malformed one, or publishes every element and answers where
each was stored. Under the variant policy, and in the raw shape, it answers
every element in order, refusing the malformed ones, and publishes every
well-formed one, in order. With write access each element is stored under
its own reference, and the catalog then holds under each reference the data
of the last element published under it. -/
theorem register_publishes_as_policy_says (s : Session) (c : Catalog) (hb : s.backend = .catalog c)
    (hcap : c.capabilities.contains .publishing = true) (refs : List String) (datas : List TraitsData)
    (hlen : datas.length = refs.length) (access : PublishingAccess) :
    (∃ ps : List Catalog.Publication, ps.map Catalog.Publication.item = refs.zip datas ∧
      (access = .write → ∀ p ∈ ps, p.target = p.ref) ∧
      Ran.all .exception refs.length ((Session.register refs datas access true).run' s) =
        (if h : Catalog.firstMalformed refs < refs.length then
          .error (.batchElement (Catalog.firstMalformed refs)
            ⟨.malformedEntityReference, refs[Catalog.firstMalformed refs]⟩)
        else .ok (.values (ps.map Catalog.Publication.target))) ∧
      ∃ c', ((Session.register refs datas access true).run s).2.backend = .catalog c' ∧
        Catalog.Stored c c' (ps.zipIdx.take (Catalog.firstMalformed refs)) ∧
        (access = .write → Catalog.LastWrites c' (ps.zipIdx.take (Catalog.firstMalformed refs)))) ∧
    (∃ ps : List Catalog.Publication, ps.map Catalog.Publication.item = refs.zip datas ∧
      (access = .write → ∀ p ∈ ps, p.target = p.ref) ∧
      (Session.register refs datas access false).run' s =
        ((ps.map Catalog.Publication.outcome).zipIdx.map fun x => ⟨x.2, x.1⟩, .ok ()) ∧
      Ran.all .variant refs.length ((Session.register refs datas access false).run' s) =
        .ok (.outcomes (ps.map Catalog.Publication.outcome)) ∧
      ∃ c', ((Session.register refs datas access false).run s).2.backend = .catalog c' ∧
        Catalog.Stored c c' (ps.zipIdx.filter (·.1.wellFormed)) ∧
        (access = .write → Catalog.LastWrites c' (ps.zipIdx.filter (·.1.wellFormed)))) := by
  obtain ⟨ps, hitems, hown, hexc, c₁, hback, hstored⟩ := Session.register_stopping hb hcap hlen access
  obtain ⟨qs, hitems', hown', hraw, hvar, c₂, hback', hstored'⟩ :=
    Session.register_continuing hb hcap hlen access
  -- what is stored is a part of the batch, so with write access each is under its own reference
  refine ⟨⟨ps, hitems, hown, hexc, c₁, hback, hstored, fun hw => hstored.last_write fun x hx => ?_⟩,
    ⟨qs, hitems', hown', hraw, hvar, c₂, hback', hstored', fun hw => hstored'.last_write fun x hx => ?_⟩⟩
  · exact hown hw x.1 (List.fst_mem_of_mem_zipIdx (List.mem_of_mem_take hx))
  · exact hown' hw x.1 (List.fst_mem_of_mem_zipIdx (List.mem_of_mem_filter hx))

/-- A batch with a reference that is not the catalog's in the middle, and
the same reference written twice around it. -/
theorem publishing_around_a_file_reference :
    let c : Catalog := {}
    let s := Session.start (.catalog c) Host.testing
    let refs := ["mock:///a", "file:///b", "mock:///a"]
    let datas : List TraitsData := [.empty, .withTraits ["x"], .withTraits ["y"]]
    let access := PublishingAccess.write
    c.capabilities.contains .publishing = true ∧ datas.length = refs.length ∧
    (∃ ps : List Catalog.Publication, ps.map Catalog.Publication.item = refs.zip datas ∧
      (access = .write → ∀ p ∈ ps, p.target = p.ref) ∧
      Ran.all .exception refs.length ((Session.register refs datas access true).run' s) =
        (if h : Catalog.firstMalformed refs < refs.length then
          .error (.batchElement (Catalog.firstMalformed refs)
            ⟨.malformedEntityReference, refs[Catalog.firstMalformed refs]⟩)
        else .ok (.values (ps.map Catalog.Publication.target))) ∧
      ∃ c', ((Session.register refs datas access true).run s).2.backend = .catalog c' ∧
        Catalog.Stored c c' (ps.zipIdx.take (Catalog.firstMalformed refs)) ∧
        (access = .write → Catalog.LastWrites c' (ps.zipIdx.take (Catalog.firstMalformed refs)))) ∧
    (∃ ps : List Catalog.Publication, ps.map Catalog.Publication.item = refs.zip datas ∧
      (access = .write → ∀ p ∈ ps, p.target = p.ref) ∧
      (Session.register refs datas access false).run' s =
        ((ps.map Catalog.Publication.outcome).zipIdx.map fun x => ⟨x.2, x.1⟩, .ok ()) ∧
      Ran.all .variant refs.length ((Session.register refs datas access false).run' s) =
        .ok (.outcomes (ps.map Catalog.Publication.outcome)) ∧
      ∃ c', ((Session.register refs datas access false).run s).2.backend = .catalog c' ∧
        Catalog.Stored c c' (ps.zipIdx.filter (·.1.wellFormed)) ∧
        (access = .write → Catalog.LastWrites c' (ps.zipIdx.filter (·.1.wellFormed)))) := by
  intro c s refs datas access
  exact ⟨by decide, rfl, register_publishes_as_policy_says s c rfl (by decide) refs datas rfl access⟩

end AssetBroker
