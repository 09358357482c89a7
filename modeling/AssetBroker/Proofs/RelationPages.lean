import AssetBroker.Proofs.CatalogLoops
import Mathlib

/-!
# Pages of related entities

A paged relationship query answers each source reference with a pager over
the entities related to it. The catalog cuts those entities, in the order
their relations were added, into pages of the requested size, and its pager
starts at the first page.

A caller reads a pager by taking the current page and, while another page
follows, moving on and taking that one too (`PageSource.readPages`). Main
statement (`paged_relations_cover_related`): for every source the catalog
has, such a pass reads each related entity once and in order, in full pages
but for a last page that is not empty, or one empty page when nothing is
related (`Paging`); one more move parks the pager past its last page, where
it reads empty and moves no further (`PageSource.Parked`).

The pager's cursor is an index into its pages, so the pass is followed by
the index: the pages read from index `c` on are the pages from `c` on
(`readPages_pages_of_lt`), and `k` moves from the start land on index
`min k n` (`iterate_next_pages`).
-/

namespace AssetBroker

variable {α : Type}

/-! ## Cutting a list into pages -/

section Chunks

variable (w : Nat)

@[simp] theorem chunksOf_nil : chunksOf w ([] : List α) = [] := by
  rw [chunksOf]

theorem chunksOf_cons (x : α) (rest : List α) :
    chunksOf w (x :: rest) =
      (x :: rest).take (max w 1) :: chunksOf w ((x :: rest).drop (max w 1)) := by
  rw [chunksOf]

/-- Read in order, the pieces give the list back. -/
theorem flatten_chunksOf (xs : List α) : (chunksOf w xs).flatten = xs := by
  fun_induction chunksOf w xs with
  | case1 => rfl
  | case2 x rest ih => rw [List.flatten_cons, ih, List.take_append_drop]

theorem chunksOf_eq_nil_iff {xs : List α} : chunksOf w xs = [] ↔ xs = [] := by
  cases xs with
  | nil => simp
  | cons x rest => simp [chunksOf_cons]

/-- No piece is empty, and none is longer than the width. -/
theorem length_of_mem_chunksOf {xs p : List α} (hp : p ∈ chunksOf w xs) :
    0 < p.length ∧ p.length ≤ max w 1 := by
  fun_induction chunksOf w xs with
  | case1 => simp at hp
  | case2 x rest ih =>
    rcases List.mem_cons.1 hp with rfl | hp
    · have := max_one_pos w
      simp only [List.length_take, List.length_cons]
      omega
    · exact ih hp

/-- Every piece but the last is full. -/
theorem length_of_mem_dropLast_chunksOf {xs p : List α} (hp : p ∈ (chunksOf w xs).dropLast) :
    p.length = max w 1 := by
  fun_induction chunksOf w xs with
  | case1 => simp at hp
  | case2 x rest ih =>
    cases hmore : (x :: rest).drop (max w 1) with
    | nil =>
      -- the first piece is the only one
      simp [hmore] at hp
    | cons y more =>
      -- a piece follows, so the first took a whole width
      rw [hmore, chunksOf_cons, List.dropLast_cons_cons] at hp
      rw [hmore, chunksOf_cons] at ih
      rcases List.mem_cons.1 hp with rfl | hp
      · have hlen : max w 1 < (x :: rest).length := by
          have := congrArg List.length hmore
          simp only [List.length_drop, List.length_cons] at this ⊢
          omega
        simp only [List.length_take]
        omega
      · exact ih hp

end Chunks

/-! ## Reading a pager -/

/-- A pass over `pages` reads `items` in pages of `size`: in order the pages
are the items, every page but the last is full, and the last page is empty
exactly when there are no items. -/
structure Paging (items : List String) (size : Nat) (pages : List (List String)) : Prop where
  flatten : pages.flatten = items
  full : ∀ p ∈ pages.dropLast, p.length = size
  last : ∃ p, pages.getLast? = some p ∧ p.length ≤ size ∧ (p = [] ↔ items = [])

/-- With nothing to read, a pass reads one empty page. -/
theorem Paging.eq_of_nil {size : Nat} {pages : List (List String)} (hsize : 0 < size)
    (h : Paging [] size pages) : pages = [[]] := by
  obtain ⟨p, hp, -, hnil⟩ := h.last
  obtain ⟨ys, rfl⟩ := List.getLast?_eq_some_iff.1 hp
  -- every page is empty, and all but the last are full, so only the last is there
  have hys : ys = [] := by
    rcases ys with _ | ⟨q, ys⟩
    · rfl
    · have hq_len := h.full q (by simp [List.dropLast_cons_of_ne_nil])
      have hq_empty : q = [] := List.flatten_eq_nil_iff.1 h.flatten q (by simp)
      simp [hq_empty] at hq_len
      omega
  rw [hys, hnil.2 rfl]
  rfl

namespace PageSource

def pagesLeft : PageSource → Nat
  | empty => 0
  | pages ps current _ => ps.length - current

theorem pagesLeft_next_lt {p : PageSource} (h : p.hasNext = true) : p.next.pagesLeft < p.pagesLeft := by
  cases p with
  | empty => cases h
  | pages ps current closing =>
    simp only [hasNext, decide_eq_true_eq] at h
    simp only [next, pagesLeft, if_pos (Nat.lt_of_succ_lt h)]
    omega

/-- What a caller reads from a pager: the current page, then, while another
page follows, it moves on and reads that one. -/
def readPages (p : PageSource) : List (List String) :=
  p.get :: if _h : p.hasNext then p.next.readPages else []
termination_by p.pagesLeft
decreasing_by exact pagesLeft_next_lt _h

/-- A pager moved past its last page: it reads empty, has nothing next, and
moving does not change it. -/
def Parked (p : PageSource) : Prop := p.get = [] ∧ p.hasNext = false ∧ p.next = p

variable {ps : List (List String)} {closing : Closing}

theorem next_pages (c : Nat) :
    (pages ps c closing).next = pages ps (if c < ps.length then c + 1 else c) closing := rfl

/-- From a page of the pager on, a pass reads the pages from there on. -/
theorem readPages_pages_of_lt {c : Nat} (hc : c < ps.length) :
    (pages ps c closing).readPages = ps.drop c := by
  -- induction on the pages left, the pass's own measure
  induction h : ps.length - c generalizing c with
  | zero => omega
  | succ k ih =>
    rw [readPages]
    by_cases hnext : c + 1 < ps.length
    · have hmove : (pages ps c closing).hasNext = true := by simpa [hasNext] using hnext
      rw [dif_pos hmove, next_pages, if_pos hc, ih hnext (by omega), List.drop_eq_getElem_cons hc]
      show ps.getD c [] :: _ = _
      rw [List.getD_eq_getElem?_getD, List.getElem?_eq_getElem hc, Option.getD_some]
    · have hlast : (pages ps c closing).hasNext = false := by simpa [hasNext] using hnext
      rw [dif_neg (by simp [hlast])]
      have hdrop : ps.drop (c + 1) = [] := List.drop_eq_nil_of_le (by omega)
      rw [List.drop_eq_getElem_cons hc, hdrop]
      show [ps.getD c []] = _
      rw [List.getD_eq_getElem?_getD, List.getElem?_eq_getElem hc, Option.getD_some]

/-- Past the last page a pass reads one empty page. -/
theorem readPages_pages_of_le {c : Nat} (hc : ps.length ≤ c) :
    (pages ps c closing).readPages = [[]] := by
  rw [readPages]
  have hlast : (pages ps c closing).hasNext = false := by simp [hasNext]; omega
  rw [dif_neg (by simp [hlast])]
  simp [get, List.getD_eq_getElem?_getD, List.getElem?_eq_none hc]

/-- A pass from the first page reads every page, or one empty page when
there are none. -/
theorem readPages_start : (pages ps 0 closing).readPages = if ps = [] then [[]] else ps := by
  split
  · subst ps
    exact readPages_pages_of_le (Nat.zero_le _)
  · rw [readPages_pages_of_lt (List.length_pos_iff.2 ‹_›), List.drop_zero]

/-- Each move goes one page on, up to one past the last. -/
theorem iterate_next_pages (k : Nat) {c : Nat} (hc : c ≤ ps.length) :
    next^[k] (pages ps c closing) = pages ps (min (c + k) ps.length) closing := by
  induction k generalizing c with
  | zero => simp [Nat.min_eq_left hc]
  | succ k ih =>
    rw [Function.iterate_succ_apply, next_pages]
    split
    · rw [ih (by omega)]
      congr 1
      omega
    · rw [ih hc]
      congr 1
      omega

theorem parked_pages : (pages ps ps.length closing).Parked := by
  refine ⟨?_, ?_, ?_⟩
  · simp [get, List.getD_eq_getElem?_getD]
  · simp [hasNext]
  · simp [next]

/-- A pager that starts at the first of pages cutting `items` reads them as
a pass should, and the move after the pass parks it. -/
theorem paging_start {items : List String} {size : Nat} (hsize : 0 < size) :
    Paging items size (pages (chunksOf size items) 0 closing).readPages ∧
      (next^[(pages (chunksOf size items) 0 closing).readPages.length]
        (pages (chunksOf size items) 0 closing)).Parked := by
  have hwidth : max size 1 = size := Nat.max_eq_left hsize
  rw [readPages_start]
  by_cases hitems : items = []
  · -- nothing is related: one empty page, and the pager never moves
    subst items
    simp only [chunksOf_nil, if_true]
    refine ⟨⟨rfl, by simp, ⟨[], rfl, Nat.zero_le _, Iff.rfl⟩⟩, ?_⟩
    rw [iterate_next_pages _ (Nat.zero_le _)]
    exact parked_pages
  · have hchunks : chunksOf size items ≠ [] := fun h => hitems ((chunksOf_eq_nil_iff size).1 h)
    rw [if_neg hchunks]
    refine ⟨⟨flatten_chunksOf size items, ?_, ?_⟩, ?_⟩
    · intro p hp
      rw [← hwidth]
      exact length_of_mem_dropLast_chunksOf size hp
    · obtain ⟨p, hp⟩ := List.getLast?_isSome.2 hchunks |> Option.isSome_iff_exists.1
      have hlen := length_of_mem_chunksOf size (List.mem_of_getLast? hp)
      refine ⟨p, hp, hwidth ▸ hlen.2, ?_⟩
      simp only [hitems, iff_false]
      exact List.ne_nil_of_length_pos hlen.1
    · rw [iterate_next_pages _ (Nat.zero_le _), Nat.zero_add, Nat.min_self]
      exact parked_pages

end PageSource

/-! ## The pagers a query hands out -/

namespace Catalog

/-- The pager for a source the catalog has starts at the first of the pages
cutting its related entities. -/
theorem pagesOf_of_lookup {c : Catalog} {r : String} {d : TraitsData} (h : c.lookup r = .ok d)
    (relationship : TraitsData) (result : TraitSet) (size : Nat) :
    c.pagesOf r relationship result size =
      .ok (.pages (chunksOf size (c.related r relationship result)) 0
        (if c.refusesPagerClose then .refusing "mock pager refused to close" else .quietly)) := by
  simp [pagesOf, h, Except.map]

end Catalog

/-- Paging covers the related entities once. For a catalog offering
relationship queries and any batch of references, the query with a page
size above zero answers each reference the catalog has with a pager; read
page by page while another follows, the pager gives the entities related to
that reference, in the order their relations were added, in full pages but
for a last page that is not empty, or one empty page when none is related,
and the move after the pass parks it. -/
theorem paged_relations_cover_related (s : Session) (c : Catalog) (hb : s.backend = .catalog c)
    (hcap : c.capabilities.contains .relationshipQueries = true) (refs : List String)
    (relationship : TraitsData) (result : TraitSet) (size : Nat) (hsize : 0 < size)
    {i : Nat} {source : String} (hi : refs[i]? = some source) {d : TraitsData}
    (hfound : c.lookup source = .ok d) :
    ∃ outcomes pager,
      Ran.all .variant refs.length
          ((Session.getWithRelationshipPaged refs relationship result size false).run' s) =
        .ok (.outcomes outcomes) ∧
      outcomes[i]? = some (.ok pager) ∧
      Paging (c.related source relationship result) size pager.readPages ∧
      (PageSource.next^[pager.readPages.length] pager).Parked := by
  -- the catalog reports each reference's pager, under its index, into a sink that never stops
  let rs := Catalog.reportsFrom 0 (refs.map fun r => some (c.pagesOf r relationship result size))
  have hcall : ((Backend.catalog c).getWithRelationshipPaged refs relationship result size
      (SinkRun.fresh refs.length false)).run = (SinkRun.fresh refs.length false).reportAll rs :=
    Catalog.reportEach_go_of_tracks (SinkRun.tracks_fresh _ _) 0 _
  have hcap' : s.backend.hasCapability .relationshipQueries = true := by
    rw [hb]
    exact hcap
  have hcheck : Session.pageSizeCheck size = .ok () :=
    (BatchQuery.pageSizeCheck_eq_ok_iff size).2 (by simp; omega)
  have hran : (Session.gated .relationshipQueries (Session.pageSizeCheck size) refs.length false
      fun b => b.getWithRelationshipPaged refs relationship result size).run' s =
      (Delivery.passedOn false (Delivery.firstReports refs.length rs ++
        (Delivery.neverReported refs.length rs).map Delivery.unreported), .ok ()) :=
    Session.gated_run'_of_ok hcap' hcheck (hb ▸ hcall) (by rw [hb]; rfl)
  -- each element is answered with the first outcome reported for it, its own pager
  have houtcomes : (List.range refs.length).map (firstOutcome rs) =
      refs.map fun r => c.pagesOf r relationship result size := by
    simpa [rs, List.map_map, Function.comp_def] using
      Catalog.firstOutcome_reportsFrom_map_some (refs.map fun r => c.pagesOf r relationship result size)
  refine ⟨(List.range refs.length).map (firstOutcome rs),
    .pages (chunksOf size (c.related source relationship result)) 0
      (if c.refusesPagerClose then .refusing "mock pager refused to close" else .quietly),
    ?_, ?_, (PageSource.paging_start hsize).1, (PageSource.paging_start hsize).2⟩
  · show Ran.all .variant refs.length ((Session.gated _ _ _ _ _).run' s) = _
    rw [hran, Ran.all_ok, Delivery.gatherAll_variant_handedOn]
  · rw [houtcomes, List.getElem?_map, hi, Option.map_some, Catalog.pagesOf_of_lookup hfound]

/-- A cat with two friends, a dog and a fish, read one friend per page. -/
theorem cat_friends_one_per_page :
    let c : Catalog :=
      { entities := [("mock:///cat", .empty), ("mock:///dog", .empty), ("mock:///fish", .empty)],
        relations := [⟨"mock:///cat", "friend", "mock:///dog"⟩, ⟨"mock:///cat", "friend", "mock:///fish"⟩] }
    let s := Session.start (.catalog c) Host.testing
    c.capabilities.contains .relationshipQueries = true ∧ 0 < 1 ∧
      ["mock:///cat"][0]? = some "mock:///cat" ∧ c.lookup "mock:///cat" = .ok .empty ∧
      ∃ outcomes pager,
        Ran.all .variant 1
            ((Session.getWithRelationshipPaged ["mock:///cat"] (.withTraits ["friend"]) [] 1 false).run' s) =
          .ok (.outcomes outcomes) ∧
        outcomes[0]? = some (.ok pager) ∧
        Paging (c.related "mock:///cat" (.withTraits ["friend"]) []) 1 pager.readPages ∧
        (PageSource.next^[pager.readPages.length] pager).Parked := by
  intro c s
  have hfound : c.lookup "mock:///cat" = .ok .empty := by cbv
  exact ⟨by decide, Nat.one_pos, rfl, hfound,
    paged_relations_cover_related s c rfl (by decide) ["mock:///cat"] (.withTraits ["friend"]) [] 1
      Nat.one_pos rfl hfound⟩

end AssetBroker
