import AssetBroker.Proofs.NativeLoad
import AssetBroker.Proofs.FirstRegistration
import Mathlib

/-!
# Which native binary wins a scan

A native loader walks its search paths in order, each directory once under
its canonical path, and loads the regular `so` files among its entries,
sorted by name. `nativeCandidates` lists those files and `nativeRegistration?`
what each registers. The invariant `Registered` says the registry of the
source has recorded exactly those registrations so far, each under a provider
of the right maker from the right binary; one entry keeps it
(`Registered.scanNativeEntry`), so a directory's entries do
(`Registered.scanEntries`) and the whole walk does
(`ends_scanPaths_native`). First registration wins in the registry, so the
first candidate to give an identifier keeps it.
-/

namespace AssetBroker

namespace World

variable {w w' : World}

/-- What a search directory offers, and the directories walked after it:
nothing when it is not a directory or was walked under its canonical path;
otherwise its entries, sorted by name, under that path. -/
def searchEntries (w : World) (dir : String) (visited : List String) :
    Option (List String) × List String :=
  if !w.fs.isDir "/" dir then (none, visited)
  else
    let canonical := (w.fs.canonicalize "/" dir).toOption.getD dir
    if visited.contains canonical then (none, visited)
    else (some ((w.fs.children canonical).map (Path.join canonical)), visited ++ [canonical])

theorem ends_directoryEntries (dir : String) (visited : List String) (kind : String) (w : World) :
    (directoryEntries dir visited kind).Ends w fun r w' => r = w.searchEntries dir visited ∧ Calm w w' := by
  unfold directoryEntries
  refine Op.ends_get_bind ?_
  by_cases hdir : w.fs.isDir "/" dir
  · rw [if_neg (by simp [hdir])]
    dsimp only
    by_cases hseen : visited.contains ((w.fs.canonicalize "/" dir).toOption.getD dir)
    · rw [if_pos hseen]
      exact (ends_log _ _ _ _ w).bind fun _ w₁ h₁ =>
        Op.ends_pure ⟨by simpa [searchEntries, hdir] using hseen, h₁⟩
    · rw [if_neg hseen]
      exact Op.ends_pure ⟨by simpa [searchEntries, hdir] using hseen, Calm.refl w⟩
  · rw [if_pos (by simpa using hdir)]
    exact (ends_log _ _ _ _ w).bind fun _ w₁ h₁ => Op.ends_pure ⟨by simp [searchEntries, hdir], h₁⟩

/-- The native candidates of a scan, in order: the regular `so` files among
the entries of each search path that `searchEntries` walks. -/
def nativeCandidates (w : World) : List String → List String → List String
  | _, [] => []
  | visited, dir :: rest =>
    ((w.searchEntries dir visited).1.getD []).filter w.isNativeCandidate ++
      nativeCandidates w (w.searchEntries dir visited).2 rest

/-! ## What a scan has registered so far -/

/-- Registrations as a registry holds them, matched one for one with
identifiers, makers and canonical paths: the identifier is the same, the
origin is the binary, and the provider has that maker and its code in that
binary of `shelf`. -/
def Describes (w : World) (shelf : Shelf) (regs : List (String × Entry Nat))
    (succ : List (String × Maker × String)) : Prop :=
  List.Forall₂ (fun (r : String × Entry Nat) (s : String × Maker × String) =>
    r.1 = s.1 ∧ r.2.origin = .binary s.2.2 ∧ r.2.provider < w.providers.size ∧
      (w.provider r.2.provider).maker = s.2.1 ∧
      (w.provider r.2.provider).binary = some ⟨shelf, s.2.2⟩) regs succ

/-- The registry of source `i` has recorded the registrations `succ`, in
order. -/
def Registered (i : Nat) (shelf : Shelf) (succ : List (String × Maker × String)) (w : World) : Prop :=
  ∃ l regs, w.loader? i = some l ∧ Registry.Records regs l.registry ∧ w.Describes shelf regs succ

variable {i : Nat} {shelf : Shelf} {succ : List (String × Maker × String)}
  {regs : List (String × Entry Nat)}

theorem Describes.extend (h : w.Describes shelf regs succ) (hext : Extends w w') :
    w'.Describes shelf regs succ :=
  h.imp fun _ _ ⟨hid, ho, hlt, hm, hb⟩ => by
    obtain ⟨hm', hb'⟩ := hext.provider _ hlt
    exact ⟨hid, ho, Nat.lt_of_lt_of_le hlt hext.size, hm'.trans hm, hb'.trans hb⟩

theorem registered_fresh {l : Loader} (hl : w.loader? i = some l) (hfresh : l.registry = .empty) :
    Registered i shelf [] w :=
  ⟨l, [], hl, hfresh ▸ Registry.records_empty, .nil⟩

/-- A step that keeps the loader keeps what it registered. -/
theorem Registered.extend (h : Registered i shelf succ w) (hext : Extends w w')
    (hl : w'.loader? i = w.loader? i) : Registered i shelf succ w' := by
  obtain ⟨l, regs, hli, hrec, hdesc⟩ := h
  exact ⟨l, regs, hl.trans hli, hrec, hdesc.extend hext⟩

/-- A registration of a provider of `maker` from the binary at `canonical`
is recorded after the ones before. -/
theorem Registered.register (h : Registered i shelf succ w) (hext : Extends w w')
    {identifier : String} {maker : Maker} {canonical : String} {n : Nat}
    (hn : n < w'.providers.size) (hm : (w'.provider n).maker = maker)
    (hb : (w'.provider n).binary = some ⟨shelf, canonical⟩)
    (hl : w'.loader? i = (w.loader? i).map fun l =>
      { l with registry := (l.registry.register identifier n (.binary canonical)).1 }) :
    Registered i shelf (succ ++ [(identifier, maker, canonical)]) w' := by
  obtain ⟨l, regs, hli, hrec, hdesc⟩ := h
  refine ⟨_, regs ++ [(identifier, ⟨n, .binary canonical⟩)], by rw [hl, hli]; rfl,
    hrec.apply (.register identifier n (.binary canonical)), ?_⟩
  exact List.rel_append (hdesc.extend hext) (.cons ⟨rfl, rfl, hn, hm, hb⟩ .nil)

theorem Extends.searchEntries (h : Extends w w') : w'.searchEntries = w.searchEntries := by
  funext dir visited
  simp only [World.searchEntries, h.fs]

/-- The step lemma of a scan: one entry adds its registration, if it has one,
to what the registry recorded. -/
theorem Registered.scanNativeEntry {w₀ : World} (hs : w₀.Sound) (ht : w₀.HasTable shelf)
    (h₀ : Extends w₀ w) (h : Registered i shelf succ w) (path : String) :
    (scanNativeEntry i shelf path).Ends w fun _ w' => Extends w₀ w' ∧
      Registered i shelf (succ ++
        (if w₀.isNativeCandidate path then w₀.nativeRegistration? shelf path else none).toList) w' := by
  refine (ends_scanNativeEntry i shelf path (h₀.sound hs) (h₀.hasTable ht)).mono
    fun _ w' ⟨hext, hpost⟩ => ⟨h₀.trans hext, ?_⟩
  rw [← h₀.isNativeCandidate, ← h₀.nativeRegistration?]
  cases hreg : (if w.isNativeCandidate path then w.nativeRegistration? shelf path else none) with
  | none =>
    rw [hreg] at hpost
    simpa using h.extend hext hpost
  | some x =>
    obtain ⟨identifier, maker, canonical⟩ := x
    rw [hreg] at hpost
    obtain ⟨n, -, hn, hm, hb, hl⟩ := hpost
    exact h.register hext hn hm hb hl

/-! ## The walk over the search paths -/

/-- Passing one more entry of a directory adds the registration of that entry,
if it is a candidate that registers. -/
theorem filterMap_filter_cons {α β : Type} (p : α → Bool) (f : α → Option β) (a : α) (l : List α) :
    ((a :: l).filter p).filterMap f = (if p a then f a else none).toList ++ (l.filter p).filterMap f := by
  by_cases hp : p a <;> cases hf : f a <;> simp [hp, hf]

/-- The run lemma of one search directory: its entries, taken in order, add
the registrations of its candidates. The invariant holds what was recorded
so far together with what the remaining entries will add. -/
theorem Registered.scanEntries {w₀ : World} (hs : w₀.Sound) (ht : w₀.HasTable shelf)
    (h₀ : Extends w₀ w) (h : Registered i shelf succ w) (entries : List String) :
    (forIn entries PUnit.unit fun entry _ => do
        World.scanNativeEntry i shelf entry
        pure (ForInStep.yield PUnit.unit) : Op PUnit).Ends w fun _ w' => Extends w₀ w' ∧
      Registered i shelf
        (succ ++ (entries.filter w₀.isNativeCandidate).filterMap (w₀.nativeRegistration? shelf)) w' := by
  refine (Op.ends_forIn (fun rest _ w' => Extends w₀ w' ∧ ∃ d, Registered i shelf d w' ∧
      d ++ (rest.filter w₀.isNativeCandidate).filterMap (w₀.nativeRegistration? shelf) =
        succ ++ (entries.filter w₀.isNativeCandidate).filterMap (w₀.nativeRegistration? shelf))
    (fun entry rest _ w₁ ⟨h₁, d, hd, hdeq⟩ => ?_) ⟨h₀, succ, h, rfl⟩).mono
    fun _ w₁ ⟨h₁, d, hd, hdeq⟩ => ⟨h₁, ?_⟩
  · -- one entry adds its registration, if any
    refine (hd.scanNativeEntry hs ht h₁ entry).bind fun _ w₂ ⟨h₂, hd₂⟩ =>
      Op.ends_pure ⟨_, rfl, h₂, _, hd₂, ?_⟩
    rw [List.append_assoc, ← filterMap_filter_cons]
    exact hdeq
  · -- no entry remains, so every registration is in
    simp only [List.filter_nil, List.filterMap_nil, List.append_nil] at hdeq
    exact hdeq ▸ hd

/-- The run lemma of a native scan: walking the search paths registers the
registrations of the candidates, in order. The loop is over the search
paths, with the directories walked as its state; each directory is one run
of `Registered.scanEntries`. -/
theorem ends_scanPaths_native {l l₀ : Loader} (paths : List String) (hnative : l.discovery = .native)
    (hloader : w.loader? i = some l₀) (hfresh : l₀.registry = .empty) (hsound : w.Sound)
    (htable : w.HasTable l.shelf) :
    (scanPaths i l paths).Ends w fun _ w' => Extends w w' ∧
      Registered i l.shelf ((w.nativeCandidates [] paths).filterMap (w.nativeRegistration? l.shelf)) w' := by
  unfold scanPaths
  rw [hnative]
  dsimp only
  refine (Op.ends_forIn (fun rest visited w' => Extends w w' ∧ ∃ done, Registered i l.shelf done w' ∧
      done ++ (w.nativeCandidates visited rest).filterMap (w.nativeRegistration? l.shelf) =
        (w.nativeCandidates [] paths).filterMap (w.nativeRegistration? l.shelf))
    (fun dir rest visited w₁ ⟨h₁, done, hdone, heq⟩ => ?_)
    ⟨Extends.refl w, [], registered_fresh hloader hfresh, by simp⟩).bind
    fun _ w₁ ⟨h₁, done, hdone, heq⟩ => Op.ends_pure ⟨h₁, ?_⟩
  · refine (ends_log _ _ _ _ w₁).bind fun _ w₂ h₂ => ?_
    refine (ends_directoryEntries dir visited _ w₂).bind fun r w₃ ⟨hr, h₃⟩ => ?_
    -- the directory reads as the spec reads it
    rw [(h₁.trans h₂.frame).searchEntries] at hr
    subst hr
    have hdone₃ : Registered i l.shelf done w₃ :=
      hdone.extend (h₂.frame.trans h₃.frame) (by rw [h₃.loader?, h₂.loader?])
    refine (hdone₃.scanEntries hsound htable (h₁.trans (h₂.frame.trans h₃.frame)) _).bind
      fun _ w₄ ⟨h₄, hd₄⟩ => Op.ends_pure ⟨_, rfl, h₄, _, hd₄, ?_⟩
    -- the directory's candidates are the first of what remained
    rw [← heq, nativeCandidates, List.filterMap_append, List.append_assoc]
  · have htotal : done = (w.nativeCandidates [] paths).filterMap (w.nativeRegistration? l.shelf) := by
      simpa [nativeCandidates] using heq
    exact htotal ▸ hdone

/-! ## What the registry answers after a scan -/

theorem Describes.map_fst (h : w.Describes shelf regs succ) : regs.map (·.1) = succ.map (·.1) := by
  induction h with
  | nil => rfl
  | cons hrs _ ih => simp [hrs.1, ih]

/-- The first registration of an identifier is matched by the first
candidate that registered it. -/
theorem Describes.find?_some (h : w.Describes shelf regs succ) {identifier : String}
    {r : String × Entry Nat} (hr : regs.find? (·.1 == identifier) = some r) :
    ∃ s, succ.find? (·.1 == identifier) = some s ∧ r.1 = s.1 ∧ r.2.origin = .binary s.2.2 ∧
      (w.provider r.2.provider).maker = s.2.1 ∧ (w.provider r.2.provider).binary = some ⟨shelf, s.2.2⟩ := by
  induction h with
  | nil => cases hr
  | @cons r' s' regs' succ' hrs _ ih =>
    by_cases hhead : r'.1 = identifier
    · -- both lists name the identifier first here
      simp only [List.find?_cons, hhead, beq_self_eq_true, Option.some.injEq] at hr
      subst hr
      obtain ⟨hid, ho, -, hm, hb⟩ := hrs
      exact ⟨s', by simp [← hid, hhead], hid, ho, hm, hb⟩
    · have hne : (r'.1 == identifier) = false := by simpa using hhead
      simp only [List.find?_cons, hne] at hr
      obtain ⟨s, hs, hrest⟩ := ih hr
      have hne' : (s'.1 == identifier) = false := by simpa [← hrs.1] using hhead
      exact ⟨s, by simp [hne', hs], hrest⟩

/-- What a registry that recorded `succ` answers: the identifiers once each
in the order they first came, and for each the provider and origin of its
first registration. -/
theorem Registered.answers (h : Registered i shelf succ w) :
    ∃ l, w.loader? i = some l ∧ l.registry.identifiers = (succ.map (·.1)).eraseDups ∧
      ∀ identifier ∈ l.registry.identifiers, ∃ maker canonical,
        succ.find? (·.1 == identifier) = some (identifier, maker, canonical) ∧
        ∃ n, l.registry.plugin identifier = .ok n ∧ (w.provider n).maker = maker ∧
          (w.provider n).binary = some ⟨shelf, canonical⟩ ∧
          l.registry.origin? identifier = some (.binary canonical) := by
  obtain ⟨l, regs, hl, hrec, hdesc⟩ := h
  refine ⟨l, hl, by rw [Registry.identifiers, hrec.order, hdesc.map_fst], fun identifier hmem => ?_⟩
  -- a listed identifier was registered, and its first registration is held
  have hregistered := hrec.mem_order_iff.1 hmem
  obtain ⟨r, hr⟩ := Option.ne_none_iff_exists'.1
    (mt Registry.find?_fst_eq_none_iff.1 (Classical.not_not.2 hregistered))
  have hget : l.registry.get? identifier = some r.2 := by rw [hrec.get, hr]; rfl
  obtain ⟨⟨identifier', maker, canonical⟩, hs, hid, ho, hm, hb⟩ := hdesc.find?_some hr
  have hsame : identifier' = identifier := by simpa using List.find?_some hs
  subst hsame
  refine ⟨maker, canonical, hs, r.2.provider, by simp [Registry.plugin, hget], hm, hb, ?_⟩
  simp [Registry.origin?, hget, ho]

/-- A native scan on a fresh registry keeps, for each identifier, the first
candidate that registers it. The candidates are the regular `so` files of
the search directories, in search-path order, each directory walked once
under its canonical path and its entries taken sorted by name. After the
scan, which does not panic, the identifiers are those the loading candidates
give, once each in the order of their first candidate; and each identifier's
provider is one of that first candidate's maker, whose code is its binary,
and its origin is that binary. -/
theorem native_scan_first_candidate_wins (w : World) (i : Nat) (l l₀ : Loader) (paths : List String)
    (hnative : l.discovery = .native) (hloader : w.loader? i = some l₀)
    (hfresh : l₀.registry = .empty) (hsound : w.Sound) (htable : w.HasTable l.shelf) :
    let run := (scanPaths i l paths).run.run w
    let loaded := (w.nativeCandidates [] paths).filterMap (w.nativeRegistration? l.shelf)
    run.1 = .ok () ∧ ∃ l', run.2.loader? i = some l' ∧
      l'.registry.identifiers = (loaded.map (·.1)).eraseDups ∧
      ∀ identifier ∈ l'.registry.identifiers, ∃ maker canonical,
        loaded.find? (·.1 == identifier) = some (identifier, maker, canonical) ∧
        ∃ n, l'.registry.plugin identifier = .ok n ∧ (run.2.provider n).maker = maker ∧
          (run.2.provider n).binary = some ⟨l.shelf, canonical⟩ ∧
          l'.registry.origin? identifier = some (.binary canonical) := by
  intro run loaded
  obtain ⟨a, w', hrun, -, hreg⟩ := ends_scanPaths_native paths hnative hloader hfresh hsound htable
  have hrun' : run = (.ok a, w') := hrun
  rw [hrun']
  exact ⟨rfl, hreg.answers⟩

/-- Two binaries in one directory, searched twice, both naming the same
plugin; no binary is loaded yet. -/
theorem native_scan_of_shadowing_binaries :
    let l : Loader := { discovery := .native, shelf := .scratch 0 }
    let paths := ["/plugins", "/plugins"]
    let w : World :=
      { fs := ⟨[("/plugins", .dir), ("/plugins/a.so", .file "a"), ("/plugins/b.so", .file "b"),
          ("/plugins/notes.txt", .file "n")]⟩,
        env := [],
        standIns := { behaviours :=
          [("/plugins/a.so", .exports [(entrySymbol, { recipe := .make (.plain "org.example" "A") })]),
           ("/plugins/b.so", .exports [(legacySymbol, { recipe := .make (.plain "org.example" "B") })])] },
        tables := [{}],
        children := #[.lazy l (.explicit paths) false] }
    (l.discovery = .native ∧ w.loader? 0 = some l ∧ l.registry = .empty ∧ w.Sound ∧
      w.HasTable l.shelf) ∧
    let run := (scanPaths 0 l paths).run.run w
    let loaded := (w.nativeCandidates [] paths).filterMap (w.nativeRegistration? l.shelf)
    run.1 = .ok () ∧ ∃ l', run.2.loader? 0 = some l' ∧
      l'.registry.identifiers = (loaded.map (·.1)).eraseDups ∧
      ∀ identifier ∈ l'.registry.identifiers, ∃ maker canonical,
        loaded.find? (·.1 == identifier) = some (identifier, maker, canonical) ∧
        ∃ n, l'.registry.plugin identifier = .ok n ∧ (run.2.provider n).maker = maker ∧
          (run.2.provider n).binary = some ⟨l.shelf, canonical⟩ ∧
          l'.registry.origin? identifier = some (.binary canonical) := by
  intro l paths w
  -- nothing is loaded, so every loaded binary is the opener's
  have hsound : w.Sound := by
    intro shelf p b hmem
    cases shelf with
    | system => simp [w, table] at hmem
    | scratch k => rcases k with _ | k <;> simp [w, table] at hmem
  have htable : w.HasTable l.shelf := by simp [w, l, HasTable]
  exact ⟨⟨rfl, rfl, rfl, hsound, htable⟩,
    native_scan_first_candidate_wins w 0 l l paths rfl rfl rfl hsound htable⟩

end World

end AssetBroker
