import AssetBroker.Proofs.PackageScan

/-!
# A package loader's manifests follow its registry

A package loader keeps, beside its registry, the manifest of each package
it registered. Over any sequence of scans and resets, starting from a fresh
loader, the two agree: after every call the registry shows the
registrations of the scans since the last reset, first registration winning
(`Loader.Shows`), and the loader keeps a manifest for exactly the
identifiers registered from a package, the one read from that package
(`ManifestsFollow`). A reset empties both.

The manifest names the identifier the package's provider gave when the
package was loaded, and the registry holds the provider under the
identifier it gave when asked again, at registration. The two agree for a
provider that names itself the same each time it is asked; one whose
answers change is registered under its second answer, beside a manifest
naming its first.
-/

namespace AssetBroker

/-- A call made on a package loader: a scan of search paths, or a reset. -/
inductive LoaderCall where
  | scan (paths : List String)
  | reset

namespace LoaderCall

/-- What a call does to source `i`: a scan walks the paths with the
source's loader as it stands, and a reset clears it. -/
def op (i : Nat) : LoaderCall → Op Unit
  | .scan paths => do
    match (← get).loader? i with
    | some l => World.scanPaths i l paths
    | none => pure ()
  | .reset => World.clearSource i

def runAll (i : Nat) : List LoaderCall → Op Unit
  | [] => pure ()
  | c :: cs => do
    c.op i
    runAll i cs

/-- The registrations since the last reset, once one more call is made:
a scan adds what it registers, a reset forgets them all. -/
def since (w : World) (l : Loader) (specs : List Registration) : LoaderCall → List Registration
  | .scan paths => specs ++ w.packageScan l paths
  | .reset => []

end LoaderCall

/-- What a loader shows after the registrations `specs` since its last
reset, first registration winning: the identifiers in the order they first
came, and for each the origin and the manifest of its first registration,
and a provider of that registration's maker and binary. -/
structure Loader.Shows (l : Loader) (w : World) (specs : List Registration) : Prop where
  identifiers : l.registry.identifiers = (specs.map (·.identifier)).eraseDups
  origin : ∀ identifier, l.registry.origin? identifier = (firstOf specs identifier).map (·.origin)
  manifest : ∀ identifier, Keyed.find? identifier l.manifests = (firstOf specs identifier).bind (·.manifest)
  provider : ∀ identifier r, firstOf specs identifier = some r → ∃ n, l.registry.plugin identifier = .ok n ∧
    (w.provider n).maker = r.maker ∧ (w.provider n).binary = r.binary

/-- A registration keeps a manifest exactly when it comes from a package;
the manifest is then the one read from that package, naming what the
provider gave when first asked, and the registration is under what the
provider gave when asked again. -/
def Registration.Fits (w : World) (r : Registration) : Prop :=
  match r.origin with
  | .package p => ∃ m, r.manifest = some m ∧ w.readManifest p = .ok m ∧
      r.maker.identify 0 = .ok m.identifier ∧ r.maker.identify 1 = .ok r.identifier
  | _ => r.manifest = none

/-- A loader keeps a manifest for exactly the identifiers registered from a
package: the manifest read from that package. It names what the registered
provider gives when first asked, while the registry has the provider under
what it gives when asked again. -/
def ManifestsFollow (w : World) (l : Loader) : Prop :=
  ∀ identifier, match l.registry.origin? identifier with
    | some (.package p) => ∃ m n, Keyed.find? identifier l.manifests = some m ∧ w.readManifest p = .ok m ∧
        l.registry.plugin identifier = .ok n ∧ (w.provider n).maker.identify 0 = .ok m.identifier ∧
        (w.provider n).maker.identify 1 = .ok identifier
    | _ => Keyed.find? identifier l.manifests = none

namespace World

variable {w w' : World} {i : Nat} {l₀ : Loader} {specs : List Registration}
  {regs : List (String × Entry Nat)}

/-! ## Every unit fits -/

theorem fits_extend {r : Registration} (h : r.Fits w) (hext : Extends w w') : r.Fits w' := by
  unfold Registration.Fits at h ⊢
  rw [hext.readManifest]
  exact h

/-- A package that loads read its manifest, loaded its library, and heard
its provider name itself as the manifest does. -/
theorem packageLoad?_eq_some {shelf : Shelf} {p : String} {m : Manifest} {maker : Maker} {c : String}
    (h : w.packageLoad? shelf p = some (m, maker, c)) :
    w.readManifest p = .ok m ∧ w.binaryLoad? shelf m.library m.symbol = some (maker, c) ∧
      maker.identify 0 = .ok m.identifier := by
  -- the three steps of the load, each one either failing or passing on
  cases hr : w.readManifest p with
  | error e => simp [packageLoad?, hr, Except.toOption] at h
  | ok m' =>
    cases hb : w.binaryLoad? shelf m'.library m'.symbol with
    | none => simp [packageLoad?, hr, Except.toOption, hb] at h
    | some loaded =>
      obtain ⟨maker', c'⟩ := loaded
      cases hid : maker'.identify 0 with
      | error e => simp [packageLoad?, hr, Except.toOption, hb, hid] at h
      | ok actual =>
        by_cases hsame : actual = m'.identifier
        · simp [packageLoad?, hr, Except.toOption, hb, hid, hsame] at h
          obtain ⟨rfl, rfl, rfl⟩ := h
          exact ⟨rfl, hb, hid.trans (by rw [hsame])⟩
        · simp [packageLoad?, hr, Except.toOption, hb, hid, hsame] at h

theorem fits_of_packageRegistration? {shelf : Shelf} {p : String} {r : Registration}
    (h : w.packageRegistration? shelf p = some r) : r.Fits w := by
  cases hload : w.packageLoad? shelf p with
  | none => simp [packageRegistration?, hload] at h
  | some loaded =>
    obtain ⟨m, maker, c⟩ := loaded
    obtain ⟨hread, -, hfirst⟩ := packageLoad?_eq_some hload
    cases hid : maker.identify 1 with
    | error e => simp [packageRegistration?, hload, hid] at h
    | ok identifier =>
      simp [packageRegistration?, hload, hid] at h
      obtain ⟨-, rfl⟩ := h
      exact ⟨m, rfl, hread, hfirst, hid⟩

theorem fits_of_entryRegistration? {e : EntryPoint} {r : Registration} (h : w.entryRegistration? e = some r) :
    r.Fits w := by
  unfold entryRegistration? at h
  split at h
  · split at h
    · split at h
      · cases h
      · cases h
        rfl
    · cases h
  · cases h

theorem fits_of_mem_packageScan {l : Loader} {paths : List String} {r : Registration}
    (h : r ∈ w.packageScan l paths) : r.Fits w := by
  unfold packageScan at h
  rcases List.mem_append.1 h with hpkg | hentry
  · obtain ⟨p, -, hp⟩ := List.mem_filterMap.1 hpkg
    exact fits_of_packageRegistration? hp
  · split at hentry
    · split at hentry
      · obtain ⟨e, -, he⟩ := List.mem_filterMap.1 hentry
        exact fits_of_entryRegistration? he
      · cases hentry
    · cases hentry

theorem mem_foldl_since {l : Loader} {r : Registration} (calls : List LoaderCall) :
    r ∈ calls.foldl (LoaderCall.since w l) specs → r ∈ specs ∨ ∃ paths, r ∈ w.packageScan l paths := by
  induction calls generalizing specs with
  | nil => exact .inl
  | cons c cs ih =>
    intro hr
    rcases ih hr with hmid | hscan
    · cases c with
      | scan paths =>
        rcases List.mem_append.1 hmid with hold | hnew
        · exact .inl hold
        · exact .inr ⟨paths, hnew⟩
      | reset => cases hmid
    · exact .inr hscan

/-! ## What the registry shows -/

theorem Realizes.find? (h : w.Realizes regs specs) (identifier : String) :
    Option.Rel (fun (r : String × Entry Nat) (s : Registration) => r.2.origin = s.origin ∧
        r.2.provider < w.providers.size ∧ (w.provider r.2.provider).maker = s.maker ∧
        (w.provider r.2.provider).binary = s.binary)
      (regs.find? (·.1 == identifier)) (firstOf specs identifier) := by
  induction h with
  | nil => exact .none
  | @cons r s regs specs hrs _ ih =>
    by_cases hid : s.identifier = identifier
    · -- both lists name the identifier first here
      have hr : (r.1 == identifier) = true := by simp [hrs.1, hid]
      have hs : (s.identifier == identifier) = true := by simp [hid]
      simp only [firstOf, List.find?_cons, hr, hs]
      exact .some hrs.2
    · have hr : (r.1 == identifier) = false := by simp [hrs.1, hid]
      have hs : (s.identifier == identifier) = false := by simp [hid]
      simp only [firstOf, List.find?_cons, hr, hs]
      exact ih

/-- What a loader that holds the registrations `specs` shows. -/
theorem Holds.shows (h : Holds i l₀ specs w) : ∃ l, w.loader? i = some l ∧ l.Shows w specs := by
  obtain ⟨registry, manifests, regs, hl, hrec, hreal, hman⟩ := h
  refine ⟨_, hl, ⟨?_, fun identifier => ?_, hman, fun identifier r hr => ?_⟩⟩
  · show registry.order = _
    rw [hrec.order, hreal.map_fst]
  · show (registry.get? identifier).map (·.origin) = _
    rw [hrec.get]
    have hrel := hreal.find? identifier
    generalize regs.find? (·.1 == identifier) = x at hrel ⊢
    generalize firstOf specs identifier = y at hrel ⊢
    cases hrel with
    | none => rfl
    | some hrs => simp [hrs.1]
  · have hrel := hreal.find? identifier
    rw [hr] at hrel
    generalize hx : regs.find? (·.1 == identifier) = x at hrel
    cases hrel with
    | some hrs =>
      rename_i e
      obtain ⟨-, -, hm, hb⟩ := hrs
      refine ⟨e.2.provider, ?_, hm, hb⟩
      unfold Registry.plugin
      rw [hrec.get, hx]
      rfl

/-- A loader that shows fitting registrations keeps its manifests beside its
registry. -/
theorem manifestsFollow_of_shows {l : Loader} (h : l.Shows w specs) (hfit : ∀ r ∈ specs, r.Fits w) :
    ManifestsFollow w l := by
  intro identifier
  rw [h.origin identifier]
  cases hfirst : firstOf specs identifier with
  | none => simp [h.manifest identifier, hfirst]
  | some r =>
    have hid : r.identifier = identifier := by simpa using List.find?_some hfirst
    have hr := hfit r (List.mem_of_find?_eq_some hfirst)
    obtain ⟨n, hplugin, hm, -⟩ := h.provider identifier r hfirst
    simp only [Option.map_some]
    unfold Registration.Fits at hr
    cases ho : r.origin with
    | package p =>
      rw [ho] at hr
      obtain ⟨m, hman, hread, hfirstAnswer, hsecond⟩ := hr
      exact ⟨m, n, by rw [h.manifest identifier, hfirst, Option.bind_some, hman], hread, hplugin,
        by rw [hm, hfirstAnswer], by rw [hm, hsecond, hid]⟩
    | binary _ => rw [ho] at hr; simp [h.manifest identifier, hfirst, hr]
    | entryPoint _ _ => rw [ho] at hr; simp [h.manifest identifier, hfirst, hr]
    | label _ => rw [ho] at hr; simp [h.manifest identifier, hfirst, hr]

theorem Holds.eq_empty (h : Holds i l₀ [] w) :
    w.loader? i = some { l₀ with registry := .empty, manifests := [] } := by
  obtain ⟨registry, manifests, regs, hl, hrec, hreal, hman⟩ := h
  cases hreal
  -- nothing registered: no identifier in the order, so no key either
  have hregistry : registry = .empty := by
    obtain ⟨order, entries⟩ := registry
    have horder : order = [] := hrec.order
    subst horder
    have hkeys : Keyed.keys entries = [] := (List.Perm.nil_eq hrec.keys).symm
    have hentries : entries = [] := List.map_eq_nil_iff.1 hkeys
    subst hentries
    rfl
  have hmanifests : manifests = [] := by
    cases manifests with
    | nil => rfl
    | cons kv rest =>
      have hhead := hman kv.1
      simp [Keyed.find?, firstOf] at hhead
  rw [hl, hregistry, hmanifests]

/-! ## Runs of calls -/

/-- **Run.** Over any calls, the loader holds the registrations of the
scans since the last reset. A scan reads the loader as it stands, which
differs from the first only in what it recorded. -/
theorem Holds.runAll {wanted : Bool} {group disableVar : String}
    (hpkg : l₀.discovery = .package wanted group disableVar) {w₀ : World} (hs : w₀.Sound)
    (ht : w₀.HasTable l₀.shelf) (h₀ : Extends w₀ w) (hf₀ : Fixed w₀ w) (h : Holds i l₀ specs w)
    (calls : List LoaderCall) :
    (LoaderCall.runAll i calls).Ends w fun _ w' => Extends w₀ w' ∧ Fixed w₀ w' ∧
      Holds i l₀ (calls.foldl (LoaderCall.since w₀ l₀) specs) w' := by
  induction calls generalizing w specs with
  | nil => exact Op.ends_pure ⟨h₀, hf₀, h⟩
  | cons c cs ih =>
    refine (?_ : (c.op i).Ends w fun _ w' => Extends w₀ w' ∧ Fixed w₀ w' ∧
        Holds i l₀ (LoaderCall.since w₀ l₀ specs c) w').bind fun _ w₁ ⟨h₁, hf₁, hc⟩ => ih h₁ hf₁ hc
    obtain ⟨registry, manifests, hl⟩ := h.loader?
    cases c with
    | scan paths =>
      unfold LoaderCall.op
      refine Op.ends_get_bind ?_
      rw [hl]
      refine (h.scanPaths (h₀.sound hs) (h₀.hasTable ht) hpkg rfl rfl paths).mono
        fun _ w₁ ⟨h₁, hf₁, hscan⟩ => ⟨h₀.trans h₁, hf₀.trans hf₁, ?_⟩
      rw [packageScan_eq h₀ hf₀] at hscan
      exact hscan
    | reset =>
      refine (ends_clearSource i hl).mono fun _ w₁ ⟨h₁, hf₁, hl₁⟩ =>
        ⟨h₀.trans h₁, hf₀.trans hf₁, .empty, [], [], hl₁, Registry.records_empty, .nil, fun _ => rfl⟩

theorem foldl_since_of_getLast? {calls : List LoaderCall} (h : calls.getLast? = some .reset) (l : Loader) :
    calls.foldl (LoaderCall.since w l) specs = [] := by
  obtain ⟨cs, rfl⟩ : ∃ cs, calls = cs ++ [.reset] := by
    rw [List.getLast?_eq_some_iff] at h
    exact h
  rw [List.foldl_append]
  rfl

/-- **A package loader's manifests follow its registry.** Take a source of
the world whose loader discovers packages, fresh, with no manifest, and
make any calls on it, scans of any search paths and resets. The run does
not panic. After it the registry shows the registrations of the scans since
the last reset, first registration winning; each scan lists, in order, the
packages of the directory walk that a native loader walks too, then, when
they are enabled, the entry points of the loader's group in name order, so
an entry point never displaces a package of the same identifier. The loader
keeps a manifest for exactly the identifiers registered from a package:
the manifest read from that package, which names what the package's
provider gave when first asked, while the registry has the provider under
what it gave when asked again. After a reset, registry and manifests are
empty. -/
theorem package_loader_manifests_follow_registry (w : World) (i : Nat) (l : Loader) (wanted : Bool)
    (group disableVar : String) (hpackage : l.discovery = .package wanted group disableVar)
    (hloader : w.loader? i = some l) (hfresh : l.registry = .empty) (hnone : l.manifests = [])
    (hsound : w.Sound) (htable : w.HasTable l.shelf) (calls : List LoaderCall) :
    let run := (LoaderCall.runAll i calls).run.run w
    run.1 = .ok () ∧ ∃ l', run.2.loader? i = some l' ∧
      l'.Shows run.2 (calls.foldl (LoaderCall.since w l) []) ∧ ManifestsFollow run.2 l' ∧
      (calls.getLast? = some .reset → l'.registry = .empty ∧ l'.manifests = []) := by
  intro run
  obtain ⟨a, w', hrun, hext, -, hholds⟩ :=
    (holds_fresh hloader hfresh hnone).runAll hpackage hsound htable (Extends.refl w) (Fixed.refl w) calls
  have hrun' : run = (.ok a, w') := hrun
  rw [hrun']
  obtain ⟨l', hl', hshows⟩ := hholds.shows
  -- every registration since the last reset was listed by one of the scans
  have hfit : ∀ r ∈ calls.foldl (LoaderCall.since w l) [], r.Fits w' := fun r hr => by
    rcases mem_foldl_since calls hr with hnil | ⟨paths, hscan⟩
    · cases hnil
    · exact fits_extend (fits_of_mem_packageScan hscan) hext
  refine ⟨rfl, l', hl', hshows, manifestsFollow_of_shows hshows hfit, fun hlast => ?_⟩
  rw [foldl_since_of_getLast? hlast l] at hholds
  rw [hholds.eq_empty, Option.some.injEq] at hl'
  subst hl'
  exact ⟨rfl, rfl⟩

/-- A package whose provider names itself `org.seq` when the package is
loaded and `org.other` when it is registered, scanned, the loader reset,
and scanned again. -/
theorem package_scans_of_renaming_provider :
    let l : Loader := { discovery := .package true "assetio.plugins" "NO_ENTRY_POINTS", shelf := .scratch 0 }
    let calls := [LoaderCall.scan ["/r"], .reset, .scan ["/r"]]
    let w : World :=
      { fs := ⟨[("/r", .dir), ("/r/p", .dir),
          ("/r/p/plugin.toml", .file "[plugin]\nidentifier = \"org.seq\"\nlibrary = \"libplugin.so\"\n"),
          ("/r/p/libplugin.so", .file "so")]⟩,
        env := [],
        standIns := { behaviours := [("/r/p/libplugin.so",
          .exports [(entrySymbol, { recipe := .make (.sequence ["org.seq", "org.other"] "s") })])] },
        tables := [{}],
        entryPoints := [],
        children := #[.lazy l (.explicit ["/r"]) .idle] }
    (l.discovery = .package true "assetio.plugins" "NO_ENTRY_POINTS" ∧ w.loader? 0 = some l ∧
      l.registry = .empty ∧ l.manifests = [] ∧ w.Sound ∧ w.HasTable l.shelf) ∧
    let run := (LoaderCall.runAll 0 calls).run.run w
    run.1 = .ok () ∧ ∃ l', run.2.loader? 0 = some l' ∧
      l'.Shows run.2 (calls.foldl (LoaderCall.since w l) []) ∧ ManifestsFollow run.2 l' ∧
      (calls.getLast? = some .reset → l'.registry = .empty ∧ l'.manifests = []) := by
  intro l calls w
  -- nothing is loaded, so every loaded binary is the opener's
  have hsound : w.Sound := by
    intro shelf p b hmem
    cases shelf with
    | system => simp [w, table] at hmem
    | scratch k => rcases k with _ | k <;> simp [w, table] at hmem
  have htable : w.HasTable l.shelf := by simp [w, l, HasTable]
  exact ⟨⟨rfl, rfl, rfl, rfl, hsound, htable⟩,
    package_loader_manifests_follow_registry w 0 l true "assetio.plugins" "NO_ENTRY_POINTS" rfl rfl rfl rfl
      hsound htable calls⟩

/-- The renaming provider's divergence itself: scanned once, its package is
registered under `org.other`, what the provider gives when asked again,
and the manifest kept for `org.other` names `org.seq`, what it gave when the
package was loaded. -/
theorem renaming_provider_manifest_names_first_answer :
    let l : Loader := { discovery := .package true "assetio.plugins" "NO_ENTRY_POINTS", shelf := .scratch 0 }
    let w : World :=
      { fs := ⟨[("/r", .dir), ("/r/p", .dir),
          ("/r/p/plugin.toml", .file "[plugin]\nidentifier = \"org.seq\"\nlibrary = \"libplugin.so\"\n"),
          ("/r/p/libplugin.so", .file "so")]⟩,
        env := [],
        standIns := { behaviours := [("/r/p/libplugin.so",
          .exports [(entrySymbol, { recipe := .make (.sequence ["org.seq", "org.other"] "s") })])] },
        tables := [{}],
        entryPoints := [],
        children := #[.lazy l (.explicit ["/r"]) .idle] }
    (((LoaderCall.runAll 0 [LoaderCall.scan ["/r"]]).run.run w).2.loader? 0).map
        (fun l' => (l'.registry.identifiers, l'.manifests.map fun e => (e.1, e.2.identifier))) =
      some (["org.other"], [("org.other", "org.seq")]) := by
  decide +kernel

/-! ## Through the gate: a reset brings the same registrations back -/

/-- A gate moved on a lazy source is the same source with the new gate. -/
theorem withGate_of_child {l : Loader} {sp : SearchPaths} {g₀ : ScanState}
    (hc : w.child i = .lazy l sp g₀) (g : ScanState) :
    w.withGate i g = { w with children := w.children.set! i (.lazy l sp g) } := by
  unfold withGate setGate
  simp only [Op.run_bind, Op.run_get, hc]
  rfl

/-- A lazy source is its loader, its search paths and its gate. -/
theorem child_of_searchPaths? {l : Loader} {sp : SearchPaths} (hl : w.loader? i = some l)
    (hp : w.searchPaths? i = some sp) : ∃ g, w.child i = .lazy l sp g := by
  unfold loader? at hl
  unfold searchPaths? at hp
  split at hl
  · rename_i l' sp' g hc
    rw [hc] at hp
    cases hl
    cases hp
    exact ⟨g, hc⟩
  · cases hl

/-- Moving the gate of a package source keeps what its loader holds and all
that a scan reads. -/
theorem Holds.withGate {l : Loader} {sp : SearchPaths} {g₀ : ScanState} (h : Holds i l₀ specs w)
    (hc : w.child i = .lazy l sp g₀) (g : ScanState) :
    Extends w (w.withGate i g) ∧ Fixed w (w.withGate i g) ∧ Holds i l₀ specs (w.withGate i g) ∧
      (w.withGate i g).child i = .lazy l sp g := by
  have hi := lt_size_of_child_eq_lazy hc
  have hext : Extends w { w with children := w.children.set! i (.lazy l sp g) } :=
    ⟨rfl, rfl, Nat.le_refl _, rfl, fun _ _ => ⟨rfl, rfl⟩, id⟩
  have hl : ({ w with children := w.children.set! i (.lazy l sp g) } : World).loader? i = w.loader? i := by
    rw [loader?_setChild, if_pos ⟨rfl, hi⟩]
    unfold World.loader?
    rw [hc]
  rw [withGate_of_child hc]
  exact ⟨hext, ⟨rfl, rfl, rfl⟩, h.extend hext hl, child_set_self hi _⟩

/-- **A scan of a package source.** Its search paths are resolved from the
variables, and the loader records what a scan of those paths registers. -/
theorem Holds.scanSource {wanted : Bool} {group disableVar : String} {l : Loader} {sp : SearchPaths}
    {g : ScanState} (h : Holds i l₀ specs w) (hs : w.Sound) (ht : w.HasTable l₀.shelf)
    (hpkg : l₀.discovery = .package wanted group disableVar) (hc : w.child i = .lazy l sp g) :
    (scanSource i).Ends w fun _ w' => Extends w w' ∧ Fixed w w' ∧
      Holds i l₀ (specs ++ w.packageScan l₀ (sp.resolve w.env).1) w' := by
  -- the source's loader is the one recorded, with the first's discovery and table
  obtain ⟨registry, manifests, hl⟩ := h.loader?
  have hl' : w.loader? i = some l := by
    unfold World.loader?
    rw [hc]
  obtain rfl : { l₀ with registry, manifests } = l := Option.some.inj (hl.symm.trans hl')
  unfold World.scanSource
  refine Op.ends_get_bind ?_
  rw [hc]
  refine Op.ends_get_bind ?_
  dsimp only
  refine ((ends_logAll _ w).and (fixed_logAll _ w)).bind fun _ w₁ ⟨h₁, hf₁⟩ => ?_
  refine ((ends_log _ _ _ _ w₁).and (fixed_log _ _ _ _ w₁)).bind fun _ w₂ ⟨h₂, hf₂⟩ => ?_
  have hcalm := h₁.trans h₂
  have hfix := hf₁.trans hf₂
  refine ((h.extend hcalm.frame (hcalm.loader? i)).scanPaths (hcalm.frame.sound hs)
    (hcalm.frame.hasTable ht) hpkg rfl rfl _).mono fun _ w₃ ⟨h₃, hf₃, hh⟩ =>
      ⟨hcalm.frame.trans h₃, hfix.trans hf₃, ?_⟩
  rwa [packageScan_eq hcalm.frame hfix] at hh

/-- **A reset.** Clearing a source empties its loader and keeps its search
paths and its gate. -/
theorem ends_clearSource_child {l : Loader} {sp : SearchPaths} {g : ScanState}
    (hc : w.child i = .lazy l sp g) :
    (clearSource i).Ends w fun _ w' => Extends w w' ∧ Fixed w w' ∧
      w'.child i = .lazy { l with registry := .empty, manifests := [] } sp g := by
  unfold clearSource setChild
  refine Op.ends_get_bind ?_
  rw [hc]
  dsimp only
  refine (Op.ends_modify (Q := fun _ w₁ => Extends w w₁ ∧ Fixed w w₁ ∧
      w₁.child i = .lazy { l with registry := .empty, manifests := [] } sp g)
    ⟨⟨rfl, rfl, Nat.le_refl _, rfl, fun _ _ => ⟨rfl, rfl⟩, id⟩, ⟨rfl, rfl, rfl⟩,
      child_set_self (lt_size_of_child_eq_lazy hc) _⟩).bind fun _ w₁ ⟨h₁, hf₁, hc₁⟩ => ?_
  refine ((ends_collect w₁).and (fixed_collect w₁)).mono fun _ _ ⟨h₂, hf₂⟩ =>
    ⟨h₁.trans h₂.frame, hf₁.trans hf₂, ?_⟩
  unfold child
  rw [h₂.children]
  exact hc₁

/-- What a run ending ends in, whatever it would have ended in otherwise. -/
theorem ends_and_within {α : Type} {x : Op α} {Q R : α → World → Prop} {P : World → Prop}
    (h : x.Ends w Q) (hw : x.Within w P R) : x.Ends w fun a w' => Q a w' ∧ R a w' := by
  obtain ⟨a, w', hrun, hq⟩ := h
  unfold Op.Within at hw
  rw [hrun] at hw
  exact ⟨a, w', hrun, hq, hw⟩

theorem sameHolds_withGate (w : World) (i : Nat) (g : ScanState) : SameHolds w (w.withGate i g) := by
  obtain ⟨_, w', hrun, h⟩ := ends_setGate_sameHolds i g w
  rw [run_setGate] at hrun
  rw [(Prod.mk.inj hrun).2]
  exact h

section Rescan

variable {w₀ : World} {l : Loader} {sp : SearchPaths} {wanted : Bool} {group disableVar : String}

/-- **Step.** A scan from any start like the first, a fresh loader over the
first search paths in a world that only grew from it, registers what a scan
of the first world registers, and keeps the search paths. -/
theorem rescan_from_start (hpackage : l.discovery = .package wanted group disableVar)
    (hs₀ : w₀.Sound) (ht₀ : w₀.HasTable l.shelf) (hext : Extends w₀ w) (hfix : Fixed w₀ w) (hfit : w.Fit)
    (h : Holds i l [] w) {l' : Loader} {g : ScanState} (hc : w.child i = .lazy l' sp g) :
    (scanSource i).Ends w fun _ w' => Extends w₀ w' ∧ Fixed w₀ w' ∧ w'.Fit ∧
      Holds i l (w₀.packageScan l (sp.resolve w₀.env).1) w' ∧ w'.searchPaths? i = some sp := by
  refine (ends_and_within (h.scanSource (hext.sound hs₀) (hext.hasTable ht₀) hpackage hc)
    (within_scanSource hfit i)).mono fun _ w' ⟨⟨h₁, hf₁, hh⟩, hscanned⟩ =>
      ⟨hext.trans h₁, hfix.trans hf₁, hscanned.fit, ?_, ?_⟩
  · rwa [List.nil_append, packageScan_eq hext hfix, hfix.env] at hh
  · rw [hscanned.grows.searchPaths i]
    simp [searchPaths?, hc]

/-- **A query from an idle gate** scans from a start like the first, and
leaves the gate done over the same search paths. -/
theorem query_from_idle (hpackage : l.discovery = .package wanted group disableVar)
    (hs₀ : w₀.Sound) (ht₀ : w₀.HasTable l.shelf) (hext : Extends w₀ w) (hfix : Fixed w₀ w) (hfit : w.Fit)
    (h : Holds i l [] w) (hp : w.searchPaths? i = some sp) (hg : w.gate? i = some .idle) :
    ∃ w', (GateCall.op i (scanSource i) (clearSource i) .query).run.run w = (.ok (), w') ∧
      Extends w₀ w' ∧ Fixed w₀ w' ∧ w'.Fit ∧ Holds i l (w₀.packageScan l (sp.resolve w₀.env).1) w' ∧
        w'.searchPaths? i = some sp ∧ w'.gate? i = some .done := by
  obtain ⟨registry, manifests, hl⟩ := h.loader?
  obtain ⟨g, hc⟩ := child_of_searchPaths? hl hp
  -- the scan runs with the gate moved to scanning
  obtain ⟨hextS, hfixS, hhS, hcS⟩ := h.withGate hc .scanning
  obtain ⟨⟨⟩, w₁, hs₁, hext₁, hfix₁, hfit₁, hh₁, hp₁⟩ :=
    rescan_from_start hpackage hs₀ ht₀ (hext.trans hextS) (hfix.trans hfixS)
      ((sameHolds_withGate w i .scanning).fit hfit) hhS hcS
  -- it kept the search paths, and then the gate is done
  obtain ⟨registry₁, manifests₁, hl₁⟩ := hh₁.loader?
  obtain ⟨g₁, hc₁⟩ := child_of_searchPaths? hl₁ hp₁
  obtain ⟨hextD, hfixD, hhD, hcD⟩ := hh₁.withGate hc₁ .done
  refine ⟨w₁.withGate i .done, ?_, hext₁.trans hextD, hfix₁.trans hfixD,
    (sameHolds_withGate w₁ i .done).fit hfit₁, hhD, by simp [searchPaths?, hcD], by simp [gate?, hcD]⟩
  simp only [GateCall.op, gatedScan_of_idle hg, hs₁]

/-- **A reset after a finished scan** clears the loader with the gate held,
and leaves a fresh loader and an idle gate over the same search paths: a
start like the first. -/
theorem reset_from_done (hext : Extends w₀ w) (hfix : Fixed w₀ w) (hfit : w.Fit) (h : Holds i l specs w)
    (hp : w.searchPaths? i = some sp) (hg : w.gate? i = some .done) :
    ∃ w', (GateCall.op i (scanSource i) (clearSource i) .reset).run.run w = (.ok (), w') ∧
      Extends w₀ w' ∧ Fixed w₀ w' ∧ w'.Fit ∧ Holds i l [] w' ∧
        w'.searchPaths? i = some sp ∧ w'.gate? i = some .idle := by
  obtain ⟨registry, manifests, hl⟩ := h.loader?
  obtain ⟨g, hc⟩ := child_of_searchPaths? hl hp
  obtain ⟨hextR, hfixR, -, hcR⟩ := h.withGate hc .resetting
  obtain ⟨⟨⟩, w₂, hrun, ⟨hext₂, hfix₂, hc₂⟩, hfit₂⟩ :=
    (ends_clearSource_child hcR).and (ends_clearSource_fit ((sameHolds_withGate w i .resetting).fit hfit) i)
  have hh₂ : Holds i l [] w₂ :=
    ⟨.empty, [], [], by simp [loader?, hc₂], Registry.records_empty, .nil, fun _ => rfl⟩
  obtain ⟨hextI, hfixI, hhI, hcI⟩ := hh₂.withGate hc₂ .idle
  refine ⟨w₂.withGate i .idle, ?_, hext.trans (hextR.trans (hext₂.trans hextI)),
    hfix.trans (hfixR.trans (hfix₂.trans hfixI)), (sameHolds_withGate w₂ i .idle).fit hfit₂, hhI,
    by simp [searchPaths?, hcI], by simp [gate?, hcI]⟩
  simp only [GateCall.op, gatedReset_of_rest (.inr hg), hrun]

/-- **A reset brings the same registrations back.** Take a fresh, idle
package source of a sound and fit world. Queried once, or queried, reset
and queried again, it scans without a panic each time and ends showing the
same registrations: those of one scan of its search paths as the variables
resolve them, first registration winning. So its identifiers, their
origins and their manifests are the same before and after the reset: the
loader's own scan and clear give the gate's reset law. -/
theorem package_source_rescans_alike (hpackage : l.discovery = .package wanted group disableVar)
    (hchild : w₀.child i = .lazy l sp .idle) (hfresh : l.registry = .empty) (hnone : l.manifests = [])
    (hsound : w₀.Sound) (htable : w₀.HasTable l.shelf) (hfit : w₀.Fit) :
    ∀ calls ∈ [[GateCall.query], [.query, .reset, .query]],
      ∃ w' l', (runCalls i (scanSource i) (clearSource i) calls).run.run w₀ = (.ok (), w') ∧
        w'.loader? i = some l' ∧ l'.Shows w' (w₀.packageScan l (sp.resolve w₀.env).1) := by
  intro calls hcalls
  have h₀ : Holds i l [] w₀ := holds_fresh (by simp [loader?, hchild]) hfresh hnone
  obtain ⟨w₁, hq₁, hext₁, hfix₁, hfit₁, hh₁, hp₁, hg₁⟩ :=
    query_from_idle hpackage hsound htable (Extends.refl w₀) (Fixed.refl w₀) hfit h₀
      (show w₀.searchPaths? i = some sp by simp [searchPaths?, hchild]) (by simp [gate?, hchild])
  simp only [List.mem_cons, List.not_mem_nil, or_false] at hcalls
  rcases hcalls with rfl | rfl
  · -- queried once
    obtain ⟨l', hl', hshows⟩ := hh₁.shows
    exact ⟨_, l', by simp only [runCalls, Op.run_bind, hq₁, Op.run_pure], hl', hshows⟩
  · -- the reset leaves a start like the first, and the next query scans from it again
    obtain ⟨w₂, hr₂, hext₂, hfix₂, hfit₂, hh₂, hp₂, hg₂⟩ := reset_from_done hext₁ hfix₁ hfit₁ hh₁ hp₁ hg₁
    obtain ⟨w₃, hq₃, -, -, -, hh₃, -, -⟩ :=
      query_from_idle hpackage hsound htable hext₂ hfix₂ hfit₂ hh₂ hp₂ hg₂
    obtain ⟨l', hl', hshows⟩ := hh₃.shows
    exact ⟨_, l', by simp only [runCalls, Op.run_bind, hq₁, hr₂, hq₃, Op.run_pure], hl', hshows⟩

end Rescan

end World

end AssetBroker
