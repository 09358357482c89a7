import AssetBroker.Proofs.PackageLoad
import AssetBroker.Proofs.NativeScan
import AssetBroker.Proofs.LoadedHeld
import AssetBroker.Proofs.ScanOnce

/-!
# One scan of a package loader

A package loader walks its search paths as a native loader does
(`searchWalk`), taking each directory that holds `plugin.toml`, and each
`*.toml` file, as a package; then, when they are enabled, it registers the
entry points of its group in name order. What each unit registers is said
without running anything: `packageRegistration?` for a package,
`entryRegistration?` for an entry point, and `packageScan` lists them in
order.

The invariant `Holds` says the loader's registry has recorded a list of
registrations, first registration winning, and that it keeps the manifest
of each identifier's first registration, if that one brought a manifest.
One unit keeps it (`Holds.step`, fed by `ends_scanPackageEntry` and
`ends_scanEntryPoint`), so a directory's entries do, the whole walk does,
and a scan does (`Holds.scanPaths`). A reset empties both
(`ends_clearSource`).
-/

namespace AssetBroker

/-- What one unit of a scan registers: the identifier and origin, the maker
of its provider and the binary that provider's code lives in, and the
manifest kept for it, if any. -/
structure Registration where
  identifier : String
  origin : Origin
  maker : Maker
  binary : Option BinaryRef
  manifest : Option Manifest

/-- The loader once a registration is made under provider `n`: the registry
registers it, first registration winning, and the manifest it brings is kept
only when the identifier was free. -/
def Loader.record (l : Loader) (r : Registration) (n : Nat) : Loader :=
  { l with
    registry := (l.registry.register r.identifier n r.origin).1
    manifests :=
      if (l.registry.register r.identifier n r.origin).2.1.isNone then
        (r.manifest.map fun m => Keyed.insert r.identifier m l.manifests).getD l.manifests
      else l.manifests }

/-- The first registration of an identifier among some. -/
def firstOf (specs : List Registration) (identifier : String) : Option Registration :=
  specs.find? (·.identifier == identifier)

theorem firstOf_append_singleton (specs : List Registration) (r : Registration) (identifier : String) :
    firstOf (specs ++ [r]) identifier =
      (firstOf specs identifier).or (if r.identifier = identifier then some r else none) := by
  unfold firstOf
  rw [List.find?_append]
  by_cases h : r.identifier = identifier <;> simp [h]

theorem firstOf_eq_none_iff {specs : List Registration} {identifier : String} :
    firstOf specs identifier = none ↔ identifier ∉ specs.map (·.identifier) := by
  simp [firstOf, List.find?_eq_none]

namespace World

variable {w w' w₁ w₂ : World} {i : Nat}

/-! ## What one unit registers -/

/-- The manifest a search path entry offers as a package, under its
canonical path when it has one. -/
def packageManifest? (w : World) (entry : String) : Option String :=
  (w.manifestPath? entry).map fun found => (w.fs.canonicalize "/" found).toOption.getD found

/-- What a package registers when it loads: its provider, asked a second
time, must give a non-empty identifier, and the manifest is kept for it. -/
def packageRegistration? (w : World) (shelf : Shelf) (manifestPath : String) : Option Registration := do
  let (m, maker, canonical) ← w.packageLoad? shelf manifestPath
  match maker.identify 1 with
  | .ok identifier =>
    if identifier.isEmpty then none
    else some ⟨identifier, .package manifestPath, maker, some ⟨shelf, canonical⟩, some m⟩
  | .error _ => none

/-- What an entry point registers: its provider function must make a
provider whose first answer is a non-empty identifier. No manifest is kept
for it. -/
def entryRegistration? (w : World) (e : EntryPoint) : Option Registration :=
  match w.entryRecipe e.slot with
  | .make maker =>
    match maker.identify 0 with
    | .ok identifier => if identifier.isEmpty then none else some ⟨identifier, e.origin, maker, none, none⟩
    | .error _ => none
  | .explode _ => none

/-- The entries a scan walks, in order: those of each search path that
`searchEntries` walks. -/
def searchWalk (w : World) : List String → List String → List String
  | _, [] => []
  | visited, dir :: rest =>
    ((w.searchEntries dir visited).1.getD []) ++ searchWalk w (w.searchEntries dir visited).2 rest

/-- A native loader's candidates are the regular `so` files of the same
walk. -/
theorem nativeCandidates_eq_filter_searchWalk (w : World) (visited paths : List String) :
    w.nativeCandidates visited paths = (w.searchWalk visited paths).filter w.isNativeCandidate := by
  induction paths generalizing visited with
  | nil => rfl
  | cons dir rest ih => simp [nativeCandidates, searchWalk, List.filter_append, ih]

/-- What a scan of a package loader registers, in order: the packages of its
walk, then, when they are enabled, the entry points of its group in name
order. -/
def packageScan (w : World) (l : Loader) (paths : List String) : List Registration :=
  ((w.searchWalk [] paths).filterMap w.packageManifest?).filterMap (w.packageRegistration? l.shelf) ++
    match l.discovery with
    | .package _ group _ =>
      if w.entryPointsEnabled l.discovery then
        (EntryPoint.ofGroup w.entryPoints group).filterMap w.entryRegistration?
      else []
    | _ => []

/-! ## The spec reads what a scan keeps -/

theorem Extends.searchWalk (h : Extends w w') : w'.searchWalk = w.searchWalk := by
  funext visited paths
  induction paths generalizing visited with
  | nil => rfl
  | cons dir rest ih => simp only [World.searchWalk, h.searchEntries, ih]

theorem Extends.packageManifest? (h : Extends w w') : w'.packageManifest? = w.packageManifest? := by
  funext entry
  simp only [World.packageManifest?, World.manifestPath?, h.fs]

theorem Extends.readManifest (h : Extends w w') : w'.readManifest = w.readManifest := by
  funext manifestPath
  simp only [World.readManifest, h.fs]

theorem Extends.binaryLoad? (h : Extends w w') : w'.binaryLoad? = w.binaryLoad? := by
  funext shelf path symbol
  simp only [World.binaryLoad?, h.fs, h.opener]

theorem Extends.packageRegistration? (h : Extends w w') :
    w'.packageRegistration? = w.packageRegistration? := by
  funext shelf manifestPath
  simp only [World.packageRegistration?, World.packageLoad?, h.readManifest, h.binaryLoad?]

theorem Fixed.entryRegistration? (h : Fixed w w') : w'.entryRegistration? = w.entryRegistration? := by
  funext e
  simp only [World.entryRegistration?, World.entryRecipe, h.entrySlots]

theorem Fixed.entryPointsEnabled (h : Fixed w w') : w'.entryPointsEnabled = w.entryPointsEnabled := by
  funext discovery
  cases discovery <;> simp [World.entryPointsEnabled, h.env]

theorem packageScan_eq (h : Extends w w') (hf : Fixed w w') : w'.packageScan = w.packageScan := by
  funext l paths
  simp only [World.packageScan, h.searchWalk, h.packageManifest?, h.packageRegistration?,
    hf.entryPointsEnabled, hf.entryPoints, hf.entryRegistration?]

/-! ## What a loader has recorded so far -/

/-- Registrations as a registry holds them, matched one for one with what
the units registered: the same identifier and origin, and a provider of that
maker whose code is in that binary. -/
def Realizes (w : World) (regs : List (String × Entry Nat)) (specs : List Registration) : Prop :=
  List.Forall₂ (fun (r : String × Entry Nat) (s : Registration) =>
    r.1 = s.identifier ∧ r.2.origin = s.origin ∧ r.2.provider < w.providers.size ∧
      (w.provider r.2.provider).maker = s.maker ∧ (w.provider r.2.provider).binary = s.binary) regs specs

/-- Source `i` holds a loader like `l₀` whose registry has recorded the
registrations `specs`, first registration winning, and which keeps the
manifest of each identifier's first registration. -/
def Holds (i : Nat) (l₀ : Loader) (specs : List Registration) (w : World) : Prop :=
  ∃ registry manifests regs, w.loader? i = some { l₀ with registry, manifests } ∧
    Registry.Records regs registry ∧ w.Realizes regs specs ∧
    ∀ identifier, Keyed.find? identifier manifests = (firstOf specs identifier).bind (·.manifest)

variable {l₀ : Loader} {specs : List Registration} {regs : List (String × Entry Nat)}

theorem Realizes.extend (h : w.Realizes regs specs) (hext : Extends w w') : w'.Realizes regs specs :=
  h.imp fun _ _ ⟨hid, ho, hlt, hm, hb⟩ => by
    obtain ⟨hm', hb'⟩ := hext.provider _ hlt
    exact ⟨hid, ho, Nat.lt_of_lt_of_le hlt hext.size, hm'.trans hm, hb'.trans hb⟩

theorem Realizes.map_fst (h : w.Realizes regs specs) : regs.map (·.1) = specs.map (·.identifier) := by
  induction h with
  | nil => rfl
  | cons hrs _ ih => simp [hrs.1, ih]

/-- A fresh loader has recorded nothing. -/
theorem holds_fresh {l : Loader} (hl : w.loader? i = some l) (hregistry : l.registry = .empty)
    (hmanifests : l.manifests = []) : Holds i l [] w :=
  ⟨l.registry, l.manifests, [], by rw [hl], hregistry ▸ Registry.records_empty, .nil,
    fun _ => by simp [hmanifests, Keyed.find?, firstOf]⟩

/-- A step that keeps the loader keeps what it recorded. -/
theorem Holds.extend (h : Holds i l₀ specs w) (hext : Extends w w') (hl : w'.loader? i = w.loader? i) :
    Holds i l₀ specs w' := by
  obtain ⟨registry, manifests, regs, hli, hrec, hreal, hman⟩ := h
  exact ⟨registry, manifests, regs, hl.trans hli, hrec, hreal.extend hext, hman⟩

/-- Recording a registration keeps a manifest for its identifier exactly
when the identifier was free and the registration brings one. -/
theorem manifests_record {ms : List (String × Manifest)} {r : Registration} {rejected : Option (Entry Nat)}
    (hman : ∀ identifier, Keyed.find? identifier ms = (firstOf specs identifier).bind (·.manifest))
    (hrejected : rejected = none ↔ r.identifier ∉ specs.map (·.identifier)) (identifier : String) :
    Keyed.find? identifier
        (if rejected.isNone then (r.manifest.map fun m => Keyed.insert r.identifier m ms).getD ms else ms) =
      (firstOf (specs ++ [r]) identifier).bind (·.manifest) := by
  rw [firstOf_append_singleton]
  by_cases hid : r.identifier = identifier
  · subst hid
    cases hfirst : firstOf specs r.identifier with
    | some s =>
      -- the identifier was taken: nothing is kept
      have htaken : r.identifier ∈ specs.map (·.identifier) :=
        Classical.not_not.1 (mt firstOf_eq_none_iff.2 (by simp [hfirst]))
      have hsome : rejected.isNone = false := by
        cases rejected with
        | none => exact absurd (hrejected.1 rfl) (not_not.2 htaken)
        | some _ => rfl
      simp [hsome, hman, hfirst]
    | none =>
      have hnone : rejected = none := hrejected.2 (firstOf_eq_none_iff.1 hfirst)
      cases hm : r.manifest with
      | none => simp [hnone, hm, hman, hfirst]
      | some m => simp [hnone, hm]
  · -- another identifier reads as before
    have hne : (firstOf specs identifier).or (if r.identifier = identifier then some r else none) =
        firstOf specs identifier := by simp [hid]
    rw [hne, ← hman]
    split
    · cases r.manifest with
      | none => rfl
      | some m => exact Keyed.find?_insert_ne hid m ms
    · rfl

/-- Recording a registration under a provider of its maker and binary
extends what the registry recorded by it. -/
theorem Holds.record (h : Holds i l₀ specs w) (hext : Extends w w') {r : Registration} {n : Nat}
    (hn : n < w'.providers.size) (hm : (w'.provider n).maker = r.maker)
    (hb : (w'.provider n).binary = r.binary) (hl : w'.loader? i = (w.loader? i).map (·.record r n)) :
    Holds i l₀ (specs ++ [r]) w' := by
  obtain ⟨registry, manifests, regs, hli, hrec, hreal, hman⟩ := h
  have hrejected : (registry.register r.identifier n r.origin).2.1 = none ↔
      r.identifier ∉ specs.map (·.identifier) := by
    rw [(hrec.register_answer r.identifier n r.origin).1, hreal.map_fst]
  refine ⟨_, _, regs ++ [(r.identifier, ⟨n, r.origin⟩)], by rw [hl, hli]; rfl,
    hrec.apply (.register r.identifier n r.origin),
    List.rel_append (hreal.extend hext) (.cons ⟨rfl, rfl, hn, hm, hb⟩ .nil), ?_⟩
  exact manifests_record hman hrejected

/-- How a scan step left the loader of source `i`, given what its unit
registers: unchanged when nothing, and otherwise with the registration
recorded under a provider of its maker and binary. -/
def RecordsAs (i : Nat) (w w' : World) : Option Registration → Prop
  | none => w'.loader? i = w.loader? i
  | some r => ∃ n, n < w'.providers.size ∧ (w'.provider n).maker = r.maker ∧
      (w'.provider n).binary = r.binary ∧ w'.loader? i = (w.loader? i).map (·.record r n)

/-- Steps that keep the loader keep the registration made before them. -/
theorem RecordsAs.extend {x : Option Registration} (h : RecordsAs i w w₁ x) (hext : Extends w₁ w₂)
    (hl : w₂.loader? i = w₁.loader? i) : RecordsAs i w w₂ x := by
  cases x with
  | none => exact hl.trans h
  | some r =>
    obtain ⟨n, hlt, hm, hb, hrec⟩ := h
    obtain ⟨hm', hb'⟩ := hext.provider n hlt
    exact ⟨n, Nat.lt_of_lt_of_le hlt hext.size, hm'.trans hm, hb'.trans hb, hl.trans hrec⟩

/-- **Step.** What one unit registers is recorded after what came before. -/
theorem Holds.step {x : Option Registration} (h : Holds i l₀ specs w) (hext : Extends w w')
    (hrec : RecordsAs i w w' x) : Holds i l₀ (specs ++ x.toList) w' := by
  cases x with
  | none => simpa using h.extend hext hrec
  | some r =>
    obtain ⟨n, hn, hm, hb, hl⟩ := hrec
    exact h.record hext hn hm hb hl

theorem Holds.loader? (h : Holds i l₀ specs w) : ∃ registry manifests,
    w.loader? i = some { l₀ with registry, manifests } := by
  obtain ⟨registry, manifests, -, hl, -⟩ := h
  exact ⟨registry, manifests, hl⟩

/-! ## One unit of a scan -/

/-- Loading and registering the package of one search path entry: a package
that loads and names itself is recorded, with its manifest when its
identifier was free; any other entry changes nothing. -/
theorem ends_scanPackageEntry {l : Loader} (i : Nat) (shelf : Shelf) (entry : String) (hs : w.Sound)
    (ht : w.HasTable shelf) (hl : w.loader? i = some l) :
    (scanPackageEntry i shelf entry).Ends w fun _ w' => Extends w w' ∧ Fixed w w' ∧
      RecordsAs i w w' ((w.packageManifest? entry).bind (w.packageRegistration? shelf)) := by
  unfold scanPackageEntry
  refine Op.ends_get_bind ?_
  cases hmp : w.manifestPath? entry with
  | none =>
    have hnone : (w.packageManifest? entry).bind (w.packageRegistration? shelf) = none := by
      simp [packageManifest?, hmp]
    rw [hnone]
    exact ((ends_log _ _ _ _ w).and (fixed_log _ _ _ _ w)).mono fun _ _ ⟨h₁, hf₁⟩ =>
      ⟨h₁.frame, hf₁, h₁.loader? i⟩
  | some found =>
    dsimp only
    -- the package is known by its manifest's canonical path
    generalize hp : (w.fs.canonicalize "/" found).toOption.getD found = p
    have hunit : (w.packageManifest? entry).bind (w.packageRegistration? shelf) =
        w.packageRegistration? shelf p := by
      simp [packageManifest?, hmp, hp]
    rw [hunit]
    refine (ends_loadPackage shelf p hs ht).bind fun r w₁ ⟨h₁, hf₁, hr⟩ => ?_
    -- a failure to load or to register is logged, and records nothing
    have hlogged : ∀ message fields w₂, Extends w w₂ → Fixed w w₂ → w₂.loader? i = w.loader? i →
        (log .warn .package message fields).Ends w₂ fun _ w' =>
          Extends w w' ∧ Fixed w w' ∧ RecordsAs i w w' none := fun _ _ w₂ h₂ hf₂ hl₂ =>
      ((ends_log _ _ _ _ w₂).and (fixed_log _ _ _ _ w₂)).mono fun _ _ ⟨h₃, hf₃⟩ =>
        ⟨h₂.trans h₃.frame, hf₂.trans hf₃, (h₃.loader? i).trans hl₂⟩
    cases r with
    | error e =>
      have hnone : w.packageRegistration? shelf p = none := by
        simp [packageRegistration?, show w.packageLoad? shelf p = none from hr]
      rw [hnone]
      exact hlogged _ _ w₁ h₁.frame hf₁ (h₁.loader? i)
    | ok loaded =>
      obtain ⟨m, n⟩ := loaded
      obtain ⟨maker, c, hload, -, hlt, hprov⟩ := hr
      refine (ends_registerProvider_answer i n (.package p) ((h₁.loader? i).trans hl)).bind
        fun a w₂ ⟨h₂, hf₂, ha⟩ => ?_
      rw [hprov] at ha
      have hreg : w.packageRegistration? shelf p =
          match maker.identify 1 with
          | .ok identifier =>
            if identifier.isEmpty then none
            else some ⟨identifier, .package p, maker, some ⟨shelf, c⟩, some m⟩
          | .error _ => none := by
        simp [packageRegistration?, hload]
      rw [hreg]
      -- the provider keeps its maker and binary
      obtain ⟨hm₂, hb₂⟩ := h₂.provider n hlt
      rw [hprov] at hm₂ hb₂
      cases hid : maker.identify 1 with
      | error message =>
        simp only [hid] at ha
        obtain ⟨ha, hl₂⟩ := ha
        cases a with
        | error e => exact hlogged _ _ w₂ (h₁.frame.trans h₂) (hf₁.trans hf₂) (hl₂.trans hl.symm)
        | ok _ => cases ha
      | ok identifier =>
        simp only [hid] at ha
        by_cases hempty : identifier.isEmpty
        · simp only [hempty, if_true] at ha ⊢
          obtain ⟨ha, hl₂⟩ := ha
          cases a with
          | error e => exact hlogged _ _ w₂ (h₁.frame.trans h₂) (hf₁.trans hf₂) (hl₂.trans hl.symm)
          | ok _ => cases ha
        · simp only [hempty, Bool.false_eq_true, if_false] at ha ⊢
          obtain ⟨rfl, hl₂⟩ := ha
          have hn₂ : n < w₂.providers.size := Nat.lt_of_lt_of_le hlt h₂.size
          cases hrej : (l.registry.register identifier n (.package p)).2.1 with
          | some rejected =>
            -- the identifier was taken: the registry stays, and no manifest is kept
            refine Op.ends_pure ⟨h₁.frame.trans h₂, hf₁.trans hf₂, n, hn₂, hm₂, hb₂, ?_⟩
            rw [hl₂, hl]
            simp [Loader.record, hrej]
          | none =>
            -- the identifier was free: the manifest is kept beside the registry
            refine ((ends_updateLoader i _ w₂).and (fixed_updateLoader i _ w₂)).mono
              fun _ w₃ ⟨⟨h₃, hl₃⟩, hf₃⟩ => ⟨h₁.frame.trans (h₂.trans h₃), hf₁.trans (hf₂.trans hf₃), n,
                Nat.lt_of_lt_of_le hn₂ h₃.size, ?_, ?_, ?_⟩
            · rw [(h₃.provider n hn₂).1, hm₂]
            · rw [(h₃.provider n hn₂).2, hb₂]
            · rw [hl₃, hl₂, hl]
              simp [Loader.record, hrej]

/-- Registering the plugin of one entry point: one whose provider function
makes a provider that names itself is recorded, with no manifest; any other
changes nothing. -/
theorem ends_scanEntryPoint {l : Loader} (i : Nat) (e : EntryPoint) (hl : w.loader? i = some l) :
    (scanEntryPoint i e).Ends w fun _ w' => Extends w w' ∧ Fixed w w' ∧
      RecordsAs i w w' (w.entryRegistration? e) := by
  unfold scanEntryPoint
  refine Op.ends_get_bind ?_
  -- a failure is logged, and records nothing
  have hlogged : ∀ message fields w₂, Extends w w₂ → Fixed w w₂ → w₂.loader? i = w.loader? i →
      (log .warn .package message fields).Ends w₂ fun _ w' =>
        Extends w w' ∧ Fixed w w' ∧ RecordsAs i w w' none := fun _ _ w₂ h₂ hf₂ hl₂ =>
    ((ends_log _ _ _ _ w₂).and (fixed_log _ _ _ _ w₂)).mono fun _ _ ⟨h₃, hf₃⟩ =>
      ⟨h₂.trans h₃.frame, hf₂.trans hf₃, (h₃.loader? i).trans hl₂⟩
  cases hrecipe : w.entryRecipe e.slot with
  | explode message =>
    have hnone : w.entryRegistration? e = none := by simp [entryRegistration?, hrecipe]
    rw [hnone]
    exact hlogged _ _ w (Extends.refl w) (Fixed.refl w) rfl
  | make maker =>
    have hreg : w.entryRegistration? e =
        match maker.identify 0 with
        | .ok identifier => if identifier.isEmpty then none else some ⟨identifier, e.origin, maker, none, none⟩
        | .error _ => none := by
      simp [entryRegistration?, hrecipe]
    rw [hreg]
    dsimp only
    refine ((ends_addProvider _ w).and (fixed_addProvider _ w)).bind
      fun n w₁ ⟨⟨hn, hp, hsize, h₁⟩, hf₁⟩ => ?_
    refine (ends_registerProvider_answer i n e.origin ((h₁.loader? i).trans hl)).bind
      fun a w₂ ⟨h₂, hf₂, ha⟩ => ?_
    rw [hp] at ha
    have hlt : n < w₁.providers.size := by omega
    obtain ⟨hm₂, hb₂⟩ := h₂.provider n hlt
    rw [hp] at hm₂ hb₂
    cases hid : maker.identify 0 with
    | error message =>
      simp only [hid] at ha
      obtain ⟨ha, hl₂⟩ := ha
      cases a with
      | error err => exact hlogged _ _ w₂ (h₁.frame.trans h₂) (hf₁.trans hf₂) (hl₂.trans hl.symm)
      | ok _ => cases ha
    | ok identifier =>
      simp only [hid] at ha
      by_cases hempty : identifier.isEmpty
      · simp only [hempty, if_true] at ha ⊢
        obtain ⟨ha, hl₂⟩ := ha
        cases a with
        | error err => exact hlogged _ _ w₂ (h₁.frame.trans h₂) (hf₁.trans hf₂) (hl₂.trans hl.symm)
        | ok _ => cases ha
      · simp only [hempty, Bool.false_eq_true, if_false] at ha ⊢
        obtain ⟨rfl, hl₂⟩ := ha
        -- whether it was taken or not, an entry point brings no manifest
        refine Op.ends_pure ⟨h₁.frame.trans h₂, hf₁.trans hf₂, n, Nat.lt_of_lt_of_le hlt h₂.size, hm₂, hb₂, ?_⟩
        rw [hl₂, hl]
        simp [Loader.record]

/-! ## The walk and the entry points -/

theorem fixed_directoryEntries (dir : String) (visited : List String) (kind : String) (w : World) :
    (directoryEntries dir visited kind).Ends w fun _ w' => Fixed w w' := by
  unfold directoryEntries
  refine Op.ends_get_bind ?_
  split
  · exact (fixed_log _ _ _ _ w).bind fun _ _ h => Op.ends_pure h
  · dsimp only
    split
    · exact (fixed_log _ _ _ _ w).bind fun _ _ h => Op.ends_pure h
    · exact Op.ends_pure (Fixed.refl w)

/-- The rule of a walk over search paths: an invariant over the entries
walked so far, kept by every calm step and by the scan of each entry, holds
of all the entries `searchWalk` lists. -/
theorem ends_walk {kind searching : String} {component : Component} {scan : String → Op Unit}
    {I : List String → World → Prop} (paths : List String)
    (hcalm : ∀ done w₁ w₂, Calm w₁ w₂ → Fixed w₁ w₂ → I done w₁ → I done w₂)
    (hscan : ∀ done entry w₁, Extends w w₁ → Fixed w w₁ → I done w₁ →
      (scan entry).Ends w₁ fun _ w₂ => Extends w w₂ ∧ Fixed w w₂ ∧ I (done ++ [entry]) w₂)
    (h₀ : I [] w) :
    (forIn paths ([] : List String) fun dir visited => do
      log .debug component searching [Event.text "loader" kind, Event.shown "path" dir]
      let found ← directoryEntries dir visited kind
      forIn (found.1.getD []) PUnit.unit fun entry _ => do
        scan entry
        pure (ForInStep.yield PUnit.unit)
      pure (ForInStep.yield found.2)).Ends w fun _ w' =>
        Extends w w' ∧ Fixed w w' ∧ I (w.searchWalk [] paths) w' := by
  -- the state of the loop is the directories walked; the invariant holds what
  -- was walked so far together with what the remaining paths will add
  refine (Op.ends_forIn (fun rest visited w' => Extends w w' ∧ Fixed w w' ∧ ∃ done, I done w' ∧
      done ++ w.searchWalk visited rest = w.searchWalk [] paths)
    (fun dir rest visited w₁ ⟨h₁, hf₁, done, hdone, heq⟩ => ?_) ⟨Extends.refl w, Fixed.refl w, [], h₀, rfl⟩).mono
    fun _ w₁ ⟨h₁, hf₁, done, hdone, heq⟩ => ⟨h₁, hf₁, by
      have hall : done = w.searchWalk [] paths := by simpa [searchWalk] using heq
      exact hall ▸ hdone⟩
  refine ((ends_log _ _ _ _ w₁).and (fixed_log _ _ _ _ w₁)).bind fun _ w₂ ⟨h₂, hf₂⟩ => ?_
  refine ((ends_directoryEntries dir visited _ w₂).and (fixed_directoryEntries dir visited _ w₂)).bind
    fun r w₃ ⟨⟨hr, h₃⟩, hf₃⟩ => ?_
  -- the directory reads as the walk reads it
  rw [(h₁.trans h₂.frame).searchEntries] at hr
  subst hr
  have h₁₃ : Extends w w₃ := h₁.trans (h₂.frame.trans h₃.frame)
  have hf₁₃ : Fixed w w₃ := hf₁.trans (hf₂.trans hf₃)
  refine (Op.ends_forIn (fun rest' _ w' => Extends w w' ∧ Fixed w w' ∧ ∃ done', I done' w' ∧
      done' ++ rest' = done ++ ((w.searchEntries dir visited).1.getD []))
    (fun entry rest' _ w₄ ⟨h₄, hf₄, done', hdone', heq'⟩ => ?_)
    ⟨h₁₃, hf₁₃, done, hcalm _ _ _ (h₂.trans h₃) (hf₂.trans hf₃) hdone, by simp⟩).bind
    fun _ w₄ ⟨h₄, hf₄, done', hdone', heq'⟩ => Op.ends_pure ⟨_, rfl, h₄, hf₄, done', hdone', ?_⟩
  · exact (hscan done' entry w₄ h₄ hf₄ hdone').bind fun _ w₅ ⟨h₅, hf₅, hdone₅⟩ =>
      Op.ends_pure ⟨_, rfl, h₅, hf₅, done' ++ [entry], hdone₅, by simpa using heq'⟩
  · -- the directory's entries are the first of what remained
    rw [List.append_nil] at heq'
    rw [heq', ← heq, searchWalk, List.append_assoc]

/-- **The entry points.** Enabled, they are recorded in name order; disabled,
nothing is. -/
theorem Holds.scanEntryPoints {w₀ : World} (h₀ : Extends w₀ w) (hf₀ : Fixed w₀ w) (h : Holds i l₀ specs w)
    (group : String) :
    (scanEntryPoints i group).Ends w fun _ w' => Extends w₀ w' ∧ Fixed w₀ w' ∧
      Holds i l₀ (specs ++ if w₀.entryPointsEnabled l₀.discovery then
        (EntryPoint.ofGroup w₀.entryPoints group).filterMap w₀.entryRegistration? else []) w' := by
  obtain ⟨registry, manifests, hl⟩ := h.loader?
  unfold World.scanEntryPoints
  refine Op.ends_get_bind ?_
  simp only [hl, ← hf₀.entryPointsEnabled]
  split
  · -- disabled: one log line, nothing recorded
    rename_i hoff
    have hdisabled : w.entryPointsEnabled l₀.discovery = false := by simpa using hoff
    rw [if_neg (by simp [hdisabled])]
    exact ((ends_log _ _ _ _ w).and (fixed_log _ _ _ _ w)).bind fun _ w₁ ⟨h₁, hf₁⟩ =>
      Op.ends_pure ⟨h₀.trans h₁.frame, hf₀.trans hf₁, by simpa using h.extend h₁.frame (h₁.loader? i)⟩
  · rename_i hon
    have henabled : w.entryPointsEnabled l₀.discovery = true := by simpa using hon
    rw [if_pos henabled, ← hf₀.entryPoints, ← hf₀.entryRegistration?]
    refine ((ends_log _ _ _ _ w).and (fixed_log _ _ _ _ w)).bind fun _ w₁ ⟨h₁, hf₁⟩ => ?_
    -- one entry point at a time, each recorded after the ones before
    refine (Op.ends_forIn (fun rest _ w' => Extends w w' ∧ Fixed w w' ∧ ∃ done, Holds i l₀ done w' ∧
        done ++ rest.filterMap w.entryRegistration? =
          specs ++ (EntryPoint.ofGroup w.entryPoints group).filterMap w.entryRegistration?)
      (fun e rest _ w₂ ⟨h₂, hf₂, done, hdone, heq⟩ => ?_)
      ⟨h₁.frame, hf₁, specs, h.extend h₁.frame (h₁.loader? i), rfl⟩).bind
      fun _ w₂ ⟨h₂, hf₂, done, hdone, heq⟩ =>
        Op.ends_pure ⟨h₀.trans h₂, hf₀.trans hf₂, by
          rw [List.filterMap_nil, List.append_nil] at heq
          exact heq ▸ hdone⟩
    obtain ⟨registry₂, manifests₂, hl₂⟩ := hdone.loader?
    refine (ends_scanEntryPoint i e hl₂).bind fun _ w₃ ⟨h₃, hf₃, hrec⟩ =>
      Op.ends_pure ⟨_, rfl, h₂.trans h₃, hf₂.trans hf₃, _, hdone.step h₃ hrec, ?_⟩
    -- the entry point's registration is the first of what remained
    rw [hf₂.entryRegistration?, ← heq, List.append_assoc, List.filterMap_cons]
    cases w.entryRegistration? e <;> rfl

/-! ## A scan and a reset -/

/-- **A scan.** Walking the search paths of a package loader records the
packages of the walk, in order, and then, when they are enabled, its entry
points. -/
theorem Holds.scanPaths {l : Loader} {wanted : Bool} {group disableVar : String}
    (h : Holds i l₀ specs w) (hs : w.Sound) (ht : w.HasTable l₀.shelf)
    (hpkg : l₀.discovery = .package wanted group disableVar) (hd : l.discovery = l₀.discovery)
    (hshelf : l.shelf = l₀.shelf) (paths : List String) :
    (scanPaths i l paths).Ends w fun _ w' => Extends w w' ∧ Fixed w w' ∧
      Holds i l₀ (specs ++ w.packageScan l₀ paths) w' := by
  unfold World.scanPaths
  rw [hd, hpkg]
  dsimp only
  rw [hshelf]
  refine (ends_walk (I := fun done w' => Holds i l₀
      (specs ++ (done.filterMap w.packageManifest?).filterMap (w.packageRegistration? l₀.shelf)) w')
    paths ?_ ?_ (by simpa using h)).bind fun _ w₁ ⟨h₁, hf₁, hdone⟩ => ?_
  · -- calm steps keep the loader
    intro done w₁ w₂ h₁₂ _ hdone
    exact hdone.extend h₁₂.frame (h₁₂.loader? i)
  · intro done entry w₁ h₁ hf₁ hdone
    obtain ⟨registry, manifests, hl₁⟩ := hdone.loader?
    refine (ends_scanPackageEntry i l₀.shelf entry (h₁.sound hs) (h₁.hasTable ht) hl₁).mono
      fun _ w₂ ⟨h₂, hf₂, hrec⟩ => ⟨h₁.trans h₂, hf₁.trans hf₂, ?_⟩
    rw [h₁.packageManifest?, h₁.packageRegistration?] at hrec
    -- the entry's unit comes after those of the entries before it
    have hlast := hdone.step h₂ hrec
    rw [List.append_assoc] at hlast
    convert hlast using 2
    cases hm : w.packageManifest? entry with
    | none => simp [List.filterMap_append, hm]
    | some p => cases hr : w.packageRegistration? l₀.shelf p <;> simp [List.filterMap_append, hm, hr]
  · refine (hdone.scanEntryPoints h₁ hf₁ group).mono fun _ w₂ ⟨h₂, hf₂, hend⟩ => ⟨h₂, hf₂, ?_⟩
    simpa [packageScan, hpkg, List.append_assoc] using hend

/-- **A reset.** Clearing a source empties its loader's registry and
manifests. -/
theorem ends_clearSource {l : Loader} (i : Nat) (hl : w.loader? i = some l) :
    (clearSource i).Ends w fun _ w' => Extends w w' ∧ Fixed w w' ∧
      w'.loader? i = some { l with registry := .empty, manifests := [] } := by
  obtain ⟨paths, g, hc⟩ := child_of_loader? hl
  unfold clearSource setChild
  refine Op.ends_get_bind ?_
  rw [hc]
  dsimp only
  refine (Op.ends_modify (Q := fun _ w₁ => Extends w w₁ ∧ Fixed w w₁ ∧
      w₁.loader? i = some { l with registry := .empty, manifests := [] })
    ⟨⟨rfl, rfl, Nat.le_refl _, rfl, fun _ _ => ⟨rfl, rfl⟩, id⟩, ⟨rfl, rfl, rfl⟩, ?_⟩).bind
    fun _ w₁ ⟨h₁, hf₁, hl₁⟩ => ?_
  · rw [loader?_setChild]
    simp [lt_size_of_child_eq_lazy hc]
  · exact ((ends_collect w₁).and (fixed_collect w₁)).mono fun _ _ ⟨h₂, hf₂⟩ =>
      ⟨h₁.trans h₂.frame, hf₁.trans hf₂, (h₂.loader? i).trans hl₁⟩

end World

end AssetBroker
