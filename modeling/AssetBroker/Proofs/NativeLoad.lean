import AssetBroker.Proofs.WorldRuns

/-!
# Loading one native binary

What loading a native binary makes is a function of the world's files and
stand-in behaviours: the path's canonical form, what the opener gives for it,
the default declaration (under the standard symbol, else the legacy one),
its compatibility and its provider function. `nativeLoad?` and
`nativeRegistration?` say it without running anything, and the lemmas here
show each step of `scanNativeEntry` does just that: `openBinary` reuses a
loaded binary only where the tables are sound, `loadBinary` makes one new
provider of the maker whose code is the binary, and `registerProvider`
registers the identifier the provider gives when first asked, unless it is
empty or a panic.
-/

namespace AssetBroker

namespace Keyed

variable {α : Type}

theorem mem_of_find?_eq_some {key : String} {value : α} {m : List (String × α)}
    (h : find? key m = some value) : (key, value) ∈ m := by
  induction m with
  | nil => cases h
  | cons kv m ih =>
    obtain ⟨k, v⟩ := kv
    by_cases hk : k = key
    · subst hk
      simp only [find?, beq_self_eq_true, if_true, Option.some.injEq] at h
      subst h
      exact List.mem_cons_self
    · simp only [find?, beq_iff_eq, hk, if_false] at h
      exact List.mem_cons_of_mem _ (ih h)

theorem find?_append (key : String) (m m' : List (String × α)) :
    find? key (m ++ m') = (find? key m).or (find? key m') := by
  induction m with
  | nil => rfl
  | cons kv m ih =>
    obtain ⟨k, v⟩ := kv
    by_cases hk : k = key
    · simp [find?, hk]
    · simp [find?, hk, ih]

end Keyed

namespace World

variable {w w' : World}

/-- The declaration a binary offers when no symbol is asked for: the one
under the standard symbol, or else the one under the legacy symbol. -/
def defaultDeclaration? (b : Binary) : Option Declaration :=
  (b.declaration? entrySymbol).orElse fun _ => b.declaration? legacySymbol

/-- The maker a binary's provider function gives, when its default
declaration is compatible and the function does not panic. -/
def makerOf? (b : Binary) : Option Maker :=
  match defaultDeclaration? b with
  | some d =>
    if d.compatible then
      match d.recipe with
      | .make maker => some maker
      | .explode _ => none
    else none
  | none => none

/-- What loading the binary at a path makes when it succeeds: the maker, and
the canonical path the binary is known by. -/
def nativeLoad? (w : World) (shelf : Shelf) (path : String) : Option (Maker × String) := do
  let canonical ← (w.fs.canonicalize "/" path).toOption
  let b ← (w.opener shelf canonical).toOption
  let maker ← makerOf? b
  pure (maker, canonical)

/-- What a native candidate registers when it loads: the identifier its new
provider gives when first asked, which must not be empty, the maker and the
canonical path of the binary. -/
def nativeRegistration? (w : World) (shelf : Shelf) (path : String) :
    Option (String × Maker × String) := do
  let (maker, canonical) ← w.nativeLoad? shelf path
  match maker.identify 0 with
  | .ok identifier => if identifier.isEmpty then none else some (identifier, maker, canonical)
  | .error _ => none

theorem ends_declarationOf (b : Binary) (ref : BinaryRef) (w : World) :
    (declarationOf b ref none).Ends w fun r w' =>
      r.toOption = defaultDeclaration? b ∧ Calm w w' := by
  unfold declarationOf
  simp only
  cases he : b.declaration? entrySymbol with
  | some d => exact Op.ends_pure ⟨by simp [defaultDeclaration?, he, Except.toOption], Calm.refl w⟩
  | none =>
    cases hl : b.declaration? legacySymbol with
    | some d =>
      -- the legacy symbol is accepted with a warning
      exact (ends_log _ _ _ _ w).bind fun _ w₁ h₁ =>
        Op.ends_pure ⟨by simp [defaultDeclaration?, he, hl, Except.toOption], h₁⟩
    | none => exact Op.ends_pure ⟨by simp [defaultDeclaration?, he, hl, Except.toOption], Calm.refl w⟩

/-- The end of a fresh open: the binary joins its table under its canonical
path. -/
theorem ends_loadOpened (shelf : Shelf) (c : String) (b : Binary) (w₁ : World)
    (hopen : w₁.opener shelf c = .ok b) (hnone : (w₁.table shelf).binary? c = none)
    (ht : w₁.HasTable shelf) :
    (do
      let t ← get
      setTable shelf { loaded := (t.table shelf).loaded ++ [(c, b)] }
      log .debug .library "opened native plugin binary" [Event.shown "path" c]
      pure (Except.ok ⟨shelf, c⟩) : Op (Except PluginError BinaryRef)).Ends w₁ fun r w' =>
        r = .ok ⟨shelf, c⟩ ∧ Calm w₁ w' ∧ (w'.table shelf).binary? c = some b := by
  refine Op.ends_get_bind ?_
  refine (ends_setTable shelf _ w₁).bind fun _ w₂ ⟨hfs, hsi, hp, hc, hlen, hset, hrest⟩ => ?_
  -- the new pair is the opener's, everything else was there before
  have h₂ : Calm w₁ w₂ := calm_of_tables hfs (by rw [hsi]) hp hc hlen fun s p b' hmem => by
    rcases hrest s with heq | ⟨rfl, heq⟩
    · exact .inl (heq ▸ hmem)
    · rw [heq, List.mem_append, List.mem_singleton, Prod.mk.injEq] at hmem
      rcases hmem with hold | ⟨rfl, rfl⟩
      · exact .inl hold
      · exact .inr hopen
  have hfound : (w₂.table shelf).binary? c = some b := by
    rw [hset ht, Table.binary?, Keyed.find?_append]
    rw [Table.binary?] at hnone
    simp [hnone, Keyed.find?]
  refine (ends_log_eq _ _ _ _ w₂).bind fun _ w₃ h₃ => ?_
  subst h₃
  exact Op.ends_pure ⟨rfl, h₂.trans (calm_withTrail w₂ _), hfound⟩

/-- What opening the binary at a path leaves: a reference to the canonical
path, where the table holds the binary the opener gives; or, when it fails, a
path with no canonical form or one the opener fails on. -/
def OpensAs (shelf : Shelf) (path : String) (w w' : World) : Except PluginError BinaryRef → Prop
  | .ok ref => ref.shelf = shelf ∧ (w.fs.canonicalize "/" path).toOption = some ref.path ∧
      ∃ b, w.opener shelf ref.path = .ok b ∧ (w'.table shelf).binary? ref.path = some b
  | .error _ => ∀ c, (w.fs.canonicalize "/" path).toOption = some c → (w.opener shelf c).toOption = none

/-- Opening a binary gives a reference to its canonical path, with the binary
the opener gives for it loaded; it fails exactly when the path has no
canonical form or the opener fails on it. -/
theorem ends_openBinary (shelf : Shelf) (path : String) (hs : w.Sound) (ht : w.HasTable shelf) :
    (openBinary shelf path).Ends w fun r w' => Calm w w' ∧ OpensAs shelf path w w' r := by
  unfold openBinary
  refine Op.ends_get_bind ?_
  cases hcanon : w.fs.canonicalize "/" path with
  | error e =>
    refine Op.ends_pure ⟨Calm.refl w, fun c hc => ?_⟩
    simp [hcanon, Except.toOption] at hc
  | ok c =>
    have hc : (w.fs.canonicalize "/" path).toOption = some c := by simp [hcanon, Except.toOption]
    dsimp only
    split
    · -- loaded already: the loaded binary is the opener's
      rename_i hloaded
      obtain ⟨b, hb⟩ := Option.isSome_iff_exists.1 hloaded
      refine (ends_log_eq _ _ _ _ w).bind fun _ w₁ h₁ => ?_
      subst h₁
      exact Op.ends_pure ⟨calm_withTrail w _, rfl, hc, b,
        hs shelf c b (Keyed.mem_of_find?_eq_some hb), hb⟩
    · rename_i hnotLoaded
      cases hopen : w.opener shelf c with
      | error e =>
        refine Op.ends_pure ⟨Calm.refl w, fun c' hc' => ?_⟩
        rw [hc, Option.some.injEq] at hc'
        subst hc'
        simp [hopen, Except.toOption]
      | ok b =>
        have hnone : (w.table shelf).binary? c = none := Option.not_isSome_iff_eq_none.1 hnotLoaded
        -- what the tail ends in is what opening promises
        have hpost : ∀ w₁ (r : Except PluginError BinaryRef) w', Calm w w₁ →
            (r = .ok ⟨shelf, c⟩ ∧ Calm w₁ w' ∧ (w'.table shelf).binary? c = some b) →
            Calm w w' ∧ OpensAs shelf path w w' r := by
          rintro w₁ r w' h₁ ⟨rfl, h', hfound⟩
          exact ⟨h₁.trans h', rfl, hc, b, hopen, hfound⟩
        cases shelf with
        | scratch i =>
          -- the stand-in counts the open first
          refine (Op.ends_modify (Q := fun _ w₁ => Calm w w₁ ∧ w₁.table (.scratch i) = w.table (.scratch i))
            ⟨calm_withCounts w _ (by rfl), rfl⟩).bind fun _ w₁ ⟨h₁, htab⟩ => ?_
          refine (ends_loadOpened _ c b w₁ (by rw [h₁.frame.opener]; exact hopen) (htab ▸ hnone)
            (h₁.frame.hasTable ht)).mono fun r w' h => hpost w₁ r w' h₁ h
        | system =>
          exact (ends_loadOpened _ c b w hopen hnone ht).mono fun r w' h => hpost w r w' (Calm.refl w) h

/-- What loading the binary at a path leaves: a new provider of the maker
`nativeLoad?` finds, whose code is the binary; or, when it fails, nothing for
`nativeLoad?` to find. -/
def LoadsAs (shelf : Shelf) (path : String) (w w' : World) : Except PluginError Nat → Prop
  | .ok n => ∃ m c, w.nativeLoad? shelf path = some (m, c) ∧ w.providers.size ≤ n ∧
      n < w'.providers.size ∧ w'.provider n = { maker := m, binary := some ⟨shelf, c⟩ }
  | .error _ => w.nativeLoad? shelf path = none

/-- Loading a binary makes a new provider of the maker its provider function
gives, whose code is the binary; it fails exactly when `nativeLoad?` finds
nothing. -/
theorem ends_loadBinary (shelf : Shelf) (path : String) (hs : w.Sound) (ht : w.HasTable shelf) :
    (loadBinary shelf path none).Ends w fun r w' => Calm w w' ∧ LoadsAs shelf path w w' r := by
  unfold loadBinary
  refine (ends_openBinary shelf path hs ht).bind fun r w₁ ⟨h₁, hr⟩ => ?_
  cases r with
  | error e =>
    refine Op.ends_pure ⟨h₁, ?_⟩
    -- opening failed, so there is no canonical path or the opener failed on it
    show w.nativeLoad? shelf path = none
    unfold nativeLoad?
    cases hc : (w.fs.canonicalize "/" path).toOption with
    | none => rfl
    | some c => simp [hr c hc]
  | ok ref =>
    obtain ⟨hshelf, hcanon, b, hopen, hfound⟩ := hr
    have hload : w.nativeLoad? shelf path = (makerOf? b).map (·, ref.path) := by
      unfold nativeLoad?
      rw [hcanon]
      cases hm : makerOf? b <;> simp [hopen, Except.toOption, hm]
    dsimp only
    refine Op.ends_get_bind ?_
    rw [hfound, Option.getD_some]
    refine (ends_declarationOf b ref w₁).bind fun r w₂ ⟨hd, h₂⟩ => ?_
    -- every failure lets go of the binary, and leaves nothing made
    have hfail : ∀ e, makerOf? b = none →
        (do collect; pure (Except.error e) : Op (Except PluginError Nat)).Ends w₂ fun r w' =>
          Calm w w' ∧ LoadsAs shelf path w w' r := fun e hnone =>
      (ends_collect w₂).bind fun _ w₃ h₃ =>
        Op.ends_pure ⟨h₁.trans (h₂.trans h₃), by simp [LoadsAs, hload, hnone]⟩
    cases r with
    | error e =>
      refine hfail e ?_
      simp [makerOf?, ← hd, Except.toOption]
    | ok d =>
      have hdecl : defaultDeclaration? b = some d := by rw [← hd]; rfl
      dsimp only
      split
      · rename_i hincompatible
        refine hfail _ ?_
        simp_all [makerOf?]
      · cases hrecipe : d.recipe with
        | explode message =>
          refine hfail _ ?_
          simp_all [makerOf?]
        | make maker =>
          have hmaker : makerOf? b = some maker := by simp_all [makerOf?]
          refine (ends_addProvider _ w₂).bind fun n w₃ ⟨hn, hp, hsize, h₃⟩ =>
            Op.ends_pure ⟨h₁.trans (h₂.trans h₃), maker, ref.path, by simp [hload, hmaker], ?_, by omega, ?_⟩
          · exact hn ▸ (h₁.frame.trans h₂.frame).size
          · obtain ⟨refShelf, refPath⟩ := ref
            subst hshelf
            exact hp

/-- Registering a provider asks its identifier once; a non-empty answer is
registered with the source's loader, first registration winning. -/
theorem ends_registerProvider (i n : Nat) (origin : Origin) (w : World) :
    (registerProvider i n origin).Ends w fun _ w' => Extends w w' ∧
      w'.loader? i =
        match (w.provider n).maker.identify (w.provider n).asked with
        | .ok identifier =>
          if identifier.isEmpty then w.loader? i
          else (w.loader? i).map fun l => { l with registry := (l.registry.register identifier n origin).1 }
        | .error _ => w.loader? i := by
  unfold registerProvider
  refine (ends_identify n w).bind fun a w₁ ⟨ha, h₁⟩ => ?_
  subst ha
  cases hask : (w.provider n).maker.identify (w.provider n).asked with
  | error message =>
    exact (ends_collect w₁).bind fun _ w₂ h₂ =>
      Op.ends_pure ⟨h₁.frame.trans h₂.frame, by rw [h₂.loader?, h₁.loader?]⟩
  | ok identifier =>
    dsimp only
    split
    · exact (ends_collect w₁).bind fun _ w₂ h₂ =>
        Op.ends_pure ⟨h₁.frame.trans h₂.frame, by simp [h₂.loader?, h₁.loader?]⟩
    · refine Op.ends_get_bind ?_
      cases hl : w₁.loader? i with
      | none => exact Op.ends_pure ⟨h₁.frame, by simp [← h₁.loader?, hl]⟩
      | some l =>
        dsimp only
        refine (ends_updateLoader i _ w₁).bind fun _ w₂ ⟨h₂, hl₂⟩ => ?_
        refine (ends_logAll _ w₂).bind fun _ w₃ h₃ => ?_
        refine (ends_collect w₃).bind fun _ w₄ h₄ => Op.ends_pure ⟨?_, ?_⟩
        · exact h₁.frame.trans (h₂.trans (h₃.frame.trans h₄.frame))
        · rw [h₄.loader?, h₃.loader?, hl₂, hl, ← h₁.loader?, hl]
          simp

/-- How a scan step left the loader of source `i`, given what the entry
registers: unchanged when nothing, and otherwise with the identifier
registered under a provider at least as new as the step, of the maker and
from the binary at the canonical path. -/
def RegistersAs (i : Nat) (shelf : Shelf) (w w' : World) : Option (String × Maker × String) → Prop
  | none => w'.loader? i = w.loader? i
  | some (identifier, maker, canonical) => ∃ n, w.providers.size ≤ n ∧ n < w'.providers.size ∧
      (w'.provider n).maker = maker ∧ (w'.provider n).binary = some ⟨shelf, canonical⟩ ∧
      w'.loader? i = (w.loader? i).map fun l =>
        { l with registry := (l.registry.register identifier n (.binary canonical)).1 }

/-- Steps that keep the loader keep the registration made before them. -/
theorem RegistersAs.extend {i : Nat} {shelf : Shelf} {w₁ w₂ : World} {x : Option (String × Maker × String)}
    (h : RegistersAs i shelf w w₁ x) (hext : Extends w₁ w₂) (hl : w₂.loader? i = w₁.loader? i) :
    RegistersAs i shelf w w₂ x := by
  cases x with
  | none => exact hl.trans h
  | some x =>
    obtain ⟨identifier, maker, canonical⟩ := x
    obtain ⟨n, hle, hlt, hm, hb, hreg⟩ := h
    obtain ⟨hm', hb'⟩ := hext.provider n hlt
    exact ⟨n, hle, Nat.lt_of_lt_of_le hlt hext.size, hm'.trans hm, hb'.trans hb, hl.trans hreg⟩

/-- A provider made just now is asked for the first time, so registering it
does what `nativeRegistration?` says. -/
theorem registersAs_fresh {w₁ w₂ : World} {i n : Nat} {shelf : Shelf} {path c : String} {m : Maker}
    (hload : w.nativeLoad? shelf path = some (m, c)) (hle : w.providers.size ≤ n)
    (hlt : n < w₁.providers.size) (hprov : w₁.provider n = { maker := m, binary := some ⟨shelf, c⟩ })
    (h₁ : Calm w w₁) (h₂ : Extends w₁ w₂)
    (hl₂ : w₂.loader? i =
      match m.identify 0 with
      | .ok identifier =>
        if identifier.isEmpty then w₁.loader? i
        else (w₁.loader? i).map fun l => { l with registry := (l.registry.register identifier n (.binary c)).1 }
      | .error _ => w₁.loader? i) :
    RegistersAs i shelf w w₂ (w.nativeRegistration? shelf path) := by
  have hreg : w.nativeRegistration? shelf path =
      match m.identify 0 with
      | .ok identifier => if identifier.isEmpty then none else some (identifier, m, c)
      | .error _ => none := by
    simp [nativeRegistration?, hload]
  rw [hreg]
  cases hid : m.identify 0 with
  | error message =>
    simp only [hid] at hl₂
    exact hl₂.trans (h₁.loader? i)
  | ok identifier =>
    simp only [hid] at hl₂
    by_cases hempty : identifier.isEmpty
    · simp only [hempty, if_true] at hl₂ ⊢
      exact hl₂.trans (h₁.loader? i)
    · -- the provider keeps its maker and binary
      have hne : identifier.isEmpty = false := by simpa using hempty
      simp only [hne, Bool.false_eq_true, if_false] at hl₂ ⊢
      obtain ⟨hm, hb⟩ := h₂.provider n hlt
      exact ⟨n, hle, Nat.lt_of_lt_of_le hlt h₂.size, by rw [hm, hprov], by rw [hb, hprov],
        by rw [hl₂, h₁.loader?]⟩

/-- Scanning one entry of a search directory: a native candidate that loads
and names itself is registered, under a provider of its maker whose code is
its binary; any other entry changes no registry. -/
theorem ends_scanNativeEntry (i : Nat) (shelf : Shelf) (path : String) (hs : w.Sound)
    (ht : w.HasTable shelf) :
    (scanNativeEntry i shelf path).Ends w fun _ w' => Extends w w' ∧
      RegistersAs i shelf w w' (if w.isNativeCandidate path then w.nativeRegistration? shelf path else none) := by
  unfold scanNativeEntry
  refine Op.ends_get_bind ?_
  by_cases hcand : w.isNativeCandidate path
  · rw [if_neg (by simp [hcand]), if_pos hcand]
    refine (ends_loadBinary shelf path hs ht).bind fun r w₁ ⟨h₁, hr⟩ => ?_
    cases r with
    | error e =>
      -- nothing loads, so nothing registers
      have hnone : w.nativeRegistration? shelf path = none := by
        simp [nativeRegistration?, show w.nativeLoad? shelf path = none from hr]
      rw [hnone]
      exact (ends_log _ _ _ _ w₁).mono fun _ w₂ h₂ =>
        ⟨h₁.frame.trans h₂.frame, (h₂.loader? i).trans (h₁.loader? i)⟩
    | ok n =>
      obtain ⟨m, c, hload, hle, hlt, hprov⟩ := hr
      refine Op.ends_get_bind ?_
      have horigin : w₁.binaryOrigin n = .binary c := by simp [binaryOrigin, hprov]
      rw [horigin]
      refine (ends_registerProvider i n (.binary c) w₁).bind fun r w₂ ⟨h₂, hl₂⟩ => ?_
      rw [hprov] at hl₂
      have hreg := registersAs_fresh hload hle hlt hprov h₁ h₂ hl₂
      -- whatever registering answers, only a log may follow
      cases r with
      | error e =>
        exact (ends_log _ _ _ _ w₂).mono fun _ w₃ h₃ =>
          ⟨h₁.frame.trans (h₂.trans h₃.frame), hreg.extend h₃.frame (h₃.loader? i)⟩
      | ok _ => exact Op.ends_pure ⟨h₁.frame.trans h₂, hreg⟩
  · rw [if_pos (by simpa using hcand), if_neg hcand]
    exact (ends_log _ _ _ _ w).bind fun _ w₁ h₁ => Op.ends_pure ⟨h₁.frame, h₁.loader? i⟩

/-! ## The spec reads what a scan keeps -/

theorem Extends.isNativeCandidate (h : Extends w w') : w'.isNativeCandidate = w.isNativeCandidate := by
  funext path
  simp [World.isNativeCandidate, h.fs]

theorem Extends.nativeLoad? (h : Extends w w') : w'.nativeLoad? = w.nativeLoad? := by
  funext shelf path
  simp only [World.nativeLoad?, h.fs, h.opener]

theorem Extends.nativeRegistration? (h : Extends w w') :
    w'.nativeRegistration? = w.nativeRegistration? := by
  funext shelf path
  simp only [World.nativeRegistration?, h.nativeLoad?]

end World

end AssetBroker
