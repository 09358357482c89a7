import AssetBroker.Proofs.NativeLoad
import AssetBroker.Proofs.LibraryHandles

/-!
# Loading one package

A package is a manifest that names a library, the symbol of its declaration
and the identifier its provider must give. `packageLoad?` says what loading
one makes, without running anything: the manifest as read, parsed and checked
against the running core; the maker the library's declaration gives under
the manifest's symbol, or under the default symbols; and the canonical path
of the library, provided the new provider, asked its identifier for the
first time, names itself as the manifest does. `ends_loadPackage` shows that
`loadPackage` does just that and leaves the new provider asked once.

Registering asks the provider again (`ends_registerProvider_answer`): a
package's provider is registered under its second answer.

Plugin discovery never changes the variables it reads nor the entry points
the program offers; `World.Fixed` collects them, and every step here keeps
them.
-/

namespace AssetBroker

namespace World

variable {w w' w₁ w₂ w₃ : World}

/-! ## What discovery never changes -/

/-- The variables and the entry points the program offers, with the
provider function of each slot, are as they were. -/
structure Fixed (w w' : World) : Prop where
  env : w'.env = w.env
  entryPoints : w'.entryPoints = w.entryPoints
  entrySlots : w'.entrySlots = w.entrySlots

theorem Fixed.refl (w : World) : Fixed w w := ⟨rfl, rfl, rfl⟩

theorem Fixed.trans (h₁ : Fixed w₁ w₂) (h₂ : Fixed w₂ w₃) : Fixed w₁ w₃ :=
  ⟨h₂.env.trans h₁.env, h₂.entryPoints.trans h₁.entryPoints, h₂.entrySlots.trans h₁.entrySlots⟩

theorem OnlyTables.fixed (h : OnlyTables w w') : Fixed w w' := by
  obtain ⟨_, _, _, _, _, rfl⟩ := h
  exact ⟨rfl, rfl, rfl⟩

theorem fixed_log (level : Level) (component : Component) (message : String)
    (fields : List (String × FieldValue)) (w : World) :
    (log level component message fields).Ends w fun _ w' => Fixed w w' :=
  Op.ends_modify ⟨rfl, rfl, rfl⟩

theorem fixed_logAll (events : List Event) (w : World) : (logAll events).Ends w fun _ w' => Fixed w w' :=
  Op.ends_modify ⟨rfl, rfl, rfl⟩

theorem fixed_identify (n : Nat) (w : World) : (identify n).Ends w fun _ w' => Fixed w w' :=
  ⟨_, _, rfl, rfl, rfl, rfl⟩

theorem fixed_addProvider (p : Provider) (w : World) : (addProvider p).Ends w fun _ w' => Fixed w w' :=
  ⟨_, _, rfl, rfl, rfl, rfl⟩

theorem fixed_updateLoader (i : Nat) (f : Loader → Loader) (w : World) :
    (updateLoader i f).Ends w fun _ w' => Fixed w w' := by
  unfold updateLoader
  refine Op.ends_get_bind ?_
  cases w.child i with
  | lazy l paths scanned => exact Op.ends_modify ⟨rfl, rfl, rfl⟩
  | fixed ps => exact Op.ends_pure (Fixed.refl w)

theorem fixed_collect (w : World) : collect.Ends w fun _ w' => Fixed w w' :=
  (ends_collect_collected w).mono fun _ _ h => h.only.fixed

theorem fixed_openBinary (shelf : Shelf) (path : String) (ht : w.HasTable shelf) :
    (openBinary shelf path).Ends w fun _ w' => Fixed w w' := by
  cases hc : w.fs.canonicalize "/" path with
  | error e => exact ⟨_, w, run_openBinary_of_canonicalize_error hc, Fixed.refl w⟩
  | ok c =>
    cases hl : w.isLoaded ⟨shelf, c⟩ with
    | true =>
      exact (ends_openBinary_of_loaded hc hl).mono fun _ _ ⟨_, t, h⟩ => h ▸ ⟨rfl, rfl, rfl⟩
    | false =>
      cases hb : w.opener shelf c with
      | error e => exact ⟨_, w, run_openBinary_of_opener_error hc hl hb, Fixed.refl w⟩
      | ok b => exact (ends_openBinary_of_opened hc hl hb ht).mono fun _ _ h => h.2.1.fixed

/-! ## Loading a binary under a symbol -/

/-- The declaration a binary offers under a symbol, or, when none is given,
the default one. -/
def declarationFor? (b : Binary) : Option String → Option Declaration
  | some s => b.declaration? s
  | none => defaultDeclaration? b

/-- The maker a binary's provider function gives under a symbol, when that
declaration is compatible and the function does not panic. -/
def makerFor? (b : Binary) (symbol : Option String) : Option Maker :=
  match declarationFor? b symbol with
  | some d =>
    if d.compatible then
      match d.recipe with
      | .make maker => some maker
      | .explode _ => none
    else none
  | none => none

/-- What loading the binary at a path under a symbol makes when it
succeeds: the maker, and the canonical path the binary is known by. -/
def binaryLoad? (w : World) (shelf : Shelf) (path : String) (symbol : Option String) :
    Option (Maker × String) := do
  let canonical ← (w.fs.canonicalize "/" path).toOption
  let b ← (w.opener shelf canonical).toOption
  let maker ← makerFor? b symbol
  pure (maker, canonical)

/-- A native binary is loaded with no symbol. -/
theorem nativeLoad?_eq_binaryLoad? (w : World) (shelf : Shelf) (path : String) :
    w.nativeLoad? shelf path = w.binaryLoad? shelf path none := rfl

theorem ends_declarationFor (b : Binary) (ref : BinaryRef) (symbol : Option String) (w : World) :
    (declarationOf b ref symbol).Ends w fun r w' =>
      r.toOption = declarationFor? b symbol ∧ Calm w w' ∧ Fixed w w' := by
  unfold declarationOf
  cases symbol with
  | some s =>
    cases hs : b.declaration? s with
    | some d => exact Op.ends_pure ⟨by simp [declarationFor?, hs, Except.toOption], Calm.refl w, Fixed.refl w⟩
    | none => exact Op.ends_pure ⟨by simp [declarationFor?, hs, Except.toOption], Calm.refl w, Fixed.refl w⟩
  | none =>
    simp only
    cases he : b.declaration? entrySymbol with
    | some d =>
      exact Op.ends_pure ⟨by simp [declarationFor?, defaultDeclaration?, he, Except.toOption], Calm.refl w,
        Fixed.refl w⟩
    | none =>
      cases hl : b.declaration? legacySymbol with
      | some d =>
        -- the legacy symbol is accepted with a warning
        exact ((ends_log _ _ _ _ w).and (fixed_log _ _ _ _ w)).bind fun _ w₁ h₁ =>
          Op.ends_pure ⟨by simp [declarationFor?, defaultDeclaration?, he, hl, Except.toOption], h₁.1, h₁.2⟩
      | none =>
        exact Op.ends_pure ⟨by simp [declarationFor?, defaultDeclaration?, he, hl, Except.toOption],
          Calm.refl w, Fixed.refl w⟩

/-- What loading a binary under a symbol leaves: a new provider of the maker
`binaryLoad?` finds, whose code is the binary; or, when it fails, nothing
for `binaryLoad?` to find. -/
def LoadsFrom (shelf : Shelf) (path : String) (symbol : Option String) (w w' : World) :
    Except PluginError Nat → Prop
  | .ok n => ∃ m c, w.binaryLoad? shelf path symbol = some (m, c) ∧ w.providers.size ≤ n ∧
      n < w'.providers.size ∧ w'.provider n = { maker := m, binary := some ⟨shelf, c⟩ }
  | .error _ => w.binaryLoad? shelf path symbol = none

/-- Loading a binary under a symbol makes a new provider of the maker its
declaration gives, whose code is the binary; it fails exactly when
`binaryLoad?` finds nothing. -/
theorem ends_loadBinaryFrom (shelf : Shelf) (path : String) (symbol : Option String) (hs : w.Sound)
    (ht : w.HasTable shelf) :
    (loadBinary shelf path symbol).Ends w fun r w' =>
      Calm w w' ∧ Fixed w w' ∧ LoadsFrom shelf path symbol w w' r := by
  unfold loadBinary
  refine ((ends_openBinary shelf path hs ht).and (fixed_openBinary shelf path ht)).bind
    fun r w₁ hopened => ?_
  obtain ⟨⟨h₁, hr⟩, hf₁⟩ := hopened
  cases r with
  | error e =>
    refine Op.ends_pure ⟨h₁, hf₁, ?_⟩
    -- opening failed, so there is no canonical path or the opener failed on it
    show w.binaryLoad? shelf path symbol = none
    unfold binaryLoad?
    cases hc : (w.fs.canonicalize "/" path).toOption with
    | none => rfl
    | some c => simp [hr c hc]
  | ok ref =>
    obtain ⟨hshelf, hcanon, b, hopen, hfound⟩ := hr
    have hload : w.binaryLoad? shelf path symbol = (makerFor? b symbol).map (·, ref.path) := by
      unfold binaryLoad?
      rw [hcanon]
      cases hm : makerFor? b symbol <;> simp [hopen, Except.toOption, hm]
    dsimp only
    refine Op.ends_get_bind ?_
    rw [hfound, Option.getD_some]
    refine (ends_declarationFor b ref symbol w₁).bind fun r w₂ hdeclared => ?_
    obtain ⟨hd, h₂, hf₂⟩ := hdeclared
    -- every failure lets go of the binary, and leaves nothing made
    have hfail : ∀ e, makerFor? b symbol = none →
        (do collect; pure (Except.error e) : Op (Except PluginError Nat)).Ends w₂ fun r w' =>
          Calm w w' ∧ Fixed w w' ∧ LoadsFrom shelf path symbol w w' r := fun e hnone =>
      ((ends_collect w₂).and (fixed_collect w₂)).bind fun _ w₃ h₃ =>
        Op.ends_pure ⟨h₁.trans (h₂.trans h₃.1), hf₁.trans (hf₂.trans h₃.2), by simp [LoadsFrom, hload, hnone]⟩
    cases r with
    | error e =>
      refine hfail e ?_
      simp [makerFor?, ← hd, Except.toOption]
    | ok d =>
      have hdecl : declarationFor? b symbol = some d := by rw [← hd]; rfl
      dsimp only
      split
      · refine hfail _ ?_
        simp_all [makerFor?]
      · cases hrecipe : d.recipe with
        | explode message =>
          refine hfail _ ?_
          simp_all [makerFor?]
        | make maker =>
          have hmaker : makerFor? b symbol = some maker := by simp_all [makerFor?]
          refine ((ends_addProvider _ w₂).and (fixed_addProvider _ w₂)).bind fun n w₃ hadded => ?_
          obtain ⟨⟨hn, hp, hsize, h₃⟩, hf₃⟩ := hadded
          refine Op.ends_pure ⟨h₁.trans (h₂.trans h₃), hf₁.trans (hf₂.trans hf₃), maker, ref.path,
            by simp [hload, hmaker], ?_, by omega, ?_⟩
          · exact hn ▸ (h₁.frame.trans h₂.frame).size
          · obtain ⟨refShelf, refPath⟩ := ref
            subst hshelf
            exact hp

/-! ## Loading a package -/

/-- What loading the package of a manifest makes when it succeeds: the
manifest, read, parsed and supported by the running core; the maker of its
library under its symbol; and the canonical path of the library. The
provider, asked for the first time, must name itself as the manifest does. -/
def packageLoad? (w : World) (shelf : Shelf) (manifestPath : String) :
    Option (Manifest × Maker × String) := do
  let m ← (w.readManifest manifestPath).toOption
  let (maker, canonical) ← w.binaryLoad? shelf m.library m.symbol
  match maker.identify 0 with
  | .ok actual => if actual = m.identifier then some (m, maker, canonical) else none
  | .error _ => none

/-- What loading a package leaves: a new provider of the maker
`packageLoad?` finds, whose code is the library and which was asked its
identifier once; or, when it fails, nothing for `packageLoad?` to find. -/
def LoadsPackage (shelf : Shelf) (manifestPath : String) (w w' : World) :
    Except PluginError (Manifest × Nat) → Prop
  | .ok (m, n) => ∃ maker c, w.packageLoad? shelf manifestPath = some (m, maker, c) ∧
      w.providers.size ≤ n ∧ n < w'.providers.size ∧
      w'.provider n = { maker, binary := some ⟨shelf, c⟩, asked := 1 }
  | .error _ => w.packageLoad? shelf manifestPath = none

/-- Asking a provider its identifier counts the question. -/
theorem ends_identify_asked (n : Nat) (w : World) (hn : n < w.providers.size) :
    (identify n).Ends w fun a w' => a = (w.provider n).maker.identify (w.provider n).asked ∧
      Calm w w' ∧ Fixed w w' ∧ w'.providers.size = w.providers.size ∧
      w'.provider n = { w.provider n with asked := (w.provider n).asked + 1 } := by
  obtain ⟨a, w', hrun, ha, h'⟩ := ends_identify n w
  refine ⟨a, w', hrun, ha, h', ?_⟩
  have hw' : w' = { w with providers := w.providers.set! n (w.provider n).identify.2 } :=
    (Prod.mk.inj hrun.symm).2
  subst hw'
  exact ⟨⟨rfl, rfl, rfl⟩, by simp, by simp [provider, Array.getD, hn, Provider.identify]⟩

/-- Loading a package makes a new provider of the maker its library
declares, asked its identifier once; it fails exactly when `packageLoad?`
finds nothing. -/
theorem ends_loadPackage (shelf : Shelf) (manifestPath : String) (hs : w.Sound) (ht : w.HasTable shelf) :
    (loadPackage shelf manifestPath).Ends w fun r w' =>
      Calm w w' ∧ Fixed w w' ∧ LoadsPackage shelf manifestPath w w' r := by
  unfold loadPackage
  refine Op.ends_get_bind ?_
  cases hm : w.readManifest manifestPath with
  | error e =>
    exact Op.ends_pure ⟨Calm.refl w, Fixed.refl w, by simp [LoadsPackage, packageLoad?, hm, Except.toOption]⟩
  | ok m =>
    dsimp only
    refine (ends_loadBinaryFrom shelf m.library m.symbol hs ht).bind fun r w₁ hloaded => ?_
    obtain ⟨h₁, hf₁, hr⟩ := hloaded
    cases r with
    | error e =>
      have hnone : w.binaryLoad? shelf m.library m.symbol = none := hr
      exact Op.ends_pure ⟨h₁, hf₁, by simp [LoadsPackage, packageLoad?, hm, Except.toOption, hnone]⟩
    | ok n =>
      obtain ⟨maker, c, hload, hle, hlt, hprov⟩ := hr
      have hspec : w.packageLoad? shelf manifestPath =
          match maker.identify 0 with
          | .ok actual => if actual = m.identifier then some (m, maker, c) else none
          | .error _ => none := by
        simp [packageLoad?, hm, Except.toOption, hload]
      dsimp only
      refine Op.ends_get_bind ?_
      refine (ends_identify_asked n w₁ hlt).bind fun a w₂ hident => ?_
      obtain ⟨ha, h₂, hf₂, hsize, hasked⟩ := hident
      rw [hprov] at ha hasked
      subst ha
      -- a provider that panics or names itself otherwise is let go with its binary
      have hfail : ∀ e, w.packageLoad? shelf manifestPath = none →
          (do collect; pure (Except.error e) : Op (Except PluginError (Manifest × Nat))).Ends w₂
            fun r w' => Calm w w' ∧ Fixed w w' ∧ LoadsPackage shelf manifestPath w w' r := fun e hnone =>
        ((ends_collect w₂).and (fixed_collect w₂)).bind fun _ w₃ h₃ =>
          Op.ends_pure ⟨h₁.trans (h₂.trans h₃.1), hf₁.trans (hf₂.trans h₃.2), hnone⟩
      cases hid : maker.identify 0 with
      | error message => exact hfail _ (by rw [hspec, hid])
      | ok actual =>
        dsimp only
        split
        · rename_i hne
          exact hfail _ (by simp_all)
        · rename_i heq
          have hsame : actual = m.identifier := by simpa using heq
          exact Op.ends_pure ⟨h₁.trans h₂, hf₁.trans hf₂, maker, c, by simp [hspec, hid, hsame], hle,
            by omega, hasked⟩

/-! ## Registering a provider -/

/-- Registering a provider asks its identifier once more. A panic or the
empty text is an error and registers nothing; any other identifier is
registered with the loader, first registration winning, and comes back
unless it was taken. -/
theorem ends_registerProvider_answer {l : Loader} (i n : Nat) (origin : Origin) (hl : w.loader? i = some l) :
    (registerProvider i n origin).Ends w fun a w' => Extends w w' ∧ Fixed w w' ∧
      match (w.provider n).maker.identify (w.provider n).asked with
      | .ok identifier =>
        if identifier.isEmpty then a.toOption = none ∧ w'.loader? i = some l
        else a = .ok (if (l.registry.register identifier n origin).2.1.isSome then none else some identifier) ∧
          w'.loader? i = some { l with registry := (l.registry.register identifier n origin).1 }
      | .error _ => a.toOption = none ∧ w'.loader? i = some l := by
  unfold registerProvider
  refine ((ends_identify n w).and (fixed_identify n w)).bind fun a w₁ ⟨⟨ha, h₁⟩, hf₁⟩ => ?_
  subst ha
  -- a failed registration only lets go of what nothing holds
  have hfail : ∀ e, (do collect; pure (Except.error e) : Op (Except PluginError (Option String))).Ends w₁
      fun a w' => Extends w w' ∧ Fixed w w' ∧ a.toOption = none ∧ w'.loader? i = some l := fun e =>
    ((ends_collect w₁).and (fixed_collect w₁)).bind fun _ w₂ ⟨h₂, hf₂⟩ =>
      Op.ends_pure ⟨h₁.frame.trans h₂.frame, hf₁.trans hf₂, rfl, by rw [h₂.loader?, h₁.loader?, hl]⟩
  cases hask : (w.provider n).maker.identify (w.provider n).asked with
  | error message => exact hfail _
  | ok identifier =>
    dsimp only
    split
    · exact hfail _
    · refine Op.ends_get_bind ?_
      rw [h₁.loader? i, hl]
      dsimp only
      refine ((ends_updateLoader i _ w₁).and (fixed_updateLoader i _ w₁)).bind
        fun _ w₂ ⟨⟨h₂, hl₂⟩, hf₂⟩ => ?_
      refine ((ends_logAll _ w₂).and (fixed_logAll _ w₂)).bind fun _ w₃ ⟨h₃, hf₃⟩ => ?_
      refine ((ends_collect w₃).and (fixed_collect w₃)).bind fun _ w₄ ⟨h₄, hf₄⟩ =>
        Op.ends_pure ⟨h₁.frame.trans (h₂.trans (h₃.frame.trans h₄.frame)),
          hf₁.trans (hf₂.trans (hf₃.trans hf₄)), rfl, ?_⟩
      rw [h₄.loader?, h₃.loader?, hl₂, h₁.loader? i, hl]
      rfl

end World

end AssetBroker
