import AssetBroker.Proofs.WorldRuns

/-!
# A source scans once until it is reset

A loader's source scans through a gate whose state lives with the source:
idle, scanning, resetting or done. The program runs on one thread, and the
loader's scan is plugin code that may itself query or reset the source it
is running for. Nothing else reaches the gate, so a scan or a clear that
runs with the gate in some state leaves it there (`KeepsGate`); queries and
resets made from inside a scan keep it scanning (`keepsGate_gatedScan`,
`KeepsGate.gatedReset`).

Main statements, for any scan and clear of that kind:

* calls made from outside amount to `scanOnce`: the scan runs at exactly the
  queries that come first since the start or the last reset, and every reset
  clears the loader with the gate held (`runCalls_eq_scanOnce`);
* a scan that panics leaves the gate idle and the panic goes on
  (`gatedScan_of_idle`);
* a query made from inside the running scan does nothing, and a reset made
  from there is the bare clear, after which the scan still leaves the gate
  done (`nested_query_does_nothing`, `nested_reset_clears`);
* so a loader whose scan answers the same from any cleared start answers
  the same before and after a reset.
-/

namespace AssetBroker

namespace World

variable {i : Nat} {w w' : World} {g : ScanState}

/-! ## Moving the gate -/

def withGate (w : World) (i : Nat) (g : ScanState) : World := ((setGate i g).run.run w).2

theorem run_setGate (i : Nat) (g : ScanState) (w : World) :
    (setGate i g).run.run w = (.ok (), w.withGate i g) := by
  unfold withGate setGate
  simp only [Op.run_bind, Op.run_get]
  split <;> rfl

/-- A lazy source's number is in range. -/
theorem lt_size_of_child_eq_lazy {l : Loader} {paths : SearchPaths}
    (hc : w.child i = .lazy l paths g) : i < w.children.size := by
  rcases Nat.lt_or_ge i w.children.size with h | h
  · exact h
  · simp [child, Array.getD, Nat.not_lt.2 h] at hc

theorem child_set_self (hi : i < w.children.size) (c : Child) :
    ({ w with children := w.children.set! i c } : World).child i = c := by
  simp [child, hi]

theorem gate?_withGate (w : World) (i : Nat) (g : ScanState) :
    (w.withGate i g).gate? i = (w.gate? i).map fun _ => g := by
  unfold withGate setGate
  simp only [Op.run_bind, Op.run_get]
  cases hc : w.child i with
  | lazy l paths g' =>
    have hi := lt_size_of_child_eq_lazy hc
    simp only [setChild, Op.run_modify, gate?, child_set_self hi, hc, Option.map_some]
  | fixed ps => simp only [Op.run_pure, gate?, hc, Option.map_none]

theorem gate?_withGate_of_eq {g' : ScanState} (h : w.gate? i = some g') :
    (w.withGate i g).gate? i = some g := by
  rw [gate?_withGate, h]
  rfl

/-! ## One call through the gate -/

/-- From an idle gate a query runs the scan with the gate scanning; the gate
is done when the scan returns, and idle again when it panics, the panic
going on. -/
theorem gatedScan_of_idle (h : w.gate? i = some .idle) (scan : Op Unit) :
    (gatedScan i scan).run.run w =
      match scan.run.run (w.withGate i .scanning) with
      | (.ok (), w') => (.ok (), w'.withGate i .done)
      | (.error message, w') => (.error message, w'.withGate i .idle) := by
  simp only [gatedScan, Op.run_bind, Op.run_get, h, run_setGate, Op.run_tryCatch]
  -- the handler moves the gate back and throws the panic on
  rcases scan.run.run (w.withGate i .scanning) with ⟨_ | _, w'⟩
  · simp only [Op.run_throw]
  · rfl

/-- A query from inside the running scan returns at once. -/
theorem gatedScan_of_scanning (h : w.gate? i = some .scanning) (scan : Op Unit) :
    (gatedScan i scan).run.run w = (.ok (), w) := by
  simp only [gatedScan, Op.run_bind, Op.run_get, h, Op.run_pure]

/-- A query after a finished scan does not scan. -/
theorem gatedScan_of_done (h : w.gate? i = some .done) (scan : Op Unit) :
    (gatedScan i scan).run.run w = (.ok (), w) := by
  simp only [gatedScan, Op.run_bind, Op.run_get, h, Op.run_pure]

/-- A reset from inside the running scan is the bare clear; the gate stays
as the scan left it. -/
theorem gatedReset_of_scanning (h : w.gate? i = some .scanning) (clear : Op Unit) :
    (gatedReset i clear).run.run w = clear.run.run w := by
  simp only [gatedReset, Op.run_bind, Op.run_get, h]

/-- A reset from outside clears with the gate held, and leaves it idle
whatever the clear does. -/
theorem gatedReset_of_rest (h : w.gate? i = some .idle ∨ w.gate? i = some .done) (clear : Op Unit) :
    (gatedReset i clear).run.run w =
      match clear.run.run (w.withGate i .resetting) with
      | (.ok (), w') => (.ok (), w'.withGate i .idle)
      | (.error message, w') => (.error message, w'.withGate i .idle) := by
  rcases h with h | h <;>
  · simp only [gatedReset, Op.run_bind, Op.run_get, h, run_setGate, Op.run_tryCatch]
    rcases clear.run.run (w.withGate i .resetting) with ⟨_ | _, w'⟩
    · simp only [Op.run_throw]
    · rfl

/-! ## Code that reaches the gate only through the source -/

/-- Run with the gate of source `i` in state `g`, the operation leaves it
there, whether it returns or panics. -/
def KeepsGate {α : Type} (i : Nat) (g : ScanState) (x : Op α) : Prop :=
  ∀ w, w.gate? i = some g → ∀ r w', x.run.run w = (r, w') → w'.gate? i = some g

theorem keepsGate_pure {α : Type} (a : α) : KeepsGate i g (pure a : Op α) := by
  intro w hw r w' hrun
  cases hrun
  exact hw

theorem KeepsGate.bind {α β : Type} {x : Op α} {f : α → Op β} (hx : KeepsGate i g x)
    (hf : ∀ a, KeepsGate i g (f a)) : KeepsGate i g (x >>= f) := by
  intro w hw r w' hrun
  rw [Op.run_bind] at hrun
  rcases hx₁ : x.run.run w with ⟨_ | a, w₁⟩
  · rw [hx₁] at hrun
    cases hrun
    exact hx w hw _ _ hx₁
  · rw [hx₁] at hrun
    exact hf a w₁ (hx w hw _ _ hx₁) r w' hrun

/-- A query from inside the scan keeps the gate scanning. -/
theorem keepsGate_gatedScan (scan : Op Unit) : KeepsGate i .scanning (gatedScan i scan) := by
  intro w hw r w' hrun
  rw [gatedScan_of_scanning hw] at hrun
  cases hrun
  exact hw

/-- So does a reset from inside the scan, when its clear does. -/
theorem KeepsGate.gatedReset {clear : Op Unit} (hc : KeepsGate i .scanning clear) :
    KeepsGate i .scanning (gatedReset i clear) := by
  intro w hw r w' hrun
  rw [gatedReset_of_scanning hw] at hrun
  exact hc w hw r w' hrun

theorem done_of_gatedScan {scan : Op Unit} (h : w.gate? i = some .idle) (hs : KeepsGate i .scanning scan)
    (hrun : (gatedScan i scan).run.run w = (.ok (), w')) : w'.gate? i = some .done := by
  rw [gatedScan_of_idle h] at hrun
  have hscanning : (w.withGate i .scanning).gate? i = some .scanning :=
    gate?_withGate_of_eq h
  rcases hsr : scan.run.run (w.withGate i .scanning) with ⟨_ | _, w₁⟩
  · rw [hsr] at hrun
    cases hrun
  · rw [hsr] at hrun
    cases hrun
    exact gate?_withGate_of_eq (hs _ hscanning _ _ hsr)

/-! ## Calls from inside the scan -/

/-- A query made from inside the running scan, at any point of it, changes
nothing. -/
theorem nested_query_does_nothing {α : Type} {before : Op α} {after : α → Op Unit}
    (hb : KeepsGate i .scanning before) (scan' : Op Unit) (hw : w.gate? i = some .scanning) :
    (before >>= fun a => gatedScan i scan' >>= fun _ => after a).run.run w = (before >>= after).run.run w := by
  rw [Op.run_bind, Op.run_bind]
  rcases hb₁ : before.run.run w with ⟨_ | a, w₁⟩
  · rfl
  · simp only [Op.run_bind, gatedScan_of_scanning (hb w hw _ _ hb₁)]

/-- A reset made from inside the running scan is the bare clear. -/
theorem nested_reset_clears {α : Type} {before : Op α} {after : α → Op Unit}
    (hb : KeepsGate i .scanning before) (clear : Op Unit) (hw : w.gate? i = some .scanning) :
    (before >>= fun a => gatedReset i clear >>= fun _ => after a).run.run w =
      (before >>= fun a => clear >>= fun _ => after a).run.run w := by
  rw [Op.run_bind, Op.run_bind]
  rcases hb₁ : before.run.run w with ⟨_ | a, w₁⟩
  · rfl
  · simp only [Op.run_bind, gatedReset_of_scanning (hb w hw _ _ hb₁)]

/-- Two scans that agree whenever the gate is scanning make queries that
agree. -/
theorem gatedScan_congr {s₁ s₂ : Op Unit} (h : ∀ w, w.gate? i = some .scanning → s₁.run.run w = s₂.run.run w)
    (w : World) : (gatedScan i s₁).run.run w = (gatedScan i s₂).run.run w := by
  cases hg : w.gate? i with
  | none => simp only [gatedScan, Op.run_bind, Op.run_get, hg]
  | some g =>
    cases g with
    | idle =>
      have hscanning : (w.withGate i .scanning).gate? i = some .scanning :=
        gate?_withGate_of_eq hg
      rw [gatedScan_of_idle hg, gatedScan_of_idle hg, h _ hscanning]
    | scanning => rw [gatedScan_of_scanning hg, gatedScan_of_scanning hg]
    | resetting => simp only [gatedScan, Op.run_bind, Op.run_get, hg]
    | done => rw [gatedScan_of_done hg, gatedScan_of_done hg]

/-! ## Calls from outside -/

/-- A call made on a source from outside any scan: a query (for the
identifiers, an implementation or an origin, each of which goes through the
gate first) or a reset. -/
inductive GateCall where
  | query
  | reset
  deriving DecidableEq, Repr

def GateCall.op (i : Nat) (scan clear : Op Unit) : GateCall → Op Unit
  | .query => gatedScan i scan
  | .reset => gatedReset i clear

def runCalls (i : Nat) (scan clear : Op Unit) : List GateCall → Op Unit
  | [] => pure ()
  | c :: cs => do
    c.op i scan clear
    runCalls i scan clear cs

/-- What calls amount to, told from their order alone: a query that is the
first since the start (`fresh`) or since the last reset runs the scan with
the gate scanning and then done; any other query does nothing; a reset
clears with the gate held and leaves it idle. -/
def scanOnce (i : Nat) (scan clear : Op Unit) : Bool → List GateCall → Op Unit
  | _, [] => pure ()
  | true, .query :: cs => do
    setGate i .scanning
    scan
    setGate i .done
    scanOnce i scan clear false cs
  | false, .query :: cs => scanOnce i scan clear false cs
  | _, .reset :: cs => do
    setGate i .resetting
    clear
    setGate i .idle
    scanOnce i scan clear true cs

section Outside

variable {scan clear : Op Unit} (hscan : KeepsGate i .scanning scan)
  (hclear : KeepsGate i .resetting clear)
  (hreturns : ∀ w, w.gate? i = some .scanning → ∃ w', scan.run.run w = (.ok (), w'))
  (hcleared : ∀ w, w.gate? i = some .resetting → ∃ w', clear.run.run w = (.ok (), w'))
include hscan hclear hreturns hcleared

/-- **Scanned once per reset.** As long as no scan panics, calls from
outside run the scan at exactly the queries that come first since the
start or the last reset. The gate is idle at the start and after a reset,
and done after a scan. -/
theorem runCalls_eq_scanOnce (cs : List GateCall) (fresh : Bool) (w : World)
    (h : w.gate? i = some (if fresh then .idle else .done)) :
    (runCalls i scan clear cs).run.run w = (scanOnce i scan clear fresh cs).run.run w := by
  induction cs generalizing fresh w with
  | nil => rfl
  | cons c cs ih =>
    cases c with
    | query =>
      cases fresh with
      | true =>
        -- the first query scans, from the gate it moved to scanning
        have hidle : w.gate? i = some .idle := h
        have hscanning : (w.withGate i .scanning).gate? i = some .scanning :=
          gate?_withGate_of_eq hidle
        obtain ⟨w₁, hs⟩ := hreturns _ hscanning
        have hdone : (w₁.withGate i .done).gate? i = some .done :=
          gate?_withGate_of_eq (hscan _ hscanning _ _ hs)
        simp only [runCalls, scanOnce, GateCall.op, Op.run_bind, gatedScan_of_idle hidle, run_setGate, hs]
        exact ih false _ hdone
      | false =>
        have hdone : w.gate? i = some .done := h
        simp only [runCalls, scanOnce, GateCall.op, Op.run_bind, gatedScan_of_done hdone]
        exact ih false w hdone
    | reset =>
      -- from idle or done alike, the clear runs with the gate held
      have hrest : w.gate? i = some .idle ∨ w.gate? i = some .done := by
        cases fresh
        · exact .inr h
        · exact .inl h
      have hresetting : (w.withGate i .resetting).gate? i = some .resetting := by
        rcases hrest with h' | h' <;> exact gate?_withGate_of_eq h'
      obtain ⟨w₁, hc⟩ := hcleared _ hresetting
      have hidle : (w₁.withGate i .idle).gate? i = some .idle :=
        gate?_withGate_of_eq (hclear _ hresetting _ _ hc)
      cases fresh <;>
      · simp only [runCalls, scanOnce, GateCall.op, Op.run_bind, gatedReset_of_rest hrest, run_setGate, hc]
        exact ih true _ hidle

/-- A loader that answers the same from alike starts answers the same
before and after a reset, when the reset brings back a start alike the
first: the query after the reset scans again, from the cleared loader. -/
theorem read_after_reset {α : Type} (read : World → α) (hread : ∀ w g, read (w.withGate i g) = read w)
    (Alike : World → World → Prop)
    (hdet : ∀ w₁ w₂ w₁' w₂', Alike w₁ w₂ → scan.run.run w₁ = (.ok (), w₁') →
      scan.run.run w₂ = (.ok (), w₂') → read w₁' = read w₂')
    (w₀ : World) (h₀ : w₀.gate? i = some .idle)
    (hagain : ∀ w₁ w₂, scan.run.run (w₀.withGate i .scanning) = (.ok (), w₁) →
      clear.run.run ((w₁.withGate i .done).withGate i .resetting) = (.ok (), w₂) →
      Alike (w₀.withGate i .scanning) ((w₂.withGate i .idle).withGate i .scanning)) :
    read ((runCalls i scan clear [.query]).run.run w₀).2 =
      read ((runCalls i scan clear [.query, .reset, .query]).run.run w₀).2 := by
  rw [runCalls_eq_scanOnce hscan hclear hreturns hcleared _ true w₀ h₀,
    runCalls_eq_scanOnce hscan hclear hreturns hcleared _ true w₀ h₀]
  -- the first scan, the clear and the second scan, each from the gate moved before it
  have hscanning₀ : (w₀.withGate i .scanning).gate? i = some .scanning :=
    gate?_withGate_of_eq h₀
  obtain ⟨w₁, hs₁⟩ := hreturns _ hscanning₀
  have hresetting : ((w₁.withGate i .done).withGate i .resetting).gate? i = some .resetting := by
    have hdone : (w₁.withGate i .done).gate? i = some .done :=
      gate?_withGate_of_eq (hscan _ hscanning₀ _ _ hs₁)
    exact gate?_withGate_of_eq hdone
  obtain ⟨w₂, hc⟩ := hcleared _ hresetting
  have hscanning₂ : ((w₂.withGate i .idle).withGate i .scanning).gate? i = some .scanning := by
    have hidle : (w₂.withGate i .idle).gate? i = some .idle :=
      gate?_withGate_of_eq (hclear _ hresetting _ _ hc)
    exact gate?_withGate_of_eq hidle
  obtain ⟨w₃, hs₃⟩ := hreturns _ hscanning₂
  simp only [scanOnce, Op.run_bind, run_setGate, hs₁, hc, hs₃, Op.run_pure, hread]
  exact hdet _ _ _ _ (hagain w₁ w₂ hs₁ hc) hs₁ hs₃

end Outside

/-- **A source scans once until it is reset.** For a scan and a clear that
reach the gate of source `i` only through the source's own queries and
resets:

* as long as no scan panics, calls from outside run the scan at exactly the
  queries that come first since the start or the last reset
  (`scanOnce`);
* a scan that panics leaves the gate idle, so the next query scans again,
  and the panic goes on;
* a query made from inside the running scan, at any point of it, starts no
  scan and changes nothing;
* a reset from outside clears with the gate held and leaves it idle; a
  reset from inside the running scan is the bare clear, and the gate is
  still done when that scan returns;
* so a loader answering the same from alike starts answers the same
  before and after a reset that brings back a start alike the first. -/
theorem source_scans_once_per_reset (i : Nat) (scan clear : Op Unit)
    (hscan : KeepsGate i .scanning scan) (hclear : KeepsGate i .resetting clear) :
    ((∀ w, w.gate? i = some .scanning → ∃ w', scan.run.run w = (.ok (), w')) →
      (∀ w, w.gate? i = some .resetting → ∃ w', clear.run.run w = (.ok (), w')) →
      ∀ (cs : List GateCall) (w : World), w.gate? i = some .idle →
        (runCalls i scan clear cs).run.run w = (scanOnce i scan clear true cs).run.run w) ∧
    (∀ (w w' : World) (message : String), w.gate? i = some .idle →
      scan.run.run (w.withGate i .scanning) = (.error message, w') →
      (gatedScan i scan).run.run w = (.error message, w'.withGate i .idle) ∧
        (w'.withGate i .idle).gate? i = some .idle) ∧
    (∀ {α : Type} (before : Op α) (after : α → Op Unit) (scan' : Op Unit),
      KeepsGate i .scanning before → ∀ w,
        (gatedScan i (before >>= fun a => gatedScan i scan' >>= fun _ => after a)).run.run w =
          (gatedScan i (before >>= after)).run.run w) ∧
    (∀ w w' : World, (w.gate? i = some .idle ∨ w.gate? i = some .done) →
      clear.run.run (w.withGate i .resetting) = (.ok (), w') →
      (gatedReset i clear).run.run w = (.ok (), w'.withGate i .idle) ∧
        (w'.withGate i .idle).gate? i = some .idle) ∧
    (∀ {α : Type} (before : Op α) (after : α → Op Unit),
      KeepsGate i .scanning before → (∀ a, KeepsGate i .scanning (after a)) →
      KeepsGate i .scanning clear →
      (∀ w, (gatedScan i (before >>= fun a => gatedReset i clear >>= fun _ => after a)).run.run w =
          (gatedScan i (before >>= fun a => clear >>= fun _ => after a)).run.run w) ∧
        ∀ w w', w.gate? i = some .idle →
          (gatedScan i (before >>= fun a => gatedReset i clear >>= fun _ => after a)).run.run w = (.ok (), w') →
          w'.gate? i = some .done) ∧
    ((∀ w, w.gate? i = some .scanning → ∃ w', scan.run.run w = (.ok (), w')) →
      (∀ w, w.gate? i = some .resetting → ∃ w', clear.run.run w = (.ok (), w')) →
      ∀ {α : Type} (read : World → α), (∀ w g, read (w.withGate i g) = read w) →
      ∀ Alike : World → World → Prop,
      (∀ w₁ w₂ w₁' w₂', Alike w₁ w₂ → scan.run.run w₁ = (.ok (), w₁') →
        scan.run.run w₂ = (.ok (), w₂') → read w₁' = read w₂') →
      ∀ w₀ : World, w₀.gate? i = some .idle →
      (∀ w₁ w₂, scan.run.run (w₀.withGate i .scanning) = (.ok (), w₁) →
        clear.run.run ((w₁.withGate i .done).withGate i .resetting) = (.ok (), w₂) →
        Alike (w₀.withGate i .scanning) ((w₂.withGate i .idle).withGate i .scanning)) →
      read ((runCalls i scan clear [.query]).run.run w₀).2 =
        read ((runCalls i scan clear [.query, .reset, .query]).run.run w₀).2) := by
  refine ⟨?outside, ?panics, ?nestedQuery, ?reset, ?nestedReset, ?again⟩
  case outside =>
    intro hreturns hcleared cs w h
    exact runCalls_eq_scanOnce hscan hclear hreturns hcleared cs true w h
  case panics =>
    intro w w' message h hs
    have hscanning : (w.withGate i .scanning).gate? i = some .scanning :=
      gate?_withGate_of_eq h
    refine ⟨?_, gate?_withGate_of_eq (hscan _ hscanning _ _ hs)⟩
    rw [gatedScan_of_idle h, hs]
  case nestedQuery =>
    intro α before after scan' hb w
    exact gatedScan_congr (fun w hw => nested_query_does_nothing hb scan' hw) w
  case reset =>
    intro w w' h hc
    have hresetting : (w.withGate i .resetting).gate? i = some .resetting := by
      rcases h with h | h <;> exact gate?_withGate_of_eq h
    refine ⟨?_, gate?_withGate_of_eq (hclear _ hresetting _ _ hc)⟩
    rw [gatedReset_of_rest h, hc]
  case nestedReset =>
    intro α before after hb ha hc
    refine ⟨fun w => gatedScan_congr (fun w hw => nested_reset_clears hb clear hw) w, ?_⟩
    intro w w' h hrun
    -- the whole scan, nested reset included, keeps the gate scanning
    have hkeeps : KeepsGate i .scanning (before >>= fun a => gatedReset i clear >>= fun _ => after a) :=
      hb.bind fun a => hc.gatedReset.bind fun _ => ha a
    exact done_of_gatedScan h hkeeps hrun
  case again =>
    intro hreturns hcleared α read hread Alike hdet w₀ h₀ hagain
    exact read_after_reset hscan hclear hreturns hcleared read hread Alike hdet w₀ h₀ hagain

/-- A scan that queries its own source again, with a clear that does
nothing: from a fresh source, two queries, a reset and a query scan twice,
at the first query and after the reset. -/
theorem reentrant_scan_runs_at_first_queries :
    let w₀ : World := { (default : World) with children := #[.lazy default (.explicit []) .idle] }
    let scan : Op Unit := gatedScan 0 (pure ())
    let clear : Op Unit := pure ()
    KeepsGate 0 .scanning scan ∧ KeepsGate 0 .resetting clear ∧ w₀.gate? 0 = some .idle ∧
    (runCalls 0 scan clear [.query, .query, .reset, .query]).run.run w₀ =
      (do
        setGate 0 .scanning; scan; setGate 0 .done
        setGate 0 .resetting; clear; setGate 0 .idle
        setGate 0 .scanning; scan; setGate 0 .done : Op Unit).run.run w₀ := by
  intro w₀ scan clear
  have hscan : KeepsGate 0 .scanning scan := keepsGate_gatedScan (pure ())
  have hclear : KeepsGate 0 .resetting clear := keepsGate_pure ()
  have hreturns : ∀ w, w.gate? 0 = some .scanning → ∃ w', scan.run.run w = (.ok (), w') :=
    fun w hw => ⟨w, gatedScan_of_scanning hw _⟩
  have hcleared : ∀ w, w.gate? 0 = some .resetting → ∃ w', clear.run.run w = (.ok (), w') :=
    fun w _ => ⟨w, rfl⟩
  refine ⟨hscan, hclear, rfl, ?_⟩
  rw [(source_scans_once_per_reset 0 scan clear hscan hclear).1 hreturns hcleared _ w₀ rfl]
  simp only [scanOnce, bind_pure_unit]

end World

end AssetBroker
