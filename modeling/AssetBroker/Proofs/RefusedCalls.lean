import AssetBroker.Proofs.CallShapes

/-!
# Refused before the manager is reached

The host checks every batch call before the manager sees it: the capability
of the operation first, then its input (a page size above zero for the paged
queries, as many hints or data as references for publishing). A call that
fails a check fails at once, naming the missing capability or what is wrong
with the input, in every shape of the call; nothing is delivered, the
manager's batch method is not run, and the session is left as it was, but
for the warning that names a missing capability (`checks_fail_before_any_effect`).
A call that passes both checks runs the manager into a fresh sink.

Two more entry points refuse alike: restoring a context from a non-empty
token needs a stateful manager, and asking for the manager's words for some
terms without custom terminology answers the terms themselves, without
asking the manager.

`BatchQuery` lists the batch operations with their inputs. Each names the
capability it needs, the check of its input and the manager's method it
calls, and is the session's operation of that name made of these three
(`BatchQuery.run_eq_gated`).
-/

namespace AssetBroker

/-- A batch operation of a manager, with its input. -/
inductive BatchQuery : Type → Type where
  | entityExists (refs : List String) : BatchQuery Bool
  | entityTraits (refs : List String) : BatchQuery TraitSet
  | resolve (refs : List String) (traits : TraitSet) : BatchQuery TraitsData
  | defaultEntityReference (sets : List TraitSet) : BatchQuery (Option String)
  | getWithRelationship (refs : List String) (relationship : TraitsData) (result : TraitSet) :
      BatchQuery (List String)
  | getWithRelationships (r : String) (relationships : List TraitsData) (result : TraitSet) :
      BatchQuery (List String)
  | getWithRelationshipPaged (refs : List String) (relationship : TraitsData) (result : TraitSet)
      (pageSize : Nat) : BatchQuery PageSource
  | getWithRelationshipsPaged (r : String) (relationships : List TraitsData) (result : TraitSet)
      (pageSize : Nat) : BatchQuery PageSource
  | preflight (refs : List String) (hints : List TraitsData) : BatchQuery String
  | register (refs : List String) (datas : List TraitsData) (access : PublishingAccess) :
      BatchQuery String

namespace BatchQuery

variable {α : Type}

/-- The session's operation, stopping on error or not. -/
def run : BatchQuery α → Bool → Act (Ran α)
  | entityExists refs => Session.entityExists refs
  | entityTraits refs => Session.entityTraits refs
  | resolve refs traits => Session.resolve refs traits
  | defaultEntityReference sets => Session.defaultEntityReference sets
  | getWithRelationship refs relationship result => Session.getWithRelationship refs relationship result
  | getWithRelationships r relationships result => Session.getWithRelationships r relationships result
  | getWithRelationshipPaged refs relationship result pageSize =>
    Session.getWithRelationshipPaged refs relationship result pageSize
  | getWithRelationshipsPaged r relationships result pageSize =>
    Session.getWithRelationshipsPaged r relationships result pageSize
  | preflight refs hints => Session.preflight refs hints
  | register refs datas access => Session.register refs datas access

def capability : BatchQuery α → Capability
  | entityExists _ => .existenceQueries
  | entityTraits _ => .entityTraitIntrospection
  | resolve .. => .resolution
  | defaultEntityReference _ => .defaultEntityReferences
  | getWithRelationship .. | getWithRelationships .. | getWithRelationshipPaged ..
  | getWithRelationshipsPaged .. => .relationshipQueries
  | preflight .. | register .. => .publishing

/-- Whether the input cannot be served: a paged query for pages of no
entity, or publishing with not as many hints or data as references. -/
def malformed : BatchQuery α → Bool
  | getWithRelationshipPaged _ _ _ pageSize | getWithRelationshipsPaged _ _ _ pageSize => pageSize == 0
  | preflight refs hints => hints.length != refs.length
  | register refs datas _ => datas.length != refs.length
  | _ => false

def len : BatchQuery α → Nat
  | entityExists refs | entityTraits refs | resolve refs _ | getWithRelationship refs _ _
  | getWithRelationshipPaged refs _ _ _ | preflight refs _ | register refs _ _ => refs.length
  | defaultEntityReference sets => sets.length
  | getWithRelationships _ relationships _ | getWithRelationshipsPaged _ relationships _ _ =>
    relationships.length

/-- The check of the input, made once the capability is there. -/
def check : BatchQuery α → Except BrokerError Unit
  | getWithRelationshipPaged _ _ _ pageSize | getWithRelationshipsPaged _ _ _ pageSize =>
    Session.pageSizeCheck pageSize
  | preflight refs hints => Session.lengthCheck "preflight" "traits hints" refs.length hints.length
  | register refs datas _ => Session.lengthCheck "register" "traits datas" refs.length datas.length
  | _ => .ok ()

def call : BatchQuery α → Backend → SinkRun α → Reply α
  | entityExists refs => fun b => b.entityExists refs
  | entityTraits refs => fun b => b.entityTraits refs
  | resolve refs traits => fun b => b.resolve refs traits
  | defaultEntityReference sets => fun b => b.defaultEntityReference sets
  | getWithRelationship refs relationship result => fun b => b.getWithRelationship refs relationship result
  | getWithRelationships r relationships result => fun b => b.getWithRelationships r relationships result
  | getWithRelationshipPaged refs relationship result pageSize =>
    fun b => b.getWithRelationshipPaged refs relationship result pageSize
  | getWithRelationshipsPaged r relationships result pageSize =>
    fun b => b.getWithRelationshipsPaged r relationships result pageSize
  | preflight refs hints => fun b => b.preflight refs hints
  | register refs datas access => fun b => b.register refs datas access

/-- Every batch operation is a call of the manager's method, gated by the
operation's capability and the check of its input. -/
theorem run_eq_gated (q : BatchQuery α) (stop : Bool) :
    q.run stop = Session.gated q.capability q.check q.len stop q.call := by
  cases q <;> rfl

theorem pageSizeCheck_eq_ok_iff (pageSize : Nat) :
    Session.pageSizeCheck pageSize = .ok () ↔ (pageSize == 0) = false := by
  by_cases h : pageSize = 0 <;> simp [Session.pageSizeCheck, h]

theorem lengthCheck_eq_ok_iff (operation what : String) (refs len : Nat) :
    Session.lengthCheck operation what refs len = .ok () ↔ (len != refs) = false := by
  unfold Session.lengthCheck
  by_cases h : refs = len
  · subst h
    simp
  · simp [h, Ne.symm h]

theorem pageSizeCheck_error {pageSize : Nat} {e : BrokerError} (h : Session.pageSizeCheck pageSize = .error e) :
    ∃ message, e = .invalidInput message := by
  unfold Session.pageSizeCheck at h
  split at h
  · cases h
    exact ⟨_, rfl⟩
  · cases h

theorem lengthCheck_error {operation what : String} {refs len : Nat} {e : BrokerError}
    (h : Session.lengthCheck operation what refs len = .error e) : ∃ message, e = .invalidInput message := by
  unfold Session.lengthCheck at h
  split at h
  · cases h
  · cases h
    exact ⟨_, rfl⟩

/-- The input check passes exactly on inputs that are not malformed. -/
theorem check_eq_ok_iff (q : BatchQuery α) : q.check = .ok () ↔ q.malformed = false := by
  cases q <;> simp only [check, malformed, pageSizeCheck_eq_ok_iff, lengthCheck_eq_ok_iff]

theorem check_eq_error {q : BatchQuery α} {e : BrokerError} (h : q.check = .error e) :
    ∃ message, e = .invalidInput message := by
  cases q with
  | getWithRelationshipPaged _ _ _ pageSize => exact pageSizeCheck_error h
  | getWithRelationshipsPaged _ _ _ pageSize => exact pageSizeCheck_error h
  | preflight refs hints => exact lengthCheck_error h
  | register refs datas _ => exact lengthCheck_error h
  | _ => cases h

end BatchQuery

namespace Session

variable {α : Type}

def capabilityWarning (b : Backend) (cap : Capability) : Event :=
  ⟨.warn, .hostManager, "manager does not support capability",
    [Event.shown "manager" b.identifier, Event.shown "capability" cap.name]⟩

/-- A gated call to a manager without the capability fails naming the
manager and the capability, delivers nothing, and only logs a warning,
whatever the check and the method. -/
theorem gated_of_unsupported {cap : Capability} (check : Except BrokerError Unit) (len : Nat) (stop : Bool)
    (call : Backend → SinkRun α → Reply α) {s : Session} (h : s.backend.hasCapability cap = false) :
    (gated cap check len stop call).run s =
      (([], .error (.capabilityUnsupported s.backend.identifier cap)),
        { s with trail := s.trail.push (capabilityWarning s.backend cap) }) := by
  simp [gated, require, log, h, capabilityWarning]
  rfl

/-- A gated call whose check fails fails with the check's error, delivers
nothing, and leaves the session as it was, whatever the method. -/
theorem gated_of_check_error {cap : Capability} {check : Except BrokerError Unit} {e : BrokerError}
    (len : Nat) (stop : Bool) (call : Backend → SinkRun α → Reply α) {s : Session}
    (h : s.backend.hasCapability cap = true) (hcheck : check = .error e) :
    (gated cap check len stop call).run s = (([], .error e), s) := by
  subst hcheck
  simp [gated, require, h]
  rfl

/-- A gated call that passes its checks runs the method into a fresh sink. -/
theorem gated_of_ok {cap : Capability} {check : Except BrokerError Unit} (len : Nat) (stop : Bool)
    (call : Backend → SinkRun α → Reply α) {s : Session}
    (h : s.backend.hasCapability cap = true) (hcheck : check = .ok ()) :
    (gated cap check len stop call).run s = (runSink len stop call).run s := by
  subst hcheck
  simp [gated, require, h]

/-- A context is restored from a non-empty token only by a stateful
manager; any other refuses, naming the capability, before it is asked. -/
theorem contextFromToken_of_unsupported {token : String} {s : Session} (htoken : token ≠ "")
    (h : s.backend.hasCapability .stateful = false) :
    (contextFromToken token).run s =
      (.error (.capabilityUnsupported s.backend.identifier .stateful),
        { s with trail := s.trail.push (capabilityWarning s.backend .stateful) }) := by
  have hempty : token.isEmpty = false := by simpa [String.isEmpty_iff] using htoken
  simp [contextFromToken, require, log, h, hempty, capabilityWarning]
  rfl

/-- Without custom terminology the terms come back as they were, and the
manager is not asked. -/
theorem updateTerminology_of_unsupported (terms : List (String × String)) {s : Session}
    (h : s.backend.hasCapability .customTerminology = false) :
    (updateTerminology terms).run s = (.ok terms, s) := by
  simp [updateTerminology, h]
  rfl

end Session

/-- **Checks come first.** Take any batch operation with any input, either
setting of stopping on error, any session and any method standing for the
manager's: the operation is its method gated by its capability and its input
check, and then

* without the capability the call fails naming the manager and that
  capability, in the raw shape and in both gathered shapes under either
  policy, with nothing delivered, and the session keeps everything but the
  warning it logs;
* with the capability, a malformed input (a page size of zero, or not as many
  hints or data as references) fails as invalid input, everywhere alike,
  with nothing delivered and the session untouched;
* only a call that passes both runs the method.

Neither refusal depends on the method, so the manager is never reached.
Likewise a context is restored from a non-empty token only by a stateful
manager, the others refusing before being asked, and the terms come back
unchanged, without asking the manager, from one without custom terminology. -/
theorem checks_fail_before_any_effect {α : Type} (q : BatchQuery α) (stop : Bool) (s : Session) :
    q.run stop = Session.gated q.capability q.check q.len stop q.call ∧
    (∀ call : Backend → SinkRun α → Reply α,
      let run := (Session.gated q.capability q.check q.len stop call).run s
      (s.backend.hasCapability q.capability = false →
        let e := BrokerError.capabilityUnsupported s.backend.identifier q.capability
        run = (([], .error e), { s with trail := s.trail.push (Session.capabilityWarning s.backend q.capability) }) ∧
          ∀ p n, Ran.all p n run.1 = .error e ∧ Ran.one p run.1 = .error e) ∧
      (s.backend.hasCapability q.capability = true → q.malformed = true →
        ∃ message, run = (([], .error (.invalidInput message)), s) ∧
          ∀ p n, Ran.all p n run.1 = .error (.invalidInput message) ∧
            Ran.one p run.1 = .error (.invalidInput message)) ∧
      (s.backend.hasCapability q.capability = true → q.malformed = false →
        run = (Session.runSink q.len stop call).run s)) ∧
    (∀ token, token ≠ "" → s.backend.hasCapability .stateful = false →
      (Session.contextFromToken token).run s =
        (.error (.capabilityUnsupported s.backend.identifier .stateful),
          { s with trail := s.trail.push (Session.capabilityWarning s.backend .stateful) })) ∧
    (∀ terms, s.backend.hasCapability .customTerminology = false →
      (Session.updateTerminology terms).run s = (.ok terms, s)) := by
  refine ⟨q.run_eq_gated stop, fun call => ⟨?unsupported, ?malformed, ?served⟩,
    fun _ htoken h => Session.contextFromToken_of_unsupported htoken h,
    fun terms h => Session.updateTerminology_of_unsupported terms h⟩
  case unsupported =>
    intro h
    have hrun := Session.gated_of_unsupported q.check q.len stop call h
    refine ⟨hrun, fun p n => ?_⟩
    rw [hrun]
    exact ⟨Ran.all_of_error rfl p n, Ran.one_of_error rfl p⟩
  case malformed =>
    intro h hbad
    -- a malformed input fails its check, and the check fails as invalid input
    obtain ⟨e, he⟩ : ∃ e, q.check = .error e := by
      cases hc : q.check with
      | ok u => simp [(q.check_eq_ok_iff).1 hc] at hbad
      | error e => exact ⟨e, rfl⟩
    obtain ⟨message, rfl⟩ := BatchQuery.check_eq_error he
    have hrun := Session.gated_of_check_error q.len stop call h he
    refine ⟨message, hrun, fun p n => ?_⟩
    rw [hrun]
    exact ⟨Ran.all_of_error rfl p n, Ran.one_of_error rfl p⟩
  case served =>
    intro h hok
    exact Session.gated_of_ok q.len stop call h ((q.check_eq_ok_iff).2 hok)

/-- The capability test of the dispatcher, and a register call with no data
for its one reference: a manager with the required capabilities only refuses
an existence query naming the capability, and the catalog refuses the
register call as invalid input, neither reaching its method. -/
theorem minimal_and_mismatched_calls_refused :
    let bare := Session.start (.bare {}) Host.testing
    let full := Session.start (.catalog {}) Host.testing
    let existence := BatchQuery.entityExists ["bare://cat"]
    let publish := BatchQuery.register ["mock:///cat"] [] .write
    (bare.backend.hasCapability existence.capability = false ∧
      (Session.gated existence.capability existence.check existence.len true existence.call).run bare =
        (([], .error (.capabilityUnsupported "org.oracle.bare" .existenceQueries)),
          { bare with trail := bare.trail.push (Session.capabilityWarning bare.backend .existenceQueries) })) ∧
    (full.backend.hasCapability publish.capability = true ∧ publish.malformed = true ∧
      ∃ message, (Session.gated publish.capability publish.check publish.len true publish.call).run full =
        (([], .error (.invalidInput message)), full)) :=
  ⟨⟨by decide, (((checks_fail_before_any_effect _ true _).2.1 _).1 (by decide)).1⟩,
    ⟨by decide, by decide,
      (((checks_fail_before_any_effect _ true _).2.1 _).2.1 (by decide) (by decide)).imp fun _ h => h.1⟩⟩

end AssetBroker
