import ClassicHid.Csr
import ClassicHid.Foundation.Exec

/-!
# Preparing the identity of an adapter

The address of a CSR adapter is written, the adapter is reset, and once it is back on the bus its
address is read. From the write on the address is uncertain until it has been read back, so every
failure after it asks for a recovery and none before it does.

The backend and its sessions may do anything: each call is an update of an environment `B`, with an
outcome of its own choice. The calls are recorded with their outcomes, in order. The loop that waits
for the adapter has no bound in the program; here it is cut after `attempts` rounds, and a run that
is cut is `waiting`.

## Main definitions

* `AdapterIdentityBackend`: what the program asks of its environment
* `IdentityAction`, `IdentityRun`: the record of the calls
* `prepareAdapterIdentity`, `openReenumeratedSession`
* `Exit`: the ways in which a preparation can end, each with all its calls

## Main results

* `prepareAdapterIdentity_exit`: every preparation ends in one of these ways
* `settles_prepareAdapterIdentity`: it ends if the clock goes on while it sleeps
* `identity_preparation_fails_closed`: what follows for the write, the reset and the sessions
-/

namespace ClassicHid

open Foundation

def csrCompanyIdentifier : UInt16 := 10

/-! ### The environment -/

/-- A backend with its sessions: an environment `B` that answers each call as it likes. Durations
are in nanoseconds. -/
structure AdapterIdentityBackend (B Session ε : Type) where
  openSession : Exec B ε Session
  now : B → ℕ
  sleep : ℕ → B → B
  initializeSession : Session → ℕ → Exec B ε UInt16
  readAddress : Session → ℕ → Exec B ε AdapterAddress
  sendVendorCommand : Session → CsrVendorCommand → ℕ → Exec B ε Bytes
  sendCommandWithoutResponse : Session → CsrVendorCommand → Exec B ε Unit
  closeSession : Session → Exec B ε Unit

structure IdentityPreparationOptions where
  responseTimeout : ℕ
  reenumerationTimeout : ℕ
  reenumerationPollInterval : ℕ

inductive AdapterIdentityPreparation
  | alreadyActive
  | rewritten
  deriving DecidableEq, Repr

inductive IdentityPreparationErrorKind
  | unsupportedController
  | failedBeforeWrite
  | recoveryRequired
  deriving DecidableEq, Repr

inductive IdentityPreparationStage
  | open
  | initializing
  | readCurrent
  | write
  | close
  | reenumeration
  | readback
  deriving DecidableEq, Repr

structure IdentityPreparationError where
  kind : IdentityPreparationErrorKind
  stage : IdentityPreparationStage
  deriving DecidableEq, Repr

/-- Why a preparation has not succeeded: it failed, or it still waits for the adapter. -/
inductive IdentityStop
  | failed (error : IdentityPreparationError)
  | waiting
  deriving DecidableEq, Repr

/-- A call and its outcome. Sessions are numbered in the order in which they were opened. -/
inductive IdentityAction (ε : Type)
  | opened (number : ℕ)
  | openFailed (error : ε)
  | initialized (number : ℕ) (result : Except ε UInt16)
  | addressRead (number : ℕ) (result : Except ε AdapterAddress)
  | vendorCommandSent (number : ℕ) (command : CsrVendorCommand) (result : Except ε Bytes)
  | resetSent (number : ℕ) (command : CsrVendorCommand) (result : Except ε Unit)
  | closed (number : ℕ) (result : Except ε Unit)
  | slept (duration : ℕ)

namespace IdentityAction

variable {ε : Type}

/-- The address is written. -/
def isWrite : IdentityAction ε → Bool
  | vendorCommandSent .. => true
  | _ => false

def isReset : IdentityAction ε → Bool
  | resetSent .. => true
  | _ => false

def opens (number : ℕ) : IdentityAction ε → Bool
  | opened n => n = number
  | _ => false

def closes (number : ℕ) : IdentityAction ε → Bool
  | closed n _ => n = number
  | _ => false

/-- A round of waiting: the program sleeps, or finds no adapter. -/
def isWait : IdentityAction ε → Bool
  | slept _ | openFailed _ => true
  | _ => false

end IdentityAction

/-- The environment and the calls so far, in order. -/
structure IdentityRun (B ε : Type) where
  env : B
  trace : List (IdentityAction ε) := []

/-- A session with its number. -/
structure NumberedSession (Session : Type) where
  number : ℕ
  session : Session

/-! ### The program -/

section Program

variable {B Session ε : Type} (backend : AdapterIdentityBackend B Session ε)

abbrev IdentityOp (B ε α : Type) := Exec (IdentityRun B ε) IdentityStop α

/-- A call of the environment; its outcome is recorded, and is for the caller to judge. -/
def recordCall {α : Type} (m : Exec B ε α) (action : Except ε α → IdentityAction ε) :
    IdentityOp B ε (Except ε α) :=
  Exec.update fun run =>
    ((m run.env).1, { env := (m run.env).2, trace := run.trace ++ [action (m run.env).1] })

/-- The number of sessions opened. -/
def openedCount (trace : List (IdentityAction ε)) : ℕ :=
  trace.countP fun action => match action with
    | .opened _ => true
    | _ => false

/-- The entry of an attempt to open a session. -/
def openAction (number : ℕ) : Except ε Session → IdentityAction ε
  | .ok _ => .opened number
  | .error error => .openFailed error

/-- Open a session, which is numbered after those opened before. -/
def openNumbered : IdentityOp B ε (Except ε (NumberedSession Session)) := do
  let number ← Exec.gets fun run => openedCount run.trace
  let result ← recordCall backend.openSession (openAction number)
  pure (result.map fun session => ⟨number, session⟩)

variable (session : NumberedSession Session)

def initializeNumbered (timeout : ℕ) : IdentityOp B ε (Except ε UInt16) :=
  recordCall (backend.initializeSession session.session timeout) (.initialized session.number)

def readAddressOf (timeout : ℕ) : IdentityOp B ε (Except ε AdapterAddress) :=
  recordCall (backend.readAddress session.session timeout) (.addressRead session.number)

def writeAddress (command : CsrVendorCommand) (timeout : ℕ) : IdentityOp B ε (Except ε Bytes) :=
  recordCall (backend.sendVendorCommand session.session command timeout)
    (.vendorCommandSent session.number command)

def resetController (command : CsrVendorCommand) : IdentityOp B ε (Except ε Unit) :=
  recordCall (backend.sendCommandWithoutResponse session.session command)
    (.resetSent session.number command)

def closeNumbered : IdentityOp B ε (Except ε Unit) :=
  recordCall (backend.closeSession session.session) (.closed session.number)

def failWith {α : Type} (kind : IdentityPreparationErrorKind) (stage : IdentityPreparationStage) :
    IdentityOp B ε α :=
  Exec.fail (.failed ⟨kind, stage⟩)

/-- Give a session up: it is closed, whatever comes of that, and the preparation fails. -/
def abandon {α : Type} (kind : IdentityPreparationErrorKind) (stage : IdentityPreparationStage) :
    IdentityOp B ε α := do
  let _ ← closeNumbered backend session
  failWith kind stage

variable {session}

def maxDuration : ℕ := 18446744073709551615 * 1000000000 + 999999999

/-- Wait for the adapter, for at most `attempts` rounds of the program's loop. -/
def pollReenumeration (pollInterval deadline : ℕ) :
    ℕ → IdentityOp B ε (NumberedSession Session)
  | 0 => Exec.fail .waiting
  | attempts + 1 => do
    Exec.modify fun run => { env := backend.sleep pollInterval run.env,
                             trace := run.trace ++ [.slept pollInterval] }
    match ← openNumbered backend with
    | .ok session => pure session
    | .error _ => do
      let reading ← Exec.gets fun run => backend.now run.env
      if reading < deadline then pollReenumeration pollInterval deadline attempts
      else failWith .recoveryRequired .reenumeration

def openReenumeratedSession (options : IdentityPreparationOptions) (attempts : ℕ) :
    IdentityOp B ε (NumberedSession Session) := do
  let start ← Exec.gets fun run => backend.now run.env
  let deadline := min (start + options.reenumerationTimeout) maxDuration
  pollReenumeration backend (max options.reenumerationPollInterval 1000000) deadline attempts

/-- The second half: the address that the adapter has after its reset. -/
def readBack (target : AdapterAddress) (options : IdentityPreparationOptions)
    (readback : NumberedSession Session) : IdentityOp B ε AdapterIdentityPreparation := do
  match ← initializeNumbered backend readback options.responseTimeout with
  | .error _ => abandon backend readback .recoveryRequired .readback
  | .ok company =>
    if company ≠ csrCompanyIdentifier then abandon backend readback .recoveryRequired .readback
    else
      match ← readAddressOf backend readback options.responseTimeout with
      | .error _ => abandon backend readback .recoveryRequired .readback
      | .ok address =>
        match ← closeNumbered backend readback with
        | .error _ => failWith .recoveryRequired .close
        | .ok _ =>
          if address ≠ target then failWith .recoveryRequired .readback else pure .rewritten

/-- The first half: the address is written and the controller reset. -/
def rewriteAddress (target : AdapterAddress) (options : IdentityPreparationOptions) (attempts : ℕ)
    (session : NumberedSession Session) : IdentityOp B ε AdapterIdentityPreparation := do
  let rewrite := buildCsrBdAddrVolatileRewritePlan target 0x4711
  match ← writeAddress backend session rewrite.write options.responseTimeout with
  | .error _ => abandon backend session .recoveryRequired .write
  | .ok response =>
    match parseCsrBccmdResponse response with
    | .error _ => abandon backend session .recoveryRequired .write
    | .ok status =>
      if status ≠ 0 then abandon backend session .recoveryRequired .write
      else do
        let _ ← resetController backend session rewrite.reset
        let _ ← closeNumbered backend session
        let readback ← openReenumeratedSession backend options attempts
        readBack backend target options readback

def prepareAdapterIdentity (target : AdapterAddress) (options : IdentityPreparationOptions)
    (attempts : ℕ) : IdentityOp B ε AdapterIdentityPreparation := do
  match ← openNumbered backend with
  | .error _ => failWith .failedBeforeWrite .open
  | .ok session =>
    match ← initializeNumbered backend session options.responseTimeout with
    | .error _ => abandon backend session .failedBeforeWrite .initializing
    | .ok company =>
      if company ≠ csrCompanyIdentifier then
        abandon backend session .unsupportedController .initializing
      else
        match ← readAddressOf backend session options.responseTimeout with
        | .error _ => abandon backend session .failedBeforeWrite .readCurrent
        | .ok current =>
          if current = target then do
            match ← closeNumbered backend session with
            | .error _ => failWith .failedBeforeWrite .close
            | .ok _ => pure .alreadyActive
          else rewriteAddress backend target options attempts session

end Program

/-! ### The ways in which a preparation ends -/

section Exits

variable {B Session ε : Type}

/-- What becomes of the session that reads the address back: its calls and the result. -/
inductive ReadBack (target : AdapterAddress) (number : ℕ) :
    List (IdentityAction ε) → Except IdentityStop AdapterIdentityPreparation → Prop
  | initializeFailed (error : ε) (result : Except ε Unit) :
      ReadBack target number [.initialized number (.error error), .closed number result]
        (.error (.failed ⟨.recoveryRequired, .readback⟩))
  | unsupported {company : UInt16} (result : Except ε Unit) : company ≠ csrCompanyIdentifier →
      ReadBack target number [.initialized number (.ok company), .closed number result]
        (.error (.failed ⟨.recoveryRequired, .readback⟩))
  | readFailed (error : ε) (result : Except ε Unit) :
      ReadBack target number
        [.initialized number (.ok csrCompanyIdentifier), .addressRead number (.error error),
          .closed number result]
        (.error (.failed ⟨.recoveryRequired, .readback⟩))
  | closeFailed (address : AdapterAddress) (error : ε) :
      ReadBack target number
        [.initialized number (.ok csrCompanyIdentifier), .addressRead number (.ok address),
          .closed number (.error error)]
        (.error (.failed ⟨.recoveryRequired, .close⟩))
  | mismatched {address : AdapterAddress} : address ≠ target →
      ReadBack target number
        [.initialized number (.ok csrCompanyIdentifier), .addressRead number (.ok address),
          .closed number (.ok ())]
        (.error (.failed ⟨.recoveryRequired, .readback⟩))
  | matched :
      ReadBack target number
        [.initialized number (.ok csrCompanyIdentifier), .addressRead number (.ok target),
          .closed number (.ok ())]
        (.ok .rewritten)

/-- The write of an address. -/
def writeCommand (target : AdapterAddress) : CsrVendorCommand :=
  (buildCsrBdAddrVolatileRewritePlan target 0x4711).write

def resetCommand (target : AdapterAddress) : CsrVendorCommand :=
  (buildCsrBdAddrVolatileRewritePlan target 0x4711).reset

/-- The calls up to the reset: another address was read, and the write was answered with status 0. -/
def resetCalls (target current : AdapterAddress) (response : Bytes) (reset close : Except ε Unit) :
    List (IdentityAction ε) :=
  [.opened 0, .initialized 0 (.ok csrCompanyIdentifier), .addressRead 0 (.ok current),
    .vendorCommandSent 0 (writeCommand target) (.ok response),
    .resetSent 0 (resetCommand target) reset, .closed 0 close]

/-- A preparation: its calls and the result. -/
inductive Exit (target : AdapterAddress) :
    List (IdentityAction ε) → Except IdentityStop AdapterIdentityPreparation → Prop
  | openFailed (error : ε) :
      Exit target [.openFailed error] (.error (.failed ⟨.failedBeforeWrite, .open⟩))
  | initializeFailed (error : ε) (result : Except ε Unit) :
      Exit target [.opened 0, .initialized 0 (.error error), .closed 0 result]
        (.error (.failed ⟨.failedBeforeWrite, .initializing⟩))
  | unsupported {company : UInt16} (result : Except ε Unit) : company ≠ csrCompanyIdentifier →
      Exit target [.opened 0, .initialized 0 (.ok company), .closed 0 result]
        (.error (.failed ⟨.unsupportedController, .initializing⟩))
  | readFailed (error : ε) (result : Except ε Unit) :
      Exit target
        [.opened 0, .initialized 0 (.ok csrCompanyIdentifier), .addressRead 0 (.error error),
          .closed 0 result]
        (.error (.failed ⟨.failedBeforeWrite, .readCurrent⟩))
  | active :
      Exit target
        [.opened 0, .initialized 0 (.ok csrCompanyIdentifier), .addressRead 0 (.ok target),
          .closed 0 (.ok ())]
        (.ok .alreadyActive)
  | closeFailed (error : ε) :
      Exit target
        [.opened 0, .initialized 0 (.ok csrCompanyIdentifier), .addressRead 0 (.ok target),
          .closed 0 (.error error)]
        (.error (.failed ⟨.failedBeforeWrite, .close⟩))
  | writeFailed {current : AdapterAddress} {answer : Except ε Bytes} (result : Except ε Unit) :
      current ≠ target →
      (∀ response, answer = .ok response → parseCsrBccmdResponse response ≠ .ok 0) →
      Exit target
        [.opened 0, .initialized 0 (.ok csrCompanyIdentifier), .addressRead 0 (.ok current),
          .vendorCommandSent 0 (writeCommand target) answer, .closed 0 result]
        (.error (.failed ⟨.recoveryRequired, .write⟩))
  | waiting {current : AdapterAddress} {response : Bytes} {reset close : Except ε Unit}
      {waits : List (IdentityAction ε)} : current ≠ target →
      parseCsrBccmdResponse response = .ok 0 → (∀ action ∈ waits, action.isWait = true) →
      Exit target (resetCalls target current response reset close ++ waits) (.error .waiting)
  | missing {current : AdapterAddress} {response : Bytes} {reset close : Except ε Unit}
      {waits : List (IdentityAction ε)} : current ≠ target →
      parseCsrBccmdResponse response = .ok 0 → (∀ action ∈ waits, action.isWait = true) →
      Exit target (resetCalls target current response reset close ++ waits)
        (.error (.failed ⟨.recoveryRequired, .reenumeration⟩))
  | readBack {current : AdapterAddress} {response : Bytes} {reset close : Except ε Unit}
      {waits actions : List (IdentityAction ε)}
      {result : Except IdentityStop AdapterIdentityPreparation} : current ≠ target →
      parseCsrBccmdResponse response = .ok 0 → (∀ action ∈ waits, action.isWait = true) →
      ReadBack target 1 actions result →
      Exit target (resetCalls target current response reset close ++ waits ++ .opened 1 :: actions)
        result

variable (backend : AdapterIdentityBackend B Session ε) (target : AdapterAddress)
  (options : IdentityPreparationOptions)

/-- What a call leaves. -/
theorem recordCall_apply {α : Type} (m : Exec B ε α) (action : Except ε α → IdentityAction ε)
    (run : IdentityRun B ε) : ∃ result env,
      recordCall m action run = (.ok result, ⟨env, run.trace ++ [action result]⟩) :=
  ⟨_, _, rfl⟩

theorem abandon_apply {α : Type} (session : NumberedSession Session)
    (kind : IdentityPreparationErrorKind) (stage : IdentityPreparationStage)
    (run : IdentityRun B ε) : ∃ result env,
      (abandon backend session kind stage : IdentityOp B ε α) run =
        (.error (.failed ⟨kind, stage⟩), ⟨env, run.trace ++ [.closed session.number result]⟩) := by
  obtain ⟨result, env, hclose⟩ := recordCall_apply (backend.closeSession session.session)
    (.closed session.number) run
  refine ⟨result, env, ?_⟩
  rw [abandon, closeNumbered, Exec.bind_ok hclose]
  rfl

theorem openNumbered_apply (run : IdentityRun B ε) :
    (∃ session, openNumbered backend run = (.ok (.ok ⟨openedCount run.trace, session⟩),
        ⟨(backend.openSession run.env).2, run.trace ++ [.opened (openedCount run.trace)]⟩)) ∨
      ∃ error, openNumbered backend run = (.ok (.error error),
        ⟨(backend.openSession run.env).2, run.trace ++ [.openFailed error]⟩) := by
  have hopen : recordCall backend.openSession (openAction (openedCount run.trace)) run =
    (.ok (backend.openSession run.env).1, ⟨(backend.openSession run.env).2,
      run.trace ++ [openAction (openedCount run.trace) (backend.openSession run.env).1]⟩) := rfl
  rw [openNumbered, Exec.gets_bind, Exec.bind_ok hopen]
  generalize (backend.openSession run.env).1 = result
  rcases result with error | session
  · exact .inr ⟨error, rfl⟩
  · exact .inl ⟨session, rfl⟩

/-- What the session that reads the address back does. -/
theorem readBack_exit (readback : NumberedSession Session) (run : IdentityRun B ε) :
    ∃ actions, (readBack backend target options readback run).2.trace = run.trace ++ actions ∧
      ReadBack target readback.number actions (readBack backend target options readback run).1 := by
  -- Every exit but the last two closes the session and reports that it could not be read.
  have habandon (run' : IdentityRun B ε) := abandon_apply (α := AdapterIdentityPreparation) backend
    readback .recoveryRequired .readback run'
  obtain ⟨company, env₁, hinit⟩ := recordCall_apply
    (backend.initializeSession readback.session options.responseTimeout)
    (.initialized readback.number) run
  rw [readBack, initializeNumbered, Exec.bind_ok hinit]
  rcases company with error | company
  · obtain ⟨result, env₂, h⟩ := habandon ⟨env₁, _⟩
    dsimp only
    rw [h]
    exact ⟨_, List.append_assoc .., .initializeFailed error result⟩
  dsimp only
  by_cases hcompany : company = csrCompanyIdentifier
  swap
  · obtain ⟨result, env₂, h⟩ := habandon ⟨env₁, _⟩
    rw [if_pos hcompany, h]
    exact ⟨_, List.append_assoc .., .unsupported result hcompany⟩
  subst hcompany
  rw [if_neg (not_not.mpr rfl)]
  obtain ⟨address, env₂, hread⟩ := recordCall_apply
    (backend.readAddress readback.session options.responseTimeout) (.addressRead readback.number)
    ⟨env₁, run.trace ++ [.initialized readback.number (.ok csrCompanyIdentifier)]⟩
  rw [readAddressOf, Exec.bind_ok hread]
  rcases address with error | address
  · obtain ⟨result, env₃, h⟩ := habandon ⟨env₂, _⟩
    dsimp only
    rw [h]
    exact ⟨_, by simp, .readFailed error result⟩
  obtain ⟨result, env₃, hclose⟩ := recordCall_apply (backend.closeSession readback.session)
    (.closed readback.number) ⟨env₂, run.trace ++
      [.initialized readback.number (.ok csrCompanyIdentifier)] ++
      [.addressRead readback.number (.ok address)]⟩
  dsimp only
  rw [closeNumbered, Exec.bind_ok hclose]
  rcases result with error | _
  · exact ⟨_, by simp [failWith], .closeFailed address error⟩
  dsimp only
  by_cases haddress : address = target
  · subst haddress
    rw [if_neg (not_not.mpr rfl)]
    exact ⟨_, by simp, .matched⟩
  · rw [if_pos haddress]
    exact ⟨_, by simp [failWith], .mismatched haddress⟩

/-- Waiting for the adapter ends with a session, with a failure, or not yet. -/
theorem pollReenumeration_exit (pollInterval deadline attempts : ℕ) (run : IdentityRun B ε) :
    ∃ waits, (∀ action ∈ waits, action.isWait = true) ∧
      ((∃ session env, pollReenumeration backend pollInterval deadline attempts run =
          (.ok ⟨openedCount run.trace, session⟩,
            ⟨env, run.trace ++ waits ++ [.opened (openedCount run.trace)]⟩)) ∨
        ∃ stop env, pollReenumeration backend pollInterval deadline attempts run =
            (.error stop, ⟨env, run.trace ++ waits⟩) ∧
          (stop = .waiting ∨ stop = .failed ⟨.recoveryRequired, .reenumeration⟩)) := by
  induction attempts generalizing run with
  | zero => exact ⟨[], by simp, .inr ⟨.waiting, run.env, by simp [pollReenumeration], .inl rfl⟩⟩
  | succ attempts ih =>
    rw [pollReenumeration, Exec.modify_bind]
    have hcount : openedCount (run.trace ++ [.slept pollInterval]) = openedCount run.trace := by
      simp [openedCount]
    rcases openNumbered_apply backend ⟨backend.sleep pollInterval run.env,
      run.trace ++ [.slept pollInterval]⟩ with ⟨session, hopen⟩ | ⟨error, hopen⟩ <;>
      rw [Exec.bind_ok hopen]
    · refine ⟨[.slept pollInterval], by simp [IdentityAction.isWait], .inl ⟨session,
        (backend.openSession (backend.sleep pollInterval run.env)).2, ?_⟩⟩
      rw [hcount]
      rfl
    dsimp only
    rw [Exec.gets_bind]
    split
    · -- Another round: its waits follow those of this one.
      obtain ⟨waits, hwaits, hexit⟩ := ih
        ⟨(backend.openSession (backend.sleep pollInterval run.env)).2,
          run.trace ++ [.slept pollInterval] ++ [.openFailed error]⟩
      have hcount' : openedCount (run.trace ++ [.slept pollInterval] ++ [.openFailed error]) =
          openedCount run.trace := by simp [openedCount]
      refine ⟨.slept pollInterval :: .openFailed error :: waits, ?_, ?_⟩
      · intro action haction
        rcases List.mem_cons.mp haction with rfl | haction
        · rfl
        rcases List.mem_cons.mp haction with rfl | haction
        · rfl
        · exact hwaits action haction
      · rw [hcount'] at hexit
        simpa using hexit
    · refine ⟨[.slept pollInterval, .openFailed error], by simp [IdentityAction.isWait], .inr
        ⟨_, (backend.openSession (backend.sleep pollInterval run.env)).2, ?_, .inr rfl⟩⟩
      simp only [failWith, Exec.fail_apply, List.append_assoc, List.singleton_append]

theorem openReenumeratedSession_exit (attempts : ℕ) (run : IdentityRun B ε) :
    ∃ waits, (∀ action ∈ waits, action.isWait = true) ∧
      ((∃ session env, openReenumeratedSession backend options attempts run =
          (.ok ⟨openedCount run.trace, session⟩,
            ⟨env, run.trace ++ waits ++ [.opened (openedCount run.trace)]⟩)) ∨
        ∃ stop env, openReenumeratedSession backend options attempts run =
            (.error stop, ⟨env, run.trace ++ waits⟩) ∧
          (stop = .waiting ∨ stop = .failed ⟨.recoveryRequired, .reenumeration⟩)) := by
  rw [openReenumeratedSession, Exec.gets_bind]
  apply pollReenumeration_exit

/-- What happens from the write on, when another address was read. -/
theorem rewriteAddress_exit (attempts : ℕ) {current : AdapterAddress} (hcurrent : current ≠ target)
    (session : Session) (env : B) :
    let outcome := rewriteAddress backend target options attempts ⟨0, session⟩
      ⟨env, [.opened 0, .initialized 0 (.ok csrCompanyIdentifier), .addressRead 0 (.ok current)]⟩
    Exit target outcome.2.trace outcome.1 := by
  dsimp only
  obtain ⟨answer, env₁, hwrite⟩ := recordCall_apply
    (backend.sendVendorCommand session (writeCommand target) options.responseTimeout)
    (.vendorCommandSent 0 (writeCommand target))
    ⟨env, [.opened 0, .initialized 0 (.ok csrCompanyIdentifier), .addressRead 0 (.ok current)]⟩
  -- Whatever is wrong with the answer, the session is closed and the address uncertain.
  have hfailed (hanswer : ∀ response, answer = .ok response →
      parseCsrBccmdResponse response ≠ .ok 0) {outcome}
      (houtcome : outcome = (abandon backend ⟨0, session⟩ .recoveryRequired .write :
        IdentityOp B ε AdapterIdentityPreparation) ⟨env₁, [.opened 0,
          .initialized 0 (.ok csrCompanyIdentifier), .addressRead 0 (.ok current)] ++
            [.vendorCommandSent 0 (writeCommand target) answer]⟩) :
      Exit target outcome.2.trace outcome.1 := by
    obtain ⟨result, env₂, h⟩ := abandon_apply (α := AdapterIdentityPreparation) backend ⟨0, session⟩
      .recoveryRequired .write ⟨env₁, [.opened 0, .initialized 0 (.ok csrCompanyIdentifier),
        .addressRead 0 (.ok current)] ++ [.vendorCommandSent 0 (writeCommand target) answer]⟩
    rw [houtcome, h]
    exact .writeFailed result hcurrent hanswer
  rw [rewriteAddress, writeAddress, ← writeCommand, Exec.bind_ok hwrite]
  rcases answer with error | response
  · exact hfailed (by simp) rfl
  dsimp only
  rcases hparse : parseCsrBccmdResponse response with error | status
  · exact hfailed (fun _ heq => by cases heq; simp [hparse]) rfl
  dsimp only
  by_cases hstatus : status = 0
  swap
  · rw [if_pos hstatus]
    exact hfailed (fun _ heq => by cases heq; simp [hparse, hstatus]) rfl
  subst hstatus
  rw [if_neg (not_not.mpr rfl)]
  obtain ⟨reset, env₂, hreset⟩ := recordCall_apply
    (backend.sendCommandWithoutResponse session (resetCommand target))
    (.resetSent 0 (resetCommand target)) ⟨env₁, [.opened 0,
      .initialized 0 (.ok csrCompanyIdentifier), .addressRead 0 (.ok current)] ++
        [.vendorCommandSent 0 (writeCommand target) (.ok response)]⟩
  rw [resetController, ← resetCommand, Exec.bind_ok hreset]
  obtain ⟨close, env₃, hclose⟩ := recordCall_apply (backend.closeSession session) (.closed 0)
    ⟨env₂, [.opened 0, .initialized 0 (.ok csrCompanyIdentifier), .addressRead 0 (.ok current)] ++
      [.vendorCommandSent 0 (writeCommand target) (.ok response)] ++
      [.resetSent 0 (resetCommand target) reset]⟩
  replace hclose : _ = (_, IdentityRun.mk env₃ (resetCalls target current response reset close)) :=
    hclose
  rw [closeNumbered, Exec.bind_ok hclose]
  -- One session has been opened so far, so the one that reads back has the number 1.
  have hcount : openedCount (resetCalls target current response reset close) = 1 := rfl
  obtain ⟨waits, hwaits, ⟨readback, env₄, hpoll⟩ | ⟨stop, env₄, hpoll, hstop⟩⟩ :=
    openReenumeratedSession_exit backend options attempts
      ⟨env₃, resetCalls target current response reset close⟩
  · obtain ⟨actions, htrace, hreadBack⟩ := readBack_exit backend target options ⟨1, readback⟩
      ⟨env₄, resetCalls target current response reset close ++ waits ++ [.opened 1]⟩
    rw [hcount] at hpoll
    rw [Exec.bind_ok hpoll, htrace, List.append_assoc, List.singleton_append]
    exact .readBack hcurrent hparse hwaits hreadBack
  · rw [Exec.bind_error hpoll]
    rcases hstop with rfl | rfl
    · exact .waiting hcurrent hparse hwaits
    · exact .missing hcurrent hparse hwaits

/-- **Every preparation ends in one of these ways.** -/
theorem prepareAdapterIdentity_exit (attempts : ℕ) (env : B) :
    Exit target (prepareAdapterIdentity backend target options attempts ⟨env, []⟩).2.trace
      (prepareAdapterIdentity backend target options attempts ⟨env, []⟩).1 := by
  rw [prepareAdapterIdentity]
  rcases openNumbered_apply backend ⟨env, []⟩ with ⟨session, hopen⟩ | ⟨error, hopen⟩ <;>
    rw [Exec.bind_ok hopen]
  swap
  · exact .openFailed error
  have habandon (kind : IdentityPreparationErrorKind) (stage : IdentityPreparationStage)
      (run' : IdentityRun B ε) := abandon_apply (α := AdapterIdentityPreparation) backend
    ⟨0, session⟩ kind stage run'
  obtain ⟨company, env₁, hinit⟩ := recordCall_apply
    (backend.initializeSession session options.responseTimeout) (.initialized 0)
    ⟨(backend.openSession env).2, [] ++ [.opened 0]⟩
  dsimp only
  rw [initializeNumbered]
  simp only [openedCount, List.countP_nil]
  rw [Exec.bind_ok hinit]
  rcases company with error | company
  · obtain ⟨result, env₂, h⟩ := habandon .failedBeforeWrite .initializing ⟨env₁, _⟩
    dsimp only
    rw [h]
    exact .initializeFailed error result
  dsimp only
  by_cases hcompany : company = csrCompanyIdentifier
  swap
  · obtain ⟨result, env₂, h⟩ := habandon .unsupportedController .initializing ⟨env₁, _⟩
    rw [if_pos hcompany, h]
    exact .unsupported result hcompany
  subst hcompany
  rw [if_neg (not_not.mpr rfl)]
  obtain ⟨current, env₂, hread⟩ := recordCall_apply
    (backend.readAddress session options.responseTimeout) (.addressRead 0)
    ⟨env₁, [] ++ [.opened 0] ++ [.initialized 0 (.ok csrCompanyIdentifier)]⟩
  rw [readAddressOf, Exec.bind_ok hread]
  rcases current with error | current
  · obtain ⟨result, env₃, h⟩ := habandon .failedBeforeWrite .readCurrent ⟨env₂, _⟩
    dsimp only
    rw [h]
    exact .readFailed error result
  dsimp only
  by_cases hcurrent : current = target
  swap
  · rw [if_neg hcurrent]
    exact rewriteAddress_exit backend target options attempts hcurrent session env₂
  subst hcurrent
  rw [if_pos rfl]
  obtain ⟨result, env₃, hclose⟩ := recordCall_apply (backend.closeSession session) (.closed 0)
    ⟨env₂, [] ++ [.opened 0] ++ [.initialized 0 (.ok csrCompanyIdentifier)] ++
      [.addressRead 0 (.ok current)]⟩
  rw [closeNumbered, Exec.bind_ok hclose]
  rcases result with error | _
  · exact .closeFailed error
  · exact .active

/-! ### The end of waiting -/

/-- A clock that goes on while the program sleeps, and does not go back. -/
structure ClockRuns : Prop where
  sleep : ∀ env duration, backend.now env + duration ≤ backend.now (backend.sleep duration env)
  opening : ∀ env, backend.now env ≤ backend.now (backend.openSession env).2

variable {backend} in
theorem pollReenumeration_returns (hclock : ClockRuns backend) {pollInterval deadline attempts : ℕ}
    (hattempts : 0 < attempts) {run : IdentityRun B ε}
    (hdeadline : deadline ≤ backend.now run.env + attempts * pollInterval) :
    (pollReenumeration backend pollInterval deadline attempts run).1 ≠ .error .waiting := by
  induction attempts generalizing run with
  | zero => omega
  | succ attempts ih =>
    rw [pollReenumeration, Exec.modify_bind]
    rcases openNumbered_apply backend ⟨backend.sleep pollInterval run.env,
      run.trace ++ [.slept pollInterval]⟩ with ⟨session, hopen⟩ | ⟨error, hopen⟩ <;>
      rw [Exec.bind_ok hopen]
    · simp
    dsimp only
    rw [Exec.gets_bind]
    -- The clock has gone on by one interval, so the deadline is one interval closer.
    have hsleep := hclock.sleep run.env pollInterval
    have hopening := hclock.opening (backend.sleep pollInterval run.env)
    rw [Nat.add_mul, Nat.one_mul] at hdeadline
    split
    · rename_i hreading
      dsimp only at hreading
      apply ih
      · by_contra hzero
        have : attempts = 0 := by omega
        subst this
        omega
      · dsimp only
        omega
    · simp [failWith]

/-- An operation that does not end by waiting. -/
def Settles {α : Type} (m : IdentityOp B ε α) : Prop := ∀ run, (m run).1 ≠ .error .waiting

theorem Settles.bind {α β : Type} {m : IdentityOp B ε α} {f : α → IdentityOp B ε β}
    (hm : Settles m) (hf : ∀ a, Settles (f a)) : Settles (m >>= f) := by
  intro run
  rcases hrun : m run with ⟨stop | a, run'⟩
  · rw [Exec.bind_error hrun]
    have := hm run
    rw [hrun] at this
    simpa using this
  · rw [Exec.bind_ok hrun]
    exact hf a run'

theorem settles_recordCall {α : Type} (m : Exec B ε α) (action : Except ε α → IdentityAction ε) :
    Settles (recordCall m action) := by
  intro run
  simp [recordCall]

theorem settles_failWith {α : Type} (kind : IdentityPreparationErrorKind)
    (stage : IdentityPreparationStage) : Settles (failWith kind stage : IdentityOp B ε α) := by
  intro run
  simp [failWith]

theorem settles_abandon {α : Type} (session : NumberedSession Session)
    (kind : IdentityPreparationErrorKind) (stage : IdentityPreparationStage) :
    Settles (abandon backend session kind stage : IdentityOp B ε α) :=
  (settles_recordCall _ _).bind fun _ => settles_failWith kind stage

theorem settles_readBack (readback : NumberedSession Session) :
    Settles (readBack backend target options readback) := by
  apply (settles_recordCall _ _).bind
  rintro (error | company)
  · apply settles_abandon
  dsimp only
  split
  · apply settles_abandon
  apply (settles_recordCall _ _).bind
  rintro (error | address)
  · apply settles_abandon
  apply (settles_recordCall _ _).bind
  rintro (error | _)
  · apply settles_failWith
  dsimp only
  split
  · apply settles_failWith
  · intro run
    simp

theorem settles_rewriteAddress (hclock : ClockRuns backend) {attempts : ℕ} (hattempts : 0 < attempts)
    (htimeout : options.reenumerationTimeout ≤
      attempts * max options.reenumerationPollInterval 1000000) (session : NumberedSession Session) :
    Settles (rewriteAddress backend target options attempts session) := by
  apply (settles_recordCall _ _).bind
  rintro (error | response)
  · apply settles_abandon
  dsimp only
  split
  · apply settles_abandon
  split
  · apply settles_abandon
  apply (settles_recordCall _ _).bind
  intro _
  apply (settles_recordCall _ _).bind
  intro _
  refine Settles.bind (fun run => ?_) (settles_readBack backend target options)
  rw [openReenumeratedSession, Exec.gets_bind]
  apply pollReenumeration_returns hclock hattempts
  omega

/-- **A preparation returns** when its clock runs, after as many attempts as intervals fit into the
time it waits. -/
theorem settles_prepareAdapterIdentity (hclock : ClockRuns backend) {attempts : ℕ}
    (hattempts : 0 < attempts)
    (htimeout : options.reenumerationTimeout ≤
      attempts * max options.reenumerationPollInterval 1000000) :
    Settles (prepareAdapterIdentity backend target options attempts) := by
  have hopen : Settles (openNumbered backend) := by
    intro run
    rcases openNumbered_apply backend run with ⟨session, hopen⟩ | ⟨error, hopen⟩ <;> rw [hopen] <;>
      simp
  apply hopen.bind
  rintro (error | session)
  · apply settles_failWith
  apply (settles_recordCall _ _).bind
  rintro (error | company)
  · apply settles_abandon
  dsimp only
  split
  · apply settles_abandon
  apply (settles_recordCall _ _).bind
  rintro (error | current)
  · apply settles_abandon
  dsimp only
  split
  · apply (settles_recordCall _ _).bind
    rintro (error | _)
    · apply settles_failWith
    · intro run
      simp
  · exact settles_rewriteAddress backend target options hclock hattempts htimeout session

/-! ### What follows -/

/-- What a preparation promises, whatever its environment does. -/
structure FailsClosed (target : AdapterAddress) (trace : List (IdentityAction ε))
    (result : Except IdentityStop AdapterIdentityPreparation) : Prop where
  /-- At most one address is written, and that is the target. -/
  writes : trace.countP (·.isWrite) ≤ 1
  command : ∀ action ∈ trace, action.isWrite = true →
    ∃ number answer, action = .vendorCommandSent number (writeCommand target) answer
  /-- A failure asks for a recovery exactly when the write was sent. -/
  written : (∃ action ∈ trace, action.isWrite = true) →
    result = .ok .rewritten ∨ result = .error .waiting ∨
      ∃ stage, result = .error (.failed ⟨.recoveryRequired, stage⟩)
  unwritten : (∀ action ∈ trace, action.isWrite = false) →
    ∀ stage, result ≠ .error (.failed ⟨.recoveryRequired, stage⟩)
  /-- A rewritten address was written with status 0 and read back by a later session. -/
  rewritten : result = .ok .rewritten → ∃ before after first response number,
    trace = before ++ .vendorCommandSent first (writeCommand target) (.ok response) :: after ∧
      parseCsrBccmdResponse response = .ok 0 ∧ .opened number ∈ after ∧
      .initialized number (.ok csrCompanyIdentifier) ∈ after ∧
      .addressRead number (.ok target) ∈ after ∧ .closed number (.ok ()) ∈ after
  /-- An address that is active already was read by the first session, and nothing was sent. -/
  active : result = .ok .alreadyActive → .addressRead 0 (.ok target) ∈ trace ∧
    ∀ action ∈ trace, action.isWrite = false ∧ action.isReset = false
  /-- The reset follows a write with status 0. -/
  reset : ∀ before action after, trace = before ++ action :: after → action.isReset = true →
    ∃ number response, .vendorCommandSent number (writeCommand target) (.ok response) ∈ before ∧
      parseCsrBccmdResponse response = .ok 0
  /-- Each session has its own number and is closed once. -/
  opened : ∀ number, trace.countP (·.opens number) ≤ 1
  closed : ∀ number, trace.countP (·.closes number) = trace.countP (·.opens number)

/-- An entry of a kind that the first part of a list does not have lies behind that part. -/
theorem prefix_of_split {α : Type} {p : α → Bool} {front back before after : List α} {x : α}
    (h : front ++ back = before ++ x :: after) (hfront : ∀ y ∈ front, p y = false)
    (hx : p x = true) : front <+: before := by
  rcases List.append_eq_append_iff.mp h with ⟨rest, hbefore, -⟩ | ⟨rest, hfront', hback⟩
  · exact ⟨rest, hbefore.symm⟩
  · cases rest with
    | nil => exact ⟨[], by simp [hfront']⟩
    | cons y rest =>
      cases hback
      have := hfront x (by simp [hfront'])
      rw [hx] at this
      cases this

theorem countP_waits {p : IdentityAction ε → Bool} {waits : List (IdentityAction ε)}
    (hwaits : ∀ action ∈ waits, action.isWait = true)
    (hp : ∀ action : IdentityAction ε, action.isWait = true → p action = false) :
    waits.countP p = 0 := by
  rw [List.countP_eq_zero]
  intro action haction
  rw [hp action (hwaits action haction)]
  exact Bool.false_ne_true

namespace FailsClosed

variable {target} {trace : List (IdentityAction ε)}
  {result : Except IdentityStop AdapterIdentityPreparation}

/-- A preparation that sent neither the write nor the reset. -/
theorem of_unwritten (hnone : ∀ action ∈ trace, action.isWrite = false ∧ action.isReset = false)
    (hresult : ∀ stage, result ≠ .error (.failed ⟨.recoveryRequired, stage⟩))
    (hrewritten : result ≠ .ok .rewritten)
    (hactive : result = .ok .alreadyActive → .addressRead 0 (.ok target) ∈ trace)
    (hopened : ∀ number, trace.countP (·.opens number) ≤ 1)
    (hclosed : ∀ number, trace.countP (·.closes number) = trace.countP (·.opens number)) :
    FailsClosed target trace result where
  writes := by
    rw [List.countP_eq_zero.mpr]
    · exact Nat.zero_le 1
    · intro action haction
      rw [(hnone action haction).1]
      exact Bool.false_ne_true
  command action haction hwrite := by
    rw [(hnone action haction).1] at hwrite
    cases hwrite
  written := by
    rintro ⟨action, haction, hwrite⟩
    rw [(hnone action haction).1] at hwrite
    cases hwrite
  unwritten _ := hresult
  rewritten h := absurd h hrewritten
  active h := ⟨hactive h, hnone⟩
  reset before action after htrace hreset := by
    rw [(hnone action (by simp [htrace])).2] at hreset
    cases hreset
  opened := hopened
  closed := hclosed

/-- A preparation that sent the write, once, and the reset only after a status of 0. -/
theorem of_written (front back : List (IdentityAction ε)) {answer : Except ε Bytes}
    (hfront : ∀ action ∈ front, action.isWrite = false ∧ action.isReset = false)
    (hback : ∀ action ∈ back, action.isWrite = false)
    (hreset : (∃ action ∈ back, action.isReset = true) →
      ∃ response, answer = .ok response ∧ parseCsrBccmdResponse response = .ok 0)
    (hresult : result = .ok .rewritten ∨ result = .error .waiting ∨
      ∃ stage, result = .error (.failed ⟨.recoveryRequired, stage⟩))
    (hrewritten : result = .ok .rewritten → ∃ response number, answer = .ok response ∧
      parseCsrBccmdResponse response = .ok 0 ∧ .opened number ∈ back ∧
      .initialized number (.ok csrCompanyIdentifier) ∈ back ∧
      .addressRead number (.ok target) ∈ back ∧ .closed number (.ok ()) ∈ back)
    (hopened : ∀ number,
      (front ++ .vendorCommandSent 0 (writeCommand target) answer :: back).countP
        (·.opens number) ≤ 1)
    (hclosed : ∀ number,
      (front ++ .vendorCommandSent 0 (writeCommand target) answer :: back).countP
        (·.closes number) =
      (front ++ .vendorCommandSent 0 (writeCommand target) answer :: back).countP
        (·.opens number)) :
    FailsClosed target (front ++ .vendorCommandSent 0 (writeCommand target) answer :: back)
      result where
  writes := by
    have hnone (l : List (IdentityAction ε)) (h : ∀ action ∈ l, action.isWrite = false) :
        l.countP (·.isWrite) = 0 := by
      rw [List.countP_eq_zero]
      intro action haction
      rw [h action haction]
      exact Bool.false_ne_true
    rw [List.countP_append, List.countP_cons, hnone front fun a ha => (hfront a ha).1,
      hnone back hback]
    exact Nat.le_refl 1
  command action haction hwrite := by
    rcases List.mem_append.mp haction with haction | haction
    · rw [(hfront action haction).1] at hwrite
      cases hwrite
    rcases List.mem_cons.mp haction with rfl | haction
    · exact ⟨0, answer, rfl⟩
    · rw [hback action haction] at hwrite
      cases hwrite
  written _ := hresult
  unwritten h := by
    have := h (.vendorCommandSent 0 (writeCommand target) answer) (by simp)
    cases this
  rewritten h := by
    obtain ⟨response, number, rfl, hrest⟩ := hrewritten h
    exact ⟨front, back, 0, response, number, rfl, hrest⟩
  active h := by
    rw [h] at hresult
    simp at hresult
  reset before action after htrace haction := by
    -- The reset lies behind the write, since nothing before it or itself is a reset.
    have hsplit : front ++ [.vendorCommandSent 0 (writeCommand target) answer] ++ back =
        before ++ action :: after := by
      rw [← htrace, List.append_assoc]
      rfl
    have hnone : ∀ y ∈ front ++ [.vendorCommandSent 0 (writeCommand target) answer],
        y.isReset = false := by
      intro y hy
      rcases List.mem_append.mp hy with hy | hy
      · exact (hfront y hy).2
      · rw [List.mem_singleton.mp hy]
        rfl
    obtain ⟨rest, hbefore⟩ := prefix_of_split hsplit hnone haction
    have hback' : action ∈ back := by
      have hrest : back = rest ++ action :: after := by
        apply List.append_cancel_left (hsplit.trans _)
        rw [← hbefore, List.append_assoc]
      simp [hrest]
    obtain ⟨response, rfl, hparse⟩ := hreset ⟨action, hback', haction⟩
    exact ⟨0, response, by simp [← hbefore], hparse⟩
  opened := hopened
  closed := hclosed

/-- A preparation that sent the reset. -/
theorem of_reset {current : AdapterAddress} {response : Bytes} {reset close : Except ε Unit}
    {rest : List (IdentityAction ε)} (hparse : parseCsrBccmdResponse response = .ok 0)
    (hrest : ∀ action ∈ rest, action.isWrite = false ∧ action.isReset = false)
    (hresult : result = .ok .rewritten ∨ result = .error .waiting ∨
      ∃ stage, result = .error (.failed ⟨.recoveryRequired, stage⟩))
    (hrewritten : result = .ok .rewritten → ∃ number, .opened number ∈ rest ∧
      .initialized number (.ok csrCompanyIdentifier) ∈ rest ∧
      .addressRead number (.ok target) ∈ rest ∧ .closed number (.ok ()) ∈ rest)
    (hopened : ∀ number, rest.countP (·.opens number) = 0 ∨
      number = 1 ∧ rest.countP (·.opens number) = 1)
    (hclosed : ∀ number, rest.countP (·.closes number) = rest.countP (·.opens number)) :
    FailsClosed target (resetCalls target current response reset close ++ rest) result := by
  have hopens (number : ℕ) : (resetCalls target current response reset close).countP
      (·.opens number) = if 0 = number then 1 else 0 := by
    simp [resetCalls, List.countP_cons, IdentityAction.opens]
  have hcloses (number : ℕ) : (resetCalls target current response reset close).countP
      (·.closes number) = if 0 = number then 1 else 0 := by
    simp [resetCalls, List.countP_cons, IdentityAction.closes]
  have hfirst (number : ℕ) : (if 0 = number then 1 else 0) + rest.countP (·.opens number) ≤ 1 := by
    rcases hopened number with h | ⟨rfl, h⟩ <;> rw [h]
    · split <;> omega
    · simp
  apply of_written
    [.opened 0, .initialized 0 (.ok csrCompanyIdentifier), .addressRead 0 (.ok current)]
    (.resetSent 0 (resetCommand target) reset :: .closed 0 close :: rest)
  · simp [IdentityAction.isWrite, IdentityAction.isReset]
  · intro action haction
    rcases List.mem_cons.mp haction with rfl | haction
    · rfl
    rcases List.mem_cons.mp haction with rfl | haction
    · rfl
    · exact (hrest action haction).1
  · intro _
    exact ⟨response, rfl, hparse⟩
  · exact hresult
  · intro h
    obtain ⟨number, hopen, hinit, hread, hclose⟩ := hrewritten h
    exact ⟨response, number, rfl, hparse, by simp [hopen], by simp [hinit], by simp [hread],
      by simp [hclose]⟩
  · intro number
    show (resetCalls target current response reset close ++ rest).countP (·.opens number) ≤ 1
    rw [List.countP_append, hopens]
    exact hfirst number
  · intro number
    show (resetCalls target current response reset close ++ rest).countP (·.closes number) =
      (resetCalls target current response reset close ++ rest).countP (·.opens number)
    rw [List.countP_append, List.countP_append, hopens, hcloses, hclosed]

end FailsClosed

/-- What the session that reads the address back does to the record. -/
theorem ReadBack.spec {number : ℕ} {actions : List (IdentityAction ε)}
    {result : Except IdentityStop AdapterIdentityPreparation}
    (h : ReadBack target number actions result) :
    (∀ action ∈ actions, action.isWrite = false ∧ action.isReset = false) ∧
      (∀ n, actions.countP (·.opens n) = 0 ∧
        actions.countP (·.closes n) = if number = n then 1 else 0) ∧
      (result = .ok .rewritten ∨ ∃ stage, result = .error (.failed ⟨.recoveryRequired, stage⟩)) ∧
      (result = .ok .rewritten → .initialized number (.ok csrCompanyIdentifier) ∈ actions ∧
        .addressRead number (.ok target) ∈ actions ∧ .closed number (.ok ()) ∈ actions) := by
  cases h <;>
    simp [IdentityAction.isWrite, IdentityAction.isReset, IdentityAction.opens,
      IdentityAction.closes, List.countP_cons]

/-- **Every way to end keeps the promises.** -/
theorem Exit.failsClosed {trace : List (IdentityAction ε)}
    {result : Except IdentityStop AdapterIdentityPreparation} (h : Exit target trace result) :
    FailsClosed target trace result := by
  have hwait (action : IdentityAction ε) (h : action.isWait = true) : action.isWrite = false ∧
      action.isReset = false ∧ ∀ n, action.opens n = false ∧ action.closes n = false := by
    cases action <;> first | (cases h; done) | exact ⟨rfl, rfl, fun _ => ⟨rfl, rfl⟩⟩
  have hsmall (number : ℕ) : (if 0 = number then 1 else 0) ≤ 1 := by
    split <;> omega
  -- Waiting sends nothing and touches no session.
  have hrest {waits : List (IdentityAction ε)} (h : ∀ action ∈ waits, action.isWait = true)
      (action : IdentityAction ε) (haction : action ∈ waits) :
      action.isWrite = false ∧ action.isReset = false :=
    ⟨(hwait action (h action haction)).1, (hwait action (h action haction)).2.1⟩
  have hopens {waits : List (IdentityAction ε)} (h : ∀ action ∈ waits, action.isWait = true)
      (n : ℕ) : waits.countP (·.opens n) = 0 :=
    countP_waits h fun action haction => ((hwait action haction).2.2 n).1
  have hcloses {waits : List (IdentityAction ε)} (h : ∀ action ∈ waits, action.isWait = true)
      (n : ℕ) : waits.countP (·.closes n) = 0 :=
    countP_waits h fun action haction => ((hwait action haction).2.2 n).2
  cases h with
  | openFailed | initializeFailed | unsupported | readFailed | active | closeFailed =>
    apply FailsClosed.of_unwritten <;>
      simp [IdentityAction.isWrite, IdentityAction.isReset, IdentityAction.opens,
        IdentityAction.closes, List.countP_cons, hsmall]
  | @writeFailed current _ result =>
    apply FailsClosed.of_written [.opened 0, .initialized 0 (.ok csrCompanyIdentifier),
      .addressRead 0 (.ok current)] [.closed 0 result] <;>
      simp [IdentityAction.isWrite, IdentityAction.isReset, IdentityAction.opens,
        IdentityAction.closes, List.countP_cons, hsmall]
  | waiting _ hparse hwaits =>
    apply FailsClosed.of_reset hparse (hrest hwaits) (.inr (.inl rfl)) (by simp)
    · intro n
      exact .inl (hopens hwaits n)
    · intro n
      rw [hopens hwaits, hcloses hwaits]
  | missing _ hparse hwaits =>
    apply FailsClosed.of_reset hparse (hrest hwaits) (.inr (.inr ⟨_, rfl⟩)) (by simp)
    · intro n
      exact .inl (hopens hwaits n)
    · intro n
      rw [hopens hwaits, hcloses hwaits]
  | @readBack current response reset close waits actions _ _ hparse hwaits hreadBack =>
    obtain ⟨hsent, hcounts, hresult, hrewritten⟩ := hreadBack.spec
    rw [List.append_assoc]
    apply FailsClosed.of_reset hparse
    · intro action haction
      rcases List.mem_append.mp haction with haction | haction
      · exact hrest hwaits action haction
      rcases List.mem_cons.mp haction with rfl | haction
      · exact ⟨rfl, rfl⟩
      · exact hsent action haction
    · exact hresult.imp id .inr
    · intro h
      obtain ⟨hinit, hread, hclose⟩ := hrewritten h
      exact ⟨1, by simp, by simp [hinit], by simp [hread], by simp [hclose]⟩
    · intro n
      rw [List.countP_append, List.countP_cons, hopens hwaits, (hcounts n).1]
      by_cases hn : n = 1
      · subst hn
        exact .inr ⟨rfl, rfl⟩
      · exact .inl (by simp [IdentityAction.opens, Ne.symm hn])
    · intro n
      rw [List.countP_append, List.countP_append, List.countP_cons, List.countP_cons,
        hopens hwaits, hcloses hwaits, (hcounts n).1, (hcounts n).2]
      simp [IdentityAction.opens, IdentityAction.closes]

/-- **The preparation of an identity fails closed**, whatever the backend and its sessions do; and it
returns, if the clock runs. -/
theorem identity_preparation_fails_closed (attempts : ℕ) (env : B) :
    FailsClosed target (prepareAdapterIdentity backend target options attempts ⟨env, []⟩).2.trace
        (prepareAdapterIdentity backend target options attempts ⟨env, []⟩).1 ∧
      (ClockRuns backend → 0 < attempts →
        options.reenumerationTimeout ≤ attempts * max options.reenumerationPollInterval 1000000 →
        (prepareAdapterIdentity backend target options attempts ⟨env, []⟩).1 ≠ .error .waiting) := by
  constructor
  · apply Exit.failsClosed
    exact prepareAdapterIdentity_exit backend target options attempts env
  · intro hclock hattempts htimeout
    exact settles_prepareAdapterIdentity backend target options hclock hattempts htimeout ⟨env, []⟩

end Exits

end ClassicHid
