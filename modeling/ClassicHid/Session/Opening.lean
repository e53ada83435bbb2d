import ClassicHid.Identity
import ClassicHid.Session.Run
import ClassicHid.Session.Transport

/-!
# Opening a session

A session is opened on an adapter that is found on the bus. When the adapter has to have a certain
address, the address is prepared first: the adapter is opened for that alone, and again after its
reset, and what is said to it are HCI commands. The session then opens it once more, prepares the
controller, and compares the address of the controller with the one that was asked for.

## Main definitions

* `UsbHciIo`: a controller whose transport fails in one way only
* `UsbBus`, `openUsb`: the bus, as a sequence of attempts to open the adapter
* `matchesCsrVendorResponse`, `awaitVendor`: the answer to a vendor command
* `usbIdentityBackend`: the backend of a preparation on the bus
* `openSession`: the whole
* `Recorded`: what the calls of a preparation keep, and what their records say
* `AddressRead`, `AddressWritten`: what a record says of the address
* `SettlesAddress`: what an opening says about the address of the adapter

## Main results

* `plain_initializeSession`: the failures of a session that is prepared on an adapter
* `Recorded.keeps_prepare`: the record of a preparation says only what its backend allows
* `opening_settles_address`: every opening does so
-/

namespace ClassicHid

open Foundation BackendSession

/-! ### The bus -/

/-- The errors of a transport over USB are of one kind. -/
def Terminated {α : Type} (result : Except Error α) : Prop :=
  ∀ error, result = .error error → error.kind = .sourceTerminated

/-- A controller behind USB. -/
structure UsbHciIo where
  io : HciIo
  answers : ∀ answer ∈ io.answers, Terminated answer
  sendResults : ∀ result ∈ io.sendResults, Terminated result

theorem terminated_answer (heard : Heard Packet UsbError) : Terminated (UsbHciIo.answer heard) := by
  rcases heard with (packet | failure | _) | _ | _ <;> rintro error ⟨⟩ <;> rfl

theorem terminated_sendResult (result : Except UsbWriteError Unit) :
    Terminated (UsbHciIo.sendResult result) := by
  rcases result with failure | _ <;> rintro error ⟨⟩
  rfl

/-- What an opened controller has been for its session is a controller behind USB. -/
def OpenedUsb.usbHciIo {B W : Type} (opened : OpenedUsb B W) (metadata : UsbAdapterMetadata) :
    UsbHciIo where
  io := opened.hciIo metadata
  answers answer hmem := by
    obtain ⟨heard, -, rfl⟩ := List.mem_map.mp hmem
    exact terminated_answer heard
  sendResults result hmem := by
    obtain ⟨sent, -, rfl⟩ := List.mem_map.mp hmem
    exact terminated_sendResult sent

/-- An attempt to open the adapter: how long it takes, and the controller if it succeeds. -/
structure UsbAttempt where
  duration : ℕ
  controller : Option UsbHciIo

/-- The bus: what comes of each attempt to open the adapter, in order, the clock, and the sessions
that are open for a preparation. An attempt after the last fails. -/
structure UsbBus where
  attempts : List UsbAttempt
  clock : ℕ := 0
  sessions : List (Option HciIo) := []

/-- A bus on which nothing was opened yet. -/
def UsbBus.start (attempts : List UsbAttempt) (clock : ℕ) : UsbBus :=
  { attempts := attempts, clock := clock }

def openUsb : Exec UsbBus Error UsbHciIo := fun bus =>
  match bus.attempts with
  | [] => (.error (.withSource .openFailed .transport), bus)
  | attempt :: attempts =>
    (match attempt.controller with
      | none => .error (.withSource .openFailed .transport)
      | some controller => .ok controller,
     { bus with attempts := attempts, clock := bus.clock + attempt.duration })

/-! ### Vendor commands -/

def eventVendor : UInt8 := 0xFF

def csrGetreq : UInt16 := 0x0000

def csrGetresp : UInt16 := 0x0001

/-- An event answers a command when it has the sequence number and the variable of the command. -/
def matchesCsrVendorResponse (command : CsrVendorCommand) (eventParameters : Bytes) : Bool :=
  if command.parameters.length < 9 ∨ eventParameters.length < 9 then false
  else
    let requestType := le16At command.parameters 1
    (requestType = csrGetreq || requestType = csrSetreq) &&
      eventParameters.getD 0 0 = csrBccmdChannel &&
      le16At eventParameters 1 = csrGetresp &&
      (eventParameters.drop 5).take 2 = (command.parameters.drop 5).take 2 &&
      (eventParameters.drop 7).take 2 = (command.parameters.drop 7).take 2

/-- What a received packet means for the vendor command in progress: nothing, or its end. -/
def vendorAnswer (command : CsrVendorCommand) : Packet → Option (Except Error Bytes)
  | .event event =>
    if event.eventCode = eventVendor ∧
        matchesCsrVendorResponse command event.parameters = true then
      some (.ok event.parameters)
    else if event.eventCode = eventCommandStatus then
      -- The length is checked before the opcode, so a status for another command can end it.
      match requireLen event.parameters 4 "command status" with
      | .error error => some (.error error)
      | .ok _ =>
        let opcode := le16At event.parameters 2
        let status := event.parameters.getD 0 0
        if opcode = command.opCode ∧ status ≠ 0 then
          some (.error (.withSource .openFailed (.commandFailure opcode status)))
        else none
    else none
  | _ => none

/-- Receive until a packet ends the exchange. -/
def awaitAnswer (answer? : Packet → Option (Except Error Bytes)) :
    List (Except Error (Option Packet)) →
      Except Error Bytes × List (Except Error (Option Packet))
  | [] => (.error (.new .openFailed), [])
  | .error error :: answers => (.error error, answers)
  | .ok none :: answers => (.error (.new .openFailed), answers)
  | .ok (some packet) :: answers =>
    match answer? packet with
    | some result => (result, answers)
    | none => awaitAnswer answer? answers

/-- Receive until the vendor command in progress has ended. -/
def awaitVendor (command : CsrVendorCommand) (answers : List (Except Error (Option Packet))) :
    Except Error Bytes × List (Except Error (Option Packet)) :=
  awaitAnswer (vendorAnswer command) answers

/-- The exchange of a session with its controller is of the same form. -/
theorem awaitComplete_eq (opcode : UInt16) (answers : List (Except Error (Option Packet))) :
    awaitComplete opcode answers = awaitAnswer (commandAnswer opcode) answers := by
  induction answers with
  | nil => rfl
  | cons answer answers ih =>
    rcases answer with error | _ | packet
    · rfl
    · rfl
    · rcases hpacket : commandAnswer opcode packet with _ | result
      · simp only [awaitComplete, awaitAnswer, hpacket, ih]
      · simp only [awaitComplete, awaitAnswer, hpacket]

/-- Send a vendor command, and do not wait. -/
def sendVendor (command : CsrVendorCommand) : Exec HciIo Error Unit := do
  let packet ← Exec.lift ((CommandPacket.new command.opCode command.parameters).mapError
    fun source => .withSource .protocolViolation (.codec source))
  HciIo.send (.command packet)

/-! ### The sessions of a preparation -/

namespace UsbIdentitySession

/-- The controller of a session, unless it was closed. -/
def io (number : ℕ) (bus : UsbBus) : Option HciIo := (bus.sessions[number]?).join

def ioMut {α : Type} (number : ℕ) (m : Exec HciIo Error α) : Exec UsbBus Error α :=
  Exec.zoomOption (io number)
    (fun io bus => { bus with sessions := bus.sessions.set number (some io) }) (.new .closed) m

/-- An address in the order in which it is shown. -/
def displayOrder (bytes : Bytes) (h : bytes.length = 6) : AdapterAddress :=
  ⟨bytes.reverse.toArray, by rw [List.size_toArray, List.length_reverse, h]⟩

def readCompany (number : ℕ) : Exec UsbBus Error UInt16 :=
  ioMut number do
    let response ← complete hciReadLocalVersionInformation []
    pure (← Exec.lift (parseVersion response)).companyIdentifier

def readAddress (number : ℕ) : Exec UsbBus Error AdapterAddress :=
  ioMut number do
    let response ← complete hciReadBdAddr []
    if h : response.length = 6 then pure (displayOrder response h)
    else
      Exec.fail (.withSource .protocolViolation (.packetLength "local address" 6 response.length))

def sendVendorCommand (number : ℕ) (command : CsrVendorCommand) : Exec UsbBus Error Bytes :=
  ioMut number do
    sendVendor command
    fun io =>
      let (result, answers) := awaitVendor command io.answers
      (result, { io with answers := answers })

def close (number : ℕ) : Exec UsbBus Error Unit := fun bus =>
  match io number bus with
  -- A session may be closed twice.
  | none => (.ok (), bus)
  | some io => (io.close, { bus with sessions := bus.sessions.set number none })

end UsbIdentitySession

/-- Open the adapter for a preparation. -/
def openIdentitySession : Exec UsbBus Error ℕ := do
  let controller ← openUsb
  let number ← Exec.gets fun bus => bus.sessions.length
  Exec.modify fun bus => { bus with sessions := bus.sessions ++ [some controller.io] }
  pure number

def usbIdentityBackend : AdapterIdentityBackend UsbBus ℕ Error where
  openSession := openIdentitySession
  now := UsbBus.clock
  sleep duration bus := { bus with clock := bus.clock + duration }
  initializeSession number _ := UsbIdentitySession.readCompany number
  readAddress number _ := UsbIdentitySession.readAddress number
  sendVendorCommand number command _ := UsbIdentitySession.sendVendorCommand number command
  sendCommandWithoutResponse number command :=
    UsbIdentitySession.ioMut number (sendVendor command)
  closeSession := UsbIdentitySession.close

/-! ### Opening -/

inductive LocalIdentity
  | adapterDefault
  | explicit (address : BluetoothAddress)
  deriving DecidableEq, Repr

/-- Why a session is not open: an error, or the preparation has failed, or it still waits. -/
inductive OpenStop
  | failed (error : Error)
  | identity (kind : ErrorKind) (source : IdentityPreparationError)
  | waiting
  deriving DecidableEq, Repr

namespace OpenStop

/-- The kind of the error that is reported. -/
def kind? : OpenStop → Option ErrorKind
  | failed error => some error.kind
  | identity kind _ => some kind
  | waiting => none

end OpenStop

def mapIdentityError : IdentityStop → OpenStop
  | .failed source =>
    .identity (match source.kind with
      | .unsupportedController => .unsupportedController
      | .failedBeforeWrite => .openFailed
      | .recoveryRequired => .adapterIdentityRecoveryRequired) source
  | .waiting => .waiting

def identityMismatchKind (preparation : Option AdapterIdentityPreparation) : ErrorKind :=
  if preparation = some .rewritten then .adapterIdentityRecoveryRequired else .identityMismatch

/-- The options of a preparation: ten seconds for the adapter to come back, which is looked for
every 100 milliseconds. -/
def preparationOptions : IdentityPreparationOptions where
  responseTimeout := commandTimeout
  reenumerationTimeout := 10000000000
  reenumerationPollInterval := 100000000

/-- The address that a preparation writes and compares. -/
def BluetoothAddress.adapterAddress (address : BluetoothAddress) : AdapterAddress :=
  UsbIdentitySession.displayOrder address.asLeBytes address.length_asLeBytes

abbrev OpenOp (α : Type) := Exec (IdentityRun UsbBus Error) OpenStop α

def prepareExplicitIdentity (target : BluetoothAddress) (attempts : ℕ) :
    OpenOp AdapterIdentityPreparation :=
  if target.kind ≠ .pub then Exec.fail (.failed (.new .invalidConfiguration))
  else
    Exec.mapError mapIdentityError
      (prepareAdapterIdentity usbIdentityBackend target.adapterAddress preparationOptions attempts)

variable {S : Type}

/-- The adapter is opened, and the session on it initialized. -/
def openDriver [BondStore S] (config : SessionConfig) (bonds : S) :
    OpenOp (BackendSession S) := do
  let controller ← Exec.mapError .failed
    (Exec.zoom (·.env) (fun bus run => { run with env := bus }) openUsb)
  Exec.lift ((initializeSession controller.io config bonds).mapError .failed)

/-- Open a session. A preparation waits for the adapter for at most `attempts` rounds. -/
def openSession [BondStore S] (config : SessionConfig) (identity : LocalIdentity) (attempts : ℕ)
    (bonds : S) : OpenOp (BackendSession S) :=
  match identity with
  | .adapterDefault => openDriver config bonds
  | .explicit target => do
    let preparation ← prepareExplicitIdentity target attempts
    -- The preparation has closed its sessions; the adapter is opened anew.
    let driver ← openDriver config bonds
    if driver.capabilities.localAddress ≠ target then
      Exec.fail (.failed (.new (identityMismatchKind (some preparation))))
    else pure driver

/-! ### The failures of an adapter -/

/-- The transport below a controller fails in one way only. -/
def OfAdapter (io : HciIo) : Prop :=
  (∀ answer ∈ io.answers, Terminated answer) ∧ ∀ result ∈ io.sendResults, Terminated result

/-- An error that says nothing about the address of the adapter. -/
def IsPlain (error : Error) : Prop :=
  error.kind ≠ .adapterIdentityRecoveryRequired ∧ error.kind ≠ .identityMismatch

def Plain {α : Type} (result : Except Error α) : Prop :=
  ∀ error, result = .error error → IsPlain error

/-- What is said to an adapter fails with errors that say nothing about its address. -/
def FailsPlainly {α : Type} (m : Exec HciIo Error α) : Prop :=
  Exec.Sat OfAdapter m fun result io => OfAdapter io ∧ Plain result

section Plain

variable {α β : Type}

theorem plain_ok (a : α) : Plain (.ok a) := by
  rintro _ ⟨⟩

theorem plain_error {error : Error} (h : IsPlain error) :
    Plain (.error error : Except Error α) := by
  rintro _ ⟨⟩
  exact h

theorem isPlain_new {kind : ErrorKind}
    (h : kind ≠ .adapterIdentityRecoveryRequired ∧ kind ≠ .identityMismatch) :
    IsPlain (.new kind) := h

theorem isPlain_withSource {kind : ErrorKind} (source : ErrorSource)
    (h : kind ≠ .adapterIdentityRecoveryRequired ∧ kind ≠ .identityMismatch) :
    IsPlain (.withSource kind source) := h

theorem Terminated.plain {result : Except Error α} (h : Terminated result) : Plain result := by
  intro error herror
  rw [IsPlain, h error herror]
  decide

theorem Plain.bind {result : Except Error α} {f : α → Except Error β} (h : Plain result)
    (hf : ∀ a, Plain (f a)) : Plain (result >>= f) := by
  cases result with
  | error error => exact plain_error (h error rfl)
  | ok a => exact hf a

theorem Plain.mapError {ε : Type} {result : Except ε α} {f : ε → Error}
    (h : ∀ error, IsPlain (f error)) : Plain (result.mapError f) := by
  cases result with
  | error error => exact plain_error (h error)
  | ok a => exact plain_ok a

theorem plain_requireLen (parameters : Bytes) (expected : ℕ) (field : String) :
    Plain (requireLen parameters expected field) := by
  rw [requireLen]
  split
  · exact plain_ok ()
  · exact plain_error (isPlain_withSource _ (by decide))

theorem plain_requireMinLen (parameters : Bytes) (minimum : ℕ) (field : String) :
    Plain (requireMinLen parameters minimum field) := by
  rw [requireMinLen]
  split
  · exact plain_ok ()
  · exact plain_error (isPlain_withSource _ (by decide))

theorem plain_command (opcode : UInt16) (parameters : Bytes) :
    Plain (command opcode parameters) :=
  .mapError fun _ => isPlain_withSource _ (by decide)

theorem plain_parseVersion (parameters : Bytes) : Plain (parseVersion parameters) :=
  (plain_requireLen _ _ _).bind fun _ => plain_ok _

theorem plain_addressAt (parameters : Bytes) (offset : ℕ) :
    Plain (addressAt parameters offset) := by
  rw [addressAt]
  split
  · exact plain_ok _
  · exact plain_error (isPlain_withSource _ (by decide))

theorem plain_identityCommands (config : SessionConfig) : Plain (identityCommands config) :=
  (plain_command _ _).bind fun _ => (plain_command _ _).bind fun _ => (plain_command _ _).bind
    fun _ => (plain_command _ _).bind fun _ => (plain_command _ _).bind fun _ =>
      (plain_command _ _).bind fun _ => plain_ok _

/-! #### Updates -/

theorem FailsPlainly.bind {m : Exec HciIo Error α} {f : α → Exec HciIo Error β}
    (hm : FailsPlainly m) (hf : ∀ a, FailsPlainly (f a)) : FailsPlainly (m >>= f) := by
  refine Exec.Sat.bind hm (fun a => (hf a).mono (fun _ h => h.1) fun _ _ h => h) ?_
  rintro error io ⟨hio, herror⟩
  exact ⟨hio, plain_error (herror error rfl)⟩

theorem failsPlainly_lift {result : Except Error α} (h : Plain result) :
    FailsPlainly (Exec.lift result) := fun _ hio => ⟨hio, h⟩

theorem failsPlainly_pure (a : α) : FailsPlainly (pure a) := fun _ hio => ⟨hio, plain_ok a⟩

theorem failsPlainly_fail {error : Error} (h : IsPlain error) :
    FailsPlainly (Exec.fail error : Exec HciIo Error α) := fun _ hio => ⟨hio, plain_error h⟩

theorem failsPlainly_send (packet : Packet) : FailsPlainly (HciIo.send packet) := by
  rintro io ⟨hanswers, hsends⟩
  rw [HciIo.send]
  rcases hresults : io.sendResults with _ | ⟨result, results⟩
  · exact ⟨⟨hanswers, hsends⟩, plain_ok ()⟩
  · rw [hresults] at hsends
    exact ⟨⟨hanswers, fun r hr => hsends r (List.mem_cons_of_mem _ hr)⟩,
      (hsends result List.mem_cons_self).plain⟩

theorem plain_commandAnswer {opcode : UInt16} {packet : Packet} {result : Except Error Bytes}
    (h : commandAnswer opcode packet = some result) : Plain result := by
  have hfailure (source : ErrorSource) :
      Plain (.error (.withSource .openFailed source) : Except Error Bytes) :=
    plain_error (isPlain_withSource source (by decide))
  cases packet with
  | event event =>
    rw [commandAnswer] at h
    split at h
    · split at h
      · rename_i error hlength
        cases h
        exact plain_error (plain_requireMinLen _ _ _ error hlength)
      · dsimp only at h
        split at h
        · cases h
        split at h
        · cases h
          exact hfailure _
        · cases h
          exact plain_ok _
    · split at h
      · split at h
        · rename_i error hlength
          cases h
          exact plain_error (plain_requireLen _ _ _ error hlength)
        · dsimp only at h
          split at h
          · cases h
            exact hfailure _
          · cases h
      · cases h
  | command | acl => cases h

/-- Answers of an adapter leave answers of an adapter. -/
theorem awaitComplete_plain (opcode : UInt16) {answers : List (Except Error (Option Packet))}
    (h : ∀ answer ∈ answers, Terminated answer) :
    (∀ answer ∈ (awaitComplete opcode answers).2, Terminated answer) ∧
      Plain (awaitComplete opcode answers).1 := by
  have htimeout : Plain (.error (.new .openFailed) : Except Error Bytes) :=
    plain_error (isPlain_new (by decide))
  induction answers with
  | nil => exact ⟨h, htimeout⟩
  | cons answer answers ih =>
    have hrest := fun answer' hmem => h answer' (List.mem_cons_of_mem answer hmem)
    have hanswer := h answer List.mem_cons_self
    rcases answer with error | _ | packet
    · exact ⟨hrest, plain_error (hanswer.plain error rfl)⟩
    · exact ⟨hrest, htimeout⟩
    · rw [awaitComplete]
      rcases hpacket : commandAnswer opcode packet with _ | result
      · exact ih hrest
      · exact ⟨hrest, plain_commandAnswer hpacket⟩

theorem failsPlainly_sendComplete (command : CommandPacket) :
    FailsPlainly (sendComplete command) := by
  refine (failsPlainly_send _).bind fun _ => ?_
  rintro io ⟨hanswers, hsends⟩
  obtain ⟨hrest, hplain⟩ := awaitComplete_plain command.opcode hanswers
  exact ⟨⟨hrest, hsends⟩, hplain⟩

theorem failsPlainly_complete (opcode : UInt16) (parameters : Bytes) :
    FailsPlainly (complete opcode parameters) :=
  (failsPlainly_lift (plain_command _ _)).bind failsPlainly_sendComplete

theorem failsPlainly_forEach {f : α → Exec HciIo Error Unit} {l : List α}
    (h : ∀ a, FailsPlainly (f a)) : FailsPlainly (Exec.forEach f l) := by
  induction l with
  | nil => exact failsPlainly_pure ()
  | cons a l ih => exact (h a).bind fun _ => ih

/-- **A controller is prepared** without a word about its address. -/
theorem failsPlainly_initializeController (config : SessionConfig) :
    FailsPlainly (initializeController config) := by
  have hlength (parameters : Bytes) (expected : ℕ) (field : String) :
      FailsPlainly (Exec.lift (requireLen parameters expected field)) :=
    failsPlainly_lift (plain_requireLen _ _ _)
  have hguard {p : Prop} [Decidable p] {kind : ErrorKind} {β : Type}
      {rest : Unit → Exec HciIo Error β}
      (h : kind ≠ .adapterIdentityRecoveryRequired ∧ kind ≠ .identityMismatch)
      (hrest : ∀ u, FailsPlainly (rest u)) :
      FailsPlainly (if p then Exec.fail (.new kind) >>= rest else rest ()) := by
    split
    · exact (failsPlainly_fail (isPlain_new h)).bind hrest
    · exact hrest ()
  rw [initializeController]
  -- The version and the features of the controller.
  refine (failsPlainly_complete _ _).bind fun _ => ?_
  refine (failsPlainly_complete _ _).bind fun supported => ?_
  refine (hlength _ _ _).bind fun _ => ?_
  refine (failsPlainly_complete _ _).bind fun response => ?_
  refine (failsPlainly_lift (plain_parseVersion _)).bind fun version => ?_
  refine (failsPlainly_complete _ _).bind fun features => ?_
  refine (hlength _ _ _).bind fun _ => ?_
  refine hguard (by decide) fun _ => ?_
  -- The events and the buffers.
  refine (failsPlainly_complete _ _).bind fun _ => ?_
  refine (failsPlainly_complete _ _).bind fun _ => ?_
  refine (failsPlainly_complete _ _).bind fun buffer => ?_
  refine (hlength _ _ _).bind fun _ => ?_
  refine hguard (by decide) fun _ => ?_
  -- The address, and what the controller shows of itself.
  refine (failsPlainly_complete _ _).bind fun address => ?_
  refine (hlength _ _ _).bind fun _ => ?_
  refine (failsPlainly_lift (plain_addressAt _ _)).bind fun localAddress => ?_
  refine hguard (by decide) fun _ => ?_
  refine (failsPlainly_lift (plain_identityCommands config)).bind fun commands => ?_
  refine (failsPlainly_forEach fun command => ?_).bind fun _ => failsPlainly_pure _
  exact (failsPlainly_sendComplete command).bind fun _ => failsPlainly_pure ()

end Plain

/-- **A session is prepared** without a word about the address of its adapter. -/
theorem plain_initializeSession [BondStore S] (controller : UsbHciIo) (config : SessionConfig)
    (bonds : S) : Plain (initializeSession controller.io config bonds) := by
  have hcontroller := failsPlainly_initializeController config controller.io
    ⟨controller.answers, controller.sendResults⟩
  rw [initializeSession]
  rcases hinitialized : initializeController config controller.io with ⟨error | initialized, io⟩
  · rw [hinitialized] at hcontroller
    exact plain_error (hcontroller.2 error rfl)
  dsimp only [bind, Except.bind]
  rcases BondStore.selectLocalAddress initialized.localAddress bonds with ⟨error | _, bonds'⟩
  · exact plain_error (isPlain_withSource _ (by decide))
  dsimp only
  split
  · exact plain_error (isPlain_withSource _ (by decide))
  · exact plain_ok _

/-! ### What is recorded of a preparation -/

section Recorded

variable {B Session ε : Type} {backend : AdapterIdentityBackend B Session ε} {I : B → Prop}
  {A : IdentityAction ε → Prop}

/-- Every call of a backend keeps `I`, and is recorded as `A` says. -/
structure Recorded (backend : AdapterIdentityBackend B Session ε) (I : B → Prop)
    (A : IdentityAction ε → Prop) : Prop where
  opening (number : ℕ) : Exec.Sat I backend.openSession fun result env =>
    I env ∧ A (openAction number result)
  sleep (duration : ℕ) {env : B} : I env → I (backend.sleep duration env)
  slept (duration : ℕ) : A (.slept duration)
  company (session : Session) (timeout number : ℕ) :
    Exec.Sat I (backend.initializeSession session timeout) fun result env =>
      I env ∧ A (.initialized number result)
  address (session : Session) (timeout number : ℕ) :
    Exec.Sat I (backend.readAddress session timeout) fun result env =>
      I env ∧ A (.addressRead number result)
  vendor (session : Session) (command : CsrVendorCommand) (timeout number : ℕ) :
    Exec.Sat I (backend.sendVendorCommand session command timeout) fun result env =>
      I env ∧ A (.vendorCommandSent number command result)
  reset (session : Session) (command : CsrVendorCommand) (number : ℕ) :
    Exec.Sat I (backend.sendCommandWithoutResponse session command) fun result env =>
      I env ∧ A (.resetSent number command result)
  closing (session : Session) (number : ℕ) :
    Exec.Sat I (backend.closeSession session) fun result env => I env ∧ A (.closed number result)

/-- The environment and the record of a run. -/
def IdentityRun.Holds (I : B → Prop) (A : IdentityAction ε → Prop) (run : IdentityRun B ε) : Prop :=
  I run.env ∧ ∀ action ∈ run.trace, A action

theorem IdentityRun.Holds.add {run : IdentityRun B ε} (h : run.Holds I A) {env : B}
    {action : IdentityAction ε} (henv : I env) (haction : A action) :
    IdentityRun.Holds I A ⟨env, run.trace ++ [action]⟩ := by
  refine ⟨henv, fun action' hmem => ?_⟩
  rcases List.mem_append.mp hmem with hmem | hmem
  · exact h.2 action' hmem
  · exact List.mem_singleton.mp hmem ▸ haction

theorem keeps_recordCall {α : Type} {m : Exec B ε α} {action : Except ε α → IdentityAction ε}
    (h : Exec.Sat I m fun result env => I env ∧ A (action result)) :
    Exec.Keeps (IdentityRun.Holds I A) (recordCall m action) := by
  intro run hrun
  obtain ⟨henv, haction⟩ := h run.env hrun.1
  exact hrun.add henv haction

variable (h : Recorded backend I A) {session : NumberedSession Session}

include h

theorem Recorded.keeps_close :
    Exec.Keeps (IdentityRun.Holds I A) (closeNumbered backend session) :=
  keeps_recordCall (h.closing _ _)

theorem Recorded.keeps_abandon {α : Type} (kind : IdentityPreparationErrorKind)
    (stage : IdentityPreparationStage) :
    Exec.Keeps (IdentityRun.Holds I A) (abandon backend session kind stage : IdentityOp B ε α) :=
  Exec.Keeps.bind h.keeps_close fun _ => Exec.keeps_fail _

theorem Recorded.keeps_open : Exec.Keeps (IdentityRun.Holds I A) (openNumbered backend) :=
  Exec.Keeps.bind (Exec.keeps_gets _) fun number =>
    Exec.Keeps.bind (keeps_recordCall (h.opening number)) fun _ => Exec.keeps_pure _

theorem Recorded.keeps_poll (pollInterval deadline attempts : ℕ) :
    Exec.Keeps (IdentityRun.Holds I A)
      (pollReenumeration backend pollInterval deadline attempts) := by
  induction attempts with
  | zero => exact Exec.keeps_fail _
  | succ attempts ih =>
    rw [pollReenumeration]
    refine Exec.Keeps.bind ?_ fun _ => Exec.Keeps.bind h.keeps_open ?_
    · intro run hrun
      exact hrun.add (h.sleep _ hrun.1) (h.slept _)
    rintro (error | session)
    · refine Exec.Keeps.bind (Exec.keeps_gets _) fun reading => ?_
      split
      · exact ih
      · exact Exec.keeps_fail _
    · exact Exec.keeps_pure _

theorem Recorded.keeps_readBack (target : AdapterAddress) (options : IdentityPreparationOptions)
    (readback : NumberedSession Session) :
    Exec.Keeps (IdentityRun.Holds I A) (readBack backend target options readback) := by
  rw [readBack]
  refine Exec.Keeps.bind (keeps_recordCall (h.company _ _ _)) ?_
  rintro (error | company)
  · exact h.keeps_abandon _ _
  dsimp only
  -- A controller of another maker is given up.
  split
  · exact h.keeps_abandon _ _
  refine Exec.Keeps.bind (keeps_recordCall (h.address _ _ _)) ?_
  rintro (error | address)
  · exact h.keeps_abandon _ _
  refine Exec.Keeps.bind h.keeps_close ?_
  rintro (error | _)
  · exact Exec.keeps_fail _
  dsimp only
  split
  · exact Exec.keeps_fail _
  · exact Exec.keeps_pure _

theorem Recorded.keeps_rewrite (target : AdapterAddress) (options : IdentityPreparationOptions)
    (attempts : ℕ) (session : NumberedSession Session) :
    Exec.Keeps (IdentityRun.Holds I A)
      (rewriteAddress backend target options attempts session) := by
  rw [rewriteAddress]
  refine Exec.Keeps.bind (keeps_recordCall (h.vendor _ _ _ _)) ?_
  rintro (error | response)
  · exact h.keeps_abandon _ _
  dsimp only
  -- The answer cannot be read, or has another status than zero.
  split
  · exact h.keeps_abandon _ _
  split
  · exact h.keeps_abandon _ _
  refine Exec.Keeps.bind (keeps_recordCall (h.reset _ _ _)) fun _ => ?_
  refine Exec.Keeps.bind h.keeps_close fun _ => ?_
  refine Exec.Keeps.bind ?_ fun readback => h.keeps_readBack target options readback
  exact Exec.Keeps.bind (Exec.keeps_gets _) fun start => h.keeps_poll _ _ _

/-- **The record of a preparation** says only what its backend allows. -/
theorem Recorded.keeps_prepare (target : AdapterAddress)
    (options : IdentityPreparationOptions) (attempts : ℕ) :
    Exec.Keeps (IdentityRun.Holds I A)
      (prepareAdapterIdentity backend target options attempts) := by
  rw [prepareAdapterIdentity]
  refine Exec.Keeps.bind h.keeps_open ?_
  rintro (error | session)
  · exact Exec.keeps_fail _
  refine Exec.Keeps.bind (keeps_recordCall (h.company _ _ _)) ?_
  rintro (error | company)
  · exact h.keeps_abandon _ _
  dsimp only
  split
  · exact h.keeps_abandon _ _
  refine Exec.Keeps.bind (keeps_recordCall (h.address _ _ _)) ?_
  rintro (error | current)
  · exact h.keeps_abandon _ _
  dsimp only
  -- Nothing is written when the address is there already.
  split
  · refine Exec.Keeps.bind h.keeps_close ?_
    rintro (error | _)
    · exact Exec.keeps_fail _
    · exact Exec.keeps_pure _
  · exact h.keeps_rewrite _ _ _ _

end Recorded

/-! ### What an adapter says -/

namespace UsbBus

/-- An adapter that is found on the bus says this. -/
def Says (bus : UsbBus) (event : EventPacket) : Prop :=
  ∃ attempt ∈ bus.attempts, ∃ controller, attempt.controller = some controller ∧
    .ok (some (.event event)) ∈ controller.io.answers

/-- An adapter says that the command has succeeded, with these return parameters. -/
def Completes (bus : UsbBus) (opcode : UInt16) (response : Bytes) : Prop :=
  ∃ event, bus.Says event ∧ event.eventCode = eventCommandComplete ∧
    le16At event.parameters 1 = opcode ∧ event.parameters.getD 3 0 = 0 ∧
    event.parameters.drop 4 = response

/-- An adapter answers a vendor command. -/
def Answers (bus : UsbBus) (command : CsrVendorCommand) (response : Bytes) : Prop :=
  ∃ event, bus.Says event ∧ event.eventCode = eventVendor ∧
    matchesCsrVendorResponse command event.parameters = true ∧ event.parameters = response

/-- The events among some answers are what an adapter says. -/
def Knows (bus : UsbBus) (io : HciIo) : Prop :=
  ∀ event, .ok (some (.event event)) ∈ io.answers → bus.Says event

/-- What the bus has become: fewer attempts, and sessions in which adapters speak. -/
structure Later (start bus : UsbBus) : Prop where
  attempts : bus.attempts <:+ start.attempts
  sessions : ∀ io, some io ∈ bus.sessions → start.Knows io

end UsbBus

/-- The addresses and the answers in a record are what an adapter says. -/
def Said (bus : UsbBus) (action : IdentityAction Error) : Prop :=
  (∀ number address, action = .addressRead number (.ok address) →
    bus.Completes hciReadBdAddr address.toList.reverse) ∧
  ∀ number command response, action = .vendorCommandSent number command (.ok response) →
    bus.Answers command response

section Said

variable {start : UsbBus}

theorem commandAnswer_ok {opcode : UInt16} {packet : Packet} {response : Bytes}
    (h : commandAnswer opcode packet = some (.ok response)) :
    ∃ event, packet = .event event ∧ event.eventCode = eventCommandComplete ∧
      le16At event.parameters 1 = opcode ∧ event.parameters.getD 3 0 = 0 ∧
      event.parameters.drop 4 = response := by
  cases packet with
  | event event =>
    rw [commandAnswer] at h
    split at h
    · rename_i hcode
      split at h
      · cases h
      dsimp only at h
      split at h
      · cases h
      rename_i hopcode
      split at h
      · cases h
      rename_i hstatus
      cases h
      exact ⟨event, rfl, hcode, not_not.mp hopcode, not_not.mp hstatus, rfl⟩
    · split at h
      · split at h
        · cases h
        dsimp only at h
        split at h <;> cases h
      · cases h
  | command | acl => cases h

theorem vendorAnswer_ok {command : CsrVendorCommand} {packet : Packet} {response : Bytes}
    (h : vendorAnswer command packet = some (.ok response)) :
    ∃ event, packet = .event event ∧ event.eventCode = eventVendor ∧
      matchesCsrVendorResponse command event.parameters = true ∧ event.parameters = response := by
  cases packet with
  | event event =>
    rw [vendorAnswer] at h
    split at h
    · rename_i hmatches
      cases h
      exact ⟨event, rfl, hmatches.1, hmatches.2, rfl⟩
    · split at h
      · split at h
        · cases h
        dsimp only at h
        split at h <;> cases h
      · cases h
  | command | acl => cases h

/-- The packet that ends an exchange is among the answers of the controller. -/
theorem awaitAnswer_mem (answer? : Packet → Option (Except Error Bytes))
    (answers : List (Except Error (Option Packet))) :
    (∀ answer ∈ (awaitAnswer answer? answers).2, answer ∈ answers) ∧
      ∀ response, (awaitAnswer answer? answers).1 = .ok response → ∃ packet,
        .ok (some packet) ∈ answers ∧ answer? packet = some (.ok response) := by
  induction answers with
  | nil =>
    refine ⟨fun _ h => h, ?_⟩
    rintro _ ⟨⟩
  | cons answer answers ih =>
    have hrest : ∀ answer' ∈ answers, answer' ∈ answer :: answers :=
      fun _ hmem => List.mem_cons_of_mem _ hmem
    rcases answer with error | _ | packet
    · refine ⟨hrest, ?_⟩
      rintro _ ⟨⟩
    · refine ⟨hrest, ?_⟩
      rintro _ ⟨⟩
    · rw [awaitAnswer]
      rcases hpacket : answer? packet with _ | result
      · refine ⟨fun answer' hmem => hrest _ (ih.1 answer' hmem), fun response hresponse => ?_⟩
        obtain ⟨packet', hmem, hanswer⟩ := ih.2 response hresponse
        exact ⟨packet', hrest _ hmem, hanswer⟩
      · refine ⟨hrest, ?_⟩
        rintro response rfl
        exact ⟨packet, List.mem_cons_self, hpacket⟩

theorem knows_send (packet : Packet) :
    Exec.Keeps (UsbBus.Knows start) (HciIo.send packet) := by
  intro io hio
  rw [HciIo.send]
  split <;> exact hio

theorem opcode_of_command {opcode : UInt16} {parameters : Bytes} {packet : CommandPacket}
    (h : command opcode parameters = .ok packet) : packet.opcode = opcode := by
  rw [command] at h
  rcases hnew : CommandPacket.new opcode parameters with error | packet' <;> rw [hnew] at h
  · cases h
  · cases h
    exact (CommandPacket.of_new hnew).1

/-- A command that succeeds was completed. -/
theorem sat_sendComplete (command : CommandPacket) :
    Exec.Sat start.Knows (sendComplete command) fun result io => start.Knows io ∧
      ∀ response, result = .ok response → start.Completes command.opcode response := by
  refine Exec.Sat.bind (knows_send _) (fun _ => ?_) ?_
  · intro io hio
    obtain ⟨hrest, hanswer⟩ := awaitAnswer_mem (commandAnswer command.opcode) io.answers
    rw [← awaitComplete_eq] at hrest hanswer
    refine ⟨fun event hmem => hio event (hrest _ hmem), fun response hresponse => ?_⟩
    obtain ⟨packet, hmem, hpacket⟩ := hanswer response hresponse
    obtain ⟨event, rfl, hanswered⟩ := commandAnswer_ok hpacket
    exact ⟨event, hio event hmem, hanswered⟩
  · intro error io hio
    refine ⟨hio, ?_⟩
    rintro _ ⟨⟩

theorem sat_complete (opcode : UInt16) (parameters : Bytes) :
    Exec.Sat start.Knows (complete opcode parameters) fun result io => start.Knows io ∧
      ∀ response, result = .ok response → start.Completes opcode response := by
  refine Exec.Sat.bind (Q := fun result io => start.Knows io ∧
    result = command opcode parameters) (fun io hio => ⟨hio, rfl⟩) (fun packet => ?_) ?_
  · rintro io ⟨hio, hpacket⟩
    rw [← opcode_of_command hpacket.symm]
    exact sat_sendComplete packet io hio
  · rintro error io ⟨hio, -⟩
    refine ⟨hio, ?_⟩
    rintro _ ⟨⟩

theorem knows_sendVendor (command : CsrVendorCommand) :
    Exec.Keeps (UsbBus.Knows start) (sendVendor command) :=
  (Exec.keeps_lift _).bind fun _ => knows_send _

namespace UsbIdentitySession

/-- What is done in a session that is open. -/
theorem sat_ioMut {α : Type} {m : Exec HciIo Error α} {A : Except Error α → Prop}
    (h : Exec.Sat start.Knows m fun result io => start.Knows io ∧ A result)
    (hclosed : A (.error (.new .closed))) (number : ℕ) :
    Exec.Sat start.Later (ioMut number m) fun result bus => start.Later bus ∧ A result := by
  intro bus hbus
  rw [ioMut]
  rcases hio : io number bus with _ | controller
  · rw [Exec.zoomOption_none hio]
    exact ⟨hbus, hclosed⟩
  rw [Exec.zoomOption_some hio]
  have hmem : some controller ∈ bus.sessions := by
    rw [io, Option.join_eq_some_iff] at hio
    exact List.mem_of_getElem? hio
  obtain ⟨hknows, hresult⟩ := h controller (hbus.sessions controller hmem)
  refine ⟨⟨hbus.attempts, fun io' hmem' => ?_⟩, hresult⟩
  -- Only this session has changed.
  rcases List.mem_or_eq_of_mem_set hmem' with hmem' | heq
  · exact hbus.sessions io' hmem'
  · cases heq
    exact hknows

theorem sat_readCompany (number : ℕ) :
    Exec.Sat start.Later (readCompany number) fun _ bus => start.Later bus := by
  refine (sat_ioMut (A := fun _ => True) ?_ trivial number).mono (fun _ h => h) fun _ _ h => h.1
  refine Exec.Sat.bind (sat_complete _ _) (fun response => ?_) fun error io h => ⟨h.1, trivial⟩
  -- The version is read from the answer, and the controller is not asked again.
  have hparse : Exec.Keeps start.Knows (do
      pure (← Exec.lift (parseVersion response)).companyIdentifier : Exec HciIo Error UInt16) :=
    Exec.Keeps.bind (Exec.keeps_lift _) fun _ => Exec.keeps_pure _
  intro io hio
  exact ⟨hparse io hio.1, trivial⟩

theorem sat_readAddress (number : ℕ) :
    Exec.Sat start.Later (readAddress number) fun result bus => start.Later bus ∧
      ∀ address, result = .ok address → start.Completes hciReadBdAddr address.toList.reverse := by
  refine sat_ioMut ?_ (by rintro _ ⟨⟩) number
  refine Exec.Sat.bind (sat_complete _ _) (fun response => ?_) ?_
  · rintro io ⟨hio, hcompletes⟩
    split
    · refine ⟨hio, ?_⟩
      rintro address ⟨⟩
      simpa [displayOrder] using hcompletes response rfl
    · refine ⟨hio, ?_⟩
      rintro _ ⟨⟩
  · rintro error io ⟨hio, -⟩
    refine ⟨hio, ?_⟩
    rintro _ ⟨⟩

theorem sat_sendVendorCommand (number : ℕ) (command : CsrVendorCommand) :
    Exec.Sat start.Later (sendVendorCommand number command) fun result bus => start.Later bus ∧
      ∀ response, result = .ok response → start.Answers command response := by
  refine sat_ioMut ?_ (by rintro _ ⟨⟩) number
  refine Exec.Sat.bind (knows_sendVendor command) (fun _ => ?_) ?_
  · intro io hio
    obtain ⟨hrest, hanswer⟩ := awaitAnswer_mem (vendorAnswer command) io.answers
    refine ⟨fun event hmem => hio event (hrest _ hmem), fun response hresponse => ?_⟩
    obtain ⟨packet, hmem, hpacket⟩ := hanswer response hresponse
    obtain ⟨event, rfl, hcode, hmatches, hparameters⟩ := vendorAnswer_ok hpacket
    exact ⟨event, hio event hmem, hcode, hmatches, hparameters⟩
  · intro error io hio
    refine ⟨hio, ?_⟩
    rintro _ ⟨⟩

theorem later_close (number : ℕ) : Exec.Keeps start.Later (close number) := by
  intro bus hbus
  rw [close]
  split
  · exact hbus
  refine ⟨hbus.attempts, fun io' hmem => ?_⟩
  rcases List.mem_or_eq_of_mem_set hmem with hmem | heq
  · exact hbus.sessions io' hmem
  · cases heq

end UsbIdentitySession

/-- The attempts that are left are the last of those there were. -/
theorem sat_openUsb : Exec.Sat start.Later openUsb fun result bus => start.Later bus ∧
    ∀ controller, result = .ok controller → start.Knows controller.io := by
  rintro bus hbus
  rw [openUsb]
  rcases hattempts : bus.attempts with _ | ⟨attempt, attempts⟩
  · refine ⟨hbus, ?_⟩
    rintro _ ⟨⟩
  have hsuffix := hbus.attempts
  rw [hattempts] at hsuffix
  refine ⟨⟨(List.suffix_cons attempt attempts).trans hsuffix, hbus.sessions⟩, ?_⟩
  intro controller hcontroller event hmem
  dsimp only at hcontroller
  refine ⟨attempt, hsuffix.subset List.mem_cons_self, controller, ?_, hmem⟩
  rcases hattempt : attempt.controller with _ | controller' <;> rw [hattempt] at hcontroller
  · cases hcontroller
  · cases hcontroller
    rfl

theorem later_openIdentitySession : Exec.Keeps start.Later openIdentitySession := by
  refine Exec.Sat.bind sat_openUsb (fun controller => ?_) fun error bus h => h.1
  rintro bus ⟨hbus, hknows⟩
  refine ⟨hbus.attempts, fun io hmem => ?_⟩
  rcases List.mem_append.mp hmem with hmem | hmem
  · exact hbus.sessions io hmem
  · cases List.mem_singleton.mp hmem
    exact hknows controller rfl

/-- **A preparation on the bus** records what adapters say. -/
theorem recorded_usbIdentityBackend (start : UsbBus) :
    Recorded usbIdentityBackend start.Later (Said start) := by
  -- Only two kinds of calls report what an adapter said.
  have hsilent {action : IdentityAction Error} (hread : ∀ number result,
      action ≠ .addressRead number result) (hvendor : ∀ number command result,
      action ≠ .vendorCommandSent number command result) : Said start action :=
    ⟨fun number address h => absurd h (hread _ _), fun number command response h =>
      absurd h (hvendor _ _ _)⟩
  constructor
  · intro number bus hbus
    refine ⟨later_openIdentitySession bus hbus, ?_⟩
    rcases (usbIdentityBackend.openSession bus).1 with error | session <;>
      exact hsilent (by rintro _ _ ⟨⟩) (by rintro _ _ _ ⟨⟩)
  · intro duration bus hbus
    exact ⟨hbus.attempts, hbus.sessions⟩
  · intro duration
    exact hsilent (by rintro _ _ ⟨⟩) (by rintro _ _ _ ⟨⟩)
  · intro session timeout number bus hbus
    exact ⟨UsbIdentitySession.sat_readCompany session bus hbus,
      hsilent (by rintro _ _ ⟨⟩) (by rintro _ _ _ ⟨⟩)⟩
  · intro session timeout number bus hbus
    obtain ⟨hlater, haddress⟩ := UsbIdentitySession.sat_readAddress session bus hbus
    refine ⟨hlater, ?_, by rintro _ _ _ ⟨⟩⟩
    intro number' address h
    injection h with _ h
    exact haddress address h
  · intro session command timeout number bus hbus
    obtain ⟨hlater, hresponse⟩ := UsbIdentitySession.sat_sendVendorCommand session command bus hbus
    refine ⟨hlater, by rintro _ _ ⟨⟩, ?_⟩
    intro number' command' response h
    injection h with _ hcommand h
    exact hcommand ▸ hresponse response h
  · intro session command number bus hbus
    refine ⟨?_, hsilent (by rintro _ _ ⟨⟩) (by rintro _ _ _ ⟨⟩)⟩
    exact (UsbIdentitySession.sat_ioMut (A := fun _ => True)
      (fun io hio => ⟨knows_sendVendor command io hio, trivial⟩) trivial session bus hbus).1
  · intro session number bus hbus
    exact ⟨UsbIdentitySession.later_close session bus hbus,
      hsilent (by rintro _ _ ⟨⟩) (by rintro _ _ _ ⟨⟩)⟩

end Said

/-! ### The address of the adapter -/

theorem BluetoothAddress.reverse_adapterAddress (address : BluetoothAddress) :
    address.adapterAddress.toList.reverse = address.asLeBytes := by
  simp [adapterAddress, UsbIdentitySession.displayOrder]

/-- A call of a preparation read the address. -/
def AddressRead (target : BluetoothAddress) (trace : List (IdentityAction Error)) : Prop :=
  ∃ number, .addressRead number (.ok target.adapterAddress) ∈ trace

/-- The address was written, the write was answered with status zero, and a later call read the
address. -/
def AddressWritten (target : BluetoothAddress) (trace : List (IdentityAction Error)) : Prop :=
  ∃ before first response after,
    trace = before ++
      .vendorCommandSent first (writeCommand target.adapterAddress) (.ok response) :: after ∧
    parseCsrBccmdResponse response = .ok 0 ∧ AddressRead target after

/-- What an opening says about the address of the adapter. The record ends before the session on
the adapter is opened. -/
structure SettlesAddress (bus : UsbBus) (identity : LocalIdentity)
    (trace : List (IdentityAction Error)) (result : Except OpenStop (BackendSession S)) : Prop where
  /-- Only an address that was asked for is written, and at most once. -/
  untouched : identity = .adapterDefault → trace = []
  /-- Each address and each answer in the record is what an adapter said. -/
  said : ∀ action ∈ trace, Said bus action
  writes : trace.countP (·.isWrite) ≤ 1
  command : ∀ action ∈ trace, action.isWrite = true → ∃ target number answer,
    identity = .explicit target ∧
      action = .vendorCommandSent number (writeCommand target.adapterAddress) answer
  /-- An open session has the address that was asked for, and an adapter said so before. -/
  opened : ∀ target session, identity = .explicit target → result = .ok session →
    session.capabilities.localAddress = target ∧ AddressRead target trace ∧
      bus.Completes hciReadBdAddr target.asLeBytes
  /-- A failure after a write asks for a recovery, unless an adapter answered the write with status
  zero and the address was read back. -/
  settled : (∃ action ∈ trace, action.isWrite = true) → ∀ target, identity = .explicit target →
    result = .error .waiting ∨
      (∃ stop, result = .error stop ∧ stop.kind? = some .adapterIdentityRecoveryRequired) ∨
      AddressWritten target trace ∧
        (∃ response, bus.Answers (writeCommand target.adapterAddress) response ∧
          parseCsrBccmdResponse response = .ok 0) ∧ bus.Completes hciReadBdAddr target.asLeBytes
  /-- No recovery is asked for without a write. -/
  recovery : ∀ stop, result = .error stop →
    stop.kind? = some .adapterIdentityRecoveryRequired → ∃ action ∈ trace, action.isWrite = true
  /-- A mismatch is reported of an adapter that had the address and to which nothing was written. -/
  mismatch : ∀ stop, result = .error stop → stop.kind? = some .identityMismatch →
    (∀ action ∈ trace, action.isWrite = false) ∧
      ∃ target, identity = .explicit target ∧ AddressRead target trace ∧
        bus.Completes hciReadBdAddr target.asLeBytes

/-- The driver records no call of a preparation, and fails plainly. -/
theorem openDriver_spec [BondStore S] (config : SessionConfig) (bonds : S)
    (run : IdentityRun UsbBus Error) :
    (openDriver config bonds run).2.trace = run.trace ∧
      ∀ stop, (openDriver config bonds run).1 = .error stop →
        ∃ error, stop = .failed error ∧ IsPlain error := by
  have hopen : ∀ error, (openUsb run.env).1 = .error error → IsPlain error := by
    intro error herror
    rw [openUsb] at herror
    split at herror
    · cases herror
      exact isPlain_withSource _ (by decide)
    · dsimp only at herror
      split at herror
      · cases herror
        exact isPlain_withSource _ (by decide)
      · cases herror
  have hzoom : Exec.mapError OpenStop.failed (Exec.zoom (·.env)
      (fun bus (run : IdentityRun UsbBus Error) => { run with env := bus }) openUsb) run =
      ((openUsb run.env).1.mapError .failed, { run with env := (openUsb run.env).2 }) := rfl
  rw [openDriver]
  -- The adapter cannot be opened, or the session on it is initialized.
  rcases hopened : (openUsb run.env).1 with error | controller <;> rw [hopened] at hzoom
  · rw [Exec.bind_error hzoom]
    refine ⟨rfl, ?_⟩
    rintro _ ⟨⟩
    exact ⟨error, rfl, hopen error hopened⟩
  rw [Exec.bind_ok hzoom]
  refine ⟨rfl, fun stop hstop => ?_⟩
  rcases hsession : initializeSession controller.io config bonds with error | session
  · rw [Exec.lift_apply, hsession] at hstop
    cases hstop
    exact ⟨error, rfl, plain_initializeSession controller config bonds error hsession⟩
  · rw [Exec.lift_apply, hsession] at hstop
    cases hstop

theorem clockRuns_usbIdentityBackend : ClockRuns usbIdentityBackend where
  sleep _ _ := Nat.le_refl _
  opening bus := by
    have hclock : bus.clock ≤ (openUsb bus).2.clock := by
      rw [openUsb]
      split
      · exact Nat.le_refl _
      · exact Nat.le_add_right _ _
    have hsession : (openIdentitySession bus).2.clock = (openUsb bus).2.clock := by
      rw [openIdentitySession, Exec.bind_apply]
      rcases openUsb bus with ⟨error | controller, bus'⟩ <;> rfl
    change bus.clock ≤ (openIdentitySession bus).2.clock
    omega

section Explicit

variable {target : BluetoothAddress} {attempts : ℕ} {bus : UsbBus}

/-- The preparation of an address on the bus: its promises, and what adapters said. -/
theorem preparation_said (target : AdapterAddress) (attempts : ℕ) {bus : UsbBus}
    (hbus : bus.sessions = []) :
    ∀ action ∈ (prepareAdapterIdentity usbIdentityBackend target preparationOptions attempts
      ⟨bus, []⟩).2.trace, Said bus action := by
  refine ((recorded_usbIdentityBackend bus).keeps_prepare target preparationOptions attempts
    ⟨bus, []⟩ ⟨⟨List.suffix_rfl, ?_⟩, ?_⟩).2
  · intro io hmem
    rw [hbus] at hmem
    cases hmem
  · intro action hmem
    exact absurd hmem List.not_mem_nil

/-- A preparation that has succeeded read the address, and what it wrote was answered. -/
theorem FailsClosed.prepared {trace : List (IdentityAction Error)}
    {preparation : AdapterIdentityPreparation}
    (h : FailsClosed target.adapterAddress trace (.ok preparation))
    (hsaid : ∀ action ∈ trace, Said bus action) :
    AddressRead target trace ∧ bus.Completes hciReadBdAddr target.asLeBytes ∧
      (preparation = .rewritten ∧ (∃ action ∈ trace, action.isWrite = true) ∧
          AddressWritten target trace ∧
          (∃ response, bus.Answers (writeCommand target.adapterAddress) response ∧
            parseCsrBccmdResponse response = .ok 0) ∨
        preparation = .alreadyActive ∧ ∀ action ∈ trace, action.isWrite = false) := by
  have hread {number : ℕ} (hmem : .addressRead number (.ok target.adapterAddress) ∈ trace) :
      AddressRead target trace ∧ bus.Completes hciReadBdAddr target.asLeBytes :=
    ⟨⟨number, hmem⟩, target.reverse_adapterAddress ▸ (hsaid _ hmem).1 number _ rfl⟩
  cases preparation with
  | alreadyActive =>
    obtain ⟨hmem, hnone⟩ := h.active rfl
    obtain ⟨hrecord, hcompletes⟩ := hread hmem
    exact ⟨hrecord, hcompletes, .inr ⟨rfl, fun action haction => (hnone action haction).1⟩⟩
  | rewritten =>
    obtain ⟨before, after, first, response, number, rfl, hparse, -, -, hmem, -⟩ := h.rewritten rfl
    have hwrite : .vendorCommandSent first (writeCommand target.adapterAddress) (.ok response) ∈
        before ++
          .vendorCommandSent first (writeCommand target.adapterAddress) (.ok response) :: after :=
      List.mem_append_right _ List.mem_cons_self
    obtain ⟨hrecord, hcompletes⟩ :=
      hread (List.mem_append_right _ (List.mem_cons_of_mem _ hmem))
    refine ⟨hrecord, hcompletes, .inl ⟨rfl, ⟨_, hwrite, rfl⟩, ?_, ?_⟩⟩
    · exact ⟨before, first, response, after, rfl, hparse, number, hmem⟩
    · exact ⟨response, (hsaid _ hwrite).2 first _ response rfl, hparse⟩

/-- The preparation has not succeeded. -/
theorem FailsClosed.settles_stopped {trace : List (IdentityAction Error)} {stop : IdentityStop}
    (h : FailsClosed target.adapterAddress trace (.error stop))
    (hsaid : ∀ action ∈ trace, Said bus action) :
    SettlesAddress (S := S) bus (.explicit target) trace (.error (mapIdentityError stop)) where
  untouched := by
    rintro ⟨⟩
  said := hsaid
  writes := h.writes
  command action haction hwrite := by
    obtain ⟨number, answer, hcommand⟩ := h.command action haction hwrite
    exact ⟨target, number, answer, rfl, hcommand⟩
  opened := by
    rintro _ _ _ ⟨⟩
  settled hwritten _ _ := by
    rcases h.written hwritten with hresult | hresult | ⟨stage, hresult⟩
    · cases hresult
    · cases hresult
      exact .inl rfl
    · cases hresult
      exact .inr (.inl ⟨_, rfl, rfl⟩)
  recovery := by
    rintro _ ⟨⟩ hkind
    by_contra hnone
    -- Of the errors of a preparation only one is reported so, and it follows a write.
    rcases stop with ⟨kind, stage⟩ | _
    · cases kind with
      | unsupportedController | failedBeforeWrite => cases hkind
      | recoveryRequired =>
        refine h.unwritten (fun action haction => ?_) stage rfl
        exact Bool.eq_false_iff.mpr fun hwrite => hnone ⟨action, haction, hwrite⟩
    · cases hkind
  mismatch := by
    rintro _ ⟨⟩ hkind
    rcases stop with ⟨kind, stage⟩ | _
    · cases kind <;> cases hkind
    · cases hkind

/-- The preparation has succeeded, and the session is open or not. -/
theorem FailsClosed.settles_prepared {trace : List (IdentityAction Error)}
    {preparation : AdapterIdentityPreparation}
    (h : FailsClosed target.adapterAddress trace (.ok preparation))
    (hsaid : ∀ action ∈ trace, Said bus action) {result : Except OpenStop (BackendSession S)}
    (hopened : ∀ session, result = .ok session → session.capabilities.localAddress = target)
    (hfailed : ∀ stop, result = .error stop → (∃ error, stop = .failed error ∧ IsPlain error) ∨
      stop = .failed (.new (identityMismatchKind (some preparation)))) :
    SettlesAddress bus (.explicit target) trace result := by
  obtain ⟨hrecord, hread, hprepared⟩ := h.prepared hsaid
  constructor
  · rintro ⟨⟩
  · exact hsaid
  · exact h.writes
  · intro action haction hwrite
    obtain ⟨number, answer, hcommand⟩ := h.command action haction hwrite
    exact ⟨target, number, answer, rfl, hcommand⟩
  · rintro _ session ⟨⟩ hresult
    exact ⟨hopened session hresult, hrecord, hread⟩
  · rintro ⟨action, haction, hwrite⟩ _ ⟨⟩
    rcases hprepared with ⟨-, -, hwritten, hanswer⟩ | ⟨-, hnone⟩
    · exact .inr (.inr ⟨hwritten, hanswer, hread⟩)
    · rw [hnone action haction] at hwrite
      cases hwrite
  · intro stop hresult hkind
    rcases hfailed stop hresult with ⟨error, rfl, hplain⟩ | rfl
    · exact absurd (Option.some.inj hkind) hplain.1
    · -- The controller has another address: what was written is uncertain again.
      rcases hprepared with ⟨-, hwritten, -⟩ | ⟨rfl, -⟩
      · exact hwritten
      · cases hkind
  · intro stop hresult hkind
    rcases hfailed stop hresult with ⟨error, rfl, hplain⟩ | rfl
    · exact absurd (Option.some.inj hkind) hplain.2
    · rcases hprepared with ⟨rfl, -, -⟩ | ⟨-, hnone⟩
      · cases hkind
      · exact ⟨hnone, target, rfl, hrecord, hread⟩

end Explicit

/-- Nothing is prepared. -/
theorem settlesAddress_unprepared {bus : UsbBus} {identity : LocalIdentity}
    {result : Except OpenStop (BackendSession S)}
    (hopened : ∀ session, result = .ok session → identity = .adapterDefault)
    (hfailed : ∀ stop, result = .error stop → ∃ error, stop = .failed error ∧ IsPlain error) :
    SettlesAddress bus identity [] result where
  untouched _ := rfl
  said action haction := absurd haction List.not_mem_nil
  writes := Nat.zero_le 1
  command action haction := absurd haction List.not_mem_nil
  opened target session hidentity hresult := by
    rw [hopened session hresult] at hidentity
    cases hidentity
  settled := by
    rintro ⟨action, haction, -⟩
    exact absurd haction List.not_mem_nil
  recovery stop hresult hkind := by
    obtain ⟨error, rfl, hplain⟩ := hfailed stop hresult
    exact absurd (Option.some.inj hkind) hplain.1
  mismatch stop hresult hkind := by
    obtain ⟨error, rfl, hplain⟩ := hfailed stop hresult
    exact absurd (Option.some.inj hkind) hplain.2

/-- **An opening settles the address of the adapter**, whatever is found on the bus and whatever
the adapters there say: an open session has the address that was asked for, which was read before;
a failure after a write asks for a recovery unless the write was answered and the address read back
after it; and none asks for one without a write. With a hundred rounds of waiting it returns. -/
theorem opening_settles_address [BondStore S] (config : SessionConfig) (identity : LocalIdentity)
    (attempts : ℕ) (bonds : S) (found : List UsbAttempt) (clock : ℕ) :
    SettlesAddress (.start found clock) identity
        (openSession config identity attempts bonds ⟨.start found clock, []⟩).2.trace
        (openSession config identity attempts bonds ⟨.start found clock, []⟩).1 ∧
      (100 ≤ attempts →
        (openSession config identity attempts bonds ⟨.start found clock, []⟩).1 ≠
          .error .waiting) := by
  have hbus : (UsbBus.start found clock).sessions = [] := rfl
  generalize UsbBus.start found clock = bus at hbus
  cases identity with
  | adapterDefault =>
    obtain ⟨htrace, hfailed⟩ := openDriver_spec config bonds ⟨bus, []⟩
    rw [openSession, htrace]
    refine ⟨settlesAddress_unprepared (fun _ _ => rfl) hfailed, fun _ hwaiting => ?_⟩
    obtain ⟨error, hstop, -⟩ := hfailed _ hwaiting
    cases hstop
  | explicit target =>
    have hexit := (prepareAdapterIdentity_exit usbIdentityBackend target.adapterAddress
      preparationOptions attempts bus).failsClosed
    have hsaid := preparation_said target.adapterAddress attempts hbus
    rw [openSession, prepareExplicitIdentity]
    by_cases hkind : target.kind = .pub
    swap
    · -- An address that is not public is refused before the adapter is opened.
      rw [if_pos hkind]
      refine ⟨settlesAddress_unprepared (by rintro _ ⟨⟩) ?_, fun _ => by rintro ⟨⟩⟩
      rintro _ ⟨⟩
      exact ⟨_, rfl, isPlain_new (by decide)⟩
    rw [if_neg (not_not.mpr hkind)]
    have hreturns : 100 ≤ attempts → (prepareAdapterIdentity usbIdentityBackend
        target.adapterAddress preparationOptions attempts ⟨bus, []⟩).1 ≠ .error .waiting := by
      intro hattempts
      -- A hundred rounds of 100 milliseconds are the ten seconds of the deadline.
      refine settles_prepareAdapterIdentity _ _ _ clockRuns_usbIdentityBackend (by omega) ?_ _
      change 10000000000 ≤ attempts * 100000000
      omega
    have hmap := Exec.mapError_apply mapIdentityError (prepareAdapterIdentity usbIdentityBackend
      target.adapterAddress preparationOptions attempts) ⟨bus, []⟩
    generalize prepareAdapterIdentity usbIdentityBackend target.adapterAddress preparationOptions
      attempts ⟨bus, []⟩ = outcome at hexit hsaid hreturns hmap
    rcases outcome with ⟨stop | preparation, run⟩
    · -- Nothing follows a preparation that has not succeeded.
      rw [Exec.bind_error hmap]
      refine ⟨hexit.settles_stopped hsaid, fun hattempts hwaiting => hreturns hattempts ?_⟩
      cases stop with
      | failed error => cases hwaiting
      | waiting => rfl
    · rw [Exec.bind_ok hmap]
      obtain ⟨htrace, hfailed⟩ := openDriver_spec config bonds run
      rcases hdriver : openDriver config bonds run with ⟨stop | driver, run'⟩ <;>
        rw [hdriver] at htrace hfailed
      · obtain ⟨error, rfl, hplain⟩ := hfailed stop rfl
        rw [Exec.bind_error hdriver, htrace]
        refine ⟨hexit.settles_prepared hsaid (by rintro _ ⟨⟩) ?_, fun _ => by rintro ⟨⟩⟩
        rintro _ ⟨⟩
        exact .inl ⟨error, rfl, hplain⟩
      rw [Exec.bind_ok hdriver]
      -- The address of the controller decides.
      by_cases haddress : driver.capabilities.localAddress = target
      · rw [if_neg (not_not.mpr haddress), Exec.pure_apply, htrace]
        refine ⟨hexit.settles_prepared hsaid ?_ (by rintro _ ⟨⟩), fun _ => by rintro ⟨⟩⟩
        rintro _ ⟨⟩
        exact haddress
      · rw [if_pos haddress, Exec.fail_apply, htrace]
        refine ⟨hexit.settles_prepared hsaid (by rintro _ ⟨⟩) ?_, fun _ => by rintro ⟨⟩⟩
        rintro _ ⟨⟩
        exact .inr rfl

end ClassicHid
