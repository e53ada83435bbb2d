import ClassicHid.Foundation.Dialogue
import ClassicHid.HidpCodec

/-!
# The host of a HID device

The host side of HIDP, and a host and a device that exchange messages over a control channel with
a queue in each direction. Whatever the interleaving, what the host hears is what it would have got
by calling the delegate of the device itself, in the order of its requests.

## Main definitions

* `HostRuntime.handleControl`, `HostRuntime.handleInterrupt`: one message from the device
* `HostCall`: what a host can ask
* `HostCall.answer`: what a call gets from the delegate itself

## Main results

* `DeviceRuntime.serve_wire`: one message of the host is one call of the delegate
* `hidp_dialogue`: what a host hears, whatever the interleaving
-/

namespace ClassicHid

open Foundation

inductive HostEvent
  | handshake (result : OpenByte)
  | controlData (reportType : OpenByte) (data : Bytes)
  | interruptData (reportType : OpenByte) (data : Bytes)
  | virtualCableUnplug
  | unsupported (message : Message)
  deriving DecidableEq, Repr

namespace HostRuntime

def getReport (reportType : OpenByte) (reportId : UInt8) (bufferSize : Option UInt16) : Message :=
  .getReport reportType reportId bufferSize

def setReport (reportType : OpenByte) (data : Bytes) : Message := .setReport reportType data

def getProtocol : Message := .getProtocol

def setProtocol (mode : OpenByte) : Message := .setProtocol mode

def suspend : Message := .control ControlCommand.suspend

def exitSuspend : Message := .control ControlCommand.exitSuspend

def virtualCableUnplug : Message := .control ControlCommand.virtualCableUnplug

def sendData (data : Bytes) : Message := .data ReportType.outputReport data

/-- What a message on the control channel tells. -/
def controlEvent : Message → HostEvent
  | .handshake result => .handshake result
  | .data reportType data => .controlData reportType data
  | .control command =>
    if command = ControlCommand.virtualCableUnplug then .virtualCableUnplug
    else .unsupported (.control command)
  | message => .unsupported message

def handleControl (bytes : Bytes) : Except HidpError HostEvent := do
  pure (controlEvent (← Message.fromBytes bytes))

def handleInterrupt (bytes : Bytes) : Except HidpError HostEvent := do
  match ← Message.fromBytes bytes with
  | .data reportType data => pure (.interruptData reportType data)
  | message => pure (.unsupported message)

end HostRuntime

/-! ### Calls -/

/-- The bytes of a message, if it has a wire form. -/
def Message.wire (message : Message) : Bytes := message.toBytes.toOption.getD []

theorem Message.WellFormed.wire {message : Message} (h : message.WellFormed) :
    message.toBytes = .ok message.wire ∧ Message.fromBytes message.wire = .ok message := by
  obtain ⟨bytes, hbytes, hread⟩ := Message.fromBytes_toBytes h
  rw [Message.wire, hbytes]
  exact ⟨rfl, hread⟩

/-- What a host can ask on the control channel. -/
inductive HostCall
  | getReport (reportType : OpenByte) (reportId : UInt8) (bufferSize : Option UInt16)
  | setReport (reportType : OpenByte) (reportId : UInt8) (report : Bytes)
  | getProtocol
  | setProtocol (mode : OpenByte)
  | suspend
  | exitSuspend
  | virtualCableUnplug
  | sendData (data : Bytes)

namespace HostCall

def message : HostCall → Message
  | getReport reportType reportId bufferSize =>
    HostRuntime.getReport reportType reportId bufferSize
  | setReport reportType reportId report => HostRuntime.setReport reportType (reportId :: report)
  | getProtocol => HostRuntime.getProtocol
  | setProtocol mode => HostRuntime.setProtocol mode
  | suspend => HostRuntime.suspend
  | exitSuspend => HostRuntime.exitSuspend
  | virtualCableUnplug => HostRuntime.virtualCableUnplug
  | sendData data => HostRuntime.sendData data

/-- The fields of the call fit the header of its message. -/
def Valid (call : HostCall) : Prop := call.message.WellFormed

instance (call : HostCall) : Decidable call.Valid :=
  inferInstanceAs (Decidable call.message.WellFormed)

/-- The bytes of a call. -/
def wire (call : HostCall) : Bytes := call.message.wire

variable {D : Type} [DeviceDelegate D]

/-- What a call gets when it is made to the delegate itself: the answer, if there is one, and the
delegate after it. -/
def answer (controlPeerMtu : ℕ) : HostCall → D → Option Message × D
  | getReport reportType reportId bufferSize, delegate =>
    let (result, delegate) := DeviceDelegate.getReport reportId reportType bufferSize delegate
    (some (DeviceRuntime.reportResponse controlPeerMtu reportType reportId result), delegate)
  | setReport reportType reportId report, delegate =>
    let (result, delegate) :=
      DeviceDelegate.setReport reportId reportType (report.length + 1) report delegate
    (some (.handshake (DeviceRuntime.setReportHandshake result)), delegate)
  | getProtocol, delegate =>
    let (result, delegate) := DeviceDelegate.getProtocol delegate
    (some (if result.status = GetSetReturn.success then .data ReportType.otherReport result.data
      else .handshake Handshake.errUnsupportedRequest), delegate)
  | setProtocol mode, delegate =>
    let (result, delegate) := DeviceDelegate.setProtocol mode delegate
    (some (.handshake (if result.status = GetSetReturn.success then Handshake.successful
      else Handshake.errUnsupportedRequest)), delegate)
  | _, delegate => (none, delegate)

/-- The calls of a host, served one after the other by the delegate itself. -/
def serve (controlPeerMtu : ℕ) (call : HostCall) (delegate : D) : List Message × D :=
  ((call.answer controlPeerMtu delegate).1.toList, (call.answer controlPeerMtu delegate).2)

/-- The answers of the delegate are messages that can be sent. -/
theorem wellFormed_answer {call : HostCall} (h : call.Valid) (controlPeerMtu : ℕ) (delegate : D) :
    ∀ message ∈ (call.answer controlPeerMtu delegate).1, message.WellFormed := by
  cases call with
  | getReport reportType reportId bufferSize =>
    rintro _ ⟨⟩
    rw [DeviceRuntime.reportResponse]
    split
    · split
      · exact h
      · decide
    · split
      · decide
      · split
        · decide
        · split <;> decide
  | setReport reportType reportId report =>
    rintro _ ⟨⟩
    rw [DeviceRuntime.setReportHandshake]
    split
    · decide
    · split
      · decide
      · split <;> decide
  | getProtocol =>
    rintro _ ⟨⟩
    split
    · exact (by decide : ReportType.otherReport < 4)
    · decide
  | setProtocol mode =>
    rintro _ ⟨⟩
    split <;> decide
  | _ => rintro _ ⟨⟩

end HostCall

/-! ### The device on the wire -/

/-- The bytes that a device sends on the control channel. -/
def DeviceEvent.reply? : DeviceEvent → Option Bytes
  | .sendControl message => message.toBytes.toOption
  | _ => none

namespace DeviceRuntime

variable {D : Type} [DeviceDelegate D]

/-- One message from the host, and the messages sent back to it. -/
def serveControl (bytes : Bytes) (runtime : DeviceRuntime D) : List Bytes × DeviceRuntime D :=
  match handleControl bytes runtime with
  | (.ok events, runtime) => (events.filterMap DeviceEvent.reply?, runtime)
  | (.error _, runtime) => ([], runtime)

/-- The events of a call that reaches the device as it is. -/
theorem handleControl_wire {call : HostCall} (h : call.Valid) (runtime : DeviceRuntime D) :
    ∃ events, handleControl call.wire runtime = (.ok events, { runtime with
        delegate := (call.serve runtime.controlPeerMtu runtime.delegate).2 }) ∧
      events.filterMap DeviceEvent.reply? =
        (call.answer runtime.controlPeerMtu runtime.delegate).1.toList.filterMap
          (·.toBytes.toOption) := by
  have hread : Message.fromBytes call.wire = .ok call.message := (Message.WellFormed.wire h).2
  rw [handleControl, hread, Exec.lift_ok_bind, Exec.get_bind]
  cases call with
  | getReport reportType reportId bufferSize => exact ⟨_, rfl, rfl⟩
  | setReport reportType reportId report => exact ⟨_, rfl, rfl⟩
  | getProtocol => exact ⟨_, rfl, rfl⟩
  | setProtocol mode => exact ⟨_, rfl, rfl⟩
  | suspend => exact ⟨_, rfl, rfl⟩
  | exitSuspend => exact ⟨_, rfl, rfl⟩
  | virtualCableUnplug => exact ⟨_, rfl, rfl⟩
  | sendData data => exact ⟨_, rfl, rfl⟩

/-- **One message of the host is one call of the delegate**: the device sends back what the
delegate answers to the call, and leaves it as the call does. -/
theorem serve_wire {call : HostCall} (h : call.Valid) (runtime : DeviceRuntime D) :
    serveControl call.wire runtime =
      ((call.serve runtime.controlPeerMtu runtime.delegate).1.map Message.wire,
        { runtime with delegate := (call.serve runtime.controlPeerMtu runtime.delegate).2 }) := by
  obtain ⟨events, hhandle, hevents⟩ := handleControl_wire h runtime
  have hanswer := HostCall.wellFormed_answer h runtime.controlPeerMtu runtime.delegate
  rw [serveControl, hhandle]
  dsimp only
  rw [hevents, HostCall.serve]
  refine congrArg (·, _) ?_
  generalize (call.answer runtime.controlPeerMtu runtime.delegate).1 = answer at hanswer
  cases answer with
  | none => rfl
  | some message =>
    have hwritten := (Message.WellFormed.wire (hanswer message rfl)).1
    simp [hwritten, Except.toOption]

end DeviceRuntime

/-! ### The dialogue -/

/-- What is heard of messages on the wire. -/
theorem mapM_handleControl_wire {messages : List Message} (h : ∀ m ∈ messages, m.WellFormed) :
    (messages.map Message.wire).mapM HostRuntime.handleControl =
      .ok (messages.map HostRuntime.controlEvent) := by
  induction messages with
  | nil => rfl
  | cons message messages ih =>
    have hhead : HostRuntime.handleControl message.wire =
        .ok (HostRuntime.controlEvent message) := by
      rw [HostRuntime.handleControl, (h message List.mem_cons_self).wire.2]
      rfl
    rw [List.map_cons, List.mapM_cons, hhead, ih fun m hm => h m (List.mem_cons_of_mem _ hm)]
    rfl

section Dialogue

variable {D : Type} [DeviceDelegate D] (controlPeerMtu : ℕ)

/-- All the answers of a delegate can be sent. -/
theorem wellFormed_replies {calls : List HostCall} (hcalls : ∀ call ∈ calls, call.Valid)
    (delegate : D) :
    ∀ message ∈ replies (HostCall.serve controlPeerMtu) calls delegate, message.WellFormed := by
  induction calls generalizing delegate with
  | nil => rintro _ ⟨⟩
  | cons call calls ih =>
    intro message hmessage
    rcases List.mem_append.mp hmessage with hmessage | hmessage
    · exact HostCall.wellFormed_answer (hcalls call List.mem_cons_self) controlPeerMtu delegate
        message (Option.mem_toList.mp hmessage)
    · exact ih (fun c hc => hcalls c (List.mem_cons_of_mem _ hc)) _ message hmessage

/-- The wire carries the calls of the host and the answers of the delegate. -/
theorem replies_wire {calls : List HostCall} (hcalls : ∀ call ∈ calls, call.Valid)
    (delegate : D) :
    replies DeviceRuntime.serveControl (calls.map HostCall.wire)
        (DeviceRuntime.new delegate controlPeerMtu) =
      (replies (HostCall.serve controlPeerMtu) calls delegate).map Message.wire ∧
    served DeviceRuntime.serveControl (calls.map HostCall.wire)
        (DeviceRuntime.new delegate controlPeerMtu) =
      DeviceRuntime.new (served (HostCall.serve controlPeerMtu) calls delegate) controlPeerMtu := by
  refine replies_map
    (R := fun delegate runtime => runtime = DeviceRuntime.new delegate controlPeerMtu) ?_ rfl
  rintro call hcall delegate _ rfl
  rw [DeviceRuntime.serve_wire (hcalls call hcall)]
  exact ⟨rfl, rfl⟩

/-- **What a host hears**: however the messages in both directions interleave, the host has heard
the first of the answers that the delegate gives to the calls of the host in their order; once
nothing is on its way it has heard all of them, and the delegate is as the calls leave it. -/
theorem hidp_dialogue (moves : List (Dialogue.Move HostCall))
    (hvalid : ∀ call, .ask call ∈ moves → call.Valid) (delegate : D) :
    let calls := moves.filterMap Dialogue.Move.asks
    let answers := (replies (HostCall.serve controlPeerMtu) calls delegate).map
      HostRuntime.controlEvent
    let d := Dialogue.run DeviceRuntime.serveControl
      (moves.map (Dialogue.Move.map HostCall.wire))
      { server := DeviceRuntime.new delegate controlPeerMtu }
    ∃ events, d.heard.mapM HostRuntime.handleControl = .ok events ∧ events <+: answers ∧
      (d.requests = [] → d.replies = [] → events = answers ∧
        d.server.delegate = served (HostCall.serve controlPeerMtu) calls delegate) := by
  intro calls answers d
  have hcalls : ∀ call ∈ calls, call.Valid := by
    intro call hcall
    obtain ⟨m, hm, hasks⟩ := List.mem_filterMap.mp hcall
    cases m <;> cases hasks
    exact hvalid call hm
  have hordered : d.Ordered DeviceRuntime.serveControl (.new delegate controlPeerMtu) :=
    Dialogue.ordered_run _ _ _
  have hasked : d.asked = calls.map HostCall.wire :=
    (Dialogue.asked_run _ _ _).trans (Dialogue.asks_map HostCall.wire moves)
  obtain ⟨hreplies, hserved⟩ := replies_wire controlPeerMtu hcalls delegate
  have hsendable := wellFormed_replies controlPeerMtu hcalls delegate
  -- What was heard are the wire forms of the first answers.
  obtain ⟨n, hheard⟩ : ∃ n, d.heard =
      ((replies (HostCall.serve controlPeerMtu) calls delegate).take n).map Message.wire := by
    have hprefix := hordered.heard_isPrefix
    rw [hasked, hreplies, List.prefix_iff_eq_take, ← List.map_take] at hprefix
    exact ⟨_, hprefix⟩
  refine ⟨((replies (HostCall.serve controlPeerMtu) calls delegate).take n).map
    HostRuntime.controlEvent, ?_, ?_, fun hrequests hwaiting => ?_⟩
  · rw [hheard]
    exact mapM_handleControl_wire fun m hm => hsendable m (List.mem_of_mem_take hm)
  · rw [List.map_take]
    exact List.take_prefix _ _
  · obtain ⟨hall, hserver⟩ := hordered.heard_eq hrequests hwaiting
    rw [hasked] at hall hserver
    rw [hreplies, hheard] at hall
    have hlength := congrArg List.length hall
    rw [List.length_map, List.length_map, List.length_take] at hlength
    refine ⟨?_, by rw [hserver, hserved]; rfl⟩
    rw [List.take_of_length_le (by omega)]

def GetSetStatus.success (data : Bytes) : GetSetStatus :=
  { data := data, status := GetSetReturn.success }

/-- A device that keeps one report, and answers with it. -/
structure StoredReport where
  report : Bytes

instance : DeviceDelegate StoredReport where
  getReport _ _ _ stored := (.success stored.report, stored)
  setReport _ _ _ report _ := (.success [], { report := report })

/-- The host sets a report and asks for it, before the device sees any of the two. -/
def sampleMoves : List (Dialogue.Move HostCall) :=
  [.ask (.setReport ReportType.outputReport 1 [7]),
    .ask (.getReport ReportType.outputReport 1 none), .serve, .hear, .serve, .hear]

theorem hidp_dialogue_sampleMoves :
    (Dialogue.run DeviceRuntime.serveControl (sampleMoves.map (Dialogue.Move.map HostCall.wire))
        { server := DeviceRuntime.new (StoredReport.mk []) 48 }).heard.mapM
          HostRuntime.handleControl =
      .ok [.handshake Handshake.successful, .controlData ReportType.outputReport [1, 7]] := by
  obtain ⟨events, hevents, -, hall⟩ := hidp_dialogue 48 sampleMoves (by
    intro call hcall
    simp only [sampleMoves, List.mem_cons, List.not_mem_nil, or_false, Dialogue.Move.ask.injEq,
      reduceCtorEq] at hcall
    rcases hcall with rfl | rfl <;> decide) (StoredReport.mk [])
  rw [hevents, (hall rfl rfl).1]
  rfl

end Dialogue

end ClassicHid
