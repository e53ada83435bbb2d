import ClassicHid.Foundation.Outbox
import ClassicHid.Session.Handling

/-!
# The outbox of a session

Whatever a session does, its controller sees the run of an outbox: a few commands of the session
itself are sent at once, the answers of the host to events and the fragments of its PDUs are due
until it is their turn, and when a link ends, what was due for it is dropped.

## Main definitions

* `ClassicHost.Asks`: the command with which the host answers an event
* `CommandPacket.IsOwn`: the commands of the session itself
* `sendRules`: what may enter the outbox of a session, and what may be dropped
* `World.outbox`: what a session sent and what it is about to send
* `Sending`: since some entry of the record, the session was the run of an outbox

## Main results

* `ClassicHost.handleEvent_outgoing`: what the host puts out for an event
* `handlePolledPacket_keeps`, `perform_keeps`: a packet and a call are runs of the outbox
-/

namespace ClassicHid

open Foundation BackendSession World

variable {S : Type}

/-! ### Rules -/

namespace ClassicHost

theorem length_linkKeyParameters_le (peer : BluetoothAddress) (bond : ClassicBond) :
    (peer.asLeBytes ++ bond.linkKey).length ≤ 255 := by
  simp [bond.length_linkKey]

theorem length_asLeBytes_le (peer : BluetoothAddress) : peer.asLeBytes.length ≤ 255 := by
  simp

/-- The answer to the request of a link key: the key of the bond, if there is one. -/
def linkKeyAnswer (peer : BluetoothAddress) : Option ClassicBond → CommandPacket
  | some bond => ⟨hciLinkKeyRequestReply, peer.asLeBytes ++ bond.linkKey,
      length_linkKeyParameters_le peer bond⟩
  | none => ⟨hciLinkKeyRequestNegativeReply, peer.asLeBytes, length_asLeBytes_le peer⟩

/-- The command with which a host with these bonds answers an event. -/
inductive Asks [BondStore S] (bonds : S) : ClassicEvent → CommandPacket → Prop
  | accept (peer : BluetoothAddress) : Asks bonds (.connectionRequest peer) (acceptCommand peer)
  | authenticate (status : UInt8) (handle : UInt16) (peer : BluetoothAddress) :
      Asks bonds (.connectionComplete status handle peer) (authenticationCommand handle)
  | linkKey {peer : BluetoothAddress} {bond : Option ClassicBond} :
      BondStore.load bonds peer = .ok bond →
      Asks bonds (.linkKeyRequest peer) (linkKeyAnswer peer bond)
  | ioCapability {peer : BluetoothAddress} {command : CommandPacket} :
      command.opcode = hciIoCapabilityRequestReply → command.parameters.length = 9 →
      Asks bonds (.ioCapabilityRequest peer) command
  | userConfirmation {peer : BluetoothAddress} {command : CommandPacket} :
      command.opcode = hciUserConfirmationRequestReply → command.parameters.length = 6 →
      Asks bonds (.userConfirmationRequest peer) command
  | encrypt {status : UInt8} {handle : UInt16} {command : CommandPacket} :
      command.opcode = hciSetConnectionEncryption → command.parameters.length = 3 →
      Asks bonds (.authenticationComplete status handle) command

end ClassicHost

/-- The commands of the session itself, by the number of their parameters. -/
def ownLength (opcode : UInt16) : Option ℕ :=
  if opcode = hciRejectConnectionRequest then some 7
  else if opcode = hciDisconnect then some 3
  else if opcode = hciWriteScanEnable then some 1
  else if opcode = hciWriteExtendedInquiryResponse then some 241
  else if opcode = hciCreateConnection then some 13
  else none

def CommandPacket.IsOwn (command : CommandPacket) : Prop :=
  ownLength command.opcode = some command.parameters.length

/-- Whether a packet carries data of the link with a handle. -/
def Packet.isDataOf (handle : UInt16) : Packet → Bool
  | .acl packet => packet.connectionHandle = handle
  | _ => false

/-- The rules by which a session sends: its own commands at once, the commands `asks` when it is
their turn, the fragments of a PDU behind all that is due. What is due for a link that ended is
dropped, and all that is due when the session is closed. -/
def sendRules (size : ℕ) (asks : CommandPacket → Prop) : Outbox.Rules Packet where
  direct packet := ∃ command : CommandPacket, command.IsOwn ∧ packet = .command command
  answer packet := ∃ command, asks command ∧ packet = .command command
  batch packets := ∃ handle pdu fragments,
    fragmentL2capPdu handle 0 size pdu false = .ok fragments ∧ packets = fragments.map .acl
  kept kept := (kept = fun _ => false) ∨ ∃ handle, kept = fun packet => !packet.isDataOf handle

/-! ### The outbox -/

/-- The packet that an output asks to be sent. -/
def HostOutput.packet? : HostOutput → Option Packet
  | .command packet => some (.command packet)
  | .acl packet => some (.acl packet)
  | .event _ => none

/-- The packets that a host wants to be sent: first those it has put out, then those that wait for
a credit. -/
def ClassicHost.due (host : ClassicHost S) : List Packet :=
  host.output.filterMap HostOutput.packet? ++ host.aclFlow.queued.map .acl

/-- What a session sent and what it is about to send: nothing, once its controller is gone. -/
def World.outbox (w : World S) : Outbox Packet where
  sent := packetsOut w.trace
  due := w.session.io.elim [] fun _ => w.session.host.due

/-- A host whose packets have come to be due by the rules. -/
structure ClassicHost.Outgoing (size : ℕ) (asks : CommandPacket → Prop) (start : Outbox Packet)
    (sent : List Packet) (host : ClassicHost S) : Prop where
  payloadSize : host.aclFlow.payloadSize = size
  steps : Outbox.Steps (sendRules size asks) start ⟨sent, host.due⟩

/-- A world that is reached from an outbox by the rules, and whose record continues another. -/
structure Sending (size : ℕ) (asks : CommandPacket → Prop) (start : Outbox Packet)
    (base : List (Entry S)) (w : World S) : Prop where
  continues : base <:+ w.trace
  payloadSize : w.session.host.aclFlow.payloadSize = size
  steps : Outbox.Steps (sendRules size asks) start w.outbox

theorem Sending.refl (asks : CommandPacket → Prop) (w : World S) :
    Sending w.session.host.aclFlow.payloadSize asks w.outbox w.trace w :=
  ⟨List.suffix_rfl, rfl, .refl⟩

/-! ### The host -/

namespace ClassicHost

/-- Events put out are no packets. -/
theorem filterMap_packet?_eq_nil {items : List HostOutput}
    (h : ∀ item ∈ items, item.packet? = none) : items.filterMap HostOutput.packet? = [] :=
  List.filterMap_eq_nil_iff.mpr h

theorem due_withoutHandle (handle : UInt16) (output : List HostOutput) :
    (withoutHandle handle output).filterMap HostOutput.packet? =
      (output.filterMap HostOutput.packet?).filter fun packet => !packet.isDataOf handle := by
  induction output with
  | nil => rfl
  | cons item output ih =>
    rw [withoutHandle] at ih ⊢
    cases item with
    | event => simpa [List.filterMap_cons, HostOutput.packet?] using ih
    | command => simpa [List.filterMap_cons, HostOutput.packet?, Packet.isDataOf] using ih
    | acl packet =>
      by_cases h : packet.connectionHandle = handle <;>
        simpa [List.filterMap_cons, HostOutput.packet?, Packet.isDataOf, h] using ih

theorem map_acl_filter (handle : UInt16) (packets : List AclPacket) :
    (packets.filter (·.connectionHandle ≠ handle)).map Packet.acl =
      (packets.map Packet.acl).filter fun packet => !packet.isDataOf handle := by
  rw [List.filter_map]
  refine congrArg _ (List.filter_congr fun packet _ => ?_)
  simp [Packet.isDataOf]

namespace Outgoing

variable {size : ℕ} {asks : CommandPacket → Prop} {start : Outbox Packet} {sent : List Packet}
  {host host' : ClassicHost S}

theorem congr (h : host.Outgoing size asks start sent) (hdue : host'.due = host.due)
    (hsize : host'.aclFlow.payloadSize = host.aclFlow.payloadSize) :
    host'.Outgoing size asks start sent :=
  ⟨hsize.trans h.payloadSize, hdue ▸ h.steps⟩

/-- A host that puts out something that is no packet. -/
theorem put (h : host.Outgoing size asks start sent) (items : List HostOutput)
    (hitems : ∀ item ∈ items, item.packet? = none) (houtput : host'.output = host.output ++ items)
    (hflow : host'.aclFlow = host.aclFlow) : host'.Outgoing size asks start sent := by
  refine h.congr ?_ (by rw [hflow])
  rw [due, houtput, hflow, List.filterMap_append, filterMap_packet?_eq_nil hitems, List.append_nil,
    due]

/-- A host that answers with a command. -/
theorem answer (h : host.Outgoing size asks start sent) {packet : CommandPacket}
    (hasks : asks packet) (items : List HostOutput) (hitems : ∀ item ∈ items, item.packet? = none)
    (houtput : host'.output = host.output ++ (items ++ [.command packet]))
    (hflow : host'.aclFlow = host.aclFlow) : host'.Outgoing size asks start sent := by
  refine ⟨hflow ▸ h.payloadSize, h.steps.tail ?_⟩
  have hdue : host'.due = host.output.filterMap HostOutput.packet? ++
      .command packet :: host.aclFlow.queued.map .acl := by
    rw [due, houtput, hflow, List.filterMap_append, List.filterMap_append,
      filterMap_packet?_eq_nil hitems]
    simp [HostOutput.packet?]
  rw [hdue]
  exact .answer ⟨packet, hasks, rfl⟩

/-- Packets for which there is a credit are put out. -/
theorem flush (h : host.Outgoing size asks start sent) {flow : AclFlow}
    (hqueued : flow.queued = host.aclFlow.queued)
    (hsize : flow.payloadSize = host.aclFlow.payloadSize)
    (houtput : host'.output = host.output ++ flow.flush.2.map .acl)
    (hflow : host'.aclFlow = flow.flush.1) : host'.Outgoing size asks start sent := by
  refine h.congr ?_ ?_
  · have hpackets (packets : List AclPacket) :
        (packets.map HostOutput.acl).filterMap HostOutput.packet? = packets.map .acl := by
      rw [List.filterMap_map, ← List.filterMap_eq_map]
      rfl
    rw [due, houtput, hflow, List.filterMap_append, hpackets, List.append_assoc, ← List.map_append,
      AclFlow.flush_queue, hqueued, due]
  · rw [hflow, AclFlow.payloadSize_flush, hsize]

/-- The data of a link is dropped. -/
theorem disconnected (h : host.Outgoing size asks start sent) (connection : Connection)
    (reason : UInt8) : (host.disconnected connection reason).Outgoing size asks start sent := by
  refine ⟨h.payloadSize, h.steps.tail ?_⟩
  have hdue : (host.disconnected connection reason).due =
      host.due.filter fun packet => !packet.isDataOf connection.handle := by
    rw [due, ClassicHost.disconnected, List.filterMap_append, due_withoutHandle, due,
      List.filter_append, ← map_acl_filter]
    simp [HostOutput.packet?, AclFlow.clearHandle]
  rw [hdue]
  exact .drop (.inr ⟨connection.handle, rfl⟩)

/-- A command of an answer is put out. -/
theorem queueCommand (h : host.Outgoing size asks start sent) {opcode : UInt16} {parameters : Bytes}
    (hle : parameters.length ≤ 255) (hasks : asks ⟨opcode, parameters, hle⟩) :
    (queueCommand opcode parameters host).2.Outgoing size asks start sent := by
  rw [queueCommand_eq hle]
  exact h.answer hasks [] (fun _ hitem => absurd hitem List.not_mem_nil) rfl rfl

end Outgoing

section Emission

variable [BondStore S] {size : ℕ} {asks : CommandPacket → Prop} {start : Outbox Packet}
  {sent : List Packet} {host : ClassicHost S}

/-- **What the host puts out for an event** becomes due by the rules. -/
theorem handleEvent_outgoing {event : ClassicEvent} (h : host.Outgoing size asks start sent)
    (hasks : ∀ command, Asks host.bonds.inner event command → asks command) :
    (handleEvent event host).2.Outgoing size asks start sent := by
  have hstep := handleEvent_step event host
  have hnone : ∀ item ∈ ([] : List HostOutput), item.packet? = none :=
    fun _ hitem => absurd hitem List.not_mem_nil
  cases event with
  | linkKeyRequest peer =>
    simp only [handleEvent, onLinkKeyRequest, Exec.get_bind]
    rcases hload : BondStore.load host.bonds.inner peer with error | _ | bond
    · exact h
    · exact h.queueCommand (length_asLeBytes_le peer) (hasks _ (.linkKey hload))
    · exact h.queueCommand (length_linkKeyParameters_le peer bond) (hasks _ (.linkKey hload))
  | ioCapabilityRequest peer =>
    exact h.queueCommand (by simp) (hasks _ (.ioCapability rfl (by simp)))
  | userConfirmationRequest peer =>
    exact h.queueCommand (by simp) (hasks _ (.userConfirmation rfl (by simp)))
  | authenticationComplete status handle =>
    rw [handleEvent]
    split
    · rcases ensureHandle_cases handle host with ⟨-, hrun⟩ | ⟨-, error, hrun⟩
      · rw [Exec.bind_ok hrun]
        exact h.queueCommand (by simp) (hasks _ (.encrypt rfl (by simp)))
      · rw [Exec.bind_error hrun]
        exact h
    · exact h
  | encryptionChange status handle enabled =>
    rw [handleEvent]
    split
    · rcases onEncrypted_cases handle host with ⟨-, connection, -, hrun⟩ | ⟨-, error, hrun⟩ <;>
        rw [hrun]
      · refine h.put [.event (.encrypted connection.peer)] ?_ rfl rfl
        simp [HostOutput.packet?]
      · exact h
    · exact h
  | connectionRequest peer =>
    generalize handleEvent (.connectionRequest peer) host = outcome at hstep ⊢
    obtain ⟨r, host'⟩ := outcome
    cases hstep with
    | refused => exact h
    | replied hanswered => cases hanswered
    | requested => exact h.answer (hasks _ (.accept peer)) [] hnone rfl rfl
  | connectionComplete status handle peer =>
    generalize handleEvent (.connectionComplete status handle peer) host = outcome at hstep ⊢
    obtain ⟨r, host'⟩ := outcome
    cases hstep with
    | refused => exact h
    | replied hanswered => cases hanswered
    | established =>
      refine h.answer (hasks _ (.authenticate _ handle peer))
        [.event (.connected peer handle)] ?_ rfl rfl
      simp [HostOutput.packet?]
    | forgotten => exact h.congr rfl rfl
  | linkKeyNotification peer linkKey linkKeyType hlen =>
    generalize handleEvent (.linkKeyNotification peer linkKey linkKeyType hlen) host = outcome
      at hstep ⊢
    obtain ⟨r, host'⟩ := outcome
    cases hstep with
    | refused => exact h
    | replied hanswered => cases hanswered
    | @notified _ _ _ _ _ items hitems =>
      refine h.put items (fun item hitem => ?_) rfl rfl
      rw [hitems item hitem, HostOutput.packet?]
  | numberOfCompletedPackets handle completed =>
    generalize handleEvent (.numberOfCompletedPackets handle completed) host = outcome at hstep ⊢
    obtain ⟨r, host'⟩ := outcome
    cases hstep with
    | refused => exact h
    | replied hanswered => cases hanswered
    | completed hflow =>
      obtain ⟨hqueued, -, hsize⟩ := AclFlow.complete_queue hflow
      exact h.flush hqueued hsize rfl rfl
  | disconnectionComplete handle reason =>
    generalize handleEvent (.disconnectionComplete handle reason) host = outcome at hstep ⊢
    obtain ⟨r, host'⟩ := outcome
    cases hstep with
    | refused => exact h
    | replied hanswered => cases hanswered
    | disconnected => exact h.disconnected _ reason

end Emission

/-! A call of the channels queues fragments, and hands over what the credits allow. -/

namespace Outgoing

variable {size : ℕ} {asks : CommandPacket → Prop} {start : Outbox Packet} {sent : List Packet}

theorem keeps_onChannels {α : Type} (m : ChannelManager.Update α) :
    Exec.Keeps (Outgoing (S := S) size asks start sent) (onChannels m) := by
  intro host h
  rw [onChannels, Exec.zoomOption]
  split
  · exact h.congr rfl rfl
  · exact h

theorem keeps_enqueuePdu (handle : UInt16) (pdu : L2capPdu) :
    Exec.Keeps (Outgoing (S := S) size asks start sent) (enqueuePdu handle pdu) := by
  intro host h
  rw [enqueuePdu, Exec.gets_bind, h.payloadSize]
  rcases hcut : fragmentL2capPdu handle 0 size (pdu.toBytes false) false with error | fragments
  · exact h
  · refine ⟨h.payloadSize, h.steps.tail ?_⟩
    have hdue : (host.setFlow (host.aclFlow.enqueue fragments)).due =
        host.due ++ fragments.map .acl := by
      simp [due, setFlow, AclFlow.enqueue]
    simp only [Exec.lift_apply, Exec.mapError_apply, Except.mapError, Exec.bind_apply,
      Exec.modify_apply, hdue]
    exact .batch ⟨handle, _, fragments, hcut, rfl⟩

theorem keeps_flushFlow : Exec.Keeps (Outgoing (S := S) size asks start sent) flushFlow :=
  fun _ h => h.flush rfl rfl rfl rfl

theorem keeps_flushChannels :
    Exec.Keeps (Outgoing (S := S) size asks start sent) flushChannels := by
  refine Exec.Keeps.bind (fun host h => ?_) fun handle =>
    Exec.Keeps.bind (keeps_onChannels _) fun channels =>
      Exec.Keeps.bind (Exec.sat_modify fun host h => h.congr rfl rfl) fun _ =>
        Exec.Keeps.bind (Exec.forEach_keeps fun pdu _ => keeps_enqueuePdu handle pdu) fun _ =>
          Exec.Keeps.bind keeps_flushFlow fun _ => Exec.sat_modify fun host h =>
            h.put _ (fun item hitem => ?_) rfl rfl
  · rw [connectionHandle]
    split <;> exact h
  · obtain ⟨⟨psm, cid⟩, -, rfl⟩ := List.mem_map.mp hitem
    rfl

/-- **A call of the channels** puts fragments behind what is due. -/
theorem keeps_callChannels {α : Type} (m : ChannelManager.Update α) :
    Exec.Keeps (Outgoing (S := S) size asks start sent) (callChannels m) :=
  Exec.Keeps.bind (keeps_onChannels m) fun _ =>
    Exec.Keeps.bind keeps_flushChannels fun _ => Exec.keeps_pure _

theorem keeps_processAcl (packet : AclPacket) :
    Exec.Keeps (Outgoing (S := S) size asks start sent) (processAcl packet) := by
  refine Exec.Keeps.bind (fun host h => ?_) fun handle => ?_
  · rw [connectionHandle]
    split <;> exact h
  split
  · exact Exec.keeps_fail _
  · refine Exec.Keeps.bind (fun host h => h.congr rfl rfl) fun completed => ?_
    cases completed with
    | none => exact Exec.keeps_pure ()
    | some bytes =>
      exact Exec.Keeps.bind (fun host h => h) fun pdu => keeps_callChannels _

end Outgoing

end ClassicHost

/-- Taking an SDU is no concern of the packets that wait. -/
theorem ClassicHost.aclFlow_takeChannelSdu (cid : UInt16) (host : ClassicHost S) :
    (host.takeChannelSdu cid).2.aclFlow = host.aclFlow := by
  rw [takeChannelSdu]
  split
  · rfl
  · split <;> rfl

theorem ClassicHost.due_takeChannelSdu (cid : UInt16) (host : ClassicHost S) :
    (host.takeChannelSdu cid).2.due = host.due := by
  rw [due, output_takeChannelSdu, aclFlow_takeChannelSdu, due]

/-! ### The session -/

namespace Sending

variable {size : ℕ} {asks : CommandPacket → Prop} {start : Outbox Packet} {base : List (Entry S)}
  {w w' : World S}

/-- Entries about other things are added. -/
theorem congr (h : Sending size asks start base w)
    (htrace : ∃ later, w'.trace = later ++ w.trace ∧
      ∀ entry ∈ later, entry.action.sentPacket? = none)
    (hio : w'.session.io.isSome = w.session.io.isSome)
    (hdue : w'.session.host.due = w.session.host.due)
    (hsize : w'.session.host.aclFlow.payloadSize = w.session.host.aclFlow.payloadSize) :
    Sending size asks start base w' := by
  obtain ⟨later, hlater, hnone⟩ := htrace
  refine ⟨h.continues.trans ⟨later, hlater.symm⟩, hsize.trans h.payloadSize, ?_⟩
  have houtbox : w'.outbox = w.outbox := by
    rw [outbox, hlater, packetsOut_append, packetsOut_eq_nil hnone, List.append_nil, outbox, hdue]
    revert hio
    cases w.session.io <;> cases w'.session.io <;> simp
  exact houtbox ▸ h.steps

/-- Nothing is entered. -/
theorem frame (h : Sending size asks start base w) (htrace : w'.trace = w.trace)
    (hio : w'.session.io.isSome = w.session.io.isSome)
    (hhost : w'.session.host = w.session.host) : Sending size asks start base w' :=
  h.congr ⟨[], htrace, fun _ hentry => absurd hentry List.not_mem_nil⟩ hio (by rw [hhost])
    (by rw [hhost])

theorem log (h : Sending size asks start base w) {action : Action}
    (haction : action.sentPacket? = none) :
    Sending size asks start base (w.log action) :=
  h.congr ⟨[⟨w.session, action⟩], rfl, by simpa using haction⟩ rfl rfl rfl

theorem enqueue (h : Sending size asks start base w) (event : Event) :
    Sending size asks start base (w.enqueue event) := by
  refine h.congr ?_ ?_ (by rw [host_enqueue]) (by rw [host_enqueue])
  · rcases trace_enqueue event w with htrace | htrace
    · exact ⟨[], htrace, fun _ hentry => absurd hentry List.not_mem_nil⟩
    · exact ⟨[⟨w.session, .enqueued event⟩], htrace, by simp [Action.sentPacket?]⟩
  · rw [World.enqueue]
    split
    · rfl
    · split <;> rfl

/-- The host puts out something. -/
theorem hosted (h : Sending size asks start base w) {host : ClassicHost S}
    (hhost : w.session.host.Outgoing size asks ⟨packetsOut w.trace, w.session.host.due⟩
      (packetsOut w.trace) → host.Outgoing size asks ⟨packetsOut w.trace, w.session.host.due⟩
      (packetsOut w.trace)) : Sending size asks start base (BackendSession.hosted host w) := by
  obtain ⟨later, hlater, hupserted⟩ := World.trace_hosted w host
  have hhost := hhost ⟨h.payloadSize, .refl⟩
  have hsent : packetsOut (BackendSession.hosted host w).trace = packetsOut w.trace := by
    have hnone : packetsOut later = [] := by
      refine packetsOut_eq_nil fun entry hentry => ?_
      obtain ⟨peer, bond, rfl⟩ := hupserted entry hentry
      rfl
    rw [hlater, packetsOut_append, hnone, List.append_nil]
  refine ⟨h.continues.trans ⟨later, hlater.symm⟩, hhost.payloadSize, h.steps.trans ?_⟩
  rw [outbox, outbox, hsent]
  rcases hio : w.session.io with _ | io
  · have hio' : (BackendSession.hosted host w).session.io = none := hio
    rw [hio']
    exact .refl
  · have hio' : (BackendSession.hosted host w).session.io = some io := hio
    rw [hio']
    exact hhost.steps

end Sending

section Keeps

variable {size : ℕ} {asks : CommandPacket → Prop} {start : Outbox Packet} {base : List (Entry S)}

theorem keeps_update {f : BackendSession S → BackendSession S}
    (hf : ∀ session, (f session).host = session.host ∧ (f session).io = session.io) :
    Exec.Keeps (Sending size asks start base) (update f) :=
  fun w h => h.frame rfl (congrArg _ (hf w.session).2) (hf w.session).1

theorem keeps_enqueueEvent (event : Event) :
    Exec.Keeps (Sending (S := S) size asks start base) (enqueueEvent event) :=
  fun _ h => h.enqueue event

theorem keeps_onHost {α : Type} {m : ClassicHost.Op S α}
    (hm : ∀ start sent, Exec.Keeps (ClassicHost.Outgoing size asks start sent) m) :
    Exec.Keeps (Sending size asks start base) (onHost m) :=
  fun _ h => h.hosted (hm _ _ _)

/-- A command of the session is sent past what is due. -/
theorem keeps_sendOwn {packet : CommandPacket} (hown : packet.IsOwn) :
    Exec.Keeps (Sending (S := S) size asks start base) (sendPacket (.command packet)) := by
  intro w h
  rw [sendPacket]
  rcases hio : w.session.io with _ | io
  · exact h
  refine ⟨h.continues.trans ⟨[_], rfl⟩, h.payloadSize, h.steps.tail ?_⟩
  rw [outbox, outbox, hio]
  simp only [World.set, World.log, packetsOut_cons, Option.elim_some]
  exact .direct ⟨packet, hown, rfl⟩

theorem keeps_sendCommand {opcode : UInt16} {parameters : Bytes}
    (hown : ownLength opcode = some parameters.length) :
    Exec.Keeps (Sending (S := S) size asks start base) (sendCommand opcode parameters) := by
  intro w h
  rw [sendCommand, CommandPacket.new]
  split
  · rename_i hle
    have hcommand : CommandPacket.IsOwn ⟨opcode, parameters, hle⟩ := hown
    exact keeps_sendOwn hcommand w h
  · exact h

theorem keeps_setScan (discoverable connectable : Bool) :
    Exec.Keeps (Sending (S := S) size asks start base) (setScan discoverable connectable) :=
  keeps_sendCommand rfl

theorem keeps_writeInquiryResponse :
    Exec.Keeps (Sending (S := S) size asks start base) writeInquiryResponse :=
  Exec.Keeps.bind (Exec.keeps_gets _) fun config => keeps_sendCommand
    (by rw [List.length_cons, config.length_inquiryResponse]; rfl)

theorem keeps_hideController :
    Exec.Keeps (Sending (S := S) size asks start base) hideController :=
  Exec.Keeps.bind (keeps_writeInquiryResponse) fun _ =>
    Exec.Keeps.bind (keeps_setScan _ _) fun _ => keeps_setScan _ _

theorem keeps_endConnectionWindow :
    Exec.Keeps (Sending (S := S) size asks start base) endConnectionWindow := by
  refine Exec.Keeps.bind (Exec.keeps_gets _) fun window => ?_
  split
  · exact Exec.keeps_pure ()
  · exact Exec.Keeps.bind (keeps_hideController) fun _ => keeps_update fun _ => ⟨rfl, rfl⟩

theorem keeps_recordTerminal {α : Type} (error : Error) :
    Exec.Keeps (Sending (S := S) size asks start base) (recordTerminal error : Op S α) :=
  Exec.Keeps.bind (keeps_update fun _ => ⟨rfl, rfl⟩) fun _ => Exec.keeps_fail error

/-! Channels. -/

theorem keeps_connectChannel (psm : UInt32) :
    Exec.Keeps (Sending (S := S) size asks start base) (connectChannel psm) := by
  intro w h
  have hhost : Sending size asks start base (onHost (ClassicHost.connectChannel psm
      { mtu := classicServerMtu }) w).2 :=
    keeps_onHost (fun _ _ => ClassicHost.Outgoing.keeps_callChannels _) w h
  rw [connectChannel]
  rcases honHost : onHost (ClassicHost.connectChannel psm { mtu := classicServerMtu }) w with
    ⟨error | cid, w'⟩ <;> rw [honHost] at hhost
  · exact hhost
  · exact hhost.congr ⟨[⟨w.session, .connecting psm⟩], rfl, by simp [Action.sentPacket?]⟩
      rfl rfl rfl

theorem keeps_sendChannelSdu (cid : UInt16) (sdu : Bytes) :
    Exec.Keeps (Sending (S := S) size asks start base) (sendChannelSdu cid sdu) :=
  keeps_onHost fun _ _ => ClassicHost.Outgoing.keeps_callChannels _

theorem keeps_takeChannelSdu (cid : UInt16) :
    Exec.Keeps (Sending (S := S) size asks start base) (takeChannelSdu cid) :=
  fun w h => h.congr ⟨[], rfl, fun _ hentry => absurd hentry List.not_mem_nil⟩ rfl
    (ClassicHost.due_takeChannelSdu cid w.session.host)
    (congrArg _ (ClassicHost.aclFlow_takeChannelSdu cid w.session.host))

theorem keeps_connectHidChannel (channel : Channel) :
    Exec.Keeps (Sending (S := S) size asks start base) (connectHidChannel channel) := by
  refine Exec.Keeps.bind (Exec.keeps_gets _) fun session => ?_
  split
  · exact Exec.Keeps.bind (keeps_connectChannel _) fun _ => keeps_update fun _ => ⟨rfl, rfl⟩
  · exact Exec.keeps_pure ()

theorem keeps_announceChannel (channel : Channel) (cid peerMtu : UInt16) :
    Exec.Keeps (Sending (S := S) size asks start base) (announceChannel channel cid peerMtu) := by
  refine Exec.Keeps.bind (Exec.keeps_gets _) fun session => ?_
  split
  · exact Exec.Keeps.bind (keeps_update fun _ => ⟨rfl, rfl⟩) fun _ => keeps_enqueueEvent _
  · exact Exec.keeps_pure ()

theorem keeps_onChannelOpened (psm : UInt32) (cid : UInt16) :
    Exec.Keeps (Sending (S := S) size asks start base) (onChannelOpened psm cid) := by
  refine Exec.Keeps.bind (Exec.keeps_gets _) fun session => ?_
  rcases session.host.channelInfo cid with _ | ⟨actualPsm, peerMtu, isOpen⟩
  · exact Exec.keeps_fail _
  dsimp only
  split
  · exact Exec.keeps_fail _
  split
  · exact keeps_update fun _ => ⟨rfl, rfl⟩
  split
  · exact Exec.Keeps.bind (keeps_announceChannel _ _ _) fun _ => keeps_connectHidChannel _
  split
  · exact keeps_announceChannel _ _ _
  · exact Exec.keeps_fail _

theorem keeps_refreshOutgoingChannels :
    Exec.Keeps (Sending (S := S) size asks start base) refreshOutgoingChannels := by
  have hrefresh (channel : Channel) :
      Exec.Keeps (Sending (S := S) size asks start base) (refreshChannel channel) := by
    refine Exec.Keeps.bind (Exec.keeps_gets _) fun session => ?_
    rcases session.protocols.channel channel with _ | protocolChannel
    · exact Exec.keeps_pure ()
    dsimp only
    split
    · exact keeps_onChannelOpened _ _
    · exact Exec.keeps_pure ()
  exact Exec.Keeps.bind (hrefresh .control) fun _ => hrefresh .interrupt

/-! The output of the host. -/

theorem keeps_handleNews (news : SessionEvent) :
    Exec.Keeps (Sending (S := S) size asks start base) (handleOutput (.event news)) := by
  cases news with
  | connected peer handle =>
    refine Exec.Keeps.bind (fun w h => h.log rfl) fun _ =>
      Exec.Keeps.bind (keeps_update fun _ => ⟨rfl, rfl⟩) fun _ =>
        Exec.Keeps.bind keeps_hideController fun _ => keeps_enqueueEvent _
  | disconnected =>
    exact Exec.Keeps.bind (keeps_update fun _ => ⟨rfl, rfl⟩) fun _ => keeps_enqueueEvent _
  | encrypted => exact keeps_connectHidChannel _
  | channelOpened psm cid => exact keeps_onChannelOpened psm cid
  | bondStored => exact Exec.keeps_pure ()

/-- The first packet that is due is sent. -/
theorem keeps_sendFirst {packet : Packet} {output : List HostOutput} {w : World S}
    (h : Sending size asks start base w)
    (houtput : w.session.host.due =
      packet :: ClassicHost.due { w.session.host with output := output }) :
    Sending size asks start base (sendPacket packet
      (w.set ({ · with host := { w.session.host with output := output } }))).2 := by
  rw [sendPacket]
  rcases hio : w.session.io with _ | io
  · simp only [World.set, hio]
    refine ⟨h.continues, h.payloadSize, ?_⟩
    have houtbox := h.steps
    rw [outbox, hio] at houtbox
    exact houtbox
  · simp only [World.set, hio]
    refine ⟨h.continues.trans ⟨[_], rfl⟩, h.payloadSize, h.steps.tail ?_⟩
    rw [outbox, outbox, hio]
    simp only [World.log, packetsOut_cons, Option.elim_some, houtput]
    exact .send

theorem keeps_drainHostOutput :
    Exec.Keeps (Sending (S := S) size asks start base) drainHostOutput := by
  refine Exec.loop_keeps fun w h => ?_
  rw [drainOne, popOutput, Exec.update_bind, ClassicHost.popOutput]
  rcases houtput : w.session.host.output with _ | ⟨item, output⟩
  · exact h.frame rfl rfl rfl
  have hpure : Exec.Keeps (Sending (S := S) size asks start base) (pure true : Op S Bool) :=
    Exec.keeps_pure true
  cases item with
  | event news =>
    refine Exec.Keeps.bind (keeps_handleNews news) (fun _ => hpure) _ ?_
    refine h.congr ⟨[], rfl, fun _ hentry => absurd hentry List.not_mem_nil⟩ rfl ?_ rfl
    simp [World.set, ClassicHost.due, houtput, List.filterMap_cons, HostOutput.packet?]
  | command packet =>
    refine Exec.Keeps.bind_from (keeps_sendFirst h ?_) fun _ => hpure
    simp [ClassicHost.due, houtput, HostOutput.packet?]
  | acl packet =>
    refine Exec.Keeps.bind_from (keeps_sendFirst h ?_) fun _ => hpure
    simp [ClassicHost.due, houtput, HostOutput.packet?]

/-! SDP and HIDP. -/

theorem keeps_serve {cid : UInt16} {handle : Bytes → Op S Unit}
    (hhandle : ∀ sdu, Exec.Keeps (Sending size asks start base) (handle sdu)) :
    Exec.Keeps (Sending size asks start base) (serve cid handle) := by
  refine Exec.loop_keeps (Exec.Keeps.bind (keeps_takeChannelSdu cid) fun sdu => ?_)
  cases sdu with
  | none => exact Exec.keeps_pure false
  | some sdu => exact Exec.Keeps.bind (hhandle sdu) fun _ => Exec.keeps_pure true

theorem keeps_handleSdp (cid : UInt16) (request : Bytes) :
    Exec.Keeps (Sending (S := S) size asks start base) (handleSdp cid request) := by
  refine Exec.Keeps.bind (Exec.keeps_gets _) fun session => ?_
  rcases session.protocols.sdp[cid]? with _ | channel
  · exact Exec.keeps_pure ()
  dsimp only
  refine Exec.Keeps.bind (keeps_update fun _ => ⟨rfl, rfl⟩) fun _ => ?_
  split
  · exact keeps_sendChannelSdu _ _
  · exact Exec.keeps_pure ()

theorem keeps_applyHidpEvent (event : HidpBridgeEvent) :
    Exec.Keeps (Sending (S := S) size asks start base) (applyHidpEvent event) := by
  cases event with
  | output channel payload => exact keeps_enqueueEvent _
  | controlResponse response =>
    refine Exec.Keeps.bind (Exec.keeps_gets _) fun session => ?_
    rcases session.protocols.control with _ | control
    · exact Exec.keeps_pure ()
    dsimp only
    split
    · exact keeps_sendChannelSdu _ _
    · exact Exec.keeps_pure ()
  | _ => exact Exec.keeps_pure ()

theorem keeps_handleHidp (channel : Channel) (cid : UInt16) (sdu : Bytes) :
    Exec.Keeps (Sending (S := S) size asks start base) (handleHidp channel cid sdu) := by
  refine Exec.Keeps.bind (Exec.keeps_gets _) fun session => ?_
  rcases HidpBridge.handle channel sdu session.protocols.hidp with ⟨result, hidp⟩
  refine Exec.Keeps.bind (keeps_update fun _ => ⟨rfl, rfl⟩) fun _ => ?_
  split
  · exact Exec.forEach_keeps fun event _ => keeps_applyHidpEvent event
  · split
    · exact keeps_sendChannelSdu _ _
    · exact Exec.keeps_pure ()
  · exact Exec.keeps_pure ()

theorem keeps_processProtocolInput :
    Exec.Keeps (Sending (S := S) size asks start base) processProtocolInput := by
  have hserve (channel : Channel) (protocolChannel : Option ProtocolChannel) :
      Exec.Keeps (Sending (S := S) size asks start base) (serveHidp channel protocolChannel) := by
    rcases protocolChannel with _ | protocolChannel
    · exact Exec.keeps_pure ()
    rw [serveHidp]
    split
    · exact keeps_serve fun sdu => keeps_handleHidp channel _ sdu
    · exact Exec.keeps_pure ()
  refine Exec.Keeps.bind (Exec.keeps_gets _) fun sdp =>
    Exec.Keeps.bind (Exec.forEach_keeps fun cid _ => keeps_serve fun sdu => keeps_handleSdp cid sdu)
      fun _ => Exec.Keeps.bind (Exec.keeps_gets _) fun protocols =>
        Exec.Keeps.bind (hserve .control _) fun _ => hserve .interrupt _

/-! Packets from the controller. -/

theorem keeps_screenEvent (event : EventPacket) :
    Exec.Keeps (Sending (S := S) size asks start base) (screenEvent event) := by
  rw [screenEvent]
  split
  · refine Exec.Keeps.bind (Exec.keeps_lift _) fun _ =>
      Exec.Keeps.bind (Exec.keeps_lift _) fun peer =>
        Exec.Keeps.bind (Exec.keeps_gets _) fun window => ?_
    split
    rename_i accepted window' _
    refine Exec.Keeps.bind (keeps_update fun _ => ⟨rfl, rfl⟩) fun _ => ?_
    split
    · exact Exec.Keeps.bind (keeps_sendCommand
        (by rw [List.length_append, BluetoothAddress.length_asLeBytes]; rfl))
        fun _ => Exec.keeps_pure false
    · exact Exec.keeps_pure true
  split
  · refine Exec.Keeps.bind (Exec.keeps_lift _) fun _ =>
      Exec.Keeps.bind (Exec.keeps_lift _) fun peer =>
        Exec.Keeps.bind (Exec.keeps_gets _) fun window => ?_
    split
    · exact Exec.Keeps.bind (keeps_sendCommand rfl) fun _ =>
        Exec.Keeps.bind (keeps_update fun _ => ⟨rfl, rfl⟩) fun _ => Exec.keeps_pure false
    split
    · exact Exec.Keeps.bind (keeps_endConnectionWindow) fun _ =>
        Exec.Keeps.bind (keeps_update fun _ => ⟨rfl, rfl⟩) fun _ =>
          Exec.Keeps.bind (keeps_enqueueEvent _) fun _ => Exec.keeps_pure true
    · exact Exec.keeps_pure true
  split
  · refine Exec.Keeps.bind (Exec.keeps_lift _) fun _ =>
      Exec.Keeps.bind (Exec.keeps_gets _) fun session => ?_
    split
    · exact Exec.Keeps.bind (keeps_update fun _ => ⟨rfl, rfl⟩) fun _ => Exec.keeps_pure false
    · exact Exec.keeps_pure true
  · exact Exec.keeps_pure true

variable [BondStore S]

/-- **A packet from the controller** is handled by the rules, if these let in what the host asks for
because of it. -/
theorem handlePacket_keeps (packet : Packet)
    (hasks : ∀ event events, packet = .event event → decodeClassicEvent event = .ok events →
      ∀ e ∈ events, ∀ (bonds : S) command, ClassicHost.Asks bonds e command → asks command) :
    Exec.Keeps (Sending (S := S) size asks start base) (handlePacket packet) := by
  cases packet with
  | command => exact Exec.keeps_fail _
  | acl packet =>
    exact Exec.Keeps.bind (keeps_onHost fun _ _ => ClassicHost.Outgoing.keeps_processAcl packet)
      fun _ => Exec.Keeps.bind keeps_drainHostOutput fun _ =>
        Exec.Keeps.bind keeps_refreshOutgoingChannels fun _ =>
          Exec.Keeps.bind keeps_processProtocolInput fun _ => keeps_drainHostOutput
  | event event =>
    refine Exec.Keeps.bind (keeps_screenEvent event) fun forward => ?_
    split
    · rw [forwardEvent]
      rcases hdecode : decodeClassicEvent event with error | events
      · exact fun w h => h
      · intro w h
        rw [Exec.lift_ok_bind]
        refine Exec.Keeps.bind (Exec.forEach_keeps fun e he => ?_)
          (fun _ => keeps_drainHostOutput) w h
        refine keeps_onHost fun _ _ host h => ?_
        refine ClassicHost.handleEvent_outgoing h fun command hcommand => ?_
        exact hasks event events rfl hdecode e he _ command hcommand
    · exact Exec.keeps_pure ()

theorem handlePolledPacket_keeps (packet : Packet)
    (hasks : ∀ event events, packet = .event event → decodeClassicEvent event = .ok events →
      ∀ e ∈ events, ∀ (bonds : S) command, ClassicHost.Asks bonds e command → asks command) :
    Exec.Keeps (Sending (S := S) size asks start base) (handlePolledPacket packet) := by
  intro w h
  have hhandle := handlePacket_keeps packet hasks w h
  rw [handlePolledPacket]
  rcases hrun : handlePacket packet w with ⟨error | _, w'⟩ <;> rw [hrun] at hhandle
  · exact keeps_recordTerminal error w' hhandle
  · dsimp only
    split <;> exact hhandle

/-! ### Calls -/

omit [BondStore S] in
theorem keeps_receive (timeout : ℕ) :
    Exec.Keeps (Sending (S := S) size asks start base) (receive timeout) := by
  intro w h
  rw [receive]
  rcases hio : w.session.io with _ | io
  · exact h
  dsimp only
  split
  · rename_i packet io _
    exact (h.log rfl : Sending size asks start base (w.log (.received packet))).frame rfl
      (by simp [World.log, World.set, hio]) rfl
  · exact h.frame rfl (by simp [World.set, hio]) rfl

omit [BondStore S] in
theorem keeps_ensureActive : Exec.Keeps (Sending (S := S) size asks start base) ensureActive :=
  fun _ h => h

omit [BondStore S] in
/-- A window is opened. -/
theorem keeps_open (window : ConnectionWindow) (active : Bool) :
    Exec.Keeps (Sending (S := S) size asks start base) (do
      record (.opened window)
      update fun session => { session with activeReconnect := active, window := window }) :=
  Exec.Keeps.bind (fun _ h => h.log rfl) fun _ => keeps_update fun _ => ⟨rfl, rfl⟩

omit [BondStore S] in
theorem keeps_startPairing :
    Exec.Keeps (Sending (S := S) size asks start base) startPairing := by
  refine Exec.Keeps.bind keeps_ensureActive fun _ =>
    Exec.Keeps.bind (Exec.keeps_gets _) fun window => ?_
  cases window with
  | idle =>
    exact Exec.Keeps.bind (keeps_setScan _ _) fun _ =>
      Exec.Keeps.bind (keeps_writeInquiryResponse) fun _ =>
        Exec.Keeps.bind (keeps_setScan _ _) fun _ => keeps_open _ _
  | pairing => exact Exec.keeps_pure ()
  | reconnecting | connected => exact Exec.keeps_fail _

theorem keeps_startReconnect :
    Exec.Keeps (Sending (S := S) size asks start base) startReconnect := by
  refine Exec.Keeps.bind keeps_ensureActive fun _ =>
    Exec.Keeps.bind (Exec.keeps_gets _) fun window => ?_
  cases window with
  | idle =>
    refine Exec.Keeps.bind (Exec.keeps_gets _) fun host =>
      Exec.Keeps.bind (Exec.keeps_lift _) fun peer =>
        Exec.Keeps.bind (keeps_setScan _ _) fun _ =>
          Exec.Keeps.bind (keeps_writeInquiryResponse) fun _ =>
            Exec.Keeps.bind (keeps_setScan _ _) fun _ =>
              Exec.Keeps.bind (keeps_sendCommand ?_) fun _ => keeps_open _ _
    simp only [createConnectionParameters, List.length_append, BluetoothAddress.length_asLeBytes]
    rfl
  | reconnecting => exact Exec.keeps_pure ()
  | pairing | connected => exact Exec.keeps_fail _

omit [BondStore S] in
theorem keeps_sendInterrupt (payload : Bytes) :
    Exec.Keeps (Sending (S := S) size asks start base) (sendInterrupt payload) := by
  refine Exec.Keeps.bind keeps_ensureActive fun _ =>
    Exec.Keeps.bind (Exec.keeps_gets _) fun session => ?_
  split
  · exact Exec.keeps_fail _
  · exact Exec.Keeps.bind (Exec.keeps_lift _) fun encoded =>
      Exec.Keeps.bind (keeps_onHost fun _ _ =>
        ClassicHost.Outgoing.keeps_callChannels _) fun _ =>
        keeps_drainHostOutput

omit [BondStore S] in
theorem keeps_disconnect :
    Exec.Keeps (Sending (S := S) size asks start base) disconnect := by
  refine Exec.Keeps.bind keeps_ensureActive fun _ =>
    Exec.Keeps.bind (Exec.keeps_gets _) fun connection =>
      Exec.Keeps.bind (keeps_update fun _ => ⟨rfl, rfl⟩) fun _ => Exec.Keeps.bind ?_ fun _ =>
        keeps_endConnectionWindow
  cases connection with
  | none => exact Exec.keeps_pure ()
  | some connection => exact keeps_sendCommand rfl

omit [BondStore S] in
theorem keeps_close : Exec.Keeps (Sending (S := S) size asks start base) close := by
  intro w h
  rw [close]
  split
  · exact h
  rcases hio : w.session.io with _ | io
  · exact h.frame rfl (by simp [World.set, closedSession, hio]) rfl
  · refine ⟨h.continues.trans ⟨[_], rfl⟩, h.payloadSize, h.steps.tail ?_⟩
    have houtbox : (World.set closedSession (w.log .closed)).outbox =
        ⟨w.outbox.sent, w.outbox.due.filter fun _ => false⟩ := by
      simp [outbox, World.set, World.log, closedSession, packetsOut_cons, Action.sentPacket?]
    rw [houtbox]
    exact .drop (.inl rfl)

omit [BondStore S] in
theorem keeps_now : Exec.Keeps (Sending (S := S) size asks start base) now := by
  intro w h
  rw [now, Exec.update_apply]
  split
  · exact h
  · exact h.frame rfl rfl rfl

/-! What may be received during a call is handled with packets of the kind. -/

section Receiving

variable (hpacket : ∀ packet,
  Exec.Keeps (Sending (S := S) size asks start base) (handlePolledPacket packet))

include hpacket

theorem keeps_receiveAndHandle (timeout : ℕ) :
    Exec.Keeps (Sending (S := S) size asks start base) (receiveAndHandle timeout) := by
  refine Exec.Keeps.bind (keeps_receive timeout) fun answer => ?_
  rcases answer with error | _ | packet
  · exact keeps_recordTerminal error
  · exact Exec.keeps_pure false
  · exact Exec.Keeps.bind (hpacket packet) fun _ => Exec.keeps_pure true

theorem keeps_poll (timeout : ℕ) :
    Exec.Keeps (Sending (S := S) size asks start base) (poll timeout) := by
  refine Exec.Keeps.bind keeps_ensureActive fun _ => Exec.Keeps.bind ?_ fun _ =>
    Exec.Keeps.bind (Exec.loop_keeps (keeps_receiveAndHandle hpacket 0)) fun _ _ h =>
      h.frame rfl rfl rfl
  refine Exec.Keeps.bind (Exec.keeps_gets _) fun pending => ?_
  split
  · exact keeps_receiveAndHandle hpacket timeout
  · exact Exec.keeps_pure false

theorem keeps_drainInterrupt (timeout : ℕ) :
    Exec.Keeps (Sending (S := S) size asks start base) (drainInterrupt timeout) := by
  refine Exec.Keeps.bind keeps_ensureActive fun _ => Exec.Keeps.bind ?_ fun deadline =>
    Exec.loop_keeps ?_
  · refine Exec.Keeps.bind keeps_now fun start =>
      Exec.Keeps.bind (Exec.keeps_gets _) fun horizon => ?_
    split
    · exact Exec.keeps_pure _
    · exact keeps_now
  · refine Exec.Keeps.bind (Exec.keeps_gets _) fun host => ?_
    split
    · exact Exec.keeps_pure false
    refine Exec.Keeps.bind keeps_now fun reading => ?_
    dsimp only
    split
    · exact Exec.keeps_fail _
    refine Exec.Keeps.bind (keeps_receive _) fun answer => ?_
    rcases answer with error | _ | packet
    · exact keeps_recordTerminal error
    · exact Exec.keeps_fail _
    · exact Exec.Keeps.bind (hpacket packet) fun _ => Exec.keeps_pure true

/-- **A call** sends packets of the kind alone, if what is received meanwhile does. -/
theorem perform_keeps (call : Call) {w : World S}
    (h : Sending size asks start base w) : Sending size asks start base (w.perform call).2 := by
  have hrun : Exec.Keeps (Sending (S := S) size asks start base) call.run := by
    have hunit {m : Op S Unit} (hm : Exec.Keeps (Sending size asks start base) m) :
        Exec.Keeps (Sending size asks start base) (do m; pure [] : Op S (List Event)) :=
      Exec.Keeps.bind hm fun _ => Exec.keeps_pure []
    cases call with
    | startPairing => exact hunit (keeps_startPairing)
    | startReconnect => exact hunit (keeps_startReconnect)
    | poll timeout => exact keeps_poll hpacket timeout
    | sendInterrupt payload => exact hunit (keeps_sendInterrupt payload)
    | drainInterrupt timeout => exact hunit (keeps_drainInterrupt hpacket timeout)
    | disconnect => exact hunit (keeps_disconnect)
    | close => exact hunit keeps_close
  have hcalled : Sending size asks start base (w.log (.called call)) := h.log rfl
  rw [World.perform]
  exact Sending.log (hrun _ hcalled) rfl

end Receiving

end Keeps

end ClassicHid
