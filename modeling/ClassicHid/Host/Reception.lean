import ClassicHid.Hci.Reception
import ClassicHid.Host.Effect

/-!
# The reception of a host

The host is handed ACL packets, but what it does depends on the PDUs alone: it keeps the fragments
of an unfinished PDU and has its channels process a PDU with the last one. So neither the way in
which the PDUs of its link are cut into packets nor the transfers in which the packets arrive make
any difference to its channels, its output or its errors.

## Main definitions

* `ClassicHost.processPdu`: what the host does with the bytes of a PDU

## Main results

* `ClassicHost.forEach_processAcl`: the packets of PDUs do what the PDUs do
* `host_reception`: so do the packets that polls of the transport return
-/

namespace ClassicHid

open Foundation
open Std (ExtTreeMap)

namespace ClassicHost

variable {S : Type}

/-- The channels process a PDU, and what they emit is queued. -/
def processPdu (bytes : Bytes) : Op S Unit := do
  let pdu ← Exec.mapError .l2cap (Exec.lift (L2capPdu.fromBytes bytes))
  callChannels (ChannelManager.processPdu pdu)

/-- The host with another assembler. -/
def setAssembler (assembler : AclAssembler) (host : ClassicHost S) : ClassicHost S :=
  { host with aclAssembler := assembler }

/-- A packet of the link, by what the assembler says to it. -/
theorem processAcl_eq {host : ClassicHost S} {connection : Connection}
    (hc : host.connection = some connection) {packet : AclPacket}
    (hhandle : packet.connectionHandle = connection.handle) :
    (∀ assembler, AclAssembler.step host.aclAssembler packet = (.ok none, assembler) →
      processAcl packet host = (.ok (), host.setAssembler assembler)) ∧
    ∀ assembler bytes, AclAssembler.step host.aclAssembler packet = (.ok (some bytes), assembler) →
      processAcl packet host = processPdu bytes (host.setAssembler assembler) := by
  have hlink : connectionHandle host = (.ok connection.handle, host) := by
    simp [connectionHandle, hc]
  rw [processAcl, Exec.bind_ok hlink, if_neg (not_not.mpr hhandle)]
  constructor
  · intro assembler hstep
    rw [AclAssembler.step] at hstep
    simp [Exec.bind_apply, hstep, Except.mapError, setAssembler]
  · intro assembler bytes hstep
    rw [AclAssembler.step] at hstep
    simp only [Exec.bind_apply, Exec.zoom_apply, Exec.mapError_apply, hstep, Except.mapError]
    rfl

/-- Packets of which the last one completes a PDU do what the PDU does. -/
theorem forEach_processAcl_outputs {connection : Connection} {packets : List AclPacket}
    {count : ℕ} {bytes : Bytes} {host : ClassicHost S} (hc : host.connection = some connection)
    (hhandle : ∀ packet ∈ packets, packet.connectionHandle = connection.handle)
    (houtputs : outputs AclAssembler.step host.aclAssembler packets =
      List.replicate count (.ok none) ++ [.ok (some bytes)]) :
    Exec.forEach processAcl packets host =
      processPdu bytes (host.setAssembler (final AclAssembler.step host.aclAssembler packets)) := by
  induction packets generalizing host count with
  | nil => simp at houtputs
  | cons packet packets ih =>
    obtain ⟨hfed, hcompleted⟩ := processAcl_eq hc (hhandle packet List.mem_cons_self)
    rw [outputs_cons] at houtputs
    rw [Exec.forEach, final_cons]
    cases count with
    | zero =>
      obtain ⟨hfirst, hrest⟩ := List.cons.inj houtputs
      -- The last packet: nothing is left after it.
      have hnil : packets = [] := by
        rw [← List.length_eq_zero_iff, ← length_outputs, hrest, List.length_nil]
      rw [Exec.bind_apply, hcompleted _ bytes (Prod.ext hfirst rfl), hnil, final_nil]
      rcases processPdu bytes (host.setAssembler
        (AclAssembler.step host.aclAssembler packet).2) with ⟨_ | _, host'⟩ <;> rfl
    | succ count =>
      rw [List.replicate_succ, List.cons_append] at houtputs
      obtain ⟨hfirst, hrest⟩ := List.cons.inj houtputs
      rw [Exec.bind_ok (hfed _ (Prod.ext hfirst rfl)), ih (by exact hc)
        (fun other hother => hhandle other (List.mem_cons_of_mem _ hother)) hrest]
      rfl

end ClassicHost

/-! ### The assembler after the packets of one handle -/

namespace AclAssembler

theorem ext_entry {assembler assembler' : AclAssembler}
    (h : ∀ handle, entry handle assembler = entry handle assembler') :
    assembler = assembler' := by
  cases assembler
  cases assembler'
  exact congrArg AclAssembler.mk (ExtTreeMap.ext_getElem? h)

/-- Clearing a handle twice clears it once. -/
theorem clearHandle_clearHandle (handle : UInt16) (assembler : AclAssembler) :
    (assembler.clearHandle handle).clearHandle handle = assembler.clearHandle handle := by
  refine ext_entry fun other => ?_
  rw [clearHandle, entry_erase]
  split
  · rename_i h
    rw [clearHandle, entry_erase, if_pos h]
  · rfl

/-- The packets of a PDU leave nothing of their handle and all of the others. -/
theorem final_fragments {handle : UInt16} (hhandle : handle ≤ 0x0FFF) (transfer : Transfer)
    (assembler : AclAssembler) :
    outputs step assembler (transfer.fragments handle) = transfer.outcomes handle ∧
      final step assembler (transfer.fragments handle) = assembler.clearHandle handle := by
  have hmem (packet : AclPacket) (hpacket : packet ∈ transfer.fragments handle) :
      packet.connectionHandle = handle :=
    handle_of_mem_fragments (transfer.fragmentL2capPdu_eq hhandle) packet hpacket
  obtain ⟨houtputs, hfinal⟩ := transfer.outputs_fragments hhandle (entry handle assembler)
  have hall : (transfer.fragments handle).filter (fun packet => packet.connectionHandle = handle) =
      transfer.fragments handle :=
    List.filter_eq_self.mpr fun packet hpacket => decide_eq_true (hmem packet hpacket)
  constructor
  · have hsame : outputsOf step AclPacket.connectionHandle assembler (transfer.fragments handle)
        handle = outputs step assembler (transfer.fragments handle) := by
      rw [outputsOf, List.filter_eq_self.mpr, List.map_snd_zip]
      · exact Nat.le_of_eq (length_outputs _ _ _)
      · intro pair hpair
        exact decide_eq_true (hmem _ (List.of_mem_zip hpair).1)
    rw [← hsame, localizes.outputs, hall, houtputs]
  · refine ext_entry fun other => ?_
    rw [localizes.final, clearHandle, entry_erase]
    by_cases h : other = handle
    · rw [if_pos h, h, hall, hfinal]
    · rw [if_neg h, List.filter_eq_nil_iff.mpr]
      · rfl
      · intro packet hpacket
        rw [hmem packet hpacket]
        simpa using Ne.symm h

end AclAssembler

namespace ClassicHost

variable {S : Type}

/-- **The packets of a PDU** do what the PDU does, and leave the assembler without them. -/
theorem forEach_processAcl_fragments {host : ClassicHost S} {connection : Connection}
    (hc : host.connection = some connection) (hhandle : connection.handle ≤ 0x0FFF)
    (transfer : Transfer) :
    Exec.forEach processAcl (transfer.fragments connection.handle) host =
      processPdu transfer.pdu
        (host.setAssembler (host.aclAssembler.clearHandle connection.handle)) := by
  obtain ⟨houtputs, hfinal⟩ := AclAssembler.final_fragments hhandle transfer host.aclAssembler
  rw [← hfinal]
  exact forEach_processAcl_outputs hc
    (fun packet hpacket =>
      handle_of_mem_fragments (transfer.fragmentL2capPdu_eq hhandle) packet hpacket) houtputs

/-- A PDU that was processed leaves the handle of the link and the assembler as they were. -/
theorem processPdu_ok {host host' : ClassicHost S} {connection : Connection} {bytes : Bytes}
    (hc : host.connection = some connection) (h : processPdu bytes host = (.ok (), host')) :
    (∃ connection', host'.connection = some connection' ∧
      connection'.handle = connection.handle) ∧ host'.aclAssembler = host.aclAssembler := by
  rcases hpdu : L2capPdu.fromBytes bytes with error | pdu
  · simp [processPdu, Exec.bind_apply, hpdu, Except.mapError] at h
  · have hcall : callChannels (ChannelManager.processPdu pdu) host = (.ok (), host') := by
      simpa [processPdu, Exec.bind_apply, hpdu, Except.mapError] using h
    have hstep := callChannels_step (ChannelManager.processPdu pdu) host
    rw [hcall] at hstep
    cases hstep with
    | flushed hc' =>
      rw [hc] at hc'
      cases hc'
      exact ⟨⟨_, rfl, rfl⟩, rfl⟩

/-- **The packets of PDUs** do what the PDUs do, up to the first one that is an error. -/
theorem forEach_processAcl {host : ClassicHost S} {connection : Connection}
    (hc : host.connection = some connection) (hhandle : connection.handle ≤ 0x0FFF)
    (hclear : host.aclAssembler.clearHandle connection.handle = host.aclAssembler)
    (transfers : List Transfer) :
    Exec.forEach processAcl (transfers.flatMap (Transfer.fragments connection.handle)) host =
      Exec.forEach processPdu (transfers.map (·.pdu)) host := by
  induction transfers generalizing host connection with
  | nil => rfl
  | cons transfer transfers ih =>
    have hfirst := forEach_processAcl_fragments hc hhandle transfer
    rw [hclear] at hfirst
    rw [List.flatMap_cons, Exec.forEach_append, List.map_cons, Exec.forEach]
    rcases hpdu : processPdu transfer.pdu host with ⟨error | _, host'⟩
    · rw [Exec.bind_error (hfirst.trans hpdu), Exec.bind_error hpdu]
    · obtain ⟨⟨connection', hc', hsame⟩, hassembler⟩ := processPdu_ok hc hpdu
      rw [Exec.bind_ok (hfirst.trans hpdu), Exec.bind_ok hpdu, ← hsame]
      refine ih hc' (hsame ▸ hhandle) ?_
      rw [hassembler, hsame, hclear]

end ClassicHost

/-- **The reception of a host**: whatever the packets into which the PDUs of its link were cut and
the transfers in which these arrive, what the host does with the packets that enough polls return
is what it does with the PDUs themselves. An unfinished PDU from before is dropped. -/
theorem host_reception {S : Type} (host : ClassicHost S) (connection : Connection)
    (hc : host.connection = some connection) (hhandle : connection.handle ≤ 0x0FFF)
    (transfers : List Transfer) (hne : transfers ≠ [])
    (hsize : ∀ transfer ∈ transfers, transfer.payloadSize + 5 ≤ maxHciPacketSize)
    (layout : UsbLayout) (events : List EventPacket) (script : ScriptedIo)
    (hreads : ∀ read ∈ script.interrupt ++ script.bulk, isTransfer read = true)
    (hinterrupt : readBytes script.interrupt <+: events.flatMap EventPacket.raw)
    (hbulk : readBytes script.bulk =
      (transfers.flatMap (Transfer.fragments connection.handle)).flatMap AclPacket.raw) (n : ℕ)
    (hn : events.length + (transfers.flatMap (Transfer.fragments connection.handle)).length +
      2 * (script.interrupt.length + script.bulk.length) < n) :
    Exec.forEach ClassicHost.processAcl ((UsbTransport.returned
        (UsbTransport.polls n { backend := script, layout := layout }).1).filterMap Packet.acl?)
        host =
      Exec.forEach ClassicHost.processPdu (transfers.map (·.pdu))
        (host.setAssembler (host.aclAssembler.clearHandle connection.handle)) := by
  have hfits (packet : AclPacket)
      (hpacket : packet ∈ transfers.flatMap (Transfer.fragments connection.handle)) :
      packet.raw.length < maxHciPacketSize := by
    obtain ⟨transfer, htransfer, hfragment⟩ := List.mem_flatMap.mp hpacket
    have hraw := transfer.length_raw_le hhandle hfragment
    have hpayload := hsize transfer htransfer
    omega
  obtain ⟨-, -, hwhole⟩ := UsbTransport.returned_acls layout events _ hfits script hreads
    hinterrupt (hbulk ▸ List.prefix_refl _) n
  rw [hwhole hbulk hn]
  -- The first PDU drops what was unfinished; from there on nothing is.
  cases transfers with
  | nil => exact absurd rfl hne
  | cons transfer transfers =>
    have hcleared : (host.setAssembler (host.aclAssembler.clearHandle
        connection.handle)).connection = some connection := hc
    have hfirst := ClassicHost.forEach_processAcl_fragments hc hhandle transfer
    rw [List.flatMap_cons, Exec.forEach_append, List.map_cons, Exec.forEach]
    rcases hpdu : ClassicHost.processPdu transfer.pdu
      (host.setAssembler (host.aclAssembler.clearHandle connection.handle)) with ⟨error | _, host'⟩
    · rw [Exec.bind_error (hfirst.trans hpdu), Exec.bind_error hpdu]
    · obtain ⟨⟨connection', hc', hsame⟩, hassembler⟩ :=
        ClassicHost.processPdu_ok hcleared hpdu
      rw [Exec.bind_ok (hfirst.trans hpdu), Exec.bind_ok hpdu, ← hsame]
      refine ClassicHost.forEach_processAcl hc' (hsame ▸ hhandle) ?_ transfers
      rw [hassembler, hsame]
      exact AclAssembler.clearHandle_clearHandle _ _

/-- A host with a link and no channels. -/
def sampleLinked : ClassicHost Unit :=
  { ClassicHost.new () 27 4 with
    connection := some
      { peer := .fromLeBytes [2, 0, 0, 0, 0, 0] rfl .pub, handle := 3, encrypted := true,
        channels := .new } }

/-- A PDU in two packets, the first of which ends in the middle of a transfer. -/
def sampleBulk : ScriptedIo where
  interrupt := []
  bulk := [.ok ((([sampleTransfer].flatMap (Transfer.fragments 3)).flatMap AclPacket.raw).take 6),
    .error .timeout,
    .ok ((([sampleTransfer].flatMap (Transfer.fragments 3)).flatMap AclPacket.raw).drop 6)]

theorem host_reception_sampleBulk :
    Exec.forEach ClassicHost.processAcl ((UsbTransport.returned
        (UsbTransport.polls 9 { backend := sampleBulk, layout := ⟨0x81, 0x82⟩ }).1).filterMap
          Packet.acl?) sampleLinked =
      Exec.forEach ClassicHost.processPdu [[2, 0, 0x11, 0, 7, 8]]
        (sampleLinked.setAssembler (sampleLinked.aclAssembler.clearHandle 3)) :=
  host_reception sampleLinked _ rfl (by decide) [sampleTransfer] (by simp)
    (by simp [sampleTransfer, maxHciPacketSize]) ⟨0x81, 0x82⟩ [] sampleBulk (by decide +kernel)
    (by decide) (by decide +kernel) 9 (by decide +kernel)

end ClassicHid
