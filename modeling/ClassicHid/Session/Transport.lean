import ClassicHid.Session.Controller
import ClassicHid.UsbReader

/-!
# The controller of a session behind USB

A session asks its controller for packets. Behind USB each answer is what the reader thread has
handed over by then, so the session sees the bytes of the controller through the transport, the
thread and the queue. What it sees is a beginning of what was sent, in order, and it is told that
the source has ended only when that is so.

## Main definitions

* `UsbHciIo.answer`, `OpenedUsb.hciIo`: an opened controller as a session sees it

## Main results

* `session_reception`: the PDUs that a session can put together from the answers
-/

namespace ClassicHid

open Foundation

namespace UsbHciIo

/-- The answer to a session that asks for a packet. -/
def answer : Heard Packet UsbError → Except Error (Option Packet)
  | .report (.item packet) => .ok (some packet)
  | .report (.failed _) => .error (.withSource .sourceTerminated .transport)
  | .report .ended | .disconnected => .error (.new .sourceTerminated)
  | .timeout => .ok none

/-- The result of a send. -/
def sendResult (result : Except UsbWriteError Unit) : Except Error Unit :=
  result.mapError fun _ => .withSource .sourceTerminated .transport

/-- The result of closing. -/
def closeResult (panicked : Bool) : Except Error Unit :=
  if panicked then .error (.withSource .closeFailed .transport) else .ok ()

theorem isOk_answer (heard : Heard Packet UsbError) :
    (answer heard).isOk = !heard.final := by
  rcases heard with (packet | error | _) | _ | _ <;> rfl

/-- The packet of an answer is the item that was heard. -/
theorem packet_answer (heard : Heard Packet UsbError) :
    (answer heard).toOption.join = heard.report?.bind Report.item? := by
  rcases heard with (packet | error | _) | _ | _ <;> rfl

end UsbHciIo

/-- What an opened controller has been for its session: the answers that it gave, the results of
the sends and of closing. -/
def OpenedUsb.hciIo {B W : Type} (opened : OpenedUsb B W) (metadata : UsbAdapterMetadata) :
    HciIo where
  answers := opened.reader.heard.map UsbHciIo.answer
  sendResults := opened.sends.map UsbHciIo.sendResult
  closeResult := UsbHciIo.closeResult (opened.reader.closings.headD false)
  metadata := metadata

/-- The packets of answers. -/
def HciIo.packets (io : HciIo) : List Packet :=
  io.answers.filterMap fun answer => answer.toOption.join

/-- The packets that a session gets are the items that its reader took from the queue. -/
theorem packets_hciIo {B W : Type} (opened : OpenedUsb B W) (metadata : UsbAdapterMetadata) :
    (opened.hciIo metadata).packets = opened.reader.taken.filterMap Report.item? := by
  rw [HciIo.packets, OpenedUsb.hciIo, List.filterMap_map, Worker.taken, List.filterMap_filterMap]
  exact List.filterMap_congr fun heard _ => UsbHciIo.packet_answer heard

/-- The items of reports are the packets that polls returned. -/
theorem filterMap_item?_reports (results : List (Except UsbError (Option Packet))) :
    (reports results).filterMap Report.item? = UsbTransport.returned results := by
  rw [reports, List.filterMap_filterMap]
  refine List.filterMap_congr fun result _ => ?_
  rcases result with error | _ | packet <;> rfl

/-- **The reception of a session**: for every order of steps of the reader thread and its owner, with
whatever is sent in between and whenever the controller is closed, the answers that a session gets
bring no packet after an error; what an assembler completes from them for a connection is a
beginning of its PDUs; as long as the controller is not closed and nothing panics there is no
error; and once enough polls were made and the queue is empty it is all of the PDUs, if all of the
stream has arrived. -/
theorem session_reception {W : Type} [UsbWrites W] (layout : UsbLayout) (sink : PacketSink W)
    (activity : Bool) (metadata : UsbAdapterMetadata) (events : List EventPacket)
    (handles : List UInt16) (hhandles : ∀ handle ∈ handles, handle ≤ 0x0FFF)
    (transfers : UInt16 → List Transfer)
    (hsize : ∀ handle ∈ handles, ∀ transfer ∈ transfers handle,
      transfer.payloadSize + 5 ≤ maxHciPacketSize)
    (stream : List AclPacket) (hstream : Interleaves handles transfers stream)
    (script : ScriptedIo)
    (hreads : ∀ read ∈ script.interrupt ++ script.bulk, isTransfer read = true)
    (hinterrupt : readBytes script.interrupt <+: events.flatMap EventPacket.raw)
    (hbulk : readBytes script.bulk <+: stream.flatMap AclPacket.raw)
    (moves : List OpenedUsb.Move) {opened : OpenedUsb ScriptedIo W}
    (hopened : opened = OpenedUsb.run moves
      (OpenedUsb.splitTransport { backend := script, layout := layout } sink activity))
    {io : HciIo} (hio : io = opened.hciIo metadata) :
    (io.answers.Pairwise fun first later =>
        first.isOk = false → later.toOption.join = none) ∧
      ((∀ m ∈ moves.filterMap OpenedUsb.Move.reader?, m = .work ∨ m = .receive ∨ m = .join) →
        ∀ answer ∈ io.answers, answer.isOk = true) ∧
      ∀ handle ∈ handles, ∀ assembler : AclAssembler,
        assembler.completed handle (io.packets.filterMap Packet.acl?) <+:
            (transfers handle).map (·.pdu) ∧
          (opened.reader.stage = .checking → opened.reader.queue = [] →
            readBytes script.bulk = stream.flatMap AclPacket.raw →
            events.length + stream.length + 2 * (script.interrupt.length + script.bulk.length) <
              opened.reader.polled.length →
            assembler.completed handle (io.packets.filterMap Packet.acl?) =
              (transfers handle).map (·.pdu)) := by
  have hreader : opened.reader = Worker.run (usbSource ScriptedIo)
      (moves.filterMap OpenedUsb.Move.reader?)
      { source := { backend := script, layout := layout }, notifies := activity } :=
    hopened ▸ OpenedUsb.reader_run moves
  have hsound : Worker.Sound (usbSource ScriptedIo) { backend := script, layout := layout }
      opened.reader := hreader ▸ Worker.sound_run _ _ activity _
  have hfits := hstream.fits hhandles hsize
  obtain ⟨n, hpolled, -⟩ := hsound.polls
  have hlength : opened.reader.polled.length = n := by
    rw [← hpolled, Source.length_polls]
  rw [polls_usbSource] at hpolled
  obtain ⟨-, harrived, hwhole⟩ :=
    UsbTransport.returned_acls layout events stream hfits script hreads hinterrupt hbulk n
  rw [hpolled] at harrived hwhole
  have hpackets : io.packets = opened.reader.taken.filterMap Report.item? := by
    rw [hio, packets_hciIo]
  refine ⟨?_, fun hmoves => ?_, fun handle hhandle assembler => ?_⟩
  · rw [hio]
    refine List.pairwise_map.mpr (hsound.final.imp fun {first later} hfinal herror => ?_)
    rw [UsbHciIo.isOk_answer, Bool.not_eq_false'] at herror
    rw [UsbHciIo.packet_answer]
    exact hfinal herror
  · -- A transport that reads what fits into its buffers has no poll that fails.
    have hgoing : Worker.Going (usbSource ScriptedIo)
        (fun transport => ∃ delivered, UsbTransport.Framed events stream script delivered transport)
        opened.reader := by
      rw [hreader]
      refine Worker.Going.run ?_ ⟨⟨[], UsbTransport.framed_new layout⟩, rfl, rfl, rfl⟩ _ hmoves
      rintro transport ⟨delivered, hframed⟩
      obtain ⟨packet, hpacket, hnext⟩ := hframed.poll hfits hreads hinterrupt hbulk
      refine ⟨?_, _, hnext⟩
      rw [show ((usbSource ScriptedIo).poll transport).1 = .ok packet from hpacket]
      rfl
    rw [hio]
    intro answer hanswer
    obtain ⟨heard, hheard, rfl⟩ := List.mem_map.mp hanswer
    rw [UsbHciIo.isOk_answer, hsound.heard_going hgoing.stage heard hheard]
    rfl
  · have hall :=
      AclAssembler.completed_interleaves hstream hhandle (hhandles handle hhandle) assembler
    have hfirst : io.packets <+: UsbTransport.returned opened.reader.polled := by
      have htaken := hsound.taken_isPrefix.filterMap Report.item?
      rw [List.filterMap_append, filterMap_item?_reports, ← hpackets] at htaken
      exact htaken.trans (List.append_nil _ ▸ List.prefix_refl _)
    refine ⟨?_, fun hstage hqueue hbytes hn => ?_⟩
    · rw [← hall]
      exact AclAssembler.completed_isPrefix ((hfirst.filterMap _).trans harrived) handle assembler
    · rw [hpackets, hsound.taken_checking hstage hqueue, filterMap_item?_reports,
        hwhole hbytes (hlength ▸ hn), hall]

/-- Eleven polls of the sample stream, of which four bring a packet, and then the packets are
taken. -/
def sampleReception : List OpenedUsb.Move :=
  List.replicate 41 (.reader .work) ++ List.replicate 4 (.reader .receive)

/-- The stream of two connections, read by the thread and then taken. -/
def sampleOpened : OpenedUsb ScriptedIo RecordedIo :=
  OpenedUsb.run sampleReception
    (OpenedUsb.splitTransport { backend := splitScript, layout := ⟨0x81, 0x82⟩ }
      { backend := {}, bulkOut := 0x02 } true)

theorem session_reception_sampleOpened :
    AclAssembler.completed 3 {} ((sampleOpened.hciIo ⟨0, 0, 0, 0, []⟩).packets.filterMap
      Packet.acl?) = [[2, 0, 0x11, 0, 7, 8]] := by
  have hhandles : ∀ handle ∈ ([1, 3] : List UInt16), handle ≤ 0x0FFF := by
    simp only [List.forall_mem_cons, List.not_mem_nil, false_implies, implies_true, and_true]
    decide
  have hsize : ∀ handle ∈ ([1, 3] : List UInt16), ∀ transfer ∈ [sampleTransfer],
      transfer.payloadSize + 5 ≤ maxHciPacketSize := by
    rintro handle - transfer htransfer
    rw [List.mem_singleton.mp htransfer]
    decide
  have hwhole : readBytes splitScript.bulk = sampleStream.flatMap AclPacket.raw := by
    decide +kernel
  have hresult := session_reception ⟨0x81, 0x82⟩ ⟨({} : RecordedIo), 0x02⟩ true ⟨0, 0, 0, 0, []⟩
    [] [1, 3] hhandles (fun _ => [sampleTransfer]) hsize sampleStream interleaves_sampleStream
    splitScript (by decide +kernel) (by decide) ⟨[], by rw [List.append_nil, hwhole]⟩
    sampleReception (rfl : sampleOpened = _) rfl
  exact (hresult.2.2 3 (by decide) {}).2 (by decide +kernel) (by decide +kernel) hwhole
    (by decide +kernel)

end ClassicHid
