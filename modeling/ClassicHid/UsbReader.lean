import ClassicHid.Foundation.Worker
import ClassicHid.Hci.Reception

/-!
# The reader thread of a USB controller

An opened controller has two halves. The reader polls the transport on a thread of its own and
hands its packets over through a queue, with a call of the activity notifier after each; the sink
writes packets in the thread of its owner. Closing sets the flag that both halves read, and waits
for the thread. A poll looks at the flag before it reads the backend, so that closing can come
between the two.

## Main definitions

* `UsbTransport.readPacket`, `usbSource`: what a poll does once it has looked at the flag, as the
  source of a worker
* `PacketReader`, `ReaderEvent`: the reader and what it hands over
* `PacketSink`, `writePacket`: the sink
* `OpenedUsb`, `OpenedUsb.Move`: both halves, and a step of the thread or of the owner

## Main results

* `reader_delivers`: what is handed over, in whatever order the two threads take their steps
* `reader_closes`: at most one read begins and nothing is written after a call to close, and the
  call returns
-/

namespace ClassicHid

open Foundation

/-! ### The reader -/

/-- What the reader hands over: a packet, the failure of a poll, or that its thread has ended. -/
abbrev ReaderEvent := Report Packet UsbError

namespace UsbTransport

variable {B : Type}

/-- The flag that the transport shares with its owner. -/
def stop (transport : UsbTransport B) : UsbTransport B := { transport with shutdown := true }

theorem stop_eq {transport : UsbTransport B} (h : transport.shutdown = true) :
    transport.stop = transport := by
  rw [stop, ← h]

/-- What a poll does once it has seen that the flag is not set. -/
def readPacket [UsbIo B] : Exec (UsbTransport B) UsbError (Option Packet) := fun transport =>
  match popPending transport with
  | (some packet, transport) => (.ok (some packet), transport)
  | (none, transport) => pollTransfer transport

/-- A poll is the look at the flag and the read behind it. -/
theorem pollPacket_eq [UsbIo B] (transport : UsbTransport B) :
    pollPacket transport =
      if transport.shutdown then (.ok none, transport) else readPacket transport := rfl

theorem popPending_stop (transport : UsbTransport B) :
    popPending transport.stop = ((popPending transport).1, (popPending transport).2.stop) := by
  rw [popPending, popPending, show transport.stop.pending = transport.pending from rfl]
  rcases transport.pending with _ | ⟨packet, pending⟩ <;> rfl

theorem receive_stop (events : Bool) (chunk : Bytes) (transport : UsbTransport B) :
    receive events chunk transport.stop =
      ((receive events chunk transport).1, (receive events chunk transport).2.stop) := by
  unfold receive
  cases events with
  | true =>
    dsimp only [stop]
    rcases framePackets 0x04 (transport.eventBytes ++ chunk) with ⟨error | packets, eventBytes⟩
    · rfl
    · exact congrArg (fun popped => (Except.ok popped.1, popped.2))
        (popPending_stop { transport with
          eventBytes := eventBytes, pending := transport.pending ++ packets })
  | false =>
    dsimp only [stop]
    rcases framePackets 0x02 (transport.aclBytes ++ chunk) with ⟨error | packets, aclBytes⟩
    · rfl
    · exact congrArg (fun popped => (Except.ok popped.1, popped.2))
        (popPending_stop { transport with
          aclBytes := aclBytes, pending := transport.pending ++ packets })

theorem transfer_stop [UsbIo B] (events : Bool) (transport : UsbTransport B) :
    transfer events transport.stop =
      ((transfer events transport).1, (transfer events transport).2.stop) := by
  unfold transfer
  cases events <;> rfl

theorem pollTransfer_stop [UsbIo B] (transport : UsbTransport B) :
    pollTransfer transport.stop =
      ((pollTransfer transport).1, (pollTransfer transport).2.stop) := by
  have hnext : transport.stop.nextEndpoint = transport.nextEndpoint := rfl
  simp only [pollTransfer, hnext, transfer_stop]
  rcases transfer (!transport.nextEndpoint) transport with ⟨error | chunk, after⟩
  · cases error <;> rfl
  · dsimp only
    split
    · rfl
    split
    · rfl
    · exact receive_stop _ _ _

/-- **A read does not look at the flag**: one that the flag overtakes is the same read. -/
theorem readPacket_stop [UsbIo B] (transport : UsbTransport B) :
    readPacket transport.stop = ((readPacket transport).1, (readPacket transport).2.stop) := by
  unfold readPacket
  rw [popPending_stop]
  rcases popPending transport with ⟨_ | packet, after⟩
  · exact pollTransfer_stop after
  · rfl

theorem shutdown_readPacket [UsbIo B] (transport : UsbTransport B) :
    (readPacket transport).2.shutdown = transport.shutdown := by
  cases hflag : transport.shutdown with
  | true =>
    rw [← stop_eq hflag, readPacket_stop]
    rfl
  | false =>
    have hpoll := shutdown_pollPacket transport
    rw [pollPacket_eq, hflag, if_neg Bool.false_ne_true] at hpoll
    exact hpoll

end UsbTransport

/-- The transport as the source of a worker. -/
def usbSource (B : Type) [UsbIo B] : Source (UsbTransport B) Packet UsbError where
  read := UsbTransport.readPacket
  stop := UsbTransport.stop
  stopped := UsbTransport.shutdown
  stopped_stop _ := rfl
  stop_eq _ := UsbTransport.stop_eq
  stopped_read := UsbTransport.shutdown_readPacket
  read_stop := UsbTransport.readPacket_stop

/-- The reader: the thread that polls, the queue, and the half of the owner. -/
abbrev PacketReader (B : Type) := Worker (UsbTransport B) Packet UsbError

/-- Start the thread. `activity` says whether there is a notifier. -/
def PacketReader.spawn {B : Type} (transport : UsbTransport B) (activity : Bool) :
    PacketReader B := { source := transport, notifies := activity }

/-- The polls of the source are those of the transport. -/
theorem polls_usbSource {B : Type} [UsbIo B] (n : ℕ) (transport : UsbTransport B) :
    (usbSource B).polls n transport = UsbTransport.polls n transport := by
  induction n generalizing transport with
  | zero => rfl
  | succ n ih =>
    rw [Source.polls, ih, UsbTransport.polls]
    rfl

/-! ### The sink -/

/-- The writes of a backend: the number of bytes that were taken. -/
class UsbWrites (W : Type) where
  writeControl (requestType : UInt8) (buffer : Bytes) : W → Except UsbTransferError ℕ × W
  writeBulk (endpoint : UInt8) (buffer : Bytes) : W → Except UsbTransferError ℕ × W

/-- The failures of writing. -/
inductive UsbWriteError
  | closed
  | codec (error : CodecError)
  | transfer (error : UsbTransferError)
  | partialWrite (expected actual : ℕ)
  deriving DecidableEq, Repr

/-- Where packets are written. -/
structure PacketSink (W : Type) where
  backend : W
  bulkOut : UInt8

/-- The type of a control transfer to the device, of the class. -/
def classRequest : UInt8 := 0x20

/-- What comes of a write. -/
def writeResult (payload : Bytes) : Except UsbTransferError ℕ → Except UsbWriteError Unit
  | .error error => .error (.transfer error)
  | .ok actual =>
    if actual ≠ payload.length then .error (.partialWrite payload.length actual) else .ok ()

/-- Write a packet, unless the flag is set: a command as a control transfer, an ACL packet on the
bulk endpoint, each without its type. -/
def writePacket {W : Type} [UsbWrites W] (shutdown : Bool) (packet : Packet) :
    Exec (PacketSink W) UsbWriteError Unit := fun sink =>
  if shutdown then (.error .closed, sink)
  else
    match packet.toBytes with
    | [] => (.error (.codec .emptyPacket), sink)
    | packetType :: payload =>
      if packetType = 0x01 then
        let (result, backend) := UsbWrites.writeControl classRequest payload sink.backend
        (writeResult payload result, { sink with backend := backend })
      else if packetType = 0x02 then
        let (result, backend) := UsbWrites.writeBulk sink.bulkOut payload sink.backend
        (writeResult payload result, { sink with backend := backend })
      else (.error (.codec (.unsupportedPacketType packetType)), sink)

/-- A backend that takes all that is written, and keeps it. -/
structure RecordedIo where
  control : List Bytes := []
  bulk : List Bytes := []

instance : UsbWrites RecordedIo where
  writeControl _ buffer io := (.ok buffer.length, { io with control := io.control ++ [buffer] })
  writeBulk _ buffer io := (.ok buffer.length, { io with bulk := io.bulk ++ [buffer] })

/-! ### An opened controller -/

/-- Both halves, and the results of the sends so far. -/
structure OpenedUsb (B W : Type) where
  reader : PacketReader B
  sink : PacketSink W
  sends : List (Except UsbWriteError Unit) := []

namespace OpenedUsb

/-- A step of the reader, its thread or its owner, or a packet that the owner sends. -/
inductive Move
  | reader (move : Worker.Move)
  | send (packet : Packet)

variable {B W : Type} [UsbWrites W] {opened : OpenedUsb B W}

/-- The owner sends a packet, unless it waits for the thread or is gone. -/
def send (packet : Packet) (opened : OpenedUsb B W) : OpenedUsb B W :=
  if opened.reader.free then
    let (result, sink) := writePacket opened.reader.source.shutdown packet opened.sink
    { opened with sink := sink, sends := opened.sends ++ [result] }
  else opened

/-- A send once the flag is set. -/
theorem send_shutdown (hstop : opened.reader.source.shutdown = true) (packet : Packet) :
    ∃ n, opened.send packet =
      { opened with sends := opened.sends ++ List.replicate n (.error .closed) } := by
  rw [send]
  split
  · refine ⟨1, ?_⟩
    rw [writePacket, if_pos hstop]
    rfl
  · exact ⟨0, by rw [List.replicate_zero, List.append_nil]⟩

variable [UsbIo B]

/-- A step; one that is not possible changes nothing. -/
def move (opened : OpenedUsb B W) : Move → OpenedUsb B W
  | .reader m => { opened with reader := opened.reader.move (usbSource B) m }
  | .send packet => opened.send packet

def run (moves : List Move) (opened : OpenedUsb B W) : OpenedUsb B W := moves.foldl move opened

/-- The step of the reader, if a step is one. -/
def Move.reader? : Move → Option Worker.Move
  | .reader m => some m
  | .send _ => none

/-- A transport that is split into its halves. -/
def splitTransport (transport : UsbTransport B) (sink : PacketSink W) (activity : Bool) :
    OpenedUsb B W := { reader := PacketReader.spawn transport activity, sink := sink }

/-- The sends do not disturb the reader. -/
theorem reader_run (moves : List Move) :
    (run moves opened).reader =
      opened.reader.run (usbSource B) (moves.filterMap Move.reader?) := by
  induction moves generalizing opened with
  | nil => rfl
  | cons m moves ih =>
    have hrest : (run (m :: moves) opened).reader =
        (opened.move m).reader.run (usbSource B) (moves.filterMap Move.reader?) := ih
    refine hrest.trans ?_
    cases m with
    | reader m => rfl
    | send packet =>
      have hsame : (opened.send packet).reader = opened.reader := by
        rw [send]
        split <;> rfl
      change (opened.send packet).reader.run _ _ = _
      rw [hsame]
      rfl

/-- Nothing is written any more once the flag is set. -/
theorem sink_run (moves : List Move) (hstop : opened.reader.source.shutdown = true) :
    (run moves opened).sink = opened.sink ∧
      ∃ n, (run moves opened).sends = opened.sends ++ List.replicate n (.error .closed) := by
  induction moves generalizing opened with
  | nil => exact ⟨rfl, 0, (List.append_nil _).symm⟩
  | cons m moves ih =>
    cases m with
    | reader m =>
      have hstopped : (usbSource B).stopped opened.reader.source = true := hstop
      have hstop' : (opened.move (.reader m)).reader.source.shutdown = true :=
        Worker.stopped_move hstopped m
      exact ih hstop'
    | send packet =>
      obtain ⟨first, hsend⟩ := send_shutdown hstop packet
      have hstop' : (opened.send packet).reader.source.shutdown = true := by
        rw [hsend]
        exact hstop
      obtain ⟨hsink, n, hsends⟩ := ih hstop'
      rw [hsend] at hsink hsends
      refine ⟨(congrArg (fun last => (run moves last).sink) hsend).trans hsink, first + n, ?_⟩
      refine (congrArg (fun last => (run moves last).sends) hsend).trans (hsends.trans ?_)
      rw [List.append_assoc, List.replicate_append_replicate]

end OpenedUsb

/-! ### What the owner gets -/

/-- **The reader delivers**: in whatever order the two threads take their steps, the owner takes the
reports of the polls in their order, each once, then that the thread has ended, and then only that
nothing more can come. Only the last poll can have failed, no report is lost, and for each report
the notifier was called: all the calls have returned but the one that the thread is in, or was in
when it panicked. -/
theorem reader_delivers {B : Type} [UsbIo B] (transport : UsbTransport B) (activity : Bool)
    (moves : List Worker.Move) :
    let reader := Worker.run (usbSource B) moves (PacketReader.spawn transport activity)
    ∃ n, let polls := UsbTransport.polls n transport
      reader.source.backend = polls.2.backend ∧
      (∀ result ∈ polls.1.dropLast, result.isOk = true) ∧
      reader.taken <+: reports polls.1 ++ [.ended] ∧
      (.disconnected ∈ reader.heard → reader.stage.hasPanicked = false →
        reader.taken = reports polls.1 ++ [.ended]) ∧
      (reader.heard.Pairwise fun first later => first = .disconnected → later = .disconnected) ∧
      reader.lost = [] ∧
      (reader.released = false → reader.taken ++ reader.queue = reader.sent) ∧
      (activity = true →
        reader.notified + reader.stage.unnotified = reader.sent.length) := by
  intro reader
  have hsound : Worker.Sound (usbSource B) transport reader :=
    Worker.sound_run (usbSource B) transport activity moves
  obtain ⟨n, hpolled, hsource⟩ := hsound.polls
  rw [polls_usbSource] at hpolled hsource
  refine ⟨n, ?_, ?_, ?_, ?_, hsound.last, hsound.lost, hsound.queue, fun hactivity => ?_⟩
  · rcases hsource with hsource | hsource <;> rw [hsource]
    rfl
  · rw [hpolled]
    exact hsound.failures
  · rw [hpolled]
    exact hsound.taken_isPrefix
  · rw [hpolled]
    exact hsound.taken_eq
  · apply hsound.notified
    exact (Worker.notifies_run moves).trans hactivity

/-- **The reader closes**: after a call to close or to drop, at most one read of the backend begins,
and only if the poll had already looked at the flag when the call set it; nothing is written,
whatever steps follow, and what the owner sends is refused; with six more steps of the thread the
call returns. A panic of the thread is told at most once. -/
theorem reader_closes {B W : Type} [UsbIo B] [UsbWrites W] (transport : UsbTransport B)
    (sink : PacketSink W) (activity : Bool) (moves later : List OpenedUsb.Move)
    (call : Worker.Call) :
    let before := OpenedUsb.run moves (OpenedUsb.splitTransport transport sink activity)
    let after := OpenedUsb.run (.reader (.halt call) :: later) before
    let read := UsbTransport.readPacket before.reader.source
    ((after.reader.source = before.reader.source.stop ∧
        after.reader.polled = before.reader.polled) ∨
      (before.reader.stage = .reading ∧ after.reader.source = read.2.stop ∧
        after.reader.polled = before.reader.polled ++ [read.1])) ∧
      after.sink = before.sink ∧
      (∃ n, after.sends = before.sends ++ List.replicate n (.error .closed)) ∧
      (6 ≤ (later.filterMap OpenedUsb.Move.reader?).count .work →
        (after.move (.reader .join)).reader.waiting = none) ∧
      after.reader.closings.count true ≤ 1 ∧
      (true ∈ after.reader.closings → after.reader.stage.hasPanicked = true) := by
  intro before after read
  have hbefore : before.reader = Worker.run (usbSource B) (moves.filterMap OpenedUsb.Move.reader?)
      { source := transport, notifies := activity } := OpenedUsb.reader_run moves
  have hafter : after.reader = Worker.run (usbSource B)
      (.halt call :: later.filterMap OpenedUsb.Move.reader?) before.reader :=
    OpenedUsb.reader_run (.reader (.halt call) :: later)
  obtain ⟨hread, hover⟩ := Worker.ends_run transport activity _ _ call hbefore hafter
  have hhalted : Worker.Halted (usbSource B) before.reader :=
    hbefore ▸ Worker.halted_run transport activity _
  have hflag : (before.move (.reader (.halt call))).reader.source.shutdown = true := by
    have hhalt := (hhalted.halt call).1
    exact (congrArg UsbTransport.shutdown hhalt).trans rfl
  obtain ⟨hsink, n, hsends⟩ := OpenedUsb.sink_run later hflag
  have hsound : Worker.Sound (usbSource B) transport after.reader := by
    rw [hafter, hbefore, ← Worker.run_append]
    exact Worker.sound_run (usbSource B) transport activity _
  exact ⟨hread, hsink, ⟨n, hsends⟩, fun hlater => Worker.waiting_join (hover hlater),
    hsound.count_closings⟩

end ClassicHid
