import ClassicHid.Hci.Interleaving
import ClassicHid.Usb

/-!
# The reception of PDUs

The PDUs of many connections reach the host as ACL packets, and these as the bytes of transfers.
Two layers put them together again: the transport cuts the bytes of its bulk endpoint into packets
and the assembler joins the packets of each handle. Together they lose nothing and make nothing up,
wherever the transfers end and however the connections share the stream; and they do not stop
before everything that arrived has come out.

## Main definitions

* `UsbTransport.potential`: how many polls it takes at most to return all that is still to come
* `AclAssembler.completed`: the PDUs that packets complete for a handle

## Main results

* `UsbTransport.Framed.poll_potential`: a poll of a transport with work to do lowers the potential
* `pdus_received`: the PDUs that polls and the assembler bring are those that were cut
-/

namespace ClassicHid

open Foundation

/-! ### The polls that are still needed -/

namespace UsbTransport

variable {events : List EventPacket} {acls : List AclPacket} {script : ScriptedIo}
  {delivered : List Packet} {transport : UsbTransport ScriptedIo}

theorem snd_readScript (reads : List Read) : (readScript reads).2 = reads.tail := by
  cases reads <;> rfl

/-- What a transfer brings is framed without another read. -/
theorem receive_backend {B : Type} (transfers : Bool) (chunk : Bytes)
    (transport : UsbTransport B) :
    (receive transfers chunk transport).2.backend = transport.backend ∧
      (receive transfers chunk transport).2.nextEndpoint = transport.nextEndpoint ∧
      (receive transfers chunk transport).2.shutdown = transport.shutdown := by
  have hpop (waiting : UsbTransport B) :
      (popPending waiting).2.backend = waiting.backend ∧
        (popPending waiting).2.nextEndpoint = waiting.nextEndpoint ∧
        (popPending waiting).2.shutdown = waiting.shutdown := by
    rw [popPending]
    split <;> exact ⟨rfl, rfl, rfl⟩
  cases transfers with
  | false =>
    rw [receive]
    rcases framePackets 0x02 (transport.aclBytes ++ chunk) with ⟨_ | packets, buffered⟩
    · exact ⟨rfl, rfl, rfl⟩
    · exact hpop _
  | true =>
    rw [receive]
    rcases framePackets 0x04 (transport.eventBytes ++ chunk) with ⟨_ | packets, buffered⟩
    · exact ⟨rfl, rfl, rfl⟩
    · exact hpop _

/-- A poll that reads takes the next read of the endpoint whose turn it is, and the turn changes. -/
theorem pollTransfer_backend (transport : UsbTransport ScriptedIo) :
    (pollTransfer transport).2.nextEndpoint = !transport.nextEndpoint ∧
      (pollTransfer transport).2.shutdown = transport.shutdown ∧
      (pollTransfer transport).2.backend =
        if transport.nextEndpoint then
          { transport.backend with bulk := transport.backend.bulk.tail }
        else { transport.backend with interrupt := transport.backend.interrupt.tail } := by
  have hread : (transfer (!transport.nextEndpoint) transport).2 = { transport with
      nextEndpoint := !transport.nextEndpoint
      backend := if transport.nextEndpoint then
          { transport.backend with bulk := transport.backend.bulk.tail }
        else { transport.backend with interrupt := transport.backend.interrupt.tail } } := by
    rw [transfer]
    rcases transport.nextEndpoint with _ | _
    · simp only [Bool.not_false, if_true, UsbIo.readInterrupt, snd_readScript]
      rfl
    · simp only [Bool.not_true, Bool.false_eq_true, if_false, UsbIo.readBulk, snd_readScript]
      rfl
  rw [pollTransfer]
  rcases htransfer : transfer (!transport.nextEndpoint) transport with ⟨read, after⟩
  rw [htransfer] at hread
  subst hread
  rcases read with error | chunk
  · cases error <;> exact ⟨rfl, rfl, rfl⟩
  · dsimp only
    split
    · exact ⟨rfl, rfl, rfl⟩
    split
    · exact ⟨rfl, rfl, rfl⟩
    · obtain ⟨hbackend, hturn, hshutdown⟩ := receive_backend (!transport.nextEndpoint) chunk
        { transport with
          nextEndpoint := !transport.nextEndpoint
          backend := if transport.nextEndpoint then
              { transport.backend with bulk := transport.backend.bulk.tail }
            else { transport.backend with interrupt := transport.backend.interrupt.tail } }
      exact ⟨hturn, hshutdown, hbackend⟩

/-- The reads of the endpoint whose turn it is. -/
def turnReads (transport : UsbTransport ScriptedIo) : List Read :=
  if transport.nextEndpoint then transport.backend.bulk else transport.backend.interrupt

/-- Nothing waits and nothing is left to read. -/
def Drained (transport : UsbTransport ScriptedIo) : Prop :=
  transport.pending = [] ∧ transport.backend.interrupt = [] ∧ transport.backend.bulk = []

/-- The polls that it takes at most to return all that is still to come of `total` packets: one for
each packet, and two for each read, since the turn may be that of an endpoint with nothing to
read. -/
def potential (total : ℕ) (delivered : List Packet) (transport : UsbTransport ScriptedIo) : ℕ :=
  (total - delivered.length) +
    2 * (transport.backend.interrupt.length + transport.backend.bulk.length) +
    if transport.turnReads = [] then 1 else 0

/-- A transport without work stays so. -/
theorem Drained.poll (h : Drained transport) : Drained (pollPacket transport).2 := by
  obtain ⟨hpending, hinterrupt, hbulk⟩ := h
  rw [pollPacket]
  split
  · exact ⟨hpending, hinterrupt, hbulk⟩
  · rw [popPending, hpending]
    change Drained (pollTransfer transport).2
    rw [pollTransfer, transfer]
    rcases transport.nextEndpoint with _ | _
    · simp only [Bool.not_false, if_true, UsbIo.readInterrupt, hinterrupt, readScript]
      exact ⟨hpending, rfl, hbulk⟩
    · simp only [Bool.not_true, Bool.false_eq_true, if_false, UsbIo.readBulk, hbulk, readScript]
      exact ⟨hpending, hinterrupt, rfl⟩

/-- What was delivered or waits is no more than what was sent. -/
theorem Framed.length_le (h : Framed events acls script delivered transport) :
    delivered.length + transport.pending.length ≤ events.length + acls.length := by
  have hsplit (packets : List Packet)
      (hkinds : ∀ packet ∈ packets, packet.event?.isSome ∨ packet.acl?.isSome) :
      packets.length =
        (packets.filterMap Packet.event?).length + (packets.filterMap Packet.acl?).length := by
    induction packets with
    | nil => rfl
    | cons packet packets ih =>
      have hrest := ih fun other hother => hkinds other (List.mem_cons_of_mem _ hother)
      have hkind := hkinds packet List.mem_cons_self
      rcases packet with command | event | acl
      · simp [Packet.event?, Packet.acl?] at hkind
      · simp only [List.filterMap_cons, Packet.event?, Packet.acl?, List.length_cons] at hrest ⊢
        omega
      · simp only [List.filterMap_cons, Packet.event?, Packet.acl?, List.length_cons] at hrest ⊢
        omega
  have harrived {α : Type} {raw : α → Bytes} {items arrived : List α} {reads rest : List Read}
      {buffer : Bytes} (hstream : Streamed raw items reads rest arrived buffer) :
      arrived.length ≤ items.length := by
    obtain ⟨read, -, hcut⟩ := hstream
    have hitems := congrArg List.length (cut_arrived raw items (readBytes read))
    rw [hcut, List.length_append] at hitems
    exact Nat.le_trans (Nat.le_add_right _ _) (Nat.le_of_eq hitems.symm)
  have hlength := hsplit _ h.kinds
  rw [List.length_append] at hlength
  have hevents := harrived h.events
  have hacls := harrived h.acls
  omega

/-- **A poll of a transport with work to do** lowers the potential. -/
theorem Framed.poll_potential (h : Framed events acls script delivered transport)
    (hopen : transport.shutdown = false) (hwork : ¬ Drained transport) {packet : Option Packet}
    (hpacket : (pollPacket transport).1 = .ok packet)
    (hnext : Framed events acls script (delivered ++ packet.toList) (pollPacket transport).2) :
    potential (events.length + acls.length) (delivered ++ packet.toList) (pollPacket transport).2 <
      potential (events.length + acls.length) delivered transport := by
  have hlength := h.length_le
  rcases hpending : transport.pending with _ | ⟨waiting, pending⟩
  · have hpoll : pollPacket transport = pollTransfer transport := by
      rw [pollPacket, if_neg (by rw [hopen]; exact Bool.false_ne_true), popPending, hpending]
    obtain ⟨hturn, -, hbackend⟩ := pollTransfer_backend transport
    rw [hpoll, potential, potential, turnReads, turnReads, hturn, hbackend, List.length_append]
    have hreads : ¬ (transport.backend.interrupt = [] ∧ transport.backend.bulk = []) := by
      rintro ⟨hinterrupt, hbulk⟩
      exact hwork ⟨hpending, hinterrupt, hbulk⟩
    -- Either a read is taken, or the turn goes to the endpoint that has one.
    rcases transport.nextEndpoint with _ | _
    · rcases hinterrupt : transport.backend.interrupt with _ | ⟨read, rest⟩
      · have hbulk : transport.backend.bulk ≠ [] := by
          intro hbulk
          exact hreads ⟨hinterrupt, hbulk⟩
        simp [hbulk]
        omega
      · simp
        split <;> omega
    · rcases hbulk : transport.backend.bulk with _ | ⟨read, rest⟩
      · have hinterrupt : transport.backend.interrupt ≠ [] := by
          intro hinterrupt
          exact hreads ⟨hinterrupt, hbulk⟩
        simp [hinterrupt]
        omega
      · simp
        split <;> omega
  · have hpoll : pollPacket transport =
        (.ok (some waiting), { transport with pending := pending }) := by
      rw [pollPacket, if_neg (by rw [hopen]; exact Bool.false_ne_true), popPending, hpending]
    rw [hpoll] at hpacket
    cases hpacket
    rw [hpending, List.length_cons] at hlength
    rw [hpoll, potential, potential, turnReads, turnReads, List.length_append]
    simp only [Option.toList_some, List.length_singleton]
    omega

/-- A poll leaves the flag as it is. -/
theorem shutdown_pollPacket {B : Type} [UsbIo B] (transport : UsbTransport B) :
    (pollPacket transport).2.shutdown = transport.shutdown := by
  have htransfer : (pollTransfer transport).2.shutdown = transport.shutdown := by
    have hread : (transfer (!transport.nextEndpoint) transport).2.shutdown =
        transport.shutdown := by
      rw [transfer]
    rw [pollTransfer]
    rcases htransfer : transfer (!transport.nextEndpoint) transport with ⟨error | chunk, after⟩ <;>
      rw [htransfer] at hread
    · cases error <;> exact hread
    · dsimp only
      split
      · exact hread
      split
      · exact hread
      · exact (receive_backend _ _ _).2.2.trans hread
  rw [pollPacket]
  split
  · rfl
  rcases hpending : transport.pending with _ | ⟨packet, pending⟩
  · rw [popPending, hpending]
    exact htransfer
  · rw [popPending, hpending]

/-- **Enough polls** leave nothing to do. -/
theorem Framed.drained_polls (h : Framed events acls script delivered transport)
    (hsize : ∀ packet ∈ acls, packet.raw.length < maxHciPacketSize)
    (hreads : ∀ read ∈ script.interrupt ++ script.bulk, isTransfer read = true)
    (hinterrupt : readBytes script.interrupt <+: events.flatMap EventPacket.raw)
    (hbulk : readBytes script.bulk <+: acls.flatMap AclPacket.raw)
    (hopen : transport.shutdown = false) {n : ℕ}
    (hn : potential (events.length + acls.length) delivered transport ≤ n) :
    Drained (UsbTransport.polls n transport).2 := by
  induction n generalizing delivered transport with
  | zero =>
    by_contra hwork
    obtain ⟨packet, hpacket, hnext⟩ := h.poll hsize hreads hinterrupt hbulk
    have hless := h.poll_potential hopen hwork hpacket hnext
    omega
  | succ n ih =>
    obtain ⟨packet, hpacket, hnext⟩ := h.poll hsize hreads hinterrupt hbulk
    simp only [UsbTransport.polls]
    by_cases hwork : Drained transport
    · have hstays (m : ℕ) (later : UsbTransport ScriptedIo) (hlater : Drained later) :
          Drained (UsbTransport.polls m later).2 := by
        induction m generalizing later with
        | zero => exact hlater
        | succ m ih => exact ih _ hlater.poll
      exact hstays n _ hwork.poll
    · have hless := h.poll_potential hopen hwork hpacket hnext
      exact ih hnext ((shutdown_pollPacket transport).trans hopen) (by omega)

/-- **The ACL packets that polls return** are a beginning of the stream, and with enough polls all
of it: one poll for each packet, and two more for each read. -/
theorem returned_acls (layout : UsbLayout) (events : List EventPacket) (stream : List AclPacket)
    (hsize : ∀ packet ∈ stream, packet.raw.length < maxHciPacketSize) (script : ScriptedIo)
    (hreads : ∀ read ∈ script.interrupt ++ script.bulk, isTransfer read = true)
    (hinterrupt : readBytes script.interrupt <+: events.flatMap EventPacket.raw)
    (hbulk : readBytes script.bulk <+: stream.flatMap AclPacket.raw) (n : ℕ) :
    let results := (UsbTransport.polls n { backend := script, layout := layout }).1
    (∀ result ∈ results, result.isOk = true) ∧
      (returned results).filterMap Packet.acl? <+: stream ∧
      (readBytes script.bulk = stream.flatMap AclPacket.raw →
        events.length + stream.length + 2 * (script.interrupt.length + script.bulk.length) < n →
        (returned results).filterMap Packet.acl? = stream) := by
  intro results
  have hnew : Framed events stream script [] { backend := script, layout := layout } :=
    framed_new layout
  obtain ⟨hok, hframed⟩ := hnew.polls hsize hreads hinterrupt hbulk n
  obtain ⟨reads, hread, hcut⟩ := hframed.acls
  refine ⟨hok, ?_, fun hwhole hn => ?_⟩
  · refine List.IsPrefix.trans ?_ ⟨_, (cut_arrived AclPacket.raw stream (readBytes reads)).symm⟩
    rw [hcut, List.nil_append, List.filterMap_append]
    exact List.prefix_append _ _
  · -- With enough polls nothing waits, so all of the stream was returned.
    obtain ⟨hpending, -, hrest⟩ := hnew.drained_polls hsize hreads hinterrupt hbulk rfl (n := n) (by
      rw [potential]
      split <;> simp <;> omega)
    rw [hrest, List.append_nil] at hread
    rw [← hread, hwhole, hpending, List.append_nil, List.nil_append, cut_flatMap] at hcut
    exact (congrArg Prod.fst hcut).symm

end UsbTransport

/-! ### The PDUs that come out -/

namespace AclAssembler

/-- The PDUs that packets complete for a handle. -/
def completed (handle : UInt16) (assembler : AclAssembler) (packets : List AclPacket) :
    List Bytes :=
  (outputsOf step AclPacket.connectionHandle assembler packets handle).filterMap
    fun outcome => outcome.toOption.join

/-- More packets complete more PDUs. -/
theorem completed_isPrefix {packets stream : List AclPacket} (h : packets <+: stream)
    (handle : UInt16) (assembler : AclAssembler) :
    completed handle assembler packets <+: completed handle assembler stream := by
  obtain ⟨rest, rfl⟩ := h
  rw [completed, completed, localizes.outputs, localizes.outputs, List.filter_append,
    outputs_append, List.filterMap_append]
  exact List.prefix_append _ _

/-- The packets of a handle complete the PDUs that were cut for it. -/
theorem completed_interleaves {handles : List UInt16} {transfers : UInt16 → List Transfer}
    {stream : List AclPacket} (hstream : Interleaves handles transfers stream) {handle : UInt16}
    (hhandle : handle ∈ handles) (hle : handle ≤ 0x0FFF) (assembler : AclAssembler) :
    completed handle assembler stream = (transfers handle).map (·.pdu) := by
  have hfilter := hstream handle
  rw [if_pos hhandle] at hfilter
  rw [completed, localizes.outputs, hfilter,
    (Transfer.outputs_flatMap_fragments hle (transfers handle) (entry handle assembler)).1]
  induction transfers handle with
  | nil => rfl
  | cons transfer transfers ih =>
    rw [List.flatMap_cons, List.filterMap_append, ih, List.map_cons, Transfer.outcomes,
      List.filterMap_append, List.filterMap_eq_nil_iff.mpr]
    · rfl
    · intro outcome houtcome
      rw [List.eq_of_mem_replicate houtcome]
      rfl

end AclAssembler

/-- A packet that was cut is no longer than the payload size allows. -/
theorem Transfer.length_raw_le {handle : UInt16} (hle : handle ≤ 0x0FFF) (transfer : Transfer)
    {packet : AclPacket} (h : packet ∈ transfer.fragments handle) :
    packet.raw.length ≤ 4 + transfer.payloadSize := by
  obtain ⟨-, hsize, first, rest, hfragments, -, -, hfirst, hdata, -⟩ :=
    fragmentL2capPdu_ok (transfer.fragmentL2capPdu_eq hle)
  have hpacket : packet.data.length ≤ transfer.payloadSize := by
    rw [hfragments] at h
    rcases List.mem_cons.mp h with rfl | hmem
    · rw [hfirst]
      exact List.length_take_le _ _
    · have hpiece : packet.data ∈ chunks transfer.payloadSize
          (transfer.pdu.drop transfer.payloadSize) := by
        rw [← hdata]
        exact List.mem_map_of_mem hmem
      exact length_le_of_mem_chunks hpiece
  simp only [AclPacket.raw, toLe16, List.cons_append, List.nil_append, List.length_cons]
  omega

/-- Packets that are cut short enough fit into a transfer. -/
theorem Interleaves.fits {handles : List UInt16} {transfers : UInt16 → List Transfer}
    {stream : List AclPacket} (hstream : Interleaves handles transfers stream)
    (hhandles : ∀ handle ∈ handles, handle ≤ 0x0FFF)
    (hsize : ∀ handle ∈ handles, ∀ transfer ∈ transfers handle,
      transfer.payloadSize + 5 ≤ maxHciPacketSize) :
    ∀ packet ∈ stream, packet.raw.length < maxHciPacketSize := by
  intro packet hpacket
  have hmem : packet ∈ stream.filter fun other =>
      other.connectionHandle = packet.connectionHandle :=
    List.mem_filter.mpr ⟨hpacket, decide_eq_true rfl⟩
  rw [hstream packet.connectionHandle] at hmem
  split at hmem
  · rename_i hhandle
    obtain ⟨transfer, htransfer, hfragment⟩ := List.mem_flatMap.mp hmem
    have hraw := transfer.length_raw_le (hhandles _ hhandle) hfragment
    have hpayload := hsize _ hhandle transfer htransfer
    omega
  · exact absurd hmem List.not_mem_nil

/-- **The reception of PDUs**: the fragments of many connections, in any order that keeps the order
of each connection and in whatever transfers they arrive, bring no poll to fail; what they complete
for a connection is a beginning of its PDUs; and when all of the stream has arrived, it is all of
them once there were as many polls as packets, and two more for each read. -/
theorem pdus_received (layout : UsbLayout) (events : List EventPacket) (handles : List UInt16)
    (hhandles : ∀ handle ∈ handles, handle ≤ 0x0FFF) (transfers : UInt16 → List Transfer)
    (hsize : ∀ handle ∈ handles, ∀ transfer ∈ transfers handle,
      transfer.payloadSize + 5 ≤ maxHciPacketSize)
    (stream : List AclPacket) (hstream : Interleaves handles transfers stream)
    (script : ScriptedIo)
    (hreads : ∀ read ∈ script.interrupt ++ script.bulk, isTransfer read = true)
    (hinterrupt : readBytes script.interrupt <+: events.flatMap EventPacket.raw)
    (hbulk : readBytes script.bulk <+: stream.flatMap AclPacket.raw) (n : ℕ)
    {results : List (Except UsbError (Option Packet))}
    (hresults : results = (UsbTransport.polls n { backend := script, layout := layout }).1) :
    (∀ result ∈ results, result.isOk = true) ∧
      ∀ handle ∈ handles, ∀ assembler : AclAssembler,
        assembler.completed handle ((UsbTransport.returned results).filterMap Packet.acl?) <+:
            (transfers handle).map (·.pdu) ∧
          (readBytes script.bulk = stream.flatMap AclPacket.raw →
            events.length + stream.length +
                2 * (script.interrupt.length + script.bulk.length) < n →
            assembler.completed handle ((UsbTransport.returned results).filterMap Packet.acl?) =
              (transfers handle).map (·.pdu)) := by
  have hfits := hstream.fits hhandles hsize
  obtain ⟨hok, harrived, hwhole⟩ :=
    UsbTransport.returned_acls layout events stream hfits script hreads hinterrupt hbulk n
  rw [← hresults] at hok harrived hwhole
  refine ⟨hok, fun handle hhandle assembler => ?_⟩
  have hall :=
    AclAssembler.completed_interleaves hstream hhandle (hhandles handle hhandle) assembler
  refine ⟨hall ▸ AclAssembler.completed_isPrefix harrived handle assembler, fun hbytes hn => ?_⟩
  rw [hwhole hbytes hn, hall]

/-- The sample stream is an interleaving of one PDU for each of two connections. -/
theorem interleaves_sampleStream :
    Interleaves [1, 3] (fun _ => [sampleTransfer]) sampleStream := by
  have hfragments (handle : UInt16) (h : handle ∈ ([1, 3] : List UInt16)) :
      sampleStream.filter (fun packet => packet.connectionHandle = handle) =
        [sampleTransfer].flatMap (Transfer.fragments handle) := by
    simp only [List.mem_cons, List.not_mem_nil, or_false] at h
    rcases h with rfl | rfl <;> decide +kernel
  intro handle
  split
  · rename_i h
    exact hfragments handle h
  · rename_i h
    rw [List.filter_eq_nil_iff]
    intro packet hpacket heq
    have hhandle : ∀ packet ∈ sampleStream, packet.connectionHandle ∈ ([1, 3] : List UInt16) := by
      decide
    rw [← of_decide_eq_true heq] at h
    exact h (hhandle packet hpacket)

/-- The stream of two connections in two transfers, the first of which ends within a header. -/
def splitScript : ScriptedIo where
  interrupt := []
  bulk := [.ok ((sampleStream.flatMap AclPacket.raw).take 11), .error .timeout,
    .ok ((sampleStream.flatMap AclPacket.raw).drop 11)]

theorem pdus_received_splitScript :
    AclAssembler.completed 3 {} ((UsbTransport.returned
      (UsbTransport.polls 11 { backend := splitScript, layout := ⟨0x81, 0x82⟩ }).1).filterMap
        Packet.acl?) = [[2, 0, 0x11, 0, 7, 8]] := by
  have hhandles : ∀ handle ∈ ([1, 3] : List UInt16), handle ≤ 0x0FFF := by
    simp only [List.forall_mem_cons, List.not_mem_nil, false_implies, implies_true, and_true]
    decide
  have hwhole : readBytes splitScript.bulk = sampleStream.flatMap AclPacket.raw := by
    decide +kernel
  have hresult := pdus_received ⟨0x81, 0x82⟩ [] [1, 3] hhandles (fun _ => [sampleTransfer])
    (fun handle _ transfer htransfer => by
      rw [List.mem_singleton.mp htransfer]
      decide)
    sampleStream interleaves_sampleStream splitScript (by decide +kernel) (by decide)
    ⟨[], by rw [List.append_nil, hwhole]⟩ 11 rfl
  exact (hresult.2 3 (by decide) {}).2 hwhole (by decide)

end ClassicHid
