import ClassicHid.Session.Channels
import ClassicHid.Session.Strangers

/-!
# The capacity to send a report

A session that says it has the capacity to send an input report knows that the controller has a
buffer for it, and remembers that the interrupt channel was open. It does not ask the channel. The
peer may have closed it since, or may have asked for shorter SDUs, and then the report is refused.

## Main definitions

* `SentAtOnce`: a report goes to the controller in one packet, and nothing else does

## Main results

* `ClassicHost.sendChannelSdu_single`: one SDU becomes one packet
* `Reachable.payloadSize_le`: the size of an ACL packet stays what the controller said
* `interrupt_sent_at_once_iff`: when a report is sent, given the capacity
-/

namespace ClassicHid

open Foundation BackendSession World

variable {S : Type}

/-! ### One SDU in one packet -/

/-- The channel with this identifier is open, and its peer takes SDUs of this length. -/
def ClassicHost.Takes (host : ClassicHost S) (cid : UInt16) (length : ℕ) : Prop :=
  ∃ psm mtu, host.channelInfo cid = some (psm, mtu, true) ∧ length ≤ mtu.toNat

theorem wellFormedPdu_toBytes (pdu : L2capPdu) (h : pdu.payload.length ≤ 65535) :
    WellFormedPdu (pdu.toBytes false) := by
  have hlength : (UInt16.ofNat pdu.payload.length).toNat = pdu.payload.length :=
    UInt16.toNat_ofNat_of_lt' (Nat.lt_succ_of_le h)
  refine ⟨?_, ?_⟩
  · rw [L2capPdu.length_toBytes]
    omega
  · rw [L2capPdu.length_toBytes, L2capPdu.toBytes]
    simp only [Bool.false_eq_true, if_false, List.append_assoc, le16At_toLe16, hlength]

/-- A packet for which the controller has a buffer does not wait. -/
theorem AclFlow.flush_single {flow : AclFlow} (hqueued : flow.queued = [])
    (hroom : flow.inFlightTotal < flow.totalPackets) (packet : AclPacket) :
    (flow.enqueue [packet]).flush.1.queued = [] ∧ (flow.enqueue [packet]).flush.2 = [packet] := by
  have hroom' : { flow with queued := [packet] }.inFlightTotal < flow.totalPackets := hroom
  simp [flush, enqueue, hqueued, release, hroom']

namespace ClassicHost

variable {host : ClassicHost S} {connection : Connection} {c : ClassicChannel} {cid : UInt16}

/-- **One SDU becomes one packet**, which is handed over at once: the channel is open, the peer
takes the SDU, the packet is large enough for it and the controller has a buffer. -/
theorem sendChannelSdu_single (hconnection : host.connection = some connection)
    (hplain : connection.Plain) (haccepted : connection.channels.acceptedChannels = [])
    (hc : connection.channels.channel cid = some c) (hopen : c.state = .open) (sdu : Bytes)
    (hmtu : sdu.length ≤ c.peerMtu.toNat) (hsize : sdu.length + 4 ≤ host.aclFlow.payloadSize)
    (hlimit : host.aclFlow.payloadSize ≤ 65535)
    (hroom : host.interruptSendCapacityAvailable = true) :
    ∃ host' packet, sendChannelSdu cid sdu host = (.ok (), host') ∧
      packet.connectionHandle = connection.handle ∧
      packet.data = L2capPdu.toBytes ⟨c.destinationCid, sdu⟩ false ∧
      host'.output = host.output ++ [.acl packet] ∧ host'.aclFlow.queued = [] ∧
      host'.bonds = host.bonds := by
  have hhandle : connection.handle ≤ 0x0FFF := by
    refine hplain.heard.resolve_right fun hwait => ?_
    rw [hwait cid c hc] at hopen
    cases hopen
  have hsend : ChannelManager.send cid sdu connection.channels = (.ok (), ChannelManager.queued
      [{ cid := c.destinationCid, payload := sdu }] connection.channels) := by
    rcases ChannelManager.send_cases hc sdu with ⟨hclosed, _⟩ | ⟨_, _, hbasic⟩
    · exact absurd hopen hclosed
    rcases hbasic (hplain.basic.ertm hc (hplain.sound cid c hc)) with ⟨hlong, _⟩ | ⟨_, hrun⟩
    · omega
    · exact hrun
  have hpdu : (L2capPdu.toBytes ⟨c.destinationCid, sdu⟩ false).length ≤ host.aclFlow.payloadSize :=
    (L2capPdu.length_toBytes _).trans_le hsize
  have hwf : WellFormedPdu (L2capPdu.toBytes ⟨c.destinationCid, sdu⟩ false) :=
    wellFormedPdu_toBytes _ (Nat.le_of_add_right_le (Nat.le_trans hsize hlimit))
  obtain ⟨packet, hfragment, hpacket, hdata⟩ :=
    fragmentL2capPdu_single hhandle hwf hpdu (Nat.le_trans hpdu hlimit)
  simp only [interruptSendCapacityAvailable, Bool.and_eq_true, List.isEmpty_iff,
    decide_eq_true_eq] at hroom
  obtain ⟨hqueued, hreleased⟩ := AclFlow.flush_single hroom.1 hroom.2 packet
  have hall : fragmentAll connection.handle host.aclFlow.payloadSize
      (ChannelManager.queued [{ cid := c.destinationCid, payload := sdu }]
        connection.channels).outbound = .ok [packet] := by
    rw [ChannelManager.queued, hplain.outbound, List.nil_append, fragmentAll, hfragment]
    rfl
  refine ⟨_, packet, callChannels_ok hconnection hsend hall, hpacket, hdata, ?_, hqueued, rfl⟩
  simp [flushed, hreleased, openedEvents, openedChannels, ChannelManager.queued, haccepted]

/-- What was sent was sent on an open channel, whose peer takes the SDU. -/
theorem takes_of_sendChannelSdu (hplain : ∀ connection, host.connection = some connection →
    connection.Plain) {sdu : Bytes} (h : (sendChannelSdu cid sdu host).1 = .ok ()) :
    host.Takes cid sdu.length := by
  have hstep := callChannels_step (ChannelManager.send cid sdu) host
  rw [← sendChannelSdu, h] at hstep
  generalize (sendChannelSdu cid sdu host).2 = host' at hstep
  cases hstep with
  | @flushed connection channels _ _ hconnection hsend _ _ =>
    rcases hc : connection.channels.channel cid with _ | c
    · rw [ChannelManager.send, Exec.bind_error (ChannelManager.channelOr_none _ hc)] at hsend
      cases hsend
    rcases ChannelManager.send_cases hc sdu with ⟨_, error, hrun⟩ | ⟨hopen, _, hbasic⟩
    · rw [hrun] at hsend
      cases hsend
    have hertm := (hplain _ hconnection).basic.ertm hc ((hplain _ hconnection).sound cid c hc)
    rcases hbasic hertm with ⟨_, error, hrun⟩ | ⟨hmtu, _⟩
    · rw [hrun] at hsend
      cases hsend
    · exact ⟨_, _, channelInfo_eq_some.mpr ⟨c, channel?_eq_some.mpr ⟨_, hconnection, hc⟩, rfl, rfl,
        hopen⟩, hmtu⟩

end ClassicHost

/-! ### The size of a packet -/

section Size

variable [BondStore S] {w w' : World S}

theorem HostOp.payloadSize_run (op : HostOp) (host : ClassicHost S) :
    (op.run host).2.aclFlow.payloadSize = host.aclFlow.payloadSize := by
  have heffect := HostOp.effect op host
  generalize op.run host = outcome at heffect ⊢
  obtain ⟨r, host'⟩ := outcome
  cases heffect with
  | quiet _ hflow => rw [hflow]
  | stuck _ _ _ hflow =>
    rw [hflow]
    rfl
  | flushed _ _ _ _ hflow => exact hflow ▸ AclFlow.payloadSize_flush _
  | completed _ hcomplete hflow =>
    rw [hflow, AclFlow.payloadSize_flush, (AclFlow.complete_queue hcomplete).2.2]
  | connected _ hflow => rw [hflow]
  | disconnected _ _ hflow =>
    rw [hflow]
    rfl
  | popped _ _ _ hflow => rw [hflow]

theorem Runs.payloadSize (h : Runs w w') :
    w'.session.host.aclFlow.payloadSize = w.session.host.aclFlow.payloadSize := by
  induction h with
  | refl => rfl
  | tail _ hturn ih =>
    rw [← ih]
    rcases hturn.host with ⟨_, -, hhost⟩ | ⟨op, _, hhost⟩ <;> rw [hhost]
    exact op.payloadSize_run _

/-- **The size of an ACL packet** stays what the controller said, in two bytes. -/
theorem Reachable.payloadSize_le (h : Reachable w) :
    w.session.host.aclFlow.payloadSize ≤ 65535 := by
  induction h with
  | @initialized io config bonds session _ _ h =>
    rw [initializeSession] at h
    rcases hcontroller : initializeController config io with ⟨error | initialized, io'⟩ <;>
      rw [hcontroller] at h
    · cases h
    dsimp only [bind, Except.bind] at h
    rcases hselect : BondStore.selectLocalAddress initialized.localAddress bonds with
      ⟨error | _, bonds'⟩ <;> rw [hselect] at h
    · cases h
    cases h
    exact Nat.le_of_lt_succ initialized.aclPacketLength.toNat_lt
  | performed call h ih =>
    rw [(perform_runs call h.settled).1.payloadSize]
    exact ih
  | received packet h ih =>
    rw [(inbound_runs packet h.settled).1.payloadSize]
    exact ih

end Size

/-! ### Reports -/

/-- A report goes to the controller in one packet, with the header byte of an input report, to the
other end of the interrupt channel; nothing else is sent and nothing waits. -/
structure SentAtOnce (payload : Bytes) (w : World S) (outcome : Except Error Unit × World S) :
    Prop where
  result : outcome.1 = .ok ()
  packet : ∃ connection channel c packet, w.session.host.connection = some connection ∧
    w.session.protocols.interrupt = some channel ∧
    connection.channels.channel channel.cid = some c ∧
    packet.connectionHandle = connection.handle ∧
    packet.data = L2capPdu.toBytes ⟨c.destinationCid, 0xA1 :: payload⟩ false ∧
    packetsOut outcome.2.trace = packetsOut w.trace ++ [.acl packet]
  queued : outcome.2.session.host.aclFlow.queued = []

section Report

variable [BondStore S] {w : World S} {payload : Bytes}

/-- The packets that are carried out without an error are those of the output. -/
theorem drainHostOutput_sent (packets : List AclPacket)
    (hout : w.session.host.output = packets.map .acl) (hok : (drainHostOutput w).1 = .ok ()) :
    packetsOut (drainHostOutput w).2.trace = packetsOut w.trace ++ packets.map .acl := by
  induction packets generalizing w with
  | nil =>
    rw [drainHostOutput_nil hout, List.map_nil, List.append_nil]
  | cons packet packets ih =>
    -- The drain goes on only if the packet was taken.
    rw [drainHostOutput_cons hout] at hok ⊢
    rcases hsend : sendPacket (.acl packet) (w.popped (packets.map .acl)) with ⟨error | _, w'⟩
    · rw [Exec.bind_error (show handleOutput (.acl packet) _ = _ from hsend)] at hok
      cases hok
    · rw [Exec.bind_ok (show handleOutput (.acl packet) _ = _ from hsend)] at hok ⊢
      rcases hio : w.session.io with _ | io
      · simp [sendPacket, World.popped, World.set, hio] at hsend
      have hlogs := sendPacket_logs (.acl packet)
        (show (w.popped (packets.map .acl)).session.io = some io from hio)
      rw [hsend] at hlogs
      obtain rfl : w' = _ := hlogs
      rw [ih rfl hok, List.map_cons, List.append_cons]
      simp only [World.set, World.log, World.popped, packetsOut_cons]
      rfl

theorem encodeInput_eq_ok {bridge : HidpBridge} (h : payload.length + 1 ≤ bridge.interruptPeerMtu) :
    bridge.encodeInput payload = .ok (0xA1 :: payload) := by
  have hbytes : (deviceData payload).toBytes = .ok (0xA1 :: payload) := by
    simp only [Message.toBytes, deviceData, Message.messageType, Message.parameter, Message.body]
    rfl
  rw [HidpBridge.encodeInput, hbytes]
  exact if_neg (Nat.not_lt.mpr h)

omit [BondStore S] in
/-- A session with the capacity to send hands the report to its host, and then the packets of the
host to the controller. -/
theorem sendInterrupt_of_capacity {channel : ProtocolChannel}
    (hcapacity : interruptSendCapacityAvailable w.session = true)
    (hchannel : w.session.protocols.interrupt = some channel)
    (hmtu : payload.length + 1 ≤ w.session.protocols.hidp.interruptPeerMtu) :
    sendInterrupt payload w = (do
      Exec.mapError (fun source => Error.withSource .sendRejected (.host source))
        (onHost (ClassicHost.sendChannelSdu channel.cid (0xA1 :: payload)))
      drainHostOutput) w := by
  simp only [interruptSendCapacityAvailable, Bool.and_eq_true, Option.isNone_iff_eq_none,
    Bool.not_eq_true', hchannel, Option.any_some] at hcapacity
  obtain ⟨⟨⟨hterminal, hclosed⟩, hopen⟩, -⟩ := hcapacity
  have hactive : ensureActive w = (.ok (), w) := by
    rw [ensureActive, checkActive_eq_ok.mpr ⟨hclosed, hterminal⟩]
  rw [sendInterrupt, Exec.bind_ok hactive, Exec.gets_bind, hchannel]
  simp only [Option.filter_some, hopen, if_true, encodeInput_eq_ok hmtu]
  rfl

/-- With the capacity, the host makes one packet of a report that the peer of the channel takes. -/
theorem onHost_of_takes {channel : ProtocolChannel} (h : Reachable w)
    (hcapacity : interruptSendCapacityAvailable w.session = true) (hquiet : w.session.host.Quiet)
    (hsize : payload.length + 5 ≤ w.session.host.aclFlow.payloadSize)
    (htakes : w.session.host.Takes channel.cid (payload.length + 1)) :
    ∃ connection c packet host, w.session.host.connection = some connection ∧
      connection.channels.channel channel.cid = some c ∧
      packet.connectionHandle = connection.handle ∧
      packet.data = L2capPdu.toBytes ⟨c.destinationCid, 0xA1 :: payload⟩ false ∧
      host.output = w.session.host.output ++ [.acl packet] ∧ host.aclFlow.queued = [] ∧
      Exec.mapError (fun source => Error.withSource .sendRejected (.host source))
        (onHost (ClassicHost.sendChannelSdu channel.cid (0xA1 :: payload))) w =
          (.ok (), w.set ({ · with host := host })) := by
  obtain ⟨psm, mtu, hinfo, hlength⟩ := htakes
  obtain ⟨c, hchannel, -, rfl, hopen⟩ := ClassicHost.channelInfo_eq_some.mp hinfo
  obtain ⟨connection, hconnection, hc⟩ := ClassicHost.channel?_eq_some.mp hchannel
  have haccepted : connection.channels.acceptedChannels = [] := by
    simpa [ClassicHost.accepted, hconnection] using hquiet.accepted
  have hroom : w.session.host.interruptSendCapacityAvailable = true := by
    simp only [interruptSendCapacityAvailable, Bool.and_eq_true] at hcapacity
    exact hcapacity.2
  obtain ⟨host, packet, hsend, hhandle, hdata, hout, hqueued, hbonds⟩ :=
    ClassicHost.sendChannelSdu_single hconnection (h.plain hconnection) haccepted hc hopen
      (0xA1 :: payload) hlength hsize h.payloadSize_le hroom
  refine ⟨connection, c, packet, host, hconnection, hc, hhandle, hdata, hout, hqueued, ?_⟩
  simp only [Exec.mapError_apply, onHost, hsend, hosted_eq_set hbonds]
  rfl

/-- With the capacity, a report for an open channel whose peer takes it is sent at once, when the
host has nothing else to send. -/
theorem sentAtOnce_of_takes {channel : ProtocolChannel} {io : HciIo} (h : Reachable w)
    (hcapacity : interruptSendCapacityAvailable w.session = true)
    (hchannel : w.session.protocols.interrupt = some channel)
    (hio : w.session.io = some io) (haccepts : io.accepts 1 = true)
    (hmtu : payload.length + 1 ≤ w.session.protocols.hidp.interruptPeerMtu)
    (hsize : payload.length + 5 ≤ w.session.host.aclFlow.payloadSize)
    (hquiet : w.session.host.Quiet) (hout : w.session.host.output = [])
    (htakes : w.session.host.Takes channel.cid (payload.length + 1)) :
    SentAtOnce payload w (sendInterrupt payload w) := by
  obtain ⟨connection, c, packet, host, hconnection, hc, hhandle, hdata, hout', hqueued, hsent⟩ :=
    onHost_of_takes h hcapacity hquiet hsize htakes
  rw [hout] at hout'
  have hpacket := sendPacket_of_accepts (.acl packet)
    (w := (w.set ({ · with host := host })).popped []) hio haccepts
  rw [sendInterrupt_of_capacity hcapacity hchannel hmtu, Exec.bind_ok hsent,
    drainHostOutput_cons (w := w.set ({ · with host := host })) hout',
    Exec.bind_ok (show handleOutput (.acl packet) _ = _ from hpacket), drainHostOutput_nil rfl]
  exact ⟨rfl, ⟨connection, channel, c, packet, hconnection, hchannel, hc, hhandle, hdata,
    packetsOut_cons _ _ _⟩, hqueued⟩

/-- A report that is sent was sent on an open channel, and everything the host had before goes with
it. -/
theorem takes_of_sent {channel : ProtocolChannel} (h : Reachable w)
    (hcapacity : interruptSendCapacityAvailable w.session = true)
    (hchannel : w.session.protocols.interrupt = some channel)
    (hmtu : payload.length + 1 ≤ w.session.protocols.hidp.interruptPeerMtu)
    (hsize : payload.length + 5 ≤ w.session.host.aclFlow.payloadSize)
    (hquiet : w.session.host.Quiet) (hsent : SentAtOnce payload w (sendInterrupt payload w)) :
    w.session.host.output = [] ∧ w.session.host.Takes channel.cid (payload.length + 1) := by
  obtain ⟨hresult, ⟨_, _, _, packet, -, -, -, -, -, htrace⟩, -⟩ := hsent
  rw [sendInterrupt_of_capacity hcapacity hchannel hmtu] at hresult htrace
  rcases hhost : ClassicHost.sendChannelSdu channel.cid (0xA1 :: payload) w.session.host with
    ⟨error | _, host⟩
  · rw [Exec.bind_error (by rw [Exec.mapError_apply, onHost, hhost]; rfl)] at hresult
    cases hresult
  have htakes : w.session.host.Takes channel.cid (payload.length + 1) :=
    ClassicHost.takes_of_sendChannelSdu (fun _ => h.plain) (by rw [hhost])
  refine ⟨?_, htakes⟩
  obtain ⟨_, _, packet', host', -, -, -, -, hout, -, hrun⟩ :=
    onHost_of_takes h hcapacity hquiet hsize htakes
  -- What was left goes first, so that one packet is sent only if nothing was left.
  obtain ⟨packets, hpackets⟩ := exists_acls hquiet.output
  rw [Exec.bind_ok hrun] at hresult htrace
  have hsent := drainHostOutput_sent (w := w.set ({ · with host := host' })) (packets ++ [packet'])
    (by rw [World.set, hout, hpackets, List.map_append]; rfl) hresult
  rw [htrace] at hsent
  have hlength := congrArg List.length hsent
  simp only [World.set, List.length_append, List.length_map, List.length_cons,
    List.length_nil] at hlength
  rw [hpackets, List.length_eq_zero_iff.mp (show packets.length = 0 by omega)]
  rfl

/-- **A report is sent at once**, given the capacity to send it and a controller that takes it, if
and only if the channel is still open, its peer still takes the report, and no packet of an earlier
report is left in the host. -/
theorem interrupt_sent_at_once_iff {io : HciIo} (h : Reachable w)
    (hcapacity : interruptSendCapacityAvailable w.session = true)
    (hio : w.session.io = some io) (haccepts : io.accepts 1 = true)
    (hmtu : payload.length + 1 ≤ w.session.protocols.hidp.interruptPeerMtu)
    (hsize : payload.length + 5 ≤ w.session.host.aclFlow.payloadSize) :
    SentAtOnce payload w (sendInterrupt payload w) ↔
      w.session.host.output = [] ∧ ∃ channel, w.session.protocols.interrupt = some channel ∧
        w.session.host.Takes channel.cid (payload.length + 1) := by
  obtain ⟨channel, hchannel⟩ : ∃ channel, w.session.protocols.interrupt = some channel := by
    simp only [interruptSendCapacityAvailable, Bool.and_eq_true, Option.any_eq_true] at hcapacity
    obtain ⟨⟨-, channel, hchannel, -⟩, -⟩ := hcapacity
    exact ⟨channel, hchannel⟩
  have hquiet : w.session.host.Quiet := by
    refine h.settled.quiet (checkActive_eq_ok.mpr ?_)
    simp only [interruptSendCapacityAvailable, Bool.and_eq_true, Option.isNone_iff_eq_none,
      Bool.not_eq_true'] at hcapacity
    exact ⟨hcapacity.1.1.2, hcapacity.1.1.1⟩
  constructor
  · intro hsent
    obtain ⟨hout, htakes⟩ := takes_of_sent h hcapacity hchannel hmtu hsize hquiet hsent
    exact ⟨hout, channel, hchannel, htakes⟩
  · rintro ⟨hout, channel', hchannel', htakes⟩
    exact sentAtOnce_of_takes h hcapacity hchannel' hio haccepts hmtu hsize hquiet hout htakes

end Report

/-! ### A channel that is closed -/

/-- The peer has opened the interrupt channel. -/
def sampleInterrupt : World MemoryBondStore :=
  ((sampleConfiguring hidInterruptPsm).inbound
    (.acl (signalPacket (.configureResponse 1 0x40 0 0 [])))).2

theorem sampleInterrupt_reachable : Reachable sampleInterrupt :=
  .received _ (sampleConfiguring_reachable hidInterruptPsm)

/-- What the theorem asks of a controller holds in a world, as a test. -/
theorem exists_accepting {w : World S}
    (h : w.session.io.any (fun io => io.accepts 1) = true) :
    ∃ io, w.session.io = some io ∧ io.accepts 1 = true := by
  simpa only [Option.any_eq_true] using h

theorem interrupt_sent_at_once_sampleInterrupt :
    SentAtOnce [1] sampleInterrupt (sendInterrupt [1] sampleInterrupt) := by
  obtain ⟨io, hio, haccepts⟩ := exists_accepting (w := sampleInterrupt) (by decide +kernel)
  have hinfo : sampleInterrupt.session.host.channelInfo 0x40 = some (hidInterruptPsm, 48, true) := by
    decide +kernel
  exact (interrupt_sent_at_once_iff sampleInterrupt_reachable (by decide +kernel) hio haccepts
    (by decide +kernel) (by decide +kernel)).mpr
    ⟨by decide +kernel, ⟨0x40, true⟩, by decide +kernel, _, _, hinfo, by decide⟩

/-- The peer has closed the interrupt channel again. -/
def sampleHungUp : World MemoryBondStore :=
  (sampleInterrupt.inbound (.acl (signalPacket (.disconnectionRequest 3 0x40 0x50)))).2

/-- The session of a peer that closed its interrupt channel has the capacity to send a report, and
refuses to. -/
theorem capacity_without_channel : Reachable sampleHungUp ∧
    interruptSendCapacityAvailable sampleHungUp.session = true ∧
    (∃ io, sampleHungUp.session.io = some io ∧ io.accepts 1 = true) ∧
    2 ≤ sampleHungUp.session.protocols.hidp.interruptPeerMtu ∧
    6 ≤ sampleHungUp.session.host.aclFlow.payloadSize ∧
    (sendInterrupt [1] sampleHungUp).1 ≠ .ok () ∧
    ¬ SentAtOnce [1] sampleHungUp (sendInterrupt [1] sampleHungUp) := by
  have hrefused : (sendInterrupt [1] sampleHungUp).1.isOk = false := by decide +kernel
  have hresult : (sendInterrupt [1] sampleHungUp).1 ≠ .ok () := by
    intro hok
    rw [hok] at hrefused
    cases hrefused
  exact ⟨.received _ sampleInterrupt_reachable, by decide +kernel,
    exists_accepting (by decide +kernel), by decide +kernel, by decide +kernel, hresult,
    fun hsent => hresult hsent.result⟩

end ClassicHid
