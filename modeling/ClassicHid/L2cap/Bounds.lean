import ClassicHid.L2cap.Echo
import ClassicHid.L2cap.ErtmInvariant
import ClassicHid.L2cap.Psm

/-!
# The lengths of what a link queues

A PDU has at most 65535 bytes. What a link queues keeps to that, unless a peer's options come back
behind the longer header of an answer, or an SDU is sent without a frame check in frames that the
peer's MPS makes too long.

## Main definitions

* `PendingFrame.size`: the length of an information frame
* `ErtmEngine.FramesFit`: every frame of an engine fits in a PDU
* `ChannelManager.Bounded`: the invariant of a link
* `ChannelManager.Fits`: a step of a link that keeps it

## Main results

* `ErtmEngine.FramesFit.advances`: what keeps the frames of an engine short enough
* `ChannelManager.Bounded.apply`: a step that fits keeps the invariant
-/

namespace ClassicHid

open Foundation

/-! ### Frames -/

/-- The length of an information frame. -/
def PendingFrame.size (frame : PendingFrame) : ℕ :=
  2 + frame.sduLength.elim 0 (fun _ => 2) + frame.payload.length

theorem PendingFrame.length_bytes (frame : PendingFrame) (reqSeq : UInt8) :
    (frame.bytes reqSeq).length = frame.size := by
  rw [bytes, size, List.length_append, List.length_append]
  cases frame.sduLength <;> rfl

/-- An SDU whose frames fit in a PDU when the peer takes `mps` bytes at a time: a frame has two
bytes in front of its payload, and the first of several has two more. -/
def SegmentsFit (mps : ℕ) (sdu : Bytes) : Prop :=
  if sdu.length ≤ mps then sdu.length + 2 ≤ 65535 else mps + 4 ≤ 65535

theorem SegmentsFit.numberFrom {mps : ℕ} {sdu : Bytes} (h : SegmentsFit mps sdu) (next : UInt8) :
    ∀ frame ∈ numberFrom next (segments mps sdu), frame.size ≤ 65535 := by
  -- The size of a frame is that of its segment.
  have hsegment : ∀ segment ∈ segments mps sdu,
      2 + segment.sduLength.elim 0 (fun _ => 2) + segment.payload.length ≤ 65535 := by
    intro segment hmem
    rw [SegmentsFit] at h
    rw [segments] at hmem
    split at h
    · rename_i hlength
      rw [if_pos hlength, List.mem_singleton] at hmem
      subst hmem
      simp only [Option.elim_none]
      omega
    · rename_i hlength
      rw [if_neg hlength] at hmem
      obtain ⟨entry, hentry, rfl⟩ := List.mem_map.mp hmem
      have hchunk : entry.1.length ≤ mps :=
        length_le_of_mem_chunks (List.fst_mem_of_mem_zipIdx hentry)
      have hheader : (segmentOf sdu mps entry).sduLength.elim 0 (fun _ => 2) ≤ 2 := by
        cases (segmentOf sdu mps entry).sduLength <;> simp
      have hpayload : (segmentOf sdu mps entry).payload = entry.1 := rfl
      rw [hpayload]
      omega
  generalize segments mps sdu = l at hsegment
  induction l generalizing next with
  | nil => rintro _ ⟨⟩
  | cons segment l ih =>
    intro frame hmem
    rcases List.mem_cons.mp hmem with rfl | hmem
    · exact hsegment segment List.mem_cons_self
    · exact ih _ (fun segment hmem => hsegment segment (List.mem_cons_of_mem _ hmem)) frame hmem

namespace ErtmEngine

/-- Every frame that was not acknowledged or not taken yet fits in a PDU. -/
structure FramesFit (engine : ErtmEngine) : Prop where
  frames : ∀ frame ∈ engine.unacked, frame.size ≤ 65535
  outbound : ∀ frame ∈ engine.outbound, frame.length ≤ 65535

variable {e e' : ErtmEngine}

/-- **What is sent** are supervisory frames and frames that were numbered. -/
theorem FramesFit.advances {acked : ℕ} {added : List PendingFrame} {sent : List Outgoing}
    (h : FramesFit e) (hadvances : Advances acked added sent e e')
    (hadded : ∀ frame ∈ added, frame.size ≤ 65535) : FramesFit e' := by
  have hframes : ∀ frame ∈ e'.unacked, frame.size ≤ 65535 := by
    intro frame hmem
    rw [hadvances.unacked, List.mem_append] at hmem
    rcases hmem with hmem | hmem
    · exact h.frames frame (List.mem_of_mem_drop hmem)
    · exact hadded frame hmem
  refine ⟨hframes, ?_⟩
  intro bytes hmem
  rw [hadvances.outbound, List.mem_append] at hmem
  rcases hmem with hmem | hmem
  · exact h.outbound bytes hmem
  obtain ⟨out, hout, rfl⟩ := List.mem_map.mp hmem
  cases out with
  | supervisory function poll finalBit => simp [Outgoing.bytes, SupervisoryFunction.bytes]
  | information index frame =>
    rw [Outgoing.bytes, frame.length_bytes]
    exact hframes frame (List.mem_of_getElem? (hadvances.frame index frame hout).2)

/-- An engine of a link: its numbering and its input are sound, and without a frame check its
frames fit. -/
structure Bounded (fcsEnabled : Bool) (engine : ErtmEngine) : Prop where
  numbered : engine.Numbered
  input : engine.InputBounded
  frames : fcsEnabled = false → engine.FramesFit

/-- An operation that an engine takes without exceeding the length of a PDU. -/
def Takes (fcsEnabled : Bool) (engine : ErtmEngine) (op : EngineOp) : Prop :=
  ∀ sdu, op = .sendSdu sdu → fcsEnabled = false → engine.failed = false →
    sdu.length ≤ engine.config.peerMtu.toNat → SegmentsFit engine.config.peerMps.toNat sdu

variable {fcsEnabled : Bool} {op : EngineOp}

theorem bounded_new (config : ErtmConfig) : Bounded fcsEnabled { config := config } := by
  have hsound := EngineHistory.sound_new config
  exact ⟨hsound.numbered, hsound.input, fun _ => ⟨nofun, nofun⟩⟩

theorem Bounded.drained (h : Bounded fcsEnabled e) :
    Bounded fcsEnabled { e with outbound := [], received := [] } where
  numbered := ⟨h.numbered.lastAcked, h.numbered.frames, h.numbered.next, h.numbered.expected⟩
  input := ⟨h.input.started, h.input.idle, nofun⟩
  frames hfcs := ⟨(h.frames hfcs).frames, nofun⟩

/-- **An operation of an engine of a link.** -/
theorem Bounded.apply (h : Bounded fcsEnabled e) (hop : op.isPoll = false)
    (htakes : Takes fcsEnabled e op) : Bounded fcsEnabled (e.apply op) := by
  by_cases hsend : ∃ sdu, op = .sendSdu sdu
  · obtain ⟨sdu, rfl⟩ := hsend
    rcases sendSdu_advances h.numbered h.input sdu with
      hsame | ⟨hactive, hlength, ⟨sent, hadvances⟩, _, hinput⟩
    · rw [hsame]
      exact h
    · refine ⟨hadvances.numbered h.numbered, hinput, fun hfcs => ?_⟩
      exact (h.frames hfcs).advances hadvances ((htakes sdu rfl hfcs hactive hlength).numberFrom _)
  · obtain ⟨⟨acked, sent, hadvances⟩, _, hinput⟩ :=
      apply_settles h.numbered h.input hop fun sdu heq => hsend ⟨sdu, heq⟩
    exact ⟨hadvances.numbered h.numbered, hinput,
      fun hfcs => (h.frames hfcs).advances hadvances nofun⟩

end ErtmEngine

/-! ### One channel -/

/-- What holds of a channel: its engine is bounded, its frame check is that of its specification,
and it has no peer while it waits for one. -/
structure ClassicChannel.Bounded (c : ClassicChannel) : Prop where
  engine : ∀ engine, c.ertm = some engine → engine.Bounded c.fcsEnabled
  frameCheck : ∀ engine spec, c.ertm = some engine → c.spec.ertm? = some spec →
    c.fcsEnabled = spec.fcsEnabled
  waiting : c.state = .waitConnectResponse → c.destinationCid = 0

namespace ClassicChannel

variable {c : ClassicChannel}

theorem bounded_newOutgoing (psm : UInt32) (sourceCid : UInt16) (spec : ChannelSpec) :
    (newOutgoing psm sourceCid spec).Bounded :=
  ⟨nofun, nofun, fun _ => rfl⟩

theorem bounded_newIncoming (psm : UInt32) (sourceCid destinationCid : UInt16)
    (spec : ChannelSpec) : (newIncoming psm sourceCid destinationCid spec).Bounded :=
  ⟨nofun, nofun, nofun⟩

/-- A channel that leaves its state for a later one. -/
theorem Bounded.withState (h : c.Bounded) (state : ClassicChannelState)
    (hstate : state ≠ .waitConnectResponse) (result : Option UInt16) (destinationCid : UInt16) :
    Bounded { c with
      state := state, connectionResult := result, destinationCid := destinationCid } :=
  ⟨h.engine, h.frameCheck, fun hwait => absurd hwait hstate⟩

theorem Bounded.settled (h : c.Bounded) : c.settled.Bounded := by
  rw [ClassicChannel.settled]
  split
  · exact ⟨h.engine, h.frameCheck, (by rintro ⟨⟩)⟩
  · exact h

theorem Bounded.answered (h : c.Bounded) (result : UInt16) : (c.answered result).Bounded := by
  rw [ClassicChannel.answered]
  split
  · exact ⟨h.engine, h.frameCheck, h.waiting⟩
  · exact ⟨h.engine, h.frameCheck, (by rintro ⟨⟩)⟩

theorem Bounded.complete (h : c.Bounded) (scan : ConfigurationScan) :
    (c.complete scan).2.Bounded ∧ (c.complete scan).2.destinationCid = c.destinationCid := by
  have hrefused : c.refused.Bounded := ⟨h.engine, h.frameCheck, nofun⟩
  unfold ClassicChannel.complete
  split
  · rename_i spec parameters hspec hparameters
    split
    · exact ⟨hrefused, rfl⟩
    dsimp only
    have hcheck (spec' : ErtmChannelSpec) (hspec' : c.spec.ertm? = some spec') :
        spec.fcsEnabled = spec'.fcsEnabled := by
      cases hspec.symm.trans hspec'
      rfl
    split
    · refine ⟨⟨fun engine hengine => ?_, fun _ spec' _ hspec' => hcheck spec' hspec', h.waiting⟩, rfl⟩
      -- An engine that was there before has the frame check of the specification already.
      have hbounded := h.engine engine hengine
      rw [h.frameCheck engine spec hengine hspec] at hbounded
      exact hbounded
    · rename_i engine hnew
      refine ⟨⟨?_, fun _ spec' _ hspec' => hcheck spec' hspec', h.waiting⟩, rfl⟩
      intro _ hengine
      cases hengine
      rw [(ErtmEngine.new_eq_ok hnew).1]
      exact ErtmEngine.bounded_new _
  · exact ⟨hrefused, rfl⟩
  · split
    · exact ⟨hrefused, rfl⟩
    · exact ⟨⟨h.engine, h.frameCheck, h.waiting⟩, rfl⟩

theorem Bounded.judge (h : c.Bounded) (flags : UInt16) (options : List ConfigurationOption) :
    (c.judge flags options).2.Bounded ∧
      (c.judge flags options).2.destinationCid = c.destinationCid := by
  have hmtu : Bounded { c with
      peerMtu := (scanOptions c.mode { peerMtu := c.peerMtu } options).peerMtu } :=
    ⟨h.engine, h.frameCheck, h.waiting⟩
  unfold ClassicChannel.judge
  dsimp only
  split
  · exact hmtu.complete _
  · exact ⟨hmtu, rfl⟩

end ClassicChannel

namespace ChannelManager

/-! ### The invariant of a link -/

/-- No peer has taken the signaling channel for a channel of its own. -/
def SignalingFree (m : ChannelManager) : Prop :=
  ∀ cid c, m.channel cid = some c → c.destinationCid ≠ l2capSignalingCid

/-- A PDU of a link that fits: a signaling frame, or data for the given channel of the peer. -/
structure PduFits (destinationCid : UInt16) (pdu : L2capPdu) : Prop where
  length : pdu.payload.length ≤ 65535
  addressed : (∃ frame, pdu = signal frame) ∨ pdu.cid = destinationCid

/-- The invariant: every channel is bounded, every PDU fits, and what is sent on the signaling
channel are signaling frames. -/
structure Bounded (m : ChannelManager) : Prop where
  channels : ∀ cid c, m.channel cid = some c → c.Bounded
  outbound : ∀ pdu ∈ m.outbound, pdu.payload.length ≤ 65535
  signaling : m.SignalingFree → ∀ pdu ∈ m.outbound, pdu.cid = l2capSignalingCid →
    ∃ frame, pdu = signal frame

variable {m m' : ChannelManager} {cid : UInt16} {c c' : ClassicChannel}

/-- A signaling frame whose payload leaves room for two headers. -/
theorem pduFits_signal {frame : ControlFrame} (h : frame.payload.length ≤ 65531)
    (destinationCid : UInt16) : PduFits destinationCid (signal frame) := by
  refine ⟨?_, .inl ⟨frame, rfl⟩⟩
  simp only [signal, ControlFrame.toBytes, List.length_append, List.length_cons, List.length_nil,
    length_toLe16]
  omega

/-- **One channel is created or replaced**, by one that has the same peer. -/
theorem Bounded.react (h : m.Bounded) (hbounded : c'.Bounded)
    (hpeer : ∀ c, m.channel cid = some c → c.destinationCid = l2capSignalingCid →
      c'.destinationCid = l2capSignalingCid)
    {pdus : List L2capPdu} (hpdus : ∀ pdu ∈ pdus, PduFits c'.destinationCid pdu)
    (announced : List UInt16) : (react cid c' pdus announced m).Bounded := by
  refine ⟨?_, ?_, ?_⟩
  · intro cid' c₁ hc₁
    by_cases heq : cid = cid'
    · subst heq
      cases (channel_react_self pdus announced).symm.trans hc₁
      exact hbounded
    · exact h.channels cid' c₁ ((channel_react_ne heq pdus announced).symm.trans hc₁)
  · intro pdu hmem
    rcases List.mem_append.mp hmem with hmem | hmem
    · exact h.outbound pdu hmem
    · exact (hpdus pdu hmem).length
  · intro hfree pdu hmem hcid
    have hself := hfree cid c' (channel_react_self pdus announced)
    rcases List.mem_append.mp hmem with hmem | hmem
    · refine h.signaling ?_ pdu hmem hcid
      intro cid' c₁ hc₁ hsignaling
      by_cases heq : cid = cid'
      · subst heq
        exact hself (hpeer c₁ hc₁ hsignaling)
      · exact hfree cid' c₁ ((channel_react_ne heq pdus announced).trans hc₁) hsignaling
    · rcases (hpdus pdu hmem).addressed with hframe | hdata
      · exact hframe
      · exact absurd (hdata.symm.trans hcid) hself

/-- One channel is replaced by one with the same identifier of its peer. -/
theorem Bounded.replace (h : m.Bounded) (hc : m.channel cid = some c) (hbounded : c'.Bounded)
    (hpeer : c'.destinationCid = c.destinationCid)
    {pdus : List L2capPdu} (hpdus : ∀ pdu ∈ pdus, PduFits c'.destinationCid pdu)
    (announced : List UInt16) : (ChannelManager.react cid c' pdus announced m).Bounded := by
  refine h.react hbounded ?_ hpdus announced
  intro c₁ hc₁ hsignaling
  cases hc.symm.trans hc₁
  exact hpeer.trans hsignaling

/-- A signaling frame is queued. -/
theorem Bounded.queued (h : m.Bounded) {frame : ControlFrame}
    (hframe : frame.payload.length ≤ 65531) : (queued [signal frame] m).Bounded := by
  refine ⟨h.channels, ?_, ?_⟩
  · intro pdu hmem
    rcases List.mem_append.mp hmem with hmem | hmem
    · exact h.outbound pdu hmem
    · rw [List.mem_singleton.mp hmem]
      exact (pduFits_signal hframe 0).length
  · intro hfree pdu hmem hcid
    rcases List.mem_append.mp hmem with hmem | hmem
    · exact h.signaling hfree pdu hmem hcid
    · exact ⟨frame, List.mem_singleton.mp hmem⟩

/-! ### The operations of a link -/

/-- **An update of the engine of a channel.** -/
theorem Bounded.engine (h : m.Bounded) (hc : m.channel cid = some c) {engine : ErtmEngine}
    (hengine : c.ertm = some engine) (op : EngineOp) {update : ErtmEngine.Update Unit}
    (hupdate : (update engine).2 = engine.apply op) (hop : op.isPoll = false)
    (htakes : ErtmEngine.Takes c.fcsEnabled engine op) :
    ((do
      withEngine cid c engine update
      flushErtm cid : Update Unit) m).2.Bounded := by
  obtain ⟨engine', received, payloads, hrun, hengine', hpayloads⟩ :=
    withEngine_flushErtm_cases cid c engine update m
  have hc' := h.channels cid c hc
  have hbounded := (hc'.engine engine hengine).apply hop htakes
  rw [hupdate] at hengine' hpayloads
  have hnew : ClassicChannel.Bounded { c with ertm := some engine', received := received } := by
    refine ⟨?_, fun _ spec _ hspec => hc'.frameCheck engine spec hengine hspec, hc'.waiting⟩
    intro _ heq
    cases heq
    rcases hengine' with rfl | rfl
    · exact hbounded
    · exact hbounded.drained
  rw [hrun]
  refine h.replace hc hnew rfl ?_ []
  intro pdu hmem
  obtain ⟨payload, hpayload, rfl⟩ := List.mem_map.mp hmem
  refine ⟨?_, .inr rfl⟩
  rcases hpayloads payload hpayload with ⟨_, hlength⟩ | ⟨hfcs, hout⟩
  · exact hlength
  · exact (hbounded.frames hfcs).outbound payload hout

theorem Bounded.processData (h : m.Bounded) (cid : UInt16) (payload : Bytes) :
    (processData cid payload m).2.Bounded := by
  rcases hc : m.channel cid with _ | c
  · rw [ChannelManager.processData, Exec.bind_error (channelOr_none _ hc)]
    exact h
  rw [ChannelManager.processData, Exec.bind_ok (channelOr_some _ hc)]
  split
  · exact h
  rcases hengine : c.ertm with _ | engine
  · dsimp only
    split
    · exact h
    · have hc' := h.channels cid c hc
      have hnew : ClassicChannel.Bounded
          { c with ertm := none, received := c.received ++ [payload] } :=
        ⟨(by rintro _ ⟨⟩), (by rintro _ _ ⟨⟩), hc'.waiting⟩
      rw [setChannel_eq]
      exact h.replace hc hnew rfl (List.forall_mem_nil _) []
  · have hreceive (frame : Bytes) : ((do
        withEngine cid c engine (ErtmEngine.receiveFrame frame)
        flushErtm cid : Update Unit) m).2.Bounded :=
      h.engine hc hengine (.receiveFrame frame) rfl rfl fun _ heq => by cases heq
    dsimp only
    split
    · rcases verifyAndStripFcs cid payload with error | frame
      · exact h
      · exact hreceive frame
    · exact hreceive payload

/-- An SDU that a link sends without exceeding the length of a PDU: the engine of a channel without
a frame check takes it in frames that fit. -/
def SendFits (m : ChannelManager) (cid : UInt16) (sdu : Bytes) : Prop :=
  ∀ c engine, m.channel cid = some c → c.state = .open → c.ertm = some engine →
    c.fcsEnabled = false → engine.failed = false → sdu.length ≤ engine.config.peerMtu.toNat →
    SegmentsFit engine.config.peerMps.toNat sdu

theorem Bounded.send (h : m.Bounded) {sdu : Bytes} (hfits : m.SendFits cid sdu) :
    (send cid sdu m).2.Bounded := by
  rcases hc : m.channel cid with _ | c
  · rw [ChannelManager.send, Exec.bind_error (channelOr_none _ hc)]
    exact h
  rw [ChannelManager.send, Exec.bind_ok (channelOr_some _ hc)]
  split
  · exact h
  rename_i hopen
  rcases hengine : c.ertm with _ | engine
  · dsimp only
    split
    · exact h
    · rename_i hlength
      have hmtu := c.peerMtu.toNat_lt
      have hrun : (pushOutbound { cid := c.destinationCid, payload := sdu } m).2 =
          ChannelManager.react cid c [{ cid := c.destinationCid, payload := sdu }] [] m := by
        rw [ChannelManager.react, insert_self hc]
        simp [pushOutbound]
      rw [hrun]
      refine h.replace hc (h.channels cid c hc) rfl ?_ []
      intro pdu hmem
      rw [List.mem_singleton.mp hmem]
      exact ⟨by dsimp only; omega, .inr rfl⟩
  · refine h.engine hc hengine (.sendSdu sdu) rfl rfl ?_
    intro sdu' hsdu hfcs hactive hlength
    cases hsdu
    exact hfits c engine hc (not_not.mp hopen) hengine hfcs hactive hlength

theorem Bounded.tick (h : m.Bounded) (ticks : UInt32) : (tick ticks m).2.Bounded := by
  have hchannel (cid : UInt16) : Exec.Keeps Bounded (tickChannel ticks cid) := by
    intro m' h'
    rcases hc : m'.channel cid with _ | c
    · rw [tickChannel, Exec.bind_error (channelOr_none _ hc)]
      exact h'
    rw [tickChannel, Exec.bind_ok (channelOr_some _ hc)]
    rcases hengine : c.ertm with _ | engine
    · exact h'
    · exact h'.engine hc hengine (.tick ticks) rfl rfl fun _ heq => by cases heq
  rw [ChannelManager.tick, Exec.get_bind]
  exact Exec.forEach_keeps (fun cid _ => hchannel cid) m h

theorem Bounded.setReceiverBusy (h : m.Bounded) (cid : UInt16) (busy : Bool) :
    (setReceiverBusy cid busy m).2.Bounded := by
  rcases hc : m.channel cid with _ | c
  · rw [ChannelManager.setReceiverBusy, Exec.bind_error (channelOr_none _ hc)]
    exact h
  rw [ChannelManager.setReceiverBusy, Exec.bind_ok (channelOr_some _ hc)]
  rcases hengine : c.ertm with _ | engine
  · exact h
  · exact h.engine hc hengine (.setReceiverBusy busy) rfl rfl fun _ heq => by cases heq

/-! ### Signaling -/

/-- A PDU that a link answers without exceeding the length of a PDU: the options that a
configuration request gets back take no more than 65525 bytes. -/
def RequestFits (m : ChannelManager) (pdu : L2capPdu) : Prop :=
  pdu.cid = l2capSignalingCid → ∀ identifier cid flags encoded options c,
    ControlFrame.fromBytes pdu.payload = .ok (.configureRequest identifier cid flags encoded) →
    decodeConfigurationOptions encoded = .ok options → m.channel cid = some c →
    c.Echoes flags options → ConfigurationOption.echoSize options ≤ 65525

/-- A new channel, and the frames that go with it. -/
theorem Bounded.create (h : m.Bounded) (hnone : m.channel cid = none) (hbounded : c'.Bounded)
    (frames : List ControlFrame) (hframes : ∀ frame ∈ frames, frame.payload.length ≤ 65531) :
    (ChannelManager.react cid c' (frames.map signal) [] m).Bounded := by
  refine h.react hbounded (fun c hc => absurd (hnone.symm.trans hc) nofun) ?_ []
  intro pdu hmem
  obtain ⟨frame, hframe, rfl⟩ := List.mem_map.mp hmem
  exact pduFits_signal (hframes frame hframe) _

/-- A channel is replaced by one with the same peer, and frames are queued. -/
theorem Bounded.respond (h : m.Bounded) (hc : m.channel cid = some c) (hbounded : c'.Bounded)
    (hpeer : c'.destinationCid = c.destinationCid) (frames : List ControlFrame)
    (hframes : ∀ frame ∈ frames, frame.payload.length ≤ 65531) (announced : List UInt16) :
    (ChannelManager.react cid c' (frames.map signal) announced m).Bounded := by
  refine h.replace hc hbounded hpeer ?_ announced
  intro pdu hmem
  obtain ⟨frame, hframe, rfl⟩ := List.mem_map.mp hmem
  exact pduFits_signal (hframes frame hframe) _

/-- The frame that asks for a configuration. -/
theorem length_configureRequest (identifier : UInt8) (destinationCid : UInt16)
    (spec : ChannelSpec) :
    (ControlFrame.configureRequest identifier destinationCid 0
      (configurationBytes spec)).payload.length ≤ 65531 := by
  have hlength := length_configurationBytes spec
  simp only [ControlFrame.payload, List.length_append, length_toLe16]
  omega

theorem Bounded.onConnectionRequest (h : m.Bounded) (identifier : UInt8) (psm : UInt32)
    (remoteCid : UInt16) : (onConnectionRequest identifier psm remoteCid m).2.Bounded := by
  rcases onConnectionRequest_cases identifier psm remoteCid m with
    ⟨result, _, hrun⟩ | ⟨spec, localCid, _, hfree, hrun⟩
  · rw [hrun]
    exact h.queued (by simp [ControlFrame.payload])
  · have hcreate := h.create (allocateCid_spec hfree)
      (ClassicChannel.bounded_newIncoming psm localCid remoteCid spec)
      [.connectionResponse identifier localCid remoteCid connectionSuccessful 0,
        .configureRequest m.following remoteCid 0 (configurationBytes spec)] (by
          simpa [ControlFrame.payload] using length_configureRequest m.following remoteCid spec)
    rw [hrun]
    exact ⟨hcreate.channels, hcreate.outbound, hcreate.signaling⟩

theorem Bounded.connectWithSpec (h : m.Bounded) (psm : UInt32) (spec : ChannelSpec) :
    (connectWithSpec psm spec m).2.Bounded := by
  rcases connectWithSpec_cases psm spec m with ⟨error, hrun⟩ | ⟨localCid, hfree, hrun⟩
  · rw [hrun]
    exact h
  · have hlength : (ControlFrame.connectionRequest m.following psm localCid).payload.length ≤
        65531 := by
      have := length_serializePsm_le psm
      simp only [ControlFrame.payload, List.length_append, length_toLe16]
      omega
    have hcreate := h.create (allocateCid_spec hfree)
      (ClassicChannel.bounded_newOutgoing psm localCid spec)
      [.connectionRequest m.following psm localCid] (by simpa using hlength)
    rw [hrun]
    exact ⟨hcreate.channels, hcreate.outbound, hcreate.signaling⟩

theorem Bounded.onConnectionResponse (h : m.Bounded) (destinationCid sourceCid result : UInt16) :
    (onConnectionResponse destinationCid sourceCid result m).2.Bounded := by
  rcases hc : m.channel sourceCid with _ | c
  · rw [ChannelManager.onConnectionResponse, Exec.bind_error (channelOr_none _ hc)]
    exact h
  have hc' := h.channels sourceCid c hc
  rw [onConnectionResponse_eq hc]
  split
  · exact h
  rename_i hwaiting
  split
  · exact h.respond hc (hc'.withState .closed (by rintro ⟨⟩) (some result) c.destinationCid) rfl []
      (by simp) []
  · -- A channel that waits has no peer yet.
    have hnew : ClassicChannel.Bounded { c with
        connectionResult := some result, destinationCid := destinationCid,
        state := .configuring } :=
      hc'.withState .configuring (by rintro ⟨⟩) (some result) destinationCid
    have hreact := h.react hnew (fun c₁ hc₁ hsignaling => by
      cases hc.symm.trans hc₁
      rw [hc'.waiting (not_not.mp hwaiting)] at hsignaling
      exact absurd hsignaling (by decide)) (fun pdu hmem => by
        rw [List.mem_singleton.mp hmem]
        exact pduFits_signal (length_configureRequest m.following destinationCid c.spec) _) []
    exact ⟨hreact.channels, hreact.outbound, hreact.signaling⟩

theorem length_configureResponse (identifier : UInt8) (sourceCid flags result : UInt16)
    (answer : Bytes) :
    (ControlFrame.configureResponse identifier sourceCid flags result answer).payload.length =
      answer.length + 6 := by
  simp only [ControlFrame.payload, List.length_append, length_toLe16]
  omega

theorem Bounded.onConfigureRequest (h : m.Bounded) (identifier : UInt8) (cid flags : UInt16)
    (encoded : Bytes)
    (hfits : ∀ options c, decodeConfigurationOptions encoded = .ok options →
      m.channel cid = some c → c.Echoes flags options →
        ConfigurationOption.echoSize options ≤ 65525) :
    (onConfigureRequest identifier cid flags encoded m).2.Bounded := by
  rcases hdecode : decodeConfigurationOptions encoded with error | options
  · rw [ChannelManager.onConfigureRequest, hdecode]
    exact h
  rcases hc : m.channel cid with _ | c
  · rw [ChannelManager.onConfigureRequest, hdecode, Exec.lift_ok_bind,
      Exec.bind_error (channelOr_none _ hc)]
    exact h
  obtain ⟨hjudged, hpeer⟩ := (h.channels cid c hc).judge flags options
  rw [onConfigureRequest_eq hc identifier flags hdecode]
  split
  · exact h.respond hc hjudged hpeer [] (by simp) []
  rename_i result response hanswer
  split
  · exact h.respond hc hjudged hpeer [] (by simp) []
  rename_i answer hencode
  have hsettled : (c.judge flags options).2.settled.destinationCid = c.destinationCid :=
    (c.judge flags options).2.settled_keeps.2.2.2.2.2.1.trans hpeer
  refine h.respond hc hjudged.settled hsettled
    [.configureResponse identifier c.destinationCid 0 result answer] ?_ _
  intro frame hmem
  rw [List.mem_singleton.mp hmem, length_configureResponse]
  obtain ⟨hlength, hsize⟩ := length_encodeConfigurationOptions hencode
  rcases ClassicChannel.judge_answer hanswer with ⟨hechoes, rfl⟩ | ⟨option, rfl⟩
  · have := hfits options c hdecode hc hechoes
    rw [ConfigurationOption.echoSize] at this
    omega
  · have := hsize option List.mem_cons_self
    simp only [List.map_cons, List.map_nil, List.sum_cons, List.sum_nil] at hlength
    omega

theorem Bounded.onConfigureResponse (h : m.Bounded) (cid result : UInt16) :
    (onConfigureResponse cid result m).2.Bounded := by
  rcases hc : m.channel cid with _ | c
  · rw [ChannelManager.onConfigureResponse, Exec.bind_error (channelOr_none _ hc)]
    exact h
  obtain ⟨_, _, _, _, _, hanswered, _⟩ := c.answered_keeps result
  obtain ⟨_, _, _, _, _, hsettled, _⟩ := (c.answered result).settled_keeps
  rw [onConfigureResponse_eq hc]
  exact h.respond hc ((h.channels cid c hc).answered result).settled (hsettled.trans hanswered) []
    (by simp) _

theorem Bounded.onDisconnectionRequest (h : m.Bounded) (identifier : UInt8)
    (cid remoteCid : UInt16) : (onDisconnectionRequest identifier cid remoteCid m).2.Bounded := by
  rcases hc : m.channel cid with _ | c
  · rw [ChannelManager.onDisconnectionRequest, Exec.bind_error (channelOr_none _ hc)]
    exact h
  rw [onDisconnectionRequest_eq hc]
  split
  · exact h
  · exact h.respond hc ((h.channels cid c hc).withState .closed (by rintro ⟨⟩) c.connectionResult
      c.destinationCid) rfl [.disconnectionResponse identifier cid remoteCid]
      (by simp [ControlFrame.payload]) []

theorem Bounded.onDisconnectionResponse (h : m.Bounded) (destinationCid cid : UInt16) :
    (onDisconnectionResponse destinationCid cid m).2.Bounded := by
  rcases hc : m.channel cid with _ | c
  · rw [ChannelManager.onDisconnectionResponse, Exec.bind_error (channelOr_none _ hc)]
    exact h
  rw [onDisconnectionResponse_eq hc]
  split
  · exact h
  · exact h.respond hc ((h.channels cid c hc).withState .closed (by rintro ⟨⟩) c.connectionResult
      c.destinationCid) rfl [] (by simp) []

theorem Bounded.disconnect (h : m.Bounded) (cid : UInt16) : (disconnect cid m).2.Bounded := by
  rcases hc : m.channel cid with _ | c
  · rw [ChannelManager.disconnect, Exec.bind_error (channelOr_none _ hc)]
    exact h
  rw [disconnect_eq hc]
  split
  · exact h
  · have hrespond := h.respond hc ((h.channels cid c hc).withState .waitDisconnect (by rintro ⟨⟩)
      c.connectionResult c.destinationCid) rfl
      [.disconnectionRequest m.following c.destinationCid cid] (by simp [ControlFrame.payload]) []
    exact ⟨hrespond.channels, hrespond.outbound, hrespond.signaling⟩

/-- What the frames carry that are answered with what they carry. -/
theorem parse_carries {code identifier : UInt8} {payload : Bytes} {frame : ControlFrame}
    (h : ControlFrame.parse code identifier payload = .ok frame) :
    (∀ i data, frame = .echoRequest i data → data = payload) ∧
      ∀ i cid flags options, frame = .configureRequest i cid flags options →
        options = payload.drop 4 ∧ 4 ≤ payload.length := by
  unfold ControlFrame.parse at h
  split at h
  case h_8 =>
    cases h
    refine ⟨?_, nofun⟩
    intro _ _ heq
    cases heq
    rfl
  case h_4 =>
    obtain ⟨_, hneed, h⟩ := except_bind_eq_ok.mp h
    cases h
    refine ⟨nofun, ?_⟩
    intro _ _ _ _ heq
    cases heq
    rw [need] at hneed
    split at hneed
    · cases hneed
    · exact ⟨rfl, by omega⟩
  case h_2 =>
    obtain ⟨⟨offset, psm⟩, _, h⟩ := except_bind_eq_ok.mp h
    dsimp only at h
    split at h <;> cases h
    exact ⟨nofun, nofun⟩
  -- Every other frame is of another kind, whatever is checked before it is read.
  all_goals first
    | (cases h
       exact ⟨nofun, nofun⟩)
    | (obtain ⟨_, _, h⟩ := except_bind_eq_ok.mp h
       first
        | (cases h
           exact ⟨nofun, nofun⟩)
        | (obtain ⟨_, _, h⟩ := except_bind_eq_ok.mp h
           cases h
           exact ⟨nofun, nofun⟩))

/-- What is read from the bytes of a frame, from its payload. -/
theorem fromBytes_eq_ok {pdu : Bytes} {frame : ControlFrame}
    (h : ControlFrame.fromBytes pdu = .ok frame) :
    ∃ payload, ControlFrame.parse (pdu.getD 0 0) (pdu.getD 1 0) payload = .ok frame ∧
      payload.length + 4 ≤ pdu.length := by
  rw [ControlFrame.fromBytes] at h
  split at h
  · cases h
  · refine ⟨_, h, ?_⟩
    rw [List.length_drop, List.length_take]
    omega

/-- **A PDU of the peer.** -/
theorem Bounded.processPdu (h : m.Bounded) {pdu : L2capPdu} (hlength : pdu.payload.length ≤ 65535)
    (hfits : m.RequestFits pdu) : (processPdu pdu m).2.Bounded := by
  rw [ChannelManager.processPdu]
  split
  swap
  · exact h.processData pdu.cid pdu.payload
  rename_i hcid
  rcases hframe : ControlFrame.fromBytes pdu.payload with error | frame
  · exact h
  rw [Exec.lift_ok_bind]
  cases frame with
  | connectionRequest => exact h.onConnectionRequest _ _ _
  | connectionResponse => exact h.onConnectionResponse _ _ _
  | configureRequest identifier cid flags encoded =>
    exact h.onConfigureRequest identifier cid flags encoded
      fun options c hdecode => hfits hcid _ _ _ _ options c hframe hdecode
  | configureResponse => exact h.onConfigureResponse _ _
  | disconnectionRequest => exact h.onDisconnectionRequest _ _ _
  | disconnectionResponse => exact h.onDisconnectionResponse _ _
  | echoRequest identifier data =>
    obtain ⟨payload, hparse, hshort⟩ := fromBytes_eq_ok hframe
    have hdata : data.length ≤ 65531 := by
      rw [(parse_carries hparse).1 _ _ rfl]
      omega
    have hrun : processControl (.echoRequest identifier data) m =
        (.ok (), ChannelManager.queued [signal (.echoResponse identifier data)] m) := rfl
    rw [hrun]
    exact h.queued hdata
  | informationRequest identifier infoType =>
    obtain ⟨result, data, hdata, hresponse⟩ :=
      L2capPdu.response_eq m.information identifier infoType
    have hrun : processControl (.informationRequest identifier infoType) m =
        (.ok (), ChannelManager.queued [signal (m.information.response identifier infoType)] m) :=
      rfl
    rw [hrun, hresponse]
    refine h.queued ?_
    simp only [ControlFrame.payload, List.length_append, length_toLe16]
    omega
  | informationResponse => exact ⟨h.channels, h.outbound, h.signaling⟩
  | _ => exact h

/-- A PDU that was read from bytes is within its length field. -/
theorem length_fromBytes {bytes : Bytes} {pdu : L2capPdu} (h : L2capPdu.fromBytes bytes = .ok pdu) :
    pdu.payload.length ≤ 65535 := by
  rw [L2capPdu.fromBytes] at h
  split at h
  · cases h
  · cases h
    have hfield := (le16At bytes 0).toNat_lt
    dsimp only
    rw [List.length_drop, List.length_take]
    omega

/-- **The condition on a step**: a request is answered, and an SDU sent, in PDUs that fit. -/
def Fits (m : ChannelManager) : ManagerOp → Prop
  | .processPdu pdu => m.RequestFits pdu
  | .processBytes bytes => ∀ pdu, L2capPdu.fromBytes bytes = .ok pdu → m.RequestFits pdu
  | .send sourceCid sdu => m.SendFits sourceCid sdu
  | _ => True

/-- **A step that fits** keeps the lengths of a link. -/
theorem Bounded.apply (h : m.Bounded) {op : ManagerOp}
    (hinbound : ∀ pdu, op = .processPdu pdu → pdu.payload.length ≤ 65535) (hfits : m.Fits op) :
    (m.apply op).Bounded := by
  cases op with
  | registerServer psm spec =>
    rw [ChannelManager.apply, ChannelManager.registerServer]
    rcases validateSpec spec with error | _
    · exact h
    rw [Exec.lift_ok_bind]
    rcases registerServerWithSpec_cases psm (.basic spec) m with ⟨error, hrun⟩ | ⟨_, _, hrun⟩ <;>
      rw [hrun]
    · exact h
    · exact ⟨h.channels, h.outbound, h.signaling⟩
  | registerErtmServer psm spec =>
    rw [ChannelManager.apply, ChannelManager.registerErtmServer]
    rcases validateErtmSpec spec with error | _
    · exact h
    rw [Exec.lift_ok_bind]
    rcases registerServerWithSpec_cases psm (.ertm spec) m with ⟨error, hrun⟩ | ⟨_, _, hrun⟩ <;>
      rw [hrun]
    · exact h
    · exact ⟨h.channels, h.outbound, h.signaling⟩
  | connect psm spec =>
    rw [ChannelManager.apply, ChannelManager.connect]
    rcases validatePsm psm with error | _
    · exact h
    rcases validateSpec spec with error | _
    · exact h
    · exact h.connectWithSpec psm _
  | connectErtm psm spec =>
    rw [ChannelManager.apply, ChannelManager.connectErtm]
    rcases validatePsm psm with error | _
    · exact h
    rcases validateErtmSpec spec with error | _
    · exact h
    · exact h.connectWithSpec psm _
  | send sourceCid sdu => exact h.send hfits
  | disconnect sourceCid => exact h.disconnect sourceCid
  | tick ticks => exact h.tick ticks
  | setReceiverBusy sourceCid busy => exact h.setReceiverBusy sourceCid busy
  | requestInformation infoType =>
    have hqueued : (ChannelManager.queued [signal (.informationRequest m.following infoType)]
        m).Bounded := h.queued (by simp [ControlFrame.payload])
    exact ⟨hqueued.channels, hqueued.outbound, hqueued.signaling⟩
  | processPdu pdu => exact h.processPdu (hinbound pdu rfl) hfits
  | processBytes bytes =>
    rw [ChannelManager.apply, ChannelManager.processBytes]
    rcases hread : L2capPdu.fromBytes bytes with error | pdu
    · exact h
    · exact h.processPdu (length_fromBytes hread) (hfits pdu hread)
  | pollOutbound =>
    refine ⟨h.channels, fun pdu hmem => h.outbound pdu (List.mem_of_mem_tail hmem), ?_⟩
    exact fun hfree pdu hmem => h.signaling hfree pdu (List.mem_of_mem_tail hmem)
  | drainOutbound => exact ⟨h.channels, (by rintro _ ⟨⟩), fun _ => (by rintro _ ⟨⟩)⟩
  | popReceived cid =>
    rw [ChannelManager.apply, ChannelManager.popReceived]
    rcases hc : m.channel cid with _ | c
    · exact h
    have hc' := h.channels cid c hc
    have hpopped : c.popReceived.2.Bounded ∧
        c.popReceived.2.destinationCid = c.destinationCid := by
      rw [ClassicChannel.popReceived]
      split
      · exact ⟨hc', rfl⟩
      · exact ⟨⟨hc'.engine, hc'.frameCheck, hc'.waiting⟩, rfl⟩
    have hrespond := h.respond hc hpopped.1 hpopped.2 [] (by simp) []
    rw [List.map_nil, ChannelManager.react, List.append_nil, List.append_nil] at hrespond
    exact hrespond
  | _ => exact ⟨h.channels, h.outbound, h.signaling⟩

end ChannelManager

end ClassicHid
