import ClassicHid.Foundation.History
import ClassicHid.Host.Effect
import ClassicHid.L2cap.Signaling
import ClassicHid.Session.Basic

/-!
# The steps of a session

What a session can do in one indivisible step, with what is known when it does it. Every packet is
handled in a sequence of such steps, and so is every call but `close`, so a property of all runs is
a property that each step keeps.

## Main definitions

* `ClassicHost.Quiet`: the host asks for nothing but ACL packets, and announces nothing
* `World.Permits`: what is known when the host is called
* `Step`, `Steps`: one step of a world, and a sequence of steps

## Main results

* `hideController_keeps`: commands are sent in steps
* `connectHidChannel_moves`, `onChannelOpened_steps`: channels are begun and announced in steps
-/

namespace ClassicHid

open Foundation
open Std (ExtTreeMap)

variable {S : Type}

namespace ClassicHost

/-- The channels the host has still to announce. -/
def accepted (host : ClassicHost S) : List UInt16 :=
  host.connection.elim [] (·.channels.acceptedChannels)

/-- A host that asks for nothing but ACL packets, and has nothing to announce. -/
structure Quiet (host : ClassicHost S) : Prop where
  output : ∀ item ∈ host.output, ∃ packet, item = .acl packet
  accepted : host.accepted = []

/-- A host with an open control channel. -/
def ControlOpen (host : ClassicHost S) : Prop :=
  ∃ cid mtu, host.channelInfo cid = some (hidControlPsm, mtu, true)

end ClassicHost

/-! ### Steps -/

/-- The window after a packet: a connection request over ACL may be the one that fixes the peer. -/
def ConnectionWindow.latch (packet : Packet) (window : ConnectionWindow) : ConnectionWindow :=
  match packet with
  | .event event =>
    if event.eventCode = eventConnectionRequest ∧ event.parameters.length = 10 ∧
        event.parameters.getD 9 0 = 0x01 then
      match addressAt event.parameters 0 with
      | .ok peer => (window.accept peer).2
      | .error _ => window
    else window
  | _ => window

/-- Whether an output says that the link of the host is another one. -/
def HostOutput.changesLink : HostOutput → Bool
  | .event (.connected ..) | .event (.disconnected ..) => true
  | _ => false

namespace ClassicHost

/-- No request of the host says that its link is another one. -/
def KeepsLink (host : ClassicHost S) : Prop := ∀ item ∈ host.output, item.changesLink = false

theorem Quiet.keepsLink {host : ClassicHost S} (h : host.Quiet) : host.KeepsLink := by
  intro item hitem
  obtain ⟨packet, rfl⟩ := h.output item hitem
  rfl

/-- A call of the channels leaves the link. -/
theorem CallStep.keepsLink {α : Type} {m : ChannelManager.Update α} {host host' : ClassicHost S}
    {r : Except HostError α} (h : CallStep m host r host') (hlink : host.KeepsLink) :
    host'.KeepsLink := by
  cases h with
  | unlinked => exact hlink
  | refused => exact hlink
  | stuck => exact hlink
  | @flushed connection channels _ packets =>
    intro item hitem
    simp only [ClassicHost.flushed, List.mem_append, openedEvents, List.mem_map] at hitem
    rcases hitem with (hitem | ⟨packet, -, rfl⟩) | ⟨⟨psm, cid⟩, -, rfl⟩
    · exact hlink item hitem
    · rfl
    · rfl

end ClassicHost

namespace World

/-- The controller after it was used. -/
structure Uses (io io' : Option HciIo) : Prop where
  isSome : io'.isSome = io.isSome
  answers : io'.elim 0 (·.answers.length) ≤ io.elim 0 (·.answers.length)

/-- The host's output without its first item. -/
def popped (output : List HostOutput) (w : World S) : World S :=
  w.set fun session => { session with host := { session.host with output := output } }

/-- A record that ends with an action and the commands sent since. -/
def Follows (w : World S) (action : Action) : Prop :=
  ∃ commands session earlier, w.trace = commands ++ ⟨session, action⟩ :: earlier ∧
    ∀ entry ∈ commands, ∃ packet, entry.action = .sent packet

/-- What an operation of the host needs in order to be called. -/
def Permits (w : World S) : HostOp → Prop
  | .event (.connectionRequest peer) =>
    w.session.window.expected = some peer ∧ w.session.host.Quiet
  | .event (.connectionComplete status _ peer) =>
    status = 0 → w.session.window.expected = some peer ∧ w.session.host.Quiet
  | .event (.disconnectionComplete ..) => w.session.host.Quiet
  | .event (.linkKeyNotification peer linkKey linkKeyType h) =>
    ∃ packet session earlier, w.trace = ⟨session, .received (.event packet)⟩ :: earlier ∧
      decodeClassicEvent packet = .ok [.linkKeyNotification peer linkKey linkKeyType h]
  | .event (.encryptionChange status handle enabled) => w.session.host.Quiet ∧
    ∃ packet session earlier, w.trace = ⟨session, .received (.event packet)⟩ :: earlier ∧
      decodeClassicEvent packet = .ok [.encryptionChange status handle enabled]
  | .event _ => True
  | .acl packet => w.session.host.Quiet ∧
    ∃ session earlier, w.trace = ⟨session, .received (.acl packet)⟩ :: earlier ∧
      session.host = w.session.host ∧ session.protocols = w.session.protocols
  | .send .. => w.session.host.accepted = []
  | .take _ => True
  | .connect psm spec => (ClassicHost.connectChannel psm spec w.session.host).1.isOk = false
  | .register .. | .pop => False

/-- The channel a HID channel may be announced for: the host has just said that it opened, or the
session began it. -/
def Announces (w : World S) (channel : Channel) (cid : UInt16) (w' : World S) : Prop :=
  (∃ output, w.session.host.output = .event (.channelOpened channel.psm cid) :: output ∧
      w' = w.popped output) ∨
    w.session.protocols.channel channel = some ⟨cid, false⟩ ∧ w' = w

/-- The window a session may open. -/
def MayOpen (session : BackendSession S) [BondStore S] : ConnectionWindow → Bool → Prop
  | .pairing none, false => True
  | .reconnecting peer, true => BackendSession.soleBond session.host.bonds.inner = .ok peer
  | _, _ => False

/-- What SDP and HIDP may make of their own state: the HID channels and their MTUs stay, and an SDP
channel that is new is an open channel of the host. -/
structure MayTend (w : World S) (protocols : ProtocolState) : Prop where
  channel (channel : Channel) : protocols.channel channel = w.session.protocols.channel channel
  peerMtu (channel : Channel) :
    protocols.hidp.peerMtu channel = w.session.protocols.hidp.peerMtu channel
  sdp {cid : UInt16} {sdp : HidSdpChannel} : protocols.sdp[cid]? = some sdp →
    (∃ sdp', w.session.protocols.sdp[cid]? = some sdp' ∧ sdp.server.mtu = sdp'.server.mtu) ∨
      w.session.host.channelInfo cid = some (sdpPsm, sdp.server.mtu, true)

end World

open BackendSession World

/-- One step of a session. -/
inductive Step [BondStore S] : World S → World S → Prop
  /-- The clock is read. -/
  | ticked (w : World S) (clock : List ℕ) : Step w { w with clock := clock }
  /-- The controller has nothing to say. -/
  | consulted (w : World S) {io : Option HciIo} : Uses w.session.io io →
      Step w (w.set ({ · with io := io }))
  /-- A packet arrives; a connection request may fix the peer of a pairing window. -/
  | received (w : World S) (packet : Packet) {io : Option HciIo} : Uses w.session.io io →
      checkActive w.session = .ok () →
      Step w ((w.log (.received packet)).set fun session =>
        { session with io := io, window := session.window.latch packet })
  /-- The session sends a command of its own. -/
  | commanded (w : World S) {command : CommandPacket} {io : Option HciIo} :
      command.opcode ≠ hciAcceptConnectionRequest → Uses w.session.io io →
      Step w ((w.log (.sent (.command command))).set ({ · with io := io }))
  /-- The host is called. -/
  | hosted (w : World S) (op : HostOp) : w.Permits op →
      Step w (BackendSession.hosted (op.run w.session.host).2 w)
  /-- A packet of the host is sent. -/
  | flushed (w : World S) {item : HostOutput} {output : List HostOutput} {packet : Packet}
      {io : Option HciIo} : w.session.host.output = item :: output →
      (∃ command, item = .command command ∧ packet = .command command) ∨
        (∃ acl, item = .acl acl ∧ packet = .acl acl) → Uses w.session.io io →
      Step w (((w.popped output).log (.sent packet)).set ({ · with io := io }))
  /-- A request of the host needs nothing done at once. -/
  | skipped (w : World S) {item : HostOutput} {output : List HostOutput} :
      w.session.host.output = item :: output → item.changesLink = false → Step w (w.popped output)
  /-- The host has a link. -/
  | linked (w : World S) {peer : BluetoothAddress} {handle : UInt16} {output : List HostOutput} :
      w.session.host.output = .event (.connected peer handle) :: output →
      Step w (((w.popped output).log (.connected peer handle)).set fun session =>
        { session with connection := some (peer, handle), window := .connected, protocols := {} })
  /-- The caller is told of a link. -/
  | admitted (w : World S) {peer : BluetoothAddress} (handle : UInt16) :
      w.Follows (.connected peer handle) → w.session.connection = some (peer, handle) →
      w.session.window = .connected → w.session.protocols = {} →
      Step w (w.enqueue (.connected peer))
  /-- The link is gone. -/
  | unlinked (w : World S) {peer : BluetoothAddress} {reason : UInt8} {output : List HostOutput} :
      w.session.host.output = .event (.disconnected peer reason) :: output →
      Step w (((w.popped output).set fun session =>
        { session with
          connection := none, window := .idle, protocols := {}, activeReconnect := false }).enqueue
        (.disconnected (some reason)))
  /-- An active reconnect begins a HID channel. -/
  | connecting (w : World S) {channel : Channel} {cid : UInt16} {host : ClassicHost S} :
      w.session.host.accepted = [] → w.session.activeReconnect = true →
      w.session.protocols.channel channel = none →
      (channel = .interrupt → w.session.host.ControlOpen) →
      ClassicHost.connectChannel channel.psm { mtu := classicServerMtu } w.session.host =
        (.ok cid, host) →
      Step w ((w.log (.connecting channel.psm)).set fun session =>
        { session with
          host := host, protocols := session.protocols.setChannel channel ⟨cid, false⟩ })
  /-- A HID channel is open. -/
  | announced (w : World S) {channel : Channel} {cid mtu : UInt16} {w' : World S} :
      w.Announces channel cid w' →
      w.session.host.channelInfo cid = some (channel.psm, mtu, true) →
      firstOpen (w.session.protocols.channel channel) cid = true →
      Step w ((w'.set fun session =>
        { session with protocols := { session.protocols.setChannel channel ⟨cid, true⟩ with
            hidp := session.protocols.hidp.setPeerMtu channel mtu.toNat } }).enqueue
        (.channelOpened channel))
  /-- SDP and HIDP change their own state. -/
  | tended (w : World S) {protocols : ProtocolState} : w.MayTend protocols →
      Step w (w.set ({ · with protocols := protocols }))
  /-- The peer sent an output report on the link. -/
  | reported (w : World S) {channel : Channel} {protocolChannel : ProtocolChannel}
      (payload : Bytes) : w.session.protocols.channel channel = some protocolChannel →
      protocolChannel.open = true → w.session.host.KeepsLink →
      Step w (w.enqueue (.hidOutput channel payload))
  /-- A connection failed. -/
  | failed (w : World S) (status : UInt8) : w.session.host.Quiet →
      Step w ((w.set ({ · with window := .idle, activeReconnect := false })).enqueue
        (.disconnected (some status)))
  /-- A window is closed by `disconnect`. -/
  | hidden (w : World S) : w.session.host.Quiet → w.Follows (.called .disconnect) →
      Step w (w.set ({ · with window := .idle }))
  /-- The links that were refused change. -/
  | refused (w : World S) (rejected : Std.ExtTreeSet UInt16) :
      Step w (w.set ({ · with rejectedConnections := rejected }))
  /-- The session ends with an error. -/
  | terminated (w : World S) (error : Error) : Step w (w.set ({ · with terminal := some error }))
  /-- A window is opened. -/
  | opened (w : World S) (window : ConnectionWindow) (active : Bool) :
      w.session.host.Quiet → w.session.window = .idle → checkActive w.session = .ok () →
      MayOpen w.session window active →
      Step w ((w.log (.opened window)).set ({ · with activeReconnect := active, window := window }))
  /-- A poll hands its events over. -/
  | delivered (w : World S) (timeout : ℕ) : w.session.terminal = none → w.session.closed = false →
      Step w ((w.set ({ · with pendingEvents := [] })).log
        (.returned (.poll timeout) (.ok w.session.pendingEvents)))
  /-- `disconnect` forgets the link. -/
  | dismissed (w : World S) : w.Follows (.called .disconnect) →
      Step w (w.set ({ · with protocols := {}, activeReconnect := false, connection := none }))

/-- A sequence of steps. -/
abbrev Steps [BondStore S] : World S → World S → Prop := Relation.ReflTransGen Step

/-! ### Events -/

namespace World

/-- An event changes the queue of events or ends the session. -/
theorem session_enqueue (event : Event) (w : World S) :
    ∃ terminal pending, (w.enqueue event).session =
      { w.session with terminal := terminal, pendingEvents := pending } := by
  unfold World.enqueue
  split
  · exact ⟨_, _, rfl⟩
  · split <;> exact ⟨_, _, rfl⟩

/-- An event is dropped when the session is over, ends the session when there is no room for it, and
is queued otherwise. -/
theorem enqueue_cases (event : Event) (w : World S) :
    (w.session.terminal.isSome = true ∧ w.enqueue event = w) ∨
      (w.session.terminal = none ∧ w.session.pendingEvents.length = eventQueueCapacity ∧
        w.enqueue event = w.set ({ · with terminal := some (.new .eventQueueOverflow) })) ∨
      w.session.terminal = none ∧ w.session.pendingEvents.length ≠ eventQueueCapacity ∧
        w.enqueue event = (w.log (.enqueued event)).set fun session =>
          { session with pendingEvents := session.pendingEvents ++ [event] } := by
  unfold World.enqueue
  split
  · rename_i h
    exact .inl ⟨h, rfl⟩
  · rename_i h
    rw [Option.not_isSome_iff_eq_none] at h
    split
    · rename_i hfull
      exact .inr (.inl ⟨h, hfull, rfl⟩)
    · rename_i hroom
      exact .inr (.inr ⟨h, hroom, rfl⟩)

variable (event : Event) (w : World S)

@[simp] theorem host_enqueue : (w.enqueue event).session.host = w.session.host := by
  obtain ⟨_, _, h⟩ := session_enqueue event w
  rw [h]

@[simp] theorem protocols_enqueue : (w.enqueue event).session.protocols = w.session.protocols := by
  obtain ⟨_, _, h⟩ := session_enqueue event w
  rw [h]

@[simp] theorem window_enqueue : (w.enqueue event).session.window = w.session.window := by
  obtain ⟨_, _, h⟩ := session_enqueue event w
  rw [h]

@[simp] theorem connection_enqueue :
    (w.enqueue event).session.connection = w.session.connection := by
  obtain ⟨_, _, h⟩ := session_enqueue event w
  rw [h]

@[simp] theorem activeReconnect_enqueue :
    (w.enqueue event).session.activeReconnect = w.session.activeReconnect := by
  obtain ⟨_, _, h⟩ := session_enqueue event w
  rw [h]

@[simp] theorem closed_enqueue : (w.enqueue event).session.closed = w.session.closed := by
  obtain ⟨_, _, h⟩ := session_enqueue event w
  rw [h]

@[simp] theorem io_enqueue : (w.enqueue event).session.io = w.session.io := by
  obtain ⟨_, _, h⟩ := session_enqueue event w
  rw [h]

/-- An event is entered into the record when it is queued. -/
theorem trace_enqueue : (w.enqueue event).trace = w.trace ∨
    (w.enqueue event).trace = ⟨w.session, .enqueued event⟩ :: w.trace := by
  unfold World.enqueue
  split
  · exact .inl rfl
  · split
    · exact .inl rfl
    · exact .inr rfl

omit event w in
theorem throughout_enqueue {P : List (Entry S) → Entry S → Prop} {event : Event} {w : World S}
    (h : Throughout P w.trace) (hevent : P w.trace ⟨w.session, .enqueued event⟩) :
    Throughout P (w.enqueue event).trace := by
  rcases trace_enqueue event w with heq | heq <;> rw [heq]
  · exact h
  · exact ⟨hevent, h⟩

/-- A call of the host enters the bonds it stored into the record. -/
theorem trace_hosted (host : ClassicHost S) : ∃ later,
    (BackendSession.hosted host w).trace = later ++ w.trace ∧
      ∀ entry ∈ later, ∃ peer bond, entry = ⟨w.session, .upserted peer bond⟩ := by
  refine ⟨_, rfl, fun entry hentry => ?_⟩
  obtain ⟨⟨peer, bond⟩, -, rfl⟩ := List.mem_map.mp (List.mem_reverse.mp hentry)
  exact ⟨peer, bond, rfl⟩

end World

/-! ### Commands -/

theorem World.Uses.refl (io : Option HciIo) : Uses io io := ⟨rfl, Nat.le_refl _⟩

theorem World.uses_send (packet : Packet) (io : HciIo) :
    Uses (some io) (some (HciIo.send packet io).2) := by
  refine ⟨rfl, Nat.le_of_eq ?_⟩
  unfold HciIo.send
  split <;> rfl

/-- Nothing has happened but that commands were sent. -/
structure Sends [BondStore S] (w w' : World S) : Prop where
  session : ∃ io, w'.session = { w.session with io := io }
  trace : ∃ commands, w'.trace = commands ++ w.trace ∧
    ∀ entry ∈ commands, ∃ packet, entry.action = .sent packet
  steps : Steps w w'

namespace Sends

variable [BondStore S] {w w' w'' : World S}

theorem refl (w : World S) : Sends w w := ⟨⟨_, rfl⟩, ⟨[], rfl, by simp⟩, .refl⟩

theorem trans (h : Sends w w') (h' : Sends w' w'') : Sends w w'' := by
  obtain ⟨io, hio⟩ := h.session
  obtain ⟨io', hio'⟩ := h'.session
  obtain ⟨commands, ht, hc⟩ := h.trace
  obtain ⟨commands', ht', hc'⟩ := h'.trace
  refine ⟨⟨io', by rw [hio', hio]⟩, ⟨commands' ++ commands, ?_, ?_⟩, h.steps.trans h'.steps⟩
  · rw [ht', ht, List.append_assoc]
  · intro entry hentry
    rcases List.mem_append.mp hentry with h | h
    · exact hc' entry h
    · exact hc entry h

/-- The host is as it was. -/
theorem host (h : Sends w w') : w'.session.host = w.session.host := by
  obtain ⟨io, hio⟩ := h.session
  rw [hio]

theorem follows (h : Sends w w') {action : Action} (hw : w.Follows action) : w'.Follows action := by
  obtain ⟨commands, ht, hc⟩ := h.trace
  obtain ⟨commands', session, earlier, hw, hc'⟩ := hw
  refine ⟨commands ++ commands', session, earlier, by rw [ht, hw, List.append_assoc], ?_⟩
  intro entry hentry
  rcases List.mem_append.mp hentry with h | h
  · exact hc entry h
  · exact hc' entry h

end Sends

section Commands

variable [BondStore S] {w₀ : World S}

theorem sendPacket_keeps {command : CommandPacket}
    (h : command.opcode ≠ hciAcceptConnectionRequest) :
    Exec.Keeps (Sends w₀) (sendPacket (.command command)) := by
  intro w hw
  rcases hio : w.session.io with _ | io
  · simpa only [sendPacket, hio] using hw
  · simp only [sendPacket, hio]
    have huses : Uses w.session.io (some (HciIo.send (.command command) io).2) := by
      rw [hio]
      exact uses_send _ _
    exact hw.trans ⟨⟨_, rfl⟩, ⟨[_], rfl, by simp⟩, .single (.commanded w h huses)⟩

theorem sendCommand_keeps {opcode : UInt16} (parameters : Bytes)
    (h : opcode ≠ hciAcceptConnectionRequest) :
    Exec.Keeps (Sends w₀) (sendCommand opcode parameters) := by
  intro w hw
  rw [sendCommand, CommandPacket.new]
  split
  · exact sendPacket_keeps h w hw
  · exact hw

theorem setScan_keeps (discoverable connectable : Bool) :
    Exec.Keeps (Sends w₀) (setScan discoverable connectable) :=
  sendCommand_keeps _ (by decide)

theorem writeInquiryResponse_keeps : Exec.Keeps (Sends w₀) writeInquiryResponse :=
  Exec.Keeps.bind (Exec.keeps_gets _) fun _ => sendCommand_keeps _ (by decide)

theorem hideController_keeps : Exec.Keeps (Sends w₀) hideController :=
  Exec.Keeps.bind writeInquiryResponse_keeps fun _ =>
    Exec.Keeps.bind (setScan_keeps _ _) fun _ => setScan_keeps _ _

end Commands

/-! ### Channels -/

/-- The host has nothing to announce. -/
def Clear (w : World S) : Prop := w.session.host.accepted = []

theorem ClassicHost.accepted_connectChannel {psm : UInt32} {spec : ClassicChannelSpec}
    {host host' : ClassicHost S} {cid : UInt16}
    (h : ClassicHost.connectChannel psm spec host = (.ok cid, host')) : host'.accepted = [] := by
  have hstep := ClassicHost.callChannels_step (ChannelManager.connect psm spec) host
  rw [← ClassicHost.connectChannel, h] at hstep
  cases hstep
  rfl

theorem hosted_eq_set {host : ClassicHost S} {w : World S}
    (h : host.bonds = w.session.host.bonds) :
    BackendSession.hosted host w = w.set ({ · with host := host }) := by
  simp [BackendSession.hosted, newUpserts, h, World.set]

theorem ClassicHost.bonds_connectChannel (psm : UInt32) (spec : ClassicChannelSpec)
    (host : ClassicHost S) :
    (ClassicHost.connectChannel psm spec host).2.bonds = host.bonds := by
  have hstep := ClassicHost.callChannels_step (ChannelManager.connect psm spec) host
  rw [← ClassicHost.connectChannel] at hstep
  generalize ClassicHost.connectChannel psm spec host = outcome at hstep ⊢
  obtain ⟨r, host'⟩ := outcome
  cases hstep <;> rfl

/-- The source of an announcement for a PSM: the host's output or a channel of the session. -/
def Source (w : World S) (psm : UInt32) (cid : UInt16) (w' : World S) : Prop :=
  (∃ output, w.session.host.output = .event (.channelOpened psm cid) :: output ∧
      w' = w.popped output) ∨
    ∃ channel : Channel, psm = channel.psm ∧
      w.session.protocols.channel channel = some ⟨cid, false⟩ ∧ w' = w

theorem Source.frame {w w' : World S} {psm : UInt32} {cid : UInt16} (h : Source w psm cid w') :
    w'.session.host.connection = w.session.host.connection ∧
      w'.session.protocols = w.session.protocols := by
  rcases h with ⟨output, hout, rfl⟩ | ⟨_, _, _, rfl⟩ <;> exact ⟨rfl, rfl⟩

theorem Channel.psm_injective {channel channel' : Channel} (h : channel.psm = channel'.psm) :
    channel = channel' := by
  cases channel <;> cases channel' <;> first | rfl | (exact absurd h (by decide))

theorem ProtocolState.channel_setChannel (channel channel' : Channel)
    (protocolChannel : ProtocolChannel) (protocols : ProtocolState) :
    (protocols.setChannel channel protocolChannel).channel channel' =
      if channel' = channel then some protocolChannel else protocols.channel channel' := by
  cases channel <;> cases channel' <;> rfl

theorem Source.announces {w w' : World S} {channel : Channel} {cid : UInt16}
    (h : Source w channel.psm cid w') : w.Announces channel cid w' := by
  rcases h with h | ⟨channel', hpsm, hc, rfl⟩
  · exact .inl h
  · rw [Channel.psm_injective hpsm]
    exact .inr ⟨hc, rfl⟩

section Channels

variable [BondStore S]

theorem connectHidChannel_moves (channel : Channel) :
    Exec.Moves Step
      (fun w : World S => Clear w ∧ (channel = .interrupt → w.session.host.ControlOpen))
      (connectHidChannel channel) fun r w => r.isOk = true → Clear w := by
  intro w ⟨hclear, hcontrol⟩
  simp only [connectHidChannel, Exec.gets_bind]
  split
  · rename_i hactive
    have hbonds := ClassicHost.bonds_connectChannel channel.psm { mtu := classicServerMtu }
      w.session.host
    rcases hr : ClassicHost.connectChannel channel.psm { mtu := classicServerMtu } w.session.host with
      ⟨error | cid, host⟩
    · rw [hr] at hbonds
      have hrun : connectChannel channel.psm w =
          (.error (mapHostError error), w.set ({ · with host := host })) := by
        simp only [connectChannel, onHost, hr, hosted_eq_set hbonds]
      rw [Exec.bind_error hrun]
      have hstep : Step w (BackendSession.hosted host w) := by
        have h := Step.hosted w (.connect channel.psm { mtu := classicServerMtu })
          (by simp [Permits, hr, Except.isOk, Except.toBool])
        simpa only [HostOp.run, hr] using h
      rw [hosted_eq_set hbonds] at hstep
      exact ⟨.single hstep, fun h => by cases h⟩
    · rw [hr] at hbonds
      have hrun : connectChannel channel.psm w = (.ok cid,
          (w.log (.connecting channel.psm)).set ({ · with host := host })) := by
        simp only [connectChannel, onHost, hr, hosted_eq_set hbonds]
        rfl
      rw [Exec.bind_ok hrun]
      exact ⟨.single (.connecting w hclear hactive.1 hactive.2 hcontrol hr),
        fun _ => ClassicHost.accepted_connectChannel hr⟩
  · exact ⟨.refl, fun _ => hclear⟩

theorem Source.steps {w w' : World S} {psm : UInt32} {cid : UInt16} (h : Source w psm cid w') :
    Steps w w' := by
  rcases h with ⟨output, hout, rfl⟩ | ⟨_, _, _, rfl⟩
  · exact .single (.skipped w hout rfl)
  · exact .refl

theorem announceChannel_steps {w w' : World S} (channel : Channel) {cid mtu : UInt16}
    (hsource : Source w channel.psm cid w')
    (hinfo : w.session.host.channelInfo cid = some (channel.psm, mtu, true)) :
    ∃ w'', announceChannel channel cid mtu w' = (.ok (), w'') ∧ Steps w w'' ∧
      w''.session.host = w'.session.host := by
  simp only [announceChannel, Exec.gets_bind]
  split
  · rename_i hfirst
    rw [hsource.frame.2] at hfirst
    exact ⟨_, rfl, .single (.announced w hsource.announces hinfo hfirst), host_enqueue _ _⟩
  · exact ⟨w', rfl, hsource.steps, rfl⟩

/-- **A channel that opened** is announced in steps. -/
theorem onChannelOpened_steps {w w' : World S} {psm : UInt32} {cid : UInt16}
    (hsource : Source w psm cid w') (hclear : Clear w) :
    Steps w (onChannelOpened psm cid w').2 ∧
      ((onChannelOpened psm cid w').1.isOk = true → Clear (onChannelOpened psm cid w').2) := by
  have hconnection := hsource.frame.1
  have hclear' : Clear w' := by
    rw [Clear, ClassicHost.accepted, hconnection]
    exact hclear
  have hinfo : w'.session.host.channelInfo cid = w.session.host.channelInfo cid := by
    simp only [ClassicHost.channelInfo, hconnection]
  simp only [onChannelOpened, Exec.gets_bind]
  rw [hinfo]
  rcases hchannel : w.session.host.channelInfo cid with _ | ⟨actualPsm, mtu, isOpen⟩
  · exact ⟨hsource.steps, fun h => by cases h⟩
  dsimp only
  split
  · exact ⟨hsource.steps, fun h => by cases h⟩
  rename_i hmatch
  obtain ⟨rfl, rfl⟩ : isOpen = true ∧ actualPsm = psm := by simpa using hmatch
  split
  · rename_i hpsm
    refine ⟨hsource.steps.tail (.tended w' ⟨fun channel => ?_, fun _ => rfl,
        fun {cid' sdp} hsdp => ?_⟩),
      fun _ => hclear'⟩
    · cases channel <;> rfl
    · rw [ExtTreeMap.getElem?_insertIfNew] at hsdp
      split at hsdp
      · rename_i hnew
        obtain rfl : cid = cid' := Std.LawfulEqCmp.eq_of_compare hnew.1
        cases hsdp
        rw [hinfo, hchannel, hpsm]
        exact .inr rfl
      · exact .inl ⟨sdp, hsdp, rfl⟩
  split
  · rename_i hpsm
    subst hpsm
    obtain ⟨w'', hrun, hsteps, hhost⟩ := announceChannel_steps .control hsource hchannel
    rw [Exec.bind_ok hrun]
    have hclear'' : Clear w'' := by rwa [Clear, hhost]
    obtain ⟨hsteps', hpost⟩ := connectHidChannel_moves .interrupt w''
      ⟨hclear'', fun _ => ⟨cid, mtu, by rw [hhost, hinfo, hchannel]⟩⟩
    exact ⟨hsteps.trans hsteps', hpost⟩
  split
  · rename_i hpsm
    subst hpsm
    obtain ⟨w'', hrun, hsteps, hhost⟩ :=
      announceChannel_steps .interrupt hsource hchannel
    rw [hrun]
    exact ⟨hsteps, fun _ => by rwa [Clear, hhost]⟩
  · exact ⟨hsource.steps, fun h => by cases h⟩

end Channels

end ClassicHid
