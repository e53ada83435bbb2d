import ClassicHid.Session.Outcome

/-!
# The peer that is expected

The window names the peer that may connect. The host keeps a memory of its own: the peer whose
request it accepted last. When the window is closed in between, the host goes on expecting a peer
that the next window knows nothing of, and refuses the one it waits for.

## Main definitions

* `HciIo.Willing`: a controller that takes every packet
* `Completion`: the event that a peer is connected
* `Connects`: the session is connected and has told its caller

## Main results

* `Reachable.servers`: the host always has the servers of the session
* `expected_peer_connects_iff`: the peer of the window connects when the host expects no other
-/

namespace ClassicHid

open Foundation BackendSession World

variable {S : Type}

/-! ### A controller that takes every packet -/

/-- Every packet is sent. -/
def HciIo.Willing (io : HciIo) : Prop := ∀ result ∈ io.sendResults, result = .ok ()

namespace HciIo.Willing

variable {io : HciIo}

theorem accepts (h : io.Willing) (n : ℕ) : io.accepts n = true := by
  refine List.all_eq_true.mpr fun result hresult => ?_
  rw [h result (List.mem_of_mem_take hresult)]
  rfl

theorem after (h : io.Willing) (n : ℕ) : (io.after n).Willing :=
  fun result hresult => h result (List.mem_of_mem_drop hresult)

end HciIo.Willing

/-- The session as it was, with a controller that takes every packet. -/
def Kept (session : BackendSession S) (w : World S) : Prop :=
  ∃ io : HciIo, io.Willing ∧ w.session = { session with io := some io }

/-- An operation that succeeds and does no more than send. -/
def Transmits (session : BackendSession S) (m : Op S Unit) : Prop :=
  Exec.Sat (Kept session) m fun r w => r = .ok () ∧ Kept session w

theorem Transmits.bind {session : BackendSession S} {m m' : Op S Unit} (hm : Transmits session m)
    (hm' : Transmits session m') : Transmits session (do m; m') := by
  refine Exec.Sat.bind hm (fun _ => ?_) fun _ _ h => absurd h.1 (by simp)
  exact hm'.mono (fun _ h => h.2) fun _ _ h => h

theorem sendPacket_transmits (session : BackendSession S) (packet : Packet) :
    Transmits session (sendPacket packet) := by
  intro w ⟨io, hio, hsession⟩
  have hsome : w.session.io = some io := by rw [hsession]
  rw [sendPacket_of_accepts packet hsome (hio.accepts 1)]
  exact ⟨rfl, _, hio.after 1, by simp [World.set, World.log, hsession]⟩

theorem sendCommand_transmits (session : BackendSession S) (opcode : UInt16) {parameters : Bytes}
    (hlen : parameters.length ≤ 255) : Transmits session (sendCommand opcode parameters) := by
  intro w hw
  rw [sendCommand, CommandPacket.new_eq_ok hlen]
  exact sendPacket_transmits session _ w hw

theorem hideController_transmits (session : BackendSession S) :
    Transmits session hideController := by
  have hwrite : Transmits session writeInquiryResponse := by
    intro w hw
    simp only [writeInquiryResponse, Exec.gets_bind]
    refine sendCommand_transmits session _ ?_ w hw
    rw [List.length_cons, w.session.config.length_inquiryResponse]
    decide
  exact hwrite.bind ((sendCommand_transmits session _ (by simp)).bind
    (sendCommand_transmits session _ (by simp)))

/-! ### The servers -/

section Servers

variable [BondStore S] {w : World S}

omit [BondStore S] in
theorem LinkEffect.servers {host' : ClassicHost S} (h : LinkEffect w host') :
    host'.servers = w.session.host.servers := by
  cases h with
  | none h => exact h.servers
  | requested _ _ h => rw [h]; rfl
  | established _ _ h => rw [h]; rfl
  | disconnected _ h => rw [h]; rfl

omit [BondStore S] in
theorem servers_connectChannel {psm : UInt32} {spec : ClassicChannelSpec} {host host' : ClassicHost S}
    {r : Except HostError UInt16} (h : ClassicHost.connectChannel psm spec host = (r, host')) :
    host'.servers = host.servers := by
  have hstep := (ClassicHost.callChannels_step (ChannelManager.connect psm spec)
    host).unlinked_link.1
  rw [← ClassicHost.connectChannel, h] at hstep
  exact hstep.servers

/-- **A turn** takes from the output of the host alone, or is a call of the host. -/
theorem Turn.host {w' : World S} (h : Turn w w') :
    (∃ output, output <:+ w.session.host.output ∧
        w'.session.host = { w.session.host with output := output }) ∨
      ∃ op, (w.Permits op ∨ ∃ psm spec, op = HostOp.connect psm spec) ∧
        w'.session.host = (op.run w.session.host).2 := by
  cases h with
  | step _ hstep =>
    cases hstep with
    | hosted op hop => exact .inr ⟨op, .inl hop, rfl⟩
    | @connecting channel _ _ _ _ _ _ hconnect =>
      refine .inr ⟨.connect channel.psm { mtu := classicServerMtu }, .inr ⟨_, _, rfl⟩, ?_⟩
      rw [HostOp.run, hconnect]
      rfl
    | flushed hout | skipped hout | linked hout =>
      exact .inl ⟨_, by rw [hout]; exact List.suffix_cons _ _, rfl⟩
    | unlinked hout =>
      rw [host_enqueue]
      exact .inl ⟨_, by rw [hout]; exact List.suffix_cons _ _, rfl⟩
    | admitted | reported | failed =>
      rw [host_enqueue]
      exact .inl ⟨_, List.suffix_refl _, rfl⟩
    | announced hannounces =>
      rw [host_enqueue]
      rcases hannounces with ⟨output, hout, rfl⟩ | ⟨-, rfl⟩
      · exact .inl ⟨_, by rw [hout]; exact List.suffix_cons _ _, rfl⟩
      · exact .inl ⟨_, List.suffix_refl _, rfl⟩
    | _ => exact .inl ⟨_, List.suffix_refl _, rfl⟩
  | noted | closed => exact .inl ⟨_, List.suffix_refl _, rfl⟩

/-- A turn keeps the servers of the host. -/
theorem Turn.servers {w' : World S} (h : Turn w w') :
    w'.session.host.servers = w.session.host.servers := by
  rcases h.host with ⟨output, -, hhost⟩ | ⟨op, hop | ⟨psm, spec, rfl⟩, hhost⟩ <;> rw [hhost]
  · exact (hosted_link hop).servers
  · exact servers_connectChannel (r := (ClassicHost.connectChannel psm spec w.session.host).1) rfl

/-- **The host always has the servers of the session.** -/
theorem Reachable.servers (h : Reachable w) : w.session.host.servers = sessionServers := by
  refine Reachable.induction (P := fun w => w.session.host.servers = sessionServers)
    (fun w hw => ?_) (fun w w' hturn ih => hturn.servers.trans ih) h
  obtain ⟨_, _, _, _, _, _, -, hsession⟩ := hw
  rw [hsession]
  rfl

theorem newChannels_sessionServers :
    ∃ channels, ClassicHost.newChannels sessionServers = .ok channels := by
  have h : (ClassicHost.newChannels sessionServers).isOk = true := by decide +kernel
  rcases hnew : ClassicHost.newChannels sessionServers with error | channels
  · rw [hnew] at h
    cases h
  · exact ⟨channels, rfl⟩

end Servers

/-! ### The completion of a connection -/

/-- An event that says that `peer` is connected over ACL, with `handle`. -/
structure Completion (event : EventPacket) (handle : UInt16) (peer : BluetoothAddress) : Prop where
  code : event.eventCode = eventConnectionComplete
  length : event.parameters.length = 11
  status : event.parameters.getD 0 0 = 0
  handle : le16At event.parameters 1 = handle
  peer : addressAt event.parameters 3 = .ok peer
  link : event.parameters.getD 9 0 = 0x01

/-- The session is connected, and has told its caller. -/
structure Connects (handle : UInt16) (peer : BluetoothAddress) (w : World S)
    (outcome : Except Error Unit × World S) : Prop where
  result : outcome.1 = .ok ()
  connection : outcome.2.session.connection = some (peer, handle)
  window : outcome.2.session.window = .connected
  told : outcome.2.session.pendingEvents = w.session.pendingEvents ++ [.connected peer]

section Expected

variable {event : EventPacket} {handle : UInt16} {peer : BluetoothAddress} {w : World S}

theorem Completion.decode (h : Completion event handle peer) :
    decodeClassicEvent event = .ok [.connectionComplete 0 handle peer] := by
  have hlen : requireLen event.parameters 11 "connection complete" = .ok () := if_pos h.length
  simp only [decodeClassicEvent, h.code, hlen, h.status, h.handle, h.peer]
  rfl

/-- The event passes the session when the window expects the peer. -/
theorem Completion.screen (h : Completion event handle peer)
    (hexpected : w.session.window.expected = some peer) :
    screenEvent event w = (.ok true, w) := by
  have hlen : requireLen event.parameters 11 "connection complete" = .ok () := if_pos h.length
  rw [screenEvent, h.code, if_neg (by decide), if_pos rfl, screenConnectionComplete, hlen,
    Exec.lift_ok_bind, h.peer, Exec.lift_ok_bind, Exec.gets_bind,
    if_neg fun hne => hne.2.elim (fun h' => h' hexpected) fun h' => h' h.link,
    if_neg fun hne => hne h.status]
  rfl

variable [BondStore S]

/-- What the host asks for when a link is established: the session is connected, the controller
shows itself to nobody, the caller is told, and the peer is to authenticate itself. -/
theorem drainHostOutput_connected {io : HciIo} {request : CommandPacket}
    (hout : w.session.host.output = [.event (.connected peer handle), .command request])
    (hio : w.session.io = some io) (hwilling : io.Willing) (hterminal : w.session.terminal = none)
    (hroom : w.session.pendingEvents.length ≠ eventQueueCapacity) :
    ∃ w', drainHostOutput w = (.ok (), w') ∧ w'.session.terminal = none ∧
      w'.session.connection = some (peer, handle) ∧ w'.session.window = .connected ∧
      w'.session.pendingEvents = w.session.pendingEvents ++ [.connected peer] := by
  let w₁ := ((w.popped [.command request]).log (.connected peer handle)).set fun session =>
    { session with connection := some (peer, handle), window := .connected, protocols := {} }
  have hkept : Kept w₁.session w₁ := ⟨io, hwilling, by rw [← hio]; rfl⟩
  rcases hhide : hideController w₁ with ⟨r, w₂⟩
  obtain ⟨hr, io₂, hwilling₂, hsession₂⟩ := hideController_transmits w₁.session w₁ hkept
  rw [hhide] at hr hsession₂
  cases hr
  have hsome : w₂.session.terminal = none := by
    rw [hsession₂]
    exact hterminal
  have hpending : w₂.session.pendingEvents = w.session.pendingEvents := by
    rw [hsession₂]
    rfl
  let w₃ := w₂.enqueue (.connected peer)
  have hrun : handleOutput (.event (.connected peer handle)) (w.popped [.command request]) =
      (.ok (), w₃) := Exec.bind_ok (f := fun _ => enqueueEvent (.connected peer)) hhide
  have hout₃ : w₃.session.host.output = [.command request] := by
    rw [host_enqueue, hsession₂]
    rfl
  have hqueued : w₃ = (w₂.log (.enqueued (.connected peer))).set fun session =>
      { session with pendingEvents := session.pendingEvents ++ [.connected peer] } := by
    rcases enqueue_cases (.connected peer) w₂ with ⟨h, -⟩ | ⟨-, hfull, -⟩ | ⟨-, -, heq⟩
    · simp [hsome] at h
    · rw [hpending] at hfull
      exact absurd hfull hroom
    · exact heq
  have hio₃ : (w₃.popped []).session.io = some io₂ := by
    show w₃.session.io = some io₂
    rw [io_enqueue, hsession₂]
  have hsend := sendPacket_of_accepts (.command request) hio₃ (hwilling₂.accepts 1)
  refine ⟨((w₃.popped []).log (.sent (.command request))).set
    ({ · with io := some (io₂.after 1) }), ?_, ?_, ?_, ?_, ?_⟩
  · rw [drainHostOutput_cons hout, Exec.bind_ok hrun, drainHostOutput_cons hout₃]
    refine (Exec.bind_ok hsend).trans ?_
    exact drainHostOutput_nil rfl
  -- What the caller is told is queued, since the session goes on and there is room.
  · show w₃.session.terminal = none
    rw [hqueued]
    exact hsome
  · show w₃.session.connection = _
    rw [connection_enqueue, hsession₂]
    rfl
  · show w₃.session.window = _
    rw [window_enqueue, hsession₂]
    rfl
  · show w₃.session.pendingEvents = _
    rw [hqueued, ← hpending]
    rfl

/-- **The expected peer connects** when the host expects no other: the window names the peer, there
is room for one more event, and the controller takes every packet. -/
theorem expected_peer_connects_iff (h : Reachable w) (hactive : checkActive w.session = .ok ())
    (hexpected : w.session.window.expected = some peer)
    (hroom : w.session.pendingEvents.length < eventQueueCapacity) {io : HciIo}
    (hio : w.session.io = some io) (hwilling : io.Willing) (hevent : Completion event handle peer) :
    Connects handle peer w (w.inbound (.event event)) ↔
      w.session.host.pendingPeer = none ∨ w.session.host.pendingPeer = some peer := by
  let w₁ := w.log (.received (.event event))
  have hscreen : screenEvent event w₁ = (.ok true, w₁) := hevent.screen hexpected
  have hfails {error : HostError}
      (hrun : ClassicHost.handleEvent (.connectionComplete 0 handle peer) w₁.session.host =
        (.error error, w.session.host)) : ¬ Connects handle peer w (w.inbound (.event event)) := by
    intro hconnects
    have hrun' : handlePacket (.event event) w₁ = _ :=
      handleEvent_refused hscreen hevent.decode hrun
    have hresult := hconnects.result
    rw [inbound_of_error hactive hrun'] at hresult
    cases hresult
  rcases ClassicHost.onConnectionComplete_cases handle peer w.session.host with
    ⟨other, hpending, hne, hrun⟩ | ⟨hpending, ⟨error, hnew, -⟩ | ⟨channels, -, hrun⟩⟩
  · refine ⟨fun hconnects => absurd hconnects (hfails hrun), fun hor => ?_⟩
    rw [hpending] at hor
    rcases hor with hor | hor
    · cases hor
    · cases hor
      exact absurd rfl hne
  · obtain ⟨channels, hchannels⟩ := newChannels_sessionServers
    rw [h.servers, hchannels] at hnew
    cases hnew
  refine ⟨fun _ => hpending, fun _ => ?_⟩
  obtain ⟨packets, hpackets⟩ := exists_acls (h.settled.quiet hactive).output
  have htold := handleEvent_told hscreen hevent.decode hrun rfl
  obtain ⟨hok, -⟩ := drainHostOutput_acls
    (w := w₁.set ({ · with host := w.session.host.established handle peer channels })) packets hio
    (show w.session.host.output ++ _ = _ by rw [hpackets])
  obtain ⟨w₂, hdrain, hsession⟩ := hok (hwilling.accepts _)
  obtain ⟨w₃, hdrain', hterminal, hconnection, hwindow, htold'⟩ := drainHostOutput_connected
    (w := w₂) (by rw [hsession]) (by rw [hsession]) (hwilling.after packets.length)
    (by rw [hsession]; exact (checkActive_eq_ok.mp hactive).2)
    (by rw [hsession]; exact Nat.ne_of_lt hroom)
  have hrun' : handlePacket (.event event) w₁ = (.ok (), w₃) := htold.trans (hdrain.trans hdrain')
  refine ⟨inbound_isOk hactive hrun' hterminal, ?_, ?_, ?_⟩ <;> rw [inbound_of_ok hactive hrun']
  · exact hconnection
  · exact hwindow
  · rw [htold', hsession]
    rfl

end Expected

/-! ### A peer the host does not expect -/

def sampleBond : ClassicBond :=
  { linkKey := List.replicate 16 0, linkKeyType := 4, authenticated := false,
    length_linkKey := List.length_replicate }

/-- A session with one bond. -/
def sampleBonded : World MemoryBondStore :=
  .ofSetup (initializeSession (sampleController 8 []) sampleConfig
    { bonds := [(samplePeer, sampleBond)] }) [] 0 (by decide +kernel)

theorem sampleBonded_reachable : Reachable sampleBonded := reachable_ofSetup ..

/-- The session waits for the peer of its bond. -/
def sampleReconnecting : World MemoryBondStore := (sampleBonded.perform .startReconnect).2

/-- Another peer was accepted for pairing before, and the window was closed. -/
def sampleDistracted : World MemoryBondStore :=
  ((((sampleBonded.perform .startPairing).2.inbound
    (requestPacket sampleStranger)).2.perform .disconnect).2.perform .startReconnect).2

theorem sampleDistracted_reachable : Reachable sampleDistracted :=
  .performed _ (.performed _ (.received _ (.performed _ sampleBonded_reachable)))

/-- The peer of the bond is connected with handle 0x40. -/
def sampleCompletion : EventPacket :=
  eventPacket eventConnectionComplete ([0] ++ toLe16 0x40 ++ samplePeer.asLeBytes ++ [1, 0])

theorem sampleCompletion_completion : Completion sampleCompletion 0x40 samplePeer where
  code := rfl
  length := by decide
  status := by decide
  handle := by decide
  peer := rfl
  link := by decide

/-- A session whose controller has no failure in store. -/
theorem exists_willing {w : World S}
    (h : w.session.io.any (·.sendResults.isEmpty) = true) :
    ∃ io, w.session.io = some io ∧ io.Willing := by
  obtain ⟨io, hio, hresults⟩ := (Option.any_eq_true _ _).mp h
  refine ⟨io, hio, fun result hresult => ?_⟩
  rw [List.isEmpty_iff.mp hresults] at hresult
  cases hresult

theorem expected_peer_connects_sampleReconnecting :
    sampleReconnecting.session.window.expected = some samplePeer ∧
      Connects 0x40 samplePeer sampleReconnecting
        (sampleReconnecting.inbound (.event sampleCompletion)) := by
  have hexpected : sampleReconnecting.session.window.expected = some samplePeer := by
    decide +kernel
  obtain ⟨io, hio, hwilling⟩ := exists_willing (w := sampleReconnecting) (by decide +kernel)
  exact ⟨hexpected, (expected_peer_connects_iff (.performed _ sampleBonded_reachable)
    (checkActive_eq_ok.mpr ⟨by decide +kernel, by decide +kernel⟩) hexpected (by decide +kernel) hio
    hwilling sampleCompletion_completion).mpr (.inl (by decide +kernel))⟩

/-- **The expected peer is refused** when another peer was accepted in a window that was closed. -/
theorem expected_peer_refused : ∃ io : HciIo, Reachable sampleDistracted ∧
    checkActive sampleDistracted.session = .ok () ∧
    sampleDistracted.session.window.expected = some samplePeer ∧
    sampleDistracted.session.pendingEvents.length < eventQueueCapacity ∧
    sampleDistracted.session.io = some io ∧ io.Willing ∧
    ¬ Connects 0x40 samplePeer sampleDistracted
      (sampleDistracted.inbound (.event sampleCompletion)) := by
  obtain ⟨io, hio, hwilling⟩ := exists_willing (w := sampleDistracted) (by decide +kernel)
  refine ⟨io, sampleDistracted_reachable,
    checkActive_eq_ok.mpr ⟨by decide +kernel, by decide +kernel⟩, by decide +kernel,
    by decide +kernel, hio, hwilling, fun hconnects => ?_⟩
  have hends : (sampleDistracted.inbound (.event sampleCompletion)).2.session.window ≠
      .connected := by decide +kernel
  exact hends hconnects.window

end ClassicHid
