import ClassicHid.Session.Outcome

/-!
# Links the host does not hold

A link that the session has refused, and one that it has given up, live on in the controller until
the controller reports their end. The host knows one link, so what the controller says about another
one depends on who is told: the session itself sorts out the ends of links it refused, and everything
else reaches the host, which takes it for an error.

## Main definitions

* `LinkNotice`: the packets about a link that do not establish it
* `Unharmed`: the session goes on with its window, its connection and its channels

## Main results

* `rejected_link_unharmed_iff`: which packets about a refused link the session survives
* `late_disconnection_spares_iff`: when the end of a link given up leaves the new one alone
-/

namespace ClassicHid

open Foundation BackendSession World

variable {S : Type}

/-! ### Packets about a link -/

/-- A packet about the link with a given handle, other than one that establishes it. -/
inductive LinkNotice (handle : UInt16)
  | acl (packet : AclPacket) (h : packet.connectionHandle = handle)
  | authenticationComplete (status : UInt8)
  | encryptionChange (status enabled : UInt8)
  | disconnectionComplete (status reason : UInt8)

/-- The end of a link. -/
def endPacket (status : UInt8) (handle : UInt16) (reason : UInt8) : EventPacket :=
  eventPacket eventDisconnectionComplete ([status] ++ toLe16 handle ++ [reason])

namespace LinkNotice

variable {handle : UInt16}

def packet : LinkNotice handle → Packet
  | acl packet _ => .acl packet
  | authenticationComplete status =>
    .event (eventPacket eventAuthenticationComplete ([status] ++ toLe16 handle))
  | encryptionChange status enabled =>
    .event (eventPacket eventEncryptionChange ([status] ++ toLe16 handle ++ [enabled]))
  | disconnectionComplete status reason => .event (endPacket status handle reason)

/-- A notice of which the host makes nothing: that something failed, or that the link is no longer
encrypted. -/
def isFailure : LinkNotice handle → Bool
  | acl .. => false
  | authenticationComplete status => status ≠ 0
  | encryptionChange status enabled => status ≠ 0 || enabled = 0
  | disconnectionComplete status _ => status ≠ 0

/-- The end of the link. -/
def isEnd : LinkNotice handle → Bool
  | disconnectionComplete status _ => status = 0
  | _ => false

end LinkNotice

/-- The session goes on, and its window, its connection and its channels are what they were. -/
structure Unharmed (w w' : World S) : Prop where
  terminal : w'.session.terminal = none
  window : w'.session.window = w.session.window
  connection : w'.session.connection = w.session.connection
  protocols : w'.session.protocols = w.session.protocols

/-! ### What they stand for -/

theorem le16At_one (status : UInt8) (handle : UInt16) (rest : Bytes) :
    le16At ([status] ++ toLe16 handle ++ rest) 1 = handle :=
  fromLe16_toLe16 handle

theorem decode_endPacket (status : UInt8) (handle : UInt16) (reason : UInt8) :
    decodeClassicEvent (endPacket status handle reason) =
      .ok (if status = 0 then [.disconnectionComplete handle reason] else []) := by
  have hdecode : decodeClassicEvent (endPacket status handle reason) = .ok (if status = 0 then
    [.disconnectionComplete (le16At ([status] ++ toLe16 handle ++ [reason]) 1) reason] else []) := rfl
  rw [hdecode, le16At_one]

theorem decode_authenticationComplete (status : UInt8) (handle : UInt16) :
    decodeClassicEvent (eventPacket eventAuthenticationComplete ([status] ++ toLe16 handle)) =
      .ok [.authenticationComplete status handle] := by
  have hdecode : decodeClassicEvent
      (eventPacket eventAuthenticationComplete ([status] ++ toLe16 handle)) =
    .ok [.authenticationComplete status (le16At ([status] ++ toLe16 handle ++ []) 1)] := rfl
  rw [hdecode, le16At_one]

theorem decode_encryptionChange (status : UInt8) (handle : UInt16) (enabled : UInt8) :
    decodeClassicEvent
      (eventPacket eventEncryptionChange ([status] ++ toLe16 handle ++ [enabled])) =
      .ok [.encryptionChange status handle (enabled ≠ 0)] := by
  have hdecode : decodeClassicEvent
      (eventPacket eventEncryptionChange ([status] ++ toLe16 handle ++ [enabled])) =
    .ok [.encryptionChange status (le16At ([status] ++ toLe16 handle ++ [enabled]) 1)
      (enabled ≠ 0)] := rfl
  rw [hdecode, le16At_one]

/-- The end of a link passes the session, unless it is the end of one that was refused. -/
theorem screen_endPacket (status : UInt8) (handle : UInt16) (reason : UInt8) (w : World S) :
    screenEvent (endPacket status handle reason) w =
      if status = 0 ∧ handle ∈ w.session.rejectedConnections then
        (.ok false, w.set fun session =>
          { session with rejectedConnections := session.rejectedConnections.erase handle })
      else (.ok true, w) := by
  have hscreen : screenEvent (endPacket status handle reason) w =
      if status = 0 ∧ le16At ([status] ++ toLe16 handle ++ [reason]) 1 ∈
          w.session.rejectedConnections then
        (.ok false, w.set fun session => { session with
          rejectedConnections := session.rejectedConnections.erase
            (le16At ([status] ++ toLe16 handle ++ [reason]) 1) })
      else (.ok true, w) := by
    have hcode : (endPacket status handle reason).eventCode = eventDisconnectionComplete := rfl
    rw [screenEvent, hcode, if_neg (by decide), if_neg (by decide), if_pos rfl,
      screenDisconnectionComplete]
    rw [show requireLen (endPacket status handle reason).parameters 4 "disconnection complete" =
      .ok () from rfl, Exec.lift_ok_bind, Exec.gets_bind]
    split
    · rename_i h
      exact (if_pos h).symm
    · rename_i h
      exact (if_neg h).symm
  rw [hscreen, le16At_one]

/-! ### What the host refuses -/

namespace ClassicHost

variable {host : ClassicHost S} {handle : UInt16}

theorem processAcl_of_not_link {packet : AclPacket} (h : host.link ≠ some packet.connectionHandle) :
    ∃ error, (processAcl packet host).1 = .error error := by
  have hstep := processAcl_step packet host
  generalize (processAcl packet host).1 = r at hstep ⊢
  generalize (processAcl packet host).2 = host' at hstep
  cases hstep with
  | refused error => exact ⟨error, rfl⟩
  | fed hlink => exact absurd hlink h
  | processed hlink => exact absurd hlink h

variable [BondStore S]

theorem authenticationComplete_of_not_link (h : host.link ≠ some handle) :
    ∃ error, handleEvent (.authenticationComplete 0 handle) host = (.error error, host) := by
  obtain ⟨error, hensure⟩ := ((ensureHandle_cases handle host).resolve_left fun h' => h h'.1).2
  refine ⟨error, ?_⟩
  rw [handleEvent, if_pos rfl, Exec.bind_error hensure]

theorem encryptionChange_of_not_link (h : host.link ≠ some handle) :
    ∃ error, handleEvent (.encryptionChange 0 handle true) host = (.error error, host) := by
  obtain ⟨error, hrun⟩ := ((onEncrypted_cases handle host).resolve_left fun h' => h h'.1).2
  exact ⟨error, by rw [handleEvent, if_pos ⟨rfl, rfl⟩, hrun]⟩

theorem disconnectionComplete_of_not_link (reason : UInt8) (h : host.link ≠ some handle) :
    ∃ error, handleEvent (.disconnectionComplete handle reason) host = (.error error, host) :=
  ((onDisconnectionComplete_cases handle reason host).resolve_left fun h' => h h'.1).2

end ClassicHost

/-! ### Refused links -/

section Refused

variable [BondStore S] {w : World S} {handle : UInt16}

/-- A closed session remembers no link it refused. -/
theorem Reachable.rejected_of_closed (h : Reachable w) (hclosed : w.session.closed = true) :
    w.session.rejectedConnections = ∅ := by
  refine Reachable.induction
    (P := fun w => w.session.closed = true → w.session.rejectedConnections = ∅)
    (fun w hw => ?_) (fun w w' hturn ih => ?_) h hclosed
  · obtain ⟨_, _, _, _, _, _, -, hsession⟩ := hw
    intro hclosed
    rw [hsession] at hclosed
    cases hclosed
  · cases hturn with
    | step hopen hstep =>
      intro hclosed
      rw [hstep.frame.1, hopen] at hclosed
      cases hclosed
    | noted => exact ih
    | closed => exact fun _ => rfl

/-- What the controller says about a refused link reaches the host as it is, unless it is the end of
the link. -/
theorem handlePacket_notice (notice : LinkNotice handle) (hend : notice.isEnd = false)
    (hlink : w.session.host.link ≠ some handle) :
    (notice.isFailure = true → handlePacket notice.packet w = drainHostOutput w) ∧
      (notice.isFailure = false → ∃ error w', handlePacket notice.packet w = (.error error, w')) := by
  cases notice with
  | acl packet hpacket =>
    refine ⟨fun h => (by cases h), fun _ => ?_⟩
    obtain ⟨error, herror⟩ := ClassicHost.processAcl_of_not_link (hpacket.symm ▸ hlink)
    have hrun : Exec.mapError mapHostError (onHost (ClassicHost.processAcl packet)) w =
        (.error (mapHostError error), BackendSession.hosted
          (ClassicHost.processAcl packet w.session.host).2 w) := by
      rw [mapError_onHost, herror]
      rfl
    exact ⟨mapHostError error, _, Exec.bind_error hrun⟩
  | authenticationComplete status =>
    have hdecode := decode_authenticationComplete status handle
    have hscreen : screenEvent (eventPacket eventAuthenticationComplete ([status] ++ toLe16 handle))
      w = (.ok true, w) := rfl
    by_cases hstatus : status = 0
    · subst hstatus
      refine ⟨fun h => (by cases h), fun _ => ?_⟩
      obtain ⟨error, herror⟩ := ClassicHost.authenticationComplete_of_not_link hlink
      exact ⟨_, _, handleEvent_refused hscreen hdecode herror⟩
    · refine ⟨fun _ => ?_, fun h => absurd (of_decide_eq_false h) (by simpa using hstatus)⟩
      exact handleEvent_told hscreen hdecode (by rw [ClassicHost.handleEvent, if_neg hstatus]; rfl)
        rfl
  | encryptionChange status enabled =>
    have hdecode := decode_encryptionChange status handle enabled
    have hscreen : screenEvent (eventPacket eventEncryptionChange
      ([status] ++ toLe16 handle ++ [enabled])) w = (.ok true, w) := rfl
    by_cases hon : status = 0 ∧ enabled ≠ 0
    · obtain ⟨rfl, henabled⟩ := hon
      refine ⟨fun h => ?_, fun _ => ?_⟩
      · simp [LinkNotice.isFailure, henabled] at h
      · rw [decide_eq_true henabled] at hdecode
        obtain ⟨error, herror⟩ := ClassicHost.encryptionChange_of_not_link hlink
        exact ⟨_, _, handleEvent_refused hscreen hdecode herror⟩
    · refine ⟨fun _ => ?_, fun h => absurd ?_ hon⟩
      · exact handleEvent_told hscreen hdecode
          (by rw [ClassicHost.handleEvent, if_neg (by simpa using hon)]; rfl) rfl
      · simpa [LinkNotice.isFailure] using h
  | disconnectionComplete status reason =>
    have hstatus : status ≠ 0 := of_decide_eq_false hend
    refine ⟨fun _ => ?_, fun h => absurd (of_decide_eq_false h) (by simpa using hstatus)⟩
    refine handleEvent_nothing ?_ ?_
    · rw [screen_endPacket, if_neg fun h => hstatus h.1]
    · rw [decode_endPacket, if_neg hstatus]

/-- **What the session survives of a link it refused**: the end of the link, and a notice that the
host makes nothing of, provided the controller accepts what the host has left to send. -/
theorem rejected_link_unharmed_iff (h : Reachable w) (hterminal : w.session.terminal = none)
    (hrejected : handle ∈ w.session.rejectedConnections)
    (hlink : w.session.host.link ≠ some handle) (notice : LinkNotice handle) :
    Unharmed w (w.inbound notice.packet).2 ↔
      notice.isEnd = true ∨ notice.isFailure = true ∧
        w.session.io.any (·.accepts w.session.host.output.length) = true := by
  have hopen : w.session.closed = false := by
    rw [Bool.eq_false_iff]
    intro hclosed
    rw [h.rejected_of_closed hclosed] at hrejected
    exact absurd hrejected (by simp)
  have hactive : checkActive w.session = .ok () := checkActive_eq_ok.mpr ⟨hopen, hterminal⟩
  obtain ⟨io, hio⟩ := Option.isSome_iff_exists.mp (h.settled.io hopen)
  rcases hend : notice.isEnd with _ | _
  · obtain ⟨hfailure, hrefused⟩ := handlePacket_notice notice hend
      (show (w.log (.received notice.packet)).session.host.link ≠ some handle from hlink)
    obtain ⟨hok, herror⟩ := drainHostOutput_quiet_iff
      (show (w.log (.received notice.packet)).session.io = some io from hio) (h.settled.quiet hactive)
    have hended {error : Error} {w' : World S}
        (hrun : handlePacket notice.packet (w.log (.received notice.packet)) = (.error error, w')) :
        ¬ Unharmed w (w.inbound notice.packet).2 := by
      intro hunharmed
      have hterminal := hunharmed.terminal
      rw [terminal_inbound_of_error hactive hrun] at hterminal
      cases hterminal
    rcases hkind : notice.isFailure with _ | _
    · obtain ⟨error, w', hrun⟩ := hrefused hkind
      simpa using hended hrun
    · rcases haccepts : io.accepts w.session.host.output.length with _ | _
      · obtain ⟨error, w', hrun⟩ := herror haccepts
        simpa [hio, haccepts] using hended ((hfailure hkind).trans hrun)
      · obtain ⟨w', hrun, hsession⟩ := hok haccepts
        rw [inbound_of_ok hactive ((hfailure hkind).trans hrun)]
        refine ⟨fun _ => .inr ⟨rfl, by simp [hio, haccepts]⟩, fun _ => ?_⟩
        constructor <;> rw [hsession]
        · exact hterminal
        all_goals rfl
  · refine ⟨fun _ => .inl rfl, fun _ => ?_⟩
    cases notice with
    | acl | authenticationComplete | encryptionChange => cases hend
    | disconnectionComplete status reason =>
      have hscreen := screen_endPacket status handle reason
        (w.log (.received (.event (endPacket status handle reason))))
      rw [if_pos ⟨of_decide_eq_true hend, hrejected⟩] at hscreen
      have hrun : handlePacket (.event (endPacket status handle reason))
        (w.log (.received (.event (endPacket status handle reason)))) = _ := handleEvent_kept hscreen
      rw [LinkNotice.packet, inbound_of_ok hactive hrun]
      exact ⟨hterminal, rfl, rfl, rfl⟩

end Refused

/-- A peer that nobody expects connects with handle 0x40, and is refused. -/
def sampleRejected : World MemoryBondStore :=
  (sampleWorld.inbound (completePacket 0 0x40 samplePeer)).2

theorem sampleRejected_reachable : Reachable sampleRejected := .received _ sampleWorld_reachable

theorem rejected_link_unharmed_iff_sampleRejected :
    (0x40 : UInt16) ∈ sampleRejected.session.rejectedConnections ∧ Unharmed sampleRejected
      (sampleRejected.inbound
        (LinkNotice.disconnectionComplete 0 0x13 : LinkNotice 0x40).packet).2 := by
  have hrejected : (0x40 : UInt16) ∈ sampleRejected.session.rejectedConnections := by decide +kernel
  exact ⟨hrejected, (rejected_link_unharmed_iff sampleRejected_reachable (by decide +kernel) hrejected
    (by decide +kernel) _).mpr (.inl rfl)⟩

/-- **A refused link ends the session**: the peer sends a packet before it learns that the link was
refused, and the session fails. -/
theorem rejected_link_ends_session : ∃ (w : World MemoryBondStore) (packet : AclPacket),
    Reachable w ∧ w.session.terminal = none ∧
      packet.connectionHandle ∈ w.session.rejectedConnections ∧
      w.session.host.link ≠ some packet.connectionHandle ∧
      (w.inbound (.acl packet)).2.session.terminal.isSome = true :=
  ⟨sampleRejected, signalPacket (.informationRequest 1 2), sampleRejected_reachable,
    by decide +kernel, by decide +kernel, by decide +kernel, by decide +kernel⟩

/-! ### Links given up -/

/-- Whether a peer may connect. -/
def ConnectionWindow.isOpen : ConnectionWindow → Bool
  | pairing _ | reconnecting _ => true
  | idle | connected => false

/-- A run in which `disconnect` was called while the session was connected with `handle`, and in
which the controller has not reported the end of that link since. -/
def GaveUp (handle : UInt16) (later : List (Entry S)) (w : World S) : Prop :=
  ∃ peer session earlier, w.trace = later ++ ⟨session, .called .disconnect⟩ :: earlier ∧
    session.connection = some (peer, handle) ∧
    ∀ entry ∈ later, ∀ reason, entry.action ≠ .received (.event (endPacket 0 handle reason))

/-- Whether the session is in a window that was opened in the course of `later`. -/
def InNewWindow (later : List (Entry S)) (w : World S) : Prop :=
  w.session.window.isOpen = true ∧ ∃ entry ∈ later, ∃ window, entry.action = .opened window

/-- The end of a link given up leaves the session, a window opened since and a connection with
another handle alone. -/
structure Spared (handle : UInt16) (later : List (Entry S)) (w w' : World S) : Prop where
  terminal : w'.session.terminal = none
  window : InNewWindow later w → w'.session.window = w.session.window ∧
    w'.session.activeReconnect = w.session.activeReconnect
  connection : ∀ peer other, w.session.connection = some (peer, other) → other ≠ handle →
    w'.session.connection = w.session.connection

section GivenUp

variable [BondStore S] {w : World S} {handle : UInt16}

/-- What the end of the host's link does: the packets left for other links are sent, and then the
session has no connection and tells its caller so. -/
theorem inbound_endPacket (reason : UInt8) {io : HciIo} (hactive : checkActive w.session = .ok ())
    (hio : w.session.io = some io) (hquiet : w.session.host.Quiet)
    (hrejected : handle ∉ w.session.rejectedConnections)
    (hlink : w.session.host.link = some handle) :
    (io.accepts (ClassicHost.withoutHandle handle w.session.host.output).length = true →
      ∃ w' : World S, (w.inbound (.event (endPacket 0 handle reason))).2 =
          w'.enqueue (.disconnected (some reason)) ∧
        w'.session.terminal = none ∧ w'.session.pendingEvents = w.session.pendingEvents ∧
        w'.session.window = .idle) ∧
    (io.accepts (ClassicHost.withoutHandle handle w.session.host.output).length = false →
      (w.inbound (.event (endPacket 0 handle reason))).2.session.terminal ≠ none) := by
  obtain ⟨connection, hconnection, rfl⟩ := Option.map_eq_some_iff.mp hlink
  set w₁ := w.log (.received (.event (endPacket 0 connection.handle reason)))
  obtain ⟨packets, hpackets⟩ : ∃ packets : List AclPacket,
      ClassicHost.withoutHandle connection.handle w.session.host.output = packets.map .acl :=
    exists_acls fun item hitem => hquiet.output item (List.mem_filter.mp hitem).1
  -- The host takes the event, and then carries it out after the packets.
  have hhost : ClassicHost.handleEvent (.disconnectionComplete connection.handle reason)
      w₁.session.host = (.ok (), w.session.host.disconnected connection reason) := by
    rcases ClassicHost.onDisconnectionComplete_cases connection.handle reason w.session.host with
      ⟨-, connection', hconnection', -, h⟩ | ⟨hne, -⟩
    · rw [hconnection] at hconnection'
      cases hconnection'
      exact h
    · exact absurd hlink hne
  have hscreen : screenEvent (endPacket 0 connection.handle reason) w₁ = (.ok true, w₁) := by
    rw [screen_endPacket, if_neg fun h => hrejected h.2]
  have hdecode : decodeClassicEvent (endPacket 0 connection.handle reason) =
      .ok [.disconnectionComplete connection.handle reason] := by
    rw [decode_endPacket, if_pos rfl]
  have hevent := handleEvent_told hscreen hdecode hhost rfl
  obtain ⟨hok, herror⟩ := drainHostOutput_acls packets
    (w := w₁.set ({ · with host := w.session.host.disconnected connection reason })) hio
    (show _ ++ [HostOutput.event (.disconnected connection.peer reason)] = _ by rw [hpackets])
  rw [hpackets, List.length_map]
  refine ⟨fun haccepts => ?_, fun haccepts => ?_⟩
  · obtain ⟨w₂, hdrain, hsession⟩ := hok haccepts
    have hout : w₂.session.host.output =
        [.event (.disconnected connection.peer reason)] := by rw [hsession]
    let w₃ := (w₂.popped []).set fun session =>
      { session with
        connection := none, window := .idle, protocols := {}, activeReconnect := false }
    have hlast : drainHostOutput w₂ = (.ok (), w₃.enqueue (.disconnected (some reason))) := by
      rw [drainHostOutput_cons hout]
      have hone : handleOutput (.event (.disconnected connection.peer reason)) (w₂.popped []) =
        (.ok (), w₃.enqueue (.disconnected (some reason))) := rfl
      rw [Exec.bind_ok hone]
      exact drainHostOutput_nil (by rw [host_enqueue]; rfl)
    have hrun : handlePacket (.event (endPacket 0 connection.handle reason)) w₁ =
      (.ok (), w₃.enqueue (.disconnected (some reason))) := hevent.trans (hdrain.trans hlast)
    refine ⟨w₃, inbound_of_ok hactive hrun, ?_, ?_, rfl⟩
    · show w₂.session.terminal = none
      rw [hsession]
      exact (checkActive_eq_ok.mp hactive).2
    · show w₂.session.pendingEvents = _
      rw [hsession]
      rfl
  · obtain ⟨error, w', hdrain⟩ := herror haccepts
    have hrun : handlePacket (.event (endPacket 0 connection.handle reason)) w₁ =
        (.error error, w') := hevent.trans hdrain
    rw [terminal_inbound_of_error hactive hrun]
    simp

/-- **When the end of a link given up spares the session**: the link was refused under the same
handle, or the host still holds it, no window opened since is open, and there is room to tell the
caller. -/
theorem late_disconnection_spares_iff (h : Reachable w) (hactive : checkActive w.session = .ok ())
    (later : List (Entry S)) (reason : UInt8) :
    GaveUp handle later w →
    (Spared handle later w (w.inbound (.event (endPacket 0 handle reason))).2 ↔
      handle ∈ w.session.rejectedConnections ∨
        w.session.host.link = some handle ∧ ¬ InNewWindow later w ∧
          w.session.pendingEvents.length ≠ eventQueueCapacity ∧
          w.session.io.any (·.accepts
            (ClassicHost.withoutHandle handle w.session.host.output).length) = true) := by
  intro _
  obtain ⟨hopen, hterminal⟩ := checkActive_eq_ok.mp hactive
  have hquiet := h.settled.quiet hactive
  obtain ⟨io, hio⟩ := Option.isSome_iff_exists.mp (h.settled.io hopen)
  by_cases hrejected : handle ∈ w.session.rejectedConnections
  · refine ⟨fun _ => .inl hrejected, fun _ => ?_⟩
    have hscreen := screen_endPacket 0 handle reason
      (w.log (.received (.event (endPacket 0 handle reason))))
    rw [if_pos ⟨rfl, hrejected⟩] at hscreen
    have hrun : handlePacket (.event (endPacket 0 handle reason))
      (w.log (.received (.event (endPacket 0 handle reason)))) = _ := handleEvent_kept hscreen
    rw [inbound_of_ok hactive hrun]
    exact ⟨hterminal, fun _ => ⟨rfl, rfl⟩, fun _ _ _ _ => rfl⟩
  rw [or_iff_right hrejected]
  by_cases hlink : w.session.host.link = some handle
  swap
  · -- The host holds another link, or none, and takes the event for an error.
    refine ⟨fun hspared => ?_, fun hcond => absurd hcond.1 hlink⟩
    obtain ⟨error, herror⟩ := ClassicHost.disconnectionComplete_of_not_link reason hlink
    have hscreen := screen_endPacket 0 handle reason
      (w.log (.received (.event (endPacket 0 handle reason))))
    rw [if_neg fun h => hrejected h.2] at hscreen
    have hrun : handlePacket (.event (endPacket 0 handle reason))
        (w.log (.received (.event (endPacket 0 handle reason)))) = _ :=
      handleEvent_refused hscreen (decode_endPacket 0 handle reason) herror
    have hend := hspared.terminal
    rw [terminal_inbound_of_error hactive hrun] at hend
    cases hend
  have hsame (peer : BluetoothAddress) (other : UInt16)
      (hconnection : w.session.connection = some (peer, other)) : other = handle := by
    have hpartner := (h.linked hopen).agree_of_quiet hquiet _ hconnection
    have := ClassicHost.link_eq_of_partner hpartner
    rw [hlink] at this
    cases this
    rfl
  obtain ⟨hok, herror⟩ := inbound_endPacket reason hactive hio hquiet hrejected hlink
  rcases haccepts : io.accepts (ClassicHost.withoutHandle handle w.session.host.output).length
    with _ | _
  · refine ⟨fun hspared => absurd hspared.terminal (herror haccepts), fun hcond => ?_⟩
    simp [hio, haccepts] at hcond
  obtain ⟨w', hinbound, hterminal', hpending, hwindow⟩ := hok haccepts
  rw [hinbound]
  have hroom : (w'.enqueue (.disconnected (some reason))).session.terminal = none ↔
      w.session.pendingEvents.length ≠ eventQueueCapacity := by
    rcases enqueue_cases (.disconnected (some reason)) w' with
      ⟨hsome, -⟩ | ⟨-, hfull, heq⟩ | ⟨-, hroom, heq⟩
    · simp [hterminal'] at hsome
    · rw [heq, ← hpending]
      simp [World.set, hfull]
    · rw [heq, ← hpending]
      simpa [World.set, World.log, hterminal'] using hroom
  refine ⟨fun hspared => ⟨hlink, fun hnew => ?_, hroom.mp hspared.terminal, ?_⟩, fun hcond => ?_⟩
  · have hkept := (hspared.window hnew).1
    rw [window_enqueue, hwindow] at hkept
    have hisOpen := hnew.1
    rw [← hkept] at hisOpen
    cases hisOpen
  · simp [hio, haccepts]
  · exact ⟨hroom.mpr hcond.2.2.1, fun hnew => absurd hnew hcond.2.1,
      fun peer other hconnection hne => absurd (hsame peer other hconnection) hne⟩

end GivenUp

/-- A call of `disconnect` while the session was connected with `handle`. -/
def Entry.givesUp (handle : UInt16) (entry : Entry S) : Bool :=
  match entry.action with
  | .called .disconnect => entry.session.connection.any (·.2 = handle)
  | _ => false

/-- What a record holds since the latest such call. -/
def sinceGivenUp (handle : UInt16) (trace : List (Entry S)) : List (Entry S) :=
  trace.takeWhile fun entry => !entry.givesUp handle

theorem gaveUp_sinceGivenUp {handle : UInt16} {w : World S}
    (hcalled : w.trace.any (·.givesUp handle) = true)
    (hlater : (sinceGivenUp handle w.trace).all (fun entry =>
      match entry.action with
      | .received _ => false
      | _ => true) = true) : GaveUp handle (sinceGivenUp handle w.trace) w := by
  obtain ⟨⟨session, action⟩, earlier, htrace, hgives⟩ := exists_latest hcalled
  unfold Entry.givesUp at hgives
  split at hgives
  · rename_i haction
    cases haction
    obtain ⟨⟨peer, handle'⟩, hconnection, heq⟩ := (Option.any_eq_true _ _).mp hgives
    refine ⟨peer, session, earlier, htrace, ?_, fun entry hentry reason haction => ?_⟩
    · rw [hconnection, ← of_decide_eq_true heq]
    · have h := List.all_eq_true.mp hlater entry hentry
      rw [haction] at h
      cases h
  · cases hgives

/-- The session has given its peer up, and lets a new one pair. -/
def sampleRepairing : World MemoryBondStore :=
  ((samplePaired.perform .disconnect).2.perform .startPairing).2

/-- **The end of a link given up closes the window opened since.** -/
theorem late_disconnection_closes_window : ∃ later,
    Reachable sampleRepairing ∧ checkActive sampleRepairing.session = .ok () ∧
      GaveUp 0x40 later sampleRepairing ∧
      ¬ Spared 0x40 later sampleRepairing
        (sampleRepairing.inbound (.event (endPacket 0 0x40 0x13))).2 := by
  refine ⟨_, .performed _ (.performed _ samplePaired_reachable),
    checkActive_eq_ok.mpr ⟨by decide +kernel, by decide +kernel⟩,
    gaveUp_sinceGivenUp (by decide +kernel) (by decide +kernel), fun hspared => ?_⟩
  have hopened : (sinceGivenUp 0x40 sampleRepairing.trace).any (fun entry =>
      match entry.action with
      | .opened _ => true
      | _ => false) = true := by decide +kernel
  obtain ⟨entry, hentry, hopens⟩ := List.any_eq_true.mp hopened
  have hnew : InNewWindow (sinceGivenUp 0x40 sampleRepairing.trace) sampleRepairing := by
    refine ⟨by decide +kernel, entry, hentry, ?_⟩
    split at hopens
    · exact ⟨_, by assumption⟩
    · cases hopens
  have hclosed : (sampleRepairing.inbound (.event (endPacket 0 0x40 0x13))).2.session.window ≠
      sampleRepairing.session.window := by decide +kernel
  exact hclosed (hspared.window hnew).1

/-- The session has given its peer up. -/
def sampleGivenUp : World MemoryBondStore := (samplePaired.perform .disconnect).2

theorem late_disconnection_spares_sampleGivenUp : ∃ later, GaveUp 0x40 later sampleGivenUp ∧
    Spared 0x40 later sampleGivenUp
      (sampleGivenUp.inbound (.event (endPacket 0 0x40 0x13))).2 := by
  have hgaveUp : GaveUp 0x40 (sinceGivenUp 0x40 sampleGivenUp.trace) sampleGivenUp :=
    gaveUp_sinceGivenUp (by decide +kernel) (by decide +kernel)
  have hidle : sampleGivenUp.session.window.isOpen ≠ true := by decide +kernel
  exact ⟨_, hgaveUp, (late_disconnection_spares_iff (.performed _ samplePaired_reachable)
    (checkActive_eq_ok.mpr ⟨by decide +kernel, by decide +kernel⟩) _ 0x13 hgaveUp).mpr
    (.inr ⟨by decide +kernel, fun hnew => hidle hnew.1, by decide +kernel, by decide +kernel⟩)⟩

end ClassicHid
