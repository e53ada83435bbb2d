import ClassicHid.Host.Basic

/-!
# The events of the controller

What the host does with each event: the state it leaves and the outputs it appends.

## Main definitions

* `ClassicHost.acceptCommand`, `ClassicHost.requested`, `ClassicHost.established`,
  `ClassicHost.disconnected`: the states after the events that change the link

## Main results

* `ClassicHost.onConnectionRequest_eq`, `ClassicHost.onConnectionComplete_cases`,
  `ClassicHost.onEncrypted_cases`, `ClassicHost.onDisconnectionComplete_cases`: the events that
  change the link
* `ClassicHost.handleEvent_replies`: the other events append replies
-/

namespace ClassicHid

open Foundation
open Std (ExtTreeMap)

namespace ClassicHost

variable {S : Type}

/-- The handle of the link the host holds. -/
def link (host : ClassicHost S) : Option UInt16 := host.connection.map (·.handle)

/-- The outputs appended. -/
def append (items : List HostOutput) (host : ClassicHost S) : ClassicHost S :=
  { host with output := host.output ++ items }

/-- A command of at most 255 bytes is queued. -/
theorem queueCommand_eq {opcode : UInt16} {parameters : Bytes} (h : parameters.length ≤ 255)
    (host : ClassicHost S) :
    queueCommand opcode parameters host =
      (.ok (), host.append [.command ⟨opcode, parameters, h⟩]) := by
  simp [queueCommand, Exec.bind_apply, CommandPacket.new_eq_ok h, Except.mapError, pushOutput,
    append]

/-! ### Connections -/

theorem length_acceptParameters (peer : BluetoothAddress) :
    (peer.asLeBytes ++ [hciRolePeripheral]).length ≤ 255 := by
  simp

/-- The command that accepts a connection request. -/
def acceptCommand (peer : BluetoothAddress) : CommandPacket :=
  ⟨hciAcceptConnectionRequest, peer.asLeBytes ++ [hciRolePeripheral], length_acceptParameters peer⟩

/-- The command that starts the authentication of a link. -/
def authenticationCommand (handle : UInt16) : CommandPacket :=
  ⟨hciAuthenticationRequested, toLe16 handle, by simp⟩

/-- The state after an accepted request. -/
def requested (peer : BluetoothAddress) (host : ClassicHost S) : ClassicHost S :=
  { host with pendingPeer := some peer, output := host.output ++ [.command (acceptCommand peer)] }

/-- The state after a link was established. -/
def established (handle : UInt16) (peer : BluetoothAddress) (channels : ChannelManager)
    (host : ClassicHost S) : ClassicHost S :=
  { host with
    pendingPeer := none
    connection := some { peer := peer, handle := handle, encrypted := false, channels := channels }
    output := host.output ++
      [.event (.connected peer handle), .command (authenticationCommand handle)] }

/-- The state after the link ended. -/
def disconnected (connection : Connection) (reason : UInt8) (host : ClassicHost S) :
    ClassicHost S :=
  { host with
    aclFlow := host.aclFlow.clearHandle connection.handle
    aclAssembler := host.aclAssembler.clearHandle connection.handle
    output := withoutHandle connection.handle host.output ++
      [.event (.disconnected connection.peer reason)]
    connection := none }

theorem onConnectionRequest_eq (peer : BluetoothAddress) (host : ClassicHost S) :
    onConnectionRequest peer host = (.ok (), host.requested peer) := by
  rw [onConnectionRequest, Exec.modify_bind, queueCommand_eq (length_acceptParameters peer)]
  rfl

/-- A completed connection is refused and nothing changes, or it is established; it is
established exactly when no other peer is pending and the servers can be registered. -/
theorem onConnectionComplete_cases (handle : UInt16) (peer : BluetoothAddress)
    (host : ClassicHost S) :
    (∃ expected, host.pendingPeer = some expected ∧ peer ≠ expected ∧
        onConnectionComplete handle peer host = (.error (.peerMismatch expected peer), host)) ∨
      ((host.pendingPeer = none ∨ host.pendingPeer = some peer) ∧
        ((∃ e, newChannels host.servers = .error e ∧
            onConnectionComplete handle peer host = (.error (.l2cap e), host)) ∨
          ∃ channels, newChannels host.servers = .ok channels ∧
            onConnectionComplete handle peer host =
              (.ok (), host.established handle peer channels))) := by
  by_cases hp : ∃ expected, host.pendingPeer = some expected ∧ peer ≠ expected
  · obtain ⟨expected, hp, hne⟩ := hp
    left
    have hcheck : checkPendingPeer peer host = (.error (.peerMismatch expected peer), host) := by
      simp [checkPendingPeer, hp, hne]
    exact ⟨expected, hp, hne, by rw [onConnectionComplete, Exec.bind_error hcheck]⟩
  · right
    have hpending : host.pendingPeer = none ∨ host.pendingPeer = some peer := by
      rcases h : host.pendingPeer with _ | expected
      · exact .inl rfl
      · rcases eq_or_ne peer expected with rfl | hne
        · exact .inr rfl
        · exact (hp ⟨expected, h, hne⟩).elim
    have hcheck : checkPendingPeer peer host = (.ok (), host) := by
      rcases hpending with h | h <;> simp [checkPendingPeer, h]
    refine ⟨hpending, ?_⟩
    rw [onConnectionComplete, Exec.bind_ok hcheck, Exec.gets_bind]
    rcases hn : newChannels host.servers with e | channels
    · exact .inl ⟨e, rfl, by simp [Exec.bind_apply, Except.mapError]⟩
    · refine .inr ⟨channels, rfl, ?_⟩
      have hle : (toLe16 handle).length ≤ 255 := by simp
      simp [Exec.bind_apply, Except.mapError, pushOutput, queueCommand_eq hle, append, established,
        authenticationCommand]

/-- The link has the handle, or there is an error; nothing changes. -/
theorem ensureHandle_cases (handle : UInt16) (host : ClassicHost S) :
    (host.link = some handle ∧ ensureHandle handle host = (.ok (), host)) ∨
      (host.link ≠ some handle ∧ ∃ e, ensureHandle handle host = (.error e, host)) := by
  rcases hc : host.connection with _ | connection
  · right
    simp [link, hc, ensureHandle, connectionHandle, Exec.bind_apply]
  · by_cases hh : connection.handle = handle
    · left
      simp [link, hc, ensureHandle, connectionHandle, Exec.bind_apply, hh]
    · right
      simp [link, hc, ensureHandle, connectionHandle, Exec.bind_apply, hh, Ne.symm hh]

/-- The link with a handle is found, or there is an error; nothing changes. -/
theorem connectionOf_cases (handle : UInt16) (host : ClassicHost S) :
    (host.link = some handle ∧ ∃ connection, host.connection = some connection ∧
        connection.handle = handle ∧ connectionOf handle host = (.ok connection, host)) ∨
      (host.link ≠ some handle ∧ ∃ e, connectionOf handle host = (.error e, host)) := by
  rcases ensureHandle_cases handle host with ⟨hl, h⟩ | ⟨hl, e, h⟩
  · obtain ⟨connection, hc, hh⟩ := Option.map_eq_some_iff.mp hl
    refine .inl ⟨hl, connection, hc, hh, ?_⟩
    rw [connectionOf, Exec.bind_ok h]
    simp [hc]
  · exact .inr ⟨hl, e, by rw [connectionOf, Exec.bind_error h]⟩

/-- Encryption is switched on for the link with the handle, or there is an error and nothing
changes. -/
theorem onEncrypted_cases (handle : UInt16) (host : ClassicHost S) :
    (host.link = some handle ∧ ∃ connection, host.connection = some connection ∧
        onEncrypted handle host = (.ok (),
          { host with connection := some { connection with encrypted := true },
                      output := host.output ++ [.event (.encrypted connection.peer)] })) ∨
      (host.link ≠ some handle ∧ ∃ e, onEncrypted handle host = (.error e, host)) := by
  rcases connectionOf_cases handle host with ⟨hl, connection, hc, -, hof⟩ | ⟨hl, e, hof⟩
  · left
    refine ⟨hl, connection, hc, ?_⟩
    rw [onEncrypted, Exec.bind_ok hof]
    simp [pushOutput]
  · right
    exact ⟨hl, e, by rw [onEncrypted, Exec.bind_error hof]⟩

/-- The link with the handle ends, or there is an error and nothing changes. -/
theorem onDisconnectionComplete_cases (handle : UInt16) (reason : UInt8) (host : ClassicHost S) :
    (host.link = some handle ∧ ∃ connection, host.connection = some connection ∧
        connection.handle = handle ∧
        onDisconnectionComplete handle reason host =
          (.ok (), host.disconnected connection reason)) ∨
      (host.link ≠ some handle ∧
        ∃ e, onDisconnectionComplete handle reason host = (.error e, host)) := by
  rcases connectionOf_cases handle host with ⟨hl, connection, hc, hh, hof⟩ | ⟨hl, e, hof⟩
  · left
    refine ⟨hl, connection, hc, hh, ?_⟩
    rw [onDisconnectionComplete, Exec.bind_ok hof]
    simp [pushOutput, disconnected, hh]
  · right
    exact ⟨hl, e, by rw [onDisconnectionComplete, Exec.bind_error hof]⟩

/-! ### Replies -/

/-- The commands the host answers with, apart from the acceptance of a connection. -/
def IsReply (item : HostOutput) : Prop :=
  ∃ packet : CommandPacket, item = .command packet ∧ packet.opcode ≠ hciAcceptConnectionRequest

theorem queueCommand_reply {opcode : UInt16} {parameters : Bytes} (h : parameters.length ≤ 255)
    (hop : opcode ≠ hciAcceptConnectionRequest) (host : ClassicHost S) :
    ∃ items, queueCommand opcode parameters host = (.ok (), host.append items) ∧
      ∀ item ∈ items, IsReply item := by
  refine ⟨_, queueCommand_eq h host, ?_⟩
  intro item hitem
  rw [List.mem_singleton.mp hitem]
  exact ⟨_, rfl, hop⟩

section

variable [BondStore S]

theorem onLinkKeyRequest_reply (peer : BluetoothAddress) (host : ClassicHost S) :
    ∃ r items, onLinkKeyRequest peer host = (r, host.append items) ∧
      ∀ item ∈ items, IsReply item := by
  simp only [onLinkKeyRequest, Exec.get_bind]
  rcases hl : BondStore.load host.bonds.inner peer with e | _ | bond
  · exact ⟨.error (.bondStore e), [], by simp [Exec.bind_apply, Except.mapError, append], by simp⟩
  · have hle : peer.asLeBytes.length ≤ 255 := by simp
    obtain ⟨items, h, hi⟩ := queueCommand_reply hle
      (show hciLinkKeyRequestNegativeReply ≠ _ by decide) host
    exact ⟨.ok (), items, by simpa [Exec.bind_apply, Except.mapError] using h, hi⟩
  · have hle : (peer.asLeBytes ++ bond.linkKey).length ≤ 255 := by simp [bond.length_linkKey]
    obtain ⟨items, h, hi⟩ := queueCommand_reply hle
      (show hciLinkKeyRequestReply ≠ _ by decide) host
    exact ⟨.ok (), items, by simpa [Exec.bind_apply, Except.mapError] using h, hi⟩

/-! ### Every event -/

/-- The events that are answered by a command or by nothing. -/
def isAnswered : ClassicEvent → Bool
  | .linkKeyRequest _ | .ioCapabilityRequest _ | .userConfirmationRequest _
  | .authenticationComplete .. | .encryptionChange .. => true
  | _ => false

/-- What the host does with an event. -/
inductive EventStep (host : ClassicHost S) :
    ClassicEvent → Except HostError Unit → ClassicHost S → Prop
  /-- An error, and nothing changes. -/
  | refused (event : ClassicEvent) (e : HostError) : EventStep host event (.error e) host
  /-- Replies, which may be none. -/
  | replied {event : ClassicEvent} {r : Except HostError Unit} {items : List HostOutput} :
      isAnswered event = true → (∀ item ∈ items, IsReply item) →
      EventStep host event r (host.append items)
  | requested (peer : BluetoothAddress) :
      EventStep host (.connectionRequest peer) (.ok ()) (host.requested peer)
  | established {handle : UInt16} {peer : BluetoothAddress} {channels : ChannelManager} :
      newChannels host.servers = .ok channels →
      host.pendingPeer = none ∨ host.pendingPeer = some peer →
      EventStep host (.connectionComplete 0 handle peer) (.ok ())
        (host.established handle peer channels)
  | forgotten {status : UInt8} (handle : UInt16) (peer : BluetoothAddress) : status ≠ 0 →
      EventStep host (.connectionComplete status handle peer) (.ok ())
        { host with pendingPeer := none }
  | notified {peer : BluetoothAddress} {linkKey : Bytes} {linkKeyType : UInt8}
      {hlen : linkKey.length = 16} {r : Except HostError Unit} {items : List HostOutput} :
      (∀ item ∈ items, item = .event (.bondStored peer)) →
      EventStep host (.linkKeyNotification peer linkKey linkKeyType hlen) r
        (append items
          { host with bonds := (host.bonds.upsert peer (bondOf linkKey linkKeyType hlen)).2 })
  | encrypted {handle : UInt16} {connection : Connection} :
      host.connection = some connection → connection.handle = handle →
      EventStep host (.encryptionChange 0 handle true) (.ok ())
        { host with connection := some { connection with encrypted := true },
                    output := host.output ++ [.event (.encrypted connection.peer)] }
  | completed {handle n : UInt16} {flow : AclFlow} :
      AclFlow.complete handle n host.aclFlow = (.ok (), flow) →
      EventStep host (.numberOfCompletedPackets handle n) (.ok ())
        { host with aclFlow := flow.flush.1, output := host.output ++ flow.flush.2.map .acl }
  | disconnected {handle : UInt16} {reason : UInt8} {connection : Connection} :
      host.connection = some connection → connection.handle = handle →
      EventStep host (.disconnectionComplete handle reason) (.ok ())
        (host.disconnected connection reason)

theorem EventStep.ignored {host : ClassicHost S} {event : ClassicEvent} {r : Except HostError Unit}
    (h : isAnswered event = true) : EventStep host event r host := by
  have h : EventStep host event r (host.append []) := .replied h (by simp)
  simpa [append] using h

/-- A command other than the acceptance of a connection is a reply. -/
theorem EventStep.queueCommand {host : ClassicHost S} {event : ClassicEvent} {opcode : UInt16}
    {parameters : Bytes} (hle : parameters.length ≤ 255) (hop : opcode ≠ hciAcceptConnectionRequest)
    (hevent : isAnswered event = true) :
    EventStep host event (queueCommand opcode parameters host).1
      (queueCommand opcode parameters host).2 := by
  obtain ⟨items, h, hi⟩ := queueCommand_reply hle hop host
  rw [h]
  exact .replied hevent hi

/-- **Every event** is handled in one of these ways. -/
theorem handleEvent_step (event : ClassicEvent) (host : ClassicHost S) :
    EventStep host event (handleEvent event host).1 (handleEvent event host).2 := by
  cases event with
  | connectionRequest peer =>
    rw [handleEvent, onConnectionRequest_eq]
    exact .requested peer
  | connectionComplete status handle peer =>
    simp only [handleEvent]
    split
    · rename_i hstatus
      subst hstatus
      rcases onConnectionComplete_cases handle peer host with
        ⟨_, -, -, h⟩ | ⟨hp, ⟨_, -, h⟩ | ⟨channels, hn, h⟩⟩ <;> rw [h]
      · exact .refused _ _
      · exact .refused _ _
      · exact .established hn hp
    · rename_i hstatus
      exact .forgotten handle peer hstatus
  | linkKeyRequest peer =>
    obtain ⟨r, items, h, hi⟩ := onLinkKeyRequest_reply peer host
    rw [handleEvent, h]
    exact .replied rfl hi
  | linkKeyNotification peer linkKey linkKeyType hlen =>
    have hitems : ∀ item ∈ [HostOutput.event (.bondStored peer)],
      item = .event (.bondStored peer) := by simp
    rcases hu : RecordingStore.upsert peer (bondOf linkKey linkKeyType hlen) host.bonds with
      ⟨e | u, bonds⟩
    · have hrun : handleEvent (.linkKeyNotification peer linkKey linkKeyType hlen) host =
          (.error (.bondStore e), append []
            { host with bonds := (host.bonds.upsert peer (bondOf linkKey linkKeyType hlen)).2 }) := by
        simp [handleEvent, onLinkKeyNotification, Exec.bind_apply, hu, Except.mapError, append]
      rw [hrun]
      exact .notified (by simp)
    · have hrun : handleEvent (.linkKeyNotification peer linkKey linkKeyType hlen) host =
          (.ok (), append [.event (.bondStored peer)]
            { host with bonds := (host.bonds.upsert peer (bondOf linkKey linkKeyType hlen)).2 }) := by
        simp [handleEvent, onLinkKeyNotification, Exec.bind_apply, hu, Except.mapError, append,
          pushOutput]
      rw [hrun]
      exact .notified hitems
  | ioCapabilityRequest peer =>
    exact .queueCommand (by simp) (by decide) rfl
  | userConfirmationRequest peer =>
    exact .queueCommand (by simp) (by decide) rfl
  | authenticationComplete status handle =>
    simp only [handleEvent]
    split
    · rcases ensureHandle_cases handle host with ⟨-, h⟩ | ⟨-, e, h⟩
      · rw [Exec.bind_ok h]
        exact .queueCommand (by simp) (by decide) rfl
      · rw [Exec.bind_error h]
        exact .refused _ _
    · exact .ignored rfl
  | encryptionChange status handle enabled =>
    simp only [handleEvent]
    split
    · rename_i hon
      obtain ⟨rfl, hon⟩ := hon
      rw [hon]
      rcases onEncrypted_cases handle host with ⟨hl, connection, hc, h⟩ | ⟨-, e, h⟩ <;> rw [h]
      · exact .encrypted hc (by simpa [link, hc] using hl)
      · exact .refused _ _
    · exact .ignored rfl
  | numberOfCompletedPackets handle completed =>
    rcases hf : AclFlow.complete handle completed host.aclFlow with ⟨e | u, flow⟩
    · have hflow : flow = host.aclFlow := by
        simp only [AclFlow.complete] at hf
        repeat' split at hf
        all_goals cases hf
        rfl
      subst hflow
      have hrun : handleEvent (.numberOfCompletedPackets handle completed) host =
          (.error e, host) := by
        simp [handleEvent, Exec.bind_apply, hf, setFlow]
      rw [hrun]
      exact .refused _ _
    · have hrun : handleEvent (.numberOfCompletedPackets handle completed) host =
          (.ok (), { host with
            aclFlow := flow.flush.1, output := host.output ++ flow.flush.2.map .acl }) := by
        simp [handleEvent, Exec.bind_apply, hf, setFlow, flushFlow]
      rw [hrun]
      exact .completed hf
  | disconnectionComplete handle reason =>
    rw [handleEvent]
    rcases onDisconnectionComplete_cases handle reason host with
      ⟨-, connection, hc, hh, h⟩ | ⟨-, e, h⟩ <;> rw [h]
    · exact .disconnected hc hh
    · exact .refused _ _

end

end ClassicHost

end ClassicHid
