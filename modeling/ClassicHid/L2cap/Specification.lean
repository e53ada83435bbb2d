import ClassicHid.L2cap.Lifecycle

/-!
# Where specifications come from

A channel takes its specification from the server it belongs to or from the connection it was begun
with, and keeps it. A property of the specifications of a link is therefore a property of what its
owner gave it: no PDU of the peer matters.

## Main definitions

* `ChannelManager.Specified`: a property of every server and every channel

## Main results

* `ChannelManager.Specified.processPdu`, `ChannelManager.Specified.connectWithSpec`,
  `ChannelManager.Specified.registerServerWithSpec`: what the operations of a link need for it
-/

namespace ClassicHid

open Foundation

theorem ClassicChannel.complete_spec (c : ClassicChannel) (scan : ConfigurationScan) :
    (c.complete scan).2.spec = c.spec := by
  unfold complete
  split
  · split
    · rfl
    · dsimp only
      split <;> rfl
  · rfl
  · split <;> rfl

theorem ClassicChannel.judge_spec (c : ClassicChannel) (flags : UInt16)
    (options : List ConfigurationOption) : (c.judge flags options).2.spec = c.spec := by
  unfold judge
  dsimp only
  split
  · exact complete_spec _ _
  · rfl

namespace ChannelManager

/-- Every server and every channel of a link has a specification with the property `P`. -/
structure Specified (P : ChannelSpec → Prop) (m : ChannelManager) : Prop where
  servers : ∀ (psm : UInt32) spec, m.servers[psm]? = some spec → P spec
  channels : ∀ cid c, m.channel cid = some c → P c.spec

variable {P : ChannelSpec → Prop} {m m' : ChannelManager} {cid : UInt16} {c c' : ClassicChannel}

/-- One server is new, or it is replaced. -/
theorem server_insert {spec : ChannelSpec} {psm : UInt32}
    (h : ∀ (psm : UInt32) spec, m.servers[psm]? = some spec → P spec) (hvalid : P spec) :
    ∀ (psm' : UInt32) spec', (m.servers.insert psm spec)[psm']? = some spec' → P spec' := by
  intro psm' spec' hserver
  rw [Std.ExtTreeMap.getElem?_insert] at hserver
  split at hserver
  · cases hserver
    exact hvalid
  · exact h psm' spec' hserver

/-- One server is taken away. -/
theorem server_erase {psm : UInt32}
    (h : ∀ (psm : UInt32) spec, m.servers[psm]? = some spec → P spec) :
    ∀ (psm' : UInt32) spec', (m.servers.erase psm)[psm']? = some spec' → P spec' := by
  intro psm' spec' hserver
  rw [Std.ExtTreeMap.getElem?_erase] at hserver
  split at hserver
  · cases hserver
  · exact h psm' spec' hserver

/-- One channel is new, or it is replaced. -/
theorem Specified.insert (h : m.Specified P) (hvalid : P c.spec)
    (hservers : m'.servers = m.servers) (hchannels : m'.channels = m.channels.insert cid c) :
    m'.Specified P := by
  refine ⟨?_, ?_⟩
  · rw [hservers]
    exact h.servers
  · intro cid' c₁ hc₁
    rw [channel, hchannels] at hc₁
    by_cases heq : cid = cid'
    · subst heq
      cases (channel_insert_self m cid c).symm.trans hc₁
      exact hvalid
    · exact h.channels cid' c₁ ((channel_insert_ne m c heq).symm.trans hc₁)

/-- Neither servers nor channels changed. -/
theorem Specified.same (h : m.Specified P) (hservers : m'.servers = m.servers)
    (hchannels : m'.channels = m.channels) : m'.Specified P := by
  refine ⟨by rw [hservers]; exact h.servers, ?_⟩
  intro cid c hc
  rw [channel, hchannels] at hc
  exact h.channels cid c hc

theorem Specified.dataStep (h : m.Specified P) (hc : m.channel cid = some c)
    (hdata : DataStep cid c m m') : m'.Specified P := by
  obtain ⟨engine, received, payloads, _, rfl⟩ := hdata
  exact h.insert (c := { c with ertm := engine, received := received }) (h.channels cid c hc) rfl rfl

theorem Specified.registerServerWithSpec (h : m.Specified P) (spec : ChannelSpec)
    (hvalid : P spec) (psm : Option UInt32) :
    (registerServerWithSpec psm spec m).2.Specified P := by
  rcases registerServerWithSpec_cases psm spec m with ⟨error, hrun⟩ | ⟨psm', _, hrun⟩
  · rw [hrun]
    exact h
  · rw [hrun]
    exact ⟨server_insert h.servers hvalid, h.channels⟩

theorem Specified.connectWithSpec (h : m.Specified P) (spec : ChannelSpec) (hvalid : P spec)
    (psm : UInt32) : (connectWithSpec psm spec m).2.Specified P := by
  rcases connectWithSpec_cases psm spec m with ⟨error, hrun⟩ | ⟨localCid, _, hrun⟩
  · rw [hrun]
    exact h
  · rw [hrun]
    exact h.insert (c := .newOutgoing psm localCid spec) hvalid rfl rfl

/-- A PDU gives no channel a specification of its own. -/
theorem Specified.processPdu (h : m.Specified P) (pdu : L2capPdu) :
    (processPdu pdu m).2.Specified P := by
  rw [ChannelManager.processPdu]
  split
  swap
  · rcases hc : m.channel pdu.cid with _ | c
    · rw [processData, Exec.bind_error (channelOr_none _ hc)]
      exact h
    · rcases processData_cases hc pdu.payload with ⟨_, error, hrun⟩ | ⟨_, hdata, _⟩
      · rw [hrun]
        exact h
      · exact h.dataStep hc hdata
  rcases ControlFrame.fromBytes pdu.payload with error | frame
  · exact h
  rw [Exec.lift_ok_bind]
  cases frame with
  | connectionRequest identifier psm remoteCid =>
    rcases onConnectionRequest_cases identifier psm remoteCid m with ⟨result, _, hrun⟩ |
      ⟨spec, localCid, hserver, _, hrun⟩
    · rw [processControl, hrun]
      exact h.same rfl rfl
    · rw [processControl, hrun]
      exact h.insert (c := .newIncoming psm localCid remoteCid spec) (h.servers psm spec hserver)
        rfl rfl
  | connectionResponse identifier destinationCid cid result status =>
    rw [processControl]
    rcases hc : m.channel cid with _ | c
    · rw [onConnectionResponse, Exec.bind_error (channelOr_none _ hc)]
      exact h
    have hvalid := h.channels cid c hc
    rw [onConnectionResponse_eq hc]
    split
    · exact h
    split
    · exact h.insert (c := { c with connectionResult := some result, state := .closed }) hvalid rfl
        rfl
    · exact h.insert (c := { c with
        connectionResult := some result
        destinationCid := destinationCid
        state := .configuring }) hvalid rfl rfl
  | configureRequest identifier cid flags encoded =>
    rw [processControl]
    rcases hdecode : decodeConfigurationOptions encoded with error | options
    · rw [onConfigureRequest, hdecode]
      exact h
    rcases hc : m.channel cid with _ | c
    · rw [onConfigureRequest, hdecode, Exec.lift_ok_bind, Exec.bind_error (channelOr_none _ hc)]
      exact h
    have hjudged : P (c.judge flags options).2.spec := by
      rw [c.judge_spec]
      exact h.channels cid c hc
    have hsettled : P (c.judge flags options).2.settled.spec := by
      rw [(c.judge flags options).2.settled_keeps.1]
      exact hjudged
    rw [onConfigureRequest_eq hc identifier flags hdecode]
    split
    · exact h.insert hjudged rfl rfl
    split
    · exact h.insert hjudged rfl rfl
    · exact h.insert hsettled rfl rfl
  | configureResponse identifier cid flags result options =>
    rw [processControl]
    rcases hc : m.channel cid with _ | c
    · rw [onConfigureResponse, Exec.bind_error (channelOr_none _ hc)]
      exact h
    rw [onConfigureResponse_eq hc]
    have hsettled : P (c.answered result).settled.spec := by
      rw [(c.answered result).settled_keeps.1, (c.answered_keeps result).1]
      exact h.channels cid c hc
    exact h.insert hsettled rfl rfl
  | disconnectionRequest identifier cid remoteCid =>
    rw [processControl]
    rcases hc : m.channel cid with _ | c
    · rw [onDisconnectionRequest, Exec.bind_error (channelOr_none _ hc)]
      exact h
    rw [onDisconnectionRequest_eq hc]
    split
    · exact h
    · exact h.insert (c := { c with state := .closed }) (h.channels cid c hc) rfl rfl
  | disconnectionResponse identifier destinationCid cid =>
    rw [processControl]
    rcases hc : m.channel cid with _ | c
    · rw [onDisconnectionResponse, Exec.bind_error (channelOr_none _ hc)]
      exact h
    rw [onDisconnectionResponse_eq hc]
    split
    · exact h
    · exact h.insert (c := { c with state := .closed }) (h.channels cid c hc) rfl rfl
  | _ => exact h.same rfl rfl

theorem Specified.tick (h : m.Specified P) (ticks : UInt32) : (tick ticks m).2.Specified P := by
  have hchannel (cid : UInt16) : Exec.Keeps (Specified P) (tickChannel ticks cid) := by
    intro m' h'
    rcases hc : m'.channel cid with _ | c
    · rw [tickChannel, Exec.bind_error (channelOr_none _ hc)]
      exact h'
    · exact h'.dataStep hc (tickChannel_cases hc ticks)
  rw [ChannelManager.tick, Exec.get_bind]
  exact Exec.forEach_keeps (fun cid _ => hchannel cid) m h

theorem Specified.popReceived (h : m.Specified P) (cid : UInt16) :
    (m.popReceived cid).Specified P := by
  rw [ChannelManager.popReceived]
  rcases hc : m.channel cid with _ | c
  · exact h
  have hspec : c.popReceived.2.spec = c.spec := by
    rw [ClassicChannel.popReceived]
    split <;> rfl
  exact h.insert (by rw [hspec]; exact h.channels cid c hc) rfl rfl

end ChannelManager

end ClassicHid
