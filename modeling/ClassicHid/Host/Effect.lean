import ClassicHid.Host.Events
import ClassicHid.Host.Flow

/-!
# What an operation of the host can do

Every operation of the host, seen from the ACL queue, the output and the handle of the link, is
one of a few steps. The results about whole runs of the host are proved step by step from here.

## Main definitions

* `HostOp`: the operations, with `HostOp.run`
* `HostOp.Effect`: the steps an operation can make
* `fragmentAll`: the packets of a sequence of PDUs

## Main results

* `ClassicHost.flushChannels_spec`: queueing what the channels emitted
* `HostOp.effect`: every operation makes one of the steps
-/

namespace ClassicHid

open Foundation
open Std (ExtTreeMap)

/-- The packets of a sequence of PDUs, in order. -/
def fragmentAll (handle : UInt16) (size : ℕ) : List L2capPdu → Except CodecError (List AclPacket)
  | [] => .ok []
  | pdu :: pdus => do
    let packets ← fragmentL2capPdu handle 0 size (pdu.toBytes false) false
    let rest ← fragmentAll handle size pdus
    pure (packets ++ rest)

/-- An output that is not an ACL packet. -/
def HostOutput.IsControl : HostOutput → Prop
  | .acl _ => False
  | _ => True

instance : DecidablePred HostOutput.IsControl := fun item => by
  cases item <;> unfold HostOutput.IsControl <;> infer_instance

/-- The ACL packets of an output, in order. -/
def aclPackets (output : List HostOutput) : List AclPacket :=
  output.filterMap fun item => match item with
    | .acl packet => some packet
    | _ => none

@[simp] theorem aclPackets_append (l₁ l₂ : List HostOutput) :
    aclPackets (l₁ ++ l₂) = aclPackets l₁ ++ aclPackets l₂ := List.filterMap_append

@[simp] theorem aclPackets_map_acl (packets : List AclPacket) :
    aclPackets (packets.map .acl) = packets := by
  simp [aclPackets, List.filterMap_map]

theorem aclPackets_eq_nil {items : List HostOutput} (h : ∀ item ∈ items, item.IsControl) :
    aclPackets items = [] := by
  rw [aclPackets, List.filterMap_eq_nil_iff]
  intro item hitem
  cases item with
  | acl packet => exact (h _ hitem).elim
  | command | event => rfl

namespace ClassicHost

variable {S : Type}

@[simp] theorem link_setChannels (channels : ChannelManager) (host : ClassicHost S) :
    (host.setChannels channels).link = host.link := by
  simp [link, setChannels, Function.comp_def]

@[simp] theorem link_setFlow (flow : AclFlow) (host : ClassicHost S) :
    (host.setFlow flow).link = host.link := rfl

/-! ### Queueing what the channels emitted -/

/-- Queueing PDUs one by one: the packets of those that could be cut are queued, and all of them
when none failed. -/
theorem forEach_enqueuePdu (handle : UInt16) (pdus : List L2capPdu) (host : ClassicHost S) :
    ∃ packets, (Exec.forEach (enqueuePdu handle) pdus host).2 =
        host.setFlow (host.aclFlow.enqueue packets) ∧
      (∀ p ∈ packets, p.connectionHandle = handle) ∧
      ((Exec.forEach (enqueuePdu handle) pdus host).1 = .ok () →
        fragmentAll handle host.aclFlow.payloadSize pdus = .ok packets) := by
  induction pdus generalizing host with
  | nil => exact ⟨[], by simp [Exec.forEach, setFlow, AclFlow.enqueue], by simp, fun _ => rfl⟩
  | cons pdu pdus ih =>
    rcases hf : fragmentL2capPdu handle 0 host.aclFlow.payloadSize (pdu.toBytes false) false with
      e | packets
    · have hone : enqueuePdu handle pdu host = (.error (.codec e), host) := by
        simp [enqueuePdu, Exec.bind_apply, hf, Except.mapError]
      refine ⟨[], ?_, by simp, ?_⟩
      · rw [Exec.forEach, Exec.bind_error hone]
        simp [setFlow, AclFlow.enqueue]
      · intro h
        rw [Exec.forEach, Exec.bind_error hone] at h
        cases h
    · have hone : enqueuePdu handle pdu host =
          (.ok (), host.setFlow (host.aclFlow.enqueue packets)) := by
        simp [enqueuePdu, Exec.bind_apply, hf, Except.mapError]
      obtain ⟨rest, hstate, hhandle, hok⟩ := ih (host.setFlow (host.aclFlow.enqueue packets))
      refine ⟨packets ++ rest, ?_, ?_, ?_⟩
      · rw [Exec.forEach, Exec.bind_ok hone, hstate]
        simp [setFlow, AclFlow.enqueue]
      · intro p hp
        rcases List.mem_append.mp hp with hp | hp
        · exact handle_of_mem_fragments hf p hp
        · exact hhandle p hp
      · intro h
        rw [Exec.forEach, Exec.bind_ok hone] at h
        have hrest := hok h
        simp only [setFlow, AclFlow.enqueue] at hrest
        simp [fragmentAll, hf, hrest, bind, Except.bind, pure, Except.pure]

/-- PDUs that can all be cut are all queued. -/
theorem forEach_enqueuePdu_ok {handle : UInt16} {pdus : List L2capPdu} {packets : List AclPacket}
    (host : ClassicHost S)
    (h : fragmentAll handle host.aclFlow.payloadSize pdus = .ok packets) :
    Exec.forEach (enqueuePdu handle) pdus host =
      (.ok (), host.setFlow (host.aclFlow.enqueue packets)) := by
  induction pdus generalizing host packets with
  | nil =>
    cases h
    simp [Exec.forEach, setFlow, AclFlow.enqueue]
  | cons pdu pdus ih =>
    rw [fragmentAll] at h
    rcases hf : fragmentL2capPdu handle 0 host.aclFlow.payloadSize (pdu.toBytes false) false with
      e | first
    · rw [hf] at h
      cases h
    rcases hr : fragmentAll handle host.aclFlow.payloadSize pdus with e | rest
    · rw [hf, hr] at h
      cases h
    rw [hf, hr] at h
    cases h
    have hone : enqueuePdu handle pdu host =
        (.ok (), host.setFlow (host.aclFlow.enqueue first)) := by
      simp [enqueuePdu, Exec.bind_apply, hf, Except.mapError]
    rw [Exec.forEach, Exec.bind_ok hone,
      ih (host.setFlow (host.aclFlow.enqueue first)) hr]
    simp [setFlow, AclFlow.enqueue]

/-- A link whose channels have nothing to send and nothing to announce. -/
def drainedConnection (connection : Connection) : Connection :=
  { connection with
    channels := { connection.channels with outbound := [], acceptedChannels := [] } }

/-- The announcements of the channels that opened. -/
def openedEvents (channels : ChannelManager) : List HostOutput :=
  (openedChannels channels).map fun (psm, cid) => .event (.channelOpened psm cid)

theorem isControl_openedEvents (channels : ChannelManager) :
    ∀ item ∈ openedEvents channels, item.IsControl := by
  intro item h
  obtain ⟨_, _, rfl⟩ := List.mem_map.mp h
  trivial

/-- The state after the PDUs of the channels were cut into `packets` and queued. -/
def flushed (host : ClassicHost S) (connection : Connection) (packets : List AclPacket) :
    ClassicHost S :=
  { host with
    connection := some (drainedConnection connection)
    aclFlow := (host.aclFlow.enqueue packets).flush.1
    output := host.output ++ (host.aclFlow.enqueue packets).flush.2.map .acl ++
      openedEvents connection.channels }

theorem flushChannels_eq {host : ClassicHost S} {connection : Connection}
    (hc : host.connection = some connection) :
    flushChannels host =
      (Exec.forEach (enqueuePdu connection.handle) connection.channels.outbound >>= fun _ =>
        (do flushFlow; pushOutput (openedEvents connection.channels)))
        { host with connection := some (drainedConnection connection) } := by
  simp [flushChannels, Exec.bind_apply, connectionHandle, hc, onChannels, Exec.zoomOption,
    setChannels, drainedConnection, openedEvents, Except.mapError]

/-- Queueing what the channels emitted: everything is queued and as much as possible handed over,
or a PDU could not be cut and what came before it is queued. -/
theorem flushChannels_spec {host : ClassicHost S} {connection : Connection}
    (hc : host.connection = some connection) :
    ∃ packets, (∀ p ∈ packets, p.connectionHandle = connection.handle) ∧
      ((flushChannels host = (.ok (), host.flushed connection packets) ∧
          fragmentAll connection.handle host.aclFlow.payloadSize connection.channels.outbound =
            .ok packets) ∨
        ∃ e, flushChannels host = (.error e,
          { host with connection := some (drainedConnection connection),
                      aclFlow := host.aclFlow.enqueue packets })) := by
  obtain ⟨packets, hstate, hhandle, hok⟩ := forEach_enqueuePdu connection.handle
    connection.channels.outbound
    { host with connection := some (drainedConnection connection) }
  refine ⟨packets, hhandle, ?_⟩
  have hrun := flushChannels_eq hc
  rcases hr : Exec.forEach (enqueuePdu connection.handle) connection.channels.outbound
    { host with connection := some (drainedConnection connection) } with ⟨e | u, host'⟩
  · rw [hr] at hstate
    obtain rfl : host' = _ := hstate
    refine .inr ⟨e, ?_⟩
    rw [hrun, Exec.bind_error hr]
    rfl
  · rw [hr] at hstate hok
    obtain rfl : host' = _ := hstate
    refine .inl ⟨?_, hok rfl⟩
    rw [hrun, Exec.bind_ok hr]
    simp [flushFlow, pushOutput, flushed, setFlow]

/-- A call of the channels whose PDUs can all be cut. -/
theorem callChannels_ok {α : Type} {m : ChannelManager.Update α} {host : ClassicHost S}
    {connection : Connection} {channels : ChannelManager} {a : α} {packets : List AclPacket}
    (hc : host.connection = some connection) (hm : m connection.channels = (.ok a, channels))
    (hall : fragmentAll connection.handle host.aclFlow.payloadSize channels.outbound =
      .ok packets) :
    callChannels m host = (.ok a, host.flushed { connection with channels := channels } packets) := by
  have hon : onChannels m host = (.ok a, host.setChannels channels) := by
    rw [onChannels, Exec.zoomOption_some (by rw [hc]; rfl)]
    simp [hm, Except.mapError]
  have hset : (host.setChannels channels).connection =
      some { connection with channels := channels } := by
    simp [setChannels, hc]
  have hflush : flushChannels (host.setChannels channels) =
      (.ok (), host.flushed { connection with channels := channels } packets) := by
    have hqueue := forEach_enqueuePdu_ok { host.setChannels channels with
      connection := some (drainedConnection { connection with channels := channels }) } hall
    rw [flushChannels_eq hset]
    refine (Exec.bind_ok hqueue).trans ?_
    simp [flushFlow, pushOutput, flushed, setFlow, setChannels]
  rw [callChannels, Exec.bind_ok hon, Exec.bind_ok hflush]
  rfl

/-- What a call of the channels does: there is no link, the channels refuse the call, or what
they emitted is queued, wholly or up to a PDU that could not be cut. -/
inductive CallStep {α : Type} (m : ChannelManager.Update α) (host : ClassicHost S) :
    Except HostError α → ClassicHost S → Prop
  | unlinked : host.connection = none → CallStep m host (.error .noConnection) host
  | refused {connection : Connection} {channels : ChannelManager} {e : L2capError} :
      host.connection = some connection → m connection.channels = (.error e, channels) →
      CallStep m host (.error (.l2cap e)) (host.setChannels channels)
  | stuck {connection : Connection} {channels : ChannelManager} {a : α} {e : HostError}
      {packets : List AclPacket} :
      host.connection = some connection → m connection.channels = (.ok a, channels) →
      (∀ p ∈ packets, p.connectionHandle = connection.handle) →
      CallStep m host (.error e)
        { host with
          connection := some (drainedConnection { connection with channels := channels })
          aclFlow := host.aclFlow.enqueue packets }
  | flushed {connection : Connection} {channels : ChannelManager} {a : α}
      {packets : List AclPacket} :
      host.connection = some connection → m connection.channels = (.ok a, channels) →
      (∀ p ∈ packets, p.connectionHandle = connection.handle) →
      fragmentAll connection.handle host.aclFlow.payloadSize channels.outbound = .ok packets →
      CallStep m host (.ok a) (host.flushed { connection with channels := channels } packets)

/-- **Every call of the channels** ends in one of these ways. -/
theorem callChannels_step {α : Type} (m : ChannelManager.Update α) (host : ClassicHost S) :
    CallStep m host (callChannels m host).1 (callChannels m host).2 := by
  rcases hc : host.connection with _ | connection
  · have hrun : callChannels m host = (.error .noConnection, host) := by
      rw [callChannels, Exec.bind_error]
      rw [onChannels, Exec.zoomOption_none (by simp [hc])]
    rw [hrun]
    exact .unlinked hc
  · have hon : onChannels m host =
        ((m connection.channels).1.mapError .l2cap,
          host.setChannels (m connection.channels).2) := by
      rw [onChannels, Exec.zoomOption_some (by rw [hc]; rfl)]
      rfl
    rcases hm : m connection.channels with ⟨e | a, channels⟩ <;> rw [hm] at hon
    · rw [callChannels, Exec.bind_error hon]
      exact .refused hc hm
    · rw [callChannels, Exec.bind_ok hon]
      have hset : (host.setChannels channels).connection =
          some { connection with channels := channels } := by
        simp [setChannels, hc]
      obtain ⟨packets, hp, ⟨hf, hall⟩ | ⟨e, hf⟩⟩ := flushChannels_spec hset
      · rw [Exec.bind_ok hf]
        have hsame : (host.setChannels channels).flushed { connection with channels } packets =
            host.flushed { connection with channels } packets := rfl
        rw [hsame]
        exact .flushed hc hm hp hall
      · rw [Exec.bind_error hf]
        exact .stuck hc hm hp

/-- What the host does with an ACL packet: it is refused, it is part of a PDU, or it completes a
PDU that the channels process. -/
inductive AclStep (packet : AclPacket) (host : ClassicHost S) :
    Except HostError Unit → ClassicHost S → Prop
  | refused (e : HostError) (assembler : AclAssembler) :
      AclStep packet host (.error e) { host with aclAssembler := assembler }
  | fed {assembler : AclAssembler} : host.link = some packet.connectionHandle →
      host.aclAssembler.feed packet = (.ok none, assembler) →
      AclStep packet host (.ok ()) { host with aclAssembler := assembler }
  | processed {assembler : AclAssembler} {bytes : Bytes} {pdu : L2capPdu}
      {r : Except HostError Unit} {host' : ClassicHost S} :
      host.link = some packet.connectionHandle →
      host.aclAssembler.feed packet = (.ok (some bytes), assembler) →
      L2capPdu.fromBytes bytes = .ok pdu →
      CallStep (ChannelManager.processPdu pdu) { host with aclAssembler := assembler } r host' →
      AclStep packet host r host'

/-- **Every ACL packet** is handled in one of these ways. -/
theorem processAcl_step (packet : AclPacket) (host : ClassicHost S) :
    AclStep packet host (processAcl packet host).1 (processAcl packet host).2 := by
  rcases hc : host.connection with _ | connection
  · have hrun : processAcl packet host = (.error .noConnection, host) := by
      simp [processAcl, Exec.bind_apply, connectionHandle, hc]
    rw [hrun]
    exact .refused .noConnection host.aclAssembler
  have hhandle : connectionHandle host = (.ok connection.handle, host) := by
    simp [connectionHandle, hc]
  rw [processAcl, Exec.bind_ok hhandle]
  by_cases hne : packet.connectionHandle ≠ connection.handle
  · rw [if_pos hne]
    exact .refused (.connectionHandleMismatch connection.handle packet.connectionHandle)
      host.aclAssembler
  · rw [if_neg hne]
    rw [not_not] at hne
    have hlink : host.link = some packet.connectionHandle := by simp [link, hc, hne]
    simp only [Exec.bind_apply, Exec.zoom_apply, Exec.mapError_apply]
    rcases hf : AclAssembler.feed packet host.aclAssembler with ⟨e | _ | bytes, assembler⟩
    · exact .refused _ assembler
    · exact .fed hlink hf
    · simp only [Except.mapError]
      rcases hp : L2capPdu.fromBytes bytes with e | pdu
      · exact .refused _ assembler
      · exact .processed hlink hf hp (callChannels_step _ _)

end ClassicHost

/-! ### The operations -/

/-- An operation of the host. -/
inductive HostOp
  | event (event : ClassicEvent)
  | acl (packet : AclPacket)
  | send (sourceCid : UInt16) (sdu : Bytes)
  | connect (psm : UInt32) (spec : ClassicChannelSpec)
  | register (psm : UInt32) (spec : ClassicChannelSpec)
  | take (sourceCid : UInt16)
  | pop

namespace HostOp

variable {S : Type} [BondStore S]

/-- The outcome of an operation, without the value it returns. -/
def run : HostOp → ClassicHost S → Except HostError Unit × ClassicHost S
  | event e, host => ClassicHost.handleEvent e host
  | acl packet, host => ClassicHost.processAcl packet host
  | send sourceCid sdu, host => ClassicHost.sendChannelSdu sourceCid sdu host
  | connect psm spec, host =>
    ((ClassicHost.connectChannel psm spec host).1.map fun _ => (),
      (ClassicHost.connectChannel psm spec host).2)
  | register psm spec, host => ClassicHost.registerServer psm spec host
  | take sourceCid, host => (.ok (), (host.takeChannelSdu sourceCid).2)
  | pop, host => (.ok (), host.popOutput.2)

/-- Whether an operation calls the channels of the link. -/
def callsChannels : HostOp → Bool
  | acl _ | send .. | connect .. => true
  | _ => false

/-- The completions an operation accepted for a handle. -/
def completion : HostOp → Except HostError Unit → UInt16 → ℕ
  | event (.numberOfCompletedPackets handle completed), .ok _, h =>
    if handle = h then completed.toNat else 0
  | _, _, _ => 0

/-- Whether an operation ended the link with a handle. -/
def clears : HostOp → Except HostError Unit → UInt16 → Bool
  | event (.disconnectionComplete handle _), .ok _, h => handle = h
  | _, _, _ => false

/-- An operation that neither returned credits nor ended a link. -/
def Plain (op : HostOp) (r : Except HostError Unit) : Prop :=
  ∀ h, op.completion r h = 0 ∧ op.clears r h = false

/-- The steps an operation can make, as far as the queue, the link and the ACL packets of the
output go. -/
inductive Effect (op : HostOp) (host : ClassicHost S) :
    Except HostError Unit → ClassicHost S → Prop
  /-- Nothing of that changes. -/
  | quiet {r : Except HostError Unit} {host' : ClassicHost S} : op.Plain r →
      host'.aclFlow = host.aclFlow → host'.link = host.link →
      aclPackets host'.output = aclPackets host.output → Effect op host r host'
  /-- A PDU could not be cut: the packets before it wait in the queue. -/
  | stuck {e : HostError} {host' : ClassicHost S} (packets : List AclPacket) :
      op.Plain (.error e) → (∀ p ∈ packets, host.link = some p.connectionHandle) →
      host'.aclFlow = host.aclFlow.enqueue packets → host'.link = host.link →
      aclPackets host'.output = aclPackets host.output → Effect op host (.error e) host'
  /-- New packets are queued, and as many as possible handed over. -/
  | flushed {host' : ClassicHost S} (packets : List AclPacket) :
      op.callsChannels = true → op.Plain (.ok ()) →
      (∀ p ∈ packets, host.link = some p.connectionHandle) →
      host'.aclFlow = (host.aclFlow.enqueue packets).flush.1 → host'.link = host.link →
      aclPackets host'.output =
        aclPackets host.output ++ (host.aclFlow.enqueue packets).flush.2 →
      Effect op host (.ok ()) host'
  /-- Credits come back, and as many packets as possible are handed over. -/
  | completed {host' : ClassicHost S} {handle n : UInt16} {flow : AclFlow} :
      op = .event (.numberOfCompletedPackets handle n) →
      AclFlow.complete handle n host.aclFlow = (.ok (), flow) →
      host'.aclFlow = flow.flush.1 → host'.link = host.link →
      aclPackets host'.output = aclPackets host.output ++ flow.flush.2 →
      Effect op host (.ok ()) host'
  /-- A new link. -/
  | connected {host' : ClassicHost S} {handle : UInt16} {peer : BluetoothAddress} :
      op = .event (.connectionComplete 0 handle peer) → host'.aclFlow = host.aclFlow →
      host'.link = some handle → aclPackets host'.output = aclPackets host.output →
      Effect op host (.ok ()) host'
  /-- The end of the link. -/
  | disconnected {host' : ClassicHost S} {handle : UInt16} {reason : UInt8} :
      op = .event (.disconnectionComplete handle reason) → host.link = some handle →
      host'.aclFlow = host.aclFlow.clearHandle handle → host'.link = none →
      aclPackets host'.output =
        (aclPackets host.output).filter (·.connectionHandle ≠ handle) →
      Effect op host (.ok ()) host'
  /-- One output is taken. -/
  | popped {host' : ClassicHost S} (item : HostOutput) : op = .pop →
      host.output = item :: host'.output → host'.aclFlow = host.aclFlow →
      host'.link = host.link → Effect op host (.ok ()) host'

/-! ### Every operation makes one of the steps -/

variable {host : ClassicHost S}

omit [BondStore S] in
theorem link_of_mem {connection : Connection} (hc : host.connection = some connection)
    {packets : List AclPacket} (h : ∀ p ∈ packets, p.connectionHandle = connection.handle) :
    ∀ p ∈ packets, host.link = some p.connectionHandle := by
  intro p hp
  simp [ClassicHost.link, hc, h p hp]

omit [BondStore S] in
theorem aclPackets_flushed (connection : Connection) (packets : List AclPacket) :
    aclPackets (host.flushed connection packets).output =
      aclPackets host.output ++ (host.aclFlow.enqueue packets).flush.2 := by
  simp only [ClassicHost.flushed, aclPackets_append, aclPackets_map_acl,
    aclPackets_eq_nil (ClassicHost.isControl_openedEvents _), List.append_nil]

omit [BondStore S] in
theorem effect_call {α : Type} {op : HostOp} {m : ChannelManager.Update α}
    {r : Except HostError α} {host' : ClassicHost S} (hop : ∀ r, op.Plain r)
    (hcalls : op.callsChannels = true) (h : ClassicHost.CallStep m host r host') :
    Effect op host (r.map fun _ => ()) host' := by
  cases h with
  | unlinked => exact .quiet (hop _) rfl rfl rfl
  | refused hc hm => exact .quiet (hop _) rfl (by simp) rfl
  | stuck hc hm hp =>
    exact .stuck _ (hop _) (link_of_mem hc hp) rfl
      (by simp [ClassicHost.link, ClassicHost.drainedConnection, hc]) rfl
  | flushed hc hm hp hall =>
    exact .flushed _ hcalls (hop _) (link_of_mem hc hp) rfl
      (by simp [ClassicHost.flushed, ClassicHost.link, ClassicHost.drainedConnection, hc])
      (aclPackets_flushed _ _)

theorem aclPackets_replies {items : List HostOutput}
    (h : ∀ item ∈ items, ClassicHost.IsReply item) : aclPackets items = [] := by
  refine aclPackets_eq_nil fun item hitem => ?_
  obtain ⟨packet, rfl, -⟩ := h item hitem
  trivial

theorem aclPackets_withoutHandle (handle : UInt16) (output : List HostOutput) :
    aclPackets (ClassicHost.withoutHandle handle output) =
      (aclPackets output).filter (·.connectionHandle ≠ handle) := by
  induction output with
  | nil => rfl
  | cons item output ih =>
    simp only [ClassicHost.withoutHandle, aclPackets, ne_eq, decide_not] at ih ⊢
    cases item with
    | acl packet =>
      by_cases h : packet.connectionHandle = handle <;> simp [h, ih]
    | command | event => simp [ih]

theorem effect_event (event : ClassicEvent) :
    Effect (.event event) host (ClassicHost.handleEvent event host).1
      (ClassicHost.handleEvent event host).2 := by
  have hstep := ClassicHost.handleEvent_step event host
  generalize (ClassicHost.handleEvent event host).1 = r at hstep
  generalize (ClassicHost.handleEvent event host).2 = host' at hstep
  cases hstep with
  | refused e =>
    refine .quiet (fun h => ?_) rfl rfl rfl
    constructor <;> cases event <;> rfl
  | replied hevent hi =>
    refine .quiet (fun h => ?_) rfl rfl ?_
    · cases event <;> first | exact ⟨rfl, rfl⟩ | cases hevent
    · simp [ClassicHost.append, aclPackets_replies hi]
  | requested peer =>
    exact .quiet (fun h => ⟨rfl, rfl⟩) rfl rfl (by simp [ClassicHost.requested]; rfl)
  | established hn hp =>
    exact .connected rfl rfl rfl (by simp [ClassicHost.established]; rfl)
  | forgotten handle peer hstatus => exact .quiet (fun h => ⟨rfl, rfl⟩) rfl rfl rfl
  | notified hi =>
    refine .quiet (fun h => ⟨rfl, rfl⟩) rfl rfl ?_
    have : ∀ item ∈ _, HostOutput.IsControl item := fun item hitem => by
      rw [hi item hitem]
      trivial
    simp [ClassicHost.append, aclPackets_eq_nil this]
  | encrypted hc hh =>
    exact .quiet (fun h => ⟨rfl, rfl⟩) rfl (by simp [ClassicHost.link, hc]) (by simp; rfl)
  | completed hf => exact .completed rfl hf rfl rfl (by simp)
  | disconnected hc hh =>
    refine .disconnected rfl (by simp [ClassicHost.link, hc, hh]) ?_ rfl ?_
    · simp [ClassicHost.disconnected, hh]
    · simp only [ClassicHost.disconnected, aclPackets_append, aclPackets_withoutHandle, hh]
      exact List.append_nil _

omit [BondStore S] in
theorem effect_acl (packet : AclPacket) :
    Effect (.acl packet) host (ClassicHost.processAcl packet host).1
      (ClassicHost.processAcl packet host).2 := by
  have hplain : ∀ r, (HostOp.acl packet).Plain r := fun r h => ⟨rfl, rfl⟩
  have hstep := ClassicHost.processAcl_step packet host
  generalize (ClassicHost.processAcl packet host).1 = r at hstep
  generalize (ClassicHost.processAcl packet host).2 = host' at hstep
  cases hstep with
  | refused e assembler => exact .quiet (hplain _) rfl rfl rfl
  | fed hl hf => exact .quiet (hplain _) rfl rfl rfl
  | processed hl hf hp hcall =>
    have h := effect_call hplain rfl hcall
    have hmap : (r.map fun _ => ()) = r := by cases r <;> rfl
    rw [hmap] at h
    cases h with
    | quiet h₁ h₂ h₃ h₄ => exact .quiet h₁ h₂ h₃ h₄
    | stuck packets h₁ h₂ h₃ h₄ h₅ => exact .stuck packets h₁ h₂ h₃ h₄ h₅
    | flushed packets h₁ h₂ h₃ h₄ h₅ h₆ => exact .flushed packets h₁ h₂ h₃ h₄ h₅ h₆
    | completed h | connected h | disconnected h | popped _ h => cases h

/-- **Every operation** makes one of the steps. -/
theorem effect (op : HostOp) (host : ClassicHost S) :
    Effect op host (op.run host).1 (op.run host).2 := by
  cases op with
  | event event => exact effect_event event
  | acl packet => exact effect_acl packet
  | send sourceCid sdu =>
    have hplain : ∀ r, (HostOp.send sourceCid sdu).Plain r := fun r h => ⟨rfl, rfl⟩
    have h := effect_call hplain rfl
      (ClassicHost.callChannels_step (ChannelManager.send sourceCid sdu) host)
    have hmap : ∀ r : Except HostError Unit, (r.map fun _ => ()) = r := fun r => by cases r <;> rfl
    rw [hmap] at h
    exact h
  | connect psm spec =>
    exact effect_call (fun r h => ⟨rfl, rfl⟩) rfl
      (ClassicHost.callChannels_step (ChannelManager.connect psm spec) host)
  | register psm spec =>
    rcases hc : host.connection with _ | connection
    · refine .quiet (fun h => ⟨rfl, rfl⟩) ?_ ?_ ?_ <;>
        simp [run, ClassicHost.registerServer, hc, ClassicHost.link]
    · rcases hm : ChannelManager.registerServer (some psm) spec connection.channels with
        ⟨e | a, channels⟩ <;>
      · refine .quiet (fun h => ⟨rfl, rfl⟩) ?_ ?_ ?_ <;>
          simp [run, ClassicHost.registerServer, hc, ClassicHost.link, ClassicHost.onChannels,
            Exec.zoomOption, Exec.bind_apply, hm, Except.mapError, ClassicHost.setChannels]
  | take sourceCid =>
    refine .quiet (fun h => ⟨rfl, rfl⟩) ?_ ?_ ?_ <;>
    · simp only [run, ClassicHost.takeChannelSdu]
      repeat' split
      all_goals simp [ClassicHost.setChannels, ClassicHost.link, *]
  | pop =>
    rcases ho : host.output with _ | ⟨item, output⟩
    · have hrun : (HostOp.pop.run host).2 = host := by simp [run, ClassicHost.popOutput, ho]
      rw [hrun]
      exact .quiet (fun h => ⟨rfl, rfl⟩) rfl rfl rfl
    · have hrun : (HostOp.pop.run host).2 = { host with output := output } := by
        simp [run, ClassicHost.popOutput, ho]
      rw [hrun]
      exact .popped item rfl ho rfl rfl

end HostOp

end ClassicHid
