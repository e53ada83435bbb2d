import ClassicHid.Host.Effect

/-!
# The output of a link as a stream of PDUs

On one link, the ACL packets the host has put out, followed by those that still wait for a
credit, are the packets of the PDUs the channels emitted, one PDU after the other. An assembler
on the other side puts exactly these PDUs together.

## Main definitions

* `HostOp.emitted`: the PDUs the channels emit in an operation
* `runStream`: a sequence of operations, with what was taken from the output and what was emitted
* `Streams`: every operation returns and none changes the link

## Main results

* `AclAssembler.feedAll_fragmentAll`: the packets of a sequence of PDUs give the sequence back
* `HostOp.stream_step`: one operation appends the packets of what it emitted
* `host_output_streams_emitted_pdus`: the output of every run on one link
-/

namespace ClassicHid

open Foundation
open Std (ExtTreeMap)

/-- The packets of a sequence of PDUs give exactly the sequence back. -/
theorem AclAssembler.feedAll_fragmentAll {handle : UInt16} {size : ℕ} (hsize : 4 ≤ size)
    {pdus : List L2capPdu} {packets : List AclPacket}
    (h : fragmentAll handle size pdus = .ok packets) (a : AclAssembler) :
    (feedAll packets a).1 = .ok (pdus.map (·.toBytes false)) := by
  induction pdus generalizing packets a with
  | nil =>
    cases h
    rfl
  | cons pdu pdus ih =>
    rw [fragmentAll] at h
    rcases hf : fragmentL2capPdu handle 0 size (pdu.toBytes false) false with _ | first
    · simp [hf, bind, Except.bind] at h
    rcases hr : fragmentAll handle size pdus with _ | rest
    · simp [hf, hr, bind, Except.bind] at h
    simp only [hf, hr, bind, Except.bind, pure, Except.pure, Except.ok.injEq] at h
    subst h
    rw [feedAll_append (feedAll_fragments hsize hf a)]
    simp [ih hr, Except.map]

theorem fragmentAll_append {handle : UInt16} {size : ℕ} {l₁ l₂ : List L2capPdu}
    {p₁ p₂ : List AclPacket} (h₁ : fragmentAll handle size l₁ = .ok p₁)
    (h₂ : fragmentAll handle size l₂ = .ok p₂) :
    fragmentAll handle size (l₁ ++ l₂) = .ok (p₁ ++ p₂) := by
  induction l₁ generalizing p₁ with
  | nil =>
    cases h₁
    exact h₂
  | cons pdu l₁ ih =>
    rw [fragmentAll] at h₁
    rcases hf : fragmentL2capPdu handle 0 size (pdu.toBytes false) false with _ | first
    · simp [hf, bind, Except.bind] at h₁
    rcases hr : fragmentAll handle size l₁ with _ | rest
    · simp [hf, hr, bind, Except.bind] at h₁
    simp only [hf, hr, bind, Except.bind, pure, Except.pure, Except.ok.injEq] at h₁
    subst h₁
    simp [fragmentAll, hf, ih hr, bind, Except.bind, pure, Except.pure]

theorem handle_of_mem_fragmentAll {handle : UInt16} {size : ℕ} {pdus : List L2capPdu}
    {packets : List AclPacket} (h : fragmentAll handle size pdus = .ok packets) :
    ∀ p ∈ packets, p.connectionHandle = handle := by
  induction pdus generalizing packets with
  | nil =>
    cases h
    simp
  | cons pdu pdus ih =>
    rw [fragmentAll] at h
    rcases hf : fragmentL2capPdu handle 0 size (pdu.toBytes false) false with _ | first
    · simp [hf, bind, Except.bind] at h
    rcases hr : fragmentAll handle size pdus with _ | rest
    · simp [hf, hr, bind, Except.bind] at h
    simp only [hf, hr, bind, Except.bind, pure, Except.pure, Except.ok.injEq] at h
    subst h
    intro p hp
    rcases List.mem_append.mp hp with hp | hp
    · exact handle_of_mem_fragments hf p hp
    · exact ih hr p hp

namespace HostOp

variable {S : Type}

/-- The channels after an operation called them, if it does. -/
def called (op : HostOp) (host : ClassicHost S) (channels : ChannelManager) :
    Option ChannelManager :=
  match op with
  | acl packet =>
    match (AclAssembler.feed packet host.aclAssembler).1 with
    | .ok (some bytes) =>
      match L2capPdu.fromBytes bytes with
      | .ok pdu => some (ChannelManager.processPdu pdu channels).2
      | .error _ => none
    | _ => none
  | send sourceCid sdu => some (ChannelManager.send sourceCid sdu channels).2
  | connect psm spec => some (ChannelManager.connect psm spec channels).2
  | _ => none

/-- The PDUs the channels have emitted when an operation queues them. -/
def emitted (op : HostOp) (host : ClassicHost S) : List L2capPdu :=
  ((host.connection.bind fun connection => op.called host connection.channels).map
    (·.outbound)).getD []

/-- What an operation takes from the output. -/
def taken (op : HostOp) (host : ClassicHost S) : List HostOutput :=
  match op with
  | pop => host.output.head?.toList
  | _ => []

/-- An operation that neither establishes nor ends a link. -/
def staysOnLink : HostOp → Bool
  | event (.connectionComplete status _ _) => status ≠ 0
  | event (.disconnectionComplete _ _) => false
  | _ => true

end HostOp

variable {S : Type} [BondStore S]

/-- The state after a sequence of operations, what they took from the output, and what the
channels emitted. -/
def runStream (host : ClassicHost S) (taken : List HostOutput) (emitted : List L2capPdu) :
    List HostOp → ClassicHost S × List HostOutput × List L2capPdu
  | [] => (host, taken, emitted)
  | op :: ops =>
    runStream (op.run host).2 (taken ++ op.taken host) (emitted ++ op.emitted host) ops

/-- Every operation returns, and none establishes or ends a link. -/
def Streams (host : ClassicHost S) : List HostOp → Bool
  | [] => true
  | op :: ops => op.staysOnLink && (op.run host).1.isOk && Streams (op.run host).2 ops

/-! ### One operation -/

namespace HostOp

variable {host : ClassicHost S}

/-- What an operation on the link with a handle does to the stream. -/
structure StreamStep (op : HostOp) (host host' : ClassicHost S) (handle : UInt16) : Prop where
  link : host'.link = some handle
  payloadSize : host'.aclFlow.payloadSize = host.aclFlow.payloadSize
  packets : ∃ packets, fragmentAll handle host.aclFlow.payloadSize (op.emitted host) = .ok packets ∧
    aclPackets (op.taken host ++ host'.output) ++ host'.aclFlow.queued =
      aclPackets host.output ++ host.aclFlow.queued ++ packets

omit [BondStore S] in
/-- An operation without emission that leaves the stream as it is. -/
theorem StreamStep.of_silent {op : HostOp} {host' : ClassicHost S} {handle : UInt16}
    (hl : host.link = some handle) (hemitted : op.emitted host = [])
    (hlink : host'.link = host.link)
    (hsize : host'.aclFlow.payloadSize = host.aclFlow.payloadSize)
    (hstream : aclPackets (op.taken host ++ host'.output) ++ host'.aclFlow.queued =
      aclPackets host.output ++ host.aclFlow.queued) : StreamStep op host host' handle :=
  ⟨hlink.trans hl, hsize, [], by simp [hemitted, fragmentAll], by rw [hstream, List.append_nil]⟩

omit [BondStore S] in
/-- A call of the channels appends the packets of what they emitted. -/
theorem StreamStep.of_call {α : Type} {op : HostOp} {m : ChannelManager.Update α}
    {host₁ host' : ClassicHost S} {handle : UInt16} {a : α}
    (h : ClassicHost.CallStep m host₁ (.ok a) host') (hl : host.link = some handle)
    (htaken : op.taken host = []) (hflow : host₁.aclFlow = host.aclFlow)
    (hout : host₁.output = host.output) (hconn : host₁.connection = host.connection)
    (hcalled : ∀ channels, op.called host channels = some (m channels).2) :
    StreamStep op host host' handle := by
  cases h with
  | flushed hc hm hp hall =>
    rename_i connection channels packets
    rw [hconn] at hc
    have hh : connection.handle = handle := by simpa [ClassicHost.link, hc] using hl
    refine ⟨by simp [ClassicHost.flushed, ClassicHost.link, ClassicHost.drainedConnection, hh],
      ?_, packets, ?_, ?_⟩
    · exact (AclFlow.payloadSize_flush _).trans (by rw [hflow]; rfl)
    · rw [emitted, hc, Option.bind_some, hcalled, hm, ← hh, ← hflow]
      exact hall
    · rw [htaken, List.nil_append, aclPackets_flushed, List.append_assoc]
      simp only [ClassicHost.flushed, AclFlow.flush_queue, hout]
      simp [AclFlow.enqueue, hflow]

omit [BondStore S] in
/-- An operation that does not call the channels leaves the stream as it is. -/
theorem StreamStep.of_effect {op : HostOp} {host' : ClassicHost S} {handle : UInt16}
    (hl : host.link = some handle) (hstays : op.staysOnLink = true)
    (hcalls : op.callsChannels = false) (h : Effect op host (.ok ()) host')
    (hpop : op = .pop → host.output = op.taken host ++ host'.output) :
    StreamStep op host host' handle := by
  have hnone : op.emitted host = [] := by
    rw [emitted]
    cases host.connection <;> cases op <;> first | rfl | cases hcalls
  have htaken : op ≠ .pop → op.taken host = [] := by
    intro hne
    cases op <;> first | rfl | exact (hne rfl).elim
  by_cases hp : op = .pop
  · have hout := hpop hp
    subst hp
    cases h with
    | quiet _ hflow hlink _ =>
      exact .of_silent hl hnone hlink (by rw [hflow]) (by rw [← hout, hflow])
    | popped item _ _ hflow hlink =>
      exact .of_silent hl hnone hlink (by rw [hflow]) (by rw [← hout, hflow])
    | flushed packets hc => cases hc
    | completed hop | connected hop | disconnected hop => cases hop
  · cases h with
    | quiet _ hflow hlink hout =>
      exact .of_silent hl hnone hlink (by rw [hflow])
        (by rw [htaken hp, List.nil_append, hout, hflow])
    | flushed packets hc => exact absurd (hcalls.symm.trans hc) (by simp)
    | completed hop hf hflow hlink hout =>
      obtain ⟨hqueue, -, hsize⟩ := AclFlow.complete_queue hf
      refine .of_silent hl hnone hlink ?_ ?_
      · rw [hflow, AclFlow.payloadSize_flush, hsize]
      · rw [htaken hp, List.nil_append, hout, hflow, List.append_assoc, AclFlow.flush_queue,
          hqueue]
    | connected hop => simp [hop, staysOnLink] at hstays
    | disconnected hop => simp [hop, staysOnLink] at hstays
    | popped item hop => exact (hp hop).elim

/-- **One operation** on the link appends the packets of what it emitted to the stream. -/
theorem stream_step {op : HostOp} {host' : ClassicHost S} {handle : UInt16}
    (hl : host.link = some handle) (hstays : op.staysOnLink = true)
    (hrun : op.run host = (.ok (), host')) : StreamStep op host host' handle := by
  have heffect : Effect op host (.ok ()) host' := by
    have h := op.effect host
    rw [hrun] at h
    exact h
  cases op with
  | event event => exact .of_effect hl hstays rfl heffect (by simp)
  | register psm spec => exact .of_effect hl hstays rfl heffect (by simp)
  | take sourceCid => exact .of_effect hl hstays rfl heffect (by simp)
  | pop =>
    refine .of_effect hl hstays rfl heffect fun _ => ?_
    have hstate : host' = host.popOutput.2 := (congrArg Prod.snd hrun).symm
    rw [hstate, taken, ClassicHost.popOutput]
    rcases ho : host.output with _ | ⟨item, output⟩ <;> simp [ho]
  | acl packet =>
    have hstep := ClassicHost.processAcl_step packet host
    have hrun' : ClassicHost.processAcl packet host = (.ok (), host') := hrun
    rw [hrun'] at hstep
    cases hstep with
    | fed _ hf =>
      refine .of_silent hl ?_ rfl rfl rfl
      rw [emitted]
      cases host.connection <;> simp [called, hf]
    | processed _ hf hp hcall =>
      exact .of_call hcall hl rfl rfl rfl rfl fun channels => by simp only [called, hf, hp]
  | send sourceCid sdu =>
    have hrun' : ClassicHost.callChannels (ChannelManager.send sourceCid sdu) host =
      (.ok (), host') := hrun
    have hstep := ClassicHost.callChannels_step (ChannelManager.send sourceCid sdu) host
    rw [hrun'] at hstep
    exact .of_call hstep hl rfl rfl rfl rfl fun _ => rfl
  | connect psm spec =>
    rcases hcall : ClassicHost.callChannels (ChannelManager.connect psm spec) host with
      ⟨e | cid, host''⟩
    · simp [run, ClassicHost.connectChannel, hcall, Except.map] at hrun
    · have hstep := ClassicHost.callChannels_step (ChannelManager.connect psm spec) host
      have hsame : host'' = host' := by
        simpa [run, ClassicHost.connectChannel, hcall, Except.map] using hrun
      rw [hcall, hsame] at hstep
      exact .of_call hstep hl rfl rfl rfl rfl fun _ => rfl

end HostOp

/-! ### Every run on one link -/

/-- The packets put out and the packets that wait are the packets of the PDUs emitted. -/
theorem runStream_packets {handle : UInt16} {size : ℕ} (ops : List HostOp) (host : ClassicHost S)
    (taken : List HostOutput) (emitted : List L2capPdu) (hl : host.link = some handle)
    (hsize : host.aclFlow.payloadSize = size) (hops : Streams host ops = true)
    (hstream : fragmentAll handle size emitted =
      .ok (aclPackets (taken ++ host.output) ++ host.aclFlow.queued)) :
    let run := runStream host taken emitted ops
    fragmentAll handle size run.2.2 =
      .ok (aclPackets (run.2.1 ++ run.1.output) ++ run.1.aclFlow.queued) := by
  induction ops generalizing host taken emitted with
  | nil => exact hstream
  | cons op ops ih =>
    simp only [Streams, Bool.and_eq_true] at hops
    obtain ⟨⟨hstays, hok⟩, hrest⟩ := hops
    rcases hrun : op.run host with ⟨e | u, host'⟩
    · simp [hrun, Except.isOk, Except.toBool] at hok
    obtain ⟨hlink, hpayload, packets, hfrag, happend⟩ := HostOp.stream_step hl hstays hrun
    rw [hrun] at hrest
    simp only [runStream, hrun]
    refine ih host' (taken ++ op.taken host) (emitted ++ op.emitted host) hlink
      (hpayload.trans hsize) hrest ?_
    rw [hsize] at hfrag
    rw [fragmentAll_append hstream hfrag]
    congr 1
    rw [List.append_assoc taken, aclPackets_append, aclPackets_append taken, List.append_assoc,
      List.append_assoc, List.append_assoc, happend, List.append_assoc]

/-- A host on which servers were registered before there was a link. -/
def registered (bonds : S) (payloadSize : ℕ) (totalPackets : UInt16)
    (servers : List (UInt32 × ClassicChannelSpec)) : ClassicHost S :=
  servers.foldl (fun host (psm, spec) => (ClassicHost.registerServer psm spec host).2)
    (ClassicHost.new bonds payloadSize totalPackets)

omit [BondStore S] in
theorem registered_fields (bonds : S) (payloadSize : ℕ) (totalPackets : UInt16)
    (servers : List (UInt32 × ClassicChannelSpec)) :
    (registered bonds payloadSize totalPackets servers).connection = none ∧
      (registered bonds payloadSize totalPackets servers).output = [] ∧
      (registered bonds payloadSize totalPackets servers).aclFlow =
        .new payloadSize totalPackets := by
  suffices h : ∀ host : ClassicHost S, host.connection = none →
      (servers.foldl (fun host (psm, spec) => (ClassicHost.registerServer psm spec host).2)
        host).connection = none ∧
      (servers.foldl (fun host (psm, spec) => (ClassicHost.registerServer psm spec host).2)
        host).output = host.output ∧
      (servers.foldl (fun host (psm, spec) => (ClassicHost.registerServer psm spec host).2)
        host).aclFlow = host.aclFlow by
    exact h (.new bonds payloadSize totalPackets) rfl
  induction servers with
  | nil => exact fun host h => ⟨h, rfl, rfl⟩
  | cons entry servers ih =>
    obtain ⟨psm, spec⟩ := entry
    intro host h
    have hregister : (ClassicHost.registerServer psm spec host).2 =
        { host with servers := host.servers.insert psm spec } := by
      simp [ClassicHost.registerServer, h]
    simp only [List.foldl_cons, hregister]
    exact ih { host with servers := host.servers.insert psm spec } h

/-- **The output is a stream**: for every run on one link, the ACL packets put out for its
handle, followed by those that still wait, fed to a fresh assembler give no error and exactly the
PDUs the channels emitted, in order. -/
theorem host_output_streams_emitted_pdus (bonds : S) {payloadSize : ℕ} (hsize : 4 ≤ payloadSize)
    (totalPackets : UInt16) (servers : List (UInt32 × ClassicChannelSpec)) (handle : UInt16)
    (peer : BluetoothAddress) {connected : ClassicHost S}
    (hconnect : ClassicHost.handleEvent (.connectionComplete 0 handle peer)
      (registered bonds payloadSize totalPackets servers) = (.ok (), connected))
    (ops : List HostOp) (hops : Streams connected ops = true) :
    let run := runStream connected [] [] ops
    let output := (aclPackets (run.2.1 ++ run.1.output)).filter (·.connectionHandle = handle)
    (AclAssembler.feedAll (output ++ run.1.aclFlow.queued) {}).1 =
      .ok (run.2.2.map (·.toBytes false)) := by
  intro run output
  obtain ⟨hnone, hout, hflow⟩ := registered_fields bonds payloadSize totalPackets servers
  have hstep := ClassicHost.handleEvent_step (.connectionComplete 0 handle peer)
    (registered bonds payloadSize totalPackets servers)
  rw [hconnect] at hstep
  have hfields : connected.link = some handle ∧ aclPackets connected.output = [] ∧
      connected.aclFlow = .new payloadSize totalPackets := by
    cases hstep with
    | replied hevent => cases hevent
    | established => exact ⟨rfl, by simp [hout]; rfl, hflow⟩
    | forgotten _ _ h => exact (h rfl).elim
  obtain ⟨hl, hacl, hflow'⟩ := hfields
  have hpackets := runStream_packets ops connected [] [] hl (by rw [hflow']) hops
    (by rw [List.nil_append, hacl, hflow']; rfl)
  have hall : output = aclPackets (run.2.1 ++ run.1.output) := by
    refine List.filter_eq_self.mpr fun p hp => ?_
    simp [handle_of_mem_fragmentAll hpackets p (List.mem_append_left _ hp)]
  rw [hall]
  exact AclAssembler.feedAll_fragmentAll hsize hpackets {}

def streamingPeer : BluetoothAddress := .fromLeBytes [1, 0, 0, 0, 0, 0] rfl .pub

/-- A host with a link over a controller that has one buffer of 4 bytes. -/
def streamingHost : ClassicHost MemoryBondStore :=
  (ClassicHost.handleEvent (.connectionComplete 0 1 streamingPeer)
    (registered {} 4 1 [(0x11, { mtu := 672 })])).2

def streamingOps : List HostOp :=
  [.connect 0x11 { mtu := 672 }, .pop, .pop, .pop, .event (.numberOfCompletedPackets 1 1)]

theorem host_output_streams_connection_request :
    let run := runStream streamingHost [] [] streamingOps
    let output := (aclPackets (run.2.1 ++ run.1.output)).filter (·.connectionHandle = 1)
    (run.2.2.length = 1 ∧ output.length = 2 ∧ run.1.aclFlow.queued.length = 1) ∧
      (AclAssembler.feedAll (output ++ run.1.aclFlow.queued) {}).1 =
        .ok (run.2.2.map (·.toBytes false)) := by
  have hconnect : ClassicHost.handleEvent (.connectionComplete 0 1 streamingPeer)
      (registered {} 4 1 [(0x11, { mtu := 672 })]) = (.ok (), streamingHost) :=
    Prod.ext (by decide +kernel) rfl
  exact ⟨by decide +kernel, host_output_streams_emitted_pdus {} (by decide) 1 _ 1 streamingPeer
    hconnect streamingOps (by decide +kernel)⟩

end ClassicHid
