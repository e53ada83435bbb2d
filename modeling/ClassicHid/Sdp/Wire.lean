import ClassicHid.Foundation.Coupling
import ClassicHid.Sdp.Answers
import ClassicHid.Sdp.Client
import ClassicHid.Sdp.Reassembly

/-!
# A client behind the wire

A client that reaches the server through the SDUs of a channel, with every request and every
response encoded and decoded again, gets what a client of the server itself gets, as long as its
requests have a wire form.

## Main definitions

* `SdpPdu.Sendable`: a PDU with a wire form that is read back
* `ClientCall`: one of the three requests of a client
* `ClientCall.answers`: the results of some calls, one after the other

## Main results

* `HidSdpChannel.request_couples`: one exchange of SDUs is one call of the server
* `channel_transparent`: all calls over a channel have the results of calls of its server
-/

namespace ClassicHid

open Foundation

/-! ### Protocol data units on the wire -/

namespace SdpPdu

/-- The data elements of the PDU can be read back, and its parameters have a length that fits the
header. -/
structure Sendable (pdu : SdpPdu) : Prop where
  nesting : ∀ element ∈ pdu.elements, element.nesting ≤ maxNesting
  parameters : ∃ parameters, pdu.parameters = .ok parameters ∧ parameters.length < 65536

/-- A PDU that can be sent arrives as it is, and carries its transaction identifier where the
channel looks for it. -/
theorem Sendable.arrives {pdu : SdpPdu} (h : pdu.Sendable) :
    ∃ sdu t₁ t₀, pdu.toBytes = .ok sdu ∧ slice sdu 1 2 = some [t₁, t₀] ∧
      parseCompletePdu sdu = some pdu := by
  obtain ⟨parameters, hparameters, hlength⟩ := h.parameters
  let header := pdu.pduId :: toBe16 pdu.transactionId ++ toBe16 (UInt16.ofNat parameters.length)
  have hread : fromBytes (header ++ parameters) = .ok pdu := by
    rw [fromBytes_header hlength]
    exact read_parameters h.nesting hparameters hlength
  have hdeclared : (fromBe16 (UInt8.ofNat ((UInt16.ofNat parameters.length).toNat / 256))
      (UInt8.ofNat (UInt16.ofNat parameters.length).toNat)).toNat = parameters.length := by
    rw [fromBe16, fromLe16_toLe16, UInt16.toNat_ofNat']
    omega
  refine ⟨header ++ parameters, _, _, by rw [SdpPdu.toBytes, hparameters]; rfl, rfl, ?_⟩
  have hslice : slice (header ++ parameters) 3 2 =
      some (toBe16 (UInt16.ofNat parameters.length)) := rfl
  have hwhole : (header ++ parameters).length = 5 + parameters.length := by
    rw [List.length_append]
    rfl
  rw [parseCompletePdu, hslice]
  dsimp only [toBe16]
  rw [hdeclared, if_neg (not_not.mpr hwhole), hread]
  rfl

end SdpPdu

namespace SdpServer

/-- The continuation states that a server gives out have at most two bytes. -/
theorem length_continuation_handleRequest (request : SdpPdu) (server : SdpServer) :
    (server.handleRequest request).1.continuation.length ≤ 2 := by
  cases request with
  | serviceSearchAttributeRequest id pattern maximum ids state =>
    rw [handleRequest, onServiceSearchAttribute]
    dsimp only
    rcases server.checkContinuation state with ⟨_ | _ | _, current⟩
    · exact Nat.zero_le 2
    · exact (length_nextBytePayload _ _).2
    · exact (length_nextBytePayload _ _).2
  | serviceAttributeRequest id handle maximum ids state =>
    rw [handleRequest, onServiceAttribute]
    dsimp only
    rcases server.checkContinuation state with ⟨_ | _ | _, current⟩
    · exact Nat.zero_le 2
    · exact (length_nextBytePayload _ _).2
    · dsimp only
      split
      · exact Nat.zero_le 2
      · exact (length_nextBytePayload _ _).2
  | serviceSearchRequest id pattern maximum state =>
    -- The state that ends the handles has one byte, the one that announces more has two.
    have hstate (later : List UInt32) :
        (if later.isEmpty then ([0] : Bytes) else serverContinuationState).length ≤ 2 := by
      split <;> simp [serverContinuationState]
    rw [handleRequest, onServiceSearch]
    dsimp only
    rcases server.checkContinuation state with ⟨_ | _ | _, current⟩
    · exact Nat.zero_le 2
    · dsimp only
      split
      · exact hstate _
      · exact Nat.zero_le 2
    · exact hstate _
  | _ => exact Nat.zero_le 2

end SdpServer

/-! ### One exchange -/

/-- A peer that reaches the server of a channel by its SDUs. -/
instance : SdpTransport HidSdpChannel where
  request pdu := fun channel =>
    match pdu.toBytes with
    | .ok sdu =>
      match channel.handleSdu sdu with
      | (some response, channel) =>
        ((SdpPdu.fromBytes response).mapError fun _ => "malformed response", channel)
      | (none, channel) => (.error "no response", channel)
    | .error _ => (.error "no wire form", channel)

namespace HidSdpChannel

/-- The channel and its server, with an MTU that leaves room for an error response. -/
def Serves (channel : HidSdpChannel) (server : SdpServer) : Prop :=
  channel.server = server ∧ 11 ≤ server.mtu.toNat

/-- **One exchange of SDUs is one call of the server.** -/
theorem request_couples {pdu : SdpPdu} (hpdu : pdu.Sendable) :
    Exec.Couples Serves (SdpTransport.request pdu) (SdpTransport.request pdu) Eq
      fun response response' => response = response' ∧ response.continuation.length ≤ 2 := by
  rintro channel server ⟨rfl, hmtu⟩
  obtain ⟨sdu, t₁, t₀, hsdu, hslice, hparse⟩ := hpdu.arrives
  obtain ⟨hanswer, hserver⟩ := SdpServer.handleRequest_answered hmtu rfl pdu
  obtain ⟨response, hresponse, -, hread⟩ := hanswer.toBytes channel.server.mtu.toNat_lt
  have hhandle : channel.handleSdu sdu =
      (some response, { server := (channel.server.handleRequest pdu).2 }) := by
    simp only [handleSdu, hslice, hparse, hresponse]
    rfl
  have hrequest : (SdpTransport.request pdu : Exec HidSdpChannel String SdpPdu) channel =
      (.ok (channel.server.handleRequest pdu).1,
        { server := (channel.server.handleRequest pdu).2 }) := by
    simp only [SdpTransport.request, hsdu, hhandle, hread]
    rfl
  rw [hrequest]
  exact ⟨.ok ⟨rfl, SdpServer.length_continuation_handleRequest pdu channel.server⟩, rfl,
    hserver ▸ hmtu⟩

end HidSdpChannel

/-! ### The requests of a client -/

namespace SdpClient

variable {α β : Type}

/-- A client of a channel and a client of its server that are equally far. -/
def SameServer (client : SdpClient HidSdpChannel) (client' : SdpClient SdpServer) : Prop :=
  client.transport.Serves client'.transport ∧ client.nextTransactionId = client'.nextTransactionId

theorem makeTransactionId_couples : Exec.Couples SameServer makeTransactionId makeTransactionId
    Eq Eq := by
  refine Exec.couples_update fun client client' h => ⟨h.2, h.1, ?_⟩
  rw [h.2]

theorem exchange_couples {pdu : SdpPdu} (hpdu : pdu.Sendable) :
    Exec.Couples SameServer (request pdu) (request pdu) Eq
      fun response response' => response = response' ∧ response.continuation.length ≤ 2 :=
  Exec.Couples.zoom
    ((HidSdpChannel.request_couples hpdu).mapError fun _ _ h => congrArg ClientError.transport h)
    (fun _ _ h => h.1) fun _ _ _ _ h hserves => ⟨hserves, h.2⟩

/-- **The rounds of a request** over a channel are those with its server, when what the rounds ask
can be sent. -/
theorem accumulate_couples {ask : UInt16 → Bytes → SdpPdu}
    {piece : SdpPdu → Option (List α × Bytes)} {finish : List α → Except ClientError β}
    (hask : ∀ id state, state.length ≤ 2 → (ask id state).Sendable)
    (hpiece : ∀ response more state, piece response = some (more, state) →
      response.continuation = state) (rounds : ℕ) (accumulator : List α) {state : Bytes}
    (hstate : state.length ≤ 2) :
    Exec.Couples SameServer (accumulate ask piece finish rounds accumulator state)
      (accumulate ask piece finish rounds accumulator state) Eq Eq := by
  induction rounds generalizing accumulator state with
  | zero => exact Exec.couples_lift (alike_of_eq rfl)
  | succ rounds ih =>
    rw [accumulate, accumulate]
    refine Exec.Couples.bind makeTransactionId_couples ?_
    rintro id _ rfl
    refine Exec.Couples.bind (exchange_couples (hask id state hstate)) ?_
    rintro response _ ⟨rfl, hcontinuation⟩
    rcases hmore : piece response with _ | ⟨more, next⟩
    · cases response <;> exact Exec.couples_fail rfl
    · dsimp only
      split
      · exact Exec.couples_lift (alike_of_eq rfl)
      · exact ih _ (hpiece _ _ _ hmore ▸ hcontinuation)

end SdpClient

/-- The three requests of a client. -/
inductive ClientCall
  | serviceSearchAttribute (uuids : List BluetoothUuid) (attributeIds : List AttributeId)
  | getAttributes (serviceRecordHandle : UInt32) (attributeIds : List AttributeId)
  | searchServices (uuids : List BluetoothUuid)

inductive ClientAnswer
  | attributeLists (lists : List (List ServiceAttribute))
  | attributes (list : List ServiceAttribute)
  | handles (handles : List UInt32)

namespace ClientCall

/-- What each round of a request asks. -/
def ask (transactionId : UInt16) (continuationState : Bytes) : ClientCall → SdpPdu
  | serviceSearchAttribute uuids attributeIds => .serviceSearchAttributeRequest transactionId
      (searchPattern uuids) 0xFFFF (attributeIdList attributeIds) continuationState
  | getAttributes handle attributeIds => .serviceAttributeRequest transactionId handle 0xFFFF
      (attributeIdList attributeIds) continuationState
  | searchServices uuids => .serviceSearchRequest transactionId (searchPattern uuids) 0xFFFF
      continuationState

/-- The request has a wire form, also with the longest continuation state. -/
def Sendable (call : ClientCall) : Prop :=
  ∃ parameters, (call.ask 0 serverContinuationState).parameters = .ok parameters ∧
    parameters.length < 65536

/-- A sequence of elements without containers in them. -/
theorem nesting_flat {elements : List DataElement} (h : ∀ element ∈ elements, element.nesting = 0) :
    (DataElement.sequence elements).nesting ≤ maxNesting := by
  rw [DataElement.nesting]
  have hflat := SdpServer.listNesting_le fun element hmem => (h element hmem).le
  rw [maxNesting]
  omega

theorem nesting_searchPattern (uuids : List BluetoothUuid) :
    (searchPattern uuids).nesting ≤ maxNesting := by
  refine nesting_flat fun element hmem => ?_
  obtain ⟨uuid, _, rfl⟩ := List.mem_map.mp hmem
  rfl

theorem nesting_attributeIdList (ids : List AttributeId) :
    (attributeIdList ids).nesting ≤ maxNesting := by
  refine nesting_flat fun element hmem => ?_
  obtain ⟨id, _, rfl⟩ := List.mem_map.mp hmem
  cases id <;> rfl

/-- Every round of a request that can be sent can be sent. -/
theorem Sendable.ask {call : ClientCall} (h : call.Sendable) (id : UInt16) {state : Bytes}
    (hstate : state.length ≤ 2) : (call.ask id state).Sendable := by
  obtain ⟨parameters, hparameters, hlength⟩ := h
  refine ⟨?_, ?_⟩
  · intro element hmem
    cases call <;> simp only [ClientCall.ask, SdpPdu.elements, List.mem_cons, List.not_mem_nil,
      or_false] at hmem
    · rcases hmem with rfl | rfl
      · exact nesting_searchPattern _
      · exact nesting_attributeIdList _
    · exact hmem ▸ nesting_attributeIdList _
    · exact hmem ▸ nesting_searchPattern _
  -- The parameters end with the continuation state, and do not hold the transaction identifier.
  · have hends : ∃ front, parameters = front ++ serverContinuationState ∧
        (call.ask id state).parameters = .ok (front ++ state) := by
      cases call <;>
        simp only [ClientCall.ask, SdpPdu.parameters, except_bind_eq_ok] at hparameters ⊢
      · obtain ⟨pattern, hpattern, ids, hids, hparameters⟩ := hparameters
        cases hparameters
        exact ⟨_, rfl, pattern, hpattern, ids, hids, rfl⟩
      · obtain ⟨ids, hids, hparameters⟩ := hparameters
        cases hparameters
        exact ⟨_, rfl, ids, hids, rfl⟩
      · obtain ⟨pattern, hpattern, hparameters⟩ := hparameters
        cases hparameters
        exact ⟨_, rfl, pattern, hpattern, rfl⟩
    obtain ⟨front, rfl, hfront⟩ := hends
    refine ⟨_, hfront, ?_⟩
    rw [List.length_append] at hlength ⊢
    have htwo : serverContinuationState.length = 2 := rfl
    omega

variable {T : Type} [SdpTransport T]

def run : ClientCall → Exec (SdpClient T) ClientError ClientAnswer
  | serviceSearchAttribute uuids attributeIds => do
    pure (.attributeLists (← SdpClient.serviceSearchAttribute uuids attributeIds))
  | getAttributes handle attributeIds => do
    pure (.attributes (← SdpClient.getAttributes handle attributeIds))
  | searchServices uuids => do
    pure (.handles (← SdpClient.searchServices uuids))

/-- The results of some calls, one after the other, and the client they leave. -/
def answers : List ClientCall → SdpClient T → List (Except ClientError ClientAnswer) × SdpClient T
  | [], client => ([], client)
  | call :: calls, client =>
    let (answer, client) := run call client
    let (rest, client) := answers calls client
    (answer :: rest, client)

section Couples

variable {uuids : List BluetoothUuid} {attributeIds : List AttributeId} {handle : UInt32}

theorem serviceSearchAttribute_couples (h : (serviceSearchAttribute uuids attributeIds).Sendable) :
    Exec.Couples SdpClient.SameServer (SdpClient.serviceSearchAttribute uuids attributeIds)
      (SdpClient.serviceSearchAttribute uuids attributeIds) Eq Eq := by
  refine SdpClient.accumulate_couples (fun id state => h.ask id) ?_ _ [] (by decide)
  intro response more state hpiece
  cases response <;> cases hpiece
  rfl

theorem getAttributes_couples (h : (getAttributes handle attributeIds).Sendable) :
    Exec.Couples SdpClient.SameServer (SdpClient.getAttributes handle attributeIds)
      (SdpClient.getAttributes handle attributeIds) Eq Eq := by
  refine SdpClient.accumulate_couples (fun id state => h.ask id) ?_ _ [] (by decide)
  intro response more state hpiece
  cases response <;> cases hpiece
  rfl

theorem searchServices_couples (h : (searchServices uuids).Sendable) :
    Exec.Couples SdpClient.SameServer (SdpClient.searchServices uuids)
      (SdpClient.searchServices uuids) Eq Eq := by
  refine SdpClient.accumulate_couples (fun id state => h.ask id) ?_ _ [] (by decide)
  intro response more state hpiece
  cases response <;> cases hpiece
  rfl

end Couples

/-- One request over a channel is that request to its server. -/
theorem run_couples {call : ClientCall} (h : call.Sendable) :
    Exec.Couples SdpClient.SameServer (run call) (run call) Eq Eq := by
  have hmap {α : Type} (f : α → ClientAnswer) {m : Exec (SdpClient HidSdpChannel) ClientError α}
      {m' : Exec (SdpClient SdpServer) ClientError α}
      (hm : Exec.Couples SdpClient.SameServer m m' Eq Eq) :
      Exec.Couples SdpClient.SameServer (do pure (f (← m))) (do pure (f (← m'))) Eq Eq :=
    hm.bind fun a a' ha => Exec.couples_lift (alike_of_eq (congrArg (Except.ok ∘ f) ha))
  cases call with
  | serviceSearchAttribute uuids attributeIds => exact hmap _ (serviceSearchAttribute_couples h)
  | getAttributes handle attributeIds => exact hmap _ (getAttributes_couples h)
  | searchServices uuids => exact hmap _ (searchServices_couples h)

end ClientCall

/-- **The wire is transparent**: whatever calls a client makes over the SDUs of a channel, as long
as each of them has a wire form, they have the results that they have with the server of the
channel itself, and leave that server as it leaves itself. -/
theorem channel_transparent (calls : List ClientCall) (hcalls : ∀ call ∈ calls, call.Sendable)
    (channel : HidSdpChannel) (hmtu : 11 ≤ channel.server.mtu) (id : UInt16) :
    let remote := ClientCall.answers calls
      { transport := channel, nextTransactionId := id : SdpClient HidSdpChannel }
    let direct := ClientCall.answers calls
      { transport := channel.server, nextTransactionId := id : SdpClient SdpServer }
    remote.1 = direct.1 ∧ remote.2.transport.server = direct.2.transport := by
  suffices h : ∀ (client : SdpClient HidSdpChannel) (client' : SdpClient SdpServer),
      client.SameServer client' →
      (ClientCall.answers calls client).1 = (ClientCall.answers calls client').1 ∧
        (ClientCall.answers calls client).2.SameServer (ClientCall.answers calls client').2 by
    obtain ⟨hanswers, hsame⟩ := h { transport := channel, nextTransactionId := id }
      { transport := channel.server, nextTransactionId := id }
      ⟨⟨rfl, UInt16.le_iff_toNat_le.mp hmtu⟩, rfl⟩
    exact ⟨hanswers, hsame.1.1⟩
  induction calls with
  | nil => exact fun client client' h => ⟨rfl, h⟩
  | cons call calls ih =>
    intro client client' h
    obtain ⟨halike, hsame⟩ :=
      ClientCall.run_couples (hcalls call List.mem_cons_self) client client' h
    obtain ⟨hrest, hfinal⟩ := ih (fun call hmem => hcalls call (List.mem_cons_of_mem _ hmem)) _ _
      hsame
    refine ⟨?_, hfinal⟩
    rw [ClientCall.answers, ClientCall.answers]
    dsimp only
    rw [halike.eq, hrest]

/-- A peer that looks for the service of a device and then reads all of its record. -/
def sampleCalls : List ClientCall :=
  [.searchServices [.fromU16 0x1124], .getAttributes hidServiceRecordHandle [.range 0 0xFFFF]]

theorem channel_transparent_sampleCalls :
    let channel := HidSdpChannel.new HidSdpChannel.plainConfiguration 48
    let remote := ClientCall.answers sampleCalls
      { transport := channel, nextTransactionId := 7 : SdpClient HidSdpChannel }
    let direct := ClientCall.answers sampleCalls
      { transport := channel.server, nextTransactionId := 7 : SdpClient SdpServer }
    remote.1 = direct.1 ∧ remote.2.transport.server = direct.2.transport := by
  refine channel_transparent sampleCalls ?_ _ (by decide) 7
  intro call hcall
  simp only [sampleCalls, List.mem_cons, List.not_mem_nil, or_false] at hcall
  rcases hcall with rfl | rfl
  · exact ⟨_, rfl, by decide⟩
  · exact ⟨_, rfl, by decide⟩

end ClassicHid
