import ClassicHid.HidService
import ClassicHid.Sdp.PduCodec

/-!
# Every SDP request is answered

The SDP server of a channel answers every SDU that carries a transaction identifier, whatever its
other bytes, with one response that can be read, answers that request, and fits the MTU of the peer.

## Main definitions

* `SdpPdu.Answers`: a response to a request
* `HidSdpChannel.after`: the channel after some SDUs

## Main results

* `SdpServer.handleRequest_answers`: a request gets a response that fits
* `HidSdpChannel.sdu_answered`: so does every SDU of three bytes or more
-/

namespace ClassicHid

open Foundation

/-! ### Responses -/

namespace SdpPdu

/-- A response, as opposed to a request. -/
def isResponse : SdpPdu → Bool
  | errorResponse .. | serviceSearchResponse .. | serviceAttributeResponse ..
  | serviceSearchAttributeResponse .. => true
  | _ => false

theorem elements_of_isResponse {pdu : SdpPdu} (h : pdu.isResponse = true) : pdu.elements = [] := by
  cases pdu <;> first | rfl | cases h

/-- A response to a request: an error or the response of its kind, with its transaction
identifier, in at most `mtu` bytes. -/
structure Answers (mtu : ℕ) (request response : SdpPdu) : Prop where
  isAnswer : response.isResponse = true
  transaction : response.transactionId = request.transactionId
  kind : response.pduId = 0x01 ∨
    (request.pduId = 0x02 ∨ request.pduId = 0x04 ∨ request.pduId = 0x06) ∧
      response.pduId = request.pduId + 1
  fits : ∃ parameters, response.parameters = .ok parameters ∧ 5 + parameters.length ≤ mtu

theorem Answers.error {mtu : ℕ} (hmtu : 11 ≤ mtu) {request : SdpPdu} {id : UInt16}
    (hid : id = request.transactionId) (code : UInt16) :
    Answers mtu request (errorResponse id code) where
  isAnswer := rfl
  transaction := hid
  kind := .inl rfl
  fits := by
    refine ⟨toLe16 code, rfl, ?_⟩
    rw [length_toLe16]
    omega

/-- The bytes of an answer are read back as that answer. -/
theorem Answers.toBytes {mtu : ℕ} {request response : SdpPdu} (h : Answers mtu request response)
    (hmtu : mtu < 65536) :
    ∃ bytes, response.toBytes = .ok bytes ∧ bytes.length ≤ mtu ∧ fromBytes bytes = .ok response := by
  obtain ⟨parameters, hparameters, hlength⟩ := h.fits
  refine ⟨response.pduId :: toBe16 response.transactionId ++
    toBe16 (UInt16.ofNat parameters.length) ++ parameters, ?_, ?_, ?_⟩
  · rw [SdpPdu.toBytes, hparameters]
    rfl
  · simp only [List.length_append, List.length_cons, length_toBe16]
    omega
  · rw [fromBytes_header (by omega)]
    refine read_parameters ?_ hparameters (by omega)
    rw [elements_of_isResponse h.isAnswer]
    rintro _ ⟨⟩

end SdpPdu

/-! ### The server -/

namespace SdpServer

/-- A piece is at most as long as allowed. -/
theorem length_nextBytePayload (size : ℕ) (server : SdpServer) :
    (server.nextBytePayload size).1.1.length ≤ size ∧
      (server.nextBytePayload size).1.2.length ≤ 2 := by
  rw [nextBytePayload]
  split
  · split
    · refine ⟨?_, Nat.le_refl 2⟩
      rw [List.length_take]
      exact Nat.min_le_left _ _
    · refine ⟨?_, Nat.le_succ 1⟩
      dsimp only
      omega
  · exact ⟨Nat.zero_le size, Nat.le_succ 1⟩

/-- What a request gets: an answer, from a server with the same MTU. -/
def Answered (mtu : UInt16) (request : SdpPdu) (outcome : SdpPdu × SdpServer) : Prop :=
  SdpPdu.Answers mtu.toNat request outcome.1 ∧ outcome.2.mtu = mtu

variable {mtu : UInt16} (hmtu : 11 ≤ mtu.toNat) {server : SdpServer} (hserver : server.mtu = mtu)
include hmtu hserver

/-- The parameters of an attribute answer fill at most the MTU. -/
theorem length_attributeResponse (requested : UInt16) :
    5 + (toBe16 (UInt16.ofNat
        (server.nextBytePayload (server.attributeByteCap requested)).1.1.length) ++
      (server.nextBytePayload (server.attributeByteCap requested)).1.1 ++
      (server.nextBytePayload (server.attributeByteCap requested)).1.2).length ≤ mtu.toNat := by
  obtain ⟨hpiece, hstate⟩ := length_nextBytePayload (server.attributeByteCap requested) server
  have hcap : server.attributeByteCap requested ≤ mtu.toNat - 9 := by
    rw [attributeByteCap, hserver]
    exact Nat.min_le_left _ _
  simp only [List.length_append, length_toBe16]
  omega

theorem onServiceSearchAttribute_answered (id : UInt16) (pattern : DataElement) (maximum : UInt16)
    (ids : DataElement) (state : Bytes) :
    Answered mtu (.serviceSearchAttributeRequest id pattern maximum ids state)
      (server.onServiceSearchAttribute id pattern maximum ids state) := by
  have hanswer (server : SdpServer) (hserver : server.mtu = mtu) :
      Answered mtu (.serviceSearchAttributeRequest id pattern maximum ids state)
        (.serviceSearchAttributeResponse id
          (server.nextBytePayload (server.attributeByteCap maximum)).1.1
          (server.nextBytePayload (server.attributeByteCap maximum)).1.2,
          (server.nextBytePayload (server.attributeByteCap maximum)).2) := by
    refine ⟨⟨rfl, rfl, .inr ⟨.inr (.inr rfl), rfl⟩, _, rfl, ?_⟩, ?_⟩
    · exact length_attributeResponse hmtu hserver maximum
    · rw [mtu_nextBytePayload server, hserver]
  have hcheck := mtu_checkContinuation server state
  rw [hserver] at hcheck
  rw [onServiceSearchAttribute]
  dsimp only
  generalize server.checkContinuation state = checked at hcheck ⊢
  rcases checked with ⟨_ | _ | _, current⟩
  · exact ⟨.error hmtu rfl _, hcheck⟩
  · exact hanswer current hcheck
  · exact hanswer _ hcheck

theorem onServiceAttribute_answered (id : UInt16) (handle : UInt32) (maximum : UInt16)
    (ids : DataElement) (state : Bytes) :
    Answered mtu (.serviceAttributeRequest id handle maximum ids state)
      (server.onServiceAttribute id handle maximum ids state) := by
  have hanswer (server : SdpServer) (hserver : server.mtu = mtu) :
      Answered mtu (.serviceAttributeRequest id handle maximum ids state)
        (.serviceAttributeResponse id
          (server.nextBytePayload (server.attributeByteCap maximum)).1.1
          (server.nextBytePayload (server.attributeByteCap maximum)).1.2,
          (server.nextBytePayload (server.attributeByteCap maximum)).2) := by
    refine ⟨⟨rfl, rfl, .inr ⟨.inr (.inl rfl), rfl⟩, _, rfl, ?_⟩, ?_⟩
    · exact length_attributeResponse hmtu hserver maximum
    · rw [mtu_nextBytePayload server, hserver]
  have hcheck := mtu_checkContinuation server state
  rw [hserver] at hcheck
  rw [onServiceAttribute]
  dsimp only
  generalize server.checkContinuation state = checked at hcheck ⊢
  rcases checked with ⟨_ | _ | _, current⟩
  · exact ⟨.error hmtu rfl _, hcheck⟩
  · exact hanswer current hcheck
  · dsimp only
    split
    · exact ⟨.error hmtu rfl _, hcheck⟩
    · exact hanswer _ hcheck

theorem onServiceSearch_answered (id : UInt16) (pattern : DataElement) (maximum : UInt16)
    (state : Bytes) :
    Answered mtu (.serviceSearchRequest id pattern maximum state)
      (server.onServiceSearch id pattern maximum state) := by
  -- As many handles as fit behind the counts and before the continuation state.
  have hhandles (server : SdpServer) (hserver : server.mtu = mtu) (total : UInt16)
      (remaining : List UInt32) :
      Answered mtu (.serviceSearchRequest id pattern maximum state)
        (.serviceSearchResponse id total (remaining.take ((server.mtu.toNat - 11) / 4))
          (if (remaining.drop ((server.mtu.toNat - 11) / 4)).isEmpty then [0]
            else serverContinuationState),
          { server with currentResponse := some (.handles total
              (remaining.drop ((server.mtu.toNat - 11) / 4))) }) := by
    refine ⟨⟨rfl, rfl, .inr ⟨.inl rfl, rfl⟩, _, rfl, ?_⟩, hserver⟩
    have hstate : (if (remaining.drop ((server.mtu.toNat - 11) / 4)).isEmpty then ([0] : Bytes)
        else serverContinuationState).length ≤ 2 := by
      split <;> simp [serverContinuationState]
    simp only [List.length_append, length_toBe16, SdpPdu.length_flatMap_toBe32, List.length_take]
    rw [hserver] at *
    omega
  have hcheck := mtu_checkContinuation server state
  rw [hserver] at hcheck
  rw [onServiceSearch]
  dsimp only
  generalize server.checkContinuation state = checked at hcheck ⊢
  rcases checked with ⟨_ | _ | _, current⟩
  · exact ⟨.error hmtu rfl _, hcheck⟩
  · dsimp only
    split
    · exact hhandles current hcheck _ _
    · exact ⟨.error hmtu rfl _, hcheck⟩
  · exact hhandles { current with currentResponse := some _ } hcheck _ _

/-- **A request gets an answer that fits.** -/
theorem handleRequest_answered (request : SdpPdu) :
    Answered mtu request (server.handleRequest request) := by
  cases request with
  | serviceSearchRequest id pattern maximum state =>
    exact onServiceSearch_answered hmtu hserver id pattern maximum state
  | serviceAttributeRequest id handle maximum ids state =>
    exact onServiceAttribute_answered hmtu hserver id handle maximum ids state
  | serviceSearchAttributeRequest id pattern maximum ids state =>
    exact onServiceSearchAttribute_answered hmtu hserver id pattern maximum ids state
  | _ => exact ⟨.error hmtu rfl _, hserver⟩

end SdpServer

/-! ### The channel -/

/-- Every PDU that is read has the given identifier. -/
def SdpPdu.ReadsAs (id : UInt8) (transaction : UInt16) (m : Cursor.Read SdpPdu) : Prop :=
  ∀ cursor pdu cursor', m cursor = (.ok pdu, cursor') →
    pdu.pduId = id ∧ pdu.transactionId = transaction

/-- Reading one more parameter does not change the identifier. -/
theorem SdpPdu.ReadsAs.bind {α : Type} {id : UInt8} {transaction : UInt16} {m : Cursor.Read α}
    {f : α → Cursor.Read SdpPdu} (h : ∀ a, ReadsAs id transaction (f a)) :
    ReadsAs id transaction (m >>= f) := by
  intro cursor pdu cursor' hread
  obtain ⟨a, middle, _, hread⟩ := Exec.bind_eq_ok.mp hread
  exact h a middle pdu cursor' hread

theorem SdpPdu.ReadsAs.pure {pdu : SdpPdu} :
    ReadsAs pdu.pduId pdu.transactionId (pure pdu) := by
  intro cursor pdu' cursor' hread
  cases hread
  exact ⟨rfl, rfl⟩

theorem SdpPdu.read_readsAs (id : UInt8) (transaction : UInt16) :
    ReadsAs id transaction (SdpPdu.read id transaction) := by
  unfold SdpPdu.read
  split
  · exact .bind fun _ => .pure
  · exact .bind fun _ => .bind fun _ => .bind fun _ => .pure
  · exact .bind fun _ => .bind fun _ => .bind fun _ => .bind fun _ => .pure
  · exact .bind fun _ => .bind fun _ => .bind fun _ => .bind fun _ => .pure
  · exact .bind fun _ => .bind fun _ => .pure
  · exact .bind fun _ => .bind fun _ => .bind fun _ => .bind fun _ => .pure
  · exact .bind fun _ => .bind fun _ => .pure
  · intro cursor pdu cursor' hread
    cases hread

/-- A PDU has the identifiers of its first bytes. -/
theorem SdpPdu.fromBytes_identifiers {id t₁ t₀ : UInt8} {rest : Bytes} {pdu : SdpPdu}
    (h : fromBytes (id :: t₁ :: t₀ :: rest) = .ok pdu) :
    pdu.pduId = id ∧ pdu.transactionId = fromBe16 t₁ t₀ := by
  unfold fromBytes at h
  split at h
  · rename_i _ _ _ _ _ _ body heq
    cases heq
    split at h
    · rename_i parameters _
      exact read_readsAs _ _ { data := parameters } pdu _ (Prod.ext h rfl)
    · cases h
  · cases h

namespace HidSdpChannel

/-- The channel after some SDUs. -/
def after (sdus : List Bytes) (channel : HidSdpChannel) : HidSdpChannel :=
  sdus.foldl (fun channel sdu => (channel.handleSdu sdu).2) channel

/-- An answer to the SDU that begins with these bytes. -/
structure AnswersSdu (mtu : UInt16) (id t₁ t₀ : UInt8) (response : Bytes) : Prop where
  fits : response.length ≤ mtu.toNat
  readable : ∃ pdu, SdpPdu.fromBytes response = .ok pdu ∧
    pdu.transactionId = fromBe16 t₁ t₀ ∧
    (pdu.pduId = 0x01 ∨ (id = 0x02 ∨ id = 0x04 ∨ id = 0x06) ∧ pdu.pduId = id + 1)

theorem AnswersSdu.of_answers {mtu : UInt16} {id t₁ t₀ : UInt8} {request response : SdpPdu}
    (h : SdpPdu.Answers mtu.toNat request response) (hid : request.pduId = id)
    (htransaction : request.transactionId = fromBe16 t₁ t₀) :
    ∃ bytes, response.toBytes.toOption = some bytes ∧ AnswersSdu mtu id t₁ t₀ bytes := by
  obtain ⟨bytes, hbytes, hlength, hread⟩ := h.toBytes mtu.toNat_lt
  refine ⟨bytes, by rw [hbytes]; rfl, hlength, response, hread, ?_, ?_⟩
  · rw [h.transaction, htransaction]
  · rw [← hid]
    exact h.kind

/-- One SDU: it is answered when it carries a transaction identifier, and ignored otherwise. -/
theorem handleSdu_answered {mtu : UInt16} (hmtu : 11 ≤ mtu.toNat) {channel : HidSdpChannel}
    (hchannel : channel.server.mtu = mtu) (sdu : Bytes) :
    (channel.handleSdu sdu).2.server.mtu = mtu ∧
      (sdu.length < 3 → channel.handleSdu sdu = (none, channel)) ∧
      ∀ id t₁ t₀ rest, sdu = id :: t₁ :: t₀ :: rest →
        ∃ response, (channel.handleSdu sdu).1 = some response ∧ AnswersSdu mtu id t₁ t₀ response := by
  rcases sdu with _ | ⟨id, _ | ⟨t₁, _ | ⟨t₀, rest⟩⟩⟩
  · exact ⟨hchannel, fun _ => rfl, nofun⟩
  · exact ⟨hchannel, fun _ => rfl, nofun⟩
  · exact ⟨hchannel, fun _ => rfl, nofun⟩
  have hslice : slice (id :: t₁ :: t₀ :: rest) 1 2 = some [t₁, t₀] := by
    simp [slice]
  simp only [handleSdu, hslice]
  rcases hparse : parseCompletePdu (id :: t₁ :: t₀ :: rest) with _ | request
  · refine ⟨hchannel, fun h => absurd h (by simp), ?_⟩
    rintro _ _ _ _ ⟨⟩
    have herror : SdpPdu.Answers mtu.toNat (.errorResponse (fromBe16 t₁ t₀) invalidRequestSyntax)
        (.errorResponse (fromBe16 t₁ t₀) invalidRequestSyntax) := .error hmtu rfl _
    obtain ⟨bytes, hbytes, hlength, hread⟩ := herror.toBytes mtu.toNat_lt
    refine ⟨bytes, ?_, hlength, _, hread, rfl, .inl rfl⟩
    rw [hbytes]
    rfl
  · have hidentifiers : request.pduId = id ∧ request.transactionId = fromBe16 t₁ t₀ := by
      unfold parseCompletePdu at hparse
      split at hparse
      · split at hparse
        · cases hparse
        rcases hread : SdpPdu.fromBytes (id :: t₁ :: t₀ :: rest) with error | pdu <;>
          rw [hread] at hparse <;> cases hparse
        exact SdpPdu.fromBytes_identifiers hread
      · cases hparse
    obtain ⟨hanswer, hserver⟩ := SdpServer.handleRequest_answered hmtu hchannel request
    refine ⟨hserver, fun h => absurd h (by simp), ?_⟩
    rintro _ _ _ _ ⟨⟩
    exact AnswersSdu.of_answers hanswer hidentifiers.1 hidentifiers.2

theorem after_mtu {mtu : UInt16} (hmtu : 11 ≤ mtu.toNat) (sdus : List Bytes)
    {channel : HidSdpChannel} (hchannel : channel.server.mtu = mtu) :
    (channel.after sdus).server.mtu = mtu := by
  induction sdus generalizing channel with
  | nil => exact hchannel
  | cons sdu sdus ih => exact ih (handleSdu_answered hmtu hchannel sdu).1

/-- **Every SDU is answered**, after any SDUs before it: one of three bytes or more gets a response
that can be read, carries its transaction identifier and fits the MTU; a shorter one changes
nothing. -/
theorem sdu_answered (configuration : HidServiceConfig) (mtu : UInt16) (hmtu : 11 ≤ mtu)
    (earlier : List Bytes) (sdu : Bytes) :
    (sdu.length < 3 → ((new configuration mtu).after earlier).handleSdu sdu =
        (none, (new configuration mtu).after earlier)) ∧
      ∀ id t₁ t₀ rest, sdu = id :: t₁ :: t₀ :: rest → ∃ response,
        (((new configuration mtu).after earlier).handleSdu sdu).1 = some response ∧
          AnswersSdu mtu id t₁ t₀ response := by
  have hmtu' : 11 ≤ mtu.toNat := UInt16.le_iff_toNat_le.mp hmtu
  have hchannel : ((new configuration mtu).after earlier).server.mtu = mtu :=
    after_mtu hmtu' earlier rfl
  exact (handleSdu_answered hmtu' hchannel sdu).2

/-- The service of a device without a name. -/
def plainConfiguration : HidServiceConfig where
  reportDescriptor := []
  sdpPolicy :=
    { serviceName := "", serviceDescription := none, providerName := none,
      deviceReleaseNumber := none, bluetoothProfileVersion := 0x0101, parserVersion := 0x0111,
      deviceSubclass := 0x08, countryCode := 0, virtualCable := true, reconnectInitiate := true,
      remoteWake := none, profileVersion := 0x0100, supervisionTimeout := 3200,
      normallyConnectable := false, bootDevice := false, ssrHostMaxLatency := 0,
      ssrHostMinTimeout := 0 }

/-- A request for the report descriptors. -/
def descriptorRequest (state : Bytes) : SdpPdu :=
  .serviceAttributeRequest 7 hidServiceRecordHandle 0xFFFF (.sequence [.unsignedInteger16 0x0206])
    state

/-- The request on the wire. -/
def descriptorSdu (state : Bytes) : Bytes :=
  [4, 0, 7, 0, UInt8.ofNat (11 + List.length state), 0, 1, 0, 1, 0xFF, 0xFF, 0x35, 3, 9, 2, 6] ++
    state

theorem parseCompletePdu_descriptorSdu :
    parseCompletePdu (descriptorSdu [0]) = some (descriptorRequest [0]) := by
  have hnesting : ∀ element ∈ (descriptorRequest [0]).elements, element.nesting ≤ maxNesting := by
    intro element hmem
    rw [List.mem_singleton.mp hmem]
    decide
  have hparameters : (descriptorRequest [0]).parameters =
      .ok [0, 1, 0, 1, 0xFF, 0xFF, 0x35, 3, 9, 2, 6, 0] := rfl
  have hread : SdpPdu.fromBytes (descriptorSdu [0]) = .ok (descriptorRequest [0]) :=
    (SdpPdu.fromBytes_header (by decide)).trans
      (SdpPdu.read_parameters hnesting hparameters (by decide))
  have hslice : slice (descriptorSdu [0]) 3 2 = some [0, 12] := rfl
  rw [parseCompletePdu, hslice, hread]
  rfl

theorem sdu_answered_plain :
    (∃ response, (((new plainConfiguration 48).after [[1, 2]]).handleSdu [9, 0, 7]).1 =
        some response ∧ AnswersSdu 48 9 0 7 response) ∧
      ((new plainConfiguration 11).handleSdu (descriptorSdu [0])).1 =
        some [5, 0, 7, 0, 6, 0, 2, 0x35, 11, 1, 0] ∧
      ∃ response, (((new plainConfiguration 11).after [descriptorSdu [0]]).handleSdu
          (descriptorSdu [1, 0])).1 = some response ∧ AnswersSdu 11 4 0 7 response := by
  refine ⟨(sdu_answered plainConfiguration 48 (by decide) [[1, 2]] [9, 0, 7]).2 9 0 7 [] rfl, ?_,
    (sdu_answered plainConfiguration 11 (by decide) [descriptorSdu [0]] (descriptorSdu [1, 0])).2
      4 0 7 _ rfl⟩
  have hlist : SdpServer.getServiceAttributes (buildHidServiceRecord plainConfiguration)
      [.unsignedInteger16 0x0206] = .sequence [.unsignedInteger16 0x0206,
        .sequence [.sequence [.unsignedInteger8 0x22, .textString []]]] :=
    congrArg ServiceAttribute.listToDataElement (List.mergeSort_singleton _)
  have hslice : slice (descriptorSdu [0]) 1 2 = some [0, 7] := rfl
  have hfresh : (new plainConfiguration 11).server.checkContinuation [0] =
      (.fresh, (new plainConfiguration 11).server) := rfl
  have hrecord : (new plainConfiguration 11).server.records.find?
      (·.handle = hidServiceRecordHandle) =
        some ⟨hidServiceRecordHandle, buildHidServiceRecord plainConfiguration⟩ := rfl
  simp only [handleSdu, hslice, parseCompletePdu_descriptorSdu, descriptorRequest,
    SdpServer.handleRequest, SdpServer.onServiceAttribute, hfresh, hrecord, sequenceElements, hlist]
  decide +kernel

end HidSdpChannel

end ClassicHid
