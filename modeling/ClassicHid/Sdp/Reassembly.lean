import ClassicHid.Sdp.RoundTrip
import ClassicHid.Sdp.Service

/-!
# Answers in pieces

A client repeats its request with the continuation state last returned until the server announces
no more. Whatever the MTU and the sizes asked for, the pieces put together are one answer.

## Main definitions

* `SdpServer.repeated`: the server in each round of a repeated request
* `Delivers responses reply answer`: the responses carry the answer in finitely many pieces

## Main results

* `delivers_of_drain`: a list handed out from the front is delivered
* `SdpServer.answers_reassemble`: the answers of the three requests, put together
-/

namespace ClassicHid

open Foundation

/-! ### Pieces -/

section Delivers

variable {α : Type}

/-- The responses carry an answer in pieces: finitely many, of which only the last announces
that there is no more. -/
def Delivers (responses : ℕ → SdpPdu) (reply : ℕ → List α → Bytes → SdpPdu) (answer : List α) :
    Prop :=
  ∃ (last : ℕ) (piece : ℕ → List α),
    (∀ k < last, responses k = reply k (piece k) [1, 0]) ∧
      responses last = reply last (piece last) [0] ∧
      (List.range (last + 1)).flatMap piece = answer

variable {responses : ℕ → SdpPdu} {reply : ℕ → List α → Bytes → SdpPdu}

/-- An answer in one piece. -/
theorem Delivers.single {answer : List α} (h : responses 0 = reply 0 answer [0]) :
    Delivers responses reply answer :=
  ⟨0, fun _ => answer, fun _ hk => absurd hk (Nat.not_lt_zero _), h, by simp⟩

/-- One piece and the pieces of the rest. -/
theorem Delivers.cons {first rest : List α} (h : responses 0 = reply 0 first [1, 0])
    (hrest : Delivers (fun k => responses (k + 1)) (fun k => reply (k + 1)) rest) :
    Delivers responses reply (first ++ rest) := by
  obtain ⟨last, piece, hpieces, hlast, rfl⟩ := hrest
  refine ⟨last + 1, fun k => k.casesOn first piece, ?_, hlast, ?_⟩
  · intro k hk
    cases k with
    | zero => exact h
    | succ k => exact hpieces k (by omega)
  · rw [List.range_succ_eq_map, List.flatMap_cons, List.flatMap_map]
    rfl

end Delivers

/-! ### Repeated requests -/

/-- The continuation state of a response. -/
def SdpPdu.continuation : SdpPdu → Bytes
  | serviceSearchResponse _ _ _ state => state
  | serviceAttributeResponse _ _ state | serviceSearchAttributeResponse _ _ state => state
  | _ => []

/-- The values of a record are nested at most `n` deep. -/
def ServiceRecord.NestedAtMost (n : ℕ) (record : ServiceRecord) : Prop :=
  ∀ entry ∈ record.attributes, entry.value.nesting ≤ n

namespace SdpServer

/-- The continuation state to send and the server before round `k` of a request that is repeated
with the continuation state last returned; `ask k` is the request of round `k`. -/
def repeated (ask : ℕ → Bytes → SdpPdu) (state : Bytes) (server : SdpServer) :
    ℕ → Bytes × SdpServer
  | 0 => (state, server)
  | k + 1 =>
    let (state, server) := repeated ask state server k
    let (response, server) := server.handleRequest (ask k state)
    (response.continuation, server)

/-- The response of round `k`. -/
def responses (ask : ℕ → Bytes → SdpPdu) (state : Bytes) (server : SdpServer) (k : ℕ) : SdpPdu :=
  ((repeated ask state server k).2.handleRequest (ask k (repeated ask state server k).1)).1

variable {ask : ℕ → Bytes → SdpPdu} {state : Bytes} {server : SdpServer}

/-- After the first round the request is repeated from there. -/
theorem repeated_succ (k : ℕ) :
    repeated ask state server (k + 1) =
      repeated (fun k => ask (k + 1)) (server.handleRequest (ask 0 state)).1.continuation
        (server.handleRequest (ask 0 state)).2 k := by
  induction k with
  | zero => rfl
  | succ k ih => rw [repeated, ih, repeated]

theorem responses_succ (k : ℕ) :
    responses ask state server (k + 1) =
      responses (fun k => ask (k + 1)) (server.handleRequest (ask 0 state)).1.continuation
        (server.handleRequest (ask 0 state)).2 k := by
  rw [responses, repeated_succ, responses]

/-- Two starts whose first rounds agree have the same responses. -/
theorem responses_congr (state' : Bytes) (server' : SdpServer)
    (h : server.handleRequest (ask 0 state) = server'.handleRequest (ask 0 state')) :
    responses ask state server = responses ask state' server' := by
  funext k
  cases k with
  | zero => exact congrArg Prod.fst h
  | succ k => rw [responses_succ, responses_succ, h]

end SdpServer

/-- **A list handed out from the front is delivered**: each round answers with the first entries
of what is left, as many as fit, and keeps the others. -/
theorem delivers_of_drain {α : Type} (holds : SdpServer → List α → Prop)
    {reply : ℕ → List α → Bytes → SdpPdu}
    (hreply : ∀ k piece state, (reply k piece state).continuation = state)
    {ask : ℕ → Bytes → SdpPdu} (size : ℕ → ℕ) (hsize : ∀ k, 0 < size k)
    (hmore : ∀ k server l, holds server l → size k < l.length →
      ∃ server', server.handleRequest (ask k [1, 0]) = (reply k (l.take (size k)) [1, 0], server') ∧
        holds server' (l.drop (size k)))
    (hlast : ∀ k server l, holds server l → l.length ≤ size k →
      (server.handleRequest (ask k [1, 0])).1 = reply k l [0])
    {server : SdpServer} {l : List α} (h : holds server l) :
    Delivers (server.responses ask [1, 0]) reply l := by
  -- By induction on what is left, with the rounds numbered from the current one.
  induction hn : l.length using Nat.strong_induction_on generalizing l server ask reply size with
  | _ n ih =>
    subst hn
    rcases Nat.lt_or_ge (size 0) l.length with hlong | hshort
    · obtain ⟨server', hround, hholds⟩ := hmore 0 server l h hlong
      rw [← List.take_append_drop (size 0) l]
      apply Delivers.cons
      · exact congrArg Prod.fst hround
      · simp only [SdpServer.responses_succ, hround, hreply]
        refine ih _ ?_ (fun k => hreply (k + 1)) (fun k => size (k + 1)) (fun k => hsize (k + 1))
          (fun k => hmore (k + 1)) (fun k => hlast (k + 1)) hholds rfl
        rw [List.length_drop]
        have := hsize 0
        omega
    · exact Delivers.single (hlast 0 server l h hshort)

namespace SdpServer

/-! ### The three requests -/

/-- The server hands out these bytes. -/
def HandsOutBytes (mtu : UInt16) (server : SdpServer) (bytes : Bytes) : Prop :=
  server.mtu = mtu ∧ server.currentResponse = some (.bytes bytes)

/-- The server hands out these handles. -/
def HandsOutHandles (mtu total : UInt16) (server : SdpServer) (handles : List UInt32) : Prop :=
  server.mtu = mtu ∧ server.currentResponse = some (.handles total handles)

theorem checkContinuation_more (server : SdpServer) (h : server.currentResponse.isSome) :
    server.checkContinuation [1, 0] = (.continue, server) := by
  have hnone : ¬ (server.currentResponse.isNone ∨ ([1, 0] : Bytes) ≠ serverContinuationState) := by
    rw [Option.isNone_iff_eq_none]
    rintro (hnone | hne)
    · simp [hnone] at h
    · exact hne rfl
  rw [checkContinuation, if_pos (by decide), if_neg hnone]

theorem checkContinuation_fresh {server : SdpServer} {state : Bytes} (h : state.length ≤ 1) :
    server.checkContinuation state = (.fresh, { server with currentResponse := none }) := by
  rw [checkContinuation, if_neg (by omega)]

/-- A piece of a byte answer, and what the server keeps. -/
theorem HandsOutBytes.nextBytePayload {mtu : UInt16} {server : SdpServer} {bytes : Bytes}
    (h : HandsOutBytes mtu server bytes) (size : ℕ) :
    (size < bytes.length → ∃ server', server.nextBytePayload size =
        ((bytes.take size, [1, 0]), server') ∧ HandsOutBytes mtu server' (bytes.drop size)) ∧
      (bytes.length ≤ size → ∃ server', server.nextBytePayload size = ((bytes, [0]), server')) := by
  obtain ⟨hmtu, hcurrent⟩ := h
  constructor
  · intro hlong
    refine ⟨{ server with currentResponse := some (.bytes (bytes.drop size)) }, ?_, hmtu, rfl⟩
    simp only [SdpServer.nextBytePayload, hcurrent, gt_iff_lt, hlong, if_true]
    rfl
  · intro hshort
    refine ⟨{ server with currentResponse := none }, ?_⟩
    simp only [SdpServer.nextBytePayload, hcurrent, gt_iff_lt, not_lt.mpr hshort, if_false]

/-- A continuation of a search hands out as many handles as fit and keeps the others. -/
theorem HandsOutHandles.handleRequest {mtu total : UInt16} {server : SdpServer}
    {handles : List UInt32} (h : HandsOutHandles mtu total server handles) (id : UInt16)
    (pattern : DataElement) (maximum : UInt16) :
    SdpServer.handleRequest (.serviceSearchRequest id pattern maximum [1, 0]) server =
      (.serviceSearchResponse id total (handles.take ((mtu.toNat - 11) / 4))
        (if (handles.drop ((mtu.toNat - 11) / 4)).isEmpty then [0] else [1, 0]),
        { server with currentResponse := some (.handles total
            (handles.drop ((mtu.toNat - 11) / 4))) }) := by
  simp only [SdpServer.handleRequest, onServiceSearch,
    checkContinuation_more server (by rw [h.2]; rfl), h.1, h.2]
  rfl

theorem attributeByteCap_pos {server : SdpServer} {requested : UInt16} (hmtu : 10 ≤ server.mtu)
    (hrequested : 1 ≤ requested) : 0 < server.attributeByteCap requested := by
  have h₁ : 10 ≤ server.mtu.toNat := UInt16.le_iff_toNat_le.mp hmtu
  have h₂ : 1 ≤ requested.toNat := UInt16.le_iff_toNat_le.mp hrequested
  rw [attributeByteCap]
  omega

/-- The attribute lists of the records that match. -/
def selectedAttributeLists (server : SdpServer) (pattern attributeIds : DataElement) :
    List DataElement :=
  ((server.matchServices pattern).map fun record =>
    getServiceAttributes record.attributes (sequenceElements attributeIds)).filter
      fun list => !(sequenceElements list).isEmpty

variable (server : SdpServer) {state : Bytes} (ids counts : ℕ → UInt16)

/-- Serialized bytes are delivered when each continuation hands out the next piece of them. -/
theorem bytes_delivered (hmtu : 10 ≤ server.mtu) (hcounts : ∀ k, 1 ≤ counts k)
    {ask : ℕ → Bytes → SdpPdu} {reply : ℕ → Bytes → Bytes → SdpPdu}
    (hreply : ∀ k piece state, (reply k piece state).continuation = state)
    (hask : ∀ k current, current.currentResponse.isSome →
      handleRequest (ask k [1, 0]) current =
        let next := current.nextBytePayload (current.attributeByteCap (counts k))
        (reply k next.1.1 next.1.2, next.2))
    (answer : Bytes) :
    Delivers (responses ask [1, 0] { server with currentResponse := some (.bytes answer) }) reply
      answer := by
  have hcap {current : SdpServer} {bytes : Bytes} (h : HandsOutBytes server.mtu current bytes)
      (k : ℕ) : current.attributeByteCap (counts k) = server.attributeByteCap (counts k) := by
    rw [attributeByteCap, attributeByteCap, h.1]
  refine delivers_of_drain (HandsOutBytes server.mtu) hreply
    (fun k => server.attributeByteCap (counts k))
    (fun k => attributeByteCap_pos hmtu (hcounts k)) ?_ ?_ ⟨rfl, rfl⟩
  · intro k current bytes hcurrent hlong
    obtain ⟨server', hpiece, hrest⟩ := (hcurrent.nextBytePayload _).1 hlong
    refine ⟨server', ?_, hrest⟩
    rw [hask k current (by rw [hcurrent.2]; rfl), hcap hcurrent k, hpiece]
  · intro k current bytes hcurrent hshort
    obtain ⟨server', hpiece⟩ := (hcurrent.nextBytePayload _).2 hshort
    rw [hask k current (by rw [hcurrent.2]; rfl), hcap hcurrent k, hpiece]

/-- A search for attributes delivers the serialized lists. -/
theorem serviceSearchAttribute_delivers (hstate : state.length ≤ 1) (hmtu : 10 ≤ server.mtu)
    (hcounts : ∀ k, 1 ≤ counts k) (pattern attributeIds : DataElement) :
    Delivers
      (responses (fun k => .serviceSearchAttributeRequest (ids k) pattern (counts k) attributeIds)
        state server)
      (fun k => .serviceSearchAttributeResponse (ids k))
      (serialized (.sequence (server.selectedAttributeLists pattern attributeIds))) := by
  set answer := serialized (.sequence (server.selectedAttributeLists pattern attributeIds))
  -- The fresh request is answered as a continuation by a server that already has the answer.
  rw [responses_congr [1, 0] { server with currentResponse := some (.bytes answer) }]
  · refine bytes_delivered server counts hmtu hcounts (fun _ _ _ => rfl) ?_ answer
    intro k current hcurrent
    simp only [handleRequest, onServiceSearchAttribute, checkContinuation_more current hcurrent]
  · simp only [handleRequest, onServiceSearchAttribute, checkContinuation_fresh hstate,
      checkContinuation_more { server with currentResponse := some (.bytes answer) } rfl]
    rfl

/-- A request for the attributes of a known record delivers the serialized list. -/
theorem serviceAttribute_delivers (hstate : state.length ≤ 1) (hmtu : 10 ≤ server.mtu)
    (hcounts : ∀ k, 1 ≤ counts k) {handle : UInt32} {record : ServiceRecord}
    (hrecord : server.records.find? (·.handle = handle) = some record)
    (attributeIds : DataElement) :
    Delivers
      (responses (fun k => .serviceAttributeRequest (ids k) handle (counts k) attributeIds)
        state server)
      (fun k => .serviceAttributeResponse (ids k))
      (serialized (getServiceAttributes record.attributes (sequenceElements attributeIds))) := by
  set answer := serialized (getServiceAttributes record.attributes (sequenceElements attributeIds))
    with hanswer
  rw [responses_congr [1, 0] { server with currentResponse := some (.bytes answer) }]
  · refine bytes_delivered server counts hmtu hcounts (fun _ _ _ => rfl) ?_ answer
    intro k current hcurrent
    simp only [handleRequest, onServiceAttribute, checkContinuation_more current hcurrent]
  · simp only [handleRequest, onServiceAttribute, checkContinuation_fresh hstate, hrecord,
      checkContinuation_more { server with currentResponse := some (.bytes answer) } rfl]
    rfl

/-- A search for services delivers the handles of the first records that match. -/
theorem serviceSearch_delivers (hstate : state.length ≤ 1) (hmtu : 15 ≤ server.mtu)
    (pattern : DataElement) (maximum : UInt16) :
    Delivers
      (responses (fun k => .serviceSearchRequest (ids k) pattern maximum) state server)
      (fun k => .serviceSearchResponse (ids k)
        (UInt16.ofNat (server.matchServices pattern).length))
      (((server.matchServices pattern).map (·.handle)).take maximum.toNat) := by
  set total := UInt16.ofNat (server.matchServices pattern).length
  set answer := ((server.matchServices pattern).map (·.handle)).take maximum.toNat
  have hsize : 0 < (server.mtu.toNat - 11) / 4 := by
    have : 15 ≤ server.mtu.toNat := UInt16.le_iff_toNat_le.mp hmtu
    omega
  rw [responses_congr [1, 0] { server with currentResponse := some (.handles total answer) }]
  · refine delivers_of_drain (HandsOutHandles server.mtu total) (fun _ _ _ => rfl)
      (fun _ => (server.mtu.toNat - 11) / 4) (fun _ => hsize) ?_ ?_ ⟨rfl, rfl⟩
    · intro k current handles hcurrent hlong
      have hne : (handles.drop ((server.mtu.toNat - 11) / 4)).isEmpty = false := by
        rw [List.isEmpty_eq_false_iff, ne_eq, List.drop_eq_nil_iff, not_le]
        exact hlong
      refine ⟨{ current with currentResponse := some (.handles total
        (handles.drop ((server.mtu.toNat - 11) / 4))) }, ?_, hcurrent.1, rfl⟩
      rw [hcurrent.handleRequest, hne]
      rfl
    · intro k current handles hcurrent hshort
      rw [hcurrent.handleRequest, List.drop_eq_nil_of_le hshort,
        List.take_of_length_le hshort]
      rfl
  · have htotal : UInt16.ofNat ((server.matchServices pattern).map (·.handle)).length = total := by
      rw [List.length_map]
    simp only [handleRequest, onServiceSearch, checkContinuation_fresh hstate,
      checkContinuation_more { server with currentResponse := some (.handles total answer) } rfl]
    rw [← htotal]
    rfl

/-! ### Decoding -/

theorem listNesting_le {elements : List DataElement} {n : ℕ}
    (h : ∀ element ∈ elements, element.nesting ≤ n) : DataElement.listNesting elements ≤ n := by
  induction elements with
  | nil => exact Nat.zero_le n
  | cons element elements ih =>
    rw [DataElement.listNesting]
    exact max_le (h element (by simp)) (ih fun e he => h e (by simp [he]))

/-- A list of attributes is one level deeper than their values. -/
theorem nesting_getServiceAttributes {attributes : List ServiceAttribute} {n : ℕ}
    (h : ∀ entry ∈ attributes, entry.value.nesting ≤ n) (attributeIds : List DataElement) :
    (getServiceAttributes attributes attributeIds).nesting ≤ n + 1 := by
  rw [getServiceAttributes, ServiceAttribute.listToDataElement, DataElement.nesting]
  apply Nat.succ_le_succ
  apply listNesting_le
  intro element helement
  obtain ⟨entry, hentry, helement⟩ := List.mem_flatMap.mp helement
  -- Each selected entry is an entry of the record.
  have hentry : entry ∈ attributes := by
    obtain ⟨selector, _, hselected⟩ := List.mem_flatMap.mp (List.mem_mergeSort.mp hentry)
    cases selector with
    | unsignedInteger value size => exact (List.mem_filter.mp hselected).1
    | _ => cases hselected
  rcases List.mem_cons.mp helement with rfl | helement
  · exact Nat.zero_le n
  · rw [List.mem_singleton.mp helement]
    exact h entry hentry

theorem nesting_selectedAttributeLists {server : SdpServer} {n : ℕ}
    (h : ∀ record ∈ server.records, record.NestedAtMost n)
    (pattern attributeIds : DataElement) :
    (DataElement.sequence (server.selectedAttributeLists pattern attributeIds)).nesting ≤ n + 2 := by
  rw [DataElement.nesting]
  apply Nat.succ_le_succ
  apply listNesting_le
  intro list hlist
  obtain ⟨record, hrecord, rfl⟩ := List.mem_map.mp (List.mem_filter.mp hlist).1
  exact nesting_getServiceAttributes (h record (List.mem_filter.mp hrecord).1) _

/-- The bytes are the serialization of the element, if it has one, and decode to the element. -/
def Serializes (element : DataElement) (answer : Bytes) : Prop :=
  ∀ bytes, element.toBytes = .ok bytes → answer = bytes ∧ DataElement.fromBytes answer = .ok element

theorem serializes_serialized {element : DataElement} (hnesting : element.nesting ≤ maxNesting) :
    Serializes element (serialized element) := by
  intro bytes h
  have hserialized : serialized element = bytes := by
    rw [serialized, h]
    rfl
  refine ⟨hserialized, ?_⟩
  rw [hserialized]
  exact DataElement.fromBytes_toBytes hnesting h

/-- **Answers in pieces are put together again**, whatever the MTU and the sizes asked for: the
attribute lists, which decode if they can be serialized, and the handles. -/
theorem answers_reassemble (server : SdpServer)
    (hrecords : ∀ record ∈ server.records, record.NestedAtMost 30) {state : Bytes}
    (hstate : state.length ≤ 1) (ids : ℕ → UInt16) :
    (10 ≤ server.mtu → ∀ counts : ℕ → UInt16, (∀ k, 1 ≤ counts k) → ∀ attributeIds,
      (∀ pattern, ∃ answer,
        Delivers (responses (fun k => .serviceSearchAttributeRequest (ids k) pattern (counts k)
          attributeIds) state server) (fun k => .serviceSearchAttributeResponse (ids k)) answer ∧
        answer = serialized (.sequence (server.selectedAttributeLists pattern attributeIds)) ∧
        Serializes (.sequence (server.selectedAttributeLists pattern attributeIds)) answer) ∧
      ∀ handle record, server.records.find? (·.handle = handle) = some record → ∃ answer,
        Delivers (responses (fun k => .serviceAttributeRequest (ids k) handle (counts k)
          attributeIds) state server) (fun k => .serviceAttributeResponse (ids k)) answer ∧
        answer =
          serialized (getServiceAttributes record.attributes (sequenceElements attributeIds)) ∧
        Serializes (getServiceAttributes record.attributes (sequenceElements attributeIds))
          answer) ∧
    (15 ≤ server.mtu → ∀ pattern maximum,
      Delivers (responses (fun k => .serviceSearchRequest (ids k) pattern maximum) state server)
        (fun k => .serviceSearchResponse (ids k)
          (UInt16.ofNat (server.matchServices pattern).length))
        (((server.matchServices pattern).map (·.handle)).take maximum.toNat)) := by
  constructor
  · intro hmtu counts hcounts attributeIds
    constructor
    · intro pattern
      refine ⟨_, serviceSearchAttribute_delivers server ids counts hstate hmtu hcounts pattern
        attributeIds, rfl, ?_⟩
      exact serializes_serialized (nesting_selectedAttributeLists hrecords pattern attributeIds)
    · intro handle record hrecord
      refine ⟨_, serviceAttribute_delivers server ids counts hstate hmtu hcounts hrecord
        attributeIds, rfl, ?_⟩
      have hvalues := hrecords record (List.mem_of_find?_eq_some hrecord)
      exact serializes_serialized
        ((nesting_getServiceAttributes hvalues _).trans (by decide))
  · intro hmtu pattern maximum
    exact serviceSearch_delivers server ids hstate hmtu pattern maximum

/-- A short text, and the class of the service. -/
def sampleAttributes : List ServiceAttribute :=
  [⟨0, .textString [1, 2, 3, 4, 5, 6]⟩, ⟨1, .uuid (.fromU16 0x1101)⟩]

/-- A server with two records of one class. -/
def sampleServer (mtu : UInt16) : SdpServer :=
  ((SdpServer.new mtu).addService 1 sampleAttributes).addService 2 sampleAttributes

theorem nestedAtMost_sampleServer (mtu : UInt16) :
    ∀ record ∈ (sampleServer mtu).records, record.NestedAtMost 30 := by
  have hentry : ∀ entry ∈ sampleAttributes, entry.value.nesting ≤ 30 := by
    simp [sampleAttributes, DataElement.nesting]
  intro record hrecord
  rcases List.mem_cons.mp hrecord with rfl | hrecord
  · exact hentry
  · rw [List.mem_singleton.mp hrecord]
    exact hentry

theorem getServiceAttributes_sampleAttributes :
    getServiceAttributes sampleAttributes [.unsignedInteger16 0] =
      .sequence [.unsignedInteger16 0, .textString [1, 2, 3, 4, 5, 6]] :=
  congrArg ServiceAttribute.listToDataElement (List.mergeSort_singleton _)

/-- The text with its identifier, in rounds of two and three bytes; and the handles, in rounds of
one. -/
theorem answers_reassemble_sampleServer :
    (Delivers
        (responses (fun k => .serviceAttributeRequest k.toUInt16 1 (2 + (k % 2).toUInt16)
          (.sequence [.unsignedInteger16 0])) [0] (sampleServer 12))
        (fun k => .serviceAttributeResponse k.toUInt16)
        [0x35, 11, 9, 0, 0, 0x25, 6, 1, 2, 3, 4, 5, 6] ∧
      DataElement.fromBytes [0x35, 11, 9, 0, 0, 0x25, 6, 1, 2, 3, 4, 5, 6] =
        .ok (.sequence [.unsignedInteger16 0, .textString [1, 2, 3, 4, 5, 6]]) ∧
      responses (fun k => .serviceAttributeRequest k.toUInt16 1 (2 + (k % 2).toUInt16)
          (.sequence [.unsignedInteger16 0])) [0] (sampleServer 12) 0 =
        .serviceAttributeResponse 0 [0x35, 11] [1, 0]) ∧
    Delivers
      (responses (fun k => .serviceSearchRequest k.toUInt16
        (.sequence [.uuid (.fromU16 0x1101)]) 5) [0] (sampleServer 15))
      (fun k => .serviceSearchResponse k.toUInt16 2) [1, 2] := by
  have hstate : ([0] : Bytes).length ≤ 1 := Nat.le_refl 1
  constructor
  · have hcounts : ∀ k : ℕ, 1 ≤ 2 + (k % 2).toUInt16 := by
      intro k
      rcases Nat.mod_two_eq_zero_or_one k with h | h <;> rw [h] <;> decide
    obtain ⟨answer, hdelivers, -, hserializes⟩ :=
      ((answers_reassemble (sampleServer 12) (nestedAtMost_sampleServer 12) hstate
        fun k => k.toUInt16).1 (by decide) _ hcounts (.sequence [.unsignedInteger16 0])).2 1
          ⟨1, sampleAttributes⟩ rfl
    rw [sequenceElements, getServiceAttributes_sampleAttributes] at hserializes
    obtain ⟨rfl, hread⟩ := hserializes _ rfl
    refine ⟨hdelivers, hread, ?_⟩
    have hrecord : (sampleServer 12).records.find? (·.handle = 1) =
        some ⟨1, sampleAttributes⟩ := rfl
    rw [responses, repeated]
    simp only [handleRequest, onServiceAttribute, checkContinuation_fresh hstate, hrecord,
      sequenceElements, getServiceAttributes_sampleAttributes]
    rfl
  · exact (answers_reassemble (sampleServer 15) (nestedAtMost_sampleServer 15) hstate
      fun k => k.toUInt16).2 (by decide) (.sequence [.uuid (.fromU16 0x1101)]) 5

/-! ### An answer that is too long -/

/-- A server whose record holds one text. -/
def textServer (text : Bytes) : SdpServer := (SdpServer.new 48).addService 1 [⟨0, .textString text⟩]

theorem getServiceAttributes_single (value : DataElement) :
    getServiceAttributes [⟨0, value⟩] [.unsignedInteger16 0] =
      .sequence [.unsignedInteger16 0, value] := by
  have hselected : selectAttributes [⟨0, value⟩] (.unsignedInteger16 0) = [⟨0, value⟩] := by
    simp [selectAttributes, DataElement.unsignedInteger16]
  rw [getServiceAttributes, List.flatMap_singleton, hselected, List.mergeSort_singleton]
  rfl

section Oversized

variable {text : Bytes} (htext : text.length = 0xffffffff)
include htext

/-- The longest text that can be serialized. -/
theorem toBytes_longest : ∃ bytes, (DataElement.textString text).toBytes = .ok bytes ∧
    bytes.length = 5 + 0xffffffff := by
  have hheader : variableSizeHeader text.length =
      .ok (7, toBe32 (UInt32.ofNat text.length)) := by
    rw [htext]
    rfl
  refine ⟨elementHeader 4 7 :: toBe32 (UInt32.ofNat text.length) ++ text, ?_, ?_⟩
  · rw [DataElement.toBytes, variableElement, hheader]
    rfl
  · rw [List.length_append, List.length_cons, length_toBe32, htext]

/-- With its identifier in front, the longest text does not fit a sequence. -/
theorem serialized_oversized :
    serialized (.sequence [.unsignedInteger16 0, .textString text]) = [] := by
  obtain ⟨bytes, hbytes, hlength⟩ := toBytes_longest htext
  have hlist : DataElement.listToBytes [.unsignedInteger16 0, .textString text] =
      .ok ([9, 0, 0] ++ (bytes ++ [])) := by
    rw [DataElement.listToBytes, DataElement.listToBytes, DataElement.listToBytes, hbytes]
    rfl
  have hheader : ∃ error, variableSizeHeader ([9, 0, 0] ++ (bytes ++ [])).length = .error error := by
    rw [List.length_append, List.length_append, hlength]
    exact ⟨_, rfl⟩
  obtain ⟨error, hheader⟩ := hheader
  rw [serialized, DataElement.toBytes, hlist]
  simp only [Bind.bind, Except.bind, variableElement, hheader]
  rfl

/-- The answer is lost: its one piece is empty. -/
theorem responses_oversized :
    responses (fun _ => .serviceAttributeRequest 7 1 100 (.sequence [.unsignedInteger16 0])) [0]
      (textServer text) 0 = .serviceAttributeResponse 7 [] [0] := by
  have hserialized : serialized (getServiceAttributes [⟨0, .textString text⟩]
      [.unsignedInteger16 0]) = [] := by
    rw [getServiceAttributes_single, serialized_oversized htext]
  have hstate : ([0] : Bytes).length ≤ 1 := by decide
  have hrecord : (textServer text).records.find? (·.handle = 1) =
      some ⟨1, [⟨0, .textString text⟩]⟩ := rfl
  rw [responses, repeated]
  simp only [handleRequest, onServiceAttribute, checkContinuation_fresh hstate, hrecord,
    sequenceElements, hserialized]
  rfl

theorem oversized_not_decoded {value : DataElement} {answer : Bytes}
    (h : Delivers
      (responses (fun _ => .serviceAttributeRequest 7 1 100 (.sequence [.unsignedInteger16 0])) [0]
        (textServer text)) (fun _ => .serviceAttributeResponse 7) answer) :
    DataElement.fromBytes answer ≠ .ok value := by
  obtain ⟨last, piece, hpieces, hlast, rfl⟩ := h
  cases last with
  | zero =>
    rw [responses_oversized htext] at hlast
    rw [SdpPdu.serviceAttributeResponse.injEq] at hlast
    rw [show (List.range (0 + 1)).flatMap piece = piece 0 by simp, ← hlast.2.1]
    intro hdecoded
    cases hdecoded
  | succ last =>
    have hmore := hpieces 0 (by omega)
    rw [responses_oversized htext, SdpPdu.serviceAttributeResponse.injEq] at hmore
    exact absurd hmore.2.2 (by decide)

/-- The record of the server serializes. -/
theorem textServer_serializes :
    ∀ record ∈ (textServer text).records, record.NestedAtMost 30 ∧
      ∀ entry ∈ record.attributes, ∃ bytes, entry.value.toBytes = .ok bytes := by
  intro record hrecord
  rw [List.mem_singleton.mp hrecord]
  constructor
  · intro entry hentry
    rw [List.mem_singleton.mp hentry]
    exact Nat.zero_le 30
  · intro entry hentry
    rw [List.mem_singleton.mp hentry]
    obtain ⟨bytes, hbytes, _⟩ := toBytes_longest htext
    exact ⟨bytes, hbytes⟩

end Oversized

theorem textServer_mtu (text : Bytes) : 10 ≤ (textServer text).mtu := by
  have hmtu : (textServer text).mtu = 48 := rfl
  rw [hmtu]
  decide

theorem textServer_find (text : Bytes) :
    (textServer text).records.find? (·.handle = 1) = some ⟨1, [⟨0, .textString text⟩]⟩ := rfl

/-- A record that serializes may have an answer that does not: what is delivered is empty and does
not decode. -/
theorem oversized_answer_is_lost :
    10 ≤ (textServer (List.replicate 0xffffffff 0)).mtu ∧
      (∀ record ∈ (textServer (List.replicate 0xffffffff 0)).records, record.NestedAtMost 30 ∧
        ∀ entry ∈ record.attributes, ∃ bytes, entry.value.toBytes = .ok bytes) ∧
      ∃ record, (textServer (List.replicate 0xffffffff 0)).records.find? (·.handle = 1) =
          some record ∧
        ¬ ∃ answer, Delivers
            (responses (fun _ => .serviceAttributeRequest 7 1 100 (.sequence [.unsignedInteger16 0]))
              [0] (textServer (List.replicate 0xffffffff 0)))
            (fun _ => .serviceAttributeResponse 7) answer ∧
          DataElement.fromBytes answer =
            .ok (getServiceAttributes record.attributes [.unsignedInteger16 0]) := by
  refine ⟨textServer_mtu _, textServer_serializes List.length_replicate, _, textServer_find _, ?_⟩
  rintro ⟨answer, hdelivers, hdecoded⟩
  exact oversized_not_decoded List.length_replicate hdelivers hdecoded

end SdpServer

end ClassicHid
