import ClassicHid.Sdp.Client
import ClassicHid.Sdp.Parsed
import ClassicHid.Sdp.Reassembly

/-!
# The results of a client and the MTU

A client reads the same attributes whatever the MTU of the server, or fails: when it gives up early
it has a proper part of the answer, which is no data element. A search for services has no such
guard: the handles read so far are returned as if they were all.

## Main definitions

* `Agree`: two results, when there are two, are the same and complete
* `SdpClient.IndependentOfMtu`: the three requests agree under the MTUs of two servers

## Main results

* `DataElement.fromBytes_take`: a proper part of a wire form is not read
* `SdpClient.accumulate_drain`: what a client accumulates from a list handed out in pieces
* `SdpClient.independentOfMtu_iff`: when the results do not depend on the MTU
-/

namespace ClassicHid

open Foundation

/-! ### Parts of a wire form -/

theorem slice_of_take {α : Type} {l s : List α} {m i n : ℕ} (h : slice (l.take m) i n = some s) :
    slice l i n = some s := by
  unfold slice at h ⊢
  split at h
  · rename_i hlength
    cases h
    rw [List.length_take] at hlength
    rw [if_pos (by omega), List.drop_take, List.take_take, Nat.min_eq_left (by omega)]
  · cases h

theorem parseSize_of_take {data : Bytes} {m pos : ℕ} {elementType sizeIndex : UInt8} {r : ℕ × ℕ}
    (h : parseSize (data.take m) pos elementType sizeIndex = .ok r) :
    parseSize data pos elementType sizeIndex = .ok r := by
  have hslice {n : ℕ} {value : Bytes} (hvalue : slice (data.take m) pos n = some value) :
      slice data pos n = some value := slice_of_take hvalue
  unfold parseSize at h ⊢
  split at h
  · exact h
  · exact h
  · exact h
  · exact h
  · exact h
  · split at h
    · rename_i hvalue
      rw [hslice hvalue]
      exact h
    · cases h
  · split at h
    · rename_i hvalue
      rw [hslice hvalue]
      exact h
    · cases h
  · split at h
    · rename_i hvalue
      rw [hslice hvalue]
      exact h
    · cases h

/-- **A proper part of a wire form is not read**: the header asks for more bytes. -/
theorem DataElement.fromBytes_take {element : DataElement} {bytes : Bytes}
    (h : element.toBytes = .ok bytes) {n : ℕ} (hn : n < bytes.length) :
    ∃ e, DataElement.fromBytes (bytes.take n) = .error e := by
  have hwhole := element.parseNested_toBytes le_rfl bytes [] [] h
  rw [List.nil_append, List.append_nil, List.length_nil, Nat.zero_add] at hwhole
  obtain ⟨header, valueSize, valueStart, value, hheader, hsize, hvalue, hlength, -⟩ :=
    parseNested_eq_ok hwhole
  cases hpart : parseNested (bytes.take n) maxNesting 0 with
  | error e =>
    refine ⟨e, ?_⟩
    rw [fromBytes, parseFromBytes, parseAt, Nat.sub_zero, hpart]
    rfl
  | ok parsed =>
    -- The part has the same header, so the same end, which lies behind it.
    obtain ⟨header', valueSize', valueStart', value', hheader', hsize', hvalue', -, -⟩ :=
      parseNested_eq_ok hpart
    rw [slice_of_take hheader'] at hheader
    cases hheader
    rw [parseSize_of_take hsize'] at hsize
    cases hsize
    rw [slice] at hvalue'
    split at hvalue'
    · rename_i hend
      rw [List.length_take] at hend
      omega
    · cases hvalue'

/-! ### What a client accumulates -/

namespace SdpClient

variable {α β : Type} {ask : UInt16 → Bytes → SdpPdu} {piece : SdpPdu → Option (List α × Bytes)}
  {finish : List α → Except ClientError β}

/-- One round with a server. -/
theorem accumulate_succ (rounds : ℕ) (accumulator : List α) (state : Bytes)
    (client : SdpClient SdpServer) :
    accumulate ask piece finish (rounds + 1) accumulator state client =
      (match piece (client.transport.handleRequest (ask client.nextTransactionId state)).1 with
      | some (more, state) =>
        if isTerminal state then Exec.lift (finish (accumulator ++ more))
        else accumulate ask piece finish rounds (accumulator ++ more) state
      | none =>
        match (client.transport.handleRequest (ask client.nextTransactionId state)).1 with
        | .errorResponse _ errorCode => Exec.fail (.protocol errorCode)
        | _ => Exec.fail .unexpected)
        { transport := (client.transport.handleRequest (ask client.nextTransactionId state)).2
          nextTransactionId := client.nextTransactionId + 1 } := by
  rw [accumulate]
  rfl

/-- A request begun anew gets what a continuation gets from a server that has the answer. -/
theorem accumulate_congr {rounds : ℕ} {accumulator : List α} {state : Bytes}
    {client : SdpClient SdpServer} (state' : Bytes) (server : SdpServer)
    (h : client.transport.handleRequest (ask client.nextTransactionId state) =
      server.handleRequest (ask client.nextTransactionId state')) :
    accumulate ask piece finish (rounds + 1) accumulator state client =
      accumulate ask piece finish (rounds + 1) accumulator state'
        { client with transport := server } := by
  rw [accumulate_succ, accumulate_succ, h]

/-- **What a client accumulates** from a list that the server hands out `size` entries at a time:
as much of it as the rounds allow. -/
theorem accumulate_drain (holds : SdpServer → List α → Prop) {size : ℕ}
    (hround : ∀ server l id, holds server l →
      piece (server.handleRequest (ask id [1, 0])).1 =
        some (l.take size, if size < l.length then [1, 0] else [0]) ∧
      (size < l.length → holds (server.handleRequest (ask id [1, 0])).2 (l.drop size)))
    (rounds : ℕ) (accumulator : List α) {client : SdpClient SdpServer} {l : List α}
    (h : holds client.transport l) :
    (accumulate ask piece finish rounds accumulator [1, 0] client).1 =
      finish (accumulator ++ l.take (rounds * size)) := by
  induction rounds generalizing accumulator client l with
  | zero => simp [accumulate]
  | succ rounds ih =>
    obtain ⟨hpiece, hrest⟩ := hround client.transport l client.nextTransactionId h
    rw [accumulate_succ, hpiece]
    rcases Nat.lt_or_ge size l.length with hlong | hshort
    · simp only [hlong, if_true]
      rw [show isTerminal [1, 0] = false by decide, if_neg Bool.false_ne_true,
        ih _ (hrest hlong), List.append_assoc, ← List.take_add, Nat.succ_mul, Nat.add_comm size]
    · simp only [Nat.not_lt.mpr hshort, if_false]
      rw [show isTerminal [0] = true by decide, if_pos rfl, Exec.lift_apply,
        List.take_of_length_le hshort, List.take_of_length_le]
      rw [Nat.succ_mul]
      omega

/-- The bytes of an attribute answer, in pieces of the MTU without the header. -/
theorem accumulate_bytes {ask : UInt16 → Bytes → SdpPdu} {piece : SdpPdu → Option (Bytes × Bytes)}
    {finish : Bytes → Except ClientError β} {reply : UInt16 → Bytes → Bytes → SdpPdu}
    (hask : ∀ id current, current.currentResponse.isSome →
      SdpServer.handleRequest (ask id [1, 0]) current =
        let next := current.nextBytePayload (current.attributeByteCap 0xFFFF)
        (reply id next.1.1 next.1.2, next.2))
    (hpiece : ∀ id bytes state, piece (reply id bytes state) = some (bytes, state))
    (rounds : ℕ) {mtu : UInt16} {client : SdpClient SdpServer} {answer : Bytes}
    (h : client.transport.HandsOutBytes mtu answer) :
    (accumulate ask piece finish rounds [] [1, 0] client).1 =
      finish (answer.take (rounds * (mtu.toNat - 9))) := by
  rw [← List.nil_append (answer.take _)]
  refine accumulate_drain (SdpServer.HandsOutBytes mtu) ?_ rounds [] h
  intro server bytes id hbytes
  have hcap : server.attributeByteCap 0xFFFF = mtu.toNat - 9 := by
    have hmtu := mtu.toNat_lt
    rw [SdpServer.attributeByteCap, hbytes.1]
    exact Nat.min_eq_left (by rw [show UInt16.toNat 0xFFFF = 65535 from rfl]; omega)
  rw [hask id server (by rw [hbytes.2]; rfl), hcap]
  rcases Nat.lt_or_ge (mtu.toNat - 9) bytes.length with hlong | hshort
  · obtain ⟨server', hnext, hrest⟩ := (hbytes.nextBytePayload _).1 hlong
    simp only [hnext, hpiece, hlong, if_true]
    exact ⟨trivial, fun _ => hrest⟩
  · obtain ⟨server', hnext⟩ := (hbytes.nextBytePayload _).2 hshort
    simp only [hnext, hpiece, Nat.not_lt.mpr hshort, if_false, List.take_of_length_le hshort]
    exact ⟨trivial, (by rintro ⟨⟩)⟩

variable (client : SdpClient SdpServer) (uuids : List BluetoothUuid)
  (attributeIds : List AttributeId)

/-- The serialized attribute lists that a server answers a search for attributes with. -/
def attributeListsAnswer : Bytes :=
  SdpServer.serialized (.sequence
    (client.transport.selectedAttributeLists (searchPattern uuids) (attributeIdList attributeIds)))

theorem serviceSearchAttribute_eq :
    (serviceSearchAttribute uuids attributeIds client).1 =
      (parseAttributeLists ((client.attributeListsAnswer uuids attributeIds).take
        (continuationWatchdog * (client.transport.mtu.toNat - 9)))).mapError .parse := by
  set answer := client.attributeListsAnswer uuids attributeIds with hanswer
  let current : SdpServer := { client.transport with currentResponse := some (.bytes answer) }
  have hmore (id : UInt16) (server : SdpServer) (hserver : server.currentResponse.isSome) :
      SdpServer.handleRequest (.serviceSearchAttributeRequest id (searchPattern uuids) 0xFFFF
        (attributeIdList attributeIds) [1, 0]) server =
        let next := server.nextBytePayload (server.attributeByteCap 0xFFFF)
        (.serviceSearchAttributeResponse id next.1.1 next.1.2, next.2) := by
    simp only [SdpServer.handleRequest, SdpServer.onServiceSearchAttribute,
      SdpServer.checkContinuation_more server hserver]
  have hfresh : client.transport.handleRequest (.serviceSearchAttributeRequest
      client.nextTransactionId (searchPattern uuids) 0xFFFF (attributeIdList attributeIds) [0]) =
      current.handleRequest (.serviceSearchAttributeRequest client.nextTransactionId
        (searchPattern uuids) 0xFFFF (attributeIdList attributeIds) [1, 0]) := by
    rw [hmore _ current rfl]
    simp only [SdpServer.handleRequest, SdpServer.onServiceSearchAttribute,
      SdpServer.checkContinuation_fresh (show ([0] : Bytes).length ≤ 1 by decide)]
    rfl
  have hstart : current.HandsOutBytes client.transport.mtu answer := ⟨rfl, rfl⟩
  rw [serviceSearchAttribute, continuationWatchdog, accumulate_congr [1, 0] current hfresh]
  exact accumulate_bytes hmore (fun _ _ _ => rfl) 64 hstart

/-- A record that is not known. -/
theorem getAttributes_unknown {handle : UInt32}
    (hrecord : client.transport.records.find? (·.handle = handle) = none) :
    (getAttributes handle attributeIds client).1 =
      .error (.protocol invalidServiceRecordHandle) := by
  have hfresh : (client.transport.handleRequest (.serviceAttributeRequest
      client.nextTransactionId handle 0xFFFF (attributeIdList attributeIds) [0])).1 =
      .errorResponse client.nextTransactionId invalidServiceRecordHandle := by
    simp only [SdpServer.handleRequest, SdpServer.onServiceAttribute,
      SdpServer.checkContinuation_fresh (show ([0] : Bytes).length ≤ 1 by decide), hrecord]
  rw [getAttributes, continuationWatchdog, accumulate_succ, hfresh]
  rfl

theorem getAttributes_eq {handle : UInt32} {record : ServiceRecord}
    (hrecord : client.transport.records.find? (·.handle = handle) = some record) :
    (getAttributes handle attributeIds client).1 =
      (parseAttributeList ((SdpServer.serialized (SdpServer.getServiceAttributes record.attributes
        (attributeIds.map AttributeId.toDataElement))).take
          (continuationWatchdog * (client.transport.mtu.toNat - 9)))).mapError .parse := by
  set answer := SdpServer.serialized (SdpServer.getServiceAttributes record.attributes
    (attributeIds.map AttributeId.toDataElement)) with hanswer
  let current : SdpServer := { client.transport with currentResponse := some (.bytes answer) }
  have hmore (id : UInt16) (server : SdpServer) (hserver : server.currentResponse.isSome) :
      SdpServer.handleRequest (.serviceAttributeRequest id handle 0xFFFF
        (attributeIdList attributeIds) [1, 0]) server =
        let next := server.nextBytePayload (server.attributeByteCap 0xFFFF)
        (.serviceAttributeResponse id next.1.1 next.1.2, next.2) := by
    simp only [SdpServer.handleRequest, SdpServer.onServiceAttribute,
      SdpServer.checkContinuation_more server hserver]
  have hfresh : client.transport.handleRequest (.serviceAttributeRequest
      client.nextTransactionId handle 0xFFFF (attributeIdList attributeIds) [0]) =
      current.handleRequest (.serviceAttributeRequest client.nextTransactionId handle 0xFFFF
        (attributeIdList attributeIds) [1, 0]) := by
    rw [hmore _ current rfl]
    simp only [SdpServer.handleRequest, SdpServer.onServiceAttribute,
      SdpServer.checkContinuation_fresh (show ([0] : Bytes).length ≤ 1 by decide), hrecord]
    rfl
  have hstart : current.HandsOutBytes client.transport.mtu answer := ⟨rfl, rfl⟩
  rw [getAttributes, continuationWatchdog, accumulate_congr [1, 0] current hfresh]
  exact accumulate_bytes hmore (fun _ _ _ => rfl) 64 hstart

/-- The handles that a server answers a search with. -/
def handlesAnswer : List UInt32 :=
  ((client.transport.matchServices (searchPattern uuids)).map (·.handle)).take 0xFFFF

/-- A search for services returns the first handles, as many as the rounds allow. -/
theorem searchServices_eq :
    (searchServices uuids client).1 = .ok ((client.handlesAnswer uuids).take
      (continuationWatchdog * ((client.transport.mtu.toNat - 11) / 4))) := by
  set answer := client.handlesAnswer uuids with hanswer
  let total := UInt16.ofNat
    ((client.transport.matchServices (searchPattern uuids)).map (·.handle)).length
  let current : SdpServer :=
    { client.transport with currentResponse := some (.handles total answer) }
  have hstart : current.HandsOutHandles client.transport.mtu total answer := ⟨rfl, rfl⟩
  have hfresh : client.transport.handleRequest (.serviceSearchRequest
      client.nextTransactionId (searchPattern uuids) 0xFFFF [0]) =
      current.handleRequest (.serviceSearchRequest client.nextTransactionId
        (searchPattern uuids) 0xFFFF [1, 0]) := by
    rw [hstart.handleRequest]
    simp only [SdpServer.handleRequest, SdpServer.onServiceSearch,
      SdpServer.checkContinuation_fresh (show ([0] : Bytes).length ≤ 1 by decide)]
    rfl
  rw [searchServices, continuationWatchdog, accumulate_congr [1, 0] current hfresh,
    ← List.nil_append (answer.take _)]
  refine accumulate_drain (SdpServer.HandsOutHandles client.transport.mtu total) ?_ 64 [] hstart
  intro server handles id h
  rw [h.handleRequest]
  refine ⟨?_, fun _ => ⟨h.1, rfl⟩⟩
  rcases Nat.lt_or_ge ((client.transport.mtu.toNat - 11) / 4) handles.length with hlong | hshort
  · have hne : (handles.drop ((client.transport.mtu.toNat - 11) / 4)).isEmpty = false := by
      rw [List.isEmpty_eq_false_iff, ne_eq, List.drop_eq_nil_iff, not_le]
      exact hlong
    rw [hne, if_pos hlong]
    rfl
  · rw [List.drop_eq_nil_of_le hshort, if_neg (Nat.not_lt.mpr hshort)]
    rfl

/-! ### Reading an answer -/

/-- Either the whole of an answer is there, or what is there is not read. -/
theorem serialized_take (element : DataElement) {n : ℕ} (hn : 0 < n) :
    (SdpServer.serialized element).take n = SdpServer.serialized element ∨
      (SdpServer.serialized element).take n ≠ [] ∧
        ∃ e, DataElement.fromBytes ((SdpServer.serialized element).take n) = .error e := by
  rcases Nat.lt_or_ge n (SdpServer.serialized element).length with hlong | hshort
  · cases hbytes : element.toBytes with
    | error e =>
      rw [SdpServer.serialized, hbytes] at hlong
      exact absurd hlong (Nat.not_lt_zero n)
    | ok bytes =>
      have hserialized : SdpServer.serialized element = bytes := by
        rw [SdpServer.serialized, hbytes]
        rfl
      rw [hserialized] at hlong ⊢
      refine .inr ⟨?_, DataElement.fromBytes_take hbytes hlong⟩
      apply List.ne_nil_of_length_pos
      rw [List.length_take]
      omega
  · exact .inl (List.take_of_length_le hshort)

theorem parseAttributeLists_take {element : DataElement} {n : ℕ} (hn : 0 < n)
    {lists : List (List ServiceAttribute)}
    (h : parseAttributeLists ((SdpServer.serialized element).take n) = .ok lists) :
    parseAttributeLists (SdpServer.serialized element) = .ok lists := by
  rcases serialized_take element hn with hwhole | ⟨hne, e, hpart⟩
  · rwa [hwhole] at h
  · rw [parseAttributeLists, if_neg hne, hpart] at h
    cases h

theorem parseAttributeList_take {element : DataElement} {n : ℕ} (hn : 0 < n)
    {list : List ServiceAttribute}
    (h : parseAttributeList ((SdpServer.serialized element).take n) = .ok list) :
    parseAttributeList (SdpServer.serialized element) = .ok list := by
  rcases serialized_take element hn with hwhole | ⟨hne, e, hpart⟩
  · rwa [hwhole] at h
  · rw [parseAttributeList, if_neg hne, hpart] at h
    cases h

/-- The lists that are read are those that were serialized. -/
theorem parseAttributeLists_serialized {services : List (List ServiceAttribute)} {bytes : Bytes}
    (h : (DataElement.sequence (services.map ServiceAttribute.listToDataElement)).toBytes =
      .ok bytes)
    (hnesting : (DataElement.sequence
      (services.map ServiceAttribute.listToDataElement)).nesting ≤ maxNesting) :
    parseAttributeLists (SdpServer.serialized
      (.sequence (services.map ServiceAttribute.listToDataElement))) = .ok services := by
  have hne := List.ne_nil_of_length_pos (DataElement.length_pos_of_toBytes h)
  obtain ⟨hserialized, hread⟩ := SdpServer.serializes_serialized hnesting bytes h
  rw [hserialized] at hread ⊢
  rw [parseAttributeLists, if_neg hne, hread]
  simp only [Bind.bind, Except.bind, pure, Except.pure, List.filterMap_map]
  refine congrArg Except.ok (Eq.trans ?_ (List.filterMap_some : services.filterMap some = _))
  apply List.filterMap_congr
  intro list _
  exact congrArg some (ServiceAttribute.listFromDataElements_listToDataElement list)

theorem parseAttributeList_serialized {list : List ServiceAttribute} {bytes : Bytes}
    (h : (ServiceAttribute.listToDataElement list).toBytes = .ok bytes)
    (hnesting : (ServiceAttribute.listToDataElement list).nesting ≤ maxNesting) :
    parseAttributeList (SdpServer.serialized (ServiceAttribute.listToDataElement list)) =
      .ok list := by
  have hne := List.ne_nil_of_length_pos (DataElement.length_pos_of_toBytes h)
  obtain ⟨hserialized, hread⟩ := SdpServer.serializes_serialized hnesting bytes h
  rw [hserialized] at hread ⊢
  rw [parseAttributeList, if_neg hne, hread]
  exact congrArg Except.ok (ServiceAttribute.listFromDataElements_listToDataElement list)

theorem mapError_eq_ok {ε ε' : Type} {f : ε → ε'} {r : Except ε α} {a : α} :
    r.mapError f = .ok a ↔ r = .ok a := by
  cases r <;> simp [Except.mapError]

/-- Two results, when there are two, are the same and complete. -/
def Agree (complete : β → Prop) (first second : Except ClientError β) : Prop :=
  ∀ a b, first = .ok a → second = .ok b → a = b ∧ complete a

/-- The results of the three requests to two servers with the same records are the same, and no
result is cut off: it is all of the attributes selected, if they have a wire form, and all of the
handles asked for. -/
structure IndependentOfMtu (client client' : SdpClient SdpServer) (uuids : List BluetoothUuid)
    (attributeIds : List AttributeId) : Prop where
  serviceSearchAttribute : Agree
    (fun lists => ∀ bytes,
      (DataElement.sequence (client.transport.selectedAttributeLists (searchPattern uuids)
        (attributeIdList attributeIds))).toBytes = .ok bytes →
      lists.map ServiceAttribute.listToDataElement = client.transport.selectedAttributeLists
        (searchPattern uuids) (attributeIdList attributeIds))
    (serviceSearchAttribute uuids attributeIds client).1
    (serviceSearchAttribute uuids attributeIds client').1
  getAttributes : ∀ handle, Agree
    (fun list => ∃ record, client.transport.records.find? (·.handle = handle) = some record ∧
      ∀ bytes, (SdpServer.getServiceAttributes record.attributes
        (attributeIds.map AttributeId.toDataElement)).toBytes = .ok bytes →
      ServiceAttribute.listToDataElement list = SdpServer.getServiceAttributes record.attributes
        (attributeIds.map AttributeId.toDataElement))
    (getAttributes handle attributeIds client).1 (getAttributes handle attributeIds client').1
  searchServices : Agree (fun handles => handles = client.handlesAnswer uuids)
    (searchServices uuids client).1 (searchServices uuids client').1

variable {client client' : SdpClient SdpServer}

/-- The lists that a server selects are flat lists of attributes. -/
theorem exists_selectedAttributeLists (server : SdpServer) (pattern ids : DataElement) :
    ∃ services : List (List ServiceAttribute), server.selectedAttributeLists pattern ids =
      services.map ServiceAttribute.listToDataElement := by
  refine ⟨(server.selectedAttributeLists pattern ids).map fun list =>
    ServiceAttribute.listFromDataElements (sequenceElements list), ?_⟩
  rw [List.map_map]
  symm
  refine (List.map_congr_left fun list hlist => ?_).trans (List.map_id _)
  obtain ⟨record, _, rfl⟩ := List.mem_map.mp (List.mem_filter.mp hlist).1
  rw [SdpServer.getServiceAttributes, Function.comp_apply,
    ServiceAttribute.listFromDataElements_listToDataElement]
  rfl

section Records

variable (hrecords : ∀ record ∈ client.transport.records, record.NestedAtMost 30)
  (hsame : client'.transport.records = client.transport.records)
  (hmtu : 15 ≤ client.transport.mtu) (hmtu' : 15 ≤ client'.transport.mtu)
include hrecords hsame hmtu hmtu'

/-- A whole answer to a search for attributes is the same under both MTUs. -/
theorem agree_serviceSearchAttribute (uuids : List BluetoothUuid)
    (attributeIds : List AttributeId) : Agree
      (fun lists => ∀ bytes,
        (DataElement.sequence (client.transport.selectedAttributeLists (searchPattern uuids)
          (attributeIdList attributeIds))).toBytes = .ok bytes →
        lists.map ServiceAttribute.listToDataElement = client.transport.selectedAttributeLists
          (searchPattern uuids) (attributeIdList attributeIds))
      (serviceSearchAttribute uuids attributeIds client).1
      (serviceSearchAttribute uuids attributeIds client').1 := by
  have hanswer : client'.attributeListsAnswer uuids attributeIds =
      client.attributeListsAnswer uuids attributeIds := by
    rw [attributeListsAnswer, attributeListsAnswer, SdpServer.selectedAttributeLists,
      SdpServer.selectedAttributeLists, SdpServer.matchServices, SdpServer.matchServices, hsame]
  have hwhole {c : SdpClient SdpServer} (hc : 15 ≤ c.transport.mtu)
      {lists : List (List ServiceAttribute)}
      (h : (serviceSearchAttribute uuids attributeIds c).1 = .ok lists) :
      parseAttributeLists (c.attributeListsAnswer uuids attributeIds) = .ok lists := by
    rw [serviceSearchAttribute_eq, mapError_eq_ok] at h
    refine parseAttributeLists_take ?_ h
    have hc : 15 ≤ c.transport.mtu.toNat := UInt16.le_iff_toNat_le.mp hc
    rw [continuationWatchdog]
    omega
  intro lists lists' hlists hlists'
  have hread := hwhole hmtu hlists
  have hread' := hwhole hmtu' hlists'
  rw [hanswer, hread] at hread'
  refine ⟨Except.ok.inj hread', fun bytes hbytes => ?_⟩
  have hnesting := SdpServer.nesting_selectedAttributeLists hrecords (searchPattern uuids)
    (attributeIdList attributeIds)
  obtain ⟨services, hservices⟩ := exists_selectedAttributeLists client.transport
    (searchPattern uuids) (attributeIdList attributeIds)
  rw [attributeListsAnswer] at hread
  rw [hservices] at hread hbytes hnesting ⊢
  rw [parseAttributeLists_serialized hbytes hnesting] at hread
  rw [Except.ok.inj hread]

/-- So is a whole attribute list. -/
theorem agree_getAttributes (attributeIds : List AttributeId) (handle : UInt32) : Agree
    (fun list => ∃ record, client.transport.records.find? (·.handle = handle) = some record ∧
      ∀ bytes, (SdpServer.getServiceAttributes record.attributes
        (attributeIds.map AttributeId.toDataElement)).toBytes = .ok bytes →
      ServiceAttribute.listToDataElement list = SdpServer.getServiceAttributes record.attributes
        (attributeIds.map AttributeId.toDataElement))
    (getAttributes handle attributeIds client).1 (getAttributes handle attributeIds client').1 := by
  intro list list' hlist hlist'
  cases hrecord : client.transport.records.find? (·.handle = handle) with
  | none =>
    rw [getAttributes_unknown client attributeIds hrecord] at hlist
    cases hlist
  | some record =>
    have hwhole {c : SdpClient SdpServer} (hc : 15 ≤ c.transport.mtu)
        (hrecord : c.transport.records.find? (·.handle = handle) = some record)
        {list : List ServiceAttribute} (h : (getAttributes handle attributeIds c).1 = .ok list) :
        parseAttributeList (SdpServer.serialized (SdpServer.getServiceAttributes
          record.attributes (attributeIds.map AttributeId.toDataElement))) = .ok list := by
      rw [getAttributes_eq c attributeIds hrecord, mapError_eq_ok] at h
      refine parseAttributeList_take ?_ h
      have hc : 15 ≤ c.transport.mtu.toNat := UInt16.le_iff_toNat_le.mp hc
      rw [continuationWatchdog]
      omega
    have hread := hwhole hmtu hrecord hlist
    have hread' := hwhole hmtu' (by rw [hsame]; exact hrecord) hlist'
    rw [hread] at hread'
    refine ⟨Except.ok.inj hread', record, rfl, fun bytes hbytes => ?_⟩
    have hvalues := hrecords record (List.mem_of_find?_eq_some hrecord)
    have hnesting : (SdpServer.getServiceAttributes record.attributes
        (attributeIds.map AttributeId.toDataElement)).nesting ≤ maxNesting :=
      (SdpServer.nesting_getServiceAttributes hvalues _).trans (by decide)
    rw [SdpServer.getServiceAttributes] at hread hbytes hnesting ⊢
    rw [parseAttributeList_serialized hbytes hnesting] at hread
    rw [Except.ok.inj hread]

/-- **When the results do not depend on the MTU**: exactly when all of the handles that match fit
the rounds under both. The attributes never depend on it. -/
theorem independentOfMtu_iff (uuids : List BluetoothUuid) (attributeIds : List AttributeId) :
    IndependentOfMtu client client' uuids attributeIds ↔
      ∀ mtu ∈ [client.transport.mtu, client'.transport.mtu],
        min (client.transport.matchServices (searchPattern uuids)).length 0xFFFF ≤
          continuationWatchdog * ((mtu.toNat - 11) / 4) := by
  have hlength : (client.handlesAnswer uuids).length =
      min (client.transport.matchServices (searchPattern uuids)).length 0xFFFF := by
    rw [handlesAnswer, List.length_take, List.length_map, Nat.min_comm]
  have hanswer : client'.handlesAnswer uuids = client.handlesAnswer uuids := by
    rw [handlesAnswer, handlesAnswer, SdpServer.matchServices, SdpServer.matchServices, hsame]
  rw [← hlength]
  constructor
  · rintro ⟨-, -, hsearch⟩
    obtain ⟨heq, hwhole⟩ := hsearch _ _ (searchServices_eq client uuids)
      (searchServices_eq client' uuids)
    have hfits {n : ℕ} (h : (client.handlesAnswer uuids).take n = client.handlesAnswer uuids) :
        (client.handlesAnswer uuids).length ≤ n := by
      rw [← h, List.length_take]
      exact Nat.min_le_left _ _
    simp only [List.mem_cons, List.not_mem_nil, or_false, forall_eq_or_imp, forall_eq]
    refine ⟨hfits hwhole, hfits ?_⟩
    rw [hanswer] at heq
    exact heq.symm.trans hwhole
  · intro hfits
    simp only [List.mem_cons, List.not_mem_nil, or_false, forall_eq_or_imp, forall_eq] at hfits
    refine ⟨agree_serviceSearchAttribute hrecords hsame hmtu hmtu' uuids attributeIds,
      agree_getAttributes hrecords hsame hmtu hmtu' attributeIds, ?_⟩
    intro handles handles' hhandles hhandles'
    rw [searchServices_eq, List.take_of_length_le hfits.1] at hhandles
    rw [searchServices_eq, hanswer, List.take_of_length_le hfits.2] at hhandles'
    cases hhandles
    cases hhandles'
    exact ⟨rfl, rfl⟩

end Records

/-- Two clients of the same two records, which both match. -/
theorem independentOfMtu_sampleServer :
    IndependentOfMtu (.new (SdpServer.sampleServer 48)) (.new (SdpServer.sampleServer 15))
        [.fromU16 0x1101] [.range 0 0xFFFF] ∧
      (new (SdpServer.sampleServer 48)).handlesAnswer [.fromU16 0x1101] = [1, 2] := by
  have hmtu : 15 ≤ (new (SdpServer.sampleServer 48)).transport.mtu := by decide
  have hmtu' : 15 ≤ (new (SdpServer.sampleServer 15)).transport.mtu := by decide
  have hsame : (new (SdpServer.sampleServer 15)).transport.records =
      (new (SdpServer.sampleServer 48)).transport.records := rfl
  have hiff := independentOfMtu_iff (SdpServer.nestedAtMost_sampleServer 48) hsame hmtu hmtu'
    [.fromU16 0x1101] [.range 0 0xFFFF]
  refine ⟨hiff.mpr ?_, by decide +kernel⟩
  rw [List.forall_mem_cons, List.forall_mem_singleton]
  constructor <;> decide +kernel

/-- A server with one service more than the rounds of a client, all of one class. -/
def crowdedServer (mtu : UInt16) : SdpServer where
  records := (List.range (continuationWatchdog + 1)).map fun handle =>
    ⟨UInt32.ofNat handle, [⟨1, .uuid (.fromU16 0x1101)⟩]⟩
  mtu := mtu

/-- Under the smallest MTU the last service is missing, and the search succeeds. -/
theorem searchServices_cut_off :
    ∃ handles handles' : List UInt32,
      (searchServices [.fromU16 0x1101] (.new (crowdedServer 15))).1 = .ok handles ∧
      (searchServices [.fromU16 0x1101] (.new (crowdedServer 48))).1 = .ok handles' ∧
      handles.length = 64 ∧ handles'.length = 65 := by
  refine ⟨_, _, searchServices_eq _ _, searchServices_eq _ _, ?_, ?_⟩ <;> decide +kernel

end SdpClient

end ClassicHid
