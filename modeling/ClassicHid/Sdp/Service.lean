import ClassicHid.Sdp.DataElement

/-!
# The SDP server

The protocol data units of SDP and the server that answers them from a database of service
records, in pieces that fit the peer's MTU.

## Main definitions

* `SdpPdu`: the seven protocol data units, with `SdpPdu.toBytes` and `SdpPdu.fromBytes`
* `SdpServer`: the records and the answer being handed out
* `SdpServer.handleRequest`: one request and its answer
-/

namespace ClassicHid

open Foundation

/-- An SDP protocol data unit. -/
inductive SdpPdu
  | errorResponse (transactionId errorCode : UInt16)
  | serviceSearchRequest (transactionId : UInt16) (serviceSearchPattern : DataElement)
      (maximumServiceRecordCount : UInt16) (continuationState : Bytes)
  | serviceSearchResponse (transactionId totalServiceRecordCount : UInt16)
      (serviceRecordHandleList : List UInt32) (continuationState : Bytes)
  | serviceAttributeRequest (transactionId : UInt16) (serviceRecordHandle : UInt32)
      (maximumAttributeByteCount : UInt16) (attributeIdList : DataElement)
      (continuationState : Bytes)
  | serviceAttributeResponse (transactionId : UInt16) (attributeList continuationState : Bytes)
  | serviceSearchAttributeRequest (transactionId : UInt16) (serviceSearchPattern : DataElement)
      (maximumAttributeByteCount : UInt16) (attributeIdList : DataElement)
      (continuationState : Bytes)
  | serviceSearchAttributeResponse (transactionId : UInt16)
      (attributeLists continuationState : Bytes)

def invalidServiceRecordHandle : UInt16 := 0x0002

def invalidRequestSyntax : UInt16 := 0x0003

def invalidContinuationState : UInt16 := 0x0005

/-! ### Wire form -/

/-- The parameters of a PDU and the position of the next one to read. -/
structure Cursor where
  data : Bytes
  pos : ℕ := 0

namespace Cursor

/-- A reading of parameters. -/
abbrev Read (α : Type) := Exec Cursor SdpError α

/-- The next `n` bytes. -/
def take (n : ℕ) (what : String) : Read Bytes := fun c =>
  match slice c.data c.pos n with
  | some bytes => (.ok bytes, { c with pos := c.pos + n })
  | none => (.error (truncatedSdp what), c)

def u16 : Read UInt16 := do
  let bytes ← take 2 "u16"
  pure (fromBe16 (bytes.getD 0 0) (bytes.getD 1 0))

def u16Le : Read UInt16 := do
  let bytes ← take 2 "u16"
  pure (fromLe16 (bytes.getD 0 0) (bytes.getD 1 0))

def u32 : Read UInt32 := do
  let bytes ← take 4 "u32"
  pure (fromBe32 (bytes.getD 0 0) (bytes.getD 1 0) (bytes.getD 2 0) (bytes.getD 3 0))

/-- The next `n` 32-bit integers. -/
def u32s : ℕ → Read (List UInt32)
  | 0 => pure []
  | n + 1 => do
    let first ← u32
    let rest ← u32s n
    pure (first :: rest)

def dataElement : Read DataElement := fun c =>
  match DataElement.parseFromBytes c.data c.pos with
  | .ok (next, element) => (.ok element, { c with pos := next })
  | .error e => (.error e, c)

def lengthPrefixedBytes : Read Bytes := do
  let length ← u16
  take length.toNat "length-prefixed bytes"

/-- Everything left. -/
def rest : Read Bytes := fun c => (.ok (c.data.drop c.pos), { c with pos := c.data.length })

end Cursor

namespace SdpPdu

def pduId : SdpPdu → UInt8
  | errorResponse .. => 0x01
  | serviceSearchRequest .. => 0x02
  | serviceSearchResponse .. => 0x03
  | serviceAttributeRequest .. => 0x04
  | serviceAttributeResponse .. => 0x05
  | serviceSearchAttributeRequest .. => 0x06
  | serviceSearchAttributeResponse .. => 0x07

def transactionId : SdpPdu → UInt16
  | errorResponse id .. | serviceSearchRequest id .. | serviceSearchResponse id ..
  | serviceAttributeRequest id .. | serviceAttributeResponse id ..
  | serviceSearchAttributeRequest id .. | serviceSearchAttributeResponse id .. => id

/-- The bytes after the five-byte header. The error code is the one little-endian field. -/
def parameters : SdpPdu → Except SdpError Bytes
  | errorResponse _ errorCode => .ok (toLe16 errorCode)
  | serviceSearchRequest _ pattern maximum continuation => do
    pure ((← pattern.toBytes) ++ toBe16 maximum ++ continuation)
  | serviceSearchResponse _ total handles continuation =>
    .ok (toBe16 total ++ toBe16 (UInt16.ofNat handles.length) ++ handles.flatMap toBe32 ++
      continuation)
  | serviceAttributeRequest _ handle maximum ids continuation => do
    pure (toBe32 handle ++ toBe16 maximum ++ (← ids.toBytes) ++ continuation)
  | serviceAttributeResponse _ attributes continuation
  | serviceSearchAttributeResponse _ attributes continuation =>
    .ok (toBe16 (UInt16.ofNat attributes.length) ++ attributes ++ continuation)
  | serviceSearchAttributeRequest _ pattern maximum ids continuation => do
    pure ((← pattern.toBytes) ++ toBe16 maximum ++ (← ids.toBytes) ++ continuation)

def toBytes (pdu : SdpPdu) : Except SdpError Bytes := do
  let parameters ← pdu.parameters
  pure (pdu.pduId :: toBe16 pdu.transactionId ++ toBe16 (UInt16.ofNat parameters.length) ++
    parameters)

/-- The PDU with the given identifier, from its parameters. -/
def read (id : UInt8) (transactionId : UInt16) : Cursor.Read SdpPdu :=
  match id with
  | 0x01 => do
    pure (.errorResponse transactionId (← Cursor.u16Le))
  | 0x02 => do
    let pattern ← Cursor.dataElement
    let maximum ← Cursor.u16
    pure (.serviceSearchRequest transactionId pattern maximum (← Cursor.rest))
  | 0x03 => do
    let total ← Cursor.u16
    let count ← Cursor.u16
    let handles ← Cursor.u32s count.toNat
    pure (.serviceSearchResponse transactionId total handles (← Cursor.rest))
  | 0x04 => do
    let handle ← Cursor.u32
    let maximum ← Cursor.u16
    let ids ← Cursor.dataElement
    pure (.serviceAttributeRequest transactionId handle maximum ids (← Cursor.rest))
  | 0x05 => do
    let attributes ← Cursor.lengthPrefixedBytes
    pure (.serviceAttributeResponse transactionId attributes (← Cursor.rest))
  | 0x06 => do
    let pattern ← Cursor.dataElement
    let maximum ← Cursor.u16
    let ids ← Cursor.dataElement
    pure (.serviceSearchAttributeRequest transactionId pattern maximum ids (← Cursor.rest))
  | 0x07 => do
    let attributes ← Cursor.lengthPrefixedBytes
    pure (.serviceSearchAttributeResponse transactionId attributes (← Cursor.rest))
  | _ => Exec.fail (.invalidPacket s!"unknown SDP PDU id {hex 2 id.toNat}")

def fromBytes (pdu : Bytes) : Except SdpError SdpPdu :=
  match pdu with
  | id :: t₁ :: t₀ :: l₁ :: l₀ :: body =>
    match slice body 0 (fromBe16 l₁ l₀).toNat with
    | some parameters => (read id (fromBe16 t₁ t₀) { data := parameters }).1
    | none => .error (truncatedSdp "SDP PDU parameters")
  | _ => .error (truncatedSdp "SDP PDU header")

end SdpPdu

/-! ### The server -/

structure ServiceRecord where
  handle : UInt32
  attributes : List ServiceAttribute

/-- The answer that continuations hand out. -/
inductive CurrentResponse
  | bytes (bytes : Bytes)
  | handles (total : UInt16) (remaining : List UInt32)

/-- The outcome of the check of a continuation state. -/
inductive Continuation
  | error (code : UInt16)
  | «continue»
  | fresh

/-- The service records, the answer being handed out, and the peer's MTU. -/
structure SdpServer where
  records : List ServiceRecord := []
  currentResponse : Option CurrentResponse := none
  mtu : UInt16

/-- The continuation state that announces more. -/
def serverContinuationState : Bytes := [0x01, 0x00]

/-- The elements of a sequence; other elements have none. -/
def sequenceElements : DataElement → List DataElement
  | .sequence elements => elements
  | _ => []

namespace SdpServer

def new (mtu : UInt16) : SdpServer := { mtu := mtu }

def addService (server : SdpServer) (handle : UInt32) (attributes : List ServiceAttribute) :
    SdpServer :=
  { server with records := server.records ++ [{ handle := handle, attributes := attributes }] }

/-- The records in which one of the pattern's UUIDs occurs, in order. -/
def matchServices (server : SdpServer) (pattern : DataElement) : List ServiceRecord :=
  let uuids := (sequenceElements pattern).filterMap fun element =>
    match element with
    | .uuid uuid => some uuid
    | _ => none
  server.records.filter fun record => uuids.any fun uuid =>
    record.attributes.any fun entry => ServiceAttribute.isUuidInValue uuid entry.value

/-- The attributes selected by one selector: a four-byte selector is an inclusive range, any
other integer a single identifier. -/
def selectAttributes (service : List ServiceAttribute) : DataElement → List ServiceAttribute
  | .unsignedInteger value size =>
    let start := if size = 4 then UInt16.ofNat (value / 65536) else UInt16.ofNat value
    let last := UInt16.ofNat value
    service.filter fun entry => start ≤ entry.id && entry.id ≤ last
  | _ => []

/-- The selected attributes in the order of their identifiers, as a flat sequence. -/
def getServiceAttributes (service : List ServiceAttribute) (attributeIds : List DataElement) :
    DataElement :=
  let selected := attributeIds.flatMap (selectAttributes service)
  ServiceAttribute.listToDataElement (selected.mergeSort fun a b => a.id ≤ b.id)

/-- A continuation must be the one announced; a fresh request drops what is left. -/
def checkContinuation (continuationState : Bytes) (server : SdpServer) :
    Continuation × SdpServer :=
  if continuationState.length > 1 then
    if server.currentResponse.isNone ∨ continuationState ≠ serverContinuationState then
      (.error invalidContinuationState, server)
    else (.continue, server)
  else (.fresh, { server with currentResponse := none })

/-- The next piece of a byte answer, with its continuation state. -/
def nextBytePayload (maximumSize : ℕ) (server : SdpServer) : (Bytes × Bytes) × SdpServer :=
  match server.currentResponse with
  | some (.bytes buffer) =>
    if buffer.length > maximumSize then
      ((buffer.take maximumSize, serverContinuationState),
        { server with currentResponse := some (.bytes (buffer.drop maximumSize)) })
    else ((buffer, [0]), { server with currentResponse := none })
  | _ => (([], [0]), server)

/-- The bytes of an attribute answer that fit one PDU. -/
def attributeByteCap (server : SdpServer) (requested : UInt16) : ℕ :=
  min (server.mtu.toNat - 9) requested.toNat

/-- The serialization of an answer; one that cannot be serialized is empty. -/
def serialized (element : DataElement) : Bytes := (element.toBytes.toOption).getD []

def onServiceSearchAttribute (transactionId : UInt16) (pattern : DataElement)
    (maximumAttributeByteCount : UInt16) (attributeIds : DataElement) (continuationState : Bytes)
    (server : SdpServer) : SdpPdu × SdpServer :=
  let answer (server : SdpServer) : SdpPdu × SdpServer :=
    let ((lists, continuation), server) :=
      server.nextBytePayload (server.attributeByteCap maximumAttributeByteCount)
    (.serviceSearchAttributeResponse transactionId lists continuation, server)
  match server.checkContinuation continuationState with
  | (.error code, server) => (.errorResponse transactionId code, server)
  | (.continue, server) => answer server
  | (.fresh, server) =>
    let ids := sequenceElements attributeIds
    let lists := (server.matchServices pattern).map fun record =>
      getServiceAttributes record.attributes ids
    let lists := lists.filter fun list => !(sequenceElements list).isEmpty
    answer { server with currentResponse := some (.bytes (serialized (.sequence lists))) }

def onServiceAttribute (transactionId : UInt16) (serviceRecordHandle : UInt32)
    (maximumAttributeByteCount : UInt16) (attributeIds : DataElement) (continuationState : Bytes)
    (server : SdpServer) : SdpPdu × SdpServer :=
  let answer (server : SdpServer) : SdpPdu × SdpServer :=
    let ((list, continuation), server) :=
      server.nextBytePayload (server.attributeByteCap maximumAttributeByteCount)
    (.serviceAttributeResponse transactionId list continuation, server)
  match server.checkContinuation continuationState with
  | (.error code, server) => (.errorResponse transactionId code, server)
  | (.continue, server) => answer server
  | (.fresh, server) =>
    match server.records.find? (·.handle = serviceRecordHandle) with
    | none => (.errorResponse transactionId invalidServiceRecordHandle, server)
    | some record =>
      answer { server with currentResponse := some (.bytes
        (serialized (getServiceAttributes record.attributes (sequenceElements attributeIds)))) }

def onServiceSearch (transactionId : UInt16) (pattern : DataElement)
    (maximumServiceRecordCount : UInt16) (continuationState : Bytes) (server : SdpServer) :
    SdpPdu × SdpServer :=
  let answer (server : SdpServer) : SdpPdu × SdpServer :=
    match server.currentResponse with
    | some (.handles total remaining) =>
      let maxCount := (server.mtu.toNat - 11) / 4
      let later := remaining.drop maxCount
      (.serviceSearchResponse transactionId total (remaining.take maxCount)
          (if later.isEmpty then [0] else serverContinuationState),
        { server with currentResponse := some (.handles total later) })
    | _ => (.errorResponse transactionId invalidContinuationState, server)
  match server.checkContinuation continuationState with
  | (.error code, server) => (.errorResponse transactionId code, server)
  | (.continue, server) => answer server
  | (.fresh, server) =>
    let handles := (server.matchServices pattern).map (·.handle)
    answer { server with currentResponse := some (.handles (UInt16.ofNat handles.length)
      (handles.take maximumServiceRecordCount.toNat)) }

def handleRequest (request : SdpPdu) (server : SdpServer) : SdpPdu × SdpServer :=
  match request with
  | .serviceSearchAttributeRequest id pattern maximum ids continuation =>
    server.onServiceSearchAttribute id pattern maximum ids continuation
  | .serviceAttributeRequest id handle maximum ids continuation =>
    server.onServiceAttribute id handle maximum ids continuation
  | .serviceSearchRequest id pattern maximum continuation =>
    server.onServiceSearch id pattern maximum continuation
  | other => (.errorResponse other.transactionId invalidRequestSyntax, server)

/-! ### What a request leaves alone -/

theorem mtu_checkContinuation (server : SdpServer) (continuationState : Bytes) :
    (server.checkContinuation continuationState).2.mtu = server.mtu := by
  unfold checkContinuation
  split
  · split <;> rfl
  · rfl

theorem mtu_nextBytePayload (server : SdpServer) (maximumSize : ℕ) :
    (server.nextBytePayload maximumSize).2.mtu = server.mtu := by
  unfold nextBytePayload
  split
  · split <;> rfl
  · rfl

/-- **No request** changes the MTU of a server. -/
theorem mtu_handleRequest (request : SdpPdu) (server : SdpServer) :
    (server.handleRequest request).2.mtu = server.mtu := by
  cases request with
  | serviceSearchAttributeRequest id pattern maximum ids continuation =>
    rw [handleRequest, onServiceSearchAttribute]
    have hmtu := mtu_checkContinuation server continuation
    rcases hcheck : server.checkContinuation continuation with ⟨_ | _ | _, server'⟩ <;>
      rw [hcheck] at hmtu
    · exact hmtu
    · exact (mtu_nextBytePayload _ _).trans hmtu
    · exact (mtu_nextBytePayload _ _).trans hmtu
  | serviceAttributeRequest id handle maximum ids continuation =>
    rw [handleRequest, onServiceAttribute]
    have hmtu := mtu_checkContinuation server continuation
    rcases hcheck : server.checkContinuation continuation with ⟨_ | _ | _, server'⟩ <;>
      rw [hcheck] at hmtu
    · exact hmtu
    · exact (mtu_nextBytePayload _ _).trans hmtu
    · dsimp only
      split
      · exact hmtu
      · exact (mtu_nextBytePayload _ _).trans hmtu
  | serviceSearchRequest id pattern maximum continuation =>
    rw [handleRequest, onServiceSearch]
    have hmtu := mtu_checkContinuation server continuation
    rcases hcheck : server.checkContinuation continuation with ⟨_ | _ | _, server'⟩ <;>
      rw [hcheck] at hmtu
    · exact hmtu
    · dsimp only
      split <;> exact hmtu
    · exact hmtu
  | _ => rfl

end SdpServer

end ClassicHid
