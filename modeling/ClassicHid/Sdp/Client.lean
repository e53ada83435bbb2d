import ClassicHid.Foundation.Exec
import ClassicHid.Sdp.Service

/-!
# The SDP client

A client repeats its request with the continuation state last returned, puts the pieces of the
answer together, and reads the attributes or the handles from them. It gives up after a fixed
number of rounds and then reads what it has.

## Main definitions

* `AttributeId`: an attribute selector
* `SdpTransport`: what answers the requests of a client; every `SdpServer` is one
* `SdpClient.serviceSearchAttribute`, `SdpClient.getAttributes`, `SdpClient.searchServices`
-/

namespace ClassicHid

open Foundation

/-- The most rounds of one request. -/
def continuationWatchdog : ℕ := 64

/-- An attribute selector: one identifier, or an inclusive range of them. -/
inductive AttributeId
  | id (value : UInt16)
  | range (start last : UInt16)
  deriving DecidableEq, Repr

/-- The size of the wire form tells an identifier from a range. -/
def AttributeId.toDataElement : AttributeId → DataElement
  | .id value => .unsignedInteger16 value
  | .range start last => .unsignedInteger32 ((start.toUInt32 <<< 16) ||| last.toUInt32)

def searchPattern (uuids : List BluetoothUuid) : DataElement := .sequence (uuids.map .uuid)

def attributeIdList (ids : List AttributeId) : DataElement :=
  .sequence (ids.map AttributeId.toDataElement)

/-- The attributes of a flat sequence are those it was built from. -/
theorem ServiceAttribute.listFromDataElements_listToDataElement
    (attributes : List ServiceAttribute) :
    listFromDataElements (sequenceElements (listToDataElement attributes)) = attributes := by
  induction attributes with
  | nil => rfl
  | cons entry attributes ih =>
    rw [listToDataElement, sequenceElements] at ih ⊢
    rw [List.flatMap_cons, List.cons_append, List.cons_append, List.nil_append,
      DataElement.unsignedInteger16, listFromDataElements, UInt16.ofNat_toNat, ih]

/-! ### Requests -/

/-- Errors of a request of the client. -/
inductive ClientError
  | protocol (errorCode : UInt16)
  | unexpected
  | parse (e : SdpError)
  | transport (message : String)
  deriving DecidableEq, Repr

/-- What answers the requests of a client, or fails below the protocol. -/
class SdpTransport (T : Type) where
  request : SdpPdu → Exec T String SdpPdu

instance : SdpTransport SdpServer where
  request pdu := Exec.update (SdpServer.handleRequest pdu)

structure SdpClient (T : Type) where
  transport : T
  nextTransactionId : UInt16 := 0

/-- The continuation state that ends an answer. -/
def isTerminal (continuationState : Bytes) : Bool := continuationState = [0]

/-- The attribute lists of an accumulated answer. -/
def parseAttributeLists (bytes : Bytes) : Except SdpError (List (List ServiceAttribute)) :=
  if bytes = [] then .ok []
  else do
    match ← DataElement.fromBytes bytes with
    | .sequence services => pure (services.filterMap fun service =>
        match service with
        | .sequence elements => some (ServiceAttribute.listFromDataElements elements)
        | _ => none)
    | _ => pure []

/-- The attribute list of an accumulated answer. -/
def parseAttributeList (bytes : Bytes) : Except SdpError (List ServiceAttribute) :=
  if bytes = [] then .ok []
  else do
    match ← DataElement.fromBytes bytes with
    | .sequence elements => pure (ServiceAttribute.listFromDataElements elements)
    | _ => pure []

namespace SdpClient

variable {T : Type} [SdpTransport T] {α β : Type}

def new (transport : T) : SdpClient T := { transport := transport }

def makeTransactionId : Exec (SdpClient T) ClientError UInt16 :=
  Exec.update fun client =>
    (client.nextTransactionId, { client with nextTransactionId := client.nextTransactionId + 1 })

def request (pdu : SdpPdu) : Exec (SdpClient T) ClientError SdpPdu :=
  Exec.zoom (·.transport) (fun transport client => { client with transport := transport })
    ((SdpTransport.request pdu).mapError .transport)

/-- At most `rounds` rounds of a request, and the reading of the pieces put together. `ask` is the
request with a transaction identifier and a continuation state, and `piece` the piece and the
continuation state of a response that matches it. -/
def accumulate (ask : UInt16 → Bytes → SdpPdu) (piece : SdpPdu → Option (List α × Bytes))
    (finish : List α → Except ClientError β) :
    ℕ → List α → Bytes → Exec (SdpClient T) ClientError β
  | 0, accumulator, _ => Exec.lift (finish accumulator)
  | rounds + 1, accumulator, continuationState => do
    let transactionId ← makeTransactionId
    let response ← request (ask transactionId continuationState)
    match piece response with
    | some (more, state) =>
      if isTerminal state then Exec.lift (finish (accumulator ++ more))
      else accumulate ask piece finish rounds (accumulator ++ more) state
    | none =>
      match response with
      | .errorResponse _ errorCode => Exec.fail (.protocol errorCode)
      | _ => Exec.fail .unexpected

/-- The requested attributes of each service that matches. -/
def serviceSearchAttribute (uuids : List BluetoothUuid) (attributeIds : List AttributeId) :
    Exec (SdpClient T) ClientError (List (List ServiceAttribute)) :=
  accumulate
    (fun transactionId continuationState => .serviceSearchAttributeRequest transactionId
      (searchPattern uuids) 0xFFFF (attributeIdList attributeIds) continuationState)
    (fun response =>
      match response with
      | .serviceSearchAttributeResponse _ attributeLists state => some (attributeLists, state)
      | _ => none)
    (fun accumulator => (parseAttributeLists accumulator).mapError .parse)
    continuationWatchdog [] [0]

/-- The requested attributes of one service. -/
def getAttributes (serviceRecordHandle : UInt32) (attributeIds : List AttributeId) :
    Exec (SdpClient T) ClientError (List ServiceAttribute) :=
  accumulate
    (fun transactionId continuationState => .serviceAttributeRequest transactionId
      serviceRecordHandle 0xFFFF (attributeIdList attributeIds) continuationState)
    (fun response =>
      match response with
      | .serviceAttributeResponse _ attributeList state => some (attributeList, state)
      | _ => none)
    (fun accumulator => (parseAttributeList accumulator).mapError .parse)
    continuationWatchdog [] [0]

/-- The handles of the services that match. -/
def searchServices (uuids : List BluetoothUuid) :
    Exec (SdpClient T) ClientError (List UInt32) :=
  accumulate
    (fun transactionId continuationState => .serviceSearchRequest transactionId
      (searchPattern uuids) 0xFFFF continuationState)
    (fun response =>
      match response with
      | .serviceSearchResponse _ _ handles state => some (handles, state)
      | _ => none)
    (fun accumulator => .ok accumulator)
    continuationWatchdog [] [0]

end SdpClient

end ClassicHid
