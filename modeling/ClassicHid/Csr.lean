import ClassicHid.Foundation.Bytes

/-!
# CSR vendor commands

The two commands with which a CSR controller is given another address until it loses power, and the
status of its answers. Everything is a BCCMD message: a channel byte and little-endian words.

## Main definitions

* `CsrVendorCommand`, `CsrBdAddrRewritePlan`
* `buildCsrBdAddrVolatileRewritePlan`: the command that writes an address and the one that resets
* `parseCsrBccmdResponse`: the status of an answer
-/

namespace ClassicHid

open Foundation

def csrVendorOpcode : UInt16 := 0xFC00

def csrBccmdChannel : UInt8 := 0xC2

def csrSetreq : UInt16 := 0x0002

def csrPskeyBdaddr : UInt16 := 0x0001

def csrVaridPs : UInt16 := 0x7003

def csrVolatileStore : UInt16 := 0x0008

def bdAddrValueLength : ℕ := 8

/-- Six bytes, most significant first. -/
abbrev AdapterAddress := Vector UInt8 6

structure CsrVendorCommand where
  opCode : UInt16
  parameters : Bytes
  deriving DecidableEq, Repr

structure CsrBdAddrRewritePlan where
  write : CsrVendorCommand
  reset : CsrVendorCommand
  deriving DecidableEq, Repr

inductive CsrCodecError
  | malformedResponse
  | notCsrBccmd
  | failedResponse
  deriving DecidableEq, Repr

def vendorCommand (payload : Bytes) : CsrVendorCommand :=
  { opCode := csrVendorOpcode, parameters := csrBccmdChannel :: payload }

/-- The address goes into the last eight bytes of the write, in the order of the value it replaces. -/
def buildCsrBdAddrVolatileRewritePlan (address : AdapterAddress) (sequenceNumber : UInt16) :
    CsrBdAddrRewritePlan :=
  let valueWords := UInt16.ofNat (bdAddrValueLength / 2)
  { write := vendorCommand (toLe16 csrSetreq ++ toLe16 (valueWords + 8) ++ toLe16 sequenceNumber ++
      toLe16 csrVaridPs ++ toLe16 0 ++ toLe16 csrPskeyBdaddr ++ toLe16 valueWords ++
      toLe16 csrVolatileStore ++
      [address[3], 0, address[5], address[4], address[2], 0, address[1], address[0]])
    reset := vendorCommand (toLe16 csrSetreq ++ toLe16 9 ++ toLe16 0 ++ toLe16 0x4002 ++
      List.replicate 10 (0 : UInt8)) }

/-- The status of an answer. -/
def parseCsrBccmdResponse (eventParameters : Bytes) : Except CsrCodecError UInt16 :=
  if eventParameters.length < 11 then .error .malformedResponse
  else if eventParameters.getD 0 0 ≠ csrBccmdChannel then .error .notCsrBccmd
  else .ok (le16At eventParameters 9)

example : (buildCsrBdAddrVolatileRewritePlan #v[0x02, 0x12, 0x34, 0x56, 0x78, 0x9A] 0x4711).write =
    vendorCommand [0x02, 0x00, 0x0C, 0x00, 0x11, 0x47, 0x03, 0x70, 0x00, 0x00, 0x01, 0x00, 0x04, 0x00,
      0x08, 0x00, 0x56, 0x00, 0x9A, 0x78, 0x34, 0x00, 0x12, 0x02] := by decide

end ClassicHid
