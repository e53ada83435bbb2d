import ClassicHid.AddressText
import ClassicHid.Hci.Codec
import ClassicHid.Hci.Interleaving
import ClassicHid.Hci.Unfinished
import ClassicHid.HidpCodec
import ClassicHid.HidpHost
import ClassicHid.Host.Credit
import ClassicHid.Host.Reception
import ClassicHid.Host.Stream
import ClassicHid.Identity
import ClassicHid.L2cap.Acceptance
import ClassicHid.L2cap.Agreement
import ClassicHid.L2cap.Faults
import ClassicHid.L2cap.Fcs
import ClassicHid.L2cap.Intake
import ClassicHid.L2cap.Lengths
import ClassicHid.L2cap.Lifecycle
import ClassicHid.L2cap.Loss
import ClassicHid.L2cap.Psm
import ClassicHid.L2cap.Refusal
import ClassicHid.L2cap.Reliability
import ClassicHid.L2cap.Transmissions
import ClassicHid.Sdp.Answers
import ClassicHid.Sdp.Continuations
import ClassicHid.Sdp.Discovery
import ClassicHid.Sdp.Independence
import ClassicHid.Sdp.Locality
import ClassicHid.Sdp.Selection
import ClassicHid.Session.Admission
import ClassicHid.Session.Bonds
import ClassicHid.Session.CommandExchange
import ClassicHid.Session.Conformance
import ClassicHid.Session.Dismissal
import ClassicHid.Session.Encryption
import ClassicHid.Session.Expected
import ClassicHid.Session.Grammar
import ClassicHid.Session.LinkKeys
import ClassicHid.Session.Mtus
import ClassicHid.Session.OldLinks
import ClassicHid.Session.Opening
import ClassicHid.Session.Queue
import ClassicHid.Session.Reopening
import ClassicHid.Session.Strangers
import ClassicHid.Session.Transport
import ClassicHid.Usb
import ClassicHid.UsbDevices
