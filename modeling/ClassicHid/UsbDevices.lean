import ClassicHid.AddressText
import ClassicHid.Usb

/-!
# Finding the adapter

An adapter is named by a text: by its number among the Bluetooth controllers on the bus, by the
identifiers of its maker with a serial number or an occurrence, or by its place on the bus. The
first interface of a Bluetooth controller with the three endpoints of the transport is the one that
is used.

## Main definitions

* `UsbSelector`, `UsbSelector.parse`: what a text names
* `UsbDevice`: what the USB library says of a device
* `selectDevice`, `selectLayout`, `openTransport`: the adapter, its interface and its endpoints
* `UsbSelector.names`, `UsbSelector.skips`: the devices that a selector names, and how many of them
  it passes over
* `pathText`: the place of an adapter as a text

## Main results

* `selectDevice_eq_ok_iff`: the device that is selected
* `adapter_found`: what is opened
* `path_reopens`: the place that is reported of an adapter opens it again
-/

namespace ClassicHid

open Foundation

/-! ### Selectors -/

inductive UsbSelector
  | index (index : ℕ)
  | vidPid (vendorId productId : UInt16) (serialNumber : Option (List Char)) (occurrence : ℕ)
  | path (bus : UInt8) (ports : Bytes)
  deriving DecidableEq, Repr

/-- The errors of the USB library. -/
inductive RusbError
  | io | invalidParam | access | noDevice | notFound | busy | timeout | overflow | pipe
  | interrupted | noMem | notSupported | badDescriptor | other
  deriving DecidableEq, Repr

/-- The failures of opening. -/
inductive UsbOpenError
  | invalidSelector
  | deviceNotFound
  | noHciInterface
  | rusb (error : RusbError)
  deriving DecidableEq, Repr

/-- The number that digits denote, if it is at most `limit`. -/
def readNumber (digit : Char → Option ℕ) (radix limit : ℕ) : ℕ → List Char → Option ℕ
  | acc, [] => some acc
  | acc, c :: text =>
    match digit c with
    | none => none
    | some value =>
      if acc * radix + value > limit then none
      else readNumber digit radix limit (acc * radix + value) text

/-- `from_str_radix` of an unsigned type: there is a digit, and a plus sign may stand first. -/
def parseNumber (digit : Char → Option ℕ) (radix limit : ℕ) (text : List Char) : Option ℕ :=
  match text with
  | [] => none
  -- A sign alone is no number, and of the two signs only this one is taken.
  | '+' :: digits => if digits = [] then none else readNumber digit radix limit 0 digits
  | c :: digits => readNumber digit radix limit 0 (c :: digits)

def decimalValue (c : Char) : Option ℕ := if '0' ≤ c ∧ c ≤ '9' then some (c.toNat - 48) else none

def parseHexId (value : List Char) : Except UsbOpenError UInt16 :=
  match parseNumber hexValue 16 0xFFFF value with
  | none => .error .invalidSelector
  | some id => .ok (UInt16.ofNat id)

def parseByte (text : List Char) : Except UsbOpenError UInt8 :=
  match parseNumber decimalValue 10 255 text with
  | none => .error .invalidSelector
  | some byte => .ok (UInt8.ofNat byte)

/-- A number of 64 bits. -/
def parseUsize (text : List Char) : Except UsbOpenError ℕ :=
  match parseNumber decimalValue 10 0xFFFFFFFFFFFFFFFF text with
  | none => .error .invalidSelector
  | some number => .ok number

/-- The two sides of the first separator in a text. -/
def splitOnce (separator : Char) (text : List Char) : Option (List Char × List Char) :=
  if separator ∈ text then
    some (text.takeWhile (· ≠ separator), (text.dropWhile (· ≠ separator)).drop 1)
  else none

namespace UsbSelector

/-- The product, the serial number and the occurrence. -/
def parseProduct (product : List Char) :
    Except UsbOpenError (List Char × Option (List Char) × ℕ) :=
  match splitOnce '/' product with
  | some (product, serial) =>
    -- What follows the slash is the serial number, even if it looks like an occurrence.
    if serial = [] then .error .invalidSelector else .ok (product, some serial, 0)
  | none =>
    match splitOnce '#' product with
    | some (product, occurrence) => do pure (product, none, ← parseUsize occurrence)
    | none => .ok (product, none, 0)

/-- A selector without its optional beginning. -/
def parseBare (value : List Char) : Except UsbOpenError UsbSelector :=
  if value = [] then .error .invalidSelector
  else
    -- A colon decides first, so a serial number may hold any other separator.
    match splitOnce ':' value with
    | some (vendor, product) => do
      let vendorId ← parseHexId vendor
      let (product, serialNumber, occurrence) ← parseProduct product
      pure (.vidPid vendorId (← parseHexId product) serialNumber occurrence)
    | none =>
      match splitOnce '-' value with
      | some (bus, ports) => do
        let bus ← parseByte bus
        let ports ← (ports.splitOn '.').mapM parseByte
        if ports = [] then .error .invalidSelector else pure (.path bus ports)
      | none => do pure (.index (← parseUsize value))

def parse (value : String) : Except UsbOpenError UsbSelector :=
  parseBare (if ['u', 's', 'b', ':'] <+: value.toList then value.toList.drop 4 else value.toList)

end UsbSelector

/-! ### Devices -/

inductive UsbDirection
  | inward
  | outward
  deriving DecidableEq, Repr

inductive TransferType
  | control
  | isochronous
  | bulk
  | interrupt
  deriving DecidableEq, Repr

structure UsbEndpointInfo where
  address : UInt8
  direction : UsbDirection
  transferType : TransferType
  deriving DecidableEq, Repr

structure UsbInterfaceInfo where
  configuration : UInt8
  interface : UInt8
  alternate : UInt8
  class' : UInt8
  subclass : UInt8
  protocol : UInt8
  endpoints : List UsbEndpointInfo
  deriving DecidableEq, Repr

/-- The interface that is used, with its endpoints. -/
structure UsbInterfaceLayout where
  configuration : UInt8
  interface : UInt8
  alternate : UInt8
  interruptIn : UInt8
  bulkIn : UInt8
  bulkOut : UInt8
  deriving DecidableEq, Repr

/-- The endpoints that are read. -/
def UsbInterfaceLayout.reads (layout : UsbInterfaceLayout) : UsbLayout :=
  { interruptIn := layout.interruptIn, bulkIn := layout.bulkIn }

structure AdapterMetadata where
  vendorId : UInt16
  productId : UInt16
  bus : UInt8
  address : UInt8
  ports : Bytes
  deriving DecidableEq, Repr

structure UsbDescriptor where
  vendorId : UInt16
  productId : UInt16
  classCode : UInt8
  subClassCode : UInt8
  protocolCode : UInt8

/-- What comes of the calls on an opened device. -/
structure UsbHandle where
  serialNumber : Except RusbError (List Char)
  autoDetach : Except RusbError Unit
  activeConfiguration : Except RusbError UInt8
  setActiveConfiguration : UInt8 → Except RusbError Unit
  claimInterface : UInt8 → Except RusbError Unit
  setAlternateSetting : UInt8 → UInt8 → Except RusbError Unit

/-- What the library says of a device. Each configuration is a list of the settings of its
interfaces. -/
structure UsbDevice where
  bus : UInt8
  address : UInt8
  ports : Except RusbError Bytes
  descriptor : Except RusbError UsbDescriptor
  configurations : List (Except RusbError (List UsbInterfaceInfo))
  handle : Except RusbError UsbHandle

def usbDeviceClassDevice : UInt8 := 0x00

def usbDeviceClassWirelessController : UInt8 := 0xE0

def usbDeviceSubclassRfController : UInt8 := 0x01

def usbDeviceProtocolBluetoothPrimaryController : UInt8 := 0x01

/-- The codes of a Bluetooth controller. -/
def isBluetooth (codes : UInt8 × UInt8 × UInt8) : Bool :=
  codes = (usbDeviceClassWirelessController, usbDeviceSubclassRfController,
    usbDeviceProtocolBluetoothPrimaryController)

namespace UsbInterfaceInfo

def codes (info : UsbInterfaceInfo) : UInt8 × UInt8 × UInt8 :=
  (info.class', info.subclass, info.protocol)

/-- The first endpoint of its kind. -/
def endpoint? (info : UsbInterfaceInfo) (direction : UsbDirection) (transferType : TransferType) :
    Option UInt8 :=
  (info.endpoints.find? fun endpoint =>
    endpoint.direction = direction && endpoint.transferType = transferType).map (·.address)

/-- The layout of an interface, if it is a controller with the three endpoints. -/
def layout? (info : UsbInterfaceInfo) : Option UsbInterfaceLayout :=
  if isBluetooth info.codes then do
    let interruptIn ← info.endpoint? .inward .interrupt
    let bulkIn ← info.endpoint? .inward .bulk
    let bulkOut ← info.endpoint? .outward .bulk
    pure { configuration := info.configuration, interface := info.interface,
           alternate := info.alternate, interruptIn := interruptIn, bulkIn := bulkIn,
           bulkOut := bulkOut }
  else none

end UsbInterfaceInfo

def selectLayout (interfaces : List UsbInterfaceInfo) : Option UsbInterfaceLayout :=
  interfaces.findSome? UsbInterfaceInfo.layout?

namespace UsbDevice

def interfaceInfos (device : UsbDevice) : Except RusbError (List UsbInterfaceInfo) := do
  let _ ← device.descriptor
  let configurations ← device.configurations.mapM id
  pure configurations.flatten

def deviceIsBluetoothHci (device : UsbDevice) : Except RusbError Bool := do
  let descriptor ← device.descriptor
  if isBluetooth (descriptor.classCode, descriptor.subClassCode, descriptor.protocolCode) then
    pure true
  else if descriptor.classCode ≠ usbDeviceClassDevice then pure false
  else
    -- A composite device says what it is by its interfaces.
    let infos ← device.interfaceInfos
    pure (infos.any fun info => isBluetooth info.codes)

/-- A device with the identifiers of its maker, and the serial number if one is given. A device
without a descriptor is passed over. -/
def isMadeBy (vendorId productId : UInt16) (serialNumber : Option (List Char))
    (device : UsbDevice) : Except RusbError Bool :=
  match device.descriptor with
  | .error _ => .ok false
  | .ok descriptor =>
    if descriptor.vendorId ≠ vendorId ∨ descriptor.productId ≠ productId then .ok false
    else
      match serialNumber with
      | none => .ok true
      | some expected => do
        -- Only a serial number needs the device opened, and a failure ends the search.
        let handle ← device.handle
        pure ((← handle.serialNumber) = expected)

/-- A device at a place. -/
def isAt (bus : UInt8) (ports : Bytes) (device : UsbDevice) : Bool :=
  device.bus = bus && device.ports.toOption = some ports

end UsbDevice

/-- The device after `left` others that are taken. -/
def selectOccurrence (taken : UsbDevice → Except RusbError Bool) :
    ℕ → List UsbDevice → Except UsbOpenError UsbDevice
  | _, [] => .error .deviceNotFound
  | left, device :: devices =>
    match taken device with
    | .error error => .error (.rusb error)
    | .ok false => selectOccurrence taken left devices
    | .ok true => if left = 0 then .ok device else selectOccurrence taken (left - 1) devices

def selectDevice (devices : List UsbDevice) : UsbSelector → Except UsbOpenError UsbDevice
  | .index index =>
    match (devices.filter fun device =>
      device.deviceIsBluetoothHci.toOption.getD false)[index]? with
    | none => .error .deviceNotFound
    | some device => .ok device
  | .path bus ports =>
    match devices.find? (UsbDevice.isAt bus ports) with
    | none => .error .deviceNotFound
    | some device => .ok device
  | .vidPid vendorId productId serialNumber occurrence =>
    selectOccurrence (UsbDevice.isMadeBy vendorId productId serialNumber) occurrence devices

/-- What is done with the handle of a device before it is used. -/
def UsbHandle.prepare (layout : UsbInterfaceLayout) (handle : UsbHandle) :
    Except RusbError Unit := do
  -- Not every system can detach a driver.
  match handle.autoDetach with
  | .ok _ | .error .notSupported => pure ()
  | .error error => .error error
  if handle.activeConfiguration.toOption ≠ some layout.configuration then
    handle.setActiveConfiguration layout.configuration
  handle.claimInterface layout.interface
  if layout.alternate ≠ 0 then
    handle.setAlternateSetting layout.interface layout.alternate

/-- Use a device that was selected. -/
def UsbDevice.use (device : UsbDevice) :
    Except UsbOpenError (UsbInterfaceLayout × AdapterMetadata) := do
  let descriptor ← device.descriptor.mapError .rusb
  let interfaces ← device.interfaceInfos.mapError .rusb
  match selectLayout interfaces with
  | none => .error .noHciInterface
  | some layout =>
    let handle ← device.handle.mapError .rusb
    (handle.prepare layout).mapError .rusb
    pure (layout, { vendorId := descriptor.vendorId, productId := descriptor.productId,
                    bus := device.bus, address := device.address,
                    ports := device.ports.toOption.getD [] })

/-- Open the adapter that a selector names. -/
def openTransport (devices : Except RusbError (List UsbDevice)) (selector : UsbSelector) :
    Except UsbOpenError (UsbInterfaceLayout × AdapterMetadata) := do
  let devices ← devices.mapError .rusb
  (← selectDevice devices selector).use

/-! ### The device that is selected -/

/-- Whether a selector takes a device. -/
def UsbSelector.taken : UsbSelector → UsbDevice → Except RusbError Bool
  | .index _, device => .ok (device.deviceIsBluetoothHci.toOption.getD false)
  | .path bus ports, device => .ok (device.isAt bus ports)
  | .vidPid vendorId productId serialNumber _, device =>
    device.isMadeBy vendorId productId serialNumber

/-- How many of the devices that it takes a selector passes over. -/
def UsbSelector.skips : UsbSelector → ℕ
  | .index number => number
  | .path _ _ => 0
  | .vidPid _ _ _ occurrence => occurrence

/-- A selector names a device. -/
def UsbSelector.names (selector : UsbSelector) (device : UsbDevice) : Bool :=
  (selector.taken device).toOption.getD false

theorem selectOccurrence_ok (p : UsbDevice → Bool) (left : ℕ) (devices : List UsbDevice) :
    selectOccurrence (fun device => .ok (p device)) left devices =
      match (devices.filter p)[left]? with
      | none => .error .deviceNotFound
      | some device => .ok device := by
  induction devices generalizing left with
  | nil => rfl
  | cons device devices ih =>
    rw [selectOccurrence]
    rcases hp : p device with _ | _
    · rw [List.filter_cons_of_neg (by simp [hp])]
      exact ih left
    · rw [List.filter_cons_of_pos hp]
      cases left with
      | zero => rfl
      | succ left => simpa using ih left

/-- **The three searches are one**: a selector passes over some of the devices that it takes. -/
theorem selectDevice_eq (devices : List UsbDevice) (selector : UsbSelector) :
    selectDevice devices selector = selectOccurrence selector.taken selector.skips devices := by
  cases selector with
  | index index => exact (selectOccurrence_ok _ _ _).symm
  | vidPid => rfl
  | path bus ports =>
    refine Eq.trans ?_ (selectOccurrence_ok (UsbDevice.isAt bus ports) 0 devices).symm
    rw [selectDevice, ← List.head?_filter, List.head?_eq_getElem?]

/-- A list is split at its first element or behind it. -/
theorem exists_split_cons {α : Type} {P : List α → Prop} {first x : α} {l : List α} :
    (∃ before after, first :: l = before ++ x :: after ∧ P before) ↔
      first = x ∧ P [] ∨ ∃ before after, l = before ++ x :: after ∧ P (first :: before) := by
  constructor
  · rintro ⟨before, after, hl, hP⟩
    cases before with
    | nil =>
      cases hl
      exact .inl ⟨rfl, hP⟩
    | cons y before =>
      cases hl
      exact .inr ⟨before, after, rfl, hP⟩
  · rintro (⟨rfl, hP⟩ | ⟨before, after, rfl, hP⟩)
    · exact ⟨[], l, rfl, hP⟩
    · exact ⟨first :: before, after, rfl, hP⟩

/-- **The device that is found**: it is taken, and of those before it, which all can be judged,
exactly as many are as were to be passed over. -/
theorem selectOccurrence_eq_ok_iff {taken : UsbDevice → Except RusbError Bool} {left : ℕ}
    {devices : List UsbDevice} {device : UsbDevice} :
    selectOccurrence taken left devices = .ok device ↔ ∃ before after,
      devices = before ++ device :: after ∧ taken device = .ok true ∧
        (∀ other ∈ before, (taken other).isOk = true) ∧
        before.countP (fun other => (taken other).toOption.getD false) = left := by
  induction devices generalizing left with
  | nil =>
    constructor
    · rintro ⟨⟩
    · rintro ⟨before, after, h, -⟩
      simp at h
  | cons first devices ih =>
    rw [exists_split_cons, selectOccurrence]
    rcases htaken : taken first with error | taken'
    · -- A device that cannot be judged ends the search.
      constructor
      · rintro ⟨⟩
      · rintro (⟨rfl, h, -⟩ | ⟨before, after, -, -, hjudged, -⟩)
        · rw [htaken] at h
          cases h
        · have hfirst := hjudged first List.mem_cons_self
          rw [htaken] at hfirst
          cases hfirst
    cases taken' with
    | false =>
      refine ih.trans ⟨?_, ?_⟩
      · rintro ⟨before, after, hl, h, hjudged, hcount⟩
        refine .inr ⟨before, after, hl, h, ?_, ?_⟩
        · exact List.forall_mem_cons.mpr ⟨by rw [htaken]; rfl, hjudged⟩
        · rw [List.countP_cons_of_neg (by simp [htaken, Except.toOption]), hcount]
      · rintro (⟨rfl, h, -⟩ | ⟨before, after, hl, h, hjudged, hcount⟩)
        · rw [htaken] at h
          cases h
        · rw [List.countP_cons_of_neg (by simp [htaken, Except.toOption])] at hcount
          exact ⟨before, after, hl, h, (List.forall_mem_cons.mp hjudged).2, hcount⟩
    | true =>
      have hcons (before : List UsbDevice) : (first :: before).countP
          (fun other => (taken other).toOption.getD false) =
          before.countP (fun other => (taken other).toOption.getD false) + 1 :=
        List.countP_cons_of_pos (by simp [htaken, Except.toOption])
      dsimp only
      by_cases hleft : left = 0
      · -- Nothing is passed over any more.
        subst hleft
        rw [if_pos rfl]
        constructor
        · rintro ⟨⟩
          exact .inl ⟨rfl, htaken, fun _ hmem => absurd hmem List.not_mem_nil, rfl⟩
        · rintro (⟨rfl, -⟩ | ⟨before, after, -, -, -, hcount⟩)
          · rfl
          · rw [hcons] at hcount
            cases hcount
      · rw [if_neg hleft]
        refine ih.trans ⟨?_, ?_⟩
        · rintro ⟨before, after, hl, h, hjudged, hcount⟩
          refine .inr ⟨before, after, hl, h, ?_, ?_⟩
          · exact List.forall_mem_cons.mpr ⟨by rw [htaken]; rfl, hjudged⟩
          · rw [hcons, hcount]
            omega
        · rintro (⟨-, -, -, hcount⟩ | ⟨before, after, hl, h, hjudged, hcount⟩)
          · exact absurd hcount.symm hleft
          · rw [hcons] at hcount
            exact ⟨before, after, hl, h, (List.forall_mem_cons.mp hjudged).2, by omega⟩

/-- **The device that is selected**, by whichever kind of selector. -/
theorem selectDevice_eq_ok_iff {devices : List UsbDevice} {selector : UsbSelector}
    {device : UsbDevice} :
    selectDevice devices selector = .ok device ↔ ∃ before after,
      devices = before ++ device :: after ∧ selector.taken device = .ok true ∧
        (∀ other ∈ before, (selector.taken other).isOk = true) ∧
        before.countP selector.names = selector.skips := by
  rw [selectDevice_eq, selectOccurrence_eq_ok_iff]
  rfl

/-! ### The interface that is used -/

theorem UsbInterfaceInfo.mem_of_endpoint? {info : UsbInterfaceInfo} {direction : UsbDirection}
    {transferType : TransferType} {address : UInt8}
    (h : info.endpoint? direction transferType = some address) :
    ⟨address, direction, transferType⟩ ∈ info.endpoints := by
  rw [endpoint?, Option.map_eq_some_iff] at h
  obtain ⟨endpoint, hfind, rfl⟩ := h
  have hkind := List.find?_some hfind
  rw [Bool.and_eq_true, decide_eq_true_eq, decide_eq_true_eq] at hkind
  obtain ⟨rfl, rfl⟩ := hkind
  exact List.mem_of_find?_eq_some hfind

/-- An interface that can carry the transport, with the endpoints of a layout. -/
structure Carries (info : UsbInterfaceInfo) (layout : UsbInterfaceLayout) : Prop where
  codes : isBluetooth info.codes = true
  configuration : layout.configuration = info.configuration
  interface : layout.interface = info.interface
  alternate : layout.alternate = info.alternate
  interruptIn : ⟨layout.interruptIn, .inward, .interrupt⟩ ∈ info.endpoints
  bulkIn : ⟨layout.bulkIn, .inward, .bulk⟩ ∈ info.endpoints
  bulkOut : ⟨layout.bulkOut, .outward, .bulk⟩ ∈ info.endpoints

theorem UsbInterfaceInfo.carries_of_layout? {info : UsbInterfaceInfo} {layout : UsbInterfaceLayout}
    (h : info.layout? = some layout) : Carries info layout := by
  rw [layout?] at h
  split at h
  · rename_i hcodes
    simp only [bind, Option.bind_eq_some_iff] at h
    obtain ⟨interruptIn, hinterrupt, bulkIn, hin, bulkOut, hout, hlayout⟩ := h
    cases hlayout
    exact ⟨hcodes, rfl, rfl, rfl, mem_of_endpoint? hinterrupt, mem_of_endpoint? hin,
      mem_of_endpoint? hout⟩
  · cases h

theorem selectLayout_eq_some {infos : List UsbInterfaceInfo} {layout : UsbInterfaceLayout}
    (h : selectLayout infos = some layout) :
    ∃ earlier info later, infos = earlier ++ info :: later ∧
      (∀ other ∈ earlier, other.layout? = none) ∧ Carries info layout := by
  rw [selectLayout, List.findSome?_eq_some_iff] at h
  obtain ⟨earlier, info, later, hinfos, hlayout, hearlier⟩ := h
  exact ⟨earlier, info, later, hinfos, hearlier, info.carries_of_layout? hlayout⟩

/-- A device that can be used. -/
theorem UsbDevice.use_eq_ok {device : UsbDevice} {layout : UsbInterfaceLayout}
    {metadata : AdapterMetadata} (h : device.use = .ok (layout, metadata)) :
    (∃ infos, device.interfaceInfos = .ok infos ∧ selectLayout infos = some layout) ∧
      metadata.bus = device.bus ∧ metadata.ports = device.ports.toOption.getD [] := by
  rw [use] at h
  -- Every call that fails ends the opening.
  rcases hdescriptor : device.descriptor with error | descriptor <;> rw [hdescriptor] at h
  · cases h
  rcases hinfos : device.interfaceInfos with error | infos <;> rw [hinfos] at h
  · cases h
  simp only [Except.mapError, bind, Except.bind] at h
  rcases hlayout : selectLayout infos with _ | layout' <;> rw [hlayout] at h
  · cases h
  dsimp only at h
  rcases hhandle : device.handle with error | handle <;> rw [hhandle] at h
  · cases h
  dsimp only at h
  rcases hprepare : handle.prepare layout' with error | _ <;> rw [hprepare] at h
  · cases h
  cases h
  exact ⟨⟨infos, rfl, hlayout⟩, rfl, rfl⟩

theorem openTransport_eq_ok {found : Except RusbError (List UsbDevice)} {selector : UsbSelector}
    {opened : UsbInterfaceLayout × AdapterMetadata} :
    openTransport found selector = .ok opened ↔ ∃ devices device, found = .ok devices ∧
      selectDevice devices selector = .ok device ∧ device.use = .ok opened := by
  rw [openTransport, except_bind_eq_ok]
  constructor
  · rintro ⟨devices, hfound, h⟩
    obtain ⟨device, hdevice, huse⟩ := except_bind_eq_ok.mp h
    cases found with
    | error error => cases hfound
    | ok found =>
      cases hfound
      exact ⟨devices, device, rfl, hdevice, huse⟩
  · rintro ⟨devices, device, rfl, hdevice, huse⟩
    exact ⟨devices, rfl, except_bind_eq_ok.mpr ⟨device, hdevice, huse⟩⟩

/-- **The adapter that is found**: of the devices on the bus that the selector takes it is the one
behind those to be passed over, none of which stopped the search; its place is reported; and the
layout is that of its first interface of a Bluetooth controller with the three endpoints. -/
theorem adapter_found {devices : List UsbDevice} {selector : UsbSelector}
    {layout : UsbInterfaceLayout} {metadata : AdapterMetadata}
    (h : openTransport (.ok devices) selector = .ok (layout, metadata)) :
    ∃ before device after, devices = before ++ device :: after ∧
      selector.taken device = .ok true ∧
      (∀ other ∈ before, (selector.taken other).isOk = true) ∧
      before.countP selector.names = selector.skips ∧
      metadata.bus = device.bus ∧ metadata.ports = device.ports.toOption.getD [] ∧
      ∃ infos earlier info later, device.interfaceInfos = .ok infos ∧
        infos = earlier ++ info :: later ∧ (∀ other ∈ earlier, other.layout? = none) ∧
        Carries info layout := by
  obtain ⟨_, device, ⟨⟩, hselect, huse⟩ := openTransport_eq_ok.mp h
  obtain ⟨before, after, hdevices, htaken, hjudged, hcount⟩ := selectDevice_eq_ok_iff.mp hselect
  obtain ⟨⟨infos, hinfos, hlayout⟩, hbus, hports⟩ := device.use_eq_ok huse
  obtain ⟨earlier, info, later, hsplit, hearlier, hcarries⟩ := selectLayout_eq_some hlayout
  exact ⟨before, device, after, hdevices, htaken, hjudged, hcount, hbus, hports, infos, earlier,
    info, later, hinfos, hsplit, hearlier, hcarries⟩

/-- An interface of a Bluetooth controller. -/
def sampleInterface : UsbInterfaceInfo where
  configuration := 1
  interface := 0
  alternate := 0
  class' := 0xE0
  subclass := 1
  protocol := 1
  endpoints := [⟨0x81, .inward, .interrupt⟩, ⟨0x82, .inward, .bulk⟩, ⟨0x02, .outward, .bulk⟩]

/-- A hub, of which the place is not known, and an adapter. -/
def sampleDevices : List UsbDevice :=
  [{ bus := 1, address := 1, ports := .error .notSupported, configurations := [],
     descriptor := .ok ⟨0x1D6B, 2, 9, 0, 0⟩, handle := .error .access },
   { bus := 1, address := 2, ports := .ok [3, 4], configurations := [.ok [sampleInterface]],
     descriptor := .ok ⟨0x0A12, 1, 0xE0, 1, 1⟩,
     handle := .ok { serialNumber := .error .notFound, autoDetach := .error .notSupported,
                     activeConfiguration := .ok 1, setActiveConfiguration := fun _ => .error .busy,
                     claimInterface := fun _ => .ok (),
                     setAlternateSetting := fun _ _ => .error .busy } }]

theorem openTransport_sampleDevices : openTransport (.ok sampleDevices) (.index 0) =
    .ok (⟨1, 0, 0, 0x81, 0x82, 0x02⟩, ⟨0x0A12, 1, 1, 2, [3, 4]⟩) := rfl

theorem adapter_found_sampleDevices : ∃ before device after,
    sampleDevices = before ++ device :: after ∧ (UsbSelector.index 0).taken device = .ok true ∧
      device.ports.toOption.getD [] = [3, 4] := by
  obtain ⟨before, device, after, hdevices, htaken, -, -, -, hports, -⟩ :=
    adapter_found openTransport_sampleDevices
  exact ⟨before, device, after, hdevices, htaken, hports.symm⟩

/-! ### The place of an adapter -/

def decimalDigit (value : ℕ) : Char := Char.ofNat (48 + value)

/-- A byte in decimal digits. -/
def decimal (byte : UInt8) : List Char :=
  let n := byte.toNat
  if n < 10 then [decimalDigit n]
  else if n < 100 then [decimalDigit (n / 10), decimalDigit (n % 10)]
  else [decimalDigit (n / 100), decimalDigit (n / 10 % 10), decimalDigit (n % 10)]

/-- The place of an adapter: its bus and its ports. -/
def pathText (bus : UInt8) (ports : Bytes) : String :=
  String.ofList (decimal bus ++ '-' :: ['.'].intercalate (ports.map decimal))

/-- What the digits of a byte are. -/
structure Digits (byte : UInt8) (text : List Char) : Prop where
  value : parseByte text = .ok byte
  digit : ∀ c ∈ text, c.isDigit = true
  nonempty : text ≠ []

/-- What a digit is. -/
theorem decimalDigit_spec {value : ℕ} (h : value < 10) :
    decimalValue (decimalDigit value) = some value ∧ (decimalDigit value).isDigit = true ∧
      decimalDigit value ≠ '+' := by
  have hall : ∀ n : Fin 10, decimalValue (decimalDigit n) = some n.val ∧
      (decimalDigit n).isDigit = true ∧ decimalDigit n ≠ '+' := by
    decide
  exact hall ⟨value, h⟩

/-- One more digit. -/
theorem readNumber_cons {acc value limit : ℕ} (h : value < 10)
    (hfits : acc * 10 + value ≤ limit) (text : List Char) :
    readNumber decimalValue 10 limit acc (decimalDigit value :: text) =
      readNumber decimalValue 10 limit (acc * 10 + value) text := by
  rw [readNumber, (decimalDigit_spec h).1]
  exact if_neg (Nat.not_lt.mpr hfits)

/-- A text that begins with a digit has no sign. -/
theorem parseByte_digits {value : ℕ} (h : value < 10) {text : List Char} {byte : UInt8}
    (hread : readNumber decimalValue 10 255 0 (decimalDigit value :: text) = some byte.toNat) :
    parseByte (decimalDigit value :: text) = .ok byte := by
  have hsign : parseNumber decimalValue 10 255 (decimalDigit value :: text) =
      readNumber decimalValue 10 255 0 (decimalDigit value :: text) := by
    have hplus := (decimalDigit_spec h).2.2
    generalize decimalDigit value = c at hplus
    unfold parseNumber
    split
    · rename_i heq
      cases heq
    · rename_i digits heq
      cases heq
      exact absurd rfl hplus
    · rename_i heq
      cases heq
      rfl
  rw [parseByte, hsign, hread]
  exact congrArg Except.ok UInt8.ofNat_toNat

theorem digits_decimal (byte : UInt8) : Digits byte (decimal byte) := by
  have hbyte := byte.toNat_lt
  rw [decimal]
  split
  · rename_i hone
    refine ⟨parseByte_digits hone ?_, ?_, List.cons_ne_nil _ _⟩
    · rw [readNumber_cons hone (by omega), readNumber]
      congr 1
      omega
    · rintro c hmem
      rw [List.mem_singleton.mp hmem]
      exact (decimalDigit_spec hone).2.1
  split
  · rename_i htwo
    have htens : byte.toNat / 10 < 10 := by omega
    have hones : byte.toNat % 10 < 10 := Nat.mod_lt _ (by omega)
    refine ⟨parseByte_digits htens ?_, ?_, List.cons_ne_nil _ _⟩
    · rw [readNumber_cons htens (by omega), readNumber_cons hones (by omega), readNumber]
      congr 1
      omega
    · simp only [List.mem_cons, List.not_mem_nil, or_false]
      rintro c (rfl | rfl)
      · exact (decimalDigit_spec htens).2.1
      · exact (decimalDigit_spec hones).2.1
  · have hhundreds : byte.toNat / 100 < 10 := by omega
    have htens : byte.toNat / 10 % 10 < 10 := Nat.mod_lt _ (by omega)
    have hones : byte.toNat % 10 < 10 := Nat.mod_lt _ (by omega)
    refine ⟨parseByte_digits hhundreds ?_, ?_, List.cons_ne_nil _ _⟩
    · rw [readNumber_cons hhundreds (by omega), readNumber_cons htens (by omega),
        readNumber_cons hones (by omega), readNumber]
      congr 1
      omega
    · simp only [List.mem_cons, List.not_mem_nil, or_false]
      rintro c (rfl | rfl | rfl)
      · exact (decimalDigit_spec hhundreds).2.1
      · exact (decimalDigit_spec htens).2.1
      · exact (decimalDigit_spec hones).2.1

/-- A separator is no digit. -/
theorem notMem_decimal {c : Char} (h : c.isDigit = false) (byte : UInt8) : c ∉ decimal byte := by
  intro hmem
  rw [(digits_decimal byte).digit c hmem] at h
  cases h

theorem mapM_parseByte (ports : Bytes) : (ports.map decimal).mapM parseByte = .ok ports := by
  induction ports with
  | nil => rfl
  | cons port ports ih =>
    rw [List.map_cons, List.mapM_cons, (digits_decimal port).value, ih]
    rfl

theorem splitOnce_append {separator : Char} {text : List Char} (h : separator ∉ text)
    (rest : List Char) : splitOnce separator (text ++ separator :: rest) = some (text, rest) := by
  have hne : ∀ c ∈ text, decide (c ≠ separator) = true := by
    intro c hmem
    rw [decide_eq_true_eq]
    rintro rfl
    exact h hmem
  rw [splitOnce, if_pos (by simp), List.takeWhile_append_of_pos hne,
    List.dropWhile_append_of_pos hne]
  simp

/-- The text of ports has digits and separators only. -/
theorem notMem_intercalate_decimal {c : Char} (hdigit : c.isDigit = false) (hseparator : c ≠ '.')
    (ports : Bytes) : c ∉ ['.'].intercalate (ports.map decimal) := by
  induction ports with
  | nil => exact List.not_mem_nil
  | cons port ports ih =>
    cases ports with
    | nil => simpa using notMem_decimal hdigit port
    | cons next ports =>
      rw [List.map_cons, List.map_cons, List.intercalate_cons_cons, ← List.map_cons]
      simp only [List.mem_append, List.mem_singleton, not_or]
      exact ⟨⟨notMem_decimal hdigit port, hseparator⟩, ih⟩

/-- **The text of a place** is read back. -/
theorem parse_pathText (bus : UInt8) {ports : Bytes} (hports : ports ≠ []) :
    UsbSelector.parse (pathText bus ports) = .ok (.path bus ports) := by
  have hbus := digits_decimal bus
  -- The text begins with a digit and has one kind of separator that a selector knows.
  have hbegins : ¬ ['u', 's', 'b', ':'] <+: (pathText bus ports).toList := by
    rw [pathText, String.toList_ofList]
    rintro ⟨rest, hrest⟩
    rcases htext : decimal bus with _ | ⟨c, text⟩
    · exact hbus.nonempty htext
    · rw [htext] at hrest
      have hc : 'u' = c := (List.cons.inj hrest).1
      have hdigit := hbus.digit c (by rw [htext]; exact List.mem_cons_self)
      rw [← hc] at hdigit
      cases hdigit
  have hcolon : ':' ∉ decimal bus ++ '-' :: ['.'].intercalate (ports.map decimal) := by
    simp only [List.mem_append, List.mem_cons, not_or]
    exact ⟨notMem_decimal rfl bus, by decide, notMem_intercalate_decimal rfl (by decide) ports⟩
  rw [UsbSelector.parse, if_neg hbegins, pathText, String.toList_ofList, UsbSelector.parseBare,
    if_neg (by simp), splitOnce, if_neg hcolon]
  dsimp only
  rw [splitOnce_append (notMem_decimal rfl bus)]
  dsimp only
  rw [hbus.value, List.splitOn_intercalate '.' ?_ (by simpa using hports), mapM_parseByte]
  · simp only [bind, Except.bind, if_neg hports]
    rfl
  · intro text htext
    obtain ⟨port, -, rfl⟩ := List.mem_map.mp htext
    exact notMem_decimal rfl port

/-- **The place of an adapter opens it again**: if an adapter was opened, by whatever selector, and
no other is at its place on the bus, then the text of the place that was reported is a selector, and
with it the same adapter is opened with the same layout. -/
theorem path_reopens {devices : List UsbDevice} {selector : UsbSelector}
    {layout : UsbInterfaceLayout} {metadata : AdapterMetadata}
    (h : openTransport (.ok devices) selector = .ok (layout, metadata))
    (hports : metadata.ports ≠ [])
    (hplace : devices.countP (UsbDevice.isAt metadata.bus metadata.ports) ≤ 1) :
    ∃ path, UsbSelector.parse (pathText metadata.bus metadata.ports) = .ok path ∧
      openTransport (.ok devices) path = .ok (layout, metadata) := by
  refine ⟨_, parse_pathText _ hports, ?_⟩
  obtain ⟨_, device, ⟨⟩, hselect, huse⟩ := openTransport_eq_ok.mp h
  -- How the adapter was selected does not matter, only where it is.
  obtain ⟨before, after, rfl, -, -, -⟩ := selectDevice_eq_ok_iff.mp hselect
  obtain ⟨-, hbus, hdevice⟩ := device.use_eq_ok huse
  have hat : device.isAt metadata.bus metadata.ports = true := by
    rw [UsbDevice.isAt, hbus, Bool.and_eq_true, decide_eq_true_eq, decide_eq_true_eq]
    refine ⟨rfl, ?_⟩
    rcases hread : device.ports.toOption with _ | ports <;> rw [hread] at hdevice
    · exact absurd hdevice hports
    · rw [hdevice]
      rfl
  -- Nothing before the adapter is at its place, so the first device there is the adapter.
  have hbefore : before.countP (UsbDevice.isAt metadata.bus metadata.ports) = 0 := by
    rw [List.countP_append, List.countP_cons_of_pos hat] at hplace
    omega
  refine openTransport_eq_ok.mpr ⟨_, device, rfl, ?_, huse⟩
  refine selectDevice_eq_ok_iff.mpr ⟨before, after, rfl, congrArg Except.ok hat, ?_, hbefore⟩
  rintro other -
  rfl

theorem path_reopens_sampleDevices : ∃ path,
    UsbSelector.parse (pathText 1 [3, 4]) = .ok path ∧
      openTransport (.ok sampleDevices) path =
        .ok (⟨1, 0, 0, 0x81, 0x82, 0x02⟩, ⟨0x0A12, 1, 1, 2, [3, 4]⟩) := by
  have hports : ([3, 4] : Bytes) ≠ [] := List.cons_ne_nil _ _
  have hplace : sampleDevices.countP (UsbDevice.isAt 1 [3, 4]) ≤ 1 := by decide
  have hreopens := path_reopens openTransport_sampleDevices hports hplace
  exact hreopens

end ClassicHid
