import ClassicHid.Sdp.Independence
import ClassicHid.Sdp.Selection
import ClassicHid.Sdp.Wire

/-!
# A peer discovers the HID service

What a peer learns about the device from the SDP channel: it finds the service record by any of
the UUIDs in it, and reads the attributes it asks for, all of them or none.

## Main definitions

* `HidSdpChannel.peer`: a client that has just opened the channel
* `readAttributes`: the attributes of the record that some selectors select

## Main results

* `record_found`: which searches find the record
* `record_read`: which attributes a peer gets
-/

namespace ClassicHid

open Foundation

/-- A client that has just opened the SDP channel of a device. -/
def HidSdpChannel.peer (configuration : HidServiceConfig) (mtu : UInt16) :
    SdpClient HidSdpChannel :=
  .new (.new configuration mtu)

/-- The attributes of the service record that some selectors select, in the order of their
identifiers. -/
def readAttributes (configuration : HidServiceConfig) (attributeIds : List AttributeId) :
    List ServiceAttribute :=
  ((attributeIds.map AttributeId.toDataElement).flatMap
    (SdpServer.selectAttributes (buildHidServiceRecord configuration))).mergeSort
    fun a b => a.id ≤ b.id

/-- The UUIDs of the service, its protocols and its browse group. -/
def hidUuids : List BluetoothUuid :=
  [.fromU16 0x1124, .fromU16 0x0100, .fromU16 0x0011, .fromU16 0x1002]

/-- The three outcomes of reading the first `n` bytes of an attribute list: all of it is there, or a
part of it, which is not read, or it has no wire form. -/
theorem parseAttributeList_piece {list : List ServiceAttribute}
    (hnesting : (ServiceAttribute.listToDataElement list).nesting ≤ maxNesting) {n : ℕ}
    (hn : 0 < n) :
    let piece := (SdpServer.serialized (ServiceAttribute.listToDataElement list)).take n
    (∀ bytes, (ServiceAttribute.listToDataElement list).toBytes = .ok bytes → bytes.length ≤ n →
      parseAttributeList piece = .ok list) ∧
    (∀ bytes, (ServiceAttribute.listToDataElement list).toBytes = .ok bytes → n < bytes.length →
      ∃ e, parseAttributeList piece = .error e) ∧
    (∀ e, (ServiceAttribute.listToDataElement list).toBytes = .error e →
      parseAttributeList piece = .ok []) := by
  refine ⟨fun bytes hbytes hfits => ?_, fun bytes hbytes hlong => ?_, fun e herror => ?_⟩
  · have hwhole := SdpClient.parseAttributeList_serialized hbytes hnesting
    rw [SdpServer.serialized, hbytes] at hwhole ⊢
    change parseAttributeList (bytes.take n) = .ok list
    rwa [List.take_of_length_le hfits]
  · obtain ⟨e, he⟩ := DataElement.fromBytes_take hbytes hlong
    refine ⟨e, ?_⟩
    have hne : bytes.take n ≠ [] := by
      apply List.ne_nil_of_length_pos
      rw [List.length_take]
      omega
    rw [SdpServer.serialized, hbytes]
    change parseAttributeList (bytes.take n) = .error e
    rw [parseAttributeList, if_neg hne, he]
    rfl
  · rw [SdpServer.serialized, herror]
    change parseAttributeList (List.take n []) = .ok []
    rw [List.take_nil]
    rfl

section Record

variable (configuration : HidServiceConfig)

/-- The values of the record are nested at most three deep. -/
theorem nesting_buildHidServiceRecord :
    ∀ entry ∈ buildHidServiceRecord configuration, entry.value.nesting ≤ 3 := by
  have hoptional {α : Type} (id : UInt16) (value : Option α) (element : α → DataElement)
      (helement : ∀ a, (element a).nesting = 0) :
      ∀ entry ∈ optionalAttribute id value element, entry.value.nesting ≤ 3 := by
    intro entry hentry
    cases value with
    | none => cases hentry
    | some a =>
      rw [List.mem_singleton.mp hentry, helement]
      exact Nat.zero_le 3
  simp only [buildHidServiceRecord, List.forall_mem_append]
  refine ⟨⟨⟨⟨⟨⟨⟨?_, hoptional _ _ _ fun _ => rfl⟩, hoptional _ _ _ fun _ => rfl⟩, ?_⟩,
    hoptional _ _ _ fun _ => rfl⟩, ?_⟩, hoptional _ _ _ fun _ => rfl⟩, ?_⟩ <;>
  simp [DataElement.nesting, DataElement.listNesting, textElement, uuid16,
    DataElement.unsignedInteger8, DataElement.unsignedInteger16, DataElement.unsignedInteger32]

/-- A UUID occurs in the record exactly when it is one of those of the service. -/
theorem isUuidInRecord (uuid : BluetoothUuid) :
    (buildHidServiceRecord configuration).any
        (fun entry => ServiceAttribute.isUuidInValue uuid entry.value) =
      hidUuids.any (·.same uuid) := by
  have hoptional {α : Type} (id : UInt16) (value : Option α) (element : α → DataElement)
      (helement : ∀ a, ServiceAttribute.isUuidInValue uuid (element a) = false) :
      (optionalAttribute id value element).any
        (fun entry => ServiceAttribute.isUuidInValue uuid entry.value) = false := by
    cases value with
    | none => rfl
    | some a => simp [optionalAttribute, helement]
  simp only [buildHidServiceRecord, List.any_append]
  rw [hoptional _ _ _ fun _ => rfl, hoptional _ _ _ fun _ => rfl, hoptional _ _ _ fun _ => rfl,
    hoptional _ _ _ fun _ => rfl]
  rw [Bool.eq_iff_iff]
  simp only [hidUuids, ServiceAttribute.isUuidInValue, ServiceAttribute.isUuidInElements,
    textElement, uuid16, DataElement.unsignedInteger8, DataElement.unsignedInteger16,
    DataElement.unsignedInteger32, List.any_cons, List.any_nil, Bool.or_false, Bool.false_or,
    Bool.or_eq_true]
  tauto

/-- A peer of the device, and a client of the server behind its channel. -/
theorem sameServer_peer {mtu : UInt16} (hmtu : 11 ≤ mtu) :
    (HidSdpChannel.peer configuration mtu).SameServer
      (.new (HidSdpChannel.new configuration mtu).server) :=
  ⟨⟨rfl, UInt16.le_iff_toNat_le.mp hmtu⟩, rfl⟩

/-- A search by UUIDs. -/
theorem matchServices_searchPattern (server : SdpServer) (uuids : List BluetoothUuid) :
    server.matchServices (searchPattern uuids) = server.records.filter fun record =>
      uuids.any fun uuid => record.attributes.any fun entry =>
        ServiceAttribute.isUuidInValue uuid entry.value := by
  simp only [SdpServer.matchServices, searchPattern, sequenceElements, List.filterMap_map,
    Function.comp_def, List.filterMap_some]

/-- **Which searches find the service**, of those that can be sent: those with one of its UUIDs, in
any width. -/
theorem record_found (mtu : UInt16) (hmtu : 15 ≤ mtu) (uuids : List BluetoothUuid)
    (huuids : (ClientCall.searchServices uuids).Sendable) :
    (SdpClient.searchServices uuids (HidSdpChannel.peer configuration mtu)).1 =
      .ok (if uuids.any fun uuid => hidUuids.any (·.same uuid) then [hidServiceRecordHandle]
        else []) := by
  have hmtu' := UInt16.le_iff_toNat_le.mp hmtu
  have hover := (ClientCall.searchServices_couples huuids _ _
    (sameServer_peer configuration (UInt16.le_trans (by decide) hmtu))).1.eq
  have hhandles : (SdpClient.new (HidSdpChannel.new configuration mtu).server).handlesAnswer uuids =
      if uuids.any fun uuid => hidUuids.any (·.same uuid) then [hidServiceRecordHandle]
      else [] := by
    rw [SdpClient.handlesAnswer, matchServices_searchPattern]
    simp only [SdpClient.new, HidSdpChannel.new, SdpServer.addService, SdpServer.new,
      List.nil_append, List.filter_cons, List.filter_nil, isUuidInRecord]
    split <;> rfl
  rw [hover, SdpClient.searchServices_eq, hhandles]
  refine congrArg Except.ok (List.take_of_length_le ?_)
  have hroom : 1 ≤ continuationWatchdog * ((mtu.toNat - 11) / 4) := by
    rw [continuationWatchdog]
    have hfour : 15 ≤ mtu.toNat := hmtu'
    omega
  split
  · exact hroom
  · exact Nat.zero_le _

/-- What the server serializes for some selectors. -/
theorem listToDataElement_readAttributes (attributeIds : List AttributeId) :
    ServiceAttribute.listToDataElement (readAttributes configuration attributeIds) =
      SdpServer.getServiceAttributes (buildHidServiceRecord configuration)
        (attributeIds.map AttributeId.toDataElement) := by
  rw [readAttributes, SdpServer.getServiceAttributes]

/-- The attributes that some selectors select, and no others. -/
theorem mem_readAttributes {attributeIds : List AttributeId} {entry : ServiceAttribute} :
    entry ∈ readAttributes configuration attributeIds ↔
      entry ∈ buildHidServiceRecord configuration ∧
        ∃ selector ∈ attributeIds, selector.selects entry.id := by
  rw [readAttributes, List.mem_mergeSort, List.flatMap_map]
  simp only [SdpServer.selectAttributes_toDataElement]
  exact SdpServer.mem_selections

/-- **Which attributes a peer gets** by a request that can be sent: all those of the record that its
selectors select, when their wire form fits the rounds of a request; an error when it does not fit;
and none when they have no wire form. -/
theorem record_read (mtu : UInt16) (hmtu : 11 ≤ mtu) (attributeIds : List AttributeId)
    (hids : (ClientCall.getAttributes hidServiceRecordHandle attributeIds).Sendable) :
    let result := (SdpClient.getAttributes hidServiceRecordHandle attributeIds
      (HidSdpChannel.peer configuration mtu)).1
    let written :=
      (ServiceAttribute.listToDataElement (readAttributes configuration attributeIds)).toBytes
    let room := continuationWatchdog * (mtu.toNat - 9)
    (∀ entry, entry ∈ readAttributes configuration attributeIds ↔
      entry ∈ buildHidServiceRecord configuration ∧
        ∃ selector ∈ attributeIds, selector.selects entry.id) ∧
    (∀ bytes, written = .ok bytes → bytes.length ≤ room →
      result = .ok (readAttributes configuration attributeIds)) ∧
    (∀ bytes, written = .ok bytes → room < bytes.length → ∃ e, result = .error (.parse e)) ∧
    (∀ e, written = .error e → result = .ok []) := by
  intro result written room
  have hroom : 0 < room := by
    have hmtu' : 11 ≤ mtu.toNat := UInt16.le_iff_toNat_le.mp hmtu
    simp only [room, continuationWatchdog]
    omega
  have hresult : result = (parseAttributeList ((SdpServer.serialized
      (ServiceAttribute.listToDataElement (readAttributes configuration attributeIds))).take
        room)).mapError .parse := by
    have hover := (ClientCall.getAttributes_couples hids _ _
      (sameServer_peer configuration hmtu)).1.eq
    have hrecord : (HidSdpChannel.new configuration mtu).server.records.find?
        (·.handle = hidServiceRecordHandle) =
          some { handle := hidServiceRecordHandle,
                 attributes := buildHidServiceRecord configuration } :=
      rfl
    have hdirect := SdpClient.getAttributes_eq (.new (HidSdpChannel.new configuration mtu).server)
      attributeIds hrecord
    rw [show (SdpClient.new (HidSdpChannel.new configuration mtu).server).transport.mtu = mtu
      from rfl, ← listToDataElement_readAttributes] at hdirect
    exact hover.trans hdirect
  have hnesting : (ServiceAttribute.listToDataElement
      (readAttributes configuration attributeIds)).nesting ≤ maxNesting := by
    rw [listToDataElement_readAttributes]
    exact (SdpServer.nesting_getServiceAttributes (nesting_buildHidServiceRecord configuration)
      (attributeIds.map AttributeId.toDataElement)).trans (by decide)
  obtain ⟨hwhole, hpart, hnone⟩ := parseAttributeList_piece hnesting hroom
  rw [hresult]
  refine ⟨fun entry => mem_readAttributes configuration, fun bytes hbytes hfits => ?_,
    fun bytes hbytes hlong => ?_, fun e herror => ?_⟩
  · rw [hwhole bytes hbytes hfits]
    rfl
  · obtain ⟨e, he⟩ := hpart bytes hbytes hlong
    exact ⟨e, by rw [he]; rfl⟩
  · rw [hnone e herror]
    rfl

end Record

theorem record_found_plain :
    (SdpClient.searchServices [.fromU16 0x1002]
      (HidSdpChannel.peer HidSdpChannel.plainConfiguration 48)).1 = .ok [hidServiceRecordHandle] :=
  record_found HidSdpChannel.plainConfiguration 48 (by decide) [.fromU16 0x1002]
    ⟨_, rfl, by decide⟩

theorem record_read_plain :
    (SdpClient.getAttributes hidServiceRecordHandle [.id 0x0206]
      (HidSdpChannel.peer HidSdpChannel.plainConfiguration 48)).1 =
        .ok (readAttributes HidSdpChannel.plainConfiguration [.id 0x0206]) := by
  have hread : readAttributes HidSdpChannel.plainConfiguration [.id 0x0206] =
      [⟨0x0206, .sequence [.sequence [.unsignedInteger8 0x22, .textString []]]⟩] :=
    List.mergeSort_singleton _
  refine (record_read HidSdpChannel.plainConfiguration 48 (by decide) [.id 0x0206]
    ⟨_, rfl, by decide⟩).2.1 [0x35, 11, 9, 2, 6, 0x35, 6, 0x35, 4, 8, 0x22, 0x25, 0] ?_ (by decide)
  rw [hread]
  decide

end ClassicHid
