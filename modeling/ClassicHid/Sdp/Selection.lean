import ClassicHid.Sdp.Client

/-!
# The selection of attributes

The server matches the selectors of a request one by one and sorts what they select. Each attribute
of a record is in the answer once for every selector that selects it.

## Main definitions

* `AttributeId.selects`: the identifiers of a selector

## Main results

* `SdpServer.selectAttributes_toDataElement`: the size of a selector tells which kind it is
* `SdpServer.selected_attributes`: what the answer to a list of selectors holds
-/

namespace ClassicHid

open Foundation

/-- The identifiers of a selector. -/
def AttributeId.selects : AttributeId → UInt16 → Bool
  | .id value, candidate => candidate = value
  | .range start last, candidate => start ≤ candidate && candidate ≤ last

namespace SdpServer

/-- The upper half of a range is its start. -/
theorem toNat_range (start last : UInt16) :
    ((start.toUInt32 <<< 16) ||| last.toUInt32).toNat = start.toNat * 65536 + last.toNat := by
  have hstart := start.toNat_lt
  have hlast := last.toNat_lt
  rw [UInt32.toNat_or, UInt32.toNat_shiftLeft, UInt16.toNat_toUInt32, UInt16.toNat_toUInt32]
  have hshift : start.toNat <<< (UInt32.toNat 16 % 32) % 2 ^ 32 = start.toNat <<< 16 := by
    rw [show UInt32.toNat 16 % 32 = 16 from rfl, Nat.shiftLeft_eq]
    omega
  rw [hshift, ← Nat.shiftLeft_add_eq_or_of_lt hlast, Nat.shiftLeft_eq]

/-- The server reads a selector as the client wrote it. -/
theorem selectAttributes_toDataElement (service : List ServiceAttribute) (selector : AttributeId) :
    selectAttributes service selector.toDataElement =
      service.filter fun entry => selector.selects entry.id := by
  cases selector with
  | id value =>
    rw [AttributeId.toDataElement, DataElement.unsignedInteger16, selectAttributes]
    simp only [UInt16.ofNat_toNat, show (2 : UInt8) ≠ 4 by decide, if_false]
    apply List.filter_congr
    intro entry _
    rw [AttributeId.selects, ← Bool.decide_and, decide_eq_decide, UInt16.le_iff_toNat_le,
      UInt16.le_iff_toNat_le, ← UInt16.toNat_inj]
    omega
  | range start last =>
    have hlast := last.toNat_lt
    have hread : UInt16.ofNat ((start.toNat * 65536 + last.toNat) / 65536) = start ∧
        UInt16.ofNat (start.toNat * 65536 + last.toNat) = last := by
      constructor
      · rw [show (start.toNat * 65536 + last.toNat) / 65536 = start.toNat by omega,
          UInt16.ofNat_toNat]
      · apply UInt16.toNat_inj.mp
        rw [UInt16.toNat_ofNat']
        omega
    rw [AttributeId.toDataElement, DataElement.unsignedInteger32, selectAttributes, toNat_range]
    simp only [hread.1, hread.2, if_true]
    rfl

/-- What a list of selectors selects, before it is sorted. -/
def selections (service : List ServiceAttribute) (selectors : List AttributeId) :
    List ServiceAttribute :=
  selectors.flatMap fun selector => service.filter fun entry => selector.selects entry.id

theorem mem_selections {service : List ServiceAttribute} {selectors : List AttributeId}
    {entry : ServiceAttribute} :
    entry ∈ selections service selectors ↔
      entry ∈ service ∧ ∃ selector ∈ selectors, selector.selects entry.id := by
  simp only [selections, List.mem_flatMap, List.mem_filter]
  constructor
  · rintro ⟨selector, hselector, hentry, hselects⟩
    exact ⟨hentry, selector, hselector, hselects⟩
  · rintro ⟨hentry, selector, hselector, hselects⟩
    exact ⟨selector, hselector, hentry, hselects⟩

/-- An attribute is selected once by every selector of its identifier. -/
theorem count_selections {service : List ServiceAttribute} (hdistinct : (service.map (·.id)).Nodup)
    {entry : ServiceAttribute} (hentry : entry ∈ service) (selectors : List AttributeId) :
    ((selections service selectors).map (·.id)).count entry.id =
      selectors.countP (·.selects entry.id) := by
  have hone : (service.map (·.id)).count entry.id = 1 := by
    rw [hdistinct.count, if_pos (List.mem_map_of_mem hentry)]
  induction selectors with
  | nil => rfl
  | cons selector selectors ih =>
    have hfilter : ((service.filter fun entry => selector.selects entry.id).map (·.id)).count
        entry.id = if selector.selects entry.id then 1 else 0 := by
      have hmap : (service.filter fun entry => selector.selects entry.id).map (·.id) =
          (service.map (·.id)).filter selector.selects := by
        rw [List.filter_map]
        rfl
      rw [hmap]
      split
      · rename_i hselects
        rw [List.count_filter hselects, hone]
      · rename_i hselects
        rw [List.count_eq_zero]
        exact fun hmem => hselects (List.mem_filter.mp hmem).2
    rw [selections, List.flatMap_cons, List.map_append, List.count_append, hfilter,
      List.countP_cons, ← ih, selections, Nat.add_comm]

/-- A sorted list is strictly increasing when nothing in it is repeated. -/
theorem pairwise_lt_iff_of_pairwise_le {l : List UInt16} (h : l.Pairwise (· ≤ ·)) :
    l.Pairwise (· < ·) ↔ l.Nodup := by
  constructor
  · exact List.Pairwise.imp fun hlt => UInt16.ne_of_lt hlt
  · intro hnodup
    refine (h.and hnodup).imp ?_
    rintro a b ⟨hle, hne⟩
    exact UInt16.lt_of_le_of_ne hle hne

/-- **The answer to a list of selectors**: a flat sequence of attributes of the record, in the order
of their identifiers, that holds the selected attributes and no others, each as often as there are
selectors of its identifier; so no identifier is repeated exactly when no two selectors share one
of the record's. -/
theorem selected_attributes (service : List ServiceAttribute)
    (hdistinct : (service.map (·.id)).Nodup) (selectors : List AttributeId) :
    ∃ selected : List ServiceAttribute,
      getServiceAttributes service (selectors.map AttributeId.toDataElement) =
        ServiceAttribute.listToDataElement selected ∧
      (selected.map (·.id)).Pairwise (· ≤ ·) ∧
      (∀ entry, entry ∈ selected ↔
        entry ∈ service ∧ ∃ selector ∈ selectors, selector.selects entry.id) ∧
      (∀ entry ∈ service, (selected.map (·.id)).count entry.id =
        selectors.countP (·.selects entry.id)) ∧
      ((selected.map (·.id)).Pairwise (· < ·) ↔
        ∀ entry ∈ service, selectors.countP (·.selects entry.id) ≤ 1) := by
  let selected := (selections service selectors).mergeSort fun a b => a.id ≤ b.id
  have hperm : selected.Perm (selections service selectors) := List.mergeSort_perm _ _
  have hmem (entry : ServiceAttribute) : entry ∈ selected ↔
      entry ∈ service ∧ ∃ selector ∈ selectors, selector.selects entry.id :=
    hperm.mem_iff.trans mem_selections
  have hcount (entry : ServiceAttribute) (hentry : entry ∈ service) :
      (selected.map (·.id)).count entry.id = selectors.countP (·.selects entry.id) := by
    rw [(hperm.map _).count_eq, count_selections hdistinct hentry]
  have hsorted : (selected.map (·.id)).Pairwise (· ≤ ·) := by
    rw [List.pairwise_map]
    refine (List.pairwise_mergeSort ?_ ?_ _).imp fun h => of_decide_eq_true h
    · simp only [decide_eq_true_eq]
      exact fun a b c => UInt16.le_trans
    · simp only [Bool.or_eq_true, decide_eq_true_eq]
      exact fun a b => UInt16.le_total _ _
  refine ⟨selected, ?_, hsorted, hmem, hcount, ?_⟩
  · rw [getServiceAttributes, List.flatMap_map]
    simp only [selectAttributes_toDataElement]
    rfl
  · rw [pairwise_lt_iff_of_pairwise_le hsorted, List.nodup_iff_count]
    constructor
    · intro hnodup entry hentry
      rw [← hcount entry hentry]
      exact hnodup entry.id
    · intro hone id
      by_cases hid : id ∈ selected.map (·.id)
      · obtain ⟨entry, hentry, rfl⟩ := List.mem_map.mp hid
        have hentry := ((hmem entry).mp hentry).1
        rw [hcount entry hentry]
        exact hone entry hentry
      · rw [List.count_eq_zero_of_not_mem hid]
        exact Nat.zero_le 1

/-- Two selectors of the one attribute of a record. -/
theorem selected_attributes_overlap : ∃ selected : List ServiceAttribute,
    getServiceAttributes [⟨0, .boolean true⟩] [.unsignedInteger16 0, .unsignedInteger32 0xFFFF] =
      ServiceAttribute.listToDataElement selected ∧ (selected.map (·.id)).count 0 = 2 := by
  obtain ⟨selected, hselected, _, _, hcount, _⟩ :=
    selected_attributes [⟨0, .boolean true⟩] (by decide) [.id 0, .range 0 0xFFFF]
  exact ⟨selected, hselected, (hcount _ (List.mem_singleton_self _)).trans (by decide)⟩

/-- An attribute in two selectors is in the answer twice. -/
theorem overlapping_selectors_repeat :
    ([(⟨0, .boolean true⟩ : ServiceAttribute)].map (·.id)).Nodup ∧
      ¬ ∃ selected : List ServiceAttribute,
        getServiceAttributes [⟨0, .boolean true⟩]
            ([.id 0, .range 0 0xFFFF].map AttributeId.toDataElement) =
          ServiceAttribute.listToDataElement selected ∧
        (selected.map (·.id)).Pairwise (· < ·) := by
  refine ⟨by decide, ?_⟩
  rintro ⟨selected, hselected, hstrict⟩
  have hanswer : getServiceAttributes [⟨0, .boolean true⟩]
      ([AttributeId.id 0, .range 0 0xFFFF].map AttributeId.toDataElement) =
        ServiceAttribute.listToDataElement [⟨0, .boolean true⟩, ⟨0, .boolean true⟩] := by
    rw [getServiceAttributes, List.flatMap_map]
    simp only [selectAttributes_toDataElement]
    rw [List.mergeSort_of_pairwise]
    · rfl
    · decide
  rw [hanswer] at hselected
  have hentries := congrArg
    (fun list => ServiceAttribute.listFromDataElements (sequenceElements list)) hselected
  simp only [ServiceAttribute.listFromDataElements_listToDataElement] at hentries
  rw [← hentries] at hstrict
  exact absurd hstrict (by decide)

end SdpServer

end ClassicHid
