import ClassicHid.Foundation.MapSum
import ClassicHid.Host.Basic

/-!
# The credits of the controller

What each operation on the ACL credits does to the packets the controller holds and to the
queue.

## Main definitions

* `AclFlow.held`: the packets the controller holds, counted exactly
* `AclFlow.count`: the packets of one handle among them
* `AclFlow.Sound`: no more packets are held than the controller has room for, and no entry is
  empty

## Main results

* `AclFlow.flush_queue`, `AclFlow.release_spec`: what handing over queued packets does
* `AclFlow.complete_spec`: what an accepted completion does
-/

namespace ClassicHid

open Foundation
open Std (ExtTreeMap LawfulEqOrd ReflOrd)

/-- The number of packets of a handle. -/
def countHandle (handle : UInt16) (packets : List AclPacket) : ℕ :=
  (packets.filter (·.connectionHandle = handle)).length

@[simp] theorem countHandle_nil (handle : UInt16) : countHandle handle [] = 0 := rfl

theorem countHandle_cons (handle : UInt16) (packet : AclPacket) (packets : List AclPacket) :
    countHandle handle (packet :: packets) =
      (if packet.connectionHandle = handle then 1 else 0) + countHandle handle packets := by
  simp only [countHandle, List.filter_cons, decide_eq_true_eq]
  split
  · rw [List.length_cons, Nat.add_comm]
  · rw [Nat.zero_add]

@[simp] theorem countHandle_append (handle : UInt16) (l₁ l₂ : List AclPacket) :
    countHandle handle (l₁ ++ l₂) = countHandle handle l₁ + countHandle handle l₂ := by
  simp [countHandle]

/-- A sum of 16-bit integers that fits 16 bits is exact. -/
theorem toNat_sum_uint16 {l : List UInt16} (h : (l.map UInt16.toNat).sum < 65536) :
    l.sum.toNat = (l.map UInt16.toNat).sum := by
  induction l with
  | nil => rfl
  | cons x l ih =>
    rw [List.map_cons, List.sum_cons] at h ⊢
    rw [List.sum_cons, UInt16.toNat_add, ih (by omega)]
    exact Nat.mod_eq_of_lt h

namespace AclFlow

/-- The packets the controller holds. -/
def held (flow : AclFlow) : ℕ := mapSum UInt16.toNat flow.inFlight

/-- The packets of one handle the controller holds. -/
def count (flow : AclFlow) (handle : UInt16) : ℕ := ((flow.inFlight[handle]?).getD 0).toNat

/-- The credits add up: the controller holds no more packets than it has room for, and every
entry counts at least one. -/
structure Sound (flow : AclFlow) : Prop where
  held_le : flow.held ≤ flow.totalPackets.toNat
  positive : ∀ (handle n : UInt16), flow.inFlight[handle]? = some n → 1 ≤ n.toNat

variable {flow : AclFlow}

theorem count_eq_elim (flow : AclFlow) (handle : UInt16) :
    flow.count handle = (flow.inFlight[handle]?).elim 0 UInt16.toNat := by
  rw [count]
  cases flow.inFlight[handle]? <;> rfl

theorem count_le_held (flow : AclFlow) (handle : UInt16) : flow.count handle ≤ flow.held := by
  rw [count_eq_elim, held, ← mapSum_erase UInt16.toNat flow.inFlight handle]
  omega

/-- **No overflow**: the 16-bit sum of the entries is exact. -/
theorem Sound.toNat_inFlightTotal (h : flow.Sound) : flow.inFlightTotal.toNat = flow.held := by
  have hlt := flow.totalPackets.toNat_lt
  have hle := h.held_le
  rw [held, mapSum] at hle
  rw [inFlightTotal, toNat_sum_uint16, held, mapSum, List.map_map]
  · rfl
  · rw [List.map_map]
    exact Nat.lt_of_le_of_lt hle hlt

theorem Sound.lt_total_iff (h : flow.Sound) :
    flow.inFlightTotal < flow.totalPackets ↔ flow.held < flow.totalPackets.toNat := by
  rw [UInt16.lt_iff_toNat_lt, h.toNat_inFlightTotal]

/-! ### Taking a credit -/

theorem held_take (hlt : flow.held < flow.totalPackets.toNat)
    (handle : UInt16) :
    (flow.take handle).held = flow.held + 1 ∧
      ∀ k, (flow.take handle).count k = flow.count k + if handle = k then 1 else 0 := by
  have hbound := flow.totalPackets.toNat_lt
  have hcount := flow.count_le_held handle
  have hnew : ((flow.inFlight[handle]?).getD 0 + 1).toNat = flow.count handle + 1 := by
    rw [UInt16.toNat_add, count]
    exact Nat.mod_eq_of_lt (by rw [← count]; simp; omega)
  constructor
  · have hsum := mapSum_insert UInt16.toNat flow.inFlight handle
      ((flow.inFlight[handle]?).getD 0 + 1)
    rw [← count_eq_elim, hnew] at hsum
    simp only [held, take]
    omega
  · intro k
    simp only [count, take, ExtTreeMap.getElem?_insert]
    split
    · rename_i heq
      have := LawfulEqOrd.eq_of_compare heq
      subst this
      rw [Option.getD_some, hnew, if_pos rfl, count]
    · rename_i hne
      rw [if_neg]
      · rfl
      · rintro rfl
        exact hne ReflOrd.compare_self

theorem Sound.take (h : flow.Sound) (hlt : flow.held < flow.totalPackets.toNat)
    (handle : UInt16) : (flow.take handle).Sound := by
  obtain ⟨hheld, hcount⟩ := held_take hlt handle
  constructor
  · rw [hheld]
    exact hlt
  · intro k n hn
    have hk := hcount k
    rw [count, hn, Option.getD_some] at hk
    rcases hold : flow.inFlight[k]? with _ | m
    · rw [count, hold] at hk
      simp only [AclFlow.take, ExtTreeMap.getElem?_insert, hold] at hn
      split at hn
      · rename_i heq
        have := LawfulEqOrd.eq_of_compare heq
        subst this
        rw [if_pos rfl] at hk
        omega
      · cases hn
    · have hm := h.positive k m hold
      rw [count, hold, Option.getD_some] at hk
      omega

/-! ### Handing over -/

/-- The queue is what was handed over and what is left; the sizes of the controller stay. -/
theorem release_queue (flow : AclFlow) (queued : List AclPacket) :
    (flow.release queued).2 ++ (flow.release queued).1.queued = queued ∧
      (flow.release queued).1.totalPackets = flow.totalPackets ∧
      (flow.release queued).1.payloadSize = flow.payloadSize := by
  induction queued generalizing flow with
  | nil => exact ⟨rfl, rfl, rfl⟩
  | cons packet queued ih =>
    simp only [release]
    split
    · obtain ⟨hq, ht, hp⟩ := ih (flow.take packet.connectionHandle)
      exact ⟨congrArg (packet :: ·) hq, ht, hp⟩
    · exact ⟨rfl, rfl, rfl⟩

theorem flush_queue (flow : AclFlow) : flow.flush.2 ++ flow.flush.1.queued = flow.queued :=
  (flow.release_queue flow.queued).1

theorem totalPackets_flush (flow : AclFlow) : flow.flush.1.totalPackets = flow.totalPackets :=
  (flow.release_queue flow.queued).2.1

theorem payloadSize_flush (flow : AclFlow) : flow.flush.1.payloadSize = flow.payloadSize :=
  (flow.release_queue flow.queued).2.2

/-- Each packet handed over is counted, and packets are left only when the controller is full. -/
theorem release_spec (h : flow.Sound) (queued : List AclPacket) :
    (flow.release queued).1.Sound ∧
      (∀ k, (flow.release queued).1.count k =
        flow.count k + countHandle k (flow.release queued).2) ∧
      ((flow.release queued).1.queued = [] ∨
        (flow.release queued).1.held = flow.totalPackets.toNat) := by
  induction queued generalizing flow with
  | nil => exact ⟨⟨h.held_le, h.positive⟩, fun k => rfl, .inl rfl⟩
  | cons packet queued ih =>
    simp only [release]
    split
    · rename_i hlt
      rw [h.lt_total_iff] at hlt
      obtain ⟨hs, hc, hfull⟩ := ih (h.take hlt packet.connectionHandle)
      refine ⟨hs, fun k => ?_, hfull⟩
      rw [hc k, (held_take hlt packet.connectionHandle).2 k, countHandle_cons]
      omega
    · rename_i hge
      rw [h.lt_total_iff] at hge
      have hle := h.held_le
      refine ⟨⟨h.held_le, h.positive⟩, fun k => rfl, .inr ?_⟩
      show flow.held = _
      omega

/-! ### Returning credits -/

/-- A completion leaves the queue and the sizes of the controller. -/
theorem complete_queue {handle completed : UInt16} {flow' : AclFlow} {r : Except HostError Unit}
    (hc : complete handle completed flow = (r, flow')) :
    flow'.queued = flow.queued ∧ flow'.totalPackets = flow.totalPackets ∧
      flow'.payloadSize = flow.payloadSize := by
  simp only [complete] at hc
  repeat' split at hc
  all_goals
    cases hc
    exact ⟨rfl, rfl, rfl⟩

/-- An accepted completion returns its credits. -/
theorem complete_spec {handle completed : UInt16} {flow' : AclFlow} (h : flow.Sound)
    (hc : complete handle completed flow = (.ok (), flow')) :
    flow'.Sound ∧
      ∀ k, flow'.count k + (if handle = k then completed.toNat else 0) = flow.count k := by
  simp only [complete] at hc
  split at hc
  · cases hc
  rename_i hle
  rw [UInt16.not_lt, UInt16.le_iff_toNat_le] at hle
  have hsub : ((flow.inFlight[handle]?).getD 0 - completed).toNat =
      flow.count handle - completed.toNat := by
    rw [UInt16.toNat_sub_of_le _ _ (by rw [UInt16.le_iff_toNat_le]; exact hle), count]
  have hsum := mapSum_erase UInt16.toNat flow.inFlight handle
  have hheld := h.held_le
  rw [← count_eq_elim] at hsum
  rw [held] at hheld
  rw [← count] at hle
  split at hc
  · rename_i hzero
    cases hc
    rw [← UInt16.toNat_inj, hsub] at hzero
    have hz : flow.count handle = completed.toNat := by
      have : flow.count handle - completed.toNat = 0 := hzero
      omega
    refine ⟨⟨?_, ?_⟩, ?_⟩
    · simp only [held]
      omega
    · intro k n hn
      simp only [ExtTreeMap.getElem?_erase] at hn
      split at hn
      · cases hn
      · exact h.positive k n hn
    · intro k
      by_cases hk : handle = k
      · subst hk
        rw [if_pos rfl, count, ExtTreeMap.getElem?_erase_self, ← hz]
        exact Nat.zero_add _
      · rw [if_neg hk, count, ExtTreeMap.getElem?_erase, if_neg (by simpa using hk)]
        rfl
  · rename_i hne
    cases hc
    rw [← UInt16.toNat_inj, hsub] at hne
    have hpos : 0 < flow.count handle - completed.toNat := Nat.pos_of_ne_zero hne
    refine ⟨⟨?_, ?_⟩, ?_⟩
    · have hins := mapSum_insert UInt16.toNat flow.inFlight handle
        ((flow.inFlight[handle]?).getD 0 - completed)
      rw [← count_eq_elim, hsub] at hins
      simp only [held]
      omega
    · intro k n hn
      simp only [ExtTreeMap.getElem?_insert] at hn
      split at hn
      · cases hn
        omega
      · exact h.positive k n hn
    · intro k
      by_cases hk : handle = k
      · subst hk
        rw [if_pos rfl, count, ExtTreeMap.getElem?_insert_self, Option.getD_some, hsub]
        omega
      · rw [if_neg hk, count, ExtTreeMap.getElem?_insert, if_neg (by simpa using hk)]
        rfl

theorem Sound.enqueue (h : flow.Sound) (packets : List AclPacket) : (flow.enqueue packets).Sound :=
  ⟨h.held_le, h.positive⟩

/-- Clearing a handle drops its credits and its queued packets, and nothing else. -/
theorem clearHandle_spec (h : flow.Sound) (handle : UInt16) :
    (flow.clearHandle handle).Sound ∧
      ∀ k, (flow.clearHandle handle).count k = if handle = k then 0 else flow.count k := by
  constructor
  · constructor
    · have hsum := mapSum_erase UInt16.toNat flow.inFlight handle
      have hle := h.held_le
      simp only [held, clearHandle] at hle ⊢
      omega
    · intro k n hn
      simp only [clearHandle, ExtTreeMap.getElem?_erase] at hn
      split at hn
      · cases hn
      · exact h.positive k n hn
  · intro k
    simp only [count, clearHandle, ExtTreeMap.getElem?_erase]
    by_cases hk : handle = k
    · subst hk
      simp
    · rw [if_neg (by simpa using hk), if_neg hk]

theorem sound_new (payloadSize : ℕ) (totalPackets : UInt16) :
    (AclFlow.new payloadSize totalPackets).Sound :=
  ⟨by simp [held, AclFlow.new], by simp [AclFlow.new]⟩

end AclFlow

end ClassicHid
