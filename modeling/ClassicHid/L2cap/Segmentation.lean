import ClassicHid.L2cap.ErtmOperations

/-!
# Segmentation and reassembly

The segments of an SDU, received in order, are put together to the SDU. Between two segments a
receiver holds the bytes of those it has received and the length that the first one announced.

## Main definitions

* `Assembled`: what a receiver holds after some of the segments of an SDU
* `Reassembly`: the segments that it has not received, and the SDUs that it has not delivered

## Main results

* `ErtmEngine.acceptInformation_segment`: the next segment of an SDU
* `Reassembly.send`: the segments of an SDU join
* `Reassembly.take`: the next segment is received
-/

namespace ClassicHid

open Foundation

variable {mps k : ℕ} {sdu : Bytes} {segment : Segment}

/-- The segments of an SDU that does not fit a frame are those of its parts. -/
theorem getElem?_segments (hmps : mps ≠ 0) (hlong : mps < sdu.length) :
    (segments mps sdu)[k]? =
      if k * mps < sdu.length then some (segmentOf sdu mps ((sdu.drop (k * mps)).take mps, k))
      else none := by
  rw [segments, if_neg (Nat.not_le.mpr hlong), List.getElem?_map, List.getElem?_zipIdx,
    getElem?_chunks hmps, Nat.zero_add]
  split <;> rfl

/-- The segments end with the SDU. -/
theorem lt_length_segments (hmps : mps ≠ 0) (hlong : mps < sdu.length) :
    k < (segments mps sdu).length ↔ k * mps < sdu.length := by
  rw [← Nat.not_le, ← List.getElem?_eq_none_iff, getElem?_segments hmps hlong]
  split
  · rename_i hk
    exact ⟨fun _ => hk, fun _ => nofun⟩
  · rename_i hk
    exact ⟨fun h => absurd rfl h, fun h => absurd h hk⟩

/-- There is always a segment. -/
theorem length_segments_pos (hmps : mps ≠ 0) (sdu : Bytes) : 0 < (segments mps sdu).length := by
  rcases Nat.lt_or_ge mps sdu.length with hlong | hshort
  · rw [lt_length_segments hmps hlong]
    omega
  · rw [segments, if_pos hshort]
    exact Nat.one_pos

/-- What is held of an SDU after `k` of its segments. -/
def Assembled (mps : ℕ) (sdu : Bytes) (k : ℕ) (input : Bytes) (length : Option ℕ) : Prop :=
  if k = 0 then input = [] ∧ length = none
  else input = sdu.take (k * mps) ∧ length = some sdu.length

namespace ErtmEngine

variable {e e' : ErtmEngine}

/-- What the next segment of an SDU leaves: more of the SDU is held, or it is delivered. -/
def Accepts (mps : ℕ) (sdu : Bytes) (k : ℕ) (e e' : ErtmEngine) : Prop :=
  k + 1 < (segments mps sdu).length ∧ Assembled mps sdu (k + 1) e'.inputSdu e'.inputSduLength ∧
      e'.received = e.received ∨
    k + 1 = (segments mps sdu).length ∧ e'.inputSdu = [] ∧ e'.inputSduLength = none ∧
      e'.received = e.received ++ [sdu]

theorem inputStarted_eq_false (hinput : e.inputSdu = []) (hlength : e.inputSduLength = none) :
    e.inputStarted ≠ true := by
  rw [inputStarted, hinput, hlength]
  decide

/-- An SDU in one frame. -/
theorem acceptInformation_unsegmented (hsdu : sdu.length ≤ e.config.localMtu.toNat)
    (hshort : sdu.length ≤ mps) (hinput : e.inputSdu = []) (hlength : e.inputSduLength = none) :
    ∃ e', acceptInformation .unsegmented sdu e = (.ok (), e') ∧ Accepts mps sdu 0 e e' := by
  refine ⟨{ e with received := e.received ++ [sdu] }, ?_, .inr ⟨?_, hinput, hlength, rfl⟩⟩
  · rw [acceptInformation, Exec.get_bind]
    dsimp only
    rw [if_neg (inputStarted_eq_false hinput hlength), if_neg (Nat.not_lt.mpr hsdu)]
    rfl
  · rw [segments, if_pos hshort]
    rfl

/-- An SDU that is not complete is kept. -/
theorem checkPartialLength_eq {length : ℕ} (hlength : e.inputSduLength = some length)
    (hshort : e.inputSdu.length < length) : checkPartialLength e = (.ok (), e) := by
  have hkeep : ¬ (e.inputSduLength.any (e.inputSdu.length ≥ ·)) = true := by
    rw [hlength]
    simpa using hshort
  rw [checkPartialLength, Exec.get_bind, if_neg hkeep]
  rfl

/-- The first segment of several. -/
theorem acceptInformation_start (hmps : mps ≠ 0) (hsdu : sdu.length ≤ e.config.localMtu.toNat)
    (hlong : mps < sdu.length) (hinput : e.inputSdu = []) (hlength : e.inputSduLength = none) :
    ∃ e', acceptInformation .start (toLe16 (UInt16.ofNat sdu.length) ++ sdu.take mps) e =
      (.ok (), e') ∧ Accepts mps sdu 0 e e' := by
  have hnat : (UInt16.ofNat sdu.length).toNat = sdu.length := by
    have hmtu := e.config.localMtu.toNat_lt
    exact UInt16.toNat_ofNat_of_lt' (Nat.lt_of_le_of_lt hsdu hmtu)
  have htwo : ¬ (toLe16 (UInt16.ofNat sdu.length) ++ sdu.take mps).length < 2 := by
    simp [toLe16]
  have hdrop : (toLe16 (UInt16.ofNat sdu.length) ++ sdu.take mps).drop 2 = sdu.take mps := rfl
  refine ⟨{ e with inputSduLength := some sdu.length, inputSdu := sdu.take mps }, ?_,
    .inl ⟨?_, ?_, rfl⟩⟩
  · rw [acceptInformation, Exec.get_bind]
    dsimp only
    rw [if_neg htwo, if_neg (inputStarted_eq_false hinput hlength), le16At_toLe16, hnat,
      if_neg (Nat.not_lt.mpr hsdu), hdrop, extendInput, Exec.modify_bind, Exec.modify_bind]
    dsimp only
    rw [hinput, List.nil_append]
    refine checkPartialLength_eq rfl ?_
    rw [List.length_take]
    omega
  · rw [lt_length_segments hmps hlong, Nat.one_mul]
    exact hlong
  · rw [Assembled, if_neg (Nat.succ_ne_zero 0), Nat.zero_add, Nat.one_mul]
    exact ⟨rfl, rfl⟩

/-- A segment in the middle. -/
theorem acceptInformation_continuation (hmps : mps ≠ 0) (hlong : mps < sdu.length)
    (hmore : (k + 1) * mps < sdu.length) (hinput : e.inputSdu = sdu.take (k * mps))
    (hlength : e.inputSduLength = some sdu.length) :
    ∃ e', acceptInformation .continuation ((sdu.drop (k * mps)).take mps) e = (.ok (), e') ∧
      Accepts mps sdu k e e' := by
  have hinput' : e.inputSdu ++ (sdu.drop (k * mps)).take mps = sdu.take ((k + 1) * mps) := by
    rw [hinput, Nat.succ_mul, List.take_add]
  refine ⟨{ e with inputSdu := sdu.take ((k + 1) * mps) }, ?_, .inl ⟨?_, ?_, rfl⟩⟩
  · have hstarted : e.inputSduLength.isNone ≠ true := by
      rw [hlength]
      exact Bool.false_ne_true
    rw [acceptInformation, Exec.get_bind]
    dsimp only
    rw [if_neg hstarted, extendInput, Exec.modify_bind, hinput']
    refine checkPartialLength_eq hlength ?_
    rw [List.length_take]
    omega
  · rwa [lt_length_segments hmps hlong]
  · rw [Assembled, if_neg (Nat.succ_ne_zero k)]
    exact ⟨rfl, hlength⟩

/-- The last segment. -/
theorem acceptInformation_end (hmps : mps ≠ 0) (hlong : mps < sdu.length)
    (hk : k * mps < sdu.length) (hlast : sdu.length ≤ (k + 1) * mps)
    (hinput : e.inputSdu = sdu.take (k * mps)) (hlength : e.inputSduLength = some sdu.length) :
    ∃ e', acceptInformation .end ((sdu.drop (k * mps)).take mps) e = (.ok (), e') ∧
      Accepts mps sdu k e e' := by
  have hinput' : e.inputSdu ++ (sdu.drop (k * mps)).take mps = sdu := by
    rw [hinput, ← List.take_add, ← Nat.succ_mul]
    exact List.take_of_length_le hlast
  have hcomplete : ¬ e.inputSdu.length + ((sdu.drop (k * mps)).take mps).length ≠ sdu.length := by
    rw [← List.length_append, hinput']
    exact not_not.mpr rfl
  refine ⟨{ e with received := e.received ++ [sdu], inputSdu := [], inputSduLength := none }, ?_,
    .inr ⟨?_, rfl, rfl, rfl⟩⟩
  · rw [acceptInformation, Exec.get_bind]
    simp only [hlength, extendInput, Exec.modify_bind, hcomplete, if_false, hinput']
    rfl
  · have hmore := (lt_length_segments (k := k) hmps hlong).mpr hk
    have hnone := (lt_length_segments (k := k + 1) hmps hlong).not.mpr (Nat.not_lt.mpr hlast)
    omega

/-- **The next segment of an SDU.** -/
theorem acceptInformation_segment (hmps : mps ≠ 0) (hsdu : sdu.length ≤ e.config.localMtu.toNat)
    (h : Assembled mps sdu k e.inputSdu e.inputSduLength)
    (hsegment : (segments mps sdu)[k]? = some segment) :
    ∃ e', acceptInformation segment.sar (segment.sduLength.elim [] toLe16 ++ segment.payload) e =
      (.ok (), e') ∧ Accepts mps sdu k e e' := by
  rcases Nat.lt_or_ge mps sdu.length with hlong | hshort
  · rw [getElem?_segments hmps hlong] at hsegment
    split at hsegment
    swap
    · cases hsegment
    rename_i hk
    cases hsegment
    rw [Assembled] at h
    split at h
    · rename_i hzero
      subst hzero
      rw [Nat.zero_mul, List.drop_zero]
      exact acceptInformation_start hmps hsdu hlong h.1 h.2
    · rename_i hpos
      have hend : k * mps + ((sdu.drop (k * mps)).take mps).length = sdu.length ↔
          sdu.length ≤ (k + 1) * mps := by
        rw [List.length_take, List.length_drop, Nat.succ_mul]
        omega
      by_cases hlast : sdu.length ≤ (k + 1) * mps
      · simp only [segmentOf, hpos, if_false, hend, hlast, if_true, reduceCtorEq, Option.elim_none,
          List.nil_append]
        exact acceptInformation_end hmps hlong hk hlast h.1 h.2
      · simp only [segmentOf, hpos, if_false, hend, hlast, reduceCtorEq, Option.elim_none,
          List.nil_append]
        exact acceptInformation_continuation hmps hlong (Nat.not_le.mp hlast) h.1 h.2
  · rw [segments, if_pos hshort] at hsegment
    rcases k with _ | k
    · cases hsegment
      exact acceptInformation_unsegmented hsdu hshort h.1 h.2
    · cases hsegment

end ErtmEngine

/-! ### Streams of SDUs -/

/-- Of the SDUs `accepted`, those in `delivered` were delivered; of the first one that was not, `k`
segments were received, and the segments after them are still to come. -/
def Reassembly (mps : ℕ) (coming : List Segment) (accepted delivered : List Bytes) (input : Bytes)
    (length : Option ℕ) : Prop :=
  ∃ waiting k, accepted = delivered ++ waiting ∧
    coming = (waiting.flatMap (segments mps)).drop k ∧
    k < (segments mps (waiting.headD [])).length ∧
    Assembled mps (waiting.headD []) k input length

namespace Reassembly

variable {coming : List Segment} {accepted delivered : List Bytes} {input : Bytes}
  {length : Option ℕ}

theorem initial (mps : ℕ) : Reassembly mps [] [] [] [] none :=
  ⟨[], 0, rfl, rfl, by simp [segments], rfl, rfl⟩

theorem isPrefix (h : Reassembly mps coming accepted delivered input length) :
    delivered <+: accepted := by
  obtain ⟨waiting, _, haccepted, _⟩ := h
  exact ⟨waiting, haccepted.symm⟩

/-- When every SDU was delivered, no segment was received after them. -/
theorem eq_zero_of_nil (hk : k < (segments mps []).length) : k = 0 := by
  simpa [segments] using hk

/-- **The segments of another SDU join.** -/
theorem send (h : Reassembly mps coming accepted delivered input length) (hmps : mps ≠ 0)
    (sdu : Bytes) :
    Reassembly mps (coming ++ segments mps sdu) (accepted ++ [sdu]) delivered input length := by
  obtain ⟨waiting, k, haccepted, hcoming, hk, hassembled⟩ := h
  refine ⟨waiting ++ [sdu], k, by rw [haccepted, List.append_assoc], ?_, ?_, ?_⟩
  · rw [hcoming, List.flatMap_append, List.flatMap_singleton, List.drop_append_of_le_length]
    cases waiting with
    | nil => exact Nat.le_of_eq (eq_zero_of_nil hk)
    | cons first waiting =>
      rw [List.flatMap_cons, List.length_append]
      exact Nat.le_trans (Nat.le_of_lt hk) (Nat.le_add_right _ _)
  · cases waiting with
    | nil =>
      rw [eq_zero_of_nil hk]
      exact length_segments_pos hmps sdu
    | cons first waiting => exact hk
  · cases waiting with
    | nil =>
      rw [eq_zero_of_nil hk] at hassembled ⊢
      exact hassembled
    | cons first waiting => exact hassembled

/-- **The next segment is received.** -/
theorem take {e : ErtmEngine}
    (h : Reassembly mps (segment :: coming) accepted delivered e.inputSdu e.inputSduLength)
    (hmps : mps ≠ 0) (hfits : ∀ sdu ∈ accepted, sdu.length ≤ e.config.localMtu.toNat) :
    ∃ e' new, ErtmEngine.acceptInformation segment.sar
        (segment.sduLength.elim [] toLe16 ++ segment.payload) e = (.ok (), e') ∧
      e'.received = e.received ++ new ∧
      Reassembly mps coming accepted (delivered ++ new) e'.inputSdu e'.inputSduLength := by
  obtain ⟨waiting, k, haccepted, hcoming, hk, hassembled⟩ := h
  rcases waiting with _ | ⟨sdu, waiting⟩
  · rw [List.flatMap_nil, List.drop_nil] at hcoming
    cases hcoming
  rw [List.headD_cons] at hk hassembled
  have hsdu := hfits sdu (by simp [haccepted])
  rw [List.flatMap_cons, List.drop_append_of_le_length (Nat.le_of_lt hk),
    List.drop_eq_getElem_cons hk, List.cons_append] at hcoming
  obtain ⟨hsegment, hcoming⟩ := List.cons.inj hcoming
  have hsegment : (segments mps sdu)[k]? = some segment := by
    rw [hsegment]
    exact List.getElem?_eq_getElem hk
  obtain ⟨e', hrun, haccepts⟩ :=
    ErtmEngine.acceptInformation_segment hmps hsdu hassembled hsegment
  rcases haccepts with ⟨hmore, hassembled', hreceived⟩ | ⟨hlast, hinput, hlength, hreceived⟩
  · refine ⟨e', [], hrun, by rw [hreceived, List.append_nil], sdu :: waiting, k + 1, ?_, ?_, hmore,
      hassembled'⟩
    · rw [List.append_nil, haccepted]
    · rw [List.flatMap_cons, List.drop_append_of_le_length (Nat.le_of_lt hmore)]
      exact hcoming
  · refine ⟨e', [sdu], hrun, hreceived, waiting, 0, ?_, ?_, length_segments_pos hmps _, hinput,
      hlength⟩
    · rw [haccepted, List.append_assoc]
      rfl
    · rw [hcoming, hlast, List.drop_length]
      rfl

end Reassembly

end ClassicHid
