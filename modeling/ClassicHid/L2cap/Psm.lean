import ClassicHid.L2cap.Notice

/-!
# PSMs on the wire

A PSM of more than two bytes is written with one byte for each further 8 bits, and read while the
last byte is odd. The check of a PSM asks that all its bytes but the first are even, so the reader
stops after the second byte of every PSM that passed the check. A longer PSM is cut.

## Main results

* `parsePsm_append`: a PSM is read from where it starts
* `ChannelManager.connectable_psm_survives_iff`: which of the PSMs that can be connected to are read
  back
-/

namespace ClassicHid

open Foundation

theorem getD_append_add (x data : Bytes) (i : ℕ) :
    (x ++ data).getD (x.length + i) 0 = data.getD i 0 := by
  rw [List.getD_eq_getElem?_getD, List.getD_eq_getElem?_getD,
    List.getElem?_append_right (Nat.le_add_right _ _), Nat.add_sub_cancel_left]

theorem parsePsmExtension_append (x data : Bytes) (offset psmLength : ℕ) (psm : UInt32)
    (hlength : 0 < psmLength) :
    parsePsmExtension (x ++ data) (x.length + offset) psmLength psm =
      (parsePsmExtension data offset psmLength psm).map fun read => (x.length + read.1, read.2) := by
  have hlast : x.length + offset + psmLength - 1 = x.length + (offset + psmLength - 1) := by omega
  conv_lhs => rw [parsePsmExtension, hlast, getD_append_add, Nat.add_assoc, getD_append_add]
  conv_rhs => rw [parsePsmExtension]
  split
  · simp only [List.length_append, ge_iff_le, Nat.add_le_add_iff_left]
    split
    · rfl
    · exact parsePsmExtension_append x data offset (psmLength + 1) _ (Nat.succ_pos _)
  · rfl
termination_by data.length - (offset + psmLength)

/-- **A PSM is read from where it starts**, whatever stands before it. -/
theorem parsePsm_append (x data : Bytes) (offset : ℕ) :
    parsePsm (x ++ data) (x.length + offset) =
      (parsePsm data offset).map fun read => (x.length + read.1, read.2) := by
  have hshort : x.length + offset + 2 > (x ++ data).length ↔ offset + 2 > data.length := by
    rw [List.length_append]
    omega
  rw [parsePsm, parsePsm]
  simp only [hshort]
  split
  · rfl
  · rw [parsePsmExtension_append x data offset 2 _ (by decide), Nat.add_assoc, getD_append_add,
      getD_append_add]

theorem length_psmExtension_le {rest n : ℕ} (h : rest < 256 ^ n) :
    (psmExtension rest).length ≤ n := by
  induction n generalizing rest with
  | zero =>
    rw [psmExtension, if_pos (by simpa using h)]
    exact Nat.zero_le 0
  | succ n ih =>
    rw [psmExtension]
    split
    · exact Nat.zero_le _
    · rw [List.length_cons]
      exact Nat.succ_le_succ (ih (Nat.div_lt_of_lt_mul (by rwa [← Nat.pow_succ'])))

theorem length_psmExtension_pos {rest : ℕ} (h : rest ≠ 0) : 0 < (psmExtension rest).length := by
  rw [psmExtension, if_neg h]
  exact Nat.succ_pos _

/-- A PSM has at most four bytes. -/
theorem length_serializePsm_le (psm : UInt32) : (serializePsm psm).length ≤ 4 := by
  have hrange : psm.toNat / 65536 < 256 ^ 2 := by
    have := psm.toNat_lt
    omega
  rw [serializePsm, List.length_append, length_toLe16]
  exact Nat.add_le_add_left (length_psmExtension_le hrange) 2

/-- The bytes of a PSM: two, and more exactly when it does not fit in them. -/
theorem length_serializePsm_eq_two_iff (psm : UInt32) :
    (serializePsm psm).length = 2 ↔ psm.toNat < 0x10000 := by
  rw [serializePsm, List.length_append, length_toLe16]
  constructor
  · intro hlength
    by_contra hlarge
    have hrest : psm.toNat / 65536 ≠ 0 := by omega
    have := length_psmExtension_pos hrest
    omega
  · intro hsmall
    rw [psmExtension, if_pos (by omega)]
    rfl

namespace ChannelManager

variable {psm : UInt32} {m m' : ChannelManager} {cid : UInt16}

/-- A connection request whose PSM was checked is read with the first two bytes of it. -/
theorem fromBytes_connectionRequest (hvalid : validatePsm psm = .ok ()) (identifier : UInt8)
    (sourceCid : UInt16) :
    ∃ sourceCid', ControlFrame.fromBytes
        (ControlFrame.connectionRequest identifier psm sourceCid).toBytes =
      .ok (.connectionRequest identifier (UInt32.ofNat (psm.toNat % 65536)) sourceCid') := by
  have hlength : (ControlFrame.connectionRequest identifier psm sourceCid).payload.length <
      2 ^ 16 := by
    have := length_serializePsm_le psm
    simp only [ControlFrame.payload, List.length_append, length_toLe16]
    omega
  have hread := ControlFrame.parsePsm_of_even (ControlFrame.even_of_validatePsm hvalid)
    (toLe16 sourceCid)
  have hroom : ¬ 2 + 2 > (serializePsm psm ++ toLe16 sourceCid).length := by
    rw [List.length_append, serializePsm, List.length_append, length_toLe16, length_toLe16]
    omega
  refine ⟨le16At (serializePsm psm ++ toLe16 sourceCid) 2, ?_⟩
  rw [ControlFrame.fromBytes_toBytes _ hlength]
  change ControlFrame.parseConnectionRequest identifier (serializePsm psm ++ toLe16 sourceCid) = _
  rw [ControlFrame.parseConnectionRequest, hread]
  change (if 2 + 2 > (serializePsm psm ++ toLe16 sourceCid).length then _ else _) = _
  rw [if_neg hroom]
  rfl

/-- A channel that is begun asks for its PSM. -/
theorem outbound_connect {spec : ClassicChannelSpec} (h : connect psm spec m = (.ok cid, m')) :
    ∃ identifier, m'.outbound = m.outbound ++ [signal (.connectionRequest identifier psm cid)] := by
  rcases connect_spec psm spec m with ⟨error, hrun⟩ | ⟨localCid, identifier, _, hrun⟩
  · cases hrun.symm.trans h
  · cases hrun.symm.trans h
    exact ⟨identifier, rfl⟩

/-- **Which PSMs survive the wire**: of those that can be connected to, the ones of two bytes. -/
theorem connectable_psm_survives_iff (hvalid : validatePsm psm = .ok ()) :
    (∀ x y : Bytes, parsePsm (x ++ serializePsm psm ++ y) x.length =
        .ok (x.length + (serializePsm psm).length, psm) ↔ psm.toNat < 0x10000) ∧
      ∀ m m' cid spec, connect psm spec m = (.ok cid, m') →
        ((∃ identifier pdu, m'.outbound = m.outbound ++ [pdu] ∧
            ControlFrame.fromBytes pdu.payload =
              .ok (.connectionRequest identifier psm cid)) ↔ psm.toNat < 0x10000) := by
  have heven := ControlFrame.even_of_validatePsm hvalid
  -- Cutting a PSM to two bytes leaves it as it is when it has no more.
  have hcut : UInt32.ofNat (psm.toNat % 65536) = psm ↔ psm.toNat < 0x10000 := by
    rw [← UInt32.toNat_inj, UInt32.toNat_ofNat']
    omega
  constructor
  · intro x y
    have hread : parsePsm (x ++ (serializePsm psm ++ y)) x.length =
        .ok (x.length + 2, UInt32.ofNat (psm.toNat % 65536)) := by
      have hread := parsePsm_append x (serializePsm psm ++ y) 0
      rw [ControlFrame.parsePsm_of_even heven] at hread
      exact hread
    rw [List.append_assoc, hread, Except.ok.injEq, Prod.mk.injEq, hcut]
    constructor
    · exact And.right
    · intro hsmall
      rw [(length_serializePsm_eq_two_iff psm).mpr hsmall]
      exact ⟨rfl, hsmall⟩
  · intro m m' cid spec hrun
    obtain ⟨identifier, hout⟩ := outbound_connect hrun
    constructor
    · rintro ⟨identifier', pdu, hpdu, hdecode⟩
      rw [hout, List.append_cancel_left_eq, List.cons.injEq] at hpdu
      rw [← hpdu.1] at hdecode
      obtain ⟨sourceCid, hread⟩ := fromBytes_connectionRequest hvalid identifier cid
      have hsame := hread.symm.trans hdecode
      rw [Except.ok.injEq, ControlFrame.connectionRequest.injEq] at hsame
      exact hcut.mp hsame.2.1
    · intro hsmall
      exact ⟨identifier, _, hout, ControlFrame.connectionRequest_faithful _ _ hsmall hvalid⟩

theorem validatePsm_eq_ok (hodd : psm &&& 1 ≠ 0) (heven : evenBytes (psm.toNat / 256) = true) :
    validatePsm psm = .ok () := by
  rw [validatePsm, if_neg, if_pos heven]
  rintro (rfl | hzero)
  · exact hodd rfl
  · exact hodd hzero

/-- The PSM of HID control is read back, wherever it stands. -/
theorem connectable_psm_survives_hidControl :
    parsePsm ([0xFF] ++ serializePsm 0x0011 ++ [0x40]) 1 =
      .ok (1 + (serializePsm 0x0011).length, 0x0011) := by
  have hvalid : validatePsm 0x0011 = .ok () := validatePsm_eq_ok (by decide) (by simp [evenBytes])
  exact ((connectable_psm_survives_iff hvalid).1 [0xFF] [0x40]).mpr (by decide)

/-- A PSM of three bytes that can be connected to, and is read as two of them. -/
theorem connectable_psm_cut : validatePsm 0x020001 = .ok () ∧
    parsePsm ([] ++ serializePsm 0x020001 ++ []) 0 = .ok (2, 0x0001) ∧
      parsePsm ([] ++ serializePsm 0x020001 ++ []) 0 ≠
        .ok (0 + (serializePsm 0x020001).length, 0x020001) := by
  have hvalid : validatePsm 0x020001 = .ok () :=
    validatePsm_eq_ok (by decide) (by simp [evenBytes])
  have hread := ControlFrame.parsePsm_of_even (ControlFrame.even_of_validatePsm hvalid) []
  refine ⟨hvalid, hread, ?_⟩
  rw [List.nil_append, hread]
  simp [serializePsm, psmExtension]

end ChannelManager

end ClassicHid
