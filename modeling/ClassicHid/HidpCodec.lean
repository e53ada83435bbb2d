import ClassicHid.Hidp

/-!
# The codec of HIDP messages

A HIDP message is a header byte and what follows it. The high half of the header is the type of
the message and the low half a parameter. A message whose fields fit these halves is read back from
its bytes, and everything that is read is such a message.

## Main definitions

* `Message.assignedTypes`: the types of the messages that are not unknown
* `Message.WellFormed`: the fields of a message fit the header byte

## Main results

* `Message.fromBytes_toBytes`: a well formed message is read back
* `Message.wellFormed_of_fromBytes`: what is read is well formed
* `Message.hidp_round_trip`: the codec of HIDP messages
-/

namespace ClassicHid

open Foundation

namespace Message

/-- The types of the messages that are not unknown. -/
def assignedTypes : List OpenByte := [0x00, 0x01, 0x04, 0x05, 0x06, 0x07, 0x0A]

/-- The fields of a message fit the header byte, and a message of an unknown type does not have an
assigned one. -/
def WellFormed : Message → Prop
  | handshake result => result ≤ 15
  | control command => command ≤ 15
  | getReport reportType _ _ => reportType < 4
  | setReport reportType _ => reportType < 4
  | getProtocol => True
  | setProtocol mode => mode ≤ 1
  | data reportType _ => reportType < 4
  | unknown messageType parameter _ =>
    messageType ≤ 15 ∧ messageType ∉ assignedTypes ∧ parameter ≤ 15

instance (message : Message) : Decidable message.WellFormed := by
  cases message <;> unfold WellFormed <;> infer_instance

/-! ### The header -/

/-- The message with the type, the parameter and the bytes that follow. -/
def read (messageType parameter : UInt8) (body : Bytes) : Except HidpError Message :=
  match messageType with
  | 0x00 => exactEmpty body (.handshake parameter)
  | 0x01 => exactEmpty body (.control parameter)
  | 0x04 => readGetReport parameter body
  | 0x05 => .ok (.setReport (parameter &&& 3) body)
  | 0x06 => exactEmpty body .getProtocol
  | 0x07 => exactEmpty body (.setProtocol (parameter &&& 1))
  | 0x0A => .ok (.data (parameter &&& 3) body)
  | _ => .ok (.unknown messageType parameter body)

theorem fromBytes_cons (header : UInt8) (body : Bytes) :
    fromBytes (header :: body) = read (header >>> 4) (header &&& 0x0F) body := rfl

theorem shiftRight_le (header : UInt8) : header >>> 4 ≤ 15 := by
  revert header
  exact forall_byte (by decide +kernel)

theorem and_le (header : UInt8) : header &&& 0x0F ≤ 15 := by
  revert header
  exact forall_byte (by decide +kernel)

/-- A type and a parameter that fit their halves are read from the header. -/
theorem header_halves {messageType parameter : UInt8} (htype : messageType ≤ 15)
    (hparameter : parameter ≤ 15) :
    (messageType <<< 4 ||| parameter) >>> 4 = messageType ∧
      (messageType <<< 4 ||| parameter) &&& 0x0F = parameter := by
  have hhalves : ∀ high low : Fin 16,
      (UInt8.ofNat high <<< 4 ||| UInt8.ofNat low) >>> 4 = UInt8.ofNat high ∧
        (UInt8.ofNat high <<< 4 ||| UInt8.ofNat low) &&& 0x0F = UInt8.ofNat low := by
    decide +kernel
  have h := hhalves ⟨messageType.toNat, Nat.lt_succ_of_le htype⟩
    ⟨parameter.toNat, Nat.lt_succ_of_le hparameter⟩
  rwa [UInt8.ofNat_toNat, UInt8.ofNat_toNat] at h

/-! ### Reading back -/

variable {message : Message} {messageType parameter : UInt8} {body bytes : Bytes}

/-- The fields of a well formed message fit the halves of the header. -/
theorem WellFormed.fits (h : message.WellFormed) :
    message.messageType ≤ 15 ∧ message.parameter ≤ 15 := by
  have hreport : ∀ byte : UInt8, byte < 4 → (0x08 ||| byte) ≤ 15 ∧ byte ≤ 15 :=
    forall_byte (by decide +kernel)
  have hmode : ∀ byte : UInt8, byte ≤ 1 → byte ≤ 15 := forall_byte (by decide +kernel)
  have hassigned : ∀ messageType ∈ assignedTypes, messageType ≤ 15 := by decide +kernel
  cases message with
  | handshake result => exact ⟨hassigned 0x00 (by decide), h⟩
  | control command => exact ⟨hassigned 0x01 (by decide), h⟩
  | getReport reportType reportId bufferSize =>
    refine ⟨hassigned 0x04 (by decide), ?_⟩
    cases bufferSize with
    | none => exact (hreport reportType h).2
    | some bufferSize => exact (hreport reportType h).1
  | setReport reportType body => exact ⟨hassigned 0x05 (by decide), (hreport reportType h).2⟩
  | getProtocol => exact ⟨hassigned 0x06 (by decide), by decide⟩
  | setProtocol mode => exact ⟨hassigned 0x07 (by decide), hmode mode h⟩
  | data reportType body => exact ⟨hassigned 0x0A (by decide), (hreport reportType h).2⟩
  | unknown messageType parameter body => exact ⟨h.1, h.2.2⟩

/-- The bytes of a message whose fields fit. -/
theorem toBytes_eq (h : message.messageType ≤ 15 ∧ message.parameter ≤ 15) :
    message.toBytes = .ok ((message.messageType <<< 4 ||| message.parameter) :: message.body) := by
  rw [toBytes, if_neg]
  rintro (htype | hparameter)
  · exact absurd h.1 (UInt8.not_le.mpr htype)
  · exact absurd h.2 (UInt8.not_le.mpr hparameter)

/-- A type that is not assigned is read as an unknown message. -/
theorem read_unknown (h : messageType ∉ assignedTypes) :
    read messageType parameter body = .ok (.unknown messageType parameter body) := by
  simp only [assignedTypes, List.mem_cons, List.not_mem_nil, or_false, not_or] at h
  obtain ⟨h₀, h₁, h₄, h₅, h₆, h₇, h₁₀⟩ := h
  unfold read
  split
  · exact absurd rfl h₀
  · exact absurd rfl h₁
  · exact absurd rfl h₄
  · exact absurd rfl h₅
  · exact absurd rfl h₆
  · exact absurd rfl h₇
  · exact absurd rfl h₁₀
  · rfl

/-- A well formed message is read from its type, its parameter and its body. -/
theorem WellFormed.read_eq (h : message.WellFormed) :
    read message.messageType message.parameter message.body = .ok message := by
  have hreport : ∀ byte : UInt8, byte < 4 → byte &&& 3 = byte ∧ byte &&& 0x08 = 0 ∧
      (0x08 ||| byte) &&& 3 = byte ∧ (0x08 ||| byte) &&& 0x08 ≠ 0 :=
    forall_byte (by decide +kernel)
  have hmode : ∀ byte : UInt8, byte ≤ 1 → byte &&& 1 = byte := forall_byte (by decide +kernel)
  cases message with
  | handshake result => rfl
  | control command => rfl
  | getReport reportType reportId bufferSize =>
    obtain ⟨htype, hflag, htype', hflag'⟩ := hreport reportType h
    cases bufferSize with
    | none =>
      show readGetReport reportType [reportId] = _
      rw [readGetReport, if_neg (not_not.mpr hflag), htype]
    | some bufferSize =>
      show readGetReport (0x08 ||| reportType) [reportId, UInt8.ofNat bufferSize.toNat,
        UInt8.ofNat (bufferSize.toNat / 256)] = _
      rw [readGetReport, if_pos hflag', htype', fromLe16_toLe16]
  | setReport reportType body =>
    show Except.ok (setReport (reportType &&& 3) body) = _
    rw [(hreport reportType h).1]
  | getProtocol => rfl
  | setProtocol mode =>
    show Except.ok (setProtocol (mode &&& 1)) = _
    rw [hmode mode h]
  | data reportType body =>
    show Except.ok (data (reportType &&& 3) body) = _
    rw [(hreport reportType h).1]
  | unknown messageType parameter body => exact read_unknown h.2.1

/-- **A well formed message is read back from its bytes.** -/
theorem fromBytes_toBytes (h : message.WellFormed) :
    ∃ bytes, message.toBytes = .ok bytes ∧ fromBytes bytes = .ok message := by
  refine ⟨_, toBytes_eq h.fits, ?_⟩
  obtain ⟨htype, hparameter⟩ := header_halves h.fits.1 h.fits.2
  rw [fromBytes_cons, htype, hparameter]
  exact h.read_eq

/-! ### What is read -/

theorem exactEmpty_eq_ok {read : Message} (h : exactEmpty body read = .ok message) :
    message = read := by
  rw [exactEmpty] at h
  split at h
  · exact (Except.ok.inj h).symm
  · cases h

theorem wellFormed_of_readGetReport (h : readGetReport parameter body = .ok message) :
    message.WellFormed := by
  have hreport : ∀ byte : UInt8, byte &&& 3 < 4 := forall_byte (by decide +kernel)
  unfold readGetReport at h
  split at h
  · cases h
  · split at h
    · split at h
      · cases h
        exact hreport parameter
      · cases h
      · cases h
    · split at h
      · cases h
        exact hreport parameter
      · cases h

/-- **What is read is well formed.** -/
theorem wellFormed_of_fromBytes (h : fromBytes bytes = .ok message) : message.WellFormed := by
  have hreport : ∀ byte : UInt8, byte &&& 3 < 4 := forall_byte (by decide +kernel)
  have hmode : ∀ byte : UInt8, byte &&& 1 ≤ 1 := forall_byte (by decide +kernel)
  cases bytes with
  | nil => cases h
  | cons header body =>
    rw [fromBytes_cons] at h
    have htype := shiftRight_le header
    have hparameter := and_le header
    by_cases hassigned : header >>> 4 ∈ assignedTypes
    · simp only [assignedTypes, List.mem_cons, List.not_mem_nil, or_false] at hassigned
      rcases hassigned with hassigned | hassigned | hassigned | hassigned | hassigned | hassigned |
        hassigned <;> rw [hassigned] at h
      · rw [exactEmpty_eq_ok h]
        exact hparameter
      · rw [exactEmpty_eq_ok h]
        exact hparameter
      · exact wellFormed_of_readGetReport h
      · cases h
        exact hreport _
      · rw [exactEmpty_eq_ok h]
        trivial
      · rw [exactEmpty_eq_ok h]
        exact hmode _
      · cases h
        exact hreport _
    · rw [read_unknown hassigned] at h
      cases h
      exact ⟨htype, hassigned, hparameter⟩

/-- **The codec of HIDP messages**: a well formed message is written and read back, and so is
every message that is read. -/
theorem hidp_round_trip :
    (∀ message : Message, message.WellFormed →
      ∃ bytes, message.toBytes = .ok bytes ∧ fromBytes bytes = .ok message) ∧
    ∀ bytes message, fromBytes bytes = .ok message →
      ∃ bytes', message.toBytes = .ok bytes' ∧ fromBytes bytes' = .ok message :=
  ⟨fun _ => fromBytes_toBytes, fun _ _ h => fromBytes_toBytes (wellFormed_of_fromBytes h)⟩

/-- A report request, and bytes whose unused bits of the parameter are set. -/
theorem hidp_round_trip_report :
    (∃ bytes, (getReport 1 0x30 (some 64)).toBytes = .ok bytes ∧
      fromBytes bytes = .ok (getReport 1 0x30 (some 64))) ∧
    ∃ bytes, (setProtocol 1).toBytes = .ok bytes ∧ fromBytes bytes = .ok (setProtocol 1) := by
  constructor
  · exact hidp_round_trip.1 _ (by decide)
  · exact hidp_round_trip.2 [0x7f] _ rfl

end Message

end ClassicHid
