import ClassicHid.L2cap.Bounds

/-!
# No length is truncated

A PDU and a signaling frame carry the lengths of what follows them in 16 bits. Over a run whose
steps all fit, every such field holds its length.

## Main definitions

* `ChannelManager.run`: a link after operations
* `ChannelManager.StepsFit`: every step of a run fits
* `ChannelManager.Untruncated`: every length field holds its length
* `ManagerOp.isShort`: a step that fits in every state

## Main results

* `ChannelManager.lengths_untruncated`: the lengths after a run
* `ChannelManager.stepsFit_of_isShort`: steps that leave room for every header
* `ChannelManager.echoed_request`: the answer to a request whose options all come back
-/

namespace ClassicHid

open Foundation

namespace ChannelManager

variable {m : ChannelManager}

/-! ### Runs -/

/-- A link after operations. -/
def run (ops : List ManagerOp) (m : ChannelManager) : ChannelManager :=
  ops.foldl (fun m op => m.apply op) m

theorem run_append_singleton (ops : List ManagerOp) (op : ManagerOp) (m : ChannelManager) :
    m.run (ops ++ [op]) = (m.run ops).apply op := by
  rw [run, List.foldl_append]
  rfl

/-- Every step of a run fits. -/
def StepsFit (m : ChannelManager) : List ManagerOp → Prop
  | [] => True
  | op :: ops => m.Fits op ∧ StepsFit (m.apply op) ops

theorem Bounded.run (h : m.Bounded) {ops : List ManagerOp}
    (hinbound : ∀ pdu, .processPdu pdu ∈ ops → pdu.payload.length ≤ 65535)
    (hfits : m.StepsFit ops) : (m.run ops).Bounded := by
  induction ops generalizing m with
  | nil => exact h
  | cons op ops ih =>
    refine ih (h.apply ?_ hfits.1) ?_ hfits.2
    · rintro pdu rfl
      exact hinbound pdu List.mem_cons_self
    · exact fun pdu hmem => hinbound pdu (List.mem_cons_of_mem _ hmem)

theorem bounded_new (information : InformationCapabilities) :
    (withInformationCapabilities information).Bounded := by
  refine ⟨?_, nofun, fun _ => nofun⟩
  intro cid c hc
  simp [channel, withInformationCapabilities] at hc

/-- **No length is truncated**: the length of every PDU that waits to be sent fits in its field, and
the inner length of every signaling frame among them is the length of what follows its header.
Unless a peer took the signaling channel for a channel of its own, all PDUs on the signaling channel
are such frames. -/
structure Untruncated (m : ChannelManager) : Prop where
  payload : ∀ pdu ∈ m.outbound, pdu.payload.length ≤ 65535
  inner : ∀ frame, signal frame ∈ m.outbound →
    (le16At (signal frame).payload 2).toNat = ((signal frame).payload.drop 4).length
  signaling : m.SignalingFree → ∀ pdu ∈ m.outbound, pdu.cid = l2capSignalingCid →
    ∃ frame, pdu = signal frame

theorem Bounded.untruncated (h : m.Bounded) : m.Untruncated := by
  refine ⟨h.outbound, ?_, h.signaling⟩
  intro frame hmem
  have hlength := h.outbound _ hmem
  have hfield : le16At (signal frame).payload 2 = UInt16.ofNat frame.payload.length :=
    fromLe16_toLe16 _
  have hdrop : (signal frame).payload.drop 4 = frame.payload := rfl
  simp only [signal, ControlFrame.toBytes, List.length_append, List.length_cons, List.length_nil,
    length_toLe16] at hlength
  rw [hfield, hdrop, UInt16.toNat_ofNat']
  omega

/-- **The lengths of what a link sends.** Whatever its owner asks of it and whatever PDUs of up to
65535 bytes the peer sends, no length is truncated, as long as no request gets more than 65525 bytes
of its own options back, and no SDU is sent without a frame check in a frame of more than 65535
bytes. -/
theorem lengths_untruncated (information : InformationCapabilities) {ops : List ManagerOp}
    (hinbound : ∀ pdu, .processPdu pdu ∈ ops → pdu.payload.length ≤ 65535)
    (hfits : (withInformationCapabilities information).StepsFit ops) :
    ((withInformationCapabilities information).run ops).Untruncated :=
  ((bounded_new information).run hinbound hfits).untruncated

/-! ### Steps that fit -/

/-- The options that are repeated are not longer than all options. -/
theorem echoSize_le (options : List ConfigurationOption) :
    ConfigurationOption.echoSize options ≤ (options.map ConfigurationOption.size).sum := by
  induction options with
  | nil => exact Nat.le_refl _
  | cons option options ih =>
    rw [ConfigurationOption.echoSize, ConfigurationOption.echo, List.filter_cons, List.map_cons,
      List.sum_cons]
    rw [ConfigurationOption.echoSize, ConfigurationOption.echo] at ih
    split
    · rw [List.map_cons, List.sum_cons]
      omega
    · omega

theorem sum_size_decodeConfigurationOptions {encoded : Bytes} {options : List ConfigurationOption}
    (h : decodeConfigurationOptions encoded = .ok options) :
    (options.map ConfigurationOption.size).sum = encoded.length := by
  induction encoded using decodeConfigurationOptions.induct generalizing options with
  | case1 =>
    rw [decodeConfigurationOptions] at h
    cases h
    rfl
  | case2 rawType =>
    rw [decodeConfigurationOptions] at h
    cases h
  | case3 rawType length rest hshort =>
    rw [decodeConfigurationOptions, if_pos hshort] at h
    cases h
  | case4 rawType length rest hlong ih =>
    rw [decodeConfigurationOptions, if_neg hlong] at h
    obtain ⟨options', hrest, h⟩ := except_bind_eq_ok.mp h
    cases h
    have hsum := ih hrest
    rw [List.length_drop] at hsum
    simp only [List.map_cons, List.sum_cons, ConfigurationOption.size, List.length_take, hsum,
      List.length_cons]
    omega

/-- A request that leaves room for the longer header of its answer. -/
theorem requestFits_of_le {pdu : L2capPdu} (h : pdu.payload.length ≤ 65533)
    (m : ChannelManager) : m.RequestFits pdu := by
  intro _ identifier cid flags encoded options c hframe hdecode _ _
  obtain ⟨payload, hparse, hlength⟩ := fromBytes_eq_ok hframe
  obtain ⟨rfl, hheader⟩ := (parse_carries hparse).2 _ _ _ _ rfl
  have hsize := echoSize_le options
  rw [sum_size_decodeConfigurationOptions hdecode, List.length_drop] at hsize
  omega

end ChannelManager

/-- An operation that fits whatever the state of the link: it leaves room for every header. -/
def ManagerOp.isShort : ManagerOp → Bool
  | .processPdu pdu => pdu.payload.length ≤ 65533
  | .processBytes bytes => bytes.length ≤ 65537
  | .send _ sdu => sdu.length ≤ 65532
  | _ => true

namespace ChannelManager

variable {m : ChannelManager} {cid : UInt16} {c : ClassicChannel}

theorem fits_of_isShort {op : ManagerOp} (h : op.isShort = true) (m : ChannelManager) :
    m.Fits op := by
  cases op with
  | processPdu pdu => exact requestFits_of_le (of_decide_eq_true h) m
  | processBytes bytes =>
    intro pdu hread
    have hlength : bytes.length ≤ 65537 := of_decide_eq_true h
    rw [L2capPdu.fromBytes] at hread
    split at hread
    · cases hread
    · cases hread
      refine requestFits_of_le ?_ m
      dsimp only
      rw [List.length_drop, List.length_take]
      omega
  | send cid sdu =>
    intro _ engine _ _ _ _ _ _
    have hlength : sdu.length ≤ 65532 := of_decide_eq_true h
    rw [SegmentsFit]
    split <;> omega
  | _ => trivial

theorem stepsFit_of_isShort {ops : List ManagerOp} (h : ∀ op ∈ ops, op.isShort = true)
    (m : ChannelManager) : m.StepsFit ops := by
  induction ops generalizing m with
  | nil => trivial
  | cons op ops ih =>
    exact ⟨fits_of_isShort (h op List.mem_cons_self) m,
      ih (fun op hmem => h op (List.mem_cons_of_mem _ hmem)) _⟩

/-- A channel in retransmission mode is opened, and an SDU sent. -/
def sampleSending : List ManagerOp :=
  sampleRequested (.registerErtmServer (some 17) {}) ++
    [.processPdu (signal (.configureRequest 2 0x0040 0
        [1, 2, 0, 1, 4, 9, 3, 63, 1, 0, 0, 0, 0, 100, 0])),
      .processPdu (signal (.configureResponse 1 0x0040 0 0 [])),
      .send 0x0040 [1, 2, 3]]

theorem lengths_untruncated_sampleSending :
    ((withInformationCapabilities {}).run sampleSending).Untruncated := by
  have hshort : ∀ op ∈ sampleSending, op.isShort = true := by decide +kernel
  refine lengths_untruncated {} ?_ (stepsFit_of_isShort hshort _)
  intro pdu hmem
  have hpdu : decide (pdu.payload.length ≤ 65533) = true := hshort _ hmem
  exact Nat.le_trans (of_decide_eq_true hpdu) (by decide)

/-! ### A request that does not fit -/

/-- An option that is acceptable, `n` times over, and one that says that frames are not checked. -/
def repeatedOptions (n : ℕ) : List ConfigurationOption :=
  List.replicate n (.new configurationOptionMtu [0, 4]) ++ [.new configurationOptionFcs [0]]

/-- The same options on the wire. -/
def repeatedBytes (n : ℕ) : Bytes := (List.replicate n [1, 2, 0, 4]).flatten ++ [5, 1, 0]

theorem length_repeatedBytes (n : ℕ) : (repeatedBytes n).length = 4 * n + 3 := by
  simp [repeatedBytes, List.length_flatten, Nat.mul_comm]

theorem decode_repeatedBytes (n : ℕ) :
    decodeConfigurationOptions (repeatedBytes n) = .ok (repeatedOptions n) := by
  rw [repeatedBytes, repeatedOptions]
  induction n with
  | zero =>
    simp [decodeConfigurationOptions]
    decide
  | succ n ih =>
    have hcons := decodeConfigurationOptions_cons configurationOptionMtu [0, 4]
      ((List.replicate n [1, 2, 0, 4]).flatten ++ [5, 1, 0]) (by decide) (by decide) (by decide)
    rw [List.replicate_succ, List.replicate_succ, List.flatten_cons, List.append_assoc,
      List.cons_append]
    refine hcons.trans ?_
    rw [ih]
    rfl

/-- All of them come back. -/
theorem judge_repeatedOptions (n : ℕ) :
    (sampleAskedChannel.judge 0 (repeatedOptions n)).1 =
      .ok (configurationSuccess, repeatedOptions n) := by
  have hall : (repeatedOptions n).all (ConfigurationOption.passes .basic) = true := by
    have hmtu : (ConfigurationOption.new configurationOptionMtu [0, 4]).passes .basic = true := by
      decide
    simp only [repeatedOptions, List.all_append, List.all_replicate, hmtu, ite_self]
    rfl
  have hecho : ConfigurationOption.echo (repeatedOptions n) = repeatedOptions n := by
    have hmtu : (ConfigurationOption.new configurationOptionMtu [0, 4]).isNegotiated = true := by
      decide
    simp only [repeatedOptions, ConfigurationOption.echo, List.filter_append, List.filter_replicate,
      hmtu, if_true]
    rfl
  have hmode : (repeatedOptions n).any (·.asksMode) = false := by
    have hmtu : (ConfigurationOption.new configurationOptionMtu [0, 4]).asksMode = false := by
      decide
    simp only [repeatedOptions, List.any_append, List.any_replicate, hmtu, ite_self]
    rfl
  have hfcs : ConfigurationOption.askedFcs (repeatedOptions n) = some false := by
    have hmtu : (ConfigurationOption.new configurationOptionMtu [0, 4]).asksFcs = false := by
      decide
    simp only [repeatedOptions, ConfigurationOption.askedFcs, List.filter_append,
      List.filter_replicate, hmtu, Bool.false_eq_true, if_false]
    rfl
  rcases scanOptions_repeated .basic (repeatedOptions n)
    { peerMtu := sampleAskedChannel.peerMtu } with ⟨_, hscan⟩ | ⟨hnot, _⟩
  · have hanswer := hscan.answer
    have hertm := hscan.asked
    have hcheck := hscan.fcs
    have hresult := hscan.result
    have hbasic : sampleAskedChannel.mode = .basic := rfl
    rw [hecho, List.nil_append] at hanswer
    rw [hmode] at hertm
    rw [hfcs] at hcheck
    unfold ClassicChannel.judge
    rw [hbasic]
    generalize scanOptions .basic { peerMtu := sampleAskedChannel.peerMtu } (repeatedOptions n) =
      scan at *
    have hnone : scan.peerErtm = none := Option.not_isSome_iff_eq_none.mp (by rw [hertm]; rintro ⟨⟩)
    dsimp only
    rw [if_pos ⟨hresult, by decide⟩]
    unfold ClassicChannel.complete
    rw [hnone, hcheck, hanswer]
    rfl
  · rw [hall] at hnot
    cases hnot

/-- A request whose options all come back gets a PDU with six bytes more than its options and the
header of a frame. -/
theorem echoed_request (hc : m.channel cid = some c) (identifier : UInt8) {result : UInt16}
    {encoded : Bytes} {options : List ConfigurationOption}
    (hdecode : decodeConfigurationOptions encoded = .ok options)
    (hjudge : (c.judge 0 options).1 = .ok (result, options)) (hlength : encoded.length ≤ 65531) :
    ∃ pdu ∈ (m.apply (.processPdu
      (signal (.configureRequest identifier cid 0 encoded)))).outbound,
      pdu.payload.length = encoded.length + 10 := by
  have hread : ControlFrame.fromBytes (ControlFrame.configureRequest identifier cid 0
      encoded).toBytes = .ok (.configureRequest identifier cid 0 encoded) := by
    refine ControlFrame.Representable.faithful ⟨?_, nofun, nofun⟩
    simp only [ControlFrame.payload, List.length_append, length_toLe16]
    omega
  have hrun : processPdu (signal (.configureRequest identifier cid 0 encoded)) m =
      onConfigureRequest identifier cid 0 encoded m := by
    rw [processPdu, signal, if_pos rfl, hread]
    rfl
  obtain ⟨answer, hencode⟩ := encodeConfigurationOptions_ok
    (decodeConfigurationOptions_length hdecode)
  rw [apply, hrun, onConfigureRequest_eq hc identifier 0 hdecode, hjudge]
  dsimp only
  rw [hencode]
  refine ⟨_, List.mem_append_right _ List.mem_cons_self, ?_⟩
  simp only [signal, ControlFrame.toBytes, List.length_append, List.length_cons, List.length_nil,
    length_toLe16, length_configureResponse, (length_encodeConfigurationOptions hencode).1,
    sum_size_decodeConfigurationOptions hdecode]
  omega

/-- A channel is opened, and gets a request of 65535 bytes. -/
def sampleOverlong : List ManagerOp :=
  sampleRequested (.registerServer (some 17) {}) ++
    [.processPdu (signal (.configureRequest 2 0x0040 0 (repeatedBytes 16381)))]

/-- The answer to the request has 65537 bytes. -/
theorem configuration_answer_truncated :
    (∀ pdu, .processPdu pdu ∈ sampleOverlong → pdu.payload.length ≤ 65535) ∧
      (∃ pdu ∈ ((withInformationCapabilities {}).run sampleOverlong).outbound,
        pdu.payload.length = 65537) ∧
      ¬ ((withInformationCapabilities {}).run sampleOverlong).Untruncated := by
  have hlength := length_repeatedBytes 16381
  have hanswer : ∃ pdu ∈ ((withInformationCapabilities {}).run sampleOverlong).outbound,
      pdu.payload.length = 65537 := by
    have hc : ((withInformationCapabilities {}).run
        (sampleRequested (.registerServer (some 17) {}))).channel 0x0040 =
          some sampleAskedChannel := by
      decide +kernel
    obtain ⟨pdu, hmem, hlong⟩ := echoed_request hc 2 (decode_repeatedBytes 16381)
      (judge_repeatedOptions 16381) (by rw [hlength]; decide)
    rw [sampleOverlong, run_append_singleton]
    exact ⟨pdu, hmem, by rw [hlong, hlength]⟩
  refine ⟨fun pdu hmem => ?_, hanswer, fun huntruncated => ?_⟩
  · rcases List.mem_append.mp hmem with hmem | hmem
    · rcases List.mem_cons.mp hmem with heq | hmem
      · cases heq
      · cases List.mem_singleton.mp hmem
        decide +kernel
    · cases List.mem_singleton.mp hmem
      simp only [signal, ControlFrame.toBytes, ControlFrame.payload, List.length_append,
        List.length_cons, List.length_nil, length_toLe16, hlength]
      decide
  · obtain ⟨pdu, hmem, hlong⟩ := hanswer
    have hshort := huntruncated.payload pdu hmem
    omega

end ChannelManager

end ClassicHid
