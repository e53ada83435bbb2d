import ClassicHid.Foundation.SlidingWindow
import ClassicHid.L2cap.ErtmInvariant

/-!
# Engines that are not busy

When neither end is busy, an engine sends the frames that enter its window, once and in order, and
it answers a frame that is not the next one with a reject. Only a reject makes it send frames of
its window again, and then it sends all of them.

## Main definitions

* `ErtmEngine.Quiet`: neither end is busy, and the engine did not give up
* `ErtmEngine.Fresh`: only new frames are sent

## Main results

* `ErtmEngine.sendSdu_fresh`, `ErtmEngine.receiveInformation_fresh`,
  `ErtmEngine.receiveReady_fresh`: sending an SDU, the next frame, a receiver that is ready
* `ErtmEngine.receiveReject_again`: a reject
-/

namespace ClassicHid

open Foundation

namespace Outgoing

/-- Whether the frame asks for frames to be sent again. -/
def asks : Outgoing → Bool
  | information .. => false
  | supervisory function _ _ => function = .reject

/-- Neither a poll nor an answer to one, and not from a busy receiver. -/
def Plain : Outgoing → Prop
  | information .. => True
  | supervisory function poll finalBit =>
    (function = .receiverReady ∨ function = .reject) ∧ poll = false ∧ finalBit = false

/-- How often the frame at a place was sent. -/
theorem countP_isAt (index : ℕ) (sent : List Outgoing) :
    sent.countP (·.isAt index) = (sent.filterMap place).count index := by
  induction sent with
  | nil => rfl
  | cons out sent ih =>
    cases out with
    | information i frame =>
      have hcons : (information i frame :: sent).filterMap place = i :: sent.filterMap place := rfl
      rw [List.countP_cons, ih, hcons, List.count_cons]
      simp [isAt]
    | supervisory function poll finalBit =>
      have hcons : (supervisory function poll finalBit :: sent).filterMap place =
          sent.filterMap place := rfl
      rw [List.countP_cons, ih, hcons]
      rfl

/-- Frames with consecutive places are information frames. -/
theorem of_places {sent : List Outgoing} {places : List ℕ}
    (h : sent.map place = places.map some) :
    sent.filterMap place = places ∧ ∀ out ∈ sent, out.Plain ∧ out.asks = false := by
  constructor
  · have hplaces := congrArg (List.filterMap id) h
    rwa [List.filterMap_map, List.filterMap_map, Function.id_comp, Function.id_comp,
      List.filterMap_some] at hplaces
  · intro out hmem
    have hplace : out.place ∈ places.map some := by
      rw [← h]
      exact List.mem_map_of_mem hmem
    cases out with
    | information => exact ⟨trivial, rfl⟩
    | supervisory =>
      obtain ⟨_, _, heq⟩ := List.mem_map.mp hplace
      cases heq

end Outgoing

namespace ErtmEngine

/-- Neither end is busy, and the engine did not give up. -/
structure Quiet (e : ErtmEngine) : Prop where
  failed : e.failed = false
  remoteBusy : e.remoteBusy = false
  localBusy : e.localBusy = false

/-- New frames are sent in order, and perhaps that the receiver is ready. -/
structure Fresh (sent : List Outgoing) (e e' : ErtmEngine) : Prop where
  places : sent.filterMap Outgoing.place =
    List.range' e.txWindow.length (e'.txWindow.length - e.txWindow.length)
  plain : ∀ out ∈ sent, out.Plain ∧ out.asks = false
  quiet : Quiet e'

variable {e e' e₁ : ErtmEngine} {sent sent' : List Outgoing}

theorem Fresh.refl (hquiet : Quiet e) : Fresh [] e e := ⟨by simp, nofun, hquiet⟩

theorem Transmits.fresh (h : Transmits sent e e') (hquiet : Quiet e) : Fresh sent e e' := by
  obtain ⟨hplaces, hplain⟩ := Outgoing.of_places h.places
  refine ⟨hplaces, hplain, ?_, ?_, ?_⟩
  · rw [h.failed, hquiet.failed]
  · rw [h.remoteBusy, hquiet.remoteBusy]
  · rw [h.localBusy, hquiet.localBusy]

theorem processOutput_fresh (hrange : InRange e) (hquiet : Quiet e) :
    ∃ sent e', processOutput e = (.ok (), e') ∧ Sends e.expectedTxSeq sent e e' ∧
      Fresh sent e e' := by
  obtain ⟨sent, e', hrun, htransmits, _⟩ := processOutput_transmits hrange hquiet.remoteBusy
  exact ⟨sent, e', hrun, htransmits.sends, htransmits.fresh hquiet⟩

/-- **Sending an SDU.** -/
theorem sendSdu_fresh (hnumbered : Numbered e) (hquiet : Quiet e) (sdu : Bytes) :
    (sendSdu sdu e).2 = e ∨ ∃ added sent, Advances 0 added sent e (sendSdu sdu e).2 ∧
      (sendSdu sdu e).2.expectedTxSeq = e.expectedTxSeq ∧ Fresh sent e (sendSdu sdu e).2 := by
  rcases sendSdu_eq (e := e) sdu with ⟨error, hrun⟩ | ⟨_, _, hrun⟩
  · rw [hrun]
    exact .inl rfl
  · have hrange := numbered_inRange hnumbered.inRange hnumbered.next_lt
      (segments e.config.peerMps.toNat sdu)
    obtain ⟨sent, e', houtput, hsends, hfresh⟩ := processOutput_fresh hrange
      ⟨hquiet.failed, hquiet.remoteBusy, hquiet.localBusy⟩
    rw [hrun, houtput]
    exact .inr ⟨_, sent, .of_numbered hnumbered hsends, hsends.expected, hfresh.places,
      hfresh.plain, hfresh.quiet⟩

/-- That the receiver is ready. -/
theorem sendReady_fresh (hrange : InRange e) (h : Fresh sent e₁ e) :
    Fresh (sent ++ [.supervisory .receiverReady false false]) e₁
      (sendSupervisory .receiverReady false false e).2 := by
  rw [sendSupervisory_eq hrange]
  refine ⟨?_, ?_, h.quiet.failed, h.quiet.remoteBusy, h.quiet.localBusy⟩
  · rw [List.filterMap_append, h.places]
    exact List.append_nil _
  · intro out hmem
    rcases List.mem_append.mp hmem with hmem | hmem
    · exact h.plain out hmem
    · rw [List.mem_singleton.mp hmem]
      exact ⟨⟨.inl rfl, rfl, rfl⟩, rfl⟩

/-- **The next information frame.** -/
theorem receiveInformation_fresh (hrange : InRange e) (hinput : InputBounded e) (hquiet : Quiet e)
    {txSeq : UInt8} (hnext : txSeq = e.expectedTxSeq) (sar : SegmentationAndReassembly)
    (payload : Bytes) :
    ∃ sent e₁, Receives (expecting e) e₁ ∧ InputBounded e₁ ∧
      Sends e₁.expectedTxSeq sent e₁ (receiveInformation txSeq false sar payload e).2 ∧
      Fresh sent e₁ (receiveInformation txSeq false sar payload e).2 := by
  have hexpecting : InputBounded (expecting e) := ⟨hinput.started, hinput.idle, hinput.delivered⟩
  obtain ⟨hreceives, hbounded⟩ := acceptInformation_bounded hexpecting sar payload
  have hrange₁ := hreceives.inRange (expecting_inRange hrange)
  have hquiet₁ : Quiet (acceptInformation sar payload (expecting e)).2 := by
    obtain ⟨_, _, _, heq⟩ := hreceives
    rw [heq]
    exact ⟨hquiet.failed, hquiet.remoteBusy, hquiet.localBusy⟩
  rw [receiveInformation_next hquiet.localBusy hnext, takeInformation]
  rcases haccept : acceptInformation sar payload (expecting e) with ⟨error | _, e₁⟩
  · rw [haccept] at hreceives hbounded hquiet₁
    rw [Exec.bind_error haccept]
    exact ⟨[], e₁, hreceives, hbounded, .refl e₁, .refl hquiet₁⟩
  · rw [haccept] at hreceives hbounded hrange₁ hquiet₁
    obtain ⟨sent, e₂, hrun, hsends, hfresh⟩ := processOutput_fresh hrange₁ hquiet₁
    rw [Exec.bind_ok haccept, Exec.bind_ok hrun, Exec.get_bind]
    have hrange₂ := hsends.inRange hrange₁
    split
    · have hlast := sendSupervisory_sends hrange₂ receiverReady_ne false false
      rw [hsends.expected] at hlast
      exact ⟨_, e₁, hreceives, hbounded, hsends.trans hlast, sendReady_fresh hrange₂ hfresh⟩
    · exact ⟨sent, e₁, hreceives, hbounded, hsends, hfresh⟩

/-- What a supervisory frame of an idle receiver does. -/
theorem receiveSupervisory_quiet (hquiet : Quiet e) {function : SupervisoryFunction}
    (hfunction : function ≠ .receiverNotReady) (reqSeq : UInt8) (acked : Bool) :
    receiveSupervisory function false false reqSeq acked e =
      (resend function false reqSeq acked >>= fun _ => processOutput) e := by
  have hsame : { e with remoteBusy := decide (function = .receiverNotReady) } = e := by
    rw [decide_eq_false hfunction, ← hquiet.remoteBusy]
  rw [receiveSupervisory_eq, hsame]
  rfl

/-- **A receiver that is ready.** -/
theorem receiveReady_fresh (hrange : InRange e) (hquiet : Quiet e) (reqSeq : UInt8) (acked : Bool) :
    ∃ sent, Sends e.expectedTxSeq sent e
        (receiveSupervisory .receiverReady false false reqSeq acked e).2 ∧
      Fresh sent e (receiveSupervisory .receiverReady false false reqSeq acked e).2 := by
  obtain ⟨sent, e', hrun, hsends, hfresh⟩ := processOutput_fresh hrange hquiet
  have hstate : receiveSupervisory .receiverReady false false reqSeq acked e = (.ok (), e') := by
    have hfunction : SupervisoryFunction.receiverReady ≠ .receiverNotReady := nofun
    rw [receiveSupervisory_quiet hquiet hfunction, ← hrun]
    rfl
  rw [hstate]
  exact ⟨sent, hsends, hfresh⟩

/-- **A reject**, when no frame was sent too often: the whole window is sent again, and what fits it
behind it. -/
theorem receiveReject_again (hrange : InRange e) (hquiet : Quiet e) (reqSeq : UInt8) (acked : Bool)
    (hlimit : ∀ entry ∈ e.txWindow,
      retransmissionLimitReached e.config.maxRetransmissions entry = false) :
    ∃ sent, Sends e.expectedTxSeq sent e
        (receiveSupervisory .reject false false reqSeq acked e).2 ∧
      sent.filterMap Outgoing.place = List.range' 0
        (receiveSupervisory .reject false false reqSeq acked e).2.txWindow.length ∧
      (∀ out ∈ sent, out.Plain ∧ out.asks = false) ∧
      Quiet (receiveSupervisory .reject false false reqSeq acked e).2 := by
  obtain ⟨sent, e₁, hrun₁, hresends, _⟩ := retransmitAll_resends hrange hquiet.remoteBusy hlimit
  have hquiet₁ : Quiet e₁ := by
    refine ⟨?_, ?_, ?_⟩
    · rw [hresends.failed, hquiet.failed]
    · rw [hresends.remoteBusy, hquiet.remoteBusy]
    · rw [hresends.localBusy, hquiet.localBusy]
  obtain ⟨sent', e₂, hrun₂, hsends, hfresh⟩ :=
    processOutput_fresh (hresends.sends.inRange hrange) hquiet₁
  rw [hresends.sends.expected] at hsends
  have hstate : receiveSupervisory .reject false false reqSeq acked e = (.ok (), e₂) := by
    have hfunction : SupervisoryFunction.reject ≠ .receiverNotReady := nofun
    rw [receiveSupervisory_quiet hquiet hfunction, ← hrun₂]
    exact Exec.bind_ok hrun₁
  rw [hstate]
  obtain ⟨hplaces, hplain⟩ := Outgoing.of_places hresends.places
  refine ⟨sent ++ sent', hresends.sends.trans hsends, ?_, ?_, hfresh.quiet⟩
  · have hgrows := hsends.window
    have happend := range'_append_range' (Nat.zero_le _) hgrows
    rw [Nat.sub_zero, Nat.sub_zero] at happend
    rw [List.filterMap_append, hplaces, hfresh.places, ← happend, hresends.window]
  · intro out hmem
    rcases List.mem_append.mp hmem with hmem | hmem
    · exact hplain out hmem
    · exact hfresh.plain out hmem

end ErtmEngine

end ClassicHid
