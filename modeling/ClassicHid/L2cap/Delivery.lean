import ClassicHid.L2cap.Link

/-!
# What two links do with a PDU

Every PDU that one link sends is handled by the other without an error as far as it is signaling,
and the invariant of the two links survives it.

## Main results

* `LinkHistory.Inv.deliver_notice`: a notice for one channel of a pair
* `LinkHistory.Inv.deliver_request`: a request for a new channel
-/

namespace ClassicHid

open Foundation

/-! ### From a PDU to its handler -/

namespace ChannelManager

/-- The handler of what a PDU tells a channel. -/
def handle (cid : UInt16) (m : ChannelManager) (pdu : L2capPdu) : Notice → Prop
  | .connected peer => processPdu pdu m = onConnectionResponse peer cid connectionSuccessful m
  | .refused result => result ≠ connectionSuccessful ∧
      ∃ peer, processPdu pdu m = onConnectionResponse peer cid result m
  | .configure flags options =>
    ∃ identifier, processPdu pdu m = onConfigureRequest identifier cid flags options m
  | .configured result => processPdu pdu m = onConfigureResponse cid result m
  | .data payload => pdu.cid = cid ∧ pdu.cid ≠ l2capSignalingCid ∧
      processPdu pdu m = processData cid payload m
  | .disconnect peer =>
    ∃ identifier, processPdu pdu m = onDisconnectionRequest identifier cid peer m
  | .disconnected peer => processPdu pdu m = onDisconnectionResponse peer cid m

/-- Whether a notice is signaling. -/
def isSignaling : Notice → Bool
  | .data _ => false
  | _ => true

/-- **A PDU is handled as its notice says.** -/
theorem processPdu_of_notice {pdu : L2capPdu} {cid : UInt16} {notice : Notice}
    (h : pdu.notice = some (cid, notice)) (m : ChannelManager) :
    handle cid m pdu notice ∧ (pdu.cid = l2capSignalingCid ↔ isSignaling notice = true) := by
  by_cases hcid : pdu.cid = l2capSignalingCid
  swap
  · simp only [L2capPdu.notice, hcid, if_false, Option.some.injEq, Prod.mk.injEq] at h
    obtain ⟨rfl, rfl⟩ := h
    exact ⟨⟨rfl, hcid, by rw [processPdu, if_neg hcid]⟩, by simp [hcid, isSignaling]⟩
  rcases hframe : ControlFrame.fromBytes pdu.payload with error | frame
  · simp [L2capPdu.notice, hcid, hframe] at h
  have hprocess : processPdu pdu m = processControl frame m := by
    rw [processPdu, if_pos hcid, hframe, Exec.lift_ok_bind]
  simp only [L2capPdu.notice, hcid, if_true, hframe] at h
  cases frame with
  | connectionResponse identifier destinationCid sourceCid result status =>
    simp only [ControlFrame.notice, Option.some.injEq, Prod.mk.injEq] at h
    obtain ⟨rfl, rfl⟩ := h
    split
    · rename_i hresult
      rw [hresult] at hprocess
      exact ⟨hprocess, by simp [hcid, isSignaling]⟩
    · rename_i hresult
      exact ⟨⟨hresult, destinationCid, hprocess⟩, by simp [hcid, isSignaling]⟩
  | configureRequest identifier =>
    cases h
    exact ⟨⟨identifier, hprocess⟩, by simp [hcid, isSignaling]⟩
  | configureResponse =>
    cases h
    exact ⟨hprocess, by simp [hcid, isSignaling]⟩
  | disconnectionRequest identifier =>
    cases h
    exact ⟨⟨identifier, hprocess⟩, by simp [hcid, isSignaling]⟩
  | disconnectionResponse =>
    cases h
    exact ⟨hprocess, by simp [hcid, isSignaling]⟩
  | _ => cases h

/-- A PDU that asks for a new channel. -/
theorem processPdu_of_request {pdu : L2capPdu} {psm : UInt32} {remoteCid : UInt16}
    (h : pdu.request = some (psm, remoteCid)) (m : ChannelManager) :
    pdu.cid = l2capSignalingCid ∧
      ∃ identifier, processPdu pdu m = onConnectionRequest identifier psm remoteCid m := by
  by_cases hcid : pdu.cid = l2capSignalingCid
  swap
  · simp [L2capPdu.request, hcid] at h
  rcases hframe : ControlFrame.fromBytes pdu.payload with error | frame
  · simp [L2capPdu.request, hcid, hframe] at h
  simp only [L2capPdu.request, hcid, if_true, hframe] at h
  refine ⟨hcid, ?_⟩
  cases frame with
  | connectionRequest identifier =>
    cases h
    refine ⟨identifier, ?_⟩
    rw [processPdu, if_pos hcid, hframe, Exec.lift_ok_bind]
    rfl
  | _ => cases h

/-- A PDU of an information exchange concerns no channel. -/
theorem processPdu_of_information {pdu : L2capPdu} (h : pdu.IsInformation) (m : ChannelManager) :
    ∃ m' pdus, processPdu pdu m = (.ok (), m') ∧ m'.channels = m.channels ∧
      m'.servers = m.servers ∧ m'.outbound = m.outbound ++ pdus ∧
      ∀ pdu' ∈ pdus, pdu'.IsInformation := by
  obtain ⟨hcid, hframe⟩ := h
  rw [processPdu, if_pos hcid]
  rcases hframe with ⟨identifier, infoType, hframe⟩ |
    ⟨identifier, infoType, result, data, hframe⟩
  · rw [hframe, Exec.lift_ok_bind]
    refine ⟨_, [signal (m.information.response identifier infoType)], rfl, rfl, rfl, rfl, ?_⟩
    intro pdu' hmem
    rw [List.mem_singleton.mp hmem]
    exact L2capPdu.response_isInformation _ _ _
  · rw [hframe, Exec.lift_ok_bind]
    exact ⟨_, [], rfl, rfl, rfl, (List.append_nil _).symm, (by rintro _ ⟨⟩)⟩

end ChannelManager

namespace LinkHistory

variable {basic : Prop} {h h' : LinkHistory} {g g' : Side → UInt16 → EndState} {side : Side}
  {x y : UInt16} {c s c' s' : ClassicChannel} {taken pdus : List L2capPdu}

open ChannelManager (signal)

/-! ### Paths -/

/-- One side has a new manager and took PDUs from the wire. -/
def replaced (side : Side) (m : ChannelManager) (inFlight : List L2capPdu) (h : LinkHistory) :
    LinkHistory :=
  { h with link := {
      manager := Function.update h.link.manager side m
      inFlight := Function.update h.link.inFlight side inFlight } }

variable {m : ChannelManager} {inFlight : List L2capPdu}

theorem manager_replaced (side : Side) (m : ChannelManager) (inFlight : List L2capPdu)
    (h : LinkHistory) : (replaced side m inFlight h).link.manager side = m :=
  Function.update_self ..

theorem manager_replaced_other (side : Side) (m : ChannelManager) (inFlight : List L2capPdu)
    (h : LinkHistory) :
    (replaced side m inFlight h).link.manager side.other = h.link.manager side.other :=
  Function.update_of_ne side.other_ne ..

theorem path_replaced (side : Side) (m : ChannelManager) (inFlight : List L2capPdu)
    (h : LinkHistory) : (replaced side m inFlight h).link.path side =
      inFlight ++ (h.link.manager side.other).outbound := by
  rw [Link.path, manager_replaced_other]
  exact congrArg (· ++ _) (Function.update_self ..)

theorem path_replaced_other (side : Side) (m : ChannelManager) (inFlight : List L2capPdu)
    (h : LinkHistory) : (replaced side m inFlight h).link.path side.other =
      h.link.inFlight side.other ++ m.outbound := by
  rw [Link.path, Side.other_other, manager_replaced]
  exact congrArg (· ++ _) (Function.update_of_ne side.other_ne ..)

/-- A side that replaced its channel `x`. -/
theorem reacts_replaced (hself : m.channel x = some c')
    (hsame : ∀ z, z ≠ x → m.channel z = h.channel side z)
    (hservers : m.servers = (h.link.manager side).servers)
    (hout : m.outbound = (h.link.manager side).outbound ++ pdus)
    (htaken : h.link.inFlight side = taken ++ inFlight) :
    Reacts h (replaced side m inFlight h) side x c' taken pdus where
  self := by
    rw [channel, manager_replaced]
    exact hself
  same z hz := by
    rw [channel, manager_replaced]
    exact hsame z hz
  there z := by
    rw [channel, manager_replaced_other]
    rfl
  servers side' := by
    by_cases hside : side' = side
    · rw [hside, manager_replaced]
      exact hservers
    · rw [Side.eq_other_of_ne hside, manager_replaced_other]
  path := by
    rw [path_replaced, Link.path, htaken, List.append_assoc]
  path' := by
    rw [path_replaced_other, Link.path, Side.other_other, hout, List.append_assoc]

/-- **A signaling step of one pair**: nothing is logged. -/
theorem Inv.quiet {e' f' : EndState} {notices emitted : List Notice} (hinv : Inv basic h g)
    (hj : Joined h g side x y c s)
    (hr : Reacts h (replaced side m inFlight h) side x c' taken pdus)
    (htaken : AllFor x notices taken) (hpdus : AllFor y emitted pdus) (hspec : c'.spec = c.spec)
    (hincoming : c'.incoming = c.incoming) (hpsm : c'.psm = c.psm) (hsound : c'.Sound x)
    (hfits : ∀ rest, h.inbox side x = notices ++ rest → Fits c' s.spec rest e' f')
    (hfits' : Fits s c.spec (h.inbox side.other y ++ emitted) f' e')
    (hpeer : e'.peer = (g side x).peer) (hpeer' : f'.peer = (g side.other y).peer)
    (hlost : e'.lost ++ e'.data = (g side x).lost ++ (g side x).data)
    (hlost' : f'.lost ++ f'.data = (g side.other y).lost ++ (g side.other y).data)
    (hleft : e'.left = (g side x).left) (hleft' : f'.left = (g side.other y).left) :
    ∃ g', Inv basic (replaced side m inFlight h) g' := by
  refine ⟨_, hr.inv hinv hj htaken hpdus hspec hincoming hpsm hsound hfits hfits'
    (hpeer.trans hj.peer) (hpeer'.trans hj.peer') ?_ ?_ ?_ ?_ ?_⟩
  · intro side' z _
    exact ⟨rfl, rfl, rfl⟩
  · rw [hlost]
    exact hj.log
  · rw [hlost']
    exact hj.log'
  · rw [hleft]
    exact hj.leaving
  · rw [hleft']
    exact hj.leaving'

/-! ### Delivery -/

variable {pdu : L2capPdu}

/-- A channel keeps being sound when a PDU arrives. -/
theorem Inv.sound_processPdu (hinv : Inv basic h g) (pdu : L2capPdu) (hc : h.channel side x = some c)
    (hc' : (ChannelManager.processPdu pdu (h.link.manager side)).2.channel x = some c') :
    c'.Sound x := by
  obtain ⟨announced, hproceeds⟩ := ChannelManager.processPdu_proceeds pdu (h.link.manager side)
  obtain ⟨c₁, hc₁, hbecomes⟩ := hproceeds.channel x c hc
  cases hc₁.symm.trans hc'
  exact hbecomes.sound x (hinv.sound side x c hc).1

/-- No channel has the identifier of signaling. -/
theorem Inv.signaling_absent (hinv : Inv basic h g) (pdu : L2capPdu) (side : Side) :
    h.channel side l2capSignalingCid = none ∧
      (ChannelManager.processPdu pdu (h.link.manager side)).2.channel l2capSignalingCid = none := by
  have hdynamic {c : ClassicChannel} (hsound : c.Sound l2capSignalingCid) : False :=
    absurd hsound.dynamic (by decide)
  have hnone : h.channel side l2capSignalingCid = none := by
    rcases hc : h.channel side l2capSignalingCid with _ | c
    · rfl
    · exact (hdynamic (hinv.sound _ _ _ hc).1).elim
  refine ⟨hnone, ?_⟩
  obtain ⟨announced, hproceeds⟩ := ChannelManager.processPdu_proceeds pdu (h.link.manager side)
  rcases hc : (ChannelManager.processPdu pdu (h.link.manager side)).2.channel l2capSignalingCid
    with _ | c
  · rfl
  · exact (hdynamic (hproceeds.fresh _ _ hnone hc).1).elim

theorem log_nil (logs : Side → UInt16 → List Bytes) (side : Side) (cid : UInt16) :
    log logs side cid [] = logs := by
  funext side' cid'
  simp [log]

/-- A signaling PDU pushes nothing. -/
theorem Inv.step_deliver (hinv : Inv basic h g) (hflight : h.link.inFlight side = pdu :: inFlight)
    (hcid : pdu.cid = l2capSignalingCid) :
    h.step (.deliver side) =
      replaced side (ChannelManager.processPdu pdu (h.link.manager side)).2 inFlight h := by
  obtain ⟨_, hnone⟩ := hinv.signaling_absent pdu side
  have hpushed : pushedBy pdu (h.link.manager side) = [] := by
    rw [pushedBy, hcid, hnone]
    exact List.drop_nil
  simp only [step, Link.step, hflight, hpushed, log_nil]
  rfl

theorem path_cons_of_flight (hflight : h.link.inFlight side = pdu :: inFlight) :
    h.link.path side = pdu :: (inFlight ++ (h.link.manager side.other).outbound) := by
  rw [Link.path, hflight, List.cons_append]

/-- The inbox of the channel whose notice is delivered next. -/
theorem inbox_of_flight {notice : Notice} (hflight : h.link.inFlight side = pdu :: inFlight)
    (hnotice : pdu.notice = some (x, notice)) :
    h.inbox side x =
      notice :: noticesFor x (inFlight ++ (h.link.manager side.other).outbound) := by
  rw [inbox, path_cons_of_flight hflight, noticesFor, List.filterMap_cons, hnotice]
  simp only [Option.bind_some, if_true]
  rfl

/-- **A signaling PDU for one channel of a pair** is handled, when the pair can take the step. -/
theorem Inv.deliver_signal {e' f' : EndState} {notice : Notice} {emitted : List Notice}
    (hinv : Inv basic h g) (hj : Joined h g side x y c s)
    (hflight : h.link.inFlight side = pdu :: inFlight) (hcid : pdu.cid = l2capSignalingCid)
    (hnotice : pdu.notice = some (x, notice))
    (hprocess : ChannelManager.processPdu pdu (h.link.manager side) = (.ok (), m))
    (hchannels : m.channels = (h.link.manager side).channels.insert x c')
    (hservers : m.servers = (h.link.manager side).servers)
    (hout : m.outbound = (h.link.manager side).outbound ++ pdus)
    (hpdus : AllFor y emitted pdus)
    (hkeeps : c'.spec = c.spec ∧ c'.incoming = c.incoming ∧ c'.psm = c.psm)
    (hfits : Fits c' s.spec (noticesFor x (inFlight ++ (h.link.manager side.other).outbound)) e' f')
    (hfits' : Fits s c.spec (h.inbox side.other y ++ emitted) f' e')
    (hghost : e'.peer = (g side x).peer ∧ e'.lost = (g side x).lost ∧ e'.data = (g side x).data ∧
      e'.left = (g side x).left)
    (hghost' : f'.peer = (g side.other y).peer ∧ f'.lost = (g side.other y).lost ∧
      f'.data = (g side.other y).data ∧ f'.left = (g side.other y).left) :
    (ChannelManager.processPdu pdu (h.link.manager side)).1 = .ok () ∧
      ∃ g', Inv basic (h.step (.deliver side)) g' := by
  obtain ⟨hspec, hincoming, hpsm⟩ := hkeeps
  obtain ⟨hpeer, hlost, hdata, hleft⟩ := hghost
  obtain ⟨hpeer', hlost', hdata', hleft'⟩ := hghost'
  have hself : m.channel x = some c' := by
    rw [ChannelManager.channel, hchannels]
    exact Std.ExtTreeMap.getElem?_insert_self
  have hsame (z : UInt16) (hz : z ≠ x) : m.channel z = h.channel side z := by
    rw [ChannelManager.channel, hchannels]
    exact ChannelManager.channel_insert_ne (h.link.manager side) c' (Ne.symm hz)
  have hsound : c'.Sound x := by
    apply hinv.sound_processPdu pdu hj.here
    rw [hprocess]
    exact hself
  refine ⟨by rw [hprocess], ?_⟩
  rw [hinv.step_deliver hflight hcid, hprocess]
  refine hinv.quiet hj (reacts_replaced hself hsame hservers hout hflight)
    (allFor_singleton hnotice) hpdus hspec hincoming hpsm hsound ?_ hfits' hpeer hpeer' ?_ ?_
    hleft hleft'
  · intro rest hrest
    rw [inbox_of_flight hflight hnotice, List.singleton_append, List.cons.injEq] at hrest
    rw [← hrest.2]
    exact hfits
  · rw [hlost, hdata]
  · rw [hlost', hdata']

/-- **The signaling PDUs of a pair** are handled without an error. -/
theorem Inv.deliver_notice {notice : Notice} (hinv : Inv basic h g) (hj : Joined h g side x y c s)
    (hflight : h.link.inFlight side = pdu :: inFlight)
    (hnotice : pdu.notice = some (x, notice))
    (hsignaling : ChannelManager.isSignaling notice = true) :
    (ChannelManager.processPdu pdu (h.link.manager side)).1 = .ok () ∧
      ∃ g', Inv basic (h.step (.deliver side)) g' := by
  have hc : (h.link.manager side).channel x = some c := hj.here
  obtain ⟨hhandle, hkind⟩ := ChannelManager.processPdu_of_notice hnotice (h.link.manager side)
  have hcid : pdu.cid = l2capSignalingCid := hkind.mpr hsignaling
  have hdestination (hphase : (g side x).phase ≠ 0) : c.destinationCid = y := by
    rw [hj.fits.destination, if_neg hphase, hj.peer]
  have hinbox := inbox_of_flight hflight hnotice
  rw [hj.fits.inbox] at hinbox
  -- The inbox of the channel says which of the six notices this is.
  obtain ⟨hphase, rfl, hrest⟩ | ⟨hphase, hpeer, rfl, hrest⟩ | ⟨hphase, hpeer, rfl, hrest⟩ |
    ⟨_, _, _, payload, _, _, rfl, _⟩ | ⟨hphase, htwo, _, hdata, hleft, hdismissed, rfl, hrest⟩ |
    ⟨hphase, _, _, _, hdismissed, _, rfl, hrest⟩ := EndState.inbox_cons hinbox
  · obtain ⟨hfits, hfits'⟩ := hj.fits.connected hj.fits' hphase hrest
    have hstate := hj.fits.state_first hj.fits' hphase
    have hprocess := hhandle.trans (ChannelManager.onConnectionResponse_eq hc _ _)
    rw [if_neg (not_not.mpr hstate), if_neg (not_not.mpr rfl)] at hprocess
    refine hinv.deliver_signal hj hflight hcid hnotice hprocess rfl rfl rfl (allFor_singleton ?_)
      ⟨rfl, rfl, rfl⟩ hfits hfits' ⟨rfl, rfl, rfl, rfl⟩ ⟨rfl, rfl, rfl, rfl⟩
    rw [L2capPdu.notice_signal (ControlFrame.configureRequest_faithful _ _ _
      (length_configurationBytes _)), hj.peer]
    rfl
  · obtain ⟨hfits, hfits'⟩ := hj.fits.configure hj.fits' hphase hpeer hrest
    obtain ⟨identifier, hprocess⟩ := hhandle
    obtain ⟨options, answer, hjudge, hencode, hlength⟩ :=
      c.judge_configuration hj.fits.mode hj.fits.valid hj.fits'.valid
    rw [ChannelManager.onConfigureRequest_eq hc identifier 0 (decode_configurationBytes s.spec),
      hjudge] at hprocess
    dsimp only at hprocess
    rw [hencode, hdestination hphase] at hprocess
    obtain ⟨hspec, _, _, hincoming, hpsm, _⟩ := c.heard_keeps s.spec
    obtain ⟨sspec, _, _, sincoming, spsm, _⟩ := (c.heard s.spec).settled_keeps
    refine hinv.deliver_signal hj hflight hcid hnotice hprocess rfl rfl rfl (allFor_singleton ?_)
      ⟨sspec.trans hspec, sincoming.trans hincoming, spsm.trans hpsm⟩ hfits hfits'
      ⟨rfl, rfl, rfl, rfl⟩ ⟨rfl, rfl, rfl, rfl⟩
    rw [L2capPdu.notice_signal (ControlFrame.configureResponse_faithful _ _ _ _ hlength)]
    rfl
  · obtain ⟨hfits, hfits'⟩ := hj.fits.configured hj.fits' hphase hpeer hrest
    have hprocess := hhandle.trans (ChannelManager.onConfigureResponse_eq hc _)
    obtain ⟨hspec, _, _, hincoming, hpsm, _⟩ := c.answered_keeps (s.spec.verdict c.spec)
    obtain ⟨sspec, _, _, sincoming, spsm, _⟩ := (c.answered (s.spec.verdict c.spec)).settled_keeps
    refine hinv.deliver_signal hj hflight hcid hnotice hprocess rfl rfl rfl (allFor_nil y)
      ⟨sspec.trans hspec, sincoming.trans hincoming, spsm.trans hpsm⟩ hfits ?_
      ⟨rfl, rfl, rfl, rfl⟩ ⟨rfl, rfl, rfl, rfl⟩
    rw [List.append_nil]
    exact hfits'
  · cases hsignaling
  · obtain ⟨hfits, hfits'⟩ := hj.fits.disconnect hj.fits' hdata hleft htwo hdismissed hrest
    obtain ⟨identifier, hprocess⟩ := hhandle
    have hpeer := (hdestination hphase).trans hj.peer.symm
    rw [ChannelManager.onDisconnectionRequest_eq hc, if_neg (not_not.mpr hpeer)] at hprocess
    refine hinv.deliver_signal hj hflight hcid hnotice hprocess rfl rfl rfl (allFor_singleton ?_)
      ⟨rfl, rfl, rfl⟩ hfits hfits' ⟨rfl, rfl, rfl, rfl⟩ ⟨rfl, rfl, rfl, rfl⟩
    rw [L2capPdu.notice_signal (ControlFrame.disconnectionResponse_faithful _ _ _), hj.peer,
      hj.peer']
    rfl
  · obtain ⟨hfits, hfits'⟩ := hj.fits.disconnected hj.fits' hdismissed hrest
    have hprocess := hhandle.trans (ChannelManager.onDisconnectionResponse_eq hc _)
    have hpeer := (hdestination hphase).trans hj.peer.symm
    rw [if_neg (not_not.mpr hpeer)] at hprocess
    refine hinv.deliver_signal hj hflight hcid hnotice hprocess rfl rfl rfl (allFor_nil y)
      ⟨rfl, rfl, rfl⟩ hfits ?_ ⟨rfl, rfl, rfl, rfl⟩ ⟨rfl, rfl, rfl, rfl⟩
    rw [List.append_nil]
    exact hfits'

/-- The logs of a data PDU for a channel of a pair. -/
theorem log_self (logs : Side → UInt16 → List Bytes) (side : Side) (cid : UInt16)
    (sdus : List Bytes) : log logs side cid sdus side cid = logs side cid ++ sdus := by
  simp [log]

theorem log_ne (logs : Side → UInt16 → List Bytes) {side side' : Side} {cid cid' : UInt16}
    (sdus : List Bytes) (hne : ¬ (side' = side ∧ cid' = cid)) :
    log logs side cid sdus side' cid' = logs side' cid' := by
  rw [log, if_neg hne]

/-- **A data step of one pair**: what is pushed was on the way or belongs to a channel that
retransmits. -/
theorem Inv.deliver_payload {e' f' : EndState} {payload : Bytes} {payloads : List Bytes}
    (hinv : Inv basic h g) (hj : Joined h g side x y c s)
    (hflight : h.link.inFlight side = pdu :: inFlight)
    (hnotice : pdu.notice = some (x, .data payload)) (hcid : pdu.cid = x)
    (hdestination : c.destinationCid = y)
    (hprocess : (ChannelManager.processPdu pdu (h.link.manager side)).2 =
      ChannelManager.react x c'
        (payloads.map fun payload => { cid := c.destinationCid, payload := payload }) []
        (h.link.manager side))
    (hkeeps : c'.spec = c.spec ∧ c'.incoming = c.incoming ∧ c'.psm = c.psm)
    (hfits : Fits c' s.spec (noticesFor x (inFlight ++ (h.link.manager side.other).outbound)) e' f')
    (hfits' : Fits s c.spec (h.inbox side.other y ++ payloads.map .data) f' e')
    (hghost : e'.peer = (g side x).peer ∧ e'.left = (g side x).left)
    (hghost' : f'.peer = (g side.other y).peer ∧ f'.left = (g side.other y).left)
    (hlog : c.mode = .basic → c'.received.drop c.received.length ++ (e'.lost ++ e'.data) =
      (g side x).lost ++ (g side x).data)
    (hlog' : s.mode = .basic → f'.lost ++ f'.data =
      (g side.other y).lost ++ (g side.other y).data) :
    ∃ g', Inv basic (h.step (.deliver side)) g' := by
  obtain ⟨hspec, hincoming, hpsm⟩ := hkeeps
  have hy : y ≠ l2capSignalingCid := by
    rintro rfl
    exact absurd (hinv.sound _ _ _ hj.there).1.dynamic (by decide)
  have hpdus : AllFor y (payloads.map .data)
      (payloads.map fun payload => { cid := c.destinationCid, payload := payload }) := by
    rw [hdestination]
    exact allFor_data hy payloads
  have hself : (ChannelManager.processPdu pdu (h.link.manager side)).2.channel x = some c' := by
    rw [hprocess]
    exact ChannelManager.channel_react_self _ _
  have hpushed : pushedBy pdu (h.link.manager side) = c'.received.drop c.received.length := by
    have hc : (h.link.manager side).channel x = some c := hj.here
    rw [pushedBy, hcid, hself, hc]
    rfl
  have hreplaced : Reacts h (replaced side
      (ChannelManager.processPdu pdu (h.link.manager side)).2 inFlight h) side x c' [pdu]
      (payloads.map fun payload => { cid := c.destinationCid, payload := payload }) := by
    refine reacts_replaced hself ?_ ?_ ?_ hflight
    · intro z hz
      rw [hprocess]
      exact ChannelManager.channel_react_ne (Ne.symm hz) _ _
    · rw [hprocess]
      rfl
    · rw [hprocess]
      rfl
  have hstep : h.step (.deliver side) = { replaced side
      (ChannelManager.processPdu pdu (h.link.manager side)).2 inFlight h with
      pushed := log h.pushed side x (c'.received.drop c.received.length) } := by
    simp only [step, Link.step, hflight, hpushed, hcid]
    rfl
  have hr : Reacts h (h.step (.deliver side)) side x c' [pdu]
      (payloads.map fun payload => { cid := c.destinationCid, payload := payload }) := by
    refine hreplaced.of_link ?_
    rw [hstep]
  have hpushes : (h.step (.deliver side)).pushed =
      log h.pushed side x (c'.received.drop c.received.length) := by
    rw [hstep]
  refine ⟨place g side x y e' f', hr.inv hinv hj (allFor_singleton hnotice) hpdus
    hspec hincoming hpsm (hinv.sound_processPdu pdu hj.here hself) ?_ hfits' (hghost.1.trans hj.peer)
    (hghost'.1.trans hj.peer') ?_ ?_ ?_ ?_ ?_⟩
  · intro rest hrest
    rw [inbox_of_flight hflight hnotice, List.singleton_append, List.cons.injEq] at hrest
    rw [← hrest.2]
    exact hfits
  · intro side' z hapart
    rw [hpushes]
    exact ⟨rfl, log_ne _ _ hapart.1, rfl⟩
  · intro hbasic
    rw [hpushes, log_self, List.append_assoc, hlog hbasic]
    exact hj.log hbasic
  · intro hbasic
    rw [hpushes, log_ne _ _ (fun hsame => side.other_ne hsame.1), hlog' hbasic]
    exact hj.log' hbasic
  · exact hj.leaving.trans hghost.2.symm
  · exact hj.leaving'.trans hghost'.2.symm

/-- **The data PDUs of a pair.** In basic mode, data is refused only by an end that has left. -/
theorem Inv.deliver_data {payload : Bytes} (hinv : Inv basic h g) (hj : Joined h g side x y c s)
    (hflight : h.link.inFlight side = pdu :: inFlight)
    (hnotice : pdu.notice = some (x, .data payload)) :
    (c.mode = .basic → (ChannelManager.processPdu pdu (h.link.manager side)).1 = .ok () ∨
        h.left side x = true) ∧
      ∃ g', Inv basic (h.step (.deliver side)) g' := by
  have hc : (h.link.manager side).channel x = some c := hj.here
  obtain ⟨⟨hcid, _, hhandle⟩, _⟩ :=
    ChannelManager.processPdu_of_notice hnotice (h.link.manager side)
  have hinbox := inbox_of_flight hflight hnotice
  rw [hj.fits.inbox] at hinbox
  obtain ⟨_, hother, _⟩ | ⟨_, _, hother, _⟩ | ⟨_, _, hother, _⟩ |
    ⟨hphase, htwo, hpeer, payload, data, hdata, hsame, hrest⟩ | ⟨_, _, _, _, _, _, hother, _⟩ |
    ⟨_, _, _, _, _, _, hother, _⟩ := EndState.inbox_cons hinbox <;> try cases hother
  cases hsame
  have hne : (g side x).data ≠ [] := by
    rw [hdata]
    exact List.cons_ne_nil _ _
  have hdestination : c.destinationCid = y := by
    rw [hj.fits.destination, if_neg hphase, hj.peer]
  have hsound := (hinv.sound _ _ _ hj.here).1
  rcases ChannelManager.processData_cases hc payload with ⟨hclosed, error, hdropped⟩ |
    ⟨hopen, ⟨engine, received, payloads, hengine, hprocess⟩, hplain⟩
  · -- The channel is not open: in basic mode, its owner has left it.
    have hleft (hmode : c.mode = .basic) : (g side x).left = true :=
      (hj.fits.open_or_left hne htwo hmode).resolve_left hclosed
    refine ⟨fun hmode => .inr (hj.leaving.trans (hleft hmode)), ?_⟩
    have hlost : (g side x).lost ++ (if c.mode = .basic then [payload] else []) ≠ [] →
        (g side x).left = true := by
      intro hlost
      by_cases hmode : c.mode = .basic
      · exact hleft hmode
      · rw [if_neg hmode, List.append_nil] at hlost
        exact hj.fits.lost hlost
    obtain ⟨hfits, hfits'⟩ := hj.fits.arrived hj.fits' hdata hrest hlost
    have hprocess : (ChannelManager.processPdu pdu (h.link.manager side)).2 =
        ChannelManager.react x c
          (List.map (fun payload => { cid := c.destinationCid, payload := payload }) []) []
          (h.link.manager side) := by
      rw [hhandle, hdropped]
      exact (ChannelManager.react_self hc).symm
    refine hinv.deliver_payload hj hflight hnotice hcid hdestination hprocess
      ⟨rfl, rfl, rfl⟩ hfits ?_ ⟨rfl, rfl⟩ ⟨rfl, rfl⟩ ?_ ?_
    · rw [List.map_nil, List.append_nil]
      exact hfits'
    · intro hmode
      simp [hmode, hdata]
    · intro _
      rfl
  obtain ⟨hleft, _, _, _, _, haccepts⟩ := hj.fits.of_open hopen
  have hlost : (g side x).lost = [] := by
    by_contra hlost
    rw [hj.fits.lost hlost] at hleft
    cases hleft
  have hmodes : s.mode = c.mode := by
    rw [hj.fits'.mode, ← ChannelSpec.mode_of_accepts haccepts, hj.fits.mode]
  obtain ⟨hfits, hfits'⟩ := hj.fits.arrived hj.fits' hdata hrest hj.fits.lost
  rcases hmode : c.mode with _ | _
  · -- Basic mode: the payload is pushed.
    have hnone : c.ertm = none := by
      rcases hertm : c.ertm with _ | engine
      · rfl
      · rw [hsound.engine (by rw [hertm]; rfl)] at hmode
        cases hmode
    have hshort : payload.length ≤ c.mtu.toNat := by
      apply hj.fits.short hmode
      rw [hdata]
      exact List.mem_cons_self
    rcases hplain hnone with ⟨hlong, _⟩ | ⟨_, hpush⟩
    · omega
    rw [← hhandle] at hpush
    refine ⟨fun _ => .inl (by rw [hpush]), ?_⟩
    have hprocess : (ChannelManager.processPdu pdu (h.link.manager side)).2 =
        ChannelManager.react x { c with received := c.received ++ [payload] }
          (List.map (fun payload => { cid := c.destinationCid, payload := payload }) []) []
          (h.link.manager side) := by
      rw [hpush]
      rfl
    refine hinv.deliver_payload hj hflight hnotice hcid hdestination hprocess ⟨rfl, rfl, rfl⟩
      (hfits.withData c.ertm rfl _) ?_ ⟨rfl, rfl⟩ ⟨rfl, rfl⟩ ?_ ?_
    · rw [List.map_nil, List.append_nil]
      exact hfits'
    · intro _
      simp [hlost, hdata]
    · intro _
      rfl
  · -- Retransmission mode: the engine takes the frame.
    refine ⟨nofun, ?_⟩
    obtain ⟨hfits, hfits'⟩ := hfits.sends hfits' (.inl hopen) payloads (by
      intro hbasic
      rw [hmodes, hmode] at hbasic
      cases hbasic)
    rw [← hhandle] at hprocess
    refine hinv.deliver_payload hj hflight hnotice hcid hdestination hprocess ⟨rfl, rfl, rfl⟩
      (hfits.withData _ hengine received) hfits' ⟨rfl, rfl⟩ ⟨rfl, rfl⟩ ?_ ?_
    · intro hbasic
      rw [hmode] at hbasic
      cases hbasic
    · intro hbasic
      rw [hmodes, hmode] at hbasic
      cases hbasic

/-! ### Requests and refusals -/

/-- A channel that was never joined is no end of a pair. -/
theorem Joined.ne_of_phase {side' : Side} {z : UInt16} (hj : Joined h g side x y c s)
    (hphase : (g side' z).phase = 4) : ¬ (side.other = side' ∧ y = z) := by
  rintro ⟨rfl, rfl⟩
  have := hj.fits'.phase
  omega

/-- **A request is answered**: what the step touches is the channel that asked and new channels. -/
theorem Inv.answer {psm : UInt32} {emitted : List Notice} (touched : Side → UInt16 → Prop)
    (hinv : Inv basic h g) (hrequest : pdu.request = some (psm, x))
    (hpath : h.link.path side = pdu :: h'.link.path side)
    (hpath' : h'.link.path side.other = h.link.path side.other ++ pdus)
    (hall : AllFor x emitted pdus) (hx : touched side.other x)
    (htouched : ∀ side' z, touched side' z →
      side' = side.other ∧ z = x ∨ h.channel side' z = none)
    (hagree : ∀ side' z, ¬ touched side' z →
      h'.channel side' z = h.channel side' z ∧ g' side' z = g side' z)
    (hlogs : h'.sent = h.sent ∧ h'.pushed = h.pushed ∧ h'.left = h.left)
    (hsettled : ∀ side' z, touched side' z → ∃ d, Settled basic h' g' side' z d)
    (hservers : ∀ side', (h'.link.manager side').servers = (h.link.manager side').servers) :
    Inv basic h' g' := by
  obtain ⟨hsent, hpushed, hleft⟩ := hlogs
  have hrequests : h.requests side = (psm, x) :: h'.requests side := by
    rw [requests, hpath, requestsIn, List.filterMap_cons, hrequest]
    rfl
  have hother : h'.requests side.other = h.requests side.other := by
    rw [requests, hpath', requestsIn_append, hall.requestsIn_eq, List.append_nil]
    rfl
  have hnodup := hinv.nodup side
  rw [hrequests, List.map_cons, List.nodup_cons] at hnodup
  obtain ⟨_, _, _, _, _, hphase⟩ := hinv.requested side psm x (by
    rw [hrequests]
    exact List.mem_cons_self)
  refine hinv.frame touched ?_ ?_ hsettled ?_ ?_ ?_ ?_ ?_
  · intro side' z hz
    obtain ⟨hchannel, hghost⟩ := hagree side' z hz
    refine ⟨hchannel, ?_, hghost, by rw [hsent], by rw [hpushed], by rw [hleft]⟩
    by_cases hside : side' = side
    · rw [hside, inbox, inbox, hpath, noticesFor_cons_none (L2capPdu.notice_of_request hrequest)]
    · rw [Side.eq_other_of_ne hside] at hz ⊢
      have hne : z ≠ x := by
        rintro rfl
        exact hz hx
      rw [inbox, hpath', noticesFor_append, hall.noticesFor_ne hne, List.append_nil]
      rfl
  · intro side' z z' d d' hj _ hz'
    rcases htouched _ _ hz' with hend | hnone
    · exact Joined.ne_of_phase hj hphase hend
    · exact Joined.ne_of_phase hj (hinv.absent _ _ hnone) ⟨rfl, rfl⟩
  · intro side' psm' spec hserver
    rw [hservers] at hserver
    exact hinv.servers side' psm' spec hserver
  · intro side' psm' z hmem hz
    by_cases hside : side' = side
    · rw [hside, hrequests] at hmem
      rw [hside] at hz ⊢
      rcases List.mem_cons.mp hmem with heq | hmem
      · cases heq
        exact absurd hx hz
      · exact hmem
    · rw [Side.eq_other_of_ne hside] at hmem ⊢
      rw [hother]
      exact hmem
  · intro side'
    by_cases hside : side' = side
    · rw [hside]
      exact hnodup.2
    · rw [Side.eq_other_of_ne hside, hother]
      exact hinv.nodup _
  · intro side' psm' z hmem
    -- The requests that are left come from other channels.
    have hmem : (psm', z) ∈ h.requests side' ∧ ¬ (side'.other = side.other ∧ z = x) := by
      by_cases hside : side' = side
      · rw [hside] at hmem ⊢
        rw [hrequests]
        refine ⟨List.mem_cons_of_mem _ hmem, ?_⟩
        rintro ⟨_, rfl⟩
        exact hnodup.1 (List.mem_map.mpr ⟨_, hmem, rfl⟩)
      · rw [Side.eq_other_of_ne hside] at hmem ⊢
        rw [hother] at hmem
        refine ⟨hmem, ?_⟩
        rintro ⟨hsides, _⟩
        exact side.other.other_ne hsides
    refine .inl ⟨hmem.1, ?_⟩
    intro hz
    rcases htouched _ _ hz with hend | hnone
    · exact hmem.2 hend
    · obtain ⟨_, _, _, hchannel, _, _⟩ := hinv.requested side' psm' z hmem.1
      cases hchannel.symm.trans hnone
  · intro side' pdu' hmem
    by_cases hside : side' = side
    · rw [hside] at hmem ⊢
      rw [hpath]
      exact .inl (List.mem_cons_of_mem _ hmem)
    · rw [Side.eq_other_of_ne hside] at hmem ⊢
      rw [hpath'] at hmem
      rcases List.mem_append.mp hmem with hmem | hmem
      · exact .inl hmem
      · obtain ⟨notice, hnotice⟩ := hall.notice_of_mem hmem
        obtain ⟨d, hd⟩ := hsettled _ _ hx
        exact .inr (.inr ⟨x, notice, d, hnotice, hd.channel⟩)

/-- **A request that is refused.** -/
theorem Inv.deliver_refusal {psm : UInt32} {identifier : UInt8} {result : UInt16}
    (hinv : Inv basic h g) (hflight : h.link.inFlight side = pdu :: inFlight)
    (hcid : pdu.cid = l2capSignalingCid) (hrequest : pdu.request = some (psm, x))
    (hresult : result ≠ connectionSuccessful)
    (hprocess : (ChannelManager.processPdu pdu (h.link.manager side)).2 =
      ChannelManager.queued [signal (.connectionResponse identifier 0 x result 0)]
        (h.link.manager side)) :
    Inv basic (h.step (.deliver side)) g := by
  have hpath := path_cons_of_flight hflight
  obtain ⟨_, spec, _, hchannel, hinbox, hphase⟩ := hinv.requested side psm x (by
    rw [requests, hpath, requestsIn, List.filterMap_cons, hrequest]
    exact List.mem_cons_self)
  have hanswer : (signal (.connectionResponse identifier 0 x result 0)).notice =
      some (x, .refused result) := by
    rw [L2capPdu.notice_signal (ControlFrame.connectionResponse_faithful _ _ _ _ _),
      ControlFrame.notice, if_neg hresult]
  have hall := allFor_singleton hanswer
  rw [hinv.step_deliver hflight hcid, hprocess]
  set h' := replaced side (ChannelManager.queued
    [signal (.connectionResponse identifier 0 x result 0)] (h.link.manager side)) inFlight h with hh'
  have hpath' : h'.link.path side.other =
      h.link.path side.other ++ [signal (.connectionResponse identifier 0 x result 0)] := by
    rw [hh', path_replaced_other, Link.path, Side.other_other, List.append_assoc]
    rfl
  have hsame (side' : Side) (z : UInt16) : h'.channel side' z = h.channel side' z := by
    by_cases hside : side' = side
    · rw [hside, channel, hh', manager_replaced]
      rfl
    · rw [Side.eq_other_of_ne hside, channel, hh', manager_replaced_other]
      rfl
  refine hinv.answer (fun side' z => side' = side.other ∧ z = x) hrequest ?_ hpath' hall ⟨rfl, rfl⟩
    (fun _ _ => .inl) (fun side' z _ => ⟨hsame side' z, rfl⟩) ⟨rfl, rfl, rfl⟩ ?_ ?_
  · rw [hh', path_replaced]
    exact hpath
  · rintro side' z ⟨rfl, rfl⟩
    refine ⟨_, (hsame _ _).trans hchannel, hinv.sound _ _ _ hchannel, (by rintro ⟨⟩), ?_,
      hinv.blank _ _⟩
    intro _
    refine .refusing result hresult rfl ?_ hphase
    have hbefore : noticesFor z (h.link.path side.other) = [] := hinbox
    rw [inbox, hpath', noticesFor_append, hbefore, hall.noticesFor_self]
    rfl
  · intro side'
    by_cases hside : side' = side
    · rw [hside, hh', manager_replaced]
      rfl
    · rw [Side.eq_other_of_ne hside, hh', manager_replaced_other]

/-- **A request that is accepted.** -/
theorem Inv.deliver_acceptance {psm : UInt32} {identifier : UInt8} {spec : ChannelSpec}
    (hinv : Inv basic h g) (hflight : h.link.inFlight side = pdu :: inFlight)
    (hcid : pdu.cid = l2capSignalingCid) (hrequest : pdu.request = some (psm, x))
    (hserver : (h.link.manager side).servers[psm]? = some spec)
    (halloc : (h.link.manager side).allocateCid = .ok y)
    (hprocess : (ChannelManager.processPdu pdu (h.link.manager side)).2 = {
      ChannelManager.react y (.newIncoming psm y x spec)
        [signal (.connectionResponse identifier y x connectionSuccessful 0),
         signal (.configureRequest (h.link.manager side).following x 0
           (ChannelManager.configurationBytes spec))] [] (h.link.manager side) with
      identifier := (h.link.manager side).following }) :
    ∃ g', Inv basic (h.step (.deliver side)) g' := by
  have hpath := path_cons_of_flight hflight
  obtain ⟨hvalid, hbasic⟩ := hinv.servers _ _ _ hserver
  obtain ⟨_, own, hown, hchannel, hinbox, hphase⟩ := hinv.requested side psm x (by
    rw [requests, hpath, requestsIn, List.filterMap_cons, hrequest]
    exact List.mem_cons_self)
  have hnone : h.channel side y = none := ChannelManager.allocateCid_spec halloc
  have hnew : (ChannelManager.processPdu pdu (h.link.manager side)).2.channel y =
      some (.newIncoming psm y x spec) := by
    rw [hprocess]
    exact ChannelManager.channel_insert_self (h.link.manager side) y _
  have hsound : (ClassicChannel.newIncoming psm y x spec).Sound y := by
    obtain ⟨announced, hproceeds⟩ := ChannelManager.processPdu_proceeds pdu (h.link.manager side)
    exact (hproceeds.fresh y _ hnone hnew).1
  obtain ⟨hfits, hfits'⟩ := Fits.initial psm x y hown hvalid
  set pdus := [signal (.connectionResponse identifier y x connectionSuccessful 0),
    signal (.configureRequest (h.link.manager side).following x 0
      (ChannelManager.configurationBytes spec))] with hpdus
  have hall : AllFor x [.connected y, .configure 0 (ChannelManager.configurationBytes spec)]
      pdus := by
    have hconnected := L2capPdu.notice_signal
      (ControlFrame.connectionResponse_faithful identifier y x connectionSuccessful 0)
    have hconfigure := L2capPdu.notice_signal (ControlFrame.configureRequest_faithful
      (h.link.manager side).following x 0 (length_configurationBytes spec))
    rw [AllFor, hpdus, List.map_cons, List.map_cons, hconnected, hconfigure]
    rfl
  rw [hinv.step_deliver hflight hcid]
  set h' := replaced side (ChannelManager.processPdu pdu (h.link.manager side)).2 inFlight h
    with hh'
  have hsame (side' : Side) (z : UInt16) (hz : ¬ (side' = side ∧ z = y)) :
      h'.channel side' z = h.channel side' z := by
    by_cases hside : side' = side
    · have hne : y ≠ z := fun hyz => hz ⟨hside, hyz.symm⟩
      rw [hside, channel, hh', manager_replaced, hprocess]
      exact ChannelManager.channel_insert_ne (h.link.manager side) _ hne
    · rw [Side.eq_other_of_ne hside, channel, hh', manager_replaced_other]
      rfl
  have hhere : h'.channel side y = some (.newIncoming psm y x spec) := by
    rw [channel, hh', manager_replaced]
    exact hnew
  have hthere : h'.channel side.other x = some (.newOutgoing psm x own) :=
    (hsame _ _ fun hends => side.other_ne hends.1).trans hchannel
  have hpath'' : h.link.path side = pdu :: h'.link.path side := by
    rw [hh', path_replaced]
    exact hpath
  have hpath' : h'.link.path side.other = h.link.path side.other ++ pdus := by
    rw [hh', path_replaced_other, Link.path, Side.other_other, List.append_assoc, hprocess]
    rfl
  have hinboxHere : h'.inbox side y = [] := by
    have hbefore := hinv.inbox_absent hnone
    rw [inbox, hpath'', noticesFor_cons_none (L2capPdu.notice_of_request hrequest)] at hbefore
    exact hbefore
  have hinboxThere : h'.inbox side.other x =
      [.connected y, .configure 0 (ChannelManager.configurationBytes spec)] := by
    have hbefore : noticesFor x (h.link.path side.other) = [] := hinbox
    rw [inbox, hpath', noticesFor_append, hbefore, hall.noticesFor_self]
    rfl
  obtain ⟨hsent, hpushed, hleft⟩ := hinv.blank _ _ (hinv.absent _ _ hnone)
  obtain ⟨hsent', hpushed', hleft'⟩ := hinv.blank _ _ hphase
  set g' := place g side y x { peer := x, phase := 1 } { peer := y, phase := 0 } with hg'
  have hjoined : Joined h' g' side y x (.newIncoming psm y x spec) (.newOutgoing psm x own) := by
    refine ⟨hhere, hthere, ?_, ?_, ?_, ?_, rfl, rfl, ?_, ?_, ?_, ?_⟩
    · rw [hg', place_here, place_there, hinboxHere]
      exact hfits'
    · rw [hg', place_here, place_there, hinboxThere]
      exact hfits
    · rw [hg', place_here]
    · rw [hg', place_there]
    · intro _
      rw [hg', place_here]
      exact hsent'.trans (congrArg (· ++ []) hpushed).symm
    · intro _
      rw [hg', place_there]
      exact hsent.trans (congrArg (· ++ []) hpushed').symm
    · rw [hg', place_here]
      exact hleft
    · rw [hg', place_there]
      exact hleft'
  refine ⟨g', hinv.answer (fun side' z => ¬ Apart side y x side' z) hrequest hpath'' hpath' hall ?_
    ?_ ?_ ⟨rfl, rfl, rfl⟩ ?_ ?_⟩
  · exact fun hapart => hapart.2 ⟨rfl, rfl⟩
  · intro side' z hz
    rcases not_apart hz with ⟨rfl, rfl⟩ | hend
    · exact .inr hnone
    · exact .inl hend
  · intro side' z hz
    have hapart := not_not.mp hz
    exact ⟨hsame side' z hapart.1, place_apart g _ _ hapart⟩
  · intro side' z hz
    rcases not_apart hz with ⟨rfl, rfl⟩ | ⟨rfl, rfl⟩
    · refine ⟨_, hhere, ⟨hsound, hbasic⟩, fun _ => ⟨_, _, hjoined⟩, (by rintro ⟨⟩), ?_⟩
      rw [hg', place_here]
      rintro ⟨⟩
    · refine ⟨_, hthere, hinv.sound _ _ _ hchannel, (by rintro ⟨⟩),
        fun _ => .joined _ _ hjoined.symm, ?_⟩
      rw [hg', place_there]
      rintro ⟨⟩
  · intro side'
    by_cases hside : side' = side
    · rw [hside, hh', manager_replaced, hprocess]
      rfl
    · rw [Side.eq_other_of_ne hside, hh', manager_replaced_other]

/-- **A connection request** is handled without an error. -/
theorem Inv.deliver_request {request : UInt32 × UInt16} (hinv : Inv basic h g)
    (hflight : h.link.inFlight side = pdu :: inFlight) (hrequest : pdu.request = some request) :
    (ChannelManager.processPdu pdu (h.link.manager side)).1 = .ok () ∧
      ∃ g', Inv basic (h.step (.deliver side)) g' := by
  obtain ⟨psm, x⟩ := request
  obtain ⟨hcid, identifier, hhandle⟩ :=
    ChannelManager.processPdu_of_request hrequest (h.link.manager side)
  rcases ChannelManager.onConnectionRequest_cases identifier psm x (h.link.manager side) with
    ⟨result, hresult, hprocess⟩ | ⟨spec, y, hserver, halloc, hprocess⟩
  · have hprocess := hhandle.trans hprocess
    exact ⟨by rw [hprocess],
      g, hinv.deliver_refusal hflight hcid hrequest hresult (by rw [hprocess])⟩
  · have hprocess := hhandle.trans hprocess
    exact ⟨by rw [hprocess],
      hinv.deliver_acceptance hflight hcid hrequest hserver halloc (by rw [hprocess])⟩

/-- A channel with something on the way has no request on the way. -/
theorem Inv.not_requested {notice : Notice} {rest : List Notice} (hinv : Inv basic h g)
    (hinbox : h.inbox side x = notice :: rest) {side' : Side} {psm : UInt32}
    (hside : side'.other = side) : (psm, x) ∉ h.requests side' := by
  intro hmem
  obtain ⟨_, _, _, _, hempty, _⟩ := hinv.requested side' psm x hmem
  rw [hside, hinbox] at hempty
  cases hempty

/-- **The refusal of a request** arrives. -/
theorem Inv.deliver_refused {result : UInt16} (hinv : Inv basic h g)
    (hflight : h.link.inFlight side = pdu :: inFlight)
    (hnotice : pdu.notice = some (x, .refused result)) (hc : h.channel side x = some c)
    (hresult : result ≠ connectionSuccessful) (hfresh : c = .newOutgoing c.psm x c.spec)
    (hinbox : h.inbox side x = [.refused result]) (hphase : (g side x).phase = 4) :
    (ChannelManager.processPdu pdu (h.link.manager side)).1 = .ok () ∧
      Inv basic (h.step (.deliver side)) g := by
  have hc' : (h.link.manager side).channel x = some c := hc
  obtain ⟨⟨_, peer, hhandle⟩, hkind⟩ :=
    ChannelManager.processPdu_of_notice hnotice (h.link.manager side)
  have hcid : pdu.cid = l2capSignalingCid := hkind.mpr rfl
  have hstate : c.state = .waitConnectResponse := by rw [hfresh]; rfl
  have hincoming : c.incoming = false := by rw [hfresh]; rfl
  have hprocess := hhandle.trans (ChannelManager.onConnectionResponse_eq hc' peer result)
  rw [if_neg (not_not.mpr hstate), if_pos hresult] at hprocess
  refine ⟨by rw [hprocess], ?_⟩
  rw [hinv.step_deliver hflight hcid, hprocess]
  have hsound : ({ c with connectionResult := some result, state := .closed } :
      ClassicChannel).Sound x := by
    apply hinv.sound_processPdu pdu hc
    rw [hprocess]
    exact ChannelManager.channel_react_self _ _
  set h' := replaced side (ChannelManager.react x
    { c with connectionResult := some result, state := .closed } [] [] (h.link.manager side))
    inFlight h with hh'
  have hpath : h.link.path side = pdu :: h'.link.path side := by
    rw [hh', path_replaced]
    exact path_cons_of_flight hflight
  have hpath' : h'.link.path side.other = h.link.path side.other := by
    rw [hh', path_replaced_other, Link.path, Side.other_other]
    exact congrArg _ (List.append_nil _)
  have hall := allFor_singleton hnotice
  have hrequests (side' : Side) : h'.requests side' = h.requests side' := by
    by_cases hside : side' = side
    · rw [hside, requests, requests, hpath, requestsIn, requestsIn, List.filterMap_cons,
        L2capPdu.request_of_notice hnotice]
    · rw [Side.eq_other_of_ne hside, requests, requests, hpath']
  have hself : h'.channel side x =
      some { c with connectionResult := some result, state := .closed } := by
    rw [channel, hh', manager_replaced]
    exact ChannelManager.channel_react_self _ _
  have hempty : h'.inbox side x = [] := by
    rw [inbox_of_flight hflight hnotice, List.cons.injEq] at hinbox
    rw [inbox, hh', path_replaced]
    exact hinbox.2
  have hnot (side' : Side) (psm : UInt32) (z : UInt16) (hmem : (psm, z) ∈ h.requests side') :
      ¬ (side'.other = side ∧ z = x) := by
    rintro ⟨hside, rfl⟩
    exact hinv.not_requested hinbox hside hmem
  refine hinv.frame (fun side' z => side' = side ∧ z = x) ?_ ?_ ?_ ?_ ?_ ?_ ?_ ?_
  · intro side' z hz
    refine ⟨?_, ?_, rfl, rfl, rfl, rfl⟩
    · by_cases hside : side' = side
      · have hne : x ≠ z := fun hxz => hz ⟨hside, hxz.symm⟩
        rw [hside, channel, hh', manager_replaced]
        exact ChannelManager.channel_react_ne hne _ _
      · rw [Side.eq_other_of_ne hside, channel, hh', manager_replaced_other]
        rfl
    · by_cases hside : side' = side
      · rw [hside] at hz ⊢
        have hne : z ≠ x := fun hzx => hz ⟨rfl, hzx⟩
        rw [inbox, inbox, hpath, ← List.singleton_append, noticesFor_append,
          hall.noticesFor_ne hne, List.nil_append]
      · rw [Side.eq_other_of_ne hside, inbox, inbox, hpath']
  · intro side' z z' d d' hj _
    exact Joined.ne_of_phase hj hphase
  · rintro side' z ⟨rfl, rfl⟩
    refine ⟨_, hself, ⟨hsound, (hinv.sound _ _ _ hc).2⟩, ?_, ?_, hinv.blank _ _⟩
    · intro hin
      cases hincoming.symm.trans hin
    · intro _
      refine .refused result hresult ?_ hempty hphase
      rw [hfresh]
      rfl
  · intro side' psm spec hserver
    apply hinv.servers side' psm spec
    rw [← hserver]
    by_cases hside : side' = side
    · rw [hside, hh', manager_replaced]
      rfl
    · rw [Side.eq_other_of_ne hside, hh', manager_replaced_other]
  · intro side' psm z hmem _
    rw [hrequests]
    exact hmem
  · intro side'
    rw [hrequests]
    exact hinv.nodup side'
  · intro side' psm z hmem
    rw [hrequests] at hmem
    exact .inl ⟨hmem, hnot side' psm z hmem⟩
  · intro side' pdu' hmem
    refine .inl ?_
    by_cases hside : side' = side
    · rw [hside] at hmem ⊢
      rw [hpath]
      exact List.mem_cons_of_mem _ hmem
    · rw [Side.eq_other_of_ne hside] at hmem ⊢
      rw [← hpath']
      exact hmem

/-! ### Information -/

theorem silent_of_information {pdus : List L2capPdu} (h : ∀ pdu ∈ pdus, pdu.IsInformation)
    (z : UInt16) : noticesFor z pdus = [] ∧ requestsIn pdus = [] := by
  constructor
  · rw [noticesFor, List.filterMap_eq_nil_iff]
    intro pdu hmem
    rw [(h pdu hmem).silent.1]
    rfl
  · rw [requestsIn, List.filterMap_eq_nil_iff]
    intro pdu hmem
    exact (h pdu hmem).silent.2

/-- A step of one side that concerns no channel, and the information it takes and sends. -/
theorem Inv.aside (hinv : Inv basic h g) (hchannels : m.channels = (h.link.manager side).channels)
    (hservers : ∀ (psm : UInt32) spec, m.servers[psm]? = some spec →
      spec.Valid ∧ (basic → spec.mode = .basic))
    (hout : m.outbound = (h.link.manager side).outbound ++ pdus)
    (hflight : h.link.inFlight side = taken ++ inFlight)
    (htaken : ∀ pdu ∈ taken, pdu.IsInformation) (hpdus : ∀ pdu ∈ pdus, pdu.IsInformation) :
    Inv basic (replaced side m inFlight h) g := by
  have hpath : h.link.path side = taken ++ (replaced side m inFlight h).link.path side := by
    rw [path_replaced, Link.path, hflight, List.append_assoc]
  have hpath' : (replaced side m inFlight h).link.path side.other =
      h.link.path side.other ++ pdus := by
    rw [path_replaced_other, Link.path, Side.other_other, hout, List.append_assoc]
  refine hinv.same ?_ ?_ ?_ ⟨rfl, rfl, rfl⟩ ?_ ?_
  · intro side' z
    by_cases hside : side' = side
    · rw [hside, channel, manager_replaced, ChannelManager.channel, hchannels]
      rfl
    · rw [Side.eq_other_of_ne hside, channel, manager_replaced_other]
      rfl
  · intro side' z
    by_cases hside : side' = side
    · rw [hside, inbox, inbox, hpath, noticesFor_append, (silent_of_information htaken z).1]
      rfl
    · rw [Side.eq_other_of_ne hside, inbox, inbox, hpath', noticesFor_append,
        (silent_of_information hpdus z).1, List.append_nil]
  · intro side'
    by_cases hside : side' = side
    · rw [hside, requests, requests, hpath, requestsIn_append, (silent_of_information htaken 0).2]
      rfl
    · rw [Side.eq_other_of_ne hside, requests, requests, hpath', requestsIn_append,
        (silent_of_information hpdus 0).2, List.append_nil]
  · intro side' psm spec hserver
    by_cases hside : side' = side
    · rw [hside, manager_replaced] at hserver
      exact hservers psm spec hserver
    · rw [Side.eq_other_of_ne hside, manager_replaced_other] at hserver
      exact hinv.servers _ psm spec hserver
  · intro side' pdu hmem
    by_cases hside : side' = side
    · rw [hside] at hmem ⊢
      rw [hpath]
      exact .inl (List.mem_append_right _ hmem)
    · rw [Side.eq_other_of_ne hside] at hmem ⊢
      rw [hpath'] at hmem
      exact (List.mem_append.mp hmem).imp id fun hmem => .inr (hpdus pdu hmem)

/-- **Information** is handled without an error. -/
theorem Inv.deliver_information (hinv : Inv basic h g)
    (hflight : h.link.inFlight side = pdu :: inFlight) (hinformation : pdu.IsInformation) :
    (ChannelManager.processPdu pdu (h.link.manager side)).1 = .ok () ∧
      Inv basic (h.step (.deliver side)) g := by
  obtain ⟨m', pdus, hprocess, hchannels, hservers, hout, hpdus⟩ :=
    ChannelManager.processPdu_of_information hinformation (h.link.manager side)
  refine ⟨by rw [hprocess], ?_⟩
  rw [hinv.step_deliver hflight hinformation.1, hprocess]
  have htaken : h.link.inFlight side = [pdu] ++ inFlight := hflight
  refine hinv.aside hchannels ?_ hout htaken ?_ hpdus
  · intro psm spec hserver
    rw [hservers] at hserver
    exact hinv.servers side psm spec hserver
  · intro pdu' hmem
    rw [List.mem_singleton.mp hmem]
    exact hinformation

/-! ### Every PDU -/

/-- **A delivery keeps the invariant.** A signaling PDU is handled without an error, and so is data
in basic mode, unless the owner of the channel has left. -/
theorem Inv.deliver (hinv : Inv basic h g) (hflight : h.link.inFlight side = pdu :: inFlight) :
    (pdu.cid = l2capSignalingCid →
        (ChannelManager.processPdu pdu (h.link.manager side)).1 = .ok ()) ∧
      (basic → pdu.cid ≠ l2capSignalingCid →
        (ChannelManager.processPdu pdu (h.link.manager side)).1 = .ok () ∨
          h.left side pdu.cid = true) ∧
      ∃ g', Inv basic (h.step (.deliver side)) g' := by
  have hmem : pdu ∈ h.link.path side := by
    rw [path_cons_of_flight hflight]
    exact List.mem_cons_self
  rcases hinv.addressed side pdu hmem with (⟨request, hrequest⟩ | hinformation) |
    ⟨x, notice, c, hnotice, hc⟩
  · obtain ⟨hok, hinv'⟩ := hinv.deliver_request hflight hrequest
    exact ⟨fun _ => hok, fun _ _ => .inl hok, hinv'⟩
  · obtain ⟨hok, hinv'⟩ := hinv.deliver_information hflight hinformation
    exact ⟨fun _ => hok, fun _ _ => .inl hok, g, hinv'⟩
  obtain ⟨_, hkind⟩ := ChannelManager.processPdu_of_notice hnotice (h.link.manager side)
  have hinbox := inbox_of_flight hflight hnotice
  -- The channel is one end of a pair, or its request is being refused.
  have hpair (y : UInt16) (s : ClassicChannel) (hj : Joined h g side x y c s) :
      (pdu.cid = l2capSignalingCid →
          (ChannelManager.processPdu pdu (h.link.manager side)).1 = .ok ()) ∧
        (basic → pdu.cid ≠ l2capSignalingCid →
          (ChannelManager.processPdu pdu (h.link.manager side)).1 = .ok () ∨
            h.left side pdu.cid = true) ∧
        ∃ g', Inv basic (h.step (.deliver side)) g' := by
    rcases hsignaling : ChannelManager.isSignaling notice with _ | _
    · cases notice with
      | data payload =>
        obtain ⟨⟨hcid, hdata, _⟩, _⟩ :=
          ChannelManager.processPdu_of_notice hnotice (h.link.manager side)
        obtain ⟨hok, hinv'⟩ := hinv.deliver_data hj hflight hnotice
        refine ⟨fun hcid' => absurd hcid' hdata, ?_, hinv'⟩
        intro hbasic _
        rw [hcid]
        apply hok
        rw [hj.fits.mode]
        exact (hinv.sound _ _ _ hc).2 hbasic
      | _ => cases hsignaling
    · obtain ⟨hok, hinv'⟩ := hinv.deliver_notice hj hflight hnotice hsignaling
      exact ⟨fun _ => hok, fun _ _ => .inl hok, hinv'⟩
  rcases hincoming : c.incoming with _ | _
  · cases hinv.asked side x c hc hincoming with
    | requested psm hmem => exact absurd hmem (hinv.not_requested hinbox side.other_other)
    | refusing result hresult hfresh hone hphase =>
      have hsame := hinbox.symm.trans hone
      rw [List.cons.injEq] at hsame
      rw [hsame.1] at hnotice
      obtain ⟨hok, hinv'⟩ :=
        hinv.deliver_refused hflight hnotice hc hresult hfresh hone hphase
      exact ⟨fun _ => hok, fun _ _ => .inl hok, g, hinv'⟩
    | refused result _ hclosed hnone hphase => cases hinbox.symm.trans hnone
    | joined y s hj => exact hpair y s hj
  · obtain ⟨y, s, hj⟩ := hinv.served side x c hc hincoming
    exact hpair y s hj

end LinkHistory

end ClassicHid
