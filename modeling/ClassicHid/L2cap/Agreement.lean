import ClassicHid.L2cap.Delivery
import ClassicHid.L2cap.Specification

/-!
# Two links agree

The owners of two links act on them while PDUs are put on the wire and delivered. Whatever the
order, the invariant of the two links holds; when nothing is on the way any more, both ends of a
pair are open with the same parameters or both are closed.

## Main definitions

* `ManagerOp.Permitted`, `LinkOp.Permitted`: what the owner of a link may do
* `LinkHistory.new`: two new links
* `LinkHistory.Pair`: the two channels of a connection request that was accepted
* `LinkHistory.Agree`: two channels are open and agree on their parameters

## Main results

* `LinkHistory.Inv.run`: the invariant holds in every run
* `LinkHistory.negotiation_agrees`: what two links have agreed on when nothing is on the way
* `LinkHistory.basic_data_delivered`: data in basic mode arrives, in order, until an end is left
-/

namespace ClassicHid

open Foundation

/-- What the owner of a link may do with it while its PDUs go over the wire. With `basic` only basic
mode is used, and then a channel may be left. -/
def ManagerOp.Permitted (basic : Prop) : ManagerOp → Prop
  | .registerErtmServer .. => ¬ basic
  | .connect psm _ => psm.toNat < 0x10000
  | .connectErtm psm _ => psm.toNat < 0x10000 ∧ ¬ basic
  | .disconnect _ => basic
  -- PDUs come from the wire and go to it: nobody else makes them up or takes them away.
  | .processPdu _ | .processBytes _ | .pollOutbound | .drainOutbound => False
  | _ => True

/-- The operations that `LinkHistory` keeps a log of. -/
def ManagerOp.isLogged : ManagerOp → Bool
  | .send .. | .disconnect .. => true
  | _ => false

def LinkOp.Permitted (basic : Prop) : LinkOp → Prop
  | .act _ op => op.Permitted basic
  | .transmit _ | .deliver _ => True

instance (basic : Prop) [Decidable basic] : DecidablePred (ManagerOp.Permitted basic)
  | .registerErtmServer .. => inferInstanceAs (Decidable (¬ basic))
  | .connect psm _ => inferInstanceAs (Decidable (psm.toNat < 0x10000))
  | .connectErtm psm _ => inferInstanceAs (Decidable (psm.toNat < 0x10000 ∧ ¬ basic))
  | .disconnect _ => inferInstanceAs (Decidable basic)
  | .processPdu _ | .processBytes _ | .pollOutbound | .drainOutbound =>
    inferInstanceAs (Decidable False)
  | .registerServer .. | .unregisterServer _ | .send .. | .tick _ | .setReceiverBusy ..
  | .requestInformation _ | .pollAcceptedChannel | .pollInformationResponse
  | .drainInformationResponses | .popReceived _ => inferInstanceAs (Decidable True)

instance (basic : Prop) [Decidable basic] : DecidablePred (LinkOp.Permitted basic)
  | .act _ op => inferInstanceAs (Decidable (op.Permitted basic))
  | .transmit _ | .deliver _ => inferInstanceAs (Decidable True)

namespace LinkHistory

variable {basic : Prop} {h h' : LinkHistory} {g g' : Side → UInt16 → EndState} {side : Side}
  {x y : UInt16} {c s c' s' : ClassicChannel} {m m' : ChannelManager}
  {inFlight pdus : List L2capPdu}

open ChannelManager (signal)

/-! ### Steps of one side -/

theorem replaced_self : replaced side (h.link.manager side) (h.link.inFlight side) h = h := by
  simp only [replaced, Function.update_eq_self]

/-- A side acts on its link, and nothing is logged. -/
theorem step_act {op : ManagerOp} (hop : op.isLogged = false) :
    h.step (.act side op) =
      replaced side ((h.link.manager side).apply op) (h.link.inFlight side) h := by
  have hstep : h.link.step (.act side op) =
      (replaced side ((h.link.manager side).apply op) (h.link.inFlight side) h).link := by
    simp only [Link.step, Link.setManager, replaced, Function.update_eq_self]
  unfold step
  rw [hstep]
  cases op with
  | send cid sdu => cases hop
  | disconnect cid => cases hop
  | _ => rfl

/-- Putting a PDU on the wire changes no path. -/
theorem path_transmit (w : Link) (side side' : Side) :
    (w.step (.transmit side)).path side' = w.path side' := by
  rw [Link.step]
  split
  · rfl
  rename_i pdu outbound hout
  by_cases hside : side' = side
  · rw [hside]
    simp only [Link.path, Function.update_of_ne side.other_ne, Function.update_of_ne
      side.other_ne.symm]
  · rw [Side.eq_other_of_ne hside]
    simp only [Link.path, Side.other_other, Function.update_self, hout, List.append_assoc,
      List.singleton_append]

/-- **A PDU is put on the wire.** -/
theorem Inv.transmit (hinv : Inv basic h g) (side : Side) :
    Inv basic (h.step (.transmit side)) g := by
  have hmanager (side' : Side) :
      ((h.step (.transmit side)).link.manager side').channels =
          (h.link.manager side').channels ∧
        ((h.step (.transmit side)).link.manager side').servers =
          (h.link.manager side').servers := by
    change ((h.link.step (.transmit side)).manager side').channels = _ ∧
      ((h.link.step (.transmit side)).manager side').servers = _
    rw [Link.step]
    rcases (h.link.manager side).outbound with _ | ⟨pdu, outbound⟩
    · exact ⟨rfl, rfl⟩
    · by_cases hside : side' = side
      · subst hside
        simp only [Function.update_self, and_self]
      · simp only [Function.update_of_ne hside, and_self]
  have hpath (side' : Side) :
      (h.step (.transmit side)).link.path side' = h.link.path side' :=
    path_transmit h.link side side'
  refine hinv.same ?_ ?_ ?_ ⟨rfl, rfl, rfl⟩ ?_ ?_
  · intro side' z
    rw [channel, ChannelManager.channel, (hmanager side').1]
    rfl
  · intro side' z
    rw [inbox, inbox, hpath]
  · intro side'
    rw [requests, requests, hpath]
  · intro side' psm spec hserver
    rw [(hmanager side').2] at hserver
    exact hinv.servers side' psm spec hserver
  · intro side' pdu hmem
    rw [hpath] at hmem
    exact .inl hmem

/-! ### Channels that are in use -/

/-- A channel that is open, has an engine, or has received something belongs to a pair. -/
theorem Inv.joined (hinv : Inv basic h g) (hc : h.channel side x = some c)
    (hused : c.state = .open ∨ c.ertm.isSome = true ∨ c.received ≠ []) :
    ∃ y s, Joined h g side x y c s := by
  rcases hincoming : c.incoming with _ | _
  swap
  · exact hinv.served side x c hc hincoming
  -- A channel that was only asked for is as it was made.
  have hunused {psm : UInt32} {spec : ChannelSpec}
      (hfresh : c = .newOutgoing psm x spec) : False := by
    rw [hfresh] at hused
    rcases hused with hstate | hengine | hreceived
    · cases hstate
    · cases hengine
    · exact hreceived rfl
  cases hinv.asked side x c hc hincoming with
  | requested psm hmem =>
    obtain ⟨_, spec, _, hchannel, _⟩ := hinv.requested side.other psm x hmem
    rw [Side.other_other] at hchannel
    cases hc.symm.trans hchannel
    exact (hunused rfl).elim
  | refusing result _ hfresh => exact (hunused hfresh).elim
  | refused result _ hclosed =>
    rw [hclosed] at hused
    rcases hused with hstate | hengine | hreceived
    · cases hstate
    · cases hengine
    · exact absurd rfl hreceived
  | joined y s hj => exact ⟨y, s, hj⟩

/-- **A side sends data** to its peer, or only takes what it has received. -/
theorem Inv.data {engine : Option ErtmEngine} (received payloads sdus : List Bytes)
    (hinv : Inv basic h g) (hj : Joined h g side x y c s)
    (hengine : engine.isSome = c.ertm.isSome)
    (hmay : payloads ≠ [] ∨ sdus ≠ [] → c.state = .open ∨ c.ertm.isSome = true)
    (hlink : h'.link = (replaced side (ChannelManager.react x
      { c with ertm := engine, received := received }
      (payloads.map fun payload => { cid := c.destinationCid, payload := payload }) []
      (h.link.manager side)) (h.link.inFlight side) h).link)
    (hlogs : h'.sent = log h.sent side x sdus ∧ h'.pushed = h.pushed ∧ h'.left = h.left)
    (hbasic : c.mode = .basic → sdus = payloads ∧
      ∀ payload ∈ payloads, payload.length ≤ c.peerMtu.toNat) :
    ∃ g', Inv basic h' g' := by
  obtain ⟨hsent, hpushed, hleft⟩ := hlogs
  have hsound := (hinv.sound _ _ _ hj.here).1
  have hsound' : ({ c with ertm := engine, received := received } : ClassicChannel).Sound x := by
    refine ⟨hsound.source, hsound.dynamic, hsound.peerMtu, hsound.specMode, ?_, ?_, hsound.opened⟩
    · intro hsome
      exact hsound.engine (hengine.symm.trans hsome)
    · intro hconfigured hmode
      exact hengine.trans (hsound.configured hconfigured hmode)
  have hr : Reacts h h' side x { c with ertm := engine, received := received } []
      (payloads.map fun payload => { cid := c.destinationCid, payload := payload }) := by
    have hreplaced : Reacts h (replaced side (ChannelManager.react x
        { c with ertm := engine, received := received }
        (payloads.map fun payload => { cid := c.destinationCid, payload := payload }) []
        (h.link.manager side)) (h.link.inFlight side) h) side x _ [] _ :=
      reacts_replaced (ChannelManager.channel_react_self _ _)
        (fun z hz => ChannelManager.channel_react_ne (Ne.symm hz) _ _) rfl rfl rfl
    exact hreplaced.of_link hlink
  have hmodes (hsome : payloads ≠ [] ∨ sdus ≠ []) :
      (g side x).phase ≠ 0 ∧ 2 ≤ (g side.other y).phase ∧ s.mode = c.mode := by
    obtain ⟨htwo, haccepts⟩ : 2 ≤ (g side.other y).phase ∧ c.spec.accepts s.spec = true := by
      rcases hmay hsome with hopen | hsome
      · obtain ⟨_, _, _, _, htwo, haccepts⟩ := hj.fits.of_open hopen
        exact ⟨htwo, haccepts⟩
      · exact hj.fits.engine hsome
    refine ⟨?_, htwo, ?_⟩
    · intro hzero
      have := (hj.fits.first hzero).2
      omega
    · rw [hj.fits'.mode, ← ChannelSpec.mode_of_accepts haccepts, hj.fits.mode]
  -- The machine: the data joins what is on the way to the other end.
  have hfits : Fits c s.spec (h.inbox side x) (g side x)
        { g side.other y with data := (g side.other y).data ++ payloads } ∧
      Fits s c.spec (h.inbox side.other y ++ payloads.map .data)
        { g side.other y with data := (g side.other y).data ++ payloads } (g side x) := by
    by_cases hnone : payloads = []
    · rw [hnone, List.append_nil, List.map_nil, List.append_nil]
      exact ⟨hj.fits, hj.fits'⟩
    have hlive : c.state = .open ∨ c.ertm.isSome = true ∧ c.mode = .enhancedRetransmission :=
      (hmay (.inl hnone)).imp_right fun hsome => ⟨hsome, hsound.engine hsome⟩
    obtain ⟨_, htwo, hmode⟩ := hmodes (.inl hnone)
    refine hj.fits.sends hj.fits' hlive payloads ?_
    intro hplain payload hmem
    rw [hj.fits'.mtu, ← hj.fits.peerMtu htwo]
    exact (hbasic (hmode.symm.trans hplain)).2 payload hmem
  have hall : AllFor y (payloads.map .data)
      (payloads.map fun payload => { cid := c.destinationCid, payload := payload }) := by
    by_cases hnone : payloads = []
    · rw [hnone]
      exact allFor_nil y
    have hy : y ≠ l2capSignalingCid := by
      rintro rfl
      exact absurd (hinv.sound _ _ _ hj.there).1.dynamic (by decide)
    rw [hj.fits.destination, if_neg (hmodes (.inl hnone)).1, hj.peer]
    exact allFor_data hy payloads
  refine ⟨_, hr.inv hinv hj (allFor_nil x) hall rfl rfl rfl hsound' ?_ hfits.2 hj.peer hj.peer' ?_
    ?_ ?_ ?_ ?_⟩
  · intro rest hrest
    rw [List.nil_append] at hrest
    rw [← hrest]
    exact hfits.1.withData engine hengine received
  · intro side' z hapart
    rw [hsent, hpushed, hleft]
    exact ⟨log_ne _ _ hapart.1, rfl, rfl⟩
  · intro hmode
    rw [hsent, hpushed, log_ne _ _ (fun hsame => side.other_ne hsame.1)]
    exact hj.log hmode
  · intro hmode
    have hsdus : sdus = payloads := by
      by_cases hsome : payloads ≠ [] ∨ sdus ≠ []
      · exact (hbasic ((hmodes hsome).2.2.symm.trans hmode)).1
      · simp only [ne_eq, not_or, not_not] at hsome
        rw [hsome.1, hsome.2]
    rw [hsent, hpushed, log_self, hsdus, hj.log' hmode]
    simp only [List.append_assoc]
  · rw [hleft]
    exact hj.leaving
  · rw [hleft]
    exact hj.leaving'

/-- An engine of a channel moves. -/
theorem Inv.engine (hinv : Inv basic (replaced side m inFlight h) g)
    (hc : m.channel x = some c) (hengine : c.ertm.isSome = true)
    (hdata : ChannelManager.DataStep x c m m') :
    ∃ g', Inv basic (replaced side m' inFlight h) g' := by
  have hmanager := manager_replaced side m inFlight h
  have hc' : (replaced side m inFlight h).channel side x = some c := by
    rw [channel, hmanager]
    exact hc
  obtain ⟨y, s, hj⟩ := hinv.joined hc' (.inr (.inl hengine))
  obtain ⟨engine, received, payloads, hsome, rfl⟩ := hdata
  have hmode := (hinv.sound _ _ _ hc').1.engine hengine
  refine hinv.data received payloads [] hj hsome (fun _ => .inr hengine) ?_ ⟨?_, rfl, rfl⟩ ?_
  · rw [hmanager]
    simp only [replaced, Function.update_self, Function.update_idem]
  · rw [log_nil]
    rfl
  · intro hbasic
    cases hmode.symm.trans hbasic

/-- A call that fails and changes nothing. -/
theorem Inv.unchanged (hinv : Inv basic h g) (hlink : h'.link = h.link)
    (hlogs : h'.sent = h.sent ∧ h'.pushed = h.pushed ∧ h'.left = h.left) :
    ∃ g', Inv basic h' g' := by
  obtain ⟨hsent, hpushed, hleft⟩ := hlogs
  obtain ⟨link, sent, pushed, left⟩ := h'
  cases hlink
  cases hsent
  cases hpushed
  cases hleft
  exact ⟨g, hinv⟩

/-- **A side sends an SDU.** -/
theorem Inv.send (hinv : Inv basic h g) (side : Side) (cid : UInt16) (sdu : Bytes) :
    ∃ g', Inv basic (h.step (.act side (.send cid sdu))) g' := by
  have hlink : (h.step (.act side (.send cid sdu))).link = (replaced side
      (ChannelManager.send cid sdu (h.link.manager side)).2 (h.link.inFlight side) h).link := by
    simp only [step, Link.step, Link.setManager, ChannelManager.apply, replaced,
      Function.update_eq_self]
  have hlogs : (h.step (.act side (.send cid sdu))).sent = log h.sent side cid
        (if (ChannelManager.send cid sdu (h.link.manager side)).1.isOk then [sdu] else []) ∧
      (h.step (.act side (.send cid sdu))).pushed = h.pushed ∧
      (h.step (.act side (.send cid sdu))).left = h.left := by
    refine ⟨?_, rfl, rfl⟩
    simp only [step]
    split
    · rfl
    · rw [log_nil]
  have hrefused {error : L2capError}
      (hrun : ChannelManager.send cid sdu (h.link.manager side) =
        (.error error, h.link.manager side)) :
      ∃ g', Inv basic (h.step (.act side (.send cid sdu))) g' := by
    rw [hrun] at hlink hlogs
    rw [replaced_self] at hlink
    refine hinv.unchanged hlink ⟨?_, hlogs.2⟩
    rw [hlogs.1]
    exact log_nil _ _ _
  rcases hc : h.channel side cid with _ | c
  · exact hrefused (Exec.bind_error (ChannelManager.channelOr_none _ hc))
  rcases ChannelManager.send_cases hc sdu with ⟨_, error, hrun⟩ | ⟨hopen, hdata, hplain⟩
  · exact hrefused hrun
  obtain ⟨y, s, hj⟩ := hinv.joined hc (.inl hopen)
  rcases hengine : c.ertm with _ | engine
  · -- Basic mode: the SDU is queued as it is.
    rcases hplain hengine with ⟨_, error, hrun⟩ | ⟨hshort, hrun⟩
    · exact hrefused hrun
    rw [hrun] at hlink hlogs
    refine hinv.data c.received [sdu] [sdu] hj rfl (fun _ => .inl hopen) ?_ hlogs ?_
    · rw [hlink, ChannelManager.react, ChannelManager.insert_self hc, List.append_nil]
      rfl
    · refine fun _ => ⟨rfl, ?_⟩
      intro payload hmem
      rw [List.mem_singleton.mp hmem]
      exact hshort
  · obtain ⟨engine', received, payloads, hsome, hrun⟩ := hdata
    rw [hrun] at hlink
    refine hinv.data received payloads _ hj hsome (fun _ => .inl hopen) hlink hlogs ?_
    intro hmode
    rw [(hinv.sound _ _ _ hc).1.engine (by rw [hengine]; rfl)] at hmode
    cases hmode

/-- **The clock** of a link. -/
theorem Inv.tick (hinv : Inv basic h g) (side : Side) (ticks : UInt32) :
    ∃ g', Inv basic (h.step (.act side (.tick ticks))) g' := by
  rw [step_act rfl, ChannelManager.apply]
  have hchannel (cid : UInt16) : Exec.Keeps (fun m => ∃ g', Inv basic
      (replaced side m (h.link.inFlight side) h) g') (ChannelManager.tickChannel ticks cid) := by
    rintro m ⟨g', hinv'⟩
    rcases hc : m.channel cid with _ | c
    · rw [ChannelManager.tickChannel, Exec.bind_error (ChannelManager.channelOr_none _ hc)]
      exact ⟨g', hinv'⟩
    rcases hengine : c.ertm with _ | engine
    · rw [ChannelManager.tickChannel, Exec.bind_ok (ChannelManager.channelOr_some _ hc), hengine]
      exact ⟨g', hinv'⟩
    · exact hinv'.engine hc (by rw [hengine]; rfl) (ChannelManager.tickChannel_cases hc ticks)
  rw [ChannelManager.tick, Exec.get_bind]
  refine Exec.forEach_keeps (fun cid _ => hchannel cid) (h.link.manager side) ⟨g, ?_⟩
  rw [replaced_self]
  exact hinv

/-- **Flow control.** -/
theorem Inv.setReceiverBusy (hinv : Inv basic h g) (side : Side) (cid : UInt16) (busy : Bool) :
    ∃ g', Inv basic (h.step (.act side (.setReceiverBusy cid busy))) g' := by
  rw [step_act rfl, ChannelManager.apply]
  have hinv' : Inv basic (replaced side (h.link.manager side) (h.link.inFlight side) h) g := by
    rw [replaced_self]
    exact hinv
  rcases hc : (h.link.manager side).channel cid with _ | c
  · rw [ChannelManager.setReceiverBusy, Exec.bind_error (ChannelManager.channelOr_none _ hc)]
    exact ⟨g, hinv'⟩
  rcases hengine : c.ertm with _ | engine
  · rw [ChannelManager.setReceiverBusy, Exec.bind_ok (ChannelManager.channelOr_some _ hc), hengine]
    exact ⟨g, hinv'⟩
  · exact hinv'.engine hc (by rw [hengine]; rfl) (ChannelManager.setReceiverBusy_cases hc busy)

/-- **A received SDU is taken.** -/
theorem Inv.popReceived (hinv : Inv basic h g) (side : Side) (cid : UInt16) :
    ∃ g', Inv basic (h.step (.act side (.popReceived cid))) g' := by
  rw [step_act rfl, ChannelManager.apply, ChannelManager.popReceived]
  rcases hc : (h.link.manager side).channel cid with _ | c
  · rw [replaced_self]
    exact ⟨g, hinv⟩
  rcases hreceived : c.received with _ | ⟨sdu, received⟩
  · have hsame : c.popReceived.2 = c := by
      rw [ClassicChannel.popReceived, hreceived]
    dsimp only
    rw [hsame, ChannelManager.insert_self hc, replaced_self]
    exact ⟨g, hinv⟩
  · obtain ⟨y, s, hj⟩ := hinv.joined hc (.inr (.inr (by rw [hreceived]; exact List.cons_ne_nil _ _)))
    have hpop : c.popReceived.2 = { c with received := received } := by
      rw [ClassicChannel.popReceived, hreceived]
    refine hinv.data received [] [] hj rfl (by simp) ?_ ⟨?_, rfl, rfl⟩ (by simp)
    · dsimp only
      rw [hpop, ChannelManager.react, List.map_nil, List.append_nil, List.append_nil]
    · rw [log_nil]
      rfl

/-- **A side leaves a channel**, in basic mode. -/
theorem Inv.disconnect (hinv : Inv basic h g) (hbasic : basic) (side : Side) (cid : UInt16) :
    ∃ g', Inv basic (h.step (.act side (.disconnect cid))) g' := by
  have hlink : (h.step (.act side (.disconnect cid))).link = (replaced side
      (ChannelManager.disconnect cid (h.link.manager side)).2 (h.link.inFlight side) h).link := by
    simp only [step, Link.step, Link.setManager, ChannelManager.apply, replaced,
      Function.update_eq_self]
  have hleft : (h.step (.act side (.disconnect cid))).left =
      if (ChannelManager.disconnect cid (h.link.manager side)).1.isOk then
        fun side' cid' => (side' = side ∧ cid' = cid) || h.left side' cid'
      else h.left := rfl
  have hrefused {error : L2capError}
      (hrun : ChannelManager.disconnect cid (h.link.manager side) =
        (.error error, h.link.manager side)) :
      ∃ g', Inv basic (h.step (.act side (.disconnect cid))) g' := by
    rw [hrun] at hlink hleft
    rw [replaced_self] at hlink
    exact hinv.unchanged hlink ⟨rfl, rfl, hleft⟩
  rcases hc : h.channel side cid with _ | c
  · exact hrefused (Exec.bind_error (ChannelManager.channelOr_none _ hc))
  have hrun := ChannelManager.disconnect_eq hc
  split at hrun
  · exact hrefused hrun
  rename_i hopen
  have hopen := not_not.mp hopen
  rw [hrun] at hlink hleft
  obtain ⟨y, s, hj⟩ := hinv.joined hc (.inl hopen)
  have hmode : c.mode = .basic := by
    rw [hj.fits.mode]
    exact (hinv.sound _ _ _ hc).2 hbasic
  obtain ⟨_, _, _, hphase, _⟩ := hj.fits.of_open hopen
  obtain ⟨hfits, hfits'⟩ := hj.fits.leaves hj.fits' hopen hmode
  have hsound := (hinv.sound _ _ _ hc).1
  have hsound' : ({ c with state := .waitDisconnect } : ClassicChannel).Sound cid :=
    ⟨hsound.source, hsound.dynamic, hsound.peerMtu, hsound.specMode, hsound.engine,
      hsound.configured, (by rintro ⟨⟩)⟩
  have hr : Reacts h (h.step (.act side (.disconnect cid))) side cid
      { c with state := .waitDisconnect } []
      [signal (.disconnectionRequest (h.link.manager side).following c.destinationCid cid)] := by
    refine Reacts.of_link (reacts_replaced ?_ ?_ ?_ ?_ rfl) hlink
    · exact ChannelManager.channel_insert_self _ _ _
    · exact fun z hz => ChannelManager.channel_insert_ne _ _ (Ne.symm hz)
    · rfl
    · rfl
  have hall : AllFor y [.disconnect (g side.other y).peer]
      [signal (.disconnectionRequest (h.link.manager side).following c.destinationCid cid)] := by
    apply allFor_singleton
    rw [L2capPdu.notice_signal (ControlFrame.disconnectionRequest_faithful _ _ _), hj.peer',
      hj.fits.destination, if_neg (by omega), hj.peer]
    rfl
  refine ⟨_, hr.inv hinv hj (allFor_nil cid) hall rfl rfl rfl hsound' ?_ hfits' hj.peer hj.peer' ?_
    hj.log hj.log' ?_ ?_⟩
  · intro rest hrest
    rw [List.nil_append] at hrest
    rw [← hrest]
    exact hfits
  · intro side' z hapart
    refine ⟨rfl, rfl, ?_⟩
    rw [hleft]
    have hne := hapart.1
    simp [Except.isOk, Except.toBool, hne]
  · rw [hleft]
    simp [Except.isOk, Except.toBool]
  · rw [hleft]
    simp [Except.isOk, Except.toBool, Side.other_ne, hj.leaving']

/-- **A side asks for a channel.** -/
theorem Inv.connecting {psm : UInt32} {spec : ChannelSpec} {identifier : UInt8}
    (hinv : Inv basic h g) (hrange : psm.toNat < 0x10000) (hpsm : validatePsm psm = .ok ())
    (hvalid : spec.Valid) (hbasic : basic → spec.mode = .basic)
    (halloc : (h.link.manager side).allocateCid = .ok x)
    (hm : m = { ChannelManager.react x (.newOutgoing psm x spec)
      [signal (.connectionRequest identifier psm x)] [] (h.link.manager side) with
      identifier := identifier }) :
    Inv basic (replaced side m (h.link.inFlight side) h) g := by
  have hfaithful : ControlFrame.Faithful (.connectionRequest identifier psm x) :=
    ControlFrame.connectionRequest_faithful _ _ hrange hpsm
  have hrequest : (signal (.connectionRequest identifier psm x)).request = some (psm, x) :=
    L2capPdu.request_signal hfaithful
  have hnotice : (signal (.connectionRequest identifier psm x)).notice = none :=
    L2capPdu.notice_of_request hrequest
  have hnone : h.channel side x = none := ChannelManager.allocateCid_spec halloc
  have hphase := hinv.absent side x hnone
  set h' := replaced side m (h.link.inFlight side) h with hh'
  have hself : h'.channel side x = some (.newOutgoing psm x spec) := by
    rw [channel, hh', manager_replaced, hm]
    exact ChannelManager.channel_insert_self _ _ _
  have hsame {side' : Side} {z : UInt16} (hz : ¬ (side' = side ∧ z = x)) :
      h'.channel side' z = h.channel side' z := by
    by_cases hside : side' = side
    · rw [hside, channel, hh', manager_replaced, hm]
      exact ChannelManager.channel_insert_ne _ _ fun hxz => hz ⟨hside, hxz.symm⟩
    · rw [Side.eq_other_of_ne hside, channel, hh', manager_replaced_other]
      rfl
  have hpath : h'.link.path side = h.link.path side := by
    rw [hh', path_replaced]
    rfl
  have hpath' : h'.link.path side.other =
      h.link.path side.other ++ [signal (.connectionRequest identifier psm x)] := by
    rw [hh', path_replaced_other, hm, Link.path, Side.other_other, List.append_assoc]
    rfl
  have hinbox (side' : Side) (z : UInt16) : h'.inbox side' z = h.inbox side' z := by
    by_cases hside : side' = side
    · rw [hside, inbox, inbox, hpath]
    · rw [Side.eq_other_of_ne hside, inbox, inbox, hpath', noticesFor_append,
        noticesFor_cons_none hnotice]
      exact List.append_nil _
  have hrequests : h'.requests side = h.requests side := by
    rw [requests, requests, hpath]
  have hrequests' : h'.requests side.other = h.requests side.other ++ [(psm, x)] := by
    rw [requests, requests, hpath', requestsIn_append]
    simp [requestsIn, hrequest]
  -- No request for the new channel was on the way before.
  have hnew (side' : Side) (psm' : UInt32) (z : UInt16) (hmem : (psm', z) ∈ h.requests side') :
      ¬ (side'.other = side ∧ z = x) := by
    rintro ⟨hside, rfl⟩
    obtain ⟨_, _, _, hchannel, _⟩ := hinv.requested side' psm' z hmem
    rw [hside, hnone] at hchannel
    cases hchannel
  refine hinv.frame (fun side' z => side' = side ∧ z = x) ?_ ?_ ?_ ?_ ?_ ?_ ?_ ?_
  · intro side' z hz
    exact ⟨hsame hz, hinbox side' z, rfl, rfl, rfl, rfl⟩
  · intro side' z z' d d' hj _
    exact Joined.ne_of_phase hj hphase
  · rintro side' z ⟨rfl, rfl⟩
    refine ⟨_, hself, ⟨?_, hbasic⟩, (by rintro ⟨⟩), fun _ => .requested psm ?_, hinv.blank _ _⟩
    · exact ⟨rfl, ChannelManager.allocateCid_ge halloc, Nat.le_refl _, rfl, (by rintro ⟨⟩),
        (by rintro ⟨⟩), (by rintro ⟨⟩)⟩
    · rw [hrequests']
      exact List.mem_append_right _ (List.mem_singleton_self _)
  · intro side' psm' spec' hserver
    apply hinv.servers side' psm' spec'
    rw [← hserver]
    by_cases hside : side' = side
    · rw [hside, hh', manager_replaced, hm]
      rfl
    · rw [Side.eq_other_of_ne hside, hh', manager_replaced_other]
  · intro side' psm' z hmem _
    by_cases hside : side' = side
    · rw [hside] at hmem ⊢
      rw [hrequests]
      exact hmem
    · rw [Side.eq_other_of_ne hside] at hmem ⊢
      rw [hrequests']
      exact List.mem_append_left _ hmem
  · intro side'
    by_cases hside : side' = side
    · rw [hside, hrequests]
      exact hinv.nodup side
    · rw [Side.eq_other_of_ne hside, hrequests', List.map_append]
      refine List.nodup_append.mpr ⟨hinv.nodup _, List.pairwise_singleton .., ?_⟩
      intro z hz z' hz' hzz'
      obtain ⟨⟨psm', z⟩, hmem, rfl⟩ := List.mem_map.mp hz
      rw [List.map_singleton, List.mem_singleton] at hz'
      exact hnew side.other psm' z hmem ⟨side.other_other, hzz'.trans hz'⟩
  · intro side' psm' z hmem
    by_cases hside : side' = side
    · rw [hside] at hmem ⊢
      rw [hrequests] at hmem
      exact .inl ⟨hmem, hnew side psm' z hmem⟩
    · rw [Side.eq_other_of_ne hside] at hmem ⊢
      rw [hrequests'] at hmem
      rcases List.mem_append.mp hmem with hmem | hmem
      · exact .inl ⟨hmem, hnew side.other psm' z hmem⟩
      · cases List.mem_singleton.mp hmem
        refine .inr ⟨hpsm, spec, hvalid, ?_, ?_, ?_⟩ <;> rw [Side.other_other]
        · exact hself
        · rw [hinbox]
          exact hinv.inbox_absent hnone
        · exact hphase
  · intro side' pdu hmem
    by_cases hside : side' = side
    · rw [hside] at hmem ⊢
      rw [hpath] at hmem
      exact .inl hmem
    · rw [Side.eq_other_of_ne hside] at hmem ⊢
      rw [hpath'] at hmem
      refine (List.mem_append.mp hmem).imp id fun hmem => .inl (.inl ⟨(psm, x), ?_⟩)
      rw [List.mem_singleton.mp hmem]
      exact hrequest

theorem Inv.connect {psm : UInt32} {spec : ChannelSpec} (hinv : Inv basic h g) (side : Side)
    (hrange : psm.toNat < 0x10000) (hpsm : validatePsm psm = .ok ())
    (hspec : spec.Valid ∧ (basic → spec.mode = .basic)) :
    Inv basic (replaced side (ChannelManager.connectWithSpec psm spec (h.link.manager side)).2
      (h.link.inFlight side) h) g := by
  rcases ChannelManager.connectWithSpec_cases psm spec (h.link.manager side) with
    ⟨error, hrun⟩ | ⟨localCid, halloc, hrun⟩
  · rw [hrun, replaced_self]
    exact hinv
  · rw [hrun]
    exact hinv.connecting hrange hpsm hspec.1 hspec.2 halloc rfl

/-- **A side waits for connections.** -/
theorem Inv.register {spec : ChannelSpec} (hinv : Inv basic h g) (side : Side)
    (psm : Option UInt32) (hspec : spec.Valid ∧ (basic → spec.mode = .basic)) :
    Inv basic (replaced side
      (ChannelManager.registerServerWithSpec psm spec (h.link.manager side)).2
      (h.link.inFlight side) h) g := by
  rcases ChannelManager.registerServerWithSpec_cases psm spec (h.link.manager side) with
    ⟨error, hrun⟩ | ⟨psm', _, hrun⟩
  · rw [hrun, replaced_self]
    exact hinv
  · rw [hrun]
    exact hinv.aside rfl (ChannelManager.server_insert (hinv.servers side) hspec)
      (List.append_nil _).symm (List.nil_append _).symm nofun nofun

/-- **A side acts on its link.** -/
theorem Inv.act (hinv : Inv basic h g) (side : Side) {op : ManagerOp} (hop : op.Permitted basic) :
    ∃ g', Inv basic (h.step (.act side op)) g' := by
  -- Operations on servers and on what was announced concern no channel.
  have haside (pdus : List L2capPdu) (hlogged : op.isLogged = false)
      (hchannels : ((h.link.manager side).apply op).channels = (h.link.manager side).channels)
      (hservers : ∀ (psm : UInt32) spec,
        ((h.link.manager side).apply op).servers[psm]? = some spec →
          spec.Valid ∧ (basic → spec.mode = .basic))
      (hout : ((h.link.manager side).apply op).outbound =
        (h.link.manager side).outbound ++ pdus)
      (hpdus : ∀ pdu ∈ pdus, pdu.IsInformation) :
      ∃ g', Inv basic (h.step (.act side op)) g' := by
    rw [step_act hlogged]
    exact ⟨g, hinv.aside hchannels hservers hout (List.nil_append _).symm nofun hpdus⟩
  have hfailed : Inv basic
      (replaced side (h.link.manager side) (h.link.inFlight side) h) g := by
    rw [replaced_self]
    exact hinv
  cases op with
  | registerServer psm spec =>
    rw [step_act rfl, ChannelManager.apply, ChannelManager.registerServer]
    rcases hvalid : validateSpec spec with error | _
    · exact ⟨g, hfailed⟩
    · exact ⟨g, hinv.register side psm ⟨hvalid, fun _ => rfl⟩⟩
  | registerErtmServer psm spec =>
    rw [step_act rfl, ChannelManager.apply, ChannelManager.registerErtmServer]
    rcases hvalid : validateErtmSpec spec with error | _
    · exact ⟨g, hfailed⟩
    · exact ⟨g, hinv.register side psm ⟨hvalid, fun hbasic => absurd hbasic hop⟩⟩
  | unregisterServer psm =>
    exact haside [] rfl rfl (ChannelManager.server_erase (hinv.servers side))
      (List.append_nil _).symm nofun
  | connect psm spec =>
    rw [step_act rfl, ChannelManager.apply, ChannelManager.connect]
    rcases hpsm : validatePsm psm with error | _
    · exact ⟨g, hfailed⟩
    rcases hvalid : validateSpec spec with error | _
    · exact ⟨g, hfailed⟩
    · exact ⟨g, hinv.connect side hop hpsm ⟨hvalid, fun _ => rfl⟩⟩
  | connectErtm psm spec =>
    rw [step_act rfl, ChannelManager.apply, ChannelManager.connectErtm]
    rcases hpsm : validatePsm psm with error | _
    · exact ⟨g, hfailed⟩
    rcases hvalid : validateErtmSpec spec with error | _
    · exact ⟨g, hfailed⟩
    · exact ⟨g, hinv.connect side hop.1 hpsm ⟨hvalid, fun hbasic => absurd hbasic hop.2⟩⟩
  | send cid sdu => exact hinv.send side cid sdu
  | disconnect cid => exact hinv.disconnect hop side cid
  | tick ticks => exact hinv.tick side ticks
  | setReceiverBusy cid busy => exact hinv.setReceiverBusy side cid busy
  | requestInformation infoType =>
    refine haside [signal (.informationRequest (h.link.manager side).following infoType)] rfl rfl
      (hinv.servers side) rfl ?_
    intro pdu hmem
    rw [List.mem_singleton.mp hmem]
    exact L2capPdu.informationRequest_isInformation _ _
  | popReceived cid => exact hinv.popReceived side cid
  | processPdu => cases hop
  | processBytes => cases hop
  | pollOutbound => cases hop
  | drainOutbound => cases hop
  | pollAcceptedChannel | pollInformationResponse | drainInformationResponses =>
    exact haside [] rfl rfl (hinv.servers side) (List.append_nil _).symm nofun

/-! ### Runs -/

/-- Two new links. -/
def new (information : Side → InformationCapabilities) : LinkHistory :=
  { link :=
    { manager := fun side => ChannelManager.withInformationCapabilities (information side) } }

theorem inv_new (basic : Prop) (information : Side → InformationCapabilities) :
    Inv basic (new information) fun _ _ => { peer := 0, phase := 4 } := by
  have hempty (side : Side) (cid : UInt16) : (new information).channel side cid = none := by
    simp [channel, new, ChannelManager.channel, ChannelManager.withInformationCapabilities]
  refine ⟨?_, ?_, fun _ _ _ => rfl, fun _ _ _ => ⟨rfl, rfl, rfl⟩, ?_, ?_,
    fun _ => List.Pairwise.nil, (by rintro _ _ _ ⟨⟩), (by rintro _ _ ⟨⟩)⟩
  · intro side psm spec hserver
    simp [new, ChannelManager.withInformationCapabilities] at hserver
  all_goals
    intro side cid c hc
    cases (hempty side cid).symm.trans hc

theorem Inv.step (hinv : Inv basic h g) {op : LinkOp} (hop : op.Permitted basic) :
    ∃ g', Inv basic (h.step op) g' := by
  cases op with
  | act side op => exact hinv.act side hop
  | transmit side => exact ⟨g, hinv.transmit side⟩
  | deliver side =>
    rcases hflight : h.link.inFlight side with _ | ⟨pdu, inFlight⟩
    · refine hinv.unchanged ?_ ⟨rfl, ?_, rfl⟩
      · simp only [LinkHistory.step, Link.step, hflight]
      · simp only [LinkHistory.step, hflight]
    · exact (hinv.deliver hflight).2.2

/-- **The invariant holds in every run.** -/
theorem Inv.run (hinv : Inv basic h g) {ops : List LinkOp} (hops : ∀ op ∈ ops, op.Permitted basic) :
    ∃ g', Inv basic (h.run ops) g' := by
  induction ops generalizing h g with
  | nil => exact ⟨g, hinv⟩
  | cons op ops ih =>
    obtain ⟨g', hinv'⟩ := hinv.step (hops op List.mem_cons_self)
    exact ih hinv' fun op' hmem => hops op' (List.mem_cons_of_mem _ hmem)

/-! ### Pairs that were accepted -/

/-- The channel `x` of `side` asked for a connection, and the channel `y` of the other side was made
for it. -/
structure Pair (h : LinkHistory) (side : Side) (x y : UInt16) (c s : ClassicChannel) : Prop where
  asked : h.channel side x = some c
  outgoing : c.incoming = false
  accepted : h.channel side.other y = some s
  incoming : s.incoming = true
  destination : s.destinationCid = x

/-- Two channels are open and agree on their parameters. -/
structure Agree (c s : ClassicChannel) : Prop where
  opened : c.state = .open ∧ s.state = .open
  psm : c.psm = s.psm
  mode : c.mode = s.mode
  fcsEnabled : c.fcsEnabled = s.fcsEnabled
  destination : c.destinationCid = s.sourceCid ∧ s.destinationCid = c.sourceCid
  peerMtu : c.peerMtu = s.spec.mtu ∧ s.peerMtu = c.spec.mtu
  peerMps : ∀ spec, s.spec.ertm? = some spec → c.peerMps = spec.mps
  peerMps' : ∀ spec, c.spec.ertm? = some spec → s.peerMps = spec.mps

/-- Nothing is queued and nothing is on the wire. -/
def AtRest (h : LinkHistory) : Prop :=
  ∀ side, (h.link.manager side).outbound = [] ∧ h.link.inFlight side = []

/-- An accepted channel knows its peer. -/
theorem Joined.destination (hj : Joined h g side x y c s) (hincoming : c.incoming = true) :
    c.destinationCid = y := by
  have hphase : (g side x).phase ≠ 0 := by
    intro hzero
    have := (hj.fits.first hzero).1
    simp [hincoming] at this
  rw [hj.fits.destination, if_neg hphase, hj.peer]

theorem Pair.joined (hinv : Inv basic h g) (hpair : Pair h side x y c s) :
    Joined h g side x y c s := by
  obtain ⟨x', c', hj⟩ := hinv.served side.other y s hpair.accepted hpair.incoming
  have hx : x' = x := (Joined.destination hj hpair.incoming).symm.trans hpair.destination
  subst hx
  have hback := hj.symm
  rw [Side.other_other] at hback
  cases hback.here.symm.trans hpair.asked
  exact hback

theorem Joined.pair (hj : Joined h g side x y c s) (houtgoing : c.incoming = false) :
    Pair h side x y c s := by
  have hincoming : s.incoming = true := by
    simpa [houtgoing] using hj.roles.symm
  exact ⟨hj.here, houtgoing, hj.there, hincoming, Joined.destination hj.symm hincoming⟩

/-- **Two ends with nothing on the way** agree, or neither is open. -/
theorem Joined.settled (hinv : Inv basic h g) (hj : Joined h g side x y c s) (hrest : h.AtRest)
    (hstay : ∀ side x, h.left side x = false) :
    Agree c s ∨ c.state = .closed ∧ s.state = .closed := by
  have hpath (side : Side) (x : UInt16) : h.inbox side x = [] := by
    rw [inbox, Link.path, (hrest side).2, (hrest side.other).1]
    rfl
  have hempty := hj.fits.inbox.symm.trans (hpath side x)
  have hempty' := hj.fits'.inbox.symm.trans (hpath side.other y)
  -- With nothing on the way, both configurations were answered.
  have hphases : (g side x).phase = 3 ∧ (g side.other y).phase = 3 := by
    simp only [EndState.inbox, List.append_eq_nil_iff] at hempty hempty'
    have := hj.fits.phase
    have := hj.fits'.phase
    have h₀ : (g side x).phase ≠ 0 := fun hzero => by simp [hzero] at hempty
    have h₁ : (g side.other y).phase ≠ 1 := fun hone => by simp [hone] at hempty
    have h₂ : (g side x).phase ≠ 2 := fun htwo => by simp [htwo] at hempty
    have h₀' : (g side.other y).phase ≠ 0 := fun hzero => by simp [hzero] at hempty'
    have h₁' : (g side x).phase ≠ 1 := fun hone => by simp [hone] at hempty'
    have h₂' : (g side.other y).phase ≠ 2 := fun htwo => by simp [htwo] at hempty'
    omega
  have hleft : (g side x).left = false := hj.leaving.symm.trans (hstay side x)
  have hleft' : (g side.other y).left = false := hj.leaving'.symm.trans (hstay side.other y)
  have hstate := hj.fits.state_answered hleft hleft' hphases.1 hphases.2
  have hstate' := hj.fits'.state_answered hleft' hleft hphases.2 hphases.1
  rw [ChannelSpec.accepts_comm] at hstate'
  rcases haccepts : c.spec.accepts s.spec with _ | _
  · rw [haccepts] at hstate hstate'
    exact .inr ⟨hstate, hstate'⟩
  have haccepts' : s.spec.accepts c.spec = true := by
    rw [ChannelSpec.accepts_comm]
    exact haccepts
  rw [haccepts] at hstate hstate'
  have htwo : 2 ≤ (g side x).phase := by omega
  have htwo' : 2 ≤ (g side.other y).phase := by omega
  refine .inl ⟨⟨hstate, hstate'⟩, hj.psm, ?_, ?_, ⟨?_, ?_⟩,
    ⟨hj.fits.peerMtu htwo', hj.fits'.peerMtu htwo⟩, hj.fits.peerMps htwo' haccepts,
    hj.fits'.peerMps htwo haccepts'⟩
  · rw [hj.fits.mode, hj.fits'.mode]
    exact ChannelSpec.mode_of_accepts haccepts
  · rw [hj.fits.fcs, hj.fits'.fcs, haccepts, haccepts', ChannelSpec.fcs_of_accepts haccepts]
    simp [htwo, htwo']
  · rw [hj.fits.destination, if_neg (by omega), hj.peer]
    exact (hinv.sound _ _ _ hj.there).1.source.symm
  · rw [hj.fits'.destination, if_neg (by omega), hj.peer']
    exact (hinv.sound _ _ _ hj.here).1.source.symm

/-- A run without a call of `disconnect` leaves no channel. -/
theorem left_run {ops : List LinkOp} (hops : ∀ op ∈ ops, op.Permitted False) (side : Side)
    (x : UInt16) : (h.run ops).left side x = h.left side x := by
  induction ops generalizing h with
  | nil => rfl
  | cons op ops ih =>
    rw [run, List.foldl_cons]
    refine (ih fun op' hmem => hops op' (List.mem_cons_of_mem _ hmem)).trans ?_
    have hop := hops op List.mem_cons_self
    cases op with
    | act side' op =>
      cases op with
      | disconnect => exact hop.elim
      | _ => rfl
    | transmit => rfl
    | deliver => rfl

/-- **Negotiation agrees.** Two links on which nobody calls `disconnect` handle every signaling PDU
of each other. When nothing is on the way, every channel that was accepted belongs to the channel
that asked for it, the two agree or are both closed, and a channel that was refused is closed. -/
theorem negotiation_agrees (information : Side → InformationCapabilities) {ops : List LinkOp}
    (hops : ∀ op ∈ ops, op.Permitted False) :
    (∀ side pdu inFlight, ((new information).run ops).link.inFlight side = pdu :: inFlight →
        pdu.cid = l2capSignalingCid →
        (ChannelManager.processPdu pdu (((new information).run ops).link.manager side)).1 =
          .ok ()) ∧
      (((new information).run ops).AtRest →
        (∀ side x y c s, Pair ((new information).run ops) side x y c s →
          Agree c s ∨ c.state = .closed ∧ s.state = .closed) ∧
        (∀ side y s, ((new information).run ops).channel side.other y = some s →
          s.incoming = true → ∃ x c, Pair ((new information).run ops) side x y c s) ∧
        ∀ side x c, ((new information).run ops).channel side x = some c → c.incoming = false →
          (∃ y s, Pair ((new information).run ops) side x y c s) ∨
            c.state = .closed ∧
              (∃ result, c.connectionResult = some result ∧ result ≠ connectionSuccessful) ∧
              ∀ y s, ¬ Pair ((new information).run ops) side x y c s) := by
  obtain ⟨g, hinv⟩ := (inv_new False information).run hops
  have hleft (side : Side) (x : UInt16) : ((new information).run ops).left side x = false :=
    left_run hops side x
  generalize (new information).run ops = h at hinv hleft ⊢
  refine ⟨fun side pdu inFlight hflight => (hinv.deliver hflight).1, fun hrest => ⟨?_, ?_, ?_⟩⟩
  · intro side x y c s hpair
    exact Joined.settled hinv (Pair.joined hinv hpair) hrest hleft
  · intro side y s hs hincoming
    obtain ⟨x, c, hj⟩ := hinv.served side.other y s hs hincoming
    have hback := hj.symm
    rw [Side.other_other] at hback
    have houtgoing : c.incoming = false := by
      simpa [hincoming] using hback.roles
    exact ⟨x, c, Joined.pair hback houtgoing⟩
  · intro side x c hc houtgoing
    have hnobody (hphase : (g side x).phase = 4) (y : UInt16) (s : ClassicChannel) :
        ¬ Pair h side x y c s := by
      intro hpair
      have := (Pair.joined hinv hpair).fits.phase
      omega
    cases hinv.asked side x c hc houtgoing with
    | requested psm hmem =>
      rw [requests, Link.path, (hrest _).2, (hrest _).1] at hmem
      cases hmem
    | refusing result _ _ hinbox =>
      rw [inbox, Link.path, (hrest _).2, (hrest _).1] at hinbox
      cases hinbox
    | refused result hresult hclosed _ hphase =>
      refine .inr ⟨by rw [hclosed], ⟨result, by rw [hclosed], hresult⟩, hnobody hphase⟩
    | joined y s hj => exact .inl ⟨y, s, Joined.pair hj houtgoing⟩

/-- The PDUs of both sides go back and forth. -/
def sampleRounds (n : ℕ) : List LinkOp :=
  (List.replicate n [.transmit .a, .deliver .b, .transmit .b, .deliver .a]).flatten

/-- A basic channel and a channel in retransmission mode are accepted, and a third is refused. -/
def sampleNegotiation : List LinkOp :=
  [.act .b (.registerServer (some 17) { mtu := 256 }),
    .act .b (.registerErtmServer (some 19) { mps := 100 }),
    .act .a (.connect 17 {}), .act .a (.connectErtm 19 {}), .act .a (.connect 21 {})] ++
    sampleRounds 8

/-- Two channels as they stand belong together. -/
theorem exists_pair (hc : (h.channel side x).map (·.incoming) = some false)
    (hs : (h.channel side.other y).map (fun s => (s.incoming, s.destinationCid)) =
      some (true, x)) : ∃ c s, Pair h side x y c s := by
  obtain ⟨c, hc, hincoming⟩ := Option.map_eq_some_iff.mp hc
  obtain ⟨s, hs, hfacts⟩ := Option.map_eq_some_iff.mp hs
  rw [Prod.mk.injEq] at hfacts
  exact ⟨c, s, hc, hincoming, hs, hfacts.1, hfacts.2⟩

theorem negotiation_agrees_sampleNegotiation :
    ∃ c s, Pair ((new fun _ => {}).run sampleNegotiation) .a 0x0041 0x0041 c s ∧ Agree c s := by
  have hrest : AtRest ((new fun _ => {}).run sampleNegotiation) := by
    intro side
    cases side <;> decide +kernel
  obtain ⟨c, s, hpair⟩ : ∃ c s,
      Pair ((new fun _ => {}).run sampleNegotiation) .a 0x0041 0x0041 c s :=
    exists_pair (by decide +kernel) (by decide +kernel)
  have hopen : (((new fun _ => {}).run sampleNegotiation).channel .a 0x0041).map (·.state) =
      some .open := by
    decide +kernel
  have hpermitted : ∀ op ∈ sampleNegotiation, op.Permitted False := by decide
  obtain ⟨hpairs, _⟩ := (negotiation_agrees (fun _ => {}) hpermitted).2 hrest
  rw [hpair.asked] at hopen
  have hopen : c.state = .open := Option.some.inj hopen
  refine ⟨c, s, hpair, (hpairs _ _ _ _ _ hpair).resolve_right ?_⟩
  rintro ⟨hclosed, _⟩
  cases hopen.symm.trans hclosed

/-- **Data is delivered.** In basic mode, what was pushed to a channel is at all times the beginning
of what its peer has accepted to send, and a data PDU is refused only by a channel that was left. -/
theorem basic_data_delivered (information : Side → InformationCapabilities) {ops : List LinkOp}
    (hops : ∀ op ∈ ops, op.Permitted True) :
    (∀ side x y c s, Pair ((new information).run ops) side x y c s →
        ((new information).run ops).pushed side x <+:
            ((new information).run ops).sent side.other y ∧
          ((new information).run ops).pushed side.other y <+:
            ((new information).run ops).sent side x) ∧
      ∀ side pdu inFlight, ((new information).run ops).link.inFlight side = pdu :: inFlight →
        pdu.cid ≠ l2capSignalingCid →
        (ChannelManager.processPdu pdu (((new information).run ops).link.manager side)).1 ≠
          .ok () →
        ((new information).run ops).left side pdu.cid = true := by
  obtain ⟨g, hinv⟩ := (inv_new True information).run hops
  generalize (new information).run ops = h at hinv ⊢
  constructor
  · intro side x y c s hpair
    have hj := Pair.joined hinv hpair
    have hmode (side : Side) (x : UInt16) (c : ClassicChannel) (hc : h.channel side x = some c) :
        c.mode = .basic := by
      obtain ⟨hsound, hbasic⟩ := hinv.sound side x c hc
      rw [hsound.specMode]
      exact hbasic trivial
    rw [hj.log (hmode _ _ _ hj.here), hj.log' (hmode _ _ _ hj.there)]
    exact ⟨List.prefix_append _ _, List.prefix_append _ _⟩
  · intro side pdu inFlight hflight hcid hrefused
    exact ((hinv.deliver hflight).2.1 trivial hcid).resolve_left hrefused

/-- One SDU arrives, and the channel is left before the second. -/
def sampleLeaving : List LinkOp :=
  [.act .b (.registerServer (some 17) { mtu := 256 }), .act .a (.connect 17 {})] ++
    sampleRounds 4 ++
    [.act .a (.send 0x0040 [1, 2, 3]), .transmit .a, .deliver .b, .act .a (.send 0x0040 [4]),
      .transmit .a, .act .b (.disconnect 0x0040)]

theorem basic_data_delivered_sampleLeaving :
    (∃ sdus, [[1, 2, 3]] ++ sdus = ((new fun _ => {}).run sampleLeaving).sent .a 0x0040) ∧
      ((new fun _ => {}).run sampleLeaving).left .b 0x0040 = true := by
  have hpermitted : ∀ op ∈ sampleLeaving, op.Permitted True := by decide
  obtain ⟨hdelivered, hrefused⟩ := basic_data_delivered (fun _ => {}) hpermitted
  constructor
  · obtain ⟨c, s, hpair⟩ : ∃ c s,
        Pair ((new fun _ => {}).run sampleLeaving) .a 0x0040 0x0040 c s :=
      exists_pair (by decide +kernel) (by decide +kernel)
    have hpushed : ((new fun _ => {}).run sampleLeaving).pushed .b 0x0040 = [[1, 2, 3]] := by
      decide +kernel
    obtain ⟨sdus, hsdus⟩ := (hdelivered _ _ _ _ _ hpair).2
    exact ⟨sdus, (congrArg (· ++ sdus) hpushed).symm.trans hsdus⟩
  · have hflight : ((new fun _ => {}).run sampleLeaving).link.inFlight .b =
        [{ cid := 0x0040, payload := [4] }] := by
      decide +kernel
    exact hrefused .b _ [] hflight (by decide) (by decide +kernel)

end LinkHistory

end ClassicHid
