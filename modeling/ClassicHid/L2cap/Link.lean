import Mathlib.Logic.Function.Basic
import ClassicHid.L2cap.Exchange

/-!
# Two links joined back to back

Two channel managers exchange their PDUs over two queues that lose and reorder nothing. Every
channel that was accepted belongs to a pair, and a step of the system is a step of one pair.

## Main definitions

* `Link`, `LinkOp`, `Link.step`: two managers, the PDUs in flight, and what may happen next
* `LinkHistory`: a link with what was sent, what was pushed to the receivers, and who has left
* `Joined`: two channels that belong together
* `LinkHistory.Inv`: the invariant of the system

## Main results

* `LinkHistory.Inv.update`: a step of one pair keeps the invariant
-/

namespace ClassicHid

open Foundation

/-- One of the two sides. -/
inductive Side
  | a
  | b
  deriving DecidableEq, Repr

def Side.other : Side → Side
  | a => b
  | b => a

@[simp] theorem Side.other_other (side : Side) : side.other.other = side := by
  cases side <;> rfl

theorem Side.other_ne (side : Side) : side.other ≠ side := by
  cases side <;> decide

theorem Side.eq_other_of_ne {side side' : Side} (h : side' ≠ side) : side' = side.other := by
  cases side <;> cases side' <;> first | rfl | exact absurd rfl h

/-- Two channel managers and the PDUs on the way to each. -/
structure Link where
  manager : Side → ChannelManager
  inFlight : Side → List L2capPdu := fun _ => []

/-- What may happen next: a side acts, its oldest PDU is put on the wire, or the oldest PDU on the
wire is delivered to it. -/
inductive LinkOp
  | act (side : Side) (op : ManagerOp)
  | transmit (side : Side)
  | deliver (side : Side)

namespace Link

/-- The PDUs that a side will receive, those its peer has not put on the wire included. -/
def path (w : Link) (side : Side) : List L2capPdu :=
  w.inFlight side ++ (w.manager side.other).outbound

def setManager (side : Side) (m : ChannelManager) (w : Link) : Link :=
  { w with manager := Function.update w.manager side m }

def step (op : LinkOp) (w : Link) : Link :=
  match op with
  | .act side op => w.setManager side ((w.manager side).apply op)
  | .transmit side =>
    match (w.manager side).outbound with
    | [] => w
    | pdu :: outbound => {
        manager := Function.update w.manager side { w.manager side with outbound := outbound }
        inFlight := Function.update w.inFlight side.other (w.inFlight side.other ++ [pdu]) }
  | .deliver side =>
    match w.inFlight side with
    | [] => w
    | pdu :: inFlight => {
        manager := Function.update w.manager side
          (ChannelManager.processPdu pdu (w.manager side)).2
        inFlight := Function.update w.inFlight side inFlight }

def run (ops : List LinkOp) (w : Link) : Link := ops.foldl (fun w op => w.step op) w

end Link

/-- The notices for a channel among some PDUs. -/
def noticesFor (cid : UInt16) (pdus : List L2capPdu) : List Notice :=
  pdus.filterMap fun pdu => pdu.notice.bind fun (cid', notice) =>
    if cid' = cid then some notice else none

/-- The connection requests among some PDUs. -/
def requestsIn (pdus : List L2capPdu) : List (UInt32 × UInt16) := pdus.filterMap (·.request)

/-- A link with the SDUs that each channel has accepted to send, those that were pushed to its
receive queue, and whether its owner has left it. -/
structure LinkHistory where
  link : Link
  sent : Side → UInt16 → List Bytes := fun _ _ => []
  pushed : Side → UInt16 → List Bytes := fun _ _ => []
  left : Side → UInt16 → Bool := fun _ _ => false

namespace LinkHistory

/-- The SDUs that a PDU pushes to the receive queue of its channel. -/
def pushedBy (pdu : L2capPdu) (m : ChannelManager) : List Bytes :=
  (((ChannelManager.processPdu pdu m).2.channel pdu.cid).elim [] (·.received)).drop
    ((m.channel pdu.cid).elim 0 (·.received.length))

/-- Append to the log of one channel. -/
def log (logs : Side → UInt16 → List Bytes) (side : Side) (cid : UInt16) (sdus : List Bytes) :
    Side → UInt16 → List Bytes :=
  fun side' cid' => if side' = side ∧ cid' = cid then logs side' cid' ++ sdus else logs side' cid'

def step (op : LinkOp) (h : LinkHistory) : LinkHistory :=
  { link := h.link.step op
    sent := match op with
      | .act side (.send cid sdu) =>
        if (ChannelManager.send cid sdu (h.link.manager side)).1.isOk then
          log h.sent side cid [sdu]
        else h.sent
      | _ => h.sent
    pushed := match op with
      | .deliver side =>
        match h.link.inFlight side with
        | [] => h.pushed
        | pdu :: _ => log h.pushed side pdu.cid (pushedBy pdu (h.link.manager side))
      | _ => h.pushed
    left := match op with
      | .act side (.disconnect cid) =>
        if (ChannelManager.disconnect cid (h.link.manager side)).1.isOk then
          fun side' cid' => (side' = side ∧ cid' = cid) || h.left side' cid'
        else h.left
      | _ => h.left }

def run (ops : List LinkOp) (h : LinkHistory) : LinkHistory := ops.foldl (fun h op => h.step op) h

theorem link_run (ops : List LinkOp) (h : LinkHistory) : (h.run ops).link = h.link.run ops := by
  induction ops generalizing h with
  | nil => rfl
  | cons op ops ih => exact ih (h.step op)

def inbox (h : LinkHistory) (side : Side) (cid : UInt16) : List Notice :=
  noticesFor cid (h.link.path side)

def requests (h : LinkHistory) (side : Side) : List (UInt32 × UInt16) :=
  requestsIn (h.link.path side)

def channel (h : LinkHistory) (side : Side) (cid : UInt16) : Option ClassicChannel :=
  (h.link.manager side).channel cid

end LinkHistory

/-! ### Pairs -/

/-- The two channels `x` of `side` and `y` of its peer belong together. -/
structure Joined (h : LinkHistory) (g : Side → UInt16 → EndState) (side : Side) (x y : UInt16)
    (c s : ClassicChannel) : Prop where
  here : h.channel side x = some c
  there : h.channel side.other y = some s
  fits : Fits c s.spec (h.inbox side x) (g side x) (g side.other y)
  fits' : Fits s c.spec (h.inbox side.other y) (g side.other y) (g side x)
  peer : (g side x).peer = y
  peer' : (g side.other y).peer = x
  roles : c.incoming = !s.incoming
  psm : c.psm = s.psm
  log : c.mode = .basic →
    h.sent side.other y = h.pushed side x ++ ((g side x).lost ++ (g side x).data)
  log' : s.mode = .basic →
    h.sent side x = h.pushed side.other y ++ ((g side.other y).lost ++ (g side.other y).data)
  leaving : h.left side x = (g side x).left
  leaving' : h.left side.other y = (g side.other y).left

/-- A pair seen from the other side. -/
theorem Joined.symm {h : LinkHistory} {g : Side → UInt16 → EndState} {side : Side} {x y : UInt16}
    {c s : ClassicChannel} (hj : Joined h g side x y c s) : Joined h g side.other y x s c := by
  have hroles : s.incoming = !c.incoming := by simp [hj.roles]
  cases side <;> exact ⟨hj.there, hj.here, hj.fits', hj.fits, hj.peer', hj.peer, hroles, hj.psm.symm,
    hj.log', hj.log, hj.leaving', hj.leaving⟩

/-- A channel has one peer. -/
theorem Joined.unique {h : LinkHistory} {g : Side → UInt16 → EndState} {side : Side}
    {x y y' : UInt16} {c c' s s' : ClassicChannel} (hj : Joined h g side x y c s)
    (hj' : Joined h g side x y' c' s') : y = y' :=
  hj.peer.symm.trans hj'.peer

/-- What became of a channel whose connection was requested. A channel that was never joined has
the phase `4`. -/
inductive Asked (h : LinkHistory) (g : Side → UInt16 → EndState) (side : Side) (x : UInt16)
    (c : ClassicChannel) : Prop
  | requested (psm : UInt32) (hmem : (psm, x) ∈ h.requests side.other)
  | refusing (result : UInt16) (hresult : result ≠ connectionSuccessful)
      (hfresh : c = .newOutgoing c.psm x c.spec) (hinbox : h.inbox side x = [.refused result])
      (hphase : (g side x).phase = 4)
  | refused (result : UInt16) (hresult : result ≠ connectionSuccessful)
      (hclosed : c = { ClassicChannel.newOutgoing c.psm x c.spec with
        connectionResult := some result, state := .closed })
      (hinbox : h.inbox side x = []) (hphase : (g side x).phase = 4)
  | joined (y : UInt16) (s : ClassicChannel) (hjoined : Joined h g side x y c s)

namespace LinkHistory

/-- **The invariant** of two links; `basic` says that only basic mode is used. -/
structure Inv (basic : Prop) (h : LinkHistory) (g : Side → UInt16 → EndState) : Prop where
  servers : ∀ side (psm : UInt32) spec, (h.link.manager side).servers[psm]? = some spec →
    spec.Valid ∧ (basic → spec.mode = .basic)
  sound : ∀ side cid c, h.channel side cid = some c →
    c.Sound cid ∧ (basic → c.spec.mode = .basic)
  absent : ∀ side cid, h.channel side cid = none → (g side cid).phase = 4
  blank : ∀ side cid, (g side cid).phase = 4 →
    h.sent side cid = [] ∧ h.pushed side cid = [] ∧ h.left side cid = false
  served : ∀ side y s, h.channel side y = some s → s.incoming = true →
    ∃ x c, Joined h g side y x s c
  asked : ∀ side x c, h.channel side x = some c → c.incoming = false → Asked h g side x c
  nodup : ∀ side, ((h.requests side).map Prod.snd).Nodup
  requested : ∀ side psm x, (psm, x) ∈ h.requests side → validatePsm psm = .ok () ∧
    ∃ spec : ChannelSpec, spec.Valid ∧
      h.channel side.other x = some (.newOutgoing psm x spec) ∧
      h.inbox side.other x = [] ∧ (g side.other x).phase = 4
  addressed : ∀ side, ∀ pdu ∈ h.link.path side, pdu.Unaddressed ∨
    ∃ cid notice c, pdu.notice = some (cid, notice) ∧ h.channel side cid = some c

end LinkHistory

/-! ### Notices and requests among PDUs -/

@[simp] theorem noticesFor_append (cid : UInt16) (l l' : List L2capPdu) :
    noticesFor cid (l ++ l') = noticesFor cid l ++ noticesFor cid l' :=
  List.filterMap_append

@[simp] theorem requestsIn_append (l l' : List L2capPdu) :
    requestsIn (l ++ l') = requestsIn l ++ requestsIn l' :=
  List.filterMap_append

/-- PDUs that all are for one channel. -/
def AllFor (cid : UInt16) (notices : List Notice) (pdus : List L2capPdu) : Prop :=
  pdus.map (·.notice) = notices.map fun notice => some (cid, notice)

theorem allFor_nil (cid : UInt16) : AllFor cid [] [] := rfl

theorem allFor_singleton {cid : UInt16} {notice : Notice} {pdu : L2capPdu}
    (h : pdu.notice = some (cid, notice)) : AllFor cid [notice] [pdu] := by
  simp [AllFor, h]

/-- Data for a channel. -/
theorem allFor_data {cid : UInt16} (hcid : cid ≠ l2capSignalingCid) (payloads : List Bytes) :
    AllFor cid (payloads.map .data)
      (payloads.map fun payload => { cid := cid, payload := payload }) := by
  simp [AllFor, L2capPdu.notice, hcid]

/-- A PDU for a channel is no request. -/
theorem L2capPdu.request_of_notice {pdu : L2capPdu} {entry : UInt16 × Notice}
    (h : pdu.notice = some entry) : pdu.request = none := by
  unfold L2capPdu.notice at h
  unfold L2capPdu.request
  split
  · rename_i hcid
    rw [if_pos hcid] at h
    rcases hframe : ControlFrame.fromBytes pdu.payload with error | frame
    · rfl
    · rw [hframe] at h
      cases frame with
      | connectionRequest => cases h
      | _ => rfl
  · rfl

theorem L2capPdu.notice_of_request {pdu : L2capPdu} {request : UInt32 × UInt16}
    (h : pdu.request = some request) : pdu.notice = none := by
  rcases hnotice : pdu.notice with _ | entry
  · rfl
  · rw [L2capPdu.request_of_notice hnotice] at h
    cases h

theorem L2capPdu.IsInformation.silent {pdu : L2capPdu} (h : pdu.IsInformation) :
    pdu.notice = none ∧ pdu.request = none := by
  obtain ⟨hcid, ⟨identifier, infoType, hframe⟩ | ⟨identifier, infoType, result, data, hframe⟩⟩ := h
  · simp [L2capPdu.notice, L2capPdu.request, hcid, hframe, ControlFrame.notice,
      ControlFrame.request]
  · simp [L2capPdu.notice, L2capPdu.request, hcid, hframe, ControlFrame.notice,
      ControlFrame.request]

theorem L2capPdu.notice_of_unaddressed {pdu : L2capPdu} (h : pdu.Unaddressed) :
    pdu.notice = none := by
  rcases h with ⟨request, hrequest⟩ | hinformation
  · exact L2capPdu.notice_of_request hrequest
  · exact hinformation.silent.1

theorem noticesFor_cons_none {pdu : L2capPdu} (h : pdu.notice = none) (cid : UInt16)
    (pdus : List L2capPdu) : noticesFor cid (pdu :: pdus) = noticesFor cid pdus := by
  rw [noticesFor, List.filterMap_cons, h]
  rfl

namespace AllFor

variable {cid : UInt16} {notices : List Notice} {pdus : List L2capPdu}

theorem cons_inv {pdu : L2capPdu} (h : AllFor cid notices (pdu :: pdus)) :
    ∃ notice rest, notices = notice :: rest ∧ pdu.notice = some (cid, notice) ∧
      AllFor cid rest pdus := by
  cases notices with
  | nil => cases h
  | cons notice rest =>
    simp only [AllFor, List.map_cons, List.cons.injEq] at h
    exact ⟨notice, rest, rfl, h.1, h.2⟩

theorem noticesFor_self (h : AllFor cid notices pdus) : noticesFor cid pdus = notices := by
  induction pdus generalizing notices with
  | nil =>
    cases notices with
    | nil => rfl
    | cons => cases h
  | cons pdu pdus ih =>
    obtain ⟨notice, rest, rfl, hnotice, hrest⟩ := h.cons_inv
    rw [noticesFor, List.filterMap_cons, hnotice]
    simp only [Option.bind_some, if_true]
    rw [← ih hrest]
    rfl

theorem noticesFor_ne (h : AllFor cid notices pdus) {cid' : UInt16} (hne : cid' ≠ cid) :
    noticesFor cid' pdus = [] := by
  induction pdus generalizing notices with
  | nil => rfl
  | cons pdu pdus ih =>
    obtain ⟨notice, rest, _, hnotice, hrest⟩ := h.cons_inv
    rw [noticesFor, List.filterMap_cons, hnotice]
    simp only [Option.bind_some, Ne.symm hne, if_false]
    exact ih hrest

theorem requestsIn_eq (h : AllFor cid notices pdus) : requestsIn pdus = [] := by
  induction pdus generalizing notices with
  | nil => rfl
  | cons pdu pdus ih =>
    obtain ⟨notice, rest, _, hnotice, hrest⟩ := h.cons_inv
    rw [requestsIn, List.filterMap_cons, L2capPdu.request_of_notice hnotice]
    exact ih hrest

theorem notice_of_mem (h : AllFor cid notices pdus) {pdu : L2capPdu} (hmem : pdu ∈ pdus) :
    ∃ notice, pdu.notice = some (cid, notice) := by
  induction pdus generalizing notices with
  | nil => cases hmem
  | cons pdu' pdus ih =>
    obtain ⟨notice, rest, _, hnotice, hrest⟩ := h.cons_inv
    rcases List.mem_cons.mp hmem with rfl | hmem
    · exact ⟨notice, hnotice⟩
    · exact ih hrest hmem

end AllFor

/-! ### A step of one pair -/

/-- The channel `z` of `side'` is neither of the two ends. -/
def Apart (side : Side) (x y : UInt16) (side' : Side) (z : UInt16) : Prop :=
  ¬ (side' = side ∧ z = x) ∧ ¬ (side' = side.other ∧ z = y)

variable {basic : Prop} {h h' : LinkHistory} {g g' : Side → UInt16 → EndState} {side : Side}
  {x y : UInt16} {c s c' s' : ClassicChannel}

/-- Two histories that agree on one end. -/
structure AgreeAt (h h' : LinkHistory) (g g' : Side → UInt16 → EndState) (side : Side)
    (z : UInt16) : Prop where
  channel : h'.channel side z = h.channel side z
  inbox : h'.inbox side z = h.inbox side z
  ghost : g' side z = g side z
  sent : h'.sent side z = h.sent side z
  pushed : h'.pushed side z = h.pushed side z
  left : h'.left side z = h.left side z

/-- A pair of which neither end changed. -/
theorem Joined.congr (hj : Joined h g side x y c s) (hx : AgreeAt h h' g g' side x)
    (hy : AgreeAt h h' g g' side.other y) : Joined h' g' side x y c s where
  here := hx.channel.trans hj.here
  there := hy.channel.trans hj.there
  fits := by
    rw [hx.inbox, hx.ghost, hy.ghost]
    exact hj.fits
  fits' := by
    rw [hy.inbox, hx.ghost, hy.ghost]
    exact hj.fits'
  peer := by
    rw [hx.ghost]
    exact hj.peer
  peer' := by
    rw [hy.ghost]
    exact hj.peer'
  roles := hj.roles
  psm := hj.psm
  log := by
    rw [hy.sent, hx.pushed, hx.ghost]
    exact hj.log
  log' := by
    rw [hx.sent, hy.pushed, hy.ghost]
    exact hj.log'
  leaving := by
    rw [hx.left, hx.ghost]
    exact hj.leaving
  leaving' := by
    rw [hy.left, hy.ghost]
    exact hj.leaving'

/-- The peer of a channel that is apart from a pair is apart from it. -/
theorem Joined.apart (hj : Joined h g side x y c s) {side' : Side} {z z' : UInt16}
    {d d' : ClassicChannel} (hz : Joined h g side' z z' d d') (hapart : Apart side x y side' z) :
    Apart side x y side'.other z' := by
  constructor
  · rintro ⟨hside, rfl⟩
    have hback := hz.symm
    rw [hside] at hback
    apply hapart.2
    rw [← hside, Side.other_other]
    exact ⟨rfl, hback.unique hj⟩
  · rintro ⟨hside, rfl⟩
    have hback := hz.symm
    rw [hside] at hback
    apply hapart.1
    have hsame : side' = side := by
      have := congrArg Side.other hside
      simpa using this
    exact ⟨hsame, hback.unique hj.symm⟩

namespace LinkHistory

/-- What is to be shown of a channel that a step touches. -/
structure Settled (basic : Prop) (h : LinkHistory) (g : Side → UInt16 → EndState) (side : Side)
    (z : UInt16) (d : ClassicChannel) : Prop where
  channel : h.channel side z = some d
  sound : d.Sound z ∧ (basic → d.spec.mode = .basic)
  served : d.incoming = true → ∃ z' d', Joined h g side z z' d d'
  asked : d.incoming = false → Asked h g side z d
  blank : (g side z).phase = 4 →
    h.sent side z = [] ∧ h.pushed side z = [] ∧ h.left side z = false

/-- What is to be shown of a connection request on the way to a side. -/
def Pending (h : LinkHistory) (g : Side → UInt16 → EndState) (side : Side) (psm : UInt32)
    (x : UInt16) : Prop :=
  validatePsm psm = .ok () ∧ ∃ spec : ChannelSpec, spec.Valid ∧
    h.channel side.other x = some (.newOutgoing psm x spec) ∧
    h.inbox side.other x = [] ∧ (g side.other x).phase = 4

/-- **The frame rule**: a step keeps the invariant when what it touches is settled, what it does not
touch is unchanged, and a pair is touched at both ends or not at all. -/
theorem Inv.frame (touched : Side → UInt16 → Prop) (hinv : Inv basic h g)
    (hagree : ∀ side z, ¬ touched side z → AgreeAt h h' g g' side z)
    (hpairs : ∀ side z z' d d', Joined h g side z z' d d' → ¬ touched side z →
      ¬ touched side.other z')
    (hsettled : ∀ side z, touched side z → ∃ d, Settled basic h' g' side z d)
    (hservers : ∀ side (psm : UInt32) spec, (h'.link.manager side).servers[psm]? = some spec →
      spec.Valid ∧ (basic → spec.mode = .basic))
    (hkept : ∀ side psm z, (psm, z) ∈ h.requests side → ¬ touched side.other z →
      (psm, z) ∈ h'.requests side)
    (hnodup : ∀ side, ((h'.requests side).map Prod.snd).Nodup)
    (hpending : ∀ side psm z, (psm, z) ∈ h'.requests side →
      (psm, z) ∈ h.requests side ∧ ¬ touched side.other z ∨ Pending h' g' side psm z)
    (haddressed : ∀ side, ∀ pdu ∈ h'.link.path side, pdu ∈ h.link.path side ∨
      pdu.Unaddressed ∨
      ∃ cid notice c, pdu.notice = some (cid, notice) ∧ h'.channel side cid = some c) :
    Inv basic h' g' := by
  have hjoined {side : Side} {z z' : UInt16} {d d' : ClassicChannel}
      (hj : Joined h g side z z' d d') (hz : ¬ touched side z) : Joined h' g' side z z' d d' :=
    hj.congr (hagree _ _ hz) (hagree _ _ (hpairs _ _ _ _ _ hj hz))
  refine ⟨hservers, ?_, ?_, ?_, ?_, ?_, hnodup, ?_, ?_⟩
  · intro side z d hd
    by_cases hz : touched side z
    · obtain ⟨d', hd'⟩ := hsettled side z hz
      cases hd'.channel.symm.trans hd
      exact hd'.sound
    · rw [(hagree _ _ hz).channel] at hd
      exact hinv.sound side z d hd
  · intro side z hnone
    by_cases hz : touched side z
    · obtain ⟨d', hd'⟩ := hsettled side z hz
      cases hd'.channel.symm.trans hnone
    · rw [(hagree _ _ hz).channel] at hnone
      rw [(hagree _ _ hz).ghost]
      exact hinv.absent side z hnone
  · intro side z hphase
    by_cases hz : touched side z
    · obtain ⟨d', hd'⟩ := hsettled side z hz
      exact hd'.blank hphase
    · have hz := hagree _ _ hz
      rw [hz.ghost] at hphase
      rw [hz.sent, hz.pushed, hz.left]
      exact hinv.blank side z hphase
  · intro side z d hd hin
    by_cases hz : touched side z
    · obtain ⟨d', hd'⟩ := hsettled side z hz
      cases hd'.channel.symm.trans hd
      exact hd'.served hin
    · rw [(hagree _ _ hz).channel] at hd
      obtain ⟨z', d', hj⟩ := hinv.served side z d hd hin
      exact ⟨z', d', hjoined hj hz⟩
  · intro side z d hd hin
    by_cases hz : touched side z
    · obtain ⟨d', hd'⟩ := hsettled side z hz
      cases hd'.channel.symm.trans hd
      exact hd'.asked hin
    · have hz' := hagree _ _ hz
      rw [hz'.channel] at hd
      cases hinv.asked side z d hd hin with
      | requested psm hmem =>
        refine .requested psm (hkept _ _ _ hmem ?_)
        rwa [Side.other_other]
      | refusing result hresult hfresh hinbox hphase =>
        rw [← hz'.inbox] at hinbox
        rw [← hz'.ghost] at hphase
        exact .refusing result hresult hfresh hinbox hphase
      | refused result hresult hclosed hinbox hphase =>
        rw [← hz'.inbox] at hinbox
        rw [← hz'.ghost] at hphase
        exact .refused result hresult hclosed hinbox hphase
      | joined z' d' hj => exact .joined z' d' (hjoined hj hz)
  · intro side psm z hmem
    rcases hpending side psm z hmem with ⟨hmem, hz⟩ | hpending
    · obtain ⟨hpsm, spec, hvalid, hchannel, hinbox, hphase⟩ := hinv.requested side psm z hmem
      have hz := hagree _ _ hz
      rw [← hz.channel] at hchannel
      rw [← hz.inbox] at hinbox
      rw [← hz.ghost] at hphase
      exact ⟨hpsm, spec, hvalid, hchannel, hinbox, hphase⟩
    · exact hpending
  · intro side pdu hmem
    rcases haddressed side pdu hmem with hmem | haddressed
    · rcases hinv.addressed side pdu hmem with hfree | ⟨z, notice, d, hnotice, hd⟩
      · exact .inl hfree
      · refine .inr ⟨z, notice, ?_⟩
        by_cases hz : touched side z
        · obtain ⟨d', hd'⟩ := hsettled side z hz
          exact ⟨d', hnotice, hd'.channel⟩
        · exact ⟨d, hnotice, (hagree _ _ hz).channel.trans hd⟩
    · exact haddressed

/-- A step that concerns no channel keeps the invariant. -/
theorem Inv.same (hinv : Inv basic h g)
    (hchannel : ∀ side z, h'.channel side z = h.channel side z)
    (hinbox : ∀ side z, h'.inbox side z = h.inbox side z)
    (hrequests : ∀ side, h'.requests side = h.requests side)
    (hlogs : h'.sent = h.sent ∧ h'.pushed = h.pushed ∧ h'.left = h.left)
    (hservers : ∀ side (psm : UInt32) spec, (h'.link.manager side).servers[psm]? = some spec →
      spec.Valid ∧ (basic → spec.mode = .basic))
    (haddressed : ∀ side, ∀ pdu ∈ h'.link.path side, pdu ∈ h.link.path side ∨ pdu.Unaddressed) :
    Inv basic h' g := by
  obtain ⟨hsent, hpushed, hleft⟩ := hlogs
  refine hinv.frame (fun _ _ => False) ?_ (fun _ _ _ _ _ _ => id) (fun _ _ => False.elim) hservers
    ?_ ?_ ?_ ?_
  · intro side z _
    exact ⟨hchannel side z, hinbox side z, rfl, by rw [hsent], by rw [hpushed], by rw [hleft]⟩
  · intro side psm z hmem _
    rw [hrequests]
    exact hmem
  · intro side
    rw [hrequests]
    exact hinv.nodup side
  · intro side psm z hmem
    rw [hrequests] at hmem
    exact .inl ⟨hmem, id⟩
  · intro side pdu hmem
    exact (haddressed side pdu hmem).imp id .inl

/-- Nothing is on the way to a channel that does not exist. -/
theorem Inv.inbox_absent (hinv : Inv basic h g) {z : UInt16} (hnone : h.channel side z = none) :
    h.inbox side z = [] := by
  rw [inbox, noticesFor, List.filterMap_eq_nil_iff]
  intro pdu hmem
  rcases hinv.addressed side pdu hmem with hfree | ⟨cid, notice, d, hnotice, hd⟩
  · rw [L2capPdu.notice_of_unaddressed hfree]
    rfl
  · have hne : cid ≠ z := by
      rintro rfl
      cases hd.symm.trans hnone
    simp [hnotice, hne]

/-- A channel that is not apart from a pair is one of its ends. -/
theorem not_apart {side' : Side} {z : UInt16} (h : ¬ Apart side x y side' z) :
    side' = side ∧ z = x ∨ side' = side.other ∧ z = y := by
  by_contra hends
  rw [not_or] at hends
  exact h hends

/-- **A step of one pair** keeps the invariant. -/
theorem Inv.update (hinv : Inv basic h g) (hold : Joined h g side x y c s)
    (hnew : Joined h' g' side x y c' s') (hspec : c'.spec = c.spec) (hspec' : s'.spec = s.spec)
    (hsound : c'.Sound x) (hsound' : s'.Sound y)
    (hagree : ∀ side' z, Apart side x y side' z → AgreeAt h h' g g' side' z)
    (hservers : ∀ side', (h'.link.manager side').servers = (h.link.manager side').servers)
    (hrequests : ∀ side', h'.requests side' = h.requests side')
    (haddressed : ∀ side', ∀ pdu ∈ h'.link.path side', pdu ∈ h.link.path side' ∨
      ∃ cid notice c, pdu.notice = some (cid, notice) ∧ h'.channel side' cid = some c) :
    Inv basic h' g' := by
  refine hinv.frame (fun side' z => ¬ Apart side x y side' z) ?_ ?_ ?_ ?_ ?_ ?_ ?_ ?_
  · intro side' z hz
    exact hagree side' z (not_not.mp hz)
  · intro side' z z' d d' hj hz
    exact not_not.mpr (hold.apart hj (not_not.mp hz))
  · intro side' z hz
    rcases not_apart hz with ⟨rfl, rfl⟩ | ⟨rfl, rfl⟩
    · refine ⟨c', hnew.here, ⟨hsound, ?_⟩, fun _ => ⟨y, s', hnew⟩, fun _ => .joined y s' hnew, ?_⟩
      · rw [hspec]
        exact (hinv.sound _ _ _ hold.here).2
      · intro hphase
        have := hnew.fits.phase
        omega
    · refine ⟨s', hnew.there, ⟨hsound', ?_⟩, fun _ => ⟨x, c', hnew.symm⟩,
        fun _ => .joined x c' hnew.symm, ?_⟩
      · rw [hspec']
        exact (hinv.sound _ _ _ hold.there).2
      · intro hphase
        have := hnew.fits'.phase
        omega
  · intro side' psm spec hserver
    rw [hservers] at hserver
    exact hinv.servers side' psm spec hserver
  · intro side' psm z hmem _
    rw [hrequests]
    exact hmem
  · intro side'
    rw [hrequests]
    exact hinv.nodup side'
  · intro side' psm z hmem
    rw [hrequests] at hmem
    refine .inl ⟨hmem, not_not.mpr ?_⟩
    obtain ⟨_, _, _, _, _, hphase⟩ := hinv.requested side' psm z hmem
    by_contra hz
    rcases not_apart hz with ⟨rfl, rfl⟩ | ⟨hside, rfl⟩
    · have := hold.fits.phase
      omega
    · rw [hside] at hphase
      have := hold.fits'.phase
      omega
  · intro side' pdu hmem
    exact (haddressed side' pdu hmem).imp id .inr

/-- One side replaced its channel `x`, took PDUs from the wire and queued others. -/
structure Reacts (h h' : LinkHistory) (side : Side) (x : UInt16) (c' : ClassicChannel)
    (taken pdus : List L2capPdu) : Prop where
  self : h'.channel side x = some c'
  same : ∀ z, z ≠ x → h'.channel side z = h.channel side z
  there : ∀ z, h'.channel side.other z = h.channel side.other z
  servers : ∀ side', (h'.link.manager side').servers = (h.link.manager side').servers
  path : h.link.path side = taken ++ h'.link.path side
  path' : h'.link.path side.other = h.link.path side.other ++ pdus

/-- What was logged does not matter. -/
theorem Reacts.of_link {h₁ h₂ : LinkHistory} {taken pdus : List L2capPdu}
    (hr : Reacts h h₁ side x c' taken pdus) (hlink : h₂.link = h₁.link) :
    Reacts h h₂ side x c' taken pdus := by
  refine ⟨?_, ?_, ?_, ?_, ?_, ?_⟩ <;> simp only [channel, hlink]
  · exact hr.self
  · exact hr.same
  · exact hr.there
  · exact hr.servers
  · exact hr.path
  · exact hr.path'

/-- The ghost state with two ends replaced. -/
def place (g : Side → UInt16 → EndState) (side : Side) (x y : UInt16) (e f : EndState) :
    Side → UInt16 → EndState :=
  fun side' z => if side' = side ∧ z = x then e else if side' = side.other ∧ z = y then f
    else g side' z

theorem place_here (g : Side → UInt16 → EndState) (side : Side) (x y : UInt16) (e f : EndState) :
    place g side x y e f side x = e := by
  simp [place]

theorem place_there (g : Side → UInt16 → EndState) (side : Side) (x y : UInt16) (e f : EndState) :
    place g side x y e f side.other y = f := by
  simp [place, Side.other_ne]

theorem place_apart (g : Side → UInt16 → EndState) {side side' : Side} {x y z : UInt16}
    (e f : EndState) (h : Apart side x y side' z) : place g side x y e f side' z = g side' z := by
  rw [place, if_neg h.1, if_neg h.2]

variable {e' f' : EndState} {taken pdus : List L2capPdu} {notices emitted : List Notice}

/-- **A step of one pair, seen from the side that takes it.** -/
theorem Reacts.inv (hr : Reacts h h' side x c' taken pdus) (hinv : Inv basic h g)
    (hold : Joined h g side x y c s) (htaken : AllFor x notices taken)
    (hpdus : AllFor y emitted pdus) (hspec : c'.spec = c.spec)
    (hincoming : c'.incoming = c.incoming) (hpsm : c'.psm = c.psm) (hsound : c'.Sound x)
    (hfits : ∀ rest, h.inbox side x = notices ++ rest → Fits c' s.spec rest e' f')
    (hfits' : Fits s c.spec (h.inbox side.other y ++ emitted) f' e')
    (hpeer : e'.peer = y) (hpeer' : f'.peer = x)
    (hlogs : ∀ side' z, Apart side x y side' z → h'.sent side' z = h.sent side' z ∧
      h'.pushed side' z = h.pushed side' z ∧ h'.left side' z = h.left side' z)
    (hlog : c.mode = .basic →
      h'.sent side.other y = h'.pushed side x ++ (e'.lost ++ e'.data))
    (hlog' : s.mode = .basic →
      h'.sent side x = h'.pushed side.other y ++ (f'.lost ++ f'.data))
    (hleaving : h'.left side x = e'.left) (hleaving' : h'.left side.other y = f'.left) :
    Inv basic h' (place g side x y e' f') := by
  have hinbox : h.inbox side x = notices ++ h'.inbox side x := by
    rw [inbox, hr.path, noticesFor_append, htaken.noticesFor_self]
    rfl
  have hinbox' : h'.inbox side.other y = h.inbox side.other y ++ emitted := by
    rw [inbox, hr.path', noticesFor_append, hpdus.noticesFor_self]
    rfl
  have hfits := hfits _ hinbox
  have hmode : c'.mode = c.mode := by
    rw [hfits.mode, hspec, hold.fits.mode]
  have hnew : Joined h' (place g side x y e' f') side x y c' s := by
    refine ⟨hr.self, (hr.there y).trans hold.there, ?_, ?_, ?_, ?_, ?_, ?_, ?_, ?_, ?_, ?_⟩
    · rw [place_here, place_there]
      exact hfits
    · rw [place_here, place_there, hinbox', hspec]
      exact hfits'
    · rw [place_here]
      exact hpeer
    · rw [place_there]
      exact hpeer'
    · rw [hincoming]
      exact hold.roles
    · rw [hpsm]
      exact hold.psm
    · rw [hmode, place_here]
      exact hlog
    · rw [place_there]
      exact hlog'
    · rw [place_here]
      exact hleaving
    · rw [place_there]
      exact hleaving'
  refine hinv.update hold hnew hspec rfl hsound (hinv.sound _ _ _ hold.there).1 ?_ hr.servers ?_ ?_
  · intro side' z hapart
    obtain ⟨hsent, hpushed, hleft⟩ := hlogs side' z hapart
    refine ⟨?_, ?_, place_apart g e' f' hapart, hsent, hpushed, hleft⟩
    · by_cases hside : side' = side
      · subst hside
        exact hr.same z fun hz => hapart.1 ⟨rfl, hz⟩
      · rw [Side.eq_other_of_ne hside]
        exact hr.there z
    · by_cases hside : side' = side
      · subst hside
        have hz : z ≠ x := fun hz => hapart.1 ⟨rfl, hz⟩
        rw [inbox, inbox, hr.path, noticesFor_append, htaken.noticesFor_ne hz, List.nil_append]
      · rw [Side.eq_other_of_ne hside] at hapart ⊢
        have hz : z ≠ y := fun hz => hapart.2 ⟨rfl, hz⟩
        rw [inbox, inbox, hr.path', noticesFor_append, hpdus.noticesFor_ne hz, List.append_nil]
  · intro side'
    by_cases hside : side' = side
    · subst hside
      rw [requests, requests, hr.path, requestsIn_append, htaken.requestsIn_eq, List.nil_append]
    · rw [Side.eq_other_of_ne hside, requests, requests, hr.path', requestsIn_append,
        hpdus.requestsIn_eq, List.append_nil]
  · intro side' pdu hmem
    by_cases hside : side' = side
    · subst hside
      rw [hr.path]
      exact .inl (List.mem_append_right _ hmem)
    · rw [Side.eq_other_of_ne hside] at hmem ⊢
      rw [hr.path'] at hmem
      rcases List.mem_append.mp hmem with hmem | hmem
      · exact .inl hmem
      · obtain ⟨notice, hnotice⟩ := hpdus.notice_of_mem hmem
        exact .inr ⟨y, notice, s, hnotice, (hr.there y).trans hold.there⟩

end LinkHistory

end ClassicHid
