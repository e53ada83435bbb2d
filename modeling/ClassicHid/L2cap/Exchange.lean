import ClassicHid.L2cap.Notice

/-!
# A pair of channels

Two channels that belong together, one on each link, seen as one machine: how far each end's
configuration request has come, who has left, and what is on the way. Every notice an end receives
and everything its owner does is one step of this machine.

## Main definitions

* `EndState`: one end of a pair
* `EndState.inbox`: the notices on the way to an end
* `EndState.state`: the state of the channel of an end
* `Fits`: a channel and its notices are as the machine says

## Main results

* `EndState.inbox_cons`: the six notices an end may receive next
* `Fits.connected`, `Fits.configure`, `Fits.configured`, `Fits.disconnect`, `Fits.disconnected`:
  what each of them does to both ends
-/

namespace ClassicHid

open Foundation

/-- One end of a pair. Its configuration request was not sent (`phase = 0`), is on its way (`1`),
was judged and the answer is on its way back (`2`), or was answered (`3`). -/
structure EndState where
  /-- The channel at the other end. -/
  peer : UInt16
  phase : ℕ
  /-- The owner of this end has called `disconnect`. -/
  left : Bool := false
  /-- The other end's request to disconnect has arrived. -/
  dismissed : Bool := false
  /-- The other end has answered the request to disconnect. -/
  released : Bool := false
  /-- The data on the way to this end. -/
  data : List Bytes := []
  /-- The data that arrived after this end had left. -/
  lost : List Bytes := []

namespace EndState

variable {e f : EndState} {own peer : ChannelSpec}

/-- The notices on the way to the end `e`. -/
def inbox (e f : EndState) (own peer : ChannelSpec) : List Notice :=
  (if e.phase = 0 then [.connected e.peer] else []) ++
    ((if f.phase = 1 then [.configure 0 (ChannelManager.configurationBytes peer)] else []) ++
      ((if e.phase = 2 then [.configured (peer.verdict own)] else []) ++
        (e.data.map .data ++
          ((if f.left && !e.dismissed then [.disconnect e.peer] else []) ++
            if f.dismissed && !e.released then [.disconnected e.peer] else []))))

/-- The state of a channel that nobody has left. -/
def agreed (own peer : ChannelSpec) (phase peerPhase : ℕ) : ClassicChannelState :=
  if phase = 0 then .waitConnectResponse
  else if phase = 3 ∧ own.accepts peer = false ∨ 2 ≤ peerPhase ∧ own.closesOn peer = true then
    .closed
  else if phase = 3 ∧ 2 ≤ peerPhase then .open
  else .configuring

/-- The state of the channel of the end `e`. -/
def state (e f : EndState) (own peer : ChannelSpec) : ClassicChannelState :=
  if e.dismissed || e.released then .closed
  else if e.left then .waitDisconnect
  else agreed own peer e.phase f.phase

/-- **The next notice** of an end, and what is left after it. -/
theorem inbox_cons {notice : Notice} {rest : List Notice}
    (h : e.inbox f own peer = notice :: rest) :
    (e.phase = 0 ∧ notice = .connected e.peer ∧
        rest = { e with phase := 1 }.inbox f own peer) ∨
      (e.phase ≠ 0 ∧ f.phase = 1 ∧
        notice = .configure 0 (ChannelManager.configurationBytes peer) ∧
        rest = e.inbox { f with phase := 2 } own peer) ∨
      (e.phase = 2 ∧ f.phase ≠ 1 ∧ notice = .configured (peer.verdict own) ∧
        rest = { e with phase := 3 }.inbox f own peer) ∨
      (e.phase ≠ 0 ∧ e.phase ≠ 2 ∧ f.phase ≠ 1 ∧ ∃ payload data, e.data = payload :: data ∧
        notice = .data payload ∧ rest = { e with data := data }.inbox f own peer) ∨
      (e.phase ≠ 0 ∧ e.phase ≠ 2 ∧ f.phase ≠ 1 ∧ e.data = [] ∧ f.left = true ∧
        e.dismissed = false ∧ notice = .disconnect e.peer ∧
        rest = { e with dismissed := true }.inbox f own peer) ∨
      (e.phase ≠ 0 ∧ e.phase ≠ 2 ∧ f.phase ≠ 1 ∧ e.data = [] ∧
        f.dismissed = true ∧ e.released = false ∧ notice = .disconnected e.peer ∧
        rest = { e with released := true }.inbox f own peer) := by
  unfold inbox at h ⊢
  by_cases hphase : e.phase = 0
  · refine .inl ?_
    simp only [hphase, if_true, List.singleton_append, List.cons.injEq] at h
    obtain ⟨rfl, rfl⟩ := h
    simp [hphase]
  by_cases hpeer : f.phase = 1
  · refine .inr (.inl ?_)
    simp only [hphase, hpeer, if_false, if_true, List.singleton_append, List.nil_append,
      List.cons.injEq] at h
    obtain ⟨rfl, rfl⟩ := h
    simp [hphase, hpeer]
  by_cases hanswer : e.phase = 2
  · refine .inr (.inr (.inl ?_))
    rw [if_neg hphase, if_neg hpeer, if_pos hanswer, List.nil_append, List.nil_append,
      List.singleton_append, List.cons.injEq] at h
    obtain ⟨rfl, rfl⟩ := h
    simp [hpeer, hanswer]
  refine .inr (.inr (.inr ?_))
  rcases hdata : e.data with _ | ⟨payload, data⟩
  swap
  · refine .inl ⟨hphase, hanswer, hpeer, payload, data, rfl, ?_⟩
    simp only [hphase, hpeer, hanswer, hdata, if_false, List.nil_append, List.map_cons,
      List.cons_append, List.cons.injEq] at h
    obtain ⟨rfl, rfl⟩ := h
    simp [hphase, hpeer, hanswer]
  refine .inr ?_
  simp only [hphase, hpeer, hanswer, hdata, if_false, List.nil_append, List.map_nil] at h ⊢
  by_cases hleft : (f.left && !e.dismissed) = true
  · refine .inl ?_
    simp only [hleft, if_true, List.singleton_append, List.cons.injEq] at h
    obtain ⟨rfl, rfl⟩ := h
    simp only [Bool.and_eq_true, Bool.not_eq_true'] at hleft
    simp [hphase, hpeer, hanswer, hleft]
  · refine .inr ?_
    simp only [hleft, Bool.false_eq_true, if_false, List.nil_append] at h
    by_cases hgone : (f.dismissed && !e.released) = true
    · simp only [hgone, if_true, List.cons.injEq] at h
      obtain ⟨rfl, rfl⟩ := h
      simp only [Bool.and_eq_true, Bool.not_eq_true'] at hgone
      simp [hphase, hpeer, hanswer, hgone, hleft]
    · simp only [hgone, Bool.false_eq_true, if_false] at h
      cases h

/-! ### What joins an inbox -/

/-- The other end asks for its configuration. -/
theorem inbox_asked (hphase : f.phase ≠ 2) (hpeer : e.phase = 0) (hdata : f.data = [])
    (hleft : e.left = false) (hdismissed : e.dismissed = false) :
    f.inbox { e with phase := 1 } own peer =
      f.inbox e own peer ++ [.configure 0 (ChannelManager.configurationBytes peer)] := by
  simp [inbox, hphase, hpeer, hdata, hleft, hdismissed]

/-- The other end answers the configuration of this one. -/
theorem inbox_judged (hphase : f.phase = 1) (hdata : f.data = []) (hleft : e.left = false)
    (hdismissed : e.dismissed = false) :
    { f with phase := 2 }.inbox e own peer =
      f.inbox e own peer ++ [.configured (peer.verdict own)] := by
  simp [inbox, hphase, hdata, hleft, hdismissed]

/-- The other end sends data. -/
theorem inbox_data (hleft : e.left = false) (hdismissed : e.dismissed = false)
    (payloads : List Bytes) :
    { f with data := f.data ++ payloads }.inbox e own peer =
      f.inbox e own peer ++ payloads.map .data := by
  simp [inbox, hleft, hdismissed]

/-- The other end leaves. -/
theorem inbox_left (hleft : e.left = false) (hdismissed : e.dismissed = false)
    (hgone : f.dismissed = false) :
    f.inbox { e with left := true } own peer = f.inbox e own peer ++ [.disconnect f.peer] := by
  simp [inbox, hleft, hdismissed, hgone]

/-- The other end answers that this one has left. -/
theorem inbox_dismissed (hdismissed : e.dismissed = false) (hreleased : f.released = false) :
    f.inbox { e with dismissed := true } own peer =
      f.inbox e own peer ++ [.disconnected f.peer] := by
  simp [inbox, hdismissed, hreleased]

end EndState

/-! ### A channel and its notices -/

/-- The frame check of a specification. -/
def ChannelSpec.fcs (spec : ChannelSpec) : Bool := spec.ertm?.elim false (·.fcsEnabled)

/-- The channel `c` of the end `e` and the notices on the way to it are as the machine says, when
its peer has the specification `peer`. -/
structure Fits (c : ClassicChannel) (peer : ChannelSpec) (inbox : List Notice)
    (e f : EndState) : Prop where
  valid : c.spec.Valid
  mode : c.mode = c.spec.mode
  mtu : c.mtu = c.spec.mtu
  phase : e.phase ≤ 3
  first : e.phase = 0 → c.incoming = false ∧ f.phase = 1
  destination : c.destinationCid = if e.phase = 0 then 0 else e.peer
  state : c.state = e.state f c.spec peer
  answered : c.configurationResponseReceived = (e.phase = 3 && c.spec.accepts peer)
  judged : c.peerConfigurationReceived = (2 ≤ f.phase && c.spec.accepts peer)
  fcs : c.fcsEnabled = (2 ≤ f.phase && c.spec.accepts peer && c.spec.fcs)
  peerMtu : 2 ≤ f.phase → c.peerMtu = peer.mtu
  peerMps : 2 ≤ f.phase → c.spec.accepts peer = true → ∀ asked, peer.ertm? = some asked →
    c.peerMps = asked.mps
  engine : c.ertm.isSome = true → 2 ≤ f.phase ∧ c.spec.accepts peer = true
  inbox : inbox = e.inbox f c.spec peer
  left : e.left = true → e.phase = 3 ∧ 2 ≤ f.phase ∧ c.spec.accepts peer = true ∧ c.mode = .basic
  dismissed : e.dismissed = true → f.left = true ∧ e.data = [] ∧ e.phase = 3
  released : e.released = true → e.left = true ∧ f.dismissed = true
  data : e.data ≠ [] → 2 ≤ e.phase ∧
    (c.mode = .basic → f.phase = 3 ∧ c.spec.accepts peer = true)
  short : c.mode = .basic → ∀ payload ∈ e.data, payload.length ≤ c.mtu.toNat
  lost : e.lost ≠ [] → e.left = true

/-- Two specifications that go together have the same mode. -/
theorem ChannelSpec.mode_of_accepts {own peer : ChannelSpec} (h : own.accepts peer = true) :
    own.mode = peer.mode := by
  cases own <;> cases peer <;> first | rfl | cases h

/-- Two specifications that go together check frames alike. -/
theorem ChannelSpec.fcs_of_accepts {own peer : ChannelSpec} (h : own.accepts peer = true) :
    own.fcs = peer.fcs := by
  cases own <;> cases peer <;> simp_all [ChannelSpec.accepts, ChannelSpec.fcs, ChannelSpec.ertm?]

theorem EndState.agreed_eq_open {own peer : ChannelSpec} {phase peerPhase : ℕ}
    (h : EndState.agreed own peer phase peerPhase = .open) :
    phase = 3 ∧ 2 ≤ peerPhase ∧ own.accepts peer = true := by
  unfold EndState.agreed at h
  split at h
  · cases h
  split at h
  · cases h
  rename_i hnot
  split at h
  · rename_i hopen
    refine ⟨hopen.1, hopen.2, ?_⟩
    rw [not_or] at hnot
    simpa [hopen.1] using hnot.1
  · cases h

namespace Fits

variable {c s : ClassicChannel} {inbox inbox' rest : List Notice} {e f : EndState}

/-- A channel that is open was left by nobody. -/
theorem of_open (h : Fits c s.spec inbox e f) (hopen : c.state = .open) :
    e.left = false ∧ e.dismissed = false ∧ e.released = false ∧ e.phase = 3 ∧ 2 ≤ f.phase ∧
      c.spec.accepts s.spec = true := by
  have hstate := h.state.symm.trans hopen
  unfold EndState.state at hstate
  split at hstate
  · cases hstate
  rename_i hgone
  split at hstate
  · cases hstate
  rename_i hleft
  obtain ⟨hphase, hpeer, haccepts⟩ := EndState.agreed_eq_open hstate
  simp only [Bool.or_eq_true, not_or, Bool.not_eq_true] at hgone hleft
  exact ⟨hleft, hgone.1, hgone.2, hphase, hpeer, haccepts⟩

/-- While one end has not judged the other's configuration, nobody has left. -/
theorem nobody_left (h : Fits c s.spec inbox e f) (h' : Fits s c.spec inbox' f e)
    (hphase : f.phase ≤ 1) :
    e.left = false ∧ f.left = false ∧ e.dismissed = false ∧ f.dismissed = false ∧
      e.released = false ∧ f.released = false := by
  have hleft : e.left = false := by
    rw [← Bool.not_eq_true]
    intro hleft
    have := (h.left hleft).2.1
    omega
  have hleft' : f.left = false := by
    rw [← Bool.not_eq_true]
    intro hleft
    have := (h'.left hleft).1
    omega
  refine ⟨hleft, hleft', ?_, ?_, ?_, ?_⟩ <;> rw [← Bool.not_eq_true] <;> intro hgone
  · rw [(h.dismissed hgone).1] at hleft'
    cases hleft'
  · rw [(h'.dismissed hgone).1] at hleft
    cases hleft
  · rw [(h.released hgone).1] at hleft
    cases hleft
  · rw [(h'.released hgone).1] at hleft'
    cases hleft'

/-- An end that was not answered yet waits for the answer. -/
theorem state_first (h : Fits c s.spec inbox e f) (h' : Fits s c.spec inbox' f e)
    (hphase : e.phase = 0) : c.state = .waitConnectResponse := by
  obtain ⟨_, hpeer⟩ := h.first hphase
  obtain ⟨hleft, _, hdismissed, _, hreleased, _⟩ := h.nobody_left h' (Nat.le_of_eq hpeer)
  rw [h.state, EndState.state, hdismissed, hreleased, hleft, EndState.agreed, hphase]
  rfl

/-- When both configurations were answered and nobody has left, a channel is open or closed. -/
theorem state_answered (h : Fits c s.spec inbox e f) (hleft : e.left = false)
    (hleft' : f.left = false) (hphase : e.phase = 3) (hpeer : f.phase = 3) :
    c.state = if c.spec.accepts s.spec then .open else .closed := by
  have hdismissed : e.dismissed = false := by
    rw [← Bool.not_eq_true]
    intro hgone
    rw [(h.dismissed hgone).1] at hleft'
    cases hleft'
  have hreleased : e.released = false := by
    rw [← Bool.not_eq_true]
    intro hgone
    rw [(h.released hgone).1] at hleft
    cases hleft
  rw [h.state, EndState.state, hdismissed, hreleased, hleft, EndState.agreed, hphase, hpeer]
  rcases haccepts : c.spec.accepts s.spec with _ | _
  · rfl
  · have hcloses : c.spec.closesOn s.spec = false := by
      simp [ChannelSpec.closesOn, haccepts]
    rw [hcloses]
    rfl

/-- In basic mode, data arrives at an open channel or at one that its owner has left. -/
theorem open_or_left (h : Fits c s.spec inbox e f) (hdata : e.data ≠ []) (hphase : e.phase ≠ 2)
    (hmode : c.mode = .basic) : c.state = .open ∨ e.left = true := by
  obtain ⟨htwo, hbasic⟩ := h.data hdata
  obtain ⟨hpeer, haccepts⟩ := hbasic hmode
  rcases hleft : e.left with _ | _
  swap
  · exact .inr rfl
  refine .inl ?_
  have hdismissed : e.dismissed = false := by
    rw [← Bool.not_eq_true]
    intro hgone
    exact hdata (h.dismissed hgone).2.1
  have hreleased : e.released = false := by
    rw [← Bool.not_eq_true]
    intro hgone
    rw [(h.released hgone).1] at hleft
    cases hleft
  have hthree : e.phase = 3 := by
    have := h.phase
    omega
  have hcloses : c.spec.closesOn s.spec = false := by
    simp [ChannelSpec.closesOn, haccepts]
  simp [h.state, EndState.state, hdismissed, hreleased, hleft, EndState.agreed, hthree, hpeer,
    haccepts, hcloses]

/-- Data changes nothing that the machine says of a channel. -/
theorem withData (h : Fits c s.spec inbox e f) (engine : Option ErtmEngine)
    (hengine : engine.isSome = c.ertm.isSome) (received : List Bytes) :
    Fits { c with ertm := engine, received := received } s.spec inbox e f :=
  ⟨h.valid, h.mode, h.mtu, h.phase, h.first, h.destination, h.state, h.answered, h.judged, h.fcs,
    h.peerMtu, h.peerMps, by rw [hengine]; exact h.engine, h.inbox, h.left, h.dismissed, h.released,
    h.data, h.short, h.lost⟩

/-- **The connection is accepted**: the end asks for its configuration. -/
theorem connected (h : Fits c s.spec inbox e f) (h' : Fits s c.spec inbox' f e)
    (hphase : e.phase = 0) (hrest : rest = { e with phase := 1 }.inbox f c.spec s.spec) :
    Fits { c with connectionResult := some connectionSuccessful, destinationCid := e.peer,
                  state := .configuring } s.spec rest { e with phase := 1 } f ∧
      Fits s c.spec (inbox' ++ [.configure 0 (ChannelManager.configurationBytes c.spec)]) f
        { e with phase := 1 } := by
  obtain ⟨_, hpeer⟩ := h.first hphase
  obtain ⟨hleft, hleft', hdismissed, hdismissed', hreleased, hreleased'⟩ :=
    h.nobody_left h' (Nat.le_of_eq hpeer)
  have hdata : f.data = [] := by
    by_contra hdata
    have := (h'.data hdata).1
    omega
  have hdata' : e.data = [] := by
    by_contra hdata
    have := (h.data hdata).1
    omega
  constructor
  · refine ⟨h.valid, h.mode, h.mtu, by simp, nofun, by simp, ?_, ?_, h.judged, h.fcs, h.peerMtu,
      h.peerMps, h.engine, hrest, ?_, ?_, ?_, ?_, h.short, h.lost⟩
    · simp [EndState.state, EndState.agreed, hdismissed, hreleased, hleft, hpeer]
    · rw [h.answered, hphase]
      rfl
    · simp [hleft]
    · simp [hdismissed]
    · exact h.released
    · simp [hdata']
  · refine ⟨h'.valid, h'.mode, h'.mtu, h'.phase, ?_, h'.destination, ?_, h'.answered, ?_, ?_,
      ?_, ?_, ?_, ?_, ?_, ?_, h'.released, ?_, h'.short, h'.lost⟩
    · intro hzero
      omega
    · rw [h'.state]
      simp [EndState.state, EndState.agreed, hphase]
    · rw [h'.judged, hphase]
      rfl
    · rw [h'.fcs, hphase]
      rfl
    · nofun
    · nofun
    · intro hengine
      have := (h'.engine hengine).1
      omega
    · rw [EndState.inbox_asked (by omega) hphase hdata hleft hdismissed, h'.inbox]
    · simp [hleft']
    · simp [hdismissed']
    · simp [hdata]

end Fits

/-! ### Judging and being judged -/

namespace ClassicChannel

variable {c : ClassicChannel} {peer : ChannelSpec}

/-- What judging a configuration leaves alone. -/
theorem heard_keeps (c : ClassicChannel) (peer : ChannelSpec) :
    (c.heard peer).spec = c.spec ∧ (c.heard peer).mode = c.mode ∧ (c.heard peer).mtu = c.mtu ∧
      (c.heard peer).incoming = c.incoming ∧ (c.heard peer).psm = c.psm ∧
      (c.heard peer).destinationCid = c.destinationCid ∧
      (c.heard peer).configurationResponseReceived = c.configurationResponseReceived ∧
      (c.heard peer).peerMtu = peer.mtu := by
  unfold heard
  split
  · split <;> simp
  split <;> simp [refused]

theorem settled_state (c : ClassicChannel) :
    c.settled.state = if c.configured then .open else c.state := by
  unfold settled
  split <;> rfl

/-- A configuration that is accepted. -/
theorem heard_accepts (h : c.spec.accepts peer = true) :
    (c.heard peer).peerConfigurationReceived = true ∧ (c.heard peer).state = c.state ∧
      (c.spec.fcs = (c.heard peer).fcsEnabled ∨
        c.spec.fcs = false ∧ (c.heard peer).fcsEnabled = c.fcsEnabled) ∧
      ∀ asked, peer.ertm? = some asked → (c.heard peer).peerMps = asked.mps := by
  rcases hspec : c.spec with own | own <;> rcases peer with peer | peer <;> rw [hspec] at h
  · simp only [heard, hspec, h, if_true, ChannelSpec.ertm?]
    exact ⟨trivial, trivial, .inr ⟨rfl, trivial⟩, (by rintro _ ⟨⟩)⟩
  · cases h
  · cases h
  · simp only [heard, hspec, h, if_true, ChannelSpec.ertm?]
    refine ⟨trivial, trivial, .inl rfl, ?_⟩
    rintro asked hasked
    cases hasked
    rfl

/-- A configuration that is not accepted. -/
theorem heard_rejects (h : c.spec.accepts peer = false) :
    (c.heard peer).peerConfigurationReceived = c.peerConfigurationReceived ∧
      (c.heard peer).state = (if c.spec.closesOn peer then .closed else c.state) ∧
      (c.heard peer).fcsEnabled = c.fcsEnabled ∧ (c.heard peer).ertm = c.ertm := by
  unfold heard
  rw [h, if_neg (by decide)]
  rcases c.spec.closesOn peer with _ | _ <;> exact ⟨rfl, rfl, rfl, rfl⟩

end ClassicChannel

namespace Fits

variable {c s : ClassicChannel} {inbox inbox' rest : List Notice} {e f : EndState}

/-- **A configuration is judged**, and the answer is on its way. -/
theorem configure (h : Fits c s.spec inbox e f) (h' : Fits s c.spec inbox' f e)
    (hphase : e.phase ≠ 0) (hpeer : f.phase = 1)
    (hrest : rest = e.inbox { f with phase := 2 } c.spec s.spec) :
    Fits (c.heard s.spec).settled s.spec rest e { f with phase := 2 } ∧
      Fits s c.spec (inbox' ++ [.configured (c.spec.verdict s.spec)]) { f with phase := 2 } e := by
  obtain ⟨hleft, hleft', hdismissed, hdismissed', hreleased, hreleased'⟩ :=
    h.nobody_left h' (Nat.le_of_eq hpeer)
  have hdata : f.data = [] := by
    by_contra hdata
    have := (h'.data hdata).1
    omega
  obtain ⟨hspec, hmode, hmtu, hincoming, _, hdestination, hanswered, hpeerMtu⟩ :=
    c.heard_keeps s.spec
  obtain ⟨sspec, smode, smtu, sincoming, _, sdestination, sanswered, sjudged, sfcs, speerMtu,
    speerMps, sertm⟩ := (c.heard s.spec).settled_keeps
  have hstate : c.state = EndState.agreed c.spec s.spec e.phase 1 := by
    rw [h.state, EndState.state, hdismissed, hreleased, hleft, hpeer]
    rfl
  have hbefore : c.peerConfigurationReceived = false := by
    rw [h.judged, hpeer]
    rfl
  have hfcs : c.fcsEnabled = false := by
    rw [h.fcs, hpeer]
    rfl
  constructor
  · refine ⟨?_, ?_, ?_, h.phase, ?_, ?_, ?_, ?_, ?_, ?_, ?_, ?_, ?_, ?_, ?_, ?_, h.released, ?_,
      ?_, h.lost⟩
    · rw [sspec, hspec]
      exact h.valid
    · rw [smode, hmode, sspec, hspec]
      exact h.mode
    · rw [smtu, hmtu, sspec, hspec]
      exact h.mtu
    · intro hzero
      exact absurd hzero hphase
    · rw [sdestination, hdestination]
      exact h.destination
    · rw [sspec, hspec, EndState.state, hdismissed, hreleased, hleft,
        ClassicChannel.settled_state, ClassicChannel.configured, hanswered, h.answered]
      rcases haccepts : c.spec.accepts s.spec with _ | _
      · obtain ⟨hjudged, hclosed, _, _⟩ := ClassicChannel.heard_rejects haccepts
        rw [hjudged, hbefore, hclosed, hstate]
        rcases hcloses : c.spec.closesOn s.spec with _ | _ <;>
          simp [EndState.agreed, hphase, haccepts, hcloses]
        split <;> simp_all
      · obtain ⟨hjudged, hsame, _, _⟩ := ClassicChannel.heard_accepts haccepts
        have hcloses : c.spec.closesOn s.spec = false := by
          simp [ChannelSpec.closesOn, haccepts]
        rw [hjudged, hsame, hstate]
        by_cases hthree : e.phase = 3 <;>
          simp [EndState.agreed, hphase, haccepts, hcloses, hthree]
    · rw [sanswered, hanswered, sspec, hspec]
      exact h.answered
    · rw [sjudged, sspec, hspec]
      rcases haccepts : c.spec.accepts s.spec with _ | _
      · rw [(ClassicChannel.heard_rejects haccepts).1, hbefore]
        rfl
      · rw [(ClassicChannel.heard_accepts haccepts).1]
        rfl
    · rw [sfcs, sspec, hspec]
      rcases haccepts : c.spec.accepts s.spec with _ | _
      · rw [(ClassicChannel.heard_rejects haccepts).2.2.1, hfcs]
        rfl
      · rcases (ClassicChannel.heard_accepts haccepts).2.2.1 with hsame | ⟨hnone, hsame⟩
        · rw [← hsame]
          rfl
        · rw [hsame, hnone, hfcs]
          rfl
    · intro _
      rw [speerMtu, hpeerMtu]
    · intro _ haccepts asked hasked
      rw [sspec, hspec] at haccepts
      rw [speerMps]
      exact (ClassicChannel.heard_accepts haccepts).2.2.2 asked hasked
    · intro hengine
      rw [sspec, hspec]
      refine ⟨Nat.le_refl 2, ?_⟩
      rcases haccepts : c.spec.accepts s.spec with _ | _
      · rw [sertm, (ClassicChannel.heard_rejects haccepts).2.2.2] at hengine
        have := (h.engine hengine).1
        omega
      · rfl
    · rw [sspec, hspec]
      exact hrest
    · simp [hleft]
    · simp [hdismissed]
    · intro hne
      obtain ⟨htwo, hbasic⟩ := h.data hne
      refine ⟨htwo, ?_⟩
      intro hmode'
      rw [smode, hmode] at hmode'
      have := (hbasic hmode').1
      omega
    · rw [smode, hmode, smtu, hmtu]
      exact h.short
  · refine ⟨h'.valid, h'.mode, h'.mtu, by simp, (by rintro ⟨⟩), ?_, ?_, ?_, h'.judged, h'.fcs,
      h'.peerMtu, h'.peerMps, h'.engine, ?_, ?_, ?_, h'.released, ?_, h'.short, h'.lost⟩
    · rw [h'.destination, hpeer]
      rfl
    · rw [h'.state]
      simp [EndState.state, EndState.agreed, hpeer]
    · rw [h'.answered, hpeer]
      rfl
    · rw [EndState.inbox_judged hpeer hdata hleft hdismissed, h'.inbox]
    · simp [hleft']
    · simp [hdismissed']
    · simp [hdata]

/-- **A configuration was answered.** -/
theorem configured (h : Fits c s.spec inbox e f) (h' : Fits s c.spec inbox' f e)
    (hphase : e.phase = 2) (hpeer : f.phase ≠ 1)
    (hrest : rest = { e with phase := 3 }.inbox f c.spec s.spec) :
    Fits (c.answered (s.spec.verdict c.spec)).settled s.spec rest { e with phase := 3 } f ∧
      Fits s c.spec inbox' f { e with phase := 3 } := by
  have htwo : 2 ≤ f.phase := by
    rcases Nat.eq_zero_or_pos f.phase with hzero | hpos
    · have := (h'.first hzero).2
      omega
    · omega
  have hleft : e.left = false := by
    rw [← Bool.not_eq_true]
    intro hleft
    have := (h.left hleft).1
    omega
  have hdismissed : e.dismissed = false := by
    rw [← Bool.not_eq_true]
    intro hgone
    have := (h.dismissed hgone).2.2
    omega
  have hreleased : e.released = false := by
    rw [← Bool.not_eq_true]
    intro hgone
    rw [(h.released hgone).1] at hleft
    cases hleft
  have hstate : c.state = EndState.agreed c.spec s.spec 2 f.phase := by
    rw [h.state, EndState.state, hdismissed, hreleased, hleft, hphase]
    rfl
  have hverdict : s.spec.verdict c.spec = if c.spec.accepts s.spec then configurationSuccess
      else configurationUnacceptableParameters := by
    rw [ChannelSpec.verdict, ChannelSpec.accepts_comm]
  obtain ⟨hspec, hmode, hmtu, _, _, hdestination, hjudged, hfcs, hpeerMtu, hpeerMps, hertm⟩ :=
    c.answered_keeps (s.spec.verdict c.spec)
  obtain ⟨sspec, smode, smtu, _, _, sdestination, sanswered, sjudged, sfcs, speerMtu, speerMps,
    sertm⟩ := (c.answered (s.spec.verdict c.spec)).settled_keeps
  constructor
  · refine ⟨?_, ?_, ?_, Nat.le_refl 3, (by rintro ⟨⟩), ?_, ?_, ?_, ?_, ?_, ?_, ?_, ?_, ?_, ?_, ?_, ?_,
      ?_, ?_, h.lost⟩
    · rw [sspec, hspec]
      exact h.valid
    · rw [smode, hmode, sspec, hspec]
      exact h.mode
    · rw [smtu, hmtu, sspec, hspec]
      exact h.mtu
    · rw [sdestination, hdestination, h.destination, hphase]
      rfl
    · rw [sspec, hspec, EndState.state, hdismissed, hreleased, hleft,
        ClassicChannel.settled_state, ClassicChannel.configured, hjudged, h.judged]
      rcases haccepts : c.spec.accepts s.spec with _ | _
      · have hclosed : (c.answered (s.spec.verdict c.spec)).state = .closed := by
          rw [hverdict, haccepts]
          rfl
        rw [hclosed]
        simp [EndState.agreed, haccepts]
      · have hcloses : c.spec.closesOn s.spec = false := by
          simp [ChannelSpec.closesOn, haccepts]
        have hanswered : (c.answered (s.spec.verdict c.spec)) =
            { c with configurationResponseReceived := true } := by
          rw [hverdict, haccepts]
          rfl
        rw [hanswered]
        simp [EndState.agreed, haccepts, hcloses, htwo, hstate]
    · rw [sanswered, sspec, hspec]
      rcases haccepts : c.spec.accepts s.spec with _ | _
      · rw [hverdict, haccepts]
        change c.configurationResponseReceived = _
        rw [h.answered, hphase]
        rfl
      · rw [hverdict, haccepts]
        rfl
    · rw [sjudged, hjudged, sspec, hspec]
      exact h.judged
    · rw [sfcs, hfcs, sspec, hspec]
      exact h.fcs
    · rw [speerMtu, hpeerMtu]
      exact h.peerMtu
    · rw [speerMps, hpeerMps, sspec, hspec]
      exact h.peerMps
    · rw [sertm, hertm, sspec, hspec]
      exact h.engine
    · rw [sspec, hspec]
      exact hrest
    · simp [hleft]
    · simp [hdismissed]
    · simp [hreleased]
    · intro hne
      obtain ⟨_, hbasic⟩ := h.data hne
      rw [smode, hmode, sspec, hspec]
      exact ⟨by simp, hbasic⟩
    · rw [smode, hmode, smtu, hmtu]
      exact h.short
  · refine ⟨h'.valid, h'.mode, h'.mtu, h'.phase, ?_, h'.destination, ?_, h'.answered, ?_, ?_, ?_,
      ?_, ?_, ?_, ?_, h'.dismissed, h'.released, ?_, h'.short, h'.lost⟩
    · intro hzero
      omega
    · rw [h'.state]
      simp [EndState.state, EndState.agreed, hphase]
    · rw [h'.judged, hphase]
      rfl
    · rw [h'.fcs, hphase]
      rfl
    · intro _
      exact h'.peerMtu (by omega)
    · intro _
      exact h'.peerMps (by omega)
    · intro hengine
      exact ⟨by simp, (h'.engine hengine).2⟩
    · rw [h'.inbox]
      simp [EndState.inbox, hphase]
    · intro hleft
      obtain ⟨hthree, _, hrest⟩ := h'.left hleft
      exact ⟨hthree, by simp, hrest⟩
    · intro hne
      obtain ⟨htwo, hbasic⟩ := h'.data hne
      refine ⟨htwo, ?_⟩
      intro hmode'
      exact ⟨rfl, (hbasic hmode').2⟩

/-- **Data arrives.** -/
theorem arrived (h : Fits c s.spec inbox e f) (h' : Fits s c.spec inbox' f e) {data : List Bytes}
    {payload : Bytes} (hdata : e.data = payload :: data)
    (hrest : rest = { e with data := data }.inbox f c.spec s.spec) {lost : List Bytes}
    (hlost : lost ≠ [] → e.left = true) :
    Fits c s.spec rest { e with data := data, lost := lost } f ∧
      Fits s c.spec inbox' f { e with data := data, lost := lost } := by
  have hne : e.data ≠ [] := by
    rw [hdata]
    exact List.cons_ne_nil _ _
  constructor
  · refine ⟨h.valid, h.mode, h.mtu, h.phase, h.first, h.destination, h.state, h.answered, h.judged,
      h.fcs, h.peerMtu, h.peerMps, h.engine, hrest, h.left, ?_, h.released, fun _ => h.data hne,
      ?_, hlost⟩
    · intro hgone
      exact absurd (h.dismissed hgone).2.1 hne
    · intro hbasic payload' hmem
      apply h.short hbasic
      rw [hdata]
      exact List.mem_cons_of_mem _ hmem
  · exact ⟨h'.valid, h'.mode, h'.mtu, h'.phase, h'.first, h'.destination, h'.state, h'.answered,
      h'.judged, h'.fcs, h'.peerMtu, h'.peerMps, h'.engine, h'.inbox, h'.left, h'.dismissed,
      h'.released, h'.data, h'.short, h'.lost⟩

/-- **An end sends data**, when it is open or has an engine. -/
theorem sends (h : Fits c s.spec inbox e f) (h' : Fits s c.spec inbox' f e)
    (hmay : c.state = .open ∨ c.ertm.isSome = true ∧ c.mode = .enhancedRetransmission)
    (payloads : List Bytes)
    (hshort : s.mode = .basic → ∀ payload ∈ payloads, payload.length ≤ s.mtu.toNat) :
    Fits c s.spec inbox e { f with data := f.data ++ payloads } ∧
      Fits s c.spec (inbox' ++ payloads.map .data) { f with data := f.data ++ payloads } e := by
  have hfacts : e.left = false ∧ e.dismissed = false ∧ 2 ≤ f.phase ∧
      c.spec.accepts s.spec = true ∧ (s.mode = .basic → e.phase = 3) := by
    rcases hmay with hopen | ⟨hengine, hmode⟩
    · obtain ⟨hleft, hdismissed, _, hphase, htwo, haccepts⟩ := h.of_open hopen
      exact ⟨hleft, hdismissed, htwo, haccepts, fun _ => hphase⟩
    · obtain ⟨htwo, haccepts⟩ := h.engine hengine
      have hmodes : s.mode = .enhancedRetransmission := by
        rw [h'.mode, ← ChannelSpec.mode_of_accepts haccepts, ← h.mode, hmode]
      have hleft (hleft : f.left = true) : False := by
        cases hmodes.symm.trans (h'.left hleft).2.2.2
      refine ⟨?_, ?_, htwo, haccepts, ?_⟩
      · rw [← Bool.not_eq_true]
        intro hleft
        cases hmode.symm.trans (h.left hleft).2.2.2
      · rw [← Bool.not_eq_true]
        intro hgone
        exact hleft (h.dismissed hgone).1
      · intro hbasic
        cases hmodes.symm.trans hbasic
  obtain ⟨hleft, hdismissed, htwo, haccepts, hphase⟩ := hfacts
  constructor
  · exact ⟨h.valid, h.mode, h.mtu, h.phase, h.first, h.destination, h.state, h.answered, h.judged,
      h.fcs, h.peerMtu, h.peerMps, h.engine, h.inbox, h.left, h.dismissed, h.released, h.data,
      h.short, h.lost⟩
  · refine ⟨h'.valid, h'.mode, h'.mtu, h'.phase, h'.first, h'.destination, h'.state, h'.answered,
      h'.judged, h'.fcs, h'.peerMtu, h'.peerMps, h'.engine, ?_, h'.left, ?_, h'.released, ?_,
      ?_, h'.lost⟩
    · rw [EndState.inbox_data hleft hdismissed, h'.inbox]
    · intro hgone
      rw [(h'.dismissed hgone).1] at hleft
      cases hleft
    · intro _
      refine ⟨htwo, ?_⟩
      intro hbasic
      rw [ChannelSpec.accepts_comm]
      exact ⟨hphase hbasic, haccepts⟩
    · intro hbasic payload hmem
      rcases List.mem_append.mp hmem with hmem | hmem
      · exact h'.short hbasic payload hmem
      · exact hshort hbasic payload hmem

/-- **The owner of an end leaves.** -/
theorem leaves (h : Fits c s.spec inbox e f) (h' : Fits s c.spec inbox' f e)
    (hopen : c.state = .open) (hmode : c.mode = .basic) :
    Fits { c with state := .waitDisconnect } s.spec inbox { e with left := true } f ∧
      Fits s c.spec (inbox' ++ [.disconnect f.peer]) f { e with left := true } := by
  obtain ⟨hleft, hdismissed, hreleased, hphase, htwo, haccepts⟩ := h.of_open hopen
  have hgone : f.dismissed = false := by
    rw [← Bool.not_eq_true]
    intro hgone
    rw [(h'.dismissed hgone).1] at hleft
    cases hleft
  constructor
  · refine ⟨h.valid, h.mode, h.mtu, h.phase, h.first, h.destination, ?_, h.answered, h.judged,
      h.fcs, h.peerMtu, h.peerMps, h.engine, h.inbox, fun _ => ⟨hphase, htwo, haccepts, hmode⟩,
      h.dismissed, ?_, h.data, h.short, fun _ => rfl⟩
    · simp [EndState.state, hdismissed, hreleased]
    · simp [hreleased]
  · refine ⟨h'.valid, h'.mode, h'.mtu, h'.phase, h'.first, h'.destination, h'.state, h'.answered,
      h'.judged, h'.fcs, h'.peerMtu, h'.peerMps, h'.engine, ?_, h'.left, ?_, h'.released, h'.data,
      h'.short, h'.lost⟩
    · rw [EndState.inbox_left hleft hdismissed hgone, h'.inbox]
    · simp [hgone]

/-- **The other end has left.** -/
theorem disconnect (h : Fits c s.spec inbox e f) (h' : Fits s c.spec inbox' f e)
    (hdata : e.data = []) (hleft : f.left = true) (hphase : e.phase ≠ 2)
    (hdismissed : e.dismissed = false)
    (hrest : rest = { e with dismissed := true }.inbox f c.spec s.spec) :
    Fits { c with state := .closed } s.spec rest { e with dismissed := true } f ∧
      Fits s c.spec (inbox' ++ [.disconnected f.peer]) f { e with dismissed := true } := by
  have hreleased : f.released = false := by
    rw [← Bool.not_eq_true]
    intro hgone
    rw [(h'.released hgone).2] at hdismissed
    cases hdismissed
  have hthree : e.phase = 3 := by
    have := (h'.left hleft).2.1
    have := h.phase
    omega
  constructor
  · refine ⟨h.valid, h.mode, h.mtu, h.phase, h.first, h.destination, ?_, h.answered, h.judged,
      h.fcs, h.peerMtu, h.peerMps, h.engine, hrest, h.left, fun _ => ⟨hleft, hdata, hthree⟩,
      h.released, h.data, h.short, h.lost⟩
    simp [EndState.state]
  · refine ⟨h'.valid, h'.mode, h'.mtu, h'.phase, h'.first, h'.destination, h'.state, h'.answered,
      h'.judged, h'.fcs, h'.peerMtu, h'.peerMps, h'.engine, ?_, h'.left, h'.dismissed, ?_,
      h'.data, h'.short, h'.lost⟩
    · rw [EndState.inbox_dismissed hdismissed hreleased, h'.inbox]
    · simp [hreleased]

/-- **The other end knows that this one has left.** -/
theorem disconnected (h : Fits c s.spec inbox e f) (h' : Fits s c.spec inbox' f e)
    (hdismissed : f.dismissed = true)
    (hrest : rest = { e with released := true }.inbox f c.spec s.spec) :
    Fits { c with state := .closed } s.spec rest { e with released := true } f ∧
      Fits s c.spec inbox' f { e with released := true } := by
  constructor
  · refine ⟨h.valid, h.mode, h.mtu, h.phase, h.first, h.destination, ?_, h.answered, h.judged,
      h.fcs, h.peerMtu, h.peerMps, h.engine, hrest, h.left, h.dismissed,
      fun _ => ⟨(h'.dismissed hdismissed).1, hdismissed⟩, h.data, h.short, h.lost⟩
    simp [EndState.state]
  · exact ⟨h'.valid, h'.mode, h'.mtu, h'.phase, h'.first, h'.destination, h'.state, h'.answered,
      h'.judged, h'.fcs, h'.peerMtu, h'.peerMps, h'.engine, h'.inbox, h'.left, h'.dismissed,
      h'.released, h'.data, h'.short, h'.lost⟩

/-- **A new pair**: the connection is accepted and the configuration of the new end requested. -/
theorem initial (psm : UInt32) (x y : UInt16) {own peer : ChannelSpec} (hown : own.Valid)
    (hpeer : peer.Valid) :
    Fits (.newOutgoing psm x own) peer
        [.connected y, .configure 0 (ChannelManager.configurationBytes peer)]
        { peer := y, phase := 0 } { peer := x, phase := 1 } ∧
      Fits (.newIncoming psm y x peer) own []
        { peer := x, phase := 1 } { peer := y, phase := 0 } := by
  constructor
  · exact ⟨hown, rfl, rfl, by simp, fun _ => ⟨rfl, rfl⟩, rfl, rfl, rfl, rfl, rfl, nofun, nofun,
      nofun, rfl, nofun, nofun, nofun, nofun, nofun, nofun⟩
  · refine ⟨hpeer, rfl, rfl, by simp, nofun, rfl, ?_, rfl, rfl, rfl, nofun, nofun, nofun, rfl,
      nofun, nofun, nofun, nofun, nofun, nofun⟩
    simp [ClassicChannel.newIncoming, EndState.state, EndState.agreed]

end Fits

end ClassicHid
