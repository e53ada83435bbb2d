import ClassicHid.Session.Links

/-!
# The events of one connection

Between the announcement of a connection and its end, the channels of the connection are announced
once each, reports arrive on announced channels only, and each channel is begun at most once, the
interrupt channel while a control channel is open.

A channel may be opened by the peer, by an active reconnect or by both, and the session learns of it
from the host's announcement or by looking at its own outgoing channels. What ties these together is
`Phase`: as long as nothing was lost, the channels announced since the connection are those that the
session marks as open, and a channel that was begun is not missing while a reconnect is active.

## Main definitions

* `segment`: the entries since the connection that is announced and not ended
* `Phase`: what the session keeps about them
* `Grammatical`: what an entry may be, given the entries before it

## Main results

* `connection_grammar`: the order of the events between a connection and its end
-/

namespace ClassicHid

open Foundation BackendSession World

variable {S : Type}

namespace Action

/-- Whether an action ends the connection for the caller. -/
def endsConnection : Action → Bool
  | .enqueued (.disconnected _) | .called .disconnect => true
  | _ => false

/-- Whether an action announces a connection. -/
def announcesConnection : Action → Bool
  | .enqueued (.connected _) => true
  | _ => false

/-- Whether an action announces a channel. -/
def announces (channel : Channel) : Action → Bool
  | .enqueued (.channelOpened channel') => channel' = channel
  | _ => false

/-- Whether an action begins a channel. -/
def begins (psm : UInt32) : Action → Bool
  | .connecting psm' => psm' = psm
  | _ => false

/-- Whether an action is about none of these. -/
def isNeutral : Action → Bool
  | .enqueued (.hidOutput ..) => true
  | .enqueued _ | .connecting _ | .called .disconnect => false
  | _ => true

/-- Whether an action is not about connections, channels or reports. -/
def isSilent : Action → Bool
  | .enqueued _ | .connecting _ | .called .disconnect | .connected .. => false
  | _ => true

end Action

/-- The entries since the connection that is announced and not ended, if there is one. -/
def segment : List (Entry S) → Option (List (Entry S))
  | [] => none
  | entry :: earlier =>
    if entry.action.endsConnection then none
    else match segment earlier with
      | some entries => some (entry :: entries)
      | none => if entry.action.announcesConnection then some [] else none

/-- What an entry may be, given the entries before it. -/
def Grammatical (earlier : List (Entry S)) (entry : Entry S) : Prop :=
  ∀ entries, segment earlier = some entries →
    match entry.action with
    | .connected .. | .enqueued (.connected _) => False
    | .enqueued (.channelOpened channel) => ∀ e ∈ entries, e.action.announces channel = false
    | .enqueued (.hidOutput channel _) => ∃ e ∈ entries, e.action.announces channel = true
    | .connecting psm => (∀ e ∈ entries, e.action.begins psm = false) ∧
        (psm = hidInterruptPsm → entry.session.host.ControlOpen)
    | _ => True

/-- What the session keeps about the connection that is announced and not ended. -/
structure Phase (session : BackendSession S) (entries : List (Entry S)) : Prop where
  window : session.window = .connected ∨
    session.terminal.isSome = true ∧ session.window = .idle ∧ session.activeReconnect = false
  begun : ∀ channel : Channel, (∃ e ∈ entries, e.action.begins channel.psm = true) →
    session.activeReconnect = true → session.protocols.channel channel ≠ none
  announced : session.terminal = none → ∀ channel,
    (∃ e ∈ entries, e.action.announces channel = true) ↔
      ∃ protocolChannel, session.protocols.channel channel = some protocolChannel ∧
        protocolChannel.open = true

/-- The phase of a world, and the grammar of its record. -/
structure Phased (w : World S) : Prop where
  phase : ∀ entries, segment w.trace = some entries → Phase w.session entries
  record : Throughout Grammatical w.trace

/-! ### Segments -/

theorem Action.not_of_isNeutral {action : Action} (h : action.isNeutral = true) :
    action.endsConnection = false ∧ action.announcesConnection = false ∧
      (∀ channel, action.announces channel = false) ∧ ∀ psm, action.begins psm = false := by
  cases action with
  | enqueued event => cases event <;> first | (exact ⟨rfl, rfl, fun _ => rfl, fun _ => rfl⟩) | cases h
  | called call => cases call <;> first | (exact ⟨rfl, rfl, fun _ => rfl, fun _ => rfl⟩) | cases h
  | connecting => cases h
  | _ => exact ⟨rfl, rfl, fun _ => rfl, fun _ => rfl⟩

theorem Action.isNeutral_of_isSilent {action : Action} (h : action.isSilent = true) :
    action.isNeutral = true := by
  cases action with
  | called call => cases call <;> first | rfl | cases h
  | enqueued | connecting => cases h
  | _ => rfl

theorem Grammatical.of_isSilent {entry : Entry S} (h : entry.action.isSilent = true)
    (earlier : List (Entry S)) : Grammatical earlier entry := by
  intro entries _
  rcases entry with ⟨session, action⟩
  cases action with
  | connected | enqueued | connecting => cases h
  | _ => trivial

theorem Grammatical.of_none {entry : Entry S} {earlier : List (Entry S)}
    (h : segment earlier = none) : Grammatical earlier entry := by
  intro entries hentries
  rw [h] at hentries
  cases hentries

theorem segment_cons_of_isNeutral {entry : Entry S} (h : entry.action.isNeutral = true)
    (earlier : List (Entry S)) :
    segment (entry :: earlier) = (segment earlier).map (entry :: ·) := by
  obtain ⟨hends, hannounces, -⟩ := Action.not_of_isNeutral h
  rw [segment, hends, hannounces]
  cases segment earlier <;> rfl

/-- Commands leave a record without a connection as it is. -/
theorem segment_eq_none_of_follows {commands earlier : List (Entry S)}
    (hcommands : ∀ entry ∈ commands, ∃ packet, entry.action = .sent packet)
    (h : segment earlier = none) : segment (commands ++ earlier) = none := by
  induction commands with
  | nil => exact h
  | cons entry commands ih =>
    obtain ⟨packet, hpacket⟩ := hcommands entry (by simp)
    have hneutral : entry.action.isNeutral = true := by rw [hpacket]; rfl
    rw [List.cons_append, segment_cons_of_isNeutral hneutral,
      ih fun e he => hcommands e (by simp [he])]
    rfl

theorem segment_of_dismissed {w : World S} (h : w.Follows (.called .disconnect)) :
    segment w.trace = none := by
  obtain ⟨commands, session, earlier, htrace, hcommands⟩ := h
  rw [htrace]
  exact segment_eq_none_of_follows hcommands rfl

/-! ### Phases -/

theorem exists_mem_cons_of {p : Entry S → Bool} {entry : Entry S} {entries : List (Entry S)}
    (h : p entry = false) :
    (∃ e ∈ entry :: entries, p e = true) ↔ ∃ e ∈ entries, p e = true := by
  simp [h]

namespace Phase

variable {session session' : BackendSession S} {entries : List (Entry S)}

/-- The window, the channels and the reconnect stay as they are; the session may end. -/
theorem congr (h : Phase session entries) (hwindow : session'.window = session.window)
    (hactive : session'.activeReconnect = session.activeReconnect)
    (hprotocols : ∀ channel, session'.protocols.channel channel = session.protocols.channel channel)
    (hterminal : session'.terminal = none → session.terminal = none) : Phase session' entries where
  window := by
    rw [hwindow, hactive]
    refine h.window.imp (fun h => h) fun ⟨hsome, hrest⟩ => ⟨?_, hrest⟩
    by_contra hnone
    rw [Option.not_isSome_iff_eq_none] at hnone
    rw [hterminal hnone] at hsome
    cases hsome
  begun channel hbegun hreconnect := by
    rw [hprotocols]
    rw [hactive] at hreconnect
    exact h.begun channel hbegun hreconnect
  announced hnone channel := by
    rw [hprotocols]
    exact h.announced (hterminal hnone) channel

/-- An entry about none of this is added. -/
theorem cons (h : Phase session entries) {entry : Entry S}
    (hneutral : entry.action.isNeutral = true) : Phase session (entry :: entries) := by
  obtain ⟨-, -, hannounces, hbegins⟩ := Action.not_of_isNeutral hneutral
  refine ⟨h.window, fun channel hbegun => h.begun channel ?_, fun hnone channel => ?_⟩
  · exact (exists_mem_cons_of (hbegins channel.psm)).mp hbegun
  · exact (exists_mem_cons_of (hannounces channel)).trans (h.announced hnone channel)

end Phase

/-! ### Steps -/

namespace Phased

variable {w w' : World S}

theorem of_none (hsegment : segment w.trace = none) (hrecord : Throughout Grammatical w.trace) :
    Phased w where
  phase entries hentries := by
    rw [hsegment] at hentries
    cases hentries
  record := hrecord

/-- Entries that are not about the connection are added. -/
theorem silent (h : Phased w) (later : List (Entry S)) (htrace : w'.trace = later ++ w.trace)
    (hlater : ∀ entry ∈ later, entry.action.isSilent = true)
    (hsession : ∀ entries, Phase w.session entries → Phase w'.session entries) : Phased w' := by
  constructor
  · rw [htrace]
    clear htrace
    induction later with
    | nil => exact fun entries hentries => hsession entries (h.phase entries hentries)
    | cons entry later ih =>
      have hneutral := Action.isNeutral_of_isSilent (hlater entry (by simp))
      intro entries hentries
      rw [List.cons_append, segment_cons_of_isNeutral hneutral, Option.map_eq_some_iff] at hentries
      obtain ⟨entries', hentries', rfl⟩ := hentries
      exact (ih (fun e he => hlater e (by simp [he])) entries' hentries').cons hneutral
  · rw [htrace]
    exact h.record.append fun entry hentry before => .of_isSilent (hlater entry hentry) before

/-- The connection ends: its end is announced, or lost together with the session. -/
theorem ended (h : Phased w) (htrace : w'.trace = w.trace) (hwindow : w'.session.window = .idle)
    (hactive : w'.session.activeReconnect = false) (reason : Option UInt8) :
    Phased (w'.enqueue (.disconnected reason)) := by
  have hover (session : BackendSession S) (hsome : session.terminal.isSome = true)
      (hwindow : session.window = .idle) (hactive : session.activeReconnect = false)
      (entries : List (Entry S)) : Phase session entries := by
    refine ⟨.inr ⟨hsome, hwindow, hactive⟩, fun _ _ hreconnect => ?_, fun hnone => ?_⟩
    · rw [hactive] at hreconnect
      cases hreconnect
    · rw [hnone] at hsome
      cases hsome
  rcases enqueue_cases (.disconnected reason) w' with ⟨hsome, heq⟩ | ⟨-, -, heq⟩ | ⟨-, -, heq⟩
  · rw [heq]
    exact h.silent [] htrace (by simp) fun entries _ => hover _ hsome hwindow hactive entries
  · rw [heq]
    refine h.silent [] htrace (by simp) fun entries _ => hover _ rfl ?_ ?_ entries
    · exact hwindow
    · exact hactive
  · rw [heq]
    refine of_none rfl ⟨fun _ _ => trivial, ?_⟩
    rw [htrace]
    exact h.record

/-- Nothing is connected while the window expects a peer. -/
theorem segment_of_expected (h : Phased w) {peer : BluetoothAddress}
    (hexpected : w.session.window.expected = some peer) : segment w.trace = none := by
  rcases hsegment : segment w.trace with _ | entries
  · rfl
  · rcases (h.phase entries hsegment).window with hwindow | ⟨-, hwindow, -⟩ <;>
      rw [hwindow] at hexpected <;> cases hexpected

/-- Nothing is connected while a window may be opened. -/
theorem segment_of_idle (h : Phased w) (hidle : w.session.window = .idle)
    (hactive : checkActive w.session = .ok ()) : segment w.trace = none := by
  rcases hsegment : segment w.trace with _ | entries
  · rfl
  · rcases (h.phase entries hsegment).window with hwindow | ⟨hsome, -, -⟩
    · rw [hidle] at hwindow
      cases hwindow
    · rw [(checkActive_eq_ok.mp hactive).2] at hsome
      cases hsome

theorem received (h : Phased w) (packet : Packet) (io : Option HciIo) :
    Phased (w.latched packet io) := by
  refine h.silent [⟨w.session, .received packet⟩] rfl (by simp [Action.isSilent])
    fun entries hphase => hphase.congr (latch_eq_self packet ?_) rfl (fun _ => rfl) fun hnone => hnone
  change w.session.window ≠ .pairing none
  rcases hphase.window with hwindow | ⟨-, hwindow, -⟩ <;> rw [hwindow] <;> simp

theorem admitted (h : Phased w) {peer : BluetoothAddress} {handle : UInt16}
    (hfollows : w.Follows (.connected peer handle)) (hwindow : w.session.window = .connected)
    (hprotocols : w.session.protocols = {}) : Phased (w.enqueue (.connected peer)) := by
  have hsegment : segment w.trace = none := by
    obtain ⟨commands, session, earlier, htrace, hcommands⟩ := hfollows
    have hconnected : segment earlier = none := by
      rcases hearlier : segment earlier with _ | entries
      · rfl
      · exact (h.record.at htrace entries hearlier).elim
    rw [htrace]
    refine segment_eq_none_of_follows hcommands ?_
    rw [segment_cons_of_isNeutral rfl, hconnected]
    rfl
  rcases enqueue_cases (.connected peer) w with ⟨-, heq⟩ | ⟨-, -, heq⟩ | ⟨-, -, heq⟩ <;> rw [heq]
  · exact h
  · exact of_none hsegment h.record
  · refine ⟨fun entries hentries => ?_, .of_none hsegment, h.record⟩
    have hsome : segment (⟨w.session, .enqueued (.connected peer)⟩ :: w.trace) = some [] := by
      simp [segment, Action.endsConnection, Action.announcesConnection, hsegment]
    cases hsome.symm.trans hentries
    refine ⟨.inl hwindow, by simp, fun _ channel => ?_⟩
    simp only [World.set, World.log, hprotocols]
    cases channel <;> simp [ProtocolState.channel]

theorem connecting (h : Phased w) {channel : Channel} {cid : UInt16} {host : ClassicHost S}
    (hactive : w.session.activeReconnect = true) (hnone : w.session.protocols.channel channel = none)
    (hcontrol : channel = .interrupt → w.session.host.ControlOpen) :
    Phased ((w.log (.connecting channel.psm)).set fun session =>
      { session with
        host := host, protocols := session.protocols.setChannel channel ⟨cid, false⟩ }) := by
  refine ⟨fun entries hentries => ?_, fun entries hentries => ⟨fun e he => ?_, fun hpsm => ?_⟩,
    h.record⟩
  · have hcons : segment (⟨w.session, .connecting channel.psm⟩ :: w.trace) = some entries := hentries
    rcases hsegment : segment w.trace with _ | entries'
    · simp [segment, Action.endsConnection, Action.announcesConnection, hsegment] at hcons
    simp only [segment, Action.endsConnection, hsegment, Bool.false_eq_true, if_false,
      Option.some.injEq] at hcons
    subst hcons
    have hphase := h.phase entries' hsegment
    refine ⟨hphase.window, fun channel' hbegun hreconnect => ?_, fun hterminal channel' => ?_⟩
    · change (w.session.protocols.setChannel channel ⟨cid, false⟩).channel channel' ≠ none
      rw [ProtocolState.channel_setChannel]
      split
      · simp
      · rename_i hne
        refine hphase.begun channel' ?_ hreconnect
        obtain ⟨e, he, hb⟩ := hbegun
        rcases List.mem_cons.mp he with rfl | he
        · simp only [Action.begins, decide_eq_true_eq] at hb
          exact absurd (Channel.psm_injective hb).symm hne
        · exact ⟨e, he, hb⟩
    · have hold := hphase.announced hterminal channel'
      change _ ↔ ∃ pc, (w.session.protocols.setChannel channel ⟨cid, false⟩).channel channel' =
        some pc ∧ _
      rw [ProtocolState.channel_setChannel]
      refine (exists_mem_cons_of rfl).trans (hold.trans ?_)
      split
      · rename_i heq
        subst heq
        simp [hnone]
      · rfl
  · by_contra hb
    rw [Bool.not_eq_false] at hb
    exact (h.phase entries hentries).begun channel ⟨e, he, hb⟩ hactive hnone
  · exact hcontrol (Channel.psm_injective hpsm)

/-- A channel is marked as open and announced, or the session is over. -/
theorem announced (h : Phased w) (channel : Channel) (cid : UInt16) {protocols : ProtocolState}
    (htrace : w'.trace = w.trace) (hsession : w'.session = { w.session with
      host := w'.session.host, protocols := protocols })
    (hchannel : ∀ channel', protocols.channel channel' =
      if channel' = channel then some ⟨cid, true⟩ else w.session.protocols.channel channel')
    (hfirst : firstOpen (w.session.protocols.channel channel) cid = true) :
    Phased (w'.enqueue (.channelOpened channel)) := by
  have hclosed : ¬ ∃ protocolChannel, w.session.protocols.channel channel = some protocolChannel ∧
      protocolChannel.open = true := by
    rintro ⟨protocolChannel, hsome, hopen⟩
    simp [hsome, firstOpen, hopen] at hfirst
  have hbegun {entries : List (Entry S)} (hphase : Phase w.session entries) (channel' : Channel)
      (hbegun : ∃ e ∈ entries, e.action.begins channel'.psm = true)
      (hactive : w.session.activeReconnect = true) : protocols.channel channel' ≠ none := by
    rw [hchannel]
    split
    · simp
    · exact hphase.begun channel' hbegun hactive
  have hover (session : BackendSession S) (hsome : session.terminal.isSome = true)
      (hwindow : session.window = w.session.window)
      (hactive : session.activeReconnect = w.session.activeReconnect)
      (hprotocols : session.protocols = protocols) (entries : List (Entry S))
      (hphase : Phase w.session entries) : Phase session entries := by
    refine ⟨?_, fun channel' hb hreconnect => ?_, fun hnone => ?_⟩
    · rw [hwindow, hactive]
      exact hphase.window.imp (fun h => h) fun hrest => ⟨hsome, hrest.2⟩
    · rw [hprotocols]
      exact hbegun hphase channel' hb (hactive ▸ hreconnect)
    · rw [hnone] at hsome
      cases hsome
  rcases enqueue_cases (.channelOpened channel) w' with ⟨hsome, heq⟩ | ⟨-, -, heq⟩ |
    ⟨hnone, -, heq⟩ <;> rw [heq]
  · exact h.silent [] htrace (by simp) (hover _ hsome (by rw [hsession]) (by rw [hsession])
      (by rw [hsession]))
  · refine h.silent [] htrace (by simp) (hover _ rfl ?_ ?_ ?_) <;> simp only [World.set] <;>
      rw [hsession]
  · have hterminal : w.session.terminal = none := by
      rw [hsession] at hnone
      exact hnone
    refine ⟨fun entries hentries => ?_, fun entries hentries e he => ?_, ?_⟩
    · have hcons : segment (⟨w'.session, .enqueued (.channelOpened channel)⟩ :: w.trace) =
          some entries := by
        rw [← htrace]
        exact hentries
      rcases hsegment : segment w.trace with _ | entries'
      · simp [segment, Action.endsConnection, Action.announcesConnection, hsegment] at hcons
      simp only [segment, Action.endsConnection, hsegment, Bool.false_eq_true, if_false,
        Option.some.injEq] at hcons
      subst hcons
      have hphase := h.phase entries' hsegment
      simp only [World.set, World.log]
      rw [hsession]
      refine ⟨hphase.window, fun channel' hb hactive => hbegun hphase channel' ?_ hactive,
        fun _ channel' => ?_⟩
      · exact (exists_mem_cons_of rfl).mp hb
      · change _ ↔ ∃ pc, protocols.channel channel' = some pc ∧ _
        rw [hchannel]
        split
        · rename_i heq
          subst heq
          simp [Action.announces]
        · rename_i hne
          refine (exists_mem_cons_of ?_).trans (hphase.announced hterminal channel')
          simp [Action.announces, Ne.symm hne]
    · rw [htrace] at hentries
      by_contra ha
      rw [Bool.not_eq_false] at ha
      exact hclosed (((h.phase entries hentries).announced hterminal channel).mp ⟨e, he, ha⟩)
    · rw [htrace]
      exact h.record

theorem reported (h : Phased w) {channel : Channel} {protocolChannel : ProtocolChannel}
    (payload : Bytes) (hchannel : w.session.protocols.channel channel = some protocolChannel)
    (hopen : protocolChannel.open = true) : Phased (w.enqueue (.hidOutput channel payload)) := by
  rcases enqueue_cases (.hidOutput channel payload) w with ⟨-, heq⟩ | ⟨-, -, heq⟩ |
    ⟨hnone, -, heq⟩ <;> rw [heq]
  · exact h
  · exact h.silent [] rfl (by simp) fun entries hphase =>
      hphase.congr rfl rfl (fun _ => rfl) fun hterminal => by cases hterminal
  · refine ⟨fun entries hentries => ?_, fun entries hentries => ?_, h.record⟩
    · have hcons : segment (⟨w.session, .enqueued (.hidOutput channel payload)⟩ :: w.trace) =
        some entries := hentries
      rw [segment_cons_of_isNeutral rfl, Option.map_eq_some_iff] at hcons
      obtain ⟨entries', hsegment, rfl⟩ := hcons
      exact ((h.phase entries' hsegment).cons rfl).congr rfl rfl (fun _ => rfl) fun hterminal =>
        hterminal
    · exact ((h.phase entries hentries).announced hnone channel).mpr
        ⟨protocolChannel, hchannel, hopen⟩

/-- **Every step** keeps the phase and the grammar. -/
theorem step [BondStore S] (h : Phased w) (hlinked : Linked w) (hstep : Step w w') : Phased w' := by
  cases hstep with
  | received packet => exact h.received packet _
  | commanded | flushed | delivered =>
    exact h.silent [_] rfl (by simp [Action.isSilent]) fun entries hphase =>
      hphase.congr rfl rfl (fun _ => rfl) fun hnone => hnone
  | hosted op =>
    obtain ⟨later, hlater, hupserted⟩ := trace_hosted w (op.run w.session.host).2
    refine h.silent later hlater (fun entry hentry => ?_) fun entries hphase =>
      hphase.congr rfl rfl (fun _ => rfl) fun hnone => hnone
    obtain ⟨peer, bond, rfl⟩ := hupserted entry hentry
    rfl
  | @linked peer handle output hout =>
    have hsegment := h.segment_of_expected (hlinked.connected peer handle (by simp [hout])).1
    refine of_none ?_ ⟨.of_none hsegment, h.record⟩
    exact (segment_cons_of_isNeutral rfl w.trace).trans (by rw [hsegment]; rfl)
  | admitted handle hfollows _ hwindow hprotocols => exact h.admitted hfollows hwindow hprotocols
  | unlinked => refine ended (w := w) h ?_ ?_ ?_ _ <;> rfl
  | connecting _ hactive hnone hcontrol => exact h.connecting hactive hnone hcontrol
  | @announced channel cid mtu w₁ hannounces _ hfirst =>
    have hchannel (channel' : Channel) :
        ({ w.session.protocols.setChannel channel ⟨cid, true⟩ with
            hidp := w.session.protocols.hidp.setPeerMtu channel mtu.toNat } : ProtocolState).channel
          channel' =
        if channel' = channel then some ⟨cid, true⟩ else w.session.protocols.channel channel' := by
      rw [← ProtocolState.channel_setChannel]
      cases channel' <;> rfl
    rcases hannounces with ⟨output, -, rfl⟩ | ⟨-, rfl⟩ <;>
      exact h.announced channel cid rfl rfl hchannel hfirst
  | reported payload hchannel hopen => exact h.reported payload hchannel hopen
  | failed => refine ended (w := w) h ?_ ?_ ?_ _ <;> rfl
  | hidden _ hfollows => exact of_none (segment_of_dismissed hfollows) h.record
  | dismissed hfollows => exact of_none (segment_of_dismissed hfollows) h.record
  | opened _ _ _ hidle hactive =>
    have hsegment := h.segment_of_idle hidle hactive
    refine of_none ?_ ⟨.of_none hsegment, h.record⟩
    exact (segment_cons_of_isNeutral rfl w.trace).trans (by rw [hsegment]; rfl)
  | tended htend =>
    exact h.silent [] rfl (by simp) fun entries hphase =>
      hphase.congr rfl rfl htend.channel fun hnone => hnone
  | terminated =>
    exact h.silent [] rfl (by simp) fun entries hphase =>
      hphase.congr rfl rfl (fun _ => rfl) fun hnone => by cases hnone
  | _ =>
    exact h.silent [] rfl (by simp) fun entries hphase =>
      hphase.congr rfl rfl (fun _ => rfl) fun hnone => hnone

end Phased

/-! ### Runs -/

variable [BondStore S]

theorem Reachable.grammatical {w : World S} (h : Reachable w) : Throughout Grammatical w.trace := by
  have hrecord : Throughout Grammatical w.trace ∧ (w.session.closed = true ∨ Phased w) := by
    refine (Reachable.induction_linked
      (P := fun w => Throughout Grammatical w.trace ∧ (w.session.closed = true ∨ Phased w))
      (fun w hw => ?_) (fun w w' hopen hlinked hstep ⟨_, hw⟩ => ?_)
      (fun w action hnote ⟨hrecord, hw⟩ => ?_) (fun w _ ⟨hrecord, _⟩ => ?_) h).2
    · obtain ⟨io, capabilities, config, bonds, length, count, htrace, -⟩ := hw
      rw [htrace]
      exact ⟨trivial, .inr (.of_none (by rw [htrace]; rfl) (by rw [htrace]; trivial))⟩
    · have hphased := (hw.resolve_left (by simp [hopen])).step hlinked hstep
      exact ⟨hphased.record, .inr hphased⟩
    · have hnoted : Throughout Grammatical (w.log action).trace := by
        refine ⟨fun entries _ => ?_, hrecord⟩
        cases action with
        | called | returned => trivial
        | _ => exact hnote.elim
      refine ⟨hnoted, hw.imp (fun hclosed => hclosed) fun hphased => ?_⟩
      by_cases hdisconnect : action = .called .disconnect
      · subst hdisconnect
        exact .of_none rfl hnoted
      · have hsilent : action.isSilent = true := by
          cases action with
          | called call =>
            cases call with
            | disconnect => exact absurd rfl hdisconnect
            | _ => rfl
          | returned => rfl
          | _ => exact hnote.elim
        exact hphased.silent [⟨w.session, action⟩] rfl (by simpa using hsilent)
          fun entries hphase => hphase.congr rfl rfl (fun _ => rfl) fun hnone => hnone
    · exact ⟨⟨.of_isSilent rfl _, hrecord⟩, .inl rfl⟩
  exact hrecord.1

omit [BondStore S] in
/-- The entries since a connection that has not ended are its segment. -/
theorem segment_eq_during {during earlier : List (Entry S)} {start : Entry S}
    {peer : BluetoothAddress} (hstart : start.action = .enqueued (.connected peer))
    (hduring : ∀ entry ∈ during, entry.action.endsConnection = false)
    (h : Throughout Grammatical (during ++ start :: earlier)) :
    segment (during ++ start :: earlier) = some during := by
  induction during with
  | nil =>
    have hnone : segment earlier = none := by
      rcases hearlier : segment earlier with _ | entries
      · rfl
      · have hgrammatical := h.1 entries hearlier
        simp [hstart] at hgrammatical
    simp [segment, hstart, Action.endsConnection, Action.announcesConnection, hnone]
  | cons entry during ih =>
    rw [List.cons_append, segment, hduring entry (by simp),
      ih (fun e he => hduring e (by simp [he])) h.2]
    rfl

omit [BondStore S] in
/-- What is never repeated happens at most once. -/
theorem countP_le_one {p : Entry S → Bool} {l : List (Entry S)}
    (h : ∀ after entry before, l = after ++ entry :: before → p entry = true →
      ∀ e ∈ before, p e = false) : l.countP p ≤ 1 := by
  induction l with
  | nil => exact Nat.zero_le 1
  | cons entry l ih =>
    rw [List.countP_cons]
    split
    · rename_i hentry
      have hnone : l.countP p = 0 :=
        List.countP_eq_zero.mpr fun e he => by simp [h [] entry l rfl hentry e he]
      omega
    · exact ih fun after e before hl => h (entry :: after) e before (by rw [hl, List.cons_append])

/-- **The grammar of a connection.** Between the announcement of a connection and the next end of
it, each channel is announced at most once, reports come on channels that were announced before,
and each channel is begun at most once, the interrupt channel while a control channel is open. -/
theorem connection_grammar {w : World S} (h : Reachable w) {later during earlier : List (Entry S)}
    {start : Entry S} {peer : BluetoothAddress}
    (htrace : w.trace = later ++ (during ++ start :: earlier))
    (hstart : start.action = .enqueued (.connected peer))
    (hduring : ∀ entry ∈ during, entry.action.endsConnection = false) :
    (∀ channel, during.countP (·.action.announces channel) ≤ 1) ∧
      (∀ after entry before channel payload, during = after ++ entry :: before →
        entry.action = .enqueued (.hidOutput channel payload) →
        ∃ e ∈ before, e.action = .enqueued (.channelOpened channel)) ∧
      (during.countP (·.action.begins hidControlPsm) ≤ 1 ∧
        during.countP (·.action.begins hidInterruptPsm) ≤ 1) ∧
      ∀ entry ∈ during, entry.action = .connecting hidInterruptPsm →
        entry.session.host.ControlOpen := by
  have hrecord := h.grammatical
  rw [htrace] at hrecord
  replace hrecord := hrecord.of_append
  -- Each entry obeys the grammar, with the entries of the connection before it as its segment.
  have hobeys {after before : List (Entry S)} {entry : Entry S}
      (hsplit : during = after ++ entry :: before) :
      segment (before ++ start :: earlier) = some before ∧
        Grammatical (before ++ start :: earlier) entry := by
    rw [hsplit, List.append_assoc] at hrecord
    have hentry := hrecord.of_append
    refine ⟨segment_eq_during hstart (fun e he => hduring e ?_) hentry.2, hentry.1⟩
    rw [hsplit]
    simp [he]
  have hannounced {channel : Channel} {entry : Entry S} (ha : entry.action.announces channel = true) :
      entry.action = .enqueued (.channelOpened channel) := by
    unfold Action.announces at ha
    split at ha
    · rename_i channel' haction
      rw [haction, of_decide_eq_true ha]
    · cases ha
  have hbegun {psm : UInt32} {entry : Entry S} (hb : entry.action.begins psm = true) :
      entry.action = .connecting psm := by
    unfold Action.begins at hb
    split at hb
    · rename_i psm' haction
      rw [haction, of_decide_eq_true hb]
    · cases hb
  have hbegins (psm : UInt32) : during.countP (·.action.begins psm) ≤ 1 := by
    refine countP_le_one fun after entry before hsplit hb => ?_
    obtain ⟨hsegment, hgrammatical⟩ := hobeys hsplit
    have hentry := hgrammatical before hsegment
    simp only [hbegun hb] at hentry
    exact hentry.1
  refine ⟨fun channel => countP_le_one fun after entry before hsplit ha => ?_,
    fun after entry before channel payload hsplit hreport => ?_,
    ⟨hbegins hidControlPsm, hbegins hidInterruptPsm⟩, fun entry hmem hconnecting => ?_⟩
  · obtain ⟨hsegment, hgrammatical⟩ := hobeys hsplit
    have hentry := hgrammatical before hsegment
    simp only [hannounced ha] at hentry
    exact hentry
  · obtain ⟨hsegment, hgrammatical⟩ := hobeys hsplit
    have hentry := hgrammatical before hsegment
    simp only [hreport] at hentry
    obtain ⟨e, he, ha⟩ := hentry
    exact ⟨e, he, hannounced ha⟩
  · obtain ⟨after, before, hsplit⟩ := List.append_of_mem hmem
    obtain ⟨hsegment, hgrammatical⟩ := hobeys hsplit
    have hentry := hgrammatical before hsegment
    simp only [hconnecting] at hentry
    exact hentry.2 trivial

/-- The peer has opened the control channel. -/
def sampleControl : World MemoryBondStore :=
  ((sampleConfiguring hidControlPsm).inbound
    (.acl (signalPacket (.configureResponse 1 0x40 0 0 [])))).2

theorem connection_grammar_sampleControl :
    sampleControl.session.pendingEvents = [.connected samplePeer, .channelOpened .control] ∧
      ∃ during start earlier, sampleControl.trace = during ++ start :: earlier ∧
        start.action = .enqueued (.connected samplePeer) ∧
        during.countP (·.action.announces .control) ≤ 1 := by
  have hreachable : Reachable sampleControl := .received _ (sampleConfiguring_reachable hidControlPsm)
  have hconnected : sampleControl.trace.any (fun entry =>
      match entry.action with
      | .enqueued (.connected peer) => peer = samplePeer
      | _ => false) = true := by decide +kernel
  have hends : sampleControl.trace.all (fun entry => !entry.action.endsConnection) = true := by
    decide +kernel
  obtain ⟨start, hmem, hstart⟩ := List.any_eq_true.mp hconnected
  obtain ⟨during, earlier, htrace⟩ := List.append_of_mem hmem
  have hduring : ∀ entry ∈ during, entry.action.endsConnection = false := by
    intro entry hentry
    simpa using List.all_eq_true.mp hends entry (by rw [htrace]; simp [hentry])
  split at hstart
  · rename_i peer haction
    rw [of_decide_eq_true hstart] at haction
    have hsplit : sampleControl.trace = [] ++ (during ++ start :: earlier) := htrace
    exact ⟨by decide +kernel, during, start, earlier, htrace, haction,
      (connection_grammar hreachable hsplit haction hduring).1 .control⟩
  · cases hstart

end ClassicHid
