import ClassicHid.Session.Run

/-!
# Where bonds come from

The session asks its store to keep a bond when, and only when, the controller has just reported a
new link key. It does not ask whose key it is: the report may name a peer that has no link and that
no window expects, even one that was turned away.

## Main results

* `bond_follows_notification`: a bond is the answer to a link key, and holds that key
* `bond_for_rejected_peer`: the peer need not be one that was admitted
-/

namespace ClassicHid

open Foundation BackendSession World

variable {S : Type} [BondStore S]

omit [BondStore S] in
theorem ClassicHost.CallStep.bonds {α : Type} {m : ChannelManager.Update α}
    {host host' : ClassicHost S} {r : Except HostError α} (h : ClassicHost.CallStep m host r host') :
    host'.bonds = host.bonds := by
  cases h <;> rfl

/-- The host asks its store to keep the bond of a new link key, and no other. -/
theorem newUpserts_run {op : HostOp} {w : World S} (h : w.Permits op) :
    newUpserts w.session.host (op.run w.session.host).2 = [] ∨
      ∃ peer linkKey linkKeyType hlen,
        op = .event (.linkKeyNotification peer linkKey linkKeyType hlen) ∧
        newUpserts w.session.host (op.run w.session.host).2 =
          [(peer, ClassicHost.bondOf linkKey linkKeyType hlen)] := by
  have hsame {host' : ClassicHost S} (hbonds : host'.bonds = w.session.host.bonds) :
      newUpserts w.session.host host' = [] := by
    simp [newUpserts, hbonds]
  cases op with
  | event e =>
    rw [HostOp.run]
    have hstep := ClassicHost.handleEvent_step e w.session.host
    generalize ClassicHost.handleEvent e w.session.host = outcome at hstep ⊢
    obtain ⟨r, host'⟩ := outcome
    cases hstep with
    | @notified peer linkKey linkKeyType hlen =>
      refine .inr ⟨peer, linkKey, linkKeyType, hlen, rfl, ?_⟩
      simp [newUpserts]
    | _ => exact .inl (hsame rfl)
  | acl packet =>
    have hstep := ClassicHost.processAcl_step packet w.session.host
    rw [HostOp.run]
    generalize ClassicHost.processAcl packet w.session.host = outcome at hstep ⊢
    obtain ⟨r, host'⟩ := outcome
    cases hstep with
    | processed _ _ _ hcall => exact .inl (hsame hcall.bonds)
    | _ => exact .inl (hsame rfl)
  | send cid sdu =>
    exact .inl (hsame (ClassicHost.callChannels_step (ChannelManager.send cid sdu)
      w.session.host).bonds)
  | connect psm spec => exact .inl (hsame (ClassicHost.bonds_connectChannel psm spec w.session.host))
  | take cid => exact .inl (hsame (ClassicHost.frame_takeChannelSdu cid w.session.host).2)
  | register | pop => exact h.elim

/-- A bond is stored right after the link key it holds was reported. -/
def FollowsNotification (earlier : List (Entry S)) (entry : Entry S) : Prop :=
  ∀ peer bond, entry.action = .upserted peer bond →
    ∃ event session before linkKey linkKeyType hlen,
      earlier = ⟨session, .received (.event event)⟩ :: before ∧
      decodeClassicEvent event = .ok [.linkKeyNotification peer linkKey linkKeyType hlen] ∧
      bond = ClassicHost.bondOf linkKey linkKeyType hlen

omit [BondStore S] in
theorem FollowsNotification.of_ne {earlier : List (Entry S)} {entry : Entry S}
    (h : ∀ peer bond, entry.action ≠ .upserted peer bond) : FollowsNotification earlier entry :=
  fun peer bond heq => absurd heq (h peer bond)

theorem FollowsNotification.step {w w' : World S} (h : Throughout FollowsNotification w.trace)
    (hstep : Step w w') : Throughout FollowsNotification w'.trace := by
  cases hstep with
  | received | connecting | delivered | commanded | flushed | linked | opened =>
    exact ⟨.of_ne (by simp), h⟩
  | hosted op hpermits =>
    rcases newUpserts_run hpermits with hnone | ⟨peer, linkKey, linkKeyType, hlen, rfl, hone⟩
    · simpa [BackendSession.hosted, hnone] using h
    · obtain ⟨packet, session, earlier, htrace, hdecode⟩ := hpermits
      simp only [BackendSession.hosted, hone, List.map_cons, List.map_nil, List.reverse_singleton,
        List.singleton_append]
      refine ⟨fun peer' bond heq => ?_, h⟩
      cases heq
      exact ⟨packet, session, earlier, linkKey, linkKeyType, hlen, htrace, hdecode, rfl⟩
  | admitted | unlinked | reported | failed =>
    refine throughout_enqueue ?_ (.of_ne (by simp))
    exact h
  | announced hannounces =>
    refine throughout_enqueue ?_ (.of_ne (by simp))
    rcases hannounces with ⟨output, -, rfl⟩ | ⟨-, rfl⟩ <;> exact h
  | _ => exact h

/-- **Bonds come from link keys.** In every run, each bond the store was asked to keep follows at
once on a report of the controller: it is for the peer the report names and holds its key. -/
theorem bond_follows_notification {w : World S} (h : Reachable w) :
    ∀ later entry earlier, w.trace = later ++ entry :: earlier →
      FollowsNotification earlier entry := by
  have hrecord : Throughout FollowsNotification w.trace := by
    refine Reachable.induction (P := fun w => Throughout FollowsNotification w.trace)
      (fun w hw => ?_) (fun w w' hturn hw => ?_) h
    · obtain ⟨_, _, _, _, _, _, htrace, -⟩ := hw
      rw [htrace]
      trivial
    · cases hturn with
      | step _ hstep => exact FollowsNotification.step hw hstep
      | noted hnote =>
        refine ⟨.of_ne fun peer bond heq => ?_, hw⟩
        cases heq
        exact hnote
      | closed => exact ⟨.of_ne (by simp), hw⟩
  exact fun later entry earlier htrace => hrecord.at htrace

/-! ### A peer that was turned away -/

/-- The report of a link key that is all zero. -/
def linkKeyPacket (peer : BluetoothAddress) : Packet :=
  .event (eventPacket eventLinkKeyNotification (peer.asLeBytes ++ List.replicate 17 0))

/-- While one peer pairs, another one asks in vain, and then its link key is reported. -/
def sampleStrangerBond : World MemoryBondStore :=
  ((((sampleWorld.perform .startPairing).2.inbound (requestPacket samplePeer)).2.inbound
    (requestPacket sampleStranger)).2.inbound (linkKeyPacket sampleStranger)).2

theorem sampleStrangerBond_reachable : Reachable sampleStrangerBond :=
  .received _ (.received _ (.received _ (.performed _ sampleWorld_reachable)))

/-- Whether an entry stores a bond of a peer that is neither linked nor expected. -/
def storesStrange (entry : Entry MemoryBondStore) : Bool :=
  match entry.action with
  | .upserted peer _ =>
    entry.session.host.connection.all (·.peer ≠ peer) && entry.session.window.expected ≠ some peer
  | _ => false

theorem bond_follows_notification_stranger :
    ∃ later entry earlier, sampleStrangerBond.trace = later ++ entry :: earlier ∧
      storesStrange entry = true ∧ FollowsNotification earlier entry := by
  have hany : sampleStrangerBond.trace.any storesStrange = true := by decide +kernel
  obtain ⟨entry, hmem, hstores⟩ := List.any_eq_true.mp hany
  obtain ⟨later, earlier, htrace⟩ := List.append_of_mem hmem
  exact ⟨later, entry, earlier, htrace, hstores,
    bond_follows_notification sampleStrangerBond_reachable later entry earlier htrace⟩

/-- A bond may be stored for a peer that has no link and that no window expects. -/
theorem bond_for_rejected_peer :
    ¬ ∀ w : World MemoryBondStore, Reachable w → ∀ later entry earlier peer bond,
      w.trace = later ++ entry :: earlier → entry.action = .upserted peer bond →
      (∃ connection, entry.session.host.connection = some connection ∧ connection.peer = peer) ∨
        entry.session.window.expected = some peer := by
  intro hclaim
  have hany : sampleStrangerBond.trace.any storesStrange = true := by decide +kernel
  obtain ⟨entry, hmem, hstores⟩ := List.any_eq_true.mp hany
  obtain ⟨later, earlier, htrace⟩ := List.append_of_mem hmem
  unfold storesStrange at hstores
  split at hstores
  · rename_i peer bond haction
    rw [Bool.and_eq_true, decide_eq_true_eq] at hstores
    rcases hclaim _ sampleStrangerBond_reachable later entry earlier peer bond htrace haction with
      ⟨connection, hconnection, hpeer⟩ | hexpected
    · rw [hconnection] at hstores
      simp [hpeer] at hstores
    · exact hstores.2 hexpected
  · cases hstores

end ClassicHid
