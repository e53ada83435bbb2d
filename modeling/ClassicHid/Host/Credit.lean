import ClassicHid.Host.Effect

/-!
# ACL credits over whole runs

The credits of the controller are accounted for over every sequence of host operations: what is
in flight for a handle is what was moved to the output less what was completed, the controller is
never given more packets than it has room for, and no packet waits while there is room.

## Main definitions

* `Ledger`: the packets moved and completed for each handle since its link last ended
* `runLedger`: a sequence of operations, with its ledger
* `Orderly`: every operation returns, and a link is established only when there is none

## Main results

* `HostOp.Effect.count_eq`: what one operation does to the credits
* `acl_credit_accounting`: the credits over every sequence of operations
-/

namespace ClassicHid

open Foundation
open Std (ExtTreeMap)

/-- The packets moved to the output and the completions accepted, for each handle. -/
structure Ledger where
  moved : UInt16 → ℕ := fun _ => 0
  completed : UInt16 → ℕ := fun _ => 0

variable {S : Type}

/-- The packets of a handle an operation appended to the output. -/
def movedPackets (host host' : ClassicHost S) (handle : UInt16) : ℕ :=
  countHandle handle (aclPackets host'.output) - countHandle handle (aclPackets host.output)

/-- The ledger after an operation. The end of a link starts its handle again at zero. -/
def Ledger.record (op : HostOp) (r : Except HostError Unit) (host host' : ClassicHost S)
    (ledger : Ledger) : Ledger where
  moved h := if op.clears r h then 0 else ledger.moved h + movedPackets host host' h
  completed h := if op.clears r h then 0 else ledger.completed h + op.completion r h

section

variable [BondStore S]

/-- The state and the ledger after a sequence of operations. -/
def runLedger (host : ClassicHost S) (ledger : Ledger) : List HostOp → ClassicHost S × Ledger
  | [] => (host, ledger)
  | op :: ops =>
    runLedger (op.run host).2 (ledger.record op (op.run host).1 host (op.run host).2) ops

/-- Every operation returns, and a link is established only while there is none. -/
def Orderly (host : ClassicHost S) : List HostOp → Prop
  | [] => True
  | op :: ops => (op.run host).1 = .ok () ∧
      (∀ handle peer, op = .event (.connectionComplete 0 handle peer) → host.connection = none) ∧
      Orderly (op.run host).2 ops

end

/-! ### One operation -/

theorem countHandle_filter_ne {handle h : UInt16} (hne : handle ≠ h) (packets : List AclPacket) :
    countHandle h (packets.filter (·.connectionHandle ≠ handle)) = countHandle h packets := by
  simp only [countHandle, List.filter_filter]
  congr 1
  apply List.filter_congr
  intro p hp
  by_cases hh : p.connectionHandle = h
  · simp [hh, Ne.symm hne]
  · simp [hh]

namespace HostOp

variable {op : HostOp} {host host' : ClassicHost S} {r : Except HostError Unit}

/-- **One operation** keeps the credits sound and changes what is in flight for a handle by what
it moved and what it completed. -/
theorem Effect.count_eq (h : Effect op host r host') (hs : host.aclFlow.Sound) :
    host'.aclFlow.Sound ∧ host'.aclFlow.totalPackets = host.aclFlow.totalPackets ∧
      ∀ k, if op.clears r k then host'.aclFlow.count k = 0
        else host'.aclFlow.count k + op.completion r k =
          host.aclFlow.count k + movedPackets host host' k := by
  cases h with
  | quiet hplain hflow hlink hout =>
    refine ⟨hflow ▸ hs, by rw [hflow], fun k => ?_⟩
    simp [(hplain k).1, (hplain k).2, hflow, movedPackets, hout]
  | stuck packets hplain hp hflow hlink hout =>
    refine ⟨hflow ▸ hs.enqueue packets, by rw [hflow]; rfl, fun k => ?_⟩
    simp only [(hplain k).1, (hplain k).2, hflow, movedPackets, hout]
    simp [AclFlow.count, AclFlow.enqueue]
  | flushed packets hcalls hplain hp hflow hlink hout =>
    obtain ⟨hs', hcount, -⟩ :=
      AclFlow.release_spec (hs.enqueue packets) (host.aclFlow.enqueue packets).queued
    refine ⟨hflow ▸ hs', by rw [hflow, AclFlow.totalPackets_flush]; rfl, fun k => ?_⟩
    have hk := hcount k
    simp only [(hplain k).1, (hplain k).2, hflow, movedPackets, hout, countHandle_append]
    simp only [AclFlow.flush] at hk ⊢
    simp only [Bool.false_eq_true, if_false, hk]
    have : (host.aclFlow.enqueue packets).count k = host.aclFlow.count k := rfl
    omega
  | completed hop hf hflow hlink hout =>
    subst hop
    obtain ⟨hs₁, hcount₁⟩ := AclFlow.complete_spec hs hf
    obtain ⟨-, htotal₁, -⟩ := AclFlow.complete_queue hf
    obtain ⟨hs', hcount, -⟩ := AclFlow.release_spec hs₁ _
    refine ⟨hflow ▸ hs', by rw [hflow, AclFlow.totalPackets_flush, htotal₁], fun k => ?_⟩
    have h₁ := hcount₁ k
    have h₂ := hcount k
    simp only [completion, clears, hflow, movedPackets, hout, countHandle_append]
    simp only [AclFlow.flush] at h₂ ⊢
    simp only [Bool.false_eq_true, if_false, h₂]
    omega
  | connected hop hflow hlink hout =>
    subst hop
    refine ⟨hflow ▸ hs, by rw [hflow], fun k => ?_⟩
    simp [completion, clears, hflow, movedPackets, hout]
  | disconnected hop hl hflow hlink hout =>
    rename_i handle reason
    subst hop
    obtain ⟨hs', hcount⟩ := AclFlow.clearHandle_spec hs handle
    refine ⟨hflow ▸ hs', by rw [hflow]; rfl, fun k => ?_⟩
    have hk := hcount k
    by_cases hh : handle = k
    · simp [clears, hh, hflow] at hk ⊢
      exact hk
    · rw [if_neg hh] at hk
      rw [movedPackets, hout, countHandle_filter_ne hh, Nat.sub_self]
      simp [clears, completion, hh, hflow, hk]
  | popped item hop hout hflow hlink =>
    subst hop
    refine ⟨hflow ▸ hs, by rw [hflow], fun k => ?_⟩
    have hle : countHandle k (aclPackets host'.output) ≤
        countHandle k (aclPackets host.output) := by
      have : aclPackets host.output = aclPackets [item] ++ aclPackets host'.output := by
        rw [hout, ← aclPackets_append]
        rfl
      rw [this, countHandle_append]
      omega
    simp only [completion, clears, hflow, movedPackets]
    simp [Nat.sub_eq_zero_of_le hle]

/-- No packet of a link that is gone waits, and none waits while there is room. -/
structure Flowing (host : ClassicHost S) : Prop where
  linked : ∀ p ∈ host.aclFlow.queued, host.link = some p.connectionHandle
  full : host.aclFlow.queued = [] ∨ host.aclFlow.held = host.aclFlow.totalPackets.toNat

/-- Handing over leaves packets of the same link, and only when the controller is full. -/
theorem flowing_of_flush {flow : AclFlow} (hs : flow.Sound) (hflow : host'.aclFlow = flow.flush.1)
    (hlinked : ∀ p ∈ flow.queued, host'.link = some p.connectionHandle) : Flowing host' := by
  obtain ⟨-, -, hfull⟩ := AclFlow.release_spec hs flow.queued
  constructor
  · intro p hp
    refine hlinked p ?_
    rw [hflow] at hp
    rw [← flow.flush_queue]
    exact List.mem_append_right _ hp
  · rw [hflow, AclFlow.totalPackets_flush]
    exact hfull

/-- An operation that returned keeps the queue flowing, when it establishes a link only while
there is none. -/
theorem Effect.flowing (h : Effect op host (.ok ()) host') (hs : host.aclFlow.Sound)
    (hf : Flowing host)
    (hfree : ∀ handle peer, op = .event (.connectionComplete 0 handle peer) →
      host.connection = none) : Flowing host' := by
  cases h with
  | quiet hplain hflow hlink hout =>
    exact ⟨by rw [hflow, hlink]; exact hf.linked, by rw [hflow]; exact hf.full⟩
  | flushed packets hcalls hplain hp hflow hlink hout =>
    refine flowing_of_flush (hs.enqueue packets) hflow fun p hmem => ?_
    rw [hlink]
    rcases List.mem_append.mp hmem with hmem | hmem
    · exact hf.linked p hmem
    · exact hp p hmem
  | completed hop hc hflow hlink hout =>
    refine flowing_of_flush (AclFlow.complete_spec hs hc).1 hflow fun p hmem => ?_
    rw [hlink]
    exact hf.linked p ((AclFlow.complete_queue hc).1 ▸ hmem)
  | connected hop hflow hlink hout =>
    -- Without a link nothing waits.
    have hnone := hfree _ _ hop
    have hnil : host.aclFlow.queued = [] := by
      rw [List.eq_nil_iff_forall_not_mem]
      intro p hmem
      have := hf.linked p hmem
      simp [ClassicHost.link, hnone] at this
    exact ⟨by simp [hflow, hnil], .inl (by rw [hflow, hnil])⟩
  | disconnected hop hl hflow hlink hout =>
    -- Everything that waits belongs to the link that ends.
    have hnil : host'.aclFlow.queued = [] := by
      rw [hflow, AclFlow.clearHandle, List.filter_eq_nil_iff]
      intro p hmem
      have hp := hf.linked p hmem
      rw [hl] at hp
      cases hp
      simp
    exact ⟨by simp [hnil], .inl hnil⟩
  | popped item hop hout hflow hlink =>
    exact ⟨by rw [hflow, hlink]; exact hf.linked, by rw [hflow]; exact hf.full⟩

end HostOp

/-! ### Every sequence of operations -/

section

variable [BondStore S]

/-- The credits over a sequence of operations, from any sound state whose ledger adds up. -/
theorem runLedger_spec (ops : List HostOp) (host : ClassicHost S) (ledger : Ledger)
    (hs : host.aclFlow.Sound)
    (hl : ∀ k, host.aclFlow.count k + ledger.completed k = ledger.moved k) :
    (runLedger host ledger ops).1.aclFlow.Sound ∧
      (runLedger host ledger ops).1.aclFlow.totalPackets = host.aclFlow.totalPackets ∧
      (∀ k, (runLedger host ledger ops).1.aclFlow.count k +
        (runLedger host ledger ops).2.completed k = (runLedger host ledger ops).2.moved k) ∧
      (HostOp.Flowing host → Orderly host ops → HostOp.Flowing (runLedger host ledger ops).1) := by
  induction ops generalizing host ledger with
  | nil => exact ⟨hs, rfl, hl, fun hf _ => hf⟩
  | cons op ops ih =>
    obtain ⟨hs', htotal, hcount⟩ := (op.effect host).count_eq hs
    obtain ⟨h₁, h₂, h₃, h₄⟩ := ih (op.run host).2
      (ledger.record op (op.run host).1 host (op.run host).2) hs' (by
        intro k
        have hk := hcount k
        have hold := hl k
        simp only [Ledger.record]
        split
        · rename_i hclear
          rw [if_pos hclear] at hk
          omega
        · rename_i hclear
          rw [if_neg hclear] at hk
          omega)
    refine ⟨h₁, h₂.trans htotal, h₃, fun hf horderly => ?_⟩
    obtain ⟨hok, hfree, hrest⟩ := horderly
    have heffect := op.effect host
    rw [hok] at heffect
    exact h₄ (heffect.flowing hs hf hfree) hrest

/-- **Credit accounting**: over every sequence of operations from a new host, no more packets are
in flight than the controller has room for, the 16-bit sum is exact, no entry is zero, and what is
in flight for a handle is what was moved less what was completed since its link last ended. When
every operation returned and a link was established only while there was none, packets wait only
while the controller is full. -/
theorem acl_credit_accounting (bonds : S) (payloadSize : ℕ) (totalPackets : UInt16)
    (ops : List HostOp) :
    let start := ClassicHost.new bonds payloadSize totalPackets
    let run := runLedger start {} ops
    run.1.aclFlow.inFlightTotal ≤ totalPackets ∧
      run.1.aclFlow.inFlightTotal.toNat = mapSum UInt16.toNat run.1.aclFlow.inFlight ∧
      (∀ handle n : UInt16, run.1.aclFlow.inFlight[handle]? = some n → 1 ≤ n) ∧
      (∀ handle : UInt16, ((run.1.aclFlow.inFlight[handle]?).getD 0).toNat +
        run.2.completed handle = run.2.moved handle) ∧
      (Orderly start ops →
        run.1.aclFlow.queued = [] ∨ run.1.aclFlow.inFlightTotal = totalPackets) := by
  intro start run
  obtain ⟨hs, htot, hcount, hflow⟩ := runLedger_spec ops start {}
    (AclFlow.sound_new payloadSize totalPackets)
    (fun k => by simp [start, ClassicHost.new, AclFlow.new, AclFlow.count])
  have hsum := hs.toNat_inFlightTotal
  have htot' : run.1.aclFlow.totalPackets = totalPackets := htot
  refine ⟨?_, hsum, ?_, hcount, ?_⟩
  · rw [UInt16.le_iff_toNat_le, hsum, ← htot']
    exact hs.held_le
  · intro handle n hn
    rw [UInt16.le_iff_toNat_le]
    exact hs.positive handle n hn
  · intro horderly
    have hstart : HostOp.Flowing start := ⟨by simp [start, ClassicHost.new, AclFlow.new], .inl rfl⟩
    rcases (hflow hstart horderly).full with h | h
    · exact .inl h
    · refine .inr (UInt16.toNat_inj.mp ?_)
      rw [hsum, h, htot']

end

end ClassicHid
