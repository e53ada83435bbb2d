import Mathlib.Data.List.Range

/-!
# Sliding windows

A sender numbers its frames and keeps those that were not acknowledged; a receiver takes them in
order. Between them are two queues that may lose entries but do not reorder them: the numbers of
the frames on their way, also of frames that were sent again, and the acknowledgements on their way
back. Numbers are compared modulo something larger than the window.

## Main definitions

* `SlidingWindow`: what holds of the sender, the receiver and both queues
* `InOrder`: every frame that was sent and not received is on its way, once
* `Gap`: the same, but for one frame that was lost, with the number of times it was asked for

## Main results

* `SlidingWindow.eq_of_mod_eq`: equal numbers modulo the modulus are equal
* `SlidingWindow.send`, `SlidingWindow.receive`, `SlidingWindow.acknowledge`: the steps
* `InOrder.lose`, `Gap.receive`, `Gap.repair`: a loss, what follows it, and its repair
-/

namespace Foundation

/-- The sender has sent the frames up to `sent` and knows that those up to `base` have arrived; the
receiver expects the frame `expected`. The window has the size `w`; `data` and `acks` are the
queues. A frame on its way may be an old one, but none that follows an older one by a window. -/
structure SlidingWindow (w base expected sent : ℕ) (data acks : List ℕ) : Prop where
  base_le : base ≤ expected
  expected_le : expected ≤ sent
  size : sent ≤ base + w
  fresh : ∀ n ∈ data, n < sent ∧ expected ≤ n + w
  order : data.Pairwise fun m n => m < n + w
  rising : acks.Pairwise (· ≤ ·)
  acked : ∀ a ∈ acks, base ≤ a ∧ a ≤ expected

namespace SlidingWindow

variable {w base expected sent n a : ℕ} {data data' acks acks' : List ℕ}

theorem initial (w : ℕ) : SlidingWindow w 0 0 0 [] [] :=
  ⟨Nat.le_refl _, Nat.le_refl _, Nat.zero_le _, nofun, List.Pairwise.nil, List.Pairwise.nil, nofun⟩

/-- Frames are lost. -/
theorem lose_data (h : SlidingWindow w base expected sent data acks)
    (hdata : data'.Sublist data) : SlidingWindow w base expected sent data' acks :=
  { h with
    fresh := fun n hn => h.fresh n (hdata.subset hn)
    order := h.order.sublist hdata }

/-- Acknowledgements are lost. -/
theorem lose_acks (h : SlidingWindow w base expected sent data acks)
    (hacks : acks'.Sublist acks) : SlidingWindow w base expected sent data acks' :=
  { h with
    rising := h.rising.sublist hacks
    acked := fun a ha => h.acked a (hacks.subset ha) }

/-- **The sender sends** frames of its window, new ones or old ones. -/
theorem send {sent' : ℕ} (h : SlidingWindow w base expected sent data acks) (hsent : sent ≤ sent')
    (hsize : sent' ≤ base + w) {more : List ℕ} (hmore : ∀ n ∈ more, base ≤ n ∧ n < sent') :
    SlidingWindow w base expected sent' (data ++ more) acks where
  base_le := h.base_le
  expected_le := Nat.le_trans h.expected_le hsent
  size := hsize
  fresh n hn := by
    have hexpected := h.expected_le
    rcases List.mem_append.mp hn with hn | hn
    · obtain ⟨hlt, hfresh⟩ := h.fresh n hn
      exact ⟨Nat.lt_of_lt_of_le hlt hsent, hfresh⟩
    · obtain ⟨hbase, hlt⟩ := hmore n hn
      exact ⟨hlt, by omega⟩
  order := by
    rw [List.pairwise_append]
    refine ⟨h.order, ?_, ?_⟩
    · refine List.pairwise_of_forall_mem_list ?_
      intro m hm n hn
      have := (hmore m hm).2
      have := (hmore n hn).1
      omega
    · intro m hm n hn
      have := (h.fresh m hm).1
      have := (hmore n hn).1
      omega
  rising := h.rising
  acked := h.acked

/-- **Numbers modulo a larger modulus**: the next frame is the expected one if it looks like it. -/
theorem eq_of_mod_eq (h : SlidingWindow w base expected sent data acks) {modulus : ℕ}
    (hmodulus : w < modulus) (hn : n ∈ data) (heq : n % modulus = expected % modulus) :
    n = expected := by
  obtain ⟨hlt, hfresh⟩ := h.fresh n hn
  have hbase := h.base_le
  have hsize := h.size
  -- Two numbers that are less than a modulus apart.
  rcases Nat.le_total n expected with hle | hle
  · obtain ⟨d, rfl⟩ := Nat.exists_eq_add_of_le hle
    have hd : d % modulus = 0 := by
      have := Nat.sub_mod_eq_zero_of_mod_eq heq.symm
      rwa [Nat.add_sub_cancel_left] at this
    rw [Nat.mod_eq_of_lt (by omega)] at hd
    omega
  · obtain ⟨d, rfl⟩ := Nat.exists_eq_add_of_le hle
    have hd : d % modulus = 0 := by
      have := Nat.sub_mod_eq_zero_of_mod_eq heq
      rwa [Nat.add_sub_cancel_left] at this
    rw [Nat.mod_eq_of_lt (by omega)] at hd
    omega

/-- **The receiver takes** the frame it expects. -/
theorem receive (h : SlidingWindow w base expected sent (expected :: data) acks) :
    SlidingWindow w base (expected + 1) sent data acks where
  base_le := Nat.le_succ_of_le h.base_le
  expected_le := (h.fresh expected List.mem_cons_self).1
  size := h.size
  fresh n hn := by
    have horder := (List.pairwise_cons.mp h.order).1 n hn
    exact ⟨(h.fresh n (List.mem_cons_of_mem _ hn)).1, horder⟩
  order := (List.pairwise_cons.mp h.order).2
  rising := h.rising
  acked a ha := ⟨(h.acked a ha).1, Nat.le_succ_of_le (h.acked a ha).2⟩

/-- The receiver acknowledges what it has taken. -/
theorem answer (h : SlidingWindow w base expected sent data acks) {more : List ℕ}
    (hmore : ∀ a ∈ more, a = expected) :
    SlidingWindow w base expected sent data (acks ++ more) where
  base_le := h.base_le
  expected_le := h.expected_le
  size := h.size
  fresh := h.fresh
  order := h.order
  rising := by
    rw [List.pairwise_append]
    refine ⟨h.rising, List.pairwise_of_forall_mem_list ?_, ?_⟩
    · intro a ha b hb
      rw [hmore a ha, hmore b hb]
    · intro a ha b hb
      rw [hmore b hb]
      exact (h.acked a ha).2
  acked a ha := by
    rcases List.mem_append.mp ha with ha | ha
    · exact h.acked a ha
    · rw [hmore a ha]
      exact ⟨h.base_le, Nat.le_refl _⟩

/-- **The sender takes an acknowledgement**, of no more than it has sent. -/
theorem acknowledge (h : SlidingWindow w base expected sent data (a :: acks)) :
    base ≤ a ∧ a ≤ sent ∧ SlidingWindow w a expected sent data acks := by
  obtain ⟨hbase, hexpected⟩ := h.acked a List.mem_cons_self
  have hsize := h.size
  refine ⟨hbase, Nat.le_trans hexpected h.expected_le, hexpected, h.expected_le, by omega, h.fresh,
    h.order, (List.pairwise_cons.mp h.rising).2, ?_⟩
  intro b hb
  exact ⟨(List.pairwise_cons.mp h.rising).1 b hb, (h.acked b (List.mem_cons_of_mem _ hb)).2⟩

end SlidingWindow

/-! ### One loss -/

variable {expected sent sent' rejects n : ℕ} {data : List ℕ}

/-- Two ranges of numbers, one behind the other. -/
theorem range'_append_range' {a b c : ℕ} (hab : a ≤ b) (hbc : b ≤ c) :
    List.range' a (b - a) ++ List.range' b (c - b) = List.range' a (c - a) := by
  obtain ⟨m, rfl⟩ := Nat.exists_eq_add_of_le hab
  obtain ⟨n, rfl⟩ := Nat.exists_eq_add_of_le hbc
  rw [Nat.add_sub_cancel_left, Nat.add_sub_cancel_left, List.range'_append_1]
  congr 1
  omega

/-- Every frame that was sent and not received is on its way, once and in order. -/
def InOrder (expected sent : ℕ) (data : List ℕ) : Prop :=
  data = List.range' expected (sent - expected)

/-- The frame `lost` is missing. Those up to `next` that follow it were received in its place, and
each of them was answered by asking for `lost`. -/
structure Gap (expected sent : ℕ) (data : List ℕ) (rejects lost next : ℕ) : Prop where
  missing : data = List.range' expected (lost - expected) ++ List.range' next (sent - next)
  expected_le : expected ≤ lost
  lost_lt : lost < next
  next_le : next ≤ sent
  asked : rejects = next - lost - 1
  before : expected < lost → next = lost + 1

theorem InOrder.send (h : InOrder expected sent data) (hexpected : expected ≤ sent)
    (hsent : sent ≤ sent') : InOrder expected sent' (data ++ List.range' sent (sent' - sent)) := by
  rw [InOrder] at h ⊢
  rw [h, range'_append_range' hexpected hsent]

theorem InOrder.receive (h : InOrder expected sent (n :: data)) :
    n = expected ∧ InOrder (expected + 1) sent data := by
  rw [InOrder] at h ⊢
  rcases hcount : sent - expected with _ | count
  · rw [hcount] at h
    cases h
  · rw [hcount, List.range'_succ] at h
    obtain ⟨hn, hdata⟩ := List.cons.inj h
    refine ⟨hn, hdata.trans ?_⟩
    congr 1
    omega

/-- **A frame is lost.** -/
theorem InOrder.lose (h : InOrder expected sent data) {i : ℕ} (hi : i < data.length) :
    Gap expected sent (data.eraseIdx i) 0 (expected + i) (expected + i + 1) := by
  rw [InOrder] at h
  have hlength : data.length = sent - expected := by rw [h, List.length_range']
  refine ⟨?_, by omega, by omega, by omega, by omega, fun _ => rfl⟩
  have hsplit : data = List.range' expected (expected + i - expected) ++ (expected + i) ::
      List.range' (expected + i + 1) (sent - (expected + i + 1)) := by
    rw [h, ← range'_append_range' (show expected ≤ expected + i by omega)
      (show expected + i ≤ sent by omega), show sent - (expected + i) =
        sent - (expected + i + 1) + 1 by omega, List.range'_succ]
  rw [hsplit, List.eraseIdx_append_of_length_le (by simp)]
  simp

theorem Gap.send {lost next : ℕ} (h : Gap expected sent data rejects lost next)
    (hsent : sent ≤ sent') :
    Gap expected sent' (data ++ List.range' sent (sent' - sent)) rejects lost next := by
  have hnext := h.next_le
  refine ⟨?_, h.expected_le, h.lost_lt, Nat.le_trans hnext hsent, h.asked, h.before⟩
  rw [h.missing, List.append_assoc, range'_append_range' hnext hsent]

/-- **What follows a loss**: the frames before the lost one are received, and each of those behind
it is answered by asking for the lost one. -/
theorem Gap.receive {lost next : ℕ} (h : Gap expected sent (n :: data) rejects lost next) :
    n = expected ∧ rejects = 0 ∧ Gap (expected + 1) sent data rejects lost next ∨
      n ≠ expected ∧ expected = lost ∧ Gap expected sent data (rejects + 1) lost (next + 1) := by
  have hdata := h.missing
  have hlost := h.lost_lt
  have hrejects := h.asked
  rcases Nat.lt_or_ge expected lost with hlt | hge
  · refine .inl ?_
    have hnext := h.before hlt
    rw [show lost - expected = lost - (expected + 1) + 1 by omega, List.range'_succ,
      List.cons_append] at hdata
    obtain ⟨hn, hdata⟩ := List.cons.inj hdata
    exact ⟨hn, by omega, hdata, by omega, hlost, h.next_le, hrejects, fun _ => hnext⟩
  · refine .inr ?_
    have heq : expected = lost := Nat.le_antisymm h.expected_le hge
    rw [heq, Nat.sub_self, List.range'_zero, List.nil_append] at hdata
    rcases hcount : sent - next with _ | count
    · rw [hcount] at hdata
      cases hdata
    · rw [hcount, List.range'_succ] at hdata
      obtain ⟨hn, hdata⟩ := List.cons.inj hdata
      refine ⟨by omega, heq, ?_, by omega, by omega, by omega, by omega, by omega⟩
      rw [heq, Nat.sub_self, List.range'_zero, List.nil_append, hdata]
      congr 1
      omega

/-- **The repair**: when no more than two frames are missing at the receiver, the lost one was asked
for once, and sending both again leaves nothing out of order. -/
theorem Gap.repair {lost next : ℕ} (h : Gap expected sent data (rejects + 1) lost next)
    (hsent : sent ≤ expected + 2) :
    rejects = 0 ∧ expected = lost ∧
      InOrder expected sent (data ++ List.range' expected (sent - expected)) := by
  have hlost := h.lost_lt
  have hnext := h.next_le
  have hrejects := h.asked
  have hexpected := h.expected_le
  have heq : expected = lost := by
    rcases Nat.lt_or_ge expected lost with hlt | hge
    · have := h.before hlt
      omega
    · exact Nat.le_antisymm hexpected hge
  have hnone : data = [] := by
    rw [h.missing, show lost - expected = 0 by omega, show sent - next = 0 by omega]
    rfl
  refine ⟨by omega, heq, ?_⟩
  rw [hnone]
  rfl

end Foundation
