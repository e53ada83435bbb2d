import Mathlib.Data.List.InsertIdx
import ClassicHid.Foundation.SlidingWindow
import ClassicHid.L2cap.ErtmInvariant
import ClassicHid.L2cap.Link

/-!
# Two engines and the frames between them

Two engines over a link that does not reorder frames but may lose any of them. In each direction
the frames form a sliding window: the numbers that the frames carry and the acknowledgements on
their way back, counted from the first frame and without a modulus, satisfy its invariant whatever
is lost and whatever is sent again.

## Main definitions

* `ErtmLink`, `ErtmLinkOp`, `ErtmLink.step`: two engines and their steps
* `Flight`: a frame on its way, with the numbers it stands for
* `Direction`: the frames that one engine sends the other
* `ErtmLink.Sound`: the invariant of both directions

## Main results

* `Direction.send`, `Direction.hear`: an operation of the sender and of the receiver
* `ErtmLink.Sound.advance`: an operation of one engine
* `ErtmLink.Sound.step`: every step keeps the invariant
-/

namespace ClassicHid

open Foundation

/-- Two engines and the frames on the way to each. -/
structure ErtmLink where
  engine : Side → ErtmEngine
  inFlight : Side → List Bytes := fun _ => []

/-- What may happen next: the owner of an engine asks something of it, its oldest frame is put on
the wire, the oldest frame on the wire is delivered to it, or any of them is lost. -/
inductive ErtmLinkOp
  | sendSdu (side : Side) (sdu : Bytes)
  | tick (side : Side) (ticks : UInt32)
  | setReceiverBusy (side : Side) (busy : Bool)
  | popReceived (side : Side)
  | transmit (side : Side)
  | deliver (side : Side)
  | drop (side : Side) (index : ℕ)

namespace ErtmLink

def setEngine (side : Side) (e : ErtmEngine) (l : ErtmLink) : ErtmLink :=
  { l with engine := Function.update l.engine side e }

def step (op : ErtmLinkOp) (l : ErtmLink) : ErtmLink :=
  match op with
  | .sendSdu side sdu => l.setEngine side ((l.engine side).apply (.sendSdu sdu))
  | .tick side ticks => l.setEngine side ((l.engine side).apply (.tick ticks))
  | .setReceiverBusy side busy => l.setEngine side ((l.engine side).apply (.setReceiverBusy busy))
  | .popReceived side => l.setEngine side ((l.engine side).apply .popReceived)
  | .transmit side =>
    match (l.engine side).outbound with
    | [] => l
    | frame :: outbound => {
        engine := Function.update l.engine side { l.engine side with outbound := outbound }
        inFlight := Function.update l.inFlight side.other (l.inFlight side.other ++ [frame]) }
  | .deliver side =>
    match l.inFlight side with
    | [] => l
    | frame :: inFlight => {
        engine := Function.update l.engine side ((l.engine side).apply (.receiveFrame frame))
        inFlight := Function.update l.inFlight side inFlight }
  | .drop side index =>
    { l with inFlight := Function.update l.inFlight side ((l.inFlight side).eraseIdx index) }

def run (ops : List ErtmLinkOp) (l : ErtmLink) : ErtmLink := ops.foldl (fun l op => l.step op) l

/-- Two new engines. -/
def new (config : Side → ErtmConfig) : ErtmLink :=
  { engine := fun side => { config := config side } }

end ErtmLink

/-! ### Frames on their way -/

/-- A frame on its way. The place of an information frame is its number, counted from the first one;
`ack` is the number of frames that its sender has taken when it sends it. -/
structure Flight where
  out : Outgoing
  ack : ℕ

/-- The number of a frame whose window begins at `base`. -/
def Outgoing.from (base : ℕ) : Outgoing → Outgoing
  | information index frame => information (base + index) frame
  | supervisory function poll finalBit => supervisory function poll finalBit

namespace Flight

def bytes (flight : Flight) : Bytes := flight.out.bytes (UInt8.ofNat (flight.ack % 64))

/-- The number of an information frame. -/
def number (flight : Flight) : Option ℕ := flight.out.place

/-- The control field of the frame. -/
def control (flight : Flight) : EnhancedControlField :=
  match flight.out with
  | .information _ frame =>
    .information frame.txSeq false (UInt8.ofNat (flight.ack % 64)) frame.sar
  | .supervisory function poll finalBit =>
    .supervisory function poll finalBit (UInt8.ofNat (flight.ack % 64))

end Flight

theorem ofNat_mod_eq {x : UInt8} {n : ℕ} (h : x.toNat = n % 64) : UInt8.ofNat (n % 64) = x := by
  rw [← h, UInt8.ofNat_toNat]

/-- The frames of an engine on their way, when its window begins at `base` and it has taken `taken`
frames. -/
def flights (base taken : ℕ) (sent : List Outgoing) : List Flight :=
  sent.map fun out => { out := out.from base, ack := taken }

theorem bytes_flights {base taken : ℕ} {reqSeq : UInt8} (h : reqSeq.toNat = taken % 64)
    (sent : List Outgoing) :
    (flights base taken sent).map Flight.bytes = sent.map (·.bytes reqSeq) := by
  rw [flights, List.map_map]
  apply List.map_congr_left
  intro out _
  rw [Function.comp_apply, Flight.bytes, ofNat_mod_eq h]
  cases out <;> rfl

theorem numbers_flights (base taken : ℕ) (sent : List Outgoing) :
    (flights base taken sent).filterMap Flight.number =
      (sent.filterMap Outgoing.place).map (base + ·) := by
  have hplace (out : Outgoing) : (out.from base).place = out.place.map (base + ·) := by
    cases out <;> rfl
  rw [flights, List.filterMap_map, List.map_filterMap]
  congr 1
  funext out
  exact hplace out

theorem acks_flights (base taken : ℕ) (sent : List Outgoing) :
    ∀ a ∈ (flights base taken sent).map Flight.ack, a = taken := by
  intro a ha
  obtain ⟨flight, hflight, rfl⟩ := List.mem_map.mp ha
  obtain ⟨out, _, rfl⟩ := List.mem_map.mp hflight
  rfl

/-! ### One direction -/

/-- The frames that `sender` sends `receiver`: `path` are those on their way and `back` those on
their way back; the sender has sent the frames `log`, knows that `base` of them have arrived, and
the receiver has taken `taken` of them. -/
structure Direction (sender receiver : ErtmEngine) (inFlight : List Bytes) (path back : List Flight)
    (base taken : ℕ) (log : List PendingFrame) : Prop where
  bytes : inFlight ++ sender.outbound = path.map Flight.bytes
  lastAcked : sender.lastAckedTxSeq.toNat = base % 64
  base_le : base ≤ log.length
  unacked : sender.unacked = log.drop base
  txSeq : ∀ n frame, log[n]? = some frame → frame.txSeq.toNat = n % 64
  expected : receiver.expectedTxSeq.toNat = taken % 64
  window : SlidingWindow sender.config.txWindowSize.toNat base taken
    (base + sender.txWindow.length) (path.filterMap Flight.number) (back.map Flight.ack)
  content : ∀ n frame ack, { out := .information n frame, ack := ack } ∈ path →
    log[n]? = some frame
  supervisory : ∀ function poll finalBit ack,
    { out := .supervisory function poll finalBit, ack := ack } ∈ path →
      function ≠ .selectiveReject

namespace Direction

variable {sender receiver e' : ErtmEngine} {inFlight inFlight' : List Bytes}
  {path path' back back' : List Flight} {base taken taken' acked : ℕ} {log added : List PendingFrame}
  {sent : List Outgoing}

/-- **An operation of the sender**, after it took an acknowledgement of `acked` frames. -/
theorem send (h : Direction sender receiver inFlight path back base taken log)
    (hnumbered : sender.Numbered) (hadvances : ErtmEngine.Advances acked added sent sender e')
    (hsize : sender.txWindow.length ≤ sender.config.txWindowSize.toNat)
    (hwindow : SlidingWindow sender.config.txWindowSize.toNat (base + acked) taken
      (base + sender.txWindow.length) (path.filterMap Flight.number) (back'.map Flight.ack))
    (hexpected : e'.expectedTxSeq.toNat = taken' % 64) :
    Direction e' receiver inFlight (path ++ flights (base + acked) taken' sent) back'
      (base + acked) taken (log ++ added) := by
  have hlength := congrArg List.length h.unacked
  rw [ErtmEngine.unacked, List.length_append, List.length_map, List.length_drop] at hlength
  have houtstanding := hadvances.outstanding
  have hbase := h.base_le
  have hdrop : e'.unacked = (log ++ added).drop (base + acked) := by
    rw [hadvances.unacked, h.unacked, List.drop_drop,
      List.drop_append_of_le_length (by omega)]
  refine ⟨?_, ?_, ?_, hdrop, ?_, h.expected, ?_, ?_, ?_⟩
  · rw [hadvances.outbound, ← List.append_assoc, h.bytes, List.map_append,
      bytes_flights hexpected]
  · rw [hadvances.lastAcked, h.lastAcked]
    omega
  · rw [List.length_append]
    omega
  · intro n frame hframe
    rcases Nat.lt_or_ge n log.length with hn | hn
    · rw [List.getElem?_append_left hn] at hframe
      exact h.txSeq n frame hframe
    · rw [List.getElem?_append_right hn] at hframe
      have hnext : sender.nextTxSeq.toNat = log.length % 64 := by
        rw [hnumbered.next, h.lastAcked, h.unacked, List.length_drop]
        omega
      rw [hadvances.number _ frame hframe, hnext]
      omega
  · rw [hadvances.config, List.filterMap_append, numbers_flights]
    have hgrows := hadvances.window
    have hfits := hadvances.size hsize
    refine hwindow.send (by omega) (by omega) ?_
    intro n hn
    obtain ⟨index, hindex, rfl⟩ := List.mem_map.mp hn
    obtain ⟨out, hout, hplace⟩ := List.mem_filterMap.mp hindex
    cases out with
    | information index' frame =>
      cases hplace
      have := (hadvances.frame index frame hout).1
      omega
    | supervisory => cases hplace
  · intro n frame ack hmem
    rcases List.mem_append.mp hmem with hmem | hmem
    · have hframe := h.content n frame ack hmem
      rw [List.getElem?_append_left (List.getElem?_eq_some_iff.mp hframe).1]
      exact hframe
    · obtain ⟨out, hout, heq⟩ := List.mem_map.mp hmem
      cases out with
      | information index frame' =>
        cases heq
        have hframe := (hadvances.frame index frame hout).2
        rw [hdrop, List.getElem?_drop] at hframe
        exact hframe
      | supervisory => cases heq
  · intro function poll finalBit ack hmem
    rcases List.mem_append.mp hmem with hmem | hmem
    · exact h.supervisory function poll finalBit ack hmem
    · obtain ⟨out, hout, heq⟩ := List.mem_map.mp hmem
      cases out with
      | information => cases heq
      | supervisory =>
        cases heq
        exact hadvances.supervisory _ _ _ hout

/-- **An operation of the receiver**, after frames left the path, taken or lost. -/
theorem hear (h : Direction sender receiver inFlight path back base taken log)
    (hbytes : inFlight' ++ sender.outbound = path'.map Flight.bytes) (hsub : path'.Sublist path)
    (hexpected : e'.expectedTxSeq.toNat = taken' % 64)
    (hwindow : SlidingWindow sender.config.txWindowSize.toNat base taken'
      (base + sender.txWindow.length) (path'.filterMap Flight.number) (back.map Flight.ack))
    (hback : ∀ flight ∈ back', flight.ack = taken') :
    Direction sender e' inFlight' path' (back ++ back') base taken' log where
  bytes := hbytes
  lastAcked := h.lastAcked
  base_le := h.base_le
  unacked := h.unacked
  txSeq := h.txSeq
  expected := hexpected
  window := by
    rw [List.map_append]
    refine hwindow.answer ?_
    intro a ha
    obtain ⟨flight, hflight, rfl⟩ := List.mem_map.mp ha
    exact hback flight hflight
  content n frame ack hmem := h.content n frame ack (hsub.subset hmem)
  supervisory function poll finalBit ack hmem :=
    h.supervisory function poll finalBit ack (hsub.subset hmem)

end Direction

/-! ### The owner of an engine -/

namespace ErtmEngine

variable {e : ErtmEngine}

/-- What was received does not concern what is sent. -/
theorem advances_received (hnumbered : Numbered e) (received : List Bytes) :
    Advances 0 [] [] e { e with received := received } := by
  have hsame : SameSender e { e with received := received } := ⟨rfl, rfl, rfl, rfl, rfl, rfl⟩
  exact .of_acknowledges hnumbered (acknowledges_zero hnumbered.lastAcked) hsame hnumbered.expected
    (.refl { e with received := received })

theorem apply_popReceived (e : ErtmEngine) :
    ∃ received, e.apply .popReceived = { e with received := received } ∧
      ∀ sdu ∈ received, sdu ∈ e.received := by
  rw [apply, popReceived]
  split
  · exact ⟨_, rfl, fun _ => id⟩
  · rename_i hreceived
    refine ⟨_, rfl, ?_⟩
    intro sdu hmem
    rw [hreceived]
    exact List.mem_cons_of_mem _ hmem

end ErtmEngine

/-! ### Both directions -/

/-- The numbers of both directions: of the frames that `side` has sent, `base side` are
acknowledged and its peer has taken `taken side`; `path side` are those on their way. -/
structure ErtmGhost where
  base : Side → ℕ := fun _ => 0
  taken : Side → ℕ := fun _ => 0
  log : Side → List PendingFrame := fun _ => []
  path : Side → List Flight := fun _ => []

/-- The numbers after an operation of the engine at `side`, before which `incoming` was left of the
frames on their way to it. -/
def ErtmGhost.advance (side : Side) (acked : ℕ) (added : List PendingFrame) (sent : List Outgoing)
    (taken : ℕ) (incoming : List Flight) (g : ErtmGhost) : ErtmGhost where
  base := Function.update g.base side (g.base side + acked)
  taken := Function.update g.taken side.other taken
  log := Function.update g.log side (g.log side ++ added)
  path := Function.update (Function.update g.path side.other incoming) side
    (g.path side ++ flights (g.base side + acked) taken sent)

namespace ErtmLink

/-- **The invariant** of both directions. -/
structure Sound (config : Side → ErtmConfig) (l : ErtmLink) (g : ErtmGhost) : Prop where
  direction : ∀ side, Direction (l.engine side) (l.engine side.other) (l.inFlight side.other)
    (g.path side) (g.path side.other) (g.base side) (g.taken side) (g.log side)
  numbered : ∀ side, (l.engine side).Numbered
  input : ∀ side, (l.engine side).InputBounded
  unchanged : ∀ side, (l.engine side).config = config side
  window : ∀ side, (l.engine side).txWindow.length ≤ (config side).txWindowSize.toNat

variable {config : Side → ErtmConfig} {l : ErtmLink} {g : ErtmGhost} {side : Side}
  {e' : ErtmEngine} {acked taken : ℕ} {added : List PendingFrame} {sent : List Outgoing}
  {incoming : List Flight} {inFlight : List Bytes}

/-- A property of both sides, by that of one of them and of the other. -/
theorem forall_side {p : Side → Prop} (side : Side) (h : p side) (hother : p side.other) :
    ∀ side', p side' := by
  intro side'
  by_cases heq : side' = side
  · rw [heq]
    exact h
  · rw [Side.eq_other_of_ne heq]
    exact hother

/-- **An operation of one engine**: `acked` of its frames are acknowledged, and `taken` frames of
its peer are taken after it. -/
theorem Sound.advance (h : Sound config l g)
    (hadvances : ErtmEngine.Advances acked added sent (l.engine side) e')
    (hinput : e'.InputBounded)
    (hincoming : incoming.Sublist (g.path side.other))
    (hbytes : inFlight ++ (l.engine side.other).outbound = incoming.map Flight.bytes)
    (hexpected : e'.expectedTxSeq.toNat = taken % 64)
    (hacks : SlidingWindow (config side).txWindowSize.toNat (g.base side + acked) (g.taken side)
      (g.base side + (l.engine side).txWindow.length) ((g.path side).filterMap Flight.number)
      (incoming.map Flight.ack))
    (htaken : SlidingWindow (config side.other).txWindowSize.toNat (g.base side.other) taken
      (g.base side.other + (l.engine side.other).txWindow.length)
      (incoming.filterMap Flight.number) ((g.path side).map Flight.ack)) :
    Sound config
      { engine := Function.update l.engine side e'
        inFlight := Function.update l.inFlight side inFlight }
      (g.advance side acked added sent taken incoming) := by
  have hne := Side.other_ne side
  have hout := h.direction side
  have hin := h.direction side.other
  rw [Side.other_other] at hin
  have hwindow : (l.engine side).txWindow.length ≤ (l.engine side).config.txWindowSize.toNat := by
    rw [h.unchanged]
    exact h.window side
  constructor
  · refine forall_side side ?_ ?_
    · simp only [ErtmGhost.advance, Function.update_self, Function.update_of_ne hne,
        Function.update_of_ne hne.symm]
      rw [← h.unchanged] at hacks
      exact hout.send (h.numbered side) hadvances hwindow hacks hexpected
    · simp only [ErtmGhost.advance, Function.update_self, Function.update_of_ne hne,
        Side.other_other]
      rw [← h.unchanged] at htaken
      refine hin.hear hbytes hincoming hexpected htaken ?_
      intro flight hflight
      exact acks_flights _ _ _ _ (List.mem_map_of_mem hflight)
  · refine forall_side side ?_ ?_
    · simpa only [Function.update_self] using hadvances.numbered (h.numbered side)
    · simpa only [Function.update_of_ne hne] using h.numbered side.other
  · refine forall_side side ?_ ?_
    · simpa only [Function.update_self] using hinput
    · simpa only [Function.update_of_ne hne] using h.input side.other
  · refine forall_side side ?_ ?_
    · simpa only [Function.update_self, hadvances.config] using h.unchanged side
    · simpa only [Function.update_of_ne hne] using h.unchanged side.other
  · refine forall_side side ?_ ?_
    · simpa only [Function.update_self, h.unchanged] using hadvances.size hwindow
    · simpa only [Function.update_of_ne hne] using h.window side.other

/-- An operation that takes no frame from the link. -/
theorem Sound.act (h : Sound config l g)
    (hadvances : ErtmEngine.Advances 0 added sent (l.engine side) e') (hinput : e'.InputBounded)
    (hexpected : e'.expectedTxSeq = (l.engine side).expectedTxSeq) :
    Sound config (l.setEngine side e')
      (g.advance side 0 added sent (g.taken side.other) (g.path side.other)) := by
  have hout := h.direction side
  have hin := h.direction side.other
  rw [Side.other_other] at hin
  have hacks := hout.window
  have htaken := hin.window
  rw [h.unchanged] at hacks htaken
  have hsound := h.advance hadvances hinput (List.Sublist.refl _)
    hin.bytes (by rw [hexpected]; exact hin.expected) hacks htaken
  rw [Function.update_eq_self] at hsound
  exact hsound

/-- Two new engines. -/
theorem sound_new (config : Side → ErtmConfig) : Sound config (new config) {} where
  direction _ := {
    bytes := rfl
    lastAcked := rfl
    base_le := Nat.le_refl _
    unacked := rfl
    txSeq := nofun
    expected := rfl
    window := SlidingWindow.initial _
    content := nofun
    supervisory := nofun }
  numbered _ := ⟨Nat.zero_lt_succ _, nofun, rfl, Nat.zero_lt_succ _⟩
  input _ := ⟨nofun, fun _ => rfl, nofun⟩
  unchanged _ := rfl
  window _ := Nat.zero_le _

/-- A frame that is put on the wire stays on its way. -/
theorem Sound.transmit (h : Sound config l g) (side : Side) :
    Sound config (l.step (.transmit side)) g := by
  rw [step]
  split
  · exact h
  rename_i frame outbound houtbound
  have hne := Side.other_ne side
  have hout := h.direction side
  have hin := h.direction side.other
  rw [Side.other_other] at hin
  constructor
  · refine forall_side side ?_ ?_
    · simp only [Function.update_self, Function.update_of_ne hne]
      refine ⟨?_, hout.lastAcked, hout.base_le, hout.unacked, hout.txSeq, hout.expected,
        hout.window, hout.content, hout.supervisory⟩
      rw [← hout.bytes, houtbound, List.append_assoc]
      rfl
    · simp only [Function.update_self, Function.update_of_ne hne, Function.update_of_ne hne.symm,
        Side.other_other]
      exact ⟨hin.bytes, hin.lastAcked, hin.base_le, hin.unacked, hin.txSeq, hin.expected,
        hin.window, hin.content, hin.supervisory⟩
  · refine forall_side side ?_ ?_
    · simp only [Function.update_self]
      have hnumbered := h.numbered side
      exact ⟨hnumbered.lastAcked, hnumbered.frames, hnumbered.next, hnumbered.expected⟩
    · simpa only [Function.update_of_ne hne] using h.numbered side.other
  · refine forall_side side ?_ ?_
    · simp only [Function.update_self]
      have hinput := h.input side
      exact ⟨hinput.started, hinput.idle, hinput.delivered⟩
    · simpa only [Function.update_of_ne hne] using h.input side.other
  · refine forall_side side ?_ ?_
    · simpa only [Function.update_self] using h.unchanged side
    · simpa only [Function.update_of_ne hne] using h.unchanged side.other
  · refine forall_side side ?_ ?_
    · simpa only [Function.update_self] using h.window side
    · simpa only [Function.update_of_ne hne] using h.window side.other

/-- **Frames are lost.** -/
theorem Sound.lose (h : Sound config l g) (hincoming : incoming.Sublist (g.path side.other))
    (hbytes : inFlight ++ (l.engine side.other).outbound = incoming.map Flight.bytes) :
    Sound config { l with inFlight := Function.update l.inFlight side inFlight }
      (g.advance side 0 [] [] (g.taken side.other) incoming) := by
  have hout := h.direction side
  have hin := h.direction side.other
  rw [Side.other_other] at hin
  have hacks := hout.window.lose_acks (hincoming.map Flight.ack)
  have htaken := hin.window.lose_data (hincoming.filterMap Flight.number)
  rw [h.unchanged] at hacks htaken
  have hsound := h.advance (.refl (h.numbered side)) (h.input side) hincoming hbytes hin.expected
    hacks htaken
  rw [Function.update_eq_self] at hsound
  exact hsound

/-- A frame on the wire is lost. -/
theorem Sound.drop (h : Sound config l g) {index : ℕ} (hindex : index < (l.inFlight side).length) :
    Sound config (l.step (.drop side index))
      (g.advance side 0 [] [] (g.taken side.other) ((g.path side.other).eraseIdx index)) := by
  have hbytes := (h.direction side.other).bytes
  rw [Side.other_other] at hbytes
  refine h.lose (List.eraseIdx_sublist ..) ?_
  rw [← List.eraseIdx_append_of_lt_length hindex, hbytes, List.eraseIdx_map]

theorem step_drop_of_le (l : ErtmLink) {index : ℕ} (hindex : (l.inFlight side).length ≤ index) :
    l.step (.drop side index) = l := by
  rw [step, List.eraseIdx_of_length_le hindex, Function.update_eq_self]

/-- The oldest frame on the wire. -/
theorem Sound.head (h : Sound config l g) {frame : Bytes}
    (hinFlight : l.inFlight side = frame :: inFlight) :
    ∃ flight path, g.path side.other = flight :: path ∧ frame = flight.bytes ∧
      inFlight ++ (l.engine side.other).outbound = path.map Flight.bytes := by
  have hbytes := (h.direction side.other).bytes
  rw [Side.other_other, hinFlight] at hbytes
  rcases hpath : g.path side.other with _ | ⟨flight, path⟩
  · rw [hpath] at hbytes
    cases hbytes
  · rw [hpath, List.cons_append, List.map_cons] at hbytes
    obtain ⟨hframe, hrest⟩ := List.cons.inj hbytes
    exact ⟨flight, path, rfl, hframe, hrest⟩

/-- A frame on its way is read back. -/
theorem Sound.fromBytes_bytes (h : Sound config l g) {flight : Flight} (hmem : flight ∈ g.path side) :
    EnhancedControlField.fromBytes flight.bytes = .ok flight.control := by
  obtain ⟨out, ack⟩ := flight
  have hack : (UInt8.ofNat (ack % 64)).toNat < 64 := by
    rw [UInt8.toNat_ofNat']
    omega
  cases out with
  | information n frame =>
    have hdirection := h.direction side
    refine PendingFrame.fromBytes_bytes ?_ hack
    rw [hdirection.txSeq n frame (hdirection.content n frame ack hmem)]
    exact Nat.mod_lt _ (by decide)
  | supervisory function poll finalBit => exact function.fromBytes_bytes poll finalBit hack

/-- The number of frames that a frame acknowledges. -/
theorem Sound.distance (h : Sound config l g) (hsize : (config side).txWindowSize.toNat < 64)
    {flight : Flight} {path : List Flight} (hpath : g.path side.other = flight :: path) :
    flight.control.reqSeq.toNat < 64 ∧
      (flight.control.reqSeq.toNat + 64 - (l.engine side).lastAckedTxSeq.toNat) % 64 =
        flight.ack - g.base side := by
  have hout := h.direction side
  have hwindow := hout.window
  rw [h.unchanged, hpath, List.map_cons] at hwindow
  obtain ⟨hbase, hsent, _⟩ := hwindow.acknowledge
  have hreq : flight.control.reqSeq.toNat = flight.ack % 64 := by
    obtain ⟨out, ack⟩ := flight
    have hack : (UInt8.ofNat (ack % 64)).toNat = ack % 64 := by
      rw [UInt8.toNat_ofNat']
      omega
    cases out <;> exact hack
  have hlast := hout.lastAcked
  have hfits := h.window side
  constructor
  · rw [hreq]
    exact Nat.mod_lt _ (by decide)
  · rw [hreq, hlast]
    omega

/-- **The oldest frame is delivered** to an engine that did not give up: its acknowledgement is
taken. -/
theorem Sound.receive (h : Sound config l g) (hsize : (config side).txWindowSize.toNat < 64)
    {flight : Flight} {path : List Flight} (hpath : g.path side.other = flight :: path)
    (hfailed : (l.engine side).failed = false) :
    ∃ acked any e₁, g.base side + acked = flight.ack ∧
      ErtmEngine.Acknowledges acked (l.engine side) e₁ ∧
      ErtmEngine.receiveFrame flight.bytes (l.engine side) =
        ErtmEngine.receiveControl flight.bytes flight.control any e₁ ∧
      SlidingWindow (config side).txWindowSize.toNat (g.base side + acked) (g.taken side)
        (g.base side + (l.engine side).txWindow.length) ((g.path side).filterMap Flight.number)
        (path.map Flight.ack) := by
  have hwindow := (h.direction side).window
  rw [h.unchanged, hpath, List.map_cons] at hwindow
  obtain ⟨hbase, hsent, hwindow⟩ := hwindow.acknowledge
  have hcontrol : EnhancedControlField.fromBytes flight.bytes = .ok flight.control := by
    refine h.fromBytes_bytes (show flight ∈ g.path side.other from ?_)
    rw [hpath]
    exact List.mem_cons_self
  have hcount := (h.distance hsize hpath).2
  rcases ErtmEngine.receiveFrame_cases (h.numbered side).lastAcked flight.bytes with
    ⟨hrefused, _⟩ | ⟨_, control, any, e₁, hread, hacks, hrun⟩
  · exfalso
    rcases hrefused with hrefused | ⟨error, hrefused⟩ | ⟨control, hread, hlong⟩
    · rw [hfailed] at hrefused
      cases hrefused
    · rw [hcontrol] at hrefused
      cases hrefused
    · cases hcontrol.symm.trans hread
      omega
  · cases hcontrol.symm.trans hread
    rw [hcount] at hacks
    have hack : g.base side + (flight.ack - g.base side) = flight.ack := by omega
    refine ⟨_, any, e₁, hack, hacks, hrun, ?_⟩
    rw [hack]
    exact hwindow

end ErtmLink

end ClassicHid
