import ClassicHid.Foundation.Removal
import ClassicHid.Session.Controller

/-!
# Packets that do not concern a command

While a command is in progress, packets of connections and answers to other commands may arrive.
They are skipped, with one exception: the length of an answer is checked before its opcode, so an
answer to another command that is too short ends the exchange.

## Main definitions

* `concerns`: an answer to the command in progress
* `lengthError`: what the check of the length says
* `Harmless`: the packets that do not concern the command are skipped, as far as they are reached

## Main results

* `awaitComplete_eq_outcome`: the exchange ends with the first verdict
* `commandAnswer_of_not_concerns`: what a packet does that does not concern the command
* `unrelated_packets_unaffected_iff`: when such packets do not change the result
* `harmless_of_lengths`: answers of their full length are skipped
-/

namespace ClassicHid

open Foundation

/-- What a controller answers to one receive. -/
abbrev Answer := Except Error (Option Packet)

/-- A Command Complete or a Command Status event for the opcode. -/
def concerns (opcode : UInt16) : Packet → Bool
  | .event event =>
    if event.eventCode = eventCommandComplete then
      3 ≤ event.parameters.length && le16At event.parameters 1 = opcode
    else if event.eventCode = eventCommandStatus then
      4 ≤ event.parameters.length && le16At event.parameters 2 = opcode
    else false
  | _ => false

/-- Whether an answer for the opcode ends the exchange: a status of zero only announces more. -/
def decides : Packet → Bool
  | .event event =>
    event.eventCode = eventCommandComplete || event.parameters.length ≠ 4 ||
      event.parameters.getD 0 0 ≠ 0
  | _ => false

/-- The error of an answer whose length is wrong. -/
def lengthError : Packet → Option Error
  | .event event =>
    if event.eventCode = eventCommandComplete then
      if event.parameters.length < 4 then
        some (.withSource .protocolViolation
          (.packetLength "command complete" 4 event.parameters.length))
      else none
    else if event.eventCode = eventCommandStatus then
      if event.parameters.length = 4 then none
      else some (.withSource .protocolViolation
        (.packetLength "command status" 4 event.parameters.length))
    else none
  | _ => none

/-- The packets that are not answers for the opcode end the exchange with this error, or it goes on
to an entry that does. -/
def EndsWith (opcode : UInt16) (error : Error) : List Answer → Prop
  | [] => False
  | .error e :: _ => e = error
  | .ok none :: _ => False
  | .ok (some packet) :: answers =>
    if concerns opcode packet && decides packet then lengthError packet = some error
    else EndsWith opcode error answers

/-- Until the exchange ends, a packet that does not concern the command has the length of an
answer, unless the exchange would end with the very error of its length without it. -/
def Harmless (opcode : UInt16) : List Answer → Prop
  | [] => True
  | .ok (some packet) :: answers =>
    if concerns opcode packet then decides packet = true ∨ Harmless opcode answers
    else (∀ error, lengthError packet = some error → EndsWith opcode error answers) ∧
      Harmless opcode answers
  | _ :: _ => True

/-- Whether an entry is a packet that does not concern the command. -/
def unrelated (opcode : UInt16) : Answer → Bool
  | .ok (some packet) => !concerns opcode packet
  | _ => false

/-! ### Verdicts -/

/-- What an entry says about the command in progress. -/
def verdict (opcode : UInt16) : Answer → Option (Except Error Bytes)
  | .error error => some (.error error)
  | .ok none => some (.error (.new .openFailed))
  | .ok (some packet) => commandAnswer opcode packet

/-- The exchange ends with the first verdict, or because nothing more is received. -/
theorem awaitComplete_eq_outcome (opcode : UInt16) (answers : List Answer) :
    (awaitComplete opcode answers).1 =
      outcome (verdict opcode) (.error (.new .openFailed)) answers := by
  induction answers with
  | nil => rfl
  | cons answer answers ih =>
    rcases answer with error | _ | packet
    · rfl
    · rfl
    · rw [awaitComplete, outcome, verdict]
      cases commandAnswer opcode packet with
      | none => exact ih
      | some result => rfl

variable {opcode : UInt16} {packet : Packet} {event : EventPacket} {error : Error}
  {answers : List Answer}

/-- What a Command Complete event does. -/
theorem commandAnswer_complete (h : event.eventCode = eventCommandComplete) :
    commandAnswer opcode (.event event) =
      if event.parameters.length < 4 then
        some (.error (.withSource .protocolViolation
          (.packetLength "command complete" 4 event.parameters.length)))
      else if le16At event.parameters 1 ≠ opcode then none
      else if event.parameters.getD 3 0 ≠ 0 then
        some (.error (.withSource .openFailed
          (.commandFailure opcode (event.parameters.getD 3 0))))
      else some (.ok (event.parameters.drop 4)) := by
  rw [commandAnswer, if_pos h, requireMinLen]
  by_cases hlength : event.parameters.length < 4
  · rw [if_neg (Nat.not_le.mpr hlength), if_pos hlength]
  · rw [if_pos (Nat.not_lt.mp hlength), if_neg hlength]

/-- What a Command Status event does. -/
theorem commandAnswer_status (h : event.eventCode = eventCommandStatus) :
    commandAnswer opcode (.event event) =
      if event.parameters.length = 4 then
        if le16At event.parameters 2 = opcode ∧ event.parameters.getD 0 0 ≠ 0 then
          some (.error (.withSource .openFailed
            (.commandFailure opcode (event.parameters.getD 0 0))))
        else none
      else some (.error (.withSource .protocolViolation
        (.packetLength "command status" 4 event.parameters.length))) := by
  have hcode : ¬ event.eventCode = eventCommandComplete := by
    rw [h]
    decide
  rw [commandAnswer, if_neg hcode, if_pos h, requireLen]
  by_cases hlength : event.parameters.length = 4
  · rw [if_pos hlength, if_pos hlength]
  · rw [if_neg hlength, if_neg hlength]

/-- **A packet that does not concern the command** is skipped, unless its length is wrong. -/
theorem commandAnswer_of_not_concerns (h : concerns opcode packet = false) :
    commandAnswer opcode packet = (lengthError packet).map .error := by
  cases packet with
  | command => rfl
  | acl => rfl
  | event event =>
    rw [concerns] at h
    rw [lengthError]
    by_cases hcomplete : event.eventCode = eventCommandComplete
    · rw [if_pos hcomplete] at h ⊢
      rw [commandAnswer_complete hcomplete]
      split
      · rfl
      · rename_i hlength
        have hother : le16At event.parameters 1 ≠ opcode := by
          intro heq
          rw [decide_eq_true heq, Bool.and_true, decide_eq_false_iff_not] at h
          omega
        rw [if_pos hother]
        rfl
    · rw [if_neg hcomplete] at h ⊢
      by_cases hstatus : event.eventCode = eventCommandStatus
      · rw [if_pos hstatus] at h ⊢
        rw [commandAnswer_status hstatus]
        split
        · rename_i hlength
          have hother : le16At event.parameters 2 ≠ opcode := by
            intro heq
            rw [decide_eq_true heq, Bool.and_true, decide_eq_false_iff_not] at h
            omega
          rw [if_neg fun heq => hother heq.1]
          rfl
        · rfl
      · rw [if_neg hstatus, commandAnswer, if_neg hcomplete, if_neg hstatus]
        rfl

/-- An answer for the opcode that only announces more is skipped. -/
theorem commandAnswer_of_not_decides (h : concerns opcode packet = true)
    (hdecides : decides packet = false) : commandAnswer opcode packet = none := by
  cases packet with
  | command => rfl
  | acl => rfl
  | event event =>
    simp only [decides, Bool.or_eq_false_iff, decide_eq_false_iff_not, not_not] at hdecides
    obtain ⟨⟨hcomplete, hlength⟩, hzero⟩ := hdecides
    have hstatus : event.eventCode = eventCommandStatus := by
      by_contra hstatus
      rw [concerns, if_neg hcomplete, if_neg hstatus] at h
      cases h
    rw [commandAnswer_status hstatus, if_pos hlength]
    rw [if_neg fun hfailed => hfailed.2 hzero]

/-- An answer for the opcode ends the exchange with the error of its length, when that is wrong, and
otherwise with no violation of the protocol. -/
theorem commandAnswer_of_decides (h : concerns opcode packet = true)
    (hdecides : decides packet = true) :
    ∃ result, commandAnswer opcode packet = some result ∧
      ∀ error : Error, error.kind = .protocolViolation →
        (result = .error error ↔ lengthError packet = some error) := by
  cases packet with
  | command => cases h
  | acl => cases h
  | event event =>
    rw [concerns] at h
    rw [lengthError]
    by_cases hcomplete : event.eventCode = eventCommandComplete
    · rw [if_pos hcomplete] at h ⊢
      have hopcode : le16At event.parameters 1 = opcode :=
        of_decide_eq_true (Bool.and_eq_true_iff.mp h).2
      rw [commandAnswer_complete hcomplete]
      split
      · refine ⟨_, rfl, fun error _ => ?_⟩
        rw [Except.error.injEq, Option.some.injEq]
      · rw [if_neg (not_not.mpr hopcode)]
        split
        · refine ⟨_, rfl, fun error herror => ⟨fun heq => ?_, nofun⟩⟩
          cases heq
          cases herror
        · exact ⟨_, rfl, fun error _ => ⟨nofun, nofun⟩⟩
    · rw [if_neg hcomplete] at h ⊢
      by_cases hstatus : event.eventCode = eventCommandStatus
      · rw [if_pos hstatus] at h ⊢
        have hopcode : le16At event.parameters 2 = opcode :=
          of_decide_eq_true (Bool.and_eq_true_iff.mp h).2
        rw [commandAnswer_status hstatus]
        split
        · rename_i hlength
          have hfailed : event.parameters.getD 0 0 ≠ 0 := by
            simpa only [decides, hcomplete, decide_false, hlength, ne_eq, not_true, Bool.false_or,
              decide_eq_true_iff] using hdecides
          rw [if_pos ⟨hopcode, hfailed⟩]
          refine ⟨_, rfl, fun error herror => ⟨fun heq => ?_, nofun⟩⟩
          cases heq
          cases herror
        · refine ⟨_, rfl, fun error _ => ?_⟩
          rw [Except.error.injEq, Option.some.injEq]
      · rw [if_neg hstatus] at h
        cases h

/-! ### Streams -/

/-- How the exchange ends without the packets that do not concern the command. -/
theorem outcome_filter_iff (herror : error.kind = .protocolViolation) :
    .error error = outcome (verdict opcode) (.error (.new .openFailed))
        (answers.filter (!unrelated opcode ·)) ↔ EndsWith opcode error answers := by
  have hopen : (Except.error error : Except Error Bytes) ≠ .error (.new .openFailed) := by
    intro heq
    cases heq
    cases herror
  induction answers with
  | nil => exact ⟨fun heq => hopen heq, nofun⟩
  | cons answer answers ih =>
    rcases answer with e | _ | packet
    · rw [EndsWith]
      exact ⟨fun heq => (Except.error.inj heq).symm, fun heq => congrArg Except.error heq.symm⟩
    · exact ⟨fun heq => hopen heq, nofun⟩
    · rw [EndsWith]
      cases hconcerns : concerns opcode packet with
      | false =>
        rw [List.filter_cons_of_neg (by simp [unrelated, hconcerns])]
        exact ih
      | true =>
        rw [List.filter_cons_of_pos (by simp [unrelated, hconcerns]), outcome, verdict,
          Bool.true_and]
        cases hdecides : decides packet with
        | false =>
          rw [commandAnswer_of_not_decides hconcerns hdecides]
          exact ih
        | true =>
          obtain ⟨result, hresult, hlength⟩ := commandAnswer_of_decides hconcerns hdecides
          rw [hresult, Option.getD_some, if_pos rfl, ← hlength error herror]
          exact eq_comm

theorem kind_of_lengthError (h : lengthError packet = some error) :
    error.kind = .protocolViolation := by
  cases packet with
  | command => cases h
  | acl => cases h
  | event event =>
    rw [lengthError] at h
    split at h
    · split at h <;> cases h
      rfl
    · split at h
      · split at h <;> cases h
        rfl
      · cases h

/-- The packets that do not concern the command do no harm exactly when they are harmless. -/
theorem unharmed_iff_harmless :
    Unharmed (unrelated opcode) (verdict opcode) (.error (.new .openFailed)) answers ↔
      Harmless opcode answers := by
  induction answers with
  | nil => exact Iff.rfl
  | cons answer answers ih =>
    rcases answer with e | _ | packet
    · exact ⟨fun _ => trivial, by rintro _ ⟨⟩⟩
    · exact ⟨fun _ => trivial, by rintro _ ⟨⟩⟩
    · rw [Harmless, Unharmed, verdict]
      cases hconcerns : concerns opcode packet with
      | false =>
        have hunrelated : unrelated opcode (.ok (some packet)) = true := by
          rw [unrelated, hconcerns]
          rfl
        rw [if_pos hunrelated, if_neg Bool.false_ne_true, ih,
          commandAnswer_of_not_concerns hconcerns]
        refine and_congr_left fun _ => ?_
        constructor
        · intro h error herror
          rw [herror] at h
          exact (outcome_filter_iff (kind_of_lengthError herror)).mp (h _ rfl)
        · intro h result hresult
          obtain ⟨error, herror, rfl⟩ := Option.map_eq_some_iff.mp hresult
          exact (outcome_filter_iff (kind_of_lengthError herror)).mpr (h error herror)
      | true =>
        have hrelated : unrelated opcode (.ok (some packet)) ≠ true := by
          rw [unrelated, hconcerns]
          decide
        rw [if_neg hrelated, if_pos rfl, ih]
        cases hdecides : decides packet with
        | false =>
          rw [commandAnswer_of_not_decides hconcerns hdecides]
          exact ⟨fun h => .inr (h rfl), fun h _ => h.resolve_left Bool.false_ne_true⟩
        | true =>
          obtain ⟨result, hresult, -⟩ := commandAnswer_of_decides hconcerns hdecides
          rw [hresult]
          exact ⟨fun _ => .inl rfl, by rintro _ ⟨⟩⟩

/-- Packets whose length is that of an answer are harmless. -/
theorem harmless_of_lengths (h : ∀ packet, .ok (some packet) ∈ answers →
    concerns opcode packet = false → lengthError packet = none) : Harmless opcode answers := by
  induction answers with
  | nil => trivial
  | cons answer answers ih =>
    have hrest := ih fun packet hmem => h packet (List.mem_cons_of_mem _ hmem)
    rcases answer with e | _ | packet
    · trivial
    · trivial
    · rw [Harmless]
      split
      · exact .inr hrest
      · rename_i hconcerns
        have hnone := h packet List.mem_cons_self (Bool.not_eq_true _ ▸ hconcerns)
        refine ⟨fun error herror => ?_, hrest⟩
        rw [hnone] at herror
        cases herror

/-! ### The exchange -/

/-- Leaving out packets that do not concern the command does not change its result. -/
def Unaffected (command : CommandPacket) (io : HciIo) : Prop :=
  ∀ answers, Thinned (unrelated command.opcode) io.answers answers →
    (sendComplete command { io with answers := answers }).1 = (sendComplete command io).1

/-- The result of an exchange: that of sending, when it fails, and otherwise the first verdict. -/
theorem sendComplete_result (command : CommandPacket) (io : HciIo) :
    (sendComplete command io).1 =
      match io.sendResults.head? with
      | some (.error error) => .error error
      | _ => outcome (verdict command.opcode) (.error (.new .openFailed)) io.answers := by
  rw [← awaitComplete_eq_outcome]
  rcases hresults : io.sendResults with _ | ⟨error | _, results⟩
  · have hsend : HciIo.send (.command command) io = (.ok (), io) := by
      rw [HciIo.send, hresults]
    have hcomplete : sendComplete command io = _ := Exec.bind_ok hsend
    rw [hcomplete]
    rfl
  · have hsend : HciIo.send (.command command) io =
        (.error error, { io with sendResults := results }) := by
      rw [HciIo.send, hresults]
    have hcomplete : sendComplete command io = _ := Exec.bind_error hsend
    rw [hcomplete]
    rfl
  · have hsend : HciIo.send (.command command) io =
        (.ok (), { io with sendResults := results }) := by
      rw [HciIo.send, hresults]
    have hcomplete : sendComplete command io = _ := Exec.bind_ok hsend
    rw [hcomplete]
    rfl

/-- **Packets that do not concern a command** do not change its result exactly when the command
cannot be sent, or they are harmless: an answer to another command that is received before the
exchange ends has its full length. -/
theorem unrelated_packets_unaffected_iff (command : CommandPacket) (io : HciIo) :
    Unaffected command io ↔
      (∃ error, io.sendResults.head? = some (.error error)) ∨
        Harmless command.opcode io.answers := by
  have hharmless : (∀ answers', Thinned (unrelated command.opcode) io.answers answers' →
      outcome (verdict command.opcode) (.error (.new .openFailed)) answers' =
        outcome (verdict command.opcode) (.error (.new .openFailed)) io.answers) ↔
        Harmless command.opcode io.answers :=
    outcome_thinned_iff.trans unharmed_iff_harmless
  simp only [Unaffected, sendComplete_result]
  rcases io.sendResults.head? with _ | error | _
  · rw [← hharmless]
    refine ⟨fun h => .inr h, fun h => h.resolve_left ?_⟩
    rintro ⟨error, herror⟩
    cases herror
  · exact ⟨fun _ => .inl ⟨error, rfl⟩, fun _ _ _ => rfl⟩
  · rw [← hharmless]
    refine ⟨fun h => .inr h, fun h => h.resolve_left ?_⟩
    rintro ⟨error, herror⟩
    cases herror

theorem length_resetComplete_le : ([1, 0x03, 0x0C, 0x00] : Bytes).length ≤ 255 := by decide

/-- A controller that announces that it takes commands again, and then completes a reset. -/
def sampleAnnouncing : HciIo where
  answers :=
    [.ok (some (.event ⟨eventCommandComplete, [1, 0x00, 0x00], by decide⟩)),
      .ok (some (.event ⟨eventCommandComplete, [1, 0x03, 0x0C, 0x00], length_resetComplete_le⟩))]
  metadata := { vendorId := 0, productId := 0, bus := 0, deviceAddress := 0, ports := [] }

/-- The announcement, which is a completion of no command with three bytes, fails the reset. -/
theorem unrelated_packets_announcement : ¬ ∀ command io, Unaffected command io := by
  intro h
  have hthinned : Thinned (unrelated hciReset) sampleAnnouncing.answers
      (sampleAnnouncing.answers.drop 1) := .drop (by decide) (.refl _)
  have hsame := h ⟨hciReset, [], by decide⟩ sampleAnnouncing _ hthinned
  revert hsame
  decide

end ClassicHid
