import ClassicHid.Sdp.Reassembly

/-!
# Continuations and the answer in progress

The server keeps one answer in progress for all requests: serialized attributes, which both
attribute requests hand out, or the handles of a search. A continuation is answered from it. The
history of a run tells which continuations that are.

## Main definitions

* `SdpServer.run`: the exchanges of a run of requests, and the server after it
* `latestFresh`, `latestAnswer`: the latest request of a history that began anew, and the latest
  response that is not an error
* `SdpServer.Tracks`: what the history says of the answer in progress

## Main results

* `SdpServer.tracks_run`: after every run
* `SdpServer.continuation_of_answer`: the continuations that are accepted
-/

namespace ClassicHid

open Foundation

/-! ### Histories -/

namespace SdpPdu

def isError : SdpPdu → Bool
  | errorResponse .. => true
  | _ => false

/-- A request for the handles of services. -/
def isSearch : SdpPdu → Bool
  | serviceSearchRequest .. => true
  | _ => false

/-- A request for attributes, of one service or of all that match. -/
def isAttributeRequest : SdpPdu → Bool
  | serviceAttributeRequest .. | serviceSearchAttributeRequest .. => true
  | _ => false

/-- The continuation state of a request. -/
def requestState : SdpPdu → Option Bytes
  | serviceSearchRequest _ _ _ state | serviceAttributeRequest _ _ _ _ state
  | serviceSearchAttributeRequest _ _ _ _ state => some state
  | _ => none

/-- A request that does not continue an answer. -/
def isFresh (pdu : SdpPdu) : Bool := pdu.requestState.any fun state => state.length ≤ 1

end SdpPdu

/-- A request and its response. -/
structure SdpExchange where
  request : SdpPdu
  response : SdpPdu

/-- The latest request of a history that began anew. -/
def latestFresh (history : List SdpExchange) : Option SdpPdu :=
  (history.find? (·.request.isFresh)).map (·.request)

/-- The latest exchange of a history whose response is not an error. -/
def latestAnswer (history : List SdpExchange) : Option SdpExchange :=
  history.find? fun exchange => !exchange.response.isError

/-- A search is in progress, or finished with nothing begun since. -/
def SearchInProgress (history : List SdpExchange) : Prop :=
  ∃ request, latestFresh history = some request ∧ request.isSearch = true

namespace SdpServer

/-- The server after a request, and the history with it, the latest exchange first. -/
def exchange (state : List SdpExchange × SdpServer) (request : SdpPdu) :
    List SdpExchange × SdpServer :=
  let (response, server) := state.2.handleRequest request
  (⟨request, response⟩ :: state.1, server)

/-- The exchanges of a run of requests, the latest first, and the server after it. -/
def run (requests : List SdpPdu) (server : SdpServer) : List SdpExchange × SdpServer :=
  requests.foldl exchange ([], server)

/-! ### One request -/

theorem checkContinuation_cases (state : Bytes) (server : SdpServer) :
    (1 < state.length ∧ (server.currentResponse = none ∨ state ≠ [1, 0]) ∧
      server.checkContinuation state = (.error invalidContinuationState, server)) ∨
    (state = [1, 0] ∧ server.currentResponse ≠ none ∧
      server.checkContinuation state = (.continue, server)) ∨
    (state.length ≤ 1 ∧
      server.checkContinuation state = (.fresh, { server with currentResponse := none })) := by
  rcases Nat.lt_or_ge 1 state.length with hlong | hshort
  · by_cases hrefused : server.currentResponse = none ∨ state ≠ [1, 0]
    · refine .inl ⟨hlong, hrefused, ?_⟩
      rw [checkContinuation, if_pos hlong, if_pos]
      rwa [Option.isNone_iff_eq_none]
    · rw [not_or, not_not] at hrefused
      refine .inr (.inl ⟨hrefused.2, hrefused.1, ?_⟩)
      rw [hrefused.2]
      exact checkContinuation_more server (Option.isSome_iff_ne_none.mpr hrefused.1)
  · exact .inr (.inr ⟨hshort, checkContinuation_fresh hshort⟩)

/-- What a request for attributes with a continuation state does. -/
inductive AttributeOutcome (id : UInt16) (state : Bytes) (server : SdpServer) :
    SdpPdu × SdpServer → Prop
  /-- The continuation is refused. -/
  | refused (hlong : 1 < state.length)
      (hcurrent : server.currentResponse = none ∨ state ≠ [1, 0]) :
      AttributeOutcome id state server (.errorResponse id invalidContinuationState, server)
  /-- The service is not known. -/
  | unknown (hfresh : state.length ≤ 1) :
      AttributeOutcome id state server
        (.errorResponse id invalidServiceRecordHandle, { server with currentResponse := none })
  /-- The answer in progress is that of a search: nothing of it is handed out. -/
  | misplaced {total : UInt16} {remaining : List UInt32} {response : SdpPdu}
      (hstate : state = [1, 0]) (hcurrent : server.currentResponse = some (.handles total remaining))
      (hresponse : response.isError = false) :
      AttributeOutcome id state server (response, server)
  /-- A piece is handed out. -/
  | answered {response : SdpPdu} {server' : SdpServer}
      (hstate : state.length ≤ 1 ∨
        state = [1, 0] ∧ ∃ bytes, server.currentResponse = some (.bytes bytes))
      (hresponse : response.isError = false)
      (hnext : server'.currentResponse = none ∨
        response.continuation = [1, 0] ∧ ∃ bytes, server'.currentResponse = some (.bytes bytes)) :
      AttributeOutcome id state server (response, server')

/-- A piece of an attribute answer: its continuation state says whether there is more. -/
theorem nextBytePayload_cases (size : ℕ) (server : SdpServer) :
    ((∃ total remaining, server.currentResponse = some (.handles total remaining)) ∧
      server.nextBytePayload size = (([], [0]), server)) ∨
    ∃ piece state server', server.nextBytePayload size = ((piece, state), server') ∧
      (server'.currentResponse = none ∨
        state = [1, 0] ∧ ∃ bytes, server'.currentResponse = some (.bytes bytes)) := by
  rw [nextBytePayload]
  rcases hcurrent : server.currentResponse with _ | bytes | ⟨total, remaining⟩
  · exact .inr ⟨_, _, server, rfl, .inl hcurrent⟩
  · refine .inr ?_
    dsimp only
    split
    · exact ⟨_, _, _, rfl, .inr ⟨rfl, _, rfl⟩⟩
    · exact ⟨_, _, _, rfl, .inl rfl⟩
  · exact .inl ⟨⟨total, remaining, rfl⟩, rfl⟩

/-- A handler that checks the continuation state and hands out the next piece. -/
theorem attributeOutcome_of_piece {id : UInt16} {state : Bytes} {server : SdpServer}
    (current : SdpServer) {reply : Bytes → Bytes → SdpPdu}
    (hreply : ∀ piece state, (reply piece state).isError = false ∧
      (reply piece state).continuation = state)
    (size : ℕ) (hstate : state = [1, 0] ∧ server.currentResponse ≠ none ∧ current = server ∨
      state.length ≤ 1 ∧ ∃ bytes, current.currentResponse = some (.bytes bytes)) :
    AttributeOutcome id state server
      (reply (current.nextBytePayload size).1.1 (current.nextBytePayload size).1.2,
        (current.nextBytePayload size).2) := by
  rcases nextBytePayload_cases size current with ⟨⟨total, remaining, hcurrent⟩, hpiece⟩ |
      ⟨piece, next, server', hpiece, hnext⟩
  · rw [hpiece]
    rcases hstate with ⟨hstate, -, rfl⟩ | ⟨-, bytes, hbytes⟩
    · exact .misplaced hstate hcurrent (hreply _ _).1
    · rw [hcurrent] at hbytes
      cases hbytes
  · rw [hpiece]
    rcases hstate with ⟨hstate, hsome, rfl⟩ | ⟨hfresh, -⟩
    · rcases hcurrent : current.currentResponse with _ | bytes | ⟨total, remaining⟩
      · exact absurd hcurrent hsome
      · refine .answered (.inr ⟨hstate, bytes, hcurrent⟩) (hreply _ _).1 ?_
        rwa [(hreply _ _).2]
      · rw [nextBytePayload, hcurrent] at hpiece
        cases hpiece
        exact .misplaced hstate hcurrent (hreply _ _).1
    · refine .answered (.inl hfresh) (hreply _ _).1 ?_
      rwa [(hreply _ _).2]

theorem onServiceSearchAttribute_outcome (id : UInt16) (pattern : DataElement) (maximum : UInt16)
    (ids : DataElement) (state : Bytes) (server : SdpServer) :
    AttributeOutcome id state server
      (server.onServiceSearchAttribute id pattern maximum ids state) := by
  have hreply (piece next : Bytes) :
      (SdpPdu.serviceSearchAttributeResponse id piece next).isError = false ∧
        (SdpPdu.serviceSearchAttributeResponse id piece next).continuation = next := ⟨rfl, rfl⟩
  rw [onServiceSearchAttribute]
  rcases checkContinuation_cases state server with ⟨hlong, hrefused, hcheck⟩ |
      ⟨hstate, hsome, hcheck⟩ | ⟨hfresh, hcheck⟩
  · rw [hcheck]
    exact .refused hlong hrefused
  · rw [hcheck]
    exact attributeOutcome_of_piece server hreply _ (.inl ⟨hstate, hsome, rfl⟩)
  · rw [hcheck]
    exact attributeOutcome_of_piece { server with currentResponse := some _ } hreply _
      (.inr ⟨hfresh, _, rfl⟩)

theorem onServiceAttribute_outcome (id : UInt16) (handle : UInt32) (maximum : UInt16)
    (ids : DataElement) (state : Bytes) (server : SdpServer) :
    AttributeOutcome id state server
      (server.onServiceAttribute id handle maximum ids state) := by
  have hreply (piece next : Bytes) :
      (SdpPdu.serviceAttributeResponse id piece next).isError = false ∧
        (SdpPdu.serviceAttributeResponse id piece next).continuation = next := ⟨rfl, rfl⟩
  rw [onServiceAttribute]
  rcases checkContinuation_cases state server with ⟨hlong, hrefused, hcheck⟩ |
      ⟨hstate, hsome, hcheck⟩ | ⟨hfresh, hcheck⟩
  · rw [hcheck]
    exact .refused hlong hrefused
  · rw [hcheck]
    exact attributeOutcome_of_piece server hreply _ (.inl ⟨hstate, hsome, rfl⟩)
  · rw [hcheck]
    dsimp only
    split
    · exact .unknown hfresh
    · exact attributeOutcome_of_piece { server with currentResponse := some _ } hreply _
        (.inr ⟨hfresh, _, rfl⟩)

theorem handleRequest_attributeOutcome {request : SdpPdu} {state : Bytes}
    (hkind : request.isAttributeRequest = true) (hstate : request.requestState = some state)
    (server : SdpServer) :
    AttributeOutcome request.transactionId state server (server.handleRequest request) := by
  cases request with
  | serviceAttributeRequest id handle maximum ids continuation =>
    cases hstate
    exact onServiceAttribute_outcome id handle maximum ids state server
  | serviceSearchAttributeRequest id pattern maximum ids continuation =>
    cases hstate
    exact onServiceSearchAttribute_outcome id pattern maximum ids state server
  | _ => cases hkind

/-- What a search with a continuation state does: it is refused, or the handles stay in progress,
also when none is left. -/
theorem handleRequest_search {request : SdpPdu} {state : Bytes}
    (hkind : request.isSearch = true) (hstate : request.requestState = some state)
    (server : SdpServer) :
    (1 < state.length ∧ server.handleRequest request =
        (.errorResponse request.transactionId invalidContinuationState, server) ∧
      (state = [1, 0] → ∀ total remaining,
        server.currentResponse ≠ some (.handles total remaining))) ∨
    ((state.length ≤ 1 ∨ state = [1, 0] ∧ ∃ total remaining,
        server.currentResponse = some (.handles total remaining)) ∧
      (server.handleRequest request).1.isError = false ∧
      ∃ total remaining,
        (server.handleRequest request).2.currentResponse = some (.handles total remaining)) := by
  cases request with
  | serviceSearchRequest id pattern maximum continuation =>
    cases hstate
    rw [handleRequest, onServiceSearch]
    rcases checkContinuation_cases state server with ⟨hlong, hrefused, hcheck⟩ |
        ⟨hstate, hsome, hcheck⟩ | ⟨hfresh, hcheck⟩
    · rw [hcheck]
      refine .inl ⟨hlong, rfl, fun hstate total remaining hcurrent => ?_⟩
      rcases hrefused with hnone | hne
      · rw [hnone] at hcurrent
        cases hcurrent
      · exact hne hstate
    · rw [hcheck]
      dsimp only
      rcases hcurrent : server.currentResponse with _ | bytes | ⟨total, remaining⟩
      · exact absurd hcurrent hsome
      · refine .inl ⟨?_, rfl, fun _ total remaining hhandles => by cases hhandles⟩
        rw [hstate]
        decide
      · exact .inr ⟨.inr ⟨hstate, total, remaining, rfl⟩, rfl, _, _, rfl⟩
    · rw [hcheck]
      exact .inr ⟨.inl hfresh, rfl, _, _, rfl⟩
  | _ => cases hkind

/-! ### Runs -/

/-- What the history says of the answer in progress. -/
def Tracks (state : List SdpExchange × SdpServer) : Prop :=
  match state.2.currentResponse with
  | none => ¬ SearchInProgress state.1
  | some (.bytes _) => ¬ SearchInProgress state.1 ∧ ∃ exchange, latestAnswer state.1 = some exchange ∧
      exchange.request.isAttributeRequest = true ∧ exchange.response.continuation = [1, 0]
  | some (.handles ..) => SearchInProgress state.1

section Histories

variable {history : List SdpExchange} {request response : SdpPdu}

theorem latestFresh_cons_fresh (h : request.isFresh = true) :
    latestFresh (⟨request, response⟩ :: history) = some request := by
  rw [latestFresh, List.find?_cons_of_pos (by exact h)]
  rfl

theorem latestFresh_cons_continuation (h : request.isFresh = false) :
    latestFresh (⟨request, response⟩ :: history) = latestFresh history := by
  rw [latestFresh, List.find?_cons_of_neg (by simp [h]), latestFresh]

theorem latestAnswer_cons_answer (h : response.isError = false) :
    latestAnswer (⟨request, response⟩ :: history) = some ⟨request, response⟩ := by
  rw [latestAnswer, List.find?_cons_of_pos (by simp [h])]

theorem latestAnswer_cons_error (h : response.isError = true) :
    latestAnswer (⟨request, response⟩ :: history) = latestAnswer history := by
  rw [latestAnswer, List.find?_cons_of_neg (by simp [h]), latestAnswer]

theorem searchInProgress_cons_fresh (h : request.isFresh = true) :
    SearchInProgress (⟨request, response⟩ :: history) ↔ request.isSearch = true := by
  rw [SearchInProgress, latestFresh_cons_fresh h]
  simp

theorem searchInProgress_cons_continuation (h : request.isFresh = false) :
    SearchInProgress (⟨request, response⟩ :: history) ↔ SearchInProgress history := by
  rw [SearchInProgress, latestFresh_cons_continuation h, SearchInProgress]

theorem isFresh_eq {state : Bytes} (h : request.requestState = some state) :
    request.isFresh = decide (state.length ≤ 1) := by
  rw [SdpPdu.isFresh, h]
  rfl

/-- A request for attributes is no search. -/
theorem isSearch_of_isAttributeRequest (h : request.isAttributeRequest = true) :
    request.isSearch = false := by
  cases request <;> first | rfl | cases h

/-- A request with a continuation state that is no search asks for attributes. -/
theorem isAttributeRequest_of_not_search {state : Bytes} (h : request.requestState = some state)
    (hkind : request.isSearch = false) : request.isAttributeRequest = true := by
  cases request with
  | serviceSearchRequest _ _ _ _ => cases hkind
  | serviceAttributeRequest _ _ _ _ _ => rfl
  | serviceSearchAttributeRequest _ _ _ _ _ => rfl
  | _ => cases h

end Histories

/-- An error that answers a continuation says nothing of the answer in progress. -/
theorem Tracks.refused {history : List SdpExchange} {server : SdpServer}
    (h : Tracks (history, server)) {request response : SdpPdu} (hfresh : request.isFresh = false)
    (herror : response.isError = true) : Tracks (⟨request, response⟩ :: history, server) := by
  unfold Tracks at h ⊢
  rw [latestAnswer_cons_error herror, searchInProgress_cons_continuation hfresh]
  exact h

/-- **Every request** keeps the history and the answer in progress in step. -/
theorem Tracks.exchange {state : List SdpExchange × SdpServer} (h : Tracks state)
    (request : SdpPdu) : Tracks (SdpServer.exchange state request) := by
  obtain ⟨history, server⟩ := state
  rw [SdpServer.exchange]
  dsimp only
  cases hstate : request.requestState with
  | none =>
    have hfresh : request.isFresh = false := by rw [SdpPdu.isFresh, hstate]; rfl
    cases request <;> first | exact h.refused hfresh rfl | cases hstate
  | some continuation =>
    have hfresh := isFresh_eq hstate
    rcases Bool.eq_false_or_eq_true request.isSearch with hkind | hkind
    · rcases handleRequest_search hkind hstate server with ⟨hlong, hrefused, -⟩ |
          ⟨haccepted, hanswer, total, remaining, hnext⟩
      · rw [hrefused]
        exact h.refused (by rw [hfresh]; exact decide_eq_false (by omega)) rfl
      · unfold Tracks
        simp only [hnext]
        rcases haccepted with hshort | ⟨rfl, total', remaining', hcurrent⟩
        · rw [searchInProgress_cons_fresh (by rw [hfresh]; exact decide_eq_true hshort)]
          exact hkind
        · rw [searchInProgress_cons_continuation (by rw [hfresh]; rfl)]
          simpa only [Tracks, hcurrent] using h
    · have hattribute := isAttributeRequest_of_not_search hstate hkind
      have houtcome := handleRequest_attributeOutcome hattribute hstate server
      generalize server.handleRequest request = outcome at houtcome ⊢
      cases houtcome with
      | refused hlong _ => exact h.refused (by rw [hfresh]; exact decide_eq_false (by omega)) rfl
      | unknown hshort =>
        change ¬ SearchInProgress _
        rw [searchInProgress_cons_fresh (by rw [hfresh]; exact decide_eq_true hshort), hkind]
        exact Bool.false_ne_true
      | @misplaced total remaining response hcontinuation hcurrent _ =>
        unfold Tracks at h ⊢
        simp only [hcurrent] at h ⊢
        rwa [searchInProgress_cons_continuation (by rw [hfresh, hcontinuation]; rfl)]
      | @answered response server' haccepted hanswer hnext =>
        have hsearch : ¬ SearchInProgress (⟨request, response⟩ :: history) := by
          rcases haccepted with hshort | ⟨rfl, bytes, hcurrent⟩
          · rw [searchInProgress_cons_fresh (by rw [hfresh]; exact decide_eq_true hshort), hkind]
            exact Bool.false_ne_true
          · rw [searchInProgress_cons_continuation (by rw [hfresh]; rfl)]
            simp only [Tracks, hcurrent] at h
            exact h.1
        unfold Tracks
        rcases hnext with hnone | ⟨hmore, bytes, hbytes⟩
        · simp only [hnone]
          exact hsearch
        · simp only [hbytes]
          exact ⟨hsearch, _, latestAnswer_cons_answer hanswer, hattribute, hmore⟩

/-- **After every run** the history tells what is in progress. -/
theorem tracks_run (requests : List SdpPdu) {server : SdpServer}
    (hserver : server.currentResponse = none) : Tracks (run requests server) := by
  have hstart : Tracks (([], server) : List SdpExchange × SdpServer) := by
    simp only [Tracks, hserver]
    rintro ⟨request, hrequest, -⟩
    cases hrequest
  rw [run]
  generalize (([], server) : List SdpExchange × SdpServer) = start at hstart
  induction requests generalizing start with
  | nil => exact hstart
  | cons request requests ih => exact ih _ (hstart.exchange request)

/-- **The continuations that are accepted**, after any run of requests: only the state `[1, 0]`, for
a search as long as a search is in progress or finished with nothing begun since, and for either
attribute request when the latest answer was to one of them and announced more. Every other
continuation is refused and changes nothing. What an attribute request gets while a search is in
progress is left open. -/
theorem continuation_of_answer (records : List ServiceRecord) (mtu : UInt16)
    (requests : List SdpPdu) (request : SdpPdu) (state : Bytes)
    (hstate : request.requestState = some state) (hlong : 1 < state.length) :
    let before := run requests { records := records, mtu := mtu }
    let outcome := before.2.handleRequest request
    outcome = (.errorResponse request.transactionId invalidContinuationState, before.2) ∨
      outcome.1.isError = false ∧ state = [1, 0] ∧
        (request.isSearch = true → SearchInProgress before.1) ∧
        (request.isAttributeRequest = true → SearchInProgress before.1 ∨
          ∃ exchange, latestAnswer before.1 = some exchange ∧
            exchange.request.isAttributeRequest = true ∧
            exchange.response.continuation = [1, 0]) := by
  intro before outcome
  have htracks : Tracks before := tracks_run requests rfl
  rcases Bool.eq_false_or_eq_true request.isSearch with hkind | hkind
  · have hattribute : request.isAttributeRequest ≠ true := fun h => by
      rw [isSearch_of_isAttributeRequest h] at hkind
      cases hkind
    rcases handleRequest_search hkind hstate before.2 with ⟨-, hrefused, -⟩ |
        ⟨haccepted, hanswer, -⟩
    · exact .inl hrefused
    · rcases haccepted with hshort | ⟨hmore, total, remaining, hcurrent⟩
      · omega
      · refine .inr ⟨hanswer, hmore, fun _ => ?_, fun h => absurd h hattribute⟩
        simpa only [Tracks, hcurrent] using htracks
  · have hattribute := isAttributeRequest_of_not_search hstate hkind
    have hsearch : request.isSearch ≠ true := by rw [hkind]; exact Bool.false_ne_true
    have houtcome := handleRequest_attributeOutcome hattribute hstate before.2
    change AttributeOutcome _ _ _ outcome at houtcome
    generalize outcome = outcome at houtcome ⊢
    cases houtcome with
    | refused _ _ => exact .inl rfl
    | unknown hshort => omega
    | misplaced hmore hcurrent hanswer =>
      refine .inr ⟨hanswer, hmore, fun h => absurd h hsearch, fun _ => .inl ?_⟩
      simpa only [Tracks, hcurrent] using htracks
    | answered haccepted hanswer _ =>
      rcases haccepted with hshort | ⟨hmore, bytes, hcurrent⟩
      · omega
      · refine .inr ⟨hanswer, hmore, fun h => absurd h hsearch, fun _ => .inr ?_⟩
        simp only [Tracks, hcurrent] at htracks
        exact htracks.2

/-- A search for the class of the records. -/
def sampleSearch (id : UInt16) (state : Bytes) : SdpPdu :=
  .serviceSearchRequest id (.sequence [.uuid (.fromU16 0x1101)]) 5 state

/-- A request for the text of the first record. -/
def sampleRead (id : UInt16) (state : Bytes) : SdpPdu :=
  .serviceAttributeRequest id 1 3 (.sequence [.unsignedInteger16 0]) state

/-- The server after the first round of a request. -/
def begun (request : SdpPdu) (mtu : UInt16) : List SdpExchange × SdpServer :=
  run [request] { records := (sampleServer mtu).records, mtu := mtu }

/-- The text of the first record is in progress. -/
theorem begun_sampleRead : begun (sampleRead 1 [0]) 12 =
    ([⟨sampleRead 1 [0], .serviceAttributeResponse 1 [0x35, 11, 9] [1, 0]⟩],
      { sampleServer 12 with
        currentResponse := some (.bytes [0, 0, 0x25, 6, 1, 2, 3, 4, 5, 6]) }) := by
  have hstate : ([0] : Bytes).length ≤ 1 := Nat.le_refl 1
  have hrecord : (sampleServer 12).records.find? (·.handle = 1) =
      some ⟨1, sampleAttributes⟩ := rfl
  rw [begun, run, List.foldl_cons, List.foldl_nil, exchange, sampleRead]
  simp only [handleRequest, onServiceAttribute, checkContinuation_fresh hstate, hrecord,
    sequenceElements, getServiceAttributes_sampleAttributes]
  rfl

/-- A search that is continued, a text that is, and a search in place of the text. -/
theorem continuation_of_answer_begun :
    ((begun (sampleSearch 1 [0]) 15).2.handleRequest (sampleSearch 2 [1, 0])).1 =
        .serviceSearchResponse 2 2 [2] [0] ∧
      SearchInProgress (begun (sampleSearch 1 [0]) 15).1 ∧
      (∃ exchange, latestAnswer (begun (sampleRead 1 [0]) 12).1 = some exchange ∧
        exchange.request.isAttributeRequest = true ∧
        exchange.response.continuation = [1, 0]) ∧
      (begun (sampleRead 1 [0]) 12).2.handleRequest (sampleSearch 2 [1, 0]) =
        (.errorResponse 2 invalidContinuationState, (begun (sampleRead 1 [0]) 12).2) := by
  have hlong : 1 < ([1, 0] : Bytes).length := by decide
  have hreading : ¬ SearchInProgress (begun (sampleRead 1 [0]) 12).1 := by
    rintro ⟨request, hrequest, hsearch⟩
    cases hrequest
    cases hsearch
  refine ⟨rfl, ?_, ?_, ?_⟩
  · rcases continuation_of_answer (sampleServer 15).records 15 [sampleSearch 1 [0]]
      (sampleSearch 2 [1, 0]) [1, 0] rfl hlong with hrefused | ⟨-, -, hsearch, -⟩
    · cases congrArg Prod.fst hrefused
    · exact hsearch rfl
  · rcases continuation_of_answer (sampleServer 12).records 12 [sampleRead 1 [0]]
      (sampleRead 2 [1, 0]) [1, 0] rfl hlong with hrefused | ⟨-, -, -, hread⟩
    · have hafter : (run [sampleRead 1 [0]]
          { records := (sampleServer 12).records, mtu := 12 }).2 = _ :=
        congrArg Prod.snd begun_sampleRead
      rw [hafter] at hrefused
      cases congrArg Prod.fst hrefused
    · exact (hread rfl).resolve_left hreading
  · rcases continuation_of_answer (sampleServer 12).records 12 [sampleRead 1 [0]]
      (sampleSearch 2 [1, 0]) [1, 0] rfl hlong with hrefused | ⟨-, -, hsearch, -⟩
    · exact hrefused
    · exact absurd (hsearch rfl) hreading

/-- A search that is finished is continued: its last response ended the answer, and the
continuation is not refused. -/
theorem finished_search_is_continued :
    let before := run [.serviceSearchRequest 1 (.sequence []) 5 [0]] { records := [], mtu := 48 }
    latestAnswer before.1 = some ⟨.serviceSearchRequest 1 (.sequence []) 5 [0],
        .serviceSearchResponse 1 0 [] [0]⟩ ∧
      (before.2.handleRequest (.serviceSearchRequest 2 (.sequence []) 5 [1, 0])).1 =
        .serviceSearchResponse 2 0 [] [0] :=
  ⟨rfl, rfl⟩

end SdpServer

end ClassicHid
