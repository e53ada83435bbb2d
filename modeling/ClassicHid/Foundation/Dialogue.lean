import Mathlib.Data.Nat.Notation
import Mathlib.Data.List.Infix

/-!
# A server behind two queues

A client puts requests into a queue and takes replies from another one, whenever it likes. The
server takes the requests in order and puts its replies to each, none or several, into the second
queue. Whatever the interleaving, the replies that the client has heard are the first replies to
its requests, in their order.

## Main definitions

* `replies serve requests s`: what a server in state `s` replies to some requests
* `Dialogue`: the two queues, the server, and what was asked and heard
* `Dialogue.Move`: a request, a reply to the next one, or the hearing of a reply

## Main results

* `Dialogue.ordered_run`: what was asked and heard, after any moves
* `Dialogue.Ordered.heard_isPrefix`: nothing is heard out of order
* `replies_map`: requests and replies that are encoded and decoded
-/

namespace Foundation

variable {σ α β : Type}

/-- What a server replies to some requests, one after the other. -/
def replies (serve : α → σ → List β × σ) : List α → σ → List β
  | [], _ => []
  | request :: requests, s => (serve request s).1 ++ replies serve requests (serve request s).2

/-- The server after some requests. -/
def served (serve : α → σ → List β × σ) (requests : List α) (s : σ) : σ :=
  requests.foldl (fun s request => (serve request s).2) s

theorem replies_append (serve : α → σ → List β × σ) (first later : List α) (s : σ) :
    replies serve (first ++ later) s =
      replies serve first s ++ replies serve later (served serve first s) := by
  induction first generalizing s with
  | nil => rfl
  | cons request first ih =>
    rw [List.cons_append, replies, replies, ih, List.append_assoc]
    rfl

theorem served_append (serve : α → σ → List β × σ) (first later : List α) (s : σ) :
    served serve (first ++ later) s = served serve later (served serve first s) :=
  List.foldl_append

/-- **Requests and replies on a wire**: when each encoded request gets encoded replies, and leaves
the servers related, so do all of them. -/
theorem replies_map {σ' α' β' : Type} {serve : α → σ → List β × σ}
    {serve' : α' → σ' → List β' × σ'} {encode : α → α'} {encode' : β → β'} {R : σ → σ' → Prop}
    {requests : List α}
    (h : ∀ request ∈ requests, ∀ s s', R s s' →
      (serve' (encode request) s').1 = (serve request s).1.map encode' ∧
        R (serve request s).2 (serve' (encode request) s').2) {s : σ} {s' : σ'} (hs : R s s') :
    replies serve' (requests.map encode) s' = (replies serve requests s).map encode' ∧
      R (served serve requests s) (served serve' (requests.map encode) s') := by
  induction requests generalizing s s' with
  | nil => exact ⟨rfl, hs⟩
  | cons request requests ih =>
    obtain ⟨hhead, hrel⟩ := h request List.mem_cons_self s s' hs
    obtain ⟨hreplies, hserved⟩ := ih (fun r hr => h r (List.mem_cons_of_mem _ hr)) hrel
    refine ⟨?_, hserved⟩
    rw [List.map_cons, replies, replies, hhead, hreplies, List.map_append]

/-- The requests and the replies on their way, the server, and what was asked and heard so far. -/
structure Dialogue (σ α β : Type) where
  requests : List α := []
  replies : List β := []
  server : σ
  asked : List α := []
  heard : List β := []

namespace Dialogue

/-- What can happen next. -/
inductive Move (α : Type)
  | ask (request : α)
  | serve
  | hear

/-- The request of a move. -/
def Move.asks : Move α → Option α
  | .ask request => some request
  | _ => none

/-- A move whose request is encoded. -/
def Move.map {α' : Type} (encode : α → α') : Move α → Move α'
  | .ask request => .ask (encode request)
  | .serve => .serve
  | .hear => .hear

theorem asks_map {α' : Type} (encode : α → α') (moves : List (Move α)) :
    (moves.map (Move.map encode)).filterMap Move.asks =
      (moves.filterMap Move.asks).map encode := by
  rw [List.filterMap_map, List.map_filterMap]
  refine List.filterMap_congr fun m _ => ?_
  cases m <;> rfl

def move (serve : α → σ → List β × σ) (d : Dialogue σ α β) : Move α → Dialogue σ α β
  | .ask request =>
    { d with requests := d.requests ++ [request], asked := d.asked ++ [request] }
  | .serve =>
    match d.requests with
    | [] => d
    | request :: requests =>
      { d with
        requests := requests
        replies := d.replies ++ (serve request d.server).1
        server := (serve request d.server).2 }
  | .hear =>
    match d.replies with
    | [] => d
    | reply :: replies => { d with replies := replies, heard := d.heard ++ [reply] }

def run (serve : α → σ → List β × σ) (moves : List (Move α)) (d : Dialogue σ α β) :
    Dialogue σ α β :=
  moves.foldl (move serve) d

/-- The requests that were served lead to the server as it is and to the replies that were heard or
are on their way; the others are on their way. -/
def Ordered (serve : α → σ → List β × σ) (s : σ) (d : Dialogue σ α β) : Prop :=
  ∃ first, d.asked = first ++ d.requests ∧ d.server = served serve first s ∧
    Foundation.replies serve first s = d.heard ++ d.replies

variable {serve : α → σ → List β × σ} {s : σ} {d : Dialogue σ α β}

theorem Ordered.move (h : d.Ordered serve s) (m : Move α) : (d.move serve m).Ordered serve s := by
  obtain ⟨first, hasked, hserver, hreplies⟩ := h
  cases m with
  | ask request =>
    exact ⟨first, by rw [Dialogue.move, hasked, List.append_assoc], hserver, hreplies⟩
  | serve =>
    rw [Dialogue.move]
    cases hrequests : d.requests with
    | nil => exact ⟨first, hasked, hserver, hreplies⟩
    | cons request requests =>
      refine ⟨first ++ [request], ?_, ?_, ?_⟩
      · rw [hasked, hrequests, List.append_assoc]
        rfl
      · rw [served_append, ← hserver]
        rfl
      · rw [replies_append, ← hserver, hreplies, List.append_assoc, Foundation.replies,
          Foundation.replies, List.append_nil]
  | hear =>
    rw [Dialogue.move]
    cases hwaiting : d.replies with
    | nil => exact ⟨first, hasked, hserver, hreplies⟩
    | cons reply replies =>
      refine ⟨first, hasked, hserver, ?_⟩
      rw [hreplies, hwaiting, List.append_assoc]
      rfl

/-- **What was asked and heard**, after any moves. -/
theorem ordered_run (serve : α → σ → List β × σ) (moves : List (Move α)) (s : σ) :
    (run serve moves { server := s : Dialogue σ α β }).Ordered serve s := by
  have hrun (d : Dialogue σ α β) (h : d.Ordered serve s) : (run serve moves d).Ordered serve s := by
    induction moves generalizing d with
    | nil => exact h
    | cons m moves ih => exact ih _ (h.move m)
  exact hrun _ ⟨[], rfl, rfl, rfl⟩

/-- The requests of the moves are what was asked. -/
theorem asked_run (serve : α → σ → List β × σ) (moves : List (Move α)) (d : Dialogue σ α β) :
    (run serve moves d).asked = d.asked ++ moves.filterMap Move.asks := by
  induction moves generalizing d with
  | nil => exact (List.append_nil _).symm
  | cons m moves ih =>
    have hstep : (d.move serve m).asked = d.asked ++ (Move.asks m).toList := by
      cases m with
      | ask request => rfl
      | serve =>
        rw [Dialogue.move]
        split <;> exact (List.append_nil _).symm
      | hear =>
        rw [Dialogue.move]
        split <;> exact (List.append_nil _).symm
    rw [run, List.foldl_cons, ← run, ih, hstep, List.append_assoc]
    cases m <;> rfl

/-- **Nothing is heard out of order.** -/
theorem Ordered.heard_isPrefix (h : d.Ordered serve s) :
    d.heard <+: Foundation.replies serve d.asked s := by
  obtain ⟨first, hasked, -, hreplies⟩ := h
  rw [hasked, replies_append, hreplies, List.append_assoc]
  exact List.prefix_append _ _

/-- When nothing is on its way, everything was heard. -/
theorem Ordered.heard_eq (h : d.Ordered serve s) (hrequests : d.requests = [])
    (hwaiting : d.replies = []) :
    d.heard = Foundation.replies serve d.asked s ∧ d.server = served serve d.asked s := by
  obtain ⟨first, hasked, hserver, hreplies⟩ := h
  rw [hrequests, List.append_nil] at hasked
  rw [hwaiting, List.append_nil] at hreplies
  rw [hasked]
  exact ⟨hreplies.symm, hserver⟩

end Dialogue

end Foundation
