import Mathlib.Data.List.Induction
import PeerChat.Peer.Routes
import PeerChat.Proofs.Peer.Deed

/-!
Runs of a peer: what happens to a new peer, one incident after the other, and what the incidents bring.

* `run_append`: a run goes on from where the run before it has led;
* `gathered_concat`: what the last incident of a run adds to what was gathered;
* `exists_of_mem_gathered`: what was gathered was brought by an incident of the run.
-/

namespace PeerChat.Peer

open Transfer (Response)

/-- Anything that happens at a peer: a deed, or an answer to an offer that the peer is sent. -/
inductive Incident
  | deed (deed : Deed)
  | answer (response : Response)
deriving DecidableEq, Repr

/-- The reply to an answer to an offer, and the peer after it. -/
def answered (p : Peer) (response : Response) : Http.Reply × Peer := p.concluded (p.respond response)

/-- The peer afterwards; what is refused changes nothing. -/
def meets (p : Peer) : Incident → Peer
  | .deed deed => p.does deed
  | .answer response => (p.answered response).2

def run (name : Username) (incidents : List Incident) : Peer := incidents.foldl meets (start name)

variable (name : Username)

lemma run_append (incidents more : List Incident) :
    run name (incidents ++ more) = more.foldl meets (run name incidents) := List.foldl_append

lemma run_concat (incidents : List Incident) (i : Incident) :
    run name (incidents ++ [i]) = (run name incidents).meets i := run_append name incidents [i]

/-! ### Incidents at the queue of offers -/

/-- A file that the user would send touches nothing but the queue of offers and the number of the next one. -/
lemma upload_rest (p : Peer) (parcel : Parcel) : (p.upload parcel).2 =
    { p with transfers := (p.upload parcel).2.transfers, nextOffer := (p.upload parcel).2.nextOffer } := by
  unfold upload
  split
  · rfl
  · rfl
  · split
    · rfl
    · dsimp only [allocate]
      split <;> rfl

/-- An answer touches nothing but the queue of offers. -/
lemma answer_rest (p : Peer) (response : Response) :
    p.meets (.answer response) = { p with transfers := (p.meets (.answer response)).transfers } := by
  show (p.answered response).2 = { p with transfers := (p.answered response).2.transfers }
  unfold answered
  cases h : p.respond response with
  | error refusal => rfl
  | ok q =>
    obtain ⟨_, _, _, -, -, -, -, -, rfl⟩ := p.moved_of_respond h
    rfl

/-! ### Incidents at the log -/

lemma length_log_meets {p : Peer} (i : Incident) (hcap : p.log.length ≤ logCap) :
    p.log.length ≤ (p.meets i).log.length ∧ (p.meets i).log.length ≤ logCap := by
  cases i with
  | deed deed => exact p.length_log_does deed hcap
  | answer response =>
    rw [answer_rest]
    exact ⟨Nat.le_refl _, hcap⟩

lemma log_meets_of_length_eq {p : Peer} (i : Incident) (hcap : p.log.length < logCap)
    (h : (p.meets i).log.length = p.log.length) : (p.meets i).log = p.log := by
  cases i with
  | deed deed => exact p.log_does_of_length_eq deed hcap h
  | answer response => rw [answer_rest]

/-! ### What the incidents of a run bring -/

section Gathered

variable {α : Type} (brings : Peer → Incident → Option α)

/-- What the incidents bring from a peer on, in their order. -/
def gatheredFrom (p : Peer) : List Incident → List α
  | [] => []
  | i :: incidents => (brings p i).toList ++ gatheredFrom (p.meets i) incidents

/-- What the incidents of a run bring, in their order. -/
def gathered (incidents : List Incident) : List α := gatheredFrom brings (start name) incidents

lemma gatheredFrom_append (p : Peer) (incidents more : List Incident) :
    gatheredFrom brings p (incidents ++ more) =
      gatheredFrom brings p incidents ++ gatheredFrom brings (incidents.foldl meets p) more := by
  induction incidents generalizing p with
  | nil => rfl
  | cons i incidents ih =>
    show _ ++ gatheredFrom brings (p.meets i) (incidents ++ more) = _ ++ _ ++ _
    rw [ih, List.append_assoc]
    rfl

lemma gathered_concat (incidents : List Incident) (i : Incident) :
    gathered name brings (incidents ++ [i]) =
      gathered name brings incidents ++ (brings (run name incidents) i).toList := by
  have hlast : gatheredFrom brings (run name incidents) [i] = (brings (run name incidents) i).toList :=
    List.append_nil _
  unfold gathered
  rw [gatheredFrom_append, ← hlast]
  rfl

lemma exists_of_mem_gathered {incidents : List Incident} {x : α} (h : x ∈ gathered name brings incidents) :
    ∃ earlier i later, incidents = earlier ++ i :: later ∧ brings (run name earlier) i = some x := by
  induction incidents using List.reverseRecOn with
  | nil => exact nomatch h
  | append_singleton incidents last ih =>
    rw [gathered_concat, List.mem_append, Option.mem_toList] at h
    rcases h with h | h
    · obtain ⟨earlier, i, later, rfl, hi⟩ := ih h
      exact ⟨earlier, i, later ++ [last], by simp, hi⟩
    · exact ⟨incidents, last, [], rfl, h⟩

end Gathered

end PeerChat.Peer
