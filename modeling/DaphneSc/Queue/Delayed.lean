import Mathlib.Data.List.Basic

/-!
# Queues with delayed delivery

What is sent on a delayed queue arrives in order, but only some time later: an item is pending until
it arrives and can be received from then on. The unread items are those that arrived and those
still pending, in the order sent; arriving moves none of them past another.
-/

/-- A queue whose items arrive some time after they were sent. -/
structure DelayedQueue (α : Type*) where
  readable : List α
  pending : List α
  deriving DecidableEq

namespace DelayedQueue

variable {α : Type*} (queue : DelayedQueue α) (a : α)

def empty : DelayedQueue α := ⟨[], []⟩

/-- Everything sent and not received, oldest first. -/
def unread : List α := queue.readable ++ queue.pending

def send : DelayedQueue α := { queue with pending := queue.pending ++ [a] }

/-- The next items sent arrive, at most this many. -/
def arrive (count : ℕ) : DelayedQueue α :=
  ⟨queue.readable ++ queue.pending.take count, queue.pending.drop count⟩

/-- Receive the oldest item that has arrived. -/
def receive : Option (α × DelayedQueue α) :=
  match queue.readable with
  | [] => none
  | a :: rest => some (a, { queue with readable := rest })

@[simp] theorem unread_empty : (empty : DelayedQueue α).unread = [] := rfl

@[simp] theorem unread_send : (queue.send a).unread = queue.unread ++ [a] := by
  simp [unread, send]

@[simp] theorem unread_arrive (count : ℕ) : (queue.arrive count).unread = queue.unread := by
  simp [unread, arrive]

variable {queue a}

/-- Receiving takes the oldest unread item. -/
theorem unread_of_receive {queue' : DelayedQueue α} (h : queue.receive = some (a, queue')) :
    queue.unread = a :: queue'.unread := by
  unfold receive at h
  split at h
  · cases h
  · rename_i first rest hreadable
    cases h
    simp [unread, hreadable]

/-- Once everything has arrived, the oldest unread item can be received. -/
theorem receive_of_arrived (hpending : queue.pending = []) {rest : List α}
    (hunread : queue.unread = a :: rest) :
    ∃ queue', queue.receive = some (a, queue') ∧ queue'.unread = rest ∧ queue'.pending = [] := by
  have hreadable : queue.readable = a :: rest := by simpa [unread, hpending] using hunread
  refine ⟨{ queue with readable := rest }, ?_, ?_, hpending⟩
  · rw [receive, hreadable]
  · simp [unread, hpending]

theorem pending_arrive_eq_nil_iff {count : ℕ} :
    (queue.arrive count).pending = [] ↔ queue.pending.length ≤ count := by
  rw [arrive, List.drop_eq_nil_iff]

theorem receive_eq_none_iff : queue.receive = none ↔ queue.readable = [] := by
  unfold receive
  split <;> simp_all

end DelayedQueue
