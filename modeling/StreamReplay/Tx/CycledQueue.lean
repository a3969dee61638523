import StreamReplay.Foundation.Checked
import StreamReplay.Foundation.Sequence
import Mathlib.Data.List.Basic
import Mathlib.Tactic.Common

/-!
# Size-limited queues

`CycledVecDequeue` of `tx/src/throttle.rs`.  A `push` keeps at most `size - 1`
items by dropping the oldest, a `try_push` refuses an item when `size` of them
are held, and size 0 stands for no limit in both.
-/

namespace StreamReplay

open Checked

universe u

@[ext]
structure CycledVecDequeue (α : Type u) where
  size : Nat
  fifo : List α
  deriving DecidableEq

namespace CycledVecDequeue

variable {α : Type u}

/-- The queue that `create` makes, where there can be one of this size. -/
def new (size : Nat) : CycledVecDequeue α := ⟨size, []⟩

/-- `VecDeque::with_capacity` takes up to `isize::MAX` bytes for its items. -/
def create (itemBytes size : Nat) : Except Panic (CycledVecDequeue α) :=
  if size * itemBytes < 2 ^ 63 then .ok (.new size) else .error (.message "capacity overflow")

/-- Append an item; the item dropped at the front, if any, is returned. -/
def push (queue : CycledVecDequeue α) (item : α) : Option α × CycledVecDequeue α :=
  let fifo := queue.fifo ++ [item]
  if queue.size > 0 ∧ fifo.length = queue.size then
    (fifo.head?, { queue with fifo := fifo.tail })
  else (none, { queue with fifo })

def tryPush (queue : CycledVecDequeue α) (item : α) : Bool × CycledVecDequeue α :=
  if queue.size > 0 ∧ queue.fifo.length = queue.size then (false, queue)
  else (true, { queue with fifo := queue.fifo ++ [item] })

def len (queue : CycledVecDequeue α) : Nat := queue.fifo.length

def front (queue : CycledVecDequeue α) : Option α := queue.fifo.head?

def popFront (queue : CycledVecDequeue α) : Option α × CycledVecDequeue α :=
  (queue.fifo.head?, { queue with fifo := queue.fifo.tail })

def reset (queue : CycledVecDequeue α) : CycledVecDequeue α :=
  { queue with fifo := [] }

/-- `try_push` every item in turn. -/
def tryPushAll (queue : CycledVecDequeue α) : List α → CycledVecDequeue α
  | [] => queue
  | item :: items => (queue.tryPush item).2.tryPushAll items

/-- The items of an offer for which `try_push` returns true. -/
def accepted (queue : CycledVecDequeue α) : List α → List α
  | [] => []
  | item :: items =>
      match queue.tryPush item with
      | (true, next) => item :: next.accepted items
      | (false, next) => next.accepted items

theorem create_eq_ok {itemBytes size : Nat} {queue : CycledVecDequeue α} :
    create itemBytes size = .ok queue ↔ size * itemBytes < 2 ^ 63 ∧ queue = .new size := by
  unfold create
  split
  next fits => simp only [fits, true_and, Except.ok.injEq, eq_comm]
  next large => simp only [large, false_and, reduceCtorEq]

/-- The queue refuses the next `try_push`. -/
def Full (queue : CycledVecDequeue α) : Prop :=
  0 < queue.size ∧ queue.len = queue.size

instance (queue : CycledVecDequeue α) : Decidable queue.Full :=
  inferInstanceAs (Decidable (_ ∧ _))

/-- The queue holds no more than its size allows. -/
def Within (queue : CycledVecDequeue α) : Prop :=
  queue.size = 0 ∨ queue.len ≤ queue.size

/-! ## Pushing -/

theorem fifo_push (queue : CycledVecDequeue α) (item : α) :
    (queue.push item).2.fifo =
      if 0 < queue.size ∧ queue.fifo.length + 1 = queue.size then
        (queue.fifo ++ [item]).tail
      else queue.fifo ++ [item] := by
  simp only [push, List.length_append, List.length_singleton, gt_iff_lt]
  split <;> rfl

/-- A push loses nothing: the dropped item precedes what is kept. -/
theorem toList_append_push (queue : CycledVecDequeue α) (item : α) :
    (queue.push item).1.toList ++ (queue.push item).2.fifo = queue.fifo ++ [item] := by
  simp only [push]
  split
  · cases queue.fifo <;> rfl
  · rfl

@[simp] theorem size_push (queue : CycledVecDequeue α) (item : α) :
    (queue.push item).2.size = queue.size := by
  simp only [push]
  split <;> rfl

/-- A push leaves a queue as it was exactly when the queue is one short of its
limit and holds nothing but the pushed item. -/
theorem push_eq_self_iff {queue : CycledVecDequeue α} {item : α} :
    (queue.push item).2 = queue ↔
      queue.fifo.length + 1 = queue.size ∧ ∀ other ∈ queue.fifo, other = item := by
  rw [CycledVecDequeue.ext_iff, size_push, fifo_push]
  simp only [true_and]
  split
  next limit =>
    rw [Sequence.tail_append_singleton_eq_self_iff]
    simp [limit.2]
  next room =>
    constructor
    · intro equal
      exact absurd (congrArg List.length equal) (by simp)
    · rintro ⟨limit, _⟩
      exact absurd ⟨by omega, limit⟩ room

/-- A push drops at most one item, and only after adding one. -/
theorem push_ne_nil {queue : CycledVecDequeue α} (nonempty : queue.fifo ≠ []) (item : α) :
    (queue.push item).2.fifo ≠ [] := by
  have positive : 0 < queue.fifo.length := List.length_pos_of_ne_nil nonempty
  rw [fifo_push]
  split
  · apply List.ne_nil_of_length_pos
    simp only [List.length_tail, List.length_append, List.length_singleton]
    omega
  · simp

/-! ## Offers -/

theorem tryPush_of_full {queue : CycledVecDequeue α} (full : queue.Full) (item : α) :
    queue.tryPush item = (false, queue) := if_pos full

theorem tryPush_of_not_full {queue : CycledVecDequeue α} (room : ¬queue.Full) (item : α) :
    queue.tryPush item = (true, { queue with fifo := queue.fifo ++ [item] }) := if_neg room

/-- `try_push` refuses an item only at capacity. -/
theorem tryPush_eq_false {queue : CycledVecDequeue α} {item : α} :
    (queue.tryPush item).1 = false ↔ queue.Full := by
  by_cases full : queue.Full
  · simp [tryPush_of_full full, full]
  · simp [tryPush_of_not_full full, full]

theorem tryPushAll_of_full {queue : CycledVecDequeue α} (full : queue.Full)
    (items : List α) : queue.tryPushAll items = queue := by
  induction items with
  | nil => rfl
  | cons item items ih => rw [tryPushAll, tryPush_of_full full, ih]

theorem accepted_of_full {queue : CycledVecDequeue α} (full : queue.Full)
    (items : List α) : queue.accepted items = [] := by
  induction items with
  | nil => rfl
  | cons item items ih => simpa only [accepted, tryPush_of_full full] using ih

/-- A queue with room takes the first item of an offer. -/
theorem accepted_cons_of_not_full {queue : CycledVecDequeue α} (room : ¬queue.Full)
    (item : α) (items : List α) :
    queue.accepted (item :: items) =
      item :: accepted { queue with fifo := queue.fifo ++ [item] } items := by
  simp only [accepted, tryPush_of_not_full room]

/-- The accepted items of an offer, and only these, are appended in order. -/
theorem fifo_tryPushAll (queue : CycledVecDequeue α) (items : List α) :
    (queue.tryPushAll items).fifo = queue.fifo ++ queue.accepted items := by
  induction items generalizing queue with
  | nil => simp [tryPushAll, accepted]
  | cons item items ih =>
      by_cases full : queue.Full
      · rw [tryPushAll_of_full full, accepted_of_full full, List.append_nil]
      · rw [tryPushAll, tryPush_of_not_full full, accepted_cons_of_not_full full, ih]
        simp

@[simp] theorem size_tryPushAll (queue : CycledVecDequeue α) (items : List α) :
    (queue.tryPushAll items).size = queue.size := by
  induction items generalizing queue with
  | nil => rfl
  | cons item items ih =>
      rw [tryPushAll, ih, tryPush]
      split <;> rfl

theorem accepted_sublist (queue : CycledVecDequeue α) (items : List α) :
    (queue.accepted items).Sublist items := by
  induction items generalizing queue with
  | nil => exact .slnil
  | cons item items ih =>
      by_cases full : queue.Full
      · rw [accepted_of_full full]
        exact List.nil_sublist _
      · rw [accepted_cons_of_not_full full]
        exact (ih _).cons_cons item

/-- An offer that there is room for is accepted. -/
theorem accepted_of_room {queue : CycledVecDequeue α} {items : List α}
    (room : queue.len + items.length ≤ queue.size) : queue.accepted items = items := by
  induction items generalizing queue with
  | nil => rfl
  | cons item items ih =>
      rw [List.length_cons] at room
      have notFull : ¬queue.Full := by
        intro full
        have reached := full.2
        omega
      rw [accepted_cons_of_not_full notFull, ih]
      simp only [len, List.length_append, List.length_singleton] at *
      omega

theorem Within.tryPushAll {queue : CycledVecDequeue α} (within : queue.Within)
    (items : List α) : (queue.tryPushAll items).Within := by
  induction items generalizing queue with
  | nil => exact within
  | cons item items ih =>
      by_cases full : queue.Full
      · rwa [tryPushAll_of_full full]
      · rw [CycledVecDequeue.tryPushAll, tryPush_of_not_full full]
        apply ih
        simp only [Within, Full, len, List.length_append, List.length_singleton] at *
        omega

theorem Within.popFront {queue : CycledVecDequeue α} (within : queue.Within) :
    queue.popFront.2.Within := by
  simp only [Within, len, CycledVecDequeue.popFront, List.length_tail] at *
  omega

end CycledVecDequeue

end StreamReplay
