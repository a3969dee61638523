import Mathlib.Tactic.Common

/-!
# Locks that are poisoned by a panic

A value behind a lock.  A thread that panics while it holds the lock leaves the
lock poisoned; from then on no thread gets at the value, so what the panic left of
it does not matter.  A lock is never healed.
-/

namespace Guarded

universe u v w

@[ext]
structure Mutex (α : Type u) where
  value : α
  poisoned : Bool

variable {α : Type u} {β : Type v} {ε : Type w}

namespace Mutex

def new (value : α) : Mutex α := ⟨value, false⟩

/-- `lock().ok()` -/
def lock (mutex : Mutex α) : Option α :=
  if mutex.poisoned then none else some mutex.value

/-- Change the value if the lock is not poisoned. -/
def modify (mutex : Mutex α) (update : α → α) : Mutex α :=
  if mutex.poisoned then mutex else { mutex with value := update mutex.value }

/-- A panic under the lock. -/
def poison (mutex : Mutex α) : Mutex α := { mutex with poisoned := true }

/-- Run a computation that may panic under the lock. -/
def run (mutex : Mutex α) (step : α → Except ε (β × α)) : Mutex α :=
  if mutex.poisoned then mutex
  else
    match step mutex.value with
    | .ok (_, next) => { mutex with value := next }
    | .error _ => mutex.poison

theorem lock_eq_some {mutex : Mutex α} {value : α} :
    mutex.lock = some value ↔ mutex.poisoned = false ∧ value = mutex.value := by
  unfold lock
  cases mutex.poisoned with
  | true => simp
  | false => simp [eq_comm]

theorem lock_eq_none {mutex : Mutex α} : mutex.lock = none ↔ mutex.poisoned = true := by
  unfold lock
  cases mutex.poisoned <;> simp

@[simp] theorem poisoned_modify (mutex : Mutex α) (update : α → α) :
    (mutex.modify update).poisoned = mutex.poisoned := by
  unfold modify
  split <;> rfl

/-- A computation leaves the lock unpoisoned exactly when it returns. -/
theorem poisoned_run_eq_false {mutex : Mutex α} {step : α → Except ε (β × α)} :
    (mutex.run step).poisoned = false ↔
      mutex.poisoned = false ∧ ∃ result, step mutex.value = .ok result := by
  unfold run
  cases alive : mutex.poisoned with
  | true => simp [alive]
  | false =>
      cases stepped : step mutex.value with
      | error fault => simp [poison]
      | ok result => simp

/-- What a step that returns keeps is kept by the lock. -/
theorem run_keeps (holds : α → Prop) {mutex : Mutex α} (initial : holds mutex.value)
    {step : α → Except ε (β × α)}
    (kept : ∀ value out next, holds value → step value = .ok (out, next) → holds next) :
    holds (mutex.run step).value := by
  unfold run
  split
  · exact initial
  · split
    next out next stepped => exact kept _ _ _ initial stepped
    next => exact initial

end Mutex

end Guarded
