import StreamReplay.Foundation.Checked
import Mathlib.Data.List.Induction
import Mathlib.Tactic.Common

/-!
# Runs of fallible transition systems

A system is a step function from a state and an operation to an output and a
next state, or a fault.  `Run` records what happened as a list of events, each
with the state before and after it, so that any ghost quantity of a run is a
function of its history.  `exec` is the same system as a program over a list of
operations.
-/

namespace FallibleRun

universe u v w x

variable {State : Type u} {Op : Type v} {Out : Type w} {Fault : Type x}

/-- A fallible, labelled step function. -/
abbrev Step (State : Type u) (Op : Type v) (Out : Type w) (Fault : Type x) :=
  State → Op → Except Fault (Out × State)

/-- One step that was taken, with the states around it. -/
structure Event (State : Type u) (Op : Type v) (Out : Type w) where
  before : State
  op : Op
  out : Out
  after : State

/-- The runs from `start`, with their histories in chronological order. -/
inductive Run (step : Step State Op Out Fault) (start : State) :
    List (Event State Op Out) → State → Prop where
  | nil : Run step start [] start
  | snoc {history : List (Event State Op Out)} {state next : State} {op : Op} {out : Out} :
      Run step start history state → step state op = .ok (out, next) →
      Run step start (history ++ [⟨state, op, out, next⟩]) next

/-- Execute a list of operations, stopping at the first fault. -/
def exec (step : Step State Op Out Fault) (state : State) : List Op → Except Fault State
  | [] => .ok state
  | op :: ops =>
      match step state op with
      | .ok (_, next) => exec step next ops
      | .error fault => .error fault

/-- What executing a list of operations shows: the outputs up to the first fault, and
that fault. -/
def replies (step : Step State Op Out Fault) (state : State) :
    List Op → List (Except Fault Out)
  | [] => []
  | op :: ops =>
      match step state op with
      | .ok (out, next) => .ok out :: replies step next ops
      | .error fault => [.error fault]

/-- What the events of a history emit, starting over at each event that clears. -/
def collect {α : Type*} (emits : Event State Op Out → List α)
    (clears : Event State Op Out → Bool) (history : List (Event State Op Out)) : List α :=
  history.foldl (fun log event => if clears event then [] else log ++ emits event) []

@[simp] theorem collect_nil {α : Type*} (emits : Event State Op Out → List α)
    (clears : Event State Op Out → Bool) : collect emits clears [] = [] := rfl

@[simp] theorem collect_snoc {α : Type*} (emits : Event State Op Out → List α)
    (clears : Event State Op Out → Bool) (history : List (Event State Op Out))
    (event : Event State Op Out) :
    collect emits clears (history ++ [event]) =
      if clears event then [] else collect emits clears history ++ emits event := by
  simp [collect]

theorem exists_of_mem_collect {α : Type*} {emits : Event State Op Out → List α}
    {clears : Event State Op Out → Bool} {history : List (Event State Op Out)} {item : α}
    (member : item ∈ collect emits clears history) :
    ∃ event ∈ history, item ∈ emits event := by
  induction history using List.reverseRecOn with
  | nil => simp at member
  | append_singleton history event ih =>
      rw [collect_snoc] at member
      split at member
      next => simp at member
      next =>
        rcases List.mem_append.mp member with earlier | last
        · rcases ih earlier with ⟨found, inHistory, emitted⟩
          exact ⟨found, List.mem_append_left _ inHistory, emitted⟩
        · exact ⟨event, by simp, last⟩

variable {step : Step State Op Out Fault} {start : State}

/-- Invariant rule: what holds at the start and is kept by every step that
returns holds at the end of every run. -/
theorem Run.invariant {inv : State → Prop} (initial : inv start)
    (preserved : ∀ state op out next,
      inv state → step state op = .ok (out, next) → inv next)
    {history : List (Event State Op Out)} {state : State}
    (run : Run step start history state) : inv state := by
  induction run with
  | nil => exact initial
  | snoc _ taken ih => exact preserved _ _ _ _ ih taken

/-- Every event of a run is a step of the system. -/
theorem Run.event_step {history : List (Event State Op Out)} {state : State}
    (run : Run step start history state) {event : Event State Op Out}
    (member : event ∈ history) :
    step event.before event.op = .ok (event.out, event.after) := by
  induction run with
  | nil => simp at member
  | snoc _ taken ih =>
      rcases List.mem_append.mp member with earlier | last
      · exact ih earlier
      · rw [List.mem_singleton] at last
        subst last
        exact taken

/-- A run can be cut before any of its events. -/
theorem Run.split {history : List (Event State Op Out)} {state : State}
    (run : Run step start history state) {event : Event State Op Out}
    (member : event ∈ history) :
    ∃ earlier later, history = earlier ++ event :: later ∧
      Run step start earlier event.before := by
  induction run with
  | nil => simp at member
  | @snoc history state next op out run taken ih =>
      rcases List.mem_append.mp member with earlier | last
      · rcases ih earlier with ⟨before, after, rfl, cut⟩
        exact ⟨before, after ++ [⟨state, op, out, next⟩], by simp, cut⟩
      · rw [List.mem_singleton] at last
        subst last
        exact ⟨history, [], rfl, run⟩

/-- A run can be divided at any of its events: it reaches the state after it, and goes
on from the state before it. -/
theorem Run.divide {earlier later : List (Event State Op Out)} {event : Event State Op Out}
    {state : State} (run : Run step start (earlier ++ event :: later) state) :
    Run step start (earlier ++ [event]) event.after ∧
      Run step event.before (event :: later) state := by
  generalize historyEq : earlier ++ event :: later = history at run
  induction run generalizing later with
  | nil => simp at historyEq
  | @snoc history state next op out run taken ih =>
      rcases List.eq_nil_or_concat later with rfl | ⟨later, last, rfl⟩
      · rcases List.append_inj' historyEq rfl with ⟨rfl, eventEq⟩
        obtain rfl := List.singleton_inj.mp eventEq
        exact ⟨run.snoc taken, Run.nil.snoc taken⟩
      · rw [List.concat_eq_append, ← List.cons_append, ← List.append_assoc] at historyEq
        rcases List.append_inj' historyEq rfl with ⟨shorterEq, lastEq⟩
        obtain rfl := List.singleton_inj.mp lastEq
        rcases ih shorterEq with ⟨front, rest⟩
        rw [List.concat_eq_append, ← List.cons_append]
        exact ⟨front, rest.snoc taken⟩

/-- A run can be cut after any of its events. -/
theorem Run.cut {earlier later : List (Event State Op Out)} {event : Event State Op Out}
    {state : State} (run : Run step start (earlier ++ event :: later) state) :
    Run step start (earlier ++ [event]) event.after :=
  run.divide.1

/-- The rest of a run, from any of its events on, is a run from the state before it. -/
theorem Run.from_event {earlier later : List (Event State Op Out)}
    {event : Event State Op Out} {state : State}
    (run : Run step start (earlier ++ event :: later) state) :
    Run step event.before (event :: later) state :=
  run.divide.2

/-- A run from the end of another one continues it. -/
theorem Run.append {earlier later : List (Event State Op Out)} {middle final : State}
    (run : Run step start earlier middle) (rest : Run step middle later final) :
    Run step start (earlier ++ later) final := by
  induction rest with
  | nil => simpa using run
  | snoc _ taken ih =>
      rw [← List.append_assoc]
      exact ih.snoc taken

theorem Run.of_nil {state : State} (run : Run step start [] state) : state = start := by
  generalize historyEq : ([] : List (Event State Op Out)) = history at run
  cases run with
  | nil => rfl
  | snoc => simp at historyEq

/-- The first event of a run is a step from its start. -/
theorem Run.of_cons {event : Event State Op Out} {later : List (Event State Op Out)}
    {state : State} (run : Run step start (event :: later) state) :
    event.before = start ∧ step start event.op = .ok (event.out, event.after) ∧
      Run step event.after later state := by
  generalize historyEq : event :: later = history at run
  induction run generalizing later with
  | nil => simp at historyEq
  | @snoc history state next op out run taken ih =>
      cases history with
      | nil =>
          rw [List.nil_append] at historyEq
          cases historyEq
          obtain rfl := run.of_nil
          exact ⟨rfl, taken, .nil⟩
      | cons first rest =>
          cases historyEq
          rcases ih rfl with ⟨same, head, tail⟩
          exact ⟨same, head, tail.snoc taken⟩

/-- The last event of a run is a step from the end of the run before it. -/
theorem Run.of_snoc {earlier : List (Event State Op Out)} {event : Event State Op Out}
    {state : State} (run : Run step start (earlier ++ [event]) state) :
    Run step start earlier event.before ∧
      step event.before event.op = .ok (event.out, event.after) := by
  generalize historyEq : earlier ++ [event] = history at run
  cases run with
  | nil => simp at historyEq
  | snoc run taken =>
      rcases List.append_inj' historyEq rfl with ⟨rfl, eventEq⟩
      obtain rfl := List.singleton_inj.mp eventEq
      exact ⟨run, taken⟩

/-- Exactness rule: when a step from an exact state ends in an exact state exactly
under `condition`, a run stays exact exactly when all its events meet it. -/
theorem Run.forall_after_iff {inv exact : State → Prop}
    {condition : Event State Op Out → Prop} (initial : inv start) (exactStart : exact start)
    (preserved : ∀ state op out next,
      inv state → step state op = .ok (out, next) → inv next)
    (decided : ∀ state op out next, inv state → exact state →
      step state op = .ok (out, next) → (exact next ↔ condition ⟨state, op, out, next⟩))
    {history : List (Event State Op Out)} {state : State}
    (run : Run step start history state) :
    (∀ event ∈ history, exact event.after) ↔ ∀ event ∈ history, condition event := by
  have current : ∀ {history : List (Event State Op Out)} {state : State},
      Run step start history state → (∀ event ∈ history, exact event.after) → exact state := by
    intro history state run every
    cases run with
    | nil => exact exactStart
    | snoc => exact every _ (List.mem_append_right _ (List.mem_singleton_self _))
  induction run with
  | nil => simp
  | @snoc history state next op out run taken ih =>
      have known : inv state := run.invariant initial preserved
      simp only [List.forall_mem_append, List.forall_mem_singleton, ← ih]
      refine and_congr_right fun every => ?_
      exact decided state op out next known (current run every) taken

theorem exec_append (state : State) (first second : List Op) :
    exec step state (first ++ second) =
      (exec step state first).bind fun middle => exec step middle second := by
  induction first generalizing state with
  | nil => rfl
  | cons op ops ih =>
      simp only [List.cons_append, exec]
      cases step state op with
      | error fault => rfl
      | ok taken => exact ih taken.2

/-- An execution through `op` returns exactly when the part before it, the
step itself and the part after it do. -/
theorem exec_split_eq_ok {state final : State} {earlier later : List Op} {op : Op} :
    exec step state (earlier ++ op :: later) = .ok final ↔
      ∃ middle out next, exec step state earlier = .ok middle ∧
        step middle op = .ok (out, next) ∧ exec step next later = .ok final := by
  rw [exec_append]
  cases exec step state earlier with
  | error fault => simp [Except.bind]
  | ok middle =>
      simp only [Except.bind, exec, Except.ok.injEq]
      cases taken : step middle op with
      | error fault => simp [taken]
      | ok result =>
          rcases result with ⟨out, next⟩
          simp [taken]

/-- An execution that faults does so at one of its operations. -/
theorem exec_eq_error {state : State} {ops : List Op} {fault : Fault}
    (faulted : exec step state ops = .error fault) :
    ∃ earlier op later middle, ops = earlier ++ op :: later ∧
      exec step state earlier = .ok middle ∧ step middle op = .error fault := by
  induction ops generalizing state with
  | nil => simp [exec] at faulted
  | cons op ops ih =>
      rw [exec] at faulted
      cases taken : step state op with
      | error other =>
          simp only [taken] at faulted
          cases faulted
          exact ⟨[], op, ops, state, rfl, rfl, taken⟩
      | ok result =>
          simp only [taken] at faulted
          rcases ih faulted with ⟨earlier, last, later, middle, rfl, before, failed⟩
          exact ⟨op :: earlier, last, later, middle, rfl, by simp [exec, taken, before],
            failed⟩

/-- Invariant rule for executions; the invariant may refer to the operations
executed so far. -/
theorem exec_invariant {inv : List Op → State → Prop} (initial : inv [] start)
    (preserved : ∀ ops state op out next, inv ops state →
      step state op = .ok (out, next) → inv (ops ++ [op]) next)
    {ops : List Op} {final : State} (executed : exec step start ops = .ok final) :
    inv ops final := by
  induction ops using List.reverseRecOn generalizing final with
  | nil =>
      obtain rfl : start = final := by simpa [exec] using executed
      exact initial
  | append_singleton ops last ih =>
      rcases exec_split_eq_ok.mp executed with ⟨middle, out, next, before, taken, rest⟩
      obtain rfl : next = final := by simpa [exec] using rest
      exact preserved _ _ _ _ _ (ih before) taken

/-- An execution that returns is a run over the same operations. -/
theorem run_of_exec {ops : List Op} {final : State}
    (executed : exec step start ops = .ok final) :
    ∃ history, Run step start history final ∧ history.map Event.op = ops := by
  induction ops using List.reverseRecOn generalizing final with
  | nil =>
      obtain rfl : start = final := by simpa [exec] using executed
      exact ⟨[], .nil, rfl⟩
  | append_singleton ops last ih =>
      rcases exec_split_eq_ok.mp executed with ⟨middle, out, next, before, taken, rest⟩
      obtain rfl : next = final := by simpa [exec] using rest
      rcases ih before with ⟨history, run, opsEq⟩
      exact ⟨_, run.snoc taken, by simp [opsEq]⟩

/-- An execution that ends in a state passing a test is a run to such a state. -/
theorem exists_run_of_any (step : Step State Op Out Fault) (start : State) (ops : List Op)
    (test : State → Bool)
    (passes : (exec step start ops).toOption.any test = true) :
    ∃ history final, Run step start history final ∧ history.map Event.op = ops ∧
      test final = true := by
  rcases Checked.exists_of_any passes with ⟨final, executed, passes⟩
  rcases run_of_exec executed with ⟨history, run, opsEq⟩
  exact ⟨history, final, run, opsEq, passes⟩

/-- The events of executing a list of operations, with the final state. -/
def trace (step : Step State Op Out Fault) (state : State) :
    List Op → Except Fault (List (Event State Op Out) × State)
  | [] => .ok ([], state)
  | op :: ops =>
      match step state op with
      | .ok (out, next) =>
          match trace step next ops with
          | .ok (history, final) => .ok (⟨state, op, out, next⟩ :: history, final)
          | .error fault => .error fault
      | .error fault => .error fault

/-- A trace continues a run. -/
theorem Run.append_trace {past later : List (Event State Op Out)} {state final : State}
    {ops : List Op} (run : Run step start past state)
    (traced : trace step state ops = .ok (later, final)) :
    Run step start (past ++ later) final ∧ later.map Event.op = ops := by
  induction ops generalizing past later state with
  | nil =>
      cases traced
      exact ⟨by simpa using run, rfl⟩
  | cons op ops ih =>
      rw [trace] at traced
      cases taken : step state op with
      | error fault => simp [taken] at traced
      | ok result =>
          rcases result with ⟨out, next⟩
          cases rest : trace step next ops with
          | error fault => simp [taken, rest] at traced
          | ok remaining =>
              rcases remaining with ⟨history, last⟩
              simp only [taken, rest, Except.ok.injEq, Prod.mk.injEq] at traced
              rcases traced with ⟨rfl, rfl⟩
              rcases ih (run.snoc taken) rest with ⟨continued, opsEq⟩
              exact ⟨by simpa using continued, by simp [opsEq]⟩

/-- A trace that passes a test is a run that does. -/
theorem exists_run_of_trace (step : Step State Op Out Fault) (start : State) (ops : List Op)
    (test : List (Event State Op Out) → State → Bool)
    (passes : (trace step start ops).toOption.any (fun result => test result.1 result.2) =
      true) :
    ∃ history final, Run step start history final ∧ history.map Event.op = ops ∧
      test history final = true := by
  rcases Checked.exists_of_any passes with ⟨⟨history, final⟩, traced, passes⟩
  rcases Run.nil.append_trace traced with ⟨run, opsEq⟩
  exact ⟨history, final, run, opsEq, passes⟩

/-- A run is an execution of its operations. -/
theorem Run.exec_eq {history : List (Event State Op Out)} {state : State}
    (run : Run step start history state) :
    exec step start (history.map Event.op) = .ok state := by
  induction run with
  | nil => rfl
  | snoc _ taken ih =>
      rw [List.map_append, List.map_singleton]
      exact exec_split_eq_ok.mpr ⟨_, _, _, ih, taken, rfl⟩

/-- Progress rule: when every step returns exactly under `good`, an execution
returns exactly when `good` holds at each of its steps. -/
theorem exec_returns_iff (inv : List Op → State → Prop)
    (good : List Op → State → Op → Prop) (initial : inv [] start)
    (preserved : ∀ ops state op out next, inv ops state →
      step state op = .ok (out, next) → inv (ops ++ [op]) next)
    (progress : ∀ ops state op, inv ops state →
      ((∃ taken, step state op = .ok taken) ↔ good ops state op))
    (ops : List Op) :
    (∃ final, exec step start ops = .ok final) ↔
      ∀ earlier op later state, ops = earlier ++ op :: later →
        exec step start earlier = .ok state → good earlier state op := by
  constructor
  · rintro ⟨final, executed⟩ earlier op later state rfl reached
    rcases exec_split_eq_ok.mp executed with ⟨middle, out, next, before, taken, _⟩
    obtain rfl : middle = state := by simpa [before] using reached
    exact (progress earlier middle op (exec_invariant initial preserved before)).mp
      ⟨_, taken⟩
  · intro every
    induction ops using List.reverseRecOn with
    | nil => exact ⟨start, rfl⟩
    | append_singleton ops last ih =>
        obtain ⟨middle, before⟩ := ih fun earlier op later state split reached =>
          every earlier op (later ++ [last]) state (by simp [split]) reached
        have allowed := every ops last [] middle rfl before
        obtain ⟨⟨out, next⟩, taken⟩ :=
          (progress ops middle last (exec_invariant initial preserved before)).mpr allowed
        exact ⟨next, exec_split_eq_ok.mpr ⟨middle, out, next, before, taken, rfl⟩⟩

end FallibleRun
