import StreamReplay.Foundation.Enumeration

/-!
# Assignments to the entries of a table

A table of states, and values to be assigned to some of them by key.  The values
are assigned one after the other, up to the first key that is missing or whose
assignment fails; what was assigned before stays.  Where nothing fails, each state
is what the assignment to its own key makes of it.
-/

namespace Enumeration

universe u v w x

variable {κ : Type u} {σ : Type v} {ν : Type w} {ε : Type x}

/-- Change the value of every key. -/
def mapValues (update : κ → σ → ν) (table : Table κ σ) : Table κ ν where
  entries := table.entries.map fun entry => ⟨entry.1, update entry.1 entry.2⟩
  nodupKeys := by
    rw [List.NodupKeys, List.keys, List.map_map]
    exact table.nodupKeys

variable [DecidableEq κ]

@[simp] theorem lookup_mapValues (update : κ → σ → ν) (table : Table κ σ) (key : κ) :
    (mapValues update table).lookup key = (table.lookup key).map (update key) :=
  List.dlookup_map₂ key

/-- Change the value of one key. -/
def adjust (key : κ) (update : σ → σ) (table : Table κ σ) : Table κ σ :=
  mapValues (fun other state => if other = key then update state else state) table

theorem lookup_adjust (key : κ) (update : σ → σ) (table : Table κ σ) (other : κ) :
    (adjust key update table).lookup other =
      (table.lookup other).map fun state => if other = key then update state else state :=
  lookup_mapValues _ table other

theorem lookup_adjust_of_ne {key other : κ} (distinct : other ≠ key) (update : σ → σ)
    (table : Table κ σ) : (adjust key update table).lookup other = table.lookup other := by
  simp [lookup_adjust, distinct]

theorem lookup_adjust_self {key : κ} {table : Table κ σ} {state : σ}
    (found : table.lookup key = some state) (update : σ → σ) :
    (adjust key update table).lookup key = some (update state) := by
  simp [lookup_adjust, found]

/-! ## Assigning entry by entry -/

/-- Assign the values in their order; `missing` is the fault of a missing key. -/
def assignAll (missing : ε) (assign : σ → ν → Except ε Unit × σ) :
    List (Σ _ : κ, ν) → Table κ σ → Except ε Unit × Table κ σ
  | [], table => (.ok (), table)
  | ⟨key, value⟩ :: rest, table =>
      match table.lookup key with
      | none => (.error missing, table)
      | some state =>
          match assign state value with
          | (.ok (), next) => assignAll missing assign rest (adjust key (fun _ => next) table)
          | (.error fault, next) => (.error fault, adjust key (fun _ => next) table)

variable {missing : ε} {assign : σ → ν → Except ε Unit × σ}

/-- The same values under a translation. -/
theorem assignAll_map {ω : Type*} (translate : ω → ν) (entries : List (Σ _ : κ, ω))
    (table : Table κ σ) :
    assignAll missing assign (entries.map fun entry => ⟨entry.1, translate entry.2⟩) table =
      assignAll missing (fun state value => assign state (translate value)) entries table := by
  induction entries generalizing table with
  | nil => rfl
  | cons entry rest ih =>
      rcases entry with ⟨key, value⟩
      simp only [List.map_cons, assignAll, ih]

/-- All assignments return exactly when every key is there and takes its value: no
assignment is in the way of another. -/
theorem assignAll_returns_iff {entries : List (Σ _ : κ, ν)} (distinct : entries.NodupKeys)
    {table : Table κ σ} :
    (assignAll missing assign entries table).1 = .ok () ↔
      ∀ key value, ⟨key, value⟩ ∈ entries →
        ∃ state, table.lookup key = some state ∧ (assign state value).1 = .ok () := by
  induction entries generalizing table with
  | nil => simp [assignAll]
  | cons entry rest ih =>
      rcases entry with ⟨key, value⟩
      rcases List.nodupKeys_cons.mp distinct with ⟨fresh, distinct⟩
      -- The keys of the rest read what they read before this assignment.
      have untouched : ∀ other given, ⟨other, given⟩ ∈ rest → ∀ next,
          (adjust key (fun _ => next) table).lookup other = table.lookup other := by
        intro other given member next
        have known : other ∈ rest.keys := List.mem_keys_of_mem member
        refine lookup_adjust_of_ne ?_ _ table
        rintro rfl
        exact fresh known
      simp only [List.mem_cons, assignAll]
      cases found : table.lookup key with
      | none =>
          refine iff_of_false (by simp) ?_
          intro every
          rcases every key value (.inl rfl) with ⟨state, present, _⟩
          rw [found] at present
          cases present
      | some state =>
          rcases assigned : assign state value with ⟨result, next⟩
          cases result with
          | error fault =>
              refine iff_of_false (by simp [assigned]) ?_
              intro every
              rcases every key value (.inl rfl) with ⟨other, present, returned⟩
              rw [found, Option.some.injEq] at present
              rw [← present, assigned] at returned
              cases returned
          | ok =>
              simp only [assigned]
              rw [ih distinct]
              constructor
              · intro every other given member
                rcases member with equal | member
                · cases equal
                  exact ⟨state, found, by rw [assigned]⟩
                · have here := every other given member
                  rwa [untouched other given member next] at here
              · intro every other given member
                rw [untouched other given member next]
                exact every other given (.inr member)

/-- When all assignments return, each state is what the one to its key makes of it. -/
theorem lookup_assignAll {entries : List (Σ _ : κ, ν)} (distinct : entries.NodupKeys)
    {table : Table κ σ} (returns : (assignAll missing assign entries table).1 = .ok ())
    (key : κ) :
    (assignAll missing assign entries table).2.lookup key =
      (table.lookup key).map fun state =>
        (entries.dlookup key).elim state fun value => (assign state value).2 := by
  induction entries generalizing table with
  | nil => simp [assignAll]
  | cons entry rest ih =>
      rcases entry with ⟨first, value⟩
      rcases List.nodupKeys_cons.mp distinct with ⟨fresh, distinct⟩
      unfold assignAll at returns ⊢
      cases found : table.lookup first with
      | none =>
          rw [found] at returns
          cases returns
      | some state =>
          rw [found] at returns
          rcases assigned : assign state value with ⟨result, next⟩
          simp only [assigned] at returns ⊢
          cases result with
          | error fault => cases returns
          | ok =>
              rw [ih distinct returns]
              by_cases same : key = first
              · subst same
                rw [lookup_adjust_self found, found, List.dlookup_cons_eq,
                  List.dlookup_eq_none.mpr fresh]
                simp [assigned]
              · rw [lookup_adjust_of_ne same, List.dlookup_cons_ne _ _ same]

/-! ## Visiting state by state -/

/-- Visit the states in the order of their enumeration; a visit may fail. -/
def visitAll (missing : ε) (visit : κ → σ → Except ε Unit × σ) (table : Table κ σ) :
    Except ε Unit × Table κ σ :=
  assignAll missing (fun state key => visit key state) (mapValues (fun key _ => key) table).entries
    table

variable {visit : κ → σ → Except ε Unit × σ}

theorem visitAll_returns_iff {table : Table κ σ} :
    (visitAll missing visit table).1 = .ok () ↔
      ∀ key state, table.lookup key = some state → (visit key state).1 = .ok () := by
  rw [visitAll, assignAll_returns_iff (mapValues (fun key _ => key) table).nodupKeys]
  simp only [← AList.mem_lookup_iff, lookup_mapValues, Option.mem_def, Option.map_eq_some_iff]
  constructor
  · intro every key state found
    rcases every key key ⟨state, found, rfl⟩ with ⟨other, same, returned⟩
    rw [found, Option.some.injEq] at same
    rwa [same]
  · rintro every key _ ⟨state, found, rfl⟩
    exact ⟨state, found, every key state found⟩

/-- When all visits return, each state is what its visit makes of it. -/
theorem lookup_visitAll {table : Table κ σ} (returns : (visitAll missing visit table).1 = .ok ())
    (key : κ) :
    (visitAll missing visit table).2.lookup key =
      (table.lookup key).map fun state => (visit key state).2 := by
  have own : (mapValues (fun key _ => key) table).entries.dlookup key =
      (table.lookup key).map fun _ => key := lookup_mapValues _ table key
  rw [visitAll, lookup_assignAll (mapValues (fun key _ => key) table).nodupKeys returns, own]
  cases table.lookup key <;> rfl

/-! ## Up to the first failure -/

/-- The key of the entry is there and takes its value. -/
def Takes (assign : σ → ν → Except ε Unit × σ) (table : Table κ σ) (entry : Σ _ : κ, ν) :
    Bool :=
  (table.lookup entry.1).any fun state => (assign state entry.2).1.isOk

/-- The entries that are assigned. -/
def carried (assign : σ → ν → Except ε Unit × σ) (table : Table κ σ)
    (entries : List (Σ _ : κ, ν)) : List (Σ _ : κ, ν) :=
  entries.takeWhile (Takes assign table)

/-- Other keys take their values as before. -/
theorem carried_adjust (assign : σ → ν → Except ε Unit × σ) {key : κ}
    {entries : List (Σ _ : κ, ν)} (fresh : key ∉ entries.keys) (update : σ → σ)
    (table : Table κ σ) :
    carried assign (adjust key update table) entries = carried assign table entries := by
  induction entries with
  | nil => rfl
  | cons entry rest ih =>
      simp only [List.keys_cons, List.mem_cons, not_or] at fresh
      have same : Takes assign (adjust key update table) entry = Takes assign table entry := by
        rw [Takes, lookup_adjust_of_ne (Ne.symm fresh.1), Takes]
      simp only [carried] at ih ⊢
      rw [List.takeWhile_cons, List.takeWhile_cons, same, ih fresh.2]

theorem lookup_assignAll_of_not_mem {entries : List (Σ _ : κ, ν)} {key : κ}
    (fresh : key ∉ entries.keys) (table : Table κ σ) :
    (assignAll missing assign entries table).2.lookup key = table.lookup key := by
  induction entries generalizing table with
  | nil => rfl
  | cons entry rest ih =>
      rcases entry with ⟨first, value⟩
      simp only [List.keys_cons, List.mem_cons, not_or] at fresh
      unfold assignAll
      split
      · rfl
      · split
        · rw [ih fresh.2, lookup_adjust_of_ne fresh.1]
        · rw [lookup_adjust_of_ne fresh.1]

/-- A missing key stays missing. -/
theorem lookup_assignAll_eq_none {entries : List (Σ _ : κ, ν)} {table : Table κ σ} {key : κ}
    (absent : table.lookup key = none) :
    (assignAll missing assign entries table).2.lookup key = none := by
  induction entries generalizing table with
  | nil => exact absent
  | cons entry rest ih =>
      rcases entry with ⟨first, value⟩
      have stays : ∀ update, (adjust first update table).lookup key = none := by
        intro update
        rw [lookup_adjust, absent, Option.map_none]
      unfold assignAll
      split
      · exact absent
      · split
        · exact ih (stays _)
        · exact stays _

/-- A state is what the assignment to its key makes of it, if it is reached.  Otherwise it
stays as it is, or is what the one that fails leaves of it. -/
theorem lookup_assignAll_cases (missing : ε) (assign : σ → ν → Except ε Unit × σ)
    {entries : List (Σ _ : κ, ν)} (distinct : entries.NodupKeys) {table : Table κ σ} {key : κ}
    {state : σ} (found : table.lookup key = some state) :
    ∃ next, (assignAll missing assign entries table).2.lookup key = some next ∧
      ((∃ value, (carried assign table entries).dlookup key = some value ∧
          assign state value = (.ok (), next)) ∨
        (carried assign table entries).dlookup key = none ∧
          (next = state ∨ ∃ value fault, assign state value = (.error fault, next))) := by
  induction entries generalizing table with
  | nil => exact ⟨state, found, .inr ⟨rfl, .inl rfl⟩⟩
  | cons entry rest ih =>
      rcases entry with ⟨first, value⟩
      rcases List.nodupKeys_cons.mp distinct with ⟨fresh, distinct⟩
      unfold assignAll carried
      cases present : table.lookup first with
      | none =>
          rw [List.takeWhile_cons_of_neg (by simp [Takes, present])]
          exact ⟨state, found, .inr ⟨rfl, .inl rfl⟩⟩
      | some other =>
          rcases assigned : assign other value with ⟨result, next⟩
          cases result with
          | error fault =>
              rw [List.takeWhile_cons_of_neg
                (by simp [Takes, present, assigned, Except.isOk, Except.toBool])]
              simp only [assigned]
              by_cases same : key = first
              · subst same
                cases present.symm.trans found
                exact ⟨next, lookup_adjust_self found _,
                  .inr ⟨rfl, .inr ⟨value, fault, assigned⟩⟩⟩
              · exact ⟨state, (lookup_adjust_of_ne same _ _).trans found,
                  .inr ⟨rfl, .inl rfl⟩⟩
          | ok =>
              rw [List.takeWhile_cons_of_pos
                (by simp [Takes, present, assigned, Except.isOk, Except.toBool])]
              simp only [assigned]
              by_cases same : key = first
              · subst same
                cases present.symm.trans found
                rw [lookup_assignAll_of_not_mem fresh, lookup_adjust_self found]
                exact ⟨next, rfl, .inl ⟨value, List.dlookup_cons_eq .., assigned⟩⟩
              · rw [List.dlookup_cons_ne _ _ same, ← carried,
                  ← carried_adjust assign fresh (fun _ => next)]
                exact ih distinct ((lookup_adjust_of_ne same _ _).trans found)

end Enumeration
