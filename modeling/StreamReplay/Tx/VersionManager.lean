import StreamReplay.Foundation.Run

/-!
# The version manager

`VersionManager` of `tx/src/version_manager.rs`: the segments of a video in
several encoded versions, played slot by slot.  The version may be switched at
any time; the switch takes effect with the next segment.

The fields of the configuration that no function reads are left out.
-/

namespace StreamReplay

open Checked FallibleRun

namespace VersionManager

structure FileEntry where
  path : String

structure Version where
  bitrateBps : UInt64
  files : List FileEntry

structure Config where
  bitratesBps : List UInt64
  slots : Nat
  versions : List Version

end VersionManager

structure VersionManager where
  cfg : VersionManager.Config
  currentVersion : UInt32
  actualBitrate : UInt64
  currentBitrate : UInt64
  currentSlot : UInt32

/-- What is done to a version manager under its lock. -/
inductive VersionOp where
  | setVersion (versionIndex : UInt32)
  | getBitrate
  | next
  deriving DecidableEq

/-- What a call on a version manager returns. -/
inductive VersionReply where
  | done
  | bitrate (bitrate : UInt64)
  | path (path : String)
  deriving DecidableEq

namespace VersionManager

def initialVersion : UInt32 := 10

/-- The manager of the configuration that was read from the file. -/
def new (cfg : Config) : Except Panic VersionManager := do
  let bitrate ← index cfg.bitratesBps initialVersion.toNat
  return {
    cfg
    currentVersion := initialVersion
    currentBitrate := bitrate
    actualBitrate := bitrate
    currentSlot := 0 }

/-- `slots as u32` keeps the low 32 bits. -/
def Config.slots32 (cfg : Config) : UInt32 := UInt32.ofNat cfg.slots

def next (manager : VersionManager) : Except Panic (String × VersionManager) := do
  let slot := manager.currentSlot.toNat
  let currentSlot ← add32 manager.currentSlot 1
  let currentSlot := if currentSlot ≥ manager.cfg.slots32 then 0 else currentSlot
  let actualBitrate ← index manager.cfg.bitratesBps manager.currentVersion.toNat
  let version ← index manager.cfg.versions manager.currentVersion.toNat
  let file ← index version.files slot
  return (file.path, { manager with currentSlot, actualBitrate })

def setVersion (manager : VersionManager) (versionIndex : UInt32) : VersionManager :=
  if below : versionIndex.toNat < manager.cfg.versions.length then
    { manager with
      currentVersion := versionIndex
      currentBitrate := manager.cfg.versions[versionIndex.toNat].bitrateBps }
  else manager

def getBitrate (manager : VersionManager) : UInt64 := manager.actualBitrate

def step : Step VersionManager VersionOp VersionReply Panic
  | manager, .setVersion versionIndex => .ok (.done, manager.setVersion versionIndex)
  | manager, .getBitrate => .ok (.bitrate manager.getBitrate, manager)
  | manager, .next => do
      let (path, manager) ← manager.next
      return (.path path, manager)

/-! ## The history of calls -/

/-- The slots a manager goes through before it starts over. -/
def Config.period (cfg : Config) : Nat := max 1 cfg.slots32.toNat

/-- The version that a call selects, if it is one of the configuration's. -/
def Config.accepted (cfg : Config) : VersionOp → Option UInt32
  | .setVersion versionIndex =>
      if versionIndex.toNat < cfg.versions.length then some versionIndex else none
  | _ => none

/-- The version selected by a sequence of calls, the initial one if there is none. -/
def Config.selected (cfg : Config) (ops : List VersionOp) : UInt32 :=
  (ops.filterMap cfg.accepted).getLast?.getD initialVersion

theorem Config.selected_snoc (cfg : Config) (ops : List VersionOp) (op : VersionOp) :
    cfg.selected (ops ++ [op]) = (cfg.accepted op).getD (cfg.selected ops) := by
  unfold selected
  cases chosen : cfg.accepted op with
  | none => simp [chosen]
  | some versionIndex => simp [chosen]

/-- The manager's state as a function of the calls made so far.  The bitrate was
read by the last `next`, for the version selected before it. -/
structure Tracks (cfg : Config) (ops : List VersionOp) (manager : VersionManager) :
    Prop where
  cfg_eq : manager.cfg = cfg
  version_eq : manager.currentVersion = cfg.selected ops
  slot_eq : manager.currentSlot.toNat = ops.count .next % cfg.period
  bitrate_eq : ∀ earlier later, ops = earlier ++ .next :: later → .next ∉ later →
    cfg.bitratesBps[(cfg.selected earlier).toNat]? = some manager.actualBitrate

theorem Tracks.initial {cfg : Config} {manager : VersionManager}
    (created : new cfg = .ok manager) : Tracks cfg [] manager := by
  rcases bind_eq_ok.mp created with ⟨bitrate, _, equal⟩
  cases equal
  exact ⟨rfl, rfl, by simp, by simp⟩

/-! ## One call -/

theorem setVersion_eq (manager : VersionManager) (versionIndex : UInt32) :
    ∃ currentBitrate, manager.setVersion versionIndex = { manager with
      currentVersion :=
        (manager.cfg.accepted (.setVersion versionIndex)).getD manager.currentVersion
      currentBitrate } := by
  unfold setVersion Config.accepted
  by_cases below : versionIndex.toNat < manager.cfg.versions.length
  · simp only [dif_pos below, if_pos below, Option.getD_some]
    exact ⟨_, rfl⟩
  · simp only [dif_neg below, if_neg below, Option.getD_none]
    exact ⟨_, rfl⟩

/-- The slot after `slot`; the counter cannot overflow below the period. -/
theorem advance_eq_ok {cfg : Config} {slot : UInt32} (below : slot.toNat < cfg.period) :
    ∃ advanced, add32 slot 1 = .ok advanced ∧
      (if advanced ≥ cfg.slots32 then 0 else advanced).toNat =
        (slot.toNat + 1) % cfg.period := by
  have bound : cfg.slots32.toNat < 2 ^ 32 := cfg.slots32.toNat_lt
  have fits : slot.toNat + (1 : UInt32).toNat < 2 ^ 32 := by
    have : (1 : UInt32).toNat = 1 := rfl
    unfold Config.period at below
    omega
  have sum := add32_eq_ok.mpr ⟨fits, rfl⟩
  have sumNat : (slot + 1).toNat = slot.toNat + 1 := toNat_of_add32 sum
  refine ⟨slot + 1, sum, ?_⟩
  split
  next wraps =>
    have reached : cfg.slots32.toNat ≤ slot.toNat + 1 := by
      rw [← sumNat]
      exact UInt32.le_iff_toNat_le.mp wraps
    have last : slot.toNat + 1 = cfg.period := by
      unfold Config.period at below ⊢
      omega
    rw [last, Nat.mod_self]
    rfl
  next stays =>
    have short : slot.toNat + 1 < cfg.slots32.toNat := by
      rw [← sumNat]
      exact UInt32.lt_iff_toNat_lt.mp (UInt32.not_le.mp stays)
    have inside : slot.toNat + 1 < cfg.period := lt_max_of_lt_right short
    rw [sumNat, Nat.mod_eq_of_lt inside]

/-- What `next` does, below the period: three look-ups, and the slot advances. -/
theorem next_eq {manager : VersionManager}
    (below : manager.currentSlot.toNat < manager.cfg.period) :
    ∃ advanced : UInt32,
      advanced.toNat = (manager.currentSlot.toNat + 1) % manager.cfg.period ∧
      manager.next = do
        let actualBitrate ← index manager.cfg.bitratesBps manager.currentVersion.toNat
        let version ← index manager.cfg.versions manager.currentVersion.toNat
        let file ← index version.files manager.currentSlot.toNat
        return (file.path, { manager with currentSlot := advanced, actualBitrate }) := by
  rcases advance_eq_ok below with ⟨advanced, sum, wrapped⟩
  refine ⟨_, wrapped, ?_⟩
  simp only [next, sum, ok_bind]

theorem next_eq_ok {manager after : VersionManager} {path : String}
    (below : manager.currentSlot.toNat < manager.cfg.period)
    (returned : manager.next = .ok (path, after)) :
    ∃ bitrate version file,
      manager.cfg.bitratesBps[manager.currentVersion.toNat]? = some bitrate ∧
      manager.cfg.versions[manager.currentVersion.toNat]? = some version ∧
      version.files[manager.currentSlot.toNat]? = some file ∧
      path = file.path ∧ after.cfg = manager.cfg ∧
      after.currentVersion = manager.currentVersion ∧ after.actualBitrate = bitrate ∧
      after.currentSlot.toNat = (manager.currentSlot.toNat + 1) % manager.cfg.period := by
  rcases next_eq below with ⟨advanced, wrapped, nextEq⟩
  rw [nextEq] at returned
  rcases bind_eq_ok.mp returned with ⟨bitrate, bitrateFound, returned⟩
  rcases bind_eq_ok.mp returned with ⟨version, versionFound, returned⟩
  rcases bind_eq_ok.mp returned with ⟨file, fileFound, equal⟩
  cases equal
  exact ⟨bitrate, version, file, index_eq_ok.mp bitrateFound, index_eq_ok.mp versionFound,
    index_eq_ok.mp fileFound, rfl, rfl, rfl, rfl, wrapped⟩

theorem period_pos (cfg : Config) : 0 < cfg.period := lt_max_of_lt_left Nat.one_pos

theorem Tracks.slot_lt {cfg : Config} {ops : List VersionOp} {manager : VersionManager}
    (tracks : Tracks cfg ops manager) : manager.currentSlot.toNat < manager.cfg.period := by
  rw [tracks.slot_eq, tracks.cfg_eq]
  exact Nat.mod_lt _ (period_pos cfg)

/-- A call other than `next` leaves what the last `next` read. -/
theorem last_next_snoc {ops earlier later : List VersionOp} {op : VersionOp}
    (notNext : op ≠ .next) (split : ops ++ [op] = earlier ++ .next :: later)
    (noNext : .next ∉ later) :
    ∃ shorter, ops = earlier ++ .next :: shorter ∧ .next ∉ shorter := by
  rcases List.eq_nil_or_concat later with rfl | ⟨shorter, last, rfl⟩
  · rcases List.append_inj' split rfl with ⟨_, lastEq⟩
    exact absurd (List.singleton_inj.mp lastEq) notNext
  · rw [List.concat_eq_append, ← List.cons_append, ← List.append_assoc] at split
    rcases List.append_inj' split rfl with ⟨shorterEq, _⟩
    refine ⟨shorter, shorterEq, fun member => noNext ?_⟩
    simp [member]

/-- Behind a call other than `next` the bitrate is still that of the last `next`. -/
theorem Tracks.bitrate_snoc {cfg : Config} {ops : List VersionOp} {op : VersionOp}
    {manager : VersionManager} (tracks : Tracks cfg ops manager) (notNext : op ≠ .next)
    (earlier later : List VersionOp) (split : ops ++ [op] = earlier ++ .next :: later)
    (noNext : .next ∉ later) :
    cfg.bitratesBps[(cfg.selected earlier).toNat]? = some manager.actualBitrate := by
  rcases last_next_snoc notNext split noNext with ⟨shorter, opsEq, absent⟩
  exact tracks.bitrate_eq earlier shorter opsEq absent

/-- Every call keeps the state a function of the history. -/
theorem Tracks.of_step {cfg : Config} {ops : List VersionOp} {op : VersionOp}
    {manager after : VersionManager} {reply : VersionReply}
    (tracks : Tracks cfg ops manager) (taken : manager.step op = .ok (reply, after)) :
    Tracks cfg (ops ++ [op]) after := by
  cases op with
  | setVersion versionIndex =>
      cases taken
      rcases setVersion_eq manager versionIndex with ⟨currentBitrate, equal⟩
      rw [equal]
      refine ⟨tracks.cfg_eq, ?_, ?_, ?_⟩
      · simp only [cfg.selected_snoc, tracks.cfg_eq, tracks.version_eq]
      · simpa using tracks.slot_eq
      · exact tracks.bitrate_snoc (by simp)
  | getBitrate =>
      cases taken
      refine ⟨tracks.cfg_eq, ?_, ?_, ?_⟩
      · simpa [cfg.selected_snoc, Config.accepted] using tracks.version_eq
      · simpa using tracks.slot_eq
      · exact tracks.bitrate_snoc (by simp)
  | next =>
      rcases bind_eq_ok.mp taken with ⟨⟨path, manager'⟩, returned, equal⟩
      cases equal
      rcases next_eq_ok tracks.slot_lt returned with
        ⟨bitrate, _, _, found, _, _, _, cfgEq, versionEq, bitrateEq, slotEq⟩
      refine ⟨cfgEq.trans tracks.cfg_eq, ?_, ?_, ?_⟩
      · simpa [cfg.selected_snoc, Config.accepted, versionEq] using tracks.version_eq
      · rw [slotEq, tracks.slot_eq, tracks.cfg_eq]
        simp [Nat.add_mod]
      · intro earlier later split noNext
        rcases List.eq_nil_or_concat later with rfl | ⟨shorter, last, rfl⟩
        · rcases List.append_inj' split rfl with ⟨rfl, _⟩
          rw [bitrateEq, ← tracks.version_eq, ← tracks.cfg_eq]
          exact found
        · rw [List.concat_eq_append, ← List.cons_append, ← List.append_assoc] at split
          rcases List.append_inj' split rfl with ⟨_, lastEq⟩
          obtain rfl := List.singleton_inj.mp lastEq
          exact absurd (by simp) noNext

theorem Tracks.of_exec {cfg : Config} {manager after : VersionManager}
    (created : new cfg = .ok manager) {ops : List VersionOp}
    (executed : exec step manager ops = .ok after) : Tracks cfg ops after :=
  exec_invariant (Tracks.initial created) (fun _ _ _ _ _ tracks taken => tracks.of_step taken)
    executed

end VersionManager

end StreamReplay
