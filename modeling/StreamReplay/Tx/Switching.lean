import StreamReplay.Tx.VersionManager

/-!
# Switching versions during playback

The version selected by the calls so far and the slot reached by them determine
which segment comes next.  `set_version` guards only the list of versions, and
the initial version passes no guard at all, so playback needs more of the
configuration than the code checks.
-/

namespace StreamReplay

open Checked FallibleRun

namespace VersionManager

/-! ## When the next segment can be served -/

theorem Tracks.next_returns_iff {cfg : Config} {ops : List VersionOp}
    {manager : VersionManager} (tracks : Tracks cfg ops manager) :
    (∃ taken, manager.step .next = .ok taken) ↔
      (cfg.selected ops).toNat < cfg.bitratesBps.length ∧
        ∃ version, cfg.versions[(cfg.selected ops).toNat]? = some version ∧
          ops.count .next % cfg.period < version.files.length := by
  constructor
  · rintro ⟨taken, stepped⟩
    rcases bind_eq_ok.mp stepped with ⟨⟨path, after⟩, returned, _⟩
    rcases next_eq_ok tracks.slot_lt returned with
      ⟨bitrate, version, file, bitrateFound, versionFound, fileFound, _⟩
    rw [tracks.cfg_eq, tracks.version_eq] at bitrateFound versionFound
    rw [tracks.slot_eq] at fileFound
    exact ⟨lt_length_of_index (index_eq_ok.mpr bitrateFound), version, versionFound,
      lt_length_of_index (index_eq_ok.mpr fileFound)⟩
  · rintro ⟨bitrateBelow, version, versionFound, fileBelow⟩
    rcases next_eq tracks.slot_lt with ⟨advanced, _, nextEq⟩
    rcases index_of_lt bitrateBelow with ⟨bitrate, bitrateFound⟩
    rcases index_of_lt fileBelow with ⟨file, fileFound⟩
    have versionFound := index_eq_ok.mpr versionFound
    rw [tracks.cfg_eq, tracks.version_eq, tracks.slot_eq] at nextEq
    simp only [step, nextEq, bitrateFound, versionFound, fileFound, ok_bind, pure_eq_ok]
    exact ⟨_, rfl⟩

/-- The only fault of a call is a look-up out of range. -/
theorem Tracks.fault_eq {cfg : Config} {ops : List VersionOp} {op : VersionOp}
    {manager : VersionManager} {fault : Panic} (tracks : Tracks cfg ops manager)
    (faulted : manager.step op = .error fault) : fault = .outOfBounds := by
  cases op with
  | setVersion => cases faulted
  | getBitrate => cases faulted
  | next =>
      rcases next_eq tracks.slot_lt with ⟨advanced, _, nextEq⟩
      simp only [step, nextEq, bind_eq_error, index_eq_error, pure_eq_ok, reduceCtorEq,
        and_false, exists_false, or_false] at faulted
      rcases faulted with (⟨_, rfl⟩ | ⟨bitrate, _, ⟨_, rfl⟩ | ⟨version, _, _, rfl⟩⟩)
      · rfl
      · rfl
      · rfl

/-- The selected version is the initial one or has passed the guard. -/
theorem selected_cases (cfg : Config) (ops : List VersionOp) :
    cfg.selected ops = initialVersion ∨
      (cfg.selected ops).toNat < cfg.versions.length := by
  induction ops using List.reverseRecOn with
  | nil => exact .inl rfl
  | append_singleton ops op ih =>
      rw [cfg.selected_snoc]
      cases chosen : cfg.accepted op with
      | none => exact ih
      | some versionIndex =>
          right
          cases op with
          | getBitrate => simp [Config.accepted] at chosen
          | next => simp [Config.accepted] at chosen
          | setVersion other =>
              simp only [Config.accepted, Option.ite_none_right_eq_some,
                Option.some.injEq] at chosen
              rcases chosen with ⟨below, rfl⟩
              exact below

/-- The initial version exists, and every version that can be selected has a
bitrate and a segment for every slot. -/
def Config.Serves (cfg : Config) : Prop :=
  initialVersion.toNat < cfg.versions.length ∧
    ∀ (versionIndex : UInt32) (below : versionIndex.toNat < cfg.versions.length),
      versionIndex.toNat < cfg.bitratesBps.length ∧
        cfg.period ≤ cfg.versions[versionIndex.toNat].files.length

/-- Under a configuration that serves, every call returns in every reachable state. -/
theorem Config.Serves.step_returns {cfg : Config} (serves : cfg.Serves)
    {ops : List VersionOp} {manager : VersionManager} (tracks : Tracks cfg ops manager)
    (op : VersionOp) : ∃ taken, manager.step op = .ok taken := by
  cases op with
  | setVersion versionIndex => exact ⟨_, rfl⟩
  | getBitrate => exact ⟨_, rfl⟩
  | next =>
      have below : (cfg.selected ops).toNat < cfg.versions.length := by
        rcases selected_cases cfg ops with initial | below
        · rw [initial]
          exact serves.1
        · exact below
      rcases serves.2 _ below with ⟨bitrateBelow, long⟩
      refine tracks.next_returns_iff.mpr ⟨bitrateBelow, _, List.getElem?_eq_getElem below, ?_⟩
      exact lt_of_lt_of_le (Nat.mod_lt _ (period_pos cfg)) long

theorem Config.Serves.exec_returns {cfg : Config} (serves : cfg.Serves)
    {manager : VersionManager} (created : new cfg = .ok manager) (ops : List VersionOp) :
    ∃ final, exec step manager ops = .ok final := by
  refine (exec_returns_iff (Tracks cfg) (fun _ _ _ => True) (.initial created)
    (fun _ _ _ _ _ tracks taken => tracks.of_step taken) ?_ ops).mpr fun _ _ _ _ _ _ =>
      trivial
  intro ops state op tracks
  exact ⟨fun _ => trivial, fun _ => serves.step_returns tracks op⟩

/-- Playback up to `slot` in the current version, then a switch. -/
def switchAt (slot : Nat) (versionIndex : UInt32) : List VersionOp :=
  List.replicate slot .next ++ [.setVersion versionIndex]

theorem count_switchAt (slot : Nat) (versionIndex : UInt32) :
    (switchAt slot versionIndex).count .next = slot := by
  simp [switchAt, List.count_append]

theorem selected_switchAt {cfg : Config} {versionIndex : UInt32}
    (below : versionIndex.toNat < cfg.versions.length) (slot : Nat) :
    cfg.selected (switchAt slot versionIndex) = versionIndex := by
  rw [switchAt, cfg.selected_snoc, Config.accepted, if_pos below, Option.getD_some]

/-- No interleaving of calls looks up out of range exactly when the configuration
serves every slot of every version that can be selected, the initial one included. -/
theorem version_switching_safe_iff {cfg : Config} {manager : VersionManager}
    (created : new cfg = .ok manager) :
    (∀ ops : List VersionOp, exec step manager ops ≠ .error .outOfBounds) ↔
      cfg.Serves := by
  constructor
  · intro safe
    have returns : ∀ ops, ∃ final, exec step manager ops = .ok final := by
      intro ops
      cases executed : exec step manager ops with
      | ok final => exact ⟨final, rfl⟩
      | error fault =>
          rcases exec_eq_error executed with ⟨earlier, op, later, middle, _, before, failed⟩
          obtain rfl := (Tracks.of_exec created before).fault_eq failed
          exact absurd executed (safe ops)
    -- Serving after `ops` is what `next_returns_iff` says of the reached state.
    have served : ∀ ops, (cfg.selected ops).toNat < cfg.bitratesBps.length ∧
        ∃ version, cfg.versions[(cfg.selected ops).toNat]? = some version ∧
          ops.count .next % cfg.period < version.files.length := by
      intro ops
      rcases returns (ops ++ [.next]) with ⟨final, executed⟩
      rcases exec_split_eq_ok.mp executed with ⟨middle, out, next, before, taken, _⟩
      exact (Tracks.of_exec created before).next_returns_iff.mp ⟨_, taken⟩
    constructor
    · rcases served [] with ⟨_, version, found, _⟩
      exact lt_length_of_index (index_eq_ok.mpr found)
    · intro versionIndex below
      have last : cfg.period - 1 < cfg.period := Nat.sub_one_lt (period_pos cfg).ne'
      rcases served (switchAt (cfg.period - 1) versionIndex) with
        ⟨bitrateBelow, version, found, fileBelow⟩
      rw [selected_switchAt below] at bitrateBelow found
      rw [count_switchAt, Nat.mod_eq_of_lt last] at fileBelow
      rw [List.getElem?_eq_getElem below] at found
      obtain rfl := Option.some.inj found
      exact ⟨bitrateBelow, by omega⟩
  · intro serves ops faulted
    rcases serves.exec_returns created ops with ⟨final, executed⟩
    rw [executed] at faulted
    cases faulted

def segmentPath (version slot : Nat) : String :=
  "version" ++ toString version ++ "/segment" ++ toString slot

/-- Eleven versions of two slots each, with rising bitrates. -/
def elevenVersions : Config where
  bitratesBps := (List.range 11).map fun version => 1000 * (UInt64.ofNat version + 1)
  slots := 2
  versions := (List.range 11).map fun version =>
    ⟨1000 * (UInt64.ofNat version + 1), [⟨segmentPath version 0⟩, ⟨segmentPath version 1⟩]⟩

theorem version_switching_safe_iff_eleven :
    ∃ manager, new elevenVersions = .ok manager ∧
      ((∀ ops : List VersionOp, exec step manager ops ≠ .error .outOfBounds) ↔
        elevenVersions.Serves) :=
  ⟨_, rfl, version_switching_safe_iff rfl⟩

/-- A twelfth version without a bitrate, which `set_version` accepts. -/
def twelfthVersion : Config where
  bitratesBps := List.replicate 11 1000
  slots := 1
  versions := List.replicate 12 ⟨1000, [⟨"segment"⟩]⟩

theorem switch_out_of_range :
    ∃ manager, new twelfthVersion = .ok manager ∧
      exec step manager [.setVersion 11, .next] = .error .outOfBounds :=
  ⟨_, rfl, rfl⟩

/-! ## Playback in slot order -/

/-- The consistency of a configuration that the code leaves to its author. -/
structure Config.Complete (cfg : Config) : Prop where
  slots_pos : 1 ≤ cfg.slots
  slots_lt : cfg.slots < 2 ^ 32
  versions_long : 11 ≤ cfg.versions.length
  bitrates_eq : cfg.bitratesBps.length = cfg.versions.length
  files_long : ∀ version ∈ cfg.versions, cfg.slots ≤ version.files.length

theorem Config.Complete.period_eq {cfg : Config} (complete : cfg.Complete) :
    cfg.period = cfg.slots := by
  have whole : cfg.slots32.toNat = cfg.slots := by
    rw [slots32, UInt32.toNat_ofNat', Nat.mod_eq_of_lt complete.slots_lt]
  rw [period, whole, Nat.max_eq_right complete.slots_pos]

theorem Config.Complete.serves {cfg : Config} (complete : cfg.Complete) : cfg.Serves := by
  refine ⟨complete.versions_long, fun versionIndex below => ⟨?_, ?_⟩⟩
  · rw [complete.bitrates_eq]
    exact below
  · rw [complete.period_eq]
    exact complete.files_long _ (List.getElem_mem below)

theorem Config.Complete.new_returns {cfg : Config} (complete : cfg.Complete) :
    ∃ manager, new cfg = .ok manager := by
  have long : initialVersion.toNat < cfg.bitratesBps.length := by
    rw [complete.bitrates_eq]
    exact complete.versions_long
  rcases index_of_lt long with ⟨bitrate, found⟩
  unfold new
  rw [found]
  exact ⟨_, rfl⟩

/-- Every sequence of calls returns.  A `next` call returns the segment of the slot
whose turn it is, in the version selected before it, and until the next such call
the bitrate is that version's. -/
theorem segments_in_slot_order {cfg : Config} (complete : cfg.Complete) :
    ∃ manager, new cfg = .ok manager ∧
      (∀ ops : List VersionOp, ∃ final, exec step manager ops = .ok final) ∧
      ∀ history final, Run step manager history final →
        ∀ earlier event later, history = earlier ++ event :: later →
          (event.op = .next →
            ∃ version file,
              cfg.versions[(cfg.selected (earlier.map Event.op)).toNat]? = some version ∧
              version.files[(earlier.map Event.op).count .next % cfg.slots]? = some file ∧
              event.out = .path file.path) ∧
          (event.op = .getBitrate →
            ∀ before middle, earlier.map Event.op = before ++ .next :: middle →
              .next ∉ middle →
              ∃ bitrate, cfg.bitratesBps[(cfg.selected before).toNat]? = some bitrate ∧
                event.out = .bitrate bitrate) := by
  rcases complete.new_returns with ⟨manager, created⟩
  refine ⟨manager, created, complete.serves.exec_returns created, ?_⟩
  rintro history final run earlier ⟨state, op, out, after⟩ later rfl
  rcases run.cut.of_snoc with ⟨front, stepped⟩
  have taken : step state op = .ok (out, after) := stepped
  have tracks : Tracks cfg (earlier.map Event.op) state := .of_exec created front.exec_eq
  constructor
  · rintro rfl
    rcases bind_eq_ok.mp taken with ⟨⟨path, advanced⟩, returned, equal⟩
    cases equal
    rcases next_eq_ok tracks.slot_lt returned with
      ⟨_, version, file, _, versionFound, fileFound, pathEq, _⟩
    rw [tracks.cfg_eq, tracks.version_eq] at versionFound
    rw [tracks.slot_eq, complete.period_eq] at fileFound
    exact ⟨version, file, versionFound, fileFound, congrArg VersionReply.path pathEq⟩
  · rintro rfl before middle split noNext
    cases taken
    exact ⟨_, tracks.bitrate_eq before middle split noNext, rfl⟩

theorem complete_elevenVersions : elevenVersions.Complete where
  slots_pos := by decide
  slots_lt := by decide
  versions_long := by decide
  bitrates_eq := by decide
  files_long := by
    intro version member
    rcases List.mem_map.mp member with ⟨_, _, rfl⟩
    exact Nat.le_refl 2

theorem segments_in_slot_order_eleven :
    ∃ manager, new elevenVersions = .ok manager ∧
      (∀ ops : List VersionOp, ∃ final, exec step manager ops = .ok final) ∧
      ∀ history final, Run step manager history final →
        ∀ earlier event later, history = earlier ++ event :: later →
          (event.op = .next →
            ∃ version file,
              elevenVersions.versions[
                (elevenVersions.selected (earlier.map Event.op)).toNat]? = some version ∧
              version.files[
                (earlier.map Event.op).count .next % elevenVersions.slots]? = some file ∧
              event.out = .path file.path) ∧
          (event.op = .getBitrate →
            ∀ before middle, earlier.map Event.op = before ++ .next :: middle →
              .next ∉ middle →
              ∃ bitrate,
                elevenVersions.bitratesBps[
                  (elevenVersions.selected before).toNat]? = some bitrate ∧
                event.out = .bitrate bitrate) :=
  segments_in_slot_order complete_elevenVersions

end VersionManager

end StreamReplay
