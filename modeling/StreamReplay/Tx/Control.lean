import StreamReplay.Tx.Ipc
import StreamReplay.Tx.Statistics

/-!
# What the control channel does to the sources

A request that applies to the sources should set the attributes it names, and no
others; one that does not, or a datagram that is no request, should be passed over.
This file says what the code does instead, entry by entry and then for a request as
a whole: an entry that asks a live lock for a missing version manager panics, as does
one for a missing stream, and a poisoned lock is passed over.
-/

namespace StreamReplay

open Checked Enumeration FallibleRun Guarded

/-- The attributes of a source that requests set. -/
@[ext]
structure Attributes where
  throttle : ℚ
  policyParameters : PolicyParameter
  version : Option UInt32

namespace SourceManager

def attributes (manager : SourceManager) : Attributes where
  throttle := manager.throttler.value.throttle
  policyParameters := manager.txPartCtler.value.policyParameters
  version := manager.versionManager.value.map VersionManager.currentVersion

/-- The version after a request for this one, which may be out of range. -/
def versionFor (manager : SourceManager) (version : UInt32) : Option UInt32 :=
  manager.versionManager.value.map fun versions =>
    if version.toNat < versions.cfg.versions.length then version
    else versions.currentVersion

end SourceManager

/-- What an entry of a request asks of the source it names. -/
inductive Setting where
  | throttle (value : ℚ)
  | policyParameters (parameters : PolicyParameter)
  | version (index : UInt32)
  | control (info : ControlInfo)

namespace Setting

/-- How the control channel carries out an entry. -/
def assign (manager : SourceManager) : Setting → Except Panic Unit × SourceManager
  | .throttle value => (.ok (), manager.throttle value)
  | .policyParameters parameters => (.ok (), manager.setPolicyParameters parameters)
  | .version index => manager.setVersion index
  | .control info => IPCDaemon.setControl manager info

/-- The attributes that a source should have afterwards. -/
def wanted (manager : SourceManager) : Setting → Attributes
  | .throttle value => { manager.attributes with throttle := value }
  | .policyParameters parameters =>
      { manager.attributes with policyParameters := parameters }
  | .version index => { manager.attributes with version := manager.versionFor index }
  | .control info =>
      { manager.attributes with
        policyParameters := info.policyParameters
        version := manager.versionFor info.version }

/-- The source has what the entry is about. -/
def AppliesTo (manager : SourceManager) : Setting → Prop
  | .throttle _ | .policyParameters _ => True
  | .version _ | .control _ => manager.versionManager.value.isSome = true

/-- A live lock is asked for a version manager that is not there. -/
def Panics (manager : SourceManager) : Setting → Prop
  | .throttle _ | .policyParameters _ => False
  | .version _ | .control _ =>
      manager.versionManager.poisoned = false ∧ manager.versionManager.value = none

/-- Each attribute is behind a lock that is poisoned or not, as given, or it is as asked
for already. -/
def Behind (poisoned : Bool) (manager : SourceManager) : Setting → Prop
  | .throttle value =>
      manager.throttler.poisoned = poisoned ∨ manager.attributes.throttle = value
  | .policyParameters parameters =>
      manager.txPartCtler.poisoned = poisoned ∨
        manager.attributes.policyParameters = parameters
  | .version index =>
      manager.versionManager.poisoned = poisoned ∨
        manager.attributes.version = manager.versionFor index
  | .control info =>
      (manager.txPartCtler.poisoned = poisoned ∨
        manager.attributes.policyParameters = info.policyParameters) ∧
      (manager.versionManager.poisoned = poisoned ∨
        manager.attributes.version = manager.versionFor info.version)

end Setting

/-! ## One entry -/

/-- What becomes of an attribute: a poisoned lock is passed over. -/
def settled {α β : Type*} (mutex : Mutex α) (old new : β) : β :=
  if mutex.poisoned then old else new

theorem settled_eq_new_iff {α β : Type*} {mutex : Mutex α} {old new : β} :
    settled mutex old new = new ↔ mutex.poisoned = false ∨ old = new := by
  unfold settled
  split
  next poisoned => simp [poisoned]
  next alive => simp [alive]

theorem settled_eq_old_iff {α β : Type*} {mutex : Mutex α} {old new : β} :
    settled mutex old new = old ↔ mutex.poisoned = true ∨ old = new := by
  unfold settled
  split
  next poisoned => simp [poisoned]
  next alive => simp [alive, eq_comm]

namespace SourceManager

theorem attributes_throttle (manager : SourceManager) (value : ℚ) :
    (manager.throttle value).attributes =
      { manager.attributes with
        throttle := settled manager.throttler manager.attributes.throttle value } := by
  simp only [attributes, SourceManager.throttle, Mutex.modify, settled]
  split
  · rfl
  · rfl

theorem attributes_setPolicyParameters (manager : SourceManager)
    (parameters : PolicyParameter) :
    (manager.setPolicyParameters parameters).attributes =
      { manager.attributes with
        policyParameters :=
          settled manager.txPartCtler manager.attributes.policyParameters parameters } := by
  simp only [attributes, setPolicyParameters, Mutex.modify, settled]
  split
  · rfl
  · rfl

theorem currentVersion_setVersion (versions : VersionManager) (index : UInt32) :
    (versions.setVersion index).currentVersion =
      if index.toNat < versions.cfg.versions.length then index
      else versions.currentVersion := by
  unfold VersionManager.setVersion
  split
  · rfl
  · rfl

/-- Setting a version touches the version manager alone; without one it panics. -/
theorem setVersion_cases (manager : SourceManager) (index : UInt32) :
    (manager.versionManager.poisoned = false ∧ manager.versionManager.value = none) ∧
        (manager.setVersion index).1 = .error .unwrapNone ∨
      ¬(manager.versionManager.poisoned = false ∧ manager.versionManager.value = none) ∧
        ∃ next, manager.setVersion index = (.ok (), next) ∧
          next.txPartCtler = manager.txPartCtler ∧
          next.attributes =
            { manager.attributes with
              version := settled manager.versionManager manager.attributes.version
                (manager.versionFor index) } := by
  unfold setVersion
  cases held : manager.versionManager.lock with
  | none =>
      have poisoned := Mutex.lock_eq_none.mp held
      exact .inr ⟨by simp [poisoned], manager, rfl, rfl, by simp [settled, poisoned]⟩
  | some value =>
      rcases Mutex.lock_eq_some.mp held with ⟨alive, valueEq⟩
      cases value with
      | none => exact .inl ⟨⟨alive, valueEq.symm⟩, rfl⟩
      | some versions =>
          refine .inr ⟨by simp [← valueEq], _, rfl, rfl, ?_⟩
          simp [attributes, versionFor, settled, alive, ← valueEq, currentVersion_setVersion]

end SourceManager

namespace Setting

/-- The attributes that an entry leaves, with poisoned locks passed over. -/
def outcome (manager : SourceManager) : Setting → Attributes
  | .throttle value =>
      { manager.attributes with
        throttle := settled manager.throttler manager.attributes.throttle value }
  | .policyParameters parameters =>
      { manager.attributes with
        policyParameters :=
          settled manager.txPartCtler manager.attributes.policyParameters parameters }
  | .version index =>
      { manager.attributes with
        version := settled manager.versionManager manager.attributes.version
          (manager.versionFor index) }
  | .control info =>
      { manager.attributes with
        policyParameters :=
          settled manager.txPartCtler manager.attributes.policyParameters
            info.policyParameters
        version := settled manager.versionManager manager.attributes.version
          (manager.versionFor info.version) }

theorem AppliesTo.not_panics {manager : SourceManager} {setting : Setting}
    (applies : setting.AppliesTo manager) : ¬setting.Panics manager := by
  cases setting with
  | throttle | policyParameters => exact id
  | version | control =>
      rintro ⟨_, absent⟩
      rw [AppliesTo, absent] at applies
      cases applies

theorem assign_cases (manager : SourceManager) (setting : Setting) :
    setting.Panics manager ∧ (setting.assign manager).1 = .error .unwrapNone ∨
      ¬setting.Panics manager ∧ (setting.assign manager).1 = .ok () ∧
        (setting.assign manager).2.attributes = setting.outcome manager := by
  cases setting with
  | throttle value => exact .inr ⟨id, rfl, manager.attributes_throttle value⟩
  | policyParameters parameters =>
      exact .inr ⟨id, rfl, manager.attributes_setPolicyParameters parameters⟩
  | version index =>
      rcases manager.setVersion_cases index with failed | ⟨alive, next, equal, _, attributesEq⟩
      · exact .inl failed
      · refine .inr ⟨alive, ?_⟩
        rw [assign, equal]
        exact ⟨rfl, attributesEq⟩
  | control info =>
      simp only [assign, IPCDaemon.setControl, Panics]
      rcases manager.setVersion_cases info.version with
        ⟨absent, failed⟩ | ⟨alive, next, equal, ctlerEq, attributesEq⟩
      · refine .inl ⟨absent, ?_⟩
        rcases result : manager.setVersion info.version with ⟨outcome, next⟩
        rw [result] at failed
        subst failed
        rfl
      · refine .inr ⟨alive, ?_⟩
        simp only [equal]
        refine ⟨trivial, ?_⟩
        rw [next.attributes_setPolicyParameters, ctlerEq, attributesEq]
        rfl

/-- An entry is carried out unless it panics. -/
theorem assign_returns_iff {manager : SourceManager} {setting : Setting} :
    (setting.assign manager).1 = .ok () ↔ ¬setting.Panics manager := by
  rcases setting.assign_cases manager with ⟨panics, failed⟩ | ⟨passes, returned, _⟩
  · exact iff_of_false (by simp [failed]) (not_not_intro panics)
  · exact iff_of_true returned passes

/-- An entry leaves what it should exactly where all locks are alive. -/
theorem outcome_eq_wanted_iff {manager : SourceManager} {setting : Setting} :
    setting.outcome manager = setting.wanted manager ↔ setting.Behind false manager := by
  cases setting <;> simp [outcome, wanted, Behind, Attributes.ext_iff, settled_eq_new_iff]

/-- An entry leaves everything as it was exactly where all locks are poisoned. -/
theorem outcome_eq_attributes_iff {manager : SourceManager} {setting : Setting} :
    setting.outcome manager = manager.attributes ↔ setting.Behind true manager := by
  cases setting <;> simp [outcome, Behind, Attributes.ext_iff, settled_eq_old_iff]

end Setting

/-! ## One request -/

/-- The attributes of the source of this name, if there is one. -/
def attributesOf (sources : Sources) (name : String) : Option Attributes :=
  (sources.lookup name).map SourceManager.attributes

namespace Request

/-- The entries of a request that set something. -/
def settings (req : Request) : Table String Setting :=
  match req.cmd with
  | .throttle data => mapValues (fun _ => .throttle) data
  | .policyParameters data => mapValues (fun _ => .policyParameters) data
  | .version data => mapValues (fun _ => .version) data
  | .control data => mapValues (fun _ => .control) data
  | .statistics _ => ∅

/-- Two requests are the same up to the order in which their maps are enumerated. -/
inductive Same : Request → Request → Prop where
  | throttle {data other : Table String ℚ} :
      data.entries.Perm other.entries → Same ⟨.throttle data⟩ ⟨.throttle other⟩
  | policyParameters {data other : Table String PolicyParameter} :
      data.entries.Perm other.entries →
        Same ⟨.policyParameters data⟩ ⟨.policyParameters other⟩
  | version {data other : Table String UInt32} :
      data.entries.Perm other.entries → Same ⟨.version data⟩ ⟨.version other⟩
  | control {data other : Table String ControlInfo} :
      data.entries.Perm other.entries → Same ⟨.control data⟩ ⟨.control other⟩
  | statistics {data other : Table String ℚ} :
      data.entries.Perm other.entries → Same ⟨.statistics data⟩ ⟨.statistics other⟩

/-- Every stream that the request names exists, and has what the entry is about. -/
def AppliesTo (req : Request) (sources : Sources) : Prop :=
  ∀ name setting, req.settings.lookup name = some setting →
    ∃ manager, sources.lookup name = some manager ∧ setting.AppliesTo manager

/-- The attributes that the source of this name should have after the request. -/
def wanted (req : Request) (sources : Sources) (name : String) : Option Attributes :=
  (sources.lookup name).map fun manager =>
    (req.settings.lookup name).elim manager.attributes fun setting => setting.wanted manager

/-- Every stream that the request names exists, and no entry panics. -/
def Passes (req : Request) (sources : Sources) : Prop :=
  ∀ name setting, req.settings.lookup name = some setting →
    ∃ manager, sources.lookup name = some manager ∧ ¬setting.Panics manager

/-- All that the request names is behind locks that are poisoned or not, as given, or it
is as asked for already. -/
def Behind (poisoned : Bool) (req : Request) (sources : Sources) : Prop :=
  ∀ name setting manager, req.settings.lookup name = some setting →
    sources.lookup name = some manager → setting.Behind poisoned manager

theorem AppliesTo.passes {req : Request} {sources : Sources}
    (applies : req.AppliesTo sources) : req.Passes sources := by
  intro name setting named
  rcases applies name setting named with ⟨manager, found, appliesTo⟩
  exact ⟨manager, found, appliesTo.not_panics⟩

theorem Same.lookup_settings {first second : Request} (same : Same first second)
    (name : String) : first.settings.lookup name = second.settings.lookup name := by
  cases same with
  | throttle perm | policyParameters perm | version perm | control perm =>
      simp only [settings, lookup_mapValues, AList.perm_lookup perm]
  | statistics perm => rfl

theorem Same.appliesTo {first second : Request} (same : Same first second)
    {sources : Sources} (applies : first.AppliesTo sources) : second.AppliesTo sources := by
  intro name setting named
  exact applies name setting ((same.lookup_settings name).trans named)

theorem Same.behind {first second : Request} (same : Same first second) {poisoned : Bool}
    {sources : Sources} (behind : first.Behind poisoned sources) :
    second.Behind poisoned sources := by
  intro name setting manager named
  exact behind name setting manager ((same.lookup_settings name).trans named)

theorem Same.wanted_eq {first second : Request} (same : Same first second)
    (sources : Sources) : first.wanted sources = second.wanted sources := by
  funext name
  rw [wanted, wanted, same.lookup_settings name]

end Request

namespace IPCDaemon

open Request

variable {clocks : String → Time × ℚ} {sources : Sources}

/-- A request either polls the sources or carries out its settings. -/
theorem handleRequest_cases (clocks : String → Time × ℚ) (sources : Sources)
    (req : Request) :
    (∃ data, req.cmd = .statistics data) ∨
      handleRequest clocks sources req = forEach Setting.assign req.settings sources := by
  rcases req with ⟨cmd⟩
  cases cmd with
  | statistics data => exact .inl ⟨data, rfl⟩
  | throttle data | policyParameters data | version data | control data =>
      right
      simp only [handleRequest, settings, forEach, mapValues, assignAll_map]
      rfl

theorem forEach_fst {ν : Type}
    (assign : SourceManager → ν → Except Panic Unit × SourceManager)
    (data : Table String ν) (sources : Sources) :
    (forEach assign data sources).1 =
      (assignAll .unwrapNone assign data.entries sources).1.map fun _ => none := rfl

theorem forEach_cases {ν : Type}
    (assign : SourceManager → ν → Except Panic Unit × SourceManager)
    (data : Table String ν) (sources : Sources) :
    (forEach assign data sources).1 = .ok none ∨
      ∃ fault, (forEach assign data sources).1 = .error fault := by
  rw [forEach_fst]
  cases (assignAll .unwrapNone assign data.entries sources).1 with
  | ok => exact .inl rfl
  | error fault => exact .inr ⟨fault, rfl⟩

theorem forEach_returns_iff {ν : Type}
    {assign : SourceManager → ν → Except Panic Unit × SourceManager}
    {data : Table String ν} :
    (forEach assign data sources).1 = .ok none ↔
      (assignAll .unwrapNone assign data.entries sources).1 = .ok () := by
  rw [forEach_fst]
  cases (assignAll .unwrapNone assign data.entries sources).1 with
  | ok => exact iff_of_true rfl rfl
  | error fault => simp [Except.map]

theorem settings_returns_iff {req : Request} :
    (forEach Setting.assign req.settings sources).1 = .ok none ↔ req.Passes sources := by
  rw [forEach_returns_iff, assignAll_returns_iff req.settings.nodupKeys]
  simp only [Setting.assign_returns_iff, Request.Passes, ← AList.mem_lookup_iff,
    Option.mem_def]

theorem appliesTo_of_statistics {req : Request} {data : Table String ℚ}
    (polls : req.cmd = .statistics data) : req.AppliesTo sources := by
  intro name setting named
  simp [settings, polls] at named

/-- A request with an entry that does not pass ends in a panic. -/
theorem handleRequest_fails {req : Request} (stuck : ¬req.Passes sources) :
    ∃ fault, (handleRequest clocks sources req).1 = .error fault := by
  rcases handleRequest_cases clocks sources req with ⟨data, polls⟩ | equal
  · exact absurd (appliesTo_of_statistics polls).passes stuck
  · rw [equal]
    rcases forEach_cases Setting.assign req.settings sources with returned | failed
    · exact absurd (settings_returns_iff.mp returned) stuck
    · exact failed

/-- Any other request returns; to poll the sources there has to be one. -/
theorem handleRequest_returns {req : Request} (passes : req.Passes sources)
    (present : ∀ data, req.cmd = .statistics data → sources.entries ≠ []) :
    ∃ reply, (handleRequest clocks sources req).1 = .ok reply ∧
      ∀ response, reply = some response → ∃ data, req.cmd = .statistics data := by
  rcases handleRequest_cases clocks sources req with ⟨data, polls⟩ | equal
  · have nonempty : values (polled clocks sources) ≠ [] := by
      simpa [values, polled, mapValues] using present data polls
    rcases List.exists_cons_of_ne_nil nonempty with ⟨first, rest, valuesEq⟩
    simp only [handleRequest, polls, valuesEq]
    exact ⟨_, rfl, fun _ _ => ⟨data, rfl⟩⟩
  · rw [equal, settings_returns_iff.mpr passes]
    refine ⟨none, rfl, ?_⟩
    intro response replied
    cases replied

end IPCDaemon

/-! ## What a request leaves of the attributes -/

theorem SourceManager.attributes_statistics (manager : SourceManager) (now : Time)
    (pollTime : ℚ) : (manager.statistics now pollTime).2.attributes = manager.attributes := by
  have polled : (manager.pollRtt pollTime).2.attributes = manager.attributes := by
    unfold SourceManager.pollRtt
    split
    · rfl
    · split
      · rfl
      · rfl
  rcases manager.statistics_cases now pollTime with
    ⟨_, equal⟩ | ⟨_, _, ⟨_, equal⟩ | ⟨_, equal, _⟩⟩
  · rw [equal]
  · rw [equal, polled]
  · rw [equal, polled]

namespace IPCDaemon

open Request

variable {clocks : String → Time × ℚ} {sources : Sources}

theorem attributesOf_polled (name : String) :
    attributesOf (polled clocks sources) name = attributesOf sources name := by
  rw [attributesOf, polled, lookup_mapValues, Option.map_map, attributesOf]
  congr 1
  funext manager
  exact manager.attributes_statistics _ _

/-- What a request makes of the attributes when no entry panics. -/
theorem attributesOf_handleRequest {req : Request} (passes : req.Passes sources)
    (name : String) :
    attributesOf (handleRequest clocks sources req).2 name =
      (sources.lookup name).map fun manager =>
        (req.settings.lookup name).elim manager.attributes fun setting =>
          setting.outcome manager := by
  rcases handleRequest_cases clocks sources req with ⟨data, polls⟩ | equal
  · have leaves : (handleRequest clocks sources req).2 = polled clocks sources := by
      simp only [handleRequest, polls]
      split
      · rfl
      · rfl
    rw [leaves, attributesOf_polled]
    simp [settings, polls, attributesOf]
  · have returned := forEach_returns_iff.mp (settings_returns_iff.mpr passes)
    rw [equal, attributesOf]
    change Option.map _ ((assignAll .unwrapNone Setting.assign req.settings.entries
      sources).2.lookup name) = _
    rw [lookup_assignAll req.settings.nodupKeys returned, Option.map_map]
    cases found : sources.lookup name with
    | none => rfl
    | some manager =>
        change some (SourceManager.attributes ((req.settings.lookup name).elim _ _)) = _
        cases named : req.settings.lookup name with
        | none => rfl
        | some setting =>
            rcases passes name setting named with ⟨other, present, passes⟩
            rw [found, Option.some.injEq] at present
            subst present
            rcases setting.assign_cases manager with ⟨panics, _⟩ | ⟨_, _, attributesEq⟩
            · exact absurd panics passes
            · exact congrArg some attributesEq

/-- A request leaves the attributes that each entry aims at exactly when each entry does. -/
theorem attributesOf_handleRequest_iff {req : Request} (passes : req.Passes sources)
    {aim : SourceManager → Setting → Attributes} {condition : Setting → SourceManager → Prop}
    (decided : ∀ setting manager,
      Setting.outcome manager setting = aim manager setting ↔ condition setting manager) :
    (∀ name, attributesOf (handleRequest clocks sources req).2 name =
        (sources.lookup name).map fun manager =>
          (req.settings.lookup name).elim manager.attributes (aim manager)) ↔
      ∀ name setting manager, req.settings.lookup name = some setting →
        sources.lookup name = some manager → condition setting manager := by
  simp only [attributesOf_handleRequest passes]
  constructor
  · intro every name setting manager named found
    have here := every name
    simp only [named, found, Option.map_some, Option.elim_some, Option.some.injEq] at here
    exact (decided setting manager).mp here
  · intro every name
    cases found : sources.lookup name with
    | none => rfl
    | some manager =>
        cases named : req.settings.lookup name with
        | none => rfl
        | some setting =>
            have here := every name setting manager named found
            exact congrArg some ((decided setting manager).mpr here)

/-- A request sets what it names, and nothing else, exactly when all of that is behind
live locks. -/
theorem handleRequest_wanted_iff {req : Request} (passes : req.Passes sources) :
    (∀ name, attributesOf (handleRequest clocks sources req).2 name =
        req.wanted sources name) ↔ req.Behind false sources :=
  attributesOf_handleRequest_iff passes fun _ _ => Setting.outcome_eq_wanted_iff

/-- A request leaves everything as it was exactly when all it names is behind poisoned
locks. -/
theorem handleRequest_unchanged_iff {req : Request} (passes : req.Passes sources) :
    (∀ name, attributesOf (handleRequest clocks sources req).2 name =
        attributesOf sources name) ↔ req.Behind true sources := by
  have aims : ∀ name, attributesOf sources name = (sources.lookup name).map fun manager =>
      (req.settings.lookup name).elim manager.attributes fun _ => manager.attributes := by
    intro name
    rw [attributesOf]
    cases req.settings.lookup name with
    | none => rfl
    | some setting => rfl
  simp only [aims]
  exact attributesOf_handleRequest_iff passes fun _ _ => Setting.outcome_eq_attributes_iff

end IPCDaemon

end StreamReplay
