import StreamReplay.Tx.Control

/-!
# The control channel in every run

What becomes of each datagram that the loop takes from its socket, whatever the
threads of the sources have done before.
-/

namespace StreamReplay

open Checked Enumeration FallibleRun IPCDaemon

abbrev LoopEvent := Event IpcLoop LoopOp (Option Response)

namespace IpcLoop

variable {socketInfos : String → SocketInfo} {parse : Nat → String → Option Request}

/-- The datagram that an event takes from the socket, before the deadline. -/
def received (event : LoopEvent) : Option Datagram :=
  match event.op with
  | .turn now received =>
      if event.before.status = .serving ∧ now < event.before.deadline then received else none
  | .work _ _ => none

/-- The datagram is no request, or one that does not apply to the sources. -/
def Rejected (parse : Nat → String → Option Request) (sources : Sources)
    (datagram : Datagram) : Prop :=
  ∀ req, decode parse datagram = .ok req → ¬req.AppliesTo sources

/-- A rejected datagram changes nothing, and the loop goes on; any other sets what it
names and nothing else, in whatever order its map is enumerated. -/
structure Obeyed (parse : Nat → String → Option Request) (before after : IpcLoop)
    (datagram : Datagram) : Prop where
  passedOver : Rejected parse before.sources datagram →
    after.status = .serving ∧
      ∀ name, attributesOf after.sources name = attributesOf before.sources name
  carriedOut : ∀ req, decode parse datagram = .ok req → req.AppliesTo before.sources →
    ∀ name, attributesOf after.sources name = req.wanted before.sources name
  inAnyOrder : ∀ req other, decode parse datagram = .ok req →
    req.AppliesTo before.sources → req.Same other → ∀ name,
      attributesOf (handleRequest datagram.clocks before.sources other).2 name =
        attributesOf after.sources name

/-- The condition under which a datagram is obeyed: it is a request that applies to the
sources, and what it names is behind live locks.  A request that does not apply
escapes the panic only where the locks it would panic on are poisoned already; it
must not have set anything else. -/
def Fits (parse : Nat → String → Option Request) (sources : Sources)
    (datagram : Datagram) : Prop :=
  ∃ req, decode parse datagram = .ok req ∧
    (req.AppliesTo sources ∧ req.Behind false sources ∨
      ¬req.AppliesTo sources ∧ req.Passes sources ∧ req.Behind true sources)

/-- Statistics need a source, and a receiver of the reply. -/
def Answerable (parse : Nat → String → Option Request) (sources : Sources)
    (datagram : Datagram) : Prop :=
  ∀ req data, decode parse datagram = .ok req → req.cmd = .statistics data →
    sources.entries ≠ [] ∧ datagram.sendable = true

/-! ## One datagram -/

theorem receive_of_error {datagram : Datagram} {sources : Sources} {fault : Panic}
    (garbled : decode parse datagram = .error fault) :
    receive parse datagram sources = (.error fault, sources) := by
  rw [receive, garbled]

theorem receive_snd {datagram : Datagram} {sources : Sources} {req : Request}
    (decoded : decode parse datagram = .ok req) :
    (receive parse datagram sources).2 = (handleRequest datagram.clocks sources req).2 := by
  rw [receive, decoded]
  dsimp only
  split
  next response after handled =>
    rw [handled]
    split
    · rfl
    · rfl
  next => rfl

theorem receive_fails {datagram : Datagram} {sources : Sources} {req : Request}
    (decoded : decode parse datagram = .ok req) {fault : Panic}
    (failed : (handleRequest datagram.clocks sources req).1 = .error fault) :
    (receive parse datagram sources).1 = .error fault := by
  rcases handled : handleRequest datagram.clocks sources req with ⟨result, after⟩
  rw [handled] at failed
  subst failed
  rw [receive, decoded]
  simp only [handled]

theorem receive_returns {datagram : Datagram} {sources : Sources} {req : Request}
    (decoded : decode parse datagram = .ok req) {reply : Option Response}
    (returned : (handleRequest datagram.clocks sources req).1 = .ok reply)
    (sent : ∀ response, reply = some response → datagram.sendable = true) :
    (receive parse datagram sources).1 = .ok reply := by
  rcases handled : handleRequest datagram.clocks sources req with ⟨result, after⟩
  rw [handled] at returned
  subst returned
  rw [receive, decoded]
  cases reply with
  | none => simp only [handled]
  | some response => simp only [handled, sent response rfl, if_true]

theorem sources_serve (loop : IpcLoop) (datagram : Datagram) :
    (loop.serve parse datagram).2.sources = (receive parse datagram loop.sources).2 := by
  unfold serve
  split
  next handled => rw [handled]
  next handled => rw [handled]

theorem deadline_serve (loop : IpcLoop) (datagram : Datagram) :
    (loop.serve parse datagram).2.deadline = loop.deadline := by
  unfold serve
  split
  · rfl
  · rfl

theorem status_serve_of_ok {loop : IpcLoop} {datagram : Datagram} {reply : Option Response}
    (returned : (receive parse datagram loop.sources).1 = .ok reply) :
    (loop.serve parse datagram).2.status = loop.status := by
  unfold serve
  split
  · rfl
  next handled =>
    rw [handled] at returned
    cases returned

theorem status_serve_of_error {loop : IpcLoop} {datagram : Datagram} {fault : Panic}
    (failed : (receive parse datagram loop.sources).1 = .error fault) :
    (loop.serve parse datagram).2.status = .panicked fault := by
  unfold serve
  split
  next handled =>
    rw [handled] at failed
    cases failed
  next handled =>
    rw [handled] at failed
    cases failed
    rfl

/-- A request whose entries all pass leaves the loop going. -/
theorem status_serve_of_passes {loop : IpcLoop} {datagram : Datagram} {req : Request}
    (decoded : decode parse datagram = .ok req) (passes : req.Passes loop.sources)
    (answerable : Answerable parse loop.sources datagram) :
    (loop.serve parse datagram).2.status = loop.status := by
  rcases handleRequest_returns passes
    (fun data polls => (answerable req data decoded polls).1) with ⟨reply, returned, polls⟩
  refine status_serve_of_ok (receive_returns decoded returned ?_)
  intro response replied
  rcases polls response replied with ⟨data, polls⟩
  exact (answerable req data decoded polls).2

theorem status_serve_of_stuck {loop : IpcLoop} {datagram : Datagram} {req : Request}
    (decoded : decode parse datagram = .ok req) (stuck : ¬req.Passes loop.sources) :
    ∃ fault, (loop.serve parse datagram).2.status = .panicked fault := by
  have failed : ∃ fault, (handleRequest datagram.clocks loop.sources req).1 = .error fault :=
    handleRequest_fails stuck
  rcases failed with ⟨fault, failed⟩
  exact ⟨fault, status_serve_of_error (receive_fails decoded failed)⟩

theorem eq_of_decode {datagram : Datagram} {req found : Request}
    (decoded : decode parse datagram = .ok req)
    (again : decode parse datagram = .ok found) : req = found :=
  Except.ok.inj (decoded.symm.trans again)

/-- A datagram served is obeyed exactly when it fits. -/
theorem obeyed_serve_iff {loop : IpcLoop} (serving : loop.status = .serving)
    (datagram : Datagram) :
    Obeyed parse loop (loop.serve parse datagram).2 datagram ↔
      Fits parse loop.sources datagram := by
  cases decoded : decode parse datagram with
  | error fault =>
      refine iff_of_false ?_ ?_
      · intro obeyed
        have goesOn := (obeyed.passedOver (by simp [Rejected, decoded])).1
        rw [status_serve_of_error (by rw [receive_of_error decoded])] at goesOn
        cases goesOn
      · rintro ⟨req, found, _⟩
        rw [decoded] at found
        cases found
  | ok req =>
      have leaves : (loop.serve parse datagram).2.sources =
          (handleRequest datagram.clocks loop.sources req).2 := by
        rw [sources_serve, receive_snd decoded]
      have fitsIff : Fits parse loop.sources datagram ↔
          req.AppliesTo loop.sources ∧ req.Behind false loop.sources ∨
            ¬req.AppliesTo loop.sources ∧ req.Passes loop.sources ∧
              req.Behind true loop.sources := by
        simp only [Fits, decoded, Except.ok.injEq, exists_eq_left']
      rw [fitsIff]
      by_cases applies : req.AppliesTo loop.sources
      · have wantedIff : (∀ name, attributesOf (loop.serve parse datagram).2.sources name =
            req.wanted loop.sources name) ↔ req.Behind false loop.sources := by
          rw [leaves]
          exact handleRequest_wanted_iff applies.passes
        simp only [applies, true_and, not_true, false_and, or_false]
        constructor
        · intro obeyed
          exact wantedIff.mp (obeyed.carriedOut req decoded applies)
        · intro behind
          have wanted := wantedIff.mpr behind
          refine ⟨fun rejected => absurd applies (rejected req decoded), ?_, ?_⟩
          · intro found again _
            cases eq_of_decode decoded again
            exact wanted
          · intro found other again _ same name
            cases eq_of_decode decoded again
            rw [wanted name, same.wanted_eq]
            exact (handleRequest_wanted_iff (same.appliesTo applies).passes).mpr
              (same.behind behind) name
      · have rejected : Rejected parse loop.sources datagram := by
          intro found again
          cases eq_of_decode decoded again
          exact applies
        have answerable : Answerable parse loop.sources datagram := by
          intro found data again polls
          cases eq_of_decode decoded again
          exact absurd (appliesTo_of_statistics polls) applies
        simp only [applies, false_and, not_false_eq_true, true_and, false_or]
        constructor
        · intro obeyed
          rcases obeyed.passedOver rejected with ⟨goesOn, unchanged⟩
          have passes : req.Passes loop.sources := by
            by_contra stuck
            rcases status_serve_of_stuck decoded stuck with ⟨fault, panicked⟩
            rw [panicked] at goesOn
            cases goesOn
          rw [leaves] at unchanged
          exact ⟨passes, (handleRequest_unchanged_iff passes).mp unchanged⟩
        · rintro ⟨passes, behind⟩
          refine ⟨fun _ => ⟨?_, ?_⟩, ?_, ?_⟩
          · rw [status_serve_of_passes decoded passes answerable, serving]
          · rw [leaves]
            exact (handleRequest_unchanged_iff passes).mpr behind
          · intro found again appliesTo
            exact absurd appliesTo (rejected found again)
          · intro found _ again appliesTo
            exact absurd appliesTo (rejected found again)

/-! ## All datagrams -/

theorem serve_of_received {event : LoopEvent} {datagram : Datagram}
    (taken : step socketInfos parse event.before event.op = .ok (event.out, event.after))
    (found : received event = some datagram) :
    event.before.status = .serving ∧
      event.after = (event.before.serve parse datagram).2 := by
  rcases event with ⟨before, op, out, after⟩
  cases op with
  | work name op => cases found
  | turn now datagrams =>
      simp only [received, Option.ite_none_right_eq_some] at found
      rcases found with ⟨⟨serving, early⟩, rfl⟩
      refine ⟨serving, ?_⟩
      have stepped := congrArg Prod.snd (Except.ok.inj taken)
      simp only [turn, serving, early, if_true] at stepped
      exact stepped.symm

/-- A loop goes on after each turn before its deadline that finds nothing, or a datagram
that fits and can be answered. -/
theorem serving_step {event : LoopEvent} {deadline : Time}
    (taken : step socketInfos parse event.before event.op = .ok (event.out, event.after))
    (serving : event.before.status = .serving) (deadlineEq : event.before.deadline = deadline)
    (fitting : ∀ datagram, received event = some datagram →
      Fits parse event.before.sources datagram ∧
        Answerable parse event.before.sources datagram)
    (early : ∀ now datagrams, event.op = .turn now datagrams → now < deadline) :
    event.after.status = .serving ∧ event.after.deadline = deadline := by
  rcases event with ⟨before, op, out, after⟩
  dsimp only at taken serving deadlineEq ⊢
  cases op with
  | work name op =>
      cases taken
      exact ⟨serving, deadlineEq⟩
  | turn now datagrams =>
      have inTime : now < before.deadline := deadlineEq ▸ early now datagrams rfl
      cases datagrams with
      | none =>
          have stepped := congrArg Prod.snd (Except.ok.inj taken)
          simp only [turn, serving, inTime, if_true] at stepped
          rw [← stepped]
          exact ⟨serving, deadlineEq⟩
      | some datagram =>
          have found : received ⟨before, .turn now (some datagram), out, after⟩ =
              some datagram := if_pos ⟨serving, inTime⟩
          rcases fitting datagram found with ⟨⟨req, decoded, fits⟩, answerable⟩
          have passes : req.Passes before.sources := by
            rcases fits with ⟨applies, _⟩ | ⟨_, passes, _⟩
            · exact applies.passes
            · exact passes
          have afterEq : after = (before.serve parse datagram).2 :=
            (serve_of_received taken found).2
          rw [afterEq, deadline_serve, status_serve_of_passes decoded passes answerable]
          exact ⟨serving, deadlineEq⟩

/-- Whatever the threads of the sources do, a datagram that the loop takes before its
deadline is obeyed exactly when it fits.  A loop that takes no others, and is asked
for no statistics that it cannot give, serves until its deadline. -/
theorem control_channel_iff {sources : Sources} {deadline : Time}
    {history : List LoopEvent} {state : IpcLoop}
    (run : Run (step socketInfos parse) (start sources deadline) history state) :
    (∀ event ∈ history, ∀ datagram, received event = some datagram →
      (Obeyed parse event.before event.after datagram ↔
        Fits parse event.before.sources datagram)) ∧
    ((∀ event ∈ history, ∀ datagram, received event = some datagram →
        Fits parse event.before.sources datagram ∧
          Answerable parse event.before.sources datagram) →
      (∀ event ∈ history, ∀ now received, event.op = .turn now received → now < deadline) →
      state.status = .serving) := by
  constructor
  · intro event member datagram found
    rcases serve_of_received (run.event_step member) found with ⟨serving, afterEq⟩
    rw [afterEq]
    exact obeyed_serve_iff serving datagram
  · intro fitting early
    suffices kept : state.status = .serving ∧ state.deadline = deadline from kept.1
    induction run with
    | nil => exact ⟨rfl, rfl⟩
    | snoc _ taken ih =>
        simp only [List.forall_mem_append, List.forall_mem_singleton] at fitting early
        rcases ih fitting.1 early.1 with ⟨serving, deadlineEq⟩
        exact serving_step taken serving deadlineEq fitting.2 early.2

/-! ## A request for two streams, of which one exists -/

def oneThrottleText : String := "\x7b\"cmd\":\x7b\"Throttle\":\x7b\"1000@0\":5.0\x7d\x7d\x7d"

def twoThrottlesText : String :=
  "\x7b\"cmd\":\x7b\"Throttle\":\x7b\"1000@0\":5.0,\"2000@0\":5.0\x7d\x7d\x7d"

def oneThrottle : Request := ⟨.throttle (AList.singleton "1000@0" 5)⟩

def twoThrottles : Request :=
  ⟨.throttle (pair (by decide : "1000@0" ≠ "2000@0") 5 5)⟩

/-- What these two texts are parsed to. -/
def parseThrottles (_ : Nat) (text : String) : Option Request :=
  if text = oneThrottleText then some oneThrottle
  else if text = twoThrottlesText then some twoThrottles
  else none

def datagramOf (text : String) : Datagram where
  bytes := text.toUTF8.data.toList
  seed := 0
  clocks _ := (0, 0)
  sendable := true

theorem decode_oneThrottle :
    decode parseThrottles (datagramOf oneThrottleText) = .ok oneThrottle := by
  have textEq : String.fromUTF8?
      ((datagramOf oneThrottleText).bytes.take bufLen).toByteArray = some oneThrottleText := by
    decide +kernel
  rw [decode, textEq]
  rfl

theorem decode_twoThrottles :
    decode parseThrottles (datagramOf twoThrottlesText) = .ok twoThrottles := by
  have textEq : String.fromUTF8?
      ((datagramOf twoThrottlesText).bytes.take bufLen).toByteArray =
        some twoThrottlesText := by
    decide +kernel
  rw [decode, textEq]
  rfl

/-- One source with a live throttler takes a throttle. -/
theorem fits_oneThrottle {manager : SourceManager}
    (alive : manager.throttler.poisoned = false) :
    Fits parseThrottles (AList.singleton "1000@0" manager) (datagramOf oneThrottleText) := by
  have only : ∀ name setting, oneThrottle.settings.lookup name = some setting →
      name = "1000@0" ∧ setting = .throttle 5 := by
    intro name setting named
    cases List.mem_singleton.mp (AList.mem_lookup_iff.mp named)
    exact ⟨rfl, rfl⟩
  refine ⟨oneThrottle, decode_oneThrottle, .inl ⟨?_, ?_⟩⟩
  · intro name setting named
    rcases only name setting named with ⟨rfl, rfl⟩
    exact ⟨manager, rfl, trivial⟩
  · intro name setting other named found
    rcases only name setting named with ⟨rfl, rfl⟩
    cases found
    exact .inl alive

/-- The throttle of the stream that exists. -/
def throttleOf (sources : Sources) : Option ℚ :=
  (attributesOf sources "1000@0").map Attributes.throttle

theorem control_channel_iff_one :
    ∃ manager, SourceManager.new SourceManager.noVersions SourceManager.measuredTrace 100
        SourceManager.quietBus 0 0 = .ok manager ∧
      ∃ history state, Run (step (fun _ => ∅) parseThrottles)
          (start (AList.singleton "1000@0" manager) 100) history state ∧
        (∀ event ∈ history, ∀ datagram, received event = some datagram →
          (Obeyed parseThrottles event.before event.after datagram ↔
            Fits parseThrottles event.before.sources datagram)) ∧
        throttleOf state.sources = some 5 ∧ state.status = .serving := by
  have carried : (SourceManager.new SourceManager.noVersions SourceManager.measuredTrace 100
      SourceManager.quietBus 0 0).toOption.any (fun manager =>
        manager.throttler.poisoned == false &&
          (exec (step (fun _ => ∅) parseThrottles)
            (start (AList.singleton "1000@0" manager) 100)
            [.turn 50 (some (datagramOf oneThrottleText))]).toOption.any fun state =>
              throttleOf state.sources == some 5) = true := by
    decide +kernel
  rcases exists_of_any carried with ⟨manager, created, observed⟩
  rw [Bool.and_eq_true, beq_iff_eq] at observed
  rcases observed with ⟨alive, passes⟩
  rcases exists_run_of_any _ _ _ _ passes with ⟨history, state, run, opsEq, observed⟩
  rcases List.map_eq_singleton_iff.mp opsEq with ⟨event, rfl, opEq⟩
  rcases control_channel_iff run with ⟨decided, serves⟩
  refine ⟨manager, created, [event], state, run, decided, beq_iff_eq.mp observed, ?_⟩
  refine serves ?_ ?_
  · intro other member datagram found
    rw [List.mem_singleton.mp member] at found ⊢
    have same : datagramOf oneThrottleText = datagram := by
      rw [received, opEq] at found
      exact Option.some.inj (Option.ite_none_right_eq_some.mp found).2
    rw [run.of_cons.1, ← same]
    refine ⟨fits_oneThrottle alive, ?_⟩
    intro req data decoded polls
    rw [decode_oneThrottle] at decoded
    cases decoded
    cases polls
  · intro other member now datagrams turns
    rw [List.mem_singleton.mp member, opEq] at turns
    cases turns
    decide

/-- A throttle for two streams, one of which does not exist, sets the throttle of the
other and ends the loop. -/
theorem throttle_half_applied :
    ∃ manager, SourceManager.new SourceManager.noVersions SourceManager.measuredTrace 100
        SourceManager.quietBus 0 0 = .ok manager ∧
      Rejected parseThrottles (AList.singleton "1000@0" manager)
        (datagramOf twoThrottlesText) ∧
      ∃ history state, Run (step (fun _ => ∅) parseThrottles)
          (start (AList.singleton "1000@0" manager) 100) history state ∧
        history.map Event.op = [.turn 50 (some (datagramOf twoThrottlesText))] ∧
        throttleOf (AList.singleton "1000@0" manager) = some 0 ∧
        throttleOf state.sources = some 5 ∧ state.status = .panicked .unwrapNone := by
  have halfway : (SourceManager.new SourceManager.noVersions SourceManager.measuredTrace 100
      SourceManager.quietBus 0 0).toOption.any (fun manager =>
        throttleOf (AList.singleton "1000@0" manager) == some 0 &&
          (exec (step (fun _ => ∅) parseThrottles)
            (start (AList.singleton "1000@0" manager) 100)
            [.turn 50 (some (datagramOf twoThrottlesText))]).toOption.any fun state =>
              throttleOf state.sources == some 5 &&
                state.status == .panicked .unwrapNone) = true := by
    decide +kernel
  rcases exists_of_any halfway with ⟨manager, created, observed⟩
  rw [Bool.and_eq_true, beq_iff_eq] at observed
  rcases observed with ⟨before, passes⟩
  rcases exists_run_of_any _ _ _ _ passes with ⟨history, state, run, opsEq, observed⟩
  rw [Bool.and_eq_true, beq_iff_eq, beq_iff_eq] at observed
  refine ⟨manager, created, ?_, history, state, run, opsEq, before, observed⟩
  intro req decoded applies
  rw [decode_twoThrottles] at decoded
  cases decoded
  rcases applies "2000@0" (.throttle 5) rfl with ⟨other, found, _⟩
  cases found

end IpcLoop

end StreamReplay
