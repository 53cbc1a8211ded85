import AiroFanuc.Driver.Moves

/-! What `shutdown()` leaves behind: the lifecycle state and the ladder's calls. -/

namespace AiroFanuc.Driver

open RtCore Library

/-- A ladder that makes no call before it sets the lifecycle state, or none at all. -/
def LadderStage.quiet : LadderStage → Bool
  | taken | entered | closing | leaving true | released true => true
  | _ => false

namespace State

/-- A snapshot that would be recorded as STREAMING over what `shutdown()` has set. -/
def Revives (st : State) (snap : Snapshot) : Prop :=
  st.down = true ∧ st.state ≠ .shuttingDown ∧ classify snap.mode snap.fault false = .streaming

/-- `shutdown()` returns with no ladder at work, and what was shut down is not revived: no ladder
sets its first or its last state, and nothing is recorded as STREAMING once the report of
SYST-348 has replaced SHUTTING_DOWN. -/
def Quiescent (st : State) : Label → Prop
  | .ladder .go =>
    ∀ l ∈ st.ladder, st.down = true → l.stage ≠ .entered ∧ l.stage ≠ .closing
  | .watchRecord i =>
    match st.watchers[i]? with
    | some (.read snap) => st.recovering = false → ¬ st.Revives snap
    | _ => True
  | .reclassify i =>
    match st.reclassifying[i]? with
    | some (some snap) => ¬ st.Revives snap
    | _ => True
  | .shutdownReturns _ => (∀ l ∈ st.ladder, l.stage.quiet = true) ∧ none ∉ st.reclassifying
  | _ => True

instance (st : State) (label : Label) : Decidable (st.Quiescent label) := by
  unfold Quiescent Revives
  cases label with
  | ladder input => cases input <;> infer_instance
  | watchRecord i =>
    dsimp only
    split <;> infer_instance
  | reclassify i =>
    dsimp only
    split <;> infer_instance
  | _ => infer_instance

/-- What holds of a shutdown while its bounded wait has kept every ladder out. -/
structure Absorbed (st : State) : Prop where
  state : st.down = true → st.state ≠ .streaming ∧ st.state ≠ .recovering
  stops : st.caller.stops = true → st.down = true
  connects : st.caller.connects = true → st.returned = false
  brings : st.caller.brings = true → st.returned = false ∧ st.down = false
  returned : st.returned = true → st.down = true
  ladder : st.returned = true → ∀ l ∈ st.ladder, l.stage.quiet = true
  reclassifying : st.returned = true → none ∉ st.reclassifying
  calls : ∀ c ∈ st.calls, c.2 = false

end State

section

variable {policy : DriverPolicy} {st st' : State} {label : Label}

theorem LadderStage.quiet_of_callsNext {stage : LadderStage} (calling : stage.callsNext = true) :
    stage.quiet = false := by
  cases stage <;> first | rfl | cases calling

namespace State

namespace Absorbed

theorem initial : Absorbed State.initial where
  state down := absurd down Bool.false_ne_true
  stops stops := absurd stops Bool.false_ne_true
  connects _ := rfl
  brings brings := absurd brings Bool.false_ne_true
  returned returned := absurd returned Bool.false_ne_true
  ladder returned := absurd returned Bool.false_ne_true
  reclassifying returned := absurd returned Bool.false_ne_true
  calls _ member := absurd member List.not_mem_nil

theorem climbs_state {input : LadderInput} {l : Ladder} (sound : Absorbed st)
    (legal : st.Quiescent (.ladder input)) (held : st.ladder = some l)
    (climbs : Climbs policy st l input st') (down : st'.down = true) :
    st'.state ≠ .streaming ∧ st'.state ≠ .recovering := by
  cases climbs with
  | taken | started | called | polled | left | released => exact sound.state down
  | entered stage => exact absurd stage (legal l held down).1
  | reported => exact ⟨nofun, nofun⟩
  | closed stage => exact absurd stage (legal l held down).2

theorem state_step (sound : Absorbed st) (legal : st.Quiescent label)
    (moved : Moves policy st label st') (down : st'.down = true) :
    st'.state ≠ .streaming ∧ st'.state ≠ .recovering := by
  cases moved with
  | published | booked | entered | excluded | read | dropped | armed | stopped | returned | began
    | retried | raised | watched | reconnected | held | released | submitted | executed =>
    exact sound.state down
  | recorded i snap found up free =>
    simp only [Quiescent, found] at legal
    exact ⟨fun streams => legal free ⟨down, up, streams⟩, classify_ne_recovering _ _ _⟩
  | climbed input l held climbs => exact climbs_state sound legal held climbs down
  | reclassified i snap found up =>
    simp only [Quiescent, found] at legal
    exact ⟨fun streams => legal ⟨down, up, streams⟩, classify_ne_recovering _ _ _⟩
  | shut | exhausted => exact ⟨nofun, nofun⟩
  | connected => cases down
  | brought state caller rebuild brings =>
    have up := (sound.brings brings).2
    exact absurd (up.symm.trans down) Bool.false_ne_true

theorem stops_step (sound : Absorbed st) (moved : Moves policy st label st')
    (stops : st'.caller.stops = true) : st'.down = true := by
  cases moved with
  | published | booked | recorded | entered | excluded | read | reclassified | dropped | armed
    | watched | reconnected | held | released | submitted | executed => exact sound.stops stops
  | climbed input l held climbs =>
    obtain ⟨caller, -, down, -⟩ := climbs.frame
    rw [caller] at stops
    exact down.trans (sound.stops stops)
  | shut => rfl
  | stopped i caller stopEvt thread before => exact sound.stops before
  | returned | began | connected | retried | exhausted | raised => cases stops
  | brought state caller rebuild brings after =>
    rcases after with after | rfl
    · exact absurd ((Caller.of_brings after).1.symm.trans stops) Bool.false_ne_true
    · cases stops

theorem connects_step (sound : Absorbed st) (moved : Moves policy st label st')
    (connects : st'.caller.connects = true) : st'.returned = false := by
  cases moved with
  | published | booked | recorded | entered | excluded | read | reclassified | dropped | armed
    | watched | reconnected | held | released | submitted | executed =>
    exact sound.connects connects
  | climbed input l held climbs =>
    obtain ⟨caller, -, -, returned, -⟩ := climbs.frame
    rw [caller] at connects
    exact returned.trans (sound.connects connects)
  | began => rfl
  | shut | returned | connected | exhausted | raised => cases connects
  | stopped i caller stopEvt thread before after =>
    exact absurd ((Caller.of_stops after).2.symm.trans connects) Bool.false_ne_true
  | brought state caller rebuild brings after =>
    rcases after with after | rfl
    · exact absurd ((Caller.of_brings after).2.symm.trans connects) Bool.false_ne_true
    · cases connects
  | retried attempt brings => exact (sound.brings brings).1

theorem brings_step (sound : Absorbed st) (moved : Moves policy st label st')
    (brings : st'.caller.brings = true) : st'.returned = false ∧ st'.down = false := by
  cases moved with
  | published | booked | recorded | entered | excluded | read | reclassified | dropped | armed
    | watched | reconnected | held | released | submitted | executed => exact sound.brings brings
  | climbed input l held climbs =>
    obtain ⟨caller, -, down, returned, -⟩ := climbs.frame
    rw [caller] at brings
    rw [returned, down]
    exact sound.brings brings
  | shut | returned | began | retried | exhausted | raised => cases brings
  | stopped i caller stopEvt thread before after =>
    exact absurd ((Caller.of_stops after).1.symm.trans brings) Bool.false_ne_true
  | connected attempt connecting =>
    have connects : st.caller.connects = true := by rw [connecting]; rfl
    exact ⟨sound.connects connects, rfl⟩
  | brought state caller rebuild before => exact sound.brings before

theorem returned_step (sound : Absorbed st) (moved : Moves policy st label st')
    (returned : st'.returned = true) : st'.down = true := by
  cases moved with
  | published | booked | recorded | entered | excluded | read | reclassified | dropped | armed
    | stopped | retried | exhausted | raised | brought | watched | reconnected | held | released
    | submitted | executed => exact sound.returned returned
  | climbed input l held climbs =>
    obtain ⟨-, -, down, same, -⟩ := climbs.frame
    exact down.trans (sound.returned (same.symm.trans returned))
  | shut => rfl
  | returned timedOut waits => exact sound.stops (by rw [waits]; rfl)
  | began => cases returned
  | connected attempt connecting =>
    have connects : st.caller.connects = true := by rw [connecting]; rfl
    exact absurd ((sound.connects connects).symm.trans returned) Bool.false_ne_true

/-- A quiet ladder of a driver that is shut down takes only quiet steps. -/
theorem climbs_quiet {input : LadderInput} {l : Ladder} (legal : st.Quiescent (.ladder input))
    (held : st.ladder = some l) (down : st.down = true) (quiet : l.stage.quiet = true)
    (climbs : Climbs policy st l input st') :
    (∀ next ∈ st'.ladder, next.stage.quiet = true) ∧ st'.calls = st.calls ∧
      (none ∉ st.reclassifying → none ∉ st'.reclassifying) := by
  have idle (calling : l.stage.callsNext = true) : False := by
    rw [LadderStage.quiet_of_callsNext calling] at quiet
    cases quiet
  cases climbs with
  | taken =>
    refine ⟨?_, rfl, id⟩
    rintro next ⟨⟩
    rfl
  | entered stage => exact absurd stage (legal l held down).1
  | started stage => exact (idle (by rw [stage]; rfl)).elim
  | called input call next calling => exact (idle calling).elim
  | polled call calling => exact (idle calling).elim
  | reported stage =>
    rw [stage] at quiet
    cases quiet
  | closed stage => exact absurd stage (legal l held down).2
  | left ok stage =>
    refine ⟨?_, rfl, id⟩
    rintro next ⟨⟩
    rw [stage] at quiet
    cases ok <;> first | rfl | cases quiet
  | released ok stage =>
    refine ⟨nofun, rfl, ?_⟩
    rw [stage] at quiet
    cases ok
    · cases quiet
    · exact id

theorem ladder_step (sound : Absorbed st) (legal : st.Quiescent label)
    (moved : Moves policy st label st') (returned : st'.returned = true) :
    ∀ l ∈ st'.ladder, l.stage.quiet = true := by
  cases moved with
  | published | booked | recorded | excluded | read | reclassified | dropped | armed | shut
    | stopped | connected | brought | retried | exhausted | raised | watched | reconnected | held
    | released | submitted | executed => exact sound.ladder returned
  | entered =>
    rintro l ⟨⟩
    rfl
  | climbed input l held climbs =>
    have before : st.returned = true := climbs.frame.2.2.2.1.symm.trans returned
    have quiet := sound.ladder before l held
    exact (climbs_quiet legal held (sound.returned before) quiet climbs).1
  | returned => exact legal.1
  | began => cases returned

theorem reclassifying_step (sound : Absorbed st) (legal : st.Quiescent label)
    (moved : Moves policy st label st') (returned : st'.returned = true) :
    none ∉ st'.reclassifying := by
  cases moved with
  | published | booked | recorded | entered | excluded | armed | shut | stopped | connected
    | brought | retried | exhausted | raised | watched | reconnected | held | released | submitted
    | executed => exact sound.reclassifying returned
  | climbed input l held climbs =>
    have before : st.returned = true := climbs.frame.2.2.2.1.symm.trans returned
    have quiet := sound.ladder before l held
    exact (climbs_quiet legal held (sound.returned before) quiet climbs).2.2
      (sound.reclassifying before)
  | read i found => exact absurd (List.mem_of_getElem? found) (sound.reclassifying returned)
  | reclassified | dropped =>
    exact fun pending => sound.reclassifying returned (List.mem_of_mem_eraseIdx pending)
  | returned => exact legal.2
  | began => cases returned

theorem calls_step (sound : Absorbed st) (legal : st.Quiescent label)
    (moved : Moves policy st label st') : ∀ c ∈ st'.calls, c.2 = false := by
  have unheard (call : LadderCall) (up : st.returned = false) :
      ∀ c ∈ st.calls ++ [(call, st.returned)], c.2 = false := by
    intro c member
    rcases List.mem_append.mp member with old | new
    · exact sound.calls c old
    · rw [List.mem_singleton.mp new]
      exact up
  cases moved with
  | published | booked | recorded | entered | excluded | reclassified | dropped | armed | shut
    | stopped | returned | began | connected | brought | retried | exhausted | raised | watched
    | reconnected | held | released | submitted | executed => exact sound.calls
  | read i found =>
    apply unheard
    by_contra returned
    rw [Bool.not_eq_false] at returned
    exact sound.reclassifying returned (List.mem_of_getElem? found)
  | climbed input l held climbs =>
    cases up : st.returned with
    | true =>
      have quiet := sound.ladder up l held
      rw [(climbs_quiet legal held (sound.returned up) quiet climbs).2.1]
      exact sound.calls
    | false =>
      cases climbs with
      | taken | entered | reported | closed | left | released => exact sound.calls
      | started | called | polled => exact unheard _ up

theorem step (sound : Absorbed st) (legal : st.Quiescent label)
    (moved : Moves policy st label st') : Absorbed st' where
  state := sound.state_step legal moved
  stops := sound.stops_step moved
  connects := sound.connects_step moved
  brings := sound.brings_step moved
  returned := sound.returned_step moved
  ladder := sound.ladder_step legal moved
  reclassifying := sound.reclassifying_step legal moved
  calls := sound.calls_step legal moved

end Absorbed

end State

/-- Once `shutdown()` has set SHUTTING_DOWN no motion is accepted until a bring-up sets a state,
and no ladder makes a call after `shutdown()` has returned. -/
theorem shutdown_absorbs
    (reached : (supervisor policy).Reachable State.Quiescent st) :
    (st.down = true → st.state ≠ .streaming ∧ st.state ≠ .recovering ∧
      st.commandRejectReason.isSome = true) ∧
    ∀ c ∈ st.calls, c.2 = false := by
  have sound : st.Absorbed := by
    apply reached.invariant State.Absorbed.initial
    intro a b label sound legal moved
    exact sound.step legal (step_moves moved)
  refine ⟨?_, sound.calls⟩
  intro down
  obtain ⟨streaming, recovering⟩ := sound.state down
  exact ⟨streaming, recovering, State.rejects_of_state streaming⟩

end

/-- `shutdown()` waits for a ladder that has lost its core, and returns. -/
theorem shutdown_absorbs_ladder : ∃ st : State,
    (supervisor .shipped).Reachable State.Quiescent st ∧
    (st.returned = true ∧ st.calls.length = 8) ∧
    (st.down = true → st.state ≠ .streaming ∧ st.state ≠ .recovering ∧
      st.commandRejectReason.isSome = true) ∧
    ∀ c ∈ st.calls, c.2 = false := by
  obtain ⟨st, reached, tested⟩ := Machine.reachable_of_test (supervisor .shipped) State.Quiescent
    (broughtUp ++ relaunched ++ [.shutdown, .setStop, .join, .ladder (.waited false), .ladder .go,
      .ladder .go, .reclassify 0, .reclassify 0, .shutdownReturns false, .enter true])
    (fun st : State => decide (st.returned = true ∧ st.calls.length = 8)) (by decide +kernel)
    (by decide +kernel)
  exact ⟨st, reached, of_decide_eq_true tested, shutdown_absorbs reached⟩

/-- The ladder has seen HOLD when `shutdown()` sets SHUTTING_DOWN, and then sets STREAMING. -/
theorem closing_ladder_revives : ∃ st : State,
    (supervisor .shipped).Reachable (fun _ _ => True) st ∧
    st.down = true ∧ st.state = .streaming ∧ st.commandRejectReason = none := by
  obtain ⟨st, reached, tested⟩ := Machine.reachable_of_run (supervisor .shipped)
    (broughtUp ++ relaunched ++ [.ladder (.waited true), .ladder (.result .returns),
      .ladder (.waited true), .shutdown, .ladder .go])
    (fun st : State => decide (st.down = true ∧ st.state = .streaming ∧
      st.commandRejectReason = none))
    (by decide +kernel)
  exact ⟨st, reached, of_decide_eq_true tested⟩

end AiroFanuc.Driver
