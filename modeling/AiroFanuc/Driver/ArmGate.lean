import AiroFanuc.Driver.Moves

/-! The gate that keeps motion refused after a fault with a person at the pendant. -/

namespace AiroFanuc.Driver

open RtCore Library

theorem requiresArm_cases {fault : FaultReason} (arms : requiresArm fault = true) :
    fault = .eStop ∨ fault = .inError := by
  simpa [requiresArm, armFaults] using arms

/-- A core that streams is seen as faulted in a fault that requires arming. -/
theorem classify_requiresArm {mode : Mode} {fault : FaultReason} (up : mode ≠ .streamDown)
    (arms : requiresArm fault = true) : classify mode fault false = .faulted := by
  rcases requiresArm_cases arms with rfl | rfl
  · by_cases silent : mode = .rxSilent <;> simp [classify, silent, up, degradedFaults]
  · by_cases silent : mode = .rxSilent <;> simp [classify, silent, up, degradedFaults]

/-- The steps at which the supervisor comes to a fault that requires arming: a watch tick outside
a ladder has read it of a core that streams, a reclassification has read it, a ladder reports
SYST-348, a ladder or `shutdown()` begins with it on record. -/
def State.looks (st : State) : Label → Bool
  | .watchRecord i =>
    match st.watchers[i]? with
    | some (.read snap) => requiresArm snap.fault && decide (snap.mode ≠ .streamDown) &&
        decide (st.state ≠ .shuttingDown) && !st.recovering
    | _ => false
  | .reclassify i =>
    match st.reclassifying[i]? with
    | some (some snap) => requiresArm snap.fault && decide (st.state ≠ .shuttingDown)
    | _ => false
  | .ladder .go =>
    match st.ladder.map Ladder.stage with
    | some .reporting => true
    | some .entered => requiresArm st.faultReason
    | _ => false
  | .shutdown => requiresArm st.faultReason
  | _ => false

/-- The supervisor, with the faults that require arming that the core raised since the last
`arm()`, and whether the supervisor has come to one since. -/
structure ArmWatch where
  st : State
  unarmed : List FaultReason
  looked : Bool

namespace ArmWatch

def raise (w : ArmWatch) (snap : Snapshot) : List FaultReason :=
  if requiresArm snap.fault ∧ snap.fault ≠ w.st.core.fault then snap.fault :: w.unarmed
  else w.unarmed

def note (w : ArmWatch) (label : Label) (st : State) : ArmWatch where
  st := st
  unarmed :=
    match label with
    | .publish snap => w.raise snap
    | .arm => []
    | _ => w.unarmed
  looked :=
    match label with
    | .arm => false
    | label => w.looked || w.st.looks label

def machine (policy : DriverPolicy) : Machine ArmWatch Label where
  start := ⟨.initial, [], false⟩
  step := fun w label => (w.st.step policy label).map (w.note label)

/-- The core does not leave a fault that requires arming, raised since the last `arm()`, before the
supervisor has come to such a fault since. -/
def Observing (w : ArmWatch) : Label → Prop
  | .publish snap =>
    snap.fault ≠ w.st.core.fault → w.st.core.fault ∈ w.unarmed → w.looked = true
  | _ => True

instance (w : ArmWatch) (label : Label) : Decidable (w.Observing label) :=
  match label with
  | .publish snap => inferInstanceAs (Decidable
      (snap.fault ≠ w.st.core.fault → w.st.core.fault ∈ w.unarmed → w.looked = true))
  | .advance _ | .watchLoop _ | .watchRead _ | .watchRecord _ | .watchAct _ | .watchReadError _ _
  | .enter _ | .ladder _ | .reclassify _ | .arm | .shutdown | .setStop | .join | .shutdownReturns _
  | .bringup | .bring | .bringFails _ | .startWatch | .reconnect | .holdGate | .releaseGate
  | .gripperSubmit | .gripperExecute => inferInstanceAs (Decidable True)

/-- The gate is latched by every fault that it is there for. -/
structure Gated (w : ArmWatch) : Prop where
  latched : w.looked = true → w.st.motionInhibited = true
  looked : ∀ fault ∈ w.unarmed, w.st.core.fault ≠ fault → w.looked = true

end ArmWatch

section

variable {policy : DriverPolicy} {st st' : State} {label : Label} {w v : ArmWatch}

/-! ### What latches the gate -/

theorem State.setStateLocked_latches (st : State) (gate : policy.armGate = true)
    (state : LifecycleState) {fault : FaultReason} (arms : requiresArm fault = true)
    (operatorRequired : Bool) :
    (st.setStateLocked policy state fault operatorRequired).motionInhibited = true := by
  show (st.motionInhibited || policy.armGate && requiresArm fault) = true
  rw [gate, arms, Bool.and_true, Bool.or_true]

theorem watchRecord_latches {i : Nat} (gate : policy.armGate = true)
    (looks : st.looks (.watchRecord i) = true) (moved : st.watchRecord policy i = some st') :
    st'.motionInhibited = true := by
  unfold State.watchRecord at moved
  unfold State.looks at looks
  cases found : st.watchers[i]? with
  | none => simp [found] at moved
  | some stage =>
    cases stage with
    | top | ticking | recorded snap | syst348 => simp [found] at moved
    | read snap =>
      simp only [found, Option.some.injEq] at moved
      simp only [found, Bool.and_eq_true, decide_eq_true_eq, Bool.not_eq_true'] at looks
      obtain ⟨⟨⟨arms, up⟩, running⟩, free⟩ := looks
      subst moved
      have seen := classify_requiresArm up arms
      show (st.observe policy snap).motionInhibited = true
      simp only [State.observe, seen, if_pos (And.intro running free), true_or, if_true]
      exact State.setStateLocked_latches _ gate .faulted arms false

theorem reclassify_latches {i : Nat} (gate : policy.armGate = true)
    (looks : st.looks (.reclassify i) = true) (moved : st.reclassify policy i = some st') :
    st'.motionInhibited = true := by
  unfold State.reclassify at moved
  unfold State.looks at looks
  cases found : st.reclassifying[i]? with
  | none => simp [found] at moved
  | some read =>
    cases read with
    | none => simp [found] at looks
    | some snap =>
      simp only [found, Option.some.injEq] at moved
      simp only [found, Bool.and_eq_true, decide_eq_true_eq] at looks
      obtain ⟨arms, running⟩ := looks
      subst moved
      have seen : classify snap.mode snap.fault false ≠ .streaming := by
        intro streams
        rw [classify_streaming streams] at arms
        exact absurd arms (by decide)
      show (st.reclassified policy snap).motionInhibited = true
      simp only [State.reclassified, if_pos running, if_pos seen]
      exact State.setStateLocked_latches _ gate _ arms _

theorem ladderStep_latches (gate : policy.armGate = true) (looks : st.looks (.ladder .go) = true)
    (moved : st.ladderStep policy .go = some st') : st'.motionInhibited = true := by
  unfold State.ladderStep at moved
  unfold State.looks at looks
  cases held : st.ladder with
  | none => simp [held] at moved
  | some l =>
    simp only [held] at moved
    simp only [held, Option.map_some] at looks
    split at looks
    case h_1 stage =>
      have reporting : l.stage = .reporting := Option.some.inj stage
      simp only [State.climb, reporting, Option.some.injEq] at moved
      subst moved
      show (st.motionInhibited || policy.armGate || _) = true
      rw [gate, Bool.or_true, Bool.true_or]
    case h_2 stage =>
      have entered : l.stage = .entered := Option.some.inj stage
      simp only [State.climb, entered, Option.some.injEq] at moved
      subst moved
      exact State.setStateLocked_latches st gate .recovering looks false
    case h_3 => cases looks

/-- Where the supervisor comes to a fault that requires arming, it latches the gate. -/
theorem looks_latches (gate : policy.armGate = true) (looks : st.looks label = true)
    (moved : st.step policy label = some st') : st'.motionInhibited = true := by
  cases label with
  | watchRecord i => exact watchRecord_latches gate looks moved
  | reclassify i => exact reclassify_latches gate looks moved
  | ladder input =>
    cases input with
    | go => exact ladderStep_latches gate looks moved
    | result | poll | waited | listed => cases looks
  | shutdown =>
    have moved : st.shutdown policy = some st' := moved
    unfold State.shutdown at moved
    have arms : requiresArm st.faultReason = true := looks
    split at moved
    case h_1 => cases moved; exact State.setStateLocked_latches st gate .shuttingDown arms false
    case h_2 => cases moved; exact State.setStateLocked_latches st gate .shuttingDown arms false
    case h_3 => cases moved
  | publish | advance | watchLoop | watchRead | watchAct | watchReadError | enter | arm | setStop
  | join | shutdownReturns | bringup | bring | bringFails | startWatch | reconnect | holdGate
  | releaseGate | gripperSubmit | gripperExecute => cases looks

/-! ### What keeps it latched -/

theorem latched_or {inhibited : Bool} (latched : inhibited = true) (more : Bool) :
    (inhibited || more) = true := by
  rw [latched, Bool.true_or]

theorem Climbs.keeps_latch {input : LadderInput} {l : Ladder}
    (climbs : Climbs policy st l input st') (latched : st.motionInhibited = true) :
    st'.motionInhibited = true := by
  cases climbs with
  | taken | started | called | polled | left | released => exact latched
  | entered | closed => exact latched_or latched _
  | reported => exact latched_or (latched_or latched policy.armGate) _

/-- Nothing but `arm()` takes the gate down. -/
theorem Moves.keeps_latch (moved : Moves policy st label st') (other : label ≠ .arm)
    (latched : st.motionInhibited = true) : st'.motionInhibited = true := by
  cases moved with
  | published | booked | entered | excluded | read | dropped | stopped | returned | began
    | retried | raised | watched | reconnected | held | released | submitted | executed =>
    exact latched
  | recorded | reclassified | shut | connected | brought | exhausted => exact latched_or latched _
  | climbed input l held climbs => exact climbs.keeps_latch latched
  | armed => exact absurd rfl other

/-- Nothing but the core moves the core. -/
theorem Moves.core (moved : Moves policy st label st') (other : ∀ snap, label ≠ .publish snap) :
    st'.core = st.core := by
  cases moved with
  | published snap => exact absurd rfl (other snap)
  | climbed input l held climbs => exact climbs.frame.2.2.2.2.1
  | booked | entered | excluded | read | dropped | stopped | returned | began | retried | raised
    | watched | reconnected | held | released | submitted | executed | recorded | reclassified
    | shut | connected | brought | exhausted | armed => rfl

namespace ArmWatch

theorem start_gated (policy : DriverPolicy) : (machine policy).start.Gated where
  latched looked := absurd looked Bool.false_ne_true
  looked _ member := absurd member List.not_mem_nil

/-- The core's next fault: the supervisor had come to the one it leaves. -/
theorem Gated.publish (sound : w.Gated) {snap : Snapshot} (legal : w.Observing (.publish snap))
    (fault : FaultReason) (member : fault ∈ w.raise snap) (out : snap.fault ≠ fault) :
    w.looked = true := by
  have old : fault ∈ w.unarmed := by
    unfold raise at member
    split at member
    · exact (List.mem_cons.mp member).resolve_left out.symm
    · exact member
  by_cases left : w.st.core.fault = fault
  · rw [← left] at old out
    exact legal out old
  · exact sound.looked fault old left

theorem Gated.step (gate : policy.armGate = true) (sound : w.Gated) (legal : w.Observing label)
    (moved : (machine policy).step w label = some v) : v.Gated := by
  obtain ⟨st, stepped, rfl⟩ := Option.map_eq_some_iff.mp moved
  have moves := step_moves stepped
  have latched (other : label ≠ .arm) (looked : (w.looked || w.st.looks label) = true) :
      st.motionInhibited = true := by
    rcases (Bool.or_eq_true _ _).mp looked with before | looks
    · exact moves.keeps_latch other (sound.latched before)
    · exact looks_latches gate looks stepped
  cases label with
  | arm => exact ⟨fun looked => absurd looked Bool.false_ne_true,
      fun fault member => absurd member List.not_mem_nil⟩
  | publish snap =>
    refine ⟨latched nofun, fun fault member out => ?_⟩
    cases stepped
    exact latched_or (sound.publish legal fault member out) _
  | advance | watchLoop | watchRead | watchRecord | watchAct | watchReadError | enter | ladder
  | reclassify | shutdown | setStop | join | shutdownReturns | bringup | bring | bringFails
  | startWatch | reconnect | holdGate | releaseGate | gripperSubmit | gripperExecute =>
    have core := moves.core (by simp)
    refine ⟨latched (by simp), fun fault member out => ?_⟩
    have out : st.core.fault ≠ fault := out
    rw [core] at out
    exact latched_or (sound.looked fault member out) _

end ArmWatch

/-- After a fault that requires arming the driver refuses motion until it is armed, whenever the
core is out of that fault. -/
theorem unarmed_fault_refuses_motion (gate : policy.armGate = true)
    (reached : (ArmWatch.machine policy).Reachable ArmWatch.Observing w) :
    ∀ fault ∈ w.unarmed, w.st.core.fault ≠ fault → w.st.commandRejectReason.isSome = true := by
  have sound : w.Gated := by
    apply reached.invariant (ArmWatch.start_gated policy)
    intro a b label sound legal moved
    exact sound.step gate legal moved
  intro fault member out
  exact State.rejects_of_inhibited (sound.latched (sound.looked fault member out))

end

def inEStop : Snapshot := ⟨.safeFollow, .eStop, false, true, false, false, 1⟩

def released : Snapshot := ⟨.safeFollow, .eStop, false, false, false, true, 1⟩

def standing : Snapshot := ⟨.hold, .none, false, false, false, true, 2⟩

/-- An e-stop that a watch tick sees, and the recovery behind it. -/
theorem unarmed_fault_refuses_motion_recovered : ∃ w : ArmWatch,
    (ArmWatch.machine .shipped).Reachable ArmWatch.Observing w ∧
    (w.unarmed = [.eStop] ∧ w.st.core.fault = .none ∧ w.st.state = .streaming) ∧
    ∀ fault ∈ w.unarmed, w.st.core.fault ≠ fault → w.st.commandRejectReason.isSome = true := by
  obtain ⟨w, reached, tested⟩ := Machine.reachable_of_test (ArmWatch.machine .shipped)
    ArmWatch.Observing
    (broughtUp ++ [.publish inEStop, .watchLoop 0, .watchRead 0, .watchRecord 0,
      .publish released] ++ relaunched ++
      [.ladder (.waited true), .ladder (.result .returns), .publish standing,
        .ladder (.waited true), .ladder .go])
    (fun w : ArmWatch => decide (w.unarmed = [.eStop] ∧ w.st.core.fault = .none ∧
      w.st.state = .streaming)) (by decide +kernel) (by decide +kernel)
  exact ⟨w, reached, of_decide_eq_true tested, unarmed_fault_refuses_motion rfl reached⟩

/-- The e-stop comes and goes behind the ladder's look at the core, while the watch skips. -/
theorem eStop_behind_ladder_is_unseen : ∃ w : ArmWatch,
    (ArmWatch.machine .shipped).Reachable (fun _ _ => True) w ∧
    (∃ fault ∈ w.unarmed, w.st.core.fault ≠ fault) ∧ w.st.state = .streaming ∧
    w.st.commandRejectReason = none := by
  obtain ⟨w, reached, tested⟩ := Machine.reachable_of_run (ArmWatch.machine .shipped)
    (broughtUp ++
      [.publish ⟨.safeFollow, .motionNotPossible, false, false, false, false, 1⟩, .watchLoop 0,
        .watchRead 0, .watchRecord 0, .watchAct 0] ++ relaunched ++
      [.publish inEStop, .publish released, .ladder (.waited true), .ladder (.result .returns),
        .publish standing, .ladder (.waited true), .ladder .go])
    (fun w : ArmWatch => decide ((∃ fault ∈ w.unarmed, w.st.core.fault ≠ fault) ∧
      w.st.state = .streaming ∧ w.st.commandRejectReason = none))
    (by decide +kernel)
  exact ⟨w, reached, of_decide_eq_true tested⟩

end AiroFanuc.Driver
