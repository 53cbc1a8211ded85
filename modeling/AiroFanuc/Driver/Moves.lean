import AiroFanuc.Driver.Supervisor

/-! What each step of the supervisor's threads changes, said once. -/

namespace AiroFanuc.Driver

open RtCore Library

namespace State

variable {st : State}

theorem rejects_of_inhibited (inhibited : st.motionInhibited = true) :
    st.commandRejectReason.isSome = true := by
  unfold commandRejectReason
  rw [if_pos inhibited]
  rfl

theorem rejects_of_state (streaming : st.state ≠ .streaming) :
    st.commandRejectReason.isSome = true := by
  unfold commandRejectReason
  rw [if_pos streaming]
  split <;> rfl

end State

namespace LadderStage

/-- The ladder holds the gripper's gate. -/
def gated : LadderStage → Bool
  | taken | released _ => false
  | _ => true

/-- The next step of the ladder is a call on the RMI client or on the core. -/
def callsNext : LadderStage → Bool
  | taken | entered | reporting | closing | leaving _ | released _ => false
  | _ => true

end LadderStage

/-- A step of the ladder and all it changes. -/
inductive Climbs (policy : DriverPolicy) (st : State) (l : Ladder) :
    LadderInput → State → Prop
  | taken (stage : l.stage = .taken) :
      Climbs policy st l .go ({ st with gripperGate := true }.goes l .entered)
  | entered (stage : l.stage = .entered) :
      Climbs policy st l .go
        ((st.setStateLocked policy .recovering st.faultReason false).goes l .checking)
  | started (stage : l.stage = .checking) :
      Climbs policy st l .go
        ({ st.called .getSnapshot with lastRecoveryMono := some st.now }.goes l (.resetting none))
  | called (input : LadderInput) (call : LadderCall) (next : LadderStage)
      (calling : l.stage.callsNext = true) (gated : next.gated = true) :
      Climbs policy st l input ((st.called call).goes l next)
  | polled (call : LadderCall) (calling : l.stage.callsNext = true) :
      Climbs policy st l .poll (st.called call)
  | reported (stage : l.stage = .reporting) :
      Climbs policy st l .go ((st.enterOperatorRequired policy).goes l (.leaving false))
  | closed (stage : l.stage = .closing) :
      Climbs policy st l .go ((st.completeRecovery policy).goes l (.leaving true))
  | left (ok : Bool) (stage : l.stage = .leaving ok) :
      Climbs policy st l .go ({ st with gripperGate := false }.goes l (.released ok))
  | released (ok : Bool) (stage : l.stage = .released ok) :
      Climbs policy st l .go
        { st with
          recovering := false
          ladder := none
          reclassifying := if ok then st.reclassifying else st.reclassifying ++ [none] }

theorem nextReconnect_gated (policy : DriverPolicy) (attempt : Nat) :
    (State.nextReconnect policy attempt).gated = true := by
  unfold State.nextReconnect
  split <;> rfl

theorem failed_gated (policy : DriverPolicy) (via : Via) (r : CallResult) :
    (State.failed policy via r).gated = true := by
  cases via <;> cases r <;> simp only [State.failed, nextReconnect_gated]
  all_goals try rfl
  all_goals split <;> first | rfl | exact nextReconnect_gated policy _

section

variable {policy : DriverPolicy} {st st' : State} {l : Ladder}

theorem climb_go (moved : st.climb policy l .go = some st') : Climbs policy st l .go st' := by
  simp only [State.climb] at moved
  split at moved
  case h_1 stage => cases moved; exact .taken stage
  case h_2 stage => cases moved; exact .entered stage
  case h_3 stage =>
    split at moved
    · cases moved
      exact .called _ .getSnapshot _ (by rw [stage]; rfl) rfl
    · cases moved
      exact .started stage
  case h_4 stage =>
    cases moved
    exact .called _ .getSnapshot _ (by rw [stage]; rfl) (by split <;> rfl)
  case h_5 attempt stage =>
    cases moved
    exact .called _ .getSnapshot _ (by rw [stage]; rfl) (by split <;> rfl)
  case h_6 stage => cases moved; exact .reported stage
  case h_7 stage => cases moved; exact .closed stage
  case h_8 ok stage => cases moved; exact .left ok stage
  case h_9 ok stage => cases moved; exact .released ok stage
  case h_10 => cases moved

theorem climb_result {r : CallResult} (moved : st.climb policy l (.result r) = some st') :
    Climbs policy st l (.result r) st' := by
  simp only [State.climb] at moved
  split at moved
  case h_1 via stage =>
    cases moved
    refine .called _ .reset _ (by rw [stage]; rfl) ?_
    cases r <;> first | rfl | exact failed_gated policy _ _
  case h_2 via stage =>
    cases moved
    refine .called _ .programContinue _ (by rw [stage]; rfl) ?_
    cases r <;> cases via <;> first | rfl | exact failed_gated policy _ _
  case h_3 via stage =>
    cases moved
    refine .called _ .reseedSequenceId _ (by rw [stage]; rfl) ?_
    cases r <;> cases via <;> first | rfl | exact failed_gated policy _ _
  case h_4 via stage =>
    cases moved
    refine .called _ .programCall _ (by rw [stage]; rfl) ?_
    cases r <;> first | rfl | exact failed_gated policy _ _
  case h_5 attempt stage =>
    cases moved
    exact .called _ .stop _ (by rw [stage]; rfl) rfl
  case h_6 attempt tries stage =>
    cases moved
    refine .called _ .start _ (by rw [stage]; rfl) ?_
    cases r with
    | rmiError errorId =>
      show LadderStage.gated (if _ then _ else _) = true
      split
      · rfl
      · exact failed_gated policy _ _
    | returns => rfl
    | sessionDown | connectionError | raises => exact failed_gated policy _ _
  case h_7 stage =>
    cases moved
    refine .called _ .recover _ (by rw [stage]; rfl) ?_
    cases r <;> rfl
  case h_8 => cases moved

theorem climb_moves {input : LadderInput} (moved : st.climb policy l input = some st') :
    Climbs policy st l input st' := by
  cases input with
  | go => exact climb_go moved
  | result r => exact climb_result moved
  | poll =>
    simp only [State.climb] at moved
    split at moved
    case h_1 stage => cases moved; exact .polled _ (by rw [stage]; rfl)
    case h_2 stage => cases moved; exact .polled _ (by rw [stage]; rfl)
    case h_3 => cases moved
  | waited ok =>
    simp only [State.climb] at moved
    split at moved
    case h_1 stage =>
      split at moved <;> cases moved
      exact .called _ .getSnapshot _ (by rw [stage]; rfl) (by split <;> rfl)
    case h_2 stage =>
      split at moved <;> cases moved
      exact .called _ .getSnapshot _ (by rw [stage]; rfl) (by split <;> rfl)
    case h_3 => cases moved
  | listed syst348 =>
    simp only [State.climb] at moved
    split at moved
    case h_1 via stage =>
      cases moved
      refine .called _ .readError _ (by rw [stage]; rfl) ?_
      split
      · rfl
      · cases via
        · rfl
        · exact nextReconnect_gated policy _
    case h_2 => cases moved

/-- The ladder leaves the driver's own calls alone. -/
theorem Climbs.frame {input : LadderInput} (climbs : Climbs policy st l input st') :
    st'.caller = st.caller ∧ st'.rebuild = st.rebuild ∧ st'.down = st.down ∧
      st'.returned = st.returned ∧ st'.core = st.core ∧ st'.commands = st.commands ∧
      st'.written = st.written := by
  cases climbs <;> exact ⟨rfl, rfl, rfl, rfl, rfl, rfl, rfl⟩

end

/-- The caller is between `shutdown()` and its return. -/
def Caller.stops : Caller → Bool
  | stopping | joining | waiting => true
  | _ => false

/-- `_bringup_once` has set its first state. -/
def Caller.brings : Caller → Bool
  | launching _ | handshaking _ | settling _ => true
  | _ => false

def Caller.connects : Caller → Bool
  | connecting _ => true
  | _ => false

theorem Caller.of_brings {caller : Caller} (brings : caller.brings = true) :
    caller.stops = false ∧ caller.connects = false := by
  cases caller <;> first | exact ⟨rfl, rfl⟩ | cases brings

theorem Caller.of_stops {caller : Caller} (stops : caller.stops = true) :
    caller.brings = false ∧ caller.connects = false := by
  cases caller <;> first | exact ⟨rfl, rfl⟩ | cases stops

/-- A step and all it changes. -/
inductive Moves (policy : DriverPolicy) (st : State) : Label → State → Prop
  | published (snap : Snapshot) : Moves policy st (.publish snap) (st.publish snap)
  | booked (i : Label) (epoch now spawned : Nat) (lastRecoveryMono lastSyst348 : Option Nat)
      (prevTpEnabled : Option Bool) (operatorRequired : Bool) (watchers : List WatchStage) :
      Moves policy st i
        { st with
          epoch := epoch
          now := now
          spawned := spawned
          lastRecoveryMono := lastRecoveryMono
          lastSyst348WatchMono := lastSyst348
          prevTpEnabled := prevTpEnabled
          operatorRequired := operatorRequired
          watchers := watchers }
  | recorded (i : Nat) (snap : Snapshot) (found : st.watchers[i]? = some (.read snap))
      (up : st.state ≠ .shuttingDown) (free : st.recovering = false) (since : Option Nat)
      (watchers : List WatchStage) :
      Moves policy st (.watchRecord i)
        { { st with faultSinceMono := since }.setStateLocked policy
            (classify snap.mode snap.fault false) snap.fault false with
          watchers := watchers }
  | entered (explicit : Bool) (free : st.recovering = false) (spawned : Nat) :
      Moves policy st (.enter explicit)
        { st with
          spawned := spawned
          recovering := true
          ladder := some ⟨explicit, .taken⟩ }
  | excluded (explicit : Bool) (taken : st.recovering = true) (spawned : Nat) :
      Moves policy st (.enter explicit) { st with spawned := spawned, recovering := true }
  | climbed {st' : State} (input : LadderInput) (l : Ladder) (held : st.ladder = some l)
      (climbs : Climbs policy st l input st') : Moves policy st (.ladder input) st'
  | read (i : Nat) (found : st.reclassifying[i]? = some none) :
      Moves policy st (.reclassify i)
        { st.called .getSnapshot with reclassifying := st.reclassifying.set i (some st.core) }
  | reclassified (i : Nat) (snap : Snapshot) (found : st.reclassifying[i]? = some (some snap))
      (up : st.state ≠ .shuttingDown) :
      Moves policy st (.reclassify i)
        { st.setStateLocked policy (classify snap.mode snap.fault false) snap.fault
            st.operatorRequired with
          reclassifying := st.reclassifying.eraseIdx i }
  | dropped (i : Nat) :
      Moves policy st (.reclassify i) { st with reclassifying := st.reclassifying.eraseIdx i }
  | armed : Moves policy st .arm st.arm
  | shut (idle : st.caller = .idle) (rebuild : Rebuild) (open_ : st.rebuild.holds = false)
      (next : rebuild.holds = false) :
      Moves policy st .shutdown
        { st.setStateLocked policy .shuttingDown st.faultReason false with
          caller := .stopping
          rebuild := rebuild
          down := true }
  | stopped (i : Label) (caller : Caller) (stopEvt thread : Bool)
      (before : st.caller.stops = true) (after : caller.stops = true) :
      Moves policy st i { st with stopEvt := stopEvt, thread := thread, caller := caller }
  | returned (timedOut : Bool) (waits : st.caller = .waiting) :
      Moves policy st (.shutdownReturns timedOut) { st with caller := .idle, returned := true }
  | began (idle : st.caller = .idle) (rebuild : Rebuild) (same : rebuild.holds = st.rebuild.holds) :
      Moves policy st .bringup
        { st with
          stopEvt := false
          returned := false
          caller := .connecting 1
          rebuild := rebuild }
  | connected (attempt : Nat) (connects : st.caller = .connecting attempt) :
      Moves policy st .bring
        { st.setStateLocked policy .rmiConnecting .none false with
          caller := .launching attempt
          down := false }
  | brought (state : LifecycleState) (caller : Caller) (rebuild : Rebuild)
      (brings : st.caller.brings = true) (after : caller.brings = true ∨ caller = .idle)
      (same : rebuild.holds = st.rebuild.holds) :
      Moves policy st .bring
        { st.setStateLocked policy state .none false with caller := caller, rebuild := rebuild }
  | retried (attempt : Nat) (brings : st.caller.brings = true) :
      Moves policy st (.bringFails true) { st with caller := .connecting attempt }
  | exhausted (brings : st.caller.brings = true) (rebuild : Rebuild)
      (same : rebuild.holds = st.rebuild.holds) :
      Moves policy st (.bringFails true)
        { st.setStateLocked policy .disconnected .none false with
          caller := .idle
          rebuild := rebuild }
  | raised (brings : st.caller.brings = true) (rebuild : Rebuild)
      (same : rebuild.holds = st.rebuild.holds) :
      Moves policy st (.bringFails false) { st with caller := .idle, rebuild := rebuild }
  | watched (stopEvt : Bool) (watchers : List WatchStage) (rebuild : Rebuild)
      (same : rebuild.holds = st.rebuild.holds) :
      Moves policy st .startWatch
        { st with
          stopEvt := stopEvt
          thread := true
          watchers := watchers
          rebuild := rebuild }
  | reconnected (free : st.rebuild = .none) :
      Moves policy st .reconnect { st with rebuild := .quiescing }
  | held (shut : st.rebuild = .shutting) :
      Moves policy st .holdGate { st with gripperGate := true, rebuild := .holding }
  | released : Moves policy st .releaseGate { st with gripperGate := false, rebuild := .none }
  | submitted : Moves policy st .gripperSubmit st.gripperSubmit
  | executed (command : Bool) (rest : List Bool) (queued : st.commands = command :: rest) :
      Moves policy st .gripperExecute
        { st with
          commands := rest
          written := if st.gripperGate then st.written else st.written ++ [command] }

section

variable {policy : DriverPolicy} {st st' : State}

/-- A watch tick records its snapshot as it is classified, or nothing. -/
theorem observe_records (policy : DriverPolicy) (st : State) (snap : Snapshot) :
    st.observe policy snap = st ∨
      st.state ≠ .shuttingDown ∧ st.recovering = false ∧ ∃ since,
        st.observe policy snap = { st with faultSinceMono := since }.setStateLocked policy
          (classify snap.mode snap.fault false) snap.fault false := by
  unfold State.observe
  by_cases up : st.state ≠ .shuttingDown ∧ st.recovering = false
  · rw [if_pos up]
    split
    · exact .inr ⟨up.1, up.2, _, rfl⟩
    · split
      case isTrue streams =>
        refine .inr ⟨up.1, up.2, none, ?_⟩
        rw [streams, classify_streaming streams]
      case isFalse => exact .inl rfl
  · rw [if_neg up]
    exact .inl rfl

theorem watchRecord_moves {i : Nat} (moved : st.watchRecord policy i = some st') :
    Moves policy st (.watchRecord i) st' := by
  unfold State.watchRecord at moved
  split at moved
  case h_1 snap found =>
    cases moved
    rcases observe_records policy st snap with same | ⟨up, free, since, recorded⟩
    · rw [same]
      exact .booked _ _ _ _ _ _ _ _ _
    · rw [recorded]
      exact .recorded i snap found up free since _
  case h_2 => cases moved

theorem enter_moves {explicit : Bool} (moved : st.enter explicit = some st') :
    Moves policy st (.enter explicit) st' := by
  unfold State.enter at moved
  split at moved
  · cases moved
  · cases taken : st.recovering
    · simp only [taken, Bool.false_eq_true, if_false] at moved
      cases moved
      exact .entered explicit taken _
    · simp only [taken, if_true] at moved
      cases moved
      exact .excluded explicit taken _

theorem reclassify_moves {i : Nat} (moved : st.reclassify policy i = some st') :
    Moves policy st (.reclassify i) st' := by
  unfold State.reclassify at moved
  split at moved
  case h_1 found => cases moved; exact .read i found
  case h_2 snap found =>
    cases moved
    by_cases up : st.state ≠ .shuttingDown
    · have fault : (if classify snap.mode snap.fault false ≠ .streaming then snap.fault
          else .none) = snap.fault := by
        split
        case isTrue => rfl
        case isFalse streams => exact (classify_streaming (Decidable.not_not.mp streams)).symm
      simp only [State.reclassified, if_pos up, fault]
      exact .reclassified i snap found up
    · simp only [State.reclassified, if_neg up]
      exact .dropped i
  case h_3 => cases moved

theorem shutdown_moves (moved : st.shutdown policy = some st') :
    Moves policy st .shutdown st' := by
  unfold State.shutdown at moved
  split at moved
  case h_1 idle open_ => cases moved; exact .shut idle _ (by rw [open_]; rfl) (by rw [open_]; rfl)
  case h_2 idle open_ => cases moved; exact .shut idle _ (by rw [open_]; rfl) (by rw [open_]; rfl)
  case h_3 => cases moved

theorem bringup_moves (moved : st.bringup = some st') : Moves policy st .bringup st' := by
  unfold State.bringup at moved
  split at moved
  case h_1 idle before => cases moved; exact .began idle _ (by rw [before]; rfl)
  case h_2 idle before => cases moved; exact .began idle _ (by rw [before]; rfl)
  case h_3 => cases moved

theorem holds_of_brought (rebuild next : Rebuild) (holds : next.holds = true) :
    (if rebuild = .bringing then next else rebuild).holds = rebuild.holds := by
  split
  case isTrue bringing => rw [holds, bringing]; rfl
  case isFalse => rfl

theorem bring_moves (moved : st.bring policy = some st') : Moves policy st .bring st' := by
  unfold State.bring at moved
  split at moved
  case h_1 attempt connects => cases moved; exact .connected attempt connects
  case h_2 attempt brings =>
    cases moved
    exact .brought _ _ _ (by rw [brings]; rfl) (.inl rfl) rfl
  case h_3 attempt brings =>
    cases moved
    exact .brought _ _ _ (by rw [brings]; rfl) (.inl rfl) rfl
  case h_4 attempt brings =>
    cases moved
    exact .brought _ _ _ (by rw [brings]; rfl) (.inr rfl) (holds_of_brought _ _ rfl)
  case h_5 => cases moved

theorem bringFails_moves {caught : Bool} (moved : st.bringFails policy caught = some st') :
    Moves policy st (.bringFails caught) st' := by
  have brings : st.caller.brings = true := by
    cases caller : st.caller <;> simp only [State.bringFails, caller] at moved
    all_goals first | rfl | cases moved
  have chosen : st' = st.bringRaises ∧ caught = false ∨
      caught = true ∧ ((∃ attempt, st' = { st with caller := .connecting attempt }) ∨
        st' = (st.setStateLocked policy .disconnected .none false).bringRaises) := by
    unfold State.bringFails at moved
    cases caught
    · split at moved <;> cases moved <;> exact .inl ⟨rfl, rfl⟩
    · refine .inr ⟨rfl, ?_⟩
      simp only [if_true] at moved
      split at moved
      case h_4 => cases moved
      all_goals
        split at moved <;> cases moved
        · exact .inl ⟨_, rfl⟩
        · exact .inr rfl
  rcases chosen with ⟨rfl, rfl⟩ | ⟨rfl, ⟨attempt, rfl⟩ | rfl⟩
  · exact .raised brings _ (holds_of_brought _ _ rfl)
  · exact .retried attempt brings
  · exact .exhausted brings _ (holds_of_brought _ _ rfl)

theorem startWatch_moves (moved : st.startWatch = some st') : Moves policy st .startWatch st' := by
  unfold State.startWatch at moved
  split at moved
  case h_1 idle before => cases moved; exact .watched _ _ _ (by rw [before]; rfl)
  case h_2 idle before => cases moved; exact .watched _ _ _ (by rw [before]; rfl)
  case h_3 => cases moved

/-- A tick of a watch thread, its locked block aside, only books. -/
theorem watch_moves {label : Label} {i : Nat}
    (moved : label = .watchLoop i ∧ st.watchLoop i = some st' ∨
      label = .watchRead i ∧ st.watchRead i = some st' ∨
      label = .watchAct i ∧ st.watchAct policy i = some st' ∨
      ∃ cleared, label = .watchReadError i cleared ∧ st.watchReadError i cleared = some st') :
    Moves policy st label st' := by
  rcases moved with ⟨_, moved⟩ | ⟨_, moved⟩ | ⟨_, moved⟩ | ⟨cleared, _, moved⟩
  · unfold State.watchLoop at moved
    split at moved
    · split at moved <;> cases moved
      exact .booked _ _ _ _ _ _ _ _ _
    · cases moved
  · unfold State.watchRead at moved
    split at moved <;> cases moved
    exact .booked _ _ _ _ _ _ _ _ _
  · unfold State.watchAct at moved
    split at moved
    · split at moved
      · split at moved <;> cases moved <;> exact .booked _ _ _ _ _ _ _ _ _
      · cases moved
        exact .booked _ _ _ _ _ _ _ _ _
    · cases moved
  · unfold State.watchReadError at moved
    split at moved <;> cases moved
    exact .booked _ _ _ _ _ _ _ _ _

theorem caller_moves {label : Label}
    (moved : label = .setStop ∧ st.setStop = some st' ∨ label = .join ∧ st.join = some st') :
    Moves policy st label st' := by
  rcases moved with ⟨_, moved⟩ | ⟨_, moved⟩
  · unfold State.setStop at moved
    split at moved
    case h_1 stopping => cases moved; exact .stopped _ _ _ _ (by rw [stopping]; rfl) rfl
    case h_2 => cases moved
  · unfold State.join at moved
    split at moved
    case h_1 joining => cases moved; exact .stopped _ _ _ _ (by rw [joining]; rfl) rfl
    case h_2 => cases moved

theorem shutdownReturns_moves {timedOut : Bool}
    (moved : st.shutdownReturns timedOut = some st') :
    Moves policy st (.shutdownReturns timedOut) st' := by
  unfold State.shutdownReturns at moved
  split at moved
  case h_1 waits =>
    split at moved <;> cases moved
    exact .returned timedOut waits
  case h_2 => cases moved

theorem step_moves {label : Label} (moved : st.step policy label = some st') :
    Moves policy st label st' := by
  cases label with
  | publish snap => cases moved; exact .published snap
  | advance ms => cases moved; exact .booked _ _ _ _ _ _ _ _ _
  | watchLoop i => exact watch_moves (.inl ⟨rfl, moved⟩)
  | watchRead i => exact watch_moves (.inr (.inl ⟨rfl, moved⟩))
  | watchRecord i => exact watchRecord_moves moved
  | watchAct i => exact watch_moves (.inr (.inr (.inl ⟨rfl, moved⟩)))
  | watchReadError i cleared => exact watch_moves (.inr (.inr (.inr ⟨cleared, rfl, moved⟩)))
  | enter explicit => exact enter_moves moved
  | ladder input =>
    cases held : st.ladder with
    | none => simp only [State.step, State.ladderStep, held] at moved; cases moved
    | some l =>
      simp only [State.step, State.ladderStep, held] at moved
      exact .climbed input l held (climb_moves moved)
  | reclassify i => exact reclassify_moves moved
  | arm => cases moved; exact .armed
  | shutdown => exact shutdown_moves moved
  | setStop => exact caller_moves (.inl ⟨rfl, moved⟩)
  | join => exact caller_moves (.inr ⟨rfl, moved⟩)
  | shutdownReturns timedOut => exact shutdownReturns_moves moved
  | bringup => exact bringup_moves moved
  | bring => exact bring_moves moved
  | bringFails caught => exact bringFails_moves moved
  | startWatch => exact startWatch_moves moved
  | reconnect =>
    simp only [State.step, State.reconnect] at moved
    split at moved
    case h_1 idle free => cases moved; exact .reconnected free
    case h_2 => cases moved
  | holdGate =>
    simp only [State.step, State.holdGate] at moved
    split at moved
    case h_1 idle shut => cases moved; exact .held shut
    case h_2 => cases moved
  | releaseGate =>
    simp only [State.step, State.releaseGate] at moved
    split at moved
    case h_1 => cases moved; exact .released
    case h_2 => cases moved
  | gripperSubmit => cases moved; exact .submitted
  | gripperExecute =>
    simp only [State.step, State.gripperExecute] at moved
    split at moved
    case h_1 => cases moved
    case h_2 command rest queued => cases moved; exact .executed command rest queued

end

end AiroFanuc.Driver
