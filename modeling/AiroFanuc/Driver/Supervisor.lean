import AiroFanuc.Driver.Lifecycle
import AiroFanuc.Library.Machine

/-! The supervisor's threads over its lifecycle state: the watch loop, the recovery ladders and
the reclassification behind them, and the driver's own calls. -/

namespace AiroFanuc.Driver

open RtCore Library

/-- The supervisor's part of `DriverPolicy`. -/
structure DriverPolicy where
  connectRetries : Nat
  autoRecover : Bool
  recoveryCooldown : Nat
  recoveryDelay : Nat
  recoveryReconnectAttempts : Nat
  armGate : Bool
  deriving DecidableEq

/-- What the supervisor reads of `StreamCore.get_snapshot`. -/
structure Snapshot where
  mode : Mode
  fault : FaultReason
  tpEnabled : Bool
  eStopped : Bool
  inError : Bool
  motionPossible : Bool
  epoch : Nat
  deriving DecidableEq

/-- The calls a recovery ladder makes on the RMI client and on the core. -/
inductive LadderCall
  | reset
  | programContinue
  | reseedSequenceId
  | programCall
  | stop
  | start
  | readError
  | recover
  | getSnapshot
  deriving DecidableEq

inductive CallResult
  | returns
  | rmiError (errorId : Int)
  | sessionDown
  | connectionError
  | raises
  deriving DecidableEq

/-- `none` over the live session, else the attempt of the RMI reconnect. -/
abbrev Via := Option Nat

inductive LadderStage
  | taken
  | entered
  | checking
  | resetting (via : Via)
  | continuing (via : Via)
  | aborting
  | reseeding (via : Via)
  | calling (via : Via)
  | reconnecting (attempt : Nat)
  | stopping (attempt : Nat)
  | starting (attempt tries : Nat)
  | readingError (via : Via)
  | reporting
  | rearming
  | recovering
  | holding
  | closing
  | leaving (ok : Bool)
  | released (ok : Bool)
  deriving DecidableEq

structure Ladder where
  explicit : Bool
  stage : LadderStage
  deriving DecidableEq

/-- Where a watch thread is in its tick. -/
inductive WatchStage
  | top
  | ticking
  | read (snap : Snapshot)
  | recorded (snap : Snapshot)
  | syst348
  deriving DecidableEq

/-- Where the driver's thread is in `shutdown()` or `bringup()`. -/
inductive Caller
  | idle
  | stopping
  | joining
  | waiting
  | connecting (attempt : Nat)
  | launching (attempt : Nat)
  | handshaking (attempt : Nat)
  | settling (attempt : Nat)
  deriving DecidableEq

/-- Where the driver's thread is in `reconnect()`. -/
inductive Rebuild
  | none
  | quiescing
  | shutting
  | holding
  | bringing
  | watching
  | finishing
  deriving DecidableEq

/-- From the moment `reconnect()` sets the gripper's gate until its `finally` clears it. -/
def Rebuild.holds : Rebuild → Bool
  | none | quiescing | shutting => false
  | holding | bringing | watching | finishing => true

structure State where
  state : LifecycleState
  faultReason : FaultReason
  faultReasonStr : String
  operatorHint : Option String
  operatorRequired : Bool
  motionInhibited : Bool
  recoveryCount : Nat
  epoch : Nat
  recovering : Bool
  lastRecoveryMono : Option Nat
  faultSinceMono : Option Nat
  prevTpEnabled : Option Bool
  lastSyst348WatchMono : Option Nat
  stopEvt : Bool
  thread : Bool
  now : Nat
  core : Snapshot
  watchers : List WatchStage
  /-- Ladder threads that are started and not yet running. -/
  spawned : Nat
  ladder : Option Ladder
  /-- Ladder threads behind a failed ladder, before and after they read the snapshot. -/
  reclassifying : List (Option Snapshot)
  caller : Caller
  rebuild : Rebuild
  /-- `_recovering` of the gripper worker. -/
  gripperGate : Bool
  /-- The gripper commands that wait for the worker, and whether `reconnect()` held the gate
  when they were submitted. -/
  commands : List Bool
  /-- The gripper commands that wrote their registers, likewise. -/
  written : List Bool
  /-- `shutdown()` has set SHUTTING_DOWN, and no `bringup()` has set a state since. -/
  down : Bool
  /-- `shutdown()` has returned, and no `bringup()` was called since. -/
  returned : Bool
  /-- The calls of the ladders, and whether `shutdown()` had returned by then. -/
  calls : List (LadderCall × Bool)

/-- `_SYST348_ERROR_IDS`. -/
def syst348ErrorIds : List Int := [2556934, 2556936]

/-- `_ERR_ALREADY_CONNECTED`. -/
def errAlreadyConnected : Int := 2556954

/-- `_SYST348_WATCH_PERIOD_S`, in milliseconds. -/
def syst348WatchPeriod : Nat := 1000

/-- The `attempts` of `_reconnect_rmi_tolerating_already_connected`. -/
def reconnectTries : Nat := 12

/-- A core that has not started. -/
def Snapshot.down : Snapshot := ⟨.streamDown, .none, false, false, false, false, 0⟩

def State.initial : State where
  state := .disconnected
  faultReason := .none
  faultReasonStr := "none"
  operatorHint := none
  operatorRequired := false
  motionInhibited := false
  recoveryCount := 0
  epoch := 0
  recovering := false
  lastRecoveryMono := none
  faultSinceMono := none
  prevTpEnabled := none
  lastSyst348WatchMono := none
  stopEvt := false
  thread := false
  now := 0
  core := .down
  watchers := []
  spawned := 0
  ladder := none
  reclassifying := []
  caller := .idle
  rebuild := .none
  gripperGate := false
  commands := []
  written := []
  down := false
  returned := false
  calls := []

/-- How a step of the ladder that the environment decides comes out. -/
inductive LadderInput
  | go
  | result (r : CallResult)
  /-- A poll of a wait that goes on. -/
  | poll
  | waited (ok : Bool)
  /-- Whether the error list names SYST-348; `none` when it cannot be read. -/
  | listed (syst348 : Option Bool)
  deriving DecidableEq

inductive Label
  | publish (snap : Snapshot)
  | advance (ms : Nat)
  | watchLoop (i : Nat)
  | watchRead (i : Nat)
  | watchRecord (i : Nat)
  | watchAct (i : Nat)
  | watchReadError (i : Nat) (cleared : Bool)
  | enter (explicit : Bool)
  | ladder (input : LadderInput)
  | reclassify (i : Nat)
  | arm
  | shutdown
  | setStop
  | join
  | shutdownReturns (timedOut : Bool)
  | bringup
  | bring
  | bringFails (caught : Bool)
  | startWatch
  | reconnect
  | holdGate
  | releaseGate
  | gripperSubmit
  | gripperExecute
  deriving DecidableEq

namespace State

variable (st : State) (policy : DriverPolicy)

/-- `_set_state_locked`. -/
def setStateLocked (state : LifecycleState) (fault : FaultReason) (operatorRequired : Bool) :
    State :=
  let opReq := operatorRequired || st.operatorRequired
  { st with
    state := state
    faultReason := fault
    faultReasonStr := faultReasonString fault
    motionInhibited := st.motionInhibited || policy.armGate && requiresArm fault
    operatorHint := if fault = .none && !opReq then none else operatorHintFor fault opReq }

/-- `command_reject_reason`. -/
def commandRejectReason : Option (String × Option String) :=
  if st.motionInhibited then
    some ("motion_inhibited", some "call arm() to permit motion after a fault/e-stop recovery")
  else if st.state ≠ .streaming then some (st.faultReasonStr, st.operatorHint)
  else none

/-! The watch loop. -/

/-- `_watch_loop` tests its stop event. -/
def watchLoop (i : Nat) : Option State :=
  match st.watchers[i]? with
  | some .top =>
    if st.stopEvt then none
    else some { st with watchers := st.watchers.set i .ticking }
  | _ => none

/-- The start of `_watch_tick`: the snapshot, and the TEACH→AUTO edge. -/
def watchRead (i : Nat) : Option State :=
  match st.watchers[i]? with
  | some .ticking =>
    some { st with
      epoch := st.core.epoch
      lastRecoveryMono :=
        if st.prevTpEnabled = some true ∧ st.core.tpEnabled = false then none
        else st.lastRecoveryMono
      prevTpEnabled := some st.core.tpEnabled
      watchers := st.watchers.set i (.read st.core) }
  | _ => none

/-- What a watch tick records of its snapshot. -/
def observe (snap : Snapshot) : State :=
  let observed := classify snap.mode snap.fault false
  if st.state ≠ .shuttingDown ∧ st.recovering = false then
    if observed = .faulted ∨ observed = .degraded then
      { st with faultSinceMono := st.faultSinceMono <|> some st.now }.setStateLocked policy
        observed snap.fault false
    else if observed = .streaming then
      { st with faultSinceMono := none }.setStateLocked policy .streaming .none false
    else st
  else st

/-- The locked block of `_watch_tick`. -/
def watchRecord (i : Nat) : Option State :=
  match st.watchers[i]? with
  | some (.read snap) =>
    some { st.observe policy snap with watchers := st.watchers.set i (.recorded snap) }
  | _ => none

/-- `_maybe_auto_recover` starts a ladder thread. -/
def autoRecovers (snap : Snapshot) : Bool :=
  let observed := classify snap.mode snap.fault false
  policy.autoRecover && (observed = .faulted || observed = .degraded) && !st.recovering &&
    !snap.tpEnabled && !(snap.eStopped || snap.inError) &&
    st.lastRecoveryMono.all (fun last => policy.recoveryCooldown ≤ st.now - last) &&
    st.faultSinceMono.any (fun since => policy.recoveryDelay ≤ st.now - since)

/-- The rest of `_watch_tick`. -/
def watchAct (i : Nat) : Option State :=
  match st.watchers[i]? with
  | some (.recorded snap) =>
    if st.operatorRequired then
      if st.lastSyst348WatchMono.any (fun last => st.now - last < syst348WatchPeriod) then
        some { st with watchers := st.watchers.set i .top }
      else some { st with
        lastSyst348WatchMono := some st.now
        watchers := st.watchers.set i .syst348 }
    else some { st with
      spawned := if st.autoRecovers policy snap then st.spawned + 1 else st.spawned
      watchers := st.watchers.set i .top }
  | _ => none

/-- `_syst348_watch` reads the error list. -/
def watchReadError (i : Nat) (cleared : Bool) : Option State :=
  match st.watchers[i]? with
  | some .syst348 =>
    some { st with
      operatorRequired := if cleared then false else st.operatorRequired
      lastRecoveryMono := if cleared then none else st.lastRecoveryMono
      watchers := st.watchers.set i .top }
  | _ => none

/-! The recovery ladder. -/

/-- `_run_recovery_ladder` takes the flag, or finds it taken. -/
def enter (explicit : Bool) : Option State :=
  if explicit = false ∧ st.spawned = 0 then none
  else
    some { st with
      spawned := if explicit then st.spawned else st.spawned - 1
      recovering := true
      ladder := if st.recovering then st.ladder else some ⟨explicit, .taken⟩ }

def called (call : LadderCall) : State := { st with calls := st.calls ++ [(call, st.returned)] }

def goes (l : Ladder) (stage : LadderStage) : State :=
  { st with ladder := some { l with stage := stage } }

/-- `_abort_recovery`. -/
def aborts : Bool := st.core.eStopped || st.core.tpEnabled || st.core.mode = .rxSilent

/-- The next attempt of `_relaunch_stream_motn_via_reconnect`, if any is left. -/
def nextReconnect (attempt : Nat) : LadderStage :=
  if attempt < policy.recoveryReconnectAttempts then .reconnecting (attempt + 1)
  else .leaving false

/-- Where an exception of an RMI call leads. -/
def failed (via : Via) (r : CallResult) : LadderStage :=
  match via, r with
  | _, .rmiError errorId =>
    if syst348ErrorIds.contains errorId then .readingError via
    else
      match via with
      | none => .leaving false
      | some attempt => nextReconnect policy attempt
  | none, .sessionDown => nextReconnect policy 0
  | none, _ => .leaving false
  | some attempt, .sessionDown | some attempt, .connectionError => nextReconnect policy attempt
  | some _, _ => .leaving false

/-- `_enter_operator_required`. -/
def enterOperatorRequired : State :=
  { st with
    operatorRequired := true
    motionInhibited := st.motionInhibited || policy.armGate }.setStateLocked policy .faulted
      st.faultReason true

/-- The closing section of `_recovery_body`. -/
def completeRecovery : State :=
  { st with
    recoveryCount := st.recoveryCount + 1
    operatorRequired := false
    faultSinceMono := none }.setStateLocked policy .streaming .none false

/-- One step of `_run_recovery_ladder`, `_recovery_body` and what they call. -/
def climb (l : Ladder) : LadderInput → Option State
  | .go =>
    match l.stage with
    | .taken => some ({ st with gripperGate := true }.goes l .entered)
    | .entered => some ((st.setStateLocked policy .recovering st.faultReason false).goes l .checking)
    | .checking =>
      let st := st.called .getSnapshot
      if st.core.eStopped || st.core.tpEnabled || st.operatorRequired && !l.explicit then
        some (st.goes l (.leaving false))
      else some ({ st with lastRecoveryMono := some st.now }.goes l (.resetting none))
    | .aborting =>
      some ((st.called .getSnapshot).goes l
        (if st.aborts then .leaving false else .reseeding none))
    | .reconnecting attempt =>
      some ((st.called .getSnapshot).goes l
        (if st.aborts then .leaving false else .stopping attempt))
    | .reporting => some ((st.enterOperatorRequired policy).goes l (.leaving false))
    | .closing => some ((st.completeRecovery policy).goes l (.leaving true))
    | .leaving ok => some ({ st with gripperGate := false }.goes l (.released ok))
    | .released ok =>
      some { st with
        recovering := false
        ladder := none
        reclassifying := if ok then st.reclassifying else st.reclassifying ++ [none] }
    | _ => none
  | .result r =>
    match l.stage with
    | .resetting via =>
      some ((st.called .reset).goes l
        (match r with
        | .returns => .continuing via
        | _ => failed policy via r))
    | .continuing via =>
      -- `_maybe_continue` is best effort
      some ((st.called .programContinue).goes l
        (match r with
        | .returns | .rmiError _ | .sessionDown =>
          match via with
          | none => .aborting
          | some attempt => .reseeding (some attempt)
        | _ => failed policy via r))
    | .reseeding via =>
      some ((st.called .reseedSequenceId).goes l
        (match via, r with
        | _, .returns => .calling via
        | none, .rmiError _ | none, .sessionDown => .calling none
        | _, _ => failed policy via r))
    | .calling via =>
      some ((st.called .programCall).goes l
        (match r with
        | .returns => .rearming
        | _ => failed policy via r))
    | .stopping attempt => some ((st.called .stop).goes l (.starting attempt 0))
    | .starting attempt tries =>
      some ((st.called .start).goes l
        (match r with
        | .returns => .resetting (some attempt)
        | .rmiError errorId =>
          if errorId = errAlreadyConnected ∧ tries + 1 < reconnectTries then
            .starting attempt (tries + 1)
          else failed policy (some attempt) r
        | _ => failed policy (some attempt) r))
    | .recovering =>
      some ((st.called .recover).goes l
        (match r with
        | .returns => .holding
        | _ => .leaving false))
    | _ => none
  | .poll =>
    match l.stage with
    | .rearming | .holding => some (st.called .getSnapshot)
    | _ => none
  | .waited ok =>
    match l.stage with
    | .rearming =>
      if ok && !st.core.motionPossible then none
      else some ((st.called .getSnapshot).goes l (if ok then .recovering else .leaving false))
    | .holding =>
      if ok && st.core.mode ≠ .hold then none
      else some ((st.called .getSnapshot).goes l (if ok then .closing else .leaving false))
    | _ => none
  | .listed syst348 =>
    match l.stage with
    | .readingError via =>
      some ((st.called .readError).goes l
        (if syst348.getD true then .reporting
        else
          match via with
          | none => .leaving false
          | some attempt => nextReconnect policy attempt))
    | _ => none

def ladderStep (input : LadderInput) : Option State :=
  match st.ladder with
  | some l => st.climb policy l input
  | none => none

/-- The locked block of `_reclassify_now`. -/
def reclassified (snap : Snapshot) : State :=
  let observed := classify snap.mode snap.fault false
  if st.state ≠ .shuttingDown then
    st.setStateLocked policy observed (if observed ≠ .streaming then snap.fault else .none)
      st.operatorRequired
  else st

/-- `_reclassify_now`: the snapshot, then the locked block. -/
def reclassify (i : Nat) : Option State :=
  match st.reclassifying[i]? with
  | some none =>
    some { st.called .getSnapshot with reclassifying := st.reclassifying.set i (some st.core) }
  | some (some snap) =>
    some { st.reclassified policy snap with reclassifying := st.reclassifying.eraseIdx i }
  | none => none

/-! The driver's calls, and the core. -/

/-- The core publishes a snapshot. -/
def publish (snap : Snapshot) : State := { st with core := snap }

def arm : State := { st with motionInhibited := false }

def shutdown : Option State :=
  match st.caller, st.rebuild with
  | .idle, .none | .idle, .quiescing =>
    some { st.setStateLocked policy .shuttingDown st.faultReason false with
      caller := .stopping
      rebuild := if st.rebuild = .none then .none else .shutting
      down := true }
  | _, _ => none

def setStop : Option State :=
  match st.caller with
  | .stopping => some { st with stopEvt := true, caller := .joining }
  | _ => none

/-- The join of the watch thread, which may run out of time. -/
def join : Option State :=
  match st.caller with
  | .joining => some { st with thread := false, caller := .waiting }
  | _ => none

/-- The bounded wait for a ladder in flight. -/
def shutdownReturns (timedOut : Bool) : Option State :=
  match st.caller with
  | .waiting =>
    if st.recovering && !timedOut then none
    else some { st with caller := .idle, returned := true }
  | _ => none

def bringup : Option State :=
  match st.caller, st.rebuild with
  | .idle, .none | .idle, .holding =>
    some { st with
      stopEvt := false
      returned := false
      caller := .connecting 1
      rebuild := if st.rebuild = .none then .none else .bringing }
  | _, _ => none

/-- The next state of `_bringup_once`. -/
def bring : Option State :=
  match st.caller with
  | .connecting attempt =>
    some { st.setStateLocked policy .rmiConnecting .none false with
      caller := .launching attempt
      down := false }
  | .launching attempt =>
    some { st.setStateLocked policy .tpLaunch .none false with caller := .handshaking attempt }
  | .handshaking attempt =>
    some { st.setStateLocked policy .smHandshake .none false with caller := .settling attempt }
  | .settling _ =>
    some { st.setStateLocked policy .streaming .none false with
      caller := .idle
      rebuild := if st.rebuild = .bringing then .watching else st.rebuild }
  | _ => none

/-- `bringup` raises out of its caller. -/
def bringRaises : State :=
  { st with
    caller := .idle
    rebuild := if st.rebuild = .bringing then .finishing else st.rebuild }

/-- `_bringup_once` raises: what the handler catches is retried, a preflight block or anything
else is raised on. -/
def bringFails (caught : Bool) : Option State :=
  match st.caller with
  | .launching attempt | .handshaking attempt | .settling attempt =>
    if caught then
      if attempt < policy.connectRetries then
        some { st with caller := .connecting (attempt + 1) }
      else some (st.setStateLocked policy .disconnected .none false).bringRaises
    else some st.bringRaises
  | _ => none

def startWatch : Option State :=
  match st.caller, st.rebuild with
  | .idle, .none | .idle, .watching =>
    some { st with
      stopEvt := if st.thread then st.stopEvt else false
      thread := true
      watchers := if st.thread then st.watchers else st.watchers ++ [.top]
      rebuild := if st.rebuild = .none then .none else .finishing }
  | _, _ => none

/-! `FanucDriver.reconnect`, and the gripper worker behind its gate. -/

def reconnect : Option State :=
  match st.caller, st.rebuild with
  | .idle, .none => some { st with rebuild := .quiescing }
  | _, _ => none

def holdGate : Option State :=
  match st.caller, st.rebuild with
  | .idle, .shutting => some { st with gripperGate := true, rebuild := .holding }
  | _, _ => none

def releaseGate : Option State :=
  match st.rebuild with
  | .finishing => some { st with gripperGate := false, rebuild := .none }
  | _ => none

/-- `_submit` rejects a command while the gate is set. -/
def gripperSubmit : State :=
  { st with
    commands := if st.gripperGate then st.commands else st.commands ++ [st.rebuild.holds] }

/-- `_execute` looks at the gate again before it writes. -/
def gripperExecute : Option State :=
  match st.commands with
  | [] => none
  | command :: rest =>
    some { st with
      commands := rest
      written := if st.gripperGate then st.written else st.written ++ [command] }

def step : Label → Option State
  | .publish snap => some (st.publish snap)
  | .advance ms => some { st with now := st.now + ms }
  | .watchLoop i => st.watchLoop i
  | .watchRead i => st.watchRead i
  | .watchRecord i => st.watchRecord policy i
  | .watchAct i => st.watchAct policy i
  | .watchReadError i cleared => st.watchReadError i cleared
  | .enter explicit => st.enter explicit
  | .ladder input => st.ladderStep policy input
  | .reclassify i => st.reclassify policy i
  | .arm => some st.arm
  | .shutdown => st.shutdown policy
  | .setStop => st.setStop
  | .join => st.join
  | .shutdownReturns timedOut => st.shutdownReturns timedOut
  | .bringup => st.bringup
  | .bring => st.bring policy
  | .bringFails caught => st.bringFails policy caught
  | .startWatch => st.startWatch
  | .reconnect => st.reconnect
  | .holdGate => st.holdGate
  | .releaseGate => st.releaseGate
  | .gripperSubmit => some st.gripperSubmit
  | .gripperExecute => st.gripperExecute

end State

def supervisor (policy : DriverPolicy) : Machine State Label :=
  ⟨State.initial, fun st => st.step policy⟩

/-- The bring-up of a driver whose core streams. -/
def broughtUp : List Label :=
  [.publish ⟨.hold, .none, false, false, false, true, 0⟩, .bringup, .bring, .bring, .bring, .bring,
    .startWatch]

/-- An explicit recovery whose ladder gets as far as its call of STREAM_MOTN. -/
def relaunched : List Label :=
  [.enter true, .ladder .go, .ladder .go, .ladder .go, .ladder (.result .returns),
    .ladder (.result .returns), .ladder .go, .ladder (.result .returns),
    .ladder (.result .returns)]

def DriverPolicy.shipped : DriverPolicy where
  connectRetries := 3
  autoRecover := true
  recoveryCooldown := 15000
  recoveryDelay := 3000
  recoveryReconnectAttempts := 1
  armGate := true

end AiroFanuc.Driver
