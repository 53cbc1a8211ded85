import AiroFanuc.RtCore.Config
import Mathlib.Tactic.SplitIfs
import Mathlib.Tactic.ByContra

/-! The lifecycle states, and what a mode and a fault of the core say about them. -/

namespace AiroFanuc.Driver

open RtCore

inductive LifecycleState
  | disconnected
  | preflight
  | rmiConnecting
  | tpLaunch
  | smHandshake
  | streaming
  | degraded
  | faulted
  | recovering
  | lost
  | shuttingDown
  deriving DecidableEq, Repr

/-- `DEGRADED_FAULTS`: the controller manages the deceleration. -/
def degradedFaults : List FaultReason := [.teachMode, .contactStop, .safetyClamp]

/-- `ARM_FAULTS`: a person is at the pendant. -/
def armFaults : List FaultReason := [.eStop, .inError]

def requiresArm (fault : FaultReason) : Bool := armFaults.contains fault

/-- `_STREAMING_MODES`. -/
def streamingModes : List Mode := [.hold, .preroll, .capture, .trajectory, .servo, .brake]

/-- The observed lifecycle state. It is never RECOVERING or SHUTTING_DOWN. -/
def classify (mode : Mode) (fault : FaultReason) (rmiDown : Bool) : LifecycleState :=
  if mode = .rxSilent ∨ fault = .rxSilent then
    if rmiDown then .lost else .faulted
  else if mode = .streamDown then
    if rmiDown then .lost else .disconnected
  else if mode = .safeFollow ∨ fault ≠ .none then
    if degradedFaults.contains fault then .degraded else .faulted
  else if streamingModes.contains mode then .streaming
  else .disconnected

theorem classify_ne_recovering (mode : Mode) (fault : FaultReason) (rmiDown : Bool) :
    classify mode fault rmiDown ≠ .recovering := by
  unfold classify
  split_ifs <;> exact nofun

/-- A core that is seen as streaming has no fault. -/
theorem classify_streaming {mode : Mode} {fault : FaultReason} {rmiDown : Bool}
    (seen : classify mode fault rmiDown = .streaming) : fault = .none := by
  by_contra other
  have faulted : mode = .safeFollow ∨ fault ≠ .none := .inr other
  simp only [classify, if_pos faulted] at seen
  split_ifs at seen

def faultReasonString : FaultReason → String
  | .none => "none"
  | .eStop => "e_stop"
  | .inError => "in_error"
  | .motionNotPossible => "motion_not_possible"
  | .teachMode => "teach_mode"
  | .contactStop => "contact_stop"
  | .safetyClamp => "safety_clamp"
  | .rxSilent => "rx_silent"
  | .rxDegraded => "rx_degraded"
  | .watchdogExpired => "watchdog_expired"
  | .forceGuard => "force_guard"
  | .rejectedStartMismatch => "rejected_start_mismatch"
  | .supervisorLost => "supervisor_lost"
  | .internal => "internal"

def operatorRequiredHint : String :=
  "Confirm the payload on the teach pendant. Do NOT jog while recovering in AUTO — it re-raises SYST-328."

def operatorHintFor (fault : FaultReason) (operatorRequired : Bool) : Option String :=
  if operatorRequired then some operatorRequiredHint
  else
    match fault with
    | .eStop => some "Release the E-stop; then press RESET on the TP if the fault persists."
    | .inError => some "Press RESET on the teach pendant to clear the latched alarm."
    | .motionNotPossible =>
      some "Motion not possible — check drives powered / active alarms on the TP."
    | .teachMode => some "Keyswitch is in T1/T2 — return it to AUTO to resume."
    | .contactStop =>
      some "Clear the contact stop on the TP / move the robot away from the obstacle."
    | .safetyClamp => some "Press RESET on the TP to release the residual DCS speed clamp."
    | .rxSilent =>
      some "Stream Motion is silent — check the network link / power-cycle the controller."
    | .rxDegraded => some "Intermittent Stream Motion RX — check the network link and host load."
    | .forceGuard => some "Force-guard tripped — clear the contact and replan."
    | .watchdogExpired =>
      some "Motion deadman expired — the collision supervisor stopped kicking."
    | .supervisorLost =>
      some "Driver supervisor thread died — the core is holding; restart the process."
    | .internal => some "Internal driver fault — capture the diagnostic dump and report."
    | .none | .rejectedStartMismatch => none

end AiroFanuc.Driver
