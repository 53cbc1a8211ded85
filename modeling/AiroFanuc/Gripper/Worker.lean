import AiroFanuc.Library.Machine
import AiroFanuc.Gripper.Protocol
import Mathlib.Logic.Function.Basic

/-! The serialized gripper worker: callers that submit, wait and close, and the one thread
that runs the commands. Every lock, event and queue operation is a step of its own. -/

namespace AiroFanuc.Gripper

open Library

/-- The result of a command. The number of the command it is about is not part of the
dict that the caller gets. -/
structure Verdict where
  number : Nat
  success : Bool
  message : String
  deriving DecidableEq, Repr

/-- Where the worker thread is in `_execute`, or in the `_finish` that ends it. -/
inductive Task
  | idle
  | gate (c : Command)
  | write (c : Command) (register : Register)
  | settle (c : Command)
  | poll (c : Command)
  | heed (c : Command)
  | read (c : Command)
  | pause (c : Command)
  | finish (c : Command) (verdict : Verdict)
  | signal (c : Command)
  deriving DecidableEq, Repr

/-- How an operation of the worker thread ends. -/
inductive Outcome
  | passes
  /-- The exchange is retried; `reached` tells whether the controller carried it out. -/
  | repeats (reached : Bool)
  | fails (text : String) (reached : Bool)
  | reads (value : Int)
  | expires
  | stops
  deriving DecidableEq, Repr

section

variable (proto : RegisterGripperProtocol)

/-- One operation of `_execute`. -/
def execute (recovering stopped : Bool) : Task → Outcome → Option Task
  | .gate c, .passes =>
    if recovering then
      some (.finish c ⟨c.number, false, "RMI recovery in progress — refusing gripper command"⟩)
    else some (.write c .modifier)
  | .write c register, .passes =>
    match register.next with
    | some next => some (.write c next)
    | none => some (.settle c)
  | .write c register, .repeats _ => some (.write c register)
  | .write c _, .fails text _ =>
    some (.finish c ⟨c.number, false, "failed to write trigger registers: " ++ text⟩)
  | .settle c, .passes => some (.poll c)
  | .settle c, .stops =>
    if stopped then
      some (.finish c ⟨c.number, false, "gripper worker stopped during settle"⟩)
    else none
  | .poll c, .passes => some (.heed c)
  | .poll c, .expires =>
    some (.finish c ⟨c.number, false, "gripper " ++ c.verb.text ++ " timed out (R[" ++
      toString proto.triggerReg ++ "] not cleared after " ++ proto.dispatchTimeout ++ "s — is " ++
      proto.dispatcherProgram ++ " running?)"⟩)
  | .heed c, .passes =>
    if stopped then some (.finish c ⟨c.number, false, "gripper worker stopped during poll"⟩)
    else some (.read c)
  | .read c, .repeats _ => some (.read c)
  | .read c, .reads value =>
    if value = 0 then
      some (.finish c ⟨c.number, true, "gripper " ++ c.verb.text ++ " complete"⟩)
    else some (.pause c)
  | .read c, .fails text _ =>
    some (.finish c ⟨c.number, false,
      "failed to read R[" ++ toString proto.triggerReg ++ "]: " ++ text⟩)
  | .pause c, .passes => some (.poll c)
  | .pause c, .stops =>
    if stopped then some (.finish c ⟨c.number, false, "gripper worker stopped during poll"⟩)
    else none
  | _, _ => none

end

/-- Where a caller's thread is. A wait remembers which command was the latest submitted one
when it began, if that submission had returned by then. -/
inductive Call
  | away
  | gate (c : Command)
  | heed (c : Command)
  | clear (c : Command)
  | blank (c : Command)
  | hand (c : Command)
  | finish (c : Command) (verdict : Verdict)
  | signal (c : Command)
  | await (asked : Option Nat)
  | read (asked : Option Nat)
  | shutdown
  | drain
  deriving DecidableEq, Repr

/-- The submission that a caller is in. -/
def Call.command : Call → Option Command
  | gate c | heed c | clear c | blank c | hand c | finish c _ | signal c => some c
  | away | await _ | read _ | shutdown | drain => none

/-- What a wait returned, and how many submissions had begun by then. -/
structure Answer where
  asked : Option Nat
  issued : Nat
  timedOut : Bool
  result : Option Verdict
  deriving DecidableEq, Repr

inductive Label (T : Type)
  | submit (t : T) (verb : Verb) (selector : Selector)
  | wait (t : T)
  | wake (t : T)
  | expire (t : T)
  | close (t : T)
  | call (t : T)
  | setRecovery (active : Bool)
  | take
  | work (outcome : Outcome)
  deriving DecidableEq, Repr

/-- The worker object. From `issued` on, the fields are the history that statements about
its runs refer to. -/
structure State (T : Type) where
  recovering : Bool
  stopEvt : Bool
  shut : Bool
  queue : List Command
  task : Task
  done : Bool
  result : Option Verdict
  callers : T → Call
  issued : Nat
  /-- The submission that took over the done flag and the result last. -/
  latched : Nat
  /-- The submissions that returned to their callers. -/
  returned : List Nat
  /-- The commands whose `_finish` is through. -/
  ended : List Nat
  answers : List Answer

namespace State

variable {T : Type}

def initial : State T where
  recovering := false
  stopEvt := false
  shut := false
  queue := []
  task := .idle
  done := true
  result := none
  callers _ := .away
  issued := 0
  latched := 0
  returned := []
  ended := []
  answers := []

variable [DecidableEq T]

def goes (st : State T) (t : T) (call : Call) : State T :=
  { st with callers := Function.update st.callers t call }

@[simp] theorem goes_self (st : State T) (t : T) (call : Call) : (st.goes t call).callers t = call :=
  Function.update_self ..

theorem goes_other (st : State T) {t u : T} (other : u ≠ t) (call : Call) :
    (st.goes t call).callers u = st.callers u := Function.update_of_ne other ..

/-- The latest submission begun, once it has returned. -/
def latest (st : State T) : Option Nat :=
  if st.issued ∈ st.returned then some st.issued else none

/-- The next operation of a caller that is inside a call. -/
def proceed (st : State T) (t : T) : Option (State T) :=
  match st.callers t with
  | .gate c =>
    if st.recovering then
      some (st.goes t (.finish c ⟨c.number, false,
        "RMI recovery in progress — refusing gripper command (retry once recovery has completed)"⟩))
    else some (st.goes t (.heed c))
  | .heed c =>
    if st.stopEvt then
      some (st.goes t (.finish c ⟨c.number, false, "gripper worker is shutting down"⟩))
    else some (st.goes t (.clear c))
  | .clear c => some { st.goes t (.blank c) with done := false, latched := c.number }
  | .blank c => some { st.goes t (.hand c) with result := none }
  | .hand c =>
    if st.shut then
      some (st.goes t (.finish c ⟨c.number, false, "gripper worker is shutting down"⟩))
    else
      some { st.goes t .away with
        queue := st.queue ++ [c]
        returned := c.number :: st.returned }
  | .finish c verdict =>
    some { st.goes t (.signal c) with result := some verdict, latched := c.number }
  | .signal c =>
    some { st.goes t .away with
      done := true
      returned := c.number :: st.returned
      ended := c.number :: st.ended }
  | .read asked =>
    some { st.goes t .away with answers := ⟨asked, st.issued, false, st.result⟩ :: st.answers }
  | .shutdown => some { st.goes t .drain with shut := true }
  | .drain =>
    match st.queue with
    | [] => some (st.goes t .away)
    -- the future of a drained command is cancelled: it is never executed
    | _ :: rest => some { st with queue := rest }
  | .away | .await _ => none

/-- The next operation of the worker thread. -/
def work (proto : RegisterGripperProtocol) (st : State T) (outcome : Outcome) :
    Option (State T) :=
  match st.task with
  | .finish c verdict =>
    if outcome = .passes then some { st with task := .signal c, result := some verdict } else none
  | .signal c =>
    if outcome = .passes then
      some { st with task := .idle, done := true, ended := c.number :: st.ended }
    else none
  | task =>
    (execute proto st.recovering st.stopEvt task outcome).map fun next => { st with task := next }

def step (proto : RegisterGripperProtocol) (st : State T) : Label T → Option (State T)
  | .submit t verb selector =>
    if st.callers t = .away then
      match proto.command (st.issued + 1) verb selector with
      | .error _ => some st
      | .ok c => some { st.goes t (.gate c) with issued := st.issued + 1 }
    else none
  | .wait t => if st.callers t = .away then some (st.goes t (.await st.latest)) else none
  | .wake t =>
    match st.callers t with
    | .await asked => if st.done then some (st.goes t (.read asked)) else none
    | _ => none
  | .expire t =>
    match st.callers t with
    | .await asked =>
      some { st.goes t .away with answers := ⟨asked, st.issued, true, none⟩ :: st.answers }
    | _ => none
  | .close t =>
    if st.callers t = .away then some { st.goes t .shutdown with stopEvt := true } else none
  | .call t => st.proceed t
  | .setRecovery active => some { st with recovering := active }
  | .take =>
    match st.task, st.queue with
    | .idle, c :: rest => some { st with task := .gate c, queue := rest }
    | _, _ => none
  | .work outcome => st.work proto outcome

end State

section

variable {T : Type} [DecidableEq T] {proto : RegisterGripperProtocol} {st st' : State T}
  {label : Label T}

/-- Operations of a caller that change nothing but its own place. -/
inductive Turns (st : State T) : Call → Call → Prop
  | refused (c : Command) (text : String) : Turns st (.gate c) (.finish c ⟨c.number, false, text⟩)
  | open_ (c : Command) : Turns st (.gate c) (.heed c)
  | stopped (c : Command) (text : String) : Turns st (.heed c) (.finish c ⟨c.number, false, text⟩)
  | running (c : Command) : Turns st (.heed c) (.clear c)
  | late (c : Command) (text : String) (shut : st.shut = true) :
      Turns st (.hand c) (.finish c ⟨c.number, false, text⟩)
  | drained (free : st.queue = []) : Turns st .drain .away

/-- Everything that a step can do. -/
inductive Moves (proto : RegisterGripperProtocol) (st : State T) : Label T → State T → Prop
  | rejected (t : T) (verb : Verb) (selector : Selector) : Moves proto st (.submit t verb selector) st
  | began (t : T) (verb : Verb) (selector : Selector) (c : Command) (away : st.callers t = .away)
      (number : c.number = st.issued + 1) :
      Moves proto st (.submit t verb selector)
        { st.goes t (.gate c) with issued := st.issued + 1 }
  | waited (t : T) (away : st.callers t = .away) :
      Moves proto st (.wait t) (st.goes t (.await st.latest))
  | woke (t : T) (asked : Option Nat) (place : st.callers t = .await asked)
      (done : st.done = true) : Moves proto st (.wake t) (st.goes t (.read asked))
  | expired (t : T) (asked : Option Nat) (place : st.callers t = .await asked) :
      Moves proto st (.expire t)
        { st.goes t .away with answers := ⟨asked, st.issued, true, none⟩ :: st.answers }
  | closed (t : T) (away : st.callers t = .away) :
      Moves proto st (.close t) { st.goes t .shutdown with stopEvt := true }
  | turned (t : T) (place next : Call) (same : st.callers t = place) (turns : Turns st place next) :
      Moves proto st (.call t) (st.goes t next)
  | cleared (t : T) (c : Command) (place : st.callers t = .clear c) :
      Moves proto st (.call t) { st.goes t (.blank c) with done := false, latched := c.number }
  | blanked (t : T) (c : Command) (place : st.callers t = .blank c) :
      Moves proto st (.call t) { st.goes t (.hand c) with result := none }
  | handed (t : T) (c : Command) (place : st.callers t = .hand c) (shut : st.shut = false) :
      Moves proto st (.call t)
        { st.goes t .away with
          queue := st.queue ++ [c]
          returned := c.number :: st.returned }
  | finished (t : T) (c : Command) (verdict : Verdict) (place : st.callers t = .finish c verdict) :
      Moves proto st (.call t)
        { st.goes t (.signal c) with result := some verdict, latched := c.number }
  | signalled (t : T) (c : Command) (place : st.callers t = .signal c) :
      Moves proto st (.call t)
        { st.goes t .away with
          done := true
          returned := c.number :: st.returned
          ended := c.number :: st.ended }
  | answered (t : T) (asked : Option Nat) (place : st.callers t = .read asked) :
      Moves proto st (.call t)
        { st.goes t .away with answers := ⟨asked, st.issued, false, st.result⟩ :: st.answers }
  | shutting (t : T) (place : st.callers t = .shutdown) :
      Moves proto st (.call t) { st.goes t .drain with shut := true }
  | cancelled (t : T) (c : Command) (rest : List Command) (place : st.callers t = .drain)
      (queue : st.queue = c :: rest) : Moves proto st (.call t) { st with queue := rest }
  | recovery (active : Bool) : Moves proto st (.setRecovery active) { st with recovering := active }
  | taken (c : Command) (rest : List Command) (idle : st.task = .idle)
      (queue : st.queue = c :: rest) :
      Moves proto st .take { st with task := .gate c, queue := rest }
  | executed (outcome : Outcome) (next : Task)
      (runs : execute proto st.recovering st.stopEvt st.task outcome = some next) :
      Moves proto st (.work outcome) { st with task := next }
  | concluded (c : Command) (verdict : Verdict) (task : st.task = .finish c verdict) :
      Moves proto st (.work .passes) { st with task := .signal c, result := some verdict }
  | raised (c : Command) (task : st.task = .signal c) :
      Moves proto st (.work .passes)
        { st with task := .idle, done := true, ended := c.number :: st.ended }

theorem proceed_moves {t : T} (moved : st.proceed t = some st') :
    Moves proto st (.call t) st' := by
  unfold State.proceed at moved
  cases place : st.callers t with
  | away | await => simp [place] at moved
  | gate c =>
    simp only [place] at moved
    split at moved <;> cases moved
    · exact .turned t _ _ place (.refused c _)
    · exact .turned t _ _ place (.open_ c)
  | heed c =>
    simp only [place] at moved
    split at moved <;> cases moved
    · exact .turned t _ _ place (.stopped c _)
    · exact .turned t _ _ place (.running c)
  | clear c =>
    simp only [place, Option.some.injEq] at moved
    exact moved ▸ .cleared t c place
  | blank c =>
    simp only [place, Option.some.injEq] at moved
    exact moved ▸ .blanked t c place
  | hand c =>
    simp only [place] at moved
    split at moved
    · next shut =>
      cases moved
      exact .turned t _ _ place (.late c _ shut)
    · next shut =>
      cases moved
      exact .handed t c place (Bool.eq_false_iff.mpr shut)
  | finish c verdict =>
    simp only [place, Option.some.injEq] at moved
    exact moved ▸ .finished t c verdict place
  | signal c =>
    simp only [place, Option.some.injEq] at moved
    exact moved ▸ .signalled t c place
  | read asked =>
    simp only [place, Option.some.injEq] at moved
    exact moved ▸ .answered t asked place
  | shutdown =>
    simp only [place, Option.some.injEq] at moved
    exact moved ▸ .shutting t place
  | drain =>
    simp only [place] at moved
    split at moved
    · next free =>
      cases moved
      exact .turned t _ _ place (.drained free)
    · next c rest queue =>
      cases moved
      exact .cancelled t c rest place queue

theorem work_moves {outcome : Outcome} (moved : st.work proto outcome = some st') :
    Moves proto st (.work outcome) st' := by
  unfold State.work at moved
  split at moved
  · next c verdict task =>
    split at moved <;> cases moved
    next passes =>
    cases passes
    exact .concluded c verdict task
  · next c task =>
    split at moved <;> cases moved
    next passes =>
    cases passes
    exact .raised c task
  · obtain ⟨next, runs, rfl⟩ := Option.map_eq_some_iff.mp moved
    exact .executed outcome next runs

theorem step_moves (moved : State.step proto st label = some st') : Moves proto st label st' := by
  cases label with
  | submit t verb selector =>
    simp only [State.step] at moved
    split at moved
    · next away =>
      split at moved <;> cases moved
      · exact .rejected t verb selector
      · next c accepted =>
        exact .began t verb selector c away (RegisterGripperProtocol.command_number accepted)
    · cases moved
  | wait t =>
    simp only [State.step] at moved
    split at moved <;> cases moved
    next away => exact .waited t away
  | wake t =>
    simp only [State.step] at moved
    split at moved
    · next asked place =>
      split at moved <;> cases moved
      next done => exact .woke t asked place done
    · cases moved
  | expire t =>
    simp only [State.step] at moved
    split at moved <;> cases moved
    next asked place => exact .expired t asked place
  | close t =>
    simp only [State.step] at moved
    split at moved <;> cases moved
    next away => exact .closed t away
  | call t => exact proceed_moves moved
  | setRecovery active =>
    cases moved
    exact .recovery active
  | take =>
    simp only [State.step] at moved
    split at moved <;> cases moved
    next c rest idle queue => exact .taken c rest idle queue
  | work outcome => exact work_moves moved

end

/-- The worker among the threads that use it. -/
def worker (T : Type) [DecidableEq T] (proto : RegisterGripperProtocol) :
    Machine (State T) (Label T) where
  start := .initial
  step := State.step proto

end AiroFanuc.Gripper
