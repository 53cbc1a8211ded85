import AiroFanuc.Driver.Bringup

/-! One walk over the steps of the bring-up, for every property that its building blocks hand on. -/

namespace AiroFanuc.Driver

open Library

/-- A property of procedures that is handed on by all that the steps of a bring-up are built
from. Only an ordinary exception is ever handled. -/
structure Rules (ordinary : Exc → Bool) (Φ : (α : Type) → Bringup α → Prop) : Prop where
  link : ∀ {e : Exc}, e.link = true → ordinary e = true
  listed : ∀ {e : Exc}, e.listed = false → ordinary e = false
  done : ∀ {α : Type} (a : α), Φ α (Procedure.done a)
  raise : ∀ {α : Type} {e : Exc}, ordinary e = true → Φ α (Procedure.raise e)
  bind : ∀ {α β : Type} {x : Bringup α} {next : α → Bringup β},
    Φ α x → (∀ a, Φ β (next a)) → Φ β (x >>= next)
  catching : ∀ {α : Type} {x : Bringup α} {handler : Exc → Bringup α},
    Φ α x → (∀ e, ordinary e = true → Φ α (handler e)) →
      (∀ e, ordinary e = false → handler e = Procedure.raise e) → Φ α (x.catching handler)
  ask : ∀ request, Φ Answer (ask request)
  convert : ∀ {α : Type} {x : Except Exc α},
    (∀ e, x = .error e → e.listed = false) → Φ α (convert x)
  sock : Φ Bool (Procedure.read World.sock)
  running : Φ Bool (Procedure.read World.running)
  polls : Φ Nat (Procedure.read fun w => (w.answers w.asked).polls)
  setSock : ∀ sock, Φ Unit (setSock sock)
  stopCore : Φ Unit stopCore
  startCore : Φ Unit startCore
  await : ∀ wait, Φ Bool (await wait)
  silenced : ∀ {x : Bringup Unit}, Φ Unit x → Φ Unit (silenced x)

theorem Exc.listed_of_link {e : Exc} (link : e.link = true) : e.listed = true := by
  cases e <;> first | rfl | exact link

theorem toInt_refuses (default : Int) (v : Value) (e : Exc) (refused : v.toInt default = .error e) :
    e.listed = false := by
  cases v with
  | absent | bool | int | float => cases refused
  | text content asInt =>
    cases asInt <;> cases refused
    rfl
  | null | infinite | nan | nested => cases refused; rfl

theorem floatIsZero_refuses (v : Value) (e : Exc) (refused : v.floatIsZero = .error e) :
    e.listed = false := by
  cases v with
  | bool | float | infinite | nan => cases refused
  | int n =>
    simp only [Value.floatIsZero] at refused
    split at refused <;> cases refused
    rfl
  | text content asInt asFloat =>
    cases asFloat <;> cases refused
    rfl
  | absent | null | nested => cases refused; rfl

namespace Rules

variable {ordinary : Exc → Bool} {Φ : (α : Type) → Bringup α → Prop}
  (rules : Rules ordinary Φ)

include rules

theorem raiseLink {α : Type} {e : Exc} (link : e.link = true) : Φ α (Procedure.raise e) :=
  rules.raise (rules.link link)

theorem ne_of_link {e f : Exc} (link : f.link = true) (other : ordinary e = false) : e ≠ f := by
  rintro rfl
  rw [rules.link link] at other
  cases other

theorem toInt (default : Int) (v : Value) : Φ Int (Driver.convert (v.toInt default)) :=
  rules.convert (toInt_refuses default v)

theorem floatIsZero (v : Value) : Φ Bool (Driver.convert v.floatIsZero) :=
  rules.convert (floatIsZero_refuses v)

theorem refusal {α : Type} (e : Exc) (unlisted : e.listed = false) :
    Φ α (Driver.convert (.error e)) := by
  apply rules.convert
  rintro _ ⟨⟩
  exact unlisted

omit rules in
theorem ite {α : Type} {c : Prop} [Decidable c] {x y : Bringup α} (yes : Φ α x) (no : Φ α y) :
    Φ α (if c then x else y) := by
  split
  · exact yes
  · exact no

theorem errorId (reply : Reply) : Φ Int (errorId reply) :=
  Rules.ite (rules.done 0) (rules.toInt 0 _)

theorem openSession : Φ Unit openSession := by
  apply rules.bind (rules.ask _)
  intro a
  split
  · exact rules.raiseLink rfl
  · exact rules.refusal _ rfl
  · exact rules.refusal _ rfl
  · exact rules.refusal _ rfl
  · apply rules.bind (rules.errorId _)
    intro eid
    apply Rules.ite (rules.raiseLink rfl)
    split
    · apply Rules.ite (rules.raiseLink rfl)
      apply Rules.ite (rules.refusal _ rfl)
      exact Rules.ite (rules.setSock true) (rules.raiseLink rfl)
    · exact Rules.ite (rules.setSock true) (rules.raiseLink rfl)
    · exact rules.raiseLink rfl

theorem ensureOpen : Φ Unit ensureOpen := by
  apply rules.bind rules.sock
  intro sock
  exact Rules.ite (rules.done ()) rules.openSession

theorem sendAndWait (raiseOnErrorId : Bool) (a : Answer) :
    Φ Reply (sendAndWait raiseOnErrorId a) := by
  apply rules.bind rules.sock
  intro sock
  apply Rules.ite (rules.raiseLink rfl)
  apply rules.bind (rules.errorId _)
  intro eid
  exact Rules.ite (rules.raiseLink rfl) (rules.done a.reply)

theorem drop (a : Answer) : Φ Unit (drop a) := Rules.ite (rules.setSock false) (rules.done ())

/-- A handler that lets all but an `OSError` through. -/
theorem onOsError {α : Type} {x handled : Bringup α} (step : Φ α x) (handler : Φ α handled) :
    Φ α (x.catching fun e => if e = .osError then handled else Procedure.raise e) := by
  apply rules.catching step
  · intro e raised
    exact Rules.ite handler (rules.raise raised)
  · intro e other
    exact if_neg (rules.ne_of_link rfl other)

theorem retrying {α : Type} {once : Bringup α} (step : Φ α once) : Φ α (retrying once) := by
  apply rules.onOsError step
  apply rules.bind (rules.setSock false)
  intro _
  apply rules.onOsError step
  apply rules.bind (rules.setSock false)
  intro _
  exact rules.raiseLink rfl

theorem exchange (request : Request) : Φ Reply (exchange request) := by
  apply rules.retrying
  apply rules.bind (rules.ask _)
  intro a
  apply rules.bind (rules.drop a)
  intro _
  apply rules.bind rules.ensureOpen
  intro _
  exact rules.sendAndWait true a

theorem getStatus : Φ ControllerStatus getStatus := by
  apply rules.bind (rules.exchange _)
  intro reply
  iterate 7
    apply rules.bind (rules.toInt _ _)
    intro _
  exact rules.done _

theorem getExtendedStatus : Φ Unit getExtendedStatus := by
  apply rules.bind (rules.exchange _)
  intro reply
  apply rules.bind (rules.toInt _ _)
  intro _
  apply Rules.ite (rules.done ())
  apply rules.bind (rules.floatIsZero _)
  intro _
  exact rules.done ()

theorem readError : Φ (List String) readError := by
  apply rules.bind (rules.exchange _)
  intro reply
  iterate 2
    apply rules.bind (rules.toInt _ _)
    intro _
  exact rules.done _

theorem exchanged (request : Request) : Φ Unit (do
    let _ ← Driver.exchange request
    pure ()) := by
  apply rules.bind (rules.exchange _)
  intro _
  exact rules.done ()

theorem callOnce : Φ Unit (callOnce .streamMotn) := by
  apply rules.bind (rules.ask _)
  intro a
  apply rules.bind (rules.drop a)
  intro _
  apply rules.bind rules.ensureOpen
  intro _
  exact Rules.ite (rules.done ()) (rules.raiseLink rfl)

theorem readRegisterIsZero : Φ Bool readRegisterIsZero := by
  apply rules.bind (rules.exchange _)
  intro reply
  exact Rules.ite (rules.raiseLink rfl) (rules.floatIsZero _)

theorem sendPrep (name : String) : Φ Unit (sendPrep name) := by
  apply rules.bind (rules.ask _)
  intro a
  apply rules.bind (rules.drop a)
  intro _
  apply rules.onOsError ?_ (rules.done ())
  apply rules.bind (rules.sendAndWait false a)
  intro reply
  apply rules.bind (rules.errorId reply)
  intro _
  exact rules.done ()

theorem initializeOnce : Φ Unit initializeOnce := by
  apply rules.bind (rules.ask _)
  intro a
  apply rules.bind (rules.drop a)
  intro _
  apply rules.bind (rules.sendAndWait true a)
  intro _
  apply rules.bind (rules.ask _)
  intro b
  apply rules.bind (rules.drop b)
  intro _
  apply rules.bind (rules.sendAndWait true b)
  intro reply
  apply rules.bind (rules.toInt _ _)
  intro _
  exact rules.done ()

theorem rmiInitialize : Φ Unit rmiInitialize := by
  apply rules.bind rules.ensureOpen
  intro _
  iterate 3
    apply rules.bind (rules.sendPrep _)
    intro _
  have second : Φ Unit (do
      Driver.sendPrep "FRC_Abort"
      Driver.sendPrep "FRC_Reset"
      Driver.sendPrep "FRC_GetStatus"
      Driver.initializeOnce) := by
    iterate 3
      apply rules.bind (rules.sendPrep _)
      intro _
    exact rules.initializeOnce
  apply rules.catching rules.initializeOnce
  · intro e raised
    cases e <;> first | exact second | exact rules.raise raised
  · intro e other
    have refused := rules.ne_of_link (f := .osError) rfl other
    cases e with
    | rmiError errorId => exact absurd rfl (rules.ne_of_link (f := .rmiError errorId) rfl other)
    | osError => exact absurd rfl refused
    | _ => rfl

theorem onLink {α : Type} {x handler : Bringup α} (step : Φ α x) (handled : Φ α handler) :
    Φ α (onLink x handler) := by
  apply rules.catching step
  · intro e raised
    exact Rules.ite handled (rules.raise raised)
  · intro e other
    apply if_neg
    intro link
    exact rules.ne_of_link link other rfl

theorem bestEffort {x : Bringup Unit} (step : Φ Unit x) : Φ Unit (bestEffort x) := by
  apply rules.catching step
  · intro e raised
    cases e <;> first | exact rules.done () | exact rules.raise raised
  · intro e other
    cases e with
    | rmiError errorId => exact absurd rfl (rules.ne_of_link (f := .rmiError errorId) rfl other)
    | sessionDown => exact absurd rfl (rules.ne_of_link (f := .sessionDown) rfl other)
    | _ => rfl

theorem maybeContinue : Φ Unit maybeContinue := rules.bestEffort (rules.exchanged _)

theorem reseed : Φ Unit reseed := by
  apply rules.bind rules.getStatus
  intro _
  exact rules.done ()

theorem pollTrigger (polls : Nat) : Φ Bool (pollTrigger polls) := by
  induction polls with
  | zero => exact rules.done false
  | succ polls ih =>
    have poll : Φ (Option Bool) (do
        let zero ← Driver.readRegisterIsZero
        pure (some zero)) := by
      apply rules.bind rules.readRegisterIsZero
      intro zero
      exact rules.done (some zero)
    apply rules.bind (rules.onLink poll (rules.done none))
    intro clear
    split
    · exact rules.done true
    · exact ih
    · exact rules.done false

theorem gripdispAlive : Φ Bool gripdispAlive := by
  have write : Φ Bool (do
      let _ ← Driver.exchange .writeRegister
      let _ ← Driver.exchange .writeRegister
      let _ ← Driver.exchange .writeRegister
      pure true) := by
    iterate 3
      apply rules.bind (rules.exchange _)
      intro _
    exact rules.done true
  apply rules.bind (rules.onLink write (rules.done false))
  intro wrote
  apply Rules.ite ?_ (rules.done false)
  apply rules.bind rules.polls
  intro polls
  exact rules.pollTrigger polls

theorem relaunchStreamMotn : Φ Unit relaunchStreamMotn := by
  apply rules.bind (rules.exchanged _)
  intro _
  apply rules.bind rules.maybeContinue
  intro _
  apply rules.bind (rules.bestEffort rules.reseed)
  intro _
  exact rules.retrying rules.callOnce

theorem settleAttempts (recover : Φ Unit coreRecover) (attempts : Nat) :
    Φ Bool (settleAttempts attempts) := by
  induction attempts with
  | zero => exact rules.await _
  | succ attempts ih =>
    apply rules.bind (rules.await _)
    intro holds
    apply Rules.ite (rules.done true)
    apply rules.bind rules.relaunchStreamMotn
    intro _
    apply rules.bind (rules.await _)
    intro possible
    apply Rules.ite ?_ ih
    apply rules.bind recover
    intro _
    apply rules.bind (rules.await _)
    intro _
    exact ih

theorem settleStreamMotn (recover : Φ Unit coreRecover) (policy : BringupPolicy) :
    Φ Bool (settleStreamMotn policy) :=
  Rules.ite (rules.settleAttempts recover 2) (rules.done true)

theorem triage : Φ Unit triage := by
  apply rules.onLink ?_ (rules.done ())
  apply rules.bind rules.getStatus
  intro _
  apply rules.bind rules.readError
  intro _
  exact rules.done ()

theorem rmiStop : Φ Unit rmiStop := by
  have disconnect : Φ Unit disconnectOpen := by
    apply rules.bind (rules.ask _)
    intro a
    apply rules.silenced
    apply rules.bind (rules.sendAndWait false a)
    intro _
    exact rules.done ()
  apply rules.bind rules.sock
  intro sock
  apply rules.bind (Rules.ite disconnect (rules.done ()))
  intro _
  exact rules.setSock false

theorem coreStart : Φ Bool coreStart := by
  apply rules.bind (rules.ask _)
  intro a
  apply rules.bind rules.running
  intro running
  apply Rules.ite (rules.done true)
  apply Rules.ite ?_ (rules.done false)
  apply rules.bind rules.startCore
  intro _
  exact rules.done true

theorem teardownPartial : Φ Unit teardownPartial := by
  have stop : Φ Unit coreStop := by
    apply rules.bind (rules.ask _)
    intro _
    exact rules.stopCore
  apply rules.bind rules.running
  intro running
  apply rules.bind (Rules.ite stop (rules.done ()))
  intro _
  exact rules.rmiStop

end Rules

namespace Rules

variable {Φ : (α : Type) → Bringup α → Prop} (rules : Rules Exc.listed Φ)

include rules

theorem rmiStart : Φ Unit rmiStart := by
  apply rules.catching rules.openSession
  · intro e listed
    apply rules.raise
    split
    · rfl
    · exact listed
  · intro e unlisted
    rw [if_neg (rules.ne_of_link rfl unlisted)]

theorem runPreflight (policy : BringupPolicy) : Φ Unit (runPreflight policy) := by
  have status : Φ Unit (do
      let _ ← Driver.getStatus
      Driver.getExtendedStatus) := by
    apply rules.bind rules.getStatus
    intro _
    exact rules.getExtendedStatus
  have checks : Φ Bool runFullChecks := by
    apply rules.bind (rules.ask _)
    intro a
    exact Rules.ite (rules.refusal _ rfl) (rules.done _)
  apply rules.bind (rules.onLink status (rules.raise rfl))
  intro _
  apply rules.bind (rules.onLink rules.readError (rules.done []))
  intro alarms
  apply rules.bind (Rules.ite checks (rules.done false))
  intro blocked
  exact Rules.ite (rules.raise rfl) (rules.done ())

theorem reconnectRmi (more : Nat) : Φ Unit (reconnectRmi more) := by
  induction more with
  | zero => exact rules.rmiStart
  | succ more ih =>
    apply rules.catching rules.rmiStart
    · intro e listed
      exact Rules.ite ih (rules.raise listed)
    · intro e unlisted
      exact if_neg (rules.ne_of_link rfl unlisted)

theorem require (ok : Bool) : Φ Unit (require ok) := Rules.ite (rules.done ()) (rules.raise rfl)

theorem connectRmi (policy : BringupPolicy) : Φ Unit (connectRmi policy) := by
  apply rules.bind rules.rmiStart
  intro _
  apply rules.bind (rules.runPreflight policy)
  intro _
  apply rules.bind rules.rmiInitialize
  intro _
  exact rules.maybeContinue

theorem prerollSm : Φ Unit prerollSm := by
  apply rules.bind rules.coreStart
  intro started
  apply rules.bind (rules.require started)
  intro _
  apply rules.bind (rules.await _)
  intro ready
  exact rules.require ready

theorem commandableSm (recover : Φ Unit coreRecover) (policy : BringupPolicy) :
    Φ Unit (commandableSm policy) := by
  apply rules.bind (rules.await _)
  intro hold
  apply rules.bind (rules.require hold)
  intro _
  apply rules.bind (rules.settleStreamMotn recover policy)
  intro settled
  exact rules.require settled

theorem handshakeSm (recover : Φ Unit coreRecover) (policy : BringupPolicy) :
    Φ Unit (handshakeSm policy) := by
  apply rules.bind rules.prerollSm
  exact fun _ => rules.commandableSm recover policy

end Rules

theorem Rules.concluded {ordinary : Exc → Bool} {Φ : (α : Type) → Bringup α → Prop}
    (rules : Rules ordinary Φ) (raises : ∀ e, Φ Unit (Procedure.raise e)) {again : Bringup Unit}
    (onward : Φ Unit again) (raised : Option Exc) : Φ Unit (concluded again raised) := by
  cases raised with
  | none => exact rules.done ()
  | some e =>
    apply Rules.ite
    · apply rules.bind rules.teardownPartial
      exact fun _ => raises .preflight
    · apply Rules.ite ?_ (raises e)
      apply rules.bind rules.triage
      intro _
      apply rules.bind rules.teardownPartial
      exact fun _ => onward

/-- A bring-up's course: all but the supervisor's own fields and the core's. -/
def World.course (w : World) : World := { w with sup := .initial, core := .new .shipped }

/-- The parts of the bring-up that set its own fields too. -/
structure AllRules (Φ : (α : Type) → Bringup α → Prop) : Prop extends Rules Exc.listed Φ where
  forked : Φ Bool (Procedure.read World.grprunForked)
  setState : ∀ policy state, state ≠ .streaming → Φ Unit (setState policy state)
  marking : ∀ (grprunForked : World → Bool) (probes : World → List (Nat × Bool))
    (launches : World → List Nat),
    (∀ w : World, grprunForked w.course = grprunForked w ∧ probes w.course = probes w ∧
      launches w.course = launches w) →
    Φ Unit (Procedure.modify fun w =>
      { w with grprunForked := grprunForked w, probes := probes w, launches := launches w })

namespace AllRules

variable {Φ : (α : Type) → Bringup α → Prop} (rules : AllRules Φ)

include rules

theorem callOnce (program : Program) : Φ Unit (callOnce program) := by
  apply rules.bind (rules.ask _)
  intro a
  apply rules.bind (rules.drop a)
  intro _
  apply rules.bind rules.ensureOpen
  intro _
  apply Rules.ite ?_ (rules.raise rfl)
  exact rules.marking _ _ (fun w => if program = .launcher then _ else _)
    fun _ => ⟨rfl, rfl, rfl⟩

theorem programCall (program : Program) : Φ Unit (programCall program) :=
  rules.retrying (rules.callOnce program)

theorem forkGrprun : Φ Unit forkGrprun := by
  have latch : Φ Unit (Procedure.modify fun w : World => { w with grprunForked := true }) :=
    rules.marking (fun _ => true) _ _ fun _ => ⟨rfl, rfl, rfl⟩
  apply rules.bind rules.gripdispAlive
  intro alive
  apply rules.bind
  · exact rules.marking _ (fun w => w.probes ++ [(w.attempt, alive)]) _ fun _ => ⟨rfl, rfl, rfl⟩
  · intro _
    apply Rules.ite latch
    apply rules.bind (rules.programCall .launcher)
    intro _
    apply rules.bind latch
    intro _
    apply rules.bind (rules.exchanged _)
    intro _
    apply rules.bind rules.rmiStop
    intro _
    exact rules.reconnectRmi _

theorem launchTp (policy : BringupPolicy) : Φ Unit (launchTp policy) := by
  have dispatcher : Φ Unit (startDispatcher policy) := by
    apply rules.bind rules.forked
    intro forked
    exact Rules.ite rules.forkGrprun (rules.done ())
  apply rules.bind (rules.exchanged _)
  intro _
  apply rules.bind dispatcher
  intro _
  apply rules.bind rules.reseed
  intro _
  exact rules.programCall .streamMotn

end AllRules

/-- All but what the exchanges and the core themselves change. -/
def World.outside (w : World) : World :=
  { w with
    core := .new .shipped
    asked := 0
    requests := []
    sock := false
    running := false
    slipped := false
    began := false }

/-- A property that is handed on whatever the core meets. -/
structure Heedless (Φ : (α : Type) → Bringup α → Prop) : Prop where
  done : ∀ {α : Type} (a : α), Φ α (Procedure.done a)
  bind : ∀ {α β : Type} {x : Bringup α} {next : α → Bringup β},
    Φ α x → (∀ a, Φ β (next a)) → Φ β (x >>= next)
  read : ∀ {α : Type} (f : World → α), Φ α (Procedure.read f)
  count : ∀ request : Request, Φ Unit (Procedure.modify fun w =>
    { w with asked := w.asked + 1, requests := w.requests ++ [request] })
  pass : ∀ events, Φ Unit (pass events)

namespace Heedless

variable {Φ : (α : Type) → Bringup α → Prop} (heedless : Heedless Φ)

include heedless

theorem ask (request : Request) : Φ Answer (ask request) := by
  apply heedless.bind (heedless.read _)
  intro a
  apply heedless.bind (heedless.count request)
  intro _
  apply heedless.bind (heedless.pass _)
  intro _
  exact heedless.done a

theorem polled (wait : Wait) (between : List (List CoreEvent)) : Φ Bool (polled wait between) := by
  induction between with
  | nil =>
    unfold Driver.polled
    split
    · exact heedless.done true
    · exact heedless.read _
  | cons events rest ih =>
    apply heedless.bind (heedless.read _)
    intro seen
    split
    · exact heedless.done _
    · apply heedless.bind (heedless.pass _)
      exact fun _ => ih

theorem await (wait : Wait) : Φ Bool (await wait) := by
  apply heedless.bind (heedless.ask _)
  intro a
  apply heedless.bind (heedless.polled wait _)
  intro found
  exact heedless.done _

end Heedless

theorem heedlessTriple {I : World → Prop} {E : Exc → World → Prop}
    (counted : ∀ w asked requests, I w → I { w with asked := asked, requests := requests })
    (passed : ∀ w events, I w → I (w.pass events)) :
    Heedless fun _ x => Procedure.Triple I x (fun _ => I) E where
  done _ := Procedure.triple_done fun _ => id
  bind := Procedure.Triple.bind
  read _ := Procedure.triple_read fun _ => id
  count _ := Procedure.triple_modify fun w => counted w _ _
  pass events := Procedure.triple_modify fun w => passed w events

theorem heedlessOutside : Heedless fun _ x => Procedure.Keeps World.outside x where
  done := Procedure.keeps_done
  bind := Procedure.Keeps.bind
  read := Procedure.keeps_read
  count _ := Procedure.keeps_modify fun _ => rfl
  pass events := by
    apply Procedure.keeps_modify
    intro w
    unfold World.pass
    split <;> rfl

theorem keepsOutside : Rules Exc.listed fun _ x => Procedure.Keeps World.outside x where
  link := Exc.listed_of_link
  listed := id
  done := Procedure.keeps_done
  raise _ := Procedure.keeps_raise _
  bind := Procedure.Keeps.bind
  catching {_ _ handler} first handled others := by
    apply first.catching
    intro e
    cases listed : e.listed
    · rw [others e listed]
      exact Procedure.keeps_raise e
    · exact handled e listed
  ask := heedlessOutside.ask
  convert {_ x} _ := by
    cases x with
    | ok a => exact Procedure.keeps_done a
    | error e =>
      apply Procedure.Keeps.bind
      · exact Procedure.keeps_modify fun _ => rfl
      · exact fun _ => Procedure.keeps_raise e
  sock := Procedure.keeps_read _
  running := Procedure.keeps_read _
  polls := Procedure.keeps_read _
  setSock _ := Procedure.keeps_modify fun _ => rfl
  stopCore := Procedure.keeps_modify fun _ => rfl
  startCore := Procedure.keeps_modify fun _ => rfl
  await := heedlessOutside.await
  silenced step := by
    apply (Procedure.keeps_read _).bind
    intro slipped
    apply Procedure.Keeps.bind
    · exact step.catching fun _ => Procedure.keeps_done ()
    · exact fun _ => Procedure.keeps_modify fun _ => rfl

theorem coreRecover_outside : Procedure.Keeps World.outside coreRecover := by
  apply (keepsOutside.ask .coreRecover).bind
  intro _
  exact Procedure.keeps_modify fun _ => rfl

end AiroFanuc.Driver
