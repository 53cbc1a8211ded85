import AiroFanuc.Driver.LaterBringup

/-! A bring-up before a healthy controller gets as far as streaming. -/

namespace AiroFanuc.Driver

open RtCore Library

/-- An answer of a controller with nothing wrong, whatever its registers hold and whenever its
packets come. -/
structure Answer.Healthy (a : Answer) : Prop where
  lost : a.lost = false
  link : a.link = .replied
  reply : ∃ register, a.reply = goodReply register
  ok : a.ok = true
  clear : a.Clear

/-- The trigger register is clear at the first poll, and a packet is there at once. -/
def prompt : Answer := { healthy with reply := goodReply 0, polls := 1 }

theorem prompt_healthy : prompt.Healthy where
  lost := rfl
  link := rfl
  reply := ⟨0, rfl⟩
  ok := rfl
  clear := by
    refine ⟨nofun, ?_⟩
    intro events member e inside
    rw [List.mem_singleton.mp member] at inside
    rcases List.mem_pair.mp inside with rfl | rfl
    · exact ⟨rfl, rfl, rfl, rfl, rfl⟩
    · trivial

theorem prompt_port : prompt.reply "PortNumber" = .int 16002 := by
  simp [prompt, goodReply]

theorem prompt_register : prompt.reply "RegisterValue" = .int 0 := by
  simp [prompt, goodReply]

theorem prompt_absent {key : String} (port : key ≠ "PortNumber")
    (register : key ≠ "RegisterValue") : prompt.reply key = .absent :=
  (if_neg port).trans (if_neg register)

theorem prompt_errorId : errorId prompt.reply = pure 0 := by
  rw [errorId, prompt_absent (by simp) (by simp)]
  rfl

theorem prompt_silent : errorMessages prompt.reply = [] := by
  simp [errorMessages, prompt_absent]

/-- Before a prompt controller, with the core not yet started. -/
structure World.Cold (w : World) : Prop where
  answers : w.answers = fun _ => prompt
  running : w.running = false
  unready : w.core.streamingReady = false

/-- The session is open. -/
structure World.Up (w : World) : Prop extends w.Cold where
  sock : w.sock = true

/-- The core's thread runs, with nothing met yet. -/
structure World.Started (w : World) : Prop where
  answers : w.answers = fun _ => prompt
  running : w.running = true
  unready : w.core.streamingReady = false

theorem World.pass_cold {w : World} (cold : w.Cold) (events : List CoreEvent) :
    w.pass events = w := by
  rw [World.pass, if_neg (by rw [cold.running]; decide)]

theorem ask_cold {P : World → Prop} {E : Exc → World → Prop} (cold : ∀ {w}, P w → w.Cold)
    (counted : ∀ w asked requests, P w → P { w with asked := asked, requests := requests })
    (request : Request) : Procedure.Triple P (ask request) (fun a w => a = prompt ∧ P w) E := by
  apply Procedure.Triple.bind (Q := fun a w => a = prompt ∧ P w)
  · exact Procedure.triple_read fun w kept => ⟨congrFun (cold kept).answers _, kept⟩
  · intro a
    apply Procedure.Triple.bind (Q := fun _ w => a = prompt ∧ P w)
    · exact Procedure.triple_modify fun w kept => ⟨kept.1, counted w _ _ kept.2⟩
    · intro _
      apply Procedure.Triple.bind (Q := fun _ w => a = prompt ∧ P w)
      · apply Procedure.triple_modify
        intro w kept
        rw [World.pass_cold (cold kept.2)]
        exact kept
      · exact fun _ => Procedure.triple_done fun _ => id

/-- A step that raises nothing and comes to this result. -/
def Smooth {α : Type} (x : Bringup α) (v : α) : Prop :=
  Procedure.Triple World.Up x (fun a w => a = v ∧ w.Up) fun _ _ => False

section Smooth

variable {α β : Type} {x : Bringup α} {v : α}

theorem smooth_done (v : α) : Smooth (Procedure.done v) v :=
  Procedure.triple_done fun _ up => ⟨rfl, up⟩

theorem Smooth.bind {next : α → Bringup β} {u : β} (first : Smooth x v)
    (onward : Smooth (next v) u) : Smooth (x >>= next) u :=
  Procedure.Triple.bind_eq first onward

theorem Smooth.catching {handler : Exc → Bringup α} (first : Smooth x v) :
    Smooth (x.catching handler) v :=
  Procedure.Triple.catching first fun _ _ => False.elim

theorem smooth_modify {f : World → World} (up : ∀ w, w.Up → (f w).Up) :
    Smooth (Procedure.modify f) () :=
  Procedure.triple_modify fun w before => ⟨rfl, up w before⟩

theorem smooth_read {f : World → α} (value : ∀ w, w.Up → f w = v) :
    Smooth (Procedure.read f) v :=
  Procedure.triple_read fun w up => ⟨value w up, up⟩

theorem smooth_ask (request : Request) : Smooth (ask request) prompt :=
  ask_cold (fun up => up.toCold) (fun _ _ _ up => { up with }) request

theorem smooth_sock : Smooth (Procedure.read World.sock) true :=
  smooth_read fun _ up => up.sock

theorem smooth_ensureOpen : Smooth ensureOpen () := smooth_sock.bind (smooth_done ())

theorem smooth_drop : Smooth (drop prompt) () := smooth_done ()

theorem smooth_errorId : Smooth (errorId prompt.reply) 0 := by
  rw [prompt_errorId]
  exact smooth_done 0

theorem smooth_sendAndWait (raiseOnErrorId : Bool) :
    Smooth (sendAndWait raiseOnErrorId prompt) prompt.reply := by
  apply smooth_sock.bind
  rw [if_neg (by simp [prompt, healthy])]
  apply smooth_errorId.bind
  rw [if_neg (by simp)]
  exact smooth_done prompt.reply

theorem smooth_exchange (request : Request) : Smooth (exchange request) prompt.reply := by
  apply Smooth.catching
  apply (smooth_ask request).bind
  apply smooth_drop.bind
  apply smooth_ensureOpen.bind
  exact smooth_sendAndWait true

theorem smooth_exchanged (request : Request) : Smooth (do
    let _ ← exchange request
    pure ()) () :=
  (smooth_exchange request).bind (smooth_done ())

theorem smooth_toInt (key : String) (default : Int) (port : key ≠ "PortNumber")
    (register : key ≠ "RegisterValue") :
    Smooth (convert ((prompt.reply key).toInt default)) default := by
  rw [prompt_absent port register]
  exact smooth_done default

theorem smooth_getStatus : Smooth getStatus ⟨0, 0, 0, 0, 1, 0, 0⟩ := by
  apply (smooth_exchange _).bind
  apply (smooth_toInt _ _ (by simp) (by simp)).bind
  apply (smooth_toInt _ _ (by simp) (by simp)).bind
  apply (smooth_toInt _ _ (by simp) (by simp)).bind
  apply (smooth_toInt _ _ (by simp) (by simp)).bind
  apply (smooth_toInt _ _ (by simp) (by simp)).bind
  apply (smooth_toInt _ _ (by simp) (by simp)).bind
  apply (smooth_toInt _ _ (by simp) (by simp)).bind
  exact smooth_done _

theorem smooth_getExtendedStatus : Smooth getExtendedStatus () := by
  apply (smooth_exchange _).bind
  apply (smooth_toInt _ _ (by simp) (by simp)).bind
  rw [prompt_absent (by simp) (by simp)]
  exact smooth_done ()

theorem smooth_readError : Smooth readError [] := by
  apply (smooth_exchange _).bind
  apply (smooth_toInt _ _ (by simp) (by simp)).bind
  apply (smooth_toInt _ _ (by simp) (by simp)).bind
  rw [prompt_silent]
  exact smooth_done []

theorem smooth_runPreflight (policy : BringupPolicy) : Smooth (runPreflight policy) () := by
  have status : Smooth (onLink (do
      let _ ← getStatus
      getExtendedStatus) (Procedure.raise .preflight)) () := by
    apply Smooth.catching
    exact smooth_getStatus.bind smooth_getExtendedStatus
  have checks : Smooth (fullChecks policy) false := by
    unfold fullChecks
    split
    · exact (smooth_ask _).bind (smooth_done false)
    · exact smooth_done false
  apply status.bind
  apply smooth_readError.catching.bind
  apply checks.bind
  exact smooth_done ()

theorem smooth_sendPrep (name : String) : Smooth (sendPrep name) () := by
  apply (smooth_ask _).bind
  apply smooth_drop.bind
  apply Smooth.catching
  apply (smooth_sendAndWait false).bind
  exact smooth_errorId.bind (smooth_done ())

theorem smooth_initializeOnce : Smooth initializeOnce () := by
  apply (smooth_ask _).bind
  apply smooth_drop.bind
  apply (smooth_sendAndWait true).bind
  apply (smooth_ask _).bind
  apply smooth_drop.bind
  apply (smooth_sendAndWait true).bind
  exact (smooth_toInt _ _ (by simp) (by simp)).bind (smooth_done ())

theorem smooth_rmiInitialize : Smooth rmiInitialize () := by
  apply smooth_ensureOpen.bind
  apply (smooth_sendPrep _).bind
  apply (smooth_sendPrep _).bind
  apply (smooth_sendPrep _).bind
  exact smooth_initializeOnce.catching

theorem smooth_maybeContinue : Smooth maybeContinue () := (smooth_exchanged _).catching

theorem smooth_reseed : Smooth reseed () := smooth_getStatus.bind (smooth_done ())

/-- A dispatcher that is there already is not forked. -/
theorem smooth_gripdispAlive : Smooth gripdispAlive true := by
  have wrote : Smooth (onLink (do
      let _ ← exchange .writeRegister
      let _ ← exchange .writeRegister
      let _ ← exchange .writeRegister
      pure true) (pure false)) true := by
    apply Smooth.catching
    apply (smooth_exchange _).bind
    apply (smooth_exchange _).bind
    exact (smooth_exchange _).bind (smooth_done true)
  have zero : Smooth readRegisterIsZero true := by
    apply (smooth_exchange _).bind
    have cleared : (Value.int 0).floatIsZero = .ok true := by decide +kernel
    rw [prompt_register, if_neg (by simp [Value.isNone]), cleared]
    exact smooth_done true
  apply wrote.bind
  apply (smooth_read fun w up => by rw [up.answers]).bind
  have polled : Smooth (onLink (do
      let zero ← readRegisterIsZero
      pure (some zero)) (pure none)) (some true) :=
    (zero.bind (smooth_done (some true))).catching
  exact polled.bind (smooth_done true)

theorem smooth_startDispatcher (policy : BringupPolicy) : Smooth (startDispatcher policy) () := by
  apply Procedure.Triple.bind (Q := fun _ => World.Up) (Procedure.triple_read fun _ => id)
  intro forked
  split
  · apply smooth_gripdispAlive.bind
    apply Smooth.bind (v := ())
    · exact smooth_modify fun _ up => { up with }
    · exact smooth_modify fun _ up => { up with }
  · exact smooth_done ()

theorem smooth_launchTp (policy : BringupPolicy) : Smooth (launchTp policy) () := by
  apply (smooth_exchanged _).bind
  apply (smooth_startDispatcher policy).bind
  apply smooth_reseed.bind
  apply Smooth.catching
  apply (smooth_ask _).bind
  apply smooth_drop.bind
  apply smooth_ensureOpen.bind
  exact smooth_modify fun _ up => { up with }

theorem smooth_setState (policy : BringupPolicy) (state : LifecycleState) :
    Smooth (setState policy state) () :=
  smooth_modify fun _ up => { up with }

end Smooth

/-- The session opens. -/
theorem rmiStart_opens :
    Procedure.Triple World.Cold rmiStart (fun _ => World.Up) fun _ _ => False := by
  have opens : Procedure.Triple World.Cold openSession (fun _ => World.Up) fun _ _ => False := by
    apply (ask_cold id (fun _ _ _ cold => { cold with }) .connect).bind_eq
    have replied : prompt.link = .replied := rfl
    simp only [replied, prompt_port]
    rw [prompt_errorId]
    exact Procedure.triple_modify fun _ cold => { cold with sock := rfl }
  apply opens.catching
  exact fun _ => fun _ => False.elim

/-- The core's thread meets the packet that streaming begins with. -/
theorem prerollSm_begins :
    Procedure.Triple World.Up prerollSm (fun _ w => w.began = true) fun _ w => w.began = true := by
  have started : Procedure.Triple World.Up coreStart (fun started w => started = true ∧ w.Started)
      fun _ w => w.began = true := by
    apply (ask_cold (fun up => up.toCold) (fun _ _ _ up => { up with }) .coreStart).bind
    intro a
    apply Procedure.Triple.bind (Q := fun running w => a = prompt ∧ running = false ∧ w.Up)
    · exact Procedure.triple_read fun w kept => ⟨kept.1, kept.2.running, kept.2⟩
    · intro running
      rintro w ⟨rfl, rfl, up⟩
      exact ⟨rfl, up.answers, rfl, up.unready⟩
  have asked : Procedure.Triple World.Started (ask (.wait .ready))
      (fun a w => a = prompt ∧ w.Started) fun _ w => w.began = true := by
    apply Procedure.Triple.bind (Q := fun a w => a = prompt ∧ w.Started)
    · exact Procedure.triple_read fun w up => ⟨congrFun up.answers _, up⟩
    · intro a
      apply Procedure.Triple.bind (Q := fun _ w => a = prompt ∧ w.Started)
      · exact Procedure.triple_modify fun w kept => ⟨kept.1, { kept.2 with }⟩
      · rintro _ w ⟨rfl, up⟩
        refine ⟨rfl, ?_⟩
        show World.Started (w.pass [])
        rw [World.pass, if_pos up.running]
        exact { up with }
  have met : Procedure.Triple World.Started (pass [.packet goodGates, .window none none])
      (fun _ w => w.began = true) fun _ w => w.began = true := by
    apply Procedure.triple_modify
    intro w up
    have ready : (w.core.run [.packet goodGates, .window none none]).streamingReady = true := by
      rw [StreamCore.run, List.foldl_cons, List.foldl_cons, List.foldl_nil,
        StreamCore.step_streamingReady, StreamCore.step_streamingReady]
      exact Bool.or_true _
    rw [World.pass, if_pos up.running]
    show (w.began || !w.core.streamingReady && _) = true
    rw [up.unready, ready, Bool.not_false, Bool.and_self, Bool.or_true]
  have waited : Procedure.Triple World.Started (await .ready) (fun _ w => w.began = true)
      fun _ w => w.began = true := by
    apply asked.bind_eq
    apply Procedure.Triple.bind (Q := fun _ w => w.began = true)
    · apply Procedure.Triple.bind_eq (v := false) (M := World.Started)
      · exact Procedure.triple_read fun w up => ⟨up.unready, up⟩
      · apply met.bind
        exact fun _ => Procedure.triple_read fun _ => id
    · exact fun _ => Procedure.triple_done fun _ => id
  apply started.bind_eq
  apply Procedure.Triple.bind (Q := fun _ => World.Started)
  · exact Procedure.triple_done fun _ => id
  · intro _
    apply waited.bind
    intro ready
    cases ready with
    | true => exact Procedure.triple_done fun _ => id
    | false => exact Procedure.triple_raise fun _ => id

theorem bringupOnce_begins (policy : BringupPolicy) :
    Procedure.Triple World.Cold (bringupOnce policy) (fun _ w => w.began = true)
      fun _ w => w.began = true := by
  have rules := lasting_began.rules
  have recover : Procedure.Triple (fun w : World => w.began = true) coreRecover
      (fun _ w => w.began = true) fun _ w => w.began = true := by
    apply (rules.ask .coreRecover).bind
    exact fun _ => Procedure.triple_modify fun _ => id
  have smooth {x : Bringup Unit} (steps : Smooth x ()) :
      Procedure.Triple World.Up x (fun _ => World.Up) fun _ w => w.began = true :=
    steps.weaken (fun _ => id) (fun _ _ => And.right) fun _ _ => False.elim
  have opens : Procedure.Triple World.Cold rmiStart (fun _ => World.Up)
      fun _ w => w.began = true :=
    rmiStart_opens.weaken (fun _ => id) (fun _ _ => id) fun _ _ => False.elim
  apply Procedure.Triple.bind (Q := fun _ => World.Cold)
  · exact Procedure.triple_modify fun _ cold => { cold with }
  · intro _
    apply Procedure.Triple.bind (Q := fun _ => World.Up)
    · apply opens.bind
      intro _
      apply (smooth (smooth_runPreflight policy)).bind
      intro _
      apply (smooth smooth_rmiInitialize).bind
      exact fun _ => smooth smooth_maybeContinue
    · intro _
      apply (smooth (smooth_setState policy _)).bind
      intro _
      apply (smooth (smooth_launchTp policy)).bind
      intro _
      apply (smooth (smooth_setState policy _)).bind
      intro _
      apply Procedure.Triple.bind (Q := fun _ w => w.began = true)
      · apply prerollSm_begins.bind
        exact fun _ => rules.commandableSm recover policy
      · exact fun _ => Procedure.triple_modify fun _ => id

/-- Before a prompt controller a bring-up with an attempt to make begins to stream. -/
theorem bringup_begins (policy : BringupPolicy) (attempts : 0 < policy.connectRetries)
    {w : World} (cold : w.Cold) : ((bringup policy).run w).2.began = true := by
  obtain ⟨more, attempts⟩ := Nat.exists_eq_add_of_lt attempts
  rw [Nat.zero_add] at attempts
  have begins : Procedure.Triple World.Cold (bringup policy) (fun _ w => w.began = true)
      fun _ w => w.began = true := by
    apply Procedure.Triple.bind (Q := fun _ => World.Cold)
    · exact Procedure.triple_modify fun _ cold => { cold with }
    · intro _
      rw [attempts]
      apply Procedure.Triple.bind (Q := fun _ => World.Cold)
      · exact Procedure.triple_modify fun _ cold => { cold with }
      · intro _
        have attempt : Procedure.Triple World.Cold
            ((attempted policy).catching fun e => pure (some e)) (fun _ w => w.began = true)
            fun _ w => w.began = true := by
          apply Procedure.Triple.catching (F := fun _ w => w.began = true)
          · apply (bringupOnce_begins policy).bind
            exact fun _ => Procedure.triple_done fun _ => id
          · exact fun e => Procedure.triple_done fun _ => id
        apply attempt.bind
        exact lasting_began.rules.concluded (fun _ => Procedure.triple_raise fun _ => id)
          (lasting_began.bringupAttempts policy more)
  have ends := begins w cold
  revert ends
  rcases (bringup policy).run w with ⟨_ | _, after⟩ <;> exact id

end AiroFanuc.Driver
