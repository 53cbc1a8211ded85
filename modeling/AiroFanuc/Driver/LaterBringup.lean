import AiroFanuc.Driver.BringupRules

/-! What of the core outlasts a bring-up, and two bring-ups before one controller. -/

namespace AiroFanuc.Driver

open RtCore Library

/-! ### What a bring-up cannot undo -/

/-- A fact of the core, and of whether streaming has begun, that holds from here on. -/
structure Lasting (J : StreamCore → Bool → Prop) : Prop where
  run : ∀ {c : StreamCore} {began : Bool} (events : List CoreEvent), J c began →
    J (c.run events) (began || !c.streamingReady && (c.run events).streamingReady)
  start : ∀ {c : StreamCore} {began : Bool}, J c began → J { c with rx := none } began
  recover : ∀ {c : StreamCore} {began : Bool}, c.streamingReady = true → J c began →
    J { c with recoverReq := true } began

theorem StreamCore.run_streamingReady {c : StreamCore} (ready : c.streamingReady = true)
    (events : List CoreEvent) : (c.run events).streamingReady = true := by
  induction events generalizing c with
  | nil => exact ready
  | cons e rest ih =>
    apply ih
    rw [StreamCore.step_streamingReady]
    cases e with
    | packet g => exact Bool.or_eq_true_iff.mpr (.inl ready)
    | window trip play => exact ready

/-- A core that never streamed stays one of them until its first packet with motion possible. -/
theorem lasting_sound : Lasting fun c _ => c.Sound where
  run events sound := sound.run events
  start sound := ⟨sound.ready, fun unready => { sound.preroll unready with rx := nofun }⟩
  recover ready sound :=
    ⟨sound.ready, fun unready => absurd (ready.symm.trans unready) Bool.noConfusion⟩

/-- A core that streamed before does not begin again. -/
theorem lasting_streamed : Lasting fun c began => c.streamingReady = true ∧ began = false where
  run events streamed := by
    obtain ⟨ready, rfl⟩ := streamed
    refine ⟨StreamCore.run_streamingReady ready events, ?_⟩
    rw [ready]
    rfl
  start := id
  recover _ := id

theorem lasting_began : Lasting fun _ began => began = true where
  run _ began := Bool.or_eq_true_iff.mpr (.inl began)
  start := id
  recover _ := id

section Lasting

variable {J : StreamCore → Bool → Prop}

/-- The fact, and that the core streams. -/
theorem Lasting.ready (lasting : Lasting J) :
    Lasting fun c began => J c began ∧ c.streamingReady = true where
  run events kept := ⟨lasting.run events kept.1, StreamCore.run_streamingReady kept.2 events⟩
  start kept := ⟨lasting.start kept.1, kept.2⟩
  recover ready kept := ⟨lasting.recover ready kept.1, kept.2⟩

/-- The fact, at this moment of a bring-up. -/
def World.Holds (J : StreamCore → Bool → Prop) (w : World) : Prop := J w.core w.began

open World (Holds)

theorem Lasting.heedless (lasting : Lasting J) (E : Exc → World → Prop) :
    Heedless fun _ x => Procedure.Triple (Holds J) x (fun _ => Holds J) E := by
  apply heedlessTriple
  · exact fun _ _ _ => id
  · intro w events kept
    unfold World.pass
    split
    · exact lasting.run events kept
    · exact kept

theorem Lasting.rules (lasting : Lasting J) :
    AllRules fun _ x => Procedure.Triple (Holds J) x (fun _ => Holds J) fun _ => Holds J where
  link := Exc.listed_of_link
  listed := id
  done _ := Procedure.triple_done fun _ => id
  raise _ := Procedure.triple_raise fun _ => id
  bind := Procedure.Triple.bind
  catching {_ _ handler} first handled others := by
    apply first.catching
    intro e
    cases listed : e.listed
    · rw [others e listed]
      exact Procedure.triple_raise fun _ => id
    · exact handled e listed
  ask := (lasting.heedless _).ask
  convert {_ x} _ := by
    cases x with
    | ok a => exact Procedure.triple_done fun _ => id
    | error e =>
      apply Procedure.Triple.bind (Q := fun _ => Holds J)
      · exact Procedure.triple_modify fun _ => id
      · exact fun _ => Procedure.triple_raise fun _ => id
  sock := Procedure.triple_read fun _ => id
  running := Procedure.triple_read fun _ => id
  polls := Procedure.triple_read fun _ => id
  setSock _ := Procedure.triple_modify fun _ => id
  stopCore := Procedure.triple_modify fun _ => id
  startCore := Procedure.triple_modify fun _ => lasting.start
  await := (lasting.heedless _).await
  silenced {_} step := by
    apply Procedure.Triple.bind (Q := fun _ => Holds J) (Procedure.triple_read fun _ => id)
    intro slipped
    apply Procedure.Triple.bind (Q := fun _ => Holds J)
    · apply step.catching
      exact fun _ => Procedure.triple_done fun _ => id
    · exact fun _ => Procedure.triple_modify fun _ => id
  forked := Procedure.triple_read fun _ => id
  setState _ _ _ := Procedure.triple_modify fun _ => id
  marking _ _ _ _ := Procedure.triple_modify fun _ => id

/-- `wait_ready` waits for nothing else. -/
theorem polled_ready (between : List (List CoreEvent)) {E : Exc → World → Prop} :
    Procedure.Triple (fun _ => True) (polled .ready between)
      (fun found w => found = true → w.core.streamingReady = true) E := by
  induction between with
  | nil => exact Procedure.triple_read fun _ _ => id
  | cons events rest ih =>
    apply Procedure.Triple.bind (Q := fun seen w => seen = w.core.streamingReady)
    · exact Procedure.triple_read fun _ _ => rfl
    · intro seen
      split
      case isTrue found =>
        apply Procedure.triple_done
        intro w read _
        rw [← read, found]
        rfl
      case isFalse waits =>
        apply Procedure.Triple.bind (Q := fun _ _ => True)
        · exact Procedure.triple_modify fun _ _ => trivial
        · exact fun _ => ih

theorem prerollSm_ready {E : Exc → World → Prop} (raised : ∀ e w, E e w) :
    Procedure.Triple (fun _ => True) prerollSm (fun _ w => w.core.streamingReady = true) E := by
  have anything {α : Type} (x : Bringup α) :
      Procedure.Triple (fun _ => True) x (fun _ _ => True) E := by
    intro w _
    rcases x.run w with ⟨e | a, after⟩
    · exact raised e after
    · trivial
  apply (anything coreStart).bind
  intro started
  apply (anything (require started)).bind
  intro _
  have waits : Procedure.Triple (fun _ => True) (await .ready)
      (fun found w => found = true → w.core.streamingReady = true) E := by
    apply (anything (ask (.wait .ready))).bind
    intro a
    apply (polled_ready a.between).bind
    intro found
    apply Procedure.triple_done
    intro w read both
    exact read (Bool.and_eq_true_iff.mp both).1
  apply waits.bind
  intro ready
  cases ready with
  | true => exact Procedure.triple_done fun _ read => read rfl
  | false => exact Procedure.triple_raise fun _ _ => raised _ _

theorem Lasting.prerollSm (lasting : Lasting J) :
    Procedure.Triple (Holds J) prerollSm
      (fun _ => Holds fun c began => J c began ∧ c.streamingReady = true) fun _ => Holds J := by
  apply (lasting.rules.prerollSm.both
    ((prerollSm_ready (E := fun _ _ => True) fun _ _ => trivial).before fun _ _ => trivial)).weaken
  · exact fun _ => id
  · exact fun _ _ => id
  · exact fun _ _ => And.left

theorem Lasting.commandableSm (lasting : Lasting J) (policy : BringupPolicy) :
    Procedure.Triple (Holds fun c began => J c began ∧ c.streamingReady = true)
      (commandableSm policy) (fun _ => Holds J) fun _ => Holds J := by
  have recover : Procedure.Triple (Holds fun c began => J c began ∧ c.streamingReady = true)
      coreRecover (fun _ => Holds fun c began => J c began ∧ c.streamingReady = true)
      fun _ => Holds fun c began => J c began ∧ c.streamingReady = true := by
    apply (lasting.ready.rules.ask .coreRecover).bind
    intro _
    exact Procedure.triple_modify fun w kept => lasting.ready.recover kept.2 kept
  apply (lasting.ready.rules.commandableSm recover policy).weaken
  · exact fun _ => id
  · exact fun _ _ => And.left
  · exact fun _ _ => And.left

theorem Lasting.bringupOnce (lasting : Lasting J) (policy : BringupPolicy) :
    Procedure.Triple (Holds J) (bringupOnce policy) (fun _ => Holds J) fun _ => Holds J := by
  have set (state : LifecycleState) : Procedure.Triple (Holds J) (setState policy state)
      (fun _ => Holds J) fun _ => Holds J := Procedure.triple_modify fun _ => id
  apply (set _).bind
  intro _
  apply (lasting.rules.connectRmi policy).bind
  intro _
  apply (set _).bind
  intro _
  apply (lasting.rules.launchTp policy).bind
  intro _
  apply (set _).bind
  intro _
  apply Procedure.Triple.bind (Q := fun _ => Holds J)
  · apply lasting.prerollSm.bind
    exact fun _ => lasting.commandableSm policy
  · exact fun _ => set _

theorem Lasting.bringupAttempts (lasting : Lasting J) (policy : BringupPolicy) (attempts : Nat) :
    Procedure.Triple (Holds J) (bringupAttempts policy attempts) (fun _ => Holds J)
      fun _ => Holds J := by
  induction attempts with
  | zero =>
    apply Procedure.Triple.bind (Q := fun _ => Holds J)
    · exact Procedure.triple_modify fun _ => id
    · exact fun _ => Procedure.triple_raise fun _ => id
  | succ more ih =>
    apply Procedure.Triple.bind (Q := fun _ => Holds J)
    · exact Procedure.triple_modify fun _ => id
    · intro _
      have attempt : Procedure.Triple (Holds J)
          ((attempted policy).catching fun e => pure (some e)) (fun _ => Holds J)
          fun _ => Holds J := by
        apply Procedure.Triple.catching (F := fun _ => Holds J)
        · apply (lasting.bringupOnce policy).bind
          exact fun _ => Procedure.triple_done fun _ => id
        · exact fun e => Procedure.triple_done fun _ => id
      apply attempt.bind
      exact lasting.rules.concluded (fun _ => Procedure.triple_raise fun _ => id) ih

end Lasting

/-! ### Two bring-ups before one controller -/

/-- No packet that the core meets has a kill gate up. -/
def Answer.Clear (a : Answer) : Prop :=
  (∀ e ∈ a.meanwhile, e.Clear) ∧ ∀ events ∈ a.between, ∀ e ∈ events, e.Clear

/-- Two moments of two bring-ups that go on alike. -/
structure Joined (s t : World) : Prop where
  course : s.course = t.course
  core : s.core.Alike t.core
  rx : t.running = true → s.core.rx = t.core.rx
  clearRx : t.running = true → ∀ g ∈ t.core.rx, (CoreEvent.packet g).Clear
  clear : ∀ n, (t.answers n).Clear

namespace StreamCore

variable {c d : StreamCore}

theorem Alike.streamingReady (alike : c.Alike d) : c.streamingReady = d.streamingReady := by
  cases alike with
  | preroll _ unready unready' => rw [unready, unready']
  | streaming => rfl

/-- The polls of a wait see no difference. -/
theorem Alike.seen (alike : c.Alike d) (wait : Wait) : wait.seen c = wait.seen d := by
  cases alike with
  | preroll _ unready unready' pre pre' =>
    cases wait with
    | ready => exact unready.trans unready'.symm
    | hold => exact decide_eq_decide.mpr (iff_of_false pre.shownMode pre'.shownMode)
    | possible | settled => exact pre.shownPossible.trans pre'.shownPossible.symm
  | streaming _ _ _ _ _ _ shown =>
    cases wait with
    | hold => exact decide_eq_decide.mpr shown
    | ready | possible | settled => rfl

theorem Alike.start (alike : c.Alike d) : Alike { c with rx := none } { d with rx := none } := by
  cases alike with
  | preroll limits unready unready' pre pre' =>
    exact .preroll limits unready unready' { pre with rx := nofun } { pre' with rx := nofun }
  | streaming d lastGates shownMode received ready possible shown =>
    exact .streaming { d with rx := none } lastGates shownMode received ready possible shown

theorem Alike.recover (alike : c.Alike d) (ready : c.streamingReady = true) :
    Alike { c with recoverReq := true } { d with recoverReq := true } := by
  cases alike with
  | preroll _ unready => exact absurd (ready.symm.trans unready) Bool.noConfusion
  | streaming d lastGates shownMode received ready possible shown =>
    exact .streaming { d with recoverReq := true } lastGates shownMode received ready possible shown

theorem step_clearRx {e : CoreEvent} (clear : e.Clear) :
    ∀ g ∈ (c.step e).rx, (CoreEvent.packet g).Clear := by
  rw [step_rx]
  cases e with
  | packet g =>
    rintro _ ⟨⟩
    exact clear
  | window trip play => exact nofun

theorem Alike.run (alike : c.Alike d) (rx : c.rx = d.rx) {events : List CoreEvent}
    (clear : ∀ e ∈ events, e.Clear) (clearRx : ∀ g ∈ d.rx, (CoreEvent.packet g).Clear) :
    (c.run events).Alike (d.run events) ∧ (c.run events).rx = (d.run events).rx ∧
      ∀ g ∈ (d.run events).rx, (CoreEvent.packet g).Clear := by
  induction events generalizing c d with
  | nil => exact ⟨alike, rx, clearRx⟩
  | cons e rest ih =>
    have clearE := clear e List.mem_cons_self
    have stepped := alike.step rx clearE clearRx
    exact ih stepped.1 stepped.2 (fun f member => clear f (List.mem_cons_of_mem _ member))
      (step_clearRx clearE)

end StreamCore

namespace Joined

variable {s t : World}

theorem running (joined : Joined s t) : s.running = t.running := by
  have same : s.course.running = t.course.running := by rw [joined.course]
  exact same

/-- Whatever the core meets in both, its thread running or not. -/
theorem pass (joined : Joined s t) {events : List CoreEvent} (clear : ∀ e ∈ events, e.Clear) :
    Joined (s.pass events) (t.pass events) := by
  unfold World.pass
  by_cases running : t.running = true
  · rw [if_pos (joined.running.trans running), if_pos running]
    have ran := joined.core.run (joined.rx running) clear (joined.clearRx running)
    refine ⟨?_, ran.1, fun _ => ran.2.1, fun _ => ran.2.2, joined.clear⟩
    rw [joined.core.streamingReady, ran.1.streamingReady]
    exact congrArg (fun w : World =>
      { w with
        began := w.began || !t.core.streamingReady && (t.core.run events).streamingReady })
      joined.course
  · rw [if_neg (by rw [joined.running]; exact running), if_neg running]
    exact joined

/-- What is read of the course is read alike. -/
theorem read {α : Type} (joined : Joined s t) {f : World → α}
    (seen : ∀ w : World, f w.course = f w) : f s = f t := by
  rw [← seen s, joined.course, seen t]

end Joined

/-- Two moments that go on alike, with a fact that lasts. -/
abbrev Paired (J : StreamCore → Bool → Prop) (s t : World) : Prop := Joined s t ∧ s.Holds J

section Paired

variable {J : StreamCore → Bool → Prop}

theorem paired_read {α : Type} {f : World → α} (seen : ∀ w : World, f w.course = f w)
    {E : Exc → World → World → Prop} :
    Procedure.Together (Paired J) (Procedure.read f) (fun _ => Paired J) E :=
  Procedure.together_read fun _ _ paired => ⟨paired.1.read seen, paired⟩

theorem Lasting.paired_pass (lasting : Lasting J) {events : List CoreEvent}
    (clear : ∀ e ∈ events, e.Clear) {E : Exc → World → World → Prop} :
    Procedure.Together (Paired J) (pass events) (fun _ => Paired J) E := by
  apply Procedure.together_modify
  rintro s t ⟨joined, kept⟩
  refine ⟨joined.pass clear, ?_⟩
  unfold World.pass
  split
  · exact lasting.run events kept
  · exact kept

theorem Lasting.paired_ask (lasting : Lasting J) (request : Request)
    {E : Exc → World → World → Prop} :
    Procedure.Together (Paired J) (ask request) (fun a s t => Paired J s t ∧ a.Clear) E := by
  apply Procedure.Together.bind (Q := fun a s t => Paired J s t ∧ a.Clear)
  · apply Procedure.together_read
    intro s t paired
    have same := paired.1.read (f := fun w => w.answers w.asked) fun _ => rfl
    refine ⟨same, paired, ?_⟩
    rw [same]
    exact paired.1.clear _
  · intro a
    apply Procedure.Together.bind (Q := fun _ s t => Paired J s t ∧ a.Clear)
    · apply Procedure.together_modify
      rintro s t ⟨⟨joined, kept⟩, clear⟩
      refine ⟨⟨{ joined with course := ?_ }, kept⟩, clear⟩
      exact congrArg (fun w : World =>
        { w with asked := w.asked + 1, requests := w.requests ++ [request] }) joined.course
    · intro _ s t
      rintro ⟨paired, clear⟩
      exact ⟨rfl, ((lasting.paired_pass clear.1 (E := E)) s t paired).2, clear⟩

theorem Lasting.paired_polled (lasting : Lasting J) (wait : Wait)
    {between : List (List CoreEvent)} (clear : ∀ events ∈ between, ∀ e ∈ events, e.Clear)
    {E : Exc → World → World → Prop} :
    Procedure.Together (Paired J) (polled wait between) (fun _ => Paired J) E := by
  have poll : Procedure.Together (Paired J) (Procedure.read fun w => wait.seen w.core)
      (fun _ => Paired J) E :=
    Procedure.together_read fun _ _ paired => ⟨paired.1.core.seen wait, paired⟩
  induction between with
  | nil =>
    unfold polled
    split
    · exact Procedure.together_done fun _ _ => id
    · exact poll
  | cons events rest ih =>
    apply poll.bind
    intro seen
    split
    · exact Procedure.together_done fun _ _ => id
    · apply (lasting.paired_pass (clear events List.mem_cons_self)).bind
      exact fun _ => ih fun events member => clear events (List.mem_cons_of_mem _ member)

theorem Lasting.paired_await (lasting : Lasting J) (wait : Wait)
    {E : Exc → World → World → Prop} :
    Procedure.Together (Paired J) (await wait) (fun _ => Paired J) E := by
  apply (lasting.paired_ask _).bind
  intro a s t
  rintro ⟨paired, clear⟩
  have polls : Procedure.Together (Paired J) (do
      let found ← polled wait a.between
      pure (found && (a.ok || !wait.stoppable))) (fun _ => Paired J) E := by
    apply (lasting.paired_polled wait clear.2).bind
    intro found
    exact Procedure.together_done fun _ _ => id
  exact polls s t paired

theorem Lasting.pairedRules (lasting : Lasting J) :
    AllRules fun _ x => Procedure.Together (Paired J) x (fun _ => Paired J) fun _ => Paired J where
  link := Exc.listed_of_link
  listed := id
  done _ := Procedure.together_done fun _ _ => id
  raise _ := Procedure.together_raise fun _ _ => id
  bind := Procedure.Together.bind
  catching {_ _ handler} first handled others := by
    apply first.catching
    intro e
    cases listed : e.listed
    · rw [others e listed]
      exact Procedure.together_raise fun _ _ => id
    · exact handled e listed
  ask request :=
    (lasting.paired_ask request).weaken (fun _ _ => id) (fun _ _ _ => And.left) fun _ _ _ => id
  convert {_ x} _ := by
    cases x with
    | ok a => exact Procedure.together_done fun _ _ => id
    | error e =>
      apply Procedure.Together.bind (Q := fun _ => Paired J)
      · apply Procedure.together_modify
        rintro s t ⟨joined, kept⟩
        refine ⟨{ joined with course := ?_ }, kept⟩
        exact congrArg (fun w : World => { w with slipped := w.slipped || w.sock || w.running })
          joined.course
      · exact fun _ => Procedure.together_raise fun _ _ => id
  sock := paired_read fun _ => rfl
  running := paired_read fun _ => rfl
  polls := paired_read fun _ => rfl
  setSock sock := by
    apply Procedure.together_modify
    rintro s t ⟨joined, kept⟩
    refine ⟨{ joined with course := ?_ }, kept⟩
    exact congrArg (fun w : World => { w with sock := sock }) joined.course
  stopCore := by
    apply Procedure.together_modify
    rintro s t ⟨joined, kept⟩
    refine ⟨⟨?_, joined.core, nofun, nofun, joined.clear⟩, kept⟩
    exact congrArg (fun w : World => { w with running := false }) joined.course
  startCore := by
    apply Procedure.together_modify
    rintro s t ⟨joined, kept⟩
    refine ⟨⟨?_, joined.core.start, fun _ => rfl, fun _ => nofun, joined.clear⟩, lasting.start kept⟩
    exact congrArg (fun w : World => { w with running := true }) joined.course
  await wait := lasting.paired_await wait
  silenced {_} step := by
    apply Procedure.Together.bind
    · exact paired_read fun _ => rfl
    · intro slipped
      apply Procedure.Together.bind (Q := fun _ => Paired J)
      · apply step.catching
        exact fun _ => Procedure.together_done fun _ _ => id
      · intro _
        apply Procedure.together_modify
        rintro s t ⟨joined, kept⟩
        refine ⟨{ joined with course := ?_ }, kept⟩
        exact congrArg (fun w : World => { w with slipped := slipped }) joined.course
  forked := paired_read fun _ => rfl
  setState _ _ _ := by
    apply Procedure.together_modify
    rintro s t ⟨joined, kept⟩
    exact ⟨{ joined with course := joined.course }, kept⟩
  marking grprunForked probes launches blind := by
    apply Procedure.together_modify
    rintro s t ⟨joined, kept⟩
    obtain ⟨forked, probed, launched⟩ := blind s
    obtain ⟨forked', probed', launched'⟩ := blind t
    refine ⟨{ joined with course := ?_ }, kept⟩
    rw [← forked, ← probed, ← launched, ← forked', ← probed', ← launched', joined.course]
    exact congrArg (fun w : World =>
      { w with
        grprunForked := grprunForked t.course
        probes := probes t.course
        launches := launches t.course }) joined.course

end Paired

theorem lasting_ready : Lasting fun c _ => c.streamingReady = true where
  run events ready := StreamCore.run_streamingReady ready events
  start := id
  recover _ := id

/-- Two moments that go on alike, with the cores streaming. -/
abbrev Streaming : World → World → Prop := Paired fun c _ => c.streamingReady = true

theorem joinedRules :
    AllRules fun _ x => Procedure.Together Joined x (fun _ => Joined) fun _ => Joined := by
  have nothing : Lasting fun _ _ => True := ⟨fun _ => id, id, fun _ => id⟩
  have same : Paired (fun _ _ => True) = Joined := by
    funext s t
    exact propext ⟨And.left, fun joined => ⟨joined, trivial⟩⟩
  have rules := nothing.pairedRules
  rw [same] at rules
  exact rules

theorem prerollSm_together :
    Procedure.Together Joined prerollSm (fun _ => Streaming) fun _ => Joined := by
  have steps := joinedRules.prerollSm.withTriple
    (prerollSm_ready (E := fun _ _ => True) fun _ _ => trivial) fun _ _ _ => trivial
  exact steps.weaken (fun _ _ => id) (fun _ _ _ => id) fun _ _ _ => And.left

theorem commandableSm_together (policy : BringupPolicy) :
    Procedure.Together Streaming (commandableSm policy) (fun _ => Joined) fun _ => Joined := by
  have rules := lasting_ready.pairedRules
  have recover : Procedure.Together Streaming coreRecover (fun _ => Streaming)
      fun _ => Streaming := by
    apply (rules.ask .coreRecover).bind
    intro _
    apply Procedure.together_modify
    rintro s t ⟨joined, ready⟩
    exact ⟨{ joined with core := joined.core.recover ready }, ready⟩
  exact (rules.commandableSm recover policy).weaken (fun _ _ => id) (fun _ _ _ => And.left)
    fun _ _ _ => And.left

theorem bringupOnce_together (policy : BringupPolicy) :
    Procedure.Together Joined (bringupOnce policy) (fun _ => Joined) fun _ => Joined := by
  have set (state : LifecycleState) : Procedure.Together Joined (setState policy state)
      (fun _ => Joined) fun _ => Joined := by
    apply Procedure.together_modify
    exact fun s t joined => { joined with course := joined.course }
  apply (set _).bind
  intro _
  apply (joinedRules.connectRmi policy).bind
  intro _
  apply (set _).bind
  intro _
  apply (joinedRules.launchTp policy).bind
  intro _
  apply (set _).bind
  intro _
  apply Procedure.Together.bind (Q := fun _ => Joined)
  · apply prerollSm_together.bind
    exact fun _ => commandableSm_together policy
  · exact fun _ => set _

theorem bringupAttempts_together (policy : BringupPolicy) (attempts : Nat) :
    Procedure.Together Joined (bringupAttempts policy attempts) (fun _ => Joined)
      fun _ => Joined := by
  induction attempts with
  | zero =>
    apply Procedure.Together.bind (Q := fun _ => Joined)
    · apply Procedure.together_modify
      exact fun s t joined => { joined with course := joined.course }
    · exact fun _ => Procedure.together_raise fun _ _ => id
  | succ more ih =>
    apply Procedure.Together.bind (Q := fun _ => Joined)
    · apply Procedure.together_modify
      intro s t joined
      refine { joined with course := ?_ }
      exact congrArg (fun w : World => { w with attempt := w.attempt + 1 }) joined.course
    · intro _
      have attempt : Procedure.Together Joined
          ((attempted policy).catching fun e => pure (some e)) (fun _ => Joined)
          fun _ => Joined := by
        apply Procedure.Together.catching (F := fun _ => Joined)
        · apply (bringupOnce_together policy).bind
          exact fun _ => Procedure.together_done fun _ _ => id
        · exact fun e => Procedure.together_done fun _ _ => id
      apply attempt.bind
      exact joinedRules.concluded (fun _ => Procedure.together_raise fun _ _ => id) ih

end AiroFanuc.Driver
