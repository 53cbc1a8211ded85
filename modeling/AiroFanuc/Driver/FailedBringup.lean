import AiroFanuc.Driver.HealthyBringup
import AiroFanuc.Driver.Moves

/-! What a bring-up that ends by raising leaves behind. -/

namespace AiroFanuc.Driver

open RtCore Library

namespace World

/-- The session is closed and the core stopped. -/
def Shut (w : World) : Prop := w.sock = false ∧ w.running = false

/-- Nothing was refused, and the state is not STREAMING. -/
def Calm (w : World) : Prop := w.slipped = false ∧ w.sup.state ≠ .streaming

/-- What a bring-up leaves that slipped with something open, or shut all. -/
def Failed (w : World) : Prop := w.slipped = (w.sock || w.running) ∧ w.sup.state ≠ .streaming

/-- What an exception leaves: one that is not ordinary leaves open what was open. -/
def Raised (ordinary : Exc → Bool) (e : Exc) (w : World) : Prop :=
  if ordinary e then w.Calm else w.Failed

end World

open World (Calm Raised Shut Failed)

theorem raised_of_ordinary {ordinary : Exc → Bool} {e : Exc} (raised : ordinary e = true)
    {w : World} : w.Raised ordinary e ↔ w.Calm := by
  unfold World.Raised
  rw [if_pos raised]

theorem raised_of_other {ordinary : Exc → Bool} {e : Exc} (other : ordinary e = false)
    {w : World} : w.Raised ordinary e ↔ w.Failed := by
  unfold World.Raised
  rw [other, if_neg Bool.false_ne_true]

theorem raised_state {ordinary : Exc → Bool} {e : Exc} {w : World} (raised : w.Raised ordinary e) :
    w.sup.state ≠ .streaming := by
  unfold World.Raised at raised
  split at raised <;> exact raised.2

/-- Whatever the core meets, it refuses no field and sets no state. -/
theorem pass_shut (w : World) (events : List CoreEvent) :
    (w.pass events).slipped = w.slipped ∧ (w.pass events).sup = w.sup ∧
      (w.pass events).sock = w.sock ∧ (w.pass events).running = w.running := by
  unfold World.pass
  split <;> exact ⟨rfl, rfl, rfl, rfl⟩

theorem heedlessCalm (E : Exc → World → Prop) :
    Heedless fun _ x => Procedure.Triple Calm x (fun _ => Calm) E := by
  apply heedlessTriple
  · exact fun _ _ _ => id
  · rintro w events ⟨slipped, state⟩
    obtain ⟨same, sup, -⟩ := pass_shut w events
    exact ⟨same.trans slipped, by rwa [sup]⟩

/-- The steps of a bring-up raise what is ordinary, or slip with something open. -/
theorem slipping {ordinary : Exc → Bool} (link : ∀ {e : Exc}, e.link = true → ordinary e = true)
    (listed : ∀ {e : Exc}, e.listed = false → ordinary e = false) :
    Rules ordinary fun _ x => Procedure.Triple Calm x (fun _ => Calm) (Raised ordinary) where
  link := link
  listed := listed
  done _ := Procedure.triple_done fun _ => id
  raise raised := Procedure.triple_raise fun _ => (raised_of_ordinary raised).mpr
  bind := Procedure.Triple.bind
  catching {_ _ handler} first handled others := by
    apply first.catching
    intro e
    cases raised : ordinary e
    · rw [others e raised]
      exact Procedure.triple_raise fun _ => id
    · exact (handled e raised).before fun _ => (raised_of_ordinary raised).mp
  ask := (heedlessCalm _).ask
  convert {_ x} refuses := by
    cases x with
    | ok a => exact Procedure.triple_done fun _ => id
    | error e =>
      apply Procedure.Triple.bind (Q := fun _ => Failed)
      · apply Procedure.triple_modify
        rintro w ⟨slipped, state⟩
        refine ⟨?_, state⟩
        simp only [slipped, Bool.false_or]
      · intro _
        exact Procedure.triple_raise fun _ => (raised_of_other (listed (refuses e rfl))).mpr
  sock := Procedure.triple_read fun _ => id
  running := Procedure.triple_read fun _ => id
  polls := Procedure.triple_read fun _ => id
  setSock _ := Procedure.triple_modify fun _ => id
  startCore := Procedure.triple_modify fun _ => id
  stopCore := Procedure.triple_modify fun _ => id
  await := (heedlessCalm _).await
  silenced {x} step := by
    have ended : Procedure.Triple Calm (x.catching fun _ => pure ())
        (fun _ w => w.sup.state ≠ .streaming) (Raised ordinary) := by
      apply (step.weaken (fun _ => id) (fun _ _ => And.right) fun _ _ => raised_state).catching
      exact fun _ => Procedure.triple_done fun _ => id
    apply Procedure.Triple.bind (Q := fun slipped w => slipped = false ∧ w.Calm)
    · exact Procedure.triple_read fun w calm => ⟨calm.1, calm⟩
    · intro slipped
      apply Procedure.triple_at
      rintro before ⟨rfl, calm⟩
      apply Procedure.Triple.bind (Q := fun _ w => w.sup.state ≠ .streaming)
      · apply ended.before
        rintro _ rfl
        exact calm
      · intro _
        exact Procedure.triple_modify fun w state => ⟨rfl, state⟩

theorem slippingAll :
    AllRules fun _ x => Procedure.Triple Calm x (fun _ => Calm) (Raised Exc.listed) where
  toRules := slipping Exc.listed_of_link id
  forked := Procedure.triple_read fun _ => id
  setState _ _ state := Procedure.triple_modify fun _ calm => ⟨calm.1, state⟩
  marking _ _ _ _ := Procedure.triple_modify fun _ => id

theorem bringupOnce_slips (policy : BringupPolicy) :
    Procedure.Triple (fun w => w.slipped = false) (bringupOnce policy)
      (fun _ w => w.slipped = false) (Raised Exc.listed) := by
  have recover : Procedure.Triple Calm coreRecover (fun _ => Calm) (Raised Exc.listed) := by
    apply (slippingAll.ask .coreRecover).bind
    exact fun _ => Procedure.triple_modify fun _ => id
  apply Procedure.Triple.bind (Q := fun _ => Calm)
  · exact Procedure.triple_modify fun _ slipped => ⟨slipped, nofun⟩
  · intro _
    apply (slippingAll.connectRmi policy).bind
    intro _
    apply (slippingAll.setState policy .tpLaunch nofun).bind
    intro _
    apply (slippingAll.launchTp policy).bind
    intro _
    apply (slippingAll.setState policy .smHandshake nofun).bind
    intro _
    apply (slippingAll.handshakeSm recover policy).bind
    intro _
    exact Procedure.triple_modify fun _ calm => calm.1

section Teardown

variable {E : Exc → World → Prop}

theorem ask_stopped (request : Request) :
    Procedure.Triple (fun w => w.Calm ∧ w.running = false) (ask request)
      (fun _ w => w.Calm ∧ w.running = false) E := by
  apply (heedlessTriple ..).ask
  · exact fun _ _ _ => id
  · rintro w events ⟨⟨slipped, state⟩, stopped⟩
    obtain ⟨same, sup, -, running⟩ := pass_shut w events
    exact ⟨⟨same.trans slipped, by rwa [sup]⟩, running.trans stopped⟩

theorem convert_running {α : Type} (x : Except Exc α) :
    Procedure.Keeps World.running (convert x) := by
  cases x with
  | ok a => exact Procedure.keeps_done a
  | error e =>
    apply Procedure.Keeps.bind
    · exact Procedure.keeps_modify fun _ => rfl
    · exact fun _ => Procedure.keeps_raise e

theorem disconnect_running (a : Answer) : Procedure.Keeps World.running (disconnect a) := by
  apply Procedure.Keeps.bind
  · apply (Procedure.keeps_read _).bind
    intro sock
    split
    · exact Procedure.keeps_raise _
    · apply Procedure.Keeps.bind
      · unfold errorId
        split
        · exact Procedure.keeps_done 0
        · exact convert_running _
      · intro eid
        split
        · exact Procedure.keeps_raise _
        · exact Procedure.keeps_done _
  · exact fun _ => Procedure.keeps_done ()

theorem disconnectOpen_stops :
    Procedure.Triple (fun w => w.Calm ∧ w.running = false) disconnectOpen
      (fun _ w => w.Calm ∧ w.running = false) E := by
  apply (ask_stopped .disconnect).bind
  intro a
  apply Procedure.Triple.bind (Q := fun slipped w =>
    slipped = false ∧ w.Calm ∧ w.running = false)
  · exact Procedure.triple_read fun w calm => ⟨calm.1.1, calm⟩
  · intro slipped
    apply Procedure.triple_at
    rintro before ⟨rfl, calm, stopped⟩
    apply Procedure.Triple.bind (Q := fun _ w => w.sup.state ≠ .streaming ∧ w.running = false)
    · have reply : Procedure.Triple (fun w => w.Calm ∧ w.running = false) (disconnect a)
          (fun _ w => w.sup.state ≠ .streaming ∧ w.running = false)
          fun _ w => w.sup.state ≠ .streaming ∧ w.running = false := by
        have steps : Procedure.Triple Calm (disconnect a) (fun _ => Calm)
            (Raised Exc.listed) := by
          apply (slippingAll.sendAndWait false a).bind
          exact fun _ => slippingAll.done ()
        have still := (disconnect_running a).triple (· = false)
        apply ((steps.before fun _ => And.left).both (still.before fun _ => And.right)).weaken
        · exact fun _ => id
        · exact fun _ _ post => ⟨post.1.2, post.2⟩
        · exact fun _ _ post => ⟨raised_state post.1, post.2⟩
      have caught := reply.catching (h := fun _ => pure ()) (E := E)
        (Q := fun _ w => w.sup.state ≠ .streaming ∧ w.running = false)
        fun _ => Procedure.triple_done fun _ => id
      apply caught.before
      rintro _ rfl
      exact ⟨calm, stopped⟩
    · intro _
      exact Procedure.triple_modify fun w kept => ⟨⟨rfl, kept.1⟩, kept.2⟩

/-- The teardown stops and closes all, whatever it meets. -/
theorem teardownPartial_shuts :
    Procedure.Triple Calm teardownPartial (fun _ w => w.Calm ∧ w.Shut) E := by
  apply Procedure.Triple.bind (Q := fun running w => w.Calm ∧ w.running = running)
  · exact Procedure.triple_read fun w calm => ⟨calm, rfl⟩
  · intro running
    apply Procedure.Triple.bind (Q := fun _ w => w.Calm ∧ w.running = false)
    · cases running with
      | true =>
        apply Procedure.Triple.bind (Q := fun _ => Calm)
        · exact ((heedlessCalm E).ask .coreStop).before fun _ => And.left
        · exact fun _ => Procedure.triple_modify fun w calm => ⟨calm, rfl⟩
      | false => exact Procedure.triple_done fun _ => id
    · intro _
      apply Procedure.Triple.bind (Q := fun _ w => w.Calm ∧ w.running = false)
      · exact Procedure.triple_read fun _ => id
      · intro sock
        apply Procedure.Triple.bind (Q := fun _ w => w.Calm ∧ w.running = false)
        · cases sock with
          | true => exact disconnectOpen_stops
          | false => exact Procedure.triple_done fun _ => id
        · exact fun _ => Procedure.triple_modify fun w kept => ⟨kept.1, rfl, kept.2⟩

end Teardown

theorem failed_of_shut {w : World} (calm : w.Calm) (shut : w.Shut) : w.Failed := by
  refine ⟨?_, calm.2⟩
  rw [calm.1, shut.1, shut.2]
  rfl

/-- The triage handles whatever is wrong with the link. -/
theorem triage_fails : Procedure.Triple Calm triage (fun _ => Calm) fun _ => Failed := by
  have rules := @slipping Exc.link id fun {e} unlisted => by
    cases e <;> first | rfl | cases unlisted
  have status : Procedure.Triple Calm (do
      let _ ← getStatus
      let _ ← readError
      pure ()) (fun _ => Calm) (Raised Exc.link) := by
    apply rules.getStatus.bind
    intro _
    apply rules.readError.bind
    intro _
    exact rules.done ()
  apply status.catching
  intro e
  cases link : e.link with
  | true => exact Procedure.triple_done fun _ => (raised_of_ordinary link).mp
  | false => exact Procedure.triple_raise fun _ => (raised_of_other link).mp

theorem bringupAttempts_fails (policy : BringupPolicy) (attempts : Nat) :
    Procedure.Triple (fun w => w.slipped = false ∧ w.Shut) (bringupAttempts policy attempts)
      (fun _ _ => True) fun _ => Failed := by
  induction attempts with
  | zero =>
    apply Procedure.Triple.bind (Q := fun _ w => w.Calm ∧ w.Shut)
    · exact Procedure.triple_modify fun w closed => ⟨⟨closed.1, nofun⟩, closed.2⟩
    · exact fun _ => Procedure.triple_raise fun w closed => failed_of_shut closed.1 closed.2
  | succ more ih =>
    apply Procedure.Triple.bind (Q := fun _ w => w.slipped = false)
    · exact Procedure.triple_modify fun w closed => closed.1
    · intro _
      have attempt : Procedure.Triple (fun w => w.slipped = false)
          ((attempted policy).catching fun e => pure (some e))
          (fun raised w => ∀ e ∈ raised, w.Raised Exc.listed e) fun _ => Failed := by
        apply Procedure.Triple.catching (F := Raised Exc.listed)
        · apply (bringupOnce_slips policy).bind
          intro _
          exact Procedure.triple_done fun w _ e found => absurd found nofun
        · intro e
          apply Procedure.triple_done
          rintro w raised _ ⟨⟩
          exact raised
      apply attempt.bind
      intro raised
      unfold concluded
      cases raised with
      | none => exact Procedure.triple_done fun _ _ => trivial
      | some e =>
        have calm (listed : e.listed = true) (w : World)
            (raised : ∀ f ∈ some e, w.Raised Exc.listed f) : w.Calm :=
          (raised_of_ordinary listed).mp (raised e rfl)
        show Procedure.Triple (fun w : World => ∀ f ∈ some e, w.Raised Exc.listed f)
          (if e = .preflight then _ else if e.retried then _ else _) _ _
        split
        case isTrue blocked =>
          apply (teardownPartial_shuts.before (calm (by rw [blocked]; rfl))).bind
          exact fun _ => Procedure.triple_raise fun w closed => failed_of_shut closed.1 closed.2
        case isFalse other =>
          split
          case isTrue retried =>
            have listed : e.listed = true := by
              cases e <;> first | rfl | exact retried
            apply (triage_fails.before (calm listed)).bind
            intro _
            apply teardownPartial_shuts.bind
            intro _
            exact ih.before fun w closed => ⟨closed.1.1, closed.2⟩
          case isFalse unretried =>
            have unlisted : e.listed = false := by
              cases e <;> first | rfl | exact absurd rfl other | exact absurd rfl unretried
            exact Procedure.triple_raise fun w raised =>
              (raised_of_other unlisted).mp (raised e rfl)

/-! ### The next bring-up -/

/-- The same driver, before a controller that answers as given. -/
def World.facing (w : World) (answers : Nat → Answer) : World :=
  { w with answers := answers, asked := 0 }

/-- Before this controller a bring-up ends as a new driver's would, by the same course. -/
def World.AsFirst (policy : BringupPolicy) (w : World) (answers : Nat → Answer) : Prop :=
  let later := (bringup policy).run (w.facing answers)
  let first := (bringup policy).run (.first w.core.limits answers)
  later.1 = first.1 ∧ later.2.course = first.2.course

theorem anew_course {w : World} (shut : w.Shut) (answers : Nat → Answer) :
    (w.facing answers).anew.course = (World.first w.core.limits answers).anew.course := by
  simp only [World.course, World.anew, World.facing, World.first, shut.1, shut.2]

/-- A driver whose core never streamed is as good as a new one, before any controller that raises
no kill gate. -/
theorem unstreamed_as_first (policy : BringupPolicy) {w : World} (shut : w.Shut)
    (sound : w.core.Sound) (unready : w.core.streamingReady = false) {answers : Nat → Answer}
    (clear : ∀ n, (answers n).Clear) : w.AsFirst policy answers := by
  have joined : Joined (w.facing answers).anew (World.first w.core.limits answers).anew :=
    { course := anew_course shut answers
      core := .preroll rfl unready rfl (sound.preroll unready) (StreamCore.new_preroll _)
      rx := nofun
      clearRx := nofun
      clear := clear }
  have ends := (bringupAttempts_together policy policy.connectRetries).ends joined
  exact ⟨ends.1, ends.2.course⟩

/-- A bring-up with no attempt to make does nothing. -/
theorem idle_as_first {policy : BringupPolicy} (idle : policy.connectRetries = 0) {w : World}
    (shut : w.Shut) (answers : Nat → Answer) : w.AsFirst policy answers := by
  have ends (v : World) : (bringup policy).run v =
      (.error .connection, { v.anew with
        sup := v.anew.sup.setStateLocked policy.toDriverPolicy .disconnected .none false }) := by
    unfold bringup
    rw [idle]
    rfl
  unfold World.AsFirst
  rw [ends, ends]
  exact ⟨rfl, anew_course shut answers⟩

/-- A core that streamed before the bring-up does not begin again, as a new one would. -/
theorem streamed_not_as_first {policy : BringupPolicy} (attempts : 0 < policy.connectRetries)
    {w : World} (ready : w.core.streamingReady = true) :
    ¬ w.AsFirst policy fun _ => prompt := by
  rintro ⟨-, same⟩
  have began : ((bringup policy).run (.first w.core.limits fun _ => prompt)).2.began = true :=
    bringup_begins policy attempts ⟨rfl, rfl, rfl⟩
  have kept : ((bringup policy).run (w.facing fun _ => prompt)).2.began = false := by
    have ends := lasting_streamed.bringupAttempts policy policy.connectRetries
      (w.facing fun _ => prompt).anew ⟨ready, rfl⟩
    show ((bringupAttempts policy policy.connectRetries).run _).2.began = false
    revert ends
    rcases (bringupAttempts policy policy.connectRetries).run _ with ⟨_ | _, after⟩ <;>
      exact And.right
  have alike : ((bringup policy).run (w.facing fun _ => prompt)).2.course.began =
      ((bringup policy).run (.first w.core.limits fun _ => prompt)).2.course.began := by rw [same]
  exact Bool.false_ne_true (kept.symm.trans (alike.trans began))

/-- What a core is at the end of a bring-up that it entered sound. -/
theorem bringup_sound (policy : BringupPolicy) {w : World} (sound : w.core.Sound) :
    ((bringup policy).run w).2.core.Sound := by
  have ends := lasting_sound.bringupAttempts policy policy.connectRetries w.anew sound
  show ((bringupAttempts policy policy.connectRetries).run _).2.core.Sound
  revert ends
  rcases (bringupAttempts policy policy.connectRetries).run _ with ⟨_ | _, after⟩ <;> exact id

/-- A controller that never answers. -/
def World.silent : World :=
  .fresh ((List.range 40).map fun n => (n, { healthy with link := .dead }))

/-- Motion is possible no more once the first attempt has seen HOLD. -/
def World.lapsed : World :=
  .first .shipped fun n =>
    if n < 25 then healthy
    else { healthy with between := [[.packet .initial, .window none none], []] }

/-- No reply is at fault, and yet the core is left in SAFE_FOLLOW: the next bring-up does not come
up before a controller with nothing wrong. -/
example :
    let after := ((bringup .shipped).run .lapsed).2
    ((bringup .shipped).run .lapsed).1 = .error .connection ∧ after.slipped = false ∧
      after.core.mode = .safeFollow ∧
      ((bringup .shipped).run (after.facing fun _ => healthy)).1 = .error .connection := by
  decide +kernel

/-- The first reply to FRC_GetStatus has a string for its `TPMode`. -/
def World.misspelt : World :=
  .fresh [(1, { healthy with
    reply := fun key => if key = "TPMode" then .text "AUTO" none none else goodReply 1 key })]

end AiroFanuc.Driver
