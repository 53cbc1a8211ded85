import AiroFanuc.Gripper.Worker
import Mathlib.Tactic.ByContra

/-! One done flag and one result for a queue of commands: whose result a wait returns. -/

namespace AiroFanuc.Gripper

open Library

/-- A wait that began after a submission had returned and that ended before the next one
began returns that submission's result, unless it timed out. -/
def Answer.Faithful (a : Answer) : Prop :=
  ∀ k, a.asked = some k → a.issued = k → a.timedOut = false →
    ∃ verdict, a.result = some verdict ∧ verdict.number = k

namespace State

variable {T : Type}

/-- `k` is the latest submission that returned. -/
def Latest (st : State T) (k : Nat) : Prop := k ∈ st.returned ∧ ∀ j ∈ st.returned, j ≤ k

instance (st : State T) (k : Nat) : Decidable (st.Latest k) := by
  unfold Latest
  infer_instance

/-- Neither the worker thread nor a `_submit` has a step left. -/
def Rests (st : State T) : Prop :=
  st.task = .idle ∧ st.queue = [] ∧ ∀ t, (st.callers t).command = none

def Shows (st : State T) (k : Nat) : Prop := ∃ verdict, st.result = some verdict ∧ verdict.number = k

/-- Every command submitted before the `k`-th is over. -/
def OverBefore (st : State T) (k : Nat) : Prop := ∀ m < k, m = 0 ∨ m ∈ st.ended

instance (st : State T) (k : Nat) : Decidable (st.OverBefore k) := by
  unfold OverBefore
  infer_instance

/-- A submission takes over the done flag and the result only when every earlier command is
over, and `close()` finds no command to cancel. -/
def InTurn (st : State T) : Label T → Prop
  | .call t =>
    match st.callers t with
    | .clear c | .finish c _ => st.OverBefore c.number
    | .drain => st.queue = []
    | _ => True
  | _ => True

instance (st : State T) (label : Label T) : Decidable (st.InTurn label) := by
  unfold InTurn
  split
  · split <;> infer_instance
  · infer_instance

end State

/-- A call that has not touched the flag and the result, which the `n`-th submission has. -/
def Call.Early (n : Nat) : Call → Prop
  | gate c | heed c | clear c => n < c.number
  | finish c verdict => n < c.number ∧ verdict.number = c.number
  | blank _ | hand _ | signal _ => False
  | away | await _ | read _ | shutdown | drain => True

namespace State

variable {T : Type}

/-- A call of the submission that has taken over the flag and the result. -/
def Late (st : State T) : Call → Prop
  | .blank c | .hand c => c.number = st.latched ∧ st.done = false
  | .finish c verdict => c.number = st.latched ∧ verdict.number = st.latched
  | .signal c => c.number = st.latched ∧ st.Shows st.latched
  | .gate _ | .heed _ | .clear _ => False
  | .away | .await _ | .read _ | .shutdown | .drain => False

/-- The worker thread runs the command that has taken over the flag and the result. -/
def Runs (st : State T) : Task → Prop
  | .idle => False
  | .gate c | .write c _ | .settle c | .poll c | .heed c | .read c | .pause c =>
    c.number = st.latched
  | .finish c verdict => c.number = st.latched ∧ verdict.number = st.latched
  | .signal c => c.number = st.latched ∧ st.Shows st.latched

/-- Where the command is that has taken over the flag and the result. -/
inductive Stage (st : State T) : Prop
  | resting (free : st.queue = []) (idle : st.task = .idle)
      (early : ∀ t, (st.callers t).Early st.latched) (done : st.done = true)
      (shows : st.latched ≠ 0 → st.Shows st.latched)
      (ended : ∀ m, m ∈ st.ended ↔ 1 ≤ m ∧ m ≤ st.latched)
  | calling (t : T) (free : st.queue = []) (idle : st.task = .idle) (late : st.Late (st.callers t))
      (early : ∀ u, u ≠ t → (st.callers u).Early st.latched) (some_ : 1 ≤ st.latched)
      (ended : ∀ m, m ∈ st.ended ↔ 1 ≤ m ∧ m < st.latched)
  | queued (c : Command) (queue : st.queue = [c]) (number : c.number = st.latched)
      (idle : st.task = .idle) (early : ∀ t, (st.callers t).Early st.latched)
      (done : st.done = false) (some_ : 1 ≤ st.latched)
      (ended : ∀ m, m ∈ st.ended ↔ 1 ≤ m ∧ m < st.latched)
  | running (free : st.queue = []) (runs : st.Runs st.task)
      (early : ∀ t, (st.callers t).Early st.latched) (done : st.done = false)
      (some_ : 1 ≤ st.latched) (ended : ∀ m, m ∈ st.ended ↔ 1 ≤ m ∧ m < st.latched)

/-- What a run in which submissions take turns keeps. -/
structure Sound (st : State T) : Prop where
  stage : st.Stage
  latched : st.latched ≤ st.issued
  fresh : ∀ t c, (st.callers t).command = some c → c.number ≤ st.issued
  distinct : ∀ t u c d, (st.callers t).command = some c → (st.callers u).command = some d →
    c.number = d.number → t = u
  waiting : ∀ m, st.latched < m → m ≤ st.issued →
    ∃ t c, (st.callers t).command = some c ∧ c.number = m
  returned : ∀ k ∈ st.returned, 1 ≤ k ∧ k ≤ st.latched ∧
    ∀ t c, (st.callers t).command = some c → c.number ≠ k
  asked : ∀ t k, st.callers t = .await (some k) ∨ st.callers t = .read (some k) → k ∈ st.returned
  reading : ∀ t k, st.callers t = .read (some k) → k = st.issued → st.done = true
  answers : ∀ a ∈ st.answers, a.Faithful

end State

theorem early_command {n : Nat} {place : Call} (early : place.Early n) {c : Command}
    (inside : place.command = some c) : n < c.number := by
  cases place with
  | gate | heed | clear =>
    cases inside
    exact early
  | finish =>
    cases inside
    exact early.1
  | blank | hand | signal => exact early.elim
  | away | await | read | shutdown | drain => cases inside

/-- Only another number separates a call from the next submission to take over. -/
theorem early_next {n : Nat} {place : Call} (early : place.Early n)
    (other : ∀ c, place.command = some c → c.number ≠ n + 1) : place.Early (n + 1) := by
  have beyond {c : Command} (inside : place.command = some c) : n + 1 < c.number :=
    Nat.lt_of_le_of_ne (early_command early inside) (other c inside).symm
  cases place with
  | gate | heed | clear => exact beyond rfl
  | finish => exact ⟨beyond rfl, early.2⟩
  | blank | hand | signal => exact early.elim
  | away | await | read | shutdown | drain => trivial

section

variable {T : Type} {st st' : State T}

theorem late_command {place : Call} (late : st.Late place) :
    ∃ c, place.command = some c ∧ c.number = st.latched := by
  cases place with
  | blank c | hand c | finish c | signal c => exact ⟨c, rfl, late.1⟩
  | gate | heed | clear | away | await | read | shutdown | drain => exact late.elim

theorem late_not_early {place : Call} (late : st.Late place) : ¬place.Early st.latched := by
  intro early
  obtain ⟨c, inside, number⟩ := late_command late
  exact absurd (early_command early inside) (number ▸ Nat.lt_irrefl _)

theorem turns_command {place next : Call} (turns : Turns st place next) :
    next.command = place.command := by
  cases turns <;> rfl

/-- A call stays on its side of the takeover while it changes nothing but its own place. -/
theorem turns_early {place next : Call} {n : Nat} (turns : Turns st place next)
    (early : place.Early n) : next.Early n := by
  cases turns with
  | refused | stopped => exact ⟨early, rfl⟩
  | open_ | running => exact early
  | late => exact early.elim
  | drained => trivial

namespace State

theorem Stage.early_or_late (stage : st.Stage) (t : T) :
    (st.callers t).Early st.latched ∨ st.Late (st.callers t) := by
  cases stage with
  | resting free idle early => exact .inl (early t)
  | queued c queue number idle early => exact .inl (early t)
  | running free runs early => exact .inl (early t)
  | calling u free idle late early =>
    by_cases same : t = u
    · exact .inr (same ▸ late)
    · exact .inl (early t same)

/-- The stage depends on what is shared and on which callers have taken over. -/
theorem Stage.keep (stage : st.Stage) (queue : st'.queue = st.queue) (task : st'.task = st.task)
    (done : st'.done = st.done) (result : st'.result = st.result)
    (latched : st'.latched = st.latched) (ended : st'.ended = st.ended)
    (early : ∀ t, (st.callers t).Early st.latched → (st'.callers t).Early st.latched)
    (late : ∀ t, st.Late (st.callers t) → st'.callers t = st.callers t) : st'.Stage := by
  have shows : st'.Shows st.latched ↔ st.Shows st.latched := by
    unfold Shows
    rw [result]
  cases stage with
  | resting free idle before raised shown resting =>
    rw [← latched] at early before
    refine .resting (queue ▸ free) (task ▸ idle) (fun t => early t (before t)) (done ▸ raised) ?_ ?_
    · rw [latched, shows]
      exact shown
    · rw [latched, ended]
      exact resting
  | calling t free idle calls before some_ resting =>
    rw [← latched] at early before
    refine .calling t (queue ▸ free) (task ▸ idle) ?_ (fun u other => early u (before u other))
      (latched ▸ some_) ?_
    · have same := late t calls
      revert calls
      rw [same]
      cases st.callers t with
      | blank c | hand c => exact fun calls => ⟨latched ▸ calls.1, done ▸ calls.2⟩
      | finish c verdict => exact fun calls => ⟨latched ▸ calls.1, latched ▸ calls.2⟩
      | signal c =>
        intro calls
        refine ⟨latched ▸ calls.1, ?_⟩
        rw [latched, shows]
        exact calls.2
      | gate | heed | clear | away | await | read | shutdown | drain => exact id
    · rw [latched, ended]
      exact resting
  | queued c waits number idle before cleared some_ resting =>
    rw [← latched] at early before
    refine .queued c (queue ▸ waits) (latched ▸ number) (task ▸ idle) (fun t => early t (before t))
      (done ▸ cleared) (latched ▸ some_) ?_
    rw [latched, ended]
    exact resting
  | running free runs before cleared some_ resting =>
    rw [← latched] at early before
    refine .running (queue ▸ free) ?_ (fun t => early t (before t)) (done ▸ cleared)
      (latched ▸ some_) ?_
    · rw [task]
      revert runs
      cases st.task with
      | idle => exact id
      | gate | write | settle | poll | heed | read | pause =>
        exact fun runs => Eq.trans runs latched.symm
      | finish => exact fun runs => ⟨latched ▸ runs.1, latched ▸ runs.2⟩
      | signal =>
        intro runs
        refine ⟨latched ▸ runs.1, ?_⟩
        rw [latched, shows]
        exact runs.2
    · rw [latched, ended]
      exact resting

/-- With every earlier command over, the next submission in the row takes over. -/
theorem Stage.takeover (stage : st.Stage) {k : Nat} (later : st.latched < k)
    (legal : st.OverBefore k) :
    k = st.latched + 1 ∧ st.queue = [] ∧ st.task = .idle ∧
      (∀ t, (st.callers t).Early st.latched) ∧ ∀ m, m ∈ st.ended ↔ 1 ≤ m ∧ m < k := by
  have busy (some_ : 1 ≤ st.latched)
      (ended : ∀ m, m ∈ st.ended ↔ 1 ≤ m ∧ m < st.latched) : False := by
    rcases legal _ later with zero | resting
    · omega
    · exact absurd ((ended _).mp resting).2 (Nat.lt_irrefl _)
  cases stage with
  | resting free idle early done shows ended =>
    have next : k = st.latched + 1 := by
      by_contra other
      rcases legal (st.latched + 1) (by omega) with zero | resting
      · omega
      · have within := ((ended _).mp resting).2
        omega
    refine ⟨next, free, idle, early, fun m => ?_⟩
    rw [ended, next, Nat.lt_succ_iff]
  | calling t free idle late early some_ ended => exact (busy some_ ended).elim
  | queued c queue number idle early done some_ ended => exact (busy some_ ended).elim
  | running free runs early done some_ ended => exact (busy some_ ended).elim

/-- A caller that has taken over is the only one that holds a command. -/
theorem Stage.late (stage : st.Stage) {t : T} (late : st.Late (st.callers t)) :
    st.queue = [] ∧ st.task = .idle ∧ (∀ u, u ≠ t → (st.callers u).Early st.latched) ∧
      1 ≤ st.latched ∧ ∀ m, m ∈ st.ended ↔ 1 ≤ m ∧ m < st.latched := by
  have absurd_early := late_not_early late
  cases stage with
  | resting free idle early => exact absurd (early t) absurd_early
  | queued c queue number idle early => exact absurd (early t) absurd_early
  | running free runs early => exact absurd (early t) absurd_early
  | calling u free idle _ early some_ ended =>
    by_cases same : t = u
    · cases same
      exact ⟨free, idle, early, some_, ended⟩
    · exact absurd (early t same) absurd_early

/-- A busy worker thread has what is shared to itself. -/
theorem Stage.busy (stage : st.Stage) (busy : st.task ≠ .idle) :
    st.queue = [] ∧ st.Runs st.task ∧ (∀ t, (st.callers t).Early st.latched) ∧ st.done = false ∧
      1 ≤ st.latched ∧ ∀ m, m ∈ st.ended ↔ 1 ≤ m ∧ m < st.latched := by
  cases stage with
  | resting free idle => exact absurd idle busy
  | queued c queue number idle => exact absurd idle busy
  | calling u free idle => exact absurd idle busy
  | running free runs early done some_ ended => exact ⟨free, runs, early, done, some_, ended⟩

theorem runs_execute {proto : RegisterGripperProtocol} {recovering stopped : Bool}
    {task next : Task} {outcome : Outcome} (runs : st.Runs task)
    (executes : execute proto recovering stopped task outcome = some next) : st.Runs next := by
  unfold execute at executes
  split at executes
  · split at executes <;> cases executes
    · exact ⟨runs, runs⟩
    · exact runs
  · split at executes <;> cases executes
    · exact runs
    · exact runs
  · cases executes
    exact runs
  · cases executes
    exact ⟨runs, runs⟩
  · cases executes
    exact runs
  · split at executes <;> cases executes
    exact ⟨runs, runs⟩
  · cases executes
    exact runs
  · cases executes
    exact ⟨runs, runs⟩
  · split at executes <;> cases executes
    · exact ⟨runs, runs⟩
    · exact runs
  · cases executes
    exact runs
  · split at executes <;> cases executes
    · exact ⟨runs, runs⟩
    · exact runs
  · cases executes
    exact ⟨runs, runs⟩
  · cases executes
    exact runs
  · split at executes <;> cases executes
    exact ⟨runs, runs⟩
  · cases executes

theorem sound_initial : (initial : State T).Sound where
  stage := .resting rfl rfl (fun _ => trivial) rfl (fun other => absurd rfl other)
    fun m => ⟨nofun, fun within => by change 1 ≤ m ∧ m ≤ 0 at within; omega⟩
  latched := Nat.le_refl _
  fresh _ _ := nofun
  distinct _ _ _ _ := nofun
  waiting m later begun := absurd (Nat.lt_of_lt_of_le later begun) (Nat.lt_irrefl _)
  returned _ := nofun
  asked _ _ := (nomatch ·)
  reading _ _ := nofun
  answers _ := nofun

/-- With the flag set, the latest submission that a caller has returned from is over. -/
theorem Sound.resting (sound : st.Sound) {k : Nat} (returned : k ∈ st.returned)
    (done : st.done = true) : k ∈ st.ended ∧ (k = st.latched → st.Shows k) := by
  obtain ⟨some_, within, outside⟩ := sound.returned k returned
  cases sound.stage with
  | resting free idle early done shows ended =>
    refine ⟨(ended k).mpr ⟨some_, within⟩, fun latest => latest ▸ shows ?_⟩
    omega
  | calling t free idle late early _ ended =>
    obtain ⟨c, inside, number⟩ := late_command late
    have other := outside t c inside
    exact ⟨(ended k).mpr ⟨some_, by omega⟩, fun latest => absurd (number.trans latest.symm) other⟩
  | queued c queue number idle early clear => exact absurd (clear.symm.trans done) nofun
  | running free runs early clear => exact absurd (clear.symm.trans done) nofun

/-- With nobody inside, the flag is set and the result is the latest command's. -/
theorem Sound.rests (sound : st.Sound) (rests : st.Rests) :
    st.done = true ∧ (st.issued ≠ 0 → st.Shows st.issued) := by
  obtain ⟨idle, free, outside⟩ := rests
  have all : st.issued ≤ st.latched := by
    by_contra more
    obtain ⟨t, c, inside, -⟩ := sound.waiting st.issued (by omega) (Nat.le_refl _)
    exact absurd ((outside t).symm.trans inside) nofun
  have latest : st.latched = st.issued := Nat.le_antisymm sound.latched all
  cases sound.stage with
  | resting _ _ early done shows ended => exact ⟨done, latest ▸ shows⟩
  | calling t _ _ late =>
    obtain ⟨c, inside, -⟩ := late_command late
    exact absurd ((outside t).symm.trans inside) nofun
  | queued c queue => exact absurd (free.symm.trans queue) nofun
  | running _ runs =>
    rw [idle] at runs
    exact runs.elim

end State

end

section

variable {T : Type} [DecidableEq T] {proto : RegisterGripperProtocol} {st st' : State T}
  {label : Label T}

namespace State

theorem Stage.replace (stage : st.Stage) {t : T} {next : Call}
    (callers : st'.callers = Function.update st.callers t next) (queue : st'.queue = st.queue)
    (task : st'.task = st.task) (done : st'.done = st.done) (result : st'.result = st.result)
    (latched : st'.latched = st.latched) (ended : st'.ended = st.ended)
    (was : (st.callers t).Early st.latched) (early : next.Early st.latched) : st'.Stage := by
  refine stage.keep queue task done result latched ended (fun u before => ?_) fun u late => ?_
  · rw [callers]
    by_cases same : u = t
    · rw [same, Function.update_self]
      exact early
    · rw [Function.update_of_ne same]
      exact before
  · have other : u ≠ t := by
      rintro rfl
      exact late_not_early late was
    rw [callers, Function.update_of_ne other]

theorem Sound.stage_turns (sound : st.Sound) {t : T} {place next : Call} (same : st.callers t = place)
    (turns : Turns st place next) : (st.goes t next).Stage := by
  rcases sound.stage.early_or_late t with early | late
  · exact sound.stage.replace rfl rfl rfl rfl rfl rfl rfl early (turns_early turns (same ▸ early))
  · obtain ⟨free, idle, others, some_, ended⟩ := sound.stage.late late
    rw [same] at late
    cases turns with
    | refused | open_ | stopped | running | drained => exact late.elim
    | late c text shut =>
      refine .calling t free idle ?_ (fun u other => ?_) some_ ended
      · rw [goes_self]
        exact ⟨late.1, late.1⟩
      · rw [goes_other st other]
        exact others u other

/-- A caller takes over from a worker that is at rest. -/
theorem Sound.stage_takes (sound : st.Sound) {t : T} {c : Command}
    (place : (st.callers t).command = some c) (next : Call) (later : st.latched < c.number)
    (legal : st.OverBefore c.number) (callers : st'.callers = Function.update st.callers t next)
    (queue : st'.queue = st.queue) (task : st'.task = st.task) (latched : st'.latched = c.number)
    (ended : st'.ended = st.ended) (late : st'.Late next) : st'.Stage := by
  obtain ⟨follows, free, idle, early, resting⟩ := sound.stage.takeover later legal
  refine .calling t (queue ▸ free) (task ▸ idle) ?_ (fun u other => ?_) ?_ ?_
  · rw [callers, Function.update_self]
    exact late
  · rw [callers, Function.update_of_ne other, latched, follows]
    apply early_next (early u)
    intro d inside number
    exact other (sound.distinct u t d c inside place (number.trans follows.symm))
  · omega
  · rw [latched, ended]
    exact resting

theorem Sound.stage_finishes (sound : st.Sound) {t : T} {c : Command} {verdict : Verdict}
    (place : st.callers t = .finish c verdict) (legal : st.OverBefore c.number) :
    State.Stage { st.goes t (.signal c) with result := some verdict, latched := c.number } := by
  rcases sound.stage.early_or_late t with early | late
  · rw [place] at early
    exact sound.stage_takes (by rw [place]; rfl) (.signal c) early.1 legal rfl rfl rfl rfl rfl
      ⟨rfl, verdict, rfl, early.2⟩
  · obtain ⟨free, idle, others, some_, ended⟩ := sound.stage.late late
    rw [place] at late
    refine .calling t free idle ?_ (fun u other => ?_) (late.1.symm ▸ some_) ?_
    · show State.Late _ ((st.goes t (.signal c)).callers t)
      rw [goes_self]
      exact ⟨rfl, verdict, rfl, late.2.trans late.1.symm⟩
    · show ((st.goes t (.signal c)).callers u).Early c.number
      rw [goes_other st other, late.1]
      exact others u other
    · show ∀ m, m ∈ st.ended ↔ 1 ≤ m ∧ m < c.number
      rw [late.1]
      exact ended

/-- The numbers that are over once the one that has taken over is. -/
theorem ended_cons {n k : Nat} {ended : List Nat} (resting : ∀ m, m ∈ ended ↔ 1 ≤ m ∧ m < n)
    (some_ : 1 ≤ n) (number : k = n) : ∀ m, m ∈ k :: ended ↔ 1 ≤ m ∧ m ≤ n := by
  intro m
  rw [List.mem_cons, resting, number]
  omega

theorem Sound.stage_signals (sound : st.Sound) {t : T} {c : Command}
    (place : st.callers t = .signal c) :
    State.Stage { st.goes t .away with
      done := true
      returned := c.number :: st.returned
      ended := c.number :: st.ended } := by
  rcases sound.stage.early_or_late t with early | late
  · rw [place] at early
    exact early.elim
  · obtain ⟨free, idle, others, some_, ended⟩ := sound.stage.late late
    rw [place] at late
    refine .resting free idle (fun u => ?_) rfl (fun _ => late.2) (ended_cons ended some_ late.1)
    show ((st.goes t .away).callers u).Early st.latched
    by_cases same : u = t
    · rw [same, goes_self]
      trivial
    · rw [goes_other st same]
      exact others u same

theorem Sound.stage_step (sound : st.Sound) (legal : st.InTurn label)
    (moved : Moves proto st label st') : st'.Stage := by
  cases moved with
  | rejected => exact sound.stage
  | began t verb selector c away number =>
    refine sound.stage.replace rfl rfl rfl rfl rfl rfl rfl ?_ ?_
    · rw [away]
      trivial
    · show st.latched < c.number
      rw [number]
      exact Nat.lt_succ_of_le sound.latched
  | waited t away | closed t away =>
    refine sound.stage.replace rfl rfl rfl rfl rfl rfl rfl ?_ ?_
    · rw [away]
      trivial
    · trivial
  | woke t asked place | expired t asked place | answered t asked place | shutting t place =>
    refine sound.stage.replace rfl rfl rfl rfl rfl rfl rfl ?_ ?_
    · rw [place]
      trivial
    · trivial
  | turned t place next same turns => exact sound.stage_turns same turns
  | cleared t c place =>
    rcases sound.stage.early_or_late t with early | late
    · rw [place] at early
      simp only [InTurn, place] at legal
      exact sound.stage_takes (by rw [place]; rfl) (.blank c) early legal rfl rfl rfl rfl rfl
        ⟨rfl, rfl⟩
    · rw [place] at late
      exact late.elim
  | blanked t c place =>
    rcases sound.stage.early_or_late t with early | late
    · rw [place] at early
      exact early.elim
    · obtain ⟨free, idle, others, some_, ended⟩ := sound.stage.late late
      rw [place] at late
      refine .calling t free idle ?_ (fun u other => ?_) some_ ended
      · show State.Late _ ((st.goes t (.hand c)).callers t)
        rw [goes_self]
        exact late
      · show ((st.goes t (.hand c)).callers u).Early st.latched
        rw [goes_other st other]
        exact others u other
  | handed t c place =>
    rcases sound.stage.early_or_late t with early | late
    · rw [place] at early
      exact early.elim
    · obtain ⟨free, idle, others, some_, ended⟩ := sound.stage.late late
      rw [place] at late
      refine .queued c (congrArg (· ++ [c]) free) late.1 idle (fun u => ?_) late.2 some_ ended
      show ((st.goes t .away).callers u).Early st.latched
      by_cases same : u = t
      · rw [same, goes_self]
        trivial
      · rw [goes_other st same]
        exact others u same
  | finished t c verdict place =>
    simp only [InTurn, place] at legal
    exact sound.stage_finishes place legal
  | signalled t c place => exact sound.stage_signals place
  | cancelled t c rest place queue =>
    simp only [InTurn, place] at legal
    exact absurd (legal.symm.trans queue) nofun
  | recovery =>
    exact sound.stage.keep rfl rfl rfl rfl rfl rfl (fun _ => id) fun _ _ => rfl
  | taken c rest idle queue =>
    cases sound.stage with
    | resting free | calling _ free | running free => exact absurd (free.symm.trans queue) nofun
    | queued d waits number idle early done some_ ended =>
      cases waits.symm.trans queue
      exact .running rfl number early done some_ ended
  | executed outcome next runs =>
    have busy : st.task ≠ .idle := by
      intro idle
      rw [idle] at runs
      cases runs
    obtain ⟨free, held, early, done, some_, ended⟩ := sound.stage.busy busy
    exact .running free (runs_execute held runs) early done some_ ended
  | concluded c verdict task =>
    obtain ⟨free, held, early, done, some_, ended⟩ := sound.stage.busy (task ▸ nofun)
    rw [task] at held
    exact .running free ⟨held.1, verdict, rfl, held.2⟩ early done some_ ended
  | raised c task =>
    obtain ⟨free, held, early, done, some_, ended⟩ := sound.stage.busy (task ▸ nofun)
    rw [task] at held
    exact .resting free rfl early rfl (fun _ => held.2) (ended_cons ended some_ held.1)

/-- A submission that a caller is in was there before, or begins now. -/
theorem inside_step (moved : Moves proto st label st') {u : T} {c : Command}
    (inside : (st'.callers u).command = some c) :
    (st.callers u).command = some c ∨
      (∃ verb selector, label = .submit u verb selector) ∧ c.number = st.issued + 1 ∧
        st'.issued = st.issued + 1 := by
  have elsewhere {t : T} {next : Call} (none_ : next.command = none ∨
      next.command = (st.callers t).command)
      (inside : ((st.goes t next).callers u).command = some c) :
      (st.callers u).command = some c := by
    by_cases same : u = t
    · cases same
      rw [goes_self] at inside
      rcases none_ with outside | kept
      · exact absurd (outside.symm.trans inside) nofun
      · exact kept.symm.trans inside
    · rwa [goes_other st same] at inside
  cases moved with
  | rejected | cancelled | recovery | taken | executed | concluded | raised => exact .inl inside
  | began t verb selector d away number =>
    by_cases same : u = t
    · cases same
      change ((st.goes u (.gate d)).callers u).command = some c at inside
      rw [goes_self] at inside
      cases inside
      exact .inr ⟨⟨verb, selector, rfl⟩, number, rfl⟩
    · change ((st.goes t (.gate d)).callers u).command = some c at inside
      rw [goes_other st same] at inside
      exact .inl inside
  | waited t | woke t | expired t | closed t | answered t | shutting t =>
    exact .inl (elsewhere (.inl rfl) inside)
  | handed t | signalled t => exact .inl (elsewhere (.inl rfl) inside)
  | turned t place next same turns =>
    exact .inl (elsewhere (.inr (same ▸ turns_command turns)) inside)
  | cleared t d place | blanked t d place =>
    exact .inl (elsewhere (.inr (by rw [place]; rfl)) inside)
  | finished t d verdict place => exact .inl (elsewhere (.inr (by rw [place]; rfl)) inside)

/-- A caller leaves its submission only by returning from it. -/
theorem stays_step (moved : Moves proto st label st') {u : T} {c : Command}
    (inside : (st.callers u).command = some c) :
    (st'.callers u).command = some c ∨
      (st.callers u = .hand c ∨ st.callers u = .signal c) ∧ st'.latched = st.latched := by
  have elsewhere {t : T} {next : Call} (kept : (st.callers t).command = none ∨
      next.command = (st.callers t).command) :
      ((st.goes t next).callers u).command = some c := by
    by_cases same : u = t
    · cases same
      rw [goes_self]
      rcases kept with outside | kept
      · exact absurd (outside.symm.trans inside) nofun
      · exact kept.trans inside
    · rwa [goes_other st same]
  cases moved with
  | rejected | cancelled | recovery | taken | executed | concluded | raised => exact .inl inside
  | began t verb selector d away | waited t away | closed t away =>
    exact .inl (elsewhere (.inl (by rw [away]; rfl)))
  | woke t asked place | expired t asked place | answered t asked place | shutting t place =>
    exact .inl (elsewhere (.inl (by rw [place]; rfl)))
  | turned t place next same turns => exact .inl (elsewhere (.inr (same ▸ turns_command turns)))
  | cleared t d place | blanked t d place => exact .inl (elsewhere (.inr (by rw [place]; rfl)))
  | finished t d verdict place => exact .inl (elsewhere (.inr (by rw [place]; rfl)))
  | handed t d place =>
    by_cases same : u = t
    · cases same
      rw [place] at inside
      cases inside
      exact .inr ⟨.inl place, rfl⟩
    · refine .inl ?_
      show ((st.goes t .away).callers u).command = some c
      rwa [goes_other st same]
  | signalled t d place =>
    by_cases same : u = t
    · cases same
      rw [place] at inside
      cases inside
      exact .inr ⟨.inr place, rfl⟩
    · refine .inl ?_
      show ((st.goes t .away).callers u).command = some c
      rwa [goes_other st same]

/-- What has returned had returned before, or its caller comes out of it now. -/
theorem returned_step (moved : Moves proto st label st') {k : Nat} (there : k ∈ st'.returned) :
    k ∈ st.returned ∨ ∃ t c, (st.callers t = .hand c ∨ st.callers t = .signal c) ∧
      c.number = k ∧ st'.callers t = .away ∧ st'.latched = st.latched ∧
      st'.issued = st.issued := by
  cases moved with
  | handed t c place =>
    rcases List.mem_cons.mp there with rfl | old
    · exact .inr ⟨t, c, .inl place, rfl, goes_self st t .away, rfl, rfl⟩
    · exact .inl old
  | signalled t c place =>
    rcases List.mem_cons.mp there with rfl | old
    · exact .inr ⟨t, c, .inr place, rfl, goes_self st t .away, rfl, rfl⟩
    · exact .inl old
  | rejected | began | waited | woke | expired | closed | turned | cleared | blanked | finished
    | answered | shutting | cancelled | recovery | taken | executed | concluded | raised =>
    exact .inl there

theorem returned_mono (moved : Moves proto st label st') {k : Nat} (there : k ∈ st.returned) :
    k ∈ st'.returned := by
  cases moved with
  | handed | signalled => exact List.mem_cons_of_mem _ there
  | rejected | began | waited | woke | expired | closed | turned | cleared | blanked | finished
    | answered | shutting | cancelled | recovery | taken | executed | concluded | raised =>
    exact there

/-- A wait that is on its way was, or begins now and asks for the latest submission. -/
theorem asked_step (moved : Moves proto st label st') {u : T} {asked : Option Nat}
    (waits : st'.callers u = .await asked ∨ st'.callers u = .read asked) :
    st.callers u = .await asked ∨ st.callers u = .read asked ∨ asked = st.latest := by
  have elsewhere {t : T} {next : Call}
      (waits : (st.goes t next).callers u = .await asked ∨
        (st.goes t next).callers u = .read asked)
      (outside : ∀ a, next ≠ .await a ∧ next ≠ .read a) :
      st.callers u = .await asked ∨ st.callers u = .read asked ∨ asked = st.latest := by
    by_cases same : u = t
    · cases same
      rw [goes_self] at waits
      rcases waits with waits | reads
      · exact absurd waits (outside asked).1
      · exact absurd reads (outside asked).2
    · rw [goes_other st same] at waits
      exact waits.imp_right .inl
  cases moved with
  | rejected | cancelled | recovery | taken | executed | concluded | raised =>
    exact waits.imp_right .inl
  | began | expired | closed | cleared | blanked | handed | finished | signalled | answered
    | shutting => exact elsewhere waits fun _ => ⟨nofun, nofun⟩
  | turned t place next same turns =>
    refine elsewhere waits fun a => ?_
    cases turns <;> exact ⟨nofun, nofun⟩
  | waited t away =>
    by_cases same : u = t
    · cases same
      rw [goes_self] at waits
      rcases waits with waits | reads
      · cases waits
        exact .inr (.inr rfl)
      · cases reads
    · rw [goes_other st same] at waits
      exact waits.imp_right .inl
  | woke t before place done =>
    by_cases same : u = t
    · cases same
      rw [goes_self] at waits
      rcases waits with waits | reads
      · cases waits
      · cases reads
        exact .inl place
    · rw [goes_other st same] at waits
      exact waits.imp_right .inl

theorem issued_mono (moved : Moves proto st label st') : st.issued ≤ st'.issued := by
  cases moved with
  | began => exact Nat.le_succ _
  | rejected | waited | woke | expired | closed | turned | cleared | blanked | handed | finished
    | signalled | answered | shutting | cancelled | recovery | taken | executed | concluded
    | raised => exact Nat.le_refl _

theorem Sound.latched_step (sound : st.Sound) (moved : Moves proto st label st') :
    st.latched ≤ st'.latched ∧ st'.latched ≤ st'.issued := by
  cases moved with
  | cleared t c place =>
    have inside : (st.callers t).command = some c := by
      rw [place]
      rfl
    rcases sound.stage.early_or_late t with early | late
    · exact ⟨Nat.le_of_lt (early_command early inside), sound.fresh t c inside⟩
    · rw [place] at late
      exact late.elim
  | finished t c verdict place =>
    have inside : (st.callers t).command = some c := by
      rw [place]
      rfl
    rcases sound.stage.early_or_late t with early | late
    · exact ⟨Nat.le_of_lt (early_command early inside), sound.fresh t c inside⟩
    · rw [place] at late
      exact ⟨Nat.le_of_eq late.1.symm, sound.fresh t c inside⟩
  | began => exact ⟨Nat.le_refl _, Nat.le_succ_of_le sound.latched⟩
  | rejected | waited | woke | expired | closed | turned | blanked | handed | signalled | answered
    | shutting | cancelled | recovery | taken | executed | concluded | raised =>
    exact ⟨Nat.le_refl _, sound.latched⟩

theorem Sound.fresh_step (sound : st.Sound) (moved : Moves proto st label st') (t : T) (c : Command)
    (inside : (st'.callers t).command = some c) : c.number ≤ st'.issued := by
  rcases inside_step moved inside with old | ⟨-, number, issued⟩
  · exact Nat.le_trans (sound.fresh t c old) (issued_mono moved)
  · exact Nat.le_of_eq (number.trans issued.symm)

theorem Sound.distinct_step (sound : st.Sound) (moved : Moves proto st label st') (t u : T)
    (c d : Command) (inside : (st'.callers t).command = some c)
    (within : (st'.callers u).command = some d) (same : c.number = d.number) : t = u := by
  rcases inside_step moved inside with old | ⟨⟨verb, selector, begins⟩, number, -⟩
  · rcases inside_step moved within with before | ⟨-, number, -⟩
    · exact sound.distinct t u c d old before same
    · have := sound.fresh t c old
      omega
  · rcases inside_step moved within with before | ⟨⟨_, _, too⟩, -⟩
    · have := sound.fresh u d before
      omega
    · cases begins.symm.trans too
      rfl

theorem Sound.waiting_step (sound : st.Sound) (moved : Moves proto st label st') (m : Nat)
    (later : st'.latched < m) (begun : m ≤ st'.issued) :
    ∃ t c, (st'.callers t).command = some c ∧ c.number = m := by
  have grows := (sound.latched_step moved).1
  by_cases old : m ≤ st.issued
  · obtain ⟨t, c, inside, number⟩ := sound.waiting m (by omega) old
    rcases stays_step moved inside with stays | ⟨place, same⟩
    · exact ⟨t, c, stays, number⟩
    · -- whoever returns from a submission has taken over
      have taken : c.number = st.latched := by
        rcases sound.stage.early_or_late t with early | late
        · rcases place with place | place <;> exact (place ▸ early).elim
        · rcases place with place | place <;> exact (place ▸ late).1
      omega
  · cases moved with
    | began t verb selector c away number =>
      refine ⟨t, c, ?_, by change m ≤ st.issued + 1 at begun; omega⟩
      show ((st.goes t (.gate c)).callers t).command = some c
      rw [goes_self]
      rfl
    | rejected | waited | woke | expired | closed | turned | cleared | blanked | handed
      | finished | signalled | answered | shutting | cancelled | recovery | taken | executed
      | concluded | raised => exact absurd begun old

theorem Sound.returned_step (sound : st.Sound) (moved : Moves proto st label st') (k : Nat)
    (there : k ∈ st'.returned) : 1 ≤ k ∧ k ≤ st'.latched ∧
      ∀ t c, (st'.callers t).command = some c → c.number ≠ k := by
  have grows := (sound.latched_step moved).1
  rcases State.returned_step moved there with old | ⟨u, d, place, rfl, away, kept, same⟩
  · obtain ⟨some_, within, outside⟩ := sound.returned k old
    refine ⟨some_, Nat.le_trans within grows, fun t c inside => ?_⟩
    rcases inside_step moved inside with before | ⟨-, number, -⟩
    · exact outside t c before
    · have := sound.latched
      omega
  · have held : (st.callers u).command = some d := by
      rcases place with place | place <;> rw [place] <;> rfl
    have late : st.Late (st.callers u) := by
      rcases sound.stage.early_or_late u with early | late
      · rcases place with place | place <;> exact (place ▸ early).elim
      · exact late
    obtain ⟨e, within, number⟩ := late_command late
    cases held.symm.trans within
    refine ⟨number ▸ (sound.stage.late late).2.2.2.1, Nat.le_of_eq (number.trans kept.symm),
      fun t c inside equal => ?_⟩
    rcases inside_step moved inside with before | ⟨-, next, -⟩
    · cases sound.distinct t u c d before held equal
      rw [away] at inside
      cases inside
    · have := sound.fresh u d held
      omega

theorem Sound.asked_step (sound : st.Sound) (moved : Moves proto st label st') (t : T) (k : Nat)
    (waits : st'.callers t = .await (some k) ∨ st'.callers t = .read (some k)) :
    k ∈ st'.returned := by
  rcases State.asked_step moved waits with before | before | asks
  · exact returned_mono moved (sound.asked t k (.inl before))
  · exact returned_mono moved (sound.asked t k (.inr before))
  · unfold latest at asks
    split at asks <;> cases asks
    next returned => exact returned_mono moved returned

theorem Sound.reading_step (sound : st.Sound) (moved : Moves proto st label st') (t : T) (k : Nat)
    (reads : st'.callers t = .read (some k)) (latest : k = st'.issued) : st'.done = true := by
  have grows := issued_mono moved
  have still (reads : st.callers t = .read (some k)) : st.done = true := by
    have within := (sound.returned k (sound.asked t k (.inr reads))).2.1
    have := sound.latched
    exact sound.reading t k reads (by omega)
  have elsewhere {u : T} {next : Call} (reads : (st.goes u next).callers t = .read (some k))
      (other : next ≠ .read (some k)) : st.done = true := by
    by_cases same : t = u
    · cases same
      rw [goes_self] at reads
      exact absurd reads other
    · rw [goes_other st same] at reads
      exact still reads
  cases moved with
  | rejected | cancelled | recovery | taken | executed | concluded => exact still reads
  | raised | signalled => rfl
  | began | waited | expired | closed | blanked | handed | finished | answered | shutting =>
    exact elsewhere reads nofun
  | woke u asked place done => exact done
  | turned u place next same turns =>
    refine elsewhere reads ?_
    cases turns <;> exact nofun
  | cleared u c place =>
    -- nobody begins anew while a wait reads the latest result
    by_cases same : t = u
    · cases same
      change (st.goes t (.blank c)).callers t = .read (some k) at reads
      rw [goes_self] at reads
      cases reads
    · change (st.goes u (.blank c)).callers t = .read (some k) at reads
      rw [goes_other st same] at reads
      have within := (sound.returned k (sound.asked t k (.inr reads))).2.1
      have inside : (st.callers u).command = some c := by
        rw [place]
        rfl
      have fresh := sound.fresh u c inside
      change k = st.issued at latest
      rcases sound.stage.early_or_late u with early | late
      · have := early_command early inside
        omega
      · rw [place] at late
        exact late.elim

theorem Sound.answers_step (sound : st.Sound) (moved : Moves proto st label st') (a : Answer)
    (given : a ∈ st'.answers) : a.Faithful := by
  cases moved with
  | expired t asked place =>
    rcases List.mem_cons.mp given with rfl | old
    · exact fun _ _ _ waited => absurd waited nofun
    · exact sound.answers a old
  | answered t asked place =>
    rcases List.mem_cons.mp given with rfl | old
    · rintro k rfl issued -
      have reads := sound.asked t k (.inr place)
      have within := (sound.returned k reads).2.1
      have bound := sound.latched
      change st.issued = k at issued
      exact (sound.resting reads (sound.reading t k place issued.symm)).2 (by omega)
    · exact sound.answers a old
  | rejected | began | waited | woke | closed | turned | cleared | blanked | handed | finished
    | signalled | shutting | cancelled | recovery | taken | executed | concluded | raised =>
    exact sound.answers a given

theorem Sound.step (sound : st.Sound) (legal : st.InTurn label)
    (moved : State.step proto st label = some st') : st'.Sound :=
  have moves := step_moves moved
  { stage := sound.stage_step legal moves
    latched := (sound.latched_step moves).2
    fresh := sound.fresh_step moves
    distinct := sound.distinct_step moves
    waiting := sound.waiting_step moves
    returned := sound.returned_step moves
    asked := sound.asked_step moves
    reading := sound.reading_step moves
    answers := sound.answers_step moves }

end State

/-- While submissions take turns and nothing is cancelled, the flag and the result are the
latest command's. -/
theorem results_are_the_latest {st : State T}
    (reached : (worker T proto).Reachable State.InTurn st) :
    (∀ a ∈ st.answers, a.Faithful) ∧
      (st.done = true → ∀ k, st.Latest k → k ∈ st.ended) ∧
      (st.Rests → st.done = true ∧ (st.issued ≠ 0 → st.Shows st.issued)) := by
  have sound : st.Sound :=
    reached.invariant State.sound_initial fun _ _ _ sound legal moved => sound.step legal moved
  exact ⟨sound.answers, fun done k latest => (sound.resting latest.1 done).1, sound.rests⟩

end

/-- A command runs and a wait that began after its submission returns its result. -/
theorem opened_result_is_its_own :
    ∃ st, (worker Unit robotiq2F85).Reachable State.InTurn st ∧
      st.answers = [⟨some 1, 1, false, some ⟨1, true, "gripper open complete"⟩⟩] ∧
      ((∀ a ∈ st.answers, a.Faithful) ∧ (st.done = true → ∀ k, st.Latest k → k ∈ st.ended) ∧
        (st.Rests → st.done = true ∧ (st.issued ≠ 0 → st.Shows st.issued))) := by
  obtain ⟨st, reached, tested⟩ := (worker Unit robotiq2F85).reachable_of_test State.InTurn
    (.flatten [[.submit () .opening (.int 2)], List.replicate 5 (.call ()), [.take],
      List.replicate 7 (.work .passes),
      [.work (.reads 1), .work .passes, .work .passes, .work .passes, .work (.reads 0),
        .work .passes, .work .passes, .wait (), .wake (), .call ()]])
    (fun st : State Unit => decide (st.answers =
      [⟨some 1, 1, false, some ⟨1, true, "gripper open complete"⟩⟩]))
    (by decide +kernel) (by decide +kernel)
  exact ⟨st, reached, of_decide_eq_true tested, results_are_the_latest reached⟩

/-- Two commands in the queue: the first one's result answers the wait for the second.
A command that `close()` cancels leaves the flag clear for good. -/
theorem earlier_result_answers :
    (∃ st, (worker Unit robotiq2F85).Reachable (fun _ _ => True) st ∧
      ⟨some 2, 2, false, some ⟨1, true, "gripper open complete"⟩⟩ ∈ st.answers ∧
      st.done = true ∧ st.Latest 2 ∧ 2 ∉ st.ended) ∧
    ∃ st, (worker Unit robotiq2F85).Reachable (fun _ _ => True) st ∧
      st.Rests ∧ st.done = false ∧ st.issued = 1 ∧ st.result = none := by
  constructor
  · obtain ⟨st, reached, tested⟩ := (worker Unit robotiq2F85).reachable_of_run
      (.flatten [[.submit () .opening .none], List.replicate 5 (.call ()), [.submit () .closing .none],
        List.replicate 5 (.call ()), [.take], List.replicate 7 (.work .passes),
        [.work (.reads 0), .work .passes, .work .passes, .wait (), .wake (), .call ()]])
      (fun st : State Unit => decide
        (⟨some 2, 2, false, some ⟨1, true, "gripper open complete"⟩⟩ ∈ st.answers ∧
          st.done = true ∧ st.Latest 2 ∧ 2 ∉ st.ended))
      (by decide +kernel)
    exact ⟨st, reached, of_decide_eq_true tested⟩
  · obtain ⟨st, reached, tested⟩ := (worker Unit robotiq2F85).reachable_of_run
      (.flatten [[.submit () .opening .none], List.replicate 5 (.call ()),
        [.close (), .call (), .call (), .call ()]])
      (fun st : State Unit => decide ((st.task = .idle ∧ st.queue = [] ∧
        (st.callers ()).command = none) ∧ st.done = false ∧ st.issued = 1 ∧ st.result = none))
      (by decide +kernel)
    obtain ⟨⟨idle, free, outside⟩, blocked⟩ := of_decide_eq_true tested
    exact ⟨st, reached, ⟨idle, free, fun _ => outside⟩, blocked⟩

end AiroFanuc.Gripper
