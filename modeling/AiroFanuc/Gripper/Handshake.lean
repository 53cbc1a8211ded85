import AiroFanuc.Gripper.Dispatcher
import Mathlib.Tactic.ByContra

/-! Without a command number in the registers: when a cleared trigger tells that the dispatcher
has carried out the command that waits for it. -/

namespace AiroFanuc.Gripper

open Library

/-- What the dispatcher holds is what the registers hold. -/
def Dispatcher.Scans (cell : Register → Cell) (acts : List Act) : Dispatcher → Prop
  | idle | seen => True
  | verb action => action = cell .action
  | acting act => act = ⟨cell .action, cell .modifier⟩
  | acted act => act = ⟨cell .action, cell .modifier⟩ ∧ act ∈ acts

/-- How a party moves on with its writes when an exchange ends. -/
inductive Advance (outcome : Outcome) : Option Write → Option Write → Prop
  | outside (next : Option Write) (first : ∀ b ∈ next, b.register = .modifier) :
      Advance outcome none next
  | stays (a : Write) : Advance outcome (some a) (some a)
  | onward (a : Write) (register : Register) (next : a.register.next = some register)
      (reached : outcome.reached = true) :
      Advance outcome (some a) (some { a with register })
  | leaves (a : Write) : Advance outcome (some a) none

/-- What the registers hold after an exchange. -/
def exchanged (cell : Register → Cell) (outcome : Outcome) : Option Write → Register → Cell
  | some a => if outcome.reached then Function.update cell a.register a.cell else cell
  | none => cell

/-- The registers, the dispatcher and the parties fit together. -/
structure Settled (cell : Register → Cell) (dispatcher : Dispatcher) (acts : List Act)
    (writes : Party → Option Write) : Prop where
  busy : dispatcher = .idle ∨ (cell .trigger).value = 1
  scans : dispatcher.Scans cell acts
  binary : (cell .trigger).value = 0 ∨ (cell .trigger).value = 1
  matched : (cell .trigger).value = 1 → (cell .action).writer = (cell .modifier).writer
  second : ∀ p a, writes p = some a → a.register = .action →
    (cell .trigger).value = 0 ∧ cell .modifier = a.act.modifier
  third : ∀ p a, writes p = some a → a.register = .trigger →
    cell .action = a.act.action ∧ cell .modifier = a.act.modifier
  apart : ∀ p a b, writes p = some a → writes p.other = some b →
    a.register = .modifier ∨ b.register = .modifier

/-- A command may begin to write: nothing is pending and nobody else is writing. -/
def Vacant (cell : Register → Cell) (writes : Party → Option Write) (p : Party) : Prop :=
  (cell .trigger).value = 0 ∧ ∀ b ∈ writes p.other, b.register = .modifier

instance (cell : Register → Cell) (writes : Party → Option Write) (p : Party) :
    Decidable (Vacant cell writes p) := by
  unfold Vacant
  infer_instance

/-- A write of the modifier register, a command's first, takes place only when it may. -/
def Begins (cell : Register → Cell) (writes : Party → Option Write) (p : Party)
    (outcome : Outcome) : Prop :=
  ∀ a ∈ writes p, a.register = .modifier → outcome.reached = true → Vacant cell writes p

instance (cell : Register → Cell) (writes : Party → Option Write) (p : Party)
    (outcome : Outcome) : Decidable (Begins cell writes p outcome) := by
  unfold Begins
  infer_instance

theorem party_cases (p q : Party) : q = p ∨ q = p.other := by
  cases p <;> cases q
  · exact .inl rfl
  · exact .inr rfl
  · exact .inr rfl
  · exact .inl rfl

@[simp] theorem other_other (p : Party) : p.other.other = p := by
  cases p <;> rfl

namespace Settled

variable {cell : Register → Cell} {dispatcher : Dispatcher} {acts : List Act}
  {writes writes' : Party → Option Write} {p : Party} {a : Write} {outcome : Outcome}

theorem idle_of_clear (settled : Settled cell dispatcher acts writes)
    (clear : (cell .trigger).value = 0) : dispatcher = .idle := by
  rcases settled.busy with idle | set_
  · exact idle
  · rw [clear] at set_
    exact absurd set_ (by decide)

/-- While a party is past its first write, the other one is not. -/
theorem alone (settled : Settled cell dispatcher acts writes) (at_ : writes p = some a)
    (past : a.register ≠ .modifier) {b : Write} (there : writes p.other = some b) :
    b.register = .modifier :=
  (settled.apart p a b at_ there).resolve_left past

/-- A write that reaches the controller. -/
theorem put (settled : Settled cell dispatcher acts writes) (at_ : writes p = some a)
    (first : a.register = .modifier → Vacant cell writes p) :
    Settled (Function.update cell a.register a.cell) dispatcher acts writes := by
  have others {q : Party} {b : Write} (there : writes q = some b) (past : b.register ≠ .modifier) :
      b = a := by
    rcases party_cases p q with rfl | rfl
    · exact Option.some.inj (there.symm.trans at_)
    · by_cases begins : a.register = .modifier
      · exact absurd ((first begins).2 b there) past
      · exact absurd (settled.alone at_ begins there) past
  rcases a with ⟨action, modifier, writer, register⟩
  cases register with
  | modifier =>
    obtain ⟨clear, vacant⟩ := first rfl
    cases settled.idle_of_clear clear
    refine ⟨.inl rfl, trivial, .inl clear, fun set_ => ?_, ?_, ?_, settled.apart⟩
    · exact absurd (clear.symm.trans set_) (by decide)
    · intro q b there second
      cases others there (second ▸ nofun)
      cases second
    · intro q b there third
      cases others there (third ▸ nofun)
      cases third
  | action =>
    obtain ⟨clear, same⟩ := settled.second p _ at_ rfl
    cases settled.idle_of_clear clear
    refine ⟨.inl rfl, trivial, .inl clear, fun set_ => ?_, ?_, ?_, settled.apart⟩
    · exact absurd (clear.symm.trans set_) (by decide)
    · intro q b there second
      cases others there (second ▸ nofun)
      exact ⟨clear, same⟩
    · intro q b there third
      cases others there (third ▸ nofun)
      cases third
  | trigger =>
    obtain ⟨verb, same⟩ := settled.third p _ at_ rfl
    refine ⟨.inr rfl, settled.scans, .inr rfl, fun _ => ?_, ?_, ?_, settled.apart⟩
    · show (cell .action).writer = (cell .modifier).writer
      rw [verb, same]
      rfl
    · intro q b there second
      cases others there (second ▸ nofun)
      cases second
    · intro q b there third
      cases others there (third ▸ nofun)
      exact ⟨verb, same⟩

/-- A party that is not past its first write any more, or not yet. -/
theorem retire (settled : Settled cell dispatcher acts writes)
    (fresh : ∀ b ∈ writes' p, b.register = .modifier)
    (same : writes' p.other = writes p.other) : Settled cell dispatcher acts writes' := by
  refine ⟨settled.busy, settled.scans, settled.binary, settled.matched, ?_, ?_, ?_⟩
  · intro q b there second
    rcases party_cases p q with rfl | rfl
    · exact absurd ((fresh b there).symm.trans second) nofun
    · exact settled.second _ b (same ▸ there) second
  · intro q b there third
    rcases party_cases p q with rfl | rfl
    · exact absurd ((fresh b there).symm.trans third) nofun
    · exact settled.third _ b (same ▸ there) third
  · intro q b c there beyond
    rcases party_cases p q with rfl | rfl
    · exact .inl (fresh b there)
    · rw [other_other] at beyond
      exact .inr (fresh c beyond)

/-- A party that goes on to its next write. -/
theorem onward (settled : Settled cell dispatcher acts writes) (at_ : writes p = some a)
    {register : Register} (next : a.register.next = some register)
    (held : cell a.register = a.cell)
    (first : a.register = .modifier → Vacant cell writes p)
    (goes : writes' p = some { a with register })
    (same : writes' p.other = writes p.other) : Settled cell dispatcher acts writes' := by
  have alone {b : Write} (there : writes p.other = some b) : b.register = .modifier := by
    by_cases begins : a.register = .modifier
    · exact (first begins).2 b there
    · exact settled.alone at_ begins there
  have own {q : Party} {b : Write} (there : writes' q = some b) (past : b.register ≠ .modifier) :
      b = { a with register } := by
    rcases party_cases p q with rfl | rfl
    · exact Option.some.inj (there.symm.trans goes)
    · exact absurd (alone (same ▸ there)) past
  refine ⟨settled.busy, settled.scans, settled.binary, settled.matched, ?_, ?_, ?_⟩
  · intro q b there second
    cases own there (second ▸ nofun)
    cases second
    have begins : a.register = .modifier := by
      revert next
      cases a.register
      · exact fun _ => rfl
      · exact nofun
      · exact nofun
    refine ⟨(first begins).1, ?_⟩
    rw [begins] at held
    rw [held, Write.cell, begins]
    rfl
  · intro q b there third
    cases own there (third ▸ nofun)
    cases third
    have middle : a.register = .action := by
      revert next
      cases a.register
      · exact nofun
      · exact fun _ => rfl
      · exact nofun
    refine ⟨?_, (settled.second p a at_ middle).2⟩
    rw [middle] at held
    rw [held, Write.cell, middle]
    rfl
  · intro q b c there beyond
    rcases party_cases p q with rfl | rfl
    · rw [same] at beyond
      exact .inr (alone beyond)
    · exact .inl (alone (same ▸ there))

/-- An exchange of one party. -/
theorem exchange (settled : Settled cell dispatcher acts writes)
    (advance : Advance outcome (writes p) (writes' p))
    (same : writes' p.other = writes p.other) (legal : Begins cell writes p outcome) :
    Settled (exchanged cell outcome (writes p)) dispatcher acts writes' := by
  unfold Begins at legal
  have kept {x : Option Write} (before : writes p = x) (after : writes' p = x) :
      writes' = writes := by
    funext q
    rcases party_cases p q with rfl | rfl
    · exact after.trans before.symm
    · exact same
  generalize before : writes p = x at advance legal
  generalize after : writes' p = y at advance
  cases advance with
  | outside _ first => exact settled.retire (p := p) (after ▸ first) same
  | stays a =>
    rw [kept before after]
    simp only [exchanged]
    split
    · next reached => exact settled.put before fun first => legal a rfl first reached
    · exact settled
  | leaves a =>
    have gone : ∀ b ∈ writes' p, b.register = .modifier := by
      rw [after]
      exact nofun
    simp only [exchanged]
    split
    · next reached =>
      exact (settled.put before fun first => legal a rfl first reached).retire gone same
    · exact settled.retire gone same
  | onward a register next reached =>
    have written := settled.put before fun first => legal a rfl first reached
    simp only [exchanged, reached, if_true]
    refine written.onward before next (Function.update_self ..) (fun first => ?_) after same
    obtain ⟨clear, vacant⟩ := legal a rfl first reached
    refine ⟨?_, vacant⟩
    rw [first, Function.update_of_ne (by decide)]
    exact clear

/-- A command that waits to be carried out goes on waiting through the exchanges. -/
theorem exchange_pending (settled : Settled cell dispatcher acts writes)
    (legal : Begins cell writes p outcome) (set_ : (cell .trigger).value = 1) :
    (exchanged cell outcome (writes p) .trigger).value = 1 ∧
      exchanged cell outcome (writes p) .action = cell .action ∧
      exchanged cell outcome (writes p) .modifier = cell .modifier := by
  have busy (clear : (cell .trigger).value = 0) : False := by
    rw [clear] at set_
    exact absurd set_ (by decide)
  unfold Begins at legal
  generalize at_ : writes p = x at legal
  cases x with
  | none => exact ⟨set_, rfl, rfl⟩
  | some a =>
    unfold exchanged
    split
    · next reached =>
      rcases a with ⟨action, modifier, writer, register⟩
      cases register with
      | modifier => exact (busy (legal _ rfl rfl reached).1).elim
      | action => exact (busy (settled.second p _ at_ rfl).1).elim
      | trigger => exact ⟨rfl, rfl, rfl⟩
    · exact ⟨set_, rfl, rfl⟩

/-- The dispatcher sees the trigger. -/
theorem sees (settled : Settled cell .idle acts writes) (set_ : (cell .trigger).value = 1) :
    Settled cell .seen acts writes :=
  { settled with busy := .inr set_, scans := trivial }

theorem reads (settled : Settled cell .seen acts writes) :
    Settled cell (.verb (cell .action)) acts writes :=
  { settled with busy := .inr (settled.busy.resolve_left nofun), scans := rfl }

theorem acts_on {action : Cell} (settled : Settled cell (.verb action) acts writes) :
    Settled cell (.acting ⟨action, cell .modifier⟩) acts writes :=
  { settled with
    busy := .inr (settled.busy.resolve_left nofun)
    scans := congrArg (Act.mk · _) settled.scans }

theorem carries_out {act : Act} (settled : Settled cell (.acting act) acts writes) :
    Settled cell (.acted act) (act :: acts) writes :=
  { settled with
    busy := .inr (settled.busy.resolve_left nofun)
    scans := ⟨settled.scans, List.mem_cons_self⟩ }

theorem clears {act : Act} (settled : Settled cell (.acted act) acts writes) :
    Settled (Function.update cell .trigger ⟨0, .nobody⟩) .idle acts writes where
  busy := .inl rfl
  scans := trivial
  binary := .inl rfl
  matched set_ := absurd set_ (by rw [Function.update_self]; decide)
  second p a at_ second := ⟨rfl, (settled.second p a at_ second).2⟩
  third := settled.third
  apart := settled.apart

end Settled

theorem execute_advance {proto : RegisterGripperProtocol} {recovering stopped : Bool}
    {task next : Task} {outcome : Outcome}
    (executes : execute proto recovering stopped task outcome = some next) :
    Advance outcome task.exchange next.exchange := by
  unfold execute at executes
  split at executes
  · split at executes <;> cases executes
    · exact .outside _ nofun
    · refine .outside _ ?_
      rintro _ ⟨⟩
      rfl
  · next c register =>
    split at executes <;> cases executes
    · next r follows => exact .onward ⟨c.action, c.modifier, _, register⟩ r follows rfl
    · exact .leaves _
  · cases executes
    exact .stays _
  · cases executes
    exact .leaves _
  · cases executes
    exact .outside _ nofun
  · split at executes <;> cases executes
    exact .outside _ nofun
  · cases executes
    exact .outside _ nofun
  · cases executes
    exact .outside _ nofun
  · split at executes <;> cases executes <;> exact .outside _ nofun
  · cases executes
    exact .outside _ nofun
  · split at executes <;> cases executes <;> exact .outside _ nofun
  · cases executes
    exact .outside _ nofun
  · cases executes
    exact .outside _ nofun
  · split at executes <;> cases executes
    exact .outside _ nofun
  · cases executes

theorem probe_advance {proto : RegisterGripperProtocol} {n : Nat} {probe next : Probe}
    {outcome : Outcome} (executes : probe.next outcome = some next) :
    Advance outcome (probe.exchange proto n) (next.exchange proto n) := by
  unfold Probe.next at executes
  split at executes
  · next register =>
    split at executes <;> cases executes
    · next r follows => exact .onward ⟨_, _, _, register⟩ r follows rfl
    · exact .leaves _
  · cases executes
    exact .stays _
  · cases executes
    exact .leaves _
  · cases executes
    exact .outside _ nofun
  · cases executes
    exact .outside _ nofun
  · cases executes
    exact .outside _ nofun
  · split at executes <;> cases executes <;> exact .outside _ nofun
  · cases executes
    exact .outside _ nofun
  · cases executes

/-- The command that the worker thread waits for, all its writes done. -/
def Task.awaits : Task → Option Command
  | settle c | poll c | heed c | read c | pause c => some c
  | idle | gate _ | write _ _ | finish _ _ | signal _ => none

section

variable {proto : RegisterGripperProtocol} {recovering stopped : Bool} {task next : Task}
  {outcome : Outcome} {c : Command}

/-- The wait for the dispatcher begins with the trigger written. -/
theorem awaits_execute (executes : execute proto recovering stopped task outcome = some next)
    (awaits : next.awaits = some c) :
    task.awaits = some c ∨ task = .write c .trigger ∧ outcome.reached = true := by
  unfold execute at executes
  split at executes
  · split at executes <;> cases executes <;> cases awaits
  · next d register =>
    split at executes <;> cases executes <;> cases awaits
    next last =>
    cases register with
    | modifier | action => cases last
    | trigger => exact .inr ⟨rfl, rfl⟩
  · cases executes
    cases awaits
  · cases executes
    cases awaits
  · cases executes
    exact .inl awaits
  · split at executes <;> cases executes
    cases awaits
  · cases executes
    exact .inl awaits
  · cases executes
    cases awaits
  · split at executes <;> cases executes
    · cases awaits
    · exact .inl awaits
  · cases executes
    exact .inl awaits
  · split at executes <;> cases executes
    · cases awaits
    · exact .inl awaits
  · cases executes
    cases awaits
  · cases executes
    exact .inl awaits
  · split at executes <;> cases executes
    cases awaits
  · cases executes

/-- A success is concluded from a trigger register that reads 0. -/
theorem success_execute (executes : execute proto recovering stopped task outcome = some next)
    {verdict : Verdict} (at_ : next = .finish c verdict) (success : verdict.success = true) :
    task = .read c ∧ outcome = .reads 0 := by
  cases at_
  unfold execute at executes
  split at executes
  · split at executes <;> cases executes
    cases success
  · split at executes <;> cases executes
  · cases executes
  · cases executes
    cases success
  · cases executes
  · split at executes <;> cases executes
    cases success
  · cases executes
  · cases executes
    cases success
  · split at executes <;> cases executes
    cases success
  · cases executes
  · split at executes <;> cases executes
    next zero => exact ⟨rfl, congrArg Outcome.reads zero⟩
  · cases executes
    cases success
  · cases executes
  · split at executes <;> cases executes
    cases success
  · cases executes

end

namespace World

variable {T : Type}

/-- A command begins to write only with nothing pending and nobody else writing. -/
def Orderly (proto : RegisterGripperProtocol) (w : World T) : WorldLabel T → Prop
  | .worker (.work outcome) => Begins (w.cell proto) (w.write proto) .worker outcome
  | .probe outcome => Begins (w.cell proto) (w.write proto) .probe outcome
  | _ => True

instance (proto : RegisterGripperProtocol) (w : World T) (label : WorldLabel T) :
    Decidable (w.Orderly proto label) := by
  unfold Orderly
  split <;> infer_instance

/-- The dispatcher has carried the command out, or the registers hold it with the trigger set. -/
def Served (proto : RegisterGripperProtocol) (w : World T) (act : Act) : Prop :=
  act ∈ w.acts ∨ (w.cell proto .trigger).value = 1 ∧ w.cell proto .action = act.action ∧
    w.cell proto .modifier = act.modifier

/-- What a run in which commands begin in order keeps. -/
structure Sound (proto : RegisterGripperProtocol) (w : World T) : Prop where
  settled : Settled (w.cell proto) w.dispatcher w.acts (w.write proto)
  begun : ∀ act ∈ w.begun, act.action.writer = act.modifier.writer
  waits : ∀ c, w.worker.task.awaits = some c → w.Served proto c.act
  concluded : ∀ c verdict, w.worker.task = .finish c verdict → verdict.success = true →
    c.act ∈ w.acts
  reported : ∀ c ∈ w.reported, c.act ∈ w.acts

end World

section

variable {proto : RegisterGripperProtocol}

/-- Three different registers hold three different cells. -/
theorem cell_update (distinct : Function.Injective proto.number) (registers : Nat → Cell)
    (register : Register) (c : Cell) :
    (fun r => Function.update registers (proto.number register) c (proto.number r)) =
      Function.update (fun r => registers (proto.number r)) register c :=
  Function.update_comp_eq_of_injective registers distinct register c

variable {T : Type} {w : World T}

theorem cell_exchange (distinct : Function.Injective proto.number) (p : Party)
    (outcome : Outcome) :
    (fun r => w.exchange proto p outcome (proto.number r)) =
      exchanged (w.cell proto) outcome (w.write proto p) := by
  unfold World.exchange exchanged
  cases w.write proto p with
  | none => rfl
  | some a =>
    cases outcome.reached with
    | false => rfl
    | true => exact cell_update distinct w.registers a.register a.cell

namespace World

/-- What waits for the dispatcher still does after an exchange. -/
theorem Sound.served (sound : w.Sound proto) (distinct : Function.Injective proto.number)
    {p : Party} {outcome : Outcome} (legal : Begins (w.cell proto) (w.write proto) p outcome)
    {act : Act} (served : w.Served proto act) {w' : World T} (acts : w'.acts = w.acts)
    (registers : w'.registers = w.exchange proto p outcome) : w'.Served proto act := by
  have cells : w'.cell proto = exchanged (w.cell proto) outcome (w.write proto p) := by
    rw [← cell_exchange distinct]
    funext r
    exact congrFun registers _
  rcases served with done | ⟨set_, action, modifier⟩
  · exact .inl (acts ▸ done)
  · obtain ⟨still, verb, argument⟩ := sound.settled.exchange_pending legal set_
    refine .inr ?_
    rw [cells]
    exact ⟨still, verb.trans action, argument.trans modifier⟩

theorem Sound.probes (sound : w.Sound proto) :
    Sound proto { w with probe := .write .modifier, probes := w.probes + 1 } := by
  refine ⟨?_, sound.begun, sound.waits, sound.concluded, sound.reported⟩
  refine sound.settled.retire (p := .probe) ?_ rfl
  rintro _ ⟨⟩
  rfl

/-- A step of the dispatcher. -/
theorem Sound.dispatched (sound : w.Sound proto) (distinct : Function.Injective proto.number)
    {w' : World T} (moved : w.dispatch proto = some w') : w'.Sound proto := by
  have settled := sound.settled
  unfold dispatch at moved
  split at moved
  · next at_ =>
    rw [at_] at settled
    split at moved <;> cases moved
    next set_ =>
    exact ⟨settled.sees set_, sound.begun, sound.waits, sound.concluded, sound.reported⟩
  · next at_ =>
    rw [at_] at settled
    cases moved
    exact ⟨settled.reads, sound.begun, sound.waits, sound.concluded, sound.reported⟩
  · next action at_ =>
    rw [at_] at settled
    cases moved
    refine ⟨settled.acts_on, fun act there => ?_, sound.waits, sound.concluded, sound.reported⟩
    rcases List.mem_cons.mp there with rfl | old
    · have held : action = w.cell proto .action := settled.scans
      show action.writer = (w.cell proto .modifier).writer
      rw [held]
      exact settled.matched (settled.busy.resolve_left nofun)
    · exact sound.begun act old
  · next act at_ =>
    rw [at_] at settled
    cases moved
    refine ⟨settled.carries_out, sound.begun, fun c awaits => ?_, fun c verdict task success => ?_,
      fun c there => ?_⟩
    · exact (sound.waits c awaits).imp_left (List.mem_cons_of_mem _)
    · exact List.mem_cons_of_mem _ (sound.concluded c verdict task success)
    · exact List.mem_cons_of_mem _ (sound.reported c there)
  · next act at_ =>
    rw [at_] at settled
    cases moved
    have cells : World.cell proto { w with
        dispatcher := .idle
        registers := Function.update w.registers (proto.number .trigger) ⟨0, .nobody⟩ } =
        Function.update (w.cell proto) .trigger ⟨0, .nobody⟩ :=
      cell_update distinct w.registers .trigger _
    refine ⟨?_, sound.begun, fun c awaits => ?_, sound.concluded, sound.reported⟩
    · rw [cells]
      exact settled.clears
    · -- what the dispatcher clears the trigger for is what it has carried out
      obtain ⟨same, done⟩ := settled.scans
      rcases sound.waits c awaits with before | ⟨-, verb, argument⟩
      · exact .inl before
      · refine .inl ?_
        have served : act = c.act := by
          rw [same, verb, argument]
        exact served ▸ done

theorem Sound.executed (sound : w.Sound proto) (distinct : Function.Injective proto.number)
    {outcome : Outcome} {next : Task}
    (executes : execute proto w.worker.recovering w.worker.stopEvt w.worker.task outcome =
      some next)
    (agrees : w.Agrees proto outcome)
    (legal : Begins (w.cell proto) (w.write proto) .worker outcome) :
    Sound proto { w with
      worker := { w.worker with task := next }
      registers := w.exchange proto .worker outcome } := by
  have cells : World.cell proto { w with
      worker := { w.worker with task := next }
      registers := w.exchange proto .worker outcome } =
      exchanged (w.cell proto) outcome (w.write proto .worker) := cell_exchange distinct _ _
  refine ⟨?_, sound.begun, fun c awaits => ?_, fun c verdict at_ success => ?_, sound.reported⟩
  · rw [cells]
    exact sound.settled.exchange (execute_advance executes) rfl legal
  · rcases awaits_execute executes awaits with before | ⟨writes, reached⟩
    · exact sound.served distinct legal (sound.waits c before) rfl rfl
    · have at_ : w.write proto .worker =
          some ⟨c.action, c.modifier, .command c.number, .trigger⟩ :=
        congrArg Task.exchange writes
      obtain ⟨verb, argument⟩ := sound.settled.third .worker _ at_ rfl
      refine .inr ?_
      rw [cells, at_]
      simp only [exchanged, reached, if_true]
      exact ⟨rfl, verb, argument⟩
  · obtain ⟨reads, zero⟩ := success_execute executes at_ success
    rw [zero] at agrees
    rcases sound.waits c (congrArg Task.awaits reads) with done | ⟨set_, -⟩
    · exact done
    · exact absurd (Eq.trans agrees set_) (by decide)

theorem Sound.probed (sound : w.Sound proto) (distinct : Function.Injective proto.number)
    {outcome : Outcome} {next : Probe} (executes : w.probe.next outcome = some next)
    (legal : Begins (w.cell proto) (w.write proto) .probe outcome) :
    Sound proto { w with probe := next, registers := w.exchange proto .probe outcome } := by
  refine ⟨?_, sound.begun, fun c awaits => ?_, sound.concluded, sound.reported⟩
  · have cells : World.cell proto
        { w with probe := next, registers := w.exchange proto .probe outcome } =
        exchanged (w.cell proto) outcome (w.write proto .probe) := cell_exchange distinct _ _
    rw [cells]
    exact sound.settled.exchange (probe_advance executes) rfl legal
  · exact sound.served distinct legal (sound.waits c awaits) rfl rfl

/-- A step of the worker thread. -/
theorem Sound.worked (sound : w.Sound proto) (distinct : Function.Injective proto.number)
    {outcome : Outcome} {next : State T} (works : w.worker.work proto outcome = some next)
    (agrees : w.Agrees proto outcome)
    (legal : Begins (w.cell proto) (w.write proto) .worker outcome) :
    Sound proto { w with
      worker := next
      registers := w.exchange proto .worker outcome
      reported := w.reports outcome } := by
  unfold State.work at works
  split at works
  · next c verdict task =>
    split at works <;> cases works
    next passes =>
    have silent : w.write proto .worker = none := congrArg Task.exchange task
    have same : w.exchange proto .worker outcome = w.registers := by
      simp only [exchange, silent]
    have writes : World.write proto { w with
        worker := { w.worker with task := .signal c, result := some verdict } } =
          w.write proto := by
      funext p
      cases p with
      | probe => rfl
      | worker => exact silent.symm
    rw [same]
    refine ⟨writes ▸ sound.settled, sound.begun, nofun, nofun, fun d there => ?_⟩
    simp only [reports, task, passes, true_and] at there
    split at there
    · next success =>
      rcases List.mem_cons.mp there with rfl | old
      · exact sound.concluded d verdict task success
      · exact sound.reported d old
    · exact sound.reported d there
  · next c task =>
    split at works <;> cases works
    have silent : w.write proto .worker = none := congrArg Task.exchange task
    have same : w.exchange proto .worker outcome = w.registers := by
      simp only [exchange, silent]
    have reports : w.reports outcome = w.reported := by
      simp only [World.reports, task]
    have writes : World.write proto { w with
        worker := { w.worker with
          task := .idle, done := true, ended := c.number :: w.worker.ended } } =
          w.write proto := by
      funext p
      cases p with
      | probe => rfl
      | worker => exact silent.symm
    rw [same, reports]
    exact ⟨writes ▸ sound.settled, sound.begun, nofun, nofun, sound.reported⟩
  · next unfinished _ =>
    obtain ⟨task, executes, rfl⟩ := Option.map_eq_some_iff.mp works
    have reports : w.reports outcome = w.reported := by
      unfold World.reports
      split
      · next c verdict at_ => exact absurd at_ (unfinished c verdict)
      · rfl
    rw [reports]
    exact sound.executed distinct executes agrees legal

end World

variable [DecidableEq T]

/-- Only the worker thread's own operations take its task on. -/
theorem task_aside {st st' : State T} {label : Label T} (moved : Moves proto st label st')
    (aside : ∀ outcome, label ≠ .work outcome) :
    st'.task = st.task ∨ ∃ c, st.task = .idle ∧ st'.task = .gate c := by
  cases moved with
  | executed outcome | concluded | raised => exact absurd rfl (aside _)
  | taken c rest idle => exact .inr ⟨c, idle, rfl⟩
  | rejected | began | waited | woke | expired | closed | turned | cleared | blanked | handed
    | finished | signalled | answered | shutting | cancelled | recovery => exact .inl rfl

namespace World

theorem Sound.aside (sound : w.Sound proto) {next : State T} {label : Label T}
    (moves : Moves proto w.worker label next) (aside : ∀ outcome, label ≠ .work outcome) :
    Sound proto { w with worker := next } := by
  have tasks := task_aside moves aside
  have writes : World.write proto { w with worker := next } = w.write proto := by
    funext p
    cases p with
    | probe => rfl
    | worker =>
      rcases tasks with same | ⟨c, idle, gate⟩
      · exact congrArg Task.exchange same
      · exact (congrArg Task.exchange gate).trans (congrArg Task.exchange idle).symm
  refine ⟨?_, sound.begun, fun c awaits => ?_, fun c verdict at_ => ?_, sound.reported⟩
  · rw [writes]
    exact sound.settled
  · rcases tasks with same | ⟨d, -, gate⟩
    · exact sound.waits c ((congrArg Task.awaits same).symm.trans awaits)
    · exact absurd ((congrArg Task.awaits gate).symm.trans awaits) nofun
  · rcases tasks with same | ⟨d, -, gate⟩
    · exact sound.concluded c verdict (same.symm.trans at_)
    · exact absurd (gate.symm.trans at_) nofun

theorem Sound.step (sound : w.Sound proto) (distinct : Function.Injective proto.number)
    {w' : World T} {label : WorldLabel T} (legal : w.Orderly proto label)
    (moved : w.step proto label = some w') : w'.Sound proto := by
  cases label with
  | worker label =>
    by_cases works : ∃ outcome, label = .work outcome
    · obtain ⟨outcome, rfl⟩ := works
      simp only [World.step] at moved
      split at moved
      · next agrees =>
        obtain ⟨next, runs, rfl⟩ := Option.map_eq_some_iff.mp moved
        exact sound.worked distinct runs agrees legal
      · cases moved
    · have aside (outcome : Outcome) : label ≠ .work outcome := fun same => works ⟨outcome, same⟩
      have steps : (w.worker.step proto label).map (fun next => { w with worker := next }) =
          some w' := by
        cases label with
        | work outcome => exact absurd rfl (aside outcome)
        | submit | wait | wake | expire | close | call | setRecovery | take => exact moved
      obtain ⟨next, stepped, rfl⟩ := Option.map_eq_some_iff.mp steps
      exact sound.aside (step_moves stepped) aside
  | probes =>
    simp only [World.step] at moved
    split at moved <;> cases moved
    exact sound.probes
  | probe outcome =>
    simp only [World.step] at moved
    split at moved
    · obtain ⟨next, executes, rfl⟩ := Option.map_eq_some_iff.mp moved
      exact sound.probed distinct executes legal
    · cases moved
  | dispatcher => exact sound.dispatched distinct moved

end World

/-- While commands begin in order, every success that the worker reports is of a command that the
dispatcher carried out, and the dispatcher acts on whole commands only. -/
theorem success_is_carried_out (distinct : Function.Injective proto.number)
    (reached : (gripper T proto).Reachable (World.Orderly proto) w) :
    (∀ c ∈ w.reported, c.act ∈ w.acts) ∧
      ∀ act ∈ w.begun, act.action.writer = act.modifier.writer := by
  have initial : World.Sound proto (World.initial : World T) := by
    refine ⟨⟨.inl rfl, trivial, .inl rfl, fun _ => rfl, ?_, ?_, ?_⟩, nofun, nofun, nofun, nofun⟩
    · intro p a at_
      cases p <;> cases at_
    · intro p a at_
      cases p <;> cases at_
    · intro p a b at_
      cases p <;> cases at_
  have sound : w.Sound proto :=
    reached.invariant initial fun _ _ _ sound legal moved => sound.step distinct legal moved
  exact ⟨sound.reported, sound.begun⟩

end

theorem robotiq_registers_differ : Function.Injective robotiq2F85.number := by
  intro r r' same
  cases r <;> cases r' <;> first | rfl | exact absurd same (by decide)

/-- A command waits for a slow dispatcher and is reported once it was carried out. -/
theorem opened_is_carried_out :
    ∃ w, (gripper Unit robotiq2F85).Reachable (World.Orderly robotiq2F85) w ∧
      w.reported = [⟨1, .opening, 1, 0⟩] ∧
      ((∀ c ∈ w.reported, c.act ∈ w.acts) ∧
        ∀ act ∈ w.begun, act.action.writer = act.modifier.writer) := by
  obtain ⟨w, reached, tested⟩ := (gripper Unit robotiq2F85).reachable_of_test
    (World.Orderly robotiq2F85)
    (.flatten [[.worker (.submit () .opening .none)], List.replicate 5 (.worker (.call ())),
      [.worker .take], List.replicate 4 (.worker (.work .passes)),
      [.dispatcher, .dispatcher], List.replicate 3 (.worker (.work .passes)),
      [.worker (.work (.reads 1)), .dispatcher, .dispatcher, .dispatcher],
      List.replicate 3 (.worker (.work .passes)),
      [.worker (.work (.reads 0)), .worker (.work .passes)]])
    (fun w : World Unit => decide (w.reported = [⟨1, .opening, 1, 0⟩]))
    (by decide +kernel) (by decide +kernel)
  exact ⟨w, reached, of_decide_eq_true tested,
    success_is_carried_out robotiq_registers_differ reached⟩

/-- An open times out while the dispatcher acts on it, and the clear that ends it is taken for
the end of the close behind it. With the dispatcher between its two reads, the close's
modifier goes with the open's action. -/
theorem late_clear_reports_next :
    (∃ w, (gripper Unit robotiq2F85).Reachable (fun _ _ => True) w ∧
      ∃ c ∈ w.reported, c.act ∉ w.acts) ∧
    ∃ w, (gripper Unit robotiq2F85).Reachable (fun _ _ => True) w ∧
      ∃ act ∈ w.begun, act.action = ⟨1, .command 1⟩ ∧ act.modifier = ⟨1, .command 2⟩ := by
  constructor
  · obtain ⟨w, reached, tested⟩ := (gripper Unit robotiq2F85).reachable_of_run
      (.flatten [[.worker (.submit () .opening .none)], List.replicate 5 (.worker (.call ())),
        [.worker .take], List.replicate 5 (.worker (.work .passes)),
        [.dispatcher, .dispatcher, .dispatcher, .worker (.work .expires)],
        List.replicate 2 (.worker (.work .passes)),
        [.worker (.submit () .closing .none)], List.replicate 5 (.worker (.call ())),
        [.worker .take], List.replicate 7 (.worker (.work .passes)),
        [.dispatcher, .dispatcher, .worker (.work (.reads 0)), .worker (.work .passes)]])
      (fun w : World Unit => decide (∃ c ∈ w.reported, c.act ∉ w.acts))
      (by decide +kernel)
    exact ⟨w, reached, of_decide_eq_true tested⟩
  · obtain ⟨w, reached, tested⟩ := (gripper Unit robotiq2F85).reachable_of_run
      (.flatten [[.worker (.submit () .opening .none)], List.replicate 5 (.worker (.call ())),
        [.worker .take], List.replicate 5 (.worker (.work .passes)),
        [.worker (.work .expires)], List.replicate 2 (.worker (.work .passes)),
        [.worker (.submit () .closing .none)], List.replicate 5 (.worker (.call ())),
        [.worker .take, .dispatcher, .dispatcher, .worker (.work .passes),
          .worker (.work .passes), .dispatcher]])
      (fun w : World Unit => decide
        (∃ act ∈ w.begun, act.action = ⟨1, .command 1⟩ ∧ act.modifier = ⟨1, .command 2⟩))
      (by decide +kernel)
    exact ⟨w, reached, of_decide_eq_true tested⟩

end AiroFanuc.Gripper
