import AiroFanuc.Library.Flock
import AiroFanuc.Library.Machine
import Mathlib.Algebra.Order.Ring.Rat
import Mathlib.Logic.Function.Basic

/-! The single-owner lock of the controller: any number of processes, their locks and their forked
children take their steps in any order, and die at any point. The lock directory exists. -/

namespace AiroFanuc.Driver

open Library

inductive OwnershipMode where
  | control
  | receive
  | tool
  deriving DecidableEq, Repr

/-- A holder record; `size` is the length of its JSON text. -/
structure Holder where
  pid : Nat
  mode : OwnershipMode
  since : ℚ
  size : Nat
  deriving DecidableEq

/-- An `OwnershipLock` as it was constructed: the process it runs in, and the size of the record
that it writes at a time. -/
structure LockArgs where
  proc : Nat
  uid : Nat
  pid : Option Nat
  mode : OwnershipMode
  checkDirOwner : Bool
  size : ℚ → Nat

/-- A process that runs locks, or a child between its fork and its exec. The locks a child makes or
takes for itself are those of a process of its own. -/
inductive Process where
  | python (p : Nat)
  | forked (c : Nat)
  deriving DecidableEq, Repr

/-- Where a lock is in `acquire` or `release`. -/
inductive LockStage where
  | idle
  | opened (d : Nat)
  | refused (d : Nat)
  | raising (d : Nat)
  | locked (d : Nat) (h : Holder)
  | truncated (d : Nat) (h : Holder)
  | held (d : Nat) (h : Holder)
  | unlocking (d : Nat)
  | unlocked (d : Nat)
  | dead
  deriving DecidableEq

/-- An `OwnershipError`: what was read of the holder, and whose record an observer saw standing. -/
structure Refusal where
  lock : Nat
  seen : Option Holder
  owner : Option Holder

/-- The file is empty or holds a record. An observer keeps the lock that holds, the records ever
written, and the errors raised. -/
structure Contention where
  kernel : Flock Process
  stage : Nat → LockStage
  file : Option Holder
  owner : Option (Nat × Holder)
  stamped : List Holder
  refusals : List Refusal

structure LockSetting where
  args : Nat → LockArgs
  dirOwner : Nat

/-- `openFails` is an `acquire` whose directory or file the system refuses; `inheritedRelease` is
the `release` of a child's copy of a lock that held when its parent forked. -/
inductive LockLabel where
  | acquire (i : Nat)
  | openFails (i : Nat)
  | step (i : Nat) (now : ℚ)
  | release (i : Nat)
  | crash (p : Nat)
  | fork (p c : Nat)
  | exec (c : Nat)
  | inheritedRelease (c d : Nat)

def kHolderRead : Nat := 4096

/-- `_read_holder`: a text that does not end within the read does not parse. -/
def readHolder (file : Option Holder) : Option Holder :=
  file.filter fun h => decide (h.size ≤ kHolderRead)

namespace LockArgs

def holder (a : LockArgs) (now : ℚ) : Holder := ⟨a.pid.getD a.proc, a.mode, now, a.size now⟩

/-- `_ensure_lock_dir` lets the lock pass. -/
def admitted (a : LockArgs) (dirOwner : Nat) : Bool :=
  !a.checkDirOwner || dirOwner = a.uid || dirOwner = 0

end LockArgs

namespace LockStage

/-- The description a lock has open. -/
def fd : LockStage → Option Nat
  | .opened d | .refused d | .raising d | .locked d _ | .truncated d _ | .held d _ | .unlocking d
  | .unlocked d => some d
  | .idle | .dead => none

/-- From the kernel's grant to its release. -/
def locks : LockStage → Bool
  | .locked _ _ | .truncated _ _ | .held _ _ | .unlocking _ => true
  | _ => false

end LockStage

namespace Contention

def new : Contention := ⟨.new, fun _ => .idle, none, none, [], []⟩

def setStage (st : Contention) (i : Nat) (stage : LockStage) : Contention :=
  { st with stage := Function.update st.stage i stage }

/-- The next step of the call a lock is in. -/
def advance (w : LockSetting) (st : Contention) (i : Nat) (now : ℚ) : Option Contention :=
  match st.stage i with
  | .idle | .held _ _ | .dead => none
  | .opened d =>
    match st.kernel.flock d with
    | some kernel =>
      some { st.setStage i (.locked d ((w.args i).holder now)) with kernel := kernel }
    | none => some (st.setStage i (.refused d))
  | .refused d => some { st.setStage i (.raising d) with
      refusals := st.refusals ++ [⟨i, readHolder st.file, st.owner.map (·.2)⟩] }
  | .raising d | .unlocked d => some { st.setStage i .idle with
      kernel := st.kernel.close (.python (w.args i).proc) d }
  | .locked d h => some { st.setStage i (.truncated d h) with file := none }
  | .truncated d h => some { st.setStage i (.held d h) with
      file := some h
      owner := some (i, h)
      stamped := st.stamped ++ [h] }
  | .unlocking d => some { st.setStage i (.unlocked d) with kernel := st.kernel.unlock d }

def step (w : LockSetting) (st : Contention) : LockLabel → Option Contention
  | .acquire i =>
    match st.stage i with
    | .idle =>
      if (w.args i).admitted w.dirOwner then
        some { st.setStage i (.opened st.kernel.fresh) with
          kernel := st.kernel.openFile (.python (w.args i).proc) }
      else some st
    | .held _ _ => some st
    | _ => none
  | .openFails i => if st.stage i = .idle then some st else none
  | .step i now => st.advance w i now
  | .release i =>
    match st.stage i with
    | .held d _ => some { st.setStage i (.unlocking d) with owner := none }
    | .idle => some st
    | _ => none
  | .crash p => some { st with
      kernel := st.kernel.drop (.python p)
      stage := fun i => if (w.args i).proc = p then .dead else st.stage i
      owner := st.owner.filter fun o => decide ((w.args o.1).proc ≠ p) }
  | .fork p c =>
    if st.kernel.opens.any (fun o => o.1 = .forked c) then none
    else some { st with kernel := st.kernel.fork (.python p) (.forked c) }
  | .exec c => some { st with kernel := st.kernel.drop (.forked c) }
  -- `LOCK_UN` goes to the description, which the parent's descriptor shares.
  | .inheritedRelease c d =>
    if (.forked c, d) ∈ st.kernel.opens then
      some { st with kernel := (st.kernel.unlock d).close (.forked c) d }
    else none

def machine (w : LockSetting) : Machine Contention LockLabel := ⟨.new, step w⟩

/-- No child releases what it has inherited. -/
def ownRelease (_ : Contention) : LockLabel → Prop
  | .inheritedRelease _ _ => False
  | _ => True

instance (st : Contention) (l : LockLabel) : Decidable (st.ownRelease l) :=
  match l with
  | .inheritedRelease _ _ => inferInstanceAs (Decidable False)
  | .acquire _ | .openFails _ | .step _ _ | .release _ | .crash _ | .fork _ _ | .exec _ =>
    inferInstanceAs (Decidable True)

/-- A child that has not yet executed another program, and would keep `d` locked. -/
def leaked (st : Contention) (d : Nat) : Prop := ∃ c, (.forked c, d) ∈ st.kernel.opens

/-- The kernel against the locks: descriptors, descriptions and the one that is locked. -/
structure Linked (w : LockSetting) (st : Contention) : Prop where
  kernel : st.kernel.Sound
  opened : ∀ i d, (st.stage i).fd = some d → (.python (w.args i).proc, d) ∈ st.kernel.opens
  traced : ∀ p d, (.python p, d) ∈ st.kernel.opens →
    ∃ i, (w.args i).proc = p ∧ (st.stage i).fd = some d
  apart : ∀ i j d, (st.stage i).fd = some d → (st.stage j).fd = some d → i = j
  locks : ∀ i d, (st.stage i).fd = some d → (st.kernel.lock = some d ↔ (st.stage i).locks = true)

/-- The file against the locks: whose record stands in it, and what the refused have read. -/
structure Recorded (st : Contention) : Prop where
  held : ∀ i d h, st.stage i = .held d h → st.file = some h ∧ st.owner = some (i, h)
  owner : ∀ i h, st.owner = some (i, h) → ∃ d, st.stage i = .held d h
  file : ∀ h ∈ st.file, h ∈ st.stamped
  refusals : ∀ r ∈ st.refusals, (∀ h ∈ r.seen, h ∈ st.stamped) ∧
    ∀ h ∈ r.owner, r.seen = readHolder (some h)

variable {w : LockSetting} {st st' : Contention} {i j d : Nat} {stage : LockStage}

theorem stage_setStage (st : Contention) (i : Nat) (stage : LockStage) :
    (st.setStage i stage).stage i = stage := Function.update_self ..

theorem stage_setStage_of_ne (st : Contention) (stage : LockStage) (other : j ≠ i) :
    (st.setStage i stage).stage j = st.stage j := Function.update_of_ne other ..

/-! ### The kernel -/

theorem Linked.granted (linked : st.Linked w) (locks : (st.stage i).locks = true) :
    ∃ d, (st.stage i).fd = some d ∧ st.kernel.lock = some d := by
  have opened : ∃ d, (st.stage i).fd = some d := by
    cases stage : st.stage i with
    | idle | opened | refused | raising | unlocked | dead => simp [stage, LockStage.locks] at locks
    | locked d h | truncated d h | held d h => exact ⟨d, rfl⟩
    | unlocking d => exact ⟨d, rfl⟩
  obtain ⟨d, fd⟩ := opened
  exact ⟨d, fd, (linked.locks i d fd).mpr locks⟩

/-- At most one lock holds. -/
theorem Linked.exclusive (linked : st.Linked w) (first : (st.stage i).locks = true)
    (second : (st.stage j).locks = true) : i = j := by
  obtain ⟨d, fd, lock⟩ := linked.granted first
  obtain ⟨e, fd', lock'⟩ := linked.granted second
  rw [lock, Option.some.injEq] at lock'
  subst lock'
  exact linked.apart i j d fd fd'

/-- A lock is held by a lock, or by a child that has not come to its exec. -/
theorem Linked.holder (linked : st.Linked w) (taken : st.kernel.lock = some d) :
    (∃ i, (st.stage i).fd = some d ∧ (st.stage i).locks = true) ∨ st.leaked d := by
  obtain ⟨p, member⟩ := linked.kernel.held d taken
  cases p with
  | python p =>
    obtain ⟨i, -, fd⟩ := linked.traced p d member
    exact .inl ⟨i, fd, (linked.locks i d fd).mp taken⟩
  | forked c => exact .inr ⟨c, member⟩

/-- A step that neither opens nor closes, and leaves the kernel's lock alone. -/
theorem Linked.keep (linked : st.Linked w) (kernel : st'.kernel = st.kernel)
    (stages : st'.stage = Function.update st.stage i stage) (fd : stage.fd = (st.stage i).fd)
    (locks : stage.locks = (st.stage i).locks) : st'.Linked w := by
  have same (j : Nat) : (st'.stage j).fd = (st.stage j).fd ∧
      (st'.stage j).locks = (st.stage j).locks := by
    rw [stages]
    by_cases here : j = i
    · rw [here, Function.update_self]
      exact ⟨fd, locks⟩
    · rw [Function.update_of_ne here]
      exact ⟨rfl, rfl⟩
  constructor
  · rw [kernel]
    exact linked.kernel
  · intro j d opened
    rw [kernel]
    exact linked.opened j d ((same j).1 ▸ opened)
  · intro p d member
    rw [kernel] at member
    obtain ⟨j, proc, opened⟩ := linked.traced p d member
    exact ⟨j, proc, (same j).1.trans opened⟩
  · intro j l d first second
    exact linked.apart j l d ((same j).1 ▸ first) ((same l).1 ▸ second)
  · intro j d opened
    rw [kernel, (same j).2]
    exact linked.locks j d ((same j).1 ▸ opened)

theorem Linked.open (linked : st.Linked w) (idle : st.stage i = .idle) :
    Linked w { st.setStage i (.opened st.kernel.fresh) with
      kernel := st.kernel.openFile (.python (w.args i).proc) } := by
  have old {j d : Nat} (fd : (st.stage j).fd = some d) : d < st.kernel.fresh :=
    linked.kernel.known _ (linked.opened j d fd)
  have stages (j d : Nat) :
      ((st.setStage i (.opened st.kernel.fresh)).stage j).fd = some d ↔
        j = i ∧ d = st.kernel.fresh ∨ j ≠ i ∧ (st.stage j).fd = some d := by
    by_cases here : j = i
    · rw [here, stage_setStage]
      simp [LockStage.fd, eq_comm]
    · rw [stage_setStage_of_ne _ _ here]
      simp [here]
  constructor
  · exact linked.kernel.openFile _
  · intro j d fd
    rcases (stages j d).mp fd with ⟨rfl, rfl⟩ | ⟨-, fd⟩
    · exact List.mem_append_right _ (List.mem_singleton_self _)
    · exact List.mem_append_left _ (linked.opened j d fd)
  · intro p d member
    rcases List.mem_append.mp member with early | late
    · obtain ⟨j, proc, fd⟩ := linked.traced p d early
      refine ⟨j, proc, (stages j d).mpr (.inr ⟨?_, fd⟩)⟩
      rintro rfl
      rw [idle] at fd
      cases fd
    · cases List.mem_singleton.mp late
      exact ⟨i, rfl, (stages i _).mpr (.inl ⟨rfl, rfl⟩)⟩
  · intro j l d first second
    rcases (stages j d).mp first with ⟨rfl, rfl⟩ | ⟨-, fd⟩
    · rcases (stages l _).mp second with ⟨rfl, -⟩ | ⟨-, fd⟩
      · rfl
      · exact absurd (old fd) (lt_irrefl _)
    · rcases (stages l d).mp second with ⟨-, rfl⟩ | ⟨-, fd'⟩
      · exact absurd (old fd) (lt_irrefl _)
      · exact linked.apart j l d fd fd'
  · intro j d fd
    by_cases here : j = i
    · subst here
      rcases (stages j d).mp fd with ⟨-, rfl⟩ | ⟨other, -⟩
      · show st.kernel.lock = _ ↔ ((st.setStage j _).stage j).locks = true
        rw [stage_setStage]
        refine iff_of_false (fun locked => ?_) (by simp [LockStage.locks])
        obtain ⟨p, member⟩ := linked.kernel.held _ locked
        exact absurd (linked.kernel.known _ member) (lt_irrefl _)
      · exact absurd rfl other
    · rcases (stages j d).mp fd with ⟨rfl, -⟩ | ⟨-, fd⟩
      · exact absurd rfl here
      · show st.kernel.lock = _ ↔ ((st.setStage i _).stage j).locks = true
        rw [stage_setStage_of_ne _ _ here]
        exact linked.locks j d fd

/-- A step of a lock with its descriptor open, that changes who is locked and nothing else. -/
theorem Linked.relock (linked : st.Linked w) {kernel : Flock Process}
    (fd : (st.stage i).fd = some d) (same : stage.fd = some d) (sound : kernel.Sound) (opens : kernel.opens = st.kernel.opens)
    (own : kernel.lock = some d ↔ stage.locks = true)
    (others : ∀ e, e ≠ d → (kernel.lock = some e ↔ st.kernel.lock = some e)) :
    Linked w { st.setStage i stage with kernel := kernel } := by
  have fds (j : Nat) : ((st.setStage i stage).stage j).fd = (st.stage j).fd := by
    by_cases here : j = i
    · rw [here, stage_setStage, same, fd]
    · rw [stage_setStage_of_ne _ _ here]
  constructor
  · exact sound
  · intro j e opened
    rw [opens]
    exact linked.opened j e (fds j ▸ opened)
  · intro p e member
    rw [opens] at member
    obtain ⟨j, proc, opened⟩ := linked.traced p e member
    exact ⟨j, proc, (fds j).trans opened⟩
  · intro j l e first second
    exact linked.apart j l e (fds j ▸ first) (fds l ▸ second)
  · intro j e opened
    by_cases here : j = i
    · subst here
      have opened : ((st.setStage j stage).stage j).fd = some e := opened
      rw [stage_setStage, same, Option.some.injEq] at opened
      subst opened
      show kernel.lock = _ ↔ ((st.setStage j stage).stage j).locks = true
      rw [stage_setStage]
      exact own
    · have opened : (st.stage j).fd = some e := fds j ▸ opened
      have apart : e ≠ d := by
        rintro rfl
        exact here (linked.apart j i e opened fd)
      show kernel.lock = _ ↔ ((st.setStage i stage).stage j).locks = true
      rw [stage_setStage_of_ne _ _ here, others e apart]
      exact linked.locks j e opened

theorem Linked.grant (linked : st.Linked w) {kernel : Flock Process} {h : Holder}
    (opened : st.stage i = .opened d) (taken : st.kernel.flock d = some kernel) :
    Linked w { st.setStage i (.locked d h) with kernel := kernel } := by
  have fd : (st.stage i).fd = some d := by rw [opened]; rfl
  obtain ⟨rfl, free⟩ := Flock.flock_some taken
  have sound : ({ st.kernel with lock := some d } : Flock Process).Sound := by
    refine ⟨linked.kernel.known, fun e locked => ?_⟩
    cases locked
    exact ⟨_, linked.opened i d fd⟩
  refine linked.relock fd rfl sound rfl (iff_of_true rfl rfl) fun e other => ?_
  refine iff_of_false (fun same => other (Option.some.inj same).symm) fun locked => ?_
  rcases free with free | own
  · rw [free] at locked
    cases locked
  · rw [own, Option.some.injEq] at locked
    exact other locked.symm

theorem Linked.unlock (linked : st.Linked w) (unlocking : st.stage i = .unlocking d) :
    Linked w { st.setStage i (.unlocked d) with kernel := st.kernel.unlock d } := by
  have fd : (st.stage i).fd = some d := by rw [unlocking]; rfl
  refine linked.relock fd rfl (linked.kernel.unlock d) ?_ ?_ fun e other => ?_
  · unfold Flock.unlock
    split <;> rfl
  · refine iff_of_false (fun locked => ?_) (by simp [LockStage.locks])
    exact (Flock.unlock_lock.mp locked).2 rfl
  · rw [Flock.unlock_lock]
    exact and_iff_left other

/-- What is left once descriptors of locks that are through have been closed. -/
theorem Linked.closed (linked : st.Linked w) {kernel : Flock Process} {stages : Nat → LockStage}
    (gone : Nat → Prop) (sound : kernel.Sound)
    (stage : ∀ j, ¬ gone j → stages j = st.stage j) (ended : ∀ j, gone j → (stages j).fd = none)
    (opens : ∀ p e, (.python p, e) ∈ kernel.opens ↔ (.python p, e) ∈ st.kernel.opens ∧
      ∀ j, gone j → (w.args j).proc = p → (st.stage j).fd ≠ some e)
    (lock : ∀ e, kernel.lock = some e ↔ st.kernel.lock = some e ∧ ∃ p, (p, e) ∈ kernel.opens) :
    Linked w { st with stage := stages, kernel := kernel } := by
  have live {j e : Nat} (fd : (stages j).fd = some e) : ¬ gone j ∧ (st.stage j).fd = some e := by
    by_cases through : gone j
    · rw [ended j through] at fd
      cases fd
    · exact ⟨through, stage j through ▸ fd⟩
  have member {j e : Nat} (fd : (stages j).fd = some e) :
      (.python (w.args j).proc, e) ∈ kernel.opens := by
    obtain ⟨through, early⟩ := live fd
    refine (opens _ e).mpr ⟨linked.opened j e early, fun l left _ fd' => ?_⟩
    exact through (linked.apart l j e fd' early ▸ left)
  constructor
  · exact sound
  · exact fun j e fd => member fd
  · intro p e opened
    obtain ⟨early, others⟩ := (opens p e).mp opened
    obtain ⟨j, proc, fd⟩ := linked.traced p e early
    have through : ¬ gone j := fun left => others j left proc fd
    exact ⟨j, proc, (congrArg LockStage.fd (stage j through)).trans fd⟩
  · intro j l e first second
    exact linked.apart j l e (live first).2 (live second).2
  · intro j e fd
    obtain ⟨through, early⟩ := live fd
    show kernel.lock = some e ↔ (stages j).locks = true
    rw [lock, stage j through, linked.locks j e early]
    exact and_iff_left ⟨_, member fd⟩

theorem Linked.close (linked : st.Linked w) (fd : (st.stage i).fd = some d) :
    Linked w { st.setStage i .idle with
      kernel := st.kernel.close (.python (w.args i).proc) d } := by
  refine linked.closed (· = i) (linked.kernel.close _ _) ?_ ?_ ?_ ?_
  · exact fun j other => stage_setStage_of_ne st .idle other
  · rintro j rfl
    exact congrArg LockStage.fd (stage_setStage st j .idle)
  · intro p e
    rw [Flock.mem_close]
    refine and_congr_right fun _ => ?_
    constructor
    · rintro apart j rfl proc opened
      rw [fd, Option.some.injEq] at opened
      exact apart ⟨by rw [proc], opened.symm⟩
    · rintro apart ⟨proc, rfl⟩
      exact apart i rfl (Process.python.inj proc).symm fd
  · exact fun e => Flock.settle_lock

theorem Linked.crash (linked : st.Linked w) (p : Nat) :
    Linked w { st with
      kernel := st.kernel.drop (.python p)
      stage := fun i => if (w.args i).proc = p then .dead else st.stage i } := by
  refine linked.closed (fun j => (w.args j).proc = p) (linked.kernel.drop _) ?_ ?_ ?_ ?_
  · exact fun j other => if_neg other
  · intro j here
    rw [if_pos here]
    rfl
  · intro q e
    rw [Flock.mem_drop]
    refine and_congr_right fun member => ?_
    constructor
    · rintro apart j here proc -
      exact apart (by rw [← proc, here])
    · rintro apart same
      obtain ⟨j, proc, fd⟩ := linked.traced q e member
      exact apart j (proc.trans (Process.python.inj same)) proc fd
  · exact fun e => Flock.settle_lock

theorem Linked.fork (linked : st.Linked w) (p c : Nat) :
    Linked w { st with kernel := st.kernel.fork (.python p) (.forked c) } := by
  constructor
  · exact linked.kernel.fork _ _
  · exact fun j e fd => Flock.mem_fork.mpr (.inl (linked.opened j e fd))
  · intro q e member
    rcases Flock.mem_fork.mp member with early | ⟨child, -⟩
    · exact linked.traced q e early
    · cases child
  · exact linked.apart
  · exact linked.locks

theorem Linked.exec (linked : st.Linked w) (c : Nat) :
    Linked w { st with kernel := st.kernel.drop (.forked c) } := by
  refine linked.closed (fun _ => False) (linked.kernel.drop _) ?_ ?_ ?_ ?_
  · exact fun j _ => rfl
  · exact fun j gone => gone.elim
  · intro q e
    rw [Flock.mem_drop]
    exact and_congr_right fun _ => iff_of_true (by simp) (by simp)
  · exact fun e => Flock.settle_lock

theorem advance_linked {now : ℚ} (linked : st.Linked w) (moved : st.advance w i now = some st') :
    st'.Linked w := by
  unfold advance at moved
  cases stage : st.stage i with
  | idle | held | dead => simp [stage] at moved
  | opened d =>
    simp only [stage] at moved
    cases taken : st.kernel.flock d with
    | some kernel =>
      simp only [taken, Option.some.injEq] at moved
      exact moved ▸ linked.grant stage taken
    | none =>
      simp only [taken, Option.some.injEq] at moved
      subst moved
      exact linked.keep rfl rfl (by rw [stage]; rfl) (by rw [stage]; rfl)
  | refused d | locked d h | truncated d h =>
    simp only [stage, Option.some.injEq] at moved
    subst moved
    exact linked.keep rfl rfl (by rw [stage]; rfl) (by rw [stage]; rfl)
  | raising d | unlocked d =>
    simp only [stage, Option.some.injEq] at moved
    subst moved
    exact linked.close (by rw [stage]; rfl)
  | unlocking d =>
    simp only [stage, Option.some.injEq] at moved
    exact moved ▸ linked.unlock stage

theorem new_linked (w : LockSetting) : new.Linked w where
  kernel := Flock.new_sound
  opened := by simp [new, LockStage.fd]
  traced := by simp [new, Flock.new]
  apart := by simp [new, LockStage.fd]
  locks := by simp [new, LockStage.fd]

theorem step_linked {l : LockLabel} (linked : st.Linked w) (legal : st.ownRelease l)
    (moved : st.step w l = some st') : st'.Linked w := by
  cases l with
  | acquire i =>
    unfold step at moved
    cases stage : st.stage i with
    | idle =>
      simp only [stage] at moved
      split at moved
      · cases moved
        exact linked.open stage
      · cases moved
        exact linked
    | held d h =>
      simp only [stage, Option.some.injEq] at moved
      exact moved ▸ linked
    | opened | refused | raising | locked | truncated | unlocking | unlocked | dead =>
      simp [stage] at moved
  | openFails i =>
    simp only [step, Option.ite_none_right_eq_some, Option.some.injEq] at moved
    exact moved.2 ▸ linked
  | step i now => exact advance_linked linked moved
  | release i =>
    unfold step at moved
    cases stage : st.stage i with
    | held d h =>
      simp only [stage, Option.some.injEq] at moved
      subst moved
      exact linked.keep rfl rfl (by rw [stage]; rfl) (by rw [stage]; rfl)
    | idle =>
      simp only [stage, Option.some.injEq] at moved
      exact moved ▸ linked
    | opened | refused | raising | locked | truncated | unlocking | unlocked | dead =>
      simp [stage] at moved
  | crash p =>
    cases moved
    have left := linked.crash p
    exact ⟨left.kernel, left.opened, left.traced, left.apart, left.locks⟩
  | fork p c =>
    simp only [step] at moved
    split at moved
    · cases moved
    · cases moved
      exact linked.fork p c
  | exec c =>
    cases moved
    exact linked.exec c
  | inheritedRelease c d => exact legal.elim

/-! ### The record -/

theorem new_recorded : new.Recorded := by
  constructor
  · simp [new]
  · simp [new]
  · simp [new]
  · simp [new]

/-- A step that leaves the file and its owner alone. -/
theorem Recorded.keep (recorded : st.Recorded) (file : st'.file = st.file)
    (owner : st'.owner = st.owner) (stamped : st'.stamped = st.stamped)
    (refusals : st'.refusals = st.refusals)
    (held : ∀ j d h, st'.stage j = .held d h ↔ st.stage j = .held d h) : st'.Recorded := by
  constructor
  · intro j d h stage
    rw [file, owner]
    exact recorded.held j d h ((held j d h).mp stage)
  · intro j h stands
    rw [owner] at stands
    obtain ⟨d, stage⟩ := recorded.owner j h stands
    exact ⟨d, (held j d h).mpr stage⟩
  · rw [file, stamped]
    exact recorded.file
  · rw [refusals, stamped]
    exact recorded.refusals

/-- A lock that neither comes to hold nor held. -/
theorem held_setStage (before : ∀ d h, st.stage i ≠ .held d h) (after : ∀ d h, stage ≠ .held d h)
    (j d : Nat) (h : Holder) :
    (st.setStage i stage).stage j = .held d h ↔ st.stage j = .held d h := by
  by_cases here : j = i
  · subst here
    rw [stage_setStage]
    exact iff_of_false (after d h) (before d h)
  · rw [stage_setStage_of_ne _ _ here]

/-- While another lock holds, none does. -/
theorem Linked.unheld (linked : st.Linked w) (locks : (st.stage i).locks = true)
    (other : ∀ d h, st.stage i ≠ .held d h) (j d : Nat) (h : Holder) : st.stage j ≠ .held d h := by
  intro held
  have same : j = i := linked.exclusive (by rw [held]; rfl) locks
  exact other d h (same ▸ held)

theorem Recorded.unowned (recorded : st.Recorded) (unheld : ∀ j d h, st.stage j ≠ .held d h) :
    st.owner = none := by
  cases owner : st.owner with
  | none => rfl
  | some o =>
    obtain ⟨d, held⟩ := recorded.owner o.1 o.2 owner
    exact absurd held (unheld o.1 d o.2)

/-- What a refused lock reads is a record that was written, and the holder's if one stands. -/
theorem Recorded.refuse (recorded : st.Recorded) (refused : st.stage i = .refused d) :
    Recorded { st.setStage i (.raising d) with
      refusals := st.refusals ++ [⟨i, readHolder st.file, st.owner.map (·.2)⟩] } := by
  have kept : (st.setStage i (.raising d)).Recorded :=
    recorded.keep rfl rfl rfl rfl (held_setStage (by simp [refused]) (by simp))
  refine ⟨kept.held, kept.owner, kept.file, fun r member => ?_⟩
  rcases List.mem_append.mp member with early | late
  · exact recorded.refusals r early
  · rw [List.mem_singleton.mp late]
    constructor
    · intro h seen
      exact recorded.file h (Option.mem_filter_iff.mp seen).1
    · intro h stands
      obtain ⟨⟨j, h'⟩, owner, rfl⟩ := Option.map_eq_some_iff.mp stands
      obtain ⟨e, holds⟩ := recorded.owner j h' owner
      show readHolder st.file = readHolder (some h')
      rw [(recorded.held j e h' holds).1]

theorem Recorded.truncate {h : Holder} (recorded : st.Recorded) (linked : st.Linked w)
    (locked : st.stage i = .locked d h) :
    Recorded { st.setStage i (.truncated d h) with file := none } := by
  have unheld := linked.unheld (by rw [locked]; rfl) (by simp [locked])
  have held (j e : Nat) (h' : Holder) :
      (st.setStage i (.truncated d h)).stage j = .held e h' ↔ st.stage j = .held e h' :=
    held_setStage (by simp [locked]) (by simp) j e h'
  refine ⟨fun j e h' stage => absurd ((held j e h').mp stage) (unheld j e h'), ?_, by simp,
    recorded.refusals⟩
  intro j h' stands
  obtain ⟨e, stage⟩ := recorded.owner j h' stands
  exact absurd stage (unheld j e h')

theorem Recorded.stamp {h : Holder} (recorded : st.Recorded) (linked : st.Linked w)
    (truncated : st.stage i = .truncated d h) :
    Recorded { st.setStage i (.held d h) with
      file := some h
      owner := some (i, h)
      stamped := st.stamped ++ [h] } := by
  have unheld := linked.unheld (by rw [truncated]; rfl) (by simp [truncated])
  constructor
  · intro j e h' stage
    have stage : (st.setStage i (.held d h)).stage j = .held e h' := stage
    by_cases here : j = i
    · subst here
      rw [stage_setStage] at stage
      cases stage
      exact ⟨rfl, rfl⟩
    · rw [stage_setStage_of_ne _ _ here] at stage
      exact absurd stage (unheld j e h')
  · intro j h' stands
    cases stands
    exact ⟨d, stage_setStage st i _⟩
  · intro h' member
    cases member
    exact List.mem_append_right _ (List.mem_singleton_self h)
  · intro r member
    obtain ⟨seen, stands⟩ := recorded.refusals r member
    exact ⟨fun h' read => List.mem_append_left _ (seen h' read), stands⟩

theorem Recorded.release {h : Holder} (recorded : st.Recorded) (linked : st.Linked w)
    (holds : st.stage i = .held d h) :
    Recorded { st.setStage i (.unlocking d) with owner := none } := by
  refine ⟨fun j e h' stage => ?_, by simp, recorded.file, recorded.refusals⟩
  have stage : (st.setStage i (.unlocking d)).stage j = .held e h' := stage
  by_cases here : j = i
  · rw [here, stage_setStage] at stage
    cases stage
  · rw [stage_setStage_of_ne _ _ here] at stage
    exact absurd (linked.exclusive (by rw [stage]; rfl) (by rw [holds]; rfl)) here

/-- A dead process takes its own record's owner with it, and nobody else's. -/
theorem Recorded.crash (recorded : st.Recorded) {kernel : Flock Process} (p : Nat) :
    Recorded { st with
      kernel := kernel
      stage := fun i => if (w.args i).proc = p then .dead else st.stage i
      owner := st.owner.filter fun o => decide ((w.args o.1).proc ≠ p) } := by
  refine ⟨fun j e h stage => ?_, fun j h stands => ?_, recorded.file, recorded.refusals⟩
  · have stage : (if (w.args j).proc = p then .dead else st.stage j) = LockStage.held e h := stage
    split at stage
    · cases stage
    · rename_i alive
      obtain ⟨file, owner⟩ := recorded.held j e h stage
      exact ⟨file, Option.filter_eq_some_iff.mpr ⟨owner, decide_eq_true alive⟩⟩
  · obtain ⟨owner, alive⟩ := Option.filter_eq_some_iff.mp stands
    obtain ⟨e, stage⟩ := recorded.owner j h owner
    exact ⟨e, (if_neg (of_decide_eq_true alive)).trans stage⟩

theorem advance_recorded {now : ℚ} (linked : st.Linked w) (recorded : st.Recorded)
    (moved : st.advance w i now = some st') : st'.Recorded := by
  unfold advance at moved
  cases stage : st.stage i with
  | idle | held | dead => simp [stage] at moved
  | opened d =>
    simp only [stage] at moved
    cases taken : st.kernel.flock d with
    | some kernel =>
      simp only [taken, Option.some.injEq] at moved
      subst moved
      exact recorded.keep rfl rfl rfl rfl (held_setStage (by simp [stage]) (by simp))
    | none =>
      simp only [taken, Option.some.injEq] at moved
      subst moved
      exact recorded.keep rfl rfl rfl rfl (held_setStage (by simp [stage]) (by simp))
  | refused d =>
    simp only [stage, Option.some.injEq] at moved
    exact moved ▸ recorded.refuse stage
  | locked d h =>
    simp only [stage, Option.some.injEq] at moved
    exact moved ▸ recorded.truncate linked stage
  | truncated d h =>
    simp only [stage, Option.some.injEq] at moved
    exact moved ▸ recorded.stamp linked stage
  | raising d | unlocked d | unlocking d =>
    simp only [stage, Option.some.injEq] at moved
    subst moved
    exact recorded.keep rfl rfl rfl rfl (held_setStage (by simp [stage]) (by simp))

theorem step_recorded {l : LockLabel} (linked : st.Linked w) (recorded : st.Recorded)
    (legal : st.ownRelease l) (moved : st.step w l = some st') : st'.Recorded := by
  cases l with
  | acquire i =>
    unfold step at moved
    cases stage : st.stage i with
    | idle =>
      simp only [stage] at moved
      split at moved
      · cases moved
        exact recorded.keep rfl rfl rfl rfl (held_setStage (by simp [stage]) (by simp))
      · cases moved
        exact recorded
    | held d h =>
      simp only [stage, Option.some.injEq] at moved
      exact moved ▸ recorded
    | opened | refused | raising | locked | truncated | unlocking | unlocked | dead =>
      simp [stage] at moved
  | openFails i =>
    simp only [step, Option.ite_none_right_eq_some, Option.some.injEq] at moved
    exact moved.2 ▸ recorded
  | step i now => exact advance_recorded linked recorded moved
  | release i =>
    unfold step at moved
    cases stage : st.stage i with
    | held d h =>
      simp only [stage, Option.some.injEq] at moved
      exact moved ▸ recorded.release linked stage
    | idle =>
      simp only [stage, Option.some.injEq] at moved
      exact moved ▸ recorded
    | opened | refused | raising | locked | truncated | unlocking | unlocked | dead =>
      simp [stage] at moved
  | crash p =>
    cases moved
    exact recorded.crash p
  | fork p c =>
    simp only [step] at moved
    split at moved
    · cases moved
    · cases moved
      exact recorded.keep rfl rfl rfl rfl fun _ _ _ => Iff.rfl
  | exec c =>
    cases moved
    exact recorded.keep rfl rfl rfl rfl fun _ _ _ => Iff.rfl
  | inheritedRelease c d => exact legal.elim

theorem reachable_kept (reached : (machine w).Reachable ownRelease st) :
    st.Linked w ∧ st.Recorded := by
  refine reached.invariant (I := fun st => st.Linked w ∧ st.Recorded)
    ⟨new_linked w, new_recorded⟩ ?_
  rintro before after l ⟨linked, recorded⟩ legal moved
  exact ⟨step_linked linked legal moved, step_recorded linked recorded legal moved⟩

/-! ### The next owner -/

/-- Whatever has ended the others, an admitted lock that finds nobody alive with the descriptor
locked goes through. -/
theorem acquires (now : ℚ) (idle : st.stage i = .idle)
    (admitted : (w.args i).admitted w.dirOwner = true) (free : st.kernel.lock = none) :
    ∃ st', (machine w).run st [.acquire i, .step i now, .step i now, .step i now] = some st' ∧
      st'.stage i = .held st.kernel.fresh ((w.args i).holder now) ∧
      st'.file = some ((w.args i).holder now) := by
  have opened : (machine w).step st (.acquire i) =
      some { st.setStage i (.opened st.kernel.fresh) with
        kernel := st.kernel.openFile (.python (w.args i).proc) } := by
    show st.step w (.acquire i) = _
    simp only [step, idle, admitted, if_true]
  simp only [Machine.run, opened, Option.bind_some]
  simp only [machine, step, advance, setStage, Function.update_self, Flock.flock, Flock.openFile,
    free, true_or, if_true, Option.bind_some, Option.some.injEq, exists_eq_left', and_self]

/-- A child's release of the lock it inherited lets a second lock in beside its parent's. -/
example :
    let w : LockSetting := ⟨fun i => ⟨i, 1000, none, .control, true, fun _ => 120⟩, 0⟩
    ((machine w).run (machine w).start [.acquire 0, .step 0 5, .step 0 5, .step 0 5, .fork 0 7,
      .inheritedRelease 7 0, .acquire 1, .step 1 6]).any
      (fun st => (st.stage 0).locks && (st.stage 1).locks) = true := by
  decide +kernel

end Contention

end AiroFanuc.Driver
