import AiroFanuc.Driver.BringupRules

/-! The launcher of the gripper's dispatcher is called at most once in a bring-up. -/

namespace AiroFanuc.Driver

open RtCore Library

namespace World

/-- What only the fork of the launcher and the start of an attempt change. -/
structure Marks where
  grprunForked : Bool
  attempt : Nat
  probes : List (Nat × Bool)
  launches : List Nat

def marks (w : World) : Marks := ⟨w.grprunForked, w.attempt, w.probes, w.launches⟩

end World

/-! ### What a probe sees -/

/-- The session is open, and the requests from this one on are answered without an error. -/
structure World.Linked (answers : Nat → Answer) (k : Nat) (w : World) : Prop where
  served : w.answers = answers
  next : w.asked = k
  opened : w.sock = true
  replied : ∀ n, k ≤ n → (answers n).lost = false ∧ (answers n).link = .replied ∧
    ((answers n).reply "ErrorID").isNone = true

/-- What a reply gives for the trigger register, compared with zero. -/
def Answer.trigger (a : Answer) : Except Exc Bool :=
  if (a.reply "RegisterValue").isNone then .error (.rmiError none)
  else (a.reply "RegisterValue").floatIsZero

/-- One of the polls reads a clear trigger register, and those before it read a set one. -/
def SeesClear (answers : Nat → Answer) (first polls : Nat) : Prop :=
  ∃ j < polls, (answers (first + j)).trigger = .ok true ∧
    ∀ i < j, (answers (first + i)).trigger = .ok false

section Probe

variable {answers : Nat → Answer} {k : Nat}

theorem sees_clear_none : ¬SeesClear answers k 0 := by
  rintro ⟨j, lt, -⟩
  exact Nat.not_lt_zero j lt

theorem sees_clear_now {polls : Nat} (clear : (answers k).trigger = .ok true) :
    SeesClear answers k (polls + 1) :=
  ⟨0, Nat.succ_pos polls, clear, fun _ lt => absurd lt (Nat.not_lt_zero _)⟩

theorem sees_clear_later {polls : Nat} (set : (answers k).trigger = .ok false) :
    SeesClear answers k (polls + 1) ↔ SeesClear answers (k + 1) polls := by
  constructor
  · rintro ⟨j, lt, clear, before⟩
    cases j with
    | zero => cases set.symm.trans clear
    | succ j =>
      refine ⟨j, Nat.lt_of_succ_lt_succ lt, ?_, ?_⟩
      · rw [Nat.succ_add_eq_add_succ]
        exact clear
      · intro i less
        rw [Nat.succ_add_eq_add_succ]
        exact before (i + 1) (Nat.succ_lt_succ less)
  · rintro ⟨j, lt, clear, before⟩
    rw [Nat.succ_add_eq_add_succ] at clear
    refine ⟨j + 1, Nat.succ_lt_succ lt, clear, ?_⟩
    intro i less
    cases i with
    | zero => exact set
    | succ i =>
      rw [← Nat.succ_add_eq_add_succ]
      exact before i (Nat.lt_of_succ_lt_succ less)

/-- A poll that raises ends the probe. -/
theorem sees_clear_raised {polls : Nat} {e : Exc} (raised : (answers k).trigger = .error e) :
    ¬SeesClear answers k (polls + 1) := by
  rintro ⟨j, -, clear, before⟩
  cases j with
  | zero => cases raised.symm.trans clear
  | succ j => cases raised.symm.trans (before 0 (Nat.succ_pos j))

theorem World.Linked.on {w w' : World} (linked : w.Linked answers k)
    (served : w'.answers = w.answers) (next : w'.asked = k + 1) (opened : w'.sock = w.sock) :
    w'.Linked answers (k + 1) where
  served := served.trans linked.served
  next := next
  opened := opened.trans linked.opened
  replied n le := linked.replied n (Nat.le_of_succ_le le)

theorem ask_linked {E : Exc → World → Prop} (request : Request) :
    Procedure.Triple (World.Linked answers k) (ask request)
      (fun a w => a = answers k ∧ w.Linked answers (k + 1)) E := by
  intro w linked
  have passed (w : World) (events : List CoreEvent) : (w.pass events).answers = w.answers ∧
      (w.pass events).asked = w.asked ∧ (w.pass events).sock = w.sock := by
    unfold World.pass
    split <;> exact ⟨rfl, rfl, rfl⟩
  constructor
  · exact (congrFun linked.served _).trans (congrArg answers linked.next)
  · refine linked.on (passed _ _).1 ?_ (passed _ _).2.2
    exact (passed _ _).2.1.trans (congrArg (· + 1) linked.next)

/-- An exchange on an open session comes back with the reply at once. -/
theorem exchange_linked (request : Request) :
    Procedure.Triple (World.Linked answers k) (exchange request)
      (fun reply w => reply = (answers k).reply ∧ w.Linked answers (k + 1))
      fun _ _ => False := by
  apply Procedure.Triple.catching (F := fun _ _ => False) ?_ fun _ _ => False.elim
  apply Procedure.triple_at
  intro before linked
  obtain ⟨kept, replied, plain⟩ := linked.replied k (Nat.le_refl k)
  have opened {w : World} (later : w.Linked answers (k + 1)) :
      w.sock = true ∧ w.Linked answers (k + 1) := ⟨later.opened, later⟩
  apply ((ask_linked request).before fun w same => same ▸ linked).bind_eq
  apply Procedure.Triple.bind_eq (v := ()) (M := World.Linked answers (k + 1))
  · rw [drop, kept]
    exact Procedure.triple_done fun _ later => ⟨rfl, later⟩
  · apply Procedure.Triple.bind_eq (v := ()) (M := World.Linked answers (k + 1))
    · apply Procedure.Triple.bind_eq (Procedure.triple_read fun _ => opened)
      exact Procedure.triple_done fun _ later => ⟨rfl, later⟩
    · apply Procedure.Triple.bind_eq (Procedure.triple_read fun _ => opened)
      rw [if_neg (by rw [replied]; decide), errorId, if_pos plain]
      exact Procedure.triple_done fun _ later => ⟨rfl, later⟩

/-- The polls of a probe on an open session. -/
theorem pollTrigger_sees (polls : Nat) :
    Procedure.Triple (World.Linked answers k) (pollTrigger polls)
      (fun alive _ => alive = true ↔ SeesClear answers k polls)
      fun _ _ => ¬SeesClear answers k polls := by
  induction polls generalizing k with
  | zero => exact Procedure.triple_done fun _ _ => iff_of_false Bool.false_ne_true sees_clear_none
  | succ polls ih =>
    have poll : Procedure.Triple (World.Linked answers k) readRegisterIsZero
        (fun zero w => (answers k).trigger = .ok zero ∧ w.Linked answers (k + 1))
        fun e _ => (answers k).trigger = .error e := by
      apply ((exchange_linked .readRegister).weaken (fun _ => id) (fun _ _ => id)
        fun _ _ => False.elim).bind_eq
      unfold Answer.trigger
      split
      · exact Procedure.triple_raise fun _ _ => rfl
      · cases (answers k).reply "RegisterValue" |>.floatIsZero with
        | ok zero => exact Procedure.triple_done fun _ later => ⟨rfl, later⟩
        | error e =>
          apply Procedure.Triple.bind (Q := fun _ _ => True)
          · exact Procedure.triple_modify fun _ _ => trivial
          · exact fun _ => Procedure.triple_raise fun _ _ => rfl
    have read : Procedure.Triple (World.Linked answers k) (onLink (do
        let zero ← readRegisterIsZero
        pure (some zero)) (pure none))
        (fun clear w => clear.elim (∃ e, (answers k).trigger = .error e) fun zero =>
          (answers k).trigger = .ok zero ∧ w.Linked answers (k + 1))
        fun e _ => (answers k).trigger = .error e := by
      apply Procedure.Triple.catching (F := fun e _ => (answers k).trigger = .error e)
      · apply poll.bind
        exact fun zero => Procedure.triple_done fun _ => id
      · intro e
        split
        · exact Procedure.triple_done fun _ raised => ⟨e, raised⟩
        · exact Procedure.triple_raise fun _ => id
    apply (read.weaken (fun _ => id) (fun _ _ => id) fun _ _ => sees_clear_raised).bind
    intro clear
    rcases clear with _ | _ | _
    · apply Procedure.triple_done
      rintro w ⟨e, raised⟩
      exact iff_of_false Bool.false_ne_true (sees_clear_raised raised)
    · apply Procedure.triple_at
      rintro w ⟨set, later⟩
      apply ih.weaken
      · rintro _ rfl
        exact later
      · exact fun alive _ sees => sees.trans (sees_clear_later set).symm
      · exact fun _ _ unseen sees => unseen ((sees_clear_later set).mp sees)
    · apply Procedure.triple_done
      rintro w ⟨clear, -⟩
      exact iff_of_true rfl (sees_clear_now clear)

/-- A probe finds the dispatcher alive exactly where a poll within its time reads a clear trigger
register, with a set one read at every poll before. -/
theorem gripdispAlive_sees {w : World} (linked : w.Linked answers k) :
    (gripdispAlive.run w).1 = .ok true ↔
      SeesClear answers (k + 3) (answers (k + 3)).polls := by
  have wrote : Procedure.Triple (World.Linked answers k) (onLink (do
      let _ ← exchange .writeRegister
      let _ ← exchange .writeRegister
      let _ ← exchange .writeRegister
      pure true) (pure false))
      (fun wrote w => wrote = true ∧ w.Linked answers (k + 3))
      fun _ _ => ¬SeesClear answers (k + 3) (answers (k + 3)).polls := by
    apply Procedure.Triple.catching (F := fun _ _ => False) ?_ fun _ _ => False.elim
    apply (exchange_linked .writeRegister).bind_eq
    apply (exchange_linked .writeRegister).bind_eq
    apply (exchange_linked .writeRegister).bind_eq
    exact Procedure.triple_done fun _ later => ⟨rfl, later⟩
  have probe : Procedure.Triple (World.Linked answers k) gripdispAlive
      (fun alive _ => alive = true ↔ SeesClear answers (k + 3) (answers (k + 3)).polls)
      fun _ _ => ¬SeesClear answers (k + 3) (answers (k + 3)).polls := by
    apply wrote.bind_eq
    apply Procedure.Triple.bind_eq (v := (answers (k + 3)).polls)
    · apply Procedure.triple_read
      intro w later
      refine ⟨?_, later⟩
      rw [later.served, later.next]
    · exact pollTrigger_sees _
  have ends := probe w linked
  revert ends
  rcases gripdispAlive.run w with ⟨e | alive, after⟩
  · exact fun unseen => iff_of_false nofun unseen
  · exact fun sees => Iff.trans ⟨fun ended => by cases ended; rfl, congrArg Except.ok⟩ sees

end Probe

namespace World.Marks

variable (policy : BringupPolicy)

/-- The launcher and the latch, at any moment of a bring-up. -/
structure Sound (m : World.Marks) : Prop where
  once : m.launches.length ≤ 1
  unforked : m.grprunForked = false → m.launches = []
  begun : ∀ p ∈ m.probes, p.1 ≤ m.attempt
  probed : ∀ a ∈ m.launches, (a, false) ∈ m.probes ∧ (a, true) ∉ m.probes
  known : m.grprunForked = true → m.launches ≠ [] ∨ ∃ a, (a, true) ∈ m.probes
  enabled : policy.enableGripper = false → m.launches = []

/-- This attempt has not probed yet. -/
def Fresh (m : World.Marks) : Prop :=
  m.grprunForked = false → ∀ p ∈ m.probes, p.1 < m.attempt

/-- The latch is set where the gripper is enabled. -/
def Started (m : World.Marks) : Prop :=
  m.Sound policy ∧ (policy.enableGripper = true → m.grprunForked = true)

/-- This attempt's probe did not see the trigger register cleared. -/
structure Absent (m : World.Marks) : Prop where
  sound : m.Sound policy
  unforked : m.grprunForked = false
  enabled : policy.enableGripper = true
  probed : (m.attempt, false) ∈ m.probes ∧ (m.attempt, true) ∉ m.probes

variable {policy}

theorem Sound.next {m : World.Marks} (sound : m.Sound policy) :
    Sound policy { m with attempt := m.attempt + 1 } ∧
      Fresh { m with attempt := m.attempt + 1 } := by
  constructor
  · exact { sound with begun := fun p member => (sound.begun p member).trans (Nat.le_succ _) }
  · intro _ p member
    exact Nat.lt_succ_of_le (sound.begun p member)

/-- A probe of an attempt that had none. -/
theorem Sound.probes {m : World.Marks} (sound : m.Sound policy)
    (unforked : m.grprunForked = false) (enabled : policy.enableGripper = true) (fresh : m.Fresh)
    (alive : Bool) :
    if alive then
      Sound policy { m with probes := m.probes ++ [(m.attempt, true)], grprunForked := true }
    else Absent policy { m with probes := m.probes ++ [(m.attempt, false)] } := by
  have empty := sound.unforked unforked
  have begun (b : Bool) : ∀ p ∈ m.probes ++ [(m.attempt, b)], p.1 ≤ m.attempt := by
    intro p member
    rcases List.mem_append.mp member with old | new
    · exact sound.begun p old
    · rw [List.mem_singleton.mp new]
  have nowhere (probes : List (Nat × Bool)) :
      ∀ a ∈ m.launches, (a, false) ∈ probes ∧ (a, true) ∉ probes := by
    rw [empty]
    exact fun a member => absurd member List.not_mem_nil
  cases alive with
  | true =>
    exact
      { once := sound.once
        unforked := fun forked => absurd forked nofun
        begun := begun true
        probed := nowhere _
        known := fun _ => .inr ⟨m.attempt, List.mem_append_right _ List.mem_cons_self⟩
        enabled := sound.enabled }
  | false =>
    refine ⟨?_, unforked, enabled, List.mem_append_right _ List.mem_cons_self, ?_⟩
    · exact
        { once := sound.once
          unforked := sound.unforked
          begun := begun false
          probed := nowhere _
          known := fun forked => absurd (unforked.symm.trans forked) Bool.false_ne_true
          enabled := sound.enabled }
    · intro member
      rcases List.mem_append.mp member with old | new
      · exact absurd (fresh unforked _ old) (Nat.lt_irrefl _)
      · cases List.mem_singleton.mp new

/-- The launcher is delivered and the latch is set behind it. -/
theorem Absent.launches {m : World.Marks} (absent : m.Absent policy) :
    Sound policy { m with launches := m.launches ++ [m.attempt], grprunForked := true } where
  once := by
    rw [absent.sound.unforked absent.unforked]
    exact Nat.le_refl 1
  unforked forked := absurd forked nofun
  begun := absent.sound.begun
  probed := by
    intro a member
    rw [absent.sound.unforked absent.unforked] at member
    rw [List.mem_singleton.mp member]
    exact absent.probed
  known _ := .inl (List.append_ne_nil_of_right_ne_nil _ nofun)
  enabled disabled := absurd (absent.enabled.symm.trans disabled) nofun

end World.Marks

section

variable {policy : BringupPolicy}

/-- An exchange leaves the marks alone, however it ends. -/
theorem marks_kept {α : Type} {x : Bringup α} (kept : Procedure.Keeps World.outside x)
    (P : World.Marks → Prop) :
    Procedure.Triple (fun w => P w.marks) x (fun _ w => P w.marks) fun _ w => P w.marks :=
  kept.triple fun w => P w.marks

theorem callOnce_marks (m : World.Marks) :
    Procedure.Triple (fun w => w.marks = m) (callOnce .launcher)
      (fun _ w => w.marks = { m with launches := m.launches ++ [m.attempt] })
      fun _ w => w.marks = m := by
  apply Procedure.Triple.bind (marks_kept (keepsOutside.ask _) (· = m))
  intro a
  apply Procedure.Triple.bind (marks_kept (keepsOutside.drop a) (· = m))
  intro _
  apply Procedure.Triple.bind (marks_kept keepsOutside.ensureOpen (· = m))
  intro _
  split
  · apply Procedure.triple_modify
    rintro w rfl
    rfl
  · exact Procedure.triple_raise fun _ => id

theorem programCall_marks (m : World.Marks) :
    Procedure.Triple (fun w => w.marks = m) (programCall .launcher)
      (fun _ w => w.marks = { m with launches := m.launches ++ [m.attempt] })
      fun _ w => w.marks = m := by
  apply (callOnce_marks m).catching
  intro e
  split
  · apply Procedure.Triple.bind (marks_kept (keepsOutside.setSock false) (· = m))
    intro _
    apply (callOnce_marks m).catching
    intro e
    split
    · apply Procedure.Triple.bind (marks_kept (keepsOutside.setSock false) (· = m))
      intro _
      exact Procedure.triple_raise fun _ => id
    · exact Procedure.triple_raise fun _ => id
  · exact Procedure.triple_raise fun _ => id

/-- The latch is set behind the delivery, before anything else can go wrong. -/
theorem launch_marks :
    Procedure.Triple (fun w => w.marks.Absent policy)
      (do
        programCall .launcher
        Procedure.modify fun w => { w with grprunForked := true }
        reset
        rmiStop
        reconnectRmi (reconnectTries - 1))
      (fun _ w => w.marks.Started policy) fun _ w => w.marks.Sound policy := by
  apply Procedure.triple_at
  intro before absent
  have flush {α : Type} {x : Bringup α} (kept : Procedure.Keeps World.outside x) :
      Procedure.Triple (fun w => w.marks.Started policy) x (fun _ w => w.marks.Started policy)
        fun _ w => w.marks.Sound policy := by
    apply (marks_kept kept fun m => m.Started policy).weaken (fun _ => id) (fun _ _ => id)
    exact fun _ _ started => started.1
  have call : Procedure.Triple (· = before) (programCall .launcher)
      (fun _ w => w.marks =
        { before.marks with launches := before.marks.launches ++ [before.marks.attempt] })
      fun _ w => w.marks.Sound policy := by
    apply (programCall_marks before.marks).weaken
    · rintro _ rfl
      rfl
    · exact fun _ _ => id
    · intro _ w same
      rw [same]
      exact absent.sound
  apply call.bind
  intro _
  apply Procedure.Triple.bind (Q := fun _ w => w.marks.Started policy)
  · apply Procedure.triple_modify
    intro w same
    have latched : ({ w with grprunForked := true } : World).marks =
        { w.marks with grprunForked := true } := rfl
    constructor
    · rw [latched, same]
      exact absent.launches
    · exact fun _ => rfl
  · intro _
    apply (flush (keepsOutside.exchanged _)).bind
    intro _
    apply (flush keepsOutside.rmiStop).bind
    intro _
    exact flush (keepsOutside.reconnectRmi _)

theorem forkGrprun_marks (enabled : policy.enableGripper = true) :
    Procedure.Triple
      (fun w => w.marks.Sound policy ∧ w.marks.Fresh ∧ w.grprunForked = false) forkGrprun
      (fun _ w => w.marks.Started policy) fun _ w => w.marks.Sound policy := by
  apply Procedure.Triple.bind (Q := fun _ w => w.marks.Sound policy ∧ w.marks.Fresh ∧
    w.grprunForked = false)
  · apply (marks_kept keepsOutside.gripdispAlive
      fun m => m.Sound policy ∧ m.Fresh ∧ m.grprunForked = false).weaken
    · exact fun _ => id
    · exact fun _ _ => id
    · exact fun _ _ sound => sound.1
  · intro alive
    apply Procedure.Triple.bind (Q := fun _ w =>
      if alive then World.Marks.Sound policy { w.marks with grprunForked := true }
      else w.marks.Absent policy)
    · apply Procedure.triple_modify
      rintro w ⟨sound, fresh, unforked⟩
      have probed := sound.probes unforked enabled fresh alive
      cases alive <;> exact probed
    · intro _
      cases alive with
      | true =>
        apply Procedure.triple_modify
        exact fun w sound => ⟨sound, fun _ => rfl⟩
      | false => exact launch_marks

theorem startDispatcher_marks :
    Procedure.Triple (fun w => w.marks.Sound policy ∧ w.marks.Fresh) (startDispatcher policy)
      (fun _ w => w.marks.Started policy) fun _ w => w.marks.Sound policy := by
  apply Procedure.Triple.bind
    (Q := fun forked w => w.marks.Sound policy ∧ w.marks.Fresh ∧ w.grprunForked = forked)
  · apply Procedure.triple_read
    exact fun w sound => ⟨sound.1, sound.2, rfl⟩
  · intro forked
    split
    case isTrue forks =>
      simp only [Bool.and_eq_true, Bool.not_eq_true'] at forks
      obtain ⟨enabled, rfl⟩ := forks
      exact forkGrprun_marks enabled
    case isFalse stays =>
      apply Procedure.triple_done
      rintro w ⟨sound, -, rfl⟩
      refine ⟨sound, ?_⟩
      intro enabled
      rw [enabled, Bool.true_and, Bool.not_eq_true, Bool.not_eq_false'] at stays
      exact stays

theorem keeps_marks {α : Type} {x : Bringup α} (kept : Procedure.Keeps World.outside x) :
    Procedure.Keeps World.marks x := by
  intro w
  have same := congrArg World.marks (kept w)
  exact same

theorem bringupOnce_marks :
    Procedure.Triple (fun w => w.marks.Sound policy ∧ w.marks.Fresh) (bringupOnce policy)
      (fun _ w => w.marks.Started policy) fun _ w => w.marks.Sound policy := by
  have early {x : Bringup Unit} (kept : Procedure.Keeps World.marks x) :
      Procedure.Triple (fun w => w.marks.Sound policy ∧ w.marks.Fresh) x
        (fun _ w => w.marks.Sound policy ∧ w.marks.Fresh) fun _ w => w.marks.Sound policy := by
    apply (kept.triple fun m => m.Sound policy ∧ m.Fresh).weaken (fun _ => id) (fun _ _ => id)
    exact fun _ _ sound => sound.1
  have late {x : Bringup Unit} (kept : Procedure.Keeps World.marks x) :
      Procedure.Triple (fun w => w.marks.Started policy) x (fun _ w => w.marks.Started policy)
        fun _ w => w.marks.Sound policy := by
    apply (kept.triple fun m => m.Started policy).weaken (fun _ => id) (fun _ _ => id)
    exact fun _ _ started => started.1
  have set (state : LifecycleState) : Procedure.Keeps World.marks (setState policy state) :=
    Procedure.keeps_modify fun _ => rfl
  have launch : Procedure.Triple (fun w => w.marks.Sound policy ∧ w.marks.Fresh)
      (launchTp policy) (fun _ w => w.marks.Started policy) fun _ w => w.marks.Sound policy := by
    apply (early (keeps_marks (keepsOutside.exchanged _))).bind
    intro _
    apply startDispatcher_marks.bind
    intro _
    apply (late (keeps_marks keepsOutside.reseed)).bind
    intro _
    exact late (keeps_marks (keepsOutside.retrying keepsOutside.callOnce))
  apply (early (set _)).bind
  intro _
  apply (early (keeps_marks (keepsOutside.connectRmi policy))).bind
  intro _
  apply (early (set _)).bind
  intro _
  apply launch.bind
  intro _
  apply (late (set _)).bind
  intro _
  apply (late (keeps_marks (keepsOutside.handshakeSm coreRecover_outside policy))).bind
  intro _
  exact late (set _)

theorem bringupAttempts_marks (attempts : Nat) :
    Procedure.Triple (fun w => w.marks.Sound policy) (bringupAttempts policy attempts)
      (fun _ w => w.marks.Started policy) fun _ w => w.marks.Sound policy := by
  have kept {α : Type} {x : Bringup α} (kept : Procedure.Keeps World.outside x) :=
    marks_kept kept fun m => m.Sound policy
  induction attempts with
  | zero =>
    apply Procedure.Triple.bind (Q := fun _ w => w.marks.Sound policy)
    · exact Procedure.triple_modify fun _ => id
    · exact fun _ => Procedure.triple_raise fun _ => id
  | succ more ih =>
    apply Procedure.Triple.bind (Q := fun _ w => w.marks.Sound policy ∧ w.marks.Fresh)
    · exact Procedure.triple_modify fun w sound => sound.next
    · intro _
      -- what the attempt raises is kept for the handler behind it
      have attempt : Procedure.Triple (fun w => w.marks.Sound policy ∧ w.marks.Fresh)
          ((attempted policy).catching fun e => pure (some e))
          (fun raised w => raised.elim (w.marks.Started policy) fun _ => w.marks.Sound policy)
          fun _ w => w.marks.Sound policy := by
        apply Procedure.Triple.catching (F := fun _ w => w.marks.Sound policy)
        · apply bringupOnce_marks.bind
          exact fun _ => Procedure.triple_done fun _ => id
        · exact fun e => Procedure.triple_done fun _ => id
      apply attempt.bind
      intro raised
      cases raised with
      | none => exact Procedure.triple_done fun _ => id
      | some e =>
        show Procedure.Triple (fun w : World => w.marks.Sound policy)
          (if e = .preflight then _ else if e.retried then _ else _) _ _
        split
        · apply (kept keepsOutside.teardownPartial).bind
          exact fun _ => Procedure.triple_raise fun _ => id
        · split
          · apply (kept keepsOutside.triage).bind
            intro _
            apply (kept keepsOutside.teardownPartial).bind
            exact fun _ => ih
          · exact Procedure.triple_raise fun _ => id

/-- Within one `bringup()` the launcher is delivered at most once, behind a probe of the same
attempt that did not see the trigger register cleared. -/
theorem grprun_forked_at_most_once (policy : BringupPolicy) (w : World) :
    let ended := (bringup policy).run w
    ended.2.launches.length ≤ 1 ∧
    (∀ a ∈ ended.2.launches, (a, false) ∈ ended.2.probes ∧ (a, true) ∉ ended.2.probes) ∧
    (policy.enableGripper = false → ended.2.launches = []) ∧
    (ended.1 = .ok () → policy.enableGripper = true →
      ended.2.launches ≠ [] ∨ ∃ a, (a, true) ∈ ended.2.probes) := by
  have valid : Procedure.Triple (fun _ => True) (bringup policy)
      (fun _ w => w.marks.Started policy) fun _ w => w.marks.Sound policy := by
    apply Procedure.Triple.bind (Q := fun _ w => w.marks.Sound policy)
    · apply Procedure.triple_modify
      intro w _
      exact
        { once := Nat.zero_le 1
          unforked := fun _ => rfl
          begun := fun p member => absurd member List.not_mem_nil
          probed := fun a member => absurd member List.not_mem_nil
          known := fun forked => absurd forked Bool.false_ne_true
          enabled := fun _ => rfl }
    · exact fun _ => bringupAttempts_marks policy.connectRetries
  intro ended
  have ends : Procedure.Ends (fun _ w => w.marks.Started policy)
      (fun _ w => w.marks.Sound policy) ended := valid w trivial
  have sound : ended.2.marks.Sound policy := by
    revert ends
    rcases ended with ⟨e | _, after⟩
    · exact id
    · exact And.left
  refine ⟨sound.once, sound.probed, sound.enabled, ?_⟩
  intro succeeded enabled
  have started : ended.2.marks.Started policy := by
    revert ends
    generalize ended = pair at succeeded ⊢
    rcases pair with ⟨e | _, after⟩
    · cases succeeded
    · exact id
  exact sound.known (started.2 enabled)

end

/-- The core does not get ready in the first attempt, and the second one forks no more. -/
theorem grprun_forked_at_most_once_retried :
    let ended := (bringup .shipped).run (.fresh [(23, { healthy with between := [] })])
    (ended.1 = .ok () ∧ ended.2.attempt = 2 ∧ ended.2.launches = [1]) ∧
    ended.2.launches.length ≤ 1 ∧
    (∀ a ∈ ended.2.launches, (a, false) ∈ ended.2.probes ∧ (a, true) ∉ ended.2.probes) ∧
    (ended.2.launches ≠ [] ∨ ∃ a, (a, true) ∈ ended.2.probes) := by
  have forked := grprun_forked_at_most_once .shipped (.fresh [(23, { healthy with between := [] })])
  have succeeded : ((bringup .shipped).run (.fresh [(23, { healthy with between := [] })])).1 =
    .ok () := by decide +kernel
  exact ⟨by decide +kernel, forked.1, forked.2.1, forked.2.2.2 succeeded rfl⟩

end AiroFanuc.Driver
