import AiroFanuc.Rmi.Routing

/-! Every reply is the answer to its own request, every socket error comes from the waiter's
own socket, and no packet is dropped, as long as requests go out on settled sockets and no
deadline runs out while a match is handed over. -/

namespace AiroFanuc.Rmi

open Library

/-- Every parsed packet was returned, stashed, or is on its way. -/
def Accounted (st : State) : Prop :=
  st.journal.parsed.Perm
    (st.journal.returned.map Prod.snd ++ st.journal.stashed ++ st.inTransit)

namespace Accounted

variable {st t : State} {i : Label}

theorem same (acc : Accounted st) (parsed : t.journal.parsed = st.journal.parsed)
    (returned : t.journal.returned = st.journal.returned)
    (stashed : t.journal.stashed = st.journal.stashed) (hand : t.reader.hand = st.reader.hand)
    (waiter : t.atWaiter = st.atWaiter) : Accounted t := by
  unfold Accounted State.inTransit
  rw [parsed, returned, stashed, hand, waiter]
  exact acc

/-- The waiter's inbox was and stays out of sight. -/
theorem away (acc : Accounted st) (journal : t.journal.parsed = st.journal.parsed ∧
      t.journal.returned = st.journal.returned ∧ t.journal.stashed = st.journal.stashed)
    (reader : t.reader = st.reader) (before : st.atWaiter = []) (after : t.atWaiter = []) :
    Accounted t :=
  acc.same journal.1 journal.2.1 journal.2.2 (by rw [reader]) (after.trans before.symm)

theorem parses {p : Packet} {rest : List Packet} (acc : Accounted st)
    (reading : st.reader = .reading) :
    Accounted
      { st with
        rxbuf := rest
        reader := .parsed p
        journal := { st.journal with parsed := st.journal.parsed ++ [p] } } := by
  unfold Accounted State.inTransit at acc ⊢
  rw [reading] at acc
  show (st.journal.parsed ++ [p]).Perm (_ ++ ([p] ++ st.atWaiter))
  calc
    (st.journal.parsed ++ [p]).Perm ((_ ++ ([] ++ st.atWaiter)) ++ [p]) := acc.append_right [p]
    _ = st.journal.returned.map Prod.snd ++ st.journal.stashed ++ (st.atWaiter ++ [p]) := by
      rw [List.nil_append, List.append_assoc]
    List.Perm _ (_ ++ ([p] ++ st.atWaiter)) := List.Perm.append_left _ List.perm_append_comm

theorem stashes {p : Packet} {ring : List Packet} (acc : Accounted st)
    (hand : st.reader = .stashing p) :
    Accounted
      { st with
        reader := .top
        asyncPackets := ring
        journal := { st.journal with stashed := st.journal.stashed ++ [p] } } := by
  unfold Accounted State.inTransit at acc ⊢
  rw [hand] at acc
  show st.journal.parsed.Perm
    (st.journal.returned.map Prod.snd ++ (st.journal.stashed ++ [p]) ++ ([] ++ st.atWaiter))
  refine acc.trans (List.Perm.of_eq ?_)
  simp only [Reader.hand, List.nil_append, List.append_assoc]

theorem delivers {p : Packet} {w : Nat} (acc : Accounted st) (handed : Handed st)
    (hand : st.reader = .delivering p w) :
    Accounted
      { st with
        reader := .top
        inbox := Function.update st.inbox w (some (.reply p)) } := by
  obtain ⟨op, x, held, rfl, empty⟩ := handed p w hand
  have before : st.inTransit = [p] := by
    unfold State.inTransit
    rw [hand, State.atWaiter_waiting held, empty]
    rfl
  have after : State.inTransit
      { st with
        reader := .top
        inbox := Function.update st.inbox x.serial (some (.reply p)) } = [p] := by
    have put : Function.update st.inbox x.serial (some (.reply p)) x.serial = some (.reply p) :=
      Function.update_self ..
    show [] ++ Holder.packets _ st.holder = [p]
    rw [held]
    show Delivery.packets (Function.update st.inbox x.serial _ x.serial) = [p]
    rw [put]
    rfl
  unfold Accounted at acc ⊢
  rw [after]
  rw [before] at acc
  exact acc

theorem takes {op : Op} {x : Exchange} {delivery : Delivery} (acc : Accounted st)
    (held : st.holder = some ⟨op, .waiting x⟩)
    (put : st.inbox x.request.serial = some delivery) :
    Accounted
      { st with
        inbox := Function.update st.inbox x.request.serial none
        holder := some ⟨op, .took x delivery⟩
        journal := st.journal.took x delivery } := by
  have before : st.inTransit = st.reader.hand ++ Delivery.packets (some delivery) := by
    unfold State.inTransit
    rw [State.atWaiter_waiting held, Exchange.serial, put]
  unfold Accounted at acc ⊢
  rw [before] at acc
  cases delivery with
  | error s => exact acc
  | reply p =>
    show st.journal.parsed.Perm
      ((st.journal.returned ++ [(x, p)]).map Prod.snd ++ st.journal.stashed ++
        (st.reader.hand ++ []))
    refine acc.trans ?_
    rw [List.map_append, List.append_nil]
    show (_ ++ _ ++ (st.reader.hand ++ [p])).Perm (_ ++ [p] ++ _ ++ _)
    calc
      (st.journal.returned.map Prod.snd ++ st.journal.stashed ++ (st.reader.hand ++ [p]))
        = st.journal.returned.map Prod.snd ++ ((st.journal.stashed ++ st.reader.hand) ++ [p]) := by
          simp only [List.append_assoc]
      List.Perm _ (st.journal.returned.map Prod.snd ++
          ([p] ++ (st.journal.stashed ++ st.reader.hand))) :=
          List.Perm.append_left _ List.perm_append_comm
      _ = _ := by simp only [List.append_assoc]

/-- An error in an inbox is no packet. -/
theorem notifies {w s : Nat} (acc : Accounted st) (hand : st.reader = .notifying w)
    (empty : st.inbox w = none) :
    Accounted
      { st with
        reader := .top
        inbox := Function.update st.inbox w (some (.error s)) } := by
  have inbox : ∀ m, Delivery.packets (Function.update st.inbox w (some (.error s)) m) =
      Delivery.packets (st.inbox m) := by
    intro m
    by_cases here : m = w
    · subst here
      rw [Function.update_self, empty]
      rfl
    · rw [Function.update_of_ne here]
  refine acc.same rfl rfl rfl ?_ ?_
  · rw [hand]
    rfl
  · exact Holder.packets_congr inbox st.holder

theorem step (acc : Accounted st) (handed : Handed st)
    (attended : Attended (fun _ => true) st) (moved : Moves st i t) : Accounted t := by
  cases moved with
  | proceeds _ _ released unheld =>
    refine acc.away ⟨rfl, rfl, rfl⟩ rfl ?_ (State.atWaiter_of_unheld unheld)
    apply State.atWaiter_eq_nil
    intro op x held
    exact absurd (released _ held).1 nofun
  | opened op held | registered op command s held | numbered attempt s held
  | unsent op x held | uncalled op x held | cleared op x delivery held | abandoned op x held =>
    exact acc.away ⟨rfl, rfl, rfl⟩ rfl (State.atWaiter_of_stage held nofun)
      (State.atWaiter_of_stage rfl nofun)
  | called op x held | read attempt p held | reseeded pass p held =>
    exact acc.away ⟨rfl, rfl, rfl⟩ rfl (State.atWaiter_of_stage held nofun)
      (State.atWaiter_of_unheld unheld_none)
  | closed op held =>
    exact acc.away ⟨rfl, rfl, rfl⟩ rfl (State.atWaiter_of_stage held nofun)
      (State.atWaiter_of_unheld op.retried_unheld)
  | sent op x held alive =>
    have att := attended op _ x rfl ⟨held, rfl⟩
    refine acc.away ⟨rfl, rfl, rfl⟩ rfl (State.atWaiter_of_stage held nofun) ?_
    have unclaimed : st.claims (.sending x) x = [] := List.subperm_nil.mp att.claims
    have none : Delivery.tags (st.inbox x.serial) = [] := by
      have parts := List.append_eq_nil_iff.mp unclaimed
      exact (List.append_eq_nil_iff.mp parts.1).1
    show Delivery.packets (st.inbox x.serial) = []
    cases put : st.inbox x.serial with
    | none => rfl
    | some delivery =>
      cases delivery with
      | error s => rfl
      | reply p =>
        rw [put] at none
        cases none
  | took op x delivery held put => exact acc.takes held put
  | expired op x held empty =>
    refine acc.away ⟨rfl, rfl, rfl⟩ rfl ?_ (State.atWaiter_of_stage rfl nofun)
    rw [State.atWaiter_waiting held, Exchange.serial, empty]
    rfl
  | looked resting =>
    refine acc.same rfl rfl rfl ?_ rfl
    rw [resting]
    show (if st.sock.isSome then Reader.reading else Reader.top).hand = []
    split
    · rfl
    · rfl
  | parsed p rest reading => exact acc.parses reading
  | idled reading | faulted reading =>
    refine acc.same rfl rfl rfl ?_ rfl
    rw [reading]
    rfl
  | matched p pending hand =>
    refine acc.same rfl rfl rfl ?_ rfl
    rw [hand]
    rfl
  | orphaned p hand =>
    refine acc.same rfl rfl rfl ?_ rfl
    rw [hand]
    rfl
  | stashed p hand => exact acc.stashes hand
  | delivered p waiter hand => exact acc.delivers handed hand
  | dropped failing =>
    refine acc.same rfl rfl rfl ?_ rfl
    rw [failing]
    cases st.pending <;> rfl
  | notified waiter s hand cur empty => exact acc.notifies hand empty
  | wrote | polled | received | answered | pushed | lost =>
    exact acc.same rfl rfl rfl rfl rfl

end Accounted

/-- What the waiters got is their own. -/
structure Faithful (j : Journal) : Prop where
  returned : ∀ r ∈ j.returned, r.2.answers = some r.1.request.serial ∧ r.2.socket = r.1.socket
  failed : ∀ f ∈ j.failed, f.2 = f.1.socket

theorem Faithful.initial {next : Int} : Faithful (State.initial next).journal where
  returned _ member := absurd member List.not_mem_nil
  failed _ member := absurd member List.not_mem_nil

theorem Faithful.took {st : State} {x : Exchange} {delivery : Delivery} {stage : Stage}
    (faithful : Faithful st.journal) (att : Attends st stage x)
    (put : st.inbox x.serial = some delivery) :
    Faithful (st.journal.took x delivery) := by
  cases delivery with
  | reply p =>
    refine ⟨?_, faithful.failed⟩
    intro r member
    rcases List.mem_append.mp member with old | new
    · exact faithful.returned r old
    · rw [List.mem_singleton] at new
      subst new
      have own : (p.answers, p.socket) = (some x.serial, x.socket) := att.reply_own put
      exact ⟨congrArg Prod.fst own, congrArg Prod.snd own⟩
  | error s =>
    refine ⟨faithful.returned, ?_⟩
    intro f member
    rcases List.mem_append.mp member with old | new
    · exact faithful.failed f old
    · rw [List.mem_singleton] at new
      subst new
      exact att.error s put

theorem faithful_step {st t : State} {i : Label} (faithful : Faithful st.journal)
    (attended : Attended (fun _ => true) st) (moved : Moves st i t) : Faithful t.journal := by
  cases moved with
  | took op x delivery held put =>
    exact faithful.took (attended op _ x rfl ⟨held, rfl⟩) put
  | proceeds | opened | registered | numbered | sent | unsent | called | uncalled | expired
  | cleared | abandoned | read | reseeded | closed | wrote | polled | looked | received | parsed
  | idled | faulted | matched | orphaned | stashed | delivered | dropped | notified | answered
  | pushed | lost => exact ⟨faithful.returned, faithful.failed⟩

/-- Requests go out on settled sockets, and no deadline runs out across a match. -/
def State.Correlating (st : State) (i : Label) : Prop :=
  st.Orderly (fun _ => true) i ∧ st.Punctual i

instance (st : State) (i : Label) : Decidable (st.Correlating i) :=
  inferInstanceAs (Decidable (_ ∧ _))

/-- All that holds in every state of a correlating run. -/
structure Correlated (st : State) : Prop where
  owned : Owned st
  numbered : Numbered st
  attended : Attended (fun _ => true) st
  unfailed : Unfailed st
  handed : Handed st
  distinct : Distinct st
  accounted : Accounted st
  faithful : Faithful st.journal

theorem correlated_initial (next : Int) : Correlated (State.initial next) where
  owned := .of_empty rfl
  numbered := .initial next
  attended _ _ _ _ waits := absurd waits (State.not_waits_of_unheld unheld_none)
  unfailed := .of_empty rfl
  handed := .of_reader rfl (by exact fun _ _ => nofun)
  distinct := .initial next
  accounted := List.Perm.refl _
  faithful := .initial

theorem correlated_step {st t : State} {i : Label} (inv : Correlated st)
    (legal : st.Correlating i) (moved : st.step i = some t) : Correlated t := by
  have move := State.step_moves moved
  exact {
    owned := owned_step inv.owned move
    numbered := inv.numbered.step inv.owned move
    attended := attended_step inv.numbered inv.owned inv.attended legal.1 move
    unfailed := inv.unfailed.step inv.owned inv.numbered move
    handed := inv.handed.step inv.owned inv.unfailed inv.attended legal.2 move
    distinct := inv.distinct.step move
    accounted := inv.accounted.step inv.handed inv.attended move
    faithful := faithful_step inv.faithful inv.attended move }

/-- In every correlating run a reply is the answer to its own request on its own socket, a
waiter is failed by its own socket, and each parsed packet has been returned once, stashed
once, or is still on its way. -/
theorem replies_correlate {next : Int} {st : State}
    (reached : (rmi next).Reachable State.Correlating st) :
    (∀ r ∈ st.journal.returned, r.2.answers = some r.1.request.serial ∧
      r.2.socket = r.1.socket) ∧
    (∀ f ∈ st.journal.failed, f.2 = f.1.socket) ∧
    st.journal.parsed.Nodup ∧
    st.journal.parsed.Perm
      (st.journal.returned.map Prod.snd ++ st.journal.stashed ++ st.inTransit) ∧
    st.asyncPackets.IsSuffix st.journal.stashed := by
  have inv : Correlated st := reached.invariant (correlated_initial next)
    fun _ _ _ inv legal moved => correlated_step inv legal moved
  refine ⟨inv.faithful.returned, inv.faithful.failed, ?_, inv.accounted, inv.distinct.ring⟩
  exact (List.nodup_append.mp (List.nodup_append.mp (inv.distinct.nodup 0)).1).1

/-- A socket is opened for the ladder, and its first command is sent. -/
def bringup : List Label :=
  [.acquire .init, .ensureOpen, .openSession .opened, .register, .sendall true]

/-- The reader takes the oldest packet of the session socket to its end. -/
def readOne (end_ : Label) : List Label := [.look, .receive 1, .parse, .dispatch, end_]

theorem replies_correlate_ladder : ∃ st : State,
    (rmi 5).Reachable State.Correlating st ∧ st.journal.returned.length = 1 ∧
    (∀ r ∈ st.journal.returned, r.2.answers = some r.1.request.serial ∧
      r.2.socket = r.1.socket) := by
  obtain ⟨st, reached, tested⟩ := Machine.reachable_of_test (rmi 5) State.Correlating
    (bringup ++ [.answer 0 none] ++ readOne .deliver ++ [.take])
    (fun st : State => decide (st.journal.returned.length = 1)) (by decide +kernel)
    (by decide +kernel)
  exact ⟨st, reached, of_decide_eq_true tested, (replies_correlate reached).1⟩

/-- The ladder's first `FRC_GetStatus` and its `FRC_Reset` run out of time, and the second
`FRC_GetStatus` is given the late answer to the first. -/
theorem late_answer_is_returned : ∃ st : State, (rmi 5).Reachable (fun _ _ => True) st ∧
    ∃ r ∈ st.journal.returned, r.2.answers ≠ some r.1.request.serial := by
  obtain ⟨st, reached, tested⟩ := Machine.reachable_of_run (rmi 5)
    (bringup ++ [.expire, .clear, .conclude, .register, .sendall true, .expire, .clear, .conclude,
      .register, .sendall true, .answer 0 none] ++ readOne .deliver ++ [.take])
    (fun st : State => decide (∃ r ∈ st.journal.returned,
      r.2.answers ≠ some r.1.request.serial))
    (by decide +kernel)
  exact ⟨st, reached, of_decide_eq_true tested⟩

end AiroFanuc.Rmi
