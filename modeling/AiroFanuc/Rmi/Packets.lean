import AiroFanuc.Rmi.Claims

/-! The packets under every schedule: no two are the same, and the ring ends with the last one
stashed. -/

namespace AiroFanuc.Rmi

namespace State

/-- The packets parsed so far, those buffered, and those on a socket's wire. -/
def seen (st : State) (s : Nat) : List Packet :=
  st.journal.parsed ++ st.rxbuf ++ (st.conns s).wire

end State

structure Distinct (st : State) : Prop where
  nodup : ∀ s, (st.seen s).Nodup
  below : ∀ s, ∀ p ∈ st.seen s, p.index < st.emitted
  socket : ∀ s, ∀ p ∈ (st.conns s).wire, p.socket = s
  ring : st.asyncPackets.IsSuffix st.journal.stashed

namespace Distinct

variable {st t : State} {i : Label}

theorem initial (next : Int) : Distinct (State.initial next) where
  nodup _ := List.nodup_nil
  below _ _ member := absurd member List.not_mem_nil
  socket _ _ member := absurd member List.not_mem_nil
  ring := List.suffix_refl _

/-- A step that parses, emits and stashes nothing. -/
theorem fewer (inv : Distinct st) (emitted : t.emitted = st.emitted)
    (seen : ∀ s, (t.seen s).Sublist (st.seen s))
    (wire : ∀ s, ∀ p ∈ (t.conns s).wire, p.socket = s)
    (ring : t.asyncPackets.IsSuffix t.journal.stashed) : Distinct t where
  nodup s := (inv.nodup s).sublist (seen s)
  below s p member := by
    rw [emitted]
    exact inv.below s p ((seen s).subset member)
  socket := wire
  ring := ring

/-- A step that leaves the buffers and the wires as they are. -/
theorem same (inv : Distinct st) (emitted : t.emitted = st.emitted)
    (parsed : t.journal.parsed = st.journal.parsed) (rxbuf : t.rxbuf = st.rxbuf)
    (wire : ∀ s, (t.conns s).wire = (st.conns s).wire)
    (ring : t.asyncPackets.IsSuffix t.journal.stashed) : Distinct t := by
  refine inv.fewer emitted ?_ ?_ ring
  · intro s
    unfold State.seen
    rw [parsed, rxbuf, wire]
  · intro s p member
    rw [wire] at member
    exact inv.socket s p member

/-- One connection gets fewer packets. -/
theorem setConn (inv : Distinct st) (r : Nat) (c : Conn)
    (wire : c.wire.Sublist (st.conns r).wire) (emitted : t.emitted = st.emitted)
    (parsed : t.journal.parsed = st.journal.parsed) (rxbuf : t.rxbuf = st.rxbuf)
    (conns : t.conns = (st.setConn r c).conns)
    (ring : t.asyncPackets.IsSuffix t.journal.stashed) : Distinct t := by
  have wires : ∀ s, (t.conns s).wire.Sublist (st.conns s).wire := by
    intro s
    rw [conns]
    by_cases here : s = r
    · subst here
      rw [State.setConn_self]
      exact wire
    · rw [st.setConn_of_ne here]
  refine inv.fewer emitted ?_ ?_ ring
  · intro s
    unfold State.seen
    rw [parsed, rxbuf]
    exact List.Sublist.append (List.Sublist.refl _) (wires s)
  · intro s p member
    exact inv.socket s p ((wires s).subset member)

/-- The controller sends one more packet. -/
theorem emits (inv : Distinct st) (r : Nat) (due : List Request) (p : Packet)
    (index : p.index = st.emitted) (socket : p.socket = r) (emitted : t.emitted = st.emitted + 1)
    (parsed : t.journal.parsed = st.journal.parsed) (rxbuf : t.rxbuf = st.rxbuf)
    (conns : t.conns = (st.setConn r { st.conns r with
      due := due, wire := (st.conns r).wire ++ [p] }).conns)
    (ring : t.asyncPackets.IsSuffix t.journal.stashed) : Distinct t := by
  have here : t.seen r = st.seen r ++ [p] := by
    unfold State.seen
    rw [parsed, rxbuf, conns, State.setConn_self, List.append_assoc, List.append_assoc,
      List.append_assoc]
  have elsewhere : ∀ s, s ≠ r → t.seen s = st.seen s := by
    intro s other
    unfold State.seen
    rw [parsed, rxbuf, conns, st.setConn_of_ne other]
  have fresh : p ∉ st.seen r := by
    intro member
    exact absurd (inv.below r p member) (by omega)
  constructor
  · intro s
    by_cases at_r : s = r
    · subst at_r
      rw [here, List.nodup_append]
      refine ⟨inv.nodup s, List.pairwise_singleton _ p, ?_⟩
      intro q member q' single same
      rw [List.mem_singleton] at single
      subst single
      subst same
      exact fresh member
    · rw [elsewhere s at_r]
      exact inv.nodup s
  · intro s q member
    rw [emitted]
    by_cases at_r : s = r
    · subst at_r
      rw [here, List.mem_append, List.mem_singleton] at member
      rcases member with old | rfl
      · exact Nat.lt_succ_of_lt (inv.below s q old)
      · rw [index]
        exact Nat.lt_succ_self _
    · rw [elsewhere s at_r] at member
      exact Nat.lt_succ_of_lt (inv.below s q member)
  · intro s q member
    rw [conns] at member
    by_cases at_r : s = r
    · subst at_r
      rw [State.setConn_self, List.mem_append, List.mem_singleton] at member
      rcases member with old | rfl
      · exact inv.socket s q old
      · exact socket
    · rw [st.setConn_of_ne at_r] at member
      exact inv.socket s q member
  · exact ring

/-- Lines move from the wire into an empty buffer. -/
theorem receives (inv : Distinct st) {n s : Nat} (empty : st.rxbuf = []) :
    Distinct
      { st.setConn s { st.conns s with wire := (st.conns s).wire.drop n } with
        rxbuf := (st.conns s).wire.take n } := by
  have here : st.journal.parsed ++ (st.conns s).wire.take n ++ (st.conns s).wire.drop n =
      st.seen s := by
    unfold State.seen
    rw [List.append_assoc, List.take_append_drop, empty, List.append_nil]
  have taken : ∀ p ∈ (st.conns s).wire.take n, p ∈ st.seen s := by
    intro p member
    rw [← here, List.append_assoc]
    exact List.mem_append_right _ (List.mem_append_left _ member)
  have elsewhere : ∀ r, r ≠ s → ((st.setConn s { st.conns s with
      wire := (st.conns s).wire.drop n }).conns r).wire = (st.conns r).wire := by
    intro r other
    rw [st.setConn_of_ne other]
  have wire : ((st.setConn s { st.conns s with
      wire := (st.conns s).wire.drop n }).conns s).wire = (st.conns s).wire.drop n := by
    rw [State.setConn_self]
  constructor
  · intro r
    show (st.journal.parsed ++ (st.conns s).wire.take n ++ _).Nodup
    by_cases at_s : r = s
    · subst at_s
      rw [wire, here]
      exact inv.nodup r
    · rw [elsewhere r at_s]
      have left := inv.nodup s
      rw [← here] at left
      have left := (List.nodup_append.mp left).1
      have right := inv.nodup r
      unfold State.seen at right
      rw [empty, List.append_nil] at right
      rw [List.nodup_append] at left right ⊢
      refine ⟨List.nodup_append.mpr left, right.2.1, ?_⟩
      intro p member q wired same
      subst same
      rcases List.mem_append.mp member with old | new
      · exact right.2.2 p old p wired rfl
      · have from_s := inv.socket s p (List.mem_of_mem_take new)
        have from_r := inv.socket r p wired
        exact at_s (from_r.symm.trans from_s)
  · intro r p member
    have parts : p ∈ st.seen s ∨ p ∈ st.seen r := by
      rcases List.mem_append.mp member with old | wired
      · rcases List.mem_append.mp old with parsed | new
        · exact .inl (List.mem_append_left _ (List.mem_append_left _ parsed))
        · exact .inl (taken p new)
      · by_cases at_s : r = s
        · subst at_s
          have kept : p ∈ (st.conns r).wire.drop n := by rw [← wire]; exact wired
          exact .inl (List.mem_append_right _ (List.mem_of_mem_drop kept))
        · have kept : p ∈ (st.conns r).wire := by rw [← elsewhere r at_s]; exact wired
          exact .inr (List.mem_append_right _ kept)
    exact parts.elim (inv.below s p) (inv.below r p)
  · intro r p member
    by_cases at_s : r = s
    · subst at_s
      have kept : p ∈ (st.conns r).wire.drop n := by rw [← wire]; exact member
      exact inv.socket r p (List.mem_of_mem_drop kept)
    · have kept : p ∈ (st.conns r).wire := by rw [← elsewhere r at_s]; exact member
      exact inv.socket r p kept
  · exact inv.ring

theorem step (inv : Distinct st) (moved : Moves st i t) : Distinct t := by
  cases moved with
  | proceeds | registered | numbered | unsent | uncalled | expired | cleared | abandoned | read
  | reseeded | wrote | took | idled | faulted | matched | orphaned | delivered | notified =>
    exact inv.same rfl rfl rfl (fun _ => rfl) inv.ring
  | opened op => exact inv.setConn st.sockets _ (List.nil_sublist _) rfl rfl rfl rfl inv.ring
  | sent op x =>
    refine inv.setConn x.socket
      { st.conns x.socket with due := (st.conns x.socket).due ++ [x.request] } ?_ rfl rfl rfl rfl
      inv.ring
    exact List.Sublist.refl _
  | called op x =>
    refine inv.setConn x.socket
      { st.conns x.socket with due := (st.conns x.socket).due ++ [x.request] } ?_ rfl rfl rfl rfl
      inv.ring
    exact List.Sublist.refl _
  | closed op => exact inv.same rfl rfl rfl st.closedConns_wire inv.ring
  | polled => exact inv.same rfl rfl rfl (fun _ => rfl) (List.nil_suffix)
  | looked resting =>
    refine inv.fewer rfl ?_ inv.socket inv.ring
    intro s
    show (st.journal.parsed ++ (if st.sock = st.curSock then st.rxbuf else []) ++ _).Sublist _
    split
    · exact List.Sublist.refl _
    · exact ((List.Sublist.refl _).append (List.nil_sublist _)).append (List.Sublist.refl _)
  | received n s reading cur empty => exact inv.receives empty
  | parsed p rest reading buffered =>
    refine inv.fewer rfl ?_ inv.socket inv.ring
    intro s
    show (st.journal.parsed ++ [p] ++ rest ++ (st.conns s).wire).Sublist _
    unfold State.seen
    rw [buffered, List.append_assoc _ [p], List.singleton_append]
  | stashed p hand =>
    refine inv.same rfl rfl rfl (fun _ => rfl) ?_
    show (_ ++ [p]).IsSuffix (st.journal.stashed ++ [p])
    apply List.suffix_append_self_iff.mpr
    split
    · exact (List.tail_suffix _).trans inv.ring
    · exact inv.ring
  | dropped failing =>
    refine inv.same rfl rfl rfl ?_ inv.ring
    intro s
    show ((if st.sock = st.curSock then st.closedConns else st.conns) s).wire = _
    split
    · exact st.closedConns_wire s
    · rfl
  | answered s errorId r rest due =>
    exact inv.emits s rest (st.answerTo s r errorId) rfl rfl rfl rfl rfl rfl inv.ring
  | pushed s packet push => exact inv.emits s (st.conns s).due _ rfl rfl rfl rfl rfl rfl inv.ring
  | lost s => exact inv.setConn s _ (List.nil_sublist _) rfl rfl rfl rfl inv.ring

end Distinct

end AiroFanuc.Rmi
