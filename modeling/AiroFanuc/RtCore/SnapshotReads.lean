import AiroFanuc.Library.Seqlock
import AiroFanuc.RtCore.Publication

/-! The snapshot as callers read it: the RT loop publishes through a sequence lock, word by word,
while any number of threads read it word by word. -/

namespace AiroFanuc.RtCore

open TickEngine Library

/-- The RT loop, and the lock in which it publishes. -/
structure SnapshotReads (R W A : Type) where
  gallery : Gallery R
  lock : Seqlock.Run W A

/-- A step of the RT loop or of its callers, of the copy into the lock, or of a reading thread. -/
inductive SnapshotLabel (R W A : Type) where
  | loop (l : Label R)
  | writerStep
  | read (reader : Nat) (junk : W → A)
  | readerStep (reader : Nat)

/-- The steps the RT thread takes. -/
def Label.onRtThread {R : Type} : Label R → Bool
  | .packet _ _ | .timer | .exchange | .pop | .check | .tick | .settle | .exit => true
  | _ => false

namespace SnapshotReads

variable {R W A : Type} [Field R] [LinearOrder R] [FloorRing R] [DecidableEq W]

/-- Whether the RT thread is out of `snap_.write`. -/
def free (lock : Seqlock.Run W A) : Bool :=
  match lock.writer with
  | .idle => true
  | _ => false

/-- The RT thread copies its snapshot before it goes on; `layout` is the snapshot word by word. -/
def step (lib : External R) (layout : StateSnapshot R → W → A) (words : List W)
    (r : SnapshotReads R W A) : SnapshotLabel R W A → Option (SnapshotReads R W A)
  | .loop .settle =>
    (r.gallery.step lib .settle).bind fun gallery =>
      (r.lock.step words (.write (layout gallery.loop.snap))).map fun lock => ⟨gallery, lock⟩
  | .loop l =>
    if l.onRtThread = true ∧ free r.lock = false then none
    else (r.gallery.step lib l).map fun gallery => ⟨gallery, r.lock⟩
  | .writerStep => (r.lock.step words .writerStep).map fun lock => ⟨r.gallery, lock⟩
  | .read k junk => (r.lock.step words (.read k junk)).map fun lock => ⟨r.gallery, lock⟩
  | .readerStep k => (r.lock.step words (.readerStep k)).map fun lock => ⟨r.gallery, lock⟩

def machine (lib : External R) (cfg : RtCoreConfig R) (layout : StateSnapshot R → W → A)
    (words : List W) : Machine (SnapshotReads R W A) (SnapshotLabel R W A) where
  start := ⟨.new cfg, .new (layout .initial)⟩
  step := step lib layout words

/-- No copy overlaps with 2⁶³ publications. -/
def brief (r : SnapshotReads R W A) : SnapshotLabel R W A → Prop
  | .readerStep k => r.lock.brief (.readerStep k)
  | _ => True

/-- A value on its way into the lock. -/
def waiting (lock : Seqlock.Run W A) : List (W → A) :=
  match lock.writer with
  | .called v | .loaded v _ => [v]
  | _ => []

structure Kept (layout : StateSnapshot R → W → A) (r : SnapshotReads R W A) : Prop where
  gallery : r.gallery.Kept
  lock : r.lock.Kept (layout .initial)
  published : r.lock.log ++ waiting r.lock =
    r.gallery.published.map fun p => layout p.snap

variable {lib : External R} {cfg : RtCoreConfig R} {layout : StateSnapshot R → W → A}
  {words : List W} {r t : SnapshotReads R W A}

/-- The copy of a value takes nothing away from what is published. -/
theorem writeStep_published {lock after : Seqlock.Run W A}
    (moved : lock.writeStep words = some after) :
    after.log ++ waiting after = lock.log ++ waiting lock := by
  unfold Seqlock.Run.writeStep at moved
  cases writer : lock.writer with
  | idle => simp [writer] at moved
  | called v =>
    simp only [writer, Option.some.injEq] at moved
    subst moved
    simp only [waiting, writer]
  | loaded v s =>
    simp only [writer, Option.some.injEq] at moved
    subst moved
    simp only [waiting, writer, List.append_nil]
  | storing v s rest =>
    cases rest with
    | nil | cons w rest =>
      simp only [writer, Option.some.injEq] at moved
      subst moved
      simp only [waiting, writer]

theorem readStep_published {lock after : Seqlock.Run W A} {k : Nat}
    (moved : lock.readStep words k = some after) :
    after.log = lock.log ∧ after.writer = lock.writer := by
  unfold Seqlock.Run.readStep at moved
  cases reader : lock.readers k with
  | idle => simp [reader] at moved
  | spinning since out =>
    simp only [reader] at moved
    split at moved <;> · cases moved; exact ⟨rfl, rfl⟩
  | copying since seen s1 out rest =>
    cases rest with
    | nil =>
      simp only [reader] at moved
      split at moved <;> · cases moved; exact ⟨rfl, rfl⟩
    | cons w rest =>
      simp only [reader, Option.some.injEq] at moved
      subst moved
      exact ⟨rfl, rfl⟩

omit [LinearOrder R] [FloorRing R] [DecidableEq W] in
/-- A step of the lock alone. -/
theorem Kept.locked (kept : r.Kept layout) {lock : Seqlock.Run W A}
    (sound : lock.Kept (layout .initial))
    (same : lock.log ++ waiting lock = r.lock.log ++ waiting r.lock) :
    (⟨r.gallery, lock⟩ : SnapshotReads R W A).Kept layout :=
  ⟨kept.gallery, sound, same.trans kept.published⟩

/-- The end of a window starts the copy of its snapshot. -/
theorem Kept.settle (kept : r.Kept layout) (whole : ∀ w, w ∈ words)
    (moved : step lib layout words r (.loop .settle) = some t) : t.Kept layout := by
  obtain ⟨gallery, stepped, locked⟩ := Option.bind_eq_some_iff.mp moved
  obtain ⟨lock, called, rfl⟩ := Option.map_eq_some_iff.mp locked
  refine ⟨Gallery.step_kept kept.gallery stepped,
    kept.lock.step (l := .write _) whole trivial called, ?_⟩
  obtain ⟨loop, settled, rfl⟩ := Option.map_eq_some_iff.mp stepped
  have published := kept.published
  simp only [Seqlock.Run.step] at called
  cases writer : r.lock.writer with
  | idle =>
    simp only [writer, Option.some.injEq] at called
    subst called
    simp only [waiting, writer, List.append_nil] at published ⊢
    rw [published]
    simp only [Gallery.note, List.map_append, List.map_cons, List.map_nil]
  | called v | loaded v s | storing v s rest => simp [writer] at called

omit [DecidableEq W] in
/-- Any other step of the loop publishes nothing. -/
theorem Kept.loop (kept : r.Kept layout) {l : Label R} (other : l ≠ .settle)
    {gallery : Gallery R} (stepped : r.gallery.step lib l = some gallery) :
    (⟨gallery, r.lock⟩ : SnapshotReads R W A).Kept layout := by
  refine ⟨Gallery.step_kept kept.gallery stepped, kept.lock, ?_⟩
  obtain ⟨loop, -, rfl⟩ := Option.map_eq_some_iff.mp stepped
  have published := kept.published
  cases l with
  | settle => exact absurd rfl other
  | _ => exact published

theorem step_loop {l : Label R} (other : l ≠ .settle)
    (moved : step lib layout words r (.loop l) = some t) :
    ∃ gallery, r.gallery.step lib l = some gallery ∧ t = ⟨gallery, r.lock⟩ := by
  have plain : step lib layout words r (.loop l) =
      if l.onRtThread = true ∧ free r.lock = false then none
      else (r.gallery.step lib l).map fun gallery => ⟨gallery, r.lock⟩ := by
    cases l with
    | settle => exact absurd rfl other
    | _ => rfl
  rw [plain] at moved
  split at moved
  · cases moved
  · obtain ⟨gallery, stepped, rfl⟩ := Option.map_eq_some_iff.mp moved
    exact ⟨gallery, stepped, rfl⟩

theorem step_kept (kept : r.Kept layout) (whole : ∀ w, w ∈ words) {l : SnapshotLabel R W A}
    (legal : r.brief l) (moved : step lib layout words r l = some t) : t.Kept layout := by
  cases l with
  | loop l =>
    by_cases settles : l = .settle
    · rw [settles] at moved
      exact kept.settle whole moved
    · obtain ⟨gallery, stepped, rfl⟩ := step_loop settles moved
      exact kept.loop settles stepped
  | writerStep =>
    obtain ⟨lock, stepped, rfl⟩ := Option.map_eq_some_iff.mp moved
    exact kept.locked (kept.lock.step (l := .writerStep) whole trivial stepped)
      (writeStep_published stepped)
  | read k junk =>
    obtain ⟨lock, stepped, rfl⟩ := Option.map_eq_some_iff.mp moved
    refine kept.locked (kept.lock.step (l := .read k junk) whole trivial stepped) ?_
    simp only [Seqlock.Run.step] at stepped
    split at stepped
    · cases stepped
      rfl
    · cases stepped
  | readerStep k =>
    obtain ⟨lock, stepped, rfl⟩ := Option.map_eq_some_iff.mp moved
    obtain ⟨log, writer⟩ := readStep_published stepped
    refine kept.locked (kept.lock.step (l := .readerStep k) whole legal stepped) ?_
    simp only [waiting, log, writer]

omit [LinearOrder R] [FloorRing R] [DecidableEq W] in
theorem start_kept (cfg : RtCoreConfig R) (layout : StateSnapshot R → W → A) :
    (⟨.new cfg, .new (layout .initial)⟩ : SnapshotReads R W A).Kept layout :=
  ⟨Gallery.new_kept cfg, Seqlock.new_kept _, rfl⟩

theorem kept_of_reachable (whole : ∀ w, w ∈ words)
    (reached : (machine lib cfg layout words).Reachable brief r) : r.Kept layout := by
  refine reached.invariant (start_kept cfg layout) ?_
  intro a b l kept legal moved
  exact step_kept kept whole legal moved

omit [LinearOrder R] [FloorRing R] [DecidableEq W] in
/-- What the lock has taken in is what the loop has published, the blank snapshot first. -/
theorem Kept.values (kept : r.Kept layout) {n : Nat} {v : W → A}
    (found : (r.lock.values (layout .initial))[n]? = some v) :
    ∃ snap, r.gallery.snapshots[n]? = some snap ∧ v = layout snap := by
  have longer : r.lock.values (layout .initial) <+: r.gallery.snapshots.map layout := by
    rw [Seqlock.Run.values, Gallery.snapshots, List.map_cons, List.map_map]
    exact List.cons_prefix_cons.mpr ⟨rfl, waiting r.lock, kept.published⟩
  have shown := prefix_getElem? longer found
  rw [List.getElem?_map] at shown
  obtain ⟨snap, member, rfl⟩ := Option.map_eq_some_iff.mp shown
  exact ⟨snap, member, rfl⟩

omit [LinearOrder R] [FloorRing R] in
/-- The snapshots are numbered by their ticks. -/
theorem cmdTick_of_snapshot {g : Gallery R} (kept : g.Kept) {n : Nat} {snap : StateSnapshot R}
    (found : g.snapshots[n]? = some snap) : snap.cmdTick = n := by
  cases n with
  | zero =>
    cases found
    rfl
  | succ n =>
    rw [Gallery.snapshots, List.getElem?_cons_succ, List.getElem?_map] at found
    obtain ⟨p, published, rfl⟩ := Option.map_eq_some_iff.mp found
    exact (kept.tells n p published).tick

omit [LinearOrder R] [FloorRing R] [DecidableEq W] in
/-- Between publications the lock holds the loop's last snapshot, so the RT thread reads its own. -/
theorem Kept.own (kept : r.Kept layout) (idle : free r.lock = true) :
    r.lock.value = layout r.gallery.loop.snap := by
  have writing := kept.lock.writing
  have published := kept.published
  unfold free at idle
  unfold Seqlock.Run.Writing at writing
  cases writer : r.lock.writer with
  | idle =>
    simp only [writer] at writing
    simp only [waiting, writer, List.append_nil] at published
    obtain ⟨length, -, value⟩ := writing
    obtain ⟨snap, shown, same⟩ := kept.values value
    have count : r.lock.done = r.gallery.published.length := by
      rw [← length, published, List.length_map]
    rw [count, kept.gallery.snap, Option.some.injEq] at shown
    rw [same, shown]
  | called v | loaded v s | storing v s rest => simp [writer] at idle

/-- A reading thread on its own moves nothing but the lock. -/
theorem run_readerSteps (k n : Nat) (r : SnapshotReads R W A) :
    (machine lib cfg layout words).run r (List.replicate n (.readerStep k)) =
      ((Seqlock.machine words (layout .initial)).run r.lock
        (List.replicate n (.readerStep k))).map fun lock => ⟨r.gallery, lock⟩ := by
  induction n generalizing r with
  | zero => rfl
  | succ n ih =>
    rw [List.replicate_succ, List.replicate_succ, Machine.run, Machine.run]
    show ((r.lock.readStep words k).map _).bind _ = ((r.lock.readStep words k).bind _).map _
    cases r.lock.readStep words k with
    | none => rfl
    | some lock => exact ih ⟨r.gallery, lock⟩

/-- However the words of the copies fall between each other: every read returns one snapshot, whole,
the one last begun at its return; `cmd_tick` counts them, and no read returns an older one than a
read before it. Outside the copies a read that runs alone returns with its next few steps. -/
theorem snapshot_reads_linearize (lib : External R) (cfg : RtCoreConfig R)
    (layout : StateSnapshot R → W → A) (words : List W) (whole : ∀ w, w ∈ words)
    (r : SnapshotReads R W A) (reached : (machine lib cfg layout words).Reachable brief r) :
    (∀ x ∈ r.lock.reads, ∃ snap, r.gallery.snapshots[x.begun]? = some snap ∧
      x.out = layout snap ∧ snap.cmdTick = x.begun ∧ x.since ≤ x.begun) ∧
      (r.lock.reads.Pairwise fun x y => x.begun ≤ y.begun) ∧
      (free r.lock = true → r.lock.value = layout r.gallery.loop.snap) ∧
      ∀ k since out, r.lock.readers k = .spinning since out → r.lock.seq % 2 ≠ 1 → ∃ out' t,
        (machine lib cfg layout words).run r
          (List.replicate (words.length + 2) (.readerStep k)) = some t ∧
        t.lock.reads = r.lock.reads ++ [⟨k, since, r.lock.log.length, out'⟩] := by
  have kept := kept_of_reachable whole reached
  refine ⟨fun x member => ?_, kept.lock.ordered, kept.own, fun k since out called even => ?_⟩
  · have returned := kept.lock.returned x member
    obtain ⟨snap, shown, same⟩ := kept.values returned.whole
    exact ⟨snap, shown, same, cmdTick_of_snapshot kept.gallery shown, returned.since⟩
  · obtain ⟨out', lock, ran, reads⟩ := Seqlock.read_alone (layout .initial) words r.lock even
      called
    refine ⟨out', ⟨r.gallery, lock⟩, ?_, reads⟩
    rw [run_readerSteps, ran]
    rfl

instance (r : SnapshotReads R W A) (l : SnapshotLabel R W A) : Decidable (r.brief l) :=
  match l with
  | .readerStep k =>
    match same : r.lock.readers k with
    | .copying _ seen _ _ [] => decidable_of_iff (r.lock.log.length < seen + 2 ^ 63)
        (by simp only [brief, Seqlock.Run.brief, same])
    | .copying _ _ _ _ (_ :: _) | .spinning _ _ | .idle =>
      .isTrue (by simp only [brief, Seqlock.Run.brief, same])
  | .loop _ | .writerStep | .read _ _ => inferInstanceAs (Decidable True)

/-- Two words of a snapshot: its tick and the packet it shows. -/
def benchLayout (snap : StateSnapshot ℚ) : Bool → Nat
  | false => snap.cmdTick
  | true => snap.rxSeq

/-- A read that starts in the middle of the second publication's copy waits for its end. -/
theorem snapshot_reads_linearize_overtaken : ∃ r : SnapshotReads ℚ Bool Nat, ∃ x ∈ r.lock.reads,
    x.out false = 2 ∧ x.since = 1 := by
  obtain ⟨r, reached, tested⟩ := Machine.reachable_of_test
    (machine benchExternal defaultRtCoreConfig benchLayout [false, true]) brief
    (([.start, benchClear] ++ benchWindow 0).map .loop ++ List.replicate 5 .writerStep ++
      (benchWindow 0).map .loop ++ [.writerStep, .writerStep, .writerStep, .read 0 (fun _ => 0),
        .readerStep 0, .readerStep 0, .writerStep, .writerStep] ++ List.replicate 4 (.readerStep 0))
    (fun r => r.lock.reads.any fun x => decide (x.begun = 2 ∧ x.since = 1))
    (by decide +kernel) (by decide +kernel)
  obtain ⟨x, member, checked⟩ := List.any_eq_true.mp tested
  obtain ⟨second, since⟩ := of_decide_eq_true checked
  obtain ⟨reads, -⟩ := snapshot_reads_linearize benchExternal defaultRtCoreConfig benchLayout
    [false, true] (by decide) r reached
  obtain ⟨snap, -, same, tick, -⟩ := reads x member
  refine ⟨r, x, member, ?_, since⟩
  rw [same, ← second]
  exact tick

end SnapshotReads

end AiroFanuc.RtCore
