import AiroFanuc.Library.Seqlock

/-! A table of the last records under their keys. One writer reuses the slots in turn, the value of
a slot first and then its key; readers look for a key slot by slot, and then load the value. -/

namespace AiroFanuc.Library

/-- An observer's log holds the records that have begun; `done` of them have their key in place. -/
structure SlotRing (V : Type) where
  keys : Nat → Nat
  values : Nat → V
  head : Nat
  naming : Option Nat
  log : List (Nat × V)
  done : Nat

/-- Where a reader is: at a slot, past a key that matched, or through. -/
inductive Scan (V : Type) where
  | slot (i : Nat)
  | named (i : Nat)
  | found (v : V)
  | missed

namespace SlotRing

variable {V : Type}

def new (v : V) : SlotRing V := ⟨fun _ => 0, fun _ => v, 0, none, [], 0⟩

def put (t : SlotRing V) (key : Nat) (v : V) : SlotRing V :=
  { t with
    values := Function.update t.values t.head v
    naming := some key
    log := t.log ++ [(key, v)] }

def name (n : Nat) (t : SlotRing V) (key : Nat) : SlotRing V :=
  { t with
    keys := Function.update t.keys t.head key
    head := (t.head + 1) % n
    naming := none
    done := t.done + 1 }

/-- The next load of a reader that looks for `key` in `n` slots. -/
def look (n : Nat) (t : SlotRing V) (key : Nat) : Scan V → Scan V
  | .slot i => if n ≤ i then .missed else if t.keys i = key then .named i else .slot (i + 1)
  | .named i => .found (t.values i)
  | .found v => .found v
  | .missed => .missed

/-- A slot holds the last record that took it, up to the one being written. -/
structure Kept (n : Nat) (t : SlotRing V) : Prop where
  head : t.head = t.done % n
  free : t.naming = none → t.log.length = t.done
  busy : ∀ key, t.naming = some key → ∃ v, t.log[t.done]? = some (key, v) ∧
    t.log.length = t.done + 1
  keys : ∀ m key v, t.log[m]? = some (key, v) → m < t.done → t.done ≤ m + n →
    t.keys (m % n) = key
  values : ∀ m key v, t.log[m]? = some (key, v) → t.log.length ≤ m + n → t.values (m % n) = v
  known : ∀ i, t.keys i ≠ 0 → ∃ m v, t.log[m]? = some (t.keys i, v) ∧ m < t.done ∧ m % n = i

/-- What a scan has established, if `since` records were in place when it began. -/
def Fair (n : Nat) (t : SlotRing V) (key since : Nat) : Scan V → Prop
  | .slot i => ∀ m v, t.log[m]? = some (key, v) → m < since → m % n < i → m + n < t.done
  | .named i => ∃ m v, t.log[m]? = some (key, v) ∧ m < t.done ∧ m % n = i
  | .found w => ∃ m v, t.log[m]? = some (key, v) ∧ m < t.done ∧ (t.log.length ≤ m + n → w = v)
  | .missed => ∀ m v, t.log[m]? = some (key, v) → m < since → m + n < t.done

/-- The table only goes on. -/
structure Grows (t u : SlotRing V) : Prop where
  log : t.log <+: u.log
  done : t.done ≤ u.done

variable {n m key since : Nat} {t u : SlotRing V} {v w : V} {scan : Scan V}

theorem mod_ne {l : Nat} (before : m < l) (near : l < m + n) : m % n ≠ l % n := by
  intro same
  have divides : (l - m) % n = 0 := Nat.sub_mod_eq_zero_of_mod_eq same.symm
  rw [Nat.mod_eq_of_lt (by omega)] at divides
  omega

theorem new_kept (n : Nat) (v : V) : (new v).Kept n where
  head := (Nat.zero_mod n).symm
  free := fun _ => rfl
  busy := by simp [new]
  keys := by simp [new]
  values := by simp [new]
  known := by simp [new]

theorem Kept.done_le (kept : t.Kept n) : t.done ≤ t.log.length := by
  cases naming : t.naming with
  | none => exact Nat.le_of_eq (kept.free naming).symm
  | some key =>
    obtain ⟨_, -, length⟩ := kept.busy key naming
    omega

theorem put_grows (t : SlotRing V) (key : Nat) (v : V) : t.Grows (t.put key v) :=
  ⟨List.prefix_append _ _, Nat.le_refl _⟩

theorem name_grows (n : Nat) (t : SlotRing V) (key : Nat) : t.Grows (t.name n key) :=
  ⟨List.prefix_rfl, Nat.le_succ _⟩

theorem Kept.put (kept : t.Kept n) (idle : t.naming = none) (key : Nat) (v : V) :
    (t.put key v).Kept n := by
  have length := kept.free idle
  -- An entry of the longer log is an old one, or the record itself.
  have entry {m key' : Nat} {v' : V} (found : (t.log ++ [(key, v)])[m]? = some (key', v')) :
      t.log[m]? = some (key', v') ∨ m = t.log.length ∧ key' = key ∧ v' = v := by
    rcases Nat.lt_trichotomy m t.log.length with old | here | late
    · rw [List.getElem?_append_left old] at found
      exact .inl found
    · subst here
      rw [List.getElem?_concat_length, Option.some.injEq] at found
      cases found
      exact .inr ⟨rfl, rfl, rfl⟩
    · rw [List.getElem?_eq_none (by simp; omega)] at found
      cases found
  constructor
  · exact kept.head
  · simp [SlotRing.put]
  · intro key' named
    cases named
    refine ⟨v, ?_, by simp [SlotRing.put, length]⟩
    simp [SlotRing.put, ← length]
  · intro m key' v' found before near
    rcases entry found with old | ⟨here, -⟩
    · exact kept.keys m key' v' old before near
    · have before : m < t.done := before
      omega
  · intro m key' v' found near
    have near : t.log.length + 1 ≤ m + n := by simpa [SlotRing.put] using near
    show Function.update t.values t.head v (m % n) = v'
    rcases entry found with old | ⟨rfl, rfl, rfl⟩
    · have before := (List.getElem?_eq_some_iff.mp old).1
      rw [kept.head, ← length, Function.update_of_ne (mod_ne before near)]
      exact kept.values m key' v' old (by omega)
    · rw [kept.head, ← length, Function.update_self]
  · intro i taken
    obtain ⟨m, v', found, before, slot⟩ := kept.known i taken
    exact ⟨m, v', prefix_getElem? (List.prefix_append _ _) found, before, slot⟩

theorem Kept.name (kept : t.Kept n) (named : t.naming = some key) : (t.name n key).Kept n := by
  obtain ⟨v, last, length⟩ := kept.busy key named
  constructor
  · show (t.head + 1) % n = (t.done + 1) % n
    rw [kept.head, Nat.mod_add_mod]
  · exact fun _ => length
  · simp [SlotRing.name]
  · intro m key' v' found before near
    have before : m < t.done + 1 := before
    have near : t.done + 1 ≤ m + n := near
    show Function.update t.keys t.head key (m % n) = key'
    rcases Nat.lt_or_ge m t.done with old | here
    · rw [kept.head, Function.update_of_ne (mod_ne old near)]
      exact kept.keys m key' v' found old (by omega)
    · obtain rfl : m = t.done := by omega
      have found : t.log[t.done]? = some (key', v') := found
      rw [last, Option.some.injEq, Prod.mk.injEq] at found
      rw [kept.head, Function.update_self]
      exact found.1
  · exact fun m key' v' => kept.values m key' v'
  · intro i taken
    have taken : Function.update t.keys t.head key i ≠ 0 := taken
    show ∃ m v', t.log[m]? = some (Function.update t.keys t.head key i, v') ∧ m < t.done + 1 ∧
      m % n = i
    by_cases here : i = t.head
    · subst here
      rw [Function.update_self]
      exact ⟨t.done, v, last, Nat.lt_succ_self _, kept.head.symm⟩
    · rw [Function.update_of_ne here] at taken ⊢
      obtain ⟨m, v', found, before, slot⟩ := kept.known i taken
      exact ⟨m, v', found, Nat.lt_succ_of_lt before, slot⟩

/-- What a scan has established stays so. -/
theorem Fair.mono (fair : t.Fair n key since scan) (kept : t.Kept n) (earlier : since ≤ t.done)
    (grows : t.Grows u) : u.Fair n key since scan := by
  have back {m : Nat} {v : V} (found : u.log[m]? = some (key, v)) (early : m < since) :
      t.log[m]? = some (key, v) := by
    obtain ⟨rest, longer⟩ := grows.log
    have short := kept.done_le
    rwa [← longer, List.getElem?_append_left (by omega)] at found
  have further := grows.done
  cases scan with
  | slot i =>
    intro m v found early slot
    exact Nat.lt_of_lt_of_le (fair m v (back found early) early slot) further
  | named i =>
    obtain ⟨m, v, found, before, slot⟩ := fair
    exact ⟨m, v, prefix_getElem? grows.log found, by omega, slot⟩
  | found w =>
    obtain ⟨m, v, found, before, same⟩ := fair
    have longer := grows.log.length_le
    exact ⟨m, v, prefix_getElem? grows.log found, by omega, fun near => same (by omega)⟩
  | missed =>
    intro m v found early
    exact Nat.lt_of_lt_of_le (fair m v (back found early) early) further

theorem start_fair (n : Nat) (t : SlotRing V) (key : Nat) : t.Fair n key t.done (.slot 0) := by
  intro m v _ _ impossible
  exact absurd impossible (Nat.not_lt_zero _)

theorem Fair.look (fair : t.Fair n key since scan) (kept : t.Kept n) (real : key ≠ 0)
    (earlier : since ≤ t.done) (room : 0 < n) : t.Fair n key since (t.look n key scan) := by
  cases scan with
  | slot i =>
    simp only [SlotRing.look]
    split
    · rename_i through
      intro m v found early
      exact fair m v found early (Nat.lt_of_lt_of_le (Nat.mod_lt m room) through)
    · split
      · rename_i same
        obtain ⟨m, v, found, before, slot⟩ := kept.known i (by rw [same]; exact real)
        exact ⟨m, v, same ▸ found, before, slot⟩
      · rename_i other
        intro m v found early slot
        rcases Nat.lt_or_eq_of_le (Nat.le_of_lt_succ slot) with passed | here
        · exact fair m v found early passed
        · by_contra near
          exact other (here ▸ kept.keys m key v found (by omega) (by omega))
  | named i =>
    obtain ⟨m, v, found, before, slot⟩ := fair
    refine ⟨m, v, found, before, fun near => ?_⟩
    rw [← slot]
    exact kept.values m key v found near
  | found w => exact fair
  | missed => exact fair

/-- A scan that ends before the slot is reused has what was recorded. -/
theorem Fair.found_of_recorded (fair : t.Fair n key since scan) (kept : t.Kept n)
    (recorded : t.log[m]? = some (key, v)) (early : m < since)
    (once : ∀ l w, t.log[l]? = some (key, w) → l = m) (fresh : t.log.length ≤ m + n) :
    scan ≠ .missed ∧ ∀ w, scan = .found w → w = v := by
  constructor
  · rintro rfl
    have passed := fair m v recorded early
    have short := kept.done_le
    omega
  · rintro w rfl
    obtain ⟨l, w', found, -, same⟩ := fair
    obtain rfl := once l w' found
    rw [recorded, Option.some.injEq, Prod.mk.injEq] at found
    rw [same fresh, found.2]

end SlotRing

end AiroFanuc.Library
