import AiroFanuc.Probe.Facts
import Mathlib.Data.List.Range
import Mathlib.Data.List.Sort
import Mathlib.Data.Rat.Floor

/-! Variables out of a `.va` dump: a scan by lines that collects the elements of an array until
another line comes. -/

namespace AiroFanuc.Probe

/-- What the scan takes from Python's text: the tables of characters and the conversions. -/
structure PythonText (R : Type) where
  space : Char → Bool
  decimal : Char → Option ℕ
  word : Char → Bool
  lower : Char → Char
  upper : List Char → List Char
  float : List Char → Option (Double R)

section Text

variable {R : Type} (py : PythonText R)

/-! ### Lines -/

/-- Where `str.splitlines` ends a line. -/
def lineBreak (c : Char) : Bool :=
  [0x0a, 0x0b, 0x0c, 0x0d, 0x1c, 0x1d, 0x1e, 0x85, 0x2028, 0x2029].contains c.toNat

def splitLines : List Char → List (List Char)
  | [] => []
  | c :: rest =>
    if lineBreak c then [] :: splitLines rest
    else
      match splitLines rest with
      | [] => [[c]]
      | line :: lines => (c :: line) :: lines

/-- `text.replace("\r", "").splitlines()`. -/
def linesOf (text : List Char) : List (List Char) := splitLines (text.filter fun c => c ≠ '\r')

/-! ### The three patterns -/

def skipSpaces (s : List Char) : List Char := s.dropWhile py.space

def someSpaces : List Char → Option (List Char)
  | [] => none
  | c :: rest => if py.space c then some (skipSpaces py rest) else none

def run (kind : Char → Bool) (s : List Char) : Option (List Char × List Char) :=
  if s.takeWhile kind = [] then none else some (s.takeWhile kind, s.dropWhile kind)

/-- A literal, whatever the case. -/
def literal : List Char → List Char → Option (List Char)
  | [], s => some s
  | _ :: _, [] => none
  | w :: word, c :: s => if py.lower w = py.lower c then literal word s else none

def number (s : List Char) : Option (ℕ × List Char) :=
  (run (fun c => (py.decimal c).isSome) s).map fun found =>
    (found.1.foldl (fun n c => 10 * n + (py.decimal c).getD 0) 0, found.2)

def atEnd (s : List Char) : Bool := skipSpaces py s = []

/-- `_SYSVAR_ELEMENT_RE`: the index and the text behind the equals sign. -/
def matchElement (line : List Char) : Option (ℕ × List Char) := do
  let s ← literal py "[".toList (skipSpaces py line)
  let (index, s) ← number py s
  let s ← literal py "]".toList s
  let s ← literal py "=".toList (skipSpaces py s)
  let (raw, s) ← run (fun c => !py.space c) (skipSpaces py s)
  if atEnd py s then some (index, raw) else none

/-- The name that `Field:` is followed by. -/
def matchField (line : List Char) : Option (List Char × List Char) := do
  let s ← literal py "Field:".toList (skipSpaces py line)
  let (name, s) ← run (fun c => !py.space c) (skipSpaces py s)
  let s ← someSpaces py s
  some (name, s)

/-- `_SYSVAR_ARRAY_RE`. -/
def matchArray (line : List Char) : Option (List Char) := do
  let (name, s) ← matchField py line
  let s ← literal py "ARRAY[".toList s
  let (_, s) ← number py s
  let s ← literal py "]".toList s
  let s ← someSpaces py s
  let s ← literal py "OF".toList s
  let s ← someSpaces py s
  let (_, s) ← run py.word s
  if atEnd py s then some name else none

def trimmed (s : List Char) : List Char :=
  ((skipSpaces py s).reverse.dropWhile py.space).reverse

/-- `_SYSVAR_SCALAR_RE`: the name and the text behind the equals sign. -/
def matchScalar (line : List Char) : Option (List Char × List Char) := do
  let (name, s) ← matchField py line
  let s ← literal py "Access:".toList s
  let (_, s) ← run py.word (skipSpaces py s)
  let s ← literal py ":".toList s
  let (_, s) ← run py.word (skipSpaces py s)
  let s ← literal py "=".toList (skipSpaces py s)
  some (name, trimmed py s)

inductive Line (R : Type) where
  | element (index : ℕ) (value : Option (Double R))
  | array (name : List Char)
  | scalar (name : List Char) (value : Option (Double R))
  | other

/-- No line matches two of the patterns that begin differently, so one reading of a line will do
wherever it stands. -/
def readLine (line : List Char) : Line R :=
  match matchElement py line with
  | some (index, raw) => .element index (py.float raw)
  | none =>
    match matchArray py line with
    | some name => .array name
    | none =>
      match matchScalar py line with
      | some (name, raw) => .scalar name (py.float raw)
      | none => .other

end Text

/-! ### The scan -/

section Scan

variable {R : Type}

abbrev Name := List Char

/-- A dict with integer keys, kept in the order of the keys. -/
abbrev Elements (R : Type) := List (ℕ × Double R)

def assign (index : ℕ) (value : Double R) : Elements R → Elements R
  | [] => [(index, value)]
  | (i, v) :: rest =>
    if index < i then (index, value) :: (i, v) :: rest
    else if index = i then (index, value) :: rest
    else (i, v) :: assign index value rest

inductive Value (R : Type) where
  | scalar (v : Double R)
  | tuple (vs : List (Double R))
  deriving DecidableEq

structure Scan (R : Type) where
  collecting : Option Name
  elements : Elements R
  out : Name → Option (Value R)

def Scan.put (s : Scan R) (key : Name) (value : Value R) : Scan R :=
  { s with out := fun name => if name = key then some value else s.out name }

def Scan.flush (s : Scan R) : Scan R :=
  match s.collecting with
  | some key =>
    if s.elements = [] then { s with collecting := none }
    else { s.put key (.tuple (s.elements.map Prod.snd)) with collecting := none, elements := [] }
  | none => { s with elements := [] }

/-- A line that is not an element of the array being collected. -/
def Scan.begin (wanted : Name → Option Name) (s : Scan R) : Line R → Scan R
  | .array name =>
    match wanted name with
    | some key => { s with collecting := some key, elements := [] }
    | none => s
  | .scalar name value =>
    match wanted name, value with
    | some key, some value => s.put key (.scalar value)
    | _, _ => s
  | _ => s

def Scan.line (wanted : Name → Option Name) (s : Scan R) (l : Line R) : Scan R :=
  match s.collecting, l with
  | some _, .element index (some value) => { s with elements := assign index value s.elements }
  | some _, .element _ none => s
  | _, l => s.flush.begin wanted l

/-- `wanted.get(name.upper())`: of two names that differ in case the later one is meant. -/
def wantedName (py : PythonText R) (names : List Name) (found : Name) : Option Name :=
  names.reverse.find? fun n => py.upper n = py.upper found

def extractSysvars (py : PythonText R) (text : List Char) (names : List Name) :
    Name → Option (Value R) :=
  (((linesOf text).map (readLine py)).foldl (Scan.line (wantedName py names))
    ⟨none, [], fun _ => none⟩).flush.out

end Scan

/-! ### What a dump gives -/

section Given

variable {R : Type} (wanted : Name → Option Name)

/-- The elements right below a line, as far as they can be read. -/
def readings : List (Line R) → Elements R
  | .element index (some value) :: rest => (index, value) :: readings rest
  | .element _ none :: rest => readings rest
  | _ => []

/-- The blocks of one array, in the order of the dump. -/
def arrayBlocks (key : Name) : List (Line R) → List (Elements R)
  | [] => []
  | .array name :: rest =>
    if wanted name = some key then readings rest :: arrayBlocks key rest else arrayBlocks key rest
  | _ :: rest => arrayBlocks key rest

/-- The last of a list of blocks that gives anything. -/
def lastGiving (bs : List (Elements R)) : Option (Elements R) :=
  (bs.filter fun b => decide (b ≠ [])).getLast?

/-- The value a block gives for an index, the last one if it is repeated. -/
def valueAt (block : Elements R) (index : ℕ) : Option (Double R) :=
  (block.reverse.find? fun p => p.1 = index).map Prod.snd

variable {wanted : Name → Option Name} {key : Name}

/-! ### The elements of a block -/

def fill (d : Elements R) (rs : Elements R) : Elements R :=
  rs.foldl (fun d p => assign p.1 p.2 d) d

abbrev Ordered (d : Elements R) : Prop := d.Pairwise fun p q => p.1 < q.1

theorem assign_ne_nil (index : ℕ) (value : Double R) (d : Elements R) :
    assign index value d ≠ [] := by
  cases d with
  | nil => exact List.cons_ne_nil _ _
  | cons p rest =>
    simp only [assign]
    split
    · exact List.cons_ne_nil _ _
    · split <;> exact List.cons_ne_nil _ _

theorem mem_assign {index i : ℕ} {value v : Double R} {d : Elements R} (ordered : Ordered d) :
    (i, v) ∈ assign index value d ↔ i = index ∧ v = value ∨ i ≠ index ∧ (i, v) ∈ d := by
  induction d with
  | nil =>
    simp only [assign, List.mem_singleton, Prod.mk.injEq, List.not_mem_nil, and_false, or_false]
  | cons p rest ih =>
    obtain ⟨j, w⟩ := p
    obtain ⟨first, tail⟩ := List.pairwise_cons.mp ordered
    have later : (i, v) ∈ rest → j < i := fun member => first (i, v) member
    simp only [assign]
    split
    case isTrue before =>
      simp only [List.mem_cons, Prod.mk.injEq]
      grind
    case isFalse =>
      split
      case isTrue same =>
        simp only [List.mem_cons, Prod.mk.injEq]
        grind
      case isFalse =>
        simp only [List.mem_cons, Prod.mk.injEq, ih tail]
        grind

theorem assign_ordered {index : ℕ} {value : Double R} {d : Elements R} (ordered : Ordered d) :
    Ordered (assign index value d) := by
  induction d with
  | nil => exact List.pairwise_singleton _ _
  | cons p rest ih =>
    obtain ⟨j, w⟩ := p
    obtain ⟨first, tail⟩ := List.pairwise_cons.mp ordered
    simp only [assign]
    split
    case isTrue before =>
      apply List.Pairwise.cons _ ordered
      intro q member
      rcases List.mem_cons.mp member with rfl | later
      · exact before
      · exact before.trans (first q later)
    case isFalse late =>
      split
      case isTrue same =>
        subst same
        exact List.Pairwise.cons first tail
      case isFalse differ =>
        apply List.Pairwise.cons _ (ih tail)
        intro q member
        rcases (mem_assign (i := q.1) (v := q.2) tail).mp member with ⟨same, -⟩ | ⟨-, inside⟩
        · have between : j < index := by omega
          exact same ▸ between
        · exact first q inside

theorem fill_ordered {d : Elements R} (ordered : Ordered d) (rs : Elements R) :
    Ordered (fill d rs) := by
  induction rs generalizing d with
  | nil => exact ordered
  | cons p rs ih => exact ih (assign_ordered ordered)

theorem valueAt_concat (block : Elements R) (p : ℕ × Double R) (index : ℕ) :
    valueAt (block ++ [p]) index = if p.1 = index then some p.2 else valueAt block index := by
  simp only [valueAt, List.reverse_append, List.reverse_singleton, List.singleton_append,
    List.find?_cons]
  by_cases same : p.1 = index <;> simp [same]

/-- The dict of a block holds the last value of each index. -/
theorem mem_fill {rs : Elements R} {i : ℕ} {v : Double R} :
    (i, v) ∈ fill [] rs ↔ valueAt rs i = some v := by
  induction rs using List.reverseRecOn with
  | nil => simp [fill, valueAt]
  | append_singleton rs p ih =>
    have last : fill [] (rs ++ [p]) = assign p.1 p.2 (fill [] rs) := by
      simp only [fill, List.foldl_append, List.foldl_cons, List.foldl_nil]
    rw [last, mem_assign (fill_ordered List.Pairwise.nil rs), valueAt_concat, ih]
    by_cases same : p.1 = i
    · rw [if_pos same]
      grind
    · rw [if_neg same]
      grind

/-! ### The blocks of an array -/

theorem lastGiving_cons (b : Elements R) (bs : List (Elements R)) :
    lastGiving (b :: bs) = (lastGiving bs).or (if b = [] then none else some b) := by
  simp only [lastGiving]
  by_cases empty : b = []
  · simp [empty]
  · simp [empty, List.getLast?_cons]

/-- What the scan has for an array at the end is the last of these blocks that gives anything, and
without one what it had before. -/
def Explained (bs : List (Elements R)) (before : Option (Value R)) (vs : List (Double R)) : Prop :=
  match lastGiving bs with
  | some d => vs = d.map Prod.snd
  | none => before = some (.tuple vs)

variable {bs : List (Elements R)} {before : Option (Value R)} {vs : List (Double R)}

theorem explained_iff : Explained bs before vs ↔
    (∃ d, lastGiving bs = some d ∧ vs = d.map Prod.snd) ∨
      lastGiving bs = none ∧ before = some (.tuple vs) := by
  simp only [Explained]
  cases lastGiving bs <;> simp

theorem Explained.cons {d : Elements R}
    (explained : Explained bs (if d = [] then before else some (.tuple (d.map Prod.snd))) vs) :
    Explained (d :: bs) before vs := by
  rw [explained_iff] at explained ⊢
  rw [lastGiving_cons]
  rcases explained with ⟨last, found, same⟩ | ⟨none, stored⟩
  · rw [found, Option.some_or]
    exact .inl ⟨last, rfl, same⟩
  · rw [none, Option.none_or]
    by_cases empty : d = []
    · rw [if_pos empty] at stored ⊢
      exact .inr ⟨rfl, stored⟩
    · rw [if_neg empty] at stored ⊢
      exact .inl ⟨d, rfl, (Value.tuple.inj (Option.some.inj stored)).symm⟩

theorem Explained.mono {after : Option (Value R)} (explained : Explained bs after vs)
    (same : after = some (.tuple vs) → before = some (.tuple vs)) : Explained bs before vs := by
  simp only [Explained] at explained ⊢
  split
  case h_1 last => simpa only [last] using explained
  case h_2 last => exact same (by simpa only [last] using explained)

/-- The blocks a scan still has to store: the one it is in, then those of the lines to come. -/
def pending (wanted : Name → Option Name) (key : Name) (s : Scan R) (lines : List (Line R)) :
    List (Elements R) :=
  (if s.collecting = some key then [fill s.elements (readings lines)] else []) ++
    (arrayBlocks wanted key lines).map (fill [])

theorem Scan.flush_collecting (s : Scan R) : s.flush.collecting = none := by
  simp only [Scan.flush]
  split
  · split <;> rfl
  · assumption

theorem Scan.flush_explained {s : Scan R} (explained : Explained bs (s.flush.out key) vs) :
    Explained ((if s.collecting = some key then [s.elements] else []) ++ bs) (s.out key) vs := by
  simp only [Scan.flush] at explained
  split at explained
  case h_1 c collecting =>
    by_cases same : c = key
    · subst same
      rw [collecting, if_pos rfl]
      apply Explained.cons
      split at explained
      case isTrue empty =>
        rw [if_pos empty]
        exact explained
      case isFalse some =>
        rw [if_neg some]
        simpa [Scan.put] using explained
    · have other : s.collecting ≠ some key := by
        rw [collecting]
        exact fun equal => same (Option.some.inj equal)
      rw [if_neg other]
      split at explained
      · exact explained
      · simpa [Scan.put, Ne.symm same] using explained
  case h_2 idle =>
    rw [idle, if_neg (Option.some_ne_none key).symm]
    exact explained

/-- The line after an array, or any line outside of one. -/
theorem Scan.begin_explained {s : Scan R} (idle : s.collecting = none) {l : Line R}
    {lines : List (Line R)} (explained :
      Explained (pending wanted key (s.begin wanted l) lines) ((s.begin wanted l).out key) vs) :
    Explained ((arrayBlocks wanted key (l :: lines)).map (fill [])) (s.out key) vs := by
  have outside : pending wanted key s lines = (arrayBlocks wanted key lines).map (fill []) := by
    rw [pending, idle, if_neg (Option.some_ne_none key).symm, List.nil_append]
  cases l with
  | element index value =>
    simp only [Scan.begin, outside] at explained
    exact explained
  | other =>
    simp only [Scan.begin, outside] at explained
    exact explained
  | array name =>
    simp only [Scan.begin] at explained
    simp only [arrayBlocks]
    split at explained
    case h_1 k meant =>
      simp only [pending, meant] at explained ⊢
      split at explained
      case isTrue same =>
        rw [if_pos same]
        exact explained
      case isFalse differ =>
        rw [if_neg differ]
        exact explained
    case h_2 unwanted =>
      rw [unwanted, if_neg (Option.some_ne_none key).symm]
      rw [outside] at explained
      exact explained
  | scalar name value =>
    simp only [Scan.begin] at explained
    simp only [arrayBlocks]
    split at explained
    case h_1 k v _ =>
      have same : pending wanted key (s.put k (.scalar v)) lines = pending wanted key s lines := rfl
      rw [same, outside] at explained
      apply explained.mono
      intro stored
      simp only [Scan.put] at stored
      split at stored
      · cases stored
      · exact stored
    case h_2 =>
      rw [outside] at explained
      exact explained

/-- A tuple at the end of a scan is the last block of its array that gives anything. -/
theorem scan_explained (lines : List (Line R)) (s : Scan R)
    (found : (lines.foldl (Scan.line wanted) s).flush.out key = some (.tuple vs)) :
    Explained (pending wanted key s lines) (s.out key) vs := by
  induction lines generalizing s with
  | nil =>
    apply Scan.flush_explained
    exact found
  | cons l lines ih =>
    have onward := ih _ found
    have ended (last : readings (l :: lines) = [])
        (step : s.line wanted l = s.flush.begin wanted l) :
        Explained (pending wanted key s (l :: lines)) (s.out key) vs := by
      rw [step] at onward
      have rest := Scan.begin_explained s.flush_collecting onward
      rw [pending, last]
      exact Scan.flush_explained rest
    cases collecting : s.collecting with
    | none =>
      have step : s.line wanted l = s.flush.begin wanted l := by
        simp only [Scan.line, collecting]
      rw [step] at onward
      have rest := Scan.begin_explained s.flush_collecting onward
      have same : s.flush.out = s.out := by simp only [Scan.flush, collecting]
      rw [same] at rest
      rw [pending, collecting, if_neg (Option.some_ne_none key).symm]
      exact rest
    | some c =>
      cases l with
      | element index value =>
        cases value with
        | none =>
          simp only [Scan.line, collecting] at onward
          exact onward
        | some value =>
          simp only [Scan.line, collecting, pending] at onward
          rw [pending, collecting]
          exact onward
      | array name => exact ended rfl (by simp only [Scan.line, collecting])
      | scalar name value => exact ended rfl (by simp only [Scan.line, collecting])
      | other => exact ended rfl (by simp only [Scan.line, collecting])

/-! ### Alignment -/

theorem fill_ne_nil (b : Elements R) : fill [] b ≠ [] ↔ b ≠ [] := by
  constructor
  · rintro some rfl
    exact some rfl
  · intro some
    obtain ⟨init, p, rfl⟩ := List.eq_nil_or_concat b |>.resolve_left some
    simp only [fill, List.concat_eq_append, List.foldl_append, List.foldl_cons, List.foldl_nil]
    exact assign_ne_nil _ _ _

theorem lastGiving_map_fill (bs : List (Elements R)) :
    lastGiving (bs.map (fill [])) = (lastGiving bs).map (fill []) := by
  simp only [lastGiving, List.filter_map, Function.comp_def, fill_ne_nil, List.getLast?_map]

/-- The block a dump gives an array by: the last one with a value in it. -/
def lastBlock (py : PythonText R) (text : List Char) (names : List Name) (key : Name) :
    Option (Elements R) :=
  lastGiving (arrayBlocks (wantedName py names) key ((linesOf text).map (readLine py)))

/-- Each element of the tuple is the value the dump gives for its own index. -/
def Aligned (py : PythonText R) (text : List Char) (names : List Name) (key : Name)
    (vs : List (Double R)) : Prop :=
  ∀ k v, vs[k]? = some v → (lastBlock py text names key).bind (valueAt · (k + 1)) = some v

/-- The indices a dump gives an array by run from 1 without a gap. -/
def Contiguous (py : PythonText R) (text : List Char) (names : List Name) (key : Name) : Prop :=
  ∀ block, lastBlock py text names key = some block →
    ∃ n, ∀ i, i ∈ block.map Prod.fst ↔ 1 ≤ i ∧ i ≤ n

theorem extractSysvars_tuple {py : PythonText R} {text : List Char} {names : List Name}
    (found : extractSysvars py text names key = some (.tuple vs)) :
    ∃ block, lastBlock py text names key = some block ∧ vs = (fill [] block).map Prod.snd := by
  have explained := scan_explained _ _ found
  rw [explained_iff] at explained
  have outside (lines : List (Line R)) : pending (wantedName py names) key
      (⟨none, [], fun _ => none⟩ : Scan R) lines =
      (arrayBlocks (wantedName py names) key lines).map (fill []) := rfl
  rw [outside, lastGiving_map_fill] at explained
  rcases explained with ⟨d, last, same⟩ | ⟨-, impossible⟩
  · obtain ⟨block, found, rfl⟩ := Option.map_eq_some_iff.mp last
    exact ⟨block, found, same⟩
  · cases impossible

theorem mem_indices {block : Elements R} {i : ℕ} :
    i ∈ (fill [] block).map Prod.fst ↔ i ∈ block.map Prod.fst := by
  induction block using List.reverseRecOn with
  | nil => rfl
  | append_singleton block p ih =>
    have last : fill [] (block ++ [p]) = assign p.1 p.2 (fill [] block) := by
      simp only [fill, List.foldl_append, List.foldl_cons, List.foldl_nil]
    have ordered : Ordered (fill [] block) := fill_ordered List.Pairwise.nil block
    simp only [List.mem_map, Prod.exists, last, mem_assign ordered] at ih ⊢
    simp only [List.mem_append, List.mem_singleton]
    grind

/-- The dict of a block is laid out by position exactly if its indices are contiguous. -/
theorem fill_aligned_iff (block : Elements R) :
    (∀ k v, ((fill [] block).map Prod.snd)[k]? = some v → valueAt block (k + 1) = some v) ↔
      ∃ n, ∀ i, i ∈ block.map Prod.fst ↔ 1 ≤ i ∧ i ≤ n := by
  have ordered : Ordered (fill [] block) := fill_ordered List.Pairwise.nil block
  have increasing : ((fill [] block).map Prod.fst).Pairwise (· < ·) := List.pairwise_map.mpr ordered
  have indices (i : ℕ) : i ∈ block.map Prod.fst ↔ i ∈ (fill [] block).map Prod.fst :=
    mem_indices.symm
  simp only [← mem_fill, indices]
  generalize fill [] block = d at increasing
  have range (n i : ℕ) : i ∈ List.range' 1 n ↔ 1 ≤ i ∧ i ≤ n := by
    rw [List.mem_range'_1]
    omega
  constructor
  · intro aligned
    refine ⟨d.length, fun i => ?_⟩
    have inside : List.range' 1 d.length ⊆ d.map Prod.fst := by
      intro i member
      obtain ⟨low, high⟩ := (range d.length i).mp member
      have bound : i - 1 < d.length := by omega
      have entry := aligned (i - 1) d[i - 1].2
        (by rw [List.getElem?_map, List.getElem?_eq_getElem bound, Option.map_some])
      rw [Nat.sub_add_cancel low] at entry
      exact List.mem_map.mpr ⟨_, entry, rfl⟩
    have lengths : (d.map Prod.fst).length ≤ (List.range' 1 d.length).length := by
      rw [List.length_map, List.length_range']
    have perm := (List.subperm_of_subset List.nodup_range' inside).perm_of_length_le lengths
    rw [← perm.mem_iff, range]
  · rintro ⟨n, contiguous⟩ k v found
    have keys : d.map Prod.fst = List.range' 1 n := by
      apply increasing.eq_of_mem_iff List.pairwise_lt_range'
      intro i
      rw [contiguous, range]
    rw [List.getElem?_map] at found
    obtain ⟨p, entry, rfl⟩ := Option.map_eq_some_iff.mp found
    have position := congrArg (fun l => l[k]?) keys
    simp only [List.getElem?_map, entry, Option.map_some] at position
    obtain ⟨bound, at'⟩ := List.getElem?_eq_some_iff.mp position.symm
    rw [List.getElem_range'] at at'
    have index : p.1 = k + 1 := by omega
    rw [← index]
    exact List.mem_of_getElem? entry

/-- A tuple that comes out of a dump is aligned exactly if the indices it was given by are
contiguous. -/
theorem tuple_aligned_iff {py : PythonText R} {text : List Char} {names : List Name}
    (found : extractSysvars py text names key = some (.tuple vs)) :
    Aligned py text names key vs ↔ Contiguous py text names key := by
  obtain ⟨block, last, rfl⟩ := extractSysvars_tuple found
  simp only [Aligned, Contiguous, last, Option.bind_some, Option.some.injEq, forall_eq']
  exact fill_aligned_iff block

end Given

end AiroFanuc.Probe
