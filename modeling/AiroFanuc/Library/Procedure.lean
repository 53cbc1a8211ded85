import Mathlib.Logic.Basic

/-! Procedures that work on a state and may raise: triples with a postcondition for either
ending, what a procedure keeps of its state, and two runs side by side. -/

namespace AiroFanuc.Library

def Procedure (σ ε α : Type) : Type := σ → Except ε α × σ

namespace Procedure

variable {σ ε α β ν : Type}

def run (x : Procedure σ ε α) (s : σ) : Except ε α × σ := x s

def done (a : α) : Procedure σ ε α := fun s => (.ok a, s)

def raise (e : ε) : Procedure σ ε α := fun s => (.error e, s)

def read (f : σ → α) : Procedure σ ε α := fun s => (.ok (f s), s)

def modify (f : σ → σ) : Procedure σ ε Unit := fun s => (.ok (), f s)

def bind (x : Procedure σ ε α) (next : α → Procedure σ ε β) : Procedure σ ε β := fun s =>
  match x s with
  | (.ok a, t) => next a t
  | (.error e, t) => (.error e, t)

/-- What the handler does starts from the state the exception left. -/
def catching (x : Procedure σ ε α) (handler : ε → Procedure σ ε α) : Procedure σ ε α := fun s =>
  match x s with
  | (.ok a, t) => (.ok a, t)
  | (.error e, t) => handler e t

instance : Monad (Procedure σ ε) where
  pure := done
  bind := bind

/-- Either ending meets its postcondition. -/
def Ends (Q : α → σ → Prop) (E : ε → σ → Prop) : Except ε α × σ → Prop
  | (.ok a, t) => Q a t
  | (.error e, t) => E e t

def Triple (P : σ → Prop) (x : Procedure σ ε α) (Q : α → σ → Prop) (E : ε → σ → Prop) : Prop :=
  ∀ s, P s → Ends Q E (x.run s)

section Triple

variable {P P' : σ → Prop} {Q Q' : α → σ → Prop} {R : β → σ → Prop} {E E' : ε → σ → Prop}
  {x : Procedure σ ε α}

theorem triple_done {a : α} (post : ∀ s, P s → Q a s) : Triple P (done a) Q E := post

theorem triple_raise {e : ε} (post : ∀ s, P s → E e s) : Triple P (raise (α := α) e) Q E := post

theorem triple_read {f : σ → α} (post : ∀ s, P s → Q (f s) s) : Triple P (read f) Q E := post

theorem triple_modify {f : σ → σ} {Q : Unit → σ → Prop} (post : ∀ s, P s → Q () (f s)) :
    Triple P (modify f) Q E := post

theorem Triple.bind {next : α → Procedure σ ε β} (first : Triple P x Q E)
    (onward : ∀ a, Triple (Q a) (next a) R E) : Triple P (x >>= next) R E := by
  intro s pre
  have ends := first s pre
  show Ends R E (Procedure.bind x next s)
  unfold Procedure.bind
  revert ends
  rw [run]
  rcases x s with ⟨_ | a, t⟩
  · exact id
  · exact onward a t

/-- Where the first part comes to one result, only what follows that result counts. -/
theorem Triple.bind_eq {next : α → Procedure σ ε β} {v : α} {M : σ → Prop}
    (first : Triple P x (fun a s => a = v ∧ M s) E) (onward : Triple M (next v) R E) :
    Triple P (x >>= next) R E := by
  apply first.bind
  rintro _ s ⟨rfl, post⟩
  exact onward s post

theorem Triple.catching {h : ε → Procedure σ ε α} {F : ε → σ → Prop}
    (first : Triple P x Q F) (handled : ∀ e, Triple (F e) (h e) Q E) :
    Triple P (x.catching h) Q E := by
  intro s pre
  have ends := first s pre
  show Ends Q E (x.catching h s)
  unfold Procedure.catching
  revert ends
  rw [run]
  rcases x s with ⟨e | _, t⟩
  · exact handled e t
  · exact id

theorem Triple.weaken (valid : Triple P x Q E) (pre : ∀ s, P' s → P s)
    (post : ∀ a s, Q a s → Q' a s) (raised : ∀ e s, E e s → E' e s) : Triple P' x Q' E' := by
  intro s holds
  have ends := valid s (pre s holds)
  revert ends
  rcases x.run s with ⟨e | a, t⟩
  · exact raised e t
  · exact post a t

theorem Triple.before (valid : Triple P x Q E) (pre : ∀ s, P' s → P s) : Triple P' x Q E :=
  valid.weaken pre (fun _ _ => id) fun _ _ => id

theorem Triple.both {E₂ : ε → σ → Prop} {Q₂ : α → σ → Prop} (first : Triple P x Q E)
    (second : Triple P x Q₂ E₂) :
    Triple P x (fun a s => Q a s ∧ Q₂ a s) (fun e s => E e s ∧ E₂ e s) := by
  intro s pre
  have ends := first s pre
  have ends₂ := second s pre
  revert ends ends₂
  rcases x.run s with ⟨e | a, t⟩
  · exact And.intro
  · exact And.intro

/-- What holds at the start of a procedure can be used in its postconditions. -/
theorem triple_at (valid : ∀ s, P s → Triple (· = s) x Q E) : Triple P x Q E :=
  fun s pre => valid s pre s rfl

end Triple

/-- A part of the state that the procedure leaves alone. -/
def Keeps (view : σ → ν) (x : Procedure σ ε α) : Prop := ∀ s, view (x.run s).2 = view s

section Keeps

variable {view : σ → ν} {x : Procedure σ ε α}

theorem keeps_done (a : α) : Keeps view (done (σ := σ) (ε := ε) a) := fun _ => rfl

theorem keeps_raise (e : ε) : Keeps view (raise (σ := σ) (α := α) e) := fun _ => rfl

theorem keeps_read (f : σ → α) : Keeps view (read (ε := ε) f) := fun _ => rfl

theorem keeps_modify {f : σ → σ} (same : ∀ s, view (f s) = view s) :
    Keeps view (modify (ε := ε) f) := same

theorem Keeps.bind {next : α → Procedure σ ε β} (first : Keeps view x)
    (onward : ∀ a, Keeps view (next a)) : Keeps view (x >>= next) := by
  intro s
  show view (Procedure.bind x next s).2 = view s
  have kept := first s
  revert kept
  unfold Procedure.bind
  rw [run]
  rcases x s with ⟨_ | a, t⟩
  · exact id
  · exact (onward a t).trans

theorem Keeps.catching {handler : ε → Procedure σ ε α} (first : Keeps view x)
    (handled : ∀ e, Keeps view (handler e)) : Keeps view (x.catching handler) := by
  intro s
  show view (x.catching handler s).2 = view s
  have kept := first s
  revert kept
  unfold Procedure.catching
  rw [run]
  rcases x s with ⟨e | _, t⟩
  · exact (handled e t).trans
  · exact id

theorem Keeps.triple (kept : Keeps view x) (P : ν → Prop) :
    Triple (fun s => P (view s)) x (fun _ s => P (view s)) (fun _ s => P (view s)) := by
  intro s pre
  have same := kept s
  rw [← same] at pre
  revert pre
  rcases x.run s with ⟨e | a, t⟩ <;> exact id

end Keeps

/-- Two runs end alike, in states that the relation of their ending joins. -/
def EndTogether (Q : α → σ → σ → Prop) (E : ε → σ → σ → Prop) :
    Except ε α × σ → Except ε α × σ → Prop
  | (.ok a, s), (.ok b, t) => a = b ∧ Q a s t
  | (.error e, s), (.error f, t) => e = f ∧ E e s t
  | _, _ => False

/-- A procedure run from any two states that `P` joins. -/
def Together (P : σ → σ → Prop) (x : Procedure σ ε α) (Q : α → σ → σ → Prop)
    (E : ε → σ → σ → Prop) : Prop :=
  ∀ s t, P s t → EndTogether Q E (x.run s) (x.run t)

section Together

variable {P P' : σ → σ → Prop} {Q Q' : α → σ → σ → Prop} {R : β → σ → σ → Prop}
  {E E' : ε → σ → σ → Prop} {x : Procedure σ ε α}

theorem together_done {a : α} (post : ∀ s t, P s t → Q a s t) : Together P (done a) Q E :=
  fun s t joined => ⟨rfl, post s t joined⟩

theorem together_raise {e : ε} (post : ∀ s t, P s t → E e s t) :
    Together P (raise (α := α) e) Q E :=
  fun s t joined => ⟨rfl, post s t joined⟩

theorem together_read {f : σ → α} (post : ∀ s t, P s t → f s = f t ∧ Q (f s) s t) :
    Together P (read f) Q E := post

theorem together_modify {f : σ → σ} {Q : Unit → σ → σ → Prop}
    (post : ∀ s t, P s t → Q () (f s) (f t)) : Together P (modify f) Q E :=
  fun s t joined => ⟨rfl, post s t joined⟩

theorem Together.bind {next : α → Procedure σ ε β} (first : Together P x Q E)
    (onward : ∀ a, Together (Q a) (next a) R E) : Together P (x >>= next) R E := by
  intro s t joined
  have alike := first s t joined
  show EndTogether R E (Procedure.bind x next s) (Procedure.bind x next t)
  unfold Procedure.bind
  revert alike
  rw [run, run]
  rcases x s with ⟨_ | a, s'⟩ <;> rcases x t with ⟨_ | b, t'⟩
  · exact id
  · exact False.elim
  · exact False.elim
  · rintro ⟨rfl, post⟩
    exact onward a s' t' post

theorem Together.catching {handler : ε → Procedure σ ε α} {F : ε → σ → σ → Prop}
    (first : Together P x Q F) (handled : ∀ e, Together (F e) (handler e) Q E) :
    Together P (x.catching handler) Q E := by
  intro s t joined
  have alike := first s t joined
  show EndTogether Q E (x.catching handler s) (x.catching handler t)
  unfold Procedure.catching
  revert alike
  rw [run, run]
  rcases x s with ⟨e | _, s'⟩ <;> rcases x t with ⟨f | _, t'⟩
  · rintro ⟨rfl, post⟩
    exact handled e s' t' post
  · exact False.elim
  · exact False.elim
  · exact id

theorem Together.weaken (alike : Together P x Q E) (pre : ∀ s t, P' s t → P s t)
    (post : ∀ a s t, Q a s t → Q' a s t) (raised : ∀ e s t, E e s t → E' e s t) :
    Together P' x Q' E' := by
  intro s t joined
  have ends := alike s t (pre s t joined)
  revert ends
  rcases x.run s with ⟨e | a, s'⟩ <;> rcases x.run t with ⟨f | b, t'⟩
  · exact And.imp_right (raised e s' t')
  · exact id
  · exact id
  · exact And.imp_right (post a s' t')

/-- What a triple says of a procedure holds of the first of two runs. -/
theorem Together.withTriple {P₁ : σ → Prop} {Q₁ : α → σ → Prop} {E₁ : ε → σ → Prop}
    (alike : Together P x Q E) (valid : Triple P₁ x Q₁ E₁) (pre : ∀ s t, P s t → P₁ s) :
    Together P x (fun a s t => Q a s t ∧ Q₁ a s) fun e s t => E e s t ∧ E₁ e s := by
  intro s t joined
  have ends := alike s t joined
  have first := valid s (pre s t joined)
  revert ends first
  rcases x.run s with ⟨e | a, s'⟩ <;> rcases x.run t with ⟨f | b, t'⟩
  · exact fun ends first => ⟨ends.1, ends.2, first⟩
  · exact fun ends _ => ends
  · exact fun ends _ => ends
  · exact fun ends first => ⟨ends.1, ends.2, first⟩

theorem Together.before (alike : Together P x Q E) (pre : ∀ s t, P' s t → P s t) :
    Together P' x Q E :=
  alike.weaken pre (fun _ _ _ => id) fun _ _ _ => id

theorem Together.ends {V : σ → σ → Prop} (alike : Together P x (fun _ => V) fun _ => V) {s t : σ}
    (joined : P s t) : (x.run s).1 = (x.run t).1 ∧ V (x.run s).2 (x.run t).2 := by
  have ended := alike s t joined
  revert ended
  rcases x.run s with ⟨e | a, s'⟩ <;> rcases x.run t with ⟨f | b, t'⟩
  · exact fun ended => ⟨congrArg Except.error ended.1, ended.2⟩
  · exact False.elim
  · exact False.elim
  · exact fun ended => ⟨congrArg Except.ok ended.1, ended.2⟩

end Together

end Procedure

end AiroFanuc.Library
