import Mathlib.Data.List.Basic
import Mathlib.Tactic.Common

/-!
# Stateful programs that may stop early

A program reads and changes a state and either returns a value or stops for a
stated reason, keeping the state it had reached. Two ways of speaking about
a run are used throughout. `Post` gives the postcondition of one run, with a
separate condition for the runs that stop. `Frame` says what every run does
to the state however it ends.
-/

namespace DemoIotApp.Library

universe w

/-- How a run ends. A stopped run still shows the state it had reached. -/
inductive Outcome (ε σ α : Type*) where
  | ok (value : α) (state : σ)
  | stop (reason : ε) (state : σ)

variable {ε σ τ ι : Type*} {α β : Type w}

def Outcome.state : Outcome ε σ α → σ
  | .ok _ s => s
  | .stop _ s => s

@[simp] theorem Outcome.state_ok (a : α) (s : σ) :
    (Outcome.ok a s : Outcome ε σ α).state = s := rfl

@[simp] theorem Outcome.state_stop (e : ε) (s : σ) :
    (Outcome.stop e s : Outcome ε σ α).state = s := rfl

theorem Outcome.ok_pair_inj {a a' : α} {b b' : β} {s s' : σ}
    (h : (Outcome.ok (a, b) s : Outcome ε σ (α × β)) = .ok (a', b') s') :
    a = a' ∧ b = b' ∧ s = s' := by
  obtain ⟨hpair, hs⟩ := Outcome.ok.inj h
  obtain ⟨ha, hb⟩ := Prod.mk.inj hpair
  exact ⟨ha, hb, hs⟩

/-- A view of a run that returned. -/
def Outcome.view? {γ : Type*} (view : α → σ → γ) : Outcome ε σ α → Option γ
  | .ok a s => some (view a s)
  | .stop _ _ => none

theorem Outcome.view?_eq_some_iff {γ : Type*} {view : α → σ → γ} {o : Outcome ε σ α} {c : γ} :
    o.view? view = some c ↔ ∃ a s, o = .ok a s ∧ view a s = c := by
  cases o with
  | ok a s => simp [view?]
  | stop e s => simp [view?]

/-- The reason for which a run has stopped. -/
def Outcome.reason? : Outcome ε σ α → Option ε
  | .ok _ _ => none
  | .stop e _ => some e

theorem Outcome.reason?_eq_some_iff {o : Outcome ε σ α} {e : ε} :
    o.reason? = some e ↔ ∃ s, o = .stop e s := by
  cases o with
  | ok a s => simp [reason?]
  | stop e s => simp [reason?]

def Prog (ε σ α : Type*) := σ → Outcome ε σ α

namespace Prog

instance : Monad (Prog ε σ) where
  pure a := fun s ↦ .ok a s
  bind m f := fun s ↦
    match m s with
    | .ok a t => f a t
    | .stop e t => .stop e t

def get : Prog ε σ σ := fun s ↦ .ok s s

def modify (f : σ → σ) : Prog ε σ Unit := fun s ↦ .ok () (f s)

def stop (e : ε) : Prog ε σ α := fun s ↦ .stop e s

/-- Run a program on a part of the state. -/
def zoom (view : σ → τ) (put : τ → σ → σ) (m : Prog ε τ α) : Prog ε σ α := fun s ↦
  match m (view s) with
  | .ok a t => .ok a (put t s)
  | .stop e t => .stop e (put t s)

/-- Run a program and write down what it did, also when it stops. -/
def recorded (note : σ → Option α → σ → σ) (m : Prog ε σ α) : Prog ε σ α := fun s ↦
  match m s with
  | .ok a t => .ok a (note s (some a) t)
  | .stop e t => .stop e (note s none t)

section Run

theorem pure_apply (a : α) (s : σ) : (pure a : Prog ε σ α) s = .ok a s := rfl

theorem get_apply (s : σ) : (get : Prog ε σ σ) s = .ok s s := rfl

theorem bind_apply (m : Prog ε σ α) (f : α → Prog ε σ β) (s : σ) :
    (m >>= f) s = match m s with
      | .ok a t => f a t
      | .stop e t => .stop e t := rfl

theorem bind_eq_of_ok {m : Prog ε σ α} {f : α → Prog ε σ β} {s t : σ} {a : α}
    (h : m s = .ok a t) : (m >>= f) s = f a t := by
  rw [bind_apply, h]

theorem bind_eq_of_stop {m : Prog ε σ α} {f : α → Prog ε σ β} {s t : σ} {e : ε}
    (h : m s = .stop e t) : (m >>= f) s = .stop e t := by
  rw [bind_apply, h]

theorem bind_eq_ok_iff {m : Prog ε σ α} {f : α → Prog ε σ β} {s u : σ} {b : β} :
    (m >>= f) s = .ok b u ↔ ∃ a t, m s = .ok a t ∧ f a t = .ok b u := by
  rw [bind_apply]
  cases m s <;> simp

theorem zoom_eq_ok_iff {view : σ → τ} {put : τ → σ → σ} {m : Prog ε τ α} {s u : σ} {a : α} :
    zoom view put m s = .ok a u ↔ ∃ t, m (view s) = .ok a t ∧ u = put t s := by
  unfold zoom
  cases m (view s) <;> simp [eq_comm, and_assoc]

end Run

/-! ## Postconditions -/

instance : LawfulMonad (Prog ε σ) := by
  refine LawfulMonad.mk' _ (fun m ↦ ?_) (fun _ _ ↦ rfl) fun m f g ↦ ?_
  · funext s
    change (match m s with
      | .ok a t => .ok a t
      | .stop e t => .stop e t) = m s
    cases m s <;> rfl
  · funext s
    simp only [bind_apply]
    cases m s <;> rfl

/-- A run from `s` returns into `Q` or stops in `E`. -/
def Post (m : Prog ε σ α) (s : σ) (Q : α → σ → Prop) (E : ε → σ → Prop) : Prop :=
  match m s with
  | .ok a t => Q a t
  | .stop e t => E e t

variable {s : σ} {Q Q' : α → σ → Prop} {E E' : ε → σ → Prop}

/-- A postcondition of one run can be checked. -/
instance decidablePost {m : Prog ε σ α} [∀ a t, Decidable (Q a t)] [∀ e t, Decidable (E e t)] :
    Decidable (Post m s Q E) :=
  match h : m s with
  | .ok a t => decidable_of_iff (Q a t) (by rw [Post, h])
  | .stop e t => decidable_of_iff (E e t) (by rw [Post, h])

theorem post_of_ok {m : Prog ε σ α} {a : α} {t : σ} (h : m s = .ok a t) :
    Post m s Q E ↔ Q a t := by
  rw [Post, h]

theorem post_of_stop {m : Prog ε σ α} {e : ε} {t : σ} (h : m s = .stop e t) :
    Post m s Q E ↔ E e t := by
  rw [Post, h]

theorem Post.ok {m : Prog ε σ α} {a : α} {t : σ} (hm : Post m s Q E) (h : m s = .ok a t) :
    Q a t :=
  (post_of_ok h).mp hm

theorem Post.stop {m : Prog ε σ α} {e : ε} {t : σ} (hm : Post m s Q E) (h : m s = .stop e t) :
    E e t :=
  (post_of_stop h).mp hm

/-- A run that cannot stop returns. -/
theorem Post.exists_ok {m : Prog ε σ α} (h : Post m s Q fun _ _ ↦ False) :
    ∃ a t, m s = .ok a t ∧ Q a t := by
  unfold Post at h
  cases hm : m s with
  | ok a t =>
      rw [hm] at h
      exact ⟨a, t, rfl, h⟩
  | stop e t =>
      rw [hm] at h
      exact h.elim

theorem post_intro {m : Prog ε σ α} (hok : ∀ a t, m s = .ok a t → Q a t)
    (hstop : ∀ e t, m s = .stop e t → E e t) : Post m s Q E := by
  unfold Post
  cases h : m s with
  | ok a t => exact hok a t h
  | stop e t => exact hstop e t h

theorem Post.mono {m : Prog ε σ α} (h : Post m s Q E) (hQ : ∀ a t, Q a t → Q' a t)
    (hE : ∀ e t, E e t → E' e t) : Post m s Q' E' := by
  unfold Post at h ⊢
  cases hm : m s with
  | ok a t =>
      rw [hm] at h
      exact hQ a t h
  | stop e t =>
      rw [hm] at h
      exact hE e t h

/-- Only the outcome of the run matters. -/
theorem post_iff_post {m : Prog ε σ α} (hok : ∀ a t, m s = .ok a t → (Q a t ↔ Q' a t))
    (hstop : ∀ e t, m s = .stop e t → (E e t ↔ E' e t)) : Post m s Q E ↔ Post m s Q' E' := by
  unfold Post
  cases hm : m s with
  | ok a t => exact hok a t hm
  | stop e t => exact hstop e t hm

theorem post_congr {m : Prog ε σ α} (h : ∀ a t, m s = .ok a t → (Q a t ↔ Q' a t)) :
    Post m s Q E ↔ Post m s Q' E :=
  post_iff_post h fun _ _ _ ↦ Iff.rfl

theorem Post.and {m : Prog ε σ α} (h : Post m s Q E) (h' : Post m s Q' E') :
    Post m s (fun a t ↦ Q a t ∧ Q' a t) (fun e t ↦ E e t ∧ E' e t) := by
  refine post_intro (fun a t hm ↦ ?_) (fun e t hm ↦ ?_)
  · exact ⟨(post_of_ok hm).mp h, (post_of_ok hm).mp h'⟩
  · exact ⟨(post_of_stop hm).mp h, (post_of_stop hm).mp h'⟩

@[simp] theorem post_pure (a : α) : Post (pure a : Prog ε σ α) s Q E ↔ Q a s := Iff.rfl

@[simp] theorem post_get {Q : σ → σ → Prop} :
    Post (get : Prog ε σ σ) s Q E ↔ Q s s := Iff.rfl

@[simp] theorem post_modify {f : σ → σ} {Q : Unit → σ → Prop} :
    Post (modify f : Prog ε σ Unit) s Q E ↔ Q () (f s) := Iff.rfl

@[simp] theorem post_stop (e : ε) : Post (stop e : Prog ε σ α) s Q E ↔ E e s := Iff.rfl

theorem post_bind {m : Prog ε σ α} {f : α → Prog ε σ β} {Q : β → σ → Prop} :
    Post (m >>= f) s Q E ↔ Post m s (fun a t ↦ Post (f a) t Q E) E := by
  unfold Post
  rw [bind_apply]
  cases m s <;> rfl

theorem Post.bind {m : Prog ε σ α} {f : α → Prog ε σ β} {R : β → σ → Prop}
    (h : Post m s Q E) (hf : ∀ a t, Q a t → Post (f a) t R E) : Post (m >>= f) s R E :=
  post_bind.mpr (h.mono hf fun _ _ he ↦ he)

theorem post_ite {c : Prop} [Decidable c] {m n : Prog ε σ α} (hm : c → Post m s Q E)
    (hn : ¬c → Post n s Q E) : Post (if c then m else n) s Q E := by
  by_cases hc : c
  · simpa only [if_pos hc] using hm hc
  · simpa only [if_neg hc] using hn hc

theorem post_zoom {view : σ → τ} {put : τ → σ → σ} {m : Prog ε τ α} :
    Post (zoom view put m) s Q E ↔
      Post m (view s) (fun a t ↦ Q a (put t s)) (fun e t ↦ E e (put t s)) := by
  unfold Post zoom
  cases m (view s) <;> rfl

theorem post_recorded {note : σ → Option α → σ → σ} {m : Prog ε σ α} :
    Post (recorded note m) s Q E ↔
      Post m s (fun a t ↦ Q a (note s (some a) t)) (fun e t ↦ E e (note s none t)) := by
  unfold Post recorded
  cases m s <;> rfl

/-! ## What every run does to the state -/

/-- Whether a run returns or stops, it relates the state before to the state
it reached by `R`. -/
def Frame (R : σ → σ → Prop) (m : Prog ε σ α) : Prop :=
  ∀ s, R s (m s).state

variable {R : σ → σ → Prop}

theorem Frame.post {m : Prog ε σ α} (h : Frame R m) (s : σ) :
    Post m s (fun _ t ↦ R s t) (fun _ t ↦ R s t) := by
  refine post_intro (fun a t hm ↦ ?_) (fun e t hm ↦ ?_)
  · simpa [hm] using h s
  · simpa [hm] using h s

theorem Frame.ok {m : Prog ε σ α} (h : Frame R m) {s t : σ} {a : α} (hm : m s = .ok a t) :
    R s t := by
  simpa [hm] using h s

theorem Frame.mono {R' : σ → σ → Prop} {m : Prog ε σ α} (h : Frame R m)
    (hR : ∀ s t, R s t → R' s t) : Frame R' m :=
  fun s ↦ hR s _ (h s)

theorem frame_pure (hrefl : ∀ s, R s s) (a : α) : Frame R (pure a : Prog ε σ α) :=
  fun s ↦ hrefl s

theorem frame_stop (hrefl : ∀ s, R s s) (e : ε) : Frame R (stop e : Prog ε σ α) :=
  fun s ↦ hrefl s

theorem frame_bind (htrans : ∀ s t u, R s t → R t u → R s u) {m : Prog ε σ α}
    {f : α → Prog ε σ β} (hm : Frame R m) (hf : ∀ a, Frame R (f a)) : Frame R (m >>= f) := by
  intro s
  have h := hm s
  rw [bind_apply]
  cases hms : m s with
  | ok a t =>
      rw [hms] at h
      exact htrans s t _ h (hf a t)
  | stop e t => simpa [hms] using h

theorem frame_ite {c : Prop} [Decidable c] {m n : Prog ε σ α} (hm : Frame R m)
    (hn : Frame R n) : Frame R (if c then m else n) := by
  split
  · exact hm
  · exact hn

/-! ## Invariants -/

/-- From every state with the invariant the run returns a value in `V` and the
invariant still holds, or it stops in `E`. -/
def Keeps (I : σ → Prop) (E : ε → σ → Prop) (V : α → Prop) (m : Prog ε σ α) : Prop :=
  ∀ s, I s → Post m s (fun a t ↦ V a ∧ I t) E

section Keeps

variable {I : σ → Prop} {V V' : α → Prop} {U : β → Prop}

theorem Keeps.mono {m : Prog ε σ α} (h : Keeps I E V m) (hV : ∀ a, V a → V' a) :
    Keeps I E V' m :=
  fun s hs ↦ (h s hs).mono (fun a _ ha ↦ ⟨hV a ha.1, ha.2⟩) fun _ _ he ↦ he

theorem keeps_pure {a : α} (ha : V a) : Keeps I E V (pure a : Prog ε σ α) :=
  fun _ hs ↦ ⟨ha, hs⟩

theorem keeps_stop {e : ε} (he : ∀ s, I s → E e s) : Keeps I E V (stop e : Prog ε σ α) :=
  he

theorem Keeps.bind {m : Prog ε σ α} {f : α → Prog ε σ β} (hm : Keeps I E V m)
    (hf : ∀ a, V a → Keeps I E U (f a)) : Keeps I E U (m >>= f) :=
  fun s hs ↦ (hm s hs).bind fun a t ha ↦ hf a ha.1 t ha.2

theorem keeps_ite {c : Prop} [Decidable c] {m n : Prog ε σ α} (hm : c → Keeps I E V m)
    (hn : ¬c → Keeps I E V n) : Keeps I E V (if c then m else n) :=
  fun s hs ↦ post_ite (fun hc ↦ hm hc s hs) fun hc ↦ hn hc s hs

/-- Whatever the run returns is in `V`. -/
abbrev Yields (V : α → Prop) (m : Prog ε σ α) : Prop :=
  Keeps (fun _ ↦ True) (fun _ _ ↦ True) V m

theorem yields_true (m : Prog ε σ α) : Yields (fun _ ↦ True) m :=
  fun _ _ ↦ post_intro (fun _ _ _ ↦ ⟨trivial, trivial⟩) fun _ _ _ ↦ trivial

theorem yields_of_ok {m : Prog ε σ α} (h : ∀ s a t, m s = .ok a t → V a) : Yields V m :=
  fun s _ ↦ post_intro (fun a t hm ↦ ⟨h s a t hm, trivial⟩) fun _ _ _ ↦ trivial

theorem Yields.post {m : Prog ε σ α} (h : Yields V m) (s : σ) :
    Post m s (fun a _ ↦ V a) fun _ _ ↦ True :=
  (h s trivial).mono (fun _ _ ha ↦ ha.1) fun _ _ h ↦ h

theorem keeps_foldlM {f : β → ι → Prog ε σ β} (h : ∀ b i, U b → Keeps I E U (f b i)) :
    ∀ (is : List ι) (b : β), U b → Keeps I E U (is.foldlM f b) := by
  intro is
  induction is with
  | nil => exact fun b hb ↦ keeps_pure hb
  | cons i is ih =>
      intro b hb
      rw [List.foldlM_cons]
      exact (h b i hb).bind fun b' hb' ↦ ih b' hb'

/-- From a state with `I` the run returns a value in `V`, and then `J` holds, and
`K` as well when the value is good; or it stops in `E`. -/
def Leaves (I J K : σ → Prop) (E : ε → σ → Prop) (V good : α → Prop) (m : Prog ε σ α) : Prop :=
  ∀ s, I s → Post m s (fun a t ↦ V a ∧ J t ∧ (good a → K t)) E

section Leaves

variable {J K K' : σ → Prop} {good : α → Prop} {good' : β → Prop}

theorem Keeps.leaves {m : Prog ε σ α} (h : Keeps I E V m) (hIJ : ∀ s, I s → J s) :
    Leaves I J I E V good m :=
  fun s hs ↦ (h s hs).mono (fun _ t ht ↦ ⟨ht.1, hIJ t ht.2, fun _ ↦ ht.2⟩) fun _ _ he ↦ he

theorem Leaves.keeps {m : Prog ε σ α} (h : Leaves I I K E V good m) : Keeps I E V m :=
  fun s hs ↦ (h s hs).mono (fun _ _ ht ↦ ⟨ht.1, ht.2.1⟩) fun _ _ he ↦ he

theorem leaves_pure {a : α} (ha : V a) (hIJ : ∀ s, I s → J s) :
    Leaves I J I E V good (pure a : Prog ε σ α) :=
  (keeps_pure ha).leaves hIJ

theorem leaves_pure_of_not {a : α} (ha : V a) (hbad : ¬good a) (hIJ : ∀ s, I s → J s) :
    Leaves I J K E V good (pure a : Prog ε σ α) :=
  fun s hs ↦ ⟨ha, hIJ s hs, fun h ↦ absurd h hbad⟩

theorem leaves_ite {c : Prop} [Decidable c] {m n : Prog ε σ α}
    (hm : c → Leaves I J K E V good m) (hn : ¬c → Leaves I J K E V good n) :
    Leaves I J K E V good (if c then m else n) :=
  fun s hs ↦ post_ite (fun hc ↦ hm hc s hs) fun hc ↦ hn hc s hs

theorem Keeps.bind_leaves {m : Prog ε σ α} {f : α → Prog ε σ β} (hm : Keeps I E V m)
    (hf : ∀ a, V a → Leaves I J K E U good' (f a)) : Leaves I J K E U good' (m >>= f) :=
  fun s hs ↦ (hm s hs).bind fun a t ha ↦ hf a ha.1 t ha.2

/-- After a bad value the rest returns at once, and its value is bad too. -/
theorem Leaves.bind {m : Prog ε σ α} {f : α → Prog ε σ β} (hm : Leaves I J K E V good m)
    (hgood : ∀ a, V a → good a → Leaves K J K' E U good' (f a))
    (hbad : ∀ a, V a → ¬good a → ∃ b, f a = pure b ∧ U b ∧ ¬good' b) :
    Leaves I J K' E U good' (m >>= f) := by
  refine fun s hs ↦ (hm s hs).bind fun a t ⟨hV, hJ, hK⟩ ↦ ?_
  by_cases ha : good a
  · exact hgood a hV ha t (hK ha)
  · obtain ⟨b, hb, hU, hnot⟩ := hbad a hV ha
    rw [hb]
    exact ⟨hU, hJ, fun h ↦ absurd h hnot⟩

end Leaves

end Keeps

/-! ## Runs over a list of inputs -/

theorem foldlM_append_eq_ok_iff {f : β → ι → Prog ε σ β} {is js : List ι} {b b' : β} {s t : σ} :
    (is ++ js).foldlM f b s = .ok b' t ↔
      ∃ b₁ u, is.foldlM f b s = .ok b₁ u ∧ js.foldlM f b₁ u = .ok b' t := by
  induction is generalizing b s with
  | nil =>
      constructor
      · exact fun h ↦ ⟨b, s, rfl, h⟩
      · rintro ⟨b₁, u, h, hjs⟩
        obtain ⟨rfl, rfl⟩ := Outcome.ok.inj h
        exact hjs
  | cons i is ih =>
      simp only [List.cons_append, List.foldlM_cons, bind_eq_ok_iff, ih]
      constructor
      · rintro ⟨b₁, u, hi, b₂, v, his, hjs⟩
        exact ⟨b₂, v, ⟨b₁, u, hi, his⟩, hjs⟩
      · rintro ⟨b₂, v, ⟨b₁, u, hi, his⟩, hjs⟩
        exact ⟨b₁, u, hi, b₂, v, his, hjs⟩

/-- `C` holds of the value, the state and the input before every step of the
run over the list. -/
def Along (C : β → σ → ι → Prop) (f : β → ι → Prog ε σ β) : List ι → β → σ → Prop
  | [], _, _ => True
  | i :: is, b, s => C b s i ∧ ∀ b' t, f b i s = .ok b' t → Along C f is b' t

/-- Two conditions that agree where an invariant holds agree along every run, if
the steps that they allow keep the invariant. -/
theorem along_iff {I : β → σ → Prop} {C C' : β → σ → ι → Prop} {f : β → ι → Prog ε σ β}
    (hiff : ∀ b s i, I b s → (C b s i ↔ C' b s i))
    (hstep : ∀ b s i b' t, I b s → C' b s i → f b i s = .ok b' t → I b' t) :
    ∀ (is : List ι) (b : β) (s : σ), I b s → (Along C f is b s ↔ Along C' f is b s) := by
  intro is
  induction is with
  | nil => exact fun _ _ _ ↦ Iff.rfl
  | cons i is ih =>
      intro b s hI
      constructor
      · rintro ⟨hC, hrest⟩
        have hC' := (hiff b s i hI).mp hC
        exact ⟨hC', fun b' t hf ↦ (ih b' t (hstep b s i b' t hI hC' hf)).mp (hrest b' t hf)⟩
      · rintro ⟨hC', hrest⟩
        exact ⟨(hiff b s i hI).mpr hC',
          fun b' t hf ↦ (ih b' t (hstep b s i b' t hI hC' hf)).mpr (hrest b' t hf)⟩

theorem Along.and_mem {C : β → σ → ι → Prop} {D : ι → Prop} {f : β → ι → Prog ε σ β} :
    ∀ {is : List ι} {b : β} {s : σ}, Along C f is b s → (∀ i ∈ is, D i) →
      Along (fun b s i ↦ C b s i ∧ D i) f is b s := by
  intro is
  induction is with
  | nil => exact fun _ _ ↦ trivial
  | cons i is ih =>
      intro b s hC hD
      rw [List.forall_mem_cons] at hD
      exact ⟨⟨hC.1, hD.1⟩, fun b' t hf ↦ ih (hC.2 b' t hf) hD.2⟩

/-- A condition that can be checked before a step can be checked along a run. -/
instance decidableAlong {C : β → σ → ι → Prop} [∀ b s i, Decidable (C b s i)]
    {f : β → ι → Prog ε σ β} :
    (is : List ι) → (b : β) → (s : σ) → Decidable (Along C f is b s)
  | [], _, _ => isTrue trivial
  | i :: is, b, s =>
      match h : f b i s with
      | .ok b' t =>
          have : Decidable (Along C f is b' t) := decidableAlong is b' t
          decidable_of_iff (C b s i ∧ Along C f is b' t)
            ⟨fun hC ↦ ⟨hC.1, fun b'' t' h' ↦ by
              obtain ⟨rfl, rfl⟩ := Outcome.ok.inj (h.symm.trans h')
              exact hC.2⟩, fun hC ↦ ⟨hC.1, hC.2 b' t h⟩⟩
      | .stop e t =>
          decidable_of_iff (C b s i)
            ⟨fun hC ↦ ⟨hC, fun b' t' h' ↦ by simp [h] at h'⟩, fun hC ↦ hC.1⟩

/-- The run rule. The invariant may speak of the inputs that were taken so far. -/
theorem post_foldlM_taken {I : List ι → β → σ → Prop} {E : List ι → ε → σ → Prop}
    {C : β → σ → ι → Prop} {f : β → ι → Prog ε σ β}
    (hstep : ∀ taken b s i, I taken b s → C b s i →
      Post (f b i) s (I (taken ++ [i])) (E (taken ++ [i]))) :
    ∀ (is taken : List ι) (b : β) (s : σ), I taken b s → Along C f is b s →
      Post (is.foldlM f b) s (I (taken ++ is))
        fun e t ↦ ∃ is', is' <+: is ∧ E (taken ++ is') e t := by
  intro is
  induction is with
  | nil =>
      intro taken b s hI _
      rw [List.append_nil]
      exact hI
  | cons i is ih =>
      intro taken b s hI hC
      rw [List.foldlM_cons, post_bind]
      have hfirst := hstep taken b s i hI hC.1
      refine post_intro (fun b' t hm ↦ ?_) (fun e t hm ↦ ?_)
      · have hrest := ih (taken ++ [i]) b' t (hfirst.ok hm) (hC.2 b' t hm)
        simp only [List.append_assoc, List.singleton_append] at hrest
        exact hrest.mono (fun _ _ h ↦ h) fun _ _ ⟨is', hprefix, he⟩ ↦
          ⟨i :: is', List.cons_prefix_cons.mpr ⟨rfl, hprefix⟩, he⟩
      · exact ⟨[i], List.cons_prefix_cons.mpr ⟨rfl, List.nil_prefix⟩, hfirst.stop hm⟩

/-- An invariant that every allowed step keeps holds at the end of every run whose steps
are all allowed. -/
theorem post_foldlM {I : β → σ → Prop} {C : β → σ → ι → Prop} {f : β → ι → Prog ε σ β}
    (hstop : ∀ b s i, I b s → C b s i → Post (f b i) s I E) (is : List ι) (b : β) (s : σ)
    (hI : I b s) (hC : Along C f is b s) : Post (is.foldlM f b) s I E :=
  (post_foldlM_taken (I := fun _ ↦ I) (E := fun _ ↦ E) (fun _ b s i ↦ hstop b s i)
    is [] b s hI hC).mono (fun _ _ h ↦ h) fun _ _ ⟨_, _, he⟩ ↦ he

/-! ## Loops with fuel -/

/-- The rule for a loop that is given fuel. At its head it is known to need no more than `n`
turns, and a turn either ends the loop or leads to a head from which it needs fewer. -/
theorem post_loop {κ : Type*} {loop : ℕ → κ → Prog ε σ α} {I : ℕ → κ → σ → Prop}
    {Q : α → σ → Prop} {E : ε → σ → Prop}
    (hturn : ∀ n fuel x s, I n x s → Post (loop (fuel + 1) x) s Q E ∨
      ∃ m < n, ∃ x' s', loop (fuel + 1) x s = loop fuel x' s' ∧ I m x' s') :
    ∀ {n fuel : ℕ} {x : κ} {s : σ}, n < fuel → I n x s → Post (loop fuel x) s Q E := by
  intro n fuel
  induction fuel generalizing n with
  | zero => exact fun hfuel ↦ absurd hfuel (Nat.not_lt_zero n)
  | succ fuel ih =>
      intro x s hfuel hI
      rcases hturn n fuel x s hI with hends | ⟨m, hm, x', s', heq, hI'⟩
      · exact hends
      · rw [Post, heq]
        exact ih (by omega) hI'

end Prog

end DemoIotApp.Library
