import Scaffold.Export.Basic

/-!
# Running actions

* `run_bind_ok`, `run_bind_error`: how two actions run one after the other.
* `Workspace.told`: a workspace after some entries in its journal.
* `Answers`: an action that gives one answer in every state of a kind, and stays in that kind. It
  says at once what a reading action answers and that it changes nothing.
-/
namespace Scaffold

theorem toOption_eq_some {ε α : Type} {x : Except ε α} {a : α} : x.toOption = some a ↔ x = .ok a := by
  cases x with
  | error e => exact ⟨fun h => (by cases h), fun h => (by cases h)⟩
  | ok b => exact ⟨fun h => (by cases h; rfl), fun h => (by cases h; rfl)⟩

namespace Action

variable {σ α β : Type} {x : Action σ α} {f : α → Action σ β} {s s' : σ}

@[simp] theorem run_pure (a : α) (s : σ) : (pure a : Action σ α).run s = (.ok a, s) := rfl

@[simp] theorem run_get (s : σ) : (get : Action σ σ).run s = (.ok s, s) := rfl

@[simp] theorem run_modify (g : σ → σ) (s : σ) : (modify g).run s = (.ok (), g s) := rfl

theorem run_bind_ok {a : α} (h : x.run s = (.ok a, s')) : (x >>= f).run s = (f a).run s' := by
  unfold run at h ⊢
  simp only [bind, h]

theorem run_bind_error {e : Fault} (h : x.run s = (.error e, s')) :
    (x >>= f).run s = (.error e, s') := by
  unfold run at h ⊢
  simp only [bind, h]

/-- Two actions that ran to a result: the first one did. -/
theorem of_run_bind {b : β} {s'' : σ} (h : (x >>= f).run s = (.ok b, s'')) :
    ∃ a s', x.run s = (.ok a, s') ∧ (f a).run s' = (.ok b, s'') := by
  cases hx : x.run s with
  | mk outcome s' =>
    cases outcome with
    | error e => rw [run_bind_error hx] at h; cases h
    | ok a => rw [run_bind_ok hx] at h; exact ⟨a, s', rfl, h⟩

/-- An action whose outcome is a result ran to that result. -/
theorem exists_run {a : α} (h : (x.run s).1.toOption = some a) : ∃ s', x.run s = (.ok a, s') :=
  ⟨(x.run s).2, by rw [← toOption_eq_some.mp h]⟩

theorem bind_assoc {γ : Type} (x : Action σ α) (f : α → Action σ β) (g : β → Action σ γ) :
    (x >>= f) >>= g = x >>= fun a => f a >>= g := by
  funext s
  change ((x >>= f) >>= g).run s = (x >>= fun a => f a >>= g).run s
  cases hx : x.run s with
  | mk outcome s' =>
    cases outcome with
    | error e => rw [run_bind_error hx, run_bind_error (run_bind_error hx)]
    | ok a =>
      rw [run_bind_ok hx]
      cases hf : (f a).run s' with
      | mk outcome s'' =>
        cases outcome with
        | error e => rw [run_bind_error hf, run_bind_error ((run_bind_ok hx).trans hf)]
        | ok b => rw [run_bind_ok hf, run_bind_ok ((run_bind_ok hx).trans hf)]

theorem run_forEach_cons (g : β → Action σ Unit) (b : β) (rest : List β) :
    forEach (b :: rest) g = g b >>= fun _ => forEach rest g := rfl

theorem run_collect_cons (g : β → Action σ α) (b : β) (rest : List β) :
    collect (b :: rest) g = g b >>= fun a => collect rest g >>= fun others => pure (a :: others) :=
  rfl

/-- Every result of a collection is the result of one of its parts. -/
theorem exists_run_of_collect {g : β → Action σ α} {items : List β} {results : List α} {s s' : σ}
    (h : (collect items g).run s = (.ok results, s')) :
    ∀ a ∈ results, ∃ b ∈ items, ∃ s₁ s₂, (g b).run s₁ = (.ok a, s₂) := by
  induction items generalizing results s with
  | nil => cases h; simp
  | cons b rest ih =>
    rw [run_collect_cons] at h
    obtain ⟨first, s₁, hfirst, h⟩ := of_run_bind h
    obtain ⟨others, s₂, hothers, h⟩ := of_run_bind h
    cases h
    refine List.forall_mem_cons.mpr ⟨⟨b, List.mem_cons_self, _, _, hfirst⟩, fun a ha => ?_⟩
    obtain ⟨c, hc, hrun⟩ := ih hothers a ha
    exact ⟨c, List.mem_cons_of_mem b hc, hrun⟩

end Action

@[simp] theorem run_note {σ : Type} [Journaled σ] (level : Level) (source : Source)
    (message : String) (s : σ) :
    (note level source message).run s = (.ok (), Journaled.record ⟨level, source, message⟩ s) := rfl

theorem timed_run {σ α : Type} [Journaled σ] {label : String} {x : Action σ α} {s s' : σ}
    {r : Except Fault α} (h : x.run s = (r, s')) :
    (timed label x).run s = (r, Journaled.record (timeNote label) s') := by
  unfold Action.run at h ⊢
  simp only [timed, h]

/-! ## Actions that only read -/

namespace Action

variable {σ α β : Type} {R : σ → Prop}

/-- An action that gives one answer in every state of a kind, and leaves a state of that kind. -/
def Answers (R : σ → Prop) (x : Action σ α) (answer : Except Fault α) : Prop :=
  ∀ s, R s → ∃ s', x.run s = (answer, s') ∧ R s'

theorem Answers.pure (a : α) : Answers R (pure a : Action σ α) (.ok a) := fun s h => ⟨s, rfl, h⟩

theorem Answers.fail (e : Fault) : Answers R (fail e : Action σ α) (.error e) :=
  fun s h => ⟨s, rfl, h⟩

theorem Answers.lift (r : Except Fault α) : Answers R (lift r : Action σ α) r :=
  fun s h => ⟨s, rfl, h⟩

/-- Two reading actions, the second chosen by the answer of the first. -/
theorem Answers.bind {x : Action σ α} {f : α → Action σ β} {answer : Except Fault α}
    {g : α → Except Fault β} (hx : Answers R x answer)
    (hf : ∀ a, answer = .ok a → Answers R (f a) (g a)) :
    Answers R (x >>= f) (answer >>= g) := by
  intro s hs
  obtain ⟨s', hr, hs'⟩ := hx s hs
  cases answer with
  | error e => exact ⟨s', run_bind_error hr, hs'⟩
  | ok a =>
    rw [run_bind_ok hr]
    exact hf a rfl s' hs'

theorem Answers.bind_ok {x : Action σ α} {f : α → Action σ β} {a : α} {answer : Except Fault β}
    (hx : Answers R x (.ok a)) (hf : Answers R (f a) answer) : Answers R (x >>= f) answer :=
  hx.bind (g := fun _ => answer) fun b hb => by cases hb; exact hf

theorem Answers.bind_error {x : Action σ α} {f : α → Action σ β} {e : Fault}
    (hx : Answers R x (.error e)) : Answers R (x >>= f) (.error e) :=
  hx.bind (g := fun _ => .error e) fun _ hb => by cases hb

theorem Answers.collect {f : β → Action σ α} {answer : β → Except Fault α}
    (h : ∀ b, Answers R (f b) (answer b)) (items : List β) :
    Answers R (collect items f) (items.mapM answer) := by
  induction items with
  | nil => exact Answers.pure []
  | cons b rest ih =>
    rw [run_collect_cons, List.mapM_cons]
    exact (h b).bind fun a _ => ih.bind fun others _ => Answers.pure (a :: others)

theorem Answers.forEach {f : β → Action σ Unit} (h : ∀ b, Answers R (f b) (.ok ()))
    (items : List β) : Answers R (forEach items f) (.ok ()) := by
  induction items with
  | nil => exact Answers.pure ()
  | cons b rest ih => exact (h b).bind fun _ _ => ih

end Action

/-! ## Outcomes -/

theorem bind_eq_error {ε α β : Type} {x : Except ε α} {f : α → Except ε β} {e : ε} :
    x >>= f = .error e ↔ x = .error e ∨ ∃ a, x = .ok a ∧ f a = .error e := by
  cases x with
  | error e' =>
    constructor
    · intro h; cases h; exact Or.inl rfl
    · rintro (h | ⟨_, h, -⟩)
      · cases h; rfl
      · cases h
  | ok a =>
    constructor
    · exact fun h => Or.inr ⟨a, rfl, h⟩
    · rintro (h | ⟨_, h, hf⟩)
      · cases h
      · cases h; exact hf

theorem bind_eq_ok {ε α β : Type} {x : Except ε α} {f : α → Except ε β} {b : β} :
    x >>= f = .ok b ↔ ∃ a, x = .ok a ∧ f a = .ok b := by
  cases x with
  | error e => exact ⟨fun h => (by cases h), fun ⟨_, h, _⟩ => (by cases h)⟩
  | ok a => exact ⟨fun h => ⟨a, rfl, h⟩, fun ⟨_, h, hf⟩ => (by cases h; exact hf)⟩

/-- What follows need agree only on results. -/
theorem bind_congr_ok {ε α β : Type} {x : Except ε α} {f g : α → Except ε β}
    (h : ∀ a, x = .ok a → f a = g a) : x >>= f = x >>= g := by
  cases x with
  | error e => rfl
  | ok a => exact h a rfl

theorem bind_error_iff {ε α β : Type} {x : Except ε α} {f : α → Except ε β} :
    (∃ e, x >>= f = .error e) ↔ (∃ e, x = .error e) ∨ ∃ a, x = .ok a ∧ ∃ e, f a = .error e := by
  simp only [bind_eq_error, exists_or]
  refine or_congr_right ⟨?_, ?_⟩
  · rintro ⟨e, a, h, hf⟩; exact ⟨a, h, e, hf⟩
  · rintro ⟨a, h, e, hf⟩; exact ⟨e, a, h, hf⟩

theorem mapError_eq_ok {ε ε' α : Type} {x : Except ε α} {f : ε → ε'} {a : α} :
    x.mapError f = .ok a ↔ x = .ok a := by
  cases x with
  | error e => exact ⟨fun h => (by cases h), fun h => (by cases h)⟩
  | ok a' => exact ⟨fun h => (by cases h; rfl), fun h => (by cases h; rfl)⟩

theorem mapError_eq_error {ε ε' α : Type} {x : Except ε α} {f : ε → ε'} {e : ε'} :
    x.mapError f = .error e ↔ ∃ e', x = .error e' ∧ f e' = e := by
  cases x with
  | error e' =>
    exact ⟨fun h => ⟨e', rfl, by cases h; rfl⟩, fun ⟨_, h, hf⟩ => (by cases h; cases hf; rfl)⟩
  | ok a => exact ⟨fun h => (by cases h), fun ⟨_, h, _⟩ => (by cases h)⟩

section Outcomes

variable {ε α β : Type} {f : α → Except ε β}

/-- A list of computations fails where the first of them fails that does. -/
theorem mapM_error_iff {l : List α} {e : ε} :
    l.mapM f = .error e ↔ ∃ before a after, l = before ++ a :: after ∧
      (∀ b ∈ before, ∃ r, f b = .ok r) ∧ f a = .error e := by
  induction l with
  | nil =>
    constructor
    · intro h; cases h
    · rintro ⟨before, a, after, h, -⟩
      simp at h
  | cons x rest ih =>
    rw [List.mapM_cons]
    constructor
    · intro h
      cases hx : f x with
      | error e' => rw [hx] at h; cases h; exact ⟨[], x, rest, rfl, by simp, hx⟩
      | ok r =>
        rw [hx] at h
        cases hrest : rest.mapM f with
        | ok rs => rw [hrest] at h; cases h
        | error e' =>
          rw [hrest] at h
          cases h
          obtain ⟨before, a, after, rfl, hbefore, ha⟩ := ih.mp hrest
          exact ⟨x :: before, a, after, rfl, List.forall_mem_cons.mpr ⟨⟨r, hx⟩, hbefore⟩, ha⟩
    · rintro ⟨before, a, after, hsplit, hbefore, ha⟩
      cases before with
      | nil => cases hsplit; rw [ha]; rfl
      | cons b before =>
        cases hsplit
        obtain ⟨⟨r, hr⟩, hbefore⟩ := List.forall_mem_cons.mp hbefore
        rw [hr, ih.mpr ⟨before, a, after, rfl, hbefore, ha⟩]
        rfl

theorem mapM_ok_iff {l : List α} : (∃ rs, l.mapM f = .ok rs) ↔ ∀ a ∈ l, ∃ r, f a = .ok r := by
  induction l with
  | nil => exact ⟨fun _ a ha => (by cases ha), fun _ => ⟨[], rfl⟩⟩
  | cons x rest ih =>
    rw [List.mapM_cons, List.forall_mem_cons, ← ih]
    cases f x with
    | error e => exact ⟨fun ⟨_, h⟩ => (by cases h), fun ⟨⟨_, h⟩, _⟩ => (by cases h)⟩
    | ok r =>
      cases rest.mapM f with
      | error e => exact ⟨fun ⟨_, h⟩ => (by cases h), fun ⟨_, _, h⟩ => (by cases h)⟩
      | ok rs => exact ⟨fun _ => ⟨⟨r, rfl⟩, rs, rfl⟩, fun _ => ⟨_, rfl⟩⟩

theorem exists_mapM_error_iff {l : List α} :
    (∃ e, l.mapM f = .error e) ↔ ∃ a ∈ l, ∃ e, f a = .error e := by
  constructor
  · rintro ⟨e, h⟩
    obtain ⟨before, a, after, rfl, -, ha⟩ := mapM_error_iff.mp h
    exact ⟨a, by simp, e, ha⟩
  · rintro ⟨a, ha, e, he⟩
    cases hrun : l.mapM f with
    | error e' => exact ⟨e', rfl⟩
    | ok rs =>
      obtain ⟨r, hr⟩ := mapM_ok_iff.mp ⟨rs, hrun⟩ a ha
      rw [he] at hr
      cases hr

end Outcomes

/-- A workspace after some entries in its journal. -/
def Workspace.told (w : Workspace) (notes : List Note) : Workspace :=
  { w with journal := w.journal ++ notes }

@[simp] theorem Workspace.told_nil (w : Workspace) : w.told [] = w := by simp [Workspace.told]

@[simp] theorem Workspace.told_told (w : Workspace) (notes more : List Note) :
    (w.told notes).told more = w.told (notes ++ more) := by
  simp [Workspace.told]

@[simp] theorem Workspace.record_files (w : Workspace) (n : Note) :
    (Journaled.record n w : Workspace).files = w.files := rfl

theorem Workspace.record_told (w : Workspace) (notes : List Note) (n : Note) :
    Journaled.record n (w.told notes) = w.told (notes ++ [n]) := by
  simp [Workspace.told, Journaled.record]

/-- The workspaces that differ from one by entries in the journal behind its own. -/
def Told (w w' : Workspace) : Prop := ∃ notes, w' = w.told notes

theorem Told.refl (w : Workspace) : Told w w := ⟨[], by simp⟩

theorem Told.record {w w' : Workspace} (h : Told w w') (n : Note) :
    Told w (Journaled.record n w') := by
  obtain ⟨notes, rfl⟩ := h
  exact ⟨notes ++ [n], Workspace.record_told w notes n⟩

/-- An entry in the journal leaves a state of a kind that does not look at the journal. -/
theorem note_answers {σ : Type} [Journaled σ] {R : σ → Prop}
    (hR : ∀ n s, R s → R (Journaled.record n s)) (level : Level) (source : Source)
    (message : String) : Action.Answers R (note level source message) (.ok ()) :=
  fun s hs => ⟨_, run_note level source message s, hR _ s hs⟩

theorem timed_answers {σ α : Type} [Journaled σ] {R : σ → Prop} {x : Action σ α}
    {answer : Except Fault α} (hR : ∀ n s, R s → R (Journaled.record n s)) (label : String)
    (h : Action.Answers R x answer) : Action.Answers R (timed label x) answer := by
  intro s hs
  obtain ⟨s', hr, hs'⟩ := h s hs
  exact ⟨_, timed_run hr, hR _ s' hs'⟩

end Scaffold
