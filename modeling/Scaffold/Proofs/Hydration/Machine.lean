import Scaffold.Hydration.Block

/-!
# Running hydration code

The meaning of the statements of a hydration block: they change variables and objects. Objects are held by
reference, so two variables can lead to one object, and a variable that is bound anew leaves the object
it led to as it was.

* `Machine`: the variables, and the objects that were made.
* `Statement.run`, `run`: what statements do; a row that is not there when it is needed ends the run.
* `Machine.shows`: the fields of an object, the references in them followed.
* `run_preserves`: what every statement preserves a run preserves.
-/
namespace Scaffold.Hydration

variable {α : Type}

/-- What a variable holds. -/
inductive Content (α : Type) where
  | truth (b : Bool)
  | row (row : Row α)
  | object (ref : Nat)
  deriving Repr, DecidableEq

/-- What a field of an object holds: what was read from a row, null being none, or another object. -/
inductive Field (α : Type) where
  | datum (value : Option α)
  | object (ref : Nat)
  deriving Repr, DecidableEq

/-- An object: its class, and its fields in the order in which they were first set. -/
structure Object (α : Type) where
  model : String
  fields : List (String × Field α) := []
  deriving Repr, DecidableEq

/-- The variables, and the objects by their references. -/
structure Machine (α : Type) where
  vars : String → Option (Content α)
  heap : List (Object α)

namespace Machine

/-- A variable bound to a value. -/
def assign (m : Machine α) (name : String) (value : Content α) : Machine α :=
  { m with vars := fun other => if other = name then some value else m.vars other }

/-- A field of an object set. -/
def setField (m : Machine α) (ref : Nat) (property : String) (field : Field α) : Machine α :=
  { m with heap := m.heap.modify ref fun o => { o with fields := setProperty property field o.fields } }

/-- A new object, and a variable that leads to it. -/
def create (m : Machine α) (name model : String) : Machine α :=
  { m.assign name (.object m.heap.length) with heap := m.heap ++ [{ model := model }] }

/-- The row that a variable holds. -/
def row? (m : Machine α) (name : String) : Option (Row α) :=
  match m.vars name with
  | some (.row row) => some row
  | _ => none

/-- The object that a variable leads to. -/
def ref? (m : Machine α) (name : String) : Option Nat :=
  match m.vars name with
  | some (.object ref) => some ref
  | _ => none

/-- The truth value that a variable holds. -/
def truth? (m : Machine α) (name : String) : Option Bool :=
  match m.vars name with
  | some (.truth b) => some b
  | _ => none

/-- The object that a field leads to. -/
def follow (m : Machine α) : Field α → Option (Object α)
  | .datum _ => none
  | .object ref => m.heap[ref]?

/-- Fields with the objects that they lead to. -/
def shows (m : Machine α) (fields : List (String × Field α)) : List (String × Option (Object α)) :=
  fields.map fun f => (f.1, m.follow f.2)

@[simp] theorem follow_object (m : Machine α) (ref : Nat) : m.follow (.object ref) = m.heap[ref]? := rfl

theorem shows_congr {m m' : Machine α} {fields : List (String × Field α)}
    (h : ∀ f ∈ fields, m'.follow f.2 = m.follow f.2) : m'.shows fields = m.shows fields :=
  List.map_congr_left fun f hf => by rw [h f hf]

theorem setField_same {m : Machine α} {ref : Nat} {object : Object α} (h : m.heap[ref]? = some object)
    (property : String) (field : Field α) : (m.setField ref property field).heap[ref]? =
      some { object with fields := setProperty property field object.fields } := by
  unfold setField
  rw [List.getElem?_modify_eq, h]
  rfl

theorem setField_other {m : Machine α} {ref other : Nat} (h : other ≠ ref) (property : String)
    (field : Field α) : (m.setField ref property field).heap[other]? = m.heap[other]? :=
  List.getElem?_modify_ne _ _ (Ne.symm h)

end Machine

/-! ## Statements -/

/-- What a statement without a body does. -/
def Simple.run (m : Machine α) : Simple → Option (Machine α)
  | .assign object property key => do
    let ref ← m.ref? object
    let row ← m.row? "row"
    return m.setField ref property (.datum (row.value? key))
  | .raise flag => some (m.assign flag (.truth true))
  | .unset key => do
    let row ← m.row? "row"
    return m.assign "row" (.row (row.without key))
  | .attach property object => do
    let ref ← m.ref? "model"
    let attached ← m.ref? object
    return m.setField ref property (.object attached)

/-- What a body does. -/
def runBody (m : Machine α) (body : List Simple) : Option (Machine α) := body.foldlM Simple.run m

theorem runBody_cons (m : Machine α) (s : Simple) (rest : List Simple) :
    runBody m (s :: rest) = (s.run m).bind fun m => runBody m rest := by
  unfold runBody
  rw [List.foldlM_cons]
  rfl

/-- What a statement does. -/
def Statement.run (m : Machine α) : Statement → Option (Machine α)
  | .empty => some m
  | .comment _ => some m
  | .create object model => some (m.create object model)
  | .lower flag => some (m.assign flag (.truth false))
  | .whenSet key body => do
    let row ← m.row? "row"
    if (row.value? key).isSome then runBody m body else return m
  | .whenRaised flag body => do
    let raised ← m.truth? flag
    if raised then runBody m body else return m

/-- What statements do, one after the other. -/
def run (m : Machine α) (statements : List Statement) : Option (Machine α) :=
  statements.foldlM Statement.run m

theorem run_cons (m : Machine α) (s : Statement) (rest : List Statement) :
    run m (s :: rest) = (s.run m).bind fun m => run m rest := by
  unfold run
  rw [List.foldlM_cons]
  rfl

theorem run_append (m : Machine α) (first second : List Statement) :
    run m (first ++ second) = (run m first).bind fun m => run m second := by
  unfold run
  rw [List.foldlM_append]
  rfl

/-! ## What every statement preserves -/

/-- What no binding of a truth value or a row without a key, no new object and no setting of a field takes
away. -/
structure Preserved (P : Machine α → Prop) : Prop where
  truth : ∀ m name b, P m → P (m.assign name (.truth b))
  unset : ∀ m row key, P m → m.row? "row" = some row → P (m.assign "row" (.row (row.without key)))
  create : ∀ m name model, P m → P (m.create name model)
  setField : ∀ m ref property field, P m → P (m.setField ref property field)

variable {P : Machine α → Prop} {m m' : Machine α}

theorem Simple.run_preserves (hP : Preserved P) (hm : P m) {s : Simple} (h : s.run m = some m') :
    P m' := by
  cases s with
  | assign object property key =>
    obtain ⟨ref, -, h⟩ := Option.bind_eq_some_iff.mp h
    obtain ⟨row, -, h⟩ := Option.bind_eq_some_iff.mp h
    cases h
    exact hP.setField m ref property _ hm
  | raise flag => cases h; exact hP.truth m flag true hm
  | unset key =>
    obtain ⟨row, hrow, h⟩ := Option.bind_eq_some_iff.mp h
    cases h
    exact hP.unset m row key hm hrow
  | attach property object =>
    obtain ⟨ref, -, h⟩ := Option.bind_eq_some_iff.mp h
    obtain ⟨attached, -, h⟩ := Option.bind_eq_some_iff.mp h
    cases h
    exact hP.setField m ref property _ hm

theorem runBody_preserves (hP : Preserved P) (hm : P m) {body : List Simple}
    (h : runBody m body = some m') : P m' := by
  induction body generalizing m with
  | nil => cases h; exact hm
  | cons s rest ih =>
    rw [runBody_cons] at h
    obtain ⟨next, hnext, h⟩ := Option.bind_eq_some_iff.mp h
    exact ih (Simple.run_preserves hP hm hnext) h

theorem Statement.run_preserves (hP : Preserved P) (hm : P m) {s : Statement}
    (h : s.run m = some m') : P m' := by
  cases s with
  | empty => cases h; exact hm
  | comment text => cases h; exact hm
  | create object model => cases h; exact hP.create m object model hm
  | lower flag => cases h; exact hP.truth m flag false hm
  | whenSet key body =>
    obtain ⟨row, -, h⟩ := Option.bind_eq_some_iff.mp h
    split at h
    · exact runBody_preserves hP hm h
    · cases h; exact hm
  | whenRaised flag body =>
    obtain ⟨raised, -, h⟩ := Option.bind_eq_some_iff.mp h
    split at h
    · exact runBody_preserves hP hm h
    · cases h; exact hm

/-- What every statement preserves a run preserves. -/
theorem run_preserves (hP : Preserved P) (hm : P m) {statements : List Statement}
    (h : run m statements = some m') : P m' := by
  induction statements generalizing m with
  | nil => cases h; exact hm
  | cons s rest ih =>
    rw [run_cons] at h
    obtain ⟨next, hnext, h⟩ := Option.bind_eq_some_iff.mp h
    exact ih (Statement.run_preserves hP hm hnext) h

end Scaffold.Hydration
