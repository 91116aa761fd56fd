import Scaffold.Proofs.Hydration.Folding
import Scaffold.Proofs.Hydration.Machine
import Scaffold.Proofs.Plan.Query

/-!
# Hydration code and hydration rules

The code of a rule does what applying the rule does, as long as its variables are its own. They are named
after the parent table, and the code around it has a row in `row` and an object in `model`: a parent
whose relation has one of these names takes the variable away.

* `Outcome`, `attachAll`: what applying rules one after the other attaches, and the row that is left.
* `Agrees`: the code of the rules leaves just that.
* `agrees_iff`: the code of a plan agrees exactly if no relation is called `row` or `model`.
* `model_is_lost`: a table whose parent is called `models`.
-/
namespace Scaffold.Hydration

variable {α : Type}

/-! ## What rules attach -/

/-- The object of the values that a rule moved. -/
def Rule.object (rule : Rule) (nested : List (String × α)) : Object α :=
  ⟨rule.parentModel, nested.map fun e => (e.1, .datum (some e.2))⟩

/-- The objects attached so far under the names of their relations, and the row that is left. -/
structure Outcome (α : Type) where
  attached : List (String × Object α) := []
  row : Row α
  deriving Repr, DecidableEq

/-- Applies a rule and attaches the object that it gives, if it gives one. -/
def Rule.attach (rule : Rule) (o : Outcome α) : Outcome α :=
  match rule.apply o.row with
  | (some nested, row) => ⟨setProperty rule.relationName (rule.object nested) o.attached, row⟩
  | (none, row) => ⟨o.attached, row⟩

/-- Applies rules one after the other. -/
def attachAll (rules : List Rule) (o : Outcome α) : Outcome α :=
  rules.foldl (fun o rule => rule.attach o) o

/-- A machine whose `row` is the row of an outcome and whose `model` is an object with all that is attached
and nothing else. -/
structure Leaves (m : Machine α) (ref : Nat) (o : Outcome α) : Prop where
  row : m.vars "row" = some (.row o.row)
  model : m.vars "model" = some (.object ref)
  shown : ∃ object, m.heap[ref]? = some object ∧
    m.shows object.fields = o.attached.map fun a => (a.1, some a.2)

/-- The code of some rules, run on a machine, leaves what applying the rules leaves. -/
def Agrees (rules : List Rule) (m : Machine α) (ref : Nat) (row : Row α) : Prop :=
  ∃ m', run m (rules.flatMap Rule.block) = some m' ∧ Leaves m' ref (attachAll rules { row := row })

theorem Rule.object_setProperty (rule : Rule) (name : String) (value : α) (nested : List (String × α)) :
    rule.object (setProperty name value nested) = { rule.object nested with
      fields := setProperty name (.datum (some value)) (rule.object nested).fields } := by
  unfold Rule.object
  rw [map_setProperty fun value => Field.datum (some value)]

/-! ## The values of one rule -/

/-- The names of a rule do not clash with each other nor with those of the code around it. -/
structure Rule.Clear (rule : Rule) : Prop where
  row : rule.relationName ≠ "row"
  model : rule.relationName ≠ "model"
  flag : rule.flag ≠ rule.relationName
  flagRow : rule.flag ≠ "row"
  flagModel : rule.flag ≠ "model"

/-- A machine in the midst of a block: the objects of before, and the one of the rule with the values that
were moved so far. -/
structure Moved (before : List (Object α)) (ref : Nat) (rule : Rule) (s : State α) (m : Machine α) :
    Prop where
  row : m.vars "row" = some (.row s.row)
  model : m.vars "model" = some (.object ref)
  object : m.vars rule.relationName = some (.object before.length)
  flag : m.vars rule.flag = some (.truth (!s.nested.isEmpty))
  heap : m.heap = before ++ [rule.object s.nested]

variable {before : List (Object α)} {ref : Nat} {rule : Rule} {s : State α} {m : Machine α}

theorem modify_last (before : List α) (last : α) (f : α → α) :
    (before ++ [last]).modify before.length f = before ++ [f last] := by
  induction before with
  | nil => rfl
  | cons a before ih => rw [List.cons_append, List.length_cons, List.modify_succ_cons, ih]; rfl

theorem Machine.row?_of_vars {name : String} {row : Row α} (h : m.vars name = some (.row row)) :
    m.row? name = some row := by
  unfold row?
  rw [h]

theorem Machine.ref?_of_vars {name : String} {ref : Nat} (h : m.vars name = some (.object ref)) :
    m.ref? name = some ref := by
  unfold ref?
  rw [h]

theorem Machine.truth?_of_vars {name : String} {b : Bool} (h : m.vars name = some (.truth b)) :
    m.truth? name = some b := by
  unfold truth?
  rw [h]

theorem Machine.assign_same (m : Machine α) (name : String) (value : Content α) :
    (m.assign name value).vars name = some value := if_pos rfl

theorem Machine.assign_other {name other : String} (h : other ≠ name) (m : Machine α)
    (value : Content α) : (m.assign name value).vars other = m.vars other := if_neg h

/-- The machine after the value of a mapping was moved. -/
def Machine.afterMove (m : Machine α) (ref : Nat) (rule : Rule) (mapping : Mapping) (value : α)
    (row : Row α) : Machine α :=
  ((m.setField ref mapping.property (.datum (some value))).assign rule.flag (.truth true)).assign "row"
    (.row (row.without mapping.aliasName))

/-- The body of the code of a mapping moves the value. -/
theorem Moved.body (hclear : rule.Clear) (h : Moved before ref rule s m) {mapping : Mapping}
    {value : α} (hvalue : s.row.value? mapping.aliasName = some value) :
    runBody m [.assign rule.relationName mapping.property mapping.aliasName, .raise rule.flag,
        .unset mapping.aliasName] =
      some (m.afterMove before.length rule mapping value s.row) := by
  have hset : Simple.run m (.assign rule.relationName mapping.property mapping.aliasName) =
      some (m.setField before.length mapping.property (.datum (some value))) := by
    simp [Simple.run, Machine.row?_of_vars h.row, Machine.ref?_of_vars h.object, hvalue]
  have hrow : ((m.setField before.length mapping.property (.datum (some value))).assign rule.flag
      (.truth true)).row? "row" = some s.row :=
    Machine.row?_of_vars ((Machine.assign_other hclear.flagRow.symm _ _).trans h.row)
  have hunset : Simple.run ((m.setField before.length mapping.property (.datum (some value))).assign
      rule.flag (.truth true)) (.unset mapping.aliasName) =
        some (m.afterMove before.length rule mapping value s.row) := by
    simp [Simple.run, hrow, Machine.afterMove]
  rw [runBody_cons, hset, Option.bind_some, runBody_cons]
  change runBody _ [.unset mapping.aliasName] = _
  rw [runBody_cons, hunset]
  rfl

/-- The code of a mapping does what the mapping does. -/
theorem Moved.step (hclear : rule.Clear) (h : Moved before ref rule s m) (mapping : Mapping) :
    ∃ m', (mapping.statement rule).run m = some m' ∧ Moved before ref rule (mapping.move s) m' := by
  have hrow := Machine.row?_of_vars h.row
  unfold Mapping.statement Mapping.move
  cases hvalue : s.row.value? mapping.aliasName with
  | none =>
    refine ⟨m, ?_, h⟩
    simp [Statement.run, hrow, hvalue]
  | some value =>
    refine ⟨m.afterMove before.length rule mapping value s.row, ?_, ?_, ?_, ?_, ?_, ?_⟩
    · simp [Statement.run, hrow, hvalue, h.body hclear hvalue]
    · exact Machine.assign_same _ _ _
    · refine (Machine.assign_other (by decide) _ _).trans ?_
      exact (Machine.assign_other hclear.flagModel.symm _ _).trans h.model
    · refine (Machine.assign_other hclear.row _ _).trans ?_
      exact (Machine.assign_other hclear.flag.symm _ _).trans h.object
    · refine (Machine.assign_other hclear.flagRow _ _).trans ?_
      rw [setProperty_isEmpty]
      exact Machine.assign_same _ _ _
    · change m.heap.modify before.length _ = _
      rw [h.heap, modify_last]
      exact congrArg (fun object => before ++ [object]) (rule.object_setProperty _ _ _).symm

/-- The code of some mappings does what the mappings do. -/
theorem Moved.steps (hclear : rule.Clear) (h : Moved before ref rule s m) (mappings : List Mapping) :
    ∃ m', run m (mappings.map (Mapping.statement rule)) = some m' ∧
      Moved before ref rule (mappings.foldl (fun s mapping => mapping.move s) s) m' := by
  induction mappings generalizing s m with
  | nil => exact ⟨m, rfl, h⟩
  | cons mapping rest ih =>
    obtain ⟨next, hnext, hmoved⟩ := h.step hclear mapping
    obtain ⟨m', hrest, hend⟩ := ih hmoved
    refine ⟨m', ?_, hend⟩
    rw [List.map_cons, run_cons, hnext]
    exact hrest

/-! ## One block -/

/-- A machine between two blocks. No field of the object leads back to it. -/
structure Between (m : Machine α) (ref : Nat) (o : Outcome α) : Prop where
  row : m.vars "row" = some (.row o.row)
  model : m.vars "model" = some (.object ref)
  shown : ∃ object, m.heap[ref]? = some object ∧
    m.shows object.fields = (o.attached.map fun a => (a.1, some a.2)) ∧
    ∀ f ∈ object.fields, f.2 ≠ .object ref

theorem Between.leaves {o : Outcome α} (h : Between m ref o) : Leaves m ref o := by
  obtain ⟨object, hobject, hshown, -⟩ := h.shown
  exact ⟨h.row, h.model, object, hobject, hshown⟩

/-- A new object and a lowered flag: no value of the rule was moved yet. -/
theorem Between.begin {o : Outcome α} (hclear : rule.Clear) (h : Between m ref o) :
    Moved m.heap ref rule ⟨[], o.row⟩
      ((m.create rule.relationName rule.parentModel).assign rule.flag (.truth false)) where
  row := by
    refine (Machine.assign_other hclear.flagRow.symm _ _).trans ?_
    exact (Machine.assign_other hclear.row.symm _ _).trans h.row
  model := by
    refine (Machine.assign_other hclear.flagModel.symm _ _).trans ?_
    exact (Machine.assign_other hclear.model.symm _ _).trans h.model
  object := by
    refine (Machine.assign_other hclear.flag.symm _ _).trans ?_
    exact Machine.assign_same _ _ _
  flag := Machine.assign_same _ _ _
  heap := rfl

/-- The fields of the object lead to objects that are there, and not back to it. -/
theorem Between.fields {o : Outcome α} {object : Object α}
    (hshown : m.shows object.fields = o.attached.map fun a => (a.1, some a.2))
    (hback : ∀ f ∈ object.fields, f.2 ≠ .object ref) :
    ∀ f ∈ object.fields, ∃ r, f.2 = .object r ∧ r < m.heap.length ∧ r ≠ ref := by
  intro f hf
  have hmem : (f.1, m.follow f.2) ∈ m.shows object.fields := List.mem_map_of_mem hf
  rw [hshown] at hmem
  obtain ⟨a, -, ha⟩ := List.mem_map.mp hmem
  have hfollow := (Prod.mk.inj ha).2.symm
  have hne := hback f hf
  cases hf2 : f.2 with
  | datum value => rw [hf2] at hfollow; cases hfollow
  | object r =>
    rw [hf2] at hfollow hne
    exact ⟨r, rfl, (List.getElem?_eq_some_iff.mp hfollow).1, fun heq => hne (by rw [heq])⟩

/-- A block that attaches nothing: the object of the rule stays apart. -/
theorem Between.keep {o : Outcome α} {m' : Machine α} (hbefore : Between m ref o)
    (h : Moved m.heap ref rule s m') : Between m' ref ⟨o.attached, s.row⟩ := by
  obtain ⟨object, hobject, hshown, hback⟩ := hbefore.shown
  have hlt : ref < m.heap.length := (List.getElem?_eq_some_iff.mp hobject).1
  refine ⟨h.row, h.model, object, ?_, ?_, hback⟩
  · rw [h.heap, List.getElem?_append_left hlt, hobject]
  · rw [← hshown]
    refine Machine.shows_congr fun f hf => ?_
    obtain ⟨r, hr, hrlt, -⟩ := Between.fields hshown hback f hf
    rw [hr, Machine.follow_object, Machine.follow_object, h.heap, List.getElem?_append_left hrlt]

/-- A block that attaches the object of its rule. -/
theorem Between.add {o : Outcome α} {m' : Machine α} (hbefore : Between m ref o)
    (h : Moved m.heap ref rule s m') :
    Between (m'.setField ref rule.relationName (.object m.heap.length)) ref
      ⟨setProperty rule.relationName (rule.object s.nested) o.attached, s.row⟩ := by
  obtain ⟨object, hobject, hshown, hback⟩ := hbefore.shown
  have hlt : ref < m.heap.length := (List.getElem?_eq_some_iff.mp hobject).1
  have hthere : m'.heap[ref]? = some object := by
    rw [h.heap, List.getElem?_append_left hlt, hobject]
  have hnew : (m'.setField ref rule.relationName (.object m.heap.length)).follow
      (.object m.heap.length) = some (rule.object s.nested) := by
    rw [Machine.follow_object, Machine.setField_other (Nat.ne_of_gt hlt), h.heap,
      List.getElem?_concat_length]
  have hold : (m'.setField ref rule.relationName (.object m.heap.length)).shows object.fields =
      m.shows object.fields := by
    refine Machine.shows_congr fun f hf => ?_
    obtain ⟨r, hr, hrlt, hrne⟩ := Between.fields hshown hback f hf
    rw [hr, Machine.follow_object, Machine.follow_object, Machine.setField_other hrne, h.heap,
      List.getElem?_append_left hrlt]
  refine ⟨h.row, h.model, _, Machine.setField_same hthere _ _, ?_, ?_⟩
  · unfold Machine.shows at hold ⊢
    rw [map_setProperty, hnew, hold, ← Machine.shows, hshown, map_setProperty]
  · intro f hf
    rcases mem_setProperty hf with hvalue | hf
    · rw [hvalue]
      intro heq
      cases heq
      exact Nat.lt_irrefl _ hlt
    · exact hback f hf

/-- The last statement of a block attaches the object of the rule, if it has any value. -/
theorem Moved.finish {o : Outcome α} {m' : Machine α} (hbefore : Between m ref o)
    (h : Moved m.heap ref rule s m') (hs : rule.apply o.row =
      (if s.nested.isEmpty then none else some s.nested, s.row)) :
    ∃ m'', (Statement.whenRaised rule.flag [.attach rule.relationName rule.relationName]).run m' =
        some m'' ∧ Between m'' ref (rule.attach o) := by
  have hflag := Machine.truth?_of_vars h.flag
  unfold Rule.attach
  rw [hs]
  cases hempty : s.nested.isEmpty with
  | true =>
    rw [hempty] at hflag
    refine ⟨m', ?_, hbefore.keep h⟩
    simp [Statement.run, hflag]
  | false =>
    rw [hempty] at hflag
    refine ⟨_, ?_, hbefore.add h⟩
    simp [Statement.run, hflag, Simple.run, Machine.ref?_of_vars h.model,
      Machine.ref?_of_vars h.object, runBody]

/-- The code of a rule does what applying the rule does. -/
theorem Between.block {o : Outcome α} (hclear : rule.Clear) (h : Between m ref o) :
    ∃ m', run m rule.block = some m' ∧ Between m' ref (rule.attach o) := by
  obtain ⟨m', hmappings, hmoved⟩ := (h.begin hclear).steps hclear rule.mappings
  obtain ⟨m'', hlast, hend⟩ := hmoved.finish h rfl
  refine ⟨m'', ?_, hend⟩
  unfold Rule.block
  rw [run_append, run_append]
  change ((run _ (rule.mappings.map (Mapping.statement rule))).bind fun m => run m _) = _
  rw [hmappings, Option.bind_some, run_cons, hlast]
  rfl

/-- The code of some rules does what applying the rules does. -/
theorem Between.blocks {rules : List Rule} {o : Outcome α} (hclear : ∀ rule ∈ rules, rule.Clear)
    (h : Between m ref o) :
    ∃ m', run m (rules.flatMap Rule.block) = some m' ∧ Between m' ref (attachAll rules o) := by
  induction rules generalizing m o with
  | nil => exact ⟨m, rfl, h⟩
  | cons rule rest ih =>
    obtain ⟨next, hnext, hbetween⟩ := h.block (hclear rule List.mem_cons_self)
    obtain ⟨m', hrest, hend⟩ := ih (fun r hr => hclear r (List.mem_cons_of_mem rule hr)) hbetween
    refine ⟨m', ?_, hend⟩
    rw [List.flatMap_cons, run_append, hnext]
    exact hrest

/-! ## Variables that are taken away -/

/-- The object is there. -/
theorem preserved_there (ref : Nat) : Preserved fun m : Machine α => ref < m.heap.length where
  truth _ _ _ h := h
  unset _ _ _ h _ := h
  create m _ _ h := by
    change ref < (m.heap ++ _).length
    rw [List.length_append]
    exact Nat.lt_add_right _ h
  setField m _ _ _ h := by
    change ref < (m.heap.modify _ _).length
    rw [List.length_modify]
    exact h

theorem Machine.row?_assign_other {name other : String} (h : other ≠ name) (m : Machine α)
    (value : Content α) : (m.assign name value).row? other = m.row? other := by
  unfold row?
  rw [assign_other h]

theorem Machine.ref?_assign_other {name other : String} (h : other ≠ name) (m : Machine α)
    (value : Content α) : (m.assign name value).ref? other = m.ref? other := by
  unfold ref?
  rw [assign_other h]

/-- A row that is lost does not come back. -/
theorem preserved_no_row : Preserved fun m : Machine α => m.row? "row" = none where
  truth m name b h := by
    by_cases hname : "row" = name
    · subst hname; rfl
    · rw [Machine.row?_assign_other hname, h]
  unset m row key h hrow := by rw [h] at hrow; cases hrow
  create m name model h := by
    by_cases hname : "row" = name
    · subst hname; rfl
    · exact (Machine.row?_assign_other hname m _).trans h
  setField _ _ _ _ h := h

/-- An object to which `model` does not lead any more stays so. -/
theorem preserved_no_model (ref : Nat) :
    Preserved fun m : Machine α => ref < m.heap.length ∧ m.ref? "model" ≠ some ref where
  truth m name b h := by
    refine ⟨h.1, ?_⟩
    by_cases hname : "model" = name
    · subst hname; intro heq; cases heq
    · rw [Machine.ref?_assign_other hname]
      exact h.2
  unset m row key h _ := by
    refine ⟨h.1, ?_⟩
    rw [Machine.ref?_assign_other (by decide)]
    exact h.2
  create m name model h := by
    refine ⟨(preserved_there ref).create m name model h.1, ?_⟩
    by_cases hname : "model" = name
    · subst hname
      intro heq
      cases heq
      exact Nat.lt_irrefl _ h.1
    · intro heq
      exact h.2 ((Machine.ref?_assign_other hname m _).symm.trans heq)
  setField m other property field h := ⟨(preserved_there ref).setField m other property field h.1, h.2⟩

/-- What the first new object of a rule brings about and every statement preserves holds in the end. -/
theorem holds_of_mem {P Q : Machine α → Prop} (hP : Preserved P) (hQ : Preserved Q) {rules : List Rule}
    (hrule : rule ∈ rules) (hcreate : ∀ m, Q m → P (m.create rule.relationName rule.parentModel))
    {m' : Machine α} (hm : Q m) (h : run m (rules.flatMap Rule.block) = some m') : P m' := by
  obtain ⟨first, later, rfl⟩ := List.append_of_mem hrule
  rw [List.flatMap_append, List.flatMap_cons, run_append] at h
  obtain ⟨before, hbefore, h⟩ := Option.bind_eq_some_iff.mp h
  have hstart := hcreate before (run_preserves hQ hm hbefore)
  unfold Rule.block at h
  exact run_preserves hP hstart h

/-! ## The rules of a plan -/

theorem length_flag (rule : Rule) :
    rule.flag.toList.length = rule.parentModel.toList.length + 7 := by
  unfold Rule.flag
  simp only [String.toList_append, List.length_append]
  change 3 + _ + 4 = _
  omega

/-- The flag of a rule is named unlike any other variable of its block. -/
theorem clear_ruleOf {parentTable : String} {columns : List String}
    (hrow : Naming.relationName parentTable ≠ "row") (hmodel : Naming.relationName parentTable ≠ "model") :
    (Plan.ruleOf parentTable columns).Clear where
  row := hrow
  model := hmodel
  flag := by
    intro heq
    have hlength := length_flag (Plan.ruleOf parentTable columns)
    rw [heq] at hlength
    have hshort := Naming.length_relationName parentTable
    change (Naming.relationName parentTable).toList.length =
      (Naming.modelName parentTable).toList.length + 7 at hlength
    omega
  flagRow := by
    intro heq
    have hlength := length_flag (Plan.ruleOf parentTable columns)
    rw [heq] at hlength
    change 3 = _ at hlength
    omega
  flagModel := by
    intro heq
    have hlength := length_flag (Plan.ruleOf parentTable columns)
    rw [heq] at hlength
    change 5 = _ at hlength
    omega

theorem exists_ruleOf {σ : Type} {resolve : String → Action σ (Option Table)} {table : Table}
    {plan : Plan} (h : Plan.Built resolve table plan) (hrule : rule ∈ plan.hydrationRules) :
    ∃ parentTable columns, rule = Plan.ruleOf parentTable columns := by
  obtain ⟨r, hr, hrule⟩ := List.mem_filterMap.mp hrule
  obtain ⟨parent, -, heq⟩ := h.planned r hr
  rw [heq, Plan.relationOf_hydration] at hrule
  obtain ⟨parent', -, rfl⟩ := Option.map_eq_some_iff.mp hrule
  exact ⟨_, _, rfl⟩

theorem between_of_leaves {row : Row α} (h : Leaves m ref { row := row }) :
    Between m ref { row := row } := by
  obtain ⟨object, hobject, hshown⟩ := h.shown
  have hnone : object.fields = [] := List.map_eq_nil_iff.mp hshown
  refine ⟨h.row, h.model, object, hobject, hshown, ?_⟩
  rw [hnone]
  intro f hf
  cases hf

/-- The code of a plan, run where `row` is a row and `model` an object without fields, leaves what applying
the rules of the plan leaves, exactly if no relation has the name of one of these variables. -/
theorem agrees_iff {σ : Type} [Journaled σ] {resolve : String → Action σ (Option Table)} {table : Table}
    {plan : Plan} {s s' : σ} (hbuild : (Plan.build table resolve).run s = (.ok plan, s'))
    {row : Row α} (hstart : Leaves m ref { row := row }) :
    Agrees plan.hydrationRules m ref row ↔
      ∀ rule ∈ plan.hydrationRules, rule.relationName ≠ "row" ∧ rule.relationName ≠ "model" := by
  have hbetween := between_of_leaves hstart
  constructor
  · rintro ⟨m', hrun, hleaves⟩ rule hrule
    obtain ⟨object, hobject, -⟩ := hbetween.shown
    have hthere : ref < m.heap.length := (List.getElem?_eq_some_iff.mp hobject).1
    constructor
    · intro hname
      have hlost := holds_of_mem preserved_no_row (preserved_there ref) hrule
        (fun m _ => by rw [hname]; rfl) hthere hrun
      rw [Machine.row?_of_vars hleaves.row] at hlost
      cases hlost
    · intro hname
      have hlost := holds_of_mem (preserved_no_model ref) (preserved_there ref) hrule
        (fun m hm => ⟨(preserved_there ref).create m _ _ hm, by
          rw [hname]
          intro heq
          cases heq
          exact Nat.lt_irrefl _ hm⟩) hthere hrun
      exact hlost.2 (Machine.ref?_of_vars hleaves.model)
  · intro hnames
    have hclear : ∀ rule ∈ plan.hydrationRules, rule.Clear := by
      intro rule hrule
      obtain ⟨parentTable, columns, rfl⟩ := exists_ruleOf (Plan.built_of_build hbuild) hrule
      exact clear_ruleOf (hnames _ hrule).1 (hnames _ hrule).2
    obtain ⟨m', hrun, hend⟩ := hbetween.blocks hclear
    exact ⟨m', hrun, hend.leaves⟩

/-- The machine on which the code of a plan is run: a row, and a new object of a class. -/
def start (model : String) (row : Row α) : Machine α where
  vars name :=
    if name = "row" then some (.row row) else if name = "model" then some (.object 0) else none
  heap := [{ model := model }]

theorem start_leaves (model : String) (row : Row α) : Leaves (start model row) 0 { row := row } :=
  ⟨rfl, rfl, { model := model }, rfl, rfl⟩

/-- An order with the columns of its user. -/
def orderRow : Row Nat := [("id", some 1), ("user_id", some 7)]

/-- The code for the orders attaches the user. -/
theorem orders_agree :
    ∃ plan w, (Plan.build Plan.orders Plan.findUsers).run {} = (.ok plan, w) ∧
      Leaves (start "Order" orderRow) 0 { row := orderRow } ∧
      (attachAll plan.hydrationRules { row := orderRow }).attached =
        [("user", ⟨"User", [("id", .datum (some 7))]⟩)] ∧
      Agrees plan.hydrationRules (start "Order" orderRow) 0 orderRow := by
  obtain ⟨w, hbuild⟩ := Plan.orders_built
  refine ⟨_, w, hbuild, start_leaves "Order" orderRow, by decide +kernel, ?_⟩
  exact (agrees_iff hbuild (start_leaves "Order" orderRow)).mpr (by decide +kernel)

/-- A table of cars with a key to their models. -/
def cars : Table where
  name := "cars"
  columns := ["id", "model_id"]
  foreignKeys := [⟨"model_id", "models", "id"⟩]

/-- A look-up that finds the models. -/
def findModels : String → Action Workspace (Option Table) := fun _ =>
  pure (some { name := "models", columns := ["id"] })

/-- A car with the columns of its model. -/
def carRow : Row Nat := [("id", some 1), ("model_id", some 7)]

/-- Where the parent is called `models` the code takes the variable of the object for the parent: the object
stays without its parent, and what the variable leads to is the parent, attached to itself. -/
theorem model_is_lost :
    ∃ plan w, (Plan.build cars findModels).run {} = (.ok plan, w) ∧
      Leaves (start "Car" carRow) 0 { row := carRow } ∧
      (attachAll plan.hydrationRules { row := carRow }).attached =
        [("model", ⟨"Model", [("id", .datum (some 7))]⟩)] ∧
      ((run (start "Car" carRow) (plan.hydrationRules.flatMap Rule.block)).map fun m =>
        (m.vars "model", m.heap)) = some (some (.object 1),
          [⟨"Car", []⟩, ⟨"Model", [("id", .datum (some 7)), ("model", .object 1)]⟩]) ∧
      ¬Agrees plan.hydrationRules (start "Car" carRow) 0 carRow := by
  obtain ⟨w, hbuild⟩ : ∃ w, (Plan.build cars findModels).run {} =
      (.ok (Plan.planOf cars [Plan.relationOf "cars" ⟨"model_id", "models", "id"⟩
        (some { name := "models", columns := ["id"] })]), w) :=
    Action.exists_run (by decide +kernel)
  have hend : ((run (start "Car" carRow) ((Plan.planOf cars [Plan.relationOf "cars"
      ⟨"model_id", "models", "id"⟩ (some { name := "models", columns := ["id"] })]).hydrationRules.flatMap
        Rule.block)).map fun m => (m.vars "model", m.heap)) = some (some (.object 1),
          [⟨"Car", []⟩, ⟨"Model", [("id", .datum (some 7)), ("model", .object 1)]⟩]) := by
    decide +kernel
  refine ⟨_, w, hbuild, start_leaves "Car" carRow, by decide +kernel, hend, ?_⟩
  rintro ⟨m', hrun, hleaves⟩
  rw [hrun, Option.map_some] at hend
  have hmodel := (Prod.mk.inj (Option.some.inj hend)).1
  rw [hleaves.model] at hmodel
  cases hmodel

end Scaffold.Hydration
