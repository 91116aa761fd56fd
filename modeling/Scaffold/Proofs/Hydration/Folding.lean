import Mathlib.Data.List.Basic
import Mathlib.Data.List.Induction
import Scaffold.Hydration.Rule

/-!
# What a hydration rule moves

A rule goes through its mappings one by one. It takes values out of the row that it tests and sets
properties of the object that it fills, so a result name that comes twice finds nothing the second time,
and a property that comes twice is set twice. What comes of it is told here from the row as it was.

* `keys_setProperties`, `lookup_setProperties`: properties that are set one after the other stand in the
  order of their first use, each with its last value.
* `movers`: the mappings that move a value, the first one of each name that has a value.
* `foldl_move`: what any number of mappings leaves, by induction on the mappings.
* `apply_folds`: what a rule makes of a row.
-/
namespace Scaffold.Hydration

variable {α : Type}

/-! ## Properties -/

theorem map_setProperty {β : Type} (f : α → β) (name : String) (value : α) (l : List (String × α)) :
    (setProperty name value l).map (fun e => (e.1, f e.2)) =
      setProperty name (f value) (l.map fun e => (e.1, f e.2)) := by
  induction l with
  | nil => rfl
  | cons e l ih =>
    obtain ⟨n, v⟩ := e
    rw [List.map_cons, setProperty, setProperty]
    split
    · rw [List.map_cons]
    · rw [List.map_cons, ih]

theorem mem_setProperty {name : String} {value : α} {l : List (String × α)} {e : String × α}
    (h : e ∈ setProperty name value l) : e.2 = value ∨ e ∈ l := by
  induction l with
  | nil => rw [List.mem_singleton.mp h]; exact .inl rfl
  | cons first l ih =>
    obtain ⟨n, v⟩ := first
    rw [setProperty] at h
    split at h
    · rcases List.mem_cons.mp h with rfl | h
      · exact .inl rfl
      · exact .inr (List.mem_cons_of_mem _ h)
    · rcases List.mem_cons.mp h with rfl | h
      · exact .inr List.mem_cons_self
      · exact (ih h).imp_right (List.mem_cons_of_mem _)

theorem setProperty_isEmpty (name : String) (value : α) (l : List (String × α)) :
    (setProperty name value l).isEmpty = false := by
  cases l with
  | nil => rfl
  | cons e l =>
    rw [setProperty]
    split <;> rfl

theorem keys_setProperty (name : String) (value : α) (l : List (String × α)) :
    (setProperty name value l).map (·.1) =
      if name ∈ l.map (·.1) then l.map (·.1) else l.map (·.1) ++ [name] := by
  induction l with
  | nil => rfl
  | cons e l ih =>
    obtain ⟨n, v⟩ := e
    rw [setProperty]
    by_cases hn : n = name
    · rw [if_pos hn]
      simp [hn]
    · rw [if_neg hn, List.map_cons, ih, List.map_cons]
      by_cases hmem : name ∈ l.map (·.1)
      · rw [if_pos hmem, if_pos (List.mem_cons_of_mem n hmem)]
      · have hfresh : name ∉ n :: l.map (·.1) := by simpa [Ne.symm hn] using hmem
        rw [if_neg hmem, if_neg hfresh]
        rfl

theorem lookup_setProperty (property name : String) (value : α) (l : List (String × α)) :
    List.lookup property (setProperty name value l) =
      if property = name then some value else List.lookup property l := by
  induction l with
  | nil =>
    rw [setProperty, List.lookup_cons]
    by_cases h : property = name
    · simp [h]
    · rw [beq_false_of_ne h, if_neg h]
  | cons e l ih =>
    obtain ⟨n, v⟩ := e
    rw [setProperty]
    by_cases hn : n = name
    · subst hn
      rw [if_pos rfl, List.lookup_cons, List.lookup_cons]
      by_cases h : property = n
      · simp [h]
      · rw [beq_false_of_ne h, if_neg h]
    · rw [if_neg hn, List.lookup_cons, List.lookup_cons, ih]
      by_cases h : property = n
      · subst h
        simp [hn]
      · rw [beq_false_of_ne h]

/-- Properties set one after the other. -/
def setProperties (entries : List (String × α)) (l : List (String × α)) : List (String × α) :=
  entries.foldl (fun l e => setProperty e.1 e.2 l) l

theorem setProperties_isEmpty (entries l : List (String × α)) :
    (setProperties entries l).isEmpty = (entries.isEmpty && l.isEmpty) := by
  unfold setProperties
  induction entries generalizing l with
  | nil => rfl
  | cons e entries ih =>
    rw [List.foldl_cons, ih, setProperty_isEmpty, Bool.and_false]
    rfl

/-- Properties that are set one after the other come in the order of their first use. -/
theorem keys_setProperties (entries : List (String × α)) :
    (setProperties entries []).map (·.1) = (entries.map (·.1)).eraseDups := by
  -- the induction takes the last entry off: it either finds its place or comes last
  induction entries using List.reverseRecOn with
  | nil => rfl
  | append_singleton entries e ih =>
    unfold setProperties at ih ⊢
    rw [List.foldl_concat, keys_setProperty, ih, List.map_append, List.eraseDups_append]
    by_cases h : e.1 ∈ entries.map (·.1)
    · rw [if_pos (List.mem_eraseDups.mpr h)]
      simp [List.removeAll, h]
    · rw [if_neg (mt List.mem_eraseDups.mp h)]
      simp [List.removeAll, h, List.eraseDups_cons]

/-- A property that is set several times has the last value. -/
theorem lookup_setProperties (property : String) (entries : List (String × α)) :
    List.lookup property (setProperties entries []) =
      (entries.filter fun e => e.1 == property).getLast?.map (·.2) := by
  induction entries using List.reverseRecOn with
  | nil => rfl
  | append_singleton entries e ih =>
    unfold setProperties at ih ⊢
    rw [List.foldl_concat, lookup_setProperty, ih, List.filter_append, List.getLast?_append]
    by_cases h : property = e.1
    · simp [h]
    · rw [if_neg h]
      simp [Ne.symm h]

/-! ## Rows -/

theorem Row.value?_filter (keep : String → Bool) (row : Row α) (name : String) :
    Row.value? (row.filter fun e => keep e.1) name = if keep name then row.value? name else none := by
  unfold Row.value?
  induction row with
  | nil => simp
  | cons e row ih =>
    obtain ⟨n, v⟩ := e
    rw [List.filter_cons, List.lookup_cons]
    by_cases h : name = n
    · subst h
      by_cases hkeep : keep name
      · simp [hkeep]
      · rw [if_neg hkeep, ih, if_neg hkeep, if_neg hkeep]
    · rw [beq_false_of_ne h, ← ih]
      split
      · rw [List.lookup_cons, beq_false_of_ne h]
      · rfl

theorem Row.value?_without (row : Row α) (name other : String) :
    (row.without name).value? other = if other = name then none else row.value? other := by
  unfold Row.without
  rw [Row.value?_filter fun n => n != name]
  by_cases h : other = name <;> simp [h]

/-! ## The mappings that move a value -/

/-- The first mapping of each result name, in their order. -/
def firstUses : List Mapping → List Mapping
  | [] => []
  | m :: rest => m :: (firstUses rest).filter fun later => later.aliasName != m.aliasName

/-- The mappings that move a value: the first one of each result name that has a value in the row. -/
def movers (mappings : List Mapping) (row : Row α) : List Mapping :=
  (firstUses mappings).filter fun m => (row.value? m.aliasName).isSome

/-- The properties that are set, with the values that were moved. -/
def moved (mappings : List Mapping) (row : Row α) : List (String × α) :=
  (movers mappings row).filterMap fun m => (row.value? m.aliasName).map (m.property, ·)

/-- Whether mappings take an entry out of the row. -/
def takes (mappings : List Mapping) (row : Row α) (name : String) : Bool :=
  (mappings.map (·.aliasName)).contains name && (row.value? name).isSome

variable {m : Mapping} {rest : List Mapping} {row : Row α} {value : α}

theorem movers_cons_of_none (h : row.value? m.aliasName = none) :
    movers (m :: rest) row = movers rest row := by
  unfold movers
  rw [firstUses, List.filter_cons_of_neg (by simp [h]), List.filter_filter]
  refine List.filter_congr fun later _ => ?_
  by_cases hname : later.aliasName = m.aliasName
  · simp [hname, h]
  · simp [hname]

theorem movers_cons_of_some (h : row.value? m.aliasName = some value) :
    movers (m :: rest) row = m :: movers rest (row.without m.aliasName) := by
  unfold movers
  rw [firstUses, List.filter_cons_of_pos (by simp [h]), List.filter_filter]
  refine congrArg _ (List.filter_congr fun later _ => ?_)
  rw [Row.value?_without]
  by_cases hname : later.aliasName = m.aliasName <;> simp [hname]

theorem moved_cons_of_some (h : row.value? m.aliasName = some value) :
    moved (m :: rest) row = (m.property, value) :: moved rest (row.without m.aliasName) := by
  unfold moved
  rw [movers_cons_of_some h, List.filterMap_cons_some (by rw [h]; rfl)]
  refine congrArg _ (List.filterMap_congr fun later hlater => ?_)
  have hvalue := (List.mem_filter.mp hlater).2
  rw [Row.value?_without] at hvalue ⊢
  split
  · rename_i hname
    rw [if_pos hname] at hvalue
    cases hvalue
  · rfl

theorem takes_cons_of_none (h : row.value? m.aliasName = none) (name : String) :
    takes (m :: rest) row name = takes rest row name := by
  unfold takes
  by_cases hname : name = m.aliasName
  · simp [hname, h]
  · simp [hname]

theorem takes_cons_of_some (h : row.value? m.aliasName = some value) (name : String) :
    (!takes (m :: rest) row name) =
      (!takes rest (row.without m.aliasName) name && name != m.aliasName) := by
  unfold takes
  rw [Row.value?_without]
  by_cases hname : name = m.aliasName
  · simp [hname, h]
  · simp [hname]

/-- What later mappings take out of a row without a name that an earlier one has taken. -/
theorem filter_takes_cons_of_some (h : row.value? m.aliasName = some value) :
    ((row.without m.aliasName).filter fun e => !takes rest (row.without m.aliasName) e.1) =
      row.filter fun e => !takes (m :: rest) row e.1 := by
  conv_lhs => arg 2; unfold Row.without
  rw [List.filter_filter]
  exact List.filter_congr fun e _ => (takes_cons_of_some h e.1).symm

/-- Mappings set the properties of the movers one after the other, and take the entries of their names out
of the row where these have values. -/
theorem foldl_move (mappings : List Mapping) (s : State α) :
    mappings.foldl (fun s m => m.move s) s =
      ⟨setProperties (moved mappings s.row) s.nested,
        s.row.filter fun e => !takes mappings s.row e.1⟩ := by
  -- each mapping finds the row without the entries that the ones before it have taken
  induction mappings generalizing s with
  | nil =>
    have hall : s.row.filter (fun e => !takes [] s.row e.1) = s.row :=
      List.filter_eq_self.mpr fun e _ => rfl
    rw [hall]
    rfl
  | cons m rest ih =>
    rw [List.foldl_cons, ih, Mapping.move]
    cases h : s.row.value? m.aliasName with
    | none =>
      have hmoved : moved (m :: rest) s.row = moved rest s.row := by
        unfold moved
        rw [movers_cons_of_none h]
      simp only [hmoved, takes_cons_of_none h]
    | some value =>
      dsimp only
      rw [moved_cons_of_some h, filter_takes_cons_of_some h]
      rfl

theorem mem_firstUses {mappings : List Mapping} {name : String} :
    (∃ m ∈ firstUses mappings, m.aliasName = name) ↔ name ∈ mappings.map (·.aliasName) := by
  induction mappings with
  | nil => simp [firstUses]
  | cons m rest ih =>
    rw [firstUses, List.map_cons, List.mem_cons, ← ih]
    by_cases hname : m.aliasName = name
    · simp [hname]
    · simp only [List.mem_cons, List.mem_filter, exists_eq_or_imp, hname, Ne.symm hname, false_or]
      refine exists_congr fun later => ?_
      constructor
      · rintro ⟨⟨hmem, -⟩, hlater⟩
        exact ⟨hmem, hlater⟩
      · rintro ⟨hmem, rfl⟩
        exact ⟨⟨hmem, by simpa using Ne.symm hname⟩, rfl⟩

/-- No mapping moves a value exactly if no result name has one. -/
theorem movers_eq_nil_iff {mappings : List Mapping} :
    movers mappings row = [] ↔ ∀ name ∈ mappings.map (·.aliasName), row.value? name = none := by
  unfold movers
  rw [List.filter_eq_nil_iff]
  simp only [← mem_firstUses, Option.not_isSome_iff_eq_none]
  constructor
  · rintro h name ⟨m, hm, rfl⟩
    exact h m hm
  · exact fun h m hm => h _ ⟨m, hm, rfl⟩

theorem map_moved (mappings : List Mapping) (row : Row α) :
    (moved mappings row).map (·.1) = (movers mappings row).map (·.property) := by
  unfold moved
  rw [List.map_filterMap, ← List.filterMap_eq_map]
  refine List.filterMap_congr fun m hm => ?_
  obtain ⟨value, hvalue⟩ := Option.isSome_iff_exists.mp (List.mem_filter.mp hm).2
  rw [hvalue]
  rfl

/-- The last value that is moved to a property is that of the last mover with it. -/
theorem getLast?_moved (mappings : List Mapping) (row : Row α) (property : String) :
    ((moved mappings row).filter fun e => e.1 == property).getLast?.map (·.2) =
      ((movers mappings row).filter fun m => m.property == property).getLast?.bind fun m =>
        row.value? m.aliasName := by
  have hvalues : ∀ m ∈ movers mappings row, (row.value? m.aliasName).isSome := fun m hm =>
    (List.mem_filter.mp hm).2
  unfold moved
  generalize movers mappings row = ms at hvalues
  induction ms using List.reverseRecOn with
  | nil => rfl
  | append_singleton ms m ih =>
    obtain ⟨hbefore, hlast⟩ := List.forall_mem_append.mp hvalues
    obtain ⟨value, hvalue⟩ := Option.isSome_iff_exists.mp (hlast m List.mem_cons_self)
    have hentry : [m].filterMap (fun m => (row.value? m.aliasName).map (m.property, ·)) =
        [(m.property, value)] := List.filterMap_cons_some (by rw [hvalue]; rfl)
    rw [List.filterMap_append, List.filter_append, List.filter_append, List.getLast?_append,
      List.getLast?_append, hentry]
    by_cases h : m.property = property
    · simp [h, hvalue]
    · simpa [h] using ih hbefore

/-! ## What a rule makes of a row -/

theorem apply_row (rule : Rule) (row : Row α) :
    (rule.apply row).2 = row.filter fun e => !takes rule.mappings row e.1 := by
  unfold Rule.apply
  rw [foldl_move]

theorem apply_object (rule : Rule) (row : Row α) :
    (rule.apply row).1 = if movers rule.mappings row = [] then none else
      some (setProperties (moved rule.mappings row) []) := by
  have hempty : (setProperties (moved rule.mappings row) []).isEmpty = true ↔
      movers rule.mappings row = [] := by
    rw [setProperties_isEmpty, List.isEmpty_nil, Bool.and_true, List.isEmpty_iff, ← List.map_eq_nil_iff,
      map_moved, List.map_eq_nil_iff]
  unfold Rule.apply
  rw [foldl_move]
  exact ite_congr (propext hempty) (fun _ => rfl) fun _ => rfl

/-- What is left of a row, and the object if there is one, told from the row as it was. -/
structure Folds (rule : Rule) (row : Row α) (object : Option (List (String × α))) (left : Row α) :
    Prop where
  absent : object = none ↔ ∀ name ∈ rule.aliases, row.value? name = none
  untouched : object = none → left = row
  left : left = row.filter fun e => !(rule.aliases.contains e.1 && (row.value? e.1).isSome)
  properties : ∀ nested, object = some nested →
    nested.map (·.1) = ((movers rule.mappings row).map (·.property)).eraseDups
  values : ∀ nested, object = some nested → ∀ property, List.lookup property nested =
    ((movers rule.mappings row).filter fun m => m.property == property).getLast?.bind fun m =>
      row.value? m.aliasName

/-- A rule gives no object exactly if no name of its own has a value, and then leaves the row as it was. Else
the row has lost just the entries of its names that had values, and the object has the properties of the
mappings that moved a value, each with what the last of them moved. -/
theorem apply_folds (rule : Rule) (row : Row α) :
    Folds rule row (rule.apply row).1 (rule.apply row).2 := by
  have habsent : (rule.apply row).1 = none ↔ ∀ name ∈ rule.aliases, row.value? name = none := by
    rw [apply_object, ite_eq_left_iff, Rule.aliases, ← movers_eq_nil_iff]
    simp
  have hobject : ∀ nested, (rule.apply row).1 = some nested →
      nested = setProperties (moved rule.mappings row) [] := by
    intro nested h
    rw [apply_object] at h
    split at h
    · cases h
    · exact (Option.some.inj h).symm
  refine ⟨habsent, ?_, apply_row rule row, ?_, ?_⟩
  · intro hnone
    rw [apply_row, List.filter_eq_self]
    intro e _
    unfold takes
    cases hname : (rule.mappings.map (·.aliasName)).contains e.1 with
    | false => rfl
    | true =>
      have hvalue := habsent.mp hnone e.1 (List.contains_iff_mem.mp hname)
      rw [hvalue]
      rfl
  · intro nested h
    rw [hobject nested h, keys_setProperties, map_moved]
  · intro nested h property
    rw [hobject nested h, lookup_setProperties, getLast?_moved]

/-- A name that comes twice moves its value once, and a property that comes twice keeps the last value. -/
example : Rule.apply ⟨"user", "User",
      [⟨"user_id", "id", "key"⟩, ⟨"user_no", "no", "key"⟩, ⟨"user_id", "id", "id"⟩]⟩
    [("user_id", some 7), ("id", some 1), ("user_no", some 9)] =
      (some [("key", 9)], [("id", some 1)]) := by decide

end Scaffold.Hydration
