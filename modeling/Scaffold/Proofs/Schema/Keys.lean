import Scaffold.Proofs.Schema.Heads
import Scaffold.Proofs.Schema.Scanning
import Scaffold.Schema.Reader

/-!
# The foreign keys of a text

The scanner takes a clause, goes on behind it and looks at no place twice. Within a clause no other one
can begin, so what it skips holds nothing, and neither does the name of a constraint.

* `foreignKeysIn_eq_begun`: the keys of a text are those of the clauses that begin anywhere in it.
* `scans_find_foreignKeys`: a scan finds the same keys with the names of constraints as without.
* `begun_append`, `foreignKeysIn_append`: the keys of a text that is given in parts.
* `begun_eq_append_broken`: at most one clause lies across the end of a part.
-/
namespace Scaffold.Schema

open Text

/-- The keys of the clauses that begin in a text, as it is read on into what stands behind it. -/
def begun (behind : List Char) : List Char → List ForeignKey
  | [] => []
  | c :: cs =>
    match bareForeignKey? (c :: cs ++ behind) with
    | some (fk, _) => fk :: begun behind cs
    | none => begun behind cs

theorem begun_cons_none {behind cs : List Char} {c : Char}
    (h : bareForeignKey? (c :: cs ++ behind) = none) : begun behind (c :: cs) = begun behind cs := by
  rw [begun, h]

theorem begun_append (behind a b : List Char) :
    begun behind (a ++ b) = begun (b ++ behind) a ++ begun behind b := by
  induction a with
  | nil => rfl
  | cons c a ih =>
    simp only [List.cons_append, begun, List.append_assoc, ih]
    split <;> rfl

theorem Clause.headAt (c : Clause) (rest : List Char) : HeadAt (c.text ++ rest) :=
  ⟨c.head, c.target ++ rest, by unfold Clause.text; rw [List.append_assoc]⟩

theorem bareForeignKey?_of_not_headAt {cs : List Char} (h : ¬HeadAt cs) :
    bareForeignKey? cs = none := by
  cases hr : bareForeignKey? cs with
  | none => rfl
  | some found =>
    obtain ⟨c, -, rfl⟩ := bareForeignKey?_eq_some_iff.mp (show _ = some (found.1, found.2) from hr)
    exact absurd (c.headAt found.2) h

/-- Where no clause can begin none does. -/
theorem begun_of_headless {behind cs : List Char} (h : Headless behind cs) :
    begun behind cs = [] := by
  induction cs with
  | nil => rfl
  | cons c cs ih =>
    rw [begun_cons_none (bareForeignKey?_of_not_headAt h.1)]
    exact ih h.2

/-- A clause gives one key. -/
theorem begun_clause (c : Clause) (behind : List Char) : begun behind c.text = [c.foreignKey] := by
  obtain ⟨first, tail, htext, htail⟩ := c.headless_tail behind
  have hread : bareForeignKey? (first :: tail ++ behind) = some (c.foreignKey, behind) := by
    rw [← htext]
    exact bareForeignKey?_eq_some_iff.mpr ⟨c, rfl, rfl⟩
  rw [htext, begun, hread, begun_of_headless htail]

/-! ## The scanner -/

theorem foreignKey?_eq_or (cs : List Char) :
    foreignKey? cs = ((constraintName? cs).bind bareForeignKey?).or (bareForeignKey? cs) :=
  Option.orElse_eq_or

/-- A reader takes the first clause of what it reads, and none begins where it reads nothing. -/
structure TakesFirst (read? : List Char → Option (ForeignKey × List Char)) : Prop where
  takes : ∀ ⦃cs : List Char⦄ ⦃fk : ForeignKey⦄ ⦃rest : List Char⦄, read? cs = some (fk, rest) →
    ∃ (before : List Char) (c : Clause), c.foreignKey = fk ∧ cs = before ++ (c.text ++ rest) ∧
      Headless (c.text ++ rest) before
  passes : ∀ ⦃cs : List Char⦄, read? cs = none → bareForeignKey? cs = none

theorem takesFirst_bareForeignKey? : TakesFirst bareForeignKey? where
  takes := by
    intro cs fk rest h
    obtain ⟨c, hfk, rfl⟩ := bareForeignKey?_eq_some_iff.mp h
    exact ⟨[], c, hfk, rfl, headless_nil _⟩
  passes := fun _ h => h

/-- In the name of a constraint no clause begins, whatever the name. -/
theorem takesFirst_foreignKey? : TakesFirst foreignKey? where
  takes := by
    intro cs fk rest h
    rw [foreignKey?_eq_or] at h
    rcases Option.or_eq_some_iff.mp h with h | ⟨-, h⟩
    · obtain ⟨behind, hname, hclause⟩ := Option.bind_eq_some_iff.mp h
      obtain ⟨c, hfk, rfl⟩ := bareForeignKey?_eq_some_iff.mp hclause
      obtain ⟨⟨p, rfl⟩, -⟩ := constraintName?_eq_some_iff.mp hname
      exact ⟨p.text, c, hfk, rfl, p.headless c rest⟩
    · exact takesFirst_bareForeignKey?.takes h
  passes := by
    intro cs h
    rw [foreignKey?_eq_or] at h
    exact (Option.or_eq_none_iff.mp h).2

namespace TakesFirst

variable {read? : List Char → Option (ForeignKey × List Char)}

theorem consumes (h : TakesFirst read?) : Consumes read? := by
  intro cs fk rest hread
  obtain ⟨before, c, -, rfl, -⟩ := h.takes hread
  refine ⟨before ++ c.text, fun hnil => ?_, (List.append_assoc ..).symm⟩
  exact c.text_ne_nil (List.append_eq_nil_iff.mp hnil).2

theorem begun_of_read (h : TakesFirst read?) {cs rest : List Char} {fk : ForeignKey}
    (hread : read? cs = some (fk, rest)) : begun [] cs = fk :: begun [] rest := by
  obtain ⟨before, c, rfl, rfl, hbefore⟩ := h.takes hread
  rw [begun_append, List.append_nil, begun_of_headless hbefore, begun_append, List.append_nil,
    begun_clause]
  rfl

/-- A scan with such a reader finds the clauses that begin anywhere. -/
theorem begun_of_scan (h : TakesFirst read?) {cs : List Char} {found : List ForeignKey}
    (hscan : Scan read? cs found) : begun [] cs = found := by
  induction hscan with
  | done => rfl
  | take hread _ ih => rw [h.begun_of_read hread, ih]
  | pass hnone _ ih =>
    rw [begun_cons_none (by rw [List.append_nil]; exact h.passes hnone), ih]

theorem clausesFrom_eq_begun (h : TakesFirst read?) (cs : List Char) :
    clausesFrom read? 0 cs = begun [] cs :=
  (h.begun_of_scan ((scan_iff h.consumes).mpr rfl)).symm

end TakesFirst

/-- The keys of a text are those of the clauses that begin anywhere in it. -/
theorem foreignKeysIn_eq_begun (cs : List Char) : foreignKeysIn cs = begun [] cs :=
  takesFirst_foreignKey?.clausesFrom_eq_begun cs

/-- The names of constraints do not matter: a scan that takes a clause together with such a name before it
and one that takes the clause alone both find the keys of the text, in their order, and nothing else. -/
theorem scans_find_foreignKeys (cs : List Char) :
    clausesFrom bareForeignKey? 0 cs = foreignKeys cs ∧
      (∀ found, Scan foreignKey? cs found ↔ found = foreignKeys cs) ∧
      ∀ found, Scan bareForeignKey? cs found ↔ found = foreignKeys cs := by
  have hbare : clausesFrom bareForeignKey? 0 cs = foreignKeys cs :=
    calc clausesFrom bareForeignKey? 0 cs
        = begun [] cs := takesFirst_bareForeignKey?.clausesFrom_eq_begun cs
      _ = foreignKeysIn cs := (foreignKeysIn_eq_begun cs).symm
  refine ⟨hbare, fun found => scan_iff takesFirst_foreignKey?.consumes, fun found => ?_⟩
  rw [← hbare]
  exact scan_iff takesFirst_bareForeignKey?.consumes

/-- The name of a constraint may be a word that a clause begins with. -/
example : foreignKeys "constraint foreign\nforeign key (a) references b (c)".toList = [⟨"a", "b", "c"⟩] := by
  decide

/-- The keys of a text in two parts: of the clauses that begin in the first, then of the second. -/
theorem foreignKeysIn_append (a b : List Char) :
    foreignKeysIn (a ++ b) = begun b a ++ foreignKeysIn b := by
  rw [foreignKeysIn_eq_begun, foreignKeysIn_eq_begun, begun_append, List.append_nil]

/-- A text without a closing parenthesis holds no clause. -/
theorem begun_of_no_paren {cs : List Char} (h : ')' ∉ cs) : begun [] cs = [] := by
  induction cs with
  | nil => rfl
  | cons c cs ih =>
    have hnone : bareForeignKey? (c :: cs ++ []) = none := by
      cases hread : bareForeignKey? (c :: cs ++ []) with
      | none => rfl
      | some found =>
        obtain ⟨clause, -, heq⟩ :=
          bareForeignKey?_eq_some_iff.mp (show _ = some (found.1, found.2) from hread)
        have hparen := clause.paren_mem_end (List.nil_append _).symm clause.text_ne_nil
        rw [List.append_nil] at heq
        exact absurd (by rw [heq]; exact List.mem_append_left _ hparen) h
    rw [begun_cons_none hnone]
    exact ih fun hmem => h (List.mem_cons_of_mem _ hmem)

/-! ## Clauses across a cut -/

/-- The key of the clause that begins in a text and ends in what stands behind it, if there is one. -/
def broken? (behind : List Char) : List Char → Option ForeignKey
  | [] => none
  | c :: cs =>
    match bareForeignKey? (c :: cs ++ behind), bareForeignKey? (c :: cs) with
    | some (fk, _), none => some fk
    | _, _ => broken? behind cs

/-- A clause that ends within a part of a text is read off the part alone. -/
theorem bareForeignKey?_append {cs rest : List Char} {fk : ForeignKey}
    (h : bareForeignKey? cs = some (fk, rest)) (behind : List Char) :
    bareForeignKey? (cs ++ behind) = some (fk, rest ++ behind) := by
  obtain ⟨c, hfk, rfl⟩ := bareForeignKey?_eq_some_iff.mp h
  exact bareForeignKey?_eq_some_iff.mpr ⟨c, hfk, List.append_assoc ..⟩

/-- A clause that does not end within a part of a text reaches beyond it. -/
theorem exists_beyond {cs behind rest : List Char} {fk : ForeignKey}
    (h : bareForeignKey? (cs ++ behind) = some (fk, rest)) (hpart : bareForeignKey? cs = none) :
    ∃ (c : Clause) (beyond : List Char), c.foreignKey = fk ∧ c.text = cs ++ beyond ∧
      behind = beyond ++ rest := by
  obtain ⟨c, hfk, heq⟩ := bareForeignKey?_eq_some_iff.mp h
  rcases List.append_eq_append_iff.mp heq with ⟨beyond, htext, hbehind⟩ | ⟨inner, hcs, -⟩
  · exact ⟨c, beyond, hfk, htext, hbehind⟩
  · rw [bareForeignKey?_eq_some_iff.mpr ⟨c, hfk, hcs⟩] at hpart
    cases hpart

/-- At most one clause lies across the end of a part, and it is the last that begins there. -/
theorem begun_eq_append_broken (behind cs : List Char) :
    begun behind cs = begun [] cs ++ (broken? behind cs).toList := by
  induction cs with
  | nil => rfl
  | cons c cs ih =>
    cases hpart : bareForeignKey? (c :: cs) with
    | some found =>
      have hread := bareForeignKey?_append (show _ = some (found.1, found.2) from hpart) behind
      rw [begun, hread, begun, List.append_nil, hpart, broken?, hread, hpart, ih]
      rfl
    | none =>
      cases hread : bareForeignKey? (c :: cs ++ behind) with
      | none =>
        rw [begun_cons_none hread, begun_cons_none (by rw [List.append_nil]; exact hpart), broken?,
          hread, hpart, ih]
      | some found =>
        -- the clause takes up the rest of the part, in which no other one begins
        obtain ⟨clause, beyond, -, htext, rfl⟩ :=
          exists_beyond (show _ = some (found.1, found.2) from hread) hpart
        obtain ⟨first, tail, hfirst, htail⟩ := clause.headless_tail found.2
        have hsplit : tail = cs ++ beyond := by
          rw [hfirst, List.cons_append] at htext
          exact (List.cons_eq_cons.mp htext).2
        rw [hsplit, headless_append] at htail
        have hnone := begun_of_headless htail.1
        have hnone' : begun [] cs = [] := by
          rw [hnone] at ih
          exact (List.append_eq_nil_iff.mp ih.symm).1
        rw [begun, hread, begun_cons_none (by rw [List.append_nil]; exact hpart), broken?, hread,
          hpart, hnone, hnone']
        rfl

/-- A clause across a cut has a part on either side. -/
theorem broken?_eq_some {behind cs : List Char} {fk : ForeignKey}
    (h : broken? behind cs = some fk) :
    ∃ (c : Clause) (before part beyond rest : List Char), cs = before ++ part ∧ part ≠ [] ∧
      beyond ≠ [] ∧ c.text = part ++ beyond ∧ behind = beyond ++ rest := by
  induction cs with
  | nil => cases h
  | cons x cs ih =>
    rw [broken?] at h
    split at h
    · rename_i fk' rest hread hpart
      obtain ⟨c, beyond, -, htext, hbehind⟩ := exists_beyond hread hpart
      refine ⟨c, [], x :: cs, beyond, rest, rfl, List.cons_ne_nil _ _, ?_, htext, hbehind⟩
      rintro rfl
      rw [List.append_nil] at htext
      rw [bareForeignKey?_eq_some_iff.mpr ⟨c, rfl, (by rw [htext, List.append_nil] : x :: cs = _ ++ [])⟩]
        at hpart
      cases hpart
    · obtain ⟨c, before, part, beyond, rest, hcs, hrest⟩ := ih h
      exact ⟨c, x :: before, part, beyond, rest, by rw [hcs, List.cons_append], hrest⟩

/-- The keys of a text in two parts: of the first, of the clause across the cut, of the second. -/
theorem foreignKeys_append (before after : List Char) :
    foreignKeys (before ++ after) =
      foreignKeys before ++ ((broken? after before).toList ++ foreignKeys after) := by
  unfold foreignKeys
  rw [foreignKeysIn_append, begun_eq_append_broken, foreignKeysIn_eq_begun before, List.append_assoc]

end Scaffold.Schema
