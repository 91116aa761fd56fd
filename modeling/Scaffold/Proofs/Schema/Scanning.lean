import Scaffold.Schema.Scan

/-!
# Scans from left to right

A scan of a text takes the clause that is read at a place and goes on behind it, or passes over one
character if none is read there. So the clauses it finds do not overlap, and each is the leftmost one of
what was left when it was found.

* `Scan`: what a scan finds, told without the scanner.
* `scan_iff`: the scanner finds this and nothing else.
-/
namespace Scaffold.Schema

variable {α : Type} {read? : List Char → Option (α × List Char)}

/-- The clauses that a scan of a text finds, in their order. -/
inductive Scan (read? : List Char → Option (α × List Char)) : List Char → List α → Prop where
  | done : Scan read? [] []
  | take {cs rest : List Char} {clause : α} {found : List α}
      (hread : read? cs = some (clause, rest)) (hrest : Scan read? rest found) :
      Scan read? cs (clause :: found)
  | pass {c : Char} {cs : List Char} {found : List α} (hnone : read? (c :: cs) = none)
      (hrest : Scan read? cs found) : Scan read? (c :: cs) found

/-- Whatever is read takes up a part of the text, and the rest is what stands behind that part. -/
def Consumes (read? : List Char → Option (α × List Char)) : Prop :=
  ∀ ⦃cs : List Char⦄ ⦃clause : α⦄ ⦃rest : List Char⦄, read? cs = some (clause, rest) →
    ∃ part, part ≠ [] ∧ cs = part ++ rest

/-- The scanner goes on behind the characters that it is to skip. -/
theorem clausesFrom_skip (part rest : List Char) :
    clausesFrom read? part.length (part ++ rest) = clausesFrom read? 0 rest := by
  induction part with
  | nil => rfl
  | cons c part ih =>
    rw [List.cons_append, List.length_cons, clausesFrom]
    exact ih

theorem clausesFrom_take (hconsumes : Consumes read?) {cs rest : List Char} {clause : α}
    (h : read? cs = some (clause, rest)) :
    clausesFrom read? 0 cs = clause :: clausesFrom read? 0 rest := by
  obtain ⟨part, hne, rfl⟩ := hconsumes h
  obtain ⟨c, part, rfl⟩ := List.exists_cons_of_ne_nil hne
  have hlength : (part ++ rest).length - rest.length = part.length := by
    rw [List.length_append, Nat.add_sub_cancel]
  rw [List.cons_append] at h ⊢
  simp only [clausesFrom, h, hlength, clausesFrom_skip]

theorem clausesFrom_pass {c : Char} {cs : List Char} (h : read? (c :: cs) = none) :
    clausesFrom read? 0 (c :: cs) = clausesFrom read? 0 cs := by
  rw [clausesFrom, h]

theorem clausesFrom_of_scan (hconsumes : Consumes read?) {cs : List Char} {found : List α}
    (h : Scan read? cs found) : clausesFrom read? 0 cs = found := by
  induction h with
  | done => rfl
  | take hread _ ih => rw [clausesFrom_take hconsumes hread, ih]
  | pass hnone _ ih => rw [clausesFrom_pass hnone, ih]

/-- Every text can be scanned: either step leaves a shorter one. -/
theorem exists_scan (hconsumes : Consumes read?) (cs : List Char) : ∃ found, Scan read? cs found := by
  cases cs with
  | nil => exact ⟨[], .done⟩
  | cons c cs =>
    cases hread : read? (c :: cs) with
    | none =>
      obtain ⟨found, hrest⟩ := exists_scan hconsumes cs
      exact ⟨found, .pass hread hrest⟩
    | some taken =>
      obtain ⟨clause, rest⟩ := taken
      have hshorter : rest.length < (c :: cs).length := by
        obtain ⟨part, hne, heq⟩ := hconsumes hread
        rw [heq, List.length_append]
        exact Nat.lt_add_of_pos_left (List.length_pos_iff.mpr hne)
      obtain ⟨found, hrest⟩ := exists_scan hconsumes rest
      exact ⟨clause :: found, .take hread hrest⟩
termination_by cs.length
decreasing_by
  · exact Nat.lt_succ_self cs.length
  · exact hshorter

/-- The scanner finds what a scan finds, and a scan nothing else. -/
theorem scan_iff (hconsumes : Consumes read?) {cs : List Char} {found : List α} :
    Scan read? cs found ↔ found = clausesFrom read? 0 cs := by
  constructor
  · exact fun h => (clausesFrom_of_scan hconsumes h).symm
  · rintro rfl
    obtain ⟨found, hscan⟩ := exists_scan hconsumes cs
    rwa [clausesFrom_of_scan hconsumes hscan]

end Scaffold.Schema
