import Mathlib.Tactic

/-!
Items that are read one after the other, up to the first one at fault.

* `readItems`: the values that some items have, or the fault of the first one that has a fault;
* `readItems_cons`: what one more item in front changes;
* `readItems_eq_ok_iff`, `readItems_eq_error_iff`: when reading succeeds and fails, and with what;
* `readItems_append`: items in two parts are read part by part.

Lines of a listing and references to images are both read so.
-/

namespace ImageRetention

variable {α β ε : Type} (fault? : α → Option ε) (value? : α → Option β)

/-- The values that some items have, in order, or the fault of the first item that has one. -/
def readItems (items : List α) : Except ε (List β) :=
  match items.findSome? fault? with
  | some fault => .error fault
  | none => .ok (items.filterMap value?)

lemma readItems_cons (item : α) (rest : List α) :
    readItems fault? value? (item :: rest) =
      match fault? item with
      | some fault => .error fault
      | none => (readItems fault? value? rest).map fun found => (value? item).toList ++ found := by
  rw [readItems, readItems, List.findSome?_cons, List.filterMap_cons]
  cases fault? item with
  | some fault => rfl
  | none =>
      cases rest.findSome? fault? with
      | some fault => rfl
      | none => cases value? item <;> rfl

variable {fault? value?}

lemma readItems_eq_ok_iff {items : List α} {found : List β} :
    readItems fault? value? items = .ok found ↔
      (∀ item ∈ items, fault? item = none) ∧ found = items.filterMap value? := by
  rw [readItems, ← List.findSome?_eq_none_iff]
  cases items.findSome? fault? <;> simp [eq_comm]

lemma readItems_eq_error_iff {items : List α} {fault : ε} :
    readItems fault? value? items = .error fault ↔
      ∃ before item after, items = before ++ item :: after ∧
        (∀ earlier ∈ before, fault? earlier = none) ∧ fault? item = some fault := by
  have hfirst : readItems fault? value? items = .error fault ↔
      items.findSome? fault? = some fault := by
    rw [readItems]
    cases items.findSome? fault? <;> simp
  rw [hfirst, List.findSome?_eq_some_iff]
  exact exists₃_congr fun before item after => and_congr_right fun _ => and_comm

/-- Items in two parts are read part by part. -/
lemma readItems_append (first second : List α) :
    readItems fault? value? (first ++ second) =
      (do
        let found ← readItems fault? value? first
        let more ← readItems fault? value? second
        .ok (found ++ more)) := by
  simp only [readItems, List.findSome?_append, List.filterMap_append]
  cases first.findSome? fault? with
  | some fault => rfl
  | none => cases second.findSome? fault? <;> rfl

end ImageRetention
