/-
Finite sets of labelled values, kept as lists in the order of their labels:

* `SortedSet`: a strictly ascending list;
* `mem_insert`, `mem_insertAll`, `mem_ofList`: what is in a set that was built;
* `SortedSet.ext`: two sets with the same members are equal, so nothing about how a set was
  built is left in it.
-/

namespace ImageRetention

/-- A type whose values are told apart, and ordered, by a text. -/
class Labelled (α : Type) where
  /-- The text that stands for a value. -/
  label : α → String
  /-- Values with one text are one value. -/
  eq_of_label_eq : ∀ {a b : α}, label a = label b → a = b

export Labelled (label)

instance : Labelled String where
  label := id
  eq_of_label_eq := id

/-- A finite set as the ascending list of its members. -/
structure SortedSet (α : Type) [Labelled α] where
  /-- The members in the order of their labels. -/
  toList : List α
  /-- Each label is less than all later ones. -/
  ascending : toList.Pairwise fun a b => label a < label b

namespace SortedSet

variable {α : Type} [Labelled α]

instance : Membership α (SortedSet α) where
  mem s a := a ∈ s.toList

theorem mem_def {a : α} {s : SortedSet α} : a ∈ s ↔ a ∈ s.toList := Iff.rfl

/-! ### Insertion into an ascending list -/

/-- Puts a value at its place in an ascending list, unless it is there already. -/
def insertList (a : α) : List α → List α
  | [] => [a]
  | b :: rest =>
    if label a < label b then a :: b :: rest
    else if label b < label a then b :: insertList a rest
    else b :: rest

theorem eq_of_not_lt {a b : α} (hab : ¬label a < label b) (hba : ¬label b < label a) :
    a = b :=
  Labelled.eq_of_label_eq (String.le_antisymm (String.not_lt.mp hba) (String.not_lt.mp hab))

theorem mem_insertList {a b : α} {l : List α} : b ∈ insertList a l ↔ b = a ∨ b ∈ l := by
  induction l with
  | nil => simp [insertList]
  | cons c rest ih =>
    rw [insertList]
    split
    · simp
    · rename_i hac
      split
      · simp only [List.mem_cons, ih]
        exact or_left_comm
      · rename_i hca
        have := eq_of_not_lt hac hca
        subst this
        simp

theorem pairwise_insertList {a : α} {l : List α}
    (h : l.Pairwise fun a b => label a < label b) :
    (insertList a l).Pairwise fun a b => label a < label b := by
  induction l with
  | nil => simp [insertList]
  | cons c rest ih =>
    obtain ⟨hc, hrest⟩ := List.pairwise_cons.mp h
    rw [insertList]
    split
    · rename_i hac
      refine List.pairwise_cons.mpr ⟨?_, h⟩
      intro b hb
      rcases List.mem_cons.mp hb with rfl | hb
      · exact hac
      · exact String.lt_trans hac (hc b hb)
    · split
      · rename_i hca
        refine List.pairwise_cons.mpr ⟨?_, ih hrest⟩
        intro b hb
        rcases mem_insertList.mp hb with rfl | hb
        · exact hca
        · exact hc b hb
      · exact h

/-! ### Building sets -/

/-- The set without members. -/
def empty : SortedSet α where
  toList := []
  ascending := .nil

instance : EmptyCollection (SortedSet α) where
  emptyCollection := empty

/-- The set with one more member. -/
def insert (s : SortedSet α) (a : α) : SortedSet α where
  toList := insertList a s.toList
  ascending := pairwise_insertList s.ascending

/-- The set with all of a list as further members. -/
def insertAll (s : SortedSet α) (l : List α) : SortedSet α :=
  l.foldl insert s

/-- The set of the values in a list. -/
def ofList (l : List α) : SortedSet α :=
  empty.insertAll l

/-- The members of either set. -/
def union (s t : SortedSet α) : SortedSet α :=
  s.insertAll t.toList

/-- How many members a set has. -/
def size (s : SortedSet α) : Nat :=
  s.toList.length

/-- Whether a set has no member. -/
def isEmpty (s : SortedSet α) : Bool :=
  s.toList.isEmpty

/-- Whether a value is a member. -/
def contains (s : SortedSet α) (a : α) : Bool :=
  s.toList.any fun b => label a == label b

@[simp] theorem not_mem_empty (a : α) : ¬a ∈ (empty : SortedSet α) :=
  List.not_mem_nil

@[simp] theorem mem_insert {s : SortedSet α} {a b : α} : b ∈ s.insert a ↔ b = a ∨ b ∈ s :=
  mem_insertList

@[simp] theorem mem_insertAll {s : SortedSet α} {l : List α} {b : α} :
    b ∈ s.insertAll l ↔ b ∈ s ∨ b ∈ l := by
  induction l generalizing s with
  | nil => simp [insertAll]
  | cons a rest ih =>
    have : s.insertAll (a :: rest) = (s.insert a).insertAll rest := rfl
    rw [this, ih, mem_insert, List.mem_cons]
    exact ⟨fun h => by rcases h with (h | h) | h <;> simp [h],
      fun h => by rcases h with h | h | h <;> simp [h]⟩

@[simp] theorem mem_ofList {l : List α} {b : α} : b ∈ ofList l ↔ b ∈ l := by
  simp [ofList]

@[simp] theorem mem_union {s t : SortedSet α} {b : α} : b ∈ s.union t ↔ b ∈ s ∨ b ∈ t := by
  rw [union, mem_insertAll]
  rfl

@[simp] theorem contains_iff {s : SortedSet α} {a : α} : s.contains a = true ↔ a ∈ s := by
  simp only [contains, List.any_eq_true, beq_iff_eq, mem_def]
  exact ⟨fun ⟨b, hb, h⟩ => Labelled.eq_of_label_eq h ▸ hb, fun h => ⟨a, h, rfl⟩⟩

theorem isEmpty_iff {s : SortedSet α} : s.isEmpty = true ↔ ∀ a, ¬a ∈ s := by
  simp only [isEmpty, List.isEmpty_iff, mem_def]
  exact List.eq_nil_iff_forall_not_mem

/-! ### Equality -/

private theorem eq_of_mem_iff {l m : List α} (hl : l.Pairwise fun a b => label a < label b)
    (hm : m.Pairwise fun a b => label a < label b) (h : ∀ a, a ∈ l ↔ a ∈ m) : l = m := by
  induction l generalizing m with
  | nil =>
    cases m with
    | nil => rfl
    | cons b m => exact absurd ((h b).mpr (by simp)) (by simp)
  | cons a l ih =>
    obtain ⟨ha, hl'⟩ := List.pairwise_cons.mp hl
    cases m with
    | nil => exact absurd ((h a).mp (by simp)) (by simp)
    | cons b m =>
      obtain ⟨hb, hm'⟩ := List.pairwise_cons.mp hm
      have hab : a = b := by
        rcases List.mem_cons.mp ((h a).mp (by simp)) with hEq | hIn
        · exact hEq
        · rcases List.mem_cons.mp ((h b).mpr (by simp)) with hEq | hIn'
          · exact hEq.symm
          · exact absurd (hb a hIn) (String.lt_asymm (ha b hIn'))
      subst hab
      refine congrArg (a :: ·) (ih hl' hm' ?_)
      intro c
      have hc := h c
      simp only [List.mem_cons] at hc
      constructor
      · intro hIn
        rcases hc.mp (Or.inr hIn) with rfl | hIn'
        · exact absurd (ha c hIn) (String.lt_irrefl _)
        · exact hIn'
      · intro hIn
        rcases hc.mpr (Or.inr hIn) with rfl | hIn'
        · exact absurd (hb c hIn) (String.lt_irrefl _)
        · exact hIn'

/-- Two sets with the same members are equal. -/
theorem ext {s t : SortedSet α} (h : ∀ a, a ∈ s ↔ a ∈ t) : s = t := by
  cases s with
  | mk l hl =>
    cases t with
    | mk m hm =>
      have := eq_of_mem_iff hl hm h
      subst this
      rfl

/-- The order and the repetitions of a list leave no trace in its set. -/
theorem ofList_congr {l m : List α} (h : ∀ a, a ∈ l ↔ a ∈ m) : ofList l = ofList m :=
  ext fun a => by simp [h a]

end SortedSet

end ImageRetention
