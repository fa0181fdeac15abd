import Mathlib.Tactic
import ImageRetention.LiveSet.Pool
import ImageRetention.Proofs.Observer

/-!
What a pool of questions finds, whatever its schedule and its limit.

* `NoneFails`, `Yields`: what can be said of a list of answers;
* `Pool.Settled`: what the end of a pool says: all answers merged, or the failure of one;
* `settle_of_start`, `settle_of_merge`, `settle_of_stop`, `settle_of_no_moves`: the move that a
  schedule chooses;
* `shows_settle`: an observer who writes down one entry for each question finds no item
  asked about twice, and all of them asked about if the pool succeeds;
* `shows_gather`: the same for a pool in which nothing has been started.

The invariant behind `shows_settle` speaks of the answers under way next to those still to
come: starting an item moves its answer from the second kind to the first, and finishing one
moves it into the set.  Neither the limit nor the schedule occurs in what is concluded.
-/

namespace ImageRetention

/-! ### Answers -/

variable {σ ρ κ α β : Type}

/-- None of some answers is a failure. -/
def NoneFails (given : List (Except Failure (List β))) : Prop :=
  ∀ answer ∈ given, ∃ found, answer = .ok found

/-- One of some answers gives a value. -/
def Yields (given : List (Except Failure (List β))) (b : β) : Prop :=
  ∃ found, .ok found ∈ given ∧ b ∈ found

namespace Pool

open Observer (shows_pure shows_fail)

variable [Labelled β]

/-- The answers that will arrive for the items under way. -/
def answers (pool : Pool α β) : List (Except Failure (List β)) := pool.underWay.map Prod.snd

/-- What the end of a pool says about the answers that were given: if it succeeds then so did
all of them and the set is their union, and if it fails then so did one of them. -/
structure Settled (known : SortedSet β) (given : List (Except Failure (List β)))
    (result : Except Failure (SortedSet β)) : Prop where
  of_ok : ∀ set, result = .ok set → NoneFails given ∧ ∀ b, b ∈ set ↔ b ∈ known ∨ Yields given b
  of_error : ∀ failure, result = .error failure → .error failure ∈ given

lemma Settled.perm {known : SortedSet β} {given other : List (Except Failure (List β))}
    {result : Except Failure (SortedSet β)} (h : Settled known given result)
    (hperm : given.Perm other) : Settled known other result := by
  refine ⟨fun set hset => ?_, fun failure hf => hperm.mem_iff.mp (h.of_error failure hf)⟩
  obtain ⟨hall, hmem⟩ := h.of_ok set hset
  refine ⟨fun answer ha => hall answer (hperm.mem_iff.mpr ha), fun b => ?_⟩
  simp only [hmem b, Yields, hperm.mem_iff]

/-- An answer that has been merged counts as one that was given. -/
lemma Settled.of_insertAll {known : SortedSet β} {found : List β}
    {given : List (Except Failure (List β))} {result : Except Failure (SortedSet β)}
    (h : Settled (known.insertAll found) given result) :
    Settled known (.ok found :: given) result := by
  refine ⟨fun set hset => ?_, fun failure hf => List.mem_cons_of_mem _ (h.of_error failure hf)⟩
  obtain ⟨hall, hmem⟩ := h.of_ok set hset
  refine ⟨List.forall_mem_cons.mpr ⟨⟨found, rfl⟩, hall⟩, fun b => ?_⟩
  rw [hmem b, SortedSet.mem_insertAll]
  constructor
  · rintro ((hb | hb) | ⟨more, hmore, hb⟩)
    · exact Or.inl hb
    · exact Or.inr ⟨found, by simp, hb⟩
    · exact Or.inr ⟨more, by simp [hmore], hb⟩
  · rintro (hb | ⟨more, hmore, hb⟩)
    · exact Or.inl (Or.inl hb)
    · rcases List.mem_cons.mp hmore with hEq | hmore
      · cases hEq
        exact Or.inl (Or.inr hb)
      · exact Or.inr ⟨more, hmore, hb⟩

/-! ### Moves and what they leave -/

@[simp] lemma answers_start (pool : Pool α β) (index : Nat) (item : α)
    (answer : Except Failure (List β)) :
    (pool.start index item answer).answers = pool.answers ++ [answer] := by
  simp [answers, start]

@[simp] lemma merged_start (pool : Pool α β) (index : Nat) (item : α)
    (answer : Except Failure (List β)) :
    (pool.start index item answer).merged = pool.merged := rfl

lemma cons_waiting_start_perm (pool : Pool α β) {index : Nat}
    (h : index < pool.waiting.length) (answer : Except Failure (List β)) :
    (pool.waiting[index] :: (pool.start index pool.waiting[index] answer).waiting).Perm
      pool.waiting :=
  List.getElem_cons_eraseIdx_perm h

lemma cons_answers_finish_perm (pool : Pool α β) {index : Nat}
    (h : index < pool.underWay.length) (found : List β) :
    (pool.underWay[index].2 :: (pool.finish index found).answers).Perm pool.answers :=
  (List.getElem_cons_eraseIdx_perm h).map Prod.snd

/-- A pool without moves is empty, since one item may always be started. -/
lemma eq_nil_of_no_moves {limit : Nat} {pool : Pool α β}
    (h : pool.startable limit + pool.underWay.length = 0) :
    pool.waiting = [] ∧ pool.underWay = [] := by
  have hUnder : pool.underWay.length = 0 := by omega
  have hStart : pool.startable limit = 0 := by omega
  rw [startable, if_pos (by omega)] at hStart
  exact ⟨List.length_eq_zero_iff.mp hStart, List.length_eq_zero_iff.mp hUnder⟩

/-! ### The moves of a schedule -/

section Choices

variable {limit : Nat} {ask : α → Run σ (List β)} {schedule : Schedule} {step index : Nat}
  {pool : Pool α β}

lemma settle_of_no_moves (h : pool.startable limit + pool.underWay.length = 0) :
    settle limit ask schedule step pool = pure pool.merged := by
  rw [settle]
  simp only [h, dif_pos]

lemma settle_of_start (h : index < pool.startable limit)
    (hchoice : schedule step % (pool.startable limit + pool.underWay.length) = index) :
    have hindex : index < pool.waiting.length := h.trans_le (pool.startable_le limit)
    settle limit ask schedule step pool =
      (ask pool.waiting[index]).attempt >>= fun answer =>
        settle limit ask schedule (step + 1) (pool.start index pool.waiting[index] answer) := by
  subst hchoice
  have hmoves : pool.startable limit + pool.underWay.length ≠ 0 := by omega
  rw [settle]
  simp only [hmoves, dif_neg, not_false_eq_true, h, dif_pos]

lemma settle_of_merge {found : List β} (h : index < pool.underWay.length)
    (hchoice : schedule step % (pool.startable limit + pool.underWay.length) =
      pool.startable limit + index)
    (hfound : pool.underWay[index].2 = .ok found) :
    settle limit ask schedule step pool =
      settle limit ask schedule (step + 1) (pool.finish index found) := by
  have hmoves : pool.startable limit + pool.underWay.length ≠ 0 := by omega
  rw [settle]
  simp only [hmoves, dif_neg, not_false_eq_true, hchoice, Nat.not_lt.mpr (Nat.le_add_right _ _),
    Nat.add_sub_cancel_left, hfound]

lemma settle_of_stop {failure : Failure} (h : index < pool.underWay.length)
    (hchoice : schedule step % (pool.startable limit + pool.underWay.length) =
      pool.startable limit + index)
    (hfailure : pool.underWay[index].2 = .error failure) :
    settle limit ask schedule step pool = Run.fail failure := by
  have hmoves : pool.startable limit + pool.underWay.length ≠ 0 := by omega
  rw [settle]
  simp only [hmoves, dif_neg, not_false_eq_true, hchoice, Nat.not_lt.mpr (Nat.le_add_right _ _),
    Nat.add_sub_cancel_left, hfailure]

end Choices

/-! ### The end of a pool -/

variable {observer : Observer σ ρ} {ask : α → Run σ (List β)} {key : ρ → κ} {name : α → κ}
  {answer : ρ → Except Failure (List β)}

/-- What a pool leaves behind for an observer who writes down one entry for each question:
the entries belong to different waiting items, to all of them if the pool succeeds, and the
end follows from their answers and those under way. -/
theorem shows_settle
    (hask : ∀ item, observer.Shows (ask item) fun record result =>
      ∃ entry, record = [entry] ∧ key entry = name item ∧ result = answer entry)
    (limit : Nat) (schedule : Schedule) (step : Nat) (pool : Pool α β) :
    observer.Shows (settle limit ask schedule step pool) fun record result =>
      (record.map key).Subperm (pool.waiting.map name) ∧
        (∀ set, result = .ok set → (record.map key).Perm (pool.waiting.map name)) ∧
        Settled pool.merged (pool.answers ++ record.map answer) result := by
  fun_induction settle limit ask schedule step pool with
  | case1 step pool starts moves hMoves =>
      obtain ⟨hWaiting, hUnder⟩ := eq_nil_of_no_moves hMoves
      refine (shows_pure pool.merged).mono ?_
      rintro record result ⟨rfl, rfl⟩
      refine ⟨by simp, by simp [hWaiting], ?_, by simp⟩
      rintro set ⟨⟩
      simp [answers, hUnder, NoneFails, Yields]
  | case2 step pool starts moves hMoves choice hStart hIndex item ih =>
      refine ((hask item).attempt.bind ih).mono ?_
      rintro record result (⟨failure, ⟨inner, -, hinner⟩, -⟩ |
        ⟨given, first, rest, rfl, ⟨inner, ⟨entry, rfl, hkey, rfl⟩, hgiven⟩, hsub, hperm, hsettled⟩)
      · cases hinner
      cases hgiven
      have hWaiting := (pool.cons_waiting_start_perm hIndex (answer entry)).map name
      rw [List.map_cons] at hWaiting
      simp only [List.singleton_append, List.map_cons, hkey]
      refine ⟨?_, fun set hset => ?_, ?_⟩
      · exact ((List.subperm_cons _).mpr hsub).trans hWaiting.subperm
      · exact ((hperm set hset).cons _).trans hWaiting
      · simpa using hsettled
  | case3 step pool starts moves hMoves choice hStart hIndex failure hFailure =>
      refine (shows_fail failure).mono ?_
      rintro record result ⟨rfl, rfl⟩
      refine ⟨by simp, by simp, by simp, ?_⟩
      rintro _ ⟨⟩
      have hmem := (pool.cons_answers_finish_perm hIndex []).mem_iff.mp (List.mem_cons_self)
      simpa [hFailure] using hmem
  | case4 step pool starts moves hMoves choice hStart hIndex found hFound ih =>
      refine ih.mono ?_
      rintro record result ⟨hsub, hperm, hsettled⟩
      refine ⟨hsub, hperm, ?_⟩
      have hAnswers := pool.cons_answers_finish_perm hIndex found
      rw [hFound] at hAnswers
      exact Settled.of_insertAll hsettled |>.perm (hAnswers.append_right _)

/-- What a pool leaves behind if nothing has been started: no item is asked about twice, all
are asked about if the pool succeeds, and the end follows from their answers alone. -/
theorem shows_gather
    (hask : ∀ item, observer.Shows (ask item) fun record result =>
      ∃ entry, record = [entry] ∧ key entry = name item ∧ result = answer entry)
    (limit : Nat) (schedule : Schedule) (items : List α) :
    observer.Shows (gather limit schedule ask items) fun record result =>
      (record.map key).Subperm (items.map name) ∧
        (∀ set, result = .ok set → (record.map key).Perm (items.map name)) ∧
        Settled .empty (record.map answer) result :=
  shows_settle hask limit schedule 0 (ofItems items)

end Pool

end ImageRetention
