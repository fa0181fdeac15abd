import Mathlib.Tactic
import ImageRetention.Proofs.LiveSet.Pool

/-!
Questions asked side by side, as a relation between what is and what can come next.

* `Pool.Stand`, `Pool.Move`, `Pool.Step`: a pool at work or ended, what can happen to it, and
  what that leads to;
* `Pool.Moves`, `Pool.Runs`: any number of moves, in order, and such moves from the beginning;
* `Pool.Accounts`: what has been started, what is under way and what has been merged, after
  some moves;
* `Standing.step`, `Standing.moves`: one move keeps the accounts, and so do any number;
* `Standing.of_ok`, `Standing.of_error`: how a pool ends;
* `eq_returned_of_no_step`, `Moves.length_le`, `Moves.exists_returned`: a pool that can do
  nothing has ended, none goes on forever, and each can be brought to its end.

Any waiting item may be started while fewer than the allowed number are under way, and any
answer under way may arrive.  The answers depend on nothing but the item.
-/

namespace ImageRetention.Pool

variable {α β : Type} [Labelled β]

/-! ### Moves -/

/-- Where questions asked side by side stand. -/
inductive Stand (α β : Type) [Labelled β]
  /-- Items may be waiting or under way. -/
  | working (pool : Pool α β)
  /-- The result is known. -/
  | returned (result : Except Failure (SortedSet β))

/-- What can happen to a pool. -/
inductive Move (α : Type)
  /-- An item is started. -/
  | start (item : α)
  /-- The answer for an item arrives. -/
  | finish (item : α)
  /-- The result is returned, since nothing is left to do. -/
  | conclude

/-- What a move leads to. -/
inductive Step (limit : Nat) (answer : α → Except Failure (List β)) :
    Stand α β → Move α → Stand α β → Prop
  /-- A waiting item is started if fewer than the allowed number are under way, and one is
  always allowed. -/
  | start {pool : Pool α β} {index : Nat} (hroom : pool.underWay.length < max 1 limit)
      (h : index < pool.waiting.length) :
      Step limit answer (.working pool) (.start pool.waiting[index])
        (.working (pool.start index pool.waiting[index] (answer pool.waiting[index])))
  /-- What is found for an item under way is merged. -/
  | merge {pool : Pool α β} {index : Nat} {found : List β} (h : index < pool.underWay.length)
      (hfound : pool.underWay[index].2 = .ok found) :
      Step limit answer (.working pool) (.finish pool.underWay[index].1)
        (.working (pool.finish index found))
  /-- The first failure to arrive ends all. -/
  | stop {pool : Pool α β} {index : Nat} {failure : Failure} (h : index < pool.underWay.length)
      (hfailure : pool.underWay[index].2 = .error failure) :
      Step limit answer (.working pool) (.finish pool.underWay[index].1)
        (.returned (.error failure))
  /-- If nothing waits and nothing is under way then all has been merged. -/
  | conclude {pool : Pool α β} (hwaiting : pool.waiting = []) (hunder : pool.underWay = []) :
      Step limit answer (.working pool) .conclude (.returned (.ok pool.merged))

/-- Any number of moves, one after the other. -/
inductive Moves (limit : Nat) (answer : α → Except Failure (List β)) :
    Stand α β → List (Move α) → Stand α β → Prop
  | none {stand : Stand α β} : Moves limit answer stand [] stand
  | next {first middle last : Stand α β} {move : Move α} {trace : List (Move α)}
      (hstep : Step limit answer first move middle) (hrest : Moves limit answer middle trace last) :
      Moves limit answer first (move :: trace) last

/-- Moves about some items, from the beginning. -/
abbrev Runs (limit : Nat) (answer : α → Except Failure (List β)) (items : List α) :
    List (Move α) → Stand α β → Prop :=
  Moves limit answer (.working (ofItems items))

/-- The item that a move starts. -/
def Move.started? : Move α → Option α
  | start item => some item
  | _ => none

/-- The item whose answer arrives with a move. -/
def Move.finished? : Move α → Option α
  | finish item => some item
  | _ => none

/-- The items that some moves start, in order. -/
def started (trace : List (Move α)) : List α := trace.filterMap Move.started?

/-- The items whose answers arrive with some moves, in order. -/
def finished (trace : List (Move α)) : List α := trace.filterMap Move.finished?

variable {limit : Nat} {answer : α → Except Failure (List β)} {items : List α}
  {pool : Pool α β} {first last : Stand α β} {move : Move α} {trace more : List (Move α)}

/-! ### Accounts -/

/-- What some moves have made of some items: each is waiting, under way or finished, the
answers under way are those of their items, and what was found for the finished ones is
merged. -/
structure Accounts (limit : Nat) (answer : α → Except Failure (List β)) (items : List α)
    (trace : List (Move α)) (pool : Pool α β) : Prop where
  started : (started trace ++ pool.waiting).Perm items
  underWay : (finished trace ++ pool.underWay.map Prod.fst).Perm (Pool.started trace)
  room : pool.underWay.length ≤ max 1 limit
  answers : ∀ entry ∈ pool.underWay, entry.2 = answer entry.1
  succeeded : NoneFails ((finished trace).map answer)
  merged : ∀ b, b ∈ pool.merged ↔ Yields ((finished trace).map answer) b

/-- In a pool in which nothing has been started, nothing has been done. -/
lemma Accounts.ofItems (limit : Nat) (answer : α → Except Failure (List β)) (items : List α) :
    Accounts limit answer items [] (ofItems items : Pool α β) := by
  constructor <;> simp [Pool.ofItems, Pool.started, finished, NoneFails, Yields]

lemma Accounts.start {index : Nat} (h : Accounts limit answer items trace pool)
    (hroom : pool.underWay.length < max 1 limit) (hindex : index < pool.waiting.length) :
    Accounts limit answer items (trace ++ [.start pool.waiting[index]])
      (pool.start index pool.waiting[index] (answer pool.waiting[index])) := by
  have hstarted : Pool.started (trace ++ [.start pool.waiting[index]]) =
      Pool.started trace ++ [pool.waiting[index]] := by
    simp [Pool.started, Move.started?]
  have hfinished : finished (trace ++ [.start pool.waiting[index]]) = finished trace := by
    simp [finished, Move.finished?]
  have hwaiting : (pool.waiting[index] :: pool.waiting.eraseIdx index).Perm pool.waiting :=
    List.getElem_cons_eraseIdx_perm hindex
  refine ⟨?_, ?_, ?_, ?_, ?_, ?_⟩
  · rw [hstarted, List.append_assoc]
    exact (hwaiting.append_left _).trans h.started
  · rw [hstarted, hfinished, Pool.start, List.map_append, ← List.append_assoc]
    exact h.underWay.append_right _
  · simp only [Pool.start, List.length_append, List.length_singleton]
    omega
  · intro entry hentry
    rcases List.mem_append.mp hentry with hentry | hentry
    · exact h.answers entry hentry
    · rw [List.mem_singleton.mp hentry]
  · rw [hfinished]
    exact h.succeeded
  · rw [hfinished]
    exact h.merged

lemma Accounts.finish {index : Nat} {found : List β}
    (h : Accounts limit answer items trace pool) (hindex : index < pool.underWay.length)
    (hfound : pool.underWay[index].2 = .ok found) :
    Accounts limit answer items (trace ++ [.finish pool.underWay[index].1])
      (pool.finish index found) := by
  have hstarted : Pool.started (trace ++ [.finish pool.underWay[index].1]) =
      Pool.started trace := by
    simp [Pool.started, Move.started?]
  have hfinished : finished (trace ++ [.finish pool.underWay[index].1]) =
      finished trace ++ [pool.underWay[index].1] := by
    simp [finished, Move.finished?]
  have hunder : (pool.underWay[index] :: pool.underWay.eraseIdx index).Perm pool.underWay :=
    List.getElem_cons_eraseIdx_perm hindex
  have hanswer : answer pool.underWay[index].1 = .ok found := by
    rw [← h.answers _ (List.getElem_mem hindex), hfound]
  refine ⟨?_, ?_, ?_, ?_, ?_, ?_⟩
  · rw [hstarted]
    exact h.started
  · rw [hstarted, hfinished, List.append_assoc]
    exact ((hunder.map Prod.fst).append_left _).trans h.underWay
  · have hlength := List.length_eraseIdx_le pool.underWay index
    exact hlength.trans h.room
  · intro entry hentry
    exact h.answers entry (List.mem_of_mem_eraseIdx hentry)
  · rw [hfinished, List.map_append]
    exact List.forall_mem_append.mpr ⟨h.succeeded, by simp [hanswer]⟩
  · intro b
    rw [hfinished, Pool.finish, SortedSet.mem_insertAll, h.merged]
    simp [Yields, or_and_right, exists_or, hanswer]

/-- How questions about some items stand after some moves: the accounts are kept, and if the
last of the moves returned a result then it could. -/
inductive Standing (limit : Nat) (answer : α → Except Failure (List β)) (items : List α) :
    List (Move α) → Stand α β → Prop
  | working {pool : Pool α β} {trace : List (Move α)}
      (h : Accounts limit answer items trace pool) :
      Standing limit answer items trace (.working pool)
  | returned {pool : Pool α β} {trace : List (Move α)} {move : Move α}
      {result : Except Failure (SortedSet β)} (h : Accounts limit answer items trace pool)
      (hstep : Step limit answer (.working pool) move (.returned result)) :
      Standing limit answer items (trace ++ [move]) (.returned result)

/-- One move keeps the accounts. -/
theorem Standing.step (h : Standing limit answer items trace first)
    (hstep : Step limit answer first move last) :
    Standing limit answer items (trace ++ [move]) last := by
  cases h with
  | returned _ _ => cases hstep
  | working h =>
      cases hstep with
      | start hroom hindex => exact .working (h.start hroom hindex)
      | merge hindex hfound => exact .working (h.finish hindex hfound)
      | stop hindex hfailure => exact .returned h (.stop hindex hfailure)
      | conclude hwaiting hunder => exact .returned h (.conclude hwaiting hunder)

/-- Any number of moves keep the accounts. -/
theorem Standing.moves (h : Standing limit answer items trace first)
    (hmoves : Moves limit answer first more last) :
    Standing limit answer items (trace ++ more) last := by
  induction hmoves generalizing trace with
  | none => simpa using h
  | next hstep _ ih => simpa using ih (h.step hstep)

/-- Nothing happens after the result has been returned. -/
lemma Moves.eq_of_returned {result : Except Failure (SortedSet β)}
    (h : Moves limit answer (.returned result) trace last) : last = .returned result := by
  cases h with
  | none => rfl
  | next hstep _ => cases hstep

/-- The accounts are kept from the beginning. -/
theorem Moves.standing (h : Moves limit answer (.working (ofItems items)) trace last) :
    Standing limit answer items trace last :=
  (Standing.working (Accounts.ofItems limit answer items)).moves h

/-! ### What the accounts say -/

/-- No item is started more often than it occurs. -/
lemma Standing.started_subperm (h : Standing limit answer items trace last) :
    (started trace).Subperm items := by
  have hworking {pool : Pool α β} {before : List (Move α)}
      (h : Accounts limit answer items before pool) : (started before).Subperm items :=
    (List.sublist_append_left _ _).subperm.trans h.started.subperm
  cases h with
  | working h => exact hworking h
  | @returned _ before move _ h hstep =>
      have hsame : started (before ++ [move]) = started before := by
        cases hstep <;> simp [started, Move.started?]
      rw [hsame]
      exact hworking h

/-- Everything that has been merged was found for an item whose answer has arrived, and
everything that was found for such an item has been merged. -/
lemma Standing.merged (h : Standing limit answer items trace (.working pool)) (b : β) :
    b ∈ pool.merged ↔ Yields ((finished trace).map answer) b := by
  cases h with
  | working h => exact h.merged b

/-- If there is a result then no item fails, and it is the union of what is found for all. -/
lemma Standing.of_ok {set : SortedSet β}
    (h : Standing limit answer items trace (.returned (.ok set))) :
    NoneFails (items.map answer) ∧ ∀ b, b ∈ set ↔ Yields (items.map answer) b := by
  cases h with
  | returned h hstep =>
      cases hstep with
      | conclude hwaiting hunder =>
          have hfinished := h.underWay.trans (by simpa [hwaiting] using h.started)
          rw [hunder, List.map_nil, List.append_nil] at hfinished
          have hanswers := hfinished.map answer
          refine ⟨fun given hgiven => h.succeeded given (hanswers.mem_iff.mpr hgiven), fun b => ?_⟩
          simp only [h.merged, Yields, hanswers.mem_iff]

/-- If there is a failure then it is that of an item. -/
lemma Standing.of_error {failure : Failure}
    (h : Standing limit answer items trace (.returned (.error failure))) :
    ∃ item ∈ items, answer item = .error failure := by
  cases h with
  | @returned pool _ _ _ h hstep =>
      cases hstep with
      | @stop _ index _ hindex hfailure =>
          have hmem := List.getElem_mem hindex
          refine ⟨pool.underWay[index].1, ?_, ?_⟩
          · refine h.started.subset (List.mem_append_left _ (h.underWay.subset ?_))
            exact List.mem_append_right _ (List.mem_map_of_mem hmem)
          · rw [← h.answers _ hmem, hfailure]

/-! ### Coming to an end -/

/-- Where no move is possible the result has been returned: a waiting item could be started, and
an answer under way could arrive. -/
lemma eq_returned_of_no_step (h : ∀ move last, ¬Step limit answer first move last) :
    ∃ result, first = .returned result := by
  cases first with
  | returned result => exact ⟨result, rfl⟩
  | working pool =>
      exfalso
      rcases hunder : pool.underWay with _ | ⟨entry, rest⟩
      · rcases hwaiting : pool.waiting with _ | ⟨item, others⟩
        · exact h _ _ (.conclude hwaiting hunder)
        · have hindex : 0 < pool.waiting.length := by simp [hwaiting]
          exact h _ _ (.start (by simp [hunder]) hindex)
      · have hindex : 0 < pool.underWay.length := by simp [hunder]
        cases hanswer : pool.underWay[0].2 with
        | ok found => exact h _ _ (.merge hindex hanswer)
        | error failure => exact h _ _ (.stop hindex hanswer)

/-- How many moves there are left at most. -/
def Stand.rank : Stand α β → Nat
  | working pool => pool.remaining + 1
  | returned _ => 0

lemma Step.rank_lt (h : Step limit answer first move last) : last.rank < first.rank := by
  cases h with
  | start hroom hindex => exact Nat.succ_lt_succ (remaining_start _ hindex _ _)
  | merge hindex hfound => exact Nat.succ_lt_succ (remaining_finish _ hindex _)
  | stop hindex hfailure => exact Nat.succ_pos _
  | conclude hwaiting hunder => exact Nat.succ_pos _

lemma Moves.append {middle : Stand α β} (h : Moves limit answer first trace middle)
    (hmore : Moves limit answer middle more last) :
    Moves limit answer first (trace ++ more) last := by
  induction h with
  | none => exact hmore
  | next hstep _ ih => exact .next hstep (ih hmore)

/-- No pool goes on forever. -/
lemma Moves.length_le (h : Moves limit answer first trace last) :
    trace.length + last.rank ≤ first.rank := by
  induction h with
  | none => simp
  | next hstep _ ih =>
      have hlt := hstep.rank_lt
      rw [List.length_cons]
      omega

/-- Every pool can be brought to its end, whatever the limit. -/
lemma Moves.exists_returned (limit : Nat) (answer : α → Except Failure (List β))
    (first : Stand α β) : ∃ trace result, Moves limit answer first trace (.returned result) := by
  by_cases hstep : ∃ move last, Step limit answer first move last
  · obtain ⟨move, last, hstep⟩ := hstep
    have := hstep.rank_lt
    obtain ⟨trace, result, hmoves⟩ := exists_returned limit answer last
    exact ⟨move :: trace, result, .next hstep hmoves⟩
  · simp only [not_exists] at hstep
    obtain ⟨result, rfl⟩ := eq_returned_of_no_step hstep
    exact ⟨[], result, .none⟩
termination_by first.rank

end ImageRetention.Pool
