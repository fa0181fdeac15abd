import Mathlib.Tactic
import ImageRetention.Proofs.LiveSet.Meaning
import ImageRetention.Proofs.LiveSet.Moves
import ImageRetention.Proofs.LiveSet.Traced

/-!
The order in which answers arrive does not matter.

* `Pool.shows_moves`: every schedule makes moves that are possible, and asks about an item just
  when it is started;
* `Moves.exists_schedule`: all moves that are possible are made by some schedule;
* `Pool.OrderFree`: what asking about the items of a set side by side comes to, whatever the
  limit and the order;
* `stages_order_free`: this holds of looking for revisions and of reading them, for every history
  whose answers depend on nothing but the question.
-/

namespace ImageRetention

variable {σ ρ κ α β : Type} [Labelled β]

/-- A choice, and then those of a schedule. -/
def Schedule.after (choice : Nat) (rest : Schedule) : Schedule
  | 0 => choice
  | step + 1 => rest step

lemma Schedule.of_after {schedule rest : Schedule} {step choice : Nat}
    (h : ∀ n, schedule (step + n) = rest.after choice n) :
    schedule step = choice ∧ ∀ n, schedule (step + 1 + n) = rest n := by
  refine ⟨h 0, fun n => ?_⟩
  rw [Nat.add_right_comm]
  exact h (n + 1)

namespace Pool

variable {limit : Nat} {answer : α → Except Failure (List β)} {ask : α → Run σ (List β)}
  {pool : Pool α β} {index : Nat}

/-! ### Schedules and moves -/

lemma startable_of_room (h : pool.underWay.length < max 1 limit) :
    pool.startable limit = pool.waiting.length := if_pos h

lemma room_of_startable (h : index < pool.startable limit) :
    pool.underWay.length < max 1 limit := by
  by_contra hfull
  rw [startable, if_neg hfull] at h
  exact Nat.not_lt_zero _ h

/-- A schedule makes moves that are possible.  An observer who writes down one entry for each
question writes them down in the order in which the items are started. -/
theorem shows_moves {observer : Observer σ ρ} {key : ρ → κ} {name : α → κ}
    (hask : ∀ item, observer.Shows (ask item) fun record result =>
      (∃ entry, record = [entry] ∧ key entry = name item) ∧ result = answer item)
    (limit : Nat) (schedule : Schedule) (step : Nat) (pool : Pool α β) :
    observer.Shows (settle limit ask schedule step pool) fun record result =>
      ∃ trace, Moves limit answer (.working pool) trace (.returned result) ∧
        record.map key = (started trace).map name := by
  fun_induction settle limit ask schedule step pool with
  | case1 step pool starts moves hMoves =>
      obtain ⟨hWaiting, hUnder⟩ := eq_nil_of_no_moves hMoves
      refine (Observer.shows_pure pool.merged).mono ?_
      rintro record result ⟨rfl, rfl⟩
      exact ⟨[.conclude], .next (.conclude hWaiting hUnder) .none, rfl⟩
  | case2 step pool starts moves hMoves choice hStart hIndex item ih =>
      refine ((hask item).attempt.bind ih).mono ?_
      rintro record result (⟨failure, ⟨inner, -, hinner⟩, -⟩ |
        ⟨given, first, rest, rfl, ⟨inner, ⟨⟨entry, rfl, hkey⟩, rfl⟩, hgiven⟩, trace, hmoves, hrest⟩)
      · cases hinner
      cases hgiven
      refine ⟨.start item :: trace, .next (.start (room_of_startable hStart) hIndex) hmoves, ?_⟩
      simpa [started, Move.started?, hkey] using hrest
  | case3 step pool starts moves hMoves choice hStart hIndex failure hFailure =>
      refine (Observer.shows_fail failure).mono ?_
      rintro record result ⟨rfl, rfl⟩
      exact ⟨[.finish _], .next (.stop hIndex hFailure) .none, rfl⟩
  | case4 step pool starts moves hMoves choice hStart hIndex found hFound ih =>
      refine ih.mono ?_
      rintro record result ⟨trace, hmoves, hrecord⟩
      exact ⟨.finish _ :: trace, .next (.merge hIndex hFound) hmoves, hrecord⟩

/-- The same from the beginning. -/
theorem shows_runs {observer : Observer σ ρ} {key : ρ → κ} {name : α → κ}
    (hask : ∀ item, observer.Shows (ask item) fun record result =>
      (∃ entry, record = [entry] ∧ key entry = name item) ∧ result = answer item)
    (limit : Nat) (schedule : Schedule) (items : List α) :
    observer.Shows (gather limit schedule ask items) fun record result =>
      ∃ trace, Runs limit answer items trace (.returned result) ∧
        record.map key = (started trace).map name :=
  shows_moves hask limit schedule 0 (ofItems items)

omit [Labelled β] in
/-- The result after a run whose failures are values depends on that run through its result
alone. -/
lemma result_attempt_bind {run : Run σ α} {next : Except Failure α → Run σ β}
    {result : Except Failure β} {state : σ}
    (h : ∀ after, (next (run state).result after).result = result) :
    ((run.attempt >>= next) state).result = result := by
  have hattempt : run.attempt state = ⟨(run state).state, (run state).events,
    .ok (run state).result⟩ := rfl
  rw [Run.bind_ok hattempt]
  exact h _

/-- All moves that are possible are made by some schedule. -/
theorem Moves.exists_schedule {first last : Stand α β} {trace : List (Move α)}
    (hask : ∀ item state, (ask item state).result = answer item)
    (h : Moves limit answer first trace last) :
    ∀ pool result, first = .working pool → last = .returned result →
      ∃ choices : Schedule, ∀ (schedule : Schedule) (step : Nat),
        (∀ n, schedule (step + n) = choices n) →
        ∀ state, (settle limit ask schedule step pool state).result = result := by
  induction h with
  | none =>
      rintro pool result rfl ⟨⟩
  | next hstep hrest ih =>
      rintro pool result rfl hlast
      cases hstep with
      | @start _ index hroom hindex =>
          obtain ⟨choices, hchoices⟩ := ih _ result rfl hlast
          -- a choice below the number of startable items starts one, any other finishes one
          refine ⟨choices.after index, fun schedule step hagree state => ?_⟩
          obtain ⟨hchoice, hagree⟩ := Schedule.of_after hagree
          have hstartable : index < pool.startable limit := by rwa [startable_of_room hroom]
          have hmod : schedule step % (pool.startable limit + pool.underWay.length) = index := by
            rw [hchoice, Nat.mod_eq_of_lt (by omega)]
          rw [settle_of_start hstartable hmod]
          refine result_attempt_bind fun after => ?_
          rw [hask]
          exact hchoices schedule (step + 1) hagree after
      | @merge _ index found hindex hfound =>
          obtain ⟨choices, hchoices⟩ := ih _ result rfl hlast
          refine ⟨choices.after (pool.startable limit + index),
            fun schedule step hagree state => ?_⟩
          obtain ⟨hchoice, hagree⟩ := Schedule.of_after hagree
          rw [settle_of_merge hindex (by rw [hchoice, Nat.mod_eq_of_lt (by omega)]) hfound]
          exact hchoices schedule (step + 1) hagree state
      | @stop _ index failure hindex hfailure =>
          refine ⟨Schedule.inOrder.after (pool.startable limit + index),
            fun schedule step hagree state => ?_⟩
          obtain ⟨hchoice, -⟩ := Schedule.of_after hagree
          rw [settle_of_stop hindex (by rw [hchoice, Nat.mod_eq_of_lt (by omega)]) hfailure]
          exact Stand.returned.inj (hrest.eq_of_returned.symm.trans hlast)
      | conclude hwaiting hunder =>
          refine ⟨.inOrder, fun schedule step _ state => ?_⟩
          have hnone : pool.startable limit + pool.underWay.length = 0 := by
            rw [startable]
            split <;> simp [hwaiting, hunder]
          rw [settle_of_no_moves hnone]
          exact Stand.returned.inj (hrest.eq_of_returned.symm.trans hlast)

/-! ### What does not depend on the order -/

/-- What asking about some items side by side comes to, where `asked` are the questions and
`result` is the result, for a limit and a schedule. -/
structure OrderFree (answer : α → Except Failure (List β)) (items : List α) (question : α → Query)
    (asked : Nat → Schedule → List Query)
    (result : Nat → Schedule → Except Failure (SortedSet β)) : Prop where
  /-- A schedule makes moves up to an end, and asks about an item just when it starts it. -/
  moves : ∀ limit schedule, ∃ trace,
    Runs limit answer items trace (.returned (result limit schedule)) ∧
      asked limit schedule = (started trace).map question
  /-- All moves up to an end are made by some schedule. -/
  schedules : ∀ limit trace outcome, Runs limit answer items trace (.returned outcome) →
    ∃ schedule, result limit schedule = outcome
  /-- No item is started twice, and nothing else is started. -/
  once : ∀ limit trace stand, Runs limit answer items trace stand →
    (started trace).Nodup ∧ started trace ⊆ items
  /-- At all times the union of what was found for the finished items has been merged. -/
  merged : ∀ limit trace pool, Runs limit answer items trace (.working pool) →
    ∀ b, b ∈ pool.merged ↔ Yields ((finished trace).map answer) b
  /-- Where no move is possible the result has been returned. -/
  ended : ∀ limit trace stand, Runs limit answer items trace stand →
    (∀ move next, ¬Step limit answer stand move next) → ∃ outcome, stand = .returned outcome
  /-- Moves come to an end, whatever the limit. -/
  ending : ∀ limit trace stand, Runs limit answer items trace stand →
    trace.length ≤ 2 * items.length + 1 ∧
      ∃ more outcome, Runs limit answer items (trace ++ more) (.returned outcome)
  /-- There is a result just if no item fails. -/
  ok_iff : ∀ limit trace outcome, Runs limit answer items trace (.returned outcome) →
    ((∃ set, outcome = .ok set) ↔ NoneFails (items.map answer))
  /-- The result is the union of what is found for all items. -/
  union : ∀ limit trace set, Runs limit answer items trace (.returned (.ok set)) →
    ∀ b, b ∈ set ↔ Yields (items.map answer) b
  /-- A failure is that of an item. -/
  fault : ∀ limit trace failure, Runs limit answer items trace (.returned (.error failure)) →
    ∃ item ∈ items, answer item = .error failure
  /-- If there is a result for some limit and schedule, then it is the result for all. -/
  agree : ∀ limit limit' schedule schedule' set, result limit schedule = .ok set →
    result limit' schedule' = .ok set

variable {items : List α} {trace : List (Move α)}

lemma Moves.ok_iff {outcome : Except Failure (SortedSet β)}
    (h : Runs limit answer items trace (.returned outcome)) :
    (∃ set, outcome = .ok set) ↔ NoneFails (items.map answer) := by
  constructor
  · rintro ⟨set, rfl⟩
    exact h.standing.of_ok.1
  · intro hnone
    cases outcome with
    | ok set => exact ⟨set, rfl⟩
    | error failure =>
        obtain ⟨item, hitem, hfails⟩ := h.standing.of_error
        obtain ⟨found, hfound⟩ := hnone _ (List.mem_map_of_mem hitem)
        rw [hfails] at hfound
        cases hfound

/-- Runs with any limits have the same result. -/
lemma Moves.agree {limit' : Nat} {trace' : List (Move α)} {set : SortedSet β}
    {outcome : Except Failure (SortedSet β)}
    (h : Runs limit answer items trace (.returned (.ok set)))
    (h' : Runs limit' answer items trace' (.returned outcome)) : outcome = .ok set := by
  obtain ⟨hnone, hmem⟩ := h.standing.of_ok
  obtain ⟨other, rfl⟩ := h'.ok_iff.mpr hnone
  have hsame : other = set :=
    SortedSet.ext fun b => (h'.standing.of_ok.2 b).trans (hmem b).symm
  rw [hsame]

/-- What follows from the moves alone. -/
lemma OrderFree.of_moves {question : α → Query} {asked : Nat → Schedule → List Query}
    {result : Nat → Schedule → Except Failure (SortedSet β)} (hitems : items.Nodup)
    (hmoves : ∀ limit schedule, ∃ trace,
      Runs limit answer items trace (.returned (result limit schedule)) ∧
        asked limit schedule = (started trace).map question)
    (hschedules : ∀ limit trace outcome, Runs limit answer items trace (.returned outcome) →
      ∃ schedule, result limit schedule = outcome) :
    OrderFree answer items question asked result where
  moves := hmoves
  schedules := hschedules
  once := by
    intro limit trace stand h
    obtain ⟨others, hperm, hsublist⟩ := h.standing.started_subperm
    exact ⟨(hitems.sublist hsublist).perm hperm,
      fun item hitem => hsublist.subset (hperm.mem_iff.mpr hitem)⟩
  merged := fun limit trace pool h => h.standing.merged
  ended := fun limit trace stand _ => eq_returned_of_no_step
  ending := by
    intro limit trace stand h
    obtain ⟨more, outcome, hmore⟩ := Moves.exists_returned limit answer stand
    have hlength := h.length_le
    simp only [Stand.rank, remaining, ofItems, List.length_nil] at hlength
    exact ⟨by omega, more, outcome, h.append hmore⟩
  ok_iff := fun limit trace outcome h => h.ok_iff
  union := fun limit trace set h => h.standing.of_ok.2
  fault := fun limit trace failure h => h.standing.of_error
  agree := by
    intro limit limit' schedule schedule' set hset
    obtain ⟨trace, h, -⟩ := hmoves limit schedule
    obtain ⟨trace', h', -⟩ := hmoves limit' schedule'
    rw [hset] at h
    exact h.agree h'

end Pool

omit [Labelled β] in
/-- A log entry after a run leaves its result as it is. -/
lemma result_then_log (run : Run σ α) (level : Log.Level) (source : Log.Source)
    (message : α → String) (state : σ) :
    ((run >>= fun value => Run.log level source (message value) >>= fun _ =>
      pure value) state).result = (run state).result := by
  rcases hrun : run state with ⟨after, events, failure | value⟩
  · rw [Run.bind_error hrun]
  · rw [Run.bind_ok hrun]
    rfl

namespace LiveSet

open Pool (OrderFree)

variable {answer : α → Except Failure (List β)} {question : α → Query} {items : List α}

/-- Questions to a history side by side, with a log entry after them. -/
lemma orderFree_gather {ask : α → Run σ (List β)} {traced : α → Run (σ × List Asking) (List β)}
    (hextends : ∀ item, Run.Extends (traced item) (ask item))
    (hanswer : ∀ item state, (ask item state).result = answer item)
    (hasked : ∀ item, (Observer.kept σ Asking).Shows (traced item) fun record _ =>
      ∃ asking, record = [asking] ∧ asking.query = question item)
    (hitems : items.Nodup) (level : Log.Level) (source : Log.Source)
    (message : SortedSet β → String) (state : σ) :
    OrderFree answer items question
      (fun limit schedule => ((Pool.gather limit schedule traced items >>= fun set =>
        Run.log level source (message set) >>= fun _ =>
          pure set) (state, [])).state.2.map Asking.query)
      (fun limit schedule => ((Pool.gather limit schedule ask items >>= fun set =>
        Run.log level source (message set) >>= fun _ => pure set) state).result) := by
  refine OrderFree.of_moves hitems ?_ ?_
  · intro limit schedule
    have hresult (item : α) (after : σ × List Asking) :
        (traced item after).result = answer item :=
      (hextends item after.1 after.2).2.2.trans (hanswer item after.1)
    have hextended := Pool.extends_gather hextends limit schedule items state []
    have hshows := (Pool.shows_runs (fun item => (hasked item).and_result (hresult item))
      limit schedule items).then_log level source message
    obtain ⟨record, hfits, trace, hmoves, hrecord⟩ := hshows (state, [])
    obtain rfl : _ = record := hfits
    refine ⟨trace, ?_, hrecord⟩
    rw [result_then_log, hextended.2.2] at hmoves
    rwa [result_then_log]
  · intro limit trace outcome h
    obtain ⟨choices, hchoices⟩ := h.exists_schedule hanswer _ _ rfl rfl
    refine ⟨choices, ?_⟩
    rw [result_then_log]
    exact hchoices choices 0 (fun n => by rw [Nat.zero_add]) state

section Answers

variable {history : History σ} {answers : History.Answers}

lemma result_locateAt (h : history.Gives answers) (path : String) (commit : CommitId)
    (state : σ) :
    (locateAt history path commit state).result =
      (answers.reply (.tree commit path)).located := by
  obtain ⟨record, hback, asking, rfl, hquery, hresult⟩ := shows_locateAt h.hears path commit state
  have hasking := hback asking (List.mem_singleton_self _)
  rw [hresult, ← hquery, ← hasking]

lemma result_extractFrom (h : history.Gives answers) (object : ObjectId) (state : σ) :
    (extractFrom history object state).result = (answers.reply (.content object)).found := by
  obtain ⟨record, hback, asking, rfl, hquery, hresult⟩ := shows_extractFrom h.hears object state
  have hasking := hback asking (List.mem_singleton_self _)
  rw [hresult, ← hquery, ← hasking]

lemma orderFree_locate (h : history.Gives answers) (path : String)
    (commits : SortedSet CommitId) (state : σ) :
    OrderFree (fun commit => (answers.reply (.tree commit path)).located) commits.toList
      (.tree · path)
      (fun limit schedule => (history.askings
        (locate · schedule limit path commits) state).map Asking.query)
      (fun limit schedule => (locate history schedule limit path commits state).result) := by
  refine orderFree_gather (extends_locateAt history path) (result_locateAt h path)
    (fun commit => ?_) (nodup_toList commits) _ _ _ state
  refine (shows_locateAt history.traced_hears path commit).mono ?_
  rintro record result ⟨asking, hrecord, hquery, -⟩
  exact ⟨asking, hrecord, hquery⟩

lemma orderFree_extract (h : history.Gives answers) (objects : SortedSet ObjectId) (state : σ) :
    OrderFree (fun object => (answers.reply (.content object)).found) objects.toList .content
      (fun limit schedule => (history.askings
        (extract · schedule limit objects.toList) state).map Asking.query)
      (fun limit schedule => (extract history schedule limit objects.toList state).result) := by
  refine orderFree_gather (extends_extractFrom history) (result_extractFrom h)
    (fun object => ?_) (nodup_toList objects) _ _ _ state
  refine (shows_extractFrom history.traced_hears object).mono ?_
  rintro record result ⟨asking, hrecord, hquery, -⟩
  exact ⟨asking, hrecord, hquery⟩

end Answers

end LiveSet

open LiveSet (locate extract)

/-- The order in which answers arrive, and how many questions may be open at a time, do not
matter for looking for revisions in commits and for reading revisions, if the answers of the
history depend on nothing but the question. -/
theorem stages_order_free {history : History σ} {answers : History.Answers}
    (h : history.Gives answers) (state : σ) :
    (∀ (path : String) (commits : SortedSet CommitId),
      Pool.OrderFree (fun commit => (answers.reply (.tree commit path)).located)
        commits.toList (.tree · path)
        (fun limit schedule => (history.askings
          (locate · schedule limit path commits) state).map Asking.query)
        (fun limit schedule => (locate history schedule limit path commits state).result)) ∧
    (∀ (path : String) (commit : CommitId),
      (∃ found, (answers.reply (.tree commit path)).located = .ok found) ↔
        ∃ listing found, answers.tree commit path = .ok listing ∧
          TreeListing.objects listing = .ok found) ∧
    ∀ objects : SortedSet ObjectId,
      Pool.OrderFree (fun object => (answers.reply (.content object)).found)
        objects.toList .content
        (fun limit schedule => (history.askings
          (extract · schedule limit objects.toList) state).map Asking.query)
        (fun limit schedule => (extract history schedule limit objects.toList state).result) := by
  refine ⟨fun path commits => LiveSet.orderFree_locate h path commits state,
    fun path commit => ?_, fun objects => LiveSet.orderFree_extract h objects state⟩
  simp only [LiveSet.located_reply_eq_ok]
  exact exists_comm

/-- The revisions in two commits are found for every limit, no question at a time included, and
for every order in which the answers arrive. -/
theorem stages_order_free_memory :
    let memory := (({} : History.Memory).withBlob "c1" "b1" "x").withBlob "c2" "b2" "y"
    let history : History Unit := memory.answers.history
    let commits : SortedSet CommitId := .ofList [⟨"c1"⟩, ⟨"c2"⟩]
    history.Gives memory.answers ∧ ∀ limit schedule,
      (locate history schedule limit ":/.travis.yml" commits ()).result.map SortedSet.toList =
        .ok [⟨"b1"⟩, ⟨"b2"⟩] := by
  intro memory history commits
  have hgives : history.Gives memory.answers := memory.answers.gives
  obtain ⟨hlocate, -⟩ := stages_order_free hgives ()
  have hfree := hlocate ":/.travis.yml" commits
  refine ⟨hgives, fun limit schedule => ?_⟩
  have hfound : ((locate history .inOrder 0 ":/.travis.yml" commits ()).result.map
      SortedSet.toList).toOption = some [⟨"b1"⟩, ⟨"b2"⟩] := by
    decide +kernel
  cases hresult : (locate history .inOrder 0 ":/.travis.yml" commits ()).result with
  | error failure => simp [hresult, Except.map, Except.toOption] at hfound
  | ok objects =>
      rw [hfree.agree 0 limit .inOrder schedule objects hresult]
      simpa [hresult, Except.map, Except.toOption] using hfound

end ImageRetention
