import Mathlib.Tactic
import ImageRetention.Proofs.Collection.Progress
import ImageRetention.Registry.Azure
import ImageRetention.Registry.Memory

/-!
What collections report, and that it goes together with what they delete.

* `Outcome.reports`: the manifests that a run reports;
* `Registry.Reticent`: a registry reports nothing itself; `AzureRegistry.reticent` and
  `Registry.Memory.reticent`;
* `Registry.InStep`: the deletions, the reports and the result of a collection go together, and
  a dry run shows what the same collection would do;
* `Registry.inTurn`: collections one after the other on one registry;
* `Registry.Memory.log_collect`, `Registry.Memory.log_inTurn`: a registry kept in memory has
  deleted what collections reported that were no dry runs, for one and for many of them;
* `collections_in_step`: both for all registries.
-/

namespace ImageRetention

variable {σ α β : Type}

/-- The manifests that a run reports, in order. -/
def Outcome.reports (outcome : Outcome σ α) : List Manifest :=
  outcome.events.filterMap Event.reported?

/-! ### Runs that report nothing -/

namespace Run

/-- A run that reports nothing. -/
def Reticent (run : Run σ α) : Prop := ∀ state, (run state).reports = []

lemma Reticent.reported_eq {run : Run σ α} (h : run.Reticent) {state after : σ}
    {events : List Event} {result : Except Failure α} (hrun : run state = ⟨after, events, result⟩) :
    events.filterMap Event.reported? = [] := by
  have hreports := h state
  rwa [hrun] at hreports

lemma reticent_ofResult (result : Except Failure α) : (Run.ofResult result : Run σ α).Reticent :=
  fun _ => rfl

lemma reticent_pure (value : α) : (pure value : Run σ α).Reticent := fun _ => rfl

lemma reticent_log (level : Log.Level) (source : Log.Source) (message : String) :
    (Run.log level source message : Run σ Unit).Reticent := fun _ => rfl

lemma Reticent.within {run : Run σ α} (h : run.Reticent) (context : String) :
    (run.within context).Reticent := h

lemma Reticent.bind {run : Run σ α} {next : α → Run σ β} (h : run.Reticent)
    (hnext : ∀ value, (next value).Reticent) : (run >>= next).Reticent := by
  intro state
  have hfirst := h state
  rcases hrun : run state with ⟨middle, events, result⟩
  rw [hrun] at hfirst
  cases result with
  | error failure => rwa [Run.bind_error hrun]
  | ok value =>
      rw [Run.bind_ok hrun, Outcome.reports, List.filterMap_append]
      exact List.append_eq_nil_iff.mpr ⟨hfirst, hnext value middle⟩

end Run

/-- A registry that reports nothing itself: reports are the business of a collection. -/
structure Registry.Reticent (registry : Registry σ) : Prop where
  list : registry.list.Reticent
  delete : ∀ manifest, (registry.delete manifest).Reticent

lemma Registry.Memory.reticent (memory : Memory) : memory.registry.Reticent where
  list := Run.reticent_pure _
  delete manifest deleted := by
    show (memory.delete manifest deleted).reports = []
    rw [Memory.delete]
    split <;> rfl

section Azure

open Run (reticent_ofResult reticent_pure reticent_log)

lemma World.reticent_invoke (world : World σ) (invocation : Invocation) (limit : Option Nat) :
    (world.invoke invocation limit).Reticent := by
  have hresponse : (world.response invocation).Reticent := fun _ => rfl
  rw [World.invoke]
  split
  · exact reticent_ofResult _
  · refine hresponse.bind fun response => ?_
    split
    · exact reticent_pure _
    · exact (reticent_log _ _ _).bind fun _ => reticent_ofResult _

lemma Azure.reticent_execute (world : World σ) (azure : Azure) :
    (azure.execute world).Reticent := by
  refine (reticent_log _ _ _).bind fun _ =>
    (world.reticent_invoke azure.invocation azure.limit).bind fun response => ?_
  dsimp only
  split
  · exact reticent_pure _
  · exact (reticent_log _ _ _).bind fun _ => reticent_ofResult _

/-- The repository of an Azure registry reports nothing itself. -/
theorem AzureRegistry.reticent (world : World σ) (azure : AzureRegistry) :
    (azure.registry world).Reticent where
  list := by
    show (azure.list world).Reticent
    rw [AzureRegistry.list]
    split
    · rename_i path _
      have hread : (world.read path (.listingRead path)).Reticent := fun _ => rfl
      exact (hread.within _).bind fun _ => (reticent_ofResult _).bind fun _ =>
        (reticent_log _ _ _).bind fun _ => reticent_pure _
    · exact ((Azure.reticent_execute world _).within _).bind fun _ =>
        (reticent_ofResult _).bind fun _ => (reticent_log _ _ _).bind fun _ => reticent_pure _
  delete manifest := (reticent_log _ _ _).bind fun _ =>
    ((Azure.reticent_execute world _).within _).bind fun _ => reticent_pure ()

end Azure

/-! ### One collection -/

section InStep

open Collection (Swept Ends announcement made)

variable {registry : Registry σ} {retention : Retention} {state listed after : σ}
  {heard record : List Event} {listing manifests garbage : List Manifest} {failure : Failure}

lemma Collection.reported_announcement (retention : Retention) (listing : List Manifest) :
    (announcement retention listing).filterMap Event.reported? = [] := by
  rw [announcement, List.filterMap_append, List.append_eq_nil_iff]
  refine ⟨List.filterMap_eq_nil_iff.mpr fun event hevent => ?_, rfl⟩
  obtain ⟨manifest, -, hremark⟩ := List.mem_filterMap.mp hevent
  rw [Retention.remark?] at hremark
  split at hremark
  · exact Option.some.inj hremark ▸ rfl
  · exact Option.some.inj hremark ▸ rfl
  · cases hremark

/-- What is deleted is reported. -/
lemma Collection.Swept.reported (hreticent : registry.Reticent)
    (h : Swept registry state manifests record after) :
    record.filterMap Event.reported? = manifests := by
  induction h with
  | none state => rfl
  | @next state middle after manifest rest events more hdelete hrest ih =>
      have hsilent := (hreticent.delete manifest).reported_eq hdelete
      have hreported : Event.reported? (.reported manifest) = some manifest := rfl
      rw [List.filterMap_cons_none rfl, List.filterMap_append, hsilent, List.nil_append,
        List.filterMap_cons_none rfl, List.filterMap_cons_some hreported, ih]

/-- What deletions have reported when they end is what was deleted. -/
lemma Collection.Ends.reports_eq {start : σ} {count : ℕ} {deletions : List Deletion}
    {outcome : Outcome σ (List Manifest)} (hreticent : registry.Reticent)
    (h : Ends registry garbage start count deletions outcome) :
    outcome.reports = garbage.take count := by
  cases h with
  | done hswept => rw [List.take_length, Outcome.reports, hswept.reported hreticent]
  | @stopped _ manifest record events after last failure hnext hswept hfails =>
      have hsilent := (hreticent.delete manifest).reported_eq hfails
      rw [Outcome.reports, List.filterMap_append, hswept.reported hreticent,
        List.filterMap_cons_none rfl, hsilent, List.append_nil]

/-- Nothing is deleted if the listing fails. -/
lemma deletions_unlisted (hlist : registry.list state = ⟨listed, heard, .error failure⟩)
    (retention : Retention) (dryRun : Bool) : registry.deletions retention dryRun state = [] := by
  rw [Registry.deletions, collect_unlisted (Collection.traced_list hlist [])]

/-- Nothing is deleted on a dry run. -/
lemma deletions_dry (hlist : registry.list state = ⟨listed, heard, .ok listing⟩)
    (retention : Retention) : registry.deletions retention true state = [] := by
  rw [Registry.deletions, collect_dry (Collection.traced_list hlist [])]

/-- Nothing is reported if the listing fails. -/
lemma reports_unlisted (hreticent : registry.Reticent)
    (hlist : registry.list state = ⟨listed, heard, .error failure⟩) (retention : Retention)
    (dryRun : Bool) : (collect registry retention dryRun state).reports = [] := by
  rw [collect_unlisted hlist]
  exact hreticent.list.reported_eq hlist

/-- The reports of a dry run are the garbage. -/
lemma reports_dry (hreticent : registry.Reticent)
    (hlist : registry.list state = ⟨listed, heard, .ok listing⟩) (retention : Retention) :
    (collect registry retention true state).reports = retention.garbage listing := by
  rw [collect_dry hlist, Outcome.reports, List.filterMap_append, List.filterMap_append,
    hreticent.list.reported_eq hlist, Collection.reported_announcement, List.nil_append,
    List.nil_append, List.filterMap_map]
  exact List.filterMap_some

/-- The reports of any other collection are the garbage that was deleted. -/
lemma reports_real (hreticent : registry.Reticent)
    (hlist : registry.list state = ⟨listed, heard, .ok listing⟩) {count : ℕ}
    {deletions : List Deletion} {outcome : Outcome σ (List Manifest)}
    (hends : Ends registry (retention.garbage listing) listed count deletions outcome)
    (hcollect : collect registry retention false state =
      ⟨outcome.state, heard ++ (announcement retention listing ++ outcome.events),
        outcome.result⟩) :
    (collect registry retention false state).reports =
      (retention.garbage listing).take count := by
  rw [hcollect, Outcome.reports, List.filterMap_append, List.filterMap_append,
    hreticent.list.reported_eq hlist, Collection.reported_announcement, List.nil_append,
    List.nil_append]
  exact hends.reports_eq hreticent

/-- A dry run shows what would be deleted. -/
lemma reports_prefix (hreticent : registry.Reticent) (retention : Retention) (state : σ) :
    (collect registry retention false state).reports <+:
      (collect registry retention true state).reports := by
  rcases hlist : registry.list state with ⟨listed, heard, failure | listing⟩
  · rw [collect_unlisted hlist, collect_unlisted hlist]
  · obtain ⟨count, outcome, hends, hcollect⟩ := exists_ends hlist retention
    rw [reports_real hreticent hlist hends hcollect, reports_dry hreticent hlist]
    exact List.take_prefix _ _

/-- The deletions, the reports and the result of a collection go together. -/
structure Registry.InStep (registry : Registry σ) (retention : Retention) (state : σ) : Prop where
  /-- A listing that fails is all that happens: nothing is deleted or reported. -/
  unlisted : ∀ listed heard failure, registry.list state = ⟨listed, heard, .error failure⟩ →
    ∀ dryRun, collect registry retention dryRun state = ⟨listed, heard, .error failure⟩ ∧
      registry.deletions retention dryRun state = [] ∧
      (registry.Reticent → (collect registry retention dryRun state).reports = [])
  /-- A dry run reports the garbage in order and has it as its result.  It deletes nothing. -/
  dry : ∀ listed heard listing, registry.list state = ⟨listed, heard, .ok listing⟩ →
    collect registry retention true state =
        ⟨listed, heard ++ (announcement retention listing
          ++ (retention.garbage listing).map .reported), .ok (retention.garbage listing)⟩ ∧
      registry.deletions retention true state = [] ∧
      (registry.Reticent → (collect registry retention true state).reports =
        retention.garbage listing)
  /-- Any other collection deletes and reports the garbage in order, until all of it is deleted
  or a deletion fails.  Its result tells which. -/
  real : ∀ listed heard listing, registry.list state = ⟨listed, heard, .ok listing⟩ →
    ∃ count ≤ (retention.garbage listing).length, ∃ outcome,
      Ends registry (retention.garbage listing) listed count
          (registry.deletions retention false state) outcome ∧
        collect registry retention false state =
          ⟨outcome.state, heard ++ (announcement retention listing ++ outcome.events),
            outcome.result⟩ ∧
        (outcome.result = .ok (retention.garbage listing) ↔
          count = (retention.garbage listing).length) ∧
        (registry.Reticent → (collect registry retention false state).reports =
          (retention.garbage listing).take count)
  /-- A dry run reports at least what the same collection would report that is none. -/
  preview : registry.Reticent → (collect registry retention false state).reports <+:
    (collect registry retention true state).reports

/-- The deletions, the reports and the result of any collection go together. -/
theorem Registry.inStep (registry : Registry σ) (retention : Retention) (state : σ) :
    registry.InStep retention state where
  unlisted _ _ _ hlist dryRun :=
    ⟨collect_unlisted hlist retention dryRun, deletions_unlisted hlist retention dryRun,
      fun hreticent => reports_unlisted hreticent hlist retention dryRun⟩
  dry _ _ _ hlist := ⟨collect_dry hlist retention, deletions_dry hlist retention,
    fun hreticent => reports_dry hreticent hlist retention⟩
  real listed heard listing hlist := by
    obtain ⟨count, outcome, hends, hcollect⟩ := exists_ends hlist retention
    exact ⟨count, hends.count_le, outcome, hends, hcollect, hends.result_eq_ok_iff,
      fun hreticent => reports_real hreticent hlist hends hcollect⟩
  preview hreticent := reports_prefix hreticent retention state

end InStep

/-! ### Many collections -/

/-- One of several collections: what is kept, and whether it is a dry run. -/
structure Pass where
  retention : Retention
  dryRun : Bool

/-- Collections one after the other on one registry, each from the state that the one before it
left, whether that one failed or not.  The result is their outcomes and the state at the end. -/
def Registry.inTurn (registry : Registry σ) :
    List Pass → σ → List (Pass × Outcome σ (List Manifest)) × σ
  | [], state => ([], state)
  | pass :: rest, state =>
    let outcome := collect registry pass.retention pass.dryRun state
    let others := registry.inTurn rest outcome.state
    ((pass, outcome) :: others.1, others.2)

/-- The digests that collections report which are no dry runs. -/
def realReports (outcomes : List (Pass × Outcome σ (List Manifest))) : List String :=
  (outcomes.filter fun entry => !entry.1.dryRun).flatMap fun entry =>
    entry.2.reports.map Manifest.digest

lemma realReports_cons (entry : Pass × Outcome σ (List Manifest))
    (others : List (Pass × Outcome σ (List Manifest))) :
    realReports (entry :: others) = realReports [entry] ++ realReports others := by
  rw [← List.singleton_append, realReports, List.filter_append, List.flatMap_append]
  rfl

namespace Registry.Memory

variable {memory : Memory} {log after : List String} {manifests : List Manifest}
  {record : List Event}

/-- Manifests that are deleted one after the other are in the log in this order, and none of
them is one whose deletion fails. -/
lemma log_of_swept (h : Collection.Swept memory.registry log manifests record after) :
    after = log ++ manifests.map Manifest.digest ∧
      ∀ manifest ∈ manifests, manifest.digest ∉ memory.failing := by
  induction h with
  | none log => simp
  | @next log middle after manifest rest events more hdelete hrest ih =>
      change memory.delete manifest log = _ at hdelete
      rw [delete] at hdelete
      split at hdelete
      · cases hdelete
      · rename_i hfailing
        cases hdelete
        exact ⟨by simp [ih.1], List.forall_mem_cons.mpr ⟨by simpa using hfailing, ih.2⟩⟩

/-- What deletions have left in the log when they end. -/
lemma log_of_ends {garbage : List Manifest} {count : ℕ} {deletions : List Deletion}
    {outcome : Outcome (List String) (List Manifest)}
    (h : Collection.Ends memory.registry garbage log count deletions outcome) :
    outcome.state = log ++ (garbage.take count).map Manifest.digest ∧
      ∀ manifest ∈ garbage.take count, manifest.digest ∉ memory.failing := by
  cases h with
  | done hswept => simpa using log_of_swept hswept
  | @stopped _ manifest record events after last failure hnext hswept hfails =>
      obtain rfl : last = after := by
        change memory.delete manifest after = _ at hfails
        rw [delete] at hfails
        split at hfails <;> cases hfails
        rfl
      exact log_of_swept hswept

/-- A collection adds to the log what it reports, unless it is a dry run, and reports nothing
whose deletion fails. -/
lemma log_collect (memory : Memory) (pass : Pass) (log : List String) :
    let outcome := collect memory.registry pass.retention pass.dryRun log
    outcome.state = log ++ realReports [(pass, outcome)] ∧
      ∀ digest ∈ realReports [(pass, outcome)], digest ∉ memory.failing := by
  obtain ⟨retention, dryRun⟩ := pass
  have hlist : memory.registry.list log = ⟨log, [], .ok memory.listing⟩ := rfl
  cases dryRun with
  | true => simp [collect_dry hlist, realReports]
  | false =>
      obtain ⟨count, outcome, hends, hcollect⟩ := exists_ends hlist retention
      have hreports := reports_real memory.reticent hlist hends hcollect
      obtain ⟨hlog, hfailing⟩ := log_of_ends hends
      have hreal : realReports [(⟨retention, false⟩, collect memory.registry retention false log)] =
          ((retention.garbage memory.listing).take count).map Manifest.digest := by
        rw [← hreports]
        exact List.append_nil _
      have hstate : (collect memory.registry retention false log).state = outcome.state := by
        rw [hcollect]
      dsimp only
      rw [hreal, hstate]
      exact ⟨hlog, List.forall_mem_map.mpr hfailing⟩

/-- Collections one after the other add to the log what they report, those that are no dry
runs, and report nothing whose deletion fails. -/
theorem log_inTurn (memory : Memory) (passes : List Pass) (log : List String) :
    (memory.registry.inTurn passes log).2 =
        log ++ realReports (memory.registry.inTurn passes log).1 ∧
      ∀ digest ∈ realReports (memory.registry.inTurn passes log).1, digest ∉ memory.failing := by
  induction passes generalizing log with
  | nil => exact ⟨(List.append_nil log).symm, by simp [inTurn, realReports]⟩
  | cons pass rest ih =>
      obtain ⟨hfirst, hfailing⟩ := log_collect memory pass log
      obtain ⟨hrest, hothers⟩ := ih (collect memory.registry pass.retention pass.dryRun log).state
      rw [inTurn, realReports_cons]
      refine ⟨?_, List.forall_mem_append.mpr ⟨hfailing, hothers⟩⟩
      rw [hrest, hfirst, List.append_assoc]

end Registry.Memory

/-- Deletions, reports and results go together: in any collection from any registry, and in any
number of them from a registry kept in memory, which has deleted in the end what the collections
reported that were no dry runs. -/
theorem collections_in_step (registry : Registry σ) (retention : Retention) (state : σ)
    (memory : Registry.Memory) (passes : List Pass) :
    registry.InStep retention state ∧
      (memory.registry.inTurn passes []).2 =
        realReports (memory.registry.inTurn passes []).1 ∧
      ∀ digest ∈ (memory.registry.inTurn passes []).2, digest ∉ memory.failing := by
  obtain ⟨hlog, hfailing⟩ := memory.log_inTurn passes []
  rw [List.nil_append] at hlog
  exact ⟨registry.inStep retention state, hlog, hlog ▸ hfailing⟩

/-- Of three old manifests the second one cannot be deleted.  A dry run reports all three, and
each of two collections after it deletes and reports the first one and then stops. -/
theorem collections_in_step_memory :
    let published : Instant :=
      ⟨17532, 0, 0, by decide, by decide, by decide, by decide, by decide⟩
    let memory : Registry.Memory :=
      ⟨[⟨"a", ["old"], published⟩, ⟨"b", [], published⟩, ⟨"c", [], published⟩], ["b"]⟩
    let retention : Retention := ⟨.ofList [⟨"live"⟩], 0,
      ⟨17683, 0, 0, by decide, by decide, by decide, by decide, by decide⟩⟩
    let passes : List Pass := [⟨retention, true⟩, ⟨retention, false⟩, ⟨retention, false⟩]
    memory.registry.Reticent ∧
      (collect memory.registry retention false []).reports <+:
        (collect memory.registry retention true []).reports ∧
      ((collect memory.registry retention true []).reports.map Manifest.digest = ["a", "b", "c"]) ∧
      (memory.registry.inTurn passes []).2 = ["a", "a"] ∧
      realReports (memory.registry.inTurn passes []).1 = ["a", "a"] := by
  intro published memory retention passes
  obtain ⟨hstep, hlog, -⟩ := collections_in_step memory.registry retention [] memory passes
  have hdeleted : (memory.registry.inTurn passes []).2 = ["a", "a"] := by decide +kernel
  exact ⟨memory.reticent, hstep.preview memory.reticent, by decide +kernel, hdeleted,
    hlog ▸ hdeleted⟩

end ImageRetention
