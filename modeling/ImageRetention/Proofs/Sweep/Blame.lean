import Mathlib.Tactic
import ImageRetention.Failure.Report
import ImageRetention.Proofs.Sweep.Anatomy

/-!
What the user is told about processes that ended unsuccessfully.

* `Exchange.EndedBadly`, `Exchange.ReportedBy`: a process that ended unsuccessfully, and a report
  that shows it as it was run and as it ended;
* `World.Hindered`: what else can be at the root of a failure, with what there is to show for it;
* `Explained`: a failure whose report shows such a process, or that has another such root;
* `LiveSet.Course.explained`: the failure of a resolution of live tags is that of one of its
  questions, or of something that was printed, and either is explained;
* `Accountable`, `AzureRegistry.shows_accountable`: a collection stops at its first failure, so the
  process that ended unsuccessfully is the one that is reported;
* `process_failures_reported`: both together, and the probe, for which alone it is only said that
  there is no repository.
-/

namespace ImageRetention

open Heard (spoken)
open LiveSet (Course HeardStages revListCall lsTreeCall showCall)

variable {σ α : Type}

/-! ### Reports of processes -/

/-- A process ended in time but unsuccessfully: with an exit code other than zero, or by a
signal. -/
def Exchange.EndedBadly : Exchange → Prop
  | ran _ response => response.exitCode ≠ some 0 ∧ response.millis < Command.standardLimit
  | read _ _ => False

/-- A report shows a process: the command line that was run, how it ended, and all that it
printed. -/
def Exchange.ReportedBy (wrap : FailedProcess → Cause) (report : Report) : Exchange → Prop
  | ran invocation response =>
    report.cause = wrap
      { command := invocation.program ++ " " ++ String.intercalate " " invocation.arguments
        exitCode := response.exitCode
        stdout := Text.Utf8.textOf response.stdout
        stderr := Text.Utf8.textOf response.stderr } ∧
    report.details = some ("STDOUT:\n" ++ Text.Utf8.textOf response.stdout ++ "\nSTDERR:\n"
      ++ Text.Utf8.textOf response.stderr)
  | read _ _ => False

lemma Exchange.Succeeded.not_endedBadly {exchange : Exchange} (h : exchange.Succeeded) :
    ¬exchange.EndedBadly := by
  cases exchange with
  | ran invocation response =>
      rintro ⟨hcode, -⟩
      exact hcode (by simpa [Response.isSuccess] using h.1)
  | read path contents => exact id

/-- A way to word failed processes that says all that they printed, whatever the context. -/
structure Report.Wraps (wrap : FailedProcess → Cause) : Prop where
  isBackendFailure : ∀ process, (wrap process).isBackendFailure = true
  standingDetails : ∀ process,
    Report.standingDetails (wrap process) = some (Report.capturedOutput process)

lemma Report.wraps_gitFailed : Report.Wraps .gitFailed := ⟨fun _ => rfl, fun _ => rfl⟩

lemma Report.wraps_azFailed : Report.Wraps .azFailed := ⟨fun _ => rfl, fun _ => rfl⟩

/-- A failed outside program at the root is reported alone, whatever is around it. -/
lemma Report.ofFailure_of_root {failure : Failure} {cause : Cause}
    (hroot : failure.root = .known cause) (hbackend : cause.isBackendFailure = true) :
    Report.ofFailure failure = Report.ofCause cause := by
  obtain ⟨contexts, root⟩ := failure
  subst hroot
  simp [Report.ofFailure, hbackend]

lemma Report.Wraps.reportedBy {wrap : FailedProcess → Cause} (hwrap : Report.Wraps wrap)
    {failure : Failure} {invocation : Invocation} {response : Response}
    (hroot : failure.root = .known (wrap (response.failedProcess invocation))) :
    (Exchange.ran invocation response).ReportedBy wrap (Report.ofFailure failure) := by
  rw [Report.ofFailure_of_root hroot (hwrap.isBackendFailure _)]
  exact ⟨rfl, hwrap.standingDetails _⟩

/-! ### Explanations -/

/-- What is at the root of a failure for which no process that ended unsuccessfully is to blame,
with what there is to show for it.  `Asked` tells which calls are asked for, and `Misread` what
can be wrong with what a call gave. -/
inductive World.Hindered (world : World σ) (Asked : Call → Prop)
    (Misread : Exchange → Cause → Prop) (transcript : List Exchange) : Root → Prop
  /-- A program did not end in time. -/
  | late {invocation : Invocation} {response : Response}
      (hmem : .ran invocation response ∈ transcript)
      (hlate : Command.standardLimit ≤ response.millis) :
      Hindered world Asked Misread transcript (.known (.timedOut invocation.text 300))
  /-- A program that is asked for cannot be started. -/
  | unstarted {invocation : Invocation} {problem : IoError} (hasked : Asked (.run invocation))
      (hobstacle : world.obstacle? invocation = some problem) :
      Hindered world Asked Misread transcript (.io problem)
  /-- A file cannot be read. -/
  | unreadable {path : String} {problem : IoError}
      (hmem : .read path (.error problem) ∈ transcript) :
      Hindered world Asked Misread transcript (.io problem)
  /-- What a call gave as it should cannot be used. -/
  | misread {exchange : Exchange} {cause : Cause} (hmem : exchange ∈ transcript)
      (hsucceeded : exchange.Succeeded) (hmisread : Misread exchange cause) :
      Hindered world Asked Misread transcript (.known cause)

/-- A failure shows a process that ended unsuccessfully, or has another reason. -/
def Explained (world : World σ) (wrap : FailedProcess → Cause) (Asked : Call → Prop)
    (Misread : Exchange → Cause → Prop) (transcript : List Exchange) (failure : Failure) : Prop :=
  (∃ exchange ∈ transcript, exchange.EndedBadly ∧
      exchange.ReportedBy wrap (Report.ofFailure failure)) ∨
    world.Hindered Asked Misread transcript failure.root

section Explanations

variable {world : World σ} {wrap : FailedProcess → Cause} {Asked : Call → Prop}
  {Misread : Exchange → Cause → Prop} {record transcript : List Exchange} {failure : Failure}

lemma World.Hindered.mono {root : Root} (h : world.Hindered Asked Misread record root)
    (hsub : record ⊆ transcript) : world.Hindered Asked Misread transcript root := by
  cases h with
  | late hmem hlate => exact .late (hsub hmem) hlate
  | unstarted hasked hobstacle => exact .unstarted hasked hobstacle
  | unreadable hmem => exact .unreadable (hsub hmem)
  | misread hmem hsucceeded hmisread => exact .misread (hsub hmem) hsucceeded hmisread

lemma Explained.mono (h : Explained world wrap Asked Misread record failure)
    (hsub : record ⊆ transcript) : Explained world wrap Asked Misread transcript failure := by
  rcases h with ⟨exchange, hmem, hbad⟩ | h
  · exact Or.inl ⟨exchange, hsub hmem, hbad⟩
  · exact Or.inr (h.mono hsub)

/-- A call that is to blame explains the failure. -/
lemma World.Blames.explained {call : Call} (hwrap : Report.Wraps wrap)
    (h : world.Blames wrap call record failure.root) (hasked : Asked call) :
    Explained world wrap Asked Misread record failure := by
  generalize hroot : failure.root = root at h
  cases h with
  | @process invocation response hcall hfails htime =>
      have hbad : (Exchange.ran invocation response).EndedBadly :=
        ⟨by simpa [Response.isSuccess] using hfails, htime⟩
      exact Or.inl ⟨_, List.mem_singleton_self _, hbad, hwrap.reportedBy hroot⟩
  | late hcall hlate =>
      refine Or.inr ?_
      rw [hroot]
      exact .late (List.mem_singleton_self _) (not_lt.mp hlate)
  | unstarted hcall hobstacle =>
      refine Or.inr ?_
      rw [hroot]
      exact .unstarted (hcall ▸ hasked) hobstacle
  | unreadable hcall =>
      refine Or.inr ?_
      rw [hroot]
      exact .unreadable (List.mem_singleton_self _)

end Explanations

/-! ### What is taken from the answers -/

namespace Asking

variable {asking : Asking} {failure : Failure}

lemma outcome_of_selected (h : asking.selected = .error failure) :
    ∃ inner, asking.outcome = .error inner ∧ inner.root = failure.root := by
  rcases asking with ⟨root, answer⟩ | _ | _
  · obtain ⟨inner, rfl, rfl⟩ := map_mapError_eq_error.mp h
    exact ⟨inner, rfl, rfl⟩
  all_goals cases h

lemma outcome_of_found (h : asking.found = .error failure) :
    ∃ inner, asking.outcome = .error inner ∧ inner.root = failure.root := by
  rcases asking with _ | _ | ⟨object, answer⟩
  · cases h
  · cases h
  · obtain ⟨inner, rfl, rfl⟩ := map_mapError_eq_error.mp h
    exact ⟨inner, rfl, rfl⟩

lemma outcome_of_located (h : asking.located = .error failure) :
    (∃ inner, asking.outcome = .error inner ∧ inner.root = failure.root) ∨
      ∃ commit path listing cause, asking = .tree commit path (.ok listing) ∧
        TreeListing.objects listing = .error cause ∧ failure = .of cause := by
  rcases asking with _ | ⟨commit, path, answer⟩ | _
  · cases h
  · obtain ⟨inner, rfl, rfl⟩ | ⟨listing, cause, rfl, hcause, rfl⟩ := located_eq_error.mp h
    · exact Or.inl ⟨inner, rfl, rfl⟩
    · exact Or.inr ⟨commit, path, listing, cause, rfl, hcause, rfl⟩
  · cases h

lemma exists_content_of_found {references : List ImageReference} {reference : ImageReference}
    (h : asking.found = .ok references) (hmem : reference ∈ references) :
    ∃ object bytes, asking = .content object (.ok bytes) ∧ reference ∈ Image.scan bytes := by
  rcases asking with _ | _ | ⟨object, answer⟩
  · cases h
    cases hmem
  · cases h
    cases hmem
  · obtain ⟨bytes, rfl, rfl⟩ := found_eq_ok.mp h
    exact ⟨object, bytes, rfl, hmem⟩

end Asking

/-! ### Live tags -/

namespace Repository

/-- The calls that a resolution of live tags asks for: the given filters, the commits that were
printed for them, and the revisions that were printed for those. -/
inductive Asked (path tracked : String) (roots : List RootFilter) (transcript : List Exchange) :
    Call → Prop
  | commits {root : RootFilter} (hroot : root ∈ roots) :
      Asked path tracked roots transcript (revListCall path root)
  | tree {root : RootFilter} {printed : Exchange} {commit : CommitId} (hroot : root ∈ roots)
      (hmem : printed ∈ transcript) (hcall : printed.call = revListCall path root)
      (hselects : printed.Selects commit) :
      Asked path tracked roots transcript (lsTreeCall path tracked commit)
  | content {commit : CommitId} {printed : Exchange} {object : ObjectId}
      (hmem : printed ∈ transcript) (hcall : printed.call = lsTreeCall path tracked commit)
      (hlists : printed.Lists object) :
      Asked path tracked roots transcript (showCall path object)

/-- What can be wrong with what git printed. -/
inductive Misread (path tracked : String) (target : Target) (exchange : Exchange) : Cause → Prop
  /-- A tree listing has a line that is too short. -/
  | line {commit : CommitId} {line : List Char}
      (hcall : exchange.call = lsTreeCall path tracked commit)
      (hline : line ∈ Text.lines (Text.Utf8.textOf exchange.output).toList)
      (hshort : (Text.fields line).length < 3) :
      Misread path tracked target exchange (.badTreeLine (String.ofList line))
  /-- A revision holds a reference to the repository that has no tag. -/
  | reference {object : ObjectId} {reference : ImageReference}
      (hcall : exchange.call = showCall path object) (hrefers : exchange.Refers reference)
      (hjudge : target.judge reference = .malformed) :
      Misread path tracked target exchange (.malformedReference reference.text)

end Repository

namespace Accounted

variable {path tracked : String} {world : World σ} {accounted : Accounted world path}
  {target : Target} {Asked : Call → Prop} {Misread : Exchange → Cause → Prop} {failure : Failure}

/-- The failure of a question is explained by what was exchanged for it. -/
lemma explained {inner : Failure} (hasked : Asked (accounted.asking.query.call path))
    (h : accounted.asking.outcome = .error inner) (hroot : inner.root = failure.root) :
    Explained world .gitFailed Asked Misread accounted.exchanges failure := by
  have hended := accounted.ended
  rw [h] at hended
  have hblames := hended.blames
  rw [hroot] at hblames
  exact hblames.explained Report.wraps_gitFailed hasked

/-- Behind an answer is a program that printed it. -/
lemma exists_exchange (h : accounted.asking.outcome = .ok ()) :
    ∃ exchange ∈ accounted.exchanges, exchange.call = accounted.asking.query.call path ∧
      exchange.Succeeded ∧ accounted.asking.Tells exchange.output := by
  have hheard : accounted.heard.asking.outcome = .ok () := h
  obtain ⟨exchange, hexchanges, hrest⟩ := Heard.exists_exchange hheard
  have hmem : exchange ∈ accounted.heard.exchanges := by simp [hexchanges]
  exact ⟨exchange, hmem, hrest⟩

/-- A listing that cannot be read was printed so. -/
lemma explained_of_line {commit : CommitId} {listing : String} {cause : Cause}
    (hasking : accounted.asking = .tree commit tracked (.ok listing))
    (hcause : TreeListing.objects listing = .error cause) :
    Explained world .gitFailed Asked (Repository.Misread path tracked target)
      accounted.exchanges (.of cause) := by
  have hanswered : accounted.asking.outcome = .ok () := by rw [hasking]; rfl
  obtain ⟨exchange, hmem, hcall, hsucceeded, htells⟩ := exists_exchange hanswered
  obtain ⟨line, hline, hshort, rfl⟩ := TreeListing.objectsOf_eq_error hcause
  rw [hasking] at hcall htells
  obtain rfl : listing = Text.Utf8.textOf exchange.output := Except.ok.inj htells
  exact Or.inr (.misread hmem hsucceeded (.line hcall hline hshort))

/-- A malformed reference was printed so. -/
lemma explained_of_reference {object : ObjectId} {bytes : List UInt8}
    {reference : ImageReference} (hasking : accounted.asking = .content object (.ok bytes))
    (hmem : reference ∈ Image.scan bytes) (hjudge : target.judge reference = .malformed) :
    Explained world .gitFailed Asked (Repository.Misread path tracked target)
      accounted.exchanges (.of (.malformedReference reference.text)) := by
  have hanswered : accounted.asking.outcome = .ok () := by rw [hasking]; rfl
  obtain ⟨exchange, hexchange, hcall, hsucceeded, htells⟩ := exists_exchange hanswered
  rw [hasking] at hcall htells
  obtain rfl : bytes = exchange.output := Except.ok.inj htells
  exact Or.inr (.misread hexchange hsucceeded (.reference hcall hmem hjudge))

end Accounted

namespace LiveSet

variable {path tracked : String} {world : World σ} {settings : Settings}
  {roots : List RootFilter}

/-- Every question is one that is asked for. -/
lemma Stages.asked {commits trees contents : List (Heard path)}
    (h : HeardStages tracked roots commits trees contents) :
    ∀ heard ∈ commits ++ (trees ++ contents), Repository.Asked path tracked roots
      (spoken commits ++ (spoken trees ++ spoken contents)) (heard.asking.query.call path) := by
  intro heard hheard
  rcases List.mem_append.mp hheard with hheard | hheard
  · obtain ⟨root, hroot, hcall⟩ := h.asked_commits heard hheard
    exact hcall ▸ .commits hroot
  rcases List.mem_append.mp hheard with hheard | hheard
  · obtain ⟨commit, hcall, printed, hprinted, hselects⟩ := h.asked_trees heard hheard
    have hmem := h.commits_calls.subset (List.mem_map_of_mem hprinted)
    obtain ⟨root, hroot, hlisted⟩ := List.mem_map.mp hmem
    exact hcall ▸ .tree hroot (List.mem_append_left _ hprinted) hlisted.symm hselects
  · obtain ⟨object, hcall, printed, hprinted, hlists⟩ := h.asked_contents heard hheard
    obtain ⟨commit, hlisted, -⟩ := h.trees_calls printed hprinted
    exact hcall ▸ .content (List.mem_append_right _ (List.mem_append_left _ hprinted)) hlisted
      hlists

/-- Every call is one that is asked for. -/
lemma Stages.asked_call {commits trees contents : List (Heard path)}
    (h : HeardStages tracked roots commits trees contents) :
    ∀ exchange ∈ spoken commits ++ (spoken trees ++ spoken contents), Repository.Asked path tracked
      roots (spoken commits ++ (spoken trees ++ spoken contents)) exchange.call := by
  intro exchange hexchange
  have hspoken : exchange ∈ spoken (commits ++ (trees ++ contents)) := by
    simpa [spoken] using hexchange
  obtain ⟨heard, hheard, -, hcall⟩ := Heard.exists_heard hspoken
  exact hcall ▸ h.asked heard hheard

/-- The failure of a resolution of live tags is explained by what was exchanged in it: the
failure is that of one of its questions, or of something that was printed. -/
lemma Course.explained {Asked : Call → Prop} {commits trees contents : List (Accounted world path)}
    {failure : Failure}
    (h : Course settings roots (commits.map Accounted.asking) (trees.map Accounted.asking)
      (contents.map Accounted.asking) (.error failure))
    (hasked : ∀ accounted ∈ commits ++ (trees ++ contents),
      Asked (accounted.asking.query.call path)) :
    Explained world .gitFailed Asked
      (Repository.Misread path settings.trackedPath settings.target)
      ((commits ++ (trees ++ contents)).flatMap Accounted.exchanges) failure := by
  have hsub {accounted : Accounted world path} (hmem : accounted ∈ commits ++ (trees ++ contents)) :
      accounted.exchanges ⊆ (commits ++ (trees ++ contents)).flatMap Accounted.exchanges :=
    fun exchange hexchange => List.mem_flatMap.mpr ⟨accounted, hmem, hexchange⟩
  rcases h.of_error failure rfl with hfails | hfails | hfails | ⟨reference, hyields, hjudge, rfl⟩
  · simp only [List.mem_map, exists_exists_and_eq_and] at hfails
    obtain ⟨accounted, haccounted, hfails⟩ := hfails
    have hmem : accounted ∈ commits ++ (trees ++ contents) := by simp [haccounted]
    obtain ⟨inner, houtcome, hroot⟩ := Asking.outcome_of_selected hfails
    exact (Accounted.explained (hasked accounted hmem) houtcome hroot).mono (hsub hmem)
  · simp only [List.mem_map, exists_exists_and_eq_and] at hfails
    obtain ⟨accounted, haccounted, hfails⟩ := hfails
    have hmem : accounted ∈ commits ++ (trees ++ contents) := by simp [haccounted]
    obtain ⟨inner, houtcome, hroot⟩ | ⟨commit, other, listing, cause, htree, hcause, rfl⟩ :=
      Asking.outcome_of_located hfails
    · exact (Accounted.explained (hasked accounted hmem) houtcome hroot).mono (hsub hmem)
    · obtain ⟨_, hquery, -⟩ := h.trees_asked _ (List.mem_map_of_mem haccounted)
      rw [htree] at hquery
      obtain ⟨-, rfl⟩ := Query.tree.inj hquery
      exact (Accounted.explained_of_line htree hcause).mono (hsub hmem)
  · simp only [List.mem_map, exists_exists_and_eq_and] at hfails
    obtain ⟨accounted, haccounted, hfails⟩ := hfails
    have hmem : accounted ∈ commits ++ (trees ++ contents) := by simp [haccounted]
    obtain ⟨inner, houtcome, hroot⟩ := Asking.outcome_of_found hfails
    exact (Accounted.explained (hasked accounted hmem) houtcome hroot).mono (hsub hmem)
  · obtain ⟨references, hreferences, hreference⟩ := hyields
    simp only [List.mem_map, exists_exists_and_eq_and] at hreferences
    obtain ⟨accounted, haccounted, hfound⟩ := hreferences
    have hmem : accounted ∈ commits ++ (trees ++ contents) := by simp [haccounted]
    obtain ⟨object, bytes, hcontent, hscan⟩ := Asking.exists_content_of_found hfound hreference
    exact (Accounted.explained_of_reference hcontent hscan hjudge).mono (hsub hmem)

/-- If the live tags are known then every program succeeded. -/
lemma Course.succeeded {commits trees contents : List (Heard path)} {tags : SortedSet ImageTag}
    (h : HeardCourse settings roots commits trees contents (.ok tags)) :
    ∀ exchange ∈ spoken commits ++ (spoken trees ++ spoken contents), exchange.Succeeded := by
  obtain ⟨hresolved, hlocated, hextracted, -⟩ := h.of_ok tags rfl
  have hcommits := (hresolved.completed h.toStages).succeeded
  have htrees := (hlocated.completed h.toStages hresolved).1
  have hcontents := (hextracted.completed h.toStages hlocated).1
  exact List.forall_mem_append.mpr ⟨hcommits, List.forall_mem_append.mpr ⟨htrees, hcontents⟩⟩

end LiveSet

/-! ### Collections -/

/-- The exchanges of a run that stops at its first failure are accountable for how it ends: the
process that ended unsuccessfully is the one that is reported. -/
structure Accountable (world : World σ) (wrap : FailedProcess → Cause) (Asked : Call → Prop)
    (Misread : Exchange → Cause → Prop) (record : List Exchange) (result : Except Failure α) :
    Prop where
  asked : ∀ exchange ∈ record, Asked exchange.call
  of_bad : ∀ exchange ∈ record, exchange.EndedBadly → ∃ failure, result = .error failure ∧
    exchange.ReportedBy wrap (Report.ofFailure failure)
  of_error : ∀ failure, result = .error failure →
    Explained world wrap Asked Misread record failure

namespace Accountable

variable {β : Type} {world : World σ} {wrap : FailedProcess → Cause} {Asked : Call → Prop}
  {Misread : Exchange → Cause → Prop} {record before after : List Exchange}
  {result : Except Failure α} {failure : Failure}

lemma of_succeeded (hasked : ∀ exchange ∈ record, Asked exchange.call)
    (h : ∀ exchange ∈ record, exchange.Succeeded) (value : α) :
    Accountable world wrap Asked Misread record (.ok value) :=
  ⟨hasked, fun exchange hmem hbad => absurd hbad (h exchange hmem).not_endedBadly, by simp⟩

/-- A call that failed is accountable for the failure. -/
lemma of_blames {call : Call} (hwrap : Report.Wraps wrap)
    (h : world.Blames wrap call record failure.root) (hasked : Asked call) :
    Accountable (α := α) world wrap Asked Misread record (.error failure) := by
  refine ⟨fun exchange hmem => ?_, fun exchange hmem hbad => ⟨failure, rfl, ?_⟩, ?_⟩
  · have hcall := List.mem_singleton.mp (h.calls.subset (List.mem_map_of_mem hmem))
    exact hcall ▸ hasked
  · generalize hroot : failure.root = root at h
    cases h with
    | process hcall hfails htime =>
        rw [List.mem_singleton.mp hmem]
        exact hwrap.reportedBy hroot
    | late hcall hlate =>
        rw [List.mem_singleton.mp hmem] at hbad
        exact absurd hbad.2 hlate
    | unstarted => cases hmem
    | unreadable =>
        rw [List.mem_singleton.mp hmem] at hbad
        exact hbad.elim
  · rintro _ ⟨⟩
    exact h.explained hwrap hasked

/-- What succeeded before does not matter. -/
lemma prepend (h : Accountable world wrap Asked Misread after result)
    (hasked : ∀ exchange ∈ before, Asked exchange.call)
    (hbefore : ∀ exchange ∈ before, exchange.Succeeded) :
    Accountable world wrap Asked Misread (before ++ after) result := by
  refine ⟨List.forall_mem_append.mpr ⟨hasked, h.asked⟩, fun exchange hmem hbad => ?_,
    fun failure hfailure => ?_⟩
  · rcases List.mem_append.mp hmem with hmem | hmem
    · exact absurd hbad (hbefore exchange hmem).not_endedBadly
    · exact h.of_bad exchange hmem hbad
  · exact (h.of_error failure hfailure).mono (List.subset_append_right before after)

lemma map (h : Accountable world wrap Asked Misread record result) (f : α → β) :
    Accountable world wrap Asked Misread record (result.map f) := by
  cases result with
  | error failure =>
      refine ⟨h.asked, fun exchange hmem hbad => ?_, ?_⟩
      · obtain ⟨_, ⟨⟩, hreported⟩ := h.of_bad exchange hmem hbad
        exact ⟨failure, rfl, hreported⟩
      · rintro _ ⟨⟩
        exact h.of_error failure rfl
  | ok value =>
      refine ⟨h.asked, fun exchange hmem hbad => ?_, by simp [Except.map]⟩
      obtain ⟨_, ⟨⟩, -⟩ := h.of_bad exchange hmem hbad

end Accountable

namespace AzureRegistry

variable {world : World σ} {azure : AzureRegistry} {retention : Retention}
  {record : List Exchange}

/-- The calls that a collection asks for: the listing, and the deletion of the garbage in what was
listed. -/
inductive Asked (azure : AzureRegistry) (retention : Retention) (transcript : List Exchange) :
    Call → Prop
  | listing : Asked azure retention transcript azure.listingCall
  | deletion {listed : Exchange} {manifests : List Manifest} {manifest : Manifest}
      (hmem : listed ∈ transcript) (hcall : listed.call = azure.listingCall)
      (hbytes : Manifest.ofBytes listed.output = .ok manifests)
      (hgarbage : manifest ∈ retention.garbage manifests) :
      Asked azure retention transcript (deletionCall azure.target manifest.digest)

/-- What can be wrong with a listing. -/
inductive Misread (azure : AzureRegistry) (exchange : Exchange) : Cause → Prop
  | listing {source : String} {problem : Decoding.Problem}
      (hcall : exchange.call = azure.listingCall)
      (hbytes : Manifest.ofBytes exchange.output = .error problem) :
      Misread azure exchange (.badListing source problem.message)

/-- A listing that fails is accountable for its failure. -/
lemma ListingEnds.accountable {failure : Failure}
    (h : ListingEnds world azure record (.error failure)) :
    Accountable (α := List Manifest) world .azFailed (azure.Asked retention record) azure.Misread
      record (.error failure) := by
  cases h with
  | failed h => exact .of_blames Report.wraps_azFailed h .listing
  | @undecoded exchange bytes source problem h hbytes =>
      obtain ⟨hcall, hsucceeded, rfl⟩ := h
      refine ⟨?_, ?_, ?_⟩
      · rw [List.forall_mem_singleton, hcall]
        exact .listing
      · simp [hsucceeded.not_endedBadly]
      · rintro _ ⟨⟩
        exact Or.inr (.misread (List.mem_singleton_self _) hsucceeded (.listing hcall hbytes))

/-- Deletions are accountable for how they end: the one that fails is the last one. -/
lemma accountable_of_deleting {Asked : Call → Prop} {Misread : Exchange → Cause → Prop}
    {manifests : List Manifest} {result : Except Failure Unit}
    (h : Collection.Deleting (fun manifest =>
      Ended world .azFailed (deletionCall azure.target manifest.digest) fun _ _ => True)
      manifests record result)
    (hasked : ∀ manifest ∈ manifests, Asked (deletionCall azure.target manifest.digest)) :
    Accountable world .azFailed Asked Misread record result := by
  induction h with
  | done => exact .of_succeeded (by simp) (by simp) ()
  | failed h => exact .of_blames Report.wraps_azFailed h.blames (hasked _ List.mem_cons_self)
  | next h hrest ih =>
      obtain ⟨hfirst, hothers⟩ := List.forall_mem_cons.mp hasked
      cases h with
      | gave h =>
          obtain ⟨hcall, hsucceeded, -⟩ := h
          refine (ih hothers).prepend ?_ ?_
          · rw [List.forall_mem_singleton, hcall]
            exact hfirst
          · simpa using hsucceeded

/-- A collection is accountable for how it ends. -/
theorem shows_accountable (world : World σ) (azure : AzureRegistry) (retention : Retention)
    (dryRun : Bool) :
    world.observer.Shows (collect (azure.registry world) retention dryRun) fun record result =>
      Accountable world .azFailed (azure.Asked retention record) azure.Misread record result := by
  intro state
  refine (Collection.showsAt_collect (passesOver world) (azure.ends_list world state)
    (azure.ends_delete world) retention dryRun).mono ?_
  rintro record result (⟨failure, hlisting, rfl⟩ |
    ⟨manifests, listing, deletions, rfl, hlisting, hrest⟩)
  · exact hlisting.accountable
  cases hlisting with
  | @listed exchange bytes _ h hbytes =>
      obtain ⟨hcall, hsucceeded, rfl⟩ := h
      have hasked (transcript : List Exchange) :
          ∀ other ∈ [exchange], azure.Asked retention transcript other.call := by
        rw [List.forall_mem_singleton, hcall]
        exact .listing
      have hlisted : ∀ other ∈ [exchange], other.Succeeded := by simpa using hsucceeded
      rcases hrest with ⟨-, rfl, rfl⟩ | ⟨-, inner, hdeleting, rfl⟩
      · exact .of_succeeded (hasked _) hlisted _
      · refine (Accountable.map (accountable_of_deleting hdeleting fun manifest hgarbage => ?_)
          _).prepend (hasked _) hlisted
        exact .deletion List.mem_cons_self hcall hbytes hgarbage

end AzureRegistry

/-! ### The whole -/

/-- A run that succeeds only if all programs do fails if one of them ended unsuccessfully. -/
lemma exists_failure_of_endedBadly {transcript : List Exchange} {result : Except Failure α}
    (h : ∀ value, result = .ok value → ∀ exchange ∈ transcript, exchange.Succeeded)
    (hbad : ∃ exchange ∈ transcript, exchange.EndedBadly) : ∃ failure, result = .error failure := by
  obtain ⟨exchange, hmem, hbad⟩ := hbad
  cases result with
  | error failure => exact ⟨failure, rfl⟩
  | ok value => exact absurd hbad (h value rfl exchange hmem).not_endedBadly

namespace Repository

variable (world : World σ) (repository : Repository)

/-- What the user is told about the runs of git behind the live tags. -/
lemma shows_liveTags_reported (schedules : Schedules) (settings : Settings)
    (roots : List RootFilter) :
    world.observer.Shows (liveTags (repository.history world) schedules settings roots)
      fun transcript result =>
        (∀ exchange ∈ transcript,
          Asked repository.path settings.trackedPath roots transcript exchange.call) ∧
        ((∃ exchange ∈ transcript, exchange.EndedBadly) → ∃ failure, result = .error failure) ∧
        ∀ failure, result = .error failure →
          Explained world .gitFailed (Asked repository.path settings.trackedPath roots transcript)
            (Misread repository.path settings.trackedPath settings.target) transcript failure := by
  refine (repository.shows_accounted world schedules settings roots).mono ?_
  rintro record result ⟨commits, trees, contents, rfl, hcourse⟩
  have hheard : HeardCourse settings roots (commits.map Accounted.heard)
      (trees.map Accounted.heard) (contents.map Accounted.heard) result := by
    simpa only [HeardCourse, Accounted.map_heard] using hcourse
  have hspoken : (commits ++ (trees ++ contents)).flatMap Accounted.exchanges =
      spoken (commits.map Accounted.heard) ++ (spoken (trees.map Accounted.heard) ++
        spoken (contents.map Accounted.heard)) := by
    simp only [Accounted.spoken_heard, List.flatMap_append]
  refine ⟨?_, exists_failure_of_endedBadly ?_, fun failure hfailure => ?_⟩
  · rw [hspoken]
    exact hheard.toStages.asked_call
  · rintro tags rfl
    rw [hspoken]
    exact LiveSet.Course.succeeded hheard
  · rw [hfailure] at hcourse
    refine hcourse.explained fun accounted hmem => ?_
    have hasked := hheard.toStages.asked accounted.heard (by
      simpa only [← List.map_append] using List.mem_map_of_mem hmem)
    rw [← hspoken] at hasked
    exact hasked

/-- What the user is told about the probe. -/
lemma shows_ensureValid_reported :
    world.observer.Shows (repository.ensureValid world) fun transcript result =>
      (∀ exchange ∈ transcript, exchange.call = probeCall repository.path) ∧
      ((∃ exchange ∈ transcript, exchange.EndedBadly) → ∃ failure, result = .error failure) ∧
      ∀ failure, result = .error failure →
        Report.ofFailure failure = Report.ofCause (.notARepository repository.path) := by
  refine (repository.shows_ensureValid world).mono ?_
  rintro record result hprobed
  refine ⟨fun exchange hmem => ?_, exists_failure_of_endedBadly ?_, fun failure hfailure => ?_⟩
  · exact List.mem_singleton.mp (hprobed.calls.subset (List.mem_map_of_mem hmem))
  · rintro value rfl
    exact (hprobed.of_ok rfl).succeeded
  · rw [hprobed.of_error failure hfailure]
    simp [Report.ofFailure, Report.ofCause, Failure.of, Failure.message, Failure.texts, Root.texts,
      Cause.texts]

end Repository

/-- Processes that ended unsuccessfully reach the user as they ended.  The live tags are then not
known, and a failure to find them shows such a process, unless something else went wrong; the
failure of a collection shows the very process.  Only the probe of the repository is replaced
by the remark that there is none. -/
theorem process_failures_reported (world : World σ) (state : σ) :
    (∀ (repository : Repository) (schedules : Schedules) (settings : Settings)
        (roots : List RootFilter),
      let outcome := liveTags (repository.history world) schedules settings roots state
      let transcript := world.transcript state outcome.events
      let Asked := Repository.Asked repository.path settings.trackedPath roots transcript
      let Misread := Repository.Misread repository.path settings.trackedPath settings.target
      (∀ exchange ∈ transcript, Asked exchange.call) ∧
      ((∃ exchange ∈ transcript, exchange.EndedBadly) →
        ∃ failure, outcome.result = .error failure) ∧
      ∀ failure, outcome.result = .error failure →
        Explained world .gitFailed Asked Misread transcript failure) ∧
    (∀ (azure : AzureRegistry) (retention : Retention) (dryRun : Bool),
      let outcome := collect (azure.registry world) retention dryRun state
      let transcript := world.transcript state outcome.events
      Accountable world .azFailed (azure.Asked retention transcript) azure.Misread transcript
        outcome.result) ∧
    ∀ repository : Repository,
      let outcome := repository.ensureValid world state
      let transcript := world.transcript state outcome.events
      (∀ exchange ∈ transcript, exchange.call = probeCall repository.path) ∧
      ((∃ exchange ∈ transcript, exchange.EndedBadly) →
        ∃ failure, outcome.result = .error failure) ∧
      ∀ failure, outcome.result = .error failure →
        Report.ofFailure failure = Report.ofCause (.notARepository repository.path) := by
  refine ⟨fun repository schedules settings roots => ?_, fun azure retention dryRun => ?_,
    fun repository => ?_⟩
  · obtain ⟨_, ⟨-, rfl⟩, hreported⟩ :=
      repository.shows_liveTags_reported world schedules settings roots state
    exact hreported
  · obtain ⟨_, ⟨-, rfl⟩, haccountable⟩ := azure.shows_accountable world retention dryRun state
    exact haccountable
  · obtain ⟨_, ⟨-, rfl⟩, hreported⟩ := repository.shows_ensureValid_reported world state
    exact hreported

/-! ### A repository that refuses -/

/-- A world in which git is asked in vain. -/
def refusingWorld : World Unit where
  environment := ⟨[]⟩
  existsAt _ := true
  contents _ := .error .noSuchFile
  isInstalled _ _ := true
  respond state _ := (state, ⟨some 128, [], Text.Utf8.bytesOf "fatal: bad revision", 0⟩)
  now := ⟨17700, 3600, 1, by decide, by decide, by decide, by decide, by decide⟩
  processors := 1

/-- A root filter that git refuses is reported with what git said. -/
theorem process_failures_reported_refused :
    let outcome := liveTags (Repository.history refusingWorld ⟨"repo"⟩) .inOrder
      (Settings.standard 10) [⟨["nowhere"]⟩] ()
    ∃ failure, outcome.result = .error failure ∧
      failure.root = .known (.gitFailed
        ⟨"git -C repo rev-list nowhere", some 128, "", "fatal: bad revision"⟩) ∧
      ∃ exchange ∈ refusingWorld.transcript () outcome.events,
        exchange.EndedBadly ∧ exchange.ReportedBy .gitFailed (Report.ofFailure failure) := by
  intro outcome
  obtain ⟨-, -, hexplained⟩ := (process_failures_reported refusingWorld ()).1 ⟨"repo"⟩
    .inOrder (Settings.standard 10) [⟨["nowhere"]⟩]
  have hresult : outcome.result = .error
      ⟨["Resolving commits for root 'nowhere'", "Failed to list commits for root 'nowhere'"],
        .known (.gitFailed
          ⟨"git -C repo rev-list nowhere", some 128, "", "fatal: bad revision"⟩)⟩ := by
    rfl
  refine ⟨_, hresult, rfl, ?_⟩
  rcases hexplained _ hresult with hreported | hhindered
  · exact hreported
  · cases hhindered with
    | misread hmem hsucceeded hmisread => cases hmisread

end ImageRetention
