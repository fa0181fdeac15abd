import Mathlib.Tactic
import ImageRetention.Proofs.Collection.Digests
import ImageRetention.Proofs.Sweep.Anatomy

/-!
What a deletion presupposes.

* `Invocation.IsDeletion`: a run of the Azure command line that deletes an image;
* `NamedInHistory`: a reference that is in the history which git tells of;
* `Sweeping.exists_collecting`: a sweep that deletes has come to its collection;
* `deletion_justified`: whatever else happens, an image is deleted only for an entry of the
  listing that is old enough, and none of whose tags is named in the history.
-/

namespace ImageRetention

open Heard (spoken)
open LiveSet (revListCall lsTreeCall showCall)

/-- A run of the Azure command line that deletes an image. -/
def Invocation.IsDeletion (invocation : Invocation) : Prop :=
  invocation.program = "az" ∧
    ∃ more, invocation.arguments = "acr" :: "repository" :: "delete" :: more

/-- A reference is in the history of the repository at a path, as git tells of it: in a revision
that is at the tracked path in a commit that some root filter selects. -/
def NamedInHistory (answer : List String → Response) (path tracked : String)
    (roots : List RootFilter) (reference : ImageReference) : Prop :=
  ∃ root ∈ roots, ∃ (commit : CommitId) (object : ObjectId),
    (∃ line ∈ Text.lines (Text.Utf8.textOf
        (answer ("-C" :: path :: "rev-list" :: root.args)).stdout).toList,
      CommitList.Names line commit) ∧
    (∃ line ∈ Text.lines (Text.Utf8.textOf
        (answer ["-C", path, "ls-tree", commit.text, "--", tracked]).stdout).toList,
      TreeListing.Names line object) ∧
    reference ∈ Image.scan (answer ["-C", path, "show", object.text]).stdout

section Deletions

variable {σ : Type} {world : World σ} {commandLine : CommandLine} {minAge : Int}
  {settings : Settings} {path : String}

/-! ### Deletions among the calls -/

lemma Query.exists_gitCall (path : String) (query : Query) :
    ∃ arguments, query.call path = gitCall path arguments := by
  cases query <;> exact ⟨_, rfl⟩

lemma Heard.exists_gitCall {record : List (Heard path)} {exchange : Exchange}
    (h : exchange ∈ spoken record) : ∃ arguments, exchange.call = gitCall path arguments := by
  obtain ⟨heard, -, -, hcall⟩ := Heard.exists_heard h
  rw [hcall]
  exact Query.exists_gitCall path heard.asking.query

lemma Probed.exists_gitCall {probe : List Exchange} {result : Except Failure Unit}
    (h : Probed world path probe result) {exchange : Exchange} (hmem : exchange ∈ probe) :
    ∃ arguments, exchange.call = gitCall path arguments :=
  ⟨_, List.mem_singleton.mp (h.calls.subset (List.mem_map_of_mem hmem))⟩

lemma not_isDeletion_gitCall {invocation : Invocation}
    (h : ∃ arguments, Call.run invocation = gitCall path arguments) : ¬invocation.IsDeletion := by
  obtain ⟨arguments, hcall⟩ := h
  rintro ⟨hprogram, -⟩
  cases hcall
  simp at hprogram

lemma not_isDeletion_listingCall {azure : AzureRegistry} {invocation : Invocation}
    (h : Call.run invocation = azure.listingCall) : ¬invocation.IsDeletion := by
  rintro ⟨-, more, harguments⟩
  rw [AzureRegistry.listingCall] at h
  split at h
  · cases h
  · cases h
    simp at harguments

/-- A sweep that deletes has come to its collection, and deletes in it. -/
lemma Sweeping.exists_collecting {record : List Exchange}
    (h : Sweeping world commandLine minAge settings path record) {exchange : Exchange}
    (hmem : exchange ∈ record) {invocation : Invocation} (hcall : exchange.call = .run invocation)
    (hdeletion : invocation.IsDeletion) :
    ∃ (commits trees contents : List (Heard path)) (live : SortedSet ImageTag)
      (listing deletions : List Exchange),
      spoken commits ⊆ record ∧ spoken trees ⊆ record ∧ spoken contents ⊆ record ∧
      listing ⊆ record ∧ exchange ∈ deletions ∧
      HeardCourse settings commandLine.rootFilters commits trees contents (.ok live) ∧
      AzureRegistry.Collecting ⟨settings.target, commandLine.manifests⟩
        ⟨live, minAge, world.now⟩ commandLine.dryRun listing deletions := by
  have hprobe {probe : List Exchange} {result : Except Failure Unit}
      (hprobed : Probed world path probe result) : exchange ∉ probe := fun hin =>
    not_isDeletion_gitCall (hcall ▸ hprobed.exists_gitCall hin) hdeletion
  have hspoken (heard : List (Heard path)) : exchange ∉ spoken heard := fun hin =>
    not_isDeletion_gitCall (hcall ▸ Heard.exists_gitCall hin) hdeletion
  cases h with
  | probed hprobed => exact absurd hmem (hprobe hprobed)
  | @resolved probe commits trees contents found hprobed hcourse =>
      simp only [List.mem_append, hprobe hprobed, hspoken, or_self] at hmem
  | @collected probe commits trees contents live listing deletions hprobed hcourse hlive
      hcollecting =>
      simp only [List.mem_append, hprobe hprobed, hspoken, false_or] at hmem
      have hlisting : exchange ∉ listing := fun hin =>
        not_isDeletion_listingCall (hcall ▸ List.mem_singleton.mp
          (hcollecting.listing_calls.subset (List.mem_map_of_mem hin))) hdeletion
      refine ⟨commits, trees, contents, live, listing, deletions, ?_, ?_, ?_, ?_,
        hmem.resolve_left hlisting, hcourse, hcollecting⟩ <;>
      · intro other hother
        simp [hother]

/-! ### References that keep a tag alive -/

/-- What the runs of git in some exchanges printed is what git answers to their arguments. -/
def PrintedBy (answer : List String → Response) (path : String) (record : List Exchange) : Prop :=
  ∀ exchange ∈ record, ∀ arguments, exchange.call = gitCall path arguments →
    exchange.output = (answer ("-C" :: path :: arguments)).stdout

/-- If the answers of git depend on nothing but the arguments, then those are the answers in
every transcript. -/
lemma printedBy_transcript {answer : List String → Response}
    (hgit : ∀ before arguments,
      (world.respond before ⟨"git", arguments, []⟩).2 = answer arguments)
    (path : String) (state : σ) (events : List Event) :
    PrintedBy answer path (world.transcript state events) := by
  intro exchange hmem arguments hcall
  cases exchange with
  | read other contents => cases hcall
  | ran invocation response =>
      obtain rfl : invocation = ⟨"git", "-C" :: path :: arguments, []⟩ := Call.run.inj hcall
      obtain ⟨before, hresponse⟩ := world.exists_respond hmem
      rw [Exchange.output, ← hresponse, hgit]

/-- If live tags were resolved then every tag that is named in the history is among them. -/
lemma LiveSet.Course.mem_of_namedInHistory {answer : List String → Response}
    {commits trees contents : List (Heard path)} {live : SortedSet ImageTag}
    (h : HeardCourse settings commandLine.rootFilters commits trees contents (.ok live))
    (hcommits : PrintedBy answer path (spoken commits))
    (htrees : PrintedBy answer path (spoken trees))
    (hcontents : PrintedBy answer path (spoken contents)) {reference : ImageReference}
    (hreference :
      NamedInHistory answer path settings.trackedPath commandLine.rootFilters reference)
    (hprecedes : settings.target.Precedes reference) {tag : ImageTag}
    (hnames : reference.Names tag) : tag ∈ live := by
  obtain ⟨hresolved, hlocated, hextracted, hselected⟩ := h.of_ok live rfl
  obtain ⟨root, hroot, commit, object, hcommit, hobject, hscanned⟩ := hreference
  -- Each of the three calls was made, and printed what git answers to it.
  obtain ⟨first, hfirst, hfirstCall⟩ :
      ∃ exchange ∈ spoken commits, exchange.call = revListCall path root := by
    rw [← List.mem_map, (hresolved.completed h.toStages).calls_eq]
    exact List.mem_map_of_mem hroot
  have hselects : first.Selects commit := by
    rw [Exchange.Selects, hcommits first hfirst _ hfirstCall]
    exact hcommit
  obtain ⟨second, hsecond, hsecondCall⟩ :=
    (hlocated.completed h.toStages hresolved).2 first hfirst commit hselects
  have hlists : second.Lists object := by
    rw [Exchange.Lists, htrees second hsecond _ hsecondCall]
    exact hobject
  obtain ⟨third, hthird, hthirdCall⟩ :=
    (hextracted.completed h.toStages hlocated).2 second hsecond object hlists
  have hrefers : third.Refers reference := by
    rw [Exchange.Refers, hcontents third hthird _ hthirdCall]
    exact hscanned
  exact (hselected.mem_iff_refers h.toStages hextracted tag).mpr
    ⟨third, hthird, reference, hrefers, hprecedes, hnames⟩

/-! ### What a deletion presupposes -/

/-- A sweep deletes an image only if it is no dry run, and only for an entry of the listing that
it obtained which is older than the minimum age and none of whose tags is named in the history
by a reference that starts like those to the repository.  All this holds for every deletion,
whatever fails before or after it. -/
theorem deletion_justified {answer : List String → Response}
    (hgit : ∀ before arguments,
      (world.respond before ⟨"git", arguments, []⟩).2 = answer arguments)
    {schedules : Schedules} {state : σ} {invocation : Invocation}
    (hmem : .invoked invocation ∈ (sweep world schedules commandLine state).events)
    (hdeletion : invocation.IsDeletion) :
    commandLine.dryRun = false ∧ ∃ settings path listing entry,
      (effectiveSettings world commandLine state).result = .ok settings ∧
      Path.resolve world commandLine.repoPath = .ok path ∧
      (∃ exchange ∈ world.transcript state (sweep world schedules commandLine state).events,
        exchange.call = AzureRegistry.listingCall ⟨settings.target, commandLine.manifests⟩ ∧
        exchange.Succeeded ∧ Manifest.ofBytes exchange.output = .ok listing) ∧
      entry ∈ listing ∧
      invocation = ⟨"az", ["acr", "repository", "delete", "--name", settings.registry, "--image",
        settings.repository ++ "@" ++ entry.digest, "--yes"], []⟩ ∧
      CommandLine.nanosOfDays commandLine.minAgeDays < world.now.elapsed entry.timestamp ∧
      ∀ reference,
        NamedInHistory answer path settings.trackedPath commandLine.rootFilters reference →
        settings.target.Precedes reference →
        ∀ tag, reference.Names tag → tag.text ∉ entry.tags := by
  obtain ⟨record, hfits, hrecord⟩ := showsAt_sweep world schedules commandLine state
  obtain rfl := hfits.2
  obtain ⟨exchange, hexchange, hcall⟩ := world.mem_transcript_of_invoked state hmem
  rcases hrecord with hnone | ⟨minAge, settings, path, haccepted, hsweeping⟩
  · rw [hnone] at hexchange
    cases hexchange
  obtain ⟨commits, trees, contents, live, listing, deletions, hcommits, htrees, hcontents,
    hlisting, hdeleted, hcourse, hcollecting⟩ :=
    hsweeping.exists_collecting hexchange hcall hdeletion
  obtain ⟨hdry, source, manifests, rfl, hsource, hsucceeded, hbytes, hcalls⟩ :=
    hcollecting.deletions_calls (List.ne_nil_of_mem hdeleted)
  obtain ⟨entry, hgarbage, hentry⟩ :=
    List.mem_map.mp (hcalls.subset (List.mem_map_of_mem hdeleted))
  obtain ⟨hlisted, hunprotected⟩ := Retention.mem_garbage_iff.mp hgarbage
  obtain ⟨hnolive, hold⟩ := not_or.mp hunprotected
  have hprinted := printedBy_transcript hgit path state
    (sweep world schedules commandLine state).events
  refine ⟨hdry, settings, path, manifests, entry, haccepted.settings_eq, haccepted.path_eq,
    ⟨source, hlisting List.mem_cons_self, hsource, hsucceeded, hbytes⟩, hlisted, ?_, ?_, ?_⟩
  · exact Call.run.inj (hcall.symm.trans hentry.symm)
  · obtain ⟨-, -, rfl⟩ := CommandLine.minAge_eq_ok_iff.mp haccepted.minAge_eq
    exact not_le.mp hold
  · intro reference hreference hprecedes tag hnames htag
    refine hnolive ⟨tag.text, htag, ?_⟩
    exact hcourse.mem_of_namedInHistory (fun other hother => hprinted other (hcommits hother))
      (fun other hother => hprinted other (htrees hother))
      (fun other hother => hprinted other (hcontents hother)) hreference hprecedes hnames

end Deletions

/-! ### A sweep that deletes -/

namespace Sample

/-- A program that ends well at once, having printed a text. -/
def printing (text : String) : Response := ⟨some 0, Text.Utf8.bytesOf text, [], 0⟩

/-- A history of one commit, in which one image is named. -/
def answer (arguments : List String) : Response :=
  match arguments.drop 2 with
  | "rev-list" :: _ => printing "c1\n"
  | "ls-tree" :: _ => printing "100644 blob b1\t.travis.yml\n"
  | "show" :: _ => printing "CI_BUILD_CONTAINER=bondciimages.azurecr.io/ubuntu-1604:live\n"
  | _ => printing ""

/-- A listing of two old images, one of which has the tag that is named in the history. -/
def listing : String :=
  "[\x7b\"digest\":\"a\",\"tags\":[\"live\"],\"timestamp\":\"2018-01-01T00:00:00Z\"\x7d,"
    ++ "\x7b\"digest\":\"b\",\"tags\":[\"old\"],\"timestamp\":\"2018-01-01T00:00:00Z\"\x7d]"

/-- A world with this history and this listing, on the first of June. -/
def world : World Unit where
  environment := ⟨[]⟩
  existsAt path := path == "repo"
  contents _ := .error .noSuchFile
  isInstalled _ _ := true
  respond state invocation :=
    if invocation.program = "git" then (state, answer invocation.arguments)
    else if "show-manifests" ∈ invocation.arguments then (state, printing listing)
    else (state, printing "")
  now := ⟨17683, 0, 0, by decide, by decide, by decide, by decide, by decide⟩
  processors := 1

/-- A command line that deletes what is older than a week. -/
def commandLine : CommandLine :=
  ⟨"repo", [⟨["master"]⟩], 7, none, .info, none, {}, false⟩

/-- The deletion of the image without a live tag. -/
def deletion : Invocation :=
  ⟨"az", ["acr", "repository", "delete", "--name", "bondciimages", "--image", "ubuntu-1604@b",
    "--yes"], []⟩

end Sample

/-- The sweep of this world deletes an image, for an entry that is older than a week. -/
theorem deletion_justified_sample :
    (∀ before arguments,
      (Sample.world.respond before ⟨"git", arguments, []⟩).2 = Sample.answer arguments) ∧
    .invoked Sample.deletion ∈ (sweep Sample.world .inOrder Sample.commandLine ()).events ∧
    Sample.deletion.IsDeletion ∧ ∃ (settings : Settings) (entry : Manifest),
      settings.repository ++ "@" ++ entry.digest = "ubuntu-1604@b" ∧
      CommandLine.nanosOfDays 7 < Sample.world.now.elapsed entry.timestamp := by
  have hgit : ∀ before arguments,
      (Sample.world.respond before ⟨"git", arguments, []⟩).2 = Sample.answer arguments :=
    fun _ _ => rfl
  have hmem : .invoked Sample.deletion ∈
      (sweep Sample.world .inOrder Sample.commandLine ()).events := by
    decide +kernel
  have hdeletion : Sample.deletion.IsDeletion := ⟨rfl, _, rfl⟩
  obtain ⟨-, settings, path, manifests, entry, -, -, -, -, hinvocation, hold, -⟩ :=
    deletion_justified hgit hmem hdeletion
  refine ⟨hgit, hmem, hdeletion, settings, entry, ?_, hold⟩
  simp only [Sample.deletion, Invocation.mk.injEq, List.cons.injEq] at hinvocation
  exact hinvocation.2.1.2.2.2.2.2.2.1.symm

end ImageRetention
