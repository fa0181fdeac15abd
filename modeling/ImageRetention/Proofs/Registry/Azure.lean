import Mathlib.Tactic
import ImageRetention.Proofs.Collection.Driver
import ImageRetention.Proofs.History.Asking
import ImageRetention.Proofs.World.Call
import ImageRetention.Registry.Azure

/-!
The calls of a collection from an Azure registry.

* `AzureRegistry.listingCall`, `deletionCall`: the calls for the listing and for a deletion;
* `AzureRegistry.ends_list`, `AzureRegistry.ends_delete`: how both end, and what is to blame
  where they fail;
* `AzureRegistry.shows_list`, `AzureRegistry.shows_delete`: both are single calls;
* `AzureRegistry.Collecting`, `AzureRegistry.shows_collect`: a collection calls for the listing,
  and then for the deletion of its garbage, up to the first failure.
-/

namespace ImageRetention

open Observer (shows_log shows_pure shows_ofExcept forall_mem_dropLast_cons)

variable {σ : Type}

/-- The call that deletes the image with a digest. -/
def deletionCall (target : Target) (digest : String) : Call :=
  .run ⟨"az", ["acr", "repository", "delete", "--name", target.registry, "--image",
    target.repository ++ "@" ++ digest, "--yes"], []⟩

namespace AzureRegistry

/-- The call for the listing: a run of the Azure command line, unless a file is given. -/
def listingCall (azure : AzureRegistry) : Call :=
  match azure.listing with
  | some path => .read path
  | none => .run ⟨"az", ["acr", "repository", "show-manifests", "--name", azure.target.registry,
      "--repository", azure.target.repository, "--output", "json"], []⟩

/-! ### Single calls -/

/-- What the listing leaves behind: one call at most, and its output if it succeeds. -/
structure Listed (azure : AzureRegistry) (record : List Exchange)
    (result : Except Failure (List Manifest)) : Prop where
  calls : record.map Exchange.call <+: [azure.listingCall]
  of_ok : ∀ manifests, result = .ok manifests → ∃ exchange, record = [exchange] ∧
    exchange.call = azure.listingCall ∧ exchange.Succeeded ∧
    Manifest.ofBytes exchange.output = .ok manifests

/-- How the listing ends: with manifests, with a call that failed, or with something that is no
listing. -/
inductive ListingEnds (world : World σ) (azure : AzureRegistry) :
    List Exchange → Except Failure (List Manifest) → Prop
  | listed {exchange : Exchange} {bytes : List UInt8} {manifests : List Manifest}
      (h : exchange.Gave azure.listingCall bytes)
      (hbytes : Manifest.ofBytes bytes = .ok manifests) :
      ListingEnds world azure [exchange] (.ok manifests)
  | failed {record : List Exchange} {failure : Failure}
      (h : world.Blames .azFailed azure.listingCall record failure.root) :
      ListingEnds world azure record (.error failure)
  | undecoded {exchange : Exchange} {bytes : List UInt8} {source : String}
      {problem : Decoding.Problem} (h : exchange.Gave azure.listingCall bytes)
      (hbytes : Manifest.ofBytes bytes = .error problem) :
      ListingEnds world azure [exchange] (.error (.of (.badListing source problem.message)))

lemma ListingEnds.listedSo {world : World σ} {azure : AzureRegistry} {record : List Exchange}
    {result : Except Failure (List Manifest)} (h : ListingEnds world azure record result) :
    azure.Listed record result := by
  cases h with
  | @listed exchange bytes manifests h hbytes =>
      obtain ⟨hcall, hsucceeded, rfl⟩ := h
      refine ⟨by simp [hcall], ?_⟩
      rintro _ ⟨⟩
      exact ⟨exchange, rfl, hcall, hsucceeded, hbytes⟩
  | failed h => exact ⟨h.calls, by simp⟩
  | undecoded h => exact ⟨by simp [h.1], by simp⟩

/-- How reading a listing from a file ends. -/
lemma ends_read (world : World σ) (path : String) :
    world.observer.Shows (world.read path (.listingRead path))
      (Ended world .azFailed (.read path) fun bytes read => read = bytes) := by
  intro state
  refine ⟨[.read path (world.contents path)], ⟨rfl, rfl⟩, ?_⟩
  change Ended _ _ _ _ _ ((world.contents path).mapError Failure.ofIo)
  cases hcontents : world.contents path with
  | error problem => exact .failed (.unreadable rfl)
  | ok bytes =>
      have hgave : Exchange.Gave (.read path (.ok bytes)) (.read path) bytes :=
        ⟨rfl, ⟨bytes, rfl⟩, rfl⟩
      exact .gave hgave rfl

/-- A call for the listing whose output is decoded. -/
lemma ends_decoded {world : World σ} {azure : AzureRegistry} {run : Run σ (List UInt8)}
    (h : world.observer.Shows run
      (Ended world .azFailed azure.listingCall fun bytes output => output = bytes))
    (origin : String) (source : Log.Source) (message : List Manifest → String) :
    world.observer.Shows (run >>= fun bytes =>
      Run.ofExcept (Manifest.decode origin bytes) >>= fun manifests =>
        Run.log .debug source (message manifests) >>= fun _ => pure manifests)
      (ListingEnds world azure) := by
  refine (h.bind fun bytes => (shows_ofExcept (Manifest.decode origin bytes)).bind
    fun manifests => (shows_log _ _ _).after_silent (shows_pure manifests)).mono ?_
  rintro record result (⟨failure, hended, rfl⟩ |
    ⟨bytes, before, after, rfl, hended, ⟨failure, ⟨rfl, hdecode⟩, rfl⟩ |
      ⟨manifests, _, _, rfl, ⟨rfl, hdecode⟩, rfl, rfl⟩⟩)
  · exact .failed hended.blames
  · obtain ⟨cause, hcause, rfl⟩ := mapError_eq_error.mp hdecode.symm
    obtain ⟨problem, hproblem, rfl⟩ := mapError_eq_error.mp hcause
    cases hended with
    | gave h hgives =>
        subst hgives
        exact .undecoded h hproblem
  · cases hended with
    | gave h hgives =>
        subst hgives
        exact .listed h (mapError_eq_ok.mp (mapError_eq_ok.mp hdecode.symm))

theorem ends_list (world : World σ) (azure : AzureRegistry) :
    world.observer.Shows (azure.list world) (ListingEnds world azure) := by
  rw [list]
  cases hlisting : azure.listing with
  | some path =>
      have hcall : azure.listingCall = .read path := by rw [listingCall, hlisting]
      have hread : world.observer.Shows (world.read path (.listingRead path))
          (Ended world .azFailed azure.listingCall fun bytes read => read = bytes) := by
        rw [hcall]
        exact ends_read world path
      exact ends_decoded (Ended.shows_within hread _) path _ _
  | none =>
      have hcall : azure.listingCall = .run
          (Azure.showManifests azure.target.registry azure.target.repository).invocation := by
        rw [listingCall, hlisting]
        rfl
      have hexecute : world.observer.Shows
          ((Azure.showManifests azure.target.registry azure.target.repository).execute world)
          (Ended world .azFailed azure.listingCall fun bytes output => output = bytes) := by
        rw [hcall]
        exact Azure.ends_execute world rfl
      exact ends_decoded (Ended.shows_within hexecute _) _ _ _

theorem ends_delete (world : World σ) (azure : AzureRegistry) (manifest : Manifest) :
    world.observer.Shows (azure.delete world manifest)
      (Ended world .azFailed (deletionCall azure.target manifest.digest) fun _ _ => True) := by
  refine (shows_log _ _ _).after_silent
    (((Ended.shows_within (Azure.ends_execute world rfl) _).bind fun _ => shows_pure ()).mono ?_)
  rintro record result (⟨failure, hended, rfl⟩ | ⟨bytes, before, after, rfl, hended, rfl, rfl⟩)
  · exact .failed hended.blames
  · cases hended with
    | gave h => exact .gave h trivial

theorem shows_list (world : World σ) (azure : AzureRegistry) :
    world.observer.Shows (azure.list world) azure.Listed :=
  (ends_list world azure).mono fun _ _ hends => hends.listedSo

theorem shows_delete (world : World σ) (azure : AzureRegistry) (manifest : Manifest) :
    world.observer.Shows (azure.delete world manifest)
      (Called (deletionCall azure.target manifest.digest) fun _ _ => True) :=
  (ends_delete world azure manifest).mono fun _ _ hended => hended.called

/-! ### The collection -/

/-- What a collection leaves behind: one call at most for the listing, and then the calls that
delete the garbage of the listing in order, up to the first that fails. -/
structure Collecting (azure : AzureRegistry) (retention : Retention) (dryRun : Bool)
    (listing deletions : List Exchange) : Prop where
  listing_calls : listing.map Exchange.call <+: [azure.listingCall]
  deletions_stop : ∀ exchange ∈ deletions.dropLast, exchange.Succeeded
  deletions_calls : deletions ≠ [] → dryRun = false ∧ ∃ exchange manifests,
    listing = [exchange] ∧ exchange.call = azure.listingCall ∧ exchange.Succeeded ∧
    Manifest.ofBytes exchange.output = .ok manifests ∧
    deletions.map Exchange.call <+:
      (retention.garbage manifests).map fun manifest => deletionCall azure.target manifest.digest

open Collection (Deleting PassesOver)

lemma passesOver (world : World σ) : PassesOver world.observer :=
  ⟨fun _ _ => ⟨rfl, rfl⟩, fun _ _ => ⟨rfl, rfl⟩, fun _ _ => ⟨rfl, rfl⟩⟩

/-- Deletions are called for in order, and none after one that fails. -/
lemma calls_of_deleting {target : Target} {manifests : List Manifest} {record : List Exchange}
    {result : Except Failure Unit}
    (h : Deleting (fun manifest => Called (deletionCall target manifest.digest) fun _ _ => True)
      manifests record result) :
    record.map Exchange.call <+:
        manifests.map (fun manifest => deletionCall target manifest.digest) ∧
      ∀ exchange ∈ record.dropLast, exchange.Succeeded := by
  induction h with
  | done => simp
  | @failed manifest rest record failure h =>
      have hlength : record.length ≤ 1 := by simpa using h.calls.length_le
      have hnone : record.dropLast = [] := by
        rw [← List.length_eq_zero_iff, List.length_dropLast]
        omega
      refine ⟨h.calls.trans ?_, by simp [hnone]⟩
      rw [List.map_cons]
      exact List.prefix_append [_] _
  | next h hrest ih =>
      obtain ⟨exchange, bytes, rfl, ⟨hcall, hsucceeded, -⟩, -⟩ := h.of_ok () rfl
      refine ⟨by simpa [hcall] using ih.1, ?_⟩
      exact forall_mem_dropLast_cons hsucceeded ih.2

/-- A collection calls for the listing first.  Only if that succeeds, and only if it is no dry
run, it calls for the deletion of its garbage. -/
theorem shows_collect (world : World σ) (azure : AzureRegistry) (retention : Retention)
    (dryRun : Bool) :
    world.observer.Shows (collect (azure.registry world) retention dryRun) fun record _ =>
      ∃ listing deletions, record = listing ++ deletions ∧
        azure.Collecting retention dryRun listing deletions := by
  intro state
  refine (Collection.showsAt_collect (passesOver world) (azure.shows_list world state)
    (shows_delete world azure) retention dryRun).mono ?_
  rintro record result (⟨failure, hlisted, rfl⟩ |
    ⟨manifests, listing, deletions, rfl, hlisted, ⟨-, rfl, -⟩ | ⟨hdry, inner, hdeleting, -⟩⟩)
  · exact ⟨record, [], by simp, hlisted.calls, by simp, by simp⟩
  · exact ⟨listing, [], rfl, hlisted.calls, by simp, by simp⟩
  · obtain ⟨hcalls, hstop⟩ := calls_of_deleting hdeleting
    obtain ⟨exchange, rfl, hcall, hsucceeded, hbytes⟩ := hlisted.of_ok manifests rfl
    exact ⟨[exchange], deletions, rfl, hlisted.calls, hstop, fun _ =>
      ⟨hdry, exchange, manifests, rfl, hcall, hsucceeded, hbytes, hcalls⟩⟩

end AzureRegistry

end ImageRetention
