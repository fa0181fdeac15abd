import Mathlib.Tactic
import ImageRetention.History.Repository
import ImageRetention.Proofs.History.Asking
import ImageRetention.Proofs.History.Listing
import ImageRetention.Proofs.LiveSet.Pool
import ImageRetention.Proofs.World.Call

/-!
Questions to a repository on disk, with the runs of git behind them.

* `Query.call`: the run of git that a question is;
* `Heard`: a question with its answer and what was exchanged for it;
* `Accounted`: the same, and what git is to blame for if there is no answer;
* `Repository.observer`, `Repository.hears`: the observer who writes down the questions while
  the transcript is that of the accounts of them;
* `Heard.completed`, `Heard.calls_prefix_queries`: the calls for some questions are those that the
  questions are, up to a last one that may not come about;
* `Asking.Reads`, `Heard.yields_iff`: what is taken from the answers is what git printed.
-/

namespace ImageRetention

/-! ### Questions as calls -/

/-- A run of git in the repository at a path. -/
def gitCall (path : String) (arguments : List String) : Call :=
  .run ⟨"git", "-C" :: path :: arguments, []⟩

/-- The run of git that a question is. -/
def Query.call (path : String) : Query → Call
  | .commits root => gitCall path ("rev-list" :: root.args)
  | .tree commit tracked => gitCall path ["ls-tree", commit.text, "--", tracked]
  | .content object => gitCall path ["show", object.text]

namespace Asking

/-- Whether there is an answer. -/
def outcome : Asking → Except Failure Unit
  | commits _ answer => answer.map fun _ => ()
  | tree _ _ answer => answer.map fun _ => ()
  | content _ answer => answer.map fun _ => ()

/-- The answer is what some bytes say. -/
def Tells : Asking → List UInt8 → Prop
  | commits _ answer, bytes => answer = .ok (Text.Utf8.textOf bytes)
  | tree _ _ answer, bytes => answer = .ok (Text.Utf8.textOf bytes)
  | content _ answer, bytes => answer = .ok bytes

end Asking

/-- A question about the repository at a path, with what was exchanged for its answer. -/
structure Heard (path : String) where
  asking : Asking
  exchanges : List Exchange
  called : Called (asking.query.call path) (fun bytes _ => asking.Tells bytes) exchanges
    asking.outcome

/-- The exchanges for some questions, in order. -/
def Heard.spoken {path : String} (record : List (Heard path)) : List Exchange :=
  record.flatMap Heard.exchanges

/-- A question about the repository at a path, with what was exchanged for it, and with what git
is to blame for if there is no answer. -/
structure Accounted {σ : Type} (world : World σ) (path : String) where
  asking : Asking
  exchanges : List Exchange
  ended : Ended world .gitFailed (asking.query.call path) (fun bytes _ => asking.Tells bytes)
    exchanges asking.outcome

/-- The question without the blame. -/
def Accounted.heard {σ : Type} {world : World σ} {path : String}
    (accounted : Accounted world path) : Heard path :=
  ⟨accounted.asking, accounted.exchanges, accounted.ended.called⟩

/-! ### The observer -/

namespace Repository

open Observer (shows_emit)

variable {σ α : Type}

/-- The observer who writes down the questions about the repository at a path, while the
transcript is that of the accounts that are kept of them. -/
def observer (world : World σ) (path : String) : Observer σ Asking where
  Fits first events last record := ∃ accounts : List (Accounted world path),
    accounts.map Accounted.asking = record ∧
      world.observer.Fits first events last (accounts.flatMap Accounted.exchanges)
  nil state := ⟨[], rfl, world.observer.nil state⟩
  append := by
    rintro first middle last events more record further ⟨accounts, rfl, hfirst⟩
      ⟨others, rfl, hlast⟩
    refine ⟨accounts ++ others, List.map_append, ?_⟩
    rw [List.flatMap_append]
    exact world.observer.append hfirst hlast
  logged state entry := ⟨[], rfl, world.observer.logged state entry⟩

/-- A question is a single call. -/
lemma ends_execute (world : World σ) {git : Git} (hlimit : git.limit = some Command.standardLimit)
    (take : Git.Output → α) (query : Query) (context : String) :
    world.observer.Shows
      (Run.emit (.queried query) >>= fun _ => (take <$> git.execute world).within context)
      (Ended world .gitFailed (.run git.invocation)
        fun bytes value => ∃ output, output.stdout = bytes ∧ take output = value) := by
  have hqueried : world.observer.Ignores (.queried query) := fun state => ⟨rfl, rfl⟩
  refine (shows_emit hqueried).after_silent (Ended.shows_within ?_ context)
  refine ((Git.ends_execute world hlimit).map take).mono ?_
  rintro record result ⟨inner, hended, rfl⟩
  exact hended.map fun bytes output _ houtput => ⟨output, houtput, rfl⟩

/-- A run that is a single call for a question is written down as that question. -/
lemma shows_asking {world : World σ} {path : String} {run : Run σ α} {invocation : Invocation}
    {take : Git.Output → α} {query : Query} (asking : Except Failure α → Asking)
    (hcall : query.call path = .run invocation)
    (hquery : ∀ answer, (asking answer).query = query)
    (houtcome : ∀ answer, (asking answer).outcome = answer.map fun _ => ())
    (htells : ∀ output, (asking (.ok (take output))).Tells output.stdout)
    (h : world.observer.Shows run (Ended world .gitFailed (.run invocation)
      fun bytes value => ∃ output, output.stdout = bytes ∧ take output = value)) :
    (observer world path).Shows run fun record result => record = [asking result] := by
  intro state
  obtain ⟨record, hfits, hended⟩ := h state
  have haccounted : Ended world .gitFailed ((asking (run state).result).query.call path)
      (fun bytes _ => (asking (run state).result).Tells bytes) record
      (asking (run state).result).outcome := by
    rw [hquery, hcall, houtcome]
    refine hended.map ?_
    rintro _ value hvalue ⟨output, rfl, rfl⟩
    rw [hvalue]
    exact htells output
  refine ⟨_, ⟨[⟨_, record, haccounted⟩], rfl, ?_⟩, rfl⟩
  simpa using hfits

theorem hears (world : World σ) (repository : Repository) :
    (observer world repository.path).Hears (repository.history world) where
  commits root := shows_asking (.commits root) rfl (fun _ => rfl) (fun _ => rfl) (fun _ => rfl)
    (ends_execute world rfl Git.Output.text (.commits root) _)
  tree commit path := shows_asking (.tree commit path) rfl (fun _ => rfl) (fun _ => rfl)
    (fun _ => rfl) (ends_execute world rfl Git.Output.text (.tree commit path) _)
  content object := shows_asking (.content object) rfl (fun _ => rfl) (fun _ => rfl)
    (fun _ => rfl) (ends_execute world rfl Git.Output.stdout (.content object) _)

end Repository

/-! ### What is printed -/

namespace Exchange

/-- The output has a line that names a commit. -/
def Selects (exchange : Exchange) (commit : CommitId) : Prop :=
  ∃ line ∈ Text.lines (Text.Utf8.textOf exchange.output).toList, CommitList.Names line commit

/-- The output has a line that names a revision of a file. -/
def Lists (exchange : Exchange) (object : ObjectId) : Prop :=
  ∃ line ∈ Text.lines (Text.Utf8.textOf exchange.output).toList, TreeListing.Names line object

/-- The output holds a reference. -/
def Refers (exchange : Exchange) (reference : ImageReference) : Prop :=
  reference ∈ Image.scan exchange.output

end Exchange

/-! ### What is taken from an answer -/

namespace Asking

/-- What is taken from an answer is what the output behind it holds. -/
def Reads {β : Type} (take : Asking → Except Failure (List β)) (Holds : Exchange → β → Prop)
    (asking : Asking) : Prop :=
  ∀ found, take asking = .ok found → asking.outcome = .ok () ∧
    ∀ exchange : Exchange, asking.Tells exchange.output → ∀ b, b ∈ found ↔ Holds exchange b

lemma reads_selected {asking : Asking} {root : RootFilter} (h : asking.query = .commits root) :
    asking.Reads selected Exchange.Selects := by
  intro found hfound
  rcases asking with ⟨_, failure | output⟩ | _ | _
  · cases hfound
  · refine ⟨rfl, fun exchange htells commit => ?_⟩
    obtain rfl : output = Text.Utf8.textOf exchange.output := Except.ok.inj htells
    obtain rfl : CommitList.commits _ = found := Except.ok.inj hfound
    exact CommitList.mem_commits_iff
  all_goals cases h

lemma reads_located {asking : Asking} {commit : CommitId} {path : String}
    (h : asking.query = .tree commit path) : asking.Reads located Exchange.Lists := by
  intro found hfound
  rcases asking with _ | ⟨_, _, failure | output⟩ | _
  · cases h
  · cases hfound
  · refine ⟨rfl, fun exchange htells object => ?_⟩
    obtain rfl : output = Text.Utf8.textOf exchange.output := Except.ok.inj htells
    have hobjects : TreeListing.objects _ = .ok found := mapError_eq_ok.mp hfound
    exact (TreeListing.objectsOf_eq_ok hobjects).2 object
  · cases h

lemma reads_found {asking : Asking} {object : ObjectId} (h : asking.query = .content object) :
    asking.Reads found Exchange.Refers := by
  intro references hreferences
  rcases asking with _ | _ | ⟨_, failure | bytes⟩
  · cases h
  · cases h
  · cases hreferences
  · refine ⟨rfl, fun exchange htells reference => ?_⟩
    obtain rfl : bytes = exchange.output := Except.ok.inj htells
    obtain rfl : (Image.scan _).toList = references := Except.ok.inj hreferences
    rfl

end Asking

namespace Heard

variable {path : String} {heard : Heard path} {record : List (Heard path)}

/-! ### The calls for some questions -/

/-- There is one exchange for a question with an answer, and the answer is what it gave. -/
lemma exists_exchange (h : heard.asking.outcome = .ok ()) : ∃ exchange,
    heard.exchanges = [exchange] ∧ exchange.call = heard.asking.query.call path ∧
      exchange.Succeeded ∧ heard.asking.Tells exchange.output := by
  obtain ⟨exchange, bytes, hexchanges, ⟨hcall, hsucceeded, rfl⟩, htells⟩ := heard.called.of_ok () h
  exact ⟨exchange, hexchanges, hcall, hsucceeded, htells⟩

/-- An exchange that succeeded is that of a question with an answer. -/
lemma tells_of_succeeded {exchange : Exchange} (hmem : exchange ∈ heard.exchanges)
    (hsucceeded : exchange.Succeeded) : heard.asking.Tells exchange.output := by
  cases houtcome : heard.asking.outcome with
  | error failure => exact absurd hsucceeded (heard.called.of_error failure houtcome exchange hmem)
  | ok value =>
      obtain ⟨other, hexchanges, -, -, htells⟩ := exists_exchange houtcome
      rw [hexchanges, List.mem_singleton] at hmem
      exact hmem ▸ htells

/-- If all questions have answers then the calls are those that the questions are, and all
succeeded. -/
lemma completed (h : ∀ heard ∈ record, heard.asking.outcome = .ok ()) :
    Completed (record.map fun heard => heard.asking.query.call path) (spoken record) := by
  induction record with
  | nil => exact ⟨rfl, by simp [spoken]⟩
  | cons first rest ih =>
      obtain ⟨hfirst, hrest⟩ := List.forall_mem_cons.mp h
      obtain ⟨exchange, hexchanges, hcall, hgood, -⟩ := exists_exchange hfirst
      have hspoken : spoken (first :: rest) = exchange :: spoken rest := by
        simp [spoken, hexchanges]
      rw [hspoken]
      exact ⟨by simp [hcall, (ih hrest).calls_eq],
        List.forall_mem_cons.mpr ⟨hgood, (ih hrest).succeeded⟩⟩

/-- If all questions have answers then each of them is a call that was made. -/
lemma exists_call (h : ∀ heard ∈ record, heard.asking.outcome = .ok ()) {query : Query}
    (hquery : query ∈ (record.map Heard.asking).map Asking.query) :
    ∃ exchange ∈ spoken record, exchange.call = query.call path := by
  rw [← List.mem_map, (completed h).calls_eq]
  simpa using List.mem_map_of_mem hquery

/-- If all questions but the last one have answers then the calls are those that the questions
are, but for the last one, which may not come about. -/
lemma calls_prefix_queries (h : ∀ heard ∈ record.dropLast, heard.asking.outcome = .ok ()) :
    (spoken record).map Exchange.call <+:
      record.map (fun heard => heard.asking.query.call path) := by
  rcases List.eq_nil_or_concat record with rfl | ⟨before, last, rfl⟩
  · simp [spoken]
  · rw [List.concat_eq_append, List.dropLast_concat] at h
    have hspoken : spoken (before ++ [last]) = spoken before ++ last.exchanges := by
      simp [spoken]
    rw [List.concat_eq_append, hspoken, List.map_append, List.map_append, (completed h).calls_eq]
    exact (List.prefix_append_right_inj _).mpr last.called.calls

/-- Every call is that of a question. -/
lemma exists_heard {exchange : Exchange} (h : exchange ∈ spoken record) :
    ∃ heard ∈ record, exchange ∈ heard.exchanges ∧
      exchange.call = heard.asking.query.call path := by
  obtain ⟨heard, hheard, hmem⟩ := List.mem_flatMap.mp h
  have hcall := heard.called.calls.subset (List.mem_map_of_mem hmem)
  exact ⟨heard, hheard, hmem, List.mem_singleton.mp hcall⟩

/-! ### What is taken from the answers -/

section Reads

variable {β : Type} {take : Asking → Except Failure (List β)} {Holds : Exchange → β → Prop}

/-- If something is taken from all answers then all questions have answers. -/
lemma answered (h : ∀ heard ∈ record, heard.asking.Reads take Holds)
    (hnone : NoneFails ((record.map Heard.asking).map take)) :
    ∀ heard ∈ record, heard.asking.outcome = .ok () := by
  intro heard hheard
  obtain ⟨found, hfound⟩ := hnone _ (List.mem_map_of_mem (List.mem_map_of_mem hheard))
  exact (h heard hheard found hfound).1

/-- If something is taken from all answers then it is what one of the outputs holds. -/
lemma yields_iff (h : ∀ heard ∈ record, heard.asking.Reads take Holds)
    (hnone : NoneFails ((record.map Heard.asking).map take)) (b : β) :
    Yields ((record.map Heard.asking).map take) b ↔
      ∃ exchange ∈ spoken record, Holds exchange b := by
  constructor
  · rintro ⟨found, hfound, hmem⟩
    obtain ⟨asking, hasking, htake⟩ := List.mem_map.mp hfound
    obtain ⟨heard, hheard, rfl⟩ := List.mem_map.mp hasking
    obtain ⟨hok, hholds⟩ := h heard hheard found htake
    obtain ⟨exchange, hexchanges, -, -, htells⟩ := exists_exchange hok
    refine ⟨exchange, List.mem_flatMap.mpr ⟨heard, hheard, by simp [hexchanges]⟩, ?_⟩
    exact (hholds exchange htells b).mp hmem
  · rintro ⟨exchange, hexchange, hholds⟩
    obtain ⟨heard, hheard, hmem⟩ := List.mem_flatMap.mp hexchange
    have hasking := List.mem_map_of_mem (f := take) (List.mem_map_of_mem (f := asking) hheard)
    have hsucceeded := (completed (answered h hnone)).succeeded exchange hexchange
    obtain ⟨found, hfound⟩ := hnone _ hasking
    rw [hfound] at hasking
    refine ⟨found, hasking, ((h heard hheard found hfound).2 exchange ?_ b).mpr hholds⟩
    exact tells_of_succeeded hmem hsucceeded

end Reads

end Heard

end ImageRetention
