import Mathlib.Tactic
import ImageRetention.Failure.Report

/-!
What is told of a failure, whatever was being done around it.

* `Failure.around`: a failure with any number of contexts put around it;
* `Report.mergedDetails`: the details of a cause, with the outermost context in front where that
  says more than the cause;
* `Report.ofFailure_around`: the report of a cause inside contexts is the standing one of the
  cause, with these details;
* `Report.describeChain_eq`: a failure in words, as its outermost text and numbered lines;
* `failure_told_whole`: no text is lost on the way to the user.
-/

namespace ImageRetention

/-! ### Contexts around a failure -/

namespace Failure

/-- A failure with contexts put around it one after another, the first one outermost. -/
def around (failure : Failure) : List String → Failure
  | [] => failure
  | context :: inner => (failure.around inner).within context

lemma around_eq (failure : Failure) (contexts : List String) :
    failure.around contexts = ⟨contexts ++ failure.contexts, failure.root⟩ := by
  induction contexts with
  | nil => rfl
  | cons context inner ih => rw [around, ih, within, List.cons_append]

lemma cause?_around (failure : Failure) (contexts : List String) :
    (failure.around contexts).cause? = failure.cause? := by
  rw [around_eq, cause?, cause?]

/-- The outermost context is the first text there is. -/
lemma message_around_cons (failure : Failure) (outer : String) (inner : List String) :
    (failure.around (outer :: inner)).message = outer := by
  rw [around_eq, message, texts, List.cons_append, List.cons_append, List.headD_cons]

/-- A context makes a chain of more than one link. -/
lemma one_lt_length_chain_around (failure : Failure) (outer : String) (inner : List String) :
    1 < (failure.around (outer :: inner)).chain.length := by
  have hroot : failure.root.chain ≠ [] := by
    rcases failure.root with cause | _ | _ | _
    · cases cause <;> simp [Root.chain, Cause.chain]
    all_goals simp [Root.chain, Root.texts]
  have hpositive := List.length_pos_iff.mpr hroot
  simp only [around_eq, chain, List.length_append, List.length_map, List.length_cons]
  omega

/-- A cause with nothing around it speaks first. -/
@[simp] lemma message_of (cause : Cause) : (of cause).message = cause.message := by
  cases cause <;> rfl

/-- There is always an outermost text. -/
lemma texts_eq_cons (failure : Failure) : failure.texts = failure.message :: failure.inner := by
  have hne : failure.texts ≠ [] :=
    List.append_ne_nil_of_right_ne_nil _ (Root_texts_ne_nil failure.root)
  obtain ⟨outer, causes, htexts⟩ := List.exists_cons_of_ne_nil hne
  rw [message, inner, htexts, List.headD_cons, List.tail_cons]

end Failure

/-! ### The details of a cause inside contexts -/

namespace Report

/-- The details of a cause inside contexts.  They are the standing ones alone for a failed outside
program, where there is no context, and where the outermost context says what the cause says;
the outermost context stands on a line before them elsewhere. -/
def mergedDetails (cause : Cause) : List String → Option String
  | [] => standingDetails cause
  | outer :: _ =>
    if cause.isBackendFailure ∨ outer = cause.message then standingDetails cause
    else match standingDetails cause with
      | some details => some (outer ++ "\n" ++ details)
      | none => some outer

/-- The report of a cause inside contexts. -/
lemma ofFailure_around (cause : Cause) (contexts : List String) :
    ofFailure ((Failure.of cause).around contexts)
      = ⟨cause, mergedDetails cause contexts, standingSuggestion cause⟩ := by
  have hfound : ((Failure.of cause).around contexts).chain.findSome? Link.cause? = some cause := by
    rw [Failure.findSome?_chain, Failure.cause?_around]
    rfl
  simp only [ofFailure, hfound, Cause.restated_eq]
  cases contexts with
  | nil =>
      -- without a context the cause itself is the outermost text
      have hbare : (Failure.of cause).around [] = .of cause := rfl
      simp [hbare, ofCause, mergedDetails]
  | cons outer inner =>
      simp only [Failure.message_around_cons, Failure.one_lt_length_chain_around, decide_true,
        Bool.and_true, mergedDetails]
      by_cases hquiet : cause.isBackendFailure ∨ outer = cause.message
      · have : (!cause.isBackendFailure && outer != cause.message) = false := by
          rcases hquiet with h | h <;> simp [h]
        simp [this, hquiet, ofCause]
      · have : (!cause.isBackendFailure && outer != cause.message) = true := by
          simpa [not_or] using hquiet
        simp only [this, if_true, if_neg hquiet, ofCause]
        cases standingDetails cause <;> rfl

/-! ### A failure in words -/

/-- A line that tells a numbered cause. -/
def causeLine (entry : String × Nat) : String :=
  "\n  " ++ toString entry.2 ++ ": " ++ entry.1

/-- The causes below a message are told in order, one line each, under rising numbers. -/
lemma numberedCauses_eq (start : Nat) (causes : List String) :
    numberedCauses start causes = String.join ((causes.zipIdx start).map causeLine) := by
  induction causes generalizing start with
  | nil => rfl
  | cons text rest ih =>
      rw [numberedCauses, ih, List.zipIdx_cons, List.map_cons, String.join_cons, causeLine]

/-- A failure in words: its outermost text, and under a heading the numbered texts below it. -/
lemma describeChain_eq (failure : Failure) :
    describeChain failure = failure.message
      ++ if failure.inner = [] then ""
        else "\n\nCaused by:" ++ String.join ((failure.inner.zipIdx 1).map causeLine) := by
  rw [describeChain]
  split
  · simp [*]
  · rename_i hcauses
    rw [if_neg hcauses, numberedCauses_eq, String.append_assoc]

/-- What has neither a cause that the program tells apart nor a missing file or refused access at
its root is told in words. -/
lemma ofFailure_of_cause?_eq_none {failure : Failure} (hunknown : failure.cause? = none)
    (hroot : ∀ error, failure.root = .io error →
      error.kind ≠ .notFound ∧ error.kind ≠ .permissionDenied) :
    ofFailure failure = plain (.other (describeChain failure)) := by
  simp only [ofFailure, Failure.findSome?_chain, hunknown]
  split
  · rename_i hio
    exact absurd rfl (hroot _ hio).1
  · rename_i hio
    exact absurd rfl (hroot _ hio).2
  · rfl

end Report

/-! ### Nothing is lost -/

/-- The user is told a failure whole.  A cause that the program tells apart is found inside any
number of contexts and reported as it is, with its standing explanation; the outermost context
goes in front of its details unless the cause is a failed outside program or says the same.
Anything else is told in the outermost text and, below it, one numbered line for each further
text, save that missing files and refused access get advice. -/
theorem failure_told_whole :
    (∀ (cause : Cause) (contexts : List String),
      let report := Report.ofFailure ((Failure.of cause).around contexts)
      report.cause = cause ∧ report.cause.message = cause.message ∧
      report.cause.isBackendFailure = cause.isBackendFailure ∧
      report.details = Report.mergedDetails cause contexts ∧
      report.suggestion = Report.standingSuggestion cause) ∧
    ∀ failure : Failure, (∀ link ∈ failure.chain, link.cause? = none) →
      (∀ error, failure.root = .io error →
        error.kind ≠ .notFound ∧ error.kind ≠ .permissionDenied) →
      ∃ outer causes, failure.chain.map Link.text = outer :: causes ∧
        Report.ofFailure failure = Report.plain (.other (outer
          ++ if causes = [] then ""
            else "\n\nCaused by:" ++ String.join ((causes.zipIdx 1).map Report.causeLine))) := by
  constructor
  · intro cause contexts report
    have hreport : report = ⟨cause, Report.mergedDetails cause contexts, _⟩ :=
      Report.ofFailure_around cause contexts
    rw [hreport]
    exact ⟨rfl, rfl, rfl, rfl, rfl⟩
  · intro failure hlinks hroot
    have hunknown : failure.cause? = none := by
      rw [← failure.findSome?_chain]
      exact List.findSome?_eq_none_iff.mpr hlinks
    refine ⟨failure.message, failure.inner, ?_, ?_⟩
    · rw [failure.map_text_chain, failure.texts_eq_cons]
    · rw [Report.ofFailure_of_cause?_eq_none hunknown hroot, Report.describeChain_eq]

/-- A variable that is not set, found while a path was being expanded. -/
theorem failure_told_whole_unset :
    Report.ofFailure ((⟨[], .unsetVariable "CI"⟩ : Failure).around ["Cannot expand $CI/repo"])
      = Report.plain (.other ("Cannot expand $CI/repo\n\nCaused by:"
          ++ "\n  1: error looking key 'CI' up: environment variable not found"
          ++ "\n  2: environment variable not found")) := by
  obtain ⟨outer, causes, htexts, htold⟩ := failure_told_whole.2
    ((⟨[], .unsetVariable "CI"⟩ : Failure).around ["Cannot expand $CI/repo"]) (by decide)
    (fun error hio => by cases hio)
  obtain ⟨rfl, rfl⟩ := List.cons.inj htexts
  rw [htold]
  decide

end ImageRetention
