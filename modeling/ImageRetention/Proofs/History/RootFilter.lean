import Mathlib.Tactic
import ImageRetention.History.Repository
import ImageRetention.Proofs.Command.Git

/-!
Root filters as they are written, and as git is asked about them.

* `RootFilter.text_eq_intercalate`: the written form is the arguments with semicolons between them;
* `RootFilter.Items`: the texts between the semicolons of a text, told by how they make it up;
* `args_ofText_eq_iff`: they are the arguments of the filter that the text stands for;
* `Repository.invocations_commits`: the run of git for a filter;
* `root_filters_as_written`: filters are their written forms, and git is handed what these say.
-/

namespace ImageRetention

variable {σ : Type}

/-! ### Written forms -/

lemma Text.join_eq_intercalate {α : Type} (sep : α) (pieces : List (List α)) :
    Text.join sep pieces = [sep].intercalate pieces := by
  induction pieces with
  | nil => rfl
  | cons piece rest ih =>
      cases rest with
      | nil => simp [Text.join]
      | cons next rest => simp [Text.join, ih]

namespace RootFilter

/-- The written form of a filter is its arguments with semicolons between them. -/
lemma text_eq_intercalate (filter : RootFilter) :
    filter.text = String.intercalate ";" filter.args := by
  rw [← String.toList_inj, text, String.toList_ofList, Text.join_eq_intercalate,
    String.toList_intercalate]
  rfl

/-- The texts between the semicolons of a text, in order: there is at least one, none of them
holds a semicolon, and put together with semicolons they are the text. -/
structure Items (text : String) (items : List String) : Prop where
  ne_nil : items ≠ []
  free : ∀ item ∈ items, ';' ∉ item.toList
  text_eq : String.intercalate ";" items = text

/-- The arguments of a filter that was read are the texts between the semicolons. -/
lemma args_ofText_eq_iff {text : String} {items : List String} :
    (ofText text).args = items ↔ Items text items := by
  constructor
  · rintro rfl
    exact ⟨args_ofText_ne_nil text, fun _ => not_mem_of_mem_args_ofText, by
      rw [← text_eq_intercalate, text_ofText]⟩
  · rintro ⟨hne, hfree, rfl⟩
    have hfilter := (ofText_text_iff ⟨items⟩).mpr ⟨hne, hfree⟩
    rw [text_eq_intercalate] at hfilter
    rw [hfilter]

/-- Texts that stand for one filter are the same. -/
lemma ofText_injective : Function.Injective ofText :=
  Function.LeftInverse.injective text_ofText

end RootFilter

/-! ### Runs of git -/

/-- Git is handed the arguments of a filter, each as it is, behind the repository. -/
lemma Repository.invocations_commits (world : World σ) (repository : Repository)
    (filter : RootFilter) (state : σ) :
    let invocation : Invocation :=
      ⟨"git", "-C" :: repository.path :: "rev-list" :: filter.args, []⟩
    (repository.commits world filter state).events.filterMap Event.invocation? =
      if world.obstacle? invocation = none then [invocation] else [] := by
  intro invocation
  let git := Git.revList filter.args |>.inDirectory repository.path |>.labelled filter.text
  have hevents : (repository.commits world filter state).events =
      (git.execute world state).events := by
    rw [commits, Run.within, Git.stdout, Run.map_apply]
  rw [hevents, Git.invocations_execute]
  rfl

/-- Root filters are their written forms.  Every text stands for one filter and is its written
form; the arguments of that filter are the texts between the semicolons, of which there is at
least one and none of which holds a semicolon.  A filter is read back from its written form just
if it has an argument and none of its arguments holds a semicolon.  And git is asked about a
filter with the texts between the semicolons in order, empty ones included. -/
theorem root_filters_as_written (world : World σ) (repository : Repository) (state : σ)
    (text : String) (filter : RootFilter) :
    let root := RootFilter.ofText text
    (root.text = text ∧ ∀ other, RootFilter.ofText other = root ↔ other = text) ∧
    (root.args ≠ [] ∧ ∀ item ∈ root.args, ';' ∉ item.toList) ∧
    (filter.text = String.intercalate ";" filter.args ∧
      (RootFilter.ofText filter.text = filter ↔
        filter.args ≠ [] ∧ ∀ arg ∈ filter.args, ';' ∉ arg.toList)) ∧
    ∃ items, (∀ others, RootFilter.Items text others ↔ others = items) ∧
      let invocation : Invocation :=
        ⟨"git", "-C" :: repository.path :: "rev-list" :: items, []⟩
      (repository.commits world root state).events.filterMap Event.invocation? =
        if world.obstacle? invocation = none then [invocation] else [] := by
  intro root
  refine ⟨⟨RootFilter.text_ofText text, fun other => RootFilter.ofText_injective.eq_iff⟩,
    ⟨RootFilter.args_ofText_ne_nil text, fun _ => RootFilter.not_mem_of_mem_args_ofText⟩,
    ⟨filter.text_eq_intercalate, RootFilter.ofText_text_iff filter⟩,
    root.args, fun others => ?_, repository.invocations_commits world root state⟩
  rw [← RootFilter.args_ofText_eq_iff, eq_comm]

/-- Semicolons beside one another and at the end stand around empty arguments, and a filter with
a semicolon in an argument is not read back. -/
theorem root_filters_as_written_empty :
    let world : World Unit := Git.slowWorld
    let text := "--tags;;-n;1;"
    RootFilter.Items text ["--tags", "", "-n", "1", ""] ∧
    "" ∈ (RootFilter.ofText text).args ∧ ';' ∉ "".toList ∧
    ((⟨"bond"⟩ : Repository).commits world (.ofText text) ()).events.filterMap
        Event.invocation? =
      [⟨"git", ["-C", "bond", "rev-list", "--tags", "", "-n", "1", ""], []⟩] ∧
    RootFilter.ofText (RootFilter.mk ["a;b", ""]).text ≠ ⟨["a;b", ""]⟩ := by
  intro world text
  have hitems : RootFilter.Items text ["--tags", "", "-n", "1", ""] :=
    ⟨by decide, by decide, by decide⟩
  have hmem : "" ∈ (RootFilter.ofText text).args := by
    rw [RootFilter.args_ofText_eq_iff.mpr hitems]
    decide
  obtain ⟨-, ⟨-, hfree⟩, ⟨-, hback⟩, items, hunique, hrun⟩ :=
    root_filters_as_written world ⟨"bond"⟩ () text ⟨["a;b", ""]⟩
  obtain rfl := (hunique _).mp hitems
  refine ⟨hitems, hmem, hfree "" hmem, ?_, fun h => ?_⟩
  · rw [hrun, if_pos (by decide)]
  · exact (hback.mp h).2 "a;b" (by decide) (by decide)

end ImageRetention
