import ImageRetention.Text.Split

/-
Root filters, which select the commits whose images are kept:

* `RootFilter`: the arguments of one listing of commits;
* `RootFilter.ofText`, `RootFilter.text`: a filter from its written form and back, the
  arguments separated by semicolons;
* `text_ofText`: the written form is kept exactly;
* `ofText_text_iff`: a filter has a written form just if it has an argument and none of its
  arguments holds a semicolon.
-/

namespace ImageRetention

/-- The arguments of one listing of commits, in order. -/
structure RootFilter where
  args : List String
  deriving DecidableEq, Repr

namespace RootFilter

/-- The filter that a text stands for: the pieces between semicolons, empty ones included. -/
def ofText (text : String) : RootFilter :=
  ⟨(Text.split (· == ';') text.toList).map String.ofList⟩

/-- The written form of a filter: its arguments with semicolons between them. -/
def text (filter : RootFilter) : String :=
  String.ofList (Text.join ';' (filter.args.map String.toList))

@[simp] theorem args_ofText (s : String) :
    (ofText s).args.map String.toList = Text.split (· == ';') s.toList := by
  simp [ofText, Function.comp_def]

/-- Writing a filter that was read gives the text back. -/
theorem text_ofText (s : String) : (ofText s).text = s := by
  rw [text, args_ofText, Text.join_split, String.ofList_toList]

/-- A filter that was read has an argument. -/
theorem args_ofText_ne_nil (s : String) : (ofText s).args ≠ [] := by
  simp [ofText, Text.split_ne_nil]

/-- No argument of a filter that was read holds a semicolon. -/
theorem not_mem_of_mem_args_ofText {s arg : String} (h : arg ∈ (ofText s).args) :
    ';' ∉ arg.toList := by
  obtain ⟨piece, hpiece, rfl⟩ := List.mem_map.mp h
  intro hc
  simpa using Text.not_of_mem_split _ _ piece hpiece ';' (by simpa using hc)

/-- Reading the written form of a filter gives the filter back just if it has an argument and
no argument holds a semicolon. -/
theorem ofText_text_iff (filter : RootFilter) :
    ofText filter.text = filter ↔ filter.args ≠ [] ∧ ∀ arg ∈ filter.args, ';' ∉ arg.toList := by
  constructor
  · intro h
    rw [← h]
    exact ⟨args_ofText_ne_nil _, fun _ => not_mem_of_mem_args_ofText⟩
  · rintro ⟨hne, hfree⟩
    have hsplit : Text.split (· == ';') (Text.join ';' (filter.args.map String.toList))
        = filter.args.map String.toList :=
      Text.split_join ';' (by simpa using hne) (by simpa using hfree)
    cases filter with
    | mk args =>
      simp only [ofText, text, String.toList_ofList, hsplit, List.map_map]
      simp [Function.comp_def]

end RootFilter

end ImageRetention
