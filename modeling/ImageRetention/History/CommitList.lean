import ImageRetention.History.Name
import ImageRetention.Text.Blank
import ImageRetention.Text.Lines

/-
Commit lists: one commit name a line, blanks around it and empty lines ignored.

* `CommitList.commits`: the names in a list.
-/

namespace ImageRetention.CommitList

/-- The commits that a list names, in order and with repetitions. -/
def commits (text : String) : List CommitId :=
  (((Text.lines text.toList).map Text.trim).filter fun line => !line.isEmpty).map
    fun line => ⟨String.ofList line⟩

end ImageRetention.CommitList
