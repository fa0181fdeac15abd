import ImageRetention.SortedSet

/-
Names in a repository's history: `CommitId` for commits, and `ObjectId` for stored revisions
of files, which any number of commits may share.
-/

namespace ImageRetention

/-- The name of a commit. -/
structure CommitId where
  text : String
  deriving DecidableEq, Repr

/-- The name of a stored revision of a file. -/
structure ObjectId where
  text : String
  deriving DecidableEq, Repr

instance : Labelled CommitId where
  label := CommitId.text
  eq_of_label_eq := by rintro ⟨_⟩ ⟨_⟩ rfl; rfl

instance : Labelled ObjectId where
  label := ObjectId.text
  eq_of_label_eq := by rintro ⟨_⟩ ⟨_⟩ rfl; rfl

end ImageRetention
