import Mathlib.Data.List.TakeWhile
import Mathlib.Tactic
import ImageRetention.Proofs.Path.Expansion

/-!
Paths that a user writes below the home directory: `~/` and a rest without dollar signs.

* `Path.beneath`: a path beneath a directory, whatever slashes it starts with;
* `resolve_below_eq_ok_iff`: such a path resolves to what the home directory and the rest, joined,
  expand to;
* `resolve_below_of_isAbsolute`: a rest that starts with a slash replaces the home directory;
* `eq_beneath_iff_slashes`: which is the same place only if the home directory is just slashes;
* `below_home_iff`: for which home directories and rests the path is beneath the home directory,
  whatever is set;
* `home_left_behind`: a home directory that is replaced, and one that is taken for a variable.
-/

namespace ImageRetention.Path

variable {σ : Type} {world : World σ} {home path target : String}

/-- The path beneath a directory that a text stands for: one separator after the directory, and
none of the slashes that the text starts with. -/
def beneath (directory path : String) : String :=
  asDirectory directory ++ String.ofList (path.toList.dropWhile (· == '/'))

/-! ### Putting the home directory in -/

lemma homeForm_below (path : String) : homeForm ("~/" ++ path) = .below path := by
  simp [homeForm]

lemma expandHome_below (hhome : world.home? = some home) (path : String) :
    expandHome world ("~/" ++ path) = .ok (join home path) := by
  rw [expandHome, homeForm_below, Path.home, hhome]
  rfl

/-- A path below the home directory resolves to what the joined path expands to. -/
theorem resolve_below_eq_ok_iff (hhome : world.home? = some home) :
    resolve world ("~/" ++ path) = .ok target ↔
      expandVariables world.environment.get? (join home path).toList = .ok target.toList := by
  rw [resolve, expandHome_below hhome]
  cases hexpanded : expandVariables world.environment.get? (join home path).toList with
  | error root => simp [bind, Except.bind, hexpanded]
  | ok text => simp [bind, Except.bind, hexpanded, ← String.toList_inj]

/-- An absolute rest without dollar signs takes the place of the home directory. -/
theorem resolve_below_of_isAbsolute (hhome : world.home? = some home)
    (hpath : '$' ∉ path.toList) (habsolute : isAbsolute path = true) :
    resolve world ("~/" ++ path) = .ok path := by
  rw [resolve_below_eq_ok_iff hhome, join, if_pos habsolute]
  exact expandVariables_of_isPlain _ (isPlain_of_notMem hpath)

/-! ### Slashes at the start -/

lemma dropWhile_of_not_isAbsolute (h : ¬isAbsolute path = true) :
    path.toList.dropWhile (· == '/') = path.toList := by
  rw [isAbsolute, beq_iff_eq] at h
  cases hlist : path.toList with
  | nil => rfl
  | cons c rest =>
      rw [hlist, List.head?_cons, Option.some.injEq] at h
      simp [h]

lemma beneath_of_not_isAbsolute (h : ¬isAbsolute path = true) :
    beneath home path = join home path := by
  rw [beneath, dropWhile_of_not_isAbsolute h, String.ofList_toList, join, if_neg h]

/-- Slashes are a directory that has its separator, and no other directory becomes slashes by
getting one. -/
lemma asDirectory_eq_slashes_iff {slashes : List Char} (hall : ∀ c ∈ slashes, c = '/') :
    (asDirectory home).toList = slashes ↔ home.toList = slashes := by
  rw [asDirectory]
  split
  · rfl
  · rfl
  · rename_i c hslash hlast
    -- a last character that is no slash stands on neither side
    have hmem : c ∈ home.toList := List.mem_of_getLast? hlast
    have hc : c ≠ '/' := hslash
    constructor
    · intro h
      exact absurd (hall c (h ▸ by simp [hmem])) hc
    · intro h
      exact absurd (hall c (h ▸ hmem)) hc

/-- A path is itself beneath a directory just if the directory is the slashes that the path starts
with. -/
lemma eq_beneath_iff_slashes :
    path = beneath home path ↔ home.toList = path.toList.takeWhile (· == '/') := by
  have hall : ∀ c ∈ path.toList.takeWhile (· == '/'), c = '/' := fun c hc => by
    simpa using List.mem_takeWhile_imp hc
  rw [← asDirectory_eq_slashes_iff hall, beneath, ← String.toList_inj, String.toList_append,
    String.toList_ofList]
  nth_rewrite 1 [← List.takeWhile_append_dropWhile (p := (· == '/')) (l := path.toList)]
  rw [List.append_cancel_right_eq, eq_comm]

/-! ### Beneath the home directory -/

/-- A world in which no variable is set, and the account has a home directory. -/
def unsetWorld (home : String) : World σ where
  environment := ⟨[]⟩
  existsAt _ := false
  contents _ := .error .noSuchFile
  isInstalled _ _ := false
  respond state _ := (state, ⟨none, [], [], 0⟩)
  now := ⟨17693, 4002, 7, by decide, by decide, by decide, by decide, by decide⟩
  processors := 1
  accountHome := some home

lemma get?_unsetWorld (home : String) :
    (unsetWorld home : World σ).environment.get? = fun _ => none := by
  funext name
  simp [unsetWorld, Environment.get?, Environment.value?]

lemma home?_unsetWorld (home : String) : (unsetWorld home : World σ).home? = some home := by
  rw [World.home?, Environment.nonEmpty?, get?_unsetWorld]
  rfl

/-- When a path below the home directory stays beneath it, whatever is set.  A rest that starts with
slashes replaces the home directory, so it stays there just if the home directory is nothing but
these slashes.  Any other rest does just if no dollar sign in the name of the home directory has a
meaning; braces that are opened there may be closed in the rest. -/
theorem below_home_iff (home path : String) (hpath : '$' ∉ path.toList) :
    (∀ world : World σ, world.home? = some home →
      resolve world ("~/" ++ path) = .ok (beneath home path)) ↔
    if isAbsolute path then home.toList = path.toList.takeWhile (· == '/')
    else IsPlain (asDirectory home ++ path).toList := by
  split
  next habsolute =>
    rw [← eq_beneath_iff_slashes]
    constructor
    · intro h
      have hbeneath := h (unsetWorld home) (home?_unsetWorld home)
      rw [resolve_below_of_isAbsolute (home?_unsetWorld home) hpath habsolute] at hbeneath
      exact Except.ok.inj hbeneath
    · intro h world hhome
      rw [← h]
      exact resolve_below_of_isAbsolute hhome hpath habsolute
  next hrelative =>
    have hjoin : join home path = asDirectory home ++ path := if_neg hrelative
    rw [beneath_of_not_isAbsolute hrelative, hjoin]
    constructor
    · intro h
      have hexpands := h (unsetWorld home) (home?_unsetWorld home)
      rw [resolve_below_eq_ok_iff (home?_unsetWorld home), get?_unsetWorld, hjoin] at hexpands
      exact isPlain_iff.mpr hexpands
    · intro h world hhome
      rw [resolve_below_eq_ok_iff hhome, hjoin]
      exact expandVariables_of_isPlain _ h

/-- A home directory with a dollar sign that stands for itself: paths below it stay beneath it. -/
theorem below_home_iff_plain :
    '$' ∉ "src//bond/".toList ∧
    (unsetWorld "/srv/a$" : World Unit).home? = some "/srv/a$" ∧
    ∀ world : World Unit, world.home? = some "/srv/a$" →
      resolve world "~/src//bond/" = .ok "/srv/a$/src//bond/" := by
  have hpath : '$' ∉ "src//bond/".toList := by decide
  have hplain : IsPlain "/srv/a$/src//bond/".toList := by
    have hslash : isNameChar '/' = false := by decide
    simp [isPlain_cons_of_ne, isPlain_dollar_cons, takesDollar_cons, hslash]
  exact ⟨hpath, home?_unsetWorld _, (below_home_iff "/srv/a$" "src//bond/" hpath).mpr hplain⟩

/-- A rest that starts with a slash takes the place of the home directory, and a home directory
whose name looks like a variable is replaced by the value. -/
theorem home_left_behind :
    let world (home : String) : World Unit :=
      { (unsetWorld home : World Unit) with
        environment := ⟨[("HOME", home), ("NAME", "other")]⟩ }
    ((world "/home/u").home? = some "/home/u" ∧ '$' ∉ "/etc".toList ∧
      resolve (world "/home/u") "~//etc" = .ok "/etc" ∧
      beneath "/home/u" "/etc" = "/home/u/etc") ∧
    ((world "/srv/$NAME").home? = some "/srv/$NAME" ∧ '$' ∉ "repo".toList ∧
      resolve (world "/srv/$NAME") "~/repo" = .ok "/srv/other/repo" ∧
      beneath "/srv/$NAME" "repo" = "/srv/$NAME/repo") := by
  intro world
  decide +kernel

end ImageRetention.Path
