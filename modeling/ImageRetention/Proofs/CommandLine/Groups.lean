import Mathlib.Data.List.TakeWhile
import Mathlib.Tactic
import ImageRetention.CommandLine.Parser
import ImageRetention.Proofs.CommandLine.Entries

/-!
Command lines of options, followed by root filters.

* `Setting.name`, `Setting.letter?`: how an option is named;
* `Group`: an option with its value, in each of the ways in which it can be given;
* `Group.isRead`: whether it is read as an option: a value right behind a letter may look like a
  root filter together with it;
* `Group.entry?`: what a group says, if it is read and not at fault;
* `Progress.exists_next`: how far the arguments of a group that is read lead;
* `Progress.toOption_read_groups`: groups and a word are read group by group;
* `root_filters_end_options`: everything behind the first root filter is a root filter, whatever
  it looks like, and options that are read are read the same in any order;
* `attached_value_ends_options`: a value right behind its letter is taken for a root filter.
-/

namespace ImageRetention.CommandLine

/-! ### The names of options -/

namespace Setting

/-- The name of an option, behind two hyphens. -/
def name : Setting → String
  | repoPath => "repo-path"
  | minAge => "min-age"
  | manifests => "manifests"
  | verbosity => "verbosity"
  | config => "config"
  | registry => "registry"
  | repository => "repository"
  | trackedPath => "tracked-path"
  | maxParallel => "max-parallel"

/-- The letter of an option, behind one hyphen. -/
def letter? : Setting → Option Char
  | repoPath => some 'p'
  | minAge => some 'm'
  | verbosity => some 'v'
  | config => some 'c'
  | _ => none

lemma ofLong?_name (setting : Setting) :
    Parameter.ofLong? setting.name = some (.setting setting) := by
  cases setting <;> rfl

lemma ofShort?_letter {setting : Setting} {letter : Char} (h : setting.letter? = some letter) :
    Parameter.ofShort? letter = some (.setting setting) := by
  cases setting <;> cases h <;> rfl

lemma letter_ne_hyphen {setting : Setting} {letter : Char} (h : setting.letter? = some letter) :
    letter ≠ '-' := by
  cases setting <;> cases h <;> decide

lemma equals_notMem_name (setting : Setting) : '=' ∉ setting.name.toList := by
  cases setting <;> decide

end Setting

/-! ### Tokens -/

namespace Token

/-- Whether an argument names options, or is the separator. -/
def isOption : Token → Bool
  | separator => true
  | long name _ => (Parameter.ofLong? name).isSome
  | short letters => Progress.areOptions letters
  | plain => false

lemma ofText_hyphens {text : String} (h : text.toList ≠ []) :
    ofText ("--" ++ text) = longToken text.toList := by
  have hchars : ("--" ++ text).toList = '-' :: '-' :: text.toList := by
    simp [String.toList_append]
  rw [ofText, hchars]
  cases hrest : text.toList with
  | nil => exact absurd hrest h
  | cons c rest => rfl

lemma ofText_letters {letter : Char} (h : letter ≠ '-') (rest : List Char) :
    ofText (String.ofList ('-' :: letter :: rest)) = .short (letter :: rest) := by
  rw [ofText, String.toList_ofList]
  split <;> simp_all

/-- What does not start with a hyphen is a plain word. -/
lemma ofText_plain {text : String} (h : text.toList.head? ≠ some '-') : ofText text = .plain := by
  rw [ofText]
  split <;> simp_all

lemma ne_nil_of_ofText_eq_short {text : String} {letters : List Char}
    (h : ofText text = .short letters) : letters ≠ [] := by
  rw [ofText] at h
  split at h
  · cases h
  · rw [longToken] at h
    split at h <;> cases h
  · cases h
    exact List.cons_ne_nil _ _
  · cases h

lemma ofText_name (setting : Setting) :
    ofText ("--" ++ setting.name) = .long setting.name none := by
  cases setting <;> rfl

lemma ofText_joined (setting : Setting) (value : String) :
    ofText ("--" ++ setting.name ++ "=" ++ value) = .long setting.name (some value) := by
  have hchars : (setting.name ++ "=" ++ value).toList =
      setting.name.toList ++ '=' :: value.toList := by
    simp [String.toList_append]
  have htext : "--" ++ setting.name ++ "=" ++ value = "--" ++ (setting.name ++ "=" ++ value) := by
    simp only [String.append_assoc]
  rw [htext, ofText_hyphens (by simp [hchars]), longToken, hchars,
    Text.splitOnce?_append_cons setting.equals_notMem_name]
  simp

end Token

/-! ### Groups -/

/-- An option with its value, in one of the ways in which it can be given, or the option that
takes none. -/
inductive Group
  /-- A letter, and the value as the next argument. -/
  | short (setting : Setting) (letter : Char) (hletter : setting.letter? = some letter)
      (value : String)
  /-- A name, and the value as the next argument. -/
  | long (setting : Setting) (value : String)
  /-- A name and the value behind an equals sign. -/
  | joined (setting : Setting) (value : String)
  /-- A letter and the value right behind it. -/
  | attached (setting : Setting) (letter : Char) (hletter : setting.letter? = some letter)
      (first : Char) (rest : List Char)
  | dryRun

namespace Group

/-- The arguments that a group consists of. -/
def arguments : Group → List String
  | short _ letter _ value => [String.ofList ['-', letter], value]
  | long setting value => ["--" ++ setting.name, value]
  | joined setting value => ["--" ++ setting.name ++ "=" ++ value]
  | attached _ letter _ first rest => [String.ofList ('-' :: letter :: first :: rest)]
  | dryRun => ["--dry-run"]

/-- Whether a group is read as an option.  What follows a hyphen is taken for options only if all
of it are letters of options; if not, the argument is a word, as root filters are. -/
def isRead : Group → Bool
  | attached _ _ _ first rest => Progress.areOptions (first :: rest)
  | _ => true

/-- A group that is not read consists of a word. -/
lemma exists_word {group : Group} (h : group.isRead = false) :
    ∃ word, group.arguments = [word] ∧ (Token.ofText word).isOption = false := by
  cases group with
  | attached setting letter hletter first rest =>
      refine ⟨_, rfl, ?_⟩
      rw [Token.ofText_letters (Setting.letter_ne_hyphen hletter), Token.isOption,
        Progress.areOptions, List.all_cons, Setting.ofShort?_letter hletter]
      exact h
  | short | long | joined | dryRun => cases h

lemma arguments_ne_nil (group : Group) : group.arguments ≠ [] := by
  cases group <;> exact List.cons_ne_nil _ _

/-- What a value that is an argument of its own says, if it can be read.  An argument that names
options is no value. -/
def apart? (setting : Setting) (value : String) : Option Entry :=
  if (Token.ofText value).isOption then none else Entry.ofValue? setting value

/-- What a group says, if it is read and not at fault. -/
def entry? : Group → Option Entry
  | short setting _ _ value => apart? setting value
  | long setting value => apart? setting value
  | joined setting value => Entry.ofValue? setting value
  | attached setting _ _ first rest => Entry.ofValue? setting (String.ofList (first :: rest))
  | dryRun => some .dryRun

end Group

/-- The values with what a group says. -/
def Given.extended? (given : Given) (group : Group) : Option Given :=
  group.entry?.bind given.entered?

/-- Two groups can be taken in either order. -/
lemma Given.extended?_comm (given : Given) (first second : Group) :
    (given.extended? first).bind (·.extended? second) =
      (given.extended? second).bind (·.extended? first) := by
  cases hfirst : first.entry? <;> cases hsecond : second.entry? <;>
    simp [extended?, hfirst, hsecond, entered?_comm]

/-! ### Reading groups -/

namespace Progress

/-- Whether the option that was named last has its value, or takes none. -/
def IsComplete (progress : Progress) : Prop :=
  ∀ setting, progress.pending ≠ .awaits setting

/-- The values given so far, with that of the option named last, if none is at fault. -/
def settled? (progress : Progress) : Option Given :=
  progress.settle.toOption

lemma toOption_bind {ε α β : Type} (result : Except ε α) (next : α → Except ε β) :
    (result >>= next).toOption = result.toOption.bind fun value => (next value).toOption := by
  cases result <;> rfl

lemma toOption_eq_some_iff {ε α : Type} {result : Except ε α} {value : α} :
    result.toOption = some value ↔ result = .ok value := by
  cases result <;> simp [Except.toOption]

/-- An argument that names options is put into effect. -/
lemma toOption_read_option {progress : Progress} {argument : String}
    {next : Except Refusal Progress}
    (hnext : progress.withOptions? (Token.ofText argument) = some next) (rest : List String) :
    (progress.read (argument :: rest)).toOption =
      next.toOption.bind fun next => (next.read rest).toOption := by
  have hseparator : Token.ofText argument ≠ .separator := by
    intro htoken
    simp [htoken, withOptions?] at hnext
  rw [read]
  simp only [hseparator, if_false, hnext, toOption_bind]

lemma withOptions?_of_not_isOption {token : Token} (progress : Progress)
    (h : token.isOption = false) : token ≠ .separator ∧ progress.withOptions? token = none := by
  cases token with
  | separator => cases h
  | long name value =>
      simp only [Token.isOption, Option.isSome_eq_false_iff, Option.isNone_iff_eq_none] at h
      simp [withOptions?, h]
  | short letters =>
      simp only [Token.isOption] at h
      simp [withOptions?, h]
  | plain => simp [withOptions?]

/-- Where a value is awaited, naming options is a fault, whatever they are. -/
lemma withOptions?_awaits (given : Given) (setting : Setting) {argument : String}
    (hseparator : Token.ofText argument ≠ .separator)
    (h : (Token.ofText argument).isOption = true) :
    ∃ refusal, (Progress.mk given (.awaits setting)).withOptions? (Token.ofText argument) =
      some (.error refusal) := by
  cases htoken : Token.ofText argument with
  | separator => exact absurd htoken hseparator
  | plain => simp [htoken, Token.isOption] at h
  | long name value =>
      rw [htoken] at h
      obtain ⟨parameter, hparameter⟩ := Option.isSome_iff_exists.mp h
      simp only [withOptions?, hparameter, Option.map_some, Option.some.injEq]
      cases parameter <;> cases value <;> exact ⟨_, rfl⟩
  | short letters =>
      obtain ⟨letter, rest, rfl⟩ :=
        List.exists_cons_of_ne_nil (Token.ne_nil_of_ofText_eq_short htoken)
      rw [htoken] at h
      have hletter : (Parameter.ofShort? letter).isSome = true := (Bool.and_eq_true_iff.mp h).1
      obtain ⟨parameter, hparameter⟩ := Option.isSome_iff_exists.mp hletter
      rw [withOptions?, if_pos (show areOptions (letter :: rest) = true from h), cluster,
        hparameter]
      cases parameter with
      | switch switch => exact ⟨_, rfl⟩
      | setting other => cases rest <;> exact ⟨_, rfl⟩

lemma toOption_read_awaits (given : Given) (setting : Setting) (value : String)
    (rest : List String) :
    ((Progress.mk given (.awaits setting)).read (value :: rest)).toOption =
      if (Token.ofText value).isOption then none
      else ((Progress.mk given (.holds setting value)).read rest).toOption := by
  cases hoption : (Token.ofText value).isOption with
  | false =>
      obtain ⟨hseparator, hnone⟩ :=
        withOptions?_of_not_isOption (Progress.mk given (.awaits setting)) hoption
      rw [read]
      simp [hseparator, hnone]
  | true =>
      by_cases hseparator : Token.ofText value = .separator
      · rw [read]
        simp only [hseparator, if_true]
        rfl
      · obtain ⟨refusal, hrefusal⟩ := withOptions?_awaits given setting hseparator hoption
        rw [toOption_read_option hrefusal]
        rfl

/-- How far an argument leads that names an option whose value comes next. -/
lemma exists_next_of_await {progress : Progress} {argument : String} {setting : Setting}
    (hawait : progress.withOptions? (Token.ofText argument) = some (progress.await setting))
    (value : String) :
    ∃ next? : Option Progress, (∀ next ∈ next?, next.IsComplete) ∧
      next?.bind settled? = progress.settled?.bind
        (fun given => (Group.apart? setting value).bind given.entered?) ∧
      ∀ rest, (progress.read (argument :: value :: rest)).toOption =
        next?.bind fun next => (next.read rest).toOption := by
  have hprogress : (progress.await setting).toOption =
      progress.settled?.map fun given => ⟨given, .awaits setting⟩ := by
    rw [await, settled?]
    cases progress.settle <;> rfl
  refine ⟨progress.settled?.bind fun given =>
    if (Token.ofText value).isOption then none else some ⟨given, .holds setting value⟩, ?_, ?_, ?_⟩
  · intro next hnext
    obtain ⟨given, -, hnext⟩ := Option.bind_eq_some_iff.mp hnext
    split at hnext
    · cases hnext
    · cases hnext
      simp [IsComplete]
  · rw [Option.bind_assoc]
    refine congrArg _ (funext fun given => ?_)
    rw [Group.apart?]
    split
    · rfl
    · exact given.toOption_withValue setting value
  · intro rest
    rw [toOption_read_option hawait, hprogress]
    cases progress.settled? with
    | none => rfl
    | some given =>
        simp only [Option.map_some, Option.bind_some, toOption_read_awaits]
        split <;> rfl

/-- How far an argument leads that gives an option there and then. -/
lemma exists_next_of_now {progress : Progress} {argument : String} {group : Group}
    {next : Except Refusal Progress} (harguments : group.arguments = [argument])
    (hnext : progress.withOptions? (Token.ofText argument) = some next)
    (hgiven : next.toOption = progress.settled?.bind fun given =>
      (given.extended? group).map fun given => ⟨given, .none⟩) :
    ∃ next? : Option Progress, (∀ next ∈ next?, next.IsComplete) ∧
      next?.bind settled? = progress.settled?.bind (·.extended? group) ∧
      ∀ rest, (progress.read (group.arguments ++ rest)).toOption =
        next?.bind fun next => (next.read rest).toOption := by
  refine ⟨next.toOption, ?_, ?_, fun rest => ?_⟩
  · intro last hlast
    rw [hgiven] at hlast
    obtain ⟨given, -, hlast⟩ := Option.bind_eq_some_iff.mp hlast
    obtain ⟨extended, -, rfl⟩ := Option.map_eq_some_iff.mp hlast
    simp [IsComplete]
  · rw [hgiven, Option.bind_assoc]
    refine congrArg _ (funext fun given => ?_)
    cases given.extended? group <;> rfl
  · rw [harguments]
    exact toOption_read_option hnext rest

/-- What is put in at once is put into the values given so far, if none of them is at fault. -/
lemma toOption_settle_bind (progress : Progress) (give : Given → Except Refusal Given) :
    (progress.settle >>= fun given => give given >>= fun given =>
        pure (Progress.mk given .none)).toOption =
      progress.settled?.bind fun given =>
        (give given).toOption.map fun given => ⟨given, .none⟩ := by
  rw [toOption_bind, settled?]
  refine congrArg _ (funext fun given => ?_)
  cases give given <;> rfl

lemma toOption_take (progress : Progress) (setting : Setting) (value : String) :
    (progress.take setting value).toOption = progress.settled?.bind fun given =>
      ((Entry.ofValue? setting value).bind given.entered?).map fun given => ⟨given, .none⟩ := by
  simp only [← Given.toOption_withValue]
  exact progress.toOption_settle_bind (·.withValue setting value)

lemma toOption_switch_dryRun (progress : Progress) (long : Bool) :
    (progress.switch .dryRun long).toOption = progress.settled?.bind fun given =>
      (given.entered? .dryRun).map fun given => ⟨given, .none⟩ := by
  simp only [← Given.toOption_withDryRun _ long]
  exact progress.toOption_settle_bind (·.withSwitch .dryRun long)

/-- How far the arguments of a group that is read lead: nowhere if one is at fault, and else to
where its option has its value. -/
lemma exists_next (progress : Progress) {group : Group} (hisRead : group.isRead = true) :
    ∃ next? : Option Progress, (∀ next ∈ next?, next.IsComplete) ∧
      next?.bind settled? = progress.settled?.bind (·.extended? group) ∧
      ∀ rest, (progress.read (group.arguments ++ rest)).toOption =
        next?.bind fun next => (next.read rest).toOption := by
  cases group with
  | short setting letter hletter value =>
      refine exists_next_of_await ?_ value
      rw [Token.ofText_letters (Setting.letter_ne_hyphen hletter)]
      simp [withOptions?, areOptions, cluster, Setting.ofShort?_letter hletter]
  | long setting value =>
      refine exists_next_of_await ?_ value
      rw [Token.ofText_name]
      simp [withOptions?, long, setting.ofLong?_name]
  | joined setting value =>
      have hnext : progress.withOptions?
          (Token.ofText ("--" ++ setting.name ++ "=" ++ value)) =
            some (progress.take setting value) := by
        rw [Token.ofText_joined]
        simp [withOptions?, long, setting.ofLong?_name]
      exact exists_next_of_now rfl hnext (progress.toOption_take setting value)
  | attached setting letter hletter first rest =>
      have hall : areOptions (letter :: first :: rest) = true := by
        rw [areOptions, List.all_cons, Setting.ofShort?_letter hletter]
        exact hisRead
      have hnext : progress.withOptions?
          (Token.ofText (String.ofList ('-' :: letter :: first :: rest))) =
            some (progress.take setting (String.ofList (first :: rest))) := by
        rw [Token.ofText_letters (Setting.letter_ne_hyphen hletter)]
        simp [withOptions?, hall, cluster, Setting.ofShort?_letter hletter]
      exact exists_next_of_now rfl hnext
        (progress.toOption_take setting (String.ofList (first :: rest)))
  | dryRun =>
      exact exists_next_of_now rfl rfl (progress.toOption_switch_dryRun true)

/-- A word that is no option ends the options, where no value is awaited. -/
lemma read_word {progress : Progress} (hcomplete : progress.IsComplete) {word : String}
    (hword : (Token.ofText word).isOption = false) (rest : List String) :
    progress.read (word :: rest) = progress.finish (word :: rest) := by
  obtain ⟨hseparator, hnone⟩ := withOptions?_of_not_isOption progress hword
  rw [read]
  cases hpending : progress.pending with
  | awaits setting => exact absurd hpending (hcomplete setting)
  | none | holds => simp [hseparator, hnone]

/-- Groups and a word are read group by group. -/
lemma toOption_read_groups {progress : Progress} (hcomplete : progress.IsComplete)
    {groups : List Group} (hisRead : ∀ group ∈ groups, group.isRead = true) {word : String}
    (hword : (Token.ofText word).isOption = false) (rest : List String) :
    (progress.read (groups.flatMap Group.arguments ++ word :: rest)).toOption =
      (progress.settled?.bind fun given => groups.foldlM Given.extended? given).bind
        fun given => (given.finish (word :: rest)).toOption := by
  induction groups generalizing progress with
  | nil =>
      rw [List.flatMap_nil, List.nil_append, read_word hcomplete hword, finish, toOption_bind]
      simp [settled?]
  | cons group groups ih =>
      obtain ⟨hgroup, hgroups⟩ := List.forall_mem_cons.mp hisRead
      obtain ⟨next?, hcompletes, hsettled, hread⟩ := progress.exists_next hgroup
      rw [List.flatMap_cons, List.append_assoc, hread]
      have hsteps : (progress.settled?.bind fun given =>
          (group :: groups).foldlM Given.extended? given) =
            (next?.bind settled?).bind fun given => groups.foldlM Given.extended? given := by
        rw [hsettled, Option.bind_assoc]
        rfl
      rw [hsteps]
      cases next? with
      | none => rfl
      | some next => exact ih (hcompletes next rfl) hgroups

end Progress

/-- What options and root filters make up, up to the root filters. -/
lemma Given.finish_cons (given : Given) (root other : String) (rest : List String) :
    given.finish (root :: rest) = (given.finish [other]).map fun commandLine =>
      { commandLine with rootFilters := (root :: rest).map RootFilter.ofText } := by
  cases hpath : given.repoPath <;> cases hage : given.minAge <;> simp [finish, hpath, hage] <;> rfl

/-! ### Where the options end -/

/-- From the first group on that is not read, arguments start with a word, as root filters do. -/
lemma Group.exists_words (groups : List Group) {root : String}
    (hroot : (Token.ofText root).isOption = false) (rest : List String) :
    ∃ word words, (groups.dropWhile isRead).flatMap arguments ++ root :: rest = word :: words ∧
      (Token.ofText word).isOption = false := by
  cases hhidden : groups.dropWhile isRead with
  | nil => exact ⟨root, rest, rfl, hroot⟩
  | cons group others =>
      have hunread : group.isRead = false := by
        have hhead := List.head?_dropWhile_not isRead groups
        rwa [hhidden] at hhead
      obtain ⟨word, harguments, hword⟩ := exists_word hunread
      exact ⟨word, others.flatMap arguments ++ root :: rest,
        by rw [List.flatMap_cons, harguments]; rfl, hword⟩

/-- Nothing is left of groups just if all of them are read. -/
lemma Group.flatMap_dropWhile_eq_nil_iff (groups : List Group) :
    (groups.dropWhile isRead).flatMap arguments = [] ↔ ∀ group ∈ groups, group.isRead := by
  rw [← List.dropWhile_eq_nil_iff, List.flatMap_eq_nil_iff]
  constructor
  · intro hnone
    exact List.eq_nil_iff_forall_not_mem.mpr fun group hgroup =>
      group.arguments_ne_nil (hnone group hgroup)
  · intro hnone
    simp [hnone]

/-- Groups that are read and root filters make up what the groups say, with the root filters. -/
lemma toOption_ofArguments_read {groups : List Group}
    (hisRead : ∀ group ∈ groups, group.isRead = true) {word : String}
    (hword : (Token.ofText word).isOption = false) (words : List String) :
    (ofArguments (groups.flatMap Group.arguments ++ word :: words)).toOption =
      (groups.foldlM Given.extended? {}).bind fun given =>
        (given.finish (word :: words)).toOption :=
  Progress.toOption_read_groups (by simp [Progress.IsComplete]) hisRead hword words

/-- The first group that is not read is a root filter, and so is all behind it. -/
lemma toOption_ofArguments (groups : List Group) {root other : String}
    (hroot : (Token.ofText root).isOption = false)
    (hother : (Token.ofText other).isOption = false) (rest : List String) :
    (ofArguments (groups.flatMap Group.arguments ++ root :: rest)).toOption =
      (ofArguments ((groups.takeWhile Group.isRead).flatMap Group.arguments ++
        [other])).toOption.map fun commandLine =>
          { commandLine with rootFilters := ((groups.dropWhile Group.isRead).flatMap
            Group.arguments ++ root :: rest).map RootFilter.ofText } := by
  have hisRead : ∀ group ∈ groups.takeWhile Group.isRead, group.isRead = true :=
    fun group => List.mem_takeWhile_imp
  have harguments : groups.flatMap Group.arguments =
      (groups.takeWhile Group.isRead).flatMap Group.arguments ++
        (groups.dropWhile Group.isRead).flatMap Group.arguments := by
    rw [← List.flatMap_append, List.takeWhile_append_dropWhile]
  obtain ⟨word, words, hwords, hword⟩ := Group.exists_words groups hroot rest
  rw [harguments, List.append_assoc, hwords, toOption_ofArguments_read hisRead hword,
    toOption_ofArguments_read hisRead hother]
  cases (groups.takeWhile Group.isRead).foldlM Given.extended? {} with
  | none => rfl
  | some given =>
      rw [Option.bind_some, Option.bind_some, given.finish_cons word other words]
      cases given.finish [other] <;> rfl

/-- Options and root filters never mix, but for a value right behind the letter of its option.

Let options, each with its value, be followed by root filters of which the first one does not look
like an option.  They are accepted just if the options up to the first one that is not read are
accepted with some root filter behind them.  That one and all that is behind it are root filters
then, in their order and whatever they look like, and all else is what it was.  So if all options
are read then the root filters are those behind the options, and in another order the options are
accepted just if they were before, and say the same.  If one is not read then there are more root
filters than those behind the options. -/
theorem root_filters_end_options (groups : List Group) (root other : String)
    (hroot : root.toList.head? ≠ some '-') (hother : other.toList.head? ≠ some '-')
    (rest : List String) :
    ((ofArguments (groups.flatMap Group.arguments ++ root :: rest)).toOption =
      (ofArguments ((groups.takeWhile Group.isRead).flatMap Group.arguments ++
        [other])).toOption.map fun commandLine =>
          { commandLine with rootFilters := ((groups.dropWhile Group.isRead).flatMap
            Group.arguments ++ root :: rest).map RootFilter.ofText }) ∧
    ((∀ group ∈ groups, group.isRead) →
      (∀ commandLine, ofArguments (groups.flatMap Group.arguments ++ [other]) = .ok commandLine →
        ofArguments (groups.flatMap Group.arguments ++ root :: rest) =
          .ok { commandLine with rootFilters := (root :: rest).map RootFilter.ofText }) ∧
      ∀ reordered, groups.Perm reordered →
        (ofArguments (reordered.flatMap Group.arguments ++ root :: rest)).toOption =
          (ofArguments (groups.flatMap Group.arguments ++ root :: rest)).toOption) ∧
    ∀ commandLine, ofArguments (groups.flatMap Group.arguments ++ root :: rest) = .ok commandLine →
      (commandLine.rootFilters = (root :: rest).map RootFilter.ofText ↔
        ∀ group ∈ groups, group.isRead) := by
  have hrootWord : (Token.ofText root).isOption = false := by rw [Token.ofText_plain hroot]; rfl
  have hotherWord : (Token.ofText other).isOption = false := by rw [Token.ofText_plain hother]; rfl
  have hwhole := toOption_ofArguments groups hrootWord hotherWord rest
  refine ⟨hwhole, fun hisRead => ⟨fun commandLine haccepted => ?_, fun reordered hperm => ?_⟩,
    fun commandLine haccepted => ?_⟩
  · rw [List.takeWhile_eq_self_iff.mpr hisRead, List.dropWhile_eq_nil_iff.mpr hisRead,
      haccepted] at hwhole
    exact Progress.toOption_eq_some_iff.mp hwhole
  · have hreordered : ∀ group ∈ reordered, group.isRead = true :=
      fun group hgroup => hisRead group (hperm.mem_iff.mpr hgroup)
    rw [toOption_ofArguments_read hreordered hrootWord, toOption_ofArguments_read hisRead hrootWord,
      foldlM_perm Given.extended?_comm hperm]
  · rw [haccepted] at hwhole
    obtain ⟨accepted, -, rfl⟩ := Option.map_eq_some_iff.mp hwhole.symm
    rw [← Group.flatMap_dropWhile_eq_nil_iff]
    constructor
    · -- More words would be more root filters.
      intro hroots
      have hlength := congrArg List.length hroots
      simpa only [List.length_map, List.length_append, Nat.add_eq_right,
        List.length_eq_zero_iff] using hlength
    · intro hnone
      simp only [hnone, List.nil_append]

/-- Five options in five ways, and root filters that look like options. -/
theorem root_filters_end_options_lookalike :
    let groups : List Group := [.long .minAge "-7", .attached .config 'c' rfl 'V' ['p'], .dryRun,
      .short .repoPath 'p' rfl "--x", .joined .registry "a=b"]
    let commandLine : CommandLine :=
      { repoPath := "--x", rootFilters := [⟨["HEAD"]⟩], minAgeDays := -7, manifests := none,
        verbosity := .warning, config := some "Vp", changes := { registry := some "a=b" },
        dryRun := true }
    (∀ group ∈ groups, group.isRead) ∧
    ofArguments (groups.flatMap Group.arguments ++ ["HEAD"]) = .ok commandLine ∧
    ofArguments (groups.flatMap Group.arguments ++ ["a;b", "--dry-run", "-m", "--help", "--"]) =
      .ok { commandLine with
        rootFilters := [⟨["a", "b"]⟩, ⟨["--dry-run"]⟩, ⟨["-m"]⟩, ⟨["--help"]⟩, ⟨["--"]⟩] } ∧
    groups.Perm groups.reverse ∧
    (ofArguments (groups.reverse.flatMap Group.arguments
        ++ ["a;b", "--dry-run", "-m", "--help", "--"])).toOption =
      (ofArguments (groups.flatMap Group.arguments
        ++ ["a;b", "--dry-run", "-m", "--help", "--"])).toOption := by
  intro groups commandLine
  have hisRead : ∀ group ∈ groups, group.isRead := by decide
  have haccepted : ofArguments (groups.flatMap Group.arguments ++ ["HEAD"]) = .ok commandLine := by
    decide +kernel
  obtain ⟨-, hread, -⟩ := root_filters_end_options groups "a;b" "HEAD"
    (by decide) (by decide) ["--dry-run", "-m", "--help", "--"]
  obtain ⟨hwhole, horder⟩ := hread hisRead
  have hperm : groups.Perm groups.reverse := groups.reverse_perm.symm
  exact ⟨hisRead, haccepted, hwhole commandLine haccepted, hperm, horder _ hperm⟩

/-- A value right behind its letter is a root filter, and the option behind it another one.  In
front of the other options it leaves the command line without them. -/
theorem attached_value_ends_options :
    let path : Group := .short .repoPath 'p' rfl "/repo"
    let age : Group := .short .minAge 'm' rfl "7"
    let config : Group := .attached .config 'c' rfl 'f' ['i', 'l', 'e']
    let groups : List Group := [path, age, config, .dryRun]
    let reordered : List Group := [config, path, age, .dryRun]
    groups.flatMap Group.arguments = ["-p", "/repo", "-m", "7", "-cfile", "--dry-run"] ∧
    groups.Perm reordered ∧
    ofArguments (groups.flatMap Group.arguments ++ ["HEAD"]) =
      .ok { repoPath := "/repo", rootFilters := [⟨["-cfile"]⟩, ⟨["--dry-run"]⟩, ⟨["HEAD"]⟩],
            minAgeDays := 7, manifests := none, verbosity := .warning, config := none,
            changes := {}, dryRun := false } ∧
    ofArguments (reordered.flatMap Group.arguments ++ ["HEAD"]) = .error .missing := by
  intro path age config groups reordered
  have hperm : ([path, age] ++ config :: [.dryRun]).Perm (config :: ([path, age] ++ [.dryRun])) :=
    List.perm_middle
  exact ⟨by decide, hperm, by decide +kernel, by decide +kernel⟩

end ImageRetention.CommandLine
