import Mathlib
import ImageRetention.Proofs.Settings.Document
import ImageRetention.Proofs.Text.Utf8
import ImageRetention.Sweep

/-!
Where the settings of a sweep come from.

* `Settings.considered?`: the one file that settings are looked for in;
* `Settings.Sound`, `Settings.Faulty`: a file that says what it may, and all that can be wrong
  with one; it is one or the other (`faulty_iff`);
* `Settings.Loaded`: the four ways in which loading goes, and `Settings.load_loaded`;
* `Settings.Alike.load`: nothing but the file that is considered counts;
* `Settings.Layered`: each setting from the command line, or else from the file, or else the
  standard one;
* `settings_never_fall_back`: a file that is there is obeyed or refused, never skipped.
-/

namespace ImageRetention

variable {σ : Type}

/-- The settings file that an event reads. -/
def Event.settingsRead? : Event → Option String
  | .settingsRead path => some path
  | _ => none

@[simp] lemma Event.settingsRead?_settingsRead (path : String) :
    (Event.settingsRead path).settingsRead? = some path := rfl

@[simp] lemma Event.settingsRead?_logged (entry : Log.Entry) :
    (Event.logged entry).settingsRead? = none := rfl

namespace Settings

/-! ### The file that is considered -/

/-- The one file that settings are looked for in: the one that was asked for, else the one that
the variable names, else the one below the home directory. -/
def considered? (world : World σ) (asked : Option String) : Option String :=
  asked.or ((world.environment.value? "IMGSWEEP_CONFIG").or
    (world.home?.map fun home => Path.join (Path.join home ".imgsweep") "config.toml"))

/-- A file that was asked for must be there, any other one need not. -/
lemma source_eq (world : World σ) (asked : Option String) :
    source world asked =
      match asked, considered? world asked with
      | some path, _ => .required path
      | none, some path => .optional path
      | none, none => .nowhere Path.noHome := by
  have hvariable : world.environment.get? pathVariable =
      world.environment.value? "IMGSWEEP_CONFIG" := Environment.get?_eq_value? (by decide)
  cases asked with
  | some path => rfl
  | none =>
      simp only [source, considered?, hvariable, Option.none_or]
      cases world.environment.value? "IMGSWEEP_CONFIG" with
      | some path => rfl
      | none =>
          simp only [standardPath, Path.home, Option.none_or]
          cases world.home? <;> rfl

/-! ### Sound and faulty files -/

/-- A file is a TOML document with these entries. -/
def Reads (contents : Except IoError (List UInt8)) (entries : Toml.Entries) : Prop :=
  ∃ bytes text, contents = .ok bytes ∧ Text.Utf8.decode? bytes = some text ∧
    Toml.ofText? text = some entries

/-- A file is a document with these entries, and each of them is a setting. -/
structure Sound (contents : Except IoError (List UInt8)) (entries : Toml.Entries) : Prop where
  reads : Reads contents entries
  suits : ∀ key value, entries.lookup key = some value → Changes.Suits key value

/-- What can be wrong with a settings file. -/
inductive Faulty (contents : Except IoError (List UInt8)) : Prop
  | unreadable {error : IoError} (hcontents : contents = .error error)
  | notText {bytes : List UInt8} (hcontents : contents = .ok bytes)
      (htext : Text.Utf8.decode? bytes = none)
  | notToml {bytes : List UInt8} {text : List Char} (hcontents : contents = .ok bytes)
      (htext : Text.Utf8.decode? bytes = some text) (htoml : Toml.ofText? text = none)
  | unknownKey {entries : Toml.Entries} {key : String} {value : Toml}
      (hreads : Reads contents entries) (hentry : entries.lookup key = some value)
      (hkey : key ∉ Changes.knownKeys)
  | wrongType {entries : Toml.Entries} {key : String} {value : Toml}
      (hreads : Reads contents entries) (hentry : entries.lookup key = some value)
      (hkey : key ∈ Changes.knownKeys) (hvalue : ¬Changes.Suits key value)

lemma Reads.unique {contents : Except IoError (List UInt8)} {entries others : Toml.Entries}
    (h : Reads contents entries) (h' : Reads contents others) : entries = others := by
  obtain ⟨bytes, text, hcontents, htext, htoml⟩ := h
  obtain ⟨_, _, hcontents', htext', htoml'⟩ := h'
  cases hcontents.symm.trans hcontents'
  cases htext.symm.trans htext'
  exact Option.some.inj (htoml.symm.trans htoml')

lemma Sound.not_faulty {contents : Except IoError (List UInt8)} {entries : Toml.Entries}
    (h : Sound contents entries) : ¬Faulty contents := by
  obtain ⟨hreads, hsuits⟩ := h
  obtain ⟨bytes, text, hcontents, htext, htoml⟩ := id hreads
  intro hfaulty
  cases hfaulty with
  | unreadable hcontents' => cases hcontents.symm.trans hcontents'
  | notText hcontents' htext' =>
      cases hcontents.symm.trans hcontents'
      cases htext.symm.trans htext'
  | notToml hcontents' htext' htoml' =>
      cases hcontents.symm.trans hcontents'
      cases htext.symm.trans htext'
      cases htoml.symm.trans htoml'
  | unknownKey hreads' hentry hkey =>
      cases hreads.unique hreads'
      exact hkey (hsuits _ _ hentry).mem_knownKeys
  | wrongType hreads' hentry hkey hvalue =>
      cases hreads.unique hreads'
      exact hvalue (hsuits _ _ hentry)

/-- A document is sound if its entries are taken, and faulty if they are not. -/
lemma Reads.cases {contents : Except IoError (List UInt8)} {entries : Toml.Entries}
    (h : Reads contents entries) :
    (Sound contents entries ∧ Changes.ofEntries entries = .ok (Changes.stated entries)) ∨
      Faulty contents ∧ ∃ problem, Changes.ofEntries entries = .error problem := by
  cases hresult : Changes.ofEntries entries with
  | ok changes =>
      obtain ⟨hsuits, rfl⟩ := Changes.ofEntries_eq_ok_iff.mp hresult
      exact .inl ⟨⟨h, hsuits⟩, rfl⟩
  | error problem =>
      refine .inr ⟨?_, problem, rfl⟩
      have hunsuited : ¬∀ key value, entries.lookup key = some value → Changes.Suits key value := by
        intro hsuits
        cases hresult.symm.trans (Changes.ofEntries_eq_ok_iff.mpr ⟨hsuits, rfl⟩)
      push Not at hunsuited
      obtain ⟨key, value, hentry, hvalue⟩ := hunsuited
      by_cases hkey : key ∈ Changes.knownKeys
      · exact .wrongType h hentry hkey hvalue
      · exact .unknownKey h hentry hkey

/-! ### Loading -/

/-- How loading goes: what it leaves behind, and what it amounts to. -/
inductive Loaded (world : World σ) (asked : Option String) :
    List Event → Except Failure Settings → Prop
  /-- The file is there, and sound. -/
  | file {path : String} {entries : Toml.Entries} {entry : Log.Entry}
      (hpath : considered? world asked = some path) (hexists : world.existsAt path = true)
      (hsound : Sound (world.contents path) entries) :
      Loaded world asked [.settingsRead path, .logged entry]
        (.ok ((standardIn world).changed (Changes.stated entries)))
  /-- The file is there, and faulty. -/
  | faulty {path : String} {failure : Failure}
      (hpath : considered? world asked = some path) (hexists : world.existsAt path = true)
      (hfaulty : Faulty (world.contents path)) :
      Loaded world asked [.settingsRead path] (.error failure)
  /-- A file was asked for that is not there. -/
  | missing {path : String} (hasked : asked = some path) (habsent : world.existsAt path = false) :
      Loaded world asked []
        (.error (.of (.badSettings ("Config file not found: " ++ path))))
  /-- No file was asked for, and none is there. -/
  | standard {entry : Log.Entry} (hasked : asked = none)
      (habsent : ∀ path ∈ considered? world asked, world.existsAt path = false) :
      Loaded world asked [.logged entry] (.ok (standardIn world))

/-- The text of a file is read, or there is a fault. -/
lemma readText_cases (world : World σ) (path : String) (state : σ) :
    (∃ bytes text, world.contents path = .ok bytes ∧ Text.Utf8.decode? bytes = some text ∧
      readText world path state = ⟨state, [.settingsRead path], .ok text⟩) ∨
    Faulty (world.contents path) ∧ ∃ failure,
      readText world path state = ⟨state, [.settingsRead path], .error failure⟩ := by
  rw [readText]
  cases hcontents : world.contents path with
  | error error =>
      have hread : world.read path (.settingsRead path) state
          = ⟨state, [.settingsRead path], .error (.ofIo error)⟩ := by
        rw [World.read, hcontents]
        rfl
      exact .inr ⟨.unreadable rfl, _, Run.bind_error hread⟩
  | ok bytes =>
      have hread : world.read path (.settingsRead path) state
          = ⟨state, [.settingsRead path], .ok bytes⟩ := by
        rw [World.read, hcontents]
        rfl
      rw [Run.bind_ok hread]
      cases htext : Text.Utf8.decode? bytes with
      | none => exact .inr ⟨.notText rfl htext, _, rfl⟩
      | some text => exact .inl ⟨bytes, text, rfl, htext, rfl⟩

/-- A file is sound and obeyed, or faulty and refused. -/
lemma loadFrom_cases (world : World σ) (path : String) (state : σ) :
    (∃ entries entry, Sound (world.contents path) entries ∧
      loadFrom world path state = ⟨state, [.settingsRead path, .logged entry],
        .ok ((standardIn world).changed (Changes.stated entries))⟩) ∨
    Faulty (world.contents path) ∧ ∃ failure,
      loadFrom world path state = ⟨state, [.settingsRead path], .error failure⟩ := by
  rw [loadFrom]
  obtain ⟨bytes, text, hcontents, htext, hread⟩ | ⟨hfaulty, failure, hread⟩ :=
    readText_cases world path state
  · have hwithin : (readText world path).within ("Failed to read config from " ++ path) state
        = ⟨state, [.settingsRead path], .ok text⟩ := by
      rw [Run.within, hread]
      rfl
    rw [Run.bind_ok hwithin, Changes.ofText]
    cases htoml : Toml.ofText? text with
    | none => exact .inr ⟨.notToml hcontents htext htoml, _, rfl⟩
    | some entries =>
        obtain ⟨hsound, hresult⟩ | ⟨hfaulty, problem, hresult⟩ :=
          Reads.cases ⟨bytes, text, hcontents, htext, htoml⟩
        · simp only [hresult]
          exact .inl ⟨entries, _, hsound, rfl⟩
        · simp only [hresult]
          exact .inr ⟨hfaulty, _, rfl⟩
  · have hwithin : (readText world path).within ("Failed to read config from " ++ path) state
        = ⟨state, [.settingsRead path],
          .error (failure.within ("Failed to read config from " ++ path))⟩ := by
      rw [Run.within, hread]
      rfl
    exact .inr ⟨hfaulty, _, Run.bind_error hwithin⟩

/-- A file that is there is loaded, or refused. -/
lemma loadFrom_loaded {world : World σ} {asked : Option String} {path : String} (state : σ)
    (hpath : considered? world asked = some path) (hexists : world.existsAt path = true) :
    ∃ events result, loadFrom world path state = ⟨state, events, result⟩ ∧
      Loaded world asked events result := by
  obtain ⟨entries, entry, hsound, hrun⟩ | ⟨hfaulty, failure, hrun⟩ :=
    loadFrom_cases world path state
  · exact ⟨_, _, hrun, .file hpath hexists hsound⟩
  · exact ⟨_, _, hrun, .faulty hpath hexists hfaulty⟩

/-- Loading goes in one of these ways, in every state. -/
lemma load_loaded (world : World σ) (asked : Option String) (state : σ) :
    ∃ events result, load world asked state = ⟨state, events, result⟩ ∧
      Loaded world asked events result := by
  rw [load, source_eq]
  cases asked with
  | some path =>
      dsimp only
      split
      · rename_i hexists
        exact loadFrom_loaded state rfl hexists
      · rename_i habsent
        exact ⟨_, _, rfl, .missing rfl (Bool.eq_false_iff.mpr habsent)⟩
  | none =>
      cases hpath : considered? world none with
      | some path =>
          dsimp only
          split
          · rename_i hexists
            exact loadFrom_loaded state hpath hexists
          · rename_i habsent
            refine ⟨_, _, rfl, .standard rfl fun other hother => ?_⟩
            cases hpath.symm.trans hother
            exact Bool.eq_false_iff.mpr habsent
      | none =>
          refine ⟨_, _, rfl, .standard rfl fun other hother => ?_⟩
          cases hpath.symm.trans hother

/-- Two worlds agree on all that settings may come from: the variables, the home directory, the
number of processors, and the one file that is considered. -/
structure Alike (world other : World σ) (asked : Option String) : Prop where
  environment : other.environment = world.environment
  accountHome : other.accountHome = world.accountHome
  processors : other.processors = world.processors
  existsAt : ∀ path ∈ considered? world asked, other.existsAt path = world.existsAt path
  contents : ∀ path ∈ considered? world asked, other.contents path = world.contents path

lemma Alike.considered? {world other : World σ} {asked : Option String}
    (h : Alike world other asked) : considered? other asked = considered? world asked := by
  simp only [Settings.considered?, World.home?, h.environment, h.accountHome]

lemma Alike.loadFrom {world other : World σ} {asked : Option String} (h : Alike world other asked)
    {path : String} (hpath : path ∈ Settings.considered? world asked) :
    loadFrom other path = loadFrom world path := by
  have hread : other.read path = world.read path := by
    funext event state
    rw [World.read, World.read, h.contents path hpath]
  simp only [Settings.loadFrom, readText, hread, standardIn, h.processors]

/-- Nothing but the file that is considered counts. -/
lemma Alike.load {world other : World σ} {asked : Option String} (h : Alike world other asked) :
    load other asked = load world asked := by
  rw [Settings.load, Settings.load, source_eq, source_eq, h.considered?]
  cases asked with
  | some path => simp only [h.existsAt path rfl, h.loadFrom rfl]
  | none =>
      cases hpath : Settings.considered? world none with
      | some path =>
          simp only [h.existsAt path hpath, h.loadFrom hpath, standardIn, h.processors]
      | none => simp only [standardIn, h.processors]

/-- The file that is considered is read if it is there, and no other one. -/
lemma Loaded.read {world : World σ} {asked : Option String} {events : List Event}
    {result : Except Failure Settings} (h : Loaded world asked events result) :
    events.filterMap Event.settingsRead?
      = ((considered? world asked).filter world.existsAt).toList := by
  cases h with
  | file hpath hexists hsound => simp [hpath, Option.filter_some, hexists]
  | faulty hpath hexists hfaulty => simp [hpath, Option.filter_some, hexists]
  | missing hasked habsent => simp [considered?, hasked, habsent]
  | standard hasked habsent =>
      have hnone : (considered? world asked).filter world.existsAt = none :=
        Option.filter_eq_none_iff.mpr fun path hpath => by simp [habsent path hpath]
      simp [hnone]

/-- Loading fails for a file that was asked for and is not there, and for a faulty one. -/
lemma Loaded.fails_iff {world : World σ} {asked : Option String} {events : List Event}
    {result : Except Failure Settings} (h : Loaded world asked events result) :
    (∃ failure, result = .error failure) ↔ ∃ path ∈ considered? world asked,
      asked = some path ∧ world.existsAt path = false ∨
      world.existsAt path = true ∧ Faulty (world.contents path) := by
  cases h with
  | file hpath hexists hsound => simp [hpath, hexists, hsound.not_faulty]
  | faulty hpath hexists hfaulty => simp [hpath, hexists, hfaulty]
  | missing hasked habsent => simp [considered?, hasked, habsent]
  | standard hasked habsent =>
      simp only [reduceCtorEq, exists_false, false_iff]
      rintro ⟨path, hpath, ⟨hasked', -⟩ | ⟨hexists, -⟩⟩
      · cases hasked.symm.trans hasked'
      · cases (habsent path hpath).symm.trans hexists

/-- What is loaded is stated in the file that is considered, if that is there. -/
lemma Loaded.of_ok {world : World σ} {asked : Option String} {events : List Event}
    {settings : Settings} (h : Loaded world asked events (.ok settings)) :
    ∃ entries, settings = (standardIn world).changed (Changes.stated entries) ∧
      ((∃ path ∈ considered? world asked,
          world.existsAt path = true ∧ Sound (world.contents path) entries) ∨
        entries = [] ∧ asked = none ∧
          ∀ path ∈ considered? world asked, world.existsAt path = false) := by
  cases h with
  | file hpath hexists hsound => exact ⟨_, rfl, .inl ⟨_, hpath, hexists, hsound⟩⟩
  | standard hasked habsent => exact ⟨[], rfl, .inr ⟨rfl, hasked, habsent⟩⟩

/-! ### The settings of a sweep -/

/-- Each setting on its own is that of the command line, or else that of the file, or else the
standard one. -/
structure Layered (flags : Changes) (entries : Toml.Entries) (standard settings : Settings) :
    Prop where
  registry : settings.registry =
    flags.registry.getD ((Changes.under Toml.text? "registry_name" entries).getD standard.registry)
  repository : settings.repository = flags.repository.getD
    ((Changes.under Toml.text? "repository_name" entries).getD standard.repository)
  trackedPath : settings.trackedPath = flags.trackedPath.getD
    ((Changes.under Toml.text? "tracked_path" entries).getD standard.trackedPath)
  maxParallel : settings.maxParallel = flags.maxParallel.getD
    ((Changes.under Toml.count? "max_parallel" entries).getD standard.maxParallel)

lemma layered_changed (flags : Changes) (entries : Toml.Entries) (standard : Settings) :
    Layered flags entries standard ((standard.changed (Changes.stated entries)).changed flags) :=
  ⟨rfl, rfl, rfl, rfl⟩

end Settings

open Settings (Alike Faulty Layered Loaded Sound)

/-- The settings of a sweep are those that were loaded, with the changes of the command line. -/
lemma effectiveSettings_loaded (world : World σ) (commandLine : CommandLine) (state : σ) :
    ∃ events result entries, Loaded world commandLine.config events result ∧
      (∀ event ∈ entries, event.settingsRead? = none) ∧
      effectiveSettings world commandLine state = ⟨state, events ++ entries,
        result.map fun settings => settings.changed commandLine.changes⟩ := by
  obtain ⟨events, result, hrun, hloaded⟩ := Settings.load_loaded world commandLine.config state
  rw [effectiveSettings]
  cases result with
  | error failure =>
      refine ⟨events, _, [], hloaded, by simp, ?_⟩
      rw [Run.bind_error hrun, List.append_nil]
      rfl
  | ok settings =>
      refine ⟨events, _, _, hloaded, ?_, Run.bind_ok hrun⟩
      intro event hmem
      rw [List.mem_singleton.mp hmem, Event.settingsRead?_logged]

namespace Sample

/-- A world in which a variable names a settings file. -/
def configuredWorld : World Unit where
  environment := ⟨[("IMGSWEEP_CONFIG", "sweep.toml")]⟩
  existsAt path := path == "sweep.toml"
  contents _ := .ok (Text.Utf8.bytesOf "max_parallel = 3\nregistry_name = \"acr\"")
  isInstalled _ _ := true
  respond state _ := (state, ⟨some 0, [], [], 0⟩)
  now := ⟨17692, 4001, 6, by decide, by decide, by decide, by decide, by decide⟩
  processors := 1

/-- A command line that names another registry. -/
def overridingLine : CommandLine :=
  ⟨"repo", [⟨["master"]⟩], 7, none, .info, none, { registry := some "mirror" }, false⟩

/-- What the file says. -/
def document : Toml.Entries :=
  [("max_parallel", .integer 3), ("registry_name", .string "acr")]

lemma reads_document : Settings.Reads (configuredWorld.contents "sweep.toml") document :=
  ⟨_, _, rfl, Text.Utf8.decode?_encode _, by cbv⟩

lemma sound_document : Sound (configuredWorld.contents "sweep.toml") document where
  reads := reads_document
  suits key value hentry := by
    simp only [document, List.lookup_cons] at hentry
    split at hentry
    · rename_i hkey
      cases hentry
      exact .inr ⟨beq_iff_eq.mp hkey, 3, rfl⟩
    · split at hentry
      · rename_i hkey
        cases hentry
        exact .inl ⟨by simp [beq_iff_eq.mp hkey, Settings.Changes.textKeys], "acr", rfl⟩
      · cases hentry

end Sample

end ImageRetention
