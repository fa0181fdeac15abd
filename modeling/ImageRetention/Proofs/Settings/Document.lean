import Mathlib.Tactic
import ImageRetention.Settings.Document

/-!
What a settings document says, key by key.

* `Changes.onto`: changes on top of earlier ones;
* `Toml.text?`, `Toml.count?`: the values that settings can have;
* `Changes.Suits`: a value that may stand under a key;
* `Changes.stated`: what is found under the four keys, each looked up on its own;
* `Changes.ofEntries_eq_ok_iff`: a document is taken if all its entries suit, and then for
  what is stated in it.
-/

namespace ImageRetention

/-! ### Changes on top of changes -/

namespace Settings

/-- Changes on top of earlier ones, which hold where the later ones say nothing. -/
def Changes.onto (later earlier : Changes) : Changes :=
  ⟨later.registry.or earlier.registry, later.repository.or earlier.repository,
    later.trackedPath.or earlier.trackedPath, later.maxParallel.or earlier.maxParallel⟩

lemma Changes.onto_assoc (last later earlier : Changes) :
    (last.onto later).onto earlier = last.onto (later.onto earlier) := by
  simp only [onto, Option.or_assoc]

@[simp] lemma Changes.onto_nothing (changes : Changes) : changes.onto {} = changes := by
  simp [onto]

@[simp] lemma Changes.nothing_onto (changes : Changes) : onto {} changes = changes := by
  simp [onto]

end Settings

/-! ### Values -/

/-- The text that a value is. -/
def Toml.text? : Toml → Option String
  | string text => some text
  | _ => none

/-- The number of things that a value is; it has at most 64 bits. -/
def Toml.count? : Toml → Option Nat
  | integer n => if 0 ≤ n ∧ n < 2 ^ 64 then some n.toNat else none
  | _ => none

namespace Settings.Changes

open Decoding (Problem)

lemma text_eq_ok_iff {value : Toml} {t : String} : text value = .ok t ↔ value.text? = some t := by
  cases value <;> simp [text, Toml.text?]

lemma count_eq_ok_iff {value : Toml} {n : Nat} : count value = .ok n ↔ value.count? = some n := by
  cases value with
  | integer m =>
      have hpow : Int.pow 2 64 = 2 ^ 64 := rfl
      rw [count, Toml.count?, hpow]
      split
      · simp
      · split <;> simp
  | _ => simp [count, Toml.count?]

/-! ### What is found under a key -/

lemma lookup_eq_none_of_not_mem {entries : Toml.Entries} {key : String}
    (h : key ∉ entries.map Prod.fst) : entries.lookup key = none := by
  refine List.lookup_eq_none_iff.mpr fun entry hmem => ?_
  have hne : key ≠ entry.1 := fun heq => h (heq ▸ List.mem_map_of_mem hmem)
  simpa using hne

/-- Where no key occurs twice, what stands under a key is found there. -/
lemma lookup_eq_some_iff_mem {entries : Toml.Entries} (hkeys : (entries.map Prod.fst).Nodup)
    {key : String} {value : Toml} : entries.lookup key = some value ↔ (key, value) ∈ entries := by
  induction entries with
  | nil => simp
  | cons entry rest ih =>
      obtain ⟨hfresh, hrest⟩ := List.nodup_cons.mp hkeys
      obtain ⟨name, found⟩ := entry
      by_cases h : key = name
      · subst h
        have habsent : (key, value) ∉ rest := fun hmem => hfresh (List.mem_map.mpr ⟨_, hmem, rfl⟩)
        simp [habsent, eq_comm]
      · simp [List.lookup_cons, beq_eq_false_iff_ne.mpr h, h, ih hrest]

/-- What is found under a key, if it is of the kind that is looked for. -/
def under {β : Type} (read : Toml → Option β) (key : String) (entries : Toml.Entries) : Option β :=
  (entries.lookup key).bind read

/-- What a document states, each key looked up on its own. -/
def stated (entries : Toml.Entries) : Changes where
  registry := under Toml.text? "registry_name" entries
  repository := under Toml.text? "repository_name" entries
  trackedPath := under Toml.text? "tracked_path" entries
  maxParallel := under Toml.count? "max_parallel" entries

/-- The keys under which texts stand. -/
def textKeys : List String := ["registry_name", "repository_name", "tracked_path"]

/-- A value may stand under a key: a text under the keys of texts, and a number of things under
the key of one.  Nothing may stand under any other key. -/
def Suits (key : String) (value : Toml) : Prop :=
  (key ∈ textKeys ∧ ∃ text, value.text? = some text) ∨
    (key = "max_parallel" ∧ ∃ n, value.count? = some n)

lemma Suits.mem_knownKeys {key : String} {value : Toml} (h : Suits key value) :
    key ∈ knownKeys := by
  obtain ⟨hkey, -⟩ | ⟨rfl, -⟩ := h
  · exact List.mem_append_left ["max_parallel"] hkey
  · decide

@[simp] lemma under_nil {β : Type} (read : Toml → Option β) (key : String) :
    under read key [] = none := rfl

lemma under_cons {β : Type} (read : Toml → Option β) (key : String) (entry : String × Toml)
    (rest : Toml.Entries) :
    under read key (entry :: rest) =
      if key = entry.1 then read entry.2 else under read key rest := by
  obtain ⟨name, value⟩ := entry
  by_cases h : key = name
  · simp [under, h]
  · simp [under, List.lookup_cons, beq_eq_false_iff_ne.mpr h, h]

/-- An entry in front adds what stands under its key, if nothing later stands there. -/
lemma under_cons_of_fresh {β : Type} (read : Toml → Option β) (key : String)
    {entry : String × Toml} {rest : Toml.Entries} (hfresh : entry.1 ∉ rest.map Prod.fst) :
    under read key (entry :: rest) = (under read key rest).or (under read key [entry]) := by
  rw [under_cons, under_cons, under_nil]
  by_cases h : key = entry.1
  · rw [h, if_pos rfl, if_pos rfl, under, lookup_eq_none_of_not_mem hfresh, Option.bind_none,
      Option.none_or]
  · rw [if_neg h, if_neg h, Option.or_none]

lemma stated_cons_of_fresh {entry : String × Toml} {rest : Toml.Entries}
    (hfresh : entry.1 ∉ rest.map Prod.fst) :
    stated (entry :: rest) = (stated rest).onto (stated [entry]) := by
  simp only [stated, onto, under_cons_of_fresh _ _ hfresh]

/-! ### One entry after another -/

private lemma bind_eq_ok_iff {α β : Type} {result : Except Problem α} {next : α → Except Problem β}
    {value : β} :
    result >>= next = .ok value ↔ ∃ part, result = .ok part ∧ next part = .ok value := by
  cases result <;> simp [bind, Except.bind]

/-- A change that is made of a value under a key is the one stated there. -/
private lemma change_eq_ok_iff {β : Type} {read : Except Problem β} {found : Option β}
    {change : β → Changes} {changes next : Changes} {key : String} {value : Toml}
    (hread : ∀ part, read = .ok part ↔ found = some part)
    (hsuits : Suits key value ↔ ∃ part, found = some part)
    (hchange : ∀ part, found = some part → change part = (stated [(key, value)]).onto changes) :
    (do return change (← read) : Except Problem Changes) = .ok next ↔
      Suits key value ∧ next = (stated [(key, value)]).onto changes := by
  have hpure (part : β) : (pure (change part) : Except Problem Changes) = .ok next ↔
      change part = next := by simp [pure, Except.pure]
  simp only [bind_eq_ok_iff, hpure, hsuits]
  constructor
  · rintro ⟨part, hpart, rfl⟩
    have hfound := (hread part).mp hpart
    exact ⟨⟨part, hfound⟩, hchange part hfound⟩
  · rintro ⟨⟨part, hfound⟩, rfl⟩
    exact ⟨part, (hread part).mpr hfound, hchange part hfound⟩

/-- An entry is taken if it suits, and then for what is stated in it. -/
lemma withEntry_eq_ok_iff (changes next : Changes) (key : String) (value : Toml) :
    changes.withEntry key value = .ok next ↔
      Suits key value ∧ next = (stated [(key, value)]).onto changes := by
  unfold withEntry
  split
  · refine change_eq_ok_iff (fun _ => text_eq_ok_iff) (by simp [Suits, textKeys]) fun t ht => ?_
    simp [stated, onto, under_cons, ht]
  · refine change_eq_ok_iff (fun _ => text_eq_ok_iff) (by simp [Suits, textKeys]) fun t ht => ?_
    simp [stated, onto, under_cons, ht]
  · refine change_eq_ok_iff (fun _ => text_eq_ok_iff) (by simp [Suits, textKeys]) fun t ht => ?_
    simp [stated, onto, under_cons, ht]
  · refine change_eq_ok_iff (fun _ => count_eq_ok_iff) (by simp [Suits, textKeys]) fun n hn => ?_
    simp [stated, onto, under_cons, hn]
  · rename_i hregistry hrepository htracked hparallel
    have hsuits : ¬Suits key value := by
      simp only [Suits, textKeys, List.mem_cons, List.not_mem_nil]
      tauto
    simp [hsuits]

/-- Entries are taken one after another if all suit, and then for what is stated in them. -/
lemma foldlM_withEntry_eq_ok_iff {entries : Toml.Entries}
    (hkeys : (entries.map Prod.fst).Nodup) (changes final : Changes) :
    entries.foldlM (fun changes entry => changes.withEntry entry.1 entry.2) changes = .ok final ↔
      (∀ entry ∈ entries, Suits entry.1 entry.2) ∧ final = (stated entries).onto changes := by
  induction entries generalizing changes with
  | nil =>
      have hstated : stated [] = {} := rfl
      simp [pure, Except.pure, hstated, eq_comm]
  | cons entry rest ih =>
      obtain ⟨hfresh, hrest⟩ := List.nodup_cons.mp hkeys
      -- later entries are put on top, and as no key comes back they hide nothing
      simp only [List.foldlM_cons, bind_eq_ok_iff, withEntry_eq_ok_iff, ih hrest,
        List.forall_mem_cons, stated_cons_of_fresh hfresh, onto_assoc]
      constructor
      · rintro ⟨next, ⟨hentry, rfl⟩, hall, rfl⟩
        exact ⟨⟨hentry, hall⟩, rfl⟩
      · rintro ⟨⟨hentry, hall⟩, rfl⟩
        exact ⟨_, ⟨hentry, rfl⟩, hall, rfl⟩

/-! ### Entries in the order of their keys -/

lemma mem_inOrder {entries : Toml.Entries} {key : String} {value : Toml} :
    (key, value) ∈ inOrder entries ↔ entries.lookup key = some value := by
  simp only [inOrder, List.mem_filterMap, Option.map_eq_some_iff, Prod.mk.injEq]
  constructor
  · rintro ⟨_, -, _, hlookup, rfl, rfl⟩
    exact hlookup
  · intro hlookup
    have hkey : key ∈ entries.map Prod.fst := by
      by_contra hnot
      rw [lookup_eq_none_of_not_mem hnot] at hlookup
      cases hlookup
    exact ⟨key, SortedSet.mem_def.mp (SortedSet.mem_ofList.mpr hkey), value, hlookup, rfl, rfl⟩

/-- What is found under some keys stands under these keys, each at most once. -/
lemma keys_filterMap_sublist (entries : Toml.Entries) (keys : List String) :
    ((keys.filterMap fun key => (entries.lookup key).map fun value => (key, value)).map
      Prod.fst).Sublist keys := by
  induction keys with
  | nil => exact List.Sublist.slnil
  | cons key rest ih =>
      cases h : entries.lookup key with
      | none => simpa [h] using ih.cons key
      | some value => simpa [h] using ih

lemma nodup_inOrder (entries : Toml.Entries) : ((inOrder entries).map Prod.fst).Nodup := by
  have hkeys : (SortedSet.ofList (entries.map Prod.fst)).toList.Nodup :=
    (SortedSet.ofList (entries.map Prod.fst)).ascending.imp
      fun {a b} (hlt : label a < label b) (heq : a = b) => String.lt_irrefl _ (heq ▸ hlt)
  exact (keys_filterMap_sublist entries _).nodup hkeys

/-- The order of the keys changes nothing about what is found under them. -/
lemma lookup_inOrder (entries : Toml.Entries) (key : String) :
    (inOrder entries).lookup key = entries.lookup key := by
  refine Option.ext fun value => ?_
  rw [lookup_eq_some_iff_mem (nodup_inOrder entries), mem_inOrder]

/-- A document is taken if everything in it suits, and then for what is stated in it. -/
theorem ofEntries_eq_ok_iff {entries : Toml.Entries} {changes : Changes} :
    ofEntries entries = .ok changes ↔
      (∀ key value, entries.lookup key = some value → Suits key value) ∧
        changes = stated entries := by
  have hstated : stated (inOrder entries) = stated entries := by
    simp only [stated, under, lookup_inOrder]
  rw [ofEntries, foldlM_withEntry_eq_ok_iff (nodup_inOrder entries), hstated, onto_nothing]
  simp only [Prod.forall, mem_inOrder]

end Settings.Changes

end ImageRetention
