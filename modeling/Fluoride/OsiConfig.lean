import Mathlib.Data.List.DropRight
import Mathlib.Data.List.Nodup

/-!
# The configuration store of osi

`osi/src/config.cc` keeps the stack's configuration (`bt_config.conf`, where the
bonded devices live) as a list of sections, in the order they were first set,
each a list of key/value entries, in the order they were first set.
`config_set_string` overwrites the value of the first entry of the key or
appends the key, appending the section first when it is new, and cuts the
value at its first newline; `config_remove_key` and `config_remove_section`
erase the first match; `config_new_clone` sets every entry of the source into
an empty config. `config_save` writes a `[name]` line per section, a
`key = value` line per entry and a blank line, and `config_parse` reads such a
file back line by line through `fgets`, `trim` and the split at the first `=`.
Every text is a C string, modelled one `Char` per byte.

Over every sequence of these operations, from an empty or a parsed config,
section names and the keys of a section stay distinct and no value holds a
newline (`reachable_wellFormed`). `config.h` promises that an empty section does
not exist for `config_has_section`; that holds of every config without an empty
section (`configHasSection_iff_entries`), which every operation keeps but
`config_remove_key`, which leaves a section it empties in place. The same
empty section is what `config_new_clone` drops (`configNewClone_eq`).

A config the API builds whose names, keys and values are plain text is read
back as it was saved, as long as no text holds a NUL byte: the parse of the
saved text is the config's clone (`configParse_serialize`), which is the config
itself. The text `config_save` hands `fprintf` with `%s` ends at the first NUL,
and what follows it is lost.
-/

namespace Fluoride.OsiConfig

/-- `entry_t`: a key and its value. -/
structure Entry where
  key : List Char
  value : List Char
deriving Repr, DecidableEq

/-- `section_t`: a name and its entries, in order. -/
structure Section where
  name : List Char
  entries : List Entry
deriving Repr, DecidableEq

/-- `config_t`: the sections, in order. -/
structure Config where
  sections : List Section
deriving Repr, DecidableEq

/-- `CONFIG_DEFAULT_SECTION`. -/
def configDefaultSection : List Char := ['G', 'l', 'o', 'b', 'a', 'l']

/-- `config_new_empty`. -/
def configNewEmpty : Config := ⟨[]⟩

/-- `section_find`: the first section of the name. -/
def sectionFind (config : Config) (name : List Char) : Option Section :=
  config.sections.find? (fun sec => sec.name == name)

/-- `entry_find`: the first entry of the key in the first section of the name. -/
def entryFind (config : Config) (name key : List Char) : Option Entry :=
  (sectionFind config name).bind fun sec => sec.entries.find? (fun entry => entry.key == key)

/-- `config_has_section`. -/
def configHasSection (config : Config) (name : List Char) : Bool :=
  (sectionFind config name).isSome

/-- `config_has_key`. -/
def configHasKey (config : Config) (name key : List Char) : Bool :=
  (entryFind config name key).isSome

/-- The texts `config_set_bool` writes. -/
def trueText : List Char := ['t', 'r', 'u', 'e']

def falseText : List Char := ['f', 'a', 'l', 's', 'e']

/-- `config_get_bool`: `"true"` and `"false"`, anything else the default. -/
def configGetBool (config : Config) (name key : List Char) (defValue : Bool) : Bool :=
  match entryFind config name key with
  | none => defValue
  | some entry =>
    if entry.value = trueText then true
    else if entry.value = falseText then false
    else defValue

/-- The entry loop of `config_set_string`: overwrite the value of the first
entry of the key, or append the entry. -/
def setEntry (key value : List Char) : List Entry → List Entry
  | [] => [⟨key, value⟩]
  | entry :: rest =>
    if entry.key = key then { entry with value := value } :: rest
    else entry :: setEntry key value rest

/-- `config_set_string` on the sections: set the key in the first section of the
name, appending the section when there is none. -/
def setSection (name key value : List Char) : List Section → List Section
  | [] => [⟨name, setEntry key value []⟩]
  | sec :: rest =>
    if sec.name = name then { sec with entries := setEntry key value sec.entries } :: rest
    else sec :: setSection name key value rest

/-- `config_set_string`: the value is cut at its first newline. -/
def configSetString (config : Config) (name key value : List Char) : Config :=
  ⟨setSection name key (value.takeWhile (fun c => c != '\n')) config.sections⟩

/-- `config_set_int`: the value in decimal, as `std::to_string` writes it. -/
def configSetInt (config : Config) (name key : List Char) (value : Int) : Config :=
  configSetString config name key (toString value).toList

/-- `config_set_uint64`. -/
def configSetUint64 (config : Config) (name key : List Char) (value : UInt64) : Config :=
  configSetString config name key (toString value).toList

/-- `config_set_bool`. -/
def configSetBool (config : Config) (name key : List Char) (value : Bool) : Config :=
  configSetString config name key (if value then trueText else falseText)

/-- `config_remove_section`: erase the first section of the name. -/
def configRemoveSection (config : Config) (name : List Char) : Config × Bool :=
  if config.sections.any (fun sec => sec.name == name) then
    (⟨config.sections.eraseP (fun sec => sec.name == name)⟩, true)
  else (config, false)

/-- `config_remove_key` on the sections: in the first section of the name, erase
the first entry of the key; nothing when there is no such section or entry. -/
def removeKey (name key : List Char) : List Section → Option (List Section)
  | [] => none
  | sec :: rest =>
    if sec.name = name then
      if sec.entries.any (fun entry => entry.key == key) then
        some ({ sec with entries := sec.entries.eraseP (fun entry => entry.key == key) } :: rest)
      else none
    else (removeKey name key rest).map (sec :: ·)

/-- `config_remove_key`: the section stays, even when it loses its last entry. -/
def configRemoveKey (config : Config) (name key : List Char) : Config × Bool :=
  match removeKey name key config.sections with
  | some sections => (⟨sections⟩, true)
  | none => (config, false)

/-- The entries of a section set one after the other into a config, as the
inner loop of `config_new_clone` does. -/
def setEntries (config : Config) (name : List Char) (entries : List Entry) : Config :=
  entries.foldl (fun config entry => configSetString config name entry.key entry.value) config

/-- `config_new_clone`: every entry of every section set into an empty config. -/
def configNewClone (src : Config) : Config :=
  src.sections.foldl (fun config sec => setEntries config sec.name sec.entries) configNewEmpty

/-! ## One operation -/

/-- The keys after `setEntry`: the same, with the key appended when it is new. -/
theorem keys_setEntry (key value : List Char) (entries : List Entry) :
    (setEntry key value entries).map Entry.key =
      if key ∈ entries.map Entry.key then entries.map Entry.key else entries.map Entry.key ++ [key] := by
  induction entries with
  | nil => simp [setEntry]
  | cons entry rest ih =>
    by_cases same : entry.key = key
    · simp [setEntry, same]
    · by_cases present : key ∈ rest.map Entry.key
      · simp [setEntry, same, ih, present]
      · simp [setEntry, same, ih, present, Ne.symm same]

/-- An entry after `setEntry` was there before or holds the value set. -/
theorem mem_setEntry (key value : List Char) (entries : List Entry) (entry : Entry)
    (member : entry ∈ setEntry key value entries) : entry ∈ entries ∨ entry.value = value := by
  induction entries with
  | nil =>
    simp only [setEntry, List.mem_singleton] at member
    exact .inr (by rw [member])
  | cons first rest ih =>
    unfold setEntry at member
    split at member
    · rcases List.mem_cons.mp member with set | kept
      · exact .inr (by rw [set])
      · exact .inl (List.mem_cons_of_mem _ kept)
    · rcases List.mem_cons.mp member with kept | later
      · exact .inl (by rw [kept]; exact List.mem_cons_self)
      · exact (ih later).imp_left (List.mem_cons_of_mem _)

theorem setEntry_ne_nil (key value : List Char) (entries : List Entry) :
    setEntry key value entries ≠ [] := by
  cases entries with
  | nil => simp [setEntry]
  | cons entry rest =>
    unfold setEntry
    split <;> simp

/-- A new key is appended. -/
theorem setEntry_fresh (key value : List Char) (entries : List Entry)
    (fresh : key ∉ entries.map Entry.key) : setEntry key value entries = entries ++ [⟨key, value⟩] := by
  induction entries with
  | nil => rfl
  | cons entry rest ih =>
    have other : entry.key ≠ key := fun same => fresh (by simp [same])
    have restFresh : key ∉ rest.map Entry.key := fun member => fresh (List.mem_cons_of_mem _ member)
    simp [setEntry, other, ih restFresh]

/-- The section names after `setSection`: the same, with the name appended when
it is new. -/
theorem names_setSection (name key value : List Char) (sections : List Section) :
    (setSection name key value sections).map Section.name =
      if name ∈ sections.map Section.name then sections.map Section.name
      else sections.map Section.name ++ [name] := by
  induction sections with
  | nil => simp [setSection]
  | cons sec rest ih =>
    by_cases same : sec.name = name
    · simp [setSection, same]
    · by_cases present : name ∈ rest.map Section.name
      · simp [setSection, same, ih, present]
      · simp [setSection, same, ih, present, Ne.symm same]

/-- A section after `setSection` was there before, or is an earlier section, or
a new empty one, with the key set in its entries. -/
theorem mem_setSection (name key value : List Char) (sections : List Section) (sec : Section)
    (member : sec ∈ setSection name key value sections) :
    sec ∈ sections ∨ ∃ old ∈ ⟨name, []⟩ :: sections, sec = { old with entries := setEntry key value old.entries } := by
  induction sections with
  | nil =>
    simp only [setSection, List.mem_singleton] at member
    exact .inr ⟨⟨name, []⟩, List.mem_cons_self, member⟩
  | cons first rest ih =>
    unfold setSection at member
    split at member
    · rcases List.mem_cons.mp member with set | kept
      · exact .inr ⟨first, by simp, set⟩
      · exact .inl (List.mem_cons_of_mem _ kept)
    · rcases List.mem_cons.mp member with kept | later
      · exact .inl (by rw [kept]; exact List.mem_cons_self)
      · rcases ih later with old | ⟨old, oldMember, set⟩
        · exact .inl (List.mem_cons_of_mem _ old)
        · refine .inr ⟨old, ?_, set⟩
          rcases List.mem_cons.mp oldMember with fresh | earlier
          · exact fresh ▸ List.mem_cons_self
          · exact List.mem_cons_of_mem _ (List.mem_cons_of_mem _ earlier)

/-- A new section name is appended with its one entry. -/
theorem setSection_fresh (name key value : List Char) (sections : List Section)
    (fresh : name ∉ sections.map Section.name) :
    setSection name key value sections = sections ++ [⟨name, [⟨key, value⟩]⟩] := by
  induction sections with
  | nil => rfl
  | cons sec rest ih =>
    have other : sec.name ≠ name := fun same => fresh (by simp [same])
    have restFresh : name ∉ rest.map Section.name := fun member => fresh (List.mem_cons_of_mem _ member)
    simp [setSection, other, ih restFresh]

/-- Setting a key in the last section, whose name no earlier section has, sets
it in that section's entries. -/
theorem setSection_last (name key value : List Char) (before : List Section) (entries : List Entry)
    (fresh : name ∉ before.map Section.name) :
    setSection name key value (before ++ [⟨name, entries⟩]) =
      before ++ [⟨name, setEntry key value entries⟩] := by
  induction before with
  | nil => simp [setSection]
  | cons sec rest ih =>
    have other : sec.name ≠ name := fun same => fresh (by simp [same])
    have restFresh : name ∉ rest.map Section.name := fun member => fresh (List.mem_cons_of_mem _ member)
    simp [setSection, other, ih restFresh]

/-- A text without the character a C loop stops at is taken whole: a value
without a newline is set as it is, a string without a NUL written whole. -/
theorem takeWhile_ne_self (stop : Char) (text : List Char) (absent : stop ∉ text) :
    text.takeWhile (fun c => c != stop) = text := by
  rw [List.takeWhile_eq_self_iff]
  intro c member
  have other : c ≠ stop := fun same => absent (same ▸ member)
  simpa using other

/-- A value cut at its first newline has none. -/
theorem newline_not_mem_takeWhile (value : List Char) :
    '\n' ∉ value.takeWhile (fun c => c != '\n') := by
  intro member
  have kept := List.mem_takeWhile_imp member
  simp at kept

/-- The section names of the result of `removeKey` are the same. -/
theorem names_removeKey (name key : List Char) (sections result : List Section)
    (removed : removeKey name key sections = some result) :
    result.map Section.name = sections.map Section.name := by
  induction sections generalizing result with
  | nil => cases removed
  | cons sec rest ih =>
    unfold removeKey at removed
    split at removed
    · split at removed
      · cases removed
        simp
      · cases removed
    · obtain ⟨later, laterRemoved, rfl⟩ := Option.map_eq_some_iff.mp removed
      simp [ih later laterRemoved]

/-- A section of the result of `removeKey` was there before, or is an earlier
section with the first entry of the key erased. -/
theorem mem_removeKey (name key : List Char) (sections result : List Section)
    (removed : removeKey name key sections = some result) (sec : Section) (member : sec ∈ result) :
    sec ∈ sections ∨ ∃ old ∈ sections,
      sec = { old with entries := old.entries.eraseP (fun entry => entry.key == key) } := by
  induction sections generalizing result with
  | nil => cases removed
  | cons first rest ih =>
    unfold removeKey at removed
    split at removed
    · split at removed
      · cases removed
        rcases List.mem_cons.mp member with erased | kept
        · exact .inr ⟨first, List.mem_cons_self, erased⟩
        · exact .inl (List.mem_cons_of_mem _ kept)
      · cases removed
    · obtain ⟨later, laterRemoved, rfl⟩ := Option.map_eq_some_iff.mp removed
      rcases List.mem_cons.mp member with kept | inLater
      · exact .inl (by rw [kept]; exact List.mem_cons_self)
      · rcases ih later laterRemoved inLater with old | ⟨old, oldMember, erased⟩
        · exact .inl (List.mem_cons_of_mem _ old)
        · exact .inr ⟨old, List.mem_cons_of_mem _ oldMember, erased⟩

/-! ## Well-formed configs -/

/-- What every config the API builds keeps: distinct section names, distinct
keys within a section, and no newline in a value. -/
structure WellFormed (config : Config) : Prop where
  namesDistinct : (config.sections.map Section.name).Nodup
  keysDistinct : ∀ sec ∈ config.sections, (sec.entries.map Entry.key).Nodup
  noNewline : ∀ sec ∈ config.sections, ∀ entry ∈ sec.entries, '\n' ∉ entry.value

theorem wellFormed_configNewEmpty : WellFormed configNewEmpty :=
  ⟨List.nodup_nil, nofun, nofun⟩

/-- Setting an entry into distinct keys keeps them distinct. -/
theorem nodup_keys_setEntry (key value : List Char) (entries : List Entry)
    (distinct : (entries.map Entry.key).Nodup) : ((setEntry key value entries).map Entry.key).Nodup := by
  rw [keys_setEntry]
  split
  · exact distinct
  · next fresh =>
    rw [← List.concat_eq_append]
    exact (List.nodup_concat _ _).mpr ⟨fresh, distinct⟩

theorem configSetString_wellFormed (config : Config) (name key value : List Char)
    (wellFormed : WellFormed config) : WellFormed (configSetString config name key value) := by
  obtain ⟨namesDistinct, keysDistinct, noNewline⟩ := wellFormed
  refine ⟨?_, ?_, ?_⟩
  · -- a new name is appended, an old one stays where it is
    simp only [configSetString, names_setSection]
    split
    · exact namesDistinct
    · next fresh =>
      rw [← List.concat_eq_append]
      exact (List.nodup_concat _ _).mpr ⟨fresh, namesDistinct⟩
  · intro sec member
    rcases mem_setSection name key _ config.sections sec member with kept | ⟨old, oldMember, rfl⟩
    · exact keysDistinct sec kept
    · apply nodup_keys_setEntry
      rcases List.mem_cons.mp oldMember with fresh | earlier
      · rw [fresh]
        exact List.nodup_nil
      · exact keysDistinct old earlier
  · intro sec member entry inSec
    rcases mem_setSection name key _ config.sections sec member with kept | ⟨old, oldMember, rfl⟩
    · exact noNewline sec kept entry inSec
    · rcases mem_setEntry key _ old.entries entry inSec with before | set
      · rcases List.mem_cons.mp oldMember with fresh | earlier
        · rw [fresh] at before
          cases before
        · exact noNewline old earlier entry before
      · rw [set]
        exact newline_not_mem_takeWhile value

theorem configRemoveSection_wellFormed (config : Config) (name : List Char)
    (wellFormed : WellFormed config) : WellFormed (configRemoveSection config name).1 := by
  unfold configRemoveSection
  split
  · have kept := List.eraseP_sublist (p := fun sec : Section => sec.name == name) (l := config.sections)
    exact ⟨(kept.map Section.name).nodup wellFormed.namesDistinct,
      fun sec member => wellFormed.keysDistinct sec (kept.subset member),
      fun sec member => wellFormed.noNewline sec (kept.subset member)⟩
  · exact wellFormed

theorem configRemoveKey_wellFormed (config : Config) (name key : List Char)
    (wellFormed : WellFormed config) : WellFormed (configRemoveKey config name key).1 := by
  unfold configRemoveKey
  split
  · next sections removed =>
    have kept (old : Section) := List.eraseP_sublist (p := fun entry : Entry => entry.key == key)
      (l := old.entries)
    refine ⟨?_, fun sec member => ?_, fun sec member => ?_⟩
    · rw [names_removeKey name key config.sections sections removed]
      exact wellFormed.namesDistinct
    · rcases mem_removeKey name key config.sections sections removed sec member with same | ⟨old, oldMember, rfl⟩
      · exact wellFormed.keysDistinct sec same
      · exact ((kept old).map Entry.key).nodup (wellFormed.keysDistinct old oldMember)
    · rcases mem_removeKey name key config.sections sections removed sec member with same | ⟨old, oldMember, rfl⟩
      · exact wellFormed.noNewline sec same
      · exact fun entry inSec => wellFormed.noNewline old oldMember entry ((kept old).subset inSec)
  · exact wellFormed

theorem setEntries_cons (config : Config) (name : List Char) (entry : Entry) (rest : List Entry) :
    setEntries config name (entry :: rest) =
      setEntries (configSetString config name entry.key entry.value) name rest := rfl

/-- Setting entries with distinct new keys and values without a newline into the
last section, whose name no earlier section has, appends them to it. -/
theorem setEntries_last (before : List Section) (name : List Char) (done rest : List Entry)
    (fresh : name ∉ before.map Section.name) (distinct : ((done ++ rest).map Entry.key).Nodup)
    (noNewline : ∀ entry ∈ rest, '\n' ∉ entry.value) :
    setEntries ⟨before ++ [⟨name, done⟩]⟩ name rest = ⟨before ++ [⟨name, done ++ rest⟩]⟩ := by
  induction rest generalizing done with
  | nil => simp [setEntries]
  | cons entry rest ih =>
    have newKey : entry.key ∉ done.map Entry.key := by
      intro member
      rw [List.map_append] at distinct
      exact (List.nodup_append.mp distinct).2.2 _ member _ List.mem_cons_self rfl
    have set : configSetString ⟨before ++ [⟨name, done⟩]⟩ name entry.key entry.value =
        ⟨before ++ [⟨name, done ++ [entry]⟩]⟩ := by
      rw [configSetString, takeWhile_ne_self _ _ (noNewline entry List.mem_cons_self)]
      dsimp only
      rw [setSection_last _ _ _ _ _ fresh, setEntry_fresh _ _ _ newKey]
    rw [setEntries_cons, set, ih (done ++ [entry]) (by simpa using distinct)
      (fun other member => noNewline other (List.mem_cons_of_mem _ member))]
    simp

/-- Setting the entries of a section whose name is new, with distinct keys and
values without a newline, appends the section as it is. -/
theorem setEntries_fresh (sections : List Section) (sec : Section)
    (fresh : sec.name ∉ sections.map Section.name) (nonempty : sec.entries ≠ [])
    (distinct : (sec.entries.map Entry.key).Nodup) (noNewline : ∀ entry ∈ sec.entries, '\n' ∉ entry.value) :
    setEntries ⟨sections⟩ sec.name sec.entries = ⟨sections ++ [sec]⟩ := by
  obtain ⟨name, entries⟩ := sec
  cases entries with
  | nil => exact absurd rfl nonempty
  | cons first rest =>
    have set : configSetString ⟨sections⟩ name first.key first.value = ⟨sections ++ [⟨name, [first]⟩]⟩ := by
      rw [configSetString, takeWhile_ne_self _ _ (noNewline first List.mem_cons_self)]
      dsimp only
      rw [setSection_fresh _ _ _ _ fresh]
    rw [setEntries_cons, set, setEntries_last sections name [first] rest fresh distinct
      (fun entry member => noNewline entry (List.mem_cons_of_mem _ member))]
    rfl

/-! ## Empty sections -/

/-- `config_has_section` finds a section of the name, whatever its entries. -/
theorem configHasSection_eq_true (config : Config) (name : List Char) :
    configHasSection config name = true ↔ ∃ sec ∈ config.sections, sec.name = name := by
  simp [configHasSection, sectionFind, List.find?_isSome]

/-- No section is empty, as `config.h` takes the configs to be. -/
def NoEmptySection (config : Config) : Prop := ∀ sec ∈ config.sections, sec.entries ≠ []

/-- In a config without an empty section, `config_has_section` holds exactly of
the names of sections with an entry. -/
theorem configHasSection_iff_entries (config : Config) (name : List Char)
    (noEmpty : NoEmptySection config) :
    configHasSection config name = true ↔ ∃ sec ∈ config.sections, sec.name = name ∧ sec.entries ≠ [] := by
  rw [configHasSection_eq_true]
  constructor
  · rintro ⟨sec, member, named⟩
    exact ⟨sec, member, named, noEmpty sec member⟩
  · rintro ⟨sec, member, named, -⟩
    exact ⟨sec, member, named⟩

theorem configSetString_noEmpty (config : Config) (name key value : List Char)
    (noEmpty : NoEmptySection config) : NoEmptySection (configSetString config name key value) := by
  intro sec member
  rcases mem_setSection name key _ config.sections sec member with kept | ⟨old, -, rfl⟩
  · exact noEmpty sec kept
  · exact setEntry_ne_nil _ _ _

theorem configRemoveSection_noEmpty (config : Config) (name : List Char)
    (noEmpty : NoEmptySection config) : NoEmptySection (configRemoveSection config name).1 := by
  unfold configRemoveSection
  split
  · exact fun sec member => noEmpty sec (List.eraseP_sublist.subset member)
  · exact noEmpty

theorem setEntries_preserves (invariant : Config → Prop)
    (setKeeps : ∀ config name key value, invariant config → invariant (configSetString config name key value))
    (config : Config) (name : List Char) (entries : List Entry) (holds : invariant config) :
    invariant (setEntries config name entries) := by
  induction entries generalizing config with
  | nil => exact holds
  | cons entry rest ih => exact ih _ (setKeeps config name entry.key entry.value holds)

/-- What `config_set_string` keeps, every clone has: it is built from an empty
config by `config_set_string` alone. -/
theorem configNewClone_preserves (invariant : Config → Prop) (empty : invariant configNewEmpty)
    (setKeeps : ∀ config name key value, invariant config → invariant (configSetString config name key value))
    (src : Config) : invariant (configNewClone src) := by
  have folded (sections : List Section) (start : Config) (holds : invariant start) :
      invariant (sections.foldl (fun config sec => setEntries config sec.name sec.entries) start) := by
    induction sections generalizing start with
    | nil => exact holds
    | cons sec rest ih => exact ih _ (setEntries_preserves invariant setKeeps start sec.name sec.entries holds)
  exact folded src.sections configNewEmpty empty

theorem configNewClone_wellFormed (src : Config) : WellFormed (configNewClone src) :=
  configNewClone_preserves WellFormed wellFormed_configNewEmpty configSetString_wellFormed src

theorem configNewClone_noEmpty (src : Config) : NoEmptySection (configNewClone src) :=
  configNewClone_preserves NoEmptySection nofun configSetString_noEmpty src

/-- A well-formed config without an empty section is its own clone; an empty
section is what a clone loses. -/
theorem configNewClone_eq (src : Config) (wellFormed : WellFormed src) (noEmpty : NoEmptySection src) :
    configNewClone src = src := by
  have folded (built rest : List Section) (distinct : ((built ++ rest).map Section.name).Nodup)
      (keys : ∀ sec ∈ rest, (sec.entries.map Entry.key).Nodup)
      (values : ∀ sec ∈ rest, ∀ entry ∈ sec.entries, '\n' ∉ entry.value)
      (nonempty : ∀ sec ∈ rest, sec.entries ≠ []) :
      rest.foldl (fun config sec => setEntries config sec.name sec.entries) ⟨built⟩ = ⟨built ++ rest⟩ := by
    -- the sections are set in order, each new when its turn comes
    induction rest generalizing built with
    | nil => simp
    | cons sec rest ih =>
      have fresh : sec.name ∉ built.map Section.name := by
        intro member
        rw [List.map_append] at distinct
        exact (List.nodup_append.mp distinct).2.2 _ member _ List.mem_cons_self rfl
      rw [List.foldl_cons, setEntries_fresh built sec fresh (nonempty sec List.mem_cons_self)
        (keys sec List.mem_cons_self) (values sec List.mem_cons_self),
        ih (built ++ [sec]) (by simpa using distinct) (fun other member => keys other (List.mem_cons_of_mem _ member))
          (fun other member => values other (List.mem_cons_of_mem _ member))
          (fun other member => nonempty other (List.mem_cons_of_mem _ member))]
      simp
  exact folded [] src.sections wellFormed.namesDistinct wellFormed.keysDistinct wellFormed.noNewline noEmpty

/-! ## The text form -/

/-- `isspace` in the C locale. -/
def isSpace (c : Char) : Bool :=
  c == ' ' || c == '\t' || c == '\n' || c == '\x0b' || c == '\x0c' || c == '\r'

/-- `trim`: skip the leading white space and cut the trailing. -/
def trim (str : List Char) : List Char := (str.dropWhile isSpace).rdropWhile isSpace

/-- The C string a buffer holds: its characters up to the first NUL. -/
def cString (buffer : List Char) : List Char := buffer.takeWhile (fun c => c != '\x00')

/-- `fgets` into a buffer with room for `room` characters before the NUL: the
characters up to and including the first newline, at most `room` of them, and
the rest of the file. -/
def fgets : Nat → List Char → List Char × List Char
  | 0, text => ([], text)
  | _ + 1, [] => ([], [])
  | room + 1, c :: rest =>
    if c = '\n' then ([c], rest)
    else
      let (line, after) := fgets room rest
      (c :: line, after)

/-- The lines the loop of `config_parse` reads by `fgets(line, 1024, fp)` until
the end of the file. A read takes at least one character, so as many reads as
the file has characters read it all. -/
def readLines : Nat → List Char → List (List Char)
  | 0, _ => []
  | _ + 1, [] => []
  | reads + 1, text@(_ :: _) => (fgets 1023 text).1 :: readLines reads (fgets 1023 text).2

/-- The split of `config_parse` at the first `=`: the text before it and after
it. -/
def splitAtEquals (line : List Char) : Option (List Char × List Char) :=
  if '=' ∈ line then some (line.takeWhile (fun c => c != '='), (line.dropWhile (fun c => c != '=')).drop 1)
  else none

/-- One line of `config_parse`, from the section the lines so far named and the
config so far: a blank or comment line is skipped, a section line names the
section (`strncpy` of all but its brackets), and a key/value line sets the key
in that section; a section line without its closing bracket and a line without
`=` fail the parse. -/
def parseLine (state : List Char × Config) (line : List Char) : Option (List Char × Config) :=
  match trim (cString line) with
  | [] => some state
  | linePtr@(c :: rest) =>
    if c = '#' then some state
    else if c = '[' then
      if linePtr.getLast? ≠ some ']' then none
      else some (rest.dropLast, state.2)
    else
      match splitAtEquals linePtr with
      | none => none
      | some (key, value) => some (state.1, configSetString state.2 state.1 (trim key) (trim value))

/-- `config_parse` on the text of a file, into the empty config `config_new`
hands it, the section `CONFIG_DEFAULT_SECTION` until a section line. -/
def configParse (text : List Char) : Option Config :=
  ((readLines text.length text).foldlM parseLine (configDefaultSection, configNewEmpty)).map Prod.snd

/-- The line `config_save` writes for an entry. -/
def entryLine (entry : Entry) : List Char := entry.key ++ [' ', '=', ' '] ++ entry.value

/-- The lines `config_save` writes for a section: its name in brackets, its
entries, and a blank line. -/
def sectionLines (sec : Section) : List (List Char) :=
  ('[' :: sec.name ++ [']']) :: sec.entries.map entryLine ++ [[]]

/-- The serialization loop of `config_save`: every line ended by `std::endl`. -/
def serialize (config : Config) : List Char :=
  (config.sections.flatMap sectionLines).flatMap (· ++ ['\n'])

/-- The text `config_save` writes: `fprintf` with `%s` writes the serialized
string up to its first NUL. -/
def configSave (config : Config) : List Char := cString (serialize config)

/-- The configs the API builds: an empty config or one parsed from a file,
changed by any sequence of `config_set_string` (which the integer, 64-bit and
boolean setters call), `config_remove_key` and `config_remove_section`, and the
clones of such configs. -/
inductive Reachable : Config → Prop
  | empty : Reachable configNewEmpty
  | parsed (text : List Char) (config : Config) (parsed : configParse text = some config) :
    Reachable config
  | setString (config : Config) (name key value : List Char) :
    Reachable config → Reachable (configSetString config name key value)
  | removeKey (config : Config) (name key : List Char) :
    Reachable config → Reachable (configRemoveKey config name key).1
  | removeSection (config : Config) (name : List Char) :
    Reachable config → Reachable (configRemoveSection config name).1
  | newClone (config : Config) : Reachable config → Reachable (configNewClone config)

/-- A parsed line leaves the config as it was or sets a key in it. -/
theorem parseLine_config (state next : List Char × Config) (line : List Char)
    (parsed : parseLine state line = some next) :
    next.2 = state.2 ∨ ∃ name key value, next.2 = configSetString state.2 name key value := by
  unfold parseLine at parsed
  split at parsed
  · cases parsed
    exact .inl rfl
  · split at parsed
    · cases parsed
      exact .inl rfl
    · split at parsed
      · split at parsed
        · cases parsed
        · cases parsed
          exact .inl rfl
      · split at parsed
        · cases parsed
        · cases parsed
          exact .inr ⟨_, _, _, rfl⟩

/-- What `config_set_string` keeps, a parse keeps. -/
theorem configParse_preserves (invariant : Config → Prop) (empty : invariant configNewEmpty)
    (setKeeps : ∀ config name key value, invariant config → invariant (configSetString config name key value))
    (text : List Char) (config : Config) (parsed : configParse text = some config) : invariant config := by
  have folded (lines : List (List Char)) (state next : List Char × Config) (holds : invariant state.2)
      (ran : lines.foldlM parseLine state = some next) : invariant next.2 := by
    induction lines generalizing state with
    | nil =>
      cases ran
      exact holds
    | cons line rest ih =>
      obtain ⟨middle, stepped, later⟩ := Option.bind_eq_some_iff.mp ran
      refine ih middle ?_ later
      rcases parseLine_config state middle line stepped with same | ⟨name, key, value, set⟩
      · exact same ▸ holds
      · exact set ▸ setKeeps _ name key value holds
  obtain ⟨final, ran, rfl⟩ := Option.map_eq_some_iff.mp parsed
  exact folded _ _ final empty ran

/-- Over every sequence of operations, from an empty or a parsed config, section
names and the keys of a section stay distinct and no value holds a newline. -/
theorem reachable_wellFormed (config : Config) (reachable : Reachable config) : WellFormed config := by
  induction reachable with
  | empty => exact wellFormed_configNewEmpty
  | parsed text config parsed =>
    exact configParse_preserves WellFormed wellFormed_configNewEmpty configSetString_wellFormed text config parsed
  | setString config name key value _ ih => exact configSetString_wellFormed config name key value ih
  | removeKey config name key _ ih => exact configRemoveKey_wellFormed config name key ih
  | removeSection config name _ ih => exact configRemoveSection_wellFormed config name ih
  | newClone config _ => exact configNewClone_wellFormed config

/-- `config_remove_key` keeps the section it empties: after one key is set and
removed, `config_has_section` still finds its section, which has no key. -/
theorem configRemoveKey_keepsEmptySection :
    let config : Config := (configRemoveKey (configSetString configNewEmpty ['A'] ['k'] ['v']) ['A'] ['k']).1
    Reachable config ∧ configHasSection config ['A'] = true ∧ config.sections = [⟨['A'], []⟩] :=
  ⟨.removeKey _ _ _ (.setString _ _ _ _ .empty), rfl, rfl⟩

/-! ## Saving and parsing back -/

/-- A text with no white space at either end. -/
def Trimmed (text : List Char) : Prop :=
  (∀ c ∈ text.head?, isSpace c = false) ∧ ∀ c ∈ text.getLast?, isSpace c = false

/-- Each end is checked on the one character there, never by a search over all
characters. -/
instance (text : List Char) : Decidable (Trimmed text) :=
  @instDecidableAnd _ _ (Option.decidableForallMem text.head?)
    (Option.decidableForallMem text.getLast?)

theorem dropWhile_trimmed (text : List Char) (trimmed : Trimmed text) :
    text.dropWhile isSpace = text := by
  cases text with
  | nil => rfl
  | cons c rest =>
    have notSpace : isSpace c = false := trimmed.1 c rfl
    rw [List.dropWhile_cons_of_neg (by simp [notSpace])]

theorem rdropWhile_trimmed (text : List Char) (trimmed : Trimmed text) :
    text.rdropWhile isSpace = text := by
  rw [List.rdropWhile_eq_self_iff]
  intro nonempty
  have notSpace := trimmed.2 (text.getLast nonempty) (List.getLast?_eq_some_getLast nonempty)
  simp [notSpace]

/-- Cutting what a predicate holds of at the end stops at the last element it
does not hold of. -/
theorem rdropWhile_append_cons {α : Type} (p : α → Bool) (front : List α) (x : α) (back : List α)
    (kept : p x = false) : (front ++ x :: back).rdropWhile p = front ++ x :: back.rdropWhile p := by
  induction back using List.reverseRecOn with
  | nil => simp [kept]
  | append_singleton back y ih =>
    have regrouped : front ++ x :: (back ++ [y]) = (front ++ x :: back) ++ [y] := by simp
    rw [regrouped, List.rdropWhile_concat, List.rdropWhile_concat, ih]
    split <;> simp

/-- `fgets` reads a line that fits its buffer up to and including its newline. -/
theorem fgets_line (room : Nat) (line rest : List Char) (noNewline : '\n' ∉ line)
    (fits : line.length < room) : fgets room (line ++ '\n' :: rest) = (line ++ ['\n'], rest) := by
  induction line generalizing room with
  | nil =>
    obtain ⟨room, rfl⟩ : ∃ left, room = left + 1 := ⟨room - 1, by simp at fits; omega⟩
    simp [fgets]
  | cons c line ih =>
    obtain ⟨room, rfl⟩ : ∃ left, room = left + 1 := ⟨room - 1, by simp at fits; omega⟩
    have other : c ≠ '\n' := fun same => noNewline (same ▸ List.mem_cons_self)
    have rest := ih room (fun member => noNewline (List.mem_cons_of_mem _ member)) (by simp at fits; omega)
    simp only [List.cons_append, fgets, other, if_false, rest]

theorem readLines_succ (reads : Nat) (text : List Char) (nonempty : text ≠ []) :
    readLines (reads + 1) text = (fgets 1023 text).1 :: readLines reads (fgets 1023 text).2 := by
  cases text with
  | nil => exact absurd rfl nonempty
  | cons c rest => rfl

/-- Lines without a newline, each shorter than the buffer, are read back one
`fgets` each. -/
theorem readLines_lines (lines : List (List Char)) (reads : Nat) (enough : lines.length ≤ reads)
    (short : ∀ line ∈ lines, '\n' ∉ line ∧ line.length < 1023) :
    readLines reads (lines.flatMap (· ++ ['\n'])) = lines.map (· ++ ['\n']) := by
  induction lines generalizing reads with
  | nil => cases reads <;> rfl
  | cons line rest ih =>
    obtain ⟨reads, rfl⟩ : ∃ left, reads = left + 1 := ⟨reads - 1, by simp at enough; omega⟩
    obtain ⟨noNewline, fits⟩ := short line List.mem_cons_self
    have text : (line :: rest).flatMap (· ++ ['\n']) = line ++ '\n' :: rest.flatMap (· ++ ['\n']) := by
      simp
    rw [text, readLines_succ _ _ (by simp), fgets_line 1023 line _ noNewline fits,
      ih reads (by simpa using enough) (fun other member => short other (List.mem_cons_of_mem _ member))]
    rfl

/-- Every line takes at least its newline. -/
theorem length_le_flatMap_newline (lines : List (List Char)) :
    lines.length ≤ (lines.flatMap (· ++ ['\n'])).length := by
  induction lines with
  | nil => rfl
  | cons line rest ih =>
    simp only [List.flatMap_cons, List.length_append, List.length_cons]
    omega

/-- A section line names the section: all it holds between its brackets, when
that holds no NUL. -/
theorem parseLine_header (state : List Char × Config) (name : List Char) (noNul : '\x00' ∉ name) :
    parseLine state (('[' :: name ++ [']']) ++ ['\n']) = some (name, state.2) := by
  have whole : cString (('[' :: name ++ [']']) ++ ['\n']) = ('[' :: name ++ [']']) ++ ['\n'] :=
    takeWhile_ne_self _ _ (by simp [noNul])
  have dropped : (('[' :: name ++ [']']) ++ ['\n']).dropWhile isSpace = ('[' :: name ++ [']']) ++ ['\n'] := by
    simp only [List.cons_append]
    exact List.dropWhile_cons_of_neg (by decide)
  have trimmed : trim (('[' :: name ++ [']']) ++ ['\n']) = '[' :: name ++ [']'] := by
    rw [trim, dropped, List.rdropWhile_concat_pos isSpace _ '\n' (by decide),
      List.rdropWhile_concat_neg isSpace _ ']' (by decide)]
  have closed : ('[' :: name ++ [']']).getLast? = some ']' := List.getLast?_concat
  rw [parseLine, whole, trimmed]
  simp only [List.cons_append] at closed ⊢
  simp [closed]

/-- The split at the first `=` of a text with none before it. -/
theorem splitAtEquals_append (before after : List Char) (noEquals : '=' ∉ before) :
    splitAtEquals (before ++ '=' :: after) = some (before, after) := by
  have others : ∀ c ∈ before, (c != '=') = true := by
    intro c member
    have other : c ≠ '=' := fun same => noEquals (same ▸ member)
    simpa using other
  rw [splitAtEquals, if_pos (by simp), List.takeWhile_append_of_pos others,
    List.dropWhile_append_of_pos others]
  simp

/-- The key/value line of an entry after `trim`: the key, the separator, and the
value after the blank that the line puts before it, trailing white space cut. -/
theorem trim_entryLine (entry : Entry) (keyTrimmed : Trimmed entry.key) (keyNonempty : entry.key ≠ []) :
    trim (entryLine entry ++ ['\n']) =
      (entry.key ++ [' ']) ++ '=' :: (' ' :: entry.value).rdropWhile isSpace := by
  obtain ⟨k, ks, split⟩ := List.exists_cons_of_ne_nil keyNonempty
  have notSpace : isSpace k = false := keyTrimmed.1 k (by simp [split])
  have regrouped : entryLine entry = (entry.key ++ [' ']) ++ '=' :: ' ' :: entry.value := by
    simp [entryLine]
  have dropped : (entryLine entry ++ ['\n']).dropWhile isSpace = entryLine entry ++ ['\n'] := by
    rw [entryLine, split, List.cons_append, List.cons_append, List.cons_append,
      List.dropWhile_cons_of_neg (by simp [notSpace])]
  rw [trim, dropped, List.rdropWhile_concat_pos isSpace _ '\n' (by decide), regrouped,
    rdropWhile_append_cons _ _ _ _ (by decide)]

/-- The value part of a key/value line is the value again after `trim`. -/
theorem trim_valuePart (value : List Char) (valueTrimmed : Trimmed value) :
    trim ((' ' :: value).rdropWhile isSpace) = value := by
  cases value with
  | nil => rfl
  | cons c rest =>
    have kept : (' ' :: c :: rest).rdropWhile isSpace = ' ' :: c :: rest := by
      rw [List.rdropWhile_eq_self_iff]
      intro nonempty
      have notSpace := valueTrimmed.2 ((c :: rest).getLast (List.cons_ne_nil c rest))
        (List.getLast?_eq_some_getLast _)
      simpa [List.getLast_cons] using notSpace
    rw [kept, trim, List.dropWhile_cons_of_pos (by decide), dropWhile_trimmed _ valueTrimmed,
      rdropWhile_trimmed _ valueTrimmed]

/-- The key part of a key/value line is the key again after `trim`. -/
theorem trim_keyPart (key : List Char) (keyTrimmed : Trimmed key) (keyNonempty : key ≠ []) :
    trim (key ++ [' ']) = key := by
  obtain ⟨k, ks, split⟩ := List.exists_cons_of_ne_nil keyNonempty
  have notSpace : isSpace k = false := keyTrimmed.1 k (by simp [split])
  have dropped : (key ++ [' ']).dropWhile isSpace = key ++ [' '] := by
    rw [split, List.cons_append, List.dropWhile_cons_of_neg (by simp [notSpace])]
  rw [trim, dropped, List.rdropWhile_concat_pos isSpace _ ' ' (by decide), rdropWhile_trimmed _ keyTrimmed]

/-- A line that `trim` leaves as a key, `=` and the rest sets the key, trimmed,
to the rest, trimmed, in the section named last, when the key is not empty, has
no `=` and opens neither a comment nor a section line. -/
theorem parseLine_keyValue (state : List Char × Config) (line key value : List Char)
    (trimmed : trim (cString line) = key ++ '=' :: value) (keyNonempty : key ≠ [])
    (noEquals : '=' ∉ key) (noComment : key.head? ≠ some '#') (noSection : key.head? ≠ some '[') :
    parseLine state line = some (state.1, configSetString state.2 state.1 (trim key) (trim value)) := by
  obtain ⟨k, ks, rfl⟩ := List.exists_cons_of_ne_nil keyNonempty
  have notComment : k ≠ '#' := fun same => noComment (by rw [same]; rfl)
  have notSection : k ≠ '[' := fun same => noSection (by rw [same]; rfl)
  rw [parseLine, trimmed, List.cons_append]
  dsimp only
  rw [if_neg notComment, if_neg notSection, ← List.cons_append, splitAtEquals_append _ _ noEquals]

/-- The line `config_save` writes for an entry sets it again, in the section
named last. -/
theorem parseLine_entry (state : List Char × Config) (entry : Entry)
    (keyTrimmed : Trimmed entry.key) (keyNonempty : entry.key ≠ []) (noEquals : '=' ∉ entry.key)
    (noComment : entry.key.head? ≠ some '#') (noSection : entry.key.head? ≠ some '[')
    (valueTrimmed : Trimmed entry.value) (noNul : '\x00' ∉ entryLine entry) :
    parseLine state (entryLine entry ++ ['\n']) =
      some (state.1, configSetString state.2 state.1 entry.key entry.value) := by
  have whole : cString (entryLine entry ++ ['\n']) = entryLine entry ++ ['\n'] :=
    takeWhile_ne_self _ _ (by simp [noNul])
  have keyHead : (entry.key ++ [' ']).head? = entry.key.head? := by
    obtain ⟨k, ks, split⟩ := List.exists_cons_of_ne_nil keyNonempty
    rw [split]
    rfl
  have parsed := parseLine_keyValue state (entryLine entry ++ ['\n']) (entry.key ++ [' '])
    ((' ' :: entry.value).rdropWhile isSpace) (by rw [whole, trim_entryLine entry keyTrimmed keyNonempty])
    (by simp) (by simp [noEquals]) (by rwa [keyHead]) (by rwa [keyHead])
  rwa [trim_keyPart entry.key keyTrimmed keyNonempty, trim_valuePart entry.value valueTrimmed] at parsed

/-- An entry that `config_save` writes as a line `config_parse` reads back:
key and value with no white space at either end and no newline, a key that is
not empty, has no `=` and opens neither a comment nor a section line, and a
line shorter than the 1023 characters one `fgets` reads. -/
@[mk_iff] structure EntrySaveable (entry : Entry) : Prop where
  keyTrimmed : Trimmed entry.key
  keyNoNewline : '\n' ∉ entry.key
  keyNonempty : entry.key ≠ []
  keyNoEquals : '=' ∉ entry.key
  keyNoComment : entry.key.head? ≠ some '#'
  keyNoSection : entry.key.head? ≠ some '['
  valueTrimmed : Trimmed entry.value
  valueNoNewline : '\n' ∉ entry.value
  short : (entryLine entry).length < 1023

/-- A section that `config_save` writes as lines `config_parse` reads back: a
name with no white space at either end and no newline, at least one entry, and
a section line shorter than 1023 characters. -/
@[mk_iff] structure SectionSaveable (sec : Section) : Prop where
  nameTrimmed : Trimmed sec.name
  nameNoNewline : '\n' ∉ sec.name
  nonempty : sec.entries ≠ []
  short : ('[' :: sec.name ++ [']']).length < 1023
  entries : ∀ entry ∈ sec.entries, EntrySaveable entry

instance (entry : Entry) : Decidable (EntrySaveable entry) :=
  decidable_of_iff _ (entrySaveable_iff entry).symm

instance (sec : Section) : Decidable (SectionSaveable sec) :=
  decidable_of_iff _ (sectionSaveable_iff sec).symm

/-- Every section and entry of the config is saveable. -/
def Saveable (config : Config) : Prop := ∀ sec ∈ config.sections, SectionSaveable sec

instance (config : Config) : Decidable (Saveable config) :=
  inferInstanceAs (Decidable (∀ sec ∈ config.sections, SectionSaveable sec))

/-- No name, key or value holds a NUL byte. -/
def NulFree (config : Config) : Prop :=
  ∀ sec ∈ config.sections, '\x00' ∉ sec.name ∧ ∀ entry ∈ sec.entries, '\x00' ∉ entry.key ∧ '\x00' ∉ entry.value

instance (config : Config) : Decidable (NulFree config) :=
  inferInstanceAs (Decidable (∀ sec ∈ config.sections, '\x00' ∉ sec.name ∧
    ∀ entry ∈ sec.entries, '\x00' ∉ entry.key ∧ '\x00' ∉ entry.value))

/-- Parsing the lines `config_save` writes for a section sets its entries, in
order, into the section it names. -/
theorem foldlM_sectionLines (sec : Section) (state : List Char × Config) (nameNoNul : '\x00' ∉ sec.name)
    (entriesNoNul : ∀ entry ∈ sec.entries, '\x00' ∉ entry.key ∧ '\x00' ∉ entry.value)
    (saveable : ∀ entry ∈ sec.entries, EntrySaveable entry) :
    ((sectionLines sec).map (· ++ ['\n'])).foldlM parseLine state =
      some (sec.name, setEntries state.2 sec.name sec.entries) := by
  have entries (entries : List Entry) (config : Config)
      (entriesNoNul : ∀ entry ∈ entries, '\x00' ∉ entry.key ∧ '\x00' ∉ entry.value)
      (saveable : ∀ entry ∈ entries, EntrySaveable entry) :
      ((entries.map entryLine).map (· ++ ['\n'])).foldlM parseLine (sec.name, config) =
        some (sec.name, setEntries config sec.name entries) := by
    induction entries generalizing config with
    | nil => rfl
    | cons entry rest ih =>
      obtain ⟨keyNoNul, valueNoNul⟩ := entriesNoNul entry List.mem_cons_self
      have fits := saveable entry List.mem_cons_self
      have set := parseLine_entry (sec.name, config) entry fits.keyTrimmed fits.keyNonempty fits.keyNoEquals
        fits.keyNoComment fits.keyNoSection fits.valueTrimmed (by simp [entryLine, keyNoNul, valueNoNul])
      rw [List.map_cons, List.map_cons, List.foldlM_cons, set]
      exact ih _ (fun other member => entriesNoNul other (List.mem_cons_of_mem _ member))
        (fun other member => saveable other (List.mem_cons_of_mem _ member))
  have header := parseLine_header state sec.name nameNoNul
  have body := entries sec.entries state.2 entriesNoNul saveable
  -- the section line names the section, then come the entries and the blank line
  rw [sectionLines, List.map_append, List.foldlM_append, List.map_cons, List.foldlM_cons, header]
  show ((sec.entries.map entryLine).map (· ++ ['\n'])).foldlM parseLine (sec.name, state.2) >>=
    (fun next => ([[]].map (· ++ ['\n'])).foldlM parseLine next) = _
  rw [body]
  rfl

/-- Parsing the lines `config_save` writes for the sections sets their entries
in order, as a clone does. -/
theorem foldlM_sections (sections : List Section) (state : List Char × Config)
    (saveable : ∀ sec ∈ sections, SectionSaveable sec)
    (noNul : ∀ sec ∈ sections, '\x00' ∉ sec.name ∧
      ∀ entry ∈ sec.entries, '\x00' ∉ entry.key ∧ '\x00' ∉ entry.value) :
    ∃ name, ((sections.flatMap sectionLines).map (· ++ ['\n'])).foldlM parseLine state =
      some (name, sections.foldl (fun config sec => setEntries config sec.name sec.entries) state.2) := by
  induction sections generalizing state with
  | nil => exact ⟨state.1, rfl⟩
  | cons sec rest ih =>
    obtain ⟨nameNoNul, entriesNoNul⟩ := noNul sec List.mem_cons_self
    have first := foldlM_sectionLines sec state nameNoNul entriesNoNul
      (saveable sec List.mem_cons_self).entries
    obtain ⟨name, later⟩ := ih (sec.name, setEntries state.2 sec.name sec.entries)
      (fun other member => saveable other (List.mem_cons_of_mem _ member))
      (fun other member => noNul other (List.mem_cons_of_mem _ member))
    refine ⟨name, ?_⟩
    rw [List.flatMap_cons, List.map_append, List.foldlM_append, first]
    exact later

/-- The lines `config_save` writes for saveable sections have no newline and fit
one `fgets` each. -/
theorem sectionLines_short (sections : List Section) (saveable : ∀ sec ∈ sections, SectionSaveable sec) :
    ∀ line ∈ sections.flatMap sectionLines, '\n' ∉ line ∧ line.length < 1023 := by
  intro line member
  obtain ⟨sec, inSections, inLines⟩ := List.mem_flatMap.mp member
  have fits := saveable sec inSections
  simp only [sectionLines, List.cons_append, List.mem_cons, List.mem_append, List.mem_map,
    List.not_mem_nil, or_false] at inLines
  rcases inLines with rfl | ⟨entry, inEntries, rfl⟩ | rfl
  · exact ⟨by simp [fits.nameNoNewline], fits.short⟩
  · have entryFits := fits.entries entry inEntries
    exact ⟨by simp [entryLine, entryFits.keyNoNewline, entryFits.valueNoNewline], entryFits.short⟩
  · exact ⟨List.not_mem_nil, by decide⟩

/-- Without a NUL in its texts, the serialized config holds none, and
`fprintf` writes it whole. -/
theorem nul_not_mem_serialize (config : Config) (noNul : NulFree config) : '\x00' ∉ serialize config := by
  intro member
  obtain ⟨line, inLines, inLine⟩ := List.mem_flatMap.mp member
  obtain ⟨sec, inSections, inSec⟩ := List.mem_flatMap.mp inLines
  obtain ⟨nameNoNul, entriesNoNul⟩ := noNul sec inSections
  simp only [sectionLines, List.cons_append, List.mem_cons, List.mem_append, List.mem_map,
    List.not_mem_nil, or_false] at inSec
  rcases inSec with rfl | ⟨entry, inEntries, rfl⟩ | rfl
  · simp [nameNoNul] at inLine
  · obtain ⟨keyNoNul, valueNoNul⟩ := entriesNoNul entry inEntries
    simp [entryLine, keyNoNul, valueNoNul] at inLine
  · simp at inLine

/-- `config_parse` reads the text `config_save` writes for a saveable config
without NUL as the config's clone. -/
theorem configParse_serialize (config : Config) (saveable : Saveable config) (noNul : NulFree config) :
    configParse (serialize config) = some (configNewClone config) := by
  have lines := readLines_lines (config.sections.flatMap sectionLines) (serialize config).length
    (length_le_flatMap_newline _) (sectionLines_short config.sections saveable)
  obtain ⟨name, parsed⟩ := foldlM_sections config.sections (configDefaultSection, configNewEmpty) saveable noNul
  rw [configParse, serialize] at *
  rw [lines, parsed]
  rfl

/-- Every config the API builds whose texts are saveable and hold no NUL is read
back by `config_parse` from the text `config_save` writes: the same sections in
the same order, each with the same keys in the same order and the same values. -/
theorem configParse_configSave (config : Config) (reachable : Reachable config)
    (saveable : Saveable config) (noNul : NulFree config) :
    configParse (configSave config) = some config := by
  have whole : configSave config = serialize config :=
    takeWhile_ne_self _ _ (nul_not_mem_serialize config noNul)
  have noEmpty : NoEmptySection config := fun sec member => (saveable sec member).nonempty
  rw [whole, configParse_serialize config saveable noNul,
    configNewClone_eq config (reachable_wellFormed config reachable) noEmpty]

/-- Two sections set one after the other are saved and parsed back as the same
configuration. -/
theorem configParse_configSave_twoSections :
    let config : Config :=
      configSetString (configSetString configNewEmpty ['A'] ['k'] ['1']) ['B'] ['x'] ['y']
    Saveable config ∧ NulFree config ∧ configParse (configSave config) = some config :=
  ⟨by decide, by decide, configParse_configSave _ (.setString _ _ _ _ (.setString _ _ _ _ .empty))
    (by decide) (by decide)⟩

/-- A NUL byte in a value ends the text `fprintf` writes: the rest of the value,
and of the file, is lost, and the config read back differs. -/
theorem configSave_nulInValue :
    let config : Config := configSetString configNewEmpty ['S'] ['k'] ['a', '\x00', 'b']
    Reachable config ∧ Saveable config ∧
      configParse (configSave config) = some (configSetString configNewEmpty ['S'] ['k'] ['a']) ∧
      configParse (configSave config) ≠ some config :=
  ⟨.setString _ _ _ _ .empty, by decide, by decide, by decide⟩

end Fluoride.OsiConfig
