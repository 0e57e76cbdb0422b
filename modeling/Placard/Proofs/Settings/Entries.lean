import Placard.Proofs.Record.Halted
import Placard.Settings.Reading

/-!
# Settings from entries

The extensions of Markdown are read from their own entry, and all other settings from the other
entries. So entries that differ in the entry of the extensions alone describe settings that differ in
the extensions alone (`readEntries_of_extensions`).
-/

namespace Placard.Settings

open Data Record

/-- The name of the setting of the extensions of Markdown. -/
def extensionsName : String :=
  "markdown_extensions"

/-- Entries under names. -/
def named (ms : List (String × Value)) : Entries :=
  ms.map fun m => (.text m.1, m.2)

/-! ## The other entries -/

/-- The entries but those of a name. -/
def others (name : String) (es : Entries) : Entries :=
  es.filter fun e => !isNamed name e.1

section

variable {name other : String} {es es' : Entries} {v : Value}

theorem sameKey_text_right (key : Value) (name : String) :
    Value.sameKey key (.text name) = isNamed name key := by
  cases key with
  | float x => simp [Value.sameKey, isNamed, Value.asInt?]
  | _ => rfl

/-- An entry is no entry of two names. -/
theorem isNamed_of_ne (h : other ≠ name) {key : Value} (hkey : isNamed other key = true) :
    isNamed name key = false := by
  cases key with
  | text s =>
    obtain rfl := beq_iff_eq.mp hkey
    exact beq_eq_false_iff_ne.mpr h
  | _ => rfl

theorem others_cons (key v : Value) (es : Entries) : others name ((key, v) :: es) =
    if isNamed name key then others name es else (key, v) :: others name es := by
  unfold others
  cases hkey : isNamed name key
  · rw [List.filter_cons_of_pos (by simp [hkey]), if_neg (by decide)]
  · rw [List.filter_cons_of_neg (by simp [hkey]), if_pos rfl]

theorem find?_others (h : other ≠ name) (es : Entries) :
    Value.find? other (others name es) = Value.find? other es := by
  induction es with
  | nil => rfl
  | cons e es ih =>
    obtain ⟨key, v⟩ := e
    rw [others_cons, find?_cons]
    cases hkey : isNamed other key with
    | true => simp [isNamed_of_ne h hkey, find?_cons, hkey]
    | false =>
      cases hname : isNamed name key
      · simp [find?_cons, hkey, ih]
      · simp [ih]

/-- Writing an entry changes the other entries if it is one of them. -/
theorem others_writeEntry (v : Value) (es : Entries) :
    others name (Value.writeEntry (.text other) v es) =
      if other = name then others name es
      else Value.writeEntry (.text other) v (others name es) := by
  induction es with
  | nil => by_cases h : other = name <;> simp [Value.writeEntry, others, isNamed, h]
  | cons e es ih =>
    obtain ⟨key, w⟩ := e
    rw [Value.writeEntry, sameKey_text_right]
    by_cases h : other = name
    · subst h
      rw [if_pos rfl] at ih ⊢
      cases hkey : isNamed other key <;> simp [others_cons, hkey, ih]
    · rw [if_neg h] at ih ⊢
      cases hkey : isNamed other key with
      | true => simp [others_cons, isNamed_of_ne h hkey, Value.writeEntry, sameKey_text_right, hkey]
      | false =>
        cases hname : isNamed name key <;>
          simp [others_cons, hname, ih, Value.writeEntry, sameKey_text_right, hkey]

theorem find?_writeEntry (v : Value) (es : Entries) :
    Value.find? name (Value.writeEntry (.text other) v es) =
      if other = name then some v else Value.find? name es := by
  induction es with
  | nil => by_cases h : other = name <;> simp [Value.writeEntry, h, Value.find?]
  | cons e es ih =>
    obtain ⟨key, w⟩ := e
    rw [Value.writeEntry, sameKey_text_right]
    cases hkey : isNamed other key with
    | true =>
      by_cases h : other = name
      · subst h
        simp [find?_cons, hkey]
      · simp [find?_cons, isNamed_of_ne h hkey, h]
    | false =>
      rw [if_neg (by decide), find?_cons, find?_cons, ih]
      by_cases h : other = name
      · subst h
        simp [hkey]
      · simp [h]

end

/-! ## Overlays -/

section

variable {name : String}

/-- What is written over entries changes the others as far as it belongs to them. -/
theorem others_overlaid (es : Entries) (ms : List (String × Value)) :
    others name (overlaid es (named ms)) =
      overlaid (others name es) (named (ms.filter (·.1 != name))) := by
  induction ms generalizing es with
  | nil => rfl
  | cons m ms ih =>
    have hstep : overlaid es (named (m :: ms)) =
      overlaid (Value.writeEntry (.text m.1) m.2 es) (named ms) := rfl
    rw [hstep, ih, others_writeEntry]
    by_cases h : m.1 = name
    · rw [if_pos h, List.filter_cons_of_neg (by simpa using h)]
    · rw [if_neg h, List.filter_cons_of_pos (by simpa using h)]
      rfl

/-- The last of what is written under a name is found there. -/
theorem find?_overlaid (es : Entries) (ms : List (String × Value)) :
    Value.find? name (overlaid es (named ms)) =
      ((ms.filter (·.1 == name)).getLast?.map (·.2)).or (Value.find? name es) := by
  induction ms generalizing es with
  | nil => rfl
  | cons m ms ih =>
    have hstep : overlaid es (named (m :: ms)) =
      overlaid (Value.writeEntry (.text m.1) m.2 es) (named ms) := rfl
    rw [hstep, ih, find?_writeEntry]
    by_cases h : m.1 = name
    · rw [if_pos h, List.filter_cons_of_pos (by simpa using h), List.getLast?_cons]
      cases (ms.filter (·.1 == name)).getLast? <;> rfl
    · rw [if_neg h, List.filter_cons_of_neg (by simpa using h)]

end

/-! ## Settings that differ in their extensions -/

/-- The settings with other extensions. -/
def withExtensions (extensions : List String) (s : Settings) : Settings :=
  { s with markdownExtensions := extensions }

section

variable {es es' : Entries}

/-- A field is read from the other entries if it does not have the name. -/
theorem field_congr {α : Type} {name field : String} (hothers : others name es' = others name es)
    (hname : field ≠ name) (hlow : lowLined field ≠ name) (read : Value → Checked α) (default : α) :
    Record.field es' field read default = Record.field es field read default := by
  have hfind : Record.find? field es' = Record.find? field es := by
    unfold Record.find?
    dsimp only
    rw [← find?_others hname es', ← find?_others hlow es', hothers, find?_others hname,
      find?_others hlow]
  unfold Record.field
  rw [hfind]

theorem onlyNames_others {name : String} {ns : List String} (h : name ∈ ns) (es : Entries) :
    onlyNames ns (others name es) = onlyNames ns es := by
  induction es with
  | nil => rfl
  | cons e es ih =>
    obtain ⟨key, v⟩ := e
    rw [others_cons]
    cases key with
    | text n =>
      by_cases hn : n = name
      · subst hn
        rw [if_pos (by simp [isNamed]), ih, onlyNames, if_pos (by simpa using h)]
      · rw [if_neg (by simpa [isNamed] using hn), onlyNames, onlyNames, ih]
    | _ => exact ih

theorem field_of_some {α : Type} {name : String} {v : Value} (h : Value.find? name es = some v)
    (read : Value → Checked α) (default : α) :
    Record.field es name read default = (read v).under name := by
  unfold Record.field Record.find?
  rw [h]

theorem field_of_none {α : Type} {name : String} (h : Value.find? name es = none)
    (hlow : lowLined name = name) (read : Value → Checked α) (default : α) :
    Record.field es name read default = .good default := by
  unfold Record.field Record.find?
  dsimp only
  rw [hlow, h]
  rfl

/-- **Another list of extensions.** -/
theorem readEntries_of_extensions {v : Value} {extensions : List String}
    (hothers : others extensionsName es' = others extensionsName es)
    (hnone : Value.find? extensionsName es = none)
    (hsome : Value.find? extensionsName es' = some v)
    (hgood : readExtensions v = .good extensions) :
    readEntries es' = withExtensions extensions <$> readEntries es := by
  have honly : onlyNames names es' = onlyNames names es := by
    have hmem : extensionsName ∈ names := by decide
    rw [← onlyNames_others hmem es', hothers, onlyNames_others hmem]
  have hfield {α : Type} (field : String) (hname : field ≠ extensionsName)
      (hlow : lowLined field ≠ extensionsName) (read : Value → Checked α) (default : α) :=
    field_congr hothers hname hlow read default
  have hown := field_of_none hnone (by decide) readExtensions ["sane_lists"]
  have hown' := field_of_some hsome readExtensions ["sane_lists"]
  rw [hgood] at hown'
  unfold readEntries
  dsimp only
  rw [honly, hfield "app_name" (by decide) (by decide), hfield "app_version" (by decide) (by decide),
    hfield "environment" (by decide) (by decide), hfield "debug" (by decide) (by decide),
    hfield "log_level" (by decide) (by decide), hfield "host_config_path" (by decide) (by decide),
    hfield "supports_interactivity" (by decide) (by decide),
    hfield "page_title" (by decide) (by decide)]
  unfold extensionsName at hown hown'
  rw [hown, hown']
  simp only [Checked.map_seq, Checked.map_map, Checked.under, Checked.seq_good]
  rfl

end

/-- The extensions are what their field gives. -/
theorem extensions_of_readEntries {es : Entries} {s : Settings} (h : readEntries es = .good s) :
    Record.field es extensionsName readExtensions ["sane_lists"] = .good s.markdownExtensions := by
  unfold readEntries at h
  simp only [Checked.seq_eq_good, Checked.map_eq_good] at h
  -- the fields of the settings, from the last one to the first
  obtain ⟨_, ⟨t, ⟨_, ⟨_, ⟨_, ⟨_, ⟨_, ⟨_, ⟨_, ⟨_, ⟨_, _, rfl⟩, _, _, rfl⟩, _, _, rfl⟩, _, _, rfl⟩,
    _, _, rfl⟩, _, _, rfl⟩, _, _, rfl⟩, _, hown, rfl⟩, _, _, rfl⟩, rfl⟩, _, _, rfl⟩ := h
  exact hown

/-! ## Settings are read to the end -/

theorem isHalted_readEnvironment (v : Value) : (readEnvironment v).isHalted = false := by
  refine Checked.isHalted_thenCheck (isHalted_text v) fun s => ?_
  split <;> rfl

theorem isHalted_readLogLevel (v : Value) : (readLogLevel v).isHalted = false := by
  refine Checked.isHalted_thenCheck (isHalted_text v) fun s => ?_
  split <;> rfl

theorem isHalted_readConfigPath (v : Value) : (readConfigPath v).isHalted = false := by
  unfold readConfigPath
  split
  · dsimp only
    split <;> rfl
  · rfl

theorem isHalted_readExtensions (v : Value) : (readExtensions v).isHalted = false := by
  have hlist (v : Value) : (listOf text v).isHalted = false :=
    isHalted_listOf_of_forall isHalted_text v
  unfold readExtensions
  split
  · dsimp only
    split
    · split
      · exact hlist _
      · rfl
    · rfl
  · exact hlist v

theorem isHalted_onlyNames (ns : List String) (es : Entries) :
    (onlyNames ns es).isHalted = false := by
  induction es with
  | nil => rfl
  | cons e es ih =>
    obtain ⟨key, v⟩ := e
    cases key with
    | text n =>
      rw [onlyNames]
      split
      · exact ih
      · simp [ih]
    | _ => exact ih

theorem isHalted_readEntries (es : Entries) : (readEntries es).isHalted = false := by
  unfold readEntries
  simp only [Checked.isHalted_seq, Checked.isHalted_fmap, isHalted_onlyNames,
    isHalted_field isHalted_text, isHalted_field isHalted_readEnvironment,
    isHalted_field isHalted_switch, isHalted_field isHalted_readLogLevel,
    isHalted_field (isHalted_optional isHalted_readConfigPath),
    isHalted_field (isHalted_optional isHalted_switch), isHalted_field isHalted_readExtensions,
    Bool.or_self]

end Placard.Settings
