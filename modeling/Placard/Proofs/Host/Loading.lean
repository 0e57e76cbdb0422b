import Mathlib
import Placard.Host.Source
import Placard.Proofs.Document.Role
import Placard.Proofs.Text.Utf8

/-!
# What files describe configurations

A file describes a configuration if it is a text in UTF-8 that writes an object which is read as that
configuration, or, in YAML, a value that counts as nothing, which stands for the usual one.

Everything else is a fault of the configuration, except for what is in the way of its data: octets
that are no text, and scalars that stand for nothing, interrupt loading (`load_outcome`).
-/

namespace Placard.Host

open Text File Data Record

/-! ## Checks of configurations -/

section

variable (entries : Entries) (name : String)

@[simp] theorem isHalted_wholeField (default : Int) :
    (field entries name whole default).isHalted = false :=
  isHalted_field isHalted_whole entries name default

@[simp] theorem isHalted_requiredText : (required entries name text).isHalted = false :=
  isHalted_required isHalted_text entries name

/-- A group of settings stops a check only if one of its settings does. -/
theorem isHalted_groupField {α : Type} {read : Entries → Checked α} {kind : String}
    (h : ∀ entries, (read entries).isHalted = false) (default : α) :
    (field entries name (record kind read) default).isHalted = false :=
  isHalted_field (isHalted_record h kind) entries name default

@[simp] theorem isHalted_readFontSizes : (readFontSizes entries).isHalted = false := by
  simp [readFontSizes]

@[simp] theorem isHalted_readSpacings : (readSpacings entries).isHalted = false := by
  simp [readSpacings]

@[simp] theorem isHalted_readSeparator : (readSeparator entries).isHalted = false := by
  simp [readSeparator]

@[simp] theorem isHalted_readImageSizes : (readImageSizes entries).isHalted = false := by
  simp [readImageSizes]

@[simp] theorem isHalted_readColorPair : (readColorPair entries).isHalted = false := by
  simp [readColorPair]

@[simp] theorem isHalted_readForegroundColors :
    (readForegroundColors entries).isHalted = false := by
  simp [readForegroundColors, isHalted_groupField]

@[simp] theorem isHalted_readContainerStyle : (readContainerStyle entries).isHalted = false := by
  simp [readContainerStyle, isHalted_groupField]

@[simp] theorem isHalted_readContainerStyles :
    (readContainerStyles entries).isHalted = false := by
  simp [readContainerStyles, isHalted_groupField]

@[simp] theorem isHalted_readFactText : (readFactText entries).isHalted = false := by
  simp [readFactText]

@[simp] theorem isHalted_readFactSetLayout : (readFactSetLayout entries).isHalted = false := by
  simp [readFactSetLayout, isHalted_groupField]

@[simp] theorem isHalted_readShowCardLayout : (readShowCardLayout entries).isHalted = false := by
  simp [readShowCardLayout]

@[simp] theorem isHalted_readActionLayout : (readActionLayout entries).isHalted = false := by
  simp [readActionLayout, isHalted_groupField]

@[simp] theorem isHalted_readConfigEntries : (readConfigEntries entries).isHalted = false := by
  have hfamily :=
    isHalted_field (isHalted_optional isHalted_text) entries "fontFamily" (some "Segoe UI")
  simp [readConfigEntries, isHalted_groupField, hfamily]

end

/-- Every value is a configuration, or what is wrong with it is known. -/
theorem isHalted_readConfig (v : Value) : (readConfig v).isHalted = false :=
  isHalted_record isHalted_readConfigEntries "HostConfig" v

/-- Only objects are configurations. -/
theorem object_of_readConfig {v : Value} {c : Config} (h : readConfig v = .good c) :
    ∃ entries, v = .map entries := by
  cases v with
  | map entries => exact ⟨entries, rfl⟩
  | _ => cases h

/-! ## Contents of files -/

/-- Whether the text of a file writes a value. -/
def Writes (path : Path) (content : List Char) (v : Value) : Prop :=
  if isYaml path then Yaml.read (String.ofList content) = .ok v
  else Json.read (String.ofList content) = .ok v

/-- Whether the octets of a file describe a configuration. -/
inductive Describes (path : Path) : List Nat → Config → Prop where
  | object {cs : List Char} {entries : Entries} {c : Config} :
      Writes path (withLineFeeds cs) (.map entries) → readConfig (.map entries) = .good c →
      Describes path (utf8 cs) c
  /-- In YAML, what counts as nothing stands for the usual configuration. -/
  | nothing {cs : List Char} {v : Value} : isYaml path = true → Writes path (withLineFeeds cs) v →
      v.truthy = false → Describes path (utf8 cs) {}

/-- Whether the octets of a file interrupt loading. -/
inductive Interrupts (path : Path) : List Nat → Prop where
  | octets {bytes : List Nat} : (∀ cs, bytes ≠ utf8 cs) → Interrupts path bytes
  /-- A scalar stands for nothing. -/
  | scalar {cs : List Char} {f : Yaml.Fault} : isYaml path = true →
      Yaml.read (String.ofList (withLineFeeds cs)) = .error f → f ≠ .malformed →
      Interrupts path (utf8 cs)

/-- Whether a fault is reported as one of the configuration. -/
def Fault.isReported : Fault → Bool
  | .octets _ => false
  | .scalar _ => false
  | _ => true

variable {files : Files} {path : Path} {content cs : List Char} {v : Value} {c : Config}

/-! ## Data and configurations -/

theorem dataOf_eq_ok : dataOf path content = .ok v ↔ ∃ w, Writes path content w ∧
    v = if isYaml path && !w.truthy then .map [] else w := by
  unfold dataOf Writes
  cases isYaml path with
  | true =>
    simp only [if_true, Bool.true_and]
    cases hread : Yaml.read (String.ofList content) with
    | ok w =>
      have hvalue : (if w.truthy = true then w else .map []) =
          if (!w.truthy) = true then .map [] else w := by
        cases w.truthy <;> rfl
      simp only [Except.ok.injEq, exists_eq_left', hvalue]
      exact eq_comm
    | error f => cases f <;> simp
  | false =>
    simp only [Bool.false_eq_true, if_false, Bool.false_and]
    cases Json.read (String.ofList content) with
    | ok w =>
      simp only [Except.ok.injEq, exists_eq_left']
      exact eq_comm
    | error f => simp

theorem dataOf_unreported : (∃ f, dataOf path content = .error f ∧ f.isReported = false) ↔
    isYaml path = true ∧ ∃ f, Yaml.read (String.ofList content) = .error f ∧ f ≠ .malformed := by
  unfold dataOf
  cases isYaml path with
  | true =>
    simp only [if_true, true_and]
    cases hread : Yaml.read (String.ofList content) with
    | ok w => simp
    | error f => cases f <;> simp [Fault.isReported]
  | false =>
    simp only [Bool.false_eq_true, if_false, false_and, iff_false]
    cases Json.read (String.ofList content) <;> simp [Fault.isReported]

theorem ofData_eq_ok : ofData path v = .ok c ↔ readConfig v = .good c := by
  have hgoes := isHalted_readConfig v
  unfold ofData
  cases hread : readConfig v with
  | good d => simp
  | bad first more => simp
  | halted kind =>
    rw [hread] at hgoes
    cases hgoes

theorem isReported_ofData {f : Fault} (h : ofData path v = .error f) : f.isReported = true := by
  unfold ofData at h
  split at h
  · cases h
  · obtain rfl := Except.error.inj h
    rfl
  · cases h

/-! ## Loading -/

theorem load_of_utf8 (hfile : files path = some (utf8 cs)) :
    load files path = (dataOf path (withLineFeeds cs)).bind (ofData path) := by
  have htext : readText (utf8 cs) = .ok (withLineFeeds cs) := by
    unfold readText
    rw [decode_eq_ok.mpr rfl]
    rfl
  unfold load
  rw [hfile]
  dsimp only
  rw [htext]
  rfl

theorem load_of_octets {bytes : List Nat} {f : OctetFault} (hfile : files path = some bytes)
    (h : decode bytes = .error f) : load files path = .error (.octets f) := by
  have htext : readText bytes = .error f := by
    unfold readText
    rw [h]
    rfl
  unfold load
  rw [hfile]
  dsimp only
  rw [htext]
  rfl

theorem load_eq_ok (hfile : files path = some (utf8 cs)) :
    load files path = .ok c ↔ ∃ v, dataOf path (withLineFeeds cs) = .ok v ∧
      readConfig v = .good c := by
  rw [load_of_utf8 hfile]
  cases dataOf path (withLineFeeds cs) with
  | ok v => simp [Except.bind, ofData_eq_ok]
  | error f => simp [Except.bind]

theorem load_unreported (hfile : files path = some (utf8 cs)) :
    (∃ f, load files path = .error f ∧ f.isReported = false) ↔
      ∃ f, dataOf path (withLineFeeds cs) = .error f ∧ f.isReported = false := by
  rw [load_of_utf8 hfile]
  cases dataOf path (withLineFeeds cs) with
  | error f => simp [Except.bind]
  | ok v =>
    constructor
    · rintro ⟨f, hfault, hunreported⟩
      rw [isReported_ofData hfault] at hunreported
      cases hunreported
    · rintro ⟨f, hfault, -⟩
      cases hfault

theorem describes_utf8 : Describes path (utf8 cs) c ↔
    ∃ v, dataOf path (withLineFeeds cs) = .ok v ∧ readConfig v = .good c := by
  simp only [dataOf_eq_ok]
  constructor
  · intro h
    generalize hbytes : utf8 cs = bytes at h
    cases h with
    | @object cs' entries _ hwrites hread =>
      obtain rfl := utf8_injective hbytes
      -- an object without entries counts as nothing, and is taken for itself
      have hself : (if isYaml path && !(Value.map entries).truthy then .map [] else .map entries) =
          Value.map entries := by
        cases entries <;> simp [Value.truthy]
      exact ⟨_, ⟨_, hwrites, rfl⟩, by rw [hself, hread]⟩
    | nothing hyaml hwrites hnothing =>
      obtain rfl := utf8_injective hbytes
      exact ⟨_, ⟨_, hwrites, rfl⟩, by rw [hyaml, hnothing]; rfl⟩
  · rintro ⟨v, ⟨w, hwrites, rfl⟩, hread⟩
    split at hread
    · next hnothing =>
      rw [Bool.and_eq_true, Bool.not_eq_true'] at hnothing
      obtain rfl : {} = c := Checked.good.inj hread
      exact .nothing hnothing.1 hwrites hnothing.2
    · obtain ⟨entries, rfl⟩ := object_of_readConfig hread
      exact .object hwrites hread

theorem interrupts_utf8 : Interrupts path (utf8 cs) ↔
    isYaml path = true ∧ ∃ f, Yaml.read (String.ofList (withLineFeeds cs)) = .error f ∧
      f ≠ .malformed := by
  constructor
  · intro h
    generalize hbytes : utf8 cs = bytes at h
    cases h with
    | octets hother => exact absurd hbytes.symm (hother cs)
    | scalar hyaml hread hform =>
      obtain rfl := utf8_injective hbytes
      exact ⟨hyaml, _, hread, hform⟩
  · rintro ⟨hyaml, f, hread, hform⟩
    exact .scalar hyaml hread hform

/-- Files of which each has the same octets. -/
def filled (bytes : List Nat) : Files := fun _ => some bytes

theorem filled_path (bytes : List Nat) (path : Path) : filled bytes path = some bytes := rfl

/-- A configuration with a font, whose name is not ASCII. -/
def fontContent : List Char :=
  "\x7b\"fontFamily\": \"Café\"\x7d".toList

end Placard.Host
