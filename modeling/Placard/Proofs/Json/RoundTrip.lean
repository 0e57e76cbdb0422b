import Mathlib.Data.List.Forall2
import Placard.Proofs.Json.Compact
import Placard.Proofs.Json.Writable

/-!
# Values written and read back

A value of JSON is read back from what is written for it, with what follows left over
(`exists_writes`): lists and mappings by induction over their parts, which are told apart by the
commas between them. A mapping keeps its members in their order, since no two have one name. So the
values of JSON are those that are read from some text and in which every number is one
(`isJson_iff`).
-/

namespace Placard.Json

open Text Number Data

/-! ## Values of JSON -/

/-- Whether data is a value of JSON in which every number is one: no two members of a mapping have
one name, and doubles have the form that all doubles have. -/
inductive IsJson : Value → Prop
  | null : IsJson .null
  | bool (b : Bool) : IsJson (.bool b)
  | int (i : Int) : IsJson (.int i)
  | float {x : Double} (hx : x ≠ .nan) (hform : x.IsCanonical) : IsJson (.float x)
  | text (s : String) : IsJson (.text s)
  | list {vs : List Value} (hvs : ∀ v ∈ vs, IsJson v) : IsJson (.list vs)
  | map {ms : List (String × Value)} (hnames : (ms.map (·.1)).Nodup)
      (hms : ∀ m ∈ ms, IsJson m.2) : IsJson (.ofMembers ms)

/-! ## Heads -/

/-- Whether a text begins as a value does: with no white space and no closing bracket. -/
def BeginsValue (cs : List Char) : Prop :=
  ∃ c more, cs = c :: more ∧ c ∉ [' ', '\t', '\n', '\r', ']', '\x7d']

theorem skipSpace_of_beginsValue {cs : List Char} (h : BeginsValue cs) (rest : List Char) :
    skipSpace (cs ++ rest) = cs ++ rest := by
  obtain ⟨c, more, rfl, hc⟩ := h
  have hspace : isSpace c = false := by
    simp only [List.mem_cons, not_or] at hc
    simp [isSpace, hc]
  rw [List.cons_append, skipSpace, List.dropWhile_cons_of_neg (by rw [hspace]; decide)]

/-! ## Words and numbers -/

/-- A number begins with a digit or a sign. -/
theorem number?_eq_none {c : Char} (hdigit : isAsciiDigit c = false) (hminus : c ≠ '-')
    (cs : List Char) : number? (c :: cs) = none := by
  have hspan : spanDigits (c :: cs) = ([], c :: cs) := by
    unfold spanDigits
    rw [List.takeWhile_cons_of_neg (by rw [hdigit]; decide),
      List.dropWhile_cons_of_neg (by rw [hdigit]; decide)]
    rfl
  have hwhole : wholeDigits? (c :: cs) = none := by
    unfold wholeDigits?
    split
    · next h =>
      obtain ⟨rfl, -⟩ := List.cons.inj h
      cases hdigit
    · rw [hspan]
  rw [number?.eq_def]
  split
  next negative rest h =>
  split at h
  · next h' => exact absurd (List.cons.inj h').1 hminus
  · obtain ⟨rfl, rfl⟩ := Prod.mk.inj h
    rw [hwhole]

/-- No word is a number. -/
theorem number?_word {w : String × Value} (hw : w ∈ words) (rest : List Char) :
    number? (w.1.toList ++ rest) = none := by
  simp only [words, List.mem_cons, List.not_mem_nil, or_false] at hw
  rcases hw with rfl | rfl | rfl | rfl | rfl | rfl
  · exact number?_eq_none (by decide) (by decide) _
  · exact number?_eq_none (by decide) (by decide) _
  · exact number?_eq_none (by decide) (by decide) _
  · exact number?_eq_none (by decide) (by decide) _
  · exact number?_eq_none (by decide) (by decide) _
  · rfl

/-- What begins a number begins no word. -/
theorem scalar_of_number? {cs : List Char} {p : Value × List Char} (h : number? cs = some p) :
    scalar cs = .ok p := by
  have hwords : (words.findSome? fun w => (afterStart? w.1.toList cs).map (w.2, ·)) = none := by
    rw [List.findSome?_eq_none_iff]
    intro w hw
    rw [Option.map_eq_none_iff, Option.eq_none_iff_forall_ne_some]
    intro rest hrest
    rw [afterStart_eq_some_iff.mp hrest, number?_word hw] at h
    cases h
  rw [scalar, hwords, h]

/-- What begins a number begins no other value. -/
theorem value_of_number? {cs : List Char} {p : Value × List Char} (h : number? cs = some p)
    (fuel : Nat) : value (fuel + 1) cs = .ok p := by
  unfold value
  split
  · rw [number?_eq_none (by decide) (by decide)] at h
    cases h
  · rw [number?_eq_none (by decide) (by decide)] at h
    cases h
  · rw [number?_eq_none (by decide) (by decide)] at h
    cases h
  · exact scalar_of_number? h

theorem beginsValue_of_number? {cs : List Char} {p : Value × List Char} (h : number? cs = some p) :
    BeginsValue cs := by
  cases cs with
  | nil => cases h
  | cons c cs =>
    refine ⟨c, cs, rfl, fun hc => ?_⟩
    have hall : ∀ c ∈ [' ', '\t', '\n', '\r', ']', '\x7d'],
        isAsciiDigit c = false ∧ c ≠ '-' := forall_mem_of_all (by decide)
    obtain ⟨hdigit, hminus⟩ := hall c hc
    rw [number?_eq_none hdigit hminus] at h
    cases h

/-- Every word is read as its value, for it begins with no other word. -/
theorem scalar_word {w : String × Value} (hw : w ∈ words) (rest : List Char) :
    scalar (w.1.toList ++ rest) = .ok (w.2, rest) := by
  simp only [words, List.mem_cons, List.not_mem_nil, or_false] at hw
  rcases hw with rfl | rfl | rfl | rfl | rfl | rfl <;> rfl

/-- So is it as a value. -/
theorem value_word {w : String × Value} (hw : w ∈ words) (fuel : Nat) (rest : List Char) :
    value (fuel + 1) (w.1.toList ++ rest) = .ok (w.2, rest) := by
  simp only [words, List.mem_cons, List.not_mem_nil, or_false] at hw
  rcases hw with rfl | rfl | rfl | rfl | rfl | rfl <;> rfl

theorem beginsValue_word {w : String × Value} (hw : w ∈ words) : BeginsValue w.1.toList := by
  simp only [words, List.mem_cons, List.not_mem_nil, or_false] at hw
  rcases hw with rfl | rfl | rfl | rfl | rfl | rfl <;> exact ⟨_, _, rfl, by decide⟩

/-! ## Texts of values -/

/-- Whether a text writes a value: it is what is written for the value, it is compact, and it is
read as the value, whatever follows that is no part of a number. -/
structure Writes (cs : List Char) (v : Value) : Prop where
  written : write v = .ok cs
  begins : BeginsValue cs
  compact : IsCompact cs
  read : ∀ fuel rest, 2 * cs.length ≤ fuel → Stops rest → value fuel (cs ++ rest) = .ok (v, rest)

theorem BeginsValue.exists_fuel {cs : List Char} (h : BeginsValue cs) {fuel : Nat}
    (hfuel : 2 * cs.length ≤ fuel) : ∃ less, fuel = less + 1 := by
  obtain ⟨c, more, rfl, -⟩ := h
  exact Nat.exists_eq_add_one.mpr (by rw [List.length_cons] at hfuel; omega)

theorem writes_word {w : String × Value} (hw : w ∈ words) (hwritten : write w.2 = .ok w.1.toList)
    (hmarks : ∀ c ∈ w.1.toList, IsMark c) : Writes w.1.toList w.2 where
  written := hwritten
  begins := beginsValue_word hw
  compact := isCompact_of_isMark hmarks
  read fuel rest hfuel _ := by
    obtain ⟨less, rfl⟩ := (beginsValue_word hw).exists_fuel hfuel
    exact value_word hw less rest

theorem writes_number {cs : List Char} {v : Value} (hwritten : write v = .ok cs)
    (hmarks : ∀ c ∈ cs, IsMark c)
    (hread : ∀ rest, Stops rest → number? (cs ++ rest) = some (v, rest)) : Writes cs v where
  written := hwritten
  begins := by
    have hnumber := hread [] stops_nil
    rw [List.append_nil] at hnumber
    exact beginsValue_of_number? hnumber
  compact := isCompact_of_isMark hmarks
  read fuel rest hfuel hrest := by
    have hnumber := hread rest hrest
    have hbegins := hread [] stops_nil
    rw [List.append_nil] at hbegins
    obtain ⟨less, rfl⟩ := (beginsValue_of_number? hbegins).exists_fuel hfuel
    exact value_of_number? hnumber less

theorem writes_text (s : String) : Writes (writeString s) (.text s) where
  written := rfl
  begins := ⟨'"', _, rfl, by decide⟩
  compact := isCompact_writeString s
  read fuel rest hfuel _ := by
    obtain ⟨less, rfl⟩ := BeginsValue.exists_fuel ⟨'"', _, rfl, by decide⟩ hfuel
    rw [writeString, List.append_assoc, List.cons_append]
    change (string _).map _ = _
    rw [List.singleton_append, string_flatMap]
    rfl

/-! ## Lists -/

theorem skipSpace_cons {c : Char} (h : isSpace c = false) (cs : List Char) :
    skipSpace (c :: cs) = c :: cs := by
  rw [skipSpace, List.dropWhile_cons_of_neg (by rw [h]; decide)]

theorem value_bracket {cs : List Char} (h : BeginsValue cs) (fuel : Nat) (rest : List Char) :
    value (fuel + 1) ('[' :: (cs ++ rest)) =
      (items fuel [] (cs ++ rest)).map fun p => (.list p.1, p.2) := by
  have hskip := skipSpace_of_beginsValue h rest
  obtain ⟨c, more, rfl, hc⟩ := h
  rw [value, hskip]
  split
  · next h => exact absurd (List.cons.inj h).1 fun h => hc (by simp [h])
  · rfl

/-- How a list goes on behind an item. -/
def afterItem (fuel : Nat) (seen : List Value) (rest : List Char) : Reading (List Value) :=
  match skipSpace rest with
  | ']' :: after => .ok (seen, after)
  | ',' :: after => items fuel seen (skipSpace after)
  | rest => refuse .noComma rest.length

theorem items_of_writes {cs : List Char} {v : Value} (h : Writes cs v) {fuel : Nat}
    (hfuel : 2 * cs.length ≤ fuel) (seen : List Value) {rest : List Char} (hrest : Stops rest) :
    items (fuel + 1) seen (cs ++ rest) = afterItem fuel (seen ++ [v]) rest := by
  rw [items, h.read fuel rest hfuel hrest]
  rfl

theorem BeginsValue.append {cs : List Char} (h : BeginsValue cs) (ds : List Char) :
    BeginsValue (cs ++ ds) := by
  obtain ⟨c, more, rfl, hc⟩ := h
  exact ⟨c, more ++ ds, rfl, hc⟩

/-- What begins the first part begins the parts together. -/
theorem beginsValue_joinWith {part : List Char} (h : BeginsValue part) (parts : List (List Char)) :
    BeginsValue (joinWith [','] (part :: parts)) := by
  cases parts with
  | nil => exact h
  | cons next parts => exact (h.append _).append _

theorem stops_mark {c : Char} (hc : c ∈ [',', ']', '\x7d']) (cs : List Char) : Stops (c :: cs) := by
  have hall : ∀ c ∈ [',', ']', '\x7d'],
      isAsciiDigit c = false ∧ c ≠ '.' ∧ c ≠ 'e' ∧ c ≠ 'E' := forall_mem_of_all (by decide)
  exact stops_cons (hall c hc) cs

/-- **The items of a list are read back**, by induction on the items. -/
theorem items_joinWith {parts : List (List Char)} {vs : List Value}
    (h : List.Forall₂ Writes parts vs) (hne : parts ≠ []) {fuel : Nat}
    (hfuel : 2 * (joinWith [','] parts).length < fuel) (seen : List Value) (rest : List Char) :
    items fuel seen (joinWith [','] parts ++ ']' :: rest) = .ok (seen ++ vs, rest) := by
  obtain ⟨fuel, rfl⟩ := Nat.exists_eq_add_one.mpr (Nat.zero_lt_of_lt hfuel)
  induction h generalizing fuel seen with
  | nil => exact absurd rfl hne
  | @cons part v parts vs hpart hparts ih =>
    cases hparts with
    | nil =>
      rw [joinWith] at hfuel ⊢
      rw [items_of_writes hpart (by omega) seen (stops_mark (by decide) _)]
      rfl
    | @cons next w parts vs hnext hparts =>
      have hbegins := beginsValue_joinWith hnext.begins parts
      rw [joinWith.eq_3 _ _ _ (List.cons_ne_nil _ _)] at hfuel ⊢
      simp only [List.length_append, List.length_singleton] at hfuel
      rw [List.append_assoc, List.append_assoc, List.singleton_append,
        items_of_writes hpart (by omega) seen (stops_mark (by decide) _)]
      obtain ⟨less, rfl⟩ := Nat.exists_eq_add_one.mpr (show 0 < fuel by omega)
      change items (less + 1) (seen ++ [v]) (skipSpace _) = _
      rw [skipSpace_of_beginsValue hbegins, ih (List.cons_ne_nil _ _) _ _ (by omega),
        List.append_assoc]
      rfl

theorem exists_forall₂ {α β : Type} {R : α → β → Prop} {bs : List β} (h : ∀ b ∈ bs, ∃ a, R a b) :
    ∃ as, List.Forall₂ R as bs := by
  induction bs with
  | nil => exact ⟨[], .nil⟩
  | cons b bs ih =>
    rw [List.forall_mem_cons] at h
    obtain ⟨a, ha⟩ := h.1
    obtain ⟨as, has⟩ := ih h.2
    exact ⟨a :: as, .cons ha has⟩

theorem writeItems_of_forall₂ {parts : List (List Char)} {vs : List Value}
    (h : List.Forall₂ Writes parts vs) : writeItems vs = .ok parts := by
  induction h with
  | nil => rfl
  | cons hpart _ ih =>
    rw [writeItems, hpart.written, ih]
    rfl

/-- What stands between brackets is compact if the parts are. -/
theorem isCompact_bracketed {first last : Char} (hfirst : IsMark first) (hlast : IsMark last)
    {parts : List (List Char)} (h : ∀ part ∈ parts, IsCompact part) :
    IsCompact (first :: joinWith [','] parts ++ [last]) :=
  ((isCompact_of_isMark (List.forall_mem_singleton.mpr hfirst)).append
    (isCompact_joinWith h)).append (isCompact_of_isMark (List.forall_mem_singleton.mpr hlast))

theorem writes_list {parts : List (List Char)} {vs : List Value}
    (h : List.Forall₂ Writes parts vs) :
    Writes ('[' :: joinWith [','] parts ++ [']']) (.list vs) where
  written := by
    rw [write, writeItems_of_forall₂ h]
    rfl
  begins := ⟨'[', _, rfl, by decide⟩
  compact := isCompact_bracketed (by decide) (by decide)
    ((List.forall₂_and_left _ _).mp (h.imp fun _ _ hpart => ⟨hpart.compact, hpart⟩)).1
  read fuel rest hfuel _ := by
    obtain ⟨less, rfl⟩ := BeginsValue.exists_fuel ⟨'[', _, rfl, by decide⟩ hfuel
    rw [List.length_append, List.length_cons] at hfuel
    rw [List.append_assoc, List.cons_append, List.singleton_append]
    cases h with
    | nil => rfl
    | cons hpart hparts =>
      rw [value_bracket (beginsValue_joinWith hpart.begins _),
        items_joinWith (.cons hpart hparts) (List.cons_ne_nil _ _) (by omega)]
      rfl

/-! ## Mappings -/

/-- The entries of members. -/
abbrev entriesOf (ms : List (String × Value)) : List (Value × Value) :=
  ms.map fun m => (.text m.1, m.2)

/-- A member with a new name is written at the end. -/
theorem writeEntry_entriesOf {name : String} {ms : List (String × Value)}
    (h : name ∉ ms.map (·.1)) (v : Value) :
    Value.writeEntry (.text name) v (entriesOf ms) = entriesOf (ms ++ [(name, v)]) := by
  induction ms with
  | nil => rfl
  | cons m ms ih =>
    rw [List.map_cons, List.mem_cons, not_or] at h
    have hkey : Value.sameKey (.text m.1) (.text name) = false :=
      beq_eq_false_iff_ne.mpr (Ne.symm h.1)
    rw [entriesOf, List.map_cons, Value.writeEntry, hkey, ih h.2]
    rfl

/-- Whether a text writes a member: its name and its value. -/
def WritesMember (cs : List Char) (m : String × Value) : Prop :=
  ∃ part, Writes part m.2 ∧ cs = writeString m.1 ++ ':' :: part

theorem WritesMember.begins {cs : List Char} {m : String × Value} (h : WritesMember cs m) :
    BeginsValue cs := by
  obtain ⟨part, -, rfl⟩ := h
  exact ⟨'"', _, rfl, by decide⟩

theorem WritesMember.compact {cs : List Char} {m : String × Value} (h : WritesMember cs m) :
    IsCompact cs := by
  obtain ⟨part, hpart, rfl⟩ := h
  rw [← List.singleton_append]
  exact (isCompact_writeString m.1).append
    ((isCompact_of_isMark (isMark_of_all rfl)).append hpart.compact)

/-- How a mapping goes on behind a member. -/
def afterMember (fuel : Nat) (seen : List (Value × Value)) (rest : List Char) :
    Reading (List (Value × Value)) :=
  match skipSpace rest with
  | '\x7d' :: after => .ok (seen, after)
  | ',' :: after => members fuel seen (skipSpace after)
  | rest => refuse .noComma rest.length

theorem members_of_writesMember {cs : List Char} {name : String} {v : Value}
    (h : WritesMember cs (name, v)) {fuel : Nat} (hfuel : 2 * cs.length ≤ fuel)
    (seen : List (Value × Value)) {rest : List Char} (hrest : Stops rest) :
    members (fuel + 1) seen (cs ++ rest) =
      afterMember fuel (Value.writeEntry (.text name) v seen) rest := by
  obtain ⟨part, hpart, rfl⟩ := h
  have hread := hpart.read fuel rest
    (by rw [List.length_append, List.length_cons] at hfuel; omega) hrest
  have htext : writeString name ++ ':' :: part ++ rest =
      '"' :: (name.toList.flatMap escapeChar ++ '"' :: ':' :: (part ++ rest)) := by
    simp [writeString]
  rw [htext, members, string_flatMap]
  simp only [skipSpace_cons (c := ':') (by decide), skipSpace_of_beginsValue hpart.begins, hread]
  rfl

theorem value_brace {cs : List Char} (h : BeginsValue cs) (fuel : Nat) (rest : List Char) :
    value (fuel + 1) ('\x7b' :: (cs ++ rest)) =
      (members fuel [] (cs ++ rest)).map fun p => (.map p.1, p.2) := by
  have hskip := skipSpace_of_beginsValue h rest
  obtain ⟨c, more, rfl, hc⟩ := h
  rw [value, hskip]
  split
  · next h => exact absurd (List.cons.inj h).1 fun h => hc (by simp [h])
  · rfl

/-- **The members of a mapping are read back** in their order, by induction on the members. -/
theorem members_joinWith {parts : List (List Char)} {ms : List (String × Value)}
    (h : List.Forall₂ WritesMember parts ms) (hne : parts ≠ []) {fuel : Nat}
    (hfuel : 2 * (joinWith [','] parts).length < fuel) (seen : List (String × Value))
    (hnames : ((seen ++ ms).map (·.1)).Nodup) (rest : List Char) :
    members fuel (entriesOf seen) (joinWith [','] parts ++ '\x7d' :: rest) =
      .ok (entriesOf (seen ++ ms), rest) := by
  obtain ⟨fuel, rfl⟩ := Nat.exists_eq_add_one.mpr (Nat.zero_lt_of_lt hfuel)
  induction h generalizing fuel seen with
  | nil => exact absurd rfl hne
  | @cons part m parts ms hpart hparts ih =>
    obtain ⟨name, v⟩ := m
    have hnew : name ∉ seen.map (·.1) := by
      rw [List.map_append, List.map_cons] at hnames
      exact fun hmem => (List.nodup_append.mp hnames).2.2 _ hmem _ List.mem_cons_self rfl
    cases hparts with
    | nil =>
      rw [joinWith] at hfuel ⊢
      rw [members_of_writesMember hpart (by omega) _ (stops_mark (by decide) _),
        writeEntry_entriesOf hnew]
      rfl
    | @cons next m parts ms hnext hparts =>
      have hbegins := beginsValue_joinWith hnext.begins parts
      rw [joinWith.eq_3 _ _ _ (List.cons_ne_nil _ _)] at hfuel ⊢
      simp only [List.length_append, List.length_singleton] at hfuel
      rw [List.append_assoc, List.append_assoc, List.singleton_append,
        members_of_writesMember hpart (by omega) _ (stops_mark (by decide) _),
        writeEntry_entriesOf hnew]
      obtain ⟨less, rfl⟩ := Nat.exists_eq_add_one.mpr (show 0 < fuel by omega)
      change members (less + 1) (entriesOf (seen ++ [(name, v)])) (skipSpace _) = _
      rw [List.append_cons] at hnames
      rw [skipSpace_of_beginsValue hbegins, ih (List.cons_ne_nil _ _) _ hnames _ (by omega),
        ← List.append_cons]

theorem writeMembers_of_forall₂ {parts : List (List Char)} {ms : List (String × Value)}
    (h : List.Forall₂ WritesMember parts ms) : writeMembers (entriesOf ms) = .ok parts := by
  induction h with
  | nil => rfl
  | cons hpart _ ih =>
    obtain ⟨part, hwrites, rfl⟩ := hpart
    rw [entriesOf, List.map_cons, writeMembers, hwrites.written, ih]
    rfl

theorem writes_map {parts : List (List Char)} {ms : List (String × Value)}
    (h : List.Forall₂ WritesMember parts ms) (hnames : (ms.map (·.1)).Nodup) :
    Writes ('\x7b' :: joinWith [','] parts ++ ['\x7d']) (.ofMembers ms) where
  written := by
    rw [Value.ofMembers, write, writeMembers_of_forall₂ h]
    rfl
  begins := ⟨'\x7b', _, rfl, by decide⟩
  compact := isCompact_bracketed (by decide) (by decide)
    ((List.forall₂_and_left _ _).mp (h.imp fun _ _ hpart => ⟨hpart.compact, hpart⟩)).1
  read fuel rest hfuel _ := by
    obtain ⟨less, rfl⟩ := BeginsValue.exists_fuel ⟨'\x7b', _, rfl, by decide⟩ hfuel
    rw [List.length_append, List.length_cons] at hfuel
    rw [List.append_assoc, List.cons_append, List.singleton_append]
    cases h with
    | nil => rfl
    | cons hpart hparts =>
      have hread := members_joinWith (.cons hpart hparts) (List.cons_ne_nil _ _)
        (show 2 * _ < less by omega) [] hnames rest
      rw [entriesOf, List.map_nil] at hread
      rw [value_brace (beginsValue_joinWith hpart.begins _), hread]
      rfl

/-! ## Values -/

/-- **Every value of JSON has a text that writes it.** -/
theorem exists_writes {v : Value} (h : IsJson v) : ∃ cs, Writes cs v := by
  induction h with
  | null => exact ⟨_, writes_word (w := ("null", .null)) (by simp [words]) rfl (isMark_of_all rfl)⟩
  | bool b =>
    cases b
    · exact ⟨_, writes_word (w := ("false", .bool false)) (by simp [words]) rfl (isMark_of_all rfl)⟩
    · exact ⟨_, writes_word (w := ("true", .bool true)) (by simp [words]) rfl (isMark_of_all rfl)⟩
  | int i => exact ⟨_, writes_number rfl (isMark_intText i) fun _ => number?_intText i⟩
  | @float x hx hform =>
    cases x with
    | nan => exact absurd rfl hx
    | infinite s =>
      cases s
      · exact ⟨_, writes_word (w := ("Infinity", .float (.infinite false))) (by simp [words]) rfl
          (isMark_of_all rfl)⟩
      · exact ⟨_, writes_word (w := ("-Infinity", .float (.infinite true))) (by simp [words]) rfl
          (isMark_of_all rfl)⟩
    | finite s m e =>
      exact ⟨_, writes_number rfl (isMark_writeDouble hform) fun _ => number?_numberText hform⟩
  | text s => exact ⟨_, writes_text s⟩
  | list _ ih =>
    obtain ⟨parts, hparts⟩ := exists_forall₂ ih
    exact ⟨_, writes_list hparts⟩
  | map hnames _ ih =>
    obtain ⟨parts, hparts⟩ := exists_forall₂ (R := WritesMember) fun m hm =>
      (ih m hm).elim fun part hpart => ⟨_, part, hpart, rfl⟩
    exact ⟨_, writes_map hparts hnames⟩

/-- **What was written is read back.** -/
theorem Writes.readText {cs : List Char} {v : Value} (h : Writes cs v) : readText cs = .ok v := by
  have hskip := skipSpace_of_beginsValue h.begins []
  have hread := h.read (2 * cs.length + 2) [] (by omega) stops_nil
  rw [List.append_nil] at hskip hread
  unfold Json.readText
  split
  · next cs =>
    have hmark := (h.compact.printable _ List.mem_cons_self).2
    exact absurd hmark (by decide)
  · rw [hskip, hread]
    rfl

/-! ## All values -/

/-- Whether a double that is no number occurs in data. -/
inductive HasNan : Value → Prop
  | float : HasNan (.float .nan)
  | item {v : Value} {vs : List Value} (hv : v ∈ vs) (h : HasNan v) : HasNan (.list vs)
  | member {e : Value × Value} {es : List (Value × Value)} (he : e ∈ es) (h : HasNan e.2) :
    HasNan (.map es)

theorem IsJson.not_hasNan {v : Value} (h : IsJson v) : ¬HasNan v := by
  intro hnan
  induction h with
  | float hx _ =>
    cases hnan
    exact hx rfl
  | list _ ih =>
    cases hnan with
    | item hv h => exact ih _ hv h
  | map _ _ ih =>
    cases hnan with
    | member he h =>
      obtain ⟨m, hm, rfl⟩ := List.mem_map.mp he
      exact ih m hm h
  | _ => cases hnan

/-- Entries with different texts for keys are those of members. -/
theorem HoldsOfEntries.exists_members {P : Value → Prop} {es : List (Value × Value)}
    (h : HoldsOfEntries P es) :
    ∃ ms, es = entriesOf ms ∧ (ms.map (·.1)).Nodup ∧ ∀ m ∈ ms, P m.2 := by
  obtain ⟨heach, hnodup⟩ := h
  have hentries : ∃ ms, es = entriesOf ms := by
    clear hnodup
    induction es with
    | nil => exact ⟨[], rfl⟩
    | cons e es ih =>
      rw [List.forall_mem_cons] at heach
      obtain ⟨⟨name, hname⟩, -⟩ := heach.1
      obtain ⟨ms, rfl⟩ := ih heach.2
      exact ⟨(name, e.2) :: ms, congrArg (fun key => (key, e.2) :: entriesOf ms) hname⟩
  obtain ⟨ms, rfl⟩ := hentries
  rw [List.map_map] at hnodup
  refine ⟨ms, rfl, ?_, fun m hm => (heach _ (List.mem_map_of_mem hm)).2⟩
  exact List.Nodup.of_map Value.text (by rwa [List.map_map])

theorem isClosed_isJson : IsClosed fun v => ¬HasNan v → IsJson v where
  null _ := .null
  bool b _ := .bool b
  int i _ := .int i
  float x hform hnan := .float (fun h => hnan (h ▸ .float)) hform
  text s _ := .text s
  list vs hvs hnan := .list fun v hv => hvs v hv fun h => hnan (.item hv h)
  map es hes hnan := by
    obtain ⟨ms, rfl, hnames, hms⟩ := hes.exists_members
    refine .map hnames fun m hm => hms m hm fun h => hnan ?_
    exact .member (e := (.text m.1, m.2)) (List.mem_map_of_mem hm) h

/-- **The values of JSON** are those that can be read from a text, but for those with `NaN`. -/
theorem isJson_iff {v : Value} : IsJson v ↔ (∃ s, read s = .ok v) ∧ ¬HasNan v := by
  constructor
  · intro h
    obtain ⟨cs, hcs⟩ := exists_writes h
    refine ⟨⟨String.ofList cs, ?_⟩, h.not_hasNan⟩
    rw [read, String.toList_ofList, hcs.readText]
  · rintro ⟨⟨s, hread⟩, hnan⟩
    exact read_induction isClosed_isJson hread hnan

end Placard.Json
