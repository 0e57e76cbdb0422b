import Placard.Proofs.Tag.Tree
import Placard.Proofs.Text.Blank
import Placard.Tag.Html
import Placard.Text.Case
import Placard.Text.Digit

/-!
# Reading tags back from HTML

A tag has a *spelling*: its attributes in one list, with the classes and the styles first, and a
text that may be empty. `read` takes HTML apart again, and what it finds in a written tag is the
spelling of that tag (`readElement_write`). It knows start tags, end tags, attributes in double
quotes, five character references and which elements are empty, and nothing of how tags were made.

Two facts carry this. An escaped text holds neither a quote nor an angle bracket, so it ends where
the writer ended it; and decoding undoes escaping, also where a text looks like a reference before
it is escaped.
-/

namespace Placard.Html

open Placard.Text

/-! ## Spellings -/

/-- A tag as HTML spells it. -/
structure Spelling where
  name : String
  attributes : List (String × String)
  text : String
  children : List Spelling

/-- Whether elements of a name have neither text nor children nor an end tag. -/
def isEmptyElement : String → Bool
  | "br" | "hr" | "img" | "input" | "meta" => true
  | _ => false

/-- The attributes of a tag: its classes with spaces between them, its styles as declarations, and
then the others as they were set. -/
def spelledAttributes (t : Tag) : List (String × String) :=
  (match t.classes with
    | [] => []
    | classes => [("class", " ".intercalate classes)]) ++
  (match t.styles with
    | [] => []
    | styles => [("style", "; ".intercalate (styles.map fun s => s.1.name ++ ": " ++ s.2))]) ++
  t.attributes

mutual

/-- The spelling of a tag. -/
def spelling (t : Tag) : Spelling :=
  match t with
  | ⟨name, text, classes, styles, attributes, children⟩ =>
    let all := spelledAttributes ⟨name, text, classes, styles, attributes, []⟩
    if isEmptyElement name then ⟨name, all, "", []⟩
    else ⟨name, all, text.getD "", spellings children⟩

/-- The spellings of a list of tags. -/
def spellings : List Tag → List Spelling
  | [] => []
  | t :: ts => spelling t :: spellings ts

end

/-! ## Reading -/

/-- Whether a character can be part of a name. -/
def isNameChar (c : Char) : Bool :=
  isAsciiLetter c || isAsciiDigit c || c == '-'

/-- A text with the characters that its references stand for. -/
def decode : List Char → List Char
  | [] => []
  | '&' :: 'a' :: 'm' :: 'p' :: ';' :: cs => '&' :: decode cs
  | '&' :: 'l' :: 't' :: ';' :: cs => '<' :: decode cs
  | '&' :: 'g' :: 't' :: ';' :: cs => '>' :: decode cs
  | '&' :: '#' :: '3' :: '4' :: ';' :: cs => '"' :: decode cs
  | '&' :: '#' :: '3' :: '9' :: ';' :: cs => '\x27' :: decode cs
  | c :: cs => c :: decode cs

/-- The name that comes next, and what follows it. -/
def readName (cs : List Char) : Option (String × List Char) :=
  match cs.takeWhile isNameChar with
  | [] => none
  | name => some (String.ofList name, cs.dropWhile isNameChar)

/-- The attributes that come next, each behind a space, and what follows them. -/
def readAttributes : Nat → List Char → Option (List (String × String) × List Char)
  | 0, _ => none
  | fuel + 1, ' ' :: cs =>
    match readName cs with
    | some (name, '=' :: '"' :: cs) =>
      match cs.dropWhile (· != '"') with
      | '"' :: rest =>
        (readAttributes fuel rest).map fun (more, rest) =>
          ((name, String.ofList (decode (cs.takeWhile (· != '"')))) :: more, rest)
      | _ => none
    | _ => none
  | _ + 1, cs => some ([], cs)

mutual

/-- The element that comes next, and what follows it. -/
def readElement : Nat → List Char → Option (Spelling × List Char)
  | 0, _ => none
  | fuel + 1, '<' :: cs =>
    match readName cs with
    | none => none
    | some (name, cs) =>
      match readAttributes (cs.length + 1) cs with
      | some (attributes, '>' :: cs) =>
        if isEmptyElement name then some (⟨name, attributes, "", []⟩, cs)
        else
          match readElements fuel (cs.dropWhile (· != '<')) with
          | none => none
          | some (children, rest) =>
            (afterStart? ('<' :: '/' :: name.toList ++ ['>']) rest).map fun rest =>
              (⟨name, attributes, String.ofList (decode (cs.takeWhile (· != '<'))), children⟩,
                rest)
      | _ => none
  | _, _ => none

/-- The elements that come next, up to an end tag, and what follows them. -/
def readElements : Nat → List Char → Option (List Spelling × List Char)
  | 0, _ => none
  | _ + 1, '<' :: '/' :: cs => some ([], '<' :: '/' :: cs)
  | fuel + 1, cs =>
    match readElement fuel cs with
    | none => none
    | some (e, cs) => (readElements fuel cs).map fun (es, cs) => (e :: es, cs)

end

/-- The element that a text consists of. -/
def read (s : String) : Option Spelling :=
  match readElement (s.toList.length + 1) s.toList with
  | some (e, []) => some e
  | _ => none

/-! ## Escaped texts -/

/-- Decoding undoes the escape of one character, whatever follows it. -/
theorem decode_escapeChar (c : Char) (cs : List Char) :
    decode (escapeChar c ++ cs) = c :: decode cs := by
  unfold escapeChar
  by_cases hamp : c = '&'
  · subst hamp
    rfl
  · rw [if_neg hamp]
    split
    · next h => subst h; rfl
    · split
      · next h => subst h; rfl
      · split
        · next h => subst h; rfl
        · split
          · next h => subst h; rfl
          · -- no reference begins here, since the character is no ampersand
            rw [List.singleton_append, decode.eq_def]
            split <;> simp_all

theorem decode_escape (s : String) : decode (escape s) = s.toList := by
  unfold escape
  induction s.toList with
  | nil => rfl
  | cons c cs ih => rw [List.flatMap_cons, decode_escapeChar, ih]

/-- The escape of a character holds no quote and no angle bracket. -/
theorem ne_of_mem_escapeChar {c d : Char} (h : d ∈ escapeChar c) : d ≠ '"' ∧ d ≠ '<' := by
  unfold escapeChar at h
  split_ifs at h <;> simp at h <;> grind

theorem ne_of_mem_escape {s : String} {d : Char} (h : d ∈ escape s) : d ≠ '"' ∧ d ≠ '<' := by
  obtain ⟨c, -, hd⟩ := List.mem_flatMap.mp h
  exact ne_of_mem_escapeChar hd

/-! ## Names -/

/-- A name of letters, digits and hyphens. -/
def IsWord (s : String) : Prop :=
  s ≠ "" ∧ ∀ c ∈ s.toList, isNameChar c = true

instance (s : String) : Decidable (IsWord s) :=
  decidable_of_iff (s ≠ "" ∧ s.toList.all isNameChar = true) (by rw [List.all_eq_true]; rfl)

/-- Names need no escapes. -/
theorem escape_of_isWord {s : String} (h : IsWord s) : escape s = s.toList := by
  have hkeep : ∀ c ∈ s.toList, escapeChar c = [c] := by
    intro c hc
    have hname := h.2 c hc
    unfold escapeChar
    split_ifs with h1 h2 h3 h4 h5
    · subst h1; exact absurd hname (by decide)
    · subst h2; exact absurd hname (by decide)
    · subst h3; exact absurd hname (by decide)
    · subst h4; exact absurd hname (by decide)
    · subst h5; exact absurd hname (by decide)
    · rfl
  unfold escape
  rw [List.flatMap_congr hkeep]
  simp

/-- A name is read up to the first character that belongs to no name. -/
theorem readName_append {s : String} (h : IsWord s) {c : Char} (hc : isNameChar c = false)
    (rest : List Char) : readName (s.toList ++ c :: rest) = some (s, c :: rest) := by
  have hne : s.toList ≠ [] := fun hnil => h.1 (String.toList_eq_nil_iff.mp hnil)
  have htake : (s.toList ++ c :: rest).takeWhile isNameChar = s.toList := by
    rw [List.takeWhile_append_of_pos h.2, List.takeWhile_cons_of_neg (by rw [hc]; decide),
      List.append_nil]
  have hdrop : (s.toList ++ c :: rest).dropWhile isNameChar = c :: rest := by
    rw [List.dropWhile_append_of_pos h.2, List.dropWhile_cons_of_neg (by rw [hc]; decide)]
  unfold readName
  rw [htake, hdrop]
  cases hs : s.toList with
  | nil => exact absurd hs hne
  | cons d ds =>
    have hback : String.ofList (d :: ds) = s := by rw [← hs, String.ofList_toList]
    exact congrArg (fun name => some (name, c :: rest)) hback

/-! ## Attributes -/

theorem separated_eq (sep : String) (names : List String) :
    separated sep names = sep.intercalate names := by
  induction names with
  | nil => rfl
  | cons s rest ih =>
    cases rest with
    | nil => rw [separated, String.intercalate_singleton]
    | cons u us => rw [separated, ih, String.intercalate_cons_cons]; simp

/-- What the writer lists as the attributes of a tag is what belongs to its spelling. -/
theorem writtenAttributes_eq (t : Tag) : writtenAttributes t = spelledAttributes t := by
  unfold writtenAttributes spelledAttributes
  rw [separated_eq, declarations, separated_eq]
  cases t.classes <;> cases t.styles <;> rfl

/-- An escaped text in front of a quote or an angle bracket is found again. -/
theorem takeWhile_escape (s : String) {c : Char} (hc : c = '"' ∨ c = '<') (rest : List Char) :
    (escape s ++ c :: rest).takeWhile (· != c) = escape s ∧
      (escape s ++ c :: rest).dropWhile (· != c) = c :: rest := by
  have hall : ∀ d ∈ escape s, (d != c) = true := by
    intro d hd
    obtain ⟨hquote, hangle⟩ := ne_of_mem_escape hd
    rcases hc with rfl | rfl
    · simpa using hquote
    · simpa using hangle
  constructor
  · rw [List.takeWhile_append_of_pos hall, List.takeWhile_cons_of_neg (by simp), List.append_nil]
  · rw [List.dropWhile_append_of_pos hall, List.dropWhile_cons_of_neg (by simp)]

/-- Written attributes are read in order, each with its name and its exact value. -/
theorem readAttributes_write {as : List (String × String)} (h : ∀ a ∈ as, IsWord a.1)
    (rest : List Char) (fuel : Nat) (hfuel : as.length < fuel) :
    readAttributes fuel (as.flatMap writeAttribute ++ '>' :: rest) = some (as, '>' :: rest) := by
  induction as generalizing fuel with
  | nil =>
    obtain ⟨n, rfl⟩ : ∃ n, fuel = n + 1 := ⟨fuel - 1, by simp at hfuel; omega⟩
    rfl
  | cons a as ih =>
    obtain ⟨n, rfl⟩ : ∃ n, fuel = n + 1 := ⟨fuel - 1, by simp at hfuel; omega⟩
    obtain ⟨name, value⟩ := a
    have hname : IsWord name := h (name, value) List.mem_cons_self
    have hrest := ih (fun b hb => h b (List.mem_cons_of_mem _ hb)) n (by simp at hfuel; omega)
    have hwritten : ((name, value) :: as).flatMap writeAttribute ++ '>' :: rest =
        ' ' :: (name.toList ++ '=' :: '"' :: (escape value ++ '"' ::
          (as.flatMap writeAttribute ++ '>' :: rest))) := by
      simp [writeAttribute, escape_of_isWord hname]
    obtain ⟨htake, hdrop⟩ := takeWhile_escape value (.inl rfl)
      (as.flatMap writeAttribute ++ '>' :: rest)
    rw [hwritten, readAttributes, readName_append hname (by decide)]
    simp only [hdrop, htake, hrest, decode_escape, String.ofList_toList, Option.map_some]

/-! ## Elements -/

theorem voidNames_contains (name : String) : voidNames.contains name = isEmptyElement name := by
  unfold isEmptyElement
  split <;> simp_all [voidNames]

theorem write_eq (t : Tag) :
    write t = '<' :: escape t.name ++ (spelledAttributes t).flatMap writeAttribute ++
      '>' :: (if isEmptyElement t.name then []
        else escape (t.text.getD "") ++ writeAll t.children ++
          '<' :: '/' :: escape t.name ++ ['>']) := by
  rw [← writtenAttributes_eq, ← voidNames_contains]
  obtain ⟨name, text, classes, styles, attributes, children⟩ := t
  rw [write]
  cases text <;> split <;> simp [writtenAttributes, escape]

theorem spelling_eq (t : Tag) :
    spelling t = if isEmptyElement t.name then ⟨t.name, spelledAttributes t, "", []⟩
      else ⟨t.name, spelledAttributes t, t.text.getD "", spellings t.children⟩ := by
  obtain ⟨name, text, classes, styles, attributes, children⟩ := t
  rw [spelling]
  rfl

/-- All names in a tree, those of the tags and those of their attributes, are words. -/
def WordNamed (t : Tag) : Prop :=
  ∀ u ∈ t :: t.descendants, IsWord u.name ∧ ∀ a ∈ u.attributes, IsWord a.1

instance (t : Tag) : Decidable (WordNamed t) :=
  inferInstanceAs (Decidable (∀ u ∈ t :: t.descendants, _ ∧ ∀ a ∈ u.attributes, IsWord a.1))

theorem WordNamed.child {t u : Tag} (h : WordNamed t) (hu : u ∈ t.children) : WordNamed u := by
  obtain ⟨before, after, hsplit⟩ := List.append_of_mem hu
  intro v hv
  apply h v
  rw [Tag.descendants_eq, hsplit, Tag.descendantsOf_append, Tag.descendantsOf_cons]
  rw [Tag.descendants_eq] at hv
  simp only [List.mem_cons, List.mem_append] at hv ⊢
  tauto

theorem WordNamed.spelledAttributes {t : Tag} (h : WordNamed t) :
    ∀ a ∈ spelledAttributes t, IsWord a.1 := by
  intro a ha
  unfold Html.spelledAttributes at ha
  rcases List.mem_append.mp ha with ha | ha
  · rcases List.mem_append.mp ha with ha | ha
    · split at ha
      · cases ha
      · rw [List.mem_singleton.mp ha]
        exact (by decide : IsWord "class")
    · split at ha
      · cases ha
      · rw [List.mem_singleton.mp ha]
        exact (by decide : IsWord "style")
  · exact (h t List.mem_cons_self).2 a ha

/-- A written tag begins with an angle bracket and a character of its name. -/
theorem write_head {t : Tag} (h : IsWord t.name) :
    ∃ c cs, isNameChar c = true ∧ write t = '<' :: c :: cs := by
  rw [write_eq, escape_of_isWord h]
  cases hname : t.name.toList with
  | nil => exact absurd (String.toList_eq_nil_iff.mp hname) h.1
  | cons c cs => exact ⟨c, _, h.2 c (by rw [hname]; exact List.mem_cons_self), rfl⟩

theorem writeAll_head (ts : List Tag) (h : ∀ t ∈ ts, IsWord t.name) (rest : List Char) :
    ∃ cs, writeAll ts ++ '<' :: rest = '<' :: cs := by
  cases ts with
  | nil => exact ⟨rest, by rw [writeAll, List.nil_append]⟩
  | cons t ts =>
    obtain ⟨c, cs, -, hwritten⟩ := write_head (h t List.mem_cons_self)
    rw [writeAll, hwritten]
    exact ⟨_, rfl⟩

/-- Elements one after the other are read up to the end tag behind them, if each of them is. -/
theorem readElements_writeAll {ts : List Tag} (hword : ∀ t ∈ ts, IsWord t.name)
    (hread : ∀ t ∈ ts, ∀ rest n, (write t).length ≤ n →
      readElement n (write t ++ rest) = some (spelling t, rest))
    (rest : List Char) (n : Nat) (hn : (writeAll ts).length < n) :
    readElements n (writeAll ts ++ '<' :: '/' :: rest) =
      some (spellings ts, '<' :: '/' :: rest) := by
  induction ts generalizing n with
  | nil =>
    obtain ⟨m, rfl⟩ : ∃ m, n = m + 1 := ⟨n - 1, by omega⟩
    rfl
  | cons t ts ih =>
    obtain ⟨m, rfl⟩ : ∃ m, n = m + 1 := ⟨n - 1, by omega⟩
    obtain ⟨c, cs, hc, hwritten⟩ := write_head (hword t List.mem_cons_self)
    rw [writeAll, List.length_append] at hn
    have hlen : 0 < (write t).length := by rw [hwritten]; simp
    have hfirst := hread t List.mem_cons_self (writeAll ts ++ '<' :: '/' :: rest) m (by omega)
    have hothers := ih (fun u hu => hword u (List.mem_cons_of_mem _ hu))
      (fun u hu => hread u (List.mem_cons_of_mem _ hu)) m (by omega)
    have hopen : ∀ ds, write t ++ (writeAll ts ++ '<' :: '/' :: rest) ≠ '<' :: '/' :: ds := by
      rw [hwritten]
      rintro ds hds
      simp only [List.cons_append, List.cons.injEq, true_and] at hds
      rw [hds.1] at hc
      exact absurd hc (by decide)
    rw [writeAll, spellings, List.append_assoc, readElements.eq_3 _ _ hopen, hfirst]
    simp only [hothers, Option.map_some]

theorem length_le_flatMap_writeAttribute (as : List (String × String)) :
    as.length ≤ (as.flatMap writeAttribute).length := by
  induction as with
  | nil => exact Nat.le_refl _
  | cons a as ih =>
    simp only [List.flatMap_cons, writeAttribute, List.length_append, List.length_cons]
    omega

/-- The head of a written start tag: its name, then its attributes. -/
theorem readHead_write {name : String} {as : List (String × String)} (hname : IsWord name)
    (has : ∀ a ∈ as, IsWord a.1) (rest : List Char) :
    readName (name.toList ++ (as.flatMap writeAttribute ++ '>' :: rest)) =
        some (name, as.flatMap writeAttribute ++ '>' :: rest) ∧
      readAttributes ((as.flatMap writeAttribute ++ '>' :: rest).length + 1)
        (as.flatMap writeAttribute ++ '>' :: rest) = some (as, '>' :: rest) := by
  constructor
  · cases as with
    | nil => exact readName_append hname (by decide) _
    | cons a as =>
      rw [List.flatMap_cons, writeAttribute]
      exact readName_append hname (by decide) _
  · have hlen := length_le_flatMap_writeAttribute as
    exact readAttributes_write has rest _ (by rw [List.length_append]; omega)

/-- **Round trip.** A written tag reads as its spelling, whatever follows it. -/
theorem readElement_write (t : Tag) : WordNamed t → ∀ rest n, (write t).length ≤ n →
    readElement n (write t ++ rest) = some (spelling t, rest) := by
  induction t using Tag.childrenInduction with
  | step t ih =>
    intro h rest n hn
    have hname : IsWord t.name := (h t List.mem_cons_self).1
    have hchildren : ∀ u ∈ t.children, IsWord u.name :=
      fun u hu => (h.child hu u List.mem_cons_self).1
    have hattributes := h.spelledAttributes
    rw [write_eq, escape_of_isWord hname] at hn ⊢
    obtain ⟨m, rfl⟩ : ∃ m, n = m + 1 := ⟨n - 1, by simp at hn; omega⟩
    rw [spelling_eq]
    by_cases hempty : isEmptyElement t.name = true
    · rw [if_pos hempty, if_pos hempty]
      obtain ⟨hread, hreadAll⟩ := readHead_write hname hattributes rest
      simp only [List.cons_append, List.append_assoc, List.nil_append, readElement, hread,
        hreadAll, hempty, if_true]
    · rw [if_neg hempty] at hn ⊢
      rw [if_neg hempty]
      -- the text of the element ends where the first child, or the end tag, begins
      obtain ⟨cs, hcs⟩ := writeAll_head t.children hchildren
        ('/' :: (t.name.toList ++ '>' :: rest))
      obtain ⟨htake, hdrop⟩ := takeWhile_escape (t.text.getD "") (.inr rfl) cs
      rw [← hcs] at htake hdrop
      obtain ⟨hread, hreadAll⟩ := readHead_write hname hattributes
        (escape (t.text.getD "") ++ (writeAll t.children ++
          '<' :: '/' :: (t.name.toList ++ '>' :: rest)))
      have hlen : (writeAll t.children).length < m := by
        simp only [List.length_append, List.length_cons, List.length_nil] at hn
        omega
      have hinner := readElements_writeAll hchildren
        (fun u hu => ih u hu (h.child hu)) (t.name.toList ++ '>' :: rest) m hlen
      have hend := afterStart_append ('<' :: '/' :: (t.name.toList ++ ['>'])) rest
      simp only [List.cons_append, List.append_assoc, List.nil_append] at hend
      simp only [List.cons_append, List.append_assoc, List.nil_append, readElement, hread,
        hreadAll, hempty, htake, hdrop, hinner, hend, decode_escape, String.ofList_toList,
        Option.map_some, if_false, Bool.false_eq_true]

/-! ## Whole texts -/

/-- **HTML can be read in one way only.** Whatever strings a tree carries in its texts, attributes,
classes and styles, its HTML reads as its spelling and as nothing else; so trees with the same HTML
have the same spelling. -/
theorem text_readable :
    (∀ t, WordNamed t → read (text t) = some (spelling t)) ∧
      ∀ t u, WordNamed t → WordNamed u → text t = text u → spelling t = spelling u := by
  have hread : ∀ t, WordNamed t → read (text t) = some (spelling t) := by
    intro t h
    have helement := readElement_write t h [] ((write t).length + 1) (Nat.le_succ _)
    rw [List.append_nil] at helement
    rw [read, text, String.toList_ofList, helement]
  refine ⟨hread, ?_⟩
  intro t u ht hu htext
  have hsame : some (spelling t) = some (spelling u) := by
    rw [← hread t ht, ← hread u hu, htext]
  exact Option.some.inj hsame

/-- A tree whose strings look like markup: a quote that would end a value, a written reference, an
end tag, and a void element with content. -/
def hostile : Tag :=
  let image := (Tag.named "img").setAttr "alt" "\"><script>" |>.setText (some "lost")
  (((Tag.named "div").addClass "a\" b").setStyle .color "red\"").setAttr "data-x" "&lt;&amp;lt;"
    |>.setText (some "</div>&#39;") |>.append image |>.append (Tag.named "p")

theorem text_readable_hostile :
    WordNamed hostile ∧ read (text hostile) = some (spelling hostile) ∧
      text (Tag.named "p") = text ((Tag.named "p").setText (some "")) ∧
      spelling (Tag.named "p") = spelling ((Tag.named "p").setText (some "")) := by
  have hword : WordNamed hostile := by decide
  have htext : text (Tag.named "p") = text ((Tag.named "p").setText (some "")) := by rfl
  exact ⟨hword, text_readable.1 hostile hword, htext,
    text_readable.2 _ _ (by decide) (by decide) htext⟩

end Placard.Html
