import Mathlib.Data.List.Basic
import Placard.Tag.Html
import Placard.Text.Blank

/-!
# Reading declarations back

The value of a style attribute is a list of declarations with semicolons between them. A reader of
CSS does not take every semicolon for an end: it follows quoted strings, parentheses and backslashes.
`names` are the names of the properties that it reads.

What is read back depends on the values alone. A value is closed if its reader never meets a
semicolon that ends a declaration, and stands after it as it stood before; if all values are closed,
the names that are read are those of the properties that were written (`names_declarations`).
-/

namespace Placard.Css

open Text

/-! ## The reader -/

/-- Where a reader stands: in a quoted string or outside, right behind a backslash or not, and in so
many parentheses. -/
structure Place where
  quote : Option Char := none
  escaped : Bool := false
  depth : Nat := 0
deriving DecidableEq

/-- Outside everything. -/
def top : Place := {}

/-- Whether an unescaped character ends a line, and a quoted string with it. -/
def endsLine (c : Char) : Bool :=
  c == '\n' || c == '\r' || c == '\x0c'

/-- The place behind a character. -/
def Place.next (p : Place) (c : Char) : Place :=
  if p.escaped then { p with escaped := false }
  else if c = '\\' then { p with escaped := true }
  else
    match p.quote with
    | some q => if c = q || endsLine c then { p with quote := none } else p
    | none =>
      if c = '\x27' || c = '"' then { p with quote := some c }
      else if c = '(' then { p with depth := p.depth + 1 }
      else if c = ')' then { p with depth := p.depth - 1 }
      else p

/-- The first declaration of a text that is read from a place, and the declarations behind it. -/
def cut (p : Place) : List Char → List Char × List (List Char)
  | [] => ([], [])
  | c :: cs =>
    if p = top ∧ c = ';' then
      let rest := cut top cs
      ([], rest.1 :: rest.2)
    else
      let rest := cut (p.next c) cs
      (c :: rest.1, rest.2)

/-- The name before the first colon of a declaration, unless that is blank. -/
def nameOf? (declaration : List Char) : Option String :=
  if allBlank declaration then none
  else some (String.ofList (trim (declaration.takeWhile (· != ':'))))

/-- The names of the properties that a list of declarations sets. -/
def names (declarations : String) : List String :=
  let cuts := cut top declarations.toList
  (cuts.1 :: cuts.2).filterMap nameOf?

/-! ## Reading within a declaration -/

/-- The place behind some characters, unless one of them ends the declaration. -/
def through (p : Place) : List Char → Option Place
  | [] => some p
  | c :: cs => if p = top ∧ c = ';' then none else through (p.next c) cs

theorem through_append (p : Place) (cs ds : List Char) :
    through p (cs ++ ds) = (through p cs).bind fun q => through q ds := by
  induction cs generalizing p with
  | nil => rfl
  | cons c cs ih =>
    rw [List.cons_append, through, through]
    split
    · rfl
    · exact ih _

/-- What is read within a declaration belongs to it. -/
theorem cut_append {p q : Place} {cs : List Char} (h : through p cs = some q) (ds : List Char) :
    cut p (cs ++ ds) = (cs ++ (cut q ds).1, (cut q ds).2) := by
  induction cs generalizing p with
  | nil =>
    obtain rfl := Option.some.inj h
    rfl
  | cons c cs ih =>
    rw [through] at h
    split at h
    · cases h
    · next hinside =>
      rw [List.cons_append, cut, if_neg hinside]
      dsimp only
      rw [ih h]
      rfl

/-- Text that is read from the top, and after which the reader stands at the top again. -/
def IsClosed (text : String) : Prop :=
  through top text.toList = some top

instance (text : String) : Decidable (IsClosed text) :=
  inferInstanceAs (Decidable (_ = _))

/-! ## Closed values -/

/-- The characters that a reader minds outside quoted strings. -/
def specialChars : List Char :=
  [';', '\x27', '"', '(', ')', '\\']

/-- Text without special characters. -/
def IsPlain (cs : List Char) : Prop :=
  ∀ c ∈ cs, c ∉ specialChars

instance (cs : List Char) : Decidable (IsPlain cs) :=
  List.decidableBAll (· ∉ specialChars) cs

theorem isPlain_append {cs ds : List Char} : IsPlain (cs ++ ds) ↔ IsPlain cs ∧ IsPlain ds :=
  List.forall_mem_append

theorem isPlain_cons {c : Char} {cs : List Char} :
    IsPlain (c :: cs) ↔ c ∉ specialChars ∧ IsPlain cs :=
  List.forall_mem_cons

/-- A reader passes plain text, in however many parentheses. -/
theorem through_plain (depth : Nat) {cs : List Char} (h : IsPlain cs) :
    through { depth } cs = some { depth } := by
  induction cs with
  | nil => rfl
  | cons c cs ih =>
    obtain ⟨hc, hcs⟩ := isPlain_cons.mp h
    simp only [specialChars, List.mem_cons, List.not_mem_nil, or_false, not_or] at hc
    have hnext : ({ depth } : Place).next c = { depth } := by simp [Place.next, hc]
    rw [through, if_neg fun hend => hc.1 hend.2, hnext]
    exact ih hcs

theorem isClosed_of_plain {cs : List Char} (h : IsPlain cs) : IsClosed (String.ofList cs) := by
  unfold IsClosed
  rw [String.toList_ofList]
  exact through_plain 0 h

/-- The reference to an address in a value, quoted. -/
def quotedUrl (url : String) : String :=
  "url('" ++ url ++ "')"

/-- Where a reader stands in the quoted address. -/
def inUrl : Place := { quote := some '\x27', depth := 1 }

/-- Whether an address stays in its quotes: it has no apostrophe, no backslash and no line end. -/
def staysQuoted (url : String) : Bool :=
  url.toList.all fun c => c != '\x27' && c != '\\' && !endsLine c

theorem isClosed_quotedUrl {url : String} (h : staysQuoted url = true) :
    IsClosed (quotedUrl url) := by
  have hinside : through inUrl url.toList = some inUrl := by
    unfold staysQuoted at h
    generalize url.toList = cs at h
    induction cs with
    | nil => rfl
    | cons c cs ih =>
      rw [List.all_cons, Bool.and_eq_true] at h
      obtain ⟨hc, hcs⟩ := h
      simp only [Bool.and_eq_true, bne_iff_ne, Bool.not_eq_true'] at hc
      obtain ⟨⟨hquote, hbackslash⟩, hline⟩ := hc
      have hnext : inUrl.next c = inUrl := by
        simp [Place.next, inUrl, hquote, hbackslash, hline]
      rw [through, if_neg fun hend => absurd hend.1 (by decide), hnext]
      exact ih hcs
  unfold IsClosed quotedUrl
  rw [String.toList_append, String.toList_append, through_append, through_append]
  change ((through inUrl url.toList).bind fun q => through q _) = _
  rw [hinside]
  rfl

/-! ## Written declarations -/

/-- Nothing is trimmed from a text without characters of the class. -/
theorem trimBy_of_none {p : Char → Bool} {cs : List Char} (h : ∀ c ∈ cs, p c = false) :
    trimBy p cs = cs := by
  have hkept (ds : List Char) (hds : ∀ c ∈ ds, p c = false) : ds.dropWhile p = ds := by
    cases ds with
    | nil => rfl
    | cons d ds =>
      rw [List.dropWhile_cons_of_neg]
      rw [hds d List.mem_cons_self]
      exact Bool.false_ne_true
  unfold trimBy dropTrailing dropLeading
  rw [hkept cs h, hkept _ fun c hc => h c (List.mem_reverse.mp hc), List.reverse_reverse]

/-- One declaration as it is written. -/
def declaration (style : Property × String) : List Char :=
  style.1.name.toList ++ ':' :: ' ' :: style.2.toList

/-- The characters of names: small letters and hyphens. -/
def isNameChar (c : Char) : Bool :=
  (97 ≤ c.toNat && c.toNat ≤ 122) || c == '-'

theorem isNameChar_name (p : Property) : p.name.toList.all isNameChar = true := by
  cases p <;> decide

/-- A character that is not one of names stands in no name. -/
theorem ne_of_mem_name {p : Property} {c d : Char} (hc : c ∈ p.name.toList)
    (hd : isNameChar d = false) : c ≠ d := by
  rintro rfl
  rw [List.all_eq_true.mp (isNameChar_name p) c hc] at hd
  cases hd

theorem not_blank_of_mem_name {p : Property} {c : Char} (hc : c ∈ p.name.toList) :
    isBlank c = false := by
  have hchar := List.all_eq_true.mp (isNameChar_name p) c hc
  have hhyphen : isBlank '-' = false := by decide
  unfold isNameChar at hchar
  rw [Bool.or_eq_true, Bool.and_eq_true, decide_eq_true_eq, decide_eq_true_eq, beq_iff_eq] at hchar
  rcases hchar with hletter | rfl
  · unfold isBlank isWhiteSpace
    simp only [Bool.or_eq_false_iff, Bool.and_eq_false_iff, decide_eq_false_iff_not, beq_eq_false_iff_ne]
    omega
  · exact hhyphen

theorem through_declaration {style : Property × String} (h : IsClosed style.2) :
    through top (declaration style) = some top := by
  have hname : through top style.1.name.toList = some top := by
    refine through_plain 0 fun c hc hspecial => ?_
    have hspecials : specialChars.all (!isNameChar ·) = true := by decide
    have hc' : isNameChar c = false := by
      simpa using List.all_eq_true.mp hspecials c hspecial
    exact ne_of_mem_name hc hc' rfl
  unfold declaration
  rw [through_append, hname]
  exact h

/-- A blank before a declaration does not show. -/
theorem nameOf_blank (cs : List Char) : nameOf? (' ' :: cs) = nameOf? cs := by
  have hblank : allBlank (' ' :: cs) = allBlank cs := rfl
  have htrim (ds : List Char) : trim (' ' :: ds) = trim ds := rfl
  unfold nameOf?
  rw [hblank, List.takeWhile_cons_of_pos (by decide), htrim]

/-- The name that is read is the one that is written. -/
theorem nameOf_declaration (style : Property × String) :
    nameOf? (declaration style) = some style.1.name := by
  obtain ⟨p, value⟩ := style
  have hblank : ∀ c ∈ p.name.toList, isBlank c = false := fun c hc => not_blank_of_mem_name hc
  have htrim : trim p.name.toList = p.name.toList := trimBy_of_none hblank
  have hname : (declaration (p, value)).takeWhile (· != ':') = p.name.toList := by
    unfold declaration
    rw [List.takeWhile_append_of_pos fun c hc => by simpa using ne_of_mem_name hc (by decide)]
    simp
  -- the colon is no blank, so a declaration is never blank
  have hshown : allBlank (declaration (p, value)) = false :=
    List.all_eq_false.mpr ⟨':', List.mem_append_right _ List.mem_cons_self, by decide⟩
  rw [nameOf?, hshown, if_neg Bool.false_ne_true, hname, htrim, String.ofList_toList]

/-- The declarations as characters. -/
theorem toList_declarations_cons (style : Property × String) (styles : List (Property × String)) :
    (Html.declarations (style :: styles)).toList = declaration style ++
      (if styles = [] then [] else ';' :: ' ' :: (Html.declarations styles).toList) := by
  have hfirst : (style.1.name ++ ": " ++ style.2).toList = declaration style := by
    rw [String.toList_append, String.toList_append, List.append_assoc]
    rfl
  cases styles with
  | nil =>
    rw [if_pos rfl, List.append_nil, ← hfirst]
    rfl
  | cons other styles =>
    rw [if_neg (List.cons_ne_nil _ _), ← hfirst]
    change (style.1.name ++ ": " ++ style.2 ++ "; " ++ Html.declarations (other :: styles)).toList = _
    rw [String.toList_append, String.toList_append, List.append_assoc]
    rfl

/-- A declaration with a closed value is cut off where it was written to end, and what follows is
read as if it stood alone. -/
theorem names_declarations_cons {style : Property × String} (h : IsClosed style.2)
    (styles : List (Property × String)) :
    names (Html.declarations (style :: styles)) =
      style.1.name :: names (Html.declarations styles) := by
  have hname := nameOf_declaration style
  unfold names
  dsimp only
  rw [toList_declarations_cons, cut_append (through_declaration h)]
  by_cases hlast : styles = []
  · rw [if_pos hlast, hlast, cut, List.append_nil, List.filterMap_cons_some hname]
    rfl
  · have htop : top.next ' ' = top := rfl
    rw [if_neg hlast, cut, if_pos ⟨rfl, rfl⟩, cut, if_neg (by decide), htop, List.append_nil,
      List.filterMap_cons_some hname, List.filterMap_cons, List.filterMap_cons]
    dsimp only
    rw [nameOf_blank]

theorem names_declarations_append {before : List (Property × String)}
    (h : ∀ style ∈ before, IsClosed style.2) (after : List (Property × String)) :
    names (Html.declarations (before ++ after)) =
      before.map (·.1.name) ++ names (Html.declarations after) := by
  induction before with
  | nil => rfl
  | cons style before ih =>
    obtain ⟨hstyle, hbefore⟩ := List.forall_mem_cons.mp h
    rw [List.cons_append, names_declarations_cons hstyle, ih hbefore]
    rfl

/-- **Written declarations are read back.** If all values are closed, the names that are read are
those of the properties that were written, in order. -/
theorem names_declarations {styles : List (Property × String)}
    (h : ∀ style ∈ styles, IsClosed style.2) :
    names (Html.declarations styles) = styles.map (·.1.name) := by
  have hnone : names (Html.declarations []) = [] := by decide
  rw [← List.append_nil styles, names_declarations_append h, hnone, List.append_nil,
    List.append_nil]

end Placard.Css
