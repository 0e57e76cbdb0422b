import Placard.Proofs.Tag.Tree
import Placard.Render.Layout

/-!
# Wired tags

Tags are joined by ids in two places. A label names the control before it, and a card that an action
shows has the id that the button of the action leads to. Both pairs stand in one row of siblings, so
`WiredRow` says it of a row: of a label and the control before it, and of a card, the strip of
actions before it and a button in that strip.

`Wired new ts` says of tags and all below them that their rows are wired and that no id is used more
often than it is issued among `new`, be it as an id or as the link to a card. The order in which ids
are issued does not matter for that, so the parts of a tree can be put together in any order.
-/

namespace Placard.Render

open Tag

/-! ## Rows -/

/-- A tag that is no end of a pair: neither a label nor a shown card nor a strip of actions. -/
structure IsPlain (t : Tag) : Prop where
  notLabel : t.name ≠ "label"
  notCard : "ac-showCard" ∉ t.classes
  notStrip : "ac-actionset" ∉ t.classes

/-- The button in a strip that leads to a card. -/
structure LeadsTo (id : String) (button : Tag) : Prop where
  name : button.name = "a"
  pushes : "ac-pushButton" ∈ button.classes
  link : button.attr? cardLink = some id

/-- A row of siblings with its labels and its shown cards joined to what they belong to. -/
structure WiredRow (row : List Tag) : Prop where
  labels : ∀ (i : Nat) (t : Tag), row[i]? = some t → t.name = "label" →
    ∃ (j : Nat) (control : Tag) (id : String), i = j + 1 ∧ row[j]? = some control ∧
      control.name = "input" ∧ control.attr? "id" = some id ∧ t.attr? "for" = some id
  cards : ∀ (i : Nat) (t : Tag), row[i]? = some t → "ac-showCard" ∈ t.classes →
    ∃ (j : Nat) (strip : Tag) (id : String), j < i ∧ row[j]? = some strip ∧
      "ac-actionset" ∈ strip.classes ∧ t.attr? "id" = some id ∧
      ∃ button ∈ strip.children, LeadsTo id button
  strips : ∀ (i j : Nat) (t u : Tag), row[i]? = some t → row[j]? = some u →
    "ac-actionset" ∈ t.classes → "ac-actionset" ∈ u.classes → i = j

theorem wiredRow_of_plain {row : List Tag} (h : ∀ t ∈ row, IsPlain t) : WiredRow row where
  labels _ t ht hname := absurd hname (h t (List.mem_of_getElem? ht)).notLabel
  cards _ t ht hcard := absurd hcard (h t (List.mem_of_getElem? ht)).notCard
  strips _ _ t _ ht _ hstrip _ := absurd hstrip (h t (List.mem_of_getElem? ht)).notStrip

theorem wiredRow_nil : WiredRow [] :=
  wiredRow_of_plain fun _ ht => absurd ht List.not_mem_nil

/-- A control and its label. -/
theorem wiredRow_labelled {control label : Tag} {id : String} (hcontrol : IsPlain control)
    (hinput : control.name = "input") (hid : control.attr? "id" = some id)
    (hfor : label.attr? "for" = some id)
    (hclasses : label.classes = []) : WiredRow [control, label] where
  labels i t ht hname := by
    match i, ht with
    | 0, ht =>
      obtain rfl := Option.some.inj ht
      exact absurd hname hcontrol.notLabel
    | 1, ht =>
      obtain rfl := Option.some.inj ht
      exact ⟨0, control, id, rfl, rfl, hinput, hid, hfor⟩
  cards i t ht hcard := by
    match i, ht with
    | 0, ht =>
      obtain rfl := Option.some.inj ht
      exact absurd hcard hcontrol.notCard
    | 1, ht =>
      obtain rfl := Option.some.inj ht
      rw [hclasses] at hcard
      cases hcard
  strips i j t u ht _ hstrip _ := by
    match i, ht with
    | 0, ht =>
      obtain rfl := Option.some.inj ht
      exact absurd hstrip hcontrol.notStrip
    | 1, ht =>
      obtain rfl := Option.some.inj ht
      rw [hclasses] at hstrip
      cases hstrip

/-- A card that a button in a strip shows. -/
structure IsShown (strip card : Tag) : Prop where
  notLabel : card.name ≠ "label"
  notStrip : "ac-actionset" ∉ card.classes
  button : ∃ id, card.attr? "id" = some id ∧ ∃ button ∈ strip.children, LeadsTo id button

/-- Elements, the strip of their actions, and the cards that its buttons show. -/
theorem wiredRow_strip {row cards : List Tag} {strip : Tag} (hrow : ∀ t ∈ row, IsPlain t)
    (hname : strip.name ≠ "label") (hcard : "ac-showCard" ∉ strip.classes)
    (hstrip : "ac-actionset" ∈ strip.classes) (hcards : ∀ t ∈ cards, IsShown strip t) :
    WiredRow (row ++ strip :: cards) := by
  -- a sibling is plain, or the strip, or a card behind it
  have hplace {i : Nat} {t : Tag} (ht : (row ++ strip :: cards)[i]? = some t) :
      IsPlain t ∨ (i = row.length ∧ t = strip) ∨ (row.length < i ∧ IsShown strip t) := by
    rcases Nat.lt_or_ge i row.length with hi | hi
    · rw [List.getElem?_append_left hi] at ht
      exact .inl (hrow t (List.mem_of_getElem? ht))
    · rw [List.getElem?_append_right hi] at ht
      cases hj : i - row.length with
      | zero =>
        rw [hj] at ht
        exact .inr (.inl ⟨by omega, (Option.some.inj ht).symm⟩)
      | succ j =>
        rw [hj] at ht
        exact .inr (.inr ⟨by omega, hcards t (List.mem_of_getElem? ht)⟩)
  have hindex {i : Nat} {t : Tag} (ht : (row ++ strip :: cards)[i]? = some t)
      (hclass : "ac-actionset" ∈ t.classes) : i = row.length := by
    rcases hplace ht with hplain | ⟨hi, -⟩ | ⟨-, hshown⟩
    · exact absurd hclass hplain.notStrip
    · exact hi
    · exact absurd hclass hshown.notStrip
  refine ⟨?_, ?_, ?_⟩
  · intro i t ht hlabel
    rcases hplace ht with hplain | ⟨-, rfl⟩ | ⟨-, hshown⟩
    · exact absurd hlabel hplain.notLabel
    · exact absurd hlabel hname
    · exact absurd hlabel hshown.notLabel
  · intro i t ht hclass
    rcases hplace ht with hplain | ⟨-, rfl⟩ | ⟨hi, hshown⟩
    · exact absurd hclass hplain.notCard
    · exact absurd hclass hcard
    · obtain ⟨id, hid, hbutton⟩ := hshown.button
      exact ⟨row.length, strip, id, hi, by simp, hstrip, hid, hbutton⟩
  · intro i j t u ht hu hclass hclass'
    rw [hindex ht hclass, hindex hu hclass']

/-! ## Occurrences of ids -/

/-- How many of these tags and all below them have an attribute with a value. -/
def occurrences (name value : String) (ts : List Tag) : Nat :=
  (descendantsOf ts).countP fun t => t.attr? name == some value

section

variable (name value : String)

@[simp] theorem occurrences_nil : occurrences name value [] = 0 := by
  rw [occurrences, descendantsOf_nil, List.countP_nil]

@[simp] theorem occurrences_append (ts us : List Tag) : occurrences name value (ts ++ us) =
    occurrences name value ts + occurrences name value us := by
  rw [occurrences, descendantsOf_append, List.countP_append]
  rfl

theorem occurrences_cons (t : Tag) (ts : List Tag) : occurrences name value (t :: ts) =
    occurrences name value [t] + occurrences name value ts := by
  rw [← List.singleton_append, occurrences_append]

theorem occurrences_singleton (t : Tag) : occurrences name value [t] =
    occurrences name value t.children + if t.attr? name = some value then 1 else 0 := by
  rw [occurrences, descendantsOf_cons, descendantsOf_nil, List.append_nil, List.countP_cons]
  simp only [beq_iff_eq]
  rfl

end

/-! ## Wired tags -/

/-- Tags with everything below them wired, whose ids and links use each of the new ids at most as
often as it was issued. -/
structure Wired (new : List String) (ts : List Tag) : Prop where
  ids : ∀ id, occurrences "id" id ts ≤ new.count id
  links : ∀ id, occurrences cardLink id ts ≤ new.count id
  rows : ∀ t ∈ descendantsOf ts, WiredRow t.children

namespace Wired

variable {new more : List String} {ts us vs : List Tag} {t u : Tag}

theorem nil : Wired [] [] :=
  ⟨by simp, by simp, by simp⟩

theorem append (hts : Wired new ts) (hus : Wired more us) : Wired (new ++ more) (ts ++ us) where
  ids id := by
    rw [occurrences_append, List.count_append]
    exact Nat.add_le_add (hts.ids id) (hus.ids id)
  links id := by
    rw [occurrences_append, List.count_append]
    exact Nat.add_le_add (hts.links id) (hus.links id)
  rows t ht := by
    rw [descendantsOf_append] at ht
    exact (List.mem_append.mp ht).elim (hts.rows t) (hus.rows t)

/-- What was issued besides does not matter. -/
theorem weaken (hts : Wired new ts) (more : List String) : Wired (new ++ more) ts := by
  have hempty : Wired more [] := ⟨by simp, by simp, by simp⟩
  have h := hts.append hempty
  rwa [List.append_nil] at h

theorem children (ht : Wired new [t]) : Wired new t.children where
  ids id := by
    have h := ht.ids id
    rw [occurrences_singleton] at h
    omega
  links id := by
    have h := ht.links id
    rw [occurrences_singleton] at h
    omega
  rows u hu := ht.rows u (by
    rw [descendantsOf_cons]
    exact List.mem_append_left _ (List.mem_cons_of_mem _ hu))

theorem row (ht : Wired new [t]) : WiredRow t.children :=
  ht.rows t (mem_descendantsOf_self List.mem_cons_self)

theorem rows_singleton (hrow : WiredRow t.children)
    (hrows : ∀ u ∈ descendantsOf t.children, WiredRow u.children) :
    ∀ u ∈ descendantsOf [t], WiredRow u.children := by
  intro u hu
  rw [descendantsOf_cons, descendantsOf_nil, List.append_nil] at hu
  rcases List.mem_cons.mp hu with rfl | hu
  · exact hrow
  · exact hrows u hu

/-- A tag without an id of its own is wired if its children are. -/
theorem element (hid : t.attr? "id" = none) (hlink : t.attr? cardLink = none)
    (hrow : WiredRow t.children) (h : Wired new t.children) : Wired new [t] where
  ids id := by
    rw [occurrences_singleton, hid]
    simpa using h.ids id
  links id := by
    rw [occurrences_singleton, hlink]
    simpa using h.links id
  rows := rows_singleton hrow h.rows

/-- Only the children and the two attributes count. -/
theorem congr (ht : Wired new [t]) (hchildren : u.children = t.children)
    (hid : u.attr? "id" = t.attr? "id") (hlink : u.attr? cardLink = t.attr? cardLink) :
    Wired new [u] where
  ids id := by
    rw [occurrences_singleton, hchildren, hid, ← occurrences_singleton]
    exact ht.ids id
  links id := by
    rw [occurrences_singleton, hchildren, hlink, ← occurrences_singleton]
    exact ht.links id
  rows := rows_singleton (hchildren ▸ ht.row) (hchildren ▸ ht.children.rows)

/-- A link to a card that was issued for it. -/
theorem link {id : String} (ht : Wired new [t]) (hchildren : u.children = t.children)
    (hid : u.attr? "id" = t.attr? "id") (hlink : u.attr? cardLink = some id) :
    Wired (new ++ [id]) [u] where
  ids id' := by
    rw [occurrences_singleton, hchildren, hid, ← occurrences_singleton, List.count_append]
    exact Nat.le_add_right_of_le (ht.ids id')
  links id' := by
    have h := ht.children.links id'
    rw [occurrences_singleton, hchildren, hlink, List.count_append, List.count_singleton]
    simp only [Option.some.injEq, beq_iff_eq]
    omega
  rows := rows_singleton (hchildren ▸ ht.row) (hchildren ▸ ht.children.rows)

end Wired

/-! ## Blocks and boxes -/

/-- A wired tag that is no end of a pair itself. -/
structure IsBlock (new : List String) (t : Tag) : Prop where
  wired : Wired new [t]
  plain : IsPlain t

/-- A block whose children are no ends of pairs either, so that more can be put into it. -/
structure IsBox (new : List String) (t : Tag) : Prop extends IsBlock new t where
  inside : ∀ u ∈ t.children, IsPlain u

/-- A tag that ids do not concern. -/
structure IsInert (t : Tag) : Prop extends IsPlain t where
  noId : t.attr? "id" = none
  noLink : t.attr? cardLink = none

section

variable {new more : List String} {ts us vs : List Tag} {t u : Tag}

theorem wired_of_inert (h : ∀ t ∈ descendantsOf ts, IsInert t) : Wired [] ts := by
  have hnone {name : String} (value : String) (hname : ∀ t ∈ descendantsOf ts, t.attr? name = none) :
      occurrences name value ts ≤ List.count value [] := by
    rw [occurrences, List.countP_eq_zero.mpr]
    · exact Nat.zero_le _
    · intro t ht
      rw [hname t ht]
      simp
  refine ⟨fun id => hnone id fun t ht => (h t ht).noId,
    fun id => hnone id fun t ht => (h t ht).noLink, fun t ht => wiredRow_of_plain ?_⟩
  exact fun u hu => (h u (children_subset_descendantsOf ht hu)).toIsPlain

/-- Children that are blocks of one row. -/
theorem IsInert.box (ht : IsInert t) (hinside : ∀ u ∈ t.children, IsPlain u)
    (h : Wired new t.children) : IsBox new t where
  wired := .element ht.noId ht.noLink (wiredRow_of_plain hinside) h
  plain := ht.toIsPlain
  inside := hinside

theorem IsInert.emptyBox (ht : IsInert t) (hchildren : t.children = []) : IsBox [] t := by
  refine ht.box ?_ (hchildren ▸ .nil)
  rw [hchildren]
  exact fun _ hu => absurd hu List.not_mem_nil

theorem IsBlock.congr (ht : IsBlock new t) (hplain : IsPlain u) (hchildren : u.children = t.children)
    (hid : u.attr? "id" = t.attr? "id") (hlink : u.attr? cardLink = t.attr? cardLink) :
    IsBlock new u :=
  ⟨ht.wired.congr hchildren hid hlink, hplain⟩

theorem IsBox.congr (ht : IsBox new t) (hplain : IsPlain u) (hchildren : u.children = t.children)
    (hid : u.attr? "id" = t.attr? "id") (hlink : u.attr? cardLink = t.attr? cardLink) :
    IsBox new u :=
  ⟨ht.toIsBlock.congr hplain hchildren hid hlink, hchildren ▸ ht.inside⟩

/-- Tags more, some of them among the children of the first tag and some behind the last one. -/
theorem Wired.insert (h : Wired new (t :: us)) (hmore : Wired more (ts ++ vs))
    (hrow : WiredRow (t.children ++ ts)) : Wired (new ++ more) (t.appendAll ts :: (us ++ vs)) where
  ids id := by
    have hold := h.ids id
    have hadd := hmore.ids id
    rw [occurrences_append] at hadd
    rw [occurrences_cons, occurrences_singleton] at hold ⊢
    rw [children_appendAll, attr_appendAll, occurrences_append, occurrences_append,
      List.count_append]
    omega
  links id := by
    have hold := h.links id
    have hadd := hmore.links id
    rw [occurrences_append] at hadd
    rw [occurrences_cons, occurrences_singleton] at hold ⊢
    rw [children_appendAll, attr_appendAll, occurrences_append, occurrences_append,
      List.count_append]
    omega
  rows := by
    have hrows := h.rows
    have hadd := hmore.rows
    rw [descendantsOf_cons] at hrows ⊢
    rw [descendantsOf_append] at hadd ⊢
    rw [children_appendAll, descendantsOf_append]
    simp only [List.forall_mem_append, List.forall_mem_cons] at hrows hadd ⊢
    exact ⟨⟨hrow, hrows.1.2, hadd.1⟩, hrows.2, hadd.2⟩

/-- A tag with children more, in a row with those it has already. -/
theorem Wired.appendAll (h : Wired new [t]) (hts : Wired more ts)
    (hrow : WiredRow (t.children ++ ts)) : Wired (new ++ more) [t.appendAll ts] := by
  have hinside : Wired more (ts ++ []) := by rwa [List.append_nil]
  exact h.insert hinside hrow

/-- A box with blocks more. -/
theorem IsBox.appendAll (ht : IsBox new t) (hts : Wired more ts) (hplain : ∀ u ∈ ts, IsPlain u) :
    IsBox (new ++ more) (t.appendAll ts) := by
  have hinside : ∀ u ∈ t.children ++ ts, IsPlain u :=
    List.forall_mem_append.mpr ⟨ht.inside, hplain⟩
  exact ⟨⟨ht.wired.appendAll hts (wiredRow_of_plain hinside), ⟨ht.plain.1, ht.plain.2, ht.plain.3⟩⟩,
    hinside⟩

/-- A box with a block more. -/
theorem IsBox.append (ht : IsBox new t) (hu : IsBlock more u) : IsBox (new ++ more) (t.append u) :=
  ht.appendAll hu.wired fun _ hv => List.mem_singleton.mp hv ▸ hu.plain

end

end Placard.Render
