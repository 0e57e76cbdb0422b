import Placard.Proofs.Render.Still
import Placard.Proofs.Render.Visible

/-!
# Links to cards

Whatever activates an action that shows a card has a link, for which an id is issued. The card is
rendered for the button of the action only: below the strip, under that id. Nothing is rendered for
what an element is selected by, so the link of an element leads nowhere.

`cardLinks` lists the links of what shows of a node, in the order of the document, each with the card
that is rendered for it, if one is. `Counted` compares tags with such a list. Each tag has its own
ids, and of the ids that are issued one is left for each link that leads nowhere.
-/

namespace Placard.Render

open Tag Data Document

/-! ## Links of nodes -/

/-- The link of what activates an action, if it has one, with the card that is rendered for it. -/
def linkFor (action : Node) (card : Option Card) : List (Option Card) :=
  if action.kind = "Action.ShowCard" then [card] else []

/-- The links of the tag of a node itself. -/
def ownLinks : Node → List (Option Card)
  | .element (.container c) => c.selectAction.toList.flatMap fun a => linkFor (.action a) none
  | .element (.column c) => c.selectAction.toList.flatMap fun a => linkFor (.action a) none
  | .element (.columnSet c) => c.selectAction.toList.flatMap fun a => linkFor (.action a) none
  | .element (.image i) => i.selectAction.toList.flatMap fun a => linkFor (.action a) none
  | .element (.unknown u) => linkFor (.element (.unknown u)) none
  | .action a => linkFor (.action a) (cardOf? a)
  | _ => []

/-- The links of what shows of a node, each with the card that is rendered for it, if one is. -/
def cardLinks (host : Host.Config) (n : Node) : List (Option Card) :=
  ownLinks n ++ (shownParts host n).attach.flatMap fun m => cardLinks host m.1
termination_by n.height
decreasing_by exact lt_of_mem_shownParts m.2

theorem cardLinks_eq (host : Host.Config) (n : Node) :
    cardLinks host n = ownLinks n ++ (shownParts host n).flatMap (cardLinks host) := by
  rw [cardLinks, List.flatMap_subtype (g := cardLinks host) (fun _ _ => rfl), List.unattach_attach]

theorem cardLinks_leaf {host : Host.Config} {n : Node} (h : shownParts host n = []) :
    cardLinks host n = ownLinks n := by
  rw [cardLinks_eq, h, List.flatMap_nil, List.append_nil]

theorem cardLinks_group {host : Host.Config} {n : Node} (h : ownLinks n = []) :
    cardLinks host n = (shownParts host n).flatMap (cardLinks host) := by
  rw [cardLinks_eq, h, List.nil_append]

/-! ## Links of tags -/

/-- The links of these tags and all below them, in document order. -/
def linksOf (ts : List Tag) : List String :=
  (descendantsOf ts).filterMap (·.attr? cardLink)

section

variable {t : Tag} {ts us : List Tag}

@[simp] theorem linksOf_nil : linksOf [] = [] := by
  rw [linksOf, descendantsOf_nil, List.filterMap_nil]

@[simp] theorem linksOf_append : linksOf (ts ++ us) = linksOf ts ++ linksOf us := by
  rw [linksOf, descendantsOf_append, List.filterMap_append]
  rfl

theorem linksOf_singleton : linksOf [t] = (t.attr? cardLink).toList ++ linksOf t.children := by
  rw [linksOf, descendantsOf_cons, descendantsOf_nil, List.append_nil]
  cases h : t.attr? cardLink with
  | none => rw [List.filterMap_cons_none h]; rfl
  | some id => rw [List.filterMap_cons_some h]; rfl

/-- Where nothing can be activated there are no links. -/
theorem linksOf_of_still (h : AllObey stillness ts) : linksOf ts = [] :=
  List.filterMap_eq_nil_iff.mpr fun t ht =>
    (IsStill.of_obeys (h t ht)).attributes cardLink (by decide)

theorem linksOf_of_inert (h : ∀ t ∈ descendantsOf ts, IsInert t) : linksOf ts = [] :=
  List.filterMap_eq_nil_iff.mpr fun t ht => (h t ht).noLink

end

/-! ## Tags with their links -/

/-- How often an id is a link that no card is rendered for. -/
def loose (links : List (String × Option Card)) (id : String) : Nat :=
  links.countP fun link => link.1 == id && link.2.isNone

section

variable (id v : String) (ls ms : List (String × Option Card))

@[simp] theorem loose_nil : loose [] id = 0 := rfl

@[simp] theorem loose_append : loose (ls ++ ms) id = loose ls id + loose ms id :=
  List.countP_append

@[simp] theorem loose_some (card : Card) : loose [(v, some card)] id = 0 := by
  simp [loose]

theorem loose_none : loose [(v, none)] id = [v].count id := by
  simp [loose, List.count_singleton, List.countP_cons]

end

/-- Tags with these links, in document order. Together with the links that no card is rendered for,
the tags use each of the new ids at most as often as it was issued. -/
structure Counted (new : List String) (ls : List (String × Option Card)) (ts : List Tag) :
    Prop where
  links : linksOf ts = ls.map Prod.fst
  ids : ∀ id, occurrences "id" id ts + loose ls id ≤ new.count id

/-- The links that cards are rendered for lead to their cards, among these tags and all below. -/
def Leads (shown : Card → Tag → Prop) (ls : List (String × Option Card)) (ts : List Tag) : Prop :=
  ∀ id card, (id, some card) ∈ ls → ∃ t ∈ descendantsOf ts, t.attr? "id" = some id ∧ shown card t

section

variable {shown : Card → Tag → Prop} {own : Option String} {new more : List String}
  {ls ms : List (String × Option Card)} {t u : Tag} {ts us : List Tag}

theorem counted_nil : Counted [] [] [] :=
  ⟨by simp, by simp⟩

theorem Counted.append (h : Counted new ls ts) (h' : Counted more ms us) :
    Counted (new ++ more) (ls ++ ms) (ts ++ us) where
  links := by rw [linksOf_append, h.links, h'.links, List.map_append]
  ids id := by
    have hids := h.ids id
    have hids' := h'.ids id
    rw [occurrences_append, loose_append, List.count_append]
    omega

theorem Counted.weaken (h : Counted new ls ts) (more : List String) :
    Counted (new ++ more) ls ts := by
  have hall := h.append (⟨by simp, by simp⟩ : Counted more [] [])
  rwa [List.append_nil, List.append_nil] at hall

/-- Without tags there are no links. -/
theorem Counted.eq_nil (h : Counted new ls []) : ls = [] := by
  have hlinks := h.links
  rw [linksOf_nil] at hlinks
  exact List.map_eq_nil_iff.mp hlinks.symm

/-- Only the children and the two attributes count. -/
theorem Counted.congr (h : Counted new ls [t]) (hchildren : u.children = t.children)
    (hid : u.attr? "id" = t.attr? "id") (hlink : u.attr? cardLink = t.attr? cardLink) :
    Counted new ls [u] where
  links := by rw [linksOf_singleton, hlink, hchildren, ← linksOf_singleton, h.links]
  ids id := by
    rw [occurrences_singleton, hid, hchildren, ← occurrences_singleton]
    exact h.ids id

/-- Wired tags without links. -/
theorem Wired.counted (h : Wired new ts) (hlinks : linksOf ts = []) : Counted new [] ts :=
  ⟨by rw [hlinks, List.map_nil], by simpa using h.ids⟩

theorem leads_nil : Leads shown [] ts :=
  fun _ _ h => absurd h List.not_mem_nil

theorem Leads.mono (h : Leads shown ls ts) (hsub : descendantsOf ts ⊆ descendantsOf us) :
    Leads shown ls us := by
  intro id card hmem
  obtain ⟨t, ht, hid, hshown⟩ := h id card hmem
  exact ⟨t, hsub ht, hid, hshown⟩

theorem leads_append : Leads shown (ls ++ ms) ts ↔ Leads shown ls ts ∧ Leads shown ms ts := by
  constructor
  · exact fun h => ⟨fun id card hmem => h id card (List.mem_append_left _ hmem),
      fun id card hmem => h id card (List.mem_append_right _ hmem)⟩
  · rintro ⟨h, h'⟩ id card hmem
    exact (List.mem_append.mp hmem).elim (h id card) (h' id card)

theorem Leads.append (h : Leads shown ls ts) (h' : Leads shown ms us) :
    Leads shown (ls ++ ms) (ts ++ us) := by
  refine leads_append.mpr ⟨h.mono ?_, h'.mono ?_⟩
  · exact descendantsOf_append ts us ▸ List.subset_append_left _ _
  · exact descendantsOf_append ts us ▸ List.subset_append_right _ _

/-- What is below a tag is found in any list with the tag. -/
theorem Leads.of_children (h : Leads shown ls t.children) : Leads shown ls [t] := by
  refine h.mono fun u hu => ?_
  rw [descendantsOf_cons]
  exact List.mem_append_left _ (List.mem_cons_of_mem _ hu)

/-! ## A tag with what is in it -/

/-- A tag with these links, of its own and of the tags in it, whose cards are in it. -/
structure IsLinked (shown : Card → Tag → Prop) (own : Option String) (new : List String)
    (ls : List (String × Option Card)) (t : Tag) : Prop extends Counted new ls [t] where
  own : t.attr? cardLink = own
  cards : Leads shown ls t.children

theorem IsLeaf.counted (ht : IsLeaf t) : Counted [] [] [t] := by
  refine ht.block.wired.counted ?_
  rw [linksOf_singleton, ht.noLink, ht.empty, linksOf_nil]
  rfl

theorem IsLeaf.linked (ht : IsLeaf t) (shown : Card → Tag → Prop) :
    IsLinked shown none [] [] t :=
  ⟨ht.counted, ht.noLink, leads_nil⟩

/-- A separator, if there is one, has no links. -/
theorem counted_separator {separator : Option Tag}
    (h : ∀ t ∈ separator, IsInert t ∧ t.children = []) : Counted [] [] separator.toList := by
  cases separator with
  | none => exact counted_nil
  | some line =>
    obtain ⟨hinert, hempty⟩ := h line rfl
    exact IsLeaf.counted ⟨hinert, hempty⟩

/-- Tags are added behind those that are there, and so are their links. -/
theorem IsLinked.appendAll (h : IsLinked shown own new ls t) (hus : Counted more ms us)
    (hcards : Leads shown ms us) : IsLinked shown own (new ++ more) (ls ++ ms) (t.appendAll us) where
  links := by
    have hlinks := h.links
    rw [linksOf_singleton] at hlinks
    rw [linksOf_singleton, attr_appendAll, children_appendAll, linksOf_append,
      ← List.append_assoc, hlinks, hus.links, List.map_append]
  ids id := by
    have hids := h.ids id
    have hmore := hus.ids id
    rw [occurrences_singleton] at hids
    rw [occurrences_singleton, attr_appendAll, children_appendAll, occurrences_append, loose_append,
      List.count_append]
    omega
  own := h.own
  cards := h.cards.append hcards

theorem IsLinked.nothing (h : IsLinked shown own new ls t) (hnone : Counted more ms []) :
    IsLinked shown own (new ++ more) (ls ++ ms) t := by
  rw [hnone.eq_nil, List.append_nil]
  exact ⟨h.toCounted.weaken more, h.own, h.cards⟩

/-- A tag that gets a link of its own, which no card is rendered for. -/
theorem IsLinked.select {action : Node} (h : IsLinked shown none new ls t)
    (hu : Linked action.kind t more u) : ∃ own ms, ms.map Prod.snd = linkFor action none ∧
      IsLinked shown own (new ++ more) (ms ++ ls) u := by
  rcases hu.link with ⟨hkind, rfl, hlink⟩ | ⟨hkind, id, rfl, hlink⟩
  · refine ⟨none, [], ?_, ?_⟩
    · rw [linkFor, if_neg hkind]
      rfl
    · rw [List.append_nil, List.nil_append]
      exact ⟨h.toCounted.congr hu.children hu.id hlink, hlink.trans h.own, hu.children ▸ h.cards⟩
  · refine ⟨some id, [(id, none)], ?_, ⟨?_, fun v => ?_⟩, hlink, ?_⟩
    · rw [linkFor, if_pos hkind]
      rfl
    · have hlinks := h.links
      rw [linksOf_singleton, h.own, Option.toList_none, List.nil_append] at hlinks
      rw [linksOf_singleton, hlink, hu.children, hlinks, List.map_append]
      rfl
    · have hids := h.ids v
      rw [occurrences_singleton] at hids
      rw [occurrences_singleton, hu.children, hu.id, loose_append, loose_none, List.count_append]
      omega
    · rw [hu.children]
      refine leads_append.mpr ⟨?_, h.cards⟩
      intro v card hmem
      cases (Prod.mk.inj (List.mem_singleton.mp hmem)).2

end

end Placard.Render
