import Mathlib.Data.List.ReduceOption
import Placard.Proofs.Render.Link
import Placard.Proofs.Render.Presence

/-!
# Groups with the links of what they hold

The tag of a group has the links of what is rendered for the parts of the group, in the same order,
and holds the cards that these lead to (`Scene.Links`). In a strip the links of the buttons come
first; the cards, with the links in them, stand behind all buttons (`LinkedStrip`).
-/

namespace Placard.Render

open Tag Data Document

/-! ## Scenes -/

/-- What is rendered for a node: a tag with the links of the node, if the node shows at all. -/
def GivesLinked (shown : Card → Tag → Prop) (cards : List (Option Card)) (new : List String)
    (tag : Option Tag) : Prop :=
  ∃ ls, ls.map Prod.snd = cards ∧ Counted new ls tag.toList ∧
    Leads shown ls (tag.toList.flatMap Tag.children)

/-- The tag that was rendered for a card with ids from a source, hidden until a button shows it. -/
def IsHidden (s : Scene) (source : IdSource) (card : Card) (t : Tag) : Prop :=
  ∃ button tag p q, s.render (.element (.card card)) source p = (.ok (some tag), q) ∧
    t = shownCard s.host.actions button tag

/-- What is rendered for an element has the links of the element. -/
def Scene.Links (s : Scene) (source : IdSource) (e : Element) : Prop :=
  IssuesFrom source (s.render (.element e))
    (GivesLinked (IsHidden s source) (cardLinks s.host (.element e)))

/-- A card that an action shows has its links too, and is rendered to a tag. -/
def Scene.LinksCard (s : Scene) (source : IdSource) (card : Card) : Prop :=
  s.Links source (.card card) ∧ GivesTag (s.render (.element (.card card)))

/-- What is rendered for an action: a button with a link, which an id was issued for, just if the
action shows a card. -/
def GivesLink (action : Node) (new : List String) (tag : Option Tag) : Prop :=
  (action.kind = "Action.ShowCard" ∧ ∃ id button, tag = some button ∧ new = [id] ∧
      button.children = [] ∧ button.attr? "id" = none ∧ button.attr? cardLink = some id) ∨
    (action.kind ≠ "Action.ShowCard" ∧ Counted new [] tag.toList)

section

variable {shown : Card → Tag → Prop} {own : Option String} {new more : List String}
  {ls ms : List (String × Option Card)} {cards : List (Option Card)} {t u : Tag}

theorem IsLinked.gives (h : IsLinked shown own new ls t) (hcards : ls.map Prod.snd = cards) :
    GivesLinked shown cards new (some t) := by
  refine ⟨ls, hcards, h.toCounted, ?_⟩
  rw [Option.toList_some, List.flatMap_singleton]
  exact h.cards

theorem GivesLinked.map {tag : Option Tag} (h : GivesLinked shown cards new tag) {f : Tag → Tag}
    (hf : ∀ t, (f t).children = t.children ∧ (f t).attr? "id" = t.attr? "id" ∧
      (f t).attr? cardLink = t.attr? cardLink) : GivesLinked shown cards new (tag.map f) := by
  obtain ⟨ls, hcards, hcounted, hleads⟩ := h
  cases tag with
  | none => exact ⟨ls, hcards, hcounted, hleads⟩
  | some t =>
    obtain ⟨hchildren, hid, hlink⟩ := hf t
    refine ⟨ls, hcards, hcounted.congr hchildren hid hlink, ?_⟩
    rw [Option.toList_some, List.flatMap_singleton] at hleads
    rw [Option.map_some, Option.toList_some, List.flatMap_singleton, hchildren]
    exact hleads

/-- What is below a tag that was rendered is found in any list with the tag. -/
theorem Leads.of_below {tag : Option Tag} (h : Leads shown ls (tag.toList.flatMap Tag.children)) :
    Leads shown ls tag.toList := by
  cases tag with
  | none => exact h
  | some t =>
    rw [Option.toList_some, List.flatMap_singleton] at h
    exact h.of_children

/-! ## Frames -/

/-- A tag with a tag more, behind a separator if there is one. -/
theorem IsLinked.appendSeparated (h : IsLinked shown own new ls t) {separator : Option Tag}
    (hseparator : ∀ t ∈ separator, IsInert t ∧ t.children = []) (hu : Counted more ms [u])
    (hcards : Leads shown ms u.children) :
    IsLinked shown own (new ++ more) (ls ++ ms) (appendSeparated separator t u) := by
  unfold Render.appendSeparated
  dsimp only
  split
  · exact h.appendAll hu hcards.of_children
  · have hspaced := h.appendAll (counted_separator hseparator) leads_nil
    rw [List.append_nil, List.append_nil] at hspaced
    exact hspaced.appendAll hu hcards.of_children

/-- A tag has gained the links of some nodes, behind those that it had. -/
def Gains (shown : Card → Tag → Prop) (own : Option String) (new : List String)
    (ls : List (String × Option Card)) (cards : List (Option Card)) (more : List String)
    (t : Tag) : Prop :=
  ∃ ms, ms.map Prod.snd = cards ∧ IsLinked shown own (new ++ more) (ls ++ ms) t

theorem IsLinked.gains_nil (h : IsLinked shown own new ls t) : Gains shown own new ls [] [] t :=
  ⟨[], rfl, by rwa [List.append_nil, List.append_nil]⟩

/-- A node that does not show has no links. -/
theorem IsLinked.gains_none (h : IsLinked shown own new ls t)
    (hnone : GivesLinked shown cards more none) : Gains shown own new ls cards more t := by
  obtain ⟨ms, hcards, hcounted, -⟩ := hnone
  exact ⟨ms, hcards, h.nothing hcounted⟩

theorem IsLinked.gains_some (h : IsLinked shown own new ls t) {separator : Option Tag}
    (hseparator : ∀ t ∈ separator, IsInert t ∧ t.children = [])
    (hu : GivesLinked shown cards more (some u)) :
    Gains shown own new ls cards more (Render.appendSeparated separator t u) := by
  obtain ⟨ms, hcards, hcounted, hleads⟩ := hu
  rw [Option.toList_some, List.flatMap_singleton] at hleads
  exact ⟨ms, hcards, h.appendSeparated hseparator hcounted hleads⟩

/-- The steps by which a tag grows, one after the other. -/
theorem gains_bind {source : IdSource} {m : Render Tag} {f : Tag → Render Tag}
    {cards' : List (Option Card)} (hm : IssuesFrom source m (Gains shown own new ls cards))
    (hf : ∀ {more ms u}, IsLinked shown own more ms u →
      IssuesFrom source (f u) (Gains shown own more ms cards')) :
    IssuesFrom source (m >>= f) (Gains shown own new ls (cards ++ cards')) := by
  refine hm.bind fun more u hu => ?_
  obtain ⟨ms, hcards, hlinked⟩ := hu
  refine (hf hlinked).mono fun most v hv => ?_
  obtain ⟨ns, hcards', hlinked'⟩ := hv
  refine ⟨ms ++ ns, by rw [List.map_append, hcards, hcards'], ?_⟩
  rwa [← List.append_assoc, ← List.append_assoc]

section

variable {s : Scene} {source : IdSource}

theorem link_addElements {es : List Element} (h : ∀ e ∈ es, s.Links source e)
    (ht : IsLinked (IsHidden s source) own new ls t) :
    IssuesFrom source (addElements s t es) (Gains (IsHidden s source) own new ls
      ((es.map Node.element).flatMap (cardLinks s.host))) := by
  induction es generalizing t new ls with
  | nil => exact .pure ht.gains_nil
  | cons e es ih =>
    rw [List.forall_mem_cons] at h
    rw [List.map_cons, List.flatMap_cons]
    refine gains_bind ?_ fun hu => ih h.2 hu
    refine h.1.bind fun more tag htag => ?_
    cases tag with
    | none => exact .pure (by simpa using ht.gains_none htag)
    | some u => exact .pure (by simpa using ht.gains_some (separator_inert _ _ _) htag)

theorem link_addColumns {columns : List Column} (total : Number.Double)
    (h : ∀ c ∈ columns, s.Links source (.column c))
    (ht : IsLinked (IsHidden s source) own new ls t) :
    IssuesFrom source (addColumns s total t columns) (Gains (IsHidden s source) own new ls
      ((columns.map fun c => Node.element (.column c)).flatMap (cardLinks s.host))) := by
  induction columns generalizing t new ls with
  | nil => exact .pure ht.gains_nil
  | cons c columns ih =>
    rw [List.forall_mem_cons] at h
    rw [List.map_cons, List.flatMap_cons]
    refine gains_bind ?_ fun hu => ih h.2 hu
    refine h.1.bind fun more tag htag => ?_
    cases tag with
    | none => exact .pure (by simpa using ht.gains_none htag)
    | some u =>
      refine .read fun width => .pure ?_
      have hstyled := htag.map (f := fun u => u.setStyle .flex width) fun _ => ⟨rfl, rfl, rfl⟩
      simpa using ht.gains_some (columnSeparator_inert _ _) hstyled

/-! ## Strips -/

/-- A strip with the links of its buttons, and with the cards that they lead to behind it. -/
structure LinkedStrip (shown : Card → Tag → Prop) (new : List String)
    (bs cs : List (String × Option Card)) (strip : Strip) : Prop where
  noId : strip.bar.attr? "id" = none
  noLink : strip.bar.attr? cardLink = none
  buttons : linksOf strip.bar.children = bs.map Prod.fst
  inside : linksOf strip.cards = cs.map Prod.fst
  ids : ∀ id, occurrences "id" id (strip.bar.children ++ strip.cards) + loose (bs ++ cs) id ≤
    new.count id
  leads : Leads shown (bs ++ cs) strip.cards

theorem linkedStrip_empty (layout : Host.ActionLayout) :
    LinkedStrip shown [] [] [] { bar := emptyBar layout, cards := [] } := by
  have hbar : (emptyBar layout).children = [] ∧ (emptyBar layout).attr? "id" = none ∧
      (emptyBar layout).attr? cardLink = none := by
    unfold emptyBar
    dsimp only
    split <;> simp
  obtain ⟨hchildren, hid, hlink⟩ := hbar
  refine ⟨hid, hlink, ?_, ?_, ?_, leads_nil⟩ <;> simp [hchildren]

/-- A button more, and what stands for it behind the strip. -/
theorem LinkedStrip.add {bs cs bs' cs' : List (String × Option Card)} {strip : Strip}
    (h : LinkedStrip shown new bs cs strip) (layout : Host.ActionLayout) {button : Tag}
    {cards : List Tag} (hbutton : linksOf [button] = bs'.map Prod.fst)
    (hinside : linksOf cards = cs'.map Prod.fst)
    (hids : ∀ id, occurrences "id" id ([button] ++ cards) + loose (bs' ++ cs') id ≤ more.count id)
    (hleads : Leads shown (bs' ++ cs') cards) :
    LinkedStrip shown (new ++ more) (bs ++ bs') (cs ++ cs')
      { bar := appendButton layout strip.bar button, cards := strip.cards ++ cards } := by
  obtain ⟨gaps, hgaps, heq⟩ := appendButton_eq layout strip.bar button
  have hnone (id : String) : occurrences "id" id gaps = 0 :=
    Nat.le_zero.mp ((wired_of_inert hgaps).ids id)
  rw [heq]
  refine ⟨h.noId, h.noLink, ?_, ?_, fun id => ?_, ?_⟩
  · rw [children_appendAll, linksOf_append, linksOf_append, h.buttons, linksOf_of_inert hgaps,
      hbutton, List.nil_append, List.map_append]
  · rw [linksOf_append, h.inside, hinside, List.map_append]
  · have hold := h.ids id
    have hadded := hids id
    simp only [children_appendAll, occurrences_append, loose_append, List.count_append, hnone]
      at hold hadded ⊢
    omega
  · -- each part of the two lists leads to the cards that stood or stand there
    have hboth := h.leads.append hleads
    simp only [leads_append] at hboth ⊢
    tauto

theorem LinkedStrip.weaken {bs cs : List (String × Option Card)} {strip : Strip}
    (h : LinkedStrip shown new bs cs strip) (more : List String) :
    LinkedStrip shown (new ++ more) bs cs strip := by
  refine ⟨h.noId, h.noLink, h.buttons, h.inside, fun id => ?_, h.leads⟩
  rw [List.count_append]
  exact Nat.le_add_right_of_le (h.ids id)

/-- A tag that was rendered for a card gets the id of the link, and leads nowhere else. -/
theorem shownCard_attr (layout : Host.ActionLayout) {button : Tag} {id : String}
    (hlink : button.attr? cardLink = some id) (t : Tag) :
    (shownCard layout button t).children = t.children ∧
      (shownCard layout button t).attr? "id" = some id ∧
      (shownCard layout button t).attr? cardLink = t.attr? cardLink := by
  have hne : "id" ≠ cardLink := by decide
  simp [shownCard, hlink, hne]

/-- A button with the card that it shows: the card has the id that the link of the button is, and
the cards that its own links lead to are in it. -/
theorem LinkedStrip.addCard {bs cs ls : List (String × Option Card)} {strip : Strip}
    (h : LinkedStrip shown new bs cs strip) (layout : Host.ActionLayout) {button : Tag}
    {id : String} {card : Card} (hchildren : button.children = [])
    (hid : button.attr? "id" = none) (hlink : button.attr? cardLink = some id)
    (ht : Counted more ls [t]) (hleads : Leads shown ls t.children)
    (hshown : shown card (shownCard layout button t)) :
    LinkedStrip shown (new ++ ([id] ++ more)) (bs ++ [(id, some card)]) (cs ++ ls)
      { bar := appendButton layout strip.bar button
        cards := strip.cards ++ [shownCard layout button t] } := by
  obtain ⟨hinside, hown, hkept⟩ := shownCard_attr layout hlink t
  refine h.add layout ?_ ?_ (fun v => ?_) (leads_append.mpr ⟨?_, ?_⟩)
  · rw [linksOf_singleton, hlink, hchildren, linksOf_nil]
    rfl
  · rw [linksOf_singleton, hkept, hinside, ← linksOf_singleton, ht.links]
  · have hids := ht.ids v
    rw [occurrences_singleton] at hids
    rw [occurrences_append, occurrences_singleton, occurrences_singleton, hchildren, hid, hown,
      hinside, occurrences_nil, loose_append, loose_some, List.count_append, List.count_singleton]
    simp only [reduceCtorEq, if_false, Option.some.injEq, beq_iff_eq]
    omega
  · intro v card' hmem
    obtain ⟨rfl, hcard⟩ := Prod.mk.inj (List.mem_singleton.mp hmem)
    obtain rfl := Option.some.inj hcard
    exact ⟨_, mem_descendantsOf_self List.mem_cons_self, hown, hshown⟩
  · rw [← hinside] at hleads
    exact hleads.of_children

/-- A button that would show a card but has none: its link leads nowhere. -/
theorem LinkedStrip.addBare {bs cs : List (String × Option Card)} {strip : Strip}
    (h : LinkedStrip shown new bs cs strip) (layout : Host.ActionLayout) {button : Tag}
    {id : String} (hchildren : button.children = []) (hid : button.attr? "id" = none)
    (hlink : button.attr? cardLink = some id) :
    LinkedStrip shown (new ++ [id]) (bs ++ [(id, none)]) (cs ++ [])
      { bar := appendButton layout strip.bar button, cards := strip.cards ++ [] } := by
  refine h.add layout ?_ rfl (fun v => ?_) ?_
  · rw [linksOf_singleton, hlink, hchildren, linksOf_nil]
    rfl
  · have hnone : occurrences "id" v [button] = 0 := by
      simp [occurrences_singleton, hchildren, hid]
    simp [hnone, loose_none]
  · intro v card hmem
    cases (Prod.mk.inj (List.mem_singleton.mp hmem)).2

/-- The cards that the actions of a strip show. -/
def shownBy (as : List Action) : List Node :=
  (as.filterMap cardOf?).map fun card => .element (.card card)

theorem shownBy_append (as bs : List Action) : shownBy (as ++ bs) = shownBy as ++ shownBy bs := by
  rw [shownBy, List.filterMap_append, List.map_append]
  rfl

/-- A strip has gained the links of some actions, and those of the cards that they show. -/
def Gained (s : Scene) (source : IdSource) (new : List String)
    (bs cs : List (String × Option Card)) (as : List Action) (more : List String) (strip : Strip) :
    Prop :=
  ∃ bs' cs', bs'.map Prod.snd = (as.map Node.action).flatMap (cardLinks s.host) ∧
    cs'.map Prod.snd = (shownBy as).flatMap (cardLinks s.host) ∧
    LinkedStrip (IsHidden s source) (new ++ more) (bs ++ bs') (cs ++ cs') strip

theorem link_addAction {bs cs : List (String × Option Card)} {strip : Strip} {a : Action}
    (haction : IssuesFrom source (s.render (.action a)) (GivesLink (.action a)))
    (hcard : ∀ card, cardOf? a = some card → s.LinksCard source card)
    (h : LinkedStrip (IsHidden s source) new bs cs strip) :
    IssuesFrom source (addAction s strip a) (Gained s source new bs cs [a]) := by
  have hown : cardLinks s.host (.action a) = linkFor (.action a) (cardOf? a) := cardLinks_leaf rfl
  unfold addAction
  refine haction.bind fun more tag hgives => ?_
  -- a button has a link exactly if its action shows cards
  rcases hgives with ⟨hkind, id, button, rfl, rfl, hchildren, hid, hlink⟩ | ⟨hkind, hcounted⟩
  · rw [linkFor, if_pos hkind] at hown
    dsimp only
    split
    · next card hshown =>
      obtain ⟨hlinks, hsome⟩ := hcard card hshown
      refine hlinks.self.give fun most tag htag => ?_
      obtain ⟨⟨ls, hcards, hcounted, hleads⟩, p, q, hrun⟩ := htag
      obtain ⟨t, rfl⟩ := Option.isSome_iff_exists.mp (hsome source p tag q hrun)
      rw [Option.toList_some, List.flatMap_singleton] at hleads
      refine ⟨[(id, some card)], ls, ?_, ?_, h.addCard _ hchildren hid hlink hcounted hleads
        ⟨button, t, p, q, hrun, rfl⟩⟩
      · simp [hown, hshown]
      · simp [shownBy, hshown, hcards]
    · next hshown =>
      refine .pure ⟨[(id, none)], [], ?_, ?_, h.addBare _ hchildren hid hlink⟩
      · simp [hown, hshown]
      · simp [shownBy, hshown]
  · rw [linkFor, if_neg hkind] at hown
    have hshown : cardOf? a = none := by
      cases a with
      | showCard => exact absurd rfl hkind
      | _ => rfl
    cases tag with
    | none =>
      refine .pure ⟨[], [], by simp [hown], by simp [shownBy, hshown], ?_⟩
      rw [List.append_nil, List.append_nil, List.append_nil]
      exact h.weaken more
    | some button =>
      rw [hshown]
      refine .pure ⟨[], [], by simp [hown], by simp [shownBy, hshown], ?_⟩
      rw [List.append_nil]
      refine h.add _ hcounted.links rfl (fun v => ?_) leads_nil
      simpa using hcounted.ids v

theorem link_addActions {as : List Action} {bs cs : List (String × Option Card)} {strip : Strip}
    (haction : ∀ a ∈ as, IssuesFrom source (s.render (.action a)) (GivesLink (.action a)))
    (hcard : ∀ card ∈ as.filterMap cardOf?, s.LinksCard source card)
    (h : LinkedStrip (IsHidden s source) new bs cs strip) :
    IssuesFrom source (addActions s strip as) (Gained s source new bs cs as) := by
  induction as generalizing strip new bs cs with
  | nil => exact .pure ⟨[], [], rfl, rfl, by simpa using h⟩
  | cons a as ih =>
    rw [List.forall_mem_cons] at haction
    have hfirst := link_addAction haction.1 (fun card hshown =>
      hcard card (List.mem_filterMap.mpr ⟨a, List.mem_cons_self, hshown⟩)) h
    have hothers : ∀ card ∈ as.filterMap cardOf?, s.LinksCard source card := by
      intro card hmem
      obtain ⟨b, hb, hshown⟩ := List.mem_filterMap.mp hmem
      exact hcard card (List.mem_filterMap.mpr ⟨b, List.mem_cons_of_mem _ hb, hshown⟩)
    refine hfirst.bind fun more strip' hgained => ?_
    obtain ⟨bs', cs', hbs, hcs, hstrip⟩ := hgained
    refine (ih haction.2 hothers hstrip).mono fun most strip'' hgained' => ?_
    obtain ⟨bs'', cs'', hbs', hcs', hstrip'⟩ := hgained'
    refine ⟨bs' ++ bs'', cs' ++ cs'', ?_, ?_, ?_⟩
    · rw [List.map_append, hbs, hbs', ← List.flatMap_append, ← List.map_append]
      rfl
    · rw [List.map_append, hcs, hcs', ← List.flatMap_append, ← shownBy_append]
      rfl
    · simpa using hstrip'

/-- A tag with a strip below what is in it, and the cards of that strip. -/
theorem IsLinked.appendStrip {bs cs : List (String × Option Card)} {strip : Strip}
    (h : IsLinked shown own new ls t) (hstrip : LinkedStrip shown more bs cs strip)
    (host : Host.Config) :
    IsLinked shown own (new ++ more) (ls ++ (bs ++ cs)) (appendStrip host t strip) := by
  -- with a bar or without one, the strip goes behind what the card has already
  have hall (lines : List Tag) (hlines : Counted [] [] lines) (bar : List Tag)
      (hlinks : linksOf bar = bs.map Prod.fst)
      (hids : ∀ id, occurrences "id" id bar = occurrences "id" id strip.bar.children) :
      IsLinked shown own (new ++ more) (ls ++ (bs ++ cs))
        (t.appendAll (lines ++ (bar ++ strip.cards))) := by
    have hrest : Counted more (bs ++ cs) (bar ++ strip.cards) := by
      refine ⟨by rw [linksOf_append, hlinks, hstrip.inside, List.map_append], fun id => ?_⟩
      rw [occurrences_append, hids, ← occurrences_append]
      exact hstrip.ids id
    have hleads : Leads shown (bs ++ cs) (lines ++ (bar ++ strip.cards)) := by
      refine hstrip.leads.mono ?_
      rw [descendantsOf_append, descendantsOf_append]
      exact List.subset_append_of_subset_right _ (List.subset_append_right _ _)
    exact h.appendAll (hlines.append hrest) hleads
  have hseparator := separator_inert host host.actions.spacing false
  unfold Render.appendStrip
  dsimp only
  generalize separator? host host.actions.spacing false = separator at hseparator ⊢
  split
  · next hempty =>
    have hchildren := List.isEmpty_iff.mp hempty
    have hbare := hall [] counted_nil [] (by rw [← hstrip.buttons, hchildren]) (by simp [hchildren])
    simpa using hbare
  · have hbar := hall separator.toList (counted_separator hseparator) [strip.bar]
      (by rw [linksOf_singleton, hstrip.noLink, hstrip.buttons]; rfl)
      (fun id => by rw [occurrences_singleton, hstrip.noId]; simp)
    simpa [Tag.appendAll, Tag.append] using hbar

end

end

end Placard.Render
