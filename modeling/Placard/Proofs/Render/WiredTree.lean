import Placard.Proofs.Markdown.FragmentVocabulary
import Placard.Proofs.Render.CardPass
import Placard.Proofs.Render.WiredInput

/-!
# Rendered trees are wired

By induction on the height of a node the tags of all nodes are wired: a renderer has only lower
nodes rendered. In the tree of a card that gives, path by path, what labels and shown cards are
joined to (`IsWiredTree`), and that the ids of the tree are distinct.
-/

namespace Placard.Render

open Tag Data Document

/-! ## Nodes -/

section

variable {s : Scene}

theorem GivesButton.of_block {kind : String} (hkind : kind ≠ "Action.ShowCard") {new : List String}
    {tag : Option Tag} (h : GivesBlock new tag) : GivesButton kind new tag :=
  fun t ht => ⟨h t ht, fun hshow => absurd hshow hkind⟩

theorem GivesButton.block {kind : String} {new : List String} {tag : Option Tag}
    (h : GivesButton kind new tag) : GivesBlock new tag :=
  fun t ht => (h t ht).1

theorem issues_renderMisplaced (hs : s.Wires) {node : Node} {u : Unknown}
    (hnode : node.kind = u.kind) :
    Issues (renderMisplaced s node u) (GivesButton u.kind) := by
  have hblock {m : Render Tag} (hm : Issues m IsBlock) (hkind : u.kind ≠ "Action.ShowCard") :
      Issues (some <$> m) (GivesButton u.kind) :=
    hm.map fun _ _ ht => .of_block hkind (givesBlock_some.mpr ht)
  have hleaf {x : Except Fault Tag} (hx : Gives x IsLeaf) (hkind : u.kind ≠ "Action.ShowCard") :
      Issues (some <$> ofExcept x) (GivesButton u.kind) :=
    hblock (.ofExcept fun t ht => (hx t ht).block) hkind
  unfold renderMisplaced
  dsimp only
  split
  · next hkind => exact hleaf (misplacedCard_leaf _) (by rw [hkind]; decide)
  · next hkind => exact hleaf (misplacedText_leaf _) (by rw [hkind]; decide)
  · next hkind => exact hblock (.ofExcept (misplacedImage_block _)) (by rw [hkind]; decide)
  · next hkind =>
    exact hleaf (misplacedStack_leaf _ (by decide) (by decide)) (by rw [hkind]; decide)
  · next hkind =>
    exact hleaf (misplacedStack_leaf _ (by decide) (by decide)) (by rw [hkind]; decide)
  · next hkind => exact hleaf (misplacedRow_leaf _) (by rw [hkind]; decide)
  · next hkind => exact hleaf (misplacedFacts_leaf _) (by rw [hkind]; decide)
  · next hkind => exact hleaf (misplacedImages_leaf _) (by rw [hkind]; decide)
  · next hkind => exact hblock (issues_misplacedChoiceSet _ _) (by rw [hkind]; decide)
  · next hkind => exact hleaf (misplacedTextInput_leaf _ _) (by rw [hkind]; decide)
  · next hkind => exact hleaf (misplacedNumberInput_leaf _ _) (by rw [hkind]; decide)
  · next hkind =>
    exact hleaf (misplacedPicker_leaf _ _ (by decide) (by decide) _) (by rw [hkind]; decide)
  · next hkind =>
    exact hleaf (misplacedPicker_leaf _ _ (by decide) (by decide) _) (by rw [hkind]; decide)
  · next hkind => exact hblock (issues_misplacedToggle _ _) (by rw [hkind]; decide)
  · have hbutton := issues_renderAction hs.transformers node
    rwa [hnode] at hbutton

theorem issues_renderNode_element (hs : s.Wires) (e : Element) :
    Issues (renderNode s (.element e)) GivesBlock := by
  cases e with
  | card c => exact issues_renderCard hs c
  | container c => exact issues_renderStack hs (by decide) c.items c.selectAction
  | column c => exact issues_renderStack hs (by decide) c.items c.selectAction
  | columnSet c => exact issues_renderColumnSet hs c
  | factSet f => exact issues_renderFactSet hs f
  | image i => exact issues_renderImage hs i
  | imageSet i => exact issues_renderImageSet hs i
  | textBlock t => exact issues_textTag hs t
  | choiceSet c => exact issues_renderChoiceSet s c
  | textInput i => exact .pure (textInputTag_leaf i).gives
  | numberInput i => exact .pure (numberInputTag_leaf i).gives
  | dateInput p => exact .pure (pickerTag_leaf _ (by decide) (by decide) p).gives
  | timeInput p => exact .pure (pickerTag_leaf _ (by decide) (by decide) p).gives
  | toggle t => exact issues_renderToggle s t
  | unknown u => exact (issues_renderMisplaced hs rfl).mono fun _ _ h => h.block

theorem issues_renderNode_action (hs : s.Wires) (a : Action) :
    Issues (renderNode s (.action a)) (GivesButton (Node.action a).kind) := by
  cases a with
  | unknown u => exact issues_renderMisplaced hs rfl
  | _ => exact issues_renderAction hs.transformers _

end

/-! ## Depths -/

/-- The stage of a session that nothing was registered with: its renderers and what it does to
actions are the standard ones, and Markdown gives it tags that ids do not concern. -/
structure Stage.IsStandard (stage : Stage) : Prop where
  renderers : stage.renderers = standardRenderers
  transformers : stage.transformers = standardTransformers
  convert : ∀ text, Gives (stage.convert text) fun tags => ∀ t ∈ descendantsOf tags, IsInert t

theorem wires_renderWithin {stage : Stage} (hstage : stage.IsStandard) (depth : Nat) :
    (stage.scene (stage.renderWithin depth)).Wires := by
  induction depth with
  | zero =>
    -- nothing is rendered at this depth
    exact ⟨scene_transformers hstage.transformers _, hstage.convert, fun _ => .fail _,
      fun _ => .fail _⟩
  | succ depth ih =>
    refine ⟨scene_transformers hstage.transformers _, hstage.convert, fun e => ?_, fun a => ?_⟩
    · change Issues (stage.renderWithin (depth + 1) (.element e)) GivesBlock
      rcases renderWithin_succ hstage.renderers depth (.element e) with heq | heq
      · rw [heq]
        exact issues_renderNode_element ih e
      · rw [heq]
        exact (Issues.warn _).bind fun new _ _ => .pure (givesBlock_none _)
    · change Issues (stage.renderWithin (depth + 1) (.action a)) _
      rcases renderWithin_succ hstage.renderers depth (.action a) with heq | heq
      · rw [heq]
        exact issues_renderNode_action ih a
      · rw [heq]
        exact (Issues.warn _).bind fun new _ _ => .pure fun _ ht => by cases ht

theorem IsTextTag.attr_eq_none {t : Tag} (ht : Markdown.IsTextTag t) {name : String}
    (hname : name ∉ Markdown.commonAttributes) : t.attr? name = none :=
  valueAt_eq_none fun a ha heq => hname (heq ▸ ht.attributes a ha)

/-- The tags of a text take no part in wiring. -/
theorem IsTextTag.inert {t : Tag} (ht : Markdown.IsTextTag t) : IsInert t := by
  refine ⟨⟨?_, ?_, ?_⟩, IsTextTag.attr_eq_none ht (by decide),
    IsTextTag.attr_eq_none ht (by decide)⟩
  · intro hlabel
    have hname := ht.name
    rw [hlabel] at hname
    exact absurd hname (by decide)
  · rw [ht.classes]
    exact List.not_mem_nil
  · rw [ht.classes]
    exact List.not_mem_nil

/-- A host without extensions of its own turns every text into the tags of a text. -/
theorem convert_stage (host : Host.Config) (text : String) :
    ∃ tags, ({ host := host } : Session).stage.convert text = .ok tags ∧
      ∀ t ∈ descendantsOf tags, Markdown.IsTextTag t := by
  have hnames : Markdown.extensionsNamed Markdown.defaultExtensions = .ok [.separateLists] := by
    decide
  obtain ⟨tags, htags, htext⟩ := Markdown.givesTextTags_tagsOf hnames (by decide) (by decide) text
  refine ⟨tags, ?_, htext⟩
  change (Markdown.tagsOf _ text).mapError Fault.markdown = .ok tags
  rw [htags]
  rfl

theorem isStandard_stage (host : Host.Config) : ({ host := host } : Session).stage.IsStandard where
  renderers := rfl
  transformers := rfl
  convert text := by
    obtain ⟨tags, htags, htext⟩ := convert_stage host text
    intro found hfound
    rw [htags] at hfound
    obtain rfl := Except.ok.inj hfound
    exact fun t ht => IsTextTag.inert (htext t ht)

theorem issues_cardPass {stage : Stage} (hstage : stage.IsStandard) (c : Card) :
    Issues (cardPass stage c) IsBlock := by
  refine .cardPass (((wires_renderWithin hstage _).element (.card c)).mono ?_)
  intro new tag hblock t ht
  obtain rfl := Option.mem_def.mp ht
  exact givesBlock_some.mp hblock

/-! ## The tree of a card -/

/-- What ids join in a tree. Places are paths of child positions from the root. -/
structure IsWiredTree (tree : Tag) : Prop where
  ids : ∀ (p q : List Nat) (t u : Tag) (id : String), tree.at? p = some t → tree.at? q = some u →
    t.attr? "id" = some id → u.attr? "id" = some id → p = q
  links : ∀ (p q : List Nat) (t u : Tag) (id : String), tree.at? p = some t →
    tree.at? q = some u → t.attr? cardLink = some id → u.attr? cardLink = some id → p = q
  /-- A label stands behind an input whose id no other tag has. -/
  labels : ∀ (p : List Nat) (label : Tag), tree.at? p = some label → label.name = "label" →
    ∃ (row : List Nat) (i : Nat) (control : Tag) (id : String), p = row ++ [i + 1] ∧
      tree.at? (row ++ [i]) = some control ∧ control.name = "input" ∧
      control.attr? "id" = some id ∧ label.attr? "for" = some id ∧
      ∀ (q : List Nat) (t : Tag), tree.at? q = some t → t.attr? "id" = some id → q = row ++ [i]
  /-- A card that is shown has the id that one tag leads to, and that tag is a button of the strip
  of actions before the card, the only strip among its siblings. -/
  cards : ∀ (p : List Nat) (card : Tag), tree.at? p = some card → "ac-showCard" ∈ card.classes →
    ∃ (row : List Nat) (i j k : Nat) (strip button : Tag) (id : String), p = row ++ [i] ∧ j < i ∧
      tree.at? (row ++ [j]) = some strip ∧ "ac-actionset" ∈ strip.classes ∧
      tree.at? (row ++ [j, k]) = some button ∧ LeadsTo id button ∧ card.attr? "id" = some id ∧
      (∀ (j' : Nat) (other : Tag), tree.at? (row ++ [j']) = some other →
        "ac-actionset" ∈ other.classes → j' = j) ∧
      ∀ (q : List Nat) (t : Tag), tree.at? q = some t → t.attr? cardLink = some id →
        q = row ++ [j, k]

/-- A value of an attribute that occurs at most once stands at one path. -/
theorem path_unique_of_occurrences {tree t u : Tag} {name value : String} {p q : List Nat}
    (hone : occurrences name value [tree] ≤ 1) (ht : tree.at? p = some t)
    (hu : tree.at? q = some u) (htv : t.attr? name = some value)
    (huv : u.attr? name = some value) : p = q :=
  path_unique hone ht hu (beq_iff_eq.mpr htv) (beq_iff_eq.mpr huv)

theorem isWiredTree_of_block {new : List String} (hnew : new.Nodup) {tree : Tag}
    (h : IsBlock new tree) : IsWiredTree tree := by
  have hids {p q : List Nat} {t u : Tag} {id : String} (ht : tree.at? p = some t)
      (hu : tree.at? q = some u) (htid : t.attr? "id" = some id) (huid : u.attr? "id" = some id) :
      p = q :=
    path_unique_of_occurrences ((h.wired.ids id).trans (List.nodup_iff_count.mp hnew id))
      ht hu htid huid
  have hlinks {p q : List Nat} {t u : Tag} {id : String} (ht : tree.at? p = some t)
      (hu : tree.at? q = some u) (htid : t.attr? cardLink = some id)
      (huid : u.attr? cardLink = some id) : p = q :=
    path_unique_of_occurrences ((h.wired.links id).trans (List.nodup_iff_count.mp hnew id))
      ht hu htid huid
  -- any tag that is no plain root stands in a wired row
  have hrow {p : List Nat} {t : Tag} (ht : tree.at? p = some t) (hend : ¬ IsPlain t) :
      ∃ (row : List Nat) (i : Nat) (parent : Tag), p = row ++ [i] ∧ tree.at? row = some parent ∧
        parent.children[i]? = some t ∧ WiredRow parent.children := by
    rcases List.eq_nil_or_concat p with rfl | ⟨row, i, hp⟩
    · obtain rfl := Option.some.inj ht
      exact absurd h.plain hend
    · rw [List.concat_eq_append] at hp
      subst hp
      obtain ⟨parent, hparent, hchild⟩ := at_snoc ht
      exact ⟨row, i, parent, rfl, hparent, hchild, h.wired.rows parent (mem_of_at hparent)⟩
  refine ⟨fun p q t u id => hids, fun p q t u id => hlinks, ?_, ?_⟩
  · intro p label hlabel hname
    obtain ⟨row, i, parent, rfl, hparent, hchild, hwired⟩ :=
      hrow hlabel fun hplain => hplain.notLabel hname
    obtain ⟨j, control, id, rfl, hcontrol, hinput, hid, hfor⟩ := hwired.labels i label hchild hname
    have hat := at_child hparent hcontrol
    exact ⟨row, j, control, id, rfl, hat, hinput, hid, hfor, fun q t ht htid => hids ht hat htid hid⟩
  · intro p card hcard hclass
    obtain ⟨row, i, parent, rfl, hparent, hchild, hwired⟩ :=
      hrow hcard fun hplain => hplain.notCard hclass
    obtain ⟨j, strip, id, hlt, hstrip, hset, hid, button, hbutton, hleads⟩ :=
      hwired.cards i card hchild hclass
    obtain ⟨k, hk⟩ := List.mem_iff_getElem?.mp hbutton
    have hat : tree.at? (row ++ [j, k]) = some button := by
      rw [List.append_cons]
      exact at_child (at_child hparent hstrip) hk
    refine ⟨row, i, j, k, strip, button, id, rfl, hlt, at_child hparent hstrip, hset, hat, hleads,
      hid, ?_, fun q t ht htid => hlinks ht hat htid hleads.link⟩
    intro j' other hother hset'
    obtain ⟨parent', hparent', hchild'⟩ := at_snoc hother
    rw [hparent] at hparent'
    obtain rfl := Option.some.inj hparent'
    exact hwired.strips j' j other strip hchild' hstrip hset' hset

/-- **The ids of a rendered card.** Whatever source the ids come from, the ids of the tree are
distinct, and so are the links to cards. Each label belongs to the input before it, and each card
that an action shows belongs to one button, in the strip of actions before it. -/
theorem render_isWiredTree (host : Host.Config) (source : IdSource) (c : Card) {rendered : Rendered}
    (h : ({ host := host } : Session).render source (some c) = .ok rendered) :
    IsWiredTree rendered.tag := by
  unfold Session.render at h
  dsimp only at h
  split at h
  · next tag pass hpass =>
    obtain rfl := Except.ok.inj h
    obtain ⟨new, hissued, hnodup, hblock⟩ :=
      issues_cardPass (isStandard_stage host) c source {} tag pass hpass
    have hnew : new.Nodup := by
      rw [List.nil_append] at hissued
      exact hissued ▸ hnodup List.nodup_nil
    exact isWiredTree_of_block hnew hblock
  · cases h

/-- A card with a toggle and these actions. -/
def toggleCard (actions : List Action) : Card where
  frame := {}
  version := some "1.0"
  body := [.toggle {}]
  actions := actions
  fallbackText := none
  backgroundImage := none

/-- A toggle, and a toggle in a card that an action shows, with ids that come twice. -/
theorem render_isWiredTree_shown : ∃ rendered,
    ({ host := {} } : Session).render (listedIds ["a", "a", "b", "a", "c"])
      (some (toggleCard [.showCard {} none (some (toggleCard []))])) = .ok rendered ∧
    (rendered.tag.findAll (some "label") none).length = 2 ∧
    (rendered.tag.findAll none (some "ac-showCard")).length = 1 ∧ IsWiredTree rendered.tag := by
  refine ⟨_, rfl, rfl, rfl, ?_⟩
  exact render_isWiredTree {} (listedIds ["a", "a", "b", "a", "c"])
    (toggleCard [.showCard {} none (some (toggleCard []))]) rfl

end Placard.Render
