import Placard.Proofs.Render.WiredContent
import Placard.Render.Standard

/-!
# Inputs and misplaced nodes are wired

A choice and a toggle take one id, for a control and the label behind it (`labelled_block`). All
other inputs are leaves. Of a node that is rendered from plain data nothing is rendered below it, so
it is a leaf, an image, a toggle or a button.
-/

namespace Placard.Render

open Tag Data Document

/-! ## Controls and labels -/

/-- A control with an id. -/
structure IsControl (id : String) (t : Tag) : Prop extends IsPlain t where
  name : t.name = "input"
  empty : t.children = []
  hasId : t.attr? "id" = some id
  noLink : t.attr? cardLink = none

/-- The label of the control with an id. -/
structure IsLabel (id : String) (t : Tag) : Prop where
  classes : t.classes = []
  empty : t.children = []
  names : t.attr? "for" = some id
  noId : t.attr? "id" = none
  noLink : t.attr? cardLink = none

/-- A control and its label in a frame. -/
theorem labelled_block {frame control label : Tag} {id : String} (hframe : IsLeaf frame)
    (hcontrol : IsControl id control) (hlabel : IsLabel id label) :
    IsBlock [id] ((frame.append control).append label) := by
  have hchildren : ((frame.append control).append label).children = [control, label] := by
    simp [hframe.empty]
  have hrow := wiredRow_labelled hcontrol.toIsPlain hcontrol.name hcontrol.hasId hlabel.names
    hlabel.classes
  refine ⟨.element hframe.noId hframe.noLink (hchildren ▸ hrow) ?_,
    ⟨hframe.notLabel, hframe.notCard, hframe.notStrip⟩⟩
  rw [hchildren]
  -- the label names the id without using it up, so the one id is left for the control
  have hempty : Wired [] [label] := by
    refine .element hlabel.noId hlabel.noLink ?_ ?_
    · rw [hlabel.empty]
      exact wiredRow_nil
    · rw [hlabel.empty]
      exact .nil
  have hown : Wired [id] [control] := by
    refine ⟨fun v => ?_, fun v => ?_, Wired.rows_singleton ?_ ?_⟩
    · rw [occurrences_singleton, hcontrol.empty, hcontrol.hasId, occurrences_nil,
        List.count_singleton]
      simp
    · rw [occurrences_singleton, hcontrol.empty, hcontrol.noLink, occurrences_nil]
      exact Nat.zero_le _
    · rw [hcontrol.empty]
      exact wiredRow_nil
    · rw [hcontrol.empty]
      simp
  exact hown.append hempty

theorem label_isLabel (s : Scene) (id text : String) : IsLabel id (label s id text) := by
  have hne : "for" ≠ "id" ∧ "for" ≠ cardLink := by decide
  unfold label
  exact ⟨by simp, by simp, by simp, by simp, by simp [hne.2]⟩

theorem IsLabel.setText {id : String} {t : Tag} (ht : IsLabel id t) (text : Option String) :
    IsLabel id (t.setText text) :=
  ⟨ht.classes, ht.empty, ht.names, ht.noId, ht.noLink⟩

theorem IsControl.setStyle {id : String} {t : Tag} (ht : IsControl id t) (p : Property)
    (value : String) : IsControl id (t.setStyle p value) :=
  ⟨⟨ht.notLabel, ht.notCard, ht.notStrip⟩, ht.name, ht.empty, ht.hasId, ht.noLink⟩

theorem IsControl.setAttr {id : String} {t : Tag} (ht : IsControl id t) (name : String)
    (hname : IsOther name) (value : String) : IsControl id (t.setAttr name value) := by
  refine ⟨⟨ht.notLabel, ht.notCard, ht.notStrip⟩, ht.name, ht.empty, ?_, ?_⟩
  · rw [attr_setAttr, if_neg hname.1]
    exact ht.hasId
  · rw [attr_setAttr, if_neg hname.2]
    exact ht.noLink

theorem isControl_input (id : String) : IsControl id ((Tag.named "input").setAttr "id" id) := by
  have hne : "id" ≠ cardLink := by decide
  exact ⟨⟨by simp, by simp, by simp⟩, rfl, rfl, by simp, by simp [hne]⟩

/-! ## Inputs -/

section

variable {s : Scene}

theorem inputBlock_leaf : IsLeaf inputBlock :=
  ((isLeaf_named _ (by decide)).addClass _ (by decide) (by decide)).setStyle _ _

theorem choiceControl_isControl (control : Control) (name id : String) (chosen : List String)
    (c : Choice) : IsControl id (choiceControl control name id chosen c) := by
  have hinput := ((((((isControl_input id).setAttr "type" (by decide) control.name).setAttr
    "name" (by decide) name).setAttr "value" (by decide) c.value).setStyle .margin
    "0px").setStyle .display "inline-block").setStyle .verticalAlign "middle"
  unfold choiceControl
  dsimp only
  split
  · exact hinput.setAttr _ (by decide) _
  · exact hinput

theorem issues_choiceRow (s : Scene) (control : Control) (name : String) (chosen : List String)
    (c : Choice) : Issues (choiceRow s control name chosen c) IsBlock := by
  refine issues_freshId.bind fun new id hnew => .pure ?_
  subst hnew
  have hcontrol := choiceControl_isControl control name id chosen c
  exact labelled_block (isLeaf_named _ (by decide)) hcontrol (label_isLabel s id c.title)

theorem issues_choiceList (s : Scene) (c : ChoiceSet) (control : Control) :
    Issues (choiceList s c control) IsBlock := by
  refine Issues.give (Q := AreBlocks) ?_ fun new rows hrows => ?_
  · exact Issues.mapM (Q := IsBlock) areBlocks_nil
      (fun _ _ _ _ hrow hrows => hrow.areBlocks.append hrows) _ fun c _ => issues_choiceRow s _ _ _ c
  · exact (inputBlock_leaf.box hrows).toIsBlock

theorem menuOption_leaf (value : Option String) (c : Choice) : IsLeaf (menuOption value c) := by
  have hoption := ((isLeaf_named "option" (by decide)).setText (some c.title)).setAttr
    "value" (by decide) c.value
  unfold menuOption
  dsimp only
  split
  · exact hoption.setAttr _ (by decide) _
  · exact hoption

theorem emptyMenu_leaf (name : String) : IsLeaf (emptyMenu name) := by
  have hnamed := (isLeaf_named "select" (by decide)).setAttr "name" (by decide) name
  have hinput := hnamed.addClass "ac-input" (by decide) (by decide)
  exact (hinput.addClass "ac-multichoiceInput" (by decide) (by decide)).setStyle .width "100%"

theorem menu_block (c : ChoiceSet) : IsBlock [] (menu c) := by
  have hoptions : AreBlocks [] (c.choices.map (menuOption c.value)) := by
    induction c.choices with
    | nil => exact areBlocks_nil
    | cons choice choices ih => exact (menuOption_leaf _ choice).block.areBlocks.append ih
  exact ((emptyMenu_leaf _).box hoptions).toIsBlock

theorem issues_renderChoiceSet (s : Scene) (c : ChoiceSet) :
    Issues (renderChoiceSet s c) GivesBlock := by
  have hlist (control : Control) : Issues (do return some (← choiceList s c control)) GivesBlock :=
    (issues_choiceList s c control).give fun new t ht => givesBlock_some.mpr ht
  unfold renderChoiceSet
  split
  · exact hlist _
  · split
    · exact .pure (givesBlock_some.mpr (menu_block c))
    · exact hlist _

theorem textInputTag_leaf (i : TextInput) : IsLeaf (textInputTag i) := by
  have hend {t : Tag} (ht : IsLeaf t) : IsLeaf (
      let t := t.setAttr "name" (submitName i.frame) |>.addClass "ac-textinput"
        |>.addClass "ac-input" |>.setStyle .width "100%"
      let t := setFilled "placeholder" i.placeholder t
      if i.maxLength = 0 then t
      else t.setAttr "maxLength" (String.ofList (Text.natText i.maxLength))) := by
    have hnamed := (((ht.setAttr "name" (by decide) (submitName i.frame)).addClass
      "ac-textinput" (by decide) (by decide)).addClass "ac-input"
      (by decide) (by decide)).setStyle .width "100%"
    have hfilled := hnamed.setFilled "placeholder" (by decide) i.placeholder
    dsimp only
    split
    · exact hfilled
    · exact hfilled.setAttr _ (by decide) _
  unfold textInputTag
  split
  · split
    · exact hend ((isLeaf_named _ (by decide)).setText _)
    · exact hend (isLeaf_named _ (by decide))
  · exact hend (((isLeaf_named _ (by decide)).setAttr _ (by decide) _).setFilled _ (by decide) _)

theorem numberInputTag_leaf (i : NumberInput) : IsLeaf (numberInputTag i) := by
  have hnamed := (isLeaf_named "input" (by decide)).setAttr "name" (by decide) (submitName i.frame)
  have hclasses := (hnamed.addClass "ac-input" (by decide) (by decide)).addClass
    "ac-numberInput" (by decide) (by decide)
  have hinput := (hclasses.setAttr "type" (by decide) "number").setStyle .width "100%"
  have hbounds := (hinput.setNumber "min" (by decide) i.min).setNumber "max" (by decide) i.max
  exact (hbounds.setNumber "value" (by decide) i.value).setFilled "placeholder" (by decide) _

theorem pickerTag_leaf (type : String) {className : String} (hcard : className ≠ "ac-showCard")
    (hstrip : className ≠ "ac-actionset") (p : Picker) : IsLeaf (pickerTag type className p) := by
  have hinput := (((((isLeaf_named "input" (by decide)).setAttr "type" (by decide)
    type).setAttr "name" (by decide) (submitName p.frame)).addClass
    "ac-input" (by decide) (by decide)).addClass _ hcard hstrip).setStyle .width "100%"
  have hbounds := ((hinput.setFilled "value" (by decide) p.value).setFilled "min" (by decide)
    p.min).setFilled "max" (by decide) p.max
  exact hbounds.setFilled "placeholder" (by decide) p.placeholder

theorem toggleControl_isControl (id name on off : String) (isOn : Bool) :
    IsControl id (toggleControl id name on off isOn) := by
  have hinput := (((((((isControl_input id).setAttr "type" (by decide) "checkbox").setAttr
    "name" (by decide) name).setAttr "data-ac-valueOn" (by decide) on).setAttr
    "data-ac-valueOff" (by decide) off).setStyle .display "inline-block").setStyle
    .verticalAlign "middle").setStyle .margin "0px"
  unfold toggleControl
  dsimp only
  split
  · exact hinput.setAttr _ (by decide) _
  · exact hinput

theorem issues_renderToggle (s : Scene) (t : Toggle) : Issues (renderToggle s t) GivesBlock := by
  refine issues_freshId.bind fun new id hnew => .pure ?_
  subst hnew
  exact givesBlock_some.mpr (labelled_block inputBlock_leaf (toggleControl_isControl id _ _ _ _)
    (label_isLabel s id t.title))

/-! ## Misplaced nodes -/

theorem member?_of_member {n : Node} {name : String} {v : Value} (h : member n name = .ok v) :
    member? n name = some v := by
  unfold member at h
  split at h
  · next w hw => rw [hw, Except.ok.inj h]
  · cases h

variable (get : String → Except Fault Value)

theorem lacks_gives {α : Type} {P : α → Prop} (v : Value) (name : String) : Gives (lacks v name) P :=
  .error _

theorem cardFrame_leaf (host : Host.Config) (image : Option String) :
    IsLeaf (cardFrame host image) :=
  ⟨(cardFrame_inert host image).1, (cardFrame_inert host image).2⟩

theorem emptyRow_leaf : IsLeaf emptyRow :=
  ⟨emptyRow_inert.1, emptyRow_inert.2⟩

theorem misplacedText_leaf : Gives (misplacedText s get) IsLeaf :=
  .seq fun _ => .seq fun _ => .seq fun _ => .seq fun _ => .seq fun _ => .seq fun _ => lacks_gives _ _

theorem misplacedCard_leaf : Gives (misplacedCard s get) IsLeaf :=
  .seq fun _ => .seq fun _ => .seq fun _ => .seq fun _ => .seq fun _ => .pure (cardFrame_leaf _ _)

theorem misplacedStack_leaf {kind : String} (hcard : kindClass kind ≠ "ac-showCard")
    (hstrip : kindClass kind ≠ "ac-actionset") : Gives (misplacedStack s kind get) IsLeaf :=
  .seq fun _ => .seq fun _ => .seq fun _ => .seq fun _ =>
    .pure ((isLeaf_named _ (by decide)).addClass _ hcard hstrip)

theorem misplacedRow_leaf : Gives (misplacedRow s get) IsLeaf := by
  refine .seq fun _ => .seq fun _ => .seq fun _ => .seq fun columns => ?_
  cases columns with
  | nil => exact .pure emptyRow_leaf
  | cons v vs => exact lacks_gives v _

theorem misplacedFacts_leaf : Gives (misplacedFacts get) IsLeaf := by
  have hclass : kindClass "FactSet" = "ac-factset" := by decide
  refine .seq fun _ => .seq fun facts => ?_
  cases facts with
  | nil =>
    exact .pure (((isLeaf_named _ (by decide)).addClass _ (by rw [hclass]; decide)
      (by rw [hclass]; decide)).setStyle _ _)
  | cons v vs =>
    dsimp only
    split
    · exact .error _
    · exact lacks_gives v _

theorem misplacedImage_block : Gives (misplacedImage s get) (IsBlock []) :=
  .seq fun _ => .seq fun _ => .seq fun _ => .seq fun _ => .seq fun _ => .seq fun _ => .seq fun _ =>
    .seq fun _ => .pure (framedPicture_box _ _ _ _ _ _).toIsBlock

theorem misplacedImages_leaf : Gives (misplacedImages get) IsLeaf := by
  have hclass : kindClass "ImageSet" = "ac-imageset" := by decide
  have hlist : IsLeaf ((Tag.named "ul").addClass (kindClass "ImageSet")) :=
    (isLeaf_named _ (by decide)).addClass _ (by rw [hclass]; decide) (by rw [hclass]; decide)
  refine .seq fun _ => .seq fun images => ?_
  cases images with
  | nil => exact .pure hlist
  | cons v vs =>
    refine .seq fun size => ?_
    dsimp only
    split
    · exact .seq fun _ => .pure hlist
    · exact .seq fun _ => .pure hlist

theorem misplacedMenu_leaf (name : String) : Gives (misplacedMenu name get) IsLeaf := by
  refine .seq fun _ => .seq fun choices => ?_
  cases choices with
  | nil => exact .pure (emptyMenu_leaf name)
  | cons v vs => exact lacks_gives v _

theorem issues_misplacedChoices : Issues (misplacedChoices get) IsBlock := by
  refine .read fun _ => .read fun choices => ?_
  cases choices with
  | nil => exact .pure inputBlock_leaf.block
  | cons v vs => exact issues_freshId.bind fun new id hnew => .ofExcept (lacks_gives v _)

theorem issues_misplacedChoiceSet (frame : Frame) :
    Issues (misplacedChoiceSet frame get) IsBlock := by
  unfold misplacedChoiceSet
  refine .read fun several => ?_
  split
  · exact issues_misplacedChoices get
  · refine .read fun style => ?_
    split
    · exact .ofExcept fun t ht => (misplacedMenu_leaf get _ t ht).block
    · exact issues_misplacedChoices get

theorem misplacedTextInput_leaf (frame : Frame) : Gives (misplacedTextInput frame get) IsLeaf := by
  have hend {t : Tag} (ht : IsLeaf t) : Gives (do
      let t := t.setAttr "name" (submitName frame) |>.addClass "ac-textinput"
        |>.addClass "ac-input" |>.setStyle .width "100%"
      let t := setPresent "placeholder" (← get "placeholder") t
      let limit ← get "max_length"
      return if ← isPositive limit then t.setAttr "maxLength" (shownText limit) else t) IsLeaf := by
    have hnamed := (((ht.setAttr "name" (by decide) (submitName frame)).addClass
      "ac-textinput" (by decide) (by decide)).addClass "ac-input"
      (by decide) (by decide)).setStyle .width "100%"
    refine .seq fun placeholder => .seq fun limit => .seq fun positive => .pure ?_
    have hfilled := hnamed.setPresent "placeholder" (by decide) placeholder
    split
    · exact hfilled.setAttr _ (by decide) _
    · exact hfilled
  unfold misplacedTextInput
  refine .seq fun multiline => ?_
  dsimp only
  split
  · exact .seq fun value => hend ((isLeaf_named _ (by decide)).setText _)
  · exact .seq fun value => hend (((isLeaf_named _ (by decide)).setAttr _ (by decide) _).setPresent
      _ (by decide) _)

theorem setMisplacedNumber_leaf {t : Tag} (ht : IsLeaf t) {name : String} (hname : IsOther name)
    (v : Value) : Gives (setMisplacedNumber name v t) IsLeaf := by
  unfold setMisplacedNumber
  split
  · exact .pure ht
  · exact .pure (ht.setNumber _ hname _)
  · exact .seq fun _ => lacks_gives _ _
  · exact lacks_gives _ _
  · exact .error _

theorem misplacedNumberInput_leaf (frame : Frame) :
    Gives (misplacedNumberInput frame get) IsLeaf := by
  refine .seq fun min => ?_
  refine (setMisplacedNumber_leaf (numberInputTag_leaf _) (by decide) min).bind fun t ht => ?_
  refine .seq fun max => (setMisplacedNumber_leaf ht (by decide) max).bind fun t ht => ?_
  refine .seq fun value => (setMisplacedNumber_leaf ht (by decide) value).bind fun t ht => ?_
  exact .seq fun placeholder => .pure (ht.setPresent _ (by decide) _)

theorem misplacedPicker_leaf (type : String) {className : String} (hcard : className ≠ "ac-showCard")
    (hstrip : className ≠ "ac-actionset") (frame : Frame) :
    Gives (misplacedPicker type className frame get) IsLeaf :=
  .seq fun _ => .seq fun _ => .seq fun _ => .seq fun _ => .pure
    (((((pickerTag_leaf type hcard hstrip _).setPresent _ (by decide) _).setPresent _ (by decide)
      _).setPresent _ (by decide) _).setPresent _ (by decide) _)

theorem issues_misplacedToggle (frame : Frame) : Issues (misplacedToggle s frame get) IsBlock := by
  refine issues_freshId.bind fun new id hnew => ?_
  subst hnew
  refine .read fun on => .read fun off => .read fun value => .read fun title => ?_
  exact .pure (labelled_block inputBlock_leaf (toggleControl_isControl id _ _ _ _)
    ((label_isLabel s id "").setText _))

end

end Placard.Render
