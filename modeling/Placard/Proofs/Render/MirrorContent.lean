import Placard.Proofs.Render.MirrorGroup

/-!
# Texts, images, inputs and buttons are landmarks

The tags for these nodes have one landmark, and it tells what the node says: the text, the picture,
the name under which values are submitted, or the title. What is below it has no marks.
-/

namespace Placard.Render

open Tag Document

section

variable {s : Scene}

/-! ## Texts -/

theorem mark_textFrame (t : TextBlock) :
    Gives (textFrame s t) fun tag => marks tag = [kindClass "TextBlock"] ∧ tag.children = [] := by
  unfold textFrame
  refine Gives.seq fun size => ?_
  dsimp only
  split
  · refine .pure ?_
    split <;> simp [landmarkClasses]
  · refine Gives.seq fun lines => .pure ?_
    split <;> simp [landmarkClasses]

theorem marks_of_no_classes {t : Tag} (h : t.classes = []) : marks t = [] := by
  simp [marks, h]

/-- What a text is turned into has no marks, before and after its paragraphs are styled. -/
theorem mirror_textTag (hconvert : ∀ text, Gives (s.convert text) fun tags =>
      ∀ t ∈ descendantsOf tags, t.classes = []) (b : TextBlock) :
    Gives (textTag s b) fun tag => Reflects s.convert [.element (.textBlock b)] [tag] := by
  unfold textTag
  refine (mark_textFrame b).bind fun frame ⟨hmark, hempty⟩ => ?_
  refine Gives.bind (P := fun content => s.convert (Time.expand b.text) = .ok content)
    (fun _ h => h) fun content hcontent => .pure ?_
  rw [editBelow_eq, children_appendAll, hempty, List.nil_append]
  refine .landmark ⟨hmark, ?_, nofun, nofun, nofun⟩ (reflects_of_unmarked fun t ht => ?_)
  · rintro b' hb
    obtain rfl := Element.textBlock.inj (Node.element.inj hb)
    exact ⟨content, hcontent, rfl⟩
  · obtain ⟨u, hu, hstyled⟩ := mem_descendantsOf_editEach (styleParagraph_restyled b.wrap) ht
    exact marks_of_no_classes (hstyled.classes.trans (hconvert _ content hcontent u hu))

/-! ## Images -/

theorem shows_image {convert : String → Except Fault (List Tag)} {i : Image} {t picture : Tag}
    (hmark : marks t = [kindClass "Image"]) (hmem : picture ∈ t.children)
    (hname : picture.name = "img") (hsource : picture.attr? "src" = some i.url) :
    Shows convert (.element (.image i)) t := by
  refine ⟨hmark, ?_, ?_, ?_, nofun⟩
  · rintro b hb
    cases hb
  · rintro j hj
    obtain rfl := Element.image.inj (Node.element.inj hj)
    exact ⟨picture, hmem, hname, hsource⟩
  · rintro e he hinput
    obtain rfl := Node.element.inj he
    cases hinput

/-- An image in its frame, which other sizes do not change. -/
theorem reflects_framedPicture {convert : String → Except Fault (List Tag)} (alignment : Placement)
    (sizes : Host.ImageSizes) (size : ImageSize) (alt : Option String) (style : ImageStyle)
    (i : Image) : Reflects convert [.element (.image i)]
      [(placed alignment (sizedFor sizes size imageFrame)).append (picture i.url alt style)] := by
  have hframe : marks (placed alignment (sizedFor sizes size imageFrame)) = [kindClass "Image"] ∧
      (placed alignment (sizedFor sizes size imageFrame)).children = [] := by
    unfold placed sizedFor imageFrame
    dsimp only
    split <;> split <;> simp [landmarkClasses]
  have hpicture : marks (picture i.url alt style) = [] ∧
      (picture i.url alt style).name = "img" ∧ (picture i.url alt style).children = [] ∧
      (picture i.url alt style).attr? "src" = some i.url := by
    unfold picture
    cases style <;> simp
  obtain ⟨hmark, hempty⟩ := hframe
  obtain ⟨hunmarked, hname, hnothing, hsource⟩ := hpicture
  have hchildren : ((placed alignment (sizedFor sizes size imageFrame)).append
      (picture i.url alt style)).children = [picture i.url alt style] := by
    rw [children_append, hempty, List.nil_append]
  refine .landmark (shows_image ?_ ?_ hname hsource) ?_
  · rw [marks_append, hmark]
  · rw [hchildren]
    exact List.mem_singleton.mpr rfl
  · rw [hchildren]
    refine reflects_of_unmarked ?_
    simp [hunmarked, hnothing]

/-- An image shows as any image with its address. -/
theorem mirror_renderImage (hs : s.transformers = standardTransformers.get?) {i j : Image}
    (h : j.url = i.url) : Issues (renderImage s j) fun _ tag =>
      Reflects s.convert [.element (.image i)] tag.toList := by
  have hframed := @reflects_framedPicture s.convert j.alignment s.host.imageSizes j.size j.altText
    j.style i
  rw [← h] at hframed
  exact (keeps_selectable hs j.selectAction _).give fun _ u hu => hframed.keeps hu

/-! ## Inputs -/

/-- Tags inside an input: without marks, and with its name if they are controls. -/
def AreInside (name : String) (ts : List Tag) : Prop :=
  ∀ t ∈ descendantsOf ts, marks t = [] ∧ (t.name ∈ controlNames → t.attr? "name" = some name)

section

variable {name : String} {t : Tag} {ts us : List Tag}

@[simp] theorem areInside_nil : AreInside name [] := by
  simp [AreInside]

@[simp] theorem areInside_append :
    AreInside name (ts ++ us) ↔ AreInside name ts ∧ AreInside name us := by
  simp only [AreInside, descendantsOf_append, List.forall_mem_append]

theorem areInside_singleton : AreInside name [t] ↔
    (marks t = [] ∧ (t.name ∈ controlNames → t.attr? "name" = some name)) ∧
      AreInside name t.children := by
  simp only [AreInside, descendantsOf_cons, descendantsOf_nil, List.append_nil,
    List.forall_mem_cons]

theorem areInside_of_forall (h : ∀ t ∈ ts, AreInside name [t]) : AreInside name ts := by
  intro t ht
  obtain ⟨u, hu, hbelow⟩ := mem_descendantsOf.mp ht
  exact h u hu t (mem_descendantsOf.mpr ⟨u, List.mem_singleton.mpr rfl, hbelow⟩)

/-- An input is one landmark. -/
theorem reflects_input {convert : String → Except Fault (List Tag)} {e : Element}
    (he : isInput e = true) (hmark : marks t = ["ac-input"])
    (hown : t.name ∈ controlNames → t.attr? "name" = some (submitName e.frame))
    (hinside : AreInside (submitName e.frame) t.children) :
    Reflects convert [.element e] [t] := by
  refine .landmark ⟨by rw [hmark, landmarkClass, he]; rfl, ?_, ?_, ?_, nofun⟩
    (reflects_of_unmarked fun u hu => (hinside u hu).1)
  · rintro b hb
    obtain rfl := Node.element.inj hb
    cases he
  · rintro i hi
    obtain rfl := Node.element.inj hi
    cases he
  · rintro e' he' - control hcontrol hname
    obtain rfl := Node.element.inj he'
    rw [descendantsOf_cons, descendantsOf_nil, List.append_nil] at hcontrol
    rcases List.mem_cons.mp hcontrol with rfl | hbelow
    · exact hown hname
    · exact (hinside control hbelow).2 hname

end

theorem areInside_label (name id text : String) : AreInside name [label s id text] := by
  simp [label, areInside_singleton, controlNames]

theorem areInside_choiceControl (control : Control) (name id : String) (chosen : List String)
    (c : Choice) : AreInside name [choiceControl control name id chosen c] := by
  unfold choiceControl
  dsimp only
  split <;> simp [areInside_singleton]

theorem areInside_toggleControl (id name on off : String) (isOn : Bool) :
    AreInside name [toggleControl id name on off isOn] := by
  unfold toggleControl
  dsimp only
  split <;> simp [areInside_singleton]

theorem mirror_choiceList (c : ChoiceSet) (control : Control) :
    Issues (choiceList s c control) fun _ t =>
      Reflects s.convert [.element (.choiceSet c)] [t] := by
  have hrow : ∀ choice ∈ c.choices,
      Issues (choiceRow s control (submitName c.frame) (chosenValues c.value) choice) fun _ row =>
        AreInside (submitName c.frame) [row] := fun choice _ =>
    issues_freshId.give fun _ id _ => by
      have hcontrol := areInside_choiceControl control (submitName c.frame) id
        (chosenValues c.value) choice
      have hlabel := areInside_label (s := s) (submitName c.frame) id choice.title
      refine areInside_singleton.mpr ⟨by simp [controlNames], ?_⟩
      simpa using areInside_append.mpr ⟨hcontrol, hlabel⟩
  have hrows := Issues.mapM (R := fun _ rows => AreInside (submitName c.frame) rows) areInside_nil
    (fun _ _ row rows hrow hrows =>
      List.singleton_append ▸ areInside_append.mpr ⟨hrow, hrows⟩) _ hrow
  refine hrows.give fun _ rows hinside => reflects_input rfl ?_ ?_ ?_
  · simp [inputBlock, landmarkClasses]
  · simp [inputBlock, controlNames]
  · simpa [inputBlock, Element.frame] using hinside

theorem mirror_renderChoiceSet (c : ChoiceSet) :
    Issues (renderChoiceSet s c) fun _ tag =>
      Reflects s.convert [.element (.choiceSet c)] tag.toList := by
  have hlist (control : Control) : Issues (do return some (← choiceList s c control)) fun _ tag =>
      Reflects s.convert [.element (.choiceSet c)] tag.toList :=
    (mirror_choiceList c control).give fun _ t ht => ht
  have hmenu : Reflects s.convert [.element (.choiceSet c)] [menu c] := by
    refine reflects_input rfl ?_ ?_ ?_
    · simp [menu, emptyMenu, landmarkClasses]
    · simp [menu, emptyMenu, Element.frame]
    · refine areInside_of_forall fun t ht => ?_
      simp only [menu, emptyMenu, children_appendAll, children_setStyle, children_addClass,
        children_setAttr, children_named, List.nil_append] at ht
      obtain ⟨choice, -, rfl⟩ := List.mem_map.mp ht
      unfold menuOption
      dsimp only
      split <;> simp [areInside_singleton, controlNames]
  unfold renderChoiceSet
  split
  · exact hlist _
  · split
    · exact .pure hmenu
    · exact hlist _

/-- Attributes that may be missing change no marks and no names. -/
theorem keeps_setFilled {name : String} (hname : name ≠ "name") (value : Option String) (t : Tag) :
    Keeps t (setFilled name value t) := by
  unfold setFilled
  split
  · exact (Keeps.refl t).setAttr hname _
  · exact Keeps.refl t

theorem keeps_setNumber {name : String} (hname : name ≠ "name") (x : Option Number.Double)
    (t : Tag) : Keeps t (setNumber name x t) := by
  unfold setNumber
  split
  · exact Keeps.refl t
  · exact Keeps.refl t
  · exact (Keeps.refl t).setAttr hname _

/-- An input that is a single control. -/
theorem reflects_control {convert : String → Except Fault (List Tag)} {e : Element} {t u : Tag}
    (he : isInput e = true) (hmark : marks t = ["ac-input"])
    (hname : t.attr? "name" = some (submitName e.frame)) (hchildren : t.children = [])
    (hk : Keeps t u) : Reflects convert [.element e] [u] := by
  have hcontrol : Reflects convert [.element e] [t] := by
    refine reflects_input he hmark (fun _ => hname) ?_
    rw [hchildren]
    exact areInside_nil
  exact hcontrol.keeps hk

theorem reflects_textInputTag {convert : String → Except Fault (List Tag)} (i : TextInput) :
    Reflects convert [.element (.textInput i)] [textInputTag i] := by
  have hend {t : Tag} (hmark : marks t = []) (hchildren : t.children = []) :
      Reflects convert [.element (.textInput i)] [
        let t := t.setAttr "name" (submitName i.frame) |>.addClass "ac-textinput"
          |>.addClass "ac-input" |>.setStyle .width "100%"
        let t := setFilled "placeholder" i.placeholder t
        if i.maxLength = 0 then t
        else t.setAttr "maxLength" (String.ofList (Text.natText i.maxLength))] := by
    dsimp only
    have hfilled (t : Tag) : Keeps t (setFilled "placeholder" i.placeholder t) :=
      keeps_setFilled (by decide) i.placeholder t
    split
    · exact reflects_control rfl (by simp [hmark, landmarkClasses]) (by simp; rfl)
        (by simp [hchildren]) (hfilled _)
    · exact reflects_control rfl (by simp [hmark, landmarkClasses]) (by simp; rfl)
        (by simp [hchildren]) ((hfilled _).setAttr (by decide) _)
  have hname : "value" ≠ "name" := by decide
  have hvalue := keeps_setFilled hname i.value ((Tag.named "input").setAttr "type" "text")
  unfold textInputTag
  split
  · split
    · exact hend (by simp) (by simp)
    · exact hend (by simp) (by simp)
  · exact hend (hvalue.mark.trans (by simp)) (hvalue.children.trans (by simp))

theorem reflects_numberInputTag {convert : String → Except Fault (List Tag)} (i : NumberInput) :
    Reflects convert [.element (.numberInput i)] [numberInputTag i] := by
  refine reflects_control rfl ?_ ?_ ?_ ((keeps_setNumber (by decide) _ _).trans
    ((keeps_setNumber (by decide) _ _).trans ((keeps_setNumber (by decide) _ _).trans
      (keeps_setFilled (by decide) _ _))))
  · simp [landmarkClasses]
  · simp
    rfl
  · simp

theorem reflects_pickerTag {convert : String → Except Fault (List Tag)} {e : Element}
    (type : String) {className : String} (hclass : className ∉ landmarkClasses) {p : Picker}
    (he : isInput e = true) (hframe : e.frame = p.frame) :
    Reflects convert [.element e] [pickerTag type className p] := by
  refine reflects_control he ?_ ?_ ?_ ((keeps_setFilled (by decide) _ _).trans
    ((keeps_setFilled (by decide) _ _).trans ((keeps_setFilled (by decide) _ _).trans
      (keeps_setFilled (by decide) _ _))))
  · rw [marks_setStyle, marks_addClass hclass]
    simp [landmarkClasses]
  · simp [hframe]
  · simp

theorem mirror_renderToggle (t : Toggle) : Issues (renderToggle s t) fun _ tag =>
    Reflects s.convert [.element (.toggle t)] tag.toList := by
  refine issues_freshId.give fun _ id _ => reflects_input rfl ?_ ?_ ?_
  · simp [inputBlock, landmarkClasses]
  · simp [inputBlock, controlNames]
  · have hcontrol := areInside_toggleControl id (submitName t.frame) (t.valueOn.getD "True")
      (t.valueOff.getD "False") (t.value == some (t.valueOn.getD "True"))
    have hlabel := areInside_label (s := s) (submitName t.frame) id t.title
    simpa [inputBlock, Element.frame] using areInside_append.mpr ⟨hcontrol, hlabel⟩

/-! ## Buttons -/

/-- A button shows the title of its action. -/
theorem shown_titleOf {a : Action} (ha : (Node.action a).isUnknown = false) :
    shown? (titleOf (.action a)) = a.title := by
  have hmembers : membersOf (.action a) = [("title", .ofText? a.title)] := by
    cases a with
    | unknown u => cases ha
    | _ => rfl
  have htitle : titleOf (.action a) = .ofText? a.title := by
    rw [titleOf, member?, hmembers]
    rfl
  rw [htitle]
  cases a.title with
  | none => rfl
  | some title =>
    change some (Data.shownText (.text title)) = some title
    simp [Data.shownText, Data.shown]

theorem shows_action {convert : String → Except Fault (List Tag)} {a : Action} {t : Tag}
    (hmark : marks t = ["ac-pushButton"]) (htitle : t.text = a.title) :
    Shows convert (.action a) t := by
  refine ⟨hmark, ?_, nofun, nofun, ?_⟩
  · rintro b hb
    cases hb
  · rintro a' ha'
    obtain rfl := Node.action.inj ha'
    exact htitle

theorem mirror_renderAction (hs : s.transformers = standardTransformers.get?)
    (hactive : s.host.supportsInteractivity = true) {a : Action}
    (ha : (Node.action a).isUnknown = false) : Issues (renderAction s (.action a)) fun _ tag =>
      Reflects s.convert [.action a] tag.toList := by
  have hbutton : Reflects s.convert [.action a]
      [button s.host.actions (titleOf (.action a))] := by
    refine .landmark (shows_action ?_ ?_) ?_
    · simp [button, landmarkClasses]
    · rw [← shown_titleOf ha]
      simp [button, Tag.addClass, Tag.setStyle, Tag.setText]
    · simp [button]
  unfold renderAction
  rw [if_pos hactive]
  refine (keeps_asAction hs (.action a) (button s.host.actions (titleOf (.action a)))).give
    fun _ u hu => ?_
  exact hbutton.keeps hu

end

end Placard.Render
