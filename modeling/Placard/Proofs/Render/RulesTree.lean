import Placard.Proofs.Document.Loaded
import Placard.Proofs.Render.Height
import Placard.Proofs.Render.Rules

/-!
# The tags of a card obey rules

If rules admit what a card brings in by itself, which are the addresses of its pictures and actions
and the images behind it and the cards in it, then all tags of the card obey them
(`allObey_of_render`). The rules have to be lenient and to suit the host.
-/

namespace Placard.Render

open Tag Data Document Number

/-! ## Inputs -/

section

variable {r : Rules} {s : Scene} {t : Tag}

namespace AllObey

variable (h : AllObey r [t]) {n : String} (hn : ∀ {v}, r.attributes n v)

include h hn

theorem setFilled (value : Option String) : AllObey r [setFilled n value t] := by
  unfold Render.setFilled
  split
  · exact h.setAttr hn
  · exact h

theorem setNumber (x : Option Double) : AllObey r [setNumber n x t] := by
  unfold Render.setNumber
  split
  · exact h
  · exact h
  · exact h.setAttr hn

theorem setPresent (v : Value) : AllObey r [setPresent n v t] := by
  unfold Render.setPresent
  split
  · exact h.setAttr hn
  · exact h

end AllObey

theorem obeys_label (hs : s.Suits r) (id text : String) : AllObey r [label s id text] := by
  have hr := hs.lenient
  exact (allObey_named "label").setText _ |>.setAttr (hr.attributes (by decide))
    |>.setStyle (hs.text .default false) |>.setStyle (hr.styles (isClosed_pixels _))
    |>.setStyle (hr.styles (by decide)) |>.setStyle (hr.styles (by decide))
    |>.setStyle (hr.styles (by decide))

section

variable (hr : r.IsLenient)

include hr

theorem obeys_inputBlock : AllObey r [inputBlock] :=
  (allObey_named "div").addClass (hr.classes (by decide)) |>.setStyle (hr.styles (by decide))

theorem obeys_choiceControl (control : Control) (name id : String) (chosen : List String)
    (c : Choice) : AllObey r [choiceControl control name id chosen c] := by
  have hcontrol := (allObey_named "input").setAttr (n := "id") (v := id) (hr.attributes (by decide))
    |>.setAttr (n := "type") (v := control.name) (hr.attributes (by decide))
    |>.setAttr (n := "name") (v := name) (hr.attributes (by decide))
    |>.setAttr (n := "value") (v := c.value) (hr.attributes (by decide))
    |>.setStyle (p := .margin) (v := "0px") (hr.styles (by decide))
    |>.setStyle (p := .display) (v := "inline-block") (hr.styles (by decide))
    |>.setStyle (p := .verticalAlign) (v := "middle") (hr.styles (by decide))
  unfold choiceControl
  dsimp only
  split
  · exact hcontrol.setAttr (hr.attributes (by decide))
  · exact hcontrol

theorem obeys_emptyMenu (name : String) : AllObey r [emptyMenu name] :=
  (allObey_named "select").setAttr (hr.attributes (by decide)) |>.addClass (hr.classes (by decide))
    |>.addClass (hr.classes (by decide)) |>.setStyle (hr.styles (by decide))

theorem obeys_menu (c : ChoiceSet) : AllObey r [menu c] := by
  refine (obeys_emptyMenu hr _).appendAll (allObey_of_forall fun t ht => ?_)
  obtain ⟨choice, -, rfl⟩ := List.mem_map.mp ht
  have hoption := (allObey_named "option").setText (some choice.title)
    |>.setAttr (n := "value") (v := choice.value) (hr.attributes (by decide))
  unfold menuOption
  dsimp only
  split
  · exact hoption.setAttr (hr.attributes (by decide))
  · exact hoption

/-- An input of text, from the tag with its text on. -/
theorem obeys_textInput {t : Tag} (ht : AllObey r [t]) (name : String) :
    AllObey r [t.setAttr "name" name |>.addClass "ac-textinput" |>.addClass "ac-input"
      |>.setStyle .width "100%"] :=
  ht.setAttr (hr.attributes (by decide)) |>.addClass (hr.classes (by decide))
    |>.addClass (hr.classes (by decide)) |>.setStyle (hr.styles (by decide))

theorem obeys_textInputTag (i : TextInput) : AllObey r [textInputTag i] := by
  have hend {t : Tag} (ht : AllObey r [t]) : AllObey r
      [let t := setFilled "placeholder" i.placeholder
        (t.setAttr "name" (submitName i.frame) |>.addClass "ac-textinput"
          |>.addClass "ac-input" |>.setStyle .width "100%")
      if i.maxLength = 0 then t
      else t.setAttr "maxLength" (String.ofList (Text.natText i.maxLength))] := by
    have hfilled := (obeys_textInput hr ht (submitName i.frame)).setFilled (n := "placeholder")
      (hr.attributes (by decide)) i.placeholder
    dsimp only
    split
    · exact hfilled
    · exact hfilled.setAttr (hr.attributes (by decide))
  refine hend ?_
  split
  · split
    · exact (allObey_named "textarea").setText _
    · exact allObey_named "textarea"
  · exact ((allObey_named "input").setAttr (hr.attributes (by decide))).setFilled
      (hr.attributes (by decide)) _

theorem obeys_numberInputTag (i : NumberInput) : AllObey r [numberInputTag i] :=
  (allObey_named "input").setAttr (hr.attributes (by decide)) |>.addClass (hr.classes (by decide))
    |>.addClass (hr.classes (by decide)) |>.setAttr (hr.attributes (by decide))
    |>.setStyle (hr.styles (by decide)) |>.setNumber (hr.attributes (by decide)) i.min
    |>.setNumber (hr.attributes (by decide)) i.max |>.setNumber (hr.attributes (by decide)) i.value
    |>.setFilled (hr.attributes (by decide)) i.placeholder

theorem obeys_pickerTag (type : String) {className : String} (hclass : className ∉ activeClasses)
    (p : Picker) : AllObey r [pickerTag type className p] :=
  (allObey_named "input").setAttr (hr.attributes (by decide))
    |>.setAttr (hr.attributes (by decide)) |>.addClass (hr.classes (by decide))
    |>.addClass (hr.classes hclass) |>.setStyle (hr.styles (by decide))
    |>.setFilled (hr.attributes (by decide)) p.value |>.setFilled (hr.attributes (by decide)) p.min
    |>.setFilled (hr.attributes (by decide)) p.max
    |>.setFilled (hr.attributes (by decide)) p.placeholder

theorem obeys_toggleControl (id name on off : String) (isOn : Bool) :
    AllObey r [toggleControl id name on off isOn] := by
  have hcontrol := (allObey_named "input").setAttr (n := "id") (v := id) (hr.attributes (by decide))
    |>.setAttr (n := "type") (v := "checkbox") (hr.attributes (by decide))
    |>.setAttr (n := "name") (v := name) (hr.attributes (by decide))
    |>.setAttr (n := "data-ac-valueOn") (v := on) (hr.attributes (by decide))
    |>.setAttr (n := "data-ac-valueOff") (v := off) (hr.attributes (by decide))
    |>.setStyle (p := .display) (v := "inline-block") (hr.styles (by decide))
    |>.setStyle (p := .verticalAlign) (v := "middle") (hr.styles (by decide))
    |>.setStyle (p := .margin) (v := "0px") (hr.styles (by decide))
  unfold toggleControl
  dsimp only
  split
  · exact hcontrol.setAttr (hr.attributes (by decide))
  · exact hcontrol

end

section

variable (hs : s.Suits r)

include hs

theorem obeys_choiceList (c : ChoiceSet) (control : Control) :
    Issues (choiceList s c control) fun _ t => AllObey r [t] := by
  have hr := hs.lenient
  refine Issues.give (Q := fun _ => AllObey r) ?_ fun _ rows hrows =>
    (obeys_inputBlock hr).appendAll hrows
  refine Issues.mapM (Q := fun _ t => AllObey r [t]) allObey_nil
    (fun _ _ _ _ ht hts => allObey_cons.mpr ⟨ht, hts⟩) _ fun choice _ => ?_
  refine issues_freshId.give fun _ id _ => ?_
  exact (allObey_named "div").append (obeys_choiceControl hr _ _ _ _ _)
    |>.append (obeys_label hs _ _)

theorem follows_renderChoiceSet (c : ChoiceSet) : Follows r (renderChoiceSet s c) := by
  have hlist (control : Control) : Follows r (do return some (← choiceList s c control)) :=
    (obeys_choiceList hs c control).give fun _ t ht => ht
  unfold renderChoiceSet
  split
  · exact hlist _
  · split
    · exact .pure (obeys_menu hs.lenient c)
    · exact hlist _

theorem follows_renderToggle (t : Toggle) : Follows r (renderToggle s t) :=
  issues_freshId.give fun _ _ _ => (obeys_inputBlock hs.lenient).append
    (obeys_toggleControl hs.lenient _ _ _ _ _) |>.append (obeys_label hs _ _)

end

/-! ## Misplaced nodes -/

section

variable (hr : r.IsLenient) (get : String → Except Fault Value)

include hr

theorem obeys_misplacedImage (hurl : Gives (get "url") fun v => r.attributes "src" (shownText v)) :
    Gives (misplacedImage s get) fun t => AllObey r [t] :=
  .seq fun _ => .seq fun _ => .seq fun _ => hurl.bind fun _ hurl => .seq fun _ => .seq fun _ =>
    .seq fun _ => .seq fun _ => .pure (obeys_framedPicture hr _ _ _ hurl _ _)

theorem obeys_misplacedRow : Gives (misplacedRow s get) fun t => AllObey r [t] := by
  refine .seq fun _ => .seq fun _ => .seq fun _ => .seq fun columns => ?_
  cases columns with
  | nil => exact .pure (obeys_emptyRow hr)
  | cons v vs => exact lacks_gives v _

theorem obeys_misplacedFacts : Gives (misplacedFacts get) fun t => AllObey r [t] := by
  refine .seq fun _ => .seq fun facts => ?_
  cases facts with
  | nil =>
    exact .pure ((allObey_named "ul").addClass (hr.classes (by decide))
      |>.setStyle (hr.styles (by decide)))
  | cons v vs =>
    dsimp only
    split
    · exact .error _
    · exact lacks_gives v _

theorem obeys_misplacedImages : Gives (misplacedImages get) fun t => AllObey r [t] := by
  have hlist : AllObey r [(Tag.named "ul").addClass (kindClass "ImageSet")] :=
    (allObey_named "ul").addClass (hr.classes (by decide))
  refine .seq fun _ => .seq fun images => ?_
  cases images with
  | nil => exact .pure hlist
  | cons v vs =>
    refine .seq fun size => ?_
    dsimp only
    split
    · exact .seq fun _ => .pure hlist
    · exact .seq fun _ => .pure hlist

theorem obeys_misplacedStack {kind : String} (hkind : kindClass kind ∉ activeClasses) :
    Gives (misplacedStack s kind get) fun t => AllObey r [t] :=
  .seq fun _ => .seq fun _ => .seq fun _ => .seq fun _ =>
    .pure ((allObey_named "div").addClass (hr.classes hkind))

theorem obeys_misplacedMenu (name : String) :
    Gives (misplacedMenu name get) fun t => AllObey r [t] := by
  refine .seq fun _ => .seq fun choices => ?_
  cases choices with
  | nil => exact .pure (obeys_emptyMenu hr name)
  | cons v vs => exact lacks_gives v _

theorem obeys_misplacedChoices : Issues (misplacedChoices get) fun _ t => AllObey r [t] := by
  refine .read fun _ => .read fun choices => ?_
  cases choices with
  | nil => exact .pure (obeys_inputBlock hr)
  | cons v vs => exact issues_freshId.bind fun _ _ _ => .ofExcept (lacks_gives v _)

theorem obeys_misplacedChoiceSet (frame : Frame) :
    Issues (misplacedChoiceSet frame get) fun _ t => AllObey r [t] := by
  unfold misplacedChoiceSet
  refine .read fun several => ?_
  split
  · exact obeys_misplacedChoices hr get
  · refine .read fun style => ?_
    split
    · exact .ofExcept (obeys_misplacedMenu hr get _)
    · exact obeys_misplacedChoices hr get

theorem obeys_misplacedTextInput (frame : Frame) :
    Gives (misplacedTextInput frame get) fun t => AllObey r [t] := by
  have hend {t : Tag} (ht : AllObey r [t]) : Gives (do
      let t := t.setAttr "name" (submitName frame) |>.addClass "ac-textinput"
        |>.addClass "ac-input" |>.setStyle .width "100%"
      let t := setPresent "placeholder" (← get "placeholder") t
      let limit ← get "max_length"
      return if ← isPositive limit then t.setAttr "maxLength" (shownText limit) else t)
      fun t => AllObey r [t] := by
    refine .seq fun placeholder => .seq fun limit => .seq fun positive => .pure ?_
    have hfilled := (obeys_textInput hr ht (submitName frame)).setPresent (n := "placeholder")
      (hr.attributes (by decide)) placeholder
    split
    · exact hfilled.setAttr (hr.attributes (by decide))
    · exact hfilled
  unfold misplacedTextInput
  refine .seq fun multiline => ?_
  dsimp only
  split
  · exact .seq fun value => hend ((allObey_named "textarea").setText _)
  · exact .seq fun value => hend (((allObey_named "input").setAttr
      (hr.attributes (by decide))).setPresent (hr.attributes (by decide)) _)

omit hr in
theorem obeys_setMisplacedNumber {t : Tag} (ht : AllObey r [t]) {n : String}
    (hn : ∀ {v}, r.attributes n v) (v : Value) :
    Gives (setMisplacedNumber n v t) fun t => AllObey r [t] := by
  unfold setMisplacedNumber
  split
  · exact .pure ht
  · exact .pure (ht.setNumber hn _)
  · exact .seq fun _ => lacks_gives _ _
  · exact lacks_gives _ _
  · exact .error _

theorem obeys_misplacedNumberInput (frame : Frame) :
    Gives (misplacedNumberInput frame get) fun t => AllObey r [t] := by
  refine .seq fun min => (obeys_setMisplacedNumber (obeys_numberInputTag hr _)
    (hr.attributes (by decide)) min).bind fun t ht => ?_
  refine .seq fun max =>
    (obeys_setMisplacedNumber ht (hr.attributes (by decide)) max).bind fun t ht => ?_
  refine .seq fun value =>
    (obeys_setMisplacedNumber ht (hr.attributes (by decide)) value).bind fun t ht => ?_
  exact .seq fun placeholder => .pure (ht.setPresent (hr.attributes (by decide)) placeholder)

theorem obeys_misplacedPicker (type : String) {className : String}
    (hclass : className ∉ activeClasses) (frame : Frame) :
    Gives (misplacedPicker type className frame get) fun t => AllObey r [t] :=
  .seq fun _ => .seq fun _ => .seq fun _ => .seq fun _ => .pure
    ((obeys_pickerTag hr type hclass _).setPresent (hr.attributes (by decide)) _
      |>.setPresent (hr.attributes (by decide)) _ |>.setPresent (hr.attributes (by decide)) _
      |>.setPresent (hr.attributes (by decide)) _)

end

section

variable (hs : s.Suits r) (get : String → Except Fault Value)

include hs

theorem obeys_misplacedToggle (frame : Frame) :
    Issues (misplacedToggle s frame get) fun _ t => AllObey r [t] := by
  refine issues_freshId.bind fun _ id _ => ?_
  refine .read fun on => .read fun off => .read fun value => .read fun title => .pure ?_
  exact (obeys_inputBlock hs.lenient).append (obeys_toggleControl hs.lenient _ _ _ _ _)
    |>.append ((obeys_label hs _ _).setText _)

/-- A value counts as an image behind a card if it counts as present. -/
def imageText? (v : Value) : Option String :=
  if v.truthy then some (shownText v) else none

theorem obeys_misplacedCard (himage : Gives (get "background_image") fun v =>
    r.AllowsImage (imageText? v)) : Gives (misplacedCard s get) fun t => AllObey r [t] := by
  refine himage.bind fun image hallowed => ?_
  exact .seq fun _ => .seq fun _ => .seq fun _ => .seq fun _ =>
    .pure (obeys_cardFrame hs hallowed)

/-- Of the misplaced elements only the pictures have an address, and only the cards an image behind
them. What is no misplaced element is rendered as an action. -/
theorem follows_or_renderAction (node : Node) (u : Unknown)
    (himage : u.kind = "AdaptiveCard" → Gives (member node "background_image") fun v =>
      r.AllowsImage (imageText? v))
    (hurl : u.kind = "Image" → Gives (member node "url") fun v =>
      r.attributes "src" (shownText v)) :
    (u.kind ∈ elementKinds ∧ Follows r (renderMisplaced s node u)) ∨
      renderMisplaced s node u = renderAction s node := by
  have hr := hs.lenient
  have hstep {m : Render Tag} (hm : Issues m fun _ t => AllObey r [t]) : Follows r (some <$> m) :=
    hm.map fun _ _ ht => ht
  have htag {x : Except Fault Tag} (hx : Gives x fun t => AllObey r [t]) :
      Follows r (some <$> ofExcept x) := hstep (.ofExcept hx)
  have hlisted {kind : String} (hkind : u.kind = kind) (hmem : kind ∈ elementKinds) :
      u.kind ∈ elementKinds := hkind ▸ hmem
  unfold renderMisplaced
  dsimp only
  split
  · next hkind =>
    exact .inl ⟨hlisted hkind (by decide), htag (obeys_misplacedCard hs _ (himage hkind))⟩
  · next hkind =>
    exact .inl ⟨hlisted hkind (by decide), htag (.seq fun _ => .seq fun _ => .seq fun _ =>
      .seq fun _ => .seq fun _ => .seq fun _ => lacks_gives _ _)⟩
  · next hkind =>
    exact .inl ⟨hlisted hkind (by decide), htag (obeys_misplacedImage hr _ (hurl hkind))⟩
  · next hkind =>
    exact .inl ⟨hlisted hkind (by decide), htag (obeys_misplacedStack hr _ (by decide))⟩
  · next hkind =>
    exact .inl ⟨hlisted hkind (by decide), htag (obeys_misplacedStack hr _ (by decide))⟩
  · next hkind => exact .inl ⟨hlisted hkind (by decide), htag (obeys_misplacedRow hr _)⟩
  · next hkind => exact .inl ⟨hlisted hkind (by decide), htag (obeys_misplacedFacts hr _)⟩
  · next hkind => exact .inl ⟨hlisted hkind (by decide), htag (obeys_misplacedImages hr _)⟩
  · next hkind => exact .inl ⟨hlisted hkind (by decide), hstep (obeys_misplacedChoiceSet hr _ _)⟩
  · next hkind => exact .inl ⟨hlisted hkind (by decide), htag (obeys_misplacedTextInput hr _ _)⟩
  · next hkind => exact .inl ⟨hlisted hkind (by decide), htag (obeys_misplacedNumberInput hr _ _)⟩
  · next hkind =>
    exact .inl ⟨hlisted hkind (by decide), htag (obeys_misplacedPicker hr _ _ (by decide) _)⟩
  · next hkind =>
    exact .inl ⟨hlisted hkind (by decide), htag (obeys_misplacedPicker hr _ _ (by decide) _)⟩
  · next hkind => exact .inl ⟨hlisted hkind (by decide), hstep (obeys_misplacedToggle hs _ _)⟩
  · exact .inr rfl

end

end

/-! ## What nodes bring in -/

/-- The image behind a node that is rendered as a card. -/
def background? (n : Node) : Option String :=
  match n with
  | .element (.card c) => c.backgroundImage
  | n => if n.kind = "AdaptiveCard" then (member? n "background_image").bind imageText? else none

/-- The addresses of a node and of what it is selected by. -/
def ownAddresses (n : Node) : List String :=
  (address? n).toList ++ n.selection?.toList.flatMap fun a => (address? (.action a)).toList

/-- Whether rules allow what a node brings in by itself. -/
structure Rules.Allows (r : Rules) (host : Host.Config) (n : Node) : Prop where
  address : ∀ v ∈ ownAddresses n, r.AllowsAddress host v
  image : r.AllowsImage (background? n)

/-- Whether rules allow what a node and the nodes below it bring in. -/
def Rules.Admits (r : Rules) (host : Host.Config) (n : Node) : Prop :=
  ∀ m ∈ n.nodes, r.Allows host m

/-- In a set an image has another size, and the same addresses. -/
theorem ownAddresses_inSet (size : ImageSize) (i : Image) :
    ownAddresses (.element (.image (inSet size i))) = ownAddresses (.element (.image i)) := by
  unfold inSet
  split <;> rfl

section

variable {r : Rules} {host : Host.Config} {n m : Node} {u : Unknown}

namespace Rules.Allows

theorem own (h : r.Allows host n) : ∀ v ∈ address? n, r.AllowsAddress host v :=
  fun v hv => h.address v (List.mem_append_left _ (Option.mem_toList.mpr hv))

theorem selection (h : r.Allows host n) :
    ∀ a ∈ n.selection?, ∀ v ∈ address? (.action a), r.AllowsAddress host v := by
  intro a ha v hv
  refine h.address v (List.mem_append_right _ (List.mem_flatMap.mpr ⟨a, ?_, ?_⟩))
  · exact Option.mem_toList.mpr ha
  · exact Option.mem_toList.mpr hv

/-- The address of a misplaced picture is the member of that name. -/
theorem misplacedUrl (h : r.Allows host n)
    (hn : n = .element (.unknown u) ∨ n = .action (.unknown u)) (hkind : u.kind = "Image") :
    Gives (member n "url") fun v => r.attributes "src" (shownText v) := by
  intro v hv
  refine (h.own _ ?_).picture
  rcases hn with rfl | rfl
  · exact (if_pos (.inl hkind)).trans (by rw [member?_of_member hv]; rfl)
  · exact (if_pos (.inl hkind)).trans (by rw [member?_of_member hv]; rfl)

/-- The image behind a misplaced card is the member of that name. -/
theorem misplacedImage (h : r.Allows host n)
    (hn : n = .element (.unknown u) ∨ n = .action (.unknown u)) (hkind : u.kind = "AdaptiveCard") :
    Gives (member n "background_image") fun v => r.AllowsImage (imageText? v) := by
  intro v hv
  have hmember : member? n "background_image" = some v := member?_of_member hv
  have hbackground : background? n = imageText? v := by
    unfold background?
    rcases hn with rfl | rfl
    · exact (if_pos hkind).trans (by rw [hmember]; rfl)
    · exact (if_pos hkind).trans (by rw [hmember]; rfl)
  rw [← hbackground]
  exact h.image

end Rules.Allows

namespace Rules.Admits

theorem self (h : r.Admits host n) : r.Allows host n :=
  h n (Node.mem_nodes_self n)

theorem part (h : r.Admits host n) (hm : m ∈ n.parts) : r.Admits host m :=
  fun k hk => h k (Node.nodes_subset_of_mem_parts hm hk)

theorem of_no_parts (hparts : n.parts = []) (h : r.Allows host n) : r.Admits host n := by
  unfold Admits
  rwa [Node.nodes_eq, hparts, List.flatMap_nil, List.forall_mem_singleton]

/-- Texts bring in nothing. -/
theorem text (t : TextBlock) : r.Admits host (.element (.textBlock t)) :=
  .of_no_parts rfl ⟨fun _ (hv : _ ∈ []) => absurd hv List.not_mem_nil, fun _ hv => by cases hv⟩

/-- In a set an image brings in what it does by itself. -/
theorem inSet {i : Image} (h : r.Admits host (.element (.image i))) (size : ImageSize) :
    r.Admits host (.element (.image (inSet size i))) := by
  refine .of_no_parts rfl ⟨?_, fun _ hv => by cases hv⟩
  rw [ownAddresses_inSet]
  exact h.self.address

end Rules.Admits

/-! ## Nodes -/

section

variable {s : Scene} (hs : s.Permits r)

include hs

theorem follows_renderMisplaced (h : r.Allows s.host n)
    (hn : n = .element (.unknown u) ∨ n = .action (.unknown u)) :
    Follows r (renderMisplaced s n u) := by
  rcases follows_or_renderAction hs.toSuits n u (h.misplacedImage hn) (h.misplacedUrl hn) with
    ⟨-, hfollows⟩ | haction
  · exact hfollows
  · rw [haction]
    exact follows_renderAction hs h.own

/-- **One node.** If rules admit a node, its tag obeys them if the tags of all lower nodes do. -/
theorem follows_renderNode (hn : r.Admits s.host n)
    (h : ∀ m, m.height < n.height → r.Admits s.host m → Follows r (s.render m)) :
    Follows r (renderNode s n) := by
  have hr := hs.lenient
  have hlower {m : Node} (hm : m ∈ n.parts) : Follows r (s.render m) :=
    h m (Node.lt_of_mem_parts hm) (hn.part hm)
  cases n with
  | element e =>
    cases e with
    | card c =>
      refine follows_renderCard hs hn.self.image (fun e he => ?_) fun a ha => ?_
      · exact hlower (List.mem_append_left _ (List.mem_map_of_mem he))
      · have hpart : Node.action a ∈ (Node.element (.card c)).parts :=
          List.mem_append_right _ (List.mem_map_of_mem ha)
        -- a card that a button shows is a part of the button, not of the card around it
        exact ⟨hlower hpart, fun card hcard => h _ (lt_of_cardOf hpart hcard)
          ((hn.part hpart).part (mem_parts_of_cardOf hcard))⟩
    | container c =>
      exact follows_renderStack hs (by decide) (fun e he => hlower (List.mem_map_of_mem he))
        hn.self.selection
    | column c =>
      exact follows_renderStack hs (by decide) (fun e he => hlower (List.mem_map_of_mem he))
        hn.self.selection
    | columnSet c =>
      exact follows_renderColumnSet hs (fun d hd => hlower (List.mem_map_of_mem hd))
        hn.self.selection
    | factSet f =>
      exact follows_renderFactSet hr (fun layout text => h _ (factText_lt layout text f) (.text _)) f
    | image i => exact follows_renderImage hs (hn.self.own _ rfl).picture hn.self.selection
    | imageSet i =>
      refine follows_renderImageSet hr fun image himage => h _ (inSet_lt himage _) ?_
      exact (hn.part (List.mem_map_of_mem (f := fun i => Node.element (.image i)) himage)).inSet _
    | textBlock t =>
      exact (Issues.ofExcept (obeys_textTag hs.toSuits t)).map fun _ _ ht => ht
    | choiceSet c => exact follows_renderChoiceSet hs.toSuits c
    | textInput i => exact .pure (obeys_textInputTag hr i)
    | numberInput i => exact .pure (obeys_numberInputTag hr i)
    | dateInput p => exact .pure (obeys_pickerTag hr _ (by decide) p)
    | timeInput p => exact .pure (obeys_pickerTag hr _ (by decide) p)
    | toggle t => exact follows_renderToggle hs.toSuits t
    | unknown u => exact follows_renderMisplaced hs hn.self (.inl rfl)
  | action a =>
    cases a with
    | unknown u => exact follows_renderMisplaced hs hn.self (.inr rfl)
    | _ => exact follows_renderAction hs hn.self.own

end

/-! ## Cards -/

section

variable (hs : (({ host := host } : Session).stage.scene
  ({ host := host } : Session).stage.render).Permits r)

include hs

/-- **Nodes that rules admit have tags that obey them.** By induction on their heights. -/
theorem follows_render (n : Node) (hn : r.Admits host n) :
    Follows r (({ host := host } : Session).stage.render n) := by
  have hstandard : ({ host := host } : Session).stage.renderers = standardRenderers := rfl
  induction n using Node.heightInduction with
  | step n ih =>
    rw [render_eq hstandard rfl]
    split
    · exact follows_renderNode hs hn ih
    · exact (Issues.warn _).bind fun _ _ _ => .pure allObey_nil

/-- **The tags of a card obey** all rules that suit the host and admit the card. -/
theorem allObey_of_render {source : IdSource} {c : Card} (hc : r.Admits host (.element (.card c)))
    {rendered : Rendered} (h : ({ host := host } : Session).render source (some c) = .ok rendered) :
    AllObey r [rendered.tag] := by
  obtain ⟨pass, hrun, -⟩ := render_eq_ok h
  have hcard : Issues (cardPass ({ host := host } : Session).stage c) fun _ t => AllObey r [t] :=
    Issues.cardPass ((follows_render hs _ hc).mono fun _ tag htag t ht => by
      obtain rfl := Option.mem_def.mp ht
      exact htag)
  obtain ⟨-, -, -, htag⟩ := hcard source {} _ _ hrun
  exact htag

end

end

end Placard.Render
