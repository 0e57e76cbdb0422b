import Placard.Proofs.Css.Declaration
import Placard.Proofs.Render.WiredTree

/-!
# What may stand in tags

Rules say which classes, attributes and styles may stand in a tag. Most of what renderers write is
fixed or made of numbers, and lenient rules allow it whatever the card says (`Rules.IsLenient`). The
rest depends on the host or on the card:

* the font and the colours of the host, and the tags of texts (`Scene.Suits`);
* what says that something can be activated, which is written for actions only (`Scene.Permits`);
* the addresses of pictures and actions (`Rules.AllowsAddress`) and the images behind cards
  (`Rules.AllowsImage`).

Each renderer gives tags that obey such rules if the nodes that it has rendered do.
-/

namespace Placard.Render

open Tag Data Document Number Text

/-! ## Rules -/

/-- What may stand in a tag. -/
structure Rules where
  classes : String → Prop := fun _ => True
  attributes : String → String → Prop := fun _ _ => True
  styles : Property → String → Prop := fun _ _ => True

/-- A tag in which nothing stands but what may stand in it, and each style once. -/
structure Obeys (r : Rules) (t : Tag) : Prop where
  classes : ∀ c ∈ t.classes, r.classes c
  attributes : ∀ a ∈ t.attributes, r.attributes a.1 a.2
  styles : ∀ style ∈ t.styles, r.styles style.1 style.2
  distinct : (t.styles.map (·.1)).Nodup

/-- These tags and all tags below them obey. -/
def AllObey (r : Rules) (ts : List Tag) : Prop :=
  ∀ t ∈ descendantsOf ts, Obeys r t

/-- The classes of strips, of buttons, of cards that a button shows, and of what can be selected. -/
def activeClasses : List String :=
  ["ac-actionset", "ac-pushButton", "ac-showCard", "ac-selectable"]

/-- The attributes that say what is activated, and what happens then. -/
def activeAttributes : List String :=
  ["role", "data-ac-url", "data-ac-submitData", cardLink]

/-- The attributes that hold addresses. -/
def addressNames : List String :=
  ["href", "src", "data-ac-url"]

/-- Rules that forbid nothing but what says that something can be activated, addresses, and values
that are not closed. -/
structure Rules.IsLenient (r : Rules) : Prop where
  classes : ∀ {c}, c ∉ activeClasses → r.classes c
  attributes : ∀ {n v}, n ∉ activeAttributes ++ addressNames → r.attributes n v
  styles : ∀ {p v}, Css.IsClosed v → r.styles p v

/-- Rules that allow for actions all but some addresses. -/
structure Rules.AllowsActions (r : Rules) : Prop where
  classes : ∀ c, r.classes c
  attributes : ∀ {n v}, n ∉ addressNames → r.attributes n v

/-- The address may be that of a picture, and that of an action if the host shows actions. -/
structure Rules.AllowsAddress (r : Rules) (host : Host.Config) (address : String) : Prop where
  picture : r.attributes "src" address
  action : host.supportsInteractivity = true → r.attributes "data-ac-url" address

/-- The image, if it shows, may stand behind a card. -/
def Rules.AllowsImage (r : Rules) (image : Option String) : Prop :=
  ∀ url ∈ image.filter (!·.isEmpty), r.styles .backgroundImage (Css.quotedUrl url)

/-! ## Obeying tags -/

section

variable {r : Rules} {t u : Tag} {ts us : List Tag}

theorem allObey_nil : AllObey r [] := by
  simp [AllObey]

theorem allObey_append : AllObey r (ts ++ us) ↔ AllObey r ts ∧ AllObey r us := by
  simp only [AllObey, descendantsOf_append, List.forall_mem_append]

theorem allObey_singleton : AllObey r [t] ↔ Obeys r t ∧ AllObey r t.children := by
  simp only [AllObey, descendantsOf_cons, descendantsOf_nil, List.append_nil, List.forall_mem_cons]

theorem allObey_cons : AllObey r (t :: ts) ↔ AllObey r [t] ∧ AllObey r ts := by
  rw [← List.singleton_append, allObey_append]

/-- Tags obey if each of them does. -/
theorem allObey_of_forall (h : ∀ t ∈ ts, AllObey r [t]) : AllObey r ts := by
  intro t ht
  obtain ⟨u, hu, hbelow⟩ := mem_descendantsOf.mp ht
  exact h u hu t (mem_descendantsOf.mpr ⟨u, List.mem_singleton.mpr rfl, hbelow⟩)

theorem allObey_named (name : String) : AllObey r [Tag.named name] := by
  refine allObey_singleton.mpr ⟨⟨?_, ?_, ?_, List.nodup_nil⟩, allObey_nil⟩
  all_goals exact fun _ h => absurd h List.not_mem_nil

/-- Names, texts and what is below a tag do not matter to it. -/
theorem Obeys.of_eq (h : Obeys r t) (hclasses : u.classes = t.classes)
    (hattributes : u.attributes = t.attributes) (hstyles : u.styles = t.styles) : Obeys r u where
  classes := hclasses ▸ h.classes
  attributes := hattributes ▸ h.attributes
  styles := hstyles ▸ h.styles
  distinct := hstyles ▸ h.distinct

namespace AllObey

theorem addClass (h : AllObey r [t]) {c : String} (hc : r.classes c) :
    AllObey r [t.addClass c] := by
  obtain ⟨hself, hbelow⟩ := allObey_singleton.mp h
  have hattributes : (t.addClass c).attributes = t.attributes := by
    unfold Tag.addClass
    split <;> rfl
  have hstyles : (t.addClass c).styles = t.styles := by
    unfold Tag.addClass
    split <;> rfl
  refine allObey_singleton.mpr ⟨⟨fun d hd => ?_, hattributes ▸ hself.attributes,
    hstyles ▸ hself.styles, hstyles ▸ hself.distinct⟩, (children_addClass t c).symm ▸ hbelow⟩
  rcases (mem_classes_addClass t c d).mp hd with hd | ⟨-, rfl⟩
  · exact hself.classes d hd
  · exact hc

theorem setAttr (h : AllObey r [t]) {n v : String} (hv : r.attributes n v) :
    AllObey r [t.setAttr n v] := by
  obtain ⟨hself, hbelow⟩ := allObey_singleton.mp h
  refine allObey_singleton.mpr
    ⟨⟨hself.classes, fun a ha => ?_, hself.styles, hself.distinct⟩, hbelow⟩
  rcases mem_writeAt ha with rfl | ha
  · exact hv
  · exact hself.attributes a ha

theorem setStyle (h : AllObey r [t]) {p : Property} {v : String} (hv : r.styles p v) :
    AllObey r [t.setStyle p v] := by
  obtain ⟨hself, hbelow⟩ := allObey_singleton.mp h
  refine allObey_singleton.mpr ⟨⟨hself.classes, hself.attributes, fun style hstyle => ?_,
    nodup_writeAt hself.distinct⟩, hbelow⟩
  rcases mem_writeAt hstyle with rfl | hstyle
  · exact hv
  · exact hself.styles style hstyle

theorem setText (h : AllObey r [t]) (text : Option String) : AllObey r [t.setText text] := by
  obtain ⟨hself, hbelow⟩ := allObey_singleton.mp h
  exact allObey_singleton.mpr ⟨hself.of_eq rfl rfl rfl, hbelow⟩

theorem appendAll (h : AllObey r [t]) (hs : AllObey r ts) : AllObey r [t.appendAll ts] := by
  obtain ⟨hself, hbelow⟩ := allObey_singleton.mp h
  exact allObey_singleton.mpr ⟨hself.of_eq rfl rfl rfl, allObey_append.mpr ⟨hbelow, hs⟩⟩

theorem append (h : AllObey r [t]) (h' : AllObey r [u]) : AllObey r [t.append u] :=
  h.appendAll h'

theorem map {tag : Option Tag} (h : AllObey r tag.toList) {f : Tag → Tag}
    (hf : ∀ t, AllObey r [t] → AllObey r [f t]) : AllObey r (tag.map f).toList := by
  cases tag with
  | none => exact allObey_nil
  | some t => exact hf t h

/-- An edit after which a tag obeys as before can be applied to any tags. -/
theorem editEach {p : Tag → Bool} {f : Tag → Tag} (hf : ∀ t, AllObey r [t] → AllObey r [f t])
    (h : AllObey r ts) : AllObey r (editEach p f ts) := by
  induction ts using forestInduction with
  | nil =>
    rw [editEach_nil]
    exact allObey_nil
  | cons t ts ihc ihr =>
    obtain ⟨hself, hrest⟩ := allObey_cons.mp h
    obtain ⟨hown, hbelow⟩ := allObey_singleton.mp hself
    -- what is below the tag is edited before the tag itself
    have hinner : AllObey r [{ t with children := Tag.editEach p f t.children }] :=
      allObey_singleton.mpr ⟨hown.of_eq rfl rfl rfl, ihc hbelow⟩
    rw [editEach_cons]
    refine allObey_cons.mpr ⟨?_, ihr hrest⟩
    split
    · exact hf _ hinner
    · exact hinner

end AllObey

/-- The tags of a text have attributes only. -/
theorem IsTextTag.obeys (ht : Markdown.IsTextTag t)
    (hattributes : ∀ a ∈ t.attributes, r.attributes a.1 a.2) : Obeys r t := by
  refine ⟨?_, hattributes, ?_, ?_⟩
  · rw [ht.classes]
    exact fun _ h => absurd h List.not_mem_nil
  · rw [ht.styles]
    exact fun _ h => absurd h List.not_mem_nil
  · rw [ht.styles]
    exact List.nodup_nil

end

/-! ## Values -/

theorem natText_plain (n : Nat) : Css.IsPlain (natText n) := by
  have hspecial : Css.specialChars.all (fun c => !isAsciiDigit c) = true := by decide
  intro c hc hmem
  have hdigit := List.all_eq_true.mp hspecial c hmem
  rw [isAsciiDigit_of_mem_natText hc] at hdigit
  cases hdigit

theorem intText_plain (i : Int) : Css.IsPlain (intText i) := by
  unfold intText
  split
  · exact Css.isPlain_cons.mpr ⟨by decide, natText_plain _⟩
  · exact natText_plain _

theorem twoPlaces_plain (x : Double) : Css.IsPlain (twoPlaces x) := by
  have hpadded (width n : Nat) : Css.IsPlain (paddedText width n) := by
    refine Css.isPlain_append.mpr ⟨fun c hc => ?_, natText_plain n⟩
    obtain rfl := (List.mem_replicate.mp hc).2
    decide
  cases x with
  | nan => decide
  | infinite s => cases s <;> decide
  | finite s m e =>
    refine Css.isPlain_append.mpr ⟨by cases s <;> decide, ?_⟩
    refine Css.isPlain_append.mpr ⟨natText_plain _, Css.isPlain_cons.mpr ⟨by decide, ?_⟩⟩
    exact hpadded 2 _

theorem isClosed_pixels (n : Int) : Css.IsClosed (pixels n) :=
  Css.isClosed_of_plain (Css.isPlain_append.mpr ⟨intText_plain n, by decide⟩)

theorem isClosed_fractionalPixels (x : Double) : Css.IsClosed (fractionalPixels x) :=
  Css.isClosed_of_plain (Css.isPlain_append.mpr ⟨twoPlaces_plain x, by decide⟩)

theorem isClosed_flex (total : Double) (c : Column) : Gives (flex total c) Css.IsClosed := by
  unfold flex
  dsimp only
  split
  · exact .pure (by decide)
  · split
    · exact .pure (by decide)
    · split
      · refine Gives.seq (f := fun percent => .ok _) fun percent => .pure (Css.isClosed_of_plain ?_)
        refine Css.isPlain_append.mpr ⟨Css.isPlain_append.mpr ⟨?_, intText_plain _⟩, ?_⟩
        · decide
        · decide
      · exact .pure (by decide)

theorem isClosed_alignment (p : Placement) : Css.IsClosed (Keyword.text p) := by
  cases p <;> decide

theorem isClosed_fontWeight (w : TextWeight) : Css.IsClosed (fontWeight w) := by
  cases w <;> decide

/-! ## Scenes -/

/-- A scene whose font, colours and texts may stand in tags. -/
structure Scene.Suits (s : Scene) (r : Rules) : Prop where
  lenient : r.IsLenient
  family : ∀ family ∈ s.host.fontFamily, r.styles .fontFamily family
  background : r.styles .backgroundColor
    (Host.cssColor s.host.containerStyles.default.backgroundColor)
  text : ∀ color isSubtle, r.styles .color (s.textColor color isSubtle)
  line : ∀ p, r.styles p (Host.cssColor s.host.separator.lineColor)
  convert : ∀ text, Gives (s.convert text) (AllObey r)

/-- A scene in which actions may be rendered too, if its host shows actions. -/
structure Scene.Permits (s : Scene) (r : Rules) : Prop extends s.Suits r where
  transformers : s.transformers = standardTransformers.get?
  active : s.host.supportsInteractivity = true → r.AllowsActions

/-- A host without extensions of its own writes texts that obey if their attributes may stand. -/
theorem obeys_convert {r : Rules} (host : Host.Config)
    (h : ∀ t, Markdown.IsTextTag t → ∀ a ∈ t.attributes, r.attributes a.1 a.2) (text : String) :
    Gives (({ host := host } : Session).stage.convert text) (AllObey r) := by
  obtain ⟨tags, htags, htext⟩ := convert_stage host text
  intro found hfound
  obtain rfl := Except.ok.inj (htags.symm.trans hfound)
  exact fun t ht => IsTextTag.obeys (htext t ht) (h t (htext t ht))

/-- The step gives a tag that obeys, or none. -/
def Follows (r : Rules) (m : Render (Option Tag)) : Prop :=
  Issues m fun _ tag => AllObey r tag.toList

/-- The address of a node: where a picture is found, or where an action leads. -/
def address? : Node → Option String
  | .element (.image i) => some i.url
  | .action (.openUrl _ _ url) => some url.text
  | n => if n.kind = "Image" ∨ n.kind = "Action.OpenUrl" then (member? n "url").map shownText
    else none

/-! ## Actions -/

section

variable {r : Rules} {s : Scene} {t : Tag}

/-- An action leads to its address, whether it is misplaced or not. -/
theorem address?_of_actionAddress {action : Node} (hkind : action.kind = "Action.OpenUrl")
    {url : String} (h : actionAddress action = .ok url) : address? action = some url := by
  unfold actionAddress at h
  split at h
  · exact congrArg some (Except.ok.inj h)
  · next hother =>
    have haddress : address? action = (member? action "url").map shownText := by
      unfold address?
      split
      · exact absurd (show "Image" = "Action.OpenUrl" from hkind) (by decide)
      · next frame title url => exact absurd rfl (hother frame title url)
      · exact if_pos (.inr hkind)
    cases hv : member action "url" with
    | error fault =>
      rw [hv] at h
      cases h
    | ok v =>
      rw [hv] at h
      obtain rfl := Except.ok.inj h
      rw [haddress, member?_of_member hv]
      rfl

theorem obeys_linkAddress {action : Node} (hkind : action.kind = "Action.OpenUrl")
    (haction : ∀ v ∈ address? action, r.attributes "data-ac-url" v) (ht : AllObey r [t]) :
    Issues (linkAddress action t) fun _ u => AllObey r [u] := by
  have hread : Issues (ofExcept (actionAddress action)) fun _ url => address? action = some url :=
    .ofExcept fun _ => address?_of_actionAddress hkind
  rw [linkAddress_eq]
  exact hread.bind fun _ url hurl => .pure (ht.setAttr (haction url hurl))

section

variable (hs : s.Permits r) (hactive : s.host.supportsInteractivity = true) {action : Node}
  (haction : ∀ v ∈ address? action, r.AllowsAddress s.host v)

include hs hactive haction

/-- Of what is done to the tags of actions, only where they lead needs to be allowed by itself. -/
theorem obeys_asAction (ht : AllObey r [t]) :
    Issues (asAction s action t) fun _ u => AllObey r [u] := by
  have hallow := hs.active hactive
  unfold asAction
  dsimp only
  refine transform_cases (P := fun treat => ∀ t, AllObey r [t] → Issues (treat t) fun _ u =>
    AllObey r [u]) hs.transformers action (fun hkind t ht => ?_) (fun _ t ht => ?_)
    (fun _ t ht => ?_) (fun _ t ht => .pure ht) _ ?_
  · exact obeys_linkAddress hkind (fun v hv => (haction v hv).action hactive) ht
  · rw [linkData_eq]
    exact .read fun text => .pure (ht.setAttr (hallow.attributes (by decide)))
  · exact issues_freshId.bind fun _ id _ => .pure (ht.setAttr (hallow.attributes (by decide)))
  · exact ht.addClass (hallow.classes _) |>.setAttr (hallow.attributes (by decide))
      |>.setAttr (hallow.attributes (by decide))

end

theorem obeys_button (hs : s.Permits r) (hactive : s.host.supportsInteractivity = true)
    (title : Value) : AllObey r [button s.host.actions title] := by
  have hr := hs.lenient
  have hshare : Css.IsClosed
      (if s.host.actions.alignment = .stretch then "0 1 100%" else "0 1 auto") := by
    split <;> decide
  exact (allObey_named "a").setText _ |>.setStyle (hr.styles (by decide))
    |>.setStyle (hr.styles (by decide)) |>.setStyle (hr.styles (by decide))
    |>.setStyle (hr.styles hshare) |>.addClass ((hs.active hactive).classes _)

theorem follows_renderAction (hs : s.Permits r) {action : Node}
    (haction : ∀ v ∈ address? action, r.AllowsAddress s.host v) :
    Follows r (renderAction s action) := by
  unfold renderAction
  split
  · next hactive =>
    exact (obeys_asAction hs hactive haction (obeys_button hs hactive _)).give fun _ t ht => ht
  · exact .pure allObey_nil

theorem obeys_selectable (hs : s.Permits r) {action : Option Action}
    (haction : ∀ a ∈ action, ∀ v ∈ address? (.action a), r.AllowsAddress s.host v)
    (ht : AllObey r [t]) : Issues (selectable s action t) fun _ u => AllObey r [u] := by
  unfold selectable
  split
  · split
    · next hactive =>
      exact obeys_asAction hs hactive (haction _ rfl)
        (ht.addClass ((hs.active hactive).classes _))
    · exact .pure ht
  · exact .pure ht

end

/-! ## Texts and facts -/

section

variable {r : Rules} {s : Scene} {t : Tag}

theorem AllObey.styleParagraph (hr : r.IsLenient) (ht : AllObey r [t]) (wrap : Bool) :
    AllObey r [styleParagraph wrap t] := by
  have hflat := ht.setStyle (p := .marginTop) (v := "0px") (hr.styles (by decide))
    |>.setStyle (p := .marginBottom) (v := "0px") (hr.styles (by decide))
    |>.setStyle (p := .width) (v := "100%") (hr.styles (by decide))
  unfold Render.styleParagraph
  dsimp only
  split
  · exact hflat
  · exact hflat.setStyle (hr.styles (by decide)) |>.setStyle (hr.styles (by decide))

theorem obeys_textFrame (hs : s.Suits r) (b : TextBlock) :
    Gives (textFrame s b) fun t => AllObey r [t] := by
  have hr := hs.lenient
  have hend {t : Tag} (ht : AllObey r [t]) : AllObey r
      [if b.wrap then t.setStyle .wordWrap "break-word" else t.setStyle .whiteSpace "nowrap"] := by
    split <;> exact ht.setStyle (hr.styles (by decide))
  unfold textFrame
  refine Gives.seq fun size => ?_
  have hframe := fun height => (allObey_named "div").addClass (c := kindClass "TextBlock")
      (hr.classes (by decide))
    |>.setStyle (p := .boxSizing) (v := "border-box") (hr.styles (by decide))
    |>.setStyle (p := .textAlign) (hr.styles (isClosed_alignment b.alignment))
    |>.setStyle (hs.text b.color b.isSubtle)
    |>.setStyle (p := .lineHeight) (hr.styles (isClosed_fractionalPixels height))
    |>.setStyle (p := .fontSize) (hr.styles (isClosed_pixels (s.host.fontSizes.size b.size)))
    |>.setStyle (p := .fontWeight) (hr.styles (isClosed_fontWeight b.weight))
  dsimp only
  split
  · exact .pure (hend (hframe _))
  · refine .seq fun lines => .pure (hend ?_)
    exact (hframe _).setStyle (hr.styles (isClosed_fractionalPixels _))
      |>.setStyle (hr.styles (by decide))

theorem obeys_textTag (hs : s.Suits r) (b : TextBlock) :
    Gives (textTag s b) fun t => AllObey r [t] := by
  unfold textTag
  refine (obeys_textFrame hs b).bind fun frame hframe => ?_
  refine (hs.convert _).bind fun content hcontent => .pure ?_
  obtain ⟨hself, hbelow⟩ := allObey_singleton.mp (hframe.appendAll hcontent)
  rw [editBelow_eq]
  exact allObey_singleton.mpr ⟨hself.of_eq rfl rfl rfl,
    hbelow.editEach fun t ht => ht.styleParagraph hs.lenient b.wrap⟩

variable (hr : r.IsLenient)

include hr

theorem obeys_factRow
    (h : ∀ layout text, Follows r (s.render (.element (.textBlock (factText layout text)))))
    (f : Fact) : Issues (factRow s f) fun _ t => AllObey r [t] := by
  unfold factRow
  refine (h _ _).bind fun _ title htitle => ?_
  refine (h _ _).give fun _ value hvalue => ?_
  have htitle' := htitle.map (f := fun t => t.addClass "ac-facttitle" |>.setStyle .marginRight
      (pixels s.host.factSet.spacing)) fun t ht =>
    (ht.addClass (hr.classes (by decide))).setStyle (hr.styles (isClosed_pixels _))
  have hvalue' := hvalue.map (f := (·.addClass "ac-factvalue")) fun t ht =>
    ht.addClass (hr.classes (by decide))
  have htitleCell := (allObey_named "h3").addClass (c := "ac-factset-titlecell")
      (hr.classes (by decide))
    |>.setStyle (p := .height) (v := "inherit") (hr.styles (by decide))
    |>.setStyle (p := .maxWidth) (hr.styles (isClosed_pixels s.host.factSet.title.maxWidth))
    |>.appendAll htitle'
  have hvalueCell := (allObey_named "span").addClass (c := "ac-factset-valuecell")
      (hr.classes (by decide))
    |>.setStyle (p := .height) (v := "inherit") (hr.styles (by decide)) |>.appendAll hvalue'
  exact (allObey_named "li").setStyle (hr.styles (by decide)) |>.append htitleCell
    |>.append hvalueCell

theorem follows_renderFactSet
    (h : ∀ layout text, Follows r (s.render (.element (.textBlock (factText layout text)))))
    (facts : FactSet) : Follows r (renderFactSet s facts) := by
  have hrows : Issues (facts.facts.mapM (factRow s)) fun _ => AllObey r :=
    Issues.mapM allObey_nil (fun _ _ _ _ ht hts => allObey_cons.mpr ⟨ht, hts⟩) _
      fun f _ => obeys_factRow hr h f
  exact hrows.give fun _ rows hrows => (allObey_named "ul").addClass (hr.classes (by decide))
    |>.setStyle (hr.styles (by decide)) |>.appendAll hrows

/-! ## Images -/

theorem obeys_picture {url : String} (hurl : r.attributes "src" url) (alt : Option String)
    (style : ImageStyle) : AllObey r [picture url alt style] := by
  have himage := (allObey_named "img").setStyle (p := .width) (v := "100%") (hr.styles (by decide))
    |>.setAttr (n := "alt") (v := (alt.filter (!·.isEmpty)).getD "card image")
      (hr.attributes (by decide)) |>.setAttr hurl
  unfold picture
  cases style with
  | default => exact himage
  | person =>
    exact himage.setStyle (hr.styles (by decide)) |>.setStyle (hr.styles (by decide))
      |>.setStyle (hr.styles (by decide))

/-- An image in its frame. -/
theorem obeys_framedPicture (alignment : Placement) (sizes : Host.ImageSizes) (size : ImageSize)
    {url : String} (hurl : r.attributes "src" url) (alt : Option String) (style : ImageStyle) :
    AllObey r [(placed alignment (sizedFor sizes size imageFrame)).append
      (picture url alt style)] := by
  have hframe : AllObey r [imageFrame] := (allObey_named "div").addClass (hr.classes (by decide))
    |>.setStyle (hr.styles (by decide)) |>.setStyle (hr.styles (by decide))
  have hsized : AllObey r [sizedFor sizes size imageFrame] := by
    cases size with
    | auto => exact hframe.setStyle (hr.styles (by decide))
    | stretch => exact hframe.setStyle (hr.styles (by decide))
    | _ => exact hframe.setStyle (hr.styles (isClosed_pixels _))
  have hplaced : AllObey r [placed alignment (sizedFor sizes size imageFrame)] := by
    have hhidden := hsized.setStyle (p := .overflow) (v := "hidden") (hr.styles (by decide))
    cases alignment with
    | center => exact hhidden.setStyle (hr.styles (by decide)) |>.setStyle (hr.styles (by decide))
    | right => exact hhidden.setStyle (hr.styles (by decide))
    | _ => exact hhidden
  exact hplaced.append (obeys_picture hr hurl alt style)

omit hr in
theorem follows_renderImage (hs : s.Permits r) {i : Image} (hurl : r.attributes "src" i.url)
    (haction : ∀ a ∈ i.selectAction, ∀ v ∈ address? (.action a), r.AllowsAddress s.host v) :
    Follows r (renderImage s i) :=
  (obeys_selectable hs haction (obeys_framedPicture hs.lenient _ _ _ hurl _ _)).give
    fun _ _ ht => ht

theorem follows_renderImageSet {images : ImageSet}
    (h : ∀ i ∈ images.images, Follows r (s.render (.element (.image (inSet images.imageSize i))))) :
    Follows r (renderImageSet s images) := by
  refine Issues.give (Q := fun _ (tags : List (Option Tag)) => AllObey r tags.reduceOption) ?_
    fun _ tags htags => (allObey_named "ul").addClass (hr.classes (by decide)) |>.appendAll htags
  refine Issues.mapM (Q := fun _ tag => AllObey r tag.toList) allObey_nil ?_ _ fun i hi => ?_
  · intro _ _ tag tags htag htags
    cases tag with
    | none => exact htags
    | some t => exact allObey_cons.mpr ⟨htag, htags⟩
  · exact (h i hi).give fun _ tag htag => htag.map fun t ht =>
      ht.setStyle (hr.styles (by decide)) |>.setStyle (hr.styles (by decide))

end

/-! ## Elements below each other -/

section

variable {r : Rules} {s : Scene} {t : Tag}

theorem AllObey.appendSeparated {u : Tag} {separator : Option Tag} (ht : AllObey r [t])
    (hseparator : AllObey r separator.toList) (hu : AllObey r [u]) :
    AllObey r [appendSeparated separator t u] := by
  unfold Render.appendSeparated
  dsimp only
  split
  · exact ht.append hu
  · exact (ht.appendAll hseparator).append hu

variable (hs : s.Suits r)

include hs

theorem obeys_separator (spacing : Spacing) (line : Bool) :
    AllObey r (separator? s.host spacing line).toList := by
  have hr := hs.lenient
  have hrule := (allObey_named "hr").addClass (c := "ac-separator") (hr.classes (by decide))
  unfold separator?
  dsimp only
  split
  · exact hrule.setStyle (hr.styles (isClosed_pixels _))
      |>.setStyle (hr.styles (isClosed_pixels _)) |>.setStyle (hs.line _)
      |>.setStyle (hr.styles (isClosed_pixels _)) |>.setStyle (hr.styles (by decide))
  · split
    · exact allObey_nil
    · exact hrule.setStyle (hr.styles (isClosed_pixels _))

theorem obeys_columnSeparator (frame : Frame) :
    AllObey r (columnSeparator? s.host frame).toList := by
  have hr := hs.lenient
  unfold columnSeparator?
  dsimp only
  split
  · exact allObey_nil
  · exact (allObey_named "div").addClass (hr.classes (by decide))
      |>.setStyle (hr.styles (by decide)) |>.setStyle (hr.styles (isClosed_pixels _))
      |>.setStyle (hr.styles (isClosed_pixels _)) |>.setStyle (hs.line _)
      |>.setStyle (hr.styles (isClosed_pixels _)) |>.setStyle (hr.styles (by decide))

theorem obeys_addElements {es : List Element} (h : ∀ e ∈ es, Follows r (s.render (.element e)))
    (ht : AllObey r [t]) : Issues (addElements s t es) fun _ u => AllObey r [u] := by
  induction es generalizing t with
  | nil => exact .pure ht
  | cons e es ih =>
    rw [List.forall_mem_cons] at h
    refine Issues.bind (Q := fun _ u => AllObey r [u]) ?_ fun _ u hu => ih h.2 hu
    refine h.1.bind fun _ tag htag => ?_
    cases tag with
    | none => exact .pure ht
    | some u => exact .pure (ht.appendSeparated (obeys_separator hs _ _) htag)

theorem obeys_addColumns {cs : List Column}
    (h : ∀ c ∈ cs, Follows r (s.render (.element (.column c)))) (total : Double)
    (ht : AllObey r [t]) : Issues (addColumns s total t cs) fun _ u => AllObey r [u] := by
  induction cs generalizing t with
  | nil => exact .pure ht
  | cons c cs ih =>
    rw [List.forall_mem_cons] at h
    refine Issues.bind (Q := fun _ u => AllObey r [u]) ?_ fun _ u hu => ih h.2 hu
    refine h.1.bind fun _ tag htag => ?_
    cases tag with
    | none => exact .pure ht
    | some u =>
      have hwidth : Issues (ofExcept (flex total c)) fun new width =>
          new = [] ∧ Css.IsClosed width :=
        .ofExcept fun width hwidth => ⟨rfl, isClosed_flex total c width hwidth⟩
      refine hwidth.give fun _ width hwidth => ?_
      exact ht.appendSeparated (obeys_columnSeparator hs _)
        (AllObey.setStyle htag (hs.lenient.styles hwidth.2))

end

section

variable {r : Rules} {s : Scene} {t : Tag}

theorem follows_renderStack (hs : s.Permits r) {kind : String}
    (hkind : kindClass kind ∉ activeClasses) {items : List Element}
    (h : ∀ e ∈ items, Follows r (s.render (.element e))) {action : Option Action}
    (haction : ∀ a ∈ action, ∀ v ∈ address? (.action a), r.AllowsAddress s.host v) :
    Follows r (renderStack s kind items action) := by
  have hstack : AllObey r [(Tag.named "div").addClass (kindClass kind)] :=
    (allObey_named "div").addClass (hs.lenient.classes hkind)
  refine (obeys_addElements hs.toSuits h hstack).bind fun _ t ht => ?_
  exact (obeys_selectable hs haction ht).give fun _ u hu => hu

theorem obeys_emptyRow (hr : r.IsLenient) : AllObey r [emptyRow] :=
  (allObey_named "div").addClass (hr.classes (by decide)) |>.setStyle (hr.styles (by decide))
    |>.setStyle (hr.styles (by decide))

theorem follows_renderColumnSet (hs : s.Permits r) {c : ColumnSet}
    (h : ∀ d ∈ c.columns, Follows r (s.render (.element (.column d))))
    (haction : ∀ a ∈ c.selectAction, ∀ v ∈ address? (.action a), r.AllowsAddress s.host v) :
    Follows r (renderColumnSet s c) := by
  refine (obeys_selectable hs haction (obeys_emptyRow hs.lenient)).bind fun _ row hrow => ?_
  exact (obeys_addColumns hs.toSuits h _ hrow).give fun _ u hu => hu

/-! ## Strips -/

/-- The bar and the cards of a strip obey. -/
structure Strip.Obeys (r : Rules) (strip : Strip) : Prop where
  bar : AllObey r [strip.bar]
  cards : AllObey r strip.cards

theorem obeys_emptyBar (hr : r.IsLenient) (hclass : r.classes "ac-actionset")
    (layout : Host.ActionLayout) : AllObey r [emptyBar layout] := by
  have hbar := (allObey_named "div").addClass hclass
    |>.setStyle (p := .display) (v := "flex") (hr.styles (by decide))
  have hjustification : Css.IsClosed (justification layout.alignment) := by
    cases layout.alignment <;> decide
  have halignment : Css.IsClosed (crossAlignment layout.alignment) := by
    cases layout.alignment <;> decide
  unfold emptyBar
  dsimp only
  split
  · exact hbar.setStyle (hr.styles (by decide)) |>.setStyle (hr.styles hjustification)
  · exact hbar.setStyle (hr.styles (by decide)) |>.setStyle (hr.styles halignment)

theorem obeys_appendButton (hr : r.IsLenient) (layout : Host.ActionLayout) {bar button : Tag}
    (hbar : AllObey r [bar]) (hbutton : AllObey r [button]) :
    AllObey r [appendButton layout bar button] := by
  have hgap : AllObey r [gap layout] := by
    unfold gap
    dsimp only
    split
    · exact (allObey_named "div").setStyle (hr.styles (by decide))
        |>.setStyle (hr.styles (isClosed_pixels _))
    · exact (allObey_named "div").setStyle (hr.styles (isClosed_pixels _))
  unfold appendButton
  dsimp only
  split
  · exact (hbar.append hgap).append hbutton
  · exact hbar.append hbutton

theorem obeys_shownCard (hr : r.IsLenient) (hclass : r.classes "ac-showCard")
    (layout : Host.ActionLayout) (button : Tag) (ht : AllObey r [t]) :
    AllObey r [shownCard layout button t] :=
  ht.setAttr (hr.attributes (by decide)) |>.addClass hclass |>.setStyle (hr.styles (by decide))
    |>.setStyle (hr.styles (by decide)) |>.setStyle (hr.styles (isClosed_pixels _))

theorem obeys_addActions (hr : r.IsLenient) (hclass : r.classes "ac-showCard") {as : List Action}
    (h : ∀ a ∈ as, Follows r (s.render (.action a)) ∧
      ∀ card, cardOf? a = some card → Follows r (s.render (.element (.card card))))
    {strip : Strip} (hstrip : strip.Obeys r) :
    Issues (addActions s strip as) fun _ => Strip.Obeys r := by
  induction as generalizing strip with
  | nil => exact .pure hstrip
  | cons a as ih =>
    rw [List.forall_mem_cons] at h
    refine Issues.bind (Q := fun _ => Strip.Obeys r) ?_ fun _ strip hstrip => ih h.2 hstrip
    refine h.1.1.bind fun _ button hbutton => ?_
    cases button with
    | none => exact .pure hstrip
    | some button =>
      have hbar := obeys_appendButton hr s.host.actions hstrip.bar hbutton
      have hadded {tag : Option Tag} (htag : AllObey r tag.toList) : Strip.Obeys r
          { bar := appendButton s.host.actions strip.bar button
            cards := strip.cards ++ (tag.map (shownCard s.host.actions button)).toList } :=
        ⟨hbar, allObey_append.mpr
          ⟨hstrip.cards, htag.map fun t ht => obeys_shownCard hr hclass _ _ ht⟩⟩
      dsimp only
      split
      · next card hcard => exact (h.1.2 card hcard).give fun _ tag htag => hadded htag
      · exact .pure (hadded allObey_nil)

theorem obeys_addStrip (hs : s.Permits r) {as : List Action}
    (h : ∀ a ∈ as, Follows r (s.render (.action a)) ∧
      ∀ card, cardOf? a = some card → Follows r (s.render (.element (.card card))))
    (ht : AllObey r [t]) : Issues (addStrip s t as) fun _ u => AllObey r [u] := by
  unfold addStrip
  split
  · next hactive =>
    have hclasses := (hs.active hactive).classes
    have hempty : Strip.Obeys r { bar := emptyBar s.host.actions, cards := [] } :=
      ⟨obeys_emptyBar hs.lenient (hclasses _) _, allObey_nil⟩
    refine (obeys_addActions hs.lenient (hclasses _)
      (fun a ha => h a (List.mem_of_mem_take ha)) hempty).give fun _ strip hstrip => ?_
    have hseparated := ht.appendAll (obeys_separator hs.toSuits s.host.actions.spacing false)
    unfold appendStrip
    dsimp only
    split
    · exact ht.appendAll hstrip.cards
    · exact (hseparated.append hstrip.bar).appendAll hstrip.cards
  · exact .pure ht

/-! ## Cards -/

theorem obeys_cardFrame (hs : s.Suits r) {image : Option String} (himage : r.AllowsImage image) :
    AllObey r [cardFrame s.host image] := by
  have hr := hs.lenient
  have hplain := (allObey_named "div").addClass (c := kindClass "AdaptiveCard")
      (hr.classes (by decide))
    |>.setStyle (p := .width) (v := "100%") (hr.styles (by decide))
    |>.setStyle hs.background
    |>.setStyle (p := .padding) (hr.styles (isClosed_pixels s.host.spacing.padding))
    |>.setStyle (p := .boxSizing) (v := "border-box") (hr.styles (by decide))
  have hpainted {t : Tag} (ht : AllObey r [t]) {url : String}
      (hurl : image.filter (!·.isEmpty) = some url) :
      AllObey r [t.setStyle .backgroundImage ("url('" ++ url ++ "')")
        |>.setStyle .backgroundRepeat "no-repeat" |>.setStyle .backgroundSize "cover"] :=
    ht.setStyle (himage url hurl) |>.setStyle (hr.styles (by decide))
      |>.setStyle (hr.styles (by decide))
  unfold cardFrame
  cases hfamily : s.host.fontFamily.filter (!·.isEmpty) with
  | none =>
    cases hurl : image.filter (!·.isEmpty) with
    | none => exact hplain
    | some url => exact hpainted hplain hurl
  | some family =>
    have hfont := hplain.setStyle (hs.family family (Option.mem_filter_iff.mp hfamily).1)
    cases hurl : image.filter (!·.isEmpty) with
    | none => exact hfont
    | some url => exact hpainted hfont hurl

theorem follows_renderCard (hs : s.Permits r) {c : Card} (himage : r.AllowsImage c.backgroundImage)
    (helements : ∀ e ∈ c.body, Follows r (s.render (.element e)))
    (hactions : ∀ a ∈ c.actions, Follows r (s.render (.action a)) ∧
      ∀ card, cardOf? a = some card → Follows r (s.render (.element (.card card)))) :
    Follows r (renderCard s c) := by
  refine (obeys_addElements hs.toSuits helements (obeys_cardFrame hs.toSuits himage)).bind
    fun _ t ht => ?_
  exact (obeys_addStrip hs hactions ht).give fun _ u hu => hu

end

end Placard.Render
