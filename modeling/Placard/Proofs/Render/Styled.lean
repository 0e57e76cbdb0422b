import Placard.Proofs.Render.RulesTree

/-!
# What a card can do to styles

Rules by which only closed values may stand in styles suit every host whose own values are closed, and
they admit a card as soon as every image behind a card stays in its quotes: no other text of a card
stands in a style. So the declarations of each tag are read back as they were written
(`render_styled`). An image with an apostrophe does not stay in its quotes, and can write
declarations of its own (`render_styled_fails`).
-/

namespace Placard.Render

open Tag Data Document Number Text

/-! ## Closed values -/

/-- A colour in CSS is closed if the colour of the host is. -/
theorem isClosed_cssColor {color : String} (h : Css.IsClosed color) :
    Css.IsClosed (Host.cssColor color) := by
  unfold Host.cssColor
  split
  · next alpha red green blue _ =>
    -- four numbers in parentheses
    have hnumbers : Css.IsPlain (intText red ++ [',', ' '] ++ intText green ++ [',', ' '] ++
        intText blue ++ [',', ' '] ++ Host.opacityText alpha) := by
      simp only [Css.isPlain_append]
      exact ⟨⟨⟨⟨⟨⟨intText_plain red, by decide⟩, intText_plain green⟩, by decide⟩,
        intText_plain blue⟩, by decide⟩, twoPlaces_plain _⟩
    unfold Css.IsClosed
    rw [String.toList_ofList, Css.through_append]
    simp only [List.append_assoc "rgba(".toList]
    rw [Css.through_append]
    change ((Css.through { depth := 1 } (_ ++ Host.opacityText alpha)).bind _) = _
    rw [Css.through_plain 1 hnumbers]
    rfl
  · exact h

/-- A host whose fonts and colours are closed values. -/
structure HasClosedValues (host : Host.Config) : Prop where
  family : ∀ family ∈ host.fontFamily, Css.IsClosed family
  background : Css.IsClosed host.containerStyles.default.backgroundColor
  text : ∀ color isSubtle, Css.IsClosed
    ((host.containerStyles.default.foregroundColors.pair color).shade isSubtle)
  line : Css.IsClosed host.separator.lineColor

/-- The values of the usual host are closed. -/
theorem hasClosedValues_default : HasClosedValues {} where
  family family hfamily := by
    obtain rfl := Option.mem_some_iff.mp hfamily
    decide
  background := by decide
  text color isSubtle := by cases color <;> cases isSubtle <;> decide
  line := by decide

/-- The image behind a card is closed in its quotes, if it shows. -/
def IsQuotedImage (image : Option String) : Prop :=
  ∀ url ∈ image.filter (!·.isEmpty), Css.IsClosed (Css.quotedUrl url)

/-- Only closed values may stand in styles. -/
def closedStyles : Rules where
  styles _ v := Css.IsClosed v

section

variable {host : Host.Config} (hhost : HasClosedValues host)

include hhost

/-- Neither texts nor actions have styles of their own. -/
theorem permits_closedStyles (render : Node → Render (Option Tag)) :
    (({ host := host } : Session).stage.scene render).Permits closedStyles where
  lenient := ⟨fun _ => trivial, fun _ => trivial, id⟩
  family := hhost.family
  background := isClosed_cssColor hhost.background
  text color isSubtle := isClosed_cssColor (hhost.text color isSubtle)
  line _ := isClosed_cssColor hhost.line
  convert := obeys_convert host fun _ _ _ _ => trivial
  transformers := rfl
  active _ := ⟨fun _ => trivial, fun _ => trivial⟩

/-- All tags of a card have closed styles, each once, for every host whose own values are closed. -/
theorem closed_of_render {source : IdSource} {c : Card}
    (hc : ∀ n ∈ (Node.element (.card c)).nodes, IsQuotedImage (background? n))
    {rendered : Rendered} (h : ({ host := host } : Session).render source (some c) = .ok rendered) :
    AllObey closedStyles [rendered.tag] :=
  allObey_of_render (permits_closedStyles hhost _)
    (fun n hn => ⟨fun _ _ => ⟨trivial, fun _ => trivial⟩, hc n hn⟩) h

end

/-! ## The declarations of a card -/

/-- **Declarations are read back.** If every image behind a card stays in its quotes, the style of
each tag of the rendered tree, read as CSS, sets the properties that the tag has, in order and each
once: no other text of the card can add, remove or end a declaration. -/
theorem render_styled (source : IdSource) {c : Card}
    (hc : ∀ n ∈ (Node.element (.card c)).nodes, IsQuotedImage (background? n))
    {rendered : Rendered} (h : ({} : Session).render source (some c) = .ok rendered) :
    ∀ t ∈ descendantsOf [rendered.tag],
      Css.names (Html.declarations t.styles) = t.styles.map (·.1.name) ∧
        (t.styles.map (·.1)).Nodup := by
  intro t ht
  have hclosed := closed_of_render hasClosedValues_default hc h t ht
  exact ⟨Css.names_declarations hclosed.styles, hclosed.distinct⟩

/-- A card with an image behind it, and with another image and an action that look like styles. -/
def paintedCard (image : String) : Card where
  frame := {}
  version := some "1.0"
  body := [.image {
    frame := {}, url := "'); color: red", altText := some "\"; color: red", size := .auto
    style := .default, alignment := .left, selectAction := none }]
  actions := [.submit {} (some "'; color: red") .null]
  fallbackText := none
  backgroundImage := some image

/-- An address with semicolons and parentheses stays in its quotes, and no other text matters. -/
theorem render_styled_painted :
    (∀ n ∈ (Node.element (.card (paintedCard "a(b);c.png"))).nodes,
      IsQuotedImage (background? n)) ∧
    ∃ rendered, ({} : Session).render (listedIds ["a"]) (some (paintedCard "a(b);c.png")) =
        .ok rendered ∧
      Css.names (Html.declarations rendered.tag.styles) = ["width", "background-color", "padding",
        "box-sizing", "font-family", "background-image", "background-repeat", "background-size"] ∧
      ∀ t ∈ descendantsOf [rendered.tag],
        Css.names (Html.declarations t.styles) = t.styles.map (·.1.name) ∧
          (t.styles.map (·.1)).Nodup := by
  have hquoted : ∀ n ∈ (Node.element (.card (paintedCard "a(b);c.png"))).nodes,
      IsQuotedImage (background? n) := by
    have himage : IsQuotedImage (some "a(b);c.png") := by
      intro url hurl
      obtain rfl := Option.some.inj hurl
      exact Css.isClosed_quotedUrl (by decide)
    have hnone : IsQuotedImage none := fun url hurl => by cases hurl
    simp only [Node.nodes_eq, Node.parts, paintedCard, List.map_cons, List.map_nil,
      List.flatMap_cons, List.flatMap_nil, List.append_nil, List.cons_append, List.nil_append,
      List.forall_mem_cons]
    exact ⟨himage, hnone, hnone, fun _ h => absurd h List.not_mem_nil⟩
  have hstyled := render_styled (listedIds ["a"]) hquoted rfl
  exact ⟨hquoted, _, rfl, (hstyled _ (mem_descendantsOf_self List.mem_cons_self)).1, hstyled⟩

/-- **An image can write declarations.** The apostrophe in this address ends its quotes, and the
card gets a colour that no renderer gave it. -/
theorem render_styled_fails :
    ¬ ∀ (source : IdSource) (c : Card) (rendered : Rendered),
      ({} : Session).render source (some c) = .ok rendered →
        ∀ t ∈ descendantsOf [rendered.tag],
          Css.names (Html.declarations t.styles) = t.styles.map (·.1.name) ∧
            (t.styles.map (·.1)).Nodup := by
  intro h
  have hnames := (h (listedIds ["a"]) (paintedCard "a.png'); color: red; height: url('b.png") _ rfl
    _ (mem_descendantsOf_self List.mem_cons_self)).1
  -- the styles before the image are closed, so they are read back
  have hnone : IsQuotedImage none := fun url hurl => by cases hurl
  have hpermits := permits_closedStyles hasClosedValues_default ({} : Session).stage.render
  have hframe := obeys_cardFrame hpermits.toSuits hnone
  have hread := Css.names_declarations_append (allObey_singleton.mp hframe).1.styles
    [(.backgroundImage, Css.quotedUrl "a.png'); color: red; height: url('b.png"),
      (.backgroundRepeat, "no-repeat"), (.backgroundSize, "cover")]
  have himage : "color" ∈ Css.names (Html.declarations
      [(.backgroundImage, Css.quotedUrl "a.png'); color: red; height: url('b.png"),
        (.backgroundRepeat, "no-repeat"), (.backgroundSize, "cover")]) := by
    decide +kernel
  have hwritten : "color" ∈ ["width", "background-color", "padding", "box-sizing", "font-family",
      "background-image", "background-repeat", "background-size"] :=
    (congrArg ("color" ∈ ·) (hread.symm.trans hnames)).mp (List.mem_append_right _ himage)
  exact absurd hwritten (by decide)

end Placard.Render
