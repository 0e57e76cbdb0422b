import Placard.Proofs.Render.Passive
import Placard.Proofs.Render.RulesTree

/-!
# Where nothing can be activated

A tag is still if it has no class and no attribute that says that something can be activated. All
tags of a card are still for a host without interactivity, for which no action is rendered.
-/

namespace Placard.Render

open Tag Data Document

/-! ## Still tags -/

/-- A tag that does not say that anything can be activated. -/
structure IsStill (t : Tag) : Prop where
  classes : ∀ c ∈ activeClasses, c ∉ t.classes
  attributes : ∀ name ∈ activeAttributes, t.attr? name = none

/-- Nothing may stand in tags that says that something can be activated. -/
def stillness : Rules where
  classes c := c ∉ activeClasses
  attributes n _ := n ∉ activeAttributes

theorem IsStill.of_obeys {t : Tag} (h : Obeys stillness t) : IsStill t where
  classes c hc hmem := h.classes c hmem hc
  attributes _ hname := valueAt_eq_none fun a ha heq => h.attributes a ha (heq ▸ hname)

/-- Neither texts nor elements say by themselves that they can be activated. -/
theorem suits_stillness (host : Host.Config) (render : Node → Render (Option Tag)) :
    (({ host := host } : Session).stage.scene render).Suits stillness where
  lenient := ⟨id, fun hname hmem => hname (List.mem_append_left _ hmem), fun _ => trivial⟩
  family _ _ := trivial
  background := trivial
  text _ _ := trivial
  line _ := trivial
  convert := by
    have hcommon : ∀ n ∈ Markdown.commonAttributes, n ∉ activeAttributes := by decide
    exact obeys_convert host fun _ ht a ha => hcommon a.1 (ht.attributes a ha)

section

variable {host : Host.Config} (hoff : host.supportsInteractivity = false)

include hoff

theorem still_of_render {source : IdSource} {c : Card} {rendered : Rendered}
    (h : ({ host := host } : Session).render source (some c) = .ok rendered) :
    AllObey stillness [rendered.tag] := by
  have hinactive : host.supportsInteractivity ≠ true := by
    rw [hoff]
    exact Bool.false_ne_true
  have hsrc : "src" ∉ activeAttributes := by decide
  refine allObey_of_render (r := stillness) ?_ (fun n _ => ⟨fun v _ => ?_, fun _ _ => trivial⟩) h
  · exact { suits_stillness host _ with
      transformers := rfl
      active := fun hactive => absurd hactive hinactive }
  · exact ⟨hsrc, fun hactive => absurd hactive hinactive⟩

/-- **Hosts without interactivity.** A card is rendered as the card without any actions: to the same
tree with the same warnings, or with the same fault, and with the same ids issued. No tag of the
tree says that anything can be activated. -/
theorem render_passive (source : IdSource) (c : Card) :
    ({ host := host } : Session).render source (some c) =
        ({ host := host } : Session).render source (some c.passive) ∧
      ({ host := host } : Session).issuedIds source c =
        ({ host := host } : Session).issuedIds source c.passive ∧
      ∀ rendered, ({ host := host } : Session).render source (some c) = .ok rendered →
        ∀ t ∈ descendantsOf [rendered.tag], IsStill t := by
  have hstandard : ({ host := host } : Session).stage.renderers = standardRenderers := rfl
  have hpass := cardPass_passive hstandard rfl hoff c
  refine ⟨?_, ?_, fun rendered hrendered => ?_⟩
  · unfold Session.render
    dsimp only
    rw [hpass, Card.passive_fallbackText]
  · unfold Session.issuedIds
    rw [hpass]
  · exact fun t ht => .of_obeys (still_of_render hoff hrendered t ht)

end

/-- A card with an action, and with an image and a container around it that can be selected. -/
def selectableCard : Card where
  frame := {}
  version := some "1.0"
  body := [.container {
    frame := {}
    items := [.image {
      frame := {}, url := "cat.png", altText := none, size := .auto, style := .default
      alignment := .left, selectAction := some (.showCard {} none none) }]
    selectAction := some (.submit {} none (.text "pet")) }]
  actions := [.submit {} (some "Feed") (.text "fish")]
  fallbackText := none
  backgroundImage := none

/-- Without interactivity a picture of a cat is just that. -/
theorem render_passive_selectable :
    let session : Session := { host := { supportsInteractivity := false } }
    session.host.supportsInteractivity = false ∧
    session.render (listedIds ["a"]) (some selectableCard) =
      session.render (listedIds ["a"]) (some selectableCard.passive) ∧
    session.issuedIds (listedIds ["a"]) selectableCard = [] ∧
    ∃ rendered, session.render (listedIds ["a"]) (some selectableCard) = .ok rendered ∧
      (rendered.tag.findAll (some "img") none).length = 1 ∧
      ∀ t ∈ descendantsOf [rendered.tag], IsStill t := by
  have hoff : ({ supportsInteractivity := false } : Host.Config).supportsInteractivity = false :=
    rfl
  obtain ⟨hrender, -, hstill⟩ := render_passive hoff (listedIds ["a"]) selectableCard
  exact ⟨rfl, hrender, rfl, _, rfl, rfl, hstill _ rfl⟩

end Placard.Render
