import Placard.Proofs.Document.Interruption
import Placard.Proofs.Render.RulesTree
import Placard.Proofs.Url.Scheme

/-!
# Where the addresses of a tree come from

The addresses in the tags of texts are safe, and renderers write two attributes with addresses
besides: the source of a picture, and where an action leads. So every address in the tree of a card is
safe or one of the addresses of the card, word for word, and an address in the tree that runs a
script is that of a picture or of an action (`render_scripts`). Neither is checked, so such an address
does reach the tree (`render_scripts_fails`).
-/

namespace Placard.Render

open Tag Data Document Number

/-! ## Known addresses -/

/-- The addresses of a node, of all nodes below it and of what they are selected by. -/
def addresses (n : Node) : List String :=
  n.nodes.flatMap ownAddresses

/-- An attribute holds no address, or a safe one, or a known one and not as a link. -/
def knownAddresses (known : List String) : Rules where
  attributes n v := n ∈ addressNames → Url.isSafe v.toList = true ∨ n ≠ "href" ∧ v ∈ known

/-- Texts have no actions, so their addresses are safe. -/
theorem known_of_isTextTag {known : List String} {t : Tag} (ht : Markdown.IsTextTag t) :
    ∀ a ∈ t.attributes, (knownAddresses known).attributes a.1 a.2 := by
  intro a ha hname
  have hcommon := ht.attributes a ha
  refine .inl (ht.addresses a ha ?_)
  simp only [addressNames, List.mem_cons, List.not_mem_nil, or_false] at hname
  rcases hname with hname | hname | hname
  · exact .inl hname
  · exact .inr hname
  · rw [hname] at hcommon
    exact absurd hcommon (by decide)

theorem permits_knownAddresses (known : List String) (host : Host.Config)
    (render : Node → Render (Option Tag)) :
    (({ host := host } : Session).stage.scene render).Permits (knownAddresses known) where
  lenient := ⟨fun _ => trivial, fun hname hmem => absurd (List.mem_append_right _ hmem) hname,
    fun _ => trivial⟩
  family _ _ := trivial
  background := trivial
  text _ _ := trivial
  line _ := trivial
  convert := obeys_convert host fun _ ht => known_of_isTextTag ht
  transformers := rfl
  active _ := ⟨fun _ => trivial, fun hname hmem => absurd hmem hname⟩

/-- Every address in the tree of a card is safe or one of the addresses of the card, word for word.
In a link of a text it is safe. -/
theorem known_of_render {host : Host.Config} {source : IdSource} {c : Card}
    {rendered : Rendered} (h : ({ host := host } : Session).render source (some c) = .ok rendered) :
    AllObey (knownAddresses (addresses (.element (.card c)))) [rendered.tag] := by
  -- what the tree knows is just what the card brings in
  refine allObey_of_render (permits_knownAddresses _ host _) (fun n hn => ⟨fun v hv => ?_, ?_⟩) h
  · have hknown : v ∈ addresses (.element (.card c)) := List.mem_flatMap.mpr ⟨n, hn, hv⟩
    exact ⟨fun _ => .inr ⟨by decide, hknown⟩, fun _ _ => .inr ⟨by decide, hknown⟩⟩
  · exact fun _ _ => trivial

/-! ## Scripts -/

/-- **Where scripts come from.** If an address in the tree of a card runs a script, it stands in a
picture or an action, never in a link of a text, and it is one of the addresses of the card's own
pictures and actions, word for word. So the tree of a card whose pictures and actions run no scripts
runs none. -/
theorem render_scripts (host : Host.Config) (source : IdSource) (c : Card) {rendered : Rendered}
    (h : ({ host := host } : Session).render source (some c) = .ok rendered) :
    ∀ t ∈ descendantsOf [rendered.tag], ∀ a ∈ t.attributes, a.1 ∈ ["href", "src", "data-ac-url"] →
      Url.runsScript a.2 = true → a.1 ≠ "href" ∧ a.2 ∈ addresses (.element (.card c)) := by
  intro t ht a ha hname hscript
  rcases (known_of_render h t ht).attributes a ha hname with hsafe | hown
  · rw [Url.isSafe_of_runsScript hscript] at hsafe
    cases hsafe
  · exact hown

/-- A card with a picture of this address. -/
def picturedCard (url : String) : Card where
  frame := {}
  version := some "1.0"
  body := [.image {
    frame := {}, url := url, altText := none, size := .auto, style := .default, alignment := .left
    selectAction := none }]
  actions := []
  fallbackText := none
  backgroundImage := none

/-- The address of a picture is in the tree of its card, whatever the address is. -/
theorem exists_render_picturedCard (url : String) : ∃ rendered,
    ({} : Session).render (listedIds []) (some (picturedCard url)) = .ok rendered ∧
    ∃ t ∈ descendantsOf [rendered.tag], ("src", url) ∈ t.attributes := by
  let host : Host.Config := {}
  let framed : Tag := (placed .left (sizedFor host.imageSizes .auto imageFrame)).append
    (picture url none .default)
  have hframed : framed ∈ descendantsOf [(cardFrame host none).append framed] :=
    children_subset_descendantsOf (mem_descendantsOf_self List.mem_cons_self) List.mem_cons_self
  refine ⟨{ tag := (cardFrame host none).append framed, warnings := [] }, rfl,
    picture url none .default, ?_, List.mem_cons_of_mem _ List.mem_cons_self⟩
  exact children_subset_descendantsOf hframed List.mem_cons_self

/-- Browsers skip the blank and the tab in this address, and the capital letters do not matter. -/
theorem render_scripts_hidden : ∃ rendered,
    ({} : Session).render (listedIds []) (some (picturedCard " Java\tScript:alert(1)")) =
      .ok rendered ∧
    ∃ t ∈ descendantsOf [rendered.tag], ("src", " Java\tScript:alert(1)") ∈ t.attributes ∧
      Url.runsScript " Java\tScript:alert(1)" = true ∧ "src" ≠ "href" ∧
      " Java\tScript:alert(1)" ∈
        addresses (.element (.card (picturedCard " Java\tScript:alert(1)"))) := by
  obtain ⟨rendered, hrender, t, ht, hsrc⟩ := exists_render_picturedCard " Java\tScript:alert(1)"
  have hscript : Url.runsScript " Java\tScript:alert(1)" = true := by cbv
  refine ⟨rendered, hrender, t, ht, hsrc, hscript, ?_⟩
  exact render_scripts {} (listedIds []) _ hrender t ht _ hsrc (by decide) hscript

/-- The text of a card with a picture whose address runs a script. -/
def scriptContent : String :=
  "\x7b\"type\": \"AdaptiveCard\", \"version\": \"1.0\", \"body\": [" ++
    "\x7b\"type\": \"Image\", \"url\": \"javascript:alert(1)\"\x7d]\x7d"

theorem parse_scriptContent :
    parse none scriptContent = .ok (.loaded (picturedCard "javascript:alert(1)") []) := by
  have hread : Json.read scriptContent = .ok (.ofMembers [("type", .text "AdaptiveCard"),
      ("version", .text "1.0"), ("body", .list [.ofMembers [("type", .text "Image"),
        ("url", .text "javascript:alert(1)")]])]) := by
    cbv
  exact parse_of_read (by cbv) (by cbv) hread

/-- **Pictures are not checked.** A card whose picture has a script for its address is loaded, and
the script is in its tree. -/
theorem render_scripts_fails :
    ¬ ∀ (content : String) (c : Card) (warnings : List Stranger) (source : IdSource)
        (rendered : Rendered), parse none content = .ok (.loaded c warnings) →
      ({} : Session).render source (some c) = .ok rendered →
      ∀ t ∈ descendantsOf [rendered.tag], ∀ a ∈ t.attributes,
        a.1 ∈ ["href", "src", "data-ac-url"] → Url.runsScript a.2 = false := by
  intro h
  obtain ⟨rendered, hrender, t, ht, hsrc⟩ := exists_render_picturedCard "javascript:alert(1)"
  have hsafe : Url.runsScript "javascript:alert(1)" = false :=
    h scriptContent _ _ _ rendered parse_scriptContent hrender t ht _ hsrc (by decide)
  have hscript : Url.runsScript "javascript:alert(1)" = true := by cbv
  exact Bool.false_ne_true (hsafe.symm.trans hscript)

end Placard.Render
