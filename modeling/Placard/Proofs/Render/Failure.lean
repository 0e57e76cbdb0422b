import Mathlib
import Placard.Proofs.Render.Success
import Placard.Proofs.Render.WiredTree

/-!
# When rendering fails

A card that was loaded from JSON is rendered unless it has one of three kinds of nodes: a node of a
kind of the other family, a row with a column of negative width, or a text with a limit that is no
double. This needs the sizes of fonts to be doubles, and ids that are never repeated. By induction
on heights, every node without such nodes is rendered (`succeeds_render`).
-/

namespace Placard.Render

open Document Number

/-! ## Nodes that may fail -/

/-- Whether a node is of a kind of the other family: an action among elements, or an element among
actions. -/
def isMisplaced : Node → Bool
  | .element (.unknown u) => actionKinds.contains u.kind
  | .action (.unknown u) => elementKinds.contains u.kind
  | _ => false

/-- Whether a node is a row with a column of negative width. -/
def hasNegativeWidth : Node → Bool
  | .element (.columnSet s) => s.columns.any isNegative
  | _ => false

/-- Whether a node is a text with a limit that is too large for a double. -/
def hasHugeLimit : Node → Bool
  | .element (.textBlock t) => !(Double.ofInt t.maxLines).isFinite
  | _ => false

/-- Whether rendering a node may fail. -/
def mayFail (n : Node) : Bool :=
  isMisplaced n || hasNegativeWidth n || hasHugeLimit n

/-- Whether a node is loaded and no node at or below it may fail. -/
structure IsSafe (n : Node) : Prop where
  loaded : n.AreLoaded
  safe : ∀ m ∈ n.nodes, mayFail m = false

namespace IsSafe

variable {n m : Node}

theorem part (h : IsSafe n) (hm : m ∈ n.parts) : IsSafe m where
  loaded := (Node.areLoaded_iff.mp h.loaded).2 m hm
  safe k hk := h.safe k (Node.nodes_subset_of_mem_parts hm hk)

theorem self (h : IsSafe n) : mayFail n = false :=
  h.safe n (Node.mem_nodes_self n)

theorem selection (h : IsSafe n) : ∀ a ∈ n.selection?, (Node.action a).IsLoaded :=
  (Node.areLoaded_iff.mp h.loaded).1.2

/-- A node without parts is safe if it is loaded and does not fail itself. -/
theorem of_no_parts (hloaded : n.AreLoaded) (hparts : n.parts = []) (h : mayFail n = false) :
    IsSafe n := by
  refine ⟨hloaded, ?_⟩
  rw [Node.nodes_eq, hparts]
  exact List.forall_mem_singleton.mpr h

/-- A safe node that has a renderer is of a known kind. -/
theorem not_unknown (h : IsSafe n) (hkind : n.kind ∈ renderedKinds) : n.isUnknown = false := by
  have hkinds : ∀ kind ∈ renderedKinds, kind ∈ elementKinds ∨ kind ∈ actionKinds := by decide
  have hself := h.self
  have hloaded := h.loaded.self
  unfold mayFail isMisplaced at hself
  cases n with
  | element e =>
    cases e with
    | unknown u =>
      simp only [Bool.or_eq_false_iff, List.contains_eq_mem, decide_eq_false_iff_not] at hself
      rcases hkinds _ hkind with hkind | hkind
      · exact absurd hkind hloaded
      · exact absurd hkind hself.1.1
    | _ => rfl
  | action a =>
    cases a with
    | unknown u =>
      simp only [Bool.or_eq_false_iff, List.contains_eq_mem, decide_eq_false_iff_not] at hself
      rcases hkinds _ hkind with hkind | hkind
      · exact absurd hkind hself.1.1
      · exact absurd hkind hloaded
    | _ => rfl

end IsSafe

/-! ## Safe nodes are rendered -/

section

variable {s : Scene}

/-- A card is rendered, and it shows. -/
theorem succeeds_renderCard {c : Card} (hn : IsSafe (.element (.card c)))
    (h : ∀ m, m.height < (Node.element (.card c)).height → IsSafe m → Succeeds (s.render m)) :
    ∃ m, Succeeds m ∧ renderCard s c = some <$> m := by
  have hlower {m : Node} (hm : m ∈ (Node.element (.card c)).parts) : Succeeds (s.render m) :=
    h m (Node.lt_of_mem_parts hm) (hn.part hm)
  refine ⟨addElements s (cardFrame s.host c.backgroundImage) c.body >>= fun tag =>
    addStrip s tag c.actions, ?_, ?_⟩
  · refine Succeeds.bind (succeeds_addElements (fun e he => ?_) _) fun tag => ?_
    · exact hlower (List.mem_append_left _ (List.mem_map_of_mem he))
    · unfold addStrip
      split
      · refine Succeeds.bind (succeeds_addActions (fun a ha => ?_) _) fun strip => .pure _
        have hpart : Node.action a ∈ (Node.element (.card c)).parts :=
          List.mem_append_right _ (List.mem_map_of_mem (List.mem_of_mem_take ha))
        exact ⟨hlower hpart, fun card hcard => h _ (lt_of_cardOf hpart hcard)
          ((hn.part hpart).part (mem_parts_of_cardOf hcard))⟩
      · exact .pure tag
  · unfold renderCard
    rw [map_eq_pure_bind, bind_assoc]

/-- An image of a set is as safe as the image itself. -/
theorem IsSafe.inSet {i : Image} (h : IsSafe (.element (.image i))) (size : ImageSize) :
    IsSafe (.element (.image (inSet size i))) := by
  have hselection : (Node.element (.image (Render.inSet size i))).selection? = i.selectAction := by
    unfold Render.inSet
    split <;> rfl
  refine .of_no_parts (Node.areLoaded_iff.mpr ⟨⟨trivial, ?_⟩, ?_⟩) rfl rfl
  · rw [hselection]
    exact h.selection
  · exact fun _ hm => absurd hm List.not_mem_nil

/-- **One node.** A safe node is rendered if all lower safe nodes are. -/
theorem succeeds_renderNode (hs : s.IsReliable) {n : Node} (hn : IsSafe n)
    (hknown : n.isUnknown = false)
    (h : ∀ m, m.height < n.height → IsSafe m → Succeeds (s.render m)) :
    Succeeds (renderNode s n) := by
  have hlower {m : Node} (hm : m ∈ n.parts) : Succeeds (s.render m) :=
    h m (Node.lt_of_mem_parts hm) (hn.part hm)
  -- lower nodes are rendered by `h`, so only what the node does by itself could fail
  cases n with
  | element e =>
    cases e with
    | card c =>
      obtain ⟨m, hm, heq⟩ := succeeds_renderCard hn h
      change Succeeds (renderCard s c)
      rw [heq]
      exact hm.map some
    | container c =>
      refine (succeeds_addElements (fun e he => hlower (List.mem_map_of_mem he)) _).bind
        fun tag => ?_
      exact (succeeds_selectable hs hn.selection tag).bind fun _ => .pure _
    | column c =>
      refine (succeeds_addElements (fun e he => hlower (List.mem_map_of_mem he)) _).bind
        fun tag => ?_
      exact (succeeds_selectable hs hn.selection tag).bind fun _ => .pure _
    | columnSet c =>
      have hnegative : ∀ d ∈ c.columns, isNegative d = false := by
        simpa [mayFail, isMisplaced, hasNegativeWidth, hasHugeLimit] using hn.self
      refine (succeeds_selectable hs hn.selection _).bind fun row => ?_
      refine Succeeds.bind (succeeds_addColumns (fun d hd => ⟨?_, ?_⟩) row) fun _ => .pure _
      · exact hlower (List.mem_map_of_mem hd)
      · exact flex_ok hnegative hd
    | factSet f =>
      refine Succeeds.bind (.mapM fun fact _ => ?_) fun rows => .pure _
      exact succeeds_factRow (fun layout text => h _ (factText_lt layout text f)
        (.of_no_parts (areLoaded_of_no_parts trivial rfl rfl) rfl rfl)) fact
    | image i =>
      exact (succeeds_selectable hs hn.selection _).bind fun _ => .pure _
    | imageSet i =>
      refine Succeeds.bind (.mapM fun image himage => ?_) fun tags => .pure _
      have hpart : Node.element (.image image) ∈ (Node.element (.imageSet i)).parts :=
        List.mem_map_of_mem (f := fun i => Node.element (.image i)) himage
      exact (h _ (inSet_lt himage _) ((hn.part hpart).inSet _)).bind fun _ => .pure _
    | textBlock t =>
      have hlimit : (Double.ofInt t.maxLines).isFinite := by
        simpa [mayFail, isMisplaced, hasNegativeWidth, hasHugeLimit] using hn.self
      exact (succeeds_textTag hs hlimit).map some
    | choiceSet c => exact succeeds_renderChoiceSet c
    | toggle t => exact Succeeds.freshId.bind fun _ => .pure _
    | unknown u => cases hknown
    | _ => exact .pure _
  | action a =>
    have hbutton := succeeds_renderAction hs hn.loaded.self
    cases a with
    | unknown u => cases hknown
    | _ => exact hbutton

end

section

variable {stage : Stage} (hstage : stage.renderers = standardRenderers)
  (htransformers : stage.transformers = standardTransformers)
  (hs : (stage.scene stage.render).IsReliable)

include hstage htransformers hs

/-- **Safe nodes are rendered.** By induction on their heights. -/
theorem succeeds_render (n : Node) (hn : IsSafe n) : Succeeds (stage.render n) := by
  induction n using Node.heightInduction with
  | step n ih =>
    rw [render_eq hstage htransformers]
    split
    · next hkind => exact succeeds_renderNode hs hn (hn.not_unknown hkind) ih
    · exact (Succeeds.warn _).bind fun _ => .pure none

theorem succeeds_cardPass {c : Card} (hn : IsSafe (.element (.card c))) :
    Succeeds (cardPass stage c) := by
  obtain ⟨m, hm, heq⟩ := succeeds_renderCard (s := stage.scene stage.render) hn
    fun n _ hn => succeeds_render hstage htransformers hs n hn
  have hrender : stage.render (.element (.card c)) = some <$> m := by
    rw [render_eq hstage htransformers, if_pos (kind_mem_renderedKinds rfl)]
    exact heq
  have hannounce : Succeeds (announce c.version) := by
    unfold announce
    split
    · exact .warn _
    · exact .pure _
  rw [cardPass_eq, hrender, map_eq_pure_bind, bind_assoc]
  exact hannounce.bind fun _ => hm.bind fun tag => .pure tag

end

/-! ## Cards -/

theorem isReliable_stage {host : Host.Config}
    (hsizes : ∀ size, |host.fontSizes.size size| < 10 ^ 300) (render : Node → Render (Option Tag)) :
    (({ host := host } : Session).stage.scene render).IsReliable where
  sizes size := by
    have hpow : (10 : Int) ^ 300 ≤ 2 ^ 1000 := by decide +kernel
    exact Double.isFinite_ofInt ((hsizes size).le.trans hpow)
  convert text := by
    obtain ⟨tags, htags, -⟩ := convert_stage host text
    exact ⟨tags, htags⟩
  transformers := rfl

/-- A card of safe nodes is rendered. -/
theorem render_ok {host : Host.Config} (hsizes : ∀ size, |host.fontSizes.size size| < 10 ^ 300)
    {source : IdSource} (hsource : Function.Injective source) {c : Card}
    (hn : IsSafe (.element (.card c))) :
    ∃ rendered, ({ host := host } : Session).render source (some c) = .ok rendered := by
  have hstandard : ({ host := host } : Session).stage.renderers = standardRenderers := rfl
  have hpass := succeeds_cardPass hstandard rfl (isReliable_stage hsizes _) hn
  obtain ⟨tag, pass, hrun, -⟩ := hpass source hsource {} fun id hid => absurd hid List.not_mem_nil
  refine ⟨{ tag, warnings := pass.warnings }, ?_⟩
  unfold Session.render
  dsimp only
  rw [hrun]

/-- A card with one text, as a text. -/
def plainContent : String :=
  "\x7b\"type\": \"AdaptiveCard\", \"version\": \"1.0\", \"body\": [\x7b\"type\": " ++
    "\"TextBlock\", \"text\": \"Hello\"\x7d]\x7d"

/-- The card. -/
def plainCard : Card where
  frame := {}
  version := some "1.0"
  body := [.textBlock { text := "Hello" }]
  actions := []
  fallbackText := none
  backgroundImage := none

/-- Ids of growing length. -/
def growingIds : IdSource := fun place =>
  String.ofList (List.replicate place 'x')

theorem growingIds_injective : Function.Injective growingIds := by
  intro i j h
  have hchars := congrArg (fun s : String => s.toList.length) h
  simpa [growingIds] using hchars

theorem parse_plainContent : parse none plainContent = .ok (.loaded plainCard []) := by
  have hread : Json.read plainContent = .ok (.map [(.text "type", .text "AdaptiveCard"),
      (.text "version", .text "1.0"), (.text "body", .list [.map [(.text "type", .text "TextBlock"),
        (.text "text", .text "Hello")]])]) := by
    cbv
  have hblank : Text.allBlank plainContent.toList = false := by cbv
  have hformat : Format.detect plainContent = .json := by cbv
  unfold parse
  rw [hblank, if_neg (by decide)]
  change parseAs (Format.detect plainContent) plainContent = _
  rw [hformat]
  unfold parseAs loadData
  dsimp only
  rw [hread]
  rfl

/-- A text whose size is no double is not rendered. -/
theorem renderNode_of_hugeFont {s : Scene} {t : TextBlock}
    (h : (Double.ofInt (s.host.fontSizes.size t.size)).isFinite = false) (source : IdSource)
    (p : Pass) : renderNode s (.element (.textBlock t)) source p = (.error .hugeInteger, p) := by
  have htag : textTag s t = .error .hugeInteger := by
    have hsize : toDouble (s.host.fontSizes.size t.size) = .error .hugeInteger := by
      unfold toDouble
      rw [h, if_neg Bool.false_ne_true]
    unfold textTag textFrame
    dsimp only
    rw [hsize]
    rfl
  have hstep : ofExcept (textTag s t) source p = (.error .hugeInteger, p) := by
    rw [htag]
    rfl
  exact run_bind_error hstep

/-- A card is not rendered if its first element is a text whose size is no double. -/
theorem render_of_hugeFont {host : Host.Config} {c : Card} {t : TextBlock} {es : List Element}
    (hbody : c.body = .textBlock t :: es) (hversion : versionWarning? c.version = none)
    (h : (Double.ofInt (host.fontSizes.size t.size)).isFinite = false) (source : IdSource) :
    ({ host := host } : Session).render source (some c) =
      .error (.failed .hugeInteger c.fallbackText) := by
  let stage := ({ host := host } : Session).stage
  have htext : stage.render (.element (.textBlock t)) source {} = (.error .hugeInteger, {}) := by
    rw [render_eq rfl rfl, if_pos (kind_mem_renderedKinds rfl)]
    exact renderNode_of_hugeFont h source {}
  have hcard : stage.render (.element (.card c)) source {} = (.error .hugeInteger, {}) := by
    rw [render_eq rfl rfl, if_pos (kind_mem_renderedKinds rfl)]
    change renderCard _ c source {} = _
    unfold renderCard
    rw [hbody, addElements]
    exact run_bind_error (run_bind_error (run_bind_error htext))
  have hpass : cardPass stage c source {} = (.error .hugeInteger, {}) := by
    unfold cardPass
    rw [hversion]
    exact run_bind_error hcard
  unfold Session.render
  dsimp only
  rw [hpass]

/-- A host whose usual font size is far below zero. -/
def hugeFontHost : Host.Config :=
  { fontSizes := { default := -(10 ^ 309) } }

end Placard.Render
