import Mathlib.Data.List.Perm.Basic
import Placard.Proofs.Render.Failure
import Placard.Proofs.Tag.Tree
import Placard.Proofs.Text.Blank

/-!
# Preselected choices

The value of a choice set lists tokens with commas between them (`Lists`): in any order, with any
blanks around them, and with blank parts between them. Taking such a list apart finds the tokens
(`mem_chosenValues`), so the controls of exactly the choices with these values are marked. A menu
compares its value as a whole instead, and that comes to the same if the value is a single token.
-/

namespace Placard.Text

/-! ## Lists of tokens -/

/-- Whether a text can be listed: it has no comma, and there is no blank at either of its ends. -/
structure IsToken (token : List Char) : Prop where
  ne_nil : token ≠ []
  no_comma : ',' ∉ token
  head : ∀ c ∈ token.head?, isBlank c = false
  last : ∀ c ∈ token.getLast?, isBlank c = false

/-- The parts of a list of tokens: the tokens with blanks around them, and blank parts. -/
inductive AreParts : List (List Char) → List (List Char) → Prop
  | nil : AreParts [] []
  | blank {blanks : List Char} {tokens parts : List (List Char)} :
    (∀ c ∈ blanks, isBlank c = true) → AreParts tokens parts → AreParts tokens (blanks :: parts)
  | token {before token after : List Char} {tokens parts : List (List Char)} :
    (∀ c ∈ before, isBlank c = true) → IsToken token → (∀ c ∈ after, isBlank c = true) →
    AreParts tokens parts → AreParts (token :: tokens) ((before ++ token ++ after) :: parts)

/-- Whether a text lists tokens, in any order, with commas between them. -/
def Lists (value : String) (tokens : List String) : Prop :=
  ∃ order parts, order.Perm (tokens.map String.toList) ∧ AreParts order parts ∧
    value.toList = joinWith [','] parts

theorem comma_not_mem_of_blank {blanks : List Char} (h : ∀ c ∈ blanks, isBlank c = true) :
    ',' ∉ blanks :=
  fun hmem => absurd (h _ hmem) (by decide)

theorem AreParts.no_comma {tokens parts : List (List Char)} (h : AreParts tokens parts) :
    ∀ part ∈ parts, ',' ∉ part := by
  induction h with
  | nil => exact fun _ h => nomatch h
  | blank hblanks _ ih => exact List.forall_mem_cons.mpr ⟨comma_not_mem_of_blank hblanks, ih⟩
  | token hbefore htoken hafter _ ih =>
    refine List.forall_mem_cons.mpr ⟨?_, ih⟩
    simp [comma_not_mem_of_blank hbefore, htoken.no_comma, comma_not_mem_of_blank hafter]

/-- What is left of the parts, trimmed, are the tokens. -/
theorem AreParts.filter_trim {tokens parts : List (List Char)} (h : AreParts tokens parts) :
    (parts.map trim).filter (!·.isEmpty) = tokens := by
  induction h with
  | nil => rfl
  | blank hblanks _ ih =>
    rw [List.map_cons, trim, trimBy_of_forall hblanks, List.filter_cons_of_neg (by decide), ih]
  | token hbefore htoken hafter _ ih =>
    have htrim := trimBy_padded hbefore hafter htoken.ne_nil htoken.head htoken.last
    rw [List.map_cons, trim, htrim, List.filter_cons_of_pos (by simpa using htoken.ne_nil), ih]

end Placard.Text

namespace Placard.Render

open Placard.Text Placard.Document

/-- **Taking a list apart.** The values chosen by a list of tokens are the tokens. -/
theorem chosenValues_perm {value : String} {tokens : List String} (h : Lists value tokens) :
    (chosenValues (some value)).Perm tokens := by
  obtain ⟨order, parts, horder, hparts, hvalue⟩ := h
  have hfound : ((cutAt ',' value.toList).map trim).filter (!·.isEmpty) = order := by
    rw [hvalue]
    cases parts with
    | nil =>
      cases hparts
      rfl
    | cons part parts =>
      rw [cutAt_joinWith (List.cons_ne_nil _ _) hparts.no_comma, hparts.filter_trim]
  have hperm := horder.map String.ofList
  unfold chosenValues
  rw [Option.getD_some, hfound]
  simpa using hperm

/-! ## Controls -/

/-- The controls among tags and below them: the value of each, and whether it carries a mark. -/
def marksOf (control mark : String) (ts : List Tag) : List (Option String × Bool) :=
  ((Tag.descendantsOf ts).filter (·.name == control)).map fun t =>
    (t.attr? "value", (t.attr? mark).isSome)

/-- Whether tags have one control a choice, in the order of the choices: each carries the value of
its choice, and the mark exactly if the value is chosen. -/
def Offer (control mark : String) (choices : List Choice) (chosen : List String) (ts : List Tag) :
    Prop :=
  marksOf control mark ts = choices.map fun c => (some c.value, decide (c.value ∈ chosen))

section

variable {control mark : String} {chosen : List String}

theorem offer_nil : Offer control mark [] chosen [] := by
  rw [Offer, marksOf, Tag.descendantsOf_nil]
  rfl

theorem Offer.append {choices more : List Choice} {ts us : List Tag}
    (h : Offer control mark choices chosen ts) (h' : Offer control mark more chosen us) :
    Offer control mark (choices ++ more) chosen (ts ++ us) := by
  unfold Offer marksOf at h h' ⊢
  rw [Tag.descendantsOf_append, List.filter_append, List.map_append, List.map_append, h, h']

/-- Only membership counts. -/
theorem Offer.congr {choices : List Choice} {chosen' : List String} {ts : List Tag}
    (h : Offer control mark choices chosen ts) (hchosen : ∀ v, v ∈ chosen ↔ v ∈ chosen') :
    Offer control mark choices chosen' ts := by
  simpa only [Offer, hchosen] using h

end

section

variable (s : Scene) (kind : Control) (name : String) (chosen : List String)

theorem offer_choiceRow (c : Choice) : Issues (choiceRow s kind name chosen c) fun _ row =>
    Offer "input" "checked" [c] chosen [row] := by
  refine issues_freshId.give fun _ id _ => ?_
  by_cases h : c.value ∈ chosen
  · simp [Offer, marksOf, choiceControl, label, h]
  · simp [Offer, marksOf, choiceControl, label, h]

theorem offer_choiceRows (choices : List Choice) :
    Issues (choices.mapM (choiceRow s kind name chosen)) fun _ rows =>
      Offer "input" "checked" choices chosen rows := by
  induction choices with
  | nil => exact .pure offer_nil
  | cons c choices ih =>
    rw [List.mapM_cons]
    refine (offer_choiceRow s kind name chosen c).bind fun _ row hrow => ?_
    exact ih.give fun _ rows hrows => hrow.append hrows

theorem offer_choiceList (c : ChoiceSet) : Issues (choiceList s c kind) fun _ t =>
    Offer "input" "checked" c.choices (chosenValues c.value) t.children :=
  (offer_choiceRows s kind _ _ c.choices).give fun _ rows hrows => by
    simpa [inputBlock] using hrows

end

theorem offer_menuOptions (value : String) (choices : List Choice) :
    Offer "option" "selected" choices [value] (choices.map (menuOption (some value))) := by
  induction choices with
  | nil => exact offer_nil
  | cons c choices ih =>
    have hoption : Offer "option" "selected" [c] [value] [menuOption (some value) c] := by
      by_cases h : value = c.value
      · simp [Offer, marksOf, menuOption, h]
      · simp [Offer, marksOf, menuOption, h, Ne.symm h]
    exact hoption.append ih

/-! ## Choice sets -/

/-- What a choice set of each form offers: a list of controls those chosen by the value as a list, a
menu those chosen by the value as a whole. -/
theorem offer_renderChoiceSet (s : Scene) (c : ChoiceSet) :
    Issues (renderChoiceSet s c) fun _ tag => ∃ t, tag = some t ∧
      (c.isMultiSelect = true ∨ c.style = .expanded →
        Offer "input" "checked" c.choices (chosenValues c.value) t.children) ∧
      (c.isMultiSelect = false → c.style = .compact → ∀ value, c.value = some value →
        Offer "option" "selected" c.choices [value] t.children) := by
  have hlist (kind : Control) : Issues (do return some (← choiceList s c kind)) fun _ tag =>
      ∃ t, tag = some t ∧ Offer "input" "checked" c.choices (chosenValues c.value) t.children :=
    (offer_choiceList s kind c).give fun _ t ht => ⟨t, rfl, ht⟩
  unfold renderChoiceSet
  cases hmulti : c.isMultiSelect with
  | true =>
    refine (hlist .checkbox).mono fun _ tag ⟨t, htag, ht⟩ => ⟨t, htag, fun _ => ht, ?_⟩
    intro h
    cases h
  | false =>
    cases hstyle : c.style with
    | expanded =>
      refine (hlist .radio).mono fun _ tag ⟨t, htag, ht⟩ => ⟨t, htag, fun _ => ht, ?_⟩
      intro _ h
      cases h
    | compact =>
      refine .pure ⟨menu c, rfl, fun h => ?_, fun _ _ value hvalue => ?_⟩
      · rcases h with h | h <;> cases h
      · rw [menu, hvalue]
        simpa [emptyMenu] using offer_menuOptions value c.choices

/-- **Preselected choices.** With a list of tokens as its value, a choice set that shows a list of
controls has one control a choice, and the controls of just the choices with a token as their value
are checked. If the value is a single token, a menu selects the same choices. -/
theorem renderChoiceSet_offer {value : String} {tokens : List String} (h : Lists value tokens)
    (s : Scene) (c : ChoiceSet) (hvalue : c.value = some value) :
    Succeeds (renderChoiceSet s c) ∧
      ∀ source p tag q, renderChoiceSet s c source p = (.ok tag, q) → ∃ t, tag = some t ∧
        (c.isMultiSelect = true ∨ c.style = .expanded →
          Offer "input" "checked" c.choices tokens t.children) ∧
        (c.isMultiSelect = false → c.style = .compact → tokens = [value] →
          Offer "option" "selected" c.choices tokens t.children) := by
  refine ⟨succeeds_renderChoiceSet c, fun source p tag q hrun => ?_⟩
  obtain ⟨-, -, -, t, htag, hlist, hmenu⟩ := offer_renderChoiceSet s c source p tag q hrun
  refine ⟨t, htag, fun hshown => ?_, fun hmulti hstyle htokens => ?_⟩
  · refine (hlist hshown).congr fun v => ?_
    rw [hvalue]
    exact (chosenValues_perm h).mem_iff
  · rw [htokens]
    exact hmenu hmulti hstyle value hvalue

/-- Three colours, of which two are chosen, with a blank entry between them. -/
def colours : ChoiceSet where
  choices := [{ title := "Red", value := "red" }, { title := "Green", value := "green" },
    { title := "Blue", value := "blue" }]
  isMultiSelect := true
  value := some "blue , ,red"

theorem lists_colours : Lists "blue , ,red" ["red", "blue"] := by
  have hblank : ∀ c ∈ [' '], isBlank c = true := List.forall_mem_singleton.mpr rfl
  have hnone : ∀ c ∈ [], isBlank c = true := fun _ h => nomatch h
  have hblue : IsToken ['b', 'l', 'u', 'e'] :=
    ⟨by decide, by decide, by rintro _ ⟨⟩; rfl, by rintro _ ⟨⟩; rfl⟩
  have hred : IsToken ['r', 'e', 'd'] :=
    ⟨by decide, by decide, by rintro _ ⟨⟩; rfl, by rintro _ ⟨⟩; rfl⟩
  exact ⟨_, _, List.Perm.swap ['r', 'e', 'd'] ['b', 'l', 'u', 'e'] [],
    .token hnone hblue hblank (.blank hblank (.token hnone hred hnone .nil)), rfl⟩

/-- Of the three colours the first and the last are checked. -/
theorem renderChoiceSet_offer_colours : Lists "blue , ,red" ["red", "blue"] ∧
    ∃ t q, renderChoiceSet ((standardStage {} []).scene fun _ => pure none) colours growingIds {} =
        (.ok (some t), q) ∧
      marksOf "input" "checked" t.children =
        [(some "red", true), (some "green", false), (some "blue", true)] := by
  obtain ⟨hsucceeds, hoffer⟩ := renderChoiceSet_offer lists_colours
    ((standardStage {} []).scene fun _ => pure none) colours rfl
  obtain ⟨tag, q, hrun, -⟩ := hsucceeds growingIds growingIds_injective {} fun _ h => nomatch h
  obtain ⟨t, rfl, hlist, -⟩ := hoffer _ _ _ _ hrun
  exact ⟨lists_colours, t, q, hrun, hlist (.inl rfl)⟩

end Placard.Render
