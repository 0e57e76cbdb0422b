import Mathlib
import Placard.Proofs.Document.Interruption
import Placard.Proofs.Json.Padding

/-!
# Blanks around a card

The format of a text is found out from the text without the blanks around it, and then the text is
read with them. JSON admits four blanks only, so that a text that is JSON when it is trimmed loads
like the trimmed text if the blanks around it are among these, and is refused as no JSON at the first
blank that is not (`parse_padded`). No text that is JSON gives the problem of that refusal, for the
problems of a card begin with its fields (`exists_isBelow_of_readCard`).
-/

namespace Placard.Document

open Placard.Text Placard.Data Placard.Record

/-! ## Problems of cards -/

/-- The names of the fields of a card. -/
def cardNames : List String :=
  frameNames ++ ["version", "body", "actions", "fallbackText", "backgroundImage"]

theorem exists_isBelow_of_readFrame {kind : String} {entries : Entries} {i : Issue}
    (h : i ∈ (readFrame kind entries).issues) : ∃ name ∈ frameNames, IsBelow name i := by
  have hfield {α : Type} {name : String} {read : Value → Checked α} {default : α}
      (hname : name ∈ frameNames) (h : i ∈ (field entries name read default).issues) :
      ∃ name ∈ frameNames, IsBelow name i :=
    ⟨name, hname, isBelow_of_mem_field h⟩
  unfold readFrame at h
  rcases Checked.mem_issues_of_seq h with h | hseparator
  · rcases Checked.mem_issues_of_seq h with h | hspacing
    · rcases Checked.mem_issues_of_seq h with htype | hid
      · rw [Checked.issues_map] at htype
        exact hfield (by decide) htype
      · exact hfield (by decide) hid
    · exact hfield (by decide) hspacing
  · exact hfield (by decide) hseparator

/-- Every issue of a card is below one of its fields. -/
theorem exists_isBelow_of_readCard {entries : Entries} {i : Issue}
    (h : i ∈ (readCard (.map entries)).issues) : ∃ name ∈ cardNames, IsBelow name i := by
  have hfield {α : Type} {name : String} {read : Value → Checked α} {default : α}
      (hname : name ∈ cardNames) (h : i ∈ (field entries name read default).issues) :
      ∃ name ∈ cardNames, IsBelow name i :=
    ⟨name, hname, isBelow_of_mem_field h⟩
  have hbody := nodesIn_eq entries "body" (elements_childrenOf entries)
  have hactions := nodesIn_eq entries "actions" (actions_childrenOf entries)
  rw [readCard, cardOf, hbody, hactions] at h
  rcases Checked.mem_issues_of_seq h with h | himage
  · rcases Checked.mem_issues_of_seq h with h | hfallback
    · rcases Checked.mem_issues_of_seq h with h | hactions
      · rcases Checked.mem_issues_of_seq h with h | hbody
        · rcases Checked.mem_issues_of_seq h with hframe | hversion
          · rw [Checked.issues_map] at hframe
            obtain ⟨name, hname, hbelow⟩ := exists_isBelow_of_readFrame hframe
            exact ⟨name, List.mem_append_left _ hname, hbelow⟩
          · exact hfield (by decide) hversion
        · exact hfield (by decide) hbody
      · exact hfield (by decide) hactions
    · exact hfield (by decide) hfallback
  · exact hfield (by decide) himage

theorem head_append {s t : String} {c : Char} (h : s.toList.head? = some c) :
    (s ++ t).toList.head? = some c := by
  rw [String.toList_append, List.head?_append, h]
  rfl

/-- The wording of an issue begins with its path. -/
theorem head_message {i : Issue} {step : String} {c : Char} (hpath : i.path.head? = some step)
    (hstep : step.toList.head? = some c) : i.message.toList.head? = some c := by
  have htext : (Record.pathText i.path).toList.head? = some c := by
    obtain ⟨rest, hrest⟩ := List.head?_eq_some_iff.mp hpath
    rw [hrest]
    cases rest with
    | nil => exact hstep
    | cons next rest => exact head_append (head_append hstep)
  have hne : ¬(Record.pathText i.path).isEmpty = true := by
    intro hempty
    rw [String.isEmpty_iff.mp hempty] at htext
    cases htext
  unfold Issue.message
  rw [if_neg hne]
  exact head_append (head_append htext)

theorem head_cardNames : ∀ name ∈ cardNames, ∀ step ∈ [name, lowLined name],
    step.toList.head?.any (· ≠ 'I') = true := by
  decide

theorem head_json (f : Json.Fault) : (Problem.json f).message.toList.head? = some 'I' :=
  head_append (head_append (head_append (head_append (head_append (by decide)))))

/-- No problem of data is worded like a fault of JSON. -/
theorem errors_of_ofData {v : Value} {o : Outcome} (h : ofData v = .ok o) (f : Json.Fault) :
    o.errors ≠ [(Problem.json f).message] := by
  have hne {s : String} {c : Char} (hs : s.toList.head? = some c) (hc : c ≠ 'I')
      (more : List String) : s :: more ≠ [(Problem.json f).message] := by
    intro heq
    rw [(List.cons.inj heq).1, head_json] at hs
    exact hc (Option.some.inj hs).symm
  cases v with
  | map entries =>
    by_cases hroot : IsCardData entries
    · rw [ofData_of_isCardData hroot] at h
      split at h
      · obtain rfl := Except.ok.inj h
        exact (List.cons_ne_nil _ _).symm
      · next first more hread =>
        obtain rfl := Except.ok.inj h
        obtain ⟨name, hname, step, hstep, hpath⟩ := exists_isBelow_of_readCard (i := first)
          (by rw [hread]; exact List.mem_cons_self)
        obtain ⟨c, hhead, hc⟩ := (Option.any_eq_true _ _).mp (head_cardNames name hname step hstep)
        exact hne (head_message hpath hhead) (of_decide_eq_true hc) _
      · cases h
    · obtain ⟨type, hother⟩ := ofData_of_otherRoot hroot
      obtain rfl := Except.ok.inj (hother.symm.trans h)
      exact hne (c := 'R') (head_append (head_append (by decide))) (by decide) _
  | _ =>
    obtain rfl := Except.ok.inj h
    exact hne (c := 'C') (head_append (by decide)) (by decide) _

/-! ## Texts -/

/-- What is shown of an outcome: the card, whose presence says whether loading succeeded, the problems
and the warnings. -/
def Outcome.shown (o : Outcome) : Option Card × List String × List String :=
  (o.card?, o.errors, o.warnings)

/-- A text that is JSON when it is trimmed is taken for JSON. -/
theorem parse_of_isJson {content : String} (h : Format.isJson (trim content.toList) = true) :
    parse none content = parseAs .json content := by
  have hblank : ¬allBlank content.toList = true := by
    intro hblank
    have hnil : trim content.toList = [] := trimBy_of_forall (List.all_eq_true.mp hblank)
    rw [hnil] at h
    cases h
  have hformat : Format.detect content = .json := by
    rw [Format.detect, h, Bool.or_true, if_pos rfl]
  unfold parse
  rw [if_neg hblank]
  change parseAs (Format.detect content) content = _
  rw [hformat]

/-- **Blanks around a card.** A text that is JSON when it is trimmed loads like the trimmed text
exactly if the blanks around it are white space in JSON. If they are not, it is refused as no JSON, at
the first that is not. -/
theorem parse_padded {content : String} {v : Value} (h : Json.read (trimmed content) = .ok v) :
    parse none (trimmed content) = ofData v ∧
    parse none content = (Json.paddingFault? content.toList).elim (ofData v)
      (fun f => .ok (.failed (.json f) [])) ∧
    ((parse none content).map Outcome.shown = (parse none (trimmed content)).map Outcome.shown ↔
      ∀ c ∈ leadingBlanks content.toList ++ trailingBlanks content.toList,
        Json.isSpace c = true) := by
  have htrimmed : (trimmed content).toList = trim content.toList := String.toList_ofList
  have hread : Json.readText (trim content.toList) = .ok v := htrimmed ▸ h
  have hjson : Format.isJson (trim content.toList) = true := by
    rw [Format.isJson, hread]
  have hpadded : Json.read content = _ := Json.readText_padded hread
  have hinner : parse none (trimmed content) = ofData v := by
    rw [parse_of_isJson (by rwa [htrimmed, trim_trim]), parseAs, loadData, h]
  have houter : parse none content = (Json.paddingFault? content.toList).elim (ofData v)
      (fun f => .ok (.failed (.json f) [])) := by
    rw [parse_of_isJson hjson, parseAs, loadData, hpadded]
    cases Json.paddingFault? content.toList <;> rfl
  refine ⟨hinner, houter, ?_⟩
  rw [hinner, houter, ← Json.paddingFault?_eq_none_iff]
  cases Json.paddingFault? content.toList with
  | none => simp
  | some f =>
    refine iff_of_false (fun heq => ?_) (Option.some_ne_none f)
    obtain ⟨o, ho, hshown⟩ := Json.map_eq_ok heq.symm
    have herrors := congrArg (·.2.1) hshown
    exact errors_of_ofData ho f herrors

/-! ## Blanks that are none in JSON -/

/-- A card between a line end and a form feed. -/
def fedContent : String :=
  "\n\x7b\"type\": \"AdaptiveCard\"\x7d\x0c"

/-- The line end is white space in JSON, and the form feed is data too many. -/
theorem parse_padded_fed :
    Json.read (trimmed fedContent) = .ok (.map [(.text "type", .text "AdaptiveCard")]) ∧
    parse none fedContent = .ok (.failed
      (.json { cause := .extraData, position := 25, line := 2, column := 25 }) []) := by
  have hread : Json.read (trimmed fedContent) =
      .ok (.map [(.text "type", .text "AdaptiveCard")]) := by
    cbv
  have hfault : Json.paddingFault? fedContent.toList =
      some { cause := .extraData, position := 25, line := 2, column := 25 } := by
    cbv
  obtain ⟨-, hparse, -⟩ := parse_padded hread
  exact ⟨hread, hparse.trans (by rw [hfault]; rfl)⟩

/-- A card behind a space that does not break. -/
def unbrokenContent : String :=
  "\xa0\x7b\"type\": \"AdaptiveCard\"\x7d"

/-- The text is taken for JSON and loads when it is trimmed, but it does not load. -/
theorem parse_unbrokenContent :
    Format.detect unbrokenContent = .json ∧
    (∃ card, parse none (trimmed unbrokenContent) = .ok (.loaded card [])) ∧
    parse none unbrokenContent = .ok (.failed
      (.json { cause := .noValue, position := 0, line := 1, column := 1 }) []) := by
  have hread : Json.readText (trim unbrokenContent.toList) =
      .ok (.map [(.text "type", .text "AdaptiveCard")]) := by
    cbv
  have hpadding : Json.paddingFault? unbrokenContent.toList =
      some { cause := .noValue, position := 0, line := 1, column := 1 } := by
    cbv
  have hcard : ofData (.map [(.text "type", .text "AdaptiveCard")]) =
      .ok (.loaded { frame := {}, version := some "1.0", body := [], actions := []
                     fallbackText := none, backgroundImage := none } []) := by
    cbv
  have hjson : Format.isJson (trim unbrokenContent.toList) = true := by
    rw [Format.isJson, hread]
  have htrimmed : (trimmed unbrokenContent).toList = trim unbrokenContent.toList :=
    String.toList_ofList
  have hinner : Format.isJson (trim (trimmed unbrokenContent).toList) = true := by
    rw [htrimmed, trim_trim]
    exact hjson
  have hfault := Json.readText_padded hread
  rw [hpadding] at hfault
  refine ⟨?_, ?_, ?_⟩
  · rw [Format.detect, hjson, Bool.or_true, if_pos rfl]
  · rw [parse_of_isJson hinner, parseAs, loadData, Json.read, htrimmed, hread]
    exact ⟨_, hcard⟩
  · rw [parse_of_isJson hjson, parseAs, loadData, Json.read, hfault]
    dsimp only [Option.elim_some]

end Placard.Document
