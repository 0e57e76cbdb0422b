import Placard.Proofs.Html.Spelling
import Placard.Proofs.Json.RoundTrip
import Placard.Proofs.Render.Standard

/-!
# What a submit action carries

The data of a submit action stands in an attribute of its tag as JSON: in printable ASCII, compact,
and such that reading it gives the data back. A reader of HTML finds the same text in the attribute,
since decoding undoes the escapes of the writer.
-/

namespace Placard.Html

/-! ## Attributes in HTML -/

/-- An attribute is spelled with its value, unless it has the name of the classes or the styles. -/
theorem valueAt_spelledAttributes {name : String} (hclass : "class" ≠ name)
    (hstyle : "style" ≠ name) (t : Tag) : valueAt? name (spelledAttributes t) = t.attr? name := by
  unfold spelledAttributes
  cases t.classes <;> cases t.styles <;> simp [valueAt?, hclass, hstyle, Tag.attr?]

theorem attributes_spelling (t : Tag) : (spelling t).attributes = spelledAttributes t := by
  rw [spelling_eq]
  split <;> rfl

theorem WordNamed.setAttr {t : Tag} (h : WordNamed t) {name : String} (hname : IsWord name)
    (value : String) : WordNamed (t.setAttr name value) := by
  have hbelow : (t.setAttr name value).descendants = t.descendants := by
    rw [Tag.descendants_eq, Tag.descendants_eq, Tag.children_setAttr]
  intro u hu
  rw [hbelow] at hu
  rcases List.mem_cons.mp hu with rfl | hu
  · obtain ⟨hword, hattributes⟩ := h t List.mem_cons_self
    refine ⟨hword, fun a ha => ?_⟩
    rcases Tag.mem_writeAt ha with rfl | ha
    · exact hname
    · exact hattributes a ha
  · exact h u (List.mem_cons_of_mem t hu)

/-- **Attributes are read back.** A reader of HTML finds an attribute that was set with the value
that it was set to. -/
theorem read_setAttr {t : Tag} (h : WordNamed t) {name : String} (hname : IsWord name)
    (hclass : "class" ≠ name) (hstyle : "style" ≠ name) (value : String) :
    ∃ spelled, read (text (t.setAttr name value)) = some spelled ∧
      valueAt? name spelled.attributes = some value := by
  refine ⟨spelling (t.setAttr name value), ?_, ?_⟩
  · have helement := readElement_write _ (h.setAttr hname value) []
      ((write (t.setAttr name value)).length + 1) (Nat.le_succ _)
    rw [List.append_nil] at helement
    rw [read, text, String.toList_ofList, helement]
  · rw [attributes_spelling, valueAt_spelledAttributes hclass hstyle, Tag.attr_setAttr, if_pos rfl]

end Placard.Html

namespace Placard.Render

open Data Document

/-! ## Submit actions -/

/-- Whether a text is that of data in compact JSON: printable ASCII, with no white space outside of
strings, and read as the data. -/
structure Carries (payload : String) (data : Value) : Prop where
  printable : ∀ c ∈ payload.toList, Json.IsPrintable c
  tight : ∀ c ∈ Json.outside false payload.toList, Json.isSpace c = false
  read : Json.read payload = .ok data

theorem written_carries {data : Value} (h : Json.IsJson data) :
    ∃ payload, written data = .ok payload ∧ Carries payload data := by
  obtain ⟨cs, hcs⟩ := Json.exists_writes h
  refine ⟨String.ofList cs, by rw [written, hcs.written], ?_, ?_, ?_⟩
  · rw [String.toList_ofList]
    exact hcs.compact.printable
  · rw [String.toList_ofList]
    exact hcs.compact.outside
  · rw [Json.read, String.toList_ofList, hcs.readText]

theorem linkData_submit {data : Value} {payload : String} (h : written data = .ok payload)
    (frame : Frame) (title : Option String) (t : Tag) :
    linkData (.action (.submit frame title data)) t =
      pure (t.setAttr "data-ac-submitData" payload) := by
  change (ofExcept (written data) >>= fun text =>
    pure (t.setAttr "data-ac-submitData" text)) = _
  rw [h]
  rfl

end Placard.Render
