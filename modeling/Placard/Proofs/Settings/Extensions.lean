import Placard.Proofs.Json.Padding
import Placard.Proofs.Settings.Sources

/-!
# Lists of extensions

The names of extensions can be written as a list in JSON or with commas between them. A list in JSON
gives the same extensions on every route. Names with commas between them give the extensions if they
are given outright; but a variable is decoded as JSON before it is read, and so it is refused or gives
other extensions (`read_of_sets`).
-/

namespace Placard.Settings

open Text Data Record

theorem decoded_extensions (source : Source) (s : String) : decoded source extensionsName s =
    match Json.read s with
    | .ok .null => .ok none
    | .ok v => .ok (some v)
    | .error _ => .error (.undecodable extensionsName source) :=
  if_pos rfl

/-! ## Lists in JSON -/

/-- The text is a list of names in JSON, with white space around it. -/
def IsListText (extensions : List String) (s : String) : Prop :=
  ∃ before inner after, s.toList = before ++ ('[' :: inner ++ [']'] ++ after) ∧
    (∀ c ∈ before ++ after, Json.isSpace c = true) ∧
    Json.readText ('[' :: inner ++ [']']) = .ok (.list (extensions.map .text))

theorem each_text (position : Nat) (extensions : List String) :
    each text position (extensions.map .text) = .good extensions := by
  induction extensions generalizing position with
  | nil => rfl
  | cons e extensions ih =>
    rw [List.map_cons, each, ih]
    rfl

theorem readExtensions_list (extensions : List String) :
    readExtensions (.list (extensions.map .text)) = .good extensions :=
  each_text 0 extensions

section

variable {extensions : List String} {s : String} (h : IsListText extensions s)

include h

theorem IsListText.read : Json.read s = .ok (.list (extensions.map .text)) := by
  obtain ⟨before, inner, after, hs, hspace, hread⟩ := h
  rw [List.forall_mem_append] at hspace
  have hafter : ∀ c ∈ after, isBlank c = true := fun c hc => Json.isBlank_of_isSpace (hspace.2 c hc)
  rw [Json.read, hs, Json.readText_of_spaces hread hspace.1 hafter,
    Json.skipSpace_eq_nil_iff.mpr hspace.2]

/-- A text in brackets is read as a list, whatever route it takes. -/
theorem IsListText.readExtensions : readExtensions (.text s) = .good extensions := by
  obtain ⟨before, inner, after, hs, hspace, hread⟩ := h
  have hblank : ∀ c ∈ before ++ after, isBlank c = true := fun c hc =>
    Json.isBlank_of_isSpace (hspace c hc)
  rw [List.forall_mem_append] at hblank
  have htrim : trim s.toList = '[' :: inner ++ [']'] := by
    rw [hs, ← List.append_assoc]
    refine trimBy_padded hblank.1 hblank.2 (List.cons_ne_nil _ _) ?_ ?_
    · rintro c ⟨⟩
      decide
    · intro c hc
      rw [List.getLast?_concat] at hc
      obtain rfl := Option.some.inj hc
      decide
  unfold Settings.readExtensions
  dsimp only
  rw [htrim, List.cons_append, List.head?_cons, if_pos rfl, ← List.cons_append, hread]
  exact readExtensions_list extensions

theorem IsListText.arriving (route : Route) : ∃ v,
    arriving s route = .ok (some v) ∧ Settings.readExtensions v = .good extensions := by
  unfold Settings.arriving
  cases route.source? with
  | none => exact ⟨_, rfl, h.readExtensions⟩
  | some source =>
    dsimp only
    rw [decoded_extensions, h.read]
    exact ⟨_, rfl, readExtensions_list extensions⟩

end

/-- The text that writes a list of names in JSON. -/
def listText (extensions : List String) : String :=
  String.ofList ('[' :: joinWith [','] (extensions.map Json.writeString) ++ [']'])

theorem writes_listText (extensions : List String) :
    Json.Writes (listText extensions).toList (.list (extensions.map .text)) := by
  have hparts : List.Forall₂ Json.Writes (extensions.map Json.writeString)
      (extensions.map Value.text) := by
    rw [List.forall₂_map_left_iff, List.forall₂_map_right_iff]
    exact List.forall₂_same.mpr fun e _ => Json.writes_text e
  rw [listText, String.toList_ofList]
  exact Json.writes_list hparts

theorem isListText_listText (extensions : List String) :
    IsListText extensions (listText extensions) := by
  have hread := (writes_listText extensions).readText
  rw [listText, String.toList_ofList] at hread
  refine ⟨[], joinWith [','] (extensions.map Json.writeString), [], ?_, nofun, hread⟩
  rw [listText, String.toList_ofList, List.append_nil, List.nil_append]

/-! ## Names with commas between them -/

/-- A name that can stand between commas: there is something in it, no blank at either end, and no
comma, quote or bracket anywhere. -/
structure IsPlainName (name : String) : Prop where
  ne_nil : name.toList ≠ []
  head : ∀ c ∈ name.toList.head?, isBlank c = false
  last : ∀ c ∈ name.toList.getLast?, isBlank c = false
  plain : ∀ c ∈ name.toList, c ≠ ',' ∧ c ≠ '"' ∧ c ≠ '['

/-- The names with commas between them. -/
def joined (extensions : List String) : String :=
  String.ofList (joinWith [','] (extensions.map String.toList))

theorem toList_joined (extensions : List String) :
    (joined extensions).toList = joinWith [','] (extensions.map String.toList) :=
  String.toList_ofList

section

variable {extensions : List String} (h : ∀ name ∈ extensions, IsPlainName name)

include h

/-- What holds of all names as texts. -/
theorem forall_mem_toList {P : List Char → Prop} (hP : ∀ name, IsPlainName name → P name.toList) :
    ∀ part ∈ extensions.map String.toList, P part :=
  List.forall_mem_map.mpr fun name hname => hP name (h name hname)

theorem plain_of_mem_joined : ∀ c ∈ (joined extensions).toList, c ≠ '"' ∧ c ≠ '[' := by
  rw [toList_joined]
  exact forall_mem_joinWith (forall_mem_of_all (by decide))
    (forall_mem_toList h fun name hname c hc => (hname.plain c hc).2)

/-- There are no blanks around the names. -/
theorem trim_joined : trim (joined extensions).toList = (joined extensions).toList := by
  rw [toList_joined]
  cases extensions with
  | nil => rfl
  | cons name extensions =>
    have hname := h name List.mem_cons_self
    have hhead := @head?_joinWith [','] _ hname.ne_nil (extensions.map String.toList)
    refine trimBy_eq_self (fun hnil => ?_) ?_ fun c hc => ?_
    · rw [List.map_cons] at hnil
      rw [hnil] at hhead
      exact hname.ne_nil (List.head?_eq_none_iff.mp hhead.symm)
    · rw [List.map_cons, hhead]
      exact hname.head
    · obtain ⟨part, hmem, hlast⟩ :=
        getLast?_joinWith (forall_mem_toList h fun name hname => hname.ne_nil) c hc
      have hlasts := forall_mem_toList (P := fun cs => ∀ c ∈ cs.getLast?, isBlank c = false) h
      exact hlasts (fun name hname => hname.last) part hmem c hlast

/-- **Names that are given outright.** -/
theorem readExtensions_joined : readExtensions (.text (joined extensions)) = .good extensions := by
  have hopen : (joined extensions).toList.head? ≠ some '[' := fun hhead =>
    (plain_of_mem_joined h '[' (List.mem_of_head? hhead)).2 rfl
  unfold readExtensions
  dsimp only
  rw [trim_joined h, if_neg hopen, toList_joined]
  by_cases hne : extensions = []
  · subst hne
    rfl
  have htrim : ∀ part ∈ extensions.map String.toList, trim part = part :=
    forall_mem_toList h fun name hname => trimBy_eq_self hname.ne_nil hname.head hname.last
  rw [cutAt_joinWith (by simpa using hne)
      (forall_mem_toList h fun name hname hcomma => (hname.plain _ hcomma).1 rfl),
    List.map_congr_left htrim, List.map_id', List.filter_eq_self.mpr, List.map_map]
  · simp
  · exact forall_mem_toList h fun name hname => by simpa using hname.ne_nil

end

/-! ## What variables do with them -/

/-- A value that is neither a text nor a list of any kind. -/
def IsSingle (v : Value) : Prop :=
  items? v = none ∧ textLike? v = none

theorem isSingle_of_scalar {cs rest : List Char} {v : Value}
    (h : Json.scalar cs = .ok (v, rest)) : IsSingle v := by
  have hwords : ∀ w ∈ Json.words, IsSingle w.2 := by
    simp only [Json.words, List.forall_mem_cons]
    exact ⟨⟨rfl, rfl⟩, ⟨rfl, rfl⟩, ⟨rfl, rfl⟩, ⟨rfl, rfl⟩, ⟨rfl, rfl⟩, ⟨rfl, rfl⟩, nofun⟩
  unfold Json.scalar at h
  split at h
  · next p hp =>
    obtain rfl := Except.ok.inj h
    obtain ⟨w, hw, hrest⟩ := List.exists_of_findSome?_eq_some hp
    obtain ⟨after, -, heq⟩ := Option.map_eq_some_iff.mp hrest
    obtain ⟨rfl, -⟩ := Prod.mk.inj heq
    exact hwords w hw
  split at h
  · next p hp =>
    obtain rfl := Except.ok.inj h
    unfold Json.number? at hp
    dsimp only at hp
    split at hp
    · cases hp
    split at hp
    · obtain ⟨rfl, -⟩ := Prod.mk.inj (Option.some.inj hp)
      exact ⟨rfl, rfl⟩
    · obtain ⟨rfl, -⟩ := Prod.mk.inj (Option.some.inj hp)
      exact ⟨rfl, rfl⟩
  · cases h

/-- Texts of JSON begin with a quote and lists with a bracket. -/
theorem isSingle_of_value {fuel : Nat} {cs rest : List Char} {v : Value}
    (h : Json.value fuel cs = .ok (v, rest)) (hplain : ∀ c ∈ cs, c ≠ '"' ∧ c ≠ '[') :
    IsSingle v := by
  cases fuel with
  | zero =>
    unfold Json.value at h
    cases h
  | succ fuel =>
    unfold Json.value at h
    split at h
    · exact absurd rfl (hplain '"' List.mem_cons_self).1
    · exact absurd rfl (hplain '[' List.mem_cons_self).2
    · split at h
      · obtain ⟨rfl, -⟩ := Prod.mk.inj (Except.ok.inj h)
        exact ⟨rfl, rfl⟩
      · obtain ⟨p, -, heq⟩ := Json.map_eq_ok h
        obtain ⟨rfl, -⟩ := Prod.mk.inj heq
        exact ⟨rfl, rfl⟩
    · exact isSingle_of_scalar h

theorem isSingle_of_read {s : String} {v : Value} (h : Json.read s = .ok v)
    (hplain : ∀ c ∈ s.toList, c ≠ '"' ∧ c ≠ '[') : IsSingle v := by
  obtain ⟨-, rest, hvalue, -⟩ := Json.value_of_readText h
  exact isSingle_of_value hvalue fun c hc => hplain c ((List.dropWhile_sublist Json.isSpace).mem hc)

theorem IsSingle.readExtensions {v : Value} (h : IsSingle v) :
    readExtensions v = .complain .notList := by
  unfold Settings.readExtensions
  split
  · cases h.2
  · rw [listOf, h.1]

/-! ## Settings -/

theorem read_of_entriesOf {src : Sources} {es : Entries} (h : entriesOf src = .ok es) :
    read src = match readEntries es with
      | .good s => .ok s
      | .bad first more => .error (.invalid first more)
      | .halted _ => .ok {} := by
  unfold read
  rw [h]
  rfl

/-- **The value that arrives.** If it is read as extensions, the settings are those without it, with
these extensions. -/
theorem read_of_arriving {base src : Sources} {s : String} {route : Route} {v : Value}
    {extensions : List String} (hbase : base.LeavesExtensions) (h : Sets s base route src)
    (harrives : arriving s route = .ok (some v)) (hgood : readExtensions v = .good extensions) :
    read src = (read base).map (withExtensions extensions) := by
  obtain ⟨es, hes, hnone, es', hes', hown⟩ := entriesOf_of_sets hbase h
  obtain ⟨hothers, hsome⟩ := hown _ harrives
  rw [harrives] at hes'
  rw [read_of_entriesOf hes, read_of_entriesOf hes',
    readEntries_of_extensions hothers hnone hsome hgood]
  have hhalted := isHalted_readEntries es
  cases hread : readEntries es with
  | good st => rfl
  | bad first more => rfl
  | halted kind =>
    rw [hread] at hhalted
    cases hhalted

theorem extensions_of_read {src : Sources} {es : Entries} {st : Settings}
    (h : entriesOf src = .ok es) (hread : read src = .ok st) :
    Record.field es extensionsName readExtensions ["sane_lists"] = .good st.markdownExtensions := by
  refine extensions_of_readEntries ?_
  rw [read_of_entriesOf h] at hread
  have hhalted := isHalted_readEntries es
  cases hentries : readEntries es with
  | good s =>
    rw [hentries] at hread
    rw [Except.ok.inj hread]
  | bad first more =>
    rw [hentries] at hread
    cases hread
  | halted kind =>
    rw [hentries] at hhalted
    cases hhalted

/-- **Names that a variable gives.** They are decoded as JSON first. That fails, or else it gives no
list of names; and what the extensions are if nothing sets them is no JSON. -/
theorem extensions_ne_of_joined {base src : Sources} {extensions : List String} {route : Route}
    {source : Source} {st : Settings} (hplain : ∀ name ∈ extensions, IsPlainName name)
    (hbase : base.LeavesExtensions) (hroute : route.source? = some source)
    (h : Sets (joined extensions) base route src) (hread : read src = .ok st) :
    st.markdownExtensions ≠ extensions := by
  have harriving : arriving (joined extensions) route =
      decoded source extensionsName (joined extensions) := by
    rw [arriving, hroute]
  rw [decoded_extensions] at harriving
  obtain ⟨es, -, -, es', hes', hown⟩ := entriesOf_of_sets hbase h
  split at harriving
  · next hnull =>
    rw [harriving] at hes'
    have hfield := extensions_of_read hes' hread
    rw [field_of_none (hown none harriving).2 (by decide)] at hfield
    rintro rfl
    have hdefault : ∃ fault, Json.read (joined ["sane_lists"]) = .error fault := ⟨_, rfl⟩
    obtain ⟨fault, hdefault⟩ := hdefault
    rw [← Checked.good.inj hfield, hdefault] at hnull
    cases hnull
  · next v hne hv =>
    rw [harriving] at hes'
    have hfield := extensions_of_read hes' hread
    have hsingle := isSingle_of_read hv (plain_of_mem_joined hplain)
    rw [field_of_some (hown (some v) harriving).2, hsingle.readExtensions] at hfield
    cases hfield
  · next fault hfault =>
    rw [harriving] at hes'
    unfold read at hread
    rw [hes'] at hread
    cases hread

/-- **The extensions on each route.** Every list of names has a text in JSON, and where nothing else
sets the extensions each such text gives exactly these names, on every route. Plain names with commas
between them give exactly these names if they are given outright. If a variable gives them, there are
no settings unless they are JSON, and there are never the settings with these names. -/
theorem read_of_sets {base : Sources} (hbase : base.LeavesExtensions) (extensions : List String) :
    (Json.write (.list (extensions.map .text)) = .ok (listText extensions).toList ∧
      IsListText extensions (listText extensions)) ∧
    (∀ s route src, IsListText extensions s → Sets s base route src →
      read src = (read base).map (withExtensions extensions)) ∧
    ((∀ name ∈ extensions, IsPlainName name) → ∀ route src, Sets (joined extensions) base route src →
      (route = .keyword → read src = (read base).map (withExtensions extensions)) ∧
      ∀ source, route.source? = some source →
        (∀ fault, Json.read (joined extensions) = .error fault →
          read src = .error (.undecodable extensionsName source)) ∧
        ∀ st, read src = .ok st → st.markdownExtensions ≠ extensions) := by
  refine ⟨⟨(writes_listText extensions).written, isListText_listText extensions⟩,
    fun s route src htext h => ?_,
    fun hplain route src h => ⟨?_, fun source hroute => ⟨fun fault hfault => ?_, fun st hread => ?_⟩⟩⟩
  · obtain ⟨v, harrives, hgood⟩ := htext.arriving route
    exact read_of_arriving hbase h harrives hgood
  · rintro rfl
    exact read_of_arriving hbase h rfl (readExtensions_joined hplain)
  · obtain ⟨es, -, -, es', hes', -⟩ := entriesOf_of_sets hbase h
    rw [arriving, hroute] at hes'
    dsimp only at hes'
    rw [decoded_extensions, hfault] at hes'
    unfold read
    rw [hes']
    rfl
  · exact extensions_ne_of_joined hplain hbase hroute h hread

/-- Two names as a list in a file, and with a comma between them outright and in the environment. -/
theorem read_of_sets_tables :
    (∃ st, read { file := some "CARD_RENDER_MARKDOWN_EXTENSIONS=[\"tables\",\"nl2br\"]" } = .ok st ∧
      st.markdownExtensions = ["tables", "nl2br"]) ∧
    (∃ st, read { given := [("markdown_extensions", .text "tables,nl2br")] } = .ok st ∧
      st.markdownExtensions = ["tables", "nl2br"]) ∧
    read { environment := [("card_render_markdown_extensions", "tables,nl2br")] } =
      .error (.undecodable "markdown_extensions" .environment) := by
  have hbase : ({} : Sources).LeavesExtensions := ⟨nofun, nofun, nofun⟩
  have hread : read {} = .ok {} := rfl
  have hplain : ∀ name ∈ ["tables", "nl2br"], IsPlainName name := by
    rw [List.forall_mem_cons, List.forall_mem_singleton]
    refine ⟨⟨by decide, ?_, ?_, forall_mem_of_all (by decide)⟩,
      ⟨by decide, ?_, ?_, forall_mem_of_all (by decide)⟩⟩ <;> rintro c ⟨⟩ <;> decide
  obtain ⟨⟨-, htext⟩, hlist, hjoined⟩ := read_of_sets hbase ["tables", "nl2br"]
  have hfile := hlist _ .file
    { file := some "CARD_RENDER_MARKDOWN_EXTENSIONS=[\"tables\",\"nl2br\"]" } htext
    (.file (show isExtensions "CARD_RENDER_MARKDOWN_EXTENSIONS" = true from rfl) rfl rfl
      ⟨[], [], rfl, rfl⟩)
  have hgiven := (hjoined hplain .keyword
    { given := [("markdown_extensions", .text "tables,nl2br")] }
    (.keyword ⟨[], [], rfl, rfl⟩ rfl rfl)).1 rfl
  have henvironment := (hjoined hplain .environment
    { environment := [("card_render_markdown_extensions", "tables,nl2br")] }
    (.environment (show isExtensions "card_render_markdown_extensions" = true from rfl) rfl
      ⟨[], [], rfl, rfl⟩ rfl)).2 .environment rfl
  rw [hread] at hfile hgiven
  exact ⟨⟨_, hfile, rfl⟩, ⟨_, hgiven, rfl⟩, henvironment.1 _ rfl⟩

/-- **Commas in a variable.** The same text gives two names outright and no settings in the
environment. -/
theorem read_comma :
    (∃ st, read { given := [("markdown_extensions", .text "tables,nl2br")] } = .ok st ∧
      st.markdownExtensions = ["tables", "nl2br"]) ∧
    ∀ st, read { environment := [("CARD_RENDER_MARKDOWN_EXTENSIONS", "tables,nl2br")] } ≠ .ok st :=
  ⟨⟨_, rfl, rfl⟩, nofun⟩

end Placard.Settings
