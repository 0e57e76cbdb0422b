import Mathlib.Data.List.Basic
import Placard.Proofs.Document.Stranger
import Placard.Proofs.Text.Blank
import Placard.Proofs.Text.Digit

/-!
# What is reported of strangers

The search reports an object before what is in it, the members for nodes in their order and the items
of a list by position (`pairwise_strangersAt`). A report names one stranger only: members for nodes
are spelled with letters and positions with digits, so that the text of a path tells where each step
ends (`message_injective`). What other members hold makes no difference (`Swaps.looksLike`).
-/

namespace Placard.Document

open Placard.Text Placard.Data Placard.Record

/-! ## The order -/

/-- The order in which nodes are written: an object before what is in it, the members for nodes in
their order and the items of a list by position. -/
inductive Precedes : List Step → List Step → Prop
  | outer (step : Step) (path : List Step) : Precedes [] (step :: path)
  | member {a b : String} (h : nodeMembers.idxOf a < nodeMembers.idxOf b) (p q : List Step) :
    Precedes (.member a :: p) (.member b :: q)
  | position {i j : Nat} (h : i < j) (p q : List Step) :
    Precedes (.position i :: p) (.position j :: q)
  | inside (step : Step) {p q : List Step} (h : Precedes p q) : Precedes (step :: p) (step :: q)

theorem not_precedes_self (path : List Step) : ¬Precedes path path := by
  induction path with
  | nil => nofun
  | cons step path ih =>
    intro h
    cases h with
    | member h => exact Nat.lt_irrefl _ h
    | position h => exact Nat.lt_irrefl _ h
    | inside _ h => exact ih h

theorem Precedes.append {p q : List Step} (h : Precedes p q) (path : List Step) :
    Precedes (path ++ p) (path ++ q) := by
  induction path with
  | nil => exact h
  | cons step path ih => exact .inside step ih

/-- Whether a stranger comes before another one. -/
abbrev ComesBefore (s t : Stranger) : Prop :=
  Precedes s.path t.path

theorem exists_path_eq {path : List Step} {v : Value} {s : Stranger} (h : s ∈ strangersAt path v) :
    ∃ q, s.path = path ++ q :=
  (mem_strangersAt_iff.mp h).imp fun _ h => h.1

theorem exists_strangersAt {path : List Step} {name : String} {entries : List (Value × Value)}
    {s : Stranger} (h : s ∈ strangersUnder path name entries) : ∃ v, s ∈ strangersAt path v := by
  rw [strangersUnder_eq] at h
  cases hfind : Value.find? name entries with
  | none =>
    rw [hfind] at h
    exact absurd h List.not_mem_nil
  | some v =>
    rw [hfind] at h
    exact ⟨v, h⟩

/-- Strangers behind two steps come in the order of the steps. -/
theorem comesBefore_of_precedes {path : List Step} {a b : Step}
    (hab : ∀ p q, Precedes (a :: p) (b :: q)) {v w : Value} {s t : Stranger}
    (hs : s ∈ strangersAt (path ++ [a]) v) (ht : t ∈ strangersAt (path ++ [b]) w) :
    ComesBefore s t := by
  obtain ⟨p, hp⟩ := exists_path_eq hs
  obtain ⟨q, hq⟩ := exists_path_eq ht
  rw [ComesBefore, hp, hq, List.append_assoc, List.append_assoc]
  exact (hab p q).append path

/-- The members for nodes are looked through in their order. -/
theorem pairwise_nodeMembers :
    nodeMembers.Pairwise fun a b => nodeMembers.idxOf a < nodeMembers.idxOf b := by
  decide

theorem pairwise_ownStranger (path : List Step) (entries : List (Value × Value)) :
    (ownStranger path entries).Pairwise ComesBefore := by
  unfold ownStranger
  split
  · split
    · exact .nil
    · exact List.pairwise_singleton _ _
  · exact .nil

theorem pairwise_strangersFrom {items : List Value}
    (h : ∀ v ∈ items, ∀ path, (strangersAt path v).Pairwise ComesBefore) (path : List Step)
    (i : Nat) : (strangersFrom path i items).Pairwise ComesBefore := by
  induction items generalizing i with
  | nil =>
    rw [strangersFrom]
    exact .nil
  | cons v items ih =>
    rw [List.forall_mem_cons] at h
    rw [strangersFrom, List.pairwise_append]
    refine ⟨h.1 _, ih h.2 (i + 1), fun s hs t ht => ?_⟩
    obtain ⟨j, w, -, ht⟩ := mem_strangersFrom.mp ht
    exact comesBefore_of_precedes (.position (by omega)) hs ht

/-- **The order of the report.** By induction on the size of the value. -/
theorem pairwise_strangersAt (path : List Step) (v : Value) :
    (strangersAt path v).Pairwise ComesBefore := by
  induction hsize : sizeOf v using Nat.strongRecOn generalizing v path with
  | ind n ih =>
    subst hsize
    cases v with
    | map entries =>
      rw [strangersAt, List.pairwise_append, List.pairwise_flatMap]
      -- those of one member, those of two members, and the node itself before all of them
      refine ⟨pairwise_ownStranger path entries, ⟨fun name _ => ?_, ?_⟩, fun s hs t ht => ?_⟩
      · rw [strangersUnder_eq]
        cases hfind : Value.find? name entries with
        | none => exact .nil
        | some v =>
          obtain ⟨key, hmem⟩ := mem_of_find? hfind
          exact ih _ (sizeOf_lt_of_mem_map hmem) _ v rfl
      · refine pairwise_nodeMembers.imp fun hab s hs t ht => ?_
        obtain ⟨v, hs⟩ := exists_strangersAt hs
        obtain ⟨w, ht⟩ := exists_strangersAt ht
        exact comesBefore_of_precedes (.member hab) hs ht
      · obtain ⟨name, -, ht⟩ := List.mem_flatMap.mp ht
        obtain ⟨v, ht⟩ := exists_strangersAt ht
        obtain ⟨q, hq⟩ := exists_path_eq ht
        rw [List.append_assoc, List.singleton_append] at hq
        obtain rfl := (mem_ownStranger.mp hs).1
        have houter := (Precedes.outer (.member name) q).append s.path
        rwa [List.append_nil, ← hq] at houter
    | list items =>
      rw [strangersAt]
      exact pairwise_strangersFrom
        (fun v hv path => ih _ (sizeOf_lt_of_mem_itemsOf hv) path v rfl) path 0
    | _ =>
      rw [strangersAt]
      · exact .nil
      all_goals exact fun _ heq => by cases heq

/-! ## The wording -/

/-- The characters of a path. -/
def pathChars (path : List Step) : List Char :=
  path.flatMap fun step => step.text.toList

theorem toList_pathText (start : String) (path : List Step) :
    (pathText start path).toList = start.toList ++ pathChars path := by
  induction path generalizing start with
  | nil => exact (List.append_nil _).symm
  | cons step path ih =>
    have hstep : pathText start (step :: path) = pathText (start ++ step.text) path := rfl
    rw [hstep, ih, String.toList_append, List.append_assoc]
    rfl

theorem pathChars_member (name : String) (path : List Step) :
    pathChars (.member name :: path) = '.' :: (name.toList ++ pathChars path) := by
  rw [pathChars, List.flatMap_cons, Step.text, String.toList_append]
  rfl

theorem pathChars_position (i : Nat) (path : List Step) :
    pathChars (.position i :: path) = '[' :: (natText i ++ ']' :: pathChars path) := by
  have hnumber : (String.ofList (natText i)).toList = natText i := String.toList_ofList
  rw [pathChars, List.flatMap_cons, Step.text, String.toList_append, String.toList_append, hnumber,
    List.append_assoc, List.append_assoc]
  rfl

/-- Members for nodes are spelled with letters. -/
theorem isAlpha_of_mem {name : String} (h : name ∈ nodeMembers) :
    ∀ c ∈ name.toList, c.isAlpha = true := by
  have hall : nodeMembers.all (fun name => name.toList.all Char.isAlpha) = true := by decide
  exact List.all_eq_true.mp (List.all_eq_true.mp hall name h)

/-- A step ends the letters before it. -/
theorem isAlpha_head_pathChars (path : List Step) :
    ∀ c ∈ (pathChars path).head?, c.isAlpha = false := by
  intro c hc
  cases path with
  | nil => cases hc
  | cons step path =>
    cases step with
    | member name =>
      rw [pathChars_member] at hc
      obtain rfl := Option.some.inj hc
      rfl
    | position i =>
      rw [pathChars_position] at hc
      obtain rfl := Option.some.inj hc
      rfl

/-- A member is told from the path behind it. -/
theorem member_inj {a b : String} (ha : a ∈ nodeMembers) (hb : b ∈ nodeMembers) {p q : List Step}
    (h : a.toList ++ pathChars p = b.toList ++ pathChars q) :
    a = b ∧ pathChars p = pathChars q := by
  obtain ⟨hname, hrest⟩ := append_inj_of_class (isAlpha_of_mem ha) (isAlpha_of_mem hb)
    (isAlpha_head_pathChars p) (isAlpha_head_pathChars q) h
  exact ⟨String.toList_injective hname, hrest⟩

/-- A position is told from what is behind its bracket. -/
theorem position_inj {i j : Nat} {cs ds : List Char}
    (h : natText i ++ ']' :: cs = natText j ++ ']' :: ds) : i = j ∧ cs = ds := by
  have hbracket (cs : List Char) : ∀ c ∈ (']' :: cs).head?, isAsciiDigit c = false := by
    rintro _ ⟨⟩
    rfl
  obtain ⟨hnumber, hrest⟩ := append_inj_of_class (fun _ => isAsciiDigit_of_mem_natText)
    (fun _ => isAsciiDigit_of_mem_natText) (hbracket cs) (hbracket ds) h
  exact ⟨natText_injective hnumber, (List.cons.inj hrest).2⟩

/-- **A path is told from its text**, by induction on the steps. -/
theorem pathChars_injective {p q : List Step} (hp : IsNodePath p) (hq : IsNodePath q)
    (h : pathChars p = pathChars q) : p = q := by
  induction p generalizing q with
  | nil =>
    match q with
    | [] => rfl
    | .member name :: q => rw [pathChars_member] at h; cases h
    | .position i :: q => rw [pathChars_position] at h; cases h
  | cons step p ih =>
    match step, q with
    | .member name, [] => rw [pathChars_member] at h; cases h
    | .position i, [] => rw [pathChars_position] at h; cases h
    | .member a, .position j :: q => rw [pathChars_member, pathChars_position] at h; cases h
    | .position i, .member b :: q => rw [pathChars_member, pathChars_position] at h; cases h
    | .member a, .member b :: q =>
      rw [pathChars_member, pathChars_member] at h
      rw [isNodePath_member] at hp hq
      obtain ⟨rfl, hrest⟩ := member_inj hp.1 hq.1 (List.cons.inj h).2
      rw [ih hp.2 hq.2 hrest]
    | .position i, .position j :: q =>
      rw [pathChars_position, pathChars_position] at h
      rw [isNodePath_position] at hp hq
      obtain ⟨rfl, hrest⟩ := position_inj (List.cons.inj h).2
      rw [ih hp hq hrest]

/-- No colon is in a path. -/
theorem ne_colon_of_mem_pathChars {path : List Step} (h : IsNodePath path) :
    ∀ c ∈ pathChars path, (c != ':') = true := by
  induction path with
  | nil => exact fun _ hc => absurd hc List.not_mem_nil
  | cons step path ih =>
    cases step with
    | member name =>
      rw [isNodePath_member] at h
      rw [pathChars_member, List.forall_mem_cons, List.forall_mem_append]
      refine ⟨by decide, fun c hc => ?_, ih h.2⟩
      rw [bne_iff_ne]
      rintro rfl
      cases isAlpha_of_mem h.1 _ hc
    | position i =>
      rw [isNodePath_position] at h
      rw [pathChars_position, List.forall_mem_cons, List.forall_mem_append, List.forall_mem_cons]
      refine ⟨by decide, fun c hc => ?_, by decide, ih h⟩
      rw [bne_iff_ne]
      rintro rfl
      cases isAsciiDigit_of_mem_natText hc

/-- The colon behind the path of a report is the first one in it. -/
theorem toList_message (start : String) (s : Stranger) : (s.message start).toList =
    start.toList ++ (pathChars s.path ++ ':' :: (" Unknown element type '".toList ++
      (s.kind.toList ++ "' will be omitted".toList))) := by
  rw [Stranger.message, String.toList_append, String.toList_append, String.toList_append,
    toList_pathText, List.append_assoc, List.append_assoc, List.append_assoc]
  rfl

/-- **A report names one stranger.** -/
theorem message_injective {start : String} {s t : Stranger} (hs : IsNodePath s.path)
    (ht : IsNodePath t.path) (h : s.message start = t.message start) : s = t := by
  have hchars := congrArg String.toList h
  rw [toList_message, toList_message, List.append_cancel_left_eq] at hchars
  have hcolon (cs : List Char) : ∀ c ∈ (':' :: cs).head?, (c != ':') = false := by
    rintro _ ⟨⟩
    rfl
  obtain ⟨hpath, hrest⟩ := append_inj_of_class (ne_colon_of_mem_pathChars hs)
    (ne_colon_of_mem_pathChars ht) (hcolon _) (hcolon _) hchars
  have hkind : s.kind = t.kind :=
    String.toList_injective
      (List.append_cancel_right (List.append_cancel_left (List.cons.inj hrest).2))
  exact congrArg₂ Stranger.mk (pathChars_injective hs ht hpath) hkind

/-! ## Other members -/

/-- The names of the members that the search looks at. -/
def searchedNames : List String :=
  "type" :: nodeMembers

/-- Whether a value is another one in which the value of a member that the search does not look at is
replaced. -/
inductive Swaps : Value → Value → Prop
  /-- A member of the object itself is replaced. -/
  | here {key : Value} (hkey : ∀ name ∈ searchedNames, key ≠ .text name)
    (before after : List (Value × Value)) (v w : Value) :
    Swaps (.map (before ++ (key, v) :: after)) (.map (before ++ (key, w) :: after))
  /-- The object is in a member. -/
  | member {v w : Value} (h : Swaps v w) (key : Value) (before after : List (Value × Value)) :
    Swaps (.map (before ++ (key, v) :: after)) (.map (before ++ (key, w) :: after))
  /-- The object is in an item. -/
  | item {v w : Value} (h : Swaps v w) (before after : List Value) :
    Swaps (.list (before ++ v :: after)) (.list (before ++ w :: after))

/-- Whether two values look alike to the search: as the type of an object, and as what may hold
nodes. -/
structure LooksLike (v w : Value) : Prop where
  type : ∀ kind, v = .text kind ↔ w = .text kind
  strangers : ∀ path, strangersAt path v = strangersAt path w

theorem LooksLike.refl (v : Value) : LooksLike v v :=
  ⟨fun _ => Iff.rfl, fun _ => rfl⟩

/-- Whether two objects have members that look alike to the search, where it looks. -/
def MembersLookLike (entries entries' : List (Value × Value)) : Prop :=
  ∀ name ∈ searchedNames, Option.Rel LooksLike (Value.find? name entries) (Value.find? name entries')

theorem ownStranger_congr {entries entries' : List (Value × Value)}
    (h : MembersLookLike entries entries') (path : List Step) :
    ownStranger path entries = ownStranger path entries' := by
  have htype := h "type" List.mem_cons_self
  unfold ownStranger
  generalize Value.find? "type" entries = x at htype ⊢
  generalize Value.find? "type" entries' = y at htype ⊢
  cases htype with
  | none => rfl
  | @some v w h =>
    cases v with
    | text kind =>
      obtain rfl := (h.type kind).mp rfl
      rfl
    | _ =>
      cases w with
      | text kind => cases (h.type kind).mpr rfl
      | _ => rfl

/-- Objects look alike if their members do where the search looks. -/
theorem MembersLookLike.looksLike {entries entries' : List (Value × Value)}
    (h : MembersLookLike entries entries') : LooksLike (.map entries) (.map entries') where
  type _ := ⟨nofun, nofun⟩
  strangers path := by
    rw [strangersAt, strangersAt, ownStranger_congr h]
    refine congrArg _ (List.flatMap_congr fun name hname => ?_)
    have hmember := h name (List.mem_cons_of_mem _ hname)
    rw [strangersUnder_eq, strangersUnder_eq]
    generalize Value.find? name entries = x at hmember ⊢
    generalize Value.find? name entries' = y at hmember ⊢
    cases hmember with
    | none => rfl
    | some hvw => exact hvw.strangers _

theorem find?_append (name : String) (before : List (Value × Value)) (key v : Value)
    (after : List (Value × Value)) : Value.find? name (before ++ (key, v) :: after) =
      (Value.find? name before).or
        (if isNamed name key then some v else Value.find? name after) := by
  induction before with
  | nil => exact find?_cons name key v after
  | cons e before ih =>
    obtain ⟨k, w⟩ := e
    rw [List.cons_append, find?_cons, find?_cons, ih]
    split <;> rfl

theorem rel_refl (x : Option Value) : Option.Rel LooksLike x x := by
  cases x with
  | none => exact .none
  | some v => exact .some (.refl v)

/-- The value of one entry may be another one if it looks alike or is not looked at. -/
theorem membersLookLike_of_entry {key v w : Value}
    (h : LooksLike v w ∨ ∀ name ∈ searchedNames, isNamed name key = false)
    (before after : List (Value × Value)) :
    MembersLookLike (before ++ (key, v) :: after) (before ++ (key, w) :: after) := by
  intro name hname
  rw [find?_append, find?_append]
  cases Value.find? name before with
  | some u => exact rel_refl (some u)
  | none =>
    rw [Option.none_or, Option.none_or]
    split
    · next hkey =>
      rcases h with hvw | hnot
      · exact .some hvw
      · rw [hnot name hname] at hkey
        cases hkey
    · exact rel_refl _

theorem strangersFrom_append (path : List Step) (i : Nat) (items more : List Value) :
    strangersFrom path i (items ++ more) =
      strangersFrom path i items ++ strangersFrom path (i + items.length) more := by
  induction items generalizing i with
  | nil => rw [strangersFrom]; rfl
  | cons v items ih =>
    rw [List.cons_append, strangersFrom, strangersFrom, ih, List.append_assoc, List.length_cons,
      Nat.add_right_comm, Nat.add_assoc]

theorem isNamed_eq_false {name : String} {key : Value} (h : key ≠ .text name) :
    isNamed name key = false := by
  unfold isNamed
  split
  · next s =>
    rw [beq_eq_false_iff_ne]
    exact fun heq => h (congrArg _ heq)
  · rfl

/-- **The search does not see replacements.** By induction on the way to the object. -/
theorem Swaps.looksLike {v w : Value} (h : Swaps v w) : LooksLike v w := by
  induction h with
  | here hkey before after v w =>
    refine (membersLookLike_of_entry (.inr fun name hname => ?_) before after).looksLike
    exact isNamed_eq_false (hkey name hname)
  | member _ key before after ih => exact (membersLookLike_of_entry (.inl ih) before after).looksLike
  | item _ before after ih =>
    refine ⟨fun _ => ⟨nofun, nofun⟩, fun path => ?_⟩
    rw [strangersAt, strangersAt, strangersFrom_append, strangersFrom_append, strangersFrom,
      strangersFrom, ih.strangers]

/-! ## All reports -/

/-- **What is reported.** The reports on a document are pairwise different and come in the order in
which its nodes are written. They are those on the objects of unknown kind that a path of members for
nodes leads to; each names the path and the kind of one stranger only. The value of a member that the
search does not look at may be any other one. -/
theorem strangers_reported (start : String) (v : Value) :
    ((strangers v).map (Stranger.message start)).Nodup ∧
    (strangers v).Pairwise (fun s t => Precedes s.path t.path) ∧
    (∀ s, s ∈ strangers v ↔ HasStranger v s.path s.kind) ∧
    (∀ s ∈ strangers v, ∀ t : Stranger, IsNodePath t.path →
      t.message start = s.message start → t = s) ∧
    ∀ w, Swaps v w → strangers w = strangers v := by
  have hpath {s : Stranger} (hs : s ∈ strangers v) : IsNodePath s.path :=
    (mem_strangers_iff.mp hs).isNodePath
  have horder := pairwise_strangersAt [] v
  refine ⟨?_, horder, fun s => mem_strangers_iff, fun s hs t ht heq => ?_, fun w hw => ?_⟩
  · refine List.pairwise_map.mpr (horder.imp_of_mem fun hs ht hst heq => ?_)
    rw [message_injective (hpath hs) (hpath ht) heq] at hst
    exact not_precedes_self _ hst
  · exact message_injective ht (hpath hs) heq
  · exact (hw.looksLike.strangers []).symm

/-- A document with a chart, and with an action that submits some data. -/
def submission (data : Value) : Value :=
  .map [(.text "body", .list [.map [(.text "type", .text "Chart")]]),
    (.text "actions", .list [.map [(.text "type", .text "Action.Submit"), (.text "data", data)]])]

/-- The chart is reported, and not what is submitted. -/
theorem strangers_reported_submission :
    (strangers (submission .null)).map (Stranger.message "card") =
      ["card.body[0]: Unknown element type 'Chart' will be omitted"] ∧
    strangers (submission (.map [(.text "type", .text "Bell")])) =
      strangers (submission .null) := by
  have hdata : ∀ name ∈ searchedNames, Value.text "data" ≠ .text name := by
    intro name hname heq
    rw [← Value.text.inj heq] at hname
    exact absurd hname (by decide)
  have hswaps : Swaps (submission .null) (submission (.map [(.text "type", .text "Bell")])) := by
    refine .member ?_ (.text "actions") [_] []
    refine .item ?_ [] []
    exact .here hdata [_] [] _ _
  obtain ⟨-, -, -, -, hblind⟩ := strangers_reported "card" (submission .null)
  exact ⟨by decide, hblind _ hswaps⟩

end Placard.Document
