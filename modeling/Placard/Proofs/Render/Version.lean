import Mathlib.Data.Prod.Lex
import Placard.Proofs.Number.Reading
import Placard.Proofs.Render.Heedless

/-!
# The check of the version

A version is read part by part. All parts have to be whole numbers, and the first two of them count;
so further parts change nothing (`Version.read_extended`). That needs care with the blanks at the end
of a version: they are dropped first, but in front of further parts they belong to a part, and there
just white space is dropped.

What a card says of its version is the first warning of its pass, and nothing else in the pass
depends on the version (`render_version`).
-/

namespace Placard.Render

open Text Number Document

/-! ## Parts -/

namespace Version

/-- The parts of a version. -/
def parts (s : String) : List (List Char) :=
  cutAt '.' (trim s.toList)

/-- The version that the numbers of its parts give. -/
def ofParts (is : List Int) : Version :=
  ⟨is.headD 0, (is.drop 1).headD 0⟩

/-- A version with more parts behind it. -/
def extended (s : String) (more : List (List Char)) : String :=
  String.ofList (s.toList ++ more.flatMap ('.' :: ·))

/-- The numbers that the parts of a text give, if all of them do. -/
def numbers? (cs : List Char) : Option (List Int) :=
  (cutAt '.' cs).mapM looseInt?

theorem mapM_looseInt?_eq_some_iff {ps : List (List Char)} {is : List Int} :
    ps.mapM looseInt? = some is ↔ ps.map looseInt? = is.map some := by
  induction ps generalizing is with
  | nil => cases is <;> simp
  | cons p ps ih =>
    rw [List.mapM_cons]
    cases hp : looseInt? p with
    | none => cases is <;> simp [hp]
    | some i =>
      cases is with
      | nil => cases hps : ps.mapM looseInt? <;> simp
      | cons j js =>
        simp only [List.map_cons, hp, List.cons.injEq, Option.some_inj, ← ih]
        cases hps : ps.mapM looseInt? <;> simp

theorem toOption_read (s : String) :
    (read s).toOption = (numbers? (trim s.toList)).map ofParts := by
  have hparts (ps : List (List Char)) : (ps.mapM readPart).toOption = ps.mapM looseInt? := by
    induction ps with
    | nil => rfl
    | cons p ps ih =>
      rw [List.mapM_cons, List.mapM_cons, ← ih, readPart]
      cases looseInt? p with
      | none => rfl
      | some i => cases ps.mapM readPart <;> rfl
  unfold read numbers?
  rw [← hparts]
  cases (cutAt '.' (trim s.toList)).mapM readPart <;> rfl

/-- **The first two parts count.** They are what is read, if all parts are whole numbers. -/
theorem read_eq_ok_iff {s : String} {v : Version} : read s = .ok v ↔
    ∃ is : List Int, (parts s).map looseInt? = is.map some ∧ v = ofParts is := by
  have hok : read s = .ok v ↔ (read s).toOption = some v := by
    cases read s <;> simp [Except.toOption]
  rw [hok, toOption_read, Option.map_eq_some_iff]
  exact exists_congr fun is => and_congr mapM_looseInt?_eq_some_iff eq_comm

/-- **All parts are read.** A version with any part that is no whole number is no version. -/
theorem exists_read_eq_error_iff {s : String} :
    (∃ fault, read s = .error fault) ↔ ∃ part ∈ parts s, looseInt? part = none := by
  have hnone (ps : List (List Char)) :
      ps.mapM looseInt? = none ↔ ∃ p ∈ ps, looseInt? p = none := by
    induction ps with
    | nil => simp
    | cons p ps ih =>
      rw [List.mapM_cons, List.exists_mem_cons_iff, ← ih]
      cases looseInt? p <;> cases ps.mapM looseInt? <;> simp
  have herror : (∃ fault, read s = .error fault) ↔ (read s).toOption = none := by
    cases read s <;> simp [Except.toOption]
  rw [herror, toOption_read, Option.map_eq_none_iff]
  exact hnone _

/-! ## Further parts -/

theorem numbers?_append_cons (cs ds : List Char) : numbers? (cs ++ '.' :: ds) =
    (numbers? cs).bind fun is => (numbers? ds).map (is ++ ·) := by
  unfold numbers?
  rw [cutAt_append_cons, List.mapM_append]
  cases (cutAt '.' cs).mapM looseInt? <;> cases (cutAt '.' ds).mapM looseInt? <;> rfl

theorem numbers?_of_not_mem {part : List Char} (h : '.' ∉ part) :
    numbers? part = (looseInt? part).map ([·]) := by
  rw [numbers?, cutAt_of_not_mem h]
  cases hpart : looseInt? part <;> simp [hpart]

/-- White space behind the last part makes no difference. -/
theorem numbers?_append {after : List Char} (hafter : ∀ c ∈ after, isWhiteSpace c = true)
    (cs : List Char) : numbers? (cs ++ after) = numbers? cs := by
  have hpoint : '.' ∉ after := fun hmem => absurd (hafter _ hmem) (by decide)
  have hlast {part : List Char} (h : '.' ∉ part) : numbers? (part ++ after) = numbers? part := by
    rw [numbers?_of_not_mem h, ← looseInt?_append hafter, numbers?_of_not_mem]
    exact List.not_mem_append h hpoint
  by_cases hmem : '.' ∈ cs
  · obtain ⟨part, before, hcs, hpart⟩ := List.eq_append_cons_of_mem (List.mem_reverse.mpr hmem)
    have hsplit : cs = before.reverse ++ '.' :: part.reverse := by
      rw [← List.reverse_reverse cs, hcs]
      simp
    rw [hsplit, List.append_assoc, List.cons_append, numbers?_append_cons, numbers?_append_cons,
      hlast (by simpa using hpart)]
  · exact hlast hmem

/-- A text that further parts can stand behind: there is something in it, and white space at most is
dropped at its end. -/
structure IsExtensible (cs : List Char) : Prop where
  ne_nil : trim cs ≠ []
  trailing : ∀ c ∈ trailingBlanks cs, isWhiteSpace c = true

theorem IsExtensible.numbers?_dropLeading {cs : List Char} (h : IsExtensible cs) :
    numbers? (dropLeading isBlank cs) = numbers? (trim cs) := by
  rw [← trim_append_trailingBlanks h.ne_nil, numbers?_append h.trailing]

section

variable {cs part : List Char} {i : Int}

/-- A further part can have more parts behind it. -/
theorem IsExtensible.append (hpart : looseInt? part = some i) :
    IsExtensible (cs ++ '.' :: part) where
  ne_nil hnil := by
    have hblank : ∀ c ∈ cs ++ '.' :: part, isBlank c = true :=
      forall_mem_of_trimBy (p := isBlank) (fun _ hc => hc) (by
        rw [← trim, hnil]
        exact List.forall_mem_nil _)
    exact absurd (hblank '.' (by simp)) (by decide)
  trailing c hc := by
    have hmem : c ∈ part := by
      rw [trailingBlanks, List.mem_reverse, List.reverse_append, List.reverse_cons,
        List.append_assoc, List.takeWhile_append] at hc
      split at hc
      · -- the point is no blank
        rw [List.singleton_append, List.takeWhile_cons_of_neg (by decide), List.append_nil] at hc
        exact List.mem_reverse.mp hc
      · exact List.mem_reverse.mp (List.takeWhile_subset _ hc)
    exact isWhiteSpace_of_isWhole (isWhole_of_looseInt? hpart c hmem)
      (isBlank_of_mem_trailingBlanks c hc)

/-- **One part more.** -/
theorem numbers?_append_part (h : IsExtensible cs) (hpart : looseInt? part = some i) :
    numbers? (trim (cs ++ '.' :: part)) = (numbers? (trim cs)).map (· ++ [i]) := by
  have hdrop : dropLeading isBlank (cs ++ '.' :: part) = dropLeading isBlank cs ++ '.' :: part := by
    rw [dropLeading, List.dropWhile_append, if_neg]
    · rfl
    · rw [List.isEmpty_iff]
      intro hnil
      refine h.ne_nil ?_
      rw [trim, trimBy, dropLeading, hnil]
      rfl
  have hpoint : '.' ∉ part := fun hmem =>
    absurd (isWhole_of_looseInt? hpart _ hmem) (by decide +kernel)
  rw [← (IsExtensible.append hpart).numbers?_dropLeading, hdrop, numbers?_append_cons,
    h.numbers?_dropLeading, numbers?_of_not_mem hpoint, hpart]
  cases numbers? (trim cs) <;> rfl

end

/-- Some parts more. -/
theorem numbers?_append_parts {cs : List Char} (h : IsExtensible cs) {more : List (List Char)}
    (hmore : ∀ part ∈ more, (looseInt? part).isSome = true) :
    ∃ is, numbers? (trim (cs ++ more.flatMap ('.' :: ·))) = (numbers? (trim cs)).map (· ++ is) := by
  induction more generalizing cs with
  | nil => exact ⟨[], by simp⟩
  | cons part more ih =>
    rw [List.forall_mem_cons] at hmore
    obtain ⟨i, hi⟩ := Option.isSome_iff_exists.mp hmore.1
    have happend : IsExtensible (cs ++ '.' :: part) := .append hi
    obtain ⟨is, his⟩ := ih happend hmore.2
    refine ⟨i :: is, ?_⟩
    rw [List.flatMap_cons, ← List.append_assoc, his, numbers?_append_part h hi, Option.map_map]
    refine Option.map_congr fun js _ => ?_
    rw [Function.comp_apply, List.append_assoc, List.singleton_append]

/-- **Further parts change nothing.** -/
theorem read_extended {s : String} (hparts : 2 ≤ (parts s).length)
    (htrailing : ∀ c ∈ trailingBlanks s.toList, isWhiteSpace c = true) {more : List (List Char)}
    (hmore : ∀ part ∈ more, (looseInt? part).isSome = true) :
    (read (extended s more)).toOption = (read s).toOption := by
  have hne : trim s.toList ≠ [] := by
    intro hnil
    rw [parts, hnil] at hparts
    exact absurd hparts (by decide)
  obtain ⟨is, his⟩ := numbers?_append_parts ⟨hne, htrailing⟩ hmore
  rw [toOption_read, toOption_read, extended, String.toList_ofList, his, Option.map_map]
  refine Option.map_congr fun js hjs => ?_
  have hlength := congrArg List.length (mapM_looseInt?_eq_some_iff.mp hjs)
  rw [List.length_map, List.length_map] at hlength
  rw [parts, hlength] at hparts
  match js, hparts with
  | i :: j :: js, _ => rfl

end Version

/-! ## What is said of a version -/

/-- Whether a warning is about the version of a card. -/
def Warning.isOfVersion : Warning → Bool
  | .noVersion | .unreadableVersion _ | .newerVersion _ => true
  | .unsupported _ | .remark _ => false

/-- What there is to say of a version. -/
inductive Judged : Option String → Option Warning → Prop
  | absent : Judged none (some .noVersion)
  | empty : Judged (some "") (some .noVersion)
  | unreadable {s : String} {fault : VersionFault} (ne : s ≠ "")
    (unread : Version.read s = .error fault) : Judged (some s) (some (.unreadableVersion s))
  | newer {s : String} {v : Version} (ne : s ≠ "") (read : Version.read s = .ok v)
    (later : toLex (1, 0) < toLex (v.major, v.minor)) : Judged (some s) (some (.newerVersion s))
  | supported {s : String} {v : Version} (ne : s ≠ "") (read : Version.read s = .ok v)
    (notLater : ¬ toLex (1, 0) < toLex (v.major, v.minor)) : Judged (some s) none

theorem isLater_supported_iff {v : Version} :
    v.isLater .supported = true ↔ toLex (1, 0) < toLex (v.major, v.minor) := by
  rw [Prod.Lex.toLex_lt_toLex, Version.isLater, Bool.or_eq_true, Bool.and_eq_true,
    decide_eq_true_eq, decide_eq_true_eq, beq_iff_eq]
  exact or_congr Iff.rfl (and_congr eq_comm Iff.rfl)

theorem judged (version : Option String) : Judged version (versionWarning? version) := by
  cases version with
  | none => exact .absent
  | some s =>
    by_cases hs : s = ""
    · subst hs
      exact .empty
    · have hfilter : (some s).filter (!·.isEmpty) = some s := by
        rw [Option.filter_some, if_pos (by simpa using hs)]
      unfold versionWarning?
      rw [hfilter]
      dsimp only
      cases hread : Version.read s with
      | error fault => exact .unreadable hs hread
      | ok v =>
        dsimp only
        split
        · next hlater => exact .newer hs hread (isLater_supported_iff.mp hlater)
        · next hlater => exact .supported hs hread (mt isLater_supported_iff.mpr hlater)

namespace Judged

variable {version : Option String} {w : Option Warning} {s : String}

theorem isOfVersion (h : Judged version w) : ∀ a ∈ w, a.isOfVersion = true := by
  cases h <;> simp [Warning.isOfVersion]

theorem noVersion_iff (h : Judged version w) :
    w = some .noVersion ↔ version = none ∨ version = some "" := by
  cases h with
  | absent => simp
  | empty => simp
  | unreadable ne | newer ne | supported ne => simp [ne]

theorem unreadable_iff (h : Judged version w) : w = some (.unreadableVersion s) ↔
    version = some s ∧ s ≠ "" ∧ ∃ fault, Version.read s = .error fault := by
  constructor
  · rintro rfl
    cases h with
    | unreadable ne unread => exact ⟨rfl, ne, _, unread⟩
  · rintro ⟨rfl, hne, fault, hread⟩
    cases h with
    | empty => exact absurd rfl hne
    | unreadable => rfl
    | newer _ read | supported _ read =>
      rw [hread] at read
      cases read

theorem newer_iff (h : Judged version w) : w = some (.newerVersion s) ↔
    version = some s ∧ s ≠ "" ∧
      ∃ v, Version.read s = .ok v ∧ toLex (1, 0) < toLex (v.major, v.minor) := by
  constructor
  · rintro rfl
    cases h with
    | newer ne read later => exact ⟨rfl, ne, _, read, later⟩
  · rintro ⟨rfl, hne, v, hread, hlater⟩
    cases h with
    | empty => exact absurd rfl hne
    | unreadable _ unread =>
      rw [hread] at unread
      cases unread
    | newer => rfl
    | supported _ read notLater =>
      rw [hread] at read
      obtain rfl := Except.ok.inj read
      exact absurd hlater notLater

end Judged

/-! ## The pass -/

theorem announce_run (version : Option String) (source : IdSource) :
    announce version source {} = (.ok (), { warnings := (versionWarning? version).toList }) := by
  unfold announce
  cases versionWarning? version <;> rfl

namespace Session.IsThinned

variable {s : Session} (h : s.IsThinned)

include h

/-- Nothing that is rendered for a card depends on its version. -/
theorem render_withVersion (c : Card) (version : Option String) :
    s.stage.render (.element (.card { c with version := version })) =
      s.stage.render (.element (.card c)) := by
  have hwithin (depth : Nat) :
      s.stage.renderWithin depth (.element (.card { c with version := version })) =
        s.stage.renderWithin depth (.element (.card c)) := by
    cases depth with
    | zero => rfl
    | succ depth =>
      have hkind : (Node.element (.card { c with version := version })).kind =
        (Node.element (.card c)).kind := rfl
      unfold Stage.renderWithin
      rw [hkind]
      cases hget : s.stage.renderers.get? (Node.element (.card c)).kind with
      | none => rfl
      | some renderer =>
        rw [h.renderers _ renderer hget]
        rfl
  have hheight : (Node.element (.card { c with version := version })).height =
      (Node.element (.card c)).height := by
    obtain ⟨⟩ := c
    rfl
  unfold Stage.render
  rw [hheight]
  exact hwithin _

/-- What a card is rendered to, whatever its version is: what is said of the version comes before all
other warnings. -/
theorem exists_render (source : IdSource) (c : Card) :
    ∃ (x : Except Fault Tag) (kinds : List String), ∀ version,
      s.render source (some { c with version := version }) =
        match x with
        | .ok tag => .ok ⟨tag, (versionWarning? version).toList ++ unsupported kinds⟩
        | .error cause => .error (.failed cause c.fallbackText) := by
  have hheedless : Heedless (s.stage.render (.element (.card c)) >>= shownTag c) := by
    refine (h.heedless_render _).bind fun tag => ?_
    cases tag with
    | none => exact (Quiet.ofExcept (.error _)).heedless
    | some t => exact .pure t
  obtain ⟨kinds, hsame⟩ := hheedless source {}
  refine ⟨((s.stage.render (.element (.card c)) >>= shownTag c) source {}).1, kinds,
    fun version => ?_⟩
  have hpass : cardPass s.stage { c with version := version } source {} =
      (s.stage.render (.element (.card c)) >>= shownTag c) source
        { warnings := (versionWarning? version).toList } := by
    rw [cardPass_eq, h.render_withVersion c version, run_bind_ok (announce_run version source)]
    rfl
  unfold Session.render
  dsimp only
  rw [hpass, hsame]
  cases ((s.stage.render (.element (.card c)) >>= shownTag c) source {}).1 <;> rfl

end Session.IsThinned

/-! ## Versions and cards -/

/-- What a rendered card says of its version, beside the same card of version 1.0. -/
structure ReportsVersion (version : Option String) (rendered plain : Rendered) : Prop where
  missing : .noVersion ∈ rendered.warnings ↔ version = none ∨ version = some ""
  unreadable : ∀ s, .unreadableVersion s ∈ rendered.warnings ↔
    version = some s ∧ s ≠ "" ∧ ∃ fault, Version.read s = .error fault
  newer : ∀ s, .newerVersion s ∈ rendered.warnings ↔ version = some s ∧ s ≠ "" ∧
    ∃ v, Version.read s = .ok v ∧ toLex (1, 0) < toLex (v.major, v.minor)
  /-- There is one warning on the version at most, and no other comes before it. -/
  first : ∃ said, rendered.warnings = said ++ plain.warnings ∧ said.length ≤ 1 ∧
    ∀ w ∈ said, w.isOfVersion = true
  rest : ∀ w ∈ plain.warnings, w.isOfVersion = false
  tag : rendered.tag = plain.tag

theorem reportsVersion (version : Option String) (tag : Tag) (kinds : List String) :
    ReportsVersion version ⟨tag, (versionWarning? version).toList ++ unsupported kinds⟩
      ⟨tag, (versionWarning? (some "1.0")).toList ++ unsupported kinds⟩ := by
  have hplain : versionWarning? (some "1.0") = none := by decide
  have hmem {w : Warning} (hw : w.isOfVersion = true) :
      w ∈ (versionWarning? version).toList ++ unsupported kinds ↔
        versionWarning? version = some w := by
    rw [List.mem_append, Option.mem_toList, or_iff_left]
    intro hother
    obtain ⟨kind, -, rfl⟩ := List.mem_map.mp hother
    cases hw
  rw [hplain]
  exact {
    missing := (hmem rfl).trans (judged version).noVersion_iff
    unreadable := fun s => (hmem rfl).trans (judged version).unreadable_iff
    newer := fun s => (hmem rfl).trans (judged version).newer_iff
    first := ⟨_, rfl, Option.length_toList_le, fun w hw =>
      (judged version).isOfVersion w (Option.mem_toList.mp hw)⟩
    rest := by
      intro w hw
      obtain ⟨kind, -, rfl⟩ := List.mem_map.mp hw
      rfl
    tag := rfl }

/-- **The check of the version.** Parts behind a version change nothing if they are whole numbers and
the version has two parts already, and white space at most behind those. A version with any part that
is no whole number is not read; otherwise the first two parts are. Whatever renderers were removed, a
card fails as it does with version 1.0, or its tag and the warnings behind the first are those of
version 1.0; and the first warning says what is to be said of the version, if anything is. -/
theorem render_version :
    (∀ s more, 2 ≤ (Version.parts s).length →
      (∀ c ∈ trailingBlanks s.toList, isWhiteSpace c = true) →
      (∀ part ∈ more, (looseInt? part).isSome = true) →
        (Version.read (Version.extended s more)).toOption = (Version.read s).toOption) ∧
    (∀ s, (∃ fault, Version.read s = .error fault) ↔
      ∃ part ∈ Version.parts s, looseInt? part = none) ∧
    (∀ s v, Version.read s = .ok v ↔
      ∃ is : List Int, (Version.parts s).map looseInt? = is.map some ∧ v = Version.ofParts is) ∧
    ∀ (host : Host.Config) (extensions removed : List String) (source : IdSource) (c : Card),
      let s := ({ host := host, extensions := extensions } : Session).without removed
      (∀ fault, s.render source (some c) = .error fault ↔
        s.render source (some { c with version := some "1.0" }) = .error fault) ∧
      ∀ rendered, s.render source (some c) = .ok rendered → ∃ plain,
        s.render source (some { c with version := some "1.0" }) = .ok plain ∧
          ReportsVersion c.version rendered plain := by
  refine ⟨fun s more hparts htrailing hmore => Version.read_extended hparts htrailing hmore,
    fun s => Version.exists_read_eq_error_iff, fun s v => Version.read_eq_ok_iff,
    fun host extensions removed source c => ?_⟩
  obtain ⟨x, kinds, hrender⟩ :=
    (Session.isThinned_without host extensions removed).exists_render source c
  have hsame : Card.mk c.frame c.version c.body c.actions c.fallbackText c.backgroundImage = c := by
    obtain ⟨⟩ := c
    rfl
  have hself := hrender c.version
  rw [hsame] at hself
  have hplain := hrender (some "1.0")
  dsimp only
  cases x with
  | error cause =>
    refine ⟨fun fault => by rw [hself, hplain], fun rendered h => ?_⟩
    rw [hself] at h
    cases h
  | ok tag =>
    refine ⟨fun fault => by rw [hself, hplain]; simp, fun rendered h => ?_⟩
    rw [hself] at h
    obtain rfl := Except.ok.inj h
    exact ⟨_, hplain, reportsVersion c.version tag kinds⟩

/-- A card for a later version, with a chart in it. -/
def laterCard : Card :=
  { cardOf [.unknown { kind := "Chart" }] [] with version := some "1.3" }

/-- A version with a blank behind it gets two parts more, and the card is rendered where images are
not. -/
theorem render_version_later :
    (Version.read (Version.extended "1.2 " [['0'], [' ', '7']])).toOption = some ⟨1, 2⟩ ∧
    ∃ rendered plain,
      (({} : Session).without ["Image"]).render (listedIds ["a"]) (some laterCard) =
        .ok rendered ∧
      rendered.warnings = [.newerVersion "1.3", .unsupported "Chart"] ∧
      ReportsVersion (some "1.3") rendered plain := by
  refine ⟨?_, ?_⟩
  · rw [render_version.1 "1.2 " [['0'], [' ', '7']] (by decide)
      (forall_mem_of_all (by decide)) (by decide)]
    decide
  · obtain ⟨plain, -, hplain⟩ := (render_version.2.2.2 {} Markdown.defaultExtensions ["Image"]
      (listedIds ["a"]) laterCard).2 _ rfl
    exact ⟨_, plain, rfl, rfl, hplain⟩

/-- **An information separator at the end.** It is dropped there, but in front of a further part it
belongs to the last part, which is no whole number then. -/
theorem read_extended_separator :
    Version.parts "1.2\x1c" = [['1'], ['2']] ∧ looseInt? ['0'] = some 0 ∧
      (Version.read "1.2\x1c").toOption = some ⟨1, 2⟩ ∧
      (Version.read (Version.extended "1.2\x1c" [['0']])).toOption = none := by
  decide

end Placard.Render
