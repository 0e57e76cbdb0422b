import Mathlib.Data.List.Basic
import Placard.Proofs.Settings.Entries

/-!
# What the sources give

Variables are gathered by their names in small letters, so that what is found under a name depends on
the variables of that name alone (`filter_byName`). Of the settings just the extensions of Markdown
can fail to be given a value; what the others get is told apart from that (`fromVariables_names`).

The extensions can be set on three routes: as a value that is given outright, by a variable of the
environment, and by a variable of a file. What arrives on a route is a text; a variable is decoded on
the way (`arriving`). Where nothing else sets the extensions, the entries of all sources are then
those without it, and its value under the name of the extensions (`entriesOf_of_sets`).
-/

namespace Placard.Settings

open Text Data Record

/-! ## One item more -/

section

variable {α : Type} {x : α} {xs ys : List α} {p : α → Bool}

/-- The second list is the first one with an item more, at some place. -/
def IsWith (x : α) (xs ys : List α) : Prop :=
  ∃ before after, xs = before ++ after ∧ ys = before ++ x :: after

/-- Nothing is added to a selection that the item does not belong to. -/
theorem IsWith.filter_of_not (h : IsWith x xs ys) (hx : p x = false) :
    ys.filter p = xs.filter p := by
  obtain ⟨before, after, rfl, rfl⟩ := h
  rw [List.filter_append, List.filter_append, List.filter_cons_of_neg (by simp [hx])]

/-- The item is all of a selection that nothing else belongs to. -/
theorem IsWith.filter_of (h : IsWith x xs ys) (hx : p x = true) (hxs : ∀ a ∈ xs, p a = false) :
    ys.filter p = [x] := by
  obtain ⟨before, after, rfl, rfl⟩ := h
  have hnone := List.filter_eq_nil_iff.mpr fun a ha => Bool.eq_false_iff.mp (hxs a ha)
  rw [List.filter_append, List.append_eq_nil_iff] at hnone
  rw [List.filter_append, List.filter_cons_of_pos hx, hnone.1, hnone.2, List.nil_append]

end

/-! ## Variables by their names -/

theorem filter_writeLast (p : String → Bool) (name : String) (value : Option String)
    (known : List (String × Option String)) :
    (byName.writeLast name value known).filter (fun v => p v.1) =
      if p name then byName.writeLast name value (known.filter fun v => p v.1)
      else known.filter fun v => p v.1 := by
  induction known with
  | nil => cases hp : p name <;> simp [byName.writeLast, hp]
  | cons v rest ih =>
    rw [byName.writeLast]
    by_cases hname : v.1 = name
    · cases hp : p name <;> simp [byName.writeLast, hname, hp]
    · cases hp : p v.1 <;> cases hp' : p name <;> simp_all [byName.writeLast]

/-- What is gathered under some names comes from the variables of these names. -/
theorem filter_byName (p : String → Bool) (vars : List (String × Option String)) :
    (byName vars).filter (fun v => p v.1) = byName (vars.filter fun v => p (lowered v.1)) := by
  unfold byName
  have hfold (known : List (String × Option String)) :
      (vars.foldl (fun known v => byName.writeLast (lowered v.1) v.2 known) known).filter
          (fun v => p v.1) =
        (vars.filter fun v => p (lowered v.1)).foldl
          (fun known v => byName.writeLast (lowered v.1) v.2 known)
          (known.filter fun v => p v.1) := by
    induction vars generalizing known with
    | nil => rfl
    | cons v vars ih =>
      rw [List.foldl_cons, ih, filter_writeLast]
      cases hp : p (lowered v.1) with
      | false => rw [List.filter_cons_of_neg (by simp [hp]), if_neg (by decide)]
      | true =>
        rw [if_pos rfl, List.filter_cons_of_pos (by exact hp)]
        rfl
  exact hfold []

theorem setting?_byName (vars : List (String × Option String)) (name : String) :
    setting? (byName vars) name =
      (byName (vars.filter fun v => lowered v.1 == mark ++ name)).head?.bind (·.2) := by
  rw [← filter_byName (· == mark ++ name), List.head?_filter]
  rfl

theorem strays_eq_filter (vars : List (String × Option String)) :
    strays vars = strays (vars.filter fun v => isStray v.1) := by
  unfold strays
  rw [List.filterMap_filter]
  refine congrArg (vars.filterMap ·) (funext fun v => ?_)
  cases hstray : isStray v.1 <;> cases v.2 <;> simp

/-! ## The variable of the extensions -/

/-- Whether a variable is that of the extensions. -/
def isExtensions (name : String) : Bool :=
  lowered name == mark ++ extensionsName

section

variable {name : String} {value : Option String} {vars vars' : List (String × Option String)}

theorem setting?_extensionsName (vars : List (String × Option String)) :
    setting? (byName vars) extensionsName =
      (byName (vars.filter fun v => isExtensions v.1)).head?.bind (·.2) :=
  setting?_byName vars extensionsName

theorem setting?_eq_none (hvars : ∀ v ∈ vars, isExtensions v.1 = false) :
    setting? (byName vars) extensionsName = none := by
  rw [setting?_extensionsName,
    List.filter_eq_nil_iff.mpr fun v hv => Bool.eq_false_iff.mp (hvars v hv)]
  rfl

variable (hname : isExtensions name = true) (h : IsWith (name, value) vars vars')

include hname h

/-- The variable of the extensions is found, whatever others there are. -/
theorem setting?_eq (hvars : ∀ v ∈ vars, isExtensions v.1 = false) :
    setting? (byName vars') extensionsName = value := by
  rw [setting?_extensionsName, h.filter_of hname hvars]
  rfl

/-- It makes no difference to other settings. -/
theorem setting?_of_ne {other : String} (hother : other ≠ extensionsName) :
    setting? (byName vars') other = setting? (byName vars) other := by
  have hne : (lowered name == mark ++ other) = false := by
    rw [beq_iff_eq.mp hname, beq_eq_false_iff_ne]
    exact fun heq => hother ((String.append_right_inj mark).mp heq).symm
  rw [setting?_byName, setting?_byName, h.filter_of_not hne]

/-- It has a meaning. -/
theorem strays_byName : strays (byName vars') = strays (byName vars) := by
  have hstray : isStray (lowered name) = false := by
    rw [beq_iff_eq.mp hname]
    decide
  rw [strays_eq_filter, strays_eq_filter (byName vars), filter_byName, filter_byName,
    h.filter_of_not hstray]

end

/-! ## The settings that are given -/

/-- What variables give settings that are texts as they are. -/
def plainSettings (vars : List (String × Option String)) (ns : List String) :
    List (String × Value) :=
  ns.filterMap fun n => (setting? vars n).map fun s => (n, .text s)

theorem plainSettings_cons (vars : List (String × Option String)) (n : String) (ns : List String) :
    plainSettings vars (n :: ns) =
      ((setting? vars n).map fun s => (n, Value.text s)).toList ++ plainSettings vars ns := by
  rw [plainSettings, List.filterMap_cons]
  cases setting? vars n <;> rfl

/-- The names of the settings in front of the extensions. -/
def frontNames : List String :=
  names.take 7

/-- What variables give all settings, where the extensions get this value. -/
def givenSettings (vars : List (String × Option String)) (own : Option Value) :
    List (String × Value) :=
  plainSettings vars frontNames ++
    (own.toList.map (extensionsName, ·) ++ plainSettings vars ["page_title"])

theorem decoded_of_ne {name : String} (h : name ≠ extensionsName) (source : Source)
    (value : String) : decoded source name value = .ok (some (.text value)) :=
  if_neg h

theorem fromVariables_append (source : Source) (vars : List (String × Option String))
    {front : List String} (h : extensionsName ∉ front) (back : List String) :
    fromVariables source vars (front ++ back) =
      (fromVariables source vars back).map (named (plainSettings vars front) ++ ·) := by
  induction front with
  | nil =>
    rw [List.nil_append]
    cases fromVariables source vars back <;> rfl
  | cons n front ih =>
    rw [List.mem_cons, not_or] at h
    rw [List.cons_append, fromVariables, ih h.2]
    cases hn : setting? vars n with
    | none =>
      rw [plainSettings_cons, hn]
      cases fromVariables source vars back <;> rfl
    | some value =>
      rw [plainSettings_cons, hn]
      dsimp only
      rw [decoded_of_ne (Ne.symm h.1)]
      cases fromVariables source vars back <;> rfl

theorem named_givenSettings (vars : List (String × Option String)) (own : Option Value) :
    named (givenSettings vars own) = named (plainSettings vars frontNames) ++
      (own.toList.map (Value.text extensionsName, ·) ++
        named (plainSettings vars ["page_title"])) := by
  rw [givenSettings, named, List.map_append, List.map_append, List.map_map]
  rfl

/-- The value that the variable of the extensions gives them. -/
def ownValue (source : Source) (vars : List (String × Option String)) :
    Except Fault (Option Value) :=
  match setting? vars extensionsName with
  | none => .ok none
  | some value => decoded source extensionsName value

/-- **What all variables give.** Only the value of the extensions can fail to be read. -/
theorem fromVariables_names (source : Source) (vars : List (String × Option String)) :
    fromVariables source vars names =
      (ownValue source vars).map fun own => named (givenSettings vars own) := by
  have hnames : names = frontNames ++ extensionsName :: ["page_title"] := rfl
  have hback : fromVariables source vars ["page_title"] =
      .ok (named (plainSettings vars ["page_title"])) := by
    have htitle : extensionsName ∉ ["page_title"] := by decide
    exact (fromVariables_append source vars htitle []).trans (congrArg Except.ok (List.append_nil _))
  rw [hnames, fromVariables_append source vars (by decide), fromVariables, hback, ownValue]
  simp only [named_givenSettings]
  cases setting? vars extensionsName with
  | none => rfl
  | some value =>
    dsimp only
    cases decoded source extensionsName value with
    | error fault => rfl
    | ok own => cases own <;> rfl

/-! ## The extensions among the settings that are given -/

theorem ne_of_mem_plainSettings {vars : List (String × Option String)} {ns : List String}
    (h : extensionsName ∉ ns) : ∀ m ∈ plainSettings vars ns, m.1 ≠ extensionsName := by
  intro m hm heq
  obtain ⟨n, hn, hvalue⟩ := List.mem_filterMap.mp hm
  obtain ⟨s, -, rfl⟩ := Option.map_eq_some_iff.mp hvalue
  exact h (heq ▸ hn)

theorem filter_ne_givenSettings (vars : List (String × Option String)) (own : Option Value) :
    (givenSettings vars own).filter (·.1 != extensionsName) =
      plainSettings vars frontNames ++ plainSettings vars ["page_title"] := by
  have hplain {ns : List String} (h : extensionsName ∉ ns) :
      (plainSettings vars ns).filter (·.1 != extensionsName) = plainSettings vars ns :=
    List.filter_eq_self.mpr fun m hm => bne_iff_ne.mpr (ne_of_mem_plainSettings h m hm)
  rw [givenSettings, List.filter_append, List.filter_append, hplain (by decide), hplain (by decide)]
  cases own <;> rfl

theorem filter_eq_givenSettings (vars : List (String × Option String)) (own : Option Value) :
    (givenSettings vars own).filter (·.1 == extensionsName) =
      own.toList.map (extensionsName, ·) := by
  have hplain {ns : List String} (h : extensionsName ∉ ns) :
      (plainSettings vars ns).filter (·.1 == extensionsName) = [] :=
    List.filter_eq_nil_iff.mpr fun m hm => by simpa using ne_of_mem_plainSettings h m hm
  rw [givenSettings, List.filter_append, List.filter_append, hplain (by decide), hplain (by decide)]
  cases own <;> rfl

theorem plainSettings_congr {vars vars' : List (String × Option String)} {ns : List String}
    (h : ∀ n, n ≠ extensionsName → setting? vars' n = setting? vars n) (hns : extensionsName ∉ ns) :
    plainSettings vars' ns = plainSettings vars ns := by
  refine List.filterMap_congr fun n hn => ?_
  rw [h n fun heq => hns (heq ▸ hn)]

/-! ## Routes -/

/-- The variables of the file. -/
def Sources.fileVariables (src : Sources) : List (String × Option String) :=
  match src.file with
  | some text => EnvFile.bindings src.environment (File.withLineFeeds text.toList)
  | none => []

/-- Nothing sets the extensions. -/
structure Sources.LeavesExtensions (src : Sources) : Prop where
  given : ∀ e ∈ src.given, e.1 ≠ extensionsName
  environment : ∀ v ∈ src.environment, isExtensions v.1 = false
  file : ∀ v ∈ src.fileVariables, isExtensions v.1 = false

/-- Where the extensions can be set. -/
inductive Route where
  | keyword
  | environment
  | file
deriving DecidableEq

/-- Sources that set the extensions to a text on a route, and else are as the given ones. -/
inductive Sets (s : String) (base : Sources) : Route → Sources → Prop
  | keyword {src : Sources} (given : IsWith (extensionsName, .text s) base.given src.given)
    (environment : src.environment = base.environment)
    (file : src.fileVariables = base.fileVariables) : Sets s base .keyword src
  | environment {src : Sources} {name : String} (named : isExtensions name = true)
    (given : src.given = base.given)
    (environment : IsWith (name, s) base.environment src.environment)
    (file : src.fileVariables = base.fileVariables) : Sets s base .environment src
  | file {src : Sources} {name : String} (named : isExtensions name = true)
    (given : src.given = base.given) (environment : src.environment = base.environment)
    (file : IsWith (name, some s) base.fileVariables src.fileVariables) : Sets s base .file src

/-- The source of variables that a route leads through. -/
def Route.source? : Route → Option Source
  | .keyword => none
  | .environment => some .environment
  | .file => some .file

/-- The value that arrives on a route. -/
def arriving (s : String) (route : Route) : Except Fault (Option Value) :=
  match route.source? with
  | none => .ok (some (.text s))
  | some source => decoded source extensionsName s

/-! ## All entries -/

/-- The entries of all sources, given the values that variables give the extensions. -/
def assembled (environment file : List (String × Option String)) (given : List (String × Value))
    (own own' : Option Value) : Entries :=
  overlaid (overlaid (named (givenSettings file own') ++ strays file)
    (named (givenSettings environment own))) (named given)

theorem entriesOf_eq (src : Sources) : entriesOf src =
    (ownValue .environment (byName (src.environment.map fun v => (v.1, some v.2)))).bind fun own =>
      (ownValue .file (byName src.fileVariables)).map fun own' =>
        assembled (byName (src.environment.map fun v => (v.1, some v.2)))
          (byName src.fileVariables) src.given own own' := by
  have hnone : byName [] = [] := rfl
  unfold entriesOf Sources.fileVariables
  cases src.file with
  | none =>
    dsimp only
    rw [hnone, fromVariables_names, fromVariables_names]
    cases ownValue .environment (byName (src.environment.map fun v => (v.1, some v.2))) <;> rfl
  | some text =>
    dsimp only
    rw [fromVariables_names, fromVariables_names]
    cases ownValue .environment (byName (src.environment.map fun v => (v.1, some v.2))) with
    | error fault => rfl
    | ok own => cases ownValue .file _ <;> rfl

theorem others_append (name : String) (es es' : Entries) :
    others name (es ++ es') = others name es ++ others name es' :=
  List.filter_append _ _

theorem find?_append (name : String) (es es' : Entries) : Value.find? name (es ++ es') =
    (Value.find? name es).or (Value.find? name es') := by
  unfold Value.find?
  rw [List.find?_append]
  cases es.find? _ <;> rfl

theorem others_named (name : String) (ms : List (String × Value)) :
    others name (named ms) = named (ms.filter (·.1 != name)) := by
  unfold others named
  rw [List.filter_map]
  rfl

theorem find?_named (name : String) (ms : List (String × Value)) :
    Value.find? name (named ms) = ((ms.filter (·.1 == name)).head?).map (·.2) := by
  rw [List.head?_filter]
  unfold Value.find? named
  rw [List.find?_map, Option.map_map]
  rfl

/-- No variable without a meaning has the name of the extensions. -/
theorem isNamed_of_mem_strays {vars : List (String × Option String)} :
    ∀ e ∈ strays vars, isNamed extensionsName e.1 = false := by
  intro e he
  obtain ⟨v, -, hv⟩ := List.mem_filterMap.mp he
  split at hv
  · split at hv
    · cases hv
    · next hstray =>
      obtain rfl := Option.some.inj hv
      refine beq_eq_false_iff_ne.mpr fun hname => hstray ?_
      rw [hname, Bool.or_eq_true]
      exact .inr (by decide)
  · cases hv

section

variable (environment file : List (String × Option String)) (given : List (String × Value))
  (own own' : Option Value)

/-- The entries but those of the extensions do not depend on what variables give the extensions. -/
theorem others_assembled : others extensionsName (assembled environment file given own own') =
    overlaid (overlaid (named (plainSettings file frontNames ++ plainSettings file ["page_title"]) ++
      strays file) (named (plainSettings environment frontNames ++
        plainSettings environment ["page_title"])))
      (named (given.filter (·.1 != extensionsName))) := by
  have hstrays : others extensionsName (strays file) = strays file :=
    List.filter_eq_self.mpr fun e he => by simp [isNamed_of_mem_strays e he]
  rw [assembled, others_overlaid, others_overlaid, others_append, others_named, hstrays,
    filter_ne_givenSettings, filter_ne_givenSettings]

/-- A value that is given outright wins over the environment, and the environment over the file. -/
theorem find?_assembled : Value.find? extensionsName (assembled environment file given own own') =
    ((given.filter (·.1 == extensionsName)).getLast?.map (·.2)).or (own.or own') := by
  have hstrays : Value.find? extensionsName (strays file) = none := by
    unfold Value.find?
    rw [Option.map_eq_none_iff, List.find?_eq_none]
    exact fun e he => Bool.eq_false_iff.mp (isNamed_of_mem_strays e he)
  have hfile : Value.find? extensionsName (named (givenSettings file own')) = own' := by
    rw [find?_named, filter_eq_givenSettings]
    cases own' <;> rfl
  rw [assembled, find?_overlaid, find?_overlaid, find?_append, hstrays, hfile,
    filter_eq_givenSettings, Option.or_none]
  cases own <;> rfl

end

/-! ## One route -/

/-- A variable that does not set the extensions gives them no value. -/
theorem ownValue_of_forall {vars : List (String × Option String)}
    (h : ∀ v ∈ vars, isExtensions v.1 = false) (source : Source) :
    ownValue source (byName vars) = .ok none := by
  rw [ownValue, setting?_eq_none h]

/-- The variable that sets the extensions gives them what is decoded from it. -/
theorem ownValue_of_isWith {name value : String} {vars vars' : List (String × Option String)}
    (hname : isExtensions name = true) (h : IsWith (name, some value) vars vars')
    (hvars : ∀ v ∈ vars, isExtensions v.1 = false) (source : Source) :
    ownValue source (byName vars') = decoded source extensionsName value := by
  rw [ownValue, setting?_eq hname h hvars]

theorem IsWith.map {α β : Type} {x : α} {xs ys : List α} (h : IsWith x xs ys) (f : α → β) :
    IsWith (f x) (xs.map f) (ys.map f) := by
  obtain ⟨before, after, rfl, rfl⟩ := h
  exact ⟨before.map f, after.map f, by simp, by simp⟩

/-- **One route.** Where nothing else sets the extensions, what arrives on a route is the value of the
extensions, and it makes no difference to the other entries. -/
theorem entriesOf_of_sets {base src : Sources} {s : String} {route : Route}
    (hbase : base.LeavesExtensions) (h : Sets s base route src) :
    ∃ es, entriesOf base = .ok es ∧ Value.find? extensionsName es = none ∧
      ∃ es' : Option Value → Entries, entriesOf src = (arriving s route).map es' ∧
        ∀ own, arriving s route = .ok own →
          others extensionsName (es' own) = others extensionsName es ∧
          Value.find? extensionsName (es' own) = own := by
  have hgiven : base.given.filter (·.1 == extensionsName) = [] :=
    List.filter_eq_nil_iff.mpr fun e he => by simpa using hbase.given e he
  have henvironment : ∀ v ∈ base.environment.map fun v => (v.1, some v.2),
      isExtensions v.1 = false := List.forall_mem_map.mpr hbase.environment
  have hown := ownValue_of_forall henvironment .environment
  have hown' := ownValue_of_forall hbase.file .file
  refine ⟨_, by rw [entriesOf_eq, hown, hown']; rfl, ?_, ?_⟩
  · rw [find?_assembled, hgiven]
    rfl
  -- on each route one source has the setting, and the other two are those of `base`
  cases h with
  | keyword given environment file =>
    refine ⟨fun _ => _, by rw [entriesOf_eq, environment, file, hown, hown']; rfl,
      fun own harrives => ?_⟩
    obtain rfl := Except.ok.inj harrives
    refine ⟨?_, ?_⟩
    · rw [others_assembled, others_assembled, given.filter_of_not (by simp)]
    · rw [find?_assembled, given.filter_of (by simp) fun e he => by simpa using hbase.given e he]
      rfl
  | environment hname given environment file =>
    have hwith := environment.map fun v => (v.1, some v.2)
    have hplain {ns : List String} (hns : extensionsName ∉ ns) :=
      plainSettings_congr (fun n hn => setting?_of_ne hname hwith hn) hns
    refine ⟨fun own => assembled (byName (src.environment.map fun v => (v.1, some v.2)))
      (byName base.fileVariables) base.given own none, ?_, fun own _ => ⟨?_, ?_⟩⟩
    · rw [entriesOf_eq, given, file, ownValue_of_isWith hname hwith henvironment, hown']
      rfl
    · rw [others_assembled, others_assembled, hplain (by decide), hplain (by decide)]
    · rw [find?_assembled, hgiven]
      cases own <;> rfl
  | file hname given environment file =>
    have hplain {ns : List String} (hns : extensionsName ∉ ns) :=
      plainSettings_congr (fun n hn => setting?_of_ne hname file hn) hns
    refine ⟨fun own => assembled (byName (base.environment.map fun v => (v.1, some v.2)))
      (byName src.fileVariables) base.given none own, ?_, fun own _ => ⟨?_, ?_⟩⟩
    · rw [entriesOf_eq, given, environment, ownValue_of_isWith hname file hbase.file, hown]
      rfl
    · rw [others_assembled, others_assembled, hplain (by decide), hplain (by decide),
        strays_byName hname file]
    · rw [find?_assembled, hgiven]
      rfl

end Placard.Settings
