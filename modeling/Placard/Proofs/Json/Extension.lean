import Placard.Proofs.Json.RoundTrip

/-!
# What follows a value

A reader takes the characters of a value and looks at one more at the most, to see where a number
ends. So a value that begins a text is read from every longer text too, and what makes that longer is
left over (`value_extend`). Only a number could take some of it, which is ruled out if what is left
over goes on with nothing that belongs to a number. More fuel than was enough changes nothing.
-/

namespace Placard.Json

open Text Number Data

variable {cs rest more : List Char}

/-- What does not begin with a character does not begin with it when it goes on. -/
theorem append_ne_cons {c : Char} (hne : cs ≠ []) (h : ∀ rest, cs = c :: rest → False)
    (more rest : List Char) : cs ++ more ≠ c :: rest := by
  obtain ⟨d, ds, rfl⟩ := List.exists_cons_of_ne_nil hne
  exact fun heq => h ds (congrArg (· :: ds) (List.cons.inj heq).1)

/-! ## Numbers -/

/-- Whether a text goes on with no digit. -/
abbrev EndsDigits (rest : List Char) : Prop :=
  ∀ c ∈ rest.head?, isAsciiDigit c = false

theorem spanDigits_extend {ds : List Nat} (h : spanDigits cs = (ds, rest))
    (hrest : EndsDigits (rest ++ more)) : spanDigits (cs ++ more) = (ds, rest ++ more) := by
  obtain ⟨rfl, rfl⟩ := Prod.mk.inj h
  have hdigits : ∀ c ∈ cs.takeWhile isAsciiDigit, isAsciiDigit c = true :=
    fun c hc => List.all_eq_true.mp List.all_takeWhile c hc
  have htake := takeWhile_append hdigits hrest
  have hdrop := dropLeading_append hdigits hrest
  rw [← List.append_assoc, List.takeWhile_append_dropWhile] at htake hdrop
  rw [spanDigits, htake]
  exact congrArg _ hdrop

theorem wholeDigits?_extend {ds : List Nat} (h : wholeDigits? cs = some (ds, rest))
    (hrest : EndsDigits (rest ++ more)) : wholeDigits? (cs ++ more) = some (ds, rest ++ more) := by
  unfold wholeDigits? at h
  split at h
  · next cs =>
    obtain ⟨rfl, rfl⟩ := Prod.mk.inj (Option.some.inj h)
    rfl
  next hzero =>
  split at h
  · cases h
  next hne =>
  have hspan : spanDigits cs = (ds, rest) := Option.some.inj h
  have hds : ds ≠ [] := fun heq => hne rest (heq ▸ hspan)
  have hcs : cs ≠ [] := by
    rintro rfl
    exact hds (Prod.mk.inj hspan).1.symm
  unfold wholeDigits?
  split
  · next after heq => exact absurd heq (append_ne_cons hcs hzero more after)
  · rw [spanDigits_extend hspan hrest]
    split
    · next heq => exact absurd (Prod.mk.inj heq).1 hds
    · rfl

theorem fractionDigits_extend {ds : List Nat} (h : fractionDigits cs = (ds, rest))
    (hrest : EndsDigits (rest ++ more)) (hpoint : '.' ∉ (rest ++ more).head?) :
    fractionDigits (cs ++ more) = (ds, rest ++ more) ∧ EndsDigits (cs ++ more) := by
  unfold fractionDigits at h
  split at h
  · next cs =>
    split at h
    · obtain ⟨rfl, rfl⟩ := Prod.mk.inj h
      exact absurd rfl hpoint
    · next hne =>
      have hds : ds ≠ [] := fun heq => hne rest (heq ▸ h)
      refine ⟨?_, fun c hc => ?_⟩
      · rw [List.cons_append, fractionDigits, spanDigits_extend h hrest]
        split
        · next heq => exact absurd (Prod.mk.inj heq).1 hds
        · rfl
      · obtain rfl := Option.some.inj hc
        rfl
  · obtain ⟨rfl, rfl⟩ := Prod.mk.inj h
    exact ⟨fractionDigits_of_head fun c hc heq => hpoint (heq ▸ hc), hrest⟩

theorem spanSign_extend {negative : Bool} (h : spanSign cs = (negative, rest)) (hne : rest ≠ []) :
    spanSign (cs ++ more) = (negative, rest ++ more) := by
  unfold spanSign at h
  split at h
  · obtain ⟨rfl, rfl⟩ := Prod.mk.inj h
    rfl
  · obtain ⟨rfl, rfl⟩ := Prod.mk.inj h
    rfl
  · next hminus hplus =>
    obtain ⟨rfl, rfl⟩ := Prod.mk.inj h
    unfold spanSign
    split
    · next after heq => exact absurd heq (append_ne_cons hne hminus more after)
    · next after heq => exact absurd heq (append_ne_cons hne hplus more after)
    · rfl

theorem exponentPart_extend {e : Option Int} (h : exponentPart cs = (e, rest))
    (hrest : Stops (rest ++ more)) : exponentPart (cs ++ more) = (e, rest ++ more) ∧
      EndsDigits (cs ++ more) ∧ '.' ∉ (cs ++ more).head? := by
  -- without an exponent the rest is all of the text, and what follows begins none
  have hsame (hcs : cs = rest) (he : e = none) : exponentPart (cs ++ more) = (e, rest ++ more) ∧
      EndsDigits (cs ++ more) ∧ '.' ∉ (cs ++ more).head? := by
    rw [hcs, he]
    exact ⟨exponentPart_of_head fun c hc => (hrest c hc).2.2, fun c hc => (hrest c hc).1,
      fun hc => (hrest '.' hc).2.1 rfl⟩
  unfold exponentPart at h
  split at h
  · next c cs =>
    split at h
    · next hletter =>
      cases hsign : spanSign cs with
      | mk negative digits =>
      rw [hsign] at h
      dsimp only at h
      split at h
      · obtain ⟨rfl, rfl⟩ := Prod.mk.inj h
        exact hsame rfl rfl
      · next ds after hds hspan =>
        obtain ⟨rfl, rfl⟩ := Prod.mk.inj h
        have hdigits : digits ≠ [] := by
          rintro rfl
          exact hds (Prod.mk.inj hspan).1.symm
        have hhead : isAsciiDigit c = false ∧ c ≠ '.' := by
          rw [Bool.or_eq_true, decide_eq_true_eq, decide_eq_true_eq] at hletter
          rcases hletter with rfl | rfl <;> decide
        refine ⟨?_, fun d hd => Option.some.inj hd ▸ hhead.1,
          fun hd => hhead.2 (Option.some.inj hd)⟩
        rw [List.cons_append, exponentPart, if_pos hletter, spanSign_extend hsign hdigits]
        dsimp only
        rw [spanDigits_extend hspan fun c hc => (hrest c hc).1]
        split
        · next heq => exact absurd (Prod.mk.inj heq).1 hds
        · next heq =>
          obtain ⟨rfl, rfl⟩ := Prod.mk.inj heq
          rfl
    · obtain ⟨rfl, rfl⟩ := Prod.mk.inj h
      exact hsame rfl rfl
  · obtain ⟨rfl, rfl⟩ := Prod.mk.inj h
    exact hsame rfl rfl

/-- A number without a sign is read as it is. -/
theorem number?_eq_unsigned? (h : ∀ rest, cs = '-' :: rest → False) :
    number? cs = unsigned? false cs := by
  rw [number?.eq_def]
  split
  next negative rest hsign =>
  split at hsign
  · next after => exact absurd rfl (h after)
  · obtain ⟨rfl, rfl⟩ := Prod.mk.inj hsign
    rfl

theorem unsigned?_extend {negative : Bool} {v : Value} (h : unsigned? negative cs = some (v, rest))
    (hrest : Stops (rest ++ more)) : unsigned? negative (cs ++ more) = some (v, rest ++ more) := by
  unfold unsigned? at h ⊢
  cases hwhole : wholeDigits? cs with
  | none =>
    rw [hwhole] at h
    cases h
  | some p =>
    obtain ⟨whole, behind⟩ := p
    rw [hwhole] at h
    cases hfraction : fractionDigits behind with
    | mk fraction after =>
    cases hexponent : exponentPart after with
    | mk exponent last =>
    simp only [hfraction, hexponent] at h
    have hlast : last = rest := by
      split at h
      · exact (Prod.mk.inj (Option.some.inj h)).2
      · exact (Prod.mk.inj (Option.some.inj h)).2
    obtain rfl := hlast
    obtain ⟨hexponent, hdigits, hpoint⟩ := exponentPart_extend hexponent hrest
    obtain ⟨hfraction, hdigits⟩ := fractionDigits_extend hfraction hdigits hpoint
    simp only [wholeDigits?_extend hwhole hdigits, hfraction, hexponent]
    split at h
    · next hint =>
      rw [if_pos hint, (Prod.mk.inj (Option.some.inj h)).1]
    · next hint =>
      rw [if_neg hint, (Prod.mk.inj (Option.some.inj h)).1]

/-- A number goes on as far as it did unless what follows belongs to it. -/
theorem number?_extend {v : Value} (h : number? cs = some (v, rest))
    (hrest : Stops (rest ++ more)) : number? (cs ++ more) = some (v, rest ++ more) := by
  have hne : cs ≠ [] := by
    rintro rfl
    cases h
  by_cases hminus : ∃ after, cs = '-' :: after
  · obtain ⟨after, rfl⟩ := hminus
    have hunsigned : unsigned? true after = some (v, rest) := h
    exact unsigned?_extend hunsigned hrest
  · have hminus' : ∀ after, cs = '-' :: after → False := fun after heq => hminus ⟨after, heq⟩
    rw [number?_eq_unsigned? hminus'] at h
    rw [number?_eq_unsigned? (append_ne_cons hne hminus' more)]
    exact unsigned?_extend h hrest

/-! ## Strings -/

theorem fourHex?_extend {n : Nat} (h : fourHex? cs = some (n, rest)) (more : List Char) :
    fourHex? (cs ++ more) = some (n, rest ++ more) := by
  unfold fourHex? at h
  split at h
  · split at h
    · next ha hb hc hd =>
      obtain ⟨rfl, rfl⟩ := Prod.mk.inj (Option.some.inj h)
      simp only [List.cons_append, fourHex?, ha, hb, hc, hd]
    · cases h
  · cases h

/-- Whether a text begins with the rest of a string. -/
def ReadsString (cs : List Char) : Prop :=
  ∃ start fuel seen p, stringRest start fuel seen cs = .ok p

/-- In a string more follows a backslash. -/
theorem ReadsString.ne_backslash (h : ReadsString cs) : cs ≠ ['\\'] := by
  rintro rfl
  obtain ⟨start, fuel, seen, p, h⟩ := h
  cases fuel <;> cases h

/-- In a string four digits and more follow `\u`. -/
theorem ReadsString.length_escape (h : ReadsString ('\\' :: 'u' :: cs)) : 5 ≤ cs.length := by
  obtain ⟨start, fuel, seen, p, h⟩ := h
  cases fuel with
  | zero => cases h
  | succ fuel =>
    rw [stringRest] at h
    split at h
    · next hescape =>
      unfold unicodeEscape at hescape
      split at hescape
      · exact Nat.le_add_left 5 _
      · cases hescape
    · cases h

theorem escapeOf_extend {high : Nat} {c : Char} (h : escapeOf high cs = .ok (c, rest))
    (hne : cs ≠ []) (hstring : ReadsString rest) (more : List Char) :
    escapeOf high (cs ++ more) = .ok (c, rest ++ more) := by
  unfold escapeOf at h
  split at h
  · next low =>
    rw [List.cons_append, List.cons_append, escapeOf, List.length_append]
    split at h
    · next hpair =>
      rw [Bool.and_eq_true, decide_eq_true_eq] at hpair
      rw [hpair.1, decide_eq_true (by omega), if_pos (by decide)]
      split at h
      · cases h
      · next n after hfour =>
        rw [fourHex?_extend hfour more]
        dsimp only
        split at h
        · next hlow =>
          obtain ⟨rfl, rfl⟩ := Prod.mk.inj (Except.ok.inj h)
          rw [if_pos hlow]
        · next hlow =>
          obtain ⟨rfl, rfl⟩ := Prod.mk.inj (Except.ok.inj h)
          rw [if_neg hlow]
          rfl
    · next hpair =>
      -- the second half is there in full, or the string behind would break off
      obtain ⟨rfl, rfl⟩ := Prod.mk.inj (Except.ok.inj h)
      rw [decide_eq_true hstring.length_escape, Bool.and_true, Bool.not_eq_true] at hpair
      rw [hpair]
      rfl
  · next hpair =>
    obtain ⟨rfl, rfl⟩ := Prod.mk.inj (Except.ok.inj h)
    have hpair' (low : List Char) : cs ++ more ≠ '\\' :: 'u' :: low := by
      intro heq
      match cs with
      | [] => exact hne rfl
      | [d] => exact hstring.ne_backslash (congrArg ([·]) (List.cons.inj heq).1)
      | d :: e :: ds =>
        obtain ⟨hd, heq⟩ := List.cons.inj heq
        exact hpair ds (by rw [hd, (List.cons.inj heq).1])
    unfold escapeOf
    split
    · next low heq => exact absurd heq (hpair' low)
    · rfl

/-- An escape with a string behind it writes one character, whatever follows the string. -/
theorem unicodeEscape_extend {c : Char} (h : unicodeEscape cs = .ok (c, rest))
    (hstring : ReadsString rest) (more : List Char) :
    unicodeEscape (cs ++ more) = .ok (c, rest ++ more) := by
  unfold unicodeEscape at h
  split at h
  swap
  · cases h
  next a b c' d e tail =>
  split at h
  · cases h
  next high behind hfour =>
  have hbehind : behind = e :: tail := by
    unfold fourHex? at hfour
    simp only at hfour
    split at hfour
    · exact (Prod.mk.inj (Option.some.inj hfour)).2.symm
    · cases hfour
  obtain rfl := hbehind
  have hescape := escapeOf_extend h (List.cons_ne_nil _ _) hstring more
  have hfour := fourHex?_extend hfour more
  simp only [List.cons_append] at hfour ⊢
  rw [unicodeEscape, hfour]
  exact hescape

/-- A string ends at its quote, whatever follows. By induction on its characters. -/
theorem stringRest_extend {start fuel : Nat} {seen chars : List Char}
    (h : stringRest start fuel seen cs = .ok (chars, rest)) (start' : Nat) {fuel' : Nat}
    (hfuel : fuel ≤ fuel') :
    stringRest start' fuel' seen (cs ++ more) = .ok (chars, rest ++ more) := by
  -- the fuel counts characters, and the longer text starts with the same ones
  induction fuel generalizing seen cs fuel' with
  | zero => cases h
  | succ fuel ih =>
    obtain ⟨fuel', rfl⟩ : ∃ n, fuel' = n + 1 := ⟨fuel' - 1, by omega⟩
    have hless : fuel ≤ fuel' := Nat.le_of_succ_le_succ hfuel
    unfold stringRest at h
    split at h
    · cases h
    · obtain ⟨rfl, rfl⟩ := Prod.mk.inj (Except.ok.inj h)
      rfl
    · split at h
      · next hescape =>
        have hescape := unicodeEscape_extend hescape ⟨_, _, _, _, h⟩ more
        rw [List.cons_append, List.cons_append, stringRest, hescape]
        exact ih h hless
      · cases h
    · cases h
    · next hnotU =>
      split at h
      · next hescaped =>
        rw [List.cons_append, List.cons_append, stringRest.eq_6 _ _ _ _ _ hnotU, hescaped]
        exact ih h hless
      · cases h
    · next c after hquote _ hlast hescape =>
      have hbackslash : c ≠ '\\' := by
        intro hc
        cases after with
        | nil => exact hlast hc rfl
        | cons d ds => exact hescape d ds hc rfl
      split at h
      · cases h
      · next hcontrol =>
        rw [List.cons_append, stringRest.eq_7 _ _ _ _ _ hquote (fun _ hc => absurd hc hbackslash)
          (fun hc => absurd hc hbackslash) (fun _ _ hc => absurd hc hbackslash), if_neg hcontrol]
        exact ih h hless

theorem string_extend {s : String} (h : string cs = .ok (s, rest)) :
    string (cs ++ more) = .ok (s, rest ++ more) := by
  obtain ⟨p, hp, heq⟩ := map_eq_ok h
  obtain ⟨rfl, rfl⟩ := Prod.mk.inj heq
  have hlength : cs.length + 1 ≤ (cs ++ more).length + 1 := by
    rw [List.length_append]
    omega
  rw [string, stringRest_extend hp _ hlength]
  rfl

/-! ## Values -/

theorem scalar_extend {v : Value} (h : scalar cs = .ok (v, rest)) (hrest : Stops (rest ++ more)) :
    scalar (cs ++ more) = .ok (v, rest ++ more) := by
  unfold scalar at h
  split at h
  · next p hp =>
    obtain rfl := Except.ok.inj h
    obtain ⟨w, hw, hafter⟩ := List.exists_of_findSome?_eq_some hp
    obtain ⟨after, hstart, heq⟩ := Option.map_eq_some_iff.mp hafter
    obtain ⟨rfl, rfl⟩ := Prod.mk.inj heq
    rw [afterStart_eq_some_iff.mp hstart, List.append_assoc]
    exact scalar_word hw _
  split at h
  · next p hp =>
    obtain rfl := Except.ok.inj h
    exact scalar_of_number? (number?_extend hp hrest)
  · cases h

theorem skipSpace_append (h : skipSpace cs ≠ []) (more : List Char) :
    skipSpace (cs ++ more) = skipSpace cs ++ more := by
  unfold skipSpace at h ⊢
  rw [List.dropWhile_append, if_neg (by rwa [List.isEmpty_iff])]

theorem skipSpace_extend {c : Char} {ds : List Char} (h : skipSpace cs = c :: ds) :
    skipSpace (cs ++ more) = c :: (ds ++ more) := by
  rw [skipSpace_append (by rw [h]; exact List.cons_ne_nil c ds), h, List.cons_append]

/-- White space belongs to no number. -/
theorem stops_of_isSpace {c : Char} (h : isSpace c = true) (cs : List Char) : Stops (c :: cs) := by
  refine stops_cons ?_ cs
  simp only [isSpace, Bool.or_eq_true, beq_iff_eq] at h
  rcases h with ((rfl | rfl) | rfl) | rfl <;> decide

/-- Nothing in front of a comma or a closing bracket belongs to a number before it. -/
theorem stops_of_skipSpace {c : Char} (h : skipSpace cs = c :: rest) (hc : c ∈ [',', ']', '\x7d'])
    (more : List Char) : Stops (cs ++ more) := by
  cases cs with
  | nil => cases h
  | cons b cs =>
    by_cases hspace : isSpace b = true
    · exact stops_of_isSpace hspace _
    · rw [skipSpace_cons (by simpa using hspace)] at h
      rw [(List.cons.inj h).1]
      exact stops_mark hc _

/-- Whether what some fuel is enough for is read from longer texts too, with as much fuel or more. -/
structure Extends (fuel : Nat) : Prop where
  value : ∀ {cs v rest}, value fuel cs = .ok (v, rest) → ∀ {fuel'}, fuel ≤ fuel' →
    ∀ more, Stops (rest ++ more) → Json.value fuel' (cs ++ more) = .ok (v, rest ++ more)
  items : ∀ {seen cs vs rest}, items fuel seen cs = .ok (vs, rest) → ∀ {fuel'}, fuel ≤ fuel' →
    ∀ more, Json.items fuel' seen (cs ++ more) = .ok (vs, rest ++ more)
  members : ∀ {seen cs es rest}, members fuel seen cs = .ok (es, rest) → ∀ {fuel'},
    fuel ≤ fuel' → ∀ more, Json.members fuel' seen (cs ++ more) = .ok (es, rest ++ more)

theorem ne_nil_of_value {fuel : Nat} {p : Value × List Char} (h : value fuel cs = .ok p) :
    cs ≠ [] := by
  rintro rfl
  cases fuel <;> cases h

theorem ne_nil_of_items {fuel : Nat} {seen : List Value} {p : List Value × List Char}
    (h : items fuel seen cs = .ok p) : cs ≠ [] := by
  rintro rfl
  cases fuel with
  | zero => cases h
  | succ fuel => cases fuel <;> cases h

theorem ne_nil_of_members {fuel : Nat} {seen : List (Value × Value)}
    {p : List (Value × Value) × List Char} (h : members fuel seen cs = .ok p) : cs ≠ [] := by
  rintro rfl
  cases fuel <;> cases h

namespace Extends

variable {fuel fuel' : Nat} (h : Extends fuel) (hfuel : fuel ≤ fuel')

include h hfuel

theorem value_succ {v : Value} (hvalue : Json.value (fuel + 1) cs = .ok (v, rest))
    (hrest : Stops (rest ++ more)) :
    Json.value (fuel' + 1) (cs ++ more) = .ok (v, rest ++ more) := by
  unfold Json.value at hvalue
  split at hvalue
  · obtain ⟨p, hp, heq⟩ := map_eq_ok hvalue
    obtain ⟨rfl, rfl⟩ := Prod.mk.inj heq
    rw [List.cons_append, Json.value, string_extend hp]
    rfl
  · next inner =>
    split at hvalue
    · next hskip =>
      obtain ⟨rfl, rfl⟩ := Prod.mk.inj (Except.ok.inj hvalue)
      rw [List.cons_append, Json.value, skipSpace_extend hskip]
      rfl
    · next hclosing =>
      obtain ⟨p, hp, heq⟩ := map_eq_ok hvalue
      obtain ⟨rfl, rfl⟩ := Prod.mk.inj heq
      have hne := ne_nil_of_items hp
      rw [List.cons_append, Json.value, skipSpace_append hne]
      split
      · next after heq => exact absurd heq (append_ne_cons hne hclosing more after)
      · rw [h.items hp hfuel more]
        rfl
  · next inner =>
    split at hvalue
    · next hskip =>
      obtain ⟨rfl, rfl⟩ := Prod.mk.inj (Except.ok.inj hvalue)
      rw [List.cons_append, Json.value, skipSpace_extend hskip]
      rfl
    · next hclosing =>
      obtain ⟨p, hp, heq⟩ := map_eq_ok hvalue
      obtain ⟨rfl, rfl⟩ := Prod.mk.inj heq
      have hne := ne_nil_of_members hp
      rw [List.cons_append, Json.value, skipSpace_append hne]
      split
      · next after heq => exact absurd heq (append_ne_cons hne hclosing more after)
      · rw [h.members hp hfuel more]
        rfl
  -- no quote or bracket ends a scalar, so what follows has to stop it
  · next hquote hbracket hbrace =>
    have hne : cs ≠ [] := by
      rintro rfl
      cases hvalue
    rw [Json.value.eq_5 _ _ (append_ne_cons hne hquote more) (append_ne_cons hne hbracket more)
      (append_ne_cons hne hbrace more)]
    exact scalar_extend hvalue hrest

theorem items_succ {seen vs : List Value}
    (hitems : Json.items (fuel + 1) seen cs = .ok (vs, rest)) :
    Json.items (fuel' + 1) seen (cs ++ more) = .ok (vs, rest ++ more) := by
  unfold Json.items at hitems
  split at hitems
  · cases hitems
  next v behind hvalue =>
  have hvalue := h.value hvalue hfuel more
  rw [Json.items]
  split at hitems
  · next hskip =>
    obtain ⟨rfl, rfl⟩ := Prod.mk.inj (Except.ok.inj hitems)
    simp only [hvalue (stops_of_skipSpace hskip (by decide) more), skipSpace_extend hskip]
  · next after hskip =>
    simp only [hvalue (stops_of_skipSpace hskip (by decide) more), skipSpace_extend hskip]
    rw [skipSpace_append (ne_nil_of_items hitems)]
    exact h.items hitems hfuel more
  · cases hitems

theorem members_succ {seen es : List (Value × Value)}
    (hmembers : Json.members (fuel + 1) seen cs = .ok (es, rest)) :
    Json.members (fuel' + 1) seen (cs ++ more) = .ok (es, rest ++ more) := by
  unfold Json.members at hmembers
  split at hmembers
  swap
  · cases hmembers
  split at hmembers
  · cases hmembers
  next name behind hname =>
  split at hmembers
  swap
  · cases hmembers
  next colon hcolon =>
  split at hmembers
  · cases hmembers
  next v after hvalue =>
  have hspace := skipSpace_append (ne_nil_of_value hvalue) more
  have hvalue := h.value hvalue hfuel more
  rw [List.cons_append, Json.members]
  simp only [string_extend hname, skipSpace_extend hcolon, hspace]
  dsimp only at hmembers
  split at hmembers
  · next hskip =>
    obtain ⟨rfl, rfl⟩ := Prod.mk.inj (Except.ok.inj hmembers)
    simp only [hvalue (stops_of_skipSpace hskip (by decide) more), skipSpace_extend hskip]
  · next last hskip =>
    simp only [hvalue (stops_of_skipSpace hskip (by decide) more), skipSpace_extend hskip]
    rw [skipSpace_append (ne_nil_of_members hmembers)]
    exact h.members hmembers hfuel more
  · cases hmembers

end Extends

/-- By induction on the fuel, for values, lists of items and lists of members at once. -/
theorem extends_of_fuel (fuel : Nat) : Extends fuel := by
  induction fuel with
  | zero => exact { value := nofun, items := nofun, members := nofun }
  | succ fuel ih =>
    have hsucc {fuel' : Nat} (hfuel : fuel + 1 ≤ fuel') : ∃ n, fuel' = n + 1 ∧ fuel ≤ n :=
      ⟨fuel' - 1, by omega, by omega⟩
    constructor
    · intro cs v rest h fuel' hfuel more hrest
      obtain ⟨n, rfl, hless⟩ := hsucc hfuel
      exact ih.value_succ hless h hrest
    · intro seen cs vs rest h fuel' hfuel more
      obtain ⟨n, rfl, hless⟩ := hsucc hfuel
      exact ih.items_succ hless h
    · intro seen cs es rest h fuel' hfuel more
      obtain ⟨n, rfl, hless⟩ := hsucc hfuel
      exact ih.members_succ hless h

/-- **A value that begins a text begins every longer text**, unless that goes on as a number that ends
the value would. -/
theorem value_extend {fuel fuel' : Nat} {v : Value} (h : value fuel cs = .ok (v, rest))
    (hfuel : fuel ≤ fuel') (hrest : Stops (rest ++ more)) :
    value fuel' (cs ++ more) = .ok (v, rest ++ more) :=
  (extends_of_fuel fuel).value h hfuel more hrest

end Placard.Json
