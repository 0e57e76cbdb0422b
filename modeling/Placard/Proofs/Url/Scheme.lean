import Mathlib.Logic.Relation
import Placard.Proofs.Text.Blank
import Placard.Proofs.Text.Case
import Placard.Url.Safe

/-!
# Schemes in disguise

Characters that browsers skip and the case of letters do not hide the scheme of an address: edits of
these two kinds, however many, leave it as safe or as unsafe as it was (`isSafe_of_edits`). What is
refused is a scheme other than the safe ones in front of a colon (`isSafe_eq_false_iff`).

Addresses are put into small letters of all scripts. As far as schemes go these are the small
letters of ASCII (`begins_lower_iff`): of all other characters only the Kelvin sign has a small
letter in ASCII for itself, and the one of `İ` has a dot behind it, which no scheme has.

A browser runs a script where an address has one of two schemes. No such address is safe
(`isSafe_of_runsScript`).
-/

namespace Placard.Url

open Text

/-! ## Edits that do not show -/

/-- One edit of an address that browsers do not notice. -/
inductive Edit : List Char → List Char → Prop
  /-- A character that is skipped is put in. -/
  | insert {c : Char} (before after : List Char) (noise : isNoise c = true) :
    Edit (before ++ after) (before ++ c :: after)
  /-- A character that is skipped is taken out. -/
  | delete {c : Char} (before after : List Char) (noise : isNoise c = true) :
    Edit (before ++ c :: after) (before ++ after)
  /-- An ASCII letter changes its case. -/
  | recase {c d : Char} (before after : List Char) (letter : asciiLower c = asciiLower d) :
    Edit (before ++ c :: after) (before ++ d :: after)

/-- The characters of an address that are not skipped. -/
def audible (address : List Char) : List Char :=
  address.filter (!isNoise ·)

/-- An address in the form in which its scheme is looked for. -/
def normal (address : List Char) : List Char :=
  lower (audible address)

theorem audible_append (cs ds : List Char) : audible (cs ++ ds) = audible cs ++ audible ds :=
  List.filter_append ..

theorem audible_noise {c : Char} (h : isNoise c = true) (cs : List Char) :
    audible (c :: cs) = audible cs :=
  List.filter_cons_of_neg (by simp [h])

/-- Characters that differ in case are both skipped or both not. -/
theorem isNoise_congr {c d : Char} (h : asciiLower c = asciiLower d) : isNoise c = isNoise d := by
  have hletter {c : Char} (hc : isAsciiLetter c = true) : isNoise c = false :=
    of_isAsciiLetter (P := fun c => isNoise c = false) (by decide +kernel) hc
  rcases eq_or_isAsciiLetter h with rfl | ⟨hc, hd⟩
  · rfl
  · rw [hletter hc, hletter hd]

/-- An edit leaves the form of the address. -/
theorem Edit.normal_eq {v w : List Char} (h : Edit v w) : normal w = normal v := by
  unfold normal
  cases h with
  | insert before after hnoise => rw [audible_append, audible_noise hnoise, ← audible_append]
  | delete before after hnoise => rw [audible_append, audible_append, audible_noise hnoise]
  | @recase c d before after hletter =>
    rw [audible_append, audible_append]
    refine lower_congr (List.rel_append (sameLetters_self (audible before)) ?_)
    unfold audible
    rw [List.filter_cons, List.filter_cons, isNoise_congr hletter]
    split
    · exact .cons hletter.symm (sameLetters_self _)
    · exact sameLetters_self _

/-- So do edits one after the other. -/
theorem normal_of_edits {v w : List Char} (h : Relation.ReflTransGen Edit v w) :
    normal w = normal v := by
  induction h with
  | refl => rfl
  | tail _ hedit ih => rw [hedit.normal_eq, ih]

/-! ## Schemes -/

/-- A scheme in small letters: a letter, and behind it letters, digits and three signs. -/
inductive IsScheme : List Char → Prop
  | intro {c : Char} {more : List Char} (letter : 'a' ≤ c ∧ c ≤ 'z')
    (rest : ∀ d ∈ more, ('a' ≤ d ∧ d ≤ 'z') ∨ ('0' ≤ d ∧ d ≤ '9') ∨ d = '+' ∨ d = '.' ∨ d = '-') :
    IsScheme (c :: more)

theorem isSchemeChar_iff {d : Char} : isSchemeChar d = true ↔
    ('a' ≤ d ∧ d ≤ 'z') ∨ ('0' ≤ d ∧ d ≤ '9') ∨ d = '+' ∨ d = '.' ∨ d = '-' := by
  simp [isSchemeChar, isAsciiDigit, asciiDigit?, Char.le_def, UInt32.le_iff_toNat_le, or_assoc]

theorem IsScheme.isSchemeChar {scheme : List Char} (h : IsScheme scheme) :
    ∀ c ∈ scheme, isSchemeChar c = true := by
  obtain ⟨hletter, hrest⟩ := h
  exact List.forall_mem_cons.mpr
    ⟨isSchemeChar_iff.mpr (.inl hletter), fun d hd => isSchemeChar_iff.mpr (hrest d hd)⟩

/-- The address begins with this scheme and a colon. -/
def Begins (scheme address : List Char) : Prop :=
  ∃ rest, address = scheme ++ ':' :: rest

theorem begins_cons {scheme cs : List Char} {c : Char} : Begins scheme (c :: cs) ↔
    (scheme = [] ∧ c = ':') ∨ ∃ more, scheme = c :: more ∧ Begins more cs := by
  constructor
  · rintro ⟨rest, h⟩
    cases scheme with
    | nil => exact .inl ⟨rfl, (List.cons.inj h).1⟩
    | cons d more =>
      obtain ⟨rfl, htail⟩ := List.cons.inj h
      exact .inr ⟨more, rfl, rest, htail⟩
  · rintro (⟨rfl, rfl⟩ | ⟨more, rfl, rest, rfl⟩)
    · exact ⟨cs, rfl⟩
    · exact ⟨rest, rfl⟩

/-- The scheme of an address is what stands before a colon and is a scheme. -/
theorem scheme?_eq_some_iff {cs scheme : List Char} :
    scheme? cs = some scheme ↔ IsScheme scheme ∧ Begins scheme cs := by
  have hletter {c : Char} : 97 ≤ c.toNat ∧ c.toNat ≤ 122 ↔ 'a' ≤ c ∧ c ≤ 'z' := Iff.rfl
  constructor
  · intro h
    cases cs with
    | nil => cases h
    | cons c rest =>
      rw [scheme?] at h
      split at h
      · next hc =>
        simp only [Bool.and_eq_true, decide_eq_true_eq] at hc
        dsimp only at h
        split at h
        · next hcolon =>
          obtain rfl := Option.some.inj h
          obtain ⟨after, hafter⟩ := List.head?_eq_some_iff.mp hcolon
          have hsplit := List.prefix_iff_eq_append.mp (rest.takeWhile_prefix isSchemeChar)
          rw [hafter] at hsplit
          refine ⟨.intro (hletter.mp hc) fun d hd => ?_, after, (congrArg (c :: ·) hsplit).symm⟩
          exact isSchemeChar_iff.mp (List.mem_takeWhile_imp hd)
        · cases h
      · cases h
  · rintro ⟨⟨hc, hmore⟩, rest, rfl⟩
    rename_i c more
    have htake : (more ++ ':' :: rest).takeWhile isSchemeChar = more :=
      takeWhile_append (fun d hd => isSchemeChar_iff.mpr (hmore d hd)) fun d hd => by
        obtain rfl := Option.some.inj hd
        decide
    rw [List.cons_append, scheme?, if_pos (by simpa using hletter.mpr hc), htake]
    dsimp only
    rw [List.drop_left, if_pos List.head?_cons]

/-- **What is refused.** An address is unsafe if it begins with a scheme that is not among the safe
ones. -/
theorem isSafe_eq_false_iff {address : List Char} : isSafe address = false ↔
    ∃ scheme, IsScheme scheme ∧ Begins scheme (normal address) ∧
      scheme ∉ safeSchemes.map String.toList := by
  have hmem (scheme : List Char) : (safeSchemes.any fun s => s.toList == scheme) = false ↔
      scheme ∉ safeSchemes.map String.toList := by
    simp [List.mem_map]
  simp only [← and_assoc, ← scheme?_eq_some_iff]
  unfold isSafe normal audible
  split
  · next h => simp [h]
  · next scheme h =>
    rw [hmem, h]
    simp

/-! ## Small letters of all scripts -/

/-- A character beyond ASCII stands neither in a scheme nor for the colon behind it. -/
theorem not_isSchemeChar {c : Char} (h : 128 ≤ c.toNat ∨ c.toNat = 0) :
    isSchemeChar c = false ∧ c ≠ ':' := by
  have hbounds {a z : Char} (hc : a ≤ c ∧ c ≤ z) : a.toNat ≤ c.toNat ∧ c.toNat ≤ z.toNat := hc
  constructor
  · rw [Bool.eq_false_iff]
    intro hc
    rcases isSchemeChar_iff.mp hc with hc | hc | rfl | rfl | rfl
    · have := hbounds hc
      simp only [Char.reduceToNat] at this
      omega
    · have := hbounds hc
      simp only [Char.reduceToNat] at this
      omega
    all_goals exact absurd h (by decide)
  · rintro rfl
    exact absurd h (by decide)

theorem not_begins_of_head {scheme cs : List Char} {c : Char}
    (hscheme : ∀ d ∈ scheme, isSchemeChar d = true) (h : isSchemeChar c = false ∧ c ≠ ':') :
    ¬Begins scheme (c :: cs) := by
  rw [begins_cons]
  rintro (⟨-, rfl⟩ | ⟨more, rfl, -⟩)
  · exact h.2 rfl
  · rw [hscheme c List.mem_cons_self] at h
    exact absurd h.1 (by decide)

/-- No scheme begins with the small letter of a character that is not in ASCII, unless that is a Kelvin
sign. -/
theorem not_begins_lower {scheme before cs : List Char} {c : Char}
    (hscheme : ∀ d ∈ scheme, isSchemeChar d = true) (hc : 128 ≤ c.toNat) (hkelvin : c ≠ '\u212a') :
    ¬Begins scheme (lower.go before (c :: cs)) := by
  rw [lower.go]
  split
  · -- the dot above the letter ends the scheme
    rw [List.cons_append, begins_cons]
    rintro (⟨-, hcolon⟩ | ⟨more, rfl, hmore⟩)
    · exact absurd hcolon (by decide)
    · exact not_begins_of_head (fun d hd => hscheme d (List.mem_cons_of_mem _ hd)) (by decide) hmore
  split
  · split
    · exact not_begins_of_head hscheme (by decide)
    · exact not_begins_of_head hscheme (by decide)
  · exact not_begins_of_head hscheme (not_isSchemeChar (toNat_lowerChar hc hkelvin))

/-- **Small letters of ASCII are enough.** An address without a Kelvin sign begins with the same
scheme in the small letters of all scripts and in those of ASCII. -/
theorem begins_lower_iff {scheme cs : List Char} (hscheme : ∀ d ∈ scheme, isSchemeChar d = true)
    (hkelvin : '\u212a' ∉ cs) :
    Begins scheme (lower cs) ↔ Begins scheme (cs.map asciiLower) := by
  have hgo (before : List Char) :
      Begins scheme (lower.go before cs) ↔ Begins scheme (cs.map asciiLower) := by
    induction cs generalizing before scheme with
    | nil => exact Iff.rfl
    | cons c cs ih =>
      rw [List.mem_cons, not_or] at hkelvin
      by_cases hascii : c.toNat < 128
      · -- an ASCII character has its small letter for itself, and the rest goes on alike
        have hdot : c ≠ '\u0130' := by
          rintro rfl
          exact absurd hascii (by decide)
        have hsigma : c ≠ '\u03a3' := by
          rintro rfl
          exact absurd hascii (by decide)
        rw [lower.go, List.map_cons, if_neg hdot, if_neg hsigma, lowerChar, if_pos hascii,
          List.singleton_append, begins_cons, begins_cons]
        refine or_congr_right (exists_congr fun more => and_congr_right fun hmore => ?_)
        subst hmore
        exact ih (fun d hd => hscheme d (List.mem_cons_of_mem _ hd)) hkelvin.2 (c :: before)
      · refine iff_of_false (not_begins_lower hscheme (by omega) (Ne.symm hkelvin.1)) ?_
        have hself : asciiLower c = c := by
          rw [asciiLower, if_neg]
          simp only [Bool.and_eq_true, decide_eq_true_eq]
          omega
        rw [List.map_cons, hself]
        exact not_begins_of_head hscheme (not_isSchemeChar (.inl (by omega)))
  exact hgo []

/-- **No disguise.** However many characters that browsers skip are put into an address or taken out
of it, and whichever ASCII letters change their case, it stays as safe or as unsafe as it was. An
address is unsafe just if, without those characters and in small letters, it begins with a scheme
that is not among the safe ones, and a colon. The small letters of ASCII will do, unless it holds a
Kelvin sign, whose small letter is an ASCII one. -/
theorem isSafe_of_edits (v : List Char) :
    (∀ w, Relation.ReflTransGen Edit v w → isSafe w = isSafe v) ∧
    (isSafe v = false ↔ ∃ scheme, IsScheme scheme ∧ Begins scheme (lower (audible v)) ∧
      scheme ∉ safeSchemes.map String.toList) ∧
    ('\u212a' ∉ v → (isSafe v = false ↔ ∃ scheme, IsScheme scheme ∧
      Begins scheme ((audible v).map asciiLower) ∧ scheme ∉ safeSchemes.map String.toList)) := by
  refine ⟨fun w hedits => ?_, isSafe_eq_false_iff, fun hkelvin => ?_⟩
  · rw [Bool.eq_iff_iff, ← not_iff_not, Bool.not_eq_true, Bool.not_eq_true, isSafe_eq_false_iff,
      isSafe_eq_false_iff, normal_of_edits hedits]
  · rw [isSafe_eq_false_iff]
    refine exists_congr fun scheme => and_congr_right fun hscheme => and_congr_left fun _ => ?_
    exact begins_lower_iff hscheme.isSchemeChar fun h => hkelvin (List.mem_of_mem_filter h)

/-- A script behind a capital letter, a tabulator in its scheme and a blank before its colon. -/
theorem isSafe_of_edits_script :
    (∃ w, w = "Java\tscript :x".toList ∧ Relation.ReflTransGen Edit "javascript:x".toList w ∧
      isSafe w = isSafe "javascript:x".toList) ∧
    '\u212a' ∉ "javascript:x".toList ∧ isSafe "javascript:x".toList = false ∧
    ∃ scheme, IsScheme scheme ∧ Begins scheme ((audible "javascript:x".toList).map asciiLower) ∧
      scheme ∉ safeSchemes.map String.toList := by
  have hcapital : Edit "javascript:x".toList "Javascript:x".toList :=
    .recase [] "avascript:x".toList (by decide)
  have htab : Edit "Javascript:x".toList "Java\tscript:x".toList :=
    .insert "Java".toList "script:x".toList (by decide)
  have hblank : Edit "Java\tscript:x".toList "Java\tscript :x".toList :=
    .insert "Java\tscript".toList ":x".toList (by decide)
  have hedits := ((Relation.ReflTransGen.single hcapital).tail htab).tail hblank
  have hkelvin : '\u212a' ∉ "javascript:x".toList := by decide
  have hunsafe : isSafe "javascript:x".toList = false := by decide +kernel
  have hlaw := isSafe_of_edits "javascript:x".toList
  exact ⟨⟨_, rfl, hedits, hlaw.1 _ hedits⟩, hkelvin, hunsafe, (hlaw.2.2 hkelvin).mp hunsafe⟩

/-! ## Scripts -/

/-- The schemes of scripts. -/
def scriptSchemes : List String :=
  ["javascript", "vbscript"]

/-- Whether an address runs a script: it has such a scheme without the characters that browsers skip
and in small letters. -/
def runsScript (address : String) : Bool :=
  scriptSchemes.any fun s =>
    startsWith (s.toList ++ [':']) (lower (address.toList.filter (!isNoise ·)))

/-- A scheme of a script is found in front of whatever follows it. -/
theorem scheme?_script {s : String} (hs : s ∈ scriptSchemes) (rest : List Char) :
    scheme? (s.toList ++ ':' :: rest) = some s.toList := by
  simp only [scriptSchemes, List.mem_cons, List.not_mem_nil, or_false] at hs
  rcases hs with rfl | rfl <;> rfl

/-- **Safe addresses run no scripts.** -/
theorem isSafe_of_runsScript {address : String} (h : runsScript address = true) :
    isSafe address.toList = false := by
  obtain ⟨s, hs, hstart⟩ := List.any_eq_true.mp h
  obtain ⟨rest, hrest⟩ := List.isPrefixOf_iff_prefix.mp hstart
  rw [List.append_assoc, List.singleton_append] at hrest
  rw [isSafe, ← hrest, scheme?_script hs]
  simp only [scriptSchemes, List.mem_cons, List.not_mem_nil, or_false] at hs
  rcases hs with rfl | rfl <;> rfl

end Placard.Url
