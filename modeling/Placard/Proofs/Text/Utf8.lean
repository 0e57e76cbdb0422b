import Mathlib.Data.List.Basic
import Placard.Text.Utf8

/-!
# What octets are a text

`decode` reads exactly what `octets` writes: octets are read as a text if and only if they are those
of its characters, one after the other (`decode_eq_ok`).
-/

namespace Placard.Text

/-- The octets of a text. -/
def utf8 (cs : List Char) : List Nat :=
  cs.flatMap octets

/-! ## The octets behind the first one -/

/-- What the first octet of a character gives. -/
def leadValue (a count : Nat) : Nat :=
  if count = 1 then a - 0xc0 else if count = 2 then a - 0xe0 else a - 0xf0

/-- The number that octets add up to, from what the first one gives. -/
def assembled (lead : Nat) (tail : List Nat) : Nat :=
  tail.foldl (fun n b => n * 0x40 + (b - 0x80)) lead

/-- The octets that fit, up to the first that does not. -/
def fitting (low high : Nat) : List Nat → List Nat
  | [] => []
  | b :: rest => if low ≤ b && b ≤ high then b :: rest.takeWhile isContinuation else []

/-- Whether all octets fit. -/
def AllFit (low high : Nat) : List Nat → Prop
  | [] => True
  | b :: rest => low ≤ b ∧ b ≤ high ∧ ∀ c ∈ rest, 0x80 ≤ c ∧ c < 0xc0

theorem length_takeWhile_lt {p : Nat → Bool} {bs : List Nat} :
    ¬ (bs.takeWhile p).length < bs.length ↔ ∀ b ∈ bs, p b = true := by
  induction bs with
  | nil => simp
  | cons b bs ih =>
    cases hb : p b with
    | true =>
      rw [List.takeWhile_cons_of_pos hb, List.length_cons, List.length_cons, Nat.add_lt_add_iff_right,
        ih, List.forall_mem_cons]
      simp [hb]
    | false =>
      rw [List.takeWhile_cons_of_neg (by simp [hb]), List.forall_mem_cons, hb]
      simp

theorem length_fitting_lt {low high : Nat} {bs : List Nat} :
    ¬ (fitting low high bs).length < bs.length ↔ AllFit low high bs := by
  cases bs with
  | nil => simp [fitting, AllFit]
  | cons b rest =>
    have hcontinues : (∀ c ∈ rest, isContinuation c = true) ↔ ∀ c ∈ rest, 0x80 ≤ c ∧ c < 0xc0 := by
      simp [isContinuation]
    rw [fitting, AllFit, ← hcontinues, ← length_takeWhile_lt]
    by_cases hb : low ≤ b ∧ b ≤ high
    · rw [if_pos (by simp [hb]), List.length_cons, List.length_cons, Nat.add_lt_add_iff_right]
      simp [hb]
    · rw [if_neg (by simpa using hb)]
      simp only [List.length_nil, List.length_cons]
      constructor
      · intro h
        exact absurd (Nat.succ_pos _) h
      · rintro ⟨hlow, hhigh, -⟩
        exact absurd ⟨hlow, hhigh⟩ hb

/-! ## One character -/

theorem firstChar_ascii {a : Nat} (ha : a < 0x80) (rest : List Nat) :
    firstChar (a :: rest) = .ok (Char.ofNat a, 1) :=
  if_pos ha

/-- A first character of more than one octet is read if as many octets fit as its first one asks
for. -/
theorem firstChar_eq_ok {a count low high : Nat} {rest : List Nat} {c : Char} {k : Nat}
    (ha : ¬ a < 0x80) (hlead : leadOf? a = some (count, low, high)) :
    firstChar (a :: rest) = .ok (c, k) ↔ AllFit low high (rest.take count) ∧
      (rest.take count).length = count ∧
      c = Char.ofNat (assembled (leadValue a count) (rest.take count)) ∧ k = count + 1 := by
  have hfirst : firstChar (a :: rest) =
      let tail := rest.take count
      if (fitting low high tail).length < tail.length then
        .error (.continuation, (fitting low high tail).length + 1)
      else if tail.length < count then .error (.cutOff, tail.length + 1)
      else .ok (Char.ofNat (assembled (leadValue a count) tail), count + 1) := by
    refine (if_neg ha).trans ?_
    rw [hlead]
    rfl
  have hshort : (rest.take count).length ≤ count := List.length_take_le _ _
  rw [hfirst]
  dsimp only
  by_cases hfit : AllFit low high (rest.take count)
  · rw [if_neg (length_fitting_lt.mpr hfit)]
    by_cases hlength : (rest.take count).length < count
    · rw [if_pos hlength]
      constructor
      · exact nofun
      · rintro ⟨-, heq, -⟩
        omega
    · rw [if_neg hlength]
      constructor
      · intro h
        obtain ⟨rfl, rfl⟩ := Prod.mk.inj (Except.ok.inj h)
        exact ⟨hfit, by omega, rfl, rfl⟩
      · rintro ⟨-, -, rfl, rfl⟩
        rfl
  · rw [if_pos (by rwa [← Decidable.not_not (p := _ < _), length_fitting_lt])]
    constructor
    · exact nofun
    · rintro ⟨h, -⟩
      exact absurd h hfit

theorem toNat_ofNat {n : Nat} (h : n.isValidChar) : (Char.ofNat n).toNat = n := by
  unfold Char.ofNat
  rw [dif_pos h]
  rfl

/-- A number that is no character stands for the character zero. -/
theorem toNat_ofNat_cases (n : Nat) : (Char.ofNat n).toNat = n ∨ (Char.ofNat n).toNat = 0 := by
  by_cases hvalid : n.isValidChar
  · exact .inl (toNat_ofNat hvalid)
  · unfold Char.ofNat
    rw [dif_neg hvalid]
    exact .inr rfl

theorem firstChar_two {n : Nat} (hmin : 0x80 ≤ n) (hmax : n < 0x800) (rest : List Nat) :
    firstChar ((0xc0 + n / 0x40) :: (0x80 + n % 0x40) :: rest) = .ok (Char.ofNat n, 2) := by
  have hlead : leadOf? (0xc0 + n / 0x40) = some (1, 0x80, 0xbf) := by
    unfold leadOf?
    rw [if_neg (by omega), if_pos (by omega)]
  refine (firstChar_eq_ok (by omega) hlead).mpr ⟨⟨by omega, by omega, nofun⟩, rfl, ?_, rfl⟩
  change _ = Char.ofNat ((0xc0 + n / 0x40 - 0xc0) * 0x40 + (0x80 + n % 0x40 - 0x80))
  refine congrArg Char.ofNat ?_
  omega

theorem firstChar_three {n : Nat} (hmin : 0x800 ≤ n) (hmax : n < 0x10000)
    (hvalid : n < 0xd800 ∨ 0xdfff < n) (rest : List Nat) :
    firstChar ((0xe0 + n / 0x1000) :: (0x80 + n / 0x40 % 0x40) :: (0x80 + n % 0x40) :: rest) =
      .ok (Char.ofNat n, 3) := by
  have hlead : leadOf? (0xe0 + n / 0x1000) = some (2,
      if 0xe0 + n / 0x1000 = 0xe0 then 0xa0 else 0x80,
      if 0xe0 + n / 0x1000 = 0xed then 0x9f else 0xbf) := by
    unfold leadOf?
    rw [if_neg (by omega), if_neg (by omega), if_pos (by omega)]
  refine (firstChar_eq_ok (by omega) hlead).mpr ⟨?_, rfl, ?_, rfl⟩
  · refine ⟨?_, ?_, List.forall_mem_singleton.mpr ⟨by omega, by omega⟩⟩
    · split <;> omega
    · split <;> omega
  · change _ = Char.ofNat (((0xe0 + n / 0x1000 - 0xe0) * 0x40 +
      (0x80 + n / 0x40 % 0x40 - 0x80)) * 0x40 + (0x80 + n % 0x40 - 0x80))
    refine congrArg Char.ofNat ?_
    omega

theorem firstChar_four {n : Nat} (hmin : 0x10000 ≤ n) (hmax : n < 0x110000) (rest : List Nat) :
    firstChar ((0xf0 + n / 0x40000) :: (0x80 + n / 0x1000 % 0x40) :: (0x80 + n / 0x40 % 0x40) ::
      (0x80 + n % 0x40) :: rest) = .ok (Char.ofNat n, 4) := by
  have hlead : leadOf? (0xf0 + n / 0x40000) = some (3,
      if 0xf0 + n / 0x40000 = 0xf0 then 0x90 else 0x80,
      if 0xf0 + n / 0x40000 = 0xf4 then 0x8f else 0xbf) := by
    unfold leadOf?
    rw [if_neg (by omega), if_neg (by omega), if_neg (by omega), if_pos (by omega)]
  refine (firstChar_eq_ok (by omega) hlead).mpr ⟨?_, rfl, ?_, rfl⟩
  · refine ⟨?_, ?_, List.forall_mem_cons.mpr
      ⟨⟨by omega, by omega⟩, List.forall_mem_singleton.mpr ⟨by omega, by omega⟩⟩⟩
    · split <;> omega
    · split <;> omega
  · change _ = Char.ofNat ((((0xf0 + n / 0x40000 - 0xf0) * 0x40 +
      (0x80 + n / 0x1000 % 0x40 - 0x80)) * 0x40 + (0x80 + n / 0x40 % 0x40 - 0x80)) * 0x40 +
        (0x80 + n % 0x40 - 0x80))
    refine congrArg Char.ofNat ?_
    omega

/-- The octets of a character are read as that character, whatever follows. -/
theorem firstChar_octets (c : Char) (rest : List Nat) :
    firstChar (octets c ++ rest) = .ok (c, (octets c).length) := by
  have hvalid : c.toNat < 0xd800 ∨ 0xdfff < c.toNat ∧ c.toNat < 0x110000 := c.valid
  have hself : Char.ofNat c.toNat = c := Char.ofNat_toNat c
  unfold octets
  dsimp only
  generalize c.toNat = n at hvalid hself
  subst hself
  split
  · next hone => exact firstChar_ascii hone rest
  split
  · next hone htwo => exact firstChar_two (by omega) htwo rest
  split
  · next hone htwo hthree => exact firstChar_three (by omega) hthree (by omega) rest
  · next hone htwo hthree => exact firstChar_four (by omega) (by omega) rest

/-- A first octet asks for one, two or three more, the first of which is in a range. -/
theorem leadOf_eq_some {a count low high : Nat} (h : leadOf? a = some (count, low, high)) :
    (0xc2 ≤ a ∧ a < 0xe0 ∧ count = 1 ∧ low = 0x80 ∧ high = 0xbf) ∨
    (0xe0 ≤ a ∧ a < 0xf0 ∧ count = 2 ∧ low = (if a = 0xe0 then 0xa0 else 0x80) ∧
      high = if a = 0xed then 0x9f else 0xbf) ∨
    (0xf0 ≤ a ∧ a < 0xf5 ∧ count = 3 ∧ low = (if a = 0xf0 then 0x90 else 0x80) ∧
      high = if a = 0xf4 then 0x8f else 0xbf) := by
  unfold leadOf? at h
  split at h
  · cases h
  · split at h
    · obtain ⟨rfl, rfl, rfl⟩ := Prod.mk.inj (Option.some.inj h)
      omega
    · split at h
      · obtain ⟨rfl, hrange⟩ := Prod.mk.inj (Option.some.inj h)
        obtain ⟨rfl, rfl⟩ := Prod.mk.inj hrange
        omega
      · split at h
        · obtain ⟨rfl, hrange⟩ := Prod.mk.inj (Option.some.inj h)
          obtain ⟨rfl, rfl⟩ := Prod.mk.inj hrange
          omega
        · cases h

theorem octets_ofNat {n : Nat} (h : n.isValidChar) : octets (Char.ofNat n) =
    if n < 0x80 then [n]
    else if n < 0x800 then [0xc0 + n / 0x40, 0x80 + n % 0x40]
    else if n < 0x10000 then [0xe0 + n / 0x1000, 0x80 + n / 0x40 % 0x40, 0x80 + n % 0x40]
    else
      [0xf0 + n / 0x40000, 0x80 + n / 0x1000 % 0x40, 0x80 + n / 0x40 % 0x40, 0x80 + n % 0x40] := by
  unfold octets
  rw [toNat_ofNat h]

theorem octets_two {a b : Nat} (ha : 0xc2 ≤ a) (ha' : a < 0xe0) (hb : 0x80 ≤ b) (hb' : b ≤ 0xbf) :
    octets (Char.ofNat ((a - 0xc0) * 0x40 + (b - 0x80))) = [a, b] := by
  generalize hn : (a - 0xc0) * 0x40 + (b - 0x80) = n
  rw [octets_ofNat (.inl (by omega)), if_neg (by omega), if_pos (by omega)]
  have hfirst : 0xc0 + n / 0x40 = a := by omega
  have hsecond : 0x80 + n % 0x40 = b := by omega
  rw [hfirst, hsecond]

theorem octets_three {a b c : Nat} (ha : 0xe0 ≤ a) (ha' : a < 0xf0)
    (hb : (if a = 0xe0 then 0xa0 else 0x80) ≤ b) (hb' : b ≤ if a = 0xed then 0x9f else 0xbf)
    (hc : 0x80 ≤ c) (hc' : c < 0xc0) :
    octets (Char.ofNat (((a - 0xe0) * 0x40 + (b - 0x80)) * 0x40 + (c - 0x80))) = [a, b, c] := by
  generalize hn : ((a - 0xe0) * 0x40 + (b - 0x80)) * 0x40 + (c - 0x80) = n
  -- the range of the second octet leaves out shortest forms and halves of surrogate pairs
  have hrange : 0x80 ≤ b ∧ b ≤ 0xbf ∧ 0x800 ≤ n ∧ (n < 0xd800 ∨ 0xdfff < n) := by
    split at hb <;> split at hb' <;> omega
  have hvalid : n.isValidChar := by
    unfold Nat.isValidChar
    omega
  rw [octets_ofNat hvalid, if_neg (by omega), if_neg (by omega), if_pos (by omega)]
  have hfirst : 0xe0 + n / 0x1000 = a := by omega
  have hsecond : 0x80 + n / 0x40 % 0x40 = b := by omega
  have hthird : 0x80 + n % 0x40 = c := by omega
  rw [hfirst, hsecond, hthird]

theorem octets_four {a b c d : Nat} (ha : 0xf0 ≤ a) (ha' : a < 0xf5)
    (hb : (if a = 0xf0 then 0x90 else 0x80) ≤ b) (hb' : b ≤ if a = 0xf4 then 0x8f else 0xbf)
    (hc : 0x80 ≤ c) (hc' : c < 0xc0) (hd : 0x80 ≤ d) (hd' : d < 0xc0) :
    octets (Char.ofNat ((((a - 0xf0) * 0x40 + (b - 0x80)) * 0x40 + (c - 0x80)) * 0x40 +
      (d - 0x80))) = [a, b, c, d] := by
  generalize hn : (((a - 0xf0) * 0x40 + (b - 0x80)) * 0x40 + (c - 0x80)) * 0x40 + (d - 0x80) = n
  have hrange : 0x80 ≤ b ∧ b ≤ 0xbf ∧ 0x10000 ≤ n ∧ n < 0x110000 := by
    split at hb <;> split at hb' <;> omega
  have hvalid : n.isValidChar := by
    unfold Nat.isValidChar
    omega
  rw [octets_ofNat hvalid, if_neg (by omega), if_neg (by omega), if_neg (by omega)]
  have hfirst : 0xf0 + n / 0x40000 = a := by omega
  have hsecond : 0x80 + n / 0x1000 % 0x40 = b := by omega
  have hthird : 0x80 + n / 0x40 % 0x40 = c := by omega
  have hfourth : 0x80 + n % 0x40 = d := by omega
  rw [hfirst, hsecond, hthird, hfourth]

/-- The octets of an assembled character are those it was assembled from. -/
theorem octets_assembled {a count low high : Nat} {tail : List Nat}
    (hlead : leadOf? a = some (count, low, high)) (hfit : AllFit low high tail)
    (hlength : tail.length = count) :
    octets (Char.ofNat (assembled (leadValue a count) tail)) = a :: tail := by
  rcases leadOf_eq_some hlead with ⟨hmin, hmax, rfl, rfl, rfl⟩ | ⟨hmin, hmax, rfl, rfl, rfl⟩ |
    ⟨hmin, hmax, rfl, rfl, rfl⟩
  · obtain ⟨b, rfl⟩ := List.length_eq_one_iff.mp hlength
    obtain ⟨hlow, hhigh, -⟩ := hfit
    exact octets_two hmin hmax hlow hhigh
  · obtain ⟨b, c, rfl⟩ := List.length_eq_two.mp hlength
    obtain ⟨hlow, hhigh, hrest⟩ := hfit
    obtain ⟨hc, hc'⟩ := hrest c List.mem_cons_self
    exact octets_three hmin hmax hlow hhigh hc hc'
  · obtain ⟨b, c, d, rfl⟩ := List.length_eq_three.mp hlength
    obtain ⟨hlow, hhigh, hrest⟩ := hfit
    obtain ⟨hc, hc'⟩ := hrest c List.mem_cons_self
    obtain ⟨hd, hd'⟩ := hrest d (List.mem_cons_of_mem c List.mem_cons_self)
    exact octets_four hmin hmax hlow hhigh hc hc' hd hd'

/-- What begins with a character begins with its octets. -/
theorem octets_of_firstChar {bs : List Nat} {c : Char} {k : Nat} (h : firstChar bs = .ok (c, k)) :
    ∃ rest, bs = octets c ++ rest ∧ k = (octets c).length := by
  cases bs with
  | nil => cases h
  | cons a more =>
    by_cases ha : a < 0x80
    · rw [firstChar_ascii ha] at h
      obtain ⟨rfl, rfl⟩ := Prod.mk.inj (Except.ok.inj h)
      have hoctets : octets (Char.ofNat a) = [a] := by
        rw [octets_ofNat (.inl (by omega)), if_pos ha]
      exact ⟨more, by rw [hoctets]; rfl, by rw [hoctets]; rfl⟩
    · cases hlead : leadOf? a with
      | none =>
        have hstart : firstChar (a :: more) = .error (.start, 1) := by
          refine (if_neg ha).trans ?_
          rw [hlead]
        rw [hstart] at h
        cases h
      | some range =>
        obtain ⟨count, low, high⟩ := range
        obtain ⟨hfit, hlength, rfl, rfl⟩ := (firstChar_eq_ok ha hlead).mp h
        have hoctets := octets_assembled hlead hfit hlength
        refine ⟨more.drop count, ?_, ?_⟩
        · rw [hoctets, List.cons_append, List.take_append_drop]
        · rw [hoctets, List.length_cons, hlength]

/-! ## Whole texts -/

/-- Octets that are already read are skipped. -/
theorem go_append (position : Nat) (read rest : List Nat) :
    decode.go position read.length (read ++ rest) =
      decode.go (position + read.length) 0 rest := by
  induction read generalizing position with
  | nil => rfl
  | cons b read ih =>
    rw [List.length_cons, List.cons_append, decode.go, ih]
    congr 1
    omega

theorem octets_ne_nil (c : Char) : octets c ≠ [] := by
  unfold octets
  dsimp only
  split
  · exact List.cons_ne_nil _ _
  · split
    · exact List.cons_ne_nil _ _
    · split <;> exact List.cons_ne_nil _ _

/-- A character is read from its octets, and then the rest. -/
theorem go_octets (position : Nat) (c : Char) (rest : List Nat) :
    decode.go position 0 (octets c ++ rest) =
      (decode.go (position + (octets c).length) 0 rest).map (c :: ·) := by
  have hfirst := firstChar_octets c rest
  obtain ⟨b, tail, hoctets⟩ := List.exists_cons_of_ne_nil (octets_ne_nil c)
  rw [hoctets] at hfirst ⊢
  rw [List.cons_append] at hfirst ⊢
  rw [decode.go, hfirst]
  dsimp only
  rw [List.length_cons, Nat.add_sub_cancel, go_append]
  congr 2
  omega

theorem go_utf8 (position : Nat) (cs : List Char) : decode.go position 0 (utf8 cs) = .ok cs := by
  induction cs generalizing position with
  | nil => rfl
  | cons c cs ih =>
    change decode.go position 0 (octets c ++ utf8 cs) = _
    rw [go_octets, ih]
    rfl

theorem eq_utf8_of_go {position : Nat} {bs : List Nat} {cs : List Char}
    (h : decode.go position 0 bs = .ok cs) : bs = utf8 cs := by
  -- each character takes at least one octet
  induction hlength : bs.length using Nat.strongRecOn generalizing position bs cs with
  | ind length ih =>
    cases bs with
    | nil =>
      obtain rfl := Except.ok.inj h
      rfl
    | cons b more =>
      cases hfirst : firstChar (b :: more) with
      | error fault =>
        rw [decode.go, hfirst] at h
        cases h
      | ok first =>
        obtain ⟨c, k⟩ := first
        obtain ⟨rest, hrest, -⟩ := octets_of_firstChar hfirst
        have hpos := List.length_pos_of_ne_nil (octets_ne_nil c)
        rw [hrest, go_octets] at h
        rw [hrest, List.length_append] at hlength
        obtain ⟨ds, hds, rfl⟩ : ∃ ds, decode.go (position + (octets c).length) 0 rest = .ok ds ∧
            c :: ds = cs := by
          cases hgo : decode.go (position + (octets c).length) 0 rest with
          | error fault =>
            rw [hgo] at h
            cases h
          | ok ds =>
            rw [hgo] at h
            exact ⟨ds, rfl, Except.ok.inj h⟩
        rw [hrest, ih rest.length (by omega) hds rfl]
        rfl

/-- **Texts are read from their octets and from nothing else.** -/
theorem decode_eq_ok {bs : List Nat} {cs : List Char} : decode bs = .ok cs ↔ bs = utf8 cs := by
  constructor
  · exact eq_utf8_of_go
  · rintro rfl
    exact go_utf8 0 cs

theorem utf8_injective {cs ds : List Char} (h : utf8 cs = utf8 ds) : cs = ds :=
  Except.ok.inj ((decode_eq_ok.mpr rfl).symm.trans (decode_eq_ok.mpr h))

end Placard.Text
