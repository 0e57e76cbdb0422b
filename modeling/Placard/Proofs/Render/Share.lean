import Placard.Proofs.Number.Reading
import Placard.Proofs.Text.Digit
import Placard.Render.Share

/-!
# The widths of columns

What a column gets in a row depends on its width and its size only, and on the weights of all
columns. Where no weight is negative, no weight exceeds the total, so that every column gets a width
and every share is between nothing and the whole row (`flex_percent`). A negative weight breaks both
(`flex_negativeWidths`).
-/

namespace Placard.Render

open Text Document

/-! ## What widths depend on -/

theorem weight_congr {c d : Column} (hwidth : c.width = d.width) (hsize : c.size = d.size) :
    weight c = weight d := by
  unfold weight
  rw [hwidth, hsize]

theorem flex_congr {c d : Column} (hwidth : c.width = d.width) (hsize : c.size = d.size)
    (total : Number.Double) : flex total c = flex total d := by
  unfold flex widthName
  rw [hwidth, hsize]

theorem weightSum_eq (cs : List Column) :
    weightSum cs = (cs.map weight).foldl Number.Double.add (.ofInt 0) := by
  rw [weightSum, List.foldl_map]

theorem totalWeight_congr {cs ds : List Column} (h : cs.map weight = ds.map weight) :
    totalWeight cs = totalWeight ds := by
  unfold totalWeight
  rw [weightSum_eq, weightSum_eq, h]

/-! ## Weights that are not negative -/

section

open Number Double

/-- Whether the width or the size of a column is a number below zero. -/
def isNegative (c : Column) : Bool :=
  (c.width.toList ++ c.size.toList).any fun text => (finite? text).any (lt · (ofInt 0))

/-- The number that a text gives is a finite double. -/
theorem fits_finite? {text : String} {x : Double} (h : finite? text = some x) :
    x.isFinite ∧ x.Fits := by
  obtain ⟨hread, hfinite⟩ := Option.filter_eq_some_iff.mp h
  exact ⟨hfinite, fits_looseDouble? hread⟩

theorem not_lt_zero_of_isNegative {c : Column} (h : isNegative c = false) {text : String}
    (htext : text ∈ c.width.toList ++ c.size.toList) {x : Double} (hx : finite? text = some x) :
    lt x (ofInt 0) = false := by
  have hall := List.any_eq_false.mp h text htext
  rw [hx] at hall
  exact Bool.eq_false_iff.mpr hall

/-- A weight comes from the width or the size of the column, or else it is zero. -/
theorem weight_cases (c : Column) :
    (∃ text ∈ c.width.toList ++ c.size.toList, finite? text = some (weight c)) ∨
      weight c = ofInt 0 := by
  have hzero : finite? "0" = some (ofInt 0) := by decide
  unfold weight
  cases hwidth : c.width.bind finite? with
  | some x =>
    obtain ⟨text, htext, hx⟩ := Option.bind_eq_some_iff.mp hwidth
    exact .inl ⟨text, by simp [htext], hx⟩
  | none =>
    cases hsize : c.size with
    | none => exact .inr (by rw [Option.getD_none, hzero]; rfl)
    | some text =>
      rw [Option.getD_some, Option.none_or]
      cases hx : finite? text with
      | none => exact .inr rfl
      | some x => exact .inl ⟨text, by simp, hx⟩

/-- The weight of a column is a finite double. -/
theorem fits_weight (c : Column) : (weight c).isFinite ∧ (weight c).Fits := by
  rcases weight_cases c with ⟨text, -, hx⟩ | hx
  · exact fits_finite? hx
  · rw [hx]
    exact ⟨rfl, fits_ofInt 0⟩

/-- The weight of a column whose width and size are not negative is not negative either. -/
theorem weight_nonneg {c : Column} (h : isNegative c = false) : 0 ≤ (weight c).value := by
  rcases weight_cases c with ⟨text, htext, hx⟩ | hx
  · exact value_nonneg (fits_weight c).2 (not_lt_zero_of_isNegative h htext hx)
  · rw [hx]
    exact value_ofInt_zero.ge

/-- The total of a row is no less than any of its weights, and it is never zero. -/
theorem totalWeight_spec {cs : List Column} (h : ∀ c ∈ cs, 0 ≤ (weight c).value) {c : Column}
    (hc : c ∈ cs) :
    AtLeast (weight c).value (totalWeight cs) ∧ (totalWeight cs).isZero = false := by
  obtain ⟨hfinite, hfits⟩ := fits_weight c
  have hall : ∀ w ∈ cs.map weight, AtLeast 0 w := by
    intro w hw
    obtain ⟨d, hd, rfl⟩ := List.mem_map.mp hw
    exact (atLeast_value (fits_weight d).1).mono (h d hd)
  have hsum : AtLeast (weight c).value (weightSum cs) := by
    rw [weightSum_eq]
    exact .foldl_add_of_mem hall (hfits.onGrid (h c hc)) (List.mem_map_of_mem hc)
      (atLeast_value hfinite) ((atLeast_value rfl).mono value_ofInt_zero.ge)
  have hsumfits : (weightSum cs).Fits := by
    rw [weightSum_eq]
    exact fits_foldl_add (fits_ofInt 0) _
  unfold totalWeight
  dsimp only
  split
  · next hlt => exact ⟨hsum, isZero_of_one_lt hlt⟩
  · next hlt =>
    have hone := hsum.of_not_lt hsumfits (fits_ofInt 1) (by decide) (Bool.eq_false_iff.mpr hlt)
    exact ⟨(atLeast_value (by decide)).mono hone, by decide⟩

/-- The share of a weight in a total that is no less is between nothing and all. -/
theorem share_between {w total : Double} (hw : w.isFinite) (hnonneg : 0 ≤ w.value)
    (htotal : total.isZero = false) (h : AtLeast w.value total) :
    ∃ percent, share w total = .ok percent ∧ 0 ≤ percent ∧ percent ≤ 100 := by
  obtain ⟨ratio, hdiv, hfinite, hone⟩ := div?_le_one hw htotal (by rwa [abs_of_nonneg hnonneg])
  have hratio : 0 ≤ ratio.value := value_div?_nonneg hnonneg (h.value_nonneg hnonneg) hdiv
  have hhundred : |(ofInt 100).value| = 100 := by
    rw [show ofInt 100 = finite false (100 * 2 ^ 46) (-46) by decide, abs_value]
    norm_num
  -- a hundred is on the grid, so the rounded product does not exceed it
  have hgrid : OnGrid 100 :=
    ⟨100 * 2 ^ 46, -46, by norm_num, by decide, by norm_num⟩
  have hsmall : (100 : ℚ) < 2 ^ (1023 : Int) :=
    calc (100 : ℚ) < 2 ^ (7 : Int) := by norm_num
      _ < 2 ^ (1023 : Int) := two_zpow_lt (by decide)
  obtain ⟨hproduct, hbound⟩ : ((ofInt 100).mul ratio).isFinite ∧
      |((ofInt 100).mul ratio).value| ≤ 100 := by
    refine mul_le (by decide) hfinite hgrid ?_ hsmall
    rw [hhundred]
    linarith
  have hlow : 0 ≤ ((ofInt 100).mul ratio).value := by
    refine value_mul_nonneg ?_ hratio
    rw [show ofInt 100 = finite false (100 * 2 ^ 46) (-46) by decide]
    exact (value_nonneg_iff ..).mpr (.inl rfl)
  obtain ⟨percent, hround, hbetween⟩ :=
    round?_between (n := 100) hproduct hlow ((le_abs_self _).trans (by exact_mod_cast hbound))
  unfold share
  rw [hdiv]
  dsimp only
  split
  · next hnan => rw [hnan] at hproduct; cases hproduct
  · next hinfinite => rw [hinfinite] at hproduct; cases hproduct
  · exact ⟨percent, by rw [hround]; rfl, hbetween⟩

theorem finite?_of_lowered {text : String} {x : Double} (h : finite? (lowered text) = some x) :
    finite? text = some x := by
  obtain ⟨hread, hfinite⟩ := Option.filter_eq_some_iff.mp h
  rw [lowered, String.toList_ofList] at hread
  exact Option.filter_eq_some_iff.mpr ⟨looseDouble?_of_lower hread hfinite, hfinite⟩

/-- Only the empty text has an empty text in small letters. -/
theorem eq_empty_of_lowered {text : String} (h : (lowered text).isEmpty = true) : text = "" := by
  have hnil : lower text.toList = [] := by
    rw [String.isEmpty_iff] at h
    have htoList := congrArg String.toList h
    rwa [lowered, String.toList_ofList] at htoList
  have hempty : text.toList = [] := by
    cases hchars : text.toList with
    | nil => rfl
    | cons c cs =>
      rw [hchars] at hnil
      unfold lower lower.go at hnil
      dsimp only at hnil
      have hsmall := (List.append_eq_nil_iff.mp hnil).1
      split at hsmall
      · cases hsmall
      split at hsmall <;> cases hsmall
  rw [← String.ofList_toList (s := text), hempty]

/-- What gives the width of a column as a number gives its weight. -/
theorem weight_of_finite?_widthName {c : Column} {x : Double} (h : finite? (widthName c) = some x) :
    weight c = x := by
  have hempty : finite? "" = none := by decide
  unfold widthName at h
  dsimp only at h
  unfold weight
  split at h
  · next hwidth =>
    have hnone : c.width.bind finite? = none := by
      cases hsome : c.width with
      | none => rfl
      | some text =>
        rw [hsome, Option.getD_some] at hwidth
        rw [eq_empty_of_lowered hwidth]
        exact hempty
    have hx := finite?_of_lowered h
    cases hsize : c.size with
    | none => rw [hsize, Option.getD_none, hempty] at hx; cases hx
    | some text =>
      rw [hsize, Option.getD_some] at hx
      rw [hnone, Option.getD_some, hx]
      rfl
  · have hx := finite?_of_lowered h
    cases hwidth : c.width with
    | none => rw [hwidth, Option.getD_none, hempty] at hx; cases hx
    | some text =>
      rw [hwidth, Option.getD_some] at hx
      rw [Option.bind_some, hx]
      rfl

/-- Where no weight is negative, a column gets a share between nothing and all, or one of the other
widths. -/
theorem flex_cases {cs : List Column} (h : ∀ d ∈ cs, 0 ≤ (weight d).value) {c : Column}
    (hc : c ∈ cs) :
    (∃ percent, flex (totalWeight cs) c =
        .ok (String.ofList ("1 1 ".toList ++ intText percent ++ ['%'])) ∧
      0 ≤ percent ∧ percent ≤ 100) ∨
    ∃ width ∈ ["1 1 auto", "0 1 auto", "0 0 auto"], flex (totalWeight cs) c = .ok width := by
  obtain ⟨hle, hzero⟩ := totalWeight_spec h hc
  unfold flex
  dsimp only
  split
  · exact .inr ⟨_, by decide, rfl⟩
  split
  · exact .inr ⟨_, by decide, rfl⟩
  split
  · next x hx =>
    obtain rfl := weight_of_finite?_widthName hx
    obtain ⟨percent, hshare, hbetween⟩ := share_between (fits_weight c).1 (h c hc) hzero hle
    rw [hshare]
    exact .inl ⟨percent, rfl, hbetween⟩
  · exact .inr ⟨_, by decide, rfl⟩

/-- In a row without negative widths every column gets its width. -/
theorem flex_ok {cs : List Column} (h : ∀ c ∈ cs, isNegative c = false) {c : Column} (hc : c ∈ cs) :
    ∃ width, flex (totalWeight cs) c = .ok width := by
  rcases flex_cases (fun d hd => weight_nonneg (h d hd)) hc with ⟨_, hflex, -⟩ | ⟨_, -, hflex⟩
  · exact ⟨_, hflex⟩
  · exact ⟨_, hflex⟩

/-- **Shares are legal.** In a row in which no weight is below zero every column gets a width, and
where that is a share it is no less than nothing and no more than the whole row. -/
theorem flex_percent {cs : List Column} (h : ∀ d ∈ cs, lt (weight d) (ofInt 0) = false)
    {c : Column} (hc : c ∈ cs) :
    ∃ width, flex (totalWeight cs) c = .ok width ∧
      ∀ percent : Int, width = "1 1 " ++ String.ofList (intText percent) ++ "%" →
        0 ≤ percent ∧ percent ≤ 100 := by
  have hweights : ∀ d ∈ cs, 0 ≤ (weight d).value :=
    fun d hd => value_nonneg (fits_weight d).2 (h d hd)
  have htext (percent : Int) : ("1 1 " ++ String.ofList (intText percent) ++ "%").toList =
      "1 1 ".toList ++ intText percent ++ ['%'] := by
    rw [String.toList_append, String.toList_append, String.toList_ofList (l := intText percent)]
    rfl
  rcases flex_cases hweights hc with ⟨share, hflex, hbetween⟩ | ⟨width, hwidth, hflex⟩
  · refine ⟨_, hflex, fun percent heq => ?_⟩
    have hchars := congrArg String.toList heq
    rw [htext, String.toList_ofList] at hchars
    obtain rfl := intText_injective (List.append_cancel_left (List.append_cancel_right hchars))
    exact hbetween
  · -- none of the other widths ends in a percent sign
    refine ⟨width, hflex, fun percent heq => ?_⟩
    have hlast : width.toList.getLast? = some '%' := by
      rw [heq, htext, List.getLast?_concat]
    simp only [List.mem_cons, List.not_mem_nil, or_false] at hwidth
    rcases hwidth with rfl | rfl | rfl <;> exact absurd hlast (by decide)

/-- Columns of these widths. -/
def columnsOfWidths (widths : List String) : List Column :=
  widths.map fun width =>
    { frame := {}, items := [], width := some width, size := none, selectAction := none }

/-- The sum of these weights is infinite, and the part of each is nothing. -/
theorem flex_percent_huge :
    (∀ d ∈ columnsOfWidths ["1e308", "1e308", "0.5"], lt (weight d) (ofInt 0) = false) ∧
    ∃ c ∈ columnsOfWidths ["1e308", "1e308", "0.5"], c.width = some "1e308" ∧
      ∃ width, flex (totalWeight (columnsOfWidths ["1e308", "1e308", "0.5"])) c = .ok width ∧
        ∀ percent : Int, width = "1 1 " ++ String.ofList (intText percent) ++ "%" →
          0 ≤ percent ∧ percent ≤ 100 := by
  have hweights : ∀ d ∈ columnsOfWidths ["1e308", "1e308", "0.5"],
      lt (weight d) (ofInt 0) = false := by decide +kernel
  exact ⟨hweights, _, List.mem_cons_self, rfl, flex_percent hweights List.mem_cons_self⟩

/-- **Shares of negative weights.** A negative weight gets a negative share, and the others get more
than the whole row; a share beyond the range of doubles is none at all. -/
theorem flex_negativeWidths :
    let widthsIn (cs : List Column) := cs.map fun c => (flex (totalWeight cs) c).toOption
    widthsIn (columnsOfWidths ["-50", "60"]) = [some "1 1 -500%", some "1 1 600%"] ∧
      widthsIn (columnsOfWidths ["-1e308"]) = [none] := by
  decide +kernel

end

end Placard.Render
