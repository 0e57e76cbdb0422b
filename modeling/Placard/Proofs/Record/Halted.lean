import Placard.Proofs.Record.Checked

/-!
# Which checks cannot go on

A combination of checks cannot go on if one of them cannot. The checks of single values always can, so
only a node whose type cannot be looked up ever stops a check.
-/

namespace Placard.Record

open Placard.Data

namespace Checked

variable {α β : Type}

/-- Whether the check could not go on. -/
def isHalted : Checked α → Bool
  | halted _ => true
  | _ => false

theorem isHalted_iff {x : Checked α} : x.isHalted = true ↔ ∃ kind, x = halted kind := by
  cases x <;> simp [isHalted]

@[simp] theorem isHalted_good (a : α) : (good a).isHalted = false := rfl

@[simp] theorem isHalted_halted (kind : String) : (halted kind : Checked α).isHalted = true := rfl

@[simp] theorem isHalted_complain (c : Complaint) : (complain c : Checked α).isHalted = false := rfl

@[simp] theorem isHalted_map (f : α → β) (x : Checked α) : (x.map f).isHalted = x.isHalted := by
  cases x <;> rfl

@[simp] theorem isHalted_fmap (f : α → β) (x : Checked α) : (f <$> x).isHalted = x.isHalted :=
  isHalted_map f x

@[simp] theorem isHalted_seq (f : Checked (α → β)) (x : Checked α) :
    (f <*> x).isHalted = (f.isHalted || x.isHalted) := by
  cases f <;> cases x <;> rfl

@[simp] theorem isHalted_under (step : String) (x : Checked α) :
    (x.under step).isHalted = x.isHalted := by
  cases x <;> rfl

theorem isHalted_thenCheck {x : Checked α} {f : α → Checked β} (hx : x.isHalted = false)
    (hf : ∀ a, (f a).isHalted = false) : (x.thenCheck f).isHalted = false := by
  cases x with
  | good a => exact hf a
  | bad first more => rfl
  | halted kind => cases hx

end Checked

/-! ## Single values -/

@[simp] theorem isHalted_text (v : Value) : (text v).isHalted = false := by
  unfold text
  split <;> rfl

@[simp] theorem isHalted_switchOfInt (i : Int) : (switchOfInt i).isHalted = false := by
  unfold switchOfInt
  split
  · rfl
  · split <;> rfl

@[simp] theorem isHalted_switch (v : Value) : (switch v).isHalted = false := by
  unfold switch
  split
  · rfl
  · split
    · exact isHalted_switchOfInt _
    · rfl
  · split
    · split
      · exact isHalted_switchOfInt _
      · rfl
    · rfl
  · split
    · dsimp only
      split
      · rfl
      · split <;> rfl
    · rfl
    · rfl

@[simp] theorem isHalted_whole (v : Value) : (whole v).isHalted = false := by
  unfold whole
  split
  · rfl
  · rfl
  · split
    · rfl
    · split
      · rfl
      · split <;> rfl
  · split
    · split <;> rfl
    · rfl
    · rfl

@[simp] theorem isHalted_count (v : Value) : (count v).isHalted = false := by
  refine Checked.isHalted_thenCheck (isHalted_whole v) fun i => ?_
  split <;> rfl

@[simp] theorem isHalted_number (v : Value) : (number v).isHalted = false := by
  unfold number
  split
  · rfl
  · rfl
  · split <;> rfl
  · split
    · split <;> rfl
    · rfl
    · rfl

@[simp] theorem isHalted_exactly (s : String) (v : Value) : (exactly s v).isHalted = false := by
  unfold exactly
  split
  · split <;> rfl
  · rfl

@[simp] theorem isHalted_anything (v : Value) : (anything v).isHalted = false := rfl

/-! ## Lists and fields -/

section

variable {α : Type} {read : Value → Checked α}

theorem isHalted_optional (h : ∀ v, (read v).isHalted = false) (v : Value) :
    (optional read v).isHalted = false := by
  unfold optional
  split
  · rfl
  · rw [Checked.isHalted_map]
    exact h v

/-- The check of a list cannot go on if that of one of its items cannot. -/
theorem isHalted_each (position : Nat) (vs : List Value) :
    (each read position vs).isHalted = vs.any fun v => (read v).isHalted := by
  induction vs generalizing position with
  | nil => rfl
  | cons v vs ih => simp [each, ih]

theorem isHalted_listOf (v : Value) :
    (listOf read v).isHalted = (itemsOf v).any fun w => (read w).isHalted := by
  unfold listOf itemsOf
  split
  · next vs hvs =>
    rw [hvs]
    exact isHalted_each 0 vs
  · next hnone =>
    rw [hnone]
    rfl

theorem isHalted_listOf_of_forall (h : ∀ v, (read v).isHalted = false) (v : Value) :
    (listOf read v).isHalted = false := by
  rw [isHalted_listOf, List.any_eq_false]
  exact fun w _ => by rw [h w]; decide

theorem isHalted_field (h : ∀ v, (read v).isHalted = false) (entries : Entries) (name : String)
    (default : α) : (field entries name read default).isHalted = false := by
  unfold field
  split
  · rw [Checked.isHalted_under]
    exact h _
  · rfl

theorem isHalted_required (h : ∀ v, (read v).isHalted = false) (entries : Entries)
    (name : String) : (required entries name read).isHalted = false := by
  unfold required
  split
  · rw [Checked.isHalted_under]
    exact h _
  · rfl

theorem isHalted_record {read : Entries → Checked α} (h : ∀ entries, (read entries).isHalted = false)
    (name : String) (v : Value) : (record name read v).isHalted = false := by
  unfold record
  split
  · exact h _
  · rfl

end

@[simp] theorem isHalted_text? (entries : Entries) (name : String) :
    (text? entries name).isHalted = false :=
  isHalted_field (isHalted_optional isHalted_text) entries name none

end Placard.Record
