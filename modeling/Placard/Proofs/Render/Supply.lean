import Placard.Proofs.Data.FirstOccurrence
import Placard.Proofs.Render.Issue

/-!
# Calls for ids

A pass is asked for ids again and again, and its source may repeat itself as it likes. A call ends
with the first value that was not issued before, or fails after a hundred that were
(`freshId_cases`). So after any number of calls the issued ids are the first occurrences of the
values taken (`issued_passAfter`), and a value that is new is given by the call that comes to it,
whatever calls have failed on the way (`callAfter_of_new`).
-/

namespace Placard.Render

variable (source : IdSource)

/-! ## The values taken -/

/-- The values that a source gives first. -/
def supplied (n : Nat) : List String :=
  (List.range n).map source

theorem supplied_add (n k : Nat) :
    supplied source (n + k) = supplied source n ++ (List.range k).map fun j => source (n + j) := by
  rw [supplied, List.range_add, List.map_append, List.map_map]
  rfl

theorem supplied_succ (n : Nat) : supplied source (n + 1) = supplied source n ++ [source n] :=
  supplied_add source n 1

variable {source}

/-- Values that came before make no difference to the first occurrences. -/
theorem eraseDups_supplied_add {n k : Nat}
    (h : ∀ j < k, source (n + j) ∈ (supplied source n).eraseDups) :
    (supplied source (n + k)).eraseDups = (supplied source n).eraseDups := by
  rw [supplied_add]
  refine Data.eraseDups_append_of_forall_mem fun value hvalue => ?_
  obtain ⟨j, hj, rfl⟩ := List.mem_map.mp hvalue
  exact List.mem_eraseDups.mp (h j (List.mem_range.mp hj))

/-- **What a call preserves.** If the issued ids are the first occurrences of the values taken, they
are so after the call, whether it fails or not. -/
theorem issued_freshId {p : Pass} (h : p.issued = (supplied source p.taken).eraseDups) :
    (freshId source p).2.issued = (supplied source (freshId source p).2.taken).eraseDups := by
  rcases freshId_cases source p with ⟨i, -, hused, hnew, hcall⟩ | ⟨hused, hcall⟩
  · rw [hcall]
    rw [h] at hused hnew
    have hsame := eraseDups_supplied_add hused
    have hnot : source (p.taken + i) ∉ supplied source (p.taken + i) := by
      rwa [← List.mem_eraseDups, hsame]
    dsimp only
    rw [supplied_succ, Data.eraseDups_concat_of_not_mem hnot, hsame, h]
  · rw [hcall]
    rw [h] at hused
    exact h.trans (eraseDups_supplied_add hused).symm

/-! ## Many calls -/

variable (source)

/-- The pass after calls for an id, those that fail included. -/
def passAfter : Nat → Pass
  | 0 => {}
  | n + 1 => (freshId source (passAfter n)).2

/-- What the next call gives after as many. -/
def callAfter (n : Nat) : Except Fault String :=
  (freshId source (passAfter source n)).1

/-- The ids that the first calls give, in order. -/
def givenIds (n : Nat) : List String :=
  (List.range n).filterMap fun k => (callAfter source k).toOption

theorem issued_passAfter (n : Nat) :
    (passAfter source n).issued = (supplied source (passAfter source n).taken).eraseDups := by
  induction n with
  | zero => rfl
  | succ n ih => exact issued_freshId ih

/-- A pass issues what its calls give, and nothing else. -/
theorem givenIds_eq_issued (n : Nat) : givenIds source n = (passAfter source n).issued := by
  induction n with
  | zero => rfl
  | succ n ih =>
    rw [givenIds, List.range_succ, Data.filterMap_concat, ← givenIds, ih, callAfter, passAfter]
    rcases freshId_cases source (passAfter source n) with ⟨i, -, -, -, hcall⟩ | ⟨-, hcall⟩
    · rw [hcall]
      rfl
    · rw [hcall]
      exact List.append_nil _

/-- A call fails just if the next hundred values were issued before. -/
theorem callAfter_eq_error_iff (n : Nat) : callAfter source n = .error .exhaustedIds ↔
    ∀ i < 100, source ((passAfter source n).taken + i) ∈ (passAfter source n).issued := by
  unfold callAfter
  rcases freshId_cases source (passAfter source n) with ⟨i, hi, -, hnew, hcall⟩ | ⟨hused, hcall⟩
  · rw [hcall]
    exact iff_of_false (fun h => by cases h) fun h => hnew (h i hi)
  · rw [hcall]
    exact iff_of_true rfl hused

/-- A failing call takes a hundred values, and changes nothing else. -/
theorem passAfter_succ_of_error {n : Nat} {e : Fault} (h : callAfter source n = .error e) :
    e = .exhaustedIds ∧ passAfter source (n + 1) =
      { passAfter source n with taken := (passAfter source n).taken + 100 } := by
  rw [passAfter]
  unfold callAfter at h
  rcases freshId_cases source (passAfter source n) with ⟨i, -, -, -, hcall⟩ | ⟨-, hcall⟩
  · rw [hcall] at h
    cases h
  · rw [hcall] at h ⊢
    exact ⟨(Except.error.inj h).symm, rfl⟩

variable {source}

/-- As long as a source gives nothing new, all calls fail. -/
theorem passAfter_add_of_used {n k : Nat}
    (h : ∀ j < 100 * k, source ((passAfter source n).taken + j) ∈ (passAfter source n).issued) :
    (∀ m < k, callAfter source (n + m) = .error .exhaustedIds) ∧ passAfter source (n + k) =
      { passAfter source n with taken := (passAfter source n).taken + 100 * k } := by
  induction k with
  | zero => exact ⟨fun m hm => absurd hm (Nat.not_lt_zero m), rfl⟩
  | succ k ih =>
    obtain ⟨hfail, hpass⟩ := ih fun j hj => h j (by omega)
    have hlast : callAfter source (n + k) = .error .exhaustedIds := by
      rw [callAfter_eq_error_iff, hpass]
      intro i hi
      dsimp only
      rw [Nat.add_assoc]
      exact h _ (by omega)
    refine ⟨fun m hm => ?_, ?_⟩
    · rcases Nat.lt_succ_iff_lt_or_eq.mp hm with hm | rfl
      · exact hfail m hm
      · exact hlast
    · rw [← Nat.add_assoc, (passAfter_succ_of_error source hlast).2, hpass]
      dsimp only
      rw [Nat.add_assoc, Nat.mul_succ]

/-- **A new value is given.** The call that comes to the first value that is new succeeds with it;
all calls before it fail. -/
theorem callAfter_of_new {n d : Nat}
    (hused : ∀ j < d, source ((passAfter source n).taken + j) ∈ (passAfter source n).issued)
    (hnew : source ((passAfter source n).taken + d) ∉ (passAfter source n).issued) :
    (∀ m < d / 100, callAfter source (n + m) = .error .exhaustedIds) ∧
      callAfter source (n + d / 100) = .ok (source ((passAfter source n).taken + d)) := by
  obtain ⟨hfail, hpass⟩ := passAfter_add_of_used (n := n) (k := d / 100)
    fun j hj => hused j (by omega)
  refine ⟨hfail, ?_⟩
  -- the value stands among the next hundred, and the call takes the first that is new
  have hplace : (passAfter source n).taken + 100 * (d / 100) + d % 100 =
      (passAfter source n).taken + d := by omega
  have hcases := freshId_cases source (passAfter source (n + d / 100))
  unfold callAfter
  rw [hpass] at hcases ⊢
  dsimp only at hcases
  rcases hcases with ⟨i, -, hbefore, hfirst, hcall⟩ | ⟨hall, -⟩
  · have hi : i = d % 100 := by
      rcases Nat.lt_trichotomy i (d % 100) with hlt | heq | hgt
      · rw [Nat.add_assoc] at hfirst
        exact absurd (hused _ (by omega)) hfirst
      · exact heq
      · have hmem := hbefore _ hgt
        rw [hplace] at hmem
        exact absurd hmem hnew
    rw [hcall, hi, hplace]
  · have hmem := hall (d % 100) (by omega)
    rw [hplace] at hmem
    exact absurd hmem hnew

/-- A call takes a value at least, and no more than a hundred. -/
theorem taken_passAfter_succ (source : IdSource) (n : Nat) :
    (passAfter source n).taken < (passAfter source (n + 1)).taken ∧
      (passAfter source (n + 1)).taken ≤ (passAfter source n).taken + 100 := by
  rw [passAfter]
  rcases freshId_cases source (passAfter source n) with ⟨i, hi, -, -, hcall⟩ | ⟨-, hcall⟩
  · rw [hcall]
    dsimp only
    omega
  · rw [hcall]
    dsimp only
    omega

/-- **The ids of a pass.** Whatever a source gives, the ids that calls give are distinct, and they
are the first occurrences of the values taken so far, in their order. A call takes no more than a
hundred values. It fails just if the next hundred were all given before, and then issues nothing.
After any calls, if the next `d` values were given before and the one behind them was not, then as
many calls fail as there are hundreds in `d`, and the one after them gives that value. -/
theorem givenIds_eq_eraseDups (source : IdSource) (n : Nat) :
    (givenIds source n).Nodup ∧
    givenIds source n = (supplied source (passAfter source n).taken).eraseDups ∧
    (passAfter source n).issued = givenIds source n ∧
    ((passAfter source n).taken < (passAfter source (n + 1)).taken ∧
      (passAfter source (n + 1)).taken ≤ (passAfter source n).taken + 100) ∧
    (callAfter source n = .error .exhaustedIds ↔
      ∀ i < 100, source ((passAfter source n).taken + i) ∈ givenIds source n) ∧
    (∀ e, callAfter source n = .error e →
      e = .exhaustedIds ∧ (passAfter source (n + 1)).issued = (passAfter source n).issued) ∧
    ∀ d, (∀ j < d, source ((passAfter source n).taken + j) ∈ givenIds source n) →
      source ((passAfter source n).taken + d) ∉ givenIds source n →
      (∀ m < d / 100, callAfter source (n + m) = .error .exhaustedIds) ∧
        callAfter source (n + d / 100) = .ok (source ((passAfter source n).taken + d)) := by
  rw [givenIds_eq_issued]
  have hfirst := issued_passAfter source n
  refine ⟨?_, hfirst, rfl, taken_passAfter_succ source n, callAfter_eq_error_iff source n,
    fun e he => ?_, fun d hused hnew => callAfter_of_new hused hnew⟩
  · rw [hfirst]
    exact Data.nodup_eraseDups _
  · obtain ⟨hfault, hpass⟩ := passAfter_succ_of_error source he
    exact ⟨hfault, by rw [hpass]⟩

/-- A source that gives one value for long, and then another one. -/
def lateSource : IdSource := fun place =>
  if place < 151 then "ac-1" else "ac-2"

/-- The second call meets the first id a hundred times, the third one fifty times more. -/
theorem givenIds_eq_eraseDups_late :
    (∀ j < 150, lateSource ((passAfter lateSource 1).taken + j) ∈ givenIds lateSource 1) ∧
    lateSource ((passAfter lateSource 1).taken + 150) ∉ givenIds lateSource 1 ∧
    callAfter lateSource 1 = .error .exhaustedIds ∧ callAfter lateSource 2 = .ok "ac-2" := by
  have htaken : (passAfter lateSource 1).taken = 1 := rfl
  have hgiven : givenIds lateSource 1 = ["ac-1"] := rfl
  have hused : ∀ j < 150, lateSource ((passAfter lateSource 1).taken + j) ∈
      givenIds lateSource 1 := by
    intro j hj
    rw [htaken, hgiven, lateSource, if_pos (by omega)]
    exact List.mem_singleton_self _
  have hnew : lateSource ((passAfter lateSource 1).taken + 150) ∉ givenIds lateSource 1 := by
    rw [htaken, hgiven]
    decide
  obtain ⟨-, -, -, -, -, -, hlaw⟩ := givenIds_eq_eraseDups lateSource 1
  obtain ⟨hfail, hlate⟩ := hlaw 150 hused hnew
  exact ⟨hused, hnew, hfail 0 (by decide), hlate⟩

end Placard.Render
