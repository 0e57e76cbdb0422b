import Mathlib.Data.List.Basic
import Mathlib.Data.List.TakeWhile
import Placard.Text.Blank

/-!
# Trimming and cutting

What trimming leaves of a word with blanks around it is the word (`trim_padded`), and a text that
was put together with separators falls into the same parts again (`cutAt_joinWith`). So do words,
which are not empty and hold no character that separates words (`wordsBy_joinWith`).
-/

namespace Placard.Text

/-- What holds of each character that is listed, as a check of the list says. To decide the statement
itself is to run through all characters there are. -/
theorem forall_mem_of_all {P : Char → Prop} [DecidablePred P] {cs : List Char}
    (h : cs.all (fun c => decide (P c)) = true) : ∀ c ∈ cs, P c :=
  fun c hc => of_decide_eq_true (List.all_eq_true.mp h c hc)

/-! ## Beginnings -/

/-- What follows a beginning is found behind it, and nothing else is. -/
theorem afterStart_eq_some_iff {start cs rest : List Char} :
    afterStart? start cs = some rest ↔ cs = start ++ rest := by
  induction start generalizing cs with
  | nil => exact Option.some_inj
  | cons a as ih =>
    cases cs with
    | nil => simp [afterStart?]
    | cons c cs =>
      rw [afterStart?, List.cons_append, List.cons.injEq]
      split
      · next h => rw [ih, h, eq_self, true_and]
      · next h => simp [Ne.symm h]

theorem afterStart_append (start rest : List Char) :
    afterStart? start (start ++ rest) = some rest :=
  afterStart_eq_some_iff.mpr rfl

/-! ## Blanks -/

section

variable {p : Char → Bool} {before after word : List Char}

/-- What begins with no character of a class is found behind characters of the class. -/
theorem dropLeading_append (hbefore : ∀ c ∈ before, p c = true)
    (hword : ∀ c ∈ word.head?, p c = false) :
    dropLeading p (before ++ word) = word := by
  unfold dropLeading
  rw [List.dropWhile_append_of_pos hbefore]
  cases word with
  | nil => rfl
  | cons c cs => rw [List.dropWhile_cons_of_neg (by rw [hword c rfl]; decide)]

/-- Characters of a class are taken up to what begins with another one. -/
theorem takeWhile_append (hbefore : ∀ c ∈ before, p c = true)
    (hword : ∀ c ∈ word.head?, p c = false) : (before ++ word).takeWhile p = before := by
  rw [List.takeWhile_append_of_pos hbefore]
  cases word with
  | nil => exact List.append_nil before
  | cons c cs => rw [List.takeWhile_cons_of_neg (by rw [hword c rfl]; decide), List.append_nil]

/-- Characters of a class are told from what follows them and begins with another one. -/
theorem append_inj_of_class {xs ys cs ds : List Char} (hxs : ∀ c ∈ xs, p c = true)
    (hys : ∀ c ∈ ys, p c = true) (hcs : ∀ c ∈ cs.head?, p c = false)
    (hds : ∀ c ∈ ds.head?, p c = false) (h : xs ++ cs = ys ++ ds) : xs = ys ∧ cs = ds := by
  have htake := congrArg (List.takeWhile p) h
  rw [takeWhile_append hxs hcs, takeWhile_append hys hds] at htake
  obtain rfl := htake
  exact ⟨rfl, List.append_cancel_left h⟩

theorem dropTrailing_append (hafter : ∀ c ∈ after, p c = true)
    (hword : ∀ c ∈ word.getLast?, p c = false) : dropTrailing p (word ++ after) = word := by
  have hreversed : dropLeading p (after.reverse ++ word.reverse) = word.reverse :=
    dropLeading_append (fun c hc => hafter c (List.mem_reverse.mp hc))
      (by rwa [List.head?_reverse])
  unfold dropTrailing
  rw [List.reverse_append]
  exact (congrArg List.reverse hreversed).trans word.reverse_reverse

/-- A word that neither begins nor ends with a character of a class is what trimming leaves of it
between characters of the class. -/
theorem trimBy_padded (hbefore : ∀ c ∈ before, p c = true) (hafter : ∀ c ∈ after, p c = true)
    (hne : word ≠ []) (hhead : ∀ c ∈ word.head?, p c = false)
    (hlast : ∀ c ∈ word.getLast?, p c = false) : trimBy p (before ++ word ++ after) = word := by
  have hhead' : ∀ c ∈ (word ++ after).head?, p c = false := by
    rwa [List.head?_append_of_ne_nil _ hne]
  unfold trimBy
  rw [List.append_assoc, dropLeading_append hbefore hhead', dropTrailing_append hafter hlast]

/-- A word that neither begins nor ends with a character of a class is left as it is. -/
theorem trimBy_eq_self (hne : word ≠ []) (hhead : ∀ c ∈ word.head?, p c = false)
    (hlast : ∀ c ∈ word.getLast?, p c = false) : trimBy p word = word := by
  have hpadded : trimBy p ([] ++ word ++ []) = word := trimBy_padded nofun nofun hne hhead hlast
  rwa [List.nil_append, List.append_nil] at hpadded

/-- Characters of the class behind make no difference. -/
theorem trimBy_append_right (hafter : ∀ c ∈ after, p c = true) (cs : List Char) :
    trimBy p (cs ++ after) = trimBy p cs := by
  have hnone : dropLeading p after = [] := List.dropWhile_eq_nil_iff.mpr hafter
  have htrailing (ds : List Char) : dropTrailing p (ds ++ after) = dropTrailing p ds := by
    unfold dropTrailing
    rw [List.reverse_append,
      List.dropWhile_append_of_pos fun c hc => hafter c (List.mem_reverse.mp hc)]
  unfold trimBy
  rw [dropLeading, List.dropWhile_append]
  split
  · next hempty =>
    rw [dropLeading, List.isEmpty_iff.mp hempty]
    exact congrArg (dropTrailing p) hnone
  · exact htrailing _

/-- What holds of the class and of all that trimming leaves holds of the text. -/
theorem forall_mem_of_trimBy {P : Char → Prop} (hclass : ∀ c, p c = true → P c)
    {cs : List Char} (h : ∀ c ∈ trimBy p cs, P c) : ∀ c ∈ cs, P c := by
  have hdrop {cs : List Char} (h : ∀ c ∈ cs.dropWhile p, P c) : ∀ c ∈ cs, P c := by
    intro c hc
    rw [← List.takeWhile_append_dropWhile (p := p) (l := cs)] at hc
    rcases List.mem_append.mp hc with hc | hc
    · exact hclass c (List.mem_takeWhile_imp hc)
    · exact h c hc
  refine hdrop fun c hc => ?_
  refine hdrop (fun d hd => ?_) c (List.mem_reverse.mpr hc)
  exact h d (List.mem_reverse.mpr hd)

/-- Nothing is left of characters of the class alone. -/
theorem trimBy_of_forall (h : ∀ c ∈ word, p c = true) : trimBy p word = [] := by
  have hleading : dropLeading p (word ++ []) = [] := dropLeading_append h fun c hc => by cases hc
  rw [List.append_nil] at hleading
  unfold trimBy
  rw [hleading]
  rfl

end

/-- The blanks at the beginning of a text. -/
def leadingBlanks (cs : List Char) : List Char :=
  cs.takeWhile isBlank

/-- The blanks at the end of a text. -/
def trailingBlanks (cs : List Char) : List Char :=
  (cs.reverse.takeWhile isBlank).reverse

section

variable {cs : List Char}

theorem isBlank_of_mem_leadingBlanks : ∀ c ∈ leadingBlanks cs, isBlank c = true :=
  List.all_eq_true.mp List.all_takeWhile

theorem isBlank_of_mem_trailingBlanks : ∀ c ∈ trailingBlanks cs, isBlank c = true :=
  fun c hc => List.all_eq_true.mp List.all_takeWhile c (List.mem_reverse.mp hc)

/-- Blanks at the end are left when those at the beginning are dropped. -/
theorem trim_append_trailingBlanks (h : trim cs ≠ []) :
    trim cs ++ trailingBlanks cs = dropLeading isBlank cs := by
  have hreverse : cs.reverse = (cs.dropWhile isBlank).reverse ++ (leadingBlanks cs).reverse := by
    rw [← List.reverse_append, leadingBlanks, List.takeWhile_append_dropWhile]
  have htrailing : trailingBlanks cs =
      ((cs.dropWhile isBlank).reverse.takeWhile isBlank).reverse := by
    rw [trailingBlanks, hreverse, List.takeWhile_append, if_neg]
    intro hlength
    have hsum := congrArg List.length
      ((cs.dropWhile isBlank).reverse.takeWhile_append_dropWhile (p := isBlank))
    rw [List.length_append, hlength, Nat.add_eq_left] at hsum
    exact h (congrArg List.reverse (List.eq_nil_of_length_eq_zero hsum))
  rw [htrailing, trim, trimBy, dropTrailing, dropLeading, ← List.reverse_append,
    List.takeWhile_append_dropWhile, List.reverse_reverse]

/-- A text is what trimming leaves of it, between its blanks. -/
theorem append_trim (h : trim cs ≠ []) :
    leadingBlanks cs ++ (trim cs ++ trailingBlanks cs) = cs := by
  rw [trim_append_trailingBlanks h]
  exact List.takeWhile_append_dropWhile

/-- Trimming a second time changes nothing. -/
theorem trim_trim (cs : List Char) : trim (trim cs) = trim cs := by
  by_cases hne : trim cs = []
  · rw [hne]
    rfl
  refine trimBy_eq_self hne (fun c hc => ?_) fun c hc => ?_
  · refine head?_dropLeading isBlank cs c ?_
    rwa [← trim_append_trailingBlanks hne, List.head?_append_of_ne_nil _ hne]
  · rw [trim, trimBy, dropTrailing, List.getLast?_reverse] at hc
    exact head?_dropLeading isBlank _ c hc

end

/-! ## Joining -/

section

variable {sep part : List Char} {parts : List (List Char)}

theorem joinWith_cons (hne : parts ≠ []) :
    joinWith sep (part :: parts) = part ++ (sep ++ joinWith sep parts) := by
  rw [joinWith.eq_3 _ _ _ hne, List.append_assoc]

/-- What is joined consists of the parts and what stands between them. -/
theorem forall_mem_joinWith {P : Char → Prop} (hsep : ∀ c ∈ sep, P c)
    (hparts : ∀ part ∈ parts, ∀ c ∈ part, P c) : ∀ c ∈ joinWith sep parts, P c := by
  induction parts with
  | nil => exact nofun
  | cons part parts ih =>
    rw [List.forall_mem_cons] at hparts
    by_cases hne : parts = []
    · subst hne
      exact hparts.1
    · rw [joinWith_cons hne, List.forall_mem_append, List.forall_mem_append]
      exact ⟨hparts.1, hsep, ih hparts.2⟩

/-- What is joined begins as the first part does. -/
theorem head?_joinWith (hpart : part ≠ []) (parts : List (List Char)) :
    (joinWith sep (part :: parts)).head? = part.head? := by
  cases parts with
  | nil => rfl
  | cons next parts =>
    rw [joinWith_cons (List.cons_ne_nil _ _), List.head?_append_of_ne_nil _ hpart]

/-- What is joined ends as one of the parts does. -/
theorem getLast?_joinWith (hne : ∀ part ∈ parts, part ≠ []) :
    ∀ c ∈ (joinWith sep parts).getLast?, ∃ part ∈ parts, c ∈ part.getLast? := by
  induction parts with
  | nil => exact nofun
  | cons part parts ih =>
    rw [List.forall_mem_cons] at hne
    cases parts with
    | nil => exact fun c hc => ⟨part, List.mem_cons_self, hc⟩
    | cons next parts =>
      intro c hc
      have hnext := (List.forall_mem_cons.mp hne.2).1
      have hrest : joinWith sep (next :: parts) ≠ [] := by
        intro hnil
        have hhead := @head?_joinWith sep next hnext parts
        rw [hnil] at hhead
        exact hnext (List.head?_eq_none_iff.mp hhead.symm)
      rw [joinWith_cons (List.cons_ne_nil _ _), ← List.append_assoc,
        List.getLast?_append_of_ne_nil _ hrest] at hc
      obtain ⟨last, hmem, hlast⟩ := ih hne.2 c hc
      exact ⟨last, List.mem_cons_of_mem _ hmem, hlast⟩

end

/-! ## Cutting -/

theorem cutAt_of_not_mem {sep : Char} {part : List Char} (h : sep ∉ part) :
    cutAt sep part = [part] := by
  induction part with
  | nil => rfl
  | cons c part ih =>
    rw [List.mem_cons, not_or] at h
    rw [cutAt, if_neg (Ne.symm h.1), ih h.2]

theorem cutAt_ne_nil (sep : Char) (cs : List Char) : cutAt sep cs ≠ [] := by
  cases cs with
  | nil => exact List.cons_ne_nil _ _
  | cons c cs =>
    unfold cutAt
    split
    · exact List.cons_ne_nil _ _
    · split <;> exact List.cons_ne_nil _ _

/-- A text falls into the parts before a separator and those behind it. -/
theorem cutAt_append_cons (sep : Char) (cs ds : List Char) :
    cutAt sep (cs ++ sep :: ds) = cutAt sep cs ++ cutAt sep ds := by
  induction cs with
  | nil =>
    rw [List.nil_append, cutAt.eq_2, if_pos rfl]
    rfl
  | cons c cs ih =>
    rw [List.cons_append, cutAt, cutAt, ih]
    split
    · rfl
    · obtain ⟨part, parts, hparts⟩ := List.exists_cons_of_ne_nil (cutAt_ne_nil sep cs)
      rw [hparts]
      rfl

/-- A part without separators stays whole in front of a separator. -/
theorem cutAt_append {sep : Char} {part : List Char} (h : sep ∉ part) (cs : List Char) :
    cutAt sep (part ++ sep :: cs) = part :: cutAt sep cs := by
  rw [cutAt_append_cons, cutAt_of_not_mem h, List.singleton_append]

/-- **Cutting undoes joining.** -/
theorem cutAt_joinWith {sep : Char} {parts : List (List Char)} (hne : parts ≠ [])
    (h : ∀ part ∈ parts, sep ∉ part) : cutAt sep (joinWith [sep] parts) = parts := by
  induction parts with
  | nil => exact absurd rfl hne
  | cons part parts ih =>
    rw [List.forall_mem_cons] at h
    cases parts with
    | nil => exact cutAt_of_not_mem h.1
    | cons next parts =>
      rw [joinWith_cons (List.cons_ne_nil _ _), List.singleton_append, cutAt_append h.1,
        ih (List.cons_ne_nil _ _) h.2]

/-! ## Words -/

section

variable {p : Char → Bool}

/-- Whether it can be a word of a text. -/
def IsWord (p : Char → Bool) (w : List Char) : Prop :=
  w ≠ [] ∧ ∀ c ∈ w, p c = false

theorem wordsBy_nil : wordsBy p [] = [] := rfl

/-- A word ends with the text. -/
theorem wordsBy_go_nil {word : List Char} (h : word ≠ []) :
    wordsBy.go p [] word = [word.reverse] := by
  cases word with
  | nil => exact absurd rfl h
  | cons c word => rfl

/-- A word ends before a separator. -/
theorem wordsBy_go_separator {sep : Char} (hsep : p sep = true) (cs : List Char)
    {word : List Char} (h : word ≠ []) :
    wordsBy.go p (sep :: cs) word = word.reverse :: wordsBy p cs := by
  cases word with
  | nil => exact absurd rfl h
  | cons c word => exact if_pos hsep

theorem wordsBy_go_cons {c : Char} (hc : p c = false) (cs word : List Char) :
    wordsBy.go p (c :: cs) word = wordsBy.go p cs (c :: word) :=
  if_neg (Bool.eq_false_iff.mp hc)

theorem isWord_of_mem_go {cs word w : List Char} (hword : ∀ c ∈ word, p c = false)
    (hw : w ∈ wordsBy.go p cs word) : IsWord p w := by
  fun_induction wordsBy.go p cs word with
  | case1 => cases hw
  | case2 word hne =>
    rw [List.mem_singleton.mp hw]
    exact ⟨fun h => hne (List.reverse_eq_nil_iff.mp h),
      fun c hc => hword c (List.mem_reverse.mp hc)⟩
  | case3 c cs hp ih => exact ih hword hw
  | case4 c cs word hp hne ih =>
    rcases List.mem_cons.mp hw with rfl | hw
    · exact ⟨fun h => hne (List.reverse_eq_nil_iff.mp h),
        fun c hc => hword c (List.mem_reverse.mp hc)⟩
    · exact ih (fun c hc => absurd hc List.not_mem_nil) hw
  | case5 c cs word hp ih =>
    exact ih (List.forall_mem_cons.mpr ⟨Bool.eq_false_iff.mpr hp, hword⟩) hw

theorem isWord_of_mem {cs w : List Char} (hw : w ∈ wordsBy p cs) : IsWord p w :=
  isWord_of_mem_go (fun _ hc => absurd hc List.not_mem_nil) hw

/-- A word is read to its end. -/
theorem wordsBy_go_append {w : List Char} (hw : ∀ c ∈ w, p c = false) (cs word : List Char) :
    wordsBy.go p (w ++ cs) word = wordsBy.go p cs (w.reverse ++ word) := by
  induction w generalizing word with
  | nil => rfl
  | cons c w ih =>
    obtain ⟨hc, hrest⟩ := List.forall_mem_cons.mp hw
    rw [List.cons_append, wordsBy_go_cons hc, ih hrest, List.reverse_cons, List.append_assoc,
      List.singleton_append]

theorem wordsBy_self {w : List Char} (hw : IsWord p w) : wordsBy p w = [w] := by
  have hend := wordsBy_go_append hw.2 [] []
  rw [List.append_nil, List.append_nil] at hend
  have hne : w.reverse ≠ [] := fun h => hw.1 (List.reverse_eq_nil_iff.mp h)
  rw [wordsBy, hend, wordsBy_go_nil hne, List.reverse_reverse]

theorem wordsBy_append_cons {w : List Char} (hw : IsWord p w) {sep : Char} (hsep : p sep = true)
    (cs : List Char) : wordsBy p (w ++ sep :: cs) = w :: wordsBy p cs := by
  have hne : w.reverse ≠ [] := fun h => hw.1 (List.reverse_eq_nil_iff.mp h)
  rw [wordsBy, wordsBy_go_append hw.2, List.append_nil, wordsBy_go_separator hsep cs hne,
    List.reverse_reverse]

/-- A separator at the start is passed over. -/
theorem wordsBy_cons {sep : Char} (hsep : p sep = true) (cs : List Char) :
    wordsBy p (sep :: cs) = wordsBy p cs :=
  if_pos hsep

/-- **Words read back.** Words with a separator between each two are the words of the text. -/
theorem wordsBy_joinWith {sep : Char} (hsep : p sep = true) {ws : List (List Char)}
    (hws : ∀ w ∈ ws, IsWord p w) : wordsBy p (joinWith [sep] ws) = ws := by
  induction ws with
  | nil => exact wordsBy_nil
  | cons w ws ih =>
    obtain ⟨hw, hrest⟩ := List.forall_mem_cons.mp hws
    cases ws with
    | nil => exact wordsBy_self hw
    | cons v ws =>
      rw [joinWith, List.append_assoc, List.singleton_append, wordsBy_append_cons hw hsep, ih hrest]
      exact fun h => absurd h (List.cons_ne_nil v ws)

end

end Placard.Text
