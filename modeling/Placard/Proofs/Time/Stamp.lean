import Placard.Proofs.Text.Blank
import Placard.Proofs.Text.Digit
import Placard.Proofs.Time.Calendar
import Placard.Time.Function

/-!
# Reading timestamps back

A `Stamp` is a timestamp before it is written: a day of the calendar, a clock time that may have
seconds and a fraction, and what stands behind them, which is nothing, a `Z` or a distance from
universal time. Reading its text gives its day and its clock time, whatever the distance is
(`readArgument?_text`).
-/

namespace Placard.Time

open Placard.Text

/-! ## Digits -/

theorem digits?_map {ds : List Nat} (hds : ∀ d ∈ ds, d < 10) (rest : List Char) :
    digits? ds.length (ds.map digitChar ++ rest) = some (ofDigits 10 ds, rest) := by
  induction ds with
  | nil => rfl
  | cons d ds ih =>
    rw [List.forall_mem_cons] at hds
    rw [List.length_cons, List.map_cons, List.cons_append, digits?,
      asciiDigit?_digitChar d hds.1, ih hds.2, ← List.singleton_append, ofDigits_append]
    simp [ofDigits]

/-- A number is read from as many digits as it is padded to. -/
theorem digits?_paddedText {width n : Nat} (hwidth : 0 < width) (hn : n < 10 ^ width)
    (rest : List Char) : digits? width (paddedText width n ++ rest) = some (n, rest) := by
  obtain ⟨ds, hds, -, htext, hvalue⟩ := exists_digits_paddedText width n
  have hlength := length_paddedText hwidth hn
  rw [htext, List.length_map] at hlength
  rw [htext, ← hlength, digits?_map hds, hvalue]

theorem exists_paddedText_two {n : Nat} (hn : n < 100) : ∃ a b, paddedText 2 n = [a, b] ∧
    isAsciiDigit a = true ∧ isAsciiDigit b = true := by
  obtain ⟨a, b, htext⟩ := List.length_eq_two.mp (length_paddedText (by decide) hn)
  refine ⟨a, b, htext, ?_, ?_⟩
  · exact isAsciiDigit_of_mem_paddedText (htext ▸ List.mem_cons_self)
  · exact isAsciiDigit_of_mem_paddedText (htext ▸ List.mem_cons_of_mem _ List.mem_cons_self)

/-! ## Stamps -/

/-- What stands behind the clock time of a timestamp. -/
inductive Zone where
  | none
  /-- A letter for universal time, in either case. -/
  | letter (isCapital : Bool)
  /-- A distance from universal time of less than a day. -/
  | distance (negative : Bool) (hour minute : Nat) (hour_lt : hour < 24) (minute_lt : minute < 60)

/-- Its text. -/
def Zone.text : Zone → List Char
  | .none => []
  | .letter isCapital => [if isCapital then 'Z' else 'z']
  | .distance negative hour minute _ _ =>
    (if negative then '-' else '+') :: paddedText 2 hour ++ ':' :: paddedText 2 minute

/-- A timestamp, as its parts are written. -/
structure Stamp where
  date : Date
  isDay : date.IsDay
  year_le : date.year ≤ 9999
  hour : Nat
  hour_lt : hour < 24
  minute : Nat
  minute_lt : minute < 60
  second : Option Nat
  second_lt : ∀ s ∈ second, s < 60
  /-- the digits of a fraction, of which there is at least one -/
  fraction : Option (List Nat)
  fraction_digits : ∀ ds ∈ fraction, ds ≠ [] ∧ ∀ d ∈ ds, d < 10
  zone : Zone

namespace Stamp

/-- The seconds and the fraction. -/
def tailText (s : Stamp) : List Char :=
  s.second.elim [] (fun n => ':' :: paddedText 2 n) ++
    s.fraction.elim [] (fun ds => '.' :: ds.map digitChar)

/-- The clock time. -/
def clockText (s : Stamp) : List Char :=
  paddedText 2 s.hour ++ ':' :: (paddedText 2 s.minute ++ s.tailText)

/-- The whole timestamp. -/
def text (s : Stamp) : List Char :=
  s.date.text ++ 'T' :: (s.clockText ++ s.zone.text)

end Stamp

/-! ## Dates -/

/-- The date that begins a timestamp is read from it. -/
theorem readDate?_text {d : Date} (hd : d.IsDay) (hyear : d.year ≤ 9999) (rest : List Char) :
    readDate? 10 (d.text ++ rest) = some d := by
  have hmonth : d.month < 100 := by have := hd.month; omega
  have hday : d.day < 100 := by have := hd.day; have := daysInMonth_le d.year d.month; omega
  have htext : d.text ++ rest =
      paddedText 4 d.year ++ '-' :: (paddedText 2 d.month ++ '-' :: (paddedText 2 d.day ++ rest)) := by
    simp [Date.text]
  obtain ⟨a, b, htwo, ha, -⟩ := exists_paddedText_two hmonth
  unfold readDate?
  rw [htext, digits?_paddedText (by decide) (by omega)]
  simp only [Option.bind_eq_bind, Option.bind_some, List.head?_cons, if_true,
    List.drop_succ_cons, List.drop_zero]
  split
  · next heq =>
    rw [htwo] at heq
    exact absurd (List.cons.inj heq).1 (of_isAsciiDigit (P := (· ≠ 'W')) (by decide) ha)
  · rw [digits?_paddedText (by decide) hmonth, Option.bind_some, afterStart?, if_pos rfl,
      afterStart?, Option.bind_some, digits?_paddedText (by decide) hday, Option.bind_some,
      Date.of?_eq_ok hd hyear]
    rfl

theorem length_dateText {d : Date} (hd : d.IsDay) (hyear : d.year ≤ 9999) : d.text.length = 10 := by
  have hmonth : d.month < 100 := by have := hd.month; omega
  have hday : d.day < 100 := by have := hd.day; have := daysInMonth_le d.year d.month; omega
  simp only [Date.text, List.length_append, List.length_cons]
  rw [length_paddedText (by decide) (by omega), length_paddedText (by decide) hmonth,
    length_paddedText (by decide) hday]

/-- The date of a timestamp is found to have ten characters. -/
theorem dateLength_text {d : Date} (hd : d.IsDay) (hyear : d.year ≤ 9999) (rest : List Char) :
    dateLength (d.text ++ rest) = 10 := by
  have hmonth : d.month < 100 := by have := hd.month; omega
  have hlength := length_dateText hd hyear
  obtain ⟨a, b, htwo, ha, -⟩ := exists_paddedText_two hmonth
  have hfour : (paddedText 4 d.year).length = 4 := length_paddedText (by decide) (by omega)
  have htext : d.text ++ rest = paddedText 4 d.year ++ '-' :: a :: b :: '-' ::
      (paddedText 2 d.day ++ rest) := by
    simp [Date.text, htwo]
  have hhyphen : (d.text ++ rest)[4]? = some '-' := by
    rw [htext, List.getElem?_append_right (by omega), hfour]
    rfl
  have hnext : (d.text ++ rest)[5]? = some a := by
    rw [htext, List.getElem?_append_right (by omega), hfour]
    rfl
  have hweek : ¬ some a = some 'W' := fun h =>
    of_isAsciiDigit (P := (· ≠ 'W')) (by decide) ha (Option.some.inj h)
  unfold dateLength
  rw [List.length_append, hlength, if_neg (by omega), hhyphen, if_pos rfl, hnext, if_neg hweek]

/-! ## Clock times -/

/-- A fraction is read to its end. -/
theorem readFraction?_digits {ds : List Nat} (hds : ∀ d ∈ ds, d < 10) (fields : List Nat)
    {after : List Char} (hafter : ∀ c ∈ after.head?, isAsciiDigit c = false) :
    ∃ micro, readFraction? fields (ds.map digitChar) after = some {
      hour := fields[0]?.getD 0, minute := fields[1]?.getD 0, second := fields[2]?.getD 0
      micro, complete := after.isEmpty } := by
  obtain ⟨front, back, hsplit, hfront⟩ : ∃ front back, ds = front ++ back ∧
      front.length = min 6 ds.length :=
    ⟨ds.take 6, ds.drop 6, (List.take_append_drop 6 ds).symm, List.length_take⟩
  have hback : ∀ c ∈ back.map digitChar, isAsciiDigit c = true := by
    intro c hc
    obtain ⟨d, hd, rfl⟩ := List.mem_map.mp hc
    exact isAsciiDigit_digitChar d (hds d (hsplit ▸ List.mem_append_right _ hd))
  have hread : digits? (min 6 (ds.map digitChar).length) (ds.map digitChar) =
      some (ofDigits 10 front, back.map digitChar) := by
    rw [List.length_map, ← hfront, hsplit, List.map_append]
    exact digits?_map (fun d hd => hds d (hsplit ▸ List.mem_append_left _ hd)) _
  have hdrop : (back.map digitChar ++ after).dropWhile isAsciiDigit = after :=
    dropLeading_append hback hafter
  unfold readFraction?
  dsimp only
  rw [hread, Option.bind_eq_bind, Option.bind_some, hdrop]
  exact ⟨_, rfl⟩

section

variable {v : Nat} (hv : v < 100) (after : List Char) (n : Nat) (fields : List Nat)

include hv

/-- A field that is written in two digits is read, and what follows it decides what is read next. -/
theorem readClock?_go_padded (colons : Option Bool) (rest : List Char) :
    readClock?.go after (n + 1) colons fields (paddedText 2 v ++ rest) =
      let next := (rest ++ after).head?
      let useColons := colons.getD (next == some ':')
      if rest.length ≤ 1 then some {
        hour := (fields ++ [v])[0]?.getD 0, minute := (fields ++ [v])[1]?.getD 0
        second := (fields ++ [v])[2]?.getD 0, micro := 0, complete := next.isNone }
      else if useColons && next == some ':' then
        readClock?.go after n (some useColons) (fields ++ [v]) (rest.drop 1)
      else if next == some '.' || next == some ',' then
        readFraction? (fields ++ [v]) (rest.drop 1) after
      else if useColons then none
      else readClock?.go after n (some useColons) (fields ++ [v]) rest := by
  rw [readClock?.go, digits?_paddedText (by decide) hv]

/-- A field behind which only an offset stands is the last one. -/
theorem readClock?_go_last (colons : Option Bool) :
    readClock?.go after (n + 1) colons fields (paddedText 2 v) = some {
      hour := (fields ++ [v])[0]?.getD 0, minute := (fields ++ [v])[1]?.getD 0
      second := (fields ++ [v])[2]?.getD 0, micro := 0, complete := after.isEmpty } := by
  have hread := readClock?_go_padded hv after n fields colons []
  rw [List.append_nil] at hread
  rw [hread]
  cases after <;> rfl

/-- A colon leads on to another field. -/
theorem readClock?_go_colon {colons : Option Bool} (hcolons : colons.getD true = true)
    {rest : List Char} (hrest : rest ≠ []) :
    readClock?.go after (n + 1) colons fields (paddedText 2 v ++ ':' :: rest) =
      readClock?.go after n (some true) (fields ++ [v]) rest := by
  have hlength := List.length_pos_iff.mpr hrest
  rw [readClock?_go_padded hv]
  have huse : colons.getD (some ':' == some ':') = true := hcolons
  dsimp only
  rw [if_neg (by rw [List.length_cons]; omega), List.cons_append, List.head?_cons, huse]
  rfl

/-- A point leads on to a fraction. -/
theorem readClock?_go_point {rest : List Char} (hrest : rest ≠ []) :
    readClock?.go after (n + 1) (some true) fields (paddedText 2 v ++ '.' :: rest) =
      readFraction? (fields ++ [v]) rest after := by
  have hlength := List.length_pos_iff.mpr hrest
  rw [readClock?_go_padded hv]
  dsimp only
  rw [if_neg (by rw [List.length_cons]; omega)]
  rfl

end

/-- Hours and minutes are read as they are written. -/
theorem readClock?_minutes {hour minute : Nat} (hhour : hour < 100) (hminute : minute < 100)
    (after : List Char) : readClock? (paddedText 2 hour ++ ':' :: paddedText 2 minute) after =
      some { hour, minute, second := 0, micro := 0, complete := after.isEmpty } := by
  have hne : paddedText 2 minute ≠ [] := List.ne_nil_of_length_pos (by
    rw [length_paddedText (by decide) hminute]
    decide)
  rw [readClock?, readClock?_go_colon hhour after 2 [] rfl hne, readClock?_go_last hminute]
  rfl

/-- The clock time of a timestamp is read as it was written, up to what stands behind it. -/
theorem readClock?_text (s : Stamp) {after : List Char}
    (hafter : ∀ c ∈ after.head?, isAsciiDigit c = false) :
    ∃ f, readClock? s.clockText after = some f ∧ f.hour = s.hour ∧ f.minute = s.minute ∧
      f.second = s.second.getD 0 ∧ f.complete = after.isEmpty := by
  have hne {v : Nat} (hv : v < 100) : paddedText 2 v ≠ [] := List.ne_nil_of_length_pos (by
    rw [length_paddedText (by decide) hv]
    decide)
  obtain ⟨date, -, -, hour, hhour, minute, hminute, second, hsecond, fraction, hfraction, -⟩ := s
  replace hhour : hour < 100 := by omega
  replace hminute : minute < 100 := by omega
  simp only [Stamp.clockText, Stamp.tailText]
  rw [readClock?, readClock?_go_colon hhour after 2 [] rfl (by simp [hne hminute]), List.nil_append]
  cases second with
  | none =>
    cases fraction with
    | none =>
      rw [Option.elim_none, Option.elim_none, List.append_nil, List.append_nil,
        readClock?_go_last hminute]
      exact ⟨_, rfl, rfl, rfl, rfl, rfl⟩
    | some ds =>
      obtain ⟨hds, hdigits⟩ := hfraction ds rfl
      obtain ⟨micro, hread⟩ := readFraction?_digits hdigits ([hour] ++ [minute]) hafter
      rw [Option.elim_none, Option.elim_some, List.nil_append,
        readClock?_go_point hminute after 1 _ (by simpa using hds), hread]
      exact ⟨_, rfl, rfl, rfl, rfl, rfl⟩
  | some second =>
    have hsecond : second < 100 := by have := hsecond second rfl; omega
    rw [Option.elim_some, List.cons_append,
      readClock?_go_colon hminute after 1 _ rfl (by simp [hne hsecond])]
    cases fraction with
    | none =>
      rw [Option.elim_none, List.append_nil, readClock?_go_last hsecond]
      exact ⟨_, rfl, rfl, rfl, rfl, rfl⟩
    | some ds =>
      obtain ⟨hds, hdigits⟩ := hfraction ds rfl
      obtain ⟨micro, hread⟩ :=
        readFraction?_digits hdigits ([hour] ++ [minute] ++ [second]) hafter
      rw [Option.elim_some, readClock?_go_point hsecond after 0 _ (by simpa using hds), hread]
      exact ⟨_, rfl, rfl, rfl, rfl, rfl⟩

theorem Clock.of?_eq_ok {hour minute second : Nat} (hhour : hour < 24) (hminute : minute < 60)
    (hsecond : second < 60) (micro : Nat) :
    Clock.of? hour minute second micro = .ok { hour, minute, second, micro } := by
  unfold Clock.of?
  rw [if_neg (by simp; omega), if_neg (by simp; omega), if_neg (by simp; omega)]
  rfl

/-! ## Timestamps -/

section

variable (s : Stamp) {P : Char → Prop} (hdigits : ∀ d < 10, P (digitChar d))

include hdigits

theorem Stamp.forall_mem_clockText (hcolon : P ':') (hpoint : P '.') : ∀ c ∈ s.clockText, P c := by
  have hpadded (n : Nat) : ∀ c ∈ paddedText 2 n, P c :=
    fun c hc => of_isAsciiDigit hdigits (isAsciiDigit_of_mem_paddedText hc)
  have hsecond : ∀ c ∈ s.second.elim [] (fun n => ':' :: paddedText 2 n), P c := by
    cases s.second with
    | none => exact nofun
    | some n => exact List.forall_mem_cons.mpr ⟨hcolon, hpadded n⟩
  have hfraction : ∀ c ∈ s.fraction.elim [] (fun ds => '.' :: ds.map digitChar), P c := by
    cases h : s.fraction with
    | none => exact nofun
    | some ds =>
      refine List.forall_mem_cons.mpr ⟨hpoint, List.forall_mem_map.mpr fun d hd => ?_⟩
      exact hdigits d ((s.fraction_digits ds h).2 d hd)
  simp only [Stamp.clockText, Stamp.tailText, List.forall_mem_append, List.forall_mem_cons]
  exact ⟨hpadded _, hcolon, hpadded _, hsecond, hfraction⟩

/-- What holds of digits and marks holds of all characters of a timestamp. -/
theorem Stamp.forall_mem_text (hmarks : ∀ c ∈ ['-', 'T', ':', '.', '+'], P c)
    (hletter : ∀ isCapital, s.zone = .letter isCapital → P (if isCapital then 'Z' else 'z')) :
    ∀ c ∈ s.text, P c := by
  have hpadded (width n : Nat) : ∀ c ∈ paddedText width n, P c :=
    fun c hc => of_isAsciiDigit hdigits (isAsciiDigit_of_mem_paddedText hc)
  simp only [List.forall_mem_cons] at hmarks
  obtain ⟨hhyphen, hseparator, hcolon, hpoint, hplus, -⟩ := hmarks
  have hzone : ∀ c ∈ s.zone.text, P c := by
    cases h : s.zone with
    | none => exact nofun
    | letter isCapital => exact List.forall_mem_singleton.mpr (hletter isCapital h)
    | distance negative hour minute _ _ =>
      simp only [Zone.text, List.forall_mem_append, List.forall_mem_cons, List.cons_append]
      refine ⟨?_, hpadded _ _, hcolon, hpadded _ _⟩
      split
      · exact hhyphen
      · exact hplus
  simp only [Stamp.text, Date.text, List.forall_mem_append, List.forall_mem_cons]
  exact ⟨⟨⟨hpadded _ _, hhyphen, hpadded _ _⟩, hhyphen, hpadded _ _⟩, hseparator,
    s.forall_mem_clockText hdigits hcolon hpoint, hzone⟩

end

/-- A distance from universal time is read. -/
theorem exists_readOffset? (negative : Bool) {hour minute : Nat} (hhour : hour < 24)
    (hminute : minute < 60) :
    ∃ offset, readOffset? (Zone.text (.distance negative hour minute hhour hminute)) =
      some offset := by
  have hread := readClock?_minutes (show hour < 100 by omega) (show minute < 100 by omega) []
  have hsign : (if negative then '-' else '+') ≠ 'Z' := by cases negative <;> decide
  have hless : hour * 3600 + minute * 60 + 0 < 86400 := by omega
  rw [Zone.text, List.cons_append, readOffset?.eq_2, if_neg hsign, hread]
  · refine ⟨_, if_pos ?_⟩
    rw [Bool.and_eq_true, decide_eq_true_iff]
    exact ⟨rfl, hless⟩
  · exact fun h => absurd h hsign

/-- What begins the distance from universal time is no digit. -/
theorem not_isAsciiDigit_of_beginsOffset {c : Char} (h : beginsOffset c = true) :
    isAsciiDigit c = false := by
  by_contra hdigit
  rw [of_isAsciiDigit (P := fun c => beginsOffset c = false) (by decide)
    (by simpa using hdigit)] at h
  cases h

/-- A distance from universal time is found where it begins. -/
theorem beginsOffset_of_zone {zone : Zone} (hzone : ∀ isCapital, zone ≠ .letter isCapital) :
    ∀ c ∈ zone.text.head?, beginsOffset c = true := by
  cases zone with
  | none => exact nofun
  | letter isCapital => exact absurd rfl (hzone isCapital)
  | distance negative => cases negative <;> rintro _ ⟨⟩ <;> rfl

/-- A clock time is read from a timestamp, whatever its distance from universal time. -/
theorem readTime?_text (s : Stamp) (hzone : ∀ isCapital, s.zone ≠ .letter isCapital) :
    ∃ clock offset, readTime? (s.clockText ++ s.zone.text) = some (clock, offset) ∧
      clock.hour = s.hour ∧ clock.minute = s.minute := by
  have hclock : ∀ c ∈ s.clockText, (!beginsOffset c) = true :=
    s.forall_mem_clockText (by decide) (by decide) (by decide)
  have hoffset : ∀ c ∈ s.zone.text.head?, (!beginsOffset c) = false := fun c hc => by
    rw [beginsOffset_of_zone hzone c hc, Bool.not_true]
  obtain ⟨f, hread, hhour, hminute, hsecond, hcomplete⟩ := readClock?_text s fun c hc =>
    not_isAsciiDigit_of_beginsOffset (beginsOffset_of_zone hzone c hc)
  have hof : Clock.of? f.hour f.minute f.second f.micro =
      .ok { hour := f.hour, minute := f.minute, second := f.second, micro := f.micro } := by
    refine Clock.of?_eq_ok (hhour ▸ s.hour_lt) (hminute ▸ s.minute_lt) ?_ _
    rw [hsecond]
    cases h : s.second with
    | none => decide
    | some n => exact s.second_lt n h
  -- the clock is all that stands before the distance
  have htake : (s.clockText ++ s.zone.text).takeWhile (fun c => !beginsOffset c) = s.clockText :=
    takeWhile_append hclock hoffset
  have hdrop : (s.clockText ++ s.zone.text).dropWhile (fun c => !beginsOffset c) = s.zone.text :=
    dropLeading_append hclock hoffset
  unfold readTime?
  simp only [htake, hdrop, hread, Option.bind_eq_bind, Option.bind_some, hof, Except.toOption]
  cases h : s.zone with
  | none =>
    have hend : f.complete = true := by
      rw [hcomplete, h]
      rfl
    refine ⟨{ f with }, none, ?_, hhour, hminute⟩
    rw [Zone.text, List.isEmpty_nil, if_pos rfl, if_pos hend]
    rfl
  | letter isCapital => exact absurd h (hzone isCapital)
  | distance negative _ _ hours minutes =>
    obtain ⟨offset, hread⟩ := exists_readOffset? negative hours minutes
    refine ⟨{ f with }, some offset, ?_, hhour, hminute⟩
    rw [hread, Zone.text, List.cons_append, List.isEmpty_cons, if_neg (by decide)]
    rfl

/-- A timestamp without a letter is read as it was written. -/
theorem readMoment?_text (s : Stamp) (hzone : ∀ isCapital, s.zone ≠ .letter isCapital) :
    ∃ t, readMoment? s.text = some t ∧ t.date = s.date ∧ t.clock.hour = s.hour ∧
      t.clock.minute = s.minute := by
  obtain ⟨clock, offset, htime, hhour, hminute⟩ := readTime?_text s hzone
  have hlength := length_dateText s.isDay s.year_le
  have hdrop : s.text.drop 10 = 'T' :: (s.clockText ++ s.zone.text) := by
    rw [Stamp.text, ← hlength, List.drop_left]
  refine ⟨{ date := s.date, clock, offset }, ?_, rfl, hhour, hminute⟩
  unfold readMoment?
  have hlong : ¬ s.text.length < 7 := by
    rw [Stamp.text, List.length_append, hlength]
    omega
  have hdate : dateLength s.text = 10 := dateLength_text s.isDay s.year_le _
  have hread : readDate? 10 s.text = some s.date := readDate?_text s.isDay s.year_le _
  rw [if_neg hlong]
  simp only [hdate, hread, hdrop, htime, Option.bind_eq_bind, Option.bind_some, Option.pure_def]

/-- The text in front of the distance from universal time. -/
def Stamp.front (s : Stamp) : List Char :=
  s.date.text ++ 'T' :: s.clockText

theorem Stamp.text_eq (s : Stamp) : s.text = s.front ++ s.zone.text := by
  simp [text, front]

/-- A letter at the end of an argument stands for universal time. -/
theorem readArgument?_letter {front : List Char} (isCapital : Bool)
    (hblank : ∀ c ∈ front.head?, isBlank c = false) :
    readArgument? (front ++ [if isCapital then 'Z' else 'z']) =
      readMoment? (front ++ "+00:00".toList) := by
  have htrim : trim (front ++ [if isCapital then 'Z' else 'z']) =
      front ++ [if isCapital then 'Z' else 'z'] := by
    refine trimBy_eq_self (by simp) ?_ ?_
    · cases front with
      | nil => cases isCapital <;> rintro _ ⟨⟩ <;> rfl
      | cons c front => exact hblank
    · rw [List.getLast?_append_of_ne_nil _ (List.cons_ne_nil _ _)]
      cases isCapital <;> rintro _ ⟨⟩ <;> rfl
  unfold readArgument?
  rw [htrim]
  cases isCapital <;> simp

/-- Another argument is read as it is. -/
theorem readArgument?_eq {cs : List Char} (hne : cs ≠ [])
    (hcs : ∀ c ∈ cs, isBlank c = false ∧ c ≠ 'Z' ∧ c ≠ 'z') :
    readArgument? cs = readMoment? cs := by
  have htrim : trim cs = cs :=
    trimBy_eq_self hne (fun c hc => (hcs c (List.mem_of_mem_head? hc)).1)
      (fun c hc => (hcs c (List.mem_of_getLast? hc)).1)
  unfold readArgument?
  rw [htrim]
  dsimp only
  split
  · next before heq =>
    exact absurd rfl (hcs 'Z' (List.mem_reverse.mp (heq ▸ List.mem_cons_self))).2.1
  · next before heq =>
    exact absurd rfl (hcs 'z' (List.mem_reverse.mp (heq ▸ List.mem_cons_self))).2.2
  · rfl

/-- **Reading timestamps.** The day and the clock time of a timestamp are those that are written in
it, whatever its distance from universal time. -/
theorem readArgument?_text (s : Stamp) : ∃ t, readArgument? s.text = some t ∧ t.date = s.date ∧
    t.clock.hour = s.hour ∧ t.clock.minute = s.minute := by
  have hfront : ∀ c ∈ s.front, isBlank c = false := by
    have hall := ({ s with zone := .none } : Stamp).forall_mem_text
      (P := fun c => isBlank c = false) (by decide) (forall_mem_of_all (by decide)) nofun
    rwa [Stamp.text_eq, Zone.text, List.append_nil] at hall
  cases h : s.zone with
  | letter isCapital =>
    let numeric : Stamp := { s with zone := .distance false 0 0 (by decide) (by decide) }
    obtain ⟨t, hread, hfields⟩ := readMoment?_text numeric nofun
    refine ⟨t, ?_, hfields⟩
    rw [s.text_eq, h, Zone.text,
      readArgument?_letter isCapital fun c hc => hfront c (List.mem_of_mem_head? hc), ← hread,
      numeric.text_eq]
    rfl
  | _ =>
    have hzone : ∀ isCapital, s.zone ≠ .letter isCapital := by
      rw [h]
      exact nofun
    obtain ⟨t, hread, hfields⟩ := readMoment?_text s hzone
    refine ⟨t, ?_, hfields⟩
    have hmarks : ∀ c ∈ ['-', 'T', ':', '.', '+'], isBlank c = false ∧ c ≠ 'Z' ∧ c ≠ 'z' :=
      forall_mem_of_all (by decide)
    rw [readArgument?_eq _ (s.forall_mem_text (by decide) hmarks fun isCapital hletter =>
      absurd hletter (hzone isCapital)), hread]
    simp [s.text_eq, Stamp.front]

end Placard.Time
