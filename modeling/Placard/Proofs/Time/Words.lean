import Placard.Proofs.Text.Blank
import Placard.Proofs.Time.Expansion
import Placard.Proofs.Time.Stamp

/-!
# Reading dates and times back from words

A date in words is read back by taking the words apart and looking the names up in the calendar, a
clock time by counting the hours of each half of the day from twelve. What a call for a timestamp is
replaced by depends on the day alone, or on the hour and the minute alone, and reads back as these
(`expand_stamp`): the distance from universal time moves neither.
-/

namespace Placard.Time

open Placard.Text

/-! ## Readers -/

/-- The number that ASCII digits write. -/
def number? (cs : List Char) : Option Nat :=
  if cs.isEmpty then none else (cs.mapM asciiDigit?).map (ofDigits 10)

/-- The months by their names. -/
def namedMonths : List (String × Nat) :=
  [("January", 1), ("February", 2), ("March", 3), ("April", 4), ("May", 5), ("June", 6),
    ("July", 7), ("August", 8), ("September", 9), ("October", 10), ("November", 11),
    ("December", 12)]

/-- The days of the week by their names, Monday being zero. -/
def namedDays : List (String × Nat) :=
  [("Monday", 0), ("Tuesday", 1), ("Wednesday", 2), ("Thursday", 3), ("Friday", 4),
    ("Saturday", 5), ("Sunday", 6)]

/-- How much of a name a style writes. -/
def DateStyle.cut : DateStyle → List Char → List Char
  | .short, name => name.take 3
  | _, name => name

/-- What goes with a name in a style. -/
def DateStyle.lookUp? (style : DateStyle) (names : List (String × Nat)) (name : List Char) :
    Option Nat :=
  (names.find? fun entry => style.cut entry.1.toList == name).map (·.2)

/-- Whether a character stands between the words of a date. -/
def isBetweenWords (c : Char) : Bool :=
  c == ',' || c == ' '

/-- The date that words in a style name, and its day of the week if they name it. -/
def Date.ofWords? (style : DateStyle) (cs : List Char) : Option (Option Nat × Date) :=
  match style with
  | .compact =>
    match cutAt '/' cs with
    | [month, day, year] => do
      let month ← number? month
      let day ← number? day
      let year ← number? year
      return (none, { year, month, day })
    | _ => none
  | style =>
    match wordsBy isBetweenWords cs with
    | [weekday, month, day, year] => do
      let weekday ← style.lookUp? namedDays weekday
      let month ← style.lookUp? namedMonths month
      let day ← number? day
      let year ← number? year
      return (some weekday, { year, month, day })
    | _ => none

/-- The hour that a half of the day begins with. -/
def halfOfDay? (cs : List Char) : Option Nat :=
  if cs = ['A', 'M'] then some 0 else if cs = ['P', 'M'] then some 12 else none

/-- The hour and the minute that words on the twelve-hour clock name. -/
def Clock.ofWords? (cs : List Char) : Option (Nat × Nat) :=
  match cutAt ' ' cs with
  | [time, half] =>
    match cutAt ':' time with
    | [hour, minute] => do
      let hour ← number? hour
      let minute ← number? minute
      let start ← halfOfDay? half
      if hour < 1 || 12 < hour || 59 < minute then none else return (start + hour % 12, minute)
    | _ => none
  | _ => none

/-! ## Numbers and names -/

theorem number?_map {ds : List Nat} (hds : ∀ d ∈ ds, d < 10) (hne : ds ≠ []) :
    number? (ds.map digitChar) = some (ofDigits 10 ds) := by
  have hsome : ¬ (ds.map digitChar).isEmpty = true := by simpa using hne
  rw [number?, if_neg hsome, mapM_digitsOf hds, Option.map_some]

theorem number?_natText (n : Nat) : number? (natText n) = some n := by
  obtain ⟨ds, hds, hne, htext, hvalue⟩ := exists_digits_natText n
  rw [htext, number?_map hds hne, hvalue]

theorem number?_paddedText (width n : Nat) : number? (paddedText width n) = some n := by
  obtain ⟨ds, hds, hne, htext, hvalue⟩ := exists_digits_paddedText width n
  rw [htext, number?_map hds hne, hvalue]

theorem Date.weekday_lt (d : Date) : d.weekday < 7 :=
  Nat.mod_lt _ (by decide)

/-- The name of the day of the week is found, in full or cut. -/
theorem lookUp?_dayName (style : DateStyle) (d : Date) :
    style.lookUp? namedDays (style.cut d.dayName) = some d.weekday := by
  have hall : ∀ weekday < 7, style.lookUp? namedDays
      (style.cut (dayNames[weekday]?.getD "").toList) = some weekday := by
    cases style <;> decide
  exact hall _ d.weekday_lt

theorem lookUp?_monthName (style : DateStyle) {d : Date} (h : d.IsDay) :
    style.lookUp? namedMonths (style.cut d.monthName) = some d.month := by
  have hall : ∀ m < 12, style.lookUp? namedMonths
      (style.cut (monthNames[m]?.getD "").toList) = some (m + 1) := by
    cases style <;> decide
  have hmonth := h.month
  have hname := hall (d.month - 1) (by omega)
  rwa [Nat.sub_add_cancel hmonth.1] at hname

/-- A cut name is a word. -/
theorem isWord_dayName (style : DateStyle) (d : Date) :
    IsWord isBetweenWords (style.cut d.dayName) := by
  have hall : ∀ weekday < 7, style.cut (dayNames[weekday]?.getD "").toList ≠ [] ∧
      (style.cut (dayNames[weekday]?.getD "").toList).all (isBetweenWords · = false) := by
    cases style <;> decide
  exact (hall _ d.weekday_lt).imp_right forall_mem_of_all

theorem isWord_monthName (style : DateStyle) {d : Date} (h : d.IsDay) :
    IsWord isBetweenWords (style.cut d.monthName) := by
  have hall : ∀ m < 12, style.cut (monthNames[m]?.getD "").toList ≠ [] ∧
      (style.cut (monthNames[m]?.getD "").toList).all (isBetweenWords · = false) := by
    cases style <;> decide
  have hmonth := h.month
  exact (hall _ (by omega)).imp_right forall_mem_of_all

theorem isWord_natText (n : Nat) : IsWord isBetweenWords (natText n) :=
  ⟨natText_ne_nil n, fun _ hc =>
    of_isAsciiDigit (P := fun c => isBetweenWords c = false) (by decide)
      (isAsciiDigit_of_mem_natText hc)⟩

/-! ## Words -/

/-- The words of a date are its weekday, month, day and year. -/
theorem wordsBy_dateWords {weekday month : List Char} (hweekday : IsWord isBetweenWords weekday)
    (hmonth : IsWord isBetweenWords month) (day year : Nat) :
    wordsBy isBetweenWords (weekday ++ [',', ' '] ++ month ++ ' ' :: natText day ++ [',', ' '] ++
      natText year) = [weekday, month, natText day, natText year] := by
  have happend : weekday ++ [',', ' '] ++ month ++ ' ' :: natText day ++ [',', ' '] ++
      natText year =
      weekday ++ ',' :: ' ' :: (month ++ ' ' :: (natText day ++ ',' :: ' ' :: natText year)) := by
    simp
  rw [happend, wordsBy_append_cons hweekday rfl, wordsBy_cons rfl, wordsBy_append_cons hmonth rfl,
    wordsBy_append_cons (isWord_natText day) rfl, wordsBy_cons rfl,
    wordsBy_self (isWord_natText year)]

/-- **Dates read back.** The words of a date name it, and those with names its day of the week. -/
theorem ofWords?_inWords {d : Date} (h : d.IsDay) (style : DateStyle) :
    Date.ofWords? style (d.inWords style) =
      some (if style = .compact then none else some d.weekday, d) := by
  have hslash (n : Nat) : '/' ∉ natText n :=
    fun hmem => absurd (isAsciiDigit_of_mem_natText hmem) (by decide)
  have hwords := wordsBy_dateWords (isWord_dayName style d) (isWord_monthName style h) d.day d.year
  have hday := lookUp?_dayName style d
  have hmonth := lookUp?_monthName style h
  cases style with
  | compact =>
    simp only [Date.ofWords?, Date.inWords, List.append_assoc, List.cons_append]
    rw [cutAt_append (hslash _), cutAt_append (hslash _), cutAt_of_not_mem (hslash _)]
    simp only [number?_natText]
    rfl
  | _ =>
    simp only [DateStyle.cut] at hwords hday hmonth
    simp only [Date.ofWords?, Date.inWords, hwords, hday, hmonth, number?_natText]
    rfl

/-- **Clock times read back.** The words of a clock time name its hour and its minute. -/
theorem ofWords?_clockWords {t : Clock} (hhour : t.hour < 24) (hminute : t.minute < 60) :
    Clock.ofWords? t.inWords = some (t.hour, t.minute) := by
  have hdigit {c : Char} {cs : List Char} (hcs : ∀ c ∈ cs, isAsciiDigit c = true)
      (hc : isAsciiDigit c = false) : c ∉ cs := by
    intro hmem
    rw [hcs c hmem] at hc
    cases hc
  have hpadded : ∀ c ∈ paddedText 2 t.minute, isAsciiDigit c = true :=
    fun _ => isAsciiDigit_of_mem_paddedText
  let hour := if t.hour % 12 = 0 then 12 else t.hour % 12
  have hhours : ∀ c ∈ natText hour, isAsciiDigit c = true := fun _ => isAsciiDigit_of_mem_natText
  have htime : ' ' ∉ natText hour ++ ':' :: paddedText 2 t.minute := by
    simp [hdigit hhours (c := ' ') (by decide), hdigit hpadded (c := ' ') (by decide)]
  obtain ⟨half, hwords, hhalf, hstart⟩ : ∃ half, t.inWords =
      (natText hour ++ ':' :: paddedText 2 t.minute) ++ ' ' :: half ∧ ' ' ∉ half ∧
      halfOfDay? half = some (t.hour / 12 * 12) := by
    refine ⟨if t.hour < 12 then ['A', 'M'] else ['P', 'M'], by simp [Clock.inWords, hour], ?_⟩
    split
    · have hmorning : t.hour / 12 = 0 := by omega
      exact ⟨by decide, by rw [hmorning]; rfl⟩
    · have hafternoon : t.hour / 12 = 1 := by omega
      exact ⟨by decide, by rw [hafternoon]; rfl⟩
  -- the hour on the clock is between one and twelve, and its half tells which one it was
  have hrange : hour % 12 = t.hour % 12 ∧ 1 ≤ hour ∧ hour ≤ 12 := by
    dsimp only [hour]
    split <;> omega
  unfold Clock.ofWords?
  rw [hwords, cutAt_append htime, cutAt_of_not_mem hhalf]
  dsimp only
  rw [cutAt_append (hdigit hhours (by decide)), cutAt_of_not_mem (hdigit hpadded (by decide))]
  simp only [number?_natText, number?_paddedText, hstart, Option.bind_eq_bind, Option.bind_some]
  rw [if_neg (by simp; omega), hrange.1, Nat.div_add_mod']
  rfl

/-! ## Calls for timestamps -/

theorem Stamp.isArgumentChar_text (s : Stamp) : ∀ c ∈ s.text, isArgumentChar c = true :=
  s.forall_mem_text (by decide) (forall_mem_of_all (by decide)) fun isCapital _ => by
    cases isCapital <;> decide

theorem Stamp.text_ne_nil (s : Stamp) : s.text ≠ [] := by
  simp [Stamp.text]

/-- A call for a timestamp is replaced by the words for its moment. -/
theorem Stamp.exists_moment (s : Stamp) : ∃ t : Moment, t.date = s.date ∧ t.clock.hour = s.hour ∧
    t.clock.minute = s.minute ∧ ∀ function ∈ callNames, ∀ style w,
      IsCallOf function s.text style w → expandText w =
        if function = "TIME" then t.clock.inWords else t.date.inWords (style.getD .compact) := by
  obtain ⟨t, hread, hdate, hhour, hminute⟩ := readArgument?_text s
  refine ⟨t, hdate, hhour, hminute, fun function hfunction style w hcall => ?_⟩
  obtain ⟨call, hw, hargument, hupper, hstyle⟩ :=
    hcall.exists_call hfunction s.text_ne_nil s.isArgumentChar_text
  have hexpand := expandText_call hw []
  rw [List.append_nil, expandText_nil, List.append_nil, Call.result?, hargument, hread,
    Option.map_some, Option.getD_some, hupper, hstyle] at hexpand
  have htime : function.toList = "TIME".toList ↔ function = "TIME" := String.toList_inj
  exact hexpand.trans (if_congr htime rfl rfl)

/-- **Timestamps in their own offset.** A call for the date of a timestamp is replaced by words that
depend on its day and the style only; they name the day, and with names also its true day of the week.
A call for the time is replaced by words that depend on its hour and its minute only, and name these
on the twelve-hour clock. -/
theorem expand_stamp (s : Stamp) :
    (∀ style call, IsCallOf "DATE" s.text style call.toList →
      (expand call).toList = s.date.inWords (style.getD .compact) ∧
      Date.ofWords? (style.getD .compact) (expand call).toList =
        some (if style.getD .compact = .compact then none else some s.date.weekday, s.date)) ∧
    (∀ weekday, IsWeekday s.date weekday ↔ weekday = s.date.weekday) ∧
    (∀ style call, IsCallOf "TIME" s.text style call.toList →
      (expand call).toList =
        Clock.inWords { hour := s.hour, minute := s.minute, second := 0, micro := 0 } ∧
      Clock.ofWords? (expand call).toList = some (s.hour, s.minute)) := by
  obtain ⟨t, hdate, hhour, hminute, hwords⟩ := s.exists_moment
  refine ⟨fun style call hcall => ?_, fun weekday => isWeekday_iff s.isDay,
    fun style call hcall => ?_⟩
  · have hexpand : (expand call).toList = s.date.inWords (style.getD .compact) := by
      rw [expand, String.toList_ofList, hwords _ (by decide) _ _ hcall, if_neg (by decide), hdate]
    rw [hexpand]
    exact ⟨rfl, ofWords?_inWords s.isDay _⟩
  · have hexpand : (expand call).toList =
        Clock.inWords { hour := s.hour, minute := s.minute, second := 0, micro := 0 } := by
      rw [expand, String.toList_ofList, hwords _ (by decide) _ _ hcall, if_pos rfl, ← hhour, ← hminute]
      rfl
    rw [hexpand]
    exact ⟨rfl, ofWords?_clockWords s.hour_lt s.minute_lt⟩

/-- An evening eight hours behind universal time. -/
def eveningStamp : Stamp where
  date := { year := 2017, month := 2, day := 14 }
  isDay := ⟨by decide, by decide, by decide⟩
  year_le := by decide
  hour := 18
  hour_lt := by decide
  minute := 45
  minute_lt := by decide
  second := some 0
  second_lt := by decide
  fraction := none
  fraction_digits := nofun
  zone := .distance true 8 0 (by decide) (by decide)

/-- It is the fourteenth of February, a Tuesday, although at universal time it is the day after, and a
quarter to seven. -/
theorem expand_stamp_evening :
    IsCallOf "DATE" eveningStamp.text (some .short)
      "\x7b\x7bdate(2017-02-14T18:45:00-08:00, Short)\x7d\x7d".toList ∧
    Date.ofWords? .short (expand "\x7b\x7bdate(2017-02-14T18:45:00-08:00, Short)\x7d\x7d").toList =
      some (some 1, { year := 2017, month := 2, day := 14 }) ∧
    Clock.ofWords? (expand "\x7b\x7bTIME(2017-02-14T18:45:00-08:00)\x7d\x7d").toList =
      some (18, 45) := by
  have hdate : IsCallOf "DATE" eveningStamp.text (some .short)
      "\x7b\x7bdate(2017-02-14T18:45:00-08:00, Short)\x7d\x7d".toList := by
    have hcall := @IsCallOf.hinted "DATE" eveningStamp.text ['d', 'a', 't', 'e'] [' ']
      ['S', 'h', 'o', 'r', 't'] [] .short rfl
      (forall_mem_of_all (by decide)) rfl nofun
    have htext : openingOf ['d', 'a', 't', 'e'] ++ eveningStamp.text ++ (',' :: [' '] ++
        ['S', 'h', 'o', 'r', 't'] ++ [] ++ [')', '\x7d', '\x7d']) =
        "\x7b\x7bdate(2017-02-14T18:45:00-08:00, Short)\x7d\x7d".toList := by
      decide +kernel
    rwa [htext] at hcall
  have htime : IsCallOf "TIME" eveningStamp.text none
      "\x7b\x7bTIME(2017-02-14T18:45:00-08:00)\x7d\x7d".toList := by
    have hcall := @IsCallOf.plain "TIME" eveningStamp.text ['T', 'I', 'M', 'E'] rfl
    have htext : openingOf ['T', 'I', 'M', 'E'] ++ eveningStamp.text ++ [')', '\x7d', '\x7d'] =
        "\x7b\x7bTIME(2017-02-14T18:45:00-08:00)\x7d\x7d".toList := by
      decide +kernel
    rwa [htext] at hcall
  have hday := ((expand_stamp eveningStamp).1 _ _ hdate).2
  have hweekday : eveningStamp.date.weekday = 1 := by decide
  rw [hweekday] at hday
  exact ⟨hdate, hday, ((expand_stamp eveningStamp).2.2 _ _ htime).2⟩

end Placard.Time
