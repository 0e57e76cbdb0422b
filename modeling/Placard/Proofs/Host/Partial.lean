import Placard.Proofs.Host.Part

/-!
# Configurations given in part

What an object gives for a part of a configuration takes the place of what was there, and everything
else stays (`Overlays`). This is shown for settings, for fields and for groups, and then, group by
group, for host configurations as a whole (`readConfig_overlay`).
-/

namespace Placard.Host

open Document Data Record

/-! ## What reading does to a part -/

section

variable {α : Type} {part : Part} {read : Value → Checked α} {write : α → Value} {d : α}
  {entries : Entries} {name : String}

/-- Valid values are read, and replace what is given in the default. -/
def Overlays (part : Part) (read : Value → Checked α) (write : α → Value) (d : α) : Prop :=
  ∀ v, part.fits v = true → part.isComplete v = true →
    ∃ a, read v = .good a ∧ write a = part.overlay (write d) v

/-- A setting is as it is given, whatever it was. -/
theorem overlays_setting (read : Value → Checked α) (write : α → Value) (d : α) :
    Overlays (settingOf read write) read write d := by
  intro v hfits _
  rw [settingOf, Part.fits] at hfits
  obtain ⟨data, hdata⟩ := Option.isSome_iff_exists.mp hfits
  obtain ⟨a, hread, hwrite⟩ := Option.map_eq_some_iff.mp hdata
  refine ⟨a, ?_, ?_⟩
  · cases hv : read v with
    | good b =>
      rw [hv] at hread
      rw [Option.some.inj hread]
    | bad first more =>
      rw [hv] at hread
      cases hread
    | halted kind =>
      rw [hv] at hread
      cases hread
  · rw [settingOf, Part.overlay, hdata, hwrite]
    rfl

/-- What is given for a part, if anything is, is valid and complete. -/
def IsGivenWell (entries : Entries) (name : String) (part : Part) : Prop :=
  ∀ w ∈ given? name entries, part.fits w = true ∧ part.isComplete w = true

/-- A field that is not given has its default. -/
theorem field_of_none (read : Value → Checked α) (d : α) (hnone : given? name entries = none) :
    field entries name read d = .good d := by
  unfold Record.field
  rw [Option.map_eq_none_iff.mp hnone]

/-- A field that is given is read, and its default does not matter. -/
theorem field_of_given {w : Value} {a : α} (d : α) (hw : given? name entries = some w)
    (hread : read w = .good a) : field entries name read d = .good a := by
  obtain ⟨found, hfind, rfl⟩ := Option.map_eq_some_iff.mp hw
  unfold Record.field
  rw [hfind]
  exact Checked.under_eq_good.mpr hread

/-- So is a field that has to be given. -/
theorem required_of_given {w : Value} {a : α} (hw : given? name entries = some w)
    (hread : read w = .good a) : required entries name read = .good a := by
  obtain ⟨found, hfind, rfl⟩ := Option.map_eq_some_iff.mp hw
  unfold Record.required
  rw [hfind]
  exact Checked.under_eq_good.mpr hread

/-- A field is as it is given, or as it was. -/
theorem Overlays.field (h : Overlays part read write d) (hgiven : IsGivenWell entries name part) :
    ∃ a, field entries name read d = .good a ∧
      write a = (given? name entries).elim (write d) fun w => part.overlay (write d) w := by
  cases hw : given? name entries with
  | none => exact ⟨d, field_of_none read d hw, rfl⟩
  | some w =>
    obtain ⟨hfits, hcomplete⟩ := hgiven w hw
    obtain ⟨a, hread, hwrite⟩ := h w hfits hcomplete
    exact ⟨a, field_of_given d hw hread, hwrite⟩

/-- A field that has to be given is as it is given. -/
theorem Overlays.required (h : Overlays part read write d)
    (hgiven : IsGivenWell entries name part) (hsome : (given? name entries).isSome = true) :
    ∃ a, required entries name read = .good a ∧
      write a = (given? name entries).elim (write d) fun w => part.overlay (write d) w := by
  obtain ⟨w, hw⟩ := Option.isSome_iff_exists.mp hsome
  obtain ⟨hfits, hcomplete⟩ := hgiven w hw
  obtain ⟨a, hread, hwrite⟩ := h w hfits hcomplete
  exact ⟨a, required_of_given hw hread, by rw [hw]; exact hwrite⟩

/-- What is given for some parts is valid and complete. -/
def AreGivenWell (entries : Entries) : List (String × Part) → Prop
  | [] => True
  | (name, part) :: parts => IsGivenWell entries name part ∧ AreGivenWell entries parts

theorem areGivenWell_of_fitAll {inFull : Bool} {parts : List (String × Part)}
    (hfits : fitAll parts entries = true) (hcomplete : areComplete inFull parts entries = true) :
    AreGivenWell entries parts := by
  induction parts with
  | nil => trivial
  | cons p parts ih =>
    obtain ⟨name, part⟩ := p
    rw [fitAll, Bool.and_eq_true] at hfits
    rw [areComplete, Bool.and_eq_true, Bool.and_eq_true] at hcomplete
    refine ⟨fun w hw => ?_, ih hfits.2 hcomplete.2⟩
    have hfit := hfits.1
    have hwhole := hcomplete.1.2
    rw [Option.mem_def.mp hw] at hfit hwhole
    exact ⟨hfit, hwhole⟩

/-- A group is read from its parts. -/
theorem overlays_group {inFull : Bool} {parts : List (String × Part)}
    {read : Entries → Checked α}
    (h : ∀ entries, AreGivenWell entries parts → areComplete inFull parts entries = true →
      ∃ a, read entries = .good a ∧ write a = .ofMembers (overlayAll parts (write d) entries)) :
    Overlays (.group inFull parts) (record name read) write d := by
  intro v hfits hcomplete
  rw [Part.fits, Bool.and_eq_true] at hfits
  rw [Part.isComplete] at hcomplete
  cases v with
  | map entries => exact h entries (areGivenWell_of_fitAll hfits.2 hcomplete) hcomplete
  | _ => cases hfits.1

end

/-- What is read from a complete group is complete, if that holds of its parts. -/
theorem isComplete_of_field {α : Type} {part : Part} {read : Value → Checked α}
    (h : ∀ v a, read v = .good a → part.isComplete v = true) {entries : Entries} {name : String}
    {d a : α} (hfield : field entries name read d = .good a) :
    (given? name entries).all (fun w => part.isComplete w) = true := by
  unfold given?
  unfold Record.field at hfield
  cases hfind : find? name entries with
  | none => rfl
  | some found =>
    rw [hfind] at hfield
    exact h _ a (Checked.under_eq_good.mp hfield)

/-! ## Groups of settings -/

theorem overlays_fontSizes :
    Overlays fontSizesPart (record "FontSizesConfig" readFontSizes) FontSizes.toData {} := by
  refine overlays_group fun entries hgiven _ => ?_
  obtain ⟨hsmall, hdefault, hmedium, hlarge, hextra, -⟩ := hgiven
  obtain ⟨small, hsmall, wsmall⟩ := (overlays_setting whole .int 12).field hsmall
  obtain ⟨default, hdefault, wdefault⟩ := (overlays_setting whole .int 14).field hdefault
  obtain ⟨medium, hmedium, wmedium⟩ := (overlays_setting whole .int 17).field hmedium
  obtain ⟨large, hlarge, wlarge⟩ := (overlays_setting whole .int 21).field hlarge
  obtain ⟨extra, hextra, wextra⟩ := (overlays_setting whole .int 26).field hextra
  refine ⟨⟨small, default, medium, large, extra⟩, ?_, ?_⟩
  · rw [readFontSizes, hsmall, hdefault, hmedium, hlarge, hextra]
    rfl
  · rw [FontSizes.toData, wsmall, wdefault, wmedium, wlarge, wextra]
    rfl

theorem overlays_spacings :
    Overlays spacingsPart (record "SpacingsConfig" readSpacings) Spacings.toData {} := by
  refine overlays_group fun entries hgiven _ => ?_
  obtain ⟨hsmall, hdefault, hmedium, hlarge, hextra, hpadding, -⟩ := hgiven
  obtain ⟨small, hsmall, wsmall⟩ := (overlays_setting whole .int 3).field hsmall
  obtain ⟨default, hdefault, wdefault⟩ := (overlays_setting whole .int 8).field hdefault
  obtain ⟨medium, hmedium, wmedium⟩ := (overlays_setting whole .int 20).field hmedium
  obtain ⟨large, hlarge, wlarge⟩ := (overlays_setting whole .int 30).field hlarge
  obtain ⟨extra, hextra, wextra⟩ := (overlays_setting whole .int 40).field hextra
  obtain ⟨padding, hpadding, wpadding⟩ := (overlays_setting whole .int 20).field hpadding
  refine ⟨⟨small, default, medium, large, extra, padding⟩, ?_, ?_⟩
  · rw [readSpacings, hsmall, hdefault, hmedium, hlarge, hextra, hpadding]
    rfl
  · rw [Spacings.toData, wsmall, wdefault, wmedium, wlarge, wextra, wpadding]
    rfl

theorem overlays_separator :
    Overlays separatorPart (record "SeparatorConfig" readSeparator) Separator.toData {} := by
  refine overlays_group fun entries hgiven _ => ?_
  obtain ⟨hthickness, hcolor, -⟩ := hgiven
  obtain ⟨thickness, hthickness, wthickness⟩ := (overlays_setting whole .int 1).field hthickness
  obtain ⟨color, hcolor, wcolor⟩ := (overlays_setting text .text "#B2000000").field hcolor
  refine ⟨⟨thickness, color⟩, ?_, ?_⟩
  · rw [readSeparator, hthickness, hcolor]
    rfl
  · rw [Separator.toData, wthickness, wcolor]
    rfl

theorem overlays_imageSizes :
    Overlays imageSizesPart (record "ImageSizesConfig" readImageSizes) ImageSizes.toData {} := by
  refine overlays_group fun entries hgiven _ => ?_
  obtain ⟨hsmall, hmedium, hlarge, -⟩ := hgiven
  obtain ⟨small, hsmall, wsmall⟩ := (overlays_setting whole .int 40).field hsmall
  obtain ⟨medium, hmedium, wmedium⟩ := (overlays_setting whole .int 80).field hmedium
  obtain ⟨large, hlarge, wlarge⟩ := (overlays_setting whole .int 160).field hlarge
  refine ⟨⟨small, medium, large⟩, ?_, ?_⟩
  · rw [readImageSizes, hsmall, hmedium, hlarge]
    rfl
  · rw [ImageSizes.toData, wsmall, wmedium, wlarge]
    rfl

theorem overlays_factText :
    Overlays factTextPart (record "FactSetTextConfig" readFactText) FactText.toData {} := by
  refine overlays_group fun entries hgiven _ => ?_
  obtain ⟨hsize, hweight, hcolor, hsubtle, hwrap, hwidth, -⟩ := hgiven
  obtain ⟨size, hsize, wsize⟩ := (overlays_setting Keyword.read keywordData .default).field hsize
  obtain ⟨weight, hweight, wweight⟩ :=
    (overlays_setting Keyword.read keywordData .default).field hweight
  obtain ⟨color, hcolor, wcolor⟩ :=
    (overlays_setting Keyword.read keywordData .default).field hcolor
  obtain ⟨subtle, hsubtle, wsubtle⟩ := (overlays_setting switch .bool false).field hsubtle
  obtain ⟨wrap, hwrap, wwrap⟩ := (overlays_setting switch .bool true).field hwrap
  obtain ⟨width, hwidth, wwidth⟩ := (overlays_setting whole .int 0).field hwidth
  refine ⟨⟨size, weight, color, subtle, wrap, width⟩, ?_, ?_⟩
  · rw [readFactText, hsize, hweight, hcolor, hsubtle, hwrap, hwidth]
    rfl
  · rw [FactText.toData, wsize, wweight, wcolor, wsubtle, wwrap, wwidth]
    rfl

theorem overlays_showCard :
    Overlays showCardPart (record "ShowCardConfig" readShowCardLayout) ShowCardLayout.toData {} := by
  refine overlays_group fun entries hgiven _ => ?_
  obtain ⟨hmargin, -⟩ := hgiven
  obtain ⟨margin, hmargin, wmargin⟩ := (overlays_setting whole .int 16).field hmargin
  refine ⟨⟨margin⟩, ?_, ?_⟩
  · rw [readShowCardLayout, hmargin]
    rfl
  · rw [ShowCardLayout.toData, wmargin]
    rfl

theorem overlays_actions :
    Overlays actionsPart (record "ActionsConfig" readActionLayout) ActionLayout.toData {} := by
  refine overlays_group fun entries hgiven _ => ?_
  obtain ⟨hmax, hspacing, hbutton, horientation, halignment, hcard, -⟩ := hgiven
  obtain ⟨max, hmax, wmax⟩ := (overlays_setting count (fun n => .int n) 5).field hmax
  obtain ⟨spacing, hspacing, wspacing⟩ :=
    (overlays_setting Keyword.read keywordData .default).field hspacing
  obtain ⟨button, hbutton, wbutton⟩ := (overlays_setting count (fun n => .int n) 10).field hbutton
  obtain ⟨orientation, horientation, worientation⟩ :=
    (overlays_setting Keyword.read keywordData .horizontal).field horientation
  obtain ⟨alignment, halignment, walignment⟩ :=
    (overlays_setting Keyword.read keywordData .stretch).field halignment
  obtain ⟨card, hcard, wcard⟩ := overlays_showCard.field hcard
  refine ⟨⟨max, spacing, button, orientation, alignment, card⟩, ?_, ?_⟩
  · rw [readActionLayout, hmax, hspacing, hbutton, horientation, halignment, hcard]
    rfl
  · rw [ActionLayout.toData, wmax, wspacing, wbutton, worientation, walignment, wcard]
    rfl

/-! ## Colours -/

/-- A colour is given with its subtle variant, so nothing of it is left as it was. -/
theorem overlays_color (d : ColorPair) :
    Overlays colorPart (record "ColorConfig" readColorPair) ColorPair.toData d := by
  refine overlays_group fun entries hgiven hcomplete => ?_
  obtain ⟨hdefault, hsubtle, -⟩ := hgiven
  simp only [areComplete, Bool.not_true, Bool.false_or, Bool.and_eq_true] at hcomplete
  obtain ⟨⟨hsome, -⟩, ⟨hsome', -⟩, -⟩ := hcomplete
  obtain ⟨default, hdefault, wdefault⟩ :=
    (overlays_setting text .text d.default).required hdefault hsome
  obtain ⟨subtle, hsubtle, wsubtle⟩ :=
    (overlays_setting text .text d.subtle).required hsubtle hsome'
  refine ⟨⟨default, subtle⟩, ?_, ?_⟩
  · rw [readColorPair, hdefault, hsubtle]
    rfl
  · rw [ColorPair.toData, wdefault, wsubtle]
    rfl

theorem overlays_foregroundColors : Overlays foregroundColorsPart
    (record "ForegroundColorsConfig" readForegroundColors) ForegroundColors.toData {} := by
  refine overlays_group fun entries hgiven _ => ?_
  obtain ⟨hdefault, hdark, hlight, haccent, hgood, hwarning, hattention, -⟩ := hgiven
  obtain ⟨default, hdefault, wdefault⟩ := (overlays_color _).field hdefault
  obtain ⟨dark, hdark, wdark⟩ := (overlays_color _).field hdark
  obtain ⟨light, hlight, wlight⟩ := (overlays_color _).field hlight
  obtain ⟨accent, haccent, waccent⟩ := (overlays_color _).field haccent
  obtain ⟨good, hgood, wgood⟩ := (overlays_color _).field hgood
  obtain ⟨warning, hwarning, wwarning⟩ := (overlays_color _).field hwarning
  obtain ⟨attention, hattention, wattention⟩ := (overlays_color _).field hattention
  refine ⟨⟨default, dark, light, accent, good, warning, attention⟩, ?_, ?_⟩
  · rw [readForegroundColors, hdefault, hdark, hlight, haccent, hgood, hwarning, hattention]
    rfl
  · rw [ForegroundColors.toData, wdefault, wdark, wlight, waccent, wgood, wwarning, wattention]
    rfl

theorem overlays_containerStyle : Overlays containerStylePart
    (record "ContainerStyleConfig" readContainerStyle) ContainerStyle.toData {} := by
  refine overlays_group fun entries hgiven _ => ?_
  obtain ⟨hbackground, hcolors, -⟩ := hgiven
  obtain ⟨background, hbackground, wbackground⟩ :=
    (overlays_setting text .text "#FFFFFFFF").field hbackground
  obtain ⟨colors, hcolors, wcolors⟩ := overlays_foregroundColors.field hcolors
  refine ⟨⟨background, colors⟩, ?_, ?_⟩
  · rw [readContainerStyle, hbackground, hcolors]
    rfl
  · rw [ContainerStyle.toData, wbackground, wcolors]
    rfl

theorem overlays_containerStyles : Overlays containerStylesPart
    (record "ContainerStylesConfig" readContainerStyles) ContainerStyles.toData {} := by
  refine overlays_group fun entries hgiven _ => ?_
  obtain ⟨hdefault, -⟩ := hgiven
  obtain ⟨default, hdefault, wdefault⟩ := overlays_containerStyle.field hdefault
  refine ⟨⟨default⟩, ?_, ?_⟩
  · rw [readContainerStyles, hdefault]
    rfl
  · rw [ContainerStyles.toData, wdefault]
    rfl

/-! ## Facts -/

/-- The layout of facts with titles of this weight and width, and all else as usual. -/
def titledLayout (weight : TextWeight) (maxWidth : Int) : FactSetLayout :=
  { title := { weight, maxWidth } }

section

variable {entries : Entries}

/-- Titles that are given in part do not keep the weight and the width that titles usually have. -/
theorem title_overlay (hgiven : IsGivenWell entries "title" factTextPart) :
    ∃ (title : FactText) (weight : TextWeight) (maxWidth : Int),
      field entries "title" (record "FactSetTextConfig" readFactText) ({} : FactSetLayout).title =
        .good title ∧
      (given? "title" entries = none → weight = .bolder ∧ maxWidth = 150) ∧
      title.toData = (given? "title" entries).elim (titledLayout weight maxWidth).title.toData
        fun w => factTextPart.overlay (titledLayout weight maxWidth).title.toData w := by
  cases hw : given? "title" entries with
  | none => exact ⟨_, .bolder, 150, field_of_none _ _ hw, fun _ => ⟨rfl, rfl⟩, rfl⟩
  | some w =>
    obtain ⟨hfits, hcomplete⟩ := hgiven w hw
    obtain ⟨title, hread, hwrite⟩ := overlays_factText w hfits hcomplete
    exact ⟨title, .default, 0, field_of_given _ hw hread, nofun, hwrite⟩

/-- Everything else of the layout of facts is as usual where it is not given. -/
theorem factSet_overlay (hgiven : IsGivenWell entries "factSet" factSetPart) :
    ∃ (layout : FactSetLayout) (weight : TextWeight) (maxWidth : Int),
      field entries "factSet" (record "FactSetConfig" readFactSetLayout) {} = .good layout ∧
      ((given? "factSet" entries).bind (givenAt? ["title"]) = none →
        weight = .bolder ∧ maxWidth = 150) ∧
      layout.toData = (given? "factSet" entries).elim (titledLayout weight maxWidth).toData
        fun w => factSetPart.overlay (titledLayout weight maxWidth).toData w := by
  cases hw : given? "factSet" entries with
  | none => exact ⟨_, .bolder, 150, field_of_none _ _ hw, fun _ => ⟨rfl, rfl⟩, rfl⟩
  | some v =>
    obtain ⟨hfits, hcomplete⟩ := hgiven v hw
    rw [factSetPart, Part.fits, Bool.and_eq_true] at hfits
    cases v with
    | map parts =>
      have hparts : AreGivenWell parts
          [("title", factTextPart), ("value", factTextPart), ("spacing", wholePart)] :=
        areGivenWell_of_fitAll hfits.2 hcomplete
      obtain ⟨htitle, hvalue, hspacing, -⟩ := hparts
      obtain ⟨title, weight, maxWidth, htitle, husual, wtitle⟩ := title_overlay htitle
      have husually : Overlays factTextPart (record "FactSetTextConfig" readFactText)
          FactText.toData ({} : FactSetLayout).value := overlays_factText
      obtain ⟨value, hvalue, wvalue⟩ := husually.field hvalue
      obtain ⟨spacing, hspacing, wspacing⟩ := (overlays_setting whole .int 10).field hspacing
      have hread : readFactSetLayout parts = .good ⟨title, value, spacing⟩ := by
        rw [readFactSetLayout, htitle, hvalue, hspacing]
        rfl
      refine ⟨⟨title, value, spacing⟩, weight, maxWidth, field_of_given _ hw hread,
        fun hnone => husual ?_, ?_⟩
      · have hsame : (given? "title" parts).bind some = none := hnone
        rwa [Option.bind_fun_some] at hsame
      · rw [FactSetLayout.toData, wtitle, wvalue, wspacing]
        rfl
    | _ => cases hfits.1

end

/-! ## Which objects are read -/

/-- A text is complete, and so is one that is not given. -/
theorem isComplete_text (w : Option Value) : w.all (fun v => textPart.isComplete v) = true := by
  cases w <;> rfl

theorem isComplete_color {v : Value} {c : ColorPair}
    (h : record "ColorConfig" readColorPair v = .good c) : colorPart.isComplete v = true := by
  have hgiven {entries : Entries} {name text : String}
      (hrequired : required entries name Record.text = .good text) :
      (given? name entries).isSome = true := by
    unfold given?
    unfold required at hrequired
    cases hfind : find? name entries with
    | none =>
      rw [hfind] at hrequired
      cases hrequired
    | some found => rfl
  cases v with
  | map entries =>
    have hread : readColorPair entries = .good c := h
    simp only [readColorPair, Checked.seq_eq_good, Checked.map_eq_good] at hread
    obtain ⟨-, ⟨default, hdefault, -⟩, subtle, hsubtle, -⟩ := hread
    rw [colorPart, Part.isComplete, areComplete, areComplete, areComplete, entriesOf,
      hgiven hdefault, hgiven hsubtle, isComplete_text, isComplete_text]
    rfl
  | _ => cases h

/-- A group without such groups in it is always complete. -/
theorem isComplete_of_loose (v : Value) : fontSizesPart.isComplete v = true ∧
    spacingsPart.isComplete v = true ∧ separatorPart.isComplete v = true ∧
    imageSizesPart.isComplete v = true ∧ factSetPart.isComplete v = true ∧
    actionsPart.isComplete v = true := by
  have hall (w : Option Value) : w.all (fun _ => true) = true := by cases w <;> rfl
  simp [fontSizesPart, spacingsPart, separatorPart, imageSizesPart, factSetPart, factTextPart,
    actionsPart, showCardPart, wholePart, textPart, switchPart, countPart, keywordPart, settingOf,
    Part.isComplete, areComplete, hall]

theorem isComplete_foregroundColors {v : Value} {c : ForegroundColors}
    (h : record "ForegroundColorsConfig" readForegroundColors v = .good c) :
    foregroundColorsPart.isComplete v = true := by
  have hcolor {entries : Entries} {name : String} {d a : ColorPair}
      (hfield : field entries name (record "ColorConfig" readColorPair) d = .good a) :=
    isComplete_of_field (fun _ _ => isComplete_color) hfield
  cases v with
  | map entries =>
    have hread : readForegroundColors entries = .good c := h
    simp only [readForegroundColors, Checked.seq_eq_good, Checked.map_eq_good] at hread
    obtain ⟨-, ⟨-, ⟨-, ⟨-, ⟨-, ⟨-, ⟨default, hdefault, -⟩, dark, hdark, -⟩, light, hlight, -⟩, accent,
      haccent, -⟩, good, hgood, -⟩, warning, hwarning, -⟩, attention, hattention, -⟩ := hread
    simp only [foregroundColorsPart, Part.isComplete, areComplete, entriesOf, hcolor hdefault,
      hcolor hdark, hcolor hlight, hcolor haccent, hcolor hgood, hcolor hwarning,
      hcolor hattention, Bool.not_false, Bool.true_or, Bool.and_self]
  | _ => cases h

theorem isComplete_containerStyle {v : Value} {c : ContainerStyle}
    (h : record "ContainerStyleConfig" readContainerStyle v = .good c) :
    containerStylePart.isComplete v = true := by
  cases v with
  | map entries =>
    have hread : readContainerStyle entries = .good c := h
    simp only [readContainerStyle, Checked.seq_eq_good, Checked.map_eq_good] at hread
    obtain ⟨-, -, colors, hcolors, -⟩ := hread
    have hcolors := isComplete_of_field (fun _ _ => isComplete_foregroundColors) hcolors
    simp only [containerStylePart, Part.isComplete, areComplete, entriesOf, isComplete_text, hcolors,
      Bool.not_false, Bool.true_or, Bool.and_self]
  | _ => cases h

theorem isComplete_containerStyles {v : Value} {c : ContainerStyles}
    (h : record "ContainerStylesConfig" readContainerStyles v = .good c) :
    containerStylesPart.isComplete v = true := by
  cases v with
  | map entries =>
    have hread : readContainerStyles entries = .good c := h
    simp only [readContainerStyles, Checked.map_eq_good] at hread
    obtain ⟨default, hdefault, -⟩ := hread
    have hdefault := isComplete_of_field (fun _ _ => isComplete_containerStyle) hdefault
    simp only [containerStylesPart, Part.isComplete, areComplete, entriesOf, hdefault,
      Bool.not_false, Bool.true_or, Bool.and_self]
  | _ => cases h

theorem isComplete_config {v : Value} {c : Config} (h : readConfig v = .good c) :
    configPart.isComplete v = true := by
  have hall (w : Option Value) : w.all (fun _ => true) = true := by cases w <;> rfl
  have hloose := isComplete_of_loose
  cases v with
  | map entries =>
    have hread : readConfigEntries entries = .good c := h
    simp only [readConfigEntries, Checked.seq_eq_good, Checked.map_eq_good] at hread
    obtain ⟨-, ⟨-, ⟨-, -, styles, hstyles, -⟩, -⟩, -⟩ := hread
    have hstyles := isComplete_of_field (fun _ _ => isComplete_containerStyles) hstyles
    simp only [configPart, Part.isComplete, areComplete, entriesOf, hstyles, hloose, hall,
      switchPart, settingOf, Bool.not_false, Bool.true_or, Bool.and_self]
  | _ => cases h

/-! ## Configurations -/

/-- The usual configuration, except for the weight and the width of the titles of facts. -/
def titledConfig (weight : TextWeight) (maxWidth : Int) : Config :=
  { factSet := titledLayout weight maxWidth }

theorem readConfig_good {v : Value} (hfits : configPart.fits v = true)
    (hcomplete : configPart.isComplete v = true) :
    ∃ (c : Config) (weight : TextWeight) (maxWidth : Int), readConfig v = .good c ∧
      (givenAt? ["factSet", "title"] v = none → weight = .bolder ∧ maxWidth = 150) ∧
      c.toData = configPart.overlay (titledConfig weight maxWidth).toData v := by
  rw [configPart, Part.fits, Bool.and_eq_true] at hfits
  cases v with
  | map entries =>
    -- each entry is read from what was laid over the usual one
    have hparts : AreGivenWell entries [("fontFamily", settingOf (optional text) .ofText?),
        ("supportsInteractivity", switchPart), ("fontSizes", fontSizesPart),
        ("spacing", spacingsPart), ("separator", separatorPart), ("imageSizes", imageSizesPart),
        ("containerStyles", containerStylesPart), ("factSet", factSetPart),
        ("actions", actionsPart)] := areGivenWell_of_fitAll hfits.2 hcomplete
    obtain ⟨hfamily, hactive, hsizes, hspacing, hseparator, himages, hstyles, hfacts, hactions, -⟩ :=
      hparts
    obtain ⟨family, hfamily, wfamily⟩ :=
      (overlays_setting (optional text) .ofText? (some "Segoe UI")).field hfamily
    obtain ⟨active, hactive, wactive⟩ := (overlays_setting switch .bool true).field hactive
    obtain ⟨sizes, hsizes, wsizes⟩ := overlays_fontSizes.field hsizes
    obtain ⟨spacing, hspacing, wspacing⟩ := overlays_spacings.field hspacing
    obtain ⟨separator, hseparator, wseparator⟩ := overlays_separator.field hseparator
    obtain ⟨images, himages, wimages⟩ := overlays_imageSizes.field himages
    obtain ⟨styles, hstyles, wstyles⟩ := overlays_containerStyles.field hstyles
    obtain ⟨facts, weight, maxWidth, hfacts, husual, wfacts⟩ := factSet_overlay hfacts
    obtain ⟨actions, hactions, wactions⟩ := overlays_actions.field hactions
    refine ⟨⟨family, active, sizes, spacing, separator, images, styles, facts, actions⟩, weight,
      maxWidth, ?_, husual, ?_⟩
    · change readConfigEntries entries = _
      rw [readConfigEntries, hfamily, hactive, hsizes, hspacing, hseparator, himages, hstyles, hfacts,
        hactions]
      rfl
    · rw [Config.toData, wfamily, wactive, wsizes, wspacing, wseparator, wimages, wstyles, wfacts,
        wactions]
      rfl
  | _ => cases hfits.1

/-- **Objects that give a configuration in part.** If all that an object gives is valid, it is read
just if every colour that it gives comes with its subtle variant. The configuration then is the usual
one with what is given in its place, and nothing else changed, at any depth. Only if something is
given for titles, but not their weight or their width, nothing is said of these. -/
theorem readConfig_overlay {v : Value} (hfits : configPart.fits v = true) :
    ((∃ c, readConfig v = .good c) ↔ configPart.isComplete v = true) ∧
    ∀ c, readConfig v = .good c → ∃ (weight : TextWeight) (maxWidth : Int),
      (givenAt? ["factSet", "title"] v = none → weight = .bolder ∧ maxWidth = 150) ∧
      c.toData = configPart.overlay (titledConfig weight maxWidth).toData v := by
  refine ⟨⟨fun ⟨c, hread⟩ => isComplete_config hread, fun hcomplete => ?_⟩, fun c hread => ?_⟩
  · obtain ⟨c, -, -, hread, -⟩ := readConfig_good hfits hcomplete
    exact ⟨c, hread⟩
  · obtain ⟨c', weight, maxWidth, hread', husual, hdata⟩ :=
      readConfig_good hfits (isComplete_config hread)
    obtain rfl := Checked.good.inj (hread.symm.trans hread')
    exact ⟨weight, maxWidth, husual, hdata⟩

/-- An object that gives a font, a spacing, a line and a colour. -/
def fewSettings : Value :=
  .ofMembers [("fontFamily", .text "Arial"), ("spacing", .ofMembers [("default", .int 12)]),
    ("separator", .ofMembers [("line_color", .text "red")]),
    ("containerStyles", .ofMembers [("default", .ofMembers [("foregroundColors", .ofMembers
      [("accent", .ofMembers [("default", .text "blue"), ("subtle", .text "navy")])])])])]

/-- Everything else is as usual. -/
theorem readConfig_overlay_few :
    configPart.fits fewSettings = true ∧
    ∃ c, readConfig fewSettings = .good c ∧ c.spacing = { default := 12 } ∧
      c.toData = configPart.overlay (Config.toData {}) fewSettings := by
  have hfits : configPart.fits fewSettings = true := by decide
  refine ⟨hfits, _, rfl, rfl, ?_⟩
  obtain ⟨weight, maxWidth, husual, hdata⟩ := (readConfig_overlay hfits).2 _ rfl
  obtain ⟨rfl, rfl⟩ := husual rfl
  exact hdata

/-- An object that gives a colour without its subtle variant. -/
def halfColor : Value :=
  .ofMembers [("containerStyles", .ofMembers [("default", .ofMembers [("foregroundColors", .ofMembers
    [("accent", .ofMembers [("default", .text "blue")])])])])]

/-- Such an object is not read, although all that it gives is valid. -/
theorem readConfig_halfColor :
    ¬ ∀ v, configPart.fits v = true → ∃ c, readConfig v = .good c ∧
      c.toData = configPart.overlay (Config.toData {}) v := by
  intro h
  obtain ⟨c, hread, -⟩ := h halfColor (by decide)
  exact absurd (isComplete_config hread) (by decide)

end Placard.Host
