-- SUMMARY: Settings are read back as they are written.
import Docsmith.Proofs.Docstring.Outline

/-!
# Writing and reading settings

A setting is written as an item. Its note lists the parts of its type, the word for required, the
variable of the environment that holds it and its default, each only if there is one; a setting
with none of them has no note. Reading the text of any settings gives these settings back:
`configFieldsOf_text`. A type may hold commas, since its parts are told from the key words one by
one and joined again.
-/

namespace Docsmith.Docstring

/-! ## Settings as they are written -/

/-- The text stands on one line, with no white space at its ends. -/
def IsInline (cs : Line) : Prop := Text.strip cs = cs ∧ '\n' ∉ cs

/-- The text may stand in a note between commas. -/
def IsNotePart (cs : Line) : Prop := IsInline cs ∧ ',' ∉ cs ∧ ')' ∉ cs

/-- The part of a note is a key word or gives a value to one, in whatever letter case. -/
def IsKeyword (p : Line) : Prop :=
  Text.lower p = requiredWord ∨ "env=".toList <+: Text.lower p ∨ "default=".toList <+: Text.lower p

instance decidableIsInline (cs : Line) : Decidable (IsInline cs) :=
  inferInstanceAs (Decidable (_ ∧ _))

instance decidableIsNotePart (cs : Line) : Decidable (IsNotePart cs) :=
  inferInstanceAs (Decidable (_ ∧ _))

instance decidableIsKeyword (p : Line) : Decidable (IsKeyword p) :=
  inferInstanceAs (Decidable (_ ∨ _))

/-- A setting. Its type has any number of parts, its variable is empty if it has none, and its
    description has at least one line. -/
structure ConfigPart where
  name : Line
  types : List Line
  required : Bool
  env : Line
  default : Option Line
  first : Line
  more : List Line
  name_ne : name ≠ []
  name_word : name.all Text.isWord = true
  types_part : ∀ p ∈ types, p ≠ [] ∧ IsNotePart p ∧ ¬ IsKeyword p
  env_part : IsNotePart env
  default_part : ∀ d ∈ default, IsNotePart d
  first_inline : first ≠ [] ∧ IsInline first
  more_inline : ∀ l ∈ more, l ≠ [] ∧ IsInline l
  more_noItem : ∀ l ∈ more, Item.ofLine? (List.replicate 8 ' ' ++ l) = none

namespace ConfigPart

variable (f : ConfigPart)

/-- What the note says besides the type. -/
def marks : List Line :=
  (if f.required then [requiredWord] else [])
    ++ ((if f.env.isEmpty then [] else ["env=".toList ++ f.env])
      ++ f.default.toList.map ("default=".toList ++ ·))

/-- The setting as an item: its further lines are indented by eight blanks. -/
def entry : Entry where
  item := ⟨f.name, Text.joinWith [',', ' '] (f.types ++ f.marks), f.first⟩
  more := f.more.map (List.replicate 8 ' ' ++ ·)

/-- The setting of the record. -/
def field : ConfigField where
  name := String.ofList f.name
  type := textValue (Text.joinWith [',', ' '] f.types)
  description := textValue (Text.joinWith [' '] (f.first :: f.more))
  default := (f.default.map textValue).getD .none
  required := f.required
  envVar := textValue f.env

end ConfigPart

/-! ## The note of a setting -/

theorem isNotePart_append {word value : Line} (hword : IsNotePart word) (hne : word ≠ [])
    (hvalue : IsNotePart value) : IsNotePart (word ++ value) := by
  obtain ⟨⟨hstrip, hline⟩, hcomma, hclosed⟩ := hword
  obtain ⟨⟨hstrip', hline'⟩, hcomma', hclosed'⟩ := hvalue
  refine ⟨⟨?_, by simp [hline, hline']⟩, by simp [hcomma, hcomma'], by simp [hclosed, hclosed']⟩
  by_cases hempty : value = []
  · rw [hempty, List.append_nil, hstrip]
  · simpa using Text.strip_append_append hstrip hstrip' hne hempty []

theorem ConfigPart.marks_part (f : ConfigPart) : ∀ p ∈ f.marks, p ≠ [] ∧ IsNotePart p := by
  have henv : IsNotePart "env=".toList := by decide
  have hdefault : IsNotePart "default=".toList := by decide
  intro p hp
  rcases List.mem_append.mp hp with hrequired | hp
  · split at hrequired
    · rw [List.mem_singleton.mp hrequired]
      decide
    · cases hrequired
  · rcases List.mem_append.mp hp with hp | hp
    · split at hp
      · cases hp
      · rw [List.mem_singleton.mp hp]
        exact ⟨by simp, isNotePart_append henv (by decide) f.env_part⟩
    · obtain ⟨d, hd, rfl⟩ := List.mem_map.mp hp
      have hd := f.default_part d (Option.mem_toList.mp hd)
      exact ⟨by simp, isNotePart_append hdefault (by decide) hd⟩

theorem ConfigPart.parts_part (f : ConfigPart) :
    ∀ p ∈ f.types ++ f.marks, p ≠ [] ∧ IsNotePart p :=
  List.forall_mem_append.mpr
    ⟨fun p hp => ⟨(f.types_part p hp).1, (f.types_part p hp).2.1⟩, f.marks_part⟩

/-- The parts of a note are read one by one. -/
theorem settingParts_joinWith {ps : List Line} (h : ∀ p ∈ ps, p ≠ [] ∧ IsNotePart p) :
    settingParts (Text.joinWith [',', ' '] ps) = ps.map SettingPart.ofChars := by
  cases ps with
  | nil => rfl
  | cons p ps =>
    obtain ⟨⟨hne, hp⟩, hps⟩ := List.forall_mem_cons.mp h
    have hsplit : Text.splitAtChar ',' (Text.joinWith [',', ' '] (p :: ps)) =
        p :: ps.map ([' '] ++ ·) :=
      Text.splitAtChar_joinWith (by decide) fun q hq => (h q hq).2.2.1
    have hnote : (Text.joinWith [',', ' '] (p :: ps)).isEmpty = false :=
      List.isEmpty_eq_false_iff.mpr (Text.joinWith_ne_nil _ hne ps)
    have hrest : ∀ q ∈ ps, Text.strip ([' '] ++ q) = q := fun q hq =>
      (strip_replicate_append 1 q).trans (hps q hq).2.1.1
    simp only [settingParts, hnote, Bool.false_eq_true, if_false, hsplit, List.map_cons, hp.1.1,
      List.map_map]
    exact congrArg _ (List.map_congr_left fun q hq => congrArg SettingPart.ofChars (hrest q hq))

namespace SettingPart

theorem ofChars_of_not_isKeyword {p : Line} (h : ¬ IsKeyword p) : ofChars p = .type p := by
  simp only [IsKeyword, not_or, ← Text.startsWith_iff] at h
  obtain ⟨hrequired, henv, hdefault⟩ := h
  simp only [ofChars]
  rw [if_neg fun heq => hrequired (eq_of_beq heq), if_neg henv, if_neg hdefault]

theorem ofChars_required : ofChars requiredWord = .required := rfl

theorem ofChars_env {v : Line} (h : Text.strip v = v) : ofChars ("env=".toList ++ v) = .env v := by
  have hlower : Text.lower ("env=".toList ++ v) =
      "env=".toList ++ Text.lowered "=vne".toList v := Text.lower_eq _
  have hprefix := Text.startsWith_iff.mpr (List.prefix_append "env=".toList
    (Text.lowered "=vne".toList v))
  have hother : ("env=".toList ++ Text.lowered "=vne".toList v == requiredWord) = false := rfl
  simp only [ofChars, hlower, hprefix, hother]
  exact congrArg env h

theorem ofChars_default {v : Line} (h : Text.strip v = v) :
    ofChars ("default=".toList ++ v) = .default v := by
  have hlower : Text.lower ("default=".toList ++ v) =
      "default=".toList ++ Text.lowered "=tluafed".toList v := Text.lower_eq _
  have hprefix := Text.startsWith_iff.mpr (List.prefix_append "default=".toList
    (Text.lowered "=tluafed".toList v))
  have hother : ("default=".toList ++ Text.lowered "=tluafed".toList v == requiredWord) = false ∧
      Text.startsWith "env=".toList
        ("default=".toList ++ Text.lowered "=tluafed".toList v) = false := ⟨rfl, rfl⟩
  simp only [ofChars, hlower, hprefix, hother]
  exact congrArg SettingPart.default h

end SettingPart

/-! ## Reading settings -/

namespace ConfigPart

variable (f : ConfigPart)

/-- The parts of the note as they are read. -/
theorem settingParts_note : settingParts f.entry.item.note =
    f.types.map .type ++ ((if f.required then [.required] else [])
      ++ ((if f.env.isEmpty then [] else [.env f.env]) ++ f.default.toList.map .default)) := by
  have htypes : f.types.map SettingPart.ofChars = f.types.map .type :=
    List.map_congr_left fun p hp => SettingPart.ofChars_of_not_isKeyword (f.types_part p hp).2.2
  have hdefault : f.default.toList.map (fun d => SettingPart.ofChars ("default=".toList ++ d)) =
      f.default.toList.map .default :=
    List.map_congr_left fun d hd =>
      SettingPart.ofChars_default (f.default_part d (Option.mem_toList.mp hd)).1.1
  have henv := SettingPart.ofChars_env f.env_part.1.1
  rw [entry, settingParts_joinWith f.parts_part, List.map_append, htypes, marks, List.map_append,
    List.map_append, List.map_map]
  refine congrArg _ (congrArg₂ _ ?_ (congrArg₂ _ ?_ hdefault))
  · cases f.required with
    | true => exact congrArg ([·]) SettingPart.ofChars_required
    | false => rfl
  · cases f.env.isEmpty with
    | true => rfl
    | false => exact congrArg ([·]) henv

theorem not_mem_note {c : Char} (hsep : c ∉ [',', ' ']) (hpart : ∀ p, IsNotePart p → c ∉ p) :
    c ∉ f.entry.item.note := by
  intro h
  obtain hc | ⟨p, hp, hc⟩ := Text.mem_joinWith h
  · exact hsep hc
  · exact hpart p (f.parts_part p hp).2 hc

theorem note_closed : ')' ∉ f.entry.item.note := f.not_mem_note (by decide) fun _ hp => hp.2.2

theorem note_oneLine : '\n' ∉ f.entry.item.note := f.not_mem_note (by decide) fun _ hp => hp.1.2

theorem entry_isWritten : f.entry.IsWritten := by
  have hname := isName_of_isWord f.name_ne (List.all_eq_true.mp f.name_word)
  have htext := Text.stripStart_eq_self f.first_inline.2.1
  refine ⟨Item.ofLine?_line hname f.note_closed htext, fun l hl => ?_⟩
  obtain ⟨m, hm, rfl⟩ := List.mem_map.mp hl
  obtain ⟨hne, hstrip, -⟩ := f.more_inline m hm
  refine ⟨f.more_noItem m hm, ?_⟩
  rw [isBlankLine_replicate_append]
  exact isBlankLine_of_head hne (Text.not_isBlank_head hstrip)

theorem entry_description : f.entry.description = Text.joinWith [' '] (f.first :: f.more) := by
  refine Entry.description_of_lines rfl (List.forall_mem_cons.mpr ?_)
  exact ⟨⟨f.first_inline.1, f.first_inline.2.1⟩,
    fun l hl => ⟨(f.more_inline l hl).1, (f.more_inline l hl).2.1⟩⟩

/-- The setting is read as it was written. -/
theorem entry_configField : f.entry.configField = f.field := by
  have htypes : Text.strip (Text.joinWith [',', ' '] f.types) = Text.joinWith [',', ' '] f.types :=
    Text.strip_joinWith _ fun p hp => ⟨(f.types_part p hp).1, (f.types_part p hp).2.1.1.1⟩
  simp only [Entry.configField, f.settingParts_note, f.entry_description, field]
  -- each mark is there at most once, so the last of a sort is the one that was written
  by_cases henv : f.env = [] <;> cases f.required <;> cases f.default <;>
    simp [List.filterMap_map, Function.comp_def, entry, henv, htypes]

theorem newline_not_mem_lines : ∀ l ∈ f.entry.lines, '\n' ∉ l := by
  have hname : '\n' ∉ f.name := fun hc =>
    absurd (List.all_eq_true.mp f.name_word _ hc) (by decide)
  refine List.forall_mem_cons.mpr ⟨?_, fun l hl => ?_⟩
  · have hnote := f.note_oneLine
    have hitem : f.entry.item.name = f.name ∧ f.entry.item.text = f.first := ⟨rfl, rfl⟩
    simp only [Item.line, writtenNoteAndText, hitem]
    split <;> simp [hname, hnote, f.first_inline.2.2]
  · obtain ⟨m, hm, rfl⟩ := List.mem_map.mp hl
    simp [(f.more_inline m hm).2.2]

end ConfigPart

/-- Settings are read back from the text that they are written as. -/
theorem configFieldsOf_text (fs : List ConfigPart) :
    configFieldsOf (Text.splitAtChar '\n' (Text.unlines (fs.flatMap fun f => f.entry.lines))) =
      fs.map ConfigPart.field := by
  have hlines : ∀ l ∈ fs.flatMap fun f => f.entry.lines, '\n' ∉ l := by
    intro l hl
    obtain ⟨f, -, hl⟩ := List.mem_flatMap.mp hl
    exact f.newline_not_mem_lines l hl
  have hentries : entries (fs.flatMap fun f => f.entry.lines) = fs.map ConfigPart.entry := by
    have hwritten : ∀ e ∈ fs.map ConfigPart.entry, e.IsWritten :=
      List.forall_mem_map.mpr fun f _ => f.entry_isWritten
    rw [← entries_flatMap_lines hwritten, List.flatMap_map]
  have hfields : configFieldsOf (fs.flatMap fun f => f.entry.lines) = fs.map ConfigPart.field := by
    rw [configFieldsOf, hentries, List.map_map]
    exact List.map_congr_left fun f _ => f.entry_configField
  cases fs with
  | nil => rfl
  | cons f fs => rw [Text.splitAtChar_unlines (by simp [Entry.lines]) hlines, hfields]

/-- A setting with every part; its type holds a comma and its default is the empty text. -/
def limits : ConfigPart where
  name := "LIMITS".toList
  types := ["dict[str".toList, "int]".toList]
  required := true
  env := "APP_LIMITS".toList
  default := some []
  first := "How much: at most.".toList
  more := ["Per (user) and day.".toList]
  name_ne := by decide
  name_word := by decide
  types_part := by decide
  env_part := by decide
  default_part := by decide
  first_inline := by decide
  more_inline := by decide
  more_noItem := by decide

/-- A setting with no part but a description. -/
def debug : ConfigPart where
  name := "DEBUG".toList
  types := []
  required := false
  env := []
  default := none
  first := "Verbose.".toList
  more := []
  name_ne := by decide
  name_word := by decide
  types_part := by decide
  env_part := by decide
  default_part := by decide
  first_inline := by decide
  more_inline := by decide
  more_noItem := by decide

theorem configFieldsOf_limits_debug :
    configFieldsOf (Text.splitAtChar '\n'
      ("    LIMITS (dict[str, int], required, env=APP_LIMITS, default=): How much: at most.\n" ++
        "        Per (user) and day.\n    DEBUG: Verbose.").toList) =
      [limits.field, debug.field] := by
  have htext : Text.unlines ([limits, debug].flatMap fun f => f.entry.lines) =
      ("    LIMITS (dict[str, int], required, env=APP_LIMITS, default=): How much: at most.\n" ++
        "        Per (user) and day.\n    DEBUG: Verbose.").toList := by decide +kernel
  rw [← htext]
  exact configFieldsOf_text [limits, debug]

end Docsmith.Docstring
