import LunConsole.Label
import Mathlib.Data.List.DropRight
/-!
# Labels and their texts

A label has one text that shows it and many texts that are read as it. The reader divides a text at
its first equals sign and drops the blanks around either part, so what it loses is the blanks and
nothing else.

This is said in both directions at once (`Label.parse_eq_ok_iff`): a text is read as a label exactly
if the label stands in it, with blanks around its key and its value (`Label.StandsIn`), and the
label is one that can be read at all (`Label.IsNormal`): its key is there and has no equals sign,
and no blank begins or ends its key or its value. Everything else follows without looking at the
reader again. In particular a label that was read stands in the text that shows it, without any
blanks, so that text is read as the same label. An equals sign in the value does no harm, for the
first one in the text is still the one behind the key.

The reader never divides at a blank, because an equals sign is none.
-/

set_option autoImplicit false

namespace LunConsole

/-! ## 1. Blanks at the ends -/

namespace Text

/-- Blanks and nothing else. -/
def AllBlank (s : List Char) : Prop := ∀ c ∈ s, isBlank c = true

/-- Neither the first character nor the last one is a blank. -/
structure NoBlankEnds (s : List Char) : Prop where
  first : ∀ c ∈ s.head?, isBlank c = false
  last : ∀ c ∈ s.getLast?, isBlank c = false

theorem allBlank_nil : AllBlank [] := fun _ h => absurd h List.not_mem_nil

variable {s before after : List Char}

/-- Dropping blanks from the front drops some and nothing else. -/
theorem exists_allBlank_dropBlanks (s : List Char) :
    ∃ before, AllBlank before ∧ s = before ++ dropBlanks s :=
  ⟨s.takeWhile isBlank, fun _ hc => List.mem_takeWhile_imp hc,
    List.takeWhile_append_dropWhile.symm⟩

/-- What is dropped from both ends is blanks. -/
theorem exists_allBlank_trimmed (s : List Char) :
    ∃ before after, AllBlank before ∧ AllBlank after ∧ s = before ++ trimmed s ++ after := by
  obtain ⟨before, hbefore, hfront⟩ := exists_allBlank_dropBlanks s
  obtain ⟨after, hafter, hback⟩ := exists_allBlank_dropBlanks (dropBlanks s).reverse
  refine ⟨before, after.reverse, hbefore, fun c hc => hafter c (List.mem_reverse.mp hc), ?_⟩
  have hrest : dropBlanks s = trimmed s ++ after.reverse := by
    calc dropBlanks s = (dropBlanks s).reverse.reverse := (List.reverse_reverse _).symm
      _ = (after ++ dropBlanks (dropBlanks s).reverse).reverse := by rw [← hback]
      _ = trimmed s ++ after.reverse := by rw [List.reverse_append, trimmed]
  rw [List.append_assoc, ← hrest, ← hfront]

/-- No blank is first once blanks have been dropped from the front. -/
theorem first_dropBlanks (s : List Char) : ∀ c ∈ (dropBlanks s).head?, isBlank c = false := by
  intro c hc
  have hfirst := List.head?_dropWhile_not isBlank s
  rw [dropBlanks, Option.mem_def] at hc
  rw [hc] at hfirst
  simpa using hfirst

theorem noBlankEnds_trimmed (s : List Char) : NoBlankEnds (trimmed s) := by
  constructor
  · intro c hc
    -- what is left is a part in front, so it begins as the text does without blanks before it
    obtain ⟨after, hafter⟩ : trimmed s <+: dropBlanks s := List.rdropWhile_prefix isBlank _
    apply first_dropBlanks s
    rw [← hafter, List.head?_append, Option.mem_def.mp hc]
    rfl
  · intro c hc
    rw [trimmed, List.getLast?_reverse] at hc
    exact first_dropBlanks _ c hc

/-- A text that does not begin with a blank keeps its front. -/
theorem dropBlanks_eq_self (h : ∀ c ∈ s.head?, isBlank c = false) : dropBlanks s = s := by
  cases s with
  | nil => rfl
  | cons c s =>
      have hc : ¬ isBlank c = true := by simp [h c rfl]
      exact List.dropWhile_cons_of_neg hc

/-- **What stands between blanks** is what is left. -/
theorem trimmed_eq (hbefore : AllBlank before) (hafter : AllBlank after) (hs : NoBlankEnds s) :
    trimmed (before ++ s ++ after) = s := by
  have hfront : dropBlanks (before ++ s ++ after) = dropBlanks (s ++ after) := by
    rw [List.append_assoc]
    exact List.dropWhile_append_of_pos hbefore
  have hback : dropBlanks (s ++ after).reverse = s.reverse := by
    rw [List.reverse_append]
    calc dropBlanks (after.reverse ++ s.reverse)
        = dropBlanks s.reverse :=
          List.dropWhile_append_of_pos fun c hc => hafter c (List.mem_reverse.mp hc)
      _ = s.reverse := by
          apply dropBlanks_eq_self
          rw [List.head?_reverse]
          exact hs.last
  cases hempty : s with
  | nil =>
      -- nothing but blanks, so the front takes them all
      have hnone : dropBlanks after = [] := List.dropWhile_eq_nil_iff.mpr hafter
      rw [← hempty, trimmed, hfront, hempty, List.nil_append, hnone]
      rfl
  | cons c rest =>
      have hfirst : dropBlanks (s ++ after) = s ++ after := by
        apply dropBlanks_eq_self
        intro d hd
        apply hs.first
        rw [hempty] at hd ⊢
        exact hd
      rw [← hempty, trimmed, hfront, hfirst, hback, List.reverse_reverse]

/-- Something is left exactly if there is more than blanks. -/
theorem trimmed_eq_nil_iff : trimmed s = [] ↔ AllBlank s := by
  constructor
  · intro h
    obtain ⟨before, after, hbefore, hafter, hs⟩ := exists_allBlank_trimmed s
    rw [hs, h, List.append_nil]
    intro c hc
    rcases List.mem_append.mp hc with hc | hc
    · exact hbefore c hc
    · exact hafter c hc
  · intro h
    have hnil : NoBlankEnds [] := ⟨nofun, nofun⟩
    simpa using trimmed_eq h allBlank_nil hnil

end Text

/-! ## 2. The first equals sign -/

namespace Label

open Text

/-- A text is divided at an equals sign before which there is none. -/
theorem divide?_append {key : List Char} (hkey : '=' ∉ key) (value : List Char) :
    divide? (key ++ '=' :: value) = some (key, value) := by
  induction key with
  | nil => rfl
  | cons c key ih =>
      have hc : '=' ≠ c := List.ne_of_not_mem_cons hkey
      have hrest : '=' ∉ key := List.not_mem_of_not_mem_cons hkey
      rw [List.cons_append, divide?, ih hrest]
      · rfl
      · exact Ne.symm hc

/-- Without an equals sign there is nothing to divide at. -/
theorem divide?_eq_none {s : List Char} (h : '=' ∉ s) : divide? s = none := by
  induction s with
  | nil => rfl
  | cons c s ih =>
      have hc : '=' ≠ c := List.ne_of_not_mem_cons h
      have hrest : '=' ∉ s := List.not_mem_of_not_mem_cons h
      rw [divide?, ih hrest]
      · rfl
      · exact Ne.symm hc

/-! ## 3. What is read -/

/-- A label that can be read. -/
structure IsNormal (l : Label) : Prop where
  key_ne_empty : l.key ≠ ""
  equals_not_mem_key : '=' ∉ l.key.toList
  key_ends : NoBlankEnds l.key.toList
  value_ends : NoBlankEnds l.value.toList

/-- The label makes up the text, but for blanks around its key and its value. -/
def StandsIn (l : Label) (text : String) : Prop :=
  ∃ before beforeEquals afterEquals after : List Char,
    AllBlank before ∧ AllBlank beforeEquals ∧ AllBlank afterEquals ∧ AllBlank after ∧
      text.toList = (before ++ l.key.toList ++ beforeEquals)
        ++ '=' :: (afterEquals ++ l.value.toList ++ after)

theorem not_mem_of_allBlank {s : List Char} (h : AllBlank s) : '=' ∉ s := by
  intro hmem
  have hblank : isBlank '=' = true := h '=' hmem
  cases hblank

/-- What the reader makes of a text with an equals sign. -/
theorem parse_of_divided {text : String} {key value : List Char}
    (htext : text.toList = key ++ '=' :: value) (hkey : '=' ∉ key) (l : Label) :
    parse text = .ok l ↔
      trimmed key ≠ [] ∧ l = ⟨String.ofList (trimmed key), String.ofList (trimmed value)⟩ := by
  rw [parse, htext, divide?_append hkey]
  dsimp only
  split_ifs with hempty
  · simp [List.isEmpty_iff.mp hempty]
  · have hne : trimmed key ≠ [] := fun h => hempty (List.isEmpty_iff.mpr h)
    simp [hne, eq_comm]

theorem mem_of_parse {text : String} {l : Label} (h : parse text = .ok l) : '=' ∈ text.toList := by
  by_contra hnone
  rw [parse, divide?_eq_none hnone] at h
  cases h

/-- **What is read of a text**: the label that stands in it, if it is one that can be read. -/
theorem parse_eq_ok_iff {text : String} {l : Label} :
    parse text = .ok l ↔ l.IsNormal ∧ l.StandsIn text := by
  constructor
  · intro h
    obtain ⟨key, value, htext, hkey⟩ := List.eq_append_cons_of_mem (mem_of_parse h)
    obtain ⟨hne, rfl⟩ := (parse_of_divided htext hkey l).mp h
    obtain ⟨before, beforeEquals, hbefore, hbeforeEquals, hkeySplit⟩ := exists_allBlank_trimmed key
    obtain ⟨afterEquals, after, hafterEquals, hafter, hvalueSplit⟩ := exists_allBlank_trimmed value
    refine ⟨⟨?_, ?_, ?_, ?_⟩, before, beforeEquals, afterEquals, after, hbefore, hbeforeEquals,
      hafterEquals, hafter, ?_⟩
    · simpa using hne
    · rw [String.toList_ofList]
      intro hmem
      apply hkey
      rw [hkeySplit]
      exact List.mem_append_left _ (List.mem_append_right _ hmem)
    · rw [String.toList_ofList]
      exact noBlankEnds_trimmed key
    · rw [String.toList_ofList]
      exact noBlankEnds_trimmed value
    · rw [String.toList_ofList, String.toList_ofList, ← hkeySplit, ← hvalueSplit, htext]
  · rintro ⟨hnormal, before, beforeEquals, afterEquals, after, hbefore, hbeforeEquals,
      hafterEquals, hafter, htext⟩
    -- the text is divided where the label says, since no blank is an equals sign
    have hkey : '=' ∉ before ++ l.key.toList ++ beforeEquals := by
      simp only [List.mem_append, not_or]
      exact ⟨⟨not_mem_of_allBlank hbefore, hnormal.equals_not_mem_key⟩,
        not_mem_of_allBlank hbeforeEquals⟩
    rw [parse_of_divided htext hkey, trimmed_eq hbefore hbeforeEquals hnormal.key_ends,
      trimmed_eq hafterEquals hafter hnormal.value_ends, String.ofList_toList,
      String.ofList_toList]
    exact ⟨fun h => hnormal.key_ne_empty (String.toList_eq_nil_iff.mp h), rfl⟩

/-- A label stands in the text that shows it. -/
theorem standsIn_text (l : Label) : l.StandsIn l.text := by
  refine ⟨[], [], [], [], allBlank_nil, allBlank_nil, allBlank_nil, allBlank_nil, ?_⟩
  simp [text]

/-- A text is read as a label exactly if it has an equals sign and not only blanks before the first
one. -/
theorem exists_parse_eq_ok_iff {text : String} :
    (∃ l, parse text = .ok l) ↔
      '=' ∈ text.toList ∧ ∃ c ∈ text.toList.takeWhile (· != '='), isBlank c = false := by
  by_cases hmem : '=' ∈ text.toList
  · obtain ⟨key, value, htext, hkey⟩ := List.eq_append_cons_of_mem hmem
    have hbefore : text.toList.takeWhile (· != '=') = key := by
      rw [htext, List.takeWhile_append_of_pos]
      · simp
      · intro c hc
        simpa using fun h : c = '=' => hkey (h ▸ hc)
    have hsome : trimmed key ≠ [] ↔ ∃ c ∈ key, isBlank c = false := by
      rw [ne_eq, trimmed_eq_nil_iff]
      simp [AllBlank]
    rw [hbefore, ← hsome]
    simp [parse_of_divided htext hkey, hmem]
  · refine iff_of_false ?_ fun h => hmem h.1
    rintro ⟨l, hl⟩
    exact hmem (mem_of_parse hl)

/-- A text is read as a label exactly if it has an equals sign and something other than blanks before
the first one. The label that is read has a key, the key has no equals sign, no blank begins or ends
the key or the value, and the label makes up the text but for blanks around these two. The text that
shows the label is read as that label again, whatever its value is. -/
theorem readable_texts_have_normal_form (text : String) :
    ((∃ l, parse text = .ok l) ↔
      '=' ∈ text.toList ∧ ∃ c ∈ text.toList.takeWhile (· != '='), isBlank c = false) ∧
    ∀ l, parse text = .ok l →
      l.key ≠ "" ∧ '=' ∉ l.key.toList ∧
      NoBlankEnds l.key.toList ∧ NoBlankEnds l.value.toList ∧
      l.StandsIn text ∧
      parse l.text = .ok l := by
  refine ⟨exists_parse_eq_ok_iff, ?_⟩
  intro l h
  obtain ⟨hnormal, hstands⟩ := parse_eq_ok_iff.mp h
  have hagain : parse l.text = .ok l := parse_eq_ok_iff.mpr ⟨hnormal, l.standsIn_text⟩
  exact ⟨hnormal.key_ne_empty, hnormal.equals_not_mem_key, hnormal.key_ends, hnormal.value_ends,
    hstands, hagain⟩

/-- Blanks of several kinds around a value with an equals sign, and around an empty one. -/
theorem readable_texts_have_normal_form_spaced :
    parse "\u00a0role\t=\u3000a=b \n" = .ok ⟨"role", "a=b"⟩ ∧
      parse "role=a=b" = .ok ⟨"role", "a=b"⟩ ∧
      parse " role = " = .ok ⟨"role", ""⟩ ∧
      parse "role=" = .ok ⟨"role", ""⟩ := by
  have hspaced : parse "\u00a0role\t=\u3000a=b \n" = .ok ⟨"role", "a=b"⟩ := by rfl
  have hempty : parse " role = " = .ok ⟨"role", ""⟩ := by rfl
  obtain ⟨-, -, -, -, -, hagain⟩ := (readable_texts_have_normal_form _).2 _ hspaced
  obtain ⟨-, -, -, -, -, hagainEmpty⟩ := (readable_texts_have_normal_form _).2 _ hempty
  exact ⟨hspaced, hagain, hempty, hagainEmpty⟩

end Label

end LunConsole
