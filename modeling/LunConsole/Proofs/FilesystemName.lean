import LunConsole.Resource.FilesystemClaim
import Mathlib.Computability.RegularExpressions
import Mathlib.Data.String.Basic
/-!
# Names of filesystems

A filesystem may have a label of the domain name system for its name. The form of these is given by
a regular expression, `[a-z0-9]([-a-z0-9]*[a-z0-9])?`, and by a length of at most 63 characters. The
check of a name has neither: it is four rules, one after the other, about emptiness, about the
length in bytes, about the characters that may occur, and about the two ends.

That the rules add up to the expression is shown by saying of the expression what the rules say of a
name (`mem_dnsLabel_iff`): there is a character, all are of the larger class, and the first and the
last are of the smaller one. A name with one character is the reason why the expression has a part
that may be left out, and the rules need no such thing, since its two ends are the same.

Bytes and characters are not the same in general, and the length is looked at before the characters
are. It does no harm: a name that has other characters than the ASCII ones in question is refused
either way, and in the rest a character is a byte (`utf8ByteSize_eq_length`).
-/

set_option autoImplicit false

namespace LunConsole.FilesystemClaim

/-! ## 1. The form of a name -/

/-- Any one of these characters. -/
def anyOf (cs : List Char) : RegularExpression Char := (cs.map .char).sum

/-- The letters and digits that a name may have. -/
def lettersAndDigits : List Char := "abcdefghijklmnopqrstuvwxyz0123456789".toList

/-- The labels of the domain name system, their length aside: `[a-z0-9]([-a-z0-9]*[a-z0-9])?`. -/
def dnsLabel : RegularExpression Char :=
  anyOf lettersAndDigits
    * (1 + (anyOf ('-' :: lettersAndDigits)).star * anyOf lettersAndDigits)

theorem mem_anyOf_iff {cs s : List Char} : s ∈ (anyOf cs).matches' ↔ ∃ c ∈ cs, s = [c] := by
  rw [anyOf]
  induction cs with
  | nil => simp
  | cons d cs ih =>
      rw [List.map_cons, List.sum_cons, RegularExpression.matches'_add, Language.mem_add, ih,
        RegularExpression.matches'_char, List.exists_mem_cons_iff]
      rfl

theorem mem_star_anyOf_iff {cs s : List Char} :
    s ∈ (anyOf cs).star.matches' ↔ ∀ c ∈ s, c ∈ cs := by
  rw [RegularExpression.matches'_star, Language.mem_kstar]
  constructor
  · rintro ⟨parts, rfl, hparts⟩ c hc
    obtain ⟨part, hpart, hmem⟩ := List.mem_flatten.mp hc
    obtain ⟨d, hd, rfl⟩ := mem_anyOf_iff.mp (hparts part hpart)
    rw [List.mem_singleton.mp hmem]
    exact hd
  · intro hall
    refine ⟨s.map fun c => [c], ?_, ?_⟩
    · rw [← List.flatMap_def, List.flatMap_singleton']
    · intro part hpart
      obtain ⟨c, hc, rfl⟩ := List.mem_map.mp hpart
      exact mem_anyOf_iff.mpr ⟨c, hall c hc, rfl⟩

/-- A name of that form is one character, or one at either end and others in between. -/
theorem mem_dnsLabel_iff_parts {s : List Char} :
    s ∈ dnsLabel.matches' ↔ ∃ c ∈ lettersAndDigits, s = [c] ∨
      ∃ middle, (∀ e ∈ middle, e ∈ '-' :: lettersAndDigits) ∧
        ∃ d ∈ lettersAndDigits, s = c :: (middle ++ [d]) := by
  simp only [dnsLabel, RegularExpression.matches'_mul, RegularExpression.matches'_add,
    RegularExpression.matches'_epsilon, Language.mem_mul, Language.mem_add, Language.mem_one,
    mem_star_anyOf_iff, mem_anyOf_iff]
  constructor
  · rintro ⟨_, ⟨c, hc, rfl⟩, _, rfl | ⟨middle, hmiddle, _, ⟨d, hd, rfl⟩, rfl⟩, rfl⟩
    · exact ⟨c, hc, .inl rfl⟩
    · exact ⟨c, hc, .inr ⟨middle, hmiddle, d, hd, rfl⟩⟩
  · rintro ⟨c, hc, rfl | ⟨middle, hmiddle, d, hd, rfl⟩⟩
    · exact ⟨[c], ⟨c, hc, rfl⟩, [], .inl rfl, rfl⟩
    · exact ⟨[c], ⟨c, hc, rfl⟩, middle ++ [d],
        .inr ⟨middle, hmiddle, [d], ⟨d, hd, rfl⟩, rfl⟩, rfl⟩

/-- **The form in words**: there is a character, all of them are letters, digits and hyphens, and
neither the first nor the last one is a hyphen. -/
theorem mem_dnsLabel_iff {s : List Char} :
    s ∈ dnsLabel.matches' ↔ s ≠ [] ∧ (∀ c ∈ s, c ∈ '-' :: lettersAndDigits) ∧
      s.head? ≠ some '-' ∧ s.getLast? ≠ some '-' := by
  have hhyphen {c : Char} (hc : c ∈ lettersAndDigits) : c ≠ '-' := by
    rintro rfl
    revert hc
    decide +kernel
  rw [mem_dnsLabel_iff_parts]
  constructor
  · rintro ⟨c, hc, rfl | ⟨middle, hmiddle, d, hd, rfl⟩⟩
    · simp [hc, hhyphen hc]
    · refine ⟨List.cons_ne_nil _ _, ?_, ?_, ?_⟩
      · intro e he
        rcases List.mem_cons.mp he with rfl | he
        · exact List.mem_cons_of_mem _ hc
        · rcases List.mem_append.mp he with he | he
          · exact hmiddle e he
          · rw [List.mem_singleton.mp he]
            exact List.mem_cons_of_mem _ hd
      · simpa using hhyphen hc
      · rw [← List.cons_append, List.getLast?_concat]
        simpa using hhyphen hd
  · rintro ⟨hne, hall, hfirst, hlast⟩
    have hinner {c : Char} (hc : c ∈ s) (hchar : c ≠ '-') : c ∈ lettersAndDigits :=
      (List.mem_cons.mp (hall c hc)).resolve_left hchar
    cases s with
    | nil => exact absurd rfl hne
    | cons c rest =>
        have hc : c ≠ '-' := by simpa using hfirst
        refine ⟨c, hinner List.mem_cons_self hc, ?_⟩
        -- a name with a single character has it at both ends
        rcases List.eq_nil_or_concat' rest with rfl | ⟨middle, d, rfl⟩
        · exact .inl rfl
        · have hd : d ≠ '-' := by
            rw [← List.cons_append, List.getLast?_concat] at hlast
            simpa using hlast
          have hmem : d ∈ c :: (middle ++ [d]) := by simp
          refine .inr ⟨middle, ?_, d, hinner hmem hd, rfl⟩
          intro e he
          exact hall e (List.mem_cons_of_mem _ (List.mem_append_left _ he))

/-! ## 2. The rules -/

/-- A character that may stand in a name is an ASCII one. -/
theorem toNat_lt_of_isNameChar {c : Char} (h : isNameChar c = true) : c.toNat < 128 := by
  simp only [isNameChar, Bool.or_eq_true, Bool.and_eq_true, decide_eq_true_eq, beq_iff_eq] at h
  rcases h with (⟨-, hletter⟩ | hdigit) | rfl
  · have hle : c.toNat ≤ 122 := hletter
    omega
  · have hle : c.toNat ≤ 57 := by
      simp only [Char.isDigit, Bool.and_eq_true, decide_eq_true_eq] at hdigit
      exact hdigit.2
    omega
  · decide

/-- **The characters** are the same. -/
theorem isNameChar_iff {c : Char} : isNameChar c = true ↔ c ∈ '-' :: lettersAndDigits := by
  constructor
  · intro h
    -- there are few ASCII characters, so they can be gone through
    have hascii : ∀ n < 128, isNameChar (Char.ofNat n) = true →
        Char.ofNat n ∈ '-' :: lettersAndDigits := by decide +kernel
    have hmem := hascii c.toNat (toNat_lt_of_isNameChar h)
    rw [Char.ofNat_toNat] at hmem
    exact hmem h
  · have hlisted : ('-' :: lettersAndDigits).all isNameChar = true := by decide +kernel
    exact List.all_eq_true.mp hlisted c

theorem utf8Size_of_isNameChar {c : Char} (h : isNameChar c = true) : c.utf8Size = 1 := by
  have hlt : c.toNat < 128 := toNat_lt_of_isNameChar h
  have hle : c.val.toNat ≤ 127 := Nat.le_of_lt_succ hlt
  exact Char.utf8Size_eq_one_iff.mpr (UInt32.le_iff_toNat_le.mpr hle)

theorem utf8Len_of_isNameChar {s : List Char} (h : ∀ c ∈ s, isNameChar c = true) :
    String.utf8Len s = s.length := by
  induction s with
  | nil => rfl
  | cons c s ih =>
      have hrest : ∀ d ∈ s, isNameChar d = true := fun d hd => h d (List.mem_cons_of_mem _ hd)
      rw [String.utf8Len_cons, List.length_cons, ih hrest,
        utf8Size_of_isNameChar (h c List.mem_cons_self)]

/-- **A character is a byte** where all of them may stand in a name. -/
theorem utf8ByteSize_eq_length {name : String} (h : ∀ c ∈ name.toList, isNameChar c = true) :
    name.utf8ByteSize = name.length :=
  calc name.utf8ByteSize = (String.ofList name.toList).utf8ByteSize := by rw [String.ofList_toList]
    _ = String.utf8Len name.toList := String.utf8ByteSize_ofList _
    _ = name.toList.length := utf8Len_of_isNameChar h
    _ = name.length := String.length_toList

/-- A name without a fault keeps all four rules. -/
theorem nameFault?_eq_none_iff {name : String} :
    nameFault? name = none ↔ name.toList ≠ [] ∧ name.utf8ByteSize ≤ maxNameLength ∧
      (∀ c ∈ name.toList, isNameChar c = true) ∧
      name.toList.head? ≠ some '-' ∧ name.toList.getLast? ≠ some '-' := by
  -- a case for each rule, in the order of the check, and one for a name that keeps them all
  simp only [nameFault?]
  split_ifs with hempty hlong hchars hends
  · simp [List.isEmpty_iff.mp hempty]
  · simp [Nat.not_le.mpr hlong]
  · have hother : ¬ ∀ c ∈ name.toList, isNameChar c = true := by simpa using hchars
    simp [hother]
  · have hhyphen : ¬ (name.toList.head? ≠ some '-' ∧ name.toList.getLast? ≠ some '-') := by
      simpa [or_iff_not_imp_left] using hends
    simp [hhyphen]
  · simp_all

/-- The length is looked at before the characters: 32 of two bytes each are too long already. -/
example : nameFault? (String.ofList (List.replicate 32 '\u00e4'))
    = some "must be no more than 63 characters" := by decide +kernel

/-- **A name that is accepted** has the form and the length. -/
theorem validateName_eq_ok_iff {name : String} :
    validateName name = .ok () ↔ name.toList ∈ dnsLabel.matches' ∧ name.length ≤ 63 := by
  have hchars : (∀ c ∈ name.toList, c ∈ '-' :: lettersAndDigits)
      ↔ ∀ c ∈ name.toList, isNameChar c = true := by
    simp only [isNameChar_iff]
  have hfault : validateName name = .ok () ↔ nameFault? name = none := by
    rw [validateName]
    cases nameFault? name with
    | none => simp
    | some reason => simp
  rw [hfault, nameFault?_eq_none_iff, mem_dnsLabel_iff, hchars]
  -- the bytes are the characters either way, for the characters are of the class either way
  constructor
  · rintro ⟨hne, hlength, hall, hends⟩
    rw [utf8ByteSize_eq_length hall] at hlength
    exact ⟨⟨hne, hall, hends⟩, hlength⟩
  · rintro ⟨⟨hne, hall, hends⟩, hlength⟩
    rw [← utf8ByteSize_eq_length hall] at hlength
    exact ⟨hne, hlength, hall, hends⟩

/-- A name is accepted exactly if it is a label of the domain name system: it matches
`[a-z0-9]([-a-z0-9]*[a-z0-9])?` as a whole and has at most 63 characters. Every other text is
refused as a bad name, and the refusal carries that text. -/
theorem names_accepted_are_dns_labels (name : String) :
    (validateName name = .ok () ↔ name.toList ∈ dnsLabel.matches' ∧ name.length ≤ 63) ∧
      ((∃ reason, validateName name = .error (.invalidFilesystemName name reason)) ↔
        ¬ (name.toList ∈ dnsLabel.matches' ∧ name.length ≤ 63)) := by
  refine ⟨validateName_eq_ok_iff, ?_⟩
  rw [← validateName_eq_ok_iff, validateName]
  cases nameFault? name with
  | none => simp
  | some reason => simp

end LunConsole.FilesystemClaim
