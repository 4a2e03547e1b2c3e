import Mathlib.Algebra.Group.Nat.Defs
import Mathlib.Data.List.Basic
import Mathlib.Data.List.TakeWhile
import Rollout.Cli.Duration

/-!
# The texts of durations

A duration is written as decimal digits, with a plus sign before them or none and a unit behind them
or none, between any blanks. This says which texts are read as a duration and which are refused. One
kind of text is neither: a number of minutes that fits in 64 bits but has no number of seconds that
does.

## Main statements

- `Text.trimList_eq_iff`: what is left of a text between blanks.
- `Text.word?_eq_some_iff`: which texts are numbers of 64 bits.
- `Cli.readDuration_eq_seconds_iff`, `Cli.readDuration_eq_overflows_iff`,
  `Cli.readDuration_eq_refused_iff`: what is read of a text.
-/

namespace Rollout

namespace Text

variable {cs core digits : List Char} {n : Nat}

/-! ## Texts between blanks -/

/-- What is dropped meets the condition, and what is left does not begin with it. -/
theorem exists_append_dropWhile {α : Type} (p : α → Bool) (l : List α) :
    ∃ dropped, l = dropped ++ l.dropWhile p ∧ (∀ a ∈ dropped, p a = true) ∧
      ∀ a ∈ (l.dropWhile p).head?, p a = false := by
  refine ⟨l.takeWhile p, List.takeWhile_append_dropWhile.symm, fun _ => List.mem_takeWhile_imp,
    fun a ha => ?_⟩
  have hhead := List.head?_dropWhile_not p l
  rw [ha] at hhead
  exact hhead

/-- What meets the condition before a list that does not begin with it is what is dropped. -/
theorem dropWhile_append_of_head? {α : Type} {p : α → Bool} {dropped l : List α}
    (hdropped : ∀ a ∈ dropped, p a = true) (hhead : ∀ a ∈ l.head?, p a = false) :
    (dropped ++ l).dropWhile p = l := by
  rw [List.dropWhile_append_of_pos hdropped]
  cases l with
  | nil => rfl
  | cons a l => exact List.dropWhile_cons_of_neg (by simp [hhead a rfl])

/-- Characters that neither begin nor end with a blank are left of a text exactly if there is
nothing but blanks around them. -/
theorem trimList_eq_iff (hhead : ∀ c ∈ core.head?, isBlank c = false)
    (hlast : ∀ c ∈ core.getLast?, isBlank c = false) : trimList cs = core ↔
      ∃ before after, cs = before ++ core ++ after ∧ (∀ c ∈ before, isBlank c = true) ∧
        ∀ c ∈ after, isBlank c = true := by
  constructor
  · -- What was dropped on either side are the blanks around.
    rintro rfl
    obtain ⟨before, hbefore, hblank, -⟩ := exists_append_dropWhile isBlank cs
    obtain ⟨after, hafter, hblank', -⟩ :=
      exists_append_dropWhile isBlank (cs.dropWhile isBlank).reverse
    refine ⟨before, after.reverse, ?_, hblank, fun c hc => hblank' c (List.mem_reverse.mp hc)⟩
    have hrest : cs.dropWhile isBlank = trimList cs ++ after.reverse := by
      rw [trimList, ← List.reverse_append, ← hafter, List.reverse_reverse]
    rw [List.append_assoc, ← hrest, ← hbefore]
  · rintro ⟨before, after, rfl, hbefore, hafter⟩
    cases core with
    | nil =>
      -- The blanks in front and behind can't be told apart: all are dropped at once.
      have hall : ∀ c ∈ before ++ [] ++ after, isBlank c = true := by
        simpa [or_imp, forall_and] using ⟨hbefore, hafter⟩
      rw [trimList, List.dropWhile_eq_nil_iff.mpr hall]
      rfl
    | cons c core =>
      -- The characters begin with no blank, so only those in front are dropped, and so it is from
      -- behind.
      have hfront : (before ++ (c :: core) ++ after).dropWhile isBlank = (c :: core) ++ after := by
        rw [List.append_assoc]
        exact dropWhile_append_of_head? hbefore (by simpa using hhead)
      have hback : ((c :: core) ++ after).reverse.dropWhile isBlank = (c :: core).reverse := by
        rw [List.reverse_append]
        refine dropWhile_append_of_head? (by simpa using hafter) ?_
        rwa [List.head?_reverse]
      rw [trimList, hfront, hback, List.reverse_reverse]

/-! ## Numbers -/

/-- Characters that write a number: digits, with a plus sign before them or none. -/
inductive Numeral : List Char → Nat → Prop where
  | plain {digits : List Char} (hne : digits ≠ []) (hdigits : ∀ c ∈ digits, c.isDigit = true) :
      Numeral digits (Nat.ofDigitChars 10 digits 0)
  | signed {digits : List Char} (hne : digits ≠ []) (hdigits : ∀ c ∈ digits, c.isDigit = true) :
      Numeral ('+' :: digits) (Nat.ofDigitChars 10 digits 0)

/-- Digits are read as the number that they write, if there are any. -/
theorem digits?_eq_some_iff : digits? digits = some n ↔
    digits ≠ [] ∧ (∀ c ∈ digits, c.isDigit = true) ∧ n = Nat.ofDigitChars 10 digits 0 := by
  have hvalue : digits.foldl (fun n c => n * 10 + (c.toNat - '0'.toNat)) 0 =
      Nat.ofDigitChars 10 digits 0 := by
    rw [Nat.ofDigitChars_eq_foldl]
    simp only [Nat.mul_comm]
  unfold digits?
  rw [hvalue]
  generalize Nat.ofDigitChars 10 digits 0 = value
  split
  · -- There is none, or a character that is no digit.
    rename_i hnone
    simp only [Bool.or_eq_true, List.isEmpty_iff, Bool.not_eq_true', List.all_eq_false] at hnone
    refine iff_of_false nofun fun ⟨hne, hdigits, _⟩ => ?_
    obtain hempty | ⟨c, hc, hno⟩ := hnone
    · exact hne hempty
    · exact hno (hdigits c hc)
  · rename_i hsome
    simp only [Bool.or_eq_true, List.isEmpty_iff, Bool.not_eq_true', not_or,
      Bool.not_eq_false, List.all_eq_true] at hsome
    exact ⟨fun h => ⟨hsome.1, hsome.2, (Option.some.inj h).symm⟩, fun h => h.2.2 ▸ rfl⟩

/-- Without a sign all characters have to be digits. -/
theorem word?_of_head? (h : cs.head? ≠ some '+') :
    word? cs = (digits? cs).filter (· < UInt64.size) := by
  unfold word?
  split
  · exact absurd rfl h
  · rfl

/-- A number of 64 bits is what a numeral writes, if it fits. -/
theorem word?_eq_some_iff : word? cs = some n ↔ Numeral cs n ∧ n < UInt64.size := by
  -- A sign in front is taken off before the digits are read.
  by_cases hsign : cs.head? = some '+'
  · obtain ⟨digits, rfl⟩ : ∃ digits, cs = '+' :: digits := by
      cases cs with
      | nil => cases hsign
      | cons c digits => exact ⟨digits, congrArg (· :: digits) (Option.some.inj hsign)⟩
    show (digits? digits).filter _ = some n ↔ _
    rw [Option.filter_eq_some_iff, digits?_eq_some_iff, decide_eq_true_iff]
    refine and_congr_left fun _ => ⟨fun ⟨hne, hdigits, hn⟩ => hn ▸ .signed hne hdigits, ?_⟩
    -- The sign is no digit, so a numeral that begins with it is a signed one.
    rintro (⟨-, hdigits⟩ | ⟨hne, hdigits⟩)
    · exact absurd (hdigits '+' List.mem_cons_self) (by decide)
    · exact ⟨hne, hdigits, rfl⟩
  · rw [word?_of_head? hsign, Option.filter_eq_some_iff, digits?_eq_some_iff, decide_eq_true_iff]
    refine and_congr_left fun _ => ⟨fun ⟨hne, hdigits, hn⟩ => hn ▸ .plain hne hdigits, ?_⟩
    rintro (⟨hne, hdigits⟩ | -)
    · exact ⟨hne, hdigits, rfl⟩
    · exact absurd rfl hsign

/-- Characters write one number at most. -/
theorem Numeral.unique {m : Nat} (h : Numeral cs n) (h' : Numeral cs m) : n = m := by
  cases h with
  | plain _ hdigits =>
    cases h' with
    | plain => rfl
    | signed => exact absurd (hdigits '+' List.mem_cons_self) (by decide)
  | signed =>
    cases h' with
    | plain _ hdigits => exact absurd (hdigits '+' List.mem_cons_self) (by decide)
    | signed => rfl

/-- A numeral ends with a digit. -/
theorem Numeral.getLast? (h : Numeral cs n) : ∃ c, cs.getLast? = some c ∧ c.isDigit = true := by
  cases h with
  | plain hne hdigits =>
    exact ⟨_, List.getLast?_eq_some_getLast hne, hdigits _ (List.getLast_mem hne)⟩
  | signed hne hdigits =>
    refine ⟨_, ?_, hdigits _ (List.getLast_mem hne)⟩
    rw [List.getLast?_cons_of_ne_nil hne, List.getLast?_eq_some_getLast hne]

/-- A numeral begins with a digit or a plus sign. -/
theorem Numeral.head? (h : Numeral cs n) :
    ∃ c, cs.head? = some c ∧ (c.isDigit = true ∨ c = '+') := by
  cases h with
  | plain hne hdigits =>
    exact ⟨_, List.head?_eq_some_head hne, .inl (hdigits _ (List.head_mem hne))⟩
  | signed hne hdigits => exact ⟨'+', rfl, .inr rfl⟩

/-- A digit is no blank. -/
theorem isBlank_of_isDigit {c : Char} (h : c.isDigit = true) : isBlank c = false := by
  have hrange : 48 ≤ c.toNat ∧ c.toNat ≤ 57 := by
    simp only [Char.isDigit, Bool.and_eq_true, decide_eq_true_eq] at h
    exact h
  simp only [isBlank, inRanges, blankRanges, List.any_cons, List.any_nil, Bool.or_false,
    Bool.or_eq_false_iff, Bool.and_eq_false_iff, decide_eq_false_iff_not]
  omega

end Text

/-! ## Durations -/

namespace Cli

variable {text : String} {count count' n : Nat}

/-- What the count of a duration counts. -/
inductive DurationUnit where
  | seconds
  | minutes
deriving DecidableEq

namespace DurationUnit

/-- How many seconds a unit has. -/
def inSeconds : DurationUnit → Nat
  | seconds => 1
  | minutes => 60

/-- The ways to write a unit. Seconds may go without. -/
def forms : DurationUnit → List (List Char)
  | seconds => [[], ['s']]
  | minutes => [['m']]

end DurationUnit

variable {unit unit' : DurationUnit}

/-- Whether a text says so many of a unit: a numeral and the unit, between blanks. -/
def Says (text : String) (count : Nat) (unit : DurationUnit) : Prop :=
  ∃ before numeral form after, text.toList = before ++ (numeral ++ form) ++ after ∧
    (∀ c ∈ before, Text.isBlank c = true) ∧ (∀ c ∈ after, Text.isBlank c = true) ∧
    Text.Numeral numeral count ∧ form ∈ unit.forms

/-- Blanks around a numeral and its unit are no part of them. -/
theorem trimList_eq_numeral_iff {cs numeral form : List Char}
    (hnumeral : Text.Numeral numeral count) (hform : form ∈ unit.forms) :
    Text.trimList cs = numeral ++ form ↔ ∃ before after, cs = before ++ (numeral ++ form) ++ after ∧
      (∀ c ∈ before, Text.isBlank c = true) ∧ ∀ c ∈ after, Text.isBlank c = true := by
  refine Text.trimList_eq_iff (fun c hc => ?_) fun c hc => ?_
  · -- In front there is a digit or a sign.
    obtain ⟨c', hc', hsign⟩ := hnumeral.head?
    rw [List.head?_append, hc', Option.some_or, Option.mem_some_iff] at hc
    obtain rfl := hc
    rcases hsign with hdigit | rfl
    · exact Text.isBlank_of_isDigit hdigit
    · decide
  · -- Behind there is a digit or the letter of the unit.
    obtain ⟨c', hc', hdigit⟩ := hnumeral.getLast?
    rw [List.getLast?_append, hc'] at hc
    have hcases : c = c' ∨ c = 's' ∨ c = 'm' := by
      cases unit <;>
        simp only [DurationUnit.forms, List.mem_cons, List.not_mem_nil, or_false] at hform
      · rcases hform with rfl | rfl
        · exact .inl (Option.some.inj hc).symm
        · exact .inr (.inl (Option.some.inj hc).symm)
      · subst hform
        exact .inr (.inr (Option.some.inj hc).symm)
    rcases hcases with rfl | rfl | rfl
    · exact Text.isBlank_of_isDigit hdigit
    · decide
    · decide

/-- What a text says is written in what is left between its blanks. -/
theorem says_iff : Says text count unit ↔ ∃ numeral form, Text.Numeral numeral count ∧
    form ∈ unit.forms ∧ Text.trimList text.toList = numeral ++ form := by
  constructor
  · rintro ⟨before, numeral, form, after, htext, hbefore, hafter, hnumeral, hform⟩
    exact ⟨numeral, form, hnumeral, hform,
      (trimList_eq_numeral_iff hnumeral hform).mpr ⟨before, after, htext, hbefore, hafter⟩⟩
  · rintro ⟨numeral, form, hnumeral, hform, htrim⟩
    obtain ⟨before, after, htext, hbefore, hafter⟩ :=
      (trimList_eq_numeral_iff hnumeral hform).mp htrim
    exact ⟨before, numeral, form, after, htext, hbefore, hafter, hnumeral, hform⟩

/-- The numeral and the unit of trimmed characters, if they say a duration at all. -/
def splitUnit (cs : List Char) : List Char × DurationUnit :=
  match cs.getLast? with
  | some 'm' => (cs.dropLast, .minutes)
  | some 's' => (cs.dropLast, .seconds)
  | _ => (cs, .seconds)

/-- A last `m` stands for minutes. -/
theorem splitUnit_of_m {cs : List Char} (h : cs.getLast? = some 'm') :
    splitUnit cs = (cs.dropLast, .minutes) := by
  simp only [splitUnit, h]

/-- A last `s` stands for seconds. -/
theorem splitUnit_of_s {cs : List Char} (h : cs.getLast? = some 's') :
    splitUnit cs = (cs.dropLast, .seconds) := by
  simp only [splitUnit, h]

/-- Without a letter behind them numbers are seconds. -/
theorem splitUnit_of_ne {cs : List Char} (hm : cs.getLast? ≠ some 'm')
    (hs : cs.getLast? ≠ some 's') : splitUnit cs = (cs, .seconds) := by
  unfold splitUnit
  split
  · contradiction
  · contradiction
  · rfl

/-- A numeral and a form of a unit are split there. -/
theorem splitUnit_append {numeral form : List Char} (hnumeral : Text.Numeral numeral count)
    (hform : form ∈ unit.forms) : splitUnit (numeral ++ form) = (numeral, unit) := by
  cases unit with
  | minutes =>
    obtain rfl := List.mem_singleton.mp hform
    rw [splitUnit_of_m (by simp), List.dropLast_concat]
  | seconds =>
    obtain rfl | hform := List.mem_cons.mp hform
    · -- Without a letter the last character is a digit, so it is neither of the two.
      obtain ⟨c, hc, hdigit⟩ := hnumeral.getLast?
      have hne (c' : Char) (hc' : c'.isDigit = false) : numeral.getLast? ≠ some c' := by
        rintro heq
        obtain rfl := Option.some.inj (hc.symm.trans heq)
        exact Bool.false_ne_true (hc'.symm.trans hdigit)
      rw [List.append_nil]
      exact splitUnit_of_ne (hne 'm' (by decide)) (hne 's' (by decide))
    · obtain rfl := List.mem_singleton.mp hform
      rw [splitUnit_of_s (by simp), List.dropLast_concat]

/-- What was split was a numeral and a form of its unit. -/
theorem splitUnit_forms (cs : List Char) :
    ∃ form ∈ (splitUnit cs).2.forms, cs = (splitUnit cs).1 ++ form := by
  by_cases hm : cs.getLast? = some 'm'
  · rw [splitUnit_of_m hm]
    exact ⟨['m'], List.mem_singleton.mpr rfl, (List.dropLast_append_getLast? 'm' hm).symm⟩
  · by_cases hs : cs.getLast? = some 's'
    · rw [splitUnit_of_s hs]
      exact ⟨['s'], List.mem_cons_of_mem [] (List.mem_singleton.mpr rfl),
        (List.dropLast_append_getLast? 's' hs).symm⟩
    · rw [splitUnit_of_ne hm hs]
      exact ⟨[], List.mem_cons_self, (List.append_nil cs).symm⟩

/-- The last character tells the unit. -/
theorem says_iff_splitUnit : Says text count unit ↔
    Text.Numeral (splitUnit (Text.trimList text.toList)).1 count ∧
      (splitUnit (Text.trimList text.toList)).2 = unit := by
  rw [says_iff]
  constructor
  · rintro ⟨numeral, form, hnumeral, hform, htrim⟩
    rw [htrim, splitUnit_append hnumeral hform]
    exact ⟨hnumeral, rfl⟩
  · rintro ⟨hnumeral, rfl⟩
    obtain ⟨form, hform, hcs⟩ := splitUnit_forms (Text.trimList text.toList)
    exact ⟨_, form, hnumeral, hform, hcs⟩

/-- A text says one duration at most. -/
theorem Says.unique (h : Says text count unit) (h' : Says text count' unit') :
    count = count' ∧ unit = unit' := by
  obtain ⟨hnumeral, rfl⟩ := says_iff_splitUnit.mp h
  obtain ⟨hnumeral', rfl⟩ := says_iff_splitUnit.mp h'
  exact ⟨hnumeral.unique hnumeral', rfl⟩

/-- Seconds that were read fit in 64 bits. -/
theorem elim_word?_eq (cs : List Char) : (Text.word? cs).elim .refused .seconds =
    match Text.word? cs with
    | none => DurationReading.refused
    | some n => if n * 1 < UInt64.size then .seconds (n * 1) else .overflows := by
  cases hword : Text.word? cs with
  | none => rfl
  | some n =>
    have hfits := (Text.word?_eq_some_iff.mp hword).2
    simp [hfits]

/-- A text is read by its numeral and its unit. -/
theorem readDuration_eq (text : String) :
    readDuration text = match Text.word? (splitUnit (Text.trimList text.toList)).1 with
      | none => .refused
      | some count =>
        let n := count * (splitUnit (Text.trimList text.toList)).2.inSeconds
        if n < UInt64.size then .seconds n else .overflows := by
  unfold readDuration
  generalize Text.trimList text.toList = cs
  dsimp only
  -- The last character decides how the text is read.
  by_cases hm : cs.getLast? = some 'm'
  · rw [splitUnit_of_m hm, hm]
    cases Text.word? cs.dropLast <;> rfl
  · by_cases hs : cs.getLast? = some 's'
    · rw [splitUnit_of_s hs, hs]
      exact elim_word?_eq cs.dropLast
    · rw [splitUnit_of_ne hm hs]
      refine Eq.trans ?_ (elim_word?_eq cs)
      split
      · contradiction
      · contradiction
      · rfl

/-- What is read of a text: what it says, as far as the count fits in 64 bits. -/
theorem readDuration_cases (text : String) :
    (∃ count unit, Says text count unit ∧ count < 2 ^ 64 ∧ readDuration text =
      if count * unit.inSeconds < 2 ^ 64 then .seconds (count * unit.inSeconds) else .overflows) ∨
    readDuration text = .refused ∧ ∀ count unit, Says text count unit → 2 ^ 64 ≤ count := by
  rw [readDuration_eq]
  cases hword : Text.word? (splitUnit (Text.trimList text.toList)).1 with
  | none =>
    refine .inr ⟨rfl, fun count unit hsays => ?_⟩
    by_contra hlt
    have hsome := Text.word?_eq_some_iff.mpr
      ⟨(says_iff_splitUnit.mp hsays).1, Nat.lt_of_not_le hlt⟩
    rw [hword] at hsome
    cases hsome
  | some count =>
    obtain ⟨hnumeral, hfits⟩ := Text.word?_eq_some_iff.mp hword
    exact .inl ⟨count, _, says_iff_splitUnit.mpr ⟨hnumeral, rfl⟩, hfits, rfl⟩

/-- A count is no more than the seconds that it stands for. -/
theorem DurationUnit.le_mul_inSeconds (count : Nat) (unit : DurationUnit) :
    count ≤ count * unit.inSeconds :=
  Nat.le_mul_of_pos_right count (by cases unit <;> decide)

/-- A text is read as so many seconds just if it says them and they fit in 64 bits. -/
theorem readDuration_eq_seconds_iff : readDuration text = .seconds n ↔
    ∃ count unit, Says text count unit ∧ n = count * unit.inSeconds ∧ n < 2 ^ 64 := by
  rcases readDuration_cases text with ⟨count, unit, hsays, hcount, hread⟩ | ⟨hread, hbig⟩
  · rw [hread]
    constructor
    · intro h
      split at h
      · obtain rfl := DurationReading.seconds.inj h
        exact ⟨count, unit, hsays, rfl, ‹_›⟩
      · cases h
    · rintro ⟨count', unit', hsays', rfl, hfits⟩
      obtain ⟨rfl, rfl⟩ := hsays.unique hsays'
      exact if_pos hfits
  · rw [hread]
    refine iff_of_false nofun ?_
    rintro ⟨count, unit, hsays, rfl, hfits⟩
    -- A count that does not fit stands for no fewer seconds.
    have hle := hbig count unit hsays
    have hle' := DurationUnit.le_mul_inSeconds count unit
    omega

/-- Reading a text overflows just if its count fits in 64 bits and its seconds do not. -/
theorem readDuration_eq_overflows_iff : readDuration text = .overflows ↔
    ∃ count unit, Says text count unit ∧ count < 2 ^ 64 ∧ 2 ^ 64 ≤ count * unit.inSeconds := by
  rcases readDuration_cases text with ⟨count, unit, hsays, hcount, hread⟩ | ⟨hread, hbig⟩
  · rw [hread]
    constructor
    · intro h
      split at h
      · cases h
      · exact ⟨count, unit, hsays, hcount, Nat.le_of_not_lt ‹_›⟩
    · rintro ⟨count', unit', hsays', -, hover⟩
      obtain ⟨rfl, rfl⟩ := hsays.unique hsays'
      exact if_neg (Nat.not_lt_of_le hover)
  · rw [hread]
    refine iff_of_false nofun ?_
    rintro ⟨count, unit, hsays, hcount, -⟩
    exact Nat.not_lt_of_le (hbig count unit hsays) hcount

/-- A text is refused just if it says no duration whose count fits in 64 bits. -/
theorem readDuration_eq_refused_iff : readDuration text = .refused ↔
    ∀ count unit, Says text count unit → 2 ^ 64 ≤ count := by
  rcases readDuration_cases text with ⟨count, unit, hsays, hcount, hread⟩ | ⟨hread, hbig⟩
  · rw [hread]
    refine iff_of_false (by split <;> nofun) fun hbig => ?_
    exact Nat.not_lt_of_le (hbig count unit hsays) hcount
  · exact iff_of_true hread hbig

end Cli

end Rollout
