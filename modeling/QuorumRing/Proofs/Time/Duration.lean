import Mathlib
import QuorumRing.Proofs.Text.Numerals
import QuorumRing.Time.Duration

/-!
# What is read as a duration

`Duration.Reads` says which texts are durations, and what is wrong with the others. The unit is looked
for first: `ms` where the text ends in it, and else the last character. Then the number in front of it
is read, and only then is the unit looked at, so that a text with a bad number and a bad unit is refused
for the number. No number ends in the letter `m`, so that `ms` at the end can be nothing but
milliseconds.
-/

namespace QuorumRing

namespace Text

/-- What is left of `s` without the white space at its ends. -/
structure Trimmed (s t : List Char) : Prop where
  /-- Only white space was taken away, ... -/
  around : ∃ front back, s = front ++ t ++ back ∧ (∀ c ∈ front, isBlank c = true) ∧
    ∀ c ∈ back, isBlank c = true
  /-- ... and there is no more in front of what is left ... -/
  first : ∀ c ∈ t.head?, isBlank c = false
  /-- ... or behind it. -/
  last : ∀ c ∈ t.getLast?, isBlank c = false

theorem trimmed_trim (s : List Char) : Trimmed s (trim s) := by
  have hnotBlank : ∀ (l : List Char), ∀ c ∈ (l.dropWhile isBlank).head?, isBlank c = false := by
    intro l c hc
    have hhead := List.head?_dropWhile_not isBlank l
    rw [Option.mem_def.1 hc] at hhead
    exact hhead
  have hfront : s = s.takeWhile isBlank ++ s.dropWhile isBlank := List.takeWhile_append_dropWhile.symm
  have hback : s.dropWhile isBlank =
      trim s ++ ((s.dropWhile isBlank).reverse.takeWhile isBlank).reverse := by
    rw [trim, trimEnd, ← List.reverse_append, List.takeWhile_append_dropWhile, List.reverse_reverse]
  constructor
  case around =>
    refine ⟨s.takeWhile isBlank, ((s.dropWhile isBlank).reverse.takeWhile isBlank).reverse, ?_, ?_, ?_⟩
    · rw [List.append_assoc, ← hback, ← hfront]
    · intro c hc
      exact List.mem_takeWhile_imp hc
    · intro c hc
      exact List.mem_takeWhile_imp (List.mem_reverse.1 hc)
  case first =>
    intro c hc
    refine hnotBlank s c ?_
    rw [hback, List.head?_append, Option.mem_def.1 hc]
    rfl
  case last =>
    intro c hc
    refine hnotBlank (s.dropWhile isBlank).reverse c ?_
    rwa [trim, trimEnd, List.getLast?_reverse] at hc

end Text

namespace Duration

open Numeral

variable {text number unit : List Char} {n scale : Nat} {c : Char} {d d' : Duration}

/-! ## The unit -/

/-- The unit is `ms` where the text ends in it, and else the last character. -/
def Cut (text number unit : List Char) : Prop :=
  text = number ++ unit ∧ (unit = ['m', 's'] ∨ ¬ ['m', 's'] <:+ text ∧ ∃ c, unit = [c])

theorem exists_cut (h : text ≠ []) : ∃ number unit, Cut text number unit := by
  by_cases hms : ['m', 's'] <:+ text
  · obtain ⟨number, rfl⟩ := hms
    exact ⟨number, _, rfl, .inl rfl⟩
  · exact ⟨text.dropLast, [text.getLast h], (List.dropLast_concat_getLast h).symm, .inr ⟨hms, _, rfl⟩⟩

theorem splitUnit_of_cut (h : Cut text number unit) : splitUnit text = (number, unit) := by
  obtain ⟨rfl, rfl | ⟨hms, c, rfl⟩⟩ := h
  · have hms : ['m', 's'] <:+ number ++ ['m', 's'] := List.suffix_append _ _
    rw [splitUnit, if_pos hms]
    simp
  · rw [splitUnit, if_neg hms]
    simp

/-- The last character of a numeral is a digit. -/
theorem exists_digit_of_isNumeral (h : IsNumeral number n) :
    ∃ front c, number = front ++ [c] ∧ c.isDigit = true := by
  obtain ⟨digits, hnumber, hne, hdigits, -⟩ := h
  have hlast := hdigits _ (List.getLast_mem hne)
  have hdigits := (List.dropLast_concat_getLast hne).symm
  rcases hnumber with rfl | rfl
  · exact ⟨_, _, hdigits, hlast⟩
  · exact ⟨'+' :: digits.dropLast, _, congrArg ('+' :: ·) hdigits, hlast⟩

/-- The units, with their lengths in nanoseconds. -/
def units : List (List Char × Nat) :=
  [(['m', 's'], 10 ^ 6), (['s'], 10 ^ 9), (['m'], 60 * 10 ^ 9), (['h'], 3600 * 10 ^ 9)]

theorem cut_of_isNumeral (hnumber : IsNumeral number n) (hunit : (unit, scale) ∈ units) :
    Cut (number ++ unit) number unit := by
  obtain ⟨front, c, rfl, hc⟩ := exists_digit_of_isNumeral hnumber
  have hm : c ≠ 'm' := by
    rintro rfl
    exact absurd hc (by decide)
  simp only [units, List.mem_cons, Prod.mk.injEq, List.not_mem_nil, or_false] at hunit
  refine ⟨rfl, ?_⟩
  rcases hunit with ⟨rfl, -⟩ | ⟨rfl, -⟩ | ⟨rfl, -⟩ | ⟨rfl, -⟩
  case inl => exact .inl rfl
  all_goals
    refine .inr ⟨?_, _, rfl⟩
    rintro ⟨before, hbefore⟩
    have hreverse := congrArg List.reverse hbefore
    simp at hreverse
  exact hm hreverse.1.symm

/-! ## The length -/

/-- The duration lasts so many nanoseconds, and its seconds are full. -/
structure Lasts (d : Duration) (nanos : Nat) : Prop where
  /-- What is left over is less than a second. -/
  full : d.nanos.toNat < 10 ^ 9
  /-- The seconds and what is left over. -/
  total : d.seconds.toNat * 10 ^ 9 + d.nanos.toNat = nanos

theorem Lasts.unique {nanos : Nat} (h : Lasts d nanos) (h' : Lasts d' nanos) : d = d' := by
  obtain ⟨hfull, htotal⟩ := h
  obtain ⟨hfull', htotal'⟩ := h'
  have hseconds : d.seconds = d'.seconds := UInt64.toNat_inj.1 (by omega)
  have hnanos : d.nanos = d'.nanos := UInt32.toNat_inj.1 (by omega)
  cases d
  cases d'
  simp_all

theorem lasts_ofMillis (n : UInt64) : Lasts (ofMillis n) (n.toNat * 10 ^ 6) := by
  have hnanos : (ofMillis n).nanos.toNat = n.toNat % 1000 * 10 ^ 6 := by
    rw [ofMillis, UInt32.toNat_mul, UInt64.toNat_toUInt32, UInt64.toNat_mod]
    have hrest : n.toNat % 1000 < 1000 := Nat.mod_lt _ (by decide)
    have hthousand : (1000 : UInt64).toNat = 1000 := rfl
    have hmillion : (1000000 : UInt32).toNat = 10 ^ 6 := rfl
    rw [hthousand, hmillion]
    omega
  have hseconds : (ofMillis n).seconds.toNat = n.toNat / 1000 := UInt64.toNat_div _ _
  constructor
  · rw [hnanos]
    omega
  · rw [hseconds, hnanos]
    omega

theorem lasts_ofSeconds (n : UInt64) : Lasts (ofSeconds n) (n.toNat * 10 ^ 9) :=
  ⟨Nat.pow_pos (by decide), Nat.add_zero _⟩

/-- The number of minutes or hours in front of the unit can be counted in seconds. -/
def Countable (text : List Char) : Prop :=
  ∀ number n, IsNumeral number n → n < 2 ^ 64 →
    (text = number ++ ['m'] → n * 60 < 2 ^ 64) ∧ (text = number ++ ['h'] → n * 3600 < 2 ^ 64)

theorem exists_ofUnit? (hcountable : Countable (number ++ unit)) (hnumber : IsNumeral number n)
    (hn : n < 2 ^ 64) (hunit : (unit, scale) ∈ units) :
    ∃ d, ofUnit? n.toUInt64 unit = some d ∧ Lasts d (n * scale) := by
  have hword : n.toUInt64.toNat = n := by
    rw [Nat.toUInt64, UInt64.toNat_ofNat', Nat.mod_eq_of_lt hn]
  obtain ⟨hminutes, hhours⟩ := hcountable number n hnumber hn
  have hscaled : ∀ k : UInt64, n * k.toNat < 2 ^ 64 →
      Lasts (ofSeconds (n.toUInt64 * k)) (n * (k.toNat * 10 ^ 9)) := by
    intro k hk
    have hlasts := lasts_ofSeconds (n.toUInt64 * k)
    rwa [UInt64.toNat_mul, hword, Nat.mod_eq_of_lt hk, Nat.mul_assoc] at hlasts
  simp only [units, List.mem_cons, Prod.mk.injEq, List.not_mem_nil, or_false] at hunit
  rcases hunit with ⟨rfl, rfl⟩ | ⟨rfl, rfl⟩ | ⟨rfl, rfl⟩ | ⟨rfl, rfl⟩
  · have hlasts := lasts_ofMillis n.toUInt64
    rw [hword] at hlasts
    exact ⟨_, rfl, hlasts⟩
  · have hlasts := lasts_ofSeconds n.toUInt64
    rw [hword] at hlasts
    exact ⟨_, rfl, hlasts⟩
  · exact ⟨_, rfl, hscaled 60 (hminutes rfl)⟩
  · exact ⟨_, rfl, hscaled 3600 (hhours rfl)⟩

theorem ofUnit?_of_notMem (n : UInt64) (h : c ∉ ['s', 'm', 'h']) : ofUnit? n [c] = none := by
  simp only [List.mem_cons, List.not_mem_nil, or_false, not_or] at h
  unfold ofUnit?
  split <;> simp_all

/-! ## The grammar -/

/-- What a text without white space at its ends is read as. -/
inductive Reads (text : List Char) : Except Error Duration → Prop where
  /-- There is nothing. -/
  | empty (h : text = []) : Reads text (.error (.invalidConfig "empty duration"))
  /-- What stands in front of the unit is no number, or too large. -/
  | invalid {number unit : List Char} (hcut : Cut text number unit)
      (hbad : ∀ n < 2 ^ 64, ¬ IsNumeral number n) :
      Reads text (.error (.invalidConfig ("invalid duration: " ++ String.ofList text)))
  /-- It is a number, but the last character is no unit. -/
  | unknown {number : List Char} {c : Char} {n : Nat} (hcut : Cut text number [c])
      (hnumber : IsNumeral number n) (hn : n < 2 ^ 64) (hunit : c ∉ ['s', 'm', 'h']) :
      Reads text (.error (.invalidConfig ("unknown duration unit: " ++ String.singleton c)))
  /-- A number and a unit, with nothing in between. -/
  | duration {number unit : List Char} {n scale : Nat} {d : Duration} (htext : text = number ++ unit)
      (hnumber : IsNumeral number n) (hn : n < 2 ^ 64) (hunit : (unit, scale) ∈ units)
      (hlasts : Lasts d (n * scale)) : Reads text (.ok d)

theorem ne_nil_of_cut (h : Cut text number unit) : text ≠ [] := by
  obtain ⟨rfl, rfl | ⟨-, c, rfl⟩⟩ := h <;> simp

theorem ofTrimmed_of_bad (hcut : Cut text number unit) (hbad : ∀ n < 2 ^ 64, ¬ IsNumeral number n) :
    ofTrimmed text = .error (.invalid (String.ofList text)) := by
  rw [ofTrimmed, if_neg (ne_nil_of_cut hcut), splitUnit_of_cut hcut]
  dsimp only
  cases hread : natural UInt64.size number with
  | error => rfl
  | ok n =>
    obtain ⟨hnumber, hn⟩ := (natural_eq_ok_iff (by decide)).1 hread
    exact absurd hnumber (hbad n hn)

theorem ofTrimmed_of_isNumeral (hcut : Cut text number unit) (hnumber : IsNumeral number n)
    (hn : n < 2 ^ 64) : ofTrimmed text =
      (ofUnit? n.toUInt64 unit).elim (.error (.unknownUnit (String.ofList unit))) .ok := by
  have hread : natural UInt64.size number = .ok n := (natural_eq_ok_iff (by decide)).2 ⟨hnumber, hn⟩
  rw [ofTrimmed, if_neg (ne_nil_of_cut hcut), splitUnit_of_cut hcut]
  dsimp only
  rw [hread]
  dsimp only
  cases ofUnit? n.toUInt64 unit with
  | none => rfl
  | some duration => rfl

/-- What the grammar allows is what is read. -/
theorem ofTrimmed_of_reads (hcountable : Countable text) {outcome : Except Error Duration}
    (h : Reads text outcome) :
    (ofTrimmed text).mapError (fun problem => .invalidConfig problem.message) = outcome := by
  cases h with
  | empty h =>
    subst h
    rfl
  | invalid hcut hbad =>
    rw [ofTrimmed_of_bad hcut hbad]
    rfl
  | unknown hcut hnumber hn hunit =>
    rw [ofTrimmed_of_isNumeral hcut hnumber hn, ofUnit?_of_notMem _ hunit]
    rfl
  | duration htext hnumber hn hunit hlasts =>
    subst htext
    obtain ⟨d, hd, hlasts'⟩ := exists_ofUnit? hcountable hnumber hn hunit
    rw [ofTrimmed_of_isNumeral (cut_of_isNumeral hnumber hunit) hnumber hn, hd,
      hlasts'.unique hlasts]
    rfl

/-- Every text is read in one of the ways. -/
theorem exists_reads (hcountable : Countable text) : ∃ outcome, Reads text outcome := by
  by_cases hempty : text = []
  · exact ⟨_, .empty hempty⟩
  · obtain ⟨number, unit, hcut⟩ := exists_cut hempty
    by_cases hnumeral : ∃ n < 2 ^ 64, IsNumeral number n
    · obtain ⟨n, hn, hnumber⟩ := hnumeral
      by_cases hunit : ∃ scale, (unit, scale) ∈ units
      · obtain ⟨scale, hunit⟩ := hunit
        obtain ⟨rfl, -⟩ := hcut
        obtain ⟨d, -, hlasts⟩ := exists_ofUnit? hcountable hnumber hn hunit
        exact ⟨_, .duration rfl hnumber hn hunit hlasts⟩
      · have hsingle : ∃ c, unit = [c] := by
          rcases hcut.2 with rfl | ⟨-, hsingle⟩
          · exact absurd ⟨_, List.mem_cons_self⟩ hunit
          · exact hsingle
        obtain ⟨c, rfl⟩ := hsingle
        refine ⟨_, .unknown hcut hnumber hn fun hc => hunit ?_⟩
        simp only [List.mem_cons, List.not_mem_nil, or_false] at hc
        rcases hc with rfl | rfl | rfl <;> simp [units]
    · exact ⟨_, .invalid hcut fun n hn hnumber => hnumeral ⟨n, hn, hnumber⟩⟩

theorem millis_of_lasts {nanos : Nat} (h : Lasts d nanos) : d.millis = nanos / 10 ^ 6 := by
  have htotal : d.seconds.toNat * 1000 * 10 ^ 6 + d.nanos.toNat = nanos := by
    rw [← h.total]
    ring
  rw [← htotal, Nat.mul_comm, Nat.mul_add_div (Nat.pow_pos (by decide))]
  rfl

/-- What is read as a duration begins with a number. -/
theorem exists_isNumeral_of_parse {text : String} (h : parse text = .ok d) :
    ∃ number unit n, Text.trim text.toList = number ++ unit ∧ IsNumeral number n := by
  by_cases hempty : Text.trim text.toList = []
  · rw [parse, hempty] at h
    simp [ofTrimmed, Except.mapError] at h
  · obtain ⟨number, unit, hcut⟩ := exists_cut hempty
    by_contra hnone
    have hbad : ∀ n < 2 ^ 64, ¬ IsNumeral number n := fun n _ hn =>
      hnone ⟨number, unit, n, hcut.1, hn⟩
    rw [parse, ofTrimmed_of_bad hcut hbad] at h
    simp [Except.mapError] at h

theorem dvd_of_mem_units (hunit : (unit, scale) ∈ units) : 10 ^ 6 ∣ scale := by
  simp only [units, List.mem_cons, Prod.mk.injEq, List.not_mem_nil, or_false] at hunit
  rcases hunit with ⟨-, rfl⟩ | ⟨-, rfl⟩ | ⟨-, rfl⟩ | ⟨-, rfl⟩ <;> norm_num

/-- A duration has as many milliseconds as the number and the unit say. -/
theorem millis_of_parse {text : String} (hcountable : Countable (Text.trim text.toList))
    (h : parse text = .ok d) : ∃ number n unit scale, Text.trim text.toList = number ++ unit ∧
      IsNumeral number n ∧ (unit, scale) ∈ units ∧ d.millis * 10 ^ 6 = n * scale := by
  obtain ⟨outcome, hreads⟩ := exists_reads hcountable
  obtain rfl : .ok d = outcome := h.symm.trans (ofTrimmed_of_reads hcountable hreads)
  cases hreads with
  | @duration number unit n scale _ htext hnumber hn hunit hlasts =>
    refine ⟨number, n, unit, scale, htext, hnumber, hunit, ?_⟩
    rw [millis_of_lasts hlasts, Nat.div_mul_cancel ((dvd_of_mem_units hunit).mul_left n)]

/-- The text is cut in bytes: the last character ends where the text ends, so that the number of bytes
in front of it is a place between two characters. -/
theorem isValid_of_concat (number : List Char) (c : Char) :
    let text := String.ofList (number ++ [c])
    let place : String.Pos.Raw := ⟨text.utf8ByteSize - c.utf8Size⟩
    place.IsValid text ∧ place = (String.ofList number).rawEndPos := by
  intro text place
  have happend : text = String.ofList number ++ String.singleton c := String.ofList_append
  have hplace : place = (String.ofList number).rawEndPos := by
    refine String.Pos.Raw.ext ?_
    have hsize : text.utf8ByteSize = (String.ofList number).utf8ByteSize + c.utf8Size := by
      rw [happend, String.utf8ByteSize_append, String.utf8ByteSize_singleton]
    show text.utf8ByteSize - c.utf8Size = (String.ofList number).utf8ByteSize
    omega
  exact ⟨String.Pos.Raw.isValid_iff_exists_append.2 ⟨_, _, happend, hplace⟩, hplace⟩

/-- A text is read as the grammar says of what is left of it without the white space at its ends, and
in no other way. Where its last character is cut off by bytes, the cut is between two characters. -/
theorem parse_eq_iff_reads (text : String) (hcountable : Countable (Text.trim text.toList)) :
    let trimmed := Text.trim text.toList
    Text.Trimmed text.toList trimmed ∧ (∀ outcome, parse text = outcome ↔ Reads trimmed outcome) ∧
      ∀ number c, trimmed = number ++ [c] →
        let place : String.Pos.Raw := ⟨(String.ofList trimmed).utf8ByteSize - c.utf8Size⟩
        place.IsValid (String.ofList trimmed) ∧ place = (String.ofList number).rawEndPos := by
  intro trimmed
  have hreads : ∀ outcome, Reads trimmed outcome → parse text = outcome := fun outcome h =>
    ofTrimmed_of_reads hcountable h
  refine ⟨Text.trimmed_trim text.toList, fun outcome => ⟨?_, hreads outcome⟩, ?_⟩
  · rintro rfl
    obtain ⟨outcome, houtcome⟩ := exists_reads hcountable
    rwa [hreads outcome houtcome]
  · rintro number c hconcat
    rw [hconcat]
    exact isValid_of_concat number c

/-- Ninety minutes with a sign, between white space, and a number with a unit that takes two bytes. -/
theorem parse_eq_iff_reads_minutes :
    Countable (Text.trim "\u2003+90m\n".toList) ∧ Countable (Text.trim "7µ ".toList) ∧
      parse "\u2003+90m\n" = .ok { seconds := 5400 } ∧
      parse "7µ " = .error (.invalidConfig "unknown duration unit: µ") := by
  have hminutes : Text.trim "\u2003+90m\n".toList = ['+', '9', '0', 'm'] := by decide
  have hmicros : Text.trim "7µ ".toList = ['7', 'µ'] := by decide
  have hninety : IsNumeral ['+', '9', '0'] 90 ∧ 90 < 2 ^ 64 := (natural_eq_ok_iff (by decide)).1 rfl
  have hseven : IsNumeral ['7'] 7 ∧ 7 < 2 ^ 64 := (natural_eq_ok_iff (by decide)).1 rfl
  have hcountable : Countable ['+', '9', '0', 'm'] := by
    intro number n hnumber hn
    constructor
    · intro htext
      have hfront : ['+', '9', '0'] ++ ['m'] = number ++ ['m'] := htext
      obtain rfl := List.append_cancel_right hfront
      have hread := (natural_eq_ok_iff (by decide)).2 ⟨hnumber, hn⟩
      obtain rfl : 90 = n := Except.ok.inj hread
      decide
    · intro htext
      have hlast := congrArg List.getLast? htext
      simp at hlast
  have hcountable' : Countable ['7', 'µ'] := by
    intro number n _ _
    constructor <;> intro htext <;> have hlast := congrArg List.getLast? htext <;> simp at hlast
  rw [hminutes, hmicros]
  refine ⟨hcountable, hcountable', ?_, ?_⟩
  · rw [← hminutes] at hcountable
    refine ((parse_eq_iff_reads _ hcountable).2.1 _).2 ?_
    rw [hminutes]
    have htext : ['+', '9', '0', 'm'] = ['+', '9', '0'] ++ ['m'] := rfl
    have hunit : (['m'], 60 * 10 ^ 9) ∈ units := by simp [units]
    exact .duration htext hninety.1 hninety.2 hunit ⟨by decide, by decide⟩
  · rw [← hmicros] at hcountable'
    refine ((parse_eq_iff_reads _ hcountable').2.1 _).2 ?_
    rw [hmicros]
    have hcut : Cut ['7', 'µ'] ['7'] ['µ'] := ⟨rfl, .inr ⟨by decide, 'µ', rfl⟩⟩
    exact .unknown hcut hseven.1 hseven.2 (by decide)

end Duration

end QuorumRing
