import Mathlib.Data.List.TakeDrop
import QuorumRing.Proofs.Text.Numerals
import QuorumRing.Settings.UnitSpec

/-!
# What is read as a unit

Neither the id nor the host is looked into: the id is what stands in front of the first `@`, and the
host is what is left between it and the last colon. So only an id that holds an `@` cannot be written
down, and the port is the only part that is not kept as it was, since it may have a plus sign and
leading zeros. `UnitSpec.Reads` says which texts describe units, and what is wrong with the others.
-/

namespace QuorumRing.UnitSpec

open Numeral

variable {c : Char} {s front back : List Char}

/-! ## Splitting -/

theorem span_append (h : c ∉ front) :
    (front ++ back).span (· ≠ c) = (front ++ (back.span (· ≠ c)).1, (back.span (· ≠ c)).2) := by
  have hkeep : ∀ d ∈ front, decide (d ≠ c) = true := by
    intro d hd
    have hne : d ≠ c := fun heq => h (heq ▸ hd)
    simpa using hne
  rw [List.span_eq_takeWhile_dropWhile, List.span_eq_takeWhile_dropWhile,
    List.takeWhile_append_of_pos hkeep, List.dropWhile_append_of_pos hkeep]

theorem span_of_notMem (h : c ∉ s) : s.span (· ≠ c) = (s, []) := by
  have hspan : (s ++ []).span (· ≠ c) = (s ++ [], []) := span_append h
  rwa [List.append_nil] at hspan

theorem splitFirst?_of_notMem (h : c ∉ s) : splitFirst? c s = none := by
  rw [splitFirst?, span_of_notMem h]

theorem splitFirst?_append (h : c ∉ front) :
    splitFirst? c (front ++ c :: back) = some (front, back) := by
  rw [splitFirst?, span_append h, List.span_eq_takeWhile_dropWhile]
  simp

theorem splitFirst?_eq_none_iff : splitFirst? c s = none ↔ c ∉ s := by
  constructor
  · intro h hmem
    obtain ⟨front, back, rfl, hfront⟩ := List.eq_append_cons_of_mem hmem
    rw [splitFirst?_append hfront] at h
    simp at h
  · exact splitFirst?_of_notMem

theorem splitFirst?_eq_some_iff :
    splitFirst? c s = some (front, back) ↔ s = front ++ c :: back ∧ c ∉ front := by
  constructor
  · intro h
    have hmem : c ∈ s := by
      by_contra hnot
      rw [splitFirst?_of_notMem hnot] at h
      simp at h
    obtain ⟨front', back', rfl, hfront⟩ := List.eq_append_cons_of_mem hmem
    rw [splitFirst?_append hfront] at h
    simp only [Option.some.injEq, Prod.mk.injEq] at h
    obtain ⟨rfl, rfl⟩ := h
    exact ⟨rfl, hfront⟩
  · rintro ⟨rfl, hfront⟩
    exact splitFirst?_append hfront

theorem splitLast?_eq_none_iff : splitLast? c s = none ↔ c ∉ s := by
  rw [splitLast?, Option.map_eq_none_iff, splitFirst?_eq_none_iff, List.mem_reverse]

theorem splitLast?_eq_some_iff :
    splitLast? c s = some (front, back) ↔ s = front ++ c :: back ∧ c ∉ back := by
  have hreverse : s = front ++ c :: back ↔ s.reverse = back.reverse ++ c :: front.reverse := by
    rw [← List.reverse_inj]
    simp
  rw [splitLast?, Option.map_eq_some_iff, hreverse]
  constructor
  · rintro ⟨⟨back', front'⟩, hsplit, hpair⟩
    obtain ⟨rfl, rfl⟩ := Prod.mk.inj hpair
    simpa using splitFirst?_eq_some_iff.1 hsplit
  · rintro ⟨hs, hback⟩
    exact ⟨(back.reverse, front.reverse), splitFirst?_eq_some_iff.2 ⟨hs, by simpa using hback⟩,
      by simp⟩

/-! ## The grammar -/

variable {text id host address port : String} {outcome : Except Problem UnitSpec}

/-- What a text is read as. -/
inductive Reads (text : String) : Except Problem UnitSpec → Prop where
  /-- There is no `@`. -/
  | noId (hid : '@' ∉ text.toList) : Reads text (.error (.noId text))
  /-- Behind the first `@` there is no colon. -/
  | noPort {id address : String} (htext : text = id ++ "@" ++ address) (hid : '@' ∉ id.toList)
      (hport : ':' ∉ address.toList) : Reads text (.error (.noPort address))
  /-- Behind the last colon there is no number of at most 16 bits. -/
  | invalidPort {id host port : String} {reason : Numeral.Problem}
      (htext : text = id ++ "@" ++ host ++ ":" ++ port) (hid : '@' ∉ id.toList)
      (hport : ':' ∉ port.toList) (hbad : ∀ n < UInt16.size, ¬ IsNumeral port.toList n)
      (hreason : natural UInt16.size port.toList = .error reason) :
      Reads text (.error (.invalidPort port reason))
  /-- All three parts are there. -/
  | unit {unit : UnitSpec} {port : String} (htext : text = unit.id ++ "@" ++ unit.host ++ ":" ++ port)
      (hid : '@' ∉ unit.id.toList) (hport : ':' ∉ port.toList)
      (hnumber : IsNumeral port.toList unit.port.toNat) : Reads text (.ok unit)

theorem splitFirst?_of_at (htext : text = id ++ "@" ++ address) (hid : '@' ∉ id.toList) :
    splitFirst? '@' text.toList = some (id.toList, address.toList) := by
  have hat : "@".toList = ['@'] := rfl
  rw [splitFirst?_eq_some_iff, htext, String.toList_append, String.toList_append, hat]
  simp [hid]

theorem splitLast?_of_colon (haddress : address = host ++ ":" ++ port) (hport : ':' ∉ port.toList) :
    splitLast? ':' address.toList = some (host.toList, port.toList) := by
  have hcolon : ":".toList = [':'] := rfl
  rw [splitLast?_eq_some_iff, haddress, String.toList_append, String.toList_append, hcolon]
  simp [hport]

theorem parse_of_parts (htext : text = id ++ "@" ++ host ++ ":" ++ port) (hid : '@' ∉ id.toList)
    (hport : ':' ∉ port.toList) : parse text =
      ((natural UInt16.size port.toList).mapError (.invalidPort port)).map fun n =>
        { id, host, port := n.toUInt16 } := by
  have hat : text = id ++ "@" ++ (host ++ ":" ++ port) := by simp only [htext, String.append_assoc]
  rw [parse, splitFirst?_of_at hat hid]
  dsimp only
  rw [splitLast?_of_colon rfl hport]
  dsimp only
  cases natural UInt16.size port.toList with
  | error reason => simp [Except.mapError, Except.map]
  | ok n => simp [Except.mapError, Except.map]

theorem parse_of_reads (h : Reads text outcome) : parse text = outcome := by
  cases h with
  | noId hid => rw [parse, splitFirst?_of_notMem hid]
  | noPort htext hid hport =>
    rw [parse, splitFirst?_of_at htext hid]
    dsimp only
    rw [splitLast?_eq_none_iff.2 hport]
    simp only [String.ofList_toList]
  | invalidPort htext hid hport hbad hreason =>
    rw [parse_of_parts htext hid hport, hreason]
    rfl
  | @unit unit port htext hid hport hnumber =>
    have hread : natural UInt16.size port.toList = .ok unit.port.toNat :=
      (natural_eq_ok_iff (by decide)).2 ⟨hnumber, unit.port.toNat_lt⟩
    rw [parse_of_parts htext hid hport, hread]
    simp [Except.mapError, Except.map]

/-- A text is split at the first `@` that it holds. -/
theorem exists_at (h : '@' ∈ text.toList) :
    ∃ id address, text = id ++ "@" ++ address ∧ '@' ∉ id.toList := by
  obtain ⟨front, back, htext, hfront⟩ := List.eq_append_cons_of_mem h
  refine ⟨.ofList front, .ofList back, ?_, by simpa using hfront⟩
  rw [← String.toList_inj, htext]
  simp

/-- A text is split at the last colon that it holds. -/
theorem exists_colon (h : ':' ∈ address.toList) :
    ∃ host port, address = host ++ ":" ++ port ∧ ':' ∉ port.toList := by
  obtain ⟨back, front, haddress, hback⟩ := List.eq_append_cons_of_mem (List.mem_reverse.2 h)
  refine ⟨.ofList front.reverse, .ofList back.reverse, ?_, by simpa using hback⟩
  rw [← String.toList_inj, ← List.reverse_inj, haddress]
  simp

/-- Every text is read in one of the ways. -/
theorem exists_reads (text : String) : ∃ outcome, Reads text outcome := by
  by_cases hat : '@' ∈ text.toList
  case neg => exact ⟨_, .noId hat⟩
  obtain ⟨id, address, rfl, hid⟩ := exists_at hat
  by_cases hcolon : ':' ∈ address.toList
  case neg => exact ⟨_, .noPort rfl hid hcolon⟩
  obtain ⟨host, port, rfl, hport⟩ := exists_colon hcolon
  have htext : id ++ "@" ++ (host ++ ":" ++ port) = id ++ "@" ++ host ++ ":" ++ port := by
    simp only [String.append_assoc]
  cases hread : natural UInt16.size port.toList with
  | error reason =>
    refine ⟨_, .invalidPort htext hid hport (fun n hn hnumber => ?_) hread⟩
    have hok : natural UInt16.size port.toList = .ok n :=
      (natural_eq_ok_iff (by decide)).2 ⟨hnumber, hn⟩
    rw [hok] at hread
    simp at hread
  | ok n =>
    obtain ⟨hnumber, hn⟩ := (natural_eq_ok_iff (by decide)).1 hread
    refine ⟨.ok { id, host, port := n.toUInt16 }, .unit htext hid hport ?_⟩
    rwa [UInt16.toNat_ofNat_of_lt' hn]

/-- A unit is read from its id, its host and its port in decimal, as long as there is no `@` in the id.
A text describes a unit if it can be split at its first `@` and at the last colon behind it into the
id, the host and a numeral for the port, and otherwise it is refused for the first thing missing. -/
theorem parse_eq_ok_iff_splits :
    (∀ (id host : String) (port : UInt16), '@' ∉ id.toList →
      parse (id ++ "@" ++ host ++ ":" ++ toString port.toNat) = .ok { id, host, port }) ∧
    (∀ text unit, parse text = .ok unit ↔ ∃ address port : String,
      text = unit.id ++ "@" ++ address ∧ '@' ∉ unit.id.toList ∧
      address = unit.host ++ ":" ++ port ∧ ':' ∉ port.toList ∧
      IsNumeral port.toList unit.port.toNat) ∧
    ∀ text outcome, parse text = outcome ↔ Reads text outcome := by
  refine ⟨?_, ?_, ?_⟩
  · intro id host port hid
    have hreads : Reads (id ++ "@" ++ host ++ ":" ++ toString port.toNat) (.ok { id, host, port }) :=
      .unit rfl hid (notMem_decimal rfl port.toNat) (isNumeral_decimal port.toNat)
    exact parse_of_reads hreads
  · intro text unit
    constructor
    · intro hparse
      obtain ⟨outcome, hreads⟩ := exists_reads text
      have houtcome := (parse_of_reads hreads).symm.trans hparse
      cases hreads with
      | @unit unit' port htext hid hport hnumber =>
        obtain rfl := Except.ok.inj houtcome
        exact ⟨_, port, by simp only [htext, String.append_assoc], hid, rfl, hport, hnumber⟩
      | noId | noPort | invalidPort => simp at houtcome
    · rintro ⟨-, port, rfl, hid, rfl, hport, hnumber⟩
      exact parse_of_reads (.unit (by simp only [String.append_assoc]) hid hport hnumber)
  · intro text outcome
    constructor
    · rintro rfl
      obtain ⟨outcome, hreads⟩ := exists_reads text
      rwa [parse_of_reads hreads]
    · exact parse_of_reads

/-- An id with a colon, a host with all the separators, and a port with a sign and zeros. -/
theorem parse_eq_ok_iff_splits_separators :
    '@' ∉ "rack:1".toList ∧
      parse ("rack:1" ++ "@" ++ "::1@eth0" ++ ":" ++ toString (8001 : UInt16).toNat) =
        .ok { id := "rack:1", host := "::1@eth0", port := 8001 } ∧
      parse "a@[::1]:+0080" = .ok { id := "a", host := "[::1]", port := 80 } := by
  obtain ⟨hround, hsplits, -⟩ := parse_eq_ok_iff_splits
  have hid : '@' ∉ "rack:1".toList := by decide
  have hport : IsNumeral "+0080".toList 80 := ((natural_eq_ok_iff (by decide)).1 rfl : _ ∧ 80 < 100).1
  refine ⟨hid, hround "rack:1" "::1@eth0" 8001 hid, ?_⟩
  exact (hsplits _ { id := "a", host := "[::1]", port := 80 }).2
    ⟨"[::1]:+0080", "+0080", by decide, by decide, by decide, by decide, hport⟩

end QuorumRing.UnitSpec
