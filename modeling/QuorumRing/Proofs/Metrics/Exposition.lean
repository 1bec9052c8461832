import Mathlib
import QuorumRing.Metrics.Exposition
import QuorumRing.Proofs.Text.Numerals

/-!
# What can be read off the exposition

The tally of operations has a line for each id, and the ids are written as they are. An id with a line
feed may forge such lines, so that different tallies have the same text. It takes an id one of whose
own lines begins like a line of the tally: without such ids (`Metrics.Unforged`) the text determines the
tally, whatever else the ids hold.
-/

namespace QuorumRing

namespace Metrics

variable {entry entry' : String × Nat} {entries entries' : List (String × Nat)}
  {rest rest' between : List Char}

/-- What every line of the tally begins with, up to the quotation mark. -/
def tallyMark : List Char := "ringkv_node_operations_total\x7bnode_id=".toList

/-- No line of the id but its first begins like a line of the tally. -/
def Unforged (id : String) : Prop := ¬ '\n' :: tallyMark <:+: id.toList

instance : DecidablePred Unforged := fun id =>
  inferInstanceAs (Decidable (¬ '\n' :: tallyMark <:+: id.toList))

/-- What stands behind the id in its line. -/
def lineTail (count : Nat) : List Char := '"' :: '\x7d' :: ' ' :: (toString count).toList

/-- The line of an entry, with the line feed. -/
def lineChars (entry : String × Nat) : List Char :=
  tallyMark ++ '"' :: (entry.1.toList ++ lineTail entry.2 ++ ['\n'])

theorem toList_nodeOperationsLine (id : String) (count : Nat) :
    (nodeOperationsLine id count).toList ++ ['\n'] = lineChars (id, count) := by
  have hline : nodeOperationsLine id count =
      "ringkv_node_operations_total\x7bnode_id=\"" ++ id ++ "\"\x7d " ++ toString count := rfl
  have hfront : "ringkv_node_operations_total\x7bnode_id=\"".toList = tallyMark ++ ['"'] := by
    decide
  have hback : "\"\x7d ".toList = ['"', '\x7d', ' '] := by decide
  rw [hline, String.toList_append, String.toList_append, String.toList_append, hfront, hback]
  simp only [lineChars, lineTail, List.append_assoc, List.cons_append, List.nil_append]

theorem lineFeed_notMem_lineTail (count : Nat) : '\n' ∉ lineTail count := by
  have hdigits : '\n' ∉ (toString count).toList := notMem_decimal rfl count
  simp only [lineTail, List.mem_cons, not_or]
  exact ⟨by decide, by decide, by decide, hdigits⟩

/-- A line determines its entry, since the last quotation mark is the one that ends the id. -/
theorem lineChars_inj (h : lineChars entry = lineChars entry') : entry = entry' := by
  obtain ⟨id, count⟩ := entry
  obtain ⟨id', count'⟩ := entry'
  have hback : ∀ count : Nat, '"' ∉ '\x7d' :: ' ' :: ((toString count).toList ++ ['\n']) := by
    intro count
    have hdigits : '"' ∉ (toString count).toList := notMem_decimal rfl count
    simp only [List.mem_cons, List.mem_append, List.not_mem_nil, not_or]
    exact ⟨by decide, by decide, hdigits, by decide, not_false⟩
  have hrest : id.toList ++ lineTail count ++ ['\n'] = id'.toList ++ lineTail count' ++ ['\n'] :=
    (List.cons.inj (List.append_cancel_left h)).2
  have hsplit : id.toList ++ '"' :: '\x7d' :: ' ' :: ((toString count).toList ++ ['\n']) =
      id'.toList ++ '"' :: '\x7d' :: ' ' :: ((toString count').toList ++ ['\n']) := by
    simpa only [lineTail, List.append_assoc, List.cons_append] using hrest
  obtain ⟨hid, hcount⟩ := append_cons_inj_of_notMem_back (hback count) (hback count') hsplit
  have hdigits : (toString count).toList = (toString count').toList :=
    List.append_cancel_right (List.cons.inj (List.cons.inj hcount).2).2
  rw [String.toList_inj.1 hid, Nat.repr_injective (String.toList_inj.1 hdigits)]

theorem prefix_of_append_cons {x : Char} {mark front back tail : List Char} (h : x ∉ mark)
    (heq : front ++ x :: back = mark ++ x :: tail) : mark <+: front := by
  rcases List.append_eq_append_iff.1 heq with ⟨between, hmark, hback⟩ | ⟨between, hfront, -⟩
  · cases between with
    | nil => exact ⟨[], by rw [hmark, List.append_nil, List.append_nil]⟩
    | cons y between =>
      obtain rfl := (List.cons.inj hback).1
      rw [hmark] at h
      exact absurd (List.mem_append_right _ List.mem_cons_self) h
  · exact ⟨between, hfront.symm⟩

/-- A line feed within a line stands in the id. -/
theorem exists_of_lineFeed {id before : List Char} {count : Nat} {front : List Char}
    (h : id ++ lineTail count = front ++ '\n' :: before) :
    ∃ feed, id = front ++ '\n' :: feed ∧ before = feed ++ lineTail count := by
  rcases List.append_eq_append_iff.1 h with ⟨feed, -, htail⟩ | ⟨feed, hfront, htail⟩
  · have hmem : '\n' ∈ lineTail count := by
      rw [htail]
      exact List.mem_append_right _ List.mem_cons_self
    exact absurd hmem (lineFeed_notMem_lineTail count)
  · cases feed with
    | nil =>
      have hquote : '\n' = '"' := (List.cons.inj htail).1
      exact absurd hquote (by decide)
    | cons c feed =>
      obtain rfl : '\n' = c := (List.cons.inj htail).1
      exact ⟨feed, hfront, (List.cons.inj htail).2⟩

/-- Another line may end within the line of an unforged id, but not where a further line of the tally
can follow. -/
theorem eq_nil_of_lineChars_append (hid : Unforged entry'.1)
    (hline : lineChars entry' = lineChars entry ++ between)
    (hnext : entries.flatMap lineChars = between ++ rest) : between = [] := by
  by_contra hne
  obtain ⟨id, count⟩ := entry
  obtain ⟨id', count'⟩ := entry'
  obtain ⟨tail, htail⟩ : ∃ tail, between ++ rest = tallyMark ++ '"' :: tail := by
    cases entries with
    | nil => exact absurd (List.append_eq_nil_iff.1 hnext.symm).1 hne
    | cons next entries =>
      rw [← hnext, List.flatMap_cons, lineChars, List.append_assoc]
      exact ⟨_, rfl⟩
  obtain ⟨before, last, rfl⟩ : ∃ before last, between = before ++ [last] :=
    ⟨_, _, (List.dropLast_concat_getLast hne).symm⟩
  have hrest : (id'.toList ++ lineTail count') ++ ['\n'] =
      (id.toList ++ lineTail count ++ '\n' :: before) ++ [last] := by
    simp only [lineChars, List.append_assoc, List.cons_append, List.nil_append,
      List.append_cancel_left_eq, List.cons.injEq, true_and] at hline ⊢
    exact hline
  obtain ⟨hbody, -⟩ := List.append_inj' hrest rfl
  obtain ⟨feed, hfront, rfl⟩ := exists_of_lineFeed hbody
  have hquoted : feed ++ '"' :: ('\x7d' :: ' ' :: (toString count').toList ++ [last] ++ rest) =
      tallyMark ++ '"' :: tail := by
    rw [← htail, lineTail]
    simp only [List.append_assoc, List.cons_append]
  obtain ⟨forged, hforged⟩ := prefix_of_append_cons (by decide) hquoted
  refine hid ⟨id.toList ++ lineTail count, forged, ?_⟩
  rw [hfront, ← hforged]
  simp only [List.append_assoc, List.cons_append]

/-- The lines of unforged ids determine the entries. -/
theorem entries_inj (h : ∀ entry ∈ entries, Unforged entry.1)
    (h' : ∀ entry ∈ entries', Unforged entry.1)
    (heq : entries.flatMap lineChars = entries'.flatMap lineChars) : entries = entries' := by
  have hnonempty : ∀ entry : String × Nat, lineChars entry ≠ [] := by
    intro entry hnil
    simp [lineChars] at hnil
  induction entries generalizing entries' with
  | nil =>
    cases entries' with
    | nil => rfl
    | cons entry' entries' =>
      exact absurd (List.append_eq_nil_iff.1 heq.symm).1 (hnonempty entry')
  | cons entry entries ih =>
    cases entries' with
    | nil => exact absurd (List.append_eq_nil_iff.1 heq).1 (hnonempty entry)
    | cons entry' entries' =>
      obtain ⟨hfirst, hrest⟩ := List.forall_mem_cons.1 h
      obtain ⟨hfirst', hrest'⟩ := List.forall_mem_cons.1 h'
      have hsame : lineChars entry = lineChars entry' ∧
          entries.flatMap lineChars = entries'.flatMap lineChars := by
        rcases List.append_eq_append_iff.1 heq with
          ⟨between, hline, hafter⟩ | ⟨between, hline, hafter⟩
        · obtain rfl := eq_nil_of_lineChars_append hfirst' hline hafter
          rw [List.append_nil] at hline
          exact ⟨hline.symm, hafter⟩
        · obtain rfl := eq_nil_of_lineChars_append hfirst hline hafter
          rw [List.append_nil] at hline
          exact ⟨hline, hafter.symm⟩
      rw [lineChars_inj hsame.1, ih hrest hrest' hsame.2]

/-! ## The whole text -/

theorem exists_expositionLines (m : Metrics) (uptime : Nat) : ∃ before after : List String,
    ∀ tally : Std.ExtTreeMap String Nat, expositionLines { m with nodeOperations := tally } uptime =
      before ++ (tally.toList.map (fun entry => nodeOperationsLine entry.1 entry.2) ++ after) := by
  refine ⟨?before, ?after, fun tally => ?lines⟩
  case lines =>
    dsimp only [expositionLines]
    rw [List.append_assoc, List.append_assoc, List.append_assoc]

/-- The text with another tally in it is the same around the lines of the tally. -/
theorem exists_around_tally (m : Metrics) (uptime : Nat) : ∃ before after : List Char,
    ∀ tally : Std.ExtTreeMap String Nat,
      (exposition { m with nodeOperations := tally } uptime).toList =
        before ++ (tally.toList.flatMap lineChars ++ after) := by
  obtain ⟨before, after, hlines⟩ := exists_expositionLines m uptime
  have hfeed : ∀ lines : List String, (lines.map (· ++ "\n")).flatMap String.toList =
      lines.flatMap fun line => line.toList ++ ['\n'] := by
    intro lines
    rw [List.flatMap_map]
    exact congrArg lines.flatMap (funext fun line => String.toList_append)
  refine ⟨before.flatMap fun line => line.toList ++ ['\n'],
    after.flatMap fun line => line.toList ++ ['\n'], fun tally => ?_⟩
  have htally : (tally.toList.map fun entry => nodeOperationsLine entry.1 entry.2).flatMap
      (fun line => line.toList ++ ['\n']) = tally.toList.flatMap lineChars := by
    rw [List.flatMap_map]
    exact congrArg tally.toList.flatMap (funext fun entry => toList_nodeOperationsLine ..)
  rw [exposition, String.toList_join, hfeed, hlines, List.flatMap_append, List.flatMap_append, htally]

/-- Two expositions that differ in the tally at most have the same text only if the tally is the same,
as long as no id forges lines of the tally. -/
theorem exposition_inj_of_unforged (m : Metrics) (uptime : Nat)
    (tally tally' : Std.ExtTreeMap String Nat) (h : ∀ id ∈ tally, Unforged id)
    (h' : ∀ id ∈ tally', Unforged id) :
    exposition { m with nodeOperations := tally } uptime =
      exposition { m with nodeOperations := tally' } uptime ↔ tally = tally' := by
  have hentries : ∀ tally : Std.ExtTreeMap String Nat, (∀ id ∈ tally, Unforged id) →
      ∀ entry ∈ tally.toList, Unforged entry.1 := by
    intro tally hids entry hentry
    exact hids _ (Std.ExtTreeMap.mem_iff_isSome_getElem?.2
      (by rw [Std.ExtTreeMap.mem_toList_iff_getElem?_eq_some.1 hentry]; rfl))
  obtain ⟨before, after, haround⟩ := exists_around_tally m uptime
  constructor
  · intro hsame
    have htexts := congrArg String.toList hsame
    rw [haround, haround] at htexts
    have hlines := List.append_cancel_right (List.append_cancel_left htexts)
    exact Std.ExtTreeMap.toList_inj.1 (entries_inj (hentries tally h) (hentries tally' h') hlines)
  · rintro rfl
    rfl

/-- Ids that hold quotation marks, braces, line feeds and the name of the tally. -/
theorem exposition_inj_of_unforged_quotes :
    let tally : Std.ExtTreeMap String Nat :=
      .ofList [("a\"\x7d 1\nringkv_node_operations_total", 2), ("\n\"\x7d 7\n", 7), ("", 0)]
    let tally' : Std.ExtTreeMap String Nat :=
      .ofList [("a\"\x7d 1\nringkv_node_operations_total", 2), ("\n\"\x7d 7\n", 8), ("", 0)]
    (∀ id ∈ tally.keys, Unforged id) ∧ (∀ id ∈ tally'.keys, Unforged id) ∧
      exposition { nodeOperations := tally } 0 ≠ exposition { nodeOperations := tally' } 0 := by
  intro tally tally'
  have h : ∀ id ∈ tally.keys, Unforged id := by decide +kernel
  have h' : ∀ id ∈ tally'.keys, Unforged id := by decide +kernel
  have hne : tally ≠ tally' := by
    intro hsame
    have hcount := congrArg (fun map : Std.ExtTreeMap String Nat => map["\n\"\x7d 7\n"]?) hsame
    revert hcount
    decide +kernel
  refine ⟨h, h', fun hsame => hne ?_⟩
  exact (exposition_inj_of_unforged {} 0 tally tally'
    (fun id hid => h id (Std.ExtTreeMap.mem_keys.2 hid))
    (fun id hid => h' id (Std.ExtTreeMap.mem_keys.2 hid))).1 hsame

/-- One id can stand for the lines of two. -/
theorem exposition_forged :
    let tally : Std.ExtTreeMap String Nat :=
      .ofList [("a\"\x7d 1\nringkv_node_operations_total\x7bnode_id=\"b", 2)]
    let tally' : Std.ExtTreeMap String Nat := .ofList [("a", 1), ("b", 2)]
    tally ≠ tally' ∧
      exposition { nodeOperations := tally } 0 = exposition { nodeOperations := tally' } 0 := by
  intro tally tally'
  refine ⟨fun hsame => ?_, String.toList_inj.1 ?_⟩
  · have hsize := congrArg Std.ExtTreeMap.size hsame
    revert hsize
    decide +kernel
  · obtain ⟨before, after, haround⟩ := exists_around_tally {} 0
    have hlines : tally.toList.flatMap lineChars = tally'.toList.flatMap lineChars := by
      decide +kernel
    exact (haround tally).trans ((by rw [hlines] : _ = _).trans (haround tally').symm)

end Metrics

end QuorumRing
