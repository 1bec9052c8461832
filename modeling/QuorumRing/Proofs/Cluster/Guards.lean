import Mathlib.Data.List.Nodup
import QuorumRing.Cluster.Registry

/-!
# Guards that are dropped in any order

Whoever begins a migration is handed a guard, and its registration ends when the guard is dropped. Two
guards of one kind and id share a place in the registry, which belongs to the newer one. The drop of
the older guard leaves that place alone, but the drop of the newer one clears it, also while the older
guard is still held.

So the registry holds, of the newest registration of each kind and id, those whose guards are held
(`Guarded.inFlight`). It is empty as soon as every guard that is still held has been followed by a
newer one of its kind and id (`isRebalancing_iff_newest_held`). Guards of one kind and id that are
dropped in the order in which they were made never come to that (`isRebalancing_iff_held`).
-/

namespace QuorumRing.Registry

variable {registry : Registry} {guard registration : Registration}
  {registrations begun held : List Registration}

/-! ## The newest registrations -/

/-- Those registrations that no later one of the same kind and id has replaced. -/
def newest : List Registration → List Registration
  | [] => []
  | registration :: later =>
    if later.any fun other => other.kind = registration.kind && other.id = registration.id then
      newest later
    else registration :: newest later

theorem mem_of_mem_newest (h : registration ∈ newest registrations) :
    registration ∈ registrations := by
  induction registrations with
  | nil => exact h
  | cons first later ih =>
    rw [newest] at h
    split at h
    · exact List.mem_cons_of_mem _ (ih h)
    · rcases List.mem_cons.1 h with rfl | h
      · exact List.mem_cons_self
      · exact List.mem_cons_of_mem _ (ih h)

/-- A new registration takes the place of the one of its kind and id. -/
theorem newest_concat (registrations : List Registration) (registration : Registration) :
    newest (registrations ++ [registration]) =
      (newest registrations).filter (fun other =>
        !(other.kind = registration.kind && other.id = registration.id)) ++ [registration] := by
  induction registrations with
  | nil => rfl
  | cons first later ih =>
    rw [List.cons_append, newest, newest, List.any_append, ih]
    by_cases hreplaced : (later.any fun other =>
        other.kind = first.kind && other.id = first.id) = true
    · rw [hreplaced, Bool.true_or, if_pos rfl, if_pos rfl]
    · rw [Bool.not_eq_true] at hreplaced
      rw [hreplaced, Bool.false_or, if_neg Bool.false_ne_true]
      have hsymm : (registration.kind = first.kind && registration.id = first.id : Bool) =
          (first.kind = registration.kind && first.id = registration.id : Bool) := by
        simp only [eq_comm]
      by_cases hsame : (first.kind = registration.kind && first.id = registration.id : Bool) = true
      · rw [if_pos (by simp [hsymm, hsame]), List.filter_cons_of_neg (by simp [hsame])]
      · rw [if_neg (by simp [hsymm, hsame]), List.filter_cons_of_pos (by simp [hsame]),
          List.cons_append]

theorem newest_sublist (registrations : List Registration) :
    (newest registrations).Sublist registrations := by
  induction registrations with
  | nil => exact List.Sublist.refl []
  | cons first later ih =>
    rw [newest]
    split
    · exact ih.cons first
    · exact ih.cons_cons first

theorem mem_newest_cons_iff {first : Registration} {later : List Registration} :
    registration ∈ newest (first :: later) ↔ registration ∈ newest later ∨
      registration = first ∧
        ∀ other ∈ later, other.kind = first.kind → other.id = first.id → False := by
  rw [newest]
  split
  next hreplaced =>
    obtain ⟨other, hother, hsame⟩ := List.any_eq_true.1 hreplaced
    simp only [Bool.and_eq_true, decide_eq_true_eq] at hsame
    refine ⟨Or.inl, fun h => h.resolve_right fun hfirst => ?_⟩
    exact hfirst.2 other hother hsame.1 hsame.2
  next hkept =>
    rw [List.mem_cons, or_comm]
    refine or_congr_right (iff_self_and.2 fun _ other hother hkind hid => hkept ?_)
    exact List.any_eq_true.2 ⟨other, hother, by simp [hkind, hid]⟩

/-- A registration is one of the newest if none of its kind and id has a higher ticket. -/
theorem mem_newest_iff (horder : registrations.Pairwise (·.ticket < ·.ticket)) :
    registration ∈ newest registrations ↔ registration ∈ registrations ∧
      ∀ other ∈ registrations, other.kind = registration.kind → other.id = registration.id →
        other.ticket ≤ registration.ticket := by
  induction registrations with
  | nil => simp [newest]
  | cons first later ih =>
    obtain ⟨hfirst, hlater⟩ := List.pairwise_cons.1 horder
    rw [mem_newest_cons_iff, ih hlater, List.mem_cons, List.forall_mem_cons]
    constructor
    · rintro (⟨hmem, hmax⟩ | ⟨rfl, hnone⟩)
      · exact ⟨.inr hmem, fun _ _ => Nat.le_of_lt (hfirst registration hmem), hmax⟩
      · exact ⟨.inl rfl, fun _ _ => Nat.le_refl _, fun other hother hkind hid =>
          (hnone other hother hkind hid).elim⟩
    · rintro ⟨rfl | hmem, -, hmax⟩
      · exact .inr ⟨rfl, fun other hother hkind hid =>
          Nat.not_lt.2 (hmax other hother hkind hid) (hfirst other hother)⟩
      · exact .inl ⟨hmem, hmax⟩

/-- Every registration has given way to one of the newest. -/
theorem exists_newest (horder : registrations.Pairwise (·.ticket < ·.ticket))
    (h : registration ∈ registrations) : ∃ last ∈ newest registrations,
      last.kind = registration.kind ∧ last.id = registration.id ∧
        registration.ticket ≤ last.ticket := by
  induction registrations generalizing registration with
  | nil => exact absurd h List.not_mem_nil
  | cons first later ih =>
    obtain ⟨hfirst, hlater⟩ := List.pairwise_cons.1 horder
    simp only [mem_newest_cons_iff]
    rcases List.mem_cons.1 h with rfl | h
    · by_cases hreplaced : ∃ other ∈ later,
          other.kind = registration.kind ∧ other.id = registration.id
      · obtain ⟨other, hother, hkind, hid⟩ := hreplaced
        obtain ⟨last, hlast, hkind', hid', hle⟩ := ih hlater hother
        exact ⟨last, .inl hlast, hkind'.trans hkind, hid'.trans hid,
          Nat.le_trans (Nat.le_of_lt (hfirst other hother)) hle⟩
      · exact ⟨registration, .inr ⟨rfl, fun other hother hkind hid =>
          hreplaced ⟨other, hother, hkind, hid⟩⟩, rfl, rfl, Nat.le_refl _⟩
    · obtain ⟨last, hlast, hsame⟩ := ih hlater h
      exact ⟨last, .inl hlast, hsame⟩

/-! ## Sequences of beginnings and drops -/

/-- A registry in use: the guards made since it was new, oldest first, and those of them that are
still held. -/
inductive Guarding : Registry → List Registration → List Registration → Prop where
  /-- Nothing has begun yet. -/
  | new : Guarding {} [] []
  /-- A migration begins. -/
  | enter {registry : Registry} {begun held : List Registration}
      (before : Guarding registry begun held) (kind : MigrationKind) (id : String) :
      Guarding (registry.enter kind id).2 (begun ++ [(registry.enter kind id).1])
        (held ++ [(registry.enter kind id).1])
  /-- Any of the guards is dropped. -/
  | finish {registry : Registry} {begun held : List Registration}
      (before : Guarding registry begun held) (guard : Registration) (mem : guard ∈ held) :
      Guarding (registry.finish guard) begun (held.erase guard)

/-- What the registry has to do with the guards. -/
structure Guarded (registry : Registry) (begun held : List Registration) : Prop where
  /-- In force are the newest registrations, as long as their guards are held. -/
  inFlight : registry.inFlight = (newest begun).filter (· ∈ held)
  /-- Tickets are given out in ascending order. -/
  order : begun.Pairwise (·.ticket < ·.ticket)
  /-- All of them were given out before. -/
  made : ∀ guard ∈ begun, guard.ticket < registry.tickets
  /-- Only what has begun is held. -/
  sublist : held.Sublist begun

namespace Guarded

theorem nodup (h : registry.Guarded begun held) : begun.Nodup :=
  h.order.imp fun hlt heq => Nat.ne_of_lt hlt (congrArg Registration.ticket heq)

theorem enter (h : registry.Guarded begun held) (kind : MigrationKind) (id : String) :
    (registry.enter kind id).2.Guarded (begun ++ [(registry.enter kind id).1])
      (held ++ [(registry.enter kind id).1]) := by
  have hticket : (registry.enter kind id).1.ticket = registry.tickets := rfl
  have htickets : (registry.enter kind id).2.tickets = registry.tickets + 1 := rfl
  have hinFlight : (registry.enter kind id).2.inFlight = registry.inFlight.filter
      (fun other => !(other.kind = kind && other.id = id)) ++ [(registry.enter kind id).1] := rfl
  refine ⟨?_, ?_, fun guard hmem => ?_, h.sublist.append (List.Sublist.refl _)⟩
  · rw [newest_concat, hinFlight, h.inFlight, List.filter_append, List.filter_filter,
      List.filter_filter]
    congr 1
    · refine List.filter_congr fun guard hmem => ?_
      -- an older guard is held if it was before
      have hne : guard ≠ (registry.enter kind id).1 := by
        rintro rfl
        exact Nat.lt_irrefl _ (h.made _ (mem_of_mem_newest hmem))
      simp only [List.mem_append, List.mem_singleton, hne, or_false]
      exact Bool.and_comm _ _
    · simp
  · refine List.pairwise_append.2 ⟨h.order, List.pairwise_singleton _ _, ?_⟩
    intro guard hmem last hlast
    rw [List.mem_singleton.1 hlast, hticket]
    exact h.made guard hmem
  · rw [htickets]
    rcases List.mem_append.1 hmem with hold | hlast
    · exact Nat.lt_succ_of_lt (h.made guard hold)
    · rw [List.mem_singleton.1 hlast, hticket]
      exact Nat.lt_succ_self _

/-- The drop of a guard that has been replaced before takes nothing out of the registry. -/
theorem finish (h : registry.Guarded begun held) (guard : Registration) :
    (registry.finish guard).Guarded begun (held.erase guard) := by
  have hheld : held.Nodup := h.nodup.sublist h.sublist
  have hnewest : ((newest begun).filter (· ∈ held)).Nodup :=
    (h.nodup.sublist (newest_sublist begun)).filter _
  have hinFlight : (registry.finish guard).inFlight = registry.inFlight.erase guard := rfl
  refine ⟨?_, h.order, h.made, List.erase_sublist.trans h.sublist⟩
  rw [hinFlight, h.inFlight, hnewest.erase_eq_filter, List.filter_filter]
  refine List.filter_congr fun other _ => ?_
  rw [Bool.eq_iff_iff]
  simp [hheld.mem_erase_iff]

theorem isRebalancing_iff (h : registry.Guarded begun held) :
    registry.isRebalancing = true ↔ ∃ guard ∈ held, guard ∈ newest begun := by
  rw [isRebalancing, h.inFlight, Bool.not_eq_true', List.isEmpty_eq_false_iff_exists_mem]
  refine exists_congr fun guard => ?_
  rw [List.mem_filter, decide_eq_true_eq, and_comm]

end Guarded

theorem Guarding.guarded (h : Guarding registry begun held) : registry.Guarded begun held := by
  induction h with
  | new => exact ⟨rfl, List.Pairwise.nil, fun _ hmem => absurd hmem List.not_mem_nil, .refl []⟩
  | enter _ kind id ih => exact ih.enter kind id
  | finish _ guard _ ih => exact ih.finish guard

/-- A cluster is rebalancing if, for some kind and id, the guard made last is still held. -/
theorem isRebalancing_iff_newest_held (h : Guarding registry begun held) :
    registry.isRebalancing = true ↔ ∃ guard ∈ held, ∀ other ∈ begun,
      other.kind = guard.kind → other.id = guard.id → other.ticket ≤ guard.ticket := by
  have hguarded := h.guarded
  rw [hguarded.isRebalancing_iff]
  refine exists_congr fun guard => and_congr_right fun hheld => ?_
  rw [mem_newest_iff hguarded.order]
  exact and_iff_right (hguarded.sublist.subset hheld)

/-- One unit joins twice and another one leaves; the newer guard of the first unit is dropped, and then
the older one. -/
theorem isRebalancing_iff_newest_held_leave :
    let first : Registration := ⟨.join, "n1", 0⟩
    let second : Registration := ⟨.leave, "n2", 1⟩
    let third : Registration := ⟨.join, "n1", 2⟩
    let full := ((({} : Registry).enter .join "n1").2.enter .leave "n2").2.enter .join "n1"
    let registry := (full.2.finish third).finish first
    Guarding registry [first, second, third] [second] ∧ registry.isRebalancing = true := by
  intro first second third full registry
  have hfull : Guarding full.2 [first, second, third] [first, second, third] :=
    ((Guarding.new.enter .join "n1").enter .leave "n2").enter .join "n1"
  have hguarding : Guarding registry [first, second, third] [second] :=
    (hfull.finish third (by decide)).finish first (by decide)
  exact ⟨hguarding, (isRebalancing_iff_newest_held hguarding).2
    ⟨second, List.mem_singleton_self second, by decide⟩⟩

/-- A unit joins twice, and the newer guard is dropped first. The older one is held, and the registry
is empty. -/
theorem not_isRebalancing_of_newer_dropped_first :
    let first : Registration := ⟨.join, "n1", 0⟩
    let second : Registration := ⟨.join, "n1", 1⟩
    let registry := ((({} : Registry).enter .join "n1").2.enter .join "n1").2.finish second
    Guarding registry [first, second] [first] ∧ registry.isRebalancing = false :=
  ⟨((Guarding.new.enter .join "n1").enter .join "n1").finish ⟨.join, "n1", 1⟩ (by decide), rfl⟩

/-- If no guard outlives a newer one of its kind and id, a cluster is rebalancing as long as any guard
is held. -/
theorem isRebalancing_iff_held (h : Guarding registry begun held)
    (horder : ∀ guard ∈ held, ∀ later ∈ begun, later.kind = guard.kind → later.id = guard.id →
      guard.ticket ≤ later.ticket → later ∈ held) :
    registry.isRebalancing = true ↔ held ≠ [] := by
  have hguarded := h.guarded
  rw [hguarded.isRebalancing_iff]
  constructor
  · rintro ⟨guard, hheld, -⟩
    exact List.ne_nil_of_mem hheld
  · intro hne
    obtain ⟨guard, hheld⟩ := List.exists_mem_of_ne_nil held hne
    obtain ⟨last, hlast, hkind, hid, hle⟩ :=
      exists_newest hguarded.order (hguarded.sublist.subset hheld)
    exact ⟨last, horder guard hheld last (mem_of_mem_newest hlast) hkind hid hle, hlast⟩

end QuorumRing.Registry
