import QuorumRing.Proofs.Ring.Labels

/-!
# Histories of a ring

A ring comes about by a history of changes: units are admitted and removed in any order. An
admission under an id that is taken and a removal of an id that is not registered are refused and
leave the ring as it is; the others make up the log of the history (`Ring.accepted`).

What every accepted change preserves holds after every history (`Ring.history_induction`). Two
things are shown in this way: the books of the ring are in order (`Ring.sound_ofHistory`), and the
log tells who owns a position, also where labels collide (`Ring.getElem?_slots_ofHistory`): the last
unit that was admitted with a label there, if it was not removed since, and else nobody.
-/

namespace QuorumRing.Ring

/-- A change of membership that somebody asks for. -/
inductive Change where
  /-- The admission of a unit. -/
  | add (unit : UnitRef)
  /-- The removal of the unit of an id. -/
  | remove (id : String)
deriving DecidableEq, Repr

/-- The ids under which units may be admitted. -/
def Change.admits : Change → List String
  | .add unit => [unit.id]
  | .remove _ => []

/-- Makes a change; `none` if it is refused. -/
def alter? (ring : Ring) : Change → Option Ring
  | .add unit => ring.insert? unit
  | .remove id => ring.erase? id

/-- The ring to which a history of changes leads from an empty one. -/
def ofHistory (virtualNodes : Nat) (changes : List Change) : Ring :=
  changes.foldl (fun ring change => (ring.alter? change).getD ring) { virtualNodes }

/-- The changes that are not refused, when they are asked for one after the other. -/
def accepted (ring : Ring) : List Change → List Change
  | [] => []
  | change :: changes =>
    match ring.alter? change with
    | some ring' => change :: accepted ring' changes
    | none => accepted ring changes

variable {ring ring' : Ring} {unit : UnitRef} {change : Change} {log changes : List Change}
  {virtualNodes : Nat} {position : Position}

theorem accepted_sublist (ring : Ring) (changes : List Change) :
    (ring.accepted changes).Sublist changes := by
  induction changes generalizing ring with
  | nil => exact List.Sublist.slnil
  | cons change changes ih =>
    rw [accepted]
    split
    · exact (ih _).cons_cons change
    · exact (ih ring).cons change

/-- What holds of the empty ring and is preserved by every change that is accepted holds after every
history. It may speak about the log. -/
theorem history_induction {P : List Change → Ring → Prop} (virtualNodes : Nat)
    (changes : List Change)
    (hempty : P [] { virtualNodes })
    (hstep : ∀ log ring change ring', P log ring → ring.alter? change = some ring' →
      P (log ++ [change]) ring') :
    P (accepted { virtualNodes } changes) (ofHistory virtualNodes changes) := by
  -- a history from any ring prolongs the log that led to it
  have hfold : ∀ (changes log : List Change) (ring : Ring), P log ring →
      P (log ++ ring.accepted changes)
        (changes.foldl (fun ring change => (ring.alter? change).getD ring) ring) := by
    intro changes
    induction changes with
    | nil =>
      intro log ring h
      rw [accepted, List.append_nil]
      exact h
    | cons change changes ih =>
      intro log ring h
      rw [List.foldl_cons, accepted]
      cases hchange : ring.alter? change with
      | none => exact ih log ring h
      | some ring' =>
        have hnext := ih (log ++ [change]) ring' (hstep log ring change ring' h hchange)
        rw [List.append_assoc] at hnext
        exact hnext
  exact hfold changes [] { virtualNodes } hempty

/-! ## What every change preserves -/

theorem Sound.alter? (hs : ring.Sound) (h : ring.alter? change = some ring') : ring'.Sound := by
  cases change with
  | add unit => exact hs.insert? h
  | remove id => exact hs.erase? h

theorem virtualNodes_alter? (h : ring.alter? change = some ring') :
    ring'.virtualNodes = ring.virtualNodes := by
  cases change with
  | add unit => exact virtualNodes_insert? h
  | remove id => exact virtualNodes_erase? h

theorem sound_ofHistory (virtualNodes : Nat) (changes : List Change) :
    (ofHistory virtualNodes changes).Sound :=
  history_induction (P := fun _ ring => ring.Sound) virtualNodes changes (sound_empty virtualNodes)
    fun _ _ _ _ hs h => hs.alter? h

theorem virtualNodes_ofHistory (virtualNodes : Nat) (changes : List Change) :
    (ofHistory virtualNodes changes).virtualNodes = virtualNodes :=
  history_induction (P := fun _ ring => ring.virtualNodes = virtualNodes) virtualNodes changes rfl
    fun _ _ _ _ hv h => (virtualNodes_alter? h).trans hv

/-- If the labels of all ids under which units are admitted lie apart, nobody's positions are ever
disputed. -/
theorem apart_ofHistory {ids : List String} (hlabels : LabelsApart virtualNodes ids)
    (hids : changes.flatMap Change.admits ⊆ ids) : (ofHistory virtualNodes changes).Apart ids := by
  have hlog := history_induction
    (P := fun log ring => log.flatMap Change.admits ⊆ ids → ring.Apart ids)
    virtualNodes changes (fun _ => apart_empty hlabels) ?_
  · refine hlog fun id hid => ?_
    obtain ⟨change, hchange, hid⟩ := List.mem_flatMap.1 hid
    exact hids (List.mem_flatMap.2 ⟨change, (accepted_sublist _ _).subset hchange, hid⟩)
  · intro log ring change ring' ih h hlog
    rw [List.flatMap_append, List.flatMap_singleton, List.append_subset] at hlog
    have hapart := ih hlog.1
    cases change with
    | add unit => exact hapart.insert? h (hlog.2 (List.mem_singleton_self _))
    | remove id => exact hapart.erase? h

/-! ## Who owns a position -/

/-- In the log, the unit is the last one that was admitted with a label at the position, and its id
was not removed since. -/
def LastClaim (virtualNodes : Nat) (log : List Change) (position : Position) (unit : UnitRef) :
    Prop :=
  ∃ earlier later, log = earlier ++ .add unit :: later ∧
    position ∈ virtualNodePositions unit.id virtualNodes ∧
    (∀ other, .add other ∈ later → position ∉ virtualNodePositions other.id virtualNodes) ∧
    .remove unit.id ∉ later

theorem not_lastClaim_nil : ¬ LastClaim virtualNodes [] position unit := by
  rintro ⟨earlier, later, hlog, -⟩
  simp at hlog

/-- One more change makes a claim of its own, or leaves a claim as it was if it neither admits a
unit with a label there nor removes the id. -/
theorem lastClaim_concat : LastClaim virtualNodes (log ++ [change]) position unit ↔
    (change = .add unit ∧ position ∈ virtualNodePositions unit.id virtualNodes) ∨
    (LastClaim virtualNodes log position unit ∧
      (∀ other, change = .add other →
        position ∉ virtualNodePositions other.id virtualNodes) ∧
      change ≠ .remove unit.id) := by
  constructor
  · rintro ⟨earlier, later, hlog, hlabel, hlast, hstays⟩
    rcases List.eq_nil_or_concat later with rfl | ⟨between, last, rfl⟩
    · -- the claim was made by the last change
      obtain ⟨-, hchange⟩ := List.append_inj' hlog rfl
      exact Or.inl ⟨(List.cons.inj hchange).1, hlabel⟩
    · -- it was made before, and `between` separates it from the last change
      rw [List.concat_eq_append] at hlog hlast hstays
      have hsplit : log ++ [change] = (earlier ++ .add unit :: between) ++ [last] := by
        rw [hlog, List.append_assoc, List.cons_append]
      obtain ⟨hbefore, hchange⟩ := List.append_inj' hsplit rfl
      obtain ⟨rfl, -⟩ := List.cons.inj hchange
      refine Or.inr ⟨⟨earlier, between, hbefore, hlabel, ?_, ?_⟩, ?_, ?_⟩
      · exact fun other hother => hlast other (List.mem_append_left _ hother)
      · exact fun hmem => hstays (List.mem_append_left _ hmem)
      · rintro other rfl
        exact hlast other (List.mem_append_right _ (List.mem_singleton_self _))
      · rintro rfl
        exact hstays (List.mem_append_right _ (List.mem_singleton_self _))
  · rintro (⟨rfl, hlabel⟩ | ⟨⟨earlier, later, rfl, hlabel, hlast, hstays⟩, hother, hremove⟩)
    · exact ⟨log, [], rfl, hlabel, by simp, by simp⟩
    · refine ⟨earlier, later ++ [change], by simp, hlabel, fun other hmem => ?_, fun hmem => ?_⟩
      · rcases List.mem_append.1 hmem with hmem | hmem
        · exact hlast other hmem
        · exact hother other (List.mem_singleton.1 hmem).symm
      · rcases List.mem_append.1 hmem with hmem | hmem
        · exact hstays hmem
        · exact hremove (List.mem_singleton.1 hmem).symm

theorem mem_virtualNodePositions (hv : ring.virtualNodes = virtualNodes) {id : String} :
    position ∈ ring.labelPositions id ↔ position ∈ virtualNodePositions id virtualNodes := by
  simp [mem_labelPositions, virtualNodePositions, hv]

/-- If the log tells who owns a position, it still does after one more change. -/
theorem slots_alter?_iff_lastClaim (hs : ring.Sound) (hv : ring.virtualNodes = virtualNodes)
    (hslots : ring.slots[position]? = some unit ↔ LastClaim virtualNodes log position unit)
    (h : ring.alter? change = some ring') :
    ring'.slots[position]? = some unit ↔
      LastClaim virtualNodes (log ++ [change]) position unit := by
  rw [lastClaim_concat, ← hslots]
  cases change with
  | add other =>
    rw [getElem?_slots_insert? h]
    simp only [mem_virtualNodePositions hv]
    by_cases hclaim : position ∈ virtualNodePositions other.id virtualNodes
    · rw [if_pos hclaim]
      constructor
      · intro hunit
        obtain rfl := Option.some.inj hunit
        exact Or.inl ⟨rfl, hclaim⟩
      · rintro (⟨hunit, -⟩ | ⟨-, hnot, -⟩)
        · rw [Change.add.inj hunit]
        · exact absurd hclaim (hnot other rfl)
    · rw [if_neg hclaim]
      constructor
      · intro hunit
        refine Or.inr ⟨hunit, fun another hsame => ?_, nofun⟩
        rwa [← Change.add.inj hsame]
      · rintro (⟨hunit, hlabel⟩ | ⟨hunit, -⟩)
        · obtain rfl := Change.add.inj hunit
          exact absurd hlabel hclaim
        · exact hunit
  | remove id =>
    rw [getElem?_slots_erase? hs h, Option.filter_eq_some_iff, bne_iff_ne]
    constructor
    · rintro ⟨hunit, hid⟩
      refine Or.inr ⟨hunit, fun _ => nofun, fun hsame => ?_⟩
      exact hid (Change.remove.inj hsame).symm
    · rintro (⟨hunit, -⟩ | ⟨hunit, -, hid⟩)
      · cases hunit
      · exact ⟨hunit, fun hsame => hid (by rw [hsame])⟩

/-- A position is owned by the last unit that was admitted with a label there, if it was not removed
since. -/
theorem getElem?_slots_ofHistory (virtualNodes : Nat) (changes : List Change) (position : Position)
    (unit : UnitRef) : (ofHistory virtualNodes changes).slots[position]? = some unit ↔
      LastClaim virtualNodes (accepted { virtualNodes } changes) position unit := by
  have hlog := history_induction
    (P := fun log ring => ring.Sound ∧ ring.virtualNodes = virtualNodes ∧
      (ring.slots[position]? = some unit ↔ LastClaim virtualNodes log position unit))
    virtualNodes changes ?_ ?_
  · exact hlog.2.2
  · refine ⟨sound_empty virtualNodes, rfl, fun h => ?_, fun h => absurd h not_lastClaim_nil⟩
    simp at h
  · rintro log ring change ring' ⟨hs, hv, hslots⟩ h
    exact ⟨hs.alter? h, (virtualNodes_alter? h).trans hv, slots_alter?_iff_lastClaim hs hv hslots h⟩

end QuorumRing.Ring
