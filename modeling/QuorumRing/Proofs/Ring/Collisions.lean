import QuorumRing.Proofs.Ring.History

/-!
# Virtual nodes at one position

A position tells the first four bytes of a digest and nothing else (`Position.ofBytes_eq_iff`), and
neither the label of a virtual node nor its bytes are those of another one (`labelBytes_eq_iff`). So two
virtual nodes meet only where the digest collides on their labels (`position_eq_iff`).

Whatever is wrong with a ring comes from such a collision. As long as there is none, the labels of the
ids lie apart (`labelsApart_iff`), nobody loses a position to a newcomer (`Ring.displaced_iff`), and
every history leads to a consistent ring (`Ring.isConsistent_or_collisionAmong`).
-/

namespace QuorumRing

/-! ## What a position tells of a text -/

theorem byteArray_toList_loop (bytes : ByteArray) (i : Nat) (read : List UInt8) :
    ByteArray.toList.loop bytes i read = read.reverse ++ bytes.data.toList.drop i := by
  fun_induction ByteArray.toList.loop bytes i read with
  | case1 i read hlt ih =>
    calc ByteArray.toList.loop bytes (i + 1) (bytes.get! i :: read)
        = read.reverse ++ bytes.data[i]! :: bytes.data.toList.drop (i + 1) := by
          rw [ih, List.reverse_cons, List.append_assoc, List.singleton_append]
          rfl
      _ = read.reverse ++ bytes.data.toList.drop i := by
          rw [getElem!_pos bytes.data i hlt, ← Array.getElem_toList, List.getElem_cons_drop]
  | case2 i read hge =>
    rw [List.drop_eq_nil_of_le (Nat.not_lt.1 hge), List.append_nil]

/-- Different texts have different bytes. -/
theorem toList_toUTF8_inj {s t : String} : s.toUTF8.toList = t.toUTF8.toList ↔ s = t := by
  have hdata : ∀ bytes : ByteArray, bytes.toList = bytes.data.toList := by
    intro bytes
    rw [ByteArray.toList, byteArray_toList_loop, List.reverse_nil, List.nil_append, List.drop_zero]
  constructor
  · intro h
    rw [hdata, hdata] at h
    exact String.toByteArray_inj.1 (ByteArray.ext (Array.toList_inj.1 h))
  · rintro rfl
    rfl

theorem Blake3.length_digest (bytes : List UInt8) : (Blake3.digest bytes).length = 32 := by
  rw [Blake3.digest, List.length_flatMap]
  simp [Blake3.wordBytes]

/-- Two different inputs whose digests begin with the same four bytes. -/
def Blake3.Collide (x y : List UInt8) : Prop :=
  x ≠ y ∧ (Blake3.digest x).take 4 = (Blake3.digest y).take 4

namespace Position

theorem toNat_shiftLeft_of_le (byte : UInt8) {n : UInt32} (h : n.toNat ≤ 24) :
    (byte.toUInt32 <<< n).toNat = 2 ^ n.toNat * byte.toNat := by
  have hbyte : byte.toNat ≤ 255 := Nat.le_of_lt_succ byte.toNat_lt
  have hpow : 2 ^ n.toNat ≤ 2 ^ 24 := Nat.pow_le_pow_right (by decide) h
  have hfits : byte.toNat * 2 ^ n.toNat ≤ 255 * 2 ^ 24 := Nat.mul_le_mul hbyte hpow
  have hn : n.toNat % 32 = n.toNat := Nat.mod_eq_of_lt (by omega)
  rw [UInt32.toNat_shiftLeft, hn, UInt8.toNat_toUInt32, Nat.shiftLeft_eq,
    Nat.mod_eq_of_lt (by omega), Nat.mul_comm]

/-- The four bytes stand side by side, and none of them reaches into another one. -/
theorem toNat_ofBigEndian (a b c d : UInt8) (rest : List UInt8) :
    (ofBigEndian (a :: b :: c :: d :: rest)).toNat =
      2 ^ 24 * a.toNat + (2 ^ 16 * b.toNat + (2 ^ 8 * c.toNat + d.toNat)) := by
  have hb := b.toNat_lt
  have hc := c.toNat_lt
  have hd := d.toNat_lt
  have hcd : 2 ^ 8 * c.toNat + d.toNat < 2 ^ 16 := by omega
  have hbcd : 2 ^ 16 * b.toNat + (2 ^ 8 * c.toNat + d.toNat) < 2 ^ 24 := by omega
  rw [ofBigEndian, UInt32.toNat_or, UInt32.toNat_or, UInt32.toNat_or,
    toNat_shiftLeft_of_le a (by decide), toNat_shiftLeft_of_le b (by decide),
    toNat_shiftLeft_of_le c (by decide), UInt8.toNat_toUInt32, Nat.or_assoc, Nat.or_assoc]
  change 2 ^ 24 * a.toNat ||| (2 ^ 16 * b.toNat ||| (2 ^ 8 * c.toNat ||| d.toNat)) = _
  rw [← Nat.two_pow_add_eq_or_of_lt hd, ← Nat.two_pow_add_eq_or_of_lt hcd,
    ← Nat.two_pow_add_eq_or_of_lt hbcd]

theorem ofBigEndian_eq_iff {bytes bytes' : List UInt8} (h : 4 ≤ bytes.length)
    (h' : 4 ≤ bytes'.length) :
    ofBigEndian bytes = ofBigEndian bytes' ↔ bytes.take 4 = bytes'.take 4 := by
  match bytes, bytes', h, h' with
  | a :: b :: c :: d :: rest, a' :: b' :: c' :: d' :: rest', _, _ =>
    have hb := b.toNat_lt
    have hb' := b'.toNat_lt
    have hc := c.toNat_lt
    have hc' := c'.toNat_lt
    have hd := d.toNat_lt
    have hd' := d'.toNat_lt
    rw [← UInt32.toNat_inj, toNat_ofBigEndian, toNat_ofBigEndian]
    simp only [List.take_succ_cons, List.take_zero, List.cons.injEq, and_true, ← UInt8.toNat_inj]
    omega

/-- Two inputs are at one position if and only if their digests begin alike. -/
theorem ofBytes_eq_iff {x y : List UInt8} : ofBytes x = ofBytes y ↔
    (Blake3.digest x).take 4 = (Blake3.digest y).take 4 := by
  have hlong : ∀ bytes : List UInt8, 4 ≤ (Blake3.digest bytes).length := by
    intro bytes
    rw [Blake3.length_digest]
    decide
  exact ofBigEndian_eq_iff (hlong x) (hlong y)

end Position

/-! ## Labels -/

/-- The input of the digest for a virtual node of a unit: the bytes of its label. -/
def labelBytes (id : String) (index : Nat) : List UInt8 :=
  (virtualNodeLabel id index).toUTF8.toList

variable {a b : String} {i j : Nat}

theorem virtualNodeLabel_eq_iff : virtualNodeLabel a i = virtualNodeLabel b j ↔ a = b ∧ i = j := by
  constructor
  · exact virtualNodeLabel_inj
  · rintro ⟨rfl, rfl⟩
    rfl

theorem labelBytes_eq_iff : labelBytes a i = labelBytes b j ↔ a = b ∧ i = j :=
  toList_toUTF8_inj.trans virtualNodeLabel_eq_iff

/-- The digest collides on two labels if and only if they are of different virtual nodes at one
position. -/
theorem collide_iff : Blake3.Collide (labelBytes a i) (labelBytes b j) ↔
    ¬(a = b ∧ i = j) ∧
      Position.ofString (virtualNodeLabel a i) = Position.ofString (virtualNodeLabel b j) := by
  rw [Blake3.Collide, ne_eq, labelBytes_eq_iff, ← Position.ofBytes_eq_iff]
  rfl

theorem position_eq_iff :
    Position.ofString (virtualNodeLabel a i) = Position.ofString (virtualNodeLabel b j) ↔
      (a = b ∧ i = j) ∨ Blake3.Collide (labelBytes a i) (labelBytes b j) := by
  rw [collide_iff]
  constructor
  · intro h
    by_cases hsame : a = b ∧ i = j
    · exact Or.inl hsame
    · exact Or.inr ⟨hsame, h⟩
  · rintro (⟨rfl, rfl⟩ | ⟨-, h⟩)
    · rfl
    · exact h

/-- The digest collides on labels of two virtual nodes, of so many for each of the ids. -/
def CollisionAmong (virtualNodes : Nat) (ids : List String) : Prop :=
  ∃ a ∈ ids, ∃ b ∈ ids, ∃ i < virtualNodes, ∃ j < virtualNodes,
    Blake3.Collide (labelBytes a i) (labelBytes b j)

theorem labelsApart_iff {virtualNodes : Nat} {ids : List String} :
    LabelsApart virtualNodes ids ↔ ¬ CollisionAmong virtualNodes ids := by
  simp only [LabelsApart, CollisionAmong, collide_iff, ne_eq, virtualNodeLabel_eq_iff]
  push Not
  rfl

/-! ## Rings -/

namespace Ring

variable {ring ring' : Ring} {unit owner : UnitRef} {position : Position}

/-- A newcomer takes a position from its owner if and only if the digest collides on labels of the
two. -/
theorem displaced_iff (hs : ring.Sound) (hinsert : ring.insert? unit = some ring')
    (hslot : ring.slots[position]? = some owner) :
    ring'.slots[position]? ≠ some owner ↔
      ∃ i < ring.virtualNodes, ∃ j < ring.virtualNodes,
        Position.ofString (virtualNodeLabel owner.id j) = position ∧
          Blake3.Collide (labelBytes unit.id i) (labelBytes owner.id j) := by
  -- the owner is registered, and the newcomer is not
  have hid : unit.id ≠ owner.id := by
    intro hsame
    have hfree := get?_eq_none_iff.2 (insert?_eq_some_iff.1 hinsert).1
    rw [hsame, hs.owner_registered hslot] at hfree
    simp at hfree
  have hunit : unit ≠ owner := fun hsame => hid (congrArg UnitRef.id hsame)
  have hlost : ring'.slots[position]? ≠ some owner ↔ position ∈ ring.labelPositions unit.id := by
    rw [getElem?_slots_insert? hinsert]
    split
    next hclaim => simp [hunit, hclaim]
    next hclaim => simp [hslot, hclaim]
  rw [hlost, mem_labelPositions]
  constructor
  · rintro ⟨i, hi, hlabel⟩
    obtain ⟨j, hj, hlabel'⟩ := mem_labelPositions.1 (hs.owner_label hslot)
    refine ⟨i, hi, j, hj, hlabel', collide_iff.2 ⟨fun hsame => hid hsame.1, ?_⟩⟩
    rw [hlabel, hlabel']
  · rintro ⟨i, hi, j, -, hlabel, hcollide⟩
    exact ⟨i, hi, (collide_iff.1 hcollide).2.trans hlabel⟩

theorem isConsistent_or_collisionAmong (virtualNodes : Nat) (changes : List Change) :
    (ofHistory virtualNodes changes).isConsistent = true ∨
      CollisionAmong virtualNodes (changes.flatMap Change.admits) := by
  by_cases hcollision : CollisionAmong virtualNodes (changes.flatMap Change.admits)
  · exact Or.inr hcollision
  · have hapart := apart_ofHistory (labelsApart_iff.2 hcollision) (List.Subset.refl _)
    exact Or.inl hapart.isConsistent

end Ring

/-- A label determines its unit and its index, whatever the ids hold. So two virtual nodes are at one
position if and only if they are the same or the digest collides on their labels. After every history,
a newcomer takes a position from its owner if and only if the digest collides on labels of the two, and
the ring is consistent unless there is a collision among the ids that were to be admitted. -/
theorem positions_shared_by_collision :
    (∀ (a b : String) (i j : Nat),
      virtualNodeLabel a i = virtualNodeLabel b j ↔ a = b ∧ i = j) ∧
    (∀ (a b : String) (i j : Nat),
      Position.ofString (virtualNodeLabel a i) = Position.ofString (virtualNodeLabel b j) ↔
        (a = b ∧ i = j) ∨ Blake3.Collide (labelBytes a i) (labelBytes b j)) ∧
    ∀ (virtualNodes : Nat) (changes : List Ring.Change),
      let ring := Ring.ofHistory virtualNodes changes
      (∀ unit ring' position owner, ring.insert? unit = some ring' →
        ring.slots[position]? = some owner →
          (ring'.slots[position]? ≠ some owner ↔
            ∃ i < virtualNodes, ∃ j < virtualNodes,
              Position.ofString (virtualNodeLabel owner.id j) = position ∧
                Blake3.Collide (labelBytes unit.id i) (labelBytes owner.id j))) ∧
      (ring.isConsistent = true ∨
        CollisionAmong virtualNodes (changes.flatMap Ring.Change.admits)) := by
  refine ⟨fun _ _ _ _ => virtualNodeLabel_eq_iff, fun _ _ _ _ => position_eq_iff,
    fun virtualNodes changes => ?_⟩
  intro ring
  refine ⟨?_, Ring.isConsistent_or_collisionAmong virtualNodes changes⟩
  intro unit ring' position owner hinsert hslot
  have hs : ring.Sound := Ring.sound_ofHistory virtualNodes changes
  have hv : ring.virtualNodes = virtualNodes := Ring.virtualNodes_ofHistory virtualNodes changes
  rw [Ring.displaced_iff hs hinsert hslot, hv]

/-- Ids that hold colons and digits have labels of their own. The digest collides on the labels of two
other ids, so that the second unit takes over the position of the first one. -/
theorem positions_shared_by_collision_takeover :
    virtualNodeLabel "a:1" 12 ≠ virtualNodeLabel "a:1:1" 2 ∧
    virtualNodeLabel "" 0 ≠ virtualNodeLabel ":" 0 ∧
    Blake3.Collide (labelBytes "node71347" 0) (labelBytes "node71237" 0) ∧
    let ring := Ring.ofHistory 1 [.add ⟨"node71237", 0⟩]
    ring.slots[(3588211918 : Position)]? = some ⟨"node71237", 0⟩ ∧
      ∃ ring', ring.insert? ⟨"node71347", 1⟩ = some ring' ∧
        ring'.slots[(3588211918 : Position)]? ≠ some ⟨"node71237", 0⟩ := by
  obtain ⟨hlabels, hpositions, hrings⟩ := positions_shared_by_collision
  have hlabel : Position.ofString (virtualNodeLabel "node71237" 0) = 3588211918 := by
    decide +kernel
  have hsame : Position.ofString (virtualNodeLabel "node71347" 0) =
      Position.ofString (virtualNodeLabel "node71237" 0) := by
    decide +kernel
  have hcollide : Blake3.Collide (labelBytes "node71347" 0) (labelBytes "node71237" 0) := by
    rcases (hpositions _ _ _ _).1 hsame with ⟨hid, -⟩ | hcollide
    · exact absurd hid (by decide)
    · exact hcollide
  refine ⟨fun h => absurd ((hlabels _ _ _ _).1 h).1 (by decide),
    fun h => absurd ((hlabels _ _ _ _).1 h).1 (by decide), hcollide, ?_⟩
  intro ring
  have hslot : ring.slots[(3588211918 : Position)]? = some ⟨"node71237", 0⟩ := by decide +kernel
  have hfree : (ring.insert? ⟨"node71347", 1⟩).isSome = true := by decide +kernel
  obtain ⟨ring', hinsert⟩ := Option.isSome_iff_exists.1 hfree
  refine ⟨hslot, ring', hinsert, ?_⟩
  exact ((hrings 1 _).1 _ _ _ _ hinsert hslot).2
    ⟨0, Nat.one_pos, 0, Nat.one_pos, hlabel, hcollide⟩

end QuorumRing
