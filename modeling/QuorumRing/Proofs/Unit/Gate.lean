import Mathlib.Data.Set.Card
import QuorumRing.Unit.Basic

/-!
# A map behind a switch

Of the calls that a unit is given, those that store, read or remove are accepted while it is switched
on (`UnitCall.accepted`). After any calls the unit holds what a plain map holds that was given the
accepted calls only, and it has counted these (`StorageUnit.Gated`). What it answers is what this map
has under the key, or a refusal. Only the lists of what it holds, and the self test, pass by the switch.
-/

namespace QuorumRing

/-- A list without repetitions is as long as the set of its elements is large. -/
theorem ncard_eq_length {α : Type} [DecidableEq α] {s : Set α} {l : List α} (hnodup : l.Nodup)
    (hmem : ∀ a, a ∈ s ↔ a ∈ l) : s.ncard = l.length := by
  have hset : s = ↑l.toFinset := by
    ext a
    rw [Finset.mem_coe, List.mem_toFinset, hmem]
  rw [hset, Set.ncard_coe_finset, List.toFinset_card_of_nodup hnodup]

/-- What can be asked of a unit. -/
inductive UnitCall where
  /-- Store a value. -/
  | put (key value : String)
  /-- Read a value. -/
  | get (key : String)
  /-- Remove a key. -/
  | remove (key : String)
  /-- Ask whether a key can be read. -/
  | containsKey (key : String)
  /-- Copy all entries. -/
  | snapshot
  /-- List the keys. -/
  | keys
  /-- Count the keys. -/
  | size
  /-- Switch on or off. -/
  | setActive (active : Bool)
  /-- Perform a self test. -/
  | selfTest
deriving DecidableEq, Repr

namespace UnitCall

/-- The type of the answer to a call. -/
abbrev Answer : UnitCall → Type
  | put .. | get _ | remove _ => Except Error (Option String)
  | containsKey _ => Bool
  | snapshot => Contents
  | keys => List String
  | size => Nat
  | setActive _ => Unit
  | selfTest => Except Error Unit

/-- Whether the switch decides if the call is accepted. -/
def gated : UnitCall → Bool
  | put .. | get _ | remove _ => true
  | _ => false

/-- Whether the unit is on after the calls. -/
def switched (active : Bool) : List UnitCall → Bool
  | [] => active
  | setActive active :: calls => switched active calls
  | _ :: calls => switched active calls

/-- The calls that store, read or remove while the unit is on. -/
def accepted (active : Bool) : List UnitCall → List UnitCall
  | [] => []
  | setActive active :: calls => accepted active calls
  | call :: calls =>
    if active && call.gated then call :: accepted active calls else accepted active calls

/-- What a call makes of a plain map. -/
def update (map : String → Option String) : UnitCall → String → Option String
  | put key value => Function.update map key (some value)
  | remove key => Function.update map key none
  | _ => map

/-- What calls make of a plain map. -/
def replay (map : String → Option String) (calls : List UnitCall) : String → Option String :=
  calls.foldl update map

/-- What is to be answered by a unit of this id, on or off, if it stands for a plain map. -/
def Answers (id : String) (active : Bool) (map : String → Option String) :
    (call : UnitCall) → call.Answer → Prop
  | put key _, answer => answer = if active then .ok (map key) else .error (.nodeInactive id)
  | get key, answer => answer = if active then .ok (map key) else .error (.nodeInactive id)
  | remove key, answer => answer = if active then .ok (map key) else .error (.nodeInactive id)
  | containsKey key, answer => answer = (active && (map key).isSome)
  | snapshot, contents => ∀ key : String, contents[key]? = map key
  | keys, listed => listed.Nodup ∧ ∀ key, key ∈ listed ↔ (map key).isSome
  | size, count => count = {key | (map key).isSome}.ncard
  | setActive _, _ => True
  | selfTest, verdict => verdict = .ok ()

variable {active : Bool} {calls calls' : List UnitCall} {call : UnitCall}

theorem switched_append : switched active (calls ++ calls') =
    switched (switched active calls) calls' := by
  induction calls generalizing active with
  | nil => rfl
  | cons call calls ih => cases call <;> exact ih

theorem accepted_append : accepted active (calls ++ calls') =
    accepted active calls ++ accepted (switched active calls) calls' := by
  induction calls generalizing active with
  | nil => rfl
  | cons call calls ih =>
    cases call <;> cases active <;> simp [accepted, switched, gated, ih]

theorem switched_singleton (h : call.gated = true) : switched active [call] = active := by
  cases call <;> simp [gated] at h <;> rfl

theorem accepted_singleton (h : call.gated = true) :
    accepted active [call] = if active then [call] else [] := by
  cases call <;> simp [gated] at h <;> simp [accepted, gated]

/-- A unit that is off accepts nothing before it is switched on. -/
theorem accepted_of_notMem (h : setActive true ∉ calls) : accepted false calls = [] := by
  induction calls with
  | nil => rfl
  | cons call calls ih =>
    obtain ⟨hcall, hcalls⟩ := not_or.1 (List.mem_cons.not.1 h)
    cases call with
    | setActive active =>
      cases active
      case false => exact ih hcalls
      case true => exact absurd rfl hcall
    | _ => exact ih hcalls

end UnitCall

namespace StorageUnit

open UnitCall

variable (unit : StorageUnit)

/-! ## One call -/

/-- Answers a call. -/
def call : (call : UnitCall) → call.Answer × StorageUnit
  | .put key value => unit.attempt (·.put key value)
  | .get key => unit.attempt (·.get key)
  | .remove key => unit.attempt (·.remove key)
  | .containsKey key => (unit.containsKey key, unit)
  | .snapshot => (unit.contents, unit)
  | .keys => (unit.keys, unit)
  | .size => (unit.size, unit)
  | .setActive active => ((), unit.setActive active)
  | .selfTest => unit.selfTest

/-- The unit after some calls. -/
def afterCalls (calls : List UnitCall) : StorageUnit :=
  calls.foldl (fun unit call => (unit.call call).2) unit

/-- The entries as a plain map. -/
def entries (key : String) : Option String := unit.contents[key]?

variable {unit}

theorem attempt_accept_of_active {α : Type} (h : unit.active = true)
    (operation : Contents → α × Contents) :
    unit.attempt (·.accept operation) = (.ok (operation unit.contents).1,
      { unit with
        contents := (operation unit.contents).2
        operations := unit.operations + 1 }) := by
  simp [attempt, accept, h]

theorem attempt_accept_of_inactive {α : Type} (h : unit.active = false)
    (operation : Contents → α × Contents) :
    unit.attempt (·.accept operation) = (.error (.nodeInactive unit.id), unit) := by
  simp [attempt, accept, h]

theorem entries_insert (contents : Contents) (key value : String) :
    (fun j => (contents.insert key value)[j]?) =
      Function.update (fun j => contents[j]?) key (some value) := by
  funext j
  by_cases hj : j = key
  · simp [hj]
  · simp [Std.ExtTreeMap.getElem?_insert, Function.update_of_ne hj, Ne.symm hj]

theorem entries_erase (contents : Contents) (key : String) :
    (fun j => (contents.erase key)[j]?) =
      Function.update (fun j => contents[j]?) key none := by
  funext j
  by_cases hj : j = key
  · simp [hj]
  · simp [Std.ExtTreeMap.getElem?_erase, Function.update_of_ne hj, Ne.symm hj]

theorem nodup_keys (unit : StorageUnit) : unit.keys.Nodup := Std.ExtTreeMap.nodup_keys

theorem mem_keys_iff {key : String} : key ∈ unit.keys ↔ (unit.entries key).isSome :=
  Std.ExtTreeMap.mem_keys.trans Std.ExtTreeMap.mem_iff_isSome_getElem?

theorem size_eq_ncard (unit : StorageUnit) : unit.size = {key | (unit.entries key).isSome}.ncard := by
  have hcard := ncard_eq_length (s := {key | (unit.entries key).isSome}) unit.nodup_keys fun _ =>
    mem_keys_iff.symm
  exact Std.ExtTreeMap.length_keys.symm.trans hcard.symm

theorem attempt_fst (key : String) (operation : Contents → Contents) :
    (unit.attempt (·.accept fun contents => (contents[key]?, operation contents))).1 =
      if unit.active then .ok (unit.entries key) else .error (.nodeInactive unit.id) := by
  cases hactive : unit.active
  case false =>
    rw [attempt_accept_of_inactive hactive]
    rfl
  case true =>
    rw [attempt_accept_of_active hactive]
    rfl

/-- A unit answers as the map of its entries behind its own switch. -/
theorem answers_call (unit : StorageUnit) (asked : UnitCall) :
    Answers unit.id unit.active unit.entries asked (unit.call asked).1 := by
  cases asked with
  | put key value => exact attempt_fst key (·.insert key value)
  | get key => exact attempt_fst key fun contents => contents
  | remove key => exact attempt_fst key (·.erase key)
  | containsKey key =>
    have hcontains : unit.contents.contains key = (unit.entries key).isSome :=
      Std.ExtTreeMap.contains_eq_isSome_getElem?
    exact congrArg (unit.active && ·) hcontains
  | snapshot => exact fun key => rfl
  | keys => exact ⟨unit.nodup_keys, fun _ => mem_keys_iff⟩
  | size => exact unit.size_eq_ncard
  | setActive => trivial
  | selfTest => exact congrArg Prod.fst unit.selfTest_eq

/-! ## Many calls -/

/-- What has become of a unit by some calls. -/
structure Gated (unit : StorageUnit) (calls : List UnitCall) (now : StorageUnit) : Prop where
  /-- It is the same unit. -/
  place : now.id = unit.id ∧ now.host = unit.host ∧ now.port = unit.port
  /-- It was switched last as the calls say. -/
  active : now.active = switched unit.active calls
  /-- It holds what a plain map holds after the accepted calls. -/
  entries : now.entries = replay unit.entries (accepted unit.active calls)
  /-- It has counted them. -/
  operations : now.operations = unit.operations + (accepted unit.active calls).length

theorem Gated.trans {mid now : StorageUnit} {calls calls' : List UnitCall}
    (h : Gated unit calls mid) (h' : Gated mid calls' now) : Gated unit (calls ++ calls') now where
  place := by
    rw [h'.place.1, h'.place.2.1, h'.place.2.2]
    exact h.place
  active := by rw [h'.active, h.active, switched_append]
  entries := by rw [h'.entries, h.entries, h.active, accepted_append, replay, replay, replay,
    List.foldl_append]
  operations := by rw [h'.operations, h.operations, h.active, accepted_append, List.length_append,
    Nat.add_assoc]

/-- An operation on the contents is accepted and counted, or leaves no trace. -/
theorem gated_attempt {α : Type} {asked : UnitCall} (hgated : asked.gated = true)
    (operation : Contents → α × Contents)
    (hupdate : (fun key : String => (operation unit.contents).2[key]?) = asked.update unit.entries) :
    Gated unit [asked] (unit.attempt (·.accept operation)).2 := by
  cases hactive : unit.active
  case false =>
    rw [attempt_accept_of_inactive hactive]
    constructor <;>
      simp [switched_singleton hgated, accepted_singleton hgated, hactive, replay]
  case true =>
    rw [attempt_accept_of_active hactive]
    constructor
    case entries =>
      rw [accepted_singleton hgated, if_pos hactive]
      exact hupdate
    all_goals simp [switched_singleton hgated, accepted_singleton hgated, hactive]

theorem gated_call (unit : StorageUnit) (asked : UnitCall) :
    Gated unit [asked] (unit.call asked).2 := by
  cases asked with
  | put key value => exact gated_attempt rfl _ (entries_insert _ key value)
  | get key => exact gated_attempt rfl _ rfl
  | remove key => exact gated_attempt rfl _ (entries_erase _ key)
  | selfTest =>
    rw [call, selfTest_eq]
    constructor <;> simp [switched, accepted, gated, replay]
  | _ => constructor <;> simp [call, setActive, switched, accepted, gated, replay] <;> rfl

theorem gated_afterCalls (unit : StorageUnit) (calls : List UnitCall) :
    Gated unit calls (unit.afterCalls calls) := by
  induction calls generalizing unit with
  | nil => exact ⟨⟨rfl, rfl, rfl⟩, rfl, rfl, rfl⟩
  | cons asked calls ih => exact (gated_call unit asked).trans (ih _)

/-- If no call was accepted, nothing has changed but the switch. -/
theorem Gated.eq_of_accepted_eq_nil {calls : List UnitCall} {now : StorageUnit}
    (h : Gated unit calls now) (hnil : accepted unit.active calls = []) :
    now = { unit with active := switched unit.active calls } := by
  obtain ⟨⟨hid, hhost, hport⟩, hactive, hentries, hoperations⟩ := h
  rw [hnil] at hentries hoperations
  have hcontents : now.contents = unit.contents :=
    Std.ExtTreeMap.ext_getElem? fun key => congrFun hentries key
  cases now
  simp_all

/-- A unit is a plain map behind a switch. After any calls it is what the accepted ones have made of
it, and it answers as the plain map that was given these: if it is off, storing, reading and removing
are refused, and no key can be seen. A refused call changes nothing, and neither does one that lists,
counts or tests. Whatever is asked of it between being switched off and on again, a unit comes back
with all that it had. -/
theorem map_behind_switch (unit : StorageUnit) (calls : List UnitCall) :
    let now := unit.afterCalls calls
    let map := replay unit.entries (accepted unit.active calls)
    Gated unit calls now ∧
      (∀ asked, Answers unit.id now.active map asked (now.call asked).1) ∧
      (∀ asked, (asked.gated = true → now.active = false) → asked ≠ .setActive (!now.active) →
        (now.call asked).2 = now) ∧
      ∀ quiet, .setActive true ∉ quiet →
        now.afterCalls (.setActive false :: quiet ++ [.setActive true]) =
          { now with active := true } := by
  intro now map
  have hnow : Gated unit calls now := gated_afterCalls unit calls
  refine ⟨hnow, ?answers, ?unchanged, ?back⟩
  case answers =>
    intro asked
    have hanswers := answers_call now asked
    rwa [hnow.place.1, hnow.entries] at hanswers
  case unchanged =>
    intro asked hrefused hswitch
    have hcalls : switched now.active [asked] = now.active ∧ accepted now.active [asked] = [] := by
      cases asked <;> cases hactive : now.active <;>
        simp_all [switched, accepted, gated]
    rw [(gated_call now asked).eq_of_accepted_eq_nil hcalls.2, hcalls.1]
  case back =>
    intro quiet hquiet
    have hback := gated_afterCalls now (.setActive false :: quiet ++ [.setActive true])
    have hcalls : switched now.active (.setActive false :: quiet ++ [.setActive true]) = true := by
      rw [switched_append]
      rfl
    have hrefused : accepted now.active (.setActive false :: quiet ++ [.setActive true]) = [] := by
      rw [accepted_append, accepted, accepted_of_notMem hquiet]
      rfl
    rw [hback.eq_of_accepted_eq_nil hrefused, hcalls]

/-- A unit that starts switched off, with an entry of a user under the key of the self test. It refuses
a value, is switched on, takes one and shows it, and is switched off and tested. -/
theorem map_behind_switch_refusing :
    let unit : StorageUnit :=
      { id := "n1", host := "localhost", port := 8001
        contents := .ofList [(probeKey, "mine")], active := false }
    let calls : List UnitCall := [.put "a" "0", .setActive true, .put "a" "1", .get "a",
      .setActive false, .selfTest]
    let now := unit.afterCalls calls
    let back := now.afterCalls [.setActive false, .put "a" "2", .selfTest, .setActive true]
    now.operations = 2 ∧ (now.call (.get "a")).1 = .error (.nodeInactive "n1") ∧
      (now.call (.containsKey "a")).1 = false ∧ (now.call (.put "a" "2")).2 = now ∧
      back = { now with active := true } ∧ (back.call (.get "a")).1 = .ok (some "1") ∧
      (back.call (.get probeKey)).1 = .ok (some "mine") := by
  intro unit calls now back
  obtain ⟨hnow, hanswers, hunchanged, hback⟩ := map_behind_switch unit calls
  have hoff : now.active = false := hnow.active
  have hreturned : back = { now with active := true } :=
    hback [.put "a" "2", .selfTest] (by decide)
  have hentries : ∀ key, now.entries key =
      replay unit.entries [.put "a" "1", .get "a"] key := congrFun hnow.entries
  have hshown : ∀ key, (back.call (.get key)).1 = .ok (now.entries key) := by
    intro key
    have hget := answers_call back (.get key)
    rwa [hreturned] at hget ⊢
  refine ⟨hnow.operations, ?_, ?_, hunchanged _ (fun _ => hoff) (by simp), hreturned, ?_, ?_⟩
  · exact (hanswers (.get "a")).trans (if_neg (Bool.eq_false_iff.1 hoff))
  · exact (hanswers (.containsKey "a")).trans (by rw [hoff, Bool.false_and])
  · rw [hshown, hentries]
    rfl
  · rw [hshown, hentries]
    decide

end StorageUnit

end QuorumRing
