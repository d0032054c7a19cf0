import Mathlib.Data.List.Perm.Basic
import Mathlib.Data.List.Flatten

/-!
# Several queues

What several queues hold together, up to order.  Changing one queue changes the whole by the same
elements.
-/

open List

namespace Queues

variable {α Queue : Type*} {old : Queue} {entered left : List α} {View : Type*}
  {queues : List Queue} {index : Nat} {new : Queue} {content : Queue → List α}
  {view : Queue → View} {received unread after pushed : List α}

theorem getElem?_set_self (found : queues[index]? = some old) :
    (queues.set index new)[index]? = some new :=
  List.getElem?_set_self (List.getElem?_eq_some_iff.mp found).1

theorem of_getElem?_set {place : Nat} {queue : Queue}
    (found : (queues.set index new)[place]? = some queue) :
    place = index ∧ queue = new ∨ place ≠ index ∧ queues[place]? = some queue := by
  by_cases same : index = place
  · subst same
    obtain ⟨in_range, rfl⟩ := List.getElem?_eq_some_iff.mp found
    exact .inl ⟨rfl, by simp⟩
  · rw [List.getElem?_set_ne same] at found
    exact .inr ⟨Ne.symm same, found⟩

section

variable (found : queues[index]? = some old)

include found

theorem exchange (content : Queue → List α) (new : Queue) :
    content old ++ (queues.set index new).flatMap content ~
      content new ++ queues.flatMap content := by
  induction queues generalizing index with
  | nil => simp at found
  | cons queue queues induction =>
    cases index with
    | zero =>
      cases found
      simp only [set_cons_zero, flatMap_cons, ← append_assoc]
      exact perm_append_comm.append_right _
    | succ index =>
      have rest := induction (by simpa using found)
      simp only [set_cons_succ, flatMap_cons]
      calc content old ++ (content queue ++ (queues.set index new).flatMap content)
        _ ~ content queue ++ (content old ++ (queues.set index new).flatMap content) :=
            perm_append_comm_assoc ..
        _ ~ content queue ++ (content new ++ queues.flatMap content) := rest.append_left _
        _ ~ content new ++ (content queue ++ queues.flatMap content) :=
            perm_append_comm_assoc ..

/-- An element which enters a queue is added to the whole. -/
theorem enter (grown : content new = content old ++ entered) :
    (queues.set index new).flatMap content ~ queues.flatMap content ++ entered := by
  have exchanged := exchange found content new
  rw [grown, append_assoc] at exchanged
  exact ((perm_append_left_iff _).mp exchanged).trans perm_append_comm

theorem enter_append (grown : content new = content old ++ entered) (beside : List α) :
    (queues.set index new).flatMap content ++ beside ~
      queues.flatMap content ++ beside ++ entered := by
  calc (queues.set index new).flatMap content ++ beside
    _ ~ queues.flatMap content ++ entered ++ beside := (enter found grown).append_right _
    _ ~ queues.flatMap content ++ beside ++ entered := by
        rw [append_assoc, append_assoc]
        exact perm_append_comm.append_left _

/-- An element which leaves a queue is taken from the whole. -/
theorem leave (shrunk : content old = left ++ content new) :
    left ++ (queues.set index new).flatMap content ~ queues.flatMap content := by
  have exchanged := exchange found content new
  rw [shrunk] at exchanged
  have swapped := (perm_append_comm.append_right _).trans exchanged
  rw [append_assoc] at swapped
  exact (perm_append_left_iff _).mp swapped

theorem leave_append (shrunk : content old = left ++ content new) (beside : List α) :
    left ++ ((queues.set index new).flatMap content ++ beside) ~
      queues.flatMap content ++ beside := by
  rw [← append_assoc]
  exact (leave found shrunk).append_right beside

/-- A queue which changes otherwise changes nothing. -/
theorem unchanged (same : content new = content old) :
    (queues.set index new).flatMap content ~ queues.flatMap content := by
  have exchanged := exchange found content new
  rw [same] at exchanged
  exact (perm_append_left_iff _).mp exchanged

end

theorem map_modify {change : Queue → Queue} (same : ∀ queue, view (change queue) = view queue)
    (index : Nat) : (queues.modify index change).map view = queues.map view := by
  induction queues generalizing index with
  | nil => simp
  | cons queue queues induction =>
    cases index with
    | zero => simp [same]
    | succ index => simp [induction]

theorem map_set (found : queues[index]? = some old) (same : view new = view old) :
    (queues.set index new).map view = queues.map view := by
  rw [List.map_set, same]
  have seen : (queues.map view)[index]? = some (view old) := by rw [List.getElem?_map, found]; rfl
  obtain ⟨in_range, place⟩ := List.getElem?_eq_some_iff.mp seen
  rw [← place, List.set_getElem_self]

/-! ## The queues of several owners in one list -/

section Owners

variable {Owner : Type*} [DecidableEq Owner]

def takeFor (owner : Owner) : List (Owner × α) → Option (α × List (Owner × α))
  | [] => none
  | entry :: entries =>
    if entry.1 = owner then some (entry.2, entries)
    else (takeFor owner entries).map fun taken => (taken.1, entry :: taken.2)

theorem perm_of_takeFor {owner : Owner} {entries left : List (Owner × α)} {value : α}
    (taken : takeFor owner entries = some (value, left)) : (owner, value) :: left ~ entries := by
  induction entries generalizing left with
  | nil => cases taken
  | cons entry entries induction =>
    unfold takeFor at taken
    split_ifs at taken with own
    · obtain ⟨rfl, rfl⟩ := Prod.mk.inj (Option.some.inj taken)
      rw [← own]
    · obtain ⟨⟨_, rest⟩, taken_later, same⟩ := Option.map_eq_some_iff.mp taken
      obtain ⟨rfl, rfl⟩ := Prod.mk.inj same
      exact (List.Perm.swap ..).trans ((induction taken_later).cons entry)

/-- An owner without entries gets none. -/
theorem takeFor_eq_none {owner : Owner} {entries : List (Owner × α)}
    (nothing : takeFor owner entries = none) : ∀ entry ∈ entries, entry.1 ≠ owner := by
  induction entries with
  | nil => nofun
  | cons entry entries induction =>
    unfold takeFor at nothing
    split_ifs at nothing with own
    have rest := induction (Option.map_eq_none_iff.mp nothing)
    exact forall_mem_cons.mpr ⟨own, rest⟩

end Owners

/-! ## Conservation -/

theorem conserved_enter (conserved : received ++ unread ~ pushed)
    (grown : after ~ unread ++ entered) : received ++ after ~ pushed ++ entered := by
  calc received ++ after
    _ ~ received ++ (unread ++ entered) := grown.append_left _
    _ = received ++ unread ++ entered := (append_assoc ..).symm
    _ ~ pushed ++ entered := conserved.append_right _

theorem conserved_leave (conserved : received ++ unread ~ pushed)
    (shrunk : left ++ after ~ unread) : received ++ left ++ after ~ pushed := by
  rw [append_assoc]
  exact (shrunk.append_left _).trans conserved

end Queues
