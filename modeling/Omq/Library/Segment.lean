import Mathlib.Data.List.Basic
import Mathlib.Tactic

/-!
# Segmented streams

A stream of elements marked as continued or final is cut into segments, one after every final
element.  A predicate on the open segment may refuse an element, which ends the cut.
-/

namespace Segment

open List

variable {α : Type}

/-- The elements of a segment with their marks: all but the last are continued. -/
def mark : List α → List (Bool × α)
  | [] => []
  | element :: rest => (!rest.isEmpty, element) :: mark rest

theorem mark_map {β : Type} (rename : α → β) (elements : List α) :
    mark (elements.map rename) = (mark elements).map fun marked => (marked.1, rename marked.2) := by
  induction elements with
  | nil => rfl
  | cons element rest ih => simp [mark, ih]

variable {elements segment : List α} {fits : List α → Bool} {element : α}

theorem mem_of_mem_mark {marked : Bool × α} (member : marked ∈ mark elements) :
    marked.2 ∈ elements := by
  induction elements with
  | nil => simp [mark] at member
  | cons element rest ih =>
    obtain rfl | later := mem_cons.mp member
    · simp
    · exact mem_cons_of_mem _ (ih later)

/-- What a cut found: the closed segments, the open one, and whether an element was refused. -/
structure Cut (α : Type) where
  segments : List (List α)
  /-- Elements of the open segment. -/
  pending : List α
  refused : Option α

/-- Cut a stream which continues the segment `pending`. -/
def cut (fits : List α → Bool) : (pending : List α) → List (Bool × α) → Cut α
  | pending, [] => ⟨[], pending, none⟩
  | pending, (more, element) :: rest =>
    if fits (pending ++ [element]) then
      if more then cut fits (pending ++ [element]) rest
      else
        let later := cut fits [] rest
        ⟨(pending ++ [element]) :: later.segments, later.pending, later.refused⟩
    else ⟨[], pending, some element⟩

/-- A cut of a longer stream continues the cut of the shorter one. -/
theorem cut_append (fits : List α → Bool) (pending : List α) (front back : List (Bool × α))
    (accepted : (cut fits pending front).refused = none) :
    cut fits pending (front ++ back) =
      ⟨(cut fits pending front).segments ++
          (cut fits (cut fits pending front).pending back).segments,
        (cut fits (cut fits pending front).pending back).pending,
        (cut fits (cut fits pending front).pending back).refused⟩ := by
  induction front generalizing pending with
  | nil => rfl
  | cons head rest ih =>
    obtain ⟨more, element⟩ := head
    rw [cons_append, cut]
    rw [cut] at accepted ⊢
    split_ifs at accepted ⊢ with room
    · exact ih _ accepted
    · rw [ih _ accepted]
      rfl

variable {pending : List α} {stream : List (Bool × α)}

/-- A refused element is the first which does not fit: the stream before it is accepted. -/
theorem cut_of_refused (refused : (cut fits pending stream).refused = some element) :
    ∃ front more back, stream = front ++ (more, element) :: back ∧
      cut fits pending front =
        ⟨(cut fits pending stream).segments, (cut fits pending stream).pending, none⟩ ∧
      fits ((cut fits pending stream).pending ++ [element]) = false := by
  induction stream generalizing pending with
  | nil => simp [cut] at refused
  | cons head rest ih =>
    obtain ⟨more, first⟩ := head
    by_cases room : fits (pending ++ [first]) = true
    · cases more with
      | true =>
        simp only [cut, room, if_true] at refused ⊢
        obtain ⟨front, mark, back, rfl, accepted, over_full⟩ := ih refused
        refine ⟨(true, first) :: front, mark, back, rfl, ?_, over_full⟩
        rw [cut, if_pos room, if_pos rfl]
        exact accepted
      | false =>
        simp only [cut, room, if_true, Bool.false_eq_true, if_false] at refused ⊢
        obtain ⟨front, mark, back, rfl, accepted, over_full⟩ := ih refused
        refine ⟨(false, first) :: front, mark, back, rfl, ?_, over_full⟩
        rw [cut, if_pos room, if_neg Bool.false_ne_true, accepted]
    · simp only [cut, if_neg room] at refused ⊢
      cases refused
      exact ⟨[], more, rest, rfl, rfl, by simpa using room⟩

/-! ## Cuts with and without a limit -/

/-- A stream none of whose elements is refused is cut as without a limit. -/
theorem cut_of_accepted (accepted : (cut fits pending stream).refused = none) :
    cut fits pending stream = cut (fun _ => true) pending stream := by
  induction stream generalizing pending with
  | nil => rfl
  | cons head rest ih =>
    obtain ⟨more, element⟩ := head
    rw [cut] at accepted ⊢
    rw [cut, if_pos rfl]
    split_ifs at accepted ⊢ with room
    · exact ih accepted
    · rw [ih accepted]

theorem takeWhile_congr {left right : α → Bool} {list : List α}
    (same : ∀ element ∈ list, left element = right element) :
    list.takeWhile left = list.takeWhile right := by
  induction list with
  | nil => rfl
  | cons element list ih =>
    rw [takeWhile_cons, takeWhile_cons, same element (by simp),
      ih fun other member => same other (by simp [member])]

/-- The first segment to be closed continues the open one. -/
theorem prefix_of_head_segments
    (first : (cut (fun _ => true) pending stream).segments.head? = some segment) :
    pending <+: segment := by
  induction stream generalizing pending with
  | nil => simp [cut] at first
  | cons head rest ih =>
    obtain ⟨more, element⟩ := head
    rw [cut, if_pos rfl] at first
    split_ifs at first with continued
    · exact (prefix_append _ _).trans (ih first)
    · cases first
      exact prefix_append _ _

/-- When only short segments fit, those closed under the limit are the first which fit. -/
theorem segments_cut (shorter : ∀ front back, fits (front ++ back) = true → fits front = true)
    (pending : List α) (stream : List (Bool × α)) :
    (cut fits pending stream).segments =
      (cut (fun _ => true) pending stream).segments.takeWhile fits := by
  induction stream generalizing pending with
  | nil => rfl
  | cons head rest ih =>
    obtain ⟨more, element⟩ := head
    by_cases room : fits (pending ++ [element]) = true
    · cases more with
      | true => simp [cut, room, ih]
      | false => simp [cut, room, ih]
    · cases more with
      | false => simp [cut, room]
      | true =>
        simp only [cut, if_neg room, if_true]
        cases first : (cut (fun _ => true) (pending ++ [element]) rest).segments with
        | nil => rfl
        | cons segment later =>
          obtain ⟨back, rfl⟩ := prefix_of_head_segments (by rw [first]; rfl)
          have exceeds : fits (pending ++ [element] ++ back) = false :=
            Bool.eq_false_iff.mpr fun fitting => room (shorter _ _ fitting)
          rw [takeWhile_cons_of_neg (by rw [exceeds]; exact Bool.false_ne_true)]

theorem ne_nil_of_mem_segments (member : segment ∈ (cut fits pending stream).segments) :
    segment ≠ [] := by
  induction stream generalizing pending with
  | nil => simp [cut] at member
  | cons head rest ih =>
    obtain ⟨more, element⟩ := head
    rw [cut] at member
    split_ifs at member with room continued
    · exact ih member
    · obtain rfl | later := mem_cons.mp member
      · simp
      · exact ih later
    · simp at member

/-- A refusal is not revised when the stream goes on. -/
theorem refused_cut_append {front : List (Bool × α)}
    (refused : (cut fits pending front).refused = some element) (back : List (Bool × α)) :
    (cut fits pending (front ++ back)).refused = some element := by
  induction front generalizing pending with
  | nil => simp [cut] at refused
  | cons head rest ih =>
    obtain ⟨more, first⟩ := head
    rw [cons_append, cut]
    rw [cut] at refused
    split_ifs at refused ⊢ with room
    · exact ih refused
    · exact ih refused
    · exact refused

/-- Nothing is refused exactly when every element fits into the segment it would join. -/
theorem refused_cut_eq_none_iff :
    (cut fits pending stream).refused = none ↔
      ∀ front more element back, stream = front ++ (more, element) :: back →
        fits ((cut (fun _ => true) pending front).pending ++ [element]) = true := by
  constructor
  · intro accepted front more element back stream_eq
    subst stream_eq
    have front_accepted : (cut fits pending front).refused = none := by
      by_contra refused
      obtain ⟨first, refused⟩ := Option.ne_none_iff_exists'.mp refused
      rw [refused_cut_append refused] at accepted
      cases accepted
    rw [cut_append fits pending front _ front_accepted, cut_of_accepted front_accepted] at accepted
    by_contra exceeds
    simp [cut, exceeds] at accepted
  · intro room
    by_contra refused
    obtain ⟨element, refused⟩ := Option.ne_none_iff_exists'.mp refused
    obtain ⟨front, more, back, stream_eq, accepted, exceeds⟩ := cut_of_refused refused
    have front_eq := cut_of_accepted (show (cut fits pending front).refused = none by rw [accepted])
    have fitting := room front more element back stream_eq
    rw [← front_eq, accepted, exceeds] at fitting
    cases fitting

/-- A segment which fits at every step is closed as a whole. -/
theorem cut_mark (fits : List α → Bool) (pending : List α) (nonempty : elements ≠ [])
    (room : ∀ front, front <+: elements → front ≠ [] → fits (pending ++ front) = true) :
    cut fits pending (mark elements) = ⟨[pending ++ elements], [], none⟩ := by
  induction elements generalizing pending with
  | nil => exact absurd rfl nonempty
  | cons element rest ih =>
    have first : fits (pending ++ [element]) = true := room [element] (by simp) (by simp)
    rw [mark, cut, if_pos first]
    cases rest with
    | nil => rfl
    | cons second later =>
      simp only [isEmpty_cons, Bool.not_false, if_true]
      rw [ih (pending ++ [element]) (by simp)]
      · simp
      · intro front is_front _
        have longer := room (element :: front) (by simpa using is_front) (by simp)
        simpa using longer

/-- Marked segments which fit at every step are found again, all closed. -/
theorem cut_flatMap_mark_of_fits (fits : List α → Bool) (segments : List (List α))
    (nonempty : ∀ segment ∈ segments, segment ≠ [])
    (room : ∀ segment ∈ segments, ∀ front, front <+: segment → fits front = true) :
    cut fits [] (segments.flatMap mark) = ⟨segments, [], none⟩ := by
  induction segments with
  | nil => rfl
  | cons segment rest ih =>
    have whole := cut_mark fits [] (nonempty segment (by simp))
      fun front is_front _ => room segment (by simp) front is_front
    rw [flatMap_cons, cut_append _ _ _ _ (by rw [whole]), whole,
      ih (fun other member => nonempty other (by simp [member]))
        fun other member => room other (by simp [member])]
    simp

/-- Without refusals, marked segments are found again, all closed. -/
theorem cut_flatMap_mark (segments : List (List α))
    (nonempty : ∀ segment ∈ segments, segment ≠ []) :
    cut (fun _ => true) [] (segments.flatMap mark) = ⟨segments, [], none⟩ :=
  cut_flatMap_mark_of_fits _ segments nonempty fun _ _ _ _ => rfl

end Segment
