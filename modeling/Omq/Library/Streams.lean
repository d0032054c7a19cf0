import Mathlib.Computability.Language
import Mathlib.Tactic

/-!
# Streams of pieces

A stream is a word over a language of pieces.  Several queues may share one writer, which takes
elements from the front of one queue at a time.  The output stays a stream as long as the writer
changes queues only where no piece is partly written.
-/

namespace Streams

open Function List
open scoped Computability

variable {ι α : Type} {pieces : Language α}

theorem append_mem_kstar {left right : List α} (left_mem : left ∈ pieces∗)
    (right_mem : right ∈ pieces∗) : left ++ right ∈ pieces∗ := by
  rw [← kstar_mul_kstar pieces]
  exact Language.append_mem_mul left_mem right_mem

theorem mem_kstar_of_mem {piece : List α} (member : piece ∈ pieces) : piece ∈ pieces∗ :=
  (le_kstar : pieces ≤ pieces∗) member

theorem flatten_mem_kstar {words : List (List α)}
    (words_mem : ∀ word ∈ words, word ∈ pieces∗) : words.flatten ∈ pieces∗ := by
  induction words with
  | nil => exact Language.nil_mem_kstar pieces
  | cons word words induction =>
    exact append_mem_kstar (words_mem word mem_cons_self)
      (induction fun later member => words_mem later (mem_cons_of_mem word member))

/-- Queues which share one writer. -/
@[ext]
structure Lanes (ι α : Type) where
  written : List α
  pending : ι → List α
  /-- The queue the last element came from. -/
  last : ι

namespace Lanes

/-- The output is `base` and whole pieces, and every queue holds whole pieces. -/
structure Whole (pieces : Language α) (base : List α) (lanes : Lanes ι α) : Prop where
  written : ∃ stream ∈ pieces∗, lanes.written = base ++ stream
  pending : ∀ lane, lanes.pending lane ∈ pieces∗

/-- The queue written last completes the output to whole pieces, and every other queue holds whole
pieces. -/
structure Sound (pieces : Language α) (base : List α) (lanes : Lanes ι α) : Prop where
  written : ∃ stream ∈ pieces∗, lanes.written ++ lanes.pending lanes.last = base ++ stream
  /-- What waits in the other queues. -/
  pending : ∀ lane, lane ≠ lanes.last → lanes.pending lane ∈ pieces∗

variable {pieces : Language α} {base : List α} {lanes : Lanes ι α}

/-- Where no piece is partly written, any queue may be the one written last. -/
theorem Whole.sound (whole : lanes.Whole pieces base) (last : ι) :
    ({ lanes with last } : Lanes ι α).Sound pieces base := by
  obtain ⟨stream, stream_mem, written_eq⟩ := whole.written
  refine ⟨⟨stream ++ lanes.pending last, append_mem_kstar stream_mem (whole.pending last), ?_⟩,
    fun lane _ => whole.pending lane⟩
  rw [written_eq, append_assoc]

theorem Sound.whole (sound : lanes.Sound pieces base) (empty : lanes.pending lanes.last = []) :
    lanes.Whole pieces base := by
  obtain ⟨stream, stream_mem, written_eq⟩ := sound.written
  refine ⟨⟨stream, stream_mem, by rw [← written_eq, empty, append_nil]⟩, fun lane => ?_⟩
  by_cases same : lane = lanes.last
  · rw [same, empty]
    exact Language.nil_mem_kstar pieces
  · exact sound.pending lane same

/-- The output can be completed to whole pieces. -/
theorem Sound.starts (sound : lanes.Sound pieces base) :
    ∃ stream ∈ pieces∗, lanes.written <+: base ++ stream := by
  obtain ⟨stream, stream_mem, written_eq⟩ := sound.written
  exact ⟨stream, stream_mem, _, written_eq⟩

variable [DecidableEq ι]

/-- Whole pieces join a queue. -/
def enqueue (lanes : Lanes ι α) (lane : ι) (data : List α) : Lanes ι α :=
  { lanes with pending := update lanes.pending lane (lanes.pending lane ++ data) }

/-- Elements move from the front of a queue to the output, and `rest` stays. -/
def transfer (lanes : Lanes ι α) (lane : ι) (taken rest : List α) : Lanes ι α where
  written := lanes.written ++ taken
  pending := update lanes.pending lane rest
  last := if taken = [] then lanes.last else lane

variable {data taken rest : List α} {lane : ι}

theorem Sound.enqueue (sound : lanes.Sound pieces base) (lane : ι)
    (data_mem : data ∈ pieces∗) : (lanes.enqueue lane data).Sound pieces base := by
  obtain ⟨stream, stream_mem, written_eq⟩ := sound.written
  by_cases same : lane = lanes.last
  · subst same
    refine ⟨⟨stream ++ data, append_mem_kstar stream_mem data_mem, ?_⟩, fun other different => ?_⟩
    · simp only [Lanes.enqueue, update_self]
      rw [← append_assoc, written_eq, append_assoc]
    · have untouched : other ≠ lanes.last := different
      simp only [Lanes.enqueue, update_of_ne untouched]
      exact sound.pending other untouched
  · refine ⟨⟨stream, stream_mem, ?_⟩, fun other different => ?_⟩
    · simp only [Lanes.enqueue, update_of_ne (Ne.symm same)]
      exact written_eq
    · by_cases joined : other = lane
      · subst joined
        simp only [Lanes.enqueue, update_self]
        exact append_mem_kstar (sound.pending other different) data_mem
      · simp only [Lanes.enqueue, update_of_ne joined]
        exact sound.pending other different

theorem Whole.enqueue (whole : lanes.Whole pieces base) (lane : ι)
    (data_mem : data ∈ pieces∗) : (lanes.enqueue lane data).Whole pieces base := by
  refine ⟨whole.written, fun other => ?_⟩
  by_cases joined : other = lane
  · subst joined
    simp only [Lanes.enqueue, update_self]
    exact append_mem_kstar (whole.pending other) data_mem
  · simp only [Lanes.enqueue, update_of_ne joined]
    exact whole.pending other

/-- The content of a queue is replaced. -/
def replace (lanes : Lanes ι α) (lane : ι) (data : List α) : Lanes ι α :=
  { lanes with pending := update lanes.pending lane data }

/-- A queue which is not partly written may be replaced by whole pieces. -/
theorem Sound.replace (sound : lanes.Sound pieces base) (data_mem : data ∈ pieces∗)
    (settled : lane = lanes.last → lanes.Whole pieces base) :
    (lanes.replace lane data).Sound pieces base := by
  by_cases same : lane = lanes.last
  · have whole := settled same
    have whole_after : (lanes.replace lane data).Whole pieces base := by
      refine ⟨whole.written, fun other => ?_⟩
      by_cases replaced : other = lane
      · subst replaced
        simpa only [Lanes.replace, update_self] using data_mem
      · simpa only [Lanes.replace, update_of_ne replaced] using whole.pending other
    exact whole_after.sound _
  · refine ⟨?_, fun other different => ?_⟩
    · simpa only [Lanes.replace, update_of_ne (Ne.symm same)] using sound.written
    · by_cases replaced : other = lane
      · subst replaced
        simpa only [Lanes.replace, update_self] using data_mem
      · simpa only [Lanes.replace, update_of_ne replaced] using sound.pending other different

/-- The writer goes on with the queue it wrote last. -/
theorem Sound.transfer_last (sound : lanes.Sound pieces base)
    (split : lanes.pending lanes.last = taken ++ rest) :
    (lanes.transfer lanes.last taken rest).Sound pieces base := by
  obtain ⟨stream, stream_mem, written_eq⟩ := sound.written
  have same : (if taken = [] then lanes.last else lanes.last) = lanes.last := ite_self _
  refine ⟨⟨stream, stream_mem, ?_⟩, fun other different => ?_⟩
  · simp only [transfer, same, update_self]
    rw [append_assoc, ← split, written_eq]
  · simp only [transfer, same] at different ⊢
    rw [update_of_ne different]
    exact sound.pending other different

/-- Where no piece is partly written, the writer may take from any queue. -/
theorem Whole.transfer (whole : lanes.Whole pieces base) (lane : ι)
    (split : lanes.pending lane = taken ++ rest) :
    (lanes.transfer lane taken rest).Sound pieces base := by
  by_cases nothing : taken = []
  · subst nothing
    have unchanged : lanes.transfer lane [] rest = lanes := by
      have rest_eq : rest = lanes.pending lane := split.symm
      subst rest_eq
      simp [Lanes.transfer]
    rw [unchanged]
    exact whole.sound lanes.last
  · have moved := (whole.sound lane).transfer_last split
    have same : ({ lanes with last := lane } : Lanes ι α).transfer lane taken rest =
        lanes.transfer lane taken rest := by
      simp [Lanes.transfer, nothing]
    rwa [same] at moved

/-- The writer may take from a queue when it wrote it last or no piece is partly written. -/
theorem Sound.transfer (sound : lanes.Sound pieces base)
    (free : lane = lanes.last ∨ lanes.Whole pieces base)
    (split : lanes.pending lane = taken ++ rest) :
    (lanes.transfer lane taken rest).Sound pieces base := by
  obtain rfl | whole := free
  · exact sound.transfer_last split
  · exact whole.transfer lane split

/-- Emptying a queue leaves no piece partly written. -/
theorem Sound.transfer_all (sound : lanes.Sound pieces base)
    (free : lane = lanes.last ∨ lanes.Whole pieces base) :
    (lanes.transfer lane (lanes.pending lane) []).Whole pieces base := by
  have moved := sound.transfer free (append_nil _).symm
  by_cases nothing : lanes.pending lane = []
  · obtain rfl | whole := free
    · exact moved.whole (by simp [Lanes.transfer])
    · have same : update lanes.pending lane [] = lanes.pending := by
        rw [← nothing, update_eq_self]
      have unchanged : lanes.transfer lane (lanes.pending lane) [] = lanes := by
        simp [Lanes.transfer, nothing, same]
      rwa [unchanged]
  · exact moved.whole (by simp [Lanes.transfer, nothing])

end Lanes

end Streams
