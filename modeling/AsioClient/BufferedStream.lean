import Mathlib.Data.List.Induction

/-!
An output stream with a buffer. A write appends to what is waiting and passes some of it on to
the file; how much stays behind is up to the stream, so every write comes with a number of
symbols that are held back. Whatever is held back, nothing is lost while the stream is there;
the file alone is complete exactly when the last symbols have been passed on.
-/

set_option autoImplicit false

namespace BufferedStream

variable {α : Type}

structure Stream (α : Type) where
  file : List α
  buffer : List α
  deriving DecidableEq, Repr

/-- One write: the data, and how many of the symbols then waiting are held back. -/
structure Write (α : Type) where
  data : List α
  held : Nat

namespace Stream

def empty : Stream α := ⟨[], []⟩

def write (s : Stream α) (w : Write α) : Stream α :=
  let waiting := s.buffer ++ w.data
  ⟨s.file ++ waiting.take (waiting.length - w.held), waiting.drop (waiting.length - w.held)⟩

/-- What a write passes on to the file, behind all that has been passed on before. -/
def passes (s : Stream α) (w : Write α) : List α :=
  (s.buffer ++ w.data).take ((s.buffer ++ w.data).length - w.held)

theorem file_write (s : Stream α) (w : Write α) : (s.write w).file = s.file ++ s.passes w := rfl

def writeAll (s : Stream α) (ws : List (Write α)) : Stream α := ws.foldl write s

def contents (s : Stream α) : List α := s.file ++ s.buffer

theorem contents_write (s : Stream α) (w : Write α) :
    (s.write w).contents = s.contents ++ w.data := by
  simp [write, contents]

theorem contents_writeAll (s : Stream α) (ws : List (Write α)) :
    (s.writeAll ws).contents = s.contents ++ ws.flatMap Write.data := by
  unfold writeAll
  induction ws generalizing s with
  | nil => simp
  | cons w ws ih => simp [ih, contents_write]

theorem file_eq_contents_iff (s : Stream α) : s.file = s.contents ↔ s.buffer = [] := by
  simp [contents]

theorem buffer_write_eq_nil_iff (s : Stream α) (w : Write α) :
    (s.write w).buffer = [] ↔ w.held = 0 ∨ (w.data = [] ∧ s.buffer = []) := by
  have hempty : s.buffer ++ w.data = [] ↔ w.data = [] ∧ s.buffer = [] := by
    rw [List.append_eq_nil_iff, and_comm]
  rw [← hempty, ← List.length_eq_zero_iff (l := s.buffer ++ w.data)]
  show (s.buffer ++ w.data).drop ((s.buffer ++ w.data).length - w.held) = [] ↔ _
  rw [List.drop_eq_nil_iff]
  omega

end Stream

/-- Behind the last write that holds nothing back there are only empty writes. -/
def Drained (ws : List (Write α)) : Prop :=
  ∃ before after, ws = before ++ after ∧ (∀ w ∈ before.getLast?, w.held = 0) ∧
    ∀ w ∈ after, w.data = []

theorem drained_nil : Drained ([] : List (Write α)) := ⟨[], [], rfl, by simp, by simp⟩

theorem drained_concat_iff (ws : List (Write α)) (w : Write α) :
    Drained (ws ++ [w]) ↔ w.held = 0 ∨ (w.data = [] ∧ Drained ws) := by
  constructor
  · intro ⟨before, after, hsplit, hlast, hempty⟩
    rcases List.eq_nil_or_concat after with rfl | ⟨after', v, rfl⟩
    · left
      rw [List.append_nil] at hsplit
      exact hlast w (by simp [← hsplit])
    · right
      rw [List.concat_eq_append, ← List.append_assoc] at hsplit
      obtain ⟨hws, hw⟩ := List.append_inj' hsplit rfl
      obtain rfl : w = v := by simpa using hw
      exact ⟨hempty w (by simp), before, after', hws, hlast,
        fun v hv => hempty v (by simp [hv])⟩
  · intro h
    rcases h with hheld | ⟨hdata, before, after, rfl, hlast, hempty⟩
    · exact ⟨ws ++ [w], [], by simp, by simp [hheld], by simp⟩
    · refine ⟨before, after ++ [w], by simp, hlast, ?_⟩
      intro v hv
      rcases List.mem_append.1 hv with hv | hv
      · exact hempty v hv
      · rw [List.mem_singleton.1 hv, hdata]

theorem Stream.buffer_writeAll_eq_nil_iff {s : Stream α} (hs : s.buffer = [])
    (ws : List (Write α)) : (s.writeAll ws).buffer = [] ↔ Drained ws := by
  induction ws using List.reverseRecOn with
  | nil => exact iff_of_true hs drained_nil
  | append_singleton ws w ih =>
    have hconcat : s.writeAll (ws ++ [w]) = (s.writeAll ws).write w := by
      unfold writeAll
      rw [List.foldl_append]
      rfl
    rw [hconcat, buffer_write_eq_nil_iff, drained_concat_iff, ih]

/-- The file of a stream that started empty is complete exactly when the writes drain it. -/
theorem Stream.file_writeAll_iff (ws : List (Write α)) :
    (empty.writeAll ws).file = ws.flatMap Write.data ↔ Drained ws := by
  have hcontents := contents_writeAll (α := α) empty ws
  have hall : (empty.writeAll ws).contents = ws.flatMap Write.data := by
    simpa [contents, empty] using hcontents
  rw [← hall, file_eq_contents_iff]
  exact buffer_writeAll_eq_nil_iff rfl ws

end BufferedStream
