import Mathlib.Data.List.Basic

/-!
# Buffers

A buffer is a list of a fixed length, and a piece is written into it from an offset on, over what was there.
-/

namespace Buffer

variable {α : Type}

/-- The buffer after a piece was written into it, if there was room for it. -/
def set (buffer piece : List α) (offset : Nat) : Option (List α) :=
  if offset + piece.length ≤ buffer.length then
    some (buffer.take offset ++ piece ++ buffer.drop (offset + piece.length))
  else none

/-- A piece that follows what has been written takes its own length of the room that is left. -/
theorem set_append (written room piece : List α) (h : piece.length ≤ room.length) :
    set (written ++ room) piece written.length = some (written ++ piece ++ room.drop piece.length) := by
  have hroom : written.length + piece.length ≤ (written ++ room).length := by
    rw [List.length_append]
    omega
  rw [set, if_pos hroom, List.take_left, List.drop_length_add_append]

theorem length_of_set {buffer piece after : List α} {offset : Nat} (h : set buffer piece offset = some after) :
    after.length = buffer.length := by
  unfold set at h
  split at h
  · rename_i hroom
    cases h
    simp only [List.length_append, List.length_take, List.length_drop]
    omega
  · cases h

end Buffer
