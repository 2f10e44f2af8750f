import PromptRail.Library.PyText

/-!
# Streams of server-sent events

An event is written as a line with its data and an empty line. A reader goes through the lines: each line of data is added to the event that
is pending, and an empty line hands it out. Data without line breaks is read as it was written.
-/

namespace EventStream

open PyText (Text)

/-- One event. -/
def writeEvent (data : Text) : Text := "data: ".toList ++ data ++ ['\n', '\n']

/-- The events of a stream. -/
def write (datas : List Text) : Text := datas.flatMap writeEvent

/-- The data of a line: what stands behind the name of the field, without one blank. -/
def dataOf (line : Text) : Option Text :=
  if "data:".toList <+: line then
    match line.drop 5 with
    | ' ' :: data => some data
    | data => some data
  else none

/-- The events of the lines that are left, in front of which one may be pending; an event that is not ended is dropped. -/
def readLines : Option Text → List Text → List Text
  | _, [] => []
  | pending, line :: lines =>
    if line = [] then pending.toList ++ readLines none lines
    else
      match dataOf line with
      | some data => readLines (some (pending.elim data fun before => before ++ '\n' :: data)) lines
      | none => readLines pending lines

/-- The data of the events of a stream. -/
def read (stream : Text) : List Text := readLines none (stream.splitOn '\n')

/-- A line ends at its line break. -/
theorem splitOn_line {line : Text} (h : '\n' ∉ line) (rest : Text) :
    (line ++ '\n' :: rest).splitOn '\n' = line :: rest.splitOn '\n' := by
  rw [List.splitOn_eq_splitOnP, List.splitOn_eq_splitOnP]
  refine List.splitOnP_append_cons_of_forall_mem (p := (· == '\n')) ?_ '\n' (beq_self_eq_true _) rest
  intro c hc
  exact beq_false_of_ne fun heq => h (heq ▸ hc)

theorem dataOf_line (data : Text) : dataOf ("data: ".toList ++ data) = some data := by
  have hprefix : "data:".toList <+: "data: ".toList ++ data := ⟨' ' :: data, rfl⟩
  rw [dataOf, if_pos hprefix]
  rfl

/-- The lines of an event. -/
theorem splitOn_writeEvent {data : Text} (h : '\n' ∉ data) (rest : Text) :
    (writeEvent data ++ rest).splitOn '\n' = ("data: ".toList ++ data) :: [] :: rest.splitOn '\n' := by
  have hline : '\n' ∉ "data: ".toList ++ data := by
    rw [List.mem_append, not_or]
    exact ⟨by decide, h⟩
  have htext : writeEvent data ++ rest = ("data: ".toList ++ data) ++ '\n' :: ([] ++ '\n' :: rest) := by
    simp [writeEvent]
  rw [htext, splitOn_line hline, splitOn_line List.not_mem_nil]

/-- What was written is read again. -/
theorem read_write {datas : List Text} (h : ∀ data ∈ datas, '\n' ∉ data) : read (write datas) = datas := by
  induction datas with
  | nil => rfl
  | cons data datas ih =>
    have hrest : readLines none ((write datas).splitOn '\n') = datas := ih fun d hd => h d (List.mem_cons_of_mem _ hd)
    have hline : "data: ".toList ++ data ≠ [] := List.cons_ne_nil _ _
    rw [read, write, List.flatMap_cons, ← write, splitOn_writeEvent (h data List.mem_cons_self)]
    simp only [readLines, if_neg hline, dataOf_line, Option.elim, if_true, Option.toList_some, List.singleton_append, hrest]

end EventStream
