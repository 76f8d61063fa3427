import SheetCalc.Sheet

/-!
# Lines

A line ends in a line feed, with or without a carriage return in front of it. A text is read line
by line: `linesOf_append` takes the first line off a text that goes on after a line feed, and
`linesOf_of_not_mem` reads what follows the last line feed. Main theorem: `linesOf_joined`. Lines
that are written one after the other, each with its own line end, are read back.
-/

namespace SheetCalc

/-- The pieces of a text hold no separator, and no character that the text does not hold. -/
theorem Text.of_mem_splitOn {separator : Char} {text piece : Text}
    (h : piece ∈ text.splitOn separator) : separator ∉ piece ∧ ∀ c ∈ piece, c ∈ text := by
  -- By the length of the text, since a piece in front is taken off together with its separator.
  induction hlength : text.length using Nat.strongRecOn generalizing text with
  | ind length ih =>
      by_cases hmem : separator ∈ text
      · obtain ⟨first, rest, rfl, hfirst⟩ := List.eq_append_cons_of_mem hmem
        have hshorter : rest.length < length := by
          rw [← hlength, List.length_append, List.length_cons]
          omega
        rw [List.splitOn_append_cons_self_of_not_mem hfirst] at h
        rcases List.mem_cons.mp h with rfl | hrest
        · exact ⟨hfirst, fun c hc => List.mem_append_left _ hc⟩
        · obtain ⟨hnone, hchars⟩ := ih rest.length hshorter hrest rfl
          refine ⟨hnone, fun c hc => ?_⟩
          exact List.mem_append_right first (List.mem_cons_of_mem separator (hchars c hc))
      · rw [List.splitOn_eq_singleton hmem] at h
        obtain rfl := List.mem_singleton.mp h
        exact ⟨hmem, fun c hc => hc⟩

namespace Sheet

variable {line : Text}

/-! ## One line -/

/-- A carriage return at the end of a line is dropped. -/
theorem dropReturn_append_return (line : Text) : dropReturn (line ++ ['\r']) = line := by
  rw [dropReturn, List.getLast?_concat, if_pos rfl, List.dropLast_concat]

/-- A line that does not end in a carriage return stays as it is. -/
theorem dropReturn_of_ne (h : line.getLast? ≠ some '\r') : dropReturn line = line :=
  if_neg h

/-- The characters of a line without its carriage return are those of the line. -/
theorem mem_of_mem_dropReturn {c : Char} (h : c ∈ dropReturn line) : c ∈ line := by
  rw [dropReturn] at h
  split at h
  · exact (List.dropLast_sublist line).subset h
  · exact h

/-- The first line of a text is what stands in front of its first line feed. -/
theorem linesOf_append (h : '\n' ∉ line) (rest : Text) :
    linesOf (line ++ '\n' :: rest) = dropReturn line :: linesOf rest := by
  have hpieces : rest.splitOn '\n' ≠ [] := List.splitOn_ne_nil '\n' rest
  unfold linesOf
  rw [List.splitOn_append_cons_self_of_not_mem h]
  dsimp only
  rw [List.getLast?_cons_of_ne_nil hpieces, List.dropLast_cons_of_ne_nil hpieces, ← List.map_cons]
  split <;> rfl

/-- A text without a line feed is a line unless it is empty. -/
theorem linesOf_of_not_mem {text : Text} (h : '\n' ∉ text) :
    linesOf text = if text = [] then [] else [dropReturn text] := by
  unfold linesOf
  rw [List.splitOn_eq_singleton h]
  cases text <;> rfl

/-- The lines of a text hold no line feed. -/
theorem newline_not_mem_of_mem_linesOf {text : Text} (h : line ∈ linesOf text) : '\n' ∉ line := by
  obtain ⟨piece, hpiece, rfl⟩ := List.mem_map.mp h
  have hsplit : piece ∈ text.splitOn '\n' := by
    split at hpiece
    · exact (List.dropLast_sublist _).subset hpiece
    · exact hpiece
  exact fun hmem => (Text.of_mem_splitOn hsplit).1 (mem_of_mem_dropReturn hmem)

/-! ## Joined lines -/

/-- What ends a line. -/
inductive LineEnd where
  | feed
  | returnFeed

/-- The characters that end a line. -/
def LineEnd.text : LineEnd → Text
  | .feed => ['\n']
  | .returnFeed => ['\r', '\n']

/-- A line as it is written in front of its end: nothing in it is taken for a line end or for a part
of one. -/
structure Line where
  text : Text
  newline_not_mem : '\n' ∉ text
  getLast?_ne : text.getLast? ≠ some '\r'

/-- The text of lines that are written one after the other, each with its own end. -/
def joined (lines : List (Line × LineEnd)) : Text :=
  lines.flatMap fun line => line.1.text ++ line.2.text

/-- The first of the joined lines is read, whatever its end. -/
theorem linesOf_line_append (line : Line) (lineEnd : LineEnd) (rest : Text) :
    linesOf (line.text ++ lineEnd.text ++ rest) = line.text :: linesOf rest := by
  cases lineEnd with
  | feed =>
      rw [show line.text ++ LineEnd.feed.text ++ rest = line.text ++ '\n' :: rest from
        List.append_assoc line.text ['\n'] rest]
      rw [linesOf_append line.newline_not_mem, dropReturn_of_ne line.getLast?_ne]
  | returnFeed =>
      have hnone : '\n' ∉ line.text ++ ['\r'] := by simp [line.newline_not_mem]
      have hjoined : line.text ++ LineEnd.returnFeed.text ++ rest =
          (line.text ++ ['\r']) ++ '\n' :: rest := by simp [LineEnd.text]
      rw [hjoined, linesOf_append hnone, dropReturn_append_return]

/-- Joined lines are read back in front of any text. -/
theorem linesOf_joined_append (lines : List (Line × LineEnd)) (rest : Text) :
    linesOf (joined lines ++ rest) = lines.map (·.1.text) ++ linesOf rest := by
  induction lines with
  | nil => rfl
  | cons line lines ih =>
      have hjoined : joined (line :: lines) ++ rest =
          line.1.text ++ line.2.text ++ (joined lines ++ rest) := by
        simp [joined]
      rw [hjoined, linesOf_line_append, ih, List.map_cons, List.cons_append]

/-- Lines that are written one after the other are read back, those that are empty included, each
with the one or the other line end. A last line without an end is read as well unless it is
empty. -/
theorem linesOf_joined (lines : List (Line × LineEnd)) :
    linesOf (joined lines) = lines.map (·.1.text) ∧
      ∀ last : Line, last.text ≠ [] →
        linesOf (joined lines ++ last.text) = lines.map (·.1.text) ++ [last.text] := by
  refine ⟨?_, fun last hne => ?_⟩
  · have hread := linesOf_joined_append lines []
    rwa [List.append_nil, linesOf_of_not_mem List.not_mem_nil, if_pos rfl, List.append_nil]
      at hread
  · rw [linesOf_joined_append, linesOf_of_not_mem last.newline_not_mem, if_neg hne,
      dropReturn_of_ne last.getLast?_ne]

/-- An empty line with each of the ends, and a last line without an end. -/
theorem linesOf_joined_mixed :
    linesOf ("h\r\n\n\r\n".toList ++ "a\rb".toList) = ["h".toList, [], [], "a\rb".toList] := by
  let header : Line := ⟨"h".toList, by decide, by decide⟩
  let blank : Line := ⟨[], List.not_mem_nil, nofun⟩
  let last : Line := ⟨"a\rb".toList, by decide, by decide⟩
  exact (linesOf_joined [(header, .returnFeed), (blank, .feed), (blank, .returnFeed)]).2 last
    (by decide)

end Sheet

end SheetCalc
