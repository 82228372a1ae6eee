import Gatehouse.Proofs.Text.Trim

/-! # Lines

    A text is cut into lines at its line ends, which are a line feed or a carriage return and
    a line feed.  The last line need not have one.  A carriage return anywhere else is part of
    its line (`lines`).

    For whoever trims the lines, as readers of key files do, the line feeds alone tell where
    they are: a carriage return in front of one is a blank (`trim_dropReturn`).

    Most proofs about the lines of a text follow `lines_induction`. -/

namespace Gatehouse.Text

/-- The lines of a text, without their ends. -/
def lines : List Char → List (List Char)
  | []     => []
  | c :: s =>
    if c = '\n' then [] :: lines s
    else if c = '\r' ∧ s.head? = some '\n' then lines s
    else
      match lines s with
      | []      => [[c]]
      | l :: ls => (c :: l) :: ls

/-- A line without the carriage return that belongs to its end. -/
def dropReturn (l : List Char) : List Char :=
  if l.getLast? = some '\r' then l.dropLast else l

theorem dropReturn_cons_cons (c d : Char) (l : List Char) :
    dropReturn (c :: d :: l) = c :: dropReturn (d :: l) := by
  unfold dropReturn
  rw [List.getLast?_cons_cons, List.dropLast_cons_cons]
  split <;> rfl

/-- A carriage return at the end of a line is trimmed off. -/
theorem trim_append_return (l : List Char) : trim (l ++ ['\r']) = trim l :=
  trim_append_blanks l (List.forall_mem_singleton.2 rfl)

/-- For a trimmed line it makes no difference whether it was there. -/
theorem trim_dropReturn (l : List Char) : trim (dropReturn l) = trim l := by
  unfold dropReturn
  split
  · rename_i hlast
    rw [← trim_append_return l.dropLast, List.dropLast_append_getLast? _ hlast]
  · rfl

/-! ## Cutting at line feeds -/

/-- Induction along the line feeds of a text. -/
theorem lines_induction {P : List Char → Prop} (s : List Char)
    (last : ∀ l, '\n' ∉ l → P l)
    (line : ∀ l rest, '\n' ∉ l → P rest → P (l ++ '\n' :: rest)) : P s := by
  by_cases hs : '\n' ∈ s
  · obtain ⟨l, rest, hcut, hl⟩ := List.eq_append_cons_of_mem hs
    rw [hcut]
    exact line l rest hl (lines_induction rest last line)
  · exact last s hs
termination_by s.length
decreasing_by
  rw [hcut, List.length_append, List.length_cons]
  omega

/-- A text without a line feed is one line, unless it is empty. -/
theorem lines_of_not_mem {l : List Char} (hl : '\n' ∉ l) :
    lines l = if l = [] then [] else [l] := by
  induction l with
  | nil => rfl
  | cons c l ih =>
    obtain ⟨hc, hrest⟩ := not_or.1 (mt List.mem_cons.2 hl)
    have hhead : l.head? ≠ some '\n' := fun h => hrest (List.mem_of_head? h)
    rw [lines, if_neg (Ne.symm hc), if_neg fun h => hhead h.2, ih hrest]
    by_cases hnil : l = [] <;> simp [hnil]

/-- Up to its first line feed a text is one line. -/
theorem lines_append {l : List Char} (hl : '\n' ∉ l) (rest : List Char) :
    lines (l ++ '\n' :: rest) = dropReturn l :: lines rest := by
  induction l with
  | nil => rfl
  | cons c l ih =>
    obtain ⟨hc, hrest⟩ := not_or.1 (mt List.mem_cons.2 hl)
    rw [List.cons_append, lines, if_neg (Ne.symm hc), ih hrest]
    cases l with
    | nil =>
      -- Right before the line feed a carriage return belongs to the line end.
      by_cases hreturn : c = '\r' <;> simp [hreturn, dropReturn]
    | cons d l =>
      have hd : d ≠ '\n' := fun h => hrest (h ▸ List.mem_cons_self)
      have hhead : ((d :: l) ++ '\n' :: rest).head? ≠ some '\n' := by simpa using hd
      rw [if_neg fun h => hhead h.2, dropReturn_cons_cons]

/-- A carriage return belongs to the line end only in front of a line feed. -/
example : lines "a\rb\r\n\nc\r".toList = ["a\rb".toList, [], "c\r".toList] := by decide

/-! ## Carriage returns in front of all line feeds -/

/-- The text with a carriage return put in front of every line feed. -/
def withReturns (s : List Char) : List Char :=
  s.flatMap fun c => if c = '\n' then ['\r', '\n'] else [c]

theorem withReturns_of_not_mem {l : List Char} (hl : '\n' ∉ l) : withReturns l = l := by
  induction l with
  | nil => rfl
  | cons c l ih =>
    obtain ⟨hc, hrest⟩ := not_or.1 (mt List.mem_cons.2 hl)
    unfold withReturns at ih ⊢
    rw [List.flatMap_cons, ih hrest, if_neg (Ne.symm hc), List.singleton_append]

theorem withReturns_append {l : List Char} (hl : '\n' ∉ l) (rest : List Char) :
    withReturns (l ++ '\n' :: rest) = (l ++ ['\r']) ++ '\n' :: withReturns rest := by
  have hself := withReturns_of_not_mem hl
  unfold withReturns at hself ⊢
  rw [List.flatMap_append, hself, List.flatMap_cons, List.append_assoc]
  rfl

end Gatehouse.Text
