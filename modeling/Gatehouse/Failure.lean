/-! # Failures

    A failure that ends the program, or a whole operation, is told as a chain: what was
    being done, outermost first, down to the cause.  The chain is written in one line or as
    a report of several.

    Core Lean 4 only. -/

namespace Gatehouse

/-- What was being done, and why it failed: outermost first. -/
structure Failure where
  outermost : String
  causes    : List String := []
  deriving DecidableEq, Repr

namespace Failure

/-- The whole chain, outermost first. -/
def chain (f : Failure) : List String := f.outermost :: f.causes

/-- The failure seen from what was being done around it. -/
def within (context : String) (f : Failure) : Failure := ⟨context, f.chain⟩

/-- The chain in one line. -/
def message (f : Failure) : String := ": ".intercalate f.chain

/-- A cause after its mark; the lines that follow the first are set below it. -/
def item (mark cause : String) : String :=
  let margin := String.ofList (List.replicate mark.length ' ')
  mark ++ ("\n" ++ margin).intercalate (cause.splitOn "\n")

/-- The mark of a numbered cause: the number ends in the fifth column. -/
def numberMark (number : Nat) : String :=
  let digits := toString number
  String.ofList (List.replicate (5 - digits.length) ' ') ++ digits ++ ": "

/-- The causes as numbered items, the first with the given number. -/
def numbered (first : Nat) : List String → List String
  | []        => []
  | c :: rest => item (numberMark first) c :: numbered (first + 1) rest

/-- The chain as the program reports it when it ends.  A single cause has no number. -/
def report (f : Failure) : String :=
  "Error: " ++ f.outermost ++ "\n"
    ++ (match f.causes with
        | []     => ""
        | [c]    => "\nCaused by:\n" ++ item "    " c ++ "\n"
        | causes => "\nCaused by:\n" ++ "\n".intercalate (numbered 0 causes) ++ "\n")

end Failure

end Gatehouse
