/-! # One after another

    Stores, metrics and the service are used one step after another.  Each step has an answer and
    leaves a state, in which the next one is taken.

    What holds at first and is kept by each step holds after all of them (`inTurn_invariant`,
    `inTurn_keeps`), and each answer is given in the state that the steps before it left (`getElem?_inTurn`).

    Core Lean 4 only. -/

namespace Gatehouse

variable {σ ι α : Type}

/-- The answers to inputs, one after another, and the state after them. -/
def inTurn (step : σ → ι → α × σ) (s : σ) : List ι → List α × σ
  | []          => ([], s)
  | i :: inputs =>
    let (answer, s) := step s i
    let (answers, s) := inTurn step s inputs
    (answer :: answers, s)

section inTurn
variable (step : σ → ι → α × σ) (s : σ)

theorem inTurn_cons (i : ι) (inputs : List ι) :
    inTurn step s (i :: inputs) =
      ((step s i).1 :: (inTurn step (step s i).2 inputs).1,
        (inTurn step (step s i).2 inputs).2) := rfl

theorem inTurn_concat (inputs : List ι) (i : ι) :
    (inTurn step s (inputs ++ [i])).2 = (step (inTurn step s inputs).2 i).2 := by
  induction inputs generalizing s with
  | nil => rfl
  | cons j inputs ih => rw [List.cons_append, inTurn_cons, ih, inTurn_cons]

theorem length_inTurn (inputs : List ι) : (inTurn step s inputs).1.length = inputs.length := by
  induction inputs generalizing s with
  | nil => rfl
  | cons i inputs ih => rw [inTurn_cons, List.length_cons, List.length_cons, ih]

/-- Each input is answered in the state that the inputs before it left. -/
theorem getElem?_inTurn (inputs : List ι) (k : Nat) :
    (inTurn step s inputs).1[k]? =
      inputs[k]?.map fun i => (step (inTurn step s (inputs.take k)).2 i).1 := by
  induction inputs generalizing s k with
  | nil => rfl
  | cons i inputs ih =>
    cases k with
    | zero => rfl
    | succ k =>
      rw [inTurn_cons, List.getElem?_cons_succ, List.getElem?_cons_succ, ih, List.take_succ_cons,
        inTurn_cons]

/-- Each input takes the state one step further. -/
theorem inTurn_take_succ {inputs : List ι} {k : Nat} {i : ι} (h : inputs[k]? = some i) :
    (inTurn step s (inputs.take (k + 1))).2 = (step (inTurn step s (inputs.take k)).2 i).2 := by
  rw [List.take_add_one, h, Option.toList_some, inTurn_concat]

/-- What is kept by the step of each input is kept by all of them. -/
theorem inTurn_keeps {P : σ → Prop} {inputs : List ι}
    (hstep : ∀ i ∈ inputs, ∀ s, P s → P (step s i).2) {s : σ} (h : P s) :
    P (inTurn step s inputs).2 := by
  induction inputs generalizing s with
  | nil => exact h
  | cons i inputs ih =>
    have hfirst := hstep i List.mem_cons_self s h
    exact ih (fun j hj => hstep j (List.mem_cons_of_mem i hj)) hfirst

/-- A relation of the state to the inputs so far, which each step keeps, holds to the end. -/
theorem inTurn_invariant {P : σ → List ι → Prop}
    (hstep : ∀ s inputs i, P s inputs → P (step s i).2 (inputs ++ [i])) {s : σ} (h : P s [])
    (inputs : List ι) : P (inTurn step s inputs).2 inputs := by
  -- The inputs still to come follow those of which the relation is known already.
  have hfrom : ∀ (later earlier : List ι) (s : σ), P s earlier →
      P (inTurn step s later).2 (earlier ++ later) := by
    intro later
    induction later with
    | nil =>
      intro earlier s h
      rw [List.append_nil]
      exact h
    | cons i later ih =>
      intro earlier s h
      have hrest := ih (earlier ++ [i]) (step s i).2 (hstep s earlier i h)
      rw [List.append_assoc] at hrest
      exact hrest
  exact hfrom inputs [] s h

end inTurn

end Gatehouse
