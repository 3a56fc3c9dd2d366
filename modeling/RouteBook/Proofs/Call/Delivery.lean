import RouteBook.Completion

/-!
# One delivery over any history

A completion is delivered to and asked for its outcome in any order. A step fills the place of the
delivery that counts if it is free and never changes it again (`held_step`), and the callback has been
told exactly what stands there (`told_step`). So after any history the first delivery is the one that
counts, and what an operation answers follows from the deliveries before it (`run_firesOnce`).
-/

namespace RouteBook.Completion

variable {ρ : Type}

/-! ## One operation -/

/-- What an operation delivers. -/
def Operation.delivery? : Operation ρ → Option (Delivery ρ)
  | .deliver d => some d
  | .outcome => none

/-- The callback was called with the delivery that counts and with nothing else. -/
def Told (c : Completion ρ) : Prop :=
  c.calls = if c.withCallback then c.held.toList else []

/-- What is held stays; a free place takes what is delivered. -/
theorem held_step (c : Completion ρ) (op : Operation ρ) :
    (c.step op).1.held = c.held.or op.delivery? := by
  cases op with
  | outcome => exact (Option.or_none).symm
  | deliver d =>
    unfold step deliver
    cases c.held <;> rfl

theorem withCallback_step (c : Completion ρ) (op : Operation ρ) :
    (c.step op).1.withCallback = c.withCallback := by
  cases op with
  | outcome => rfl
  | deliver d =>
    unfold step deliver
    cases c.held <;> rfl

theorem told_step {c : Completion ρ} (h : c.Told) (op : Operation ρ) : (c.step op).1.Told := by
  cases op with
  | outcome => exact h
  | deliver d =>
    unfold Told at h ⊢
    unfold step deliver
    cases hheld : c.held with
    | some first =>
      -- A late delivery is only noted as dropped.
      show c.calls = _
      rw [h, hheld]
    | none =>
      rw [hheld] at h
      show (if c.withCallback then c.calls ++ [d] else c.calls) = _
      rw [h]
      cases c.withCallback <;> rfl

/-! ## Any history -/

/-- The deliveries of a history, in order. -/
def deliveries (ops : List (Operation ρ)) : List (Delivery ρ) :=
  ops.filterMap Operation.delivery?

theorem head?_deliveries_cons (op : Operation ρ) (ops : List (Operation ρ)) :
    (deliveries (op :: ops)).head? = op.delivery?.or (deliveries ops).head? := by
  cases op <;> rfl

/-- The first delivery of a history is the one that counts, unless one counted before. -/
theorem held_run (c : Completion ρ) (ops : List (Operation ρ)) :
    (c.run ops).1.held = c.held.or (deliveries ops).head? := by
  induction ops generalizing c with
  | nil => exact (Option.or_none).symm
  | cons op ops ih =>
    show ((c.step op).1.run ops).1.held = _
    rw [ih, held_step, Option.or_assoc, head?_deliveries_cons]

theorem withCallback_run (c : Completion ρ) (ops : List (Operation ρ)) :
    (c.run ops).1.withCallback = c.withCallback := by
  induction ops generalizing c with
  | nil => rfl
  | cons op ops ih => exact (ih (c.step op).1).trans (withCallback_step c op)

theorem told_run {c : Completion ρ} (h : c.Told) (ops : List (Operation ρ)) :
    (c.run ops).1.Told := by
  induction ops generalizing c with
  | nil => exact h
  | cons op ops ih => exact ih (told_step h op)

theorem getElem?_run (c : Completion ρ) (ops : List (Operation ρ)) (i : Nat) :
    (c.run ops).2[i]? = ops[i]?.map fun op => ((c.run (ops.take i)).1.step op).2 := by
  induction ops generalizing c i with
  | nil => rfl
  | cons op ops ih =>
    cases i with
    | zero => rfl
    | succ i => exact ih (c.step op).1 i

/-! ## Answers -/

variable {c : Completion ρ} {d : Delivery ρ} {ops : List (Operation ρ)} {i : Nat}

theorem answer_of_delivered (h : ops[i]? = some (.deliver d)) :
    (c.run ops).2[i]? = some (.delivered (c.run (ops.take i)).1.held.isNone) := by
  rw [getElem?_run, h, Option.map_some]
  unfold step deliver
  cases (c.run (ops.take i)).1.held <;> rfl

theorem answer_of_asked (h : ops[i]? = some .outcome) :
    (c.run ops).2[i]? = some (.outcome (c.run (ops.take i)).1.outcome) := by
  rw [getElem?_run, h]
  rfl

theorem outcome_of_none (h : c.held = none) : c.outcome = .error (.fault .noOutcome) := by
  unfold outcome
  rw [h]

theorem outcome_of_error {e : ApiError} (h : c.held = some d) (he : d.error = some e)
    (hcallback : c.withCallback = false) : c.outcome = .error (.error e) := by
  unfold outcome
  rw [h]
  dsimp only
  rw [he, hcallback]
  rfl

theorem outcome_of_result (h : c.held = some d)
    (hgiven : d.error = none ∨ c.withCallback = true) : c.outcome = .ok d.result := by
  unfold outcome
  rw [h]
  dsimp only
  rcases hgiven with hnone | hcallback
  · rw [hnone]
  · rw [hcallback]
    cases d.error <;> rfl

/-- **One delivery.** Over any history of a completion the first delivery counts and no other. Its error
and its result are held from then on, and the callback, if there is one, has been called once and with
them. Asking for the outcome fails before the first delivery; afterwards it fails with the error that
was delivered first if no callback took it, and otherwise gives the result that was. -/
theorem run_firesOnce (withCallback : Bool) (ops : List (Operation ρ)) :
    let start : Completion ρ := { withCallback }
    let first := (deliveries ops).head?
    (start.run ops).1.held = first ∧ (start.run ops).1.done = first.isSome ∧
      (start.run ops).1.calls = (if withCallback then first.toList else []) ∧
      ∀ i,
        (∀ d, ops[i]? = some (.deliver d) →
          (start.run ops).2[i]? = some (.delivered (deliveries (ops.take i)).isEmpty)) ∧
        (ops[i]? = some .outcome →
          (deliveries (ops.take i) = [] →
            (start.run ops).2[i]? = some (.outcome (.error (.fault .noOutcome)))) ∧
          ∀ d, (deliveries (ops.take i)).head? = some d →
            (∀ e, d.error = some e → withCallback = false →
              (start.run ops).2[i]? = some (.outcome (.error (.error e)))) ∧
            (d.error = none ∨ withCallback = true →
              (start.run ops).2[i]? = some (.outcome (.ok d.result)))) := by
  intro start first
  have hheld (ops : List (Operation ρ)) : (start.run ops).1.held = (deliveries ops).head? :=
    held_run start ops
  have hcallback (ops : List (Operation ρ)) : (start.run ops).1.withCallback = withCallback :=
    withCallback_run start ops
  have htold : (start.run ops).1.Told := told_run (by cases withCallback <;> rfl) ops
  refine ⟨hheld ops, ?_, ?_, fun i => ⟨fun d hd => ?_, fun hasked => ⟨fun hnone => ?_, fun d hd => ?_⟩⟩⟩
  · exact congrArg Option.isSome (hheld ops)
  · unfold Told at htold
    rw [htold, hcallback, hheld]
  · rw [answer_of_delivered hd, hheld]
    cases deliveries (ops.take i) <;> rfl
  · rw [answer_of_asked hasked, outcome_of_none (by rw [hheld, hnone]; rfl)]
  · have htaken : (start.run (ops.take i)).1.held = some d := (hheld _).trans hd
    rw [answer_of_asked hasked]
    refine ⟨fun e he hno => ?_, fun hgiven => ?_⟩
    · rw [outcome_of_error htaken he ((hcallback _).trans hno)]
    · rw [outcome_of_result htaken (by rwa [hcallback])]

/-- An error that is followed by a late result, with questions before, between and after. -/
theorem run_firesOnce_late :
    let ops : List (Operation Nat) :=
      [.outcome, .deliver ⟨some .gatewayTimeout, 0⟩, .outcome, .deliver ⟨none, 7⟩, .outcome]
    let start : Completion Nat := { withCallback := false }
    (start.run ops).1.held = some ⟨some .gatewayTimeout, 0⟩ ∧
      (start.run ops).2[0]? = some (.outcome (.error (.fault .noOutcome))) ∧
      (start.run ops).2[1]? = some (.delivered true) ∧
      (start.run ops).2[3]? = some (.delivered false) ∧
      (start.run ops).2[4]? = some (.outcome (.error (.error .gatewayTimeout))) := by
  intro ops start
  obtain ⟨hheld, -, -, hanswers⟩ := run_firesOnce false ops
  exact ⟨hheld, ((hanswers 0).2 rfl).1 rfl, (hanswers 1).1 _ rfl, (hanswers 3).1 _ rfl,
    (((hanswers 4).2 rfl).2 _ rfl).1 _ rfl rfl⟩

end RouteBook.Completion
