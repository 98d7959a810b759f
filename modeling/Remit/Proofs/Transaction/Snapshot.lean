import Mathlib.Data.List.DropRight
import Remit.Proofs.Transaction.Looking

/-!
# Snapshots

A transaction shows a snapshot. Until something is added, one that was read shows the bytes it was read from. Else it
shows what was written of its fields when it was first looked at with success since it was made or since the last
addition; and while there was no such look, it shows what would be written of its fields as they are.
-/

namespace Remit.Transaction

/-! ## Runs -/

/-- Is something added? -/
def Step.isAdd : Step → Bool
  | .addInputs _ | .addOutputs _ => true
  | _ => false

/-- Is the transaction looked at? -/
def Step.isView : Step → Bool
  | .view _ => true
  | _ => false

/-- What a step makes of the fields. -/
def Contents.perform (c : Contents) : Step → Contents
  | .view _ => c
  | .addInputs inputs => { c with inputs := c.inputs ++ inputs }
  | .addOutputs outputs => { c with outputs := c.outputs ++ outputs }
  | .setVersion v => { c with version := v }
  | .setLocktime v => { c with locktime := v }
  | .setInput positions field v => { c with inputs := changeAt positions (·.assign field v) c.inputs }
  | .setOutput positions field v => { c with outputs := changeAt positions (·.assign field v) c.outputs }

/-- The fields after steps. -/
def Contents.after (c : Contents) (steps : List Step) : Contents := steps.foldl perform c

/-- How a transaction is made. -/
inductive Origin where
  | new (version locktime : Value)
  | read (raw : Bytes)

namespace Origin

/-- Makes the transaction. -/
def make : Origin → Except Error Transaction
  | .new version locktime => .ok { version, locktime }
  | .read raw => ofBytes raw

/-- The bytes it was read from, if it was read. -/
def raw? : Origin → Option Bytes
  | .new _ _ => none
  | .read raw => some raw

end Origin

/-! ## Snapshots -/

/-- What a step writes of the fields: what can be written, if it looks at them. -/
def Step.written? (step : Step) (c : Contents) : Option Bytes :=
  if step.isView then c.draft.toExcept.toOption else none

/-- What was written of the fields when they were first looked at with success. -/
def Contents.firstWritten? (c : Contents) : List Step → Option Bytes
  | [] => none
  | step :: steps => (step.written? c).or ((c.perform step).firstWritten? steps)

/-- The steps up to the last addition. -/
def throughAdd (steps : List Step) : List Step := steps.rdropWhile fun step => !step.isAdd

/-- The steps since the last addition. -/
def sinceAdd (steps : List Step) : List Step := steps.rtakeWhile fun step => !step.isAdd

/-- The bytes that steps have fixed. -/
def fixed? (origin : Origin) (c : Contents) (steps : List Step) : Option Bytes :=
  (if throughAdd steps = [] then origin.raw? else none).or
    ((c.after (throughAdd steps)).firstWritten? (sinceAdd steps))

/-- What is shown after steps on a transaction that held `c` when it was made. -/
def snapshot (origin : Origin) (c : Contents) (steps : List Step) : Except Error Bytes :=
  match fixed? origin c steps with
  | some raw => .ok raw
  | none => (c.after steps).draft.toExcept

/-! ## Fields -/

theorem Contents.after_append (c : Contents) (steps steps' : List Step) :
    c.after (steps ++ steps') = (c.after steps).after steps' := by
  rw [after, after, after, List.foldl_append]

theorem after_concat (tx : Transaction) (steps : List Step) (step : Step) :
    tx.after (steps ++ [step]) = ((tx.after steps).perform step).2 := by
  rw [after, after, List.foldl_append, List.foldl_cons, List.foldl_nil]

theorem throughAdd_append_sinceAdd (steps : List Step) : throughAdd steps ++ sinceAdd steps = steps :=
  List.rdropWhile_append_rtakeWhile

/-- Only the step itself changes the fields, and looking does not. -/
theorem toContents_perform {tx : Transaction} (h : tx.IsConsistent) (step : Step) :
    (tx.perform step).2.toContents = tx.toContents.perform step := by
  cases step with
  | view view =>
    rw [perform_view h]
    cases tx.known <;> rfl
  | _ => rfl

theorem toContents_after {tx : Transaction} (h : tx.IsConsistent) (steps : List Step) :
    (tx.after steps).toContents = tx.toContents.after steps := by
  induction steps generalizing tx with
  | nil => rfl
  | cons step steps ih =>
    change ((tx.perform step).2.after steps).toContents = (tx.toContents.perform step).after steps
    rw [ih (isConsistent_perform h step), toContents_perform h]

/-! ## What is kept -/

theorem Contents.firstWritten?_concat (c : Contents) (steps : List Step) (step : Step) :
    c.firstWritten? (steps ++ [step]) = (c.firstWritten? steps).or (step.written? (c.after steps)) := by
  induction steps generalizing c with
  | nil => exact Option.or_none.trans Option.none_or.symm
  | cons s steps ih =>
    change (s.written? c).or ((c.perform s).firstWritten? (steps ++ [step])) = _
    rw [ih, ← Option.or_assoc]
    rfl

/-- An addition fixes nothing; another step fixes what it writes, unless something is fixed. -/
theorem fixed?_concat (origin : Origin) (c : Contents) (steps : List Step) (step : Step) :
    fixed? origin c (steps ++ [step]) =
      if step.isAdd then none else (fixed? origin c steps).or (step.written? (c.after steps)) := by
  cases h : step.isAdd with
  | true =>
    have ht : throughAdd (steps ++ [step]) = steps ++ [step] := List.rdropWhile_concat_neg _ _ _ (by simp [h])
    have hs : sinceAdd (steps ++ [step]) = [] := List.rtakeWhile_concat_neg _ _ _ (by simp [h])
    rw [fixed?, ht, hs, if_neg (by simp), if_pos rfl]
    rfl
  | false =>
    have ht : throughAdd (steps ++ [step]) = throughAdd steps := List.rdropWhile_concat_pos _ _ _ (by simp [h])
    have hs : sinceAdd (steps ++ [step]) = sinceAdd steps ++ [step] := List.rtakeWhile_concat_pos _ _ _ (by simp [h])
    rw [fixed?, ht, hs, Contents.firstWritten?_concat, ← Contents.after_append, throughAdd_append_sinceAdd,
      ← Option.or_assoc, if_neg Bool.false_ne_true]
    rfl

theorem kept?_perform {tx : Transaction} (h : tx.IsConsistent) (step : Step) :
    (tx.perform step).2.kept? = if step.isAdd then none else tx.kept?.or (step.written? tx.toContents) := by
  cases step with
  | view view =>
    rw [perform_view h, known]
    cases hk : tx.kept? with
    | some raw => rfl
    | none =>
      change _ = tx.draft.toExcept.toOption
      cases tx.draft.toExcept with
      | ok raw => rfl
      | error e => exact hk
  | addInputs | addOutputs => rfl
  | setVersion | setLocktime | setInput | setOutput => exact Option.or_none.symm

theorem Origin.isConsistent {origin : Origin} {tx : Transaction} (h : origin.make = .ok tx) :
    tx.IsConsistent ∧ tx.kept? = origin.raw? := by
  cases origin with
  | new version locktime =>
    cases h
    exact ⟨isConsistent_of_keptHash?_eq_none rfl, rfl⟩
  | read raw =>
    obtain ⟨l, rfl, rfl⟩ := ofBytes_eq_ok.mp h
    exact ⟨l.isConsistent_transaction, rfl⟩

/-- The bytes that a transaction keeps are those that its history has fixed. -/
theorem kept?_after {origin : Origin} {start : Transaction} (h : origin.make = .ok start) (steps : List Step) :
    (start.after steps).kept? = fixed? origin start.toContents steps := by
  obtain ⟨hc, hk⟩ := Origin.isConsistent h
  induction steps using List.reverseRecOn with
  | nil => exact hk.trans Option.or_none.symm
  | append_singleton steps step ih =>
    rw [after_concat, kept?_perform (isConsistent_after hc steps), fixed?_concat, ih, toContents_after hc]

/-- What a transaction knows of its bytes is the snapshot. -/
theorem known_after {origin : Origin} {start : Transaction} (h : origin.make = .ok start) (steps : List Step) :
    (start.after steps).known = snapshot origin start.toContents steps := by
  have ht : (start.after steps).toContents = start.toContents.after steps :=
    toContents_after (Origin.isConsistent h).1 steps
  rw [known, snapshot, kept?_after h]
  cases fixed? origin start.toContents steps with
  | some raw => rfl
  | none => exact congrArg (fun c => c.draft.toExcept) ht

theorem kept?_after_of_forall_not_isView {tx : Transaction} (h : tx.IsConsistent) (hk : tx.kept? = none)
    {steps : List Step} (hs : ∀ step ∈ steps, step.isView = false) : (tx.after steps).kept? = none := by
  induction steps generalizing tx with
  | nil => exact hk
  | cons step steps ih =>
    rw [List.forall_mem_cons] at hs
    refine ih (isConsistent_perform h step) ?_ hs.2
    rw [kept?_perform h, hk, Step.written?, hs.1]
    split <;> rfl

theorem kept?_eq_none_of_known {tx : Transaction} {e : Error} (h : tx.known = .error e) : tx.kept? = none := by
  rw [known] at h
  split at h
  · cases h
  · assumption

/-- However a transaction was made and whatever was done to it since, each view shows what the snapshot shows, and the
fields are what the steps that are no views made of them. A view that fails leaves the transaction as it was, so that
the next view is of the fields as they are by then. -/
theorem after_shows_snapshot (origin : Origin) (start : Transaction) (h : origin.make = .ok start)
    (steps : List Step) (view : View) :
    ((start.after steps).perform (.view view)).1 = (snapshot origin start.toContents steps).map view.of ∧
      ((start.after steps).perform (.view view)).2.toContents = (start.after steps).toContents ∧
      (start.after steps).toContents = start.toContents.after steps ∧
      ∀ e, ((start.after steps).perform (.view view)).1 = .error e →
        ((start.after steps).perform (.view view)).2 = start.after steps ∧
        ∀ (steps' : List Step) (view' : View), (∀ step ∈ steps', step.isView = false) →
          ((((start.after steps).perform (.view view)).2.after steps').perform (.view view')).1 =
            ((start.after steps).toContents.after steps').draft.toExcept.map view'.of := by
  have hc := isConsistent_after (Origin.isConsistent h).1 steps
  have hk := known_after h steps
  refine ⟨?_, toContents_perform hc _, toContents_after (Origin.isConsistent h).1 steps, fun e he => ?_⟩
  · rw [perform_view hc, hk]
    cases snapshot origin start.toContents steps <;> rfl
  · rw [perform_view hc] at he ⊢
    cases hk : (start.after steps).known with
    | ok raw =>
      rw [hk] at he
      cases he
    | error e' =>
      refine ⟨rfl, fun steps' view' hs => ?_⟩
      have hn := kept?_after_of_forall_not_isView hc (kept?_eq_none_of_known hk) hs
      rw [perform_view (isConsistent_after hc steps'), known, hn, ← toContents_after hc]
      cases ((start.after steps).after steps').draft.toExcept <;> rfl

/-- The lock time is put right after a failed look, and what the next look writes outlasts a change of the version. -/
theorem after_shows_snapshot_stale :
    ∃ start, Origin.make (.new (.int 1) (.int (2 ^ 32))) = .ok start ∧
      (∃ e, (start.perform (.view .raw)).1 = .error e) ∧
      ((start.after [.view .raw, .setLocktime (.int 5), .view .id, .setVersion (.int 2)]).perform (.view .raw)).1 =
        .ok (.bytes [1, 0, 0, 0, 0, 0, 5, 0, 0, 0]) := by
  refine ⟨_, rfl, ⟨.misfit, ?_⟩, ?_⟩
  · exact (after_shows_snapshot (.new (.int 1) (.int (2 ^ 32))) _ rfl [] .raw).1.trans rfl
  · exact (after_shows_snapshot (.new (.int 1) (.int (2 ^ 32))) _ rfl
      [.view .raw, .setLocktime (.int 5), .view .id, .setVersion (.int 2)] .raw).1.trans rfl

end Remit.Transaction
