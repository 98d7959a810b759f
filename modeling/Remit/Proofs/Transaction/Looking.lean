import Remit.Proofs.Transaction.Reading
import Remit.Transaction.Step

/-!
# Looking at transactions

Every view of a transaction comes down to one string of bytes: those it keeps, or else those that would be written. The
hash that a transaction keeps is the hash of the bytes it keeps; what is done to a transaction leaves that so. Then each
view shows what the bytes show, and nothing but the kept bytes and the kept hash changes.
-/

namespace Remit.Transaction

/-- The bytes that a transaction keeps, or else those that are written of it. -/
def known (tx : Transaction) : Except Error Bytes :=
  match tx.kept? with
  | some raw => .ok raw
  | none => tx.draft.toExcept

/-- A hash is kept of the bytes that are kept, and of no others. -/
def IsConsistent (tx : Transaction) : Prop :=
  ∀ hash, tx.keptHash? = some hash → ∃ raw, tx.kept? = some raw ∧ hash = Sha256.doubleHash raw

/-- What bytes show. -/
def View.of (raw : Bytes) : View → Value
  | .raw => .bytes raw
  | .hash | .key => .bytes (Sha256.doubleHash raw)
  | .id => .text (Hex.encode (Sha256.doubleHash raw).reverse)
  | .size => .int raw.length
  | .label => .text ("Transaction(" ++ Hex.encode (Sha256.doubleHash raw).reverse ++ ")")

/-- Does the view take the hash? -/
def View.isOfHash : View → Bool
  | .raw | .size => false
  | .hash | .key | .id | .label => true

/-- The transaction after a view that showed these bytes. -/
def keeping (tx : Transaction) (raw : Bytes) (view : View) : Transaction :=
  { tx with kept? := some raw, keptHash? := if view.isOfHash then some (Sha256.doubleHash raw) else tx.keptHash? }

theorem raw_eq (tx : Transaction) : tx.raw = tx.known.map fun raw => (raw, { tx with kept? := some raw }) := by
  rw [raw, known]
  cases h : tx.kept? with
  | some raw =>
    obtain ⟨c, kept?, keptHash?⟩ := tx
    cases h
    rfl
  | none =>
    cases tx.draft.toExcept <;> rfl

theorem hash_eq {tx : Transaction} (h : tx.IsConsistent) :
    tx.hash = tx.known.map fun raw =>
      (Sha256.doubleHash raw, { tx with kept? := some raw, keptHash? := some (Sha256.doubleHash raw) }) := by
  rw [hash]
  cases hk : tx.keptHash? with
  | some hash =>
    obtain ⟨raw, hr, rfl⟩ := h hash hk
    obtain ⟨c, kept?, keptHash?⟩ := tx
    cases hr
    cases hk
    rfl
  | none =>
    rw [raw_eq]
    cases tx.known <;> rfl

/-- Each view shows what the bytes show, and makes the transaction keep them. -/
theorem look_eq {tx : Transaction} (h : tx.IsConsistent) (view : View) :
    tx.look view = tx.known.map fun raw => (view.of raw, tx.keeping raw view) := by
  cases view with
  | raw | size =>
    simp only [look, size, raw_eq]
    cases tx.known <;> rfl
  | hash | key | id | label =>
    simp only [look, key, id, label, hash_eq h]
    cases tx.known <;> rfl

/-- What was read keeps the bytes it was read from. -/
theorem Layout.isConsistent_transaction (l : Layout) : l.transaction.IsConsistent := by
  intro hash h
  exact ⟨l.bytes, rfl, (Option.some.inj h).symm⟩

theorem isConsistent_of_keptHash?_eq_none {tx : Transaction} (h : tx.keptHash? = none) : tx.IsConsistent := by
  intro hash hh
  rw [h] at hh
  cases hh

/-! ## Steps -/

theorem isConsistent_keeping {tx : Transaction} {raw : Bytes} (h : tx.IsConsistent) (hr : tx.known = .ok raw)
    (view : View) : (tx.keeping raw view).IsConsistent := by
  intro hash hh
  refine ⟨raw, rfl, ?_⟩
  rw [keeping] at hh
  split at hh
  · exact (Option.some.inj hh).symm
  · obtain ⟨raw', hk, rfl⟩ := h hash hh
    rw [known, hk] at hr
    rw [Except.ok.inj hr]

/-- A view that shows something makes the transaction keep bytes; one that fails leaves it as it was. -/
theorem perform_view {tx : Transaction} (h : tx.IsConsistent) (view : View) :
    tx.perform (.view view) = match tx.known with
      | .ok raw => (.ok (view.of raw), tx.keeping raw view)
      | .error e => (.error e, tx) := by
  rw [perform, look_eq h]
  cases tx.known <;> rfl

theorem isConsistent_perform {tx : Transaction} (h : tx.IsConsistent) (step : Step) :
    (tx.perform step).2.IsConsistent := by
  cases step with
  | view view =>
    rw [perform_view h]
    cases hk : tx.known with
    | ok raw => exact isConsistent_keeping h hk view
    | error e => exact h
  | addInputs | addOutputs => exact isConsistent_of_keptHash?_eq_none rfl
  | setVersion | setLocktime | setInput | setOutput => exact h

theorem isConsistent_after {tx : Transaction} (h : tx.IsConsistent) (steps : List Step) :
    (tx.after steps).IsConsistent := by
  induction steps generalizing tx with
  | nil => exact h
  | cons step steps ih => exact ih (isConsistent_perform h step)

end Remit.Transaction
