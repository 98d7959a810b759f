import Remit.Proofs.Transaction.Layout

/-!
# Reading transactions

Bytes are read as a transaction if and only if they are those of a layout, and then there is one such layout. Other
bytes run out or are left over, and reading fails in no other way. Whatever numbers of inputs and outputs the bytes
announce, the bytes themselves bound the rounds in which they are read.
-/

namespace Remit.Transaction

open Wire
open Wire.Reader (FailsShort)

/-! ## Failing -/

theorem Input.failsShort_reader : FailsShort Input.reader :=
  (FailsShort.take 32).bind fun _ => (FailsShort.word 4).bind fun _ => FailsShort.varBytes.bind fun _ =>
    (FailsShort.word 4).bind fun _ => .pure _

theorem Output.failsShort_reader : FailsShort Output.reader :=
  (FailsShort.word 8).bind fun _ => FailsShort.varBytes.bind fun _ => .pure _

theorem Contents.failsShort_reader : FailsShort Contents.reader :=
  (FailsShort.word 4).bind fun _ =>
    FailsShort.compactSize.bind fun n => (Input.failsShort_reader.repeated n).bind fun _ =>
      FailsShort.compactSize.bind fun m => (Output.failsShort_reader.repeated m).bind fun _ =>
        (FailsShort.word 4).bind fun _ => .pure _

/-! ## Rounds -/

/-- Reads what a transaction holds, but no more than `limit` inputs and as many outputs. -/
def Contents.readerWithin (limit : Nat) : Reader Contents := do
  let version ← Reader.word 4
  let inputs ← Reader.repeated Input.reader (min (← Reader.compactSize) limit)
  let outputs ← Reader.repeated Output.reader (min (← Reader.compactSize) limit)
  let locktime ← Reader.word 4
  return { version, inputs, outputs, locktime }

theorem Input.length_lt_of_takes {bs rest : Bytes} {i : Input} (h : Input.reader.Takes bs i rest) :
    rest.length < bs.length := by
  obtain ⟨l, rfl, -⟩ := (InputLayout.reads _ _ _).mp h
  have := l.length_bytes_ge
  rw [List.length_append]
  omega

theorem Output.length_lt_of_takes {bs rest : Bytes} {o : Output} (h : Output.reader.Takes bs o rest) :
    rest.length < bs.length := by
  obtain ⟨l, rfl, -⟩ := (OutputLayout.reads _ _ _).mp h
  have := l.length_bytes_ge
  rw [List.length_append]
  omega

/-- More rounds than bytes are never made. -/
theorem Contents.run_readerWithin {limit : Nat} {raw : Bytes} (h : raw.length < limit) :
    (readerWithin limit).run raw = reader.run raw := by
  refine Reader.run_bind_congr rfl fun _ bs₁ h₁ => ?_
  have h₁ := (Word.reads 4).length_le h₁
  refine Reader.run_bind_congr rfl fun n bs₂ h₂ => ?_
  have h₂ := Size.reads.length_le h₂
  refine Reader.run_bind_congr
    (Reader.run_repeated_min (fun _ _ _ => Input.length_lt_of_takes) (by omega) n) fun _ bs₃ h₃ => ?_
  obtain ⟨inputs, -, rfl, -⟩ := (InputLayout.reads.repeated _).mp h₃
  rw [List.length_append] at h₂
  refine Reader.run_bind_congr rfl fun m bs₄ h₄ => ?_
  have h₄ := Size.reads.length_le h₄
  exact Reader.run_bind_congr
    (Reader.run_repeated_min (fun _ _ _ => Output.length_lt_of_takes) (by omega) m) fun _ _ _ => rfl

/-! ## Reading -/

/-- The transaction that a layout is read as. -/
def Layout.transaction (l : Layout) : Transaction :=
  { l.contents with kept? := some l.bytes, keptHash? := some (hashOf l.bytes) }

theorem ofBytes_eq_map (raw : Bytes) :
    ofBytes raw = (Contents.reader.readAll raw).map fun c =>
      { c with kept? := some raw, keptHash? := some (hashOf raw) } := by
  rw [ofBytes]
  cases Contents.reader.readAll raw <;> rfl

theorem ofBytes_eq_ok {raw : Bytes} {tx : Transaction} :
    ofBytes raw = .ok tx ↔ ∃ l : Layout, l.bytes = raw ∧ l.transaction = tx := by
  rw [ofBytes_eq_map]
  constructor
  · intro h
    cases hc : Contents.reader.readAll raw with
    | error e =>
      rw [hc] at h
      cases h
    | ok c =>
      rw [hc] at h
      obtain ⟨l, rfl, rfl⟩ := Layout.reads.readAll.mp hc
      exact ⟨l, rfl, Except.ok.inj h⟩
  · rintro ⟨l, rfl, rfl⟩
    rw [Layout.reads.readAll.mpr ⟨l, rfl, rfl⟩]
    rfl

/-- Why bytes are not read: they run out, or some are left over. -/
def IsShortOrLong (fault : Fault) : Prop :=
  (∃ wanted available : Nat, available < wanted ∧ fault = .endOfData wanted available) ∨
    ∃ count : Nat, 0 < count ∧ fault = .trailing count

theorem exists_fault_of_readAll {α : Type} {item : Reader α} (h : FailsShort item) {raw : Bytes} {e : Error}
    (he : item.readAll raw = .error e) : ∃ fault, IsShortOrLong fault ∧ e = .serialization fault := by
  obtain ⟨n, k, hlt, rfl⟩ | ⟨n, hpos, rfl⟩ := h.readAll he
  · exact ⟨_, .inl ⟨n, k, hlt, rfl⟩, rfl⟩
  · exact ⟨_, .inr ⟨n, hpos, rfl⟩, rfl⟩

theorem exists_fault_of_ofBytes_eq_error {raw : Bytes} {e : Error} (h : ofBytes raw = .error e) :
    ∃ fault, IsShortOrLong fault ∧ e = .serialization fault := by
  rw [ofBytes_eq_map] at h
  cases hc : Contents.reader.readAll raw with
  | ok c =>
    rw [hc] at h
    cases h
  | error e' =>
    rw [hc] at h
    cases h
    exact exists_fault_of_readAll Contents.failsShort_reader hc

/-- Any bytes are the bytes of one layout, and are read as what it holds, or they are the bytes of none, and reading
fails because they run out or are left over. Either way no loop makes more rounds than there are bytes, and one. -/
theorem ofBytes_accepts_layouts (raw : Bytes) :
    (Contents.readerWithin (raw.length + 1)).run raw = Contents.reader.run raw ∧
      ((∃ l : Layout, l.bytes = raw ∧ (∀ l' : Layout, l'.bytes = raw → l' = l) ∧
          10 + 41 * l.inputs.items.length + 9 * l.outputs.items.length ≤ raw.length ∧
          ∃ tx, ofBytes raw = .ok tx ∧ tx.toContents = l.contents ∧
            tx.raw = .ok (raw, tx) ∧ tx.hash = .ok (Sha256.doubleHash raw, tx)) ∨
        (∀ l : Layout, l.bytes ≠ raw) ∧
          ∃ fault, IsShortOrLong fault ∧ ofBytes raw = .error (.serialization fault)) := by
  refine ⟨Contents.run_readerWithin (Nat.lt_succ_self _), ?_⟩
  cases h : ofBytes raw with
  | ok tx =>
    obtain ⟨l, rfl, rfl⟩ := ofBytes_eq_ok.mp h
    exact .inl ⟨l, rfl, fun _ h' => Layout.bytes_injective h', l.length_bytes_ge, _, rfl, rfl, rfl, rfl⟩
  | error e =>
    obtain ⟨fault, hf, rfl⟩ := exists_fault_of_ofBytes_eq_error h
    refine .inr ⟨fun l hl => ?_, fault, hf, rfl⟩
    rw [ofBytes_eq_ok.mpr ⟨l, hl, rfl⟩] at h
    cases h

/-! ## Outputs that stand alone -/

theorem Output.ofBytes_eq_readAll (raw : Bytes) : Output.ofBytes raw = Output.reader.readAll raw := rfl

theorem Output.ofBytes_eq_ok {raw : Bytes} {o : Output} :
    Output.ofBytes raw = .ok o ↔ ∃ l : OutputLayout, l.bytes = raw ∧ l.output = o := by
  rw [Output.ofBytes_eq_readAll, OutputLayout.reads.readAll]

theorem Output.exists_fault_of_ofBytes_eq_error {raw : Bytes} {e : Error} (h : Output.ofBytes raw = .error e) :
    ∃ fault, IsShortOrLong fault ∧ e = .serialization fault :=
  exists_fault_of_readAll Output.failsShort_reader (Output.ofBytes_eq_readAll raw ▸ h)

/-! ## Cutting and extending -/

/-- Whatever the versions are, they only decide whether the output is looked at. -/
theorem Output.ofBytes_eq (raw : Bytes) (protocol transaction : Value) :
    Output.ofBytes raw protocol transaction = checkVersions protocol transaction >>= fun _ => Output.ofBytes raw := by
  rw [Output.ofBytes, readerOf]
  cases checkVersions protocol transaction <;> rfl

/-- Bytes that hold a transaction, or an output of versions that can be read, hold none when bytes are missing at the end
or others follow. -/
theorem whole_raw_only :
    (∀ raw tx, ofBytes raw = .ok tx → Reader.IsWhole ofBytes raw) ∧
      ∀ protocol transaction raw o, Output.ofBytes raw protocol transaction = .ok o →
        Reader.IsWhole (fun bs => Output.ofBytes bs protocol transaction) raw := by
  constructor
  · intro raw tx h
    obtain ⟨l, rfl, rfl⟩ := ofBytes_eq_ok.mp h
    have hl := Layout.reads.isWhole Contents.failsShort_reader l
    constructor
    · intro front hf hne
      obtain ⟨e, he, hr⟩ := hl.cut front hf hne
      exact ⟨e, he, by rw [ofBytes_eq_map, hr]; rfl⟩
    · intro more hm
      rw [ofBytes_eq_map, hl.extended more hm]
      rfl
  · intro protocol transaction raw o h
    rw [Output.ofBytes_eq] at h
    cases hv : checkVersions protocol transaction with
    | error e =>
      rw [hv] at h
      cases h
    | ok _ =>
      rw [hv] at h
      obtain ⟨l, rfl, rfl⟩ := Output.ofBytes_eq_ok.mp h
      have he : (fun bs => Output.ofBytes bs protocol transaction) = Output.reader.readAll := by
        funext bs
        rw [Output.ofBytes_eq, hv]
        rfl
      rw [he]
      exact OutputLayout.reads.isWhole Output.failsShort_reader l

/-- A transaction that ends inside the size of a script, and an output of the second version that ends inside its script
and is followed by a byte. -/
theorem whole_raw_only_cut :
    (∃ e, Reader.IsEndOfData e ∧ ofBytes [1, 0, 0, 0, 0, 1, 5, 0, 0, 0, 0, 0, 0, 0, 253, 2] = .error e) ∧
      (∃ e, Reader.IsEndOfData e ∧
        Output.ofBytes [5, 0, 0, 0, 0, 0, 0, 0, 253, 2, 0, 81] (.bool true) (.int 2) = .error e) ∧
      Output.ofBytes [5, 0, 0, 0, 0, 0, 0, 0, 253, 2, 0, 81, 82, 0] (.bool true) (.int 2) =
        .error (.serialization (.trailing 1)) := by
  let script : Sized := ⟨⟨2, .three, by decide⟩, [81, 82], rfl⟩
  let output : OutputLayout := ⟨⟨5, by decide⟩, script⟩
  let l : Layout :=
    ⟨⟨1, by decide⟩, ⟨⟨0, .one, by decide⟩, [], rfl⟩, ⟨⟨1, .one, by decide⟩, [output], rfl⟩, ⟨0, by decide⟩⟩
  have hl := whole_raw_only.1 l.bytes l.transaction (ofBytes_eq_ok.mpr ⟨l, rfl, rfl⟩)
  have hv : checkVersions (.bool true) (.int 2) = .ok () := by rfl
  have ho := whole_raw_only.2 (.bool true) (.int 2) output.bytes output.output
    (by rw [Output.ofBytes_eq, hv]; exact Output.ofBytes_eq_ok.mpr ⟨output, rfl, rfl⟩)
  have hb : output.bytes = [5, 0, 0, 0, 0, 0, 0, 0, 253, 2, 0, 81, 82] := by decide
  rw [hb] at ho
  refine ⟨hl.cut _ ?_ ?_, ho.cut _ ?_ ?_, ho.extended [0] (by decide)⟩ <;> decide

end Remit.Transaction
