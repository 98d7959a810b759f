import Remit.Proofs.Wire.Cursor

/-!
# Items read back

An item that is written and fits its kind is written as bytes from which the reader of its kind takes it back, whatever
follows them. So items that are written one after the other are read back in their order, and nothing is left.
-/

namespace Remit.Wire

/-! ## Values that fit -/

/-- Values that an item of a kind can hold. -/
inductive Item.Fits : Item → Value → Prop
  | int32 {i : Int} (least : -2 ^ 31 ≤ i) (most : i < 2 ^ 31) : Fits .int32 (.int i)
  | word {width n : Nat} (most : n < 2 ^ (8 * width)) : Fits (.word width) (.int n)
  | compactSize {n : Nat} (most : n < 2 ^ 64) : Fits .compactSize (.int n)
  | varBytes {bs : Bytes} (most : bs.length < 2 ^ 64) : Fits .varBytes (.bytes bs)

theorem Reader.Takes.map {α β : Type} {item : Reader α} {bs rest : Bytes} {a : α} (h : item.Takes bs a rest)
    (f : α → β) : Reader.Takes (item >>= fun a => pure (f a)) bs (f a) rest :=
  takes_bind.mpr ⟨a, rest, h, takes_pure.mpr ⟨rfl, rfl⟩⟩

/-- A signed number is written as the word that differs from it by a multiple of the modulus, and read back from it. -/
theorem exists_word_int32 {i : Int} (least : -2 ^ 31 ≤ i) (most : i < 2 ^ 31) :
    ∃ w : Word 4, Draft.int32 (.int i) = .of w.bytes ∧ ∀ rest, Reader.int32.Takes (w.bytes ++ rest) i rest := by
  let w : Word 4 := ⟨(i % 2 ^ 32).toNat, by omega⟩
  have hd : Draft.int32 (.int i) = .of w.bytes := by
    simp only [Draft.int32, Value.toInt?]
    exact if_pos ⟨least, most⟩
  refine ⟨w, hd, fun rest => ?_⟩
  refine Reader.takes_bind.mpr ⟨_, rest, (Word.reads 4).takes w rest, Reader.takes_pure.mpr ⟨?_, rfl⟩⟩
  dsimp only [w]
  split <;> omega

/-- What fits is written, and read back whatever follows. -/
theorem Item.Fits.exists_bytes {item : Item} {v : Value} (h : item.Fits v) :
    ∃ bs, item.draft v = .of bs ∧ ∀ rest, item.reader.Takes (bs ++ rest) v rest := by
  cases h with
  | int32 least most =>
    obtain ⟨w, hd, ht⟩ := exists_word_int32 least most
    exact ⟨w.bytes, hd, fun rest => (ht rest).map Value.int⟩
  | @word width n most =>
    rw [Nat.pow_mul] at most
    let w : Word width := ⟨n, most⟩
    exact ⟨w.bytes, Draft.word_number w, fun rest => ((Word.reads width).takes w rest).map fun n : Nat => Value.int n⟩
  | @compactSize n most =>
    let s : Size := .ofNat n most
    exact ⟨s.bytes, Draft.compactSize_eq most, fun rest => (Size.reads.takes s rest).map fun n : Nat => Value.int n⟩
  | @varBytes bs most =>
    let s : Sized := .ofBytes bs most
    exact ⟨s.bytes, Draft.varBytes_content s, fun rest => (Sized.reads.takes s rest).map Value.bytes⟩

/-! ## One step -/

namespace Cursor

theorem perform_write {item : Item} {v : Value} {bs : Bytes} (h : item.draft v = .of bs) (c : Cursor) :
    c.perform (.write item v) = (.ok .null, ⟨c.before ++ bs, c.after.drop bs.length⟩) := by
  rw [perform, h]
  rfl

theorem perform_read {item : Item} {v : Value} {bs rest : Bytes} (h : item.reader.Takes (bs ++ rest) v rest)
    (front : Bytes) : perform ⟨front, bs ++ rest⟩ (.read item) = (.ok v, ⟨front ++ bs, rest⟩) :=
  read_of_run h rfl

/-! ## Runs -/

/-- Items that fit are written as bytes that do not depend on where they are written, and are read back from these bytes
wherever they stand and whatever follows. -/
theorem exists_bytes_of_forall_fits {items : List (Item × Value)} (h : ∀ e ∈ items, e.1.Fits e.2) :
    ∃ bs : Bytes,
      (∀ c : Cursor, c.run (items.map fun e => .write e.1 e.2) =
        (items.map fun _ => .ok .null, ⟨c.before ++ bs, c.after.drop bs.length⟩)) ∧
      ∀ front rest, run (items.map fun e => .read e.1) ⟨front, bs ++ rest⟩ =
        (items.map fun e => .ok e.2, ⟨front ++ bs, rest⟩) := by
  induction items with
  | nil =>
    refine ⟨[], fun c => ?_, fun front rest => ?_⟩
    · rw [List.append_nil]
      rfl
    · rw [List.append_nil]
      rfl
  | cons e items ih =>
    obtain ⟨he, hi⟩ := List.forall_mem_cons.mp h
    obtain ⟨bs, hd, ht⟩ := he.exists_bytes
    obtain ⟨bs', hw, hr⟩ := ih hi
    refine ⟨bs ++ bs', fun c => ?_, fun front rest => ?_⟩
    · rw [List.map_cons, run, perform_write hd]
      dsimp only
      rw [hw, List.append_assoc, List.drop_drop, List.length_append]
      rfl
    · rw [List.map_cons, run, List.append_assoc, perform_read (ht _)]
      dsimp only
      rw [hr, List.append_assoc]
      rfl

/-- Any items that fit their kinds can be written to an empty buffer, and a new cursor at the start of what was written
reads just these items, kind by kind in the same order. Nothing is left then. -/
theorem run_reads_written (items : List (Item × Value)) (h : ∀ e ∈ items, e.1.Fits e.2) :
    let (results, written) := (ofBytes []).run (items.map fun e => .write e.1 e.2)
    let (values, done) := (ofBytes written.buffer).run (items.map fun e => .read e.1)
    results = items.map (fun _ => .ok .null) ∧ values = items.map (fun e => .ok e.2) ∧ done.remaining = 0 ∧
      (done.perform .ensureConsumed).1 = .ok .null := by
  obtain ⟨bs, hw, hr⟩ := exists_bytes_of_forall_fits h
  rw [hw]
  have hb : ofBytes (buffer ⟨(ofBytes []).before ++ bs, (ofBytes []).after.drop bs.length⟩) = ⟨[], bs ++ []⟩ := by
    simp [ofBytes, buffer]
  dsimp only
  rw [hb, hr]
  exact ⟨rfl, rfl, rfl, rfl⟩

/-- Numbers at the limits of their kinds and of the forms of sizes, and bytes behind their number. -/
theorem run_reads_written_limits :
    let items : List (Item × Value) :=
      [(.int32, .int (-2 ^ 31)), (.compactSize, .int 252), (.varBytes, .bytes [253, 0]), (.compactSize, .int 253),
        (.word 1, .int 255), (.compactSize, .int 65536), (.word 8, .int (2 ^ 64 - 1)), (.compactSize, .int (2 ^ 64 - 1)),
        (.int32, .int (2 ^ 31 - 1))]
    (∀ e ∈ items, e.1.Fits e.2) ∧
      ((ofBytes ((ofBytes []).run (items.map fun e => .write e.1 e.2)).2.buffer).run (items.map fun e => .read e.1)).1 =
        items.map fun e => .ok e.2 := by
  intro items
  have h : ∀ e ∈ items, e.1.Fits e.2 := by
    simp only [items, List.forall_mem_cons]
    exact ⟨.int32 (by decide) (by decide), .compactSize (n := 252) (by decide), .varBytes (by decide),
      .compactSize (n := 253) (by decide), .word (n := 255) (by decide), .compactSize (n := 65536) (by decide),
      .word (n := 2 ^ 64 - 1) (by decide), .compactSize (n := 2 ^ 64 - 1) (by decide), .int32 (by decide) (by decide),
      nofun⟩
  exact ⟨h, (run_reads_written items h).2.1⟩

end Cursor

end Remit.Wire
