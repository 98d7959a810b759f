import Remit.Proofs.Wire.Cursor
import Remit.Proofs.Wire.Shortest

/-!
# Writing sizes

A number that was read as a size is written in no more bytes than it was read from, and in as many only if they are the
same. The numbers that can be written are those of up to eight bytes, and their bytes tell where they end.
-/

namespace Remit.Wire

/-- No size begins with the bytes of another one. -/
theorem Size.eq_of_prefix {s t : Size} (h : s.bytes <+: t.bytes) : s = t := by
  obtain ⟨rest, h⟩ := h
  have he : s.bytes ++ rest = t.bytes ++ [] := h.trans (List.append_nil _).symm
  exact bytes_injective (reads.append_inj he).1

namespace Cursor

variable {c d : Cursor} {v : Int}

/-- Writes a number as a size to an empty buffer. -/
def writeSize (v : Int) : Except Error Unit × Cursor := (ofBytes []).write (.compactSize (.int v))

theorem writeSize_number (s : Size) : writeSize s.number = (.ok (), ⟨s.shortened.bytes, []⟩) := by
  rw [writeSize, Draft.compactSize_number, write, List.drop_eq_nil_of_le (Nat.zero_le _)]
  rfl

theorem write_compactSize_fst_eq_ok : (c.write (.compactSize (.int v))).1 = .ok () ↔ 0 ≤ v ∧ v < 2 ^ 64 := by
  rw [write_fst_eq_ok, Draft.isFinished_compactSize_int]
  exact Iff.rfl

/-- What is written are the bytes of a size. -/
theorem exists_size_of_writeSize (h : writeSize v = (.ok (), d)) : ∃ s : Size, v = s.number ∧ d.buffer = s.bytes := by
  obtain ⟨h₀, h₁⟩ := write_compactSize_fst_eq_ok.mp (congrArg Prod.fst h)
  obtain ⟨n, rfl⟩ := Int.eq_ofNat_of_zero_le h₀
  let s : Size := .ofNat n (by omega)
  have hd := h.symm.trans (writeSize_number s)
  injection hd with _ hd
  exact ⟨s, rfl, by rw [hd]; exact List.append_nil _⟩

/-- A size that was read is written in no more bytes than it took, and in as many only if they are the same bytes. The
numbers that can be written are those below `2 ^ 64`, and no number is written with bytes that another one begins with. -/
theorem size_written_shortest :
    (∀ (c d : Cursor) (v : Nat), c.read Reader.compactSize = (.ok v, d) →
      ∃ (k : Nat) (e : Cursor), d.position = c.position + k ∧ writeSize v = (.ok (), e) ∧ e.buffer.length ≤ k ∧
        (e.buffer.length = k ↔ e.buffer = (c.buffer.drop c.position).take k)) ∧
    (∀ (c : Cursor) (v : Int), (c.write (.compactSize (.int v))).1 = .ok () ↔ 0 ≤ v ∧ v < 2 ^ 64) ∧
    ∀ (v w : Int) (d e : Cursor), v ≠ w → writeSize v = (.ok (), d) → writeSize w = (.ok (), e) →
      ¬ d.buffer <+: e.buffer := by
  refine ⟨fun c d v h => ?_, fun c v => write_compactSize_fst_eq_ok, fun v w d e hne hv hw hprefix => ?_⟩
  · obtain ⟨s, rfl, hc, hd⟩ := exists_form_of_read Size.reads h
    refine ⟨_, _, hd, writeSize_number s, ?_, ?_⟩
    · rw [buffer, List.append_nil]
      exact Size.shortens.length_le s
    · rw [buffer, List.append_nil, drop_position_buffer, hc, List.take_left, ← Size.shortens.eq_self_iff,
        Size.bytes_injective.eq_iff]
  · obtain ⟨s, rfl, hs⟩ := exists_size_of_writeSize hv
    obtain ⟨t, rfl, ht⟩ := exists_size_of_writeSize hw
    rw [hs, ht] at hprefix
    exact hne (congrArg (fun s : Size => (s.number : Int)) (Size.eq_of_prefix hprefix))

/-- A number that was read from three bytes where one would do, and two numbers on either side of the first mark. -/
theorem size_written_shortest_padded :
    (∃ e, writeSize 5 = (.ok (), e) ∧ e.buffer.length ≤ 3 ∧ (e.buffer.length = 3 ↔ e.buffer = [253, 5, 0])) ∧
    ((ofBytes [1, 2]).write (.compactSize (.int (2 ^ 64 - 1)))).1 = .ok () ∧
    ¬ ([252] : Bytes) <+: [253, 253, 0] := by
  obtain ⟨hread, hwrite, hprefix⟩ := size_written_shortest
  have h : (⟨[7], [253, 5, 0, 9]⟩ : Cursor).read Reader.compactSize = (.ok 5, ⟨[7, 253, 5, 0], [9]⟩) := rfl
  obtain ⟨k, e, hk, he⟩ := hread _ _ _ h
  obtain rfl : 3 = k := Nat.add_left_cancel hk
  exact ⟨⟨e, he⟩, (hwrite _ _).mpr (by decide), hprefix 252 253 ⟨[252], []⟩ ⟨[253, 253, 0], []⟩ (by decide) rfl rfl⟩

end Cursor

end Remit.Wire
