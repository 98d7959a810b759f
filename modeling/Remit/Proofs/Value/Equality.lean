import Remit.Value

/-!
# Equality of values

Values that may be keys have no parts, so it does not matter how deep a comparison goes into them. Of those only whole
numbers, truth values and bytes are ever written. They are equal if they are the same once each truth value is replaced
by the number that it stands for.
-/

namespace Remit

/-- If items are equal just where a function agrees on them, so are lists of items. -/
theorem list_beq_iff_map_eq {α β : Type} [BEq α] {f : α → β} {as bs : List α}
    (h : ∀ a ∈ as, ∀ b ∈ bs, (a == b) = true ↔ f a = f b) : (as == bs) = true ↔ as.map f = bs.map f := by
  induction as generalizing bs with
  | nil => cases bs <;> simp
  | cons a as ih =>
    cases bs with
    | nil => simp
    | cons b bs =>
      have ha := h a List.mem_cons_self b List.mem_cons_self
      have has := ih fun a ha b hb => h a (List.mem_cons_of_mem _ ha) b (List.mem_cons_of_mem _ hb)
      rw [List.cons_beq_cons, Bool.and_eq_true, List.map_cons, List.map_cons, List.cons.injEq, ha, has]

namespace Value

/-- A value without parts is compared the same at every depth. -/
theorem equalsWithin_of_isKey {v : Value} (h : v.isKey = true) (fuel : Nat) (w : Value) :
    equalsWithin (fuel + 1) v w = (v == w) := by
  cases v with
  | list | mapping => cases h
  | _ => cases w <;> rfl

/-- Lists of values without parts are equal if they agree item by item. -/
theorem list_beq_of_isKey {vs ws : List Value} (h : ∀ v ∈ vs, v.isKey = true) :
    (Value.list vs == Value.list ws) = (vs == ws) := by
  change (vs.length == ws.length && (vs.zip ws).all fun p => equalsWithin (depthList vs + 1) p.1 p.2) = _
  generalize depthList vs = depth
  induction vs generalizing ws with
  | nil => cases ws <;> rfl
  | cons v vs ih =>
    cases ws with
    | nil => rfl
    | cons w ws =>
      rw [List.forall_mem_cons] at h
      rw [List.cons_beq_cons, ← ih h.2, List.zip_cons_cons, List.all_cons, equalsWithin_of_isKey h.1, List.length_cons,
        List.length_cons, Bool.and_left_comm]
      congr 1
      exact Bool.eq_iff_iff.mpr (by simp)

/-! ## What can be written -/

/-- Values that can be written. -/
inductive IsWritable : Value → Prop
  | bool (b : Bool) : IsWritable (.bool b)
  | int (i : Int) : IsWritable (.int i)
  | bytes (bs : Bytes) : IsWritable (.bytes bs)

theorem isWritable_of_toInt? {v : Value} {i : Int} (h : v.toInt? = some i) : v.IsWritable := by
  cases v with
  | bool b => exact .bool b
  | int i => exact .int i
  | _ => cases h

theorem IsWritable.isKey {v : Value} (h : v.IsWritable) : v.isKey = true := by
  cases h <;> rfl

/-- The value, with the number that it stands for in place of a truth value. -/
def plain : Value → Value
  | .bool b => .int b.toNat
  | v => v

@[simp] theorem toInt?_plain (v : Value) : v.plain.toInt? = v.toInt? := by
  cases v <;> rfl

theorem beq_iff_plain_eq {v w : Value} (hv : v.IsWritable) (hw : w.IsWritable) :
    (v == w) = true ↔ v.plain = w.plain := by
  have hint (i j : Int) : (i == j) = true ↔ Value.int i = .int j := by rw [beq_iff_eq, Value.int.injEq]
  have hbytes (bs cs : Bytes) : (bs == cs) = true ↔ Value.bytes bs = .bytes cs := by
    rw [beq_iff_eq, Value.bytes.injEq]
  cases hv with
  | bool | int =>
    cases hw with
    | bool | int => exact hint _ _
    | bytes => exact iff_of_false Bool.false_ne_true (fun h => nomatch h)
  | bytes bs =>
    cases hw with
    | bool | int => exact iff_of_false Bool.false_ne_true (fun h => nomatch h)
    | bytes cs => exact hbytes bs cs

end Value

end Remit
