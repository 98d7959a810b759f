import Mathlib.Logic.ExistsUnique
import Remit.Proofs.Check
import Remit.Proofs.PrefixCode
import Remit.Script

/-!
# Scripts

A push writes how long its data is in the shortest of four forms. The first byte tells the form, so that what is pushed
can be told from whatever follows it, and a script that carries data determines its items. The script that pays to the
hash of a public key is one of its kind for each hash, and no other script is taken for one.
-/

namespace Remit.Script

/-! ## Forms -/

/-- The forms in which a push says how long its data is: the length alone, or a mark and the length in one, two or four
bytes. -/
inductive PushForm where
  | direct
  | one
  | two
  | four

namespace PushForm

/-- What stands before the length. -/
def mark : PushForm → Bytes
  | .direct => []
  | .one => [0x4c]
  | .two => [0x4d]
  | .four => [0x4e]

/-- In how many bytes the length itself is written. -/
def width : PushForm → Nat
  | .direct | .one => 1
  | .two => 2
  | .four => 4

/-- The least length that the form cannot hold. Without a mark, a byte that would be one is no length. -/
def limit : PushForm → Nat
  | .direct => 0x4c
  | form => 256 ^ form.width

/-- The length of `size` bytes in this form. -/
def lead (form : PushForm) (size : Nat) : Bytes := form.mark ++ Bytes.ofNatLE form.width size

/-- The form holds the length, and every other one that does takes up more bytes. -/
def IsShortest (form : PushForm) (size : Nat) : Prop :=
  size < form.limit ∧
    ∀ other : PushForm, size < other.limit → other ≠ form → (form.lead size).length < (other.lead size).length

/-- The form in which a length is written. -/
def shortest (size : Nat) : PushForm :=
  if size < 0x4c then .direct else if size < 256 then .one else if size < 256 ^ 2 then .two else .four

variable {form other : PushForm} {m n size : Nat} {r s : Bytes}

theorem length_lead (form : PushForm) (size : Nat) : (form.lead size).length = form.mark.length + form.width := by
  rw [lead, List.length_append, Bytes.length_ofNatLE]

theorem lead_ne_nil (form : PushForm) (size : Nat) : form.lead size ≠ [] := by
  apply List.ne_nil_of_length_pos
  rw [length_lead]
  cases form <;> decide

theorem limit_le_pow_width (form : PushForm) : form.limit ≤ 256 ^ form.width := by
  cases form <;> decide

theorem isShortest_shortest (h : size < 2 ^ 32) : (shortest size).IsShortest size := by
  constructor
  · grind [shortest, limit, width]
  · intro other ho hne
    rw [length_lead, length_lead]
    cases other <;> grind [shortest, limit, mark, width]

/-- The first byte: a mark, or a length below all marks. -/
def tag : PushForm → Nat → Nat
  | .direct, size => size
  | .one, _ => 0x4c
  | .two, _ => 0x4d
  | .four, _ => 0x4e

theorem exists_lead_eq_cons (form : PushForm) (size : Nat) :
    ∃ rest, form.lead size = UInt8.ofNat (form.tag size) :: rest := by
  cases form with
  | direct =>
    have hb : UInt8.ofNat (size % 256) = UInt8.ofNat size := UInt8.toNat_inj.mp (by simp)
    exact ⟨[], congrArg (· :: []) hb⟩
  | one | two | four => exact ⟨_, rfl⟩

theorem form_eq_of_tag_eq (hm : m < form.limit) (hn : n < other.limit) (h : form.tag m = other.tag n) :
    form = other := by
  cases form <;> cases other <;> grind [tag, limit]

theorem tag_lt (h : size < form.limit) : form.tag size < 256 := by
  cases form <;> grind [tag, limit]

theorem form_eq_of_lead (hm : m < form.limit) (hn : n < other.limit) (h : form.lead m ++ r = other.lead n ++ s) :
    form = other := by
  obtain ⟨_, hf⟩ := exists_lead_eq_cons form m
  obtain ⟨_, ho⟩ := exists_lead_eq_cons other n
  rw [hf, ho] at h
  have ht := congrArg UInt8.toNat (List.cons.inj h).1
  rw [UInt8.toNat_ofNat', UInt8.toNat_ofNat', Nat.mod_eq_of_lt (tag_lt hm), Nat.mod_eq_of_lt (tag_lt hn)] at ht
  exact form_eq_of_tag_eq hm hn ht

theorem lead_append_inj (hm : m < form.limit) (hn : n < other.limit) (h : form.lead m ++ r = other.lead n ++ s) :
    m = n ∧ r = s := by
  obtain rfl := form_eq_of_lead hm hn h
  have hwidth {k : Nat} (hk : k < form.limit) : Bytes.toNatLE (Bytes.ofNatLE form.width k) = k := by
    rw [Bytes.toNatLE_ofNatLE, Nat.mod_eq_of_lt (Nat.lt_of_lt_of_le hk form.limit_le_pow_width)]
  rw [lead, lead, List.append_assoc, List.append_assoc] at h
  have hl : (Bytes.ofNatLE form.width m).length = (Bytes.ofNatLE form.width n).length := by
    rw [Bytes.length_ofNatLE, Bytes.length_ofNatLE]
  obtain ⟨hw, hr⟩ := List.append_inj (List.append_cancel_left h) hl
  refine ⟨?_, hr⟩
  rw [← hwidth hm, hw, hwidth hn]

end PushForm

/-! ## Pushes -/

open PushForm (shortest)

variable {data a b p q r s script : Bytes} {items xs ys : List Bytes}

theorem pushMark_eq_ok {size : Nat} (h : size < 2 ^ 32) : pushMark size = .ok ((shortest size).lead size) := by
  unfold pushMark shortest
  grind [PushForm.lead, PushForm.mark, PushForm.width, Bytes.ofNatLE]

theorem pushMark_eq_error {size : Nat} (h : 2 ^ 32 ≤ size) : pushMark size = .error .pushTooLong := by
  unfold pushMark
  grind

/-- The push of data, where it is not too long. -/
def pushed (data : Bytes) : Bytes := (shortest data.length).lead data.length ++ data

theorem push_of_lt (h : data.length < 2 ^ 32) : push data = .ok (pushed data) := by
  rw [push, pushMark_eq_ok h]
  rfl

theorem push_of_le (h : 2 ^ 32 ≤ data.length) : push data = .error .pushTooLong := by
  rw [push, pushMark_eq_error h]
  rfl

theorem push_eq_ok : push data = .ok p ↔ data.length < 2 ^ 32 ∧ pushed data = p := by
  by_cases h : data.length < 2 ^ 32
  · rw [push_of_lt h, Except.ok.injEq, and_iff_right h]
  · rw [push_of_le (Nat.le_of_not_lt h)]
    exact iff_of_false (fun h => nomatch h) (fun hp => h hp.1)

theorem isPrefixCode_pushed : IsPrefixCode pushed fun data => data.length < 2 ^ 32 where
  ne_nil _ hp := PushForm.lead_ne_nil _ _ (List.append_eq_nil_iff.mp hp).1
  append_inj ha hb h := by
    rw [pushed, pushed, List.append_assoc, List.append_assoc] at h
    have hlimits := And.intro (PushForm.isShortest_shortest ha).1 (PushForm.isShortest_shortest hb).1
    obtain ⟨hl, hr⟩ := PushForm.lead_append_inj hlimits.1 hlimits.2 h
    exact List.append_inj hr hl

/-! ## Data carriers -/

theorem dataCarrier_of_forall_lt (h : ∀ item ∈ items, item.length < 2 ^ 32) :
    dataCarrier items = .ok (opFalse :: opReturn :: items.flatMap pushed) := by
  rw [dataCarrier, mapM_eq_ok_map fun item hi => push_of_lt (h item hi), List.flatMap_def]
  rfl

theorem mapM_push_eq_error (h : ∃ item ∈ items, 2 ^ 32 ≤ item.length) : items.mapM push = .error .pushTooLong := by
  induction items with
  | nil =>
    obtain ⟨_, hi, -⟩ := h
    cases hi
  | cons item items ih =>
    rw [List.mapM_cons]
    by_cases hi : 2 ^ 32 ≤ item.length
    · rw [push_of_le hi]
      rfl
    · have ht : ∃ item ∈ items, 2 ^ 32 ≤ item.length := by simpa [hi] using h
      rw [push_of_lt (Nat.lt_of_not_le hi), ih ht]
      rfl

theorem dataCarrier_eq_ok : dataCarrier items = .ok script ↔
    (∀ item ∈ items, item.length < 2 ^ 32) ∧ opFalse :: opReturn :: items.flatMap pushed = script := by
  by_cases h : ∀ item ∈ items, item.length < 2 ^ 32
  · rw [dataCarrier_of_forall_lt h, Except.ok.injEq, and_iff_right h]
  · have he : ∃ item ∈ items, 2 ^ 32 ≤ item.length := by simpa using h
    rw [dataCarrier, mapM_push_eq_error he]
    exact iff_of_false (fun h => nomatch h) (fun hs => h hs.1)

/-- Data of less than 2 ^ 32 bytes is pushed behind its length in the shortest form that holds it, longer data not at
all. The bytes of a push tell its data and what follows it, so that a script that carries data tells its items. -/
theorem push_tells_data :
    (∀ data : Bytes, data.length < 2 ^ 32 →
        ∃ form : PushForm, form.IsShortest data.length ∧ push data = .ok (form.lead data.length ++ data)) ∧
      (∀ data : Bytes, 2 ^ 32 ≤ data.length → push data = .error .pushTooLong) ∧
      (∀ a b p q r s : Bytes, push a = .ok p → push b = .ok q → p ++ r = q ++ s → a = b ∧ r = s) ∧
      (∀ items, (∃ script, dataCarrier items = .ok script) ↔ ∀ item ∈ items, item.length < 2 ^ 32) ∧
      ∀ xs ys script, dataCarrier xs = .ok script → dataCarrier ys = .ok script → xs = ys := by
  refine ⟨fun data h => ?_, fun data h => push_of_le h, fun a b p q r s ha hb h => ?_, fun items => ?_, ?_⟩
  · exact ⟨shortest data.length, PushForm.isShortest_shortest h, push_of_lt h⟩
  · obtain ⟨hla, rfl⟩ := push_eq_ok.mp ha
    obtain ⟨hlb, rfl⟩ := push_eq_ok.mp hb
    exact isPrefixCode_pushed.append_inj hla hlb h
  · simp only [dataCarrier_eq_ok, exists_and_left, exists_eq', and_true]
  · intro xs ys script hx hy
    obtain ⟨hlx, rfl⟩ := dataCarrier_eq_ok.mp hx
    obtain ⟨hly, he⟩ := dataCarrier_eq_ok.mp hy
    exact isPrefixCode_pushed.flatMap_inj hlx hly (List.cons.inj (List.cons.inj he).2).2.symm

/-- The shortest data that needs a mark, the shortest that is too long, and data that looks like the start of a push. -/
theorem push_tells_data_boundary :
    (∃ form : PushForm, form.IsShortest 0x4c ∧
        push (List.replicate 0x4c 0x6a) = .ok (form.lead 0x4c ++ List.replicate 0x4c 0x6a)) ∧
      push (List.replicate (2 ^ 32) 0) = .error .pushTooLong ∧
      (∀ r s : Bytes, [2, 1, 1] ++ r ≠ [1, 1] ++ s) ∧
      dataCarrier [[1, 1]] = .ok [0, 0x6a, 2, 1, 1] ∧ dataCarrier [[1], [1]] ≠ .ok [0, 0x6a, 2, 1, 1] := by
  obtain ⟨hshort, hlong, hdata, -, hitems⟩ := push_tells_data
  have hl : (List.replicate (2 ^ 32) (0 : UInt8)).length = 2 ^ 32 := List.length_replicate
  refine ⟨hshort (List.replicate 0x4c 0x6a) (by decide), hlong _ (Nat.le_of_eq hl.symm), ?_, rfl, fun h => ?_⟩
  · intro r s h
    obtain ⟨he, -⟩ := hdata [1, 1] [1] [2, 1, 1] [1, 1] r s rfl rfl h
    cases he
  · cases hitems [[1, 1]] [[1], [1]] _ rfl h

/-! ## Payment to the hash of a public key -/

variable {hash : Bytes}

/-- The script that pays to a hash, where that is one. -/
def paying (hash : Bytes) : Bytes := opDup :: opHash160 :: 20 :: hash ++ [opEqualVerify, opCheckSig]

theorem payPubkeyHash_of_length (h : hash.length = 20) : payPubkeyHash hash = .ok (paying hash) := by
  have hp : pushed hash = 20 :: hash := by
    rw [pushed, h]
    rfl
  have hlt : hash.length < 2 ^ 32 := by
    rw [h]
    decide
  rw [payPubkeyHash, if_pos (show hash.length = pubkeyHashLength from h), push_of_lt hlt, hp]
  rfl

theorem payPubkeyHash_of_length_ne (h : hash.length ≠ 20) : payPubkeyHash hash = .error .pubkeyHashLength := if_neg h

theorem payPubkeyHash_eq_ok : payPubkeyHash hash = .ok script ↔ hash.length = 20 ∧ paying hash = script := by
  by_cases h : hash.length = 20
  · rw [payPubkeyHash_of_length h, Except.ok.injEq, and_iff_right h]
  · rw [payPubkeyHash_of_length_ne h]
    exact iff_of_false (fun h => nomatch h) (fun hp => h hp.1)

theorem isPayPubkeyHash_paying (h : hash.length = 20) : isPayPubkeyHash (paying hash) = true := by
  have hl : (paying hash).length = 25 := by simp [paying, h]
  have hd : (paying hash).drop 23 = [opEqualVerify, opCheckSig] := List.drop_left' (congrArg (· + 3) h)
  simp only [isPayPubkeyHash, hl, hd, Bool.and_eq_true, beq_iff_eq]
  exact ⟨⟨trivial, rfl⟩, trivial⟩

/-- The three parts that are looked at leave nothing open but the 20 bytes between them. -/
theorem exists_paying_of_isPayPubkeyHash (h : isPayPubkeyHash script = true) :
    ∃ hash : Bytes, hash.length = 20 ∧ paying hash = script := by
  simp only [isPayPubkeyHash, Bool.and_eq_true, beq_iff_eq] at h
  obtain ⟨⟨hl, ht⟩, hd⟩ := h
  refine ⟨(script.drop 3).take 20, ?_, ?_⟩
  · rw [List.length_take, List.length_drop, hl]
    rfl
  · have hrest : (script.drop 3).take 20 ++ script.drop 23 = script.drop 3 := by
      rw [← List.drop_drop (i := 20) (j := 3), List.take_append_drop]
    calc paying ((script.drop 3).take 20)
      _ = script.take 3 ++ ((script.drop 3).take 20 ++ script.drop 23) := by rw [ht, hd]; rfl
      _ = script := by rw [hrest, List.take_append_drop]

theorem pubkeyHash_paying (h : hash.length = 20) : pubkeyHash (paying hash) = .ok hash := by
  have ht : ((paying hash).drop 3).take pubkeyHashLength = hash := List.take_left' h
  rw [pubkeyHash, if_pos (isPayPubkeyHash_paying h), ht]

theorem isPayPubkeyHash_eq_true :
    isPayPubkeyHash script = true ↔ ∃ hash : Bytes, hash.length = 20 ∧ payPubkeyHash hash = .ok script := by
  constructor
  · intro h
    obtain ⟨hash, hl, rfl⟩ := exists_paying_of_isPayPubkeyHash h
    exact ⟨hash, hl, payPubkeyHash_of_length hl⟩
  · rintro ⟨hash, hl, h⟩
    obtain ⟨-, rfl⟩ := payPubkeyHash_eq_ok.mp h
    exact isPayPubkeyHash_paying hl

/-- The hash that is paid to is read back, so there is only one. -/
theorem pubkeyHash_of_payPubkeyHash (h : payPubkeyHash hash = .ok script) : pubkeyHash script = .ok hash := by
  obtain ⟨hl, rfl⟩ := payPubkeyHash_eq_ok.mp h
  exact pubkeyHash_paying hl

theorem not_isPayPubkeyHash (h : ∀ hash, payPubkeyHash hash ≠ .ok script) :
    isPayPubkeyHash script = false ∧ pubkeyHash script = .error .notPayToPubkeyHash := by
  have hf : ¬ isPayPubkeyHash script = true := by
    intro ht
    obtain ⟨hash, -, hp⟩ := isPayPubkeyHash_eq_true.mp ht
    exact h hash hp
  exact ⟨Bool.eq_false_iff.mpr hf, if_neg hf⟩

/-- A script that carries data begins with another byte. -/
theorem payPubkeyHash_ne_of_dataCarrier (h : dataCarrier items = .ok script) (hash : Bytes) :
    payPubkeyHash hash ≠ .ok script := by
  intro hp
  obtain ⟨-, rfl⟩ := dataCarrier_eq_ok.mp h
  obtain ⟨-, he⟩ := payPubkeyHash_eq_ok.mp hp
  exact absurd (List.cons.inj he).1 (by decide)

/-- A script is taken for one that pays to the hash of a public key if and only if it is the one that is made for a
hash, and this hash is read from it. All others are refused, those that carry data among them. -/
theorem isPayPubkeyHash_recognises (script : Bytes) :
    (∀ hash : Bytes, hash.length = 20 →
        payPubkeyHash hash = .ok (opDup :: opHash160 :: 20 :: hash ++ [opEqualVerify, opCheckSig])) ∧
      (isPayPubkeyHash script = true ↔ ∃! hash : Bytes, hash.length = 20 ∧ payPubkeyHash hash = .ok script) ∧
      (∀ hash, payPubkeyHash hash = .ok script → pubkeyHash script = .ok hash) ∧
      ((∀ hash, payPubkeyHash hash ≠ .ok script) →
        isPayPubkeyHash script = false ∧ pubkeyHash script = .error .notPayToPubkeyHash) ∧
      (∀ items, dataCarrier items = .ok script →
        isPayPubkeyHash script = false ∧ pubkeyHash script = .error .notPayToPubkeyHash) ∧
      (∀ hash : Bytes, hash.length ≠ 20 → payPubkeyHash hash = .error .pubkeyHashLength) ∧
      Error.notPayToPubkeyHash.isInvalidValue = true ∧ Error.pubkeyHashLength.isInvalidValue = true := by
  refine ⟨fun _ => payPubkeyHash_of_length, ?_, fun _ => pubkeyHash_of_payPubkeyHash, not_isPayPubkeyHash, ?_,
    fun _ => payPubkeyHash_of_length_ne, rfl, rfl⟩
  · rw [isPayPubkeyHash_eq_true]
    constructor
    · rintro ⟨hash, hl, h⟩
      refine ⟨hash, ⟨hl, h⟩, ?_⟩
      rintro hash' ⟨-, h'⟩
      exact Except.ok.inj ((pubkeyHash_of_payPubkeyHash h').symm.trans (pubkeyHash_of_payPubkeyHash h))
    · exact ExistsUnique.exists
  · exact fun items h => not_isPayPubkeyHash (payPubkeyHash_ne_of_dataCarrier h)

/-- A hash of 20 bytes that look like operations, a script that carries it as data, and a hash of 19 bytes. -/
theorem isPayPubkeyHash_recognises_operations :
    (∃! hash : Bytes, hash.length = 20 ∧
        payPubkeyHash hash = .ok (opDup :: opHash160 :: 20 :: List.replicate 20 0x88 ++ [opEqualVerify, opCheckSig])) ∧
      pubkeyHash (opDup :: opHash160 :: 20 :: List.replicate 20 0x88 ++ [opEqualVerify, opCheckSig]) =
        .ok (List.replicate 20 0x88) ∧
      isPayPubkeyHash (opFalse :: opReturn :: 20 :: List.replicate 20 0x88) = false ∧
      payPubkeyHash (List.replicate 19 0x88) = .error .pubkeyHashLength := by
  obtain ⟨hmade, hiff, hread, -⟩ :=
    isPayPubkeyHash_recognises (opDup :: opHash160 :: 20 :: List.replicate 20 0x88 ++ [opEqualVerify, opCheckSig])
  obtain ⟨-, -, -, -, hdata, hlength, -⟩ :=
    isPayPubkeyHash_recognises (opFalse :: opReturn :: 20 :: List.replicate 20 0x88)
  exact ⟨hiff.mp (by decide), hread _ (hmade _ (by decide)), (hdata [List.replicate 20 0x88] rfl).1,
    hlength _ (by decide)⟩

end Remit.Script
