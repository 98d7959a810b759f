import Remit.Wire.Reader

/-!
# What readers accept

A reader that is made of parts accepts what its parts accept one after the other, and fails where the first of them does.
`Reads` says that a reader accepts exactly the written forms of something, whatever follows them, and `FailsShort` that
it fails only where the bytes run out. Repetition keeps both. It also ends where the bytes do, however many rounds were
asked for: `run_repeated_min` bounds the rounds by the bytes.
-/

namespace Remit.Wire.Reader

variable {α β : Type}

/-- The reader takes `a` off the front of `bs` and leaves `rest`. -/
def Takes (item : Reader α) (bs : Bytes) (a : α) (rest : Bytes) : Prop := item.run bs = (.ok a, rest)

/-- The reader fails on `bs` and leaves `rest`. -/
def Fails (item : Reader α) (bs : Bytes) (e : Error) (rest : Bytes) : Prop := item.run bs = (.error e, rest)

/-- A reader has one outcome. -/
theorem Takes.unique {item : Reader α} {bs rest rest' : Bytes} {a b : α}
    (h : item.Takes bs a rest) (h' : item.Takes bs b rest') : a = b ∧ rest = rest' := by
  have e := h.symm.trans h'
  injection e with e₁ e₂
  exact ⟨Except.ok.inj e₁, e₂⟩

theorem Takes.not_fails {item : Reader α} {bs rest rest' : Bytes} {a : α} {e : Error}
    (h : item.Takes bs a rest) : ¬ item.Fails bs e rest' := by
  intro h'
  have e := h.symm.trans h'
  injection e with e₁
  injection e₁

theorem takes_or_fails (item : Reader α) (bs : Bytes) :
    (∃ a rest, item.Takes bs a rest) ∨ ∃ e rest, item.Fails bs e rest := by
  rcases h : item.run bs with ⟨_ | _, rest⟩
  · exact .inr ⟨_, rest, h⟩
  · exact .inl ⟨_, rest, h⟩

/-! ## Parts -/

@[simp] theorem takes_pure {a b : α} {bs rest : Bytes} :
    (pure a : Reader α).Takes bs b rest ↔ a = b ∧ bs = rest := by
  constructor
  · intro h
    exact Takes.unique (show (pure a : Reader α).Takes bs a bs from rfl) h
  · rintro ⟨rfl, rfl⟩
    rfl

@[simp] theorem not_fails_pure {a : α} {bs rest : Bytes} {e : Error} : ¬ (pure a : Reader α).Fails bs e rest :=
  Takes.not_fails (show (pure a : Reader α).Takes bs a bs from rfl)

/-- Once the first part is done, the second goes on with what it left. -/
theorem run_bind_of_takes {item : Reader α} {next : α → Reader β} {bs mid : Bytes} {a : α}
    (h : item.Takes bs a mid) : (item >>= next).run bs = (next a).run mid := by
  change (item.run bs >>= fun p => ExceptT.bindCont next p.1 p.2 : Id _) = _
  rw [h]
  rfl

theorem fails_bind_of_fails {item : Reader α} {next : α → Reader β} {bs mid : Bytes} {e : Error}
    (h : item.Fails bs e mid) : (item >>= next).Fails bs e mid := by
  change (item.run bs >>= fun p => ExceptT.bindCont next p.1 p.2 : Id _) = _
  rw [h]
  rfl

theorem takes_bind {item : Reader α} {next : α → Reader β} {bs rest : Bytes} {b : β} :
    (item >>= next).Takes bs b rest ↔ ∃ a mid, item.Takes bs a mid ∧ (next a).Takes mid b rest := by
  constructor
  · intro h
    obtain ⟨a, mid, ha⟩ | ⟨e, mid, he⟩ := takes_or_fails item bs
    · exact ⟨a, mid, ha, (run_bind_of_takes ha).symm.trans h⟩
    · exact absurd (fails_bind_of_fails he) h.not_fails
  · rintro ⟨a, mid, ha, hb⟩
    exact (run_bind_of_takes ha).trans hb

theorem fails_bind {item : Reader α} {next : α → Reader β} {bs rest : Bytes} {e : Error} :
    (item >>= next).Fails bs e rest ↔
      item.Fails bs e rest ∨ ∃ a mid, item.Takes bs a mid ∧ (next a).Fails mid e rest := by
  constructor
  · intro h
    obtain ⟨a, mid, ha⟩ | ⟨e', mid, he⟩ := takes_or_fails item bs
    · exact .inr ⟨a, mid, ha, (run_bind_of_takes ha).symm.trans h⟩
    · have e := (fails_bind_of_fails he).symm.trans h
      injection e with e₁ e₂
      cases e₁
      exact .inl (e₂ ▸ he)
  · rintro (h | ⟨a, mid, ha, he⟩)
    · exact fails_bind_of_fails h
    · exact (run_bind_of_takes ha).trans he

theorem run_bind_congr {item item' : Reader α} {next next' : α → Reader β} {bs : Bytes}
    (h : item.run bs = item'.run bs)
    (hn : ∀ a mid, item.Takes bs a mid → (next a).run mid = (next' a).run mid) :
    (item >>= next).run bs = (item' >>= next').run bs := by
  obtain ⟨a, mid, ha⟩ | ⟨e, mid, he⟩ := takes_or_fails item bs
  · exact (run_bind_of_takes ha).trans ((hn a mid ha).trans (run_bind_of_takes (h.symm.trans ha)).symm)
  · exact (fails_bind_of_fails he).trans (fails_bind_of_fails (h.symm.trans he)).symm

/-! ## Bytes and numbers -/

theorem takes_take {n : Nat} {bs front rest : Bytes} :
    (take n).Takes bs front rest ↔ bs = front ++ rest ∧ front.length = n := by
  change (if (bs.take n).length = n then _ else _) = _ ↔ _
  split
  case isTrue h =>
    constructor
    · intro e
      injection e with e₁ e₂
      cases e₁
      exact ⟨by rw [← e₂, List.take_append_drop], h⟩
    · rintro ⟨rfl, rfl⟩
      rw [List.take_left, List.drop_left]
  case isFalse h =>
    constructor
    · intro e
      injection e with e₁
      injection e₁
    · rintro ⟨rfl, rfl⟩
      rw [List.take_left] at h
      exact absurd rfl h

theorem fails_take {n : Nat} {bs rest : Bytes} {e : Error} (h : (take n).Fails bs e rest) :
    bs.length < n ∧ e = .serialization (.endOfData n bs.length) ∧ rest = bs := by
  change (if (bs.take n).length = n then _ else _) = _ at h
  split at h
  case isTrue =>
    injection h with h₁
    injection h₁
  case isFalse hn =>
    injection h with h₁ h₂
    injection h₁ with h₁
    rw [List.length_take] at hn
    exact ⟨by omega, h₁.symm, h₂.symm⟩

theorem takes_ofExcept {result : Except Error α} {bs rest : Bytes} {a : α} :
    (ofExcept result).Takes bs a rest ↔ result = .ok a ∧ bs = rest := by
  change (result, bs) = _ ↔ _
  rw [Prod.mk.injEq]

theorem fails_ofExcept {result : Except Error α} {bs rest : Bytes} {e : Error} :
    (ofExcept result).Fails bs e rest ↔ result = .error e ∧ bs = rest := by
  change (result, bs) = _ ↔ _
  rw [Prod.mk.injEq]

theorem unpack_length (bs : Bytes) : unpack bs.length bs = .ok (Bytes.toNatLE bs) := if_pos rfl

/-- The bytes of a word are always as many as it takes to unpack them. -/
theorem not_fails_unpack {width : Nat} {bs front mid rest : Bytes} {e : Error} (h : (take width).Takes bs front mid) :
    ¬ (ofExcept (unpack width front)).Fails mid e rest := by
  intro hf
  obtain ⟨-, rfl⟩ := takes_take.mp h
  obtain ⟨hf, -⟩ := fails_ofExcept.mp hf
  rw [unpack_length] at hf
  injection hf

theorem takes_word {width n : Nat} {bs rest : Bytes} :
    (word width).Takes bs n rest ↔ ∃ front, bs = front ++ rest ∧ front.length = width ∧ Bytes.toNatLE front = n := by
  simp only [word, takes_bind, takes_take, takes_ofExcept]
  constructor
  · rintro ⟨front, mid, ⟨rfl, rfl⟩, h, rfl⟩
    rw [unpack_length] at h
    exact ⟨front, rfl, rfl, Except.ok.inj h⟩
  · rintro ⟨front, rfl, rfl, rfl⟩
    exact ⟨front, rest, ⟨rfl, rfl⟩, unpack_length front, rfl⟩

/-! ## Failing for want of bytes -/

/-- More bytes were asked for than were left. -/
def IsEndOfData (e : Error) : Prop :=
  ∃ wanted available : Nat, available < wanted ∧ e = .serialization (.endOfData wanted available)

/-- The reader fails only where more bytes are asked for than are left, and says so. -/
def FailsShort (item : Reader α) : Prop := ∀ bs e rest, item.Fails bs e rest → IsEndOfData e

namespace FailsShort

theorem pure (a : α) : FailsShort (pure a : Reader α) := fun _ _ _ h => absurd h not_fails_pure

/-- Of the second part only those runs matter that the first one leads to. -/
theorem bind_of_takes {item : Reader α} {next : α → Reader β} (h : FailsShort item)
    (hn : ∀ bs a mid, item.Takes bs a mid → ∀ e rest, (next a).Fails mid e rest → IsEndOfData e) :
    FailsShort (item >>= next) := by
  intro bs e rest hf
  rcases fails_bind.mp hf with hf | ⟨a, mid, ha, hf⟩
  · exact h bs e rest hf
  · exact hn bs a mid ha e rest hf

theorem bind {item : Reader α} {next : α → Reader β} (h : FailsShort item) (hn : ∀ a, FailsShort (next a)) :
    FailsShort (item >>= next) :=
  h.bind_of_takes fun _ a mid _ e rest hf => hn a mid e rest hf

theorem take (n : Nat) : FailsShort (take n) := fun bs _ _ h =>
  ⟨n, bs.length, (fails_take h).1, (fails_take h).2.1⟩

theorem word (width : Nat) : FailsShort (word width) :=
  (take width).bind_of_takes fun _ _ _ ht _ _ hf => absurd hf (not_fails_unpack ht)

theorem compactSize : FailsShort compactSize := by
  refine (word 1).bind fun tag => ?_
  split
  · exact .pure tag
  · split
    · exact word 2
    · split
      · exact word 4
      · exact word 8

theorem varBytes : FailsShort varBytes := compactSize.bind take

theorem repeated {item : Reader α} (h : FailsShort item) (n : Nat) : FailsShort (repeated item n) := by
  induction n with
  | zero => exact .pure []
  | succ n ih => exact h.bind fun _ => ih.bind fun _ => .pure _

end FailsShort

/-! ## What is left -/

/-- The reader takes bytes off the front and does nothing else to them, also where it fails. -/
def LeavesRest (item : Reader α) : Prop := ∀ bs, (item.run bs).2 <:+ bs

/-- The reader takes nothing where it fails. -/
def TakesAllOrNone (item : Reader α) : Prop := ∀ bs e rest, item.Fails bs e rest → rest = bs

namespace LeavesRest

theorem pure (a : α) : LeavesRest (pure a : Reader α) := List.suffix_refl

theorem bind {item : Reader α} {next : α → Reader β} (h : LeavesRest item) (hn : ∀ a, LeavesRest (next a)) :
    LeavesRest (item >>= next) := by
  intro bs
  have hl := h bs
  obtain ⟨a, mid, ha⟩ | ⟨e, mid, he⟩ := takes_or_fails item bs
  · rw [ha] at hl
    rw [run_bind_of_takes ha]
    exact (hn a mid).trans hl
  · rw [he] at hl
    rw [fails_bind_of_fails he]
    exact hl

theorem take (n : Nat) : LeavesRest (take n) := by
  intro bs
  obtain ⟨front, rest, h⟩ | ⟨e, rest, h⟩ := takes_or_fails (Reader.take n) bs
  · rw [h]
    exact ⟨front, (takes_take.mp h).1.symm⟩
  · rw [h]
    exact (fails_take h).2.2 ▸ List.suffix_refl rest

theorem ofExcept (result : Except Error α) : LeavesRest (ofExcept result) := List.suffix_refl

theorem word (width : Nat) : LeavesRest (word width) := (take width).bind fun _ => ofExcept _

theorem int32 : LeavesRest int32 := (word 4).bind fun _ => pure _

theorem compactSize : LeavesRest compactSize := by
  refine (word 1).bind fun tag => ?_
  split
  · exact pure tag
  · split
    · exact word 2
    · split
      · exact word 4
      · exact word 8

theorem varBytes : LeavesRest varBytes := compactSize.bind take

end LeavesRest

namespace TakesAllOrNone

/-- Once the first part is done, the second must not fail. -/
theorem bind_of_takes {item : Reader α} {next : α → Reader β} (h : TakesAllOrNone item)
    (hn : ∀ bs a mid, item.Takes bs a mid → ∀ e rest, ¬ (next a).Fails mid e rest) : TakesAllOrNone (item >>= next) := by
  intro bs e rest hf
  rcases fails_bind.mp hf with hf | ⟨a, mid, ha, hf⟩
  · exact h bs e rest hf
  · exact absurd hf (hn bs a mid ha e rest)

theorem take (n : Nat) : TakesAllOrNone (take n) := fun _ _ _ h => (fails_take h).2.2

theorem word (width : Nat) : TakesAllOrNone (word width) :=
  (take width).bind_of_takes fun _ _ _ ht _ _ => not_fails_unpack ht

theorem int32 : TakesAllOrNone int32 := (word 4).bind_of_takes fun _ _ _ _ _ _ => not_fails_pure

end TakesAllOrNone

/-! ## Rounds -/

/-- With more rounds than bytes, repetition fails, and it does not matter how many more they are. -/
theorem fails_repeated {item : Reader α} (h : ∀ bs a rest, item.Takes bs a rest → rest.length < bs.length)
    {m n : Nat} {bs : Bytes} (hm : bs.length < m) (hn : bs.length < n) :
    ∃ e rest, (repeated item m).Fails bs e rest ∧ (repeated item n).Fails bs e rest := by
  induction m generalizing n bs with
  | zero => omega
  | succ m ih =>
    obtain _ | n := n
    · omega
    obtain ⟨a, mid, ha⟩ | ⟨e, mid, he⟩ := takes_or_fails item bs
    · have hlt := h bs a mid ha
      obtain ⟨e, rest, hm, hn⟩ := @ih n mid (by omega) (by omega)
      exact ⟨e, rest, fails_bind.mpr (.inr ⟨a, mid, ha, fails_bind_of_fails hm⟩),
        fails_bind.mpr (.inr ⟨a, mid, ha, fails_bind_of_fails hn⟩)⟩
    · exact ⟨e, mid, fails_bind_of_fails he, fails_bind_of_fails he⟩

/-- No more rounds are made than there are bytes, and one. -/
theorem run_repeated_min {item : Reader α} (h : ∀ bs a rest, item.Takes bs a rest → rest.length < bs.length)
    {limit : Nat} {bs : Bytes} (hl : bs.length < limit) (n : Nat) :
    (repeated item (min n limit)).run bs = (repeated item n).run bs := by
  obtain hn | hn := Nat.le_total n limit
  · rw [Nat.min_eq_left hn]
  · rw [Nat.min_eq_right hn]
    obtain ⟨e, rest, h₁, h₂⟩ := fails_repeated h hl (Nat.lt_of_lt_of_le hl hn)
    exact h₁.trans h₂.symm

/-! ## Accepting written forms -/

/-- The reader accepts exactly the bytes of written forms, whatever follows them, and returns what they stand for. -/
def Reads (item : Reader β) (bytes : α → Bytes) (value : α → β) : Prop :=
  ∀ bs b rest, item.Takes bs b rest ↔ ∃ a, bs = bytes a ++ rest ∧ value a = b

namespace Reads

variable {item : Reader β} {bytes : α → Bytes} {value : α → β}

theorem takes (h : Reads item bytes value) (a : α) (rest : Bytes) : item.Takes (bytes a ++ rest) (value a) rest :=
  (h _ _ _).mpr ⟨a, rfl, rfl⟩

/-- Two written forms never share their bytes but as a whole, since the reader stops at one place. -/
theorem append_inj (h : Reads item bytes value) {a b : α} {r s : Bytes} (e : bytes a ++ r = bytes b ++ s) :
    bytes a = bytes b ∧ r = s := by
  have ha := h.takes a r
  rw [e] at ha
  have hr : r = s := (ha.unique (h.takes b s)).2
  subst hr
  exact ⟨List.append_cancel_right e, rfl⟩

/-- Repetition accepts as many written forms, one after the other. -/
theorem repeated (h : Reads item bytes value) (n : Nat) {bs rest : Bytes} {bs' : List β} :
    (repeated item n).Takes bs bs' rest ↔
      ∃ as : List α, as.length = n ∧ bs = as.flatMap bytes ++ rest ∧ as.map value = bs' := by
  induction n generalizing bs bs' rest with
  | zero =>
    rw [Reader.repeated, takes_pure]
    constructor
    · rintro ⟨rfl, rfl⟩
      exact ⟨[], rfl, rfl, rfl⟩
    · rintro ⟨as, h₀, rfl, rfl⟩
      rw [List.length_eq_zero_iff.mp h₀]
      exact ⟨rfl, rfl⟩
  | succ n ih =>
    simp only [Reader.repeated, takes_bind, takes_pure, ih, h _ _ _]
    constructor
    · rintro ⟨_, _, ⟨a, rfl, rfl⟩, _, _, ⟨as, rfl, rfl, rfl⟩, rfl, rfl⟩
      exact ⟨a :: as, rfl, by rw [List.flatMap_cons, List.append_assoc], rfl⟩
    · rintro ⟨_ | ⟨a, as⟩, hl, rfl, rfl⟩
      · cases hl
      · refine ⟨value a, as.flatMap bytes ++ rest, ⟨a, ?_, rfl⟩, as.map value, rest, ⟨as, ?_, rfl, rfl⟩, rfl, rfl⟩
        · rw [List.flatMap_cons, List.append_assoc]
        · exact Nat.succ.inj hl

/-- Lists of written forms of one length never share their bytes but as a whole. -/
theorem flatMap_append_inj (h : Reads item bytes value) (hb : Function.Injective bytes) {as bs : List α}
    {r s : Bytes} (hl : as.length = bs.length) (e : as.flatMap bytes ++ r = bs.flatMap bytes ++ s) :
    as = bs ∧ r = s := by
  induction as generalizing bs with
  | nil =>
    rw [List.eq_nil_of_length_eq_zero hl.symm] at e ⊢
    exact ⟨rfl, e⟩
  | cons a as ih =>
    cases bs with
    | nil => cases hl
    | cons b bs =>
      rw [List.flatMap_cons, List.flatMap_cons, List.append_assoc, List.append_assoc] at e
      obtain ⟨hab, e⟩ := h.append_inj e
      obtain ⟨rfl, rfl⟩ := ih (Nat.succ.inj hl) e
      exact ⟨by rw [hb hab], rfl⟩

/-- What is left is never longer than what was there. -/
theorem length_le (h : Reads item bytes value) {bs rest : Bytes} {b : β} (ht : item.Takes bs b rest) :
    rest.length ≤ bs.length := by
  obtain ⟨a, rfl, -⟩ := (h _ _ _).mp ht
  rw [List.length_append]
  omega

end Reads

/-! ## Using up all bytes -/

theorem run_done_snd (bs : Bytes) : (done.run bs).2 = bs := by
  cases bs <;> rfl

theorem takes_done {bs rest : Bytes} {u : Unit} : done.Takes bs u rest ↔ bs = [] ∧ rest = [] := by
  cases bs with
  | nil =>
    constructor
    · intro h
      injection h with _ h
      exact ⟨rfl, h.symm⟩
    · rintro ⟨-, rfl⟩
      rfl
  | cons b bs =>
    constructor
    · intro h
      injection h with h
      injection h
    · rintro ⟨h, -⟩
      cases h

theorem fails_done {bs rest : Bytes} {e : Error} (h : done.Fails bs e rest) :
    0 < bs.length ∧ e = .serialization (.trailing bs.length) := by
  cases bs with
  | nil =>
    injection h with h
    injection h
  | cons b bs =>
    injection h with h
    injection h with h
    exact ⟨Nat.succ_pos _, h.symm⟩

theorem seqLeft_done (item : Reader α) : item <* done = item >>= fun a => done >>= fun _ => pure a := rfl

theorem takes_seqLeft_done {item : Reader α} {bs rest : Bytes} {a : α} :
    (item <* done).Takes bs a rest ↔ item.Takes bs a [] ∧ rest = [] := by
  simp only [seqLeft_done, takes_bind, takes_pure, takes_done]
  constructor
  · rintro ⟨a, _, h, _, _, ⟨rfl, rfl⟩, rfl, rfl⟩
    exact ⟨h, rfl⟩
  · rintro ⟨h, rfl⟩
    exact ⟨a, [], h, (), [], ⟨rfl, rfl⟩, rfl, rfl⟩

theorem readAll_eq_ok {item : Reader α} {bs : Bytes} {a : α} : item.readAll bs = .ok a ↔ item.Takes bs a [] := by
  constructor
  · intro h
    exact (takes_seqLeft_done.mp (show (item <* done).Takes bs a _ from Prod.ext h rfl)).1
  · intro h
    exact congrArg Prod.fst (takes_seqLeft_done.mpr ⟨h, rfl⟩)

theorem readAll_eq_error {item : Reader α} {bs : Bytes} {e : Error} (h : item.readAll bs = .error e) :
    (∃ rest, item.Fails bs e rest) ∨
      ∃ a mid, item.Takes bs a mid ∧ 0 < mid.length ∧ e = .serialization (.trailing mid.length) := by
  have hf : (item <* done).Fails bs e _ := Prod.ext h rfl
  rw [seqLeft_done] at hf
  rcases fails_bind.mp hf with hf | ⟨a, mid, ha, hf⟩
  · exact .inl ⟨_, hf⟩
  · rcases fails_bind.mp hf with hf | ⟨_, _, -, hf⟩
    · exact .inr ⟨a, mid, ha, fails_done hf⟩
    · exact absurd hf not_fails_pure

/-- Reading all bytes goes wrong in two ways: they run out, or some are left. -/
theorem FailsShort.readAll {item : Reader α} (h : FailsShort item) {bs : Bytes} {e : Error}
    (he : item.readAll bs = .error e) :
    IsEndOfData e ∨ ∃ count : Nat, 0 < count ∧ e = .serialization (.trailing count) := by
  rcases readAll_eq_error he with ⟨rest, hf⟩ | ⟨a, mid, -, hm⟩
  · exact .inl (h _ _ _ hf)
  · exact .inr ⟨_, hm⟩

theorem Fails.readAll {item : Reader α} {bs rest : Bytes} {e : Error} (h : item.Fails bs e rest) :
    item.readAll bs = .error e :=
  congrArg Prod.fst (show (item <* done).Fails bs e rest from fails_bind_of_fails h)

theorem Takes.readAll {item : Reader α} {bs rest : Bytes} {a : α} (h : item.Takes bs a rest) (hr : rest ≠ []) :
    item.readAll bs = .error (.serialization (.trailing rest.length)) := by
  cases he : item.readAll bs with
  | ok b =>
    obtain ⟨-, rfl⟩ := h.unique (readAll_eq_ok.mp he)
    exact absurd rfl hr
  | error e =>
    rcases readAll_eq_error he with ⟨_, hf⟩ | ⟨_, mid, ht, -, rfl⟩
    · exact absurd hf h.not_fails
    · obtain ⟨-, rfl⟩ := h.unique ht
      rfl

theorem Reads.readAll {item : Reader β} {bytes : α → Bytes} {value : α → β} (h : Reads item bytes value) {bs : Bytes}
    {b : β} : item.readAll bs = .ok b ↔ ∃ a, bytes a = bs ∧ value a = b := by
  rw [readAll_eq_ok, h]
  simp only [List.append_nil, eq_comm (a := bs)]

/-! ### Cutting and extending -/

/-- The bytes are read as a whole and not otherwise: without some at the end they run out, and what follows them is left
over. -/
structure IsWhole (read : Bytes → Except Error α) (bs : Bytes) : Prop where
  cut : ∀ front, front <+: bs → front ≠ bs → ∃ e, IsEndOfData e ∧ read front = .error e
  extended : ∀ more, more ≠ [] → read (bs ++ more) = .error (.serialization (.trailing more.length))

/-- No form is read from a part of another one: a form that ended earlier would share its bytes with this one. -/
theorem Reads.not_takes_of_prefix {item : Reader β} {bytes : α → Bytes} {value : α → β} (h : Reads item bytes value)
    {a : α} {front rest : Bytes} {b : β} (hf : front <+: bytes a) (hne : front ≠ bytes a) :
    ¬ item.Takes front b rest := by
  intro ht
  obtain ⟨c, rfl, -⟩ := (h _ _ _).mp ht
  obtain ⟨tail, hc⟩ := hf
  have he : bytes c ++ (rest ++ tail) = bytes a ++ [] := by
    rw [← List.append_assoc, hc, List.append_nil]
  obtain ⟨-, rfl⟩ := List.append_eq_nil_iff.mp (h.append_inj he).2
  exact hne (List.append_nil (bytes c ++ rest) ▸ hc)

/-- A written form that is cut off runs out of bytes. -/
theorem Reads.fails_of_prefix {item : Reader β} {bytes : α → Bytes} {value : α → β} (h : Reads item bytes value)
    (hs : FailsShort item) {a : α} {front : Bytes} (hf : front <+: bytes a) (hne : front ≠ bytes a) :
    ∃ e rest, IsEndOfData e ∧ item.Fails front e rest := by
  obtain ⟨b, rest, ht⟩ | ⟨e, rest, he⟩ := takes_or_fails item front
  · exact absurd ht (h.not_takes_of_prefix hf hne)
  · exact ⟨e, rest, hs _ _ _ he, he⟩

/-- The end of a written form is found from the form itself, so the reader stops there whatever follows, and nowhere
before. -/
theorem Reads.isWhole {item : Reader β} {bytes : α → Bytes} {value : α → β} (h : Reads item bytes value)
    (hs : FailsShort item) (a : α) : IsWhole item.readAll (bytes a) where
  cut front hf hne := by
    obtain ⟨e, rest, he, hf⟩ := h.fails_of_prefix hs hf hne
    exact ⟨e, he, hf.readAll⟩
  extended more hm := (h.takes a more).readAll hm

end Remit.Wire.Reader
