import Remit.Proofs.Wire.Draft
import Remit.Wire.Step

/-!
# Runs of steps at a cursor

Reading and writing share one place in the buffer. What a step may do to the buffer is the same for all of them: the place
moves on, and nothing changes but what lies between its two positions. That holds of a step that fails in its middle too,
and so it holds of whole runs. Steps that read do not change the buffer at all.
-/

namespace Remit.Wire

/-! ## Kinds of steps -/

/-- Does the item take the same number of bytes whatever they are? -/
def Item.isFixed : Item → Bool
  | .int32 | .word _ => true
  | .compactSize | .varBytes => false

namespace Step

/-- Does the step read, or only ask whether anything is left? -/
def isReading : Step → Bool
  | .take _ | .read _ | .ensureConsumed => true
  | .put _ | .write .. => false

/-- Is it known beforehand how many bytes the step reads? -/
def isFixed : Step → Bool
  | .take _ | .ensureConsumed => true
  | .read item => item.isFixed
  | .put _ | .write .. => false

end Step

/-- No item does more than take bytes. -/
theorem Item.leavesRest_reader (item : Item) : item.reader.LeavesRest := by
  cases item with
  | int32 => exact .bind .int32 fun _ => .pure _
  | word width => exact .bind (.word width) fun _ => .pure _
  | compactSize => exact .bind .compactSize fun _ => .pure _
  | varBytes => exact .bind .varBytes fun _ => .pure _

theorem Item.takesAllOrNone_reader {item : Item} (h : item.isFixed = true) : item.reader.TakesAllOrNone := by
  cases item with
  | int32 => exact .bind_of_takes .int32 fun _ _ _ _ _ _ => Reader.not_fails_pure
  | word width => exact .bind_of_takes (.word width) fun _ _ _ _ _ _ => Reader.not_fails_pure
  | compactSize | varBytes => cases h

namespace Cursor

variable {c d e : Cursor}

theorem position_le_length (c : Cursor) : c.position ≤ c.buffer.length := by
  rw [buffer, List.length_append]
  exact Nat.le_add_right _ _

theorem position_add_remaining (c : Cursor) : c.position + c.remaining = c.buffer.length :=
  List.length_append.symm

theorem drop_position_buffer (c : Cursor) : c.buffer.drop c.position = c.after := List.drop_left

/-! ## Moving on -/

/-- The place moves on in a buffer that grows only where it ends, and nothing changes but what lies between the two
positions. -/
structure MovesOn (c d : Cursor) : Prop where
  position_le : c.position ≤ d.position
  length_eq : d.buffer.length = max c.buffer.length d.position
  outside : ∀ i, i < c.position ∨ d.position ≤ i → d.buffer[i]? = c.buffer[i]?

namespace MovesOn

theorem refl (c : Cursor) : MovesOn c c where
  position_le := Nat.le_refl _
  length_eq := (Nat.max_eq_left c.position_le_length).symm
  outside _ _ := rfl

theorem trans (h : MovesOn c d) (h' : MovesOn d e) : MovesOn c e where
  position_le := Nat.le_trans h.position_le h'.position_le
  length_eq := by
    rw [h'.length_eq, h.length_eq, Nat.max_assoc, Nat.max_eq_right h'.position_le]
  outside i hi := by
    have hcd := h.position_le
    have hde := h'.position_le
    rw [h'.outside i (by omega), h.outside i (by omega)]

theorem length_le (h : MovesOn c d) : c.buffer.length ≤ d.buffer.length := by
  rw [h.length_eq]
  exact Nat.le_max_left _ _

end MovesOn

/-- The place moves on over bytes that stay as they are. -/
structure Passes (c d : Cursor) : Prop where
  position_le : c.position ≤ d.position
  buffer_eq : d.buffer = c.buffer

theorem Passes.refl (c : Cursor) : Passes c c := ⟨Nat.le_refl _, rfl⟩

theorem Passes.movesOn (h : Passes c d) : MovesOn c d where
  position_le := h.position_le
  length_eq := by
    rw [← h.buffer_eq, Nat.max_eq_left d.position_le_length]
  outside _ _ := by rw [h.buffer_eq]

/-! ## Reading -/

section Read

variable {α : Type} {item : Reader α}

/-- What a reader takes comes to stand in front of the cursor. -/
theorem read_of_run {result : Except Error α} {front rest : Bytes} (h : item.run c.after = (result, rest))
    (hf : c.after = front ++ rest) : c.read item = (result, ⟨c.before ++ front, rest⟩) := by
  rw [read, h, hf]
  dsimp only
  rw [List.length_append, Nat.add_sub_cancel, List.take_left]

theorem passes_read (h : item.LeavesRest) (c : Cursor) : Passes c (c.read item).2 := by
  rcases hr : item.run c.after with ⟨result, rest⟩
  obtain ⟨front, hf⟩ := h c.after
  rw [hr] at hf
  rw [read_of_run hr hf.symm]
  constructor
  · rw [position, position, List.length_append]
    exact Nat.le_add_right _ _
  · rw [buffer, buffer, List.append_assoc, hf]

theorem read_of_error (h : item.TakesAllOrNone) {error : Error} (he : (c.read item).1 = .error error) :
    (c.read item).2 = c := by
  rcases hr : item.run c.after with ⟨result, rest⟩
  obtain rfl : result = .error error := by
    rw [read, hr] at he
    exact he
  obtain rfl : rest = c.after := h _ _ _ hr
  rw [read_of_run hr (List.nil_append _).symm, List.append_nil]

/-- A reader of written forms moves on over the bytes of one. -/
theorem exists_form_of_read {β : Type} {bytes : β → Bytes} {value : β → α} (h : Reader.Reads item bytes value) {a : α}
    (hr : c.read item = (.ok a, d)) :
    ∃ b, value b = a ∧ c.after = bytes b ++ d.after ∧ d.position = c.position + (bytes b).length := by
  rcases hi : item.run c.after with ⟨result, rest⟩
  obtain rfl : result = .ok a := by
    rw [read, hi] at hr
    exact congrArg Prod.fst hr
  obtain ⟨b, hc, hb⟩ := (h _ _ _).mp hi
  rw [read_of_run hi hc] at hr
  obtain rfl : _ = d := congrArg Prod.snd hr
  exact ⟨b, hb, hc, List.length_append⟩

end Read

/-- The cursor `n` bytes further on. -/
def advance (n : Nat) (c : Cursor) : Cursor := ⟨c.before ++ c.after.take n, c.after.drop n⟩

theorem position_advance {n : Nat} (h : n ≤ c.remaining) : (c.advance n).position = c.position + n := by
  rw [advance, position, List.length_append, List.length_take_of_le h, position]

theorem passes_advance (n : Nat) (c : Cursor) : Passes c (c.advance n) where
  position_le := by
    rw [advance, position, position, List.length_append]
    exact Nat.le_add_right _ _
  buffer_eq := by
    rw [advance, buffer, buffer, List.append_assoc, List.take_append_drop]

theorem read_take_of_le {n : Nat} (h : n ≤ c.remaining) :
    c.read (Reader.take n) = (.ok (c.after.take n), c.advance n) := by
  have hc : c.after = c.after.take n ++ c.after.drop n := (List.take_append_drop n _).symm
  exact read_of_run (Reader.takes_take.mpr ⟨hc, List.length_take_of_le h⟩) hc

theorem read_take_of_lt {n : Nat} (h : c.remaining < n) : ∃ error, c.read (Reader.take n) = (.error error, c) := by
  obtain ⟨front, rest, ht⟩ | ⟨error, rest, hf⟩ := Reader.takes_or_fails (Reader.take n) c.after
  · obtain ⟨hc, hl⟩ := Reader.takes_take.mp ht
    have hlen : c.remaining = n + rest.length := by
      rw [remaining, hc, List.length_append, hl]
    omega
  · have he : (c.read (Reader.take n)).1 = .error error := congrArg Prod.fst hf
    exact ⟨error, Prod.ext he (read_of_error (.take n) he)⟩

/-- Of a value that asks for bytes, either all that it asks for are there, or none are taken. -/
theorem readSize_cases (size : Value) (c : Cursor) :
    (∃ error, c.readSize size = (.error error, c)) ∨
      ∃ n, n ≤ c.remaining ∧ c.readSize size = (.ok (c.after.take n), c.advance n) := by
  have htake (n : Nat) : (∃ error, c.read (Reader.take n) = (.error error, c)) ∨
      ∃ m, m ≤ c.remaining ∧ c.read (Reader.take n) = (.ok (c.after.take m), c.advance m) := by
    obtain hn | hn := Nat.lt_or_ge c.remaining n
    · exact .inl (read_take_of_lt hn)
    · exact .inr ⟨n, hn, read_take_of_le hn⟩
  rw [readSize]
  split
  case h_1 => exact .inl ⟨_, rfl⟩
  case h_2 =>
    split
    case isTrue => exact .inl ⟨_, rfl⟩
    case isFalse =>
      split
      case h_1 => exact .inl ⟨_, rfl⟩
      case h_2 n _ => exact htake n
      case h_3 =>
        split
        case isTrue => exact .inl ⟨_, rfl⟩
        case isFalse => exact htake _

/-- A natural number asks for as many bytes, and there is no other reason to fail than that there are fewer. -/
theorem readSize_of_natural {size : Value} {n : Nat} (h : size.toInt? = some (n : Int)) (c : Cursor) :
    c.readSize size =
      if n ≤ c.remaining then (.ok (c.after.take n), c.advance n)
      else (.error (Error.raised (.serialization (.endOfData size c.remaining))), c) := by
  rw [readSize, Draft.order?_of_toInt? h, h]
  dsimp only
  by_cases hn : n ≤ c.remaining
  · have hg : ¬ (some (compare (n : Int) c.remaining) == some Ordering.gt) = true := by
      rw [beq_iff_eq, Option.some_inj, Std.compare_eq_gt]
      omega
    rw [if_pos hn, if_neg hg]
    exact read_take_of_le hn
  · have hg : (some (compare (n : Int) c.remaining) == some Ordering.gt) = true := by
      rw [beq_iff_eq, Option.some_inj, Std.compare_eq_gt]
      omega
    rw [if_neg hn, if_pos hg]

/-! ## Writing -/

theorem write_fst_eq_ok {d : Draft} : (c.write d).1 = .ok () ↔ d.IsFinished := by
  obtain ⟨bs, _ | error⟩ := d
  · exact iff_of_true rfl rfl
  · exact iff_of_false (fun h => nomatch h) fun h => nomatch h

theorem movesOn_write (d : Draft) (c : Cursor) : MovesOn c (c.write d).2 where
  position_le := by
    rw [write, position, position, List.length_append]
    exact Nat.le_add_right _ _
  length_eq := by
    simp only [write, buffer, position, List.length_append, List.length_drop]
    omega
  outside i hi := by
    simp only [write, buffer, position, List.length_append] at hi ⊢
    obtain hi | hi := hi
    · rw [List.append_assoc, List.getElem?_append_left hi, List.getElem?_append_left hi]
    · rw [List.getElem?_append_right (by rw [List.length_append]; exact hi), List.getElem?_append_right (by omega),
        List.getElem?_drop, List.length_append]
      congr 1
      omega

/-! ## Steps -/

theorem ensureConsumed_snd (c : Cursor) : c.ensureConsumed.2 = c := by
  have hr : Reader.done.run c.after = ((Reader.done.run c.after).1, c.after) :=
    Prod.ext rfl (Reader.run_done_snd c.after)
  rw [ensureConsumed, read_of_run hr (List.nil_append _).symm, List.append_nil]

theorem passes_perform (step : Step) (h : step.isReading = true) (c : Cursor) : Passes c (c.perform step).2 := by
  cases step with
  | take size =>
    obtain ⟨error, he⟩ | ⟨n, -, hn⟩ := readSize_cases size c
    · rw [perform, he]
      exact .refl c
    · rw [perform, hn]
      exact passes_advance n c
  | read item => exact passes_read item.leavesRest_reader c
  | ensureConsumed =>
    change Passes c c.ensureConsumed.2
    rw [ensureConsumed_snd]
    exact .refl c
  | put bytes | write item v => cases h

/-- No step goes back, shortens the buffer or changes what does not lie between its two positions. -/
theorem movesOn_perform (step : Step) (c : Cursor) : MovesOn c (c.perform step).2 := by
  cases step with
  | take size => exact (passes_perform (.take size) rfl c).movesOn
  | read item => exact (passes_perform (.read item) rfl c).movesOn
  | ensureConsumed => exact (passes_perform (.ensureConsumed) rfl c).movesOn
  | put bytes => exact movesOn_write (.raw bytes) c
  | write item v => exact movesOn_write (item.draft v) c

theorem perform_of_error {step : Step} (h : step.isFixed = true) {error : Error}
    (he : (c.perform step).1 = .error error) : (c.perform step).2 = c := by
  cases step with
  | take size =>
    obtain ⟨e, hr⟩ | ⟨n, -, hn⟩ := readSize_cases size c
    · rw [perform, hr]
    · rw [perform, hn] at he
      cases he
  | read item => exact read_of_error (item.takesAllOrNone_reader h) he
  | ensureConsumed => exact ensureConsumed_snd c
  | put bytes | write item v => cases h

theorem perform_take_of_le {size : Value} {n : Nat} (h : size.toInt? = some (n : Int)) (hn : n ≤ c.remaining) :
    c.perform (.take size) = (.ok (.bytes (c.after.take n)), c.advance n) := by
  rw [perform, readSize_of_natural h, if_pos hn]
  rfl

theorem perform_take_of_lt {size : Value} {n : Nat} (h : size.toInt? = some (n : Int)) (hn : c.remaining < n) :
    c.perform (.take size) = (.error (Error.raised (.serialization (.endOfData size c.remaining))), c) := by
  rw [perform, readSize_of_natural h, if_neg (Nat.not_le_of_lt hn)]
  rfl

/-! ## Runs -/

/-- Does steps one after the other, also behind one that fails. Their results, and the cursor in the end. -/
def run : List Step → Cursor → List (Except Error Value) × Cursor
  | [], c => ([], c)
  | step :: steps, c =>
    let (result, c) := c.perform step
    let (results, c) := run steps c
    (result :: results, c)

theorem movesOn_run (steps : List Step) (c : Cursor) : MovesOn c (c.run steps).2 := by
  induction steps generalizing c with
  | nil => exact .refl c
  | cons step steps ih => exact (movesOn_perform step c).trans (ih _)

theorem buffer_run {steps : List Step} (h : ∀ step ∈ steps, step.isReading = true) (c : Cursor) :
    (c.run steps).2.buffer = c.buffer := by
  induction steps generalizing c with
  | nil => rfl
  | cons step steps ih =>
    rw [List.forall_mem_cons] at h
    exact (ih h.2 _).trans (passes_perform step h.1 c).buffer_eq

/-- What one step may do: `result` comes of it, and the cursor is `d` afterwards. -/
structure Does (step : Step) (c : Cursor) (result : Except Error Value) (d : Cursor) : Prop where
  movesOn : MovesOn c d
  /-- Reading does not change the buffer. -/
  reading : step.isReading = true → d.buffer = c.buffer
  /-- Where the number of bytes is known beforehand, all of them are taken or none. -/
  allOrNone : step.isFixed = true → ∀ error, result = .error error → d = c
  /-- The bytes that are asked for are those at the cursor. -/
  taken : ∀ size (n : Nat), step = .take size → size.toInt? = some (n : Int) →
    c.position + n ≤ c.buffer.length →
      result = .ok (.bytes ((c.buffer.drop c.position).take n)) ∧ d.position = c.position + n
  /-- More bytes than there are cannot be taken. -/
  refused : ∀ size (n : Nat), step = .take size → size.toInt? = some (n : Int) →
    c.buffer.length < c.position + n → ∃ error, result = .error error

theorem does_perform (step : Step) (c : Cursor) : Does step c (c.perform step).1 (c.perform step).2 where
  movesOn := movesOn_perform step c
  reading h := (passes_perform step h c).buffer_eq
  allOrNone h _ he := perform_of_error h he
  taken size n h hn hle := by
    subst h
    have hr : n ≤ c.remaining := by
      rw [← c.position_add_remaining] at hle
      omega
    rw [perform_take_of_le hn hr, drop_position_buffer]
    exact ⟨rfl, position_advance hr⟩
  refused size n h hn hlt := by
    subst h
    have hr : c.remaining < n := by
      rw [← c.position_add_remaining] at hlt
      omega
    rw [perform_take_of_lt hn hr]
    exact ⟨_, rfl⟩

/-- After any steps on any data the place is in the buffer. From there on it never goes back and the buffer never shrinks,
whatever steps follow and whether or not they succeed; they change nothing but what lies between the place where they begin
and the place where they end, and nothing at all if they only read. Each step takes just the bytes that it asks for, and one
that asks for a known number of them takes none if it fails. -/
theorem run_stays_in_frame (data : Bytes) (past : List Step) :
    let c := ((ofBytes data).run past).2
    c.position ≤ c.buffer.length ∧
      (∀ steps, MovesOn c (c.run steps).2) ∧
      (∀ steps, (∀ step ∈ steps, step.isReading = true) → (c.run steps).2.buffer = c.buffer) ∧
      ∀ step, Does step c (c.perform step).1 (c.perform step).2 := by
  intro c
  exact ⟨c.position_le_length, fun steps => movesOn_run steps c, fun _ h => buffer_run h c, fun step => does_perform step c⟩

/-- A length that was read before the bytes ran out stays read, and the mark of a number that does not fit stays written,
over the byte behind that length. The byte behind the mark is as it was. -/
theorem run_stays_in_frame_broken_off :
    let c := ((ofBytes [5, 1, 2]).run [.read .varBytes, .write .compactSize (.int (2 ^ 64))]).2
    c.buffer = [5, 255, 2] ∧ c.position = 2 ∧ (c.perform (.take (.int 1))).1 = .ok (.bytes [2]) ∧
      (∃ error, (c.perform (.take (.int 2))).1 = .error error) ∧ (c.perform (.read (.word 2))).2 = c := by
  intro c
  obtain ⟨-, -, -, does⟩ := run_stays_in_frame [5, 1, 2] [.read .varBytes, .write .compactSize (.int (2 ^ 64))]
  exact ⟨rfl, rfl, ((does (.take (.int 1))).taken _ 1 rfl rfl (by decide)).1,
    (does (.take (.int 2))).refused _ 2 rfl rfl (by decide), (does (.read (.word 2))).allOrNone rfl _ rfl⟩

end Cursor

end Remit.Wire
