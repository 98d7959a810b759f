import Mathlib.Data.List.Forall2
import Remit.Proofs.Json.Scalars
import Remit.Proofs.Text.Join
import Remit.Proofs.Value.Keys

/-!
# Printed values are read back

A plain value is made of natural numbers and of texts that need no escapes. It is printed, on one line or indented, as
text from which the reader gets the same value, whatever follows the text, unless what follows goes on with a number.
The reader counts its steps, and for no value needs more of them than its text has code points. Lists and mappings are
read by loops of one form: an item is read, and then the loop ends, or goes on behind a comma.
-/

namespace Remit.Json

variable {layout : Layout}

/-- The reader gets the value back from the text that it is printed as, whatever follows. -/
def ReadsBack (layout : Layout) (v : Value) : Prop :=
  ∀ depth t, print layout depth v = .ok t →
    StartsValue t ∧ ∀ rest, EndsNumber rest → ∀ fuel, t.length ≤ fuel → ∀ position,
      ∃ after, readValue fuel position (t ++ rest) = .ok (v, after, rest)

/-! ## Loops -/

section Loops

variable {ι : Type} {loop : (fuel position : Nat) → List ι → Text → Except Stop Step} {finish : List ι → Value}
  {separator ending rest : Text}

/-- A loop reads an item from the text of it, and then it ends, or it goes on with what stands behind a separator. It
takes one step more than the text has code points at most. -/
structure ReadsItem (loop : (fuel position : Nat) → List ι → Text → Except Stop Step) (finish : List ι → Value)
    (separator ending rest : Text) (a : ι) (t : Text) : Prop where
  starts : StartsValue t
  last : ∀ fuel, t.length ≤ fuel → ∀ position done,
    ∃ after, loop (fuel + 1) position done (t ++ ending) = .ok (finish (a :: done), after, rest)
  more : ∀ fuel, t.length ≤ fuel → ∀ position done next, StartsValue next →
    ∃ after, loop (fuel + 1) position done (t ++ (separator ++ next)) = loop fuel after (a :: done) next

/-- The loop reads all items that stand between separators. -/
theorem exists_loop_joinWith (hsep : separator ≠ []) {as : List ι} {ts : List Text} (hne : ts ≠ [])
    (h : List.Forall₂ (ReadsItem loop finish separator ending rest) as ts) :
    StartsValue (Text.joinWith separator ts) ∧
      ∀ fuel, (Text.joinWith separator ts).length < fuel → ∀ position done, ∃ after,
        loop fuel position done (Text.joinWith separator ts ++ ending) =
          .ok (finish (as.reverse ++ done), after, rest) := by
  induction h with
  | nil => exact absurd rfl hne
  | @cons a t as ts ha has ih =>
    cases has with
    | nil =>
      refine ⟨ha.starts, fun fuel hf position done => ?_⟩
      obtain _ | fuel := fuel
      · cases hf
      · exact ha.last fuel (Nat.le_of_lt_succ hf) position done
    | @cons b u bs us hb hbs =>
      obtain ⟨hnext, ih⟩ := ih (List.cons_ne_nil u us)
      rw [Text.joinWith_cons_of_ne_nil (List.cons_ne_nil u us)]
      generalize Text.joinWith separator (u :: us) = next at hnext ih
      refine ⟨ha.starts.append _, fun fuel hf position done => ?_⟩
      obtain _ | fuel := fuel
      · cases hf
      · have hpos := List.length_pos_iff.mpr hsep
        rw [List.length_append, List.length_append] at hf
        rw [List.append_assoc, List.append_assoc]
        obtain ⟨after, hmore⟩ := ha.more fuel (by omega) position done _ (hnext.append ending)
        obtain ⟨after, hi⟩ := ih fuel (by omega) after (a :: done)
        rw [hmore, hi, @List.reverse_cons _ a (b :: bs), List.append_assoc]
        exact ⟨after, rfl⟩

theorem enclose_of_ne_nil (layout : Layout) {items : List Text} (h : items ≠ []) (depth : Nat)
    (opening closing : CodePoint) (rest : Text) :
    layout.enclose depth [opening] [closing] items ++ rest = opening :: (layout.lineBreak (depth + 1) ++
      (Text.joinWith (layout.separator (depth + 1)) items ++ (layout.lineBreak depth ++ closing :: rest))) := by
  rw [Layout.enclose, if_neg (by rwa [List.isEmpty_iff])]
  simp only [List.append_assoc, List.cons_append, List.nil_append]

theorem length_joinWith_lt_length_enclose (layout : Layout) {items : List Text} (h : items ≠ []) (depth : Nat)
    (opening closing : CodePoint) :
    (Text.joinWith (layout.separator (depth + 1)) items).length + 1 <
      (layout.enclose depth [opening] [closing] items).length := by
  rw [Layout.enclose, if_neg (by rwa [List.isEmpty_iff])]
  simp only [List.length_append, List.length_singleton]
  omega

theorem exists_enclose_eq_cons (layout : Layout) (depth : Nat) (opening closing : CodePoint) (ts : List Text) :
    ∃ inner, layout.enclose depth [opening] [closing] ts = opening :: inner := by
  rw [Layout.enclose]
  split <;> exact ⟨_, rfl⟩

/-- What is enclosed is read by the loop that the opening starts. -/
theorem exists_readValue_enclose {opening closing : CodePoint}
    (hopen : ∀ gap items fuel position, IsGap gap → StartsValue items →
      ∃ after, readValue (fuel + 1) position (opening :: (gap ++ items)) = loop fuel after [] items)
    {depth : Nat} {as : List ι} {ts : List Text} (hne : ts ≠ [])
    (h : List.Forall₂ (ReadsItem loop finish (layout.separator (depth + 1)) (layout.lineBreak depth ++ closing :: rest) rest)
      as ts) {fuel : Nat} (hf : (layout.enclose depth [opening] [closing] ts).length ≤ fuel) (position : Nat) :
    ∃ after, readValue fuel position (layout.enclose depth [opening] [closing] ts ++ rest) =
      .ok (finish as.reverse, after, rest) := by
  obtain ⟨space, -, hsep⟩ := exists_separator_eq layout (depth + 1)
  obtain ⟨hstart, hloop⟩ := exists_loop_joinWith (by rw [hsep]; exact List.cons_ne_nil _ space) hne h
  have hf := Nat.lt_of_lt_of_le (length_joinWith_lt_length_enclose layout hne depth opening closing) hf
  obtain _ | fuel := fuel
  · cases hf
  · obtain ⟨after, ho⟩ := hopen _ _ fuel position (isGap_lineBreak layout (depth + 1)) (hstart.append _)
    obtain ⟨after, hl⟩ := hloop fuel (Nat.lt_of_succ_lt_succ hf) after []
    rw [enclose_of_ne_nil layout hne, ho, hl, List.append_nil]
    exact ⟨after, rfl⟩

end Loops

/-! ## Lists -/

theorem forall₂_of_printItems {R : Value → Text → Prop} {depth : Nat} {vs : List Value} {ts : List Text}
    (hp : printItems layout depth vs = .ok ts) (h : ∀ v ∈ vs, ∀ t, print layout depth v = .ok t → R v t) :
    List.Forall₂ R vs ts := by
  induction vs generalizing ts with
  | nil =>
    cases hp
    exact .nil
  | cons v vs ih =>
    rw [printItems] at hp
    cases ht : print layout depth v with
    | error what =>
      rw [ht] at hp
      cases hp
    | ok t =>
      cases hu : printItems layout depth vs with
      | error what =>
        rw [ht, hu] at hp
        cases hp
      | ok us =>
        rw [ht, hu] at hp
        cases hp
        exact .cons (h v List.mem_cons_self t ht) (ih hu fun w hw => h w (List.mem_cons_of_mem v hw))

theorem readItems_last {fuel position after : Nat} {t gap rest : Text} {v : Value} (hg : IsGap gap)
    (h : readValue fuel position t = .ok (v, after, gap ++ CodePoint.ofChar ']' :: rest)) (done : List Value) :
    ∃ after, readItems (fuel + 1) position done t = .ok (.list (v :: done).reverse, after, rest) := by
  rw [readItems, h]
  dsimp only
  rw [skipSpace_gap hg (startsAtOnce_cons (by decide) rest)]
  exact ⟨_, rfl⟩

theorem readItems_more {fuel position after : Nat} {t gap next : Text} {v : Value} (hg : IsGap gap)
    (hn : StartsAtOnce next)
    (h : readValue fuel position t = .ok (v, after, CodePoint.ofChar ',' :: (gap ++ next))) (done : List Value) :
    ∃ after, readItems (fuel + 1) position done t = readItems fuel after (v :: done) next := by
  rw [readItems, h]
  dsimp only
  rw [skipSpace_of_startsAtOnce (startsAtOnce_cons (by decide) _)]
  dsimp only
  rw [if_neg (by decide), if_pos rfl, skipSpace_gap hg hn]
  exact ⟨_, rfl⟩

theorem readValue_bracket {gap items : Text} (hg : IsGap gap) (hs : StartsValue items) (fuel position : Nat) :
    ∃ after, readValue (fuel + 1) position (CodePoint.ofChar '[' :: (gap ++ items)) = readItems fuel after [] items := by
  rw [readValue, if_neg (by decide), if_pos rfl, skipSpace_gap hg hs.startsAtOnce]
  obtain ⟨c, rest, rfl, hc⟩ := hs.head_ne (d := CodePoint.ofChar ']') (by decide) (by decide)
  exact ⟨_, if_neg hc⟩

theorem readsItem_item {v : Value} (hv : ReadsBack layout v) {depth : Nat} {t : Text}
    (ht : print layout depth v = .ok t) {gap : Text} (hg : IsGap gap) (rest : Text) :
    ReadsItem readItems (fun done => .list done.reverse) (layout.separator depth) (gap ++ CodePoint.ofChar ']' :: rest)
      rest v t := by
  obtain ⟨hstart, hread⟩ := hv depth t ht
  obtain ⟨space, hspace, hsep⟩ := exists_separator_eq layout depth
  refine ⟨hstart, fun fuel hf position done => ?_, fun fuel hf position done next hnext => ?_⟩
  · have hend := endsNumber_gap hg (c := CodePoint.ofChar ']') (by rintro _ ⟨⟩; decide) rest
    obtain ⟨after, h⟩ := hread _ hend fuel hf position
    exact readItems_last hg h done
  · rw [hsep]
    obtain ⟨after, h⟩ := hread _ (endsNumber_comma _) fuel hf position
    exact readItems_more hspace hnext.startsAtOnce h done

theorem readsBack_list {vs : List Value} (hv : ∀ v ∈ vs, ReadsBack layout v) : ReadsBack layout (.list vs) := by
  intro depth t h
  rw [print] at h
  cases hp : printItems layout (depth + 1) vs with
  | error what =>
    rw [hp] at h
    cases h
  | ok ts =>
    rw [hp] at h
    obtain rfl := Except.ok.inj h
    obtain ⟨inner, hinner⟩ := exists_enclose_eq_cons layout depth (CodePoint.ofChar '[') (CodePoint.ofChar ']') ts
    refine ⟨⟨_, inner, hinner, .inr (.inr (.inl rfl))⟩, fun rest _ fuel hf position => ?_⟩
    have hitems := forall₂_of_printItems hp fun v hmem t ht =>
      readsItem_item (hv v hmem) ht (isGap_lineBreak layout depth) rest
    cases hitems with
    | nil =>
      obtain _ | fuel := fuel
      · cases hf
      · exact ⟨position + 1 + 1, rfl⟩
    | @cons v u vs us hu hus =>
      have h := exists_readValue_enclose (fun _ _ fuel position hg hs => readValue_bracket hg hs fuel position)
        (List.cons_ne_nil u us) (.cons hu hus) hf position
      rwa [List.reverse_reverse] at h

/-! ## Mappings -/

/-- An entry as it is printed, in front of what follows. -/
theorem entry_append {label : Text} (h : ∀ c ∈ label, IsVerbatim c) (content rest : Text) :
    string label ++ ": " ++ content ++ rest =
      CodePoint.ofChar '"' :: (label ++ CodePoint.ofChar '"' :: CodePoint.ofChar ':' :: CodePoint.ofChar ' ' ::
        (content ++ rest)) := by
  rw [string_eq h]
  simp only [List.append_assoc, List.cons_append, List.nil_append]
  rfl

/-- How reading goes on when an entry has been read. -/
def readMore (fuel position : Nat) (done : List (Value × Value)) (t : Text) : Except Stop Step :=
  match skipSpace position t with
  | (p, []) => .error (.at .expectingComma p)
  | (p, c :: rest) =>
    if c = CodePoint.ofChar '\x7d' then .ok (Value.ofPairs done.reverse, p + 1, rest)
    else if c = CodePoint.ofChar ',' then
      let (p, rest) := skipSpace (p + 1) rest
      readEntries fuel p done rest
    else .error (.at .expectingComma p)

theorem readMore_last {gap : Text} (hg : IsGap gap) (fuel position : Nat) (done : List (Value × Value)) (rest : Text) :
    ∃ after, readMore fuel position done (gap ++ CodePoint.ofChar '\x7d' :: rest) =
      .ok (Value.ofPairs done.reverse, after, rest) := by
  rw [readMore, skipSpace_gap hg (startsAtOnce_cons (by decide) rest)]
  exact ⟨_, rfl⟩

theorem readMore_comma {gap next : Text} (hg : IsGap gap) (hn : StartsAtOnce next) (fuel position : Nat)
    (done : List (Value × Value)) :
    ∃ after, readMore fuel position done (CodePoint.ofChar ',' :: (gap ++ next)) = readEntries fuel after done next := by
  rw [readMore, skipSpace_of_startsAtOnce (startsAtOnce_cons (by decide) _)]
  dsimp only
  rw [if_neg (by decide), if_pos rfl, skipSpace_gap hg hn]
  exact ⟨_, rfl⟩

theorem readEntries_entry {label : Text} (hl : ∀ c ∈ label, IsVerbatim c) {content : Text} (hc : StartsValue content)
    {fuel : Nat} {v : Value} {tail : Text} (h : ∀ position, ∃ after, readValue fuel position content = .ok (v, after, tail))
    (position : Nat) (done : List (Value × Value)) :
    ∃ after, readEntries (fuel + 1) position done (CodePoint.ofChar '"' :: (label ++ CodePoint.ofChar '"' ::
      CodePoint.ofChar ':' :: CodePoint.ofChar ' ' :: content)) = readMore fuel after ((.text label, v) :: done) tail := by
  have hspace : IsGap [CodePoint.ofChar ' '] := by simp [IsGap, isSpace]
  rw [readEntries, if_neg (not_not_intro rfl),
    readString_verbatim position hl (by simp only [List.length_append, List.length_cons]; omega)]
  dsimp only
  rw [skipSpace_of_startsAtOnce (startsAtOnce_cons (by decide) _)]
  dsimp only
  rw [if_neg (not_not_intro rfl), ← List.singleton_append, skipSpace_gap hspace hc.startsAtOnce]
  obtain ⟨after, h⟩ := h _
  dsimp only
  rw [h]
  exact ⟨after, rfl⟩

/-- Entries whose names are texts. -/
def named (es : List (Text × Value)) : List (Value × Value) := es.map fun e => (.text e.1, e.2)

theorem forall₂_of_printEntries {R : Value × Value → Text → Prop} {depth : Nat} {es : List (Text × Value)}
    {ts : List Text} (hp : printEntries layout depth (named es) = .ok ts)
    (h : ∀ e ∈ es, ∀ t, print layout depth e.2 = .ok t → R (.text e.1, e.2) (string e.1 ++ ": " ++ t)) :
    List.Forall₂ R (named es) ts := by
  induction es generalizing ts with
  | nil =>
    cases hp
    exact .nil
  | cons e es ih =>
    rw [named, List.map_cons, printEntries, ← named] at hp
    cases ht : print layout depth e.2 with
    | error what =>
      rw [ht] at hp
      cases hp
    | ok t =>
      cases hu : printEntries layout depth (named es) with
      | error what =>
        rw [ht, hu] at hp
        cases hp
      | ok us =>
        rw [ht, hu] at hp
        cases hp
        exact .cons (h e List.mem_cons_self t ht) (ih hu fun d hd => h d (List.mem_cons_of_mem e hd))

theorem readsItem_entry {label : Text} (hl : ∀ c ∈ label, IsVerbatim c) {v : Value} (hv : ReadsBack layout v)
    {depth : Nat} {t : Text} (ht : print layout depth v = .ok t) {gap : Text} (hg : IsGap gap) (rest : Text) :
    ReadsItem readEntries (fun done => Value.ofPairs done.reverse) (layout.separator depth)
      (gap ++ CodePoint.ofChar '\x7d' :: rest) rest (.text label, v) (string label ++ ": " ++ t) := by
  obtain ⟨hstart, hread⟩ := hv depth t ht
  obtain ⟨space, hspace, hsep⟩ := exists_separator_eq layout depth
  have hlength : t.length ≤ (string label ++ ": " ++ t).length := by
    rw [List.length_append]
    omega
  refine ⟨⟨_, _, (List.append_nil _).symm.trans (entry_append hl t []), .inr (.inl rfl)⟩,
    fun fuel hf position done => ?_, fun fuel hf position done next hnext => ?_⟩
  · have hend := endsNumber_gap hg (c := CodePoint.ofChar '\x7d') (by rintro _ ⟨⟩; decide) rest
    obtain ⟨after, h⟩ := readEntries_entry hl (hstart.append _) (hread _ hend fuel (Nat.le_trans hlength hf)) position done
    rw [entry_append hl, h]
    exact readMore_last hg fuel after ((.text label, v) :: done) rest
  · rw [hsep]
    have hend := endsNumber_comma (space ++ next)
    obtain ⟨after, h⟩ := readEntries_entry hl (hstart.append _) (hread _ hend fuel (Nat.le_trans hlength hf)) position done
    rw [entry_append hl, List.cons_append, h]
    exact readMore_comma hspace hnext.startsAtOnce fuel after ((.text label, v) :: done)

theorem insert_of_forall_ne {key : Value} {es : List (Value × Value)} (h : ∀ e ∈ es, (e.1 == key) = false) (v : Value) :
    Value.insert key v es = es ++ [(key, v)] := by
  induction es with
  | nil => rfl
  | cons e es ih =>
    rw [Value.insert, h e List.mem_cons_self, ih fun d hd => h d (List.mem_cons_of_mem e hd)]
    rfl

theorem foldl_insert_named {es : List (Text × Value)} (done : List (Text × Value))
    (h : (done.map (·.1) ++ es.map (·.1)).Nodup) :
    (named es).foldl (fun entries p => Value.insert p.1 p.2 entries) (named done) = named (done ++ es) := by
  induction es generalizing done with
  | nil =>
    rw [List.append_nil]
    rfl
  | cons e es ih =>
    have hne : ∀ d ∈ named done, (d.1 == Value.text e.1) = false := by
      intro _ hd
      obtain ⟨d, hmem, rfl⟩ := List.mem_map.mp hd
      rw [Value.text_beq_text, beq_eq_false_iff_ne]
      exact (List.nodup_append.mp h).2.2 d.1 (List.mem_map_of_mem hmem) e.1 List.mem_cons_self
    have hstep : named done ++ [(Value.text e.1, e.2)] = named (done ++ [e]) := by
      rw [named, named, List.map_append]
      rfl
    change ((Value.text e.1, e.2) :: named es).foldl _ _ = _
    rw [List.foldl_cons, insert_of_forall_ne hne, hstep, ih]
    · rw [List.append_assoc, List.singleton_append]
    · rwa [List.map_append, List.append_assoc]

/-- Entries of different names make a mapping as they are. -/
theorem ofPairs_named {es : List (Text × Value)} (h : (es.map (·.1)).Nodup) :
    Value.ofPairs (named es) = .mapping (named es) := by
  rw [Value.ofPairs]
  exact congrArg Value.mapping (foldl_insert_named [] h)

theorem readValue_brace {gap entries : Text} (hg : IsGap gap) (hs : StartsValue entries) (fuel position : Nat) :
    ∃ after, readValue (fuel + 1) position (CodePoint.ofChar '\x7b' :: (gap ++ entries)) =
      readEntries fuel after [] entries := by
  rw [readValue, if_neg (by decide), if_neg (by decide), if_pos rfl, skipSpace_gap hg hs.startsAtOnce]
  obtain ⟨c, rest, rfl, hc⟩ := hs.head_ne (d := CodePoint.ofChar '\x7d') (by decide) (by decide)
  exact ⟨_, if_neg hc⟩

theorem readsBack_mapping {es : List (Text × Value)} (hn : (es.map (·.1)).Nodup)
    (hl : ∀ e ∈ es, ∀ c ∈ e.1, IsVerbatim c) (hv : ∀ e ∈ es, ReadsBack layout e.2) :
    ReadsBack layout (.mapping (named es)) := by
  intro depth t h
  rw [print] at h
  cases hp : printEntries layout (depth + 1) (named es) with
  | error what =>
    rw [hp] at h
    cases h
  | ok ts =>
    rw [hp] at h
    obtain rfl := Except.ok.inj h
    obtain ⟨inner, hinner⟩ := exists_enclose_eq_cons layout depth (CodePoint.ofChar '\x7b') (CodePoint.ofChar '\x7d') ts
    refine ⟨⟨_, inner, hinner, .inr (.inr (.inr rfl))⟩, fun rest _ fuel hf position => ?_⟩
    have hentries := forall₂_of_printEntries hp fun e hmem t ht =>
      readsItem_entry (hl e hmem) (hv e hmem) ht (isGap_lineBreak layout depth) rest
    have hpairs := ofPairs_named hn
    generalize named es = entries at hentries hpairs
    cases hentries with
    | nil =>
      obtain _ | fuel := fuel
      · cases hf
      · exact ⟨position + 1 + 1, rfl⟩
    | @cons e u entries us hu hus =>
      have h := exists_readValue_enclose (fun _ _ fuel position hg hs => readValue_brace hg hs fuel position)
        (List.cons_ne_nil u us) (.cons hu hus) hf position
      rwa [List.reverse_reverse, hpairs] at h

/-! ## Plain values -/

/-- The value is made of natural numbers and of texts that need no escapes; no name stands twice in a mapping. -/
inductive IsPlain : Value → Prop
  | natural {n : Nat} (h : (Text.ofNat n).length ≤ Numeral.maxDigits) : IsPlain (.int n)
  | text {t : Text} (h : ∀ c ∈ t, IsVerbatim c) : IsPlain (.text t)
  | list {vs : List Value} (h : ∀ v ∈ vs, IsPlain v) : IsPlain (.list vs)
  | mapping {es : List (Text × Value)} (hn : (es.map (·.1)).Nodup) (hl : ∀ e ∈ es, ∀ c ∈ e.1, IsVerbatim c)
      (h : ∀ e ∈ es, IsPlain e.2) : IsPlain (.mapping (named es))

theorem eq_of_integer_eq_ok {i : Int} {t : Text} (h : integer i = .ok t) : t = Text.ofInt i := by
  rw [integer] at h
  split at h
  case isTrue => exact (Except.ok.inj h).symm
  case isFalse => cases h

theorem readsBack_natural {n : Nat} (h : (Text.ofNat n).length ≤ Numeral.maxDigits) : ReadsBack layout (.int n) := by
  intro depth t ht
  obtain rfl : t = Text.ofNat n := eq_of_integer_eq_ok ht
  obtain ⟨c, run, hc, hdigit⟩ := exists_ofNat_eq_cons n
  refine ⟨⟨c, run, hc, .inl hdigit⟩, fun rest hrest fuel hf position => ?_⟩
  obtain _ | fuel := fuel
  · rw [hc] at hf
    cases hf
  · exact ⟨_, readValue_ofNat h hrest fuel position⟩

theorem readsBack_text {t : Text} (h : ∀ c ∈ t, IsVerbatim c) : ReadsBack layout (.text t) := by
  intro depth u hu
  obtain rfl : string t = u := Except.ok.inj hu
  rw [string_eq h]
  refine ⟨⟨_, _, rfl, .inr (.inl rfl)⟩, fun rest _ fuel hf position => ?_⟩
  obtain _ | fuel := fuel
  · cases hf
  · rw [List.cons_append, List.append_assoc, List.singleton_append, readValue, if_pos rfl,
      readString_verbatim position h (by simp only [List.length_append, List.length_cons]; omega)]
    exact ⟨_, rfl⟩

theorem IsPlain.readsBack {v : Value} (h : IsPlain v) : ReadsBack layout v := by
  induction h with
  | natural h => exact readsBack_natural h
  | text h => exact readsBack_text h
  | list _ ih => exact readsBack_list ih
  | mapping hn hl _ ih => exact readsBack_mapping hn hl ih

/-- What is printed of a plain value, and a line end behind it, is read as the value. -/
theorem IsPlain.read_indented {v : Value} (h : IsPlain v) {t : Text} (ht : indented v = .ok t) :
    read (t ++ "\n") = .ok v := by
  obtain ⟨hstart, hread⟩ := h.readsBack 0 t ht
  have hgap : IsGap (Text.ofString "\n") := by
    rintro c (_ | ⟨_, ⟨⟩⟩)
    rfl
  have hbom : (t ++ "\n").head? ≠ some (Fin.ofNat _ 0xfeff) := by
    obtain ⟨c, rest, hc, hne⟩ := (hstart.append "\n").head_ne (d := Fin.ofNat _ 0xfeff) (by decide) (by decide)
    rw [hc]
    exact fun e => hne (Option.some.inj e)
  have hend : EndsNumber (Text.ofString "\n") := by
    rintro _ ⟨⟩
    decide
  have hfuel : t.length ≤ 2 * (t ++ "\n").length + 2 := by
    rw [List.length_append]
    omega
  obtain ⟨after, hv⟩ := hread _ hend _ hfuel 0
  have hlast : skipSpace after (Text.ofString "\n") = (_, []) := skipSpace_gap hgap (by rintro _ ⟨⟩) after
  rw [read, readText, if_neg hbom, skipSpace_of_startsAtOnce (hstart.append _).startsAtOnce]
  dsimp only
  rw [hv]
  dsimp only
  rw [hlast]

end Remit.Json
