import Mathlib.Data.List.Find
import Remit.Template
import Remit.Proofs.Text.Join

/-!
# Replacing places in a text

A pass over a text looks for places from the left, puts the text that belongs to a place in its stead, and copies all
else. Here every place begins with a mark that stands nowhere else in it. So no place reaches across a mark, and the
parts of a text between two marks are passed over each on its own. A pass for one place joins the parts between its
occurrences anew.
-/

namespace Remit.Text

/-- One pass over a text with a table of places and what is put in their stead; the first `skip` code points belong to a
place that was replaced already. -/
def passFrom (table : List (Text × Text)) : (skip : ℕ) → Text → Text
  | _, [] => []
  | skip + 1, _ :: rest => passFrom table skip rest
  | 0, c :: rest =>
    match table.find? fun entry => entry.1.isPrefixOf (c :: rest) with
    | some (old, new) => new ++ passFrom table (old.length - 1) rest
    | none => c :: passFrom table 0 rest

/-- One pass over a text with a table of places and what is put in their stead. -/
def pass (table : List (Text × Text)) (t : Text) : Text := passFrom table 0 t

/-- The place begins with the mark and does not hold it again. -/
def Opens (mark : CodePoint) (place : Text) : Prop := ∃ body, place = mark :: body ∧ mark ∉ body

variable {table : List (Text × Text)} {mark : CodePoint} {old new s t rest : Text}

theorem replace_eq_pass (old new t : Text) : replace old new t = pass [(old, new)] t := by
  have hfrom (skip : ℕ) : replaceFrom old new skip t = passFrom [(old, new)] skip t := by
    induction t generalizing skip with
    | nil => cases skip <;> rfl
    | cons c rest ih =>
      cases skip with
      | zero =>
        rw [replaceFrom, passFrom, List.find?_cons]
        cases old.isPrefixOf (c :: rest) with
        | true => exact congrArg (new ++ ·) (ih _)
        | false => exact congrArg (c :: ·) (ih 0)
      | succ skip => exact ih skip
  exact hfrom 0

/-! ## What a pass does at a place -/

theorem isPrefixOf_append (old rest : Text) : old.isPrefixOf (old ++ rest) = true :=
  List.isPrefixOf_iff_prefix.mpr (List.prefix_append old rest)

theorem passFrom_append (table : List (Text × Text)) (s rest : Text) :
    passFrom table s.length (s ++ rest) = pass table rest := by
  induction s with
  | nil => rfl
  | cons c s ih => exact ih

theorem pass_place (hold : old ≠ [])
    (h : (table.find? fun entry => entry.1.isPrefixOf (old ++ rest)) = some (old, new)) :
    pass table (old ++ rest) = new ++ pass table rest := by
  cases old with
  | nil => exact absurd rfl hold
  | cons c old =>
    rw [List.cons_append] at h
    rw [List.cons_append, pass, passFrom, h]
    exact congrArg (new ++ ·) (passFrom_append table old rest)

theorem Opens.ne_nil (h : Opens mark old) : old ≠ [] := by
  obtain ⟨body, rfl, -⟩ := h
  exact List.cons_ne_nil _ _

theorem Opens.not_isPrefix (h : Opens mark old) {c : CodePoint} (hc : c ≠ mark) : ¬ old <+: c :: t := by
  obtain ⟨body, rfl, -⟩ := h
  intro hp
  exact hc (List.cons_prefix_cons.mp hp).1.symm

/-- A place does not reach across a mark. -/
theorem Opens.prefix_append_iff (h : Opens mark old) (hs : s ≠ []) : old <+: s ++ mark :: rest ↔ old <+: s := by
  obtain ⟨body, rfl, hbody⟩ := h
  refine ⟨fun hp => ?_, fun hp => hp.trans (List.prefix_append _ _)⟩
  obtain ⟨c, s, rfl⟩ := List.exists_cons_of_ne_nil hs
  rw [List.cons_append, List.cons_prefix_cons] at hp
  obtain ⟨rfl, hp⟩ := hp
  apply List.cons_prefix_cons.mpr
  refine ⟨rfl, ?_⟩
  rcases Nat.lt_or_ge s.length body.length with hlt | hle
  · have hmark : s ++ [mark] <+: body := by
      apply List.prefix_of_prefix_length_le _ hp
      · rw [List.length_append, List.length_singleton]
        exact hlt
      · exact ⟨rest, by rw [List.append_assoc, List.singleton_append]⟩
    exact absurd (hmark.subset (List.mem_append_right _ List.mem_cons_self)) hbody
  · exact List.prefix_of_prefix_length_le hp (List.prefix_append _ _) hle

/-- The table knows no place at the start of the text. -/
theorem find?_eq_none {s : Text} (h : ∀ entry ∈ table, ¬ entry.1 <+: s) :
    (table.find? fun entry => entry.1.isPrefixOf s) = none := by
  apply List.find?_eq_none.mpr
  intro entry he hp
  exact h entry he (List.isPrefixOf_iff_prefix.mp hp)

/-- What holds no mark is copied. -/
theorem pass_append_of_not_mem (h : ∀ entry ∈ table, Opens mark entry.1) (hs : mark ∉ s) :
    pass table (s ++ rest) = s ++ pass table rest := by
  induction s with
  | nil => rfl
  | cons c s ih =>
    rw [List.mem_cons, not_or] at hs
    have hnone := find?_eq_none fun entry he => (h entry he).not_isPrefix (Ne.symm hs.1) (t := s ++ rest)
    rw [List.cons_append, pass, passFrom, hnone]
    exact congrArg (c :: ·) (ih hs.2)

/-- The text before a mark and the text from it on are passed over each on its own. -/
theorem pass_append_mark (h : ∀ entry ∈ table, Opens mark entry.1) (s rest : Text) :
    pass table (s ++ mark :: rest) = pass table s ++ pass table (mark :: rest) := by
  -- A place that was found may still take up some of the text, but never more of it than there is before the mark.
  have hfrom (skip : ℕ) (hskip : skip ≤ s.length) :
      passFrom table skip (s ++ mark :: rest) = passFrom table skip s ++ pass table (mark :: rest) := by
    induction s generalizing skip with
    | nil =>
      obtain rfl : skip = 0 := Nat.le_zero.mp hskip
      rfl
    | cons c s ih =>
      cases skip with
      | succ skip => exact ih skip (Nat.le_of_succ_le_succ hskip)
      | zero =>
        have hfind : (table.find? fun entry => entry.1.isPrefixOf (c :: s ++ mark :: rest)) =
            table.find? fun entry => entry.1.isPrefixOf (c :: s) := by
          apply List.find?_congr
          intro entry he
          rw [Bool.eq_iff_iff, List.isPrefixOf_iff_prefix, List.isPrefixOf_iff_prefix]
          exact (h entry he).prefix_append_iff (List.cons_ne_nil c s)
        rw [List.cons_append] at hfind ⊢
        rw [passFrom, passFrom, hfind]
        cases hplace : table.find? fun entry => entry.1.isPrefixOf (c :: s) with
        | none => exact congrArg (c :: ·) (ih 0 (Nat.zero_le _))
        | some entry =>
          have hp := List.find?_some (p := fun entry : Text × Text => entry.1.isPrefixOf (c :: s)) hplace
          have hlen := (List.isPrefixOf_iff_prefix.mp hp).length_le
          dsimp only
          rw [ih (entry.1.length - 1) (by rw [List.length_cons] at hlen; omega), List.append_assoc]
  exact hfrom 0 (Nat.zero_le _)

/-- A place that is not in the text can be left out of the table. -/
theorem pass_concat_of_not_isInfix (table : List (Text × Text)) (new : Text) (h : ¬ old <:+: t) :
    pass (table ++ [(old, new)]) t = pass table t := by
  have hfrom (skip : ℕ) : passFrom (table ++ [(old, new)]) skip t = passFrom table skip t := by
    induction t generalizing skip with
    | nil => cases skip <;> rfl
    | cons c rest ih =>
      have ih' := ih fun hi => h (hi.trans (List.suffix_cons c rest).isInfix)
      cases skip with
      | succ skip => exact ih' skip
      | zero =>
        have hno : old.isPrefixOf (c :: rest) = false := by
          rw [← Bool.not_eq_true, List.isPrefixOf_iff_prefix]
          exact fun hp => h hp.isInfix
        have hfind : ((table ++ [(old, new)]).find? fun entry => entry.1.isPrefixOf (c :: rest)) =
            table.find? fun entry => entry.1.isPrefixOf (c :: rest) := by
          rw [List.find?_append, List.find?_singleton, hno]
          exact Option.or_none
        rw [passFrom, passFrom, hfind]
        cases table.find? fun entry => entry.1.isPrefixOf (c :: rest) with
        | none => exact congrArg (c :: ·) (ih' 0)
        | some entry => exact congrArg (entry.2 ++ ·) (ih' _)
  exact hfrom 0

/-- Where there is no place, nothing is replaced. -/
theorem replace_of_not_isInfix (new : Text) (h : ¬ old <:+: t) : replace old new t = t := by
  have hnil (skip : ℕ) (s : Text) : passFrom [] skip s = s.drop skip := by
    induction s generalizing skip with
    | nil => cases skip <;> rfl
    | cons c s ih =>
      cases skip with
      | zero => exact congrArg (c :: ·) (ih 0)
      | succ skip => exact ih skip
  rw [replace_eq_pass]
  exact (pass_concat_of_not_isInfix [] new h).trans (hnil 0 t)

theorem map_replace_of_not_isInfix {ts : List Text} (new : Text) (h : ∀ s ∈ ts, ¬ old <:+: s) :
    ts.map (replace old new) = ts := by
  have hid : ∀ s ∈ ts, replace old new s = id s := fun s hs => replace_of_not_isInfix new (h s hs)
  rw [List.map_congr_left hid, List.map_id]

/-! ## Parts between places -/

theorem not_isInfix_nil (hold : old ≠ []) : ¬ old <:+: [] := fun h => hold (List.infix_nil.mp h)

/-- A text falls into the parts between the occurrences of a place. -/
theorem exists_parts (hold : old ≠ []) (t : Text) :
    ∃ ts, ts ≠ [] ∧ joinWith old ts = t ∧ ∀ s ∈ ts, ¬ old <:+: s := by
  induction hn : t.length using Nat.strongRecOn generalizing t with
  | _ n ih =>
    cases t with
    | nil => exact ⟨[[]], List.cons_ne_nil _ _, rfl, List.forall_mem_singleton.mpr (not_isInfix_nil hold)⟩
    | cons c rest =>
      by_cases hp : old <+: c :: rest
      · obtain ⟨after, ha⟩ := hp
        have hlt : after.length < n := by
          have hpos := List.length_pos_iff.mpr hold
          rw [← hn, ← ha, List.length_append]
          omega
        obtain ⟨ts, hne, rfl, hts⟩ := ih _ hlt after rfl
        refine ⟨[] :: ts, List.cons_ne_nil _ _, ?_, List.forall_mem_cons.mpr ⟨not_isInfix_nil hold, hts⟩⟩
        rw [joinWith_cons_of_ne_nil hne, List.nil_append, ha]
      · obtain ⟨ts, hne, rfl, hts⟩ := ih rest.length (by rw [← hn]; exact Nat.lt_succ_self _) rest rfl
        obtain ⟨s, ss, rfl⟩ := List.exists_cons_of_ne_nil hne
        rw [List.forall_mem_cons] at hts
        -- The place is neither at the start of the longer first part nor behind it.
        have hs : ¬ old <:+: c :: s := by
          intro hi
          rcases List.infix_cons_iff.mp hi with hpre | hin
          · exact hp (hpre.trans (List.cons_prefix_cons.mpr ⟨rfl, prefix_joinWith_cons old s ss⟩))
          · exact hts.1 hin
        refine ⟨(c :: s) :: ss, List.cons_ne_nil _ _, ?_, List.forall_mem_cons.mpr ⟨hs, hts.2⟩⟩
        cases ss <;> rfl

/-- What a pass makes of a place stands between what it makes of the parts. -/
theorem pass_joinWith (h : ∀ entry ∈ table, Opens mark entry.1) (hold : Opens mark old)
    (hplace : ∀ rest, pass table (old ++ rest) = new ++ pass table rest) (ts : List Text) :
    pass table (joinWith old ts) = joinWith new (ts.map (pass table)) := by
  induction ts with
  | nil => rfl
  | cons t ts ih =>
    by_cases hts : ts = []
    · subst hts
      rfl
    · have hcut : pass table (t ++ (old ++ joinWith old ts)) =
          pass table t ++ pass table (old ++ joinWith old ts) := by
        obtain ⟨body, rfl, -⟩ := hold
        exact pass_append_mark h t _
      have hts' : ts.map (pass table) ≠ [] := fun hnil => hts (List.map_eq_nil_iff.mp hnil)
      rw [joinWith_cons_of_ne_nil hts, hcut, hplace, ih, List.map_cons, joinWith_cons_of_ne_nil hts']

/-- What replacing makes of a place, be it the one that is replaced or another, stands between what it makes of the
parts. -/
theorem replace_joinWith_of_place {place put : Text} (h : Opens mark old) (hp : Opens mark place)
    (hplace : ∀ rest, replace old new (place ++ rest) = put ++ replace old new rest) (ts : List Text) :
    replace old new (joinWith place ts) = joinWith put (ts.map (replace old new)) := by
  have hpass : replace old new = pass [(old, new)] := funext (replace_eq_pass old new)
  rw [hpass] at hplace ⊢
  exact pass_joinWith (List.forall_mem_singleton.mpr h) hp hplace ts

/-! ## Where replacing changes nothing -/

theorem replace_place (h : Opens mark old) (new rest : Text) :
    replace old new (old ++ rest) = new ++ replace old new rest := by
  rw [replace_eq_pass, replace_eq_pass]
  apply pass_place h.ne_nil
  rw [List.find?_cons, isPrefixOf_append]

theorem replace_joinWith (h : Opens mark old) (new : Text) (ts : List Text) :
    replace old new (joinWith old ts) = joinWith new (ts.map (replace old new)) :=
  replace_joinWith_of_place h h (replace_place h new) ts

/-- What stands between the places stays, and the places are replaced. -/
theorem exists_parts_replace (h : Opens mark old) (new t : Text) :
    ∃ ts, ts ≠ [] ∧ joinWith old ts = t ∧ (∀ s ∈ ts, ¬ old <:+: s) ∧ replace old new t = joinWith new ts := by
  obtain ⟨ts, hne, rfl, hts⟩ := exists_parts h.ne_nil t
  refine ⟨ts, hne, rfl, hts, ?_⟩
  rw [replace_joinWith h, map_replace_of_not_isInfix new hts]

/-- What is put in the stead of places is all that comes in. -/
theorem mem_or_mem_of_mem_replace (h : Opens mark old) {c : CodePoint} (hc : c ∈ replace old new t) :
    c ∈ new ∨ c ∈ replace old [] t := by
  obtain ⟨ts, -, rfl, hts, hr⟩ := exists_parts_replace h new t
  rw [hr] at hc
  rcases mem_or_mem_of_mem_joinWith hc with hnew | ⟨s, hs, hcs⟩
  · exact .inl hnew
  · rw [replace_joinWith h, map_replace_of_not_isInfix [] hts]
    exact .inr (mem_joinWith_of_mem hs hcs [])

theorem replace_self (h : Opens mark old) (t : Text) : replace old old t = t := by
  obtain ⟨ts, -, rfl, -, hr⟩ := exists_parts_replace h old t
  exact hr

/-- Every place that is replaced changes the length by the same amount. -/
theorem exists_count_replace (h : Opens mark old) (new t : Text) :
    ∃ count, (count = 0 → ¬ old <:+: t) ∧
      (replace old new t).length + count * old.length = t.length + count * new.length := by
  obtain ⟨ts, hne, rfl, hts, hr⟩ := exists_parts_replace h new t
  refine ⟨ts.length - 1, fun hzero => ?_, ?_⟩
  · obtain ⟨s, ss, rfl⟩ := List.exists_cons_of_ne_nil hne
    obtain rfl : ss = [] := List.length_eq_zero_iff.mp hzero
    exact hts s List.mem_cons_self
  · rw [hr, length_joinWith, length_joinWith]
    omega

theorem exists_count_map_replace (h : Opens mark old) (new : Text) (ts : List Text) :
    ∃ count, (count = 0 → ∀ t ∈ ts, ¬ old <:+: t) ∧
      ((ts.map (replace old new)).map List.length).sum + count * old.length =
        (ts.map List.length).sum + count * new.length := by
  induction ts with
  | nil => exact ⟨0, fun _ => List.forall_mem_nil _, by simp⟩
  | cons t ts ih =>
    obtain ⟨m, hm, hlen⟩ := exists_count_replace h new t
    obtain ⟨n, hn, hsum⟩ := ih
    refine ⟨m + n, fun hzero => ?_, ?_⟩
    · exact List.forall_mem_cons.mpr ⟨hm (by omega), hn (by omega)⟩
    · simp only [List.map_cons, List.sum_cons, Nat.add_mul]
      omega

/-- A text that stays as it is holds no place, unless each place is replaced by itself. -/
theorem eq_or_not_isInfix_of_replace_eq (h : Opens mark old) (hlen : new.length = old.length)
    (hr : replace old new t = t) : new = old ∨ ¬ old <:+: t := by
  obtain ⟨ts, hne, rfl, hts, hj⟩ := exists_parts_replace h new t
  obtain ⟨s, ss, rfl⟩ := List.exists_cons_of_ne_nil hne
  rw [List.forall_mem_cons] at hts
  by_cases hss : ss = []
  · subst hss
    exact .inr hts.1
  · rw [hr, joinWith_cons_of_ne_nil hss, joinWith_cons_of_ne_nil hss] at hj
    exact .inl (List.append_inj (List.append_cancel_left hj) hlen.symm).1.symm

/-- Replacing places in joined texts changes something unless there are none, or each is replaced by itself. -/
theorem joinWith_map_replace_eq_iff (h : Opens mark old) (separator : Text) (ts : List Text) :
    joinWith separator (ts.map (replace old new)) = joinWith separator ts ↔ new = old ∨ ∀ t ∈ ts, ¬ old <:+: t := by
  constructor
  · intro hj
    obtain ⟨count, hzero, hsum⟩ := exists_count_map_replace h new ts
    have hlength := congrArg List.length hj
    rw [length_joinWith, length_joinWith, List.length_map] at hlength
    have hcount : count * new.length = count * old.length := by omega
    rcases Nat.eq_zero_or_pos count with hc | hc
    · exact .inr (hzero hc)
    · have hlen : new.length = old.length := Nat.eq_of_mul_eq_mul_left hc hcount
      have hlengths : (ts.map (replace old new)).map List.length = ts.map List.length := by
        rw [List.map_map]
        apply List.map_congr_left
        intro t _
        obtain ⟨n, -, hn⟩ := exists_count_replace h new t
        rw [hlen] at hn
        exact Nat.add_right_cancel hn
      have hmap : ts.map (replace old new) = ts.map id := by rw [joinWith_inj hlengths hj, List.map_id]
      by_cases hne : new = old
      · exact .inl hne
      · refine .inr fun t ht => ?_
        exact (eq_or_not_isInfix_of_replace_eq h hlen (List.map_inj_left.mp hmap t ht)).resolve_left hne
  · intro hid
    have hmap : ts.map (replace old new) = ts := by
      rcases hid with rfl | hno
      · exact List.map_id'' (replace_self h) ts
      · exact map_replace_of_not_isInfix new hno
    rw [hmap]

end Remit.Text
