import Mathlib.Data.List.Pairwise
import Remit.Transaction.Basic

/-!
# Sets of transactions

A set never holds two members that are equal under one key, and of each transaction that was put in it holds an equal
one under the same key. So it holds equal members just if equal transactions were put in under different keys.
-/

namespace Remit.Transaction

variable {members entries : List (Bytes × Transaction)}

/-! ## Putting in -/

theorem putIn_eq_or (members : List (Bytes × Transaction)) (e : Bytes × Transaction) :
    (putIn members e = members ∧ ∃ m ∈ members, m.1 = e.1 ∧ (m.2 == e.2) = true) ∨
      putIn members e = members ++ [e] ∧ ∀ m ∈ members, ¬ (m.1 = e.1 ∧ (m.2 == e.2) = true) := by
  by_cases h : (members.any fun m => m.1 == e.1 && m.2 == e.2) = true
  · refine .inl ⟨if_pos h, ?_⟩
    obtain ⟨m, hm, hb⟩ := List.any_eq_true.mp h
    rw [Bool.and_eq_true, beq_iff_eq] at hb
    exact ⟨m, hm, hb⟩
  · refine .inr ⟨if_neg h, fun m hm hb => h (List.any_eq_true.mpr ⟨m, hm, ?_⟩)⟩
    rw [Bool.and_eq_true, beq_iff_eq]
    exact hb

theorem mem_putIn_of_mem {m e : Bytes × Transaction} (h : m ∈ members) : m ∈ putIn members e := by
  obtain ⟨he, -⟩ | ⟨he, -⟩ := putIn_eq_or members e
  · rwa [he]
  · rw [he]
    exact List.mem_append_left _ h

/-- No two members are equal under one key. -/
def IsSet (members : List (Bytes × Transaction)) : Prop :=
  members.Pairwise fun m n => ¬ (m.1 = n.1 ∧ (m.2 == n.2) = true)

theorem IsSet.putIn (h : IsSet members) (e : Bytes × Transaction) : IsSet (putIn members e) := by
  obtain ⟨he, -⟩ | ⟨he, hn⟩ := putIn_eq_or members e
  · rwa [he]
  · rw [he]
    refine List.pairwise_append.mpr ⟨h, List.pairwise_singleton _ _, fun m hm n hn' => ?_⟩
    rw [List.mem_singleton.mp hn']
    exact hn m hm

/-! ## Putting in one after the other -/

theorem mem_of_mem_foldl_putIn {m : Bytes × Transaction} (h : m ∈ entries.foldl putIn members) :
    m ∈ members ∨ m ∈ entries := by
  induction entries generalizing members with
  | nil => exact .inl h
  | cons e entries ih =>
    obtain hm | hm := ih h
    · obtain ⟨he, -⟩ | ⟨he, -⟩ := putIn_eq_or members e
      · rw [he] at hm
        exact .inl hm
      · rw [he, List.mem_append, List.mem_singleton] at hm
        obtain hm | rfl := hm
        · exact .inl hm
        · exact .inr List.mem_cons_self
    · exact .inr (List.mem_cons_of_mem _ hm)

theorem mem_foldl_putIn_of_mem {m : Bytes × Transaction} (h : m ∈ members) : m ∈ entries.foldl putIn members := by
  induction entries generalizing members with
  | nil => exact h
  | cons e entries ih => exact ih (mem_putIn_of_mem h)

theorem IsSet.foldl_putIn (h : IsSet members) : IsSet (entries.foldl Transaction.putIn members) := by
  induction entries generalizing members with
  | nil => exact h
  | cons e entries ih => exact ih (h.putIn e)

theorem exists_mem_foldl_putIn {e : Bytes × Transaction} (he : e ∈ entries) (hr : (e.2 == e.2) = true) :
    ∃ m ∈ entries.foldl putIn members, m.1 = e.1 ∧ (m.2 == e.2) = true := by
  induction entries generalizing members with
  | nil => cases he
  | cons d entries ih =>
    rw [List.foldl_cons]
    obtain rfl | he := List.mem_cons.mp he
    · obtain ⟨hp, m, hm, hb⟩ | ⟨hp, -⟩ := putIn_eq_or members e
      · exact ⟨m, mem_foldl_putIn_of_mem (mem_putIn_of_mem hm), hb⟩
      · refine ⟨e, mem_foldl_putIn_of_mem ?_, rfl, hr⟩
        rw [hp]
        exact List.mem_append_right _ (List.mem_singleton_self e)
    · exact ih he

/-! ## Sets -/

theorem mem_of_mem_distinct {m : Bytes × Transaction} (h : m ∈ distinct entries) : m ∈ entries := by
  obtain h | h := mem_of_mem_foldl_putIn h
  · cases h
  · exact h

theorem isSet_distinct (entries : List (Bytes × Transaction)) : IsSet (distinct entries) :=
  IsSet.foldl_putIn List.Pairwise.nil

theorem exists_mem_distinct {e : Bytes × Transaction} (he : e ∈ entries) (hr : (e.2 == e.2) = true) :
    ∃ m ∈ distinct entries, m.1 = e.1 ∧ (m.2 == e.2) = true :=
  exists_mem_foldl_putIn he hr

/-- If equality is agreement on something, a set has no equal members just if equal entries were put in under one key. -/
theorem pairwise_distinct_iff {β : Type} {f : Transaction → β}
    (hf : ∀ m ∈ entries, ∀ n ∈ entries, (m.2 == n.2) = true ↔ f m.2 = f n.2) :
    (distinct entries).Pairwise (fun m n => (m.2 == n.2) = false) ↔
      ∀ m ∈ entries, ∀ n ∈ entries, (m.2 == n.2) = true → m.1 = n.1 := by
  constructor
  · intro h m hm n hn hb
    obtain ⟨m', hm', hk, hb'⟩ := exists_mem_distinct hm ((hf m hm m hm).mpr rfl)
    obtain ⟨n', hn', hk', hb''⟩ := exists_mem_distinct hn ((hf n hn n hn).mpr rfl)
    have hme := mem_of_mem_distinct hm'
    have hne := mem_of_mem_distinct hn'
    have h' : (distinct entries).Pairwise fun m n => f m.2 ≠ f n.2 := by
      refine h.imp_of_mem fun {a b} ha hb' hab he => ?_
      rw [(hf a (mem_of_mem_distinct ha) b (mem_of_mem_distinct hb')).mpr he] at hab
      cases hab
    have he : f m'.2 = f n'.2 := by
      rw [(hf m' hme m hm).mp hb', (hf n' hne n hn).mp hb'']
      exact (hf m hm n hn).mp hb
    by_cases hmn : m' = n'
    · rw [← hk, ← hk', hmn]
    · have : Std.Symm fun m n : Bytes × Transaction => f m.2 ≠ f n.2 := ⟨fun _ _ => Ne.symm⟩
      exact absurd he (h'.forall hm' hn' hmn)
  · intro h
    refine (isSet_distinct entries).imp_of_mem fun {a b} ha hb hab => ?_
    rw [Bool.eq_false_iff]
    intro hab'
    exact hab ⟨h a (mem_of_mem_distinct ha) b (mem_of_mem_distinct hb) hab', hab'⟩

end Remit.Transaction
