import Mathlib.Tactic.Choose
import Remit.Proofs.Check
import Remit.Proofs.Hex
import Remit.Proofs.Transaction.Distinct
import Remit.Proofs.Transaction.Equality
import Remit.Proofs.Transaction.Looking

/-!
# Keys of equal transactions

Equality looks at what transactions hold, but names and keys come from the bytes they keep. Bytes in which a size is
longer than it needs to be are kept as they were read, and no transaction is ever written like that. So equal
transactions agree on their bytes just if neither keeps such bytes, or both keep the same.
-/

namespace Remit.Transaction

open Wire

/-! ## Histories -/

/-- Transactions that come about by making, reading, adding and looking; no field of theirs was assigned. -/
inductive IsBuilt : Transaction → Prop
  | new (version locktime : Value) : IsBuilt { version, locktime }
  | ofBytes {raw : Bytes} {tx : Transaction} (h : ofBytes raw = .ok tx) : IsBuilt tx
  | ofHex {v : Value} {tx : Transaction} (h : ofHex v = .ok tx) : IsBuilt tx
  | addInputs {tx : Transaction} (h : IsBuilt tx) (inputs : List Input) : IsBuilt (tx.addInputs inputs)
  | addOutputs {tx : Transaction} (h : IsBuilt tx) (outputs : List Output) : IsBuilt (tx.addOutputs outputs)
  | view {tx : Transaction} (h : IsBuilt tx) (view : View) : IsBuilt (tx.perform (.view view)).2

/-- What is kept would be written, or else it was read. -/
def IsFaithful (tx : Transaction) : Prop :=
  ∀ raw, tx.kept? = some raw → tx.draft.toExcept = .ok raw ∨ ∃ l : Layout, l.bytes = raw ∧ l.contents = tx.toContents

theorem exists_ofBytes_of_ofHex {v : Value} {tx : Transaction} (h : ofHex v = .ok tx) :
    ∃ raw, ofBytes raw = .ok tx := by
  have hd {d : Except Hex.Fault Bytes} (h : (d.mapError Error.hex).bind ofBytes = .ok tx) :
      ∃ raw, ofBytes raw = .ok tx := by
    cases d with
    | error e => cases h
    | ok raw => exact ⟨raw, h⟩
  cases v with
  | text t => exact hd h
  | bytes bs => exact hd h
  | _ => cases h

theorem Layout.isFaithful_transaction (l : Layout) : l.transaction.IsFaithful := by
  intro raw h
  exact .inr ⟨l, Option.some.inj h, rfl⟩

theorem isFaithful_keeping {tx : Transaction} {raw : Bytes} (h : tx.IsFaithful) (hr : tx.known = .ok raw)
    (view : View) : (tx.keeping raw view).IsFaithful := by
  intro raw' hraw
  obtain rfl : raw = raw' := Option.some.inj hraw
  rw [known] at hr
  split at hr
  · next raw'' hk =>
    obtain rfl : raw'' = raw := Except.ok.inj hr
    exact h raw'' hk
  · exact .inl hr

/-- However a transaction was built, it keeps what would be written or was read, and the hash of that. -/
theorem IsBuilt.isConsistent_and_isFaithful {tx : Transaction} (h : tx.IsBuilt) : tx.IsConsistent ∧ tx.IsFaithful := by
  have hread {raw : Bytes} {tx : Transaction} (h : Transaction.ofBytes raw = .ok tx) :
      tx.IsConsistent ∧ tx.IsFaithful := by
    obtain ⟨l, -, rfl⟩ := ofBytes_eq_ok.mp h
    exact ⟨l.isConsistent_transaction, l.isFaithful_transaction⟩
  induction h with
  | new version locktime => exact ⟨isConsistent_of_keptHash?_eq_none rfl, fun _ h => nomatch h⟩
  | ofBytes h => exact hread h
  | ofHex h =>
    obtain ⟨raw, h⟩ := exists_ofBytes_of_ofHex h
    exact hread h
  | addInputs | addOutputs => exact ⟨isConsistent_of_keptHash?_eq_none rfl, fun _ h => nomatch h⟩
  | @view tx _ view ih =>
    refine ⟨isConsistent_perform ih.1 _, ?_⟩
    rw [perform_view ih.1]
    cases hk : tx.known with
    | ok raw => exact isFaithful_keeping ih.2 hk view
    | error e => exact ih.2

/-! ## Bytes -/

/-- The transaction keeps the bytes it was read from, and some size in them is longer than it needs to be. -/
def KeepsLong (tx : Transaction) (l : Layout) : Prop :=
  l.shortened ≠ l ∧ tx.kept? = some l.bytes ∧ l.contents = tx.toContents

namespace KeepsLong

variable {tx : Transaction} {l : Layout}

theorem known_eq (h : tx.KeepsLong l) : tx.known = .ok l.bytes := by
  rw [known, h.2.1]

/-- Nothing is written like that. -/
theorem bytes_ne (h : tx.KeepsLong l) : l.bytes ≠ tx.draft.bytes := by
  intro hb
  rw [← h.2.2, l.draft_contents] at hb
  exact h.1 (Layout.bytes_injective hb).symm

end KeepsLong

theorem IsBuilt.known_eq {tx : Transaction} (h : tx.IsBuilt) (hf : tx.draft.IsFinished)
    (hl : ∀ l, ¬ tx.KeepsLong l) : tx.known = .ok tx.draft.bytes := by
  rw [known]
  split
  · next raw hk =>
    obtain hd | ⟨l, rfl, hc⟩ := h.isConsistent_and_isFaithful.2 raw hk
    · rw [← hd, Draft.toExcept_of_isFinished hf]
    · have hs : l.shortened = l := not_not.mp fun hs => hl l ⟨hs, hk, hc⟩
      rw [← hc, l.draft_contents, hs]
      rfl
  · exact Draft.toExcept_of_isFinished hf

theorem IsBuilt.exists_known {tx : Transaction} (h : tx.IsBuilt) (hf : tx.draft.IsFinished) :
    ∃ raw, tx.known = .ok raw := by
  by_cases hl : ∃ l, tx.KeepsLong l
  · obtain ⟨l, hl⟩ := hl
    exact ⟨l.bytes, hl.known_eq⟩
  · exact ⟨tx.draft.bytes, h.known_eq hf (not_exists.mp hl)⟩

/-- If another transaction that would be written alike shows the bytes, it keeps them too. -/
theorem KeepsLong.of_known {a b : Transaction} {l : Layout} (h : a.KeepsLong l) (hb : b.IsBuilt)
    (hf : b.draft.IsFinished) (hd : a.draft = b.draft) (hk : b.known = .ok l.bytes) : b.KeepsLong l := by
  by_cases hl : ∃ l', b.KeepsLong l'
  · obtain ⟨l', hl'⟩ := hl
    have he : l' = l := Layout.bytes_injective (Except.ok.inj (hl'.known_eq.symm.trans hk))
    rwa [← he]
  · have he : b.draft.bytes = l.bytes := Except.ok.inj ((hb.known_eq hf (not_exists.mp hl)).symm.trans hk)
    rw [← hd] at he
    exact absurd he.symm h.bytes_ne

/-- Transactions that would be written alike show the same bytes just if they keep the same long ones, if any. -/
theorem IsBuilt.known_eq_known_iff {a b : Transaction} (ha : a.IsBuilt) (hb : b.IsBuilt) (hfa : a.draft.IsFinished)
    (hfb : b.draft.IsFinished) (hd : a.draft = b.draft) :
    a.known = b.known ↔ ∀ l, a.KeepsLong l ↔ b.KeepsLong l := by
  constructor
  · intro h l
    exact ⟨fun hl => hl.of_known hb hfb hd (h ▸ hl.known_eq), fun hl => hl.of_known ha hfa hd.symm (h ▸ hl.known_eq)⟩
  · intro h
    by_cases hl : ∃ l, a.KeepsLong l
    · obtain ⟨l, hl⟩ := hl
      rw [hl.known_eq, ((h l).mp hl).known_eq]
    · have hla := not_exists.mp hl
      rw [ha.known_eq hfa hla, hb.known_eq hfb fun l hl' => hla l ((h l).mpr hl'), hd]

/-! ## Names and keys -/

theorem View.of_id_inj {r s : Bytes} :
    View.id.of r = View.id.of s ↔ Sha256.doubleHash r = Sha256.doubleHash s := by
  rw [View.of, View.of, Value.text.injEq, Hex.encode_injective.eq_iff, List.reverse_inj]

theorem View.of_key_inj {r s : Bytes} :
    View.key.of r = View.key.of s ↔ Sha256.doubleHash r = Sha256.doubleHash s := by
  rw [View.of, View.of, Value.bytes.injEq]

/-- The entry under which a transaction that shows these bytes is put into a set. -/
def entry (tx : Transaction) (raw : Bytes) : Bytes × Transaction := (Sha256.doubleHash raw, tx.keeping raw .key)

theorem key_eq_entry {tx : Transaction} {raw : Bytes} (h : tx.IsConsistent) (hk : tx.known = .ok raw) :
    tx.key = .ok (tx.entry raw) := by
  rw [key, hash_eq h, hk]
  rfl

/-- Equal transactions that were built and can be written show the same bytes just if they keep the same bytes with a
longer size than needed, if any. Their names, and their keys, agree just if those bytes have the same hash. A set of
transactions holds no two equal members just if equal ones that were put in have the same key. -/
theorem equal_share_key_iff (txs : List Transaction) (h : ∀ tx ∈ txs, tx.IsBuilt ∧ tx.draft.IsFinished) :
    (∀ a ∈ txs, ∀ b ∈ txs, (a == b) = true →
      ∃ r s, (a.perform (.view .raw)).1 = .ok (.bytes r) ∧ (b.perform (.view .raw)).1 = .ok (.bytes s) ∧
        (r = s ↔ ∀ l, a.KeepsLong l ↔ b.KeepsLong l) ∧
        ((a.perform (.view .id)).1 = (b.perform (.view .id)).1 ↔ Sha256.doubleHash r = Sha256.doubleHash s) ∧
        ((a.perform (.view .key)).1 = (b.perform (.view .key)).1 ↔ Sha256.doubleHash r = Sha256.doubleHash s)) ∧
      ∃ entries, txs.mapM key = .ok entries ∧
        ((distinct entries).Pairwise (fun m n => (m.2 == n.2) = false) ↔
          ∀ a ∈ txs, ∀ b ∈ txs, (a == b) = true → (a.perform (.view .key)).1 = (b.perform (.view .key)).1) := by
  have hc (tx : Transaction) (ht : tx ∈ txs) : tx.IsConsistent := (h tx ht).1.isConsistent_and_isFaithful.1
  have hk : ∀ tx ∈ txs, ∃ raw, tx.known = .ok raw := fun tx ht => (h tx ht).1.exists_known (h tx ht).2
  choose! raw hraw using hk
  have hshown (tx : Transaction) (ht : tx ∈ txs) (view : View) :
      (tx.perform (.view view)).1 = .ok (view.of (raw tx)) := by
    rw [perform_view (hc tx ht), hraw tx ht]
  refine ⟨fun a ha b hb hab => ?_, txs.map fun tx => tx.entry (raw tx),
    mapM_eq_ok_map fun tx ht => key_eq_entry (hc tx ht) (hraw tx ht), ?_⟩
  · obtain ⟨hba, hfa⟩ := h a ha
    obtain ⟨hbb, hfb⟩ := h b hb
    have hd := Contents.draft_eq_of_beq hfa hfb hab
    refine ⟨raw a, raw b, hshown a ha .raw, hshown b hb .raw, ?_, ?_, ?_⟩
    · rw [← hba.known_eq_known_iff hbb hfa hfb hd, hraw a ha, hraw b hb, Except.ok.injEq]
    · rw [hshown a ha, hshown b hb, Except.ok.injEq, View.of_id_inj]
    · rw [hshown a ha, hshown b hb, Except.ok.injEq, View.of_key_inj]
  · have hplain : ∀ m ∈ txs.map (fun tx => tx.entry (raw tx)), ∀ n ∈ txs.map (fun tx => tx.entry (raw tx)),
        (m.2 == n.2) = true ↔ m.2.plain = n.2.plain := by
      intro m hm n hn
      obtain ⟨a, ha, rfl⟩ := List.mem_map.mp hm
      obtain ⟨b, hb, rfl⟩ := List.mem_map.mp hn
      exact Contents.beq_iff_plain_eq (h a ha).2 (h b hb).2
    rw [pairwise_distinct_iff (f := fun tx => tx.plain) hplain, List.forall_mem_map]
    refine forall₂_congr fun a ha => ?_
    rw [List.forall_mem_map]
    refine forall₃_congr fun b hb _ => ?_
    rw [hshown a ha, hshown b hb, Except.ok.injEq, View.of_key_inj]
    rfl

/-- A transaction without inputs and outputs, its number of inputs in three bytes and in one: equal transactions, with
different names, that stand in a set side by side. -/
theorem equal_share_key_iff_padded :
    ∃ a b, ofBytes [1, 0, 0, 0, 253, 0, 0, 0, 0, 0, 0, 0] = .ok a ∧ ofBytes [1, 0, 0, 0, 0, 0, 0, 0, 0, 0] = .ok b ∧
      (a == b) = true ∧ (a.perform (.view .id)).1 ≠ (b.perform (.view .id)).1 ∧
      ∃ entries, [a, b].mapM key = .ok entries ∧
        ¬ (distinct entries).Pairwise (fun m n => (m.2 == n.2) = false) := by
  let long : Layout := ⟨⟨1, by decide⟩, ⟨⟨0, .three, by decide⟩, [], rfl⟩, ⟨⟨0, .one, by decide⟩, [], rfl⟩, ⟨0, by decide⟩⟩
  let short : Layout := long.shortened
  have hb : (long.transaction == short.transaction) = true :=
    (Contents.beq_iff_plain_eq long.isFinished_draft_contents short.isFinished_draft_contents).mpr rfl
  have hl : ofBytes [1, 0, 0, 0, 253, 0, 0, 0, 0, 0, 0, 0] = .ok long.transaction :=
    ofBytes_eq_ok.mpr ⟨long, by decide, rfl⟩
  have hs : ofBytes [1, 0, 0, 0, 0, 0, 0, 0, 0, 0] = .ok short.transaction :=
    ofBytes_eq_ok.mpr ⟨short, by decide, rfl⟩
  have hne : Sha256.doubleHash long.bytes ≠ Sha256.doubleHash short.bytes := by decide +kernel
  have h := equal_share_key_iff [long.transaction, short.transaction] (List.forall_mem_cons.mpr
    ⟨⟨.ofBytes hl, long.isFinished_draft_contents⟩, List.forall_mem_singleton.mpr
      ⟨.ofBytes hs, short.isFinished_draft_contents⟩⟩)
  obtain ⟨r, s, hr, hs', -, hid, hkey⟩ := h.1 _ List.mem_cons_self _ (List.mem_cons_of_mem _ List.mem_cons_self) hb
  obtain rfl : long.bytes = r := Value.bytes.inj (Except.ok.inj hr)
  obtain rfl : short.bytes = s := Value.bytes.inj (Except.ok.inj hs')
  obtain ⟨entries, he, hp⟩ := h.2
  refine ⟨long.transaction, short.transaction, hl, hs, hb, fun hi => hne (hid.mp hi), entries, he, fun hd => ?_⟩
  exact hne (hkey.mp (hp.mp hd _ List.mem_cons_self _ (List.mem_cons_of_mem _ List.mem_cons_self) hb))

end Remit.Transaction
