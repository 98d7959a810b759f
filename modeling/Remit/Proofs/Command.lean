import Mathlib.Data.List.Forall2
import Remit.Command
import Remit.Proofs.Json.RoundTrip
import Remit.Proofs.Payment.Response

/-!
# What commands print

A command that succeeds has sent one question, and what it prints shows the answer and nothing else: the transaction as
it was sent, byte by byte, with its name and fields, and the outputs in the order in which they were sent, or the script
to pay to. What is printed is JSON and is read back as the value that was to be shown.
-/

namespace Remit

open Json (IsPlain IsVerbatim named)
open Payment
open Transaction (InputLayout OutputLayout Layout)

/-! ## Calls -/

namespace Payment

variable {α β : Type}

/-- What is made of a result asks nothing more. -/
theorem Call.run_andThen_ofExcept (make : α → Except Error β) (transport : Transport) (call : Call α) :
    ((call.andThen fun a => .ofExcept (make a)).run transport).result = (call.run transport).result >>= make ∧
      ((call.andThen fun a => .ofExcept (make a)).run transport).sent = (call.run transport).sent := by
  induction call with
  | done result warnings =>
    cases result with
    | ok a => exact ⟨rfl, rfl⟩
    | error e => exact ⟨rfl, rfl⟩
  | ask question next ih =>
    obtain ⟨hr, hs⟩ := ih (transport question.url question.body)
    exact ⟨hr, congrArg (question :: ·) hs⟩

/-- One question was sent, and the result was read from the answer. -/
def Answered (transport : Transport) (read : Value → Except Error α) (outcome : Outcome α) : Prop :=
  ∃ question data a, outcome.sent = [question] ∧ transport question.url question.body = .ok data ∧ read data = .ok a ∧
    outcome.result = .ok a

theorem Client.answered_exchange {c : Capability} {url : Text} {request : Request} {what : String} {identity : Identity}
    {isNoted : Error → Bool} {read : Value → Except Error α} {transport : Transport} {a : α}
    (h : ((exchange c url request (conclude what identity isNoted read)).run transport).result = .ok a) :
    Answered transport read ((exchange c url request (conclude what identity isNoted read)).run transport) := by
  revert h
  rw [exchange, Call.run]
  cases ht : transport url request.body with
  | error e =>
    dsimp only
    split
    case isTrue => exact fun h => nomatch h
    case isFalse => exact fun h => nomatch h
  | ok data =>
    dsimp only
    rw [conclude]
    cases hr : read data with
    | error e => exact fun h => nomatch h
    | ok a => exact fun _ => ⟨⟨url, request.body⟩, data, a, rfl, ht, hr, rfl⟩

theorem Client.answered_paymentDestination {identity : Identity} {now : Moment} {order : Order} {transport : Transport}
    {script : Bytes} (h : ((paymentDestination identity now order).run transport).result = .ok script) :
    Answered transport (fun data => do (← DestinationResponse.ofValue data).lockingScript)
      ((paymentDestination identity now order).run transport) := by
  revert h
  rw [paymentDestination]
  cases prepare identity now .destination order with
  | error e => exact fun h => nomatch h
  | ok p => exact answered_exchange

theorem Client.answered_paymentRequest {identity : Identity} {now : Moment} {asset : Value} {order : Order}
    {transport : Transport} {p : PaymentTemplate}
    (h : ((paymentRequest identity now asset order).run transport).result = .ok p) :
    Answered transport (fun data => do (← PaymentResponse.ofValue data).decode)
      ((paymentRequest identity now asset order).run transport) := by
  revert h
  rw [paymentRequest]
  cases prepare identity now (.payment asset) order with
  | error e => exact fun h => nomatch h
  | ok p => exact answered_exchange

end Payment

namespace Command

/-! ## Showing -/

/-- The value shows an input: the output that it spends, and its sequence number. -/
def ShowsInput (i : Transaction.Input) (v : Value) : Prop :=
  ∃ txo, i.outpoint = .ok txo ∧ v = .mapping [("txo", .text txo), ("sequence", i.sequence)]

/-- The value shows an output: its amount, and its script in hexadecimal. -/
def ShowsOutput (o : Transaction.Output) (v : Value) : Prop :=
  ∃ script, o.script = .bytes script ∧ v = .mapping [("amount", o.amount), ("script", Hex.encode script)]

/-- The value shows the transaction that a text spells: the name that its bytes have, the text itself in small letters,
and the fields of the transaction that this is read as, in order. -/
def ShowsTransaction (t : Text) (v : Value) : Prop :=
  ∃ raw tx inputs outputs, Hex.decode t = .ok raw ∧ Transaction.ofHex (.text (Text.lower t)) = .ok tx ∧
    List.Forall₂ ShowsInput tx.inputs inputs ∧ List.Forall₂ ShowsOutput tx.outputs outputs ∧
    v = .mapping [("txid", Hex.encode (Sha256.doubleHash raw).reverse), ("hex", Text.lower t), ("version", tx.version),
      ("locktime", tx.locktime), ("inputs", .list inputs), ("outputs", .list outputs)]

/-- The value shows the output that a text spells. -/
def ShowsOutputText (t : Text) (v : Value) : Prop :=
  ∃ raw o, Hex.decode t = .ok raw ∧ Transaction.Output.ofBytes raw = .ok o ∧ ShowsOutput o v

/-- The value shows the answer to a command of a kind. -/
inductive ShowsAnswer (data : Value) : Request.Kind → Value → Prop
  | payment {asset tx : Value} {t : Text} {ts : List Text} {outputs : List Value}
      (ht : data.field? "paymentRequest" = some (.text t)) (hts : data.field? "outputs" = some (.list (ts.map .text)))
      (htx : ShowsTransaction t tx) (ho : List.Forall₂ ShowsOutputText ts outputs) :
      ShowsAnswer data (.payment asset) (.mapping [("tx", tx), ("outputs", .list outputs)])
  | destination {t : Text} (ht : data.field? "output" = some (.text t)) (hne : Text.lower t ≠ []) :
      ShowsAnswer data .destination (.mapping [("output", .text (Text.lower t))])

/-! ### What is shown of layouts -/

/-- What is shown of an input. -/
def inputShown (l : InputLayout) : Value :=
  .mapping [("txo", .text (Hex.encode l.hash.reverse ++ ":" ++ Text.ofNat l.position.number)),
    ("sequence", l.sequence.number)]

/-- What is shown of an output. -/
def outputShown (l : OutputLayout) : Value :=
  .mapping [("amount", l.amount.number), ("script", Hex.encode l.script.content)]

/-- What is shown of a transaction. -/
def transactionShown (l : Layout) : Value :=
  .mapping [("txid", Transaction.nameOf (Transaction.hashOf l.bytes)), ("hex", Hex.encode l.bytes),
    ("version", l.version.number), ("locktime", l.locktime.number), ("inputs", .list (l.inputs.items.map inputShown)),
    ("outputs", .list (l.outputs.items.map outputShown))]

theorem mapM_map_eq_ok {α β γ ε : Type} {f : β → Except ε γ} {g : α → β} {k : α → γ} (h : ∀ a, f (g a) = .ok (k a))
    (as : List α) : (as.map g).mapM f = .ok (as.map k) := by
  rw [List.mapM_map]
  exact mapM_eq_ok_map fun a _ => h a

/-- A number in a word is small. -/
theorem number_lt_of_le {width : Nat} (hw : width ≤ 8) (w : Wire.Word width) : w.number < 10 ^ 20 := by
  have hpow : 256 ^ width ≤ 256 ^ 8 := Nat.pow_le_pow_right (by decide) hw
  exact Nat.lt_of_lt_of_le w.fits (Nat.le_trans hpow (by omega))

theorem inWords_word {width : Nat} (hw : width ≤ 8) (w : Wire.Word width) :
    (Value.int w.number).inWords = .ok (Text.ofNat w.number) := by
  have hlt : w.number < 10 ^ Numeral.maxDigits :=
    Nat.lt_of_lt_of_le (number_lt_of_le hw w) (Nat.pow_le_pow_right (by decide) (by decide))
  exact if_pos (decide_eq_true hlt)

theorem outpoint_input (l : InputLayout) :
    l.input.outpoint = .ok (Hex.encode l.hash.reverse ++ ":" ++ Text.ofNat l.position.number) := by
  change ((Value.int l.position.number).inWords >>= _) = _
  rw [inWords_word (by decide)]
  rfl

theorem inputValue_input (l : InputLayout) : inputValue l.input = .ok (inputShown l) := by
  rw [inputValue, outpoint_input]
  rfl

theorem outputValue_output (l : OutputLayout) : outputValue l.output = .ok (outputShown l) := rfl

theorem transactionValue_transaction (l : Layout) : transactionValue l.transaction = .ok (transactionShown l) := by
  have hi := mapM_map_eq_ok inputValue_input l.inputs.items
  have ho := mapM_map_eq_ok outputValue_output l.outputs.items
  rw [transactionValue]
  change ((l.inputs.items.map InputLayout.input).mapM inputValue >>= _) = _
  rw [hi]
  change ((l.outputs.items.map OutputLayout.output).mapM outputValue >>= _) = _
  rw [ho]
  rfl

/-- A payment is shown as the layouts that its texts spell. -/
theorem paymentValue_layouts (l : Layout) (os : List OutputLayout) :
    paymentValue ⟨l.transaction, os.map OutputLayout.output⟩ =
      .ok (.mapping [("tx", transactionShown l), ("outputs", .list (os.map outputShown))]) := by
  rw [paymentValue, transactionValue_transaction]
  change ((os.map OutputLayout.output).mapM outputValue >>= _) = _
  rw [mapM_map_eq_ok outputValue_output]
  rfl

theorem showsOutput_outputShown (l : OutputLayout) : ShowsOutput l.output (outputShown l) := ⟨_, rfl, rfl⟩

theorem showsInput_inputShown (l : InputLayout) : ShowsInput l.input (inputShown l) := ⟨_, outpoint_input l, rfl⟩

theorem showsTransaction_transactionShown {t : Text} {l : Layout} (h : Hex.Spells t l.bytes) :
    ShowsTransaction t (transactionShown l) := by
  have hlower : Transaction.ofHex (.text (Text.lower t)) = .ok l.transaction := by
    rw [h.lower_eq, Transaction.ofHex, Hex.decode_eq_ok.mpr (Hex.spells_encode l.bytes)]
    exact Transaction.ofBytes_eq_ok.mpr ⟨l, rfl, rfl⟩
  refine ⟨l.bytes, l.transaction, l.inputs.items.map inputShown, l.outputs.items.map outputShown,
    Hex.decode_eq_ok.mpr h, hlower, ?_, ?_, ?_⟩
  · exact List.forall₂_map_left_iff.mpr (List.forall₂_map_right_iff.mpr
      (List.forall₂_same.mpr fun i _ => showsInput_inputShown i))
  · exact List.forall₂_map_left_iff.mpr (List.forall₂_map_right_iff.mpr
      (List.forall₂_same.mpr fun o _ => showsOutput_outputShown o))
  · rw [h.lower_eq]
    rfl

theorem showsOutputText_outputShown {t : Text} {l : OutputLayout} (h : Hex.Spells t l.bytes) :
    ShowsOutputText t (outputShown l) :=
  ⟨l.bytes, l.output, Hex.decode_eq_ok.mpr h, Transaction.Output.ofBytes_eq_ok.mpr ⟨l, rfl, rfl⟩,
    showsOutput_outputShown l⟩

/-! ### What is shown is plain -/

theorem isVerbatim_digit {n : Nat} (h : n < 16) : IsVerbatim (Hex.digit n) := by
  have hall : ∀ m : Fin 16, IsVerbatim (Hex.digit m) := by decide
  exact hall ⟨n, h⟩

theorem isVerbatim_encode (bs : Bytes) : ∀ c ∈ Hex.encode bs, IsVerbatim c := by
  intro c hc
  obtain ⟨b, -, hb⟩ := List.mem_flatMap.mp hc
  have := b.toNat_lt
  obtain rfl | rfl := List.mem_pair.mp hb
  · exact isVerbatim_digit (by omega)
  · exact isVerbatim_digit (by omega)

theorem isVerbatim_ofNat (n : Nat) : ∀ c ∈ Text.ofNat n, IsVerbatim c := by
  intro c hc
  have hdigit := List.all_eq_true.mp (Text.all_isAsciiDigit_ofNat n) c hc
  have hrange := hdigit
  rw [CodePoint.isAsciiDigit, CodePoint.isBetween, Bool.and_eq_true, decide_eq_true_eq, decide_eq_true_eq] at hrange
  change 48 ≤ c.val ∧ c.val ≤ 57 at hrange
  exact ⟨by omega, by omega, Json.ne_of_isAsciiDigit hdigit (by decide), Json.ne_of_isAsciiDigit hdigit (by decide)⟩

/-- A number in a word has few digits. -/
theorem isPlain_word {width : Nat} (hw : width ≤ 8) (w : Wire.Word width) : IsPlain (.int w.number) := by
  refine .natural ?_
  have hdigits : (Text.ofNat w.number).length ≤ 20 := by
    rw [Text.ofNat, List.length_map]
    exact (Nat.length_toDigits_le_iff (by decide) (by decide)).mpr (number_lt_of_le hw w)
  exact Nat.le_trans hdigits (show 20 ≤ 4300 by omega)

theorem isPlain_encode (bs : Bytes) : IsPlain (.text (Hex.encode bs)) := .text (isVerbatim_encode bs)

/-- A mapping of fixed names. -/
theorem isPlain_fields (names : List Text) (vs : List Value) (hn : names.Nodup)
    (hl : (names.all fun t => t.all fun c => decide (IsVerbatim c)) = true) (hlength : names.length = vs.length)
    (hv : ∀ v ∈ vs, IsPlain v) : IsPlain (.mapping (named (names.zip vs))) := by
  have hl (t : Text) (ht : t ∈ names) (c : CodePoint) (hc : c ∈ t) : IsVerbatim c :=
    of_decide_eq_true (List.all_eq_true.mp (List.all_eq_true.mp hl t ht) c hc)
  refine .mapping ?_ (fun e he => hl e.1 (List.of_mem_zip he).1) (fun e he => hv e.2 (List.of_mem_zip he).2)
  have hnames : (names.zip vs).map (·.1) = names := List.map_fst_zip (Nat.le_of_eq hlength)
  rwa [hnames]

theorem isPlain_inputShown (l : InputLayout) : IsPlain (inputShown l) := by
  have htxo : IsPlain (.text (Hex.encode l.hash.reverse ++ ":" ++ Text.ofNat l.position.number)) := by
    refine .text fun c hc => ?_
    rcases List.mem_append.mp hc with hc | hc
    · rcases List.mem_append.mp hc with hc | hc
      · exact isVerbatim_encode _ c hc
      · obtain rfl : c = CodePoint.ofChar ':' := List.mem_singleton.mp hc
        decide
    · exact isVerbatim_ofNat _ c hc
  refine isPlain_fields ["txo", "sequence"] [_, _] (by decide) (by decide) rfl ?_
  exact List.forall_mem_cons.mpr ⟨htxo, List.forall_mem_singleton.mpr (isPlain_word (by decide) l.sequence)⟩

theorem isPlain_outputShown (l : OutputLayout) : IsPlain (outputShown l) := by
  refine isPlain_fields ["amount", "script"] [_, _] (by decide) (by decide) rfl ?_
  exact List.forall_mem_cons.mpr ⟨isPlain_word (by decide) l.amount, List.forall_mem_singleton.mpr (isPlain_encode _)⟩

theorem isPlain_list_map {α : Type} {shown : α → Value} (h : ∀ a, IsPlain (shown a)) (as : List α) :
    IsPlain (.list (as.map shown)) := .list (List.forall_mem_map.mpr fun a _ => h a)

theorem isPlain_transactionShown (l : Layout) : IsPlain (transactionShown l) := by
  refine isPlain_fields ["txid", "hex", "version", "locktime", "inputs", "outputs"] [_, _, _, _, _, _] (by decide)
    (by decide) rfl ?_
  simp only [List.forall_mem_cons, List.not_mem_nil, false_implies, implies_true, and_true]
  exact ⟨isPlain_encode _, isPlain_encode _, isPlain_word (by decide) l.version, isPlain_word (by decide) l.locktime,
    isPlain_list_map isPlain_inputShown _, isPlain_list_map isPlain_outputShown _⟩

/-! ## Reports -/

/-- A command succeeds just if its result is printed. -/
theorem Report.ofResult_done_zero {result : Except Error Value} (h : (Report.ofResult result).ending = .done 0) :
    ∃ v t, result = .ok v ∧ Json.indented v = .ok t ∧ (Report.ofResult result).output = t ++ "\n" := by
  cases result with
  | error e =>
    rw [ofResult] at h
    cases he : e.isOwn <;> rw [he] at h <;> cases h
  | ok v =>
    revert h
    rw [ofResult]
    cases ht : Json.indented v with
    | error what => exact fun h => nomatch h
    | ok t => exact fun _ => ⟨v, t, rfl, ht, rfl⟩

theorem showsAnswer_of_lockingScript {data : Value} (hk : data.HasTextKeys) {script : Bytes}
    (h : (do (← DestinationResponse.ofValue data).lockingScript) = .ok script) :
    ShowsAnswer data .destination (.mapping [("output", Hex.encode script)]) := by
  have hs := DestinationResponse.settles_read hk
  rw [h] at hs
  obtain ⟨hc, hspells, hne⟩ := hs
  obtain ⟨t, ht⟩ : ∃ t, data.field? "output" = some (.text t) :=
    hc (Response.textCheck "output" data) (.tail _ (.head _))
  rw [Value.textUnder_eq ht] at hspells
  rw [← hspells.lower_eq]
  refine .destination ht fun hnil => hne ?_
  rw [hspells.lower_eq, ← List.length_eq_zero_iff, (Hex.spells_encode script).length_eq] at hnil
  exact List.length_eq_zero_iff.mp (by omega)

theorem exists_layouts {ts : List Text} {os : List Transaction.Output}
    (h : List.Forall₂ (fun t o => ∃ l : OutputLayout, Hex.Spells t l.bytes ∧ l.output = o) ts os) :
    ∃ ls : List OutputLayout, ls.map OutputLayout.output = os ∧
      List.Forall₂ (fun t (l : OutputLayout) => Hex.Spells t l.bytes) ts ls := by
  induction h with
  | nil => exact ⟨[], rfl, .nil⟩
  | cons hl _ ih =>
    obtain ⟨l, hs, rfl⟩ := hl
    obtain ⟨ls, rfl, hls⟩ := ih
    exact ⟨l :: ls, rfl, .cons hs hls⟩

theorem showsAnswer_of_decode {data : Value} (hk : data.HasTextKeys) {p : PaymentTemplate}
    (h : (do (← PaymentResponse.ofValue data).decode) = .ok p) (asset : Value) :
    ∃ v, paymentValue p = .ok v ∧ ShowsAnswer data (.payment asset) v ∧ IsPlain v := by
  have hs := PaymentResponse.settles_read hk
  rw [h] at hs
  obtain ⟨-, ⟨t, l, ht, hl, htx, -⟩, ts, hts, hos⟩ := hs
  obtain ⟨ls, hls, hspells⟩ := exists_layouts hos
  obtain ⟨tx, os⟩ := p
  subst htx hls
  refine ⟨_, paymentValue_layouts l ls, .payment ht hts (showsTransaction_transactionShown hl) ?_, ?_⟩
  · exact List.forall₂_map_right_iff.mpr (hspells.imp fun _ _ => showsOutputText_outputShown)
  · refine isPlain_fields ["tx", "outputs"] [_, _] (by decide) (by decide) rfl ?_
    exact List.forall_mem_cons.mpr
      ⟨isPlain_transactionShown l, List.forall_mem_singleton.mpr (isPlain_list_map isPlain_outputShown ls)⟩

/-- A question was sent, and the value shows its answer. -/
def ShowsAsked (kind : Request.Kind) (transport : Transport) (sent : List Sent) (v : Value) : Prop :=
  ∃ question data, sent = [question] ∧ transport question.url question.body = .ok data ∧
    (data.HasTextKeys → ShowsAnswer data kind v ∧ IsPlain v)

theorem showsAsked_of_andThen {α : Type} {kind : Request.Kind} {transport : Transport} {read : Value → Except Error α}
    {ask : Call α} {make : α → Except Error Value} {v : Value}
    (ha : ∀ a, (ask.run transport).result = .ok a → Answered transport read (ask.run transport))
    (hs : ∀ data a, data.HasTextKeys → read data = .ok a → make a = .ok v → ShowsAnswer data kind v ∧ IsPlain v)
    (h : ((ask.andThen fun a => .ofExcept (make a)).run transport).result = .ok v) :
    ShowsAsked kind transport ((ask.andThen fun a => .ofExcept (make a)).run transport).sent v := by
  obtain ⟨hresult, hsent⟩ := Call.run_andThen_ofExcept make transport ask
  rw [hresult] at h
  cases hr : (ask.run transport).result with
  | error e =>
    rw [hr] at h
    cases h
  | ok a =>
    obtain ⟨question, data, b, hq, ht, hread, hb⟩ := ha a hr
    obtain rfl : a = b := Except.ok.inj (hr.symm.trans hb)
    rw [hr] at h
    exact ⟨question, data, hsent.trans hq, ht, fun hk => hs data a hk hread h⟩

/-- A command that gets a result has sent one question, and the result shows the answer. -/
theorem showsAsked_of_run_call {setting : Text → Except Error Value} {now : Moment} {c : Command} {transport : Transport}
    {v : Value} (h : ((c.call setting now).run transport).result = .ok v) :
    ShowsAsked c.kind transport ((c.call setting now).run transport).sent v := by
  revert h
  rw [call]
  split
  case h_1 => exact fun h => nomatch h
  case h_2 =>
    cases c.kind with
    | destination =>
      refine showsAsked_of_andThen (fun _ => Client.answered_paymentDestination) fun data script hk hread hv => ?_
      obtain rfl := Except.ok.inj hv
      exact ⟨showsAnswer_of_lockingScript hk hread, isPlain_fields ["output"] [_] (by decide) (by decide) rfl
        (List.forall_mem_singleton.mpr (isPlain_encode script))⟩
    | payment asset =>
      refine showsAsked_of_andThen (fun _ => Client.answered_paymentRequest) fun data p hk hread hv => ?_
      obtain ⟨w, hw, hshows⟩ := showsAnswer_of_decode hk hread asset
      obtain rfl : w = v := Except.ok.inj (hw.symm.trans hv)
      exact hshows

/-- A report of success over a connection: one question was sent through it, and if the answer has text keys, the output
is JSON that shows the answer. -/
def Report.Shows (kind : Request.Kind) (connect : Value → Value → Transport) (report : Report) : Prop :=
  ∃ timeout agent question data, report.connection? = some (timeout, agent) ∧ report.sent = [question] ∧
    connect timeout agent question.url question.body = .ok data ∧
    (data.HasTextKeys → ∃ v, Json.read report.output = .ok v ∧ ShowsAnswer data kind v)

theorem shows_carryOut {setting : Text → Except Error Value} {now : Moment} {connect : Value → Value → Transport}
    {c : Command} (h : (c.carryOut setting now connect).ending = .done 0) :
    (c.carryOut setting now connect).Shows c.kind connect := by
  have unsuccessful (e : Error) : (Report.ofResult (.error e)).ending ≠ .done 0 := fun he => by
    obtain ⟨v, _, hv, -⟩ := Report.ofResult_done_zero he
    cases hv
  revert h
  rw [carryOut]
  cases setting "verbose" with
  | error e => exact fun h => absurd h (unsuccessful e)
  | ok verbose =>
    cases connectionOf setting with
    | error e => exact fun h => absurd h (unsuccessful e)
    | ok connection =>
      intro h
      obtain ⟨v, t, hv, ht, houtput⟩ := Report.ofResult_done_zero h
      obtain ⟨question, data, hsent, hask, hshows⟩ := showsAsked_of_run_call hv
      refine ⟨_, _, question, data, rfl, hsent, hask, fun hk => ?_⟩
      obtain ⟨hshows, hplain⟩ := hshows hk
      exact ⟨v, (congrArg Json.read houtput).trans (hplain.read_indented ht), hshows⟩

/-- What a command that was read prints when it succeeds: it has sent one question through the connection that it made,
and if the answer has text keys, the output is JSON that shows the answer. -/
theorem run_shows_answer {around : Surroundings} {now : Moment} {connect : Value → Value → Transport} {line : List Text}
    {c : Command} (hc : read (Settings.standardSchema around.toHost) line = .ok c)
    (h : (run around now connect line).ending = .done 0) :
    ∃ timeout agent question data, (run around now connect line).connection? = some (timeout, agent) ∧
      (run around now connect line).sent = [question] ∧ connect timeout agent question.url question.body = .ok data ∧
      (data.HasTextKeys → ∃ v, Json.read (run around now connect line).output = .ok v ∧ ShowsAnswer data c.kind v) := by
  have hread : read (Settings.standard around.toHost).schema line = .ok c := hc
  revert h
  rw [run]
  dsimp only
  rw [hread]
  dsimp only
  split
  case h_1 e _ warnings _ =>
    intro h
    obtain ⟨v, _, hv, -⟩ := Report.ofResult_done_zero h
    cases hv
  case h_2 settings warnings _ => exact shows_carryOut

/-- A transaction that counts its inputs, none, in three bytes and is sent in capitals is shown with the same bytes. -/
theorem run_shows_answer_capitals :
    let host : Host := ⟨[], "/home/bob/.config", none, fun _ => none⟩
    let around : Surroundings := { toHost := host, file := fun _ => .missing, readDocument := fun _ => .ok .null }
    let now : Moment := ⟨⟨2020, 1, 2⟩, 15, 4, 5, 0, some 0⟩
    let data : Value :=
      .mapping [("paymentRequest", "01000000FD00000000000000"), ("outputs", .list ["C4090000000000000151"])]
    let line : List Text := ["payment-request", "alice@example.com", "2500", "--url-template", "https://example.com/alice",
      "--sender-handle", "bob@example.org", "--config", ""]
    let report := run around now (fun _ _ _ _ => .ok data) line
    report.ending = .done 0 ∧ ∃ tx outputs, Json.read report.output = .ok (.mapping [("tx", tx), ("outputs", outputs)]) ∧
      ShowsTransaction "01000000FD00000000000000" tx := by
  intro host around now data line report
  have hdone : report.ending = .done 0 := by
    have hdone : (match report.ending with
        | .done 0 => true
        | _ => false) = true := by decide +kernel +zetaReduce
    revert hdone
    cases report.ending with
    | done code =>
      cases code with
      | zero => exact fun _ => rfl
      | succ code => exact fun h => nomatch h
    | _ => exact fun h => nomatch h
  obtain ⟨c, hc, hkind⟩ : ∃ c, read (Settings.standardSchema host) line = .ok c ∧ c.kind = .payment "" := ⟨_, rfl, rfl⟩
  obtain ⟨_, _, _, answer, -, -, hanswer, hshows⟩ := run_shows_answer hc hdone
  obtain rfl : data = answer := Except.ok.inj hanswer
  obtain ⟨v, hread, hv⟩ := hshows ⟨["paymentRequest", "outputs"], rfl, by decide⟩
  rw [hkind] at hv
  cases hv with
  | payment ht _ htx _ =>
    obtain rfl := Value.text.inj (Option.some.inj ht)
    exact ⟨hdone, _, _, hread, htx⟩

end Command

end Remit
