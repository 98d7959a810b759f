import Remit.Value
import Remit.Text.Digit

/-!
# Arguments

Reading a command line. Words with a hyphen in front are options: long ones can be shortened as long as only one option
begins so, and take their value after an equals sign or from the next word; short ones can be written together. All
other words are operands, and so is everything behind a double hyphen. A word that looks like a negative number or that
holds a space is no option.
-/

namespace Remit.Arguments

/-! ## Grammars -/

/-- What an option does. -/
inductive Effect where
  /-- Takes a value. -/
  | take
  /-- Stands for a fixed value. -/
  | put (v : Value)
  /-- Ends the reading; something is displayed instead. -/
  | display (t : Text)

/-- An option: how it is written, and the name under which its value is filed. -/
structure Flag where
  spelling : Text
  target : Text
  effect : Effect

/-- An operand: the name under which it is filed, and how its word is read. -/
structure Operand where
  name : Text
  read : Text → Option Value

/-- The options and operands of a command. All operands are required, and the options with the given targets. -/
structure Grammar where
  flags : List Flag
  operands : List Operand := []
  required : List Text := []

/-- Why there is nothing to go on with. -/
inductive Stop where
  | misuse
  | display (t : Text)

/-- Does the option take a value? -/
def Flag.takesValue (f : Flag) : Bool :=
  match f.effect with
  | .take => true
  | _ => false

/-! ## Words -/

/-- What stands behind an option in the same word. -/
inductive Attachment where
  | none
  | joined (t : Text)
  | assigned (t : Text)

/-- A word of a command line. An option may be unknown. -/
inductive Word where
  | plain (t : Text)
  | separator
  | flag (flag : Option Flag) (attached : Attachment)

/-- The double hyphen, behind which there are only operands. -/
def separatorText : Text := "--"

/-- The option with a spelling. -/
def find? (flags : List Flag) (spelling : Text) : Option Flag := flags.find? fun f => f.spelling == spelling

/-- What is attached with an equals sign. -/
def attachmentOf : Option Text → Attachment
  | some t => .assigned t
  | none => .none

/-- The options that a word may mean, which is not the spelling of one. -/
def candidates (flags : List Flag) (t : Text) : List (Flag × Attachment) :=
  match t with
  | a :: b :: rest =>
    if b = '-' then
      let (front, value) := Text.splitFirst '=' t
      (flags.filter fun f => front.isPrefixOf f.spelling).map fun f => (f, attachmentOf value)
    else flags.filterMap fun f =>
      if f.spelling = [a, b] then some (f, .joined rest)
      else if t.isPrefixOf f.spelling then some (f, .none) else none
  | _ => []

/-- Is the code point a decimal digit of some script? -/
def isDigit (c : CodePoint) : Bool := (Text.digit? c).isSome

/-- Does a word that starts with a hyphen look like a negative number? A line break at its end does not count. -/
def looksNegative (t : Text) : Bool :=
  let body := t.drop 1
  let body := if body.getLast? = some (CodePoint.ofChar '\n') then body.dropLast else body
  match body.dropWhile isDigit with
  | [] => !body.isEmpty
  | c :: fraction => c = '.' && !fraction.isEmpty && fraction.all isDigit

/-- The word that a text is, in front of any separator. Options that are shortened too much are misuse. -/
def classify (flags : List Flag) (t : Text) : Except Stop Word :=
  if t.length < 2 || t.head? != some (CodePoint.ofChar '-') then .ok (.plain t)
  else match find? flags t with
    | some f => .ok (.flag (some f) .none)
    | none =>
      let (front, value) := Text.splitFirst '=' t
      match value, find? flags front with
      | some value, some f => .ok (.flag (some f) (.assigned value))
      | _, _ =>
        match candidates flags t with
        | [(f, attached)] => .ok (.flag (some f) attached)
        | [] => .ok (if looksNegative t || t.contains ' ' then .plain t else .flag none .none)
        | _ => .error .misuse

/-- The words of a command line. -/
def words (flags : List Flag) : List Text → Except Stop (List Word)
  | [] => .ok []
  | t :: ts =>
    if t = separatorText then .ok (.separator :: ts.map .plain)
    else do
      let w ← classify flags t
      let ws ← words flags ts
      return w :: ws

/-! ## Options in one word -/

/-- The options written together in a word that begins with `f`, and whether a rest of the word is unknown. -/
def bundle (flags : List Flag) (f : Flag) : Text → Except Stop (List (Flag × Attachment) × Bool)
  | [] => .ok ([(f, .none)], false)
  | c :: rest =>
    if f.takesValue then .ok ([(f, .assigned (c :: rest))], false)
    else if c = '-' then .error .misuse
    else match find? flags ['-', c] with
      | none => .ok ([(f, .none)], true)
      | some g =>
        if rest.head? = some (CodePoint.ofChar '=') then
          if g.takesValue then .ok ([(f, .none), (g, .assigned rest.tail)], false) else .error .misuse
        else (bundle flags g rest).map fun (others, isStrange) => ((f, .none) :: others, isStrange)

/-- The options in a word that begins with `f`. -/
def optionsIn (flags : List Flag) (f : Flag) : Attachment → Except Stop (List (Flag × Attachment) × Bool)
  | .joined t => bundle flags f t
  | .assigned t => if f.takesValue then .ok ([(f, .assigned t)], false) else .error .misuse
  | .none => .ok ([(f, .none)], false)

/-! ## Reading -/

/-- What was read: the values by name, the operands that are still to come, and whether there was a word of no use. -/
structure State where
  values : List (Text × Value) := []
  operands : List Operand
  isStrange : Bool := false

namespace State

/-- Files a value. A later value replaces an earlier one. -/
def file (name : Text) (v : Value) (st : State) : State :=
  { st with values := st.values.filter (fun e => e.1 != name) ++ [(name, v)] }

/-- Notes whether there was a word of no use. -/
def note (isStrange : Bool) (st : State) : State := { st with isStrange := st.isStrange || isStrange }

end State

/-- Does what options do. The last one may take the value that follows; whether it did is part of the result. -/
def perform (next : Option Text) : List (Flag × Attachment) → State → Except Stop (State × Bool)
  | [], st => .ok (st, false)
  | (f, attached) :: others, st =>
    match f.effect, attached, others, next with
    | .display t, _, _, _ => .error (.display t)
    | .put v, _, others, next => perform next others (st.file f.target v)
    | .take, .assigned t, others, next => perform next others (st.file f.target (.text t))
    | .take, _, [], some t => .ok (st.file f.target (.text t), true)
    | .take, _, _, _ => .error .misuse

/-- What stood in front of a word. -/
inductive Before where
  | operand
  | separator
  | other
deriving DecidableEq

/-- The text of a plain word. -/
def Word.plain? : Word → Option Text
  | .plain t => some t
  | _ => none

/-- The value of an operand. A second double hyphen is an empty operand, unless it stands directly behind the first. -/
def Operand.value? (o : Operand) (before : Before) (t : Text) : Option Value :=
  if t = separatorText && before != .separator then some (.list []) else o.read t

/-- Reads words. -/
def readWords (flags : List Flag) : Before → State → List Word → Except Stop State
  | _, st, [] => .ok st
  | before, st, .separator :: rest =>
    if before = .operand then readWords flags .other st rest
    else if st.operands.isEmpty || rest.isEmpty then readWords flags .other (st.note true) rest
    else readWords flags .separator st rest
  | before, st, .plain t :: rest =>
    match st.operands with
    | [] => readWords flags .other (st.note true) rest
    | o :: operands =>
      match o.value? before t with
      | none => .error .misuse
      | some v => readWords flags .operand ({ st with operands }.file o.name v) rest
  | _, st, .flag none _ :: rest => readWords flags .other (st.note true) rest
  | _, st, .flag (some f) attached :: rest => do
    let (options, isStrange) ← optionsIn flags f attached
    let next := rest.head?.bind Word.plain?
    let (st, usesNext) ← perform next options (st.note isStrange)
    match rest with
    | w :: others =>
      if usesNext then readWords flags .other st others else readWords flags .other st (w :: others)
    | [] => .ok st

namespace Grammar

/-- Reads a command line: the values by name, and whether there was a word of no use. -/
def readPart (g : Grammar) (line : List Text) : Except Stop (List (Text × Value) × Bool) := do
  let ws ← words g.flags line
  let st ← readWords g.flags .other { operands := g.operands } ws
  if !st.operands.isEmpty || !(g.required.all fun name => st.values.any fun e => e.1 == name) then .error .misuse
  else return (st.values, st.isStrange)

/-- Reads a command line in which every word is of use. -/
def read (g : Grammar) (line : List Text) : Except Stop (List (Text × Value)) := do
  let (values, isStrange) ← g.readPart line
  if isStrange then .error .misuse else return values

end Grammar

/-- The name of a command and the words behind it, after options of its own. -/
def splitCommand (flags : List Flag) (isStrange : Bool) : List Word → List Text → Except Stop (Text × List Text × Bool)
  | .plain t :: _, _ :: rest => .ok (t, rest, isStrange)
  | .flag none _ :: ws, _ :: ts => splitCommand flags true ws ts
  | .flag (some f) attached :: ws, _ :: ts => do
    let (options, others) ← optionsIn flags f attached
    let _ ← perform none options { operands := [] }
    splitCommand flags (isStrange || others) ws ts
  | _, _ => .error .misuse

/-- Reads a command line that begins with the name of a command. -/
def readCommand (flags : List Flag) (grammar? : Text → Option Grammar) (line : List Text) :
    Except Stop (Text × List (Text × Value)) := do
  let ws ← words flags line
  let (name, rest, isStrange) ← splitCommand flags false ws line
  match grammar? name with
  | none => .error .misuse
  | some g =>
    let (values, others) ← g.readPart rest
    if isStrange || others then .error .misuse else return (name, values)

end Remit.Arguments
