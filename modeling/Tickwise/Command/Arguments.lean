import Tickwise.Command
import Tickwise.Decimal.Reader
import Tickwise.Text.Numeral

/-!
# Command-line arguments

Arguments are the name of a command, its values in order, and options in between. An option is
named behind two dashes and may take a value, behind an equals sign or as the next argument. No
value begins with a dash unless the argument `--` stands before it.

* `OptionForms.read?` — sorts arguments into values and options;
* `Invocation.ofArguments?` — the command of arguments, if they are those of one.
-/

namespace Tickwise

/-- What an option takes, and how often it may stand. -/
inductive OptionKind where
  /-- No value, at most once. -/
  | flag
  /-- A value, at most once. -/
  | single
  /-- Values between commas, any number of times. -/
  | list
deriving DecidableEq

/-- Arguments sorted into values and options. -/
structure Given where
  values : List String
  /-- Each option with its value, which is empty for a flag. -/
  options : List (String × String)
deriving DecidableEq

namespace Given

/-- No arguments. -/
def nothing : Given := ⟨[], []⟩

/-- Arguments with a value before them. -/
def addValue (value : String) (given : Given) : Given :=
  { given with values := value :: given.values }

/-- Arguments with an option before them, which must not stand among them if it may stand only
once. -/
def addOption? (name : String) (kind : OptionKind) (value : String) (given : Given) :
    Option Given :=
  if kind ≠ .list ∧ (given.options.lookup name).isSome then none
  else some { given with options := (name, value) :: given.options }

/-- The value of an option that stands once. -/
def one? (given : Given) (name : String) : Option String := given.options.lookup name

/-- Whether a flag stands. -/
def has (given : Given) (name : String) : Bool := (given.one? name).isSome

/-- All values of an option that takes a list. -/
def all (given : Given) (name : String) : List (List Char) :=
  (given.options.filter fun option => option.1 = name).flatMap fun option =>
    option.2.toList.splitOn ','

end Given

/-! ## Sorting arguments -/

/-- The options of a command. -/
abbrev OptionForms := List (String × OptionKind)

/-- Whether an argument cannot be a value: it begins with a dash and goes on. -/
def isOption (argument : String) : Bool :=
  match argument.toList with
  | '-' :: _ :: _ => true
  | _ => false

/-- The name of an option behind its dashes, and the value behind an equals sign. -/
def splitOption (text : List Char) : String × Option String :=
  let name := String.ofList (text.takeWhile (· ≠ '='))
  match text.dropWhile (· ≠ '=') with
  | _ :: value => (name, some (String.ofList value))
  | [] => (name, none)

/-- The flag that every command takes. -/
def verboseFlag : String := "verbose"

/-- Sorts arguments into values and options. -/
def OptionForms.read? (forms : OptionForms) : List String → Option Given
  | [] => some .nothing
  | argument :: rest =>
    match argument.toList with
    | ['-', '-'] => some ⟨rest, []⟩
    | '-' :: '-' :: text => do
      let (name, value) := splitOption text
      match ← forms.lookup name, value with
      | .flag, none => (← forms.read? rest).addOption? name .flag ""
      | .flag, some _ => none
      | kind, some value => (← forms.read? rest).addOption? name kind value
      | kind, none =>
        match rest with
        | [] => none
        | value :: later =>
          if isOption value then none else (← forms.read? later).addOption? name kind value
    | ['-', 'v'] => do (← forms.read? rest).addOption? verboseFlag .flag ""
    | '-' :: _ :: _ => none
    | _ => (forms.read? rest).map (·.addValue argument)

/-! ## Commands -/

/-- A number of 32 bits, after at most one sign. -/
def number32? (text : List Char) : Option Nat := do
  let n ← Decimal.signed? text
  if 0 ≤ n ∧ n < pow2 32 then some n.toNat else none

/-- The options of the command of a name. -/
def Command.forms? (name : String) : Option OptionForms :=
  ([("encode-price", []),
    ("decode-price", [("digits", .single)]),
    ("encode-path", [("tokens", .list), ("fees", .list), ("exact-input", .flag)]),
    ("decode-path", [("exact-input", .flag)]),
    ("size-position", [("token", .single), ("other", .single), ("fee", .single),
      ("amount", .single), ("width", .single)]),
    ("provision", [])] : List (String × OptionForms)).lookup name

/-- The command of a name and its arguments. -/
def Command.ofGiven? (name : String) (given : Given) : Option Command := do
  let single (option : String) := (given.one? option).map String.toList
  let list (option : String) : Option (List (List Char)) :=
    (some (given.all option)).filter (· ≠ [])
  let trade := TradeType.ofExactInput (given.has "exact-input")
  match name, given.values with
  | "encode-price", [reserve1, reserve0] => pure (.encodePrice reserve1 reserve0)
  | "decode-price", [sqrtPrice] =>
    pure (.decodePrice sqrtPrice
      (← ((single "digits").map (Numeral.natural? (pow2 64))).getD (some 15)))
  | "encode-path", [] =>
    pure (.encodePath (← (← list "tokens").mapM Address.ofHex?)
      (← (← list "fees").mapM number32?) trade)
  | "decode-path", [path] => pure (.decodePath path trade)
  | "size-position", [] =>
    pure (.sizePosition (← Address.ofHex? (← single "token"))
      (← Address.ofHex? (← single "other")) (← number32? (← single "fee"))
      (← given.one? "amount") (← number32? (← single "width")))
  | "provision", [batch] => if batch = "" then none else pure (.provision batch)
  | _, _ => none

/-- A command, and whether it is to tell more of what it does. -/
structure Invocation where
  verbose : Bool
  command : Command
deriving DecidableEq

namespace Invocation

/-- The invocation of a command behind the options that stand before it. -/
def ofCommand? (verbose : Bool) : List String → Option Invocation
  | [] => none
  | name :: rest => do
    if name ∈ ["-V", "--version"] then return ⟨verbose, .version⟩
    let forms ← Command.forms? name
    let given ← OptionForms.read? ((verboseFlag, .flag) :: forms) rest
    pure ⟨verbose || given.has verboseFlag, ← Command.ofGiven? name given⟩

/-- The invocation of arguments. -/
def ofArguments? : List String → Option Invocation
  | [] => none
  | first :: rest =>
    if first ∈ ["-v", "--verbose"] then ofCommand? true rest else ofCommand? false (first :: rest)

end Invocation

end Tickwise
