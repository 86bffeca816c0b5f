import Tickwise.Domain
import Tickwise.Power
import Tickwise.Text.Hex

/-!
# Endpoints

The address of a node is an absolute URL. It begins with a scheme; the usual schemes, and any
other before two strokes, go on with a host and perhaps a port, and whatever follows those is
free.

* `Endpoint.isHost` — whether a text names a host, as a domain or by number;
* `Endpoint.isAbsolute` — whether a text is an absolute URL.
-/

namespace Tickwise.Endpoint

/-! ## Hosts by number -/

/-- The base that a number is marked with, and its digits. -/
def splitBase : List Char → Nat × List Char
  | '0' :: 'x' :: digits => (16, digits)
  | '0' :: 'X' :: digits => (16, digits)
  | '0' :: d :: digits => (8, d :: digits)
  | digits => (10, digits)

/-- A number of a host; no digits after the mark of its base are zero. -/
def number? (text : List Char) : Option Nat :=
  let (base, digits) := splitBase text
  if text = [] then none
  else digits.foldlM
    (fun n c => ((Hex.value? c).filter (· < base)).map (base * n + ·)) 0

/-- The parts of a host between its points; a last point ends the last part. -/
def parts (host : List Char) : List (List Char) :=
  let parts := host.splitOn '.'
  if parts.getLast? = some [] then parts.dropLast else parts

/-- Whether a host has to be a number, which it has if its last part is one. -/
def endsInNumber (host : List Char) : Bool :=
  match (parts host).getLast? with
  | none | some [] => false
  | some last => last.all Char.isDigit || (number? last).isSome

/-- Whether numbers of at most one byte, and a last one for all bytes that are left, make an
address of four bytes. -/
def fitsFourBytes : (left : Nat) → List Nat → Bool
  | 0, _ | _, [] => false
  | left, [last] => last < pow2 (8 * left)
  | left + 1, byte :: rest => byte < 256 && fitsFourBytes left rest

/-- Whether a host is an address of four bytes. -/
def isNumberedHost (host : List Char) : Bool :=
  ((parts host).mapM number?).any (fitsFourBytes 4)

/-- Whether a text is a byte in decimal without leading zeros. -/
def isByte (text : List Char) : Bool :=
  text ≠ [] && text.all Char.isDigit && Nat.ofDigitChars 10 text 0 < 256 &&
    (text.length = 1 || text.head? ≠ some '0')

/-- The count of groups of sixteen bits; the last two may be written as four bytes. -/
def groups? : List (List Char) → Option Nat
  | [] => some 0
  | [last] =>
    let bytes := last.splitOn '.'
    if bytes.length = 4 ∧ bytes.all isByte then some 2
    else if isGroup last then some 1 else none
  | group :: rest => if isGroup group then (groups? rest).map (· + 1) else none
where
  isGroup (text : List Char) : Bool :=
    text ≠ [] && text.length ≤ 4 && text.all fun c => (Hex.value? c).isSome

/-- The text before the first two colons in a row, and the text after them. -/
def splitGap? : List Char → Option (List Char × List Char)
  | ':' :: ':' :: rest => some ([], rest)
  | c :: rest => (splitGap? rest).map fun (first, second) => (c :: first, second)
  | [] => none

/-- The groups between colons; an empty text has none. -/
def colonGroups (text : List Char) : List (List Char) :=
  if text = [] then [] else text.splitOn ':'

/-- Whether a text is an address of eight groups, of which two colons may leave out a run. -/
def isGroupedHost (text : List Char) : Bool :=
  match splitGap? text with
  | none => groups? (colonGroups text) = some 8
  | some (first, second) =>
    let count := do
      guard (first.all (· ≠ '.'))
      return (← groups? (colonGroups first)) + (← groups? (colonGroups second))
    count.any (· < 8)

/-! ## Hosts -/

/-- Whether a character cannot stand in a host. -/
def isForbidden (c : Char) : Bool :=
  c ∈ "\x00\t\n\r #/:<>?@[\\]^|".toList

/-- The bytes of a text in which a byte may be written as `%` and two digits. -/
def unescaped : List Char → List UInt8
  | '%' :: h :: l :: rest =>
    match Hex.value? h, Hex.value? l with
    | some high, some low => UInt8.ofNat (16 * high + low) :: unescaped rest
    | _, _ => String.utf8EncodeChar '%' ++ unescaped (h :: l :: rest)
  | c :: rest => String.utf8EncodeChar c ++ unescaped rest
  | [] => []

/-- Whether a text in brackets is an address of eight groups. -/
def isBracketed (host : List Char) : Bool :=
  host.getLast? = some ']' && isGroupedHost (host.drop 1).dropLast

/-- The domain that a text names, whose bytes have to be those of a text. -/
def domain? (host : List Char) : Option (List Char) := do
  let text ← String.fromUTF8? ⟨(unescaped host).toArray⟩
  Domain.ofText? text.toList

/-- Whether a text names a host of a usual scheme. -/
def isHost (host : List Char) : Bool :=
  if host.head? = some '[' then isBracketed host
  else (domain? host).any fun domain =>
    domain ≠ [] && (!endsInNumber domain || isNumberedHost domain)

/-- Whether a text names a host of any other scheme. -/
def isOtherHost (host : List Char) : Bool :=
  if host.head? = some '[' then isBracketed host else !host.any isForbidden

/-! ## Absolute URLs -/

/-- What a scheme is followed by. -/
inductive Scheme where
  /-- A host, behind any count of strokes. -/
  | usual
  /-- A file, on a host or not. -/
  | file
  /-- A host behind two strokes, or anything. -/
  | other
deriving DecidableEq

/-- The kind of a scheme in lower case. -/
def Scheme.ofName (name : List Char) : Scheme :=
  if String.ofList name ∈ ["http", "https", "ws", "wss", "ftp"] then .usual
  else if name = "file".toList then .file
  else .other

/-- The scheme of a text, and what follows its colon. -/
def scheme? (text : List Char) : Option (Scheme × List Char) := do
  let isInScheme (c : Char) := c.isAlphanum || c ∈ ['+', '-', '.']
  guard (text.head?.any Char.isAlpha)
  match text.dropWhile isInScheme with
  | ':' :: rest => pure (.ofName ((text.takeWhile isInScheme).map Char.toLower), rest)
  | _ => none

/-- Whether a character is a stroke, in either direction with a usual scheme. -/
def isStroke (scheme : Scheme) (c : Char) : Bool :=
  c = '/' || (scheme ≠ .other && c = '\\')

/-- Whether a character ends host and port. -/
def endsAuthority (scheme : Scheme) (c : Char) : Bool := isStroke scheme c || c = '?' || c = '#'

/-- The user before the last `@` of a text, if there is one, and what follows it. -/
def splitUser (text : List Char) : Option (List Char) × List Char :=
  if '@' ∈ text then
    let rest := (text.reverse.takeWhile (· ≠ '@')).reverse
    (some (text.take (text.length - rest.length - 1)), rest)
  else (none, text)

/-- The host of a text, up to the first colon outside brackets, and what follows it. -/
def splitHost : (inBrackets : Bool) → List Char → List Char × List Char
  | _, [] => ([], [])
  | false, ':' :: rest => ([], ':' :: rest)
  | inBrackets, c :: rest =>
    let (host, tail) := splitHost (c = '[' || (inBrackets && c ≠ ']')) rest
    (c :: host, tail)

/-- Whether a text is a port behind a colon, which may be left out. A stroke to the left ends
it with any scheme. -/
def isPort : List Char → Bool
  | ':' :: text =>
    Nat.ofDigitChars 10 (text.takeWhile Char.isDigit) 0 < pow2 16 &&
      (text.dropWhile Char.isDigit).head?.all (· = '\\')
  | tail => tail = []

/-- Whether the host may be left out behind a user, with a scheme of another kind: behind no
user at all, behind one without name and password, or where the URL ends behind the `@`. -/
def mayLackHost (isLast : Bool) : (user : Option (List Char)) → Bool
  | none | some [':'] => true
  | some [] => isLast
  | some _ => false

/-- Whether a text is a host and perhaps a port, perhaps behind a user. -/
def isAuthority (scheme : Scheme) (isLast : Bool) (text : List Char) : Bool :=
  let (user, address) := splitUser text
  let (host, port) := splitHost false address
  if scheme = .other then
    if host = [] then port = [] && mayLackHost isLast user else isOtherHost host && isPort port
  else isHost host && isPort port

/-- Whether a text is a drive and not the host of a file. -/
def isDrive : List Char → Bool
  | [letter, mark] => letter.isAlpha && (mark = ':' || mark = '|')
  | _ => false

/-- What a text begins with up to the end of host and port. -/
def authority (scheme : Scheme) (text : List Char) : List Char :=
  text.takeWhile (!endsAuthority scheme ·)

/-- Whether a text begins with a host and perhaps a port, perhaps behind a user. -/
def beginsWithAuthority (scheme : Scheme) (text : List Char) : Bool :=
  let start := authority scheme text
  isAuthority scheme (start = text) start

/-- Whether what follows a scheme is what it has to be followed by. -/
def isRest : Scheme → List Char → Bool
  | .usual, rest => beginsWithAuthority .usual (rest.dropWhile (isStroke .usual))
  | .other, '/' :: '/' :: text => beginsWithAuthority .other text
  | .other, _ => true
  | .file, a :: b :: text =>
    let host := authority .file text
    !(isStroke .file a && isStroke .file b) || host = [] || isDrive host || isHost host
  | .file, _ => true

/-- Whether a text is an absolute URL. Controls and spaces at its ends are ignored, and so are
tabs and line ends within. -/
def isAbsolute (text : List Char) : Bool :=
  let isEdge (c : Char) := c.toNat ≤ 0x20
  let trimmed := ((text.dropWhile isEdge).reverse.dropWhile isEdge).reverse
  (scheme? (trimmed.filter (· ∉ ['\t', '\n', '\r']))).any fun (scheme, rest) => isRest scheme rest

end Tickwise.Endpoint
