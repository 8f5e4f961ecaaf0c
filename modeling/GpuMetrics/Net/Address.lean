import GpuMetrics.Text.Digits

/-!
# Socket addresses

An address to listen on: four octets and a port, or eight groups of sixteen bits, an optional
scope and a port. The readers take their part from the front of a text and leave the rest.
-/

namespace GpuMetrics.Net

/-- An address with a port. -/
inductive SocketAddress where
  | v4 (octets : List UInt8) (port : UInt16)
  | v6 (groups : List UInt16) (scope : UInt32) (port : UInt16)
  deriving DecidableEq, Repr

/-- A reader takes something from the front of a text. -/
abbrev Reader (α : Type) := List Char → Option (α × List Char)

/-- Takes one given character. -/
def readChar (c : Char) : Reader Unit
  | d :: rest => if d = c then some ((), rest) else none
  | [] => none

/-- Takes a decimal number below `bound`. -/
def readDecimal (bound : Nat) : Reader Nat := fun text =>
  let digits := text.takeWhile Char.isDigit
  let n := Text.natOfDigits digits
  if digits = [] ∨ bound ≤ n then none else some (n, text.dropWhile Char.isDigit)

/-- Takes an octet: at most three digits, no zero before others. -/
def readOctet : Reader UInt8 := fun text =>
  let digits := text.takeWhile Char.isDigit
  let n := Text.natOfDigits digits
  if digits = [] ∨ 3 < digits.length ∨ 256 ≤ n ∨ (digits.head? = some '0' ∧ digits.length ≠ 1) then
    none
  else some (UInt8.ofNat n, text.dropWhile Char.isDigit)

/-- Takes four octets with points between them. -/
def readOctets : Reader (List UInt8) := fun text => do
  let (a, text) ← readOctet text
  let ((), text) ← readChar '.' text
  let (b, text) ← readOctet text
  let ((), text) ← readChar '.' text
  let (c, text) ← readOctet text
  let ((), text) ← readChar '.' text
  let (d, text) ← readOctet text
  return ([a, b, c, d], text)

/-- Takes a group: at most four hexadecimal digits. -/
def readGroup : Reader UInt16 := fun text =>
  let digits := text.takeWhile Text.isHexDigit
  if digits = [] ∨ 4 < digits.length then none
  else
    some (UInt16.ofNat (Text.natOfHexDigits digits), text.dropWhile Text.isHexDigit)

/-- The two groups that four octets make. -/
def groupsOfOctets : List UInt8 → List UInt16
  | [a, b, c, d] =>
    [UInt16.ofNat (a.toNat * 256 + b.toNat), UInt16.ofNat (c.toNat * 256 + d.toNat)]
  | _ => []

/-- Takes at most `room` groups with colons between them; `isFirst` tells whether the next group
is the first. Four octets may stand for the last two groups, and the answer says whether they
do. -/
def readGroups (isFirst : Bool) : (room : Nat) → List Char → (List UInt16 × Bool) × List Char
  | 0, text => (([], false), text)
  | room + 1, text =>
    let afterColon := if isFirst then some text else (readChar ':' text).map (·.2)
    match afterColon with
    | none => (([], false), text)
    | some inner =>
      match if 0 < room then readOctets inner else none with
      | some (octets, rest) => ((groupsOfOctets octets, true), rest)
      | none =>
        match readGroup inner with
        | none => (([], false), text)
        | some (group, rest) =>
          let ((groups, embedded), left) := readGroups false room rest
          ((group :: groups, embedded), left)

/-- Takes eight groups, of which a run of zeros may be written as two colons. -/
def readSixteenByteAddress : Reader (List UInt16) := fun text =>
  let ((front, embedded), rest) := readGroups true 8 text
  if front.length = 8 then some (front, rest)
  else if embedded then none
  else
    match rest with
    | ':' :: ':' :: rest =>
      let ((back, _), rest) := readGroups true (8 - (front.length + 1)) rest
      some (front ++ List.replicate (8 - front.length - back.length) 0 ++ back, rest)
    | _ => none

/-- Takes a colon and a port. -/
def readPort : Reader UInt16 := fun text => do
  let ((), text) ← readChar ':' text
  let (n, text) ← readDecimal 65536 text
  return (UInt16.ofNat n, text)

/-- Takes a percent sign and the number of a scope, if they are there. -/
def readScope (text : List Char) : UInt32 × List Char :=
  match readChar '%' text with
  | none => (0, text)
  | some ((), rest) =>
    match readDecimal 0x100000000 rest with
    | none => (0, text)
    | some (n, rest) => (UInt32.ofNat n, rest)

/-- Takes an address of four octets with its port. -/
def readV4 : Reader SocketAddress := fun text => do
  let (octets, text) ← readOctets text
  let (port, text) ← readPort text
  return (.v4 octets port, text)

/-- Takes an address of eight groups in brackets with its port. -/
def readV6 : Reader SocketAddress := fun text => do
  let ((), text) ← readChar '[' text
  let (groups, text) ← readSixteenByteAddress text
  let (scope, text) := readScope text
  let ((), text) ← readChar ']' text
  let (port, text) ← readPort text
  return (.v6 groups scope port, text)

/-- The address that a text denotes. -/
def SocketAddress.ofText? (text : String) : Option SocketAddress :=
  match (readV4 text.toList).orElse fun _ => readV6 text.toList with
  | some (address, []) => some address
  | _ => none

/-- The port of an address. -/
def SocketAddress.port : SocketAddress → UInt16
  | .v4 _ port => port
  | .v6 _ _ port => port

/-! ### Writing addresses -/

/-- Octets with points between them. -/
def octetsText (octets : List UInt8) : String :=
  String.intercalate "." (octets.map fun o => toString o.toNat)

/-- Groups in hexadecimal with colons between them. -/
def groupsText (groups : List UInt16) : String :=
  String.intercalate ":" (groups.map fun g => String.ofList (Text.hexDigits g.toNat))

/-- The length of the run of zeros at the front. -/
def zeroRun (groups : List UInt16) : Nat := (groups.takeWhile (· == 0)).length

/-- The place and the length of the first longest run of zeros. -/
def longestZeroRun (groups : List UInt16) : Nat × Nat :=
  (List.range groups.length).foldl
    (fun best i => let run := zeroRun (groups.drop i); if best.2 < run then (i, run) else best)
    (0, 0)

/-- Eight groups in their shortest form: the longest run of zeros, if it is longer than one, as
two colons; addresses that stand for four octets with those octets. -/
def sixteenByteText (groups : List UInt16) : String :=
  match groups with
  | [0, 0, 0, 0, 0, 0xffff, a, b] =>
    "::ffff:" ++ octetsText
      [UInt8.ofNat (a.toNat / 256), UInt8.ofNat (a.toNat % 256), UInt8.ofNat (b.toNat / 256),
       UInt8.ofNat (b.toNat % 256)]
  | _ =>
    let (start, run) := longestZeroRun groups
    if 1 < run then groupsText (groups.take start) ++ "::" ++ groupsText (groups.drop (start + run))
    else groupsText groups

/-- The text of an address with something in place of its port. -/
def SocketAddress.textWithPort (port : String) : SocketAddress → String
  | .v4 octets _ => octetsText octets ++ ":" ++ port
  | .v6 groups scope _ =>
    "[" ++ sixteenByteText groups ++ (if scope = 0 then "" else "%" ++ toString scope.toNat) ++
      "]:" ++ port

/-- The text of an address. -/
def SocketAddress.text (a : SocketAddress) : String := a.textWithPort (toString a.port.toNat)

end GpuMetrics.Net
