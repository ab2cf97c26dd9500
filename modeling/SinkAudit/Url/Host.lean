import SinkAudit.Url.Basic
import SinkAudit.Url.Domain

/-!
# Hosts

A host is an address of four numbers, an address of eight groups in brackets, or a name.  A name
whose last label is a number has to be an address of the first kind.
-/

namespace SinkAudit.Host

/-! ## Four numbers -/

/-- A number in an address: decimal, with `0x` hexadecimal, with a leading zero octal. -/
def number? (cs : List Char) : Option Nat :=
  let value (base : Nat) (ds : List Char) : Option Nat :=
    if ds.all (Text.isDigitOf base) then some (Text.numeral base ds) else none
  match cs with
  | [] => none
  | '0' :: 'x' :: r => value 16 r
  | '0' :: 'X' :: r => value 16 r
  | ['0'] => some 0
  | '0' :: r => value 8 r
  | cs => value 10 cs

/-- Whether the last label of a name, or the one before an empty last label, is a number. -/
def endsInNumber (labels : List (List Char)) : Bool :=
  let check (cs : List Char) : Bool :=
    (!cs.isEmpty && cs.all Text.isDecimal) || (number? cs).isSome
  match labels.reverse with
  | [] => false
  | [] :: [] => false
  | [] :: cs :: _ => check cs
  | cs :: _ => check cs

/-- The numbers of all labels. -/
def numbers? : List (List Char) → Option (List Nat)
  | [] => some []
  | cs :: r =>
    match number? cs, numbers? r with
    | some n, some ns => some (n :: ns)
    | _, _ => none

/-- The address with the given numbers, the last of which fills all remaining bytes. -/
def address? (ns : List Nat) : Option Nat :=
  match ns.getLast? with
  | none => none
  | some last =>
    let front := ns.dropLast
    if 4 < ns.length || front.any (255 < ·) || Nat.pow 256 (4 - front.length) ≤ last then none
    else some (front.foldl (fun a n => a * 256 + n) 0 * Nat.pow 256 (4 - front.length) + last)

/-- The address of four numbers that labels are. -/
def ipv4? (labels : List (List Char)) : Option Nat :=
  let labels := if labels.getLast? == some [] then labels.dropLast else labels
  (numbers? labels).bind address?

/-! ## Eight groups -/

/-- Whether the rest is a decimal number of at most 255 without a needless zero. -/
def isByte (cs : List Char) : Bool :=
  !cs.isEmpty && cs.all Text.isDecimal && (cs.length == 1 || cs.head? != some '0') &&
    cs.length ≤ 3 && Text.numeral 10 cs ≤ 255

/-- Whether the characters are four numbers between dots. -/
def isDottedQuad (cs : List Char) : Bool :=
  let ls := Domain.labels [] cs
  ls.length == 4 && ls.all isByte

/-- Whether the characters are the rest of an address, after `groups` of its eight groups;
`gap` says that a run of zero groups has been left out already. -/
def isGroups : Nat → Nat → Bool → List Char → Bool
  | 0, _, _, _ => false
  | _, groups, gap, [] => gap || groups == 8
  | fuel + 1, groups, gap, c :: r =>
    if groups == 8 then false
    else if c == ':' then !gap && isGroups fuel (groups + 1) true r
    else
      let ds := ((c :: r).take 4).takeWhile (Text.isDigitOf 16)
      match (c :: r).drop ds.length with
      | [] => isGroups fuel (groups + 1) gap []
      | ':' :: rest => !rest.isEmpty && isGroups fuel (groups + 1) gap rest
      | '.' :: _ =>
        !ds.isEmpty && groups ≤ 6 && isDottedQuad (c :: r) && (gap || groups == 6)
      | _ => false

/-- Whether the characters between brackets are an address. -/
def isIpv6 (cs : List Char) : Bool :=
  match cs with
  | [] => false
  | [_] => false
  | ':' :: ':' :: r => isGroups (r.length + 2) 1 true r
  | ':' :: _ => false
  | cs => isGroups (cs.length + 2) 0 false cs

/-- The address in brackets that a text is. -/
def bracketed (cs : List Char) : Except UrlFault Host :=
  match cs.getLast? with
  | some ']' => if isIpv6 (cs.drop 1).dropLast then .ok .ipv6 else .error .invalidIpv6
  | _ => .error .invalidIpv6

/-! ## Hosts -/

/-- The host of an address that is used on the web. -/
def parse (cs : List Char) : Except UrlFault Host :=
  if cs.head? == some '[' then bracketed cs
  else
    match Domain.name? (String.ofList cs) with
    | none => .error .invalidDomainName
    | some [] => .error .emptyHost
    | some d =>
      let labels := Domain.labels [] d
      if endsInNumber labels then
        match ipv4? labels with
        | some a => .ok (.ipv4 a)
        | none => .error .invalidIpv4
      else .ok (.name (String.ofList d))

/-- The characters that stand in no host of any address. -/
def isForbidden (c : Char) : Bool :=
  "\x00\t\n\r #/:<>?@[\\]^|".toList.contains c

/-- The host of an address of another kind, whose meaning is not known. -/
def parseOther (cs : List Char) : Except UrlFault Host :=
  if cs.head? == some '[' then bracketed cs
  else if cs.any isForbidden then .error .invalidDomainChar
  else .ok (if cs.isEmpty then .absent else .name (String.ofList cs))

end SinkAudit.Host
