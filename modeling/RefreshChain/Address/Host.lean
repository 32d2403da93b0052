import RefreshChain.Address.Ip
import RefreshChain.Address.Punycode
import RefreshChain.Text.Combining
import RefreshChain.Text.Percent

/-!
# Hosts

Which texts may stand as the host of an address.

* `Host.isOpaque`: for schemes in general, any text without certain characters.
* `Host.isDomain`: for the schemes of the web, a domain name or a numeric address. Percent signs are
  decoded first, and characters that stand for others are replaced.

A text in brackets has to be a numeric address of 16 bytes under both rules. What a domain name may
hold beyond ASCII is taken from the general category of a character; what its neighbours demand
of it is not looked at.
-/

namespace RefreshChain.Host

/-- Whether a bracket opens the text, and what stands in it if one closes it. -/
def bracketed? : List Char → Option (List Char)
  | '[' :: cs => if cs.getLast? = some ']' then some cs.dropLast else some []
  | _ => none

/-! ## Hosts in general -/

/-- The characters that no host contains. -/
def forbidden : List Char :=
  ['\x00', '\t', '\n', '\r', ' ', '#', '/', ':', '<', '>', '?', '@', '[', '\\', ']', '^', '|']

def isOpaque (cs : List Char) : Bool :=
  match bracketed? cs with
  | some inside => Ip.isV6 inside
  | none => !cs.any forbidden.contains

/-! ## Domain names -/

/-- Characters that are left out of a name: a hyphen that is not shown, and marks that only say how
their neighbours are shown. -/
def ignored : List (Nat × Nat) :=
  [(0xAD, 0xAD), (0x34F, 0x34F), (0x180B, 0x180D), (0x180F, 0x180F), (0x200B, 0x200B),
   (0x2060, 0x2060), (0x2064, 0x2064), (0xFE00, 0xFE0F), (0xFEFF, 0xFEFF), (0x1BCA0, 0x1BCA3),
   (0xE0100, 0xE01EF)]

/-- Printable characters of which a part stands for an ASCII character that no domain name holds. -/
def compounds : List (Nat × Nat) :=
  [(0xA8, 0xA8), (0xAF, 0xAF), (0xB4, 0xB4), (0xB8, 0xB8), (0x2D8, 0x2DD), (0x37A, 0x37A),
   (0x384, 0x385), (0x1FBD, 0x1FBD), (0x1FBF, 0x1FC1), (0x1FCD, 0x1FCF), (0x1FDD, 0x1FDF),
   (0x1FED, 0x1FEE), (0x1FFD, 0x1FFE), (0x2017, 0x2017), (0x203E, 0x203E), (0x2047, 0x2049),
   (0x2100, 0x2101), (0x2105, 0x2106), (0x2A74, 0x2A74), (0x309B, 0x309C), (0xFC5E, 0xFC63),
   (0xFDFA, 0xFDFB), (0xFE13, 0xFE13), (0xFE16, 0xFE16), (0xFE47, 0xFE4C), (0xFE55, 0xFE56),
   (0xFE5F, 0xFE5F), (0xFE64, 0xFE65), (0xFE68, 0xFE68), (0xFE6A, 0xFE6B), (0xFE70, 0xFE70),
   (0xFE72, 0xFE72), (0xFE74, 0xFE74), (0xFE76, 0xFE76), (0xFE78, 0xFE78), (0xFE7A, 0xFE7A),
   (0xFE7C, 0xFE7C), (0xFE7E, 0xFE7E), (0xFFE3, 0xFFE3)]

/-- What a character of a name stands for: wide forms of ASCII characters for these, three full
stops for a point, and capital letters of ASCII for small ones. -/
def plain (c : Char) : List Char :=
  if Text.inRanges ignored c.toNat then []
  else if c = '\u3002' ∨ c = '\uff61' then ['.']
  else if '\uff01' ≤ c ∧ c ≤ '\uff5e' then [(Char.ofNat (c.toNat - 0xFEE0)).toLower]
  else [c.toLower]

/-- Whether a character may stand in a domain name. -/
def isDomainChar (c : Char) : Bool :=
  if c.toNat < 0x80 then 0x20 < c.toNat && c.toNat < 0x7F && c ≠ '%' && !forbidden.contains c
  else c ≠ Utf8.replacement && !Text.isUnprintable c && !Text.inRanges compounds c.toNat

/-- Whether a part of a name may have the given characters beyond ASCII. -/
def isLabel (cs : List Char) : Bool := cs.all isDomainChar && !cs.head?.any Text.isCombining

/-- Whether the ASCII form of a part of a name, if it is one, can be read and is needed. -/
def isReadable (cs : List Char) : Bool :=
  match cs with
  | 'x' :: 'n' :: '-' :: '-' :: code =>
    match Punycode.decode? code with
    | none => false
    | some label => label.any (0x80 ≤ ·.toNat) && isLabel label && label.flatMap plain = label
  | _ => true

def isDomain (cs : List Char) : Bool :=
  match bracketed? cs with
  | some inside => Ip.isV6 inside
  | none =>
    let name := (Utf8.decodeLossy (Percent.bytes (String.ofList cs))).toList.flatMap plain
    let labels := Ip.fields "." name
    name ≠ [] && labels.all isLabel && labels.all isReadable
      && (!Ip.endsInNumber name || Ip.isV4 name)

end RefreshChain.Host
