import CameraGraph.Text.Case
import CameraGraph.Url.Label
import CameraGraph.Url.Percent
import CameraGraph.Url.Punycode

/-!
# CameraGraph.Url.Domain

International domain names in ASCII.

A name is mapped first: lower-cased, composed, look-alikes replaced, invisible characters dropped.
Each of its labels is then checked. A label beyond ASCII is written as `xn--` and its spelling in
Punycode; a label that is written so already has to be the spelling of one that would come out the
same. Nothing else depends on how a label is written, hyphens and length included.
-/

namespace CameraGraph.Url

/-- What a domain name may not hold once it is mapped. -/
def forbiddenInDomain (c : Char) : Bool :=
  c.toNat ≤ 0x20 || c.toNat == 0x7F ||
    ['%', '#', '/', ':', '<', '>', '?', '@', '[', '\\', ']', '^', '|'].contains c

/-- What a character is mapped to, or `none` if no name may hold it. -/
def mapDomainChar (c : Char) : Option (List Char) :=
  let n := c.toNat
  if n < 0x80 then some [c.toLower]
  else if domainIgnored.contains n then some []
  else match domainMapping.find? n with
    | some ns => some (ns.map Char.ofNat)
    | none => if domainRefused.contains n then none else some (Text.lowerChar c)

/-- A mapped name. -/
def mapDomain (cs : List Char) : Option (List Char) := do
  return Text.normal (← cs.mapM mapDomainChar).flatten

/-- Whether a text is all ASCII. -/
def isAscii (cs : List Char) : Bool := cs.all (·.toNat < 0x80)

/-- What a label spelled in Punycode starts with. -/
def punycodeMark : List Char := "xn--".toList

/-- The characters that a label stands for. A label in Punycode has to stand for something that needs
it, and that mapping leaves alone. -/
def labelText (label : List Char) : Option (List Char) :=
  if punycodeMark.isPrefixOf label then do
    let text ← Punycode.decode? (label.drop punycodeMark.length)
    if !isAscii text && mapDomain text = some text then some text else none
  else some label

/-- A label in ASCII. -/
def labelToAscii (text : List Char) : List Char :=
  if isAscii text then text else punycodeMark ++ Punycode.encode text

/-- The name that bytes stand for, in ASCII, or `none` if they are no name. -/
def domainToAscii? (bytes : List Nat) : Option (List Char) := do
  let mapped ← mapDomain (← Text.decodeUtf8 bytes)
  let labels ← (mapped.splitOn '.').mapM labelText
  if labels.all labelFits && (!labels.any runsRight || labels.all keepsDirection) &&
      !mapped.any forbiddenInDomain then
    return List.intercalate ['.'] (labels.map labelToAscii)
  else none

end CameraGraph.Url
