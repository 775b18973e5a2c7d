import PageConfig.Text.Category
import PageConfig.Text.Ranges

/-!
# Character classes

Word characters, decimal digits and printable characters, by general category.
-/

set_option autoImplicit false

namespace PageConfig

/-- Word characters that their category does not show: joiners and enclosed letters. -/
def wordExtras : List (Nat × Nat) :=
  [(0x200c, 0x200d), (0x24b6, 0x24e9), (0x1f130, 0x1f149), (0x1f150, 0x1f169), (0x1f170, 0x1f189)]

def isAsciiWord (c : Char) : Bool := c.isAlphanum || c = '_'

def isLetter (c : Char) : Bool :=
  if c.toNat < 0x80 then c.isAlpha
  else "L".isPrefixOf (category c) || category c = "Nl"

def isWord (c : Char) : Bool :=
  if c.toNat < 0x80 then isAsciiWord c
  else
    let k := category c
    "L".isPrefixOf k || "M".isPrefixOf k || k = "Nd" || k = "Nl" || k = "Pc" ||
      inRanges wordExtras c

def isDecimalDigit (c : Char) : Bool :=
  if c.toNat < 0x80 then c.isDigit else category c = "Nd"

/-- Characters that extend the one before them, beyond the nonspacing marks. -/
def extenderRanges : List (Nat × Nat) :=
  [(0x9be, 0x9be), (0x9d7, 0x9d7), (0xb3e, 0xb3e), (0xb57, 0xb57), (0xbbe, 0xbbe), (0xbd7, 0xbd7),
    (0xcc0, 0xcc0), (0xcc2, 0xcc2), (0xcc7, 0xcc8), (0xcca, 0xccb), (0xcd5, 0xcd6), (0xd3e, 0xd3e),
    (0xd57, 0xd57), (0xdcf, 0xdcf), (0xddf, 0xddf), (0x1715, 0x1715), (0x1734, 0x1734),
    (0x1b35, 0x1b35), (0x1b3b, 0x1b3b), (0x1b3d, 0x1b3d), (0x1b43, 0x1b44), (0x1baa, 0x1baa),
    (0x1bf2, 0x1bf3), (0x200c, 0x200c), (0x302e, 0x302f), (0xa953, 0xa953), (0xa9c0, 0xa9c0),
    (0xff9e, 0xff9f), (0x111c0, 0x111c0), (0x11235, 0x11235), (0x1133e, 0x1133e),
    (0x1134d, 0x1134d), (0x11357, 0x11357), (0x113b8, 0x113b8), (0x113c2, 0x113c2),
    (0x113c5, 0x113c5), (0x113c7, 0x113c9), (0x113cf, 0x113cf), (0x114b0, 0x114b0),
    (0x114bd, 0x114bd), (0x115af, 0x115af), (0x116b6, 0x116b6), (0x11930, 0x11930),
    (0x1193d, 0x1193d), (0x11f41, 0x11f41), (0x16ff0, 0x16ff1), (0x1d165, 0x1d166),
    (0x1d16d, 0x1d172), (0xe0020, 0xe007f)]

/-- Whether a quoted text shows the character itself: it has a shape of its
own and does not attach to the character before it. -/
def isPrintable (c : Char) : Bool :=
  if c.toNat < 0x7f then 0x20 ≤ c.toNat
  else
    let k := category c
    !("C".isPrefixOf k || "Z".isPrefixOf k || k = "Mn" || k = "Me" || inRanges extenderRanges c)

end PageConfig
