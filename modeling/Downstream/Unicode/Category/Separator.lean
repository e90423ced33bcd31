import Downstream.Unicode.Ranges

/-!
# General categories: separators

Code points by general category, Unicode 16.0.
-/

namespace Downstream.Unicode

/-- Spaces (Zs). -/
def spaceSeparator : Ranges :=
  [(0x20, 0x20), (0xA0, 0xA0), (0x1680, 0x1680), (0x2000, 0x200A), (0x202F, 0x202F),
   (0x205F, 0x205F), (0x3000, 0x3000)]

/-- The line separator (Zl). -/
def lineSeparator : Ranges :=
  [(0x2028, 0x2028)]

/-- The paragraph separator (Zp). -/
def paragraphSeparator : Ranges :=
  [(0x2029, 0x2029)]

end Downstream.Unicode
